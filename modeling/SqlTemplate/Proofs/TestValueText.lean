import SqlTemplate.Proofs.Success
import SqlTemplate.Template.TestValue

namespace SqlTemplate.TestValue

theorem literalRest?_append {cs : List Char} {r : List Char × List Char}
    (h : literalRest? cs = some r) : cs = r.1 ++ r.2 ∧
      ∀ rest, rest.head? ≠ some '\'' → literalRest? (r.1 ++ rest) = some (r.1, rest) := by
  fun_induction literalRest? cs generalizing r with
  | case1 cs ih =>
    obtain ⟨u, hu, rfl⟩ := Option.map_eq_some_iff.1 h
    obtain ⟨rfl, hrest⟩ := ih hu
    refine ⟨rfl, ?_⟩
    intro rest hquote
    exact (literalRest?.eq_1 (u.1 ++ rest)).trans (congrArg _ (hrest rest hquote))
  | case2 cs _ =>
    cases h
    refine ⟨rfl, ?_⟩
    intro rest hquote
    apply literalRest?.eq_2
    rintro ds rfl
    exact hquote rfl
  | case3 c cs _ hc ih =>
    obtain ⟨u, hu, rfl⟩ := Option.map_eq_some_iff.1 h
    obtain ⟨rfl, hrest⟩ := ih hu
    refine ⟨rfl, ?_⟩
    intro rest hquote
    exact (literalRest?.eq_3 c _ (fun _ h => absurd h hc) hc).trans (congrArg _ (hrest rest hquote))
  | case4 => cases h

theorem groupRest_append {start : List Char} {depth : Nat} {quote : Option (List Char)}
    {cs : List Char} {r : List Char × List Char} (h : groupRest start depth quote cs = .ok r) :
    cs = r.1 ++ r.2 ∧ ∀ start' quote' rest, quote'.isSome = quote.isSome →
      groupRest start' depth quote' (r.1 ++ rest) = .ok (r.1, rest) := by
  have opened : ∀ {quote' : Option (List Char)} {q : List Char},
      quote'.isSome = (some q).isSome → ∃ p, quote' = some p := by
    intro quote' q hq
    exact Option.isSome_iff_exists.mp hq
  have closed : ∀ {quote' : Option (List Char)},
      quote'.isSome = (none : Option (List Char)).isSome → quote' = none := by
    intro quote' hq
    simpa using hq
  fun_induction groupRest start depth quote cs generalizing r with
  | case1 => cases h
  | case2 depth quote cs ih =>
    obtain ⟨u, hu, rfl⟩ := exists_of_map_eq_ok h
    obtain ⟨rfl, hrest⟩ := ih hu
    refine ⟨rfl, ?_⟩
    intro start' quote' rest hquote
    obtain ⟨q, rfl⟩ := opened hquote
    exact (groupRest.eq_2 start' depth q _).trans (congrArg _ (hrest start' (some q) rest rfl))
  | case3 depth quote cs hsecond ih =>
    obtain ⟨u, hu, rfl⟩ := exists_of_map_eq_ok h
    have hlength := length_groupRest hu
    obtain ⟨rfl, hrest⟩ := ih hu
    refine ⟨rfl, ?_⟩
    intro start' quote' rest hquote
    obtain ⟨q, rfl⟩ := opened hquote
    have hsecond' : ∀ ds, u.1 ++ rest = '\'' :: ds → False := by
      intro ds hds
      cases hu1 : u.1 with
      | nil => simp [hu1] at hlength
      | cons d text =>
        rw [hu1, List.cons_append, List.cons.injEq] at hds
        exact hsecond (text ++ u.2) (by rw [hu1, hds.1, List.cons_append])
    exact (groupRest.eq_3 start' depth q _ hsecond').trans
      (congrArg _ (hrest start' none rest rfl))
  | case4 depth quote c cs _ hc ih =>
    obtain ⟨u, hu, rfl⟩ := exists_of_map_eq_ok h
    obtain ⟨rfl, hrest⟩ := ih hu
    refine ⟨rfl, ?_⟩
    intro start' quote' rest hquote
    obtain ⟨q, rfl⟩ := opened hquote
    exact (groupRest.eq_4 start' depth q c _ (fun _ h => absurd h hc) hc).trans
      (congrArg _ (hrest start' (some q) rest rfl))
  | case5 depth cs ih =>
    obtain ⟨u, hu, rfl⟩ := exists_of_map_eq_ok h
    obtain ⟨rfl, hrest⟩ := ih hu
    refine ⟨rfl, ?_⟩
    intro start' quote' rest hquote
    rw [closed hquote]
    exact (groupRest.eq_5 start' depth (u.1 ++ rest)).trans
      (congrArg _ (hrest start' (some ('\'' :: (u.1 ++ rest))) rest rfl))
  | case6 depth cs ih =>
    obtain ⟨u, hu, rfl⟩ := exists_of_map_eq_ok h
    obtain ⟨rfl, hrest⟩ := ih hu
    refine ⟨rfl, ?_⟩
    intro start' quote' rest hquote
    rw [closed hquote]
    exact (groupRest.eq_6 start' depth _).trans (congrArg _ (hrest start' none rest rfl))
  | case7 cs =>
    cases h
    refine ⟨rfl, ?_⟩
    intro start' quote' rest hquote
    rw [closed hquote]
    exact groupRest.eq_7 start' rest
  | case8 depth cs ih =>
    obtain ⟨u, hu, rfl⟩ := exists_of_map_eq_ok h
    obtain ⟨rfl, hrest⟩ := ih hu
    refine ⟨rfl, ?_⟩
    intro start' quote' rest hquote
    rw [closed hquote]
    exact (groupRest.eq_8 start' depth _).trans (congrArg _ (hrest start' none rest rfl))
  | case9 depth c cs hc hopen hend hclose ih =>
    obtain ⟨u, hu, rfl⟩ := exists_of_map_eq_ok h
    obtain ⟨rfl, hrest⟩ := ih hu
    refine ⟨rfl, ?_⟩
    intro start' quote' rest hquote
    rw [closed hquote]
    exact (groupRest.eq_9 start' depth c _ hc hopen hend hclose).trans
      (congrArg _ (hrest start' none rest rfl))

theorem endsBare_append {c : Char} {cs : List Char} (h : endsBare (c :: cs) = true)
    (rest : List Char) : endsBare (c :: (cs ++ rest)) = true := by
  rw [endsBare.eq_def] at h ⊢
  split at h
  · next heq =>
    cases heq
    rfl
  · next heq =>
    cases heq
    rfl
  · next heq =>
    cases heq
    split
    · rfl
    · rfl
    · next heq =>
      cases heq
      exact h
    · rfl
  · next heq => cases heq

theorem bare_append (cs : List Char) :
    cs = (bare cs).1 ++ (bare cs).2 ∧ bare (bare cs).1 = ((bare cs).1, []) := by
  fun_induction bare cs with
  | case1 => exact ⟨rfl, rfl⟩
  | case2 => exact ⟨rfl, rfl⟩
  | case3 c cs hends ih =>
    obtain ⟨hcs, hwhole⟩ := ih
    refine ⟨congrArg (c :: ·) hcs, ?_⟩
    have hends' : ¬endsBare (c :: (bare cs).1) = true := by
      intro h
      have happend := endsBare_append h (bare cs).2
      rw [← hcs] at happend
      exact hends happend
    exact (bare.eq_2 c _).trans ((if_neg hends').trans (congrArg _ hwhole))

theorem span_eq_ok {cs : List Char} {r : List Char × List Char} (h : span cs = .ok r) :
    cs = r.1 ++ r.2 ∧ span r.1 = .ok (r.1, []) := by
  unfold span at h
  split at h
  · next text =>
    split at h
    · next u hu =>
      cases h
      obtain ⟨rfl, hrest⟩ := literalRest?_append hu
      have hwhole := hrest [] (by simp)
      rw [List.append_nil] at hwhole
      refine ⟨rfl, ?_⟩
      simp [span, keep, hwhole]
    · cases h
  · next text =>
    obtain ⟨u, hu, rfl⟩ := exists_of_map_eq_ok (mapError_eq_ok.mp h)
    obtain ⟨rfl, hrest⟩ := groupRest_append hu
    have hwhole := hrest ('(' :: u.1) none [] rfl
    rw [List.append_nil] at hwhole
    have hspan : span ('(' :: u.1) =
        ((groupRest ('(' :: u.1) 0 none u.1).map (keep ['('])).mapError unterminated := rfl
    refine ⟨rfl, hspan.trans ?_⟩
    rw [hwhole]
    rfl
  · next hquote hopen =>
    cases h
    obtain ⟨hcs, hwhole⟩ := bare_append cs
    refine ⟨hcs, (span.eq_3 (bare cs).1 ?_ ?_).trans (congrArg _ hwhole)⟩
    · intro ds hds
      rw [hds, List.cons_append] at hcs
      exact hquote _ hcs
    · intro ds hds
      rw [hds, List.cons_append] at hcs
      exact hopen _ hcs

theorem read_eq_ok {cs : List Char} {r : List Char × List Char} (h : read cs = .ok r) :
    span cs = .ok r ∧ Sql.hasPlaceholder r.1 = false := by
  obtain ⟨⟨value, rest⟩, hu, h⟩ := bind_eq_ok.mp h
  dsimp only at h
  split at h
  · cases h
  · next hmark =>
    cases h
    exact ⟨hu, by simpa using hmark⟩

end SqlTemplate.TestValue
