import SqlTemplate.Proofs.ClosedSql
import SqlTemplate.Template.Lexeme

/-!
The SQL of a template is read the same way as that of a statement: a stretch in front of a marker
leaves nothing open, and no stretch has placeholders.
-/
namespace SqlTemplate

namespace Verbatim

/-- The zone is that of the mode, and what stands next does not change it. -/
def Mode.Agrees (z : Sql.Zone) (cs : List Char) : Mode → Prop
  | .code _ => z.isCode = true ∧ z.joins cs = false
  | .literal _ => z = .literal
  | .comment _ => z = .blockComment ∨ z = .afterStar ∧ cs.head? ≠ some '/'
  | .line => z = .lineComment

namespace Mode.Agrees

theorem next_code {z : Sql.Zone} {c : Char} {cs : List Char} {blank : Bool}
    (h : Agrees z (c :: cs) (.code blank)) : z.next c = Sql.Zone.ofCode c := by
  obtain ⟨hz, hj⟩ := h
  have hc : z.completes c = false := by simpa [Sql.Zone.joins] using hj
  exact Sql.Zone.next_eq_of_isCode hz hc

theorem code {c : Char} {cs : List Char} (hquote : c ≠ '\'')
    (hslash : ∀ ds, c = '/' → cs = '*' :: ds → False)
    (hminus : ∀ ds, c = '-' → cs = '-' :: ds → False) (blank : Bool) :
    Agrees (Sql.Zone.ofCode c) cs (.code blank) := by
  rw [Sql.Zone.ofCode, if_neg hquote]
  by_cases hm : c = '-'
  · rw [if_pos hm]
    refine ⟨rfl, ?_⟩
    cases cs with
    | nil => rfl
    | cons d ds =>
      have hd : d ≠ '-' := by
        rintro rfl
        exact hminus ds hm rfl
      simp [Sql.Zone.joins, Sql.Zone.completes, hd]
  · rw [if_neg hm]
    by_cases hs : c = '/'
    · rw [if_pos hs]
      refine ⟨rfl, ?_⟩
      cases cs with
      | nil => rfl
      | cons d ds =>
        have hd : d ≠ '*' := by
          rintro rfl
          exact hslash ds hs rfl
        simp [Sql.Zone.joins, Sql.Zone.completes, hd]
    · rw [if_neg hs]
      exact ⟨rfl, by cases cs <;> rfl⟩

theorem closed (blank : Bool) (cs : List Char) : Agrees .code cs (.code blank) := by
  refine ⟨rfl, ?_⟩
  cases cs <;> rfl

theorem comment {z : Sql.Zone} {c : Char} {cs start : List Char}
    (h : Agrees z (c :: cs) (.comment start))
    (hstar : ∀ ds, c = '*' → cs = '/' :: ds → False) : Agrees (z.next c) cs (.comment start) := by
  have hcs : c = '*' → cs.head? ≠ some '/' := by
    intro hc he
    obtain ⟨ds, hds⟩ := List.head?_eq_some_iff.mp he
    exact hstar ds hc hds
  rcases h with rfl | ⟨rfl, hslash⟩
  · by_cases hc : c = '*'
    · exact .inr ⟨by simp [Sql.Zone.next, hc], hcs hc⟩
    · exact .inl (by simp [Sql.Zone.next, hc])
  · have hs : c ≠ '/' := by simpa using hslash
    by_cases hc : c = '*'
    · exact .inr ⟨by simp [Sql.Zone.next, hc], hcs hc⟩
    · exact .inl (by simp [Sql.Zone.next, hc, hs])

theorem opened {cs start : List Char} (h : isPlain cs = true) :
    Agrees .afterStar cs (.comment start) := by
  refine .inr ⟨rfl, ?_⟩
  cases cs with
  | nil => simp
  | cons c cs =>
    have hs : c ≠ '/' := by
      rintro rfl
      revert h
      simp only [isPlain]
      decide
    simpa using hs

theorem close_comment {z : Sql.Zone} {cs start : List Char}
    (h : Agrees z ('*' :: '/' :: cs) (.comment start)) : z.next '*' = .afterStar := by
  rcases h with rfl | ⟨rfl, -⟩ <;> rfl

end Mode.Agrees

def Stop.isBorder : Stop → Bool
  | lineElse _ _ _ | marker _ _ _ => true
  | _ => false

def Sound (z : Sql.Zone) (r : List Char × Stop) : Prop :=
  z.placeholders r.1 = 0 ∧ (r.2.isBorder = true → (z.after r.1).isCode = true)

namespace Sound

theorem nil {z : Sql.Zone} {stop : Stop} (h : stop.isBorder = true → z.isCode = true) :
    Sound z ([], stop) := ⟨rfl, h⟩

theorem keep {z : Sql.Zone} {c : Char} {r : List Char × Stop}
    (hc : z.isCode = true → c ≠ '?') (h : Sound (z.next c) r) : Sound z (keep [c] r) := by
  obtain ⟨hcount, hcode⟩ := h
  refine ⟨?_, hcode⟩
  have hn : ¬(z.isCode = true ∧ c = '?') := fun ⟨hz, he⟩ => hc hz he
  simp only [Verbatim.keep, List.singleton_append, Sql.Zone.placeholders, if_neg hn, hcount]

end Sound

theorem span_prefix (mode : Mode) (cs : List Char) : (span mode cs).1 <+: cs := by
  fun_induction span mode cs with
  | case2 | case3 | case5 | case7 | case12 | case15 | case17 => exact List.nil_prefix
  | _ =>
    rename_i ih
    exact List.prefix_append_right_inj _ |>.mpr ih

theorem isPlain_span {cs : List Char} (h : isPlain cs = true) (start : List Char) :
    isPlain (span (.comment start) cs).1 = true := by
  rw [span.eq_def]
  split <;> simp_all [keep, isPlain]

/-- A property of zones and the stretches behind them holds of what is read where mode and zone
agree if it holds of empty stretches, closed at a border, and of a stretch with one more character in
front, which must be no placeholder and open no comment that is not plain. -/
theorem span_induction {P : Sql.Zone → List Char × Stop → Prop}
    (nil : ∀ z stop, (stop.isBorder = true → z.isCode = true) → P z ([], stop))
    (cons : ∀ z c r, (z.isCode = true → c ≠ '?') →
      (z.isCode = true → c = '/' → ∀ text, r.1 = '*' :: text → isPlain text = true) →
      P (z.next c) r → P z (keep [c] r))
    {mode : Mode} {cs : List Char} {z : Sql.Zone} (h : mode.Agrees z cs) : P z (span mode cs) := by
  have inside : ∀ {z c r}, z.isCode = false → P (z.next c) r → P z (keep [c] r) := by
    intro z c r hz hr
    apply cons z c r _ _ hr <;> (rw [hz]; intro hc; cases hc)
  have plain : ∀ {z c r}, c ≠ '?' → c ≠ '/' → P (z.next c) r → P z (keep [c] r) := by
    intro z c r hmark hslash hr
    exact cons z c r (fun _ => hmark) (fun _ hc => absurd hc hslash) hr
  have noBorder : ∀ {z stop}, stop.isBorder = false → P z ([], stop) := by
    intro z stop hstop
    apply nil
    rw [hstop]
    intro hb
    cases hb
  -- Each character read changes mode and zone alike; what was read ahead keeps them in step.
  fun_induction span mode cs generalizing z with
  | case1 blank cs here hp =>
    rename_i ih
    have hopened : P .afterStar (span (.comment here) cs) := ih (.opened hp)
    have hstar : P (z.next '/') (keep ['*'] (span (.comment here) cs)) := by
      apply plain (by decide) (by decide)
      rw [h.next_code]
      exact hopened
    apply cons z '/' (keep ['*'] (span (.comment here) cs)) (fun _ => by decide) _ hstar
    intro _ _ text htext
    cases htext
    exact isPlain_span hp here
  | case2 => exact nil _ _ fun _ => h.1
  | case3 => exact nil _ _ fun _ => h.1
  | case4 blank cs ih =>
    apply plain (by decide) (by decide)
    rw [h.next_code]
    exact ih rfl
  | case5 => exact nil _ _ fun _ => h.1
  | case6 blank cs =>
    rename_i ih
    apply plain (r := keep ['-'] _) (by decide) (by decide)
    apply plain (by decide) (by decide)
    rw [h.next_code]
    exact ih rfl
  | case7 => exact nil _ _ fun _ => h.1
  | case8 blank c cs hslash hquote hminus hmark ih =>
    apply cons z c _ (fun _ => hmark) _ _
    · intro _ hc text htext
      obtain ⟨rest, hrest⟩ := span_prefix (.code (isLineEnd c || (blank && Text.isBlank c))) cs
      rw [htext, List.cons_append] at hrest
      exact (hslash _ hc hrest.symm).elim
    · rw [h.next_code]
      exact ih (.code hquote hslash hminus _)
  | case9 start cs ih =>
    cases h
    apply inside (r := keep ['\''] _) rfl
    exact plain (by decide) (by decide) (ih rfl)
  | case10 start cs _ ih =>
    cases h
    exact inside rfl (ih (.closed _ _))
  | case11 start c cs _ hquote ih =>
    cases h
    have hz : Sql.Zone.literal.next c = .literal := if_neg hquote
    exact inside rfl (ih hz)
  | case12 => exact noBorder rfl
  | case13 start cs ih =>
    have hz : z.isCode = false := by
      rcases h with rfl | ⟨rfl, -⟩ <;> rfl
    apply inside (r := keep ['/'] _) hz
    rw [h.close_comment]
    exact inside rfl (ih (.closed _ _))
  | case14 start c cs hstar ih =>
    have hz : z.isCode = false := by
      rcases h with rfl | ⟨rfl, -⟩ <;> rfl
    exact inside hz (ih (h.comment hstar))
  | case15 => exact noBorder rfl
  | case16 c cs ih =>
    cases h
    refine inside rfl (ih ?_)
    by_cases hc : c = '\n'
    · simp only [isLineEnd, Sql.Zone.next, hc, decide_true, if_true]
      exact .closed _ _
    · simp [isLineEnd, Sql.Zone.next, hc, Mode.Agrees]
  | case17 => exact noBorder rfl

theorem span_sound {mode : Mode} {cs : List Char} {z : Sql.Zone} (h : mode.Agrees z cs) :
    Sound z (span mode cs) := by
  apply span_induction _ _ h
  · intro z stop hstop
    exact .nil hstop
  · intro z c r hmark _ hr
    exact .keep hmark hr

end Verbatim

namespace Lexemes

def Sound : List (Placed Lexeme) → Prop
  | [] => True
  | l :: ls => (∀ text, l.item = .sql text → Sql.Zone.code.placeholders text = 0 ∧
      (ls ≠ [] → (Sql.Zone.code.after text).isCode = true)) ∧ Sound ls

namespace Sound

theorem push {here : List Char} {l : Lexeme} {ls : Lexemes} (hl : ∀ text, l ≠ .sql text)
    (h : Sound ls.1) : Sound (push here l ls).1 :=
  ⟨fun text ht => absurd ht (hl text), h⟩

theorem pushSql {here text : List Char} {stop : Verbatim.Stop} {ls : Lexemes}
    (ht : Verbatim.Sound .code (text, stop)) (hstop : ls.1 ≠ [] → stop.isBorder = true)
    (h : Sound ls.1) : Sound (pushSql here text ls).1 := by
  rw [Lexemes.pushSql]
  split
  · exact h
  · refine ⟨?_, h⟩
    rintro _ ⟨⟩
    exact ⟨ht.1, fun hls => ht.2 (hstop hls)⟩

theorem of_mem {ls front behind : List (Placed Lexeme)} (h : Sound ls) {l : Placed Lexeme}
    (hls : ls = front ++ l :: behind) {text : List Char} (hl : l.item = .sql text) :
    Sql.Zone.code.placeholders text = 0 ∧
      (behind ≠ [] → (Sql.Zone.code.after text).isCode = true) := by
  induction front generalizing ls with
  | nil =>
    subst hls
    exact h.1 text hl
  | cons m front ih =>
    subst hls
    exact ih h.2 rfl

theorem closed {front : List (Placed Lexeme)} {l m : Placed Lexeme} (h : Sound (front ++ [l]))
    (hm : m ∈ front) {text : List Char} (ht : m.item = .sql text) : Sql.Closed text := by
  obtain ⟨as, bs, rfl⟩ := List.append_of_mem hm
  have hls : as ++ m :: bs ++ [l] = as ++ m :: (bs ++ [l]) := by simp
  obtain ⟨hcount, hcode⟩ := h.of_mem hls ht
  exact ⟨hcode (by simp), hcount⟩

end Sound

theorem scan_sound (blank : Bool) (cs : List Char) : Sound (scan blank cs).1 := by
  have hspan : ∀ blank cs, Verbatim.Sound .code (Verbatim.span (.code blank) cs) := by
    intro blank cs
    exact Verbatim.span_sound (.closed blank cs)
  fun_induction scan blank cs with
  | case1 => trivial
  | case2 blank cs _ sql hs =>
    have ht := hspan blank cs
    rw [hs] at ht
    exact .pushSql ht (fun h => absurd rfl h) trivial
  | case3 => trivial
  | case4 blank cs _ sql here comment rest hs ih =>
    have ht := hspan blank cs
    rw [hs] at ht
    exact .pushSql ht (fun _ => rfl) (.push (by simp) ih)
  | case5 blank cs _ sql here body rest hs ihd ihs =>
    have ht := hspan blank cs
    rw [hs] at ht
    apply Sound.pushSql ht (fun _ => rfl)
    split
    · trivial
    · exact .push (by simp) ihd
    · split
      · trivial
      · next hr => exact .push (by simp) (ihs _ _ hr)

end Lexemes
end SqlTemplate
