import SqlTemplate.Proofs.SqlTokens

/-!
The scan for placeholders, step by step. It passes over comments and what stands between two quotes
at once and looks at every other character; where it stops at a question mark is a placeholder.
-/
namespace SqlTemplate

namespace Text

theorem cutAt?_eq_some {separator : Char} {text : List Char} {r : List Char × List Char}
    (h : cutAt? separator text = some r) : text = r.1 ++ separator :: r.2 ∧ separator ∉ r.1 := by
  induction text generalizing r with
  | nil => cases h
  | cons c text ih =>
    rw [cutAt?] at h
    split at h
    · next hc =>
      cases h
      simp [hc]
    · next hc =>
      obtain ⟨u, hu, rfl⟩ := Option.map_eq_some_iff.mp h
      obtain ⟨htext, hnone⟩ := ih hu
      exact ⟨congrArg (c :: ·) htext, by simp [hnone, Ne.symm hc]⟩

theorem not_mem_of_cutAt? {separator : Char} {text : List Char} (h : cutAt? separator text = none) :
    separator ∉ text := by
  induction text with
  | nil => simp
  | cons c text ih =>
    rw [cutAt?] at h
    split at h
    · cases h
    · next hc => simp [ih (Option.map_eq_none_iff.mp h), Ne.symm hc]

end Text

namespace Sql

open Verbatim (closeComment? isLineEnd)

namespace Zone

theorem fill_append (z : Zone) (fillings : List (List Char)) (as bs : List Char) :
    z.fill fillings (as ++ bs) =
      z.fill fillings as ++ (z.after as).fill (fillings.drop (z.placeholders as)) bs := by
  induction as generalizing z fillings with
  | nil => rfl
  | cons a as ih =>
    simp only [List.cons_append, fill, placeholders, ih]
    by_cases ha : z.isCode = true ∧ a = '?'
    · simp [if_pos ha, after, List.drop_tail, Nat.add_comm 1]
    · simp [if_neg ha, after]

theorem fill_eq_self {z : Zone} {cs : List Char} (h : z.placeholders cs = 0)
    (fillings : List (List Char)) : z.fill fillings cs = cs := by
  induction cs generalizing z with
  | nil => rfl
  | cons c cs ih =>
    rw [placeholders] at h
    split at h
    · omega
    · next hc => rw [fill, if_neg hc, ih (by omega)]

def Resumes (z : Zone) (cs : List Char) : Prop :=
  ∀ c ∈ cs.head?, z.next c = code.next c ∧ (c = '?' → z.isCode = true)

namespace Resumes

variable {z : Zone} {cs : List Char}

theorem of_isCode (hz : z.isCode = true) (hj : z.joins cs = false) : z.Resumes cs := by
  intro c hc
  rw [joins, Option.mem_def.mp hc] at hj
  exact ⟨next_eq_of_isCode hz hj, fun _ => hz⟩

theorem placeholders (h : z.Resumes cs) : z.placeholders cs = code.placeholders cs := by
  cases cs with
  | nil => rfl
  | cons c cs =>
    obtain ⟨hnext, hmark⟩ := h c rfl
    have hcode : code.isCode = true := rfl
    by_cases hc : c = '?'
    · simp only [Zone.placeholders, hnext, hmark hc, hcode]
    · simp only [Zone.placeholders, hnext, hc, and_false]

theorem fill (h : z.Resumes cs) (fillings : List (List Char)) :
    z.fill fillings cs = code.fill fillings cs := by
  cases cs with
  | nil => rfl
  | cons c cs =>
    obtain ⟨hnext, hmark⟩ := h c rfl
    have hcode : code.isCode = true := rfl
    by_cases hc : c = '?'
    · simp only [Zone.fill, hnext, hmark hc, hcode]
    · simp only [Zone.fill, hnext, hc, and_false]

end Resumes

theorem stays {z : Zone} {cs : List Char} (hz : z.isCode = false) (h : ∀ c ∈ cs, z.next c = z) :
    z.after cs = z ∧ z.placeholders cs = 0 := by
  induction cs with
  | nil => exact ⟨rfl, rfl⟩
  | cons c cs ih =>
    rw [List.forall_mem_cons] at h
    obtain ⟨hafter, hcount⟩ := ih h.2
    rw [placeholders_inside hz, h.1]
    refine ⟨?_, hcount⟩
    simp only [after, List.foldl_cons, h.1] at hafter ⊢
    exact hafter

end Zone

/-- What the scan passes over in one step, and the text behind it. The `*` of an opener may already
be the one that closes the comment, and a quote ends at the next one. -/
def skip : List Char → List Char × List Char
  | '/' :: '*' :: cs =>
    match closeComment? ('*' :: cs) with
    | some (body, rest) => ('/' :: (body ++ ['*', '/']), rest)
    | none => ('/' :: '*' :: cs, [])
  | '-' :: '-' :: cs =>
    ('-' :: '-' :: cs.takeWhile (!isLineEnd ·), cs.dropWhile (!isLineEnd ·))
  | '\'' :: cs =>
    match Text.cutAt? '\'' cs with
    | some (text, rest) => ('\'' :: (text ++ ['\'']), rest)
    | none => ('\'' :: cs, [])
  | c :: cs => ([c], cs)
  | [] => ([], [])

theorem skip_append (cs : List Char) : (skip cs).1 ++ (skip cs).2 = cs := by
  fun_cases skip cs with
  | case1 cs body rest hclose => simp [(Verbatim.closeComment?_eq_some hclose).1]
  | case3 cs => simp
  | case4 cs text rest hcut => simp [(Text.cutAt?_eq_some hcut).1]
  | _ => simp

theorem skip_ne_nil {cs : List Char} (h : cs ≠ []) : (skip cs).1 ≠ [] := by
  fun_cases skip cs with
  | case7 => exact absurd rfl h
  | _ => simp

theorem length_skip_lt {cs : List Char} (h : cs ≠ []) : (skip cs).2.length < cs.length := by
  have hlength := congrArg List.length (skip_append cs)
  have hpos := List.length_pos_iff.mpr (skip_ne_nil h)
  rw [List.length_append] at hlength
  omega

def skipped (cs : List Char) : List (List Char) :=
  if _h : cs = [] then [] else (skip cs).1 :: skipped (skip cs).2
termination_by cs.length
decreasing_by exact length_skip_lt _h

theorem skipped_nil : skipped [] = [] := by
  rw [skipped, dif_pos rfl]

theorem skipped_cons {cs : List Char} (h : cs ≠ []) :
    skipped cs = (skip cs).1 :: skipped (skip cs).2 := by
  rw [skipped, dif_neg h]

theorem flatten_skipped (cs : List Char) : (skipped cs).flatten = cs := by
  induction cs using skipped.induct with
  | case1 => rw [skipped_nil, List.flatten_nil]
  | case2 cs hcs ih => rw [skipped_cons hcs, List.flatten_cons, ih, skip_append]

theorem after_comment {z : Zone} {cs start : List Char} {r : List Char × List Char}
    (hz : Verbatim.Mode.Agrees z cs (.comment start)) (h : closeComment? cs = some r) :
    z.after (r.1 ++ ['*', '/']) = .code := by
  fun_induction closeComment? cs generalizing z r with
  | case1 cs =>
    cases h
    simp only [List.nil_append, Zone.after, List.foldl_cons, List.foldl_nil, hz.close_comment]
    rfl
  | case2 c cs hend ih =>
    obtain ⟨u, hu, rfl⟩ := Option.map_eq_some_iff.mp h
    have hbody := ih (hz.comment hend) hu
    exact hbody
  | case3 => cases h

theorem blockComment_spec (cs : List Char) :
    (∀ r, closeComment? cs = some r → Zone.blockComment.after (r.1 ++ ['*', '/']) = .code ∧
        Zone.blockComment.placeholders (r.1 ++ ['*', '/']) = 0) ∧
      (closeComment? cs = none → Zone.blockComment.placeholders cs = 0) := by
  have hagrees : Verbatim.Mode.Agrees .blockComment cs (.comment []) := .inl rfl
  have hcount := placeholders_comment hagrees
  constructor
  · intro r hclose
    have hafter := after_comment hagrees hclose
    have htext : cs = r.1 ++ ['*', '/'] ++ r.2 := by
      simpa using (Verbatim.closeComment?_eq_some hclose).1
    refine ⟨hafter, ?_⟩
    rw [hclose, htext, Zone.placeholders_append, hafter] at hcount
    simpa using hcount
  · intro hclose
    rw [hcount, hclose]
    rfl

theorem code_slash (text : List Char) :
    Zone.code.after ('/' :: '*' :: text) = Zone.blockComment.after ('*' :: text) ∧
      Zone.code.placeholders ('/' :: '*' :: text) = Zone.blockComment.placeholders ('*' :: text) :=
  ⟨rfl, by simp [Zone.placeholders, Zone.next, Zone.ofCode]⟩

theorem closedComment_spec {cs : List Char} {r : List Char × List Char}
    (h : closeComment? ('*' :: cs) = some r) :
    Zone.code.after ('/' :: (r.1 ++ ['*', '/'])) = .code ∧
      Zone.code.placeholders ('/' :: (r.1 ++ ['*', '/'])) = 0 := by
  obtain ⟨text, htext⟩ : ∃ text, r.1 ++ ['*', '/'] = '*' :: text := by
    have hcs := (Verbatim.closeComment?_eq_some h).1
    cases hbody : r.1 with
    | nil => exact ⟨['/'], rfl⟩
    | cons c body =>
      rw [hbody, List.cons_append, List.cons.injEq] at hcs
      exact ⟨body ++ ['*', '/'], by rw [hcs.1, List.cons_append]⟩
  have hspec := (blockComment_spec ('*' :: cs)).1 r h
  rw [htext] at hspec ⊢
  rw [(code_slash text).1, (code_slash text).2]
  exact hspec

theorem literal_spec {text : List Char} (h : '\'' ∉ text) :
    Zone.code.after ('\'' :: text) = .literal ∧ Zone.code.placeholders ('\'' :: text) = 0 := by
  have hstays : Zone.literal.after text = .literal ∧ Zone.literal.placeholders text = 0 := by
    apply Zone.stays rfl
    intro c hc
    rw [Zone.next, if_neg]
    rintro rfl
    exact h hc
  refine ⟨hstays.1, ?_⟩
  simpa [Zone.placeholders, Zone.next, Zone.ofCode] using hstays.2

theorem closedLiteral_spec {text : List Char} (h : '\'' ∉ text) :
    Zone.code.after ('\'' :: (text ++ ['\''])) = .code ∧
      Zone.code.placeholders ('\'' :: (text ++ ['\''])) = 0 := by
  obtain ⟨hafter, hcount⟩ := literal_spec h
  rw [← List.cons_append, Zone.after_append, Zone.placeholders_append, hafter, hcount]
  exact ⟨rfl, rfl⟩

theorem line_spec (cs : List Char) :
    Zone.code.after ('-' :: '-' :: cs.takeWhile (!isLineEnd ·)) = .lineComment ∧
      Zone.code.placeholders ('-' :: '-' :: cs.takeWhile (!isLineEnd ·)) = 0 := by
  have hstays : Zone.lineComment.after (cs.takeWhile (!isLineEnd ·)) = .lineComment ∧
      Zone.lineComment.placeholders (cs.takeWhile (!isLineEnd ·)) = 0 := by
    apply Zone.stays rfl
    intro c hc
    have hend := List.all_eq_true.mp List.all_takeWhile c hc
    simpa [Zone.next, isLineEnd] using hend
  refine ⟨hstays.1, ?_⟩
  simpa [Zone.placeholders, Zone.next, Zone.ofCode] using hstays.2

theorem resumes_skip (cs : List Char) : (Zone.code.after (skip cs).1).Resumes (skip cs).2 := by
  have hcode : ∀ rest, Zone.code.Resumes rest := fun rest => .of_isCode rfl (joins_code rest)
  fun_cases skip cs with
  | case1 ds body rest hclose =>
    rw [(closedComment_spec hclose).1]
    exact hcode rest
  | case3 ds =>
    rw [(line_spec ds).1]
    intro c hc
    have hend := Verbatim.isLineEnd_of_dropWhile ds c hc
    simp only [isLineEnd, decide_eq_true_eq] at hend
    subst hend
    exact ⟨rfl, by decide⟩
  | case4 ds text rest hcut =>
    rw [(closedLiteral_spec (Text.cutAt?_eq_some hcut).2).1]
    exact hcode rest
  | case6 c ds hblock hline hquote =>
    have hagrees := Verbatim.Mode.Agrees.code hquote hblock hline false
    exact .of_isCode hagrees.1 hagrees.2
  | _ =>
    intro c hc
    cases hc

theorem placeholders_skip {cs : List Char} (h : (skip cs).1 ≠ ['?']) :
    Zone.code.placeholders (skip cs).1 = 0 := by
  fun_cases skip cs with
  | case1 ds body rest hclose => exact (closedComment_spec hclose).2
  | case2 ds hclose => exact (code_slash ds).2.trans ((blockComment_spec ('*' :: ds)).2 hclose)
  | case3 ds => exact (line_spec ds).2
  | case4 ds text rest hcut => exact (closedLiteral_spec (Text.cutAt?_eq_some hcut).2).2
  | case5 ds hcut => exact (literal_spec (Text.not_mem_of_cutAt? hcut)).2
  | case6 c ds =>
    have hc : c ≠ '?' := by
      rintro rfl
      apply h
      simp [skip]
    simp [Zone.placeholders, hc]
  | case7 => rfl

theorem fill_skip (fillings : List (List Char)) (cs : List Char) :
    Zone.code.fill fillings cs = Zone.code.fill fillings (skip cs).1 ++
      Zone.code.fill (fillings.drop (Zone.code.placeholders (skip cs).1)) (skip cs).2 := by
  have happend := Zone.fill_append .code fillings (skip cs).1 (skip cs).2
  rwa [skip_append, (resumes_skip cs).fill] at happend

theorem placeholderCount_skip (cs : List Char) :
    placeholderCount cs =
      Zone.code.placeholders (skip cs).1 + placeholderCount (skip cs).2 := by
  have happend := Zone.placeholders_append .code (skip cs).1 (skip cs).2
  rwa [skip_append, (resumes_skip cs).placeholders] at happend

theorem fill_pieces {cs : List Char} {first : List (List Char)} {others : List (List (List Char))}
    (hsteps : skipped cs = first ++ others.flatMap (['?'] :: ·))
    (hpieces : ∀ piece ∈ first :: others, ['?'] ∉ piece) (fillings : List (List Char)) :
    Zone.code.fill fillings cs = first.flatten ++
        (others.mapIdx fun k piece => fillings[k]?.getD ['?'] ++ piece.flatten).flatten ∧
      placeholderCount cs = others.length := by
  -- Each step of the scan is the next one of the first piece or, where that is used up, the
  -- placeholder in front of the next piece.
  induction cs using skipped.induct generalizing fillings first others with
  | case1 =>
    rw [skipped_nil] at hsteps
    cases first with
    | nil =>
      cases others with
      | nil => exact ⟨rfl, rfl⟩
      | cons piece others => cases hsteps
    | cons step first => cases hsteps
  | case2 cs hcs ih =>
    rw [skipped_cons hcs] at hsteps
    rw [List.forall_mem_cons] at hpieces
    rw [fill_skip, placeholderCount_skip]
    cases first with
    | nil =>
      cases others with
      | nil => cases hsteps
      | cons piece others =>
        rw [List.nil_append, List.flatMap_cons, List.cons_append, List.cons.injEq] at hsteps
        obtain ⟨hstep, hrest⟩ := hsteps
        obtain ⟨hfill, hcount⟩ := ih hrest hpieces.2 fillings.tail
        have hmark : Zone.code.placeholders ['?'] = 1 := rfl
        have hhead : Zone.code.fill fillings ['?'] = fillings[0]?.getD ['?'] := by
          simp [Zone.fill, Zone.isCode, List.head?_eq_getElem?]
        rw [hstep, hmark, hhead, List.drop_one, hfill, hcount]
        simp [List.mapIdx_cons, Nat.add_comm]
    | cons step first =>
      rw [List.cons_append, List.cons.injEq] at hsteps
      obtain ⟨rfl, hrest⟩ := hsteps
      rw [List.mem_cons, not_or] at hpieces
      have hnone := placeholders_skip (Ne.symm hpieces.1.1)
      obtain ⟨hfill, hcount⟩ :=
        ih hrest (List.forall_mem_cons.mpr ⟨hpieces.1.2, hpieces.2⟩) fillings
      rw [hnone, Zone.fill_eq_self hnone, List.drop_zero, hfill, hcount]
      simp

end Sql
end SqlTemplate
