import SqlTemplate.Proofs.Lookahead
import SqlTemplate.Proofs.PathText

namespace SqlTemplate

namespace TestValue

theorem head?_of_literalRest? {cs : List Char} {r : List Char × List Char}
    (h : literalRest? cs = some r) : r.2.head? ≠ some '\'' := by
  fun_induction literalRest? cs generalizing r with
  | case1 cs ih =>
    obtain ⟨u, hu, rfl⟩ := Option.map_eq_some_iff.1 h
    have hhead := ih hu
    exact hhead
  | case2 cs hsecond =>
    cases h
    intro hhead
    obtain ⟨ds, hds⟩ := List.head?_eq_some_iff.mp hhead
    exact hsecond ds hds
  | case3 c cs _ _ ih =>
    obtain ⟨u, hu, rfl⟩ := Option.map_eq_some_iff.1 h
    have hhead := ih hu
    exact hhead
  | case4 => cases h

end TestValue

namespace Verbatim

theorem closeComment?_append {cs : List Char} {r : List Char × List Char}
    (h : closeComment? cs = some r) (rest : List Char) :
    closeComment? (r.1 ++ '*' :: '/' :: rest) = some (r.1, rest) := by
  fun_induction closeComment? cs generalizing r with
  | case1 cs =>
    cases h
    rfl
  | case2 c cs hend ih =>
    obtain ⟨u, hu, rfl⟩ := Option.map_eq_some_iff.1 h
    have hcs := (closeComment?_eq_some hu).1
    refine (closeComment?.eq_2 c (u.1 ++ '*' :: '/' :: rest) ?_).trans (congrArg _ (ih hu))
    intro ds hc hds
    cases hu1 : u.1 with
    | nil =>
      rw [hu1] at hds
      cases hds
    | cons d text =>
      rw [hu1, List.cons_append, List.cons.injEq] at hds
      apply hend (text ++ '*' :: '/' :: u.2) hc
      rw [hcs, hu1, hds.1, List.cons_append]
  | case3 => cases h

end Verbatim

namespace Sql

open Verbatim (closeComment? isLineEnd)
open TestValue (literalRest?)

def firstToken : List Char → List Char × List Char
  | '/' :: '*' :: cs =>
    match closeComment? cs with
    | some (body, rest) => (Lexeme.comment body, rest)
    | none => ('/' :: '*' :: cs, [])
  | '\'' :: cs =>
    match literalRest? cs with
    | some (text, rest) => ('\'' :: text, rest)
    | none => ('\'' :: cs, [])
  | '-' :: '-' :: cs =>
    ('-' :: '-' :: cs.takeWhile (!isLineEnd ·), cs.dropWhile (!isLineEnd ·))
  | c :: cs => ([c], cs)
  | [] => ([], [])

theorem firstToken_append (cs : List Char) : (firstToken cs).1 ++ (firstToken cs).2 = cs := by
  fun_cases firstToken cs with
  | case1 cs body rest hclose =>
    simp [Lexeme.comment, (Verbatim.closeComment?_eq_some hclose).1]
  | case3 cs text rest hliteral =>
    simp [(TestValue.literalRest?_append hliteral).1]
  | case5 cs => simp
  | _ => simp

theorem firstToken_ne_nil {cs : List Char} (h : cs ≠ []) : (firstToken cs).1 ≠ [] := by
  fun_cases firstToken cs with
  | case7 => exact absurd rfl h
  | _ => simp [Lexeme.comment]

theorem length_firstToken_lt {cs : List Char} (h : cs ≠ []) :
    (firstToken cs).2.length < cs.length := by
  have hlength := congrArg List.length (firstToken_append cs)
  have hpos := List.length_pos_iff.mpr (firstToken_ne_nil h)
  rw [List.length_append] at hlength
  omega

def tokens (cs : List Char) : List (List Char) :=
  if _h : cs = [] then [] else (firstToken cs).1 :: tokens (firstToken cs).2
termination_by cs.length
decreasing_by exact length_firstToken_lt _h

theorem tokens_nil : tokens [] = [] := by
  rw [tokens, dif_pos rfl]

theorem tokens_cons {cs : List Char} (h : cs ≠ []) :
    tokens cs = (firstToken cs).1 :: tokens (firstToken cs).2 := by
  rw [tokens, dif_neg h]

def shortComment : List Char := ['/', '*', '/']

theorem placeholders_inside {z : Zone} (hz : z.isCode = false) (c : Char) (cs : List Char) :
    z.placeholders (c :: cs) = (z.next c).placeholders cs := by
  simp [Zone.placeholders, hz]

theorem placeholders_comment {z : Zone} {cs start : List Char}
    (hz : Verbatim.Mode.Agrees z cs (.comment start)) :
    z.placeholders cs = Zone.code.placeholders (((closeComment? cs).map Prod.snd).getD []) := by
  have hinside : ∀ {z cs}, Verbatim.Mode.Agrees z cs (.comment start) → z.isCode = false := by
    rintro z cs (rfl | ⟨rfl, -⟩) <;> rfl
  fun_induction closeComment? cs generalizing z with
  | case1 cs =>
    rw [placeholders_inside (hinside hz), hz.close_comment, placeholders_inside rfl]
    rfl
  | case2 c cs hend ih =>
    rw [placeholders_inside (hinside hz), ih (hz.comment hend)]
    cases closeComment? cs <;> rfl
  | case3 => rfl

theorem placeholders_literal (cs : List Char) :
    Zone.literal.placeholders cs =
      Zone.code.placeholders (((literalRest? cs).map Prod.snd).getD []) := by
  fun_induction literalRest? cs with
  | case1 cs ih =>
    -- The first of two quotes ends the literal, and the second opens another.
    have hquote : Zone.code.placeholders ('\'' :: cs) = Zone.literal.placeholders cs := by
      simp [Zone.placeholders, Zone.next, Zone.ofCode]
    rw [placeholders_inside rfl, Zone.next, if_pos rfl, hquote, ih]
    cases literalRest? cs <;> rfl
  | case2 cs _ =>
    rw [placeholders_inside rfl, Zone.next, if_pos rfl]
    rfl
  | case3 c cs _ hc ih =>
    rw [placeholders_inside rfl, Zone.next, if_neg hc, ih]
    cases literalRest? cs <;> rfl
  | case4 => rfl

theorem placeholders_line (cs : List Char) :
    Zone.lineComment.placeholders cs = Zone.code.placeholders (cs.dropWhile (!isLineEnd ·)) := by
  induction cs with
  | nil => rfl
  | cons c cs ih =>
    rw [placeholders_inside rfl, Zone.next]
    by_cases hc : c = '\n'
    · subst hc
      simp [Zone.placeholders, Zone.next, Zone.ofCode, isLineEnd]
    · rw [if_neg hc, ih]
      simp [isLineEnd, hc]

theorem shortComment_firstToken {cs : List Char} :
    shortComment <+: (firstToken cs).1 ↔ shortComment <+: cs := by
  constructor
  · intro h
    exact h.trans ⟨_, firstToken_append cs⟩
  · rintro ⟨ds, rfl⟩
    have hclose : closeComment? ('/' :: ds) = (closeComment? ds).map (TestValue.keep ['/']) := by
      apply Verbatim.closeComment?.eq_2
      intro es hslash
      cases hslash
    simp only [shortComment, List.cons_append, List.nil_append, firstToken, hclose]
    cases closeComment? ds <;> simp [TestValue.keep, Lexeme.comment]

theorem placeholderCount_eq_firstToken {cs : List Char} (hcs : cs ≠ [])
    (hshort : ¬shortComment <+: cs) :
    placeholderCount cs =
      [(firstToken cs).1].count ['?'] + placeholderCount (firstToken cs).2 := by
  have hcomment : ∀ ds, cs = '/' :: '*' :: ds → placeholderCount cs =
      Zone.code.placeholders (((closeComment? ds).map Prod.snd).getD []) := by
    rintro ds rfl
    have hagrees : Verbatim.Mode.Agrees .afterStar ds (.comment []) := by
      refine .inr ⟨rfl, ?_⟩
      intro hhead
      obtain ⟨es, rfl⟩ := List.head?_eq_some_iff.mp hhead
      exact hshort ⟨es, rfl⟩
    rw [← placeholders_comment hagrees]
    simp [placeholderCount, Zone.placeholders, Zone.next, Zone.ofCode]
  have hliteral : ∀ ds, cs = '\'' :: ds → placeholderCount cs =
      Zone.code.placeholders (((literalRest? ds).map Prod.snd).getD []) := by
    rintro ds rfl
    rw [← placeholders_literal]
    simp [placeholderCount, Zone.placeholders, Zone.next, Zone.ofCode]
  fun_cases firstToken cs with
  | case1 ds body rest hclose =>
    rw [hcomment ds rfl, hclose]
    simp [Lexeme.comment, placeholderCount]
  | case2 ds hclose =>
    rw [hcomment ds rfl, hclose]
    simp [placeholderCount]
  | case3 ds text rest hread =>
    rw [hliteral ds rfl, hread]
    simp [placeholderCount]
  | case4 ds hread =>
    rw [hliteral ds rfl, hread]
    simp [placeholderCount]
  | case5 ds =>
    have hline : placeholderCount ('-' :: '-' :: ds) = Zone.lineComment.placeholders ds := by
      simp [placeholderCount, Zone.placeholders, Zone.next, Zone.ofCode]
    rw [hline, placeholders_line]
    simp [placeholderCount]
  | case6 c ds hblock hquote hline =>
    -- What the character could begin, it does not with the one behind it.
    have hcode : (Zone.ofCode c).placeholders ds = Zone.code.placeholders ds := by
      have h := Verbatim.Mode.Agrees.code hquote hblock hline false
      exact Zone.placeholders_eq_of_isCode h.1 h.2
    simp only [placeholderCount, Zone.placeholders, Zone.next, hcode]
    by_cases hc : c = '?' <;> simp [hc, Zone.isCode]
  | case7 => exact absurd rfl hcs

theorem firstToken_resume (cs more : List Char) :
    (firstToken cs).2 ≠ [] → more.head? = (firstToken cs).2.head? →
      firstToken ((firstToken cs).1 ++ more) = ((firstToken cs).1, more) := by
  fun_cases firstToken cs with
  | case1 ds body rest hclose =>
    intro _ _
    have happend := Verbatim.closeComment?_append hclose more
    simp [Lexeme.comment, firstToken, happend]
  | case3 ds text rest hread =>
    intro _ hhead
    have hmore : more.head? ≠ some '\'' := by
      have hrest := TestValue.head?_of_literalRest? hread
      rwa [hhead]
    have happend := (TestValue.literalRest?_append hread).2 more hmore
    simp [firstToken, happend]
  | case5 ds =>
    intro _ hhead
    have hinside : ∀ c ∈ ds.takeWhile (!isLineEnd ·), (!isLineEnd c) = true := by
      intro c hc
      exact List.all_eq_true.mp List.all_takeWhile c hc
    have hend : ∀ c ∈ more.head?, (!isLineEnd c) = false := by
      intro c hc
      rw [hhead] at hc
      rw [Verbatim.isLineEnd_of_dropWhile ds c hc]
      rfl
    simp [firstToken, Text.takeWhile_append_eq hinside hend, Text.dropWhile_append_eq hinside hend]
  | case6 c ds hblock hquote hline =>
    intro _ hhead
    have hsame : ∀ {d es}, more = d :: es → ∃ fs, ds = d :: fs := by
      rintro d es rfl
      exact List.head?_eq_some_iff.mp hhead.symm
    apply firstToken.eq_4
    · intro es hc hmore
      obtain ⟨fs, hds⟩ := hsame hmore
      exact hblock fs hc hds
    · exact hquote
    · intro es hc hmore
      obtain ⟨fs, hds⟩ := hsame hmore
      exact hline fs hc hds
  | _ =>
    intro hrest
    exact absurd rfl hrest

theorem count_tokens {cs : List Char} (hcs : cs ≠ []) :
    (tokens cs).count ['?'] =
      [(firstToken cs).1].count ['?'] + (tokens (firstToken cs).2).count ['?'] := by
  have happend : tokens cs = [(firstToken cs).1] ++ tokens (firstToken cs).2 := tokens_cons hcs
  rw [happend, List.count_append]

theorem placeholderCount_of_tokens {cs : List Char} (h : ∀ t ∈ tokens cs, ¬shortComment <+: t) :
    placeholderCount cs = (tokens cs).count ['?'] := by
  induction cs using tokens.induct with
  | case1 =>
    rw [tokens_nil]
    rfl
  | case2 cs hcs ih =>
    rw [tokens_cons hcs, List.forall_mem_cons, shortComment_firstToken] at h
    rw [placeholderCount_eq_firstToken hcs h.1, ih h.2, count_tokens hcs]

theorem exists_of_shortComment {cs t : List Char} (ht : t ∈ tokens cs)
    (hshort : shortComment <+: t) : ∃ front, front ++ shortComment <+: cs ∧
      placeholderCount (front ++ shortComment ++ ['?']) =
        (tokens (front ++ shortComment ++ ['?'])).count ['?'] + 1 := by
  induction cs using tokens.induct with
  | case1 =>
    rw [tokens_nil] at ht
    cases ht
  | case2 cs hcs ih =>
    by_cases hfirst : shortComment <+: cs
    · refine ⟨[], hfirst, ?_⟩
      have htokens : tokens ['/', '*', '/', '?'] = [['/', '*', '/', '?']] := by
        rw [tokens_cons (by simp), firstToken]
        simp [closeComment?, tokens_nil]
      have hmark : placeholderCount ['/', '*', '/', '?'] = 1 := by decide
      simp only [shortComment, List.nil_append, List.cons_append, htokens, hmark]
      decide
    · have hrest : t ∈ tokens (firstToken cs).2 := by
        rw [tokens_cons hcs] at ht
        rcases List.mem_cons.mp ht with rfl | ht
        · exact absurd (shortComment_firstToken.mp hshort) hfirst
        · exact ht
      obtain ⟨front, hfront, hcount⟩ := ih hrest
      -- The first token is the same in front of the shorter text, and counts the same there.
      have hne : (firstToken cs).2 ≠ [] := by
        intro hnil
        rw [hnil, tokens_nil] at hrest
        cases hrest
      have hhead : (front ++ shortComment ++ ['?']).head? = (firstToken cs).2.head? := by
        obtain ⟨behind, hbehind⟩ := hfront
        rw [← hbehind]
        cases front <;> rfl
      have hresume := firstToken_resume cs _ hne hhead
      have htext : (firstToken cs).1 ++ (front ++ shortComment ++ ['?']) ≠ [] := by simp
      have hother : ¬shortComment <+: (firstToken cs).1 ++ (front ++ shortComment ++ ['?']) := by
        rwa [← shortComment_firstToken, hresume, shortComment_firstToken]
      refine ⟨(firstToken cs).1 ++ front, ?_, ?_⟩
      · have happend := (List.prefix_append_right_inj (firstToken cs).1).mpr hfront
        rwa [firstToken_append, ← List.append_assoc] at happend
      · have hassoc : (firstToken cs).1 ++ front ++ shortComment ++ ['?'] =
            (firstToken cs).1 ++ (front ++ shortComment ++ ['?']) := by simp
        rw [hassoc, placeholderCount_eq_firstToken htext hother, count_tokens htext, hresume,
          hcount]
        exact (Nat.add_assoc ..).symm

theorem flatten_tokens (cs : List Char) : (tokens cs).flatten = cs := by
  induction cs using tokens.induct with
  | case1 => rw [tokens_nil, List.flatten_nil]
  | case2 cs hcs ih => rw [tokens_cons hcs, List.flatten_cons, ih, firstToken_append]

/-- The placeholders are the question marks that stand for themselves among the tokens, as long as
no comment starts with `/*/`. Where one does, a question mark in it counts. -/
theorem placeholderCount_eq_count_tokens (text : List Char) :
    (tokens text).flatten = text ∧
      ((∀ t ∈ tokens text, ¬shortComment <+: t) →
        placeholderCount text = (tokens text).count ['?']) ∧
      ∀ t ∈ tokens text, shortComment <+: t → ∃ front, front ++ shortComment <+: text ∧
        placeholderCount (front ++ shortComment ++ ['?']) =
          (tokens (front ++ shortComment ++ ['?'])).count ['?'] + 1 :=
  ⟨flatten_tokens text, placeholderCount_of_tokens, fun _ => exists_of_shortComment⟩

theorem tokens_marks : tokens "'''?'/*?*/?--?\n?".toList =
    ["'''?'".toList, "/*?*/".toList, ['?'], "--?".toList, ['\n'], ['?']] := by
  have hliteral : firstToken "'''?'/*?*/?--?\n?".toList =
      ("'''?'".toList, "/*?*/?--?\n?".toList) := rfl
  have hcomment : firstToken "/*?*/?--?\n?".toList = ("/*?*/".toList, "?--?\n?".toList) := rfl
  have hmark : firstToken "?--?\n?".toList = (['?'], "--?\n?".toList) := rfl
  have hline : firstToken "--?\n?".toList = ("--?".toList, "\n?".toList) := rfl
  have hend : firstToken "\n?".toList = (['\n'], ['?']) := rfl
  have hlast : firstToken ['?'] = (['?'], []) := rfl
  rw [tokens_cons (by decide), hliteral, tokens_cons (by decide), hcomment,
    tokens_cons (by decide), hmark, tokens_cons (by decide), hline, tokens_cons (by decide), hend,
    tokens_cons (by decide), hlast, tokens_nil]

theorem placeholderCount_eq_count_tokens_marks :
    (∀ t ∈ tokens "'''?'/*?*/?--?\n?".toList, ¬shortComment <+: t) ∧
      placeholderCount "'''?'/*?*/?--?\n?".toList = 2 := by
  have hshort : ∀ t ∈ tokens "'''?'/*?*/?--?\n?".toList, ¬shortComment <+: t := by
    rw [tokens_marks]
    decide
  have hcount := (placeholderCount_eq_count_tokens "'''?'/*?*/?--?\n?".toList).2.1 hshort
  rw [tokens_marks] at hcount
  exact ⟨hshort, hcount.trans (by decide)⟩

theorem placeholderCount_ne_count_tokens : placeholderCount "/*/?*/".toList = 1 ∧
    (tokens "/*/?*/".toList).count ['?'] = 0 := by
  have htoken : firstToken "/*/?*/".toList = ("/*/?*/".toList, []) := rfl
  refine ⟨by decide, ?_⟩
  rw [tokens_cons (by decide), htoken, tokens_nil]
  decide

end Sql
end SqlTemplate
