import SqlTemplate.Proofs.EmbeddedText
import SqlTemplate.Proofs.TestValueText

namespace SqlTemplate.TestValue

open Sql (doubleQuotes quote)

/-- SQL whose parentheses match, but for those in literals; comments are read like other SQL. Of two
literals in a row the inner quotes are a doubled one, so the two are one literal. -/
inductive Balanced : List Char → Prop where
  | nil : Balanced []
  | plain {c cs} (hc : c ∉ ['\'', '(', ')']) (rest : Balanced cs) : Balanced (c :: cs)
  | literal {cs} (s : String) (hcs : cs.head? ≠ some '\'') (rest : Balanced cs) :
    Balanced ((quote s).toList ++ cs)
  | group {content cs} (inner : Balanced content) (rest : Balanced cs) :
    Balanced ('(' :: (content ++ ')' :: cs))

def IsLiteral (value : List Char) : Prop := ∃ s : String, value = (quote s).toList

def IsGroup (value : List Char) : Prop :=
  (∃ content, Balanced content ∧ value = '(' :: (content ++ [')'])) ∧
    Sql.hasPlaceholder value = false

def SameKind (first second : List Char) : Prop :=
  IsLiteral first ∧ IsLiteral second ∨ IsGroup first ∧ IsGroup second

theorem keep_keep (as bs : List Char) (r : List Char × List Char) :
    keep as (keep bs r) = keep (as ++ bs) r := by
  rw [keep, keep, keep, List.append_assoc]

theorem map_keep_keep {ε : Type} (x : Except ε (List Char × List Char)) (as bs : List Char) :
    (x.map (keep bs)).map (keep as) = x.map (keep (as ++ bs)) := by
  cases x with
  | error e => rfl
  | ok r => exact congrArg Except.ok (keep_keep as bs r)

theorem quote_eq (s : String) : (quote s).toList = '\'' :: (doubleQuotes s.toList ++ ['\'']) := by
  rw [quote, String.toList_ofList]

theorem literalRest?_doubleQuotes (cs : List Char) {rest : List Char}
    (hrest : rest.head? ≠ some '\'') :
    literalRest? (doubleQuotes cs ++ '\'' :: rest) = some (doubleQuotes cs ++ ['\''], rest) := by
  induction cs with
  | nil =>
    apply literalRest?.eq_2
    rintro ds rfl
    exact hrest rfl
  | cons c cs ih =>
    by_cases hc : c = '\''
    · subst hc
      rw [doubleQuotes, if_pos rfl]
      exact (literalRest?.eq_1 _).trans (congrArg _ ih)
    · rw [doubleQuotes, if_neg hc]
      exact (literalRest?.eq_3 c _ (fun _ h => absurd h hc) hc).trans (congrArg _ ih)

section Group
variable (start : List Char) (depth : Nat)

theorem groupRest_doubleQuotes (opened cs : List Char) {rest : List Char}
    (hrest : rest.head? ≠ some '\'') :
    groupRest start depth (some opened) (doubleQuotes cs ++ '\'' :: rest) =
      (groupRest start depth none rest).map (keep (doubleQuotes cs ++ ['\''])) := by
  induction cs with
  | nil =>
    apply groupRest.eq_3
    rintro ds rfl
    exact hrest rfl
  | cons c cs ih =>
    by_cases hc : c = '\''
    · subst hc
      rw [doubleQuotes, if_pos rfl, List.cons_append, List.cons_append, groupRest.eq_2, ih,
        map_keep_keep]
      rfl
    · rw [doubleQuotes, if_neg hc, List.cons_append,
        groupRest.eq_4 start depth opened c _ (fun _ h => absurd h hc) hc, ih, map_keep_keep]
      rfl

theorem groupRest_quote (s : String) {rest : List Char} (hrest : rest.head? ≠ some '\'') :
    groupRest start depth none ((quote s).toList ++ rest) =
      (groupRest start depth none rest).map (keep (quote s).toList) := by
  rw [quote_eq, List.cons_append, List.append_assoc, List.singleton_append, groupRest.eq_5,
    groupRest_doubleQuotes start depth _ _ hrest, map_keep_keep]
  rfl

theorem Balanced.groupRest {content : List Char} (h : Balanced content) {rest : List Char}
    (hrest : rest.head? ≠ some '\'') :
    groupRest start depth none (content ++ rest) =
      (groupRest start depth none rest).map (keep content) := by
  -- What is behind a group inside is read at the depth of the group, and starts with its end.
  induction h generalizing depth rest with
  | nil =>
    cases hr : TestValue.groupRest start depth none rest <;> simp [hr, Except.map, keep]
  | @plain c cs hc _ ih =>
    simp only [List.mem_cons, List.not_mem_nil, or_false, not_or] at hc
    obtain ⟨hquote, hopen, hclose⟩ := hc
    rw [List.cons_append, groupRest.eq_9 start depth c _ hquote hopen (fun _ => hclose)
      (fun _ _ => hclose), ih depth hrest, map_keep_keep]
    rfl
  | @literal cs s hcs _ ih =>
    have hhead : (cs ++ rest).head? ≠ some '\'' := by
      cases cs with
      | nil => exact hrest
      | cons c cs => exact hcs
    rw [List.append_assoc, groupRest_quote start depth s hhead, ih depth hrest, map_keep_keep]
  | @group content cs _ _ ihi ih =>
    have hend : (')' :: (cs ++ rest)).head? ≠ some '\'' := by simp
    rw [List.cons_append, List.append_assoc, List.cons_append, groupRest.eq_6, ihi (depth + 1) hend,
      groupRest.eq_8, ih depth hrest, map_keep_keep, map_keep_keep, map_keep_keep]
    simp

end Group

theorem hasPlaceholder_quote (s : String) : Sql.hasPlaceholder (quote s).toList = false := by
  have hclosed := (Sql.closed_quote s).2
  rw [Sql.hasPlaceholder, Sql.placeholderCount, hclosed]
  rfl

theorem read_of_span {cs value behind : List Char} (h : span cs = .ok (value, behind))
    (hmark : Sql.hasPlaceholder value = false) : read cs = .ok (value, behind) := by
  simp only [read, h, bind, Except.bind, hmark]
  rfl

theorem IsLiteral.read {value : List Char} (h : IsLiteral value) {behind : List Char}
    (hbehind : behind.head? ≠ some '\'') : read (value ++ behind) = .ok (value, behind) := by
  obtain ⟨s, rfl⟩ := h
  apply read_of_span _ (hasPlaceholder_quote s)
  rw [quote_eq, List.cons_append, List.append_assoc, List.singleton_append, span,
    literalRest?_doubleQuotes _ hbehind]
  rfl

theorem IsGroup.read {value : List Char} (h : IsGroup value) (behind : List Char) :
    read (value ++ behind) = .ok (value, behind) := by
  obtain ⟨⟨content, hcontent, rfl⟩, hmark⟩ := h
  apply read_of_span _ hmark
  have hend : (')' :: behind).head? ≠ some '\'' := by simp
  rw [List.cons_append, List.append_assoc, List.singleton_append, span,
    hcontent.groupRest _ 0 hend, groupRest.eq_7]
  rfl

theorem literalRest?_eq_some {cs : List Char} {r : List Char × List Char}
    (h : literalRest? cs = some r) : ∃ text, r.1 = doubleQuotes text ++ ['\''] := by
  fun_induction literalRest? cs generalizing r with
  | case1 cs ih =>
    obtain ⟨u, hu, rfl⟩ := Option.map_eq_some_iff.1 h
    obtain ⟨text, htext⟩ := ih hu
    exact ⟨'\'' :: text, by rw [keep, htext]; rfl⟩
  | case2 cs _ =>
    cases h
    exact ⟨[], rfl⟩
  | case3 c cs _ hc ih =>
    obtain ⟨u, hu, rfl⟩ := Option.map_eq_some_iff.1 h
    obtain ⟨text, htext⟩ := ih hu
    exact ⟨c :: text, by rw [keep, htext, doubleQuotes, if_neg hc]; rfl⟩
  | case4 => cases h

inductive Closing : (depth : Nat) → (inLiteral : Bool) → List Char → Prop where
  | last {content} (inner : Balanced content) : Closing 0 false (content ++ [')'])
  | more {depth content rest} (inner : Balanced content) (outer : Closing depth false rest) :
    Closing (depth + 1) false (content ++ ')' :: rest)
  | literal {depth rest} (text : List Char) (hrest : rest.head? ≠ some '\'')
    (behind : Closing depth false rest) : Closing depth true (doubleQuotes text ++ '\'' :: rest)

namespace Closing

variable {depth : Nat} {cs : List Char}

theorem plain {c : Char} (hc : c ∉ ['\'', '(', ')']) (h : Closing depth false cs) :
    Closing depth false (c :: cs) := by
  cases h with
  | last inner => exact .last (.plain hc inner)
  | more inner outer => exact .more (.plain hc inner) outer

theorem quote (text : List Char) (hcs : cs.head? ≠ some '\'') (h : Closing depth false cs) :
    Closing depth false ('\'' :: (doubleQuotes text ++ '\'' :: cs)) := by
  have hquote : '\'' :: (doubleQuotes text ++ '\'' :: cs) =
      (Sql.quote (String.ofList text)).toList ++ cs := by
    simp [quote_eq]
  have hhead : ∀ {content rest : List Char}, (content ++ rest).head? ≠ some '\'' →
      content.head? ≠ some '\'' := by
    intro content rest h
    cases content with
    | nil => simp
    | cons c content => exact h
  rw [hquote]
  cases h with
  | last inner =>
    rw [← List.append_assoc]
    exact .last (.literal _ (hhead hcs) inner)
  | more inner outer =>
    rw [← List.append_assoc]
    exact .more (.literal _ (hhead hcs) inner) outer

theorem opens (h : Closing depth true cs) : Closing depth false ('\'' :: cs) := by
  cases h with
  | literal text hrest behind => exact behind.quote text hrest

theorem group (h : Closing (depth + 1) false cs) : Closing depth false ('(' :: cs) := by
  cases h with
  | @more _ content rest inner outer =>
    cases outer with
    | @last behind hbehind =>
      have hlast := last (.group inner hbehind)
      simpa using hlast
    | @more _ behind rest hbehind houter =>
      have hmore := more (.group inner hbehind) houter
      simpa using hmore

theorem doubled (h : Closing depth true cs) : Closing depth true ('\'' :: '\'' :: cs) := by
  cases h with
  | literal text hrest behind => exact .literal ('\'' :: text) hrest behind

theorem content {c : Char} (hc : c ≠ '\'') (h : Closing depth true cs) :
    Closing depth true (c :: cs) := by
  cases h with
  | literal text hrest behind =>
    have hcons := literal (c :: text) hrest behind
    rwa [doubleQuotes, if_neg hc] at hcons

theorem exists_content (h : Closing 0 false cs) :
    ∃ content, Balanced content ∧ cs = content ++ [')'] := by
  cases h with
  | last inner => exact ⟨_, inner, rfl⟩

end Closing

theorem closing_of_groupRest {start : List Char} {depth : Nat} {opened : Option (List Char)}
    {cs : List Char} {r : List Char × List Char} (h : groupRest start depth opened cs = .ok r) :
    Closing depth opened.isSome r.1 := by
  fun_induction groupRest start depth opened cs generalizing r with
  | case1 => cases h
  | case2 depth opened cs ih =>
    obtain ⟨u, hu, rfl⟩ := exists_of_map_eq_ok h
    exact (ih hu).doubled
  | case3 depth opened cs hsecond ih =>
    obtain ⟨u, hu, rfl⟩ := exists_of_map_eq_ok h
    have hcs := (groupRest_append hu).1
    apply Closing.literal [] _ (ih hu)
    intro hhead
    obtain ⟨ds, hds⟩ := List.head?_eq_some_iff.mp hhead
    rw [hds] at hcs
    exact hsecond _ hcs
  | case4 depth opened c cs _ hc ih =>
    obtain ⟨u, hu, rfl⟩ := exists_of_map_eq_ok h
    exact (ih hu).content hc
  | case5 depth cs ih =>
    obtain ⟨u, hu, rfl⟩ := exists_of_map_eq_ok h
    exact (ih hu).opens
  | case6 depth cs ih =>
    obtain ⟨u, hu, rfl⟩ := exists_of_map_eq_ok h
    exact (ih hu).group
  | case7 cs =>
    cases h
    exact .last .nil
  | case8 depth cs ih =>
    obtain ⟨u, hu, rfl⟩ := exists_of_map_eq_ok h
    exact .more .nil (ih hu)
  | case9 depth c cs hc hopen hend hclose ih =>
    obtain ⟨u, hu, rfl⟩ := exists_of_map_eq_ok h
    have hplain : c ≠ ')' := by
      cases depth with
      | zero => exact hend rfl
      | succ depth => exact hclose depth rfl
    exact (ih hu).plain (by simp [hplain, show c ≠ '\'' from hc, show c ≠ '(' from hopen])

theorem IsLiteral.isGroup {value : List Char} (h : IsLiteral value) : isGroup value = false := by
  obtain ⟨s, rfl⟩ := h
  rw [quote_eq]
  rfl

theorem IsGroup.isGroup {value : List Char} (h : IsGroup value) : isGroup value = true := by
  obtain ⟨⟨content, -, rfl⟩, -⟩ := h
  rfl

theorem span_kinds {cs value behind : List Char} (h : span cs = .ok (value, behind)) :
    IsLiteral value ∨ (∃ content, Balanced content ∧ value = '(' :: (content ++ [')'])) ∨
      cs.head? ≠ some '\'' ∧ cs.head? ≠ some '(' ∧ bare cs = (value, behind) := by
  unfold span at h
  split at h
  · next text =>
    left
    split at h
    · next u hu =>
      cases h
      obtain ⟨inner, hinner⟩ := literalRest?_eq_some hu
      refine ⟨String.ofList inner, ?_⟩
      rw [quote_eq, String.toList_ofList, ← hinner]
      rfl
    · cases h
  · next text =>
    right
    left
    obtain ⟨u, hu, hvalue⟩ := exists_of_map_eq_ok (mapError_eq_ok.mp h)
    cases hvalue
    obtain ⟨content, hcontent, hu⟩ := (closing_of_groupRest hu).exists_content
    exact ⟨content, hcontent, congrArg ('(' :: ·) hu⟩
  · next hquote hopen =>
    right
    right
    refine ⟨?_, ?_, Except.ok.inj h⟩
    · intro hhead
      obtain ⟨ds, hds⟩ := List.head?_eq_some_iff.mp hhead
      exact hquote ds hds
    · intro hhead
      obtain ⟨ds, hds⟩ := List.head?_eq_some_iff.mp hhead
      exact hopen ds hds

theorem isLiteral_iff (value : List Char) :
    IsLiteral value ↔ value.head? = some '\'' ∧ read value = .ok (value, []) := by
  constructor
  · intro h
    have hread : read (value ++ []) = .ok (value, []) := h.read (by simp)
    rw [List.append_nil] at hread
    refine ⟨?_, hread⟩
    obtain ⟨s, rfl⟩ := h
    rw [quote_eq]
    rfl
  · rintro ⟨hhead, hread⟩
    rcases span_kinds (read_eq_ok hread).1 with hliteral | ⟨content, -, rfl⟩ | ⟨hquote, -, -⟩
    · exact hliteral
    · cases hhead
    · exact absurd hhead hquote

theorem isGroup_iff (value : List Char) :
    IsGroup value ↔ value.head? = some '(' ∧ read value = .ok (value, []) := by
  constructor
  · intro h
    have hread := h.read []
    rw [List.append_nil] at hread
    refine ⟨?_, hread⟩
    obtain ⟨⟨content, -, rfl⟩, -⟩ := h
    rfl
  · rintro ⟨hhead, hread⟩
    obtain ⟨hspan, hmark⟩ := read_eq_ok hread
    rcases span_kinds hspan with hliteral | hgroup | ⟨-, hopen, -⟩
    · obtain ⟨s, rfl⟩ := hliteral
      rw [quote_eq] at hhead
      cases hhead
    · exact ⟨hgroup, hmark⟩
    · exact absurd hhead hopen

section SameKind
variable {first second : List Char} (h : SameKind first second)
include h

theorem SameKind.read {behind : List Char} (hbehind : behind.head? ≠ some '\'') :
    read (first ++ behind) = .ok (first, behind) ∧
      read (second ++ behind) = .ok (second, behind) := by
  rcases h with ⟨hfirst, hsecond⟩ | ⟨hfirst, hsecond⟩
  · exact ⟨hfirst.read hbehind, hsecond.read hbehind⟩
  · exact ⟨hfirst.read behind, hsecond.read behind⟩

theorem SameKind.isGroup : isGroup second = isGroup first := by
  rcases h with ⟨hfirst, hsecond⟩ | ⟨hfirst, hsecond⟩
  · rw [hfirst.isGroup, hsecond.isGroup]
  · rw [hfirst.isGroup, hsecond.isGroup]

end SameKind

end SqlTemplate.TestValue
