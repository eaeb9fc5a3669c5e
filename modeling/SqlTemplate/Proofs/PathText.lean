import Mathlib.Data.List.Forall2
import SqlTemplate.Path
import SqlTemplate.Proofs.Success

namespace SqlTemplate

theorem mapM_eq_ok_iff_forall₂ {ε α β : Type} {f : α → Except ε β} {xs : List α} {ys : List β} :
    xs.mapM f = .ok ys ↔ List.Forall₂ (fun x y => f x = .ok y) xs ys := by
  induction xs generalizing ys with
  | nil =>
    rw [List.forall₂_nil_left_iff]
    exact ⟨fun h => by cases h; rfl, fun h => by rw [h]; rfl⟩
  | cons x xs ih =>
    rw [List.mapM_cons, List.forall₂_cons_left_iff]
    constructor
    · intro h
      obtain ⟨y, hy, h⟩ := bind_eq_ok.mp h
      obtain ⟨zs, hzs, h⟩ := bind_eq_ok.mp h
      cases h
      exact ⟨y, zs, hy, ih.mp hzs, rfl⟩
    · rintro ⟨y, zs, hy, hzs, rfl⟩
      rw [hy, ih.mpr hzs]
      rfl

theorem exists_forall₂_iff {α β : Type} {R : α → β → Prop} {xs : List α} :
    (∃ ys, List.Forall₂ R xs ys) ↔ ∀ x ∈ xs, ∃ y, R x y := by
  induction xs with
  | nil => simp
  | cons x xs ih =>
    rw [List.forall_mem_cons, ← ih]
    constructor
    · rintro ⟨_, hx | ⟨hx, hxs⟩⟩
      exact ⟨⟨_, hx⟩, _, hxs⟩
    · rintro ⟨⟨y, hx⟩, ys, hxs⟩
      exact ⟨y :: ys, .cons hx hxs⟩

namespace Number

theorem isDigit_of_mem_digitsOf {n : Nat} : ∀ c ∈ digitsOf n, isDigit c = true := by
  intro c hc
  have hdigit := Nat.isDigit_of_mem_toDigits (by decide) (by decide) hc
  exact hdigit

theorem ofDigits_digitsOf (n : Nat) : ofDigits (digitsOf n) = n := by
  have h := @Nat.ofDigitChars_ten_toDigits n
  rw [Nat.ofDigitChars_eq_foldl] at h
  exact h

end Number

namespace Text

section Run
variable {p : Char → Bool} {w rest : List Char} (hw : ∀ c ∈ w, p c = true)
  (hrest : ∀ c ∈ rest.head?, p c = false)
include hw hrest

theorem takeWhile_append_eq : (w ++ rest).takeWhile p = w := by
  rw [List.takeWhile_append_of_pos hw]
  cases rest with
  | nil => simp
  | cons c cs => rw [List.takeWhile_cons_of_neg (by simp [hrest c rfl]), List.append_nil]

theorem dropWhile_append_eq : (w ++ rest).dropWhile p = rest := by
  rw [List.dropWhile_append_of_pos hw]
  cases rest with
  | nil => rfl
  | cons c cs => rw [List.dropWhile_cons_of_neg (by simp [hrest c rfl])]

end Run

def ledBy (separator : Char) (parts : List (List Char)) : List Char :=
  parts.flatMap (separator :: ·)

variable {separator : Char}

theorem ledBy_cons (part : List Char) (parts : List (List Char)) :
    ledBy separator (part :: parts) = separator :: (part ++ ledBy separator parts) := rfl

theorem pieces_of_not_mem {part : List Char} (h : separator ∉ part) :
    pieces separator part = [part] := by
  induction part with
  | nil => rfl
  | cons c cs ih =>
    rw [List.mem_cons, not_or] at h
    rw [pieces, if_neg (Ne.symm h.1), ih h.2]
    rfl

theorem pieces_append {part : List Char} (h : separator ∉ part) (rest : List Char) :
    pieces separator (part ++ separator :: rest) = part :: pieces separator rest := by
  induction part with
  | nil => rw [List.nil_append, pieces, if_pos rfl]
  | cons c cs ih =>
    rw [List.mem_cons, not_or] at h
    rw [List.cons_append, pieces, if_neg (Ne.symm h.1), ih h.2]
    rfl

theorem pieces_ledBy {part : List Char} {parts : List (List Char)} (h : separator ∉ part)
    (hparts : ∀ p ∈ parts, separator ∉ p) :
    pieces separator (part ++ ledBy separator parts) = part :: parts := by
  induction parts generalizing part with
  | nil =>
    rw [ledBy, List.flatMap_nil, List.append_nil]
    exact pieces_of_not_mem h
  | cons next parts ih =>
    rw [List.forall_mem_cons] at hparts
    rw [ledBy_cons, pieces_append h, ih hparts.1 hparts.2]

theorem exists_pieces (separator : Char) (text : List Char) : ∃ part parts,
    pieces separator text = part :: parts ∧ (∀ p ∈ part :: parts, separator ∉ p) ∧
      text = part ++ ledBy separator parts := by
  induction text with
  | nil => exact ⟨[], [], rfl, by simp, rfl⟩
  | cons c cs ih =>
    obtain ⟨part, parts, hp, hparts, hcs⟩ := ih
    rw [pieces, hp]
    by_cases hc : c = separator
    · rw [if_pos hc]
      refine ⟨[], part :: parts, rfl, List.forall_mem_cons.mpr ⟨List.not_mem_nil, hparts⟩, ?_⟩
      rw [ledBy_cons, ← hcs, hc]
      rfl
    · rw [if_neg hc]
      rw [List.forall_mem_cons] at hparts
      have hpart : separator ∉ c :: part := List.not_mem_cons_of_ne_of_not_mem (Ne.symm hc) hparts.1
      refine ⟨c :: part, parts, rfl, List.forall_mem_cons.mpr ⟨hpart, hparts.2⟩, ?_⟩
      rw [List.cons_append, ← hcs]

theorem toList_intercalate (first : String) (rest : List String) :
    (".".intercalate (first :: rest)).toList =
      first.toList ++ ledBy '.' (rest.map String.toList) := by
  induction rest generalizing first with
  | nil => simp [ledBy]
  | cons second rest ih =>
    rw [String.intercalate_cons_cons, String.toList_append, String.toList_append, ih,
      List.map_cons, ledBy_cons, List.append_assoc]
    rfl

end Text

theorem not_mem_of_isIdentifier {name : List Char} (h : isIdentifier name = true) :
    '.' ∉ name := by
  intro hmem
  cases name with
  | nil => cases hmem
  | cons c cs =>
    rw [isIdentifier, Bool.and_eq_true, List.all_eq_true] at h
    rcases List.mem_cons.mp hmem with rfl | hmem
    · exact absurd h.1 (by decide)
    · exact absurd (h.2 _ hmem) (by decide)

theorem isDigit_of_isIdentifierStart {c : Char} (h : isIdentifierStart c = true) :
    Number.isDigit c = false := by
  rw [Bool.eq_false_iff]
  intro hdigit
  simp only [Number.isDigit, isIdentifierStart, Bool.or_eq_true, Bool.and_eq_true,
    decide_eq_true_eq, Char.le_def, UInt32.le_iff_toNat_le] at h hdigit
  rcases h with (⟨h, -⟩ | ⟨h, -⟩) | rfl
  · exact absurd (Nat.le_trans h hdigit.2) (by decide)
  · exact absurd (Nat.le_trans h hdigit.2) (by decide)
  · exact absurd hdigit (by decide)

namespace Segment

def isIndex : Segment → Bool
  | index _ => true
  | property _ => false

inductive Spelled : List Char → Segment → Prop
  | property {name : List Char} (h : isIdentifier name = true) :
      Spelled name (.property (String.ofList name))
  | index {digits : List Char} (hne : digits ≠ [])
      (hdigits : ∀ c ∈ digits, Number.isDigit c = true)
      (hlimit : Number.ofDigits digits < indexLimit) :
      Spelled digits (.index (Number.ofDigits digits))

theorem not_all_isDigit_of_isIdentifier {name : List Char} (h : isIdentifier name = true) :
    name.all Number.isDigit = false := by
  cases name with
  | nil => cases h
  | cons c cs =>
    rw [isIdentifier, Bool.and_eq_true] at h
    rw [List.all_cons, isDigit_of_isIdentifierStart h.1, Bool.false_and]

theorem parse_eq_ok_iff {path : String} {part : List Char} {segment : Segment} :
    parse path part = .ok segment ↔ Spelled part segment := by
  constructor
  · intro h
    rw [parse] at h
    split at h
    · cases h
    · next hne =>
      split at h
      · next hdigits =>
        split at h
        · next hlimit =>
          cases h
          exact .index (by simpa using hne) (List.all_eq_true.mp hdigits) hlimit
        · cases h
      · split at h
        · next hidentifier =>
          cases h
          exact .property hidentifier
        · cases h
  · rintro (⟨h⟩ | ⟨hne, hdigits, hlimit⟩)
    · have hne : part.isEmpty = false := by
        cases part with
        | nil => cases h
        | cons c cs => rfl
      rw [parse, hne, not_all_isDigit_of_isIdentifier h, h]
      rfl
    · have hempty : part.isEmpty = false := by simpa using hne
      have hall : part.all Number.isDigit = true := List.all_eq_true.mpr hdigits
      rw [parse, hempty, hall]
      exact if_pos hlimit

theorem Spelled.not_mem {part : List Char} {segment : Segment} (h : Spelled part segment) :
    '.' ∉ part := by
  cases h with
  | property h => exact not_mem_of_isIdentifier h
  | index _ hdigits _ => exact fun hmem => absurd (hdigits _ hmem) (by decide)

theorem Spelled.exists_cons {part : List Char} {segment : Segment} (h : Spelled part segment) :
    ∃ c cs, part = c :: cs ∧ Number.isDigit c = segment.isIndex := by
  cases h with
  | property h =>
    cases part with
    | nil => cases h
    | cons c cs =>
      rw [isIdentifier, Bool.and_eq_true] at h
      exact ⟨c, cs, rfl, isDigit_of_isIdentifierStart h.1⟩
  | index hne hdigits _ =>
    cases part with
    | nil => exact absurd rfl hne
    | cons c cs => exact ⟨c, cs, rfl, hdigits c List.mem_cons_self⟩

theorem Spelled.text {part : List Char} {segment : Segment} (h : Spelled part segment) :
    Spelled segment.text.toList segment := by
  cases h with
  | property h =>
    rw [Segment.text, String.toList_ofList]
    exact .property h
  | index hne hdigits hlimit =>
    rw [Segment.text, String.toList_ofList]
    have h : Spelled (Number.digitsOf (Number.ofDigits part))
        (.index (Number.ofDigits (Number.digitsOf (Number.ofDigits part)))) := by
      apply Spelled.index
      · exact Nat.toDigits_ne_nil
      · exact Number.isDigit_of_mem_digitsOf
      · rwa [Number.ofDigits_digitsOf]
    rwa [Number.ofDigits_digitsOf] at h

def IsText (part : List Char) : Prop :=
  isIdentifier part = true ∨
    part ≠ [] ∧ (∀ c ∈ part, Number.isDigit c = true) ∧ Number.ofDigits part < UInt64.size

theorem isText_iff {part : List Char} : IsText part ↔ ∃ segment, Spelled part segment := by
  constructor
  · rintro (h | ⟨hne, hdigits, hlimit⟩)
    · exact ⟨_, .property h⟩
    · exact ⟨_, .index hne hdigits hlimit⟩
  · rintro ⟨_, h | ⟨hne, hdigits, hlimit⟩⟩
    · exact .inl h
    · exact .inr ⟨hne, hdigits, hlimit⟩

end Segment

namespace Path

def IsHead (name : String) : Prop := name = currentAlias ∨ isIdentifier name.toList = true

theorem parseHead_eq_ok_iff {part : List Char} {name : String} :
    parseHead part = .ok name ↔ part = name.toList ∧ IsHead name := by
  constructor
  · intro h
    rw [parseHead] at h
    split at h
    · next hpart =>
      cases h
      rw [IsHead, String.toList_ofList]
      exact ⟨rfl, hpart.imp_left fun hpart => by rw [hpart, String.ofList_toList]⟩
    · split at h
      · cases h
      · cases h
  · rintro ⟨rfl, h⟩
    have hpart : name.toList = currentAlias.toList ∨ isIdentifier name.toList = true :=
      h.imp_left fun h => by rw [h]
    rw [parseHead, if_pos hpart, String.ofList_toList]

theorem IsHead.not_mem {name : String} (h : IsHead name) : '.' ∉ name.toList := by
  rcases h with rfl | h
  · decide
  · exact not_mem_of_isIdentifier h

theorem parse_eq_ok_iff {text : String} {p : Path} :
    parse text = .ok p ↔ IsHead p.head ∧ ∃ parts, List.Forall₂ Segment.Spelled parts p.tail ∧
      text.toList = p.head.toList ++ Text.ledBy '.' parts := by
  obtain ⟨head, tail⟩ := p
  constructor
  · intro h
    obtain ⟨part, parts, hpieces, -, htext⟩ := Text.exists_pieces '.' text.toList
    rw [parse, hpieces] at h
    obtain ⟨head', hhead, h⟩ := bind_eq_ok.mp h
    obtain ⟨tail', htail, h⟩ := bind_eq_ok.mp h
    cases h
    obtain ⟨rfl, hname⟩ := parseHead_eq_ok_iff.mp hhead
    have hspelled := mapM_eq_ok_iff_forall₂.mp htail
    exact ⟨hname, parts, hspelled.imp fun _ _ => Segment.parse_eq_ok_iff.mp, htext⟩
  · rintro ⟨hhead, parts, hspelled, htext⟩
    have hparts : ∀ p ∈ parts, '.' ∉ p :=
      ((List.forall₂_and_left ..).mp (hspelled.imp fun _ _ h => ⟨h.not_mem, h⟩)).1
    have hmap : parts.mapM (Segment.parse text) = .ok tail :=
      mapM_eq_ok_iff_forall₂.mpr (hspelled.imp fun _ _ => Segment.parse_eq_ok_iff.mpr)
    rw [parse, htext, Text.pieces_ledBy hhead.not_mem hparts]
    dsimp only
    rw [parseHead_eq_ok_iff.mpr ⟨rfl, hhead⟩, hmap]
    rfl

theorem parse_text {source : String} {p : Path} (h : parse source = .ok p) :
    parse p.text = .ok p := by
  obtain ⟨hhead, parts, hspelled, -⟩ := parse_eq_ok_iff.mp h
  have htexts : ∀ s ∈ p.tail, Segment.Spelled s.text.toList s :=
    ((List.forall₂_and_left ..).mp (hspelled.flip.imp fun _ _ h => ⟨h.text, h⟩)).1
  refine parse_eq_ok_iff.mpr ⟨hhead, p.tail.map fun s => s.text.toList, ?_, ?_⟩
  · rw [List.forall₂_map_left_iff, List.forall₂_same]
    exact htexts
  · rw [text, Text.toList_intercalate, List.map_map]
    rfl

theorem exists_parse_iff {text : String} : (∃ p, parse text = .ok p) ↔
    ∃ head parts, IsHead head ∧ (∀ part ∈ parts, Segment.IsText part) ∧
      text.toList = head.toList ++ Text.ledBy '.' parts := by
  constructor
  · rintro ⟨p, hp⟩
    obtain ⟨hhead, parts, hspelled, htext⟩ := parse_eq_ok_iff.mp hp
    have hparts := exists_forall₂_iff.mp ⟨p.tail, hspelled⟩
    exact ⟨p.head, parts, hhead, fun part h => Segment.isText_iff.mpr (hparts part h), htext⟩
  · rintro ⟨head, parts, hhead, hparts, htext⟩
    obtain ⟨tail, hspelled⟩ := exists_forall₂_iff.mpr fun part h =>
      Segment.isText_iff.mp (hparts part h)
    exact ⟨⟨head, tail⟩, parse_eq_ok_iff.mpr ⟨hhead, parts, hspelled, htext⟩⟩

theorem text_eq (p : Path) :
    p.text = if p.tail = [] then p.head else p.head ++ "." ++ p.relative := by
  obtain ⟨head, tail⟩ := p
  cases tail with
  | nil => exact String.intercalate_singleton
  | cons s tail => exact String.intercalate_cons_cons

theorem parse_grammar (text : String) :
    ((∃ p, parse text = .ok p) ↔
      ∃ head parts, IsHead head ∧ (∀ part ∈ parts, Segment.IsText part) ∧
        text.toList = head.toList ++ Text.ledBy '.' parts) ∧
    ∀ p, parse text = .ok p → parse p.text = .ok p ∧
      p.text = if p.tail = [] then p.head else p.head ++ "." ++ p.relative :=
  ⟨exists_parse_iff, fun p hp => ⟨parse_text hp, text_eq p⟩⟩

def paddedIndex : Path := ⟨currentAlias, [.property "rows", .index 7]⟩

theorem parse_grammar_paddedIndex :
    parse "#current.rows.007" = .ok paddedIndex ∧ parse "#current.rows.7" = .ok paddedIndex ∧
      paddedIndex.text = "#current.rows.7" := by
  have hp : parse "#current.rows.007" = .ok paddedIndex := rfl
  obtain ⟨hparse, htext⟩ := (parse_grammar "#current.rows.007").2 paddedIndex hp
  have hshown : paddedIndex.text = "#current.rows.7" := htext
  rw [hshown] at hparse
  exact ⟨hp, hparse, hshown⟩

end Path
end SqlTemplate
