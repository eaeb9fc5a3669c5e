import Mathlib.Data.List.Chain
import SqlTemplate.Proofs.ConditionReading
import SqlTemplate.Proofs.PathText

namespace SqlTemplate.Condition

/-- Segments whose indices are integers when they are read as numbers: two in a row are a number
with a fraction. -/
structure Readable (segments : List Segment) : Prop where
  apart : segments.IsChain fun a b => ¬(a.isIndex = true ∧ b.isIndex = true)
  inRange : ∀ i, .index i ∈ segments → i ≤ maxInteger

section Readable
variable {segments : List Segment}

theorem readable_property_iff {name : String} :
    Readable (.property name :: segments) ↔ Readable segments := by
  constructor
  · rintro ⟨hapart, hrange⟩
    exact ⟨hapart.tail, fun i hi => hrange i (List.mem_cons_of_mem _ hi)⟩
  · rintro ⟨hapart, hrange⟩
    refine ⟨List.isChain_cons.mpr ⟨fun b _ h => ?_, hapart⟩, fun i hi => hrange i ?_⟩
    · cases h.1
    · simpa using hi

theorem readable_index_iff {i : Nat} : Readable (.index i :: segments) ↔
    i ≤ maxInteger ∧ (∀ s ∈ segments.head?, s.isIndex = false) ∧ Readable segments := by
  constructor
  · rintro ⟨hapart, hrange⟩
    obtain ⟨hhead, htail⟩ := List.isChain_cons.mp hapart
    refine ⟨hrange i List.mem_cons_self, fun s hs => ?_, htail, fun j hj => ?_⟩
    · have h := hhead s hs
      simpa [Segment.isIndex] using h
    · exact hrange j (List.mem_cons_of_mem _ hj)
  · rintro ⟨hi, hhead, hapart, hrange⟩
    refine ⟨List.isChain_cons.mpr ⟨fun s hs h => ?_, hapart⟩, fun j hj => ?_⟩
    · rw [hhead s hs] at h
      cases h.2
    · rcases List.mem_cons.mp hj with hj | hj
      · cases hj
        exact hi
      · exact hrange j hj

end Readable

theorem isDigit_of_not_isWordPart {c : Char} (h : isWordPart c = false) :
    Number.isDigit c = false := by
  rw [← Bool.not_eq_true] at h ⊢
  intro hc
  apply h
  apply isWordPart_of_isIdentifierPart
  rw [isIdentifierPart, hc, Bool.or_true]

theorem ofNat_bounds {i : Nat} (hi : i ≤ maxInteger) :
    (0 : Int64) ≤ .ofNat i ∧ (Int64.ofNat i).toInt = i := by
  have hint := Int64.toInt_ofNat_of_lt (Nat.lt_succ_of_le hi)
  rw [Int64.le_iff_toInt_le, hint]
  exact ⟨Int.natCast_nonneg _, rfl⟩

theorem PathSteps.ofNat {i : Nat} (hi : i ≤ maxInteger) {ts : List Token} {names : List String}
    (h : PathSteps ts names) :
    PathSteps (.dot :: .integer (.ofNat i) :: ts) (Segment.text (.index i) :: names) := by
  obtain ⟨hnonneg, hint⟩ := ofNat_bounds hi
  have hsteps := PathSteps.index hnonneg h
  rw [hint] at hsteps
  exact hsteps

section Steps
variable {parts : List (List Char)} {segments : List Segment}
  (hspelled : List.Forall₂ Segment.Spelled parts segments)
  {rest : List Char} (hword : ∀ c ∈ rest.head?, isWordPart c = false) (hdot : rest.head? ≠ some '.')

include hword in
theorem not_isWordPart_ledBy (parts : List (List Char)) :
    ∀ c ∈ (Text.ledBy '.' parts ++ rest).head?, isWordPart c = false := by
  cases parts with
  | nil => exact hword
  | cons part parts =>
    rintro c ⟨⟩
    rfl

include hspelled hdot in
theorem not_isDigit_ledBy (hapart : ∀ s ∈ segments.head?, s.isIndex = false) :
    ∀ d ds, Text.ledBy '.' parts ++ rest = '.' :: d :: ds → Number.isDigit d = false := by
  intro d ds hd
  cases hspelled with
  | nil =>
    obtain rfl : rest = '.' :: d :: ds := hd
    exact absurd rfl hdot
  | cons hspelled _ =>
    obtain ⟨c, cs, rfl, hc⟩ := hspelled.exists_cons
    obtain ⟨rfl, -⟩ := List.cons.inj (List.cons.inj hd).2
    rw [hc]
    exact hapart _ rfl

include hspelled hword hdot in
theorem leads_steps (hkeywords : ∀ name, .property name ∈ segments → Token.keyword? name = none)
    (hreadable : Readable segments) (p : Nat) :
    ∃ ts, PathSteps ts (segments.map Segment.text) ∧
      Stream.Leads ts (.scan ⟨p, Text.ledBy '.' parts ++ rest⟩)
        (.scan ⟨p + (Text.ledBy '.' parts).length, rest⟩) := by
  induction hspelled generalizing p with
  | nil => exact ⟨[], .nil, .nil _⟩
  | @cons part _ parts segments hpart hspelled ih =>
    have hmore := fun name hname => hkeywords name (List.mem_cons_of_mem _ hname)
    have hlength : p + (Text.ledBy '.' (part :: parts)).length =
        p + 1 + part.length + (Text.ledBy '.' parts).length := by
      rw [Text.ledBy_cons, List.length_cons, List.length_append]
      omega
    have hbehind := not_isWordPart_ledBy hword parts
    rw [hlength, Text.ledBy_cons, List.cons_append, List.append_assoc, Stream.scan_dot]
    cases hpart with
    | property hname =>
      obtain ⟨ts, hsteps, hleads⟩ :=
        ih hmore (readable_property_iff.mp hreadable) (p + 1 + part.length)
      have hnext := next_word hbehind (p + 1) hname
      rw [hkeywords _ List.mem_cons_self] at hnext
      rw [Stream.scan_token hnext nofun]
      exact ⟨_, .property _ hsteps, .cons _ _ (.cons _ _ hleads)⟩
    | index hne hdigits hlimit =>
      obtain ⟨hmax, hapart, hreadable⟩ := readable_index_iff.mp hreadable
      obtain ⟨ts, hsteps, hleads⟩ := ih hmore hreadable (p + 1 + part.length)
      have hdigit := fun c hc => isDigit_of_not_isWordPart (hbehind c hc)
      have hpoint := not_isDigit_ledBy hspelled hdot hapart
      have hnext := next_integer hdigits hne (p + 1) hdigit hpoint
      rw [if_pos hmax] at hnext
      rw [Stream.scan_token hnext nofun]
      exact ⟨_, .ofNat hmax hsteps, .cons _ _ (.cons _ _ hleads)⟩

end Steps

section Walk
variable {parts : List (List Char)} {segments : List Segment}

theorem head_ledBy {q : Char → Bool} (hpoint : q '.' = false) :
    ∀ c ∈ (Text.ledBy '.' parts).head?, q c = false := by
  intro c hc
  cases parts with
  | nil => cases hc
  | cons part parts =>
    cases hc
    exact hpoint

theorem scan_ledBy_not_openParen (p q : Nat) (behind : Stream) :
    Stream.scan ⟨p, Text.ledBy '.' parts⟩ ≠ .token .openParen q behind := by
  intro h
  cases parts with
  | nil =>
    rw [Text.ledBy, List.flatMap_nil, Stream.scan_nil] at h
    cases h
  | cons part parts =>
    rw [Text.ledBy_cons, Stream.scan_dot] at h
    cases h

theorem pathTail_name {name : List Char} (hname : isIdentifier name = true)
    (hkeyword : Token.keyword? (String.ofList name) = none) (names : List String) (p : Nat) :
    pathTail names (Stream.scan ⟨p, Text.ledBy '.' (name :: parts)⟩) =
      pathTail (names ++ [String.ofList name])
        (Stream.scan ⟨p + 1 + name.length, Text.ledBy '.' parts⟩) := by
  have hrest : ∀ c ∈ (Text.ledBy '.' parts).head?, isWordPart c = false := head_ledBy rfl
  have hnext := next_word hrest (p + 1) hname
  rw [hkeyword] at hnext
  rw [Text.ledBy_cons, Stream.scan_dot, Stream.scan_token hnext nofun]
  exact pathTail_property (scan_ledBy_not_openParen _)

section Index
variable {digits : List Char} (hne : digits ≠ [])
  (hdigits : ∀ c ∈ digits, Number.isDigit c = true) (names : List String) (p : Nat)
include hne hdigits

theorem pathTail_fraction {c : Char} (hc : Number.isDigit c = true) (cs : List Char) :
    ∃ e, pathTail names (Stream.scan ⟨p, '.' :: (digits ++ '.' :: c :: cs)⟩) = .error e := by
  obtain ⟨x, after, hnext⟩ := next_float hdigits hne (p + 1) hc cs
  rw [Stream.scan_dot, Stream.scan_token hnext nofun]
  exact ⟨_, rfl⟩

variable (hpoint : ∀ d ds, Text.ledBy '.' parts = '.' :: d :: ds → Number.isDigit d = false)
include hpoint

theorem scan_index : Stream.scan ⟨p, Text.ledBy '.' (digits :: parts)⟩ =
    .token .dot (p + 1) (if Number.ofDigits digits ≤ maxInteger then
      .token (.integer (.ofNat (Number.ofDigits digits))) (p + 1 + digits.length)
        (Stream.scan ⟨p + 1 + digits.length, Text.ledBy '.' parts⟩)
    else .broken (.invalidNumber (String.ofList digits) (p + 1))) := by
  have hrest : ∀ c ∈ (Text.ledBy '.' parts).head?, Number.isDigit c = false := head_ledBy rfl
  have hnext := next_integer hdigits hne (p + 1) hrest hpoint
  rw [Text.ledBy_cons, Stream.scan_dot]
  split
  · next h =>
    rw [if_pos h] at hnext
    rw [Stream.scan_token hnext nofun]
  · next h =>
    rw [if_neg h] at hnext
    rw [Stream.scan_broken hnext]

theorem pathTail_index (h : Number.ofDigits digits ≤ maxInteger) :
    pathTail names (Stream.scan ⟨p, Text.ledBy '.' (digits :: parts)⟩) =
      pathTail (names ++ [Segment.text (.index (Number.ofDigits digits))])
        (Stream.scan ⟨p + 1 + digits.length, Text.ledBy '.' parts⟩) := by
  obtain ⟨hnonneg, hint⟩ := ofNat_bounds h
  rw [scan_index hne hdigits p hpoint, if_pos h, pathTail, if_pos hnonneg, hint]
  rfl

theorem pathTail_large (h : ¬Number.ofDigits digits ≤ maxInteger) :
    ∃ e, pathTail names (Stream.scan ⟨p, Text.ledBy '.' (digits :: parts)⟩) = .error e := by
  rw [scan_index hne hdigits p hpoint, if_neg h]
  exact ⟨_, rfl⟩

end Index

theorem pathTail_unreadable (h : List.Forall₂ Segment.Spelled parts segments)
    (hkeywords : ∀ name, .property name ∈ segments → Token.keyword? name = none)
    (hunreadable : ¬Readable segments) (names : List String) (p : Nat) :
    ∃ e, pathTail names (Stream.scan ⟨p, Text.ledBy '.' parts⟩) = .error e := by
  induction h generalizing names p with
  | nil => exact absurd ⟨.nil, nofun⟩ hunreadable
  | @cons part _ parts segments hspelled hrest ih =>
    have hmore := fun name hname => hkeywords name (List.mem_cons_of_mem _ hname)
    cases hspelled with
    | property hname =>
      rw [pathTail_name hname (hkeywords _ List.mem_cons_self)]
      rw [readable_property_iff] at hunreadable
      exact ih hmore hunreadable _ _
    | index hne hdigits hlimit =>
      -- Out of range or not, an index with another one behind it is read as a fraction.
      by_cases hapart : ∀ s ∈ segments.head?, s.isIndex = false
      · have hend : ([] : List Char).head? ≠ some '.' := nofun
        have hpoint := not_isDigit_ledBy hrest hend hapart
        rw [List.append_nil] at hpoint
        by_cases hmax : Number.ofDigits part ≤ maxInteger
        · rw [pathTail_index hne hdigits names p hpoint hmax]
          apply ih hmore
          exact fun hreadable => hunreadable (readable_index_iff.mpr ⟨hmax, hapart, hreadable⟩)
        · exact pathTail_large hne hdigits names p hpoint hmax
      · cases hrest with
        | nil => exact absurd nofun hapart
        | cons hnext _ =>
          obtain ⟨c, cs, rfl, hc⟩ := hnext.exists_cons
          have hdigit : Number.isDigit c = true := by
            rw [hc]
            simpa using hapart
          rw [Text.ledBy_cons, Text.ledBy_cons, List.cons_append]
          exact pathTail_fraction hne hdigits names p hdigit _

end Walk

theorem Stream.parse_of_error {head : String} {position : Nat} {s : Stream} {e : ParseError}
    (h : pathTail [head] s = .error e) :
    (Stream.token (.identifier head) position s).parse = .error e := by
  have hcomparison : ∀ inner, comparison (primary inner) (.token (.identifier head) position s) =
      .error e := by
    intro inner
    rw [comparison, primary, h]
    rfl
  have hnegation : ∀ inner, negation (comparison (primary inner))
      (.token (.identifier head) position s) = .error e := hcomparison
  rw [Stream.parse, Stream.length, expression, chain, chain, hnegation]
  rfl

section Path
variable {text : String} {p : Path} (hp : Path.parse text = .ok p)
  (hhead : Token.keyword? p.head = none)
include hp hhead

theorem exists_scan_of_parse {rest : List Char} (hword : ∀ c ∈ rest.head?, isWordPart c = false) :
    ∃ parts n, List.Forall₂ Segment.Spelled parts p.tail ∧
      text.length = n + (Text.ledBy '.' parts).length ∧
      Stream.scan ⟨0, text.toList ++ rest⟩ =
        .token (.identifier p.head) n (.scan ⟨n, Text.ledBy '.' parts ++ rest⟩) := by
  obtain ⟨hname, parts, hspelled, htext⟩ := Path.parse_eq_ok_iff.mp hp
  have hbehind := not_isWordPart_ledBy hword parts
  have hnext : next ⟨0, p.head.toList ++ (Text.ledBy '.' parts ++ rest)⟩ =
      (.ok (.identifier p.head), ⟨0 + p.head.toList.length, Text.ledBy '.' parts ++ rest⟩) := by
    rcases hname with hcurrent | hname
    · rw [hcurrent]
      exact next_current hbehind 0
    · have hnext := next_word hbehind 0 hname
      rwa [String.ofList_toList, hhead] at hnext
  refine ⟨parts, 0 + p.head.toList.length, hspelled, ?_, ?_⟩
  · rw [← String.length_toList, htext, List.length_append, Nat.zero_add]
  · rw [htext, List.append_assoc, Stream.scan_token hnext nofun]

variable (htail : ∀ name, .property name ∈ p.tail → Token.keyword? name = none)
include htail

theorem leads_path (h : Readable p.tail) {rest : List Char}
    (hword : ∀ c ∈ rest.head?, isWordPart c = false) (hdot : rest.head? ≠ some '.') :
    ∃ ts, Derives .primary (.identifier p.head :: ts) (.path p) ∧
      Stream.Leads (.identifier p.head :: ts) (.scan ⟨0, text.toList ++ rest⟩)
        (.scan ⟨text.length, rest⟩) := by
  obtain ⟨parts, n, hspelled, hlength, hscan⟩ := exists_scan_of_parse hp hhead hword
  obtain ⟨ts, hsteps, hleads⟩ := leads_steps hspelled hword hdot htail h n
  rw [hlength, hscan]
  exact ⟨ts, .path hsteps (Path.parse_text hp), .cons _ _ hleads⟩

theorem parse_of_readable (h : Readable p.tail) : parse text = .ok (.path p) := by
  have hword : ∀ c ∈ ([] : List Char).head?, isWordPart c = false := nofun
  obtain ⟨ts, hderives, hleads⟩ := leads_path hp hhead htail h hword nofun
  rw [List.append_nil, Stream.scan_nil] at hleads
  rw [parse, Cursor.start, Stream.parse_eq_ok_iff (Stream.leads_ended_iff.mp ⟨_, hleads⟩)]
  exact .ofConjunction (.ofNegation (.ofComparison (.ofPrimary hderives)))

theorem parse_of_not_readable (h : ¬Readable p.tail) : ∃ e, parse text = .error e := by
  have hword : ∀ c ∈ ([] : List Char).head?, isWordPart c = false := nofun
  obtain ⟨parts, n, hspelled, -, hscan⟩ := exists_scan_of_parse hp hhead hword
  rw [List.append_nil, List.append_nil] at hscan
  obtain ⟨e, he⟩ := pathTail_unreadable hspelled htail h [p.head] n
  rw [parse, Cursor.start, hscan]
  exact ⟨e, Stream.parse_of_error he⟩

/-- A condition reads the path of a marker as the same path, unless two indices stand in a row or
one has more than 63 bits. Then it is refused. -/
theorem parse_path_iff (e : Expr) : parse text = .ok e ↔ Readable p.tail ∧ e = .path p := by
  constructor
  · intro he
    by_cases h : Readable p.tail
    · rw [parse_of_readable hp hhead htail h] at he
      exact ⟨h, (Except.ok.inj he).symm⟩
    · obtain ⟨error, herror⟩ := parse_of_not_readable hp hhead htail h
      rw [herror] at he
      cases he
  · rintro ⟨h, rfl⟩
    exact parse_of_readable hp hhead htail h

end Path

def memberPath : Path := ⟨"pmb", [.property "members", .index 0, .property "name"]⟩

theorem parse_path_iff_member :
    Path.parse "pmb.members.0.name" = .ok memberPath ∧ Token.keyword? memberPath.head = none ∧
      (∀ name, .property name ∈ memberPath.tail → Token.keyword? name = none) ∧
      parse "pmb.members.0.name" = .ok (.path memberPath) := by
  have hpath : Path.parse "pmb.members.0.name" = .ok memberPath := rfl
  have htail : ∀ name, .property name ∈ memberPath.tail → Token.keyword? name = none := by
    intro name h
    have hname : name = "members" ∨ name = "name" := by simpa [memberPath] using h
    rcases hname with rfl | rfl
    · rfl
    · rfl
  have hreadable : Readable memberPath.tail := by
    rw [memberPath, readable_property_iff, readable_index_iff, readable_property_iff]
    exact ⟨by decide, by simp [Segment.isIndex], .nil, nofun⟩
  exact ⟨hpath, rfl, htail, (parse_path_iff hpath rfl htail _).mpr ⟨hreadable, rfl⟩⟩

def matrixPath : Path := ⟨"pmb", [.property "matrix", .index 0, .index 1]⟩

theorem parse_matrix :
    Path.parse "pmb.matrix.0.1" = .ok matrixPath ∧ Token.keyword? matrixPath.head = none ∧
      (∀ name, .property name ∈ matrixPath.tail → Token.keyword? name = none) ∧
      parse "pmb.matrix.0.1" ≠ .ok (.path matrixPath) := by
  have hpath : Path.parse "pmb.matrix.0.1" = .ok matrixPath := rfl
  have htail : ∀ name, .property name ∈ matrixPath.tail → Token.keyword? name = none := by
    intro name h
    have hname : name = "matrix" := by simpa [matrixPath] using h
    rw [hname]
    rfl
  have hunreadable : ¬Readable matrixPath.tail := by
    rw [matrixPath, readable_property_iff, readable_index_iff]
    simp [Segment.isIndex]
  obtain ⟨e, he⟩ := parse_of_not_readable hpath rfl htail hunreadable
  refine ⟨hpath, rfl, htail, ?_⟩
  rw [he]
  nofun

end SqlTemplate.Condition
