import SqlTemplate.Proofs.PathOrigin
import SqlTemplate.Proofs.PathText

namespace SqlTemplate

namespace Segment

def dropZeros : List Char → List Char
  | '0' :: c :: cs => dropZeros (c :: cs)
  | cs => cs

theorem dropZeros_cons {c : Char} (h : c ≠ '0') (cs : List Char) :
    dropZeros (c :: cs) = c :: cs := by
  apply dropZeros.eq_2
  rintro d ds he
  exact h (List.cons.inj he).1

theorem dropZeros_of_isIdentifier {name : List Char} (h : isIdentifier name = true) :
    dropZeros name = name := by
  cases name with
  | nil => rfl
  | cons c cs =>
    rw [isIdentifier, Bool.and_eq_true] at h
    apply dropZeros_cons
    rintro rfl
    exact absurd h.1 (by decide)

end Segment

namespace Number

theorem bounds_of_isDigit {c : Char} (h : isDigit c = true) : 48 ≤ c.toNat ∧ c.toNat ≤ 57 := by
  simp only [isDigit, Bool.and_eq_true, decide_eq_true_eq, Char.le_def,
    UInt32.le_iff_toNat_le] at h
  exact h

theorem toDigits_digitValue {c : Char} (h : isDigit c = true) :
    digitsOf (digitValue c) = [c] := by
  obtain ⟨hlow, hhigh⟩ := bounds_of_isDigit h
  have hvalue : digitValue c = c.toNat - 48 := rfl
  have hlt : digitValue c < 10 := by omega
  have hchar : (digitValue c).digitChar = c := by
    apply Char.toNat_inj.mp
    rw [Nat.toNat_digitChar_of_lt_ten hlt]
    omega
  rw [digitsOf, Nat.toDigits_of_lt_base hlt, hchar]

theorem digitsOf_foldl {digits : List Char} (h : ∀ c ∈ digits, isDigit c = true) {n : Nat}
    (hn : 0 < n) :
    digitsOf (digits.foldl (fun n c => 10 * n + digitValue c) n) = digitsOf n ++ digits := by
  induction digits generalizing n with
  | nil => simp
  | cons c digits ih =>
    obtain ⟨hc, hdigits⟩ := List.forall_mem_cons.mp h
    have hlast : digitsOf (10 * n + digitValue c) = digitsOf n ++ [c] := by
      obtain ⟨hlow, hhigh⟩ := bounds_of_isDigit hc
      have hvalue : digitValue c = c.toNat - 48 := rfl
      have happend := Nat.toDigits_append_toDigits (b := 10) (d := digitValue c) (by decide) hn
        (by omega)
      rw [← toDigits_digitValue hc]
      exact happend.symm
    rw [List.foldl_cons, ih hdigits (by omega), hlast, List.append_assoc, List.singleton_append]

theorem digitsOf_ofDigits {digits : List Char} (hne : digits ≠ [])
    (h : ∀ c ∈ digits, isDigit c = true) :
    digitsOf (ofDigits digits) = Segment.dropZeros digits := by
  fun_induction Segment.dropZeros digits with
  | case1 c cs ih => exact ih (by simp) (List.forall_mem_cons.mp h).2
  | case2 digits hzero =>
    cases digits with
    | nil => exact absurd rfl hne
    | cons c cs =>
      obtain ⟨hc, hcs⟩ := List.forall_mem_cons.mp h
      have hfirst : 10 * 0 + digitValue c = digitValue c := by omega
      rw [ofDigits, List.foldl_cons, hfirst]
      cases cs with
      | nil => exact toDigits_digitValue hc
      | cons d ds =>
        have hne : c ≠ '0' := by
          rintro rfl
          exact hzero d ds rfl
        have hpos : 0 < digitValue c := by
          obtain ⟨hlow, -⟩ := bounds_of_isDigit hc
          have hvalue : digitValue c = c.toNat - 48 := rfl
          have hzero : c.toNat ≠ 48 := fun he => hne (Char.toNat_inj.mp he)
          omega
        rw [digitsOf_foldl hcs hpos, toDigits_digitValue hc, List.singleton_append]

end Number

theorem Segment.Spelled.text_eq {part : List Char} {segment : Segment} (h : Spelled part segment) :
    segment.text = String.ofList (dropZeros part) := by
  cases h with
  | property h => rw [Segment.text, dropZeros_of_isIdentifier h]
  | index hne hdigits _ => rw [Segment.text, Number.digitsOf_ofDigits hne hdigits]

namespace Value

/-- A step by a part of the text of a path: to the index it spells in a list, to the property of
that name in a bean, and in a map to the entry whose key is what `key` makes of the part. -/
def at? (key : List Char → List Char) (part : List Char) : Value → Option Value
  | map entries => Entries.find? (String.ofList (key part)) entries
  | list items => if part.all Number.isDigit then items[Number.ofDigits part]? else none
  | bean _ properties =>
    if part.all Number.isDigit then none else Entries.find? (String.ofList part) properties
  | _ => none

def follow (key : List Char → List Char) : List (List Char) → Value → Option Value
  | [], v => some v
  | part :: parts, v => (v.at? key part).bind (follow key parts)

theorem step_eq_ok_iff {part : List Char} {segment : Segment} (h : Segment.Spelled part segment)
    (p : Path) (v w : Value) :
    v.step p segment = .ok w ↔ v.at? Segment.dropZeros part = some w := by
  cases v with
  | map entries =>
    rw [step, at?, ← h.text_eq]
    cases Entries.find? segment.text entries <;> simp
  | list items =>
    cases h with
    | property h =>
      rw [at?, Segment.not_all_isDigit_of_isIdentifier h]
      simp [step]
    | index _ hdigits _ =>
      rw [step, at?, if_pos (List.all_eq_true.mpr hdigits)]
      cases items[Number.ofDigits part]? <;> simp
  | bean typeName properties =>
    cases h with
    | property h =>
      rw [step, at?, Segment.not_all_isDigit_of_isIdentifier h, if_neg Bool.false_ne_true]
      cases Entries.find? (String.ofList part) properties <;> simp
    | index _ hdigits _ =>
      rw [at?, if_pos (List.all_eq_true.mpr hdigits)]
      simp [step]
  | _ => simp [step, at?]

theorem foldlM_step_eq_ok_iff {parts : List (List Char)} {segments : List Segment}
    (h : List.Forall₂ Segment.Spelled parts segments) (p : Path) (v w : Value) :
    segments.foldlM (step p) v = .ok w ↔ v.follow Segment.dropZeros parts = some w := by
  induction h generalizing v with
  | nil => simp [follow, pure, Except.pure]
  | cons hpart _ ih =>
    rw [List.foldlM_cons, bind_eq_ok, follow, Option.bind_eq_some_iff]
    simp only [step_eq_ok_iff hpart, ih]

def nest (v : Value) : List (List Char) → Value
  | [] => v
  | part :: parts => .map [(String.ofList part, nest v parts)]

theorem follow_nest (v : Value) (parts : List (List Char)) :
    (v.nest parts).follow id parts = some v := by
  induction parts with
  | nil => rfl
  | cons part parts ih => simpa [nest, follow, at?, Entries.find?] using ih

theorem eq_of_follow_nest {key : List Char → List Char} {v w : Value} {parts : List (List Char)}
    (h : (v.nest parts).follow key parts = some w) : ∀ part ∈ parts, key part = part := by
  induction parts with
  | nil => simp
  | cons part parts ih =>
    rw [nest, follow, at?, Entries.find?, Option.bind_eq_some_iff] at h
    obtain ⟨u, hu, h⟩ := h
    rw [List.lookup_cons] at hu
    split at hu
    · next hkey =>
      cases hu
      have hpart : key part = part := String.ofList_inj.mp (by simpa using hkey)
      exact List.forall_mem_cons.mpr ⟨hpart, ih h⟩
    · cases hu

theorem follow_congr {key : List Char → List Char} {parts : List (List Char)}
    (h : ∀ part ∈ parts, key part = part) (v : Value) : v.follow key parts = v.follow id parts := by
  induction parts generalizing v with
  | nil => rfl
  | cons part parts ih =>
    obtain ⟨hpart, hparts⟩ := List.forall_mem_cons.mp h
    have hat : v.at? key part = v.at? id part := by
      cases v <;> simp [at?, hpart]
    have hrest : follow key parts = follow id parts := funext (ih hparts)
    rw [follow, follow, hat, hrest]

end Value

namespace Scope

def LeadsTo (scope : Scope) (p : Path) (w : Value) : Prop :=
  ∃ type, scope.resolve p = .ok ⟨w, type⟩

theorem leadsTo_iff {text : String} {p : Path} (h : Path.parse text = .ok p) {params : Params}
    {parts : List (List Char)}
    (hparts : Text.pieces '.' text.toList = params.rootName.toList :: parts) {loops : Loops}
    (hloops : loops.find? params.rootName = none) (w : Value) :
    LeadsTo ⟨params, loops⟩ p w ↔ params.root.follow Segment.dropZeros parts = some w := by
  obtain ⟨hhead, spelled, hspelled, htext⟩ := Path.parse_eq_ok_iff.mp h
  have hdots : ∀ part ∈ spelled, '.' ∉ part :=
    ((List.forall₂_and_left ..).mp (hspelled.imp fun _ _ hs => ⟨hs.not_mem, hs⟩)).1
  rw [htext, Text.pieces_ledBy hhead.not_mem hdots, List.cons.injEq, String.toList_inj] at hparts
  obtain ⟨hname, rfl⟩ := hparts
  have horigin : origin? ⟨params, loops⟩ p.head = some .root := by
    rw [origin?, hname, hloops]
    exact if_pos rfl
  rw [LeadsTo, resolve_of_origin horigin, walk, ← Value.foldlM_step_eq_ok_iff hspelled p]
  simp only [start]
  cases List.foldlM (Value.step p) params.root p.tail with
  | error e => simp [Except.map]
  | ok v => simp [Except.map]

/-- A path from the root goes by its segments as they stand in the text, but leading zeros do not
count in the key of a map. So it goes by them as they are written, whatever the root is, if and only
if no segment has leading zeros. -/
theorem leadsTo_iff_follow {text : String} {p : Path} (h : Path.parse text = .ok p)
    {params : Params} {parts : List (List Char)}
    (hparts : Text.pieces '.' text.toList = params.rootName.toList :: parts) {loops : Loops}
    (hloops : loops.find? params.rootName = none) :
    (∀ root w, LeadsTo ⟨{ params with root }, loops⟩ p w ↔
      root.follow Segment.dropZeros parts = some w) ∧
    ((∀ root w, LeadsTo ⟨{ params with root }, loops⟩ p w ↔ root.follow id parts = some w) ↔
      ∀ part ∈ parts, Segment.dropZeros part = part) := by
  have hleads : ∀ root w, LeadsTo ⟨{ params with root }, loops⟩ p w ↔
      root.follow Segment.dropZeros parts = some w := by
    intro root w
    exact @leadsTo_iff _ _ h { params with root } _ hparts _ hloops w
  refine ⟨hleads, ?_, ?_⟩
  · intro hwritten
    have hnest := (hwritten (Value.null.nest parts) .null).mpr (Value.follow_nest .null parts)
    exact Value.eq_of_follow_nest ((hleads _ _).mp hnest)
  · intro hzeros root w
    rw [hleads, Value.follow_congr hzeros]

def cellPath : Path := ⟨"pmb", [.property "rows", .index 1, .index 7]⟩

def cells : Value := .map [("rows", .list [.null, .map [("007", .string "A"), ("7", .string "B")]])]

theorem leadsTo_iff_follow_cell :
    Path.parse "pmb.rows.01.7" = .ok cellPath ∧
      Text.pieces '.' "pmb.rows.01.7".toList =
        ["pmb".toList, "rows".toList, "01".toList, "7".toList] ∧
      Loops.find? "pmb" [rowTurn "row"] = none ∧
      LeadsTo ⟨{ noParams with root := cells }, [rowTurn "row"]⟩ cellPath (.string "B") := by
  have hparse : Path.parse "pmb.rows.01.7" = .ok cellPath := rfl
  have hparts : Text.pieces '.' "pmb.rows.01.7".toList =
      ["pmb".toList, "rows".toList, "01".toList, "7".toList] := rfl
  have hloops : Loops.find? noParams.rootName [rowTurn "row"] = none := rfl
  have hleads := (@leadsTo_iff_follow _ _ hparse noParams _ hparts _ hloops).1
  exact ⟨hparse, hparts, hloops, (hleads cells (.string "B")).mpr rfl⟩

theorem resolve_leadingZeros :
    Path.parse "pmb.rows.1.007" = .ok cellPath ∧
      cells.follow id ["rows".toList, "1".toList, "007".toList] = some (.string "A") ∧
      resolve ⟨{ noParams with root := cells }, []⟩ cellPath = .ok ⟨.string "B", .string⟩ :=
  ⟨rfl, rfl, rfl⟩

end Scope
end SqlTemplate
