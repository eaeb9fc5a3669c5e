import Mathlib.Data.List.DropRight
import SqlTemplate.Proofs.JsonScalars

namespace SqlTemplate.Json

theorem skipBlank_append {before : List Char} (h : IsBlank before) (cs : List Char) :
    skipBlank (before ++ cs) = skipBlank cs := List.dropWhile_append_of_pos h

theorem skipBlank_cons {c : Char} (h : isBlank c = false) (cs : List Char) :
    skipBlank (c :: cs) = c :: cs := List.dropWhile_cons_of_neg (by simp [h])

theorem skipBlank_skipBlank (cs : List Char) : skipBlank (skipBlank cs) = skipBlank cs :=
  List.dropWhile_idempotent isBlank cs

theorem value?_skipBlank (bound : Nat) (cs : List Char) :
    value? bound (skipBlank cs) = value? bound cs := by
  cases bound with
  | zero => rw [value?, value?]
  | succ bound => rw [value?, value?, skipBlank_skipBlank]

theorem items?_skipBlank (bound : Nat) (cs : List Char) :
    items? bound (skipBlank cs) = items? bound cs := by
  cases bound with
  | zero => rw [items?, items?]
  | succ bound => rw [items?, items?, value?_skipBlank]

theorem members?_skipBlank (bound : Nat) (cs : List Char) :
    members? bound (skipBlank cs) = members? bound cs := by
  cases bound with
  | zero => rw [members?, members?]
  | succ bound => rw [members?, members?, skipBlank_skipBlank]

def Begins (text : List Char) : Prop :=
  ∃ before c cs, text = before ++ c :: cs ∧ IsBlank before ∧
    isBlank c = false ∧ c ≠ ']' ∧ c ≠ '\x7d'

theorem Begins.append {text : List Char} (h : Begins text) (rest : List Char) :
    Begins (text ++ rest) := by
  obtain ⟨before, c, cs, rfl, hbefore, hc⟩ := h
  exact ⟨before, c, cs ++ rest, by simp, hbefore, hc⟩

theorem Begins.after {before text : List Char} (hbefore : IsBlank before) (h : Begins text) :
    Begins (before ++ text) := by
  obtain ⟨blank, c, cs, rfl, hblank, hc⟩ := h
  exact ⟨before ++ blank, c, cs, by simp, List.forall_mem_append.mpr ⟨hbefore, hblank⟩, hc⟩

theorem begins_cons {c : Char} (h : isBlank c = false ∧ c ≠ ']' ∧ c ≠ '\x7d') (cs : List Char) :
    Begins (c :: cs) := ⟨[], c, cs, rfl, List.forall_mem_nil _, h⟩

theorem SpellsNumber.exists_cons {text : List Char} (h : SpellsNumber text) :
    ∃ c cs, text = c :: cs ∧ (c = '-' ∨ Number.isDigit c = true) := by
  obtain ⟨sign, whole, fraction, exponent, h, rfl⟩ := h
  rcases h.sign with rfl | rfl
  · obtain ⟨d, ds, rfl, hd⟩ := h.exists_whole
    exact ⟨d, _, rfl, .inr hd⟩
  · exact ⟨'-', _, rfl, .inl rfl⟩

theorem isDigit_apart {c : Char} (h : c = '-' ∨ Number.isDigit c = true) :
    isBlank c = false ∧ c ≠ ']' ∧ c ≠ '\x7d' ∧ c ≠ 'n' ∧ c ≠ 't' ∧ c ≠ 'f' ∧ c ≠ '"' ∧ c ≠ '[' ∧
      c ≠ '\x7b' := by
  rcases h with rfl | h
  · decide
  · have hne {d : Char} (hd : Number.isDigit d = false) : c ≠ d := ne_of_isDigit h hd
    have hblank : isBlank c = false := by
      simp only [isBlank, List.contains_eq_mem, decide_eq_false_iff_not, List.mem_cons,
        List.not_mem_nil, or_false, not_or]
      exact ⟨hne (by decide), hne (by decide), hne (by decide), hne (by decide)⟩
    exact ⟨hblank, hne (by decide), hne (by decide), hne (by decide), hne (by decide),
      hne (by decide), hne (by decide), hne (by decide), hne (by decide)⟩

theorem SpellsString.begins {text : List Char} {s : String} (h : SpellsString text s) :
    Begins text := by
  obtain ⟨spellings, hs, rfl⟩ := h
  exact begins_cons (by decide) _

theorem Spells.begins {text : List Char} {part : Part} (h : Spells text part) : Begins text := by
  induction h with
  | null | true | false | emptyArray | array | emptyObject | object =>
    exact begins_cons (by decide) _
  | number h =>
    obtain ⟨c, cs, heq, hc⟩ := h.exists_cons
    rw [heq]
    obtain ⟨hblank, hbracket, hbrace, _⟩ := isDigit_apart hc
    exact begins_cons ⟨hblank, hbracket, hbrace⟩ cs
  | string h => exact h.begins
  | element hbefore _ hafter ih => exact (ih.append _).after hbefore
  | lastElement _ ih | lastMember _ ih => exact ih
  | moreElements _ _ ih _ | moreMembers _ _ ih _ => exact ih.append _
  | member hname _ _ =>
    obtain ⟨before, spelling, after, hbefore, hs, _, rfl⟩ := hname
    exact ((hs.begins.append _).after hbefore).append _

theorem value?_numeral {c : Char} (h : c = '-' ∨ Number.isDigit c = true) (bound : Nat)
    (cs : List Char) : value? (bound + 1) (c :: cs) =
      (numeral? (c :: cs)).map fun r => (number (String.ofList r.1), r.2) := by
  obtain ⟨hblank, _, _, hn, ht, hf, hquote, hbracket, hbrace⟩ := isDigit_apart h
  rw [value?, skipBlank_cons hblank]
  split <;> simp_all

def ReadsElement (text : List Char) (j : Json) : Prop :=
  ∀ bound rest, 2 * text.length < bound → Ends rest →
    ∃ after, IsBlank after ∧ value? bound (text ++ rest) = some (j, after ++ rest)

-- The bounds are twice the length of the text, as two calls read at least one character; lists pay
-- for a call of their own.
def Reads (text : List Char) : Part → Prop
  | .value j => ∀ bound rest, 2 * text.length < bound → Ends rest →
    value? bound (text ++ rest) = some (j, rest)
  | .element j => ReadsElement text j
  | .elements js => ∀ bound rest, 2 * text.length + 1 < bound →
    items? bound (text ++ ']' :: rest) = some (js, rest)
  | .member m => ∃ name value, text = name ++ value ∧ SpellsName name m.1 ∧ ReadsElement value m.2
  | .members ms => ∀ bound rest, 2 * text.length + 1 < bound →
    members? bound (text ++ '\x7d' :: rest) = some (ms.map fun m => (some m.1, m.2), rest)

theorem ofMembers_map (ms : List (String × Json)) :
    ofMembers (ms.map fun m => (some m.1, m.2)) = object ms := by
  have h : (ms.map fun m => (some m.1, m.2)).mapM (fun m => m.1.map fun name => (name, m.2)) =
      some ms := by
    induction ms with
    | nil => rfl
    | cons m ms ih => simp [ih]
  rw [ofMembers, h]

theorem ends_cons {c : Char} (h : isBlank c = true ∨ c = ',' ∨ c = ']' ∨ c = '\x7d')
    (rest : List Char) : Ends (c :: rest) := by
  rintro _ ⟨⟩
  exact h

theorem Ends.after {after rest : List Char} (hafter : IsBlank after) (h : Ends rest) :
    Ends (after ++ rest) := by
  cases after with
  | nil => exact h
  | cons c cs => exact ends_cons (.inl (hafter c List.mem_cons_self)) _

theorem skipBlank_of_begins {text : List Char} (h : Begins text) :
    ∃ c cs, skipBlank text = c :: cs ∧ c ≠ ']' ∧ c ≠ '\x7d' := by
  obtain ⟨before, c, cs, rfl, hbefore, hc, hcloses⟩ := h
  exact ⟨c, cs, by rw [skipBlank_append hbefore, skipBlank_cons hc], hcloses⟩

theorem reads_array {text : List Char} {js : List Json} (hbegins : Begins text)
    (h : Reads text (.elements js)) : Reads ('[' :: (text ++ [']'])) (.value (array js)) := by
  intro bound rest hbound hrest
  simp only [List.length_cons, List.length_append, List.length_nil] at hbound
  cases bound with
  | zero => omega
  | succ bound =>
    have hitems := h bound rest (by omega)
    obtain ⟨c, cs, hskip, hc, _⟩ := skipBlank_of_begins (hbegins.append (']' :: rest))
    rw [← items?_skipBlank, hskip] at hitems
    rw [List.cons_append, List.append_assoc, List.singleton_append, value?,
      skipBlank_cons (by decide)]
    simp only [hskip]
    split
    · next heq => exact absurd (List.cons.inj heq).1 hc
    · rw [hitems, Option.map_some]

theorem reads_object {text : List Char} {ms : List (String × Json)} (hbegins : Begins text)
    (h : Reads text (.members ms)) :
    Reads ('\x7b' :: (text ++ ['\x7d'])) (.value (object ms)) := by
  intro bound rest hbound hrest
  simp only [List.length_cons, List.length_append, List.length_nil] at hbound
  cases bound with
  | zero => omega
  | succ bound =>
    have hmembers := h bound rest (by omega)
    obtain ⟨c, cs, hskip, _, hc⟩ := skipBlank_of_begins (hbegins.append ('\x7d' :: rest))
    rw [← members?_skipBlank, hskip] at hmembers
    rw [List.cons_append, List.append_assoc, List.singleton_append, value?,
      skipBlank_cons (by decide)]
    simp only [hskip]
    split
    · next heq => exact absurd (List.cons.inj heq).1 hc
    · rw [hmembers, Option.map_some, ofMembers_map]

theorem reads_element {before text after : List Char} {j : Json} (hbefore : IsBlank before)
    (h : Reads text (.value j)) (hafter : IsBlank after) :
    ReadsElement (before ++ (text ++ after)) j := by
  intro bound rest hbound hrest
  simp only [List.length_append] at hbound
  refine ⟨after, hafter, ?_⟩
  rw [← value?_skipBlank, List.append_assoc, skipBlank_append hbefore, value?_skipBlank,
    List.append_assoc]
  exact h bound _ (by omega) (hrest.after hafter)

theorem reads_elements_last {text : List Char} {j : Json} (h : ReadsElement text j) :
    Reads text (.elements [j]) := by
  intro bound rest hbound
  cases bound with
  | zero => omega
  | succ bound =>
    obtain ⟨after, hafter, hvalue⟩ := h bound (']' :: rest) (by omega) (ends_cons (by decide) _)
    rw [items?, hvalue]
    simp only [Option.bind_eq_bind, Option.bind_some, skipBlank_append hafter,
      skipBlank_cons (show isBlank ']' = false by decide)]
    rfl

theorem reads_elements_more {text texts : List Char} {j : Json} {js : List Json}
    (h : ReadsElement text j) (hs : Reads texts (.elements js)) :
    Reads (text ++ ',' :: texts) (.elements (j :: js)) := by
  intro bound rest hbound
  simp only [List.length_append, List.length_cons] at hbound
  cases bound with
  | zero => omega
  | succ bound =>
    obtain ⟨after, hafter, hvalue⟩ := h bound (',' :: (texts ++ ']' :: rest)) (by omega)
      (ends_cons (by decide) _)
    have hitems := hs bound rest (by omega)
    rw [List.append_assoc, List.cons_append, items?, hvalue]
    simp only [Option.bind_eq_bind, Option.bind_some, skipBlank_append hafter,
      skipBlank_cons (show isBlank ',' = false by decide), hitems]
    rfl

def membersBehind? (bound : Nat) (name : String) (cs : List Char) :
    Option (List (Option String × Json) × List Char) := do
  let (j, cs) ← value? bound cs
  match skipBlank cs with
  | '\x7d' :: cs => return ([(some name, j)], cs)
  | ',' :: cs =>
    let (ms, cs) ← members? bound cs
    return ((some name, j) :: ms, cs)
  | _ => none

theorem members?_name {text : List Char} {name : String} (h : SpellsName text name) (bound : Nat)
    (cs : List Char) : members? (bound + 1) (text ++ cs) = membersBehind? bound name cs := by
  obtain ⟨before, spelling, after, hbefore, hs, hafter, rfl⟩ := h
  obtain ⟨body, units, rfl, hunits, hread⟩ := hs.read
  rw [members?]
  simp only [List.append_assoc, List.cons_append, skipBlank_append hbefore, hread, hunits,
    skipBlank_cons (show isBlank '"' = false by decide), Option.bind_eq_bind, Option.bind_some,
    skipBlank_append hafter, List.nil_append, skipBlank_cons (show isBlank ':' = false by decide)]
  rfl

theorem reads_members_last {text : List Char} {m : String × Json} (h : Reads text (.member m)) :
    Reads text (.members [m]) := by
  obtain ⟨name, value, rfl, hname, hvalue⟩ := h
  intro bound rest hbound
  simp only [List.length_append] at hbound
  cases bound with
  | zero => omega
  | succ bound =>
    obtain ⟨after, hafter, hvalue⟩ := hvalue bound ('\x7d' :: rest) (by omega)
      (ends_cons (by decide) _)
    rw [List.append_assoc, members?_name hname, membersBehind?, hvalue]
    simp only [Option.bind_eq_bind, Option.bind_some, skipBlank_append hafter,
      skipBlank_cons (show isBlank '\x7d' = false by decide)]
    rfl

theorem reads_members_more {text texts : List Char} {m : String × Json}
    {ms : List (String × Json)} (h : Reads text (.member m)) (hs : Reads texts (.members ms)) :
    Reads (text ++ ',' :: texts) (.members (m :: ms)) := by
  obtain ⟨name, value, rfl, hname, hvalue⟩ := h
  intro bound rest hbound
  simp only [List.length_append, List.length_cons] at hbound
  cases bound with
  | zero => omega
  | succ bound =>
    obtain ⟨after, hafter, hvalue⟩ := hvalue bound (',' :: (texts ++ '\x7d' :: rest)) (by omega)
      (ends_cons (by decide) _)
    have hmembers := hs bound rest (by omega)
    rw [List.append_assoc, List.append_assoc, List.cons_append, members?_name hname,
      membersBehind?, hvalue]
    simp only [Option.bind_eq_bind, Option.bind_some, skipBlank_append hafter,
      skipBlank_cons (show isBlank ',' = false by decide), hmembers]
    rfl

theorem reads_number {text : String} (h : SpellsNumber text.toList) :
    Reads text.toList (.value (number text)) := by
  intro bound rest hbound hrest
  cases bound with
  | zero => omega
  | succ bound =>
    obtain ⟨c, cs, heq, hc⟩ := h.exists_cons
    have hvalue := value?_numeral hc bound (cs ++ rest)
    obtain ⟨sign, whole, fraction, exponent, h, hparts⟩ := h
    rw [← List.cons_append, ← heq, hparts, List.append_assoc, List.append_assoc, List.append_assoc,
      h.numeral?_append hrest, Option.map_some, ← hparts, String.ofList_toList] at hvalue
    rw [hparts, List.append_assoc, List.append_assoc, List.append_assoc, hvalue]

theorem reads_string {text : List Char} {s : String} (h : SpellsString text s) :
    Reads text (.value (string s)) := by
  intro bound rest hbound hrest
  cases bound with
  | zero => omega
  | succ bound =>
    obtain ⟨body, units, rfl, hunits, hread⟩ := h.read
    rw [List.cons_append, value?, skipBlank_cons (by decide)]
    simp only [hread, hunits, Option.map_some]
    rfl

theorem Spells.reads {text : List Char} {part : Part} (h : Spells text part) : Reads text part := by
  induction h with
  | null | true | false =>
    intro bound rest hbound hrest
    cases bound with
    | zero => omega
    | succ bound => rfl
  | number h => exact reads_number h
  | string h => exact reads_string h
  | emptyArray hblank | emptyObject hblank =>
    intro bound rest hbound hrest
    cases bound with
    | zero => omega
    | succ bound =>
      rw [List.cons_append, List.append_assoc, value?, skipBlank_cons (by decide)]
      simp only [skipBlank_append hblank]
      rfl
  | array h ih => exact reads_array h.begins ih
  | object h ih => exact reads_object h.begins ih
  | element hbefore _ hafter ih => exact reads_element hbefore ih hafter
  | lastElement _ ih => exact reads_elements_last ih
  | moreElements _ _ ih ihs => exact reads_elements_more ih ihs
  | member hname _ ih => exact ⟨_, _, rfl, hname, ih⟩
  | lastMember _ ih => exact reads_members_last ih
  | moreMembers _ _ ih ihs => exact reads_members_more ih ihs

theorem parse?_of_spells {text : String} {j : Json} (h : SpellsDocument text j) :
    parse? text = some j := by
  have hread : ReadsElement text.toList j := Spells.reads h
  obtain ⟨after, hafter, hvalue⟩ :=
    hread (2 * text.toList.length + 2) [] (by omega) (by rintro _ ⟨⟩)
  have hskip : skipBlank after = [] := List.dropWhile_eq_nil_iff.mpr hafter
  rw [List.append_nil, List.append_nil] at hvalue
  rw [parse?, hvalue]
  simp only [Option.bind_eq_bind, Option.bind_some, hskip]
  rfl

end SqlTemplate.Json
