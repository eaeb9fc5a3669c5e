import SqlTemplate.Proofs.StatementJson

namespace SqlTemplate

namespace Json

inductive Place where
  | outside
  | inside
  | escaped

namespace Place

def next : Place → Char → Place
  | outside, c => if c = '"' then inside else outside
  | inside, c => if c = '"' then outside else if c = '\\' then escaped else inside
  | escaped, _ => inside

def drops : Place → Char → Bool
  | outside, c => c = ' ' || c = '\n'
  | _, _ => false

end Place

def isPlain (c : Char) : Bool := !Place.outside.drops c && c ≠ '"'

/-- The text without the newlines and blanks outside its strings. -/
def squeeze : Place → List Char → List Char
  | _, [] => []
  | place, c :: cs => if place.drops c then squeeze place cs else c :: squeeze (place.next c) cs

def squeezed (text : String) : String := String.ofList (squeeze .outside text.toList)

theorem squeeze_squeeze (place : Place) (cs : List Char) :
    squeeze place (squeeze place cs) = squeeze place cs := by
  induction cs generalizing place with
  | nil => rfl
  | cons c cs ih =>
    rw [squeeze]
    split
    · exact ih place
    · next hkept => rw [squeeze, if_neg hkept, ih]

def Squeezes (text short : List Char) : Prop :=
  ∀ rest, squeeze .outside (text ++ rest) = short ++ squeeze .outside rest

theorem squeezes_nil : Squeezes [] [] := fun _ => rfl

theorem Squeezes.append {text short text' short' : List Char} (h : Squeezes text short)
    (h' : Squeezes text' short') : Squeezes (text ++ text') (short ++ short') := by
  intro rest
  rw [List.append_assoc, h, h', List.append_assoc]

theorem squeezes_of_drops {text : List Char} (h : text.all Place.outside.drops = true) :
    Squeezes text [] := by
  intro rest
  induction text with
  | nil => rfl
  | cons c cs ih =>
    rw [List.all_cons, Bool.and_eq_true] at h
    rw [List.cons_append, squeeze, if_pos h.1, ih h.2]

theorem squeezes_of_plain {text : List Char} (h : text.all isPlain = true) : Squeezes text text := by
  intro rest
  induction text with
  | nil => rfl
  | cons c cs ih =>
    rw [List.all_cons, Bool.and_eq_true, isPlain, Bool.and_eq_true, decide_eq_true_eq,
      Bool.not_eq_true'] at h
    obtain ⟨⟨hstays, hquote⟩, hcs⟩ := h
    have hnext : Place.outside.next c = .outside := if_neg hquote
    rw [List.cons_append, squeeze, hstays, if_neg Bool.false_ne_true, hnext, ih hcs,
      List.cons_append]

section Strings

theorem squeeze_inside {text : List Char} (h : ∀ c ∈ text, c ≠ '"' ∧ c ≠ '\\') (rest : List Char) :
    squeeze .inside (text ++ rest) = text ++ squeeze .inside rest := by
  induction text with
  | nil => rfl
  | cons c cs ih =>
    rw [List.forall_mem_cons] at h
    obtain ⟨⟨hquote, hbackslash⟩, hcs⟩ := h
    have hnext : Place.inside.next c = .inside := by
      rw [Place.next, if_neg hquote, if_neg hbackslash]
    rw [List.cons_append, squeeze, if_neg (by simp [Place.drops]), hnext, ih hcs, List.cons_append]

theorem squeeze_escape (e : Char) (rest : List Char) :
    squeeze .inside ('\\' :: e :: rest) = '\\' :: e :: squeeze .inside rest := rfl

theorem ne_of_hex4? {a b c d : Char} {n : Nat} (h : hex4? a b c d = some n) :
    ∀ x ∈ [a, b, c, d], x ≠ '"' ∧ x ≠ '\\' := by
  have hvalue {x : Char} {n : Nat} (hx : hexValue? x = some n) : x ≠ '"' ∧ x ≠ '\\' := by
    constructor
    · rintro rfl
      cases hx
    · rintro rfl
      cases hx
  simp only [hex4?, Option.bind_eq_bind, Option.bind_eq_some_iff] at h
  obtain ⟨i, ha, j, hb, k, hc, l, hd, -⟩ := h
  intro x hx
  simp only [List.mem_cons, List.not_mem_nil, or_false] at hx
  rcases hx with rfl | rfl | rfl | rfl
  · exact hvalue ha
  · exact hvalue hb
  · exact hvalue hc
  · exact hvalue hd

theorem SpellsChar.squeeze {spelling : List Char} {c : Char} (h : SpellsChar spelling c)
    (rest : List Char) :
    Json.squeeze .inside (spelling ++ rest) = spelling ++ Json.squeeze .inside rest := by
  cases h with
  | plain _ hquote hbackslash =>
    exact squeeze_inside (List.forall_mem_singleton.mpr ⟨hquote, hbackslash⟩) rest
  | short => exact squeeze_escape _ rest
  | @unicode a b c d n h =>
    have hdigits := squeeze_inside (ne_of_hex4? h) rest
    exact (squeeze_escape 'u' _).trans (congrArg (['\\', 'u'] ++ ·) hdigits)
  | @pair a b c d a' b' c' d' _ _ h h' =>
    have hlow := squeeze_inside (ne_of_hex4? h') rest
    have hhigh := squeeze_inside (ne_of_hex4? h) ('\\' :: 'u' :: ([a', b', c', d'] ++ rest))
    rw [squeeze_escape, hlow] at hhigh
    exact (squeeze_escape 'u' _).trans (congrArg (['\\', 'u'] ++ ·) hhigh)

theorem squeeze_spellings {spellings : List (List Char)} {cs : List Char}
    (h : List.Forall₂ SpellsChar spellings cs) (rest : List Char) :
    squeeze .inside (spellings.flatten ++ rest) = spellings.flatten ++ squeeze .inside rest := by
  induction h with
  | nil => rfl
  | cons hc _ ih => rw [List.flatten_cons, List.append_assoc, hc.squeeze, ih, List.append_assoc]

theorem SpellsString.squeezes {text : List Char} {s : String} (h : SpellsString text s) :
    Squeezes text text := by
  obtain ⟨spellings, hspellings, rfl⟩ := h
  intro rest
  have hbody := squeeze_spellings hspellings ('"' :: rest)
  have hend : squeeze .inside ('"' :: rest) = '"' :: squeeze .outside rest := rfl
  have hstart : squeeze .outside ('"' :: (spellings.flatten ++ '"' :: rest)) =
      '"' :: squeeze .inside (spellings.flatten ++ '"' :: rest) := rfl
  simp [hstart, hbody, hend]

end Strings

theorem SpellsNumber.squeezes {text : List Char} (h : SpellsNumber text) : Squeezes text text := by
  have hdigits {digits : List Char} (h : IsDigits digits) : digits.all isPlain = true := by
    rw [List.all_eq_true]
    intro c hc
    have hdigit := h.2 c hc
    have hplain : c ≠ ' ' ∧ c ≠ '\n' ∧ c ≠ '"' :=
      ⟨ne_of_isDigit hdigit rfl, ne_of_isDigit hdigit rfl, ne_of_isDigit hdigit rfl⟩
    simp [isPlain, Place.drops, hplain]
  obtain ⟨sign, whole, fraction, exponent, h, rfl⟩ := h
  apply squeezes_of_plain
  rw [List.all_append, List.all_append, List.all_append, Bool.and_eq_true, Bool.and_eq_true,
    Bool.and_eq_true]
  refine ⟨?_, ?_, ?_, ?_⟩
  · rcases h.sign with rfl | rfl <;> rfl
  · rcases h.whole with rfl | ⟨hwhole, -⟩
    · rfl
    · exact hdigits hwhole
  · rcases h.fraction with rfl | ⟨digits, hfraction, rfl⟩
    · rfl
    · rw [List.all_cons, hdigits hfraction]
      rfl
  · rcases h.exponent with rfl | ⟨e, sign, digits, he, hsign, hexponent, rfl⟩
    · rfl
    · have hletter : isPlain e = true := by rcases he with rfl | rfl <;> rfl
      have hsigns : sign.all isPlain = true := by rcases hsign with rfl | rfl | rfl <;> rfl
      rw [List.all_cons, List.all_append, hletter, hsigns, hdigits hexponent]
      rfl

section Layouts

theorem squeezes_indentation (level : Nat) : Squeezes ('\n' :: indentation level) [] := by
  apply squeezes_of_drops
  rw [indentation, List.all_cons, List.all_replicate]
  simp [Place.drops]

theorem squeezes_mark {c : Char} (h : isPlain c = true) : Squeezes [c] [c] :=
  squeezes_of_plain (by rw [List.all_cons, h]; rfl)

variable {texts shorts : List (List Char)} (h : List.Forall₂ Squeezes texts shorts)
include h

theorem squeezes_intercalate :
    Squeezes ([','].intercalate texts) ([','].intercalate shorts) := by
  induction h with
  | nil => exact squeezes_nil
  | cons hitem hitems ih =>
    cases hitems with
    | nil =>
      rw [List.intercalate_singleton, List.intercalate_singleton]
      exact hitem
    | cons hnext hitems =>
      rw [List.intercalate_cons_cons, List.intercalate_cons_cons]
      exact (hitem.append (squeezes_mark rfl)).append ih

theorem squeezes_encloseLines {left right : Char} (hleft : Squeezes [left] [left])
    (hright : Squeezes [right] [right]) (level : Nat) :
    Squeezes (encloseLines level left right texts) (enclose left right shorts) := by
  have hline {text short : List Char} (h : Squeezes text short) :
      Squeezes ('\n' :: (indentation (level + 1) ++ text)) short :=
    (squeezes_indentation (level + 1)).append h
  have hlines : List.Forall₂ Squeezes
      (texts.map fun text => '\n' :: (indentation (level + 1) ++ text)) shorts :=
    List.forall₂_map_left_iff.mpr (h.imp fun _ _ => hline)
  have hclose : Squeezes ('\n' :: (indentation level ++ [right])) [right] :=
    (squeezes_indentation level).append hright
  cases h with
  | nil => exact hleft.append hright
  | cons => exact hleft.append ((squeezes_intercalate hlines).append hclose)

end Layouts

theorem squeezes_scalar {j : Json} (h : j.Printable) (harray : ∀ js, j ≠ array js)
    (hobject : ∀ ms, j ≠ object ms) : Squeezes j.compact j.compact := by
  cases j with
  | null | meaningless =>
    rw [compact]
    exact squeezes_of_plain rfl
  | bool b =>
    rw [compact]
    cases b <;> exact squeezes_of_plain rfl
  | number text =>
    rw [compact]
    rw [Printable] at h
    exact h.squeezes
  | string s =>
    rw [compact]
    exact (spellsString_writeString s).squeezes
  | array js => exact absurd rfl (harray js)
  | object ms => exact absurd rfl (hobject ms)

mutual

theorem squeezes_pretty : (j : Json) → j.Printable → ∀ level, Squeezes (j.pretty level) j.compact
  | null, h | bool _, h | number _, h | string _, h => fun level => by
    rw [pretty]
    · exact squeezes_scalar h nofun nofun
    · exact nofun
    · exact nofun
  | array js, h => fun level => by
    rw [pretty, compact]
    rw [Printable] at h
    exact squeezes_encloseLines (squeezes_prettyItems js h (level + 1)) (squeezes_mark rfl)
      (squeezes_mark rfl) level
  | object ms, h => fun level => by
    rw [pretty, compact]
    rw [Printable] at h
    exact squeezes_encloseLines (squeezes_prettyMembers ms h (level + 1))
      (squeezes_mark rfl) (squeezes_mark rfl) level

theorem squeezes_prettyItems : (js : List Json) → PrintableItems js → ∀ level,
    List.Forall₂ Squeezes (prettyItems level js) (compactItems js)
  | [], _ => fun level => by
    rw [prettyItems, compactItems]
    exact .nil
  | j :: js, h => fun level => by
    rw [prettyItems, compactItems]
    rw [PrintableItems] at h
    exact .cons (squeezes_pretty j h.1 level) (squeezes_prettyItems js h.2 level)

theorem squeezes_prettyMembers : (ms : List (String × Json)) → PrintableMembers ms → ∀ level,
    List.Forall₂ Squeezes (prettyMembers level ms) (compactMembers ms)
  | [], _ => fun level => by
    rw [prettyMembers, compactMembers]
    exact .nil
  | (name, j) :: ms, h => fun level => by
    rw [prettyMembers, compactMembers]
    rw [PrintableMembers] at h
    have hname := (spellsString_writeString name).squeezes
    have hcolon : Squeezes [':', ' '] [':'] :=
      (squeezes_mark rfl).append (squeezes_of_drops rfl)
    exact .cons (hname.append (hcolon.append (squeezes_pretty j h.1 level)))
      (squeezes_prettyMembers ms h.2 level)

end

end Json

theorem Statement.squeezed_prettyJson (s : Statement) :
    Json.squeezed s.prettyJson = s.json ∧ Json.squeezed s.json = s.json := by
  have hpretty : Json.squeezed s.prettyJson = s.json := by
    have h := Json.squeezes_pretty s.toJson s.printable_toJson 0 []
    rw [List.append_nil, Json.squeeze, List.append_nil] at h
    rw [Json.squeezed, prettyJson, String.toList_ofList, h, json]
  refine ⟨hpretty, ?_⟩
  rw [← hpretty, Json.squeezed, Json.squeezed, String.toList_ofList, Json.squeeze_squeeze]

end SqlTemplate
