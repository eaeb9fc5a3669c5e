import SqlTemplate.Proofs.JsonGrammar
import SqlTemplate.Proofs.PathText

namespace SqlTemplate.Json

def Ends (rest : List Char) : Prop :=
  ∀ c ∈ rest.head?, isBlank c = true ∨ c = ',' ∨ c = ']' ∨ c = '\x7d'

theorem IsDigits.exists_cons {digits : List Char} (h : IsDigits digits) :
    ∃ d ds, digits = d :: ds ∧ Number.isDigit d = true := by
  obtain ⟨hne, hdigits⟩ := h
  cases digits with
  | nil => exact absurd rfl hne
  | cons d ds => exact ⟨d, ds, rfl, hdigits d List.mem_cons_self⟩

theorem ne_of_isDigit {c d : Char} (hc : Number.isDigit c = true) (hd : Number.isDigit d = false) :
    c ≠ d := by
  rintro rfl
  rw [hc] at hd
  cases hd

theorem Ends.numeral {rest : List Char} (h : Ends rest) :
    ∀ c ∈ rest.head?, Number.isDigit c = false ∧ c ≠ '.' ∧ c ≠ 'e' ∧ c ≠ 'E' := by
  intro c hc
  rcases h c hc with hblank | rfl | rfl | rfl
  · simp only [isBlank, List.contains_eq_mem, List.mem_cons, List.not_mem_nil, or_false,
      decide_eq_true_eq] at hblank
    rcases hblank with rfl | rfl | rfl | rfl <;> decide
  all_goals decide

section Numeral

-- What the reader of numerals takes off a text, step by step, and what it leaves.

def minusPart : List Char → List Char × List Char
  | '-' :: cs => (['-'], cs)
  | cs => ([], cs)

def wholePart : List Char → List Char × List Char
  | '0' :: cs => (['0'], cs)
  | cs => (cs.takeWhile Number.isDigit, cs.dropWhile Number.isDigit)

def fractionPart (cs : List Char) : List Char × List Char :=
  match cs with
  | '.' :: ds =>
    if ds.head?.any Number.isDigit then
      ('.' :: ds.takeWhile Number.isDigit, ds.dropWhile Number.isDigit)
    else ([], cs)
  | cs => ([], cs)

def signPart : List Char → List Char × List Char
  | '+' :: ds => (['+'], ds)
  | '-' :: ds => (['-'], ds)
  | ds => ([], ds)

def exponentPart (cs : List Char) : List Char × List Char :=
  match cs with
  | e :: ds =>
    let sign := signPart ds
    if (e = 'e' || e = 'E') && sign.2.head?.any Number.isDigit then
      (e :: sign.1 ++ sign.2.takeWhile Number.isDigit, sign.2.dropWhile Number.isDigit)
    else ([], cs)
  | cs => ([], cs)

theorem numeral?_eq (cs : List Char) :
    numeral? cs =
      let minus := minusPart cs
      let whole := wholePart minus.2
      let fraction := fractionPart whole.2
      let exponent := exponentPart fraction.2
      if whole.1.isEmpty then none
      else some (minus.1 ++ whole.1 ++ fraction.1 ++ exponent.1, exponent.2) := rfl

variable {sign whole fraction exponent digits rest : List Char}

theorem signPart_append (hdigits : IsDigits digits)
    (hsign : sign = [] ∨ sign = ['+'] ∨ sign = ['-']) :
    signPart (sign ++ (digits ++ rest)) = (sign, digits ++ rest) := by
  rcases hsign with rfl | rfl | rfl
  · obtain ⟨d, ds, rfl, hd⟩ := hdigits.exists_cons
    rw [List.nil_append, List.cons_append, signPart]
    · rintro _ ⟨⟩
      exact ne_of_isDigit hd (by decide) rfl
    · rintro _ ⟨⟩
      exact ne_of_isDigit hd (by decide) rfl
  · rfl
  · rfl

theorem any_head?_of_isDigits (hdigits : IsDigits digits) :
    (digits ++ rest).head?.any Number.isDigit = true := by
  obtain ⟨d, ds, rfl, hd⟩ := hdigits.exists_cons
  exact hd

variable (h : IsNumber sign whole fraction exponent)
include h

theorem IsNumber.exponentPart_append (hrest : Ends rest) :
    exponentPart (exponent ++ rest) = (exponent, rest) := by
  have hrest' : ∀ c ∈ rest.head?, Number.isDigit c = false := fun c hc => (hrest.numeral c hc).1
  rcases h.exponent with rfl | ⟨e, sign, digits, he, hsign, hdigits, rfl⟩
  · cases rest with
    | nil => rfl
    | cons c cs =>
      obtain ⟨_, _, he, hE⟩ := hrest.numeral c rfl
      simp [exponentPart, he, hE]
  · rw [List.cons_append, List.append_assoc]
    simp [exponentPart, he, signPart_append hdigits hsign, any_head?_of_isDigits hdigits,
      Text.takeWhile_append_eq hdigits.2 hrest', Text.dropWhile_append_eq hdigits.2 hrest',
      -List.head?_append]

theorem IsNumber.head_exponent (hrest : Ends rest) :
    ∀ c ∈ (exponent ++ rest).head?, Number.isDigit c = false ∧ c ≠ '.' := by
  rcases h.exponent with rfl | ⟨e, sign, digits, he, hsign, hdigits, rfl⟩
  · intro c hc
    obtain ⟨hdigit, hpoint, _⟩ := hrest.numeral c hc
    exact ⟨hdigit, hpoint⟩
  · rintro c ⟨⟩
    rcases he with rfl | rfl <;> decide

theorem IsNumber.fractionPart_append (hrest : Ends rest) :
    fractionPart (fraction ++ (exponent ++ rest)) = (fraction, exponent ++ rest) := by
  have htail := h.head_exponent hrest
  rcases h.fraction with rfl | ⟨digits, hdigits, rfl⟩
  · rw [List.nil_append]
    cases htext : exponent ++ rest with
    | nil => rfl
    | cons c cs =>
      rw [htext] at htail
      rw [fractionPart]
      rintro _ ⟨⟩
      exact (htail '.' rfl).2 rfl
  · have hdigit : ∀ c ∈ (exponent ++ rest).head?, Number.isDigit c = false :=
      fun c hc => (htail c hc).1
    rw [List.cons_append, fractionPart, if_pos (any_head?_of_isDigits hdigits),
      Text.takeWhile_append_eq hdigits.2 hdigit, Text.dropWhile_append_eq hdigits.2 hdigit]

theorem IsNumber.wholePart_append (hrest : Ends rest) :
    wholePart (whole ++ (fraction ++ (exponent ++ rest))) =
      (whole, fraction ++ (exponent ++ rest)) := by
  have htail : ∀ c ∈ (fraction ++ (exponent ++ rest)).head?, Number.isDigit c = false := by
    rcases h.fraction with rfl | ⟨digits, hdigits, rfl⟩
    · exact fun c hc => (h.head_exponent hrest c hc).1
    · rintro c ⟨⟩
      decide
  rcases h.whole with rfl | ⟨hwhole, hzero⟩
  · rfl
  · rw [wholePart]
    · rw [Text.takeWhile_append_eq hwhole.2 htail, Text.dropWhile_append_eq hwhole.2 htail]
    · obtain ⟨d, ds, rfl, hd⟩ := hwhole.exists_cons
      rintro _ ⟨⟩
      exact hzero rfl

theorem IsNumber.exists_whole : ∃ d ds, whole = d :: ds ∧ Number.isDigit d = true := by
  rcases h.whole with rfl | ⟨hwhole, _⟩
  · exact ⟨_, _, rfl, by decide⟩
  · exact hwhole.exists_cons

theorem IsNumber.minusPart_append :
    minusPart (sign ++ (whole ++ rest)) = (sign, whole ++ rest) := by
  obtain ⟨d, ds, rfl, hd⟩ := h.exists_whole
  rcases h.sign with rfl | rfl
  · rw [List.nil_append, List.cons_append, minusPart]
    rintro _ ⟨⟩
    exact ne_of_isDigit hd (by decide) rfl
  · rfl

theorem IsNumber.numeral?_append (hrest : Ends rest) :
    numeral? (sign ++ (whole ++ (fraction ++ (exponent ++ rest)))) =
      some (sign ++ (whole ++ (fraction ++ exponent)), rest) := by
  have hwhole : whole.isEmpty = false := by
    obtain ⟨d, ds, rfl, _⟩ := h.exists_whole
    rfl
  simp [numeral?_eq, h.minusPart_append, h.wholePart_append hrest, h.fractionPart_append hrest,
    h.exponentPart_append hrest, hwhole]

end Numeral

theorem unescape?_of_mem {e c : Char} (h : (e, c) ∈ shortEscapes) : unescape? e = some c := by
  revert h
  simp only [shortEscapes, List.mem_cons, List.not_mem_nil, Prod.mk.injEq]
  rintro (⟨rfl, rfl⟩ | ⟨rfl, rfl⟩ | ⟨rfl, rfl⟩ | ⟨rfl, rfl⟩ | ⟨rfl, rfl⟩ | ⟨rfl, rfl⟩ | ⟨rfl, rfl⟩ |
    ⟨rfl, rfl⟩ | h) <;> first | decide | cases h

theorem decode?_cons {n : Nat} (hhigh : isHighSurrogate n = false) (hlow : isLowSurrogate n = false)
    (ns : List Nat) : decode? (n :: ns) = (decode? ns).map (Char.ofNat n :: ·) := by
  cases ns with
  | nil => simp [decode?, hhigh, hlow]
  | cons m ns => simp [decode?, hhigh, hlow]

theorem decode?_pair {high low : Nat} (hhigh : high < 0x400) (hlow : low < 0x400) (ns : List Nat) :
    decode? ((0xD800 + high) :: (0xDC00 + low) :: ns) =
      (decode? ns).map (Char.ofNat (0x10000 + high * 0x400 + low) :: ·) := by
  have h : isHighSurrogate (0xD800 + high) = true := by simp [isHighSurrogate]; omega
  have h' : isLowSurrogate (0xDC00 + low) = true := by simp [isLowSurrogate]; omega
  rw [decode?, if_pos h, if_pos h', Nat.add_sub_cancel_left, Nat.add_sub_cancel_left]

theorem not_surrogate_toNat (c : Char) :
    isHighSurrogate c.toNat = false ∧ isLowSurrogate c.toNat = false := by
  have h : c.toNat < 0xD800 ∨ 0xDFFF < c.toNat ∧ c.toNat < 0x110000 := c.valid
  simp [isHighSurrogate, isLowSurrogate]
  omega

theorem decode?_toNat (c : Char) (ns : List Nat) :
    decode? (c.toNat :: ns) = (decode? ns).map (c :: ·) := by
  rw [decode?_cons (not_surrogate_toNat c).1 (not_surrogate_toNat c).2, Char.ofNat_toNat]

theorem unescape?_unicode : unescape? 'u' = none := by decide

theorem SpellsChar.units {text : List Char} {c : Char} (h : SpellsChar text c) :
    ∃ units, (∀ rest, stringRest? (text ++ rest) =
        (stringRest? rest).map fun r => (units ++ r.1, r.2)) ∧
      ∀ ns, decode? (units ++ ns) = (decode? ns).map (c :: ·) := by
  cases h with
  | plain hblank hquote hbackslash =>
    refine ⟨[c.toNat], fun rest => ?_, decode?_toNat c⟩
    have hcontrol : ¬ c.toNat < 0x20 := Nat.not_lt.mpr hblank
    simp [stringRest?, hbackslash, hcontrol]
  | @short e _ h =>
    refine ⟨[c.toNat], fun rest => ?_, decode?_toNat c⟩
    have he : unescape? e = some c := unescape?_of_mem h
    have hne : e ≠ 'u' := by
      rintro rfl
      rw [unescape?_unicode] at he
      cases he
    simp only [List.cons_append, List.nil_append]
    rw [stringRest?.eq_3 _ _ fun _ _ _ _ _ hu _ => hne hu, he]
    cases stringRest? rest <;> rfl
  | unicode h hn =>
    refine ⟨[_], fun rest => ?_, decode?_cons ?_ ?_⟩
    · simp only [List.cons_append, List.nil_append, stringRest?, h]
      cases stringRest? rest <;> rfl
    · simp [isHighSurrogate]; omega
    · simp [isLowSurrogate]; omega
  | pair h h' hhigh hlow =>
    refine ⟨[_, _], fun rest => ?_, decode?_pair hhigh hlow⟩
    simp only [List.cons_append, List.nil_append, stringRest?, h, h']
    cases stringRest? rest <;> rfl

theorem stringRest?_of_spellings {spellings : List (List Char)} {cs : List Char}
    (h : List.Forall₂ SpellsChar spellings cs) : ∃ units, decode? units = some cs ∧
      ∀ rest, stringRest? (spellings.flatten ++ '"' :: rest) = some (units, rest) := by
  induction h with
  | nil => exact ⟨[], rfl, fun rest => rfl⟩
  | cons hc _ ih =>
    obtain ⟨units, hunits, hread⟩ := ih
    obtain ⟨front, hfront, hdecode⟩ := hc.units
    refine ⟨front ++ units, ?_, fun rest => ?_⟩
    · rw [hdecode, hunits, Option.map_some]
    · rw [List.flatten_cons, List.append_assoc, hfront, hread, Option.map_some]

theorem SpellsString.read {text : List Char} {s : String} (h : SpellsString text s) :
    ∃ body units, text = '"' :: body ∧ decodeString? units = some s ∧
      ∀ rest, stringRest? (body ++ rest) = some (units, rest) := by
  obtain ⟨spellings, hs, rfl⟩ := h
  obtain ⟨units, hunits, hread⟩ := stringRest?_of_spellings hs
  refine ⟨_, units, rfl, ?_, fun rest => ?_⟩
  · rw [decodeString?, hunits, Option.map_some, String.ofList_toList]
  · rw [List.append_assoc]
    exact hread rest

end SqlTemplate.Json
