import SqlTemplate.Condition.Stream
import SqlTemplate.Proofs.ConnectorText
import SqlTemplate.Proofs.PathText

namespace SqlTemplate.Condition

namespace Stream

variable {c after : Cursor}

theorem scan_token {t : Token} (h : next c = (.ok t, after)) (ht : t ≠ .endOfInput) :
    scan c = .token t after.position (scan after) := by
  rw [scan]
  split
  · next h' =>
    rw [h] at h'
    cases h'
  · next h' =>
    rw [h] at h'
    cases h'
    rw [dif_neg ht]

theorem scan_ended (h : next c = (.ok .endOfInput, after)) : scan c = .ended after.position := by
  rw [scan]
  split
  · next h' =>
    rw [h] at h'
    cases h'
  · next h' =>
    rw [h] at h'
    cases h'
    rw [dif_pos rfl]

theorem scan_broken {e : LexError} (h : next c = (.error e, after)) : scan c = .broken e := by
  rw [scan]
  split
  · next h' =>
    rw [h] at h'
    cases h'
    rfl
  · next h' =>
    rw [h] at h'
    cases h'

end Stream

theorem next_dot (p : Nat) (cs : List Char) : next ⟨p, '.' :: cs⟩ = (.ok .dot, ⟨p + 1, cs⟩) := rfl

theorem exists_of_isIdentifierPart {c : Char} (h : isIdentifierPart c = true) :
    ∃ n < 128, c = Char.ofNat n :=
  ⟨c.toNat, Connector.toNat_lt_of_isIdentifierPart h, (Char.ofNat_toNat c).symm⟩

theorem isWordPart_of_isIdentifierPart {c : Char} (h : isIdentifierPart c = true) :
    isWordPart c = true := by
  have hall : ∀ n < 128, isIdentifierPart (Char.ofNat n) = true →
      isWordPart (Char.ofNat n) = true := by decide
  obtain ⟨n, hn, rfl⟩ := exists_of_isIdentifierPart h
  exact hall n hn h

theorem next_of_isIdentifierPart {c : Char} (h : isIdentifierPart c = true) (p : Nat)
    (cs : List Char) : next ⟨p, c :: cs⟩ = longTokenAt c cs ⟨p, c :: cs⟩ := by
  have hall : ∀ n < 128, isIdentifierPart (Char.ofNat n) = true →
      Text.isBlank (Char.ofNat n) = false ∧ punctuation? (Char.ofNat n) = none ∧
        doubled? (Char.ofNat n) = none ∧ extended? (Char.ofNat n) = none := by decide
  obtain ⟨n, hn, rfl⟩ := exists_of_isIdentifierPart h
  obtain ⟨hblank, hpunctuation, hdoubled, hextended⟩ := hall n hn h
  have hskip : (Cursor.mk p (Char.ofNat n :: cs)).skipWhile Text.isBlank =
      ⟨p, Char.ofNat n :: cs⟩ := by
    rw [Cursor.skipWhile, List.takeWhile_cons_of_neg (by simp [hblank])]
    rfl
  rw [next, hskip, tokenAt]
  dsimp only
  rw [hpunctuation, hdoubled, hextended]

theorem longTokenAt_of_isIdentifierStart {c : Char} (h : isIdentifierStart c = true)
    (cs : List Char) (here : Cursor) : longTokenAt c cs here =
      (.ok ((Token.keyword? (word here)).getD (.identifier (word here))),
        here.skipWhile isWordPart) := by
  have hpart : isIdentifierPart c = true := by rw [isIdentifierPart, h, Bool.true_or]
  have hall : ∀ n < 128, isIdentifierStart (Char.ofNat n) = true →
      ¬(Char.ofNat n = '"' ∨ Char.ofNat n = '\'') ∧ Char.ofNat n ≠ '#' ∧
        isWordStart (Char.ofNat n) = true := by decide
  obtain ⟨n, hn, rfl⟩ := exists_of_isIdentifierPart hpart
  obtain ⟨hquote, hsharp, hstart⟩ := hall n hn h
  rw [longTokenAt, if_neg hquote, if_neg hsharp, if_pos hstart]

theorem longTokenAt_of_isDigit {c : Char} (h : Number.isDigit c = true) (cs : List Char)
    (here : Cursor) : longTokenAt c cs here = number false here := by
  have hpart : isIdentifierPart c = true := by rw [isIdentifierPart, h, Bool.or_true]
  have hall : ∀ n < 128, Number.isDigit (Char.ofNat n) = true →
      ¬(Char.ofNat n = '"' ∨ Char.ofNat n = '\'') ∧ Char.ofNat n ≠ '#' ∧
        ¬isWordStart (Char.ofNat n) = true := by decide
  obtain ⟨n, hn, rfl⟩ := exists_of_isIdentifierPart hpart
  obtain ⟨hquote, hsharp, hstart⟩ := hall n hn h
  rw [longTokenAt, if_neg hquote, if_neg hsharp, if_neg hstart, if_pos h]

theorem skipWhile_append {p : Char → Bool} {w rest : List Char} (hw : ∀ c ∈ w, p c = true)
    (hrest : ∀ c ∈ rest.head?, p c = false) (n : Nat) :
    (Cursor.mk n (w ++ rest)).skipWhile p = ⟨n + w.length, rest⟩ := by
  rw [Cursor.skipWhile, Cursor.skip, Text.takeWhile_append_eq hw hrest, List.drop_left]

section Word
variable {rest : List Char} (hrest : ∀ c ∈ rest.head?, isWordPart c = false) (p : Nat)
include hrest

theorem next_word {name : List Char} (hname : isIdentifier name = true) :
    next ⟨p, name ++ rest⟩ =
      (.ok ((Token.keyword? (String.ofList name)).getD (.identifier (String.ofList name))),
        ⟨p + name.length, rest⟩) := by
  cases name with
  | nil => cases hname
  | cons c cs =>
    rw [isIdentifier, Bool.and_eq_true, List.all_eq_true] at hname
    have hc : isIdentifierPart c = true := by rw [isIdentifierPart, hname.1, Bool.true_or]
    have hword : ∀ d ∈ c :: cs, isWordPart d = true := by
      intro d hd
      rcases List.mem_cons.mp hd with rfl | hd
      · exact isWordPart_of_isIdentifierPart hc
      · exact isWordPart_of_isIdentifierPart (hname.2 d hd)
    have htake : word ⟨p, c :: cs ++ rest⟩ = String.ofList (c :: cs) :=
      congrArg String.ofList (Text.takeWhile_append_eq hword hrest)
    have hskip := skipWhile_append hword hrest p
    rw [List.cons_append] at htake hskip ⊢
    rw [next_of_isIdentifierPart hc, longTokenAt_of_isIdentifierStart hname.1, htake, hskip]

theorem next_current : next ⟨p, currentAlias.toList ++ rest⟩ =
    (.ok (.identifier currentAlias), ⟨p + 8, rest⟩) := by
  have hcurrent : ∀ c ∈ "current".toList, isWordPart c = true := List.all_eq_true.mp rfl
  have htake : word ⟨p + 1, "current".toList ++ rest⟩ = "current" :=
    congrArg String.ofList (Text.takeWhile_append_eq hcurrent hrest)
  have hskip := skipWhile_append hcurrent hrest (p + 1)
  have hnext : next ⟨p, currentAlias.toList ++ rest⟩ =
      longTokenAt '#' ("current".toList ++ rest) ⟨p, currentAlias.toList ++ rest⟩ := rfl
  have hbehind : (Cursor.mk p (currentAlias.toList ++ rest)).skip 1 =
      ⟨p + 1, "current".toList ++ rest⟩ := rfl
  rw [hnext, longTokenAt, if_neg (by decide), if_pos rfl, hbehind, htake, hskip]
  rfl

end Word

section Numeral
variable {digits : List Char} (hdigits : ∀ c ∈ digits, Number.isDigit c = true)
include hdigits

theorem numeral_whole {rest : List Char} (hrest : ∀ c ∈ rest.head?, Number.isDigit c = false)
    (hpoint : ∀ d ds, rest = '.' :: d :: ds → Number.isDigit d = false) :
    numeral (digits ++ rest) = (digits, none) := by
  rw [numeral, Text.takeWhile_append_eq hdigits hrest, Text.dropWhile_append_eq hdigits hrest]
  split
  · next d ds => rw [if_neg (by simp [hpoint d ds rfl])]
  · rfl

theorem number_whole {rest : List Char} (hrest : ∀ c ∈ rest.head?, Number.isDigit c = false)
    (hpoint : ∀ d ds, rest = '.' :: d :: ds → Number.isDigit d = false) (negative : Bool)
    (p : Nat) :
    number negative ⟨p, digits ++ rest⟩ =
      (if Number.ofDigits digits ≤ maxInteger then
        .ok (.integer (if negative then -(.ofNat (Number.ofDigits digits))
          else .ofNat (Number.ofDigits digits)))
      else .error (.invalidNumber (String.ofList digits) p), ⟨p + digits.length, rest⟩) := by
  have hskip : (Cursor.mk p (digits ++ rest)).skip digits.length = ⟨p + digits.length, rest⟩ := by
    rw [Cursor.skip, List.drop_left]
  rw [number, numeral_whole hdigits hrest hpoint]
  dsimp only
  rw [hskip]
  split
  · rfl
  · rfl

theorem numeral_point {d : Char} (hd : Number.isDigit d = true) (ds : List Char) :
    numeral (digits ++ '.' :: d :: ds) = (digits, some (d :: ds.takeWhile Number.isDigit)) := by
  have hrest : ∀ c ∈ ('.' :: d :: ds).head?, Number.isDigit c = false := by
    rintro c ⟨⟩
    decide
  rw [numeral, Text.takeWhile_append_eq hdigits hrest, Text.dropWhile_append_eq hdigits hrest]
  exact if_pos hd

variable (hne : digits ≠ []) (p : Nat)
include hne

theorem next_digits (rest : List Char) :
    next ⟨p, digits ++ rest⟩ = number false ⟨p, digits ++ rest⟩ := by
  cases digits with
  | nil => exact absurd rfl hne
  | cons c cs =>
    have hc := hdigits c List.mem_cons_self
    have hpart : isIdentifierPart c = true := by rw [isIdentifierPart, hc, Bool.or_true]
    rw [List.cons_append, next_of_isIdentifierPart hpart, longTokenAt_of_isDigit hc]

theorem next_integer {rest : List Char} (hrest : ∀ c ∈ rest.head?, Number.isDigit c = false)
    (hpoint : ∀ d ds, rest = '.' :: d :: ds → Number.isDigit d = false) :
    next ⟨p, digits ++ rest⟩ =
      (if Number.ofDigits digits ≤ maxInteger then
        .ok (.integer (.ofNat (Number.ofDigits digits)))
      else .error (.invalidNumber (String.ofList digits) p), ⟨p + digits.length, rest⟩) := by
  rw [next_digits hdigits hne, number_whole hdigits hrest hpoint]
  rfl

theorem next_minus (rest : List Char) :
    next ⟨p, '-' :: (digits ++ rest)⟩ = number true ⟨p + 1, digits ++ rest⟩ := by
  have hdigit : (digits ++ rest).head?.any Number.isDigit = true := by
    cases digits with
    | nil => exact absurd rfl hne
    | cons c cs => exact hdigits c List.mem_cons_self
  have hnext : next ⟨p, '-' :: (digits ++ rest)⟩ =
      longTokenAt '-' (digits ++ rest) ⟨p, '-' :: (digits ++ rest)⟩ := rfl
  have hskip : (Cursor.mk p ('-' :: (digits ++ rest))).skip 1 = ⟨p + 1, digits ++ rest⟩ := rfl
  rw [hnext, longTokenAt, if_neg (by decide), if_neg (by decide), if_neg (by decide),
    if_neg (by decide), if_pos ⟨rfl, hdigit⟩, hskip]

theorem next_negative {rest : List Char} (hrest : ∀ c ∈ rest.head?, Number.isDigit c = false)
    (hpoint : ∀ d ds, rest = '.' :: d :: ds → Number.isDigit d = false) :
    next ⟨p, '-' :: (digits ++ rest)⟩ =
      (if Number.ofDigits digits ≤ maxInteger then
        .ok (.integer (-(.ofNat (Number.ofDigits digits))))
      else .error (.invalidNumber (String.ofList digits) (p + 1)),
        ⟨p + (digits.length + 1), rest⟩) := by
  rw [next_minus hdigits hne, number_whole hdigits hrest hpoint, Nat.add_comm digits.length,
    ← Nat.add_assoc]
  rfl

theorem next_float {d : Char} (hd : Number.isDigit d = true) (ds : List Char) :
    ∃ x after, next ⟨p, digits ++ '.' :: d :: ds⟩ = (.ok (.float x), after) := by
  rw [next_digits hdigits hne, number, numeral_point hdigits hd]
  exact ⟨_, _, rfl⟩

end Numeral

namespace Stream
variable (p : Nat)

theorem scan_nil : scan ⟨p, []⟩ = .ended p := by
  have hnext : next ⟨p, []⟩ = (.ok .endOfInput, ⟨p, []⟩) := rfl
  exact scan_ended hnext

theorem scan_dot (cs : List Char) : scan ⟨p, '.' :: cs⟩ = .token .dot (p + 1) (scan ⟨p + 1, cs⟩) :=
  scan_token (next_dot p cs) nofun

end Stream

end SqlTemplate.Condition
