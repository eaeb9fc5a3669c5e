import SqlTemplate.Proofs.ConditionPath

namespace SqlTemplate.Condition

section StringBody

def escape (quote : Char) (text : List Char) : List Char :=
  text.flatMap fun c => if c = quote ∨ c = '\\' then [c, c] else [c]

def stringLiteral (quote : Char) (s : String) : List Char :=
  quote :: (escape quote s.toList ++ [quote])

theorem escape_doubled {quote c : Char} (h : c = quote ∨ c = '\\') (cs : List Char) :
    escape quote (c :: cs) = c :: c :: escape quote cs := by
  rw [escape, List.flatMap_cons, if_pos h]
  rfl

theorem escape_plain {quote c : Char} (h : ¬(c = quote ∨ c = '\\')) (cs : List Char) :
    escape quote (c :: cs) = c :: escape quote cs := by
  rw [escape, List.flatMap_cons, if_neg h]
  rfl

variable {quote : Char} (start p : Nat)

theorem stringBody_doubled {c : Char} (h : c = quote ∨ c = '\\') (cs : List Char) :
    stringBody quote start p (c :: c :: cs) = push c (stringBody quote start (p + 2) cs) := by
  rw [stringBody]
  split
  · next hquote => rw [hquote]
  · next hquote =>
    obtain rfl : c = '\\' := h.resolve_left hquote
    exact if_pos rfl

theorem stringBody_plain {c : Char} (h : ¬(c = quote ∨ c = '\\')) {cs : List Char}
    (hcs : cs ≠ []) :
    stringBody quote start p (c :: cs) = push c (stringBody quote start (p + 1) cs) := by
  rw [not_or] at h
  cases cs with
  | nil => exact absurd rfl hcs
  | cons d cs => rw [stringBody, if_neg h.1, if_neg h.2]

theorem stringBody_closing {cs : List Char} (h : cs.head? ≠ some quote) :
    stringBody quote start p (quote :: cs) = (.ok [], ⟨p + 1, cs⟩) := by
  cases cs with
  | nil => rw [stringBody, if_pos rfl]
  | cons d cs =>
    have hd : d ≠ quote := fun hd => h (congrArg some hd)
    rw [stringBody, if_pos rfl, if_neg hd]

theorem stringBody_escape (cs : List Char) {more : List Char} (hmore : more ≠ []) :
    stringBody quote start p (escape quote cs ++ more) =
      cs.foldr push (stringBody quote start (p + (escape quote cs).length) more) := by
  induction cs generalizing p with
  | nil => rfl
  | cons c cs ih =>
    by_cases hc : c = quote ∨ c = '\\'
    · have hlength : p + (escape quote (c :: cs)).length = p + 2 + (escape quote cs).length := by
        rw [escape_doubled hc, List.length_cons, List.length_cons]
        omega
      rw [hlength, escape_doubled hc, List.cons_append, List.cons_append,
        stringBody_doubled start p hc, ih, List.foldr_cons]
    · have hlength : p + (escape quote (c :: cs)).length = p + 1 + (escape quote cs).length := by
        rw [escape_plain hc, List.length_cons]
        omega
      have hbehind : escape quote cs ++ more ≠ [] := List.append_ne_nil_of_right_ne_nil _ hmore
      rw [hlength, escape_plain hc, List.cons_append, stringBody_plain start p hc hbehind, ih,
        List.foldr_cons]

theorem foldr_push (cs : List Char) (r : Except LexError (List Char) × Cursor) :
    cs.foldr push r = (r.1.map (cs ++ ·), r.2) := by
  induction cs with
  | nil =>
    obtain ⟨read, after⟩ := r
    cases read <;> rfl
  | cons c cs ih =>
    obtain ⟨read, after⟩ := r
    rw [List.foldr_cons, ih]
    cases read <;> rfl

end StringBody

section StringLiteral
variable {quote : Char} (hquote : quote = '"' ∨ quote = '\'') (s : String) (p : Nat)
include hquote

theorem next_quote (cs : List Char) : next ⟨p, quote :: cs⟩ =
    ((stringBody quote p (p + 1) cs).1.map fun text => .string (String.ofList text),
      (stringBody quote p (p + 1) cs).2) := by
  have hnext : next ⟨p, quote :: cs⟩ = longTokenAt quote cs ⟨p, quote :: cs⟩ := by
    rcases hquote with rfl | rfl
    · rfl
    · rfl
  rw [hnext, longTokenAt, if_pos hquote]

theorem next_stringLiteral_append (rest : List Char) :
    next ⟨p, stringLiteral quote s ++ rest⟩ =
      let r := stringBody quote p (p + 1 + (escape quote s.toList).length) (quote :: rest)
      (r.1.map fun text => .string (String.ofList (s.toList ++ text)), r.2) := by
  have hbody : stringBody quote p (p + 1) (escape quote s.toList ++ quote :: rest) = _ :=
    stringBody_escape p (p + 1) s.toList (List.cons_ne_nil quote rest)
  rw [stringLiteral, List.cons_append, List.append_assoc, List.singleton_append,
    next_quote hquote, hbody, foldr_push]
  dsimp only
  generalize stringBody quote p (p + 1 + (escape quote s.toList).length) (quote :: rest) = r
  obtain ⟨read, after⟩ := r
  cases read <;> rfl

theorem next_stringLiteral_iff (rest : List Char) :
    next ⟨p, stringLiteral quote s ++ rest⟩ =
        (.ok (.string s), ⟨p + (stringLiteral quote s).length, rest⟩) ↔
      rest.head? ≠ some quote := by
  rw [next_stringLiteral_append hquote]
  constructor
  · intro h hrest
    obtain ⟨cs, rfl⟩ := List.head?_eq_some_iff.mp hrest
    rw [stringBody_doubled p _ (.inl rfl)] at h
    generalize stringBody quote p _ cs = r at h
    obtain ⟨read, after⟩ := r
    cases read with
    | error e => cases h
    | ok behind =>
      have hlonger : String.ofList (s.toList ++ quote :: behind) = s :=
        Token.string.inj (Except.ok.inj (Prod.mk.inj h).1)
      have hlength := congrArg (List.length ∘ String.toList) hlonger
      simp at hlength
  · intro hrest
    have hlength : p + (stringLiteral quote s).length =
        p + 1 + (escape quote s.toList).length + 1 := by
      rw [stringLiteral, List.length_cons, List.length_append, List.length_singleton]
      omega
    rw [stringBody_closing _ _ hrest, hlength]
    dsimp only [Except.map]
    rw [List.append_nil, String.ofList_toList]

end StringLiteral

theorem next_stringLiteral_iff_quotes :
    ('\'' = '"' ∨ '\'' = '\'') ∧
      next (.start "'it''s \\\\' == a") = (.ok (.string "it's \\"), ⟨10, " == a".toList⟩) := by
  have hquote : '\'' = '"' ∨ '\'' = '\'' := .inr rfl
  have hrest : " == a".toList.head? ≠ some '\'' := by decide
  exact ⟨hquote, (next_stringLiteral_iff hquote "it's \\" 0 " == a".toList).mpr hrest⟩

section Integer
variable (n : Int64)

theorem natAbs_le_maxInteger_iff : n.toInt.natAbs ≤ maxInteger ↔ n ≠ Int64.minValue := by
  have hlow := n.le_toInt
  have hhigh := n.toInt_lt
  rw [Ne, ← Int64.toInt_inj, Int64.toInt_minValue, maxInteger]
  omega

theorem ofNat_natAbs (hn : 0 ≤ n.toInt) : Int64.ofNat n.toInt.natAbs = n := by
  rw [← Int64.ofInt_eq_ofNat, Int.natAbs_of_nonneg hn, Int64.ofInt_toInt]

theorem neg_ofNat_natAbs (hn : n.toInt < 0) : -Int64.ofNat n.toInt.natAbs = n := by
  have habs : -(n.toInt.natAbs : Int) = n.toInt := by omega
  rw [← Int64.ofInt_eq_ofNat, ← Int64.ofInt_neg, habs, Int64.ofInt_toInt]

variable {rest : List Char} (hrest : ∀ c ∈ rest.head?, Number.isDigit c = false)
  (hpoint : ∀ d ds, rest = '.' :: d :: ds → Number.isDigit d = false) (p : Nat)
include hrest hpoint

theorem next_integerText_append :
    next ⟨p, (Number.integerText n.toInt).toList ++ rest⟩ =
      (if n = Int64.minValue then .error (.invalidNumber "9223372036854775808" (p + 1))
        else .ok (.integer n), ⟨p + (Number.integerText n.toInt).length, rest⟩) := by
  have hdigits : ∀ c ∈ Number.digitsOf n.toInt.natAbs, Number.isDigit c = true :=
    Number.isDigit_of_mem_digitsOf
  have hne : Number.digitsOf n.toInt.natAbs ≠ [] := Nat.toDigits_ne_nil
  rw [Number.integerText, String.toList_ofList, String.length_ofList, Number.signed]
  by_cases hn : n.toInt < 0
  · rw [decide_eq_true hn, if_pos rfl, List.cons_append, next_negative hdigits hne p hrest hpoint,
      Number.ofDigits_digitsOf]
    by_cases hmin : n = Int64.minValue
    · rw [if_pos hmin, hmin]
      rfl
    · rw [if_neg hmin, if_pos ((natAbs_le_maxInteger_iff n).mpr hmin), neg_ofNat_natAbs n hn,
        List.length_cons]
  · have hmin : n ≠ Int64.minValue := by
      rintro rfl
      exact hn (by decide)
    rw [decide_eq_false hn, if_neg Bool.false_ne_true, next_integer hdigits hne p hrest hpoint,
      Number.ofDigits_digitsOf, if_neg hmin, if_pos ((natAbs_le_maxInteger_iff n).mpr hmin),
      ofNat_natAbs n (Int.not_lt.mp hn)]

end Integer

theorem next_integerText_end (n : Int64) (p : Nat) :
    next ⟨p, (Number.integerText n.toInt).toList⟩ =
      (if n = Int64.minValue then .error (.invalidNumber "9223372036854775808" (p + 1))
        else .ok (.integer n), ⟨p + (Number.integerText n.toInt).length, []⟩) := by
  have hrest : ∀ c ∈ ([] : List Char).head?, Number.isDigit c = false := nofun
  have hpoint : ∀ d ds, [] = '.' :: d :: ds → Number.isDigit d = false := nofun
  have hnext := next_integerText_append n hrest hpoint p
  rwa [List.append_nil] at hnext

section Symbol
variable (op : Comparison)

theorem next_symbol {rest : List Char} (hrest : rest.head? ≠ some '=') (p : Nat) :
    ∃ t, Comparison.ofToken? t = some op ∧
      next ⟨p, op.symbol.toList ++ rest⟩ = (.ok t, ⟨p + op.symbol.length, rest⟩) := by
  cases op with
  | equal => exact ⟨.equal, rfl, rfl⟩
  | notEqual => exact ⟨.notEqual, rfl, rfl⟩
  | less => exact ⟨.less, rfl, if_neg hrest⟩
  | greater => exact ⟨.greater, rfl, if_neg hrest⟩
  | lessEqual => exact ⟨.lessEqual, rfl, rfl⟩
  | greaterEqual => exact ⟨.greaterEqual, rfl, rfl⟩

theorem exists_symbol : ∃ c cs, op.symbol.toList = c :: cs ∧ isWordPart c = false ∧ c ≠ '.' := by
  cases op with
  | _ => exact ⟨_, _, rfl, rfl, by decide⟩

end Symbol

theorem head?_integerText (n : Int) : (Number.integerText n).toList.head? ≠ some '=' := by
  rw [Number.integerText, String.toList_ofList, Number.signed]
  intro h
  split at h
  · cases h
  · have hdigit := Number.isDigit_of_mem_digitsOf _ (List.mem_of_head? h)
    exact absurd hdigit (by decide)

section Compared
variable {text : String} {p : Path} (hp : Path.parse text = .ok p)
  (hhead : Token.keyword? p.head = none)
  (htail : ∀ name, .property name ∈ p.tail → Token.keyword? name = none)
  (hreadable : Readable p.tail)
include hp hhead htail hreadable

theorem exists_tokens_compared (op : Comparison) (n : Int64) :
    ∃ ts t, Derives .primary (.identifier p.head :: ts) (.path p) ∧
      Comparison.ofToken? t = some op ∧
      (Stream.scan (.start (text ++ op.symbol ++ Number.integerText n.toInt))).tokens? =
        if n = Int64.minValue then none else some (.identifier p.head :: ts ++ [t, .integer n]) := by
  obtain ⟨c, cs, hsymbol, hword, hdot⟩ := exists_symbol op
  have hword : ∀ d ∈ (op.symbol.toList ++ (Number.integerText n.toInt).toList).head?,
      isWordPart d = false := by
    rw [hsymbol]
    rintro d ⟨⟩
    exact hword
  have hdot : (op.symbol.toList ++ (Number.integerText n.toInt).toList).head? ≠ some '.' := by
    rw [hsymbol]
    exact fun h => hdot (Option.some.inj h)
  obtain ⟨ts, hleft, hpath⟩ := leads_path hp hhead htail hreadable hword hdot
  obtain ⟨t, ht, hnext⟩ := next_symbol op (head?_integerText n.toInt) text.length
  have hne : t ≠ .endOfInput := by
    rintro rfl
    cases ht
  have hliteral := next_integerText_end n (text.length + op.symbol.length)
  refine ⟨ts, t, hleft, ht, ?_⟩
  rw [Cursor.start, String.toList_append, String.toList_append, List.append_assoc,
    hpath.tokens?_eq, Stream.scan_token hnext hne]
  by_cases hmin : n = Int64.minValue
  · rw [if_pos hmin] at hliteral
    rw [if_pos hmin, Stream.scan_broken hliteral]
    rfl
  · rw [if_neg hmin] at hliteral
    rw [if_neg hmin, Stream.scan_token hliteral (by simp), Stream.scan_nil]
    rfl

theorem parse_compared_iff (op : Comparison) (n : Int64) (e : Expr) :
    parse (text ++ op.symbol ++ Number.integerText n.toInt) = .ok e ↔
      n ≠ Int64.minValue ∧ e = .compare op (.path p) (.integer n) := by
  obtain ⟨ts, t, hleft, ht, htokens⟩ := exists_tokens_compared hp hhead htail hreadable op n
  by_cases hmin : n = Int64.minValue
  · rw [if_pos hmin] at htokens
    constructor
    · intro h
      obtain ⟨us, hus, -⟩ := Stream.exists_tokens_of_parse h
      rw [htokens] at hus
      cases hus
    · exact fun h => absurd hmin h.1
  · rw [if_neg hmin] at htokens
    have hderives : Derives .disjunction (.identifier p.head :: ts ++ [t, .integer n])
        (.compare op (.path p) (.integer n)) :=
      .ofConjunction (.ofNegation (.ofComparison (.compare ht hleft (.integer n))))
    rw [parse, Stream.parse_eq_ok_iff htokens]
    constructor
    · exact fun h => ⟨hmin, h.unique hderives⟩
    · rintro ⟨-, rfl⟩
      exact hderives

end Compared

/-- Every integer but the smallest one is read back from its text, alone and compared with a path.
The smallest one is refused: without its sign it has more than 63 bits. -/
theorem next_integerText (n : Int64) :
    next (.start (Number.integerText n.toInt)) =
      (if n = Int64.minValue then .error (.invalidNumber "9223372036854775808" 1)
        else .ok (.integer n), ⟨(Number.integerText n.toInt).length, []⟩) ∧
    next ⟨(Number.integerText n.toInt).length, []⟩ =
      (.ok .endOfInput, ⟨(Number.integerText n.toInt).length, []⟩) ∧
    ∀ text p, Path.parse text = .ok p → Token.keyword? p.head = none →
      (∀ name, .property name ∈ p.tail → Token.keyword? name = none) → Readable p.tail →
      ∀ op e, parse (text ++ op.symbol ++ Number.integerText n.toInt) = .ok e ↔
        n ≠ Int64.minValue ∧ e = .compare op (.path p) (.integer n) := by
  refine ⟨?_, rfl, ?_⟩
  · have hnext := next_integerText_end n 0
    rwa [Nat.zero_add, Nat.zero_add] at hnext
  · intro text p hp hhead htail hreadable op e
    exact parse_compared_iff hp hhead htail hreadable op n e

def firstMember : Path := ⟨"pmb", [.property "members", .index 0]⟩

theorem next_integerText_firstMember :
    Path.parse "pmb.members.0" = .ok firstMember ∧ Token.keyword? firstMember.head = none ∧
      (∀ name, .property name ∈ firstMember.tail → Token.keyword? name = none) ∧
      Readable firstMember.tail ∧
      next (.start "-9223372036854775807") =
        (.ok (.integer (-9223372036854775807)), ⟨20, []⟩) ∧
      parse "pmb.members.0>=-9223372036854775807" =
        .ok (.compare .greaterEqual (.path firstMember) (.integer (-9223372036854775807))) := by
  have hpath : Path.parse "pmb.members.0" = .ok firstMember := rfl
  have htail : ∀ name, .property name ∈ firstMember.tail → Token.keyword? name = none := by
    intro name h
    have hname : name = "members" := by simpa [firstMember] using h
    rw [hname]
    rfl
  have hreadable : Readable firstMember.tail := by
    rw [firstMember, readable_property_iff, readable_index_iff]
    exact ⟨by decide, nofun, .nil, nofun⟩
  obtain ⟨hread, -, hcompared⟩ := next_integerText (-9223372036854775807)
  have hne : (-9223372036854775807 : Int64) ≠ Int64.minValue := by decide
  rw [if_neg hne] at hread
  exact ⟨hpath, rfl, htail, hreadable, hread,
    (hcompared _ _ hpath rfl htail hreadable .greaterEqual _).mpr ⟨hne, rfl⟩⟩

theorem next_minValue :
    Number.integerText Int64.minValue.toInt = "-9223372036854775808" ∧
      (next (.start "-9223372036854775808")).1 ≠ .ok (.integer Int64.minValue) := by
  have htext : Number.integerText Int64.minValue.toInt = "-9223372036854775808" := rfl
  refine ⟨htext, ?_⟩
  rw [Cursor.start, ← htext, next_integerText_end, if_pos rfl]
  intro h
  cases h

end SqlTemplate.Condition
