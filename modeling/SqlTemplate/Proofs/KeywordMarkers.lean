import SqlTemplate.Proofs.TemplateSource
import SqlTemplate.Proofs.TrimmedText

namespace SqlTemplate

namespace Text

theorem cutAt?_eq_none {separator : Char} {text : List Char} (h : separator ∉ text) :
    cutAt? separator text = none := by
  induction text with
  | nil => rfl
  | cons c cs ih =>
    rw [List.mem_cons, not_or] at h
    rw [cutAt?, if_neg (Ne.symm h.1), ih h.2]
    rfl

end Text

namespace Marker

def keywords : List String := ["IF", "ELSE", "END", "BEGIN", "FOR", "FIRST", "LAST", "NEXT"]

def takesArgument : List String := ["IF", "FOR", "NEXT"]

/-- The keyword with white space behind it, but for those that this gives an empty argument. -/
def IsLoose (k : String) (body : List Char) : Prop :=
  body ≠ k.toList ∧ ¬(k ∈ takesArgument ∧ (k ++ " ").toList <+: body)

theorem ofList_ne {cs : List Char} {s : String} (h : cs ≠ s.toList) : String.ofList cs ≠ s := by
  rintro rfl
  exact h String.toList_ofList.symm

theorem keyword?_eq_none {body : List Char} (h : ∀ k ∈ keywords, body ≠ k.toList) :
    keyword? (String.ofList body) = none := by
  rw [keyword?, List.lookup_eq_none_iff]
  intro p hp
  have hk : p.1 ∈ keywords := by
    simp only [List.mem_cons, List.not_mem_nil, or_false] at hp
    rcases hp with rfl | rfl | rfl | rfl | rfl <;> decide
  simpa using ofList_ne (h _ hk)

theorem argument?_eq_some_iff {k : String} {body argument : List Char} :
    argument? k body = some argument ↔
      ∃ rest, body = (k ++ " ").toList ++ rest ∧ argument = Text.trim rest := by
  rw [argument?, Option.map_eq_some_iff]
  simp only [List.isPrefixOf?_eq_some_iff_append_eq]
  constructor
  · rintro ⟨rest, hbody, rfl⟩
    exact ⟨rest, hbody.symm, rfl⟩
  · rintro ⟨rest, hbody, rfl⟩
    exact ⟨rest, hbody.symm, rfl⟩

theorem argument?_eq_none_iff {k : String} {body : List Char} :
    argument? k body = none ↔ ¬(k ++ " ").toList <+: body := by
  rw [Option.eq_none_iff_forall_ne_some]
  constructor
  · rintro h ⟨rest, hrest⟩
    exact h _ (argument?_eq_some_iff.mpr ⟨rest, hrest.symm, rfl⟩)
  · intro h argument hargument
    obtain ⟨rest, hrest, -⟩ := argument?_eq_some_iff.mp hargument
    exact h ⟨rest, hrest.symm⟩

theorem not_isBlank_of_mem {k : String} (hk : k ∈ keywords) :
    ∀ c ∈ k.toList, Text.isBlank c = false := by
  have hall : keywords.all (fun word => word.toList.all (!Text.isBlank ·)) = true := by decide
  intro c hc
  have hword := List.all_eq_true.mp hall k hk
  simpa using List.all_eq_true.mp hword c hc

theorem mem_keywords_of_takesArgument {k : String} (hk : k ∈ takesArgument) : k ∈ keywords := by
  revert k
  decide

section Blank
variable {k : String} {c : Char} (hc : Text.isBlank c = true) (rest : List Char)
include hc

theorem ne_keyword : ∀ word ∈ keywords, k.toList ++ c :: rest ≠ word.toList := by
  intro word hword heq
  have hmem : c ∈ word.toList := by simp [← heq]
  rw [not_isBlank_of_mem hword c hmem] at hc
  cases hc

theorem takeWhile_keyword (hk : k ∈ keywords) :
    (k.toList ++ c :: rest).takeWhile (!Text.isBlank ·) = k.toList := by
  apply Text.takeWhile_append_eq
  · intro d hd
    rw [not_isBlank_of_mem hk d hd]
    rfl
  · simp [hc]

theorem argument?_blank (hk : k ∈ keywords) {word : String} (hword : word ∈ takesArgument) :
    argument? word (k.toList ++ c :: rest) =
      if word = k ∧ c = ' ' then some (Text.trim rest) else none := by
  by_cases h : word = k ∧ c = ' '
  · obtain ⟨rfl, rfl⟩ := h
    rw [if_pos ⟨rfl, rfl⟩]
    exact argument?_eq_some_iff.mpr ⟨rest, by simp, rfl⟩
  · rw [if_neg h, argument?_eq_none_iff]
    rintro ⟨behind, hbehind⟩
    rw [String.toList_append, List.append_assoc] at hbehind
    -- Both words end where the white space begins.
    have hwords := congrArg (List.takeWhile (!Text.isBlank ·)) hbehind
    have hspace : " ".toList ++ behind = ' ' :: behind := rfl
    rw [hspace, takeWhile_keyword (by decide) behind (mem_keywords_of_takesArgument hword),
      takeWhile_keyword hc rest hk] at hwords
    obtain rfl := String.toList_inj.mp hwords
    rw [hspace, List.append_cancel_left_eq, List.cons.injEq] at hbehind
    exact h ⟨rfl, hbehind.1.symm⟩

end Blank

theorem not_missing {body : List Char} (h : ∀ k ∈ keywords, body ≠ k.toList) :
    ¬(String.ofList body = "IF" ∨ String.ofList body = "FOR" ∨ String.ofList body = "NEXT") := by
  rintro (hword | hword | hword)
  · exact ofList_ne (h "IF" (by decide)) hword
  · exact ofList_ne (h "FOR" (by decide)) hword
  · exact ofList_ne (h "NEXT" (by decide)) hword

theorem parse_of_no_keyword {body : List Char} (hword : ∀ k ∈ keywords, body ≠ k.toList)
    (hargument : ∀ k ∈ takesArgument, argument? k body = none) (hembed : body.head? ≠ some '$') :
    parse body = parseVariable false body := by
  rw [parse.eq_def]
  dsimp only
  rw [keyword?_eq_none hword, hargument "IF" (by decide), hargument "FOR" (by decide),
    hargument "NEXT" (by decide)]
  dsimp only
  rw [if_neg (not_missing hword)]
  split
  · exact absurd rfl hembed
  · rfl

theorem parseVariable_keyword {k : String} (hk : k ∈ keywords) {body : List Char}
    (htrim : Text.trim body = k.toList) (hcolon : ':' ∉ body) :
    parseVariable false body = .ok (.slot false ⟨k, []⟩ {}) := by
  have hidentifier : ∀ word ∈ keywords, isIdentifier word.toList = true := by decide
  have hpath : Path.parse k = .ok ⟨k, []⟩ :=
    Path.parse_eq_ok_iff.mpr ⟨.inr (hidentifier k hk), [], .nil, by simp [Text.ledBy]⟩
  simp [parseVariable, Text.cutAt?_eq_none hcolon, htrim, hpath]

theorem parse_of_keyword? {k : String} {d : Directive} (h : keyword? k = some d) :
    parse k.toList = .ok (.directive d) := by
  rw [parse.eq_def]
  dsimp only
  rw [String.ofList_toList, h]

theorem parse_missing {k : String} (hk : k ∈ takesArgument) :
    parse k.toList = .error (.malformed .missingArgument) := by
  simp only [takesArgument, List.mem_cons, List.not_mem_nil, or_false] at hk
  rcases hk with rfl | rfl | rfl <;> rfl

theorem parseTest_nil : ∃ e, parseTest [] = .error e := by
  have hended : Condition.next (.start "") = (.ok .endOfInput, ⟨0, []⟩) := rfl
  have hcondition : ∃ e, Condition.parse "" = .error e := by
    rw [Condition.parse, Condition.Stream.scan_ended hended]
    exact ⟨_, rfl⟩
  obtain ⟨e, he⟩ := hcondition
  exact ⟨.condition "" e, by simp [parseTest, he]⟩

theorem parse_argument {k : String} (hk : k ∈ takesArgument) (rest : List Char) :
    parse (k.toList ++ ' ' :: rest) =
      if k = "IF" then (parseTest (Text.trim rest)).map .directive
      else if k = "FOR" then (parseLoop (Text.trim rest)).map .directive
      else .ok (.directive (.next (unquote? (Text.trim rest)))) := by
  have hspace : Text.isBlank ' ' = true := by decide
  have hword := ne_keyword (k := k) hspace rest
  have hargument : ∀ word ∈ takesArgument, argument? word (k.toList ++ ' ' :: rest) =
      if word = k then some (Text.trim rest) else none := by
    intro word hmem
    simpa using argument?_blank hspace rest (mem_keywords_of_takesArgument hk) hmem
  rw [parse.eq_def]
  dsimp only
  rw [keyword?_eq_none hword, hargument "IF" (by decide), hargument "FOR" (by decide),
    hargument "NEXT" (by decide)]
  dsimp only
  rw [if_neg (not_missing hword)]
  simp only [takesArgument, List.mem_cons, List.not_mem_nil, or_false] at hk
  rcases hk with rfl | rfl | rfl <;> rfl

section Keyword
variable {k : String} (hk : k ∈ keywords) {body : List Char} (htrim : Text.trim body = k.toList)
  (hhead : ∀ c ∈ body.head?, Text.isBlank c = false)
include hk htrim hhead

theorem parse_of_isLoose (h : IsLoose k body) : parse body = .ok (.slot false ⟨k, []⟩ {}) := by
  obtain ⟨blank, rfl, hblank⟩ := Text.exists_blank_of_trim htrim hhead
  cases blank with
  | nil => exact absurd (List.append_nil _) h.1
  | cons c rest =>
    have hc := hblank c List.mem_cons_self
    have hcolon : ':' ∉ k.toList ++ c :: rest := by
      intro hmem
      rcases List.mem_append.mp hmem with hmem | hmem
      · have hnone : ∀ word ∈ keywords, ':' ∉ word.toList := by decide
        exact hnone k hk hmem
      · have hblank := hblank ':' hmem
        revert hblank
        decide
    rw [parse_of_no_keyword (ne_keyword hc rest)]
    · exact parseVariable_keyword hk htrim hcolon
    · intro word hword
      rw [argument?_blank hc rest hk hword, if_neg]
      rintro ⟨rfl, rfl⟩
      exact h.2 ⟨hword, rest, by simp⟩
    · have hletter : ∀ word ∈ keywords, word.toList ≠ [] ∧ word.toList.head? ≠ some '$' := by
        decide
      rw [List.head?_append_of_ne_nil _ (hletter k hk).1]
      exact (hletter k hk).2

theorem parse_of_not_isLoose (h : ¬IsLoose k body) {m : Marker} (hm : parse body = .ok m) :
    m = .directive (.next none) ∨
      body = k.toList ∧ ∃ d, keyword? k = some d ∧ m = .directive d := by
  obtain ⟨blank, hbody, hblank⟩ := Text.exists_blank_of_trim htrim hhead
  by_cases hexact : body = k.toList
  · right
    refine ⟨hexact, ?_⟩
    cases hd : keyword? k with
    | some d =>
      rw [hexact, parse_of_keyword? hd] at hm
      cases hm
      exact ⟨d, rfl, rfl⟩
    | none =>
      have hnone : ∀ word ∈ keywords, keyword? word = none → word ∈ takesArgument := by decide
      rw [hexact, parse_missing (hnone k hk hd)] at hm
      cases hm
  · have hargument : k ∈ takesArgument ∧ (k ++ " ").toList <+: body := by
      by_contra hnone
      exact h ⟨hexact, hnone⟩
    obtain ⟨hk', rest, hrest⟩ := hargument
    have hbody' : k.toList ++ ' ' :: rest = body := by simpa using hrest
    left
    rw [← hbody', List.append_cancel_left_eq] at hbody
    have hempty : Text.trim rest = [] := by
      apply Text.trim_of_blank
      intro c hc
      exact hblank c (by simp [← hbody, hc])
    rw [← hbody', parse_argument hk', hempty] at hm
    split at hm
    · obtain ⟨e, he⟩ := parseTest_nil
      rw [he] at hm
      cases hm
    · split at hm
      · cases hm
      · cases hm
        rfl

end Keyword

end Marker

namespace Lexeme

def body? : Lexeme → Option (List Char)
  | directive body _ => some body
  | slot body _ _ => some body
  | _ => none

end Lexeme

theorem Piece.IsBody.head {body : List Char} (h : IsBody body) :
    ∀ c ∈ body.head?, Text.isBlank c = false := by
  intro c hc
  obtain ⟨cs, rfl⟩ := List.head?_eq_some_iff.mp hc
  have hplain := h.2
  simp only [List.cons_append, Verbatim.isPlain, Bool.or_eq_false_iff] at hplain
  exact hplain.1.1

theorem Blocks.ne_next_none {loop : Bool} {ls : List (Placed Lexeme)} {ns : List Node}
    (h : Blocks loop ls ns) : ∀ l ∈ ls, ∀ body, l.item ≠ .directive body (.next none) := by
  have hend : ∀ {l : Lexeme}, l.isEnd = true → ∀ body, l ≠ .directive body (.next none) := by
    rintro l h body rfl
    cases h
  have helse : ∀ {l : Lexeme}, l.isElse = true → ∀ body, l ≠ .directive body (.next none) := by
    rintro l h body rfl
    cases h
  induction h with
  | nil => simp
  | sql _ ih | bind _ ih | embed _ ih | next _ ih => simpa using ih
  | block _ _ hlast _ ihi ih =>
    simp only [List.forall_mem_cons, List.forall_mem_append]
    exact ⟨by simp, ihi, hend hlast, ih⟩
  | ifElse _ hmiddle _ hlast _ ihi ihs ih =>
    simp only [List.forall_mem_cons, List.forall_mem_append]
    exact ⟨by simp, ihi, helse hmiddle, ihs, hend hlast, ih⟩

theorem Lexeme.slot?_eq_some_iff {l : Lexeme} {w : Bool × Variable} :
    l.leaf?.bind Node.slot? = some w ↔ ∃ body, l = .slot body w.1 w.2 := by
  obtain ⟨embedded, v⟩ := w
  constructor
  · intro h
    cases l with
    | sql text => cases h
    | lineElse comment => cases h
    | directive body d =>
      cases d with
      | next sql => cases sql <;> cases h
      | _ => cases h
    | slot body embedded v => cases embedded <;> (cases h; exact ⟨body, rfl⟩)
  · rintro ⟨body, rfl⟩
    cases embedded <;> rfl

theorem Node.mem_slots_iff {text : String} {root : Node} (h : Node.parse text = .ok root)
    (w : Bool × Variable) : w ∈ root.slots ↔
      ∃ l ∈ (Lexemes.ofText text.toList).1, ∃ body, l.item = .slot body w.1 w.2 := by
  obtain ⟨ns, rfl, -, hblocks⟩ := Node.blocks_of_parse h
  rw [Node.slots, Node.leaves, hblocks.leaves_eq, List.filterMap_filterMap, List.mem_filterMap]
  simp only [Lexeme.slot?_eq_some_iff]

/-- A comment that says a keyword, up to white space behind it, is the directive if it says it
exactly. Else it is a variable with the keyword as its name, and the text behind it a test value. -/
theorem Node.parse_keywords {text : String} {root : Node} (h : Node.parse text = .ok root) :
    (∀ w, w ∈ root.slots ↔
      ∃ l ∈ (Lexemes.ofText text.toList).1, ∃ body, l.item = .slot body w.1 w.2) ∧
    ∀ l ∈ (Lexemes.ofText text.toList).1, ∀ body, l.item.body? = some body →
      ∀ k ∈ Marker.keywords, Text.trim body = k.toList →
        (Marker.IsLoose k body ∧ ∃ value grouped,
          l.item = .slot body false ⟨⟨k, []⟩, value, grouped, {}⟩ ∧
            TestValue.span value.toList = .ok (value.toList, [])) ∨
        (body = k.toList ∧ ∃ d, Marker.keyword? k = some d ∧ l.item = .directive body d) := by
  refine ⟨Node.mem_slots_iff h, ?_⟩
  obtain ⟨ns, -, -, hblocks⟩ := Node.blocks_of_parse h
  intro l hl body hbody k hk htrim
  have hvalid := (Lexemes.scan_covers true text.toList).2 l hl
  cases hitem : l.item with
  | sql text =>
    rw [hitem] at hbody
    cases hbody
  | lineElse comment =>
    rw [hitem] at hbody
    cases hbody
  | directive body' d =>
    rw [hitem] at hbody hvalid
    cases hbody
    right
    obtain ⟨htext, hparse⟩ := hvalid
    by_cases hloose : Marker.IsLoose k body
    · rw [Marker.parse_of_isLoose hk htrim htext.head hloose] at hparse
      cases hparse
    · rcases Marker.parse_of_not_isLoose hk htrim htext.head hloose hparse with hnext | hexact
      · cases hnext
        exact absurd hitem (hblocks.ne_next_none l hl body)
      · obtain ⟨heq, d', hd', hm⟩ := hexact
        cases hm
        exact ⟨heq, d, hd', rfl⟩
  | slot body' embedded v =>
    rw [hitem] at hbody hvalid
    cases hbody
    left
    obtain ⟨htext, hspells, hvalue⟩ := hvalid
    have hparse := hspells.marker
    by_cases hloose : Marker.IsLoose k body
    · rw [Marker.parse_of_isLoose hk htrim htext.head hloose] at hparse
      obtain ⟨path, value, grouped, options⟩ := v
      cases hparse
      exact ⟨hloose, value, grouped, rfl, hvalue⟩
    · rcases Marker.parse_of_not_isLoose hk htrim htext.head hloose hparse with hnext | hexact
      · cases hnext
      · obtain ⟨-, d, -, hm⟩ := hexact
        cases hm

def looseElseText : String := "/*IF true*/A/*ELSE */B/*END*/"

def looseElse : Node :=
  .root [.ifElse ⟨"true", .boolean true⟩
    [.text "A", .bind ⟨⟨"ELSE", []⟩, "B", false, {}⟩] none]

def looseElseLexemes : List (Placed Lexeme) :=
  [⟨looseElseText.toList, .directive "IF true".toList (.opens (.test ⟨"true", .boolean true⟩))⟩,
    ⟨"A/*ELSE */B/*END*/".toList, .sql ['A']⟩,
    ⟨"/*ELSE */B/*END*/".toList, .slot "ELSE ".toList false ⟨⟨"ELSE", []⟩, "B", false, {}⟩⟩,
    ⟨"/*END*/".toList, .directive "END".toList .closes⟩]

theorem ofText_looseElseText :
    Lexemes.ofText looseElseText.toList = (looseElseLexemes, none) := by
  have hif : Verbatim.span (.code true) looseElseText.toList =
      ([], .marker looseElseText.toList "IF true".toList "A/*ELSE */B/*END*/".toList) := rfl
  have helse : Verbatim.span (.code false) "A/*ELSE */B/*END*/".toList =
      (['A'], .marker "/*ELSE */B/*END*/".toList "ELSE ".toList "B/*END*/".toList) := rfl
  have hmarker : Marker.parse "ELSE ".toList = .ok (.slot false ⟨"ELSE", []⟩ {}) := rfl
  have hvalue : TestValue.read "B/*END*/".toList = .ok (['B'], "/*END*/".toList) := rfl
  have hend : Verbatim.span (.code false) "/*END*/".toList =
      ([], .marker "/*END*/".toList "END".toList []) := rfl
  rw [Lexemes.ofText, Lexemes.scan_directive hif Marker.parse_ifTrue,
    Lexemes.scan_slot helse hmarker hvalue, Lexemes.scan_directive hend rfl, Lexemes.scan_nil]
  rfl

theorem parse_looseElseText : Node.parse looseElseText = .ok looseElse := by
  rw [Node.parse, ofText_looseElseText]
  rfl

theorem Node.parse_keywords_else :
    Node.parse looseElseText = .ok looseElse ∧ Marker.IsLoose "ELSE" "ELSE ".toList := by
  refine ⟨parse_looseElseText, ?_⟩
  have hl : (⟨"/*ELSE */B/*END*/".toList,
      .slot "ELSE ".toList false ⟨⟨"ELSE", []⟩, "B", false, {}⟩⟩ : Placed Lexeme) ∈
      (Lexemes.ofText looseElseText.toList).1 := by
    simp [ofText_looseElseText, looseElseLexemes]
  rcases (Node.parse_keywords parse_looseElseText).2 _ hl _ rfl "ELSE" (by decide) rfl with
    ⟨hloose, -⟩ | ⟨hexact, -⟩
  · exact hloose
  · exact absurd hexact (by decide)

theorem Node.exists_slot_else : ∃ root, Node.parse looseElseText = .ok root ∧
    ∃ w ∈ root.slots, ∃ l ∈ (Lexemes.ofText looseElseText.toList).1, ∃ body,
      l.item = .slot body w.1 w.2 ∧ Text.trim body = "ELSE".toList := by
  refine ⟨looseElse, parse_looseElseText, (false, ⟨⟨"ELSE", []⟩, "B", false, {}⟩), ?_, ?_⟩
  · simp [looseElse, Node.slots, Node.leaves, leavesAll, Node.slot?]
  · exact ⟨⟨"/*ELSE */B/*END*/".toList, _⟩, by simp [ofText_looseElseText, looseElseLexemes],
      "ELSE ".toList, rfl, rfl⟩

end SqlTemplate
