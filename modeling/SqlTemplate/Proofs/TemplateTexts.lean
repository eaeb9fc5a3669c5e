import SqlTemplate.Proofs.ConditionTokens
import SqlTemplate.Proofs.LexemeSteps
import SqlTemplate.Proofs.Stretch
import SqlTemplate.Proofs.TemplateGrammar

namespace SqlTemplate

mutual

def Node.leaves : Node → List Node
  | .text sql => [.text sql]
  | .bind v => [.bind v]
  | .embed v => [.embed v]
  | .next sql => [.next sql]
  | .ifElse _ children none => leavesAll children
  | .ifElse _ children (some otherwise) => leavesAll children ++ leavesAll otherwise
  | .optional children | .loop _ _ children | .first children | .last children
  | .root children => leavesAll children

def leavesAll : List Node → List Node
  | [] => []
  | n :: ns => n.leaves ++ leavesAll ns

end

namespace Node

def text? : Node → Option String
  | text sql => some sql
  | _ => none

def texts (n : Node) : List String := n.leaves.filterMap text?

end Node

theorem Block.leaves_node (b : Block) (ns : List Node) : (b.node ns).leaves = leavesAll ns := by
  cases b <;> rw [Block.node, Node.leaves]

namespace Lexeme

def leaf? : Lexeme → Option Node
  | sql text => some (.text (String.ofList text))
  | slot _ false v => some (.bind v)
  | slot _ true v => some (.embed v)
  | directive _ (.next (some text)) => some (.next text)
  | _ => none

theorem leaf?_opens (body : List Char) (b : Block) : (directive body (.opens b)).leaf? = none := rfl

theorem leaf?_of_isEnd {l : Lexeme} (h : l.isEnd = true) : l.leaf? = none := by
  cases l with
  | directive body d => cases d <;> first | rfl | cases h
  | _ => cases h

theorem leaf?_of_isElse {l : Lexeme} (h : l.isElse = true) : l.leaf? = none := by
  cases l with
  | directive body d => cases d <;> first | rfl | cases h
  | lineElse comment => rfl
  | _ => cases h

theorem eq_sql_of_leaf? {l : Lexeme} {text : String} (h : l.leaf? = some (.text text)) :
    l = .sql text.toList := by
  cases l with
  | sql chars => cases h; rw [String.toList_ofList]
  | lineElse comment => cases h
  | directive body d =>
    cases d with
    | next sql => cases sql <;> cases h
    | _ => cases h
  | slot body embedded v => cases embedded <;> cases h

end Lexeme

theorem Blocks.leaves_eq {loop : Bool} {ls : List (Placed Lexeme)} {ns : List Node}
    (h : Blocks loop ls ns) : leavesAll ns = ls.filterMap fun l => l.item.leaf? := by
  induction h with
  | nil => rfl
  | sql _ ih | bind _ ih | embed _ ih | next _ ih =>
    rw [leavesAll, Node.leaves, ih]
    rfl
  | block _ _ hend _ ihi ih =>
    rw [leavesAll, Block.leaves_node, ihi, ih]
    simp only [List.filterMap_cons, List.filterMap_append, Lexeme.leaf?_opens,
      Lexeme.leaf?_of_isEnd hend]
  | ifElse _ helse _ hend _ ihi ihs ih =>
    rw [leavesAll, Node.leaves, ihi, ihs, ih]
    simp only [List.filterMap_cons, List.filterMap_append, Lexeme.leaf?_opens,
      Lexeme.leaf?_of_isElse helse, Lexeme.leaf?_of_isEnd hend, List.append_assoc]

theorem Blocks.mem_of_leaves {loop : Bool} {ls : List (Placed Lexeme)} {ns : List Node}
    (h : Blocks loop ls ns) {text : String} (ht : .text text ∈ leavesAll ns) :
    ∃ l ∈ ls, l.item = .sql text.toList := by
  rw [h.leaves_eq] at ht
  obtain ⟨l, hl, he⟩ := List.mem_filterMap.mp ht
  exact ⟨l, hl, Lexeme.eq_sql_of_leaf? he⟩

theorem Node.mem_texts {n : Node} {text : String} : text ∈ n.texts ↔ .text text ∈ n.leaves := by
  rw [texts, List.mem_filterMap]
  constructor
  · rintro ⟨leaf, hleaf, h⟩
    cases leaf with
    | text sql => cases h; exact hleaf
    | _ => cases h
  · intro h
    exact ⟨.text text, h, rfl⟩

theorem Lexemes.eq_none_of_toNode {ls : Lexemes} {root : Node} (h : ls.toNode = .ok root) :
    ls.2 = none := by
  obtain ⟨o, -, h⟩ := bind_eq_ok.mp h
  cases hf : ls.2 with
  | none => rfl
  | some f => rw [hf] at h; cases h

theorem Node.blocks_of_parse {text : String} {root : Node} (h : Node.parse text = .ok root) :
    ∃ ns, root = .root ns ∧ (Lexemes.ofText text.toList).2 = none ∧
      Blocks false (Lexemes.ofText text.toList).1 ns := by
  have hn : (Lexemes.ofText text.toList).toNode = .ok root := mapError_eq_ok.mp h
  have hnone := Lexemes.eq_none_of_toNode hn
  rw [Lexemes.toNode_eq hnone, Outline.bind_finish_eq_ok_iff] at hn
  obtain ⟨ns, rfl, hrun⟩ := hn
  exact ⟨ns, rfl, hnone, Outline.run_iff_blocks.mp hrun⟩

theorem Outline.run_append_singleton {o p : Outline} {front : List (Placed Lexeme)}
    {l : Placed Lexeme} (h : o.run (front ++ [l]) = .ok p) :
    ∃ q, o.run front = .ok q ∧ q.read l = .ok p := by
  rw [run, List.foldlM_append] at h
  obtain ⟨q, hq, h⟩ := bind_eq_ok.mp h
  obtain ⟨r, hr, h⟩ := bind_eq_ok.mp h
  cases h
  exact ⟨q, hq, mapError_eq_ok.mp hr⟩

structure Node.SoundTexts (ns tail : List Node) : Prop where
  closed : ∀ text, .text text ∈ leavesAll ns → Sql.Closed text.toList
  tail : tail = [] ∨ ∃ text, tail = [.text text] ∧ Sql.Zone.code.placeholders text.toList = 0

theorem Lexemes.Sound.texts {ls : List (Placed Lexeme)} {ns : List Node} (hs : Sound ls)
    (hb : Blocks false ls ns) : ∃ front tail, ns = front ++ tail ∧ Node.SoundTexts front tail := by
  rcases ls.eq_nil_or_concat with rfl | ⟨front, l, hls⟩
  · cases hb
    exact ⟨[], [], rfl, by simp [leavesAll], .inl rfl⟩
  · rw [List.concat_eq_append] at hls
    subst hls
    -- Only a stretch at the very end can be open, and then it is the last node of the root.
    by_cases hl : ∃ text, l.item = .sql text
    · obtain ⟨text, ht⟩ := hl
      obtain ⟨⟨ms, frames⟩, hq, hread⟩ :=
        Outline.run_append_singleton (Outline.run_iff_blocks.mpr hb)
      rw [Outline.read, ht] at hread
      cases hread
      refine ⟨ms, [.text (String.ofList text)], rfl, ?_, .inr ⟨_, rfl, ?_⟩⟩
      · intro sql hsql
        obtain ⟨m, hm, he⟩ := (Outline.run_iff_blocks.mp hq).mem_of_leaves hsql
        exact hs.closed hm he
      · rw [String.toList_ofList]
        exact (hs.of_mem rfl ht).1
    · refine ⟨ns, [], by simp, ?_, .inl rfl⟩
      intro sql hsql
      obtain ⟨m, hm, he⟩ := hb.mem_of_leaves hsql
      rcases List.mem_append.mp hm with hm | hm
      · exact hs.closed hm he
      · rw [List.mem_singleton.mp hm] at he
        exact absurd ⟨_, he⟩ hl

theorem Node.parse_soundTexts {text : String} {root : Node} (h : Node.parse text = .ok root) :
    ∃ ns tail, root = .root (ns ++ tail) ∧ SoundTexts ns tail := by
  obtain ⟨ns, rfl, -, hblocks⟩ := Node.blocks_of_parse h
  have hs : Lexemes.Sound (Lexemes.ofText text.toList).1 := Lexemes.scan_sound true text.toList
  obtain ⟨front, tail, rfl, ht⟩ := hs.texts hblocks
  exact ⟨front, tail, rfl, ht⟩

theorem Node.placeholderCount_of_mem_texts {text : String} {root : Node}
    (h : Node.parse text = .ok root) :
    ∀ sql ∈ root.texts, Sql.placeholderCount sql.toList = 0 := by
  obtain ⟨ns, rfl, -, hblocks⟩ := Node.blocks_of_parse h
  have hs : Lexemes.Sound (Lexemes.ofText text.toList).1 := Lexemes.scan_sound true text.toList
  intro sql hsql
  have hleaf := Node.mem_texts.mp hsql
  rw [Node.leaves] at hleaf
  obtain ⟨l, hl, he⟩ := hblocks.mem_of_leaves hleaf
  obtain ⟨front, behind, hls⟩ := List.append_of_mem hl
  exact (hs.of_mem hls he).1

def choiceText : String := "'?'/*IF true*/A\n--ELSE\n/*END*//*a*/(1)"

def choice : Node :=
  .root [.text "'?'", .ifElse ⟨"true", .boolean true⟩ [.text "A\n"] (some [.text "\n"]),
    .bind ⟨⟨"a", []⟩, "(1)", true, {}⟩]

theorem Marker.parse_ifTrue : Marker.parse "IF true".toList =
    .ok (.directive (.opens (.test ⟨"true", .boolean true⟩))) := by
  have hcondition : Condition.parse "true" = .ok (.boolean true) := by
    have htrue : Condition.next (.start "true") = (.ok (.boolean true), ⟨4, []⟩) := rfl
    have hended : Condition.next ⟨4, []⟩ = (.ok .endOfInput, ⟨4, []⟩) := rfl
    rw [Condition.parse, Condition.Stream.scan_token htrue nofun,
      Condition.Stream.scan_ended hended]
    rfl
  have hmarker : Marker.parse "IF true".toList =
      (Marker.parseTest "true".toList).map .directive := rfl
  rw [hmarker, Marker.parseTest, String.ofList_toList, hcondition]
  rfl

theorem parse_choiceText : Node.parse choiceText = .ok choice := by
  have hif : Verbatim.span (.code true) choiceText.toList = ("'?'".toList,
      .marker "/*IF true*/A\n--ELSE\n/*END*//*a*/(1)".toList "IF true".toList
        "A\n--ELSE\n/*END*//*a*/(1)".toList) := rfl
  have helse : Verbatim.span (.code false) "A\n--ELSE\n/*END*//*a*/(1)".toList = ("A\n".toList,
      .lineElse "--ELSE\n/*END*//*a*/(1)".toList "--ELSE".toList "\n/*END*//*a*/(1)".toList) := rfl
  have hend : Verbatim.span (.code false) "\n/*END*//*a*/(1)".toList =
      (['\n'], .marker "/*END*//*a*/(1)".toList "END".toList "/*a*/(1)".toList) := rfl
  have hslot : Verbatim.span (.code false) "/*a*/(1)".toList =
      ([], .marker "/*a*/(1)".toList ['a'] "(1)".toList) := rfl
  have hmarker : Marker.parse ['a'] = .ok (.slot false ⟨"a", []⟩ {}) := rfl
  have hvalue : TestValue.read "(1)".toList = .ok ("(1)".toList, []) := rfl
  rw [Node.parse, Lexemes.ofText, Lexemes.scan_directive hif Marker.parse_ifTrue,
    Lexemes.scan_lineElse helse, Lexemes.scan_directive hend rfl,
    Lexemes.scan_slot hslot hmarker hvalue, Lexemes.scan_nil]
  rfl

theorem leaves_choice : choice.leaves = [.text "'?'", .text "A\n", .text "\n",
    .bind ⟨⟨"a", []⟩, "(1)", true, {}⟩] := by
  simp [choice, Node.leaves, leavesAll]

theorem texts_choice : choice.texts = ["'?'", "A\n", "\n"] := by
  rw [Node.texts, leaves_choice]
  rfl

theorem Node.placeholderCount_of_mem_texts_choice :
    Node.parse choiceText = .ok choice ∧
      Sql.placeholderCount "'?'".toList = 0 ∧ Sql.placeholderCount "A\n".toList = 0 ∧
      Sql.placeholderCount "\n".toList = 0 := by
  have h := Node.placeholderCount_of_mem_texts parse_choiceText
  rw [texts_choice] at h
  exact ⟨parse_choiceText, h _ (by simp), h _ (by simp), h _ (by simp)⟩

end SqlTemplate
