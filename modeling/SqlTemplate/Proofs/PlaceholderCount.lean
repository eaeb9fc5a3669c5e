import SqlTemplate.Proofs.MatchedItems
import SqlTemplate.Proofs.SoundOutput

namespace SqlTemplate

theorem outputAll_append {s : Settings} {params : Params} {loops : Loops} {as bs : List Node}
    {strips : Bool} {o : Output} (h : outputAll s params loops (as ++ bs) strips = .ok o) :
    ∃ a b strips', outputAll s params loops as strips = .ok a ∧
      outputAll s params loops bs strips' = .ok b ∧ o.items = a.items ++ b.items := by
  induction as generalizing strips o with
  | nil => exact ⟨.nothing, o, strips, rfl, h, rfl⟩
  | cons n as ih =>
    obtain ⟨a, ha, h⟩ := bind_eq_ok.mp h
    obtain ⟨b, hb, h⟩ := bind_eq_ok.mp h
    cases h
    obtain ⟨c, d, strips', hc, hd, hitems⟩ := ih hb
    refine ⟨a.append c, d, strips', ?_, hd, ?_⟩
    · rw [outputAll, ha]
      simp [bind, Except.bind, hc, pure, Except.pure]
    · simp [Output.append, hitems]

theorem Node.items_sound {s : Settings} (hs : s.check = .ok ()) {text : String} {root : Node}
    (hp : Node.parse text = .ok root) {params : Params} {items : List Item}
    (hi : root.items s params = .ok items) : Item.SoundUpToLast items := by
  obtain ⟨ns, tail, rfl, hclosed, htail⟩ := Node.parse_soundTexts hp
  rw [Node.items, Node.output] at hi
  obtain ⟨o, ho, rfl⟩ := TestValue.exists_of_map_eq_ok hi
  obtain ⟨a, b, strips, ha, hb, hitems⟩ := outputAll_append ho
  refine ⟨a.items, b.items, hitems, outputAll_sound hs params [] ns hclosed _ a ha, ?_⟩
  rcases htail with rfl | ⟨text, rfl, htext⟩
  · cases hb
    exact .inl rfl
  · cases hb
    exact .inr ⟨text.toList, rfl, htext⟩

theorem Node.placeholderCount_eq {s : Settings} (hs : s.check = .ok ()) {text : String}
    {root : Node} (hp : Node.parse text = .ok root) {params : Params} {st : Statement}
    (he : root.evaluate s params = .ok st) :
    ∃ items, root.items s params = .ok items ∧ st = Item.statement (Item.trimmed items) ∧
      (Item.Contained items →
        st.placeholderCount = st.binds.length ∧ Item.Matched .code (Item.trimmed items)) := by
  rw [Node.evaluate_eq (s.isIdentifier_of_check hs)] at he
  obtain ⟨items, hi, rfl⟩ := TestValue.exists_of_map_eq_ok he
  refine ⟨items, hi, rfl, ?_⟩
  intro hc
  have hm := ((Node.items_sound hs hp hi).matched hc).trimmed
  refine ⟨?_, hm⟩
  simp only [Statement.placeholderCount, Item.statement, String.toList_ofList]
  exact hm.placeholders

def differenceText : String := "SELECT 1 -/*$pmb.a*/1, /*pmb.b*/1"

def difference : Node :=
  .root [.text "SELECT 1 -", .embed ⟨⟨"pmb", [.property "a"]⟩, "1", false, {}⟩, .text ", ",
    .bind ⟨⟨"pmb", [.property "b"]⟩, "1", false, {}⟩]

def subtrahend (v : Value) : Params :=
  ⟨"pmb", .map [("a", v), ("b", .boolean true)], fun _ => none⟩

theorem parse_differenceText : Node.parse differenceText = .ok difference := by
  have hspan : Verbatim.span (.code true) differenceText.toList = ("SELECT 1 -".toList,
      .marker "/*$pmb.a*/1, /*pmb.b*/1".toList "$pmb.a".toList "1, /*pmb.b*/1".toList) := rfl
  have hmarker : Marker.parse "$pmb.a".toList = .ok (.slot true ⟨"pmb", [.property "a"]⟩ {}) := rfl
  have hvalue : TestValue.read "1, /*pmb.b*/1".toList = .ok (['1'], ", /*pmb.b*/1".toList) := rfl
  have hspan' : Verbatim.span (.code false) ", /*pmb.b*/1".toList =
      (", ".toList, .marker "/*pmb.b*/1".toList "pmb.b".toList ['1']) := rfl
  have hmarker' : Marker.parse "pmb.b".toList = .ok (.slot false ⟨"pmb", [.property "b"]⟩ {}) := rfl
  have hvalue' : TestValue.read ['1'] = .ok (['1'], []) := rfl
  have hlexemes : Lexemes.ofText differenceText.toList =
      ([⟨differenceText.toList, .sql "SELECT 1 -".toList⟩,
        ⟨"/*$pmb.a*/1, /*pmb.b*/1".toList,
          .slot "$pmb.a".toList true ⟨⟨"pmb", [.property "a"]⟩, "1", false, {}⟩⟩,
        ⟨", /*pmb.b*/1".toList, .sql ", ".toList⟩,
        ⟨"/*pmb.b*/1".toList,
          .slot "pmb.b".toList false ⟨⟨"pmb", [.property "b"]⟩, "1", false, {}⟩⟩], none) := by
    rw [Lexemes.ofText, Lexemes.scan_slot hspan hmarker hvalue,
      Lexemes.scan_slot hspan' hmarker' hvalue', Lexemes.scan_nil]
    rfl
  rw [Node.parse, hlexemes]
  simp only [Lexemes.toNode, Lexemes.outline, List.foldlM, Outline.read, String.ofList_toList,
    difference]
  rfl

theorem Node.placeholderCount_eq_difference :
    Node.parse differenceText = .ok difference ∧
      ∃ st, difference.evaluate {} (subtrahend (.string "A")) = .ok st ∧
        st.placeholderCount = st.binds.length := by
  have he : difference.evaluate {} (subtrahend (.string "A")) =
      .ok ⟨"SELECT 1 -A, ?", [⟨.boolean true, .boolean⟩]⟩ := rfl
  obtain ⟨items, hi, -, hcount⟩ := Node.placeholderCount_eq (s := {}) rfl parse_differenceText he
  refine ⟨parse_differenceText, _, he, (hcount ?_).1⟩
  have hitems : difference.items {} (subtrahend (.string "A")) =
      .ok [.sql .template "SELECT 1 -".toList, .sql .embedded ['A'], .sql .template ", ".toList,
        .slot ⟨.boolean true, .boolean⟩, .sql .generated []] := rfl
  rw [hi] at hitems
  cases hitems
  exact ⟨by decide, by simp, by decide⟩

theorem Node.placeholderCount_ne_difference :
    Node.parse differenceText = .ok difference ∧
      (∃ st, difference.evaluate {} (subtrahend (.string "'")) = .ok st ∧
        st.placeholderCount ≠ st.binds.length) ∧
      ∃ st, difference.evaluate {} (subtrahend (.integer (-1))) = .ok st ∧
        st.placeholderCount ≠ st.binds.length := by
  have hquote : difference.evaluate {} (subtrahend (.string "'")) =
      .ok ⟨"SELECT 1 -', ?", [⟨.boolean true, .boolean⟩]⟩ := rfl
  have hminus : difference.evaluate {} (subtrahend (.integer (-1))) =
      .ok ⟨"SELECT 1 --1, ?", [⟨.boolean true, .boolean⟩]⟩ := rfl
  refine ⟨parse_differenceText, ⟨_, hquote, ?_⟩, ⟨_, hminus, ?_⟩⟩
  · decide
  · decide

end SqlTemplate
