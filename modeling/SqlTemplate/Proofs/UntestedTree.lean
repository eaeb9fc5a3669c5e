import SqlTemplate.Proofs.Lookahead
import SqlTemplate.Proofs.TemplateSource
import SqlTemplate.Render.Tree

namespace SqlTemplate

def Variable.untested (v : Variable) : Variable := { v with testValue := "" }

def Lexeme.untested : Lexeme → Lexeme
  | slot body embedded v => slot body embedded v.untested
  | l => l

mutual

def Node.untested : Node → Node
  | .text sql => .text sql
  | .bind v => .bind v.untested
  | .embed v => .embed v.untested
  | .ifElse t children none => .ifElse t (untestedAll children) none
  | .ifElse t children (some otherwise) =>
    .ifElse t (untestedAll children) (some (untestedAll otherwise))
  | .optional children => .optional (untestedAll children)
  | .loop name collection children => .loop name collection (untestedAll children)
  | .first children => .first (untestedAll children)
  | .last children => .last (untestedAll children)
  | .next sql => .next sql
  | .root children => .root (untestedAll children)

def untestedAll : List Node → List Node
  | [] => []
  | n :: ns => n.untested :: untestedAll ns

end

namespace Variable

theorem resolveVariable_untested (scope : Scope) (v : Variable) :
    scope.resolveVariable v.untested = scope.resolveVariable v := rfl

theorem bindFilling_untested (s : Settings) (v : Variable) (r : Resolved) :
    v.untested.bindFilling s r = v.bindFilling s r := rfl

theorem embedFilling_untested (v : Variable) (r : Resolved) :
    v.untested.embedFilling r = v.embedFilling r := rfl

end Variable

section Render

variable (s : Settings) (params : Params)

mutual

theorem Node.render_untested (loops : Loops) (n : Node) :
    n.untested.render s params loops = n.render s params loops := by
  cases n with
  | text sql => rfl
  | next sql => rfl
  | bind v =>
    simp only [Node.untested, Node.render, Variable.resolveVariable_untested,
      Variable.bindFilling_untested]
  | embed v =>
    simp only [Node.untested, Node.render, Variable.resolveVariable_untested,
      Variable.embedFilling_untested]
  | ifElse t children otherwise =>
    cases otherwise with
    | none => rw [Node.untested, Node.render, Node.render, renderAll_untested loops children]
    | some otherwise =>
      rw [Node.untested, Node.render, Node.render, renderAll_untested loops children,
        renderAll_untested loops otherwise]
  | loop name collection children =>
    have hturn : ∀ turn : Iteration, renderAll s params (turn :: loops) (untestedAll children) =
        renderAll s params (turn :: loops) children := fun turn => renderAll_untested _ children
    simp only [Node.untested, Node.render, hturn]
  | optional children | first children | last children | root children =>
    rw [Node.untested, Node.render, Node.render, renderAll_untested loops children]

theorem renderAll_untested (loops : Loops) (ns : List Node) :
    renderAll s params loops (untestedAll ns) = renderAll s params loops ns := by
  cases ns with
  | nil => rfl
  | cons n ns =>
    funext d
    rw [untestedAll, renderAll, renderAll, Node.render_untested loops n,
      renderAll_untested loops ns]

end

theorem Node.evaluate_eq_of_untested {n m : Node} (h : m.untested = n.untested) :
    m.evaluate s params = n.evaluate s params := by
  rw [evaluate, evaluate, ← Node.render_untested s params [] m, h, Node.render_untested]

end Render

namespace Lexeme

theorem eq_of_untested {a b : Lexeme} (h : a.untested = b.untested)
    (hb : ∀ body embedded v, b ≠ slot body embedded v) : a = b := by
  cases b with
  | slot body embedded v => exact absurd rfl (hb body embedded v)
  | _ =>
    cases a
    all_goals cases h
    rfl

theorem eq_slot_of_untested {l : Lexeme} {body : List Char} {embedded : Bool} {v : Variable}
    (h : l.untested = (slot body embedded v).untested) :
    ∃ w, l = slot body embedded w ∧ w.untested = v.untested := by
  cases l with
  | slot other e w =>
    rw [untested, untested, slot.injEq] at h
    obtain ⟨rfl, rfl, hw⟩ := h
    exact ⟨w, rfl, hw⟩
  | _ => cases h

theorem isEnd_untested (l : Lexeme) : l.untested.isEnd = l.isEnd := by
  cases l <;> rfl

theorem isElse_untested (l : Lexeme) : l.untested.isElse = l.isElse := by
  cases l <;> rfl

end Lexeme

namespace Lexemes

def Alike (ks ls : List (Placed Lexeme)) : Prop :=
  ks.map (fun l => l.item.untested) = ls.map fun l => l.item.untested

namespace Alike

variable {ks ls ms : List (Placed Lexeme)}

theorem eq_nil (h : Alike ks []) : ks = [] := List.map_eq_nil_iff.mp h

theorem exists_cons {l : Placed Lexeme} (h : Alike ks (l :: ls)) :
    ∃ k more, ks = k :: more ∧ k.item.untested = l.item.untested ∧ Alike more ls :=
  List.map_eq_cons_iff.mp h

theorem exists_append (h : Alike ks (ls ++ ms)) :
    ∃ front behind, ks = front ++ behind ∧ Alike front ls ∧ Alike behind ms := by
  rw [Alike, List.map_append] at h
  exact List.map_eq_append_iff.mp h

theorem resume (more other : List Char) (front : List (Placed Lexeme)) {k l : Lexeme}
    (h : k.untested = l.untested) (here there : List Char) (behind : Lexemes) :
    Alike (resume more front (push here k behind)).1
      (Lexemes.resume other front (push there l behind)).1 := by
  simp [Alike, Lexemes.resume, push, h]

end Alike

end Lexemes

theorem Block.untested_node (b : Block) {ns ms : List Node} (h : untestedAll ms = untestedAll ns) :
    (b.node ms).untested = (b.node ns).untested := by
  cases b <;> simp only [node, Node.untested, h]

theorem untestedAll_cons {n m : Node} {ns ms : List Node} (h : m.untested = n.untested)
    (hs : untestedAll ms = untestedAll ns) : untestedAll (m :: ms) = untestedAll (n :: ns) := by
  rw [untestedAll, untestedAll, h, hs]

theorem Blocks.of_alike {loop : Bool} {ls : List (Placed Lexeme)} {ns : List Node}
    (h : Blocks loop ls ns) {ks : List (Placed Lexeme)} (hks : Lexemes.Alike ks ls) :
    ∃ ms, Blocks loop ks ms ∧ untestedAll ms = untestedAll ns := by
  induction h generalizing ks with
  | nil =>
    rw [hks.eq_nil]
    exact ⟨[], .nil, rfl⟩
  | sql _ ih =>
    obtain ⟨⟨place, k⟩, more, rfl, hk, hmore⟩ := hks.exists_cons
    obtain rfl := Lexeme.eq_of_untested hk nofun
    obtain ⟨ms, hms, heq⟩ := ih hmore
    exact ⟨_, .sql hms, untestedAll_cons rfl heq⟩
  | next _ ih =>
    obtain ⟨⟨place, k⟩, more, rfl, hk, hmore⟩ := hks.exists_cons
    obtain rfl := Lexeme.eq_of_untested hk nofun
    obtain ⟨ms, hms, heq⟩ := ih hmore
    exact ⟨_, .next hms, untestedAll_cons rfl heq⟩
  | bind _ ih =>
    obtain ⟨⟨place, k⟩, more, rfl, hk, hmore⟩ := hks.exists_cons
    obtain ⟨w, rfl, hw⟩ := Lexeme.eq_slot_of_untested hk
    obtain ⟨ms, hms, heq⟩ := ih hmore
    exact ⟨_, .bind hms, untestedAll_cons (congrArg Node.bind hw) heq⟩
  | embed _ ih =>
    obtain ⟨⟨place, k⟩, more, rfl, hk, hmore⟩ := hks.exists_cons
    obtain ⟨w, rfl, hw⟩ := Lexeme.eq_slot_of_untested hk
    obtain ⟨ms, hms, heq⟩ := ih hmore
    exact ⟨_, .embed hms, untestedAll_cons (congrArg Node.embed hw) heq⟩
  | @block _ _ _ b _ _ _ _ _ allowed _ hend _ ihi ih =>
    obtain ⟨⟨place, k⟩, more, rfl, hk, hmore⟩ := hks.exists_cons
    obtain rfl := Lexeme.eq_of_untested hk nofun
    obtain ⟨inner, more, rfl, hinner, hmore⟩ := hmore.exists_append
    obtain ⟨close, more, rfl, hclose, hmore⟩ := hmore.exists_cons
    rw [← Lexeme.isEnd_untested, ← hclose, Lexeme.isEnd_untested] at hend
    obtain ⟨inside, hinside, hieq⟩ := ihi hinner
    obtain ⟨ms, hms, heq⟩ := ih hmore
    exact ⟨_, .block allowed hinside hend hms, untestedAll_cons (b.untested_node hieq) heq⟩
  | @ifElse _ _ _ t _ _ _ _ _ _ _ _ _ helse _ hend _ ihi ihs ih =>
    obtain ⟨⟨place, k⟩, more, rfl, hk, hmore⟩ := hks.exists_cons
    obtain rfl := Lexeme.eq_of_untested hk nofun
    obtain ⟨inner, more, rfl, hinner, hmore⟩ := hmore.exists_append
    obtain ⟨part, more, rfl, hpart, hmore⟩ := hmore.exists_cons
    obtain ⟨second, more, rfl, hsecond, hmore⟩ := hmore.exists_append
    obtain ⟨close, more, rfl, hclose, hmore⟩ := hmore.exists_cons
    rw [← Lexeme.isElse_untested, ← hpart, Lexeme.isElse_untested] at helse
    rw [← Lexeme.isEnd_untested, ← hclose, Lexeme.isEnd_untested] at hend
    obtain ⟨inside, hinside, hieq⟩ := ihi hinner
    obtain ⟨otherwise, hotherwise, hoeq⟩ := ihs hsecond
    obtain ⟨ms, hms, heq⟩ := ih hmore
    refine ⟨_, .ifElse hinside helse hotherwise hend hms, untestedAll_cons ?_ heq⟩
    rw [Node.untested, Node.untested, hieq, hoeq]

namespace Lexemes

def slots (ls : List (Placed Lexeme)) : List (Bool × Variable) :=
  (ls.filterMap fun l => l.item.leaf?).filterMap Node.slot?

theorem slots_append (ks ls : List (Placed Lexeme)) : slots (ks ++ ls) = slots ks ++ slots ls := by
  rw [slots, List.filterMap_append, List.filterMap_append, slots, slots]

theorem slots_resume (more : List Char) (front : List (Placed Lexeme)) (here body : List Char)
    (embedded : Bool) (v : Variable) (behind : Lexemes) :
    slots (resume more front (push here (.slot body embedded v) behind)).1 =
      slots front ++ (embedded, v) :: slots behind.1 := by
  have hfront : slots (front.map fun l => ⟨l.here ++ more, l.item⟩) = slots front := by
    rw [slots, List.filterMap_map]
    rfl
  have hslot : slots (push here (.slot body embedded v) behind).1 =
      (embedded, v) :: slots behind.1 := by
    cases embedded <;> rfl
  rw [resume, slots_append, hfront, hslot]

end Lexemes

theorem Blocks.slots_root {loop : Bool} {ls : List (Placed Lexeme)} {ns : List Node}
    (h : Blocks loop ls ns) : (Node.root ns).slots = Lexemes.slots ls := by
  rw [Node.slots, Node.leaves, h.leaves_eq, Lexemes.slots]

theorem Node.parse_of_blocks {text : String} {ns : List Node}
    (hnone : (Lexemes.ofText text.toList).2 = none)
    (h : Blocks false (Lexemes.ofText text.toList).1 ns) : Node.parse text = .ok (.root ns) := by
  rw [Node.parse, mapError_eq_ok, Lexemes.toNode_eq hnone, Outline.bind_finish_eq_ok_iff]
  exact ⟨ns, rfl, Outline.run_iff_blocks.mpr h⟩

/-- Behind a marker one test value can stand for another of its kind: the tree is the same but for
the test value of that variable, and so is the statement or the error. -/
theorem Node.evaluate_testValue {front body : List Char} {before : List (Placed Lexeme)}
    {embedded : Bool} {v : Variable}
    (hmarker : (Lexemes.ofText (front ++ Lexeme.comment body)).1 =
      before ++ [⟨Lexeme.comment body, .slot body embedded v⟩])
    {first second behind : List Char} (hkind : TestValue.SameKind first second)
    (hbehind : behind.head? ≠ some '\'') {root : Node}
    (hparse : Node.parse (String.ofList (front ++ Lexeme.comment body ++ (first ++ behind))) =
      .ok root) :
    ∃ other,
      Node.parse (String.ofList (front ++ Lexeme.comment body ++ (second ++ behind))) = .ok other ∧
        other.untested = root.untested ∧
        (∃ more, root.slots = Lexemes.slots before ++ (embedded, v.withTestValue first) :: more ∧
          other.slots = Lexemes.slots before ++
            (embedded, { v.withTestValue first with testValue := String.ofList second }) :: more) ∧
        ∀ s params, other.evaluate s params = root.evaluate s params := by
  obtain ⟨hfirst, hsecond⟩ := hkind.read hbehind
  have hscan := (Lexemes.scan_more hmarker hfirst).2
  have hscan' := (Lexemes.scan_more hmarker hsecond).2
  have hvalue : v.withTestValue second =
      { v.withTestValue first with testValue := String.ofList second } := by
    rw [Variable.withTestValue, Variable.withTestValue, hkind.isGroup]
  rw [← Lexemes.ofText] at hscan hscan'
  have halike : Lexemes.Alike
      (Lexemes.ofText (front ++ Lexeme.comment body ++ (second ++ behind))).1
      (Lexemes.ofText (front ++ Lexeme.comment body ++ (first ++ behind))).1 := by
    rw [hscan, hscan']
    apply Lexemes.Alike.resume
    rw [hvalue]
    rfl
  obtain ⟨ns, rfl, hnone, hblocks⟩ := Node.blocks_of_parse hparse
  rw [String.toList_ofList] at hnone hblocks
  obtain ⟨ms, hms, heq⟩ := hblocks.of_alike halike
  have huntested : (Node.root ms).untested = (Node.root ns).untested := by
    rw [Node.untested, Node.untested, heq]
  refine ⟨.root ms, ?_, huntested, ⟨Lexemes.slots (Lexemes.scan false behind).1, ?_, ?_⟩, ?_⟩
  · apply Node.parse_of_blocks
    · rw [hscan] at hnone
      rw [String.toList_ofList, hscan']
      exact hnone
    · rw [String.toList_ofList]
      exact hms
  · rw [hblocks.slots_root, hscan, Lexemes.slots_resume]
  · rw [hms.slots_root, hscan', Lexemes.slots_resume, ← hvalue]
  · intro s params
    exact Node.evaluate_eq_of_untested s params huntested

def inListVariable (testValue : String) : Variable :=
  ⟨⟨"pmb", [.property "a"]⟩, testValue, true, {}⟩

def inListTemplate : Node := .root [.text "A IN ", .bind (inListVariable "('x', ')')")]

theorem parse_inListTemplate : Node.parse "A IN /*pmb.a*/('x', ')')" = .ok inListTemplate := by
  have hspan : Verbatim.span (.code true) "A IN /*pmb.a*/('x', ')')".toList = ("A IN ".toList,
      .marker "/*pmb.a*/('x', ')')".toList "pmb.a".toList "('x', ')')".toList) := rfl
  have hmarker : Marker.parse "pmb.a".toList = .ok (.slot false ⟨"pmb", [.property "a"]⟩ {}) := rfl
  have hvalue : TestValue.read "('x', ')')".toList = .ok ("('x', ')')".toList, []) := rfl
  have hlexemes : Lexemes.ofText "A IN /*pmb.a*/('x', ')')".toList =
      ([⟨"A IN /*pmb.a*/('x', ')')".toList, .sql "A IN ".toList⟩,
        ⟨"/*pmb.a*/('x', ')')".toList, .slot "pmb.a".toList false (inListVariable "('x', ')')")⟩],
        none) := by
    rw [Lexemes.ofText, Lexemes.scan_slot hspan hmarker hvalue, Lexemes.scan_nil]
    rfl
  apply Node.parse_of_blocks
  · rw [hlexemes]
  · rw [hlexemes]
    exact .sql (.bind .nil)

theorem Node.evaluate_testValue_inList :
    (Lexemes.ofText ("A IN ".toList ++ Lexeme.comment "pmb.a".toList)).1 =
        [⟨"A IN /*pmb.a*/".toList, .sql "A IN ".toList⟩] ++
          [⟨Lexeme.comment "pmb.a".toList,
            .slot "pmb.a".toList false ⟨⟨"pmb", [.property "a"]⟩, "", false, {}⟩⟩] ∧
      TestValue.SameKind "('x', ')')".toList "(1)".toList ∧
      ([] : List Char).head? ≠ some '\'' ∧
      Node.parse "A IN /*pmb.a*/('x', ')')" = .ok inListTemplate ∧
      ∃ other, Node.parse "A IN /*pmb.a*/(1)" = .ok other ∧
        other.slots = [(false, inListVariable "(1)")] ∧
        ∀ s params, other.evaluate s params = inListTemplate.evaluate s params := by
  have hspan : Verbatim.span (.code true) "A IN /*pmb.a*/".toList =
      ("A IN ".toList, .marker "/*pmb.a*/".toList "pmb.a".toList []) := rfl
  have hmarker : Marker.parse "pmb.a".toList = .ok (.slot false ⟨"pmb", [.property "a"]⟩ {}) := rfl
  have hlexemes : (Lexemes.ofText ("A IN ".toList ++ Lexeme.comment "pmb.a".toList)).1 =
      [⟨"A IN /*pmb.a*/".toList, .sql "A IN ".toList⟩] ++
        [⟨Lexeme.comment "pmb.a".toList,
          .slot "pmb.a".toList false ⟨⟨"pmb", [.property "a"]⟩, "", false, {}⟩⟩] := by
    have htext : "A IN ".toList ++ Lexeme.comment "pmb.a".toList = "A IN /*pmb.a*/".toList := rfl
    rw [htext, Lexemes.ofText, Lexemes.scan_slot hspan hmarker rfl, Lexemes.scan_nil]
    rfl
  have hkind : TestValue.SameKind "('x', ')')".toList "(1)".toList := by
    have hliterals : TestValue.Balanced "'x', ')'".toList :=
      .literal "x" (by decide) (.plain (by decide) (.plain (by decide)
        (.literal ")" (by decide) .nil)))
    have hnumber : TestValue.Balanced ['1'] := .plain (by decide) .nil
    exact .inr ⟨⟨⟨_, hliterals, rfl⟩, by decide⟩, ⟨⟨_, hnumber, rfl⟩, by decide⟩⟩
  have hbehind : ([] : List Char).head? ≠ some '\'' := by simp
  obtain ⟨other, hother, -, ⟨more, hroot, hslots⟩, heq⟩ :=
    Node.evaluate_testValue hlexemes hkind hbehind parse_inListTemplate
  have hmore : [] = more := by
    have hinList : inListTemplate.slots = [(false, inListVariable "('x', ')')")] := rfl
    rw [hinList] at hroot
    exact (List.cons.inj hroot).2
  rw [← hmore] at hslots
  exact ⟨hlexemes, hkind, hbehind, parse_inListTemplate, other, hother, hslots, heq⟩

end SqlTemplate
