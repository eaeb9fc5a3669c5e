import SqlTemplate.Proofs.NamesInScope

namespace SqlTemplate

def Step.watched (alarm : Step) (names : List String) (loops : Loops) (step : Step) : Step :=
  if !loops.isEmpty && Loops.names loops == names then step else alarm

mutual

/-- Rendering with an alarm: it takes the place of a node for single turns when the loops that run
are not those around the node, whose names are `names` from the outermost on. -/
def Node.watch (s : Settings) (params : Params) (alarm : Step) (names : List String)
    (loops : Loops) : Node → Step
  | .text sql => .appendSql sql
  | .bind v => (Node.bind v).render s params loops
  | .embed v => (Node.embed v).render s params loops
  | .ifElse t children none => .settled fun d => do
    if ← Scope.test ⟨params, loops⟩ t then
      Step.branch s (watchAll s params alarm names loops children) d
    else .ok (d, false)
  | .ifElse t children (some otherwise) => .settled fun d => do
    if ← Scope.test ⟨params, loops⟩ t then
      Step.branch s (watchAll s params alarm names loops children) d
    else Step.branch s (watchAll s params alarm names loops otherwise) d
  | .optional children => .settled (.optional s (watchAll s params alarm names loops children))
  | .loop name collection children => .settled fun d => do
    let items ← Scope.collection ⟨params, loops⟩ collection
    Step.sequence ((turns name items).map fun turn =>
      watchAll s params alarm (names ++ [name]) (turn :: loops) children) d
  | .first children => .watched alarm names loops <|
    .settled (.inTurn Iteration.isFirst loops (watchAll s params alarm names loops children))
  | .last children => .watched alarm names loops <|
    .settled (.inTurn Iteration.isLast loops (watchAll s params alarm names loops children))
  | .next sql => .watched alarm names loops <|
    .inTurn (fun turn => !turn.isFirst) loops (.appendSql sql)
  | .root children => .settled (watchAll s params alarm names loops children)

def watchAll (s : Settings) (params : Params) (alarm : Step) (names : List String)
    (loops : Loops) : List Node → Step
  | [], d => .ok (d, false)
  | n :: ns, d => do
    let (d, a) ← n.watch s params alarm names loops d
    let (d, b) ← watchAll s params alarm names loops ns d
    return (d, a || b)

end

theorem Step.watched_eq {loops : Loops} (hne : loops ≠ []) (alarm step : Step) :
    watched alarm (Loops.names loops) loops step = step := by
  have hempty : loops.isEmpty = false := by simpa using hne
  simp [watched, hempty]

section Watch
variable (s : Settings) (params : Params) (alarm : Step)

theorem watchAll_cons {n : Node} {ns : List Node} {names : List String} {loops : Loops}
    (hn : n.watch s params alarm names loops = n.render s params loops)
    (hns : watchAll s params alarm names loops ns = renderAll s params loops ns) :
    watchAll s params alarm names loops (n :: ns) = renderAll s params loops (n :: ns) := by
  funext d
  rw [watchAll, renderAll, hn, hns]

theorem Blocks.watchAll_eq {inLoop : Bool} {ls : List (Placed Lexeme)} {ns : List Node}
    (h : Blocks inLoop ls ns) (loops : Loops) (hloops : inLoop = true → loops ≠ []) :
    watchAll s params alarm (Loops.names loops) loops ns = renderAll s params loops ns := by
  induction h generalizing loops with
  | nil =>
    funext d
    rw [watchAll, renderAll]
  | sql _ ih =>
    apply watchAll_cons s params alarm _ (ih loops hloops)
    rw [Node.watch, Node.render]
  | bind _ ih =>
    apply watchAll_cons s params alarm _ (ih loops hloops)
    rw [Node.watch]
  | embed _ ih =>
    apply watchAll_cons s params alarm _ (ih loops hloops)
    rw [Node.watch]
  | next _ ih =>
    apply watchAll_cons s params alarm _ (ih loops hloops)
    rw [Node.watch, Step.watched_eq (hloops rfl), Node.render]
  | @block inLoop here body b content e ls children ns allowed _ _ _ ihi ih =>
    apply watchAll_cons s params alarm _ (ih loops hloops)
    cases b with
    | optional => rw [Block.node, Node.watch, Node.render, ihi loops hloops]
    | test t =>
      rw [Block.node, Node.watch, Node.render, ihi loops hloops]
    | loop name collection =>
      have hturns : ∀ items, (turns name items).map (fun turn =>
            watchAll s params alarm (Loops.names loops ++ [name]) (turn :: loops) children) =
          (turns name items).map fun turn => renderAll s params (turn :: loops) children := by
        intro items
        apply List.map_congr_left
        intro turn hturn
        have hturn := ihi (turn :: loops) (fun _ => List.cons_ne_nil _ _)
        rw [Loops.names_cons, turns_name ‹_›] at hturn
        exact hturn
      simp only [Block.node, Node.watch, Node.render, hturns]
    | first =>
      rw [Block.node, Node.watch, Step.watched_eq (hloops allowed), Node.render,
        ihi loops hloops]
    | last =>
      rw [Block.node, Node.watch, Step.watched_eq (hloops allowed), Node.render,
        ihi loops hloops]
  | ifElse _ _ _ _ _ ihi ihs ih =>
    apply watchAll_cons s params alarm _ (ih loops hloops)
    rw [Node.watch, Node.render, ihi loops hloops, ihs loops hloops]

end Watch

/-- In a template whose paths start with names in scope no name is unknown, whatever the parameters
are. No alarm is ever raised: where a node for single turns is rendered some loops run, and they are
those around it. -/
theorem Node.evaluate_names {text : String} {root : Node} (hparse : Node.parse text = .ok root)
    {params : Params} (hnames : ∀ m ∈ root.mentions [], m.InScope params.rootName)
    (s : Settings) :
    (∀ e, root.evaluate s params = .error e → e.isUnknownName = false) ∧
      ∀ alarm, root.watch s params alarm [] [] = root.render s params [] := by
  constructor
  · have hrender : NamesKnown (root.evaluate s params) :=
      .bind (Node.namesKnown_render s params [] root hnames {}) fun _ _ => .ok _
    exact hrender
  · intro alarm
    obtain ⟨ns, rfl, -, hblocks⟩ := Node.blocks_of_parse hparse
    have hwatch := hblocks.watchAll_eq s params alarm [] (by simp)
    rw [Node.watch, Node.render]
    exact congrArg Step.settled hwatch

def membersText : String := "/*FOR e : a*//*FIRST*/(/*END*//*#current*/0/*END*/"

def membersTemplate : Node :=
  .root [.loop "e" ⟨"a", []⟩ [.first [.text "("], .bind ⟨⟨"#current", []⟩, "0", false, {}⟩]]

theorem parse_membersText : Node.parse membersText = .ok membersTemplate := by
  have hfor : Verbatim.span (.code true) membersText.toList = ([], .marker membersText.toList
      "FOR e : a".toList "/*FIRST*/(/*END*//*#current*/0/*END*/".toList) := rfl
  have hloop : Marker.parse "FOR e : a".toList =
      .ok (.directive (.opens (.loop "e" ⟨"a", []⟩))) := rfl
  have hfirst : Verbatim.span (.code false) "/*FIRST*/(/*END*//*#current*/0/*END*/".toList =
      ([], .marker "/*FIRST*/(/*END*//*#current*/0/*END*/".toList "FIRST".toList
        "(/*END*//*#current*/0/*END*/".toList) := rfl
  have hclose : Verbatim.span (.code false) "(/*END*//*#current*/0/*END*/".toList =
      (['('], .marker "/*END*//*#current*/0/*END*/".toList "END".toList
        "/*#current*/0/*END*/".toList) := rfl
  have hslot : Verbatim.span (.code false) "/*#current*/0/*END*/".toList =
      ([], .marker "/*#current*/0/*END*/".toList "#current".toList "0/*END*/".toList) := rfl
  have hmarker : Marker.parse "#current".toList = .ok (.slot false ⟨"#current", []⟩ {}) := rfl
  have hvalue : TestValue.read "0/*END*/".toList = .ok (['0'], "/*END*/".toList) := rfl
  have hend : Verbatim.span (.code false) "/*END*/".toList =
      ([], .marker "/*END*/".toList "END".toList []) := rfl
  rw [Node.parse, Lexemes.ofText, Lexemes.scan_directive hfor hloop,
    Lexemes.scan_directive hfirst rfl, Lexemes.scan_directive hclose rfl,
    Lexemes.scan_slot hslot hmarker hvalue, Lexemes.scan_directive hend rfl, Lexemes.scan_nil]
  rfl

theorem Node.evaluate_names_members :
    Node.parse membersText = .ok membersTemplate ∧
      (∀ m ∈ membersTemplate.mentions [], m.InScope "a") ∧
      (∀ e, membersTemplate.evaluate {} ⟨"a", .list [.integer 1], fun _ => none⟩ = .error e →
        e.isUnknownName = false) ∧
      ∀ alarm, membersTemplate.watch {} ⟨"a", .list [.integer 1], fun _ => none⟩ alarm [] [] =
        membersTemplate.render {} ⟨"a", .list [.integer 1], fun _ => none⟩ [] := by
  have hnames : ∀ m ∈ membersTemplate.mentions [], m.InScope "a" := by
    simp [membersTemplate, Node.mentions, mentionsAll, Mention.InScope, currentAlias]
  exact ⟨parse_membersText, hnames, Node.evaluate_names parse_membersText hnames {}⟩

end SqlTemplate
