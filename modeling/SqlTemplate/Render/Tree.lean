import SqlTemplate.Render.Draft

namespace SqlTemplate

def turns (name : String) (items : List Value) : List Iteration :=
  items.mapIdx fun i item => ⟨name, item, item.type?.getD .object, i, items.length⟩

def Scope.resolveVariable (scope : Scope) (v : Variable) : Except RenderError Resolved :=
  (scope.resolve v.path).mapError .resolve

def Scope.collection (scope : Scope) (path : Path) : Except RenderError (List Value) := do
  match ← (scope.resolve path).mapError RenderError.resolve with
  | ⟨.list items, _⟩ => return items
  | ⟨v, _⟩ => throw (.notACollection path v.type?)

def Scope.test (scope : Scope) (t : Test) : Except RenderError Bool :=
  (t.expr.holds scope).mapError (.condition t.source)

def Step.inTurn (p : Iteration → Bool) (loops : Loops) (step : Step) : Step :=
  if loops.head?.any p then step else .nothing

mutual

def Node.render (s : Settings) (params : Params) (loops : Loops) : Node → Step
  | .text sql => .appendSql sql
  | .bind v => .settled fun d => do
    let r ← Scope.resolveVariable ⟨params, loops⟩ v
    Step.fill (← v.bindFilling s r) d
  | .embed v => .settled fun d => do
    let r ← Scope.resolveVariable ⟨params, loops⟩ v
    Step.fill (← v.embedFilling r) d
  | .ifElse t children none => .settled fun d => do
    if ← Scope.test ⟨params, loops⟩ t then Step.branch s (renderAll s params loops children) d
    else .ok (d, false)
  | .ifElse t children (some otherwise) => .settled fun d => do
    if ← Scope.test ⟨params, loops⟩ t then Step.branch s (renderAll s params loops children) d
    else Step.branch s (renderAll s params loops otherwise) d
  | .optional children => .settled (.optional s (renderAll s params loops children))
  | .loop name collection children => .settled fun d => do
    let items ← Scope.collection ⟨params, loops⟩ collection
    Step.sequence ((turns name items).map fun turn =>
      renderAll s params (turn :: loops) children) d
  | .first children =>
    .settled (.inTurn Iteration.isFirst loops (renderAll s params loops children))
  | .last children =>
    .settled (.inTurn Iteration.isLast loops (renderAll s params loops children))
  | .next sql => .inTurn (fun turn => !turn.isFirst) loops (.appendSql sql)
  | .root children => .settled (renderAll s params loops children)

def renderAll (s : Settings) (params : Params) (loops : Loops) : List Node → Step
  | [], d => .ok (d, false)
  | n :: ns, d => do
    let (d, a) ← n.render s params loops d
    let (d, b) ← renderAll s params loops ns d
    return (d, a || b)

end

def Node.evaluate (s : Settings) (params : Params) (root : Node) :
    Except RenderError Statement := do
  let (d, _) ← root.render s params [] {}
  return d.statement

end SqlTemplate
