import SqlTemplate.Proofs.StepFrame

namespace SqlTemplate

/-- A computation on the stack of running loops. One that fails leaves behind what is on it then. -/
abbrev OnLoops (α : Type) := ExceptT RenderError (StateM Loops) α

namespace OnLoops

variable {α β : Type}

def lift (x : Except RenderError α) : OnLoops α := ExceptT.mk (pure x)

def during (turn : Iteration) (content : OnLoops α) : OnLoops α := do
  modify (turn :: ·)
  let result ← ExceptT.lift content.run
  modify List.tail
  lift result

def Restores (x : OnLoops α) (f : Loops → Except RenderError α) : Prop :=
  ∀ loops, x.run.run loops = (f loops, loops)

theorem restores_pure (a : α) : Restores (pure a) fun _ => .ok a := fun _ => rfl

theorem restores_get : Restores get .ok := fun _ => rfl

theorem restores_lift (x : Except RenderError α) : (lift x).Restores fun _ => x := fun _ => rfl

theorem Restores.bind {x : OnLoops α} {f : Loops → Except RenderError α} {y : α → OnLoops β}
    {g : α → Loops → Except RenderError β} (hx : x.Restores f) (hy : ∀ a, (y a).Restores (g a)) :
    (x >>= y).Restores fun loops => f loops >>= fun a => g a loops := by
  intro loops
  simp only [ExceptT.run_bind, StateT.run_bind, hx loops]
  cases f loops with
  | error e => rfl
  | ok a => exact hy a loops

theorem run_during (turn : Iteration) (content : OnLoops α) (loops : Loops) :
    (during turn content).run.run loops =
      ((content.run.run (turn :: loops)).1, (content.run.run (turn :: loops)).2.tail) := rfl

theorem Restores.during {content : OnLoops α} {f : Loops → Except RenderError α}
    (h : content.Restores f) (turn : Iteration) :
    (during turn content).Restores fun loops => f (turn :: loops) := by
  intro loops
  rw [run_during, h (turn :: loops)]
  rfl

end OnLoops

abbrev Walk := Draft → OnLoops (Draft × Bool)

namespace Walk

def nothing : Walk := fun d => return (d, false)

def appendSql (sql : String) : Walk := fun d => return (d.appendSql sql, false)

def fill (f : Filling) : Walk := fun d => return (d.fill f, f.keeps)

def andThen (walk next : Walk) : Walk := fun d => do
  let (d, a) ← walk d
  let (d, b) ← next d
  return (d, a || b)

def sequence (walks : List Walk) : Walk := walks.foldr andThen nothing

def settled (walk : Walk) : Walk := fun d => do
  let (d, keeps) ← walk d
  return (d.beginIf keeps, keeps)

def branch (s : Settings) (content : Walk) : Walk := fun d => do
  if d.strips then
    let (fragment, _) ← content {}
    return (fragment.commit s d, true)
  else
    let (d, _) ← content d
    return (d, true)

def optional (s : Settings) (content : Walk) : Walk := fun d => do
  let (part, keeps) ← content .forOptional
  return (if keeps then part.commit s d else d, keeps)

def inTurn (p : Iteration → Bool) (walk : Walk) : Walk := fun d => do
  if (← get).head?.any p then walk d else return (d, false)

def Restores (walk : Walk) (step : Loops → Step) : Prop :=
  ∀ d, (walk d).Restores fun loops => step loops d

theorem restores_nothing : Restores nothing fun _ => .nothing := fun _ => OnLoops.restores_pure _

theorem restores_appendSql (sql : String) : Restores (appendSql sql) fun _ => .appendSql sql :=
  fun _ => OnLoops.restores_pure _

theorem restores_fill (f : Filling) : Restores (fill f) fun _ => .fill f :=
  fun _ => OnLoops.restores_pure _

theorem Restores.andThen {walk next : Walk} {step after : Loops → Step} (hw : walk.Restores step)
    (hn : next.Restores after) :
    (walk.andThen next).Restores fun loops d => do
      let (d, a) ← step loops d
      let (d, b) ← after loops d
      return (d, a || b) := by
  intro d
  apply (hw d).bind
  rintro ⟨d, a⟩
  apply (hn d).bind
  rintro ⟨d, b⟩
  exact OnLoops.restores_pure _

theorem restores_sequence {walks : Iteration → Walk} {steps : Iteration → Loops → Step}
    (h : ∀ turn, (walks turn).Restores (steps turn)) (turns : List Iteration) :
    (sequence (turns.map walks)).Restores fun loops =>
      .sequence (turns.map fun turn => steps turn loops) := by
  induction turns with
  | nil => exact restores_nothing
  | cons turn turns ih => exact (h turn).andThen ih

theorem Restores.settled {walk : Walk} {step : Loops → Step} (h : walk.Restores step) :
    walk.settled.Restores fun loops => (step loops).settled := by
  intro d
  apply (h d).bind
  rintro ⟨d, keeps⟩
  exact OnLoops.restores_pure _

theorem Restores.branch {content : Walk} {step : Loops → Step} (h : content.Restores step)
    (s : Settings) : (content.branch s).Restores fun loops => (step loops).branch s := by
  intro d
  simp only [Walk.branch, Step.branch]
  cases d.strips with
  | true =>
    apply (h {}).bind
    rintro ⟨fragment, keeps⟩
    exact OnLoops.restores_pure _
  | false =>
    apply (h d).bind
    rintro ⟨d, keeps⟩
    exact OnLoops.restores_pure _

theorem Restores.optional {content : Walk} {step : Loops → Step} (h : content.Restores step)
    (s : Settings) : (content.optional s).Restores fun loops => (step loops).optional s := by
  intro d
  apply (h .forOptional).bind
  rintro ⟨part, keeps⟩
  exact OnLoops.restores_pure _

theorem Restores.inTurn {walk : Walk} {step : Loops → Step} (h : walk.Restores step)
    (p : Iteration → Bool) : (walk.inTurn p).Restores fun loops => (step loops).inTurn p loops := by
  intro d loops
  have hread : (walk.inTurn p d).run.run loops =
      (if loops.head?.any p then walk d else nothing d).run.run loops := rfl
  simp only [hread, Step.inTurn]
  split
  · exact h d loops
  · exact restores_nothing d loops

section Reading
variable {α : Type} {walk : α → Walk} {step : α → Loops → Step}
  (h : ∀ a, (walk a).Restores (step a))
include h

theorem restores_lift (x : Except RenderError α) :
    Restores (fun d => OnLoops.lift x >>= fun a => walk a d) fun loops d =>
      x >>= fun a => step a loops d :=
  fun d => (OnLoops.restores_lift x).bind fun a => h a d

theorem restores_read (f : Loops → Except RenderError α) :
    Restores (fun d => get >>= fun loops => OnLoops.lift (f loops) >>= fun a => walk a d)
      fun loops d => f loops >>= fun a => step a loops d :=
  fun d => OnLoops.restores_get.bind fun loops => restores_lift h (f loops) d

end Reading

end Walk

mutual

def Node.walk (s : Settings) (params : Params) : Node → Walk
  | .text sql => .appendSql sql
  | .bind v => .settled fun d => do
    let r ← OnLoops.lift (Scope.resolveVariable ⟨params, ← get⟩ v)
    Walk.fill (← OnLoops.lift (v.bindFilling s r)) d
  | .embed v => .settled fun d => do
    let r ← OnLoops.lift (Scope.resolveVariable ⟨params, ← get⟩ v)
    Walk.fill (← OnLoops.lift (v.embedFilling r)) d
  | .ifElse t children none => .settled fun d => do
    if ← OnLoops.lift (Scope.test ⟨params, ← get⟩ t) then
      Walk.branch s (walkAll s params children) d
    else return (d, false)
  | .ifElse t children (some otherwise) => .settled fun d => do
    if ← OnLoops.lift (Scope.test ⟨params, ← get⟩ t) then
      Walk.branch s (walkAll s params children) d
    else Walk.branch s (walkAll s params otherwise) d
  | .optional children => .settled (.optional s (walkAll s params children))
  | .loop name collection children => .settled fun d => do
    let items ← OnLoops.lift (Scope.collection ⟨params, ← get⟩ collection)
    Walk.sequence ((turns name items).map fun turn d =>
      (walkAll s params children d).during turn) d
  | .first children => .settled (.inTurn Iteration.isFirst (walkAll s params children))
  | .last children => .settled (.inTurn Iteration.isLast (walkAll s params children))
  | .next sql => .inTurn (fun turn => !turn.isFirst) (.appendSql sql)
  | .root children => .settled (walkAll s params children)

def walkAll (s : Settings) (params : Params) : List Node → Walk
  | [] => .nothing
  | n :: ns => (n.walk s params).andThen (walkAll s params ns)

end

mutual

theorem Node.walk_restores (s : Settings) (params : Params) (n : Node) :
    (n.walk s params).Restores fun loops => n.render s params loops := by
  cases n with
  | text sql =>
    simp only [Node.walk, Node.render]
    exact Walk.restores_appendSql sql
  | bind v =>
    simp only [Node.walk, Node.render]
    apply Walk.Restores.settled
    apply Walk.restores_read
    intro r
    exact Walk.restores_lift Walk.restores_fill _
  | embed v =>
    simp only [Node.walk, Node.render]
    apply Walk.Restores.settled
    apply Walk.restores_read
    intro r
    exact Walk.restores_lift Walk.restores_fill _
  | ifElse t children otherwise =>
    have hc := (walkAll_restores s params children).branch s
    cases otherwise with
    | none =>
      simp only [Node.walk, Node.render]
      apply Walk.Restores.settled
      apply Walk.restores_read
      intro taken
      cases taken with
      | true => exact hc
      | false => exact Walk.restores_nothing
    | some otherwise =>
      have ho := (walkAll_restores s params otherwise).branch s
      simp only [Node.walk, Node.render]
      apply Walk.Restores.settled
      apply Walk.restores_read
      intro taken
      cases taken with
      | true => exact hc
      | false => exact ho
  | optional children =>
    simp only [Node.walk, Node.render]
    exact ((walkAll_restores s params children).optional s).settled
  | loop name collection children =>
    simp only [Node.walk, Node.render]
    apply Walk.Restores.settled
    apply Walk.restores_read
    intro items
    apply Walk.restores_sequence
    intro turn d
    exact (walkAll_restores s params children d).during turn
  | first children =>
    simp only [Node.walk, Node.render]
    exact ((walkAll_restores s params children).inTurn _).settled
  | last children =>
    simp only [Node.walk, Node.render]
    exact ((walkAll_restores s params children).inTurn _).settled
  | next sql =>
    simp only [Node.walk, Node.render]
    exact (Walk.restores_appendSql sql).inTurn _
  | root children =>
    simp only [Node.walk, Node.render]
    exact (walkAll_restores s params children).settled

theorem walkAll_restores (s : Settings) (params : Params) (ns : List Node) :
    (walkAll s params ns).Restores fun loops => renderAll s params loops ns := by
  cases ns with
  | nil => exact Walk.restores_nothing
  | cons n ns => exact (Node.walk_restores s params n).andThen (walkAll_restores s params ns)

end

/-- Rendering a node leaves the stack of running loops as it was, whether it succeeds or fails, and
gives what rendering with these loops does. What it writes behind a draft, and whether it keeps the
optional part around it, is what it writes in a fresh place: of the draft only counts whether the
next fragment loses its connector. -/
theorem Node.walk_run (s : Settings) (params : Params) (n : Node) (d : Draft) (loops : Loops) :
    (n.walk s params d).run.run loops = (n.render s params loops d, loops) ∧
      n.render s params loops d =
        (n.render s params loops (.fresh d.strips)).map fun r => (d.followedBy r.1, r.2) :=
  ⟨n.walk_restores s params d loops, n.render_framed s params loops d⟩

end SqlTemplate
