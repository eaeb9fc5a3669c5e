import SqlTemplate.Proofs.ValidSettings
import SqlTemplate.Proofs.VariableOutput

/-!
Rendering writes the items of a template: the SQL is their text, and the values to bind are those
of their slots, in order.
-/
namespace SqlTemplate

namespace Draft

def write (o : Output) (d : Draft) : Draft :=
  (d.append (String.ofList (Item.flatten o.items)) (Item.slots o.items)).beginIf o.begins

theorem write_nothing (d : Draft) : d.write .nothing = d := by
  simp [write, Output.nothing, append, beginIf]

theorem write_append (d : Draft) (a b : Output) :
    (d.write a).write b = d.write (a.append b) := by
  simp [write, Output.append, append, beginIf, String.ofList_append, String.append_assoc,
    Bool.or_assoc]

theorem strips_write (d : Draft) (o : Output) :
    (d.write o).strips = (d.strips && !o.begins) := by
  simp [write, strips, append, beginIf, Bool.not_or, Bool.and_assoc]

theorem beginIf_write (d : Draft) (o : Output) : (d.write o).beginIf o.keeps = d.write o := by
  have h := o.begins_of_keeps
  simp only [write, beginIf, append]
  cases hk : o.keeps with
  | false => simp
  | true => simp [h hk]

theorem beginIf_commit {s : Settings} (hs : ∀ w ∈ s.connectors, isIdentifier w.toList = true)
    (e d : Draft) (he : e.sql = "" ∧ e.binds = []) (o : Output) :
    ((e.write o).commit s d).beginIf true =
      d.write (.fragment (if d.strips then Item.stripped s o.items else o.items)) := by
  simp only [commit, write, append, beginIf, he.1, he.2, Output.fragment]
  cases d.strips with
  | false => simp
  | true => simp [Settings.strip, Item.flatten_stripped hs, Item.slots_stripped]

end Draft

namespace Step

def Follows (step : Step) (w : Writer) : Prop :=
  ∀ d, step d = (w d.strips).map fun o => (d.write o, o.keeps)

theorem follows_nothing : Follows nothing .nothing := by
  intro d
  simp [nothing, Writer.nothing, Except.map, Draft.write_nothing]

theorem follows_appendSql (source : Source) (sql : String) :
    Follows (appendSql sql) (.text source sql.toList) := by
  intro d
  simp [appendSql, Writer.text, Except.map, Draft.write, Draft.appendSql, Draft.append,
    Draft.beginIf, Item.chars]

theorem follows_fail (e : RenderError) :
    Follows (fun _ => .error e) (fun _ => .error e) := fun _ => rfl

theorem follows_andThen {step next : Step} {w v : Writer} (hw : Follows step w)
    (hv : Follows next v) :
    Follows
      (fun d => do
        let (d, a) ← step d
        let (d, b) ← next d
        return (d, a || b))
      (fun strips => do
        let a ← w strips
        let b ← v (strips && !a.begins)
        return a.append b) := by
  intro d
  dsimp only
  rw [hw d]
  cases w d.strips with
  | error e => rfl
  | ok a =>
    have hn := hv (d.write a)
    rw [Draft.strips_write] at hn
    simp only [Except.map, bind, Except.bind, hn]
    cases v (d.strips && !a.begins) with
    | error e => rfl
    | ok b => simp [pure, Except.pure, Draft.write_append, Output.append]

theorem follows_sequence {α : Type} {f : α → Step} {g : α → Writer}
    (h : ∀ x, Follows (f x) (g x)) (xs : List α) :
    Follows (sequence (xs.map f)) (.sequence (xs.map g)) := by
  induction xs with
  | nil => exact follows_nothing
  | cons x xs ih => exact follows_andThen (h x) ih

theorem follows_settled {step : Step} {w : Writer} (h : Follows step w) :
    Follows step.settled w := by
  intro d
  rw [settled, h d]
  cases w d.strips with
  | error e => rfl
  | ok o => simp [Except.map, bind, Except.bind, pure, Except.pure, Draft.beginIf_write]

theorem follows_inTurn {p : Iteration → Bool} {loops : Loops} {step : Step} {w : Writer}
    (h : Follows step w) : Follows (inTurn p loops step) (.inTurn p loops w) := by
  rw [inTurn, Writer.inTurn]
  split
  · exact h
  · exact follows_nothing

theorem follows_fill {r : Except RenderError Resolved} {f : Resolved → Except RenderError Filling}
    {g : Resolved → Except RenderError Output} (h : ∀ r, f r = (g r).map Output.filling) :
    Follows (fun d => do fill (← f (← r)) d) (fun _ => do g (← r)) := by
  intro d
  cases r with
  | error e => rfl
  | ok r =>
    simp only [bind, Except.bind, h r]
    cases g r with
    | error e => rfl
    | ok o => rfl

variable {s : Settings} (hs : ∀ w ∈ s.connectors, isIdentifier w.toList = true)
include hs

theorem follows_branch {content : Step} {w : Writer} (h : Follows content w) :
    Follows (settled (branch s content)) (.branch s w) := by
  intro d
  rw [settled, branch, Writer.branch]
  -- A branch is written apart or in place: in neither has its content a connector to lose.
  cases hd : d.strips with
  | true =>
    have hc := h {}
    have hf : ({} : Draft).strips = false := rfl
    rw [hf] at hc
    rw [if_pos rfl, hc]
    cases w false with
    | error e => rfl
    | ok o =>
      have hb := Draft.beginIf_commit hs {} d ⟨rfl, rfl⟩ o
      rw [hd] at hb
      simpa [Except.map, bind, Except.bind, pure, Except.pure, Output.fragment] using hb
  | false =>
    have hc := h d
    rw [hd] at hc
    rw [if_neg (by simp), hc]
    cases w false with
    | error e => rfl
    | ok o =>
      simp [Except.map, bind, Except.bind, pure, Except.pure, Output.fragment, Draft.write,
        Draft.beginIf, Draft.append]

theorem follows_optional {content : Step} {w : Writer} (h : Follows content w) :
    Follows (settled (optional s content)) (.optional s w) := by
  intro d
  have hc := h .forOptional
  have hf : Draft.forOptional.strips = true := rfl
  rw [hf] at hc
  rw [settled, optional, Writer.optional, hc]
  cases w true with
  | error e => rfl
  | ok o =>
    have hb := Draft.beginIf_commit hs .forOptional d ⟨rfl, rfl⟩ o
    simp only [Except.map, bind, Except.bind, pure, Except.pure]
    cases o.keeps with
    | true => simpa [Output.fragment] using hb
    | false => simp [Draft.write_nothing, Draft.beginIf]

end Step

mutual

theorem Node.render_follows {s : Settings}
    (hs : ∀ w ∈ s.connectors, isIdentifier w.toList = true) (params : Params) (loops : Loops)
    (n : Node) :
    (n.render s params loops).Follows (n.output s params loops) := by
  cases n with
  | text sql =>
    rw [Node.render, Node.output]
    exact Step.follows_appendSql .template sql
  | bind v =>
    rw [Node.render, Node.output]
    exact Step.follows_settled (Step.follows_fill (v.bindFilling_eq s))
  | embed v =>
    rw [Node.render, Node.output]
    exact Step.follows_settled (Step.follows_fill v.embedFilling_eq)
  | ifElse t children otherwise =>
    have hc := renderAll_follows hs params loops children
    cases otherwise with
    | none =>
      rw [Node.render, Node.output]
      cases Scope.test ⟨params, loops⟩ t with
      | error e => exact Step.follows_settled (Step.follows_fail e)
      | ok b =>
        cases b with
        | true => exact Step.follows_branch hs hc
        | false => exact Step.follows_settled Step.follows_nothing
    | some otherwise =>
      have ho := renderAll_follows hs params loops otherwise
      rw [Node.render, Node.output]
      cases Scope.test ⟨params, loops⟩ t with
      | error e => exact Step.follows_settled (Step.follows_fail e)
      | ok b =>
        cases b with
        | true => exact Step.follows_branch hs hc
        | false => exact Step.follows_branch hs ho
  | optional children =>
    rw [Node.render, Node.output]
    exact Step.follows_optional hs (renderAll_follows hs params loops children)
  | loop name collection children =>
    rw [Node.render, Node.output]
    cases Scope.collection ⟨params, loops⟩ collection with
    | error e => exact Step.follows_settled (Step.follows_fail e)
    | ok items =>
      apply Step.follows_settled
      apply Step.follows_sequence
      intro turn
      exact renderAll_follows hs params (turn :: loops) children
  | first children =>
    rw [Node.render, Node.output]
    exact Step.follows_settled (Step.follows_inTurn (renderAll_follows hs params loops children))
  | last children =>
    rw [Node.render, Node.output]
    exact Step.follows_settled (Step.follows_inTurn (renderAll_follows hs params loops children))
  | next sql =>
    rw [Node.render, Node.output]
    exact Step.follows_inTurn (Step.follows_appendSql .next sql)
  | root children =>
    rw [Node.render, Node.output]
    exact Step.follows_settled (renderAll_follows hs params loops children)

theorem renderAll_follows {s : Settings}
    (hs : ∀ w ∈ s.connectors, isIdentifier w.toList = true) (params : Params) (loops : Loops)
    (ns : List Node) :
    Step.Follows (renderAll s params loops ns) (outputAll s params loops ns) := by
  cases ns with
  | nil => exact Step.follows_nothing
  | cons n ns =>
    exact Step.follows_andThen (Node.render_follows hs params loops n)
      (renderAll_follows hs params loops ns)

end

theorem Node.evaluate_eq {s : Settings}
    (hs : ∀ w ∈ s.connectors, isIdentifier w.toList = true) (params : Params) (root : Node) :
    root.evaluate s params =
      (root.items s params).map fun items => Item.statement (Item.trimmed items) := by
  have h := Node.render_follows hs params [] root {}
  have hf : ({} : Draft).strips = false := rfl
  rw [hf] at h
  rw [Node.evaluate, Node.items, h]
  cases root.output s params [] false with
  | error e => rfl
  | ok o =>
    simp [Except.map, Bind.bind, Except.bind, pure, Except.pure, Draft.statement,
      Draft.write, Draft.append, Draft.beginIf, Item.statement, Item.flatten_trimmed,
      Item.slots_trimmed]

theorem Item.statement_slot (before behind : List Item) (b : Bind) :
    (statement (before ++ .slot b :: behind)).binds[(slots before).length]? = some b ∧
      (statement (before ++ .slot b :: behind)).sql.toList[(flatten before).length]? =
        some '?' := by
  simp [statement, chars]

theorem Node.evaluate_eq_items {s : Settings} (hs : s.check = .ok ()) (params : Params)
    (root : Node) :
    root.evaluate s params =
        (root.items s params).map (fun items => Item.statement (Item.trimmed items)) ∧
      (∀ items, Item.slots (Item.stripped s items) = Item.slots items ∧
        Item.flatten (Item.stripped s items) = Connector.strip s.connectors (Item.flatten items)) ∧
      (∀ items, Item.slots (Item.trimmed items) = Item.slots items ∧
        Item.flatten (Item.trimmed items) = Text.trimEnd (Item.flatten items)) ∧
      ∀ before behind b,
        (Item.statement (before ++ .slot b :: behind)).binds[(Item.slots before).length]? = some b ∧
        (Item.statement (before ++ .slot b :: behind)).sql.toList[(Item.flatten before).length]? =
          some '?' := by
  have hi := s.isIdentifier_of_check hs
  refine ⟨Node.evaluate_eq hi params root, ?_, ?_, Item.statement_slot⟩
  · intro items
    exact ⟨Item.slots_stripped s items, Item.flatten_stripped hi items⟩
  · intro items
    exact ⟨Item.slots_trimmed items, Item.flatten_trimmed items⟩

theorem Node.evaluate_eq_items_where :
    ({} : Settings).check = .ok () ∧
      (Node.root [.optional [.text "WHERE ", .ifElse ⟨"true", .boolean true⟩
        [.text "AND A = ", .bind ⟨⟨"pmb", []⟩, "1", false, {}⟩] none], .text " "]).evaluate {}
          ⟨"pmb", .boolean true, fun _ => none⟩ =
        .ok ⟨"WHERE A = ?", [⟨.boolean true, .boolean⟩]⟩ := by
  refine ⟨rfl, ?_⟩
  rw [(Node.evaluate_eq_items rfl _ _).1]
  rfl

end SqlTemplate
