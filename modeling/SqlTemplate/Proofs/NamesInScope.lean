import SqlTemplate.Proofs.Failure
import SqlTemplate.Proofs.TemplateTexts

/-!
The names that paths start with, and the loops that run where they are looked up. In a template
whose paths start with names in scope no name is ever unknown, and what counts the turns of a loop
meets the loops that stand around it.
-/
namespace SqlTemplate

def ResolveError.isUnknownName : ResolveError → Bool
  | unknownName _ _ _ => true
  | _ => false

def Condition.EvalError.isUnknownName : EvalError → Bool
  | resolve e => e.isUnknownName
  | _ => false

def RenderError.isUnknownName : RenderError → Bool
  | resolve e => e.isUnknownName
  | condition _ e => e.isUnknownName
  | _ => false

def Condition.Expr.paths : Expr → List Path
  | path p => [p]
  | call target _ => [target]
  | not e => e.paths
  | and l r | or l r | compare _ l r => l.paths ++ r.paths
  | float _ | integer _ | string _ | boolean _ | null => []

structure Mention where
  names : List String
  path : Path

def Mention.InScope (rootName : String) (m : Mention) : Prop :=
  m.path.head = rootName ∨ m.path.head ∈ m.names ∨ m.path.head = currentAlias ∧ m.names ≠ []

mutual

def Node.mentions (names : List String) : Node → List Mention
  | .text _ | .next _ => []
  | .bind v | .embed v => [⟨names, v.path⟩]
  | .ifElse t children none => t.expr.paths.map (⟨names, ·⟩) ++ mentionsAll names children
  | .ifElse t children (some otherwise) =>
    t.expr.paths.map (⟨names, ·⟩) ++ mentionsAll names children ++ mentionsAll names otherwise
  | .loop name collection children =>
    ⟨names, collection⟩ :: mentionsAll (names ++ [name]) children
  | .optional children | .first children | .last children | .root children =>
    mentionsAll names children

def mentionsAll (names : List String) : List Node → List Mention
  | [] => []
  | n :: ns => n.mentions names ++ mentionsAll names ns

end

namespace Loops

def names (loops : Loops) : List String := (loops.map Iteration.name).reverse

theorem names_cons (turn : Iteration) (loops : Loops) :
    names (turn :: loops) = names loops ++ [turn.name] := by simp [names]

theorem names_eq_nil {loops : Loops} : names loops = [] ↔ loops = [] := by simp [names]

end Loops

theorem turns_name {name : String} {items : List Value} {turn : Iteration}
    (h : turn ∈ turns name items) : turn.name = name := by
  obtain ⟨i, hi, rfl⟩ := List.mem_mapIdx.mp h
  rfl

abbrev NamesKnown {α : Type} : Except RenderError α → Prop :=
  FailsOnly fun e => e.isUnknownName = false

namespace Scope

theorem exists_origin {scope : Scope} {p : Path}
    (h : (Mention.mk (Loops.names scope.loops) p).InScope scope.params.rootName) :
    ∃ origin, scope.origin? p.head = some origin := by
  rw [origin?]
  cases hf : Loops.find? p.head scope.loops with
  | some i => exact ⟨_, rfl⟩
  | none =>
    have hmem : p.head ∉ Loops.names scope.loops := by
      have hnone := List.find?_eq_none.mp hf
      simpa [Loops.names] using hnone
    rcases h with h | h | ⟨hcurrent, hne⟩
    · exact ⟨.root, if_pos h⟩
    · exact absurd h hmem
    · cases hloops : scope.loops with
      | nil => exact absurd (Loops.names_eq_nil.mpr hloops) hne
      | cons i loops =>
        dsimp only
        rw [if_pos hcurrent]
        split
        · exact ⟨_, rfl⟩
        · exact ⟨_, rfl⟩

theorem failsOnly_step (path : Path) (v : Value) (segment : Segment) :
    FailsOnly (fun e => e.isUnknownName = false) (v.step path segment) := by
  rw [Value.step.eq_def]
  split
  · split
    · exact .ok _
    · exact .error rfl
  · split
    · exact .ok _
    · exact .error rfl
  · split
    · exact .ok _
    · exact .error rfl
  · exact .error rfl

theorem failsOnly_resolve {scope : Scope} {p : Path}
    (h : (Mention.mk (Loops.names scope.loops) p).InScope scope.params.rootName) :
    FailsOnly (fun e => e.isUnknownName = false) (scope.resolve p) := by
  obtain ⟨origin, horigin⟩ := exists_origin h
  rw [resolve, horigin]
  exact .bind (.foldlM (failsOnly_step p) _ _) fun _ _ => .ok _

end Scope

namespace Condition

abbrev NamesKnown {α : Type} : Except EvalError α → Prop :=
  FailsOnly fun e => e.isUnknownName = false

theorem namesKnown_expectBool (place : BooleanPlace) (v : Value) :
    NamesKnown (expectBool place v) := by
  cases v <;> first | exact .ok _ | exact .error rfl

theorem namesKnown_boolean {x : Except EvalError Value} (hx : NamesKnown x) (place : BooleanPlace) :
    NamesKnown do
      let v ← x
      return Value.boolean (← expectBool place v) :=
  .bind hx fun v _ => .bind (namesKnown_expectBool place v) fun _ _ => .ok _

theorem namesKnown_valuesEqual (a b : Value) : NamesKnown (valuesEqual a b) := by
  rw [valuesEqual]
  split
  · exact .ok _
  split
  · split <;> exact .ok _
  split
  · exact .ok _
  · exact .error rfl

theorem namesKnown_holds (op : Comparison) (a b : Value) : NamesKnown (op.holds a b) := by
  rw [Comparison.holds.eq_def]
  split
  · exact namesKnown_valuesEqual a b
  · intro e h
    cases hv : valuesEqual a b with
    | ok v =>
      rw [hv] at h
      cases h
    | error e' =>
      rw [hv] at h
      cases h
      exact namesKnown_valuesEqual a b e hv
  · split
    · exact .error rfl
    · exact .ok _

theorem namesKnown_evalCall (target : Path) (method : String) (v : Value) :
    NamesKnown (evalCall target method v) := by
  rw [evalCall.eq_def]
  split
  · exact .error rfl
  · split
    · exact namesKnown_expectBool _ _
    · exact .error rfl
  · split
    · exact .ok _
    · exact .ok _
    · exact .error rfl

theorem namesKnown_lookUp {scope : Scope} {p : Path}
    (h : (Mention.mk (Loops.names scope.loops) p).InScope scope.params.rootName) :
    NamesKnown (lookUp scope p) := by
  intro e he
  rw [lookUp] at he
  split at he
  · cases he
  · next e' hr =>
    cases he
    exact Scope.failsOnly_resolve h e' hr

theorem Expr.namesKnown_eval {scope : Scope} (e : Expr)
    (h : ∀ p ∈ e.paths,
      (Mention.mk (Loops.names scope.loops) p).InScope scope.params.rootName) :
    NamesKnown (e.eval scope) := by
  induction e with
  | path p => exact namesKnown_lookUp (h p (by simp [paths]))
  | call target method =>
    have ht := namesKnown_lookUp (h target (by simp [paths]))
    exact .bind ht fun v _ => .bind (namesKnown_evalCall _ _ v) fun _ _ => .ok _
  | not e ih => exact .bind (ih h) fun v _ => .bind (namesKnown_expectBool _ v) fun _ _ => .ok _
  | and l r ihl ihr | or l r ihl ihr =>
    have hl := ihl fun p hp => h p (List.mem_append_left _ hp)
    have hr := ihr fun p hp => h p (List.mem_append_right _ hp)
    refine .bind hl fun a _ => .bind (namesKnown_expectBool _ a) fun b _ => ?_
    cases b
    all_goals first | exact .ok _ | exact namesKnown_boolean hr _
  | compare op l r ihl ihr =>
    have hl := ihl fun p hp => h p (List.mem_append_left _ hp)
    have hr := ihr fun p hp => h p (List.mem_append_right _ hp)
    exact .bind hl fun a _ => .bind hr fun b _ => .bind (namesKnown_holds op a b) fun _ _ => .ok _
  | _ => exact .ok _

end Condition

namespace Variable

theorem namesKnown_fail {α : Type} (v : Variable) (value : Value) (use : Use) :
    NamesKnown (v.fail value use : Except RenderError α) := .error rfl

theorem namesKnown_elements (v : Variable) (items : List Value) :
    NamesKnown (v.elements items) := by
  rw [elements]
  split
  · exact .error rfl
  · exact .ok _

theorem namesKnown_bindElement (v : Variable) (element : Value) :
    NamesKnown (v.bindElement element) := by
  rw [bindElement.eq_def]
  split
  all_goals first | exact .ok _ | exact v.namesKnown_fail _ _

theorem namesKnown_bindWhole (s : Settings) (v : Variable) (r : Resolved) :
    NamesKnown (v.bindWhole s r) := by
  have hvalue : NamesKnown (v.searchValue s r.value) := by
    rw [searchValue.eq_def]
    split
    all_goals first | exact .ok _ | exact v.namesKnown_fail _ _
  exact .bind hvalue fun _ _ => .ok _

theorem namesKnown_bindFilling (s : Settings) (v : Variable) (r : Resolved) :
    NamesKnown (v.bindFilling s r) := by
  rw [bindFilling.eq_def]
  split
  · split
    · exact .ok _
    · exact .error rfl
  · exact v.namesKnown_fail _ _
  · exact v.namesKnown_fail _ _
  · split
    · exact .bind (v.namesKnown_elements _) fun _ _ =>
        .bind (.mapM v.namesKnown_bindElement _) fun _ _ => .ok _
    · exact v.namesKnown_bindWhole s r
  · exact v.namesKnown_bindWhole s r

theorem namesKnown_embedElements (v : Variable) (items : List Value) :
    NamesKnown (v.embedElements items) := by
  have helement : ∀ quoted e, NamesKnown (v.embedElement quoted e) := by
    intro quoted e
    rw [embedElement]
    split
    · exact .ok _
    · exact v.namesKnown_fail _ _
  exact .bind (v.namesKnown_elements items) fun _ _ => .bind (.mapM (helement _) _) fun _ _ => .ok _

theorem namesKnown_embedFilling (v : Variable) (r : Resolved) :
    NamesKnown (v.embedFilling r) := by
  have htext : ∀ sql, NamesKnown (v.embedText sql) := by
    intro sql
    rw [embedText]
    split
    · exact .error rfl
    · exact .ok _
  rw [embedFilling.eq_def]
  split
  · exact .ok _
  · exact v.namesKnown_fail _ _
  · exact v.namesKnown_fail _ _
  · exact .bind (v.namesKnown_embedElements _) fun _ _ => htext _
  · exact htext _

end Variable

namespace Scope

variable {scope : Scope}

theorem namesKnown_resolve {p : Path}
    (h : (Mention.mk (Loops.names scope.loops) p).InScope scope.params.rootName) :
    NamesKnown ((scope.resolve p).mapError .resolve) :=
  (failsOnly_resolve h).mapError fun _ he => he

theorem namesKnown_collection {p : Path}
    (h : (Mention.mk (Loops.names scope.loops) p).InScope scope.params.rootName) :
    NamesKnown (scope.collection p) := by
  refine .bind (namesKnown_resolve h) fun r _ => ?_
  split
  · exact .ok _
  · exact .error rfl

theorem namesKnown_test {t : Test} (h : ∀ p ∈ t.expr.paths,
    (Mention.mk (Loops.names scope.loops) p).InScope scope.params.rootName) :
    NamesKnown (scope.test t) := by
  have hholds : Condition.NamesKnown (t.expr.holds scope) :=
    .bind (t.expr.namesKnown_eval h) fun v _ => Condition.namesKnown_expectBool _ v
  exact hholds.mapError fun _ he => he

end Scope

mutual

theorem Node.namesKnown_render (s : Settings) (params : Params) (loops : Loops) (n : Node)
    (h : ∀ m ∈ n.mentions (Loops.names loops), m.InScope params.rootName) :
    (n.render s params loops).FailsOnly fun e => e.isUnknownName = false := by
  cases n with
  | text sql =>
    rw [Node.render]
    exact Step.failsOnly_appendSql sql
  | bind v =>
    have hv : NamesKnown ((Scope.resolve ⟨params, loops⟩ v.path).mapError .resolve) :=
      Scope.namesKnown_resolve (h ⟨_, v.path⟩ (by simp [Node.mentions]))
    rw [Node.render]
    apply Step.failsOnly_settled
    exact fun d => .bind hv fun r _ => .bind (v.namesKnown_bindFilling s r) fun _ _ => .ok _
  | embed v =>
    have hv : NamesKnown ((Scope.resolve ⟨params, loops⟩ v.path).mapError .resolve) :=
      Scope.namesKnown_resolve (h ⟨_, v.path⟩ (by simp [Node.mentions]))
    rw [Node.render]
    apply Step.failsOnly_settled
    exact fun d => .bind hv fun r _ => .bind (v.namesKnown_embedFilling r) fun _ _ => .ok _
  | ifElse t children otherwise =>
    have ht : NamesKnown (Scope.test ⟨params, loops⟩ t) := by
      apply Scope.namesKnown_test
      intro p hp
      apply h
      cases otherwise <;> simp [Node.mentions, hp]
    have hc := namesKnown_renderAll s params loops children fun m hm => h m <| by
      cases otherwise <;> simp [Node.mentions, hm]
    cases otherwise with
    | none =>
      rw [Node.render]
      apply Step.failsOnly_settled
      refine fun d => .bind ht fun b _ => ?_
      cases b with
      | true => exact Step.failsOnly_branch s hc d
      | false => exact .ok _
    | some otherwise =>
      have ho := namesKnown_renderAll s params loops otherwise fun m hm => h m (by simp [Node.mentions, hm])
      rw [Node.render]
      apply Step.failsOnly_settled
      refine fun d => .bind ht fun b _ => ?_
      cases b with
      | true => exact Step.failsOnly_branch s hc d
      | false => exact Step.failsOnly_branch s ho d
  | optional children =>
    have hc := namesKnown_renderAll s params loops children (by simpa [Node.mentions] using h)
    rw [Node.render]
    exact Step.failsOnly_settled (Step.failsOnly_optional s hc)
  | loop name collection children =>
    rw [Node.mentions, List.forall_mem_cons] at h
    have hcollection : NamesKnown (Scope.collection ⟨params, loops⟩ collection) :=
      Scope.namesKnown_collection h.1
    rw [Node.render]
    apply Step.failsOnly_settled
    refine fun d => .bind hcollection fun items _ => ?_
    apply Step.failsOnly_sequence
    intro step hstep
    obtain ⟨turn, hturn, rfl⟩ := List.mem_map.mp hstep
    apply namesKnown_renderAll
    rw [Loops.names_cons, turns_name hturn]
    exact h.2
  | first children =>
    have hc := namesKnown_renderAll s params loops children (by simpa [Node.mentions] using h)
    rw [Node.render]
    exact Step.failsOnly_settled (Step.failsOnly_inTurn _ loops hc)
  | last children =>
    have hc := namesKnown_renderAll s params loops children (by simpa [Node.mentions] using h)
    rw [Node.render]
    exact Step.failsOnly_settled (Step.failsOnly_inTurn _ loops hc)
  | next sql =>
    rw [Node.render]
    exact Step.failsOnly_inTurn _ loops (Step.failsOnly_appendSql sql)
  | root children =>
    have hc := namesKnown_renderAll s params loops children (by simpa [Node.mentions] using h)
    rw [Node.render]
    exact Step.failsOnly_settled hc

theorem namesKnown_renderAll (s : Settings) (params : Params) (loops : Loops) (ns : List Node)
    (h : ∀ m ∈ mentionsAll (Loops.names loops) ns, m.InScope params.rootName) :
    Step.FailsOnly (fun e => e.isUnknownName = false) (renderAll s params loops ns) := by
  cases ns with
  | nil => exact Step.failsOnly_nothing
  | cons n ns =>
    rw [mentionsAll, List.forall_mem_append] at h
    have hn := Node.namesKnown_render s params loops n h.1
    have hns := namesKnown_renderAll s params loops ns h.2
    exact Step.failsOnly_andThen hn hns

end

end SqlTemplate
