import SqlTemplate.Proofs.RenderedItems

namespace SqlTemplate

inductive Clause where
  | verbatim (sql : String)
  | test (t : Test) (children : List Node) (otherwise : Option (List Node))

inductive Outcome where
  | verbatim (sql : String)
  | skipped
  | taken (sql : String) (binds : List Bind)

namespace Outcome

def isTaken : Outcome → Bool
  | taken _ _ => true
  | _ => false

def sql (s : Settings) : (strips : Bool) → List Outcome → String
  | _, [] => ""
  | strips, verbatim text :: os => text ++ sql s strips os
  | strips, skipped :: os => sql s strips os
  | strips, taken text _ :: os => (if strips then s.strip text else text) ++ sql s false os

def binds : List Outcome → List Bind
  | [] => []
  | taken _ bs :: os => bs ++ binds os
  | _ :: os => binds os

end Outcome

namespace Clause

def node : Clause → Node
  | verbatim sql => .text sql
  | test t children otherwise => .ifElse t children otherwise

def takenAlone (s : Settings) (params : Params) (loops : Loops) (branch : List Node) :
    Except RenderError Outcome := do
  let (d, _) ← renderAll s params loops branch {}
  return .taken d.sql d.binds

def outcome (s : Settings) (params : Params) (loops : Loops) : Clause → Except RenderError Outcome
  | verbatim sql => .ok (.verbatim sql)
  | test t children otherwise => do
    if ← Scope.test ⟨params, loops⟩ t then takenAlone s params loops children
    else
      match otherwise with
      | none => return .skipped
      | some branch => takenAlone s params loops branch

end Clause

namespace Draft

def writeOutcomes (s : Settings) (os : List Outcome) (d : Draft) : Draft :=
  (d.append (Outcome.sql s d.strips os) (Outcome.binds os)).beginIf (os.any Outcome.isTaken)

theorem writeOutcomes_cons (s : Settings) (o : Outcome) (os : List Outcome) (d : Draft)
    (hd : d.inOptional = true) :
    d.writeOutcomes s (o :: os) = (d.writeOutcomes s [o]).writeOutcomes s os := by
  have hn : (d.writeOutcomes s [o]).strips = (d.strips && !o.isTaken) := by
    simp [writeOutcomes, strips, append, beginIf, hd]
  cases o with
  | verbatim text =>
    simp [writeOutcomes, Outcome.sql, Outcome.binds, Outcome.isTaken, append, beginIf, strips,
      String.append_assoc]
  | skipped =>
    simp [writeOutcomes, Outcome.sql, Outcome.binds, Outcome.isTaken, append, beginIf, strips]
  | taken text bs =>
    rw [writeOutcomes.eq_1 s os, hn]
    simp [writeOutcomes, Outcome.sql, Outcome.binds, Outcome.isTaken, append, beginIf,
      String.append_assoc]

end Draft

namespace Clause

variable {s : Settings} (hs : ∀ w ∈ s.connectors, isIdentifier w.toList = true)
include hs

theorem render_branch (params : Params) (loops : Loops) (branch : List Node) (d : Draft) :
    Step.settled (Step.branch s (renderAll s params loops branch)) d =
      (takenAlone s params loops branch).map fun o => (d.writeOutcomes s [o], o.isTaken) := by
  have h := renderAll_follows hs params loops branch
  have he := h {}
  have hf : ({} : Draft).strips = false := rfl
  rw [hf] at he
  rw [Step.follows_branch hs h d, takenAlone, he, Writer.branch]
  cases outputAll s params loops branch false with
  | error e => rfl
  | ok o =>
    have hb := Draft.beginIf_commit hs {} d ⟨rfl, rfl⟩ o
    have hsql : Outcome.sql s d.strips [.taken (Draft.write o {}).sql (Draft.write o {}).binds] =
        if d.strips then s.strip (Draft.write o {}).sql else (Draft.write o {}).sql := by
      simp [Outcome.sql]
    simp only [Except.map, bind, Except.bind, pure, Except.pure, Output.keeps_fragment, ← hb,
      Draft.writeOutcomes, hsql, Outcome.binds, Outcome.isTaken, List.any_cons, List.any_nil,
      List.append_nil, Bool.or_false]
    rfl

theorem render_node (params : Params) (loops : Loops) (c : Clause) (d : Draft) :
    c.node.render s params loops d =
      (c.outcome s params loops).map fun o => (d.writeOutcomes s [o], o.isTaken) := by
  have hskip : Step.settled .nothing d =
      .ok (d.writeOutcomes s [.skipped], Outcome.isTaken .skipped) := by
    simp [Step.settled, Step.nothing, bind, Except.bind, pure, Except.pure, Draft.writeOutcomes,
      Outcome.sql, Outcome.binds, Outcome.isTaken, Draft.append, Draft.beginIf]
  cases c with
  | verbatim sql =>
    simp [node, Node.render, outcome, Except.map, Step.appendSql, Draft.appendSql,
      Draft.writeOutcomes, Outcome.sql, Outcome.binds, Outcome.isTaken, Draft.append,
      Draft.beginIf]
  | test t children otherwise =>
    have hc := render_branch hs params loops children d
    cases otherwise with
    | none =>
      rw [node, Node.render, outcome]
      cases Scope.test ⟨params, loops⟩ t with
      | error e => rfl
      | ok b =>
        cases b with
        | true => exact hc
        | false => exact hskip
    | some branch =>
      have ho := render_branch hs params loops branch d
      rw [node, Node.render, outcome]
      cases Scope.test ⟨params, loops⟩ t with
      | error e => rfl
      | ok b =>
        cases b with
        | true => exact hc
        | false => exact ho

theorem renderAll_nodes (params : Params) (loops : Loops) (cs : List Clause) (d : Draft)
    (hd : d.inOptional = true) :
    renderAll s params loops (cs.map node) d =
      (cs.mapM (outcome s params loops)).map fun os =>
        (d.writeOutcomes s os, os.any Outcome.isTaken) := by
  induction cs generalizing d with
  | nil =>
    simp [renderAll, pure, Except.pure, Except.map, Draft.writeOutcomes, Outcome.sql,
      Outcome.binds, Draft.append, Draft.beginIf]
  | cons c cs ih =>
    rw [List.map_cons, renderAll, render_node hs params loops c d, List.mapM_cons]
    cases outcome s params loops c with
    | error e => rfl
    | ok o =>
      have hi : (d.writeOutcomes s [o]).inOptional = true := hd
      simp only [Except.map, bind, Except.bind, ih _ hi]
      cases cs.mapM (outcome s params loops) with
      | error e => rfl
      | ok os =>
        simp [pure, Except.pure, Draft.writeOutcomes_cons s o os d hd]

end Clause

/-- An optional part of clauses stands if a branch is taken. Its texts then stay as they are, its
branches are as they are alone, and only the first of them goes without a connector. -/
theorem Node.render_optional_clauses {s : Settings} (hs : s.check = .ok ()) (params : Params)
    (loops : Loops) (cs : List Clause) (d : Draft) (hd : d.inOptional = false) :
    (Node.optional (cs.map Clause.node)).render s params loops d =
      (cs.mapM (Clause.outcome s params loops)).map fun os =>
        if os.any Outcome.isTaken then
          ({ d with sql := d.sql ++ Outcome.sql s true os
                    binds := d.binds ++ Outcome.binds os
                    begun := true }, true)
        else (d, false) := by
  have hi := s.isIdentifier_of_check hs
  have hstrips : d.strips = false := by simp [Draft.strips, hd]
  rw [Node.render, Step.settled, Step.optional,
    Clause.renderAll_nodes hi params loops cs .forOptional rfl]
  cases cs.mapM (Clause.outcome s params loops) with
  | error e => rfl
  | ok os =>
    have hw : Draft.forOptional.writeOutcomes s os =
        ⟨Outcome.sql s true os, Outcome.binds os, true, os.any Outcome.isTaken⟩ := by
      have hf : Draft.forOptional.strips = true := rfl
      rw [Draft.writeOutcomes, hf]
      simp [Draft.forOptional, Draft.append, Draft.beginIf]
    simp only [Except.map, Bind.bind, Except.bind, pure, Except.pure, hw]
    cases ht : os.any Outcome.isTaken with
    | true => simp [Draft.commit, hstrips, Draft.append, Draft.beginIf]
    | false => simp [Draft.beginIf]

theorem Node.render_optional_clauses_where :
    ({} : Settings).check = .ok () ∧ ({} : Draft).inOptional = false ∧
      (Node.optional ([Clause.verbatim "WHERE ",
        .test ⟨"true", .boolean true⟩ [.text "AND A = 1"] none,
        .test ⟨"true", .boolean true⟩ [.text " AND B = 2"] none].map Clause.node)).render {}
          ⟨"pmb", .null, fun _ => none⟩ [] {} =
        .ok (⟨"WHERE A = 1 AND B = 2", [], false, true⟩, true) := by
  refine ⟨rfl, rfl, ?_⟩
  rw [Node.render_optional_clauses rfl _ _ _ _ rfl]
  rfl

end SqlTemplate
