import SqlTemplate.Render.Tree

/-!
What a step writes. It is the same behind every draft: of the draft only counts whether the next
fragment loses its connector.
-/
namespace SqlTemplate

namespace Draft

def fresh (strips : Bool) : Draft := if strips then .forOptional else {}

def followedBy (d e : Draft) : Draft :=
  { d with sql := d.sql ++ e.sql, binds := d.binds ++ e.binds, begun := d.begun || e.begun }

@[simp] theorem sql_fresh (strips : Bool) : (fresh strips).sql = "" := by cases strips <;> rfl

@[simp] theorem binds_fresh (strips : Bool) : (fresh strips).binds = [] := by cases strips <;> rfl

@[simp] theorem inOptional_fresh (strips : Bool) : (fresh strips).inOptional = strips := by
  cases strips <;> rfl

@[simp] theorem begun_fresh (strips : Bool) : (fresh strips).begun = false := by
  cases strips <;> rfl

@[simp] theorem strips_fresh (strips : Bool) : (fresh strips).strips = strips := by
  cases strips <;> rfl

@[simp] theorem followedBy_fresh (d : Draft) (strips : Bool) : d.followedBy (fresh strips) = d := by
  simp [followedBy]

theorem followedBy_assoc (d e f : Draft) :
    (d.followedBy e).followedBy f = d.followedBy (e.followedBy f) := by
  simp [followedBy, String.append_assoc, Bool.or_assoc]

theorem beginIf_followedBy (d e : Draft) (begins : Bool) :
    (d.followedBy e).beginIf begins = d.followedBy (e.beginIf begins) := by
  simp [followedBy, beginIf, Bool.or_assoc]

theorem strips_followedBy {d e : Draft} (he : e.inOptional = d.strips) :
    (d.followedBy e).strips = e.strips := by
  simp only [strips, he]
  simp [followedBy, Bool.not_or, Bool.and_assoc]

theorem commit_eq_followedBy (s : Settings) (fragment d : Draft) :
    fragment.commit s d = d.followedBy (fragment.commit s (fresh d.strips)) := by
  simp [commit, append, followedBy]

end Draft

namespace Step

def Framed (step : Step) : Prop :=
  ∀ d, step d = (step (.fresh d.strips)).map fun r => (d.followedBy r.1, r.2)

theorem Framed.inOptional {step : Step} (h : Framed step) {strips : Bool} {e : Draft} {keeps : Bool}
    (he : step (.fresh strips) = .ok (e, keeps)) : e.inOptional = strips := by
  have hfresh := h (.fresh strips)
  rw [Draft.strips_fresh, he, Except.map, Except.ok.injEq, Prod.mk.injEq] at hfresh
  rw [hfresh.1]
  exact Draft.inOptional_fresh strips

theorem framed_nothing : Framed nothing := by
  intro d
  simp [nothing, Except.map]

theorem framed_appendSql (sql : String) : Framed (appendSql sql) := by
  intro d
  simp [appendSql, Draft.appendSql, Except.map, Draft.followedBy]

theorem framed_fill (f : Filling) : Framed (fill f) := by
  intro d
  simp [fill, Draft.fill, Draft.append, Draft.beginIf, Except.map, Draft.followedBy]

theorem framed_bind {α : Type} (x : Except RenderError α) {f : α → Step} (h : ∀ a, Framed (f a)) :
    Framed (fun d => x >>= fun a => f a d) := by
  intro d
  cases x with
  | error e => rfl
  | ok a => exact h a d

theorem framed_andThen {step next : Step} (hstep : Framed step) (hnext : Framed next) :
    Framed (fun d => do
      let (d, a) ← step d
      let (d, b) ← next d
      return (d, a || b)) := by
  intro d
  dsimp only
  rw [hstep d]
  cases hfirst : step (.fresh d.strips) with
  | error e => rfl
  | ok r =>
    obtain ⟨e, a⟩ := r
    -- The second step goes on from the same flag, behind the draft and apart from it.
    have hflag := Draft.strips_followedBy (hstep.inOptional hfirst)
    have hbehind := hnext (d.followedBy e)
    rw [hflag] at hbehind
    simp only [Except.map, bind, Except.bind, hbehind, hnext e]
    cases next (.fresh e.strips) with
    | error e => rfl
    | ok r => simp [pure, Except.pure, Draft.followedBy_assoc]

theorem framed_sequence {α : Type} {f : α → Step} (h : ∀ x, Framed (f x)) (xs : List α) :
    Framed (sequence (xs.map f)) := by
  induction xs with
  | nil => exact framed_nothing
  | cons x xs ih => exact framed_andThen (h x) ih

theorem framed_settled {step : Step} (h : Framed step) : Framed step.settled := by
  intro d
  rw [settled, settled, h d]
  cases step (.fresh d.strips) with
  | error e => rfl
  | ok r =>
    simp [Except.map, bind, Except.bind, pure, Except.pure, Draft.beginIf_followedBy]

theorem framed_branch (s : Settings) {content : Step} (h : Framed content) :
    Framed (branch s content) := by
  intro d
  rw [branch, branch, Draft.strips_fresh]
  cases hd : d.strips with
  | true =>
    cases content {} with
    | error e => rfl
    | ok r =>
      have hcommit := Draft.commit_eq_followedBy s r.1 d
      rw [hd] at hcommit
      simp [bind, Except.bind, pure, Except.pure, Except.map, hcommit]
  | false =>
    have hcontent := h d
    rw [hd] at hcontent
    rw [if_neg (by simp), if_neg (by simp), hcontent]
    cases content (.fresh false) with
    | error e => rfl
    | ok r => rfl

theorem framed_optional (s : Settings) (content : Step) : Framed (optional s content) := by
  intro d
  rw [optional, optional]
  cases content .forOptional with
  | error e => rfl
  | ok r =>
    obtain ⟨part, keeps⟩ := r
    have hcommit := Draft.commit_eq_followedBy s part d
    cases keeps <;> simp [bind, Except.bind, pure, Except.pure, Except.map, ← hcommit]

theorem framed_inTurn (p : Iteration → Bool) (loops : Loops) {step : Step} (h : Framed step) :
    Framed (inTurn p loops step) := by
  rw [inTurn]
  split
  · exact h
  · exact framed_nothing

end Step

mutual

theorem Node.render_framed (s : Settings) (params : Params) (loops : Loops) (n : Node) :
    (n.render s params loops).Framed := by
  cases n with
  | text sql =>
    rw [Node.render]
    exact Step.framed_appendSql sql
  | bind v =>
    rw [Node.render]
    apply Step.framed_settled
    apply Step.framed_bind
    intro r
    exact Step.framed_bind _ Step.framed_fill
  | embed v =>
    rw [Node.render]
    apply Step.framed_settled
    apply Step.framed_bind
    intro r
    exact Step.framed_bind _ Step.framed_fill
  | ifElse t children otherwise =>
    have hc := Step.framed_branch s (renderAll_framed s params loops children)
    cases otherwise with
    | none =>
      rw [Node.render]
      apply Step.framed_settled
      apply Step.framed_bind
      intro taken
      cases taken with
      | true => exact hc
      | false => exact Step.framed_nothing
    | some otherwise =>
      have ho := Step.framed_branch s (renderAll_framed s params loops otherwise)
      rw [Node.render]
      apply Step.framed_settled
      apply Step.framed_bind
      intro taken
      cases taken with
      | true => exact hc
      | false => exact ho
  | optional children =>
    rw [Node.render]
    exact Step.framed_settled (Step.framed_optional s _)
  | loop name collection children =>
    rw [Node.render]
    apply Step.framed_settled
    apply Step.framed_bind
    intro items
    apply Step.framed_sequence
    intro turn
    exact renderAll_framed s params (turn :: loops) children
  | first children =>
    rw [Node.render]
    apply Step.framed_settled
    exact Step.framed_inTurn _ loops (renderAll_framed s params loops children)
  | last children =>
    rw [Node.render]
    apply Step.framed_settled
    exact Step.framed_inTurn _ loops (renderAll_framed s params loops children)
  | next sql =>
    rw [Node.render]
    exact Step.framed_inTurn _ loops (Step.framed_appendSql sql)
  | root children =>
    rw [Node.render]
    exact Step.framed_settled (renderAll_framed s params loops children)

theorem renderAll_framed (s : Settings) (params : Params) (loops : Loops) (ns : List Node) :
    Step.Framed (renderAll s params loops ns) := by
  cases ns with
  | nil => exact Step.framed_nothing
  | cons n ns =>
    exact Step.framed_andThen (Node.render_framed s params loops n)
      (renderAll_framed s params loops ns)

end

end SqlTemplate
