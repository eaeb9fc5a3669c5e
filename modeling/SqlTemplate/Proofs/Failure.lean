import SqlTemplate.Render.Tree

namespace SqlTemplate

def FailsOnly {ε α : Type} (p : ε → Prop) (x : Except ε α) : Prop := ∀ e, x = .error e → p e

namespace FailsOnly

variable {ε δ α β : Type} {p : ε → Prop}

theorem ok (a : α) : FailsOnly p (.ok a) := by
  intro e h
  cases h

theorem error {e : ε} (he : p e) : FailsOnly p (.error e : Except ε α) := by
  intro e' h
  cases h
  exact he

theorem bind {x : Except ε α} {f : α → Except ε β} (hx : FailsOnly p x)
    (hf : ∀ a, x = .ok a → FailsOnly p (f a)) : FailsOnly p (x >>= f) := by
  cases x with
  | error e => exact error (hx e rfl)
  | ok a => exact hf a rfl

theorem mapError {q : δ → Prop} {x : Except ε α} {f : ε → δ} (hx : FailsOnly p x)
    (hf : ∀ e, p e → q (f e)) : FailsOnly q (x.mapError f) := by
  cases x with
  | error e => exact error (hf e (hx e rfl))
  | ok a => exact ok a

theorem foldlM {f : β → α → Except ε β} (hf : ∀ b a, FailsOnly p (f b a)) (as : List α) (b : β) :
    FailsOnly p (as.foldlM f b) := by
  induction as generalizing b with
  | nil => exact ok b
  | cons a as ih =>
    rw [List.foldlM_cons]
    exact bind (hf b a) fun c _ => ih c

theorem mapM {f : α → Except ε β} (hf : ∀ a, FailsOnly p (f a)) (as : List α) :
    FailsOnly p (as.mapM f) := by
  induction as with
  | nil => exact ok []
  | cons a as ih =>
    rw [List.mapM_cons]
    exact bind (hf a) fun b _ => bind ih fun bs _ => ok (b :: bs)

end FailsOnly

namespace Step

variable {p : RenderError → Prop} {step next : Step}

def FailsOnly (p : RenderError → Prop) (step : Step) : Prop :=
  ∀ d, SqlTemplate.FailsOnly p (step d)

theorem failsOnly_nothing : nothing.FailsOnly p := fun d => .ok (d, false)

theorem failsOnly_appendSql (sql : String) : (appendSql sql).FailsOnly p := fun _ => .ok _

theorem failsOnly_andThen (hs : step.FailsOnly p) (hn : next.FailsOnly p) :
    FailsOnly p fun d => do
      let (d, a) ← step d
      let (d, b) ← next d
      return (d, a || b) :=
  fun d => .bind (hs d) fun r _ => .bind (hn r.1) fun _ _ => .ok _

theorem failsOnly_sequence {steps : List Step} (h : ∀ step ∈ steps, step.FailsOnly p) :
    (sequence steps).FailsOnly p := by
  induction steps with
  | nil => exact failsOnly_nothing
  | cons step steps ih =>
    have hs := h step List.mem_cons_self
    have hn := ih fun next hnext => h next (List.mem_cons_of_mem _ hnext)
    exact failsOnly_andThen hs hn

theorem failsOnly_settled (h : step.FailsOnly p) : step.settled.FailsOnly p :=
  fun d => .bind (h d) fun _ _ => .ok _

theorem failsOnly_branch (s : Settings) (h : step.FailsOnly p) : (branch s step).FailsOnly p := by
  intro d
  rw [branch]
  split
  · exact .bind (h {}) fun _ _ => .ok _
  · exact .bind (h d) fun _ _ => .ok _

theorem failsOnly_optional (s : Settings) (h : step.FailsOnly p) :
    (optional s step).FailsOnly p :=
  fun _ => .bind (h .forOptional) fun _ _ => .ok _

theorem failsOnly_inTurn (q : Iteration → Bool) (loops : Loops) (h : step.FailsOnly p) :
    (inTurn q loops step).FailsOnly p := by
  rw [inTurn]
  split
  · exact h
  · exact failsOnly_nothing

end Step
end SqlTemplate
