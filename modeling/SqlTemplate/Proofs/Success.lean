namespace SqlTemplate

variable {ε α β : Type}

theorem bind_eq_ok {x : Except ε α} {f : α → Except ε β} {b : β} :
    (x >>= f) = .ok b ↔ ∃ a, x = .ok a ∧ f a = .ok b := by
  cases x <;> simp [bind, Except.bind]

theorem mapError_eq_ok {δ : Type} {x : Except ε α} {f : ε → δ} {a : α} :
    x.mapError f = .ok a ↔ x = .ok a := by
  cases x with
  | ok b => constructor <;> (intro h; cases h; rfl)
  | error e => constructor <;> (intro h; cases h)

theorem exists_of_mem_mapM {f : α → Except ε β} {xs : List α} {ys : List β}
    (h : xs.mapM f = .ok ys) : ∀ y ∈ ys, ∃ x ∈ xs, f x = .ok y := by
  induction xs generalizing ys with
  | nil =>
    cases h
    simp
  | cons x xs ih =>
    rw [List.mapM_cons] at h
    obtain ⟨y, hy, h⟩ := bind_eq_ok.mp h
    obtain ⟨zs, hzs, h⟩ := bind_eq_ok.mp h
    cases h
    intro z hz
    rcases List.mem_cons.mp hz with rfl | hz
    · exact ⟨x, List.mem_cons_self, hy⟩
    · obtain ⟨w, hw, hf⟩ := ih hzs z hz
      exact ⟨w, List.mem_cons_of_mem _ hw, hf⟩

theorem mapM_eq_ok_iff {f : α → Except ε β} {p : α → Prop} {g : α → β} {xs : List α}
    (h : ∀ x ∈ xs, ∀ y, f x = .ok y ↔ p x ∧ y = g x) {ys : List β} :
    xs.mapM f = .ok ys ↔ (∀ x ∈ xs, p x) ∧ ys = xs.map g := by
  induction xs generalizing ys with
  | nil => simp [pure, Except.pure, eq_comm]
  | cons x xs ih =>
    have hx := h x List.mem_cons_self
    have hxs := @ih fun z hz => h z (List.mem_cons_of_mem _ hz)
    rw [List.mapM_cons, List.forall_mem_cons, List.map_cons]
    constructor
    · intro hm
      obtain ⟨y, hy, hm⟩ := bind_eq_ok.mp hm
      obtain ⟨zs, hzs, hm⟩ := bind_eq_ok.mp hm
      cases hm
      obtain ⟨hp, rfl⟩ := (hx y).mp hy
      obtain ⟨hall, rfl⟩ := hxs.mp hzs
      exact ⟨⟨hp, hall⟩, rfl⟩
    · rintro ⟨⟨hp, hall⟩, rfl⟩
      rw [(hx (g x)).mpr ⟨hp, rfl⟩, hxs.mpr ⟨hall, rfl⟩]
      rfl

theorem mem_of_lookup [BEq α] [LawfulBEq α] {table : List (α × β)} {a : α} {b : β}
    (h : table.lookup a = some b) : (a, b) ∈ table := by
  obtain ⟨front, behind, rfl, -⟩ := List.lookup_eq_some_iff.mp h
  exact List.mem_append_right front List.mem_cons_self

end SqlTemplate
