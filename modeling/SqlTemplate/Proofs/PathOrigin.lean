import SqlTemplate.Scope

namespace SqlTemplate

namespace Loops

def current? (loops : Loops) : Option Iteration := (loops.find? currentAlias).or loops.head?

theorem current?_cons_of_name {i : Iteration} (h : i.name = currentAlias) (outer : Loops) :
    current? (i :: outer) = some i := by
  simp [current?, find?, h]

theorem current?_cons_of_forall {i : Iteration} {outer : Loops}
    (h : ∀ j ∈ outer, j.name ≠ currentAlias) : current? (i :: outer) = some i := by
  by_cases hi : i.name = currentAlias
  · exact current?_cons_of_name hi outer
  · have hnone : find? currentAlias (i :: outer) = none := by
      simpa [find?, hi] using h
    rw [current?, hnone]
    rfl

theorem current?_cons_of_exists {i : Iteration} (hi : i.name ≠ currentAlias) {outer : Loops}
    (h : ∃ j ∈ outer, j.name = currentAlias) :
    ∃ j ∈ outer, j.name = currentAlias ∧ current? (i :: outer) = some j := by
  have hfind : find? currentAlias (i :: outer) = find? currentAlias outer := by
    simp [find?, hi]
  cases hf : find? currentAlias outer with
  | none =>
    obtain ⟨j, hj, hname⟩ := h
    exact absurd hname (by simpa using List.find?_eq_none.mp hf j hj)
  | some j =>
    refine ⟨j, List.mem_of_find?_eq_some hf, by simpa using List.find?_some hf, ?_⟩
    rw [current?, hfind, hf]
    rfl

end Loops

namespace Scope

def walk (p : Path) (v : Value) (nullType : ValueType) : Except ResolveError Resolved :=
  (p.tail.foldlM (Value.step p) v).map fun w => ⟨w, w.type?.getD nullType⟩

theorem resolve_of_origin {scope : Scope} {p : Path} {origin : Origin}
    (h : scope.origin? p.head = some origin) :
    scope.resolve p = walk p (scope.start origin) (scope.nullType origin p) := by
  rw [resolve, h, walk]
  dsimp only
  cases p.tail.foldlM (Value.step p) (scope.start origin) <;> rfl

theorem origin?_current {params : Params} (hroot : isIdentifier params.rootName.toList = true)
    (loops : Loops) :
    origin? ⟨params, loops⟩ currentAlias = loops.current?.map .loop := by
  have hne : currentAlias ≠ params.rootName := by
    intro he
    rw [← he] at hroot
    revert hroot
    decide
  rw [origin?, Loops.current?, if_neg hne, if_pos rfl]
  cases Loops.find? currentAlias loops <;> rfl

/-- A path with the head `#current` starts at the element of a running loop. That is the innermost
one if it has no alias itself or no loop around it is without one, and else a loop around it. -/
theorem resolve_current {params : Params} (hroot : isIdentifier params.rootName.toList = true)
    (i : Iteration) (outer : Loops) {p : Path} (hp : p.head = currentAlias) :
    ∃ j, resolve ⟨params, i :: outer⟩ p =
        walk p j.element (if p.tail.isEmpty then j.type else .object) ∧
      (j = i ↔ i.name = currentAlias ∨ ∀ k ∈ outer, k.name ≠ currentAlias) ∧
      (j ≠ i → j ∈ outer ∧ j.name = currentAlias) := by
  have hstart : ∀ {j}, Loops.current? (i :: outer) = some j →
      resolve ⟨params, i :: outer⟩ p =
        walk p j.element (if p.tail.isEmpty then j.type else .object) := by
    intro j hj
    have horigin : origin? ⟨params, i :: outer⟩ p.head = some (.loop j) := by
      rw [hp, origin?_current hroot, hj]
      rfl
    exact resolve_of_origin horigin
  by_cases h : i.name = currentAlias ∨ ∀ k ∈ outer, k.name ≠ currentAlias
  · have hi : Loops.current? (i :: outer) = some i := by
      rcases h with h | h
      · exact Loops.current?_cons_of_name h outer
      · exact Loops.current?_cons_of_forall h
    exact ⟨i, hstart hi, ⟨fun _ => h, fun _ => rfl⟩, fun hne => absurd rfl hne⟩
  · obtain ⟨hname, hall⟩ := not_or.mp h
    have houter : ∃ k ∈ outer, k.name = currentAlias := by simpa using hall
    obtain ⟨j, hmem, hj, hcurrent⟩ := Loops.current?_cons_of_exists hname houter
    have hne : j ≠ i := by
      rintro rfl
      exact hname hj
    exact ⟨j, hstart hcurrent, ⟨fun he => absurd he hne, fun hi => absurd hi h⟩,
      fun _ => ⟨hmem, hj⟩⟩

def rowTurn (name : String) : Iteration := ⟨name, .string "row", .string, 0, 1⟩

def cellTurn (name : String) : Iteration := ⟨name, .string "cell", .string, 0, 1⟩

def noParams : Params := ⟨"pmb", .null, fun _ => none⟩

theorem resolve_current_cell :
    isIdentifier noParams.rootName.toList = true ∧
      resolve ⟨noParams, [cellTurn "#current", rowTurn "row", rowTurn "#current"]⟩
        ⟨"#current", []⟩ = .ok ⟨.string "cell", .string⟩ := by
  have hroot : isIdentifier noParams.rootName.toList = true := by decide
  obtain ⟨j, hresolve, hinner, -⟩ := resolve_current hroot (cellTurn "#current")
    [rowTurn "row", rowTurn "#current"] (p := ⟨"#current", []⟩) rfl
  have hj : j = cellTurn "#current" := hinner.mpr (.inl rfl)
  subst hj
  exact ⟨hroot, hresolve⟩

theorem resolve_current_row :
    resolve ⟨noParams, [cellTurn "cell", rowTurn "#current"]⟩ ⟨"#current", []⟩ =
      .ok ⟨.string "row", .string⟩ := rfl

end Scope
end SqlTemplate
