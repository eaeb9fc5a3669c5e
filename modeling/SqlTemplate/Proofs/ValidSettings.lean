import SqlTemplate.Settings

namespace SqlTemplate.Settings

theorem check_eq_ok_iff (s : Settings) :
    s.check = .ok () ↔ isIdentifier s.rootName.toList = true ∧
      (∀ w ∈ s.connectors, isIdentifier w.toList = true) ∧ isEscape s.likeEscape = true := by
  rw [check, problem?]
  cases hn : isIdentifier s.rootName.toList with
  | false => simp
  | true =>
    cases hf : s.connectors.find? fun word => !isIdentifier word.toList with
    | some word =>
      have hword := List.find?_some hf
      have hmem := List.mem_of_find?_eq_some hf
      simp only [Bool.not_true, Bool.false_eq_true, if_false, reduceCtorEq, true_and, false_iff]
      rintro ⟨hall, -⟩
      rw [hall word hmem] at hword
      cases hword
    | none =>
      have hall : ∀ w ∈ s.connectors, isIdentifier w.toList = true := by
        simpa using List.find?_eq_none.mp hf
      cases he : isEscape s.likeEscape with
      | false => simp
      | true => simpa using hall

theorem isIdentifier_of_check {s : Settings} (h : s.check = .ok ()) :
    ∀ w ∈ s.connectors, isIdentifier w.toList = true := (s.check_eq_ok_iff.mp h).2.1

theorem isEscape_of_check {s : Settings} (h : s.check = .ok ()) :
    isEscape s.likeEscape = true := (s.check_eq_ok_iff.mp h).2.2

end SqlTemplate.Settings
