import SqlTemplate.Proofs.PlaceholderScan
import SqlTemplate.Sql.Statement

namespace SqlTemplate

theorem exists_segments {α : Type} (separator : α) (xs : List α) :
    ∃ first others, xs = first ++ others.flatMap (separator :: ·) ∧
      ∀ piece ∈ first :: others, separator ∉ piece := by
  induction xs with
  | nil => exact ⟨[], [], rfl, by simp⟩
  | cons x xs ih =>
    obtain ⟨first, others, rfl, hpieces⟩ := ih
    by_cases hx : x = separator
    · exact ⟨[], first :: others, by simp [hx], List.forall_mem_cons.mpr ⟨by simp, hpieces⟩⟩
    · rw [List.forall_mem_cons] at hpieces
      exact ⟨x :: first, others, rfl,
        List.forall_mem_cons.mpr ⟨by simp [hpieces.1, Ne.symm hx], hpieces.2⟩⟩

namespace Sql.Zone

theorem fill_take (z : Zone) (fillings : List (List Char)) (cs : List Char) :
    z.fill (fillings.take (z.placeholders cs)) cs = z.fill fillings cs := by
  induction cs generalizing z fillings with
  | nil => rfl
  | cons c cs ih =>
    rw [placeholders, fill, fill]
    split
    · cases fillings with
      | nil => simp
      | cons filling fillings =>
        rw [Nat.add_comm, List.take_succ_cons]
        simp only [List.head?_cons, List.tail_cons, ih]
    · rw [Nat.zero_add, ih]

end Sql.Zone

namespace Statement

def literals (s : Statement) : List (List Char) :=
  s.binds.map fun b => (Sql.literal b.value).toList

def inlined (s : Statement) (k : Nat) : List Char :=
  (s.binds[k]?.map fun b => (Sql.literal b.value).toList).getD ['?']

theorem toList_display (s : Statement) :
    s.display.toList = Sql.Zone.code.fill s.literals s.sql.toList := by
  rw [display, String.toList_ofList]
  rfl

/-- Cut at its placeholders the SQL has one piece more than there are of them, and is displayed as
the same pieces with the literals of the values between them. Values beyond the last placeholder
leave no trace. -/
theorem display_pieces (s : Statement) :
    (∃ first others,
      Sql.skipped s.sql.toList = first ++ others.flatMap (['?'] :: ·) ∧
      (∀ piece ∈ first :: others, ['?'] ∉ piece) ∧
      others.length = s.placeholderCount ∧
      s.sql.toList = first.flatten ++ others.flatMap (fun piece => '?' :: piece.flatten) ∧
      s.display.toList = first.flatten ++
        (others.mapIdx fun k piece => s.inlined k ++ piece.flatten).flatten) ∧
      s.display = { s with binds := s.binds.take s.placeholderCount }.display := by
  constructor
  · obtain ⟨first, others, hsteps, hpieces⟩ := exists_segments ['?'] (Sql.skipped s.sql.toList)
    obtain ⟨hfill, hcount⟩ := Sql.fill_pieces hsteps hpieces s.literals
    refine ⟨first, others, hsteps, hpieces, hcount.symm, ?_, ?_⟩
    · rw [← Sql.flatten_skipped s.sql.toList, hsteps]
      simp [List.flatMap, List.flatten_flatten, Function.comp_def]
    · rw [toList_display, hfill]
      simp only [inlined, literals, List.getElem?_map]
  · have htake := Sql.Zone.fill_take .code s.literals s.sql.toList
    rw [display, display, List.map_take]
    exact congrArg String.ofList htake.symm

end Statement
end SqlTemplate
