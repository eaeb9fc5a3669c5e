import SqlTemplate.Proofs.NumericComparison

namespace SqlTemplate

namespace Number

theorem unpacked_compare_swap (x y : Float.Model.UnpackedFloat) :
    (x.compare y).map Ordering.swap = y.compare x := by
  cases x with
  | notANumber => cases y <;> rfl
  | infinity s =>
    cases y with
    | infinity t => cases s <;> cases t <;> rfl
    | _ => cases s <;> rfl
  | zero s =>
    cases y with
    | infinity t | finite t => cases t <;> rfl
    | _ => rfl
  | finite s m e =>
    cases y with
    | infinity t => cases s <;> cases t <;> rfl
    | finite t n f =>
      have hswap : ((compare e f).then (compare m n)).swap = (compare f e).then (compare n m) := by
        rw [Ordering.swap_then, Int.compare_swap, Nat.compare_swap]
      -- Only numbers of the same sign are compared by their sizes.
      cases s with
      | negative =>
        cases t with
        | negative => exact congrArg (fun order => some order.swap) hswap
        | positive => rfl
      | positive =>
        cases t with
        | negative => rfl
        | positive => exact congrArg some hswap
    | _ => cases s <;> rfl

theorem float_beq_comm (x y : Float) : (x == y) = (y == x) := by
  have hbeq : ∀ x y : Float,
      (x == y) = (x.toModel.unpack.compare y.toModel.unpack == some .eq) := fun _ _ => rfl
  rw [hbeq x y, hbeq y x, ← unpacked_compare_swap x.toModel.unpack]
  rcases x.toModel.unpack.compare y.toModel.unpack with _ | _ | _ | _ <;> rfl

end Number

theorem Decimal.compare_swap (a b : Decimal) : (a.compare b).swap = b.compare a :=
  Int.compare_swap _ _

mutual

theorem Value.same_comm (a b : Value) : a.same b = b.same a := by
  cases a with
  | null => cases b <;> rfl
  | boolean x => cases b <;> first | exact Bool.beq_comm | rfl
  | integer x => cases b <;> first | exact BEq.comm | rfl
  | float x => cases b <;> first | exact Number.float_beq_comm _ _ | rfl
  | decimal x =>
    cases b with
    | decimal y =>
      simp only [Value.same, ← Decimal.compare_swap x y]
      cases x.compare y <;> rfl
    | _ => rfl
  | string s => cases b <;> first | exact BEq.comm | rfl
  | list items => cases b <;> first | exact Value.sameItems_comm _ _ | rfl
  | map entries => cases b <;> first | exact Value.sameEntries_comm _ _ | rfl
  | bean s properties =>
    cases b with
    | bean t others =>
      simp only [Value.same, Value.sameEntries_comm properties others]
      rw [BEq.comm]
    | _ => rfl

theorem Value.sameItems_comm (as bs : List Value) : sameItems as bs = sameItems bs as := by
  cases as with
  | nil => cases bs <;> rfl
  | cons a as =>
    cases bs with
    | nil => rfl
    | cons b bs => simp only [sameItems, a.same_comm b, sameItems_comm as bs]

theorem Value.sameEntries_comm (as bs : List (String × Value)) :
    sameEntries as bs = sameEntries bs as := by
  cases as with
  | nil => cases bs <;> rfl
  | cons a as =>
    obtain ⟨j, a⟩ := a
    cases bs with
    | nil => rfl
    | cons b bs =>
      obtain ⟨k, b⟩ := b
      simp only [sameEntries, a.same_comm b, sameEntries_comm as bs]
      rw [BEq.comm]

end

namespace Condition

theorem valuesEqual_comm {a b : Value} {r : Bool} (h : valuesEqual a b = .ok r) :
    valuesEqual b a = .ok r := by
  by_cases hnull : (a.isNull || b.isNull) = true
  · rw [valuesEqual, if_pos hnull] at h
    rw [valuesEqual, Bool.or_comm, if_pos hnull, Bool.and_comm]
    exact h
  by_cases hnumeric : (a.isNumeric && b.isNumeric) = true
  · obtain ⟨ha, hb⟩ := Bool.and_eq_true_iff.mp hnumeric
    rw [valuesEqual_of_numeric ha hb] at h
    rw [valuesEqual_of_numeric hb ha, ← h]
    cases a.decimal? with
    | none => cases b.decimal? <;> rfl
    | some x =>
      cases b.decimal? with
      | none => rfl
      | some y =>
        simp only [← x.compare_swap y]
        cases x.compare y <;> rfl
  · rw [valuesEqual, if_neg hnull, if_neg hnumeric] at h
    rw [Bool.or_comm] at hnull
    rw [Bool.and_comm] at hnumeric
    rw [valuesEqual, if_neg hnull, if_neg hnumeric]
    split at h
    · next htype => rw [if_pos htype.symm, b.same_comm a, h]
    · cases h

theorem exists_of_valuesOrder? {a b : Value} {order : Ordering}
    (h : valuesOrder? a b = some order) :
    (∃ s t, a = .string s ∧ b = .string t ∧ compare s t = order) ∨
      ∃ x y, a.decimal? = some x ∧ b.decimal? = some y ∧ x.compare y = order := by
  rw [valuesOrder?.eq_def] at h
  split at h
  · next s t => exact .inl ⟨s, t, rfl, rfl, Option.some.inj h⟩
  · obtain ⟨x, hx, h⟩ := Option.bind_eq_some_iff.mp h
    obtain ⟨y, hy, h⟩ := Option.bind_eq_some_iff.mp h
    exact .inr ⟨x, y, hx, hy, Option.some.inj h⟩

theorem valuesOrder?_of_decimals {a b : Value} {x y : Decimal} (ha : a.decimal? = some x)
    (hb : b.decimal? = some y) : valuesOrder? a b = some (x.compare y) := by
  rw [valuesOrder?_of_numeric (a.isNumeric_of_decimal? ha), ha, hb]
  rfl

theorem valuesOrder?_swap {a b : Value} {order : Ordering} (h : valuesOrder? a b = some order) :
    valuesOrder? b a = some order.swap := by
  rcases exists_of_valuesOrder? h with ⟨s, t, rfl, rfl, rfl⟩ | ⟨x, y, ha, hb, rfl⟩
  · exact congrArg some Std.OrientedOrd.eq_swap
  · rw [valuesOrder?_of_decimals hb ha, Decimal.compare_swap]

theorem valuesOrder?_trans {a b c : Value} (h : valuesOrder? a b = some .lt)
    (h' : valuesOrder? b c = some .lt) : valuesOrder? a c = some .lt := by
  rcases exists_of_valuesOrder? h with ⟨s, t, rfl, rfl, hst⟩ | ⟨x, y, ha, hb, hxy⟩
  · rcases exists_of_valuesOrder? h' with ⟨_, u, ⟨⟩, rfl, htu⟩ | ⟨_, _, hb, -, -⟩
    · exact congrArg some (Std.TransCmp.lt_trans hst htu)
    · cases hb
  · rcases exists_of_valuesOrder? h' with ⟨_, _, rfl, -, -⟩ | ⟨_, z, hb', hc, hyz⟩
    · cases hb
    · rw [hb] at hb'
      cases hb'
      rw [valuesOrder?_of_decimals ha hc, Option.some.injEq, Decimal.compare_eq_lt]
      exact (Decimal.compare_eq_lt.mp hxy).trans (Decimal.compare_eq_lt.mp hyz)

namespace Comparison

def accepts : Comparison → Ordering → Bool
  | equal, order => order == .eq
  | notEqual, order => order != .eq
  | less, order => order == .lt
  | greater, order => order == .gt
  | lessEqual, order => order != .gt
  | greaterEqual, order => order != .lt

theorem valuesEqual_of_order {a b : Value} {order : Ordering} (h : valuesOrder? a b = some order) :
    valuesEqual a b = .ok (order == .eq) := by
  rcases exists_of_valuesOrder? h with ⟨s, t, rfl, rfl, rfl⟩ | ⟨x, y, ha, hb, rfl⟩
  · have heq : (compare s t == .eq) = (s == t) := by
      rw [Bool.eq_iff_iff, beq_iff_eq, beq_iff_eq]
      exact Std.compare_eq_iff_eq
    rw [heq]
    rfl
  · rw [valuesEqual_of_numeric (a.isNumeric_of_decimal? ha) (b.isNumeric_of_decimal? hb), ha, hb]

theorem holds_of_order {a b : Value} {order : Ordering} (h : valuesOrder? a b = some order)
    (op : Comparison) : op.holds a b = .ok (op.accepts order) := by
  have hequal := valuesEqual_of_order h
  cases op with
  | equal => exact hequal
  | notEqual =>
    rw [holds, hequal]
    rfl
  | _ =>
    simp only [holds, h]
    rfl

theorem exists_order_of_less {a b : Value} {r : Bool} (h : less.holds a b = .ok r) :
    ∃ order, valuesOrder? a b = some order := by
  cases horder : valuesOrder? a b with
  | some order => exact ⟨order, rfl⟩
  | none =>
    simp only [holds, horder] at h
    cases h

def IsTrue (op : Comparison) (a b : Value) : Prop := op.holds a b = .ok true

def IsDefined (op : Comparison) (a b : Value) : Prop := ∃ r, op.holds a b = .ok r

theorem isTrue_of_order {a b : Value} {order : Ordering} (h : valuesOrder? a b = some order)
    (op : Comparison) : op.IsTrue a b ↔ op.accepts order = true := by
  rw [IsTrue, holds_of_order h, Except.ok.injEq]

theorem less_isTrue_iff {a b : Value} : less.IsTrue a b ↔ valuesOrder? a b = some .lt := by
  constructor
  · intro h
    obtain ⟨order, horder⟩ := exists_order_of_less h
    have haccepts := (isTrue_of_order horder less).mp h
    rw [horder, eq_of_beq haccepts]
  · intro h
    exact (isTrue_of_order h less).mpr rfl

theorem equal_isTrue_comm {a b : Value} : equal.IsTrue a b ↔ equal.IsTrue b a :=
  ⟨valuesEqual_comm, valuesEqual_comm⟩

theorem not_isTrue_notEqual {a b : Value} (h : equal.IsTrue a b) : ¬notEqual.IsTrue a b := by
  have hequal : valuesEqual a b = .ok true := h
  rw [IsTrue, holds, hequal]
  rintro ⟨⟩

theorem not_less_self (a : Value) : ¬less.IsTrue a a := by
  intro h
  have hlt := less_isTrue_iff.mp h
  have hgt := valuesOrder?_swap hlt
  rw [hlt] at hgt
  cases hgt

theorem less_trans {a b c : Value} (h : less.IsTrue a b) (h' : less.IsTrue b c) :
    less.IsTrue a c :=
  less_isTrue_iff.mpr (valuesOrder?_trans (less_isTrue_iff.mp h) (less_isTrue_iff.mp h'))

/-- All comparisons are coherent. Equality is symmetric and excludes inequality, whatever the
values are. The order is strict and transitive, and where it is defined it is total, its weak forms
go with it, and no comparison fails in either direction. -/
theorem isTrue_coherent (a b c : Value) :
    (equal.IsTrue a b ↔ equal.IsTrue b a) ∧ ¬(equal.IsTrue a b ∧ notEqual.IsTrue a b) ∧
    ¬less.IsTrue a a ∧ (less.IsTrue a b → less.IsTrue b c → less.IsTrue a c) ∧
    (less.IsDefined a b →
      (less.IsTrue a b ∧ ¬equal.IsTrue a b ∧ ¬less.IsTrue b a ∨
        ¬less.IsTrue a b ∧ equal.IsTrue a b ∧ ¬less.IsTrue b a ∨
        ¬less.IsTrue a b ∧ ¬equal.IsTrue a b ∧ less.IsTrue b a) ∧
      (lessEqual.IsTrue a b ↔ less.IsTrue a b ∨ equal.IsTrue a b) ∧
      (greaterEqual.IsTrue a b ↔ lessEqual.IsTrue b a) ∧
      ∀ op : Comparison, op.IsDefined a b ∧ op.IsDefined b a) := by
  refine ⟨equal_isTrue_comm, fun h => not_isTrue_notEqual h.1 h.2, not_less_self a, less_trans, ?_⟩
  rintro ⟨r, hr⟩
  obtain ⟨order, horder⟩ := exists_order_of_less hr
  have hswap := valuesOrder?_swap horder
  simp only [isTrue_of_order horder, isTrue_of_order hswap]
  refine ⟨?_, ?_, ?_, ?_⟩
  · cases order <;> decide
  · cases order <;> decide
  · cases order <;> decide
  · intro op
    exact ⟨⟨_, holds_of_order horder op⟩, ⟨_, holds_of_order hswap op⟩⟩

theorem isTrue_coherent_mixed :
    less.IsTrue (.integer 1) (.decimal ⟨false, 15, 1⟩) ∧
      less.IsTrue (.decimal ⟨false, 15, 1⟩) (.float 2.5) ∧
      less.IsTrue (.integer 1) (.float 2.5) ∧
      greaterEqual.IsDefined (.decimal ⟨false, 15, 1⟩) (.integer 1) := by
  have hfirst : less.holds (.integer 1) (.decimal ⟨false, 15, 1⟩) = .ok true := by decide
  have hsecond : less.holds (.decimal ⟨false, 15, 1⟩) (.float 2.5) = .ok true := by decide +kernel
  obtain ⟨-, -, -, htrans, hdefined⟩ :=
    isTrue_coherent (.integer 1) (.decimal ⟨false, 15, 1⟩) (.float 2.5)
  have hall := (hdefined ⟨true, hfirst⟩).2.2.2
  exact ⟨hfirst, hsecond, htrans hfirst hsecond, (hall greaterEqual).2⟩

end Comparison
end Condition
end SqlTemplate
