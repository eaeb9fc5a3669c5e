import SqlTemplate.Condition.Eval
import SqlTemplate.Proofs.ShortDecimal

namespace SqlTemplate

namespace Number

def sign (negative : Bool) : ℚ := if negative then -1 else 1

theorem abs_sign_mul (negative : Bool) {q : ℚ} (hq : 0 ≤ q) : |sign negative * q| = q := by
  cases negative <;> simp [sign, abs_of_nonneg hq]

def Binary64.rational? : Binary64 → Option ℚ
  | finite negative mantissa exponent => some (sign negative * (mantissa * 2 ^ exponent))
  | _ => none

end Number

namespace Decimal

def rational (d : Decimal) : ℚ := Number.sign d.negative * (d.mantissa / 10 ^ d.scale)

def Fits (d : Decimal) : Prop := d.mantissa < mantissaLimit ∧ d.scale ≤ maxScale

theorem rational_eq (d : Decimal) : d.rational = d.signedMantissa / 10 ^ d.scale := by
  rw [rational, signedMantissa, Number.sign]
  split
  · push_cast
    ring
  · push_cast
    ring

theorem rational_ofInt (n : Int) : (ofInt n).rational = n := by
  rw [rational_eq, signedMantissa, ofInt]
  rcases lt_or_ge n 0 with h | h
  · simp [h, abs_of_neg h]
  · simp [Int.not_lt.mpr h, abs_of_nonneg h]

theorem tenTo_cast (n : Nat) : ((Number.tenTo n : Nat) : ℚ) = 10 ^ n := by
  simp [Number.tenTo]

theorem rational_lt_iff {a b : Decimal} : a.rational < b.rational ↔
    a.signedMantissa * Number.tenTo b.scale < b.signedMantissa * Number.tenTo a.scale := by
  rw [rational_eq, rational_eq, div_lt_div_iff₀ (by positivity) (by positivity), ← tenTo_cast,
    ← tenTo_cast]
  norm_cast

theorem compare_eq_lt {a b : Decimal} : a.compare b = .lt ↔ a.rational < b.rational :=
  Int.compare_eq_lt.trans rational_lt_iff.symm

theorem compare_eq_gt {a b : Decimal} : a.compare b = .gt ↔ b.rational < a.rational :=
  Int.compare_eq_gt.trans rational_lt_iff.symm

theorem compare_eq_eq {a b : Decimal} : a.compare b = .eq ↔ a.rational = b.rational := by
  rw [compare, Int.compare_eq_eq, le_antisymm_iff, ← not_lt, ← not_lt, ← rational_lt_iff,
    ← rational_lt_iff, not_lt, not_lt, ← le_antisymm_iff]

theorem lt_mantissaLimit_of_ofFloat {x : Float} {negative : Bool} {m : Nat} {e : Int}
    (h : Number.Binary64.ofFloat x = .finite negative m e) : m < mantissaLimit := by
  have hlimit : 2 * Number.Binary64.hiddenBit < mantissaLimit := by decide
  have hfraction : x.toBits.toNat % Number.Binary64.hiddenBit < Number.Binary64.hiddenBit :=
    Nat.mod_lt _ (by decide)
  rw [Number.Binary64.ofFloat] at h
  split at h
  · split at h <;> cases h
  split at h
  · cases h
    omega
  · cases h
    omega

theorem ofFloat?_of_short {x : Float} {q : ℚ} (hx : (Number.Binary64.ofFloat x).rational? = some q)
    (h : Short |q|) : ∃ d, ofFloat? x = some d ∧ d.rational = q := by
  rw [ofFloat?]
  cases hb : Number.Binary64.ofFloat x with
  | notANumber | infinite =>
    rw [hb] at hx
    cases hx
  | finite negative m e =>
    rw [hb] at hx
    cases hx
    rw [Number.abs_sign_mul negative (by positivity)] at h
    cases m with
    | zero => exact ⟨_, rfl, by simp [rational]⟩
    | succ m =>
      obtain ⟨r, hr, hvalue⟩ := ofBinary?_of_short m.succ_ne_zero (lt_mantissaLimit_of_ofFloat hb) h
      simp only [hr, Option.map_some]
      exact ⟨_, rfl, by rw [rational, hvalue]⟩

theorem bounds_of_ofFloat? {x : Float} {d : Decimal} (h : ofFloat? x = some d) :
    d.Fits ∧ Short |d.rational| := by
  have hbounds : d.mantissa < mantissaLimit ∧ d.scale ≤ maxScale ∧
      (d.scale = 0 ∨ d.mantissa < Number.Binary64.hiddenBit) := by
    rw [ofFloat?] at h
    split at h
    · cases h
      exact ⟨Nat.zero_lt_succ _, Nat.zero_le _, .inl rfl⟩
    · next hb =>
      obtain ⟨r, hr, rfl⟩ := Option.map_eq_some_iff.mp h
      exact ofBinary?_bounds hr (lt_mantissaLimit_of_ofFloat hb)
    · cases h
  obtain ⟨hm, hs, hshort⟩ := hbounds
  have hnonneg : (0 : ℚ) ≤ d.mantissa / 10 ^ d.scale :=
    div_nonneg (Nat.cast_nonneg _) (by positivity)
  refine ⟨⟨hm, hs⟩, d.mantissa, d.scale, ?_, ?_⟩
  · rw [rational, Number.abs_sign_mul _ hnonneg]
  · exact hshort.elim (fun hz => .inr ⟨hz, hm⟩) .inl

end Decimal

namespace Value

def rational? : Value → Option ℚ
  | integer n => some n.toInt
  | decimal d => some d.rational
  | float x => (Number.Binary64.ofFloat x).rational?
  | _ => none

def Exact : Value → Prop
  | integer _ | decimal _ => True
  | float x => ∃ q, (Number.Binary64.ofFloat x).rational? = some q ∧ Decimal.Short |q|
  | _ => False

def Fits : Value → Prop
  | decimal d => d.Fits
  | _ => True

theorem Exact.decimal? {v : Value} {q : ℚ} (h : v.Exact) (hq : v.rational? = some q) :
    ∃ d, v.decimal? = some d ∧ d.rational = q := by
  cases v with
  | integer n =>
    cases hq
    exact ⟨_, rfl, Decimal.rational_ofInt _⟩
  | decimal d =>
    cases hq
    exact ⟨d, rfl, rfl⟩
  | float x =>
    obtain ⟨r, hr, hshort⟩ := h
    have hrq : r = q := Option.some.inj (hr.symm.trans hq)
    rw [hrq] at hshort
    exact Decimal.ofFloat?_of_short hq hshort
  | _ => cases h

theorem exact_of_decimal? {v : Value} {d : Decimal} (h : v.decimal? = some d)
    (hq : v.rational? = some d.rational) : v.Exact := by
  cases v with
  | integer | decimal => trivial
  | float x => exact ⟨_, hq, (Decimal.bounds_of_ofFloat? h).2⟩
  | _ => cases h

theorem isNumeric_of_decimal? {v : Value} {d : Decimal} (h : v.decimal? = some d) :
    v.isNumeric = true := by
  cases v <;> first | rfl | cases h

end Value

namespace Condition

def Comparison.decides : Comparison → ℚ → ℚ → Bool
  | equal, q, r => q = r
  | notEqual, q, r => q ≠ r
  | less, q, r => q < r
  | greater, q, r => r < q
  | lessEqual, q, r => q ≤ r
  | greaterEqual, q, r => r ≤ q

theorem valuesEqual_of_numeric {x y : Value} (hx : x.isNumeric = true) (hy : y.isNumeric = true) :
    valuesEqual x y = .ok (match x.decimal?, y.decimal? with
      | some a, some b => a.compare b == .eq
      | _, _ => false) := by
  have hxn : x.isNull = false := by cases x <;> first | rfl | cases hx
  have hyn : y.isNull = false := by cases y <;> first | rfl | cases hy
  simp only [valuesEqual, hxn, hyn, hx, hy, Bool.or_self, Bool.and_self, Bool.false_eq_true,
    if_false, if_true]
  cases x.decimal? <;> cases y.decimal? <;> rfl

theorem valuesOrder?_of_numeric {x y : Value} (hx : x.isNumeric = true) :
    valuesOrder? x y = do return (← x.decimal?).compare (← y.decimal?) := by
  cases x <;> first | rfl | cases hx

theorem Comparison.holds_of_decimals {x y : Value} {a b : Decimal} (hx : x.decimal? = some a)
    (hy : y.decimal? = some b) (op : Comparison) :
    op.holds x y = .ok (op.decides a.rational b.rational) := by
  have hequal := valuesEqual_of_numeric (x.isNumeric_of_decimal? hx) (y.isNumeric_of_decimal? hy)
  have horder := @valuesOrder?_of_numeric x y (x.isNumeric_of_decimal? hx)
  rw [hx, hy] at hequal horder
  have heq : (a.compare b == .eq) = decide (a.rational = b.rational) := by
    rw [beq_eq_decide, decide_eq_decide]
    exact Decimal.compare_eq_eq
  have hlt : (a.compare b == .lt) = decide (a.rational < b.rational) := by
    rw [beq_eq_decide, decide_eq_decide]
    exact Decimal.compare_eq_lt
  have hgt : (a.compare b == .gt) = decide (b.rational < a.rational) := by
    rw [beq_eq_decide, decide_eq_decide]
    exact Decimal.compare_eq_gt
  have hle : (a.compare b != .gt) = decide (a.rational ≤ b.rational) := by
    rw [bne, hgt, ← decide_not, decide_eq_decide]
    exact not_lt
  have hge : (a.compare b != .lt) = decide (b.rational ≤ a.rational) := by
    rw [bne, hlt, ← decide_not, decide_eq_decide]
    exact not_lt
  cases op with
  | equal =>
    rw [holds, hequal]
    exact congrArg _ heq
  | notEqual =>
    rw [holds, hequal]
    simp only [Except.map, heq, decides, decide_not]
  | less =>
    simp only [holds, horder]
    exact congrArg _ hlt
  | greater =>
    simp only [holds, horder]
    exact congrArg _ hgt
  | lessEqual =>
    simp only [holds, horder]
    exact congrArg _ hle
  | greaterEqual =>
    simp only [holds, horder]
    exact congrArg _ hge

namespace Expr

theorem holds_compare {scope : Scope} {l r : Expr} {x y : Value} (hl : l.eval scope = .ok x)
    (hr : r.eval scope = .ok y) (op : Comparison) :
    (compare op l r).holds scope = op.holds x y := by
  rw [holds, eval, hl, hr]
  cases h : op.holds x y <;> simp [h, bind, Except.bind, pure, Except.pure, expectBool]

end Expr

/-- Wherever one of the operands has the value `x` and the other the value `y`, each comparison of
them says what it says of the numbers `q` and `r`. -/
def ComparedAs (x y : Value) (q r : ℚ) : Prop :=
  ∀ scope left right, Expr.eval scope left = .ok x → Expr.eval scope right = .ok y →
    ∀ op : Comparison, (Expr.compare op left right).holds scope = .ok (op.decides q r)

theorem comparedAs_iff {x y : Value} {q r : ℚ} :
    ComparedAs x y q r ↔ ∀ op : Comparison, op.holds x y = .ok (op.decides q r) := by
  constructor
  · intro h op
    let scope : Scope := ⟨{ rootName := "x", root := x }, [⟨"y", y, .object, 0, 1⟩]⟩
    have hx : Expr.eval scope (.path ⟨"x", []⟩) = .ok x := rfl
    have hy : Expr.eval scope (.path ⟨"y", []⟩) = .ok y := rfl
    rw [← Expr.holds_compare hx hy]
    exact h scope _ _ hx hy op
  · intro h scope left right hl hr op
    rw [Expr.holds_compare hl hr, h]

theorem ComparedAs.of_exact {x y : Value} {q r : ℚ} (hx : x.Exact) (hq : x.rational? = some q)
    (hy : y.Exact) (hr : y.rational? = some r) : ComparedAs x y q r := by
  obtain ⟨a, ha, rfl⟩ := hx.decimal? hq
  obtain ⟨b, hb, rfl⟩ := hy.decimal? hr
  exact comparedAs_iff.mpr fun op => op.holds_of_decimals ha hb

theorem Comparison.exact_of_holds {x : Float} {q : ℚ} (hq : (Value.float x).rational? = some q)
    (h : ∀ y r, y.Fits → y.Exact → y.rational? = some r →
      ∀ op : Comparison, op.holds (.float x) y = .ok (op.decides q r)) : (Value.float x).Exact := by
  cases hx : (Value.float x).decimal? with
  | none =>
    have horder := h (.integer 0) 0 trivial trivial rfl .less
    simp only [holds, valuesOrder?, hx] at horder
    cases horder
  | some d =>
    have hequal := h (.decimal d) d.rational (Decimal.bounds_of_ofFloat? hx).1 trivial rfl .equal
    rw [holds_of_decimals hx rfl, Except.ok.injEq, decides, decides, decide_eq_decide] at hequal
    rw [hequal.mp rfl] at hq
    exact Value.exact_of_decimal? hx hq

/-- A number compares by value with all others, on either side, unless it is a float that no decimal
denotes. -/
theorem comparedAs_exact_iff {x : Value} {q : ℚ} (hx : x.rational? = some q) :
    (∀ y r, y.Fits → y.Exact → y.rational? = some r → ComparedAs x y q r ∧ ComparedAs y x r q) ↔
      x.Exact := by
  constructor
  · intro h
    cases x with
    | integer | decimal => trivial
    | float x =>
      apply Comparison.exact_of_holds hx
      intro y r hfits hexact hr
      exact comparedAs_iff.mp (h y r hfits hexact hr).1
    | _ => cases hx
  · intro hexact y r _ hy hr
    exact ⟨.of_exact hexact hx hy hr, .of_exact hy hr hexact hx⟩

theorem comparedAs_exact_iff_half :
    (Value.float 0.5).rational? = some (1 / 2) ∧
      ComparedAs (.float 0.5) (.decimal ⟨false, 5, 1⟩) (1 / 2) (1 / 2) := by
  have hbits : Number.Binary64.ofFloat 0.5 = .finite false (2 ^ 52) (-53) := by decide
  have hfloat : (Value.float 0.5).rational? = some (1 / 2) := by
    rw [Value.rational?, hbits]
    norm_num [Number.Binary64.rational?, Number.sign]
  have hdecimal : (Value.decimal ⟨false, 5, 1⟩).rational? = some (1 / 2) := by
    norm_num [Value.rational?, Decimal.rational, Number.sign]
  have hexact : (Value.float 0.5).Exact :=
    ⟨1 / 2, hfloat, 5, 1, by norm_num, .inl (by decide)⟩
  have hfits : (Value.decimal ⟨false, 5, 1⟩).Fits := by
    constructor <;> decide
  exact ⟨hfloat, ((comparedAs_exact_iff hfloat).mpr hexact _ _ hfits trivial hdecimal).1⟩

theorem not_comparedAs_self :
    (Value.float 1e30).rational? = some 1000000000000000019884624838656 ∧
      ¬ ComparedAs (.float 1e30) (.float 1e30) 1000000000000000019884624838656
        1000000000000000019884624838656 := by
  have hbits : Number.Binary64.ofFloat 1e30 = .finite false 7105427357601002 47 := by
    decide +kernel
  have hself : Comparison.equal.holds (.float 1e30) (.float 1e30) = .ok false := by
    decide +kernel
  constructor
  · rw [Value.rational?, hbits]
    norm_num [Number.Binary64.rational?, Number.sign]
  · intro h
    have htrue := comparedAs_iff.mp h .equal
    rw [hself] at htrue
    simp [Comparison.decides] at htrue

end Condition
end SqlTemplate
