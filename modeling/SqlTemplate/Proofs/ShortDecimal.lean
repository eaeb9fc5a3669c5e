import Mathlib.Algebra.Order.Field.Rat
import Mathlib.Algebra.Order.Field.Power
import Mathlib.Algebra.Ring.Parity
import Mathlib.Data.Nat.Factorization.Basic
import Mathlib.Data.Nat.Prime.Basic
import Mathlib.Tactic.FieldSimp
import Mathlib.Tactic.Linarith
import Mathlib.Tactic.NormNum
import Mathlib.Tactic.Ring
import SqlTemplate.Number.FloatDecimal

/-!
The decimals that floats are turned into. One that is whole, or has few enough digits, is kept as it
is; whatever comes out otherwise has few digits, and so is another number.
-/
namespace SqlTemplate.Decimal

theorem removeHalves_two_pow (j r q : Nat) (e : Int) :
    removeHalves (j + r) (2 ^ j * q) e = removeHalves r q (e + j) := by
  induction j generalizing e with
  | zero => simp
  | succ j ih =>
    have hm : 2 ^ (j + 1) * q = 2 * (2 ^ j * q) := by ring
    have heven : 2 * (2 ^ j * q) % 2 = 0 := Nat.mul_mod_right 2 _
    have hhalf : 2 * (2 ^ j * q) / 2 = 2 ^ j * q := Nat.mul_div_cancel_left _ (by decide)
    rw [Nat.add_right_comm, removeHalves, hm, if_pos heven, hhalf, ih]
    congr 1
    push_cast
    ring

theorem removeHalves_odd {r q : Nat} (hq : q % 2 = 1) (hfit : q * 5 ^ r < mantissaLimit) (e : Int) :
    removeHalves r q e = (q * 5 ^ r, e) := by
  induction r generalizing q with
  | zero => simp [removeHalves]
  | succ r ih =>
    have hpow : q * 5 ^ (r + 1) = q * 5 * 5 ^ r := by ring
    have hle : q * 5 ≤ q * 5 * 5 ^ r := Nat.le_mul_of_pos_right _ (by positivity)
    rw [hpow] at hfit
    rw [removeHalves, if_neg (by omega), if_pos (by omega), ih (by omega) hfit, hpow]

theorem removeHalves_lt {k m : Nat} (hm : m < mantissaLimit) (e : Int) :
    (removeHalves k m e).1 < mantissaLimit := by
  fun_induction removeHalves k m e with
  | case1 => exact hm
  | case2 k m e h ih => exact ih (by omega)
  | case3 k m e h hfit ih => exact ih hfit
  | case4 k m e h hfit ih => exact ih (by omega)

theorem removeHalves_le (k m : Nat) (e : Int) : (removeHalves k m e).2 ≤ e + k := by
  fun_induction removeHalves k m e with
  | case1 => simp
  | case2 k m e h ih => push_cast; omega
  | case3 k m e h hfit ih => push_cast; omega
  | case4 k m e h hfit ih => push_cast; omega

theorem removeDoubles_eq {k m : Nat} (hm : m < mantissaLimit) :
    removeDoubles k m k = if m * 2 ^ k < mantissaLimit then some (m * 2 ^ k, 0) else none := by
  induction k generalizing m with
  | zero => simp [removeDoubles, hm]
  | succ k ih =>
    have hpow : m * 2 ^ (k + 1) = m * 2 * 2 ^ k := by ring
    have hle : m * 2 ≤ m * 2 * 2 ^ k := Nat.le_mul_of_pos_right _ (by positivity)
    have he : ((k + 1 : Nat) : Int) - 1 = k := by push_cast; ring
    rw [removeDoubles, he, hpow]
    split
    · exact ih (by omega)
    · rw [if_pos (by omega), if_neg]
      have : mantissaLimit = 2 * (mantissaLimit / 2) := rfl
      omega

theorem roundLast_le (m : Nat) : roundLast m ≤ m := by
  rw [roundLast]
  split <;> omega

theorem dropExcess_bounds {k m scale : Nat} (hs : scale ≤ k + maxScale) :
    (dropExcess k m scale).1 ≤ m ∧ (dropExcess k m scale).2 ≤ maxScale := by
  fun_induction dropExcess k m scale with
  | case1 => exact ⟨le_rfl, by omega⟩
  | case2 => exact ⟨Nat.zero_le _, Nat.zero_le _⟩
  | case3 k m scale hm ih =>
    have := roundLast_le m
    obtain ⟨h1, h2⟩ := ih (by omega)
    exact ⟨by omega, h2⟩

theorem dropBeyondFloat_bounds (scale m : Nat) :
    (dropBeyondFloat scale m).1 ≤ m ∧ (dropBeyondFloat scale m).2 ≤ scale ∧
      ((dropBeyondFloat scale m).2 = 0 ∨
        (dropBeyondFloat scale m).1 < Number.Binary64.hiddenBit) := by
  fun_induction dropBeyondFloat scale m with
  | case1 => simp
  | case2 scale m h ih =>
    have := roundLast_le m
    omega
  | case3 scale m h => simp; omega

theorem dropZeros_bounds (scale m : Nat) :
    (dropZeros scale m).1 ≤ m ∧ (dropZeros scale m).2 ≤ scale := by
  fun_induction dropZeros scale m with
  | case1 => simp
  | case2 scale m h ih => omega
  | case3 scale m h => simp

theorem dropZeros_value (scale m : Nat) :
    ((dropZeros scale m).1 : ℚ) / 10 ^ (dropZeros scale m).2 = m / 10 ^ scale := by
  fun_induction dropZeros scale m with
  | case1 => simp
  | case2 scale m h ih =>
    rw [ih]
    obtain ⟨n, rfl⟩ := Nat.dvd_of_mod_eq_zero h
    rw [Nat.mul_div_cancel_left n (by decide), pow_succ]
    push_cast
    field_simp
  | case3 scale m h => simp

def shorten (m scale : Nat) : Nat × Nat :=
  let excess := dropExcess (scale - maxScale) m scale
  let kept := dropBeyondFloat excess.2 excess.1
  dropZeros kept.2 kept.1

theorem shorten_bounds {m : Nat} (hm : m < mantissaLimit) (scale : Nat) :
    (shorten m scale).1 < mantissaLimit ∧ (shorten m scale).2 ≤ maxScale ∧
      ((shorten m scale).2 = 0 ∨ (shorten m scale).1 < Number.Binary64.hiddenBit) := by
  have hexcess := @dropExcess_bounds (scale - maxScale) m scale (by omega)
  rw [shorten]
  generalize dropExcess (scale - maxScale) m scale = excess at hexcess ⊢
  have hkept := dropBeyondFloat_bounds excess.2 excess.1
  generalize dropBeyondFloat excess.2 excess.1 = kept at hkept ⊢
  have hzeros := dropZeros_bounds kept.2 kept.1
  omega

theorem shorten_value {m scale : Nat} (hm : m < Number.Binary64.hiddenBit ∨ scale = 0)
    (hs : scale ≤ maxScale) :
    ((shorten m scale).1 : ℚ) / 10 ^ (shorten m scale).2 = m / 10 ^ scale := by
  have hexcess : dropExcess (scale - maxScale) m scale = (m, scale) := by
    rw [Nat.sub_eq_zero_of_le hs, dropExcess]
  have hkept : dropBeyondFloat scale m = (m, scale) := by
    cases scale with
    | zero => rfl
    | succ scale => rw [dropBeyondFloat, if_neg (by omega)]
  simp only [shorten, hexcess, hkept, dropZeros_value]

theorem ofBinary?_natCast {m : Nat} (hm : m < mantissaLimit) (k : Nat) :
    ofBinary? m k = if m * 2 ^ k < mantissaLimit then some (m * 2 ^ k, 0) else none := by
  have hk : (-(k : Int)).toNat = 0 := by omega
  rw [ofBinary?, hk, removeHalves, Int.toNat_natCast, removeDoubles_eq hm]
  split <;> rfl

theorem ofBinary?_neg (m k : Nat) : ofBinary? m (-k) =
    some (shorten (removeHalves k m (-k)).1 (-(removeHalves k m (-k)).2).toNat) := by
  have hk : (- -(k : Int)).toNat = k := by omega
  have hd : (-(k : Int)).toNat = 0 := by omega
  have he : (removeHalves k m (-k)).2.toNat = 0 := by
    have := removeHalves_le k m (-k)
    omega
  rw [ofBinary?, hk, hd]
  simp only [removeDoubles, he, writeTens?, Option.bind_eq_bind, Option.bind_some]
  rfl

/-- A number that some float and some decimal denote alike: its digits fit into 52 bits, or it is
whole and fits into a mantissa. -/
def Short (q : ℚ) : Prop :=
  ∃ n s : Nat, q = n / 10 ^ s ∧ (n < Number.Binary64.hiddenBit ∨ s = 0 ∧ n < mantissaLimit)

theorem ofBinary?_bounds {m : Nat} {e : Int} {r : Nat × Nat} (h : ofBinary? m e = some r)
    (hm : m < mantissaLimit) :
    r.1 < mantissaLimit ∧ r.2 ≤ maxScale ∧ (r.2 = 0 ∨ r.1 < Number.Binary64.hiddenBit) := by
  obtain ⟨k, rfl | rfl⟩ := e.eq_nat_or_neg
  · rw [ofBinary?_natCast hm] at h
    split at h
    · next hfit =>
      cases h
      exact ⟨hfit, Nat.zero_le _, .inl rfl⟩
    · cases h
  · rw [ofBinary?_neg] at h
    cases h
    exact shorten_bounds (removeHalves_lt hm _) _

theorem le_of_odd {q r n s : Nat} (hq : q % 2 = 1) (h : n * 2 ^ r = q * 10 ^ s) :
    r ≤ s ∧ q * 5 ^ r ≤ n := by
  have hten : 10 ^ s = 5 ^ s * 2 ^ s := by rw [← Nat.mul_pow]
  have hodd : Nat.Coprime (2 ^ r) (q * 5 ^ s) := by
    apply Nat.Coprime.pow_left
    rw [Nat.coprime_two_left]
    exact (Nat.odd_iff.mpr hq).mul (Odd.pow (by decide))
  have hdvd : 2 ^ r ∣ 2 ^ s := by
    apply hodd.dvd_of_dvd_mul_left
    rw [mul_assoc, ← hten, ← h]
    exact Nat.dvd_mul_left _ _
  have hle : r ≤ s := (Nat.pow_dvd_pow_iff_le_right (by decide)).mp hdvd
  refine ⟨hle, ?_⟩
  obtain ⟨d, rfl⟩ := Nat.exists_eq_add_of_le hle
  have hn : n = q * 5 ^ r * 10 ^ d := by
    apply Nat.eq_of_mul_eq_mul_right (show 0 < 2 ^ r by positivity)
    rw [h, pow_add, show (10 : Nat) ^ r = 5 ^ r * 2 ^ r by rw [← Nat.mul_pow]]
    ring
  rw [hn]
  exact Nat.le_mul_of_pos_right _ (by positivity)

theorem scale_le_of_lt {q r : Nat} (hq : q ≠ 0) (h : q * 5 ^ r < Number.Binary64.hiddenBit) :
    r ≤ maxScale := by
  by_contra hr
  have hpow : 5 ^ (maxScale + 1) ≤ 5 ^ r := Nat.pow_le_pow_right (by decide) (by omega)
  have hle : 5 ^ r ≤ q * 5 ^ r := Nat.le_mul_of_pos_left _ (Nat.pos_of_ne_zero hq)
  have hbit : Number.Binary64.hiddenBit < 5 ^ (maxScale + 1) := by decide
  omega

theorem removeHalves_of_short {m k : Nat} (hpos : m ≠ 0) (h : Short (m * 2 ^ (-(k : Int)))) :
    ∃ n s : Nat, removeHalves k m (-k) = (n, -(s : Int)) ∧ s ≤ maxScale ∧
      (n < Number.Binary64.hiddenBit ∨ s = 0) ∧ (n : ℚ) / 10 ^ s = m * 2 ^ (-(k : Int)) := by
  obtain ⟨j, q, hodd, rfl⟩ := Nat.exists_eq_two_pow_mul_odd hpos
  rcases Nat.lt_or_ge j k with hjk | hkj
  · obtain ⟨r, rfl⟩ := Nat.exists_eq_add_of_le hjk.le
    obtain ⟨n, s, hn, hfit⟩ := h
    have hvalue : ((2 ^ j * q : Nat) : ℚ) * 2 ^ (-((j + r : Nat) : Int)) = q / 2 ^ r := by
      push_cast
      rw [neg_add, zpow_add₀ two_ne_zero, zpow_neg, zpow_neg, zpow_natCast, zpow_natCast]
      field_simp
    have hcross : n * 2 ^ r = q * 10 ^ s := by
      rw [hvalue, div_eq_div_iff (by positivity) (by positivity)] at hn
      exact_mod_cast hn.symm
    obtain ⟨hle, hdigits⟩ := le_of_odd (Nat.odd_iff.mp hodd) hcross
    have hbit : q * 5 ^ r < Number.Binary64.hiddenBit := by omega
    have hlimit : Number.Binary64.hiddenBit < mantissaLimit := by decide
    refine ⟨q * 5 ^ r, r, ?_, scale_le_of_lt (by rintro rfl; simp at hpos) hbit, .inl hbit, ?_⟩
    · rw [removeHalves_two_pow, removeHalves_odd (Nat.odd_iff.mp hodd) (by omega)]
      congr 1
      push_cast
      ring
    · rw [hvalue, show (10 : ℚ) = 5 * 2 by norm_num, mul_pow]
      push_cast
      field_simp
  · obtain ⟨d, rfl⟩ := Nat.exists_eq_add_of_le hkj
    refine ⟨2 ^ d * q, 0, ?_, Nat.zero_le _, .inr rfl, ?_⟩
    · have hsplit := removeHalves_two_pow k 0 (2 ^ d * q) (-k)
      rw [Nat.add_zero, ← mul_assoc, ← pow_add] at hsplit
      rw [hsplit, removeHalves]
      simp
    · push_cast
      rw [zpow_neg, zpow_natCast, pow_add]
      field_simp

theorem ofBinary?_of_short {m : Nat} {e : Int} (hpos : m ≠ 0) (hm : m < mantissaLimit)
    (h : Short (m * 2 ^ e)) :
    ∃ r, ofBinary? m e = some r ∧ (r.1 : ℚ) / 10 ^ r.2 = m * 2 ^ e := by
  obtain ⟨k, rfl | rfl⟩ := e.eq_nat_or_neg
  · obtain ⟨n, s, hn, hfit⟩ := h
    have hwhole : m * 2 ^ k * 10 ^ s = n := by
      rw [eq_div_iff (by positivity)] at hn
      exact_mod_cast hn
    have hle : m * 2 ^ k ≤ n := by
      rw [← hwhole]
      exact Nat.le_mul_of_pos_right _ (by positivity)
    have hlimit : Number.Binary64.hiddenBit < mantissaLimit := by decide
    rw [ofBinary?_natCast hm, if_pos (by omega)]
    exact ⟨_, rfl, by push_cast; simp⟩
  · obtain ⟨n, s, hr, hs, hn, hvalue⟩ := removeHalves_of_short hpos h
    rw [ofBinary?_neg, hr, neg_neg, Int.toNat_natCast]
    exact ⟨_, rfl, (shorten_value hn hs).trans hvalue⟩

end SqlTemplate.Decimal
