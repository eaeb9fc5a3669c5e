import SqlTemplate.Number.Binary64
import SqlTemplate.Number.Positional

/-!
The fewest decimal digits that read back as a given binary float.
-/
namespace SqlTemplate.Number

/-- The numbers that round to a float: those between `low / unit` and `high / unit`, the ends
included when `closed`. The float itself is `value / unit`. -/
structure Interval where
  low : Nat
  value : Nat
  high : Nat
  unit : Nat
  closed : Bool

namespace Interval

/-- The ends lie halfway to the neighbours; below a power of two the neighbour is nearer. Ties go
to the even mantissa, so its ends belong to it. -/
def around (mantissa : Nat) (exponent : Int) : Interval :=
  let below := if mantissa = Binary64.hiddenBit ∧ Binary64.minExponent < exponent then 1 else 2
  let scale := Nat.pow 2 (exponent - 2).toNat
  { low := (4 * mantissa - below) * scale
    value := 4 * mantissa * scale
    high := (4 * mantissa + 2) * scale
    unit := Nat.pow 2 (2 - exponent).toNat
    closed := mantissa % 2 = 0 }

def magnitude (i : Interval) : Int :=
  if i.unit ≤ i.value then ((digitsOf (i.value / i.unit)).length : Int) - 1
  else -((digitsOf ((i.unit - 1) / i.value)).length : Int)

def holds (i : Interval) (c : Nat) : Bool :=
  if i.closed then i.low ≤ c && c ≤ i.high else i.low < c && c < i.high

def rescale (i : Interval) (exponent : Int) : Interval :=
  let up := tenTo (-exponent).toNat
  { i with low := i.low * up, value := i.value * up, high := i.high * up,
           unit := i.unit * tenTo exponent.toNat }

def nearest? (i : Interval) : Option Nat :=
  let c := i.value / i.unit
  if i.holds (c * i.unit) && (2 * i.value < (2 * c + 1) * i.unit || !i.holds ((c + 1) * i.unit))
  then some c
  else if i.holds ((c + 1) * i.unit) then some (c + 1)
  else none

end Interval

structure Scientific where
  digits : Nat
  exponent : Int
deriving DecidableEq, Repr

def Scientific.dropZeros : Nat → Scientific → Scientific
  | 0, s => s
  | count + 1, s =>
    if s.digits ≠ 0 ∧ s.digits % 10 = 0 then dropZeros count ⟨s.digits / 10, s.exponent + 1⟩ else s

def maxDigits : Nat := 17

def shortest (mantissa : Nat) (exponent : Int) : Scientific :=
  let i := Interval.around mantissa exponent
  let found := (List.range maxDigits).findSome? fun (count : Nat) =>
    let e := i.magnitude - count
    (i.rescale e).nearest?.map fun d => (⟨d, e⟩ : Scientific)
  (found.getD ⟨0, 0⟩).dropZeros maxDigits

end SqlTemplate.Number
