import SqlTemplate.Number.Binary64
import SqlTemplate.Number.Decimal

/-!
Decimals near a float: about sixteen digits of it, when its size allows for a decimal at all.
-/
namespace SqlTemplate.Decimal

/-- Takes `halvings` powers of two out of `mantissa * 10 ^ exponent / 5 ^ halvings`: an odd mantissa
is multiplied by five as long as it fits, and rounded down to an even one after that. -/
def removeHalves : (halvings mantissa : Nat) → (exponent : Int) → Nat × Int
  | 0, m, e => (m, e)
  | k + 1, m, e =>
    if m % 2 = 0 then removeHalves k (m / 2) (e + 1)
    else if m * 5 < mantissaLimit then removeHalves k (m * 5) e
    else removeHalves k (m / 2) (e + 1)

/-- Takes `doublings` powers of two in: by doubling as long as it fits, and by dividing by five
after that, which must not be needed too often. -/
def removeDoubles : (doublings mantissa : Nat) → (exponent : Int) → Option (Nat × Int)
  | 0, m, e => some (m, e)
  | k + 1, m, e =>
    if m < mantissaLimit / 2 then removeDoubles k (m * 2) (e - 1)
    else if 2 * e > k + 1 then none
    else removeDoubles k (m / 5) e

def writeTens? : (tens mantissa : Nat) → Option Nat
  | 0, m => some m
  | k + 1, m => if m * 10 < mantissaLimit then writeTens? k (m * 10) else none

def roundLast (m : Nat) : Nat := if 5 ≤ m % 10 then m / 10 + 1 else m / 10

def dropExcess : (excess mantissa scale : Nat) → Nat × Nat
  | 0, m, scale => (m, scale)
  | k + 1, m, scale =>
    if m / 10 = 0 then (0, 0) else dropExcess k (roundLast m) (scale - 1)

def dropBeyondFloat : (scale mantissa : Nat) → Nat × Nat
  | 0, m => (m, 0)
  | scale + 1, m =>
    if Number.Binary64.hiddenBit ≤ m then dropBeyondFloat scale (roundLast m) else (m, scale + 1)

def dropZeros : (scale mantissa : Nat) → Nat × Nat
  | 0, m => (m, 0)
  | scale + 1, m => if m % 10 = 0 then dropZeros scale (m / 10) else (m, scale + 1)

def ofBinary? (mantissa : Nat) (exponent : Int) : Option (Nat × Nat) := do
  let halved := removeHalves (-exponent).toNat mantissa exponent
  let (m, e) ← removeDoubles exponent.toNat halved.1 halved.2
  let m ← writeTens? e.toNat m
  let scale := (-e).toNat
  let (m, scale) := dropExcess (scale - maxScale) m scale
  let (m, scale) := dropBeyondFloat scale m
  return dropZeros scale m

def ofFloat? (x : Float) : Option Decimal :=
  match Number.Binary64.ofFloat x with
  | .finite negative 0 _ => some ⟨negative, 0, 0⟩
  | .finite negative mantissa exponent =>
    (ofBinary? mantissa exponent).map fun r => ⟨negative, r.1, r.2⟩
  | _ => none

end SqlTemplate.Decimal
