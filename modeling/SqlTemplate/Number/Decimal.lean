import SqlTemplate.Number.Positional

namespace SqlTemplate

/-- The number `± mantissa / 10 ^ scale`; trailing zeros count, so `12.50` is not `12.5`. -/
structure Decimal where
  negative : Bool
  mantissa : Nat
  scale : Nat
deriving DecidableEq, Repr

namespace Decimal

def mantissaLimit : Nat := 0x1000000000000000000000000

def maxScale : Nat := 28

def ofInt (n : Int) : Decimal := ⟨n < 0, n.natAbs, 0⟩

def signedMantissa (d : Decimal) : Int := if d.negative then -(d.mantissa : Int) else d.mantissa

def compare (a b : Decimal) : Ordering :=
  Ord.compare (a.signedMantissa * Number.tenTo b.scale) (b.signedMantissa * Number.tenTo a.scale)

def text (d : Decimal) : String :=
  String.ofList (Number.signed d.negative (Number.positional d.mantissa d.scale))

end Decimal
end SqlTemplate
