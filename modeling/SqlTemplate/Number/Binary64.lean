namespace SqlTemplate.Number

inductive Binary64 where
  | notANumber
  | infinite (negative : Bool)
  | finite (negative : Bool) (mantissa : Nat) (exponent : Int)
deriving DecidableEq, Repr

namespace Binary64

def minExponent : Int := -1074

def hiddenBit : Nat := 0x10000000000000

def signBit : Nat := 0x8000000000000000

def ofFloat (x : Float) : Binary64 :=
  let bits : Nat := x.toBits.toNat
  let negative := bits / signBit = 1
  let field : Nat := bits / hiddenBit % 2048
  let fraction : Nat := bits % hiddenBit
  if field = 2047 then if fraction = 0 then .infinite negative else .notANumber
  else if field = 0 then .finite negative fraction minExponent
  else .finite negative (hiddenBit + fraction) (field + minExponent - 1)

end Binary64
end SqlTemplate.Number
