import SqlTemplate.Number.Positional

/-!
The numbers that numerals stand for. Digits that do not fit into 64 bits are dropped, and powers of
ten are applied in binary arithmetic, so the result may differ in its last bits from the nearest
float.
-/
namespace SqlTemplate.Json

structure Numeral where
  negative : Bool
  whole : List Char
  fraction : List Char
  isFloat : Bool
  exponentNegative : Bool
  exponentDigits : List Char

namespace Numeral

def splitSign : List Char → Bool × List Char
  | '-' :: cs => (true, cs)
  | '+' :: cs => (false, cs)
  | cs => (false, cs)

def ofText (text : List Char) : Numeral :=
  let (negative, cs) := splitSign text
  let whole := cs.takeWhile Number.isDigit
  let afterWhole := cs.dropWhile Number.isDigit
  let point := afterWhole.head? = some '.'
  let fraction := if point then afterWhole.tail.takeWhile Number.isDigit else []
  let exponent := if point then afterWhole.tail.dropWhile Number.isDigit else afterWhole
  let (exponentNegative, exponentDigits) := splitSign exponent.tail
  ⟨negative, whole, fraction, !afterWhole.isEmpty, exponentNegative, exponentDigits⟩

def maxUnsigned : Nat := 0xFFFFFFFFFFFFFFFF

def accumulate (n : Nat) : List Char → Nat × List Char
  | [] => (n, [])
  | c :: cs =>
    let m := 10 * n + Number.digitValue c
    if m ≤ maxUnsigned then accumulate m cs else (n, c :: cs)

def maxExponent : Nat := 0x7FFFFFFF

def maxPower : Nat := 308

def powerOfTen (n : Nat) : Float := Float.ofScientific 1 false n

def divide (x : Float) (power : Nat) : Float :=
  if power ≤ maxPower then x / powerOfTen power
  else if x == 0 then x
  else divide (x / powerOfTen maxPower) (power - maxPower)
termination_by power
decreasing_by simp only [maxPower] at *; omega

def multiply? (x : Float) (power : Nat) : Option Float :=
  if power ≤ maxPower then
    let y := x * powerOfTen power
    if y.isInf then none else some y
  else if x == 0 then some x
  else none

def magnitude? (n : Numeral) : Option Float :=
  let (whole, dropped) := accumulate 0 n.whole
  let (significand, rest) := accumulate whole n.fraction
  let exponent : Int := dropped.length - (n.fraction.length - rest.length : Nat)
  let shift := Number.ofDigits n.exponentDigits
  if maxExponent < shift then
    if significand = 0 || n.exponentNegative then some 0 else none
  else
    let total := if n.exponentNegative then exponent - shift else exponent + shift
    let x := Float.ofNat significand
    if 0 ≤ total then multiply? x total.toNat else some (divide x (-total).toNat)

def float? (n : Numeral) : Option Float :=
  n.magnitude?.map fun x => if n.negative then -x else x

end Numeral
end SqlTemplate.Json
