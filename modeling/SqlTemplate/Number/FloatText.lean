import SqlTemplate.Number.Shortest

namespace SqlTemplate.Number

namespace Scientific

def plain (s : Scientific) : List Char :=
  positional (s.digits * tenTo s.exponent.toNat) (-s.exponent).toNat

def exponential (s : Scientific) : List Char :=
  let after := (digitsOf s.digits).drop 1
  let point := if after.isEmpty then [] else '.' :: after
  (digitsOf s.digits).take 1 ++ point ++ 'e' :: (toString (s.exponent + after.length)).toList

def magnitude (s : Scientific) : Int := s.exponent + (digitsOf s.digits).length - 1

end Scientific

def floatText (write : Scientific → List Char) (x : Float) : String :=
  match Binary64.ofFloat x with
  | .notANumber => "NaN"
  | .infinite negative => String.ofList (signed negative "inf".toList)
  | .finite negative mantissa exponent =>
    let value := if mantissa = 0 then ⟨0, 0⟩ else shortest mantissa exponent
    String.ofList (signed negative (write value))

def plainFloat (x : Float) : String := floatText Scientific.plain x

def markedFloat (x : Float) : String :=
  floatText (fun s =>
    if s.digits ≠ 0 ∧ (s.magnitude < -4 ∨ 16 ≤ s.magnitude) then s.exponential
    else if s.exponent < 0 then s.plain
    else s.plain ++ ['.', '0']) x

end SqlTemplate.Number
