namespace SqlTemplate.Number

def isDigit (c : Char) : Bool := '0' ≤ c && c ≤ '9'

def digitValue (c : Char) : Nat := c.toNat - '0'.toNat

def ofDigits (digits : List Char) : Nat :=
  digits.foldl (fun n c => 10 * n + digitValue c) 0

def digitsOf (n : Nat) : List Char := Nat.toDigits 10 n

def tenTo (n : Nat) : Nat := Nat.pow 10 n

def paddedDigits (width n : Nat) : List Char :=
  List.replicate (width - (digitsOf n).length) '0' ++ digitsOf n

def positional (mantissa scale : Nat) : List Char :=
  if scale = 0 then digitsOf mantissa
  else digitsOf (mantissa / tenTo scale) ++ '.' :: paddedDigits scale (mantissa % tenTo scale)

def signed (negative : Bool) (text : List Char) : List Char :=
  if negative then '-' :: text else text

def integerText (n : Int) : String := String.ofList (signed (n < 0) (digitsOf n.natAbs))

end SqlTemplate.Number
