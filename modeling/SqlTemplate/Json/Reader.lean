import SqlTemplate.Json.Basic
import SqlTemplate.Number.Positional

namespace SqlTemplate.Json

def isBlank (c : Char) : Bool := [' ', '\t', '\n', '\r'].contains c

def skipBlank (cs : List Char) : List Char := cs.dropWhile isBlank

def hexValue? (c : Char) : Option Nat :=
  if '0' ≤ c && c ≤ '9' then some (c.toNat - '0'.toNat)
  else if 'a' ≤ c && c ≤ 'f' then some (c.toNat - 'a'.toNat + 10)
  else if 'A' ≤ c && c ≤ 'F' then some (c.toNat - 'A'.toNat + 10)
  else none

def hex4? (a b c d : Char) : Option Nat := do
  return (((← hexValue? a) * 16 + (← hexValue? b)) * 16 + (← hexValue? c)) * 16 + (← hexValue? d)

def unescape? (c : Char) : Option Char :=
  [('"', '"'), ('\\', '\\'), ('/', '/'), ('b', '\x08'), ('f', '\x0c'), ('n', '\n'), ('r', '\r'),
   ('t', '\t')].lookup c

def stringRest? : List Char → Option (List Nat × List Char)
  | '"' :: cs => some ([], cs)
  | '\\' :: 'u' :: a :: b :: c :: d :: cs => do
    let n ← hex4? a b c d
    let r ← stringRest? cs
    return (n :: r.1, r.2)
  | '\\' :: c :: cs => do
    let e ← unescape? c
    let r ← stringRest? cs
    return (e.toNat :: r.1, r.2)
  | c :: cs =>
    if c.toNat < 0x20 || c = '\\' then none
    else (stringRest? cs).map fun r => (c.toNat :: r.1, r.2)
  | [] => none

def isHighSurrogate (n : Nat) : Bool := 0xD800 ≤ n && n < 0xDC00

def isLowSurrogate (n : Nat) : Bool := 0xDC00 ≤ n && n < 0xE000

def decode? : List Nat → Option (List Char)
  | [] => some []
  | [n] => if isHighSurrogate n || isLowSurrogate n then none else some [Char.ofNat n]
  | n :: m :: ns =>
    if isHighSurrogate n then
      if isLowSurrogate m then
        let c := Char.ofNat (0x10000 + (n - 0xD800) * 0x400 + (m - 0xDC00))
        (decode? ns).map (c :: ·)
      else none
    else if isLowSurrogate n then none
    else (decode? (m :: ns)).map (Char.ofNat n :: ·)

def decodeString? (units : List Nat) : Option String := (decode? units).map String.ofList

def numeral? (cs : List Char) : Option (List Char × List Char) :=
  let (minus, cs) := match cs with
    | '-' :: cs => (['-'], cs)
    | cs => ([], cs)
  let (whole, cs) := match cs with
    | '0' :: cs => (['0'], cs)
    | cs => (cs.takeWhile Number.isDigit, cs.dropWhile Number.isDigit)
  let (fraction, cs) := match cs with
    | '.' :: ds =>
      if ds.head?.any Number.isDigit then
        ('.' :: ds.takeWhile Number.isDigit, ds.dropWhile Number.isDigit)
      else ([], cs)
    | cs => ([], cs)
  let (exponent, cs) := match cs with
    | e :: ds =>
      let (sign, ds) := match ds with
        | '+' :: ds => (['+'], ds)
        | '-' :: ds => (['-'], ds)
        | ds => ([], ds)
      if (e = 'e' || e = 'E') && ds.head?.any Number.isDigit then
        (e :: sign ++ ds.takeWhile Number.isDigit, ds.dropWhile Number.isDigit)
      else ([], cs)
    | cs => ([], cs)
  if whole.isEmpty then none else some (minus ++ whole ++ fraction ++ exponent, cs)

def ofString? (s : Option String) : Json := (s.map string).getD meaningless

def ofMembers (members : List (Option String × Json)) : Json :=
  match members.mapM fun m => m.1.map fun name => (name, m.2) with
  | some members => object members
  | none => meaningless

mutual

/-- The document at the start of a text, and the text behind it. The bound goes down by one with
every call; twice the length of the text is enough for any text. -/
def value? : (bound : Nat) → List Char → Option (Json × List Char)
  | 0, _ => none
  | bound + 1, cs =>
    match skipBlank cs with
    | 'n' :: 'u' :: 'l' :: 'l' :: cs => some (null, cs)
    | 't' :: 'r' :: 'u' :: 'e' :: cs => some (bool true, cs)
    | 'f' :: 'a' :: 'l' :: 's' :: 'e' :: cs => some (bool false, cs)
    | '"' :: cs => (stringRest? cs).map fun r => (ofString? (decodeString? r.1), r.2)
    | '[' :: cs =>
      match skipBlank cs with
      | ']' :: cs => some (array [], cs)
      | cs => (items? bound cs).map fun r => (array r.1, r.2)
    | '\x7b' :: cs =>
      match skipBlank cs with
      | '\x7d' :: cs => some (object [], cs)
      | cs => (members? bound cs).map fun r => (ofMembers r.1, r.2)
    | cs => (numeral? cs).map fun r => (number (String.ofList r.1), r.2)

def items? : (bound : Nat) → List Char → Option (List Json × List Char)
  | 0, _ => none
  | bound + 1, cs => do
    let (j, cs) ← value? bound cs
    match skipBlank cs with
    | ']' :: cs => return ([j], cs)
    | ',' :: cs =>
      let (js, cs) ← items? bound cs
      return (j :: js, cs)
    | _ => none

def members? : (bound : Nat) → List Char → Option (List (Option String × Json) × List Char)
  | 0, _ => none
  | bound + 1, cs =>
    match skipBlank cs with
    | '"' :: cs => do
      let (units, cs) ← stringRest? cs
      match skipBlank cs with
      | ':' :: cs =>
        let (j, cs) ← value? bound cs
        match skipBlank cs with
        | '\x7d' :: cs => return ([(decodeString? units, j)], cs)
        | ',' :: cs =>
          let (js, cs) ← members? bound cs
          return ((decodeString? units, j) :: js, cs)
        | _ => none
      | _ => none
    | _ => none

end

def parse? (text : String) : Option Json := do
  let cs := text.toList
  let (j, rest) ← value? (2 * cs.length + 2) cs
  if (skipBlank rest).isEmpty then some j else none

end SqlTemplate.Json
