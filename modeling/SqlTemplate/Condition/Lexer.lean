import SqlTemplate.Condition.Token
import SqlTemplate.Path
import SqlTemplate.Text.Blank
import SqlTemplate.Text.Numeric

/-!
Conditions as tokens. Every call reads one token at a cursor and leaves the cursor behind it, or,
after an error, at the place that the error was found at.
-/
namespace SqlTemplate.Condition

inductive LexError where
  | unexpectedChar (c : Char) (position : Nat)
  | unterminatedString (start : Nat)
  | invalidEscape (c : Char) (position : Nat)
  | invalidNumber (text : String) (start : Nat)
  | incomplete (found : Char) (position : Nat)
deriving DecidableEq, Repr

def LexError.message : LexError → String
  | unexpectedChar c position =>
    "unexpected character '" ++ c.toString ++ "' at position " ++ toString position
  | unterminatedString start => "unterminated string starting at position " ++ toString start
  | invalidEscape c position =>
    "invalid escape sequence '\\" ++ c.toString ++ "' at position " ++ toString position
  | invalidNumber text start =>
    "invalid number '" ++ text ++ "' at position " ++ toString start
  | incomplete found position =>
    let c := found.toString
    "unexpected '" ++ c ++ "' at position " ++ toString position ++
      " (did you mean '" ++ c ++ c ++ "'?)"

structure Cursor where
  position : Nat
  rest : List Char
deriving DecidableEq, Repr

namespace Cursor

def start (source : String) : Cursor := ⟨0, source.toList⟩

def skip (n : Nat) (c : Cursor) : Cursor := ⟨c.position + n, c.rest.drop n⟩

def skipWhile (p : Char → Bool) (c : Cursor) : Cursor := c.skip (c.rest.takeWhile p).length

end Cursor

def isWordStart (c : Char) : Bool := Text.isAlphabetic c || c = '_'

def isWordPart (c : Char) : Bool := Text.isAlphanumeric c || c = '_'

def unescape? (c : Char) : Option Char :=
  [('n', '\n'), ('t', '\t'), ('r', '\r'), ('\'', '\''), ('"', '"'), ('\\', '\\')].lookup c

def push (c : Char) (r : Except LexError (List Char) × Cursor) :
    Except LexError (List Char) × Cursor :=
  (r.1.map (c :: ·), r.2)

def stringBody (quote : Char) (start : Nat) :
    (position : Nat) → List Char → Except LexError (List Char) × Cursor
  | p, [] => (.error (.unterminatedString start), ⟨p, []⟩)
  | p, [c] =>
    if c = quote then (.ok [], ⟨p + 1, []⟩)
    else (.error (.unterminatedString start), ⟨p + 1, []⟩)
  | p, c :: d :: cs =>
    if c = quote then
      if d = quote then push quote (stringBody quote start (p + 2) cs)
      else (.ok [], ⟨p + 1, d :: cs⟩)
    else if c = '\\' then
      match unescape? d with
      | some e => push e (stringBody quote start (p + 2) cs)
      | none => (.error (.invalidEscape d (p + 1)), ⟨p + 1, d :: cs⟩)
    else push c (stringBody quote start (p + 1) (d :: cs))

def numeral (cs : List Char) : List Char × Option (List Char) :=
  let whole := cs.takeWhile Number.isDigit
  match cs.dropWhile Number.isDigit with
  | '.' :: d :: ds =>
    if Number.isDigit d then (whole, some (d :: ds.takeWhile Number.isDigit)) else (whole, none)
  | _ => (whole, none)

def maxInteger : Nat := 0x7FFFFFFFFFFFFFFF

def number (negative : Bool) (c : Cursor) : Except LexError Token × Cursor :=
  match numeral c.rest with
  | (whole, some fraction) =>
    let x := Float.ofScientific (Number.ofDigits (whole ++ fraction)) true fraction.length
    (.ok (.float (if negative then -x else x)), c.skip (whole.length + 1 + fraction.length))
  | (whole, none) =>
    let n := Number.ofDigits whole
    let after := c.skip whole.length
    if n ≤ maxInteger then (.ok (.integer (if negative then -(.ofNat n) else .ofNat n)), after)
    else (.error (.invalidNumber (String.ofList whole) c.position), after)

def word (c : Cursor) : String := String.ofList (c.rest.takeWhile isWordPart)

def punctuation? (ch : Char) : Option Token :=
  [('.', .dot), ('(', .openParen), (')', .closeParen)].lookup ch

def doubled? (ch : Char) : Option Token := [('=', .equal), ('&', .and), ('|', .or)].lookup ch

def extended? (ch : Char) : Option (Token × Token) :=
  [('>', .greater, .greaterEqual), ('<', .less, .lessEqual), ('!', .not, .notEqual)].lookup ch

def longTokenAt (ch : Char) (next : List Char) (c : Cursor) : Except LexError Token × Cursor :=
  if ch = '"' ∨ ch = '\'' then
    let r := stringBody ch c.position (c.position + 1) next
    (r.1.map fun s => .string (String.ofList s), r.2)
  else if ch = '#' then
    let after := (c.skip 1).skipWhile isWordPart
    if "#" ++ word (c.skip 1) = currentAlias then (.ok (.identifier currentAlias), after)
    else (.error (.unexpectedChar ch c.position), after)
  else if isWordStart ch then
    (.ok ((Token.keyword? (word c)).getD (.identifier (word c))), c.skipWhile isWordPart)
  else if Number.isDigit ch then number false c
  else if ch = '-' ∧ next.head?.any Number.isDigit then number true (c.skip 1)
  else (.error (.unexpectedChar ch c.position), c)

def tokenAt (c : Cursor) : Except LexError Token × Cursor :=
  match c.rest with
  | [] => (.ok .endOfInput, c)
  | ch :: next =>
    match punctuation? ch, doubled? ch, extended? ch with
    | some t, _, _ => (.ok t, c.skip 1)
    | _, some t, _ =>
      if next.head? = some ch then (.ok t, c.skip 2)
      else (.error (.incomplete ch c.position), c)
    | _, _, some (alone, joined) =>
      if next.head? = some '=' then (.ok joined, c.skip 2) else (.ok alone, c.skip 1)
    | _, _, _ => longTokenAt ch next c

def next (c : Cursor) : Except LexError Token × Cursor := tokenAt (c.skipWhile Text.isBlank)

end SqlTemplate.Condition
