import SqlTemplate.Number.Positional
import SqlTemplate.Text.Pieces

namespace SqlTemplate

inductive Segment where
  | property (name : String)
  | index (i : Nat)
deriving DecidableEq, Repr

def Segment.text : Segment → String
  | .property name => name
  | .index i => String.ofList (Number.digitsOf i)

structure Path where
  head : String
  tail : List Segment
deriving DecidableEq, Repr

def currentAlias : String := "#current"

def isIdentifierStart (c : Char) : Bool :=
  ('a' ≤ c && c ≤ 'z') || ('A' ≤ c && c ≤ 'Z') || c = '_'

def isIdentifierPart (c : Char) : Bool := isIdentifierStart c || Number.isDigit c

def isIdentifier : List Char → Bool
  | [] => false
  | c :: cs => isIdentifierStart c && cs.all isIdentifierPart

inductive PathError where
  | empty
  | badHead (name : String)
  | emptySegment (path : String)
  | indexOutOfRange (path : String)
  | badSegment (segment path : String)
deriving DecidableEq, Repr

def PathError.message : PathError → String
  | empty => "empty property path"
  | badHead name => "invalid parameter name '" ++ name ++ "'"
  | emptySegment path => "empty segment in '" ++ path ++ "'"
  | indexOutOfRange path => "index out of range in '" ++ path ++ "'"
  | badSegment segment path => "invalid segment '" ++ segment ++ "' in '" ++ path ++ "'"

namespace Segment

def indexLimit : Nat := 0x10000000000000000

def parse (path : String) (part : List Char) : Except PathError Segment :=
  if part.isEmpty then .error (.emptySegment path)
  else if part.all Number.isDigit then
    if Number.ofDigits part < indexLimit then .ok (.index (Number.ofDigits part))
    else .error (.indexOutOfRange path)
  else if isIdentifier part then .ok (.property (String.ofList part))
  else .error (.badSegment (String.ofList part) path)

end Segment

namespace Path

def parseHead (part : List Char) : Except PathError String :=
  if part = currentAlias.toList ∨ isIdentifier part then .ok (String.ofList part)
  else if part.isEmpty then .error .empty
  else .error (.badHead (String.ofList part))

def parse (text : String) : Except PathError Path :=
  match Text.pieces '.' text.toList with
  | [] => .error .empty
  | first :: rest => do
    let head ← parseHead first
    let tail ← rest.mapM (Segment.parse text)
    return ⟨head, tail⟩

def relative (p : Path) : String := ".".intercalate (p.tail.map Segment.text)

def text (p : Path) : String := ".".intercalate (p.head :: p.tail.map Segment.text)

end Path
end SqlTemplate
