import SqlTemplate.Json.Basic

namespace SqlTemplate.Json

def isControl (c : Char) : Bool := c.toNat < 0x20 || (0x7F ≤ c.toNat && c.toNat < 0xA0)

def hexDigits (n : Nat) : List Char :=
  let digits := Nat.toDigits 16 n
  List.replicate (4 - digits.length) '0' ++ digits

def escapeChar (c : Char) : List Char :=
  if c = '"' || c = '\\' then ['\\', c]
  else if c = '\n' then ['\\', 'n']
  else if c = '\r' then ['\\', 'r']
  else if c = '\t' then ['\\', 't']
  else if isControl c then '\\' :: 'u' :: hexDigits c.toNat
  else [c]

def writeString (s : String) : List Char := '"' :: (s.toList.flatMap escapeChar ++ ['"'])

def enclose (left right : Char) (items : List (List Char)) : List Char :=
  left :: ([','].intercalate items ++ [right])

mutual

def compact : Json → List Char
  | null => "null".toList
  | bool b => (if b then "true" else "false").toList
  | number text => text.toList
  | string s => writeString s
  | array items => enclose '[' ']' (compactItems items)
  | object members => enclose '\x7b' '\x7d' (compactMembers members)
  | meaningless => "null".toList

def compactItems : List Json → List (List Char)
  | [] => []
  | j :: js => j.compact :: compactItems js

def compactMembers : List (String × Json) → List (List Char)
  | [] => []
  | (name, j) :: js => (writeString name ++ ':' :: j.compact) :: compactMembers js

end

def indentation (level : Nat) : List Char := List.replicate (2 * level) ' '

def encloseLines (level : Nat) (left right : Char) (items : List (List Char)) : List Char :=
  if items.isEmpty then [left, right]
  else
    let lines := items.map fun item => '\n' :: (indentation (level + 1) ++ item)
    left :: ([','].intercalate lines ++ '\n' :: (indentation level ++ [right]))

mutual

def pretty (level : Nat) : Json → List Char
  | array items => encloseLines level '[' ']' (prettyItems (level + 1) items)
  | object members => encloseLines level '\x7b' '\x7d' (prettyMembers (level + 1) members)
  | j => j.compact

def prettyItems (level : Nat) : List Json → List (List Char)
  | [] => []
  | j :: js => j.pretty level :: prettyItems level js

def prettyMembers (level : Nat) : List (String × Json) → List (List Char)
  | [] => []
  | (name, j) :: js =>
    (writeString name ++ ':' :: ' ' :: j.pretty level) :: prettyMembers level js

end

end SqlTemplate.Json
