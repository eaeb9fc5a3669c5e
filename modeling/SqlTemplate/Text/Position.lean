namespace SqlTemplate

structure Position where
  offset : Nat
  line : Nat
  column : Nat
deriving DecidableEq, Repr

namespace Position

def start : Position := ⟨0, 1, 1⟩

def advance (p : Position) (c : Char) : Position :=
  if c = '\n' then ⟨p.offset + c.utf8Size, p.line + 1, 1⟩
  else ⟨p.offset + c.utf8Size, p.line, p.column + 1⟩

def advanceTo (offset : Nat) (p : Position) : List Char → Position
  | [] => p
  | c :: cs => if p.offset + c.utf8Size ≤ offset then advanceTo offset (p.advance c) cs else p

def locate (text : String) (offset : Nat) : Position := advanceTo offset start text.toList

def before (text rest : List Char) : Position :=
  (text.take (text.length - rest.length)).foldl advance start

def describe (p : Position) : String :=
  "line " ++ toString p.line ++ ", column " ++ toString p.column

end Position
end SqlTemplate
