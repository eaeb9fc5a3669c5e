import SqlTemplate.Condition.Expr
import SqlTemplate.Condition.Stream

/-!
Conditions from their tokens. From loose to tight bind `||`, `&&`, `!` and the comparisons, which do
not chain.
-/
namespace SqlTemplate.Condition

inductive Expected where
  | operand
  | propertyName
  | closeParen
  | endOfInput
deriving DecidableEq, Repr

def Expected.text : Expected → String
  | operand => "literal, path or '('"
  | propertyName => "property name after '.'"
  | closeParen => Token.closeParen.describe
  | endOfInput => Token.endOfInput.describe

inductive ParseError where
  | lex (error : LexError)
  | unexpectedToken (expected : Expected) (found : Token) (position : Nat)
  | invalidPath (path : String) (reason : PathError)
deriving DecidableEq

def ParseError.message : ParseError → String
  | lex error => error.message
  | unexpectedToken expected found position =>
    "expected " ++ expected.text ++ ", got " ++ found.describe ++ " at position " ++
      toString position
  | invalidPath path reason => "invalid property path '" ++ path ++ "': " ++ reason.message

def Stream.unexpected (expected : Expected) : Stream → ParseError
  | broken e => .lex e
  | ended position => .unexpectedToken expected .endOfInput position
  | token t position _ => .unexpectedToken expected t position

abbrev Parsed := Except ParseError (Expr × Stream)

abbrev Parser := Stream → Parsed

def pathOf (names : List String) : Except ParseError Path :=
  let text := ".".intercalate names
  (Path.parse text).mapError (.invalidPath text)

def endPath (names : List String) (build : Path → Expr) (s : Stream) : Parsed :=
  match s with
  | .broken e => .error (.lex e)
  | s => (pathOf names).map fun p => (build p, s)

def pathTail (names : List String) : Stream → Parsed
  | .token .dot _ (.token (.identifier name) _ rest) =>
    match rest with
    | .token .openParen _ (.token .closeParen _ rest) => endPath names (.call · name) rest
    | .token .openParen _ rest => .error (rest.unexpected .closeParen)
    | rest => pathTail (names ++ [name]) rest
  | .token .dot _ (.token (.integer n) position rest) =>
    if 0 ≤ n then pathTail (names ++ [Number.integerText n.toInt]) rest
    else .error (.unexpectedToken .propertyName (.integer n) position)
  | .token .dot _ rest => .error (rest.unexpected .propertyName)
  | s => endPath names .path s

def parenthesised (inner : Parser) (s : Stream) : Parsed := do
  let (e, s) ← inner s
  match s with
  | .token .closeParen _ rest => return (e, rest)
  | s => throw (s.unexpected .closeParen)

def primary (inner : Parser) : Parser
  | .token (.float x) _ rest => .ok (.float x, rest)
  | .token (.integer n) _ rest => .ok (.integer n, rest)
  | .token (.string text) _ rest => .ok (.string text, rest)
  | .token (.boolean b) _ rest => .ok (.boolean b, rest)
  | .token .null _ rest => .ok (.null, rest)
  | .token .openParen _ rest => parenthesised inner rest
  | .token (.identifier name) _ rest => pathTail [name] rest
  | s => .error (s.unexpected .operand)

def comparison (operand : Parser) (s : Stream) : Parsed := do
  let (left, s) ← operand s
  match s with
  | .token t _ rest =>
    match Comparison.ofToken? t with
    | some op =>
      let (right, s) ← operand rest
      return (.compare op left right, s)
    | none => return (left, s)
  | s => return (left, s)

def negation (operand : Parser) : Parser
  | .token .not _ rest => do
    let (e, s) ← negation operand rest
    return (.not e, s)
  | s => operand s

def operandsAfter (t : Token) (join : Expr → Expr → Expr) (operand : Parser) :
    (bound : Nat) → Expr → Parser
  | 0, left, s => .ok (left, s)
  | bound + 1, left, s =>
    match s with
    | .token u _ rest =>
      if u = t then do
        let (right, s) ← operand rest
        operandsAfter t join operand bound (join left right) s
      else .ok (left, s)
    | s => .ok (left, s)

/-- Operands with the token `t` between them, joined from the left. A stream has fewer operands than
tokens. -/
def chain (t : Token) (join : Expr → Expr → Expr) (operand : Parser) (s : Stream) : Parsed := do
  let (left, s) ← operand s
  operandsAfter t join operand s.length left s

/-- An expression with at most `depth` parentheses open at a time. -/
def expression : (depth : Nat) → Parser
  | 0, s => .error (s.unexpected .operand)
  | depth + 1, s =>
    chain .or .or (chain .and .and (negation (comparison (primary (expression depth))))) s

def Stream.parse (s : Stream) : Except ParseError Expr := do
  let (e, s) ← expression (s.length + 1) s
  match s with
  | .ended _ => return e
  | s => throw (s.unexpected .endOfInput)

def parse (source : String) : Except ParseError Expr := (Stream.scan (.start source)).parse

end SqlTemplate.Condition
