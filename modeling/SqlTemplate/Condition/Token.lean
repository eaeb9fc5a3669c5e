import SqlTemplate.Number.FloatText
import SqlTemplate.Text.Quoted

namespace SqlTemplate.Condition

inductive Token where
  | float (x : Float)
  | integer (n : Int64)
  | string (s : String)
  | boolean (b : Bool)
  | null
  | identifier (name : String)
  | equal
  | notEqual
  | less
  | greater
  | lessEqual
  | greaterEqual
  | and
  | or
  | not
  | openParen
  | closeParen
  | dot
  | endOfInput
deriving DecidableEq

namespace Token

def kind : Token → String
  | float _ => "Float"
  | integer _ => "Integer"
  | string _ => "String"
  | boolean _ => "Boolean"
  | null => "Null"
  | identifier _ => "Identifier"
  | equal => "EqEq"
  | notEqual => "NotEq"
  | less => "Lt"
  | greater => "Gt"
  | lessEqual => "LtEq"
  | greaterEqual => "GtEq"
  | and => "And"
  | or => "Or"
  | not => "Exclamation"
  | openParen => "LParen"
  | closeParen => "RParen"
  | dot => "Dot"
  | endOfInput => "Eof"

def content? : Token → Option String
  | float x => some (Number.markedFloat x)
  | integer n => some (Number.integerText n.toInt)
  | string s => some (Text.quoted s)
  | boolean b => some (if b then "true" else "false")
  | identifier name => some (Text.quoted name)
  | _ => none

def describe (t : Token) : String :=
  match t.content? with
  | some content => t.kind ++ "(" ++ content ++ ")"
  | none => t.kind

def keyword? (word : String) : Option Token :=
  [("and", and), ("or", or), ("true", boolean true), ("false", boolean false),
   ("null", null)].lookup word

end Token
end SqlTemplate.Condition
