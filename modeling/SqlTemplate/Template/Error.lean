import SqlTemplate.Template.Marker
import SqlTemplate.Text.Position

namespace SqlTemplate

inductive Fault where
  | unterminatedComment
  | unterminatedLiteral (fragment : String)
  | unterminatedBlock (directive : String)
  | unexpectedEnd
  | misplacedElse
  | repeatedElse
  | outsideLoop (directive : String)
  | malformedMarker (body : String) (reason : Malformed)
  | placeholderInText
  | placeholderInTestValue (value : String)
  | invalidCondition (source : String) (error : Condition.ParseError)
deriving DecidableEq

/-- Something at the place in a text from which `here` is what remains. -/
structure Placed (α : Type) where
  here : List Char
  item : α
deriving DecidableEq

structure SyntaxError where
  fault : Fault
  position : Position
deriving DecidableEq

def SyntaxError.message (e : SyntaxError) : String :=
  let place := " at " ++ e.position.describe
  match e.fault with
  | .unterminatedComment => "unterminated comment" ++ place
  | .unterminatedLiteral fragment => "unterminated literal '" ++ fragment ++ "'" ++ place
  | .unterminatedBlock directive =>
    "/*" ++ directive ++ "*/" ++ place ++ " is never closed by /*END*/"
  | .unexpectedEnd => "/*END*/" ++ place ++ " has no open block"
  | .misplacedElse =>
    "misplaced ELSE" ++ place ++ ": ELSE must appear directly inside an IF block"
  | .repeatedElse => "misplaced ELSE" ++ place ++ ": IF block already has an ELSE"
  | .outsideLoop directive =>
    "/*" ++ directive ++ "*/" ++ place ++ " is only allowed inside a FOR block"
  | .malformedMarker body reason =>
    "malformed marker /*" ++ body ++ "*/" ++ place ++ ": " ++ reason.message
  | .placeholderInText =>
    "bare '?'" ++ place ++ ": placeholders come from bind variables only"
  | .placeholderInTestValue value =>
    "test value '" ++ value ++ "'" ++ place ++ " contains a bare '?'"
  | .invalidCondition source error =>
    "invalid condition '" ++ source ++ "'" ++ place ++ ": " ++ error.message

def MarkerError.fault (body : List Char) : MarkerError → Fault
  | malformed reason => .malformedMarker (String.ofList body) reason
  | condition source error => .invalidCondition source error

end SqlTemplate
