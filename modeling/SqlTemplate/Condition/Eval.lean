import SqlTemplate.Condition.Parser
import SqlTemplate.Scope
import SqlTemplate.Text.Uppercase

namespace SqlTemplate.Condition

inductive BooleanPlace where
  | condition
  | notOperand
  | leftOfAnd
  | rightOfAnd
  | leftOfOr
  | rightOfOr
  | answer (target : Path) (method : String)
deriving DecidableEq, Repr

def BooleanPlace.text : BooleanPlace → String
  | condition => "condition"
  | notOperand => "operand of '!'"
  | leftOfAnd => "left operand of '&&'"
  | rightOfAnd => "right operand of '&&'"
  | leftOfOr => "left operand of '||'"
  | rightOfOr => "right operand of '||'"
  | answer target method => target.text ++ "." ++ method ++ "()"

inductive TypeError where
  | notBoolean (place : BooleanPlace) (type : Option ValueType)
  | notComparable (left right : Option ValueType)
  | notOrdered (left right : Option ValueType) (op : Comparison)
  | callOnNull (method : String) (target : Path)
deriving DecidableEq, Repr

def TypeError.message : TypeError → String
  | notBoolean place type => place.text ++ " must be boolean, got " ++ typeNameOf type
  | notComparable left right =>
    "cannot compare " ++ typeNameOf left ++ " with " ++ typeNameOf right
  | notOrdered left right op =>
    "cannot order " ++ typeNameOf left ++ " and " ++ typeNameOf right ++ " with '" ++
      op.symbol ++ "'"
  | callOnNull method target =>
    "cannot call " ++ method ++ "() on null at '" ++ target.text ++ "'"

inductive EvalError where
  | parse (error : ParseError)
  | resolve (error : ResolveError)
  | type (error : TypeError)
  | unknownMethod (method : String) (type : Option ValueType) (target : Path)
deriving DecidableEq

def EvalError.message : EvalError → String
  | parse error => "syntax error: " ++ error.message
  | resolve error => error.message
  | type error => "type error: " ++ error.message
  | unknownMethod method found target =>
    "unknown method " ++ method ++ "() on " ++ typeNameOf found ++ " at '" ++ target.text ++ "'"

def expectBool (place : BooleanPlace) : Value → Except EvalError Bool
  | .boolean b => .ok b
  | v => .error (.type (.notBoolean place v.type?))

/-- Null equals null alone. Numbers are compared by value, and a number that no decimal comes close
to equals none. All other values must be of the same type. -/
def valuesEqual (a b : Value) : Except EvalError Bool :=
  if a.isNull || b.isNull then .ok (a.isNull && b.isNull)
  else if a.isNumeric && b.isNumeric then
    match a.decimal?, b.decimal? with
    | some x, some y => .ok (x.compare y == .eq)
    | _, _ => .ok false
  else if a.type? = b.type? then .ok (a.same b)
  else .error (.type (.notComparable a.type? b.type?))

def valuesOrder? : Value → Value → Option Ordering
  | .string s, .string t => some (compare s t)
  | a, b => do return (← a.decimal?).compare (← b.decimal?)

def Comparison.holds (op : Comparison) (a b : Value) : Except EvalError Bool :=
  match op with
  | .equal => valuesEqual a b
  | .notEqual => (valuesEqual a b).map (!·)
  | op =>
    match valuesOrder? a b with
    | none => .error (.type (.notOrdered a.type? b.type? op))
    | some order =>
      .ok (match op with
        | .less => order == .lt
        | .greater => order == .gt
        | .lessEqual => order != .gt
        | _ => order != .lt)

def questionSubject? (method : String) : Option (List Char) :=
  match method.toList with
  | 'i' :: 's' :: rest => some rest
  | 'h' :: 'a' :: 's' :: rest => some rest
  | _ => none

def questionProperty? (method : String) : Option String :=
  match questionSubject? method with
  | some (c :: rest) =>
    if Text.isUppercase c then some (String.ofList (Text.lowerChar c ++ rest)) else none
  | _ => none

def answer? (method : String) (properties : List (String × Value)) : Option Value := do
  let property ← questionProperty? method
  (Entries.find? method properties).or (Entries.find? property properties)

def isEmpty? : Value → Option Bool
  | .string s => some s.isEmpty
  | .list items => some items.isEmpty
  | .map entries => some entries.isEmpty
  | _ => none

def evalCall (target : Path) (method : String) (v : Value) : Except EvalError Bool :=
  match v with
  | .null => .error (.type (.callOnNull method target))
  | .bean _ properties =>
    match answer? method properties with
    | some w => expectBool (.answer target method) w
    | none => .error (.unknownMethod method v.type? target)
  | v =>
    match isEmpty? v, method with
    | some b, "isEmpty" => .ok b
    | some b, "isNotEmpty" => .ok !b
    | _, _ => .error (.unknownMethod method v.type? target)

def lookUp (scope : Scope) (p : Path) : Except EvalError Value :=
  match scope.resolve p with
  | .ok r => .ok r.value
  | .error e => .error (.resolve e)

namespace Expr

def eval (scope : Scope) : Expr → Except EvalError Value
  | float x => .ok (.float x)
  | integer n => .ok (.integer n)
  | string s => .ok (.string s)
  | boolean b => .ok (.boolean b)
  | null => .ok .null
  | path p => lookUp scope p
  | call target method => do
    let v ← lookUp scope target
    return .boolean (← evalCall target method v)
  | not e => do
    let v ← e.eval scope
    return .boolean !(← expectBool .notOperand v)
  | and l r => do
    let a ← l.eval scope
    if ← expectBool .leftOfAnd a then
      let b ← r.eval scope
      return .boolean (← expectBool .rightOfAnd b)
    else return .boolean false
  | or l r => do
    let a ← l.eval scope
    if ← expectBool .leftOfOr a then return .boolean true
    else
      let b ← r.eval scope
      return .boolean (← expectBool .rightOfOr b)
  | compare op l r => do
    let a ← l.eval scope
    let b ← r.eval scope
    return .boolean (← op.holds a b)

def holds (scope : Scope) (e : Expr) : Except EvalError Bool := do
  expectBool .condition (← e.eval scope)

end Expr

def evaluate (params : Params) (source : String) : Except EvalError Bool :=
  match parse source with
  | .ok e => e.holds ⟨params, []⟩
  | .error e => .error (.parse e)

end SqlTemplate.Condition
