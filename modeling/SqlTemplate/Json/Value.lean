import SqlTemplate.Json.Basic
import SqlTemplate.Json.Numeral
import SqlTemplate.Json.Reader
import SqlTemplate.Json.Writer
import SqlTemplate.Sql.Statement

namespace SqlTemplate

def integerLimit : Nat := 0x8000000000000000

def Value.ofNumeral? (n : Json.Numeral) : Option Value :=
  let whole := Number.ofDigits n.whole
  if n.isFloat || Json.Numeral.maxUnsigned < whole then n.float?.map .float
  else if n.negative then
    if whole = 0 || integerLimit < whole then some (.float (-(Float.ofNat whole)))
    else some (.integer (.ofInt (-whole)))
  else if whole < integerLimit then some (.integer (.ofNat whole))
  else some (.decimal (Decimal.ofInt whole))

namespace Value

mutual

def ofJson? : Json → Option Value
  | .null => some .null
  | .bool b => some (.boolean b)
  | .number text => ofNumeral? (.ofText text.toList)
  | .string s => some (.string s)
  | .array items => (ofItems? items).map .list
  | .object members => (ofMembers? members).map fun pairs => .map (Entries.ofList pairs)
  | .meaningless => none

def ofItems? : List Json → Option (List Value)
  | [] => some []
  | j :: js => do return (← ofJson? j) :: (← ofItems? js)

def ofMembers? : List (String × Json) → Option (List (String × Value))
  | [] => some []
  | (name, j) :: js => do return (name, ← ofJson? j) :: (← ofMembers? js)

end

def maxDepth : Nat := 127

def ofJsonText? (text : String) : Option Value := do
  let j ← Json.parse? text
  if j.depth ≤ maxDepth then ofJson? j else none

mutual

def toJson : Value → Json
  | .null => .null
  | .boolean b => .bool b
  | .integer n => .number (Number.integerText n.toInt)
  | .float x => if x.isFinite then .number (Number.plainFloat x) else .null
  | .decimal d => .number d.text
  | .string s => .string s
  | .list items => .array (itemsToJson items)
  | .map entries => .object (entriesToJson entries)
  | .bean _ properties => .object (entriesToJson properties)

def itemsToJson : List Value → List Json
  | [] => []
  | v :: vs => v.toJson :: itemsToJson vs

def entriesToJson : List (String × Value) → List (String × Json)
  | [] => []
  | (name, v) :: rest => (name, v.toJson) :: entriesToJson rest

end

end Value

def Bind.toJson (b : Bind) : Json :=
  .object [("type", .string b.type.name), ("value", b.value.toJson)]

namespace Statement

def toJson (s : Statement) : Json :=
  .object [("sql", .string s.sql), ("bind_values", .array (s.binds.map Bind.toJson))]

def json (s : Statement) : String := String.ofList s.toJson.compact

def prettyJson (s : Statement) : String := String.ofList (s.toJson.pretty 0)

end Statement
end SqlTemplate
