import SqlTemplate.Text.Lowercase

namespace SqlTemplate

inductive ValueType where
  | object
  | boolean
  | integer
  | float
  | decimal
  | string
  | list
  | map
  | bean
deriving DecidableEq, Repr

structure UnknownType where
  lower : String
deriving DecidableEq, Repr

def UnknownType.message (e : UnknownType) : String := "unknown type tag: " ++ e.lower

namespace ValueType

def name : ValueType → String
  | object => "object"
  | boolean => "boolean"
  | integer => "integer"
  | float => "float"
  | decimal => "decimal"
  | string => "string"
  | list => "list"
  | map => "map"
  | bean => "bean"

def all : List ValueType := [object, boolean, integer, float, decimal, string, list, map, bean]

def ofName? (name : String) : Option ValueType := all.find? fun t => t.name == name

def aliases : List (String × ValueType) :=
  [("bool", boolean), ("int", integer), ("long", integer), ("double", float),
   ("bigdecimal", decimal), ("str", string), ("array", list)]

def parse (text : String) : Except UnknownType ValueType :=
  let lower := String.ofList (Text.lower text.toList)
  match (ofName? lower).or (aliases.lookup lower) with
  | some t => .ok t
  | none => .error ⟨lower⟩

end ValueType

def typeNameOf : Option ValueType → String
  | none => "null"
  | some t => t.name

end SqlTemplate
