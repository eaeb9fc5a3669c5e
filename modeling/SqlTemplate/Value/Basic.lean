import SqlTemplate.Number.FloatDecimal
import SqlTemplate.Number.FloatText
import SqlTemplate.Value.Entries
import SqlTemplate.Value.Type

namespace SqlTemplate

inductive Value where
  | null
  | boolean (b : Bool)
  | integer (n : Int64)
  | float (x : Float)
  | decimal (d : Decimal)
  | string (s : String)
  | list (items : List Value)
  | map (entries : List (String × Value))
  | bean (typeName : String) (properties : List (String × Value))

namespace Value

def type? : Value → Option ValueType
  | null => none
  | boolean _ => some .boolean
  | integer _ => some .integer
  | float _ => some .float
  | decimal _ => some .decimal
  | string _ => some .string
  | list _ => some .list
  | map _ => some .map
  | bean _ _ => some .bean

def typeName (v : Value) : String := typeNameOf v.type?

def isNull (v : Value) : Bool := v.type?.isNone

def isNumeric : Value → Bool
  | integer _ | float _ | decimal _ => true
  | _ => false

def decimal? : Value → Option Decimal
  | integer n => some (Decimal.ofInt n.toInt)
  | float x => Decimal.ofFloat? x
  | decimal d => some d
  | _ => none

def sqlText? : Value → Option String
  | boolean b => some (if b then "true" else "false")
  | integer n => some (Number.integerText n.toInt)
  | float x => some (Number.plainFloat x)
  | decimal d => some d.text
  | string s => some s
  | _ => none

mutual

/-- The same shape with the same leaves: numbers of different types differ, decimals are compared by
value and floats as floats are, so that a value that is not a number differs from itself. -/
def same : Value → Value → Bool
  | null, null => true
  | boolean a, boolean b => a == b
  | integer a, integer b => a == b
  | float a, float b => a == b
  | decimal a, decimal b => a.compare b == .eq
  | string a, string b => a == b
  | list a, list b => sameItems a b
  | map a, map b => sameEntries a b
  | bean s a, bean t b => s == t && sameEntries a b
  | _, _ => false

def sameItems : List Value → List Value → Bool
  | [], [] => true
  | a :: as, b :: bs => same a b && sameItems as bs
  | _, _ => false

def sameEntries : List (String × Value) → List (String × Value) → Bool
  | [], [] => true
  | (j, a) :: as, (k, b) :: bs => j == k && same a b && sameEntries as bs
  | _, _ => false

end

end Value
end SqlTemplate
