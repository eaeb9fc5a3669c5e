import SqlTemplate.Sql.Literal
import SqlTemplate.Sql.Zone

namespace SqlTemplate

structure Bind where
  value : Value
  type : ValueType

structure Statement where
  sql : String
  binds : List Bind

namespace Statement

def placeholderCount (s : Statement) : Nat := Sql.placeholderCount s.sql.toList

def display (s : Statement) : String :=
  let literals := s.binds.map fun b => (Sql.literal b.value).toList
  String.ofList (Sql.Zone.code.fill literals s.sql.toList)

end Statement
end SqlTemplate
