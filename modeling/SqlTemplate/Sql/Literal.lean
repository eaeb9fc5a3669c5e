import SqlTemplate.Value.Basic

namespace SqlTemplate.Sql

def doubleQuotes : List Char → List Char
  | [] => []
  | c :: cs => if c = '\'' then c :: c :: doubleQuotes cs else c :: doubleQuotes cs

def quote (s : String) : String := String.ofList ('\'' :: (doubleQuotes s.toList ++ ['\'']))

def tuple (items : List String) : String := "(" ++ ", ".intercalate items ++ ")"

mutual

def literal : Value → String
  | .null => "null"
  | .string s => quote s
  | .list items => tuple (literals items)
  | .map _ => "<map>"
  | .bean _ _ => "<bean>"
  | v => v.sqlText?.getD ""

def literals : List Value → List String
  | [] => []
  | v :: vs => literal v :: literals vs

end

end SqlTemplate.Sql
