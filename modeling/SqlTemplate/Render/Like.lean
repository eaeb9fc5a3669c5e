import SqlTemplate.Template.Options

namespace SqlTemplate.Like

def escape (escapeChar : Char) : List Char → List Char
  | [] => []
  | c :: cs =>
    if c = escapeChar ∨ c = '%' ∨ c = '_' then escapeChar :: c :: escape escapeChar cs
    else c :: escape escapeChar cs

def surround (mode : LikeMode) (text : List Char) : List Char :=
  match mode with
  | .atStart => text ++ ['%']
  | .atEnd => '%' :: text
  | .anywhere => '%' :: (text ++ ['%'])

def pattern (escapeChar : Char) (mode : LikeMode) (escaped : Bool) (text : String) : String :=
  String.ofList (surround mode (if escaped then escape escapeChar text.toList else text.toList))

def escapeClause (escapeChar : Char) : String := " escape '" ++ escapeChar.toString ++ "'"

end SqlTemplate.Like
