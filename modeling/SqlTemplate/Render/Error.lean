import SqlTemplate.Condition.Eval

namespace SqlTemplate

inductive Use where
  | bound
  | boundElement
  | likeSearch
  | embedded
  | embeddedElement
deriving DecidableEq, Repr

def Use.text : Use → String
  | bound => "bound"
  | boundElement => "bound as a list element"
  | likeSearch => "used for a LIKE search"
  | embedded => "embedded"
  | embeddedElement => "embedded as a list element"

inductive RenderError where
  | resolve (error : ResolveError)
  | condition (source : String) (error : Condition.EvalError)
  | nullBind (path : Path)
  | noElements (path : Path)
  | placeholderInValue (path : Path) (sql : String)
  | notACollection (path : Path) (type : Option ValueType)
  | unsupported (path : Path) (type : Option ValueType) (use : Use)
deriving DecidableEq

def RenderError.message : RenderError → String
  | resolve error => error.message
  | condition source error => "condition '" ++ source ++ "' failed: " ++ error.message
  | nullBind path =>
    "bind variable '" ++ path.text ++ "' resolved to null (use the 'nullable' option to allow it)"
  | noElements path => "collection '" ++ path.text ++ "' is empty or contains only nulls"
  | placeholderInValue path sql =>
    "value of '" ++ path.text ++ "' contains a bare '?': " ++ sql
  | notACollection path type =>
    "'" ++ path.text ++ "' is not a collection (got " ++ typeNameOf type ++ ")"
  | unsupported path type use =>
    "'" ++ path.text ++ "' holds a " ++ typeNameOf type ++ " value, which cannot be " ++ use.text

end SqlTemplate
