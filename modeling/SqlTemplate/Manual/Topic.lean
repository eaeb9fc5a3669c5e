import SqlTemplate.Manual.Pages
import SqlTemplate.Text.Lowercase

namespace SqlTemplate.Manual

inductive Topic where
  | syntaxRules
  | bindVariables
  | options
  | blocks
  | loops
  | expressions
  | config
deriving DecidableEq, Repr

def textOf (lines : List String) : String := String.join (lines.map (· ++ "\n"))

def overview : String := textOf overviewPage

namespace Topic

def names : List (String × Topic) :=
  [("syntax", syntaxRules), ("variables", bindVariables), ("variable", bindVariables),
   ("binds", bindVariables), ("bind", bindVariables), ("options", options), ("option", options),
   ("like", options), ("blocks", blocks), ("block", blocks), ("if", blocks), ("begin", blocks),
   ("loops", loops), ("loop", loops), ("for", loops), ("expressions", expressions),
   ("expression", expressions), ("conditions", expressions), ("config", config),
   ("configuration", config)]

def ofName? (name : String) : Option Topic :=
  let lower := Text.lower name.toList
  names.lookup (String.ofList (lower.map fun c => if c = '-' then '_' else c))

def text : Topic → String
  | syntaxRules => textOf syntaxPage
  | bindVariables => textOf variablesPage
  | options => textOf optionsPage
  | blocks => textOf blocksPage
  | loops => textOf loopsPage
  | expressions => textOf expressionsPage
  | config => textOf configPage

end Topic
end SqlTemplate.Manual
