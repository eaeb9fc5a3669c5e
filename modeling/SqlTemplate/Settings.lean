import SqlTemplate.Path
import SqlTemplate.Text.Blank
import SqlTemplate.Value.Entries
import SqlTemplate.Value.Type

namespace SqlTemplate

structure Settings where
  rootName : String := "pmb"
  /-- The words that the first part of an optional part does without. -/
  connectors : List String := ["AND", "OR"]
  likeEscape : Char := '|'
  declared : Entries ValueType := []

inductive SettingsError where
  | rootName (name : String)
  | connector (word : String)
  | likeEscape (c : Char)
deriving DecidableEq, Repr

def SettingsError.message : SettingsError → String
  | rootName name => "invalid root parameter name '" ++ name ++ "'"
  | connector word => "invalid connector keyword '" ++ word ++ "'"
  | likeEscape c => "invalid LIKE escape character '" ++ c.toString ++ "'"

namespace Settings

def isEscape (c : Char) : Bool := !(['%', '_', '\'', '?'].contains c || Text.isBlank c)

def problem? (s : Settings) : Option SettingsError :=
  if !isIdentifier s.rootName.toList then some (.rootName s.rootName)
  else
    match s.connectors.find? fun word => !isIdentifier word.toList with
    | some word => some (.connector word)
    | none => if isEscape s.likeEscape then none else some (.likeEscape s.likeEscape)

def check (s : Settings) : Except SettingsError Unit :=
  match s.problem? with
  | some e => .error e
  | none => .ok ()

end Settings
end SqlTemplate
