import SqlTemplate.Json.Reader
import SqlTemplate.Settings

namespace SqlTemplate.Settings

inductive ReadError where
  | json
  | invalid (error : SettingsError)
deriving DecidableEq, Repr

def ReadError.message : ReadError → String
  | json => "invalid config JSON: the text holds no settings"
  | invalid error => error.message

def fieldNames : List String := ["root_name", "connectors", "like_escape", "declared_types"]

def stringOf? : Json → Option String
  | .string s => some s
  | _ => none

def charOf? : Json → Option Char
  | .string s => match s.toList with
    | [c] => some c
    | _ => none
  | _ => none

def typeOf? : Json → Option ValueType
  | .string name => ValueType.ofName? name
  | .object [(name, .null)] => ValueType.ofName? name
  | _ => none

def stringsOf? : Json → Option (List String)
  | .array items => items.mapM stringOf?
  | _ => none

def declaredOf? : Json → Option (Entries ValueType)
  | .object members =>
    (members.mapM fun m => (typeOf? m.2).map fun t => (m.1, t)).map Entries.ofList
  | _ => none

def setField? (s : Settings) (field : String × Json) : Option Settings :=
  match field with
  | ("root_name", j) => (stringOf? j).map ({ s with rootName := · })
  | ("connectors", j) => (stringsOf? j).map ({ s with connectors := · })
  | ("like_escape", j) => (charOf? j).map ({ s with likeEscape := · })
  | ("declared_types", j) => (declaredOf? j).map ({ s with declared := · })
  | _ => some s

def ofJson? : Json → Option Settings
  | .object members =>
    let given := (members.map Prod.fst).filter fieldNames.contains
    if given.Nodup then members.foldlM setField? {} else none
  | .array items =>
    if items.length ≤ fieldNames.length then (fieldNames.zip items).foldlM setField? {} else none
  | _ => none

def ofText (text : String) : Except ReadError Settings :=
  match (Json.parse? text).bind ofJson? with
  | none => .error .json
  | some s => (s.check.mapError .invalid).map fun _ => s

end SqlTemplate.Settings
