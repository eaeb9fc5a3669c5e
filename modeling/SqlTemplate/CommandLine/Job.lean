import SqlTemplate.CommandLine.FileError
import SqlTemplate.Json.Settings
import SqlTemplate.Json.Value
import SqlTemplate.Render.Tree
import SqlTemplate.Template.Outline

namespace SqlTemplate.CommandLine

inductive Failure where
  | template (error : SyntaxError)
  | render (error : RenderError)
  | settings (error : Settings.ReadError)
  | settingsFile (error : FileError)
  | json
  | noParams
  | typeDeclaration (text : String)
  | unknownTopic (name : String)

def Failure.message : Failure → String
  | template error => "Syntax error: " ++ error.message
  | render error => "Render error: " ++ error.message
  | settings error => "Config error: " ++ error.message
  | settingsFile error => "Config error: cannot read config file: " ++ error.message
  | json => "Invalid JSON: the text is not a document"
  | noParams => "No parameters provided. Use --params or pipe JSON to stdin."
  | typeDeclaration text =>
    "Invalid type declaration '" ++ text ++
      "' (expected path=type, e.g. member.birthdate=string)"
  | unknownTopic name =>
    "Unknown category: '" ++ name ++ "'\nRun 'twoway docs' to see available categories."

abbrev Declaration := String × ValueType

def Declaration.parse? (text : String) : Option Declaration := do
  let (path, type) ← Text.cutAt? '=' text.toList
  let path := Text.trim path
  if path.isEmpty then none
  let type ← (ValueType.parse (String.ofList (Text.trim type))).toOption
  return (String.ofList path, type)

def Declaration.parse (text : String) : Except Failure Declaration :=
  match Declaration.parse? text with
  | some declaration => .ok declaration
  | none => .error (.typeDeclaration text)

def nodeCount (template : String) : Except Failure Nat :=
  ((Node.parse template).mapError .template).map Node.count

structure Job where
  template : String
  params : Option String
  settings : Settings := {}
  rootName : Option String := none
  types : List Declaration := []

namespace Job

def fullSettings (job : Job) : Settings :=
  { job.settings with
    rootName := job.rootName.getD job.settings.rootName
    declared := job.types.foldl (fun declared d => declared.insert d.1 d.2) job.settings.declared }

def statement (job : Job) : Except Failure Statement := do
  let root ← (Node.parse job.template).mapError .template
  let some text := job.params | throw .noParams
  let some value := Value.ofJsonText? text | throw .json
  let settings := job.fullSettings
  settings.check.mapError fun e => .settings (.invalid e)
  let params := ⟨settings.rootName, value, fun path => settings.declared.find? path⟩
  (root.evaluate settings params).mapError .render

end Job
end SqlTemplate.CommandLine
