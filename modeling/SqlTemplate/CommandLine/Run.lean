import SqlTemplate.CommandLine.Arguments
import SqlTemplate.CommandLine.Job
import SqlTemplate.Manual.Topic

namespace SqlTemplate.CommandLine

structure Sources (m : Type → Type) where
  /-- Standard input, unless someone would have to type it. -/
  input : m (Option String)
  file : String → m (Except FileError String)

def Layout.text : Layout → Statement → String
  | json, s => s.json
  | prettyJson, s => s.prettyJson
  | display, s => s.display

variable {m : Type → Type} [Monad m]

def Sources.settings (sources : Sources m) : Option String → m (Except Failure Settings)
  | none => return .ok {}
  | some path =>
    return match ← sources.file path with
      | .ok text => (Settings.ofText text).mapError .settings
      | .error error => .error (.settingsFile error)

def RenderArguments.job (sources : Sources m) (a : RenderArguments) : m (Except Failure Job) := do
  let params ← match a.params with
    | some text => pure (some text)
    | none => sources.input
  let settings ← sources.settings a.config
  return do
    let settings ← settings
    let types ← a.types.mapM Declaration.parse
    return ⟨a.template, params, settings, a.rootName, types⟩

def Command.output (sources : Sources m) : Command → m (Except Failure String)
  | render a => do
    let job ← a.job sources
    return do return a.layout.text (← (← job).statement) ++ "\n"
  | check template => return do
    return "Syntax is valid (" ++ toString (← nodeCount template) ++ " nodes)\n"
  | overview => return .ok Manual.overview
  | topic name => return match Manual.Topic.ofName? name with
    | some t => .ok t.text
    | none => .error (.unknownTopic name)

structure Outcome where
  exitCode : UInt32
  out : String := ""
  err : String := ""

def versionText : String := "twoway 0.2.0\n"

def usageText : String :=
  "Usage: twoway render [OPTIONS] <TEMPLATE> | check <TEMPLATE> | docs | doc <CATEGORY>\n"

def Stop.outcome : Stop → Outcome
  | misuse => ⟨2, "", usageText⟩
  | help => ⟨0, usageText, ""⟩
  | version => ⟨0, versionText, ""⟩

def run (sources : Sources m) (args : List String) : m Outcome :=
  match Command.parse args with
  | .error stop => return stop.outcome
  | .ok command => return match ← command.output sources with
    | .ok text => ⟨0, text, ""⟩
    | .error failure => ⟨1, "", failure.message ++ "\n"⟩

end SqlTemplate.CommandLine
