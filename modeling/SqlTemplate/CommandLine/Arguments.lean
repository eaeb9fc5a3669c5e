import SqlTemplate.Text.Pieces

namespace SqlTemplate.CommandLine

inductive Layout where
  | json
  | prettyJson
  | display
deriving DecidableEq, Repr

structure RenderArguments where
  template : String
  params : Option String
  config : Option String
  rootName : Option String
  types : List String
  layout : Layout

inductive Command where
  | render (arguments : RenderArguments)
  | check (template : String)
  | overview
  | topic (name : String)

inductive Stop where
  | misuse
  | help
  | version
deriving DecidableEq, Repr

inductive Argument where
  | operand (text : String)
  | terminator
  | option (name : String) (value : Option String)

def Argument.ofText (text : String) : Argument :=
  match text.toList with
  | ['-', '-'] => .terminator
  | '-' :: '-' :: cs =>
    match Text.cutAt? '=' cs with
    | some (name, value) => .option ("--" ++ String.ofList name) (some (String.ofList value))
    | none => .option text none
  | ['-', _] => .option text none
  | '-' :: letter :: cs =>
    let value := match cs with
      | '=' :: value => value
      | value => value
    .option (String.ofList ['-', letter]) (some (String.ofList value))
  | _ => .operand text

def Argument.isOperand : Argument → Bool
  | operand _ => true
  | _ => false

inductive Flag where
  | params
  | config
  | rootName
  | type
  | pretty
  | display
deriving DecidableEq, Repr

namespace Flag

def names : List (String × Flag) :=
  [("--params", params), ("-p", params), ("--config", config), ("-c", config),
   ("--root-name", rootName), ("--type", type), ("-t", type), ("--pretty", pretty),
   ("--display", display)]

def ofName? (name : String) : Option Flag := names.lookup name

def takesValue : Flag → Bool
  | pretty | display => false
  | _ => true

def repeats (flag : Flag) : Bool := flag = type

def admits (flag : Flag) (value : String) : Bool := !(flag = config && value.isEmpty)

end Flag

structure Form where
  operands : Nat
  flags : List Flag

structure Given where
  operands : List String := []
  flags : List (Flag × String) := []

namespace Given

def has (given : Given) (flag : Flag) : Bool := given.flags.any (·.1 = flag)

def value? (given : Given) (flag : Flag) : Option String := given.flags.lookup flag

def values (given : Given) (flag : Flag) : List String :=
  (given.flags.filter (·.1 = flag)).map Prod.snd

def addOperand (form : Form) (given : Given) (text : String) : Except Stop Given :=
  if given.operands.length < form.operands then
    .ok { given with operands := given.operands ++ [text] }
  else .error .misuse

def addFlag (given : Given) (flag : Flag) (value : String) : Except Stop Given :=
  if (given.has flag && !flag.repeats) || !flag.admits value then .error .misuse
  else .ok { given with flags := given.flags ++ [(flag, value)] }

/-- Reads from left to right, so that the first thing that stops it decides. The argument behind a
flag that takes a value is the value, unless one is attached. -/
def read (form : Form) (given : Given) : List String → Except Stop Given
  | [] => .ok given
  | arg :: rest => do
    match Argument.ofText arg with
    | .operand text => (← given.addOperand form text).read form rest
    | .terminator => rest.foldlM (addOperand form) given
    | .option "-h" _ | .option "--help" none => .error .help
    | .option name attached =>
      match (Flag.ofName? name).filter form.flags.contains with
      | none => .error .misuse
      | some flag =>
        match flag.takesValue, attached, rest with
        | true, some value, rest => (← given.addFlag flag value).read form rest
        | true, none, value :: rest =>
          if (Argument.ofText value).isOperand then (← given.addFlag flag value).read form rest
          else .error .misuse
        | false, none, rest => (← given.addFlag flag "").read form rest
        | _, _, _ => .error .misuse

def layout (given : Given) : Layout :=
  if given.has .display then .display else if given.has .pretty then .prettyJson else .json

end Given

def renderForm : Form := ⟨1, [.params, .config, .rootName, .type, .pretty, .display]⟩

def readRender (args : List String) : Except Stop Command := do
  let given ← Given.read renderForm {} args
  match given.operands with
  | [template] =>
    return .render ⟨template, given.value? .params, given.value? .config, given.value? .rootName,
      given.values .type, given.layout⟩
  | _ => throw .misuse

def readOperand (command : String → Command) (args : List String) : Except Stop Command := do
  match (← Given.read ⟨1, []⟩ {} args).operands with
  | [text] => return command text
  | _ => throw .misuse

def commands : List (String × (List String → Except Stop Command)) :=
  [("render", readRender), ("check", readOperand .check),
   ("docs", fun args => (Given.read ⟨0, []⟩ {} args).map fun _ => .overview),
   ("doc", readOperand .topic)]

def readHelp : List String → Stop
  | [] => .help
  | [name] => if name = "help" || (commands.lookup name).isSome then .help else .misuse
  | _ => .misuse

def Command.parse : List String → Except Stop Command
  | [] => .error .misuse
  | arg :: rest =>
    match Argument.ofText arg with
    | .option "-V" _ | .option "--version" none => .error .version
    | .option "-h" _ | .option "--help" none => .error .help
    | .operand "help" => .error (readHelp rest)
    | .operand name =>
      match commands.lookup name with
      | some read => read rest
      | none => .error .misuse
    | _ => .error .misuse

end SqlTemplate.CommandLine
