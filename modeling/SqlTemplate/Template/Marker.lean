import SqlTemplate.Condition.Parser
import SqlTemplate.Template.Node

namespace SqlTemplate

inductive Block where
  | optional
  | test (t : Test)
  | loop (name : String) (collection : Path)
  | first
  | last
deriving DecidableEq

inductive Directive where
  | opens (block : Block)
  | otherwise
  | closes
  | next (sql : Option String)
deriving DecidableEq

inductive Marker where
  | directive (d : Directive)
  | slot (embedded : Bool) (path : Path) (options : Options)
deriving DecidableEq

inductive Malformed where
  | missingArgument
  | invalidAlias (name : String)
  | path (error : PathError)
  | option (error : OptionError)
  | likeInEmbedded
  | unquotedNext
deriving DecidableEq, Repr

def Malformed.message : Malformed → String
  | missingArgument => "missing argument"
  | invalidAlias name => "invalid loop alias '" ++ name ++ "'"
  | path error => error.message
  | option error => error.message
  | likeInEmbedded => "like options apply to bind variables only"
  | unquotedNext => "NEXT expects a quoted literal"

inductive MarkerError where
  | malformed (reason : Malformed)
  | condition (source : String) (error : Condition.ParseError)
deriving DecidableEq

namespace Marker

def argument? (keyword : String) (body : List Char) : Option (List Char) :=
  ((keyword ++ " ").toList.isPrefixOf? body).map Text.trim

def singleQuotes : List Char → List Char
  | '\'' :: '\'' :: cs => '\'' :: singleQuotes cs
  | c :: cs => c :: singleQuotes cs
  | [] => []

def unquote? : List Char → Option String
  | '\'' :: cs =>
    if cs.getLast? = some '\'' then some (String.ofList (singleQuotes cs.dropLast)) else none
  | _ => none

def parseTest (argument : List Char) : Except MarkerError Directive :=
  let source := String.ofList argument
  match Condition.parse source with
  | .ok expr => .ok (.opens (.test ⟨source, expr⟩))
  | .error e => .error (.condition source e)

def parseLoop (argument : List Char) : Except MarkerError Directive :=
  let (name, path) :=
    match Text.cutAt? ':' argument with
    | some (name, path) => (Text.trim name, Text.trim path)
    | none => (currentAlias.toList, argument)
  if name ≠ currentAlias.toList ∧ !isIdentifier name then
    .error (.malformed (.invalidAlias (String.ofList name)))
  else
    match Path.parse (String.ofList path) with
    | .ok collection => .ok (.opens (.loop (String.ofList name) collection))
    | .error e => .error (.malformed (.path e))

def parseVariable (embedded : Bool) (text : List Char) : Except MarkerError Marker :=
  let (path, options) := (Text.cutAt? ':' text).map (fun r => (r.1, some r.2)) |>.getD (text, none)
  match Path.parse (String.ofList (Text.trim path)) with
  | .error e => .error (.malformed (.path e))
  | .ok path =>
    match (options.map Options.parse).getD (.ok {}) with
    | .error e => .error (.malformed (.option e))
    | .ok options =>
      if embedded ∧ options.like.isSome then .error (.malformed .likeInEmbedded)
      else .ok (.slot embedded path options)

def keyword? (body : String) : Option Directive :=
  [("BEGIN", Directive.opens .optional), ("END", .closes), ("ELSE", .otherwise),
   ("FIRST", .opens .first), ("LAST", .opens .last)].lookup body

def parse (body : List Char) : Except MarkerError Marker :=
  let text := String.ofList body
  match keyword? text with
  | some d => .ok (.directive d)
  | none =>
    if text = "IF" ∨ text = "FOR" ∨ text = "NEXT" then .error (.malformed .missingArgument)
    else
      match argument? "IF" body, argument? "FOR" body, argument? "NEXT" body with
      | some argument, _, _ => (parseTest argument).map .directive
      | _, some argument, _ => (parseLoop argument).map .directive
      | _, _, some argument => .ok (.directive (.next (unquote? argument)))
      | none, none, none =>
        match body with
        | '$' :: rest => parseVariable true rest
        | body => parseVariable false body

end Marker
end SqlTemplate
