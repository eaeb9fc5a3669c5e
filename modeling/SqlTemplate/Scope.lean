import SqlTemplate.Path
import SqlTemplate.Value.Basic

namespace SqlTemplate

structure Params where
  rootName : String
  root : Value
  declared : String → Option ValueType := fun _ => none

structure Iteration where
  name : String
  element : Value
  type : ValueType
  index : Nat
  size : Nat

namespace Iteration

def isFirst (i : Iteration) : Bool := i.index = 0

def isLast (i : Iteration) : Bool := i.index + 1 = i.size

end Iteration

abbrev Loops := List Iteration

def Loops.find? (name : String) (loops : Loops) : Option Iteration :=
  List.find? (fun i => i.name == name) loops

structure Scope where
  params : Params
  loops : Loops

structure Resolved where
  value : Value
  type : ValueType

inductive ResolveError where
  | unknownName (name path rootName : String)
  | propertyNotFound (property typeName path : String)
  | keyNotFound (key path : String)
  | indexOutOfBounds (index size : Nat) (path : String)
  | notNavigable (segment typeName path : String)
deriving DecidableEq, Repr

def ResolveError.message : ResolveError → String
  | unknownName name path rootName =>
    "unknown parameter name '" ++ name ++ "' in '" ++ path ++ "' (expected '" ++ rootName ++
      "' or a loop alias)"
  | propertyNotFound property typeName path =>
    "property '" ++ property ++ "' not found on " ++ typeName ++ " at '" ++ path ++ "'"
  | keyNotFound key path => "key '" ++ key ++ "' not found in map at '" ++ path ++ "'"
  | indexOutOfBounds index size path =>
    "index " ++ toString index ++ " out of bounds for list of size " ++ toString size ++
      " at '" ++ path ++ "'"
  | notNavigable segment typeName path =>
    "cannot navigate to '" ++ segment ++ "' through a " ++ typeName ++ " value at '" ++ path ++ "'"

def Value.step (path : Path) (v : Value) (segment : Segment) : Except ResolveError Value :=
  match v, segment with
  | .bean typeName properties, .property name =>
    match Entries.find? name properties with
    | some w => .ok w
    | none => .error (.propertyNotFound name typeName path.text)
  | .map entries, segment =>
    match Entries.find? segment.text entries with
    | some w => .ok w
    | none => .error (.keyNotFound segment.text path.text)
  | .list items, .index i =>
    match items[i]? with
    | some w => .ok w
    | none => .error (.indexOutOfBounds i items.length path.text)
  | v, segment => .error (.notNavigable segment.text v.typeName path.text)

inductive Origin where
  | root
  | loop (i : Iteration)

namespace Scope

/-- A loop alias hides the root name, and an inner alias an outer one. Without a loop that has it as
its alias, `#current` is the element of the innermost loop. -/
def origin? (scope : Scope) (head : String) : Option Origin :=
  match scope.loops.find? head with
  | some i => some (.loop i)
  | none =>
    if head = scope.params.rootName then some .root
    else if head = currentAlias then scope.loops.head?.map .loop
    else none

def start (scope : Scope) : Origin → Value
  | .root => scope.params.root
  | .loop i => i.element

def nullType (scope : Scope) (origin : Origin) (path : Path) : ValueType :=
  match origin with
  | .root => (scope.params.declared path.relative).getD .object
  | .loop i => if path.tail.isEmpty then i.type else .object

def resolve (scope : Scope) (path : Path) : Except ResolveError Resolved :=
  match scope.origin? path.head with
  | none => .error (.unknownName path.head path.text scope.params.rootName)
  | some origin => do
    let value ← path.tail.foldlM (Value.step path) (scope.start origin)
    return ⟨value, value.type?.getD (scope.nullType origin path)⟩

end Scope
end SqlTemplate
