import SqlTemplate.Template.Lexeme

namespace SqlTemplate

inductive Opened where
  | block (b : Block)
  | elsePart (t : Test) (children : List Node)

namespace Opened

def isLoop : Opened → Bool
  | block (.loop _ _) => true
  | _ => false

def close (nodes : List Node) : Opened → Node
  | block .optional => .optional nodes
  | block (.test t) => .ifElse t nodes none
  | block (.loop name collection) => .loop name collection nodes
  | block .first => .first nodes
  | block .last => .last nodes
  | elsePart t children => .ifElse t children (some nodes)

end Opened

structure Frame where
  opened : Opened
  directive : Placed (List Char)
  before : List Node

structure Outline where
  nodes : List Node
  frames : List Frame

namespace Outline

def empty : Outline := ⟨[], []⟩

def add (node : Node) (o : Outline) : Outline := { o with nodes := o.nodes ++ [node] }

def inLoop (o : Outline) : Bool := o.frames.any fun f => f.opened.isLoop

def openBlock (b : Block) (directive : Placed (List Char)) (o : Outline) : Outline :=
  ⟨[], ⟨.block b, directive, o.nodes⟩ :: o.frames⟩

def needsLoop : Block → Bool
  | .first | .last => true
  | _ => false

def otherwise (o : Outline) : Except Fault Outline :=
  match o.frames with
  | ⟨.block (.test t), directive, before⟩ :: frames =>
    .ok ⟨[], ⟨.elsePart t o.nodes, directive, before⟩ :: frames⟩
  | ⟨.elsePart _ _, _, _⟩ :: _ => .error .repeatedElse
  | _ => .error .misplacedElse

def close (o : Outline) : Except Fault Outline :=
  match o.frames with
  | f :: frames => .ok ⟨f.before ++ [f.opened.close o.nodes], frames⟩
  | [] => .error .unexpectedEnd

def next (body : List Char) (sql : Option String) (o : Outline) : Except Fault Outline :=
  if !o.inLoop then .error (.outsideLoop (String.ofList body))
  else
    match sql with
    | some sql => .ok (o.add (.next sql))
    | none => .error (.malformedMarker (String.ofList body) .unquotedNext)

def read (o : Outline) (l : Placed Lexeme) : Except Fault Outline :=
  match l.item with
  | .sql text => .ok (o.add (.text (String.ofList text)))
  | .lineElse _ => o.otherwise
  | .slot _ false v => .ok (o.add (.bind v))
  | .slot _ true v => .ok (o.add (.embed v))
  | .directive body (.opens b) =>
    if needsLoop b ∧ !o.inLoop then .error (.outsideLoop (String.ofList body))
    else .ok (o.openBlock b ⟨l.here, body⟩)
  | .directive _ .otherwise => o.otherwise
  | .directive _ .closes => o.close
  | .directive body (.next sql) => o.next body sql

def finish (o : Outline) : Except (Placed Fault) Node :=
  match o.frames with
  | [] => .ok (.root o.nodes)
  | f :: _ =>
    .error ⟨f.directive.here, .unterminatedBlock (String.ofList f.directive.item)⟩

end Outline

namespace Lexemes

def outline (ls : Lexemes) : Except (Placed Fault) Outline :=
  ls.1.foldlM (fun o l => (o.read l).mapError (⟨l.here, ·⟩)) .empty

def toNode (ls : Lexemes) : Except (Placed Fault) Node := do
  let o ← ls.outline
  match ls.2 with
  | some f => throw f
  | none => o.finish

end Lexemes

def Node.parse (text : String) : Except SyntaxError Node :=
  (Lexemes.ofText text.toList).toNode.mapError fun f =>
    ⟨f.item, Position.before text.toList f.here⟩

end SqlTemplate
