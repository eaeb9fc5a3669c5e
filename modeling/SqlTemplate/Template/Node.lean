import SqlTemplate.Condition.Expr
import SqlTemplate.Template.Options

namespace SqlTemplate

structure Variable where
  path : Path
  /-- The SQL that stands for the value when the template itself is run. -/
  testValue : String
  /-- The test value is in parentheses: a list then gives one placeholder for each element. -/
  grouped : Bool
  options : Options
deriving DecidableEq

structure Test where
  source : String
  expr : Condition.Expr
deriving DecidableEq

inductive Node where
  | text (sql : String)
  | bind (v : Variable)
  | embed (v : Variable)
  | ifElse (test : Test) (children : List Node) (otherwise : Option (List Node))
  | optional (children : List Node)
  | loop (name : String) (collection : Path) (children : List Node)
  | first (children : List Node)
  | last (children : List Node)
  | next (sql : String)
  | root (children : List Node)

mutual

def Node.count : Node → Nat
  | .ifElse _ children (some otherwise) => 1 + countAll otherwise + countAll children
  | .ifElse _ children none => 1 + countAll children
  | .optional children | .loop _ _ children | .first children | .last children
  | .root children => 1 + countAll children
  | .text _ | .bind _ | .embed _ | .next _ => 1

def countAll : List Node → Nat
  | [] => 0
  | n :: ns => n.count + countAll ns

end

end SqlTemplate
