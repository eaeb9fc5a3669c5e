import SqlTemplate.Render.Connector
import SqlTemplate.Render.Filling

namespace SqlTemplate

structure Draft where
  sql : String := ""
  binds : List Bind := []
  inOptional : Bool := false
  begun : Bool := false

namespace Draft

def forOptional : Draft := { inOptional := true }

def strips (d : Draft) : Bool := d.inOptional && !d.begun

def appendSql (sql : String) (d : Draft) : Draft := { d with sql := d.sql ++ sql }

def addBind (b : Bind) (d : Draft) : Draft := { d with binds := d.binds ++ [b] }

def append (sql : String) (binds : List Bind) (d : Draft) : Draft :=
  { d with sql := d.sql ++ sql, binds := d.binds ++ binds }

def beginIf (begins : Bool) (d : Draft) : Draft := { d with begun := d.begun || begins }

def fill (f : Filling) (d : Draft) : Draft := (d.append f.sql f.binds).beginIf f.begins

def commit (s : Settings) (fragment d : Draft) : Draft :=
  d.append (if d.strips then s.strip fragment.sql else fragment.sql) fragment.binds

def statement (d : Draft) : Statement :=
  ⟨String.ofList (Text.trimEnd d.sql.toList), d.binds⟩

end Draft

/-- A change to a draft, with the word whether it keeps the optional part around it. -/
abbrev Step := Draft → Except RenderError (Draft × Bool)

namespace Step

def nothing : Step := fun d => .ok (d, false)

def appendSql (sql : String) : Step := fun d => .ok (d.appendSql sql, false)

def fill (f : Filling) : Step := fun d => .ok (d.fill f, f.keeps)

def sequence : List Step → Step
  | [], d => .ok (d, false)
  | step :: steps, d => do
    let (d, a) ← step d
    let (d, b) ← sequence steps d
    return (d, a || b)

def settled (step : Step) : Step := fun d => do
  let (d, keeps) ← step d
  return (d.beginIf keeps, keeps)

def branch (s : Settings) (content : Step) : Step := fun d => do
  if d.strips then
    let (fragment, _) ← content {}
    return (fragment.commit s d, true)
  else
    let (d, _) ← content d
    return (d, true)

def optional (s : Settings) (content : Step) : Step := fun d => do
  let (part, keeps) ← content .forOptional
  return (if keeps then part.commit s d else d, keeps)

end Step
end SqlTemplate
