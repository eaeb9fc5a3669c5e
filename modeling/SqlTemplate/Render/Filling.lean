import SqlTemplate.Render.Error
import SqlTemplate.Render.Like
import SqlTemplate.Settings
import SqlTemplate.Sql.Statement
import SqlTemplate.Template.Node

namespace SqlTemplate

structure Filling where
  sql : String
  binds : List Bind
  keeps : Bool
  begins : Bool

namespace Filling

def nothing : Filling := ⟨"", [], false, false⟩

end Filling

namespace Variable

def fail {α : Type} (v : Variable) (value : Value) (use : Use) : Except RenderError α :=
  .error (.unsupported v.path value.type? use)

def placeholder (v : Variable) : String := if v.grouped then "(?)" else "?"

def elements (v : Variable) (items : List Value) : Except RenderError (List Value) :=
  let present := items.filter fun item => !item.isNull
  if present.isEmpty then .error (.noElements v.path) else .ok present

def bindElement (v : Variable) (element : Value) : Except RenderError Bind :=
  match element with
  | .list _ | .map _ | .bean _ _ => v.fail element .boundElement
  | element => .ok ⟨element, element.type?.getD .object⟩

def bindElements (v : Variable) (items : List Value) : Except RenderError Filling := do
  let binds ← (← v.elements items).mapM v.bindElement
  return ⟨Sql.tuple (binds.map fun _ => "?"), binds, true, true⟩

def searchValue (s : Settings) (v : Variable) (value : Value) : Except RenderError Value :=
  match v.options.like, value with
  | none, value => .ok value
  | some mode, .string text =>
    .ok (.string (Like.pattern s.likeEscape mode (!v.options.notEscape) text))
  | some _, value => v.fail value .likeSearch

def escapeClause (s : Settings) (v : Variable) : String :=
  if v.options.like.isSome ∧ !v.options.notEscape then Like.escapeClause s.likeEscape else ""

def bindWhole (s : Settings) (v : Variable) (r : Resolved) : Except RenderError Filling := do
  let value ← v.searchValue s r.value
  return ⟨v.placeholder ++ v.escapeClause s, [⟨value, r.type⟩], true, true⟩

/-- A null that may be bound begins the optional part around it without keeping it. -/
def bindFilling (s : Settings) (v : Variable) (r : Resolved) : Except RenderError Filling :=
  match r.value with
  | .null =>
    if v.options.nullable then .ok ⟨v.placeholder, [⟨.null, r.type⟩], false, true⟩
    else .error (.nullBind v.path)
  | .map _ | .bean _ _ => v.fail r.value .bound
  | .list items => if v.grouped then v.bindElements items else v.bindWhole s r
  | _ => v.bindWhole s r

def embedElement (v : Variable) (quoted : Bool) (element : Value) : Except RenderError String :=
  match element.sqlText? with
  | some text => .ok (if quoted then Sql.quote text else text)
  | none => v.fail element .embeddedElement

def embedElements (v : Variable) (items : List Value) : Except RenderError String := do
  let elements ← v.elements items
  return Sql.tuple (← elements.mapM (v.embedElement !(elements.all Value.isNumeric)))

def embedText (v : Variable) (sql : String) : Except RenderError Filling :=
  if Sql.hasPlaceholder sql.toList then .error (.placeholderInValue v.path sql)
  else .ok ⟨sql, [], !sql.isEmpty, !sql.isEmpty⟩

def embedFilling (v : Variable) (r : Resolved) : Except RenderError Filling :=
  match r.value with
  | .null => .ok .nothing
  | .map _ | .bean _ _ => v.fail r.value .embedded
  | .list items => do v.embedText (← v.embedElements items)
  | value => v.embedText (value.sqlText?.getD "")

end Variable
end SqlTemplate
