import SqlTemplate.Proofs.Item
import SqlTemplate.Render.Tree

/-!
Templates as sequences of items. Nothing is written apart here: an optional part keeps all items of
its content or none, and a connector goes from the items of the fragment that starts with it.
-/
namespace SqlTemplate

structure Output where
  items : List Item
  keeps : Bool
  begins : Bool
  begins_of_keeps : keeps = true → begins = true := by simp

namespace Output

def nothing : Output := { items := [], keeps := false, begins := false }

@[simp] theorem keeps_nothing : nothing.keeps = false := rfl

def fragment (items : List Item) : Output := { items, keeps := true, begins := true }

@[simp] theorem keeps_fragment (items : List Item) : (fragment items).keeps = true := rfl

def append (a b : Output) : Output where
  items := a.items ++ b.items
  keeps := a.keeps || b.keeps
  begins := a.begins || b.begins
  begins_of_keeps h := by
    rcases Bool.or_eq_true_iff.mp h with h | h
    · simp [a.begins_of_keeps h]
    · simp [b.begins_of_keeps h]

end Output

abbrev Writer := (strips : Bool) → Except RenderError Output

namespace Writer

def nothing : Writer := fun _ => .ok .nothing

def text (source : Source) (text : List Char) : Writer :=
  fun _ => .ok { items := [.sql source text], keeps := false, begins := false }

def sequence : List Writer → Writer
  | [], _ => .ok .nothing
  | w :: ws, strips => do
    let a ← w strips
    let b ← sequence ws (strips && !a.begins)
    return a.append b

def branch (s : Settings) (content : Writer) : Writer := fun strips => do
  let o ← content false
  return .fragment (if strips then Item.stripped s o.items else o.items)

def optional (s : Settings) (content : Writer) : Writer := fun strips => do
  let o ← content true
  return if o.keeps then .fragment (if strips then Item.stripped s o.items else o.items)
    else .nothing

def inTurn (p : Iteration → Bool) (loops : Loops) (w : Writer) : Writer :=
  if loops.head?.any p then w else nothing

end Writer

namespace Variable

def enclose (v : Variable) (items : List Item) : List Item :=
  if v.grouped then .sql .generated ['('] :: (items ++ [.sql .generated [')']]) else items

def commaSlots : List Bind → List Item
  | [] => []
  | [b] => [.slot b]
  | b :: bs => .slot b :: .sql .generated [',', ' '] :: commaSlots bs

def bindOutput (s : Settings) (v : Variable) (r : Resolved) : Except RenderError Output :=
  match r.value with
  | .null =>
    if v.options.nullable then
      .ok { items := v.enclose [.slot ⟨.null, r.type⟩], keeps := false, begins := true }
    else .error (.nullBind v.path)
  | .map _ | .bean _ _ => v.fail r.value .bound
  | .list items =>
    if v.grouped then do
      let binds ← (← v.elements items).mapM v.bindElement
      return .fragment (v.enclose (commaSlots binds))
    else bindOne
  | _ => bindOne
where
  bindOne : Except RenderError Output := do
    let value ← v.searchValue s r.value
    return .fragment
      (v.enclose [.slot ⟨value, r.type⟩] ++ [.sql .generated (v.escapeClause s).toList])

def embeddedFrom : Value → Source
  | .string _ => .embedded
  | _ => .generated

def embedOutput (v : Variable) (r : Resolved) : Except RenderError Output := do
  let f ← v.embedFilling r
  let items := [.sql (embeddedFrom r.value) f.sql.toList]
  return { items, keeps := f.keeps, begins := f.keeps }

end Variable

mutual

def Node.output (s : Settings) (params : Params) (loops : Loops) : Node → Writer
  | .text sql => .text .template sql.toList
  | .bind v => fun _ => do
    let r ← Scope.resolveVariable ⟨params, loops⟩ v
    v.bindOutput s r
  | .embed v => fun _ => do
    let r ← Scope.resolveVariable ⟨params, loops⟩ v
    v.embedOutput r
  | .ifElse t children none => fun strips => do
    if ← Scope.test ⟨params, loops⟩ t then
      Writer.branch s (outputAll s params loops children) strips
    else .ok .nothing
  | .ifElse t children (some otherwise) => fun strips => do
    if ← Scope.test ⟨params, loops⟩ t then
      Writer.branch s (outputAll s params loops children) strips
    else Writer.branch s (outputAll s params loops otherwise) strips
  | .optional children => .optional s (outputAll s params loops children)
  | .loop name collection children => fun strips => do
    let items ← Scope.collection ⟨params, loops⟩ collection
    Writer.sequence ((turns name items).map fun turn =>
      outputAll s params (turn :: loops) children) strips
  | .first children => .inTurn Iteration.isFirst loops (outputAll s params loops children)
  | .last children => .inTurn Iteration.isLast loops (outputAll s params loops children)
  | .next sql => .inTurn (fun turn => !turn.isFirst) loops (.text .next sql.toList)
  | .root children => outputAll s params loops children

def outputAll (s : Settings) (params : Params) (loops : Loops) : List Node → Writer
  | [], _ => .ok .nothing
  | n :: ns, strips => do
    let a ← n.output s params loops strips
    let b ← outputAll s params loops ns (strips && !a.begins)
    return a.append b

end

def Node.items (s : Settings) (params : Params) (root : Node) : Except RenderError (List Item) :=
  (root.output s params [] false).map Output.items

end SqlTemplate
