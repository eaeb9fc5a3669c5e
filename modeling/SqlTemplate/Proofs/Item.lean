import SqlTemplate.Proofs.ConnectorText
import SqlTemplate.Render.Filling

/-!
SQL as one sequence of texts and slots: a slot carries the value that is bound at its place.
-/
namespace SqlTemplate

inductive Source where
  | template
  | next
  | embedded
  /-- What stands around slots, and the SQL of embedded values other than strings. -/
  | generated
deriving DecidableEq, Repr

inductive Item where
  | sql (source : Source) (text : List Char)
  | slot (bind : Bind)

namespace Item

def chars : Item → List Char
  | sql _ text => text
  | slot _ => ['?']

def bind? : Item → Option Bind
  | sql _ _ => none
  | slot bind => some bind

def flatten (items : List Item) : List Char := items.flatMap chars

def slots (items : List Item) : List Bind := items.filterMap bind?

def statement (items : List Item) : Statement := ⟨String.ofList (flatten items), slots items⟩

@[simp] theorem flatten_nil : flatten [] = [] := rfl

@[simp] theorem flatten_cons (i : Item) (items : List Item) :
    flatten (i :: items) = i.chars ++ flatten items := rfl

@[simp] theorem flatten_append (as bs : List Item) :
    flatten (as ++ bs) = flatten as ++ flatten bs := List.flatMap_append

@[simp] theorem slots_nil : slots [] = [] := rfl

@[simp] theorem slots_cons_sql (source : Source) (text : List Char) (items : List Item) :
    slots (.sql source text :: items) = slots items := rfl

@[simp] theorem slots_cons_slot (bind : Bind) (items : List Item) :
    slots (.slot bind :: items) = bind :: slots items := rfl

@[simp] theorem slots_append (as bs : List Item) : slots (as ++ bs) = slots as ++ slots bs :=
  List.filterMap_append

def lead : List Item → List Char
  | .sql _ text :: items => text ++ lead items
  | _ => []

def behindLead : List Item → List Item
  | .sql _ _ :: items => behindLead items
  | items => items

theorem lead_append_behindLead (items : List Item) :
    lead items ++ flatten (behindLead items) = flatten items := by
  induction items with
  | nil => rfl
  | cons i items ih =>
    cases i with
    | sql source text => simp [lead, behindLead, chars, ih]
    | slot bind => rfl

theorem behindLead_eq (items : List Item) :
    behindLead items = [] ∨ ∃ b rest, behindLead items = .slot b :: rest := by
  induction items with
  | nil => exact .inl rfl
  | cons i items ih =>
    cases i with
    | sql source text => exact ih
    | slot bind => exact .inr ⟨bind, items, rfl⟩

/-- Takes `dropped` characters out of the text in front of the first slot, behind the first `kept`
ones. -/
def cut : (kept dropped : Nat) → List Item → List Item
  | kept, dropped, .sql source text :: items =>
    .sql source (text.take kept ++ text.drop (kept + dropped)) ::
      cut (kept - text.length) (dropped - (text.length - kept)) items
  | _, _, items => items

theorem slots_cut (kept dropped : Nat) (items : List Item) :
    slots (cut kept dropped items) = slots items := by
  fun_induction cut kept dropped items with
  | case1 kept dropped source text items ih => simpa using ih
  | case2 => rfl

theorem take_cut (text more : List Char) (kept dropped : Nat) :
    text.take kept ++ text.drop (kept + dropped) ++
        (more.take (kept - text.length) ++
          more.drop (kept - text.length + (dropped - (text.length - kept)))) =
      (text ++ more).take kept ++ (text ++ more).drop (kept + dropped) := by
  rw [List.take_append, List.drop_append]
  rcases Nat.lt_or_ge kept text.length with h | h
  · have hk : kept - text.length = 0 := by omega
    have hd : dropped - (text.length - kept) = kept + dropped - text.length := by omega
    simp [hk, hd]
  · have hd : text.drop (kept + dropped) = [] := List.drop_eq_nil_of_le (by omega)
    have hz : text.length - kept = 0 := by omega
    have hs : kept - text.length + dropped = kept + dropped - text.length := by omega
    simp [hd, hz, hs]

theorem flatten_cut (kept dropped : Nat) (items : List Item) :
    flatten (cut kept dropped items) =
      (lead items).take kept ++ (lead items).drop (kept + dropped) ++
        flatten (behindLead items) := by
  fun_induction cut kept dropped items with
  | case1 kept dropped source text items ih =>
    simp only [flatten_cons, chars, ih, lead, behindLead, ← take_cut, List.append_assoc]
  | case2 kept dropped items hn =>
    cases items with
    | nil => simp [lead, behindLead]
    | cons i items =>
      cases i with
      | sql source text => exact absurd rfl (hn source text items)
      | slot bind => simp [lead, behindLead]

def stripped (s : Settings) (items : List Item) : List Item :=
  cut ((lead items).takeWhile Text.isBlank).length
    ((lead items).length - (Connector.strip s.connectors (lead items)).length) items

theorem slots_stripped (s : Settings) (items : List Item) :
    slots (stripped s items) = slots items := slots_cut _ _ items

theorem flatten_stripped {s : Settings}
    (hs : ∀ w ∈ s.connectors, isIdentifier w.toList = true) (items : List Item) :
    flatten (stripped s items) = Connector.strip s.connectors (flatten items) := by
  have hflat := lead_append_behindLead items
  rw [stripped, flatten_cut, Connector.take_append_drop_strip hs]
  rcases behindLead_eq items with h | ⟨b, rest, h⟩
  · rw [h, flatten_nil, List.append_nil] at hflat ⊢
    rw [hflat]
  · rw [h, flatten_cons] at hflat ⊢
    rw [← hflat]
    exact (Connector.strip_append hs (lead items) (flatten rest)).symm

def trimmed : List Item → List Item
  | [] => []
  | .sql source text :: items =>
    let rest := trimmed items
    .sql source (if (flatten rest).isEmpty then Text.trimEnd text else text) :: rest
  | .slot bind :: items => .slot bind :: trimmed items

theorem slots_trimmed (items : List Item) : slots (trimmed items) = slots items := by
  induction items with
  | nil => rfl
  | cons i items ih => cases i <;> simp [trimmed, ih]

theorem trimEnd_append (as bs : List Char) :
    Text.trimEnd (as ++ bs) =
      if (Text.trimEnd bs).isEmpty then Text.trimEnd as else as ++ Text.trimEnd bs := by
  simp only [Text.trimEnd, List.reverse_append, List.dropWhile_append, List.isEmpty_reverse]
  split <;> simp

theorem flatten_trimmed (items : List Item) :
    flatten (trimmed items) = Text.trimEnd (flatten items) := by
  induction items with
  | nil => rfl
  | cons i items ih =>
    rw [flatten_cons, trimEnd_append, ← ih]
    cases i with
    | sql source text =>
      simp only [trimmed, flatten_cons, chars]
      split
      · next he => simp [List.isEmpty_iff.mp he]
      · rfl
    | slot bind =>
      have hq : Text.trimEnd ['?'] = ['?'] := by decide
      simp only [trimmed, flatten_cons, chars, hq]
      split
      · next he => simp [List.isEmpty_iff.mp he]
      · rfl

end Item
end SqlTemplate
