import SqlTemplate.Json.Value
import SqlTemplate.Proofs.JsonNumbers
import SqlTemplate.Proofs.JsonPrinted
import SqlTemplate.Proofs.JsonReading
import SqlTemplate.Proofs.SortedEntries

namespace SqlTemplate

namespace Value

mutual

def All (p : Value → Prop) : Value → Prop
  | null => p null
  | boolean b => p (boolean b)
  | integer n => p (integer n)
  | float x => p (float x)
  | decimal d => p (decimal d)
  | string s => p (string s)
  | list items => p (list items) ∧ AllItems p items
  | map entries => p (map entries) ∧ AllEntries p entries
  | bean typeName entries => p (bean typeName entries) ∧ AllEntries p entries

def AllItems (p : Value → Prop) : List Value → Prop
  | [] => True
  | v :: vs => v.All p ∧ AllItems p vs

def AllEntries (p : Value → Prop) : List (String × Value) → Prop
  | [] => True
  | e :: rest => e.2.All p ∧ AllEntries p rest

end

def IsFinite : Value → Prop
  | float x => x.isFinite = true
  | _ => True

def IsSorted : Value → Prop
  | map entries | bean _ entries => Entries.Sorted entries
  | _ => True

inductive Shows : Value → Json → Prop
  | null : Shows null .null
  | boolean (b : Bool) : Shows (boolean b) (.bool b)
  | number {v : Value} {text : String} (hv : v.isNumeric = true) (h : v.sqlText? = some text) :
      Shows v (.number text)
  | string (s : String) : Shows (string s) (.string s)
  | list {items : List Value} {js : List Json} (h : List.Forall₂ Shows items js) :
      Shows (list items) (.array js)
  | map {entries : List (String × Value)} {members : List (String × Json)}
      (hnames : members.map Prod.fst = entries.map Prod.fst)
      (hsorted : (members.map Prod.fst).Pairwise (· < ·))
      (h : List.Forall₂ Shows (entries.map Prod.snd) (members.map Prod.snd)) :
      Shows (map entries) (.object members)
  | bean (typeName : String) {properties : List (String × Value)} {members : List (String × Json)}
      (hnames : members.map Prod.fst = properties.map Prod.fst)
      (hsorted : (members.map Prod.fst).Pairwise (· < ·))
      (h : List.Forall₂ Shows (properties.map Prod.snd) (members.map Prod.snd)) :
      Shows (bean typeName properties) (.object members)

theorem names_entriesToJson (entries : List (String × Value)) :
    (entriesToJson entries).map Prod.fst = entries.map Prod.fst := by
  induction entries with
  | nil => rw [entriesToJson, List.map_nil, List.map_nil]
  | cons e rest ih => rw [entriesToJson, List.map_cons, List.map_cons, ih]

mutual

theorem printable_toJson : (v : Value) → v.toJson.Printable
  | null | boolean _ | string _ => by
    rw [toJson]
    exact True.intro
  | integer n => by
    rw [toJson, Json.Printable]
    exact Number.spellsNumber_integerText _
  | float x => by
    rw [toJson]
    split
    · next h =>
      rw [Json.Printable]
      exact Number.spellsNumber_plainFloat h
    · exact True.intro
  | decimal d => by
    rw [toJson, Json.Printable]
    exact d.spellsNumber_text
  | list items => by
    rw [toJson, Json.Printable]
    exact printable_itemsToJson items
  | map entries | bean _ entries => by
    rw [toJson, Json.Printable]
    exact printable_entriesToJson entries

theorem printable_itemsToJson : (vs : List Value) → Json.PrintableItems (itemsToJson vs)
  | [] => by
    rw [itemsToJson, Json.PrintableItems]
    trivial
  | v :: vs => by
    rw [itemsToJson, Json.PrintableItems]
    exact ⟨printable_toJson v, printable_itemsToJson vs⟩

theorem printable_entriesToJson : (entries : List (String × Value)) →
    Json.PrintableMembers (entriesToJson entries)
  | [] => by
    rw [entriesToJson, Json.PrintableMembers]
    trivial
  | (name, v) :: rest => by
    rw [entriesToJson, Json.PrintableMembers]
    exact ⟨printable_toJson v, printable_entriesToJson rest⟩

end

mutual

theorem shows_toJson : (v : Value) → (v.All fun v => v.IsFinite ∧ v.IsSorted) → v.Shows v.toJson
  | null, _ => by
    rw [toJson]
    exact .null
  | boolean b, _ => by
    rw [toJson]
    exact .boolean b
  | string s, _ => by
    rw [toJson]
    exact .string s
  | integer n, _ => by
    rw [toJson]
    exact .number rfl rfl
  | float x, h => by
    rw [All] at h
    have hfinite : x.isFinite = true := h.1
    rw [toJson, if_pos hfinite]
    exact .number rfl rfl
  | decimal d, _ => by
    rw [toJson]
    exact .number rfl rfl
  | list items, h => by
    rw [All] at h
    rw [toJson]
    exact .list (shows_itemsToJson items h.2)
  | map entries, h => by
    rw [All] at h
    rw [toJson]
    have hnames := names_entriesToJson entries
    exact .map hnames (hnames ▸ h.1.2) (shows_entriesToJson entries h.2)
  | bean typeName entries, h => by
    rw [All] at h
    rw [toJson]
    have hnames := names_entriesToJson entries
    exact .bean typeName hnames (hnames ▸ h.1.2) (shows_entriesToJson entries h.2)

theorem shows_itemsToJson : (vs : List Value) →
    AllItems (fun v => v.IsFinite ∧ v.IsSorted) vs → List.Forall₂ Shows vs (itemsToJson vs)
  | [], _ => by
    rw [itemsToJson]
    exact .nil
  | v :: vs, h => by
    rw [AllItems] at h
    rw [itemsToJson]
    exact .cons (shows_toJson v h.1) (shows_itemsToJson vs h.2)

theorem shows_entriesToJson : (entries : List (String × Value)) →
    AllEntries (fun v => v.IsFinite ∧ v.IsSorted) entries →
    List.Forall₂ Shows (entries.map Prod.snd) ((entriesToJson entries).map Prod.snd)
  | [], _ => by
    rw [entriesToJson]
    exact .nil
  | (_, v) :: rest, h => by
    rw [AllEntries] at h
    rw [entriesToJson]
    exact .cons (shows_toJson v h.1) (shows_entriesToJson rest h.2)

end

end Value

inductive Bind.Shows (b : Bind) : Json → Prop
  | mk {value : Json} (h : b.value.Shows value) :
      Shows b (.object [("type", .string b.type.name), ("value", value)])

theorem Bind.printable_toJson (b : Bind) : b.toJson.Printable :=
  ⟨True.intro, b.value.printable_toJson, True.intro⟩

namespace Statement

variable (s : Statement)

theorem printable_toJson : s.toJson.Printable := by
  have hbinds : Json.PrintableItems (s.binds.map Bind.toJson) := by
    induction s.binds with
    | nil => exact True.intro
    | cons b binds ih => exact ⟨b.printable_toJson, ih⟩
  exact ⟨True.intro, hbinds, True.intro⟩

theorem spells_json : Json.SpellsDocument s.json s.toJson := by
  rw [Json.SpellsDocument, json, String.toList_ofList]
  exact (Json.spells_compact _ s.printable_toJson).toElement

theorem spells_prettyJson : Json.SpellsDocument s.prettyJson s.toJson := by
  rw [Json.SpellsDocument, prettyJson, String.toList_ofList]
  exact (Json.spells_pretty _ s.printable_toJson 0).toElement

end Statement

theorem Bind.shows_toJson {b : Bind} (h : b.value.All fun v => v.IsFinite ∧ v.IsSorted) :
    b.Shows b.toJson := .mk (b.value.shows_toJson h)

/-- Both layouts are texts of one document, which reading either of them gives back. The names in
its objects increase, and entries put in one after the other are sorted, whatever their order. -/
theorem Statement.json_shows {s : Statement}
    (h : ∀ b ∈ s.binds, b.value.All fun v => v.IsFinite ∧ v.IsSorted) :
    (∃ binds, List.Forall₂ Bind.Shows s.binds binds ∧ ∀ text ∈ [s.json, s.prettyJson],
      Json.SpellsDocument text (.object [("sql", .string s.sql), ("bind_values", .array binds)]) ∧
        Json.parse? text = some (.object [("sql", .string s.sql), ("bind_values", .array binds)])) ∧
      ∀ pairs others : List (String × Value), pairs.Perm others → (pairs.map Prod.fst).Nodup →
        Entries.ofList pairs = Entries.ofList others ∧ (Entries.ofList pairs).Perm pairs ∧
          Entries.Sorted (Entries.ofList pairs) := by
  constructor
  · refine ⟨s.binds.map Bind.toJson, ?_, ?_⟩
    · rw [List.forall₂_map_right_iff]
      exact List.forall₂_same.mpr fun b hb => Bind.shows_toJson (h b hb)
    · intro text htext
      have hspells : Json.SpellsDocument text s.toJson := by
        rcases List.mem_pair.mp htext with rfl | rfl
        · exact s.spells_json
        · exact s.spells_prettyJson
      exact ⟨hspells, Json.parse?_of_spells hspells⟩
  · intro pairs others hperm hnames
    exact ⟨Entries.ofList_eq_of_perm hperm hnames, Entries.ofList_perm hnames,
      Entries.sorted_ofList pairs⟩

def nestedStatement : Statement :=
  ⟨"A = ?", [⟨.map [("a", .list [.float 0.5, .null]), ("b", .string "\"")], .map⟩]⟩

theorem Statement.json_shows_nested :
    (∀ b ∈ nestedStatement.binds, b.value.All fun v => v.IsFinite ∧ v.IsSorted) ∧
      ∃ binds, List.Forall₂ Bind.Shows nestedStatement.binds binds ∧
        ∀ text ∈ [nestedStatement.json, nestedStatement.prettyJson],
          Json.SpellsDocument text
              (.object [("sql", .string "A = ?"), ("bind_values", .array binds)]) ∧
            Json.parse? text =
              some (.object [("sql", .string "A = ?"), ("bind_values", .array binds)]) := by
  have h : ∀ b ∈ nestedStatement.binds, b.value.All fun v => v.IsFinite ∧ v.IsSorted := by
    intro b hb
    rw [List.mem_singleton.mp hb]
    have hfinite : (Value.float 0.5).IsFinite := by
      show (0.5 : Float).isFinite = true
      decide
    have hsorted :
        (Value.map [("a", .list [.float 0.5, .null]), ("b", .string "\"")]).IsSorted := by
      show List.Pairwise (· < ·) ["a", "b"]
      decide
    simp only [Value.All, Value.AllItems, Value.AllEntries]
    simp [Value.IsFinite, Value.IsSorted] at hfinite hsorted ⊢
    exact ⟨hsorted, hfinite⟩
  exact ⟨h, (Statement.json_shows h).1⟩

end SqlTemplate
