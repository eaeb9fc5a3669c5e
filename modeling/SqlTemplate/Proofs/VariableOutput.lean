import SqlTemplate.Proofs.EmbeddedText
import SqlTemplate.Proofs.Output

namespace SqlTemplate

namespace Output

def filling (o : Output) : Filling :=
  ⟨String.ofList (Item.flatten o.items), Item.slots o.items, o.keeps, o.begins⟩

end Output

namespace Variable

theorem flatten_enclose (v : Variable) (items : List Item) :
    Item.flatten (v.enclose items) =
      if v.grouped then '(' :: (Item.flatten items ++ [')']) else Item.flatten items := by
  rw [enclose]
  split <;> simp [Item.chars]

theorem slots_enclose (v : Variable) (items : List Item) :
    Item.slots (v.enclose items) = Item.slots items := by
  rw [enclose]
  split <;> simp

theorem flatten_enclose_slot (v : Variable) (b : Bind) :
    Item.flatten (v.enclose [.slot b]) = v.placeholder.toList := by
  rw [flatten_enclose, placeholder]
  split <;> rfl

theorem flatten_commaSlots (bs : List Bind) :
    Item.flatten (commaSlots bs) = (", ".intercalate (bs.map fun _ => "?")).toList := by
  fun_induction commaSlots bs with
  | case1 => rfl
  | case2 b => simp [Item.chars]
  | case3 b bs hne ih =>
    have hm : (bs.map fun _ => "?") ≠ [] := by simpa using hne
    rw [List.map_cons, String.intercalate_cons_of_ne_nil hm]
    simp [Item.chars, ih]

theorem slots_commaSlots (bs : List Bind) : Item.slots (commaSlots bs) = bs := by
  fun_induction commaSlots bs with
  | case1 => rfl
  | case2 b => rfl
  | case3 b bs hne ih => simp [ih]

theorem bindWhole_eq (s : Settings) (v : Variable) (r : Resolved) :
    v.bindWhole s r = (bindOutput.bindOne s v r).map Output.filling := by
  rw [bindWhole, bindOutput.bindOne]
  cases v.searchValue s r.value with
  | error e => rfl
  | ok value =>
    simp [bind, Except.bind, pure, Except.pure, Except.map, Output.filling, Output.fragment,
      flatten_enclose_slot, slots_enclose, String.ofList_append, Item.chars]

theorem bindElements_eq (v : Variable) (items : List Value) (hg : v.grouped = true) :
    v.bindElements items = (do
      let binds ← (← v.elements items).mapM v.bindElement
      return Output.fragment (v.enclose (commaSlots binds))).map Output.filling := by
  rw [bindElements]
  cases v.elements items with
  | error e => rfl
  | ok present =>
    simp only [bind, Except.bind]
    cases present.mapM v.bindElement with
    | error e => rfl
    | ok binds =>
      have ht : String.ofList (Item.flatten (v.enclose (commaSlots binds))) =
          Sql.tuple (binds.map fun _ => "?") := by
        rw [flatten_enclose, flatten_commaSlots, if_pos hg, Sql.tuple, ← List.cons_append,
          String.ofList_append, ← List.singleton_append, String.ofList_append, String.ofList_toList]
      simp [pure, Except.pure, Except.map, Output.filling, Output.fragment, slots_enclose,
        slots_commaSlots, ht]

theorem bindFilling_eq (s : Settings) (v : Variable) (r : Resolved) :
    v.bindFilling s r = (v.bindOutput s r).map Output.filling := by
  rw [bindFilling, bindOutput]
  cases r.value with
  | null =>
    dsimp only
    split
    · simp [Except.map, Output.filling, flatten_enclose_slot, slots_enclose]
    · rfl
  | map entries => rfl
  | bean typeName properties => rfl
  | list items =>
    cases hg : v.grouped with
    | true => exact bindElements_eq v items hg
    | false => exact bindWhole_eq s v r
  | _ => exact bindWhole_eq s v r

theorem embedFilling_eq_ok {v : Variable} {r : Resolved} {f : Filling}
    (h : v.embedFilling r = .ok f) : f = ⟨f.sql, [], f.keeps, f.keeps⟩ := by
  rw [embedFilling] at h
  split at h
  · cases h; rfl
  · cases h
  · cases h
  · obtain ⟨text, -, h⟩ := bind_eq_ok.mp h
    rw [(embedText_eq_ok h).1]
  · rw [(embedText_eq_ok h).1]

theorem embedFilling_eq (v : Variable) (r : Resolved) :
    v.embedFilling r = (v.embedOutput r).map Output.filling := by
  rw [embedOutput]
  cases h : v.embedFilling r with
  | error e => rfl
  | ok f =>
    have hf := embedFilling_eq_ok h
    simpa [bind, Except.bind, pure, Except.pure, Except.map, Output.filling, Item.chars] using hf

end Variable
end SqlTemplate
