import Mathlib.Data.List.Nodup
import SqlTemplate.Value.Entries

namespace SqlTemplate.Entries

variable {α : Type} {name key : String} {a : α} {entries : Entries α}

theorem find?_insert : find? key (insert name a entries) =
    if key = name then some a else find? key entries := by
  induction entries with
  | nil =>
    simp only [insert, find?, List.lookup_cons, List.lookup_nil]
    grind
  | cons e rest ih =>
    obtain ⟨front, b⟩ := e
    rw [insert]
    split
    · grind [find?]
    split
    · grind [find?]
    · rw [find?, List.lookup_cons]
      grind [find?]

theorem mem_names_insert {other : String} :
    other ∈ (insert name a entries).map Prod.fst ↔
      other = name ∨ other ∈ entries.map Prod.fst := by
  induction entries with
  | nil => simp [insert]
  | cons e rest ih =>
    rw [insert]
    split
    · simp
    split
    · simp_all
    · simp only [List.map_cons, List.mem_cons, ih]
      grind

theorem Sorted.insert (h : Sorted entries) : Sorted (insert name a entries) := by
  induction entries with
  | nil => simp [Sorted, Entries.insert]
  | cons e rest ih =>
    obtain ⟨hfirst, hrest⟩ := List.pairwise_cons.mp h
    rw [Entries.insert]
    split
    · next hlt =>
      refine List.pairwise_cons.mpr ⟨?_, h⟩
      intro other hother
      rcases List.mem_cons.mp hother with rfl | hother
      · exact hlt
      · exact String.lt_trans hlt (hfirst other hother)
    split
    · next heq =>
      refine List.pairwise_cons.mpr ⟨?_, hrest⟩
      rw [heq]
      exact hfirst
    · next hge hne =>
      refine List.pairwise_cons.mpr ⟨?_, ih hrest⟩
      intro other hother
      rcases mem_names_insert.mp hother with rfl | hother
      · grind
      · exact hfirst other hother

theorem sorted_ofList (pairs : List (String × α)) : Sorted (ofList pairs) := by
  have hfold : ∀ (pairs : List (String × α)) {entries : Entries α}, Sorted entries →
      Sorted (pairs.foldl (fun entries p => insert p.1 p.2 entries) entries) := by
    intro pairs
    induction pairs with
    | nil => exact fun h => h
    | cons p pairs ih => exact fun h => ih h.insert
  exact hfold pairs List.Pairwise.nil

theorem insert_perm (h : name ∉ entries.map Prod.fst) :
    (insert name a entries).Perm ((name, a) :: entries) := by
  induction entries with
  | nil => exact .refl _
  | cons e rest ih =>
    rw [List.map_cons, List.mem_cons, not_or] at h
    rw [insert, if_neg h.1]
    split
    · exact .refl _
    · exact ((ih h.2).cons e).trans (.swap _ _ _)

theorem insert_comm {other : String} (hne : name ≠ other) (a b : α) (entries : Entries α) :
    insert name a (insert other b entries) = insert other b (insert name a entries) := by
  induction entries with
  | nil => grind [insert]
  | cons e rest ih => grind [insert]

theorem ofList_perm {pairs : List (String × α)} (hnames : (pairs.map Prod.fst).Nodup) :
    (ofList pairs).Perm pairs := by
  have hfold : ∀ (pairs : List (String × α)) (entries : Entries α),
      ((pairs ++ entries).map Prod.fst).Nodup →
      (pairs.foldl (fun entries p => insert p.1 p.2 entries) entries).Perm (pairs ++ entries) := by
    intro pairs
    induction pairs with
    | nil => exact fun entries _ => .refl _
    | cons p pairs ih =>
      intro entries h
      have hp : p.1 ∉ (pairs ++ entries).map Prod.fst := (List.nodup_cons.mp h).1
      have hinsert : (insert p.1 p.2 entries).Perm (p :: entries) := insert_perm fun hmem =>
        hp (by rw [List.map_append]; exact List.mem_append_right _ hmem)
      have hmoved : (pairs ++ insert p.1 p.2 entries).Perm (p :: (pairs ++ entries)) :=
        (hinsert.append_left pairs).trans List.perm_middle
      exact (ih _ ((hmoved.map Prod.fst).nodup_iff.mpr h)).trans hmoved
  have hpairs := hfold pairs []
  rw [List.append_nil] at hpairs
  exact hpairs hnames

theorem ofList_eq_of_perm {pairs others : List (String × α)} (h : pairs.Perm others)
    (hnames : (pairs.map Prod.fst).Nodup) : ofList pairs = ofList others := by
  apply h.foldl_eq'
  intro p hp q hq entries
  by_cases hpq : p.1 = q.1
  · rw [List.inj_on_of_nodup_map hnames hp hq hpq]
  · exact insert_comm (Ne.symm hpq) _ _ _

end SqlTemplate.Entries
