import SqlTemplate.Proofs.SoundItems

/-!
Items in their places: each has as many placeholders as values that are bound at it if what is
spliced into the SQL closes what it opens and no comment starts where two pieces of SQL meet.
-/
namespace SqlTemplate

namespace Sql.Zone

theorem placeholders_trimEnd (z : Zone) (cs : List Char) :
    z.placeholders (Text.trimEnd cs) = z.placeholders cs := by
  have hcs : cs = Text.trimEnd cs ++ (cs.reverse.takeWhile Text.isBlank).reverse := by
    rw [Text.trimEnd, ← List.reverse_append, List.takeWhile_append_dropWhile, List.reverse_reverse]
  have hmark : '?' ∉ (cs.reverse.takeWhile Text.isBlank).reverse := by
    intro hmem
    have hblank := List.all_eq_true.mp List.all_takeWhile _ (List.mem_reverse.mp hmem)
    revert hblank
    decide
  conv => rhs; rw [hcs]
  rw [placeholders_append, placeholders_eq_zero hmark, Nat.add_zero]

end Sql.Zone

namespace Item

def bindCount (i : Item) : Nat := i.bind?.toList.length

theorem length_slots_cons (i : Item) (items : List Item) :
    (slots (i :: items)).length = i.bindCount + (slots items).length := by
  cases i with
  | sql source text => simp [bindCount, bind?]
  | slot bind => simp [bindCount, bind?, Nat.add_comm]

def apart : Sql.Zone → List Item → Bool
  | _, [] => true
  | z, i :: items => !z.joins i.chars && apart (z.after i.chars) items

def Matched (z : Sql.Zone) (items : List Item) : Prop :=
  ∀ before i behind, items = before ++ i :: behind →
    (z.after (flatten before)).placeholders i.chars = i.bindCount

theorem matched_cons {z : Sql.Zone} {i : Item} {items : List Item} :
    Matched z (i :: items) ↔
      z.placeholders i.chars = i.bindCount ∧ Matched (z.after i.chars) items := by
  constructor
  · intro h
    refine ⟨h [] i items rfl, ?_⟩
    rintro before j behind rfl
    have hj := h (i :: before) j behind rfl
    rwa [flatten_cons, Sql.Zone.after_append] at hj
  · rintro ⟨hi, h⟩ before j behind heq
    cases before with
    | nil => cases heq; exact hi
    | cons k before =>
      cases heq
      rw [flatten_cons, Sql.Zone.after_append]
      exact h before j behind rfl

theorem Matched.placeholders {z : Sql.Zone} {items : List Item} (h : Matched z items) :
    z.placeholders (flatten items) = (slots items).length := by
  induction items generalizing z with
  | nil => rfl
  | cons i items ih =>
    obtain ⟨hi, hrest⟩ := matched_cons.mp h
    rw [flatten_cons, Sql.Zone.placeholders_append, length_slots_cons, hi, ih hrest]

theorem matched_of_flatten_eq_nil {items : List Item} (h : flatten items = []) (z : Sql.Zone) :
    Matched z items := by
  rintro before i behind rfl
  simp only [flatten_append, flatten_cons, List.append_eq_nil_iff] at h
  obtain ⟨-, hi, -⟩ := h
  cases i with
  | slot b => cases hi
  | sql source text => rw [hi]; rfl

theorem Matched.trimmed {z : Sql.Zone} {items : List Item} (h : Matched z items) :
    Matched z (trimmed items) := by
  induction items generalizing z with
  | nil => exact h
  | cons i items ih =>
    obtain ⟨hi, hrest⟩ := matched_cons.mp h
    cases i with
    | slot b => exact matched_cons.mpr ⟨hi, ih hrest⟩
    | sql source text =>
      rw [Item.trimmed]
      split
      · next he =>
        refine matched_cons.mpr ⟨?_, matched_of_flatten_eq_nil (List.isEmpty_iff.mp he) _⟩
        exact (z.placeholders_trimEnd text).trans hi
      · exact matched_cons.mpr ⟨hi, ih hrest⟩

theorem matched_of_apart {z : Sql.Zone} {items : List Item} (hz : z.isCode = true)
    (hapart : apart z items = true)
    (hcount : ∀ i ∈ items, Sql.Zone.code.placeholders i.chars = i.bindCount)
    (hclose : ∀ i ∈ items.dropLast, (Sql.Zone.code.after i.chars).isCode = true) :
    Matched z items := by
  -- The zone stays one of code up to the last item, which may leave something open.
  induction items generalizing z with
  | nil =>
    intro before i behind h
    cases before <;> cases h
  | cons i items ih =>
    simp only [apart, Bool.and_eq_true, Bool.not_eq_true'] at hapart
    obtain ⟨hjoin, hapart⟩ := hapart
    rw [matched_cons]
    constructor
    · rw [Sql.Zone.placeholders_eq_of_isCode hz hjoin]
      exact hcount i List.mem_cons_self
    · cases items with
      | nil =>
        intro before i behind h
        cases before <;> cases h
      | cons j items =>
        have hi : (z.after i.chars).isCode = true := by
          rw [Sql.Zone.isCode_after hz hjoin]
          exact hclose i (by simp)
        refine ih hi hapart ?_ ?_
        · exact fun k hk => hcount k (List.mem_cons_of_mem _ hk)
        · exact fun k hk => hclose k (by simp [hk])

def isSpliced : Item → Bool
  | sql .embedded _ | sql .next _ => true
  | _ => false

/-- What is spliced keeps to itself, and so do the items where they meet. -/
structure Contained (items : List Item) : Prop where
  closes : ∀ i ∈ items.dropLast, i.isSpliced = true →
    (Sql.Zone.code.after i.chars).isCode = true
  noMarks : ∀ text, .sql .next text ∈ items → Sql.Zone.code.placeholders text = 0
  apart : apart .code items = true

def SoundUpToLast (items : List Item) : Prop :=
  ∃ front last, items = front ++ last ∧ (∀ i ∈ front, i.Sound) ∧
    (last = [] ∨ ∃ text, last = [.sql .template text] ∧ Sql.Zone.code.placeholders text = 0)

theorem Sound.bindCount {i : Item} (h : i.Sound)
    (hnext : ∀ text, i = .sql .next text → Sql.Zone.code.placeholders text = 0) :
    Sql.Zone.code.placeholders i.chars = i.bindCount := by
  cases i with
  | slot b => rfl
  | sql source text =>
    cases source with
    | next => exact hnext text rfl
    | embedded => exact h
    | _ => exact h.2

theorem Sound.closes {i : Item} (h : i.Sound)
    (hspliced : i.isSpliced = true → (Sql.Zone.code.after i.chars).isCode = true) :
    (Sql.Zone.code.after i.chars).isCode = true := by
  cases i with
  | slot b => rfl
  | sql source text =>
    cases source with
    | next => exact hspliced rfl
    | embedded => exact hspliced rfl
    | _ => exact h.1

theorem SoundUpToLast.matched {items : List Item} (h : SoundUpToLast items)
    (hc : Contained items) : Matched .code items := by
  obtain ⟨front, last, rfl, hfront, hlast⟩ := h
  apply matched_of_apart rfl hc.apart
  · intro i hi
    rcases List.mem_append.mp hi with hf | hl
    · apply (hfront i hf).bindCount
      rintro text rfl
      exact hc.noMarks text hi
    · rcases hlast with rfl | ⟨text, rfl, htext⟩
      · cases hl
      · rw [List.mem_singleton.mp hl]
        exact htext
  · intro i hi
    have hf : i ∈ front := by
      rcases hlast with rfl | ⟨text, rfl, -⟩
      · rw [List.append_nil] at hi
        exact List.dropLast_subset _ hi
      · simpa using hi
    exact (hfront i hf).closes (hc.closes i hi)

end Item
end SqlTemplate
