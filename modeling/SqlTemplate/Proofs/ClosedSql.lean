import SqlTemplate.Proofs.ConnectorText
import SqlTemplate.Sql.Zone

/-!
Pieces of SQL that leave no literal and no comment open. Behind code such a piece reads as it does
alone, unless its first character makes a comment of the last one in front of it.
-/
namespace SqlTemplate.Sql

namespace Zone

theorem placeholders_eq_zero {cs : List Char} (h : '?' ∉ cs) (z : Zone) :
    z.placeholders cs = 0 := by
  induction cs generalizing z with
  | nil => rfl
  | cons c cs ih =>
    simp only [List.mem_cons, not_or] at h
    have hc : ¬(z.isCode = true ∧ c = '?') := fun hc => h.1 hc.2.symm
    simp [placeholders, hc, ih h.2]

def completes : Zone → Char → Bool
  | afterMinus, c => c = '-'
  | afterSlash, c => c = '*'
  | _, _ => false

def joins (z : Zone) (cs : List Char) : Bool := cs.head?.any z.completes

theorem next_eq_of_isCode {z : Zone} {c : Char} (hz : z.isCode = true)
    (hc : z.completes c = false) : z.next c = code.next c := by
  cases z with
  | code => rfl
  | afterMinus =>
    have hne : c ≠ '-' := by simpa [completes] using hc
    simp [next, hne]
  | afterSlash =>
    have hne : c ≠ '*' := by simpa [completes] using hc
    simp [next, hne]
  | _ => cases hz

theorem isCode_after {z : Zone} {cs : List Char} (hz : z.isCode = true)
    (hj : z.joins cs = false) : (z.after cs).isCode = (code.after cs).isCode := by
  cases cs with
  | nil => exact hz
  | cons c cs =>
    have hc : z.completes c = false := by simpa [joins] using hj
    simp only [after, List.foldl_cons, next_eq_of_isCode hz hc]

theorem placeholders_eq_of_isCode {z : Zone} {cs : List Char} (hz : z.isCode = true)
    (hj : z.joins cs = false) : z.placeholders cs = code.placeholders cs := by
  cases cs with
  | nil => rfl
  | cons c cs =>
    have hc : z.completes c = false := by simpa [joins] using hj
    have hcode : code.isCode = true := rfl
    simp only [placeholders, next_eq_of_isCode hz hc, hz, hcode]

def special : List Char := ['\'', '-', '/', '?']

def isInert (c : Char) : Bool := !(special.contains c)

theorem isInert_of_class {p : Char → Bool} (hp : special.all (fun d => !p d) = true) {c : Char}
    (hc : p c = true) : isInert c = true := by
  by_cases hmem : c ∈ special
  · have hn := List.all_eq_true.mp hp c hmem
    rw [hc] at hn
    cases hn
  · simpa [isInert] using hmem

theorem isInert_of_isRemovable {c : Char} (h : Connector.isRemovable c = true) :
    isInert c = true := by
  apply isInert_of_class _ h
  decide

theorem next_of_isInert {c : Char} (h : isInert c = true) : code.next c = code := by
  simp only [isInert, special, List.contains_cons, List.contains_nil, Bool.or_false,
    Bool.not_eq_true', Bool.or_eq_false_iff, beq_eq_false_iff_ne] at h
  obtain ⟨hquote, hminus, hslash, -⟩ := h
  simp [next, ofCode, hquote, hminus, hslash]

theorem ne_mark_of_isInert {c : Char} (h : isInert c = true) : c ≠ '?' := by
  rintro rfl
  revert h
  decide

section Inert
variable {cs : List Char} (h : ∀ c ∈ cs, isInert c = true)
include h

theorem after_of_isInert : code.after cs = code := by
  induction cs with
  | nil => rfl
  | cons c cs ih =>
    have hc := next_of_isInert (h c (by simp))
    have hcs := ih fun d hd => h d (by simp [hd])
    simp only [after, List.foldl_cons] at hcs ⊢
    rw [hc, hcs]

theorem placeholders_of_isInert : code.placeholders cs = 0 := by
  apply placeholders_eq_zero
  intro hmark
  exact ne_mark_of_isInert (h _ hmark) rfl

end Inert

section Removed
variable {front removed : List Char} (hf : ∀ c ∈ front, isInert c = true)
  (hr : ∀ c ∈ removed, isInert c = true) (behind : List Char)
include hf hr

theorem after_removed : code.after (front ++ removed ++ behind) = code.after (front ++ behind) := by
  simp only [after_append, after_of_isInert hf, after_of_isInert hr]

theorem placeholders_removed :
    code.placeholders (front ++ removed ++ behind) = code.placeholders (front ++ behind) := by
  simp only [placeholders_append, after_append, after_of_isInert hf, after_of_isInert hr,
    placeholders_of_isInert hr, Nat.add_zero]

end Removed

end Zone

def Closed (cs : List Char) : Prop :=
  (Zone.code.after cs).isCode = true ∧ Zone.code.placeholders cs = 0

instance (cs : List Char) : Decidable (Closed cs) := inferInstanceAs (Decidable (_ ∧ _))

namespace Closed

theorem of_isInert {cs : List Char} (h : ∀ c ∈ cs, Zone.isInert c = true) : Closed cs := by
  refine ⟨?_, Zone.placeholders_of_isInert h⟩
  rw [Zone.after_of_isInert h]
  rfl

theorem append {as bs : List Char} (ha : Closed as) (hb : Closed bs)
    (hj : (Zone.code.after as).joins bs = false) : Closed (as ++ bs) := by
  obtain ⟨hcode, hcount⟩ := ha
  constructor
  · rw [Zone.after_append, Zone.isCode_after hcode hj]
    exact hb.1
  · rw [Zone.placeholders_append, hcount, Zone.placeholders_eq_of_isCode hcode hj, hb.2]

end Closed

end SqlTemplate.Sql
