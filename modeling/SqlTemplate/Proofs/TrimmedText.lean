import Mathlib.Data.List.TakeWhile
import SqlTemplate.Proofs.PathText
import SqlTemplate.Text.Blank

namespace SqlTemplate.Text

def Surrounds (text core : List Char) : Prop :=
  (∀ c ∈ core.head?, isBlank c = false) ∧ (∀ c ∈ core.getLast?, isBlank c = false) ∧
    ∃ before behind, (∀ c ∈ before, isBlank c = true) ∧ (∀ c ∈ behind, isBlank c = true) ∧
      text = before ++ (core ++ behind)

theorem Surrounds.trim {text core : List Char} (h : Surrounds text core) : Text.trim text = core := by
  obtain ⟨hhead, hlast, before, behind, hbefore, hbehind, rfl⟩ := h
  cases core with
  | nil =>
    have hblank : ∀ c ∈ before ++ behind, isBlank c = true :=
      List.forall_mem_append.mpr ⟨hbefore, hbehind⟩
    rw [Text.trim, trimStart, List.nil_append, List.dropWhile_eq_nil_iff.mpr hblank]
    rfl
  | cons c cs =>
    have hreverse : ∀ d ∈ (c :: cs).reverse.head?, isBlank d = false := by
      rwa [List.head?_reverse]
    have hbehind' : ∀ d ∈ behind.reverse, isBlank d = true :=
      fun d hd => hbehind d (List.mem_reverse.mp hd)
    rw [Text.trim, trimStart, dropWhile_append_eq hbefore (by simpa using hhead), trimEnd,
      List.reverse_append, dropWhile_append_eq hbehind' hreverse, List.reverse_reverse]

theorem isBlank_head?_dropWhile (cs : List Char) :
    ∀ c ∈ (cs.dropWhile isBlank).head?, isBlank c = false := by
  intro c hc
  have hnot := List.head?_dropWhile_not isBlank cs
  rw [hc] at hnot
  exact hnot

theorem surrounds_trim (text : List Char) : Surrounds text (trim text) := by
  have hend : trimStart text = trim text ++ ((trimStart text).reverse.takeWhile isBlank).reverse := by
    rw [trim, trimEnd, ← List.reverse_append, List.takeWhile_append_dropWhile, List.reverse_reverse]
  refine ⟨?_, ?_, text.takeWhile isBlank, ((trimStart text).reverse.takeWhile isBlank).reverse,
    ?_, ?_, ?_⟩
  · intro c hc
    apply isBlank_head?_dropWhile text c
    rw [← trimStart, hend, List.head?_append, hc]
    rfl
  · rw [trim, trimEnd, List.getLast?_reverse]
    exact isBlank_head?_dropWhile _
  · exact fun c hc => List.all_eq_true.mp List.all_takeWhile c hc
  · exact fun c hc => List.all_eq_true.mp List.all_takeWhile c (List.mem_reverse.mp hc)
  · rw [← hend, trimStart, List.takeWhile_append_dropWhile]

theorem trim_of_blank {text : List Char} (h : ∀ c ∈ text, isBlank c = true) : trim text = [] :=
  Surrounds.trim ⟨by simp, by simp, text, [], h, by simp, by simp⟩

theorem exists_blank_of_trim {text word : List Char} (h : trim text = word)
    (hhead : ∀ c ∈ text.head?, isBlank c = false) :
    ∃ blank, text = word ++ blank ∧ ∀ c ∈ blank, isBlank c = true := by
  obtain ⟨-, -, before, behind, hbefore, hbehind, htext⟩ := surrounds_trim text
  rw [h] at htext
  cases before with
  | nil => exact ⟨behind, htext, hbehind⟩
  | cons c before =>
    have hblank := hbefore c List.mem_cons_self
    rw [hhead c (by rw [htext]; rfl)] at hblank
    cases hblank

end SqlTemplate.Text
