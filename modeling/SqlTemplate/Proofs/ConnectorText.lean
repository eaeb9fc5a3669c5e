import Mathlib.Data.List.Forall2
import SqlTemplate.Render.Connector

namespace SqlTemplate.Connector

theorem toNat_lt_of_isIdentifierPart {c : Char} (h : isIdentifierPart c = true) :
    c.toNat < 128 := by
  simp only [isIdentifierPart, isIdentifierStart, Number.isDigit, Bool.or_eq_true,
    Bool.and_eq_true, decide_eq_true_eq, Char.le_def, UInt32.le_iff_toNat_le] at h
  rcases h with ((⟨_, h⟩ | ⟨_, h⟩) | rfl) | ⟨_, h⟩
  · exact Nat.lt_of_le_of_lt h (by decide)
  · exact Nat.lt_of_le_of_lt h (by decide)
  · decide
  · exact Nat.lt_of_le_of_lt h (by decide)

theorem isIdentifierPart_fold {c : Char} (h : isIdentifierPart c = true) :
    isIdentifierPart (fold c) = true := by
  have hall : ∀ n < 128, isIdentifierPart (Char.ofNat n) = true →
      isIdentifierPart (fold (Char.ofNat n)) = true := by decide
  have hc := hall c.toNat (toNat_lt_of_isIdentifierPart h)
  rw [Char.ofNat_toNat] at hc
  exact hc h

theorem isIdentifierPart_of_mem {word : String} (hw : isIdentifier word.toList = true) :
    ∀ c ∈ word.toList, isIdentifierPart c = true := by
  intro c hc
  cases hl : word.toList with
  | nil => rw [hl] at hc; cases hc
  | cons d ds =>
    rw [hl] at hw hc
    simp only [isIdentifier, Bool.and_eq_true, List.all_eq_true] at hw
    rcases List.mem_cons.mp hc with rfl | hc
    · simp [isIdentifierPart, hw.1]
    · exact hw.2 c hc

theorem dropWord?_eq_some_iff {word t r : List Char} :
    dropWord? word t = some r ↔
      ∃ m, t = m ++ r ∧ List.Forall₂ (fun w c => fold w = fold c) word m := by
  induction word generalizing t with
  | nil => simp [dropWord?]
  | cons w word ih =>
    cases t with
    | nil => simp [dropWord?]
    | cons c t =>
      rw [dropWord?]
      constructor
      · intro h
        split at h
        · next hf =>
          obtain ⟨m, rfl, hm⟩ := ih.mp h
          exact ⟨c :: m, rfl, .cons hf hm⟩
        · cases h
      · rintro ⟨m, ht, hm⟩
        cases hm with
        | cons hf hm =>
          cases ht
          rw [if_pos hf]
          exact ih.mpr ⟨_, rfl, hm⟩

def isRemovable (c : Char) : Bool := Text.isBlank c || isIdentifierPart (fold c)

theorem isRemovable_of_folds {word m : List Char} (hw : ∀ w ∈ word, isIdentifierPart w = true)
    (h : List.Forall₂ (fun w c => fold w = fold c) word m) : ∀ c ∈ m, isRemovable c = true := by
  induction h with
  | nil => simp
  | cons hf _ ih =>
    rw [List.forall_mem_cons] at hw ⊢
    have hp := isIdentifierPart_fold hw.1
    rw [hf] at hp
    exact ⟨by simp [isRemovable, hp], ih hw.2⟩

theorem dropWhole?_eq_some {t r : List Char} {word : String}
    (hw : isIdentifier word.toList = true) (h : dropWhole? t word = some r) :
    ∃ m, t = m ++ r ∧ ∀ c ∈ m, isRemovable c = true := by
  obtain ⟨hd, -⟩ := Option.filter_eq_some_iff.mp h
  obtain ⟨m, ht, hm⟩ := dropWord?_eq_some_iff.mp hd
  exact ⟨m, ht, isRemovable_of_folds (isIdentifierPart_of_mem hw) hm⟩

theorem strip_eq {words : List String} (hw : ∀ w ∈ words, isIdentifier w.toList = true)
    (t : List Char) :
    ∃ m r, t = t.takeWhile Text.isBlank ++ m ++ r ∧
      strip words t = t.takeWhile Text.isBlank ++ r ∧ ∀ c ∈ m, isRemovable c = true := by
  unfold strip
  dsimp only
  split
  · next rest h =>
    obtain ⟨w, hmem, hr⟩ := List.exists_of_findSome?_eq_some h
    obtain ⟨m, hm, hrem⟩ := dropWhole?_eq_some (hw w hmem) hr
    refine ⟨m ++ rest.takeWhile Text.isBlank, Text.trimStart rest, ?_, rfl, ?_⟩
    · rw [Text.trimStart, List.append_assoc, List.append_assoc, List.takeWhile_append_dropWhile,
        ← hm, List.takeWhile_append_dropWhile]
    · intro c hc
      rcases List.mem_append.mp hc with hc | hc
      · exact hrem c hc
      · have hb := List.all_eq_true.mp List.all_takeWhile c hc
        simp [isRemovable, hb]
  · exact ⟨[], t.dropWhile Text.isBlank, by simp, by simp, by simp⟩

theorem strip_span {words : List String} (hw : ∀ w ∈ words, isIdentifier w.toList = true)
    (t : List Char) :
    ∃ m r, t = t.takeWhile Text.isBlank ++ m ++ r ∧
      strip words t = t.takeWhile Text.isBlank ++ r ∧ (∀ c ∈ m, isRemovable c = true) ∧
      (t.takeWhile Text.isBlank).length + (t.length - (strip words t).length) =
        (t.takeWhile Text.isBlank ++ m).length := by
  obtain ⟨m, r, ht, hr, hm⟩ := strip_eq hw t
  refine ⟨m, r, ht, hr, hm, ?_⟩
  have hlen := congrArg List.length ht
  rw [hr]
  simp only [List.length_append] at hlen ⊢
  omega

theorem take_append_drop_strip {words : List String}
    (hw : ∀ w ∈ words, isIdentifier w.toList = true) (t : List Char) :
    t.take (t.takeWhile Text.isBlank).length ++
        t.drop ((t.takeWhile Text.isBlank).length + (t.length - (strip words t).length)) =
      strip words t := by
  obtain ⟨m, r, ht, hr, -, hlen⟩ := strip_span hw t
  rw [hlen, hr]
  generalize t.takeWhile Text.isBlank = front at ht ⊢
  rw [ht, List.drop_left, List.append_assoc, List.take_left]

theorem isRemovable_of_isBlank {c : Char} (h : Text.isBlank c = true) : isRemovable c = true := by
  simp [isRemovable, h]

theorem isRemovable_of_mem_take {words : List String}
    (hw : ∀ w ∈ words, isIdentifier w.toList = true) (t : List Char) :
    ∀ c ∈ t.take ((t.takeWhile Text.isBlank).length + (t.length - (strip words t).length)),
      isRemovable c = true := by
  obtain ⟨m, r, ht, -, hm, hlen⟩ := strip_span hw t
  have hfront : ∀ c ∈ t.takeWhile Text.isBlank, isRemovable c = true := by
    intro c hc
    exact isRemovable_of_isBlank (List.all_eq_true.mp List.all_takeWhile c hc)
  rw [hlen]
  generalize t.takeWhile Text.isBlank = front at ht hfront ⊢
  rw [ht, List.take_left]
  intro c hc
  rcases List.mem_append.mp hc with hc | hc
  · exact hfront c hc
  · exact hm c hc

theorem dropWord?_append {word : List Char} (hw : ∀ c ∈ word, isIdentifierPart c = true)
    (t r : List Char) :
    dropWord? word (t ++ '?' :: r) = (dropWord? word t).map (· ++ '?' :: r) := by
  induction word generalizing t with
  | nil => rfl
  | cons w word ih =>
    cases t with
    | nil =>
      have hne : fold w ≠ fold '?' := by
        intro he
        have hp := isIdentifierPart_fold (hw w (by simp))
        rw [he] at hp
        revert hp
        decide
      simp [dropWord?, hne]
    | cons c t =>
      simp only [List.cons_append, dropWord?]
      split
      · exact ih (fun c hc => hw c (by simp [hc])) t
      · rfl

theorem atBoundary_append (t r : List Char) :
    atBoundary (t ++ '?' :: r) = atBoundary t := by
  cases t with
  | nil =>
    have hq : Text.isWordCharacter '?' = false := by decide
    simp [atBoundary, hq]
  | cons c t => rfl

theorem dropWhole?_append {word : String} (hw : isIdentifier word.toList = true)
    (t r : List Char) :
    dropWhole? (t ++ '?' :: r) word = (dropWhole? t word).map (· ++ '?' :: r) := by
  rw [dropWhole?, dropWhole?, dropWord?_append (isIdentifierPart_of_mem hw)]
  cases dropWord? word.toList t with
  | none => rfl
  | some rest =>
    simp only [Option.map_some, Option.filter_some, atBoundary_append]
    split <;> rfl

theorem dropWhile_isBlank_append (t r : List Char) :
    (t ++ '?' :: r).dropWhile Text.isBlank = t.dropWhile Text.isBlank ++ '?' :: r := by
  have hq : Text.isBlank '?' = false := by decide
  rw [List.dropWhile_append]
  split
  · next he => simp [List.isEmpty_iff.mp he, List.dropWhile_cons_of_neg, hq]
  · rfl

theorem takeWhile_isBlank_append (t r : List Char) :
    (t ++ '?' :: r).takeWhile Text.isBlank = t.takeWhile Text.isBlank := by
  have hq : Text.isBlank '?' = false := by decide
  rw [List.takeWhile_append]
  split
  · next hl =>
    have ht := (List.takeWhile_prefix Text.isBlank (l := t)).eq_of_length hl
    simp [ht, List.takeWhile_cons_of_neg, hq]
  · rfl

theorem findSome?_dropWhole?_append {words : List String}
    (hw : ∀ w ∈ words, isIdentifier w.toList = true) (t r : List Char) :
    words.findSome? (dropWhole? (t ++ '?' :: r)) =
      (words.findSome? (dropWhole? t)).map (· ++ '?' :: r) := by
  induction words with
  | nil => rfl
  | cons w words ih =>
    rw [List.findSome?_cons, List.findSome?_cons, dropWhole?_append (hw w (by simp))]
    cases dropWhole? t w with
    | none => exact ih (fun v hv => hw v (by simp [hv]))
    | some rest => rfl

theorem strip_append {words : List String} (hw : ∀ w ∈ words, isIdentifier w.toList = true)
    (t r : List Char) : strip words (t ++ '?' :: r) = strip words t ++ '?' :: r := by
  simp only [strip, takeWhile_isBlank_append, dropWhile_isBlank_append,
    findSome?_dropWhole?_append hw]
  cases words.findSome? (dropWhole? (t.dropWhile Text.isBlank)) with
  | none => rfl
  | some rest =>
    simp only [Option.map_some, Text.trimStart, dropWhile_isBlank_append, List.append_assoc]

end SqlTemplate.Connector
