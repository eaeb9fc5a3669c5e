import SqlTemplate.Proofs.ConnectorText
import SqlTemplate.Proofs.PathText
import SqlTemplate.Proofs.ValidSettings

namespace SqlTemplate.Connector

def variants (w : Char) : List Char :=
  w.toLower :: w.toUpper ::
    if w.toLower = 'k' then ['\u212a'] else if w.toLower = 's' then ['\u017f'] else []

def Spells (word text : List Char) : Prop := List.Forall₂ (fun w c => c ∈ variants w) word text

def isWordBoundary (front behind : List Char) : Bool :=
  front.getLast?.any Text.isWordCharacter != behind.head?.any Text.isWordCharacter

structure Leads (words : List String) (text lead word rest : List Char) : Prop where
  text_eq : text = lead ++ (word ++ rest)
  blank : ∀ c ∈ lead, Text.isBlank c = true
  maximal : ∀ c ∈ (word ++ rest).head?, Text.isBlank c = false
  spells : ∃ w ∈ words, Spells w.toList word
  boundary : isWordBoundary word rest = true

theorem of_isIdentifierPart {p : Char → Bool}
    (hp : (List.range 128).all
      (fun n => !isIdentifierPart (Char.ofNat n) || p (Char.ofNat n)) = true)
    {c : Char} (hc : isIdentifierPart c = true) : p c = true := by
  have hn := List.all_eq_true.mp hp c.toNat (List.mem_range.mpr (toNat_lt_of_isIdentifierPart hc))
  rw [Char.ofNat_toNat, hc] at hn
  exact hn

theorem of_mem_variants {w c : Char} (hw : isIdentifierPart w = true) (hc : c ∈ variants w) :
    fold w = fold c ∧ Text.isWordCharacter c = true ∧ Text.isBlank c = false := by
  have hall : ((variants w).all fun c =>
      fold w = fold c && (Text.isWordCharacter c && !Text.isBlank c)) = true := by
    apply of_isIdentifierPart _ hw
    decide +kernel
  have h := List.all_eq_true.mp hall c hc
  simpa using h

theorem eq_toLower_or_toUpper (c : Char) : c = c.toLower ∨ c = c.toLower.toUpper := by
  by_cases hc : c.toNat < 128
  · have hall : ∀ n < 128, Char.ofNat n = (Char.ofNat n).toLower ∨
        Char.ofNat n = (Char.ofNat n).toLower.toUpper := by decide
    have h := hall c.toNat hc
    rwa [Char.ofNat_toNat] at h
  · have hnot : ¬(c.val ≥ 'A'.val ∧ c.val ≤ 'Z'.val) := by
      rintro ⟨-, hz⟩
      exact hc (Nat.lt_of_le_of_lt hz (by decide))
    have hlower : c.toLower = c := dif_neg hnot
    exact .inl hlower.symm

theorem mem_variants_iff {w c : Char} (hw : isIdentifierPart w = true) :
    c ∈ variants w ↔ fold w = fold c := by
  constructor
  · exact fun hc => (of_mem_variants hw hc).1
  · intro hfold
    have hall : (fold w = w.toLower && w.toLower.toUpper = w.toUpper) = true := by
      apply of_isIdentifierPart _ hw
      decide
    simp only [Bool.and_eq_true, decide_eq_true_eq] at hall
    obtain ⟨hlower, hupper⟩ := hall
    rw [hlower, fold] at hfold
    split at hfold
    · next hc => simp [variants, hfold, hc]
    · split at hfold
      · next hc => simp [variants, hfold, hc]
      · have hc : c = w.toLower ∨ c = w.toUpper := by
          rw [← hupper, hfold]
          exact eq_toLower_or_toUpper c
        rcases hc with hc | hc <;> simp [variants, hc]

theorem spells_iff_folds {word front : List Char} (hw : ∀ w ∈ word, isIdentifierPart w = true) :
    Spells word front ↔ List.Forall₂ (fun w c => fold w = fold c) word front := by
  constructor
  · intro h
    induction h with
    | nil => exact .nil
    | cons hc _ ih =>
      rw [List.forall_mem_cons] at hw
      exact .cons ((mem_variants_iff hw.1).mp hc) (ih hw.2)
  · intro h
    induction h with
    | nil => exact .nil
    | cons hf _ ih =>
      rw [List.forall_mem_cons] at hw
      exact .cons ((mem_variants_iff hw.1).mpr hf) (ih hw.2)

theorem of_mem_spelled {word front : List Char} (hw : ∀ w ∈ word, isIdentifierPart w = true)
    (h : Spells word front) :
    ∀ c ∈ front, Text.isWordCharacter c = true ∧ Text.isBlank c = false := by
  induction h with
  | nil => simp
  | cons hc _ ih =>
    rw [List.forall_mem_cons] at hw ⊢
    exact ⟨(of_mem_variants hw.1 hc).2, ih hw.2⟩

section Word
variable {word : String} (hw : isIdentifier word.toList = true)
include hw

theorem Spells.ne_nil {front : List Char} (h : Spells word.toList front) : front ≠ [] := by
  rintro rfl
  rw [List.forall₂_nil_right_iff.mp h] at hw
  cases hw

theorem isWordBoundary_eq {front : List Char} (h : Spells word.toList front) (rest : List Char) :
    isWordBoundary front rest = atBoundary rest := by
  have hlast := (of_mem_spelled (isIdentifierPart_of_mem hw) h _
    (List.getLast_mem (h.ne_nil hw))).1
  rw [isWordBoundary, List.getLast?_eq_some_getLast (h.ne_nil hw), Option.any_some, hlast,
    atBoundary, Bool.true_bne]

theorem dropWhole?_eq_some_iff {text rest : List Char} :
    dropWhole? text word = some rest ↔
      ∃ front, text = front ++ rest ∧ Spells word.toList front ∧
        isWordBoundary front rest = true := by
  simp only [dropWhole?, Option.filter_eq_some_iff, dropWord?_eq_some_iff,
    ← spells_iff_folds (isIdentifierPart_of_mem hw)]
  constructor
  · rintro ⟨⟨front, htext, hfront⟩, hend⟩
    exact ⟨front, htext, hfront, (isWordBoundary_eq hw hfront rest).trans hend⟩
  · rintro ⟨front, htext, hfront, hend⟩
    exact ⟨⟨front, htext, hfront⟩, (isWordBoundary_eq hw hfront rest).symm.trans hend⟩

end Word

theorem eq_of_starts {v w : String} (hv : isIdentifier v.toList = true)
    (hw : isIdentifier w.toList = true) {front rest longer behind : List Char}
    (hfront : Spells v.toList front) (hlonger : Spells w.toList longer)
    (hend : isWordBoundary front rest = true) (h : front ++ rest = longer ++ behind)
    (hstarts : front <+: longer) : front = longer := by
  obtain ⟨more, rfl⟩ := hstarts
  cases more with
  | nil => simp
  | cons c more =>
    -- The next character is one of the longer word, so no word ends in front of it.
    rw [List.append_assoc, List.append_cancel_left_eq] at h
    have hc := (of_mem_spelled (isIdentifierPart_of_mem hw) hlonger c (by simp)).1
    rw [isWordBoundary_eq hv hfront, h] at hend
    simp [atBoundary, hc] at hend

section Words
variable {words : List String} (hw : ∀ w ∈ words, isIdentifier w.toList = true)
  {text lead word rest lead' word' rest' : List Char}
include hw

theorem Leads.unique (h : Leads words text lead word rest)
    (h' : Leads words text lead' word' rest') : lead = lead' ∧ word = word' ∧ rest = rest' := by
  have htext := h.text_eq.symm.trans h'.text_eq
  have hlead : lead = lead' := by
    rw [← Text.takeWhile_append_eq h.blank h.maximal,
      ← Text.takeWhile_append_eq h'.blank h'.maximal, htext]
  subst hlead
  rw [List.append_cancel_left_eq] at htext
  obtain ⟨v, hv, hspells⟩ := h.spells
  obtain ⟨v', hv', hspells'⟩ := h'.spells
  have hword : word = word' := by
    rcases List.prefix_or_prefix_of_prefix ⟨rest, htext⟩ ⟨rest', rfl⟩ with hp | hp
    · exact eq_of_starts (hw v hv) (hw v' hv') hspells hspells' h.boundary htext hp
    · exact (eq_of_starts (hw v' hv') (hw v hv) hspells' hspells h'.boundary htext.symm hp).symm
  subst hword
  exact ⟨rfl, rfl, List.append_cancel_left htext⟩

theorem leads_of_findSome?
    (h : words.findSome? (dropWhole? (text.dropWhile Text.isBlank)) = some rest) :
    ∃ word, Leads words text (text.takeWhile Text.isBlank) word rest := by
  obtain ⟨w, hmem, hdrop⟩ := List.exists_of_findSome?_eq_some h
  obtain ⟨front, htext, hspells, hend⟩ := (dropWhole?_eq_some_iff (hw w hmem)).mp hdrop
  refine ⟨front, ?_, ?_, ?_, ⟨w, hmem, hspells⟩, hend⟩
  · rw [← htext, List.takeWhile_append_dropWhile]
  · exact List.all_eq_true.mp List.all_takeWhile
  · rw [← htext]
    intro c hc
    have hnot := List.head?_dropWhile_not Text.isBlank text
    rw [Option.mem_def.mp hc] at hnot
    simpa using hnot

theorem Leads.findSome? (h : Leads words text lead word rest) :
    words.findSome? (dropWhole? (text.dropWhile Text.isBlank)) = some rest := by
  obtain ⟨w, hmem, hspells⟩ := h.spells
  have hdrop : text.dropWhile Text.isBlank = word ++ rest := by
    rw [h.text_eq]
    exact Text.dropWhile_append_eq h.blank h.maximal
  have hsome := (dropWhole?_eq_some_iff (hw w hmem)).mpr ⟨word, hdrop, hspells, h.boundary⟩
  cases hfind : words.findSome? (dropWhole? (text.dropWhile Text.isBlank)) with
  | none =>
    rw [List.findSome?_eq_none_iff.mp hfind w hmem] at hsome
    cases hsome
  | some other =>
    -- It may be another connector that is found first, but it is the same word of the text.
    obtain ⟨front, hother⟩ := leads_of_findSome? hw hfind
    rw [(h.unique hw hother).2.2]

theorem Leads.strip (h : Leads words text lead word rest) :
    strip words text = lead ++ Text.trimStart rest := by
  have hlead : text.takeWhile Text.isBlank = lead := by
    rw [h.text_eq]
    exact Text.takeWhile_append_eq h.blank h.maximal
  simp only [Connector.strip, h.findSome? hw, hlead]

theorem strip_of_not_leads (h : ∀ lead word rest, ¬Leads words text lead word rest) :
    strip words text = text := by
  cases hfind : words.findSome? (dropWhole? (text.dropWhile Text.isBlank)) with
  | none => simp only [Connector.strip, hfind]
  | some rest =>
    obtain ⟨word, hleads⟩ := leads_of_findSome? hw hfind
    exact absurd hleads (h _ word rest)

end Words

theorem Leads.mono {words more : List String} {text lead word rest : List Char}
    (h : Leads words text lead word rest) (hmore : ∀ w ∈ words, w ∈ more) :
    Leads more text lead word rest := by
  obtain ⟨w, hmem, hspells⟩ := h.spells
  exact { h with spells := ⟨w, hmore w hmem, hspells⟩ }

theorem strip_congr {words same : List String} (hw : ∀ w ∈ words, isIdentifier w.toList = true)
    (hsame : ∀ w, w ∈ same ↔ w ∈ words) (text : List Char) :
    strip same text = strip words text := by
  have hids : ∀ w ∈ same, isIdentifier w.toList = true := fun w hmem => hw w ((hsame w).mp hmem)
  by_cases h : ∃ lead word rest, Leads words text lead word rest
  · obtain ⟨lead, word, rest, h⟩ := h
    rw [h.strip hw, (h.mono fun w => (hsame w).mpr).strip hids]
  · push Not at h
    rw [strip_of_not_leads hw h, strip_of_not_leads hids]
    intro lead word rest hleads
    exact h lead word rest (hleads.mono fun w => (hsame w).mp)

end Connector

/-- A text that starts, behind white space, with a connector as a whole word loses this word and
the white space behind it, and any other text stays as it is. There is never a choice between two
words, so the connectors can stand in any order and any number of times. -/
theorem Settings.strip_connector {s : Settings} (hs : s.check = .ok ()) (text : String) :
    (∀ lead word rest, Connector.Leads s.connectors text.toList lead word rest →
        s.strip text = String.ofList (lead ++ Text.trimStart rest)) ∧
      ((∀ lead word rest, ¬Connector.Leads s.connectors text.toList lead word rest) →
        s.strip text = text) ∧
      (∀ lead word rest lead' word' rest',
        Connector.Leads s.connectors text.toList lead word rest →
        Connector.Leads s.connectors text.toList lead' word' rest' →
        lead = lead' ∧ word = word' ∧ rest = rest') ∧
      ∀ words, (∀ w, w ∈ words ↔ w ∈ s.connectors) →
        { s with connectors := words }.strip text = s.strip text := by
  have hw := s.isIdentifier_of_check hs
  refine ⟨?_, ?_, ?_, ?_⟩
  · intro lead word rest h
    rw [strip, h.strip hw]
  · intro h
    rw [strip, Connector.strip_of_not_leads hw h, String.ofList_toList]
  · intro lead word rest lead' word' rest' h h'
    exact h.unique hw h'
  · intro words hsame
    rw [strip, strip, Connector.strip_congr hw hsame]

def nestedConnectors : Settings := { connectors := ["AS", "ASK"] }

theorem Connector.leads_nested : Connector.Leads nestedConnectors.connectors
    " a\u017f\u212a  B".toList [' '] "a\u017f\u212a".toList "  B".toList where
  text_eq := rfl
  blank := List.forall_mem_singleton.mpr (by decide)
  maximal := by
    intro c hc
    cases hc
    decide
  spells := ⟨"ASK", by decide, .cons (by decide) (.cons (by decide) (.cons (by decide) .nil))⟩
  boundary := by decide +kernel

theorem Settings.strip_connector_nested :
    nestedConnectors.check = .ok () ∧
      nestedConnectors.strip " a\u017f\u212a  B" = " B" ∧
      nestedConnectors.strip "ASKED" = "ASKED" ∧
      { nestedConnectors with connectors := ["ASK", "AS", "ASK"] }.strip " a\u017f\u212a  B" =
        nestedConnectors.strip " a\u017f\u212a  B" ∧
      ∀ lead word rest,
        Connector.Leads nestedConnectors.connectors " a\u017f\u212a  B".toList lead word rest →
        lead = [' '] ∧ word = "a\u017f\u212a".toList ∧ rest = "  B".toList := by
  have hs : nestedConnectors.check = .ok () := by decide
  have hnot : ∀ lead word rest, ¬Connector.Leads nestedConnectors.connectors "ASKED".toList
      lead word rest := by
    intro lead word rest h
    have hfind := h.findSome? (nestedConnectors.isIdentifier_of_check hs)
    have hnone : nestedConnectors.connectors.findSome?
        (Connector.dropWhole? ("ASKED".toList.dropWhile Text.isBlank)) = none := by decide +kernel
    rw [hnone] at hfind
    cases hfind
  obtain ⟨hleads, -, hunique, hsame⟩ := Settings.strip_connector hs " a\u017f\u212a  B"
  have hother := (Settings.strip_connector hs "ASKED").2.1
  refine ⟨hs, hleads _ _ _ Connector.leads_nested, hother hnot, hsame _ ?_, ?_⟩
  · simp [nestedConnectors, or_comm]
  · intro lead word rest h
    exact hunique _ _ _ _ _ _ h Connector.leads_nested

end SqlTemplate
