import Mathlib.Data.List.Infix
import SqlTemplate.Proofs.ValidSettings
import SqlTemplate.Render.Filling

namespace SqlTemplate

def LikeMode.Finds (text subject : List Char) : LikeMode → Prop
  | atStart => text <+: subject
  | atEnd => text <:+ subject
  | anywhere => text <:+: subject

namespace Like

/-- How SQL reads a pattern. The character behind the escape character stands for itself, `%` for
any text and `_` for any character; a pattern that ends in an escape character matches nothing. -/
def accepts (escapeChar : Char) : (pattern subject : List Char) → Bool
  | [], subject => subject.isEmpty
  | p :: ps, subject =>
    if p = escapeChar then
      match ps, subject with
      | q :: qs, c :: cs => q = c && accepts escapeChar qs cs
      | _, _ => false
    else if p = '%' then subject.tails.any (accepts escapeChar ps)
    else
      match subject with
      | c :: cs => (p = '_' || p = c) && accepts escapeChar ps cs
      | [] => false

example : accepts '|' "a|%_%".toList "a%bc".toList = true := by decide

section Accepts
variable {e : Char}

theorem and_accepts_iff (c d : Char) (ps ds : List Char) :
    (decide (c = d) && accepts e ps ds) = true ↔
      ∃ rest, d :: ds = c :: rest ∧ accepts e ps rest = true := by
  simp only [Bool.and_eq_true, decide_eq_true_eq, List.cons.injEq]
  constructor
  · rintro ⟨rfl, h⟩
    exact ⟨ds, ⟨rfl, rfl⟩, h⟩
  · rintro ⟨rest, ⟨rfl, rfl⟩, h⟩
    exact ⟨rfl, h⟩

theorem accepts_escaped (c : Char) (ps subject : List Char) :
    accepts e (e :: c :: ps) subject = true ↔
      ∃ rest, subject = c :: rest ∧ accepts e ps rest = true := by
  cases subject with
  | nil => simp [accepts]
  | cons d ds =>
    rw [← and_accepts_iff, accepts.eq_def]
    simp

theorem accepts_cons {p : Char} (he : p ≠ e) (ps subject : List Char) :
    accepts e (p :: ps) subject =
      if p = '%' then subject.tails.any (accepts e ps)
      else
        match subject with
        | c :: cs => (p = '_' || p = c) && accepts e ps cs
        | [] => false := by
  rw [accepts.eq_def e (p :: ps)]
  exact if_neg he

theorem accepts_plain {c : Char} (he : c ≠ e) (hany : c ≠ '%') (hone : c ≠ '_')
    (ps subject : List Char) :
    accepts e (c :: ps) subject = true ↔
      ∃ rest, subject = c :: rest ∧ accepts e ps rest = true := by
  rw [accepts_cons he, if_neg hany]
  cases subject with
  | nil => simp
  | cons d ds =>
    rw [← and_accepts_iff]
    simp [hone]

theorem accepts_any (he : e ≠ '%') (ps subject : List Char) :
    accepts e ('%' :: ps) subject = true ↔
      ∃ front rest, subject = front ++ rest ∧ accepts e ps rest = true := by
  rw [accepts_cons he.symm, if_pos rfl, List.any_eq_true]
  constructor
  · rintro ⟨rest, hmem, h⟩
    obtain ⟨front, rfl⟩ := (List.mem_tails rest subject).mp hmem
    exact ⟨front, rest, rfl, h⟩
  · rintro ⟨front, rest, rfl, h⟩
    exact ⟨rest, (List.mem_tails rest _).mpr (List.suffix_append front rest), h⟩

theorem accepts_escape_append (text ps subject : List Char) :
    accepts e (escape e text ++ ps) subject = true ↔
      ∃ rest, subject = text ++ rest ∧ accepts e ps rest = true := by
  induction text generalizing subject with
  | nil => simp [escape]
  | cons c text ih =>
    have hstep : accepts e (escape e (c :: text) ++ ps) subject = true ↔
        ∃ rest, subject = c :: rest ∧ accepts e (escape e text ++ ps) rest = true := by
      by_cases hc : c = e ∨ c = '%' ∨ c = '_'
      · rw [escape, if_pos hc]
        exact accepts_escaped c _ subject
      · rw [escape, if_neg hc]
        simp only [not_or] at hc
        exact accepts_plain hc.1 hc.2.1 hc.2.2 _ subject
    rw [hstep]
    constructor
    · rintro ⟨cs, rfl, h⟩
      obtain ⟨rest, rfl, hrest⟩ := (ih cs).mp h
      exact ⟨rest, rfl, hrest⟩
    · rintro ⟨rest, rfl, h⟩
      exact ⟨text ++ rest, rfl, (ih _).mpr ⟨rest, rfl, h⟩⟩

theorem accepts_escape (text subject : List Char) :
    accepts e (escape e text) subject = true ↔ subject = text := by
  rw [← List.append_nil (escape e text), accepts_escape_append]
  simp [accepts]

theorem accepts_rest (he : e ≠ '%') (subject : List Char) : accepts e ['%'] subject = true :=
  (accepts_any he [] subject).mpr ⟨subject, [], by simp, by simp [accepts]⟩

theorem accepts_surround (he : e ≠ '%') (mode : LikeMode) (text subject : List Char) :
    accepts e (surround mode (escape e text)) subject = true ↔ mode.Finds text subject := by
  cases mode with
  | atStart =>
    rw [surround, accepts_escape_append]
    constructor
    · rintro ⟨rest, rfl, -⟩
      exact List.prefix_append text rest
    · rintro ⟨rest, rfl⟩
      exact ⟨rest, rfl, accepts_rest he rest⟩
  | atEnd =>
    rw [surround, accepts_any he]
    constructor
    · rintro ⟨front, rest, rfl, h⟩
      rw [(accepts_escape text rest).mp h]
      exact List.suffix_append front text
    · rintro ⟨front, rfl⟩
      exact ⟨front, text, rfl, (accepts_escape text text).mpr rfl⟩
  | anywhere =>
    rw [surround, accepts_any he]
    constructor
    · rintro ⟨front, cs, rfl, h⟩
      obtain ⟨rest, rfl, -⟩ := (accepts_escape_append text _ cs).mp h
      exact ⟨front, rest, by simp⟩
    · rintro ⟨front, rest, rfl⟩
      refine ⟨front, text ++ rest, by simp, ?_⟩
      exact (accepts_escape_append text _ _).mpr ⟨rest, rfl, accepts_rest he rest⟩

end Accepts

theorem escapeClause_eq {e : Char} (he : e ≠ '\'') :
    escapeClause e = " escape " ++ Sql.quote e.toString := by
  apply String.toList_inj.mp
  simp [escapeClause, Sql.quote, Sql.doubleQuotes, he, Char.toString]

theorem ne_of_isEscape {e : Char} (h : Settings.isEscape e = true) : e ≠ '%' ∧ e ≠ '\'' := by
  constructor
  · rintro rfl
    revert h
    decide
  · rintro rfl
    revert h
    decide

end Like

/-- An escaped LIKE search finds the text and nothing else, and the clause behind its placeholder
declares the escape character of its pattern. -/
theorem Like.accepts_pattern_iff {s : Settings} (hs : s.check = .ok ()) :
    (∀ (mode : LikeMode) (text subject : String),
      accepts s.likeEscape (pattern s.likeEscape mode true text).toList subject.toList = true ↔
        mode.Finds text.toList subject.toList) ∧
    ∀ (v : Variable) (mode : LikeMode), v.options.like = some mode → v.options.notEscape = false →
      ∀ (r : Resolved) (text : String), r.value = .string text →
        v.bindFilling s r =
          .ok ⟨v.placeholder ++ (" escape " ++ Sql.quote s.likeEscape.toString),
            [⟨.string (pattern s.likeEscape mode true text), r.type⟩], true, true⟩ := by
  obtain ⟨hany, hquote⟩ := ne_of_isEscape (s.isEscape_of_check hs)
  constructor
  · intro mode text subject
    rw [pattern, if_pos rfl, String.toList_ofList]
    exact accepts_surround hany mode text.toList subject.toList
  · intro v mode hlike hescape r text hr
    rw [← escapeClause_eq hquote]
    simp [Variable.bindFilling, Variable.bindWhole, Variable.searchValue, Variable.escapeClause,
      hr, hlike, hescape, bind, Except.bind, pure, Except.pure]

theorem Like.accepts_pattern_iff_percent :
    ({ likeEscape := '!' } : Settings).check = .ok () ∧
      Like.pattern '!' .atStart true "50%" = "50!%%" ∧
      Like.accepts '!' "50!%%".toList "50% off".toList = true ∧
      ¬Like.accepts '!' "50!%%".toList "500 off".toList = true := by
  have h := (Like.accepts_pattern_iff (s := { likeEscape := '!' }) rfl).1 .atStart "50%"
  refine ⟨rfl, rfl, (h "50% off").mpr ⟨" off".toList, rfl⟩, ?_⟩
  rintro hno
  obtain ⟨rest, hrest⟩ := (h "500 off").mp hno
  cases hrest

end SqlTemplate
