import SqlTemplate.Proofs.EmbeddedText

namespace SqlTemplate

namespace Sql.Zone

theorem placeholders_eq_code_iff (z : Zone) :
    (∀ behind, z.placeholders behind = code.placeholders behind) ↔ z = .code := by
  constructor
  · intro h
    cases z with
    | code => rfl
    | afterMinus => exact absurd (h ['-', '?']) (by decide)
    | afterSlash => exact absurd (h ['*', '?']) (by decide)
    | literal | lineComment | blockComment | afterStar => exact absurd (h ['?']) (by decide)
  · rintro rfl behind
    rfl

end Sql.Zone

namespace Sql

theorem placeholderCount_append {front : List Char} (h : hasPlaceholder front = false)
    (behind : List Char) :
    placeholderCount (front ++ behind) = (Zone.code.after front).placeholders behind := by
  rw [hasPlaceholder, decide_eq_false_iff_not] at h
  have hcount : Zone.code.placeholders front = 0 := Nat.eq_zero_of_not_pos h
  rw [placeholderCount, Zone.placeholders_append, hcount, Nat.zero_add]

end Sql

namespace Number

open Sql

theorem after_signed {negative : Bool} {text : List Char} (hne : text ≠ [])
    (h : ∀ c ∈ text, isNumeral c = true) : Zone.code.after (signed negative text) = .code := by
  have htext := Zone.after_of_isInert fun c hc => isInert_of_isNumeral (h c hc)
  cases negative with
  | false => exact htext
  | true =>
    cases text with
    | nil => exact absurd rfl hne
    | cons c text =>
      have hc : c ≠ '-' := ne_of_isNumeral (h c List.mem_cons_self) (by decide)
      have hnext : Zone.afterMinus.next c = Zone.code.next c :=
        Zone.next_eq_of_isCode rfl (decide_eq_false hc)
      have hminus : Zone.code.next '-' = .afterMinus := by decide
      simp only [Zone.after, List.foldl_cons] at htext
      simp only [signed, if_true, Zone.after, List.foldl_cons, hminus, hnext]
      exact htext

end Number

theorem Value.after_sqlText {value : Value} {text : String} (hv : ∀ s, value ≠ .string s)
    (h : value.sqlText? = some text) : Sql.Zone.code.after text.toList = .code := by
  rcases sqlText_cases hv h with rfl | rfl | ⟨negative, body, htext, hne, hbody⟩
  · decide
  · decide
  · rw [htext]
    exact Number.after_signed hne hbody

namespace Variable

theorem embedFilling_scalar (v : Variable) {r : Resolved} {text : String}
    (hr : r.value.sqlText? = some text) (h : Sql.hasPlaceholder text.toList = false) :
    v.embedFilling r = .ok ⟨text, [], !text.isEmpty, !text.isEmpty⟩ := by
  have htext : v.embedText text = .ok ⟨text, [], !text.isEmpty, !text.isEmpty⟩ := by
    rw [embedText, h]
    rfl
  rw [← htext]
  obtain ⟨value, type⟩ := r
  cases value <;> cases hr <;> rfl

/-- A scalar without placeholders of its own is embedded as it is. The placeholders behind it stay
what they are where it leaves no literal and no comment open and does not form the start of a
comment with what comes next. For all that can come next this is so exactly if it ends in code, and
numbers and booleans do. -/
theorem placeholderCount_embed_append (v : Variable) {r : Resolved} {text : String}
    (hr : r.value.sqlText? = some text) (h : Sql.hasPlaceholder text.toList = false) :
    v.embedFilling r = .ok ⟨text, [], !text.isEmpty, !text.isEmpty⟩ ∧
      (∀ behind, (Sql.Zone.code.after text.toList).isCode = true →
        (Sql.Zone.code.after text.toList).joins behind = false →
        Sql.placeholderCount (text.toList ++ behind) = Sql.placeholderCount behind) ∧
      ((∀ behind, Sql.placeholderCount (text.toList ++ behind) = Sql.placeholderCount behind) ↔
        Sql.Zone.code.after text.toList = .code) ∧
      ((∀ s, r.value ≠ .string s) → Sql.Zone.code.after text.toList = .code) := by
  refine ⟨v.embedFilling_scalar hr h, ?_, ?_, fun hv => Value.after_sqlText hv hr⟩
  · intro behind hcode hjoins
    rw [Sql.placeholderCount_append h]
    exact Sql.Zone.placeholders_eq_of_isCode hcode hjoins
  · simp only [Sql.placeholderCount_append h]
    exact Sql.Zone.placeholders_eq_code_iff _

def sortKey : Variable := ⟨⟨"pmb", [.property "orderBy"]⟩, "", false, {}⟩

theorem placeholderCount_embed_append_sortKey :
    Sql.hasPlaceholder "'a?' DESC -".toList = false ∧
      sortKey.embedFilling ⟨.string "'a?' DESC -", .string⟩ =
        .ok ⟨"'a?' DESC -", [], true, true⟩ ∧
      Sql.placeholderCount ("'a?' DESC -".toList ++ " ?".toList) =
        Sql.placeholderCount " ?".toList ∧
      ¬∀ behind, Sql.placeholderCount ("'a?' DESC -".toList ++ behind) =
        Sql.placeholderCount behind := by
  have hr : (Value.string "'a?' DESC -").sqlText? = some "'a?' DESC -" := rfl
  have hmark : Sql.hasPlaceholder "'a?' DESC -".toList = false := by decide
  obtain ⟨hfilling, hbehind, hall, -⟩ :=
    sortKey.placeholderCount_embed_append (r := ⟨.string "'a?' DESC -", .string⟩) hr hmark
  refine ⟨hmark, hfilling, hbehind " ?".toList (by decide) (by decide), ?_⟩
  rw [hall]
  decide

theorem placeholderCount_embed_quote :
    sortKey.embedFilling ⟨.string "'", .string⟩ = .ok ⟨"'", [], true, true⟩ ∧
      Sql.placeholderCount ("'".toList ++ ", ?".toList) ≠ Sql.placeholderCount ", ?".toList := by
  refine ⟨rfl, ?_⟩
  decide

end Variable
end SqlTemplate
