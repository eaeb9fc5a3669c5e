import SqlTemplate.Proofs.ClosedSql
import SqlTemplate.Proofs.Success
import SqlTemplate.Render.Filling

/-!
The SQL of embedded values. All of it is closed but that of a string, which is spliced into the SQL
as it is.
-/
namespace SqlTemplate

namespace Number

open Sql

def isNumeral (c : Char) : Bool := c.isDigit || ['.', 'N', 'a', 'i', 'n', 'f'].contains c

theorem isInert_of_isNumeral {c : Char} (h : isNumeral c = true) : Zone.isInert c = true := by
  apply Zone.isInert_of_class _ h
  decide

theorem ne_of_isNumeral {c d : Char} (hc : isNumeral c = true) (hd : isNumeral d = false) :
    c ≠ d := by
  rintro rfl
  rw [hc] at hd
  cases hd

theorem isNumeral_of_mem_digitsOf {n : Nat} : ∀ c ∈ digitsOf n, isNumeral c = true := by
  intro c hc
  have hdigit := Nat.isDigit_of_mem_toDigits (by decide) (by decide) hc
  rw [isNumeral, hdigit, Bool.true_or]

theorem isNumeral_of_mem_positional {mantissa scale : Nat} :
    ∀ c ∈ positional mantissa scale, isNumeral c = true := by
  have hpoint : isNumeral '.' = true := by decide
  have hzero : isNumeral '0' = true := by decide
  intro c hc
  rw [positional] at hc
  split at hc
  · exact isNumeral_of_mem_digitsOf c hc
  · rw [paddedDigits, List.mem_append, List.mem_cons, List.mem_append] at hc
    rcases hc with hc | rfl | hc | hc
    · exact isNumeral_of_mem_digitsOf c hc
    · exact hpoint
    · rw [List.eq_of_mem_replicate hc]
      exact hzero
    · exact isNumeral_of_mem_digitsOf c hc

theorem positional_ne_nil (mantissa scale : Nat) : positional mantissa scale ≠ [] := by
  rw [positional]
  split
  · exact Nat.toDigits_ne_nil
  · simp

theorem exists_signed_plainFloat (x : Float) :
    ∃ negative body, plainFloat x = String.ofList (signed negative body) ∧ body ≠ [] ∧
      ∀ c ∈ body, isNumeral c = true := by
  rw [plainFloat, floatText]
  split
  · exact ⟨false, ['N', 'a', 'N'], rfl, by simp, List.all_eq_true.mp (by decide)⟩
  · next negative _ =>
    exact ⟨negative, ['i', 'n', 'f'], rfl, by simp, List.all_eq_true.mp (by decide)⟩
  · next negative _ _ _ =>
    exact ⟨negative, _, rfl, positional_ne_nil _ _, isNumeral_of_mem_positional⟩

theorem closed_signed {negative : Bool} {text : List Char}
    (h : ∀ c ∈ text, isNumeral c = true) : Closed (signed negative text) := by
  have htext := Closed.of_isInert fun c hc => isInert_of_isNumeral (h c hc)
  cases negative with
  | false => exact htext
  | true =>
    have hminus : Closed ['-'] := by decide
    apply hminus.append htext
    cases text with
    | nil => rfl
    | cons c text =>
      have hc : c ≠ '-' := ne_of_isNumeral (h c List.mem_cons_self) (by decide)
      simpa [Zone.joins, Zone.completes, Zone.after, Zone.next, Zone.ofCode] using hc

end Number

namespace Sql

theorem Zone.after_doubleQuotes (cs : List Char) :
    literal.after (doubleQuotes cs) = literal ∧ literal.placeholders (doubleQuotes cs) = 0 := by
  induction cs with
  | nil => exact ⟨rfl, rfl⟩
  | cons c cs ih =>
    obtain ⟨hafter, hcount⟩ := ih
    by_cases hc : c = '\''
    · subst hc
      exact ⟨hafter, by simpa [doubleQuotes, placeholders, next, ofCode] using hcount⟩
    · have hnext : literal.next c = literal := if_neg hc
      have hcode : literal.isCode = false := rfl
      rw [doubleQuotes, if_neg hc]
      simp only [after, List.foldl_cons, placeholders, hnext, hcode] at hafter ⊢
      exact ⟨hafter, by simpa using hcount⟩

theorem closed_quote (s : String) : Closed (quote s).toList := by
  obtain ⟨hafter, hcount⟩ := Zone.after_doubleQuotes s.toList
  have htext : (quote s).toList = ['\''] ++ doubleQuotes s.toList ++ ['\''] := by simp [quote]
  have hopen : Zone.code.after ['\''] = .literal := by decide
  have hnone : Zone.code.placeholders ['\''] = 0 := by decide
  rw [htext, Closed]
  simp only [Zone.after_append, Zone.placeholders_append, hopen, hafter, hnone, hcount]
  decide

theorem joins_eq_false {z : Zone} {c : Char} {cs : List Char} (hminus : c ≠ '-') (hstar : c ≠ '*') :
    z.joins (c :: cs) = false := by
  cases z <;> simp [Zone.joins, Zone.completes, hminus, hstar]

theorem joins_code (cs : List Char) : Zone.code.joins cs = false := by
  cases cs <;> rfl

theorem closed_intercalate {parts : List String} (h : ∀ p ∈ parts, Closed p.toList) :
    Closed (", ".intercalate parts).toList := by
  have hcomma : Closed [',', ' '] := by decide
  induction parts with
  | nil => decide
  | cons p parts ih =>
    have hp := h p List.mem_cons_self
    have hparts := ih fun q hq => h q (List.mem_cons_of_mem _ hq)
    by_cases hne : parts = []
    · subst hne
      simpa using hp
    · have hbehind := hcomma.append hparts (joins_code _)
      rw [String.intercalate_cons_of_ne_nil hne, String.toList_append, String.toList_append,
        List.append_assoc]
      exact hp.append hbehind (joins_eq_false (by decide) (by decide))

theorem closed_tuple {parts : List String} (h : ∀ p ∈ parts, Closed p.toList) :
    Closed (tuple parts).toList := by
  have hopen : Closed ['('] := by decide
  have hclose : Closed [')'] := by decide
  have hfront := hopen.append (closed_intercalate h) (joins_code _)
  rw [tuple, String.toList_append, String.toList_append]
  exact hfront.append hclose (joins_eq_false (by decide) (by decide))

end Sql

namespace Value

theorem exists_signed_sqlText {v : Value} (hv : v.isNumeric = true) :
    ∃ negative body, v.sqlText? = some (String.ofList (Number.signed negative body)) ∧ body ≠ [] ∧
      ∀ c ∈ body, Number.isNumeral c = true := by
  cases v with
  | integer n => exact ⟨_, _, rfl, Nat.toDigits_ne_nil, Number.isNumeral_of_mem_digitsOf⟩
  | float x =>
    obtain ⟨negative, body, htext, hbody⟩ := Number.exists_signed_plainFloat x
    exact ⟨negative, body, congrArg some htext, hbody⟩
  | decimal d =>
    exact ⟨_, _, rfl, Number.positional_ne_nil _ _, Number.isNumeral_of_mem_positional⟩
  | _ => cases hv

theorem sqlText_cases {v : Value} {text : String} (hv : ∀ s, v ≠ .string s)
    (h : v.sqlText? = some text) : text = "true" ∨ text = "false" ∨
      ∃ negative body, text.toList = Number.signed negative body ∧ body ≠ [] ∧
        ∀ c ∈ body, Number.isNumeral c = true := by
  by_cases hnumeric : v.isNumeric = true
  · obtain ⟨negative, body, htext, hbody⟩ := exists_signed_sqlText hnumeric
    rw [h, Option.some.injEq] at htext
    exact .inr (.inr ⟨negative, body, by rw [htext, String.toList_ofList], hbody⟩)
  · cases v with
    | boolean b => cases b <;> cases h <;> simp
    | string s => exact absurd rfl (hv s)
    | integer _ | float _ | decimal _ => exact absurd rfl hnumeric
    | _ => cases h

theorem closed_sqlText {value : Value} {text : String} (hv : ∀ s, value ≠ .string s)
    (h : value.sqlText? = some text) : Sql.Closed text.toList := by
  rcases sqlText_cases hv h with rfl | rfl | ⟨negative, body, htext, -, hbody⟩
  · decide
  · decide
  · rw [htext]
    exact Number.closed_signed hbody

end Value

namespace Variable

theorem closed_embedElement {v : Variable} {quoted : Bool} {element : Value} {text : String}
    (hq : quoted = false → element.isNumeric = true)
    (h : v.embedElement quoted element = .ok text) : Sql.Closed text.toList := by
  rw [embedElement] at h
  split at h
  · next sql hsql =>
    cases h
    cases quoted with
    | true => exact Sql.closed_quote sql
    | false =>
      refine Value.closed_sqlText ?_ hsql
      rintro s rfl
      cases hq rfl
  · cases h

theorem closed_embedElements {v : Variable} {items : List Value} {text : String}
    (h : v.embedElements items = .ok text) : Sql.Closed text.toList := by
  obtain ⟨elements, -, h⟩ := bind_eq_ok.mp h
  obtain ⟨parts, hparts, h⟩ := bind_eq_ok.mp h
  cases h
  apply Sql.closed_tuple
  intro p hp
  obtain ⟨element, hmem, he⟩ := exists_of_mem_mapM hparts p hp
  refine closed_embedElement ?_ he
  intro hq
  rw [Bool.not_eq_false', List.all_eq_true] at hq
  exact hq element hmem

theorem embedText_eq_ok {v : Variable} {sql : String} {f : Filling}
    (h : v.embedText sql = .ok f) :
    f = ⟨sql, [], f.keeps, f.keeps⟩ ∧ Sql.Zone.code.placeholders sql.toList = 0 := by
  rw [embedText] at h
  split at h
  · cases h
  · next hn =>
    cases h
    rw [Sql.hasPlaceholder, decide_eq_true_eq] at hn
    exact ⟨rfl, Nat.eq_zero_of_not_pos hn⟩

theorem closed_embedFilling {v : Variable} {r : Resolved} {f : Filling}
    (hr : ∀ s, r.value ≠ .string s) (h : v.embedFilling r = .ok f) :
    Sql.Closed f.sql.toList := by
  rw [embedFilling] at h
  split at h
  · cases h
    decide
  · cases h
  · cases h
  · obtain ⟨text, htext, h⟩ := bind_eq_ok.mp h
    rw [(embedText_eq_ok h).1]
    exact closed_embedElements htext
  · rw [(embedText_eq_ok h).1]
    have hnil : Sql.Closed [] := by decide
    cases hsql : r.value.sqlText? with
    | none => exact hnil
    | some text => exact Value.closed_sqlText hr hsql

end Variable
end SqlTemplate
