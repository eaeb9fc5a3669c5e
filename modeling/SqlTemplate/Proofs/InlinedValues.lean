import Mathlib.Data.List.Infix
import SqlTemplate.Proofs.DisplayedSql
import SqlTemplate.Proofs.EmbedGuard

namespace SqlTemplate

namespace Sql.Zone

theorem after_eq_of_isCode {z : Zone} {cs : List Char} (hz : z.isCode = true)
    (hj : z.joins cs = false) (hne : cs ≠ []) : z.after cs = code.after cs := by
  cases cs with
  | nil => exact absurd rfl hne
  | cons c cs =>
    have hc : z.completes c = false := by simpa [joins] using hj
    simp only [after, List.foldl_cons, next_eq_of_isCode hz hc]

theorem next_eq_code_of_isCode {z : Zone} {c : Char} (h : (z.next c).isCode = true)
    (hminus : c ≠ '-') (hslash : c ≠ '/') : z.next c = code := by
  cases z <;> grind [next, ofCode, isCode]

section Mark
variable {z : Zone} (hz : z.isCode = true) (cs : List Char)
include hz

theorem next_mark : z.next '?' = code := by
  cases z with
  | code | afterMinus | afterSlash => rfl
  | _ => cases hz

theorem after_mark : z.after ('?' :: cs) = code.after cs := by
  simp only [after, List.foldl_cons, next_mark hz]

theorem placeholders_mark : z.placeholders ('?' :: cs) = code.placeholders cs + 1 := by
  simp only [placeholders, hz, next_mark hz, true_and, if_true, Nat.add_comm 1]

theorem fill_mark (fillings : List (List Char)) :
    z.fill fillings ('?' :: cs) = fillings.head?.getD ['?'] ++ code.fill fillings.tail cs := by
  simp only [fill, hz, next_mark hz, true_and, if_true]

end Mark

def Fits (z : Zone) (fillings : List (List Char)) (cs : List Char) : Prop :=
  ∀ front behind filling, cs = front ++ '?' :: behind → (z.after front).isCode = true →
    fillings[z.placeholders front]? = some filling →
    (z.after front).after filling = code ∧ (z.after front).placeholders filling = 0

namespace Fits

variable {z : Zone} {fillings : List (List Char)} {cs : List Char}

theorem front {front : List Char} (h : z.Fits fillings cs) (hfront : front <+: cs) :
    z.Fits fillings front := by
  obtain ⟨rest, rfl⟩ := hfront
  rintro before behind filling rfl hcode hfilling
  exact h before (behind ++ rest) filling (by simp) hcode hfilling

theorem of_mark (h : z.Fits fillings ('?' :: cs)) (hz : z.isCode = true) :
    code.Fits fillings.tail cs := by
  rintro front behind filling rfl hcode hfilling
  rw [← after_mark hz front] at hcode ⊢
  apply h ('?' :: front) behind filling rfl hcode
  rwa [placeholders_mark hz, ← List.getElem?_tail]

theorem of_cons {c : Char} (h : z.Fits fillings (c :: cs)) (hc : ¬(z.isCode = true ∧ c = '?')) :
    (z.next c).Fits fillings cs := by
  rintro front behind filling rfl hcode hfilling
  apply h (c :: front) behind filling rfl hcode
  rw [placeholders, if_neg hc, Nat.zero_add, hfilling]

theorem after_and_placeholders (h : z.Fits fillings cs) :
    z.after (z.fill fillings cs) = z.after cs ∧
      z.placeholders (z.fill fillings cs) = z.placeholders cs - fillings.length := by
  induction cs generalizing z fillings with
  | nil => exact ⟨rfl, (Nat.zero_sub _).symm⟩
  | cons c cs ih =>
    by_cases hc : z.isCode = true ∧ c = '?'
    · obtain ⟨hz, rfl⟩ := hc
      obtain ⟨hafter, hcount⟩ := ih (h.of_mark hz)
      -- What follows is read from code on, behind the filling as behind the placeholder.
      rw [fill_mark hz, after_append, placeholders_append, after_mark hz, placeholders_mark hz]
      cases fillings with
      | nil =>
        have hmark : z.after ['?'] = code := after_mark hz []
        have hone : z.placeholders ['?'] = 1 := placeholders_mark hz []
        rw [List.head?_nil, Option.getD_none, hmark, hone, hafter, hcount]
        exact ⟨rfl, Nat.add_comm 1 _⟩
      | cons filling fillings =>
        obtain ⟨hend, hnone⟩ : z.after filling = code ∧ z.placeholders filling = 0 :=
          h [] cs filling rfl hz rfl
        rw [List.head?_cons, Option.getD_some, hend, hnone, hafter, hcount, Nat.zero_add]
        exact ⟨rfl, (Nat.add_sub_add_right _ 1 _).symm⟩
    · obtain ⟨hafter, hcount⟩ := ih (h.of_cons hc)
      rw [fill, if_neg hc]
      simp only [placeholders, if_neg hc, after, List.foldl_cons, Nat.zero_add] at hafter ⊢
      exact ⟨hafter, hcount⟩

end Fits

end Sql.Zone

namespace Sql

theorem exists_signed_literal {v : Value} (hv : v.isNumeric = true) :
    ∃ negative body, (literal v).toList = Number.signed negative body ∧ body ≠ [] ∧
      ∀ c ∈ body, Number.isNumeral c = true := by
  obtain ⟨negative, body, htext, hbody⟩ := Value.exists_signed_sqlText hv
  have hliteral : literal v = v.sqlText?.getD "" := by
    cases v with
    | integer _ | float _ | decimal _ => rfl
    | _ => cases hv
  exact ⟨negative, body, by rw [hliteral, htext, Option.getD_some, String.toList_ofList], hbody⟩

mutual

theorem closed_literal : (v : Value) → Closed (literal v).toList
  | .null | .map _ | .bean _ _ => by
    rw [literal]
    decide
  | .string s => by
    rw [literal]
    exact closed_quote s
  | .list items => by
    rw [literal]
    exact closed_tuple (closed_literals items)
  | .boolean b => @Value.closed_sqlText (.boolean b) _ (by simp) rfl
  | .integer n => @Value.closed_sqlText (.integer n) _ (by simp) rfl
  | .float x => @Value.closed_sqlText (.float x) _ (by simp) rfl
  | .decimal d => @Value.closed_sqlText (.decimal d) _ (by simp) rfl

theorem closed_literals : (vs : List Value) → ∀ text ∈ literals vs, Closed text.toList
  | [] => by
    rw [literals]
    exact List.forall_mem_nil _
  | v :: vs => by
    rw [literals, List.forall_mem_cons]
    exact ⟨closed_literal v, closed_literals vs⟩

end

theorem after_literal (v : Value) : Zone.code.after (literal v).toList = .code := by
  have hclosed := (closed_literal v).1
  cases v with
  | null | map _ | bean _ _ =>
    rw [literal]
    decide
  | string s =>
    have htext : (literal (.string s)).toList = ('\'' :: doubleQuotes s.toList) ++ ['\''] := by
      simp [literal, quote]
    rw [htext, Zone.after_append] at hclosed ⊢
    exact Zone.next_eq_code_of_isCode hclosed (by decide) (by decide)
  | list items =>
    have htext : (literal (.list items)).toList =
        ('(' :: (", ".intercalate (literals items)).toList) ++ [')'] := by
      simp [literal, tuple]
    rw [htext, Zone.after_append] at hclosed ⊢
    exact Zone.next_eq_code_of_isCode hclosed (by decide) (by decide)
  | boolean b => exact @Value.after_sqlText (.boolean b) _ (by simp) rfl
  | integer n => exact @Value.after_sqlText (.integer n) _ (by simp) rfl
  | float x => exact @Value.after_sqlText (.float x) _ (by simp) rfl
  | decimal d => exact @Value.after_sqlText (.decimal d) _ (by simp) rfl

theorem head?_literal (v : Value) :
    ∃ c, (literal v).toList.head? = some c ∧ c ≠ '*' ∧ (c ≠ '-' ∨ v.isNumeric = true) := by
  by_cases hv : v.isNumeric = true
  · obtain ⟨negative, body, htext, hne, hbody⟩ := exists_signed_literal hv
    obtain ⟨c, body, rfl⟩ := List.exists_cons_of_ne_nil hne
    have hc : c ≠ '*' := Number.ne_of_isNumeral (hbody c List.mem_cons_self) (by decide)
    rw [htext]
    cases negative with
    | true => exact ⟨'-', rfl, by decide, .inr hv⟩
    | false => exact ⟨c, rfl, hc, .inr hv⟩
  · cases v with
    | null => exact ⟨'n', by simp [literal], by decide, .inl (by decide)⟩
    | boolean b => cases b <;> exact ⟨_, rfl, by decide, .inl (by decide)⟩
    | string s => exact ⟨'\'', by simp [literal, quote], by decide, .inl (by decide)⟩
    | list items => exact ⟨'(', by simp [literal, tuple], by decide, .inl (by decide)⟩
    | map _ | bean _ _ => exact ⟨'<', by simp [literal], by decide, .inl (by decide)⟩
    | _ => exact absurd rfl hv

theorem after_minus_literal {v : Value} (hv : v.isNumeric = true)
    (hminus : (literal v).toList.head? = some '-') :
    Zone.afterMinus.after (literal v).toList = .lineComment := by
  obtain ⟨negative, body, htext, hne, hbody⟩ := exists_signed_literal hv
  rw [htext] at hminus ⊢
  cases negative with
  | true =>
    have hline : ∀ c ∈ body, Zone.lineComment.next c = .lineComment := fun c hc =>
      if_neg (Number.ne_of_isNumeral (hbody c hc) (by decide))
    exact (Zone.stays rfl hline).1
  | false =>
    have hsign : '-' ∈ body := List.mem_of_head? hminus
    exact absurd (hbody '-' hsign) (by decide)

end Sql

namespace Statement

open Sql

/-- A number with a minus sign is inlined right behind a minus, and the two start a comment. -/
def JoinsMinus (s : Statement) : Prop :=
  ∃ front behind b, s.sql.toList = front ++ '?' :: behind ∧
    Zone.code.after front = .afterMinus ∧ s.binds[Zone.code.placeholders front]? = some b ∧
    b.value.isNumeric = true ∧ (literal b.value).toList.head? = some '-'

theorem fits_literals {s : Statement} (h : ¬s.JoinsMinus) :
    Zone.code.Fits s.literals s.sql.toList := by
  intro front behind filling hsql hcode hfilling
  rw [literals, List.getElem?_map, Option.map_eq_some_iff] at hfilling
  obtain ⟨b, hb, rfl⟩ := hfilling
  obtain ⟨c, hhead, hstar, hnumeric⟩ := head?_literal b.value
  have hjoins : (Zone.code.after front).joins (literal b.value).toList = false := by
    rw [Zone.joins, hhead, Option.any_some]
    cases hfront : Zone.code.after front with
    | afterMinus =>
      apply decide_eq_false
      rintro rfl
      have hnumber := hnumeric.resolve_left (not_not_intro rfl)
      exact h ⟨front, behind, b, hsql, hfront, hb, hnumber, hhead⟩
    | afterSlash => exact decide_eq_false hstar
    | _ => rfl
  have hne : (literal b.value).toList ≠ [] := by
    rintro hnil
    rw [hnil] at hhead
    cases hhead
  rw [Zone.after_eq_of_isCode hcode hjoins hne, Zone.placeholders_eq_of_isCode hcode hjoins]
  exact ⟨after_literal b.value, (closed_literal b.value).2⟩

theorem not_joinsMinus {s : Statement} (h : ∀ front, front <+: s.sql.toList →
    Zone.code.after (Zone.code.fill s.literals front) = Zone.code.after front) :
    ¬s.JoinsMinus := by
  rintro ⟨front, behind, b, hsql, hfront, hb, hnumeric, hhead⟩
  -- With the value this much of the SQL ends in a comment, and with the placeholder in code.
  have hbefore := h front ⟨'?' :: behind, hsql.symm⟩
  have hmark := h (front ++ ['?']) ⟨behind, by simp [hsql]⟩
  have hfill : Zone.code.fill s.literals (front ++ ['?']) =
      Zone.code.fill s.literals front ++ (literal b.value).toList := by
    rw [Zone.fill_append, hfront, Zone.fill_mark rfl, List.head?_drop, literals, List.getElem?_map,
      hb]
    exact congrArg _ (List.append_nil _)
  rw [hfill, Zone.after_append, hbefore, Zone.after_append, hfront,
    after_minus_literal hnumeric hhead, Zone.after_mark rfl] at hmark
  cases hmark

/-- Statements are displayed without placeholders if there are as many values. What stands around
the values reads as it did around the placeholders, and this exactly if no number with a minus sign
is inlined right behind a minus. -/
theorem placeholderCount_display (s : Statement) :
    (¬s.JoinsMinus → s.binds.length = s.placeholderCount →
        Sql.placeholderCount s.display.toList = 0) ∧
      (¬s.JoinsMinus ↔ ∀ front, front <+: s.sql.toList →
        Zone.code.after (Zone.code.fill s.literals front) = Zone.code.after front) := by
  refine ⟨?_, ?_, not_joinsMinus⟩
  · intro h hlength
    rw [toList_display, Sql.placeholderCount, (fits_literals h).after_and_placeholders.2, literals,
      List.length_map, hlength]
    exact Nat.sub_self _
  · intro h front hfront
    exact ((fits_literals h).front hfront).after_and_placeholders.1

def balance : Statement :=
  ⟨"A -? + ?, '?'", [⟨.string "it's? --", .string⟩, ⟨.integer (-1), .integer⟩]⟩

theorem placeholderCount_display_balance :
    ¬balance.JoinsMinus ∧ balance.display = "A -'it''s? --' + -1, '?'" ∧
      balance.binds.length = balance.placeholderCount ∧
      Sql.placeholderCount balance.display.toList = 0 := by
  have hfronts : (balance.sql.toList.inits.all fun front =>
      Zone.code.after (Zone.code.fill balance.literals front) = Zone.code.after front) = true := by
    decide
  have hjoins : ¬balance.JoinsMinus := by
    apply (placeholderCount_display balance).2.mpr
    intro front hfront
    have hzone := List.all_eq_true.mp hfronts front ((List.mem_inits _ _).mpr hfront)
    exact of_decide_eq_true hzone
  have hlength : balance.binds.length = balance.placeholderCount := by decide
  exact ⟨hjoins, by decide, hlength, (placeholderCount_display balance).1 hjoins hlength⟩

theorem placeholderCount_display_minus :
    ¬∀ s : Statement, s.binds.length = s.placeholderCount →
      Sql.placeholderCount s.display.toList = 0 := by
  intro h
  have hcount := h ⟨"1 -?, '\n?'", [⟨.integer (-1), .integer⟩]⟩ (by decide)
  revert hcount
  decide

end Statement

end SqlTemplate
