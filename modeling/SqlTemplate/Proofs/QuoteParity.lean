import Mathlib.Algebra.Group.Nat.Even
import SqlTemplate.Proofs.Stretch
import SqlTemplate.Proofs.TestValueGrammar

/-!
The quotes in a test value. Literals and groups have an even number of them; a bare word has an odd
one if it ends inside a literal.
-/
namespace SqlTemplate

namespace Sql

def quotes (cs : List Char) : Nat := cs.count '\''

@[simp] theorem quotes_nil : quotes [] = 0 := rfl

@[simp] theorem quotes_quote (cs : List Char) : quotes ('\'' :: cs) = quotes cs + 1 :=
  List.count_cons_self

@[simp] theorem quotes_cons {c : Char} (hc : c ≠ '\'') (cs : List Char) :
    quotes (c :: cs) = quotes cs := List.count_cons_of_ne hc

@[simp] theorem quotes_append (as bs : List Char) : quotes (as ++ bs) = quotes as + quotes bs :=
  List.count_append

theorem exists_of_not_even_quotes {cs : List Char} (h : ¬Even (quotes cs)) :
    ∃ text rest, cs = text ++ '\'' :: rest ∧ '\'' ∉ text ∧ Even (quotes rest) := by
  have hmem : '\'' ∈ cs := by
    by_contra hnone
    apply h
    rw [quotes, List.count_eq_zero_of_not_mem hnone]
    exact Even.zero
  obtain ⟨text, rest, rfl, htext⟩ := List.eq_append_cons_of_mem hmem
  refine ⟨text, rest, rfl, htext, ?_⟩
  have hnone : quotes text = 0 := List.count_eq_zero_of_not_mem htext
  rwa [quotes_append, hnone, quotes_quote, Nat.zero_add, Nat.even_add_one, not_not] at h

namespace Zone

def isComment : Zone → Bool
  | lineComment | blockComment | afterStar => true
  | _ => false

def Uncommented (z : Zone) (cs : List Char) : Prop := ∀ p, p <+: cs → (z.after p).isComment = false

theorem Uncommented.head {z : Zone} {cs : List Char} (h : z.Uncommented cs) :
    z.isComment = false := h [] List.nil_prefix

theorem uncommented_nil {z : Zone} (h : z.isComment = false) : z.Uncommented [] := by
  intro p hp
  rw [List.prefix_nil.mp hp]
  exact h

theorem uncommented_cons {z : Zone} {c : Char} {cs : List Char} :
    z.Uncommented (c :: cs) ↔ z.isComment = false ∧ (z.next c).Uncommented cs := by
  constructor
  · intro h
    refine ⟨h.head, ?_⟩
    intro p hp
    exact h (c :: p) ((List.prefix_cons_inj c).mpr hp)
  · rintro ⟨hz, h⟩ p hp
    rcases List.prefix_cons_iff.mp hp with rfl | ⟨q, rfl, hq⟩
    · exact hz
    · exact h q hq

theorem next_eq_literal_iff {z : Zone} (hz : z.isComment = false) (c : Char) :
    z.next c = literal ↔ (z = literal ↔ c ≠ '\'') := by
  have hcode : ofCode c = literal ↔ c = '\'' := by
    rw [ofCode]
    by_cases hc : c = '\''
    · simp [hc]
    · rw [if_neg hc]
      by_cases hm : c = '-'
      · simp [hm]
      · by_cases hs : c = '/' <;> simp [hm, hs, hc]
  cases z with
  | code => simp [next, hcode]
  | literal => by_cases hc : c = '\'' <;> simp [next, hc]
  | afterMinus => by_cases hc : c = '-' <;> simp [next, hc, hcode]
  | afterSlash => by_cases hc : c = '*' <;> simp [next, hc, hcode]
  | _ => cases hz

theorem Uncommented.after_eq_literal_iff {z : Zone} {cs : List Char} (h : z.Uncommented cs) :
    z.after cs = literal ↔ (z = literal ↔ Even (quotes cs)) := by
  induction cs generalizing z with
  | nil => simp [after]
  | cons c cs ih =>
    obtain ⟨hz, hcs⟩ := uncommented_cons.mp h
    have hafter : z.after (c :: cs) = (z.next c).after cs := rfl
    rw [hafter, ih hcs, next_eq_literal_iff hz]
    by_cases hc : c = '\''
    · subst hc
      rw [quotes_quote, Nat.even_add_one]
      simp only [ne_eq, not_true_eq_false, iff_false]
      exact not_iff_comm.trans iff_comm
    · rw [quotes_cons hc]
      simp [hc]

end Zone
end Sql

namespace TestValue

open Sql (Zone doubleQuotes quote quotes quotes_nil quotes_quote quotes_cons quotes_append)

inductive Whole : List Char → Prop
  | nil : Whole []
  | plain {c cs} (hc : c ≠ '\'') (rest : Whole cs) : Whole (c :: cs)
  | literal {cs} (s : String) (rest : Whole cs) : Whole ((quote s).toList ++ cs)

theorem even_quotes_doubleQuotes (cs : List Char) : Even (quotes (doubleQuotes cs)) := by
  induction cs with
  | nil => exact Even.zero
  | cons c cs ih =>
    by_cases hc : c = '\''
    · subst hc
      rw [doubleQuotes, if_pos rfl, quotes_quote, quotes_quote, Nat.even_add_one, Nat.even_add_one,
        not_not]
      exact ih
    · rw [doubleQuotes, if_neg hc, quotes_cons hc]
      exact ih

theorem even_quotes_quote (s : String) : Even (quotes (quote s).toList) := by
  rw [quote_eq, quotes_quote, quotes_append, quotes_quote, quotes_nil, ← Nat.add_assoc,
    Nat.add_zero, Nat.even_add_one, Nat.even_add_one, not_not]
  exact even_quotes_doubleQuotes s.toList

theorem doubleQuotes_of_not_mem {cs : List Char} (h : '\'' ∉ cs) : doubleQuotes cs = cs := by
  induction cs with
  | nil => rfl
  | cons c cs ih =>
    rw [List.mem_cons, not_or] at h
    rw [doubleQuotes, if_neg (Ne.symm h.1), ih h.2]

theorem whole_iff_even (cs : List Char) : Whole cs ↔ Even (quotes cs) := by
  constructor
  · intro h
    induction h with
    | nil => exact Even.zero
    | plain hc _ ih => rwa [quotes_cons hc]
    | literal s _ ih =>
      rw [quotes_append]
      exact (even_quotes_quote s).add ih
  · -- A quote has another one behind it, and the two make a literal.
    induction hn : cs.length using Nat.strong_induction_on generalizing cs with
    | _ n ih =>
      intro h
      cases cs with
      | nil => exact .nil
      | cons c cs =>
        subst hn
        by_cases hc : c = '\''
        · subst hc
          rw [quotes_quote, Nat.even_add_one] at h
          obtain ⟨text, rest, rfl, htext, hrest⟩ := Sql.exists_of_not_even_quotes h
          have hliteral : '\'' :: (text ++ '\'' :: rest) =
              (quote (String.ofList text)).toList ++ rest := by
            simp [quote_eq, doubleQuotes_of_not_mem htext]
          rw [hliteral]
          exact .literal _ (ih rest.length (by simp; omega) rest rfl hrest)
        · rw [quotes_cons hc] at h
          exact .plain hc (ih cs.length (by simp) cs rfl h)

theorem Balanced.even_quotes {content : List Char} (h : Balanced content) :
    Even (quotes content) := by
  induction h with
  | nil => exact Even.zero
  | @plain c cs hc _ ih =>
    have hquote : c ≠ '\'' := by
      rintro rfl
      exact hc List.mem_cons_self
    rwa [quotes_cons hquote]
  | literal s _ _ ih =>
    rw [quotes_append]
    exact (even_quotes_quote s).add ih
  | group _ _ ihi ih =>
    rw [quotes_cons (by decide), quotes_append, quotes_cons (by decide)]
    exact ihi.add ih

theorem not_endsBare {c : Char} {cs : List Char} (h : ¬endsBare (c :: cs) = true) :
    (∀ ds, c = '/' → cs = '*' :: ds → False) ∧ ∀ ds, c = '-' → cs = '-' :: ds → False := by
  constructor
  · rintro ds rfl rfl
    exact h rfl
  · rintro ds rfl rfl
    exact h rfl

theorem bare_follows {z : Zone} {cs : List Char}
    (h : z = .literal ∨ Verbatim.Mode.Agrees z cs (.code false)) :
    z.Uncommented (bare cs).1 ∧ (z.after (bare cs).1 = .literal ∨
      Verbatim.Mode.Agrees (z.after (bare cs).1) (bare cs).2 (.code false)) := by
  have hcomment : ∀ {z : Zone} {cs : List Char},
      z = .literal ∨ Verbatim.Mode.Agrees z cs (.code false) → z.isComment = false := by
    rintro z cs (rfl | ⟨hz, -⟩)
    · rfl
    · cases z <;> first | rfl | cases hz
  fun_induction bare cs generalizing z with
  | case1 => exact ⟨Zone.uncommented_nil (hcomment h), h⟩
  | case2 => exact ⟨Zone.uncommented_nil (hcomment h), h⟩
  | case3 c cs hends ih =>
    have hnext : z.next c = .literal ∨ Verbatim.Mode.Agrees (z.next c) cs (.code false) := by
      by_cases hc : c = '\''
      · rcases h with rfl | h
        · have hclose : Zone.literal.next c = .code := if_pos hc
          rw [hclose]
          exact .inr (.closed false cs)
        · left
          rw [h.next_code, Zone.ofCode, if_pos hc]
      · rcases h with rfl | h
        · exact .inl (if_neg hc)
        · right
          rw [h.next_code]
          exact .code hc (not_endsBare hends).1 (not_endsBare hends).2 false
    obtain ⟨hword, hbehind⟩ := ih hnext
    exact ⟨Zone.uncommented_cons.mpr ⟨hcomment h, hword⟩, hbehind⟩

theorem follows_of_bare {cs value behind : List Char} (h : bare cs = (value, behind)) :
    Zone.code.Uncommented value ∧ (Zone.code.after value = .literal ∨
      Verbatim.Mode.Agrees (Zone.code.after value) behind (.code false)) := by
  have hstart : Verbatim.Mode.Agrees .code cs (.code false) := .closed false cs
  have hfollows := bare_follows (.inr hstart)
  rwa [h] at hfollows

theorem uncommented_quote (s : String) : Zone.code.Uncommented (quote s).toList := by
  have hinside : ∀ cs, Zone.literal.Uncommented (doubleQuotes cs ++ ['\'']) := by
    intro cs
    have hclosed : Zone.code.Uncommented [] := Zone.uncommented_nil rfl
    induction cs with
    | nil => exact Zone.uncommented_cons.mpr ⟨rfl, hclosed⟩
    | cons c cs ih =>
      by_cases hc : c = '\''
      · rw [doubleQuotes, if_pos hc, hc]
        exact Zone.uncommented_cons.mpr ⟨rfl, Zone.uncommented_cons.mpr ⟨rfl, ih⟩⟩
      · rw [doubleQuotes, if_neg hc]
        refine Zone.uncommented_cons.mpr ⟨rfl, ?_⟩
        have hz : Zone.literal.next c = .literal := if_neg hc
        rwa [hz]
  rw [quote_eq]
  exact Zone.uncommented_cons.mpr ⟨rfl, hinside s.toList⟩

theorem after_quote (s : String) : Zone.code.after (quote s).toList = .code := by
  have hopen : Zone.code.after (quote s).toList =
      Zone.literal.after (doubleQuotes s.toList ++ ['\'']) := by
    rw [quote_eq]
    rfl
  rw [hopen, Zone.after_append, (Sql.Zone.after_doubleQuotes s.toList).1]
  rfl

theorem after_group {content : List Char} (hcontent : Even (quotes content))
    (h : Zone.code.Uncommented ('(' :: (content ++ [')']))) :
    Zone.code.after ('(' :: (content ++ [')'])) = .code := by
  have hinside : (Zone.code.after ('(' :: content)).isComment = false :=
    h ('(' :: content) ⟨[')'], rfl⟩
  have hliteral : Zone.code.after ('(' :: content) ≠ .literal := by
    have hfront : Zone.code.Uncommented ('(' :: content) :=
      fun p hp => h p (hp.trans ⟨[')'], rfl⟩)
    rw [ne_eq, hfront.after_eq_literal_iff, quotes_cons (by decide)]
    simpa using hcontent
  have happend : Zone.code.after ('(' :: (content ++ [')'])) =
      (Zone.code.after ('(' :: content)).next ')' := by
    rw [← List.cons_append, Zone.after_append]
    rfl
  rw [happend]
  cases hz : Zone.code.after ('(' :: content) with
  | literal => exact absurd hz hliteral
  | code => rfl
  | afterMinus => rfl
  | afterSlash => rfl
  | _ => rw [hz] at hinside; cases hinside

def IsNeutral (value : List Char) : Prop := Even (quotes value) ∧ Zone.code.Uncommented value

theorem IsNeutral.follows {cs value behind : List Char} (h : IsNeutral value)
    (hspan : span cs = .ok (value, behind)) :
    Verbatim.Mode.Agrees (Zone.code.after value) behind (.code false) := by
  obtain ⟨heven, huncommented⟩ := h
  rcases span_kinds hspan with ⟨s, rfl⟩ | ⟨content, hcontent, rfl⟩ | ⟨-, -, hbare⟩
  · rw [after_quote]
    exact .closed false behind
  · rw [after_group hcontent.even_quotes huncommented]
    exact .closed false behind
  · rcases (follows_of_bare hbare).2 with hliteral | hagrees
    · rw [huncommented.after_eq_literal_iff] at hliteral
      exact absurd (hliteral.mpr heven) (by decide)
    · exact hagrees

section Span
variable {value : List Char} (h : span value = .ok (value, []))
include h

theorem uncommented_of_span (hgroup : isGroup value = false) : Zone.code.Uncommented value := by
  rcases span_kinds h with ⟨s, rfl⟩ | ⟨content, -, rfl⟩ | ⟨-, -, hbare⟩
  · exact uncommented_quote s
  · cases hgroup
  · exact (follows_of_bare hbare).1

theorem not_even_quotes_iff : ¬Even (quotes value) ↔
    value.head? ≠ some '\'' ∧ value.head? ≠ some '(' ∧ Zone.code.after value = .literal := by
  rcases span_kinds h with ⟨s, rfl⟩ | ⟨content, hcontent, rfl⟩ | ⟨hquote, hopen, -⟩
  · constructor
    · intro hodd
      exact absurd (even_quotes_quote s) hodd
    · rintro ⟨hquote, -⟩
      rw [quote_eq] at hquote
      exact absurd rfl hquote
  · constructor
    · intro hodd
      rw [quotes_cons (by decide), quotes_append, quotes_cons (by decide), quotes_nil] at hodd
      exact absurd hcontent.even_quotes hodd
    · rintro ⟨-, hopen, -⟩
      exact absurd rfl hopen
  · have hgroup : isGroup value = false := by simpa [isGroup] using hopen
    rw [(uncommented_of_span h hgroup).after_eq_literal_iff]
    simp [hquote, hopen]

end Span
end TestValue

end SqlTemplate
