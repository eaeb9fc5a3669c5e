import SqlTemplate.Condition.Lexer

namespace SqlTemplate.Condition

theorem Cursor.length_skip (n : Nat) (c : Cursor) : (c.skip n).rest.length = c.rest.length - n := by
  simp [Cursor.skip]

theorem Cursor.length_skipWhile_le (p : Char → Bool) (c : Cursor) :
    (c.skipWhile p).rest.length ≤ c.rest.length := by
  simp [Cursor.skipWhile, Cursor.length_skip]

theorem length_stringBody_le (quote : Char) (start p : Nat) (cs : List Char) :
    (stringBody quote start p cs).2.rest.length ≤ cs.length := by
  fun_induction stringBody quote start p cs <;> simp_all [push] <;> omega

theorem length_number_lt (negative : Bool) {c : Cursor} {d : Char} {cs : List Char}
    (hc : c.rest = d :: cs) (hd : Number.isDigit d = true) :
    (number negative c).2.rest.length < c.rest.length := by
  have hw : 0 < (c.rest.takeWhile Number.isDigit).length := by simp [hc, hd]
  have hl : 0 < c.rest.length := by simp [hc]
  have hn : (numeral c.rest).1 = c.rest.takeWhile Number.isDigit := by
    unfold numeral
    split
    · split <;> rfl
    · rfl
  unfold number
  split
  · rw [Cursor.length_skip]
    next h =>
    rw [h] at hn
    dsimp only at hn
    omega
  · next h =>
    rw [h] at hn
    dsimp only at hn ⊢
    split <;> rw [Cursor.length_skip, hn] <;> omega

theorem isWordPart_of_isWordStart {c : Char} (h : isWordStart c = true) : isWordPart c = true := by
  simp only [isWordStart, Bool.or_eq_true] at h
  simp only [isWordPart, Text.isAlphanumeric, Bool.or_eq_true]
  rcases h with h | h
  · exact .inl (.inl h)
  · exact .inr h

theorem length_longTokenAt_lt {ch : Char} {next : List Char} {c after : Cursor} {t : Token}
    (hc : c.rest = ch :: next) (h : longTokenAt ch next c = (.ok t, after)) :
    after.rest.length < c.rest.length := by
  have hskip : (c.skip 1).rest.length < c.rest.length := by
    rw [Cursor.length_skip, hc, List.length_cons]; omega
  unfold longTokenAt at h
  split at h
  · have := length_stringBody_le ch c.position (c.position + 1) next
    simp only [Prod.mk.injEq] at h
    rw [← h.2, hc, List.length_cons]
    omega
  split at h
  · simp only at h
    split at h
    · cases h; exact Nat.lt_of_le_of_lt (Cursor.length_skipWhile_le _ _) hskip
    · cases h
  split at h
  · next hw =>
    cases h
    rw [Cursor.skipWhile, Cursor.length_skip, hc,
      List.takeWhile_cons_of_pos (isWordPart_of_isWordStart hw), List.length_cons, List.length_cons]
    omega
  split at h
  · next hd => have := length_number_lt false hc hd; rw [h] at this; exact this
  split at h
  · next hd =>
    cases next with
    | nil => simp at hd
    | cons d ds =>
      have hr : (c.skip 1).rest = d :: ds := by simp [Cursor.skip, hc]
      have := length_number_lt true hr (by simpa using hd.2)
      rw [h] at this
      exact Nat.lt_trans this hskip
  · cases h

theorem length_tokenAt_lt {c after : Cursor} {t : Token} (h : tokenAt c = (.ok t, after))
    (ht : t ≠ .endOfInput) : after.rest.length < c.rest.length := by
  unfold tokenAt at h
  split at h
  · cases h; exact absurd rfl ht
  · next ch next hc =>
    have hl : 0 < c.rest.length := by simp [hc]
    split at h
    · cases h; rw [Cursor.length_skip]; omega
    · split at h
      · cases h; rw [Cursor.length_skip]; omega
      · cases h
    · split at h <;> cases h <;> rw [Cursor.length_skip] <;> omega
    · exact length_longTokenAt_lt hc h

theorem length_next_lt {c after : Cursor} {t : Token} (h : next c = (.ok t, after))
    (ht : t ≠ .endOfInput) : after.rest.length < c.rest.length :=
  Nat.lt_of_lt_of_le (length_tokenAt_lt h ht) (Cursor.length_skipWhile_le _ _)

/-- The tokens up to the end of the condition or up to the first error. The number beside a token is
the position behind it. -/
inductive Stream where
  | ended (position : Nat)
  | broken (error : LexError)
  | token (t : Token) (position : Nat) (rest : Stream)

namespace Stream

def scan (c : Cursor) : Stream :=
  match _h : next c with
  | (.error e, _) => broken e
  | (.ok t, after) =>
    if _ht : t = .endOfInput then ended after.position else token t after.position (scan after)
termination_by c.rest.length
decreasing_by exact length_next_lt (by assumption) (by assumption)

def length : Stream → Nat
  | token _ _ rest => rest.length + 1
  | _ => 0

end Stream
end SqlTemplate.Condition
