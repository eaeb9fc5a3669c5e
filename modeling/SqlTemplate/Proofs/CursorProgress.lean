import SqlTemplate.Proofs.ConditionTokens

namespace SqlTemplate.Condition

namespace Cursor

def Reaches (c after : Cursor) : Prop := ∃ n ≤ c.rest.length, after = c.skip n

theorem skip_zero (c : Cursor) : c.skip 0 = c := rfl

theorem skip_skip (m n : Nat) (c : Cursor) : (c.skip m).skip n = c.skip (m + n) := by
  simp [skip, Nat.add_assoc]

namespace Reaches

variable {c after behind : Cursor}

theorem refl (c : Cursor) : c.Reaches c := ⟨0, Nat.zero_le _, c.skip_zero.symm⟩

theorem trans (h : c.Reaches after) (h' : after.Reaches behind) : c.Reaches behind := by
  obtain ⟨m, hm, rfl⟩ := h
  obtain ⟨n, hn, rfl⟩ := h'
  rw [length_skip] at hn
  exact ⟨m + n, by omega, skip_skip m n c⟩

theorem position_le (h : c.Reaches after) : c.position ≤ after.position := by
  obtain ⟨n, -, rfl⟩ := h
  exact Nat.le_add_right _ _

theorem position_add_length (h : c.Reaches after) :
    after.position + after.rest.length = c.position + c.rest.length := by
  obtain ⟨n, hn, rfl⟩ := h
  rw [length_skip]
  show c.position + n + _ = _
  omega

theorem rest_eq (h : c.Reaches after) :
    after.rest = c.rest.drop (after.position - c.position) := by
  obtain ⟨n, -, rfl⟩ := h
  show c.rest.drop n = c.rest.drop (c.position + n - c.position)
  rw [Nat.add_sub_cancel_left]

end Reaches

theorem reaches_skip {c : Cursor} {n : Nat} (h : n ≤ c.rest.length) : c.Reaches (c.skip n) :=
  ⟨n, h, rfl⟩

theorem reaches_skip_one {c : Cursor} {ch : Char} {next : List Char} (hc : c.rest = ch :: next) :
    c.Reaches (c.skip 1) :=
  reaches_skip (by rw [hc]; exact Nat.le_add_left 1 _)

theorem reaches_skip_two {c : Cursor} {ch : Char} {next : List Char} (hc : c.rest = ch :: next)
    {d : Char} (hd : next.head? = some d) : c.Reaches (c.skip 2) := by
  apply reaches_skip
  cases next with
  | nil => cases hd
  | cons _ cs =>
    rw [hc]
    exact Nat.le_add_left 2 _

theorem reaches_skipWhile (p : Char → Bool) (c : Cursor) : c.Reaches (c.skipWhile p) :=
  reaches_skip (List.takeWhile_prefix p).length_le

end Cursor

theorem reaches_stringBody (quote : Char) (start p : Nat) (cs : List Char) :
    (Cursor.mk p cs).Reaches (stringBody quote start p cs).2 := by
  have hone (p : Nat) (c : Char) (cs : List Char) : (Cursor.mk p (c :: cs)).Reaches ⟨p + 1, cs⟩ :=
    Cursor.reaches_skip_one rfl
  have htwo (p : Nat) (c d : Char) (cs : List Char) :
      (Cursor.mk p (c :: d :: cs)).Reaches ⟨p + 2, cs⟩ :=
    Cursor.reaches_skip_two rfl rfl
  fun_induction stringBody quote start p cs with
  | case1 p => exact .refl _
  | case2 p => exact hone ..
  | case3 p c hc => exact hone ..
  | case4 p cs ih => exact (htwo ..).trans ih
  | case5 p d cs hd => exact hone ..
  | case6 p d cs hb e he ih => exact (htwo ..).trans ih
  | case7 p d cs hb he => exact hone ..
  | case8 p c d cs hc hb ih => exact (hone ..).trans ih

theorem length_numeral_le (cs : List Char) :
    (numeral cs).1.length + ((numeral cs).2.map fun fraction => 1 + fraction.length).getD 0 ≤
      cs.length := by
  have hsplit := congrArg List.length (List.takeWhile_append_dropWhile (p := Number.isDigit) (l := cs))
  rw [List.length_append] at hsplit
  rw [numeral]
  split
  · next d ds hrest =>
    have hds := (List.takeWhile_prefix Number.isDigit (l := ds)).length_le
    rw [hrest, List.length_cons, List.length_cons] at hsplit
    split
    · simp
      omega
    · simp
      omega
  · simp
    omega

theorem reaches_number (negative : Bool) (c : Cursor) : c.Reaches (number negative c).2 := by
  have hlength := length_numeral_le c.rest
  unfold number
  split
  · next whole fraction h =>
    rw [h] at hlength
    exact Cursor.reaches_skip (by simpa [Nat.add_assoc] using hlength)
  · next whole h =>
    rw [h] at hlength
    dsimp only
    split
    · exact Cursor.reaches_skip hlength
    · exact Cursor.reaches_skip hlength

theorem reaches_longTokenAt {ch : Char} {next : List Char} {c : Cursor} (hc : c.rest = ch :: next) :
    c.Reaches (longTokenAt ch next c).2 := by
  have hone := Cursor.reaches_skip_one hc
  have hnext : c.skip 1 = ⟨c.position + 1, next⟩ := by rw [Cursor.skip, hc]; rfl
  unfold longTokenAt
  split
  · have hbody := reaches_stringBody ch c.position (c.position + 1) next
    rw [← hnext] at hbody
    exact hone.trans hbody
  split
  · dsimp only
    split
    · exact hone.trans (Cursor.reaches_skipWhile _ _)
    · exact hone.trans (Cursor.reaches_skipWhile _ _)
  split
  · exact Cursor.reaches_skipWhile _ _
  split
  · exact reaches_number false c
  split
  · exact hone.trans (reaches_number true _)
  · exact .refl c

theorem reaches_tokenAt (c : Cursor) : c.Reaches (tokenAt c).2 := by
  unfold tokenAt
  split
  · exact .refl c
  · next ch next hc =>
    split
    · exact Cursor.reaches_skip_one hc
    · split
      · next hd => exact Cursor.reaches_skip_two hc hd
      · exact .refl c
    · split
      · next hd => exact Cursor.reaches_skip_two hc hd
      · exact Cursor.reaches_skip_one hc
    · exact reaches_longTokenAt hc

theorem reaches_next {c after : Cursor} {r : Except LexError Token} (h : next c = (r, after)) :
    c.Reaches after := by
  have hafter : (next c).2 = after := congrArg Prod.snd h
  rw [← hafter]
  exact (Cursor.reaches_skipWhile _ c).trans (reaches_tokenAt _)

section Ended

theorem ne_endOfInput_of_lookup {α : Type} [BEq α] [LawfulBEq α] {table : List (α × Token)} {a : α}
    {t : Token} (htable : ∀ e ∈ table, e.2 ≠ .endOfInput) (h : table.lookup a = some t) :
    t ≠ .endOfInput :=
  htable _ (mem_of_lookup h)

theorem ne_endOfInput_of_extended? {ch : Char} {alone joined : Token}
    (h : extended? ch = some (alone, joined)) : alone ≠ .endOfInput ∧ joined ≠ .endOfInput := by
  have hmem := mem_of_lookup h
  simp only [List.mem_cons, List.not_mem_nil, or_false, Prod.mk.injEq] at hmem
  rcases hmem with ⟨-, rfl, rfl⟩ | ⟨-, rfl, rfl⟩ | ⟨-, rfl, rfl⟩ <;> simp

theorem number_ne_endOfInput (negative : Bool) (c : Cursor) :
    (number negative c).1 ≠ .ok .endOfInput := by
  unfold number
  split
  · simp
  · dsimp only
    split <;> simp

theorem longTokenAt_ne_endOfInput (ch : Char) (next : List Char) (c : Cursor) :
    (longTokenAt ch next c).1 ≠ .ok .endOfInput := by
  unfold longTokenAt
  split
  · dsimp only
    cases (stringBody ch c.position (c.position + 1) next).1 with
    | error e => exact nofun
    | ok s => simp [Except.map]
  split
  · dsimp only
    split <;> simp
  split
  · cases hword : Token.keyword? (word c) with
    | none => simp
    | some t =>
      have ht : t ≠ .endOfInput := ne_endOfInput_of_lookup (by simp) hword
      simpa using ht
  split
  · exact number_ne_endOfInput false c
  split
  · exact number_ne_endOfInput true _
  · simp

theorem rest_of_tokenAt_ended {c : Cursor} (h : (tokenAt c).1 = .ok .endOfInput) : c.rest = [] := by
  unfold tokenAt at h
  split at h
  · next hc => exact hc
  · next ch next hc =>
    exfalso
    split at h
    · next t ht => exact ne_endOfInput_of_lookup (by simp) ht (by simpa using h)
    · next t ht _ =>
      split at h
      · exact ne_endOfInput_of_lookup (by simp) ht (by simpa using h)
      · simp at h
    · next alone joined ht _ _ =>
      obtain ⟨halone, hjoined⟩ := ne_endOfInput_of_extended? ht
      split at h
      · exact hjoined (by simpa using h)
      · exact halone (by simpa using h)
    · exact longTokenAt_ne_endOfInput ch next c h

theorem rest_of_ended {c after : Cursor} (h : next c = (.ok .endOfInput, after)) :
    after.rest = [] := by
  have hrest : (c.skipWhile Text.isBlank).rest = [] :=
    rest_of_tokenAt_ended (congrArg Prod.fst h)
  rw [next, tokenAt, hrest] at h
  cases h
  exact hrest

theorem next_of_rest_nil {c : Cursor} (h : c.rest = []) : next c = (.ok .endOfInput, c) := by
  obtain ⟨position, rest⟩ := c
  cases h
  rfl

end Ended

def Cursor.afterCalls (c : Cursor) : Nat → Cursor
  | 0 => c
  | n + 1 => (next c).2.afterCalls n

def Stops : Except LexError Token → Prop
  | .ok t => t = .endOfInput
  | .error _ => True

namespace Cursor

theorem afterCalls_add (m n : Nat) (c : Cursor) :
    c.afterCalls (m + n) = (c.afterCalls m).afterCalls n := by
  induction m generalizing c with
  | zero => rw [Nat.zero_add, afterCalls]
  | succ m ih => rw [Nat.add_right_comm, afterCalls, ih, afterCalls]

theorem reaches_afterCalls (n : Nat) (c : Cursor) : c.Reaches (c.afterCalls n) := by
  induction n generalizing c with
  | zero => exact .refl c
  | succ n ih => exact (reaches_next rfl).trans (ih _)

theorem afterCalls_of_rest_nil {c : Cursor} (h : c.rest = []) (n : Nat) : c.afterCalls n = c := by
  induction n with
  | zero => rfl
  | succ n ih => rw [afterCalls, next_of_rest_nil h, ih]

theorem exists_stops (c : Cursor) : ∃ n ≤ c.rest.length, Stops (next (c.afterCalls n)).1 := by
  induction hlength : c.rest.length using Nat.strongRecOn generalizing c with
  | ind length ih =>
    cases h : next c with
    | mk r after =>
      by_cases hstops : Stops r
      · refine ⟨0, Nat.zero_le _, ?_⟩
        rwa [afterCalls, h]
      · cases r with
        | error e => exact absurd trivial hstops
        | ok t =>
          have hshorter := length_next_lt h hstops
          obtain ⟨n, hn, hlast⟩ := ih _ (hlength ▸ hshorter) after rfl
          refine ⟨n + 1, by omega, ?_⟩
          rwa [afterCalls, h]

end Cursor

theorem position_lt_of_next {c after : Cursor} {t : Token} (h : next c = (.ok t, after))
    (ht : t ≠ .endOfInput) : c.position < after.position := by
  have hsum := (reaches_next h).position_add_length
  have hshorter := length_next_lt h ht
  omega

/-- Whatever the calls before it gave, a call moves the cursor on inside the condition, and moves it
if it gives a token. Once it has given the end it gives the end. So from wherever the cursor is, no
more calls than there are characters left give tokens. -/
theorem next_progress {source : String} {k : Nat} {c after : Cursor} {r : Except LexError Token}
    (hc : (Cursor.start source).afterCalls k = c) (h : next c = (r, after)) :
    c.position ≤ after.position ∧ after.position ≤ source.length ∧
      after.rest = source.toList.drop after.position ∧
      (∀ t, r = .ok t → t ≠ .endOfInput → c.position < after.position) ∧
      (r = .ok .endOfInput →
        ∀ n > k, next ((Cursor.start source).afterCalls n) = (.ok .endOfInput, after)) ∧
      ∃ n ≤ source.length - c.position, Stops (next ((Cursor.start source).afterCalls (k + n))).1 := by
  have hhere : (Cursor.start source).Reaches c := hc ▸ Cursor.reaches_afterCalls k _
  have hthere : (Cursor.start source).Reaches after := hhere.trans (reaches_next h)
  have hstart : (Cursor.start source).position + (Cursor.start source).rest.length =
      source.length := by
    rw [Cursor.start, String.length_toList, Nat.zero_add]
  refine ⟨(reaches_next h).position_le, ?_, hthere.rest_eq, ?_, ?_, ?_⟩
  · have hsum := hthere.position_add_length
    omega
  · rintro t rfl ht
    exact position_lt_of_next h ht
  · rintro rfl n hn
    have hended := rest_of_ended h
    obtain ⟨m, rfl⟩ := Nat.exists_eq_add_of_le hn
    have hstays : (Cursor.start source).afterCalls (k + 1 + m) = after := by
      rw [Cursor.afterCalls_add, Cursor.afterCalls_add, hc, Cursor.afterCalls, h,
        Cursor.afterCalls, Cursor.afterCalls_of_rest_nil hended]
    rw [hstays, next_of_rest_nil hended]
  · obtain ⟨n, hn, hstops⟩ := c.exists_stops
    have hsum := hhere.position_add_length
    refine ⟨n, by omega, ?_⟩
    rwa [Cursor.afterCalls_add, hc]

theorem next_progress_escape :
    (Cursor.start "'\\q").afterCalls 1 = ⟨2, ['q']⟩ ∧
      next ⟨2, ['q']⟩ = (.ok (.identifier "q"), ⟨3, []⟩) ∧
      (⟨2, ['q']⟩ : Cursor).position < (⟨3, []⟩ : Cursor).position ∧ 3 ≤ "'\\q".length ∧
      [] = "'\\q".toList.drop 3 ∧
      (∃ n ≤ "'\\q".length - 2, Stops (next ((Cursor.start "'\\q").afterCalls (1 + n))).1) ∧
      (Cursor.start "'\\q").afterCalls 2 = ⟨3, []⟩ ∧
      next ⟨3, []⟩ = (.ok .endOfInput, ⟨3, []⟩) ∧
      ∀ n > 2, next ((Cursor.start "'\\q").afterCalls n) = (.ok .endOfInput, ⟨3, []⟩) := by
  have hinside : (Cursor.start "'\\q").afterCalls 1 = ⟨2, ['q']⟩ := rfl
  have hname : next ⟨2, ['q']⟩ = (.ok (.identifier "q"), ⟨3, []⟩) := rfl
  have hbehind : (Cursor.start "'\\q").afterCalls 2 = ⟨3, []⟩ := rfl
  have hended : next ⟨3, []⟩ = (.ok .endOfInput, ⟨3, []⟩) := rfl
  obtain ⟨-, hle, hrest, hlt, -, hstops⟩ := next_progress hinside hname
  obtain ⟨-, -, -, -, hstays, -⟩ := next_progress hbehind hended
  have hmoved : (⟨2, ['q']⟩ : Cursor).position < (⟨3, []⟩ : Cursor).position :=
    hlt (.identifier "q") rfl (by simp)
  exact ⟨hinside, hname, hmoved, hle, hrest, hstops, hbehind, hended, hstays rfl⟩

end SqlTemplate.Condition
