import SqlTemplate.Number.Decimal
import SqlTemplate.Number.FloatText
import SqlTemplate.Proofs.JsonGrammar
import SqlTemplate.Proofs.PathText

namespace SqlTemplate

namespace Number

open Float.Model in
theorem Binary64.ofFloat_of_isFinite {x : Float} (h : x.isFinite = true) :
    ∃ negative mantissa exponent, ofFloat x = finite negative mantissa exponent := by
  have hfield : x.toBits.toNat / hiddenBit % 2048 ≠ 2047 := by
    intro hfield
    have hexponent : @UnpackedFloat.unpackExponent Format.binary64 x.toModel.toBits.toBitVec =
        -1#11 := by
      apply BitVec.eq_of_toNat_eq
      have hshift : x.toModel.toBits.toNat >>> 52 % 2048 = 2047 := by
        rw [Nat.shiftRight_eq_div_pow]
        exact hfield
      simpa [UnpackedFloat.unpackExponent, Format.binary64] using hshift
    have hunpacked : UnpackedFloat.isFinite
        (UnpackedFloat.unpack Format.binary64 x.toModel.toBits.toBitVec) = true := h
    dsimp only [UnpackedFloat.unpack] at hunpacked
    rw [if_pos hexponent] at hunpacked
    split at hunpacked <;> cases hunpacked
  rw [ofFloat]
  simp only [hfield, if_false]
  split <;> exact ⟨_, _, _, rfl⟩

theorem isDigits_digitsOf (n : Nat) : Json.IsDigits (digitsOf n) :=
  ⟨Nat.toDigits_ne_nil, isDigit_of_mem_digitsOf⟩

theorem head?_digitsOf {n : Nat} (h : n ≠ 0) : (digitsOf n).head? ≠ some '0' := by
  induction n using Nat.strongRecOn with
  | ind n ih =>
    rcases Nat.lt_or_ge n 10 with hn | hn
    · have hall : ∀ n < 10, n ≠ 0 → Nat.digitChar n ≠ '0' := by decide
      rw [digitsOf, Nat.toDigits_of_lt_base hn, List.head?_cons]
      exact fun heq => hall n hn h (Option.some.inj heq)
    · rw [digitsOf, Nat.toDigits_of_base_le (by decide) hn,
        List.head?_append_of_ne_nil _ Nat.toDigits_ne_nil]
      exact ih (n / 10) (by omega) (by omega)

theorem whole_digitsOf (n : Nat) :
    digitsOf n = ['0'] ∨ Json.IsDigits (digitsOf n) ∧ (digitsOf n).head? ≠ some '0' := by
  rcases Nat.eq_zero_or_pos n with rfl | hn
  · exact .inl (Nat.toDigits_zero 10)
  · exact .inr ⟨isDigits_digitsOf n, head?_digitsOf (Nat.ne_of_gt hn)⟩

theorem isDigits_paddedDigits (width n : Nat) : Json.IsDigits (paddedDigits width n) := by
  obtain ⟨hne, hdigits⟩ := isDigits_digitsOf n
  refine ⟨List.append_ne_nil_of_right_ne_nil _ hne, List.forall_mem_append.mpr ⟨?_, hdigits⟩⟩
  intro c hc
  rw [List.eq_of_mem_replicate hc]
  decide

theorem spellsNumber_signed (negative : Bool) {whole fraction : List Char}
    (hwhole : whole = ['0'] ∨ Json.IsDigits whole ∧ whole.head? ≠ some '0')
    (hfraction : fraction = [] ∨ ∃ digits, Json.IsDigits digits ∧ fraction = '.' :: digits) :
    Json.SpellsNumber (signed negative (whole ++ fraction)) := by
  cases negative with
  | false =>
    exact ⟨[], whole, fraction, [], ⟨.inl rfl, hwhole, hfraction, .inl rfl⟩, by simp [signed]⟩
  | true =>
    exact ⟨['-'], whole, fraction, [], ⟨.inr rfl, hwhole, hfraction, .inl rfl⟩, by simp [signed]⟩

theorem spellsNumber_positional (negative : Bool) (mantissa scale : Nat) :
    Json.SpellsNumber (signed negative (positional mantissa scale)) := by
  rw [positional]
  split
  · rw [← List.append_nil (digitsOf mantissa)]
    exact spellsNumber_signed negative (whole_digitsOf _) (.inl rfl)
  · exact spellsNumber_signed negative (whole_digitsOf _)
      (.inr ⟨_, isDigits_paddedDigits _ _, rfl⟩)

theorem spellsNumber_integerText (n : Int) : Json.SpellsNumber (integerText n).toList := by
  rw [integerText, String.toList_ofList]
  exact spellsNumber_positional _ n.natAbs 0

theorem spellsNumber_plainFloat {x : Float} (h : x.isFinite = true) :
    Json.SpellsNumber (plainFloat x).toList := by
  obtain ⟨negative, mantissa, exponent, hx⟩ := Binary64.ofFloat_of_isFinite h
  rw [plainFloat, floatText, hx]
  simp only [String.toList_ofList]
  exact spellsNumber_positional _ _ _

end Number

theorem Decimal.spellsNumber_text (d : Decimal) : Json.SpellsNumber d.text.toList := by
  rw [text, String.toList_ofList]
  exact Number.spellsNumber_positional _ _ _

end SqlTemplate
