import KairosDeploy.Library.PyNumber

/-!
# Quotients of at most one

The quotient of two natural numbers of which the first is not greater is
always a float: it is not too large, and if it is too small it is rounded to a
multiple of the least one.
-/

namespace KairosDeploy.Library.PyNumber

/-- A quotient whose mantissa fits is a float. -/
theorem exists_float_of_mantissa
    {numerator denominator shift : Nat} (nonzero : numerator ≠ 0)
    (exponent :
      quotientExponent numerator denominator = -(shift : Int))
    (window : 52 ≤ shift ∧ shift ≤ 1074)
    (upper : roundedQuotient (numerator * 2 ^ shift) denominator ≤ 2 ^ 53)
    (lower : shift = 1074 ∨
      2 ^ 52 ≤ roundedQuotient (numerator * 2 ^ shift) denominator) :
    ∃ float : FiniteFloat,
      PyFloat.ofRatio numerator denominator = some (.finite float) := by
  rw [ofRatio_natCast nonzero exponent]
  split_ifs with carried
  · exact
      ⟨_, ofParts_of_normal false
        ⟨by norm_num, by omega, by omega, Or.inl le_rfl⟩⟩
  · refine
      ⟨_, ofParts_of_normal false
        ⟨lt_of_le_of_ne upper carried, by omega, by omega, ?_⟩⟩
    rcases lower with least | enough
    · exact Or.inr (by omega)
    · exact Or.inl enough

/-- A quotient that is not greater than one is a float. -/
theorem exists_float_of_le
    {numerator denominator : Nat} (positive : 0 < denominator)
    (le : numerator ≤ denominator) :
    ∃ float : FiniteFloat,
      PyFloat.ofRatio numerator denominator = some (.finite float) := by
  by_cases zero : numerator = 0
  · subst zero
    exact ⟨⟨false, 0, -1074, by decide⟩, rfl⟩
  have guards : guardBits = 1100 := by
    unfold guardBits
    rfl
  obtain ⟨bits, bitsEq⟩ :
      ∃ bits, (numerator * 2 ^ guardBits / denominator).log2 = bits :=
    ⟨_, rfl⟩
  have most : numerator * 2 ^ guardBits / denominator ≤ 2 ^ guardBits := by
    apply Nat.div_le_of_le_mul
    exact Nat.mul_le_mul_right _ le
  by_cases tiny : bits ≤ 78
  · have exponent :
        quotientExponent numerator denominator = -((1074 : Nat) : Int) := by
      unfold quotientExponent
      rw [bitsEq, guards]
      omega
    have small : numerator * 2 ^ guardBits < 2 ^ 79 * denominator := by
      rw [← Nat.div_lt_iff_lt_mul positive]
      calc
        numerator * 2 ^ guardBits / denominator < 2 ^ (bits + 1) := by
          rw [← bitsEq]
          exact Nat.lt_log2_self
        _ ≤ 2 ^ 79 := Nat.pow_le_pow_right (by decide) (by omega)
    have fits : numerator * 2 ^ 1074 ≤ 2 ^ 53 * denominator := by
      have split : guardBits = 1074 + 26 := guards
      have parts : (79 : Nat) = 26 + 53 := rfl
      rw [split, parts, pow_add, pow_add, ← Nat.mul_assoc,
        Nat.mul_comm (numerator * 2 ^ 1074), Nat.mul_assoc] at small
      exact (Nat.lt_of_mul_lt_mul_left small).le
    exact
      exists_float_of_mantissa zero exponent (by omega)
        (roundedQuotient_le positive fits) (Or.inl rfl)
  · have nonzero : numerator * 2 ^ guardBits / denominator ≠ 0 := by
      intro none_left
      rw [none_left, Nat.log2_zero] at bitsEq
      omega
    have bitsUpper : bits ≤ guardBits := by
      rw [← bitsEq]
      calc
        (numerator * 2 ^ guardBits / denominator).log2 ≤
            (2 ^ guardBits).log2 := by
          rw [Nat.le_log2 (Nat.two_pow_pos _).ne']
          exact (Nat.log2_self_le nonzero).trans most
        _ = guardBits := Nat.log2_two_pow
    obtain ⟨shift, shiftEq⟩ : ∃ shift, bits + shift = guardBits + 52 :=
      ⟨guardBits + 52 - bits, by omega⟩
    have exponent :
        quotientExponent numerator denominator = -(shift : Int) := by
      unfold quotientExponent
      rw [bitsEq]
      omega
    rcases mantissa_window positive nonzero bitsEq shiftEq with
      ⟨lower, upper⟩
    exact
      exists_float_of_mantissa zero exponent (by omega) upper
        (Or.inr lower)

end KairosDeploy.Library.PyNumber
