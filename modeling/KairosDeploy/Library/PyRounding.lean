import KairosDeploy.Library.PyNumber

/-!
# Rounding to a float

The float nearest to a rational number is the one that division of integers
gives, or an infinity when there is none.  Rounding keeps the order with every
float: a number that is not below a float is not rounded below it.
-/

namespace KairosDeploy.Library.PyNumber

/-! ## The nearest float -/

/-- The float nearest to a number, infinite when the number is too large. -/
def nearest (value : ℚ) : PyFloat :=
  (PyFloat.ofRatio value.num value.den).getD
    (.infinite (decide (value < 0)))

/-- A value rounded to a float. -/
def rounded : Comparable → Comparable
  | some (some (some value)) => (nearest value).comparable
  | extreme => extreme

/-- `-value`. -/
def PyFloat.neg : PyFloat → PyFloat
  | finite ⟨negative, mantissa, exponent, normal⟩ =>
      finite ⟨!negative, mantissa, exponent, normal⟩
  | infinite negative => infinite !negative
  | nan => nan

example :
    (nearest (2 ^ 53 + 1)).comparable = comparableInt (2 ^ 53) ∧
      nearest (10 ^ 309) = .infinite false := by
  decide +kernel

/-! ## The mantissa of a quotient -/

/-- The mantissa of the float nearest to a quotient, before it is carried. -/
def quotientMantissa (numerator denominator : Nat) : Nat :=
  let exponent := quotientExponent numerator denominator
  roundedQuotient (numerator * 2 ^ (-exponent).toNat)
    (denominator * 2 ^ exponent.toNat)

/-- The quotient before it is rounded. -/
theorem scaled_quotient (numerator denominator : Nat) (exponent : Int) :
    ((numerator * 2 ^ (-exponent).toNat : ℕ) : ℚ) /
        ((denominator * 2 ^ exponent.toNat : ℕ) : ℚ) =
      (numerator : ℚ) / denominator / 2 ^ exponent := by
  rcases Int.eq_nat_or_neg exponent with ⟨shift, rfl | rfl⟩
  · have low : (-(shift : Int)).toNat = 0 := by omega
    rw [low, Int.toNat_natCast, zpow_natCast, div_div]
    push_cast
    ring
  · have low : (-(shift : Int)).toNat = 0 := by omega
    rw [neg_neg, low, Int.toNat_natCast, zpow_neg, zpow_natCast, div_inv_eq_mul]
    push_cast
    ring

section Quotients

variable {numerator denominator : Nat}

theorem le_quotientMantissa
    (positive : 0 < denominator) {bound : Nat}
    (above :
      (bound : ℚ) * 2 ^ quotientExponent numerator denominator ≤
        (numerator : ℚ) / denominator) :
    bound ≤ quotientMantissa numerator denominator := by
  have scale : (0 : ℚ) < 2 ^ quotientExponent numerator denominator :=
    zpow_pos zero_lt_two _
  have below : 0 < denominator * 2 ^
      (quotientExponent numerator denominator).toNat :=
    Nat.mul_pos positive (Nat.two_pow_pos _)
  apply le_roundedQuotient below
  rw [← le_div_iff₀ scale, ← scaled_quotient,
    le_div_iff₀ (by exact_mod_cast below)] at above
  exact_mod_cast above

theorem quotientMantissa_le
    (positive : 0 < denominator) {bound : Nat}
    (under :
      (numerator : ℚ) / denominator ≤
        (bound : ℚ) * 2 ^ quotientExponent numerator denominator) :
    quotientMantissa numerator denominator ≤ bound := by
  have scale : (0 : ℚ) < 2 ^ quotientExponent numerator denominator :=
    zpow_pos zero_lt_two _
  have below : 0 < denominator * 2 ^
      (quotientExponent numerator denominator).toNat :=
    Nat.mul_pos positive (Nat.two_pow_pos _)
  apply roundedQuotient_le below
  rw [← div_le_iff₀ scale, ← scaled_quotient,
    div_le_iff₀ (by exact_mod_cast below)] at under
  exact_mod_cast under

/-- The exponent is that of the leading bit, unless that is too small. -/
theorem quotientExponent_window (positive : 0 < denominator) :
    (numerator : ℚ) / denominator <
        2 ^ 53 * 2 ^ quotientExponent numerator denominator ∧
      -1074 ≤ quotientExponent numerator denominator ∧
      (quotientExponent numerator denominator = -1074 ∨
        2 ^ 52 * 2 ^ quotientExponent numerator denominator ≤
          (numerator : ℚ) / denominator) := by
  have denominatorPositive : (0 : ℚ) < denominator := by
    exact_mod_cast positive
  have guards : guardBits = 1100 := by
    unfold guardBits
    rfl
  obtain ⟨bits, bitsEq⟩ :
      ∃ bits, (numerator * 2 ^ guardBits / denominator).log2 = bits :=
    ⟨_, rfl⟩
  have exponentEq :
      quotientExponent numerator denominator =
        max ((bits : Int) - (guardBits + 52)) (-1074) := by
    rw [quotientExponent, bitsEq]
  have upper :
      (numerator : ℚ) / denominator < 2 ^ ((bits : Int) + 1 - guardBits) := by
    have whole :
        numerator * 2 ^ guardBits < 2 ^ (bits + 1) * denominator := by
      rw [← Nat.div_lt_iff_lt_mul positive, ← bitsEq]
      exact Nat.lt_log2_self
    have cast :
        (numerator : ℚ) * 2 ^ guardBits < 2 ^ (bits + 1) * denominator := by
      exact_mod_cast whole
    rw [zpow_sub₀ two_ne_zero, zpow_natCast, div_lt_div_iff₀
      denominatorPositive (pow_pos zero_lt_two _)]
    exact_mod_cast cast
  refine ⟨?_, by omega, ?_⟩
  · refine upper.trans_le ?_
    rw [← zpow_natCast, ← zpow_add₀ two_ne_zero]
    apply zpow_le_zpow_right₀ one_le_two
    omega
  · rcases Int.lt_or_le
      ((bits : Int) - (guardBits + 52)) (-1074) with small | large
    · exact Or.inl (by omega)
    · right
      have nonzero : numerator * 2 ^ guardBits / denominator ≠ 0 := by
        intro none_left
        rw [none_left, Nat.log2_zero] at bitsEq
        omega
      have whole : 2 ^ bits * denominator ≤ numerator * 2 ^ guardBits := by
        rw [← Nat.le_div_iff_mul_le positive, ← bitsEq]
        exact Nat.log2_self_le nonzero
      have cast :
          (2 : ℚ) ^ bits * denominator ≤ numerator * 2 ^ guardBits := by
        exact_mod_cast whole
      have exponent :
          quotientExponent numerator denominator =
            (bits : Int) - (guardBits + 52) := by
        omega
      rw [exponent, ← zpow_natCast, ← zpow_add₀ two_ne_zero]
      have place :
          ((52 : ℕ) : Int) + ((bits : Int) - (guardBits + 52)) =
            bits - guardBits := by
        omega
      rw [place, zpow_sub₀ two_ne_zero, zpow_natCast, zpow_natCast,
        div_le_div_iff₀ (pow_pos zero_lt_two _) denominatorPositive]
      exact cast

/-- A mantissa has its leading bit set, unless the exponent is the least. -/
theorem quotientMantissa_window (positive : 0 < denominator) :
    quotientMantissa numerator denominator ≤ 2 ^ 53 ∧
      (quotientExponent numerator denominator = -1074 ∨
        2 ^ 52 ≤ quotientMantissa numerator denominator) := by
  rcases @quotientExponent_window numerator denominator positive with
    ⟨upper, _, lower⟩
  constructor
  · apply quotientMantissa_le positive
    push_cast
    exact upper.le
  · rcases lower with least | leading
    · exact Or.inl least
    · right
      apply le_quotientMantissa positive
      push_cast
      exact leading

/-! ## Rounding and the order -/

/-- The rounded quotient as a number. -/
def roundedValue (numerator denominator : Nat) : ℚ :=
  quotientMantissa numerator denominator *
    2 ^ quotientExponent numerator denominator

/-- A mantissa at a greater exponent is a mantissa at a smaller one. -/
theorem shifted_mantissa
    (mantissa : Nat) {least exponent : Int} (le : least ≤ exponent) :
    (mantissa : ℚ) * 2 ^ exponent =
      ((mantissa * 2 ^ (exponent - least).toNat : ℕ) : ℚ) * 2 ^ least := by
  obtain ⟨shift, rfl⟩ : ∃ shift : ℕ, exponent = least + shift :=
    ⟨(exponent - least).toNat, by omega⟩
  have distance : (least + (shift : Int) - least).toNat = shift := by omega
  rw [distance, zpow_add₀ two_ne_zero, zpow_natCast]
  push_cast
  ring

/-- A mantissa at a smaller exponent is below every leading bit. -/
theorem lt_leadingBit
    {mantissa : Nat} (fits : mantissa < 2 ^ 53) {small exponent : Int}
    (lt : small < exponent) :
    (mantissa : ℚ) * 2 ^ small < 2 ^ 52 * 2 ^ exponent := by
  have cast : (mantissa : ℚ) < 2 ^ 53 := by exact_mod_cast fits
  calc
    (mantissa : ℚ) * 2 ^ small < 2 ^ 53 * 2 ^ small :=
      mul_lt_mul_of_pos_right cast (zpow_pos zero_lt_two _)
    _ = 2 ^ 52 * 2 ^ (small + 1) := by
      rw [zpow_add₀ two_ne_zero]
      ring
    _ ≤ 2 ^ 52 * 2 ^ exponent := by
      apply mul_le_mul_of_nonneg_left _ (by positivity)
      exact zpow_le_zpow_right₀ one_le_two lt

/-- A quotient that is not below a float is not rounded below it. -/
theorem le_roundedValue
    (positive : 0 < denominator) {mantissa : Nat} {exponent : Int}
    (fits : mantissa < 2 ^ 53) (bounded : -1074 ≤ exponent)
    (le : (mantissa : ℚ) * 2 ^ exponent ≤ (numerator : ℚ) / denominator) :
    (mantissa : ℚ) * 2 ^ exponent ≤ roundedValue numerator denominator := by
  have scale : (0 : ℚ) < 2 ^ quotientExponent numerator denominator :=
    zpow_pos zero_lt_two _
  rcases Int.lt_or_le exponent (quotientExponent numerator denominator) with
    smaller | greater
  · rcases (@quotientMantissa_window numerator denominator positive).2 with
      least | leading
    · omega
    · have cast : (2 : ℚ) ^ 52 ≤ quotientMantissa numerator denominator := by
        exact_mod_cast leading
      refine (lt_leadingBit fits smaller).le.trans ?_
      exact mul_le_mul_of_nonneg_right cast scale.le
  · rw [shifted_mantissa mantissa greater] at le ⊢
    have mantissaLe := le_quotientMantissa positive le
    apply mul_le_mul_of_nonneg_right _ scale.le
    exact_mod_cast mantissaLe

/-- A quotient that is not above a float is not rounded above it. -/
theorem roundedValue_le
    (positive : 0 < denominator) {mantissa : Nat} {exponent : Int}
    (fits : mantissa < 2 ^ 53) (bounded : -1074 ≤ exponent)
    (le : (numerator : ℚ) / denominator ≤ (mantissa : ℚ) * 2 ^ exponent) :
    roundedValue numerator denominator ≤ (mantissa : ℚ) * 2 ^ exponent := by
  have scale : (0 : ℚ) < 2 ^ quotientExponent numerator denominator :=
    zpow_pos zero_lt_two _
  rcases Int.lt_or_le exponent (quotientExponent numerator denominator) with
    smaller | greater
  · rcases (@quotientExponent_window numerator denominator positive).2.2 with
      least | leading
    · omega
    · exact absurd (leading.trans le) (not_le.2 (lt_leadingBit fits smaller))
  · rw [shifted_mantissa mantissa greater] at le ⊢
    have mantissaLe := quotientMantissa_le positive le
    apply mul_le_mul_of_nonneg_right _ scale.le
    exact_mod_cast mantissaLe

/-- The largest finite float. -/
def greatestFinite : ℚ := (2 ^ 53 - 1) * 2 ^ (971 : Int)

theorem value_of_sign
    (quotient : Int) {mantissa : Nat} {exponent : Int}
    (normal :
      mantissa < 2 ^ 53 ∧ -1074 ≤ exponent ∧ exponent ≤ 971 ∧
        (2 ^ 52 ≤ mantissa ∨ exponent = -1074)) :
    FiniteFloat.value ⟨decide (quotient < 0), mantissa, exponent, normal⟩ =
      (if quotient < 0 then -1 else 1) * (mantissa * 2 ^ exponent) := by
  by_cases negative : quotient < 0
  · simp [FiniteFloat.value, negative]
  · simp [FiniteFloat.value, negative]

/-- What a quotient is as a float, if it is not too large. -/
theorem ofRatio_cases
    {quotient : Int} (nonzero : quotient ≠ 0) (positive : 0 < denominator) :
    (∃ float : FiniteFloat,
        PyFloat.ofRatio quotient denominator = some (.finite float) ∧
          float.value =
            (if quotient < 0 then -1 else 1) *
              roundedValue quotient.natAbs denominator) ∨
      PyFloat.ofRatio quotient denominator = none ∧
        greatestFinite < roundedValue quotient.natAbs denominator := by
  obtain ⟨exponent, exponentEq⟩ :
      ∃ exponent, quotientExponent quotient.natAbs denominator = exponent :=
    ⟨_, rfl⟩
  obtain ⟨mantissa, mantissaEq⟩ :
      ∃ mantissa, quotientMantissa quotient.natAbs denominator = mantissa :=
    ⟨_, rfl⟩
  have least :=
    (@quotientExponent_window quotient.natAbs denominator positive).2.1
  rcases @quotientMantissa_window quotient.natAbs denominator positive with
    ⟨most, leading⟩
  rw [exponentEq] at least leading
  rw [mantissaEq] at most leading
  have value :
      roundedValue quotient.natAbs denominator =
        mantissa * 2 ^ exponent := by
    rw [roundedValue, exponentEq, mantissaEq]
  have computed :
      PyFloat.ofRatio quotient denominator =
        if mantissa = 2 ^ 53 then
          PyFloat.ofParts (decide (quotient < 0)) (2 ^ 52) (exponent + 1)
        else
          PyFloat.ofParts (decide (quotient < 0)) mantissa exponent := by
    rw [quotientMantissa, exponentEq] at mantissaEq
    unfold PyFloat.ofRatio
    simp only [exponentEq, mantissaEq, Int.natAbs_eq_zero, if_neg nonzero]
  have above
      {digits : Nat} {place : Int} (leadingBit : 2 ^ 52 ≤ digits)
      (beyond : 971 < place) :
      greatestFinite < digits * 2 ^ place := by
    have cast : (2 : ℚ) ^ 52 ≤ digits := by exact_mod_cast leadingBit
    calc
      greatestFinite = ((2 ^ 53 - 1 : ℕ) : ℚ) * 2 ^ (971 : Int) := by
        norm_num [greatestFinite]
      _ < 2 ^ 52 * 2 ^ place := lt_leadingBit (by norm_num) beyond
      _ ≤ digits * 2 ^ place :=
        mul_le_mul_of_nonneg_right cast (zpow_nonneg zero_le_two _)
  rw [computed, value]
  by_cases carried : mantissa = 2 ^ 53
  · have carry :
        (mantissa : ℚ) * 2 ^ exponent =
          ((2 ^ 52 : ℕ) : ℚ) * 2 ^ (exponent + 1) := by
      rw [carried, zpow_add₀ two_ne_zero]
      push_cast
      ring
    rw [carry, if_pos carried]
    by_cases range : exponent + 1 ≤ 971
    · left
      exact
        ⟨_, ofParts_of_normal _
          ⟨by norm_num, by omega, range, Or.inl le_rfl⟩,
          value_of_sign quotient _⟩
    · right
      refine ⟨?_, above le_rfl (not_le.1 range)⟩
      rw [PyFloat.ofParts, dif_neg]
      exact fun normal => range normal.2.2.1
  · have fits : mantissa < 2 ^ 53 := lt_of_le_of_ne most carried
    rw [if_neg carried]
    by_cases range : exponent ≤ 971
    · left
      exact
        ⟨_, ofParts_of_normal _ ⟨fits, least, range, leading.symm⟩,
          value_of_sign quotient _⟩
    · right
      constructor
      · rw [PyFloat.ofParts, dif_neg]
        exact fun normal => range normal.2.2.1
      · rcases leading with small | leadingBit
        · omega
        · exact above leadingBit (not_le.1 range)

end Quotients

/-! ## Floats and the numbers between them -/

/-- A finite float is at most its largest one. -/
theorem value_le_greatestFinite
    {mantissa : Nat} {exponent : Int} (fits : mantissa < 2 ^ 53)
    (range : exponent ≤ 971) :
    (mantissa : ℚ) * 2 ^ exponent ≤ greatestFinite := by
  have cast : (mantissa : ℚ) ≤ 2 ^ 53 - 1 := by
    rw [le_sub_iff_add_le]
    exact_mod_cast fits
  calc
    (mantissa : ℚ) * 2 ^ exponent ≤ (2 ^ 53 - 1) * 2 ^ exponent :=
      mul_le_mul_of_nonneg_right cast (zpow_nonneg zero_le_two _)
    _ ≤ greatestFinite := by
      apply mul_le_mul_of_nonneg_left _ (by norm_num)
      exact zpow_le_zpow_right₀ one_le_two range

theorem pyLe_finite (left : FiniteFloat) (right : ℚ) :
    pyLe (PyFloat.finite left).comparable
        (some ((right : WithTop ℚ) : WithBot (WithTop ℚ))) =
      decide (left.value ≤ right) := by
  simp [pyLe, PyFloat.comparable]

theorem natAbs_div_den (value : ℚ) :
    ((value.num.natAbs : ℕ) : ℚ) / value.den = |value| := by
  rw [Nat.cast_natAbs, Int.cast_abs]
  nth_rewrite 3 [← Rat.num_div_den value]
  rw [abs_div, Nat.abs_cast]

theorem roundedValue_nonneg (numerator denominator : Nat) :
    0 ≤ roundedValue numerator denominator :=
  mul_nonneg (Nat.cast_nonneg _) (zpow_nonneg zero_le_two _)

/-- The nearest float of a number that is not negative. -/
theorem nearest_cases {value : ℚ} (nonzero : value ≠ 0) :
    (∃ float : FiniteFloat, nearest value = .finite float ∧
        float.value =
          (if value < 0 then -1 else 1) *
            roundedValue value.num.natAbs value.den) ∨
      nearest value = .infinite (decide (value < 0)) ∧
        greatestFinite < roundedValue value.num.natAbs value.den := by
  have numerator : value.num ≠ 0 := Rat.num_ne_zero.2 nonzero
  rcases ofRatio_cases numerator value.den_pos with
    ⟨float, found, same⟩ | ⟨none_left, beyond⟩
  · left
    refine ⟨float, by rw [nearest, found, Option.getD_some], ?_⟩
    rw [same]
    simp only [Rat.num_neg]
  · right
    exact ⟨by rw [nearest, none_left, Option.getD_none], beyond⟩

theorem pyLe_bot (negative : Bool) :
    pyLe (PyFloat.infinite true).comparable
      (PyFloat.infinite negative).comparable = true := by
  cases negative with
  | false => simp [pyLe, PyFloat.comparable]
  | true => simp [pyLe, PyFloat.comparable]

/-- A number that is not below a finite float is not rounded below it. -/
theorem le_nearest_finite
    {left : FiniteFloat} {value : ℚ} (nonzero : value ≠ 0)
    (le : left.value ≤ value) :
    pyLe (PyFloat.finite left).comparable (nearest value).comparable =
      true := by
  rcases left with ⟨negative, mantissa, exponent, normal⟩
  rcases normal with ⟨fits, least, range, leading⟩
  have positive := value.den_pos
  have size := natAbs_div_den value
  have magnitude : (0 : ℚ) ≤ mantissa * 2 ^ exponent :=
    mul_nonneg (Nat.cast_nonneg _) (zpow_nonneg zero_le_two _)
  -- below zero the rounding of the magnitude keeps its upper bound
  have underBound (below : value < 0) :
      negative = true ∧
        roundedValue value.num.natAbs value.den ≤ mantissa * 2 ^ exponent := by
    cases negative with
    | false =>
        have nonneg := le
        rw [value_of_positive] at nonneg
        exact absurd below (not_lt.2 (magnitude.trans nonneg))
    | true =>
        refine ⟨rfl, roundedValue_le positive fits least ?_⟩
        rw [size, abs_of_neg below]
        simp only [FiniteFloat.value, if_true] at le
        linarith
  rcases nearest_cases nonzero with ⟨float, found, same⟩ | ⟨found, beyond⟩
  · have order :
        FiniteFloat.value
            ⟨negative, mantissa, exponent, fits, least, range, leading⟩ ≤
          float.value := by
      rw [same]
      by_cases below : value < 0
      · rcases underBound below with ⟨rfl, bound⟩
        simp only [FiniteFloat.value, if_true, if_pos below]
        linarith
      · rw [if_neg below, one_mul]
        cases negative with
        | true =>
            have nonneg :=
              roundedValue_nonneg value.num.natAbs value.den
            simp only [FiniteFloat.value, if_true]
            linarith
        | false =>
            rw [value_of_positive] at le ⊢
            apply le_roundedValue positive fits least
            rw [size, abs_of_nonneg (not_lt.1 below)]
            exact le
    rw [found]
    simpa [pyLe, PyFloat.comparable] using order
  · rw [found]
    by_cases below : value < 0
    · have bound := (underBound below).2
      have finite := value_le_greatestFinite fits range
      exact absurd beyond (not_lt.2 (bound.trans finite))
    · simp [below, pyLe, PyFloat.comparable]

/-- A number that is not below a float is not rounded below it. -/
theorem le_nearest
    {float : PyFloat} {value : ℚ}
    (le :
      pyLe float.comparable
        (some ((value : WithTop ℚ) : WithBot (WithTop ℚ))) = true) :
    pyLe float.comparable (nearest value).comparable = true := by
  by_cases zero : value = 0
  · subst zero
    have exact_zero :
        (nearest 0).comparable =
          some (((0 : ℚ) : WithTop ℚ) : WithBot (WithTop ℚ)) := by
      decide +kernel
    rwa [exact_zero]
  cases float with
  | nan => cases le
  | infinite negative =>
      cases negative with
      | false => simp [pyLe, PyFloat.comparable] at le
      | true =>
          rcases nearest_cases zero with ⟨float, found, _⟩ | ⟨found, _⟩
          · rw [found]
            simp [pyLe, PyFloat.comparable]
          · rw [found]
            exact pyLe_bot _
  | finite left =>
      apply le_nearest_finite zero
      rw [pyLe_finite, decide_eq_true_eq] at le
      exact le

/-- The float nearest to a number is a number. -/
theorem nearest_number (value : ℚ) :
    ∃ number, (nearest value).comparable = some number := by
  by_cases zero : value = 0
  · subst zero
    exact ⟨_, rfl⟩
  · rcases nearest_cases zero with ⟨float, found, _⟩ | ⟨found, _⟩
    · rw [found]
      exact ⟨_, rfl⟩
    · rw [found]
      by_cases below : value < 0
      · exact ⟨⊥, by simp [below, PyFloat.comparable]⟩
      · exact ⟨((⊤ : WithTop ℚ) : WithBot (WithTop ℚ)), by
          simp [below, PyFloat.comparable]⟩

theorem rounded_number (value : WithBot (WithTop ℚ)) :
    ∃ number, rounded (some value) = some number := by
  cases value with
  | bot => exact ⟨⊥, rfl⟩
  | coe value =>
      cases value with
      | top => exact ⟨_, rfl⟩
      | coe value => exact nearest_number value

/-- A value that is not below a float is not rounded below it. -/
theorem le_rounded
    {float : PyFloat} {total : WithBot (WithTop ℚ)}
    (le : pyLe float.comparable (some total) = true) :
    pyLe float.comparable (rounded (some total)) = true := by
  cases total with
  | bot => exact le
  | coe total =>
      cases total with
      | top => exact le
      | coe total => exact le_nearest le

end KairosDeploy.Library.PyNumber
