import Mathlib

/-!
# Python numbers

A `float` is a binary64 value: finite, infinite or not a number.  Comparisons
between integers and floats are exact in Python, so numbers are compared as
extended rationals; nothing compares with a value that is not a number.  Only
the conversion of an integer rounds.
-/

namespace KairosDeploy.Library.PyNumber

/-! ## Floats -/

/--
A finite binary64 value: a sign, at most 53 bits and a power of two.  The
leading bit is set unless the exponent is the smallest one, so that every
value has one form; the two zeros differ in their sign.
-/
structure FiniteFloat where
  negative : Bool
  mantissa : Nat
  exponent : Int
  normal :
    mantissa < 2 ^ 53 ∧ -1074 ≤ exponent ∧ exponent ≤ 971 ∧
      (2 ^ 52 ≤ mantissa ∨ exponent = -1074)
deriving DecidableEq

/-- The value of a finite float. -/
def FiniteFloat.value (float : FiniteFloat) : ℚ :=
  (if float.negative then -1 else 1) * float.mantissa * 2 ^ float.exponent

/-- A Python `float`. -/
inductive PyFloat where
  | finite (value : FiniteFloat)
  | infinite (negative : Bool)
  | nan
deriving DecidableEq

/-- `math.isfinite`. -/
def PyFloat.isFinite : PyFloat → Bool
  | finite _ => true
  | _ => false

/-- The float with these parts, if there is one. -/
def PyFloat.ofParts (negative : Bool) (mantissa : Nat) (exponent : Int) :
    Option PyFloat :=
  if normal :
      mantissa < 2 ^ 53 ∧ -1074 ≤ exponent ∧ exponent ≤ 971 ∧
        (2 ^ 52 ≤ mantissa ∨ exponent = -1074) then
    some (.finite ⟨negative, mantissa, exponent, normal⟩)
  else
    none

/-- A number divided by `2 ^ shift`, rounded to nearest, ties to even. -/
def roundedShift (value shift : Nat) : Nat :=
  let quotient := value / 2 ^ shift
  let rest := value % 2 ^ shift
  if 2 ^ shift < 2 * rest ∨ 2 * rest = 2 ^ shift ∧ quotient % 2 = 1 then
    quotient + 1
  else
    quotient

/-- `float(value)`, absent where it raises `OverflowError`. -/
def PyFloat.ofInt (value : Int) : Option PyFloat :=
  let magnitude := value.natAbs
  let negative := decide (value < 0)
  let bits := magnitude.log2 + 1
  if magnitude = 0 then
    ofParts false 0 (-1074)
  else if bits ≤ 53 then
    ofParts negative (magnitude * 2 ^ (53 - bits)) (bits - 53 : Int)
  else
    let mantissa := roundedShift magnitude (bits - 53)
    if mantissa = 2 ^ 53 then
      ofParts negative (2 ^ 52) (bits - 52 : Int)
    else
      ofParts negative mantissa (bits - 53 : Int)

/-- A quotient rounded to nearest, ties to even. -/
def roundedQuotient (numerator denominator : Nat) : Nat :=
  let quotient := numerator / denominator
  let rest := numerator % denominator
  if denominator < 2 * rest ∨
      2 * rest = denominator ∧ quotient % 2 = 1 then
    quotient + 1
  else
    quotient

/-- Bits enough to tell the leading bit of any quotient that is not tiny. -/
@[irreducible] def guardBits : Nat := 1100

/-- The exponent of the float nearest to a quotient. -/
def quotientExponent (numerator denominator : Nat) : Int :=
  max
    (((numerator * 2 ^ guardBits / denominator).log2 : Int) -
      (guardBits + 52))
    (-1074)

/--
`numerator / denominator` for integers, the denominator positive; absent where
it raises `OverflowError`.
-/
def PyFloat.ofRatio (numerator : Int) (denominator : Nat) :
    Option PyFloat :=
  let magnitude := numerator.natAbs
  let negative := decide (numerator < 0)
  let exponent := quotientExponent magnitude denominator
  let mantissa :=
    roundedQuotient (magnitude * 2 ^ (-exponent).toNat)
      (denominator * 2 ^ exponent.toNat)
  if magnitude = 0 then
    ofParts false 0 (-1074)
  else if mantissa = 2 ^ 53 then
    ofParts negative (2 ^ 52) (exponent + 1)
  else
    ofParts negative mantissa exponent

example : PyFloat.ofInt 1 = PyFloat.ofParts false (2 ^ 52) (-52) := by
  decide

example : PyFloat.ofInt (2 ^ 53 + 1) = PyFloat.ofInt (2 ^ 53) := by
  decide

example :
    PyFloat.ofInt (10 ^ 308) ≠ none ∧ PyFloat.ofInt (10 ^ 309) = none := by
  decide +kernel

example :
    PyFloat.ofRatio 1 3 = PyFloat.ofParts false 6004799503160661 (-54) := by
  decide +kernel

/-! ## Comparisons -/

/-- A number as it takes part in a comparison, absent for `nan`. -/
abbrev Comparable := Option (WithBot (WithTop ℚ))

/-- A float in a comparison. -/
def PyFloat.comparable : PyFloat → Comparable
  | finite value => some ((value.value : WithTop ℚ) : WithBot (WithTop ℚ))
  | infinite true => some ⊥
  | infinite false => some ((⊤ : WithTop ℚ) : WithBot (WithTop ℚ))
  | nan => none

/-- An integer in a comparison. -/
def comparableInt (value : Int) : Comparable :=
  some (((value : ℚ) : WithTop ℚ) : WithBot (WithTop ℚ))

/-- `left < right`. -/
def pyLt : Comparable → Comparable → Bool
  | some left, some right => decide (left < right)
  | _, _ => false

/-- `left <= right`. -/
def pyLe : Comparable → Comparable → Bool
  | some left, some right => decide (left ≤ right)
  | _, _ => false

/-- `left == right`. -/
def pyEqual : Comparable → Comparable → Bool
  | some left, some right => decide (left = right)
  | _, _ => false

/-! ## Quotients -/

theorem roundedQuotient_le
    {numerator denominator bound : Nat} (positive : 0 < denominator)
    (below : numerator ≤ bound * denominator) :
    roundedQuotient numerator denominator ≤ bound := by
  have split := Nat.div_add_mod numerator denominator
  have quotient : numerator / denominator ≤ bound :=
    Nat.div_le_of_le_mul (by rw [Nat.mul_comm]; exact below)
  unfold roundedQuotient
  simp only
  split_ifs with up
  · have rest : 0 < numerator % denominator := by omega
    rcases Nat.lt_or_ge (numerator / denominator) bound with less | more
    · omega
    · have equal : numerator / denominator = bound :=
        le_antisymm quotient more
      rw [equal, Nat.mul_comm] at split
      omega
  · exact quotient

theorem le_roundedQuotient
    {numerator denominator bound : Nat} (positive : 0 < denominator)
    (above : bound * denominator ≤ numerator) :
    bound ≤ roundedQuotient numerator denominator := by
  have quotient : bound ≤ numerator / denominator :=
    (Nat.le_div_iff_mul_le positive).2 above
  unfold roundedQuotient
  simp only
  split_ifs <;> omega

theorem value_of_positive
    {mantissa : Nat} {exponent : Int}
    (normal :
      mantissa < 2 ^ 53 ∧ -1074 ≤ exponent ∧ exponent ≤ 971 ∧
        (2 ^ 52 ≤ mantissa ∨ exponent = -1074)) :
    FiniteFloat.value ⟨false, mantissa, exponent, normal⟩ =
      mantissa * 2 ^ exponent := by
  simp [FiniteFloat.value]

theorem ofParts_of_normal
    {mantissa : Nat} {exponent : Int} (negative : Bool)
    (normal :
      mantissa < 2 ^ 53 ∧ -1074 ≤ exponent ∧ exponent ≤ 971 ∧
        (2 ^ 52 ≤ mantissa ∨ exponent = -1074)) :
    PyFloat.ofParts negative mantissa exponent =
      some (.finite ⟨negative, mantissa, exponent, normal⟩) := by
  unfold PyFloat.ofParts
  rw [dif_pos normal]

theorem ofRatio_natCast
    {numerator denominator shift : Nat} (nonzero : numerator ≠ 0)
    (exponent :
      quotientExponent numerator denominator = -(shift : Int)) :
    PyFloat.ofRatio numerator denominator =
      if roundedQuotient (numerator * 2 ^ shift) denominator = 2 ^ 53 then
        PyFloat.ofParts false (2 ^ 52) (-(shift : Int) + 1)
      else
        PyFloat.ofParts false
          (roundedQuotient (numerator * 2 ^ shift) denominator)
          (-(shift : Int)) := by
  have signless : decide ((numerator : Int) < 0) = false :=
    decide_eq_false (by omega)
  have whole : (-(shift : Int)).toNat = 0 := by omega
  unfold PyFloat.ofRatio
  simp only [Int.natAbs_natCast, exponent, neg_neg, Int.toNat_natCast,
    signless, whole, pow_zero, Nat.mul_one, if_neg nonzero]

/-- The mantissa of a quotient, at the place of its leading bit. -/
theorem mantissa_window
    {numerator denominator bits shift : Nat} (positive : 0 < denominator)
    (nonzero : numerator * 2 ^ guardBits / denominator ≠ 0)
    (bitsEq : (numerator * 2 ^ guardBits / denominator).log2 = bits)
    (shiftEq : bits + shift = guardBits + 52) :
    2 ^ 52 ≤ roundedQuotient (numerator * 2 ^ shift) denominator ∧
      roundedQuotient (numerator * 2 ^ shift) denominator ≤ 2 ^ 53 := by
  have lower : 2 ^ bits * denominator ≤ numerator * 2 ^ guardBits := by
    rw [← Nat.le_div_iff_mul_le positive, ← bitsEq]
    exact Nat.log2_self_le nonzero
  have upper :
      numerator * 2 ^ guardBits < 2 ^ (bits + 1) * denominator := by
    rw [← Nat.div_lt_iff_lt_mul positive, ← bitsEq]
    exact Nat.lt_log2_self
  have carry :
      numerator * 2 ^ guardBits * (2 ^ 52 * 2 ^ shift) =
        numerator * 2 ^ shift * 2 ^ (bits + shift) := by
    rw [shiftEq, pow_add]
    ac_rfl
  have least : 2 ^ 52 * denominator ≤ numerator * 2 ^ shift := by
    have scaled := Nat.mul_le_mul_right (2 ^ 52 * 2 ^ shift) lower
    have left :
        2 ^ bits * denominator * (2 ^ 52 * 2 ^ shift) =
          2 ^ 52 * denominator * 2 ^ (bits + shift) := by
      rw [pow_add]
      ac_rfl
    rw [left, carry] at scaled
    exact Nat.le_of_mul_le_mul_right scaled (Nat.two_pow_pos _)
  have greatest : numerator * 2 ^ shift ≤ 2 ^ 53 * denominator := by
    have scaled := Nat.mul_le_mul_right (2 ^ 52 * 2 ^ shift) upper.le
    have left :
        2 ^ (bits + 1) * denominator * (2 ^ 52 * 2 ^ shift) =
          2 ^ 53 * denominator * 2 ^ (bits + shift) := by
      rw [pow_add, pow_add, pow_one, pow_succ 2 52]
      ac_rfl
    rw [left, carry] at scaled
    exact Nat.le_of_mul_le_mul_right scaled (Nat.two_pow_pos _)
  exact
    ⟨le_roundedQuotient positive least, roundedQuotient_le positive greatest⟩

/-- A quotient below an integer is not rounded above it. -/
theorem ofRatio_le
    {numerator denominator bound : Nat} (positive : 0 < denominator)
    (small : denominator ≤ 2 ^ 1000)
    (range : numerator < 2 ^ 53 * denominator)
    (below : numerator ≤ bound * denominator) :
    ∃ float : FiniteFloat,
      PyFloat.ofRatio numerator denominator = some (.finite float) ∧
        0 ≤ float.value ∧ float.value ≤ bound := by
  by_cases zero : numerator = 0
  · refine ⟨⟨false, 0, -1074, by decide⟩, ?_, ?_, ?_⟩
    · subst zero
      rfl
    · simp [FiniteFloat.value]
    · simp [FiniteFloat.value]
  have guards : guardBits = 100 + 1000 := by
    unfold guardBits
    rfl
  obtain ⟨bits, bitsEq⟩ :
      ∃ bits, (numerator * 2 ^ guardBits / denominator).log2 = bits :=
    ⟨_, rfl⟩
  have enough : 2 ^ 100 ≤ numerator * 2 ^ guardBits / denominator := by
    rw [Nat.le_div_iff_mul_le positive]
    calc
      2 ^ 100 * denominator ≤ 2 ^ 100 * 2 ^ 1000 :=
        Nat.mul_le_mul_left _ small
      _ = 1 * 2 ^ guardBits := by rw [Nat.one_mul, ← pow_add, guards]
      _ ≤ numerator * 2 ^ guardBits :=
        Nat.mul_le_mul_right _ (Nat.one_le_iff_ne_zero.2 zero)
  have nonzero : numerator * 2 ^ guardBits / denominator ≠ 0 :=
    ((Nat.two_pow_pos 100).trans_le enough).ne'
  have most :
      numerator * 2 ^ guardBits / denominator < 2 ^ (53 + guardBits) := by
    rw [Nat.div_lt_iff_lt_mul positive]
    calc
      numerator * 2 ^ guardBits < 2 ^ 53 * denominator * 2 ^ guardBits :=
        Nat.mul_lt_mul_of_pos_right range (Nat.two_pow_pos _)
      _ = 2 ^ (53 + guardBits) * denominator := by
        rw [pow_add, Nat.mul_right_comm]
  have bitsLower : 100 ≤ bits := by
    rw [← bitsEq]
    exact (Nat.le_log2 nonzero).2 enough
  have bitsUpper : bits < 53 + guardBits := by
    rw [← bitsEq]
    exact (Nat.log2_lt nonzero).2 most
  obtain ⟨shift, shiftEq⟩ : ∃ shift, bits + shift = guardBits + 52 :=
    ⟨guardBits + 52 - bits, by omega⟩
  have exponent :
      quotientExponent numerator denominator = -(shift : Int) := by
    unfold quotientExponent
    rw [bitsEq]
    omega
  have window :
      -1074 ≤ -(shift : Int) ∧ -1074 ≤ -(shift : Int) + 1 ∧
        -(shift : Int) ≤ 971 ∧ -(shift : Int) + 1 ≤ 971 := by
    clear most enough nonzero below range small
    omega
  obtain ⟨mantissa, mantissaEq⟩ :
      ∃ mantissa,
        roundedQuotient (numerator * 2 ^ shift) denominator = mantissa :=
    ⟨_, rfl⟩
  rcases mantissa_window positive nonzero bitsEq shiftEq with
    ⟨mantissaLower, mantissaUpper⟩
  rw [mantissaEq] at mantissaLower mantissaUpper
  have mantissaBound : mantissa ≤ bound * 2 ^ shift := by
    rw [← mantissaEq]
    apply roundedQuotient_le positive
    calc
      numerator * 2 ^ shift ≤ bound * denominator * 2 ^ shift :=
        Nat.mul_le_mul_right _ below
      _ = bound * 2 ^ shift * denominator := Nat.mul_right_comm _ _ _
  have valueBound :
      (mantissa : ℚ) * 2 ^ (-(shift : Int)) ≤ bound := by
    rw [zpow_neg, zpow_natCast, ← div_eq_mul_inv,
      div_le_iff₀ (pow_pos zero_lt_two _)]
    exact_mod_cast mantissaBound
  rw [ofRatio_natCast zero exponent, mantissaEq]
  split_ifs with carried
  · have normal :
        2 ^ 52 < 2 ^ 53 ∧ -1074 ≤ -(shift : Int) + 1 ∧
          -(shift : Int) + 1 ≤ 971 ∧
            (2 ^ 52 ≤ 2 ^ 52 ∨ -(shift : Int) + 1 = -1074) :=
      ⟨by norm_num, window.2.1, window.2.2.2, Or.inl le_rfl⟩
    have value :
        FiniteFloat.value ⟨false, 2 ^ 52, -(shift : Int) + 1, normal⟩ =
          mantissa * 2 ^ (-(shift : Int)) := by
      rw [value_of_positive, carried, zpow_add₀ (by norm_num)]
      push_cast
      ring
    refine ⟨_, ofParts_of_normal false normal, ?_, ?_⟩
    · rw [value]
      exact mul_nonneg (Nat.cast_nonneg _) (zpow_nonneg zero_le_two _)
    · rw [value]
      exact valueBound
  · have normal :
        mantissa < 2 ^ 53 ∧ -1074 ≤ -(shift : Int) ∧
          -(shift : Int) ≤ 971 ∧
            (2 ^ 52 ≤ mantissa ∨ -(shift : Int) = -1074) :=
      ⟨lt_of_le_of_ne mantissaUpper carried, window.1, window.2.2.1,
        Or.inl mantissaLower⟩
    refine ⟨_, ofParts_of_normal false normal, ?_, ?_⟩
    · rw [value_of_positive]
      exact mul_nonneg (Nat.cast_nonneg _) (zpow_nonneg zero_le_two _)
    · rw [value_of_positive]
      exact valueBound

end KairosDeploy.Library.PyNumber
