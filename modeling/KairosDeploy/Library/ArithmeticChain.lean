import Mathlib

/-!
# Gap-free chains of integers

A chain holds every multiple of a step from a first value on, up to an
exclusive end.  A list is a chain when it has no duplicates, all its values
are congruent, and the distance from its smallest to its largest value is the
one its length allows.  The converse reads these four aggregates off a chain.
-/

namespace KairosDeploy.Library.ArithmeticChain

/-- `count` values from `first` on, `step` apart. -/
def chain (step first : Int) (count : Nat) : List Int :=
  (List.range count).map fun index : Nat => first + (index : Int) * step

section Chain

variable {step first : Int} {count : Nat}

@[simp]
theorem length_chain : (chain step first count).length = count := by
  simp [chain]

theorem chain_nodup (positive : 0 < step) :
    (chain step first count).Nodup := by
  refine List.nodup_range.map ?_
  intro left right equal
  have scaled : (left : Int) * step = right * step :=
    add_left_cancel equal
  exact_mod_cast mul_right_cancel₀ positive.ne' scaled

/-- A chain holds the congruent values of its interval. -/
theorem mem_chain_iff (positive : 0 < step) {value : Int} :
    value ∈ chain step first count ↔
      step ∣ value - first ∧ first ≤ value ∧
        value < first + count * step := by
  simp only [chain, List.mem_map, List.mem_range]
  constructor
  · rintro ⟨index, below, rfl⟩
    have lower : 0 ≤ (index : Int) * step := by positivity
    have upper : (index : Int) * step < count * step :=
      mul_lt_mul_of_pos_right (by exact_mod_cast below) positive
    exact ⟨⟨index, by ring⟩, by omega, by omega⟩
  · rintro ⟨⟨quotient, distance⟩, lower, upper⟩
    have scaledLower : 0 ≤ step * quotient := by omega
    have nonnegative : 0 ≤ quotient :=
      nonneg_of_mul_nonneg_right scaledLower positive
    have scaledUpper : step * quotient < step * count := by
      rw [mul_comm step (count : Int)]
      omega
    have below : quotient < count :=
      lt_of_mul_lt_mul_left scaledUpper positive.le
    refine ⟨quotient.toNat, by omega, ?_⟩
    rw [Int.toNat_of_nonneg nonnegative, mul_comm quotient step]
    omega

theorem chain_min? (positive : 0 < step) (nonempty : count ≠ 0) :
    (chain step first count).min? = some first := by
  have room : (0 : Int) < count * step := by positivity
  rw [List.min?_eq_some_iff]
  refine ⟨(mem_chain_iff positive).2 ⟨by simp, le_rfl, by omega⟩, ?_⟩
  intro value member
  exact ((mem_chain_iff positive).1 member).2.1

theorem chain_max? (positive : 0 < step) (nonempty : count ≠ 0) :
    (chain step first count).max? =
      some (first + ((count : Int) - 1) * step) := by
  have atLeastOne : (1 : Int) ≤ count := by omega
  have room : 0 ≤ ((count : Int) - 1) * step := by nlinarith
  have split : (count : Int) * step = (count - 1) * step + step := by ring
  rw [List.max?_eq_some_iff]
  constructor
  · refine (mem_chain_iff positive).2 ⟨⟨count - 1, by ring⟩, ?_, ?_⟩
    · omega
    · omega
  · intro value member
    rcases (mem_chain_iff positive).1 member with
      ⟨⟨quotient, distance⟩, _, upper⟩
    have scaled : step * quotient < step * count := by
      rw [mul_comm step (count : Int)]
      omega
    have below : quotient ≤ (count : Int) - 1 :=
      Int.le_sub_one_of_lt (lt_of_mul_lt_mul_left scaled positive.le)
    have bounded : step * quotient ≤ step * (count - 1) :=
      mul_le_mul_of_nonneg_left below positive.le
    rw [mul_comm step ((count : Int) - 1)] at bounded
    omega

/--
Distinct congruent values whose range is no longer than their number allows
leave no gap.
-/
theorem perm_chain_of_aggregates
    {values : List Int} {lo hi : Int} (positive : 0 < step)
    (distinct : values.Nodup)
    (congruent : ∀ value ∈ values, step ∣ value - lo)
    (minimum : values.min? = some lo) (maximum : values.max? = some hi)
    (span : hi - lo = ((values.length : Int) - 1) * step) :
    values.Perm (chain step lo values.length) := by
  have included : values ⊆ chain step lo values.length := by
    intro value member
    have lower := (List.min?_eq_some_iff.1 minimum).2 value member
    have upper := (List.max?_eq_some_iff.1 maximum).2 value member
    have split :
        (values.length : Int) * step =
          ((values.length : Int) - 1) * step + step := by
      ring
    exact
      (mem_chain_iff positive).2
        ⟨congruent value member, lower, by omega⟩
  refine
    (List.subperm_of_subset distinct included).perm_of_length_le ?_
  rw [length_chain]

/-- The end of a chain beyond one of its values, or beyond its start. -/
theorem filter_chain_perm
    (positive : 0 < step) {cut : Int} {rest : Nat}
    (congruent : step ∣ cut - first) (started : first ≤ cut + step)
    (ending : first + count * step = cut + step + rest * step) :
    ((chain step first count).filter fun value => cut < value).Perm
      (chain step (cut + step) rest) := by
  refine
    (List.perm_ext_iff_of_nodup ((chain_nodup positive).filter _)
      (chain_nodup positive)).2 ?_
  intro value
  rw [List.mem_filter, decide_eq_true_eq, mem_chain_iff positive,
    mem_chain_iff positive]
  have shifted : step ∣ value - (cut + step) ↔ step ∣ value - first := by
    have rewritten :
        value - first = value - (cut + step) + ((cut - first) + step) := by
      ring
    rw [rewritten]
    exact
      (Int.dvd_add_left (dvd_add congruent (dvd_refl step))).symm
  constructor
  · rintro ⟨⟨divides, lower, upper⟩, beyond⟩
    refine ⟨shifted.2 divides, ?_, by omega⟩
    rcases shifted.2 divides with ⟨quotient, distance⟩
    have scaled : step * (-1) < step * quotient := by omega
    have above : -1 < quotient := lt_of_mul_lt_mul_left scaled positive.le
    have nonnegative : 0 ≤ step * quotient :=
      mul_nonneg positive.le (by omega)
    omega
  · rintro ⟨divides, lower, upper⟩
    exact ⟨⟨shifted.1 divides, by omega, by omega⟩, by omega⟩

end Chain

end KairosDeploy.Library.ArithmeticChain
