import KairosDeploy.Epoch.RuntimeWatermark

/-!
# The next batch is as large as it can be

`bounded_runtime_end` returns the largest end that `required_bars` admits
below the pending cap, so that rounds that succeed reach a fixed target.
-/

namespace KairosDeploy.Epoch.LargestBatch

open KairosDeploy.Library.Refusal
open KairosDeploy.Epoch.Contract
open KairosDeploy.Epoch.RuntimeWatermark

variable {values : Dict ClosedBarEvent} {target endExclusive : Int}

/-! ## What the function returns -/

/-- The minutes that fit into a batch after the skew is made up. -/
def capacityMinutes (values : Dict ClosedBarEvent) : Int :=
  (maxPending - skewBars values) / symbols.length

/-- The two cases in which `bounded_runtime_end` returns, and its value. -/
structure Returned (values : Dict ClosedBarEvent) (target endExclusive : Int) :
    Prop where
  fiveSymbols : FiveSymbols values
  targetAligned : minute ∣ target
  notRegressed : latestWatermark values ≤ target
  skewBounded : skewBars values ≤ maxPending
  value :
    endExclusive =
      min target (latestWatermark values + capacityMinutes values * minute)
  fits : ∃ bars, requiredBars values endExclusive = .ok bars ∧
    bars ≤ maxPending

theorem returned_of_boundedRuntimeEnd
    (computed : boundedRuntimeEnd values target = .ok endExclusive) :
    Returned values target endExclusive := by
  simp only [boundedRuntimeEnd, bind_eq_ok_iff, refuseIf_eq_ok_iff,
    exists_const, pure_eq_ok_iff, not_or, not_not, not_lt] at computed
  rcases computed with
    ⟨⟨five, aligned⟩, reached, baseline, counted, bounded, bars, required,
      fits, rfl⟩
  have skew := ((requiredBars_eq_ok_iff _ _ _).1 counted).2.2
  subst skew
  exact
    ⟨five, Int.dvd_of_emod_eq_zero aligned, reached, bounded, rfl, bars,
      required, fits⟩

theorem latestWatermark_aligned (five : FiveSymbols values)
    (aligned : MinuteAligned values) : minute ∣ latestWatermark values :=
  aligned.mem_watermarks five (latestWatermark_spec five).1

/-- The bars before an end are the skew and five for each further minute. -/
theorem missingBars_eq_skewBars_add (five : FiveSymbols values)
    (aligned : MinuteAligned values) (endExclusive : Int) :
    missingBars (watermarks values) endExclusive =
      skewBars values +
        5 * ((endExclusive - latestWatermark values) / minute) := by
  have shifted :=
    missingBars_shift (watermarks values) (latestWatermark values)
      endExclusive fun mark member =>
        dvd_sub (latestWatermark_aligned five aligned)
          (aligned.mem_watermarks five member)
  rw [length_watermarks five] at shifted
  exact shifted

theorem bars_nonneg (five : FiveSymbols values) :
    ∀ bars ∈ (watermarks values).map fun mark =>
        (latestWatermark values - mark) / minute,
      0 ≤ bars := by
  intro bars listed
  rcases List.mem_map.1 listed with ⟨mark, member, rfl⟩
  have below := (latestWatermark_spec five).2 mark member
  exact Int.ediv_nonneg (by omega) (by decide)

theorem skewBars_nonneg (five : FiveSymbols values) : 0 ≤ skewBars values :=
  List.sum_nonneg (bars_nonneg five)

/-- Without skew, every symbol stands at the newest watermark. -/
theorem eq_latest_of_skewBars (five : FiveSymbols values)
    (aligned : MinuteAligned values) (noSkew : skewBars values ≤ 0)
    {mark : Int} (member : mark ∈ watermarks values) :
    mark = latestWatermark values := by
  have below := (latestWatermark_spec five).2 mark member
  have single :
      (latestWatermark values - mark) / minute ≤ skewBars values :=
    List.single_le_sum (bars_nonneg five) _ (List.mem_map_of_mem member)
  have divides : minute ∣ latestWatermark values - mark :=
    dvd_sub (latestWatermark_aligned five aligned)
      (aligned.mem_watermarks five member)
  rcases divides with ⟨bars, distance⟩
  rw [distance, Int.mul_ediv_cancel_left _ (by decide)] at single
  have length : minute = 60000 := rfl
  rw [length] at distance
  omega

/-! ## The largest end -/

/-- Beyond the returned end, the bars exceed the cap. -/
theorem Returned.exceeds
    (returned : Returned values target endExclusive)
    (aligned : MinuteAligned values) {later : Int}
    (laterAligned : minute ∣ later) (beyond : endExclusive < later)
    (withinTarget : later ≤ target) :
    ∃ bars, requiredBars values later = .ok bars ∧ maxPending < bars := by
  have five := returned.fiveSymbols
  have capped :
      latestWatermark values + capacityMinutes values * minute < later := by
    have value := returned.value
    rcases min_choice target
        (latestWatermark values + capacityMinutes values * minute) with
      chosen | chosen <;> omega
  have capacityNonneg : 0 ≤ capacityMinutes values :=
    Int.ediv_nonneg (by have := returned.skewBounded; omega) (by decide)
  have reached : latestWatermark values ≤ later := by
    have advance := Int.mul_nonneg capacityNonneg (by decide : 0 ≤ minute)
    omega
  refine
    ⟨_, requiredBars_of_latest_le five aligned laterAligned reached, ?_⟩
  rw [missingBars_eq_skewBars_add five aligned]
  rcases dvd_sub laterAligned (latestWatermark_aligned five aligned) with
    ⟨minutes, distance⟩
  rw [distance, Int.mul_ediv_cancel_left _ (by decide)]
  have more : capacityMinutes values < minutes := by
    have : minute * capacityMinutes values < minute * minutes := by
      rw [← distance, Int.mul_comm]
      omega
    exact lt_of_mul_lt_mul_left this (by decide)
  have fiveMore :
      capacityMinutes values = (maxPending - skewBars values) / 5 := rfl
  omega

/-- The end in minutes after the newest watermark. -/
theorem Returned.value_eq
    (returned : Returned values target endExclusive) {minutes : Int}
    (distance : target - latestWatermark values = minute * minutes) :
    endExclusive =
      latestWatermark values +
        minute * min minutes (capacityMinutes values) := by
  have value := returned.value
  have length : minute = 60000 := rfl
  rw [length] at distance value ⊢
  omega

/-- A batch with a symbol below the target is not empty. -/
theorem Returned.progress
    (returned : Returned values target endExclusive)
    (aligned : MinuteAligned values) {symbol : String}
    (member : symbol ∈ symbols)
    (behind : watermarkAt values symbol < target) :
    0 < missingBars (watermarks values) endExclusive := by
  have five := returned.fiveSymbols
  have nonneg := skewBars_nonneg five
  have bounded := returned.skewBounded
  have capacity :
      capacityMinutes values = (maxPending - skewBars values) / 5 := rfl
  have cap : maxPending = 100 := rfl
  rcases dvd_sub returned.targetAligned
      (latestWatermark_aligned five aligned) with ⟨minutes, distance⟩
  rw [missingBars_eq_skewBars_add five aligned,
    returned.value_eq distance, add_sub_cancel_left,
    Int.mul_ediv_cancel_left _ (by decide)]
  have reached := returned.notRegressed
  have length : minute = 60000 := rfl
  rw [length] at distance
  by_cases noSkew : skewBars values ≤ 0
  · have latest :=
      eq_latest_of_skewBars five aligned noSkew
        ((mem_watermarks_iff five _).2 ⟨symbol, member, rfl⟩)
    omega
  · omega

/-! ## Rounds that succeed -/

/-- Every symbol stands at the same minute. -/
structure CaughtUp (values : Dict ClosedBarEvent) (mark : Int) : Prop where
  fiveSymbols : FiveSymbols values
  marks : ∀ symbol ∈ symbols, watermarkAt values symbol = mark

theorem CaughtUp.latestWatermark_eq {mark : Int}
    (caughtUp : CaughtUp values mark) : latestWatermark values = mark := by
  rcases
      (mem_watermarks_iff caughtUp.fiveSymbols _).1
        (latestWatermark_spec caughtUp.fiveSymbols).1 with
    ⟨symbol, member, equal⟩
  exact equal.symm.trans (caughtUp.marks symbol member)

theorem CaughtUp.skewBars_eq {mark : Int} (caughtUp : CaughtUp values mark) :
    skewBars values = 0 := by
  rw [skewBars, missingBars_watermarks caughtUp.fiveSymbols,
    caughtUp.latestWatermark_eq]
  apply List.sum_eq_zero
  intro bars listed
  rcases List.mem_map.1 listed with ⟨symbol, member, rfl⟩
  rw [caughtUp.marks symbol member, sub_self, Int.zero_ediv]

/-- Rounds in which every symbol reaches the planned end. -/
def Succeeding (rounds : Nat → Dict ClosedBarEvent) (target : Int) : Prop :=
  ∀ round endExclusive,
    boundedRuntimeEnd (rounds round) target = .ok endExclusive →
      CaughtUp (rounds (round + 1)) endExclusive

/-- Twenty minutes of the distance to the target are made up in each round. -/
theorem Succeeding.reaches_of_caughtUp
    {rounds : Nat → Dict ClosedBarEvent}
    (succeeding : Succeeding rounds target)
    (targetAligned : minute ∣ target) (minutes : Nat) :
    ∀ round mark, target - mark = minute * minutes →
      CaughtUp (rounds round) mark →
        ∃ last, CaughtUp (rounds last) target := by
  induction minutes using Nat.strong_induction_on with
  | _ minutes induction =>
      intro round mark distance caughtUp
      have length : minute = 60000 := rfl
      have latest := caughtUp.latestWatermark_eq
      have markAligned : minute ∣ mark := by
        have sub := dvd_sub targetAligned (Dvd.intro _ distance.symm)
        rwa [sub_sub_cancel] at sub
      by_cases there : minutes = 0
      · subst there
        have equal : mark = target := by
          rw [Nat.cast_zero, mul_zero] at distance
          omega
        exact ⟨round, equal ▸ caughtUp⟩
      · have aligned : MinuteAligned (rounds round) := by
          intro symbol member
          rw [caughtUp.marks symbol member]
          exact markAligned
        have reached : latestWatermark (rounds round) ≤ target := by
          rw [length] at distance
          omega
        have skewBounded : skewBars (rounds round) ≤ maxPending := by
          rw [caughtUp.skewBars_eq]
          decide
        rcases
            boundedRuntimeEnd_succeeds caughtUp.fiveSymbols aligned
              targetAligned reached skewBounded with
          ⟨endExclusive, computed, _⟩
        have returned := returned_of_boundedRuntimeEnd computed
        have value :=
          returned.value_eq (latest.symm ▸ distance)
        have capacity : capacityMinutes (rounds round) = 20 := by
          rw [capacityMinutes, caughtUp.skewBars_eq]
          rfl
        rw [capacity, latest] at value
        refine
          induction (minutes - 20) (by omega) (round + 1) endExclusive ?_
            (succeeding round endExclusive computed)
        rw [length] at distance value ⊢
        omega

/-- Rounds that all succeed reach the target. -/
theorem Succeeding.reaches
    {rounds : Nat → Dict ClosedBarEvent}
    (succeeding : Succeeding rounds target)
    (returned : Returned (rounds 0) target endExclusive)
    (computed : boundedRuntimeEnd (rounds 0) target = .ok endExclusive)
    (aligned : MinuteAligned (rounds 0)) :
    ∃ last, CaughtUp (rounds last) target := by
  have five := returned.fiveSymbols
  rcases dvd_sub returned.targetAligned
      (latestWatermark_aligned five aligned) with ⟨minutes, distance⟩
  have value := returned.value_eq distance
  have rest :
      target - endExclusive =
        minute * ((minutes - capacityMinutes (rounds 0)).toNat : Nat) := by
    have length : minute = 60000 := rfl
    rw [length] at distance value ⊢
    omega
  exact
    succeeding.reaches_of_caughtUp returned.targetAligned _ 1 endExclusive
      rest (succeeding 0 endExclusive computed)

/--
`bounded_runtime_end` is the largest admissible end of a batch: it lies
between the newest watermark and the target, its bars fit the pending cap and
are not none while a symbol is behind, and every later end up to the target
exceeds the cap.  Rounds that all succeed therefore reach the target.
-/
theorem boundedRuntimeEnd_largest
    (values : Dict ClosedBarEvent) (target endExclusive : Int)
    (aligned : MinuteAligned values)
    (computed : boundedRuntimeEnd values target = .ok endExclusive) :
    (latestWatermark values ≤ endExclusive ∧
      endExclusive ≤ target ∧
      ∃ bars,
        requiredBars values endExclusive = .ok bars ∧
          bars ≤ maxPending ∧
          ((∃ symbol ∈ symbols, watermarkAt values symbol < target) →
            0 < bars)) ∧
      (∀ later, minute ∣ later → endExclusive < later → later ≤ target →
        ∃ bars,
          requiredBars values later = .ok bars ∧ maxPending < bars) ∧
      ∀ rounds : Nat → Dict ClosedBarEvent,
        rounds 0 = values → Succeeding rounds target →
          ∃ last, CaughtUp (rounds last) target := by
  have returned := returned_of_boundedRuntimeEnd computed
  rcases returned.fits with ⟨bars, required, fits⟩
  have counted := (requiredBars_eq_ok_iff _ _ _).1 required
  have latest := (latestWatermark_spec returned.fiveSymbols).1
  refine
    ⟨⟨(counted.2.1 _ latest).1, ?_, bars, required, fits, ?_⟩, ?_, ?_⟩
  · rw [returned.value]
    exact min_le_left _ _
  · rintro ⟨symbol, member, behind⟩
    rw [counted.2.2]
    exact returned.progress aligned member behind
  · exact fun later laterAligned beyond within =>
      returned.exceeds aligned laterAligned beyond within
  · rintro rounds rfl succeeding
    exact succeeding.reaches returned computed aligned

/-- One symbol is seven minutes behind four others, and a target is a thousand
minutes away. -/
theorem boundedRuntimeEnd_largest_behind :
    ∃ bars,
      requiredBars
          (anchorsEndingAt fun symbol =>
            if symbol = "BTCUSDT" then 0 else 7 * minute)
          (26 * minute) = .ok bars ∧
        maxPending < bars := by
  refine
    (boundedRuntimeEnd_largest _ (1000 * minute) (25 * minute) (by decide)
      rfl).2.1 (26 * minute) (by decide) (by decide) (by decide)

end KairosDeploy.Epoch.LargestBatch
