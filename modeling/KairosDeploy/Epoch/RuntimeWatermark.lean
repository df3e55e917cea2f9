import KairosDeploy.Library.Refusal
import KairosDeploy.Epoch.Contract

/-!
# Bounded serving rounds

`required_bars` and `bounded_runtime_end` of the epoch worker, and the
invariant that keeps the serving loop restartable.  A round may leave the
five symbols at five different minutes, because any symbol may fail or be
cancelled on its own.  What survives every such outcome is that the bars
missing up to the newest watermark fit into one batch.
-/

namespace KairosDeploy.Epoch.RuntimeWatermark

open KairosDeploy.Library.Refusal
open KairosDeploy.Epoch.Contract

/-! ## The two functions of the worker -/

/-- `close_time_ms + 1` of every anchor. -/
def watermarks (values : Dict ClosedBarEvent) : List Int :=
  (dictValues values).map ClosedBarEvent.watermark

/-- `required_bars`: the bars all five symbols lack before `endExclusive`. -/
def requiredBars (values : Dict ClosedBarEvent) (endExclusive : Int) :
    Except EpochError Int :=
  let intervals :=
    (dictValues values).map fun event =>
      endExclusive - event.closeTimeMs - 1
  if ¬ FiveSymbols values ∨
      ∃ interval ∈ intervals, interval < 0 ∨ interval % minute ≠ 0 then
    .error ⟨"FIXED_CATCHUP_INTERVAL_REQUIRED"⟩
  else
    .ok (intervals.map (· / minute)).sum

/--
`max(e.close_time_ms + 1 for e in values.values())`.  The worker evaluates it
only after the key check, when the dictionary is not empty.
-/
def latestWatermark (values : Dict ClosedBarEvent) : Int :=
  (watermarks values).max?.getD 0

/-- `bounded_runtime_end`: the end of the next batch of at most 100 bars. -/
def boundedRuntimeEnd (values : Dict ClosedBarEvent) (target : Int) :
    Except EpochError Int := do
  refuseIf (¬ FiveSymbols values ∨ target % minute ≠ 0)
    ⟨"FIXED_CATCHUP_INTERVAL_REQUIRED"⟩
  let latest := latestWatermark values
  refuseIf (latest > target) ⟨"FINALITY_CLOCK_REGRESSION"⟩
  let baseline ← requiredBars values latest
  refuseIf (baseline > maxPending)
    ⟨"RUNTIME_WATERMARK_SKEW_EXCEEDS_PENDING_CAP"⟩
  let capacityMinutes := (maxPending - baseline) / symbols.length
  let endExclusive := min target (latest + capacityMinutes * minute)
  let required ← requiredBars values endExclusive
  refuseIf (required > maxPending) ⟨"EPOCH_INTERVAL_EXCEEDS_FIXED_CAP"⟩
  return endExclusive

/-! ## Sums of missing bars -/

/-- The bars missing before `endExclusive`, summed over a list of watermarks. -/
def missingBars (marks : List Int) (endExclusive : Int) : Int :=
  (marks.map fun mark => (endExclusive - mark) / minute).sum

/--
The skew of a watermark vector: the sum over the symbols of the distance, in
bars, from the newest watermark to the symbol's own.
-/
def skewBars (values : Dict ClosedBarEvent) : Int :=
  missingBars (watermarks values) (latestWatermark values)

/-- The watermark of one symbol. -/
def watermarkAt (values : Dict ClosedBarEvent) (symbol : String) : Int :=
  ((values.lookup symbol).map ClosedBarEvent.watermark).getD 0

theorem watermarkAt_of_lookup
    {values : Dict ClosedBarEvent} {symbol : String}
    {event : ClosedBarEvent}
    (found : values.lookup symbol = some event) :
    watermarkAt values symbol = event.watermark := by
  simp [watermarkAt, found]

/-- The watermarks of a five-symbol map, up to order, follow `SYMBOLS`. -/
theorem watermarks_perm
    {values : Dict ClosedBarEvent} (five : FiveSymbols values) :
    (watermarks values).Perm (symbols.map (watermarkAt values)) := by
  have mapped :=
    five.dictValues_perm.map ClosedBarEvent.watermark
  have aligned :
      (symbols.filterMap values.lookup).map ClosedBarEvent.watermark =
        symbols.map (watermarkAt values) := by
    rw [List.map_filterMap, ← List.filterMap_eq_map]
    apply List.filterMap_congr
    intro symbol member
    rcases five.lookup member with ⟨event, found⟩
    simp [watermarkAt, found]
  rw [aligned] at mapped
  exact mapped

theorem mem_watermarks_iff
    {values : Dict ClosedBarEvent} (five : FiveSymbols values)
    (mark : Int) :
    mark ∈ watermarks values ↔
      ∃ symbol ∈ symbols, watermarkAt values symbol = mark := by
  rw [(watermarks_perm five).mem_iff, List.mem_map]

theorem length_watermarks
    {values : Dict ClosedBarEvent} (five : FiveSymbols values) :
    (watermarks values).length = symbols.length := by
  rw [(watermarks_perm five).length_eq, List.length_map]

theorem missingBars_watermarks
    {values : Dict ClosedBarEvent} (five : FiveSymbols values)
    (endExclusive : Int) :
    missingBars (watermarks values) endExclusive =
      (symbols.map fun symbol =>
        (endExclusive - watermarkAt values symbol) / minute).sum := by
  unfold missingBars
  have mapped :=
    (watermarks_perm five).map fun mark => (endExclusive - mark) / minute
  rw [mapped.sum_eq, List.map_map]
  rfl

/-- The newest watermark belongs to a symbol and bounds all others. -/
theorem latestWatermark_spec
    {values : Dict ClosedBarEvent} (five : FiveSymbols values) :
    latestWatermark values ∈ watermarks values ∧
      ∀ mark ∈ watermarks values, mark ≤ latestWatermark values := by
  have nonempty : watermarks values ≠ [] := by
    intro empty
    have length := length_watermarks five
    rw [empty] at length
    simp [symbols] at length
  rcases found : (watermarks values).max? with _ | newest
  · exact absurd (List.max?_eq_none_iff.1 found) nonempty
  · have latestEq : latestWatermark values = newest := by
      simp [latestWatermark, found]
    rw [latestEq]
    exact List.max?_eq_some_iff.1 found

/-- Moving the end by whole minutes adds the same number of bars per symbol. -/
theorem missingBars_shift
    (marks : List Int) (earlier later : Int)
    (marksAligned : ∀ mark ∈ marks, minute ∣ earlier - mark) :
    missingBars marks later =
      missingBars marks earlier +
        marks.length * ((later - earlier) / minute) := by
  induction marks with
  | nil => simp [missingBars]
  | cons mark rest induction =>
      have restEq :=
        induction fun other member =>
          marksAligned other (List.mem_cons_of_mem mark member)
      have headEq :
          (later - mark) / minute =
            (earlier - mark) / minute + (later - earlier) / minute := by
        have headAligned : minute ∣ earlier - mark :=
          marksAligned mark List.mem_cons_self
        rw [← Int.add_ediv_of_dvd_left headAligned]
        congr 1
        ring
      simp only [missingBars, List.map_cons, List.sum_cons,
        List.length_cons] at restEq ⊢
      rw [restEq, headEq]
      push_cast
      ring

/-! ## Specifications -/

/-- `required_bars` returns exactly on reachable, minute-aligned ends. -/
theorem requiredBars_eq_ok_iff
    (values : Dict ClosedBarEvent) (endExclusive bars : Int) :
    requiredBars values endExclusive = .ok bars ↔
      FiveSymbols values ∧
        (∀ mark ∈ watermarks values,
          mark ≤ endExclusive ∧ minute ∣ endExclusive - mark) ∧
        bars = missingBars (watermarks values) endExclusive := by
  have intervalEq (event : ClosedBarEvent) :
      endExclusive - event.closeTimeMs - 1 =
        endExclusive - event.watermark := by
    simp only [ClosedBarEvent.watermark]
    omega
  have intervalsOk :
      (¬ ∃ interval ∈
          (dictValues values).map fun event =>
            endExclusive - event.closeTimeMs - 1,
          interval < 0 ∨ interval % minute ≠ 0) ↔
        ∀ mark ∈ watermarks values,
          mark ≤ endExclusive ∧ minute ∣ endExclusive - mark := by
    simp only [watermarks, List.mem_map, intervalEq, not_exists, not_and,
      not_or, not_lt, ne_eq, not_not, forall_exists_index, and_imp,
      forall_apply_eq_imp_iff₂, sub_nonneg, Int.dvd_iff_emod_eq_zero]
  have sumEq :
      (((dictValues values).map fun event =>
          endExclusive - event.closeTimeMs - 1).map (· / minute)).sum =
        missingBars (watermarks values) endExclusive := by
    simp only [missingBars, watermarks, List.map_map, Function.comp_def,
      intervalEq]
  unfold requiredBars
  simp only [sumEq]
  split_ifs with refused
  · constructor
    · intro impossible
      cases impossible
    · rintro ⟨five, intervals, _⟩
      rcases refused with notFive | badInterval
      · exact absurd five notFive
      · exact absurd badInterval (intervalsOk.2 intervals)
  · rw [not_or, not_not, intervalsOk] at refused
    constructor
    · intro equal
      cases equal
      exact ⟨refused.1, refused.2, rfl⟩
    · rintro ⟨_, _, rfl⟩
      rfl

/-- Every watermark is a whole number of minutes. -/
def MinuteAligned (values : Dict ClosedBarEvent) : Prop :=
  ∀ symbol ∈ symbols, minute ∣ watermarkAt values symbol

instance (values : Dict ClosedBarEvent) : Decidable (MinuteAligned values) :=
  inferInstanceAs (Decidable (∀ symbol ∈ symbols, _))

theorem MinuteAligned.mem_watermarks
    {values : Dict ClosedBarEvent}
    (five : FiveSymbols values) (aligned : MinuteAligned values)
    {mark : Int} (member : mark ∈ watermarks values) :
    minute ∣ mark := by
  rcases (mem_watermarks_iff five mark).1 member with
    ⟨symbol, symbolMember, rfl⟩
  exact aligned symbol symbolMember

/-- Any aligned end at or after the newest watermark is executable. -/
theorem requiredBars_of_latest_le
    {values : Dict ClosedBarEvent} {endExclusive : Int}
    (five : FiveSymbols values) (aligned : MinuteAligned values)
    (endAligned : minute ∣ endExclusive)
    (reached : latestWatermark values ≤ endExclusive) :
    requiredBars values endExclusive =
      .ok (missingBars (watermarks values) endExclusive) := by
  rw [requiredBars_eq_ok_iff]
  refine ⟨five, ?_, rfl⟩
  intro mark member
  exact
    ⟨((latestWatermark_spec five).2 mark member).trans reached,
      dvd_sub endAligned (aligned.mem_watermarks five member)⟩

/--
Whenever the skew fits the pending cap, the worker finds an end between the
newest watermark and the target whose bars fit the cap.
-/
theorem boundedRuntimeEnd_succeeds
    {values : Dict ClosedBarEvent} {target : Int}
    (five : FiveSymbols values) (aligned : MinuteAligned values)
    (targetAligned : minute ∣ target)
    (notRegressed : latestWatermark values ≤ target)
    (skewBounded : skewBars values ≤ maxPending) :
    ∃ endExclusive,
      boundedRuntimeEnd values target = .ok endExclusive ∧
        latestWatermark values ≤ endExclusive ∧
        endExclusive ≤ target ∧
        minute ∣ endExclusive ∧
        requiredBars values endExclusive =
          .ok (missingBars (watermarks values) endExclusive) ∧
        missingBars (watermarks values) endExclusive ≤ maxPending := by
  have latestAligned : minute ∣ latestWatermark values :=
    aligned.mem_watermarks five (latestWatermark_spec five).1
  have baselineEq :
      requiredBars values (latestWatermark values) = .ok (skewBars values) :=
    requiredBars_of_latest_le five aligned latestAligned le_rfl
  let capacity : Int := ((maxPending : Int) - skewBars values) / symbols.length
  let endExclusive : Int :=
    min target (latestWatermark values + capacity * minute)
  have capacityNonneg : 0 ≤ capacity := by
    apply Int.ediv_nonneg
    · omega
    · simp [symbols]
  have endReached : latestWatermark values ≤ endExclusive := by
    have minuteNonneg : (0 : Int) ≤ minute := by decide
    have advance := Int.mul_nonneg capacityNonneg minuteNonneg
    exact le_min notRegressed (by omega)
  have endAligned : minute ∣ endExclusive := by
    rcases min_choice target (latestWatermark values + capacity * minute) with
      chosen | chosen
    · simpa only [endExclusive, chosen] using targetAligned
    · simpa only [endExclusive, chosen] using
        dvd_add latestAligned (dvd_mul_left minute capacity)
  have requiredEq :=
    requiredBars_of_latest_le five aligned endAligned endReached
  have requiredBounded :
      missingBars (watermarks values) endExclusive ≤ maxPending := by
    have shifted :=
      missingBars_shift (watermarks values) (latestWatermark values)
        endExclusive
        (fun mark member =>
          dvd_sub latestAligned (aligned.mem_watermarks five member))
    rw [length_watermarks five] at shifted
    have batch :
        (endExclusive - latestWatermark values) / minute ≤ capacity := by
      have endBound :
          endExclusive ≤ latestWatermark values + capacity * minute :=
        min_le_right _ _
      apply Int.ediv_le_of_le_mul (by decide)
      omega
    have fits :
        (symbols.length : Int) * capacity ≤ maxPending - skewBars values := by
      simp only [capacity, symbols, List.length_cons, List.length_nil]
      omega
    have scaled :
        (symbols.length : Int) *
            ((endExclusive - latestWatermark values) / minute) ≤
          symbols.length * capacity :=
      Int.mul_le_mul_of_nonneg_left batch (by simp [symbols])
    have skewEq :
        missingBars (watermarks values) (latestWatermark values) =
          skewBars values := rfl
    omega
  refine
    ⟨endExclusive, ?_, endReached, min_le_left _ _, endAligned, requiredEq,
      requiredBounded⟩
  have targetOk : target % minute = 0 :=
    Int.emod_eq_zero_of_dvd targetAligned
  simp only [boundedRuntimeEnd, bind_eq_ok_iff, refuseIf_eq_ok_iff,
    exists_const, pure_eq_ok_iff]
  refine
    ⟨?_, not_lt.2 notRegressed, _, baselineEq, not_lt.2 skewBounded, _,
      requiredEq, not_lt.2 requiredBounded, rfl⟩
  rw [not_or, not_not, not_not]
  exact ⟨five, targetOk⟩

/-! ## Serving rounds -/

/--
The anchors that may be read after a round that ran up to `endExclusive`.
Each symbol stopped, on its own, at some minute between its previous watermark
and the end: at the end after success, anywhere before it after a failure, a
cancellation or a restart.
-/
structure RoundOutcome
    (before after : Dict ClosedBarEvent) (endExclusive : Int) : Prop where
  fiveSymbols : FiveSymbols after
  advance :
    ∀ symbol ∈ symbols,
      watermarkAt before symbol ≤ watermarkAt after symbol ∧
        watermarkAt after symbol ≤ endExclusive
  aligned : MinuteAligned after

theorem RoundOutcome.latest_le
    {before after : Dict ClosedBarEvent} {endExclusive : Int}
    (outcome : RoundOutcome before after endExclusive) :
    latestWatermark after ≤ endExclusive := by
  rcases
      (mem_watermarks_iff outcome.fiveSymbols _).1
        (latestWatermark_spec outcome.fiveSymbols).1 with
    ⟨symbol, member, equal⟩
  rw [← equal]
  exact (outcome.advance symbol member).2

/-- The skew after a round is bounded by the bars the round set out to add. -/
theorem RoundOutcome.skewBars_le
    {before after : Dict ClosedBarEvent} {endExclusive : Int}
    (five : FiveSymbols before)
    (outcome : RoundOutcome before after endExclusive) :
    skewBars after ≤ missingBars (watermarks before) endExclusive := by
  unfold skewBars
  rw [missingBars_watermarks outcome.fiveSymbols, missingBars_watermarks five]
  apply List.sum_le_sum
  intro symbol member
  have advanced := outcome.advance symbol member
  have newest := outcome.latest_le
  exact Int.ediv_le_ediv (by decide) (by omega)

/--
What one round needs and leaves behind: five aligned watermarks whose skew
fits the pending cap, none of them beyond the current target.
-/
structure Restartable (values : Dict ClosedBarEvent) (target : Int) :
    Prop where
  fiveSymbols : FiveSymbols values
  aligned : MinuteAligned values
  notRegressed : latestWatermark values ≤ target
  skewBounded : skewBars values ≤ maxPending

/-- One round, however it ends, leaves a restartable watermark vector. -/
theorem Restartable.round
    {before after : Dict ClosedBarEvent} {target nextTarget : Int}
    (restartable : Restartable before target)
    (targetAligned : minute ∣ target)
    (later : target ≤ nextTarget)
    (outcome :
      ∀ endExclusive,
        boundedRuntimeEnd before target = .ok endExclusive →
          RoundOutcome before after endExclusive) :
    Restartable after nextTarget := by
  rcases
      boundedRuntimeEnd_succeeds restartable.fiveSymbols restartable.aligned
        targetAligned restartable.notRegressed restartable.skewBounded with
    ⟨endExclusive, computed, _, endLe, _, _, fits⟩
  have finished := outcome endExclusive computed
  exact
    { fiveSymbols := finished.fiveSymbols
      aligned := finished.aligned
      notRegressed := (finished.latest_le.trans endLe).trans later
      skewBounded :=
        (finished.skewBars_le restartable.fiveSymbols).trans fits }

/--
The watermark invariant of the serving loop.  `values n` are the anchors read
in round `n` and `targets n` is its finality target.  However the five symbols
stop in each round, the skew stays within the pending cap, the next end is
found, and the bars up to it pass the worker's own test.
-/
theorem servingRounds_skewBars_le
    (values : Nat → Dict ClosedBarEvent) (targets : Nat → Int)
    (five : FiveSymbols (values 0))
    (aligned : MinuteAligned (values 0))
    (skewBounded : skewBars (values 0) ≤ maxPending)
    (targetsAligned : ∀ round, minute ∣ targets round)
    (targetsMonotone : Monotone targets)
    (notRegressed : latestWatermark (values 0) ≤ targets 0)
    (outcomes :
      ∀ round endExclusive,
        boundedRuntimeEnd (values round) (targets round) =
            .ok endExclusive →
          RoundOutcome (values round) (values (round + 1)) endExclusive)
    (round : Nat) :
    skewBars (values round) ≤ maxPending ∧
      ∃ endExclusive bars,
        boundedRuntimeEnd (values round) (targets round) =
            .ok endExclusive ∧
          requiredBars (values round) endExclusive = .ok bars ∧
          bars ≤ maxPending := by
  have restartable : Restartable (values round) (targets round) := by
    induction round with
    | zero => exact ⟨five, aligned, notRegressed, skewBounded⟩
    | succ round induction =>
        exact
          induction.round (targetsAligned round)
            (targetsMonotone (Nat.le_succ round)) (outcomes round)
  rcases
      boundedRuntimeEnd_succeeds restartable.fiveSymbols restartable.aligned
        (targetsAligned round) restartable.notRegressed
        restartable.skewBounded with
    ⟨endExclusive, computed, _, _, _, required, fits⟩
  exact
    ⟨restartable.skewBounded, endExclusive, _, computed, required, fits⟩

/-- Anchors whose symbols end at the given watermarks. -/
def anchorsEndingAt (marks : String → Int) : Dict ClosedBarEvent where
  entries :=
    symbols.map fun symbol =>
      ⟨symbol,
        { messageId := symbol
          symbol := symbol
          openTimeMs := marks symbol - minute
          closeTimeMs := marks symbol - 1
          rest := "" }⟩
  nodupKeys := by
    unfold List.NodupKeys List.keys
    rw [List.map_map]
    exact symbols_nodup

theorem watermarkAt_anchorsEndingAt
    (marks : String → Int) {symbol : String} (member : symbol ∈ symbols) :
    watermarkAt (anchorsEndingAt marks) symbol = marks symbol := by
  let event : ClosedBarEvent :=
    { messageId := symbol
      symbol := symbol
      openTimeMs := marks symbol - minute
      closeTimeMs := marks symbol - 1
      rest := "" }
  have found : (anchorsEndingAt marks).lookup symbol = some event :=
    AList.mem_lookup_iff.2 (List.mem_map.2 ⟨symbol, member, rfl⟩)
  rw [watermarkAt_of_lookup found]
  exact sub_add_cancel _ _

/--
A run in which four symbols are 25 minutes ahead, the first round brings the
fifth forward by seven minutes only, and no later round makes progress.
-/
theorem servingRounds_skewBars_le_partialFailure :
    skewBars (anchorsEndingAt fun symbol =>
        if symbol = "BTCUSDT" then 7 * minute else 25 * minute) ≤
      maxPending := by
  let started : Dict ClosedBarEvent :=
    anchorsEndingAt fun symbol =>
      if symbol = "BTCUSDT" then 0 else 25 * minute
  let stalled : Dict ClosedBarEvent :=
    anchorsEndingAt fun symbol =>
      if symbol = "BTCUSDT" then 7 * minute else 25 * minute
  have firstEnd :
      boundedRuntimeEnd started (1000 * minute) = .ok (40 * minute) := by
    rfl
  have laterEnd :
      boundedRuntimeEnd stalled (1000 * minute) = .ok (41 * minute) := by
    rfl
  have firstOutcome : RoundOutcome started stalled (40 * minute) :=
    ⟨by decide, by decide, by decide⟩
  have laterOutcome : RoundOutcome stalled stalled (41 * minute) :=
    ⟨by decide, by decide, by decide⟩
  refine
    (servingRounds_skewBars_le
      (fun round => Nat.casesOn round started fun _ => stalled)
      (fun _ => 1000 * minute)
      (by decide) (by decide) (by decide) (fun _ => by decide)
      (fun _ _ _ => le_rfl) (by decide) ?_ 1).1
  intro round endExclusive computed
  rcases round with _ | round
  · have endEq := Except.ok.inj (firstEnd.symm.trans computed)
    subst endExclusive
    exact firstOutcome
  · have endEq := Except.ok.inj (laterEnd.symm.trans computed)
    subst endExclusive
    exact laterOutcome

end KairosDeploy.Epoch.RuntimeWatermark
