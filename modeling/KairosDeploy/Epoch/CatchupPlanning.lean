import KairosDeploy.Epoch.RuntimeWatermark

/-!
# Planned catch-up ends

`catchup_end_exclusive_ms` of the controller and `bounded_live_batch_end` of
the R6 recovery worker choose the end of the next batch from recorded anchors.
The worker that executes the batch then tests the end with `required_bars`.

Both planners start from the earliest anchor and count a symbol that is
already past the end as zero bars, whereas `required_bars` refuses such a
symbol.  The exact condition under which a planned end can be executed is a
bound on the spread of the anchors.
-/

namespace KairosDeploy.Epoch.CatchupPlanning

open KairosDeploy.Library.Refusal
open KairosDeploy.Epoch.Contract
open KairosDeploy.Epoch.RuntimeWatermark

/-! ## The planners -/

/-- `Rejected`, the refusal of the controller. -/
structure Rejected where
  reason : String
deriving DecidableEq, Repr

/-- `MAX_CATCHUP_BARS`. -/
def maxCatchupBars : Nat := 150000

/--
The fields of one recorded anchor that the planners read.  A field is absent
when the record lacks it or holds anything but an `int`.
-/
structure SeedAnchor where
  count : Option Int
  lastOpenTimeMs : Option Int
  lastCloseTimeMs : Option Int
deriving DecidableEq, Repr

/--
The `anchors` entry of a seed.  A record that is not a dictionary is `none`.
-/
abbrev SeedAnchors := Dict (Option SeedAnchor)

/-- The bars appended up to an end, where a symbol past the end counts zero. -/
def appendedBars (starts : List Int) (endExclusive : Int) : Int :=
  (starts.map fun start => max 0 ((endExclusive - start) / minute)).sum

/--
The loop that moves an end back until its bars fit.  Every pass that is taken
removes at least one bar, so the bars themselves bound the number of passes.
-/
def shrinkToLimit (starts : List Int) (limit : Int) : Nat → Int → Int
  | 0, proposed => proposed
  | passes + 1, proposed =>
      if appendedBars starts proposed > limit then
        shrinkToLimit starts limit passes (proposed - minute)
      else
        proposed

/-- `min(...)` of the anchors' next open times. -/
def earliestStart (starts : List Int) : Int :=
  starts.min?.getD 0

/-- The end both planners compute before their final check. -/
def plannedEnd (starts : List Int) (target limit : Int) : Int :=
  let proposed :=
    min target (earliestStart starts + limit / symbols.length * minute)
  shrinkToLimit starts limit (appendedBars starts proposed).toNat proposed

/-- The first missing minute of one controller anchor. -/
def seedStart : Option SeedAnchor → Except Rejected Int
  | none => .error ⟨"SEED_ANCHOR_SHAPE_REQUIRED"⟩
  | some record =>
      match record.lastOpenTimeMs, record.lastCloseTimeMs, record.count with
      | some lastOpen, some lastClose, some count =>
          if count < 1 ∨ lastOpen % minute ≠ 0 ∨
              lastClose ≠ lastOpen + minute - 1 then
            .error ⟨"SEED_ANCHOR_FINALITY_REQUIRED"⟩
          else
            .ok (lastClose + 1)
      | _, _, _ => .error ⟨"SEED_ANCHOR_FINALITY_REQUIRED"⟩

/--
`catchup_end_exclusive_ms`.  `seed` is `none` when the seed or its `anchors`
entry is not a dictionary.
-/
def catchupEndExclusiveMs
    (seed : Option SeedAnchors) (target appendLimit : Int) :
    Except Rejected Int := do
  refuseIf (¬ (1 ≤ appendLimit ∧ appendLimit ≤ maxCatchupBars))
    ⟨"FIXED_GLOBAL_CATCHUP_CAP_REQUIRED"⟩
  refuseIf (target ≤ 0 ∨ target % minute ≠ 0)
    ⟨"CLOSED_END_EXCLUSIVE_REQUIRED"⟩
  match seed with
  | none => .error ⟨"EXACT_FIVE_SYMBOL_SEED_ANCHORS_REQUIRED"⟩
  | some anchors =>
      refuseIf (¬ FiveSymbols anchors)
        ⟨"EXACT_FIVE_SYMBOL_SEED_ANCHORS_REQUIRED"⟩
      let starts ← (dictValues anchors).mapM seedStart
      let proposed := plannedEnd starts target appendLimit
      refuseIf (proposed ≤ earliestStart starts)
        ⟨"CATCHUP_MADE_NO_BOUNDED_PROGRESS"⟩
      return proposed

/-- The first missing minute of one R6 anchor. -/
def liveStart : Option SeedAnchor → Except EpochError Int
  | none => .error ⟨"R6_BOUNDED_LIVE_ANCHORS_REQUIRED"⟩
  | some record =>
      match record.lastCloseTimeMs with
      | none => .error ⟨"R6_BOUNDED_LIVE_ANCHORS_REQUIRED"⟩
      | some lastClose =>
          if lastClose < 0 ∨ (lastClose + 1) % minute ≠ 0 then
            .error ⟨"R6_BOUNDED_LIVE_ANCHORS_REQUIRED"⟩
          else
            .ok (lastClose + 1)

/-- `bounded_live_batch_end`. -/
def boundedLiveBatchEnd (seed : Option SeedAnchors) (target : Int) :
    Except EpochError Int :=
  match seed with
  | none => .error ⟨"R6_BOUNDED_LIVE_SEED_REQUIRED"⟩
  | some anchors => do
      refuseIf (¬ FiveSymbols anchors ∨ target ≤ 0 ∨ target % minute ≠ 0)
        ⟨"R6_BOUNDED_LIVE_SEED_REQUIRED"⟩
      let starts ← (dictValues anchors).mapM liveStart
      let endExclusive := plannedEnd starts target maxPending
      let appended := appendedBars starts endExclusive
      refuseIf (¬ (0 < appended ∧ appended ≤ maxPending))
        ⟨"R6_LIVE_BATCH_BOUND_REQUIRED"⟩
      return endExclusive

/-! ## The planned end in closed form -/

theorem earliestStart_spec
    {starts : List Int} (nonempty : starts ≠ []) :
    earliestStart starts ∈ starts ∧
      ∀ start ∈ starts, earliestStart starts ≤ start := by
  rcases found : starts.min? with _ | earliest
  · exact absurd (List.min?_eq_none_iff.1 found) nonempty
  · have earliestEq : earliestStart starts = earliest := by
      simp [earliestStart, found]
    rw [earliestEq]
    exact List.min?_eq_some_iff.1 found

/-- Each symbol adds at most the minutes between the earliest start and the
end. -/
theorem appendedBars_le
    {starts : List Int} {endExclusive earliest minutes : Int}
    (minutesNonneg : 0 ≤ minutes)
    (bounded : endExclusive ≤ earliest + minutes * minute)
    (later : ∀ start ∈ starts, earliest ≤ start) :
    appendedBars starts endExclusive ≤ starts.length * minutes := by
  have each :
      ∀ bars ∈ starts.map fun start =>
          max 0 ((endExclusive - start) / minute),
        bars ≤ minutes := by
    intro bars member
    rcases List.mem_map.1 member with ⟨start, startMember, rfl⟩
    have startLater := later start startMember
    apply max_le minutesNonneg
    exact Int.ediv_le_of_le_mul (by decide) (by omega)
  have summed := List.sum_le_card_nsmul _ minutes each
  simpa [appendedBars] using summed

/-- The shrinking loop of both planners is never entered. -/
theorem plannedEnd_eq
    {starts : List Int} {target limit : Int}
    (five : starts.length = symbols.length)
    (limitNonneg : 0 ≤ limit) :
    plannedEnd starts target limit =
      min target (earliestStart starts + limit / symbols.length * minute) := by
  have nonempty : starts ≠ [] := by
    rintro rfl
    simp [symbols] at five
  have share : (0 : Int) ≤ limit / symbols.length :=
    Int.ediv_nonneg limitNonneg (by simp [symbols])
  have fits :
      appendedBars starts
          (min target
            (earliestStart starts + limit / symbols.length * minute)) ≤
        limit := by
    have bounded :=
      appendedBars_le share
        (min_le_right target
          (earliestStart starts + limit / symbols.length * minute))
        (earliestStart_spec nonempty).2
    rw [five] at bounded
    have whole : (symbols.length : Int) * (limit / symbols.length) ≤ limit :=
      Int.mul_ediv_self_le (by simp [symbols])
    exact bounded.trans whole
  unfold plannedEnd
  simp only
  generalize (appendedBars starts _).toNat = passes
  cases passes with
  | zero => rfl
  | succ passes =>
      rw [shrinkToLimit, if_neg (not_lt.2 fits)]

/-! ## Planned ends against executed ends -/

/-- The anchors the worker will read are the ones the seed recorded. -/
structure Recorded (anchors : SeedAnchors) (values : Dict ClosedBarEvent) :
    Prop where
  fiveSymbols : FiveSymbols values
  closes :
    ∀ symbol anchor lastClose,
      anchors.lookup symbol = some (some anchor) →
        anchor.lastCloseTimeMs = some lastClose →
          watermarkAt values symbol = lastClose + 1

/-- The oldest watermark of the worker's anchors. -/
def earliestWatermark (values : Dict ClosedBarEvent) : Int :=
  earliestStart (watermarks values)

/-- The worker accepts the end, makes progress and stays within the limit. -/
def Executable
    (values : Dict ClosedBarEvent) (endExclusive limit : Int) : Prop :=
  ∃ bars,
    requiredBars values endExclusive = .ok bars ∧ 0 < bars ∧ bars ≤ limit

theorem earliestStart_perm
    {left right : List Int} (perm : left.Perm right) (nonempty : left ≠ []) :
    earliestStart left = earliestStart right := by
  have rightNonempty : right ≠ [] := fun empty =>
    nonempty (List.perm_nil.1 (empty ▸ perm))
  have leftSpec := earliestStart_spec nonempty
  have rightSpec := earliestStart_spec rightNonempty
  exact
    le_antisymm (leftSpec.2 _ (perm.mem_iff.2 rightSpec.1))
      (rightSpec.2 _ (perm.mem_iff.1 leftSpec.1))

/-- The close time a record states, as the next open time. -/
def recordedStart : Option SeedAnchor → Int
  | none => 0
  | some anchor => anchor.lastCloseTimeMs.getD 0 + 1

/--
Any check that reads the next open time off the recorded close time yields
the worker's watermarks, up to order.
-/
theorem starts_perm_watermarks
    {Error : Type} {check : Option SeedAnchor → Except Error Int}
    {anchors : SeedAnchors} {values : Dict ClosedBarEvent}
    {starts : List Int}
    (reads :
      ∀ record start,
        check record = .ok start →
          ∃ anchor,
            record = some anchor ∧ anchor.lastCloseTimeMs = some (start - 1))
    (five : FiveSymbols anchors)
    (recorded : Recorded anchors values)
    (checked : (dictValues anchors).mapM check = .ok starts) :
    starts.Perm (watermarks values) := by
  have startsEq : starts = (dictValues anchors).map recordedStart := by
    refine mapM_eq_ok_map ?_ checked
    intro record start passed
    rcases reads record start passed with ⟨anchor, rfl, closeEq⟩
    simp [recordedStart, closeEq]
  have along :
      (symbols.filterMap anchors.lookup).map recordedStart =
        symbols.map (watermarkAt values) := by
    rw [List.map_filterMap, ← List.filterMap_eq_map]
    apply List.filterMap_congr
    intro symbol member
    rcases five.lookup member with ⟨record, found⟩
    have visited : record ∈ dictValues anchors :=
      five.dictValues_perm.mem_iff.2
        (List.mem_filterMap.2 ⟨symbol, member, found⟩)
    rcases mapM_eq_ok_exists checked visited with ⟨start, passed⟩
    rcases reads record start passed with ⟨anchor, rfl, closeEq⟩
    have markEq := recorded.closes symbol anchor _ found closeEq
    simp [found, recordedStart, closeEq, markEq]
  rw [startsEq]
  have mapped := five.dictValues_perm.map recordedStart
  rw [along] at mapped
  exact mapped.trans (watermarks_perm recorded.fiveSymbols).symm

theorem seedStart_eq_ok
    {record : Option SeedAnchor} {start : Int}
    (passed : seedStart record = .ok start) :
    minute ∣ start ∧
      ∃ anchor,
        record = some anchor ∧ anchor.lastCloseTimeMs = some (start - 1) := by
  unfold seedStart at passed
  split at passed
  · cases passed
  · rename_i anchor
    split at passed
    · rename_i lastOpen lastClose count _ closeEq _
      split_ifs at passed with refused
      cases passed
      rw [not_or, not_or, not_not, not_not] at refused
      refine ⟨?_, anchor, rfl, by rw [closeEq]; simp⟩
      have openAligned : minute ∣ lastOpen :=
        Int.dvd_of_emod_eq_zero refused.2.1
      have startEq : lastClose + 1 = lastOpen + minute := by
        omega
      rw [startEq]
      exact dvd_add openAligned dvd_rfl
    · cases passed

theorem liveStart_eq_ok
    {record : Option SeedAnchor} {start : Int}
    (passed : liveStart record = .ok start) :
    minute ∣ start ∧
      ∃ anchor,
        record = some anchor ∧ anchor.lastCloseTimeMs = some (start - 1) := by
  unfold liveStart at passed
  split at passed
  · cases passed
  · rename_i anchor
    split at passed
    · cases passed
    · rename_i lastClose closeEq
      split_ifs at passed with refused
      cases passed
      rw [not_or, not_not] at refused
      exact
        ⟨Int.dvd_of_emod_eq_zero refused.2, anchor, rfl,
          by rw [closeEq]; simp⟩

/-- Checked starts are whole minutes. -/
theorem starts_aligned
    {Error : Type} {check : Option SeedAnchor → Except Error Int}
    {records : List (Option SeedAnchor)} {starts : List Int}
    (aligns : ∀ record start, check record = .ok start → minute ∣ start)
    (checked : records.mapM check = .ok starts)
    {start : Int} (member : start ∈ starts) :
    minute ∣ start := by
  have related := (mapM_eq_ok_iff check records starts).1 checked
  rcases List.forall₂_iff_get.1 related with ⟨lengths, each⟩
  rcases List.get_of_mem member with ⟨index, rfl⟩
  exact aligns _ _ (each index.1 (lengths.symm ▸ index.2) index.2)

/--
For watermarks on whole minutes, a capped end is executable exactly when it
is not before the newest watermark.
-/
theorem executable_min_iff
    {values : Dict ClosedBarEvent} {target limit : Int}
    (five : FiveSymbols values)
    (marksAligned : ∀ mark ∈ watermarks values, minute ∣ mark)
    (targetAligned : minute ∣ target)
    (limitNonneg : 0 ≤ limit)
    (progress :
      earliestWatermark values <
        min target
          (earliestWatermark values + limit / symbols.length * minute)) :
    Executable values
        (min target
          (earliestWatermark values + limit / symbols.length * minute))
        limit ↔
      latestWatermark values ≤ target ∧
        latestWatermark values ≤
          earliestWatermark values + limit / symbols.length * minute := by
  have nonempty : watermarks values ≠ [] :=
    List.ne_nil_of_mem (latestWatermark_spec five).1
  have earliest := earliestStart_spec nonempty
  rw [← le_min_iff]
  generalize endEq :
    min target
      (earliestWatermark values + limit / symbols.length * minute) =
        endExclusive at progress ⊢
  constructor
  · rintro ⟨bars, required, _, _⟩
    have accepted := (requiredBars_eq_ok_iff _ _ _).1 required
    exact (accepted.2.1 _ (latestWatermark_spec five).1).1
  · intro reached
    have earliestAligned : minute ∣ earliestWatermark values :=
      marksAligned _ earliest.1
    have endAligned : minute ∣ endExclusive := by
      rw [← endEq]
      rcases
          min_choice target
            (earliestWatermark values + limit / symbols.length * minute) with
        chosen | chosen
      · rw [chosen]
        exact targetAligned
      · rw [chosen]
        exact dvd_add earliestAligned (dvd_mul_left _ _)
    have aligned : MinuteAligned values := fun symbol member =>
      marksAligned _ ((mem_watermarks_iff five _).2 ⟨symbol, member, rfl⟩)
    have required :=
      requiredBars_of_latest_le five aligned endAligned reached
    have barsNonneg :
        ∀ bars ∈ (watermarks values).map fun mark =>
            (endExclusive - mark) / minute,
          0 ≤ bars := by
      intro bars member
      rcases List.mem_map.1 member with ⟨mark, markMember, rfl⟩
      have markLe := (latestWatermark_spec five).2 mark markMember
      exact Int.ediv_nonneg (by omega) (by decide)
    refine ⟨_, required, ?_, ?_⟩
    · have earliestBars :
          1 ≤ (endExclusive - earliestWatermark values) / minute := by
        rcases dvd_sub endAligned earliestAligned with ⟨minutes, minutesEq⟩
        rw [minutesEq, Int.mul_ediv_cancel_left _ (by decide)]
        have positive : 0 < minute * minutes := by omega
        exact Int.pos_of_mul_pos_right positive (by decide)
      have contributes :=
        List.single_le_sum barsNonneg _
          (List.mem_map.2 ⟨_, earliest.1, rfl⟩)
      exact lt_of_lt_of_le Int.zero_lt_one (earliestBars.trans contributes)
    · have share : (0 : Int) ≤ limit / symbols.length :=
        Int.ediv_nonneg limitNonneg (by simp [symbols])
      have endBounded :
          endExclusive ≤
            earliestWatermark values + limit / symbols.length * minute := by
        rw [← endEq]
        exact min_le_right _ _
      have bounded := appendedBars_le share endBounded earliest.2
      rw [length_watermarks five] at bounded
      have counted :
          missingBars (watermarks values) endExclusive ≤
            appendedBars (watermarks values) endExclusive :=
        List.sum_le_sum fun mark _ => le_max_right _ _
      have whole : (symbols.length : Int) * (limit / symbols.length) ≤ limit :=
        Int.mul_ediv_self_le (by simp [symbols])
      exact (counted.trans bounded).trans whole

/-- Before the earliest start no bar is appended. -/
theorem appendedBars_eq_zero
    {starts : List Int} {endExclusive : Int}
    (before : ∀ start ∈ starts, endExclusive ≤ start) :
    appendedBars starts endExclusive = 0 := by
  unfold appendedBars
  apply List.sum_eq_zero
  intro bars member
  rcases List.mem_map.1 member with ⟨start, startMember, rfl⟩
  have startLater := before start startMember
  apply max_eq_left
  exact Int.ediv_le_of_le_mul (by decide) (by omega)

/-- Both planners, from checked starts to the closed form of their end. -/
theorem plannedEnd_of_recorded
    {values : Dict ClosedBarEvent} {starts : List Int} {limit : Int}
    (target : Int) (five : FiveSymbols values)
    (perm : starts.Perm (watermarks values))
    (limitNonneg : 0 ≤ limit) :
    plannedEnd starts target limit =
        min target
          (earliestWatermark values + limit / symbols.length * minute) ∧
      earliestStart starts = earliestWatermark values := by
  have lengths : starts.length = symbols.length :=
    perm.length_eq.trans (length_watermarks five)
  have nonempty : starts ≠ [] := by
    rintro rfl
    simp [symbols] at lengths
  have earliestEq := earliestStart_perm perm nonempty
  refine ⟨?_, earliestEq⟩
  rw [plannedEnd_eq lengths limitNonneg, earliestEq]
  rfl

/--
A planned end is executable exactly when no symbol is past the target and the
newest watermark is within the per-symbol share of the earliest one.
-/
theorem plannedEnd_executable_iff
    (anchors : SeedAnchors) (values : Dict ClosedBarEvent)
    (target endExclusive : Int) (recorded : Recorded anchors values) :
    (∀ appendLimit,
      catchupEndExclusiveMs (some anchors) target appendLimit =
          .ok endExclusive →
        (Executable values endExclusive appendLimit ↔
          latestWatermark values ≤ target ∧
            latestWatermark values ≤
              earliestWatermark values +
                appendLimit / symbols.length * minute)) ∧
      (boundedLiveBatchEnd (some anchors) target = .ok endExclusive →
        (Executable values endExclusive maxPending ↔
          latestWatermark values ≤ target ∧
            latestWatermark values ≤
              earliestWatermark values +
                (maxPending : Int) / symbols.length * minute)) := by
  constructor
  · intro appendLimit planned
    simp only [catchupEndExclusiveMs, bind_eq_ok_iff, refuseIf_eq_ok_iff,
      exists_const, pure_eq_ok_iff, not_not, not_or] at planned
    rcases planned with
      ⟨⟨limitPos, _⟩, ⟨_, targetOk⟩, five, starts, checked, progress, endEq⟩
    have perm :=
      starts_perm_watermarks
        (fun record start passed => (seedStart_eq_ok passed).2)
        five recorded checked
    rcases
        plannedEnd_of_recorded target recorded.fiveSymbols perm
          (by omega : 0 ≤ appendLimit) with
      ⟨closedForm, earliestEq⟩
    rw [closedForm, earliestEq, not_le] at progress
    rw [← endEq, closedForm]
    refine
      executable_min_iff recorded.fiveSymbols ?_
        (Int.dvd_of_emod_eq_zero targetOk) (by omega) progress
    intro mark member
    exact
      starts_aligned (fun record start passed => (seedStart_eq_ok passed).1)
        checked (perm.mem_iff.2 member)
  · intro planned
    simp only [boundedLiveBatchEnd, bind_eq_ok_iff, refuseIf_eq_ok_iff,
      exists_const, pure_eq_ok_iff, not_not, not_or] at planned
    rcases planned with
      ⟨⟨five, _, targetOk⟩, starts, checked, ⟨positive, _⟩, endEq⟩
    have perm :=
      starts_perm_watermarks
        (fun record start passed => (liveStart_eq_ok passed).2)
        five recorded checked
    rcases
        plannedEnd_of_recorded target recorded.fiveSymbols perm
          (by decide : (0 : Int) ≤ maxPending) with
      ⟨closedForm, _⟩
    rw [closedForm] at positive
    rw [← endEq, closedForm]
    refine
      executable_min_iff recorded.fiveSymbols ?_
        (Int.dvd_of_emod_eq_zero targetOk) (by decide) ?_
    · intro mark member
      exact
        starts_aligned (fun record start passed => (liveStart_eq_ok passed).1)
          checked (perm.mem_iff.2 member)
    · by_contra stuck
      have none : appendedBars starts _ = 0 :=
        appendedBars_eq_zero fun start member =>
          (not_lt.1 stuck).trans
            ((earliestStart_spec
              (List.ne_nil_of_mem
                (latestWatermark_spec recorded.fiveSymbols).1)).2 start
              (perm.mem_iff.1 member))
      exact absurd positive (by rw [none]; exact lt_irrefl 0)

/-- A seed whose symbols closed just before the given watermarks. -/
def seedEndingAt (marks : String → Int) : SeedAnchors where
  entries :=
    symbols.map fun symbol =>
      ⟨symbol,
        some
          { count := some 1
            lastOpenTimeMs := some (marks symbol - minute)
            lastCloseTimeMs := some (marks symbol - 1) }⟩
  nodupKeys := by
    unfold List.NodupKeys List.keys
    rw [List.map_map]
    exact symbols_nodup

theorem recorded_seedEndingAt (marks : String → Int) :
    Recorded (seedEndingAt marks) (anchorsEndingAt marks) where
  fiveSymbols := by
    unfold FiveSymbols AList.keys anchorsEndingAt List.keys
    rw [List.map_map]
    rfl
  closes := by
    intro symbol anchor lastClose found closeEq
    have member := AList.mem_lookup_iff.1 found
    rcases List.mem_map.1 member with ⟨listed, listedMember, equal⟩
    cases equal
    cases closeEq
    rw [watermarkAt_anchorsEndingAt marks listedMember]
    exact (sub_add_cancel _ _).symm

/-- With a spread of five minutes the R6 end is executable. -/
theorem plannedEnd_executable_smallSpread :
    Executable
      (anchorsEndingAt fun symbol =>
        if symbol = "BTCUSDT" then minute else 6 * minute)
      (21 * minute) maxPending := by
  refine
    ((plannedEnd_executable_iff _ _ (1000 * minute) (21 * minute)
      (recorded_seedEndingAt fun symbol =>
        if symbol = "BTCUSDT" then minute else 6 * minute)).2 rfl).2 ?_
  decide

/-- One symbol 21 minutes behind the other four: a skew of 21 bars. -/
def laggingMarks (symbol : String) : Int :=
  if symbol = "BTCUSDT" then minute else 22 * minute

/--
One lagging symbol is within the skew the serving loop allows, yet both
planners return an end that the worker refuses.
-/
theorem plannedEnd_refused_by_worker :
    Recorded (seedEndingAt laggingMarks) (anchorsEndingAt laggingMarks) ∧
      skewBars (anchorsEndingAt laggingMarks) ≤ maxPending ∧
      catchupEndExclusiveMs (some (seedEndingAt laggingMarks))
          (1000 * minute) 100 =
        .ok (21 * minute) ∧
      boundedLiveBatchEnd (some (seedEndingAt laggingMarks))
          (1000 * minute) =
        .ok (21 * minute) ∧
      requiredBars (anchorsEndingAt laggingMarks) (21 * minute) =
        .error ⟨"FIXED_CATCHUP_INTERVAL_REQUIRED"⟩ :=
  ⟨recorded_seedEndingAt laggingMarks, by decide, rfl, rfl, rfl⟩

end KairosDeploy.Epoch.CatchupPlanning
