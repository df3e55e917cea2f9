import KairosDeploy.Epoch.HistorySnapshot
import KairosDeploy.Epoch.RuntimeWatermark

/-!
# Catching up after a boot

`recover` with an expected boot state takes a history snapshot, lets five
tasks append what is missing, takes a second snapshot and compares the two.
Neither what the tasks do nor what another writer does in between is trusted:
the second half of `recover` has to notice every change that is not an append
of the missing minutes.  This module translates `recover` around the
observations it makes of the database, and proves that it does.
-/

namespace KairosDeploy.Epoch.BootCatchup

open KairosDeploy.Library.Refusal
open KairosDeploy.Library.ArithmeticChain
open KairosDeploy.Library.SortedDigest
open KairosDeploy.Epoch.Contract
open KairosDeploy.Epoch.AuditAnchors
open KairosDeploy.Epoch.RuntimeWatermark
open KairosDeploy.Epoch.HistorySnapshot

/-! ## The prefix of the audit table -/

/-- The part of the recorded boot state that `recover` compares. -/
structure BootExpected where
  auditTable : TableDigest
  outboxTable : TableDigest
  anchors : Dict HistoryAnchor
  originalPrefix : OriginalPrefix

/-- A cutoff of the query: a symbol and its last recorded open time. -/
abbrev Cutoff := String × Int

/-- The condition of the join, and of its `WHERE`. -/
def CutOffBy (row : AuditRow) (cutoff : Cutoff) : Prop :=
  IsBarOf cutoff.1 row ∧
    row.payload.openTimeMs.any (fun openTime => openTime ≤ cutoff.2) = true

instance (row : AuditRow) (cutoff : Cutoff) :
    Decidable (CutOffBy row cutoff) :=
  inferInstanceAs (Decidable (_ ∧ _))

/-- `event_audit t JOIN unnest(..) AS cutoffs`. -/
def cutoffRows (cutoffs : List Cutoff) (audit : List AuditRow) :
    List AuditRow :=
  audit.flatMap fun row =>
    (cutoffs.filter fun cutoff => CutOffBy row cutoff).map fun _ => row

/-- The symbols with `expected["anchors"][s]["last_open_time_ms"]`. -/
def cutoffsOf (anchors : Dict HistoryAnchor) : List Cutoff :=
  symbols.filterMap fun symbol =>
    (anchors.lookup symbol).map fun anchor =>
      (symbol, anchor.lastOpenTimeMs)

section Recover

variable {OutboxRow : Type} (postgres : Postgres OutboxRow)

/-- `validate_boot_audit_prefix`. -/
def validateBootAuditPrefix
    (audit : List AuditRow) (expected : BootExpected) :
    Except SnapshotError Unit := do
  refuseIf (∃ symbol ∈ symbols, expected.anchors.lookup symbol = none)
    (.python "KeyError")
  let rows := cutoffRows (cutoffsOf expected.anchors) audit
  refuseIf
    ((⟨rows.length, sortedDigest postgres.sha256 postgres.auditText rows⟩ :
        TableDigest) ≠
      expected.auditTable)
    (.epoch ⟨"BOOT_PREEXISTING_AUDIT_PREFIX_CONFLICT"⟩)

/-! ## Recovering -/

/--
What one call of `recover` observes: the schema and the lock, the tables at
the first snapshot, at `anchors` and at the second snapshot, and the outcome
of the task of each symbol.
-/
structure Observations (OutboxRow : Type) where
  schemaVerified : Bool
  locked : Bool
  before : Database OutboxRow
  beforeClock : SnapshotClock
  anchored : List AuditRow
  one : String → Except SnapshotError Int
  after : Database OutboxRow
  afterClock : SnapshotClock

/-- What `recover` returns. -/
structure Recovered where
  state : String
  appended : Dict Int
  throughExclusiveMs : Int
  maximumBars : Nat
  auditRows : Option (Nat × Nat)

/-- `left != right` for dictionaries, whatever the order of their keys. -/
def DictsDiffer (left right : Dict HistoryAnchor) : Prop :=
  ∃ key ∈ left.keys ++ right.keys, left.lookup key ≠ right.lookup key

instance (left right : Dict HistoryAnchor) :
    Decidable (DictsDiffer left right) :=
  inferInstanceAs (Decidable (∃ _ ∈ _, _))

/-- The comparison of the first snapshot with the expected state. -/
def PrestateConflict (before : BootHistory) (expected : BootExpected) :
    Prop :=
  before.audit ≠ expected.auditTable ∨
    before.outbox ≠ expected.outboxTable ∨
    DictsDiffer before.anchors expected.anchors ∨
    before.originalPrefix ≠ expected.originalPrefix

instance (before : BootHistory) (expected : BootExpected) :
    Decidable (PrestateConflict before expected) :=
  inferInstanceAs (Decidable (_ ∨ _))

/--
The comparison of one symbol's anchors.  Both snapshots and the totals have
all five symbols, so that nothing is missing here.
-/
def anchorConflict
    (old new : Option HistoryAnchor) (total : Option Int)
    (endExclusive : Int) : Bool :=
  match old, new, total with
  | some old, some new, some total =>
      new.count ≠ old.count + total ||
        new.firstOpenTimeMs ≠ old.firstOpenTimeMs ||
        new.lastOpenTimeMs ≠ endExclusive - minute
  | _, _, _ => true

/-- The comparison of the two snapshots. -/
def PoststateConflict
    (before after : BootHistory) (totals : Dict Int) (endExclusive : Int) :
    Prop :=
  after.outbox ≠ before.outbox ∨
    after.originalPrefix ≠ before.originalPrefix ∨
    (after.audit.count : Int) ≠
      before.audit.count + (dictValues totals).sum ∨
    ∃ symbol ∈ symbols,
      anchorConflict (before.anchors.lookup symbol)
          (after.anchors.lookup symbol) (totals.lookup symbol)
          endExclusive =
        true

instance
    (before after : BootHistory) (totals : Dict Int) (endExclusive : Int) :
    Decidable (PoststateConflict before after totals endExclusive) :=
  inferInstanceAs (Decidable (_ ∨ _))

/-- The first snapshot, when a boot state is expected. -/
def bootBefore
    (profile : EpochProfile) (observed : Observations OutboxRow)
    (expected : BootExpected) : Except SnapshotError BootHistory := do
  let before ←
    bootHistorySnapshot postgres profile observed.beforeClock
      observed.before
  refuseIf (PrestateConflict before expected)
    (.epoch ⟨"BOOT_CATCHUP_PRESTATE_CONFLICT"⟩)
  return before

/-- The second snapshot, when a boot state is expected. -/
def bootAfter
    (profile : EpochProfile) (observed : Observations OutboxRow)
    (expected : BootExpected) (before : BootHistory) (totals : Dict Int)
    (endExclusive : Int) : Except SnapshotError BootHistory := do
  let after ←
    bootHistorySnapshot postgres profile observed.afterClock observed.after
  validateBootAuditPrefix postgres observed.after.audit expected
  refuseIf (PoststateConflict before after totals endExclusive)
    (.epoch ⟨"BOOT_CATCHUP_POSTSTATE_CONFLICT"⟩)
  return after

/-- `MAX_PENDING if publish else MAX_BARS`. -/
def maximumBars (publish : Bool) : Nat :=
  if publish then maxPending else maxBars

/-- `anchors`, `required_bars`, the tasks and the comparison of counts. -/
def appendMissing
    (model : BarModel) (observed : Observations OutboxRow) (publish : Bool)
    (endExclusive : Int) : Except SnapshotError (Dict Int) := do
  let values ← (anchors model observed.anchored).mapError .epoch
  let required ← (requiredBars values endExclusive).mapError .epoch
  refuseIf (required > maximumBars publish)
    (.epoch ⟨"EPOCH_INTERVAL_EXCEEDS_FIXED_CAP"⟩)
  let totals ←
    symbols.foldlM
      (fun totals symbol => do
        let count ← observed.one symbol
        return totals.insert symbol count)
      ∅
  refuseIf ((dictValues totals).sum ≠ required)
    (.epoch ⟨"EXACT_APPEND_COUNT_REQUIRED"⟩)
  return totals

/-- `recover`, as a function of what it observes. -/
def recover
    (model : BarModel) (profile : EpochProfile)
    (observed : Observations OutboxRow) (publish : Bool)
    (endExclusive : Int) (bootExpected : Option BootExpected) :
    Except SnapshotError Recovered := do
  refuseIf (observed.schemaVerified = false)
    (.epoch ⟨"EXACT_CONTROLLED_SCHEMA_REQUIRED"⟩)
  refuseIf (observed.locked = false)
    (.epoch ⟨"EPOCH_WRITER_ALREADY_RUNNING"⟩)
  let recovered (totals : Dict Int) (rows : Option (Nat × Nat)) :
      Recovered :=
    { state :=
        if publish then
          "CURRENT_BARS_APPENDED"
        else
          "AUDIT_ONLY_CATCHUP_COMPLETE"
      appended := totals
      throughExclusiveMs := endExclusive
      maximumBars := maximumBars publish
      auditRows := rows }
  match bootExpected with
  | none => do
      let totals ← appendMissing model observed publish endExclusive
      refuseIf (publish = false ∧ observed.after.outbox.length ≠ 0)
        (.epoch ⟨"HISTORY_CREATED_OUTBOX_REJECTED"⟩)
      return recovered totals none
  | some expected => do
      let before ← bootBefore postgres profile observed expected
      let totals ← appendMissing model observed publish endExclusive
      let after ←
        bootAfter postgres profile observed expected before totals
          endExclusive
      return recovered totals
        (some (before.audit.count, after.audit.count))

end Recover

/-! ## The rows before and after -/

section Rows

variable {cutoffs : List Cutoff} {audit : List AuditRow}

theorem filter_cutOffBy
    (distinct : (cutoffs.map Prod.fst).Nodup) (row : AuditRow) :
    ((cutoffs.filter fun cutoff => CutOffBy row cutoff).map fun _ => row) =
      if ∃ cutoff ∈ cutoffs, CutOffBy row cutoff then [row] else [] := by
  induction cutoffs with
  | nil => simp
  | cons head rest induction =>
      rw [List.map_cons, List.nodup_cons] at distinct
      by_cases isHead : CutOffBy row head
      · have alone :
            (rest.filter fun cutoff => CutOffBy row cutoff) = [] := by
          refine List.filter_eq_nil_iff.2 ?_
          intro other member matched
          rw [decide_eq_true_eq] at matched
          have same : other.1 = head.1 := by
            have one := matched.1.2.2
            rw [isHead.1.2.2, Option.some.injEq] at one
            exact one.symm
          exact distinct.1 (same ▸ List.mem_map_of_mem member)
        simp [isHead, alone]
      · have tail := induction distinct.2
        simp only [List.mem_cons, exists_eq_or_imp, isHead, false_or]
        rw [← tail, List.filter_cons_of_neg (by simpa using isHead)]

/-- A row is joined at most once, so the join is a selection. -/
theorem cutoffRows_eq_filter
    (distinct : (cutoffs.map Prod.fst).Nodup) :
    cutoffRows cutoffs audit =
      audit.filter fun row => ∃ cutoff ∈ cutoffs, CutOffBy row cutoff := by
  unfold cutoffRows
  induction audit with
  | nil => rfl
  | cons row rest induction =>
      rw [List.flatMap_cons, induction, filter_cutOffBy distinct,
        List.filter_cons]
      split_ifs with joined matched matched
      · rfl
      · simp [joined] at matched
      · simp [joined] at matched
      · rfl

theorem cutoffsOf_distinct (anchors : Dict HistoryAnchor) :
    ((cutoffsOf anchors).map Prod.fst).Nodup := by
  have names :
      ((cutoffsOf anchors).map Prod.fst).Sublist symbols := by
    unfold cutoffsOf
    induction symbols with
    | nil => exact List.Sublist.refl _
    | cons head rest induction =>
        rw [List.filterMap_cons]
        cases anchors.lookup head with
        | none => exact induction.cons _
        | some anchor => exact induction.cons_cons _
  exact symbols_nodup.sublist names

/-- A row of a symbol is cut off by the cutoff of that symbol only. -/
theorem exists_cutOffBy_iff
    {anchors : Dict HistoryAnchor} {symbol : String}
    {anchor : HistoryAnchor} {row : AuditRow}
    (member : symbol ∈ symbols)
    (found : anchors.lookup symbol = some anchor)
    (bar : IsBarOf symbol row) :
    (∃ cutoff ∈ cutoffsOf anchors, CutOffBy row cutoff) ↔
      row.payload.openTimeMs.any
          (fun openTime => openTime ≤ anchor.lastOpenTimeMs) =
        true := by
  constructor
  · rintro ⟨⟨other, lastOpen⟩, inCutoffs, otherBar, reached⟩
    have same : other = symbol := by
      have one := otherBar.2.2
      rw [bar.2.2, Option.some.injEq] at one
      exact one.symm
    rcases List.mem_filterMap.1 inCutoffs with ⟨key, _, read⟩
    rcases Option.map_eq_some_iff.1 read with ⟨keyAnchor, keyFound, pair⟩
    cases pair
    subst same
    rw [found, Option.some.injEq] at keyFound
    rw [keyFound]
    exact reached
  · intro reached
    refine ⟨(symbol, anchor.lastOpenTimeMs), ?_, bar, reached⟩
    exact
      List.mem_filterMap.2
        ⟨symbol, member, by rw [found, Option.map_some]⟩

theorem lookup_eq_of_not_dictsDiffer
    {left right : Dict HistoryAnchor} (agree : ¬ DictsDiffer left right)
    (key : String) : left.lookup key = right.lookup key := by
  by_contra different
  by_cases present : key ∈ left.keys ++ right.keys
  · exact agree ⟨key, present, different⟩
  · rw [List.mem_append, not_or, ← AList.mem_keys, ← AList.mem_keys]
      at present
    rw [AList.lookup_eq_none.2 present.1, AList.lookup_eq_none.2 present.2]
      at different
    exact different rfl

end Rows

/-! ## Append-only catch-up -/

section CatchUp

variable {OutboxRow : Type}

/--
The hash does not collide on the texts that the two table digests and the
prefix digest hash, and the text of a row determines the row.
-/
structure CollisionFree
    (postgres : Postgres OutboxRow) (before after : Database OutboxRow)
    (anchors : Dict HistoryAnchor) : Prop where
  auditTexts :
    Separates postgres.sha256.hex
      (hashedTexts postgres.sha256 postgres.auditText before.audit ++
        hashedTexts postgres.sha256 postgres.auditText
          (cutoffRows (cutoffsOf anchors) after.audit))
  auditRows :
    Separates postgres.auditText (before.audit ++ after.audit)
  outboxTexts :
    Separates postgres.sha256.hex
      (hashedTexts postgres.sha256 postgres.outboxText before.outbox ++
        hashedTexts postgres.sha256 postgres.outboxText after.outbox)
  outboxRows :
    Separates postgres.outboxText (before.outbox ++ after.outbox)

/-- Only the missing minutes up to `endExclusive` were appended. -/
structure AppendsMissing
    (before after : Database OutboxRow) (endExclusive : Int) : Prop where
  audit :
    ∃ added,
      after.audit.Perm (before.audit ++ added) ∧
        (∀ row ∈ added,
          ∃ symbol ∈ symbols, row ∈ symbolRows added symbol) ∧
        ∀ symbol ∈ symbols,
          ∃ oldLast,
            lastOpen before.audit symbol = some oldLast ∧
              (openColumn added symbol).Perm
                ((minutes (oldLast + minute) endExclusive).map some)
  outbox : after.outbox.Perm before.outbox

section Compared

variable {postgres : Postgres OutboxRow} {model : BarModel}
    {profile : EpochProfile} {observed : Observations OutboxRow}
    {publish : Bool} {endExclusive : Int} {expected : BootExpected}

/-- The comparisons that a successful call has made. -/
theorem recover_boot_eq_ok
    {result : Recovered}
    (succeeded :
      recover postgres model profile observed publish endExclusive
          (some expected) =
        .ok result) :
    ∃ before after totals,
      bootHistorySnapshot postgres profile observed.beforeClock
            observed.before =
          .ok before ∧
        bootHistorySnapshot postgres profile observed.afterClock
            observed.after =
          .ok after ∧
        ¬ PrestateConflict before expected ∧
        validateBootAuditPrefix postgres observed.after.audit expected =
          .ok () ∧
        ¬ PoststateConflict before after totals endExclusive := by
  simp only [recover, bootBefore, bootAfter, bind_eq_ok_iff,
    refuseIf_eq_ok_iff, exists_const, pure_eq_ok_iff] at succeeded
  rcases succeeded with
    ⟨_, _, before, ⟨_, beforeTaken, prestate, rfl⟩, totals, _, after,
      ⟨_, afterTaken, _, prefixKept, poststate, rfl⟩, _⟩
  exact
    ⟨_, _, totals, beforeTaken, afterTaken, prestate, prefixKept,
      poststate⟩

/-- The rows of the prefix are the rows of the first snapshot. -/
theorem perm_cutoffRows
    {before : BootHistory}
    (taken :
      Taken postgres profile observed.beforeClock observed.before before)
    (prestate : ¬ PrestateConflict before expected)
    (prefixKept :
      validateBootAuditPrefix postgres observed.after.audit expected =
        .ok ())
    (collisionFree :
      CollisionFree postgres observed.before observed.after
        expected.anchors) :
    observed.before.audit.Perm
      (cutoffRows (cutoffsOf expected.anchors) observed.after.audit) := by
  simp only [validateBootAuditPrefix, bind_eq_ok_iff, refuseIf_eq_ok_iff,
    exists_const, not_not, ne_eq] at prefixKept
  simp only [PrestateConflict, not_or, not_not, ne_eq] at prestate
  have digests := prefixKept.2.trans (prestate.1.symm.trans taken.audit)
  refine
    perm_of_sortedDigest_eq collisionFree.auditTexts ?_
      (congrArg TableDigest.sha256 digests).symm
  refine collisionFree.auditRows.mono ?_
  intro row member
  rcases List.mem_append.1 member with old | inPrefix
  · exact List.mem_append_left _ old
  · rw [cutoffRows_eq_filter (cutoffsOf_distinct _)] at inPrefix
    exact List.mem_append_right _ (List.mem_filter.1 inPrefix).1

/-- The rows of the second snapshot beyond all cutoffs. -/
def addedRows (anchors : Dict HistoryAnchor) (audit : List AuditRow) :
    List AuditRow :=
  audit.filter fun row =>
    ¬ ∃ cutoff ∈ cutoffsOf anchors, CutOffBy row cutoff

/-- The added rows of one symbol open after its last recorded bar. -/
theorem openColumn_addedRows
    {anchors : Dict HistoryAnchor} {audit : List AuditRow}
    {symbol : String} {anchor : HistoryAnchor}
    (member : symbol ∈ symbols)
    (found : anchors.lookup symbol = some anchor) :
    openColumn (addedRows anchors audit) symbol =
      (openColumn audit symbol).filter fun opened =>
        ¬ opened.any
            (fun openTime => openTime ≤ anchor.lastOpenTimeMs) =
          true := by
  unfold openColumn
  rw [List.filter_map]
  congr 1
  unfold symbolRows addedRows
  rw [List.filter_comm]
  refine List.filter_congr ?_
  intro row inSymbol
  have bar : IsBarOf symbol row := by
    simpa [IsBarOf] using (List.mem_filter.1 inSymbol).2
  simp only [exists_cutOffBy_iff member found bar, Function.comp_apply]

/-- The first snapshot's last bar is still there at the second one. -/
theorem lastOpen_le_of_subset
    {before after : List AuditRow} {symbol : String} {oldLast newLast : Int}
    (included : before ⊆ after)
    (oldFound : lastOpen before symbol = some oldLast)
    (newFound : lastOpen after symbol = some newLast) :
    oldLast ≤ newLast := by
  have present := (List.max?_eq_some_iff.1 oldFound).1
  rcases List.mem_filterMap.1 present with ⟨row, inSymbol, opened⟩
  rcases mem_symbolRows_iff.1 inSymbol with ⟨inBefore, bar⟩
  exact
    le_lastOpen newFound (mem_symbolRows_iff.2 ⟨included inBefore, bar⟩)
      opened

/-- The minutes of a longer chain beyond the end of a shorter one. -/
theorem minutes_filter_perm
    {first oldLast endExclusive : Int} (ordered : first ≤ oldLast)
    (spaced : minute ∣ oldLast - first)
    (reached : oldLast + minute ≤ endExclusive)
    (endSpaced : minute ∣ endExclusive - (oldLast + minute)) :
    ((minutes first endExclusive).filter fun openTime =>
        oldLast < openTime).Perm
      (minutes (oldLast + minute) endExclusive) := by
  rcases exists_count_of_dvd reached endSpaced with ⟨rest, endEq⟩
  rcases exists_count_of_dvd ordered spaced with ⟨before, lastEq⟩
  have asChain :
      minutes first endExclusive =
        chain minute first (before + 1 + rest) := by
    rw [← minutes_eq_chain, endEq, lastEq]
    congr 1
    push_cast
    ring
  have restAsChain :
      minutes (oldLast + minute) endExclusive =
        chain minute (oldLast + minute) rest := by
    rw [endEq, minutes_eq_chain]
  rw [asChain, restAsChain]
  refine filter_chain_perm minute_pos spaced ?_ ?_
  · have positive := minute_pos
    omega
  · rw [lastEq]
    push_cast
    ring

theorem bounds_of_not_anchorConflict
    {old new : HistoryAnchor} {total : Option Int}
    (free :
      ¬ anchorConflict (some old) (some new) total endExclusive = true) :
    new.firstOpenTimeMs = old.firstOpenTimeMs ∧
      new.lastOpenTimeMs = endExclusive - minute := by
  cases total with
  | none => exact absurd rfl free
  | some total =>
      simp only [anchorConflict, Bool.or_eq_true, decide_eq_true_eq,
        not_or, not_not, ne_eq] at free
      exact ⟨free.1.2, free.2⟩

/-- What is added to one symbol. -/
theorem openColumn_addedRows_perm
    {before after : BootHistory} {totals : Dict Int} {symbol : String}
    (beforeTaken :
      Taken postgres profile observed.beforeClock observed.before before)
    (afterTaken :
      Taken postgres profile observed.afterClock observed.after after)
    (poststate : ¬ PoststateConflict before after totals endExclusive)
    (same : ∀ key, before.anchors.lookup key = expected.anchors.lookup key)
    (included : observed.before.audit ⊆ observed.after.audit)
    (aligned : AlignedBars observed.after.audit)
    (member : symbol ∈ symbols) :
    ∃ oldLast,
      lastOpen observed.before.audit symbol = some oldLast ∧
        (openColumn (addedRows expected.anchors observed.after.audit)
            symbol).Perm
          ((minutes (oldLast + minute) endExclusive).map some) := by
  rcases beforeTaken.anchors symbol member with
    ⟨old, oldRead, oldFound, oldExact⟩
  rcases afterTaken.anchors symbol member with
    ⟨new, newRead, newFound, newExact⟩
  have conflictFree :
      new.firstOpenTimeMs = old.firstOpenTimeMs ∧
        new.lastOpenTimeMs = endExclusive - minute := by
    simp only [PoststateConflict, not_or, not_exists, not_and] at poststate
    have compared := poststate.2.2.2 symbol member
    rw [oldFound, newFound] at compared
    exact bounds_of_not_anchorConflict compared
  have newChain := isChain_of_bootAnchor aligned newRead newExact
  have oldLastOpen :
      lastOpen observed.before.audit symbol = some old.lastOpenTimeMs := by
    rcases bootAnchor_eq_ok_iff.1 oldRead with
      ⟨_, _, _, hi, _, hiFound, rfl⟩
    exact hiFound
  have newLastOpen :
      lastOpen observed.after.audit symbol = some new.lastOpenTimeMs := by
    rcases bootAnchor_eq_ok_iff.1 newRead with
      ⟨_, _, _, hi, _, hiFound, rfl⟩
    exact hiFound
  have grown := lastOpen_le_of_subset included oldLastOpen newLastOpen
  rcases oldExact with ⟨positive, _, _, span, _⟩
  have spaced :
      minute ∣ old.lastOpenTimeMs - old.firstOpenTimeMs :=
    ⟨old.count - 1, by rw [span]; ring⟩
  have ordered : old.firstOpenTimeMs ≤ old.lastOpenTimeMs := by
    have nonnegative : 0 ≤ (old.count - 1) * minute :=
      mul_nonneg (by omega) minute_pos.le
    omega
  have endSpaced : minute ∣ endExclusive - (old.lastOpenTimeMs + minute) := by
    have newSpaced := newChain.spaced
    rw [conflictFree.1, conflictFree.2] at newSpaced
    have difference := dvd_sub newSpaced spaced
    have rewritten :
        endExclusive - minute - old.firstOpenTimeMs -
            (old.lastOpenTimeMs - old.firstOpenTimeMs) =
          endExclusive - (old.lastOpenTimeMs + minute) := by
      ring
    rw [rewritten] at difference
    exact difference
  refine ⟨old.lastOpenTimeMs, oldLastOpen, ?_⟩
  have everyMinute := newChain.everyMinute
  rw [conflictFree.1, conflictFree.2, sub_add_cancel] at everyMinute
  rw [openColumn_addedRows member ((same symbol).symm.trans oldFound)]
  refine (everyMinute.filter _).trans ?_
  rw [List.filter_map]
  refine List.Perm.map some ?_
  refine List.Perm.trans (List.Perm.of_eq ?_)
    (minutes_filter_perm ordered spaced (by omega) endSpaced)
  refine List.filter_congr ?_
  intro openTime _
  rw [Function.comp_apply, decide_eq_decide, Option.any_some,
    decide_eq_true_eq, not_le]

/--
A catch-up that succeeds has kept every row of the audit table, has added for
each symbol one row for every minute after its last one and before the end,
and has left the outbox as it was, whatever happened to the tables in between.
-/
theorem recover_boot_appends_missing
    (postgres : Postgres OutboxRow) (model : BarModel)
    (profile : EpochProfile) (observed : Observations OutboxRow)
    (publish : Bool) (endExclusive : Int) (expected : BootExpected)
    (result : Recovered)
    (collisionFree :
      CollisionFree postgres observed.before observed.after
        expected.anchors)
    (aligned : AlignedBars observed.after.audit)
    (succeeded :
      recover postgres model profile observed publish endExclusive
          (some expected) =
        .ok result) :
    AppendsMissing observed.before observed.after endExclusive := by
  rcases recover_boot_eq_ok succeeded with
    ⟨before, after, totals, beforeRead, afterRead, prestate, prefixKept,
      poststate⟩
  have beforeTaken := bootHistorySnapshot_eq_ok beforeRead
  have afterTaken := bootHistorySnapshot_eq_ok afterRead
  have kept := perm_cutoffRows beforeTaken prestate prefixKept collisionFree
  rw [cutoffRows_eq_filter (cutoffsOf_distinct _)] at kept
  have included : observed.before.audit ⊆ observed.after.audit := by
    intro row member
    exact (List.mem_filter.1 (kept.subset member)).1
  have same :
      ∀ key, before.anchors.lookup key = expected.anchors.lookup key := by
    simp only [PrestateConflict, not_or] at prestate
    exact lookup_eq_of_not_dictsDiffer prestate.2.2.1
  constructor
  · refine
      ⟨addedRows expected.anchors observed.after.audit, ?_, ?_, ?_⟩
    · refine List.Perm.trans ?_ (kept.symm.append_right _)
      have split :=
        List.filter_append_perm
          (fun row =>
            decide (∃ cutoff ∈ cutoffsOf expected.anchors,
              CutOffBy row cutoff))
          observed.after.audit
      simpa [addedRows] using split.symm
    · intro row member
      have inAfter := (List.mem_filter.1 member).1
      rcases afterTaken.onlyBars row inAfter with
        ⟨symbol, inSymbols, inSymbol⟩
      exact
        ⟨symbol, inSymbols,
          mem_symbolRows_iff.2
            ⟨member, (mem_symbolRows_iff.1 inSymbol).2⟩⟩
    · intro symbol member
      exact
        openColumn_addedRows_perm beforeTaken afterTaken poststate same
          included aligned member
  · simp only [PoststateConflict, not_or, not_not, ne_eq] at poststate
    have digests :=
      afterTaken.outbox.symm.trans (poststate.1.trans beforeTaken.outbox)
    exact
      (perm_of_sortedDigest_eq collisionFree.outboxTexts
        collisionFree.outboxRows
        (congrArg TableDigest.sha256 digests).symm).symm

end Compared

end CatchUp

/-! ## One minute of catch-up -/

/-- The first two minutes of all five symbols. -/
def twoMinuteDatabase : Database String where
  audit := barTable (recordedMinute 0) 2
  outbox := []

/-- A call during which every task appends one bar. -/
def oneMinuteObserved : Observations String where
  schemaVerified := true
  locked := true
  before := firstMinuteDatabase
  beforeClock := promptClock
  anchored := firstMinuteDatabase.audit
  one := fun _ => .ok 1
  after := twoMinuteDatabase
  afterClock := promptClock

/-- The same value for each of the five symbols. -/
def fiveTimes {Value : Type} (value : Value) : Dict Value :=
  symbols.foldl (fun values symbol => values.insert symbol value) ∅

/-- The snapshot of the first minute. -/
def firstMinuteSnapshot : BootHistory where
  audit :=
    ⟨5, "1b026e9bed75ce942b549fb78585f325a6e5c0a22ccd38a6906bc04c7a326c1e"⟩
  outbox :=
    ⟨0, "e3b0c44298fc1c149afbf4c8996fb92427ae41e4649b934ca495991b7852b855"⟩
  anchors :=
    fiveTimes
      ⟨1, recordedMinute 0, recordedMinute 0,
        recordedMinute 0 + minute - 1⟩
  originalPrefix := firstMinuteProfile.originalPrefix

/-- The snapshot of the first two minutes. -/
def twoMinuteSnapshot : BootHistory where
  audit :=
    ⟨10, "46793c8681d13e965a988da014e1ed1cdac656dd8161aceb068ed1805c73c08f"⟩
  outbox := firstMinuteSnapshot.outbox
  anchors :=
    fiveTimes
      ⟨2, recordedMinute 0, recordedMinute 1,
        recordedMinute 1 + minute - 1⟩
  originalPrefix := firstMinuteProfile.originalPrefix

/-- The recorded state after the first minute. -/
def firstMinuteExpected : BootExpected where
  auditTable := firstMinuteSnapshot.audit
  outboxTable := firstMinuteSnapshot.outbox
  anchors := firstMinuteSnapshot.anchors
  originalPrefix := firstMinuteSnapshot.originalPrefix

section Evaluation

variable {Error Value : Type}

/-- A dictionary is its list of entries. -/
theorem dict_eq_ok_of_entries
    {computation : Except Error (Dict Value)} {result : Dict Value}
    (entries : computation.map AList.entries = .ok result.entries) :
    computation = .ok result := by
  cases computation with
  | error error => cases entries
  | ok other =>
      have same : other.entries = result.entries := Except.ok.inj entries
      rw [AList.ext same]

end Evaluation

/-! ### The digests of the two tables -/

/-- A table of recorded bars whose digest and anchors are known. -/
theorem barSnapshot_eq_ok
    {audit : List AuditRow} {history : Dict HistoryAnchor}
    {digest : String}
    (auditFits : FitsBudget barText promptClock.audit audit)
    (folded :
      symbols.foldlM
          (fun (history : Dict HistoryAnchor) symbol => do
            let anchor ← bootAnchor audit symbol
            return history.insert symbol anchor)
          ∅ =
        .ok history)
    (validated :
      validateHistorySnapshot audit.length history (some history) = .ok ())
    (rows :
      originalPrefixRows firstMinuteProfile.originalPrefix.lastOpenTimeMs
          audit =
        firstMinuteDatabase.audit)
    (digested :
      sortedDigest recordedPostgres.sha256 barText audit = digest) :
    bootHistorySnapshot recordedPostgres firstMinuteProfile promptClock
        ⟨audit, []⟩ =
      .ok
        ⟨⟨audit.length, digest⟩, firstMinuteSnapshot.outbox, history,
          firstMinuteProfile.originalPrefix⟩ := by
  have kept :
      recordedPrefix recordedPostgres firstMinuteProfile ⟨audit, []⟩ =
        firstMinuteProfile.originalPrefix :=
    firstMinute_prefixKept rows
  have outbox :
      sortedDigest recordedPostgres.sha256 recordedPostgres.outboxText [] =
        firstMinuteSnapshot.outbox.sha256 :=
    recordedHex_empty
  have taken :
      bootHistorySnapshot recordedPostgres firstMinuteProfile promptClock
          ⟨audit, []⟩ =
        .ok
          ⟨⟨audit.length,
              sortedDigest recordedPostgres.sha256 barText audit⟩,
            ⟨0,
              sortedDigest recordedPostgres.sha256
                recordedPostgres.outboxText []⟩,
            history,
            recordedPrefix recordedPostgres firstMinuteProfile
              ⟨audit, []⟩⟩ :=
    bootHistorySnapshot_of_history auditFits empty_outboxFits folded
      validated kept
  rw [taken, kept, outbox, digested]
  rfl

theorem firstMinute_snapshot :
    bootHistorySnapshot recordedPostgres firstMinuteProfile promptClock
        firstMinuteDatabase =
      .ok firstMinuteSnapshot :=
  barSnapshot_eq_ok firstMinute_auditFits
    (dict_eq_ok_of_entries (by decide)) (by decide) rfl
    sortedDigest_firstMinute

theorem twoMinute_subset :
    twoMinuteDatabase.audit ⊆ barDigests.map Prod.fst := by
  intro row member
  rcases List.mem_flatMap.1 member with ⟨symbol, inSymbols, inChain⟩
  rcases List.mem_map.1 inChain with ⟨openTime, inMinutes, rfl⟩
  have times :
      chain minute (recordedMinute 0) 2 =
        [recordedMinute 0, recordedMinute 1] :=
    rfl
  simp only [times, List.mem_cons, List.not_mem_nil, or_false] at inMinutes
  simp only [symbols, List.mem_cons, List.not_mem_nil, or_false]
    at inSymbols
  rcases inSymbols with rfl | rfl | rfl | rfl | rfl
  all_goals
    rcases inMinutes with rfl | rfl
    all_goals simp [barDigests]

theorem sortedDigest_twoMinutes :
    sortedDigest recordedPostgres.sha256 barText twoMinuteDatabase.audit =
      twoMinuteSnapshot.audit.sha256 := by
  have digests := rowHashes_subset twoMinute_subset
  have count :
      (rowHashes recordedPostgres.sha256 barText
          twoMinuteDatabase.audit).length =
        10 := by
    rw [(rowHashes_perm _).length_eq, List.length_map]
    rfl
  have pieces :
      rowHashes recordedPostgres.sha256 barText twoMinuteDatabase.audit ≠
        [] := by
    intro empty
    rw [empty] at count
    exact absurd count (by decide)
  have longer :
      joinedHashes recordedPostgres.sha256 barText
          twoMinuteDatabase.audit ≠
        firstMinuteHashes := by
    intro same
    have lengths := congrArg (fun text => text.toList.length) same
    rw [length_firstMinuteHashes, joinedHashes, length_join digests, count]
      at lengths
    exact absurd lengths (by decide)
  rw [sortedDigest, recordedPostgres_hex]
  exact (recordedHex_join digests pieces).trans (if_neg longer)

theorem twoMinute_snapshot :
    bootHistorySnapshot recordedPostgres firstMinuteProfile promptClock
        twoMinuteDatabase =
      .ok twoMinuteSnapshot :=
  barSnapshot_eq_ok (by unfold FitsBudget; decide +kernel)
    (dict_eq_ok_of_entries (by decide)) (by decide) rfl
    sortedDigest_twoMinutes

/-- The first snapshot's rows are the ones that the query cuts off. -/
theorem cutoffRows_twoMinutes :
    cutoffRows (cutoffsOf firstMinuteExpected.anchors)
        twoMinuteDatabase.audit =
      firstMinuteDatabase.audit :=
  rfl

/-- The hash separates the recorded texts. -/
theorem separates_recordedHex :
    Separates recordedHex
      (firstMinuteHashes :: barDigests.map fun entry =>
        barText entry.1) := by
  have values :
      (firstMinuteHashes :: barDigests.map fun entry =>
          barText entry.1).map recordedHex =
        "1b026e9bed75ce942b549fb78585f325a6e5c0a22ccd38a6906bc04c7a326c1e" ::
          barDigests.map Prod.snd := by
    rw [List.map_cons, recordedHex_firstMinuteHashes, List.map_map]
    refine congrArg _ (List.map_congr_left ?_)
    intro entry listed
    rw [Function.comp_apply, recordedHex_barText listed]
  have distinct :
      ("1b026e9bed75ce942b549fb78585f325a6e5c0a22ccd38a6906bc04c7a326c1e" ::
        barDigests.map Prod.snd).Nodup := by
    simp [barDigests]
  rw [← values] at distinct
  intro one oneMember other otherMember same
  exact List.inj_on_of_nodup_map distinct oneMember otherMember same

theorem separates_barText : Separates barText (barDigests.map Prod.fst) := by
  intro one oneMember other otherMember same
  rcases List.mem_map.1 oneMember with ⟨oneEntry, oneListed, rfl⟩
  rcases List.mem_map.1 otherMember with ⟨otherEntry, otherListed, rfl⟩
  rw [eq_of_barText_eq oneListed otherListed same]

theorem firstMinute_subset :
    firstMinuteDatabase.audit ⊆ barDigests.map Prod.fst := by
  intro row member
  have listed : row ∈ (barDigests.take 5).map Prod.fst := member
  rw [List.map_take] at listed
  exact List.mem_of_mem_take listed

theorem hashedTexts_firstMinute :
    hashedTexts recordedPostgres.sha256 barText firstMinuteDatabase.audit ⊆
      firstMinuteHashes :: barDigests.map fun entry => barText entry.1 := by
  rw [hashedTexts, joinedHashes_firstMinute]
  refine List.cons_subset_cons _ ?_
  intro text member
  rcases List.mem_map.1 member with ⟨row, inRows, rfl⟩
  rcases List.mem_map.1 (firstMinute_subset inRows) with
    ⟨entry, listed, rfl⟩
  exact List.mem_map_of_mem listed

theorem oneMinute_collisionFree :
    CollisionFree recordedPostgres oneMinuteObserved.before
      oneMinuteObserved.after firstMinuteExpected.anchors := by
  constructor
  case auditTexts =>
    have cut :
        cutoffRows (cutoffsOf firstMinuteExpected.anchors)
            oneMinuteObserved.after.audit =
          firstMinuteDatabase.audit :=
      cutoffRows_twoMinutes
    rw [cut, recordedPostgres_hex]
    refine separates_recordedHex.mono ?_
    exact
      List.append_subset.2
        ⟨hashedTexts_firstMinute, hashedTexts_firstMinute⟩
  case auditRows =>
    refine separates_barText.mono ?_
    exact List.append_subset.2 ⟨firstMinute_subset, twoMinute_subset⟩
  case outboxTexts =>
    intro one oneMember other otherMember _
    have texts :
        hashedTexts recordedPostgres.sha256 recordedPostgres.outboxText [] =
          [""] :=
      rfl
    change one ∈ hashedTexts _ _ [] ++ hashedTexts _ _ [] at oneMember
    change other ∈ hashedTexts _ _ [] ++ hashedTexts _ _ [] at otherMember
    rw [texts, List.mem_append, or_self, List.mem_singleton]
      at oneMember otherMember
    rw [oneMember, otherMember]
  case outboxRows =>
    exact fun _ member => absurd member List.not_mem_nil

theorem oneMinute_prefix :
    validateBootAuditPrefix recordedPostgres twoMinuteDatabase.audit
        firstMinuteExpected =
      .ok () := by
  have text : recordedPostgres.auditText = barText := rfl
  simp only [validateBootAuditPrefix, bind_eq_ok_iff, refuseIf_eq_ok_iff,
    exists_const, cutoffRows_twoMinutes, text, sortedDigest_firstMinute]
  exact ⟨by decide, not_not_intro rfl⟩

/-- One more minute after the first one is an accepted catch-up. -/
theorem recover_boot_appends_missing_oneMinute :
    (∃ result,
      recover recordedPostgres minuteBarModel firstMinuteProfile
          oneMinuteObserved false (recordedMinute 2)
          (some firstMinuteExpected) =
        .ok result) ∧
      AppendsMissing firstMinuteDatabase twoMinuteDatabase
        (recordedMinute 2) := by
  have before :
      bootBefore recordedPostgres firstMinuteProfile oneMinuteObserved
          firstMinuteExpected =
        .ok firstMinuteSnapshot := by
    simp only [bootBefore, bind_eq_ok_iff, refuseIf_eq_ok_iff,
      exists_const, pure_eq_ok_iff]
    exact
      ⟨firstMinuteSnapshot, firstMinute_snapshot, by decide, rfl⟩
  have totals :
      appendMissing minuteBarModel oneMinuteObserved false
          (recordedMinute 2) =
        .ok (fiveTimes 1) :=
    dict_eq_ok_of_entries (by decide)
  have after :
      bootAfter recordedPostgres firstMinuteProfile oneMinuteObserved
          firstMinuteExpected firstMinuteSnapshot (fiveTimes 1)
          (recordedMinute 2) =
        .ok twoMinuteSnapshot := by
    simp only [bootAfter, bind_eq_ok_iff, refuseIf_eq_ok_iff,
      exists_const, pure_eq_ok_iff]
    exact
      ⟨twoMinuteSnapshot, twoMinute_snapshot, (), oneMinute_prefix,
        by decide, rfl⟩
  have accepted :
      ∃ result,
        recover recordedPostgres minuteBarModel firstMinuteProfile
            oneMinuteObserved false (recordedMinute 2)
            (some firstMinuteExpected) =
          .ok result := by
    simp only [recover, bind_eq_ok_iff, refuseIf_eq_ok_iff, exists_const,
      pure_eq_ok_iff]
    exact
      ⟨_, by decide, by decide, _, before, _, totals, _, after, rfl⟩
  refine ⟨accepted, ?_⟩
  rcases accepted with ⟨result, succeeded⟩
  exact
    recover_boot_appends_missing recordedPostgres minuteBarModel
      firstMinuteProfile oneMinuteObserved false (recordedMinute 2)
      firstMinuteExpected result oneMinute_collisionFree
      (alignedBars_barTable 2 (by decide)) succeeded

end KairosDeploy.Epoch.BootCatchup
