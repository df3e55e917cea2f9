import KairosDeploy.Library.ArithmeticChain
import KairosDeploy.Library.SortedDigest
import KairosDeploy.Library.TextBytes
import KairosDeploy.Epoch.AuditAnchors

/-!
# The history snapshot of a booting epoch

`boot_history_snapshot` never looks at the rows of `event_audit`.  It asks the
database for a digest and a row count, for four aggregates per symbol and for
the digest of the original prefix, and `validate_history_snapshot` compares
them.  This module translates both and proves which tables they accept: the
ones that consist of five gap-free chains and of nothing else.
-/

namespace KairosDeploy.Epoch.HistorySnapshot

open KairosDeploy.Library.Refusal
open KairosDeploy.Library.ArithmeticChain
open KairosDeploy.Library.SortedDigest
open KairosDeploy.Library.TextBytes
open KairosDeploy.Epoch.Contract
open KairosDeploy.Epoch.AuditAnchors

/-- What a snapshot raises: an error of its own, or one of Python's. -/
inductive SnapshotError where
  | epoch (error : EpochError)
  | worker (message : String)
  | python (exception : String)
deriving DecidableEq, Repr

/-! ## Table digests -/

/-- `MAX_ROWS` of the digest budget. -/
def maxRows : Nat := 1000000

/-- `MAX_BYTES` of the digest budget. -/
def maxBytes : Nat := 1024 * 1024 * 1024

/-- `MAX_SECONDS` of the digest budget. -/
def maxSeconds : Rat := 300

/-- `Budget`: what earlier digests have used. -/
structure Budget where
  rows : Nat
  bytes : Nat
deriving DecidableEq, Repr

/-- `Budget()`. -/
def Budget.fresh : Budget := ⟨0, 0⟩

/-- The count and the digest of one table. -/
structure TableDigest where
  count : Nat
  sha256 : String
deriving DecidableEq, Repr

section Digests

variable {Row : Type}

/-- `sum(row_bytes)`. -/
def tableBytes (text : Row → String) (rows : List Row) : Nat :=
  (rows.map fun row => (text row).utf8ByteSize).sum

/--
`_table_digest`, `seconds` after its budget was created.  The shape that it
requires of its own query's result is the one that the query builds.
-/
def tableDigest
    (hash : FixedHash) (text : Row → String) (budget : Budget)
    (seconds : Rat) (rows : List Row) :
    Except SnapshotError (TableDigest × Budget) := do
  let used : Budget :=
    ⟨budget.rows + rows.length, budget.bytes + tableBytes text rows⟩
  refuseIf
    (used.rows > maxRows ∨ used.bytes > maxBytes ∨ seconds > maxSeconds)
    (.worker "full-history snapshot exceeded its fixed bound")
  return (⟨rows.length, sortedDigest hash text rows⟩, used)

/-- A table that fits a fresh budget. -/
def FitsBudget
    (text : Row → String) (seconds : Rat) (rows : List Row) : Prop :=
  rows.length ≤ maxRows ∧ tableBytes text rows ≤ maxBytes ∧
    seconds ≤ maxSeconds

theorem tableDigest_fresh_eq_ok_iff
    {hash : FixedHash} {text : Row → String} {seconds : Rat}
    {rows : List Row} {result : TableDigest × Budget} :
    tableDigest hash text .fresh seconds rows = .ok result ↔
      FitsBudget text seconds rows ∧
        result =
          (⟨rows.length, sortedDigest hash text rows⟩,
            ⟨rows.length, tableBytes text rows⟩) := by
  simp only [tableDigest, Budget.fresh, bind_eq_ok_iff, refuseIf_eq_ok_iff,
    exists_const, pure_eq_ok_iff, not_or, not_lt, gt_iff_lt, Nat.zero_add,
    FitsBudget]
  exact and_congr_right fun _ => eq_comm

end Digests

/-! ## The original prefix -/

/-- The recorded or expected original prefix of the audit table. -/
structure OriginalPrefix where
  rows : Nat
  auditTableSha256 : String
  lastOpenTimeMs : Int
  digestScope : Option String
deriving DecidableEq, Repr

/-- The part of a schema profile that the snapshot depends on. -/
structure EpochProfile where
  currentControlled : Bool
  originalPrefix : OriginalPrefix
deriving DecidableEq, Repr

/-! ## Anchors of a history -/

/-- The four numbers recorded for one symbol. -/
structure HistoryAnchor where
  count : Int
  firstOpenTimeMs : Int
  lastOpenTimeMs : Int
  lastCloseTimeMs : Int
deriving DecidableEq, Repr

/-- The numbers of a chain without gaps. -/
def HistoryAnchor.Exact (anchor : HistoryAnchor) : Prop :=
  0 < anchor.count ∧ 0 ≤ anchor.firstOpenTimeMs ∧
    anchor.firstOpenTimeMs % minute = 0 ∧
    anchor.lastOpenTimeMs - anchor.firstOpenTimeMs =
      (anchor.count - 1) * minute ∧
    anchor.lastCloseTimeMs = anchor.lastOpenTimeMs + minute - 1

instance (anchor : HistoryAnchor) : Decidable anchor.Exact :=
  inferInstanceAs (Decidable (_ ∧ _))

/-- The count that one symbol contributes, once its anchor is exact. -/
def exactCount
    (actual expected : Dict HistoryAnchor) (symbol : String) :
    Except EpochError Int :=
  match expected.lookup symbol with
  | none => .error ⟨"EXACT_EXPECTED_HISTORY_SNAPSHOT_REQUIRED"⟩
  | some anchor => do
      refuseIf (¬ anchor.Exact ∨ actual.lookup symbol ≠ some anchor)
        ⟨"EXACT_EXPECTED_HISTORY_SNAPSHOT_REQUIRED"⟩
      return anchor.count

/-- `validate_history_snapshot`. -/
def validateHistorySnapshot
    (auditCount : Int) (actual : Dict HistoryAnchor)
    (expectedSeed : Option (Dict HistoryAnchor)) :
    Except EpochError Unit :=
  match expectedSeed with
  | none => .error ⟨"EXPECTED_FIVE_SYMBOL_HISTORY_REQUIRED"⟩
  | some expected => do
      refuseIf (¬ FiveSymbols expected)
        ⟨"EXPECTED_FIVE_SYMBOL_HISTORY_REQUIRED"⟩
      refuseIf (¬ FiveSymbols actual)
        ⟨"EXACT_EXPECTED_HISTORY_SNAPSHOT_REQUIRED"⟩
      let total ←
        symbols.foldlM
          (fun total symbol => do
            let count ← exactCount actual expected symbol
            return total + count)
          0
      refuseIf (auditCount ≠ total)
        ⟨"EXTRA_OR_MISSING_EPOCH_AUDIT_HISTORY"⟩

/-! ## The snapshot -/

/-- The two tables that the snapshot reads. -/
structure Database (OutboxRow : Type) where
  audit : List AuditRow
  outbox : List OutboxRow

/-- The functions of the database server that the queries call. -/
structure Postgres (OutboxRow : Type) where
  sha256 : FixedHash
  auditText : AuditRow → String
  auditTextWithoutPersistedAt : AuditRow → String
  outboxText : OutboxRow → String

/-- The age of each of the two budgets when it is checked. -/
structure SnapshotClock where
  audit : Rat
  outbox : Rat

/-- What `boot_history_snapshot` returns. -/
structure BootHistory where
  audit : TableDigest
  outbox : TableDigest
  anchors : Dict HistoryAnchor
  originalPrefix : OriginalPrefix
deriving DecidableEq

section Snapshot

variable {OutboxRow : Type} (postgres : Postgres OutboxRow)
    (profile : EpochProfile) (clock : SnapshotClock)
    (database : Database OutboxRow)

/-- The rows of `original_prefix_digest_sql`. -/
def originalPrefixRows (lastOpen : Int) (audit : List AuditRow) :
    List AuditRow :=
  audit.filter fun row =>
    match row.payload.openTimeMs with
    | none => false
    | some openTime => openTime ≤ lastOpen

/-- The original prefix as it is in the database. -/
def recordedPrefix : OriginalPrefix :=
  let rows :=
    originalPrefixRows profile.originalPrefix.lastOpenTimeMs database.audit
  let text :=
    if profile.currentControlled then
      postgres.auditTextWithoutPersistedAt
    else
      postgres.auditText
  { profile.originalPrefix with
    rows := rows.length
    auditTableSha256 := sortedDigest postgres.sha256 text rows }

/-- The anchor of one symbol. -/
def bootAnchor (audit : List AuditRow) (symbol : String) :
    Except SnapshotError HistoryAnchor := do
  let stats := chainStats audit symbol
  refuseIf (stats.n = 0 ∨ stats.n ≠ stats.u)
    (.epoch ⟨"BOOT_HISTORY_UNIQUE_CHAIN_REQUIRED"⟩)
  match stats.lo, stats.hi with
  | some lo, some hi => return ⟨stats.n, lo, hi, hi + minute - 1⟩
  | _, _ => .error (.python "TypeError")

/-- `boot_history_snapshot`. -/
def bootHistorySnapshot : Except SnapshotError BootHistory := do
  let (audit, _) ←
    tableDigest postgres.sha256 postgres.auditText .fresh clock.audit
      database.audit
  let (outbox, _) ←
    tableDigest postgres.sha256 postgres.outboxText .fresh clock.outbox
      database.outbox
  let history ←
    symbols.foldlM
      (fun history symbol => do
        let anchor ← bootAnchor database.audit symbol
        return history.insert symbol anchor)
      ∅
  (validateHistorySnapshot audit.count history (some history)).mapError
    .epoch
  let originalPrefix := recordedPrefix postgres profile database
  refuseIf (originalPrefix ≠ profile.originalPrefix)
    (.epoch ⟨"BOOT_ORIGINAL_PREFIX_CONFLICT"⟩)
  return ⟨audit, outbox, history, originalPrefix⟩

end Snapshot

/-! ## What the checks establish -/

section Checks

variable {audit : List AuditRow} {symbol : String}

theorem bootAnchor_eq_ok_iff {anchor : HistoryAnchor} :
    bootAnchor audit symbol = .ok anchor ↔
      (chainStats audit symbol).n ≠ 0 ∧
        (chainStats audit symbol).n = (chainStats audit symbol).u ∧
        ∃ lo hi,
          (chainStats audit symbol).lo = some lo ∧
            (chainStats audit symbol).hi = some hi ∧
            anchor =
              ⟨(chainStats audit symbol).n, lo, hi, hi + minute - 1⟩ := by
  simp only [bootAnchor, bind_eq_ok_iff, refuseIf_eq_ok_iff, exists_const,
    not_or, not_not, and_assoc]
  refine and_congr_right fun _ => and_congr_right fun _ => ?_
  constructor
  · intro read
    split at read
    · rename_i lo hi loFound hiFound
      rw [pure_eq_ok_iff] at read
      exact ⟨lo, hi, loFound, hiFound, read.symm⟩
    · cases read
  · rintro ⟨lo, hi, loFound, hiFound, rfl⟩
    rw [loFound, hiFound]
    rfl

theorem exactCount_self_eq_ok_iff
    {history : Dict HistoryAnchor} {count : Int} :
    exactCount history history symbol = .ok count ↔
      ∃ anchor,
        history.lookup symbol = some anchor ∧ anchor.Exact ∧
          count = anchor.count := by
  unfold exactCount
  split
  · rename_i missing
    simp [missing]
  · rename_i anchor found
    simp only [bind_eq_ok_iff, refuseIf_eq_ok_iff, exists_const,
      pure_eq_ok_iff, found, not_or, not_not, and_true, ne_eq,
      Option.some.injEq, exists_eq_left']
    exact and_congr_right fun _ => eq_comm

/-- A history is compared with itself by its own numbers only. -/
theorem validateHistorySnapshot_self_eq_ok_iff
    {history : Dict HistoryAnchor} {total : Int} {counts : String → Int}
    (counted :
      ∀ symbol ∈ symbols, ∀ anchor,
        history.lookup symbol = some anchor →
          anchor.count = counts symbol) :
    validateHistorySnapshot total history (some history) = .ok () ↔
      FiveSymbols history ∧
        (∀ symbol ∈ symbols,
          ∃ anchor,
            history.lookup symbol = some anchor ∧ anchor.Exact) ∧
        total = (symbols.map counts).sum := by
  simp only [validateHistorySnapshot, bind_eq_ok_iff, refuseIf_eq_ok_iff,
    exists_const, not_not, foldlM_add_eq_ok_iff, ne_eq]
  have each
      (exact :
        ∀ symbol ∈ symbols,
          ∃ anchor,
            history.lookup symbol = some anchor ∧ anchor.Exact) :
      symbols.mapM (exactCount history history) =
        .ok (symbols.map counts) := by
    refine mapM_eq_ok_of_forall ?_
    intro symbol member
    rcases exact symbol member with ⟨anchor, found, anchorExact⟩
    exact
      exactCount_self_eq_ok_iff.2
        ⟨anchor, found, anchorExact, (counted symbol member _ found).symm⟩
  constructor
  · rintro ⟨five, _, _, ⟨values, mapped, rfl⟩, equal⟩
    have exact :
        ∀ symbol ∈ symbols,
          ∃ anchor,
            history.lookup symbol = some anchor ∧ anchor.Exact := by
      intro symbol member
      rcases mapM_eq_ok_exists mapped member with ⟨count, read⟩
      rcases exactCount_self_eq_ok_iff.1 read with
        ⟨anchor, found, anchorExact, _⟩
      exact ⟨anchor, found, anchorExact⟩
    rw [each exact, Except.ok.injEq] at mapped
    refine ⟨five, exact, ?_⟩
    rw [equal, mapped, Int.zero_add]
  · rintro ⟨five, exact, equal⟩
    exact
      ⟨five, five, _, ⟨_, each exact, rfl⟩, by rw [equal, Int.zero_add]⟩

end Checks

/-! ## Chains -/

/-- Every minute from `first` on, up to an exclusive end. -/
def minutes (first endExclusive : Int) : List Int :=
  chain minute first ((endExclusive - first) / minute).toNat

/-- The open times of the rows of one symbol, absent where a row has none. -/
def openColumn (audit : List AuditRow) (symbol : String) :
    List (Option Int) :=
  (symbolRows audit symbol).map fun row => row.payload.openTimeMs

/--
The rows of one symbol are one row for every minute from `first` to `last`.
-/
structure IsChain
    (audit : List AuditRow) (symbol : String) (first last : Int) :
    Prop where
  ordered : first ≤ last
  spaced : minute ∣ last - first
  everyMinute :
    (openColumn audit symbol).Perm
      ((minutes first (last + minute)).map some)

/-- The table is five chains, one for each symbol, and nothing else. -/
structure FiveChains
    (audit : List AuditRow) (first last : String → Int) : Prop where
  onlyBars :
    ∀ row ∈ audit, ∃ symbol ∈ symbols, row ∈ symbolRows audit symbol
  chains :
    ∀ symbol ∈ symbols,
      IsChain audit symbol (first symbol) (last symbol)

/-- Rows of the closed-bar topic open on a minute. -/
def AlignedBars (audit : List AuditRow) : Prop :=
  ∀ row ∈ audit,
    row.topic = topic →
      ∃ openTime,
        row.payload.openTimeMs = some openTime ∧ minute ∣ openTime

section Chains

variable {audit : List AuditRow} {symbol : String} {first last : Int}

theorem minute_pos : 0 < minute := by
  decide

/-- As many minutes as fit. -/
theorem minutes_eq_chain (first : Int) (count : Nat) :
    minutes first (first + count * minute) = chain minute first count := by
  have divided : (first + count * minute - first) / minute = count := by
    rw [add_sub_cancel_left]
    exact Int.mul_ediv_cancel _ minute_pos.ne'
  rw [minutes, divided, Int.toNat_natCast]

/-- A distance of whole minutes. -/
theorem exists_count_of_dvd
    {start ending : Int} (ordered : start ≤ ending)
    (spaced : minute ∣ ending - start) :
    ∃ count : Nat, ending = start + count * minute := by
  rcases spaced with ⟨quotient, distance⟩
  have scaled : 0 ≤ minute * quotient := by omega
  have nonnegative : 0 ≤ quotient :=
    nonneg_of_mul_nonneg_right scaled minute_pos
  refine ⟨quotient.toNat, ?_⟩
  rw [Int.toNat_of_nonneg nonnegative, mul_comm]
  omega

/-- Rows that all open at some time, and the times alone. -/
theorem openColumn_eq_map_openTimes
    (opened :
      ∀ row ∈ symbolRows audit symbol,
        ∃ openTime, row.payload.openTimeMs = some openTime) :
    openColumn audit symbol =
      (openTimes (symbolRows audit symbol)).map some := by
  unfold openColumn openTimes
  generalize symbolRows audit symbol = rows at opened ⊢
  induction rows with
  | nil => rfl
  | cons row rest induction =>
      rcases opened row List.mem_cons_self with ⟨openTime, found⟩
      have tail :=
        induction fun other member =>
          opened other (List.mem_cons_of_mem _ member)
      rw [List.map_cons, List.filterMap_cons, found, tail]
      rfl

/-- A chain, seen through the values of its open times. -/
theorem IsChain.openTimes_perm (chain_ : IsChain audit symbol first last) :
    (openTimes (symbolRows audit symbol)).Perm
      (minutes first (last + minute)) := by
  have values := chain_.everyMinute.filterMap id
  have column :
      (openColumn audit symbol).filterMap id =
        openTimes (symbolRows audit symbol) := by
    simp [openColumn, openTimes, List.filterMap_map]
  rw [column] at values
  simpa [List.filterMap_map] using values

theorem IsChain.minutes_eq
    (chain_ : IsChain audit symbol first last) :
    ∃ before : Nat,
      last = first + before * minute ∧
        minutes first (last + minute) = chain minute first (before + 1) := by
  rcases exists_count_of_dvd chain_.ordered chain_.spaced with
    ⟨before, lastEq⟩
  refine ⟨before, lastEq, ?_⟩
  rw [← minutes_eq_chain, lastEq]
  congr 1
  push_cast
  ring

/-- The first minute of a chain of aligned bars is aligned. -/
theorem IsChain.first_aligned
    (chain_ : IsChain audit symbol first last)
    (aligned : AlignedBars audit) : minute ∣ first := by
  rcases chain_.minutes_eq with ⟨before, _, asChain⟩
  have member : first ∈ openTimes (symbolRows audit symbol) := by
    rw [chain_.openTimes_perm.mem_iff, asChain]
    exact
      (List.min?_eq_some_iff.1
        (chain_min? minute_pos (Nat.succ_ne_zero before))).1
  rcases List.mem_filterMap.1 member with ⟨row, rowMember, found⟩
  rcases mem_symbolRows_iff.1 rowMember with ⟨inAudit, sameTopic, _⟩
  rcases aligned row inAudit sameTopic with ⟨openTime, opened, divides⟩
  rw [found, Option.some.injEq] at opened
  rw [opened]
  exact divides

/-- The aggregates of a chain are those of its anchor. -/
theorem IsChain.bootAnchor_eq_ok
    (chain_ : IsChain audit symbol first last) :
    ∃ anchor,
      bootAnchor audit symbol = .ok anchor ∧ 0 < anchor.count ∧
        anchor.firstOpenTimeMs = first ∧ anchor.lastOpenTimeMs = last ∧
        last - first = (anchor.count - 1) * minute ∧
        anchor.lastCloseTimeMs = last + minute - 1 := by
  rcases chain_.minutes_eq with ⟨before, lastEq, asChain⟩
  have perm := chain_.openTimes_perm
  rw [asChain] at perm
  have nodup : (openTimes (symbolRows audit symbol)).Nodup :=
    perm.nodup_iff.2 (chain_nodup minute_pos)
  have rowCount : (symbolRows audit symbol).length = before + 1 := by
    have length := chain_.everyMinute.length_eq
    simpa [openColumn, asChain] using length
  have distinct :
      (chainStats audit symbol).n = (chainStats audit symbol).u := by
    change
      (symbolRows audit symbol).length =
        (openTimes (symbolRows audit symbol)).dedup.length
    rw [nodup.dedup, perm.length_eq, length_chain, rowCount]
  have lo : (chainStats audit symbol).lo = some first := by
    have minimum : (chain minute first (before + 1)).min? = some first :=
      chain_min? minute_pos (Nat.succ_ne_zero before)
    rw [List.min?_eq_some_iff] at minimum
    refine List.min?_eq_some_iff.2 ⟨perm.mem_iff.2 minimum.1, ?_⟩
    exact fun value member => minimum.2 value (perm.mem_iff.1 member)
  have hi : (chainStats audit symbol).hi = some last := by
    have maximum :
        (chain minute first (before + 1)).max? = some last := by
      rw [chain_max? minute_pos (Nat.succ_ne_zero before), lastEq]
      push_cast
      ring_nf
    rw [List.max?_eq_some_iff] at maximum
    refine List.max?_eq_some_iff.2 ⟨perm.mem_iff.2 maximum.1, ?_⟩
    exact fun value member => maximum.2 value (perm.mem_iff.1 member)
  have countEq : (chainStats audit symbol).n = before + 1 := rowCount
  refine
    ⟨_,
      bootAnchor_eq_ok_iff.2
        ⟨by omega, distinct, first, last, lo, hi, rfl⟩,
      ?_, rfl, rfl, ?_, rfl⟩
  · change (0 : Int) < ((chainStats audit symbol).n : Nat)
    omega
  · change
      last - first = (((chainStats audit symbol).n : Nat) - 1) * minute
    rw [countEq, lastEq]
    push_cast
    ring

/-- Aggregates that pass the checks come from a chain. -/
theorem isChain_of_bootAnchor
    (aligned : AlignedBars audit) {anchor : HistoryAnchor}
    (read : bootAnchor audit symbol = .ok anchor) (exact : anchor.Exact) :
    IsChain audit symbol anchor.firstOpenTimeMs anchor.lastOpenTimeMs := by
  rcases bootAnchor_eq_ok_iff.1 read with
    ⟨nonempty, distinct, lo, hi, loFound, hiFound, rfl⟩
  rcases exact with ⟨_, _, _, span, _⟩
  have opened :
      ∀ row ∈ symbolRows audit symbol,
        ∃ openTime,
          row.payload.openTimeMs = some openTime ∧ minute ∣ openTime := by
    intro row member
    rcases mem_symbolRows_iff.1 member with ⟨inAudit, sameTopic, _⟩
    exact aligned row inAudit sameTopic
  have column :=
    openColumn_eq_map_openTimes fun row member =>
      (opened row member).imp fun _ found => found.1
  have rowCount :
      (symbolRows audit symbol).length =
        (openTimes (symbolRows audit symbol)).length := by
    have lengths := congrArg List.length column
    simpa [openColumn] using lengths
  have nodup : (openTimes (symbolRows audit symbol)).Nodup := by
    rw [← List.dedup_eq_self]
    refine (List.dedup_sublist _).eq_of_length ?_
    rw [← rowCount]
    exact distinct.symm
  have timesAligned :
      ∀ openTime ∈ openTimes (symbolRows audit symbol),
        minute ∣ openTime := by
    intro openTime member
    rcases List.mem_filterMap.1 member with ⟨row, rowMember, found⟩
    rcases opened row rowMember with ⟨other, otherFound, divides⟩
    rw [found, Option.some.injEq] at otherFound
    rw [otherFound]
    exact divides
  have loAligned : minute ∣ lo :=
    timesAligned lo (List.min?_eq_some_iff.1 loFound).1
  have hiAligned : minute ∣ hi :=
    timesAligned hi (List.max?_eq_some_iff.1 hiFound).1
  have spanLength :
      hi - lo =
        (((openTimes (symbolRows audit symbol)).length : Int) - 1) *
          minute := by
    rw [← rowCount]
    exact span
  have perm :=
    perm_chain_of_aggregates minute_pos nodup
      (fun openTime member =>
        dvd_sub (timesAligned openTime member) loAligned)
      loFound hiFound spanLength
  refine ⟨?_, dvd_sub hiAligned loAligned, ?_⟩
  · exact
      (List.max?_eq_some_iff.1 hiFound).2 lo
        (List.min?_eq_some_iff.1 loFound).1
  · rw [column]
    refine List.Perm.map some (perm.trans (List.Perm.of_eq ?_))
    rw [← minutes_eq_chain]
    congr 1
    change
      lo + ((openTimes (symbolRows audit symbol)).length : Int) * minute =
        hi + minute
    have split :
        ((openTimes (symbolRows audit symbol)).length : Int) * minute =
          (((openTimes (symbolRows audit symbol)).length : Int) - 1) *
              minute +
            minute := by
      ring
    omega

end Chains

/-! ## Rows of no symbol -/

section Totals

variable {audit : List AuditRow}

/-- A row of the closed-bar topic, of the source and of one symbol. -/
def IsBarOf (symbol : String) (row : AuditRow) : Prop :=
  row.topic = topic ∧ row.source = source ∧
    row.payload.symbol = some symbol

instance (symbol : String) (row : AuditRow) :
    Decidable (IsBarOf symbol row) :=
  inferInstanceAs (Decidable (_ ∧ _))

theorem countP_or_of_disjoint
    {Item : Type} {left right : Item → Prop} [DecidablePred left]
    [DecidablePred right] (disjoint : ∀ item, left item → ¬ right item)
    (items : List Item) :
    (items.countP fun item => left item ∨ right item) =
      (items.countP fun item => left item) +
        items.countP fun item => right item := by
  induction items with
  | nil => rfl
  | cons item rest induction =>
      simp only [List.countP_cons, induction]
      by_cases inLeft : left item
      · simp [inLeft, disjoint item inLeft]
        omega
      · simp [inLeft]
        omega

/-- The rows that belong to one of some symbols are counted once. -/
theorem sum_length_symbolRows
    (audit : List AuditRow) {keys : List String} (distinct : keys.Nodup) :
    (keys.map fun symbol => (symbolRows audit symbol).length).sum =
      audit.countP fun row => ∃ symbol ∈ keys, IsBarOf symbol row := by
  induction keys with
  | nil => simp
  | cons head rest induction =>
      rw [List.nodup_cons] at distinct
      have disjoint :
          ∀ row,
            IsBarOf head row → ¬ ∃ symbol ∈ rest, IsBarOf symbol row := by
        rintro row ⟨_, _, isHead⟩ ⟨symbol, member, _, _, isSymbol⟩
        rw [isHead, Option.some.injEq] at isSymbol
        exact distinct.1 (isSymbol ▸ member)
      have headRows :
          (symbolRows audit head).length =
            audit.countP fun row => IsBarOf head row := by
        rw [List.countP_eq_length_filter]
        rfl
      rw [List.map_cons, List.sum_cons, induction distinct.2, headRows,
        ← countP_or_of_disjoint disjoint]
      simp only [List.mem_cons, exists_eq_or_imp]

/-- The symbols account for all rows exactly when every row has one. -/
theorem length_eq_sum_iff :
    (audit.length : Int) =
        (symbols.map fun symbol =>
          ((symbolRows audit symbol).length : Int)).sum ↔
      ∀ row ∈ audit, ∃ symbol ∈ symbols, row ∈ symbolRows audit symbol := by
  have cast :
      (symbols.map fun symbol =>
          ((symbolRows audit symbol).length : Int)).sum =
        ((symbols.map fun symbol =>
          (symbolRows audit symbol).length).sum : Nat) := by
    rw [Nat.cast_list_sum, List.map_map]
    rfl
  rw [cast, Nat.cast_inj, sum_length_symbolRows audit symbols_nodup,
    eq_comm, List.countP_eq_length]
  simp only [decide_eq_true_eq, mem_symbolRows_iff]
  constructor
  · intro bars row member
    rcases bars row member with ⟨symbol, symbolMember, bar⟩
    exact ⟨symbol, symbolMember, member, bar⟩
  · intro bars row member
    rcases bars row member with ⟨symbol, symbolMember, _, bar⟩
    exact ⟨symbol, symbolMember, bar⟩

end Totals

/-! ## Accepted tables -/

section Accepted

variable {OutboxRow : Type} {postgres : Postgres OutboxRow}
    {profile : EpochProfile} {clock : SnapshotClock}
    {database : Database OutboxRow}

/-- What an accepted snapshot establishes. -/
structure Taken
    (postgres : Postgres OutboxRow) (profile : EpochProfile)
    (clock : SnapshotClock) (database : Database OutboxRow)
    (snapshot : BootHistory) : Prop where
  auditFits : FitsBudget postgres.auditText clock.audit database.audit
  outboxFits : FitsBudget postgres.outboxText clock.outbox database.outbox
  audit :
    snapshot.audit =
      ⟨database.audit.length,
        sortedDigest postgres.sha256 postgres.auditText database.audit⟩
  outbox :
    snapshot.outbox =
      ⟨database.outbox.length,
        sortedDigest postgres.sha256 postgres.outboxText database.outbox⟩
  anchors :
    ∀ symbol ∈ symbols,
      ∃ anchor,
        bootAnchor database.audit symbol = .ok anchor ∧
          snapshot.anchors.lookup symbol = some anchor ∧ anchor.Exact
  onlyBars :
    ∀ row ∈ database.audit,
      ∃ symbol ∈ symbols, row ∈ symbolRows database.audit symbol
  prefixKept :
    recordedPrefix postgres profile database = profile.originalPrefix
  originalPrefix : snapshot.originalPrefix = profile.originalPrefix

/-- The counts that are read are the numbers of rows. -/
theorem counted_of_reads
    {audit : List AuditRow} {history : Dict HistoryAnchor}
    (reads :
      ∀ symbol ∈ symbols,
        ∃ anchor,
          bootAnchor audit symbol = .ok anchor ∧
            history.lookup symbol = some anchor) :
    ∀ symbol ∈ symbols, ∀ anchor,
      history.lookup symbol = some anchor →
        anchor.count = ((symbolRows audit symbol).length : Int) := by
  intro symbol member anchor found
  rcases reads symbol member with ⟨read, readOk, readFound⟩
  rw [found, Option.some.injEq] at readFound
  subst readFound
  rcases bootAnchor_eq_ok_iff.1 readOk with ⟨_, _, _, _, _, _, rfl⟩
  rfl

theorem bootHistorySnapshot_eq_ok
    {snapshot : BootHistory}
    (taken :
      bootHistorySnapshot postgres profile clock database =
        .ok snapshot) :
    Taken postgres profile clock database snapshot := by
  simp only [bootHistorySnapshot, bind_eq_ok_iff, refuseIf_eq_ok_iff,
    exists_const, pure_eq_ok_iff, Prod.exists, not_not, ne_eq,
    tableDigest_fresh_eq_ok_iff, mapError_eq_ok_iff, Prod.mk.injEq]
    at taken
  rcases taken with
    ⟨_, _, ⟨auditFits, rfl, rfl⟩, _, _, ⟨outboxFits, rfl, rfl⟩, history,
      folded, _, validated, kept, rfl⟩
  rcases foldlM_insert_eq_ok folded with ⟨_, reads, _⟩
  rcases
      (validateHistorySnapshot_self_eq_ok_iff (counted_of_reads reads)).1
        validated with
    ⟨_, exact, total⟩
  refine
    ⟨auditFits, outboxFits, rfl, rfl, ?_, length_eq_sum_iff.1 total, kept,
      kept⟩
  intro symbol member
  rcases reads symbol member with ⟨anchor, read, found⟩
  rcases exact symbol member with ⟨other, otherFound, anchorExact⟩
  rw [found, Option.some.injEq] at otherFound
  subst otherFound
  exact ⟨anchor, read, found, anchorExact⟩

/-- The snapshot of a table whose anchors are known. -/
theorem bootHistorySnapshot_of_history
    {history : Dict HistoryAnchor}
    (auditFits : FitsBudget postgres.auditText clock.audit database.audit)
    (outboxFits :
      FitsBudget postgres.outboxText clock.outbox database.outbox)
    (folded :
      symbols.foldlM
          (fun (history : Dict HistoryAnchor) symbol => do
            let anchor ← bootAnchor database.audit symbol
            return history.insert symbol anchor)
          ∅ =
        .ok history)
    (validated :
      validateHistorySnapshot database.audit.length history (some history) =
        .ok ())
    (prefixKept :
      recordedPrefix postgres profile database = profile.originalPrefix) :
    bootHistorySnapshot postgres profile clock database =
      .ok
        ⟨⟨database.audit.length,
            sortedDigest postgres.sha256 postgres.auditText database.audit⟩,
          ⟨database.outbox.length,
            sortedDigest postgres.sha256 postgres.outboxText
              database.outbox⟩,
          history, recordedPrefix postgres profile database⟩ := by
  simp only [bootHistorySnapshot, bind_eq_ok_iff, refuseIf_eq_ok_iff,
    exists_const, pure_eq_ok_iff, Prod.exists, not_not, ne_eq,
    tableDigest_fresh_eq_ok_iff, mapError_eq_ok_iff, Prod.mk.injEq]
  exact
    ⟨_, _, ⟨auditFits, rfl, rfl⟩, _, _, ⟨outboxFits, rfl, rfl⟩, history,
      folded, (), validated, prefixKept, rfl⟩

/-- The checks are all that an accepted snapshot needs. -/
theorem bootHistorySnapshot_succeeds
    (auditFits : FitsBudget postgres.auditText clock.audit database.audit)
    (outboxFits :
      FitsBudget postgres.outboxText clock.outbox database.outbox)
    (anchors :
      ∀ symbol ∈ symbols,
        ∃ anchor,
          bootAnchor database.audit symbol = .ok anchor ∧ anchor.Exact)
    (onlyBars :
      ∀ row ∈ database.audit,
        ∃ symbol ∈ symbols, row ∈ symbolRows database.audit symbol)
    (prefixKept :
      recordedPrefix postgres profile database = profile.originalPrefix) :
    ∃ snapshot,
      bootHistorySnapshot postgres profile clock database =
        .ok snapshot := by
  rcases
      foldlM_insert_succeeds
        (fun symbol member => (anchors symbol member).imp fun _ => And.left)
        (∅ : Dict HistoryAnchor) with
    ⟨history, folded⟩
  rcases foldlM_insert_eq_ok folded with ⟨members, reads, _⟩
  have five : FiveSymbols history := fiveSymbols_of_members members
  have exact :
      ∀ symbol ∈ symbols,
        ∃ anchor,
          history.lookup symbol = some anchor ∧ anchor.Exact := by
    intro symbol member
    rcases anchors symbol member with ⟨anchor, read, anchorExact⟩
    rcases reads symbol member with ⟨other, otherRead, found⟩
    rw [read, Except.ok.injEq] at otherRead
    exact ⟨anchor, by rw [found, otherRead], anchorExact⟩
  have validated :
      validateHistorySnapshot database.audit.length history (some history) =
        .ok () :=
    (validateHistorySnapshot_self_eq_ok_iff (counted_of_reads reads)).2
      ⟨five, exact, length_eq_sum_iff.2 onlyBars⟩
  exact
    ⟨_,
      bootHistorySnapshot_of_history auditFits outboxFits folded validated
        prefixKept⟩

/-- A table that is too long for its digest is refused. -/
theorem bootHistorySnapshot_eq_error_of_length
    (tooLong : maxRows < database.audit.length) :
    bootHistorySnapshot postgres profile clock database =
      .error (.worker "full-history snapshot exceeded its fixed bound") := by
  have refused :
      tableDigest postgres.sha256 postgres.auditText .fresh clock.audit
          database.audit =
        .error
          (.worker "full-history snapshot exceeded its fixed bound") := by
    simp only [tableDigest, Budget.fresh, Nat.zero_add]
    rw [bind_eq_error_iff, refuseIf_eq_error_iff]
    exact Or.inl ⟨Or.inl tooLong, rfl⟩
  rw [bootHistorySnapshot, bind_eq_error_iff]
  exact Or.inl refused

/--
With bars that open on minutes, the snapshot accepts exactly the tables that
are five gap-free chains and nothing else, none of which starts before the
epoch of time, while the digests stay in their budgets and the original prefix
is the recorded one.
-/
theorem bootHistorySnapshot_accepts_iff
    (postgres : Postgres OutboxRow) (profile : EpochProfile)
    (clock : SnapshotClock) (database : Database OutboxRow)
    (aligned : AlignedBars database.audit) :
    (∃ snapshot,
        bootHistorySnapshot postgres profile clock database =
          .ok snapshot) ↔
      (∃ first last,
        FiveChains database.audit first last ∧
          ∀ symbol ∈ symbols, 0 ≤ first symbol) ∧
        FitsBudget postgres.auditText clock.audit database.audit ∧
        FitsBudget postgres.outboxText clock.outbox database.outbox ∧
        recordedPrefix postgres profile database =
          profile.originalPrefix := by
  constructor
  · rintro ⟨snapshot, accepted⟩
    have taken := bootHistorySnapshot_eq_ok accepted
    refine
      ⟨?_, taken.auditFits, taken.outboxFits, taken.prefixKept⟩
    have anchored :
        ∀ symbol,
          ∃ anchor : HistoryAnchor,
            symbol ∈ symbols →
              bootAnchor database.audit symbol = .ok anchor ∧
                anchor.Exact := by
      intro symbol
      by_cases member : symbol ∈ symbols
      · rcases taken.anchors symbol member with ⟨anchor, read, _, exact⟩
        exact ⟨anchor, fun _ => ⟨read, exact⟩⟩
      · exact ⟨⟨0, 0, 0, 0⟩, fun present => absurd present member⟩
    choose anchor anchorSpec using anchored
    refine
      ⟨fun symbol => (anchor symbol).firstOpenTimeMs,
        fun symbol => (anchor symbol).lastOpenTimeMs,
        ⟨taken.onlyBars, ?_⟩, ?_⟩
    · intro symbol member
      rcases anchorSpec symbol member with ⟨read, exact⟩
      exact isChain_of_bootAnchor aligned read exact
    · intro symbol member
      exact (anchorSpec symbol member).2.2.1
  · rintro
      ⟨⟨first, last, five, nonnegative⟩, auditFits, outboxFits, kept⟩
    refine
      bootHistorySnapshot_succeeds auditFits outboxFits ?_ five.onlyBars
        kept
    intro symbol member
    have chain_ := five.chains symbol member
    rcases chain_.bootAnchor_eq_ok with
      ⟨anchor, read, positive, firstEq, lastEq, span, close⟩
    refine ⟨anchor, read, positive, ?_, ?_, ?_, ?_⟩
    · rw [firstEq]
      exact nonnegative symbol member
    · rw [firstEq]
      exact Int.emod_eq_zero_of_dvd (chain_.first_aligned aligned)
    · rw [firstEq, lastEq]
      exact span
    · rw [lastEq]
      exact close

end Accepted

/-! ## Recorded tables -/

/-- The minute of the original prefix's last bar, and the ones after it. -/
def recordedMinute (index : Nat) : Int :=
  1789832580000 + index * minute

/-- A bar of one symbol. -/
def barAt (symbol : String) (openTime : Int) : AuditRow where
  messageId := symbol ++ "-" ++ toString openTime
  topic := topic
  source := source
  payload :=
    { messageId := some (symbol ++ "-" ++ toString openTime)
      symbol := some symbol
      openTimeMs := some openTime
      closeTimeMs := some (openTime + minute - 1)
      rest := "" }
  columns := ""

/-- All five symbols, minute after minute. -/
def barTable (first : Int) (count : Nat) : List AuditRow :=
  symbols.flatMap fun symbol =>
    (chain minute first count).map (barAt symbol)

theorem length_barTable (first : Int) (count : Nat) :
    (barTable first count).length = 5 * count := by
  simp [barTable, symbols]
  omega

theorem alignedBars_barTable
    {first : Int} (count : Nat) (aligned : minute ∣ first) :
    AlignedBars (barTable first count) := by
  intro row member _
  rcases List.mem_flatMap.1 member with ⟨symbol, _, inChain⟩
  rcases List.mem_map.1 inChain with ⟨openTime, inMinutes, rfl⟩
  refine ⟨openTime, rfl, ?_⟩
  have distance := ((mem_chain_iff minute_pos).1 inMinutes).1
  exact (Int.dvd_iff_dvd_of_dvd_sub distance).2 aligned

theorem symbolRows_bars (symbol other : String) (times : List Int) :
    symbolRows (times.map (barAt other)) symbol =
      if other = symbol then times.map (barAt symbol) else [] := by
  split_ifs with same
  · subst same
    refine List.filter_eq_self.2 ?_
    intro row member
    rcases List.mem_map.1 member with ⟨openTime, _, rfl⟩
    simp [barAt]
  · refine List.filter_eq_nil_iff.2 ?_
    intro row member
    rcases List.mem_map.1 member with ⟨openTime, _, rfl⟩
    simp [barAt, same]

theorem symbolRows_barTable
    {symbol : String} (member : symbol ∈ symbols) (first : Int)
    (count : Nat) :
    symbolRows (barTable first count) symbol =
      (chain minute first count).map (barAt symbol) := by
  have distributed :
      symbolRows (barTable first count) symbol =
        symbols.flatMap fun other =>
          symbolRows ((chain minute first count).map (barAt other))
            symbol :=
    List.filter_flatMap
  simp only [distributed, symbolRows_bars]
  simp only [symbols, List.mem_cons, List.not_mem_nil, or_false] at member
  rcases member with rfl | rfl | rfl | rfl | rfl
  all_goals simp [symbols]

/-- A table of bars is five chains. -/
theorem fiveChains_barTable (first : Int) (before : Nat) :
    FiveChains (barTable first (before + 1)) (fun _ => first)
      (fun _ => first + before * minute) := by
  constructor
  · intro row member
    rcases List.mem_flatMap.1 member with ⟨symbol, inSymbols, inChain⟩
    refine ⟨symbol, inSymbols, ?_⟩
    rw [symbolRows_barTable inSymbols]
    exact inChain
  · intro symbol member
    refine ⟨?_, ⟨before, by ring⟩, ?_⟩
    · have nonnegative : 0 ≤ (before : Int) * minute :=
        mul_nonneg (Int.natCast_nonneg before) minute_pos.le
      omega
    · have ending :
          first + before * minute + minute =
            first + ((before + 1 : Nat) : Int) * minute := by
        push_cast
        ring
      rw [openColumn, symbolRows_barTable member, List.map_map, ending,
        minutes_eq_chain]
      exact List.Perm.refl _

/-- `to_jsonb(t)::text` of such a bar. -/
def barText (row : AuditRow) : String :=
  "\x7b\"topic\": \"" ++ row.topic ++ "\", \"source\": \"" ++ row.source ++
    "\", \"payload\": \x7b\"symbol\": \"" ++ row.payload.symbol.getD "" ++
    "\", \"message_id\": \"" ++ row.payload.messageId.getD "" ++
    "\", \"open_time_ms\": " ++ toString (row.payload.openTimeMs.getD 0) ++
    ", \"close_time_ms\": " ++ toString (row.payload.closeTimeMs.getD 0) ++
    "\x7d, \"message_id\": \"" ++ row.messageId ++ "\"\x7d"

/-- The row hashes of two minutes of bars. -/
def barDigests : List (AuditRow × String) :=
  [(barAt "BTCUSDT" (recordedMinute 0),
      "8d85734ecf162b048128826de1d00dba42ce36763fd06bdd87cd03b21d3c55d0"),
    (barAt "ETHUSDT" (recordedMinute 0),
      "6f3a2568a326e222869b22ecbafc82181b5b4b0be0fdeb2cd6f744534ea76a73"),
    (barAt "SOLUSDT" (recordedMinute 0),
      "51fb4512154582af4bed9b1cd3a8a221d4cb29f1f4065b1a6f1bcf86eb8f109b"),
    (barAt "BNBUSDT" (recordedMinute 0),
      "af2811d0ee8f2bda133180b8f24cea80d72c7972e7f7cf4319bc3cd32c2f8f39"),
    (barAt "XRPUSDT" (recordedMinute 0),
      "635ba578331c9f062ce7d2621617918c5c30597deb97ef6bbbd1ab2bdcc2f4a5"),
    (barAt "BTCUSDT" (recordedMinute 1),
      "ebd5598c7f06bf212f28483e516cd395d42835177e7b01204317715975ea2fd8"),
    (barAt "ETHUSDT" (recordedMinute 1),
      "2dd65e33e77ef85bdbbd00251e70a2e07c592908fabd530743e744a9528b0d81"),
    (barAt "SOLUSDT" (recordedMinute 1),
      "dc202b9151d3c0058401fb9c12a83c94bb5264fcf9a8b29801e70b2113931853"),
    (barAt "BNBUSDT" (recordedMinute 1),
      "0982075767a30b6337bef787f09ebfa3f8bf7ca22078884d7c33e358486f167a"),
    (barAt "XRPUSDT" (recordedMinute 1),
      "4f5ce93d733fb9704c1891d71ccc4cda556af95860b6801f11cb9ff6053d83bf")]

/-- The concatenated row hashes of the first minute. -/
def firstMinuteHashes : String :=
  String.join
    (((barDigests.take 5).map Prod.snd).insertionSort (· ≤ ·))

/-- `sha256` on the texts that are hashed for these bars. -/
def recordedHex (text : String) : String :=
  match barDigests.find? fun entry => barText entry.1 = text with
  | some entry => entry.2
  | none =>
      if text = "" then
        "e3b0c44298fc1c149afbf4c8996fb92427ae41e4649b934ca495991b7852b855"
      else if text = firstMinuteHashes then
        "1b026e9bed75ce942b549fb78585f325a6e5c0a22ccd38a6906bc04c7a326c1e"
      else
        "46793c8681d13e965a988da014e1ed1cdac656dd8161aceb068ed1805c73c08f"

theorem length_barDigests :
    ∀ entry ∈ barDigests, entry.2.length = 64 := by
  simp only [barDigests, List.forall_mem_cons, List.not_mem_nil,
    false_implies, implies_true, and_true]
  and_intros
  all_goals exact String.length_ofList

theorem recordedHex_length (text : String) :
    (recordedHex text).length = 64 := by
  unfold recordedHex
  split
  · rename_i entry found
    exact length_barDigests entry (List.mem_of_find?_eq_some found)
  · split_ifs
    all_goals exact String.length_ofList

/-- The server of the recorded tables. -/
def recordedPostgres : Postgres String where
  sha256 := ⟨recordedHex, 64, recordedHex_length, by decide⟩
  auditText := barText
  auditTextWithoutPersistedAt := barText
  outboxText := id

/-- A profile whose original prefix is the first minute. -/
def firstMinuteProfile : EpochProfile where
  currentControlled := false
  originalPrefix :=
    { rows := 5
      auditTableSha256 :=
        "1b026e9bed75ce942b549fb78585f325a6e5c0a22ccd38a6906bc04c7a326c1e"
      lastOpenTimeMs := recordedMinute 0
      digestScope := none }

/-- Digests that take a second each. -/
def promptClock : SnapshotClock := ⟨1, 1⟩

/-- The first minute of all five symbols. -/
def firstMinuteDatabase : Database String where
  audit := barTable (recordedMinute 0) 1
  outbox := []

/-! ### The digests of recorded bars -/

/-- The text of a bar ends with its message id. -/
theorem messageId_of_barText_eq
    {one other : AuditRow}
    (sameLength : one.messageId.length = other.messageId.length)
    (same : barText one = barText other) :
    one.messageId = other.messageId := by
  unfold barText at same
  have lists := congrArg String.toList ((String.append_left_inj _).1 same)
  rw [String.toList_append, String.toList_append (t := other.messageId)]
    at lists
  rw [← String.length_toList, ← String.length_toList] at sameLength
  exact String.toList_inj.1 (List.append_inj' lists sameLength).2

theorem eq_of_barText_eq
    {one other : AuditRow × String} (oneListed : one ∈ barDigests)
    (otherListed : other ∈ barDigests)
    (same : barText one.1 = barText other.1) : one = other := by
  have lengths :
      ∀ entry ∈ barDigests, entry.1.messageId.length = 21 := by
    decide
  have distinct :
      (barDigests.map fun entry => entry.1.messageId).Nodup := by
    decide
  refine List.inj_on_of_nodup_map distinct oneListed otherListed ?_
  refine messageId_of_barText_eq ?_ same
  rw [lengths one oneListed, lengths other otherListed]

theorem recordedHex_barText
    {entry : AuditRow × String} (listed : entry ∈ barDigests) :
    recordedHex (barText entry.1) = entry.2 := by
  unfold recordedHex
  split
  · rename_i other found
    have same := List.find?_some found
    rw [decide_eq_true_eq] at same
    rw [eq_of_barText_eq (List.mem_of_find?_eq_some found) listed same]
  · rename_i missing
    rw [List.find?_eq_none] at missing
    exact absurd (decide_eq_true rfl) (missing entry listed)

/-- A bar ends with a brace, and row hashes have none. -/
theorem barText_ne_join
    (row : AuditRow) {pieces : List String}
    (digests : pieces ⊆ barDigests.map Prod.snd) :
    barText row ≠ String.join pieces := by
  have brace : '\x7d' ∈ (barText row).toList := by
    unfold barText
    exact mem_toList_append _ (by decide)
  have absent : ∀ entry ∈ barDigests, '\x7d' ∉ entry.2.toList := by
    simp only [barDigests, List.forall_mem_cons, List.not_mem_nil,
      false_implies, implies_true, and_true]
    and_intros
    all_goals exact notMem_toList (by decide)
  intro same
  rw [same, String.toList_join, List.mem_flatMap] at brace
  rcases brace with ⟨piece, inPieces, inPiece⟩
  rcases List.mem_map.1 (digests inPieces) with ⟨entry, listed, rfl⟩
  exact absent entry listed inPiece

theorem length_join
    {pieces : List String} (digests : pieces ⊆ barDigests.map Prod.snd) :
    (String.join pieces).toList.length = 64 * pieces.length := by
  have widths :
      (pieces.map fun piece => piece.toList.length) =
        pieces.map fun _ => 64 := by
    refine List.map_congr_left ?_
    intro piece member
    rcases List.mem_map.1 (digests member) with ⟨entry, listed, rfl⟩
    rw [String.length_toList, length_barDigests entry listed]
  rw [String.toList_join, List.length_flatMap, widths]
  simp [Nat.mul_comm]

theorem find?_join
    {pieces : List String} (digests : pieces ⊆ barDigests.map Prod.snd) :
    barDigests.find?
        (fun entry => barText entry.1 = String.join pieces) =
      none := by
  rw [List.find?_eq_none]
  intro entry _
  rw [decide_eq_true_eq]
  exact barText_ne_join entry.1 digests

theorem recordedHex_empty :
    recordedHex "" =
      "e3b0c44298fc1c149afbf4c8996fb92427ae41e4649b934ca495991b7852b855" := by
  have unlisted := find?_join (List.nil_subset (barDigests.map Prod.snd))
  rw [String.join_nil] at unlisted
  rw [recordedHex, unlisted]
  exact if_pos rfl

theorem recordedHex_join
    {pieces : List String} (digests : pieces ⊆ barDigests.map Prod.snd)
    (nonempty : pieces ≠ []) :
    recordedHex (String.join pieces) =
      if String.join pieces = firstMinuteHashes then
        "1b026e9bed75ce942b549fb78585f325a6e5c0a22ccd38a6906bc04c7a326c1e"
      else
        "46793c8681d13e965a988da014e1ed1cdac656dd8161aceb068ed1805c73c08f" := by
  have written : String.join pieces ≠ "" := by
    intro empty
    have length := length_join digests
    rw [empty, String.toList_empty, List.length_nil] at length
    have positive := List.length_pos_iff.2 nonempty
    omega
  rw [recordedHex, find?_join digests]
  exact if_neg written

theorem firstMinuteHashes_subset :
    ((barDigests.take 5).map Prod.snd).insertionSort (· ≤ ·) ⊆
      barDigests.map Prod.snd := by
  intro piece member
  have unsorted := (List.perm_insertionSort _ _).subset member
  rw [List.map_take] at unsorted
  exact List.mem_of_mem_take unsorted

theorem length_firstMinuteHashes :
    firstMinuteHashes.toList.length = 320 := by
  rw [firstMinuteHashes, length_join firstMinuteHashes_subset,
    List.length_insertionSort]
  rfl

theorem recordedHex_firstMinuteHashes :
    recordedHex firstMinuteHashes =
      "1b026e9bed75ce942b549fb78585f325a6e5c0a22ccd38a6906bc04c7a326c1e" := by
  have pieces :
      ((barDigests.take 5).map Prod.snd).insertionSort (· ≤ ·) ≠ [] := by
    rw [ne_eq, ← List.length_eq_zero_iff, List.length_insertionSort]
    decide
  exact
    (recordedHex_join firstMinuteHashes_subset pieces).trans (if_pos rfl)

theorem recordedPostgres_hex : recordedPostgres.sha256.hex = recordedHex :=
  rfl

theorem rowHashes_subset
    {rows : List AuditRow} (bars : rows ⊆ barDigests.map Prod.fst) :
    rowHashes recordedPostgres.sha256 barText rows ⊆
      barDigests.map Prod.snd := by
  intro piece member
  rcases List.mem_map.1 ((rowHashes_perm rows).subset member) with
    ⟨row, inRows, rfl⟩
  rcases List.mem_map.1 (bars inRows) with ⟨entry, listed, rfl⟩
  rw [recordedPostgres_hex, recordedHex_barText listed]
  exact List.mem_map_of_mem listed

/-- The rows of the first minute are the first five recorded bars. -/
theorem joinedHashes_firstMinute :
    joinedHashes recordedPostgres.sha256 barText
        firstMinuteDatabase.audit =
      firstMinuteHashes := by
  have rows :
      firstMinuteDatabase.audit = (barDigests.take 5).map Prod.fst :=
    rfl
  have hashes :
      (firstMinuteDatabase.audit.map fun row =>
          recordedPostgres.sha256.hex (barText row)) =
        (barDigests.take 5).map Prod.snd := by
    rw [recordedPostgres_hex, rows, List.map_map]
    refine List.map_congr_left ?_
    intro entry member
    have listed : entry ∈ barDigests := List.mem_of_mem_take member
    rw [Function.comp_apply, recordedHex_barText listed]
  rw [joinedHashes, rowHashes, hashes, firstMinuteHashes]

theorem sortedDigest_firstMinute :
    sortedDigest recordedPostgres.sha256 barText
        firstMinuteDatabase.audit =
      "1b026e9bed75ce942b549fb78585f325a6e5c0a22ccd38a6906bc04c7a326c1e" := by
  rw [sortedDigest, joinedHashes_firstMinute, recordedPostgres_hex,
    recordedHex_firstMinuteHashes]

theorem firstMinute_auditFits :
    FitsBudget barText promptClock.audit firstMinuteDatabase.audit := by
  unfold FitsBudget
  decide +kernel

theorem empty_outboxFits :
    FitsBudget (id : String → String) promptClock.outbox [] := by
  unfold FitsBudget
  decide

/-- The original prefix is kept by a table that starts with the first
minute. -/
theorem firstMinute_prefixKept
    {database : Database String}
    (rows :
      originalPrefixRows firstMinuteProfile.originalPrefix.lastOpenTimeMs
          database.audit =
        firstMinuteDatabase.audit) :
    recordedPrefix recordedPostgres firstMinuteProfile database =
      firstMinuteProfile.originalPrefix := by
  have text :
      (if firstMinuteProfile.currentControlled = true then
          recordedPostgres.auditTextWithoutPersistedAt
        else
          recordedPostgres.auditText) =
        barText :=
    rfl
  have count : firstMinuteDatabase.audit.length = 5 := rfl
  simp only [recordedPrefix, rows, text, count, sortedDigest_firstMinute]
  rfl

/-- The table of the first minute is accepted, and is five chains. -/
theorem bootHistorySnapshot_accepts_iff_firstMinute :
    AlignedBars firstMinuteDatabase.audit ∧
      (bootHistorySnapshot recordedPostgres firstMinuteProfile promptClock
          firstMinuteDatabase).isOk =
        true ∧
      ∃ first last, FiveChains firstMinuteDatabase.audit first last := by
  have aligned : AlignedBars firstMinuteDatabase.audit :=
    alignedBars_barTable 1 (by decide)
  have five :
      FiveChains firstMinuteDatabase.audit (fun _ => recordedMinute 0)
        (fun _ => recordedMinute 0 + (0 : Nat) * minute) :=
    fiveChains_barTable (recordedMinute 0) 0
  have succeeded :
      ∃ snapshot,
        bootHistorySnapshot recordedPostgres firstMinuteProfile promptClock
            firstMinuteDatabase =
          .ok snapshot :=
    (bootHistorySnapshot_accepts_iff recordedPostgres firstMinuteProfile
      promptClock firstMinuteDatabase aligned).2
      ⟨⟨_, _, five, fun _ _ => Int.natCast_nonneg 1789832580000⟩,
        firstMinute_auditFits, empty_outboxFits,
        firstMinute_prefixKept rfl⟩
  refine ⟨aligned, ?_, _, _, five⟩
  rcases succeeded with ⟨snapshot, taken⟩
  rw [taken]
  rfl

/-- A table of five chains that start a minute before the epoch of time. -/
def earlyDatabase : Database String where
  audit := barTable (-60000) 1
  outbox := []

/-- A table of five chains of 200001 minutes. -/
def longDatabase : Database String where
  audit := barTable (recordedMinute 0) 200001
  outbox := []

theorem longDatabase_audit :
    longDatabase.audit = barTable (recordedMinute 0) (200000 + 1) := by
  rw [longDatabase]

/--
Two tables of five gap-free chains are refused: one that starts at a negative
time, and one with more rows than a digest may read.
-/
theorem bootHistorySnapshot_refuses_early_and_long :
    (AlignedBars earlyDatabase.audit ∧
      FiveChains earlyDatabase.audit (fun _ => -60000) (fun _ => -60000) ∧
      bootHistorySnapshot recordedPostgres firstMinuteProfile promptClock
          earlyDatabase =
        .error
          (.epoch ⟨"EXACT_EXPECTED_HISTORY_SNAPSHOT_REQUIRED"⟩)) ∧
      AlignedBars longDatabase.audit ∧
        FiveChains longDatabase.audit (fun _ => recordedMinute 0)
          (fun _ => recordedMinute 0 + (200000 : Nat) * minute) ∧
        bootHistorySnapshot recordedPostgres firstMinuteProfile promptClock
            longDatabase =
          .error
            (.worker "full-history snapshot exceeded its fixed bound") := by
  refine ⟨⟨?_, ?_, ?_⟩, ?_, ?_, ?_⟩
  · exact alignedBars_barTable 1 (by decide)
  · exact fiveChains_barTable (-60000) 0
  · decide +kernel
  · rw [longDatabase_audit]
    exact alignedBars_barTable _ (by decide)
  · rw [longDatabase_audit]
    exact fiveChains_barTable _ _
  · refine bootHistorySnapshot_eq_error_of_length ?_
    rw [longDatabase_audit, length_barTable]
    decide

end KairosDeploy.Epoch.HistorySnapshot
