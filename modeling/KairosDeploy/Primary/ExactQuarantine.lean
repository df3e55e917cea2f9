import KairosDeploy.Epoch.HistorySnapshot
import KairosDeploy.Library.HexDigest
import KairosDeploy.Library.JsonText
import KairosDeploy.Library.PyObject
import KairosDeploy.Library.Timestamp

/-!
# The quarantine of one outbox row

The migration adds four reconciliation columns to the outbox, and one row is
quarantined.  Three checks accept the result: `_quarantined_row` finds the one
row with a reconciliation id, `_check_exact_quarantine` compares it with the
row it was, and `_projected_history` hashes every legacy table again, with the
new columns removed and the lease of that row restored.

The removed columns of the other rows are seen by the first check alone, and
that one only looks at the id.  So the checks force that one row was changed
as far as the legacy columns go; a state or a timestamp that another row got
goes unseen.
-/

namespace KairosDeploy.Primary.ExactQuarantine

open KairosDeploy.Epoch.HistorySnapshot
open KairosDeploy.Library
open KairosDeploy.Library.HexDigest (utf8 utf8_injective hexText
  length_hexText eq_of_hexdigest_tableDigest)
open KairosDeploy.Library.JsonText
open KairosDeploy.Library.JsonValue
open KairosDeploy.Library.PyObject (lookup_of_mem)
open KairosDeploy.Library.Refusal
open KairosDeploy.Library.SortedDigest
open KairosDeploy.Library.Timestamp

/-! ## The tables -/

/-- Columns that no check names. -/
abbrev Cells (Cell : Type) : Type := List (String × Cell)

/-- A row of `schema_migrations`. -/
structure MigrationRow (Cell : Type) where
  version : String
  others : Cells Cell

/-- A row of `message_outbox` with the legacy columns. -/
@[ext]
structure LegacyRow (Cell : Type) where
  id : Int
  leaseOwner : Option String
  leaseUntil : Option String
  lastError : Option String
  others : Cells Cell

/-- A row of `message_outbox` after the migration. -/
structure RuntimeRow (Cell : Type) extends LegacyRow Cell where
  reconciliationState : Option String
  reconciliationId : Option String
  reconciliationStartedAt : Option String
  reconciliationOutcomeAt : Option String

/-- What both schemas hold beside the outbox. -/
structure Relations (Cell : Type) where
  tables : String → List (Cells Cell)
  migrations : List (MigrationRow Cell)
  publicSequences : List (String × String)
  publicExecutionEventsMaxSequence : Int

/-- The database before the migration; `id` is the key of the outbox. -/
structure LegacyDatabase (Cell : Type) extends Relations Cell where
  tableNames : List String
  schemaFingerprintSha256 : String
  outbox : List (LegacyRow Cell)
  outbox_listed : "message_outbox" ∈ tableNames
  ids_nodup : (outbox.map LegacyRow.id).Nodup

/-- The database after the migration. -/
structure RuntimeDatabase (Cell : Type) extends Relations Cell where
  outbox : List (RuntimeRow Cell)

/-- The parts of the plan that the checks read. -/
structure Plan where
  expectedLegacyTables : List String
  legacySchemaFingerprintSha256 : String
  reconciliationId : String
  reason : String

/-- The functions of the server and the standard library. -/
structure Tools (Cell : Type) where
  sha256 : FixedHash
  /-- `to_jsonb(t)::text` of the three kinds of rows. -/
  rowText : Cells Cell → String
  migrationText : MigrationRow Cell → String
  outboxText : LegacyRow Cell → String
  /-- `json.loads` of a column. -/
  loads : Cell → Json
  reader : IsoReader
  /-- Seconds from the start of a budget until a table is digested. -/
  seconds : String → Rat

/-- `WorkerError(message)`. -/
def worker {Value : Type} (message : String) : Except SnapshotError Value :=
  .error (.worker message)

/-- `LEGACY_MIGRATIONS`. -/
def legacyMigrations : List String :=
  ["001_audit_and_idempotency.sql",
    "002_durable_runtime.sql",
    "003_execution_effect_journal.sql",
    "004_execution_recovery_delay.sql",
    "005_source_state_and_usage.sql",
    "006_paper_trade_lifecycle.sql",
    "007_execution_runtime_health.sql",
    "008_public_execution_events.sql",
    "009_paper_canary_arms.sql",
    "010_runtime_compensation_reserve.sql",
    "011_execution_mutation_budget.sql",
    "012_outbox_producer_order.sql"]

/-- `re.fullmatch(r"[a-z_][a-z0-9_]{0,62}", table)`. -/
def isTableName (table : String) : Bool :=
  match table.toList with
  | [] => false
  | first :: rest =>
      (first.isLower || first = '_') && rest.length ≤ 62 &&
        rest.all fun character =>
          character.isLower || character.isDigit || character = '_'

/-! ## The quarantined row -/

section Checks

variable {Cell : Type} (tools : Tools Cell)

/-- `_quarantined_row`. -/
def quarantinedRow (outbox : List (RuntimeRow Cell)) :
    Except SnapshotError (RuntimeRow Cell) :=
  match outbox.filter fun row => row.reconciliationId.isSome with
  | [row] => do
      refuseIf
        (row.reconciliationState ≠ some "PUBLISH_OUTCOME_UNKNOWN" ∨
          row.leaseOwner ≠ none ∨ row.leaseUntil ≠ none)
        (.worker "controlled-runtime exact quarantine state differs")
      return row
  | _ =>
      worker "controlled-runtime outbox reconciliation row inventory differs"

/-- `isoformat(timespec="microseconds")` of a time in UTC. -/
def isoMicroseconds (time : CivilTime) : String :=
  String.ofList
    (isoFields time ++
      (if time.microsecond = 0 then '.' :: padded 6 0 else []) ++ zeroOffset)

/-- `_utc(value).isoformat(timespec="microseconds")`. -/
def utcMicroseconds (value : Option String) :
    Except SnapshotError String :=
  match value.bind fun text =>
      tools.reader.fromisoformat (replaceAll ['Z'] zeroOffset text) with
  | none => worker "expired lease timestamp is invalid"
  | some time =>
      if time.offset = none then
        worker "expired lease timestamp is not timezone-aware"
      else
        match time.astimezone with
        | none => .error (.python "OverflowError")
        | some civil => .ok (isoMicroseconds civil)

/-- The evidence that `last_error` has to hold. -/
def expectedError (plan : Plan) (before : LegacyRow Cell) :
    Except SnapshotError String := do
  let expired ← utcMicroseconds tools before.leaseUntil
  return String.ofList
    (write exponentFloats
      (.object
        (dict
          [("expired_lease_owner_sha256",
              .text (tools.sha256.hex (before.leaseOwner.getD "None"))),
            ("expired_lease_until", .text expired),
            ("reason", .text plan.reason)])))

/-- `after.get(name) == value` for every column that no later check names. -/
def keepsColumns (before after : LegacyRow Cell) : Bool :=
  after.id = before.id &&
    before.others.all fun entry =>
      Json.pyEq
        (((after.others.lookup entry.1).map tools.loads).getD .null)
        (tools.loads entry.2)

/-- `_check_exact_quarantine`. -/
def checkExactQuarantine
    (plan : Plan) (before : LegacyRow Cell) (after : RuntimeRow Cell) :
    Except SnapshotError Unit := do
  refuseIf (keepsColumns tools before after.toLegacyRow = false)
    (.worker "quarantine altered forbidden legacy outbox fields")
  refuseIf
    (after.leaseOwner ≠ none ∨ after.leaseUntil ≠ none ∨
      after.reconciliationState ≠ some "PUBLISH_OUTCOME_UNKNOWN" ∨
      after.reconciliationId ≠ some plan.reconciliationId)
    (.worker "native quarantine durable state differs")
  let error ← expectedError tools plan before
  refuseIf
    (after.lastError ≠ some error ∨
      after.reconciliationStartedAt ≠ after.reconciliationOutcomeAt)
    (.worker "native quarantine evidence does not bind reviewed reason")

/-! ## The histories -/

/-- A history, with its tables in the order in which they were digested. -/
structure History where
  migrations : List String
  schemaFingerprintSha256 : String
  tables : List (String × TableDigest)
  publicSequences : List (String × String)
  publicExecutionEventsMaxSequence : Int
deriving DecidableEq

/-- The tables of a history, which share one budget. -/
def digestTables
    (digest : String → Budget → Except SnapshotError (TableDigest × Budget)) :
    Budget → List String → Except SnapshotError (List (String × TableDigest))
  | _, [] => .ok []
  | budget, table :: rest => do
      let (entry, used) ← digest table budget
      let others ← digestTables digest used rest
      return (table, entry) :: others

/-- `_table_digest` of a legacy table. -/
def legacyDigest
    (database : LegacyDatabase Cell) (table : String) (budget : Budget) :
    Except SnapshotError (TableDigest × Budget) := do
  refuseIf (isTableName table = false)
    (.worker "invalid table identifier")
  if table = "schema_migrations" then
    tableDigest tools.sha256 tools.migrationText budget (tools.seconds table)
      database.migrations
  else if table = "message_outbox" then
    tableDigest tools.sha256 tools.outboxText budget (tools.seconds table)
      database.outbox
  else
    tableDigest tools.sha256 tools.rowText budget (tools.seconds table)
      (database.tables table)

/-- `_history(connection, plan, runtime=False)`. -/
def legacyHistory (plan : Plan) (database : LegacyDatabase Cell) :
    Except SnapshotError History := do
  refuseIf (database.tableNames ≠ plan.expectedLegacyTables)
    (.worker "legacy table inventory differs")
  refuseIf
    ((database.migrations.map MigrationRow.version).insertionSort (· ≤ ·) ≠
      legacyMigrations)
    (.worker "database migration profile differs")
  let tables ←
    digestTables (legacyDigest tools database) .fresh database.tableNames
  return ⟨legacyMigrations, database.schemaFingerprintSha256, tables,
    database.publicSequences, database.publicExecutionEventsMaxSequence⟩

/-- `version=ANY(LEGACY_MIGRATIONS)`. -/
def isLegacyMigration (row : MigrationRow Cell) : Bool :=
  legacyMigrations.contains row.version

/-- A row without the new columns, and with the lease of the original row. -/
def projectRow (original : LegacyRow Cell) (row : RuntimeRow Cell) :
    LegacyRow Cell :=
  if row.id = original.id then
    { row.toLegacyRow with
      leaseOwner := original.leaseOwner
      leaseUntil := original.leaseUntil
      lastError := original.lastError }
  else
    row.toLegacyRow

/-- The digest of `_projected_history`, which names its own bound. -/
def projectedTableDigest {Row : Type}
    (text : Row → String) (budget : Budget) (seconds : Rat)
    (rows : List Row) : Except SnapshotError (TableDigest × Budget) := do
  let used : Budget :=
    ⟨budget.rows + rows.length, budget.bytes + tableBytes text rows⟩
  refuseIf
    (used.rows > maxRows ∨ used.bytes > maxBytes ∨ seconds > maxSeconds)
    (.worker "projected full-history snapshot exceeded its fixed bound")
  return (⟨rows.length, sortedDigest tools.sha256 text rows⟩, used)

/-- One table of `_projected_history`. -/
def projectedDigest
    (original : LegacyRow Cell) (database : RuntimeDatabase Cell)
    (table : String) (budget : Budget) :
    Except SnapshotError (TableDigest × Budget) :=
  if table = "schema_migrations" then
    projectedTableDigest tools tools.migrationText budget
      (tools.seconds table) (database.migrations.filter isLegacyMigration)
  else if table = "message_outbox" then
    projectedTableDigest tools tools.outboxText budget (tools.seconds table)
      (database.outbox.map (projectRow original))
  else do
    refuseIf (isTableName table = false)
      (.worker "invalid projected table identifier")
    projectedTableDigest tools tools.rowText budget (tools.seconds table)
      (database.tables table)

/-- `_projected_history`. -/
def projectedHistory
    (plan : Plan) (original : LegacyRow Cell)
    (database : RuntimeDatabase Cell) : Except SnapshotError History := do
  let tables ←
    digestTables (projectedDigest tools original database) .fresh
      plan.expectedLegacyTables
  return ⟨legacyMigrations, plan.legacySchemaFingerprintSha256, tables,
    database.publicSequences, database.publicExecutionEventsMaxSequence⟩

/-- The three checks, against the history before the migration. -/
def acceptQuarantine
    (plan : Plan) (original : LegacyRow Cell)
    (before : LegacyDatabase Cell) (after : RuntimeDatabase Cell) :
    Except SnapshotError Unit := do
  let baseline ← legacyHistory tools plan before
  let row ← quarantinedRow after.outbox
  checkExactQuarantine tools plan original row
  let projected ← projectedHistory tools plan original after
  refuseIf (projected ≠ baseline)
    (.worker "legacy full-history projection changed beyond exact quarantine")

end Checks

/-! ## What the checks are for -/

section Purpose

variable {Cell : Type}

/-- The reconciliation columns as the migration adds them. -/
def HasDefaults (row : RuntimeRow Cell) : Prop :=
  row.reconciliationState = some "NONE" ∧ row.reconciliationId = none ∧
    row.reconciliationStartedAt = none ∧ row.reconciliationOutcomeAt = none

/-- A row became another one by the quarantine of the plan. -/
structure QuarantinedFrom
    (tools : Tools Cell) (plan : Plan) (original : LegacyRow Cell)
    (row : RuntimeRow Cell) : Prop where
  state : row.reconciliationState = some "PUBLISH_OUTCOME_UNKNOWN"
  reconciliationId : row.reconciliationId = some plan.reconciliationId
  stamped : row.reconciliationStartedAt = row.reconciliationOutcomeAt
  legacy :
    ∃ error, expectedError tools plan original = .ok error ∧
      row.toLegacyRow =
        { original with
          leaseOwner := none
          leaseUntil := none
          lastError := some error }

/-- The quarantine of one row, and nothing else. -/
structure OneRowChanged
    (tools : Tools Cell) (plan : Plan) (original : LegacyRow Cell)
    (before : LegacyDatabase Cell) (after : RuntimeDatabase Cell) :
    Prop where
  tables :
    ∀ table ∈ plan.expectedLegacyTables, table ≠ "schema_migrations" →
      table ≠ "message_outbox" →
        (before.tables table).Perm (after.tables table)
  migrations :
    "schema_migrations" ∈ plan.expectedLegacyTables →
      before.migrations.Perm (after.migrations.filter isLegacyMigration)
  outbox :
    ∃ row rest,
      after.outbox.Perm (row :: rest) ∧
        before.outbox.Perm
          (original :: rest.map RuntimeRow.toLegacyRow) ∧
        QuarantinedFrom tools plan original row ∧
        ∀ other ∈ rest, HasDefaults other

/-- The digests do not collide, and the texts of rows determine the rows. -/
structure CollisionFree
    (tools : Tools Cell) (original : LegacyRow Cell)
    (before : LegacyDatabase Cell) (after : RuntimeDatabase Cell) :
    Prop where
  tableTexts :
    ∀ table,
      Separates tools.sha256.hex
        (hashedTexts tools.sha256 tools.rowText (before.tables table) ++
          hashedTexts tools.sha256 tools.rowText (after.tables table))
  tableRows :
    ∀ table,
      Separates tools.rowText (before.tables table ++ after.tables table)
  migrationTexts :
    Separates tools.sha256.hex
      (hashedTexts tools.sha256 tools.migrationText before.migrations ++
        hashedTexts tools.sha256 tools.migrationText
          (after.migrations.filter isLegacyMigration))
  migrationRows :
    Separates tools.migrationText
      (before.migrations ++ after.migrations.filter isLegacyMigration)
  outboxTexts :
    Separates tools.sha256.hex
      (hashedTexts tools.sha256 tools.outboxText before.outbox ++
        hashedTexts tools.sha256 tools.outboxText
          (after.outbox.map (projectRow original)))
  outboxRows :
    Separates tools.outboxText
      (before.outbox ++ after.outbox.map (projectRow original))

end Purpose

/-! ## What acceptance establishes -/

section Acceptance

variable {Cell : Type} {tools : Tools Cell} {plan : Plan}
    {original : LegacyRow Cell} {before : LegacyDatabase Cell}
    {after : RuntimeDatabase Cell}

theorem quarantinedRow_eq_ok_iff
    {outbox : List (RuntimeRow Cell)} {row : RuntimeRow Cell} :
    quarantinedRow outbox = .ok row ↔
      outbox.filter (fun row => row.reconciliationId.isSome) = [row] ∧
        row.reconciliationState = some "PUBLISH_OUTCOME_UNKNOWN" ∧
        row.leaseOwner = none ∧ row.leaseUntil = none := by
  unfold quarantinedRow
  split
  case h_1 found listed =>
    simp only [bind_eq_ok_iff, refuseIf_eq_ok_iff, exists_const,
      pure_eq_ok_iff, not_or, not_not, listed, List.cons.injEq, and_true]
    constructor
    · rintro ⟨holds, rfl⟩
      exact ⟨rfl, holds⟩
    · rintro ⟨rfl, holds⟩
      exact ⟨holds, rfl⟩
  case h_2 several =>
    constructor
    · intro impossible
      cases impossible
    · rintro ⟨listed, _⟩
      exact absurd listed (several row)

theorem checkExactQuarantine_eq_ok_iff
    {before : LegacyRow Cell} {after : RuntimeRow Cell} :
    checkExactQuarantine tools plan before after = .ok () ↔
      keepsColumns tools before after.toLegacyRow = true ∧
        (after.leaseOwner = none ∧ after.leaseUntil = none ∧
          after.reconciliationState = some "PUBLISH_OUTCOME_UNKNOWN" ∧
          after.reconciliationId = some plan.reconciliationId) ∧
        ∃ error, expectedError tools plan before = .ok error ∧
          after.lastError = some error ∧
          after.reconciliationStartedAt = after.reconciliationOutcomeAt := by
  simp only [checkExactQuarantine, bind_eq_ok_iff, refuseIf_eq_ok_iff,
    exists_const, not_or, not_not, Bool.not_eq_false]

/-- The entries of a history are what its digests say, table by table. -/
theorem digestTables_eq_map
    {digest : String → Budget → Except SnapshotError (TableDigest × Budget)}
    {value : String → TableDigest}
    (digested :
      ∀ table budget result, digest table budget = .ok result →
        result.1 = value table)
    {budget : Budget} {names : List String}
    {entries : List (String × TableDigest)}
    (succeeded : digestTables digest budget names = .ok entries) :
    entries = names.map fun table => (table, value table) := by
  induction names generalizing budget entries with
  | nil =>
      cases succeeded
      rfl
  | cons table rest induction =>
      simp only [digestTables, bind_eq_ok_iff, pure_eq_ok_iff] at succeeded
      rcases succeeded with ⟨result, first, others, following, rfl⟩
      rw [List.map_cons, induction following,
        digested table budget result first]

theorem tableDigest_fst
    {hash : FixedHash} {Row : Type} {text : Row → String} {budget : Budget}
    {seconds : Rat} {rows : List Row} {result : TableDigest × Budget}
    (succeeded : tableDigest hash text budget seconds rows = .ok result) :
    result.1 = ⟨rows.length, sortedDigest hash text rows⟩ := by
  simp only [tableDigest, bind_eq_ok_iff, refuseIf_eq_ok_iff, exists_const,
    pure_eq_ok_iff] at succeeded
  rw [← succeeded.2]

theorem projectedTableDigest_fst
    {Row : Type} {text : Row → String} {budget : Budget} {seconds : Rat}
    {rows : List Row} {result : TableDigest × Budget}
    (succeeded :
      projectedTableDigest tools text budget seconds rows = .ok result) :
    result.1 = ⟨rows.length, sortedDigest tools.sha256 text rows⟩ := by
  simp only [projectedTableDigest, bind_eq_ok_iff, refuseIf_eq_ok_iff,
    exists_const, pure_eq_ok_iff] at succeeded
  rw [← succeeded.2]

/-- The digest of a table as the history before the migration has it. -/
def legacyEntry
    (tools : Tools Cell) (database : LegacyDatabase Cell) (table : String) :
    TableDigest :=
  if table = "schema_migrations" then
    ⟨database.migrations.length,
      sortedDigest tools.sha256 tools.migrationText database.migrations⟩
  else if table = "message_outbox" then
    ⟨database.outbox.length,
      sortedDigest tools.sha256 tools.outboxText database.outbox⟩
  else
    ⟨(database.tables table).length,
      sortedDigest tools.sha256 tools.rowText (database.tables table)⟩

/-- The digest of a table as the projected history has it. -/
def projectedEntry
    (tools : Tools Cell) (original : LegacyRow Cell)
    (database : RuntimeDatabase Cell) (table : String) : TableDigest :=
  if table = "schema_migrations" then
    ⟨(database.migrations.filter isLegacyMigration).length,
      sortedDigest tools.sha256 tools.migrationText
        (database.migrations.filter isLegacyMigration)⟩
  else if table = "message_outbox" then
    ⟨(database.outbox.map (projectRow original)).length,
      sortedDigest tools.sha256 tools.outboxText
        (database.outbox.map (projectRow original))⟩
  else
    ⟨(database.tables table).length,
      sortedDigest tools.sha256 tools.rowText (database.tables table)⟩

theorem legacyDigest_fst
    {table : String} {budget : Budget} {result : TableDigest × Budget}
    (succeeded : legacyDigest tools before table budget = .ok result) :
    result.1 = legacyEntry tools before table := by
  simp only [legacyDigest, bind_eq_ok_iff, refuseIf_eq_ok_iff,
    exists_const] at succeeded
  have digested := succeeded.2
  unfold legacyEntry
  split_ifs at digested ⊢
  · exact tableDigest_fst digested
  · exact tableDigest_fst digested
  · exact tableDigest_fst digested

theorem projectedDigest_fst
    {table : String} {budget : Budget} {result : TableDigest × Budget}
    (succeeded :
      projectedDigest tools original after table budget = .ok result) :
    result.1 = projectedEntry tools original after table := by
  unfold projectedDigest at succeeded
  unfold projectedEntry
  split_ifs at succeeded ⊢
  · exact projectedTableDigest_fst succeeded
  · exact projectedTableDigest_fst succeeded
  · rw [bind_eq_ok_iff] at succeeded
    rcases succeeded with ⟨_, _, digested⟩
    exact projectedTableDigest_fst digested

theorem legacyHistory_spec
    {history : History}
    (succeeded : legacyHistory tools plan before = .ok history) :
    before.tableNames = plan.expectedLegacyTables ∧
      history.tables =
        plan.expectedLegacyTables.map fun table =>
          (table, legacyEntry tools before table) := by
  simp only [legacyHistory, bind_eq_ok_iff, refuseIf_eq_ok_iff,
    exists_const, pure_eq_ok_iff, not_not] at succeeded
  rcases succeeded with ⟨names, _, tables, digested, rfl⟩
  have entries :
      ∀ table budget result,
        legacyDigest tools before table budget = .ok result →
          result.1 = legacyEntry tools before table :=
    fun _ _ _ => legacyDigest_fst
  refine ⟨names, ?_⟩
  rw [← names]
  exact digestTables_eq_map entries digested

theorem projectedHistory_tables
    {history : History}
    (succeeded : projectedHistory tools plan original after = .ok history) :
    history.tables =
      plan.expectedLegacyTables.map fun table =>
        (table, projectedEntry tools original after table) := by
  simp only [projectedHistory, bind_eq_ok_iff, pure_eq_ok_iff] at succeeded
  rcases succeeded with ⟨tables, digested, rfl⟩
  have entries :
      ∀ table budget result,
        projectedDigest tools original after table budget = .ok result →
          result.1 = projectedEntry tools original after table :=
    fun _ _ _ => projectedDigest_fst
  exact digestTables_eq_map entries digested

/-- What the three checks establish. -/
structure Accepted
    (tools : Tools Cell) (plan : Plan) (original : LegacyRow Cell)
    (before : LegacyDatabase Cell) (after : RuntimeDatabase Cell)
    (row : RuntimeRow Cell) : Prop where
  listed : "message_outbox" ∈ plan.expectedLegacyTables
  entries :
    ∀ table ∈ plan.expectedLegacyTables,
      projectedEntry tools original after table =
        legacyEntry tools before table
  found :
    after.outbox.filter (fun row => row.reconciliationId.isSome) = [row]
  checked : checkExactQuarantine tools plan original row = .ok ()

theorem accepted_of_acceptQuarantine
    (succeeded :
      acceptQuarantine tools plan original before after = .ok ()) :
    ∃ row, Accepted tools plan original before after row := by
  simp only [acceptQuarantine, bind_eq_ok_iff, refuseIf_eq_ok_iff,
    not_not] at succeeded
  rcases succeeded with
    ⟨baseline, recorded, row, found, _, checked, projected, recomputed,
      same⟩
  rcases legacyHistory_spec recorded with ⟨names, legacyTables⟩
  have tables := projectedHistory_tables recomputed
  rw [same, legacyTables, List.map_inj_left] at tables
  exact
    ⟨row,
      { listed := names ▸ before.outbox_listed
        entries := fun table member =>
          (congrArg Prod.snd (tables table member)).symm
        found := (quarantinedRow_eq_ok_iff.1 found).1
        checked := checked }⟩

/-! ## One row changed -/

/-- A table of its own is the same table. -/
theorem Accepted.tables
    {row : RuntimeRow Cell}
    (accepted : Accepted tools plan original before after row)
    (collisionFree : CollisionFree tools original before after)
    {table : String} (listed : table ∈ plan.expectedLegacyTables)
    (notMigrations : table ≠ "schema_migrations")
    (notOutbox : table ≠ "message_outbox") :
    (before.tables table).Perm (after.tables table) := by
  have same := congrArg TableDigest.sha256 (accepted.entries table listed)
  simp only [projectedEntry, legacyEntry, if_neg notMigrations,
    if_neg notOutbox] at same
  exact
    perm_of_sortedDigest_eq (collisionFree.tableTexts table)
      (collisionFree.tableRows table) same.symm

/-- The legacy migrations are the ones that were there. -/
theorem Accepted.migrations
    {row : RuntimeRow Cell}
    (accepted : Accepted tools plan original before after row)
    (collisionFree : CollisionFree tools original before after)
    (listed : "schema_migrations" ∈ plan.expectedLegacyTables) :
    before.migrations.Perm (after.migrations.filter isLegacyMigration) := by
  have same := congrArg TableDigest.sha256 (accepted.entries _ listed)
  simp only [projectedEntry, legacyEntry, if_true] at same
  exact
    perm_of_sortedDigest_eq collisionFree.migrationTexts
      collisionFree.migrationRows same.symm

/-- The projected outbox is the outbox that was there. -/
theorem Accepted.projected
    {row : RuntimeRow Cell}
    (accepted : Accepted tools plan original before after row)
    (collisionFree : CollisionFree tools original before after) :
    before.outbox.Perm (after.outbox.map (projectRow original)) := by
  have different : "message_outbox" ≠ "schema_migrations" := by decide
  have same :=
    congrArg TableDigest.sha256 (accepted.entries _ accepted.listed)
  simp only [projectedEntry, legacyEntry, if_neg different, if_true] at same
  exact
    perm_of_sortedDigest_eq collisionFree.outboxTexts
      collisionFree.outboxRows same.symm

@[simp]
theorem projectRow_id (original : LegacyRow Cell) (row : RuntimeRow Cell) :
    (projectRow original row).id = row.id := by
  unfold projectRow
  split_ifs <;> rfl

/-- The rows without a reconciliation id. -/
def unreconciled (outbox : List (RuntimeRow Cell)) : List (RuntimeRow Cell) :=
  outbox.filter fun row => !row.reconciliationId.isSome

/-- The quarantined row, and the others. -/
theorem Accepted.outbox_perm
    {row : RuntimeRow Cell}
    (accepted : Accepted tools plan original before after row) :
    after.outbox.Perm (row :: unreconciled after.outbox) := by
  have parts :=
    List.filter_append_perm
      (fun row : RuntimeRow Cell => row.reconciliationId.isSome) after.outbox
  rw [accepted.found, List.singleton_append] at parts
  exact parts.symm

/-- No other row has the id of the quarantined row. -/
theorem Accepted.other_id
    {row : RuntimeRow Cell}
    (accepted : Accepted tools plan original before after row)
    (collisionFree : CollisionFree tools original before after) :
    ∀ other ∈ unreconciled after.outbox, other.id ≠ row.id := by
  have ids :
      (before.outbox.map LegacyRow.id).Perm
        (after.outbox.map fun row => row.id) := by
    have mapped := (accepted.projected collisionFree).map LegacyRow.id
    rw [List.map_map] at mapped
    exact
      mapped.trans
        (List.Perm.of_eq
          (List.map_congr_left fun row _ => projectRow_id original row))
  have distinct :=
    (ids.trans (accepted.outbox_perm.map fun row => row.id)).nodup_iff.1
      before.ids_nodup
  rw [List.map_cons, List.nodup_cons] at distinct
  intro other member same
  exact distinct.1 (same ▸ List.mem_map_of_mem member)

theorem Accepted.row_id
    {row : RuntimeRow Cell}
    (accepted : Accepted tools plan original before after row) :
    row.id = original.id := by
  have checked := (checkExactQuarantine_eq_ok_iff.1 accepted.checked).1
  simp only [keepsColumns, Bool.and_eq_true, decide_eq_true_eq] at checked
  exact checked.1

/-- The rows before are the original one and the legacy parts of the others. -/
theorem Accepted.legacy_perm
    {row : RuntimeRow Cell}
    (accepted : Accepted tools plan original before after row)
    (collisionFree : CollisionFree tools original before after) :
    before.outbox.Perm
      (projectRow original row ::
        (unreconciled after.outbox).map RuntimeRow.toLegacyRow) := by
  refine (accepted.projected collisionFree).trans ?_
  refine (accepted.outbox_perm.map (projectRow original)).trans ?_
  rw [List.map_cons]
  refine List.Perm.of_eq (congrArg (_ :: ·) ?_)
  refine List.map_congr_left fun other member => if_neg ?_
  rw [← accepted.row_id]
  exact accepted.other_id collisionFree other member

/-- The original row is the quarantined one with its lease restored. -/
theorem Accepted.original_eq
    {row : RuntimeRow Cell}
    (accepted : Accepted tools plan original before after row)
    (collisionFree : CollisionFree tools original before after)
    (known : original ∈ before.outbox) :
    original = projectRow original row := by
  have listed := (accepted.legacy_perm collisionFree).subset known
  rcases List.mem_cons.1 listed with same | other
  · exact same
  · rcases List.mem_map.1 other with ⟨otherRow, member, same⟩
    refine absurd ?_ (accepted.other_id collisionFree otherRow member)
    rw [accepted.row_id, ← same]

theorem Accepted.quarantinedFrom
    {row : RuntimeRow Cell}
    (accepted : Accepted tools plan original before after row)
    (collisionFree : CollisionFree tools original before after)
    (known : original ∈ before.outbox) :
    QuarantinedFrom tools plan original row := by
  have checked := checkExactQuarantine_eq_ok_iff.1 accepted.checked
  rcases checked with
    ⟨_, ⟨owner, lease, state, reconciliationId⟩, error, expected, evidence,
      stamped⟩
  have restored := accepted.original_eq collisionFree known
  rw [projectRow, if_pos accepted.row_id] at restored
  have others := congrArg LegacyRow.others restored
  exact
    ⟨state, reconciliationId, stamped, error, expected,
      LegacyRow.ext accepted.row_id owner lease evidence others.symm⟩

/-- A quarantine of one row leaves the new columns of the others alone. -/
theorem OneRowChanged.defaults
    (changed : OneRowChanged tools plan original before after)
    {other : RuntimeRow Cell} (member : other ∈ after.outbox)
    (absent : other.reconciliationId = none) : HasDefaults other := by
  rcases changed.outbox with ⟨row, rest, split, _, target, defaults⟩
  rcases List.mem_cons.1 (split.subset member) with rfl | inRest
  · rw [target.reconciliationId] at absent
    cases absent
  · exact defaults other inRest

/--
An accepted quarantine changed one row in the legacy columns.  It changed
nothing else exactly when the rows without a reconciliation id have the
default state and no timestamps, which no check looks at.
-/
theorem acceptQuarantine_oneRow_iff
    (collisionFree : CollisionFree tools original before after)
    (known : original ∈ before.outbox)
    (succeeded :
      acceptQuarantine tools plan original before after = .ok ()) :
    OneRowChanged tools plan original before after ↔
      ∀ row ∈ after.outbox, row.reconciliationId = none →
        row.reconciliationState = some "NONE" ∧
          row.reconciliationStartedAt = none ∧
          row.reconciliationOutcomeAt = none := by
  rcases accepted_of_acceptQuarantine succeeded with ⟨row, accepted⟩
  constructor
  · intro changed other member absent
    rcases changed.defaults member absent with ⟨state, _, started, outcome⟩
    exact ⟨state, started, outcome⟩
  · intro defaults
    have legacy := accepted.legacy_perm collisionFree
    rw [← accepted.original_eq collisionFree known] at legacy
    refine
      { tables := fun table => accepted.tables collisionFree
        migrations := accepted.migrations collisionFree
        outbox :=
          ⟨row, unreconciled after.outbox, accepted.outbox_perm, legacy,
            accepted.quarantinedFrom collisionFree known, ?_⟩ }
    intro other member
    rcases List.mem_filter.1 member with ⟨inOutbox, noId⟩
    have absent : other.reconciliationId = none := by simpa using noId
    rcases defaults other inOutbox absent with ⟨state, started, outcome⟩
    exact ⟨state, absent, started, outcome⟩

end Acceptance

/-! ## A quarantine, and one beside which another row changed -/

section Recorded

/-- A text or `null`. -/
def textJson : Option String → Json
  | none => .null
  | some text => .text text

/-- The characters of a `jsonb` object, in the order of its members. -/
def jsonbCharacters (members : Members) : List Char :=
  '\x7b' ::
    ((members.map fun member =>
        writeText member.1 ++ ':' :: ' ' ::
          write exponentFloats member.2).intersperse
      [',', ' ']).flatten ++
    ['\x7d']

/-- The text of a `jsonb` object. -/
def jsonbText (members : Members) : String :=
  String.ofList (jsonbCharacters members)

/-- The columns of a migration. -/
def migrationMembers (row : MigrationRow Json) : Members :=
  ("version", .text row.version) :: row.others

/-- `to_jsonb` of a migration. -/
def migrationJsonb (row : MigrationRow Json) : String :=
  jsonbText (migrationMembers row)

/-- The columns of an outbox row. -/
def outboxMembers (row : LegacyRow Json) : Members :=
  ("id", .int row.id) :: ("last_error", textJson row.lastError) ::
    ("lease_owner", textJson row.leaseOwner) ::
    ("lease_until", textJson row.leaseUntil) :: row.others

/-- `to_jsonb` of an outbox row. -/
def outboxJsonb (row : LegacyRow Json) : String :=
  jsonbText (outboxMembers row)

/-- The row whose lease expired. -/
def expiredRow : LegacyRow Json where
  id := 7
  leaseOwner := some "publisher-1"
  leaseUntil := some (isoformat leapDay)
  lastError := none
  others := [("dead_lettered_at", .null), ("publish_attempts", .int 1)]

/-- A row that nobody leased. -/
def waitingRow : LegacyRow Json where
  id := 8
  leaseOwner := none
  leaseUntil := none
  lastError := none
  others := [("dead_lettered_at", .null), ("publish_attempts", .int 0)]

/-- The twelve legacy migrations. -/
def migrationRows : List (MigrationRow Json) :=
  legacyMigrations.map fun version => ⟨version, []⟩

/-- The texts of the rows. -/
def recordedTexts : List String :=
  migrationRows.map migrationJsonb ++
    [outboxJsonb expiredRow, outboxJsonb waitingRow]

/-- Their digests. -/
def recordedDigests : List Nat :=
  [
    0xb93e3f05a6ea5034a5823146ea2ae20847470288b676facd562668ac43160b45,
    0x085037f3c9d30246756ef17f2042b417b9a98e3ddd094be3dedb7c72b6d33e54,
    0xb31cb04e8af14ba2c0bff424799e5545eea1e0e9ab3de934d876c683ce54cc22,
    0x616f629d0784b90b9e4bdd59cf7f32de5df32fe9367d5bec5843ba92e97e63d4,
    0x8fa91929ac9ff72a3d6620abe09e0eab6792b0a1463a5e9787a7d7ec50ef5d5c,
    0x152083b36da24ae9cd908ade88053e06e059e605adf4e795e3bac8a98c56f228,
    0x4b6f175907cc0343c3217d5cb7bdee8451340d687d1adbb0f839240a44158211,
    0x8ba5e8c9c4c03ba89262c720b20422565024c7f41a71f288ddf1725a4ce7d2c0,
    0xf2bc0bd1c8522ee0112b6004dee7207a236433b8295a044066d5ec00b628a212,
    0x52d9af341ec2645a431a46ce9f8dec636eefc6250f6423a9641e7994d4cde32b,
    0x76c13422145fca5e705708ffac11ab7832ae97c6a2fd3e95930c2b332054ba47,
    0x1a2dbd4cbfd6728d53af2e0bde9d6a62b00c385110a2c15ab0a5e5978ac1fca8,
    0xf01b624677a6312ebadb02e248053b8c1cefec1f8da9d2bb12a0c2ffff6dea08,
    0x77af4b0f69d92e35e564041ca9c5a3589cf51988ea3bca773a0a7643cdca9995]

/-- The digests of the rows. -/
def recordedTable : List (List UInt8 × Nat) :=
  (recordedTexts.map utf8).zip recordedDigests

/-- The digests of the rows, and one digest for everything else. -/
def recordedHash : FixedHash where
  hex text := (HexDigest.tableDigest recordedTable).hexdigest (utf8 text)
  width := 64
  length_hex text := by
    rw [← String.length_toList]
    exact length_hexText _
  width_pos := sha256Width_pos

/-- The server, where every digest takes a second. -/
def recordedTools : Tools Json where
  sha256 := recordedHash
  rowText := jsonbText
  migrationText := migrationJsonb
  outboxText := outboxJsonb
  loads := id
  reader := isoReader
  seconds _ := 1

/-- The name of a further table. -/
def furtherTable (index : Nat) : String :=
  String.ofList
    ['t', Nat.digitChar (index / 10 % 10), Nat.digitChar (index % 10)]

/-- The tables of the legacy schema. -/
def legacyTables : List String :=
  "message_outbox" :: "schema_migrations" ::
    (List.range 25).map furtherTable

/-- A plan for these tables. -/
def recordedPlan : Plan where
  expectedLegacyTables := legacyTables
  legacySchemaFingerprintSha256 := "schema"
  reconciliationId := "controlled-runtime-1"
  reason := "reviewed"

/-- The database before the migration. -/
def legacyDatabase : LegacyDatabase Json where
  tables _ := []
  migrations := migrationRows
  publicSequences := [("message_outbox_id_seq", "8|t")]
  publicExecutionEventsMaxSequence := 0
  tableNames := legacyTables
  schemaFingerprintSha256 := "schema"
  outbox := [expiredRow, waitingRow]
  outbox_listed := List.mem_cons_self
  ids_nodup := by decide

/-- The evidence of the quarantine. -/
def recordedError : String :=
  ((expectedError recordedTools recordedPlan expiredRow).toOption).getD ""

/--
The database after the migration and the quarantine, where the other row is
in a state and has a start time.
-/
def migratedDatabase (state : String) (startedAt : Option String) :
    RuntimeDatabase Json where
  tables _ := []
  migrations :=
    migrationRows ++ [⟨"018_offline_outbox_reconciliation.sql", []⟩]
  publicSequences := [("message_outbox_id_seq", "8|t")]
  publicExecutionEventsMaxSequence := 0
  outbox :=
    [{ expiredRow with
        leaseOwner := none
        leaseUntil := none
        lastError := some recordedError
        reconciliationState := some "PUBLISH_OUTCOME_UNKNOWN"
        reconciliationId := some "controlled-runtime-1"
        reconciliationStartedAt := some (isoformat leapDay)
        reconciliationOutcomeAt := some (isoformat leapDay) },
      { waitingRow with
        reconciliationState := some state
        reconciliationId := none
        reconciliationStartedAt := startedAt
        reconciliationOutcomeAt := none }]

/-! ### The digests do not collide -/

theorem jsonbCharacters_version (version : String) :
    jsonbCharacters (migrationMembers ⟨version, []⟩) =
      '\x7b' ::
        (writeText "version" ++ ':' :: ' ' :: writeText version ++
          ['\x7d']) := by
  simp only [migrationMembers, jsonbCharacters, List.map_cons, List.map_nil,
    List.intersperse, List.flatten_cons, List.flatten_nil, List.append_nil,
    write, List.cons_append]

theorem migrationJsonb_inj
    {one other : String}
    (same : migrationJsonb ⟨one, []⟩ = migrationJsonb ⟨other, []⟩) :
    one = other := by
  have lists := String.ofList_injective same
  rw [jsonbCharacters_version, jsonbCharacters_version, List.cons.injEq]
    at lists
  exact writeText_injective (by simpa using lists.2)

/-- The texts of the two tables differ at the third character. -/
theorem take_migrationJsonb (version : String) :
    (migrationJsonb ⟨version, []⟩).toList.take 3 = ['\x7b', '"', 'v'] := by
  have quoted :
      writeText "version" =
        ['"', 'v', 'e', 'r', 's', 'i', 'o', 'n', '"'] := by
    decide
  rw [migrationJsonb, jsonbText, String.toList_ofList,
    jsonbCharacters_version, quoted]
  rfl

theorem take_outboxJsonb :
    ∀ row ∈ [expiredRow, waitingRow],
      (outboxJsonb row).toList.take 3 = ['\x7b', '"', 'i'] := by
  unfold outboxJsonb jsonbText
  simp only [String.toList_ofList]
  decide

theorem outboxJsonb_ne : outboxJsonb expiredRow ≠ outboxJsonb waitingRow := by
  intro same
  have starts := congrArg (List.take 8) (String.ofList_injective same)
  revert starts
  decide

theorem recordedTexts_nodup : recordedTexts.Nodup := by
  have versions : legacyMigrations.Nodup := by
    simp [legacyMigrations]
  refine List.nodup_append.2 ⟨?_, by simp [outboxJsonb_ne], ?_⟩
  · rw [migrationRows, List.map_map]
    exact versions.map fun _ _ same => migrationJsonb_inj same
  · intro migration migrationMember outbox outboxMember same
    rcases List.mem_map.1 migrationMember with ⟨row, rowMember, rfl⟩
    rcases List.mem_map.1 rowMember with ⟨version, _, rfl⟩
    rcases List.mem_map.1
        (show outbox ∈ [expiredRow, waitingRow].map outboxJsonb from
          outboxMember) with
      ⟨outboxRow, outboxRowMember, rfl⟩
    have starts := take_outboxJsonb outboxRow outboxRowMember
    rw [← same, take_migrationJsonb] at starts
    exact absurd starts (by decide)

/-- The text of a row begins with a brace. -/
theorem head_jsonbText (members : Members) :
    '\x7b' ∈ (jsonbText members).toList := by
  rw [jsonbText, String.toList_ofList, jsonbCharacters]
  exact List.mem_append_left _ List.mem_cons_self

theorem brace_mem_recordedTexts
    {text : String} (member : text ∈ recordedTexts) :
    '\x7b' ∈ text.toList := by
  rcases List.mem_append.1 member with migration | outbox
  · rcases List.mem_map.1 migration with ⟨row, _, rfl⟩
    exact head_jsonbText _
  · simp only [List.mem_cons, List.not_mem_nil, or_false] at outbox
    rcases outbox with rfl | rfl
    · exact head_jsonbText _
    · exact head_jsonbText _

theorem recordedHash_isSha256 (text : String) :
    HexDigest.isSha256 (recordedHash.hex text) = true :=
  (HexDigest.tableDigest recordedTable).isSha256_hexdigest _

/-- Joined digests have no brace. -/
theorem brace_notMem_joinedHashes
    {Row : Type} (text : Row → String) (rows : List Row) :
    '\x7b' ∉ (joinedHashes recordedHash text rows).toList := by
  have pieces :
      ∀ piece ∈ rowHashes recordedHash text rows, '\x7b' ∉ piece.toList := by
    intro piece member
    rcases List.mem_map.1 ((rowHashes_perm rows).subset member) with
      ⟨row, _, rfl⟩
    intro brace
    have digits := recordedHash_isSha256 (text row)
    simp only [HexDigest.isSha256, Bool.and_eq_true, List.all_eq_true]
      at digits
    exact absurd (digits.2 _ brace) (by decide)
  rw [joinedHashes, String.toList_join, List.mem_flatMap]
  rintro ⟨piece, member, brace⟩
  exact pieces piece member brace

/-- The digests separate the texts of tables whose rows are recorded. -/
theorem separates_recordedHash
    {Row : Type} {text : Row → String} {rows : List Row}
    (recorded : ∀ row ∈ rows, text row ∈ recordedTexts) :
    Separates recordedHash.hex
      (hashedTexts recordedHash text rows ++
        hashedTexts recordedHash text rows) := by
  have keys : recordedTable.map Prod.fst = recordedTexts.map utf8 :=
    List.map_fst_zip (by decide)
  have digests : recordedTable.map Prod.snd = recordedDigests :=
    List.map_snd_zip (by decide)
  have known :
      ∀ value ∈
          hashedTexts recordedHash text rows ++
            hashedTexts recordedHash text rows,
        utf8 value = utf8 (joinedHashes recordedHash text rows) ∨
          utf8 value ∈ recordedTable.map Prod.fst := by
    intro value member
    rw [List.mem_append, or_self, hashedTexts, List.mem_cons] at member
    rcases member with rfl | listed
    · exact Or.inl rfl
    · rcases List.mem_map.1 listed with ⟨row, rowMember, rfl⟩
      right
      rw [keys]
      exact List.mem_map_of_mem (recorded row rowMember)
  have unknown :
      utf8 (joinedHashes recordedHash text rows) ∉
        recordedTable.map Prod.fst := by
    rw [keys, List.mem_map_of_injective utf8_injective]
    intro member
    exact
      brace_notMem_joinedHashes text rows (brace_mem_recordedTexts member)
  intro one oneMember other otherMember same
  refine
    utf8_injective
      (eq_of_hexdigest_tableDigest ?_ ?_ ?_ unknown (known one oneMember)
        (known other otherMember) same)
  · rw [keys]
    exact recordedTexts_nodup.map utf8_injective
  · rw [digests]
    decide
  · rw [digests]
    decide

/-! ### The checks pass -/

theorem filter_migrations (state : String) (startedAt : Option String) :
    (migratedDatabase state startedAt).migrations.filter isLegacyMigration =
      migrationRows := by
  have legacy : migrationRows.filter isLegacyMigration = migrationRows := by
    rw [List.filter_eq_self]
    intro row member
    rcases List.mem_map.1 member with ⟨version, listed, rfl⟩
    exact List.contains_iff_mem.2 listed
  rw [migratedDatabase, List.filter_append, legacy,
    List.filter_cons_of_neg (by simp [isLegacyMigration, legacyMigrations]),
    List.filter_nil, List.append_nil]

theorem project_outbox (state : String) (startedAt : Option String) :
    (migratedDatabase state startedAt).outbox.map (projectRow expiredRow) =
      [expiredRow, waitingRow] :=
  rfl

theorem migrated_collisionFree (state : String) (startedAt : Option String) :
    CollisionFree recordedTools expiredRow legacyDatabase
      (migratedDatabase state startedAt) where
  tableTexts _ :=
    separates_recordedHash fun _ member => absurd member List.not_mem_nil
  tableRows _ := fun _ member => absurd member List.not_mem_nil
  migrationTexts := by
    rw [filter_migrations]
    refine separates_recordedHash fun row member => ?_
    exact List.mem_append_left _ (List.mem_map_of_mem member)
  migrationRows := by
    rw [filter_migrations]
    change Separates migrationJsonb (migrationRows ++ migrationRows)
    intro one oneMember other otherMember same
    rw [List.mem_append, or_self] at oneMember otherMember
    rcases List.mem_map.1 oneMember with ⟨version, _, rfl⟩
    rcases List.mem_map.1 otherMember with ⟨otherVersion, _, rfl⟩
    rw [migrationJsonb_inj same]
  outboxTexts := by
    rw [project_outbox]
    refine separates_recordedHash fun row member => ?_
    refine List.mem_append_right _ ?_
    exact
      (List.mem_map_of_mem member :
        outboxJsonb row ∈ [expiredRow, waitingRow].map outboxJsonb)
  outboxRows := by
    rw [project_outbox]
    change
      Separates outboxJsonb
        ([expiredRow, waitingRow] ++ [expiredRow, waitingRow])
    intro one oneMember other otherMember same
    rw [List.mem_append, or_self] at oneMember otherMember
    simp only [List.mem_cons, List.not_mem_nil, or_false]
      at oneMember otherMember
    rcases oneMember with rfl | rfl <;> rcases otherMember with rfl | rfl
    · rfl
    · exact absurd same outboxJsonb_ne
    · exact absurd same.symm outboxJsonb_ne
    · rfl

/-- Tables that fit the budget together are all digested. -/
theorem digestTables_eq_ok
    {digest : String → Budget → Except SnapshotError (TableDigest × Budget)}
    {value : String → TableDigest} {rows bytes : String → Nat}
    {names : List String} {budget : Budget}
    (digested :
      ∀ table ∈ names, ∀ budget : Budget,
        budget.rows + rows table ≤ maxRows →
          budget.bytes + bytes table ≤ maxBytes →
            digest table budget =
              .ok
                (value table,
                  ⟨budget.rows + rows table, budget.bytes + bytes table⟩))
    (rowsFit : budget.rows + (names.map rows).sum ≤ maxRows)
    (bytesFit : budget.bytes + (names.map bytes).sum ≤ maxBytes) :
    digestTables digest budget names =
      .ok (names.map fun table => (table, value table)) := by
  induction names generalizing budget with
  | nil => rfl
  | cons table rest induction =>
      rw [List.forall_mem_cons] at digested
      rw [List.map_cons, List.sum_cons] at rowsFit bytesFit
      have first := digested.1 budget (by omega) (by omega)
      have following :
          digestTables digest
              ⟨budget.rows + rows table, budget.bytes + bytes table⟩ rest =
            .ok (rest.map fun table => (table, value table)) :=
        induction digested.2 (by simpa [Nat.add_assoc] using rowsFit)
          (by simpa [Nat.add_assoc] using bytesFit)
      simp only [digestTables, bind_eq_ok_iff, pure_eq_ok_iff]
      exact ⟨_, first, _, following, rfl⟩

theorem digestTables_fresh_eq_ok
    {digest : String → Budget → Except SnapshotError (TableDigest × Budget)}
    {value : String → TableDigest} {rows bytes : String → Nat}
    {names : List String}
    (digested :
      ∀ table ∈ names, ∀ budget : Budget,
        budget.rows + rows table ≤ maxRows →
          budget.bytes + bytes table ≤ maxBytes →
            digest table budget =
              .ok
                (value table,
                  ⟨budget.rows + rows table, budget.bytes + bytes table⟩))
    (rowsFit : (names.map rows).sum ≤ maxRows)
    (bytesFit : (names.map bytes).sum ≤ maxBytes) :
    digestTables digest .fresh names =
      .ok (names.map fun table => (table, value table)) :=
  digestTables_eq_ok digested ((Nat.zero_add _).trans_le rowsFit)
    ((Nat.zero_add _).trans_le bytesFit)

theorem tableDigest_eq_ok
    {hash : FixedHash} {Row : Type} (text : Row → String) {budget : Budget}
    {rows : List Row} (rowsFit : budget.rows + rows.length ≤ maxRows)
    (bytesFit : budget.bytes + tableBytes text rows ≤ maxBytes) :
    tableDigest hash text budget 1 rows =
      .ok
        (⟨rows.length, sortedDigest hash text rows⟩,
          ⟨budget.rows + rows.length, budget.bytes + tableBytes text rows⟩) :=
    by
  simp only [tableDigest, bind_eq_ok_iff, refuseIf_eq_ok_iff, exists_const,
    pure_eq_ok_iff, and_true, not_or, not_lt, gt_iff_lt]
  exact ⟨rowsFit, bytesFit, by decide⟩

theorem projectedTableDigest_eq_ok
    {Row : Type} (text : Row → String) {budget : Budget}
    {rows : List Row} (rowsFit : budget.rows + rows.length ≤ maxRows)
    (bytesFit : budget.bytes + tableBytes text rows ≤ maxBytes) :
    projectedTableDigest recordedTools text budget 1 rows =
      .ok
        (⟨rows.length, sortedDigest recordedHash text rows⟩,
          ⟨budget.rows + rows.length, budget.bytes + tableBytes text rows⟩) :=
    by
  simp only [projectedTableDigest, bind_eq_ok_iff, refuseIf_eq_ok_iff,
    exists_const, pure_eq_ok_iff, not_or, not_lt, gt_iff_lt]
  exact ⟨⟨rowsFit, bytesFit, by decide⟩, rfl⟩

/-- The bytes of a table. -/
def recordedBytes (table : String) : Nat :=
  if table = "schema_migrations" then
    tableBytes migrationJsonb migrationRows
  else if table = "message_outbox" then
    tableBytes outboxJsonb [expiredRow, waitingRow]
  else
    0

/-- The entry of a table. -/
def recordedEntry (table : String) : TableDigest :=
  legacyEntry recordedTools legacyDatabase table

theorem furtherTable_ne (index : Nat) :
    furtherTable index ≠ "schema_migrations" ∧
      furtherTable index ≠ "message_outbox" := by
  have short : (furtherTable index).length = 3 := by
    rw [furtherTable, String.length_ofList]
    rfl
  constructor
  · intro same
    rw [same] at short
    exact absurd short (by decide)
  · intro same
    rw [same] at short
    exact absurd short (by decide)

/-- A sum over the tables has two summands. -/
theorem sum_legacyTables
    {summand : String → Nat} {migrations outbox : Nat}
    (each :
      ∀ table, summand table =
        if table = "schema_migrations" then migrations
        else if table = "message_outbox" then outbox
        else 0) :
    (legacyTables.map summand).sum = outbox + migrations := by
  have others :
      ∀ value ∈ ((List.range 25).map furtherTable).map summand,
        value = 0 := by
    intro value member
    rw [List.map_map] at member
    rcases List.mem_map.1 member with ⟨index, _, rfl⟩
    rw [Function.comp_apply, each, if_neg (furtherTable_ne index).1,
      if_neg (furtherTable_ne index).2]
  rw [legacyTables, List.map_cons, List.map_cons, List.sum_cons,
    List.sum_cons, List.sum_eq_zero others, each, each]
  simp

/-- The bytes of a table, counted at four a character. -/
theorem tableBytes_le
    {Row : Type} (columns : Row → Members) (rows : List Row) :
    tableBytes (fun row => jsonbText (columns row)) rows ≤
      (rows.map fun row => 4 * (jsonbCharacters (columns row)).length).sum := by
  unfold tableBytes
  refine List.sum_le_sum fun row _ => ?_
  exact HexDigest.length_utf8_le (jsonbCharacters (columns row))

theorem recordedRows_fit :
    (legacyTables.map fun table => (recordedEntry table).count).sum ≤
      maxRows := by
  have each :
      ∀ table, (recordedEntry table).count =
        if table = "schema_migrations" then 12
        else if table = "message_outbox" then 2
        else 0 := by
    intro table
    unfold recordedEntry legacyEntry
    split_ifs <;> rfl
  rw [sum_legacyTables each]
  decide

theorem tableBytes_migrationRows :
    tableBytes migrationJsonb migrationRows ≤ 20000 := by
  have short : ∀ version ∈ legacyMigrations, version.toList.length ≤ 40 := by
    simp only [legacyMigrations, String.length_toList, List.forall_mem_cons,
      List.not_mem_nil, false_implies, implies_true, and_true]
    and_intros
    all_goals exact String.length_ofList.trans_le (by decide)
  have quoted : (writeText "version").length = 9 := by decide
  have each :
      ∀ bytes ∈
          migrationRows.map fun row =>
            4 * (jsonbCharacters (migrationMembers row)).length,
        bytes ≤ 1500 := by
    intro bytes member
    rcases List.mem_map.1 member with ⟨row, rowMember, rfl⟩
    rcases List.mem_map.1 rowMember with ⟨version, listed, rfl⟩
    have written := length_writeText_le version
    have bounded := short version listed
    simp only [jsonbCharacters_version, List.length_cons,
      List.length_append, List.length_nil, quoted]
    omega
  refine (tableBytes_le migrationMembers migrationRows).trans ?_
  exact (List.sum_le_card_nsmul _ _ each).trans (by decide)

theorem recordedBytes_fit :
    (legacyTables.map recordedBytes).sum ≤ maxBytes := by
  have sum :
      (legacyTables.map recordedBytes).sum =
        tableBytes outboxJsonb [expiredRow, waitingRow] +
          tableBytes migrationJsonb migrationRows :=
    sum_legacyTables fun _ => rfl
  have outbox :
      tableBytes outboxJsonb [expiredRow, waitingRow] ≤ 4000 :=
    (tableBytes_le outboxMembers [expiredRow, waitingRow]).trans
      (by decide +kernel)
  have migrations : tableBytes migrationJsonb migrationRows ≤ 20000 :=
    tableBytes_migrationRows
  rw [sum, maxBytes]
  omega

theorem recordedNames :
    ∀ table ∈ legacyTables, isTableName table = true := by
  have further :
      ∀ index ∈ List.range 25, isTableName (furtherTable index) = true := by
    unfold isTableName furtherTable
    simp only [String.toList_ofList]
    decide
  intro table member
  rw [legacyTables, List.mem_cons, List.mem_cons] at member
  rcases member with rfl | rfl | inRest
  · decide
  · decide
  · rcases List.mem_map.1 inRest with ⟨index, listed, rfl⟩
    exact further index listed

theorem legacyDigest_recorded
    {table : String} (listed : table ∈ legacyTables) {budget : Budget}
    (rowsFit : budget.rows + (recordedEntry table).count ≤ maxRows)
    (bytesFit : budget.bytes + recordedBytes table ≤ maxBytes) :
    legacyDigest recordedTools legacyDatabase table budget =
      .ok
        (recordedEntry table,
          ⟨budget.rows + (recordedEntry table).count,
            budget.bytes + recordedBytes table⟩) := by
  simp only [legacyDigest, bind_eq_ok_iff, refuseIf_eq_ok_iff, exists_const]
  refine ⟨by simp [recordedNames table listed], ?_⟩
  unfold recordedEntry legacyEntry recordedBytes at *
  split_ifs at * <;> exact tableDigest_eq_ok _ rowsFit bytesFit

theorem projectedDigest_recorded
    (state : String) (startedAt : Option String)
    {table : String} (listed : table ∈ legacyTables) {budget : Budget}
    (rowsFit : budget.rows + (recordedEntry table).count ≤ maxRows)
    (bytesFit : budget.bytes + recordedBytes table ≤ maxBytes) :
    projectedDigest recordedTools expiredRow
        (migratedDatabase state startedAt) table budget =
      .ok
        (recordedEntry table,
          ⟨budget.rows + (recordedEntry table).count,
            budget.bytes + recordedBytes table⟩) := by
  unfold projectedDigest
  rw [filter_migrations, project_outbox]
  unfold recordedEntry legacyEntry recordedBytes at *
  split_ifs at *
  · exact projectedTableDigest_eq_ok _ rowsFit bytesFit
  · exact projectedTableDigest_eq_ok _ rowsFit bytesFit
  · simp only [bind_eq_ok_iff, refuseIf_eq_ok_iff, exists_const]
    exact
      ⟨by simp [recordedNames table listed],
        projectedTableDigest_eq_ok _ rowsFit bytesFit⟩

/-- The history of both databases. -/
def recordedHistory : History where
  migrations := legacyMigrations
  schemaFingerprintSha256 := "schema"
  tables := legacyTables.map fun table => (table, recordedEntry table)
  publicSequences := [("message_outbox_id_seq", "8|t")]
  publicExecutionEventsMaxSequence := 0

theorem ofList_le {left right : List Char} (before : left ≤ right) :
    String.ofList left ≤ String.ofList right := by
  rwa [String.le_iff_toList_le, String.toList_ofList, String.toList_ofList]

theorem legacyHistory_recorded :
    legacyHistory recordedTools recordedPlan legacyDatabase =
      .ok recordedHistory := by
  have versions :
      legacyDatabase.migrations.map MigrationRow.version =
        legacyMigrations := by
    rfl
  have sorted :
      legacyMigrations.insertionSort (· ≤ ·) = legacyMigrations := by
    refine List.Pairwise.insertionSort_eq (List.isChain_iff_pairwise.1 ?_)
    unfold legacyMigrations
    repeat' refine List.isChain_cons_cons.2 ⟨?_, ?_⟩
    all_goals first
      | exact ofList_le (by decide)
      | exact List.isChain_singleton _
  have digested :
      digestTables (legacyDigest recordedTools legacyDatabase) .fresh
          legacyTables =
        .ok (legacyTables.map fun table => (table, recordedEntry table)) :=
    digestTables_fresh_eq_ok
      (fun table listed _ => legacyDigest_recorded listed)
      recordedRows_fit recordedBytes_fit
  simp only [legacyHistory, bind_eq_ok_iff, refuseIf_eq_ok_iff, exists_const,
    pure_eq_ok_iff, not_not]
  exact ⟨rfl, versions ▸ sorted, _, digested, rfl⟩

theorem projectedHistory_recorded
    (state : String) (startedAt : Option String) :
    projectedHistory recordedTools recordedPlan expiredRow
        (migratedDatabase state startedAt) =
      .ok recordedHistory := by
  have digested :
      digestTables
          (projectedDigest recordedTools expiredRow
            (migratedDatabase state startedAt))
          .fresh legacyTables =
        .ok (legacyTables.map fun table => (table, recordedEntry table)) :=
    digestTables_fresh_eq_ok
      (fun table listed _ => projectedDigest_recorded state startedAt listed)
      recordedRows_fit recordedBytes_fit
  simp only [projectedHistory, bind_eq_ok_iff, pure_eq_ok_iff]
  exact ⟨_, digested, rfl⟩

theorem expectedError_recorded :
    expectedError recordedTools recordedPlan expiredRow =
      .ok recordedError := by
  have written :
      utcMicroseconds recordedTools expiredRow.leaseUntil =
        .ok (isoMicroseconds leapDay) := by
    unfold utcMicroseconds
    rw [expiredRow, Option.bind_some, replace_zulu_of_isoformat,
      recordedTools, IsoReader.fromisoformat_isoformat]
    rfl
  have computed :
      ∃ error,
        expectedError recordedTools recordedPlan expiredRow = .ok error := by
    unfold expectedError
    rw [written]
    exact ⟨_, rfl⟩
  rcases computed with ⟨error, computed⟩
  rw [recordedError, computed]
  rfl

/-- The checks pass, whatever the columns of the other row hold. -/
theorem migrated_accepted (state : String) (startedAt : Option String) :
    acceptQuarantine recordedTools recordedPlan expiredRow legacyDatabase
        (migratedDatabase state startedAt) =
      .ok () := by
  simp only [acceptQuarantine, bind_eq_ok_iff, refuseIf_eq_ok_iff, not_not]
  refine
    ⟨_, legacyHistory_recorded, _,
      quarantinedRow_eq_ok_iff.2 ⟨rfl, rfl, rfl, rfl⟩, (),
      checkExactQuarantine_eq_ok_iff.2
        ⟨?_, ⟨rfl, rfl, rfl, rfl⟩, _, expectedError_recorded, rfl, rfl⟩,
      _, projectedHistory_recorded state startedAt, rfl⟩
  have absent : Json.null.pyEq .null = true := rfl
  simp [keepsColumns, expiredRow, recordedTools, List.lookup_cons, absent]

/-- Another row may be left in the state of a quarantined one. -/
theorem acceptQuarantine_passes_other_state :
    CollisionFree recordedTools expiredRow legacyDatabase
        (migratedDatabase "PUBLISH_OUTCOME_UNKNOWN" none) ∧
      expiredRow ∈ legacyDatabase.outbox ∧
      acceptQuarantine recordedTools recordedPlan expiredRow legacyDatabase
          (migratedDatabase "PUBLISH_OUTCOME_UNKNOWN" none) =
        .ok () ∧
      ¬ OneRowChanged recordedTools recordedPlan expiredRow legacyDatabase
          (migratedDatabase "PUBLISH_OUTCOME_UNKNOWN" none) := by
  refine
    ⟨migrated_collisionFree _ _, List.mem_cons_self, migrated_accepted _ _,
      fun changed => ?_⟩
  have defaults :=
    changed.defaults (List.mem_cons_of_mem _ List.mem_cons_self) rfl
  exact absurd defaults.1 (by simp)

/-- With the default columns, one row was changed. -/
theorem acceptQuarantine_oneRow_iff_default :
    acceptQuarantine recordedTools recordedPlan expiredRow legacyDatabase
          (migratedDatabase "NONE" none) =
        .ok () ∧
      OneRowChanged recordedTools recordedPlan expiredRow legacyDatabase
        (migratedDatabase "NONE" none) := by
  refine ⟨migrated_accepted _ _, ?_⟩
  refine
    (acceptQuarantine_oneRow_iff (migrated_collisionFree _ _)
      List.mem_cons_self (migrated_accepted _ _)).2 fun row member absent => ?_
  simp only [migratedDatabase, List.mem_cons, List.not_mem_nil, or_false]
    at member
  rcases member with rfl | rfl
  · cases absent
  · exact ⟨rfl, rfl, rfl⟩

end Recorded

end KairosDeploy.Primary.ExactQuarantine
