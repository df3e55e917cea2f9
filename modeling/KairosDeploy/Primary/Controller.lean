import KairosDeploy.Library.FaultyProgram
import KairosDeploy.Primary.RemoteArtifacts

/-!
# The controller of the primary transition

`PrimaryController.run` followed by `finish`, over the state that it shares
with Docker: the temporary files in the primary container, the records in the
run directory, the database, the labelled containers, and the fields of the
controller itself.  Every step on the outside world asks the environment for
its fate: it may work, raise before, within or after its effect, or be killed
at any of these points.
-/

namespace KairosDeploy.Primary.Controller

open KairosDeploy.Library.JsonValue
open KairosDeploy.Library.HexDigest
open KairosDeploy.Library.FaultyProgram
open KairosDeploy.Library.FaultyProgram.Program
open KairosDeploy.Primary.RemoteArtifacts

/-! ## The state -/

inductive FileKind where
  | regular
  | symlink
  | other
deriving DecidableEq, Repr

/-- A file in the container. -/
structure RemoteFile where
  bytes : List UInt8
  kind : FileKind
  links : Nat
  uid : Nat
  /-- Whether `docker cp` or `pg_dump` of this run created it. -/
  fromRun : Bool
deriving DecidableEq, Repr

/-- An entry of `remote_create_intents`. -/
structure Intent where
  record : Members
  sha256 : String

/-- Everything that belongs to one temporary file. -/
structure Slot where
  /-- The reservation `remote-create-<purpose>.json`. -/
  create : Option FileState
  /-- The record `remote-remove-<purpose>.json`. -/
  remove : Option FileState
  /-- The file in the container. -/
  remote : Option RemoteFile
  /-- The private file of the run directory. -/
  localFile : Option (List UInt8)
  /-- The entry of `remote_create_intents`. -/
  intent : Option Intent
  /-- The entry of `remote_owned_files`. -/
  owned : Option String

/-- One `rm` in the container, with what was known when it was issued. -/
structure Removal where
  purpose : Purpose
  slot : Slot

/-- The values of `temporary_role` in a receipt. -/
inductive RoleLabel where
  | notAttempted
  | unknown
  | created
  | createdAndDropped
deriving DecidableEq, Repr

/-- The values of `schema_quarantine` in a receipt. -/
inductive SchemaLabel where
  | notAttempted
  | unknown
  | committed
deriving DecidableEq, Repr

/-- What `finish` writes to `primary-receipt.json`. -/
structure Receipt where
  passed : Bool
  phase : String
  errorCategory : Option String
  cleanupVerified : Bool
  temporaryRole : RoleLabel
  schemaQuarantine : SchemaLabel
  cleanupUncertain : Bool
  remoteArtifactCleanup : Option Evidence

/-- Everything but the temporary files. -/
structure Status where
  /-- `started-primary.json`. -/
  marker : Option FileState
  /-- `native-apply.json`. -/
  nativeApply : Option FileState
  /-- `primary-receipt.json`. -/
  receipt : Option Receipt
  /-- The temporary login role of this run exists. -/
  role : Bool
  /-- The SQL that drops the role took effect. -/
  roleDropped : Bool
  /-- The runtime transition is committed. -/
  committed : Bool
  /-- The containers with the label of the owner. -/
  containers : List String
  /-- `docker start` of the primary was issued. -/
  startIssued : Bool
  /-- The primary was seen stopped after its last start. -/
  seenStopped : Bool
  phase : String
  startedSource : Bool
  provisionAttempted : Bool
  primaryApplyInvoked : Bool
  workerCleanupVerified : Bool
  workers : List String
  ownedContainers : List String
  /-- `proofs["temporary_login_provision_acknowledged"]`. -/
  provisionAcknowledged : Bool
  /-- `proofs["temporary_login_drop_acknowledged"]`. -/
  dropAcknowledged : Bool
  /-- `proofs["primary_cleanup_uncertain"]`. -/
  cleanupUncertain : Bool
  /-- `proofs["remote_artifact_cleanup"]`. -/
  remoteCleanup : Option Evidence

/-- The run directory, the container, the database and the controller. -/
structure World extends Status where
  /-- The steps on the outside world so far. -/
  clock : Nat
  slot : Purpose → Slot
  /-- The `rm` commands issued so far. -/
  issued : List Removal
  /-- The `psql` calls issued so far, each with its step. -/
  sqlIssued : List (Purpose × Nat)

/-- What the apply worker did: a receipt is written after a commit only. -/
inductive ApplyResult where
  | rolledBack
  | committed (receipt : Option FileState)

def ApplyResult.isCommitted : ApplyResult → Bool
  | rolledBack => false
  | committed _ => true

def ApplyResult.receipt : ApplyResult → Option FileState
  | rolledBack => none
  | committed receipt => receipt

/-- What the outside world does at one step. -/
structure Answer where
  fate : Fate Failure
  /-- The primary is inspected as exited. -/
  exited : Bool
  /-- `id -u postgres`, absent where it is no number. -/
  postgresUid : Option Nat
  /-- What `pg_dump` writes. -/
  dump : List UInt8
  apply : ApplyResult

/-- The arguments of the controller and everything outside it. -/
structure Environment where
  owner : String
  revision : String
  ownerHex : isHex 32 owner = true
  revisionHex : isHex 40 revision = true
  sha256 : Sha256
  /-- The bytes that `fresh.save` writes. -/
  encode : Members → List UInt8
  /-- The generated SQL. -/
  sql : Purpose → List UInt8
  answer : Nat → Answer

/-! ## Changes of the state -/

namespace World

def setSlot (world : World) (purpose : Purpose) (slot : Slot) : World :=
  { world with slot := Function.update world.slot purpose slot }

def tick (world : World) : World :=
  { world with clock := world.clock + 1 }

@[simp]
theorem setSlot_slot_self (world : World) (purpose : Purpose) (slot : Slot) :
    (world.setSlot purpose slot).slot purpose = slot := by
  show Function.update world.slot purpose slot purpose = slot
  exact Function.update_self purpose slot world.slot

@[simp]
theorem setSlot_slot_other
    {purpose other : Purpose} (apart : other ≠ purpose) (world : World)
    (slot : Slot) :
    (world.setSlot purpose slot).slot other = world.slot other := by
  show Function.update world.slot purpose slot other = world.slot other
  exact Function.update_of_ne apart slot world.slot

/-- A file of the run directory under a name, if it is there. -/
def entry (name : String) (file : Option FileState) :
    List (String × FileState) :=
  file.toList.map fun state => (name, state)

/-- The run directory, as far as the controller's records go. -/
def directory (world : World) : RunDirectory where
  isLink := false
  files :=
    entry "started-primary.json" world.marker ++
      entry "native-apply.json" world.nativeApply ++
      Purpose.all.flatMap fun purpose =>
        entry purpose.createName (world.slot purpose).create ++
          entry purpose.removeName (world.slot purpose).remove

end World

/-! ## Steps -/

section Steps

variable (env : Environment)

/-- A program of the controller. -/
abbrev Run (Value : Type) : Type := Program World Failure Value

/-- What a `docker` command raises that fails. -/
def commandFailed : Failure := raised "GateError"

/-- One step on the outside world. -/
def step (effect : Extent → World → World) : Run Unit :=
  perform (fun world => (env.answer world.clock).fate)
    fun extent world => (effect extent world).tick

/-- A step that changes nothing of the state here; where its result does not
meet the source's conditions, it raises. -/
def external : Run Unit :=
  step env fun _ world => world

/-- A step on everything but the temporary files. -/
def statusStep (effect : Extent → Status → Status) : Run Unit :=
  step env fun extent world =>
    { world with toStatus := effect extent world.toStatus }

/-- A change of the same in the controller's memory. -/
def updateStatus (change : Status → Status) : Run Unit :=
  update fun world => { world with toStatus := change world.toStatus }

/-- A condition on the same. -/
def refuseStatus (condition : Status → Bool) (failure : Failure) :
    Run Unit :=
  refuseWhen (fun world => condition world.toStatus) failure

/-- A step on one slot. -/
def slotStep (purpose : Purpose) (effect : Extent → Slot → Slot) : Run Unit :=
  step env fun extent world =>
    world.setSlot purpose (effect extent (world.slot purpose))

/-- A condition on one slot. -/
def slotRefuse (purpose : Purpose) (condition : Slot → Bool)
    (failure : Failure) : Run Unit :=
  refuseWhen (fun world => condition (world.slot purpose)) failure

/-- A change of one slot in the controller's memory. -/
def updateSlot (purpose : Purpose) (change : Slot → Slot) : Run Unit :=
  update fun world => world.setSlot purpose (change (world.slot purpose))

/-- The outcome of a create-only write. -/
def written (value : FileState) : Extent → Option FileState
  | .nothing => none
  | .part _ => some .garbled
  | .whole => some value

/-- The file that `fresh.save` leaves. -/
def savedRecord (record : Members) : FileState :=
  .json (.object record) (env.sha256.hexdigest (env.encode record))

/-- Bytes that are written step by step. -/
def copied (bytes : List UInt8) : Extent → Option (List UInt8)
  | .nothing => none
  | .part count => some (bytes.take count)
  | .whole => some bytes

/-- A file that a process of UID 0 creates in the container. -/
def createdFile (bytes : List UInt8) : RemoteFile where
  bytes := bytes
  kind := .regular
  links := 1
  uid := 0
  fromRun := true

/-- `assert_primary_target`. -/
def assertPrimaryTarget : Run Unit := external env

/-! ## Reservation and copy -/

/-- `expected_sha256`, `expected_bytes` and `maximum_bytes`. -/
def expectations (purpose : Purpose) (payload : List UInt8) :
    Json × Json × Int :=
  if purpose = .backupAfter then (.null, .null, maxPrimaryTempBytes)
  else
    (.text (env.sha256.hexdigest payload), .int payload.length,
      payload.length)

/-- The entries of the record that `_reserve_remote_file` saves. -/
def createEntries (purpose : Purpose) (payload : List UInt8) : Members :=
  [("schema_version", .int 1),
    ("kind", .text "controlled-primary-remote-create-v1"),
    ("owner", .text env.owner),
    ("source_container_id", .text sourceId),
    ("purpose", .text purpose.text),
    ("remote_path", .text (purpose.remotePath env.owner)),
    ("expected_revision", .text env.revision),
    ("expected_sha256", (expectations env purpose payload).1),
    ("expected_bytes", (expectations env purpose payload).2.1),
    ("maximum_bytes", .int (expectations env purpose payload).2.2)]

/-- The record that `_reserve_remote_file` saves. -/
def createRecord (purpose : Purpose) (payload : List UInt8) : Members :=
  dict (createEntries env purpose payload)

/-- The conditions on the private SQL file. -/
def sqlSourceAccepted (slot : Slot) : Bool :=
  slot.localFile.any fun payload =>
    0 < payload.length && (payload.length : Int) ≤ maxPrivateSqlBytes

/-- `_require_remote_absent`. -/
def requireRemoteAbsent (purpose : Purpose) : Run Unit := do
  external env
  slotRefuse purpose
    (fun slot => slot.remote.any fun file => file.kind ≠ .symlink)
    commandFailed
  external env
  slotRefuse purpose
    (fun slot => slot.remote.any fun file => file.kind = .symlink)
    commandFailed

/-- `_reserve_remote_file`. -/
def reserveRemoteFile (purpose : Purpose) : Run Unit := do
  slotRefuse purpose (fun slot => slot.intent.isSome)
    (rejected "PRIMARY_REMOTE_CREATE_ALREADY_RESERVED")
  slotRefuse purpose
    (fun slot => purpose ≠ .backupAfter && !sqlSourceAccepted slot)
    (rejected "PRIMARY_PRIVATE_SQL_SOURCE_INVALID")
  let payload ← observe fun world =>
    ((world.slot purpose).localFile).getD []
  assertPrimaryTarget env
  requireRemoteAbsent env purpose
  let record := createRecord env purpose payload
  -- `fresh.save` opens the record with mode "xb".
  slotRefuse purpose (fun slot => slot.create.isSome)
    (raised "FileExistsError")
  slotStep env purpose fun extent slot =>
    { slot with create := written (savedRecord env record) extent }
  external env
  updateSlot purpose fun slot =>
    { slot with
      intent := some ⟨record, env.sha256.hexdigest (env.encode record)⟩ }

/-- `_copy_sql`. -/
def copySql (purpose : Purpose) : Run Unit := do
  slotRefuse purpose (fun slot => slot.localFile.isNone)
    (rejected "PRIVATE_SQL_FILE_REQUIRED")
  reserveRemoteFile env purpose
  slotStep env purpose fun extent slot =>
    match slot.localFile.bind fun bytes => copied bytes extent with
    | none => slot
    | some bytes => { slot with remote := some (createdFile bytes) }
  -- chmod
  external env
  -- sha256sum
  external env
  slotRefuse purpose
    (fun slot =>
      slot.remote.map (fun file => env.sha256.hexdigest file.bytes) ≠
        slot.localFile.map env.sha256.hexdigest)
    (rejected "COPIED_PRIVATE_SQL_HASH_MISMATCH")
  updateSlot purpose fun slot =>
    { slot with owned := slot.localFile.map env.sha256.hexdigest }

/-! ## Removal -/

/-- `_remote_file_state`: nothing for `ABSENT`. -/
def remoteFileState (purpose : Purpose) : Run (Option RemoteFile) := do
  external env
  slotRefuse purpose
    (fun slot => slot.remote.any fun file => file.kind ≠ .regular)
    commandFailed
  observe fun world => (world.slot purpose).remote

/-- The conditions on owner, links, kind and size of the file. -/
def ownershipVerified (record : Members) (file : RemoteFile)
    (postgresUid : Option Nat) : Bool :=
  postgresUid.any (fun uid => file.uid = 0 || file.uid = uid) &&
    file.links = 1 && file.kind = .regular &&
    (exactInt (get record "maximum_bytes")).any fun maximum =>
      (file.bytes.length : Int) ≤ maximum

/-- The private SQL is still what the reservation says. -/
def sourceVerified (record : Members) (slot : Slot) : Bool :=
  slot.localFile.any fun bytes =>
    (Json.int bytes.length).pyEq (get record "expected_bytes") &&
      (Json.text (env.sha256.hexdigest bytes)).pyEq
        (get record "expected_sha256")

/-- `"PGDMP"[:min(5, size)]`, as bytes. -/
def dumpHeader (size : Nat) : List UInt8 :=
  (utf8 "PGDMP").take (min 5 size)

/-- The digest that a file must have, if one is known. -/
def expectedDigest (purpose : Purpose) (record : Members)
    (file : RemoteFile) : Run (Option Json) := do
  let slot ← observe fun world => world.slot purpose
  if purpose ≠ .backupAfter then
    if (Json.int file.bytes.length).pyEq (get record "expected_bytes") then
      return some (get record "expected_sha256")
    else do
      refuseWhen (fun _ => !sourceVerified env record slot)
        (rejected "PRIMARY_PARTIAL_SQL_SOURCE_UNVERIFIED")
      return some (.text (env.sha256.hexdigest
        ((slot.localFile.getD []).take file.bytes.length)))
  else
    match slot.owned with
    | some digest => return some (.text digest)
    | none => do
        -- head -c 5
        external env
        refuseWhen
          (fun _ => file.bytes.take 5 ≠ dumpHeader file.bytes.length)
          (rejected "PRIMARY_PARTIAL_DUMP_HEADER_UNVERIFIED")
        return none

/-- `rm -f` of the file in the container. -/
def issueRemoval (purpose : Purpose) : Run Unit := do
  update fun world =>
    { world with issued := ⟨purpose, world.slot purpose⟩ :: world.issued }
  slotStep env purpose fun extent slot =>
    if extent = .whole then { slot with remote := none } else slot

/-- The removal of a file that is there: its digest and size. -/
def removeFile (purpose : Purpose) (record : Members) (file : RemoteFile) :
    Run (Json × Json) := do
  let uid ← observe fun world => (env.answer world.clock).postgresUid
  external env
  refuseWhen (fun _ => !ownershipVerified record file uid)
    (rejected "PRIMARY_REMOTE_FILE_OWNERSHIP_UNVERIFIED")
  -- sha256sum
  external env
  let observed := env.sha256.hexdigest file.bytes
  let expected ← expectedDigest env purpose record file
  refuseWhen
    (fun _ => expected.any fun digest => !(Json.text observed).pyEq digest)
    (rejected "CONTAINER_TEMP_FILE_IDENTITY_CHANGED")
  let again ← remoteFileState env purpose
  refuseWhen (fun _ => again ≠ some file)
    (rejected "PRIMARY_REMOTE_FILE_CHANGED_DURING_CLEANUP")
  issueRemoval env purpose
  return (.text observed, .int file.bytes.length)

/-- The entries of the record that `_remove_owned_container_file` saves. -/
def removeEntries (purpose : Purpose) (intentSha outcome : String)
    (sha256 size : Json) : Members :=
  [("schema_version", .int 1),
    ("kind", .text "controlled-primary-remote-remove-v1"),
    ("owner", .text env.owner),
    ("source_container_id", .text sourceId),
    ("purpose", .text purpose.text),
    ("remote_path", .text (purpose.remotePath env.owner)),
    ("create_intent_sha256", .text intentSha),
    ("outcome", .text outcome),
    ("observed_sha256", sha256),
    ("observed_bytes", size)]

/-- The record that `_remove_owned_container_file` saves. -/
def removeRecord (purpose : Purpose) (intentSha outcome : String)
    (sha256 size : Json) : Members :=
  dict (removeEntries env purpose intentSha outcome sha256 size)

/-- The removal of what is there, and the record of it. -/
def removalRecord (purpose : Purpose) (intent : Intent)
    (state : Option RemoteFile) : Run Members :=
  match state with
  | none =>
      pure (removeRecord env purpose intent.sha256 "ABSENT" .null .null)
  | some file => do
      let (sha256, size) ← removeFile env purpose intent.record file
      return removeRecord env purpose intent.sha256 "OWNED_BYTES_REMOVED"
        sha256 size

/-- `_remove_owned_container_file`. -/
def removeOwnedContainerFile (purpose : Purpose) : Run Unit := do
  let known ← observe fun world => (world.slot purpose).intent
  match known with
  | none => raise (rejected "UNOWNED_CONTAINER_FILE_CLEANUP_REFUSED")
  | some intent => do
      let create ← observe fun world => (world.slot purpose).create
      let (stored, sha256) ← lift (readJson create)
      refuseWhen
        (fun _ =>
          !((Json.object stored).pyEq (.object intent.record) &&
            sha256 = intent.sha256))
        (rejected "PRIMARY_REMOTE_CREATE_INTENT_CHANGED")
      assertPrimaryTarget env
      let state ← remoteFileState env purpose
      let record ← removalRecord env purpose intent state
      requireRemoteAbsent env purpose
      slotRefuse purpose (fun slot => slot.remove.isSome)
        (raised "FileExistsError")
      slotStep env purpose fun extent slot =>
        { slot with remove := written (savedRecord env record) extent }
      updateSlot purpose fun slot =>
        { slot with intent := none, owned := none }

/-! ## SQL, containers and workers -/

/-- What the SQL of a purpose does to the database, as one transaction. -/
def sqlEffect (purpose : Purpose) (status : Status) : Status :=
  match purpose with
  | .provisionSql => { status with role := true }
  | .cleanupSql => { status with role := false, roleDropped := true }
  | .backupAfter => status

/-- `proofs[label + "_acknowledged"] = True`. -/
def acknowledge (purpose : Purpose) (status : Status) : Status :=
  match purpose with
  | .provisionSql => { status with provisionAcknowledged := true }
  | .cleanupSql => { status with dropAcknowledged := true }
  | .backupAfter => status

/-- The `psql` call of `_run_sql_file`. -/
def psql (purpose : Purpose) : Run Unit := do
  -- The provision SQL raises where the role exists.
  refuseStatus (fun status => purpose = .provisionSql && status.role)
    commandFailed
  update fun world =>
    { world with sqlIssued := (purpose, world.clock) :: world.sqlIssued }
  statusStep env fun extent status =>
    if extent = .whole then sqlEffect purpose status else status

/-- `_run_sql_file`. -/
def runSqlFile (purpose : Purpose) : Run Unit := do
  copySql env purpose
  assertPrimaryTarget env
  psql env purpose
  updateStatus (acknowledge purpose)
  removeOwnedContainerFile env purpose

/-- `fresh.write` of the generated SQL. -/
def writeSql (purpose : Purpose) : Run Unit := do
  slotRefuse purpose (fun slot => slot.localFile.isSome)
    (raised "FileExistsError")
  slotStep env purpose fun extent slot =>
    { slot with localFile := copied (env.sql purpose) extent }

/-- `unlink` of a private SQL file. -/
def unlinkSql (purpose : Purpose) : Run Unit :=
  slotStep env purpose fun extent slot =>
    if extent = .whole then { slot with localFile := none } else slot

/-- The `docker create` of a container with the owner's label. -/
def dockerCreate (name : String) : Run Unit :=
  statusStep env fun extent status =>
    if extent = .whole then
      { status with containers := status.containers ++ [name] }
    else status

/-- `docker rm` of such a container. -/
def dockerRemove (name : String) : Run Unit :=
  statusStep env fun extent status =>
    if extent = .whole then
      { status with
        containers := status.containers.filter fun other => other ≠ name }
    else status

/-- `create`. -/
def createOwned (name : String) : Run Unit := do
  refuseStatus (fun status => status.ownedContainers.contains name)
    (rejected "FRESH_OWNED_NAME_REQUIRED")
  updateStatus fun status =>
    { status with ownedContainers := status.ownedContainers ++ [name] }
  dockerCreate env name
  -- check_owned and docker start
  external env

/-- `self.owned.pop(name)`. -/
def forgetOwned (name : String) (status : Status) : Status :=
  { status with ownedContainers := status.ownedContainers.erase name }

/-- `remove`. -/
def removeOwned (name : String) : Run Unit := do
  external env
  let listed ← observe fun world => world.containers.contains name
  if listed then
    external env
    dockerRemove env name
    updateStatus (forgetOwned name)
  else
    updateStatus (forgetOwned name)

/-- The name of a worker's container. -/
def workerName (mode : String) : String :=
  "kairos-controlled-" ++ Purpose.short env.owner ++ "-" ++ mode

/-- The name of a clone's container. -/
def recoveryName (suffix : String) : String :=
  "kairos-recovery-" ++ Purpose.short env.owner ++ "-" ++ suffix

/-- The copy of `native-apply.json` into the run directory. -/
def collectApply (result : ApplyResult) : Run Unit :=
  match result.receipt with
  | none => pure ()
  | some file => do
      refuseStatus (fun status => status.nativeApply.isSome)
        (rejected "CURRENT_WORKER_ARTIFACT_CONFLICT")
      statusStep env fun extent status =>
        { status with nativeApply := written file extent }

/-- `self.workers.pop(name)`. -/
def forgetWorker (name : String) (status : Status) : Status :=
  { status with workers := status.workers.erase name }

/-- `worker`, with what the worker does to the database. -/
def worker (mode : String) (result : ApplyResult) : Run Unit := do
  -- The target, the manifest and the operator snapshot.
  external env
  let name := workerName env mode
  refuseStatus (fun status => status.workers.contains name)
    (rejected "DUPLICATE_WORKER_REFUSED")
  updateStatus fun status =>
    { status with workers := status.workers ++ [name] }
  dockerCreate env name
  external env
  -- docker start
  statusStep env fun extent status =>
    if extent = .nothing then status
    else
      { status with committed := status.committed || result.isCommitted }
  -- docker wait, its exit code and the logs
  external env
  collectApply env result
  external env
  dockerRemove env name
  updateStatus (forgetWorker name)

/-! ## The run -/

def setPhase (phase : String) : Run Unit :=
  updateStatus fun status => { status with phase := phase }

/-- `assert_primary_stopped`. -/
def assertPrimaryStopped : Run Unit := do
  external env
  updateStatus fun status => { status with seenStopped := true }

/-- The record that is saved before `docker start`. -/
def markerRecord : Members :=
  dict
    [("owner", .text env.owner),
      ("source_container_id", .text sourceId),
      ("start_intent_written_before_docker_start", .bool true)]

/-- Everything before the only start of the primary. -/
def prepare : Run Unit := do
  -- The stopped source against its baseline.
  external env
  -- current_cold_verify
  createOwned env (recoveryName env "current-cold-verify")
  external env
  removeOwned env (recoveryName env "current-cold-verify")
  setPhase "PRIMARY_AUTH_PROVISIONING"
  -- plan.json, the native artefacts and the two auth files
  external env
  writeSql env .provisionSql
  writeSql env .cleanupSql
  assertPrimaryStopped env
  refuseStatus (fun status => status.marker.isSome) (raised "FileExistsError")
  statusStep env fun extent status =>
    { status with
      marker := written (savedRecord env (markerRecord env)) extent }
  external env

/-- The start of the primary and the temporary login role. -/
def startAndProvision : Run Unit := do
  updateStatus fun status => { status with startedSource := true }
  -- docker start
  statusStep env fun _ status =>
    { status with startIssued := true, seenStopped := false }
  assertPrimaryTarget env
  updateStatus fun status => { status with provisionAttempted := true }
  -- _wait_postgres_ready
  external env
  runSqlFile env .provisionSql
  unlinkSql env .provisionSql

/-- `state` in `{"COMMITTED_ACKNOWLEDGED", "COMMITTED_EXACT_READONLY"}`. -/
def committedState (state : Json) : Bool :=
  state.pyEq (.text "COMMITTED_ACKNOWLEDGED") ||
    state.pyEq (.text "COMMITTED_EXACT_READONLY")

/-- The conditions on `native-apply.json`. -/
def applyAccepted (receipt : Members) : Bool :=
  (get receipt "kind").pyEq (.text "controlled-runtime-native-apply-v1") &&
    committedState (get receipt "state")

/-- The atomic transition, its verification, and the role's removal. -/
def transition : Run Unit := do
  setPhase "PRIMARY_ATOMIC_RUNTIME_TRANSITION"
  updateStatus fun status => { status with primaryApplyInvoked := true }
  let result ← observe fun world => (env.answer world.clock).apply
  worker env "apply" result
  let file ← observe fun world => world.nativeApply
  let (receipt, _) ← lift (readJson file)
  refuseWhen (fun _ => !applyAccepted receipt)
    (rejected "PRIMARY_APPLY_NOT_CLASSIFIED_EXACT")
  setPhase "PRIMARY_AUTHENTICATED_VERIFY"
  worker env "verify" .rolledBack
  external env
  runSqlFile env .cleanupSql
  unlinkSql env .cleanupSql
  -- native-auth.json
  external env

/-- `pg_dump` into the container's temporary file. -/
def pgDump : Run Unit := do
  let dump ← observe fun world => (env.answer world.clock).dump
  slotStep env .backupAfter fun extent slot =>
    match copied dump extent with
    | none => slot
    | some bytes => { slot with remote := some (createdFile bytes) }

/-- `docker cp` of the dump, and the comparison of the digests. -/
def fetchDump : Run Unit := do
  slotStep env .backupAfter fun extent slot =>
    { slot with
      localFile := slot.remote.bind fun file => copied file.bytes extent }
  external env
  slotRefuse .backupAfter
    (fun slot =>
      slot.remote.map (fun file => env.sha256.hexdigest file.bytes) ≠
        slot.localFile.map env.sha256.hexdigest)
    (rejected "PRIMARY_BACKUP_COPY_HASH_MISMATCH")
  updateSlot .backupAfter fun slot =>
    { slot with owned := slot.localFile.map env.sha256.hexdigest }

/-- The dump, from its reservation to its copy. -/
def takeBackup : Run Unit := do
  reserveRemoteFile env .backupAfter
  pgDump env
  -- test -f and test ! -L
  external env
  slotRefuse .backupAfter
    (fun slot => !slot.remote.any fun file => file.kind = .regular)
    commandFailed
  fetchDump env

/-- The backup after the transition, restored and checked. -/
def backupAndRestore : Run Unit := do
  setPhase "BACKUP_AFTER_AND_RESTORED_HISTORY_ONLY"
  slotRefuse .backupAfter (fun slot => slot.localFile.isSome)
    (rejected "PRIMARY_BACKUP_ARTIFACT_ALREADY_EXISTS")
  takeBackup env
  createOwned env (recoveryName env "current_second")
  external env
  worker env "verify-restored-primary" .rolledBack
  -- pg_amcheck and the digests of the proofs
  external env
  removeOwned env (recoveryName env "current_second")

/-- `PrimaryController.run`. -/
def run : Run Unit := do
  prepare env
  startAndProvision env
  transition env
  backupAndRestore env

/-! ## Cleanup and receipt -/

/-- The first block of `cleanup_primary`: the primary must still run. -/
def inspectRunning : Run Unit := do
  let exited ← observe fun world => (env.answer world.clock).exited
  external env
  if exited then
    updateStatus fun status => { status with startedSource := false }
    raise (rejected "PRIMARY_STOPPED_UNEXPECTEDLY_DURING_TRANSITION")

/-- The second block: drop the temporary login role if that is still due. -/
def dropRole : Run Unit := do
  assertPrimaryTarget env
  let due ← observe fun world =>
    world.provisionAttempted && world.workerCleanupVerified &&
      !world.dropAcknowledged && (world.slot .cleanupSql).localFile.isSome
  if due then
    runSqlFile env .cleanupSql
    unlinkSql env .cleanupSql

/-- The last block: stop the primary and delete the private files. -/
def stopPrimary : Run Unit := do
  -- docker stop
  external env
  updateStatus fun status => { status with startedSource := false }
  assertPrimaryStopped env
  unlinkSql env .provisionSql
  unlinkSql env .cleanupSql
  external env

/-- `proofs["primary_cleanup_uncertain"] = True`, and raise again. -/
def uncertain (failure : Failure) : Run Unit := do
  updateStatus fun status => { status with cleanupUncertain := true }
  raise failure

/-- The purposes in `remote_create_intents`.  A run reserves in the order of
`remote_artifact_specs`. -/
def World.pending (world : World) : List Purpose :=
  Purpose.all.filter fun purpose => (world.slot purpose).intent.isSome

/-- `cleanup_primary`. -/
def cleanupPrimary : Run Unit := do
  let started ← observe fun world => world.startedSource
  if started then
    attempt (inspectRunning env) uncertain
    let first ← caught (dropRole env)
    let pending ← observe World.pending
    let second ← caughtEach pending (removeOwnedContainerFile env)
    let third ← caught (stopPrimary env)
    match first <|> second <|> third with
    | none => pure ()
    | some failure => uncertain failure

/-- The removal of one worker's container in `finish`. -/
def removeWorker (name : String) : Run Unit := do
  external env
  dockerRemove env name
  updateStatus (forgetWorker name)

/-- The evidence of the run's own records in `finish`. -/
def collectEvidence : Run Unit := do
  external env
  let directory ← observe World.directory
  let evidence ←
    lift (remoteArtifactCleanupEvidence directory env.owner env.revision)
  updateStatus fun status => { status with remoteCleanup := some evidence }
  refuseWhen (fun world => !evidence.verified || world.pending ≠ [])
    (rejected "PRIMARY_REMOTE_ARTIFACT_CLEANUP_UNVERIFIED")

/-- The `state` that `finish` reads from `native-apply.json`. -/
def applyState (file : Option FileState) : Json :=
  match readJson file with
  | .ok (receipt, _) => get receipt "state"
  | .error _ => .null

/-- `role_state`. -/
def Status.roleLabel (status : Status) : RoleLabel :=
  if status.dropAcknowledged then .createdAndDropped
  else if status.provisionAcknowledged then .created
  else if status.provisionAttempted then .unknown
  else .notAttempted

/-- `schema_state`. -/
def Status.schemaLabel (status : Status) : SchemaLabel :=
  if committedState (applyState status.nativeApply) then .committed
  else if status.primaryApplyInvoked then .unknown
  else .notAttempted

/-- The receipt, from the state and the local variables of `finish`. -/
def composeReceipt (success cleanup : Bool) (error : Option Failure)
    (status : Status) : Receipt where
  passed := success && cleanup
  phase := status.phase
  errorCategory := error.map Failure.category
  cleanupVerified := cleanup
  temporaryRole := status.roleLabel
  schemaQuarantine := status.schemaLabel
  cleanupUncertain := status.cleanupUncertain
  remoteArtifactCleanup := status.remoteCleanup

/-- `finish` after `cleanup_primary`, before the receipt is saved.  `removed`
says whether all workers and owned containers are removed. -/
def judgeCleanup (success removed : Bool) (error : Option Failure) :
    Run Receipt := do
  let evidenceError ← caught (collectEvidence env)
  updateStatus fun status =>
    { status with
      cleanupUncertain := status.cleanupUncertain || evidenceError.isSome }
  let verified ← observe fun world =>
    removed && evidenceError.isNone && !world.startedSource &&
      !world.cleanupUncertain
  -- docker ps -aq with the owner's label
  let listingError ← caught do
    external env
    refuseStatus (fun status => status.containers ≠ []) commandFailed
  -- The state is looked up in a set.
  refuseStatus (fun status => unhashable (applyState status.nativeApply))
    (raised "TypeError" typeError_nonempty)
  observe fun world =>
    composeReceipt (success && evidenceError.isNone)
      (verified && listingError.isNone) (error <|> evidenceError)
      world.toStatus

/-- Everything of `finish` before the receipt is saved. -/
def settle (success : Bool) (error : Option Failure) : Run Receipt := do
  let workers ← observe fun world => world.workers
  let workerError ← caughtEach workers (removeWorker env)
  updateStatus fun status =>
    { status with workerCleanupVerified := workerError.isNone }
  let owned ← observe fun world => world.ownedContainers
  let ownedError ← caughtEach owned (removeOwned env)
  let cleanupError ← caught (cleanupPrimary env)
  judgeCleanup env (success && cleanupError.isNone)
    (workerError.isNone && ownedError.isNone) (cleanupError <|> error)

/-- `finish`, with its exit code. -/
def finish (success : Bool) (error : Option Failure) : Run Nat := do
  let receipt ← settle env success error
  refuseStatus (fun status => status.receipt.isSome) (raised "FileExistsError")
  statusStep env fun extent status =>
    if extent = .whole then { status with receipt := some receipt } else status
  return if receipt.passed then 0 else 1

/-- The end of `main`: admission and run, then `finish`. -/
def execute : Run Nat := do
  let failure ← caught do
    external env
    run env
  finish env failure.isNone failure

/-- The state in which the controller is built, in a new run directory. -/
def World.initial (remote : Purpose → Option RemoteFile) : World where
  clock := 0
  slot purpose :=
    { create := none
      remove := none
      remote :=
        (remote purpose).map fun file => { file with fromRun := false }
      localFile := none
      intent := none
      owned := none }
  marker := none
  nativeApply := none
  receipt := none
  role := false
  roleDropped := false
  committed := false
  containers := []
  startIssued := false
  seenStopped := false
  issued := []
  sqlIssued := []
  phase := "ACCEPTANCE_RECHECK"
  startedSource := false
  provisionAttempted := false
  primaryApplyInvoked := false
  workerCleanupVerified := true
  workers := []
  ownedContainers := []
  provisionAcknowledged := false
  dropAcknowledged := false
  cleanupUncertain := false
  remoteCleanup := none

end Steps

end KairosDeploy.Primary.Controller
