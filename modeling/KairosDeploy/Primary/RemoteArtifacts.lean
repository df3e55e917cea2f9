import KairosDeploy.Library.Refusal
import KairosDeploy.Library.JsonValue
import KairosDeploy.Library.HexDigest

/-!
# The records of temporary files in the primary container

A run of the primary transition reserves each temporary file in the container
with a record `remote-create-<purpose>.json` before it creates the file, and
writes `remote-remove-<purpose>.json` after the file is gone.  The supervisor
and the run itself judge these records with
`remote_artifact_cleanup_evidence`.
-/

namespace KairosDeploy.Primary.RemoteArtifacts

open KairosDeploy.Library.Refusal
open KairosDeploy.Library.JsonValue
open KairosDeploy.Library.HexDigest

/-! ## Failures -/

/--
What an exception leaves in a receipt: the text of a `Rejected`, or the name
of the type of any other exception.  No source line raises an empty text.
-/
structure Failure where
  category : String
  nonempty : category ≠ ""

/-- `fresh.Rejected(reason)`. -/
def rejected (reason : String) (nonempty : reason ≠ "" := by decide) :
    Failure :=
  ⟨reason, nonempty⟩

/-- `type(error).__name__` of an exception other than `Rejected`. -/
def raised (name : String) (nonempty : name ≠ "" := by decide) : Failure :=
  ⟨name, nonempty⟩

theorem typeError_nonempty : "TypeError" ≠ "" := by
  decide

theorem gateError_nonempty : "GateError" ≠ "" := by
  decide

theorem cleanupUnverified_nonempty :
    "PRIMARY_REMOTE_ARTIFACT_CLEANUP_UNVERIFIED" ≠ "" := by
  decide

/-! ## The three temporary files -/

/-- `fresh.SOURCE_ID`. -/
def sourceId : String :=
  "dfe9c96b3307f07c7f88bb6cdae46dba903ebb1e7243c2534199da2843229774"

/-- `MAX_PRIVATE_SQL_BYTES`. -/
def maxPrivateSqlBytes : Int := 64 * 1024

/-- `MAX_PRIMARY_TEMP_BYTES`. -/
def maxPrimaryTempBytes : Int := 256 * 1024 * 1024

/-- The purposes of `remote_artifact_specs`. -/
inductive Purpose where
  | provisionSql
  | cleanupSql
  | backupAfter
deriving DecidableEq, Repr

namespace Purpose

/-- The purposes in the order of `remote_artifact_specs`. -/
def all : List Purpose := [provisionSql, cleanupSql, backupAfter]

def text : Purpose → String
  | provisionSql => "provision-sql"
  | cleanupSql => "cleanup-sql"
  | backupAfter => "backup-after"

/-- `owner[:12]`. -/
def short (owner : String) : String :=
  String.ofList (owner.toList.take 12)

/-- The path in the container. -/
def remotePath (owner : String) : Purpose → String
  | provisionSql => "/tmp/controlled-runtime-" ++ short owner ++ ".sql"
  | cleanupSql => "/tmp/controlled-runtime-cleanup-" ++ short owner ++ ".sql"
  | backupAfter => "/tmp/controlled-primary-after-" ++ short owner ++ ".dump"

/-- The name of the reservation. -/
def createName (purpose : Purpose) : String :=
  "remote-create-" ++ purpose.text ++ ".json"

/-- The name of the record of the removal. -/
def removeName (purpose : Purpose) : String :=
  "remote-remove-" ++ purpose.text ++ ".json"

end Purpose

/-! ## The run directory -/

/-- What is stored under a name. -/
inductive FileState where
  /-- A link, and whether what it points to exists. -/
  | link (present : Bool)
  /-- A file whose bytes are no JSON text, such as a torn write. -/
  | garbled
  /-- A file with a JSON value and the SHA-256 of its bytes. -/
  | json (value : Json) (sha256 : String)

/-- `path.exists()`. -/
def FileState.exists : FileState → Bool
  | link present => present
  | _ => true

def FileState.isLink : FileState → Bool
  | link _ => true
  | _ => false

/-- A run directory, by name. -/
structure RunDirectory where
  isLink : Bool
  files : List (String × FileState)

/-- The file under a name. -/
def RunDirectory.file (run : RunDirectory) (name : String) :
    Option FileState :=
  run.files.lookup name

/-- `(run / name).exists()`. -/
def RunDirectory.exists (run : RunDirectory) (name : String) : Bool :=
  (run.file name).any FileState.exists

/-- `(run / name).is_symlink()`. -/
def RunDirectory.linked (run : RunDirectory) (name : String) : Bool :=
  (run.file name).any FileState.isLink

/-- A run saves `started-primary.json` before it reserves its first temporary
file, and it deletes neither record. -/
def RunDirectory.MarkerFirst (run : RunDirectory) : Prop :=
  ∀ purpose : Purpose,
    (run.file purpose.createName).isSome = true →
      run.exists "started-primary.json" = true

/-- `_json`: the members of a regular file with a JSON object. -/
def readJson (state : Option FileState) :
    Except Failure (Members × String) :=
  match state with
  | some (.json (.object members) sha256) => .ok (members, sha256)
  | _ => .error (rejected "PRIVATE_ACCEPTANCE_ARTIFACT_INVALID")

/-- `path.glob(start + "*.json")`. -/
def matchesGlob (start name : String) : Bool :=
  start.toList.isPrefixOf name.toList &&
    ".json".toList.isSuffixOf (name.toList.drop start.toList.length)

/-! ## The checks of one pair of records -/

/-- `re.fullmatch(r"[0-9a-f]{64}", str(value))`. -/
def strIsSha256 : Json → Bool
  | .text text => isSha256 text
  | .int value => isSha256 (toString value)
  | _ => false

/-- `type(value) is int`, with the integer. -/
def exactInt : Json → Option Int
  | .int value => some value
  | _ => none

def createFields : Finset String :=
  {"schema_version", "kind", "owner", "source_container_id", "purpose",
    "remote_path", "expected_revision", "expected_sha256", "expected_bytes",
    "maximum_bytes"}

def removeFields : Finset String :=
  {"schema_version", "kind", "owner", "source_container_id", "purpose",
    "remote_path", "create_intent_sha256", "outcome", "observed_sha256",
    "observed_bytes"}

/-- The bounds in a reservation: of a fixed limit for the dump, of the exact
size for SQL. -/
def boundsAccepted (purpose : Purpose) (intent : Members) : Bool :=
  let size := get intent "expected_bytes"
  let sha := get intent "expected_sha256"
  match exactInt (get intent "maximum_bytes") with
  | none => false
  | some maximum =>
      if purpose = .backupAfter then
        size.pyEq .null && sha.pyEq .null && maximum = maxPrimaryTempBytes
      else
        match exactInt size with
        | none => false
        | some expected =>
            0 < expected && expected ≤ maxPrivateSqlBytes &&
              maximum = expected && strIsSha256 sha

/-- The conditions on a reservation. -/
def createAccepted (owner revision : String) (purpose : Purpose)
    (intent : Members) : Bool :=
  keySet intent = createFields &&
    (get intent "schema_version").pyEq (.int 1) &&
    (get intent "kind").pyEq (.text "controlled-primary-remote-create-v1") &&
    (get intent "owner").pyEq (.text owner) &&
    (get intent "source_container_id").pyEq (.text sourceId) &&
    (get intent "purpose").pyEq (.text purpose.text) &&
    (get intent "remote_path").pyEq (.text (purpose.remotePath owner)) &&
    (get intent "expected_revision").pyEq (.text revision) &&
    boundsAccepted purpose intent

/-- The conditions on the outcome of a removal. -/
def outcomeAccepted (purpose : Purpose) (intent removal : Members) : Bool :=
  let observedSize := get removal "observed_bytes"
  let observedSha := get removal "observed_sha256"
  match get removal "outcome" with
  | .text "ABSENT" => observedSize.pyEq .null && observedSha.pyEq .null
  | .text "OWNED_BYTES_REMOVED" =>
      match exactInt observedSize, exactInt (get intent "maximum_bytes") with
      | some observed, some maximum =>
          0 ≤ observed && observed ≤ maximum && strIsSha256 observedSha &&
            !(purpose ≠ .backupAfter &&
              observedSize.pyEq (get intent "expected_bytes") &&
              !observedSha.pyEq (get intent "expected_sha256"))
      | _, _ => false
  | _ => false

/-- The conditions on the record of a removal before its outcome. -/
def removeBound (owner : String) (purpose : Purpose) (intentSha : String)
    (removal : Members) : Bool :=
  keySet removal = removeFields &&
    (get removal "schema_version").pyEq (.int 1) &&
    (get removal "kind").pyEq (.text "controlled-primary-remote-remove-v1") &&
    (get removal "owner").pyEq (.text owner) &&
    (get removal "source_container_id").pyEq (.text sourceId) &&
    (get removal "purpose").pyEq (.text purpose.text) &&
    (get removal "remote_path").pyEq (.text (purpose.remotePath owner)) &&
    (get removal "create_intent_sha256").pyEq (.text intentSha)

/-- The conditions on the record of a removal. -/
def removeAccepted (owner : String) (purpose : Purpose) (intentSha : String)
    (intent removal : Members) : Bool :=
  removeBound owner purpose intentSha removal &&
    outcomeAccepted purpose intent removal

/-- A value that no set can hold. -/
def unhashable : Json → Bool
  | .array _ | .object _ => true
  | _ => false

/-! ## The evidence -/

/-- What the records of one purpose say. -/
inductive Verdict where
  | notReserved
  | pending (createSha : String)
  | completed (createSha removeSha : String)

/-- The checks of the record of a removal, after those of its reservation. -/
def judgeRemoval (run : RunDirectory) (owner : String) (purpose : Purpose)
    (createSha : String) (intent : Members) : Except Failure Verdict :=
  if run.exists purpose.removeName = false then do
    refuseIf (run.linked purpose.removeName = true)
      (rejected "PRIMARY_REMOTE_REMOVE_RECORD_INVALID")
    return .pending createSha
  else do
    let (removal, removeSha) ← readJson (run.file purpose.removeName)
    refuseIf (removeBound owner purpose createSha removal = false)
      (rejected "PRIMARY_REMOTE_REMOVE_RECORD_INVALID")
    -- The outcome is looked up in a set.
    refuseIf (unhashable (get removal "outcome") = true) (raised "TypeError")
    refuseIf (outcomeAccepted purpose intent removal = false)
      (rejected "PRIMARY_REMOTE_REMOVE_RECORD_INVALID")
    return .completed createSha removeSha

/-- The body of the loop over `remote_artifact_specs`. -/
def judge (run : RunDirectory) (owner revision : String)
    (purpose : Purpose) : Except Failure Verdict :=
  if run.exists purpose.createName = false then do
    refuseIf (run.exists purpose.removeName ∨ run.linked purpose.createName)
      (rejected "PRIMARY_REMOTE_ARTIFACT_ORPHAN_RECORD")
    return .notReserved
  else do
    let (intent, createSha) ← readJson (run.file purpose.createName)
    refuseIf (createAccepted owner revision purpose intent = false)
      (rejected "PRIMARY_REMOTE_CREATE_INTENT_INVALID")
    judgeRemoval run owner purpose createSha intent

/-- The dictionary that `remote_artifact_cleanup_evidence` returns. -/
structure Evidence where
  verified : Bool
  createdCount : Nat
  completedCount : Nat
  pendingPurposes : List Purpose
  recordSha256 : List (String × String)
deriving DecidableEq, Repr

def Verdict.created : Verdict → Bool
  | notReserved => false
  | _ => true

def Verdict.isCompleted : Verdict → Bool
  | completed _ _ => true
  | _ => false

def Verdict.isPending : Verdict → Bool
  | pending _ => true
  | _ => false

/-- The digests that a verdict binds. -/
def Verdict.bindings (purpose : Purpose) : Verdict → List (String × String)
  | notReserved => []
  | pending createSha => [(purpose.createName, createSha)]
  | completed createSha removeSha =>
      [(purpose.createName, createSha), (purpose.removeName, removeSha)]

/-- The evidence from the verdicts, purpose by purpose. -/
def tally (verdicts : List (Purpose × Verdict)) : Evidence where
  verified := !verdicts.any fun entry => entry.2.isPending
  createdCount := verdicts.countP fun entry => entry.2.created
  completedCount := verdicts.countP fun entry => entry.2.isCompleted
  pendingPurposes :=
    (verdicts.filter fun entry => entry.2.isPending).map Prod.fst
  recordSha256 := verdicts.flatMap fun entry => entry.2.bindings entry.1

/-- A record of a purpose that `remote_artifact_specs` does not list. -/
def RunDirectory.HasUnknownRecord (run : RunDirectory) : Prop :=
  ∃ entry ∈ run.files,
    (matchesGlob "remote-create-" entry.1 ||
        matchesGlob "remote-remove-" entry.1) = true ∧
      entry.1 ∉
        Purpose.all.map Purpose.createName ++
          Purpose.all.map Purpose.removeName

instance (run : RunDirectory) : Decidable run.HasUnknownRecord :=
  inferInstanceAs (Decidable (∃ _ ∈ _, _))

/-- `remote_artifact_cleanup_evidence`. -/
def remoteArtifactCleanupEvidence
    (run : RunDirectory) (owner revision : String) :
    Except Failure Evidence := do
  refuseIf (isHex 40 revision = false)
    (rejected "PRIMARY_REMOTE_ARTIFACT_REVISION_INVALID")
  refuseIf (isHex 32 owner = false)
    (rejected "PRIMARY_REMOTE_ARTIFACT_OWNER_INVALID")
  refuseIf (run.isLink = true)
    (rejected "PRIMARY_REMOTE_ARTIFACT_DIRECTORY_INVALID")
  refuseIf run.HasUnknownRecord
    (rejected "PRIMARY_REMOTE_ARTIFACT_RECORD_SET_INVALID")
  let verdicts ←
    Purpose.all.mapM fun purpose => do
      return (purpose, ← judge run owner revision purpose)
  return tally verdicts

/-! ## What accepted records are -/

variable {run : RunDirectory} {owner revision : String} {purpose : Purpose}

theorem readJson_eq_ok_iff
    {state : Option FileState} {members : Members} {sha256 : String} :
    readJson state = .ok (members, sha256) ↔
      state = some (.json (.object members) sha256) := by
  unfold readJson
  split
  · simp only [Except.ok.injEq, Prod.mk.injEq, Option.some.injEq,
      FileState.json.injEq, Json.object.injEq]
  · next unreadable =>
      constructor
      · intro impossible
        cases impossible
      · rintro rfl
        exact absurd rfl (unreadable members sha256)

/-- A reservation and the record of its removal, both accepted. -/
structure Completed (run : RunDirectory) (owner revision : String)
    (purpose : Purpose) (createSha removeSha : String)
    (intent removal : Members) : Prop where
  createRecord :
    run.file purpose.createName = some (.json (.object intent) createSha)
  created : createAccepted owner revision purpose intent = true
  removeRecord :
    run.file purpose.removeName = some (.json (.object removal) removeSha)
  removed : removeAccepted owner purpose createSha intent removal = true

theorem judgeRemoval_completed
    {intent : Members} {known createSha removeSha : String}
    (judged :
      judgeRemoval run owner purpose known intent =
        .ok (.completed createSha removeSha)) :
    known = createSha ∧
      ∃ removal,
        run.file purpose.removeName =
            some (.json (.object removal) removeSha) ∧
          removeAccepted owner purpose createSha intent removal = true := by
  unfold judgeRemoval at judged
  split_ifs at judged with missing
  · simp only [bind_eq_ok_iff, pure_eq_ok_iff] at judged
    rcases judged with ⟨_, _, impossible⟩
    cases impossible
  · rw [bind_eq_ok_iff] at judged
    rcases judged with ⟨⟨removal, sha⟩, record, judged⟩
    simp only [bind_eq_ok_iff, refuseIf_eq_ok_iff, pure_eq_ok_iff,
      exists_const, Bool.not_eq_false, Verdict.completed.injEq] at judged
    rcases judged with ⟨bound, _, outcome, rfl, rfl⟩
    refine ⟨rfl, removal, readJson_eq_ok_iff.1 record, ?_⟩
    rw [removeAccepted, bound, outcome]
    rfl

theorem judge_completed {createSha removeSha : String}
    (judged :
      judge run owner revision purpose =
        .ok (.completed createSha removeSha)) :
    ∃ intent removal,
      Completed run owner revision purpose createSha removeSha intent
        removal := by
  unfold judge at judged
  split_ifs at judged with missing
  · simp only [bind_eq_ok_iff, pure_eq_ok_iff] at judged
    rcases judged with ⟨_, _, impossible⟩
    cases impossible
  · rw [bind_eq_ok_iff] at judged
    rcases judged with ⟨⟨intent, sha⟩, record, judged⟩
    simp only [bind_eq_ok_iff, refuseIf_eq_ok_iff, Bool.not_eq_false]
      at judged
    rcases judged with ⟨_, created, judged⟩
    rcases judgeRemoval_completed judged with ⟨rfl, removal, removed, accepted⟩
    exact
      ⟨intent, removal, readJson_eq_ok_iff.1 record, created, removed,
        accepted⟩

/-! ## What the evidence says -/

/-- The verdicts of a function, purpose by purpose. -/
def verdictsOf (verdict : Purpose → Verdict) : List (Purpose × Verdict) :=
  Purpose.all.map fun purpose => (purpose, verdict purpose)

theorem mem_all (purpose : Purpose) : purpose ∈ Purpose.all := by
  cases purpose <;> decide

/-- There is evidence exactly when every purpose has a verdict. -/
theorem evidence_eq_ok_iff {evidence : Evidence} :
    remoteArtifactCleanupEvidence run owner revision = .ok evidence ↔
      isHex 40 revision = true ∧
        isHex 32 owner = true ∧
        run.isLink = false ∧
        ¬ run.HasUnknownRecord ∧
        ∃ verdict : Purpose → Verdict,
          (∀ purpose,
            judge run owner revision purpose = .ok (verdict purpose)) ∧
          evidence = tally (verdictsOf verdict) := by
  unfold remoteArtifactCleanupEvidence
  simp only [bind_eq_ok_iff, refuseIf_eq_ok_iff, pure_eq_ok_iff,
    exists_const, Bool.not_eq_false, Bool.not_eq_true]
  constructor
  · rintro ⟨revisionHex, ownerHex, plain, known, verdicts, judged, rfl⟩
    refine ⟨revisionHex, ownerHex, plain, known, ?_⟩
    have each :
        ∀ purpose, ∃ verdict,
          judge run owner revision purpose = .ok verdict := by
      intro purpose
      rcases mapM_eq_ok_exists judged (mem_all purpose) with ⟨_, one⟩
      rw [bind_eq_ok_iff] at one
      rcases one with ⟨verdict, found, _⟩
      exact ⟨verdict, found⟩
    choose verdict found using each
    refine ⟨verdict, found, ?_⟩
    have same : verdicts = verdictsOf verdict := by
      refine mapM_eq_ok_map ?_ judged
      intro purpose pair one
      rw [bind_eq_ok_iff] at one
      rcases one with ⟨value, valueFound, paired⟩
      rw [found purpose] at valueFound
      cases valueFound
      exact ((pure_eq_ok_iff _ _).1 paired).symm
    rw [same]
  · rintro ⟨revisionHex, ownerHex, plain, known, verdict, found, rfl⟩
    refine ⟨revisionHex, ownerHex, plain, known, _, ?_, rfl⟩
    apply mapM_eq_ok_of_forall
    intro purpose _
    rw [found purpose]
    rfl

/-- Three completed removals are one of each purpose. -/
theorem completed_of_count
    {evidence : Evidence}
    (accepted :
      remoteArtifactCleanupEvidence run owner revision = .ok evidence)
    (three : evidence.completedCount = 3) (purpose : Purpose) :
    ∃ createSha removeSha intent removal,
      Completed run owner revision purpose createSha removeSha intent
        removal := by
  rcases evidence_eq_ok_iff.1 accepted with ⟨_, _, _, _, verdict, found, rfl⟩
  have every :
      ∀ entry ∈ verdictsOf verdict, entry.2.isCompleted = true :=
    List.countP_eq_length.1 three
  have completed : (verdict purpose).isCompleted = true :=
    every (purpose, verdict purpose)
      (List.mem_map_of_mem (mem_all purpose))
  cases shape : verdict purpose with
  | notReserved =>
      rw [shape] at completed
      cases completed
  | pending createSha =>
      rw [shape] at completed
      cases completed
  | completed createSha removeSha =>
      exact ⟨createSha, removeSha, judge_completed (shape ▸ found purpose)⟩

end KairosDeploy.Primary.RemoteArtifacts
