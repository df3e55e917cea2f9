import KairosDeploy.Primary.RemoteArtifacts

/-!
# The verdict of the primary supervisor

`supervise_primary` launches the child that runs the primary transition, ends
its process tree, stops the primary, looks at what the child left behind, and
writes a receipt.  Everything that the child and Docker may answer is an
argument here, so that the result holds however the child ends.
-/

namespace KairosDeploy.Primary.Supervision

open KairosDeploy.Library.Refusal
open KairosDeploy.Library.JsonValue
open KairosDeploy.Library.HexDigest
open KairosDeploy.Primary.RemoteArtifacts

/-! ## Values of unknown shape -/

/-- `value[key]`. -/
def subscript (value : Json) (key : String) : Except Failure Json :=
  match value with
  | .object members =>
      match getMember members key with
      | some stored => .ok stored
      | none => .error (raised "KeyError")
  | _ => .error (raised "TypeError" typeError_nonempty)

/-- `value.get(key)`. -/
def dictGet (value : Json) (key : String) : Except Failure Json :=
  match value with
  | .object members => .ok (get members key)
  | _ => .error (raised "AttributeError")

/-- `value or {}`. -/
def orEmpty (value : Json) : Json :=
  if value.truthy then value else .object []

/-- The items of `for item in value`. -/
def iterate : Json → Except Failure (List Json)
  | .array items => .ok items
  | .object members => .ok (members.map fun member => .text member.1)
  | .text text =>
      .ok (text.toList.map fun character => .text (String.singleton character))
  | _ => .error (raised "TypeError" typeError_nonempty)

/-! ## Docker -/

/-- `fresh.IMAGE_ID`. -/
def imageId : String :=
  "sha256:252a443e2936039b83dd8da1373d01e59e932d1054fa6adf1bc061f1d56ae60a"

/-- `fresh.VOLUME`. -/
def volume : String := "kairos-paper-gate_paper-ts-data"

/-- `fresh.OWNER_LABEL`. -/
def ownerLabel : String := "com.kairos.recovery.owner"

/-- `current.RUNNER`. -/
def runner : String :=
  "sha256:2e10e9e936eae3a4a411f65d8b0bd14670ba808368eeff94b4e24021aa291077"

/-- `current.KIND` and `fresh.SCOPE`. -/
def ownedScopes : List String :=
  ["controlled-runtime-transition-v1", "fresh-stopped-primary-recovery-v1"]

/--
The answers to the commands of `_supervisor_stop_if_started`, in the order of
the commands.  A listing is given by its lines, and the containers that it
names by their place in it.
-/
structure DockerReplies where
  firstView : Except Failure Json
  stop : Except Failure Unit
  lastView : Except Failure Json
  owned : Except Failure (List String)
  item : Nat → Except Failure Json
  remove : Nat → Except Failure Unit
  remaining : Except Failure (List String)

/-- The conditions on the running primary before it is stopped. -/
def requireVolumeBoundary (view : Json) : Except Failure Unit := do
  let mounts ← iterate (← subscript view "mounts")
  let data ← mounts.filterM fun mount => do
    return (← dictGet mount "Destination").pyEq
      (.text "/var/lib/postgresql/data")
  refuseIf (data.length ≠ 1)
    (rejected "SUPERVISOR_PRIMARY_VOLUME_BOUNDARY_CHANGED")
  let mount := data.headD .null
  refuseIf
    ((← dictGet mount "Name").pyEq (.text volume) = false ∨
      (← dictGet mount "Type").pyEq (.text "volume") = false)
    (rejected "SUPERVISOR_PRIMARY_VOLUME_BOUNDARY_CHANGED")
  refuseIf ((← subscript view "ports").truthy = true)
    (rejected "SUPERVISOR_PRIMARY_VOLUME_BOUNDARY_CHANGED")
  refuseIf ((← subscript view "privileged").truthy = true)
    (rejected "SUPERVISOR_PRIMARY_VOLUME_BOUNDARY_CHANGED")

/-- The primary is the one that the run was accepted for. -/
def requirePrimary (view : Json) : Except Failure Unit := do
  refuseIf ((← subscript view "id").pyEq (.text sourceId) = false)
    (rejected "SUPERVISOR_REFUSES_CHANGED_PRIMARY_CONTAINER")
  refuseIf ((← subscript view "image").pyEq (.text imageId) = false)
    (rejected "SUPERVISOR_REFUSES_CHANGED_PRIMARY_CONTAINER")
  let labels := orEmpty (← subscript view "labels")
  refuseIf
    ((← dictGet labels "com.docker.compose.service").pyEq
      (.text "timescaledb") = false)
    (rejected "SUPERVISOR_REFUSES_CHANGED_PRIMARY_CONTAINER")

/-- The primary as it was last inspected is stopped. -/
def requireStopped (view : Json) : Except Failure Unit := do
  refuseIf ((← subscript view "id").pyEq (.text sourceId) = false)
    (rejected "SUPERVISOR_COULD_NOT_STOP_ORIGINAL_PRIMARY")
  let state ← subscript view "state"
  refuseIf ((← dictGet state "Status").pyEq (.text "exited") = false)
    (rejected "SUPERVISOR_COULD_NOT_STOP_ORIGINAL_PRIMARY")
  refuseIf
    ((← dictGet state "Running").truthy = true ∨
      (← dictGet state "Pid").truthy = true)
    (rejected "SUPERVISOR_COULD_NOT_STOP_ORIGINAL_PRIMARY")

/-- `name.startswith(allowed_prefixes)` after `lstrip("/")`. -/
def ownedName (owner name : String) : Bool :=
  let bare := name.toList.dropWhile fun character => character = '/'
  ("kairos-controlled-" ++ Purpose.short owner ++ "-").toList.isPrefixOf
      bare ||
    ("kairos-recovery-" ++ Purpose.short owner ++ "-").toList.isPrefixOf bare

/-- A value used as a text, and what is raised where it is none. -/
def requireText (failure : Failure) : Json → Except Failure String
  | .text text => .ok text
  | _ => .error failure

/-- A container with the owner's label is one that the run may have made. -/
def requireOwned (owner : String) (item : Json) : Except Failure Unit := do
  let labels := orEmpty (← subscript item "labels")
  -- `item["name"].lstrip("/")`
  let name ←
    requireText (raised "AttributeError") (← subscript item "name")
  refuseIf ((← dictGet labels ownerLabel).pyEq (.text owner) = false)
    (rejected "SUPERVISOR_OWNED_CONTAINER_IDENTITY_MISMATCH")
  let scope ← dictGet labels "com.kairos.recovery.scope"
  refuseIf (unhashable scope = true) (raised "TypeError" typeError_nonempty)
  refuseIf
    ((ownedScopes.any fun known => scope.pyEq (.text known)) = false ∨
      ownedName owner name = false)
    (rejected "SUPERVISOR_OWNED_CONTAINER_IDENTITY_MISMATCH")
  let image ← subscript item "image"
  refuseIf (unhashable image = true) (raised "TypeError" typeError_nonempty)
  refuseIf
    ((image.pyEq (.text runner) || image.pyEq (.text imageId)) = false)
    (rejected "SUPERVISOR_OWNED_CONTAINER_IDENTITY_MISMATCH")

/-- The conditions on `started-primary.json`. -/
def requireMarker (owner : String) (marker : Members) :
    Except Failure Unit :=
  refuseIf
    ((get marker "owner").pyEq (.text owner) = false ∨
      (get marker "source_container_id").pyEq (.text sourceId) = false ∨
      (get marker "start_intent_written_before_docker_start").isTrue = false)
    (rejected "PRIMARY_START_MARKER_IDENTITY_INVALID")

/-- Stop the primary where the view has it running. -/
def stopRunning (docker : DockerReplies) (view : Json) :
    Except Failure Unit := do
  let status ← dictGet (← subscript view "state") "Status"
  if status.pyEq (.text "running") then
    requireVolumeBoundary view
    docker.stop

/-- The loop over the containers with the owner's label. -/
def removeOwned (docker : DockerReplies) (owner : String) :
    Except Failure Unit := do
  let owned ← docker.owned
  for position in List.range owned.length do
    requireOwned owner (← docker.item position)
    docker.remove position

/-- `_supervisor_stop_if_started`. -/
def supervisorStopIfStarted
    (run : Option RunDirectory) (docker : DockerReplies) (owner : String) :
    Except Failure Bool :=
  if (run.any fun run => run.exists "started-primary.json") = false then
    .ok true
  else do
    let (marker, _) ←
      readJson (run.bind fun run => run.file "started-primary.json")
    requireMarker owner marker
    let view ← docker.firstView
    requirePrimary view
    stopRunning docker view
    requireStopped (← docker.lastView)
    removeOwned docker owner
    refuseIf ((← docker.remaining) ≠ [])
      (rejected "SUPERVISOR_OWNED_CONTAINER_CLEANUP_UNVERIFIED")
    return true

/-! ## The child's process tree and receipt -/

/-- The conditions of `fresh.require_tree_proof`. -/
def treeEnded : Json → Bool
  | .object tree =>
      (get tree "assigned_before_resume").isTrue &&
        (get tree "tree_cleanup_verified").isTrue &&
        exactInt (get tree "active_owned_processes_after") = some 0
  | _ => false

/-- The dictionary that `remote_artifact_cleanup_evidence` returns. -/
def evidenceJson (evidence : Evidence) : Json :=
  .object (dict
    [("verified", .bool evidence.verified),
      ("created_count", .int evidence.createdCount),
      ("completed_count", .int evidence.completedCount),
      ("pending_purposes",
        .array (evidence.pendingPurposes.map fun purpose =>
          .text purpose.text)),
      ("record_sha256",
        .object (dict (evidence.recordSha256.map fun binding =>
          (binding.1, .text binding.2))))])

/-- The conditions on `primary_mutations`. -/
def mutationsAccepted : Json → Bool
  | .object mutations =>
      (get mutations "temporary_role").pyEq (.text "CREATED_AND_DROPPED") &&
        (get mutations "schema_quarantine").pyEq (.text "COMMITTED")
  | _ => false

/-- The conditions on the evidence that the supervisor collected itself. -/
def cleanupAccepted (cleanup : Option Evidence) (copy : Json) : Bool :=
  cleanup.any fun evidence =>
    evidence.verified && evidence.createdCount = 3 &&
      evidence.completedCount = 3 && copy.pyEq (evidenceJson evidence)

/-- The conditions on `proofs`. -/
def proofsAccepted (cleanup : Option Evidence) : Json → Bool
  | .object proofs =>
      (get proofs "native_apply_sha256").truthy &&
        (get proofs "native_verify_sha256").truthy &&
        (get proofs "restored_primary_verify_sha256").truthy &&
        (get proofs "restored_primary_pg_amcheck_exit_code").pyEq (.int 0) &&
        (get proofs "operator_snapshot_sha256").truthy &&
        (get proofs "primary_controller_sha256").truthy &&
        cleanupAccepted cleanup (get proofs "remote_artifact_cleanup")
  | _ => false

/-- The conditions on the child's receipt. -/
def receiptAccepted (owner : String) (cleanup : Option Evidence)
    (receipt : Members) : Bool :=
  (get receipt "result").pyEq
      (.text "PASS_PRIMARY_SCHEMA_QUARANTINE_ONLY") &&
    (get receipt "cleanup_verified").isTrue &&
    (get receipt "owner").pyEq (.text owner) &&
    mutationsAccepted (get receipt "primary_mutations") &&
    proofsAccepted cleanup (get receipt "proofs")

/-! ## Everything a supervisor may see -/

/-- The moments at which the supervisor looks into the run directory. -/
inductive Moment where
  | stopping
  | judging
  | accepting

/--
One supervised child, seen from its supervisor.  `prepared` is how the
directory, its configuration and the admission were written, before there is a
child.  An exception of `job.finish` is given by the name of its type.  The
return code is absent while the child has not ended.
-/
structure Observed where
  prepared : Except Failure Unit
  launched : Except Failure Unit
  child : Option (Option Int)
  finished : Except Failure Json
  docker : DockerReplies
  run : Moment → Option RunDirectory
  stdout : Except Failure Json
  /-- Whether `fresh.safe(Path(text))` is the receipt of this run. -/
  isReceiptPath : String → Except Failure Bool
  /-- A child whose process tree has ended writes no more. -/
  settled :
    ∀ tree, finished = .ok tree → treeEnded tree = true →
      ∀ early late, run early = run late
  /-- The child saved its marker before its first reservation. -/
  markerFirst :
    ∀ moment, ∀ directory ∈ run moment, directory.MarkerFirst

/-- `error = error or category` after a `try` block. -/
def noted {Value : Type} (error : Option Failure)
    (block : Except Failure Value) : Option Failure :=
  match block with
  | .ok _ => error
  | .error failure => error <|> some failure

/-- The second `try` block, whose handler keeps only the type of an error. -/
def treeProof (finished : Except Failure Json) : Except Failure Unit := do
  let tree ← finished
  refuseIf (treeEnded tree = false) (raised "Rejected")

/-- The evidence of the run directory, if there is one. -/
def collected (run : Option RunDirectory) (owner revision : String) :
    Except Failure (Option Evidence) :=
  match run with
  | none => .ok none
  | some run => some <$> remoteArtifactCleanupEvidence run owner revision

/-- The fourth `try` block. -/
def remoteVerified (cleanup : Except Failure (Option Evidence)) :
    Except Failure Unit := do
  refuseIf (((← cleanup).any fun evidence => !evidence.verified) = true)
    (rejected "PRIMARY_REMOTE_ARTIFACT_CLEANUP_UNVERIFIED"
      cleanupUnverified_nonempty)

/-- The fifth `try` block: the digest of the accepted receipt. -/
def acceptChild (owner : String) (cleanup : Option Evidence)
    (observed : Observed) : Except Failure String := do
  let output ← observed.stdout
  let path ←
    requireText (raised "TypeError" typeError_nonempty)
      (← subscript output "receipt")
  refuseIf ((← observed.isReceiptPath path) = false)
    (rejected "PRIMARY_CHILD_RECEIPT_PATH_MISMATCH")
  let (receipt, sha256) ←
    readJson ((observed.run .accepting).bind fun run =>
      run.file "primary-receipt.json")
  refuseIf (receiptAccepted owner cleanup receipt = false)
    (rejected "PRIMARY_CHILD_RESULT_NOT_ACCEPTED")
  return sha256

/-- The supervisor's own receipt. -/
structure SupervisorReceipt where
  owner : String
  result : String
  cliTree : Option Json
  childResult : Option Json
  childReceiptSha256 : Option String
  originalPrimaryStopped : Bool
  remoteArtifactCleanup : Option Evidence
  errorCategory : Option String

/-- What `supervise_primary` returns and what it writes. -/
structure Outcome where
  exitCode : Nat
  receipt : SupervisorReceipt

/-- The error after the first four `try` blocks. -/
def errorBefore (owner revision : String) (observed : Observed) :
    Option Failure :=
  let error := noted none observed.launched
  let error := noted error (treeProof observed.finished)
  let error :=
    noted error
      (supervisorStopIfStarted (observed.run .stopping) observed.docker
        owner)
  noted error
    (remoteVerified (collected (observed.run .judging) owner revision))

/-- The body of `supervise_primary` once the child's owner is known. -/
def superviseChild (owner revision : String) (observed : Observed) :
    Outcome :=
  let stopped :=
    (supervisorStopIfStarted (observed.run .stopping) observed.docker
      owner).toOption.getD false
  let cleanup :=
    (collected (observed.run .judging) owner revision).toOption.join
  let before := errorBefore owner revision observed
  let examined := before.isNone && observed.child = some (some 0)
  let accepted := acceptChild owner cleanup observed
  let error :=
    if examined then noted none accepted
    else before <|> some (rejected "PRIMARY_CHILD_FAILED_OR_INTERRUPTED")
  let result :=
    if error.isNone && stopped then "PASS" else "FAILED_CLOSED"
  { exitCode := if result = "PASS" then 0 else 1
    receipt :=
      { owner := owner
        result := result
        cliTree := observed.finished.toOption
        childResult := if examined then observed.stdout.toOption else none
        childReceiptSha256 :=
          if examined then accepted.toOption else none
        originalPrimaryStopped := stopped
        remoteArtifactCleanup := cleanup
        errorCategory := error.map Failure.category } }

/-- The arguments that `supervise_primary` looks at. -/
structure Arguments where
  supervisorDirectory : Option String
  /-- `fresh.safe(args.clone_directory).name`. -/
  cloneName : Except Failure String
  expectedRevision : String

/-- `re.fullmatch(r"run-([0-9a-f]{32})", name)`. -/
def ownerOf (name : String) : Option String :=
  let owner := String.ofList (name.toList.drop 4)
  if "run-".toList.isPrefixOf name.toList && isHex 32 owner then some owner
  else none

/-- What `supervise_primary` does before it launches a child. -/
def admission (arguments : Arguments) (observed : Observed) :
    Except Failure String := do
  refuseIf (arguments.supervisorDirectory ≠ none)
    (rejected "PRIMARY_SUPERVISOR_DIRECTORY_IS_AUTOGENERATED")
  match ownerOf (← arguments.cloneName) with
  | none => .error (rejected "SIGNED_CURRENT_CLONE_DIRECTORY_REQUIRED")
  | some owner =>
      observed.prepared
      return owner

/-- `supervise_primary`. -/
def supervisePrimary (arguments : Arguments) (observed : Observed) :
    Except Failure Outcome := do
  let owner ← admission arguments observed
  return superviseChild owner arguments.expectedRevision observed

/-! ## What a pass stands for -/

/-- The primary as in a view: the accepted container, and not running. -/
structure SeenStopped (view : Json) : Prop where
  identity : subscript view "id" = .ok (.text sourceId)
  state :
    ∃ state, subscript view "state" = .ok (.object state) ∧
      get state "Status" = .text "exited" ∧
      (get state "Running").truthy = false ∧
      (get state "Pid").truthy = false

/-- The receipt of a child that passed, with a copy of the evidence. -/
structure ChildPassed (owner : String) (evidence : Evidence)
    (receipt : Members) : Prop where
  result :
    get receipt "result" = .text "PASS_PRIMARY_SCHEMA_QUARANTINE_ONLY"
  ofOwner : get receipt "owner" = .text owner
  mutations :
    ∃ mutations, get receipt "primary_mutations" = .object mutations ∧
      get mutations "temporary_role" = .text "CREATED_AND_DROPPED" ∧
      get mutations "schema_quarantine" = .text "COMMITTED"
  copy :
    ∃ proofs, get receipt "proofs" = .object proofs ∧
      (get proofs "remote_artifact_cleanup").pyEq (evidenceJson evidence) =
        true

/-- Everything that a pass of the supervisor stands for. -/
structure Sound (owner revision : String) (observed : Observed) : Prop where
  exited : observed.child = some (some 0)
  treeEnded :
    ∃ tree, observed.finished = .ok tree ∧
      Supervision.treeEnded tree = true
  records :
    ∃ run evidence receipt sha256,
      (∀ moment, observed.run moment = some run) ∧
      run.file "primary-receipt.json" =
        some (.json (.object receipt) sha256) ∧
      ChildPassed owner evidence receipt ∧
      remoteArtifactCleanupEvidence run owner revision = .ok evidence ∧
      evidence.createdCount = 3 ∧
      evidence.completedCount = 3 ∧
      ∀ purpose, ∃ createSha removeSha intent removal,
        Completed run owner revision purpose createSha removeSha intent
          removal
  stopped : ∃ view, observed.docker.lastView = .ok view ∧ SeenStopped view
  noneLeft : observed.docker.remaining = .ok []

/-! ## What the single blocks establish -/

variable {owner revision : String} {observed : Observed}

/-- No error is dropped: after a block there is none only if there was none
before and the block raised nothing. -/
theorem noted_eq_none_iff
    {Value : Type} (error : Option Failure) (block : Except Failure Value) :
    noted error block = none ↔ error = none ∧ ∃ value, block = .ok value := by
  cases block with
  | error failure => cases error <;> simp [noted]
  | ok value => simp [noted]

theorem errorBefore_eq_none_iff :
    errorBefore owner revision observed = none ↔
      (∃ done, observed.launched = .ok done) ∧
        (∃ done, treeProof observed.finished = .ok done) ∧
        (∃ stopped,
          supervisorStopIfStarted (observed.run .stopping) observed.docker
            owner = .ok stopped) ∧
        ∃ done,
          remoteVerified (collected (observed.run .judging) owner revision) =
            .ok done := by
  unfold errorBefore
  simp only [noted_eq_none_iff, true_and, and_assoc]

theorem dictGet_eq_ok_iff {value stored : Json} {key : String} :
    dictGet value key = .ok stored ↔
      ∃ members, value = .object members ∧ get members key = stored := by
  cases value <;> simp [dictGet]

theorem requireStopped_seenStopped
    {view : Json} {done : Unit} (accepted : requireStopped view = .ok done) :
    SeenStopped view := by
  unfold requireStopped at accepted
  simp only [bind_eq_ok_iff, refuseIf_eq_ok_iff, exists_const,
    Bool.not_eq_false, pyEq_text_iff, dictGet_eq_ok_iff, not_or,
    Bool.not_eq_true] at accepted
  rcases accepted with
    ⟨_, identity, rfl, _, state, _, ⟨members, rfl, rfl⟩, status, _,
      ⟨_, same, rfl⟩, _, ⟨_, again, rfl⟩, running, process⟩
  cases same
  cases again
  exact ⟨identity, members, state, status, running, process⟩

/-- Where the run left its marker, a stop that raised nothing has seen the
primary stopped and no container with the owner's label. -/
theorem supervisorStopIfStarted_spec
    {run : Option RunDirectory} {docker : DockerReplies} {stopped : Bool}
    (accepted : supervisorStopIfStarted run docker owner = .ok stopped) :
    stopped = true ∧
      ((run.any fun run => run.exists "started-primary.json") = true →
        (∃ view, docker.lastView = .ok view ∧ SeenStopped view) ∧
          docker.remaining = .ok []) := by
  unfold supervisorStopIfStarted at accepted
  split_ifs at accepted with marker
  · cases accepted
    refine ⟨rfl, fun there => ?_⟩
    rw [marker] at there
    cases there
  · simp only [bind_eq_ok_iff, refuseIf_eq_ok_iff, pure_eq_ok_iff,
      exists_const, not_not] at accepted
    rcases accepted with
      ⟨_, _, _, _, _, _, _, _, _, _, view, last, _, halted, _, _, rest, left,
        empty, passed⟩
    subst empty
    exact
      ⟨passed.symm, fun _ =>
        ⟨⟨view, last, requireStopped_seenStopped halted⟩, left⟩⟩

theorem treeProof_eq_ok_iff
    {finished : Except Failure Json} {done : Unit} :
    treeProof finished = .ok done ↔
      ∃ tree, finished = .ok tree ∧ treeEnded tree = true := by
  unfold treeProof
  simp only [bind_eq_ok_iff, refuseIf_eq_ok_iff, Bool.not_eq_false]

theorem mutationsAccepted_iff (mutations : Json) :
    mutationsAccepted mutations = true ↔
      ∃ members, mutations = .object members ∧
        get members "temporary_role" = .text "CREATED_AND_DROPPED" ∧
        get members "schema_quarantine" = .text "COMMITTED" := by
  cases mutations <;> simp [mutationsAccepted]

/-- The proofs of a receipt are accepted only with three completed removals of
the supervisor's own evidence, and a copy of that evidence. -/
theorem proofsAccepted_cleanup
    {cleanup : Option Evidence} {proofs : Json}
    (accepted : proofsAccepted cleanup proofs = true) :
    ∃ members evidence, proofs = .object members ∧
      cleanup = some evidence ∧
      evidence.createdCount = 3 ∧
      evidence.completedCount = 3 ∧
      (get members "remote_artifact_cleanup").pyEq (evidenceJson evidence) =
        true := by
  cases proofs with
  | object members =>
      simp only [proofsAccepted, Bool.and_eq_true] at accepted
      rcases (Option.any_eq_true _ _).1 accepted.2 with
        ⟨evidence, rfl, conditions⟩
      simp only [Bool.and_eq_true, decide_eq_true_eq] at conditions
      exact
        ⟨members, evidence, rfl, rfl, conditions.1.1.2, conditions.1.2,
          conditions.2⟩
  | _ => cases accepted

/-- An accepted receipt is that of a child that passed. -/
theorem receiptAccepted_childPassed
    {cleanup : Option Evidence} {receipt : Members}
    (accepted : receiptAccepted owner cleanup receipt = true) :
    ∃ evidence, cleanup = some evidence ∧
      evidence.createdCount = 3 ∧
      evidence.completedCount = 3 ∧
      ChildPassed owner evidence receipt := by
  simp only [receiptAccepted, Bool.and_eq_true, pyEq_text_iff] at accepted
  rcases accepted with ⟨⟨⟨⟨result, _⟩, ofOwner⟩, mutations⟩, proofs⟩
  rcases proofsAccepted_cleanup proofs with
    ⟨members, evidence, shape, rfl, created, completed, copy⟩
  exact
    ⟨evidence, rfl, created, completed, result, ofOwner,
      (mutationsAccepted_iff _).1 mutations, members, shape, copy⟩

theorem acceptChild_receipt
    {cleanup : Option Evidence} {sha256 : String}
    (accepted : acceptChild owner cleanup observed = .ok sha256) :
    ∃ receipt,
      ((observed.run .accepting).bind fun run =>
          run.file "primary-receipt.json") =
        some (.json (.object receipt) sha256) ∧
        receiptAccepted owner cleanup receipt = true := by
  unfold acceptChild at accepted
  simp only [bind_eq_ok_iff, refuseIf_eq_ok_iff, pure_eq_ok_iff,
    exists_const, Bool.not_eq_false] at accepted
  rcases accepted with
    ⟨_, _, _, _, _, _, _, _, _, ⟨receipt, sha⟩, record, conditions, rfl⟩
  exact ⟨receipt, readJson_eq_ok_iff.1 record, conditions⟩

/-- There is an error, or there was none before and the child's receipt was
accepted. -/
theorem superviseChild_cases :
    ((superviseChild owner revision observed).exitCode = 1 ∧
        (superviseChild owner revision observed).receipt.result =
          "FAILED_CLOSED") ∨
      ((superviseChild owner revision observed).exitCode = 0 ∧
        (superviseChild owner revision observed).receipt.result = "PASS" ∧
        errorBefore owner revision observed = none ∧
        observed.child = some (some 0) ∧
        ∃ sha256,
          acceptChild owner
              (collected (observed.run .judging) owner
                revision).toOption.join
              observed =
            .ok sha256) := by
  cases before : errorBefore owner revision observed with
  | some failure =>
      refine Or.inl ⟨?_, ?_⟩ <;> simp [superviseChild, before]
  | none =>
      by_cases exited : observed.child = some (some 0)
      · cases accepted :
          acceptChild owner
            (collected (observed.run .judging) owner revision).toOption.join
            observed with
        | error failure =>
            refine Or.inl ⟨?_, ?_⟩ <;>
              simp [superviseChild, before, exited, accepted, noted]
        | ok sha256 =>
            rcases (errorBefore_eq_none_iff.1 before).2.2.1 with
              ⟨stopped, stop⟩
            have isStopped :
                (supervisorStopIfStarted (observed.run .stopping)
                  observed.docker owner).toOption.getD false = true := by
              rw [stop, (supervisorStopIfStarted_spec stop).1]
              rfl
            refine Or.inr ⟨?_, ?_, rfl, exited, sha256, rfl⟩ <;>
              simp [superviseChild, before, exited, accepted, noted,
                isStopped]
      · refine Or.inl ⟨?_, ?_⟩ <;>
          simp [superviseChild, before, exited]

/-- The evidence that the supervisor collected was collected from the run
directory. -/
theorem collected_eq_some
    {run : Option RunDirectory} {evidence : Evidence}
    (found : (collected run owner revision).toOption.join = some evidence) :
    ∃ directory, run = some directory ∧
      remoteArtifactCleanupEvidence directory owner revision =
        .ok evidence := by
  cases run with
  | none => cases found
  | some directory =>
      refine ⟨directory, rfl, ?_⟩
      rw [collected] at found
      cases judged :
        remoteArtifactCleanupEvidence directory owner revision with
      | error failure =>
          rw [judged] at found
          cases found
      | ok known =>
          rw [judged] at found
          cases found
          rfl

/-- A pass is sound. -/
theorem superviseChild_sound
    (noError : errorBefore owner revision observed = none)
    (exited : observed.child = some (some 0)) {sha256 : String}
    (accepted :
      acceptChild owner
          (collected (observed.run .judging) owner revision).toOption.join
          observed =
        .ok sha256) :
    Sound owner revision observed := by
  rcases errorBefore_eq_none_iff.1 noError with
    ⟨_, ⟨_, proven⟩, ⟨_, stop⟩, _⟩
  rcases treeProof_eq_ok_iff.1 proven with ⟨tree, finished, ended⟩
  have settled := observed.settled tree finished ended
  rcases acceptChild_receipt accepted with ⟨receipt, record, conditions⟩
  rcases receiptAccepted_childPassed conditions with
    ⟨evidence, cleanup, created, completed, passed⟩
  rcases collected_eq_some cleanup with ⟨run, judging, judged⟩
  have always : ∀ moment, observed.run moment = some run := fun moment =>
    (settled moment .judging).trans judging
  have records := completed_of_count judged completed
  -- A reserved file means that the marker is there, so the stop looked.
  have marker : run.exists "started-primary.json" = true := by
    rcases records .provisionSql with ⟨_, _, _, _, complete⟩
    apply observed.markerFirst .judging run judging .provisionSql
    rw [complete.createRecord]
    rfl
  rw [always .stopping] at stop
  rcases (supervisorStopIfStarted_spec stop).2 marker with
    ⟨stopped, noneLeft⟩
  rw [always .accepting] at record
  exact
    { exited := exited
      treeEnded := ⟨tree, finished, ended⟩
      records :=
        ⟨run, evidence, receipt, sha256, always, record, passed, judged,
          created, completed, records⟩
      stopped := stopped
      noneLeft := noneLeft }

/-! ## The verdict -/

/--
Whatever the child did and however it ended: the supervisor either gives up
before there is a child, or it returns 0 and passes a sound run, or it returns
1 and its receipt says `FAILED_CLOSED`.
-/
theorem supervisePrimary_sound
    (arguments : Arguments) (observed : Observed) :
    (∃ failure, admission arguments observed = .error failure ∧
        supervisePrimary arguments observed = .error failure) ∨
      ∃ owner outcome, admission arguments observed = .ok owner ∧
        supervisePrimary arguments observed = .ok outcome ∧
        ((outcome.exitCode = 0 ∧ outcome.receipt.result = "PASS" ∧
            Sound owner arguments.expectedRevision observed) ∨
          (outcome.exitCode = 1 ∧
            outcome.receipt.result = "FAILED_CLOSED")) := by
  cases admitted : admission arguments observed with
  | error failure =>
      refine Or.inl ⟨failure, rfl, ?_⟩
      rw [supervisePrimary, admitted]
      rfl
  | ok owner =>
      refine
        Or.inr
          ⟨owner, superviseChild owner arguments.expectedRevision observed,
            rfl, ?_, ?_⟩
      · rw [supervisePrimary, admitted]
        rfl
      · rcases superviseChild_cases with
          failed | ⟨passed, result, noError, exited, _, accepted⟩
        · exact Or.inr failed
        · exact
            Or.inl
              ⟨passed, result, superviseChild_sound noError exited accepted⟩

end KairosDeploy.Primary.Supervision
