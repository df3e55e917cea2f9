import KairosDeploy.Primary.ControllerReceipt
import KairosDeploy.Primary.Supervision

/-!
# The records that a run leaves

What `remote_artifact_cleanup_evidence` reads in the run directory of the
controller, at the end of a run and wherever it is cut off, and what the
supervisor makes of it.
-/

namespace KairosDeploy.Primary.ControllerRecords

open KairosDeploy.Library.Refusal
open KairosDeploy.Library.JsonValue
open KairosDeploy.Library.HexDigest
open KairosDeploy.Library.FaultyProgram
open KairosDeploy.Primary.RemoteArtifacts
open KairosDeploy.Primary.Controller
open KairosDeploy.Primary.TemporaryFiles
open KairosDeploy.Primary.ControllerReceipt

variable {env : Environment} {world : World} {purpose : Purpose}

/-! ## The run directory -/

theorem lookup_entry (name other : String) (file : Option FileState) :
    (World.entry other file).lookup name =
      if name = other then file else none := by
  cases file with
  | none => simp [World.entry]
  | some state => by_cases same : name = other <;> simp [World.entry, same]

theorem file_directory (name : String) :
    world.directory.file name =
      ((if name = "started-primary.json" then world.marker else none).or
        (if name = "native-apply.json" then world.nativeApply else none)).or
        ((Purpose.all.flatMap fun purpose =>
          World.entry purpose.createName (world.slot purpose).create ++
            World.entry purpose.removeName
              (world.slot purpose).remove).lookup name) := by
  rw [RunDirectory.file, World.directory, List.lookup_append,
    List.lookup_append, lookup_entry, lookup_entry]

theorem file_createName :
    world.directory.file purpose.createName =
      (world.slot purpose).create := by
  rw [file_directory]
  unfold Purpose.createName Purpose.removeName
  cases purpose <;>
    simp [Purpose.all, Purpose.text, List.lookup_append, lookup_entry]

theorem file_removeName :
    world.directory.file purpose.removeName =
      (world.slot purpose).remove := by
  rw [file_directory]
  unfold Purpose.createName Purpose.removeName
  cases purpose <;>
    simp [Purpose.all, Purpose.text, List.lookup_append, lookup_entry]

theorem file_marker :
    world.directory.file "started-primary.json" = world.marker := by
  rw [file_directory]
  unfold Purpose.createName Purpose.removeName
  simp [Purpose.all, Purpose.text, List.lookup_append, lookup_entry]

theorem mem_entry {name other : String} {state : FileState}
    {file : Option FileState}
    (member : (name, state) ∈ World.entry other file) : name = other := by
  rcases List.mem_map.1 member with ⟨_, _, same⟩
  cases same
  rfl

/-- The names that `remote_artifact_cleanup_evidence` takes for records. -/
def isRecordName (name : String) : Bool :=
  matchesGlob "remote-create-" name || matchesGlob "remote-remove-" name

/-- The controller writes no record of an unknown purpose. -/
theorem not_hasUnknownRecord : ¬ world.directory.HasUnknownRecord := by
  rintro ⟨⟨name, state⟩, member, glob, unknown⟩
  rw [World.directory, List.mem_append, List.mem_append, List.mem_flatMap]
    at member
  rcases member with (marker | apply) | ⟨purpose, _, record⟩
  · have plain : isRecordName "started-primary.json" = false := by
      decide
    rw [isRecordName, ← mem_entry marker] at plain
    rw [plain] at glob
    cases glob
  · have plain : isRecordName "native-apply.json" = false := by
      decide
    rw [isRecordName, ← mem_entry apply] at plain
    rw [plain] at glob
    cases glob
  · apply unknown
    rw [List.mem_append] at record ⊢
    rcases record with create | remove
    · rw [mem_entry create]
      exact .inl (List.mem_map_of_mem (mem_all purpose))
    · rw [mem_entry remove]
      exact .inr (List.mem_map_of_mem (mem_all purpose))

/-! ## What the records of one purpose say -/

/-- The verdict on records that are not torn. -/
def recordedVerdict (slot : Slot) : Verdict :=
  match slot.create, slot.remove with
  | some (.json _ createSha), some (.json _ removeSha) =>
      .completed createSha removeSha
  | some (.json _ createSha), _ => .pending createSha
  | _, _ => .notReserved

theorem judge_unreserved
    (create : (world.slot purpose).create = none)
    (remove : (world.slot purpose).remove = none) :
    judge world.directory env.owner env.revision purpose =
      .ok .notReserved := by
  have missing : world.directory.exists purpose.createName = false := by
    rw [RunDirectory.exists, file_createName, create]
    rfl
  rw [judge, if_pos missing, RunDirectory.exists, RunDirectory.linked,
    file_createName, file_removeName, create, remove]
  rfl

section Judge

variable {run : RunDirectory} {owner revision createSha removeSha : String}
variable {intent removal : Members}

theorem judge_of_created
    (found :
      run.file purpose.createName = some (.json (.object intent) createSha))
    (accepted : createAccepted owner revision purpose intent = true) :
    judge run owner revision purpose =
      judgeRemoval run owner purpose createSha intent := by
  rw [judge, RunDirectory.exists, found, if_neg (by simp [FileState.exists])]
  show (do
      refuseIf (createAccepted owner revision purpose intent = false)
        (rejected "PRIMARY_REMOTE_CREATE_INTENT_INVALID")
      judgeRemoval run owner purpose createSha intent) = _
  rw [accepted]
  rfl

theorem judgeRemoval_of_missing
    (missing : run.file purpose.removeName = none) :
    judgeRemoval run owner purpose createSha intent =
      .ok (.pending createSha) := by
  rw [judgeRemoval, RunDirectory.exists, RunDirectory.linked, missing]
  rfl

theorem not_unhashable_of_outcomeAccepted
    (accepted : outcomeAccepted purpose intent removal = true) :
    unhashable (get removal "outcome") = false := by
  unfold outcomeAccepted at accepted
  cases outcome : get removal "outcome" with
  | array _ =>
      rw [outcome] at accepted
      cases accepted
  | object _ =>
      rw [outcome] at accepted
      cases accepted
  | _ => rfl

theorem judgeRemoval_of_removed
    (found :
      run.file purpose.removeName =
        some (.json (.object removal) removeSha))
    (accepted :
      removeAccepted owner purpose createSha intent removal = true) :
    judgeRemoval run owner purpose createSha intent =
      .ok (.completed createSha removeSha) := by
  rw [removeAccepted, Bool.and_eq_true] at accepted
  have hashable := not_unhashable_of_outcomeAccepted accepted.2
  rw [judgeRemoval, RunDirectory.exists, found,
    if_neg (by simp [FileState.exists])]
  show (do
      refuseIf (removeBound owner purpose createSha removal = false)
        (rejected "PRIMARY_REMOTE_REMOVE_RECORD_INVALID")
      refuseIf (unhashable (get removal "outcome") = true)
        (raised "TypeError")
      refuseIf (outcomeAccepted purpose intent removal = false)
        (rejected "PRIMARY_REMOTE_REMOVE_RECORD_INVALID")
      return Verdict.completed createSha removeSha) = _
  rw [accepted.1, hashable, accepted.2]
  rfl

end Judge

/-- The reservation on disk, as the evidence reads it. -/
theorem file_of_reserved {payload : List UInt8}
    (reserved : Reserved env purpose payload (world.slot purpose)) :
    world.directory.file purpose.createName =
      some
        (.json (.object (createRecord env purpose payload))
          (reservationSha env purpose payload)) := by
  rw [file_createName, reserved.create, savedRecord, reservationSha]

theorem judge_pending {payload : List UInt8}
    (reserved : Reserved env purpose payload (world.slot purpose))
    (remove : (world.slot purpose).remove = none) :
    judge world.directory env.owner env.revision purpose =
      .ok (.pending (reservationSha env purpose payload)) := by
  rw [judge_of_created (file_of_reserved reserved)
    (createAccepted_createRecord reserved.reservable)]
  exact judgeRemoval_of_missing (file_removeName.trans remove)

theorem judge_removed {payload : List UInt8} {removal : Members}
    (reserved : Reserved env purpose payload (world.slot purpose))
    (remove :
      (world.slot purpose).remove = some (savedRecord env removal))
    (accepted :
      removeAccepted env.owner purpose (reservationSha env purpose payload)
        (createRecord env purpose payload) removal = true) :
    judge world.directory env.owner env.revision purpose =
      .ok
        (.completed (reservationSha env purpose payload)
          (env.sha256.hexdigest (env.encode removal))) := by
  rw [judge_of_created (file_of_reserved reserved)
    (createAccepted_createRecord reserved.reservable)]
  refine judgeRemoval_of_removed ?_ accepted
  rw [file_removeName, remove, savedRecord]

/-- A slot whose records are not torn. -/
structure Intact (slot : Slot) : Prop where
  create : slot.create ≠ some .garbled
  remove : slot.remove ≠ some .garbled

/-- Records that are not torn are accepted. -/
theorem judge_intact (kept : Kept env purpose (world.slot purpose))
    (intact : Intact (world.slot purpose)) :
    judge world.directory env.owner env.revision purpose =
      .ok (recordedVerdict (world.slot purpose)) := by
  cases kept.stage with
  | unreserved create remove intent foreign =>
      have missing := create.resolve_right intact.create
      rw [judge_unreserved missing remove, recordedVerdict, missing]
  | reserved payload reserved remove remote =>
      rw [judge_pending reserved remove, recordedVerdict, remove,
        reserved.create]
      rfl
  | removed payload reserved remove remote =>
      rcases remove.resolve_left intact.remove with
        ⟨removal, found, accepted⟩
      rw [judge_removed reserved found accepted, recordedVerdict, found,
        reserved.create]
      rfl

/-- If no record of the run is torn, there is evidence, which says of every
temporary file what its records say. -/
theorem evidence_intact (files : Files env world)
    (intact : ∀ purpose, Intact (world.slot purpose)) :
    remoteArtifactCleanupEvidence world.directory env.owner env.revision =
      .ok
        (tally (verdictsOf fun purpose =>
          recordedVerdict (world.slot purpose))) :=
  evidence_eq_ok_iff.2
    ⟨env.revisionHex, env.ownerHex, rfl, not_hasUnknownRecord, _,
      fun purpose => judge_intact (files.slots purpose) (intact purpose),
      rfl⟩

/-! ## Files of the run -/

/-- A file that the run created, and that is still there. -/
def HasOwnFile (world : World) (purpose : Purpose) : Prop :=
  ∃ file, (world.slot purpose).remote = some file ∧ file.fromRun = true

/-- An own file is reserved on disk, and its removal is not recorded. -/
theorem reserved_of_hasOwnFile (files : Files env world)
    (own : HasOwnFile world purpose) :
    ∃ payload,
      Reserved env purpose payload (world.slot purpose) ∧
        (world.slot purpose).remove = none := by
  rcases own with ⟨file, remote, fromRun⟩
  cases (files.slots purpose).stage with
  | unreserved create remove intent foreign =>
      rw [foreign file remote] at fromRun
      cases fromRun
  | reserved payload reserved remove _ => exact ⟨payload, reserved, remove⟩
  | removed payload reserved remove gone =>
      rw [gone] at remote
      cases remote

/-- The evidence is never verified while an own file is there. -/
theorem not_verified_of_hasOwnFile (files : Files env world)
    (own : HasOwnFile world purpose) {evidence : Evidence}
    (found :
      remoteArtifactCleanupEvidence world.directory env.owner env.revision =
        .ok evidence) :
    evidence.verified = false := by
  rcases reserved_of_hasOwnFile files own with ⟨payload, reserved, remove⟩
  rcases evidence_eq_ok_iff.1 found with ⟨_, _, _, _, verdict, judged, rfl⟩
  have pending :
      verdict purpose = .pending (reservationSha env purpose payload) :=
    Except.ok.inj
      ((judged purpose).symm.trans (judge_pending reserved remove))
  show (!(verdictsOf verdict).any fun entry => entry.2.isPending) = false
  rw [Bool.not_eq_false', List.any_eq_true]
  refine ⟨_, List.mem_map_of_mem (mem_all purpose), ?_⟩
  rw [pending]
  rfl

theorem markerFirst_directory (files : Files env world) :
    world.directory.MarkerFirst := by
  intro purpose created
  rw [file_createName] at created
  rw [RunDirectory.exists, file_marker]
  exact files.afterMarker purpose created

/--
Temporary files in the primary container are never forgotten.  After every
run, finished or cut off: an own file that is still there is reserved by a
record on disk, its removal is not recorded, and the evidence is not verified.
Every `rm` that was issued was for a recorded regular file with one link and
with the expected bytes.  Every pair of records that is not torn is accepted.
-/
theorem temporaryFiles_never_forgotten
    (env : Environment) (remote : Purpose → Option RemoteFile) :
    (∀ purpose, HasOwnFile (World.final env remote) purpose →
      (∃ payload,
        (World.final env remote).directory.file purpose.createName =
            some (savedRecord env (createRecord env purpose payload)) ∧
          createAccepted env.owner env.revision purpose
            (createRecord env purpose payload) = true) ∧
        (World.final env remote).directory.file purpose.removeName = none ∧
        ∀ evidence,
          remoteArtifactCleanupEvidence (World.final env remote).directory
              env.owner env.revision = .ok evidence →
            evidence.verified = false) ∧
      (∀ removal ∈ (World.final env remote).issued,
        Rightful env removal) ∧
      (∀ purpose, Intact ((World.final env remote).slot purpose) →
        judge (World.final env remote).directory env.owner env.revision
            purpose =
          .ok (recordedVerdict ((World.final env remote).slot purpose))) ∧
      ((∀ purpose, Intact ((World.final env remote).slot purpose)) →
        remoteArtifactCleanupEvidence (World.final env remote).directory
            env.owner env.revision =
          .ok
            (tally (verdictsOf fun purpose =>
              recordedVerdict
                ((World.final env remote).slot purpose)))) := by
  have always : Always env (World.final env remote) := always_final remote
  have files := always.1
  refine ⟨fun purpose own => ?_, files.issued, ?_, ?_⟩
  · rcases reserved_of_hasOwnFile files own with ⟨payload, reserved, remove⟩
    refine
      ⟨⟨payload, file_createName.trans reserved.create,
          createAccepted_createRecord reserved.reservable⟩,
        file_removeName.trans remove, fun evidence found => ?_⟩
    exact not_verified_of_hasOwnFile files own found
  · exact fun purpose intact => judge_intact (files.slots purpose) intact
  · exact evidence_intact files

/-! ## A run under its supervisor -/

/-- The run directory with one more file, under another name. -/
def withFile (directory : RunDirectory) (name : String) (file : FileState) :
    RunDirectory :=
  { directory with files := directory.files ++ [(name, file)] }

theorem file_withFile
    {directory : RunDirectory} {name other : String} {file : FileState}
    (apart : other ≠ name) :
    (withFile directory name file).file other = directory.file other := by
  have differs : (other == name) = false := beq_false_of_ne apart
  show (directory.files ++ [(name, file)]).lookup other =
    directory.files.lookup other
  rw [List.lookup_append, List.lookup_cons, differs]
  cases directory.files.lookup other with
  | none => rfl
  | some found => rfl

theorem markerFirst_withFile
    {directory : RunDirectory} (first : directory.MarkerFirst)
    (file : FileState) :
    (withFile directory "primary-receipt.json" file).MarkerFirst := by
  intro purpose created
  have apart : purpose.createName ≠ "primary-receipt.json" := by
    cases purpose with
    | provisionSql => decide
    | cleanupSql => decide
    | backupAfter => decide
  rw [file_withFile apart] at created
  rw [RunDirectory.exists, file_withFile (by decide)]
  exact first purpose created

/-- An environment in which every step works and the transition commits. -/
def flawless : Environment :=
  { failingAt 0 .nothing with
    answer := fun _ =>
      { fate := .works
        exited := false
        postgresUid := some 0
        dump := [80]
        apply :=
          .committed
            (some
              (.json
                (.object
                  (dict
                    [("kind", .text "controlled-runtime-native-apply-v1"),
                      ("state", .text "COMMITTED_ACKNOWLEDGED")]))
                "0000000000000000000000000000000000000000000000000000000000000000")) } }

/-- A flawless run in a container without files. -/
def flawlessWorld : World :=
  World.final flawless fun _ => none

/-- The child's receipt, with a copy of the evidence. -/
def childReceipt (owner : String) (evidence : Evidence) : Members :=
  dict
    [("result", .text "PASS_PRIMARY_SCHEMA_QUARANTINE_ONLY"),
      ("cleanup_verified", .bool true),
      ("owner", .text owner),
      ("primary_mutations",
        .object
          (dict
            [("temporary_role", .text "CREATED_AND_DROPPED"),
              ("schema_quarantine", .text "COMMITTED")])),
      ("proofs",
        .object
          (dict
            [("native_apply_sha256", .text "0"),
              ("native_verify_sha256", .text "0"),
              ("restored_primary_verify_sha256", .text "0"),
              ("restored_primary_pg_amcheck_exit_code", .int 0),
              ("operator_snapshot_sha256", .text "0"),
              ("primary_controller_sha256", .text "0"),
              ("remote_artifact_cleanup",
                Supervision.evidenceJson evidence)]))]

/-- What the supervisor reads from the directory of a flawless run. -/
def flawlessDirectory : RunDirectory :=
  withFile flawlessWorld.directory "primary-receipt.json"
    (.json
      (.object
        (childReceipt flawless.owner
          (tally
            (verdictsOf fun purpose =>
              recordedVerdict (flawlessWorld.slot purpose)))))
      "0000000000000000000000000000000000000000000000000000000000000000")

/-- The primary as Docker shows it after the run. -/
def stoppedView : Json :=
  .object
    (dict
      [("id", .text sourceId), ("image", .text Supervision.imageId),
        ("labels",
          .object
            (dict [("com.docker.compose.service", .text "timescaledb")])),
        ("state",
          .object
            (dict
              [("Status", .text "exited"), ("Running", .bool false),
                ("Pid", .int 0)]))])

/-- A child that ran flawlessly, seen from its supervisor. -/
def flawlessChild : Supervision.Observed where
  prepared := .ok ()
  launched := .ok ()
  child := some (some 0)
  finished :=
    .ok
      (.object
        (dict
          [("assigned_before_resume", .bool true),
            ("tree_cleanup_verified", .bool true),
            ("active_owned_processes_after", .int 0)]))
  docker :=
    { firstView := .ok stoppedView
      stop := .ok ()
      lastView := .ok stoppedView
      owned := .ok []
      item := fun _ => .ok .null
      remove := fun _ => .ok ()
      remaining := .ok [] }
  run := fun _ => some flawlessDirectory
  stdout := .ok (.object (dict [("receipt", .text "primary-receipt.json")]))
  isReceiptPath := fun _ => .ok true
  settled := fun _ _ _ _ _ => rfl
  markerFirst := fun _ _ seen =>
    Option.some.inj seen ▸
      markerFirst_withFile
        (markerFirst_directory (always_final fun _ => none).1) _

/-- The arguments of its supervisor. -/
def flawlessArguments : Supervision.Arguments where
  supervisorDirectory := none
  cloneName := .ok ("run-" ++ flawless.owner)
  expectedRevision := flawless.revision

/-- The supervisor passes a flawless run, and the pass is sound. -/
theorem supervisePrimary_sound_flawless :
    ∃ owner outcome,
      Supervision.supervisePrimary flawlessArguments flawlessChild =
          .ok outcome ∧
        outcome.exitCode = 0 ∧
        Supervision.Sound owner flawless.revision flawlessChild := by
  have zero :
      (Supervision.supervisePrimary flawlessArguments
          flawlessChild).toOption.map Supervision.Outcome.exitCode =
        some 0 := by
    decide +kernel
  rcases Supervision.supervisePrimary_sound flawlessArguments flawlessChild
    with ⟨failure, _, refused⟩ | ⟨owner, outcome, _, returned, verdict⟩
  · rw [refused] at zero
    cases zero
  · rw [returned] at zero
    have passed : outcome.exitCode = 0 := Option.some.inj zero
    rcases verdict with ⟨_, _, sound⟩ | ⟨failed, _⟩
    · exact ⟨owner, outcome, returned, passed, sound⟩
    · rw [passed] at failed
      cases failed

end KairosDeploy.Primary.ControllerRecords
