import KairosDeploy.Primary.Controller

/-!
# The drop of the temporary role

The SQL that drops the role may take effect and lose its reply, so that the
controller never acknowledges it.  Then no worker is left, the primary counts
as started and the private SQL is still there: the cleanup attempts the drop
again, and either acknowledges it or calls itself uncertain.
-/

namespace KairosDeploy.Primary.LostDrop

open KairosDeploy.Library.FaultyProgram
open KairosDeploy.Library.FaultyProgram.Program
open KairosDeploy.Primary.RemoteArtifacts
open KairosDeploy.Primary.Controller

variable {env : Environment}

/-! ## What the functions leave alone -/

/-- What is known of the drop itself. -/
structure Reply where
  roleDropped : Bool
  dropAcknowledged : Bool
  sqlIssued : List (Purpose × Nat)

/-- What is known of the drop itself. -/
def reply (world : World) : Reply where
  roleDropped := world.roleDropped
  dropAcknowledged := world.dropAcknowledged
  sqlIssued := world.sqlIssued

/-- What the drop of the role depends on, but for the workers. -/
structure DropView extends Reply where
  startedSource : Bool
  provisionAttempted : Bool
  workerCleanupVerified : Bool
  slot : Purpose → Slot

/-- What the drop of the role depends on, but for the workers. -/
def dropView (world : World) : DropView where
  toReply := reply world
  startedSource := world.startedSource
  provisionAttempted := world.provisionAttempted
  workerCleanupVerified := world.workerCleanupVerified
  slot := world.slot

/-- The same with the workers. -/
def outerView (world : World) : DropView × List String :=
  (dropView world, world.workers)

section Frames

variable {View : Type} {view : World → View}

theorem leaves_external (tick : ∀ world, view world.tick = view world) :
    Leaves view (external env) :=
  leaves_perform fun _ world => tick world

theorem leaves_statusStep
    (tick : ∀ world, view world.tick = view world)
    {effect : Extent → Status → Status}
    (same :
      ∀ extent world,
        view { world with toStatus := effect extent world.toStatus } =
          view world) :
    Leaves view (statusStep env effect) :=
  leaves_perform fun extent world => (tick _).trans (same extent world)

theorem leaves_updateStatus
    {change : Status → Status}
    (same :
      ∀ world,
        view { world with toStatus := change world.toStatus } = view world) :
    Leaves view (updateStatus change) :=
  leaves_update same

/-- Views of the world that no temporary file belongs to. -/
structure Outside (view : World → View) : Prop where
  tick : ∀ world, view world.tick = view world
  slots : ∀ world purpose slot,
    view (World.setSlot world purpose slot) = view world
  issued : ∀ world removals,
    view { world with issued := removals } = view world

variable (outside : Outside view)
include outside

theorem Outside.slotStep
    {purpose : Purpose} {effect : Extent → Slot → Slot} :
    Leaves view (slotStep env purpose effect) :=
  leaves_perform fun _ world =>
    (outside.tick _).trans (outside.slots world _ _)

theorem Outside.updateSlot
    {purpose : Purpose} {change : Slot → Slot} :
    Leaves view (updateSlot purpose change) :=
  leaves_update fun world => outside.slots world _ _

theorem Outside.requireRemoteAbsent (purpose : Purpose) :
    Leaves view (requireRemoteAbsent env purpose) := by
  refine (leaves_external outside.tick).bind fun _ => ?_
  refine leaves_refuseWhen.bind fun _ => ?_
  exact (leaves_external outside.tick).bind fun _ => leaves_refuseWhen

theorem Outside.reserveRemoteFile (purpose : Purpose) :
    Leaves view (reserveRemoteFile env purpose) := by
  refine leaves_refuseWhen.bind fun _ => ?_
  refine leaves_refuseWhen.bind fun _ => ?_
  refine leaves_observe.bind fun payload => ?_
  refine (leaves_external outside.tick).bind fun _ => ?_
  refine (outside.requireRemoteAbsent purpose).bind fun _ => ?_
  refine leaves_refuseWhen.bind fun _ => ?_
  refine outside.slotStep.bind fun _ => ?_
  exact (leaves_external outside.tick).bind fun _ => outside.updateSlot

theorem Outside.copySql (purpose : Purpose) :
    Leaves view (copySql env purpose) := by
  refine leaves_refuseWhen.bind fun _ => ?_
  refine (outside.reserveRemoteFile purpose).bind fun _ => ?_
  refine outside.slotStep.bind fun _ => ?_
  refine (leaves_external outside.tick).bind fun _ => ?_
  refine (leaves_external outside.tick).bind fun _ => ?_
  exact leaves_refuseWhen.bind fun _ => outside.updateSlot

theorem Outside.remoteFileState (purpose : Purpose) :
    Leaves view (remoteFileState env purpose) := by
  refine (leaves_external outside.tick).bind fun _ => ?_
  exact leaves_refuseWhen.bind fun _ => leaves_observe

theorem Outside.expectedDigest
    (purpose : Purpose) (record : Library.JsonValue.Members)
    (file : RemoteFile) :
    Leaves view (expectedDigest env purpose record file) := by
  refine leaves_observe.bind fun slot => ?_
  refine leaves_ite (leaves_ite leaves_pure ?_) ?_
  · exact leaves_refuseWhen.bind fun _ => leaves_pure
  · cases slot.owned with
    | some digest => exact leaves_pure
    | none =>
        refine (leaves_external outside.tick).bind fun _ => ?_
        exact leaves_refuseWhen.bind fun _ => leaves_pure

theorem Outside.removeFile
    (purpose : Purpose) (record : Library.JsonValue.Members)
    (file : RemoteFile) :
    Leaves view (removeFile env purpose record file) := by
  refine leaves_observe.bind fun uid => ?_
  refine (leaves_external outside.tick).bind fun _ => ?_
  refine leaves_refuseWhen.bind fun _ => ?_
  refine (leaves_external outside.tick).bind fun _ => ?_
  refine (outside.expectedDigest purpose record file).bind fun digest => ?_
  refine leaves_refuseWhen.bind fun _ => ?_
  refine (outside.remoteFileState purpose).bind fun again => ?_
  refine leaves_refuseWhen.bind fun _ => ?_
  refine Leaves.bind ?_ fun _ => leaves_pure
  refine (leaves_update fun world => outside.issued world _).bind fun _ => ?_
  exact outside.slotStep

theorem Outside.removeOwnedContainerFile (purpose : Purpose) :
    Leaves view (removeOwnedContainerFile env purpose) := by
  refine leaves_observe.bind fun known => ?_
  cases known with
  | none => exact leaves_raise
  | some intent =>
      refine leaves_observe.bind fun create => ?_
      refine leaves_lift.bind fun stored => ?_
      refine leaves_refuseWhen.bind fun _ => ?_
      refine (leaves_external outside.tick).bind fun _ => ?_
      refine (outside.remoteFileState purpose).bind fun state => ?_
      refine Leaves.bind ?_ fun record => ?_
      · cases state with
        | none => exact leaves_pure
        | some file =>
            exact
              (outside.removeFile purpose _ file).bind fun _ => leaves_pure
      · refine (outside.requireRemoteAbsent purpose).bind fun _ => ?_
        refine leaves_refuseWhen.bind fun _ => ?_
        exact outside.slotStep.bind fun _ => outside.updateSlot

theorem Outside.writeSql (purpose : Purpose) :
    Leaves view (writeSql env purpose) :=
  leaves_refuseWhen.bind fun _ => outside.slotStep

theorem Outside.unlinkSql (purpose : Purpose) :
    Leaves view (unlinkSql env purpose) :=
  outside.slotStep

theorem Outside.takeBackup : Leaves view (takeBackup env) := by
  refine (outside.reserveRemoteFile .backupAfter).bind fun _ => ?_
  refine Leaves.bind ?_ fun _ => ?_
  · exact leaves_observe.bind fun dump => outside.slotStep
  · refine (leaves_external outside.tick).bind fun _ => ?_
    refine leaves_refuseWhen.bind fun _ => ?_
    refine outside.slotStep.bind fun _ => ?_
    refine (leaves_external outside.tick).bind fun _ => ?_
    exact leaves_refuseWhen.bind fun _ => outside.updateSlot

end Frames

theorem outside_reply : Outside reply :=
  ⟨fun _ => rfl, fun _ _ _ => rfl, fun _ _ => rfl⟩

/-- A part of what the temporary files do not belong to. -/
theorem outside_part {Part : Type} (part : Status → Part) :
    Outside fun world => part world.toStatus :=
  ⟨fun _ => rfl, fun _ _ _ => rfl, fun _ _ => rfl⟩

theorem tick_outerView (world : World) :
    outerView world.tick = outerView world :=
  rfl

theorem leaves_createOwned (name : String) :
    Leaves outerView (createOwned env name) := by
  refine leaves_refuseWhen.bind fun _ => ?_
  refine Leaves.bind (leaves_updateStatus fun _ => rfl) fun _ => ?_
  refine Leaves.bind ?_ fun _ => leaves_external tick_outerView
  apply leaves_statusStep tick_outerView
  intro extent world
  split_ifs <;> rfl

theorem leaves_dockerRemove (name : String) :
    Leaves outerView (dockerRemove env name) := by
  apply leaves_statusStep tick_outerView
  intro extent world
  split_ifs <;> rfl

theorem leaves_removeOwned (name : String) :
    Leaves outerView (removeOwned env name) := by
  refine (leaves_external tick_outerView).bind fun _ => ?_
  refine leaves_observe.bind fun listed => ?_
  refine leaves_ite ?_ (leaves_updateStatus fun _ => rfl)
  refine (leaves_external tick_outerView).bind fun _ => ?_
  exact
    (leaves_dockerRemove name).bind fun _ =>
      leaves_updateStatus fun _ => rfl

theorem leaves_worker (mode : String) (result : ApplyResult) :
    Leaves dropView (worker env mode result) := by
  have external : Leaves dropView (external env) :=
    leaves_external fun _ => rfl
  have removed (name : String) : Leaves dropView (dockerRemove env name) :=
    (leaves_dockerRemove name).map Prod.fst
  refine external.bind fun _ => ?_
  refine leaves_refuseWhen.bind fun _ => ?_
  refine Leaves.bind (leaves_updateStatus fun _ => rfl) fun _ => ?_
  refine Leaves.bind ?_ fun _ => ?_
  · apply leaves_statusStep fun _ => rfl
    intro extent world
    split_ifs <;> rfl
  refine external.bind fun _ => ?_
  refine Leaves.bind ?_ fun _ => ?_
  · apply leaves_statusStep fun _ => rfl
    intro extent world
    split_ifs <;> rfl
  refine external.bind fun _ => ?_
  refine Leaves.bind ?_ fun _ => ?_
  · unfold collectApply
    cases result.receipt with
    | none => exact leaves_pure
    | some file =>
        refine leaves_refuseWhen.bind fun _ => ?_
        exact leaves_statusStep (fun _ => rfl) fun _ _ => rfl
  refine external.bind fun _ => ?_
  exact (removed _).bind fun _ => leaves_updateStatus fun _ => rfl

theorem leaves_removeWorker (name : String) :
    Leaves dropView (removeWorker env name) := by
  refine (leaves_external fun _ => rfl).bind fun _ => ?_
  refine ((leaves_dockerRemove name).map Prod.fst).bind fun _ => ?_
  exact leaves_updateStatus fun _ => rfl

/-- A worker that has returned is no longer in the list. -/
theorem worker_workers (mode : String) (result : ApplyResult) :
    Ensures (fun _ => True) (fun world => world.workers = [])
      (worker env mode result) (fun _ world => world.workers = [])
      fun _ _ => True := by
  have kept {program : Run Unit} {listed : List String}
      (leaves : Leaves (fun world => world.workers) program) :
      Ensures (fun _ => True) (fun world => world.workers = listed) program
        (fun _ world => world.workers = listed) fun _ _ => True :=
    (leaves.ensures fun workers => workers = listed).keeps
  have external : Leaves (fun world => world.workers) (external env) :=
    leaves_external fun _ => rfl
  refine ensures_bind (kept external) fun _ => ?_
  refine ensures_bind (kept leaves_refuseWhen) fun _ => ?_
  refine
    ensures_through (fun _ world => world.workers = [workerName env mode])
      (ensures_update (fun _ _ _ => trivial) fun world _ none_left => ?_)
      fun _ => ?_
  · show world.workers ++ [workerName env mode] = [workerName env mode]
    rw [none_left]
    rfl
  refine ensures_bind (kept ?_) fun _ => ?_
  · apply leaves_statusStep fun _ => rfl
    intro extent world
    split_ifs <;> rfl
  refine ensures_bind (kept external) fun _ => ?_
  refine ensures_bind (kept ?_) fun _ => ?_
  · apply leaves_statusStep fun _ => rfl
    intro extent world
    split_ifs <;> rfl
  refine ensures_bind (kept external) fun _ => ?_
  refine ensures_bind (kept ?_) fun _ => ?_
  · unfold collectApply
    cases result.receipt with
    | none => exact leaves_pure
    | some file =>
        refine leaves_refuseWhen.bind fun _ => ?_
        exact leaves_statusStep (fun _ => rfl) fun _ _ => rfl
  refine ensures_bind (kept external) fun _ => ?_
  refine
    ensures_bind (kept ((leaves_dockerRemove _).map Prod.snd)) fun _ => ?_
  refine ensures_update (fun _ _ _ => trivial) fun world _ one_left => ?_
  show world.workers.erase (workerName env mode) = []
  rw [one_left]
  exact List.erase_cons_head _ _

/-! ## A lost reply -/

/-- A `psql` call of the SQL that drops the role took effect and raised. -/
def ReplyLost (env : Environment) (calls : List (Purpose × Nat)) : Prop :=
  ∃ step failure, (Purpose.cleanupSql, step) ∈ calls ∧
    (env.answer step).fate = .raises .whole failure

/-- The drop has not taken effect or is acknowledged. -/
def Decided (known : Reply) : Prop :=
  known.roleDropped = false ∨ known.dropAcknowledged = true

/-- The drop is decided, or its reply was lost. -/
def Accounted (env : Environment) (known : Reply) : Prop :=
  Decided known ∨ ReplyLost env known.sqlIssued

/-- The drop lost its reply, and the cleanup can attempt it again. -/
structure Outstanding (env : Environment) (known : DropView) : Prop where
  lost : ReplyLost env known.sqlIssued
  started : known.startedSource = true
  attempted : known.provisionAttempted = true
  source : (known.slot .cleanupSql).localFile.isSome = true

/-- What is known of the drop when the run is over. -/
def Known (env : Environment) (world : World) : Prop :=
  Decided (reply world) ∨
    Outstanding env (dropView world) ∧ world.workers = []

/-- What is known of the drop when the cleanup of the primary begins. -/
def Due (env : Environment) (known : DropView) : Prop :=
  Decided known.toReply ∨
    Outstanding env known ∧ known.workerCleanupVerified = true

/-- What is known of the drop when the cleanup is over. -/
def Told (env : Environment) (world : World) : Prop :=
  Decided (reply world) ∨
    ReplyLost env world.sqlIssued ∧ world.cleanupUncertain = true

theorem Due.accounted {known : DropView} (due : Due env known) :
    Accounted env known.toReply :=
  due.imp_right fun outstanding => outstanding.1.lost

/-! ## The run -/

/-- The fields that tell whether the cleanup can attempt the drop. -/
def fields (status : Status) : Bool × List String × Bool × Bool :=
  (status.roleDropped, status.workers, status.startedSource,
    status.provisionAttempted)

/-- The same fields, in every state of the world. -/
def fieldView (world : World) : Bool × List String × Bool × Bool :=
  fields world.toStatus

theorem outside_fieldView : Outside fieldView :=
  outside_part fields

theorem fieldView_of_outerView {Value : Type} {program : Run Value}
    (leaves : Leaves outerView program) : Leaves fieldView program :=
  leaves.map fun seen =>
    (seen.1.roleDropped, seen.2, seen.1.startedSource,
      seen.1.provisionAttempted)

/-- No drop has been attempted, and no worker is left. -/
def Early (world : World) : Prop :=
  world.roleDropped = false ∧ world.workers = []

/-- No drop has been attempted, and the cleanup would attempt it. -/
def Ready (world : World) : Prop :=
  world.roleDropped = false ∧ world.startedSource = true ∧
    world.provisionAttempted = true

/-- What is known where a program returns is known where it raises. -/
abbrev Stays (condition : World → Prop) (program : Run Unit) : Prop :=
  Ensures (fun _ => True) condition program (fun _ => condition)
    fun _ => condition

theorem prepare_stays : Stays Early (prepare env) := by
  have leaves : Leaves fieldView (prepare env) := by
    have external : Leaves fieldView (external env) :=
      leaves_external outside_fieldView.tick
    refine external.bind fun _ => ?_
    refine (fieldView_of_outerView (leaves_createOwned _)).bind fun _ => ?_
    refine external.bind fun _ => ?_
    refine (fieldView_of_outerView (leaves_removeOwned _)).bind fun _ => ?_
    refine Leaves.bind (leaves_updateStatus fun _ => rfl) fun _ => ?_
    refine external.bind fun _ => ?_
    refine (outside_fieldView.writeSql .provisionSql).bind fun _ => ?_
    refine (outside_fieldView.writeSql .cleanupSql).bind fun _ => ?_
    refine Leaves.bind ?_ fun _ => ?_
    · exact external.bind fun _ => leaves_updateStatus fun _ => rfl
    · refine leaves_refuseWhen.bind fun _ => ?_
      refine Leaves.bind ?_ fun _ => external
      exact leaves_statusStep outside_fieldView.tick fun _ _ => rfl
  exact leaves.ensures fun seen => seen.1 = false ∧ seen.2.1 = []

/-- The SQL of the role's creation has no part in its drop. -/
theorem leaves_provision :
    Leaves fieldView (runSqlFile env .provisionSql) := by
  have outside := outside_fieldView
  refine (outside.copySql .provisionSql).bind fun _ => ?_
  refine (leaves_external outside.tick).bind fun _ => ?_
  refine Leaves.bind ?_ fun _ => ?_
  · refine leaves_refuseWhen.bind fun _ => ?_
    refine Leaves.bind (leaves_update fun _ => rfl) fun _ => ?_
    apply leaves_statusStep outside.tick
    intro extent world
    split_ifs <;> rfl
  · refine Leaves.bind (leaves_updateStatus fun _ => rfl) fun _ => ?_
    exact outside.removeOwnedContainerFile .provisionSql

theorem startAndProvision_ready :
    Ensures (fun _ => True) Early (startAndProvision env)
      (fun _ world => Ready world ∧ world.workers = []) fun _ => Early := by
  have external : Leaves fieldView (external env) :=
    leaves_external outside_fieldView.tick
  have started {program : Run Unit} (leaves : Leaves fieldView program) :
      Ensures (fun _ => True)
        (fun world => Early world ∧ world.startedSource = true) program
        (fun _ world => Early world ∧ world.startedSource = true)
        fun _ => Early :=
    (leaves.ensures fun seen =>
      (seen.1 = false ∧ seen.2.1 = []) ∧ seen.2.2.1 = true).weakenFails
      fun _ _ _ known => known.1
  have attempted {program : Run Unit} (leaves : Leaves fieldView program) :
      Ensures (fun _ => True)
        (fun world => Ready world ∧ world.workers = []) program
        (fun _ world => Ready world ∧ world.workers = []) fun _ => Early :=
    (leaves.ensures fun seen =>
      (seen.1 = false ∧ seen.2.2.1 = true ∧ seen.2.2.2 = true) ∧
        seen.2.1 = []).weakenFails
      fun _ _ _ known => ⟨known.1.1, known.2⟩
  refine
    ensures_through
      (fun _ world => Early world ∧ world.startedSource = true)
      (ensures_update (fun _ _ _ => trivial) fun _ _ early => ⟨early, rfl⟩)
      fun _ => ?_
  refine ensures_bind (started ?_) fun _ => ?_
  · exact leaves_statusStep outside_fieldView.tick fun _ _ => rfl
  refine ensures_bind (started external) fun _ => ?_
  refine
    ensures_through (fun _ world => Ready world ∧ world.workers = [])
      (ensures_update (fun _ _ _ => trivial) ?_) fun _ => ?_
  · rintro world _ ⟨early, running⟩
    exact ⟨⟨early.1, running, rfl⟩, early.2⟩
  refine ensures_bind (attempted external) fun _ => ?_
  refine ensures_bind (attempted leaves_provision) fun _ => ?_
  exact attempted (outside_fieldView.unlinkSql .provisionSql)

/-- A worker leaves the drop as it was and no worker behind. -/
theorem worker_ready (mode : String) (result : ApplyResult) :
    Ensures (fun _ => True)
      (fun world => Ready world ∧ world.workers = [])
      (worker env mode result)
      (fun _ world => Ready world ∧ world.workers = [])
      fun _ => Known env := by
  have leaves : Leaves dropView (worker env mode result) :=
    leaves_worker mode result
  have frame :=
    leaves.ensures fun seen =>
      seen.roleDropped = false ∧ seen.startedSource = true ∧
        seen.provisionAttempted = true
  exact
    (frame.and (worker_workers mode result)).weakenFails
      fun _ _ _ failed => .inl (.inl failed.1.1)

/-! ## The SQL of the drop -/

/-- The private SQL that drops the role. -/
def sourceView (world : World) : Option (List UInt8) :=
  (world.slot .cleanupSql).localFile

theorem leaves_sourceStep
    {effect : Extent → Slot → Slot}
    (same : ∀ extent slot, (effect extent slot).localFile = slot.localFile) :
    Leaves sourceView (slotStep env .cleanupSql effect) := by
  apply leaves_perform
  intro extent world
  show
    ((world.setSlot .cleanupSql
          (effect extent (world.slot .cleanupSql))).slot
        .cleanupSql).localFile =
      sourceView world
  rw [World.setSlot_slot_self, same]
  rfl

theorem leaves_sourceUpdate
    {change : Slot → Slot}
    (same : ∀ slot, (change slot).localFile = slot.localFile) :
    Leaves sourceView (updateSlot .cleanupSql change) := by
  apply leaves_update
  intro world
  show
    ((world.setSlot .cleanupSql (change (world.slot .cleanupSql))).slot
        .cleanupSql).localFile =
      sourceView world
  rw [World.setSlot_slot_self, same]
  rfl

/-- The private SQL is there once it is copied. -/
theorem copySql_source :
    Ensures (fun _ => True) (fun _ => True) (copySql env .cleanupSql)
      (fun _ world => (sourceView world).isSome = true) fun _ _ => True := by
  have external : Leaves sourceView (external env) :=
    leaves_external fun _ => rfl
  have kept {program : Run Unit} (leaves : Leaves sourceView program) :
      Keeps (fun _ => True) (fun world => (sourceView world).isSome = true)
        program fun _ world => (sourceView world).isSome = true :=
    (leaves.ensures fun source => source.isSome = true).keeps
  refine
    ensures_bind (keeps_refuseWhen.weakenPost fun _ world _ done => ?_)
      fun _ => kept ?_
  · have absent : (world.slot .cleanupSql).localFile.isNone = false := done.2
    show (world.slot .cleanupSql).localFile.isSome = true
    rw [← Option.not_isNone, absent]
    rfl
  refine Leaves.bind ?_ fun _ => Leaves.bind ?_ fun _ => ?_
  · refine leaves_refuseWhen.bind fun _ => ?_
    refine leaves_refuseWhen.bind fun _ => ?_
    refine leaves_observe.bind fun payload => ?_
    refine external.bind fun _ => ?_
    refine Leaves.bind ?_ fun _ => ?_
    · refine external.bind fun _ => ?_
      refine leaves_refuseWhen.bind fun _ => ?_
      exact external.bind fun _ => leaves_refuseWhen
    · refine leaves_refuseWhen.bind fun _ => ?_
      refine Leaves.bind (leaves_sourceStep fun _ _ => rfl) fun _ => ?_
      exact external.bind fun _ => leaves_sourceUpdate fun _ => rfl
  · apply leaves_sourceStep
    intro extent slot
    cases slot.localFile.bind fun bytes => copied bytes extent with
    | none => rfl
    | some bytes => rfl
  · refine external.bind fun _ => external.bind fun _ => ?_
    exact leaves_refuseWhen.bind fun _ => leaves_sourceUpdate fun _ => rfl

/-- What the SQL of the drop leaves alone. -/
def contextView (world : World) :
    List String × Bool × Bool × Option (List UInt8) :=
  (world.workers, world.startedSource, world.provisionAttempted,
    sourceView world)

theorem leaves_psql : Leaves contextView (psql env .cleanupSql) := by
  refine leaves_refuseWhen.bind fun _ => ?_
  refine Leaves.bind (leaves_update fun _ => rfl) fun _ => ?_
  apply leaves_statusStep fun _ => rfl
  intro extent world
  split_ifs <;> rfl

/-- A step, with what is known where it raises. -/
theorem step_ensures
    {invariant pre post : World → Prop} {fails : Failure → World → Prop}
    {effect : Extent → World → World}
    (kept :
      ∀ world extent, invariant world → pre world →
        invariant (effect extent world).tick)
    (done :
      ∀ world, invariant world → pre world →
        post (effect .whole world).tick)
    (failed :
      ∀ world extent failure, invariant world → pre world →
        (env.answer world.clock).fate = .raises extent failure →
        fails failure (effect extent world).tick) :
    Ensures invariant pre (step env effect) (fun _ => post) fails :=
  ensures_perform kept done failed

/-- The `psql` call of the drop is undone, or it has lost its reply. -/
theorem psql_accounted :
    Ensures (fun _ => True) (fun world => Accounted env (reply world))
      (psql env .cleanupSql) (fun _ _ => True)
      fun _ world => Accounted env (reply world) := by
  refine
    ensures_bind
      (leaves_refuseWhen.ensures (Accounted env))
      fun _ => ?_
  refine
    ensures_through
      (fun _ world =>
        Accounted env (reply world) ∧
          (Purpose.cleanupSql, world.clock) ∈ world.sqlIssued)
      (ensures_update (fun _ _ _ => trivial) ?_) fun _ => ?_
  · intro world _ known
    refine ⟨known.imp_right ?_, List.mem_cons_self⟩
    rintro ⟨step, failure, issued, lost⟩
    exact ⟨step, failure, List.mem_cons_of_mem _ issued, lost⟩
  · refine
      step_ensures (fun _ _ _ _ => trivial) (fun _ _ _ => trivial) ?_
    rintro world extent failure _ ⟨known, issued⟩ raised
    by_cases whole : extent = .whole
    · subst whole
      exact .inr ⟨world.clock, failure, issued, raised⟩
    · simp only [if_neg whole]
      exact known

/-- After its acknowledgement the drop stays acknowledged. -/
theorem acknowledge_decided :
    Ensures (fun _ => True) (fun _ => True)
      (do
        updateStatus (acknowledge .cleanupSql)
        removeOwnedContainerFile env .cleanupSql)
      (fun _ world => world.dropAcknowledged = true)
      fun _ world => world.dropAcknowledged = true := by
  have leaves : Leaves reply (removeOwnedContainerFile env .cleanupSql) :=
    outside_reply.removeOwnedContainerFile .cleanupSql
  refine
    ensures_through (fun _ world => world.dropAcknowledged = true)
      (ensures_update (fun _ _ _ => trivial) fun _ _ _ => rfl) fun _ => ?_
  exact leaves.ensures fun known => known.dropAcknowledged = true

/-- `_run_sql_file` of the drop, whatever is known before. -/
theorem runSqlFile_accounted :
    Ensures (fun _ => True) (fun world => Accounted env (reply world))
      (runSqlFile env .cleanupSql)
      (fun _ world => world.dropAcknowledged = true)
      fun _ world => Accounted env (reply world) := by
  have external : Leaves reply (external env) :=
    leaves_external fun _ => rfl
  refine
    ensures_bind
      ((outside_reply.copySql .cleanupSql).ensures (Accounted env))
      fun _ => ?_
  refine ensures_bind (external.ensures (Accounted env)) fun _ => ?_
  refine ensures_bind psql_accounted fun _ => ?_
  exact acknowledge_decided.weakenFails fun _ _ _ done => .inl (.inr done)

/-- The cleanup could attempt the drop, and no worker is left. -/
def Prepared
    (known : List String × Bool × Bool × Option (List UInt8)) : Prop :=
  known.1 = [] ∧ known.2.1 = true ∧ known.2.2.1 = true ∧
    known.2.2.2.isSome = true

theorem known_of_accounted {world : World}
    (prepared : Prepared (contextView world))
    (accounted : Accounted env (reply world)) : Known env world :=
  accounted.imp_right fun lost =>
    ⟨⟨lost, prepared.2.1, prepared.2.2.1, prepared.2.2.2⟩, prepared.1⟩

/-- `_run_sql_file` of the drop, the first time that it is attempted. -/
theorem runSqlFile_known :
    Ensures (fun _ => True) (fun world => Ready world ∧ world.workers = [])
      (runSqlFile env .cleanupSql)
      (fun _ world => world.dropAcknowledged = true)
      fun _ => Known env := by
  have copied :
      Ensures (fun _ => True)
        (fun world => Ready world ∧ world.workers = [])
        (copySql env .cleanupSql)
        (fun _ world =>
          Prepared (contextView world) ∧ Accounted env (reply world))
        fun _ => Known env := by
    have leaves : Leaves fieldView (copySql env .cleanupSql) :=
      outside_fieldView.copySql .cleanupSql
    have frame :=
      leaves.ensures fun seen =>
        (seen.1 = false ∧ seen.2.2.1 = true ∧ seen.2.2.2 = true) ∧
          seen.2.1 = []
    refine
      ((frame.and copySql_source).mono ?_ ?_).weakenFails ?_
    · exact fun _ _ ready => ⟨ready, trivial⟩
    · rintro _ world _ ⟨⟨⟨early, started, attempted⟩, none_left⟩, source⟩
      exact
        ⟨⟨none_left, started, attempted, source⟩, .inl (.inl early)⟩
    · exact fun _ _ _ failed => .inl (.inl failed.1.1.1)
  have external :
      Leaves (fun world => (contextView world, reply world))
        (external env) :=
    leaves_external fun _ => rfl
  have context : Leaves contextView (psql env .cleanupSql) := leaves_psql
  refine ensures_bind copied fun _ => ?_
  refine
    ensures_bind
      ((external.ensures fun seen =>
        Prepared seen.1 ∧ Accounted env seen.2).weakenFails
        fun _ _ _ failed => known_of_accounted failed.1 failed.2)
      fun _ => ?_
  refine
    ensures_bind
      (((context.ensures Prepared).and psql_accounted).weakenFails
        fun _ _ _ failed => known_of_accounted failed.1 failed.2)
      fun _ => ?_
  exact
    (acknowledge_decided.weakenPre fun _ _ _ => trivial).weakenFails
      fun _ _ _ done => .inl (.inr done)

/-! ## The end of the run -/

theorem known_of_ready {world : World} (ready : Ready world) :
    Known env world :=
  .inl (.inl ready.1)

theorem transition_known :
    Ensures (fun _ => True) (fun world => Ready world ∧ world.workers = [])
      (transition env) (fun _ world => world.dropAcknowledged = true)
      fun _ => Known env := by
  have stays {Value : Type} {program : Run Value}
      (leaves : Leaves fieldView program) :
      Ensures (fun _ => True)
        (fun world => Ready world ∧ world.workers = []) program
        (fun _ world => Ready world ∧ world.workers = [])
        fun _ => Known env :=
    (leaves.ensures fun seen =>
      (seen.1 = false ∧ seen.2.2.1 = true ∧ seen.2.2.2 = true) ∧
        seen.2.1 = []).weakenFails
      fun _ _ _ known => known_of_ready known.1
  have external : Leaves fieldView (external env) :=
    leaves_external outside_fieldView.tick
  have decided {program : Run Unit} (leaves : Leaves reply program) :
      Ensures (fun _ => True) (fun world => world.dropAcknowledged = true)
        program (fun _ world => world.dropAcknowledged = true)
        fun _ => Known env :=
    (leaves.ensures fun known => known.dropAcknowledged = true).weakenFails
      fun _ _ _ done => .inl (.inr done)
  refine ensures_bind (stays (leaves_updateStatus fun _ => rfl)) fun _ => ?_
  refine ensures_bind (stays (leaves_updateStatus fun _ => rfl)) fun _ => ?_
  refine ensures_bind (stays leaves_observe) fun result => ?_
  refine ensures_bind (worker_ready "apply" result) fun _ => ?_
  refine ensures_bind (stays leaves_observe) fun file => ?_
  refine ensures_bind (stays leaves_lift) fun receipt => ?_
  refine ensures_bind (stays leaves_refuseWhen) fun _ => ?_
  refine ensures_bind (stays (leaves_updateStatus fun _ => rfl)) fun _ => ?_
  refine ensures_bind (worker_ready "verify" .rolledBack) fun _ => ?_
  refine ensures_bind (stays external) fun _ => ?_
  refine ensures_bind runSqlFile_known fun _ => ?_
  refine
    ensures_bind (decided (outside_reply.unlinkSql .cleanupSql)) fun _ => ?_
  exact decided (leaves_external fun _ => rfl)

theorem leaves_backupAndRestore : Leaves reply (backupAndRestore env) := by
  have outer {Value : Type} {program : Run Value}
      (leaves : Leaves outerView program) : Leaves reply program :=
    leaves.map fun seen => seen.1.toReply
  have external : Leaves reply (external env) :=
    leaves_external fun _ => rfl
  refine Leaves.bind (leaves_updateStatus fun _ => rfl) fun _ => ?_
  refine leaves_refuseWhen.bind fun _ => ?_
  refine outside_reply.takeBackup.bind fun _ => ?_
  refine (outer (leaves_createOwned _)).bind fun _ => ?_
  refine external.bind fun _ => ?_
  refine
    ((leaves_worker _ _).map fun seen => seen.toReply).bind fun _ => ?_
  exact external.bind fun _ => outer (leaves_removeOwned _)

/-- What is known of the drop wherever the run ends. -/
theorem run_known :
    Ensures (fun _ => True) Early
      (do
        external env
        run env)
      (fun _ => Known env) fun _ => Known env := by
  have early : ∀ world, Early world → Known env world :=
    fun _ known => .inl (.inl known.1)
  have external : Leaves fieldView (external env) :=
    leaves_external outside_fieldView.tick
  have decided : ∀ world : World, world.dropAcknowledged = true →
      Known env world :=
    fun _ done => .inl (.inr done)
  refine
    ensures_bind
      ((external.ensures fun seen =>
        seen.1 = false ∧ seen.2.1 = []).weakenFails
        fun _ world _ known => early world known)
      fun _ => ?_
  refine
    ensures_bind
      (prepare_stays.weakenFails fun _ world _ known => early world known)
      fun _ => ?_
  refine
    ensures_bind
      (startAndProvision_ready.weakenFails
        fun _ world _ known => early world known)
      fun _ => ?_
  refine ensures_bind transition_known fun _ => ?_
  exact
    ((leaves_backupAndRestore.ensures fun known =>
      known.dropAcknowledged = true).weakenFails
        fun _ world _ done => decided world done).weakenPost
      fun _ world _ done => decided world done

/-! ## The cleanup -/

theorem uncertain_told {failure : Failure} {post : Unit → World → Prop} :
    Ensures (fun _ => True) (fun world => Accounted env (reply world))
      (uncertain failure) post fun _ => Told env := by
  refine
    ensures_through
      (fun _ world =>
        Accounted env (reply world) ∧ world.cleanupUncertain = true)
      (ensures_update (fun _ _ _ => trivial) fun _ _ known => ⟨known, rfl⟩)
      fun _ => ?_
  refine ensures_raise fun world _ ready => ?_
  exact ready.1.imp_right fun lost => ⟨lost, ready.2⟩

theorem inspectRunning_due :
    Ensures (fun _ => True) (fun world => Due env (dropView world))
      (inspectRunning env) (fun _ world => Due env (dropView world))
      fun _ world => Accounted env (reply world) := by
  have external : Leaves dropView (external env) :=
    leaves_external fun _ => rfl
  have stays {Value : Type} {program : Run Value}
      (leaves : Leaves dropView program) :
      Ensures (fun _ => True) (fun world => Due env (dropView world))
        program (fun _ world => Due env (dropView world))
        fun _ world => Accounted env (reply world) :=
    (leaves.ensures (Due env)).weakenFails
      fun _ _ _ (due : Due env _) => due.accounted
  refine ensures_bind (stays leaves_observe) fun exited => ?_
  refine ensures_bind (stays external) fun _ => ?_
  refine ensures_ite (fun _ => ?_) fun _ => ensures_pure fun _ _ due => due
  refine
    ensures_through (fun _ world => Accounted env (reply world))
      (ensures_update (fun _ _ _ => trivial) fun _ _ due => due.accounted)
      fun _ => ?_
  exact ensures_raise fun _ _ known => known

/-- The second attempt is acknowledged, or it fails. -/
theorem dropRole_decided :
    Ensures (fun _ => True) (fun world => Due env (dropView world))
      (dropRole env) (fun _ world => Decided (reply world))
      fun _ world => Accounted env (reply world) := by
  have external : Leaves dropView (external env) :=
    leaves_external fun _ => rfl
  refine
    ensures_bind
      ((external.ensures (Due env)).weakenFails
        fun _ _ _ (due : Due env _) => due.accounted)
      fun _ => ?_
  refine ensures_bind ensures_observe fun attempts => ?_
  refine ensures_ite (fun _ => ?_) fun refused => ?_
  · refine
      ensures_bind
        (runSqlFile_accounted.weakenPre
          fun _ _ ready => ready.1.accounted)
        fun _ => ?_
    have leaves : Leaves reply (unlinkSql env .cleanupSql) :=
      outside_reply.unlinkSql .cleanupSql
    exact
      ((leaves.ensures fun known =>
        known.dropAcknowledged = true).weakenPost
          fun _ _ _ done => .inr done).weakenFails
        fun _ _ _ done => .inl (.inr done)
  · refine ensures_pure fun world _ ready => ?_
    rcases ready with ⟨decided | ⟨outstanding, verified⟩, seen⟩
    · exact decided
    · right
      have attempted : world.provisionAttempted = true :=
        outstanding.attempted
      have source : (world.slot .cleanupSql).localFile.isSome = true :=
        outstanding.source
      have removed : world.workerCleanupVerified = true := verified
      rw [attempted, source, removed] at seen
      have acknowledged : attempts = !world.dropAcknowledged := by
        simpa using seen
      rw [acknowledged, Bool.not_eq_true, Bool.not_eq_false'] at refused
      exact refused

/-- What is known after the second attempt, with the error that it left. -/
def Tried (env : Environment) (error : Option Failure) (known : Reply) :
    Prop :=
  Accounted env known ∧ (error = none → Decided known)

theorem leaves_stopPrimary : Leaves reply (stopPrimary env) := by
  have external : Leaves reply (external env) :=
    leaves_external fun _ => rfl
  refine external.bind fun _ => ?_
  refine Leaves.bind (leaves_updateStatus fun _ => rfl) fun _ => ?_
  refine Leaves.bind ?_ fun _ => ?_
  · exact external.bind fun _ => leaves_updateStatus fun _ => rfl
  · refine (outside_reply.unlinkSql .provisionSql).bind fun _ => ?_
    exact (outside_reply.unlinkSql .cleanupSql).bind fun _ => external

theorem cleanupPrimary_told :
    Ensures (fun _ => True) (fun world => Due env (dropView world))
      (cleanupPrimary env) (fun _ => Told env) fun _ => Told env := by
  refine ensures_bind ensures_observe fun started => ?_
  refine ensures_ite (fun _ => ?_) fun stopped => ?_
  · refine
      ensures_through (fun _ world => Due env (dropView world))
        (ensures_attempt
          (inspectRunning_due.weakenPre fun _ _ ready => ready.1)
          fun _ => uncertain_told)
        fun _ => ?_
    refine
      ensures_through
        (fun first world => Tried env first (reply world))
        ((ensures_caught dropRole_decided).weakenPost ?_)
        fun first => ?_
    · intro first world _ known
      cases first with
      | none => exact ⟨.inl known, fun _ => known⟩
      | some failure => exact ⟨known, fun impossible => by cases impossible⟩
    refine
      ensures_through
        (fun _ world => Tried env first (reply world))
        (ensures_observe.weakenPost fun _ _ _ done => done.1)
        fun pending => ?_
    refine
      ensures_through
        (fun _ world => Tried env first (reply world))
        (((ensures_caughtEach fun purpose _ =>
            (outside_reply.removeOwnedContainerFile purpose).keeps
              (Tried env first)).within fun _ _ => trivial).weakenPost
          fun _ _ _ done => done.1)
        fun second => ?_
    refine
      ensures_through
        (fun _ world => Tried env first (reply world))
        ((ensures_caught
            (leaves_stopPrimary.ensures (Tried env first))).weakenPost ?_)
        fun third => ?_
    · intro third world _ known
      cases third with
      | none => exact known
      | some failure => exact known
    · cases combined : first <|> second <|> third with
      | some failure => exact uncertain_told.weakenPre fun _ _ known => known.1
      | none =>
          rw [Option.orElse_eq_none] at combined
          exact ensures_pure fun _ _ known => .inl (known.2 combined.1)
  · refine ensures_pure fun world _ ready => ?_
    rcases ready with ⟨decided | ⟨outstanding, _⟩, seen⟩
    · exact .inl decided
    · exact absurd (seen.trans outstanding.started) stopped

/-- The fields that the receipt and the drop have in common. -/
def toldView (world : World) : Reply × Bool :=
  (reply world, world.cleanupUncertain)

theorem stays_told {Value : Type} {program : Run Value}
    (leaves : Leaves toldView program) :
    Ensures (fun _ => True) (Told env) program (fun _ => Told env)
      fun _ => Told env :=
  leaves.ensures fun seen =>
    Decided seen.1 ∨ ReplyLost env seen.1.sqlIssued ∧ seen.2 = true

theorem judgeCleanup_told
    {success removed : Bool} {error : Option Failure} :
    Ensures (fun _ => True) (Told env)
      (judgeCleanup env success removed error) (fun _ => Told env)
      fun _ => Told env := by
  have external : Leaves toldView (external env) :=
    leaves_external fun _ => rfl
  refine ensures_bind (stays_told ?_) fun evidenceError => ?_
  · refine Leaves.caught (external.bind fun _ => ?_)
    refine leaves_observe.bind fun directory => ?_
    refine leaves_lift.bind fun evidence => ?_
    refine Leaves.bind (leaves_updateStatus fun _ => rfl) fun _ => ?_
    exact leaves_refuseWhen
  refine
    ensures_through (fun _ => Told env)
      (ensures_update (fun _ _ _ => trivial) ?_) fun _ => ?_
  · intro world _ told
    refine told.imp_right fun lost => ⟨lost.1, ?_⟩
    show (world.cleanupUncertain || evidenceError.isSome) = true
    rw [lost.2, Bool.true_or]
  refine ensures_bind (stays_told leaves_observe) fun verified => ?_
  refine ensures_bind (stays_told ?_) fun listingError => ?_
  · exact Leaves.caught (external.bind fun _ => leaves_refuseWhen)
  refine ensures_bind (stays_told leaves_refuseWhen) fun _ => ?_
  exact stays_told leaves_observe

/-- What is known of the drop when the receipt is composed. -/
theorem settle_told {success : Bool} {error : Option Failure} :
    Ensures (fun _ => True) (Known env) (settle env success error)
      (fun _ => Told env) fun _ => Told env := by
  refine ensures_bind ensures_observe fun workers => ?_
  refine
    ensures_through
      (fun workerError world =>
        Decided (reply world) ∨
          Outstanding env (dropView world) ∧ workerError = none)
      ?_ fun workerError => ?_
  · by_cases none_left : workers = []
    · subst none_left
      refine ensures_pure fun world _ ready => ?_
      exact ready.1.imp_right fun outstanding => ⟨outstanding.1, rfl⟩
    · refine
        ((((ensures_caughtEach fun name _ =>
          ((leaves_removeWorker name).map fun seen => seen.toReply).keeps
            Decided).within fun _ _ => trivial).weakenPost
              fun _ _ _ done => .inl done.1)).weakenPre ?_
      rintro world _ ⟨decided | ⟨_, empty⟩, listed⟩
      · exact decided
      · exact absurd (listed.trans empty) none_left
  refine
    ensures_through (fun _ world => Due env (dropView world))
      (ensures_update (fun _ _ _ => trivial) ?_) fun _ => ?_
  · intro world _ known
    refine known.imp_right ?_
    rintro ⟨outstanding, rfl⟩
    exact
      ⟨⟨outstanding.lost, outstanding.started, outstanding.attempted,
        outstanding.source⟩, rfl⟩
  refine
    ensures_through (fun _ world => Due env (dropView world))
      (ensures_observe.weakenPost fun _ _ _ done => done.1) fun owned => ?_
  refine
    ensures_through (fun _ world => Due env (dropView world))
      (((ensures_caughtEach fun name _ =>
          ((leaves_removeOwned name).map Prod.fst).keeps
            (Due env)).within fun _ _ => trivial).weakenPost
        fun _ _ _ done => done.1)
      fun ownedError => ?_
  refine
    ensures_through (fun _ => Told env)
      ((ensures_caught cleanupPrimary_told).weakenPost ?_)
      fun cleanupError => judgeCleanup_told
  intro cleanupError world _ told
  cases cleanupError with
  | none => exact told
  | some failure => exact told

end KairosDeploy.Primary.LostDrop
