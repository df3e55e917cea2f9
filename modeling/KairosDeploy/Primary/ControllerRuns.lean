import KairosDeploy.Primary.TemporaryFiles

/-!
# Whole runs of the primary controller

The functions of `PrimaryController` in the order in which `main` calls them.
What the controller knows of the database and of the primary is kept in an
invariant on a few fields of its status; everything else is bookkeeping.
-/

namespace KairosDeploy.Primary.ControllerRuns

open KairosDeploy.Library.JsonValue
open KairosDeploy.Library.FaultyProgram
open KairosDeploy.Library.FaultyProgram.Program
open KairosDeploy.Primary.RemoteArtifacts
open KairosDeploy.Primary.Controller
open KairosDeploy.Primary.TemporaryFiles

variable {env : Environment}

/-! ## The fields that matter -/

/-- The part of the status that the labels of a receipt speak of. -/
structure Core where
  marker : Option FileState
  nativeApply : Option FileState
  receipt : Option Receipt
  role : Bool
  roleDropped : Bool
  committed : Bool
  startIssued : Bool
  seenStopped : Bool
  startedSource : Bool
  provisionAttempted : Bool
  primaryApplyInvoked : Bool
  provisionAcknowledged : Bool
  dropAcknowledged : Bool
  cleanupUncertain : Bool

/-- That part of a status. -/
def core (status : Status) : Core where
  marker := status.marker
  nativeApply := status.nativeApply
  receipt := status.receipt
  role := status.role
  roleDropped := status.roleDropped
  committed := status.committed
  startIssued := status.startIssued
  seenStopped := status.seenStopped
  startedSource := status.startedSource
  provisionAttempted := status.provisionAttempted
  primaryApplyInvoked := status.primaryApplyInvoked
  provisionAcknowledged := status.provisionAcknowledged
  dropAcknowledged := status.dropAcknowledged
  cleanupUncertain := status.cleanupUncertain

/-- `started-primary.json` is there. -/
def Core.Marked (known : Core) : Prop :=
  known.marker.any FileState.exists = true

/-- What holds of every state of a run before its receipt is saved. -/
structure Consistent (known : Core) : Prop where
  unattempted : known.provisionAttempted = false → known.role = false
  created :
    known.provisionAcknowledged = true →
      known.role = true ∨ known.roleDropped = true
  dropped : known.dropAcknowledged = true → known.role = false
  applied : known.nativeApply.isSome = true → known.committed = true
  unapplied : known.primaryApplyInvoked = false → known.committed = false
  marked : known.startedSource = true → known.Marked
  noReceipt : known.receipt = none

/-- What holds besides until the cleanup begins. -/
structure Running (known : Core) : Prop extends Consistent known where
  supervised : known.startIssued = true → known.startedSource = true

/-- The invariant on files and status together. -/
def Holds (env : Environment) (condition : Core → Prop) (world : World) :
    Prop :=
  Within env (fun status => condition (core status)) world

/-- Within one condition, a program goes from a second to a third. -/
def Moves (env : Environment) (condition before : Core → Prop)
    (program : Run Unit) (after : Core → Prop) : Prop :=
  Keeps (Holds env condition) (Holds env before) program
    fun _ => Holds env after

/-! ## Rules -/

section Rules

variable {condition before middle after : Core → Prop}
variable {program next : Run Unit}

theorem Holds.mono {world : World}
    (holds : Holds env before world)
    (implies : ∀ known, before known → after known) :
    Holds env after world :=
  ⟨holds.1, implies _ holds.2⟩

theorem Moves.andThen
    (first : Moves env condition before program middle)
    (second : Moves env condition middle next after) :
    Moves env condition before (program >>= fun _ => next) after :=
  ensures_bind first fun _ => second

/-- Two programs, by what holds between them. -/
theorem Moves.through (middle : Core → Prop)
    (first : Moves env condition before program middle)
    (second : Moves env condition middle next after) :
    Moves env condition before (program >>= fun _ => next) after :=
  first.andThen second

theorem Moves.weakenPost
    (moves : Moves env condition before program middle)
    (implies : ∀ known, middle known → after known) :
    Moves env condition before program after :=
  Ensures.weakenPost moves fun _ _ _ holds => holds.mono implies

/-- A condition that was tested is known afterwards. -/
theorem moves_refuseStatus
    {refused : Core → Bool} {failure : Failure} :
    Moves env condition before
      (refuseStatus (fun status => refused (core status)) failure)
      fun known => before known ∧ refused known = false :=
  keeps_refuseWhen.weakenPost fun _ _ _ done =>
    ⟨done.1.1, done.1.2, done.2⟩

/-- What a program keeps as its own invariant, it keeps within a weaker one. -/
theorem moves_of_keeps
    {pre : World → Prop} {post : Unit → World → Prop}
    (keeps : Keeps (Holds env before) pre program post)
    (ready : ∀ world, pre world)
    (implies : ∀ known, before known → condition known) :
    Moves env condition before program before :=
  (keeps.strengthen fun _ holds => holds.mono implies).keeps.mono
    (fun world _ holds => ⟨holds, ready world⟩) fun _ _ _ done => done.1

theorem moves_external
    (implies : ∀ known, before known → condition known) :
    Moves env condition before (external env) before :=
  step_keeps
    (fun _ _ _ holds => ⟨holds.1.tick, implies _ holds.2⟩)
    fun _ _ holds => ⟨holds.1.tick, holds.2⟩

theorem moves_refuse {refused : World → Bool} {failure : Failure} :
    Moves env condition before (refuseWhen refused failure) before :=
  keeps_refuseWhen.weakenPost fun _ _ _ done => done.1

theorem moves_updateStatus {change : Status → Status}
    (done : ∀ status, before (core status) → after (core (change status)))
    (marker :
      ∀ status, MarkerSaved status → MarkerSaved (change status))
    (implies : ∀ known, after known → condition known) :
    Moves env condition before (updateStatus change) after :=
  ensures_update
    (fun _ _ holds =>
      ⟨holds.1.setStatus (marker _), implies _ (done _ holds.2)⟩)
    fun _ _ holds => ⟨holds.1.setStatus (marker _), done _ holds.2⟩

theorem moves_statusStep {effect : Extent → Status → Status}
    (kept :
      ∀ status extent, before (core status) →
        condition (core (effect extent status)))
    (done :
      ∀ status, before (core status) → after (core (effect .whole status)))
    (marker :
      ∀ status extent, before (core status) → MarkerSaved status →
        MarkerSaved (effect extent status)) :
    Moves env condition before (statusStep env effect) after :=
  step_keeps
    (fun _ extent _ holds =>
      ⟨(holds.1.setStatus (marker _ extent holds.2)).tick,
        kept _ extent holds.2⟩)
    fun _ _ holds =>
      ⟨(holds.1.setStatus (marker _ .whole holds.2)).tick, done _ holds.2⟩

/-- A change of a field that the labels do not speak of. -/
theorem moves_bookkeeping {change : Status → Status}
    (implies : ∀ known, before known → condition known)
    (same : ∀ status, core (change status) = core status := by
      intro _; rfl) :
    Moves env condition before (updateStatus change) before := by
  refine moves_updateStatus (fun status holds => ?_) (fun status saved => ?_)
    implies
  · rw [same]
    exact holds
  · show (core (change status)).Marked
    rw [same]
    exact saved

/-- A step on such a field. -/
theorem moves_bookkeepingStep {effect : Extent → Status → Status}
    (same : ∀ extent status, core (effect extent status) = core status)
    (implies : ∀ known, before known → condition known) :
    Moves env condition before (statusStep env effect) before := by
  refine
    moves_statusStep (fun status extent holds => ?_)
      (fun status holds => ?_) fun status extent _ saved => ?_
  · rw [same]
    exact implies _ holds
  · rw [same]
    exact holds
  · show (core (effect extent status)).Marked
    rw [same]
    exact saved

/-- An observation whose value the program needs but the condition does not. -/
theorem moves_observe
    {Value : Type} {view : World → Value} {rest : Value → Run Unit}
    (each : ∀ value, Moves env condition before (rest value) after) :
    Moves env condition before (observe view >>= rest) after :=
  ensures_bind ensures_observe fun value =>
    Ensures.weakenPre (each value) fun _ _ done => done.1

/-- The private SQL of a run is written and deleted at any time. -/
theorem moves_source {purpose : Purpose} {effect : Extent → Slot → Slot}
    (kept :
      ∀ slot extent, Kept env purpose slot →
        Kept env purpose (effect extent slot))
    (create :
      ∀ slot extent, (effect extent slot).create = slot.create)
    (implies : ∀ known, before known → condition known) :
    Moves env condition before (slotStep env purpose effect) before := by
  have files :
      ∀ world extent, Files env world →
        Files env
          (world.setSlot purpose (effect extent (world.slot purpose))) := by
    intro world extent files
    refine ⟨fun other => ?_, files.issued, fun other created => ?_⟩
    · by_cases same : other = purpose
      · subst same
        rw [World.setSlot_slot_self]
        exact kept _ extent (files.slots other)
      · rw [World.setSlot_slot_other same]
        exact files.slots other
    · by_cases same : other = purpose
      · subst same
        rw [World.setSlot_slot_self, create] at created
        exact files.afterMarker other created
      · rw [World.setSlot_slot_other same] at created
        exact files.afterMarker other created
  exact
    step_keeps
      (fun world extent _ holds =>
        ⟨(files world extent holds.1).tick, implies _ holds.2⟩)
      fun world _ holds => ⟨(files world .whole holds.1).tick, holds.2⟩

theorem writeSql_moves (purpose : Purpose)
    (implies : ∀ known, before known → condition known) :
    Moves env condition before (writeSql env purpose) before := by
  refine moves_refuse.andThen (moves_source ?_ (fun _ _ => rfl) implies)
  intro slot extent kept
  exact kept.setLocalFile fun bytes member _ => prefix_of_copied member

theorem unlinkSql_moves (purpose : Purpose)
    (implies : ∀ known, before known → condition known) :
    Moves env condition before (unlinkSql env purpose) before := by
  refine moves_source (fun slot extent kept => ?_) (fun slot extent => ?_)
    implies
  · split_ifs with whole
    · exact kept.setLocalFile fun bytes impossible => nomatch impossible
    · exact kept
  · split_ifs with whole <;> rfl

/-! ## Files, containers and workers -/

theorem copySql_moves {purpose : Purpose}
    (marked : ∀ known, before known → known.Marked)
    (implies : ∀ known, before known → condition known) :
    Moves env condition before (copySql env purpose) before :=
  moves_of_keeps (copySql_keeps fun _ holds => marked _ holds)
    (fun _ => trivial) implies

theorem removeOwnedContainerFile_moves {purpose : Purpose}
    (marked : ∀ known, before known → known.Marked)
    (implies : ∀ known, before known → condition known) :
    Moves env condition before (removeOwnedContainerFile env purpose)
      before :=
  moves_of_keeps
    (removeOwnedContainerFile_keeps fun _ holds => marked _ holds)
    (fun _ => trivial) implies

theorem moves_issue {purpose : Purpose} :
    Moves env condition before
      (update fun world =>
        { world with
          sqlIssued := (purpose, world.clock) :: world.sqlIssued })
      before := by
  refine ensures_update (fun world holds _ => ?_) fun world _ holds => ?_
  · exact ⟨holds.1.setSqlIssued _, holds.2⟩
  · exact ⟨holds.1.setSqlIssued _, holds.2⟩

theorem runSqlFile_moves {purpose : Purpose} (middle : Core → Prop)
    (sql :
      ∀ status, before (core status) →
        middle (core (sqlEffect purpose status)))
    (acknowledged :
      ∀ status, middle (core status) →
        after (core (acknowledge purpose status)))
    (markedBefore : ∀ known, before known → known.Marked)
    (markedAfter : ∀ known, after known → known.Marked)
    (beforeImplies : ∀ known, before known → condition known)
    (middleImplies : ∀ known, middle known → condition known)
    (afterImplies : ∀ known, after known → condition known) :
    Moves env condition before (runSqlFile env purpose) after := by
  refine (copySql_moves markedBefore beforeImplies).andThen ?_
  refine (moves_external beforeImplies).andThen ?_
  refine
    Moves.through middle
      (moves_refuse.andThen
        (moves_issue.andThen (moves_statusStep ?_ ?_ ?_)))
      ?_
  · intro status extent holds
    split_ifs with whole
    · exact middleImplies _ (sql status holds)
    · exact beforeImplies _ holds
  · exact sql
  · intro status extent _ saved
    split_ifs with whole
    · cases purpose <;> exact saved
    · exact saved
  · refine
      Moves.andThen
        (moves_updateStatus acknowledged (fun status saved => ?_)
          afterImplies)
        (removeOwnedContainerFile_moves markedAfter afterImplies)
    cases purpose <;> exact saved

theorem dockerCreate_moves {name : String}
    (implies : ∀ known, before known → condition known) :
    Moves env condition before (dockerCreate env name) before :=
  moves_bookkeepingStep (fun _ _ => by split_ifs <;> rfl) implies

theorem dockerRemove_moves {name : String}
    (implies : ∀ known, before known → condition known) :
    Moves env condition before (dockerRemove env name) before :=
  moves_bookkeepingStep (fun _ _ => by split_ifs <;> rfl) implies

theorem createOwned_moves {name : String}
    (implies : ∀ known, before known → condition known) :
    Moves env condition before (createOwned env name) before := by
  refine moves_refuse.andThen ?_
  refine (moves_bookkeeping implies).andThen ?_
  exact (dockerCreate_moves implies).andThen (moves_external implies)

theorem removeOwned_moves {name : String}
    (implies : ∀ known, before known → condition known) :
    Moves env condition before (removeOwned env name) before := by
  refine (moves_external implies).andThen (moves_observe fun listed => ?_)
  refine ensures_ite (fun _ => ?_) fun _ => ?_
  · refine (moves_external implies).andThen ?_
    exact
      (dockerRemove_moves implies).andThen
        (moves_bookkeeping implies)
  · exact moves_bookkeeping implies

theorem collectApply_moves {result : ApplyResult}
    (collect :
      ∀ status file extent, result.receipt = some file →
        before (core status) →
          before (core { status with nativeApply := written file extent }))
    (implies : ∀ known, before known → condition known) :
    Moves env condition before (collectApply env result) before := by
  unfold collectApply
  cases found : result.receipt with
  | none => exact ensures_pure fun _ _ holds => holds
  | some file =>
      refine moves_refuse.andThen (moves_statusStep ?_ ?_ ?_)
      · intro status extent holds
        exact implies _ (collect status file extent found holds)
      · intro status holds
        exact collect status file .whole found holds
      · exact fun _ _ _ saved => saved

theorem worker_moves {mode : String} {result : ApplyResult}
    (start :
      ∀ status, before (core status) →
        after
          (core
            { status with
              committed := status.committed || result.isCommitted }))
    (collect :
      ∀ status file extent, result.receipt = some file →
        after (core status) →
          after (core { status with nativeApply := written file extent }))
    (beforeImplies : ∀ known, before known → condition known)
    (afterImplies : ∀ known, after known → condition known) :
    Moves env condition before (worker env mode result) after := by
  refine (moves_external beforeImplies).andThen ?_
  refine moves_refuse.andThen ?_
  refine (moves_bookkeeping beforeImplies).andThen ?_
  refine (dockerCreate_moves beforeImplies).andThen ?_
  refine (moves_external beforeImplies).andThen ?_
  refine
    Moves.through after (moves_statusStep ?_ ?_ ?_) ?_
  · intro status extent holds
    split_ifs with nothing
    · exact beforeImplies _ holds
    · exact afterImplies _ (start status holds)
  · exact start
  · intro status extent _ saved
    split_ifs <;> exact saved
  · refine (moves_external afterImplies).andThen ?_
    refine (collectApply_moves collect afterImplies).andThen ?_
    refine (moves_external afterImplies).andThen ?_
    exact
      (dockerRemove_moves afterImplies).andThen
        (moves_bookkeeping afterImplies)

/-- A worker that only reads. -/
theorem worker_moves_rolledBack {mode : String}
    (implies : ∀ known, before known → condition known) :
    Moves env condition before (worker env mode .rolledBack) before := by
  refine worker_moves (fun status holds => ?_) ?_ implies implies
  · show before
      (core { status with committed := status.committed || false })
    rw [Bool.or_false]
    exact holds
  · intro _ _ _ impossible
    cases impossible

end Rules

/-! ## The run, phase by phase -/

/-- Before the primary is started. -/
structure Unstarted (known : Core) : Prop extends Consistent known where
  notIssued : known.startIssued = false
  notCreated : known.provisionAcknowledged = false
  notDropped : known.dropAcknowledged = false

/-- The marker is saved, and the start is next. -/
structure ReadyToStart (known : Core) : Prop extends Unstarted known where
  saved : known.Marked

/-- The primary is started, or about to be. -/
structure Supervised (known : Core) : Prop extends Running known where
  saved : known.Marked
  started : known.startedSource = true

/-- The temporary login role is not yet created. -/
structure Provisioning (known : Core) : Prop extends Supervised known where
  notCreated : known.provisionAcknowledged = false
  notDropped : known.dropAcknowledged = false

/-- The role is being created. -/
structure Attempting (known : Core) : Prop extends Provisioning known where
  attempted : known.provisionAttempted = true

/-- The transition may have taken place. -/
structure Applying (known : Core) : Prop extends Supervised known where
  invoked : known.primaryApplyInvoked = true

theorem Unstarted.running {known : Core} (unstarted : Unstarted known) :
    Running known where
  toConsistent := unstarted.toConsistent
  supervised := by
    intro issued
    rw [unstarted.notIssued] at issued
    cases issued

theorem not_marked_of_absent {known : Core}
    (absent : known.marker.isSome = false) : ¬ known.Marked := by
  intro marked
  rw [Core.Marked, Option.isNone_iff_eq_none.1
    (Option.isSome_eq_false_iff.1 absent)] at marked
  cases marked

theorem Unstarted.setMarker {known : Core}
    (unstarted : Unstarted known) (absent : known.marker.isSome = false)
    (marker : Option FileState) :
    Unstarted { known with marker := marker } :=
  ⟨⟨unstarted.unattempted, unstarted.created, unstarted.dropped,
      unstarted.applied, unstarted.unapplied,
      fun started =>
        absurd (unstarted.marked started) (not_marked_of_absent absent),
      unstarted.noReceipt⟩,
    unstarted.notIssued, unstarted.notCreated, unstarted.notDropped⟩

theorem prepare_moves :
    Moves env Running Unstarted (prepare env) ReadyToStart := by
  have running : ∀ known, Unstarted known → Running known := fun _ =>
    Unstarted.running
  refine (moves_external running).andThen ?_
  refine (createOwned_moves running).andThen ?_
  refine (moves_external running).andThen ?_
  refine (removeOwned_moves running).andThen ?_
  refine (moves_bookkeeping running).andThen ?_
  refine (moves_external running).andThen ?_
  refine (writeSql_moves .provisionSql running).andThen ?_
  refine (writeSql_moves .cleanupSql running).andThen ?_
  refine
    Moves.through Unstarted
      ((moves_external running).andThen
        (moves_updateStatus (fun _ holds => ?_) (fun _ saved => saved)
          running))
      ?_
  · exact
      ⟨⟨holds.unattempted, holds.created, holds.dropped, holds.applied,
          holds.unapplied, holds.marked, holds.noReceipt⟩,
        holds.notIssued, holds.notCreated, holds.notDropped⟩
  · refine
      Moves.through
        (fun known => Unstarted known ∧ known.marker.isSome = false)
        moves_refuseStatus ?_
    refine
      Moves.through ReadyToStart (moves_statusStep ?_ ?_ ?_)
        (moves_external fun _ ready => ready.running)
    · rintro status extent ⟨unstarted, absent⟩
      exact (unstarted.setMarker absent _).running
    · rintro status ⟨unstarted, absent⟩
      exact ⟨unstarted.setMarker absent _, rfl⟩
    · rintro status extent ⟨_, absent⟩ saved
      exact absurd saved (not_marked_of_absent absent)

theorem ReadyToStart.provisioning {known : Core}
    (ready : ReadyToStart known) :
    Provisioning { known with startedSource := true } :=
  ⟨⟨⟨⟨ready.unattempted, ready.created, ready.dropped, ready.applied,
          ready.unapplied, fun _ => ready.saved, ready.noReceipt⟩,
        fun _ => rfl⟩,
      ready.saved, rfl⟩,
    ready.notCreated, ready.notDropped⟩

theorem Provisioning.issue {known : Core}
    (provisioning : Provisioning known) :
    Provisioning
      { known with startIssued := true, seenStopped := false } :=
  ⟨⟨⟨⟨provisioning.unattempted, provisioning.created, provisioning.dropped,
          provisioning.applied, provisioning.unapplied,
          provisioning.marked, provisioning.noReceipt⟩,
        fun _ => provisioning.started⟩,
      provisioning.saved, provisioning.started⟩,
    provisioning.notCreated, provisioning.notDropped⟩

/-- While provisioning, the role may come into being once it is attempted. -/
theorem Provisioning.attempt {known : Core}
    (provisioning : Provisioning known) (role : Bool) :
    Attempting
      { known with provisionAttempted := true, role := role } :=
  ⟨⟨⟨⟨⟨(fun impossible => nomatch impossible),
            fun created =>
              absurd created (by rw [provisioning.notCreated]; decide),
            fun dropped =>
              absurd dropped (by rw [provisioning.notDropped]; decide),
            provisioning.applied, provisioning.unapplied,
            provisioning.marked, provisioning.noReceipt⟩,
          provisioning.supervised⟩,
        provisioning.saved, provisioning.started⟩,
      provisioning.notCreated, provisioning.notDropped⟩, rfl⟩

theorem Attempting.setRole {known : Core}
    (attempting : Attempting known) (role : Bool) :
    Attempting { known with role := role } := by
  have again := attempting.toProvisioning.attempt role
  rw [← attempting.attempted] at again
  exact again

theorem Attempting.acknowledge {known : Core}
    (attempting : Attempting known) (created : known.role = true) :
    Supervised { known with provisionAcknowledged := true } :=
  ⟨⟨⟨attempting.unattempted, fun _ => .inl created, attempting.dropped,
        attempting.applied, attempting.unapplied, attempting.marked,
        attempting.noReceipt⟩,
      attempting.supervised⟩,
    attempting.saved, attempting.started⟩

theorem startAndProvision_moves :
    Moves env Running ReadyToStart (startAndProvision env) Supervised := by
  have running : ∀ known, Provisioning known → Running known :=
    fun _ provisioning => provisioning.toRunning
  have attempting : ∀ known, Attempting known → Running known :=
    fun _ attempting => attempting.toRunning
  have supervised : ∀ known, Supervised known → Running known :=
    fun _ supervised => supervised.toRunning
  refine
    Moves.andThen
      (moves_updateStatus (fun _ ready => ready.provisioning)
        (fun _ saved => saved) running)
      ?_
  refine
    Moves.andThen
      (moves_statusStep (fun _ _ holds => running _ holds.issue)
        (fun _ holds => holds.issue) fun _ _ _ saved => saved)
      ?_
  refine (moves_external running).andThen ?_
  refine
    Moves.through Attempting
      (moves_updateStatus (fun status holds => holds.attempt status.role)
        (fun _ saved => saved) attempting)
      ?_
  refine (moves_external attempting).andThen ?_
  refine
    Moves.through Supervised
      (runSqlFile_moves (fun known => Attempting known ∧ known.role = true)
        (fun _ holds => ⟨holds.setRole true, rfl⟩)
        (fun _ holds => holds.1.acknowledge holds.2)
        (fun _ holds => holds.saved) (fun _ holds => holds.saved)
        attempting (fun _ holds => attempting _ holds.1) supervised)
      ?_
  exact unlinkSql_moves .provisionSql supervised

theorem Supervised.apply {known : Core}
    (supervised : Supervised known) :
    Applying { known with primaryApplyInvoked := true } :=
  ⟨⟨⟨⟨supervised.unattempted, supervised.created, supervised.dropped,
          supervised.applied, (fun impossible => nomatch impossible),
          supervised.marked, supervised.noReceipt⟩,
        supervised.supervised⟩,
      supervised.saved, supervised.started⟩, rfl⟩

theorem Applying.commit {known : Core} (applying : Applying known)
    (committed : Bool) :
    Applying
      { known with committed := known.committed || committed } :=
  ⟨⟨⟨⟨applying.unattempted, applying.created, applying.dropped,
          fun applied => by
            show (known.committed || committed) = true
            rw [applying.applied applied, Bool.true_or],
          fun notInvoked =>
            absurd notInvoked (by rw [applying.invoked]; decide),
          applying.marked, applying.noReceipt⟩,
        applying.supervised⟩,
      applying.saved, applying.started⟩, applying.invoked⟩

theorem Applying.collect {known : Core} (applying : Applying known)
    (committed : known.committed = true) (file : Option FileState) :
    Applying { known with nativeApply := file } :=
  ⟨⟨⟨⟨applying.unattempted, applying.created, applying.dropped,
          (fun _ => committed), applying.unapplied, applying.marked,
          applying.noReceipt⟩,
        applying.supervised⟩,
      applying.saved, applying.started⟩, applying.invoked⟩

/-- Dropping the role is always consistent. -/
theorem Consistent.dropRole {known : Core} (consistent : Consistent known) :
    Consistent { known with role := false, roleDropped := true } :=
  ⟨fun _ => rfl, fun _ => .inr rfl, fun _ => rfl, consistent.applied,
    consistent.unapplied, consistent.marked, consistent.noReceipt⟩

theorem Consistent.acknowledgeDrop {known : Core}
    (consistent : Consistent known) (gone : known.role = false) :
    Consistent { known with dropAcknowledged := true } :=
  ⟨consistent.unattempted, consistent.created, fun _ => gone,
    consistent.applied, consistent.unapplied, consistent.marked,
    consistent.noReceipt⟩

theorem Applying.drop {known : Core} (applying : Applying known) :
    Applying { known with role := false, roleDropped := true } :=
  ⟨⟨⟨applying.toConsistent.dropRole, applying.supervised⟩, applying.saved,
      applying.started⟩, applying.invoked⟩

theorem Applying.acknowledgeDrop {known : Core} (applying : Applying known)
    (gone : known.role = false) :
    Applying { known with dropAcknowledged := true } :=
  ⟨⟨⟨applying.toConsistent.acknowledgeDrop gone, applying.supervised⟩,
      applying.saved, applying.started⟩, applying.invoked⟩

/-- What the apply worker reports was committed. -/
theorem ApplyResult.committed_of_receipt
    {result : ApplyResult} {file : FileState}
    (receipt : result.receipt = some file) : result.isCommitted = true := by
  cases result with
  | rolledBack => cases receipt
  | committed _ => rfl

/-- The transition, once its worker has collected what it reports. -/
def AppliedAs (result : ApplyResult) (known : Core) : Prop :=
  Applying known ∧ (result.isCommitted = true → known.committed = true)

theorem transition_moves :
    Moves env Running Supervised (transition env) Supervised := by
  have running : ∀ known, Applying known → Running known :=
    fun _ applying => applying.toRunning
  refine
    Moves.through Supervised
      (moves_bookkeeping fun _ holds => holds.toRunning) ?_
  refine
    Moves.through Applying
      (moves_updateStatus (fun _ holds => holds.apply)
        (fun _ saved => saved) running)
      ?_
  refine moves_observe fun result => ?_
  have applied :
      Moves env Running Applying (worker env "apply" result)
        (AppliedAs result) := by
    refine worker_moves ?_ ?_ running fun _ holds => running _ holds.1
    · intro status holds
      refine ⟨holds.commit result.isCommitted, fun committed => ?_⟩
      show (status.committed || result.isCommitted) = true
      rw [committed, Bool.or_true]
    · rintro status file extent receipt ⟨holds, committed⟩
      have done := committed (ApplyResult.committed_of_receipt receipt)
      exact ⟨holds.collect done _, fun _ => done⟩
  refine
    Moves.through Applying (applied.weakenPost fun _ holds => holds.1) ?_
  refine moves_observe fun file => ?_
  refine
    ensures_bind
      (keeps_lift.weakenPost fun _ _ _ done => done.1) fun receipt => ?_
  refine moves_refuse.andThen ?_
  refine Moves.andThen (moves_bookkeeping running) ?_
  refine (worker_moves_rolledBack running).andThen ?_
  refine (moves_external running).andThen ?_
  refine
    Moves.through Applying
      (runSqlFile_moves
        (fun known => Applying known ∧ known.role = false)
        (fun _ holds => ⟨holds.drop, rfl⟩)
        (fun _ holds => holds.1.acknowledgeDrop holds.2)
        (fun _ holds => holds.saved) (fun _ holds => holds.saved) running
        (fun _ holds => running _ holds.1) running)
      ?_
  refine (unlinkSql_moves .cleanupSql running).andThen ?_
  exact
    (moves_external running).weakenPost fun _ holds => holds.toSupervised

/-- The dump is written into a slot that has just been reserved. -/
theorem pgDump_keeps {status : Status → Prop}
    (marked : ∀ known, status known → MarkerSaved known) :
    Keeps (Within env status)
      (At .backupAfter fun slot =>
        ∃ payload, JustReserved env .backupAfter payload slot)
      (pgDump env) fun _ => At .backupAfter fun _ => True := by
  refine ensures_bind ensures_observe fun dump => ?_
  refine
    (slotStep_keeps marked ?_ fun _ _ _ => trivial).weakenPre
      fun _ _ ready => ready.1
  rintro slot extent kept ⟨payload, reserved⟩
  cases made : copied dump extent with
  | none => exact kept
  | some bytes =>
      exact kept.createdFile reserved fun sql => absurd rfl sql

theorem fetchDump_keeps {status : Status → Prop}
    (marked : ∀ known, status known → MarkerSaved known) :
    Keeps (Within env status) (At .backupAfter fun _ => True)
      (fetchDump env) fun _ => At .backupAfter fun _ => True := by
  refine
    ensures_through (fun _ => At .backupAfter fun _ => True)
      (slotStep_keeps marked ?_ fun _ _ _ => trivial)
      fun _ => ?_
  · intro slot extent kept _
    exact kept.setLocalFile fun _ _ sql => absurd rfl sql
  · refine ensures_bind external_keeps fun _ => ?_
    refine ensures_bind slotRefuse_keeps fun _ => ?_
    exact
      updateSlot_keeps marked (fun _ kept _ => kept.setOwned _)
        fun _ _ _ => trivial

theorem takeBackup_moves {condition before : Core → Prop}
    (marked : ∀ known, before known → known.Marked)
    (implies : ∀ known, before known → condition known) :
    Moves env condition before (takeBackup env) before := by
  have saved :
      ∀ known : Status, before (core known) → MarkerSaved known :=
    fun _ holds => marked _ holds
  have takes :
      Keeps (Holds env before) (fun _ => True) (takeBackup env)
        fun _ _ => True := by
    refine
      ensures_bind
        ((reserveRemoteFile_keeps saved).weakenPre fun _ _ _ => trivial)
        fun _ => ?_
    refine ensures_bind (pgDump_keeps saved) fun _ => ?_
    refine ensures_bind external_keeps fun _ => ?_
    refine ensures_bind slotRefuse_keeps fun _ => ?_
    exact
      (fetchDump_keeps saved).mono (fun _ _ _ => trivial)
        fun _ _ _ _ => trivial
  exact moves_of_keeps takes (fun _ => trivial) implies

theorem backupAndRestore_moves :
    Moves env Running Supervised (backupAndRestore env) Supervised := by
  have running : ∀ known, Supervised known → Running known :=
    fun _ supervised => supervised.toRunning
  refine Moves.andThen (moves_bookkeeping running) ?_
  refine moves_refuse.andThen ?_
  refine (takeBackup_moves (fun _ holds => holds.saved) running).andThen ?_
  refine (createOwned_moves running).andThen ?_
  refine (moves_external running).andThen ?_
  refine (worker_moves_rolledBack running).andThen ?_
  refine (moves_external running).andThen ?_
  exact removeOwned_moves running

theorem run_moves : Moves env Running Unstarted (run env) Supervised :=
  prepare_moves.andThen
    (startAndProvision_moves.andThen
      (transition_moves.andThen backupAndRestore_moves))

end KairosDeploy.Primary.ControllerRuns
