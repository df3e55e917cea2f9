import KairosDeploy.Primary.ControllerRuns
import KairosDeploy.Primary.LostDrop

/-!
# What the controller leaves behind

`finish` after a run that ended anywhere: the cleanup of the primary, the
evidence of its own records, and the labels of the receipt.  The results at
the end hold of every run, finished or cut off.
-/

namespace KairosDeploy.Primary.ControllerReceipt

open KairosDeploy.Library.JsonValue
open KairosDeploy.Library.FaultyProgram
open KairosDeploy.Library.FaultyProgram.Program
open KairosDeploy.Library.HexDigest (isSha256_zeros)
open KairosDeploy.Primary.RemoteArtifacts
open KairosDeploy.Primary.Controller
open KairosDeploy.Primary.TemporaryFiles
open KairosDeploy.Primary.ControllerRuns
open KairosDeploy.Primary.LostDrop

variable {env : Environment}

/-! ## The cleanup of the primary -/

/-- The primary was started under a marker; the cleanup may do anything. -/
structure Cleaning (known : Core) : Prop extends Consistent known where
  saved : known.Marked

/-- The primary was seen stopped. -/
structure Stopped (known : Core) : Prop extends Cleaning known where
  seen : known.seenStopped = true

theorem uncertain_ensures
    {invariant : Core → Prop} {failure : Failure} {post : Unit → World → Prop}
    (stable :
      ∀ known, invariant known →
        invariant { known with cleanupUncertain := true }) :
    Ensures (Holds env invariant) (fun _ => True) (uncertain failure) post
      fun _ world => world.cleanupUncertain = true := by
  refine
    ensures_through (fun _ world => world.cleanupUncertain = true)
      (ensures_update
        (fun _ holds _ => ⟨holds.1.setStatus id, stable _ holds.2⟩)
        fun _ _ _ => rfl)
      fun _ => ?_
  exact ensures_raise fun _ _ done => done

theorem Consistent.setUncertain {known : Core}
    (consistent : Consistent known) :
    Consistent { known with cleanupUncertain := true } :=
  ⟨consistent.unattempted, consistent.created, consistent.dropped,
    consistent.applied, consistent.unapplied, consistent.marked,
    consistent.noReceipt⟩

theorem Cleaning.setUncertain {known : Core} (cleaning : Cleaning known) :
    Cleaning { known with cleanupUncertain := true } :=
  ⟨Consistent.setUncertain cleaning.toConsistent, cleaning.saved⟩

theorem Consistent.stop {known : Core} (consistent : Consistent known) :
    Consistent { known with startedSource := false } :=
  ⟨consistent.unattempted, consistent.created, consistent.dropped,
    consistent.applied, consistent.unapplied, (fun impossible => nomatch
    impossible),
    consistent.noReceipt⟩

theorem inspectRunning_moves :
    Moves env Consistent Supervised (inspectRunning env) Cleaning := by
  have consistent : ∀ known, Supervised known → Consistent known :=
    fun _ supervised => supervised.toConsistent
  refine moves_observe fun exited => ?_
  refine (moves_external consistent).andThen ?_
  refine ensures_ite (fun _ => ?_) fun _ => ?_
  · refine
      ensures_through (fun _ => Holds env Consistent)
        (moves_updateStatus
          (fun _ supervised => Consistent.stop supervised.toConsistent)
          (fun _ saved => saved) fun _ stopped => stopped)
        fun _ => ?_
    exact ensures_raise fun _ _ _ => trivial
  · exact
      ensures_pure fun _ _ holds =>
        holds.mono fun _ supervised =>
          ⟨supervised.toConsistent, supervised.saved⟩

theorem dropRole_moves :
    Moves env Cleaning Cleaning (dropRole env) Cleaning := by
  have cleaning : ∀ known, Cleaning known → Cleaning known := fun _ => id
  refine (moves_external cleaning).andThen ?_
  refine moves_observe fun due => ?_
  refine ensures_ite (fun _ => ?_) fun _ => ensures_pure fun _ _ => id
  refine
    Moves.through Cleaning
      (runSqlFile_moves
        (fun known => Cleaning known ∧ known.role = false)
        (fun _ holds => ⟨⟨holds.toConsistent.dropRole, holds.saved⟩, rfl⟩)
        (fun _ holds =>
          ⟨holds.1.toConsistent.acknowledgeDrop holds.2, holds.1.saved⟩)
        (fun _ holds => holds.saved) (fun _ holds => holds.saved) cleaning
        (fun _ holds => holds.1) cleaning)
      (unlinkSql_moves .cleanupSql cleaning)

theorem stopPrimary_moves :
    Moves env Cleaning Cleaning (stopPrimary env) Stopped := by
  have cleaning : ∀ known, Cleaning known → Cleaning known := fun _ => id
  have stopped : ∀ known, Stopped known → Cleaning known := fun _ holds =>
    holds.toCleaning
  refine (moves_external cleaning).andThen ?_
  refine
    Moves.through Cleaning
      (moves_updateStatus
        (fun _ holds => ⟨Consistent.stop holds.toConsistent, holds.saved⟩)
        (fun _ saved => saved) cleaning)
      ?_
  refine
    Moves.through Stopped
      ((moves_external cleaning).andThen
        (moves_updateStatus (fun _ holds => ⟨⟨?_, holds.saved⟩, rfl⟩)
          (fun _ saved => saved) stopped))
      ?_
  · exact
      ⟨holds.unattempted, holds.created, holds.dropped, holds.applied,
        holds.unapplied, holds.marked, holds.noReceipt⟩
  · refine (unlinkSql_moves .provisionSql stopped).andThen ?_
    exact
      (unlinkSql_moves .cleanupSql stopped).andThen (moves_external stopped)

/-- The primary was seen stopped after its last start, if there was one. -/
def Rested (known : Core) : Prop :=
  known.startIssued = true → known.seenStopped = true

/-- The cleanup is over: the primary rests, or the cleanup is uncertain. -/
structure Concluded (known : Core) : Prop extends Consistent known where
  concluded : known.cleanupUncertain = true ∨ Rested known

theorem supervised_of_started {known : Core}
    (running : Running known) (started : known.startedSource = true) :
    Supervised known :=
  ⟨running, running.marked started, started⟩

theorem rested_of_notStarted {known : Core} (running : Running known)
    (notStarted : known.startedSource ≠ true) : Rested known :=
  fun issued => absurd (running.supervised issued) notStarted

/-- The blocks of `cleanup_primary` after the first. -/
theorem cleanupRest_ensures :
    Ensures (Holds env Cleaning) (fun _ => True)
      (do
        let first ← caught (dropRole env)
        let pending ← observe World.pending
        let second ← caughtEach pending (removeOwnedContainerFile env)
        let third ← caught (stopPrimary env)
        match first <|> second <|> third with
        | none => pure ()
        | some failure => uncertain failure)
      (fun _ => Holds env Stopped)
      fun _ world => world.cleanupUncertain = true := by
  have cleaning : ∀ known, Cleaning known → Cleaning known := fun _ => id
  have marked : ∀ known, Cleaning known → known.Marked := fun _ holds =>
    holds.saved
  refine
    ensures_bind
      (ensures_caught
        (Ensures.weakenPre dropRole_moves fun _ holds _ => holds)).forget
      fun first => ?_
  refine ensures_bind ensures_observe.forget fun pending => ?_
  refine ensures_bind (ensures_caughtEach ?_).forget fun second => ?_
  · intro purpose _
    have moves :
        Moves env Cleaning Cleaning (removeOwnedContainerFile env purpose)
          Cleaning :=
      removeOwnedContainerFile_moves marked cleaning
    exact Ensures.mono moves (fun _ holds _ => holds) fun _ _ _ _ => trivial
  · refine
      ensures_bind
        (ensures_caught
          (Ensures.weakenPre stopPrimary_moves fun _ holds _ => holds))
        fun third => ?_
    cases combined : first <|> second <|> third with
    | some failure =>
        exact
          (uncertain_ensures fun _ => Cleaning.setUncertain).weakenPre
            fun _ _ _ => trivial
    | none =>
        rw [Option.orElse_eq_none, Option.orElse_eq_none] at combined
        rw [combined.2.2]
        exact ensures_pure fun _ _ stopped => stopped

theorem cleanupPrimary_ensures :
    Ensures (Holds env Consistent) (Holds env Running) (cleanupPrimary env)
      (fun _ => Holds env Concluded)
      fun _ world => world.cleanupUncertain = true := by
  refine ensures_bind ensures_observe fun started => ?_
  refine ensures_ite (fun due => ?_) fun notDue => ?_
  · refine
      ensures_through (fun _ => Holds env Cleaning)
        (ensures_attempt
          (Ensures.weakenPre inspectRunning_moves fun world _ ready => ?_)
          fun _ => uncertain_ensures fun _ => Consistent.setUncertain)
        fun _ => ?_
    · rcases ready with ⟨holds, seen⟩
      exact ⟨holds.1, supervised_of_started holds.2 (seen.symm.trans due)⟩
    · refine (cleanupRest_ensures.within ?_).weakenPost ?_
      · exact fun _ holds => holds.mono fun _ known => known.toConsistent
      · intro _ _ _ stopped
        exact stopped.2.mono fun _ holds =>
          ⟨holds.toConsistent, .inr fun _ => holds.seen⟩
  · refine ensures_pure fun world _ ready => ?_
    rcases ready with ⟨holds, seen⟩
    exact
      ⟨holds.1, holds.2.toConsistent,
        .inr (rested_of_notStarted holds.2
          fun known => notDue (seen.trans known))⟩

/-! ## The rest of `finish` -/

theorem removeWorker_moves {name : String} :
    Moves env Running Running (removeWorker env name) Running := by
  have running : ∀ known, Running known → Running known := fun _ => id
  refine (moves_external running).andThen ?_
  exact (dockerRemove_moves running).andThen (moves_bookkeeping running)

/-- A loop of `finish` over names. -/
theorem caughtEach_moves {names : List String} {body : String → Run Unit}
    {fails : Failure → World → Prop}
    (once : ∀ name, Moves env Running Running (body name) Running) :
    Ensures (Holds env Consistent) (Holds env Running)
      (caughtEach names body) (fun _ => Holds env Running) fails := by
  have loop :
      Ensures (Holds env Running) (fun _ => True) (caughtEach names body)
        (fun _ _ => True) fun _ _ => False :=
    ensures_caughtEach fun name _ =>
      Ensures.mono (once name) (fun _ holds _ => holds)
        fun _ _ _ _ => trivial
  refine
    ((loop.within ?_).weakenFails fun _ _ _ failed => failed.elim).weakenPost
      fun _ _ _ done => done.1
  exact fun _ holds => holds.mono fun _ running => running.toConsistent

/-- The records of the run's directory say that nothing is pending. -/
def Verified (env : Environment) (world : World) : Prop :=
  ∃ evidence,
    remoteArtifactCleanupEvidence world.directory env.owner env.revision =
        .ok evidence ∧
      evidence.verified = true

theorem collectEvidence_ensures {condition : Core → Prop} :
    Keeps (Holds env condition) (fun _ => True) (collectEvidence env)
      fun _ => Verified env := by
  refine
    ensures_through (fun _ _ => True)
      (step_keeps (fun _ _ holds _ => ⟨holds.1.tick, holds.2⟩)
        fun _ _ ready => ready)
      fun _ => ?_
  refine ensures_bind ensures_observe fun directory => ?_
  refine ensures_bind keeps_lift fun evidence => ?_
  refine
    ensures_through
      (fun _ world =>
        remoteArtifactCleanupEvidence world.directory env.owner
          env.revision = .ok evidence)
      (ensures_update (fun _ holds _ => ⟨holds.1.setStatus id, holds.2⟩)
        ?_)
      fun _ => ?_
  · rintro world _ ⟨⟨_, rfl⟩, found⟩
    exact found
  · refine keeps_refuseWhen.weakenPost ?_
    rintro _ world _ ⟨found, accepted⟩
    rw [Bool.or_eq_false_iff, Bool.not_eq_false'] at accepted
    exact ⟨evidence, found, accepted.1⟩

/-- The conditions under which the cleanup may be called verified. -/
def Clean (env : Environment) (world : World) : Prop :=
  Verified env world ∧ Rested (core world.toStatus)

theorem Concluded.setUncertain {known : Core} (holds : Concluded known)
    (more : Bool) :
    Concluded
      { known with cleanupUncertain := known.cleanupUncertain || more } := by
  refine
    ⟨⟨holds.unattempted, holds.created, holds.dropped, holds.applied,
        holds.unapplied, holds.marked, holds.noReceipt⟩, ?_⟩
  rcases holds.concluded with uncertain | rested
  · left
    show (known.cleanupUncertain || more) = true
    rw [uncertain, Bool.true_or]
  · exact .inr rested

/-- What the local variables of `finish` say of the cleanup. -/
def Judged (env : Environment) (verified : Bool) (world : World) : Prop :=
  (verified = true → world.cleanupUncertain = false ∧ Clean env world) ∧
    (world.cleanupUncertain = true ∨ Clean env world)

/-- What `settle` returns is composed from the state that it leaves. -/
def Composed (env : Environment) (receipt : Receipt) (world : World) :
    Prop :=
  Consistent (core world.toStatus) ∧
    ∃ success cleanup error,
      receipt = composeReceipt success cleanup error world.toStatus ∧
        Judged env cleanup world ∧
          (cleanup = true → world.containers = [])

theorem judgeCleanup_ensures
    {success removed : Bool} {error : Option Failure} :
    Keeps (Holds env Concluded) (fun _ => True)
      (judgeCleanup env success removed error)
      fun receipt => Composed env receipt := by
  have listed (verified : Bool) :
      Ensures (Holds env Concluded) (Judged env verified)
        (do
          external env
          refuseStatus (fun status => status.containers ≠ []) commandFailed)
        (fun _ world => Judged env verified world ∧ world.containers = [])
        fun _ => Judged env verified := by
    refine
      ensures_through (fun _ => Judged env verified)
        (step_ensures (fun _ _ holds _ => ⟨holds.1.tick, holds.2⟩)
          (fun _ _ judged => judged) fun _ _ _ _ judged _ => judged)
        fun _ => ?_
    refine
      Ensures.weakenPost (ensures_refuseWhen fun _ _ judged _ => judged)
        fun _ _ _ done => ?_
    exact ⟨done.1, not_not.1 (of_decide_eq_false done.2)⟩
  refine
    ensures_bind (ensures_caught collectEvidence_ensures)
      fun evidenceError => ?_
  refine
    ensures_through
      (fun _ world =>
        (evidenceError.isNone = true → Verified env world) ∧
          (evidenceError.isSome = true → world.cleanupUncertain = true))
      (ensures_update
        (fun _ holds _ =>
          ⟨holds.1.setStatus id, holds.2.setUncertain _⟩)
        fun world _ known => ?_)
      fun _ => ?_
  · constructor
    · intro none
      rw [Option.isNone_iff_eq_none] at none
      subst none
      exact known
    · intro raised
      show (world.cleanupUncertain || evidenceError.isSome) = true
      rw [raised, Bool.or_true]
  refine ensures_bind ensures_observe fun verified => ?_
  refine ensures_from (Judged env verified) ?_ ?_
  · refine
      ensures_bind (ensures_caught (listed verified)) fun listingError => ?_
    refine
      ensures_through
        (fun _ world =>
          Judged env verified world ∧
            (listingError.isNone = true → world.containers = []))
        (keeps_refuseWhen.weakenPost ?_) fun _ => ?_
    · rintro _ world _ ⟨known, _⟩
      cases listingError with
      | none => exact ⟨known.1, fun _ => known.2⟩
      | some failure => exact ⟨known, fun impossible => by cases impossible⟩
    refine ensures_observe.weakenPost ?_
    rintro receipt world holds ⟨⟨judged, listing⟩, rfl⟩
    refine
      ⟨holds.2.toConsistent, _, _, _, rfl,
        ⟨fun cleanup => ?_, judged.2⟩, fun cleanup => ?_⟩
    · exact judged.1 (Bool.and_eq_true_iff.1 cleanup).1
    · exact listing (Bool.and_eq_true_iff.1 cleanup).2
  · rintro world holds ⟨⟨known, raised⟩, rfl⟩
    have either : world.cleanupUncertain = true ∨ Clean env world := by
      cases evidenceError with
      | some failure => exact .inl (raised rfl)
      | none =>
          exact holds.2.concluded.imp_right fun rested => ⟨known rfl, rested⟩
    refine ⟨fun verified => ?_, either⟩
    simp only [Bool.and_eq_true, Bool.not_eq_true'] at verified
    have certain := verified.2
    refine ⟨certain, either.resolve_left ?_⟩
    rw [certain]
    exact Bool.false_ne_true

theorem settle_ensures {success : Bool} {error : Option Failure} :
    Keeps (Holds env Consistent) (Holds env Running)
      (settle env success error) fun receipt => Composed env receipt := by
  have running : ∀ known, Running known → Consistent known :=
    fun _ holds => holds.toConsistent
  refine ensures_bind ensures_observe fun workers => ?_
  refine
    ensures_bind
      ((caughtEach_moves fun _ => removeWorker_moves).weakenPre
        fun _ _ ready => ready.1)
      fun workerError => ?_
  refine
    ensures_through (fun _ => Holds env Running)
      (moves_bookkeeping running) fun _ => ?_
  refine ensures_bind ensures_observe fun owned => ?_
  refine
    ensures_bind
      ((caughtEach_moves fun _ => removeOwned_moves fun _ => id).weakenPre
        fun _ _ ready => ready.1)
      fun ownedError => ?_
  refine
    ensures_through (fun _ => Holds env Concluded)
      ((ensures_caught cleanupPrimary_ensures).weakenPost ?_)
      fun cleanupError => ?_
  · intro failure world holds known
    cases failure with
    | none => exact known
    | some raised => exact ⟨holds.1, holds.2, .inl known⟩
  · refine
      (judgeCleanup_ensures.within fun _ holds => ?_).weakenPost
        fun _ _ _ done => done.2
    exact holds.mono fun _ concluded => concluded.toConsistent

/-! ## The receipt -/

/--
The labels of a receipt hold of a state.  `otherRole`, `otherSchema` and
`uncertain` are about the situations that no definite label is for.
-/
structure Truthful (env : Environment) (receipt : Receipt)
    (world : World) : Prop where
  noRole :
    receipt.temporaryRole = .notAttempted ∨
        receipt.temporaryRole = .createdAndDropped →
      world.role = false
  created :
    receipt.temporaryRole = .created →
      world.role = true ∨
        ReplyLost env world.sqlIssued ∧ receipt.cleanupUncertain = true
  committed :
    receipt.schemaQuarantine = .committed → world.committed = true
  baseline :
    receipt.schemaQuarantine = .notAttempted → world.committed = false
  clean :
    receipt.cleanupVerified = true →
      Clean env world ∧ world.containers = []
  otherRole :
    world.role = true →
      receipt.temporaryRole = .created ∨ receipt.temporaryRole = .unknown
  otherSchema :
    (world.committed = true →
      receipt.schemaQuarantine = .committed ∨
        receipt.schemaQuarantine = .unknown) ∧
      (world.committed = false →
        receipt.schemaQuarantine = .notAttempted ∨
          receipt.schemaQuarantine = .unknown)
  uncertain :
    (¬ Clean env world → receipt.cleanupUncertain = true) ∧
      (receipt.cleanupUncertain = true ∨ world.containers ≠ [] →
        receipt.cleanupVerified = false)

/-! ### What the labels say -/

/-- A role that is reported as gone does not exist. -/
theorem noRole_of_roleLabel {status : Status}
    (known : Consistent (core status))
    (label :
      status.roleLabel = .notAttempted ∨
        status.roleLabel = .createdAndDropped) :
    status.role = false := by
  unfold Status.roleLabel at label
  split_ifs at label with dropped created attempted
  · exact known.dropped dropped
  · rcases label with impossible | impossible <;> cases impossible
  · rcases label with impossible | impossible <;> cases impossible
  · exact known.unattempted (Bool.eq_false_of_not_eq_true attempted)

/-- A role that exists is reported as there, or as unknown. -/
theorem role_told {status : Status}
    (known : Consistent (core status)) (present : status.role = true) :
    status.roleLabel = .created ∨ status.roleLabel = .unknown := by
  cases label : status.roleLabel with
  | created => exact .inl rfl
  | unknown => exact .inr rfl
  | notAttempted =>
      rw [noRole_of_roleLabel known (.inl label)] at present
      cases present
  | createdAndDropped =>
      rw [noRole_of_roleLabel known (.inr label)] at present
      cases present

/-- A role that is reported as there was provisioned, and its drop was not
acknowledged. -/
theorem acknowledged_of_roleLabel {status : Status}
    (label : status.roleLabel = .created) :
    status.provisionAcknowledged = true ∧
      ¬ status.dropAcknowledged = true := by
  unfold Status.roleLabel at label
  split_ifs at label with dropped created
  exact ⟨created, dropped⟩

/-- A transition that is reported as committed is. -/
theorem committed_of_schemaLabel {status : Status}
    (known : Consistent (core status))
    (label : status.schemaLabel = .committed) :
    status.committed = true := by
  unfold Status.schemaLabel at label
  split_ifs at label with committed
  apply known.applied
  show status.nativeApply.isSome = true
  cases file : status.nativeApply with
  | some _ => rfl
  | none =>
      rw [file] at committed
      cases committed

/-- A database that is reported as untouched is the baseline. -/
theorem baseline_of_schemaLabel {status : Status}
    (known : Consistent (core status))
    (label : status.schemaLabel = .notAttempted) :
    status.committed = false := by
  unfold Status.schemaLabel at label
  split_ifs at label with committed invoked
  exact known.unapplied (Bool.eq_false_of_not_eq_true invoked)

theorem schema_told {status : Status}
    (known : Consistent (core status)) :
    (status.committed = true →
      status.schemaLabel = .committed ∨ status.schemaLabel = .unknown) ∧
      (status.committed = false →
        status.schemaLabel = .notAttempted ∨
          status.schemaLabel = .unknown) := by
  cases label : status.schemaLabel with
  | committed =>
      have done := committed_of_schemaLabel known label
      exact
        ⟨fun _ => .inl rfl,
          fun undone => Bool.noConfusion (undone.symm.trans done)⟩
  | unknown => exact ⟨fun _ => .inr rfl, fun _ => .inr rfl⟩
  | notAttempted =>
      have undone := baseline_of_schemaLabel known label
      exact
        ⟨fun done => Bool.noConfusion (done.symm.trans undone),
          fun _ => .inl rfl⟩

theorem Composed.truthful {receipt : Receipt} {world : World}
    (composed : Composed env receipt world) (told : Told env world) :
    Truthful env receipt world := by
  rcases composed with
    ⟨known, success, cleanup, error, rfl, judged, listing⟩
  have created (label : world.roleLabel = .created) :
      world.role = true ∨
        ReplyLost env world.sqlIssued ∧ world.cleanupUncertain = true := by
    rcases acknowledged_of_roleLabel label with ⟨provisioned, notDropped⟩
    rcases told with (undone | acknowledged) | lost
    · left
      refine (known.created provisioned).resolve_right fun gone => ?_
      exact Bool.noConfusion (gone.symm.trans undone)
    · exact absurd acknowledged notDropped
    · exact .inr lost
  have unverified
      (other : world.cleanupUncertain = true ∨ world.containers ≠ []) :
      cleanup = false := by
    by_contra verified
    rw [Bool.not_eq_false] at verified
    rcases other with uncertain | listed
    · exact Bool.noConfusion (uncertain.symm.trans (judged.1 verified).1)
    · exact listed (listing verified)
  exact
    { noRole := noRole_of_roleLabel known
      created := created
      committed := committed_of_schemaLabel known
      baseline := baseline_of_schemaLabel known
      clean := fun verified => ⟨(judged.1 verified).2, listing verified⟩
      otherRole := role_told known
      otherSchema := schema_told known
      uncertain := ⟨judged.2.resolve_right, unverified⟩ }

/-- The invariant of whole runs: the files are in order, and a receipt that
is there is true. -/
def Always (env : Environment) (world : World) : Prop :=
  Files env world ∧
    ∀ receipt, world.receipt = some receipt → Truthful env receipt world

/-- The labels speak of a few fields only. -/
theorem Truthful.relabel {receipt : Receipt} {world later : World}
    (truthful : Truthful env receipt world)
    (role : later.role = world.role)
    (sqlIssued : later.sqlIssued = world.sqlIssued)
    (committed : later.committed = world.committed)
    (containers : later.containers = world.containers)
    (clean : Clean env later ↔ Clean env world) :
    Truthful env receipt later where
  noRole := role ▸ truthful.noRole
  created := role ▸ sqlIssued ▸ truthful.created
  committed := committed ▸ truthful.committed
  baseline := committed ▸ truthful.baseline
  clean := by
    rw [clean, containers]
    exact truthful.clean
  otherRole := role ▸ truthful.otherRole
  otherSchema := committed ▸ truthful.otherSchema
  uncertain := by
    rw [clean, containers]
    exact truthful.uncertain

theorem Always.tick {world : World} (always : Always env world) :
    Always env world.tick :=
  ⟨always.1.tick, fun receipt found =>
    (always.2 receipt found).relabel rfl rfl rfl rfl Iff.rfl⟩

theorem always_of_consistent {world : World}
    (holds : Holds env Consistent world) : Always env world := by
  refine ⟨holds.1, fun receipt found => ?_⟩
  have noReceipt : world.receipt = none := holds.2.noReceipt
  rw [noReceipt] at found
  cases found

theorem finish_keeps {success : Bool} {error : Option Failure} :
    Keeps (Always env)
      (fun world => Holds env Running world ∧ Known env world)
      (finish env success error) fun _ _ => True := by
  refine
    ensures_through (fun receipt => Truthful env receipt)
      ?_ fun receipt => ?_
  · refine
      (((settle_ensures.and settle_told).strengthen
        fun _ => always_of_consistent).mono ?_
          fun _ _ _ done => done.2.1.truthful done.2.2).keeps
    exact fun _ _ ready =>
      ⟨ready.1.mono fun _ running => running.toConsistent, ready⟩
  · refine
      ensures_bind (keeps_refuseWhen.weakenPost fun _ _ _ done => done.1)
        fun _ => ?_
    refine
      ensures_through (fun _ _ => True)
        (step_keeps (fun world extent always truthful => ?_)
          fun _ _ _ => trivial)
        fun _ => ensures_pure fun _ _ _ => trivial
    cases extent with
    | nothing => exact always.tick
    | part count => exact always.tick
    | whole =>
        have files :
            Files env
              { world with
                toStatus :=
                  { world.toStatus with receipt := some receipt } } :=
          always.1.setStatus fun saved => saved
        refine ⟨files.tick, fun saved found => ?_⟩
        cases found
        exact truthful.relabel rfl rfl rfl rfl Iff.rfl

/-- Every run, from its start to its receipt or to the point at which it is
cut off. -/
theorem execute_keeps :
    Keeps (Always env)
      (fun world => Holds env Unstarted world ∧ Early world) (execute env)
      fun _ _ => True := by
  have runs :
      Keeps (Holds env Running) (Holds env Unstarted)
        (do
          external env
          run env)
        fun _ => Holds env Supervised :=
    (moves_external fun _ => Unstarted.running).andThen run_moves
  refine
    ensures_through
      (fun _ world => Holds env Running world ∧ Known env world) ?_
      fun failure => finish_keeps
  refine
    (ensures_caught
      ((runs.and run_known).strengthen fun _ holds => ?_)).mono ?_ ?_
  · exact always_of_consistent
      (holds.mono fun _ running => running.toConsistent)
  · intro world _ ready
    exact ⟨ready.1.mono fun _ => Unstarted.running, ready⟩
  · intro failure world _ known
    cases failure with
    | none => exact ⟨known.1, known.2.2⟩
    | some raised => exact ⟨known.1, known.2.2⟩

/-! ## The initial state -/

theorem unstarted_initial (remote : Purpose → Option RemoteFile) :
    Holds env Unstarted (World.initial remote) := by
  refine ⟨⟨fun purpose => ⟨?_, ?_⟩, ?_, ?_⟩, ?_⟩
  · refine .unreserved (.inl rfl) rfl rfl fun file found => ?_
    rcases Option.map_eq_some_iff.1 found with ⟨_, _, rfl⟩
    rfl
  · exact fun _ impossible => nomatch impossible
  · exact fun _ impossible => nomatch impossible
  · exact fun _ impossible => nomatch impossible
  · refine ⟨⟨fun _ => rfl, ?_, ?_, ?_, fun _ => rfl, ?_, rfl⟩, rfl, rfl, rfl⟩
    all_goals exact fun impossible => nomatch impossible

/-- The state after a run, finished or cut off. -/
def World.final (env : Environment) (remote : Purpose → Option RemoteFile) :
    World :=
  (execute env (World.initial remote)).2

theorem always_final (remote : Purpose → Option RemoteFile) :
    Always env (World.final env remote) :=
  execute_keeps.invariant_after
    (always_of_consistent
      ((unstarted_initial remote).mono fun _ unstarted =>
        unstarted.toConsistent))
    ⟨unstarted_initial remote, rfl, rfl⟩

/-- The labels of the receipt are true, if there is a receipt. -/
def ReceiptTrue (env : Environment) (world : World) : Prop :=
  ∀ receipt ∈ world.receipt, Truthful env receipt world

/--
The labels in the receipt of every run are true: a role that is not reported
as unknown is there or gone as reported, unless the SQL that drops it took
effect and lost its reply, in which case the cleanup calls itself uncertain;
the transition is committed or not as reported; a verified cleanup left no
container, no pending file, and a primary that was seen stopped if this run
started it; and whatever else is the case is unknown or uncertain.
-/
theorem execute_receiptTrue
    (env : Environment) (remote : Purpose → Option RemoteFile) :
    ReceiptTrue env (World.final env remote) :=
  (always_final remote).2

/-- An environment in which one step raises and every other step works. -/
def failingAt (step : Nat) (extent : Extent) : Environment where
  owner := "00000000000000000000000000000000"
  revision := "0000000000000000000000000000000000000000"
  ownerHex := by decide +kernel
  revisionHex := by decide +kernel
  sha256 :=
    ⟨fun _ =>
        "0000000000000000000000000000000000000000000000000000000000000000",
      fun _ => isSha256_zeros⟩
  encode _ := []
  sql _ := [1]
  answer clock :=
    { fate :=
        if clock = step then
          .raises extent (raised "GateError" gateError_nonempty)
        else .works
      exited := false
      postgresUid := some 0
      dump := [80]
      apply := .rolledBack }

/-- A run that is refused at its first step has a verified cleanup although
nobody saw the primary stopped, and one whose `DROP ROLE` loses its reply
reports a role that is gone. -/
theorem receipt_labels_counterexample :
    ((World.final (failingAt 0 .nothing) fun _ => none).receipt.any
          Receipt.cleanupVerified = true ∧
        (World.final (failingAt 0 .nothing) fun _ => none).seenStopped =
          false) ∧
      (World.final (failingAt 55 .whole) fun _ => none).receipt.any
          (fun receipt => receipt.temporaryRole = .created) = true ∧
        (World.final (failingAt 55 .whole) fun _ => none).role = false := by
  decide +kernel

end KairosDeploy.Primary.ControllerReceipt
