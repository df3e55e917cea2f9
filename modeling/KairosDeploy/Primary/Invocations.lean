import KairosDeploy.Library.Transition

/-!
# Invocations of the primary transition

`controlled_runtime_primary.main` for one accepted clone directory, run by any
number of processes.  A supervised invocation is a supervisor with a child of
its own; an unsupervised one is a child alone.  All of them share the run
directory `primary-run-<owner>`, the files in it, the primary container and
the containers labelled with the owner.

A statement may be carried out, raise before its effect, or take effect and
raise because the reply is lost; and every process may be killed between two
statements.  What keeps two children apart is the exclusive creation of the
run directory.  A supervisor decides what to stop from the marker
`started-primary.json` in that shared directory.
-/

namespace KairosDeploy.Primary.Invocations

open KairosDeploy.Library.Transition

/-! ## The shared world -/

/-- The containers that a run labels with its owner. -/
inductive Container where
  /-- `current-cold-verify` -/
  | coldVerify
  /-- The worker container of mode `apply`. -/
  | apply
  /-- The worker container of mode `verify`. -/
  | verify
  /-- The disposable database `current_second`. -/
  | restore
  /-- The worker container of mode `verify-restored-primary`. -/
  | verifyRestored
deriving DecidableEq, Repr

/--
What all invocations share: who created the run directory, the execution lease
and the marker, whether the primary container runs and which labelled
containers exist.  `starts` and `applies` record who started the primary and
who launched the apply worker.
-/
structure World (Pid : Type) where
  directory : Option Pid
  lease : Option Pid
  marker : Option Pid
  running : Bool
  labelled : List Container
  starts : List Pid
  applies : List Pid
deriving DecidableEq, Repr

/-! ## The child -/

/-- Where the child of `main` stands. -/
inductive ChildStage where
  | absent
  /-- Before `self.work.mkdir()`: admission, signatures, acceptance. -/
  | validating
  /-- The run directory is created. -/
  | claimed
  /-- The execution lease is written. -/
  | leased
  /-- `__init__` returned. -/
  | constructed
  /-- `admission` and the script snapshot check returned. -/
  | admitted
  /-- The cold verification container exists. -/
  | verifyingCold
  | cold
  /-- The private files are written and the primary was seen stopped. -/
  | prepared
  /-- `started-primary.json` is saved. -/
  | marked
  /-- `docker start` of the primary returned. -/
  | started
  /-- The temporary login is provisioned. -/
  | provisioned
  /-- The apply worker is launched. -/
  | applying
  | applied
  /-- The verify worker is launched. -/
  | verifying
  | verified
  /-- The temporary login is dropped. -/
  | dropped
  /-- The backup is copied out. -/
  | dumped
  /-- The restored database runs. -/
  | restored
  /-- The verification of the restored database is launched. -/
  | verifyingRestored
  | verifiedRestored
  | complete
  /-- In `finish`, before the removal of the run's containers. -/
  | finishing (success : Bool)
  /-- In `finish`, before the stop of the primary. -/
  | stopping (success : Bool)
  /-- In `finish`, before the receipt. -/
  | reporting (success : Bool)
  | ended
deriving DecidableEq, Repr

namespace ChildStage

/-- The stage after the statement has returned. -/
def next : ChildStage → ChildStage
  | absent => absent
  | validating => claimed
  | claimed => leased
  | leased => constructed
  | constructed => admitted
  | admitted => verifyingCold
  | verifyingCold => cold
  | cold => prepared
  | prepared => marked
  | marked => started
  | started => provisioned
  | provisioned => applying
  | applying => applied
  | applied => verifying
  | verifying => verified
  | verified => dropped
  | dropped => dumped
  | dumped => restored
  | restored => verifyingRestored
  | verifyingRestored => verifiedRestored
  | verifiedRestored => complete
  | complete => finishing true
  | finishing success => stopping success
  | stopping success => reporting success
  | reporting _ => ended
  | ended => ended

/-- The stage after the statement has raised. -/
def failed : ChildStage → ChildStage
  | absent => absent
  | validating | claimed | leased => ended
  | finishing _ => stopping false
  | stopping _ => reporting false
  | reporting _ => ended
  | ended => ended
  | _ => finishing false

/-- The position in the program. -/
def rank : ChildStage → Nat
  | absent => 0
  | validating => 1
  | claimed => 2
  | leased => 3
  | constructed => 4
  | admitted => 5
  | verifyingCold => 6
  | cold => 7
  | prepared => 8
  | marked => 9
  | started => 10
  | provisioned => 11
  | applying => 12
  | applied => 13
  | verifying => 14
  | verified => 15
  | dropped => 16
  | dumped => 17
  | restored => 18
  | verifyingRestored => 19
  | verifiedRestored => 20
  | complete => 21
  | finishing _ => 22
  | stopping _ => 23
  | reporting _ => 24
  | ended => 25

/-- After `self.work.mkdir()` and before the end. -/
def holds (stage : ChildStage) : Bool :=
  claimed.rank ≤ stage.rank && stage.rank < ended.rank

end ChildStage

section

variable {Pid : Type}

/--
The effect of the child's next statement on the world, or nothing where the
statement raises because of the world.
-/
def childEffect [DecidableEq Pid] (pid : Pid) (stage : ChildStage)
    (world : World Pid) : Option (World Pid) :=
  match stage with
  | .validating =>
      -- `mkdir` creates the directory or raises FileExistsError.
      if world.directory.isSome then none
      else some { world with directory := some pid }
  | .claimed =>
      if world.lease.isSome then none
      else some { world with lease := some pid }
  | .admitted =>
      -- `source()` requires the stopped primary.
      if world.running then none
      else some { world with labelled := .coldVerify :: world.labelled }
  | .verifyingCold =>
      some { world with labelled := world.labelled.erase .coldVerify }
  | .cold => if world.running then none else some world
  | .prepared =>
      if world.marker.isSome then none
      else some { world with marker := some pid }
  | .marked =>
      some { world with running := true, starts := pid :: world.starts }
  | .started => if world.running then some world else none
  | .provisioned =>
      if world.running then
        some
          { world with
            labelled := .apply :: world.labelled
            applies := pid :: world.applies }
      else
        none
  | .applying =>
      if .apply ∈ world.labelled then
        some { world with labelled := world.labelled.erase .apply }
      else
        none
  | .applied =>
      if world.running then
        some { world with labelled := .verify :: world.labelled }
      else
        none
  | .verifying =>
      if .verify ∈ world.labelled then
        some { world with labelled := world.labelled.erase .verify }
      else
        none
  | .verified => if world.running then some world else none
  | .dropped => if world.running then some world else none
  | .dumped => some { world with labelled := .restore :: world.labelled }
  | .restored =>
      some { world with labelled := .verifyRestored :: world.labelled }
  | .verifyingRestored =>
      if .verifyRestored ∈ world.labelled then
        some { world with labelled := world.labelled.erase .verifyRestored }
      else
        none
  | .verifiedRestored =>
      if .restore ∈ world.labelled then
        some { world with labelled := world.labelled.erase .restore }
      else
        none
  | .finishing _ => some { world with labelled := [] }
  | .stopping _ =>
      -- `cleanup_primary` acts only where this run started the primary.
      if pid ∈ world.starts then some { world with running := false }
      else some world
  | .reporting success =>
      if success then some { world with lease := none } else some world
  | .absent | .ended | .leased | .constructed | .complete => some world

/-! ## The supervisor -/

/-- Where `supervise_primary` stands. -/
inductive SupervisorStage where
  /-- The invocation has no supervisor. -/
  | absent
  /-- Before its own directory and admission are written. -/
  | preparing
  /-- Before the child is spawned. -/
  | launching
  /-- Polling the child. -/
  | watching
  /-- Before `job.finish`. -/
  | ending
  /-- Before the test for `started-primary.json`. -/
  | testing
  /-- The marker was there; before the primary is inspected. -/
  | inspecting
  /-- The primary was running; before `docker stop`. -/
  | stopping
  /-- Before the stopped primary is inspected and containers are listed. -/
  | listing
  /-- Before these labelled containers are removed. -/
  | removing (rest : List Container)
  /-- Before the evidence is judged and the receipt saved. -/
  | judging
  | ended
deriving DecidableEq, Repr

namespace SupervisorStage

/-- The stage after the statement has raised. -/
def failed : SupervisorStage → SupervisorStage
  | absent => absent
  | preparing => ended
  | launching | watching => ending
  | ending => testing
  | testing | inspecting | stopping | listing | removing _ => judging
  | judging => ended
  | ended => ended

/-- Past the test for the marker, where the marker was found. -/
def cleans : SupervisorStage → Bool
  | inspecting | stopping | listing | removing _ => true
  | _ => false

/-- The next statement stops the primary or removes a labelled container. -/
def disturbs : SupervisorStage → Bool
  | stopping | removing (_ :: _) => true
  | _ => false

end SupervisorStage

/-- One invocation of `main`. -/
structure Invocation where
  supervisor : SupervisorStage
  child : ChildStage
deriving DecidableEq, Repr

/-- The next statement of the supervisor. -/
def supervise (invocation : Invocation) (world : World Pid) :
    Option (Invocation × World Pid) :=
  match invocation.supervisor with
  | .absent | .ended => none
  | .preparing => some ({ invocation with supervisor := .launching }, world)
  | .launching =>
      some (⟨.watching, .validating⟩, world)
  | .watching =>
      if invocation.child = .ended then
        some ({ invocation with supervisor := .ending }, world)
      else
        none
  | .ending =>
      -- `job.finish` terminates what is left of the child's tree.
      some (⟨.testing, .ended⟩, world)
  | .testing =>
      match world.marker with
      | none => some ({ invocation with supervisor := .judging }, world)
      | some _ => some ({ invocation with supervisor := .inspecting }, world)
  | .inspecting =>
      if world.running then
        some ({ invocation with supervisor := .stopping }, world)
      else
        some ({ invocation with supervisor := .listing }, world)
  | .stopping =>
      some
        ({ invocation with supervisor := .listing },
          { world with running := false })
  | .listing =>
      if world.running then
        some ({ invocation with supervisor := .judging }, world)
      else
        some
          ({ invocation with supervisor := .removing world.labelled }, world)
  | .removing [] => some ({ invocation with supervisor := .judging }, world)
  | .removing (container :: rest) =>
      some
        ({ invocation with supervisor := .removing rest },
          { world with labelled := world.labelled.erase container })
  | .judging => some ({ invocation with supervisor := .ended }, world)

/-! ## Steps -/

/-- Which process of an invocation takes a step. -/
inductive Party where
  | child
  | supervisor
deriving DecidableEq, Repr

/-- What can happen at a statement. -/
inductive Event where
  /-- The statement takes effect and returns. -/
  | proceed
  /-- The statement raises and has no effect. -/
  | raise
  /-- The statement takes effect and raises. -/
  | lose
  | kill
deriving DecidableEq, Repr

/-- A step of the child on its stage and the world. -/
def childStep [DecidableEq Pid] (pid : Pid) (stage : ChildStage)
    (world : World Pid) (event : Event) : Option (ChildStage × World Pid) :=
  if stage = .absent ∨ stage = .ended then
    none
  else
    match event with
    | .proceed =>
        match childEffect pid stage world with
        | some changed => some (stage.next, changed)
        | none => some (stage.failed, world)
    | .raise => some (stage.failed, world)
    | .lose =>
        match childEffect pid stage world with
        | some changed => some (stage.failed, changed)
        | none => some (stage.failed, world)
    | .kill => some (.ended, world)

/-- A step of the supervisor. -/
def supervisorStep (invocation : Invocation) (world : World Pid)
    (event : Event) : Option (Invocation × World Pid) :=
  if invocation.supervisor = .absent ∨ invocation.supervisor = .ended then
    none
  else
    match event with
    | .proceed => supervise invocation world
    | .raise =>
        some
          ({ invocation with supervisor := invocation.supervisor.failed },
            world)
    | .lose =>
        (supervise invocation world).map fun (reached, changed) =>
          (⟨invocation.supervisor.failed, reached.child⟩, changed)
    | .kill => some ({ invocation with supervisor := .ended }, world)

/-- A step of one invocation. -/
def invocationStep [DecidableEq Pid] (pid : Pid) (invocation : Invocation)
    (world : World Pid) : Party × Event → Option (Invocation × World Pid)
  | (.child, event) =>
      (childStep pid invocation.child world event).map
        fun (stage, changed) => ({ invocation with child := stage }, changed)
  | (.supervisor, event) => supervisorStep invocation world event

/-- The world and every invocation. -/
structure State (Pid : Type) where
  world : World Pid
  invocations : Pid → Invocation

/-- A step of the system. -/
def step [DecidableEq Pid] (state : State Pid)
    (action : Pid × Party × Event) : Option (State Pid) :=
  (invocationStep action.1 (state.invocations action.1) state.world
      action.2).map
    fun (invocation, world) =>
      { world := world
        invocations :=
          Function.update state.invocations action.1 invocation }

/-- Before any invocation has done anything. -/
def Started (state : State Pid) : Prop :=
  state.world.starts = [] ∧ state.world.applies = [] ∧
    ∀ pid,
      state.invocations pid = ⟨.preparing, .absent⟩ ∨
        state.invocations pid = ⟨.absent, .validating⟩

/-! ## What one step does -/

variable [DecidableEq Pid] {pid other : Pid} {world changed : World Pid}

/-- How a statement of a child may change what all children share. -/
structure ChildEffect (pid : Pid) (stage : ChildStage)
    (world changed : World Pid) : Prop where
  directory :
    changed.directory = world.directory ∨
      stage = .validating ∧ world.directory = none ∧
        changed.directory = some pid
  marker :
    changed.marker = world.marker ∨
      stage = .prepared ∧ world.marker = none ∧ changed.marker = some pid
  starts :
    changed.starts = world.starts ∨
      stage = .marked ∧ changed.starts = pid :: world.starts
  applies :
    changed.applies = world.applies ∨
      stage = .provisioned ∧ changed.applies = pid :: world.applies

omit [DecidableEq Pid] in
theorem ChildEffect.refl (pid : Pid) (stage : ChildStage)
    (world : World Pid) : ChildEffect pid stage world world :=
  ⟨Or.inl rfl, Or.inl rfl, Or.inl rfl, Or.inl rfl⟩

theorem childEffect_spec {stage : ChildStage}
    (effect : childEffect pid stage world = some changed) :
    ChildEffect pid stage world changed := by
  cases stage <;> simp only [childEffect] at effect <;>
    (try split_ifs at effect) <;> cases effect <;> constructor <;> simp_all

/-- A child that gets past the `mkdir` has created the directory. -/
theorem childEffect_directory
    (effect : childEffect pid .validating world = some changed) :
    changed.directory = some pid := by
  simp only [childEffect] at effect
  split_ifs at effect
  cases effect
  rfl

theorem rank_lt_next {stage : ChildStage}
    (present : stage ≠ .absent) (running : stage ≠ .ended) :
    stage.rank < stage.next.rank := by
  cases stage <;> first | contradiction | exact Nat.lt_succ_self _

theorem rank_lt_failed {stage : ChildStage}
    (present : stage ≠ .absent) (running : stage ≠ .ended) :
    stage.rank < stage.failed.rank := by
  cases stage <;>
    first
      | contradiction
      | exact Nat.lt_succ_self _
      | exact of_decide_eq_true rfl

theorem holds_of_next {stage : ChildStage}
    (holds : stage.next.holds = true) :
    stage.holds = true ∨ stage = .validating := by
  cases stage <;> first | exact Or.inl rfl | exact Or.inr rfl | cases holds

theorem holds_of_failed {stage : ChildStage}
    (holds : stage.failed.holds = true) :
    stage.holds = true := by
  cases stage <;> first | rfl | cases holds

/-- What a step of a child does. -/
structure ChildMove (pid : Pid) (stage : ChildStage) (world : World Pid)
    (next : ChildStage) (changed : World Pid) : Prop where
  later : stage.rank < next.rank
  holds : next.holds = true →
    stage.holds = true ∨ changed.directory = some pid
  effect : ChildEffect pid stage world changed

theorem childStep_spec {stage next : ChildStage} {event : Event}
    (taken : childStep pid stage world event = some (next, changed)) :
    ChildMove pid stage world next changed := by
  simp only [childStep] at taken
  split_ifs at taken with idle
  have present : stage ≠ .absent := fun equal => idle (Or.inl equal)
  have running : stage ≠ .ended := fun equal => idle (Or.inr equal)
  have afterRaise (changed : World Pid)
      (effect : ChildEffect pid stage world changed) :
      ChildMove pid stage world stage.failed changed :=
    ⟨rank_lt_failed present running,
      fun holds => Or.inl (holds_of_failed holds), effect⟩
  cases event with
  | proceed =>
      dsimp only at taken
      split at taken
      · next effect =>
          cases taken
          refine ⟨rank_lt_next present running, ?_, childEffect_spec effect⟩
          intro holds
          rcases holds_of_next holds with before | validating
          · exact Or.inl before
          · subst validating
            exact Or.inr (childEffect_directory effect)
      · cases taken
        exact afterRaise _ (.refl _ _ _)
  | raise =>
      cases taken
      exact afterRaise _ (.refl _ _ _)
  | lose =>
      dsimp only at taken
      split at taken
      · next effect =>
          cases taken
          exact afterRaise _ (childEffect_spec effect)
      · cases taken
        exact afterRaise _ (.refl _ _ _)
  | kill =>
      cases taken
      refine ⟨?_, ?_, .refl _ _ _⟩
      · cases stage <;> first | contradiction | exact of_decide_eq_true rfl
      · intro holds
        cases holds

/-- Until its child is spawned an invocation has none. -/
def Invocation.Orderly (invocation : Invocation) : Prop :=
  invocation.supervisor = .preparing ∨ invocation.supervisor = .launching →
    invocation.child = .absent

/-- A step of a supervisor leaves alone what the children create. -/
structure SupervisorMove (invocation : Invocation) (world : World Pid)
    (next : Invocation) (changed : World Pid) : Prop where
  child :
    next.child = invocation.child ∨ next.child = .ended ∨
      invocation.supervisor = .launching ∧ next.child = .validating
  directory : changed.directory = world.directory
  marker : changed.marker = world.marker
  starts : changed.starts = world.starts
  applies : changed.applies = world.applies

omit [DecidableEq Pid] in
theorem supervise_spec {invocation next : Invocation}
    (taken : supervise invocation world = some (next, changed)) :
    SupervisorMove invocation world next changed := by
  unfold supervise at taken
  split at taken <;> (try split_ifs at taken) <;> (try split at taken) <;>
    cases taken <;> constructor <;> simp_all

omit [DecidableEq Pid] in
theorem supervisorStep_spec {invocation next : Invocation} {event : Event}
    (taken : supervisorStep invocation world event = some (next, changed)) :
    SupervisorMove invocation world next changed := by
  simp only [supervisorStep] at taken
  split_ifs at taken with idle
  cases event with
  | proceed => exact supervise_spec taken
  | raise =>
      cases taken
      exact ⟨Or.inl rfl, rfl, rfl, rfl, rfl⟩
  | lose =>
      rcases Option.map_eq_some_iff.1 taken with
        ⟨⟨reached, left⟩, supervised, equal⟩
      cases equal
      rcases supervise_spec supervised with
        ⟨child, directory, marker, starts, applies⟩
      exact ⟨child, directory, marker, starts, applies⟩
  | kill =>
      cases taken
      exact ⟨Or.inl rfl, rfl, rfl, rfl, rfl⟩

/-- After a failure no supervisor is about to spawn its child. -/
theorem failed_spawned (stage : SupervisorStage) :
    ¬ (stage.failed = .preparing ∨ stage.failed = .launching) := by
  cases stage <;> simp [SupervisorStage.failed]

omit [DecidableEq Pid] in
theorem supervise_orderly
    {invocation next : Invocation}
    (orderly : invocation.Orderly)
    (taken : supervise invocation world = some (next, changed)) :
    next.Orderly := by
  unfold supervise at taken
  split at taken <;> (try split_ifs at taken) <;> (try split at taken) <;>
    cases taken <;> simp_all [Invocation.Orderly]

omit [DecidableEq Pid] in
theorem supervisorStep_orderly
    {invocation next : Invocation} {event : Event}
    (orderly : invocation.Orderly)
    (taken : supervisorStep invocation world event = some (next, changed)) :
    next.Orderly := by
  simp only [supervisorStep] at taken
  split_ifs at taken with idle
  cases event with
  | proceed => exact supervise_orderly orderly taken
  | raise =>
      cases taken
      exact fun waiting => absurd waiting (failed_spawned _)
  | lose =>
      rcases Option.map_eq_some_iff.1 taken with
        ⟨⟨reached, left⟩, supervised, equal⟩
      cases equal
      exact fun waiting => absurd waiting (failed_spawned _)
  | kill =>
      cases taken
      simp [Invocation.Orderly]

/-- What a step of an invocation does to its child and to the world. -/
structure InvocationMove (pid : Pid) (invocation : Invocation)
    (world : World Pid) (next : Invocation) (changed : World Pid) : Prop where
  later : invocation.child.rank ≤ next.child.rank
  holds : next.child.holds = true →
    invocation.child.holds = true ∨ changed.directory = some pid
  orderly : next.Orderly
  directory :
    changed.directory = world.directory ∨
      world.directory = none ∧ changed.directory = some pid
  marker :
    changed.marker = world.marker ∨
      world.marker = none ∧ changed.marker = some pid
  starts :
    changed.starts = world.starts ∨
      invocation.child = .marked ∧ changed.starts = pid :: world.starts ∧
        ChildStage.marked.rank < next.child.rank
  applies :
    changed.applies = world.applies ∨
      invocation.child = .provisioned ∧
        changed.applies = pid :: world.applies ∧
        ChildStage.provisioned.rank < next.child.rank

theorem rank_le_ended (stage : ChildStage) :
    stage.rank ≤ ChildStage.ended.rank := by
  cases stage <;> exact of_decide_eq_true rfl

theorem invocationStep_spec
    {invocation next : Invocation} {action : Party × Event}
    (orderly : invocation.Orderly)
    (taken :
      invocationStep pid invocation world action = some (next, changed)) :
    InvocationMove pid invocation world next changed := by
  rcases action with ⟨party, event⟩
  cases party with
  | child =>
      rcases Option.map_eq_some_iff.1 taken with
        ⟨⟨stage, left⟩, stepped, equal⟩
      cases equal
      have move := childStep_spec stepped
      refine
        { later := le_of_lt move.later
          holds := move.holds
          orderly := ?_
          directory := move.effect.directory.imp_right And.right
          marker := move.effect.marker.imp_right And.right
          starts := ?_
          applies := ?_ }
      · intro waiting
        have absent := orderly waiting
        rw [absent] at stepped
        cases stepped
      · refine move.effect.starts.imp_right ?_
        rintro ⟨marked, starts⟩
        exact ⟨marked, starts, marked ▸ move.later⟩
      · refine move.effect.applies.imp_right ?_
        rintro ⟨provisioned, applies⟩
        exact ⟨provisioned, applies, provisioned ▸ move.later⟩
  | supervisor =>
      have move := supervisorStep_spec taken
      refine
        { later := ?_
          holds := ?_
          orderly := supervisorStep_orderly orderly taken
          directory := Or.inl move.directory
          marker := Or.inl move.marker
          starts := Or.inl move.starts
          applies := Or.inl move.applies }
      · rcases move.child with same | ended | ⟨launching, validating⟩
        · exact le_of_eq (congrArg ChildStage.rank same.symm)
        · rw [ended]
          exact rank_le_ended _
        · rw [orderly (Or.inr launching), validating]
          exact of_decide_eq_true rfl
      · intro holds
        rcases move.child with same | ended | ⟨_, validating⟩
        · exact Or.inl (same ▸ holds)
        · rw [ended] at holds
          cases holds
        · rw [validating] at holds
          cases holds

/-! ## At most one apply -/

variable {start before after : State Pid} {action : Pid × Party × Event}

/-- The child of an invocation. -/
def State.child (state : State Pid) (pid : Pid) : ChildStage :=
  (state.invocations pid).child

/--
An action is recorded at most once, for the creator of the run directory, and
its child is past the statement of that rank.
-/
def Once (record : List Pid) (rank : Nat) (state : State Pid) : Prop :=
  record.length ≤ 1 ∧
    ∀ pid ∈ record,
      state.world.directory = some pid ∧ rank < (state.child pid).rank

/-- The invariant of every run. -/
structure Exclusive (state : State Pid) : Prop where
  orderly : ∀ pid, (state.invocations pid).Orderly
  holds : ∀ pid, (state.child pid).holds = true →
    state.world.directory = some pid
  starts : Once state.world.starts ChildStage.marked.rank state
  applies : Once state.world.applies ChildStage.provisioned.rank state

omit [DecidableEq Pid] in
theorem Started.exclusive (started : Started start) : Exclusive start := by
  rcases started with ⟨starts, applies, idle⟩
  refine ⟨?_, ?_, ?_, ?_⟩
  · intro pid
    rcases idle pid with equal | equal <;> rw [equal] <;>
      simp [Invocation.Orderly]
  · intro pid holds
    rcases idle pid with equal | equal <;> rw [State.child, equal] at holds <;>
      cases holds
  · rw [starts]
    exact ⟨Nat.zero_le _, by simp⟩
  · rw [applies]
    exact ⟨Nat.zero_le _, by simp⟩

/-- What a step does to the state. -/
theorem step_moves
    (orderly : ∀ pid, (before.invocations pid).Orderly)
    (taken : step before action = some after) :
    ∃ next,
      InvocationMove action.1 (before.invocations action.1) before.world next
          after.world ∧
        after.invocations =
          Function.update before.invocations action.1 next := by
  rcases Option.map_eq_some_iff.1 taken with ⟨⟨next, world⟩, stepped, equal⟩
  cases equal
  exact ⟨next, invocationStep_spec (orderly _) stepped, rfl⟩

theorem child_rank_le
    (orderly : ∀ pid, (before.invocations pid).Orderly)
    (taken : step before action = some after) (other : Pid) :
    (before.child other).rank ≤ (after.child other).rank := by
  rcases step_moves orderly taken with ⟨next, move, invocations⟩
  rw [State.child, State.child, invocations]
  by_cases same : other = action.1
  · subst same
    rw [Function.update_self]
    exact move.later
  · rw [Function.update_of_ne same]

/-- A created directory keeps its creator. -/
theorem directory_stays
    (orderly : ∀ pid, (before.invocations pid).Orderly)
    (taken : step before action = some after)
    (created : before.world.directory = some other) :
    after.world.directory = some other := by
  rcases step_moves orderly taken with ⟨next, move, _⟩
  rcases move.directory with same | ⟨absent, _⟩
  · rw [same]
    exact created
  · rw [absent] at created
    cases created

theorem Once.keep {record : List Pid} {rank : Nat}
    (orderly : ∀ pid, (before.invocations pid).Orderly)
    (taken : step before action = some after)
    (once : Once record rank before) :
    Once record rank after := by
  refine ⟨once.1, ?_⟩
  intro pid recorded
  rcases once.2 pid recorded with ⟨created, past⟩
  exact
    ⟨directory_stays orderly taken created,
      lt_of_lt_of_le past (child_rank_le orderly taken pid)⟩

omit [DecidableEq Pid] in
/-- An action of a child before its statement was not recorded yet. -/
theorem Once.empty {record : List Pid} {rank : Nat}
    (once : Once record rank before)
    (created : before.world.directory = some pid)
    (current : rank = (before.child pid).rank) :
    record = [] := by
  cases record with
  | nil => rfl
  | cons first rest =>
      rcases once.2 first List.mem_cons_self with ⟨creator, past⟩
      rw [created] at creator
      cases creator
      rw [current] at past
      exact absurd past (lt_irrefl _)

theorem Once.add {record : List Pid} {rank : Nat}
    (orderly : ∀ pid, (before.invocations pid).Orderly)
    (taken : step before action = some after)
    (once : Once record rank before)
    (created : before.world.directory = some action.1)
    (current : rank = (before.child action.1).rank)
    (past : rank < (after.child action.1).rank) :
    Once (action.1 :: record) rank after := by
  rw [once.empty created current]
  refine ⟨le_of_eq rfl, ?_⟩
  intro pid recorded
  rw [List.mem_singleton] at recorded
  subst recorded
  exact ⟨directory_stays orderly taken created, past⟩

theorem Exclusive.step
    (exclusive : Exclusive before)
    (taken : step before action = some after) :
    Exclusive after := by
  rcases step_moves exclusive.orderly taken with ⟨next, move, invocations⟩
  have own : after.invocations action.1 = next := by
    rw [invocations, Function.update_self]
  have others (other : Pid) (different : other ≠ action.1) :
      after.invocations other = before.invocations other := by
    rw [invocations, Function.update_of_ne different]
  refine ⟨?_, ?_, ?_, ?_⟩
  · intro pid
    by_cases same : pid = action.1
    · subst same
      rw [own]
      exact move.orderly
    · rw [others pid same]
      exact exclusive.orderly pid
  · intro pid holds
    by_cases same : pid = action.1
    · subst same
      rw [State.child, own] at holds
      rcases move.holds holds with held | created
      · exact
          directory_stays exclusive.orderly taken
            (exclusive.holds action.1 held)
      · exact created
    · rw [State.child, others pid same] at holds
      exact
        directory_stays exclusive.orderly taken (exclusive.holds pid holds)
  · rcases move.starts with same | ⟨marked, starts, past⟩
    · rw [same]
      exact exclusive.starts.keep exclusive.orderly taken
    · rw [starts]
      refine
        exclusive.starts.add exclusive.orderly taken
          (exclusive.holds action.1 (by rw [State.child, marked]; rfl))
          (by rw [State.child, marked]) ?_
      rw [State.child, own]
      exact past
  · rcases move.applies with same | ⟨provisioned, applies, past⟩
    · rw [same]
      exact exclusive.applies.keep exclusive.orderly taken
    · rw [applies]
      refine
        exclusive.applies.add exclusive.orderly taken
          (exclusive.holds action.1 (by rw [State.child, provisioned]; rfl))
          (by rw [State.child, provisioned]) ?_
      rw [State.child, own]
      exact past

theorem exclusive_of_reaches
    (started : Started start) {state : State Pid}
    (run : Reaches step start state) :
    Exclusive state :=
  run.invariant Exclusive started.exclusive
    fun _ _ _ exclusive taken => exclusive.step taken

theorem eq_ended_of_rank {stage : ChildStage}
    (past : ChildStage.ended.rank ≤ stage.rank) :
    stage = .ended := by
  cases stage <;> first | rfl | exact absurd past (of_decide_eq_true rfl)

theorem ended_stays
    (orderly : ∀ pid, (before.invocations pid).Orderly)
    (taken : step before action = some after)
    (ended : before.child pid = .ended) :
    after.child pid = .ended := by
  have later := child_rank_le orderly taken pid
  rw [ended] at later
  exact eq_ended_of_rank later

/-- What is left by a run that has ended after creating the directory. -/
def Blocked (pid : Pid) (starts applies : List Pid) (state : State Pid) :
    Prop :=
  state.world.directory = some pid ∧ state.child pid = .ended ∧
    state.world.starts = starts ∧ state.world.applies = applies

theorem Blocked.step {starts applies : List Pid}
    (exclusive : Exclusive before)
    (blocked : Blocked pid starts applies before)
    (taken : step before action = some after) :
    Blocked pid starts applies after := by
  rcases blocked with ⟨created, ended, started, applied⟩
  rcases step_moves exclusive.orderly taken with ⟨next, move, _⟩
  have idle (stage : ChildStage)
      (current : before.child action.1 = stage)
      (holds : stage.holds = true) : False := by
    have creator := exclusive.holds action.1 (current ▸ holds)
    rw [created] at creator
    cases creator
    rw [ended] at current
    rw [← current] at holds
    cases holds
  refine
    ⟨directory_stays exclusive.orderly taken created,
      ended_stays exclusive.orderly taken ended, ?_, ?_⟩
  · rcases move.starts with same | ⟨marked, _⟩
    · rw [same, started]
    · exact (idle _ marked rfl).elim
  · rcases move.applies with same | ⟨provisioned, _⟩
    · rw [same, applied]
    · exact (idle _ provisioned rfl).elim

theorem blocked_of_reaches {starts applies : List Pid} {later : State Pid}
    (exclusive : Exclusive before)
    (blocked : Blocked pid starts applies before)
    (run : Reaches step before later) :
    Blocked pid starts applies later :=
  (run.invariant
    (fun state => Exclusive state ∧ Blocked pid starts applies state)
    ⟨exclusive, blocked⟩
    fun _ _ _ kept taken =>
      ⟨kept.1.step taken, kept.2.step kept.1 taken⟩).2

theorem directory_of_reaches {later : State Pid}
    (exclusive : Exclusive before)
    (created : before.world.directory = some pid)
    (run : Reaches step before later) :
    later.world.directory = some pid :=
  (run.invariant
    (fun state => Exclusive state ∧ state.world.directory = some pid)
    ⟨exclusive, created⟩
    fun _ _ _ kept taken =>
      ⟨kept.1.step taken,
        directory_stays kept.1.orderly taken kept.2⟩).2

/--
Over any run of any number of invocations the primary is started at most once
and the apply worker is launched at most once.  Once the run directory has a
creator, it keeps it, nobody else gets past the `mkdir`, starts or applies;
and once the creator has ended, nobody starts or applies any more.
-/
theorem primary_applied_at_most_once
    (started : Started start) :
    (∀ state, Reaches step start state →
      state.world.starts.length ≤ 1 ∧ state.world.applies.length ≤ 1) ∧
      ∀ state later pid, Reaches step start state →
        state.world.directory = some pid → Reaches step state later →
          later.world.directory = some pid ∧
            (∀ other, other ≠ pid →
              (later.child other).holds = false ∧
                other ∉ later.world.starts ∧ other ∉ later.world.applies) ∧
            (state.child pid = .ended →
              later.world.starts = state.world.starts ∧
                later.world.applies = state.world.applies) := by
  constructor
  · intro state run
    have exclusive := exclusive_of_reaches started run
    exact ⟨exclusive.starts.1, exclusive.applies.1⟩
  · intro state later pid run created rest
    have exclusive := exclusive_of_reaches started run
    have exclusiveLater := exclusive_of_reaches started (run.trans rest)
    have kept := directory_of_reaches exclusive created rest
    refine ⟨kept, ?_, ?_⟩
    · intro other different
      have foreign : later.world.directory ≠ some other := by
        rw [kept]
        exact fun equal => different (Option.some.inj equal).symm
      refine ⟨?_, ?_, ?_⟩
      · rw [← Bool.not_eq_true]
        exact fun holds => foreign (exclusiveLater.holds other holds)
      · intro recorded
        exact foreign (exclusiveLater.starts.2 other recorded).1
      · intro recorded
        exact foreign (exclusiveLater.applies.2 other recorded).1
    · intro ended
      exact
        (blocked_of_reaches exclusive ⟨created, ended, rfl, rfl⟩ rest).2.2

/-! ## What a supervisor may stop -/

/-- There is no marker, or the run that wrote it has ended. -/
def State.writerEnded (state : State Pid) : Bool :=
  match state.world.marker with
  | none => true
  | some writer => state.child writer = .ended

/-- A supervisor tests for the marker. -/
def testsMarker (state : State Pid) (action : Pid × Party × Event) : Bool :=
  action.2 = (.supervisor, .proceed) ∧
    (state.invocations action.1).supervisor = .testing

/-- A step at which no supervisor finds the marker of a run that goes on. -/
def settledStep (state : State Pid) (action : Pid × Party × Event) :
    Option (State Pid) :=
  if testsMarker state action && !state.writerEnded then none
  else step state action

/-- Whoever cleans up does so after the writer of the marker has ended. -/
def Settled (state : State Pid) : Prop :=
  ∀ pid, (state.invocations pid).supervisor.cleans = true →
    ∃ writer, state.world.marker = some writer ∧
      state.child writer = .ended

omit [DecidableEq Pid] in
/-- A supervisor starts to clean up only at the test for the marker. -/
theorem supervise_cleans {invocation next : Invocation}
    (taken : supervise invocation world = some (next, changed))
    (cleans : next.supervisor.cleans = true) :
    invocation.supervisor.cleans = true ∨
      invocation.supervisor = .testing ∧ world.marker ≠ none := by
  unfold supervise at taken
  split at taken <;> (try split_ifs at taken) <;> (try split at taken) <;>
    cases taken <;> simp_all [SupervisorStage.cleans]

theorem failed_cleans (stage : SupervisorStage) :
    stage.failed.cleans = false := by
  cases stage <;> rfl

theorem invocationStep_cleans
    {invocation next : Invocation} {event : Party × Event}
    (taken :
      invocationStep pid invocation world event = some (next, changed))
    (cleans : next.supervisor.cleans = true) :
    invocation.supervisor.cleans = true ∨
      event = (.supervisor, .proceed) ∧
        invocation.supervisor = .testing ∧ world.marker ≠ none := by
  rcases event with ⟨party, event⟩
  cases party with
  | child =>
      rcases Option.map_eq_some_iff.1 taken with ⟨_, _, equal⟩
      cases equal
      exact Or.inl cleans
  | supervisor =>
      simp only [invocationStep, supervisorStep] at taken
      split_ifs at taken with idle
      cases event with
      | proceed =>
          exact (supervise_cleans taken cleans).imp_right fun found =>
            ⟨rfl, found⟩
      | raise =>
          cases taken
          rw [failed_cleans] at cleans
          cases cleans
      | lose =>
          rcases Option.map_eq_some_iff.1 taken with ⟨_, _, equal⟩
          cases equal
          rw [failed_cleans] at cleans
          cases cleans
      | kill =>
          cases taken
          cases cleans

theorem Settled.step
    (exclusive : Exclusive before)
    (settled : Settled before)
    (taken : settledStep before action = some after) :
    Settled after := by
  simp only [settledStep] at taken
  split_ifs at taken with found
  rcases step_moves exclusive.orderly taken with ⟨next, move, invocations⟩
  have keeps (writer : Pid)
      (written : before.world.marker = some writer)
      (ended : before.child writer = .ended) :
      ∃ writer, after.world.marker = some writer ∧
        after.child writer = .ended := by
    refine ⟨writer, ?_, ended_stays exclusive.orderly taken ended⟩
    rcases move.marker with same | ⟨absent, _⟩
    · rw [same, written]
    · rw [absent] at written
      cases written
  intro pid cleans
  by_cases same : pid = action.1
  · subst same
    rcases Option.map_eq_some_iff.1 taken with ⟨⟨next, _⟩, stepped, equal⟩
    cases equal
    simp only [Function.update_self] at cleans
    rcases invocationStep_cleans stepped cleans with
      before' | ⟨event, testing, written⟩
    · rcases settled action.1 before' with ⟨writer, written, ended⟩
      exact keeps writer written ended
    · have tests : testsMarker before action = true :=
        decide_eq_true ⟨event, testing⟩
      rw [tests, Bool.true_and, Bool.not_eq_true', Bool.not_eq_false]
        at found
      cases marker : before.world.marker with
      | none => exact absurd marker written
      | some writer =>
          rw [State.writerEnded, marker] at found
          exact keeps writer marker (of_decide_eq_true found)
  · rw [invocations, Function.update_of_ne same] at cleans
    rcases settled pid cleans with ⟨writer, written, ended⟩
    exact keeps writer written ended

theorem step_of_settledStep
    (taken : settledStep before action = some after) :
    step before action = some after := by
  simp only [settledStep] at taken
  split_ifs at taken
  exact taken

theorem settled_of_reaches
    (started : Started start) {state : State Pid}
    (run : Reaches settledStep start state) :
    Settled state := by
  refine
    (run.invariant (fun state => Exclusive state ∧ Settled state)
      ⟨started.exclusive, ?_⟩ ?_).2
  · intro pid cleans
    rcases started.2.2 pid with equal | equal <;> rw [equal] at cleans <;>
      cases cleans
  · intro before action after kept taken
    exact
      ⟨kept.1.step (step_of_settledStep taken), kept.2.step kept.1 taken⟩

theorem cleans_of_disturbs {stage : SupervisorStage}
    (disturbs : stage.disturbs = true) :
    stage.cleans = true := by
  cases stage <;> first | rfl | cases disturbs

/-- The state with the supervisor of an invocation at a stage. -/
def State.supervisorAt (state : State Pid) (pid : Pid)
    (stage : SupervisorStage) : State Pid :=
  { state with
    invocations :=
      Function.update state.invocations pid ⟨stage, state.child pid⟩ }

theorem supervisorAt_self (state : State Pid) (pid : Pid)
    (stage : SupervisorStage) :
    (state.supervisorAt pid stage).invocations pid =
      ⟨stage, state.child pid⟩ :=
  Function.update_self ..

theorem child_supervisorAt (state : State Pid) (pid : Pid)
    (stage : SupervisorStage) :
    (state.supervisorAt pid stage).child = state.child := by
  funext other
  show (Function.update state.invocations pid _ other).child = _
  by_cases same : other = pid
  · subst same
    rw [Function.update_self]
  · rw [Function.update_of_ne same]
    rfl

/-- A supervisor that finds the marker goes on to stop the primary. -/
theorem stops_after_test {state : State Pid} {writer : Pid}
    (testing : (state.invocations pid).supervisor = .testing)
    (written : state.world.marker = some writer)
    (running : state.world.running = true) :
    Reaches step state (state.supervisorAt pid .stopping) := by
  have inspects :
      step state (pid, .supervisor, .proceed) =
        some (state.supervisorAt pid .inspecting) := by
    simp [step, invocationStep, supervisorStep, supervise, testing, written,
      State.supervisorAt, State.child]
  have stops :
      step (state.supervisorAt pid .inspecting)
          (pid, .supervisor, .proceed) =
        some (state.supervisorAt pid .stopping) := by
    simp [step, invocationStep, supervisorStep, supervise, running,
      State.supervisorAt, State.child]
  exact (Reaches.start.act _ inspects).act _ stops

/--
In every run in which no supervisor finds the marker of a run that goes on, a
supervisor is about to stop the primary or to remove a labelled container only
after the run that wrote the marker has ended.  Where a supervisor does find
the marker of a run that goes on, and the primary runs, it can go on to stop
it under that run.
-/
theorem supervisors_keep_apart
    (started : Started start) :
    (∀ state, Reaches settledStep start state →
      ∀ pid, (state.invocations pid).supervisor.disturbs = true →
        ∃ writer, state.world.marker = some writer ∧
          state.child writer = .ended) ∧
      ∀ state pid writer, Reaches step start state →
        (state.invocations pid).supervisor = .testing →
          state.world.marker = some writer →
            state.child writer ≠ .ended → state.world.running = true →
              ∃ later, Reaches step state later ∧
                (later.invocations pid).supervisor.disturbs = true ∧
                  later.world.marker = some writer ∧
                    later.child writer ≠ .ended := by
  constructor
  · intro state run pid disturbs
    exact settled_of_reaches started run pid (cleans_of_disturbs disturbs)
  · intro state pid writer _ testing written alive running
    refine ⟨_, stops_after_test testing written running, ?_, written, ?_⟩
    · rw [supervisorAt_self]
      rfl
    · rw [child_supervisorAt]
      exact alive

end

/-! ## Two supervised invocations -/

/-- Two supervised invocations for a clone directory that was never used. -/
def twoSupervised : State Bool where
  world :=
    { directory := none
      lease := none
      marker := none
      running := false
      labelled := []
      starts := []
      applies := [] }
  invocations := fun _ => ⟨.preparing, .absent⟩

theorem twoSupervised_started : Started twoSupervised :=
  ⟨rfl, rfl, fun _ => Or.inl rfl⟩

/-- The first invocation up to the launched apply worker. -/
def firstApplies : List (Bool × Party × Event) :=
  List.replicate 2 (true, .supervisor, .proceed) ++
    List.replicate 11 (true, .child, .proceed)

/-- The first child is killed and its supervisor comes to stop the primary. -/
def firstStops : List (Bool × Party × Event) :=
  (true, .child, .kill) :: List.replicate 4 (true, .supervisor, .proceed)

/-- The second invocation is refused by the run directory. -/
def secondTests : List (Bool × Party × Event) :=
  List.replicate 2 (false, .supervisor, .proceed) ++
    (false, .child, .proceed) ::
      List.replicate 4 (false, .supervisor, .proceed)

theorem supervisors_keep_apart_killed :
    ∃ state, Reaches settledStep twoSupervised state ∧
      (state.invocations true).supervisor = .stopping ∧
        ∃ writer, state.world.marker = some writer ∧
          state.child writer = .ended := by
  have run :
      perform settledStep twoSupervised (firstApplies ++ firstStops) =
        some _ :=
    rfl
  have reached := reaches_of_perform run
  exact
    ⟨_, reached, rfl,
      (supervisors_keep_apart twoSupervised_started).1 _ reached true rfl⟩

theorem refused_supervisor_stops_running_apply :
    ∃ before after, Reaches step twoSupervised before ∧
      (before.invocations false).supervisor = .stopping ∧
        before.world.marker = some true ∧ before.child true = .applying ∧
          step before (false, .supervisor, .proceed) = some after ∧
            before.world.running = true ∧ after.world.running = false := by
  have run :
      perform step twoSupervised (firstApplies ++ secondTests) = some _ :=
    rfl
  exact
    ⟨_, _, reaches_of_perform run, rfl, rfl, rfl, rfl, rfl, rfl⟩

theorem primary_applied_at_most_once_killed :
    ∃ state, Reaches step twoSupervised state ∧
      state.world.directory = some true ∧ state.child true = .ended ∧
        ∀ later, Reaches step state later →
          later.world.applies = [true] := by
  have run :
      perform step twoSupervised (firstApplies ++ firstStops) = some _ :=
    rfl
  have reached := reaches_of_perform run
  refine ⟨_, reached, rfl, rfl, ?_⟩
  intro later rest
  have applied := primary_applied_at_most_once twoSupervised_started
  exact ((applied.2 _ later true reached rfl rest).2.2 rfl).2

end KairosDeploy.Primary.Invocations
