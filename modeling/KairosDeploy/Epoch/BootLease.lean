import KairosDeploy.Library.Transition
import KairosDeploy.Library.Refusal
import KairosDeploy.Library.HexDigest

/-!
# The lease of the boot operator

`runtime_epoch_boot.main` with `--execute`: a process tests that `boot.active`
is absent, creates it exclusively, boots, reads its own bytes back and unlinks
the file.  Any statement may raise and any process may be killed between two
statements, so a lease file may be left with any prefix of its bytes.

Every generation has a root directory of its own and therefore a lease of its
own.  The invariant says that a process between the creation and the deletion
of its lease is the creator of the file that is there.
-/

namespace KairosDeploy.Epoch.BootLease

open KairosDeploy.Library.Transition
open KairosDeploy.Library.Refusal
open KairosDeploy.Library.HexDigest

/-! ## Generations and their leases -/

/-- The choices of `--generation`. -/
inductive Generation where
  | original
  | r2
  | r4
  | r5
  | r6
  | r7
  | r7dns
  | r7sql
deriving DecidableEq, Repr

/-- `ROOT` after the `configure_generation_…` of the generation. -/
def Generation.root : Generation → String
  | .original => "D:/Kairos/runtime/epoch-boot-20261011"
  | .r2 => "D:/Kairos/runtime/epoch-boot-r2-20261012"
  | .r4 => "D:/Kairos/runtime/epoch-boot-r4-20261012"
  | .r5 => "D:/Kairos/runtime/epoch-boot-r5-20261012"
  | .r6 => "D:/Kairos/runtime/epoch-boot-r6-20261012"
  | .r7 => "D:/Kairos/runtime/epoch-boot-r7-20261013"
  | .r7dns => "D:/Kairos/runtime/epoch-boot-r7dns-20261015"
  | .r7sql => "D:/Kairos/runtime/epoch-boot-r7sql-20261016"

/-- `LEASE`. -/
def Generation.lease (generation : Generation) : String :=
  generation.root ++ "/boot.active"

/-- `OWNER`. -/
def owner : String := "69893dc7b7c647f49967387e7efca9fb"

/-! ## Processes -/

/--
What one invocation is given, with the verdicts of the checks on files outside
the lease: that `--binding` is the bound file of the root, that its content is
valid, and that the checkout is the signed revision it names.
-/
structure Arguments where
  generation : Generation
  createBinding : Bool
  bootId : String
  windows : Bool
  bindingIsBound : Bool
  bindingIsValid : Bool
  sourceIsVerified : Bool
deriving DecidableEq, Repr

/-- `[0-9]{15,20}`. -/
def isBootId (text : String) : Bool :=
  15 ≤ text.length && text.length ≤ 20 && text.toList.all Char.isDigit

/-- The checks of `main --execute` before it looks at the lease. -/
def admission (arguments : Arguments) : Except String Unit := do
  refuseIf (arguments.createBinding = true) "BOOT_ACTIONS_ARE_EXCLUSIVE"
  refuseIf (arguments.windows = false ∨ isBootId arguments.bootId = false)
    "WINDOWS_BOOT_ID_REQUIRED"
  refuseIf (arguments.bindingIsBound = false)
    "HASH_BOUND_LOCAL_BOOT_PLAN_REQUIRED"
  refuseIf (arguments.bindingIsValid = false)
    "EXACT_SINGLE_NONTRADING_BOOT_BINDING_REQUIRED"
  refuseIf (arguments.sourceIsVerified = false)
    "BOOT_REQUIRES_CLEAN_EXACT_SIGNED_MAIN"

/-- Where `main` stands. -/
inductive Stage where
  /-- Before the checks of the arguments. -/
  | starting
  /-- Before `LEASE.exists()`. -/
  | admitted
  /-- `LEASE.exists()` was false. -/
  | vacant
  /-- The run directory exists and `lease_bytes` are computed. -/
  | prepared
  /-- `LEASE` is open in mode `xb` with these bytes still to write. -/
  | writing (remaining : List UInt8)
  /-- `fresh.write` returned. -/
  | leased
  /-- Inside `run_boot`. -/
  | booting
  /-- `run_boot` returned. -/
  | booted
  /-- The receipt is saved. -/
  | saved
  /-- `LEASE` held the process's own bytes when it was read back. -/
  | confirmed
  /-- `LEASE.unlink()` returned. -/
  | released
  /-- In the `except` branch. -/
  | failing
  | ended (code : Nat)
  | killed
deriving DecidableEq, Repr

/-- Between the creation and the deletion of the lease. -/
def Stage.holds : Stage → Bool
  | .writing _ | .leased | .booting | .booted | .saved | .confirmed => true
  | _ => false

/-- After a failure or a kill. -/
def Stage.isOver : Stage → Bool
  | .failing | .ended _ | .killed => true
  | _ => false

/-- `returned` says that `run_boot` has returned. -/
structure Process where
  arguments : Arguments
  run : String
  stage : Stage
  returned : Bool
deriving DecidableEq, Repr

/-- The path that a process uses for its lease. -/
def Process.lease (process : Process) : String :=
  process.arguments.generation.lease

/-- `lease_bytes`: the sorted members as JSON text and a newline. -/
def Process.leaseBytes (process : Process) : List UInt8 :=
  utf8
    ("\x7b\"boot_id\": \"" ++ process.arguments.bootId ++
      "\", \"owner\": \"" ++ owner ++ "\", \"run\": \"" ++ process.run ++
      "\"\x7d\n")

/-- The process goes on to a stage. -/
def Process.enter (process : Process) (stage : Stage) : Process :=
  { process with stage := stage }

/-! ## Steps -/

/-- A lease file.  No creator means that it was there before. -/
structure LeaseFile (Pid : Type) where
  creator : Option Pid
  content : List UInt8
deriving DecidableEq, Repr

/-- Bytes reach the file. -/
def LeaseFile.append {Pid : Type} (bytes : List UInt8)
    (file : LeaseFile Pid) : LeaseFile Pid :=
  { file with content := file.content ++ bytes }

/-- What can happen to a process at a statement. -/
inductive Event where
  /-- The statement is carried out. -/
  | proceed
  /-- Some of the bytes of `stream.write` reach the file. -/
  | write (count : Nat)
  /-- The statement raises and has no effect. -/
  | raise
  | kill
deriving DecidableEq, Repr

section

variable {Pid : Type}

/-- The next statement of `main`, given the file at the lease path. -/
def proceed (pid : Pid) (process : Process) (file : Option (LeaseFile Pid)) :
    Option (Process × Option (LeaseFile Pid)) :=
  match process.stage with
  | .starting =>
      match admission process.arguments with
      | .ok _ => some (process.enter .admitted, file)
      | .error _ => some (process.enter .failing, file)
  | .admitted =>
      -- BOOT_ACTIVE_OR_FAILED_LATCH_REQUIRES_OPERATOR
      match file with
      | some _ => some (process.enter .failing, file)
      | none => some (process.enter .vacant, file)
  | .vacant => some (process.enter .prepared, file)
  | .prepared =>
      -- Mode `xb` creates the file or raises FileExistsError.
      match file with
      | some _ => some (process.enter .failing, file)
      | none =>
          some
            (process.enter (.writing process.leaseBytes),
              some ⟨some pid, []⟩)
  | .writing remaining =>
      some (process.enter .leased, file.map (LeaseFile.append remaining))
  | .leased => some (process.enter .booting, file)
  | .booting =>
      some ({ process with stage := .booted, returned := true }, file)
  | .booted => some (process.enter .saved, file)
  | .saved =>
      -- BOOT_OWNER_LEASE_CHANGED, or the file cannot be read.
      match file with
      | some lease =>
          if lease.content = process.leaseBytes then
            some (process.enter .confirmed, file)
          else
            some (process.enter .failing, file)
      | none => some (process.enter .failing, file)
  | .confirmed =>
      match file with
      | some _ => some (process.enter .released, none)
      | none => some (process.enter .failing, file)
  | .released => some (process.enter (.ended 0), file)
  | .failing => some (process.enter (.ended 1), file)
  | .ended _ | .killed => none

/-- What an event does to a process and to the file at its lease path. -/
def happen (pid : Pid) (process : Process) (file : Option (LeaseFile Pid)) :
    Event → Option (Process × Option (LeaseFile Pid))
  | .proceed => proceed pid process file
  | .write count =>
      match process.stage with
      | .writing remaining =>
          some
            (process.enter (.writing (remaining.drop count)),
              file.map (LeaseFile.append (remaining.take count)))
      | _ => none
  | .raise =>
      match process.stage with
      | .ended _ | .killed => none
      | .failing => some (process.enter (.ended 1), file)
      | _ => some (process.enter .failing, file)
  | .kill =>
      match process.stage with
      | .ended _ | .killed => none
      | _ => some (process.enter .killed, file)

/-- The lease files by path and the processes. -/
structure State (Pid : Type) where
  files : String → Option (LeaseFile Pid)
  processes : Pid → Process

/-- The file at the lease path of a process. -/
def State.leaseOf (state : State Pid) (pid : Pid) :
    Option (LeaseFile Pid) :=
  state.files (state.processes pid).lease

/-- The creator of a file is not between its creation and its deletion. -/
def State.abandoned (state : State Pid) (file : LeaseFile Pid) : Bool :=
  match file.creator with
  | none => true
  | some pid => !(state.processes pid).stage.holds

variable [DecidableEq Pid]

/-- A step of one process. -/
def processStep (state : State Pid) (action : Pid × Event) :
    Option (State Pid) :=
  let process := state.processes action.1
  (happen action.1 process (state.leaseOf action.1) action.2).map
    fun (next, file) =>
      { files := Function.update state.files process.lease file
        processes := Function.update state.processes action.1 next }

/-- A step of a process, or someone else removes a lease. -/
inductive Action (Pid : Type) where
  | process (pid : Pid) (event : Event)
  | foreignRemove (path : String)

/--
Someone else removes a lease only while the process that created it is not
between creation and deletion.
-/
def step (state : State Pid) : Action Pid → Option (State Pid)
  | .process pid event => processStep state (pid, event)
  | .foreignRemove path =>
      match state.files path with
      | some file =>
          if state.abandoned file then
            some { state with files := Function.update state.files path none }
          else
            none
      | none => none

end

/-! ## What one process does to its lease -/

section

variable {Pid : Type} {pid : Pid} {process next : Process}
  {file left : Option (LeaseFile Pid)} {event : Event}

/-- What a process at a stage knows about the file at its lease path. -/
def Knows (pid : Pid) (process : Process) (file : Option (LeaseFile Pid)) :
    Prop :=
  match process.stage with
  | .writing rest =>
      ∃ content, file = some ⟨some pid, content⟩ ∧
        content ++ rest = process.leaseBytes
  | .leased | .booting => file = some ⟨some pid, process.leaseBytes⟩
  | .booted | .saved | .confirmed =>
      file = some ⟨some pid, process.leaseBytes⟩ ∧ process.returned = true
  | _ => True

/-- A process between creation and deletion is the creator of the file. -/
theorem Knows.created
    (knows : Knows pid process file) (holds : process.stage.holds = true) :
    ∃ content, file = some ⟨some pid, content⟩ := by
  unfold Knows at knows
  split at knows
  · exact knows.imp fun _ => And.left
  · exact ⟨_, knows⟩
  · exact ⟨_, knows⟩
  · exact ⟨_, knows.1⟩
  · exact ⟨_, knows.1⟩
  · exact ⟨_, knows.1⟩
  · cases stage : process.stage <;> simp_all [Stage.holds]

theorem knows_of_not_holds
    (idle : process.stage.holds = false) :
    Knows pid process file := by
  unfold Knows
  split
  · simp_all [Stage.holds]
  · simp_all [Stage.holds]
  · simp_all [Stage.holds]
  · simp_all [Stage.holds]
  · simp_all [Stage.holds]
  · simp_all [Stage.holds]
  · trivial

/-- The moves of a process, by what they mean for its lease. -/
inductive Moves (pid : Pid) (process : Process) :
    Option (LeaseFile Pid) → Process → Option (LeaseFile Pid) → Prop where
  /-- To a stage that holds no lease. -/
  | leaves (present) (stage : Stage)
      (idle : stage.holds = false)
      (final : process.stage.isOver = true → stage.isOver = true) :
      Moves pid process present (process.enter stage) present
  | creates (prepared : process.stage = .prepared) :
      Moves pid process none (process.enter (.writing process.leaseBytes))
        (some ⟨some pid, []⟩)
  | writes (present) (remaining : List UInt8) (count : Nat)
      (writing : process.stage = .writing remaining) :
      Moves pid process present
        (process.enter (.writing (remaining.drop count)))
        (present.map (LeaseFile.append (remaining.take count)))
  | closes (present) (remaining : List UInt8)
      (writing : process.stage = .writing remaining) :
      Moves pid process present (process.enter .leased)
        (present.map (LeaseFile.append remaining))
  | boots (present) (leased : process.stage = .leased) :
      Moves pid process present (process.enter .booting) present
  | returns (present) (booting : process.stage = .booting) :
      Moves pid process present
        { process with stage := .booted, returned := true } present
  | saves (present) (booted : process.stage = .booted) :
      Moves pid process present (process.enter .saved) present
  | confirms (present) (saved : process.stage = .saved) :
      Moves pid process present (process.enter .confirmed) present
  | unlinks (present) (confirmed : process.stage = .confirmed) :
      Moves pid process present (process.enter .released) none

theorem proceed_moves
    (proceeded : proceed pid process file = some (next, left)) :
    Moves pid process file next left := by
  unfold proceed at proceeded
  split at proceeded
  case h_1 stage =>
    split at proceeded <;> cases proceeded <;>
      exact .leaves _ _ rfl (by simp [stage, Stage.isOver])
  case h_2 stage =>
    split at proceeded <;> cases proceeded <;>
      exact .leaves _ _ rfl (by simp [stage, Stage.isOver])
  case h_3 stage =>
    cases proceeded
    exact .leaves _ _ rfl (by simp [stage, Stage.isOver])
  case h_4 stage =>
    split at proceeded <;> cases proceeded
    · exact .leaves _ _ rfl (by simp [stage, Stage.isOver])
    · exact .creates stage
  case h_5 remaining stage =>
    cases proceeded
    exact .closes _ remaining stage
  case h_6 stage =>
    cases proceeded
    exact .boots _ stage
  case h_7 stage =>
    cases proceeded
    exact .returns _ stage
  case h_8 stage =>
    cases proceeded
    exact .saves _ stage
  case h_9 stage =>
    split at proceeded
    · split at proceeded <;> cases proceeded
      · exact .confirms _ stage
      · exact .leaves _ _ rfl (by simp [stage, Stage.isOver])
    · cases proceeded
      exact .leaves _ _ rfl (by simp [stage, Stage.isOver])
  case h_10 stage =>
    split at proceeded <;> cases proceeded
    · exact .unlinks _ stage
    · exact .leaves _ _ rfl (by simp [stage, Stage.isOver])
  case h_11 stage =>
    cases proceeded
    exact .leaves _ _ rfl fun _ => rfl
  case h_12 stage =>
    cases proceeded
    exact .leaves _ _ rfl fun _ => rfl
  case h_13 => cases proceeded
  case h_14 => cases proceeded

theorem happen_moves
    (happened : happen pid process file event = some (next, left)) :
    Moves pid process file next left := by
  cases event with
  | proceed => exact proceed_moves happened
  | write count =>
      simp only [happen] at happened
      split at happened
      · next remaining writing =>
          cases happened
          exact .writes _ remaining count writing
      · cases happened
  | raise =>
      simp only [happen] at happened
      split at happened <;> cases happened <;>
        exact .leaves _ _ rfl fun _ => rfl
  | kill =>
      simp only [happen] at happened
      split at happened <;> cases happened
      exact .leaves _ _ rfl fun _ => rfl

namespace Moves

/-- A process never changes the path or the bytes of its lease. -/
theorem keeps_lease (moves : Moves pid process file next left) :
    next.lease = process.lease ∧ next.leaseBytes = process.leaseBytes := by
  cases moves <;> exact ⟨rfl, rfl⟩

theorem knows
    (moves : Moves pid process file next left)
    (before : Knows pid process file) :
    Knows pid next left := by
  cases moves with
  | leaves _ stage idle _ => exact knows_of_not_holds idle
  | creates => exact ⟨[], rfl, rfl⟩
  | writes _ remaining count writing =>
      unfold Knows at before
      rw [writing] at before
      rcases before with ⟨content, rfl, whole⟩
      refine ⟨content ++ remaining.take count, rfl, ?_⟩
      rw [List.append_assoc, List.take_append_drop]
      exact whole
  | closes _ remaining writing =>
      unfold Knows at before
      rw [writing] at before
      rcases before with ⟨content, rfl, whole⟩
      show some _ = some _
      rw [LeaseFile.append, whole]
      rfl
  | boots _ leased =>
      unfold Knows at before
      rw [leased] at before
      exact before
  | returns _ booting =>
      unfold Knows at before
      rw [booting] at before
      exact ⟨before, rfl⟩
  | saves _ booted =>
      unfold Knows at before
      rw [booted] at before
      exact before
  | confirms _ saved =>
      unfold Knows at before
      rw [saved] at before
      exact before
  | unlinks => trivial

/-- Only a process that creates or holds a lease touches it. -/
theorem keeps_file (moves : Moves pid process file next left) :
    left = file ∨ file = none ∨ process.stage.holds = true := by
  cases moves with
  | leaves => exact Or.inl rfl
  | creates => exact Or.inr (Or.inl rfl)
  | writes _ _ _ writing => exact Or.inr (Or.inr (by rw [writing]; rfl))
  | closes _ _ writing => exact Or.inr (Or.inr (by rw [writing]; rfl))
  | boots => exact Or.inl rfl
  | returns => exact Or.inl rfl
  | saves => exact Or.inl rfl
  | confirms => exact Or.inl rfl
  | unlinks _ confirmed => exact Or.inr (Or.inr (by rw [confirmed]; rfl))

/-- Only the unlink removes a file. -/
theorem confirmed_of_removed
    (moves : Moves pid process file next left)
    (present : file.isSome = true) (removed : left = none) :
    process.stage = .confirmed := by
  cases moves with
  | unlinks _ confirmed => exact confirmed
  | creates => cases present
  | _ => simp_all

/-- A step that ends a process with a lease does not touch the file. -/
theorem keeps_file_of_isOver
    (moves : Moves pid process file next left)
    (holds : process.stage.holds = true)
    (finished : next.stage.isOver = true) :
    left = file := by
  cases moves with
  | leaves => rfl
  | creates prepared =>
      rw [prepared] at holds
      cases holds
  | _ => simp_all [Process.enter, Stage.isOver]

/-- A process that has failed or was killed runs no further. -/
theorem isOver
    (moves : Moves pid process file next left)
    (finished : process.stage.isOver = true) :
    next.stage.isOver = true := by
  cases moves with
  | leaves _ _ _ final => exact final finished
  | _ => simp_all [Stage.isOver]

end Moves

end

/-! ## Runs -/

section

variable {Pid : Type} [DecidableEq Pid] {start before after : State Pid}
  {action : Pid × Event} {pid other : Pid} {path : String}

/-- Every process knows what its stage says about its lease. -/
def Consistent (state : State Pid) : Prop :=
  ∀ pid, Knows pid (state.processes pid) (state.leaseOf pid)

omit [DecidableEq Pid] in
/-- Whoever holds a lease is the creator of the file at its path. -/
theorem Consistent.created
    (consistent : Consistent before)
    (holds : (before.processes pid).stage.holds = true) :
    ∃ content,
      before.files (before.processes pid).lease =
        some ⟨some pid, content⟩ :=
  (consistent pid).created holds

omit [DecidableEq Pid] in
theorem Consistent.unique
    (consistent : Consistent before)
    (holds : (before.processes pid).stage.holds = true)
    (otherHolds : (before.processes other).stage.holds = true)
    (same : (before.processes other).lease = (before.processes pid).lease) :
    other = pid := by
  rcases consistent.created holds with ⟨content, file⟩
  rcases consistent.created otherHolds with ⟨otherContent, otherFile⟩
  rw [same, file] at otherFile
  cases otherFile
  rfl

/-- What a step of a process does to the state. -/
theorem processStep_moves
    (taken : processStep before action = some after) :
    ∃ next left,
      Moves action.1 (before.processes action.1) (before.leaseOf action.1)
          next left ∧
        after.files =
          Function.update before.files (before.processes action.1).lease
            left ∧
        after.processes = Function.update before.processes action.1 next := by
  rcases Option.map_eq_some_iff.1 taken with ⟨⟨next, left⟩, happened, rfl⟩
  exact ⟨next, left, happen_moves happened, rfl, rfl⟩

theorem processStep_process
    (taken : processStep before action = some after)
    (different : other ≠ action.1) :
    after.processes other = before.processes other := by
  rcases processStep_moves taken with ⟨next, _, _, _, processes⟩
  rw [processes, Function.update_of_ne different]

/-- A file that its process neither creates nor holds stays as it is. -/
theorem processStep_file
    (consistent : Consistent before)
    (taken : processStep before action = some after)
    {file : LeaseFile Pid}
    (present : before.files path = some file)
    (foreign :
      (before.processes action.1).stage.holds = true →
        file.creator ≠ some action.1) :
    after.files path = some file := by
  rcases processStep_moves taken with ⟨next, left, moves, files, _⟩
  rw [files]
  by_cases same : path = (before.processes action.1).lease
  · subst same
    rw [Function.update_self]
    rcases moves.keeps_file with unchanged | absent | holds
    · rw [unchanged]
      exact present
    · rw [State.leaseOf, present] at absent
      cases absent
    · rcases consistent.created holds with ⟨content, own⟩
      rw [present] at own
      cases own
      exact absurd rfl (foreign holds)
  · rw [Function.update_of_ne same]
    exact present

theorem Consistent.processStep
    (consistent : Consistent before)
    (taken : processStep before action = some after) :
    Consistent after := by
  intro other
  by_cases same : other = action.1
  · subst same
    rcases processStep_moves taken with ⟨next, left, moves, files, processes⟩
    have known := moves.knows (consistent action.1)
    rw [State.leaseOf, files, processes, Function.update_self,
      moves.keeps_lease.1, Function.update_self]
    exact known
  · have unchanged := processStep_process taken same
    rw [State.leaseOf, unchanged]
    cases holds : (before.processes other).stage.holds with
    | false => exact knows_of_not_holds holds
    | true =>
        have known := consistent other
        rcases known.created holds with ⟨content, present⟩
        rw [present] at known
        rw [processStep_file consistent taken present fun _ equal =>
          same (Option.some.inj equal)]
        exact known

theorem Consistent.foreignRemove
    (consistent : Consistent before)
    (taken : step before (.foreignRemove path) = some after) :
    Consistent after := by
  simp only [step] at taken
  split at taken
  · next file present =>
      split_ifs at taken with abandoned
      cases taken
      intro other
      cases holds : (before.processes other).stage.holds with
      | false => exact knows_of_not_holds holds
      | true =>
          have known := consistent other
          rcases known.created holds with ⟨content, own⟩
          have distinct : (before.processes other).lease ≠ path := by
            intro equal
            rw [State.leaseOf, equal, present] at own
            cases own
            have idle : (!(before.processes other).stage.holds) = true :=
              abandoned
            rw [holds] at idle
            cases idle
          show Knows other (before.processes other)
            (Function.update before.files path none
              (before.processes other).lease)
          rw [Function.update_of_ne distinct]
          exact known
  · cases taken

/-- Before anything has happened. -/
def Started (state : State Pid) : Prop :=
  ∀ pid, (state.processes pid).stage = .starting

omit [DecidableEq Pid] in
theorem Started.consistent (started : Started start) : Consistent start :=
  fun pid => knows_of_not_holds (by rw [started pid]; rfl)

theorem consistent_of_reaches
    (started : Started start) {state : State Pid}
    (run : Reaches step start state) :
    Consistent state := by
  refine run.invariant Consistent started.consistent ?_
  intro before action after consistent taken
  cases action with
  | process pid event => exact consistent.processStep taken
  | foreignRemove path => exact consistent.foreignRemove taken

/-- Any step but the removal of this lease by someone else. -/
def stepKeeping (path : String) (state : State Pid) :
    Action Pid → Option (State Pid)
  | .process pid event => step state (.process pid event)
  | .foreignRemove removed =>
      if removed = path then none else step state (.foreignRemove removed)

/-- The lease at a path was left by a process that has failed or was killed. -/
def Latched (path : String) (file : LeaseFile Pid) (state : State Pid) :
    Prop :=
  state.files path = some file ∧
    ∃ pid, file.creator = some pid ∧
      (state.processes pid).stage.isOver = true

theorem not_holds_of_isOver {stage : Stage} (finished : stage.isOver = true) :
    stage.holds = false := by
  cases stage <;> first | rfl | cases finished

theorem Latched.processStep
    {file : LeaseFile Pid}
    (consistent : Consistent before)
    (latched : Latched path file before)
    (taken : processStep before action = some after) :
    Latched path file after := by
  rcases latched with ⟨present, creator, created, finished⟩
  refine ⟨?_, creator, created, ?_⟩
  · refine processStep_file consistent taken present ?_
    intro holds own
    rw [created] at own
    cases own
    rw [not_holds_of_isOver finished] at holds
    cases holds
  · by_cases same : creator = action.1
    · subst same
      rcases processStep_moves taken with ⟨next, _, moves, _, processes⟩
      rw [processes, Function.update_self]
      exact moves.isOver finished
    · rw [processStep_process taken same]
      exact finished

theorem Latched.stepKeeping
    {file : LeaseFile Pid} {removal : Action Pid}
    (consistent : Consistent before)
    (latched : Latched path file before)
    (taken : stepKeeping path before removal = some after) :
    Latched path file after ∧ Consistent after := by
  cases removal with
  | process pid event =>
      exact
        ⟨latched.processStep consistent taken,
          consistent.processStep taken⟩
  | foreignRemove removed =>
      simp only [BootLease.stepKeeping] at taken
      split_ifs at taken with distinct
      refine ⟨?_, consistent.foreignRemove taken⟩
      simp only [step] at taken
      split at taken
      · split_ifs at taken
        cases taken
        refine ⟨?_, latched.2⟩
        show Function.update before.files removed none path = some file
        rw [Function.update_of_ne (Ne.symm distinct)]
        exact latched.1
      · cases taken

omit [DecidableEq Pid] in
/-- While a lease is latched, no process that uses it is inside `run_boot`. -/
theorem Latched.not_booting
    {file : LeaseFile Pid}
    (consistent : Consistent before)
    (latched : Latched path file before)
    (uses : (before.processes other).lease = path) :
    (before.processes other).stage ≠ .booting := by
  rcases latched with ⟨present, creator, created, finished⟩
  intro booting
  have holds : (before.processes other).stage.holds = true := by
    rw [booting]
    rfl
  rcases consistent.created holds with ⟨content, own⟩
  rw [uses, present] at own
  cases own
  cases created
  rw [booting] at finished
  cases finished

theorem latched_of_reaches
    {file : LeaseFile Pid} {later : State Pid}
    (consistent : Consistent before)
    (latched : Latched path file before)
    (run : Reaches (stepKeeping path) before later) :
    Latched path file later ∧ Consistent later :=
  run.invariant (fun state => Latched path file state ∧ Consistent state)
    ⟨latched, consistent⟩
    fun _ _ _ kept taken => kept.1.stepKeeping kept.2 taken

/-- A step that ends a process that holds a lease leaves the lease latched. -/
theorem latched_of_failure
    (consistent : Consistent before)
    (taken : processStep before (pid, event) = some after)
    (holds : (before.processes pid).stage.holds = true)
    (finished : (after.processes pid).stage.isOver = true) :
    ∃ file, Latched (before.processes pid).lease file after := by
  rcases processStep_moves taken with ⟨next, left, moves, files, processes⟩
  rcases consistent.created holds with ⟨content, present⟩
  have stage : next.stage.isOver = true := by
    rw [processes, Function.update_self] at finished
    exact finished
  refine ⟨⟨some pid, content⟩, ?_, pid, rfl, finished⟩
  rw [files, Function.update_self, moves.keeps_file_of_isOver holds stage]
  exact present

/--
Processes of one lease exclude each other from `run_boot`.  A process that
fails or is killed between the creation and the deletion of `boot.active`
leaves it behind, and until someone else removes it no process that uses it is
inside `run_boot`.  A step of a process removes a lease only where the
process's `run_boot` has returned and its own bytes are in the file.
-/
theorem bootLease_exclusive
    (started : Started start) :
    (∀ state, Reaches step start state →
      ∀ first second : Pid,
        (state.processes first).stage = .booting →
          (state.processes second).stage = .booting →
            (state.processes first).lease = (state.processes second).lease →
              first = second) ∧
      (∀ held failed later pid event,
        Reaches step start held →
          (held.processes pid).stage.holds = true →
            processStep held (pid, event) = some failed →
              (failed.processes pid).stage.isOver = true →
                Reaches (stepKeeping (held.processes pid).lease) failed
                  later →
                  (later.files (held.processes pid).lease).isSome = true ∧
                    ∀ other,
                      (later.processes other).lease =
                          (held.processes pid).lease →
                        (later.processes other).stage ≠ .booting) ∧
      ∀ before after pid event path file,
        Reaches step start before →
          processStep before (pid, event) = some after →
            before.files path = some file → after.files path = none →
              path = (before.processes pid).lease ∧
                (before.processes pid).stage = .confirmed ∧
                (before.processes pid).returned = true ∧
                file = ⟨some pid, (before.processes pid).leaseBytes⟩ := by
  refine ⟨?_, ?_, ?_⟩
  · intro state run first second firstBoots secondBoots same
    have consistent := consistent_of_reaches started run
    exact
      consistent.unique (by rw [secondBoots]; rfl) (by rw [firstBoots]; rfl)
        same
  · intro held failed later pid event run holds taken finished rest
    have consistent := consistent_of_reaches started run
    rcases latched_of_failure consistent taken holds finished with
      ⟨file, latched⟩
    rcases latched_of_reaches (consistent.processStep taken) latched rest with
      ⟨still, consistentLater⟩
    refine ⟨by rw [still.1]; rfl, ?_⟩
    intro other uses
    exact still.not_booting consistentLater uses
  · intro before after pid event path file run taken present removed
    have consistent := consistent_of_reaches started run
    rcases processStep_moves taken with ⟨next, left, moves, files, _⟩
    have own : path = (before.processes pid).lease := by
      by_contra distinct
      rw [files, Function.update_of_ne distinct, present] at removed
      cases removed
    subst own
    rw [files, Function.update_self] at removed
    have confirmed :=
      moves.confirmed_of_removed
        (by rw [State.leaseOf, present]; rfl) removed
    have known := consistent pid
    unfold Knows at known
    rw [confirmed] at known
    rw [State.leaseOf, present] at known
    exact ⟨rfl, confirmed, known.2, Option.some.inj known.1⟩

/-- The state with a given process and a given file. -/
def State.set
    (state : State Pid) (pid : Pid) (path : String)
    (view : Process × Option (LeaseFile Pid)) :
    State Pid where
  files := Function.update state.files path view.2
  processes := Function.update state.processes pid view.1

theorem set_files_self
    (state : State Pid) (pid : Pid) (path : String)
    (view : Process × Option (LeaseFile Pid)) :
    (state.set pid path view).files path = view.2 :=
  Function.update_self ..

theorem set_files_of_ne
    (state : State Pid) (pid : Pid) {path different : String}
    (view : Process × Option (LeaseFile Pid))
    (distinct : different ≠ path) :
    (state.set pid path view).files different = state.files different :=
  Function.update_of_ne distinct ..

theorem set_processes_self
    (state : State Pid) (pid : Pid) (path : String)
    (view : Process × Option (LeaseFile Pid)) :
    (state.set pid path view).processes pid = view.1 :=
  Function.update_self ..

theorem set_processes_of_ne
    (state : State Pid) (path : String)
    (view : Process × Option (LeaseFile Pid))
    (different : other ≠ pid) :
    (state.set pid path view).processes other = state.processes other :=
  Function.update_of_ne different ..

/-- The events of one process on itself and on the file at its lease path. -/
def localStep (pid : Pid) (view : Process × Option (LeaseFile Pid))
    (event : Event) : Option (Process × Option (LeaseFile Pid)) :=
  happen pid view.1 view.2 event

theorem reaches_step {state : State Pid}
    (run : Reaches processStep before state) :
    Reaches step before state :=
  run.simulates id fun _ action _ taken =>
    Reaches.start.act (.process action.1 action.2) taken

theorem reaches_stepKeeping {state : State Pid} (path : String)
    (run : Reaches processStep before state) :
    Reaches (stepKeeping path) before state :=
  run.simulates id fun _ action _ taken =>
    Reaches.start.act (.process action.1 action.2) taken

/-- A run of one process is a run of the system. -/
theorem reaches_of_local
    {state : State Pid} {process : Process}
    {file : Option (LeaseFile Pid)}
    {reached : Process × Option (LeaseFile Pid)}
    (current : state.processes pid = process)
    (present : state.files process.lease = file)
    (run : Reaches (localStep pid) (process, file) reached) :
    Reaches processStep state (state.set pid process.lease reached) ∧
      reached.1.lease = process.lease := by
  induction run with
  | start =>
      refine ⟨?_, rfl⟩
      have unchanged :
          state.set pid process.lease (process, file) = state := by
        rw [State.set, ← present, Function.update_eq_self, ← current,
          Function.update_eq_self]
      rw [unchanged]
      exact .start
  | @step between reached event _ taken induction =>
      rcases induction with ⟨run, path⟩
      refine ⟨run.act (pid, event) ?_, ?_⟩
      · simp only [processStep, State.leaseOf, State.set,
          Function.update_self, path]
        have happened : happen pid between.1 between.2 event = some reached :=
          taken
        rw [happened]
        simp only [Option.map_some, Function.update_idem]
      · rw [(happen_moves taken).keeps_lease.1, path]

end

/-- An admitted invocation for a generation. -/
def admittedProcess (generation : Generation) (run : String) : Process where
  arguments :=
    { generation := generation
      createBinding := false
      bootId := "638957743065000000"
      windows := true
      bindingIsBound := true
      bindingIsValid := true
      sourceIsVerified := true }
  run := run
  stage := .starting
  returned := false

/-- Two admitted invocations and no lease file. -/
def twoProcesses (first second : Generation) : State Bool where
  files := fun _ => none
  processes
    | true => admittedProcess first "a"
    | false => admittedProcess second "b"

theorem admittedProcess_boots (pid : Bool) (generation : Generation)
    (run : String) :
    Reaches (localStep pid) (admittedProcess generation run, none)
      ((admittedProcess generation run).enter .booting,
        some ⟨some pid, (admittedProcess generation run).leaseBytes⟩) := by
  have accepted :
      localStep pid (admittedProcess generation run, none) .proceed =
        some ((admittedProcess generation run).enter .admitted, none) := by
    have wellFormed : isBootId "638957743065000000" = true := by decide
    have admitted :
        admission (admittedProcess generation run).arguments = .ok () := by
      simp [admission, admittedProcess, refuseIf, wellFormed]
    have starting : (admittedProcess generation run).stage = .starting := rfl
    simp [localStep, happen, proceed, starting, admitted]
  exact
    (((((Reaches.start.act .proceed accepted).act .proceed rfl).act
      .proceed rfl).act .proceed rfl).act .proceed rfl).act .proceed rfl

/-- From `run_boot` to a process that is killed after it has unlinked. -/
theorem admittedProcess_releases (pid : Bool) (generation : Generation)
    (run : String) :
    Reaches (localStep pid)
      ((admittedProcess generation run).enter .booting,
        some ⟨some pid, (admittedProcess generation run).leaseBytes⟩)
      ({ admittedProcess generation run with
          stage := .killed, returned := true }, none) := by
  have confirmed :
      localStep pid
          ({ admittedProcess generation run with
              stage := .saved, returned := true },
            some ⟨some pid, (admittedProcess generation run).leaseBytes⟩)
          .proceed =
        some
          ({ admittedProcess generation run with
              stage := .confirmed, returned := true },
            some ⟨some pid, (admittedProcess generation run).leaseBytes⟩) :=
    if_pos rfl
  exact
    ((((Reaches.start.act .proceed rfl).act .proceed rfl).act
      .proceed confirmed).act .proceed rfl).act .kill rfl

/-- The first of two processes enters `run_boot`. -/
theorem first_boots (first second : Generation) :
    ∃ created,
      Reaches processStep (twoProcesses first second) created ∧
        created.processes true =
          (admittedProcess first "a").enter .booting ∧
        created.processes false = admittedProcess second "b" ∧
        created.files first.lease =
          some ⟨some true, (admittedProcess first "a").leaseBytes⟩ ∧
        (second.lease ≠ first.lease → created.files second.lease = none) := by
  have run := admittedProcess_boots true first "a"
  refine
    ⟨_, (reaches_of_local rfl rfl run).1, set_processes_self ..,
      set_processes_of_ne _ _ _ (by decide), set_files_self .., ?_⟩
  intro distinct
  exact set_files_of_ne _ _ _ distinct

/-- The second process boots where its lease is vacant. -/
theorem second_boots
    {state : State Bool} (second : Generation)
    (current : state.processes false = admittedProcess second "b")
    (vacant : state.files second.lease = none) :
    ∃ after, Reaches processStep state after ∧
      after.processes true = state.processes true ∧
        (after.processes false).stage = .booting := by
  have run := admittedProcess_boots false second "b"
  refine ⟨_, (reaches_of_local current vacant run).1, ?_, ?_⟩
  · exact set_processes_of_ne _ _ _ (by decide)
  · rw [set_processes_self]
    rfl

theorem twoProcesses_started (first second : Generation) :
    Started (twoProcesses first second) := by
  intro pid
  cases pid <;> rfl

theorem bootLease_exclusive_killed :
    ∃ held failed,
      Reaches step (twoProcesses .r7 .r7) held ∧
        processStep held (true, .kill) = some failed ∧
        ∀ later, Reaches (stepKeeping Generation.r7.lease) failed later →
          (later.processes false).lease = Generation.r7.lease →
            (later.processes false).stage ≠ .booting := by
  rcases first_boots .r7 .r7 with ⟨held, run, booting, _, leased, _⟩
  have path : (held.processes true).lease = Generation.r7.lease := by
    rw [booting]
    rfl
  have holds : (held.processes true).stage.holds = true := by
    rw [booting]
    rfl
  have killed :
      processStep held (true, .kill) =
        some
          (held.set true Generation.r7.lease
            ((admittedProcess .r7 "a").enter .killed,
              some ⟨some true, (admittedProcess .r7 "a").leaseBytes⟩)) := by
    rw [processStep, State.leaseOf, path, leased, booting]
    rfl
  refine ⟨held, _, reaches_step run, killed, ?_⟩
  intro later rest uses
  have finished :
      ((held.set true Generation.r7.lease
        ((admittedProcess .r7 "a").enter .killed,
          some ⟨some true, (admittedProcess .r7 "a").leaseBytes⟩)).processes
            true).stage.isOver = true := by
    rw [set_processes_self]
    rfl
  have latched :=
    (bootLease_exclusive (twoProcesses_started .r7 .r7)).2.1 held _ later true
      .kill (reaches_step run) holds killed finished
  rw [path] at latched
  exact (latched rest).2 false uses

/--
Two processes of different generations are inside `run_boot` at once; and a
process killed after its unlink leaves the way open for the next one.
-/
theorem bootLease_not_exclusive :
    (∃ state, Reaches step (twoProcesses .r7 .r7dns) state ∧
      (state.processes true).stage = .booting ∧
        (state.processes false).stage = .booting) ∧
      ∃ created killed state,
        Reaches step (twoProcesses .r7 .r7) created ∧
          (created.processes true).stage = .booting ∧
          Reaches processStep created killed ∧
          (killed.processes true).stage = .killed ∧
          Reaches (stepKeeping Generation.r7.lease) killed state ∧
          (state.processes false).stage = .booting := by
  constructor
  · rcases first_boots .r7 .r7dns with
      ⟨created, run, booting, waiting, _, vacant⟩
    rcases second_boots .r7dns waiting (vacant (by decide)) with
      ⟨after, rest, kept, alsoBooting⟩
    refine ⟨after, reaches_step (run.trans rest), ?_, alsoBooting⟩
    rw [kept, booting]
    rfl
  · rcases first_boots .r7 .r7 with
      ⟨created, run, booting, waiting, leased, _⟩
    have release := admittedProcess_releases true .r7 "a"
    have killed := (reaches_of_local booting leased release).1
    rcases second_boots .r7
        ((set_processes_of_ne _ _ _ (by decide)).trans waiting)
        (set_files_self created true Generation.r7.lease
          ({ admittedProcess .r7 "a" with
              stage := .killed, returned := true }, none)) with
      ⟨after, rest, _, alsoBooting⟩
    refine
      ⟨created, _, after, reaches_step run, ?_, killed, ?_,
        reaches_stepKeeping _ rest, alsoBooting⟩
    · rw [booting]
      rfl
    · rw [set_processes_self]

end KairosDeploy.Epoch.BootLease
