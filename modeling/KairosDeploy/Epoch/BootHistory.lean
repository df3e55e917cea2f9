import KairosDeploy.Epoch.BootAdmission
import KairosDeploy.Library.Transition

/-!
# Histories of current boots

Runs of `execute` over one work directory, one after another.  The receipt of
the owner lies in that directory, so all runs have the same one.  A run may
return, raise or be killed between any two of its effects, and what it leaves
then stays.  The invariant says what the directory of the run that is going on
holds at each stage, that the directories of the others are settled, and that
the directories of the runs that passed hold their records.
-/

namespace KairosDeploy.Epoch.BootHistory

open KairosDeploy.Epoch.BootAdmission
open KairosDeploy.Epoch.BootLatches
open KairosDeploy.Library.JsonIndent
open KairosDeploy.Library.JsonText
open KairosDeploy.Library.JsonValue
open KairosDeploy.Library.PyObject (lookup_of_mem)
open KairosDeploy.Library.Refusal
open KairosDeploy.Library.Timestamp
open KairosDeploy.Library.Transition

/-! ## Settled entries -/

/-- A latch of this owner and receipt. -/
structure MatchesLatch (adapter : Adapter) (latch : Members) : Prop where
  schema : get latch "schema" = .text "kairos.current-epoch-boot-latch.v1"
  owner : get latch "owner" = .text adapter.owner
  receipt : get latch "receipt_sha256" = .text adapter.receiptSha256
  state : get latch "state" = .text "IN_PROGRESS"

/-- Two different restore clones of the owner. -/
def TwoRestoreNames (adapter : Adapter) (value : Json) : Prop :=
  ∃ first second, value = .array [.text first, .text second] ∧
    first ≠ second ∧ isRestoreName adapter (.text first) = true ∧
    isRestoreName adapter (.text second) = true

/-- The completion record of the boot that a directory is named after. -/
structure MatchesCompleted (adapter : Adapter) (name : String)
    (completed : Members) : Prop where
  schema :
    get completed "schema" = .text "kairos.current-epoch-boot-result.v1"
  state : get completed "state" = .text "PASS_CURRENT_EPOCH_BOOT"
  owner : get completed "owner" = .text adapter.owner
  receipt : get completed "receipt_sha256" = .text adapter.receiptSha256
  bootId :
    get completed "boot_id" = .text (String.ofList (name.toList.drop 5))
  resources :
    (get completed "resources").pyEq (.object adapter.names) = true
  restores :
    TwoRestoreNames adapter (get completed "retained_restore_containers")
  trading : (get completed "trading_started").isFalse = true
  orders : (get completed "orders_submitted").pyEq (.int 0) = true
  paid : (get completed "paid_calls").pyEq (.int 0) = true

/--
A boot directory with a matching latch and a matching completion record, and
without a record of failure.
-/
structure Settled (adapter : Adapter) (loads : List UInt8 → Loaded)
    (name : String) (leaves : List (String × Leaf)) : Prop where
  named : isBootName name = true
  latched :
    ∃ latch,
      readBoundedJson loads false (leaves.lookup "boot-latch.json") 16384 =
        .ok latch ∧
      MatchesLatch adapter latch
  completed :
    ∃ completed,
      readBoundedJson loads false (leaves.lookup "boot-complete.json")
        32768 = .ok completed ∧
      MatchesCompleted adapter name completed
  unfailed : pathExists (leaves.lookup "boot-failure.json") = false

/-- A settled entry of a work directory. -/
def SettledEntry (adapter : Adapter) (loads : List UInt8 → Loaded)
    (directory : String × Entry) : Prop :=
  ∃ leaves, directory.2 = .directory false leaves ∧
    Settled adapter loads directory.1 leaves

section Settled

variable {adapter : Adapter} {loads : List UInt8 → Loaded}

/-- What is read lies behind no link. -/
theorem unlinked_of_read
    {linked : Bool} {leaf : Option Leaf} {maximum : Nat} {members : Members}
    (read : readBoundedJson loads linked leaf maximum = .ok members) :
    linked = false := by
  unfold readBoundedJson at read
  rw [bind_eq_ok_iff] at read
  rcases read with ⟨_, unlinked, _⟩
  rw [refuseIf_eq_ok_iff, Bool.or_eq_true, not_or] at unlinked
  exact Bool.eq_false_iff.2 unlinked.1

theorem read_of_orFailedLatch
    {Value : Type} {result : Except Failure Value} {value : Value}
    (kept : orFailedLatch result = .ok value) : result = .ok value := by
  rcases result with failure | result
  · cases failure <;> cases kept
  · exact kept

theorem readLatch_eq_ok
    {linked : Bool} {leaves : List (String × Leaf)} {latch : Members}
    (read : readLatch adapter loads linked leaves = .ok latch) :
    readBoundedJson loads linked (leaves.lookup "boot-latch.json") 16384 =
        .ok latch ∧
      get latch "schema" = .text "kairos.current-epoch-boot-latch.v1" ∧
      get latch "owner" = .text adapter.owner ∧
      get latch "receipt_sha256" = .text adapter.receiptSha256 := by
  unfold readLatch at read
  cases found : leaves.lookup "boot-latch.json" with
  | none =>
      rw [found] at read
      cases read
  | some leaf =>
      rw [found] at read
      cases leaf with
      | file reparse bytes =>
          simp only [bind_eq_ok_iff, refuseIf_eq_ok_iff, not_or,
            Bool.not_eq_false, pyEq_text_iff] at read
          rcases read with ⟨document, kept, _, same, isLatch⟩
          cases isLatch
          exact ⟨read_of_orFailedLatch kept, same⟩
      | directory reparse => cases read
      | symlink live => cases read

theorem twoRestores_eq_ok
    {value : Json} {restores : List Json}
    (two : twoRestores value = .ok restores)
    (named : restores.all (isRestoreName adapter) = true) :
    TwoRestoreNames adapter value := by
  unfold twoRestores at two
  split at two
  · rename_i first second
    simp only [bind_eq_ok_iff, refuseIf_eq_ok_iff] at two
    rcases two with ⟨_, _, _, differ, isList⟩
    cases isList
    simp only [List.all_cons, List.all_nil, Bool.and_true,
      Bool.and_eq_true] at named
    cases first with
    | text first =>
        cases second with
        | text second =>
            refine ⟨first, second, rfl, ?_, named⟩
            rintro rfl
            exact differ ((pyEq_text_iff _ _).2 rfl)
        | _ => simp [isRestoreName] at named
    | _ => simp [isRestoreName] at named
  · cases two

theorem checkCompleted_eq_ok
    {linked : Bool} {name : String} {leaves : List (String × Leaf)}
    {latch : Members}
    (passed :
      checkCompleted adapter loads linked name leaves latch = .ok ()) :
    get latch "state" = .text "IN_PROGRESS" ∧
      pathExists (leaves.lookup "boot-failure.json") = false ∧
      ∃ completed,
        readBoundedJson loads linked (leaves.lookup "boot-complete.json")
          32768 = .ok completed ∧
        MatchesCompleted adapter name completed := by
  unfold checkCompleted at passed
  simp only [bind_eq_ok_iff, refuseIf_eq_ok_iff, not_or, Bool.not_eq_false,
    Bool.not_eq_true, pyEq_text_iff] at passed
  rcases passed with
    ⟨completed, kept, _,
      ⟨unfailed, schema, progress, receipt, owner, state, bootId, resources⟩,
      restores, two, named, trading, orders, paid⟩
  exact
    ⟨progress, unfailed, completed, read_of_orFailedLatch kept,
      { schema := schema
        state := state
        owner := owner
        receipt := receipt
        bootId := bootId
        resources := resources
        restores := twoRestores_eq_ok two named
        trading := trading
        orders := orders
        paid := paid }⟩

/-- An entry that passes as an earlier boot is settled. -/
theorem settledEntry_of_check
    {plain : Bool} {directory : String × Entry}
    (passed : checkDirectory adapter loads plain none directory = .ok ()) :
    SettledEntry adapter loads directory := by
  rcases directory with ⟨name, entry⟩
  cases entry with
  | file => cases passed
  | symlink => cases passed
  | directory reparse leaves =>
      simp only [checkDirectory, bind_eq_ok_iff, refuseIf_eq_ok_iff,
        Bool.not_eq_false] at passed
      rcases passed with ⟨_, named, latch, read, rest⟩
      rcases readLatch_eq_ok read with ⟨document, schema, owner, receipt⟩
      have unlinked := unlinked_of_read document
      rw [unlinked] at document rest
      rcases checkCompleted_eq_ok rest with ⟨progress, unfailed, completed⟩
      rw [Bool.or_eq_false_iff] at unlinked
      refine ⟨leaves, by rw [unlinked.2], ?_⟩
      exact
        { named := named
          latched := ⟨latch, document, ⟨schema, owner, receipt, progress⟩⟩
          completed := completed
          unfailed := unfailed }

/-- A plan is admitted only where every boot entry is settled. -/
theorem settledEntry_of_plan
    {work : OwnerWork} {found : Surroundings} {state : Plan}
    (planned : plan adapter loads work found = .ok state) :
    ∀ directory ∈ work.bootDirs, SettledEntry adapter loads directory :=
  fun directory listed =>
    settledEntry_of_check
      ((checkLatches_eq_ok_iff.1 (checkLatches_of_plan planned)).2.2
        directory listed)

end Settled

/-! ## Runs -/

/-- Where `execute` stands after its plan was admitted. -/
inductive Stage where
  /-- Its directory exists. -/
  | made
  /-- Its latch is saved. -/
  | latched
  /-- Inside the `try` block, where containers are started. -/
  | trying
  /-- Its completion record is saved. -/
  | completed
  /-- In the `except` branch. -/
  | failing
deriving DecidableEq, Repr

structure Running where
  bootId : BootId
  stage : Stage

/-- `passed` lists the runs that returned `PASS_CURRENT_EPOCH_BOOT`. -/
structure State where
  work : OwnerWork
  running : Option Running
  passed : List BootId

/-- The files of an entry. -/
def leavesOf (work : OwnerWork) (name : String) : List (String × Leaf) :=
  match work.entries.lookup name with
  | some (.directory _ leaves) => leaves
  | _ => []

/-- A file appears in the directory of this name. -/
def addLeaf (name : String) (file : String × Leaf)
    (entry : String × Entry) : String × Entry :=
  if entry.1 = name then
    match entry.2 with
    | .directory reparse leaves =>
        (entry.1, .directory reparse (file :: leaves))
    | other => (entry.1, other)
  else
    entry

theorem addLeaf_fst
    (name : String) (file : String × Leaf) (entry : String × Entry) :
    (addLeaf name file entry).1 = entry.1 := by
  unfold addLeaf
  split_ifs
  · split <;> rfl
  · rfl

/-- `fresh.write` in a boot directory: nothing is a link, and mode `xb`. -/
def create (work : OwnerWork) (name : String) (file : String × Leaf) :
    Option OwnerWork :=
  if work.plain = true ∧ (leavesOf work name).lookup file.1 = none then
    some
      { plain := work.plain
        entries := work.entries.map (addLeaf name file)
        distinct := by
          rw [List.map_map]
          have names :
              Prod.fst ∘ addLeaf name file = (Prod.fst : _ × Entry → _) :=
            funext (addLeaf_fst name file)
          rw [names]
          exact work.distinct }
  else
    none

/-- `path.mkdir(exist_ok=False)`. -/
def makeDirectory (work : OwnerWork) (name : String) : Option OwnerWork :=
  if absent : name ∉ work.entries.map Prod.fst then
    some
      { plain := work.plain
        entries := (name, .directory false []) :: work.entries
        distinct := List.nodup_cons.2 ⟨absent, work.distinct⟩ }
  else
    none

/--
`observed_at_utc` of the status of the serving worker.  The worker writes
thirty-two characters at most.
-/
abbrev Observed : Type :=
  { text : String // text.toList.length ≤ 512 }

/-- An effect of a run, or its end. -/
inductive Action where
  /-- `plan`, and the directory where it is admitted. -/
  | begin (bootId : BootId) (found : Surroundings)
  | saveLatch (created : CivilTime)
  | enterTry
  /-- The controller saves a file in the directory of the run. -/
  | addFile (file : String × Leaf)
  /-- A command to the containers, `docker start` among them. -/
  | command
  | saveCompleted (observed : Observed)
  | returnPass
  /-- A statement raises. -/
  | raise
  | saveFailure (bytes : List UInt8)
  | kill

section Runs

variable (adapter : Adapter) (loads : List UInt8 → Loaded)
variable (floats : FloatText)

/-- The run goes on with this stage and this work directory. -/
def State.proceed (state : State) (run : Running) (stage : Stage)
    (work : OwnerWork) : State :=
  { state with work := work, running := some ⟨run.bootId, stage⟩ }

/-- An effect of the run that is going on. -/
def runStep (state : State) (run : Running) : Action → Option State
  | .begin _ _ => none
  | .saveLatch created =>
      match run.stage with
      | .made =>
          (create state.work run.bootId.directory
            ("boot-latch.json",
              .file false (saved floats (adapter.latch created)))).map
            (state.proceed run .latched)
      | _ => none
  | .enterTry =>
      match run.stage with
      | .latched => some (state.proceed run .trying state.work)
      | _ => none
  | .addFile file =>
      if file.1 ∈ checkedFiles then
        none
      else
        match run.stage with
        | .latched | .trying =>
            (create state.work run.bootId.directory file).map
              (state.proceed run run.stage)
        | _ => none
  | .command =>
      match run.stage with
      | .trying | .failing => some state
      | _ => none
  | .saveCompleted observed =>
      match run.stage with
      | .trying =>
          -- The later test of the latches has passed.
          if checkLatches adapter loads state.work
              (some run.bootId.directory) = .ok () then
            (create state.work run.bootId.directory
              ("boot-complete.json",
                .file false
                  (saved floats
                    (adapter.completed run.bootId observed.val
                      (restoreNames adapter run.bootId))))).map
              (state.proceed run .completed)
          else
            none
      | _ => none
  | .returnPass =>
      match run.stage with
      | .completed =>
          some
            { state with
              running := none
              passed := run.bootId :: state.passed }
      | _ => none
  | .raise =>
      match run.stage with
      | .trying | .completed => some (state.proceed run .failing state.work)
      | _ => some { state with running := none }
  | .saveFailure bytes =>
      match run.stage with
      | .failing =>
          (create state.work run.bootId.directory
            ("boot-failure.json", .file false bytes)).map
            fun work => { state with work := work, running := none }
      | _ => none
  | .kill => some { state with running := none }

/-- One effect.  A run begins when no other is going on. -/
def step (state : State) (action : Action) : Option State :=
  match state.running, action with
  | some run, action => runStep adapter loads floats state run action
  | none, .begin bootId found =>
      match plan adapter loads state.work found with
      | .ok .readyToStart =>
          match makeDirectory state.work bootId.directory with
          | some work =>
              some { state with work := work, running := some ⟨bootId, .made⟩ }
          | none => some state
      | _ => some state
  | none, _ => none

end Runs

/-! ## What a creation leaves alone -/

section Create

variable {work after : OwnerWork} {name : String} {file : String × Leaf}

theorem create_eq_some
    (created : create work name file = some after) :
    work.plain = true ∧ (leavesOf work name).lookup file.1 = none ∧
      after.plain = work.plain ∧
      after.entries = work.entries.map (addLeaf name file) := by
  unfold create at created
  split_ifs at created with free
  cases created
  exact ⟨free.1, free.2, rfl, rfl⟩

/-- Entries of other names stay, and no others appear. -/
theorem mem_create_of_ne
    (created : create work name file = some after)
    {directory : String × Entry} (other : directory.1 ≠ name) :
    directory ∈ after.entries ↔ directory ∈ work.entries := by
  rw [(create_eq_some created).2.2.2, List.mem_map]
  constructor
  · rintro ⟨entry, listed, same⟩
    have kept : entry.1 ≠ name := by
      rw [← addLeaf_fst name file entry, same]
      exact other
    rw [addLeaf, if_neg kept] at same
    exact same ▸ listed
  · intro listed
    exact ⟨directory, listed, by rw [addLeaf, if_neg other]⟩

theorem leavesOf_of_mem
    {reparse : Bool} {leaves : List (String × Leaf)}
    (listed : (name, Entry.directory reparse leaves) ∈ work.entries) :
    leavesOf work name = leaves := by
  rw [leavesOf, lookup_of_mem work.distinct listed]

/-- The directory itself has one file more. -/
theorem mem_create_self
    (created : create work name file = some after)
    {leaves : List (String × Leaf)}
    (listed : (name, Entry.directory false leaves) ∈ work.entries) :
    (name, Entry.directory false (file :: leaves)) ∈ after.entries ∧
      leaves.lookup file.1 = none := by
  rcases create_eq_some created with ⟨_, absent, _, entries⟩
  rw [leavesOf_of_mem listed] at absent
  refine ⟨?_, absent⟩
  rw [entries, List.mem_map]
  exact ⟨_, listed, by rw [addLeaf, if_pos rfl]⟩

end Create

/-! ## The invariant -/

section Invariant

variable {adapter : Adapter} {loads : List UInt8 → Loaded}
variable {floats : FloatText}

/-- The directory of a boot whose completion record is saved. -/
def Recorded (adapter : Adapter) (floats : FloatText) (bootId : BootId)
    (leaves : List (String × Leaf)) : Prop :=
  ∃ (created : CivilTime) (observed : Observed),
    leaves.lookup "boot-latch.json" =
        some (.file false (saved floats (adapter.latch created))) ∧
      leaves.lookup "boot-complete.json" =
        some
          (.file false
            (saved floats
              (adapter.completed bootId observed.val
                (restoreNames adapter bootId)))) ∧
      leaves.lookup "boot-failure.json" = none

/-- What the directory of a run holds at a stage. -/
def StageHolds (adapter : Adapter) (floats : FloatText) (bootId : BootId)
    (leaves : List (String × Leaf)) : Stage → Prop
  | .made =>
      leaves.lookup "boot-complete.json" = none ∧
        leaves.lookup "boot-failure.json" = none
  | .latched | .trying =>
      (∃ created,
        leaves.lookup "boot-latch.json" =
          some (.file false (saved floats (adapter.latch created)))) ∧
        leaves.lookup "boot-complete.json" = none ∧
        leaves.lookup "boot-failure.json" = none
  | .completed => Recorded adapter floats bootId leaves
  | .failing => True

/-- A boot whose directory holds its records. -/
def Kept (adapter : Adapter) (floats : FloatText) (work : OwnerWork)
    (bootId : BootId) : Prop :=
  work.plain = true ∧
    ∃ leaves, (bootId.directory, Entry.directory false leaves) ∈
        work.entries ∧
      Recorded adapter floats bootId leaves

/-- What holds while a run is going on. -/
structure ValidRun (adapter : Adapter) (loads : List UInt8 → Loaded)
    (floats : FloatText) (state : State) (run : Running) : Prop where
  others :
    ∀ directory ∈ state.work.bootDirs,
      directory.1 ≠ run.bootId.directory →
        SettledEntry adapter loads directory
  new : ∀ bootId ∈ state.passed, bootId.directory ≠ run.bootId.directory
  plain : run.stage = .completed → state.work.plain = true
  own :
    ∃ leaves, (run.bootId.directory, Entry.directory false leaves) ∈
        state.work.entries ∧
      StageHolds adapter floats run.bootId leaves run.stage

structure Valid (adapter : Adapter) (loads : List UInt8 → Loaded)
    (floats : FloatText) (state : State) : Prop where
  passed : ∀ bootId ∈ state.passed, Kept adapter floats state.work bootId
  running :
    ∀ run ∈ state.running, ValidRun adapter loads floats state run

/-- The end of a run keeps what the others need. -/
theorem Valid.stop {state : State} (valid : Valid adapter loads floats state) :
    Valid adapter loads floats { state with running := none } where
  passed := valid.passed
  running := fun _ impossible => by cases impossible

/-- A creation in another directory keeps the records. -/
theorem Kept.create
    {work after : OwnerWork} {bootId own : BootId} {file : String × Leaf}
    (kept : Kept adapter floats work bootId)
    (differs : bootId.directory ≠ own.directory)
    (created : create work own.directory file = some after) :
    Kept adapter floats after bootId := by
  rcases kept with ⟨plain, leaves, listed, recorded⟩
  exact
    ⟨(create_eq_some created).2.2.1.trans plain, leaves,
      (mem_create_of_ne created differs).2 listed, recorded⟩

/-- A creation by the run brings its directory to the next stage. -/
theorem Valid.write
    {state : State} {run : Running} {file : String × Leaf}
    {after : OwnerWork} {stage : Stage}
    (valid : Valid adapter loads floats state)
    (current : state.running = some run)
    (created : create state.work run.bootId.directory file = some after)
    (holds : ∀ leaves,
      StageHolds adapter floats run.bootId leaves run.stage →
        leaves.lookup file.1 = none →
          StageHolds adapter floats run.bootId (file :: leaves) stage) :
    Valid adapter loads floats (state.proceed run stage after) := by
  have active := valid.running run current
  constructor
  · intro bootId listed
    have kept := valid.passed bootId listed
    exact kept.create (active.new bootId listed) created
  · intro next isNext
    cases isNext
    rcases active.own with ⟨leaves, listed, stageHolds⟩
    rcases mem_create_self created listed with ⟨grown, absent⟩
    constructor
    · intro directory member other
      have before := List.mem_filter.1 member
      apply active.others directory _ other
      exact
        List.mem_filter.2
          ⟨(mem_create_of_ne created other).1 before.1, before.2⟩
    · exact active.new
    · intro _
      exact (create_eq_some created).2.2.1.trans (create_eq_some created).1
    · exact ⟨file :: leaves, grown, holds leaves stageHolds absent⟩

/-- A stage of the run that its directory does not show. -/
theorem Valid.enter
    {state : State} {run : Running} {stage : Stage}
    (valid : Valid adapter loads floats state)
    (current : state.running = some run)
    (unfinished : stage ≠ .completed)
    (holds : ∀ leaves,
      StageHolds adapter floats run.bootId leaves run.stage →
        StageHolds adapter floats run.bootId leaves stage) :
    Valid adapter loads floats (state.proceed run stage state.work) := by
  have active := valid.running run current
  constructor
  · exact valid.passed
  · intro next isNext
    cases isNext
    rcases active.own with ⟨leaves, listed, stageHolds⟩
    exact
      { others := active.others
        new := active.new
        plain := fun finished => absurd finished unfinished
        own := ⟨leaves, listed, holds leaves stageHolds⟩ }

/-- Looking another file up is not changed by a file in front. -/
theorem lookup_cons_of_ne
    {leaves : List (String × Leaf)} {leaf : Leaf} {own name : String}
    (differs : name ≠ own) :
    ((own, leaf) :: leaves).lookup name = leaves.lookup name := by
  rw [List.lookup_cons, beq_eq_false_iff_ne.2 differs]

/-- Every effect of a run keeps the invariant. -/
theorem Valid.runStep
    {state after : State} {run : Running} {action : Action}
    (valid : Valid adapter loads floats state)
    (current : state.running = some run)
    (taken : runStep adapter loads floats state run action = some after) :
    Valid adapter loads floats after := by
  rcases run with ⟨bootId, stage⟩
  cases action with
  | begin => cases taken
  | saveLatch created =>
      cases stage <;> try cases taken
      rcases Option.map_eq_some_iff.1 taken with ⟨work, written, rfl⟩
      apply valid.write current written
      rintro leaves ⟨complete, failure⟩ _
      exact
        ⟨⟨created, List.lookup_cons_self⟩,
          (lookup_cons_of_ne (by decide)).trans complete,
          (lookup_cons_of_ne (by decide)).trans failure⟩
  | enterTry =>
      cases stage <;> try cases taken
      exact valid.enter current (by decide) fun _ holds => holds
  | addFile file =>
      rcases file with ⟨own, leaf⟩
      simp only [BootHistory.runStep] at taken
      split_ifs at taken with checked
      have others : ∀ name ∈ checkedFiles, name ≠ own :=
        fun name listed same => checked (same ▸ listed)
      have keeps : ∀ leaves,
          StageHolds adapter floats bootId leaves .trying →
            StageHolds adapter floats bootId ((own, leaf) :: leaves)
              .trying := by
        rintro leaves ⟨⟨created, latch⟩, complete, failure⟩
        exact
          ⟨⟨created,
              (lookup_cons_of_ne (others _ (by decide))).trans latch⟩,
            (lookup_cons_of_ne (others _ (by decide))).trans complete,
            (lookup_cons_of_ne (others _ (by decide))).trans failure⟩
      cases stage <;> try cases taken
      · rcases Option.map_eq_some_iff.1 taken with ⟨work, written, rfl⟩
        exact valid.write current written fun leaves holds _ =>
          keeps leaves holds
      · rcases Option.map_eq_some_iff.1 taken with ⟨work, written, rfl⟩
        exact valid.write current written fun leaves holds _ =>
          keeps leaves holds
  | command =>
      cases stage <;> cases taken
      · exact valid
      · exact valid
  | saveCompleted observed =>
      cases stage <;> try cases taken
      simp only [BootHistory.runStep] at taken
      split_ifs at taken
      rcases Option.map_eq_some_iff.1 taken with ⟨work, written, rfl⟩
      apply valid.write current written
      rintro leaves ⟨⟨created, latch⟩, _, failure⟩ _
      exact
        ⟨created, observed, (lookup_cons_of_ne (by decide)).trans latch,
          List.lookup_cons_self,
          (lookup_cons_of_ne (by decide)).trans failure⟩
  | returnPass =>
      cases stage <;> try cases taken
      have active := valid.running _ current
      constructor
      · intro other listed
        rcases List.mem_cons.1 listed with rfl | earlier
        · exact ⟨active.plain rfl, active.own⟩
        · exact valid.passed other earlier
      · intro _ impossible
        cases impossible
  | raise =>
      cases stage <;> cases taken
      · exact valid.stop
      · exact valid.stop
      · exact valid.enter current (by decide) fun _ _ => trivial
      · exact valid.enter current (by decide) fun _ _ => trivial
      · exact valid.stop
  | saveFailure bytes =>
      cases stage <;> try cases taken
      rcases Option.map_eq_some_iff.1 taken with ⟨work, written, rfl⟩
      have failed :
          Valid adapter loads floats
            (state.proceed ⟨bootId, .failing⟩ .failing work) :=
        valid.write current written fun _ _ _ => trivial
      exact failed.stop
  | kill =>
      cases taken
      exact valid.stop

end Invariant

/-! ## Whole histories -/

section Histories

variable {adapter : Adapter} {loads : List UInt8 → Loaded}
variable {floats : FloatText}

/-- A new directory leaves the entries of other names alone. -/
theorem mem_makeDirectory
    {work after : OwnerWork} {name : String}
    (made : makeDirectory work name = some after) :
    name ∉ work.entries.map Prod.fst ∧ after.plain = work.plain ∧
      after.entries = (name, .directory false []) :: work.entries := by
  unfold makeDirectory at made
  split_ifs at made with absent
  cases made
  exact ⟨absent, rfl, rfl⟩

/-- An admitted run starts with the invariant. -/
theorem Valid.begin
    {state : State} {bootId : BootId} {found : Surroundings}
    {work : OwnerWork}
    (valid : Valid adapter loads floats state)
    (planned : plan adapter loads state.work found = .ok .readyToStart)
    (made : makeDirectory state.work bootId.directory = some work) :
    Valid adapter loads floats
      { state with work := work, running := some ⟨bootId, .made⟩ } := by
  rcases mem_makeDirectory made with ⟨absent, plain, entries⟩
  have settled := settledEntry_of_plan planned
  constructor
  · intro other listed
    rcases valid.passed other listed with ⟨isPlain, leaves, member, recorded⟩
    refine ⟨plain.trans isPlain, leaves, ?_, recorded⟩
    rw [entries]
    exact List.mem_cons_of_mem _ member
  · intro run isRun
    cases isRun
    constructor
    · intro directory member other
      have listed := List.mem_filter.1 member
      rw [entries] at listed
      rcases List.mem_cons.1 listed.1 with rfl | earlier
      · exact absurd rfl other
      · exact settled directory (List.mem_filter.2 ⟨earlier, listed.2⟩)
    · intro other listed same
      rcases valid.passed other listed with ⟨_, leaves, member, _⟩
      apply absent
      rw [← same]
      exact List.mem_map_of_mem member
    · intro impossible
      cases impossible
    · refine ⟨[], ?_, rfl, rfl⟩
      rw [entries]
      exact List.mem_cons_self

/-- Every step keeps the invariant. -/
theorem Valid.step
    {state after : State} {action : Action}
    (valid : Valid adapter loads floats state)
    (taken : step adapter loads floats state action = some after) :
    Valid adapter loads floats after := by
  unfold BootHistory.step at taken
  split at taken
  · rename_i run current
    exact valid.runStep current taken
  · rename_i bootId found idle
    split at taken
    · rename_i planned
      split at taken
      · rename_i work made
        cases taken
        exact valid.begin planned made
      · cases taken
        exact valid
    · cases taken
      exact valid
  · cases taken

/-- The invariant holds along every history. -/
theorem valid_of_reaches
    {work : OwnerWork} {state : State}
    (run : Reaches (step adapter loads floats) ⟨work, none, []⟩ state) :
    Valid adapter loads floats state := by
  apply run.invariant (Valid adapter loads floats)
  · constructor
    · intro _ impossible
      cases impossible
    · intro _ impossible
      cases impossible
  · intro _ _ _ valid taken
    exact valid.step taken

/-- While no run is going on, an entry that is not settled stops them all. -/
theorem stuck_of_unsettled
    {state later : State} {directory : String × Entry}
    (idle : state.running = none)
    (listed : directory ∈ state.work.bootDirs)
    (unsettled : ¬ SettledEntry adapter loads directory)
    (run : Reaches (step adapter loads floats) state later) :
    later = state := by
  apply run.invariant (fun reached => reached = state) rfl
  rintro before action after rfl taken
  unfold BootHistory.step at taken
  rw [idle] at taken
  cases action with
  | begin bootId found =>
      simp only at taken
      split at taken
      · rename_i planned
        exact
          absurd (settledEntry_of_plan planned directory listed) unsettled
      · cases taken
        rfl
  | _ => cases taken

/-- What a boot that passed has left is accepted by every later test. -/
theorem Kept.accepted
    {work : OwnerWork} {bootId : BootId}
    (kept : Kept adapter floats work bootId)
    (reads : ∀ value, Plain value →
      loads (saved floats value) = .value value) :
    ∃ entry, (bootId.directory, entry) ∈ work.entries ∧
      ∀ excluded, excluded ≠ some bootId.directory →
        checkDirectory adapter loads work.plain excluded
          (bootId.directory, entry) = .ok () := by
  rcases kept with
    ⟨plain, leaves, listed, created, observed, latched, completed, unfailed⟩
  refine ⟨_, listed, ?_⟩
  intro excluded other
  rcases readLatch_saved latched (reads _ (plain_latch created)) with
    ⟨latch, read, progress, _⟩
  have complete :
      checkCompleted adapter loads false bootId.directory leaves latch =
        .ok () :=
    checkCompleted_saved observed.property completed unfailed progress
      (reads _ (plain_completed _))
  simp [checkDirectory, refuseIf, plain, bootId.isBootName_directory, read,
    complete, other]

/--
A boot entry that an earlier run has left without its records, or with a record
of failure, admits no later plan and no later run.  What a run left that passed
is accepted by every later test of the latches.
-/
theorem current_boot_sticky
    (reads : ∀ value, Plain value →
      loads (saved floats value) = .value value)
    {work : OwnerWork} {state : State}
    (run : Reaches (step adapter loads floats) ⟨work, none, []⟩ state) :
    (∀ directory ∈ state.work.bootDirs,
      (∀ current ∈ state.running,
        directory.1 ≠ current.bootId.directory) →
        ¬ SettledEntry adapter loads directory →
          ∀ later, Reaches (step adapter loads floats) state later →
            later = state ∧ later.running = none ∧
              ∀ found planned,
                plan adapter loads later.work found ≠ .ok planned) ∧
      ∀ bootId ∈ state.passed,
        ∃ entry, (bootId.directory, entry) ∈ state.work.entries ∧
          SettledEntry adapter loads (bootId.directory, entry) ∧
          ∀ excluded, excluded ≠ some bootId.directory →
            checkDirectory adapter loads state.work.plain excluded
              (bootId.directory, entry) = .ok () := by
  have valid := valid_of_reaches run
  constructor
  · intro directory listed earlier unsettled later next
    have idle : state.running = none := by
      cases running : state.running with
      | none => rfl
      | some current =>
          exact
            absurd
              ((valid.running current running).others directory listed
                (earlier current running))
              unsettled
    have same := stuck_of_unsettled idle listed unsettled next
    subst same
    refine ⟨rfl, idle, ?_⟩
    intro found planned admitted
    exact unsettled (settledEntry_of_plan admitted directory listed)
  · intro bootId passed
    rcases (valid.passed bootId passed).accepted reads with
      ⟨entry, listed, accepted⟩
    refine ⟨entry, listed, ?_, accepted⟩
    exact settledEntry_of_check (accepted none (by simp))

end Histories

/-- The work directory of an owner that was never booted. -/
def unbooted : OwnerWork where
  plain := true
  entries := []
  distinct := List.nodup_nil

/-- A boot that was killed before it saved its latch. -/
def abandoned : State where
  work :=
    { plain := true
      entries := [((numbered 0).directory, .directory false [])]
      distinct := List.nodup_singleton _ }
  running := none
  passed := []

theorem current_boot_sticky_abandoned :
    plan zeroAdapter (fileLoads exponentFloats) abandoned.work stopped ≠
      .ok .readyToStart := by
  have begun :
      step zeroAdapter (fileLoads exponentFloats) exponentFloats
          ⟨unbooted, none, []⟩ (.begin (numbered 0) stopped) =
        some { abandoned with running := some ⟨numbered 0, .made⟩ } := by
    have planned :
        plan zeroAdapter (fileLoads exponentFloats) unbooted stopped =
          .ok .readyToStart :=
      plan_stopped rfl
    simp only [step, planned]
    rfl
  have run :
      Reaches
        (step zeroAdapter (fileLoads exponentFloats) exponentFloats)
        ⟨unbooted, none, []⟩ abandoned :=
    (Reaches.start.act (.begin (numbered 0) stopped) begun).act .kill rfl
  have listed :
      ((numbered 0).directory, Entry.directory false []) ∈
        abandoned.work.bootDirs :=
    List.mem_filter.2
      ⟨List.mem_singleton_self _, (numbered 0).startsBoot_directory⟩
  have unsettled :
      ¬ SettledEntry zeroAdapter (fileLoads exponentFloats)
          ((numbered 0).directory, Entry.directory false []) := by
    rintro ⟨leaves, same, settled⟩
    cases same
    rcases settled.latched with ⟨latch, read, _⟩
    cases read
  exact
    ((current_boot_sticky (fun _ plain => fileLoads_saved plain) run).1 _
      listed (fun _ impossible => by cases impossible) unsettled _
      .start).2.2 stopped .readyToStart

end KairosDeploy.Epoch.BootHistory
