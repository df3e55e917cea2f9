import KairosDeploy.Epoch.BootLatches
import KairosDeploy.Library.TextBytes

/-!
# Admission of the current boot

What an earlier boot that was completed leaves passes every later test of the
latches.  A boot that was admitted is tested again in the middle of its run,
when its own directory is counted: that test passes exactly when fewer than
`LATCH_LIMIT` directories were there before.
-/

namespace KairosDeploy.Epoch.BootAdmission

open KairosDeploy.Epoch.BootLatches
open KairosDeploy.Library.HexDigest
open KairosDeploy.Library.JsonIndent
open KairosDeploy.Library.JsonText
open KairosDeploy.Library.JsonValue
open KairosDeploy.Library.PyObject (hashable lookup_of_mem)
open KairosDeploy.Library.Refusal
open KairosDeploy.Library.TextBytes
open KairosDeploy.Library.Timestamp

/-! ## Completed boots -/

/-- The name of a restore clone: the suffix of the tag is `01` or `02`. -/
def restoreName (adapter : Adapter) (bootId : BootId) (stage : String) :
    String :=
  adapter.resourcePrefix ++ "-restore-current-" ++
    String.ofList (bootId.val.toList.take 12) ++ stage

/-- The names that a completed boot records. -/
def restoreNames (adapter : Adapter) (bootId : BootId) : List String :=
  [restoreName adapter bootId "01", restoreName adapter bootId "02"]

/-- The files of a completed boot that the checks look at. -/
def completedLeaves (floats : FloatText) (adapter : Adapter)
    (bootId : BootId) (created : CivilTime) (observed : String) :
    List (String × Leaf) :=
  [("boot-latch.json", .file false (saved floats (adapter.latch created))),
    ("boot-complete.json",
      .file false
        (saved floats
          (adapter.completed bootId observed
            (restoreNames adapter bootId))))]

section Completed

variable {adapter : Adapter} {floats : FloatText}
variable {bootId : BootId} {observed : String}

theorem length_bootId (bootId : BootId) : bootId.val.toList.length = 32 := by
  have hex := bootId.property
  rw [isHex, Bool.and_eq_true, decide_eq_true_eq] at hex
  exact hex.1

theorem toList_restoreName (stage : String) :
    (restoreName adapter bootId stage).toList =
      (adapter.resourcePrefix ++ "-restore-current-").toList ++
        (bootId.val.toList.take 12 ++ stage.toList) := by
  rw [restoreName, String.toList_append, String.toList_append,
    String.toList_ofList, List.append_assoc]

/-- A restore name has the shape that is asked of it. -/
theorem isRestoreName_restoreName
    {stage : String} (hex : isHex 2 stage = true) :
    isRestoreName adapter (.text (restoreName adapter bootId stage)) =
      true := by
  have idHex := bootId.property
  rw [isHex, Bool.and_eq_true, decide_eq_true_eq, List.all_eq_true]
    at hex idHex
  rw [isRestoreName, toList_restoreName, Bool.and_eq_true]
  constructor
  · simp
  · rw [List.drop_left, isHex, String.toList_ofList, Bool.and_eq_true,
      decide_eq_true_eq, List.all_eq_true]
    constructor
    · rw [List.length_append, List.length_take, idHex.1, hex.1]
      rfl
    · intro character listed
      rcases List.mem_append.1 listed with early | late
      · exact idHex.2 character (List.mem_of_mem_take early)
      · exact hex.2 character late

theorem restoreName_injective :
    Function.Injective (restoreName adapter bootId) := by
  intro left right same
  have lists := congrArg String.toList same
  rw [toList_restoreName, toList_restoreName] at lists
  exact
    String.toList_inj.1
      (List.append_cancel_left (List.append_cancel_left lists))

theorem plain_names : Plain (.object adapter.names) := by
  apply plain_dict
  intro entry listed
  simp only [List.mem_cons, List.not_mem_nil, or_false] at listed
  rcases listed with
    rfl | rfl | rfl | rfl | rfl | rfl | rfl | rfl | rfl | rfl
  all_goals exact .text _

theorem plain_completed (restores : List String) :
    Plain (adapter.completed bootId observed restores) := by
  apply plain_dict
  intro entry listed
  simp only [List.mem_cons, List.not_mem_nil, or_false] at listed
  rcases listed with
    rfl | rfl | rfl | rfl | rfl | rfl | rfl | rfl | rfl | rfl | rfl
  · exact .text _
  · exact .text _
  · exact .text _
  · exact .text _
  · exact .text _
  · exact plain_names
  · exact .text _
  · exact .bool false
  · exact .zero
  · exact .zero
  · apply Plain.array
    intro item retained
    rcases List.mem_map.1 retained with ⟨name, _, rfl⟩
    exact .text name

/-- The fields of the completion record that the checks look at. -/
theorem get_completed (restores : List String) :
    ∃ members,
      adapter.completed bootId observed restores = .object members ∧
      get members "schema" =
        .text "kairos.current-epoch-boot-result.v1" ∧
      get members "receipt_sha256" = .text adapter.receiptSha256 ∧
      get members "owner" = .text adapter.owner ∧
      get members "state" = .text "PASS_CURRENT_EPOCH_BOOT" ∧
      get members "boot_id" = .text bootId.val ∧
      get members "resources" = .object adapter.names ∧
      get members "retained_restore_containers" =
        .array (restores.map .text) ∧
      get members "trading_started" = .bool false ∧
      get members "orders_submitted" = .int 0 ∧
      get members "paid_calls" = .int 0 := by
  refine ⟨_, rfl, ?_, ?_, ?_, ?_, ?_, ?_, ?_, ?_, ?_, ?_⟩
  all_goals exact get_dict_of_mem (by simp) (by simp)

theorem names_pyEq :
    (Json.object adapter.names).pyEq (.object adapter.names) = true := by
  rw [Json.pyEq]
  apply pyEqMembers_self
  intro member listed
  have entry := mem_dict listed
  simp only [List.mem_cons, List.not_mem_nil, or_false] at entry
  rcases entry with
    rfl | rfl | rfl | rfl | rfl | rfl | rfl | rfl | rfl | rfl
  all_goals exact (pyEq_text_iff _ _).2 rfl

theorem length_append_toList (left right : String) :
    (left ++ right).toList.length =
      left.toList.length + right.toList.length := by
  rw [String.toList_append, List.length_append]

theorem length_indented_names_le (depth : Nat) :
    (writeIndented floats depth (.object adapter.names)).length ≤
      10 * (2 * depth + 260) + (2 * depth + 2) := by
  apply (length_indented_dict_le floats depth (by simp)).trans
  have keys :
      (writeText "network").length = 9 ∧
        (writeText "target_volume").length = 15 ∧
        (writeText "source_volume").length = 15 ∧
        (writeText "restore_volume").length = 16 ∧
        (writeText "redis_volume").length = 14 ∧
        (writeText "target_pg").length = 11 ∧
        (writeText "source_pg").length = 11 ∧
        (writeText "restore_pg").length = 12 ∧
        (writeText "redis").length = 7 ∧
        (writeText "serve").length = 7 := by
    decide
  have value :
      ∀ suffix : String, suffix.toList.length ≤ 13 →
        (writeText (adapter.resourcePrefix ++ suffix)).length ≤ 230 := by
    intro suffix short
    have bound := length_writeText_le (adapter.resourcePrefix ++ suffix)
    rw [length_append_toList, length_resourcePrefix] at bound
    omega
  have texts :
      ∀ depth text, writeIndented floats depth (.text text) = writeText text :=
    fun _ _ => rfl
  have network := value "-private" (by decide)
  have targetVolume := value "-pg-data" (by decide)
  have sourceVolume := value "-source-data" (by decide)
  have restoreVolume := value "-restore-data" (by decide)
  have redisVolume := value "-redis-data" (by decide)
  have targetPg : (writeText adapter.targetPg).length ≤ 230 :=
    value "-pg" (by decide)
  have sourcePg := value "-source" (by decide)
  have restorePg := value "-restore" (by decide)
  have redis : (writeText adapter.redis).length ≤ 230 :=
    value "-redis" (by decide)
  have serve : (writeText adapter.serve).length ≤ 230 :=
    value "-serve" (by decide)
  simp only [List.map_cons, List.map_nil, List.sum_cons, List.sum_nil,
    memberCost, texts]
  omega

theorem length_indented_restores_le (depth : Nat) :
    (writeIndented floats depth
        (.array ((restoreNames adapter bootId).map .text))).length ≤
      2 * (2 * depth + 350) + (2 * depth + 2) := by
  apply (length_indented_array_le floats depth _).trans
  have value :
      ∀ stage : String, stage.toList.length = 2 →
        (writeText (restoreName adapter bootId stage)).length ≤ 338 := by
    intro stage two
    have bound := length_writeText_le (restoreName adapter bootId stage)
    have start :
        (adapter.resourcePrefix ++ "-restore-current-").toList.length =
          42 := by
      rw [length_append_toList, length_resourcePrefix]
      rfl
    rw [toList_restoreName, List.length_append, List.length_append,
      List.length_take, length_bootId, two, start] at bound
    omega
  have texts :
      ∀ depth text, writeIndented floats depth (.text text) = writeText text :=
    fun _ _ => rfl
  have first := value "01" (by decide)
  have second := value "02" (by decide)
  simp only [restoreNames, List.map_cons, List.map_nil, List.sum_cons,
    List.sum_nil, itemCost, texts]
  omega

/-- A completion record is short enough to be read. -/
theorem length_saved_completed_le
    (short : observed.toList.length ≤ 512) :
    (saved floats
        (adapter.completed bootId observed
          (restoreNames adapter bootId))).length ≤ 32768 := by
  have owner := length_writeText_le adapter.owner
  have receipt := length_writeText_le adapter.receiptSha256
  have identifier := length_writeText_le bootId.val
  have time := length_writeText_le observed
  have names := @length_indented_names_le adapter floats 1
  have restores := @length_indented_restores_le adapter floats bootId 1
  rw [length_owner] at owner
  rw [length_receiptSha256] at receipt
  rw [length_bootId] at identifier
  have texts :
      ∀ depth text, writeIndented floats depth (.text text) = writeText text :=
    fun _ _ => rfl
  have constants :
      (writeIndented floats 1 (.bool false)).length = 5 ∧
        (writeIndented floats 1 (.int 0)).length = 1 :=
    ⟨rfl, rfl⟩
  have keys :
      (writeText "schema").length = 8 ∧ (writeText "state").length = 7 ∧
        (writeText "owner").length = 7 ∧
        (writeText "receipt_sha256").length = 16 ∧
        (writeText "boot_id").length = 9 ∧
        (writeText "resources").length = 11 ∧
        (writeText "status_observed_at_utc").length = 24 ∧
        (writeText "trading_started").length = 17 ∧
        (writeText "orders_submitted").length = 18 ∧
        (writeText "paid_calls").length = 12 ∧
        (writeText "retained_restore_containers").length = 29 ∧
        (writeText "kairos.current-epoch-boot-result.v1").length = 37 ∧
        (writeText "PASS_CURRENT_EPOCH_BOOT").length = 25 := by
    decide
  have bound :
      (writeIndented floats 0
          (adapter.completed bootId observed
            (restoreNames adapter bootId))).length ≤ 8000 := by
    apply (length_indented_dict_le floats 0 (by simp)).trans
    simp only [List.map_cons, List.map_nil, List.sum_cons, List.sum_nil,
      memberCost, texts, zero_add, constants]
    omega
  have bytes :=
    length_saved_le floats
      (adapter.completed bootId observed (restoreNames adapter bootId))
  omega

theorem twoRestores_restoreNames :
    twoRestores (.array ((restoreNames adapter bootId).map .text)) =
      .ok ((restoreNames adapter bootId).map .text) := by
  have differ :
      (Json.text (restoreName adapter bootId "01")).pyEq
          (.text (restoreName adapter bootId "02")) = false := by
    rw [Bool.eq_false_iff, Ne, pyEq_text_iff, Json.text.injEq]
    intro same
    exact absurd (restoreName_injective same) (by decide)
  simp [restoreNames, twoRestores, hashable, differ, refuseIf]

theorem isRestoreName_of_mem :
    ∀ name ∈ restoreNames adapter bootId,
      isRestoreName adapter (.text name) = true := by
  intro name listed
  simp only [restoreNames, List.mem_cons, List.not_mem_nil, or_false]
    at listed
  rcases listed with rfl | rfl
  · exact isRestoreName_restoreName (by decide)
  · exact isRestoreName_restoreName (by decide)

/-- A saved completion record is accepted in the directory of its boot. -/
theorem checkCompleted_saved
    {loads : List UInt8 → Loaded} {leaves : List (String × Leaf)}
    {latch : Members}
    (short : observed.toList.length ≤ 512)
    (found :
      leaves.lookup "boot-complete.json" =
        some
          (.file false
            (saved floats
              (adapter.completed bootId observed
                (restoreNames adapter bootId)))))
    (unfailed : leaves.lookup "boot-failure.json" = none)
    (progress : get latch "state" = .text "IN_PROGRESS")
    (reads :
      loads
          (saved floats
            (adapter.completed bootId observed
              (restoreNames adapter bootId))) =
        .value
          (adapter.completed bootId observed
            (restoreNames adapter bootId))) :
    checkCompleted adapter loads false bootId.directory leaves latch =
      .ok () := by
  rcases @get_completed adapter bootId observed
      (restoreNames adapter bootId) with
    ⟨members, isObject, schema, receipt, owner, state, identifier, resources,
      restores, trading, orders, paid⟩
  have small := @length_saved_completed_le adapter floats bootId observed short
  rw [isObject] at found reads small
  have document := readBoundedJson_saved small reads
  have same : ∀ text, (Json.text text).pyEq (.text text) = true :=
    fun text => (pyEq_text_iff _ text).2 rfl
  have zero : (Json.int 0).pyEq (.int 0) = true := (pyEq_int_iff 0 0).2 rfl
  unfold checkCompleted
  rw [found, unfailed, document, bootId.ofList_drop_directory]
  simp only [bind_eq_ok_iff, refuseIf_eq_ok_iff]
  refine
    ⟨members, rfl, (), ?_, (restoreNames adapter bootId).map .text, ?_, ?_⟩
  · simp [pathExists, schema, progress, receipt, owner, state, identifier,
      resources, same, names_pyEq]
  · rw [restores]
    exact twoRestores_restoreNames
  · simpa [trading, orders, paid, Json.isFalse, zero] using
      isRestoreName_of_mem

/-- What a completed boot leaves passes every later test. -/
theorem checkDirectory_completed
    {loads : List UInt8 → Loaded} {created : CivilTime}
    (short : observed.toList.length ≤ 512)
    (reads : ∀ value, Plain value →
      loads (saved floats value) = .value value) :
    checkDirectory adapter loads true none
        (bootId.directory,
          .directory false
            (completedLeaves floats adapter bootId created observed)) =
      .ok () := by
  have latched :
      (completedLeaves floats adapter bootId created observed).lookup
          "boot-latch.json" =
        some (.file false (saved floats (adapter.latch created))) :=
    rfl
  rcases readLatch_saved latched (reads _ (plain_latch created)) with
    ⟨latch, read, progress, _⟩
  have complete :
      checkCompleted adapter loads false bootId.directory
          (completedLeaves floats adapter bootId created observed) latch =
        .ok () :=
    checkCompleted_saved short rfl rfl progress (reads _ (plain_completed _))
  simp [checkDirectory, refuseIf, bootId.isBootName_directory, read, complete]

end Completed

/-! ## The test in the middle of a run -/

section MidRun

/-- The files of a boot directory that the checks look at. -/
def checkedFiles : List String :=
  ["boot-latch.json", "boot-complete.json", "boot-failure.json"]

/--
A run of `execute` after its admission: its directory, that was not there
before, holds its latch, that `fresh.save` wrote after it had found no link on
the way, and the files that its controller has added.
-/
structure MidRun (adapter : Adapter) (floats : FloatText)
    (before : OwnerWork) where
  bootId : BootId
  created : CivilTime
  others : List (String × Leaf)
  work : OwnerWork
  plain : before.plain = true
  unmoved : work.plain = before.plain
  unrelated : ∀ other ∈ others, other.1 ∉ checkedFiles
  listed :
    work.entries.Perm
      ((bootId.directory,
        .directory false
          (("boot-latch.json",
            .file false (saved floats (adapter.latch created))) ::
              others)) ::
        before.entries)

variable {adapter : Adapter} {floats : FloatText} {loads : List UInt8 → Loaded}
variable {before : OwnerWork}

theorem MidRun.lookup_others
    (run : MidRun adapter floats before) {name : String}
    (checked : name ∈ checkedFiles) : run.others.lookup name = none := by
  apply lookup_eq_none
  intro other listed same
  exact run.unrelated other listed (same ▸ checked)

/-- The entry of the run. -/
def MidRun.entry (run : MidRun adapter floats before) : Entry :=
  .directory false
    (("boot-latch.json",
      .file false (saved floats (adapter.latch run.created))) :: run.others)

/-- The listing in the middle of the run has one directory more. -/
theorem MidRun.bootDirs_perm (run : MidRun adapter floats before) :
    run.work.bootDirs.Perm
      ((run.bootId.directory, run.entry) :: before.bootDirs) := by
  have listed := run.listed.filter fun entry => startsBoot entry.1
  rw [List.filter_cons, if_pos run.bootId.startsBoot_directory] at listed
  exact listed

theorem MidRun.directory_not_mem (run : MidRun adapter floats before) :
    run.bootId.directory ∉ before.entries.map Prod.fst := by
  have distinct := (run.listed.map Prod.fst).nodup_iff.1 run.work.distinct
  rw [List.map_cons, List.nodup_cons] at distinct
  exact distinct.1

theorem MidRun.lookup_directory (run : MidRun adapter floats before) :
    run.work.entries.lookup run.bootId.directory = some run.entry :=
  lookup_of_mem run.work.distinct
    (run.listed.mem_iff.2 List.mem_cons_self)

theorem MidRun.checkExcluded_directory (run : MidRun adapter floats before) :
    checkExcluded run.work run.bootId.directory = .ok () := by
  have plain : run.work.plain = true := run.unmoved.trans run.plain
  simp [checkExcluded, run.lookup_directory, MidRun.entry, plain, refuseIf,
    run.bootId.isBootName_directory]

/-- The directory of the run passes the tests that are made of it. -/
theorem MidRun.checkDirectory_directory
    (run : MidRun adapter floats before)
    (reads :
      loads (saved floats (adapter.latch run.created)) =
        .value (adapter.latch run.created)) :
    checkDirectory adapter loads run.work.plain (some run.bootId.directory)
        (run.bootId.directory, run.entry) =
      .ok () := by
  have plain : run.work.plain = true := run.unmoved.trans run.plain
  have complete :
      (("boot-latch.json",
          Leaf.file false (saved floats (adapter.latch run.created))) ::
        run.others).lookup "boot-complete.json" = none := by
    rw [List.lookup_cons]
    exact run.lookup_others (by decide)
  have failure :
      (("boot-latch.json",
          Leaf.file false (saved floats (adapter.latch run.created))) ::
        run.others).lookup "boot-failure.json" = none := by
    rw [List.lookup_cons]
    exact run.lookup_others (by decide)
  have found :
      (("boot-latch.json",
          Leaf.file false (saved floats (adapter.latch run.created))) ::
        run.others).lookup "boot-latch.json" =
        some (.file false (saved floats (adapter.latch run.created))) :=
    List.lookup_cons_self
  rcases readLatch_saved found reads with ⟨members, read, state, starts⟩
  have own : checkCurrent adapter
      (("boot-latch.json",
          Leaf.file false (saved floats (adapter.latch run.created))) ::
        run.others) members = .ok () := by
    simp [checkCurrent, complete, failure, state, starts, refuseIf,
      pathExists, Adapter.plannedStarts, Json.pyEq, pyEqItems]
  simp [checkDirectory, MidRun.entry, plain, refuseIf,
    run.bootId.isBootName_directory, read, own]

/--
After an admitted plan the test in the middle of the run passes exactly when
the directory of the run was within the bound.
-/
theorem checkLatches_midRun_iff
    {found : Surroundings}
    (admitted : plan adapter loads before found = .ok .readyToStart)
    (run : MidRun adapter floats before)
    (reads :
      loads (saved floats (adapter.latch run.created)) =
        .value (adapter.latch run.created)) :
    checkLatches adapter loads run.work (some run.bootId.directory) =
        .ok () ↔
      before.bootDirs.length < latchLimit := by
  rcases checkLatches_eq_ok_iff.1 (checkLatches_of_plan admitted) with
    ⟨_, _, each⟩
  rw [checkLatches_eq_ok_iff, run.bootDirs_perm.length_eq, List.length_cons]
  constructor
  · rintro ⟨few, _⟩
    exact few
  · intro room
    refine ⟨room, ?_, ?_⟩
    · intro name same
      cases same
      exact run.checkExcluded_directory
    · intro directory listed
      rcases List.mem_cons.1 (run.bootDirs_perm.mem_iff.1 listed) with
        rfl | earlier
      · exact run.checkDirectory_directory reads
      · have other : directory.1 ≠ run.bootId.directory := by
          intro same
          apply run.directory_not_mem
          rw [← same]
          exact List.mem_map_of_mem (List.mem_filter.1 earlier).1
        rw [checkDirectory_of_ne other, run.unmoved]
        exact each directory earlier


end MidRun

/-! ## At the bound -/

/-- `json.loads` of a text whose objects repeat no key. -/
def fileLoads (floats : FloatText) (bytes : List UInt8) : Loaded :=
  match (decode bytes).bind (loads ⟨floats.float, true⟩) with
  | some value => .value value
  | none => .refused

theorem fileLoads_saved
    {floats : FloatText} {value : Json} (plain : Plain value) :
    fileLoads floats (saved floats value) = .value value := by
  rw [fileLoads, saved, decode_utf8, Option.bind_some,
    loads_writeIndented plain]

/-- An owner of zeros. -/
def zeroAdapter : Adapter where
  owner := String.ofList (List.replicate 32 '0')
  receiptSha256 := String.ofList (List.replicate 64 '0')
  owner_hex := by
    rw [isHex, String.toList_ofList]
    decide
  receiptSha256_hex := by
    rw [isSha256, String.toList_ofList]
    decide

/-- Thirty-three boots. -/
def numbered (index : Fin 33) : BootId :=
  ⟨String.ofList
      (List.replicate 30 '0' ++
        [Nat.digitChar (index.val / 10), Nat.digitChar (index.val % 10)]),
    by
      rw [isHex, String.toList_ofList]
      revert index
      decide⟩

theorem numbered_directory_injective :
    Function.Injective fun index => (numbered index).directory := by
  intro left right same
  have lists := congrArg String.toList same
  simp only [BootId.toList_directory, numbered, String.toList_ofList]
    at lists
  have digits := List.append_cancel_left (List.append_cancel_left lists)
  rw [List.cons.injEq, List.cons.injEq] at digits
  rcases digits with ⟨tensEqual, unitsEqual, _⟩
  have tens : left.val / 10 = right.val / 10 :=
    Fin.mk.inj
      (digitChar_inj ⟨_, by omega⟩ ⟨_, by omega⟩ tensEqual)
  have units : left.val % 10 = right.val % 10 :=
    Fin.mk.inj
      (digitChar_inj ⟨_, by omega⟩ ⟨_, by omega⟩ unitsEqual)
  omega

/-- The start of an epoch. -/
def epochStart : CivilTime where
  year := 2026
  month := 10
  day := 24
  hour := 0
  minute := 0
  second := 0
  microsecond := 0
  valid := by decide

/-- An earlier boot. -/
def earlierBoot (count : Fin 33) (index : Fin count) : BootId :=
  numbered (index.castLE count.isLt.le)

theorem earlierBoot_injective (count : Fin 33) :
    Function.Injective fun index => (earlierBoot count index).directory :=
  fun _ _ same =>
    Fin.castLE_injective _ (numbered_directory_injective same)

/-- So many completed boots. -/
def booted (count : Fin 33) : OwnerWork where
  plain := true
  entries :=
    (List.finRange count).map fun index =>
      ((earlierBoot count index).directory,
        .directory false
          (completedLeaves exponentFloats zeroAdapter
            (earlierBoot count index) epochStart (isoformat epochStart)))
  distinct := by
    rw [List.map_map]
    exact List.Nodup.map (earlierBoot_injective count)
      (List.nodup_finRange count)

/-- Thirty-two completed boots. -/
def crowded : OwnerWork :=
  booted (Fin.last 32)

/-- All containers of the owner are stopped, and nothing else is amiss. -/
def stopped : Surroundings where
  noLegacyProcesses := .ok ()
  states :=
    [(zeroAdapter.targetPg, "exited"), (zeroAdapter.redis, "exited"),
      (zeroAdapter.serve, "exited")]
  active := .ok ∅
  runningStatus := .error (.rejected "CURRENT_PROFILE_RUNNING_STATUS_REQUIRED")
  stoppedStatus := .ok ()
  restoreHosts := .ok ()

theorem plan_stopped
    {loads : List UInt8 → Loaded} {work : OwnerWork}
    (passed : checkLatches zeroAdapter loads work none = .ok ()) :
    plan zeroAdapter loads work stopped = .ok .readyToStart := by
  have topology :
      classifyTopology stopped.states ∅
          {zeroAdapter.targetPg, zeroAdapter.redis, zeroAdapter.serve} =
        .ok .readyToStart := by
    simp [classifyTopology, stopped, refuseIf]
  rw [plan, passed]
  simp [stopped] at topology ⊢
  simp [topology]

theorem length_bootDirs_booted (count : Fin 33) :
    (booted count).bootDirs.length = count := by
  have all : (booted count).bootDirs = (booted count).entries := by
    apply List.filter_eq_self.2
    intro entry listed
    rcases List.mem_map.1 listed with ⟨index, _, rfl⟩
    exact (earlierBoot count index).startsBoot_directory
  rw [all, booted, List.length_map, List.length_finRange]

theorem checkLatches_booted (count : Fin 33) :
    checkLatches zeroAdapter (fileLoads exponentFloats) (booted count) none =
      .ok () := by
  rw [checkLatches_eq_ok_iff, length_bootDirs_booted]
  refine
    ⟨Nat.le_of_lt_succ count.isLt, fun _ impossible => (by cases impossible),
      ?_⟩
  intro directory listed
  rcases List.mem_map.1 (List.mem_filter.1 listed).1 with ⟨index, _, rfl⟩
  apply checkDirectory_completed
  · exact (length_isoformat_le epochStart).trans (by decide)
  · intro value plain
    exact fileLoads_saved plain

/-- The run of the next boot. -/
def nextRun (count : Fin 33) :
    MidRun zeroAdapter exponentFloats (booted count) where
  bootId := numbered count
  created := epochStart
  others := []
  work :=
    { plain := true
      entries :=
        ((numbered count).directory,
          .directory false
            [("boot-latch.json",
              .file false
                (saved exponentFloats (zeroAdapter.latch epochStart)))]) ::
          (booted count).entries
      distinct := by
        rw [List.map_cons, List.nodup_cons]
        refine ⟨?_, (booted count).distinct⟩
        intro listed
        rcases List.mem_map.1 listed with ⟨entry, member, same⟩
        rcases List.mem_map.1 member with ⟨index, _, rfl⟩
        have equal : index.castLE count.isLt.le = count :=
          numbered_directory_injective same
        exact absurd (congrArg Fin.val equal) index.isLt.ne }
  plain := rfl
  unmoved := rfl
  unrelated := fun _ impossible => by cases impossible
  listed := List.Perm.refl _

/-- The thirty-third boot. -/
def crowdedRun : MidRun zeroAdapter exponentFloats crowded :=
  nextRun (Fin.last 32)

/--
With thirty-two completed boots a boot is admitted, and its own latch makes
the later test refuse.
-/
theorem checkLatches_midRun_crowded :
    plan zeroAdapter (fileLoads exponentFloats) crowded stopped =
        .ok .readyToStart ∧
      checkLatches zeroAdapter (fileLoads exponentFloats) crowdedRun.work
          (some crowdedRun.bootId.directory) =
        .error (.rejected "BOOT_LATCH_INVENTORY_BOUND_EXCEEDED") := by
  refine ⟨plan_stopped (checkLatches_booted _), ?_⟩
  have count : crowdedRun.work.bootDirs.length = 33 := by
    rw [crowdedRun.bootDirs_perm.length_eq, List.length_cons, crowded,
      length_bootDirs_booted]
    rfl
  have exceeded : latchLimit < crowdedRun.work.bootDirs.length := by
    rw [count]
    decide
  rw [checkLatches, refuseIf, if_pos exceeded]
  rfl

theorem checkLatches_midRun_second :
    (booted 1).bootDirs.length = 1 ∧
      checkLatches zeroAdapter (fileLoads exponentFloats) (nextRun 1).work
          (some (nextRun 1).bootId.directory) =
        .ok () := by
  have one : (booted 1).bootDirs.length = 1 := length_bootDirs_booted 1
  refine ⟨one, ?_⟩
  refine
    (checkLatches_midRun_iff (plan_stopped (checkLatches_booted 1))
      (nextRun 1) (fileLoads_saved (plain_latch _))).2 ?_
  rw [one]
  decide

end KairosDeploy.Epoch.BootAdmission
