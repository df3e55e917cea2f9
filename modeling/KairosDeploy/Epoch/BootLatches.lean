import KairosDeploy.Library.JsonIndent
import KairosDeploy.Library.PyObject
import KairosDeploy.Library.Refusal
import KairosDeploy.Library.Timestamp

/-!
# The latches of the current boot

`runtime_epoch_current_boot.CurrentEpochBootAdapter`.  Every `execute` leaves
a directory `boot-<id>` in the work directory of its owner, with a latch that
is written first and a completion record that is written last.  `plan` refuses
a work directory with an entry that it does not know as completed, and
`execute` makes the same test again, its own directory left out, before it
starts the serving container.

Names are listed without regard to case, as on the system that the paths of
the module name.  Where a loop would report one of several entries, the order
of the listing decides.
-/

namespace KairosDeploy.Epoch.BootLatches

open KairosDeploy.Library.HexDigest
open KairosDeploy.Library.JsonIndent
open KairosDeploy.Library.JsonText
open KairosDeploy.Library.JsonValue
open KairosDeploy.Library.PyObject (hashable lookup_of_mem)
open KairosDeploy.Library.Refusal
open KairosDeploy.Library.Timestamp

/-! ## Directories -/

/-- An entry of a boot directory. -/
inductive Leaf where
  | file (reparse : Bool) (bytes : List UInt8)
  | directory (reparse : Bool)
  /-- A symbolic link, and whether its target exists. -/
  | symlink (live : Bool)
deriving DecidableEq

/-- An entry of the work directory of an owner. -/
inductive Entry where
  | file
  | symlink
  | directory (reparse : Bool) (leaves : List (String × Leaf))
deriving DecidableEq

/-- `owner_work`. -/
structure OwnerWork where
  /-- Neither it nor a directory above it is a link or a reparse point. -/
  plain : Bool
  entries : List (String × Entry)
  distinct : (entries.map Prod.fst).Nodup

/-- Whether `epoch.fresh.safe` refuses a path for its last component. -/
def Leaf.isLink : Leaf → Bool
  | .file reparse _ => reparse
  | .directory reparse => reparse
  | .symlink _ => true

/-- `path.exists()`. -/
def pathExists : Option Leaf → Bool
  | some (.symlink live) => live
  | some _ => true
  | none => false

/-- What a call raises: `CurrentBootRejected`, or something else. -/
inductive Failure where
  | rejected (reason : String)
  | other (kind : String)
deriving DecidableEq, Repr

/-- What `json.loads` with `unique_object` makes of the bytes of a file. -/
inductive Loaded where
  | value (value : Json)
  /-- One of the exceptions that `read_bounded_json` catches. -/
  | refused
  | raised (kind : String)

/--
`read_bounded_json` of a file in an entry.  `linked` says that the entry or
something above it is a link or a reparse point.
-/
def readBoundedJson (loads : List UInt8 → Loaded) (linked : Bool)
    (leaf : Option Leaf) (maximum : Nat) : Except Failure Members := do
  refuseIf ((linked || leaf.any Leaf.isLink) = true)
    (.other "REPARSE_PATH_REJECTED")
  match leaf with
  | some (.file _ bytes) => do
      refuseIf (maximum < bytes.length)
        (.rejected "BOUNDED_REGULAR_JSON_REQUIRED")
      match loads bytes with
      | .value (.object members) => .ok members
      | .value _ => .error (.rejected "JSON_OBJECT_REQUIRED")
      | .refused => .error (.rejected "BOUNDED_JSON_PARSE_REQUIRED")
      | .raised kind => .error (.other kind)
  | _ => .error (.rejected "BOUNDED_REGULAR_JSON_REQUIRED")

/-! ## The adapter -/

/-- The owner and the receipt that `validate_current_receipt` has admitted. -/
structure Adapter where
  owner : String
  receiptSha256 : String
  owner_hex : isHex 32 owner = true
  receiptSha256_hex : isSha256 receiptSha256 = true

/-- `uuid.uuid4().hex`. -/
abbrev BootId : Type :=
  { text : String // isHex 32 text = true }

/-- `"boot-" + boot_id`. -/
def BootId.directory (bootId : BootId) : String :=
  "boot-" ++ bootId.val

section Adapter

variable (adapter : Adapter)

/-- `"kairos-epoch-" + owner[:12]`. -/
def Adapter.resourcePrefix : String :=
  "kairos-epoch-" ++ String.ofList (adapter.owner.toList.take 12)

def Adapter.targetPg : String :=
  adapter.resourcePrefix ++ "-pg"

def Adapter.redis : String :=
  adapter.resourcePrefix ++ "-redis"

def Adapter.serve : String :=
  adapter.resourcePrefix ++ "-serve"

/-- `resource_names`. -/
def Adapter.names : Members :=
  dict
    [("network", .text (adapter.resourcePrefix ++ "-private")),
      ("target_volume", .text (adapter.resourcePrefix ++ "-pg-data")),
      ("source_volume", .text (adapter.resourcePrefix ++ "-source-data")),
      ("restore_volume", .text (adapter.resourcePrefix ++ "-restore-data")),
      ("redis_volume", .text (adapter.resourcePrefix ++ "-redis-data")),
      ("target_pg", .text adapter.targetPg),
      ("source_pg", .text (adapter.resourcePrefix ++ "-source")),
      ("restore_pg", .text (adapter.resourcePrefix ++ "-restore")),
      ("redis", .text adapter.redis),
      ("serve", .text adapter.serve)]

/-- `[self.names["target_pg"], self.names["redis"]]`. -/
def Adapter.plannedStarts : Json :=
  .array [.text adapter.targetPg, .text adapter.redis]

/-! ## Checking the latches -/

/-- `LATCH_LIMIT`. -/
def latchLimit : Nat := 32

/-- `boot-[0-9a-f]{32}` on the whole name. -/
def isBootName (name : String) : Bool :=
  "boot-".toList.isPrefixOf name.toList &&
    isHex 32 (String.ofList (name.toList.drop 5))

/-- Whether `glob("boot-*")` lists a name. -/
def startsBoot (name : String) : Bool :=
  "boot-".toList.isPrefixOf (name.toList.map Char.toLower)

/-- `self.owner_work.glob("boot-*")`. -/
def OwnerWork.bootDirs (work : OwnerWork) : List (String × Entry) :=
  work.entries.filter fun entry => startsBoot entry.1

/-- The refusal of an entry that is no boot directory with a latch. -/
def unknownLatch : Failure :=
  .rejected "UNKNOWN_PRIOR_BOOT_LATCH"

/-- The refusal of an entry that is not known to be completed. -/
def failedLatch : Failure :=
  .rejected "UNKNOWN_OR_FAILED_PRIOR_BOOT_LATCH"

/-- `except CurrentBootRejected: raise` the refusal of such an entry. -/
def orFailedLatch {Value : Type} :
    Except Failure Value → Except Failure Value
  | .error (.rejected _) => .error failedLatch
  | other => other

/-- `read_bounded_json(directory / "boot-latch.json", 16_384)`, tested. -/
def readLatch (loads : List UInt8 → Loaded) (linked : Bool)
    (leaves : List (String × Leaf)) : Except Failure Members := do
  let leaf := leaves.lookup "boot-latch.json"
  match leaf with
  | some (.file _ _) => pure ()
  | _ => .error unknownLatch
  let latch ← orFailedLatch (readBoundedJson loads linked leaf 16384)
  refuseIf
    ((get latch "schema").pyEq
        (.text "kairos.current-epoch-boot-latch.v1") = false ∨
      (get latch "owner").pyEq (.text adapter.owner) = false ∨
      (get latch "receipt_sha256").pyEq (.text adapter.receiptSha256) = false)
    failedLatch
  return latch

/-- The tests of the directory of the run that calls. -/
def checkCurrent (leaves : List (String × Leaf)) (latch : Members) :
    Except Failure Unit :=
  refuseIf
    ((get latch "state").pyEq (.text "IN_PROGRESS") = false ∨
      (get latch "planned_starts").pyEq adapter.plannedStarts = false ∨
      pathExists (leaves.lookup "boot-complete.json") = true ∨
      pathExists (leaves.lookup "boot-failure.json") = true)
    (.rejected "EXACT_CURRENT_IN_PROGRESS_LATCH_REQUIRED")

/-- `kairos-epoch-<owner>-restore-current-[0-9a-f]{14}` on the whole name. -/
def isRestoreName : Json → Bool
  | .text name =>
      let start := adapter.resourcePrefix ++ "-restore-current-"
      start.toList.isPrefixOf name.toList &&
        isHex 14 (String.ofList (name.toList.drop start.toList.length))
  | _ => false

/-- The tests of `retained_restore_containers`, up to the names. -/
def twoRestores : Json → Except Failure (List Json)
  | .array [first, second] => do
      refuseIf ((hashable first && hashable second) = false)
        (.other "TypeError")
      refuseIf (first.pyEq second = true) failedLatch
      return [first, second]
  | _ => .error failedLatch

/-- The tests of the directory of an earlier run. -/
def checkCompleted (loads : List UInt8 → Loaded) (linked : Bool)
    (name : String) (leaves : List (String × Leaf)) (latch : Members) :
    Except Failure Unit := do
  let completed ←
    orFailedLatch
      (readBoundedJson loads linked (leaves.lookup "boot-complete.json")
        32768)
  refuseIf
    (pathExists (leaves.lookup "boot-failure.json") = true ∨
      (get completed "schema").pyEq
        (.text "kairos.current-epoch-boot-result.v1") = false ∨
      (get latch "state").pyEq (.text "IN_PROGRESS") = false ∨
      (get completed "receipt_sha256").pyEq
        (.text adapter.receiptSha256) = false ∨
      (get completed "owner").pyEq (.text adapter.owner) = false ∨
      (get completed "state").pyEq
        (.text "PASS_CURRENT_EPOCH_BOOT") = false ∨
      (get completed "boot_id").pyEq
        (.text (String.ofList (name.toList.drop 5))) = false ∨
      (get completed "resources").pyEq (.object adapter.names) = false)
    failedLatch
  let restores ← twoRestores (get completed "retained_restore_containers")
  refuseIf
    (restores.all (isRestoreName adapter) = false ∨
      (get completed "trading_started").isFalse = false ∨
      (get completed "orders_submitted").pyEq (.int 0) = false ∨
      (get completed "paid_calls").pyEq (.int 0) = false)
    failedLatch

/-- The body of the loop over the boot directories. -/
def checkDirectory (loads : List UInt8 → Loaded) (plain : Bool)
    (excluded : Option String) (directory : String × Entry) :
    Except Failure Unit := do
  match directory.2 with
  | .directory reparse leaves => do
      refuseIf (isBootName directory.1 = false) unknownLatch
      let linked := !plain || reparse
      let latch ← readLatch adapter loads linked leaves
      if excluded = some directory.1 then
        checkCurrent adapter leaves latch
      else
        checkCompleted adapter loads linked directory.1 leaves latch
  | _ => .error unknownLatch

/-- The tests of `exclude_current_work`, a path in the work directory. -/
def checkExcluded (work : OwnerWork) (name : String) :
    Except Failure Unit :=
  match work.entries.lookup name with
  | some (.directory reparse _) => do
      refuseIf (work.plain = false ∨ reparse = true)
        (.other "REPARSE_PATH_REJECTED")
      refuseIf (isBootName name = false)
        (.rejected "EXACT_CURRENT_BOOT_WORKDIR_REQUIRED")
  | some .symlink => .error (.other "REPARSE_PATH_REJECTED")
  | _ => do
      refuseIf (work.plain = false) (.other "REPARSE_PATH_REJECTED")
      .error (.rejected "EXACT_CURRENT_BOOT_WORKDIR_REQUIRED")

/-- `_check_latches`. -/
def checkLatches (loads : List UInt8 → Loaded) (work : OwnerWork)
    (excluded : Option String) : Except Failure Unit := do
  refuseIf (latchLimit < work.bootDirs.length)
    (.rejected "BOOT_LATCH_INVENTORY_BOUND_EXCEEDED")
  match excluded with
  | none => pure ()
  | some name => checkExcluded work name
  work.bootDirs.forM (checkDirectory adapter loads work.plain excluded)

/-! ## Planning -/

/-- The states of a plan. -/
inductive Plan where
  | alreadyRunning
  | readyToStart
deriving DecidableEq, Repr

/-- `classify_topology`. -/
def classifyTopology (states : List (String × String))
    (active expected : Finset String) : Except Failure Plan := do
  refuseIf
    ((states.map Prod.fst).toFinset ≠ expected ∨ ¬ active ⊆ expected)
    (.rejected "PARTIAL_OR_UNKNOWN_EPOCH_TOPOLOGY")
  let values := (states.map Prod.snd).toFinset
  if values = {"running"} then do
    refuseIf (active ≠ expected)
      (.rejected "RUNNING_EPOCH_INVENTORY_MISMATCH")
    return .alreadyRunning
  else if values = {"exited"} then do
    refuseIf (active ≠ ∅) (.rejected "UNEXPECTED_ACTIVE_EPOCH_PROCESS")
    return .readyToStart
  else
    .error (.rejected "PARTIAL_OR_UNKNOWN_EPOCH_TOPOLOGY")

/--
What `plan` finds outside the boot directories: the states of the containers,
the names of the running ones, and the verdicts of the checks of the processes,
of the status file and of the hosts for the restores.
-/
structure Surroundings where
  noLegacyProcesses : Except Failure Unit
  states : List (String × String)
  active : Except Failure (Finset String)
  runningStatus : Except Failure Unit
  stoppedStatus : Except Failure Unit
  restoreHosts : Except Failure Unit

/-- `plan`. -/
def plan (loads : List UInt8 → Loaded) (work : OwnerWork)
    (found : Surroundings) : Except Failure Plan := do
  checkLatches adapter loads work none
  found.noLegacyProcesses
  let active ← found.active
  let state ←
    classifyTopology found.states active
      {adapter.targetPg, adapter.redis, adapter.serve}
  match state with
  | .alreadyRunning => do
      found.runningStatus
      return .alreadyRunning
  | .readyToStart => do
      found.stoppedStatus
      found.restoreHosts
      return .readyToStart

/-! ## The directory of a run -/

/-- The latch that `execute` writes. -/
def Adapter.latch (created : CivilTime) : Json :=
  .object
    (dict
      [("schema", .text "kairos.current-epoch-boot-latch.v1"),
        ("owner", .text adapter.owner),
        ("receipt_sha256", .text adapter.receiptSha256),
        ("state", .text "IN_PROGRESS"),
        ("created_at_utc", .text (isoformat created)),
        ("planned_starts", adapter.plannedStarts)])

/-- The record that `execute` writes at its end. -/
def Adapter.completed (bootId : BootId) (observed : String)
    (restores : List String) : Json :=
  .object
    (dict
      [("schema", .text "kairos.current-epoch-boot-result.v1"),
        ("state", .text "PASS_CURRENT_EPOCH_BOOT"),
        ("owner", .text adapter.owner),
        ("receipt_sha256", .text adapter.receiptSha256),
        ("boot_id", .text bootId.val),
        ("resources", .object adapter.names),
        ("status_observed_at_utc", .text observed),
        ("trading_started", .bool false),
        ("orders_submitted", .int 0),
        ("paid_calls", .int 0),
        ("retained_restore_containers", .array (restores.map .text))])

end Adapter

/-! ## What the checks say -/

section Checks

variable {adapter : Adapter} {loads : List UInt8 → Loaded}
variable {work : OwnerWork} {excluded : Option String}

theorem forM_eq_ok_iff
    {Item : Type} (items : List Item)
    (check : Item → Except Failure Unit) :
    items.forM check = .ok () ↔ ∀ item ∈ items, check item = .ok () := by
  induction items with
  | nil =>
      constructor
      · intro _ item listed
        cases listed
      · intro _
        rfl
  | cons head rest induction =>
      have unfolded :
          (head :: rest).forM check =
            (check head >>= fun _ => rest.forM check) :=
        rfl
      rw [unfolded, bind_eq_ok_iff, List.forall_mem_cons]
      constructor
      · rintro ⟨_, first, others⟩
        exact ⟨first, induction.1 others⟩
      · rintro ⟨first, others⟩
        exact ⟨(), first, induction.2 others⟩

/-- The latches pass when their count and each of them does. -/
theorem checkLatches_eq_ok_iff :
    checkLatches adapter loads work excluded = .ok () ↔
      work.bootDirs.length ≤ latchLimit ∧
        (∀ name ∈ excluded, checkExcluded work name = .ok ()) ∧
        ∀ directory ∈ work.bootDirs,
          checkDirectory adapter loads work.plain excluded directory =
            .ok () := by
  unfold checkLatches
  cases excluded with
  | none =>
      simp only [bind_eq_ok_iff, refuseIf_eq_ok_iff, forM_eq_ok_iff, not_lt]
      constructor
      · rintro ⟨_, few, each⟩
        exact ⟨few, fun _ impossible => (by cases impossible), each⟩
      · rintro ⟨few, _, each⟩
        exact ⟨(), few, each⟩
  | some name =>
      simp only [bind_eq_ok_iff, refuseIf_eq_ok_iff, forM_eq_ok_iff, not_lt]
      constructor
      · rintro ⟨_, few, _, own, each⟩
        refine ⟨few, fun other same => ?_, each⟩
        cases same
        exact own
      · rintro ⟨few, own, each⟩
        exact ⟨(), few, (), own name rfl, each⟩

/-- An admitted plan has passed the latches. -/
theorem checkLatches_of_plan
    {found : Surroundings} {state : Plan}
    (planned : plan adapter loads work found = .ok state) :
    checkLatches adapter loads work none = .ok () := by
  unfold plan at planned
  rw [bind_eq_ok_iff] at planned
  rcases planned with ⟨_, passed, _⟩
  exact passed

/-- A directory of another name is checked as before. -/
theorem checkDirectory_of_ne
    {plain : Bool} {name : String} {directory : String × Entry}
    (other : directory.1 ≠ name) :
    checkDirectory adapter loads plain (some name) directory =
      checkDirectory adapter loads plain none directory := by
  have differs : ¬ some name = some directory.1 :=
    fun same => other (Option.some.inj same).symm
  have absent : ¬ none = some directory.1 := fun impossible => by
    cases impossible
  unfold checkDirectory
  simp only [if_neg differs, if_neg absent]

end Checks

/-! ## The own directory -/

section Own

variable {adapter : Adapter} {floats : FloatText}

theorem BootId.toList_directory (bootId : BootId) :
    bootId.directory.toList = "boot-".toList ++ bootId.val.toList := by
  rw [BootId.directory, String.toList_append]

/-- `directory.name.removeprefix("boot-")`. -/
theorem BootId.ofList_drop_directory (bootId : BootId) :
    String.ofList (bootId.directory.toList.drop 5) = bootId.val := by
  rw [bootId.toList_directory, List.drop_append_of_le_length (by decide)]
  exact String.ofList_toList

theorem BootId.isBootName_directory (bootId : BootId) :
    isBootName bootId.directory = true := by
  unfold isBootName
  rw [bootId.ofList_drop_directory, bootId.property, bootId.toList_directory]
  simp

theorem BootId.startsBoot_directory (bootId : BootId) :
    startsBoot bootId.directory = true := by
  rw [startsBoot, bootId.toList_directory, List.map_append]
  have same : "boot-".toList.map Char.toLower = "boot-".toList := by decide
  rw [same]
  simp

theorem length_owner : adapter.owner.toList.length = 32 := by
  have hex := adapter.owner_hex
  rw [isHex, Bool.and_eq_true, decide_eq_true_eq] at hex
  exact hex.1

theorem length_receiptSha256 : adapter.receiptSha256.toList.length = 64 := by
  have hex := adapter.receiptSha256_hex
  rw [isSha256, Bool.and_eq_true, decide_eq_true_eq] at hex
  exact hex.1

theorem length_resourcePrefix :
    adapter.resourcePrefix.toList.length = 25 := by
  have start : (String.ofList (adapter.owner.toList.take 12)).toList.length =
      12 := by
    rw [String.toList_ofList, List.length_take, length_owner]
    rfl
  rw [Adapter.resourcePrefix, String.toList_append, List.length_append, start]
  rfl

theorem length_isoformat_le (time : CivilTime) :
    (isoformat time).toList.length ≤ 32 := by
  have padded_length : ∀ width value, (padded width value).length = width := by
    intro width
    induction width with
    | zero => intro value; rfl
    | succ width induction =>
        intro value
        rw [padded, List.length_append, induction]
        rfl
  rw [isoformat, String.toList_ofList, isoFields]
  split_ifs <;> simp [padded_length, zeroOffset]

theorem plain_latch (created : CivilTime) :
    Plain (adapter.latch created) := by
  apply plain_dict
  intro entry listed
  simp only [List.mem_cons, List.not_mem_nil, or_false] at listed
  rcases listed with rfl | rfl | rfl | rfl | rfl | rfl
  · exact .text _
  · exact .text _
  · exact .text _
  · exact .text _
  · exact .text _
  · apply Plain.array
    intro item planned
    simp only [List.mem_cons, List.not_mem_nil, or_false] at planned
    rcases planned with rfl | rfl
    · exact .text _
    · exact .text _

/-- A latch is short enough to be read. -/
theorem length_saved_latch_le (created : CivilTime) :
    (saved floats (adapter.latch created)).length ≤ 16384 := by
  have owner := length_writeText_le adapter.owner
  have receipt := length_writeText_le adapter.receiptSha256
  have time := length_writeText_le (isoformat created)
  have short := length_isoformat_le created
  have targetPg := length_writeText_le adapter.targetPg
  have redis := length_writeText_le adapter.redis
  have targetPgLength : adapter.targetPg.toList.length = 28 := by
    rw [Adapter.targetPg, String.toList_append, List.length_append,
      length_resourcePrefix]
    rfl
  have redisLength : adapter.redis.toList.length = 31 := by
    rw [Adapter.redis, String.toList_append, List.length_append,
      length_resourcePrefix]
    rfl
  rw [length_owner] at owner
  rw [length_receiptSha256] at receipt
  rw [targetPgLength] at targetPg
  rw [redisLength] at redis
  have starts :=
    length_indented_array_le floats 1
      [.text adapter.targetPg, .text adapter.redis]
  have texts :
      ∀ depth text, writeIndented floats depth (.text text) = writeText text :=
    fun _ _ => rfl
  simp only [List.map_cons, List.map_nil, List.sum_cons, List.sum_nil,
    itemCost, texts] at starts
  have bound :
      (writeIndented floats 0 (adapter.latch created)).length ≤ 4000 := by
    apply (length_indented_dict_le floats 0 (by simp)).trans
    have keys :
        (writeText "schema").length = 8 ∧ (writeText "owner").length = 7 ∧
          (writeText "receipt_sha256").length = 16 ∧
          (writeText "state").length = 7 ∧
          (writeText "created_at_utc").length = 16 ∧
          (writeText "planned_starts").length = 16 ∧
          (writeText "kairos.current-epoch-boot-latch.v1").length = 36 ∧
          (writeText "IN_PROGRESS").length = 13 := by
      decide
    simp only [List.map_cons, List.map_nil, List.sum_cons, List.sum_nil,
      memberCost, Adapter.plannedStarts, texts, zero_add] at starts ⊢
    omega
  have bytes := length_saved_le floats (adapter.latch created)
  omega

/-- The fields of the latch that the checks look at. -/
theorem get_latch (created : CivilTime) :
    ∃ members, adapter.latch created = .object members ∧
      get members "schema" =
        .text "kairos.current-epoch-boot-latch.v1" ∧
      get members "owner" = .text adapter.owner ∧
      get members "receipt_sha256" = .text adapter.receiptSha256 ∧
      get members "state" = .text "IN_PROGRESS" ∧
      get members "planned_starts" = adapter.plannedStarts := by
  refine ⟨_, rfl, ?_, ?_, ?_, ?_, ?_⟩
  · exact get_dict_of_mem (by simp) (by simp)
  · exact get_dict_of_mem (by simp) (by simp)
  · exact get_dict_of_mem (by simp) (by simp)
  · exact get_dict_of_mem (by simp) (by simp)
  · exact get_dict_of_mem (by simp) (by simp)

/-- A key that no entry has is not found. -/
theorem lookup_eq_none
    {Value : Type} {entries : List (String × Value)} {key : String}
    (absent : ∀ entry ∈ entries, entry.1 ≠ key) :
    entries.lookup key = none := by
  rw [List.lookup_eq_none_iff]
  intro entry listed
  exact bne_iff_ne.2 (absent entry listed).symm

/-- A saved object is read back, where it is short enough. -/
theorem readBoundedJson_saved
    {loads : List UInt8 → Loaded} {members : Members} {maximum : Nat}
    (short : (saved floats (.object members)).length ≤ maximum)
    (reads :
      loads (saved floats (.object members)) = .value (.object members)) :
    readBoundedJson loads false
        (some (.file false (saved floats (.object members)))) maximum =
      .ok members := by
  simp [readBoundedJson, Leaf.isLink, refuseIf, not_lt.2 short, reads]

/-- A saved latch that is found is read and accepted. -/
theorem readLatch_saved
    {loads : List UInt8 → Loaded} {leaves : List (String × Leaf)}
    {created : CivilTime}
    (found :
      leaves.lookup "boot-latch.json" =
        some (.file false (saved floats (adapter.latch created))))
    (reads :
      loads (saved floats (adapter.latch created)) =
        .value (adapter.latch created)) :
    ∃ members, readLatch adapter loads false leaves = .ok members ∧
      get members "state" = .text "IN_PROGRESS" ∧
      get members "planned_starts" = adapter.plannedStarts := by
  rcases @get_latch adapter created with
    ⟨members, isObject, schema, owner, receipt, state, starts⟩
  refine ⟨members, ?_, state, starts⟩
  have short := @length_saved_latch_le adapter floats created
  rw [isObject] at found reads short
  have document := readBoundedJson_saved short reads
  have same : ∀ text, (Json.text text).pyEq (.text text) = true :=
    fun text => (pyEq_text_iff _ text).2 rfl
  simp [readLatch, found, document, orFailedLatch, refuseIf, schema, owner,
    receipt, same]

end Own

end KairosDeploy.Epoch.BootLatches
