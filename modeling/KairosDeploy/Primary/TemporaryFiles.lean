import KairosDeploy.Primary.Controller

/-!
# Temporary files in the primary container are never forgotten

Each temporary file goes through three stages: not reserved, reserved by a
record on disk, and removed with a second record.  A file of the run exists at
most in the middle stage.  The functions of the controller that touch the
files keep every slot in one of these stages, however they end.
-/

namespace KairosDeploy.Primary.TemporaryFiles

open KairosDeploy.Library.Refusal
open KairosDeploy.Library.JsonValue
open KairosDeploy.Library.HexDigest
open KairosDeploy.Library.FaultyProgram
open KairosDeploy.Library.FaultyProgram.Program
open KairosDeploy.Primary.RemoteArtifacts
open KairosDeploy.Primary.Controller

variable {env : Environment} {purpose : Purpose} {payload : List UInt8}

/-! ## The records that the controller writes -/

/-- The bytes that a SQL reservation may speak of. -/
def Reservable (env : Environment) (purpose : Purpose)
    (payload : List UInt8) : Prop :=
  purpose ≠ .backupAfter →
    payload <+: env.sql purpose ∧ 0 < payload.length ∧
      (payload.length : Int) ≤ maxPrivateSqlBytes

theorem get_createRecord (index : Nat) {key : String} {value : Json}
    (listed :
      (createEntries env purpose payload)[index]? = some (key, value)) :
    get (createRecord env purpose payload) key = value := by
  have distinct :
      ((createEntries env purpose payload).map Prod.fst).Nodup := by
    show List.Nodup
      ["schema_version", "kind", "owner", "source_container_id", "purpose",
        "remote_path", "expected_revision", "expected_sha256",
        "expected_bytes", "maximum_bytes"]
    decide
  exact get_dict_of_mem distinct (List.mem_of_getElem? listed)

theorem get_createRecord_maximum :
    get (createRecord env purpose payload) "maximum_bytes" =
      .int (expectations env purpose payload).2.2 :=
  get_createRecord 9 rfl

theorem get_createRecord_bytes :
    get (createRecord env purpose payload) "expected_bytes" =
      (expectations env purpose payload).2.1 :=
  get_createRecord 8 rfl

theorem get_createRecord_sha256 :
    get (createRecord env purpose payload) "expected_sha256" =
      (expectations env purpose payload).1 :=
  get_createRecord 7 rfl

theorem boundsAccepted_createRecord
    (reservable : Reservable env purpose payload) :
    boundsAccepted purpose (createRecord env purpose payload) = true := by
  unfold boundsAccepted
  rw [get_createRecord_maximum, get_createRecord_bytes,
    get_createRecord_sha256]
  by_cases dump : purpose = .backupAfter
  · simp [expectations, dump, exactInt, Json.pyEq]
  · have source := reservable dump
    simp [expectations, dump, exactInt, strIsSha256, source.2.1, source.2.2,
      env.sha256.isSha256_hexdigest]

/-- Every reservation that the controller writes is accepted. -/
theorem createAccepted_createRecord
    (reservable : Reservable env purpose payload) :
    createAccepted env.owner env.revision purpose
      (createRecord env purpose payload) = true := by
  have bounds := boundsAccepted_createRecord reservable
  have keys : keySet (createRecord env purpose payload) = createFields := by
    rw [createRecord, keySet_dict]
    simp only [createEntries, keySet_cons, keySet_nil, insert_empty_eq,
      createFields]
  have version :
      get (createRecord env purpose payload) "schema_version" = .int 1 :=
    get_createRecord 0 rfl
  simp only [createAccepted, keys, version, bounds, decide_true,
    Bool.and_true, Bool.true_and, Bool.and_eq_true, pyEq_text_iff,
    pyEq_int_iff, true_and]
  exact
    ⟨⟨⟨⟨⟨get_createRecord 1 rfl, get_createRecord 2 rfl⟩,
            get_createRecord 3 rfl⟩,
          get_createRecord 4 rfl⟩,
        get_createRecord 5 rfl⟩,
      get_createRecord 6 rfl⟩

/-- The digest of the reservation. -/
def reservationSha (env : Environment) (purpose : Purpose)
    (payload : List UInt8) : String :=
  env.sha256.hexdigest (env.encode (createRecord env purpose payload))

theorem get_removeRecord (index : Nat)
    {intentSha outcome : String} {sha256 size : Json} {key : String}
    {value : Json}
    (listed :
      (removeEntries env purpose intentSha outcome sha256 size)[index]? =
        some (key, value)) :
    get (removeRecord env purpose intentSha outcome sha256 size) key =
      value := by
  have distinct :
      ((removeEntries env purpose intentSha outcome sha256 size).map
        Prod.fst).Nodup := by
    show List.Nodup
      ["schema_version", "kind", "owner", "source_container_id", "purpose",
        "remote_path", "create_intent_sha256", "outcome", "observed_sha256",
        "observed_bytes"]
    decide
  exact get_dict_of_mem distinct (List.mem_of_getElem? listed)

theorem removeBound_removeRecord
    {intentSha outcome : String} {sha256 size : Json} :
    removeBound env.owner purpose intentSha
      (removeRecord env purpose intentSha outcome sha256 size) = true := by
  have keys :
      keySet (removeRecord env purpose intentSha outcome sha256 size) =
        removeFields := by
    rw [removeRecord, keySet_dict]
    simp only [removeEntries, keySet_cons, keySet_nil, insert_empty_eq,
      removeFields]
  have version :
      get (removeRecord env purpose intentSha outcome sha256 size)
        "schema_version" = .int 1 :=
    get_removeRecord 0 rfl
  simp only [removeBound, keys, version, decide_true, Bool.true_and,
    Bool.and_eq_true, pyEq_text_iff, pyEq_int_iff, true_and]
  exact
    ⟨⟨⟨⟨⟨get_removeRecord 1 rfl, get_removeRecord 2 rfl⟩,
            get_removeRecord 3 rfl⟩,
          get_removeRecord 4 rfl⟩,
        get_removeRecord 5 rfl⟩,
      get_removeRecord 6 rfl⟩

/-- The digest and size that a removal may report for a file. -/
structure Reportable (env : Environment) (purpose : Purpose)
    (payload bytes : List UInt8) : Prop where
  bounded :
    (bytes.length : Int) ≤ (expectations env purpose payload).2.2
  whole :
    purpose ≠ .backupAfter → bytes.length = payload.length →
      env.sha256.hexdigest bytes = env.sha256.hexdigest payload

theorem get_removeRecord_outcome
    {intentSha outcome : String} {sha256 size : Json} :
    get (removeRecord env purpose intentSha outcome sha256 size) "outcome" =
      .text outcome :=
  get_removeRecord 7 rfl

theorem get_removeRecord_sha256
    {intentSha outcome : String} {sha256 size : Json} :
    get (removeRecord env purpose intentSha outcome sha256 size)
      "observed_sha256" = sha256 :=
  get_removeRecord 8 rfl

theorem get_removeRecord_bytes
    {intentSha outcome : String} {sha256 size : Json} :
    get (removeRecord env purpose intentSha outcome sha256 size)
      "observed_bytes" = size :=
  get_removeRecord 9 rfl

theorem removeAccepted_absent {intentSha : String} :
    removeAccepted env.owner purpose intentSha
      (createRecord env purpose payload)
      (removeRecord env purpose intentSha "ABSENT" .null .null) = true := by
  rw [removeAccepted, removeBound_removeRecord, Bool.true_and,
    outcomeAccepted, get_removeRecord_outcome, get_removeRecord_sha256,
    get_removeRecord_bytes]
  rfl

theorem removeAccepted_removed
    {intentSha : String} {bytes : List UInt8}
    (reportable : Reportable env purpose payload bytes) :
    removeAccepted env.owner purpose intentSha
      (createRecord env purpose payload)
      (removeRecord env purpose intentSha "OWNED_BYTES_REMOVED"
        (.text (env.sha256.hexdigest bytes)) (.int bytes.length)) =
      true := by
  rw [removeAccepted, removeBound_removeRecord, Bool.true_and,
    outcomeAccepted, get_removeRecord_outcome, get_removeRecord_sha256,
    get_removeRecord_bytes, get_createRecord_maximum,
    get_createRecord_bytes, get_createRecord_sha256]
  simp only [exactInt, strIsSha256, env.sha256.isSha256_hexdigest,
    reportable.bounded, Int.natCast_nonneg, decide_true, Bool.true_and]
  by_cases dump : purpose = .backupAfter
  · simp [dump]
  · by_cases same : bytes.length = payload.length
    · have equal := reportable.whole dump same
      simp [expectations, dump, equal]
    · have apart :
          (Json.int bytes.length).pyEq (.int payload.length) = false := by
        rw [← Bool.not_eq_true, pyEq_int_iff]
        exact_mod_cast same
      simp [expectations, dump, apart]

/-! ## The stages of a temporary file -/

/-- What the controller remembers of a reservation. -/
def reservationIntent (env : Environment) (purpose : Purpose)
    (payload : List UInt8) : Intent :=
  ⟨createRecord env purpose payload, reservationSha env purpose payload⟩

/-- The reservation is on disk, and the controller may remember it. -/
structure Reserved (env : Environment) (purpose : Purpose)
    (payload : List UInt8) (slot : Slot) : Prop where
  create :
    slot.create = some (savedRecord env (createRecord env purpose payload))
  intent :
    ∀ intent ∈ slot.intent, intent = reservationIntent env purpose payload
  reservable : Reservable env purpose payload

/-- A file that the run created from reserved bytes. -/
structure OwnFile (purpose : Purpose) (payload : List UInt8)
    (file : RemoteFile) : Prop where
  regular : file.kind = .regular
  single : file.links = 1
  bytes : purpose ≠ .backupAfter → file.bytes <+: payload

/-- A record of a removal that was written in full, or torn. -/
def RemovalWritten (env : Environment) (purpose : Purpose)
    (payload : List UInt8) (file : Option FileState) : Prop :=
  file = some .garbled ∨
    ∃ removal, file = some (savedRecord env removal) ∧
      removeAccepted env.owner purpose (reservationSha env purpose payload)
        (createRecord env purpose payload) removal = true

/-- The stage of a temporary file. -/
inductive Stage (env : Environment) (purpose : Purpose) (slot : Slot) :
    Prop where
  | unreserved
      (create : slot.create = none ∨ slot.create = some .garbled)
      (remove : slot.remove = none)
      (intent : slot.intent = none)
      (foreign : ∀ file ∈ slot.remote, file.fromRun = false)
  | reserved (payload : List UInt8)
      (reserved : Reserved env purpose payload slot)
      (remove : slot.remove = none)
      (remote : ∀ file ∈ slot.remote, OwnFile purpose payload file)
  | removed (payload : List UInt8)
      (reserved : Reserved env purpose payload slot)
      (remove : RemovalWritten env purpose payload slot.remove)
      (remote : slot.remote = none)

/-- A slot in one of the stages, whose private SQL is the generated SQL as far
as it was written. -/
structure Kept (env : Environment) (purpose : Purpose) (slot : Slot) :
    Prop where
  stage : Stage env purpose slot
  source :
    ∀ bytes ∈ slot.localFile,
      purpose ≠ .backupAfter → bytes <+: env.sql purpose

/-- A removal of an own file, recorded before and not after. -/
structure Rightful (env : Environment) (removal : Removal) : Prop where
  recorded :
    ∃ payload, removal.slot.create =
      some (savedRecord env (createRecord env removal.purpose payload))
  notRemoved : removal.slot.remove = none
  file :
    ∃ file, removal.slot.remote = some file ∧
      file.kind = .regular ∧
      file.links = 1 ∧
      (removal.purpose ≠ .backupAfter →
        file.bytes <+: env.sql removal.purpose) ∧
      (removal.purpose = .backupAfter →
        removal.slot.owned = some (env.sha256.hexdigest file.bytes) ∨
          file.bytes.take 5 = dumpHeader file.bytes.length)

/-- `started-primary.json` is there. -/
def MarkerSaved (status : Status) : Prop :=
  status.marker.any FileState.exists = true

/-- The temporary files of a state are in order. -/
structure Files (env : Environment) (world : World) : Prop where
  slots : ∀ purpose, Kept env purpose (world.slot purpose)
  issued : ∀ removal ∈ world.issued, Rightful env removal
  afterMarker :
    ∀ purpose, (world.slot purpose).create.isSome = true →
      MarkerSaved world.toStatus

/-- The invariant of the functions on temporary files, which change nothing of
the status. -/
def Within (env : Environment) (status : Status → Prop) (world : World) :
    Prop :=
  Files env world ∧ status world.toStatus

/-- A condition on one slot. -/
def At (purpose : Purpose) (condition : Slot → Prop) (world : World) : Prop :=
  condition (world.slot purpose)

/-! ## Rules for steps on slots -/

section Rules

variable {status : Status → Prop} {condition after : Slot → Prop}
variable (marked : ∀ known, status known → MarkerSaved known)

theorem Files.setSlot
    {world : World} (files : Files env world) {slot : Slot}
    (kept : Kept env purpose slot)
    (saved : MarkerSaved world.toStatus) :
    Files env (world.setSlot purpose slot) := by
  refine ⟨?_, files.issued, fun _ _ => saved⟩
  intro other
  by_cases same : other = purpose
  · subst same
    rw [World.setSlot_slot_self]
    exact kept
  · rw [World.setSlot_slot_other same]
    exact files.slots other

theorem step_keeps
    {invariant pre post : World → Prop} {effect : Extent → World → World}
    (kept :
      ∀ world extent, invariant world → pre world →
        invariant (effect extent world).tick)
    (done :
      ∀ world, invariant world → pre world →
        post (effect .whole world).tick) :
    Keeps invariant pre (step env effect) fun _ => post :=
  keeps_perform kept done

theorem Files.setStatus
    {world : World} (files : Files env world) {status : Status}
    (marker : MarkerSaved world.toStatus → MarkerSaved status) :
    Files env { world with toStatus := status } :=
  ⟨files.slots, files.issued, fun purpose created =>
    marker (files.afterMarker purpose created)⟩

theorem Files.tick {world : World} (files : Files env world) :
    Files env world.tick :=
  ⟨files.slots, files.issued, files.afterMarker⟩

theorem Files.setSqlIssued {world : World} (files : Files env world)
    (calls : List (Purpose × Nat)) :
    Files env { world with sqlIssued := calls } :=
  ⟨files.slots, files.issued, files.afterMarker⟩

theorem external_keeps :
    Keeps (Within env status) (At purpose condition) (external env)
      fun _ => At purpose condition :=
  step_keeps (fun _ _ holds _ => ⟨holds.1.tick, holds.2⟩)
    fun _ _ ready => ready

theorem slotRefuse_keeps {refused : Slot → Bool} {failure : Failure} :
    Keeps (Within env status) (At purpose condition)
      (slotRefuse purpose refused failure)
      fun _ => At purpose fun slot => condition slot ∧ refused slot = false :=
  keeps_refuseWhen

include marked in
theorem slotStep_keeps
    {effect : Extent → Slot → Slot}
    (kept :
      ∀ slot extent, Kept env purpose slot → condition slot →
        Kept env purpose (effect extent slot))
    (done :
      ∀ slot, Kept env purpose slot → condition slot →
        after (effect .whole slot)) :
    Keeps (Within env status) (At purpose condition)
      (slotStep env purpose effect) fun _ => At purpose after := by
  apply step_keeps
  · rintro world extent ⟨files, holds⟩ ready
    have set :=
      files.setSlot (kept _ extent (files.slots purpose) ready)
        (marked _ holds)
    exact ⟨set.tick, holds⟩
  · rintro world ⟨files, _⟩ ready
    show after ((World.setSlot _ _ _).slot purpose)
    rw [World.setSlot_slot_self]
    exact done _ (files.slots purpose) ready

include marked in
theorem updateSlot_keeps
    {change : Slot → Slot}
    (kept :
      ∀ slot, Kept env purpose slot → condition slot →
        Kept env purpose (change slot))
    (done :
      ∀ slot, Kept env purpose slot → condition slot →
        after (change slot)) :
    Keeps (Within env status) (At purpose condition)
      (updateSlot purpose change) fun _ => At purpose after := by
  apply ensures_update
  · rintro world ⟨files, holds⟩ ready
    exact
      ⟨files.setSlot (kept _ (files.slots purpose) ready) (marked _ holds),
        holds⟩
  · rintro world ⟨files, _⟩ ready
    show after ((World.setSlot _ _ _).slot purpose)
    rw [World.setSlot_slot_self]
    exact done _ (files.slots purpose) ready

/-! ## Reservation and copy -/

theorem requireRemoteAbsent_keeps :
    Keeps (Within env status) (At purpose condition)
      (requireRemoteAbsent env purpose)
      fun _ => At purpose fun slot => condition slot ∧ slot.remote = none := by
  refine ensures_bind external_keeps fun _ => ?_
  refine ensures_bind slotRefuse_keeps fun _ => ?_
  refine ensures_bind external_keeps fun _ => ?_
  refine slotRefuse_keeps.weakenPost fun _ world _ done => ?_
  rcases done with ⟨⟨ready, noFile⟩, noLink⟩
  refine ⟨ready, ?_⟩
  cases remote : (world.slot purpose).remote with
  | none => rfl
  | some file =>
      rw [remote] at noFile noLink
      simp only [Option.any_some, decide_eq_false_iff_not, not_not]
        at noFile noLink
      exact absurd noFile noLink

/-- The reservation has just been made, and nothing else. -/
structure JustReserved (env : Environment) (purpose : Purpose)
    (payload : List UInt8) (slot : Slot) : Prop where
  reserved : Reserved env purpose payload slot
  held : slot.intent = some (reservationIntent env purpose payload)
  remove : slot.remove = none
  remote : slot.remote = none
  localFile : purpose ≠ .backupAfter → slot.localFile = some payload

/-- A slot without a record on disk is not reserved. -/
theorem Kept.of_create_none
    {slot : Slot} (kept : Kept env purpose slot)
    (create : slot.create = none) :
    slot.remove = none ∧ slot.intent = none := by
  cases kept.stage with
  | unreserved _ remove intent _ => exact ⟨remove, intent⟩
  | reserved payload reserved _ _ =>
      rw [reserved.create] at create
      cases create
  | removed payload reserved _ _ =>
      rw [reserved.create] at create
      cases create

/-- The bytes that a slot would reserve now. -/
structure Payload (env : Environment) (purpose : Purpose)
    (payload : List UInt8) (slot : Slot) : Prop where
  localFile : purpose ≠ .backupAfter → slot.localFile = some payload
  reservable : Reservable env purpose payload

theorem payload_of_accepted
    {slot : Slot} (kept : Kept env purpose slot)
    (accepted :
      (decide (purpose ≠ .backupAfter) && !sqlSourceAccepted slot) = false) :
    Payload env purpose (slot.localFile.getD []) slot := by
  cases stored : slot.localFile with
  | none =>
      refine ⟨fun sql => ?_, fun sql => ?_⟩ <;>
        simp [sqlSourceAccepted, stored, sql] at accepted
  | some payload =>
      refine ⟨fun _ => stored, fun sql => ?_⟩
      simp only [sqlSourceAccepted, stored, Option.any_some, sql, ne_eq,
        not_false_eq_true, decide_true, Bool.true_and,
        Bool.not_eq_false', Bool.and_eq_true, decide_eq_true_eq] at accepted
      exact
        ⟨kept.source payload (by rw [stored]; rfl) sql, accepted.1,
          accepted.2⟩

/-- A slot as it is when its reservation is saved. -/
structure Ready (env : Environment) (purpose : Purpose)
    (payload : List UInt8) (slot : Slot) : Prop
    extends Payload env purpose payload slot where
  remote : slot.remote = none
  create : slot.create = none

theorem Ready.saved
    {slot : Slot} (ready : Ready env purpose payload slot)
    (kept : Kept env purpose slot) :
    Reserved env purpose payload
      { slot with
        create :=
          some (savedRecord env (createRecord env purpose payload)) } := by
  refine ⟨rfl, ?_, ready.reservable⟩
  intro intent member
  rw [(kept.of_create_none ready.create).2] at member
  cases member

/-- Whatever becomes of the write, the slot is in order. -/
theorem Ready.kept
    {slot : Slot} (ready : Ready env purpose payload slot)
    (kept : Kept env purpose slot) (extent : Extent) :
    Kept env purpose
      { slot with
        create :=
          written (savedRecord env (createRecord env purpose payload))
            extent } := by
  rcases kept.of_create_none ready.create with ⟨remove, intent⟩
  have foreign : ∀ file ∈ slot.remote, file.fromRun = false := by
    rw [ready.remote]
    intro file impossible
    cases impossible
  cases extent with
  | nothing =>
      exact ⟨.unreserved (Or.inl rfl) remove intent foreign, kept.source⟩
  | part count =>
      exact ⟨.unreserved (Or.inr rfl) remove intent foreign, kept.source⟩
  | whole =>
      refine ⟨.reserved payload (ready.saved kept) remove ?_, kept.source⟩
      intro file member
      rw [ready.remote] at member
      cases member

/-- The reservation is saved, and the controller is about to remember it. -/
def Remembering (env : Environment) (purpose : Purpose)
    (payload : List UInt8) (slot : Slot) : Prop :=
  JustReserved env purpose payload
    { slot with intent := some (reservationIntent env purpose payload) }

theorem Ready.remembering
    {slot : Slot} (ready : Ready env purpose payload slot)
    (kept : Kept env purpose slot) :
    Remembering env purpose payload
      { slot with
        create :=
          some (savedRecord env (createRecord env purpose payload)) } where
  reserved :=
    { create := rfl
      intent := fun _ member => (Option.mem_some.1 member).symm
      reservable := ready.reservable }
  held := rfl
  remove := (kept.of_create_none ready.create).1
  remote := ready.remote
  localFile := ready.localFile

theorem JustReserved.kept
    {slot : Slot} (reserved : JustReserved env purpose payload slot)
    (source :
      ∀ bytes ∈ slot.localFile,
        purpose ≠ .backupAfter → bytes <+: env.sql purpose) :
    Kept env purpose slot := by
  refine ⟨.reserved payload reserved.reserved reserved.remove ?_, source⟩
  intro file member
  rw [reserved.remote] at member
  cases member

include marked in
theorem reserveRemoteFile_keeps :
    Keeps (Within env status) (At purpose fun _ => True)
      (reserveRemoteFile env purpose)
      fun _ => At purpose fun slot =>
        ∃ payload, JustReserved env purpose payload slot := by
  refine ensures_bind slotRefuse_keeps fun _ => ?_
  refine ensures_bind slotRefuse_keeps fun _ => ?_
  refine ensures_bind ensures_observe fun payload => ?_
  refine
    ensures_from
      (At purpose fun slot => Payload env purpose payload slot) ?_ ?_
  · refine ensures_bind external_keeps fun _ => ?_
    refine ensures_bind requireRemoteAbsent_keeps fun _ => ?_
    refine ensures_bind slotRefuse_keeps fun _ => ?_
    refine
      ensures_from
        (At purpose fun slot => Ready env purpose payload slot) ?_ ?_
    · refine
        ensures_through
          (fun _ => At purpose (Remembering env purpose payload))
          (slotStep_keeps marked
            (fun _ extent kept ready => ready.kept kept extent)
            fun _ kept ready => ready.remembering kept)
          fun _ => ?_
      refine ensures_bind external_keeps fun _ => ?_
      exact
        updateSlot_keeps marked
          (fun _ kept ready => JustReserved.kept ready kept.source)
          fun _ _ ready => Exists.intro payload ready
    · rintro world _ ⟨⟨ready, remote⟩, create⟩
      exact ⟨ready, remote, Option.isSome_eq_false_iff.1 create |>
        Option.isNone_iff_eq_none.1⟩
  · rintro world ⟨files, _⟩ ⟨⟨_, accepted⟩, rfl⟩
    exact payload_of_accepted (files.slots purpose) accepted

/-- Some of the reserved bytes are in the container. -/
theorem Kept.createdFile
    {slot : Slot} (kept : Kept env purpose slot)
    (reserved : JustReserved env purpose payload slot)
    {bytes : List UInt8}
    (part : purpose ≠ .backupAfter → bytes <+: payload) :
    Kept env purpose { slot with remote := some (createdFile bytes) } := by
  refine
    ⟨.reserved payload
      ⟨reserved.reserved.create, reserved.reserved.intent,
        reserved.reserved.reservable⟩
      reserved.remove ?_, kept.source⟩
  intro file member
  cases Option.mem_some.1 member
  exact ⟨rfl, rfl, part⟩

theorem prefix_of_copied
    {bytes copy : List UInt8} {extent : Extent}
    (made : copied bytes extent = some copy) : copy <+: bytes := by
  cases extent with
  | nothing => cases made
  | part count =>
      cases made
      exact List.take_prefix count bytes
  | whole =>
      cases made
      exact List.prefix_rfl

/-- A slot keeps its order when only the digest of a copy is remembered. -/
theorem Kept.setOwned
    {slot : Slot} (kept : Kept env purpose slot) (owned : Option String) :
    Kept env purpose { slot with owned := owned } := by
  refine ⟨?_, kept.source⟩
  cases kept.stage with
  | unreserved create remove intent foreign =>
      exact .unreserved create remove intent foreign
  | reserved payload reserved remove remote =>
      exact
        .reserved payload
          ⟨reserved.create, reserved.intent, reserved.reservable⟩ remove
          remote
  | removed payload reserved remove remote =>
      exact
        .removed payload
          ⟨reserved.create, reserved.intent, reserved.reservable⟩ remove
          remote

theorem Kept.setLocalFile
    {slot : Slot} (kept : Kept env purpose slot)
    {localFile : Option (List UInt8)}
    (source :
      ∀ bytes ∈ localFile,
        purpose ≠ .backupAfter → bytes <+: env.sql purpose) :
    Kept env purpose { slot with localFile := localFile } := by
  refine ⟨?_, source⟩
  cases kept.stage with
  | unreserved create remove intent foreign =>
      exact .unreserved create remove intent foreign
  | reserved payload reserved remove remote =>
      exact
        .reserved payload
          ⟨reserved.create, reserved.intent, reserved.reservable⟩ remove
          remote
  | removed payload reserved remove remote =>
      exact
        .removed payload
          ⟨reserved.create, reserved.intent, reserved.reservable⟩ remove
          remote

include marked in
theorem copySql_keeps :
    Keeps (Within env status) (At purpose fun _ => True)
      (copySql env purpose) fun _ => At purpose fun _ => True := by
  refine ensures_bind slotRefuse_keeps fun _ => ?_
  refine
    ensures_bind
      ((reserveRemoteFile_keeps marked).weakenPre fun _ _ _ => trivial)
      fun _ => ?_
  refine
    ensures_through (fun _ => At purpose fun _ => True)
      (slotStep_keeps marked ?_ fun _ _ _ => trivial)
      fun _ => ?_
  · rintro slot extent kept ⟨payload, reserved⟩
    cases made : slot.localFile.bind fun bytes => copied bytes extent with
    | none => exact kept
    | some copy =>
        refine kept.createdFile reserved fun sql => ?_
        rw [reserved.localFile sql] at made
        exact prefix_of_copied made
  · refine ensures_bind external_keeps fun _ => ?_
    refine ensures_bind external_keeps fun _ => ?_
    refine ensures_bind slotRefuse_keeps fun _ => ?_
    exact
      updateSlot_keeps marked (fun _ kept _ => kept.setOwned _)
        fun _ _ _ => trivial

/-! ## Removal -/

theorem remoteFileState_keeps :
    Keeps (Within env status) (At purpose condition)
      (remoteFileState env purpose)
      fun file => At purpose fun slot =>
        condition slot ∧ slot.remote = file := by
  refine ensures_bind external_keeps fun _ => ?_
  refine ensures_bind slotRefuse_keeps fun _ => ?_
  refine ensures_observe.weakenPost fun file world _ done => ?_
  exact ⟨done.1.1, done.2.symm⟩

/-- The reservation is remembered, the file is there, and no record says that
it was removed. -/
structure Held (env : Environment) (purpose : Purpose)
    (payload : List UInt8) (file : RemoteFile) (slot : Slot) : Prop where
  reserved : Reserved env purpose payload slot
  held : slot.intent = some (reservationIntent env purpose payload)
  remove : slot.remove = none
  remote : slot.remote = some file
  own : OwnFile purpose payload file

/-- What the digest that a file must have says about it. -/
structure Digested (env : Environment) (purpose : Purpose)
    (payload : List UInt8) (file : RemoteFile) (slot : Slot)
    (expected : Option Json) : Prop where
  whole :
    purpose ≠ .backupAfter → file.bytes.length = payload.length →
      expected = some (.text (env.sha256.hexdigest payload))
  dump :
    purpose = .backupAfter →
      (∃ digest, slot.owned = some digest ∧ expected = some (.text digest)) ∨
        file.bytes.take 5 = dumpHeader file.bytes.length

theorem expectedDigest_keeps {file : RemoteFile} :
    Keeps (Within env status) (At purpose (Held env purpose payload file))
      (expectedDigest env purpose (createRecord env purpose payload) file)
      fun expected => At purpose fun slot =>
        Held env purpose payload file slot ∧
          Digested env purpose payload file slot expected := by
  refine ensures_bind ensures_observe fun slot => ?_
  refine ensures_ite (fun sql => ?_) fun dump => ?_
  · refine ensures_ite (fun same => ?_) fun apart => ?_
    · refine ensures_pure fun world _ ready => ⟨ready.1, ?_, ?_⟩
      · intro _ _
        rw [get_createRecord_sha256, expectations, if_neg sql]
      · exact fun dump => absurd dump sql
    · refine ensures_bind keeps_refuseWhen fun _ => ?_
      refine ensures_pure fun world _ ready => ⟨ready.1.1, ?_, ?_⟩
      · intro _ same
        rw [get_createRecord_bytes, expectations, if_neg sql, pyEq_int_iff]
          at apart
        exact absurd (by exact_mod_cast same) apart
      · exact fun dump => absurd dump sql
  · have isDump := not_not.1 dump
    cases known : slot.owned with
    | some digest =>
        refine ensures_pure fun world _ ready => ⟨ready.1, ?_, ?_⟩
        · exact fun sql => absurd isDump sql
        · intro _
          rw [ready.2] at known
          exact Or.inl ⟨digest, known, rfl⟩
    | none =>
        refine
          ensures_bind
            (external_keeps.weakenPre fun _ _ ready => ready.1) fun _ => ?_
        refine ensures_bind keeps_refuseWhen fun _ => ?_
        refine ensures_pure fun world _ ready => ⟨ready.1, ?_, ?_⟩
        · exact fun sql => absurd isDump sql
        · intro _
          exact Or.inr (not_not.1 (decide_eq_false_iff_not.1 ready.2))

/-- The removed file is gone, and its reservation still remembered. -/
structure Gone (env : Environment) (purpose : Purpose)
    (payload : List UInt8) (slot : Slot) : Prop where
  reserved : Reserved env purpose payload slot
  held : slot.intent = some (reservationIntent env purpose payload)
  remote : slot.remote = none

/-- What the checks before `rm` say about the digest that they compared. -/
theorem Digested.compared
    {file : RemoteFile} {slot : Slot} {expected : Option Json}
    (digested : Digested env purpose payload file slot expected)
    (equal :
      (expected.any fun digest =>
        !(Json.text (env.sha256.hexdigest file.bytes)).pyEq digest) =
          false) :
    (purpose ≠ .backupAfter → file.bytes.length = payload.length →
        env.sha256.hexdigest file.bytes = env.sha256.hexdigest payload) ∧
      (purpose = .backupAfter →
        slot.owned = some (env.sha256.hexdigest file.bytes) ∨
          file.bytes.take 5 = dumpHeader file.bytes.length) := by
  constructor
  · intro sql same
    rw [digested.whole sql same] at equal
    simpa using equal
  · intro dump
    rcases digested.dump dump with ⟨digest, owned, known⟩ | header
    · rw [known] at equal
      refine Or.inl ?_
      have same : env.sha256.hexdigest file.bytes = digest := by
        simpa using equal
      rw [owned, same]
    · exact Or.inr header

theorem Held.rightful
    {file : RemoteFile} {slot : Slot}
    (held : Held env purpose payload file slot)
    (dump :
      purpose = .backupAfter →
        slot.owned = some (env.sha256.hexdigest file.bytes) ∨
          file.bytes.take 5 = dumpHeader file.bytes.length) :
    Rightful env ⟨purpose, slot⟩ where
  recorded := ⟨payload, held.reserved.create⟩
  notRemoved := held.remove
  file :=
    ⟨file, held.remote, held.own.regular, held.own.single,
      fun sql =>
        (held.own.bytes sql).trans (held.reserved.reservable sql).1,
      dump⟩

theorem Held.kept_afterRemoval
    {file : RemoteFile} {slot : Slot}
    (held : Held env purpose payload file slot)
    (kept : Kept env purpose slot) (extent : Extent) :
    Kept env purpose
      (if extent = .whole then { slot with remote := none } else slot) := by
  split_ifs with whole
  · refine
      ⟨.reserved payload
        ⟨held.reserved.create, held.reserved.intent,
          held.reserved.reservable⟩
        held.remove ?_, kept.source⟩
    intro file member
    cases member
  · exact kept

/-- The condition on a dump whose digest need not be known. -/
def DumpChecked (env : Environment) (purpose : Purpose) (file : RemoteFile)
    (slot : Slot) : Prop :=
  purpose = .backupAfter →
    slot.owned = some (env.sha256.hexdigest file.bytes) ∨
      file.bytes.take 5 = dumpHeader file.bytes.length

include marked in
/-- The `rm` itself, once everything about the file is checked. -/
theorem issueRemoval_keeps {file : RemoteFile} :
    Keeps (Within env status)
      (At purpose fun slot =>
        Held env purpose payload file slot ∧
          DumpChecked env purpose file slot)
      (issueRemoval env purpose)
      fun _ => At purpose (Gone env purpose payload) := by
  refine
    ensures_through (fun _ => At purpose (Held env purpose payload file))
      (ensures_update ?_ fun _ _ ready => ready.1)
      fun _ => ?_
  · rintro world ⟨files, holds⟩ ready
    refine ⟨⟨files.slots, ?_, files.afterMarker⟩, holds⟩
    intro removal member
    rcases List.mem_cons.1 member with rfl | old
    · exact ready.1.rightful ready.2
    · exact files.issued removal old
  · exact
      slotStep_keeps marked
        (fun _ extent kept ready => ready.kept_afterRemoval kept extent)
        fun _ _ ready =>
          ⟨⟨ready.reserved.create, ready.reserved.intent,
            ready.reserved.reservable⟩, ready.held, rfl⟩

include marked in
theorem removeFile_keeps {file : RemoteFile} :
    Keeps (Within env status) (At purpose (Held env purpose payload file))
      (removeFile env purpose (createRecord env purpose payload) file)
      fun observed world =>
        At purpose (Gone env purpose payload) world ∧
          observed =
            (.text (env.sha256.hexdigest file.bytes),
              .int file.bytes.length) ∧
          Reportable env purpose payload file.bytes := by
  refine ensures_bind ensures_observe fun uid => ?_
  refine
    ensures_bind (external_keeps.weakenPre fun _ _ ready => ready.1)
      fun _ => ?_
  refine ensures_bind keeps_refuseWhen fun _ => ?_
  refine
    ensures_from
      (fun world =>
        At purpose (Held env purpose payload file) world ∧
          (file.bytes.length : Int) ≤
            (expectations env purpose payload).2.2)
      ?_ ?_
  · refine ensures_assuming fun bounded => ?_
    refine ensures_bind external_keeps fun _ => ?_
    refine ensures_bind expectedDigest_keeps fun expected => ?_
    refine ensures_bind keeps_refuseWhen fun _ => ?_
    refine
      ensures_from
        (fun world =>
          At purpose
              (fun slot =>
                Held env purpose payload file slot ∧
                  DumpChecked env purpose file slot)
              world ∧
            Reportable env purpose payload file.bytes)
        ?_ ?_
    · refine ensures_assuming fun reportable => ?_
      refine ensures_bind remoteFileState_keeps fun again => ?_
      refine ensures_bind keeps_refuseWhen fun _ => ?_
      refine
        ensures_bind
          ((issueRemoval_keeps marked).weakenPre fun _ _ ready => ready.1.1)
          fun _ => ?_
      exact ensures_pure fun _ _ gone => ⟨gone, rfl, reportable⟩
    · rintro world _ ⟨⟨held, digested⟩, equal⟩
      rcases digested.compared equal with ⟨whole, dump⟩
      exact ⟨⟨held, dump⟩, bounded, whole⟩
  · rintro world _ ⟨ready, verified⟩
    refine ⟨ready, ?_⟩
    rw [Bool.not_eq_false', ownershipVerified, get_createRecord_maximum]
      at verified
    simp only [exactInt, Option.any_some, Bool.and_eq_true,
      decide_eq_true_eq] at verified
    exact verified.2

/-- A reservation that the controller remembers, with or without a record of
its removal. -/
structure Remembered (env : Environment) (purpose : Purpose)
    (payload : List UInt8) (slot : Slot) : Prop where
  reserved : Reserved env purpose payload slot
  held : slot.intent = some (reservationIntent env purpose payload)
  present :
    ∀ file ∈ slot.remote, slot.remove = none ∧ OwnFile purpose payload file

theorem Kept.remembered
    {slot : Slot} (kept : Kept env purpose slot) {intent : Intent}
    (known : some intent = slot.intent) :
    ∃ payload, Remembered env purpose payload slot ∧
      intent = reservationIntent env purpose payload := by
  cases kept.stage with
  | unreserved _ _ unknown _ =>
      rw [unknown] at known
      cases known
  | reserved payload reserved remove remote =>
      have same := reserved.intent intent (Option.mem_def.2 known.symm)
      exact
        ⟨payload,
          ⟨reserved, known.symm.trans (congrArg some same),
            fun file member => ⟨remove, remote file member⟩⟩,
          same⟩
  | removed payload reserved remove remote =>
      have same := reserved.intent intent (Option.mem_def.2 known.symm)
      refine
        ⟨payload,
          ⟨reserved, known.symm.trans (congrArg some same), ?_⟩, same⟩
      intro file member
      rw [remote] at member
      cases member

theorem Remembered.held_of_remote
    {slot : Slot} (remembered : Remembered env purpose payload slot)
    {file : RemoteFile} (remote : slot.remote = some file) :
    Held env purpose payload file slot :=
  have present := remembered.present file (Option.mem_def.2 remote)
  ⟨remembered.reserved, remembered.held, present.1, remote, present.2⟩

/-- Whatever becomes of the record of the removal, the slot is in order. -/
theorem Gone.kept_recorded
    {slot : Slot} (gone : Gone env purpose payload slot)
    (kept : Kept env purpose slot) {record : Members}
    (accepted :
      removeAccepted env.owner purpose (reservationSha env purpose payload)
        (createRecord env purpose payload) record = true)
    (extent : Extent) :
    Kept env purpose
      { slot with remove := written (savedRecord env record) extent } := by
  have reserved :
      Reserved env purpose payload
        { slot with remove := written (savedRecord env record) extent } :=
    ⟨gone.reserved.create, gone.reserved.intent, gone.reserved.reservable⟩
  cases extent with
  | nothing =>
      refine ⟨.reserved payload reserved rfl ?_, kept.source⟩
      intro file member
      rw [gone.remote] at member
      cases member
  | part count =>
      exact
        ⟨.removed payload reserved (Or.inl rfl) gone.remote, kept.source⟩
  | whole =>
      exact
        ⟨.removed payload reserved (Or.inr ⟨record, rfl, accepted⟩)
          gone.remote, kept.source⟩

/-- A slot keeps its order when the controller forgets its reservation. -/
theorem Kept.forget {slot : Slot} (kept : Kept env purpose slot) :
    Kept env purpose { slot with intent := none, owned := none } := by
  refine ⟨?_, kept.source⟩
  have forgotten :
      ∀ {bytes : List UInt8}, Reserved env purpose bytes slot →
        Reserved env purpose bytes
          { slot with intent := none, owned := none } := by
    intro bytes reserved
    refine ⟨reserved.create, ?_, reserved.reservable⟩
    intro intent impossible
    cases impossible
  cases kept.stage with
  | unreserved create remove intent foreign =>
      exact .unreserved create remove rfl foreign
  | reserved bytes reserved remove remote =>
      exact .reserved bytes (forgotten reserved) remove remote
  | removed bytes reserved remove remote =>
      exact .removed bytes (forgotten reserved) remove remote

/-- The record of a removal, as the controller saves it. -/
def Acceptable (env : Environment) (purpose : Purpose)
    (payload : List UInt8) (record : Members) : Prop :=
  removeAccepted env.owner purpose (reservationSha env purpose payload)
    (createRecord env purpose payload) record = true

include marked in
theorem removalRecord_keeps {state : Option RemoteFile} :
    Keeps (Within env status)
      (At purpose fun slot =>
        Remembered env purpose payload slot ∧ slot.remote = state)
      (removalRecord env purpose (reservationIntent env purpose payload)
        state)
      fun record world =>
        At purpose (Gone env purpose payload) world ∧
          Acceptable env purpose payload record := by
  cases state with
  | none =>
      dsimp only [removalRecord, reservationIntent]
      refine ensures_pure fun world _ ready => ⟨?_, removeAccepted_absent⟩
      exact ⟨ready.1.reserved, ready.1.held, ready.2⟩
  | some file =>
      dsimp only [removalRecord, reservationIntent]
      refine
        ensures_bind
          ((removeFile_keeps marked).weakenPre fun _ _ ready =>
            ready.1.held_of_remote ready.2)
          fun observed => ?_
      refine ensures_pure fun world _ done => ?_
      rcases done with ⟨gone, rfl, reportable⟩
      exact ⟨gone, removeAccepted_removed reportable⟩

include marked in
theorem removeOwnedContainerFile_keeps :
    Keeps (Within env status) (At purpose fun _ => True)
      (removeOwnedContainerFile env purpose)
      fun _ => At purpose fun _ => True := by
  refine ensures_bind ensures_observe fun known => ?_
  cases known with
  | none => exact ensures_raise fun _ _ _ => trivial
  | some intent =>
      refine
        ensures_from
          (fun world => ∃ payload,
            At purpose (Remembered env purpose payload) world ∧
              intent = reservationIntent env purpose payload)
          ?_ fun world holds ready =>
            (holds.1.slots purpose).remembered ready.2
      refine ensures_exists fun payload => ensures_assuming fun same => ?_
      subst same
      refine ensures_bind ensures_observe fun create => ?_
      refine ensures_bind keeps_lift fun stored => ?_
      refine ensures_bind keeps_refuseWhen fun _ => ?_
      refine
        ensures_bind
          (external_keeps.weakenPre fun _ _ ready => ready.1.1.1) fun _ => ?_
      refine ensures_bind remoteFileState_keeps fun state => ?_
      refine ensures_bind (removalRecord_keeps marked) fun record => ?_
      refine ensures_assuming fun acceptable => ?_
      refine ensures_bind requireRemoteAbsent_keeps fun _ => ?_
      refine ensures_bind slotRefuse_keeps fun _ => ?_
      refine
        ensures_through (fun _ => At purpose (Gone env purpose payload))
          (slotStep_keeps marked ?_ ?_)
          fun _ => ?_
      · rintro slot extent kept ⟨⟨gone, _⟩, _⟩
        exact gone.kept_recorded kept acceptable extent
      · rintro slot _ ⟨⟨gone, _⟩, _⟩
        exact
          ⟨⟨gone.reserved.create, gone.reserved.intent,
            gone.reserved.reservable⟩, gone.held, gone.remote⟩
      · exact
          updateSlot_keeps marked
            (fun _ kept _ => kept.forget) fun _ _ _ => trivial

end Rules

end KairosDeploy.Primary.TemporaryFiles
