import KairosDeploy.Epoch.Contract
import KairosDeploy.Library.HexDigest
import KairosDeploy.Library.PyObject
import KairosDeploy.Library.Refusal
import KairosDeploy.Library.TextBytes
import KairosDeploy.Library.Timestamp

/-!
# Waiting for an advanced status

After a restart the controller polls a status file, until it holds a report of
the running service that is newer than the last one that was seen.  A poll
keeps waiting, or it returns the report, or it raises.
-/

namespace KairosDeploy.Epoch.AdvancedStatus

open KairosDeploy.Epoch.Contract (symbols)
open KairosDeploy.Library.HexDigest
open KairosDeploy.Library.JsonValue
open KairosDeploy.Library.JsonText
open KairosDeploy.Library.PyNumber
open KairosDeploy.Library.PyObject
open KairosDeploy.Library.Refusal
open KairosDeploy.Library.TextBytes (decode decode_utf8)
open KairosDeploy.Library.Timestamp

/-! ## What a poll meets -/

/-- What the calls of a poll raise. -/
inductive Failure where
  /-- `CurrentEpochRejected(code)`, `Rejected(code)` and the like. -/
  | rejected (code : String)
  /-- `OSError`, which the loop passes over. -/
  | os
  /-- `json.JSONDecodeError`, which it passes over too. -/
  | jsonDecode
  | raised (exception : String)
deriving DecidableEq

/-- What `json.loads` makes of bytes. -/
inductive Loaded where
  | value (value : Json)
  /-- `json.JSONDecodeError`. -/
  | malformed
  /--
  Another exception: `UnicodeDecodeError` for bytes that are not text, and
  `RecursionError` or `ValueError` at a limit of the interpreter.  At such a
  limit the bytes can hold a document all the same.
  -/
  | raised (document : Option Json) (exception : String)

/-- The functions of the standard library. -/
structure Library where
  loads : List UInt8 → Loaded
  sha256 : List UInt8 → String
  iso : IsoReader

/-- The status file, as a poll finds it. -/
inductive StatusFile where
  /-- No regular file, or a link. -/
  | absent
  /-- `stat`, `open` or `read` raises `OSError`. -/
  | unreadable
  /-- Its size, and what `read` with the bound returns. -/
  | present (size : Nat) (raw : List UInt8)

/-- One turn of the loop. -/
structure Poll where
  beforeDeadline : Bool
  file : StatusFile
  /-- `running_check()`. -/
  running : Except Failure Unit
  /-- What the clock shows to the first validation, and to the second. -/
  now : Int
  later : Int

/-- `32768`. -/
def maxStatusBytes : Nat := 32768

section Status

variable (library : Library)

/-! ## Validators -/

/-- `datetime.fromisoformat(value["observed_at_utc"].replace("Z", "+00:00"))`,
absent where it raises. -/
def observedAt (value : Members) : Option Datetime :=
  match getMember value "observed_at_utc" with
  | some (.text text) =>
      library.iso.fromisoformat (replaceAll ['Z'] zeroOffset text)
  | _ => none

/-- `set(value) == set(SYMBOLS)` of a dictionary. -/
def hasSymbols (value : Members) : Bool :=
  decide (keySet value = symbols.toFinset)

/-- `type(item) is int and item > 0`. -/
def isPositiveInt : Json → Bool
  | .int value => 0 < value
  | _ => false

/-- `type(item) is int and item >= 0`. -/
def isCount : Json → Bool
  | .int value => 0 ≤ value
  | _ => false

/-- A dictionary with a positive number for each symbol, and nothing else. -/
def isWatermarks : Json → Bool
  | .object marks =>
      hasSymbols marks && marks.all fun entry => isPositiveInt entry.2
  | _ => false

/-- `age < -5 or age > 120`, in microseconds. -/
def stale (now observed : Int) : Prop :=
  now - observed < -5000000 ∨ now - observed > 120000000

instance (now observed : Int) : Decidable (stale now observed) :=
  inferInstanceAs (Decidable (_ ∨ _))

/-- The schema profile of a report. -/
def hasProfile (value : Members) : Bool :=
  (get value "schema_profile").pyEq (.text "current-controlled-v1") &&
    (get value "schema_migration_count").pyEq (.int 19) &&
    (get value "schema_public_table_count").pyEq (.int 33)

/-- The flags of a report that grants nothing. -/
def grantsNothing (value : Members) : Bool :=
  (get value "PAPER_QUALIFIED").isFalse && (get value "ALPHA_READY").isFalse &&
    (get value "LIVE_READY").isFalse &&
    (get value "STRATEGY_POLICY").pyEq (.text "REJECT_ALL")

/-- The states in which the service is not healthy yet. -/
def pendingStates : List String :=
  ["CATCHING_UP_NONTRADING", "WAITING_SOURCE_NONTRADING"]

/-- `value.get("state") in {...}`; a list or a dictionary cannot be hashed. -/
def isPending (value : Members) : Except Failure Bool := do
  refuseIf (hashable (get value "state") = false) (.raised "TypeError")
  return pendingStates.any fun state => isText state (get value "state")

/-- The same of a report of the owner. -/
def isOwnPending (value : Members) (owner : String) : Except Failure Bool :=
  if (get value "owner").pyEq (.text owner) then
    isPending value
  else
    .ok false

/-- `validate_pending_status(value, owner)`. -/
def validatePendingStatus (value : Members) (owner : String) (now : Int) :
    Except Failure Unit := do
  let pending ← isOwnPending value owner
  refuseIf
    (pending = false ∨ hasProfile value = false ∨
      (get value "trading_started").isFalse = false ∨
      grantsNothing value = false ∨
      ["pending_outbox", "unresolved_inbox", "uncompleted_publications",
          "cycles"].all (fun key => isCount (get value key)) = false)
    (.rejected "CURRENT_STARTUP_OBSERVATION_REQUIRED")
  refuseIf (isWatermarks (get value "watermarks_ms") = false)
    (.rejected "CURRENT_STARTUP_WATERMARKS_REQUIRED")
  match (observedAt library value).bind Datetime.instant with
  | none => .error (.rejected "CURRENT_STARTUP_TIMESTAMP_REQUIRED")
  | some observed =>
      refuseIf (stale now observed)
        (.rejected "CURRENT_STARTUP_FRESHNESS_REQUIRED")

/-- `value[key]` of what a dictionary holds. -/
def item (value : Option Json) (key : String) : Except Failure Json :=
  match value with
  | some (.object members) =>
      match getMember members key with
      | some stored => .ok stored
      | none => .error (.raised "KeyError")
  | some _ => .error (.raised "TypeError")
  | none => .error (.raised "KeyError")

/-- A comparison of two values by their order. -/
def compareNumbers
    (compare : Comparable → Comparable → Bool) (left right : Json) :
    Except Failure Bool :=
  match left.number, right.number with
  | some left, some right => .ok (compare left right)
  | _, _ => .error (.raised "TypeError")

/-- `value["watermarks_ms"][symbol] <= first["watermarks_ms"][symbol]`, or the
comparison the other way. -/
def compareMarks
    (compare : Comparable → Comparable → Bool) (value first : Members)
    (symbol : String) : Except Failure Bool := do
  let mark ← item (getMember value "watermarks_ms") symbol
  let old ← item (getMember first "watermarks_ms") symbol
  compareNumbers compare mark old

/-- The previous report has no such watermarks, or one that is not lower. -/
def heldBack (value previous : Members) : Except Failure Bool :=
  match get previous "watermarks_ms" with
  | .object old =>
      if hasSymbols old then
        symbols.anyM (compareMarks pyLe value previous)
      else
        .ok true
  | _ => .ok true

/-- The tests of `validate_running_status` that need the previous report. -/
def checkAdvance (value previous : Members) (observed : Int) :
    Except Failure Unit := do
  let held ← heldBack value previous
  refuseIf (held = true) (.rejected "SERVE_RESTART_WATERMARK_ADVANCE_REQUIRED")
  match observedAt library previous with
  | none => .error (.rejected "PREVIOUS_SERVE_TIMESTAMP_REQUIRED")
  | some old =>
      match old.instant with
      | none => .error (.raised "TypeError")
      | some before =>
          refuseIf (observed ≤ before)
            (.rejected "SERVE_RESTART_FRESH_STATUS_REQUIRED")

/-- `validate_running_status(value, owner, previous=previous)`. -/
def validateRunningStatus
    (value : Members) (owner : String) (previous : Option Members)
    (now : Int) : Except Failure Unit := do
  refuseIf
    ((get value "state").pyEq (.text "RUNNING_NONTRADING") = false ∨
      (get value "owner").pyEq (.text owner) = false)
    (.rejected "NONTRADING_SERVE_STATUS_REQUIRED")
  refuseIf (isWatermarks (get value "watermarks_ms") = false)
    (.rejected "FIVE_SYMBOL_SERVE_WATERMARKS_REQUIRED")
  refuseIf
    (grantsNothing value = false ∨
      ["pending_outbox", "unresolved_inbox", "uncompleted_publications"].all
          (fun key => (get value key).pyEq (.int 0)) = false)
    (.rejected "NONTRADING_SERVE_HEALTH_BOUNDARY_REQUIRED")
  match (observedAt library value).bind Datetime.instant with
  | none => .error (.rejected "SERVE_STATUS_TIMESTAMP_REQUIRED")
  | some observed => do
      refuseIf (stale now observed)
        (.rejected "SERVE_STATUS_FRESHNESS_REQUIRED")
      match previous with
      | none => return ()
      | some previous => checkAdvance library value previous observed

/-! ## The loop -/

variable (owner : String) (first : Members) (excluded : Option String)

/-- The last branch: a report of this schema, pending or not. -/
def judgeState (poll : Poll) (status : Members) (pending : Bool) :
    Except Failure (Option Members) :=
  if pending then do
    validatePendingStatus library status owner poll.now
    return none
  else do
    validateRunningStatus library status owner none poll.now
    if ← symbols.allM
        (compareMarks (fun mark old => pyLt old mark) status first) then
      validateRunningStatus library status owner (some first) poll.later
      return some status
    else
      return none

/-- What a poll does with a report that has a new observation time. -/
def judge (poll : Poll) (status : Members) :
    Except Failure (Option Members) := do
  poll.running
  refuseIf
    (hasProfile status = false ∨
      (get status "trading_started").isFalse = false)
    (.rejected "CURRENT_STATUS_SCHEMA_REQUIRED")
  let pending ← isPending status
  judgeState library owner first poll status pending

/-- The body of `try`: a report to return, or nothing yet. -/
def examine (poll : Poll) : Except Failure (Option Members) :=
  match poll.file with
  | .absent => .ok none
  | .unreadable => .error .os
  | .present size raw => do
      refuseIf (size > maxStatusBytes ∨ raw.length > maxStatusBytes)
        (.rejected "CURRENT_STATUS_BOUND_EXCEEDED")
      if excluded = some (library.sha256 raw) then do
        poll.running
        return none
      else
        match library.loads raw with
        | .malformed => .error .jsonDecode
        | .raised _ exception => .error (.raised exception)
        | .value (.object status) =>
            if
                (get status "observed_at_utc").pyEq
                  (get first "observed_at_utc") then
              return none
            else
              judge library owner first poll status
        | .value _ => .error (.rejected "CURRENT_STATUS_OBJECT_REQUIRED")

/-- The handlers around the body: they pass over two exceptions. -/
def handle :
    Except Failure (Option Members) → Option (Except Failure Members)
  | .ok none => none
  | .ok (some status) => some (.ok status)
  | .error .os => none
  | .error .jsonDecode => none
  | .error failure => some (.error failure)

/-- One turn of the loop: it keeps waiting, or it ends with a result. -/
def step (poll : Poll) : Option (Except Failure Members) :=
  if poll.beforeDeadline then
    handle (examine library owner first excluded poll)
  else
    some
      (.error (.rejected "CURRENT_SERVE_FRESH_ADVANCED_STATUS_REQUIRED"))

/-- The loop over the turns it is given. -/
def wait : List Poll → Option (Except Failure Members)
  | [] => none
  | poll :: rest =>
      match step library owner first excluded poll with
      | some result => some result
      | none => wait rest

/-- `wait_for_advanced_status`, absent while it waits. -/
def waitForAdvancedStatus (polls : List Poll) :
    Option (Except Failure Members) :=
  if excluded.any (fun digest => !isSha256 digest) then
    some (.error (.rejected "EXACT_PRESTART_STATUS_DIGEST_REQUIRED"))
  else
    wait library owner first excluded polls

end Status

/-! ## What the wait is for -/

section Purpose

variable (library : Library) (owner : String) (first : Members)
    (excluded : Option String)

/-- The watermark of a symbol in a report. -/
def markOf (value : Members) (symbol : String) : Option Json :=
  match getMember value "watermarks_ms" with
  | some (.object marks) => getMember marks symbol
  | _ => none

/-- The instant of a report. -/
def observedInstant (value : Members) : Option Int :=
  (observedAt library value).bind Datetime.instant

/-- A running report of the owner that is newer than the baseline. -/
structure Advanced (status : Members) (now : Int) : Prop where
  state : get status "state" = .text "RUNNING_NONTRADING"
  owned : get status "owner" = .text owner
  profile : hasProfile status = true
  nontrading :
    (get status "trading_started").isFalse = true ∧
      grantsNothing status = true
  marks :
    ∀ symbol ∈ symbols, ∃ mark old number,
      markOf status symbol = some (.int mark) ∧ 0 < mark ∧
        markOf first symbol = some old ∧ old.number = some number ∧
        pyLt number (comparableInt mark) = true
  later :
    ∃ observed before,
      observedInstant library status = some observed ∧
        observedInstant library first = some before ∧
        before < observed ∧ observed ≤ now + 5000000 ∧
        now ≤ observed + 120000000

/-- The bytes that a poll reads, within the bound. -/
def Reads (poll : Poll) (raw : List UInt8) : Prop :=
  ∃ size, poll.file = .present size raw ∧ size ≤ maxStatusBytes ∧
    raw.length ≤ maxStatusBytes

/-- A poll that a status was returned from. -/
def Returned (poll : Poll) (status : Members) : Prop :=
  ∃ raw, Reads poll raw ∧
    library.loads raw = .value (.object status) ∧
    (∀ prestart, excluded = some (library.sha256 prestart) →
      raw ≠ prestart) ∧
    Advanced library owner first status poll.later

/-- Bytes that are not a valid document. -/
def NotJson (raw : List UInt8) : Prop :=
  library.loads raw = .malformed ∨
    ∃ exception, library.loads raw = .raised none exception

/-- Bytes that hold this report, whether or not the interpreter reads it. -/
def Holds (raw : List UInt8) (status : Members) : Prop :=
  library.loads raw = .value (.object status) ∨
    ∃ exception,
      library.loads raw = .raised (some (.object status)) exception

/-- A report of another owner or profile, or one that grants something. -/
def Violates (status : Members) : Prop :=
  (get status "owner").pyEq (.text owner) = false ∨
    hasProfile status = false ∨
    (get status "trading_started").isFalse = false ∨
    grantsNothing status = false

/-- A poll reads a report that violates, and that it may not pass over. -/
structure ReadsViolation (poll : Poll) (raw : List UInt8)
    (status : Members) : Prop where
  reads : Reads poll raw
  holds : Holds library raw status
  other : excluded ≠ some (library.sha256 raw)
  news :
    (get status "observed_at_utc").pyEq (get first "observed_at_utc") = false
  violates : Violates owner status

/-- What a turn after other turns does with what it reads. -/
structure Promised (before : List Poll) (poll : Poll) : Prop where
  waits :
    ∀ raw, Reads poll raw → NotJson library raw →
      excluded ≠ some (library.sha256 raw) →
      waitForAdvancedStatus library owner first excluded (before ++ [poll]) =
        none
  rejects :
    ∀ raw status, ReadsViolation library owner first excluded poll raw status →
      ∃ code,
        waitForAdvancedStatus library owner first excluded
            (before ++ [poll]) =
          some (.error (.rejected code))

/-- What it takes for that. -/
structure Met (poll : Poll) : Prop where
  decodes :
    ∀ raw, Reads poll raw → NotJson library raw →
      excluded ≠ some (library.sha256 raw) →
      library.loads raw = .malformed
  limits :
    ∀ raw status, ReadsViolation library owner first excluded poll raw status →
      library.loads raw = .value (.object status)
  running :
    ∀ raw status, ReadsViolation library owner first excluded poll raw status →
      poll.running = .ok () ∨
        ∃ code, poll.running = .error (.rejected code)
  state :
    ∀ raw status, ReadsViolation library owner first excluded poll raw status →
      poll.running = .ok () → hasProfile status = true →
      (get status "trading_started").isFalse = true →
      hashable (get status "state") = true

end Purpose

section Properties

variable {library : Library} {owner : String} {first : Members}
    {excluded : Option String}

/-! ## Validators -/

theorem allM_eq_ok_true_iff
    {Item : Type} {test : Item → Except Failure Bool} {items : List Item} :
    items.allM test = .ok true ↔ ∀ item ∈ items, test item = .ok true := by
  induction items with
  | nil => simp [List.allM, pure, Except.pure]
  | cons head rest induction =>
      rw [List.allM, bind_eq_ok_iff, List.forall_mem_cons, ← induction]
      constructor
      · rintro ⟨passed, tested, others⟩
        cases passed with
        | false => cases others
        | true => exact ⟨tested, others⟩
      · rintro ⟨tested, others⟩
        exact ⟨true, tested, others⟩

theorem anyM_eq_ok_false
    {Item : Type} {test : Item → Except Failure Bool} {items : List Item}
    (each : ∀ item ∈ items, test item = .ok false) :
    items.anyM test = .ok false := by
  induction items with
  | nil => rfl
  | cons head rest induction =>
      rw [List.forall_mem_cons] at each
      rw [List.anyM, bind_eq_ok_iff]
      exact ⟨false, each.1, induction each.2⟩

theorem item_eq_ok_iff
    {value : Option Json} {key : String} {stored : Json} :
    item value key = .ok stored ↔
      ∃ members, value = some (.object members) ∧
        getMember members key = some stored := by
  unfold item
  split
  case h_1 members =>
    split
    case h_1 found same =>
      constructor
      · intro equal
        cases equal
        exact ⟨members, rfl, same⟩
      · rintro ⟨others, equal, there⟩
        cases equal
        rw [same] at there
        cases there
        rfl
    case h_2 absent =>
      constructor
      · intro impossible
        cases impossible
      · rintro ⟨others, equal, there⟩
        cases equal
        rw [absent] at there
        cases there
  case h_2 other notObject =>
    constructor
    · intro impossible
      cases impossible
    · rintro ⟨members, equal, _⟩
      cases equal
      exact absurd rfl (notObject members)
  case h_3 =>
    constructor
    · intro impossible
      cases impossible
    · rintro ⟨members, impossible, _⟩
      cases impossible

/-- A comparison of marks succeeds on the marks of the two reports. -/
theorem compareMarks_eq_ok_true
    {compare : Comparable → Comparable → Bool} {value : Members}
    {symbol : String}
    (compared : compareMarks compare value first symbol = .ok true) :
    ∃ mark old markNumber oldNumber,
      markOf value symbol = some mark ∧ markOf first symbol = some old ∧
        mark.number = some markNumber ∧ old.number = some oldNumber ∧
        compare markNumber oldNumber = true := by
  simp only [compareMarks, bind_eq_ok_iff, item_eq_ok_iff] at compared
  rcases compared with
    ⟨mark, ⟨marks, isMarks, found⟩, old, ⟨olds, isOlds, stored⟩, compared⟩
  unfold compareNumbers at compared
  split at compared
  case h_1 markNumber oldNumber isNumber isOld =>
    refine ⟨mark, old, markNumber, oldNumber, ?_, ?_, isNumber, isOld, ?_⟩
    · rw [markOf, isMarks]
      exact found
    · rw [markOf, isOlds]
      exact stored
    · exact Except.ok.inj compared
  case h_2 => cases compared

theorem validateRunningStatus_none
    {value : Members} {now : Int}
    (passed :
      validateRunningStatus library value owner none now = .ok ()) :
    get value "state" = .text "RUNNING_NONTRADING" ∧
      get value "owner" = .text owner ∧
      isWatermarks (get value "watermarks_ms") = true ∧
      grantsNothing value = true := by
  simp only [validateRunningStatus, bind_eq_ok_iff, refuseIf_eq_ok_iff,
    not_or, Bool.not_eq_false, pyEq_text_iff] at passed
  rcases passed with ⟨_, ⟨state, owned⟩, _, marks, _, ⟨nothing, _⟩, _⟩
  exact ⟨state, owned, marks, nothing⟩

theorem validateRunningStatus_some
    {value : Members} {now : Int}
    (passed :
      validateRunningStatus library value owner (some first) now = .ok ()) :
    ∃ observed before,
      observedInstant library value = some observed ∧
        observedInstant library first = some before ∧
        before < observed ∧ observed ≤ now + 5000000 ∧
        now ≤ observed + 120000000 := by
  simp only [validateRunningStatus, bind_eq_ok_iff, refuseIf_eq_ok_iff]
    at passed
  rcases passed with ⟨_, _, _, _, _, _, passed⟩
  split at passed
  case h_1 => cases passed
  case h_2 observed isObserved =>
    simp only [checkAdvance, bind_eq_ok_iff, refuseIf_eq_ok_iff] at passed
    rcases passed with ⟨_, fresh, _, _, _, _, compared⟩
    split at compared
    case h_1 => cases compared
    case h_2 old isOld =>
      split at compared
      case h_1 => cases compared
      case h_2 before isBefore =>
        rw [refuseIf_eq_ok_iff] at compared
        unfold stale at fresh
        refine
          ⟨observed, before, isObserved, ?_, by omega, by omega, by omega⟩
        rw [observedInstant, isOld, Option.bind_some]
        exact isBefore

theorem positive_of_isWatermarks
    {value : Members} {symbol : String} {mark : Json}
    (marks : isWatermarks (get value "watermarks_ms") = true)
    (found : markOf value symbol = some mark) :
    ∃ number, mark = .int number ∧ 0 < number := by
  unfold markOf at found
  split at found
  case h_2 => cases found
  case h_1 members isMarks =>
    rw [Library.JsonValue.get, isMarks, Option.getD_some, isWatermarks,
      Bool.and_eq_true, List.all_eq_true] at marks
    have positive := marks.2 _ (mem_of_lookup found)
    cases mark with
    | int number => exact ⟨number, rfl, of_decide_eq_true positive⟩
    | _ => cases positive

/-- What is returned is a running report that is newer than the baseline. -/
theorem judge_eq_ok_some
    {poll : Poll} {status returned : Members}
    (judged : judge library owner first poll status = .ok (some returned)) :
    returned = status ∧ Advanced library owner first status poll.later := by
  simp only [judge, bind_eq_ok_iff, refuseIf_eq_ok_iff, not_or,
    Bool.not_eq_false] at judged
  rcases judged with ⟨_, _, _, ⟨profile, nontrading⟩, pending, _, judged⟩
  cases pending with
  | true =>
      simp only [judgeState, if_true, bind_eq_ok_iff] at judged
      rcases judged with ⟨_, _, impossible⟩
      cases impossible
  | false =>
      simp only [judgeState, Bool.false_eq_true, if_false, bind_eq_ok_iff]
        at judged
      rcases judged with ⟨_, passed, advanced, compared, judged⟩
      cases advanced with
      | false => cases judged
      | true =>
          simp only [if_true, bind_eq_ok_iff, pure_eq_ok_iff] at judged
          rcases judged with ⟨_, repeated, same⟩
          cases same
          rcases validateRunningStatus_none passed with
            ⟨state, owned, marks, nothing⟩
          refine
            ⟨rfl, state, owned, profile, ⟨nontrading, nothing⟩, ?_,
              validateRunningStatus_some repeated⟩
          intro symbol listed
          rcases
            compareMarks_eq_ok_true
              (allM_eq_ok_true_iff.1 compared symbol listed) with
            ⟨mark, old, markNumber, oldNumber, found, stored, isMark, isOld,
              less⟩
          rcases positive_of_isWatermarks marks found with
            ⟨number, rfl, positive⟩
          cases isMark
          exact
            ⟨number, old, oldNumber, found, positive, stored, isOld, less⟩

theorem refuseIf_of_holds
    {condition : Prop} [Decidable condition] {failure : Failure}
    (holds : condition) :
    (refuseIf condition failure : Except Failure Unit) = .error failure :=
  (refuseIf_eq_error_iff condition failure failure).2 ⟨holds, rfl⟩

theorem refuseIf_of_not
    {condition : Prop} [Decidable condition] {failure : Failure}
    (fails : ¬ condition) :
    (refuseIf condition failure : Except Failure Unit) = .ok () :=
  (refuseIf_eq_ok_iff condition failure ()).2 fails

/-- A pending report that violates is rejected. -/
theorem validatePendingStatus_rejects
    (library : Library) {status : Members} (now : Int) {pending : Bool}
    (known : isPending status = .ok pending)
    (violates : Violates owner status) :
    ∃ code,
      validatePendingStatus library status owner now =
        .error (.rejected code) := by
  refine ⟨"CURRENT_STARTUP_OBSERVATION_REQUIRED", ?_⟩
  rw [validatePendingStatus, bind_eq_error_iff]
  apply Or.inr
  cases owned : (get status "owner").pyEq (.text owner) with
  | false =>
      refine ⟨false, by simp [isOwnPending, owned], ?_⟩
      rw [bind_eq_error_iff]
      exact Or.inl (refuseIf_of_holds (Or.inl rfl))
  | true =>
      refine ⟨pending, by simp [isOwnPending, owned, known], ?_⟩
      rw [bind_eq_error_iff]
      apply Or.inl
      apply refuseIf_of_holds
      rcases violates with other | profile | trading | grants
      · rw [owned] at other
        cases other
      · exact Or.inr (Or.inl profile)
      · exact Or.inr (Or.inr (Or.inl trading))
      · exact Or.inr (Or.inr (Or.inr (Or.inl grants)))

/-- A running report of another owner, or that grants, is rejected. -/
theorem validateRunningStatus_rejects
    (library : Library) {status : Members} (previous : Option Members)
    (now : Int)
    (violates :
      (get status "owner").pyEq (.text owner) = false ∨
        grantsNothing status = false) :
    ∃ code,
      validateRunningStatus library status owner previous now =
        .error (.rejected code) := by
  simp only [validateRunningStatus, bind_eq_error_iff]
  by_cases identity :
      (get status "state").pyEq (.text "RUNNING_NONTRADING") = false ∨
        (get status "owner").pyEq (.text owner) = false
  · exact ⟨_, Or.inl (refuseIf_of_holds identity)⟩
  · by_cases marks : isWatermarks (get status "watermarks_ms") = false
    · exact
        ⟨_, Or.inr
          ⟨(), refuseIf_of_not identity, Or.inl (refuseIf_of_holds marks)⟩⟩
    · have grants : grantsNothing status = false := by
        rcases violates with other | grants
        · exact absurd (Or.inr other) identity
        · exact grants
      exact
        ⟨_, Or.inr
          ⟨(), refuseIf_of_not identity, Or.inr
            ⟨(), refuseIf_of_not marks, Or.inl
              (refuseIf_of_holds (Or.inl grants))⟩⟩⟩

theorem isPending_of_hashable
    {status : Members} (known : hashable (get status "state") = true) :
    ∃ pending, isPending status = .ok pending := by
  rw [isPending, refuseIf_of_not (by rw [known]; exact Bool.noConfusion)]
  exact ⟨_, rfl⟩

/-- A report of this schema that violates is rejected. -/
theorem judgeState_rejects
    {poll : Poll} {status : Members} {pending : Bool}
    (known : isPending status = .ok pending)
    (violates :
      (get status "owner").pyEq (.text owner) = false ∨
        grantsNothing status = false) :
    ∃ code,
      judgeState library owner first poll status pending =
        .error (.rejected code) := by
  cases pending with
  | true =>
      have whole : Violates owner status := by
        rcases violates with other | grants
        · exact Or.inl other
        · exact Or.inr (Or.inr (Or.inr grants))
      rcases validatePendingStatus_rejects library poll.now known whole with
        ⟨code, rejected⟩
      exact ⟨code, (bind_eq_error_iff _ _ _).2 (Or.inl rejected)⟩
  | false =>
      rcases validateRunningStatus_rejects library none poll.now violates with
        ⟨code, rejected⟩
      exact ⟨code, (bind_eq_error_iff _ _ _).2 (Or.inl rejected)⟩

/-- A report that violates is rejected, where its state can be looked up. -/
theorem judge_rejects
    (library : Library) (first : Members) {poll : Poll} {status : Members}
    (running : poll.running = .ok ())
    (known :
      hasProfile status = true →
        (get status "trading_started").isFalse = true →
        hashable (get status "state") = true)
    (violates : Violates owner status) :
    ∃ code,
      judge library owner first poll status = .error (.rejected code) := by
  simp only [judge, bind_eq_error_iff]
  by_cases schema :
      hasProfile status = false ∨
        (get status "trading_started").isFalse = false
  · exact ⟨_, Or.inr ⟨(), running, Or.inl (refuseIf_of_holds schema)⟩⟩
  · have profile : hasProfile status = true := by
      by_contra other
      exact schema (Or.inl (Bool.not_eq_true _ ▸ other))
    have trading : (get status "trading_started").isFalse = true := by
      by_contra other
      exact schema (Or.inr (Bool.not_eq_true _ ▸ other))
    have remaining :
        (get status "owner").pyEq (.text owner) = false ∨
          grantsNothing status = false := by
      rcases violates with other | other | other | grants
      · exact Or.inl other
      · rw [profile] at other
        cases other
      · rw [trading] at other
        cases other
      · exact Or.inr grants
    rcases isPending_of_hashable (known profile trading) with
      ⟨pending, isKnown⟩
    rcases judgeState_rejects isKnown remaining with ⟨code, rejected⟩
    exact
      ⟨code, Or.inr
        ⟨(), running, Or.inr
          ⟨(), refuseIf_of_not schema, Or.inr ⟨pending, isKnown, rejected⟩⟩⟩⟩

/-! ## One turn -/

section Turn

variable {poll : Poll} {raw : List UInt8} {status : Members}

/-- Within the bound the bytes are read and decoded. -/
theorem examine_of_reads
    (owner : String) (first : Members) (reads : Reads poll raw)
    (other : excluded ≠ some (library.sha256 raw)) :
    examine library owner first excluded poll =
      match library.loads raw with
      | .malformed => .error .jsonDecode
      | .raised _ exception => .error (.raised exception)
      | .value (.object status) =>
          if
              (get status "observed_at_utc").pyEq
                (get first "observed_at_utc") then
            .ok none
          else
            judge library owner first poll status
      | .value _ => .error (.rejected "CURRENT_STATUS_OBJECT_REQUIRED") := by
  rcases reads with ⟨size, file, small, short⟩
  rw [examine, file]
  have bounded : ¬ (size > maxStatusBytes ∨ raw.length > maxStatusBytes) := by
    omega
  simp only [refuseIf_of_not bounded, if_neg other]
  rfl

/-- A report with a new observation time is judged. -/
theorem examine_of_news
    (owner : String) (reads : Reads poll raw)
    (loaded : library.loads raw = .value (.object status))
    (other : excluded ≠ some (library.sha256 raw))
    (news :
      (get status "observed_at_utc").pyEq (get first "observed_at_utc") =
        false) :
    examine library owner first excluded poll =
      judge library owner first poll status := by
  rw [examine_of_reads owner first reads other, loaded]
  simp only [news, Bool.false_eq_true, if_false]

theorem examine_of_violation
    (violation :
      ReadsViolation library owner first excluded poll raw status)
    (loaded : library.loads raw = .value (.object status)) :
    examine library owner first excluded poll =
      judge library owner first poll status :=
  examine_of_news owner violation.reads loaded violation.other violation.news

theorem step_of_beforeDeadline (inTime : poll.beforeDeadline = true) :
    step library owner first excluded poll =
      handle (examine library owner first excluded poll) := by
  rw [step, if_pos inTime]

theorem handle_eq_ok_iff {result : Except Failure (Option Members)} :
    handle result = some (.ok status) ↔ result = .ok (some status) := by
  constructor
  · intro handled
    unfold handle at handled
    split at handled
    case h_2 => exact congrArg (Except.ok ∘ some) (by injections)
    all_goals cases handled
  · rintro rfl
    rfl

/-- What a poll returns, it has read and validated. -/
theorem returned_of_step
    (stepped :
      step library owner first excluded poll = some (.ok status)) :
    Returned library owner first excluded poll status := by
  have inTime : poll.beforeDeadline = true := by
    by_contra late
    rw [step, if_neg late] at stepped
    cases stepped
  have examined :=
    handle_eq_ok_iff.1 (step_of_beforeDeadline inTime ▸ stepped)
  unfold examine at examined
  split at examined
  case h_1 => cases examined
  case h_2 => cases examined
  case h_3 size raw file =>
    rw [bind_eq_ok_iff] at examined
    rcases examined with ⟨_, bounded, examined⟩
    rw [refuseIf_eq_ok_iff] at bounded
    split_ifs at examined with same
    · simp only [bind_eq_ok_iff, pure_eq_ok_iff] at examined
      rcases examined with ⟨_, _, impossible⟩
      cases impossible
    · split at examined
      case h_1 => cases examined
      case h_2 => cases examined
      case h_4 => cases examined
      case h_3 found loaded =>
        split_ifs at examined
        · cases examined
        · rcases judge_eq_ok_some examined with ⟨rfl, advanced⟩
          refine ⟨raw, ⟨size, file, by omega, by omega⟩, loaded, ?_, advanced⟩
          rintro prestart isExcluded rfl
          exact same isExcluded

end Turn

/-! ## Runs -/

theorem wait_append
    {before : List Poll} (poll : Poll)
    (still : wait library owner first excluded before = none) :
    wait library owner first excluded (before ++ [poll]) =
      step library owner first excluded poll := by
  induction before with
  | nil =>
      rw [List.nil_append, wait]
      cases step library owner first excluded poll with
      | none => rfl
      | some result => rfl
  | cons head rest induction =>
      rw [wait] at still
      rw [List.cons_append, wait]
      cases stepped : step library owner first excluded head with
      | some result =>
          rw [stepped] at still
          cases still
      | none =>
          rw [stepped] at still
          exact induction still

theorem waitForAdvancedStatus_append
    {before : List Poll} (poll : Poll)
    (still :
      waitForAdvancedStatus library owner first excluded before = none) :
    waitForAdvancedStatus library owner first excluded (before ++ [poll]) =
      step library owner first excluded poll := by
  rw [waitForAdvancedStatus] at still ⊢
  split_ifs at still ⊢
  exact wait_append poll still

/-- A run that returns does so in one of its turns. -/
theorem exists_step_of_wait
    {polls : List Poll} {result : Except Failure Members}
    (ended : wait library owner first excluded polls = some result) :
    ∃ poll ∈ polls, step library owner first excluded poll = some result := by
  induction polls with
  | nil => cases ended
  | cons head rest induction =>
      rw [wait] at ended
      cases stepped : step library owner first excluded head with
      | some found =>
          rw [stepped] at ended
          exact ⟨head, List.mem_cons_self, stepped.trans ended⟩
      | none =>
          rw [stepped] at ended
          rcases induction ended with ⟨poll, member, there⟩
          exact ⟨poll, List.mem_cons_of_mem _ member, there⟩

section Turns

variable {before : List Poll} {poll : Poll}

/-- A turn in time ends the wait with what it makes of its reads. -/
theorem waitForAdvancedStatus_turn
    (still :
      waitForAdvancedStatus library owner first excluded before = none)
    (inTime : poll.beforeDeadline = true) :
    waitForAdvancedStatus library owner first excluded (before ++ [poll]) =
      handle (examine library owner first excluded poll) := by
  rw [waitForAdvancedStatus_append poll still]
  exact step_of_beforeDeadline inTime

variable
  (turned :
    waitForAdvancedStatus library owner first excluded (before ++ [poll]) =
      handle (examine library owner first excluded poll))

include turned

/-- Where a violation is rejected, the interpreter has read it. -/
theorem Promised.limits
    (promised : Promised library owner first excluded before poll)
    {raw : List UInt8} {status : Members}
    (violation :
      ReadsViolation library owner first excluded poll raw status) :
    library.loads raw = .value (.object status) := by
  rcases violation.holds with loaded | ⟨exception, raised⟩
  · exact loaded
  · rcases promised.rejects raw status violation with ⟨code, rejected⟩
    have examined :=
      examine_of_reads owner first violation.reads violation.other
    rw [raised] at examined
    rw [turned, examined] at rejected
    cases rejected

/-- Where a violation is rejected, the check of the running worker has passed
or rejected. -/
theorem Promised.running
    (promised : Promised library owner first excluded before poll)
    {raw : List UInt8} {status : Members}
    (violation :
      ReadsViolation library owner first excluded poll raw status) :
    poll.running = .ok () ∨ ∃ code, poll.running = .error (.rejected code) := by
  rcases promised.rejects raw status violation with ⟨code, rejected⟩
  have examined :=
    examine_of_violation violation (promised.limits turned violation)
  cases running : poll.running with
  | ok done => exact Or.inl rfl
  | error failure =>
      have judged :
          judge library owner first poll status = .error failure := by
        rw [judge, bind_eq_error_iff]
        exact Or.inl running
      rw [judged] at examined
      rw [turned, examined] at rejected
      cases failure with
      | rejected other => exact Or.inr ⟨other, rfl⟩
      | os => cases rejected
      | jsonDecode => cases rejected
      | raised exception => cases rejected

/-- Where a violation is rejected, its state can be looked up. -/
theorem Promised.state
    (promised : Promised library owner first excluded before poll)
    {raw : List UInt8} {status : Members}
    (violation :
      ReadsViolation library owner first excluded poll raw status)
    (running : poll.running = .ok ()) (profile : hasProfile status = true)
    (trading : (get status "trading_started").isFalse = true) :
    hashable (get status "state") = true := by
  rcases promised.rejects raw status violation with ⟨code, rejected⟩
  have examined :=
    examine_of_violation violation (promised.limits turned violation)
  by_contra unknown
  have judged :
      judge library owner first poll status =
        .error (.raised "TypeError") := by
    simp only [judge, bind_eq_error_iff]
    refine Or.inr ⟨(), running, Or.inr ⟨(), ?_, Or.inl ?_⟩⟩
    · apply refuseIf_of_not
      rw [profile, trading]
      rintro (impossible | impossible) <;> cases impossible
    · rw [isPending, bind_eq_error_iff]
      exact Or.inl (refuseIf_of_holds (Bool.not_eq_true _ ▸ unknown))
  rw [judged] at examined
  rw [turned, examined] at rejected
  cases rejected

theorem Promised.met
    (promised : Promised library owner first excluded before poll) :
    Met library owner first excluded poll where
  decodes := by
    intro raw reads notJson other
    have waiting := promised.waits raw reads notJson other
    rcases notJson with malformed | ⟨exception, raised⟩
    · exact malformed
    · have examined := examine_of_reads owner first reads other
      rw [raised] at examined
      rw [turned, examined] at waiting
      cases waiting
  limits _ _ := promised.limits turned
  running _ _ := promised.running turned
  state _ _ := promised.state turned

theorem Met.promised
    (met : Met library owner first excluded poll) :
    Promised library owner first excluded before poll where
  waits := by
    intro raw reads notJson other
    have examined := examine_of_reads owner first reads other
    rw [met.decodes raw reads notJson other] at examined
    rw [turned, examined]
    rfl
  rejects := by
    intro raw status violation
    have examined :=
      examine_of_violation violation (met.limits raw status violation)
    have known := met.state raw status violation
    rcases met.running raw status violation with running | ⟨code, running⟩
    · rcases judge_rejects library first running (known running)
          violation.violates with
        ⟨code, judged⟩
      rw [judged] at examined
      exact ⟨code, by rw [turned, examined]; rfl⟩
    · have judged :
          judge library owner first poll status =
            .error (.rejected code) := by
        rw [judge, bind_eq_error_iff]
        exact Or.inl running
      rw [judged] at examined
      exact ⟨code, by rw [turned, examined]; rfl⟩

end Turns

/-- A turn does what is promised when its reads and its calls allow it. -/
theorem promised_iff_met
    {before : List Poll} {poll : Poll}
    (still :
      waitForAdvancedStatus library owner first excluded before = none)
    (inTime : poll.beforeDeadline = true) :
    Promised library owner first excluded before poll ↔
      Met library owner first excluded poll := by
  have turned := waitForAdvancedStatus_turn still inTime
  exact ⟨Promised.met turned, Met.promised turned⟩

/--
What a wait returns is a new report, in every run.  It waits through what is
no document, and rejects what violates, exactly where the turns allow it.
-/
theorem waitForAdvancedStatus_iff
    (library : Library) (owner : String) (first : Members)
    (excluded : Option String) (polls : List Poll) :
    (∀ status,
        waitForAdvancedStatus library owner first excluded polls =
            some (.ok status) →
          ∃ poll ∈ polls,
            Returned library owner first excluded poll status) ∧
      ((∀ before poll rest, polls = before ++ poll :: rest →
          waitForAdvancedStatus library owner first excluded before = none →
          poll.beforeDeadline = true →
          Promised library owner first excluded before poll) ↔
        ∀ before poll rest, polls = before ++ poll :: rest →
          waitForAdvancedStatus library owner first excluded before = none →
          poll.beforeDeadline = true →
          Met library owner first excluded poll) := by
  constructor
  · intro status ended
    rw [waitForAdvancedStatus] at ended
    split_ifs at ended
    · cases ended
    · rcases exists_step_of_wait ended with ⟨poll, member, stepped⟩
      exact ⟨poll, member, returned_of_step stepped⟩
  · constructor
    · intro promised before poll rest split still inTime
      exact
        (promised_iff_met still inTime).1
          (promised before poll rest split still inTime)
    · intro met before poll rest split still inTime
      exact
        (promised_iff_met still inTime).2
          (met before poll rest split still inTime)

end Properties

/-! ## Two waits -/

theorem ok_bind
    {Value Result : Type} (value : Value)
    (next : Value → Except Failure Result) :
    ((.ok value : Except Failure Value) >>= next) = next value := rfl

/-- `json.loads` of bytes in UTF-8. -/
def plainLoads (raw : List UInt8) : Loaded :=
  match decode raw with
  | none => .raised none "UnicodeDecodeError"
  | some text =>
      match loads ⟨exponentFloats.float, true⟩ text with
      | some value => .value value
      | none => .malformed

/-- A library over it, for waits without an excluded digest. -/
def plainLibrary : Library where
  loads := plainLoads
  sha256 _ := ""
  iso := isoReader

/-- The same watermark for each symbol. -/
def marksOf (mark : Int) : Members :=
  dict (symbols.map fun symbol => (symbol, .int mark))

/-- A report with all its flags, for a watermark and a time. -/
def report (mark : Int) (time : CivilTime) : Members :=
  dict
    [("ALPHA_READY", .bool false), ("LIVE_READY", .bool false),
      ("PAPER_QUALIFIED", .bool false),
      ("STRATEGY_POLICY", .text "REJECT_ALL"),
      ("observed_at_utc", .text (isoformat time)), ("owner", .text "kairos"),
      ("pending_outbox", .int 0), ("schema_migration_count", .int 19),
      ("schema_profile", .text "current-controlled-v1"),
      ("schema_public_table_count", .int 33),
      ("state", .text "RUNNING_NONTRADING"), ("trading_started", .bool false),
      ("uncompleted_publications", .int 0), ("unresolved_inbox", .int 0),
      ("watermarks_ms", .object (marksOf mark))]

theorem hasProfile_report (mark : Int) (time : CivilTime) :
    hasProfile (report mark time) = true := by
  simp [hasProfile, report, get_dict, List.lookup]

theorem grantsNothing_report (mark : Int) (time : CivilTime) :
    grantsNothing (report mark time) = true := by
  simp [grantsNothing, report, get_dict, List.lookup, Json.isFalse]

theorem watermarks_report (mark : Int) (time : CivilTime) :
    getMember (report mark time) "watermarks_ms" =
      some (.object (marksOf mark)) := by
  simp [report, getMember_dict]

theorem entries_marksOf (mark : Int) :
    (symbols.map fun symbol => (symbol, Json.int mark)).map Prod.fst =
      symbols := by
  rw [List.map_map]
  exact List.map_id symbols

theorem hasSymbols_marksOf (mark : Int) :
    hasSymbols (marksOf mark) = true := by
  rw [hasSymbols, marksOf, keySet_dict, keySet, entries_marksOf]
  exact decide_eq_true rfl

theorem lookup_marksOf
    (mark : Int) {symbol : String} (listed : symbol ∈ symbols) :
    getMember (marksOf mark) symbol = some (.int mark) := by
  rw [marksOf, getMember_dict]
  apply lastOf_of_mem
  · rw [entries_marksOf]
    exact Contract.symbols_nodup
  · exact List.mem_map.2 ⟨symbol, listed, rfl⟩

theorem isWatermarks_report
    {mark : Int} (positive : 0 < mark) (time : CivilTime) :
    isWatermarks (get (report mark time) "watermarks_ms") = true := by
  rw [Library.JsonValue.get, watermarks_report, Option.getD_some,
    isWatermarks, hasSymbols_marksOf, Bool.true_and, List.all_eq_true]
  intro entry listed
  rcases List.mem_map.1 (mem_dict listed) with ⟨symbol, _, rfl⟩
  exact decide_eq_true positive

theorem canonical_report (mark : Int) (time : CivilTime) :
    Canonical (.object (report mark time)) := by
  have marks : Canonical (.object (marksOf mark)) := by
    apply wellFormed_dict
    intro entry listed
    rcases List.mem_map.1 listed with ⟨symbol, _, rfl⟩
    exact .int mark
  apply wellFormed_dict
  simp only [List.forall_mem_cons]
  simp [WellFormed.int, WellFormed.text, WellFormed.bool, marks]

theorem text_report (mark : Int) (time : CivilTime) :
    get (report mark time) "state" = .text "RUNNING_NONTRADING" ∧
      get (report mark time) "owner" = .text "kairos" ∧
      (get (report mark time) "trading_started").isFalse = true ∧
      get (report mark time) "pending_outbox" = .int 0 ∧
      get (report mark time) "unresolved_inbox" = .int 0 ∧
      get (report mark time) "uncompleted_publications" = .int 0 ∧
      getMember (report mark time) "observed_at_utc" =
        some (.text (isoformat time)) := by
  simp [report, get_dict, getMember_dict, List.lookup, Json.isFalse]

theorem observedAt_report (mark : Int) (time : CivilTime) :
    observedAt plainLibrary (report mark time) =
      some ⟨time, some utcOffset⟩ := by
  have found := (text_report mark time).2.2.2.2.2.2
  rw [observedAt, found]
  simp only [replace_zulu_of_isoformat]
  exact plainLibrary.iso.fromisoformat_isoformat time

theorem compareMarks_report
    (compare : Comparable → Comparable → Bool) (mark old : Int)
    (time before : CivilTime) {symbol : String} (listed : symbol ∈ symbols) :
    compareMarks compare (report mark time) (report old before) symbol =
      .ok (compare (comparableInt mark) (comparableInt old)) := by
  have marks :
      ∀ (value : Int) (moment : CivilTime),
        item (getMember (report value moment) "watermarks_ms") symbol =
          .ok (.int value) := by
    intro value moment
    rw [watermarks_report, item_eq_ok_iff]
    exact ⟨_, rfl, lookup_marksOf value listed⟩
  rw [compareMarks, marks, marks]
  rfl

/-- A report is validated, up to the comparison with the previous one. -/
theorem validate_report
    {mark : Int} (positive : 0 < mark) (time : CivilTime)
    (previous : Option Members) {now : Int}
    (fresh : ¬ stale now time.microseconds) :
    validateRunningStatus plainLibrary (report mark time) "kairos" previous
        now =
      match previous with
      | none => .ok ()
      | some previous =>
          checkAdvance plainLibrary (report mark time) previous
            time.microseconds := by
  have facts := text_report mark time
  have instant :
      (observedAt plainLibrary (report mark time)).bind Datetime.instant =
        some time.microseconds := by
    rw [observedAt_report]
    simp [Datetime.instant, utcOffset]
  have identity :
      ¬ ((get (report mark time) "state").pyEq (.text "RUNNING_NONTRADING") =
            false ∨
          (get (report mark time) "owner").pyEq (.text "kairos") =
            false) := by
    rw [not_or, Bool.not_eq_false, Bool.not_eq_false, pyEq_text_iff,
      pyEq_text_iff]
    exact ⟨facts.1, facts.2.1⟩
  have healthy :
      ¬ (grantsNothing (report mark time) = false ∨
          ["pending_outbox", "unresolved_inbox",
              "uncompleted_publications"].all
            (fun key => (get (report mark time) key).pyEq (.int 0)) =
              false) := by
    rw [grantsNothing_report]
    simp [facts.2.2.2.1, facts.2.2.2.2.1, facts.2.2.2.2.2.1]
  have marks :
      ¬ isWatermarks (get (report mark time) "watermarks_ms") = false := by
    rw [isWatermarks_report positive]
    exact Bool.noConfusion
  rw [validateRunningStatus, refuseIf_of_not identity, refuseIf_of_not marks,
    refuseIf_of_not healthy, instant]
  simp only [refuseIf_of_not fresh, ok_bind]
  rfl

theorem checkAdvance_report
    {mark old : Int} {time before : CivilTime} (higher : old < mark)
    (newer : before.microseconds < time.microseconds) :
    checkAdvance plainLibrary (report mark time) (report old before)
        time.microseconds =
      .ok () := by
  have held :
      heldBack (report mark time) (report old before) = .ok false := by
    have olds :
        get (report old before) "watermarks_ms" = .object (marksOf old) := by
      rw [Library.JsonValue.get, watermarks_report]
      rfl
    rw [heldBack, olds]
    simp only [hasSymbols_marksOf, if_true]
    apply anyM_eq_ok_false
    intro symbol listed
    rw [compareMarks_report _ _ _ _ _ listed]
    simpa [pyLe, comparableInt] using higher
  simp only [checkAdvance, bind_eq_ok_iff, refuseIf_eq_ok_iff]
  refine ⟨false, held, (), Bool.false_ne_true, ?_⟩
  rw [observedAt_report]
  simp [Datetime.instant, utcOffset, newer]

/-- A later report with higher watermarks is returned. -/
theorem judge_report
    {poll : Poll} {mark old : Int} {time before : CivilTime}
    (running : poll.running = .ok ()) (positive : 0 < old)
    (higher : old < mark)
    (newer : before.microseconds < time.microseconds)
    (fresh : ¬ stale poll.now time.microseconds)
    (stillFresh : ¬ stale poll.later time.microseconds) :
    judge plainLibrary "kairos" (report old before) poll (report mark time) =
      .ok (some (report mark time)) := by
  have facts := text_report mark time
  have schema :
      ¬ (hasProfile (report mark time) = false ∨
          (get (report mark time) "trading_started").isFalse = false) := by
    simp [hasProfile_report, facts]
  have pending : isPending (report mark time) = .ok false := by
    rw [isPending, facts.1]
    rfl
  have above :
      symbols.allM
          (compareMarks (fun mark old => pyLt old mark) (report mark time)
            (report old before)) =
        .ok true := by
    rw [allM_eq_ok_true_iff]
    intro symbol listed
    rw [compareMarks_report _ _ _ _ _ listed]
    simpa [pyLt, comparableInt] using higher
  have markPositive := positive.trans higher
  simp only [judge, bind_eq_ok_iff, refuseIf_eq_ok_iff]
  refine ⟨(), running, (), schema, false, pending, ?_⟩
  simp only [judgeState, Bool.false_eq_true, if_false, bind_eq_ok_iff]
  refine ⟨(), validate_report markPositive time none fresh, true, above, ?_⟩
  simp only [if_true, bind_eq_ok_iff]
  refine ⟨(), ?_, rfl⟩
  rw [validate_report markPositive time _ stillFresh]
  exact checkAdvance_report higher newer

theorem plainLoads_write {value : Json} (canonical : Canonical value) :
    plainLoads (utf8 (String.ofList (write exponentFloats value))) =
      .value value := by
  rw [plainLoads, decode_utf8]
  have read :
      loads ⟨exponentFloats.float, true⟩
          (String.ofList (write exponentFloats value)) =
        some value :=
    loads_write rfl canonical
  simp only [read]

/-- The time of the baseline. -/
def noon : CivilTime where
  year := 2024
  month := 2
  day := 29
  hour := 12
  minute := 0
  second := 0
  microsecond := 0
  valid := by decide

/-- A turn at the end of the day, with a service that runs. -/
def turn (raw : List UInt8) : Poll where
  beforeDeadline := true
  file := .present raw.length raw
  running := .ok ()
  now := leapDay.microseconds
  later := leapDay.microseconds

/-- The bytes of a report. -/
def savedReport : List UInt8 :=
  utf8
    (String.ofList
      (write exponentFloats (.object (report 120000 leapDay))))

theorem reads_turn {raw : List UInt8} (short : raw.length ≤ maxStatusBytes) :
    Reads (turn raw) raw :=
  ⟨raw.length, rfl, short, short⟩

theorem step_savedReport :
    step plainLibrary "kairos" (report 60000 noon) none (turn savedReport) =
      some (.ok (report 120000 leapDay)) := by
  have short : savedReport.length ≤ maxStatusBytes := by
    refine (length_utf8_le _).trans ?_
    decide +kernel
  have loaded :
      plainLibrary.loads savedReport =
        .value (.object (report 120000 leapDay)) := by
    unfold savedReport plainLibrary
    generalize document : Json.object (report 120000 leapDay) = value
    apply plainLoads_write
    rw [← document]
    exact canonical_report 120000 leapDay
  have times :
      (get (report 120000 leapDay) "observed_at_utc").pyEq
          (get (report 60000 noon) "observed_at_utc") =
        false := by
    decide
  have judged :
      judge plainLibrary "kairos" (report 60000 noon) (turn savedReport)
          (report 120000 leapDay) =
        .ok (some (report 120000 leapDay)) := by
    apply judge_report
    · rfl
    · decide
    · decide
    · decide
    · decide
    · decide
  rw [step_of_beforeDeadline rfl,
    examine_of_news "kairos" (reads_turn short) loaded
      (by rintro ⟨⟩) times,
    judged]
  rfl

/-- A document that was cut off is waited through; the report is returned. -/
theorem waitForAdvancedStatus_returns :
    ∃ poll ∈ [turn (utf8 "\x7b"), turn savedReport],
      Returned plainLibrary "kairos" (report 60000 noon) none poll
        (report 120000 leapDay) := by
  have waits :
      step plainLibrary "kairos" (report 60000 noon) none
          (turn (utf8 "\x7b")) =
        none := by
    decide
  apply
    (waitForAdvancedStatus_iff plainLibrary "kairos" (report 60000 noon) none
      [turn (utf8 "\x7b"), turn savedReport]).1
  rw [waitForAdvancedStatus, Option.any_none, if_neg Bool.false_ne_true,
    wait, waits, wait, step_savedReport]

/-- Bytes that are not text end the wait. -/
theorem waitForAdvancedStatus_ends_on_bytes :
    Reads (turn [0xff]) [0xff] ∧ NotJson plainLibrary [0xff] ∧
      waitForAdvancedStatus plainLibrary "kairos" (report 60000 noon) none
          [turn [0xff]] =
        some (.error (.raised "UnicodeDecodeError")) :=
  ⟨reads_turn (by decide), Or.inr ⟨_, rfl⟩, rfl⟩

end KairosDeploy.Epoch.AdvancedStatus
