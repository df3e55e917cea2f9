import KairosDeploy.Epoch.AdvancedStatus
import KairosDeploy.Epoch.AuditAnchors
import KairosDeploy.Epoch.CircuitRuns
import KairosDeploy.Epoch.ServingLoop

/-!
# The status of the service and its readers

The service writes a status after every round that ends, and again while it
waits for its source.  The boot programs and the controller read the status
and refuse it, unless it is one that the service could have written.  What
the one writes, the others accept: whatever the source does, and at every
moment at which the status is fresh.
-/

namespace KairosDeploy.Epoch.LifecycleStatus

open KairosDeploy.Epoch.AdvancedStatus
open KairosDeploy.Epoch.AuditAnchors
open KairosDeploy.Epoch.CircuitRuns
open KairosDeploy.Epoch.Contract
open KairosDeploy.Epoch.ServingLoop (finalityTarget)
open KairosDeploy.Epoch.SourceWait
open KairosDeploy.Library.JsonValue
open KairosDeploy.Library.PyNumber
open KairosDeploy.Library.PyObject
open KairosDeploy.Library.Refusal
open KairosDeploy.Library.Timestamp
open KairosDeploy.Library.Transition

/-! ## The readers of the boot programs -/

/-- `circuit_keys`. -/
def circuitKeys : List String :=
  ["timeout_rounds", "recoveries", "consecutive_timeout_rounds"]

/-- `dns_keys`. -/
def dnsKeys : List String :=
  ["dns_failure_rounds", "consecutive_dns_failure_rounds"]

/-- `known`. -/
def knownStates : List String :=
  ["RUNNING_NONTRADING", "WAITING_SOURCE_NONTRADING",
    "CATCHING_UP_NONTRADING"]

/-- An integer that is not a `bool`. -/
def exactInt : Json → Option Int
  | .int value => some value
  | _ => none

/-- `type(value) is int and test(value)`. -/
def intWhere (test : Int → Bool) (value : Json) : Bool :=
  (exactInt value).any test

/-- `circuit.get(key, 0)`. -/
def getOrZero (circuit : Members) (key : String) : Json :=
  (getMember circuit key).getD (.int 0)

/-- `has_dns_telemetry`. -/
def hasDnsTelemetry (circuit : Members) : Bool :=
  decide (keySet circuit = (circuitKeys ++ dnsKeys).toFinset)

/-- `circuit_schema in schemas`. -/
def inSchemas (allowDns : Bool) (circuit : Members) : Bool :=
  decide (keySet circuit = circuitKeys.toFinset) ||
    allowDns && hasDnsTelemetry circuit

/-- The counters that are checked are integers from zero on. -/
def countersValid (circuit : Members) : Bool :=
  (circuitKeys ++ if hasDnsTelemetry circuit then dnsKeys else []).all
    fun key => intWhere (fun value => 0 ≤ value) (get circuit key)

/-- A comparison of two counters, which are integers by then. -/
def atMost (left right : Json) : Bool :=
  match exactInt left, exactInt right with
  | some left, some right => left ≤ right
  | _, _ => false

/-- `circuit["recoveries"] <= circuit["timeout_rounds"] + dns_rounds`. -/
def recoveriesBounded (circuit : Members) : Bool :=
  match exactInt (get circuit "timeout_rounds"),
    exactInt (getOrZero circuit "dns_failure_rounds") with
  | some timeouts, some dns =>
      atMost (get circuit "recoveries") (.int (timeouts + dns))
  | _, _ => false

/-- The tests of the counters after their schema is known. -/
def telemetryValid (circuit : Members) : Bool :=
  countersValid circuit &&
    !(hasDnsTelemetry circuit &&
      intWhere (fun value => value < 1)
        (getOrZero circuit "dns_failure_rounds")) &&
    recoveriesBounded circuit &&
    atMost (get circuit "consecutive_timeout_rounds")
      (get circuit "timeout_rounds") &&
    atMost (getOrZero circuit "consecutive_dns_failure_rounds")
      (getOrZero circuit "dns_failure_rounds")

/-- `timeout_wait_valid`. -/
def timeoutWaitValid (value circuit : Members) : Bool :=
  isText WaitReason.fetchTimeout.code (get value "source_wait_reason") &&
    intWhere (fun rounds => 1 ≤ rounds)
      (get circuit "consecutive_timeout_rounds") &&
    intWhere (fun rounds => rounds = 0)
      (getOrZero circuit "consecutive_dns_failure_rounds")

/-- `dns_wait_valid`. -/
def dnsWaitValid (allowDns : Bool) (value circuit : Members) : Bool :=
  allowDns &&
    isText WaitReason.fetchDnsFailure.code
      (get value "source_wait_reason") &&
    intWhere (fun rounds => 1 ≤ rounds)
      (getOrZero circuit "consecutive_dns_failure_rounds") &&
    intWhere (fun rounds => rounds = 0)
      (get circuit "consecutive_timeout_rounds")

/-- `value.get(key) is None`. -/
def isNone : Json → Bool
  | .null => true
  | _ => false

/-- The last two tests: what a status says about waiting agrees with its
counters. -/
def waitValid (allowDns waiting : Bool) (value circuit : Members) : Bool :=
  if waiting then
    timeoutWaitValid value circuit || dnsWaitValid allowDns value circuit
  else
    isNone (get value "source_wait_reason") &&
      intWhere (fun rounds => rounds = 0)
        (get circuit "consecutive_timeout_rounds") &&
      intWhere (fun rounds => rounds = 0)
        (getOrZero circuit "consecutive_dns_failure_rounds")

/-- `value.get(key) is expected`. -/
def isBool (expected : Bool) : Json → Bool
  | .bool value => value == expected
  | _ => false

/-- The queues of a status that is at rest. -/
def queueKeys : List String :=
  ["pending_outbox", "unresolved_inbox", "uncompleted_publications"]

/-- The long condition of `validate_r6_lifecycle_status`, negated. -/
def pauseBoundary (allowDns : Bool) (value : Members) : Bool :=
  let running := isText "RUNNING_NONTRADING" (get value "state")
  let waiting := isText "WAITING_SOURCE_NONTRADING" (get value "state")
  isBool false (get value "trading_started") &&
    isBool running (get value "source_fresh") &&
    queueKeys.all
      (fun key => intWhere (fun count => count = 0) (get value key)) &&
    match get value "source_transport" with
    | .object circuit =>
        inSchemas allowDns circuit && telemetryValid circuit &&
          waitValid allowDns waiting value circuit
    | _ => false

/-- `{**value, "state": "RUNNING_NONTRADING"}`. -/
def asRunning (value : Members) : Members :=
  insertMember "state" (.text "RUNNING_NONTRADING") value

section Readers

variable (library : Library) (owner : String)

/-- `value.get("state") in states`; a list or a dictionary cannot be hashed. -/
def stateIn (states : List String) (value : Members) :
    Except Failure Bool := do
  refuseIf (hashable (get value "state") = false) (.raised "TypeError")
  return states.any fun state => isText state (get value "state")

/-- `validate_r6_lifecycle_status`. -/
def validateR6LifecycleStatus
    (allowDns : Bool) (now : Int) : Json → Except Failure Unit
  | .object value => do
      let known ← stateIn knownStates value
      refuseIf (known = false)
        (.rejected "R6_KNOWN_NONTRADING_LIFECYCLE_REQUIRED")
      refuseIf (pauseBoundary allowDns value = false)
        (.rejected "R6_SOURCE_PAUSE_BOUNDARY_REQUIRED")
      validateRunningStatus library (asRunning value) owner none now
  | _ => .error (.rejected "R6_KNOWN_NONTRADING_LIFECYCLE_REQUIRED")

/-- `validate_r7_lifecycle_status`. -/
def validateR7LifecycleStatus (now : Int) : Json → Except Failure Unit
  | .object value => do
      refuseIf (isBool false (get value "trading_started") = false)
        (.rejected "R7_ACCEPTED_NONTRADING_LIFECYCLE_REQUIRED")
      let paused ← stateIn pendingStates value
      if paused then
        validateR6LifecycleStatus library owner true now (.object value)
      else do
        refuseIf (isBool true (get value "source_fresh") = false)
          (.rejected "R7_ACCEPTED_NONTRADING_LIFECYCLE_REQUIRED")
        validateRunningStatus library value owner none now
  | _ => .error (.rejected "R7_ACCEPTED_NONTRADING_LIFECYCLE_REQUIRED")

end Readers

/-! ## The service -/

/-- What the consumer's connection counts in one look. -/
structure Counts where
  pending : Nat
  unresolved : Nat
  completed : Nat
  uncompleted : Nat
  tradingRows : Nat
deriving DecidableEq

/-- The inner loop: the looks at the queues until the deadline.  It raises at
a trading row, and where nothing is at rest by the deadline. -/
def settled : List Counts → Option Counts
  | [] => none
  | counts :: later =>
      if counts.tradingRows ≠ 0 then
        none
      else if
          counts.pending = 0 ∧ counts.unresolved = 0 ∧
            counts.uncompleted = 0 then
        some counts
      else
        settled later

/-- `redis_telemetry`. -/
structure RedisTransport where
  transportFailures : Nat
  recoveries : Nat
  pendingReplays : Nat

/-- What a round of the service meets. -/
structure Round where
  /-- What `recover` raises. -/
  failure : Option PyException
  /-- `end`, and what the second `flush` returns. -/
  endExclusive : Int
  sent : Nat
  looks : List Counts
  /-- What the second `anchors` reads, and the clock after it. -/
  audit : List AuditRow
  nowMs : Int
  observed : CivilTime
  redis : RedisTransport

/-- The profiles of the schema. -/
inductive SchemaProfile where
  | historicalDefault
  | currentControlled
deriving DecidableEq

/-- `schema_profile_report`. -/
def schemaProfileReport : SchemaProfile → Members
  | .historicalDefault => []
  | .currentControlled =>
      [("schema_profile", .text "current-controlled-v1"),
        ("schema_migration_count", .int 19),
        ("schema_public_table_count", .int 33)]

/-- `SourceCircuit.snapshot`. -/
def snapshot (circuit : SourceCircuit) : Members :=
  dict
    ([("timeout_rounds", .int circuit.timeouts),
        ("recoveries", .int circuit.recoveries),
        ("consecutive_timeout_rounds", .int circuit.consecutiveTimeouts)] ++
      if circuit.dnsFailures ≠ 0 then
        [("dns_failure_rounds", .int circuit.dnsFailures),
          ("consecutive_dns_failure_rounds",
            .int circuit.consecutiveDnsFailures)]
      else
        [])

/-- The circuit after `recover` has returned or raised. -/
def recovered (circuit : SourceCircuit) :
    Option PyException → Option (Option WaitReason × SourceCircuit)
  | none => some (none, circuit.succeeded)
  | some error =>
      match circuit.failed error with
      | (.ok reason, later) => some (some reason, later)
      | (.error _, _) => none

/-- `watermarks_ms`. -/
def watermarksMs (watermarks : Dict ClosedBarEvent) : Members :=
  dict
    (watermarks.entries.map fun entry =>
      (entry.1, .int entry.2.watermark))

/-- `source_fresh`. -/
def sourceFresh
    (reason : Option WaitReason) (watermarks : Dict ClosedBarEvent)
    (target : Int) : Bool :=
  reason.isNone &&
    (dictValues watermarks).all fun event => target ≤ event.watermark

/-- The state of a report. -/
def reportState (reason : Option WaitReason) (fresh : Bool) : String :=
  if reason.isSome then "WAITING_SOURCE_NONTRADING"
  else if fresh then "RUNNING_NONTRADING"
  else "CATCHING_UP_NONTRADING"

/-- `source_wait_reason`. -/
def waitReason : Option WaitReason → Json
  | some reason => .text reason.code
  | none => .null

/-- The entries of a report. -/
def reportEntries
    (owner : String) (profile : SchemaProfile) (cycles : Nat)
    (circuit : SourceCircuit) (reason : Option WaitReason)
    (watermarks : Dict ClosedBarEvent) (counts : Counts) (round : Round)
    (observed : CivilTime) : Members :=
  let target := finalityTarget round.nowMs
  let fresh := sourceFresh reason watermarks target
  [("state", .text (reportState reason fresh)), ("owner", .text owner),
    ("cycles", .int (cycles + 1)),
    ("watermarks_ms", .object (watermarksMs watermarks)),
    ("pending_outbox", .int counts.pending),
    ("unresolved_inbox", .int counts.unresolved),
    ("completed_inbox", .int counts.completed),
    ("uncompleted_publications", .int counts.uncompleted),
    ("new_publications", .int round.sent),
    ("observed_at_utc", .text (isoformat observed)),
    ("PAPER_QUALIFIED", .bool false), ("ALPHA_READY", .bool false),
    ("LIVE_READY", .bool false), ("STRATEGY_POLICY", .text "REJECT_ALL"),
    ("qualification_proofs", .object []),
    ("redis_transport",
      .object
        (dict
          [("transport_failures", .int round.redis.transportFailures),
            ("recoveries", .int round.redis.recoveries),
            ("pending_replays", .int round.redis.pendingReplays)])),
    ("source_transport", .object (snapshot circuit)),
    ("source_wait_reason", waitReason reason),
    ("finalized_target_ms", .int target),
    ("batch_end_exclusive_ms", .int round.endExclusive),
    ("source_fresh", .bool fresh), ("trading_started", .bool false)] ++
  schemaProfileReport profile

/-- The service between two writes of its status. -/
structure ServeState where
  circuit : SourceCircuit
  cycles : Nat
  /-- Whether it waits for its source. -/
  waiting : Bool
  /-- What `status.json` holds. -/
  status : Option Members

/-- The service before its first round. -/
def ServeState.start : ServeState where
  circuit := .start
  cycles := 0
  waiting := false
  status := none

/-- What the service does next. -/
inductive ServeAction where
  | round (round : Round)
  /-- `heartbeat`, at a time. -/
  | heartbeat (observed : CivilTime)

section Service

variable (model : BarModel) (owner : String) (profile : SchemaProfile)
    (encodedLength : Members → Nat)

/-- The bound of `write_status`. -/
def withinBound (status : Members) : Option Members :=
  if encodedLength status ≤ maxStatusBytes then some status else none

/-- `runtime` as `serve` calls it, one status at a time; absent where it
raises. -/
def serveStep (state : ServeState) : ServeAction → Option ServeState
  | .round round => do
      let (reason, circuit) ← recovered state.circuit round.failure
      let counts ← settled round.looks
      let watermarks ← (anchors model round.audit).toOption
      let status ←
        withinBound encodedLength
          (dict
            (reportEntries owner profile state.cycles circuit reason
              watermarks counts round round.observed))
      return ⟨circuit, state.cycles + 1, reason.isSome, some status⟩
  | .heartbeat observed =>
      if state.waiting then do
        let report ← state.status
        let status ←
          withinBound encodedLength
            (insertMember "observed_at_utc" (.text (isoformat observed))
              report)
        return { state with status := some status }
      else
        none

end Service

/-! ## What a status says -/

/-- The reason for which a round waits agrees with the streaks. -/
def Agrees (circuit : SourceCircuit) : Option WaitReason → Prop
  | none =>
      circuit.consecutiveTimeouts = 0 ∧ circuit.consecutiveDnsFailures = 0
  | some .fetchTimeout =>
      1 ≤ circuit.consecutiveTimeouts ∧ circuit.consecutiveDnsFailures = 0
  | some .fetchDnsFailure =>
      1 ≤ circuit.consecutiveDnsFailures ∧ circuit.consecutiveTimeouts = 0

/-- A status of the service, by what its readers look at. -/
structure Reported
    (owner : String) (profile : SchemaProfile) (circuit : SourceCircuit)
    (reason : Option WaitReason) (fresh : Bool)
    (watermarks : Dict ClosedBarEvent) (observed : CivilTime)
    (status : Members) : Prop where
  state : get status "state" = .text (reportState reason fresh)
  owned : get status "owner" = .text owner
  cycles : isCount (get status "cycles") = true
  marks : get status "watermarks_ms" = .object (watermarksMs watermarks)
  queues : ∀ key ∈ queueKeys, get status key = .int 0
  grants : grantsNothing status = true
  trading : get status "trading_started" = .bool false
  fresh : get status "source_fresh" = .bool fresh
  transport : get status "source_transport" = .object (snapshot circuit)
  reason : get status "source_wait_reason" = waitReason reason
  hasProfile : profile = .currentControlled → hasProfile status = true
  observed :
    getMember status "observed_at_utc" = some (.text (isoformat observed))

/-- What holds between two writes. -/
structure Consistent
    (owner : String) (profile : SchemaProfile) (state : ServeState) :
    Prop where
  attained : Attained state.circuit
  told :
    ∀ status, state.status = some status →
      ∃ reason fresh watermarks observed,
        Reported owner profile state.circuit reason fresh watermarks observed
          status ∧
        FiveSymbols watermarks ∧ Agrees state.circuit reason ∧
        (fresh = true → reason = none)

theorem get_insertMember_of_ne
    (members : Members) {key other : String} (value : Json)
    (different : other ≠ key) :
    get (insertMember key value members) other = get members other := by
  rw [Library.JsonValue.get, Library.JsonValue.get,
    getMember_insertMember_of_ne _ _ different]

/-- A heartbeat changes the time of a status and nothing else. -/
theorem Reported.heartbeat
    {owner : String} {profile : SchemaProfile} {circuit : SourceCircuit}
    {reason : Option WaitReason} {fresh : Bool}
    {watermarks : Dict ClosedBarEvent} {observed : CivilTime}
    {status : Members}
    (reported :
      Reported owner profile circuit reason fresh watermarks observed status)
    (later : CivilTime) :
    Reported owner profile circuit reason fresh watermarks later
      (insertMember "observed_at_utc" (.text (isoformat later)) status) := by
  have kept : ∀ key, key ≠ "observed_at_utc" →
      get (insertMember "observed_at_utc" (.text (isoformat later)) status)
          key =
        get status key :=
    fun key different => get_insertMember_of_ne status _ different
  have grants :
      grantsNothing
          (insertMember "observed_at_utc" (.text (isoformat later)) status) =
        true := by
    simp only [grantsNothing, kept "PAPER_QUALIFIED" (by simp),
      kept "ALPHA_READY" (by simp), kept "LIVE_READY" (by simp),
      kept "STRATEGY_POLICY" (by simp)]
    exact reported.grants
  have current : profile = .currentControlled →
      AdvancedStatus.hasProfile
          (insertMember "observed_at_utc" (.text (isoformat later)) status) =
        true := by
    intro current
    simp only [AdvancedStatus.hasProfile, kept "schema_profile" (by simp),
      kept "schema_migration_count" (by simp),
      kept "schema_public_table_count" (by simp)]
    exact reported.hasProfile current
  exact
    { grants
      state := (kept _ (by simp)).trans reported.state
      owned := (kept _ (by simp)).trans reported.owned
      cycles := (congrArg isCount (kept _ (by simp))).trans reported.cycles
      marks := (kept _ (by simp)).trans reported.marks
      queues := fun key queue => by
        have different : key ≠ "observed_at_utc" := by
          rintro rfl
          simp [queueKeys] at queue
        rw [kept key different, reported.queues key queue]
      trading := (kept _ (by simp)).trans reported.trading
      fresh := (kept _ (by simp)).trans reported.fresh
      transport := (kept _ (by simp)).trans reported.transport
      reason := (kept _ (by simp)).trans reported.reason
      hasProfile := current
      observed := getMember_insertMember_self _ _ _ }

theorem settled_eq_some
    {looks : List Counts} {counts : Counts}
    (rest : settled looks = some counts) :
    counts.pending = 0 ∧ counts.unresolved = 0 ∧ counts.uncompleted = 0 := by
  induction looks with
  | nil => cases rest
  | cons look looks induction =>
      unfold settled at rest
      split_ifs at rest with trading quiet
      · cases rest
        exact quiet
      · exact induction rest

/-- What the circuit returns agrees with its streaks. -/
theorem recovered_eq_some
    {circuit later : SourceCircuit} {failure : Option PyException}
    {reason : Option WaitReason}
    (attained : Attained circuit)
    (ended : recovered circuit failure = some (reason, later)) :
    Attained later ∧ Agrees later reason := by
  unfold recovered at ended
  split at ended
  · cases ended
    exact ⟨attained.succeeded, rfl, rfl⟩
  · rename_i error
    unfold SourceCircuit.failed at ended
    split at ended
    · rename_i other after failed
      split at failed
      · cases failed
      · cases failed
        cases ended
        refine ⟨attained.counted other, ?_⟩
        cases other with
        | fetchTimeout => exact ⟨Nat.le_add_left 1 _, rfl⟩
        | fetchDnsFailure => exact ⟨Nat.le_add_left 1 _, rfl⟩
    · cases ended

/-- What the report of a round says. -/
theorem reported_entries
    (owner : String) (profile : SchemaProfile) (cycles : Nat)
    (circuit : SourceCircuit) (reason : Option WaitReason)
    (watermarks : Dict ClosedBarEvent) {counts : Counts} (round : Round)
    (observed : CivilTime)
    (quiet :
      counts.pending = 0 ∧ counts.unresolved = 0 ∧
        counts.uncompleted = 0) :
    Reported owner profile circuit reason
      (sourceFresh reason watermarks (finalityTarget round.nowMs)) watermarks
      observed
      (dict
        (reportEntries owner profile cycles circuit reason watermarks counts
          round observed)) := by
  rcases quiet with ⟨pending, unresolved, uncompleted⟩
  constructor <;> cases profile <;>
    simp [reportEntries, get_dict, getMember_dict, schemaProfileReport,
      List.lookup, queueKeys, grantsNothing, AdvancedStatus.hasProfile,
      Json.isFalse, isCount, pending, unresolved, uncompleted] <;>
    omega

/-- Every step keeps what holds between two writes. -/
theorem Consistent.step
    {model : BarModel} {owner : String} {profile : SchemaProfile}
    {encodedLength : Members → Nat} {before after : ServeState}
    (consistent : Consistent owner profile before) (action : ServeAction)
    (taken :
      serveStep model owner profile encodedLength before action =
        some after) :
    Consistent owner profile after := by
  cases action with
  | round round =>
      simp only [serveStep, Option.bind_eq_bind, Option.bind_eq_some_iff,
        Option.pure_def, Option.some.injEq, Prod.exists] at taken
      rcases taken with
        ⟨reason, circuit, ended, counts, rest, watermarks, read, status,
          bounded, rfl⟩
      rcases recovered_eq_some consistent.attained ended with
        ⟨attained, agrees⟩
      refine ⟨attained, ?_⟩
      rintro _ ⟨⟩
      unfold withinBound at bounded
      split_ifs at bounded
      cases bounded
      refine
        ⟨reason, _, watermarks, _,
          reported_entries owner profile before.cycles circuit reason
            watermarks round round.observed (settled_eq_some rest),
          ?_, agrees, ?_⟩
      · rcases found : anchors model round.audit with error | values
        · rw [found] at read
          cases read
        · rw [found] at read
          cases read
          exact (anchors_eq_ok found).1
      · intro fresh
        simpa using (Bool.and_eq_true_iff.1 fresh).1
  | heartbeat observed =>
      unfold serveStep at taken
      dsimp only at taken
      split_ifs at taken
      simp only [Option.bind_eq_bind, Option.bind_eq_some_iff,
        Option.pure_def, Option.some.injEq] at taken
      rcases taken with ⟨report, written, status, bounded, rfl⟩
      rcases consistent.told report written with
        ⟨reason, fresh, watermarks, earlier, reported, others⟩
      refine ⟨consistent.attained, ?_⟩
      rintro _ ⟨⟩
      unfold withinBound at bounded
      split_ifs at bounded
      cases bounded
      exact
        ⟨reason, fresh, watermarks, observed, reported.heartbeat observed,
          others⟩

theorem consistent_of_reaches
    {model : BarModel} {owner : String} {profile : SchemaProfile}
    {encodedLength : Members → Nat} {state : ServeState}
    (run :
      Reaches (serveStep model owner profile encodedLength) .start state) :
    Consistent owner profile state := by
  apply run.invariant (Consistent owner profile)
  · exact ⟨attained_start, fun _ written => by cases written⟩
  · intro before action after consistent taken
    exact consistent.step action taken

/-! ## What the readers make of it -/

theorem get_snapshot (circuit : SourceCircuit) :
    get (snapshot circuit) "timeout_rounds" = .int circuit.timeouts ∧
      get (snapshot circuit) "recoveries" = .int circuit.recoveries ∧
      get (snapshot circuit) "consecutive_timeout_rounds" =
        .int circuit.consecutiveTimeouts := by
  unfold snapshot
  split_ifs <;> simp [get_dict, List.lookup]

theorem keySet_snapshot (circuit : SourceCircuit) :
    keySet (snapshot circuit) =
      (circuitKeys ++ if circuit.dnsFailures ≠ 0 then dnsKeys else []).toFinset
      := by
  unfold snapshot
  rw [keySet_dict, keySet]
  split_ifs <;> rfl

theorem hasDnsTelemetry_snapshot (circuit : SourceCircuit) :
    hasDnsTelemetry (snapshot circuit) = decide (circuit.dnsFailures ≠ 0) := by
  unfold hasDnsTelemetry
  rw [keySet_snapshot]
  split_ifs with dns
  · simp [dns]
  · simp only [dns, decide_false, decide_eq_false_iff_not]
    decide

theorem inSchemas_snapshot (allowDns : Bool) (circuit : SourceCircuit) :
    inSchemas allowDns (snapshot circuit) =
      (allowDns || decide (circuit.dnsFailures = 0)) := by
  unfold inSchemas
  rw [hasDnsTelemetry_snapshot, keySet_snapshot]
  by_cases dns : circuit.dnsFailures = 0
  · simp [dns]
  · have apart : ¬ dnsKeys.toFinset ⊆ circuitKeys.toFinset := by
      decide
    simp [dns, apart]

/-- A counter that is left out of a snapshot is zero. -/
theorem getOrZero_snapshot
    {circuit : SourceCircuit} (attained : Attained circuit) :
    getOrZero (snapshot circuit) "dns_failure_rounds" =
        .int circuit.dnsFailures ∧
      getOrZero (snapshot circuit) "consecutive_dns_failure_rounds" =
        .int circuit.consecutiveDnsFailures := by
  have streak := attained.dnsStreak.1
  unfold snapshot getOrZero
  by_cases dns : circuit.dnsFailures = 0
  · have none : circuit.consecutiveDnsFailures = 0 := by omega
    simp [getMember_dict, List.lookup, dns, none]
  · simp [getMember_dict, List.lookup, dns]

theorem telemetryValid_snapshot
    {circuit : SourceCircuit} (attained : Attained circuit) :
    telemetryValid (snapshot circuit) = true := by
  rcases get_snapshot circuit with ⟨timeouts, recoveries, streak⟩
  rcases getOrZero_snapshot attained with ⟨dns, dnsStreak⟩
  have valid : countersValid (snapshot circuit) = true := by
    unfold countersValid
    rw [hasDnsTelemetry_snapshot, List.all_append, Bool.and_eq_true]
    constructor
    · simp [circuitKeys, intWhere, exactInt, timeouts, recoveries, streak]
    · by_cases none : circuit.dnsFailures = 0
      · simp [none]
      · simp [none, snapshot, dnsKeys, intWhere, exactInt, get_dict,
          List.lookup]
  have bounded : recoveriesBounded (snapshot circuit) = true := by
    have apart := attained.apart
    simp only [recoveriesBounded, timeouts, dns, recoveries, exactInt, atMost,
      decide_eq_true_eq]
    omega
  unfold telemetryValid
  rw [valid, bounded, hasDnsTelemetry_snapshot, timeouts, streak, dns,
    dnsStreak]
  simp [intWhere, exactInt, atMost, attained.timeoutStreak.1,
    attained.dnsStreak.1]

theorem waitValid_snapshot
    {owner : String} {profile : SchemaProfile} {circuit : SourceCircuit}
    {reason : Option WaitReason} {fresh : Bool}
    {watermarks : Dict ClosedBarEvent} {observed : CivilTime}
    {status : Members}
    (reported :
      Reported owner profile circuit reason fresh watermarks observed status)
    (attained : Attained circuit) (agrees : Agrees circuit reason)
    (allowDns : Bool) :
    waitValid allowDns reason.isSome status (snapshot circuit) =
      (allowDns || decide (reason ≠ some .fetchDnsFailure)) := by
  rcases get_snapshot circuit with ⟨_, _, streak⟩
  rcases getOrZero_snapshot attained with ⟨_, dnsStreak⟩
  have told := reported.reason
  unfold waitValid timeoutWaitValid dnsWaitValid
  rw [told, streak, dnsStreak]
  rcases reason with _ | _ | _
  · simp [waitReason, isNone, intWhere, exactInt, agrees.1, agrees.2]
  · simp [waitReason, isText, WaitReason.code, intWhere, exactInt, agrees.1,
      agrees.2]
  · simp [waitReason, isText, WaitReason.code, intWhere, exactInt, agrees.1,
      agrees.2]

/-- The boundary of a pause admits every status of the service, up to the
telemetry of the DNS. -/
theorem pauseBoundary_reported
    {owner : String} {profile : SchemaProfile} {circuit : SourceCircuit}
    {reason : Option WaitReason} {fresh : Bool}
    {watermarks : Dict ClosedBarEvent} {observed : CivilTime}
    {status : Members}
    (reported :
      Reported owner profile circuit reason fresh watermarks observed status)
    (attained : Attained circuit) (agrees : Agrees circuit reason)
    (freshOnly : fresh = true → reason = none) (allowDns : Bool) :
    pauseBoundary allowDns status =
      (allowDns || decide (circuit.dnsFailures = 0)) := by
  have running :
      isText "RUNNING_NONTRADING" (get status "state") = fresh := by
    rw [reported.state]
    unfold reportState
    cases fresh
    · cases reason <;> simp [isText]
    · simp [freshOnly rfl, isText]
  have waiting :
      isText "WAITING_SOURCE_NONTRADING" (get status "state") =
        reason.isSome := by
    rw [reported.state]
    unfold reportState
    cases reason
    · cases fresh <;> simp [isText]
    · simp [isText]
  have quiet :
      queueKeys.all
          (fun key => intWhere (fun count => count = 0) (get status key)) =
        true := by
    rw [List.all_eq_true]
    intro key queue
    rw [reported.queues key queue]
    rfl
  unfold pauseBoundary
  dsimp only
  rw [running, waiting, quiet, reported.trading, reported.fresh,
    reported.transport]
  dsimp only
  rw [inSchemas_snapshot, telemetryValid_snapshot attained,
    waitValid_snapshot reported attained agrees]
  cases allowDns
  · by_cases dns : circuit.dnsFailures = 0
    · have other : reason ≠ some .fetchDnsFailure := by
        rintro rfl
        have streak := attained.dnsStreak.1
        have long := agrees.1
        omega
      simp [isBool, dns, other]
    · simp [isBool, dns]
  · simp [isBool]

theorem isWatermarks_watermarksMs
    {watermarks : Dict ClosedBarEvent} (five : FiveSymbols watermarks) :
    isWatermarks (.object (watermarksMs watermarks)) = true ↔
      ∀ event ∈ dictValues watermarks, 0 < event.watermark := by
  have keys :
      ((watermarks.entries.map fun entry =>
        (entry.1, Json.int entry.2.watermark)).map Prod.fst) =
        watermarks.keys := by
    rw [List.map_map]
    rfl
  have distinct := watermarks.nodupKeys
  have known : hasSymbols (watermarksMs watermarks) = true := by
    rw [hasSymbols, decide_eq_true_eq, watermarksMs, keySet_dict, keySet,
      keys]
    exact five
  have ordered : (watermarksMs watermarks).Perm _ :=
    perm_dict (keys.symm ▸ distinct)
  rw [isWatermarks, known, Bool.true_and, ordered.all_eq, List.all_eq_true]
  simp only [List.forall_mem_map, dictValues, isPositiveInt,
    decide_eq_true_eq]

section Readers

variable (library : Library) {owner : String} {profile : SchemaProfile}
    {circuit : SourceCircuit} {reason : Option WaitReason} {fresh : Bool}
    {watermarks : Dict ClosedBarEvent} {observed : CivilTime}
    {status : Members} {now : Int}

/-- A fresh status that is read as running is refused for its watermarks
only. -/
theorem validateRunningStatus_reported
    (reported :
      Reported owner profile circuit reason fresh watermarks observed status)
    (five : FiveSymbols watermarks)
    (current : ¬ stale now observed.microseconds)
    {value : Members} (running : get value "state" = .text "RUNNING_NONTRADING")
    (same : ∀ key, key ≠ "state" → getMember value key = getMember status key) :
    validateRunningStatus library value owner none now = .ok () ↔
      ∀ event ∈ dictValues watermarks, 0 < event.watermark := by
  have equal : ∀ key, key ≠ "state" → get value key = get status key := by
    intro key different
    rw [Library.JsonValue.get, same key different]
    rfl
  have quiet :
      ["pending_outbox", "unresolved_inbox", "uncompleted_publications"].all
          (fun key => (get value key).pyEq (.int 0)) =
        true := by
    rw [List.all_eq_true]
    intro key queue
    have different : key ≠ "state" := by
      rintro rfl
      simp at queue
    rw [equal key different, reported.queues key queue]
    simp [pyEq_int_iff]
  have grants : grantsNothing value = true := by
    simp only [grantsNothing, equal "PAPER_QUALIFIED" (by simp),
      equal "ALPHA_READY" (by simp), equal "LIVE_READY" (by simp),
      equal "STRATEGY_POLICY" (by simp)]
    exact reported.grants
  have time :
      (observedAt library value).bind Datetime.instant =
        some observed.microseconds := by
    rw [observedAt, same "observed_at_utc" (by simp), reported.observed]
    simp only [replace_zulu_of_isoformat]
    rw [library.iso.fromisoformat_isoformat]
    simp [Datetime.instant, utcOffset]
  rw [← isWatermarks_watermarksMs five]
  unfold validateRunningStatus
  rw [time, running, equal "owner" (by simp), reported.owned,
    equal "watermarks_ms" (by simp), reported.marks, grants, quiet]
  simp [pyEq_text_iff, current]

theorem stateIn_reported
    (reported :
      Reported owner profile circuit reason fresh watermarks observed status)
    (states : List String) :
    stateIn states status =
      .ok (decide (reportState reason fresh ∈ states)) := by
  rw [stateIn, reported.state, refuseIf_of_not (by simp [hashable]), ok_bind]
  simp [isText, List.any_eq, eq_comm, pure, Except.pure]

/-- What `validate_r6_lifecycle_status` makes of a status of the service. -/
theorem validateR6_reported
    (reported :
      Reported owner profile circuit reason fresh watermarks observed status)
    (five : FiveSymbols watermarks) (attained : Attained circuit)
    (agrees : Agrees circuit reason)
    (freshOnly : fresh = true → reason = none)
    (current : ¬ stale now observed.microseconds) (allowDns : Bool) :
    validateR6LifecycleStatus library owner allowDns now (.object status) =
        .ok () ↔
      (allowDns = true ∨ circuit.dnsFailures = 0) ∧
        ∀ event ∈ dictValues watermarks, 0 < event.watermark := by
  have known : reportState reason fresh ∈ knownStates := by
    unfold reportState
    split_ifs <;> simp [knownStates]
  have running :
      get (asRunning status) "state" = .text "RUNNING_NONTRADING" := by
    rw [asRunning, Library.JsonValue.get, getMember_insertMember_self]
    rfl
  rw [← validateRunningStatus_reported library reported five
    current running
    fun key different => getMember_insertMember_of_ne _ _ different]
  unfold validateR6LifecycleStatus
  dsimp only
  rw [stateIn_reported reported, ok_bind,
    refuseIf_of_not (by simp [known]), ok_bind,
    pauseBoundary_reported reported attained agrees freshOnly]
  cases allowDns <;> simp

/-- What `validate_r7_lifecycle_status` makes of it. -/
theorem validateR7_reported
    (reported :
      Reported owner profile circuit reason fresh watermarks observed status)
    (five : FiveSymbols watermarks) (attained : Attained circuit)
    (agrees : Agrees circuit reason)
    (freshOnly : fresh = true → reason = none)
    (current : ¬ stale now observed.microseconds) :
    validateR7LifecycleStatus library owner now (.object status) = .ok () ↔
      ∀ event ∈ dictValues watermarks, 0 < event.watermark := by
  unfold validateR7LifecycleStatus
  dsimp only
  rw [reported.trading, refuseIf_of_not (by simp [isBool]), ok_bind,
    stateIn_reported reported, ok_bind]
  by_cases paused : reportState reason fresh ∈ pendingStates
  · rw [decide_eq_true paused, if_pos rfl,
      validateR6_reported library reported five attained agrees freshOnly
        current]
    simp
  · have running : reason = none ∧ fresh = true := by
      revert paused
      unfold reportState
      cases reason <;> cases fresh <;> simp [pendingStates]
    have state : get status "state" = .text "RUNNING_NONTRADING" := by
      rw [reported.state, running.1, running.2]
      rfl
    rw [decide_eq_false paused, if_neg Bool.false_ne_true, reported.fresh,
      running.2, refuseIf_of_not (by simp [isBool]), ok_bind,
      validateRunningStatus_reported library reported five current state
        fun _ _ => rfl]

/-- What the controller makes of one that is not running. -/
theorem validatePendingStatus_reported
    (reported :
      Reported owner .currentControlled circuit reason fresh watermarks
        observed status)
    (five : FiveSymbols watermarks)
    (current : ¬ stale now observed.microseconds)
    (paused : reportState reason fresh ∈ pendingStates) :
    validatePendingStatus library status owner now = .ok () ↔
      ∀ event ∈ dictValues watermarks, 0 < event.watermark := by
  have own : isOwnPending status owner = .ok true := by
    have pending := stateIn_reported reported pendingStates
    rw [decide_eq_true paused] at pending
    rw [isOwnPending, reported.owned, if_pos (by simp [pyEq_text_iff])]
    exact pending
  have counts :
      ["pending_outbox", "unresolved_inbox", "uncompleted_publications",
          "cycles"].all (fun key => isCount (get status key)) =
        true := by
    have queues := reported.queues
    simp only [queueKeys, List.forall_mem_cons] at queues
    rw [List.all_cons, List.all_cons, List.all_cons, List.all_cons, queues.1,
      queues.2.1, queues.2.2.1, reported.cycles]
    rfl
  have time :
      (observedAt library status).bind Datetime.instant =
        some observed.microseconds := by
    rw [observedAt, reported.observed]
    simp only [replace_zulu_of_isoformat]
    rw [library.iso.fromisoformat_isoformat]
    simp [Datetime.instant, utcOffset]
  rw [← isWatermarks_watermarksMs five]
  unfold validatePendingStatus
  rw [own, ok_bind, reported.hasProfile rfl, reported.trading,
    reported.grants, counts, reported.marks, time]
  simp [Json.isFalse, current]

end Readers

/-! ## Every status of every run -/

/-- All watermarks of a status are times after the epoch. -/
def AfterEpoch (watermarks : Dict ClosedBarEvent) : Prop :=
  ∀ event ∈ dictValues watermarks, 0 < event.watermark

/--
In every run of the service, and whatever its source does, the readers accept
its status as long as it is fresh.  A reader that knows no telemetry of the DNS
accepts it as long as no round was deferred for the DNS.
-/
theorem status_accepted
    (library : Library) (model : BarModel) (owner : String)
    (profile : SchemaProfile) (encodedLength : Members → Nat)
    {state : ServeState} {status : Members}
    (run :
      Reaches (serveStep model owner profile encodedLength) .start state)
    (written : state.status = some status) :
    ∃ watermarks observed,
      get status "watermarks_ms" = .object (watermarksMs watermarks) ∧
      getMember status "observed_at_utc" =
        some (.text (isoformat observed)) ∧
      ∀ now, ¬ stale now observed.microseconds →
        (validateR7LifecycleStatus library owner now (.object status) =
            .ok () ↔
          AfterEpoch watermarks) ∧
        (∀ allowDns,
          validateR6LifecycleStatus library owner allowDns now
                (.object status) =
              .ok () ↔
            (allowDns = true ∨ state.circuit.dnsFailures = 0) ∧
              AfterEpoch watermarks) ∧
        (profile = .currentControlled →
          ¬ get status "state" = .text "RUNNING_NONTRADING" →
          (validatePendingStatus library status owner now = .ok () ↔
            AfterEpoch watermarks)) := by
  have consistent := consistent_of_reaches run
  rcases consistent.told status written with
    ⟨reason, fresh, watermarks, observed, reported, five, agrees, freshOnly⟩
  refine
    ⟨watermarks, observed, reported.marks, reported.observed,
      fun now current => ⟨?_, ?_, ?_⟩⟩
  · exact
      validateR7_reported library reported five consistent.attained agrees
        freshOnly current
  · exact
      validateR6_reported library reported five consistent.attained agrees
        freshOnly current
  · rintro rfl notRunning
    have paused : reportState reason fresh ∈ pendingStates := by
      rw [reported.state] at notRunning
      revert notRunning
      unfold reportState
      cases reason <;> cases fresh <;> simp [pendingStates]
    exact validatePendingStatus_reported library reported five current paused

/-! ## A source that fails and comes back -/

/-- A round on the first minute of each symbol, a day later. -/
def leapRound (failure : Option PyException) : Round where
  failure := failure
  endExclusive := 120000
  sent := 0
  looks := [⟨3, 0, 5, 3, 0⟩, ⟨0, 0, 8, 0, 0⟩]
  audit := ServingLoop.firstMinuteAudit
  nowMs := 86400000
  observed := noon
  redis := ⟨0, 0, 0⟩

/-- A failure of the DNS, as `recover` raises it. -/
def dnsFailure : PyException :=
  .leaf ⟨0, true, "OFFICIAL_CLOSED_BAR_FETCH_DNS_FAILURE"⟩

/-- A round that waits, a heartbeat, and a round that catches up. -/
def outage : List ServeAction :=
  [.round (leapRound (some dnsFailure)), .heartbeat leapDay,
    .round (leapRound none)]

/-- The status after the outage is accepted, but not without telemetry of the
DNS. -/
theorem status_accepted_outage :
    ∃ state status,
      perform
          (serveStep minuteBarModel "owner" .currentControlled fun _ => 0)
          .start outage =
        some state ∧
      state.status = some status ∧ state.circuit.dnsFailures = 1 ∧
      ∃ watermarks observed,
        get status "watermarks_ms" = .object (watermarksMs watermarks) ∧
        getMember status "observed_at_utc" =
          some (.text (isoformat observed)) ∧
        ∀ now, ¬ stale now observed.microseconds →
          (validateR7LifecycleStatus plainLibrary "owner" now
                (.object status) =
              .ok () ↔
            AfterEpoch watermarks) ∧
          (∀ allowDns,
            validateR6LifecycleStatus plainLibrary "owner" allowDns now
                  (.object status) =
                .ok () ↔
              (allowDns = true ∨ state.circuit.dnsFailures = 0) ∧
                AfterEpoch watermarks) ∧
          (SchemaProfile.currentControlled = .currentControlled →
            ¬ get status "state" = .text "RUNNING_NONTRADING" →
            (validatePendingStatus plainLibrary status "owner" now =
                .ok () ↔
              AfterEpoch watermarks)) := by
  have performed :
      perform
          (serveStep minuteBarModel "owner" .currentControlled fun _ => 0)
          .start outage =
        some _ := rfl
  exact
    ⟨_, _, performed, rfl, rfl,
      status_accepted plainLibrary minuteBarModel "owner" .currentControlled
        (fun _ => 0) (reaches_of_perform performed) rfl⟩

end KairosDeploy.Epoch.LifecycleStatus
