import KairosDeploy.Library.Transition
import KairosDeploy.Library.RedisStream
import KairosDeploy.Epoch.Contract

/-!
# The consumer's read loop

`EpochRedisTransport.subscribe` reads a consumer group through three commands:
a read of new entries (`>`), a read of its own pending entries (`0`) and a
reclaim of stale entries of other consumers.  A command may take effect and
lose its reply, so that an entry is assigned to the consumer without the
consumer knowing it.

After any transport failure the loop reads its own pending entries until they
are empty before it asks for new ones.  The invariant behind this says what an
entry of the own pending list can be while the loop believes it is in step
with the server: handed to the caller, or about to be.
-/

namespace KairosDeploy.Epoch.ConsumerSubscription

open KairosDeploy.Library.Transition
open KairosDeploy.Library.RedisStream
open KairosDeploy.Epoch.Contract

/-! ## Constants and telemetry -/

/-- `RUNTIME_REDIS_BLOCK_MS`. -/
def blockMs : Nat := 1000

/-- `RUNTIME_REDIS_COMMAND_SECONDS`, in milliseconds. -/
def commandMs : Int := 6000

/-- `RUNTIME_REDIS_RECOVERY_SECONDS`, in milliseconds. -/
def recoveryMs : Int := 22000

/-- `RUNTIME_REDIS_ATTEMPTS`. -/
def redisAttempts : Nat := 3

/-- `RUNTIME_REDIS_BACKOFF_SECONDS`, in milliseconds. -/
def backoffMs : List Nat := [250, 500]

/-- The `count` of both group reads. -/
def readCount : Nat := 16

/-- The stages that a failure record may name. -/
inductive OperationStage where
  | ensureGroup
  | pendingRead
  | reclaim
  | newMessageRead
  | ack
deriving DecidableEq, Repr

/-- The record kept of the last failure. -/
structure FailureRecord where
  stage : OperationStage
  elapsedMs : Int
  errorClass : String
  attempts : Nat
deriving DecidableEq, Repr

/-- The counters of the transport and its last failure. -/
structure Telemetry where
  transportFailures : Nat
  recoveries : Nat
  pendingReplays : Nat
  lastFailure : Option FailureRecord
deriving DecidableEq, Repr

/-- `[A-Za-z][A-Za-z0-9_]{0,63}`. -/
def boundedClassName (name : String) : Bool :=
  match name.toList with
  | [] => false
  | first :: rest =>
      first.isAlpha && rest.length ≤ 63 &&
        rest.all fun character => character.isAlphanum || character == '_'

/-- `redis_error_class`. -/
def redisErrorClass (name : String) : String :=
  if boundedClassName name then name else "OtherError"

/-- `record_redis_failure`: the new record replaces the old one. -/
def recordRedisFailure
    (telemetry : Telemetry) (stage : OperationStage)
    (startedAt recordedAt : Int) (errorClass : String) (attempts : Nat) :
    Telemetry :=
  { telemetry with
    lastFailure :=
      some
        { stage := stage
          elapsedMs := min 86400000 (max 0 (recordedAt - startedAt))
          errorClass := errorClass
          attempts := attempts } }

/-- `sanitized_redis_failure` on a stored record. -/
def sanitizedRedisFailure (value : Option FailureRecord) :
    Option FailureRecord :=
  value.filter fun record =>
    0 ≤ record.elapsedMs ∧ record.elapsedMs ≤ 86400000 ∧
      1 ≤ record.attempts ∧ record.attempts ≤ redisAttempts ∧
      boundedClassName record.errorClass

/-- An error raised to the caller, with its sanitized transport record. -/
structure RaisedError where
  reason : String
  redisTransport : Option FailureRecord
deriving DecidableEq, Repr

/-- `redis_epoch_error`. -/
def redisEpochError (reason : String) (telemetry : Telemetry) :
    RaisedError :=
  ⟨reason, sanitizedRedisFailure telemetry.lastFailure⟩

/-! ## The consumer group -/

/-- The fields of a stream entry.  A deleted entry has none. -/
abbrev EntryFields := List (String × String)

/-- One row of a read. -/
structure StreamRow where
  id : StreamId
  fields : EntryFields
deriving DecidableEq, Repr

/-- One row of a reclaim, with its delivery count. -/
structure ReclaimedRow extends StreamRow where
  attempt : Nat
deriving DecidableEq, Repr

/--
The group as the server holds it: the entries pending for this consumer in id
order, those pending for others, those not delivered to anyone, and the stored
fields.
-/
structure GroupState where
  own : List StreamId
  foreign : List StreamId
  undelivered : List StreamId
  fields : StreamId → EntryFields

/-- The row a read returns for an entry. -/
def GroupState.row (group : GroupState) (id : StreamId) : StreamRow :=
  ⟨id, group.fields id⟩

/-- `XREADGROUP .. 0`: the first own pending entries in id order. -/
def GroupState.readPending (group : GroupState) : List StreamRow :=
  (group.own.take readCount).map group.row

/-- Entries become pending, each once and in id order. -/
def insertPending (pending ids : List StreamId) : List StreamId :=
  ids.foldl
    (fun pending id =>
      if id ∈ pending then pending else pending.orderedInsert (· ≤ ·) id)
    pending

theorem mem_insertPending
    (pending ids : List StreamId) (id : StreamId) :
    id ∈ insertPending pending ids ↔ id ∈ pending ∨ id ∈ ids := by
  unfold insertPending
  induction ids generalizing pending with
  | nil => simp
  | cons head rest induction =>
      rw [List.foldl_cons, induction]
      split_ifs with known
      · rw [List.mem_cons]
        constructor
        · exact Or.imp_right Or.inr
        · rintro (old | rfl | new)
          · exact Or.inl old
          · exact Or.inl known
          · exact Or.inr new
      · rw [List.mem_orderedInsert, List.mem_cons]
        tauto

/-- The entries that `XREADGROUP .. >` delivers next. -/
def GroupState.nextIds (group : GroupState) : List StreamId :=
  group.undelivered.take readCount

/-- `XREADGROUP .. >`: the next entries become pending for this consumer. -/
def GroupState.deliver (group : GroupState) : GroupState :=
  { group with
    own := insertPending group.own group.nextIds
    undelivered := group.undelivered.drop readCount }

/-- A claim makes pending entries of any consumer pending for this one. -/
def GroupState.claim (group : GroupState) (ids : List StreamId) :
    GroupState :=
  { group with
    own := insertPending group.own ids
    foreign := group.foreign.filter fun id => id ∉ ids }

/-! ## The loop -/

/-- What the caller receives.  The default attempt is the envelope's own. -/
structure Envelope (Message : Type) where
  id : StreamId
  payload : Message
  attempt : Option Nat
  reclaimed : Bool

/-- The local variables of the loop. -/
structure LoopVariables where
  lastReclaim : Int
  replayPending : Bool
  failures : Nat
  recoveryDeadline : Option Int
  recoveryStartedAt : Option Int
  recoveryPending : Bool
  operationStage : OperationStage
  telemetry : Telemetry
deriving DecidableEq, Repr

/--
Where the coroutine stands.  A command in flight holds what the server has
answered so far; a suspended generator holds the rows it has yet to yield.
-/
inductive Control where
  | ensuring (attempt : Nat)
  | top
  | pendingReading (served : Option (List StreamRow))
  | reclaiming (now : Int) (claimed : List ReclaimedRow)
  | newReading (served : Option (List StreamRow))
  | replaying (rows : List StreamRow)
  | yieldingReclaimed (rows : List ReclaimedRow)
  | yieldingNew (rows : List StreamRow)
  | pausing (ms : Nat)
  | raised (error : RaisedError)
  | cancelled
  | finished
deriving DecidableEq, Repr

/-- The commands of the read loop and how they ended, in order. -/
inductive Event where
  | issued (command : OperationStage)
  | returned (command : OperationStage) (rows : Nat)
  | failed (command : OperationStage)
deriving DecidableEq, Repr

/-- One subscription: the coroutine, the group, and what has happened. -/
structure SubscribeState (Message : Type) where
  locals : LoopVariables
  control : Control
  group : GroupState
  stop : Bool
  yielded : List (Envelope Message)
  trace : List Event

/-- What producers, the caller and other consumers do to the group. -/
inductive EnvironmentAction where
  | produce (id : StreamId) (fields : EntryFields)
  | delete (id : StreamId)
  | acknowledge (id : StreamId)
  | otherRead (count : Nat)
  | otherClaim (ids : List StreamId)
  | otherAcknowledge (id : StreamId)

/--
What may happen next.  `clock` gives the successive readings of the monotonic
clock in one segment of the code, and `serve` is the server executing the
command in flight.
-/
inductive SubscribeAction where
  | ensured
  | ensureFailed (errorName : String) (startedAt recordedAt : Int)
  | enter (clock : Nat → Int)
  | serve (claims : List (StreamId × Nat))
  | reply
  | transportError (errorName : String) (clock : Nat → Int)
  | otherError (reason : String)
  | advance
  | issueRead (clock : Nat → Int)
  | resume
  | cancel
  | requestStop
  | environment (action : EnvironmentAction)

section Loop

variable {Message : Type} (loads : String → Option Message)
    (reclaimEvery : Int)

/-- A successful group read ends the outage. -/
def LoopVariables.recovered (locals : LoopVariables) : LoopVariables :=
  { locals with
    failures := 0
    recoveryDeadline := none
    recoveryStartedAt := none
    telemetry := { locals.telemetry with lastFailure := none } }

/-- `min(RUNTIME_REDIS_COMMAND_SECONDS, recovery_deadline - now)`. -/
def LoopVariables.remaining (locals : LoopVariables) (now : Int) : Int :=
  match locals.recoveryDeadline with
  | none => commandMs
  | some deadline => min commandMs (deadline - now)

/-- The recovery deadline has passed. -/
def LoopVariables.deadlineExceeded
    (locals : LoopVariables) (clock : Nat → Int) :
    LoopVariables × RaisedError :=
  let errorClass :=
    match sanitizedRedisFailure locals.telemetry.lastFailure with
    | some record => record.errorClass
    | none => "RecoveryDeadlineExceeded"
  let telemetry :=
    recordRedisFailure locals.telemetry locals.operationStage
      (locals.recoveryStartedAt.getD (clock 2)) (clock 3) errorClass
      locals.failures
  ({ locals with telemetry := telemetry },
    redisEpochError "REDIS_RECOVERY_DEADLINE_EXCEEDED" telemetry)

/-- The stage that an iteration announces before it begins. -/
def LoopVariables.announcedStage
    (locals : LoopVariables) (now : Int) : OperationStage :=
  if locals.replayPending then
    .pendingRead
  else if now - locals.lastReclaim ≥ reclaimEvery then
    .reclaim
  else
    .newMessageRead

/-- The head of the loop, up to the first command of the iteration. -/
def enterIteration (state : SubscribeState Message) (clock : Nat → Int) :
    SubscribeState Message :=
  if state.stop then
    { state with control := .finished }
  else
    let locals : LoopVariables :=
      { state.locals with
        operationStage :=
          state.locals.announcedStage reclaimEvery (clock 0) }
    if locals.remaining (clock 1) ≤ 0 then
      let outcome := locals.deadlineExceeded clock
      { state with locals := outcome.1, control := .raised outcome.2 }
    else if locals.replayPending then
      { state with
        locals := { locals with operationStage := .pendingRead }
        control := .pendingReading none
        trace := state.trace ++ [.issued .pendingRead] }
    else if clock 2 - locals.lastReclaim ≥ reclaimEvery then
      { state with
        locals := { locals with operationStage := .reclaim }
        control := .reclaiming (clock 2) []
        trace := state.trace ++ [.issued .reclaim] }
    else
      { state with
        locals := locals
        control := .yieldingReclaimed [] }

/-- The read of new entries, after the reclaimed ones have been yielded. -/
def issueNewRead (state : SubscribeState Message) (clock : Nat → Int) :
    SubscribeState Message :=
  let locals : LoopVariables :=
    { state.locals with operationStage := .newMessageRead }
  if locals.remaining (clock 1) ≤ 0 then
    let outcome := locals.deadlineExceeded clock
    { state with locals := outcome.1, control := .raised outcome.2 }
  else
    { state with
      locals := locals
      control := .newReading none
      trace := state.trace ++ [.issued .newMessageRead] }

/-- The server executes the command in flight. -/
def serveCommand
    (state : SubscribeState Message) (claims : List (StreamId × Nat)) :
    Option (SubscribeState Message) :=
  match state.control with
  | .pendingReading none =>
      some
        { state with
          control := .pendingReading (some state.group.readPending) }
  | .newReading none =>
      some
        { state with
          control :=
            .newReading (some (state.group.nextIds.map state.group.row))
          group := state.group.deliver }
  | .reclaiming now claimed =>
      let ids := claims.map Prod.fst
      if ids ⊆ state.group.own ++ state.group.foreign then
        some
          { state with
            control :=
              .reclaiming now
                (claimed ++
                  claims.map fun claim =>
                    ⟨state.group.row claim.1, claim.2⟩)
            group := state.group.claim ids }
      else
        none
  | _ => none

/-- The reply of the command in flight reaches the loop. -/
def receiveReply (state : SubscribeState Message) :
    Option (SubscribeState Message) :=
  match state.control with
  | .pendingReading (some rows) =>
      let locals : LoopVariables :=
        { state.locals.recovered with recoveryPending := true }
      let trace := state.trace ++ [.returned .pendingRead rows.length]
      if rows.isEmpty then
        some
          { state with
            locals := { locals with replayPending := false }
            control := .top
            trace := trace }
      else
        some
          { state with
            locals := locals
            control := .replaying rows
            trace := trace }
  | .reclaiming now claimed =>
      some
        { state with
          locals := { state.locals with lastReclaim := now }
          control := .yieldingReclaimed claimed
          trace := state.trace ++ [.returned .reclaim claimed.length] }
  | .newReading (some rows) =>
      let counted :=
        if state.locals.recoveryPending then
          { state.locals.telemetry with
            recoveries := state.locals.telemetry.recoveries + 1 }
        else
          state.locals.telemetry
      some
        { state with
          locals :=
            { state.locals.recovered with
              recoveryPending := false
              telemetry := { counted with lastFailure := none } }
          control := .yieldingNew rows
          trace :=
            state.trace ++ [.returned .newMessageRead rows.length] }
  | _ => none

/-- The handler of a transport failure. -/
def handleTransportError
    (state : SubscribeState Message) (errorName : String)
    (clock : Nat → Int) : SubscribeState Message :=
  let failures := state.locals.failures + 1
  let counted :=
    { state.locals.telemetry with
      transportFailures := state.locals.telemetry.transportFailures + 1 }
  let trace := state.trace ++ [.failed state.locals.operationStage]
  if failures ≥ redisAttempts then
    let telemetry :=
      recordRedisFailure counted state.locals.operationStage
        (state.locals.recoveryStartedAt.getD (clock 0)) (clock 1)
        (redisErrorClass errorName) failures
    { state with
      locals :=
        { state.locals with failures := failures, telemetry := telemetry }
      control :=
        .raised
          (redisEpochError "REDIS_TRANSPORT_RETRY_EXHAUSTED" telemetry)
      trace := trace }
  else
    let startedAt :=
      match state.locals.recoveryDeadline with
      | none => some (clock 0)
      | some _ => state.locals.recoveryStartedAt
    let deadline :=
      match state.locals.recoveryDeadline with
      | none => clock 0 + recoveryMs - commandMs
      | some deadline => deadline
    let telemetry :=
      recordRedisFailure counted state.locals.operationStage
        (startedAt.getD (clock 0)) (clock 1) (redisErrorClass errorName)
        failures
    { state with
      locals :=
        { state.locals with
          failures := failures
          recoveryStartedAt := startedAt
          recoveryDeadline := some deadline
          telemetry := telemetry
          replayPending := true }
      control :=
        match backoffMs[failures - 1]? with
        | some ms => .pausing ms
        | none => .raised ⟨"IndexError", none⟩
      trace := trace }

/--
Yield one row.  A row without its single field raises `missing`; a text that
is no JSON document raises as well.
-/
def yieldRow
    (state : SubscribeState Message) (row : StreamRow)
    (attempt : Option Nat) (reclaimed : Bool) (missing : String)
    (counted : LoopVariables) (next : Control) : SubscribeState Message :=
  match row.fields with
  | [("data", text)] =>
      match loads text with
      | some payload =>
          { state with
            locals := counted
            control := next
            yielded :=
              state.yielded ++ [⟨row.id, payload, attempt, reclaimed⟩] }
      | none =>
          { state with
            locals := counted
            control := .raised ⟨"JSONDecodeError", none⟩ }
  | _ => { state with control := .raised ⟨missing, none⟩ }

/-- One more replayed entry in the telemetry. -/
def LoopVariables.replayed (locals : LoopVariables) : LoopVariables :=
  { locals with
    telemetry :=
      { locals.telemetry with
        pendingReplays := locals.telemetry.pendingReplays + 1 } }

/-- The generator runs on to its next row, or out of a loop over rows. -/
def advanceRows (state : SubscribeState Message) :
    Option (SubscribeState Message) :=
  match state.control with
  | .replaying [] => some { state with control := .top }
  | .replaying (row :: rest) =>
      some
        (yieldRow loads state row (some 2) true
          "RUNTIME_PENDING_PAYLOAD_MISSING" state.locals.replayed
          (.replaying rest))
  | .yieldingReclaimed (row :: rest) =>
      some
        (yieldRow loads state row.toStreamRow (some row.attempt) true
          "RUNTIME_PENDING_PAYLOAD_MISSING" state.locals
          (.yieldingReclaimed rest))
  | .yieldingNew [] => some { state with control := .top }
  | .yieldingNew (row :: rest) =>
      some
        (yieldRow loads state row none false
          "RUNTIME_STREAM_PAYLOAD_MISSING" state.locals
          (.yieldingNew rest))
  | _ => none

/-- The points at which an exception enters the handler of the loop. -/
def Control.guarded : Control → Bool
  | .pendingReading _ | .reclaiming _ _ | .newReading _ => true
  | .replaying _ | .yieldingReclaimed _ | .yieldingNew _ => true
  | _ => false

/-- The coroutine has ended. -/
def Control.ended : Control → Bool
  | .raised _ | .cancelled | .finished => true
  | _ => false

/-- `runtime_redis_call` for `_ensure_group`: one failed attempt. -/
def failEnsure
    (state : SubscribeState Message) (attempt : Nat) (errorName : String)
    (startedAt recordedAt : Int) : SubscribeState Message :=
  let counted :=
    { state.locals.telemetry with
      transportFailures := state.locals.telemetry.transportFailures + 1 }
  let telemetry :=
    recordRedisFailure counted .ensureGroup startedAt recordedAt
      (redisErrorClass errorName) (attempt + 1)
  { state with
    locals := { state.locals with telemetry := telemetry }
    control :=
      if attempt = redisAttempts - 1 then
        .raised
          (redisEpochError "REDIS_TRANSPORT_RETRY_EXHAUSTED" telemetry)
      else
        match backoffMs[attempt]? with
        | none => .raised ⟨"IndexError", none⟩
        | some _ =>
            if state.stop then .cancelled else .ensuring (attempt + 1) }

/-- `runtime_redis_call` for `_ensure_group` returned. -/
def finishEnsure (state : SubscribeState Message) (attempt : Nat) :
    SubscribeState Message :=
  { state with
    locals :=
      { state.locals with
        telemetry :=
          { state.locals.telemetry with
            recoveries :=
              state.locals.telemetry.recoveries +
                (if attempt = 0 then 0 else 1)
            lastFailure := none } }
    control := .top }

/-- The group after an action of its environment. -/
def environmentStep (state : SubscribeState Message) :
    EnvironmentAction → Option GroupState
  | .produce id fields =>
      some
        { state.group with
          undelivered := state.group.undelivered ++ [id]
          fields := Function.update state.group.fields id fields }
  | .delete id =>
      some
        { state.group with
          fields := Function.update state.group.fields id [] }
  | .acknowledge id =>
      if id ∈ state.yielded.map Envelope.id then
        some { state.group with own := state.group.own.filter (· ≠ id) }
      else
        none
  | .otherRead count =>
      some
        { state.group with
          foreign :=
            state.group.foreign ++ state.group.undelivered.take count
          undelivered := state.group.undelivered.drop count }
  | .otherClaim ids =>
      if ids ⊆ state.group.own ++ state.group.foreign then
        some
          { state.group with
            own := state.group.own.filter fun id => id ∉ ids
            foreign := state.group.foreign ++ ids }
      else
        none
  | .otherAcknowledge id =>
      some { state.group with foreign := state.group.foreign.filter (· ≠ id) }

/-- The effect of one action, where it is possible. -/
def subscribeStep (state : SubscribeState Message) :
    SubscribeAction → Option (SubscribeState Message)
  | .ensured =>
      match state.control with
      | .ensuring attempt => some (finishEnsure state attempt)
      | _ => none
  | .ensureFailed errorName startedAt recordedAt =>
      match state.control with
      | .ensuring attempt =>
          some (failEnsure state attempt errorName startedAt recordedAt)
      | _ => none
  | .enter clock =>
      match state.control with
      | .top => some (enterIteration reclaimEvery state clock)
      | _ => none
  | .serve claims => serveCommand state claims
  | .reply => receiveReply state
  | .transportError errorName clock =>
      if state.control.guarded then
        some (handleTransportError state errorName clock)
      else
        none
  | .otherError reason =>
      if state.control.ended then
        none
      else
        some { state with control := .raised ⟨reason, none⟩ }
  | .advance => advanceRows loads state
  | .issueRead clock =>
      match state.control with
      | .yieldingReclaimed [] => some (issueNewRead state clock)
      | _ => none
  | .resume =>
      match state.control with
      | .pausing _ =>
          if state.stop then
            some { state with control := .cancelled }
          else
            some { state with control := .top }
      | _ => none
  | .cancel =>
      if state.control.ended then
        none
      else
        some { state with control := .cancelled }
  | .requestStop => some { state with stop := true }
  | .environment action =>
      (environmentStep state action).map fun group =>
        { state with group := group }

/--
The start of `subscribe`: the fixed arguments are checked, and the group is
ensured before the loop begins.
-/
def subscribe
    (requestedTopic : String) (groupName : Option String)
    (requestedBlockMs : Nat) (telemetry : Telemetry) (group : GroupState) :
    Except EpochError (SubscribeState Message) :=
  if requestedTopic ≠ topic ∨ groupName ∉ [none, some "bars"] ∨
      requestedBlockMs ≠ blockMs then
    .error ⟨"FIXED_NONTRADING_REDIS_SUBSCRIPTION_REQUIRED"⟩
  else
    .ok
      { locals :=
          { lastReclaim := 0
            replayPending := false
            failures := 0
            recoveryDeadline := none
            recoveryStartedAt := none
            recoveryPending := false
            operationStage := .pendingRead
            telemetry := telemetry }
        control := .ensuring 0
        group := group
        stop := false
        yielded := []
        trace := [] }

end Loop

/-! ## Histories of commands -/

/-- The failures since the last command that returned. -/
def failureStreak (trace : List Event) : Nat :=
  trace.foldl
    (fun streak event =>
      match event with
      | .issued _ => streak
      | .returned _ _ => 0
      | .failed _ => streak + 1)
    0

/-- A read of the own pending entries that returned nothing. -/
def drained : Event :=
  .returned .pendingRead 0

/-- A failure since the last empty read of the own pending entries. -/
def suspectAfter (suspect : Bool) (event : Event) : Bool :=
  match event with
  | .failed _ => true
  | .returned .pendingRead 0 => false
  | _ => suspect

/-- Whether the history ends with an undrained failure. -/
def suspect (trace : List Event) : Bool :=
  trace.foldl suspectAfter false

@[simp]
theorem failureStreak_append (trace : List Event) (event : Event) :
    failureStreak (trace ++ [event]) =
      match event with
      | .issued _ => failureStreak trace
      | .returned _ _ => 0
      | .failed _ => failureStreak trace + 1 := by
  unfold failureStreak
  rw [List.foldl_append]
  rfl

@[simp]
theorem suspect_append (trace : List Event) (event : Event) :
    suspect (trace ++ [event]) = suspectAfter (suspect trace) event := by
  unfold suspect
  rw [List.foldl_append]
  rfl

/-- Suspicion is lifted only by an empty read. -/
theorem drained_mem_of_foldl
    {events : List Event}
    (lifted : events.foldl suspectAfter true = false) :
    drained ∈ events := by
  induction events with
  | nil => cases lifted
  | cons event rest induction =>
      by_cases isDrained : event = drained
      · rw [isDrained]
        exact List.mem_cons_self
      · have kept : suspectAfter true event = true := by
          unfold suspectAfter
          split
          · rfl
          · exact absurd rfl isDrained
          · rfl
        rw [List.foldl_cons, kept] at lifted
        exact List.mem_cons_of_mem _ (induction lifted)

theorem drained_mem_of_not_suspect
    {earlier later : List Event} {command : OperationStage}
    (clear : suspect (earlier ++ .failed command :: later) = false) :
    drained ∈ later := by
  unfold suspect at clear
  rw [List.foldl_append, List.foldl_cons] at clear
  exact drained_mem_of_foldl clear

/--
No read of new entries is issued after a failure before an empty read of the
own pending entries.
-/
def Separated (trace : List Event) : Prop :=
  ∀ earlier command between later,
    trace =
        earlier ++ .failed command :: between ++
          .issued .newMessageRead :: later →
      drained ∈ between

theorem Separated.append
    {trace : List Event} {event : Event} (separated : Separated trace)
    (clear : event = .issued .newMessageRead → suspect trace = false) :
    Separated (trace ++ [event]) := by
  intro earlier command between later equal
  rcases List.eq_nil_or_concat later with rfl | ⟨front, last, rfl⟩
  · rcases List.append_inj' equal rfl with ⟨traceEq, eventEq⟩
    cases eventEq
    rw [traceEq] at clear
    exact drained_mem_of_not_suspect (clear rfl)
  · rw [List.concat_eq_append, ← List.cons_append, ← List.append_assoc]
      at equal
    exact
      separated earlier command between front
        (List.append_inj' equal rfl).1

/-- Only a read of new entries can follow a failure too early. -/
theorem Separated.append_other
    {trace : List Event} {event : Event} (separated : Separated trace)
    (other : event ≠ .issued .newMessageRead) :
    Separated (trace ++ [event]) :=
  separated.append fun equal => absurd equal other

/-! ## The invariant -/

/-- Entries that are assigned to the consumer and about to be yielded. -/
def Control.held : Control → List StreamId
  | .reclaiming _ claimed => claimed.map fun row => row.id
  | .newReading (some rows) => rows.map fun row => row.id
  | .yieldingReclaimed rows => rows.map fun row => row.id
  | .yieldingNew rows => rows.map fun row => row.id
  | _ => []

/-- The places of a loop that replays its own pending entries. -/
def Control.replays : Control → Bool
  | .top | .pendingReading _ | .replaying _ | .pausing _ => true
  | _ => false

/-- The places of a loop that reads new entries. -/
def Control.readsNew : Control → Bool
  | .ensuring _ | .top | .reclaiming _ _ | .newReading _ => true
  | .yieldingReclaimed _ | .yieldingNew _ => true
  | _ => false

/-- What a running loop, the group and the history agree on. -/
structure InStep
    (replayPending : Bool) (failures : Nat) (control : Control)
    (own : List StreamId) (yielded : List StreamId)
    (trace : List Event) : Prop where
  assigned :
    replayPending = false →
      ∀ id ∈ own, id ∈ yielded ∨ id ∈ control.held
  emptied : control = .pendingReading (some []) → own = []
  replays : replayPending = true → control.replays = true
  readsNew : replayPending = false → control.readsNew = true
  quiet : replayPending = false → failures = 0
  clear : replayPending = false → suspect trace = false
  streak : failures = failureStreak trace
  bounded : failures < redisAttempts

/-- The loop moves on within an iteration. -/
theorem InStep.moveTo
    {replayPending : Bool} {failures : Nat} {control : Control}
    {own : List StreamId} {yielded : List StreamId} {trace : List Event}
    (inStep :
      InStep replayPending failures control own yielded trace)
    {next : Control} {nextOwn : List StreamId}
    (assigned :
      replayPending = false →
        ∀ id ∈ nextOwn, id ∈ yielded ∨ id ∈ next.held)
    (emptied : next = .pendingReading (some []) → nextOwn = [])
    (replays : replayPending = true → next.replays = true)
    (readsNew : replayPending = false → next.readsNew = true) :
    InStep replayPending failures next nextOwn yielded trace :=
  { inStep with
    assigned := assigned
    emptied := emptied
    replays := replays
    readsNew := readsNew }

/-- Issuing a command does not change what the history says. -/
theorem InStep.issue
    {replayPending : Bool} {failures : Nat} {control : Control}
    {own : List StreamId} {yielded : List StreamId} {trace : List Event}
    (inStep :
      InStep replayPending failures control own yielded trace)
    (command : OperationStage) :
    InStep replayPending failures control own yielded
      (trace ++ [.issued command]) :=
  { inStep with
    clear := fun quiet => by
      rw [suspect_append]
      exact inStep.clear quiet
    streak := by
      rw [failureStreak_append]
      exact inStep.streak }

/-- The error raised after the last attempt. -/
def Control.exhausted (control : Control) : Prop :=
  ∃ record,
    control = .raised ⟨"REDIS_TRANSPORT_RETRY_EXHAUSTED", record⟩

/-- The invariant of a subscription. -/
structure Sound {Message : Type} (state : SubscribeState Message) :
    Prop where
  separated : Separated state.trace
  running :
    state.control.ended = false →
      InStep state.locals.replayPending state.locals.failures state.control
        state.group.own (state.yielded.map Envelope.id) state.trace
  ended :
    failureStreak state.trace ≤ redisAttempts ∧
      (failureStreak state.trace = redisAttempts → state.control.exhausted)

section Steps

variable {Message : Type} {loads : String → Option Message}
    {reclaimEvery : Int} {state after : SubscribeState Message}

/-- A running loop is far from its last attempt. -/
theorem Sound.of_running
    (separated : Separated state.trace)
    (running :
      InStep state.locals.replayPending state.locals.failures state.control
        state.group.own (state.yielded.map Envelope.id) state.trace) :
    Sound state where
  separated := separated
  running := fun _ => running
  ended := by
    have streak := running.streak
    have bounded := running.bounded
    refine ⟨by omega, ?_⟩
    intro atLast
    omega

/-- A loop that ends without a failure of its own. -/
theorem Sound.of_ended
    (sound : Sound state) (running : state.control.ended = false)
    (traceEq : after.trace = state.trace)
    (ended : after.control.ended = true) :
    Sound after where
  separated := traceEq ▸ sound.separated
  running := by
    rw [ended]
    intro impossible
    cases impossible
  ended := by
    have inStep := sound.running running
    have streak := inStep.streak
    have bounded := inStep.bounded
    rw [traceEq]
    refine ⟨by omega, ?_⟩
    intro atLast
    omega

/-- Entries leave the own pending list at any time. -/
theorem Sound.withGroup
    (sound : Sound state) (group : GroupState)
    (fewer : group.own ⊆ state.group.own) :
    Sound { state with group := group } where
  separated := sound.separated
  running := by
    intro running
    have inStep := sound.running running
    exact
      { inStep with
        assigned := fun quiet id member =>
          inStep.assigned quiet id (fewer member)
        emptied := fun empty => by
          have none := inStep.emptied empty
          rw [none] at fewer
          exact List.subset_nil.1 fewer }
  ended := sound.ended

theorem Sound.enter
    (sound : Sound state) (atTop : state.control = .top)
    (clock : Nat → Int) :
    Sound (enterIteration reclaimEvery state clock) := by
  have running : state.control.ended = false := by
    rw [atTop]
    rfl
  have inStep := sound.running running
  rw [atTop] at inStep
  simp only [enterIteration]
  split_ifs with stopped late replayPending due
  · exact sound.of_ended running rfl rfl
  · exact sound.of_ended running rfl rfl
  · apply Sound.of_running
    · exact sound.separated.append_other (by simp)
    · apply InStep.issue
      apply inStep.moveTo
      · simp [replayPending]
      · simp
      · simp [Control.replays]
      · simp [replayPending]
  · apply Sound.of_running
    · exact sound.separated.append_other (by simp)
    · apply InStep.issue
      apply inStep.moveTo
      · exact inStep.assigned
      · simp
      · simp [replayPending]
      · simp [Control.readsNew]
  · refine .of_running sound.separated ?_
    apply inStep.moveTo
    · exact inStep.assigned
    · simp
    · simp [replayPending]
    · simp [Control.readsNew]

/-- A loop that yields or reads new entries is not replaying. -/
theorem InStep.replayPending_eq_false
    {replayPending : Bool} {failures : Nat} {control : Control}
    {own : List StreamId} {yielded : List StreamId} {trace : List Event}
    (inStep :
      InStep replayPending failures control own yielded trace)
    (notReplaying : control.replays = false) :
    replayPending = false := by
  cases replayPending with
  | false => rfl
  | true =>
      rw [inStep.replays rfl] at notReplaying
      cases notReplaying

theorem InStep.replayPending_eq_true
    {replayPending : Bool} {failures : Nat} {control : Control}
    {own : List StreamId} {yielded : List StreamId} {trace : List Event}
    (inStep :
      InStep replayPending failures control own yielded trace)
    (notReading : control.readsNew = false) :
    replayPending = true := by
  cases replayPending with
  | true => rfl
  | false =>
      rw [inStep.readsNew rfl] at notReading
      cases notReading

theorem Sound.issueRead
    (sound : Sound state)
    (yieldedAll : state.control = .yieldingReclaimed [])
    (clock : Nat → Int) :
    Sound (issueNewRead state clock) := by
  have running : state.control.ended = false := by
    rw [yieldedAll]
    rfl
  have inStep := sound.running running
  rw [yieldedAll] at inStep
  have replayPending := inStep.replayPending_eq_false rfl
  simp only [issueNewRead]
  split_ifs with late
  · exact sound.of_ended running rfl rfl
  · apply Sound.of_running
    · exact sound.separated.append fun _ => inStep.clear replayPending
    · apply InStep.issue
      apply inStep.moveTo
      · exact inStep.assigned
      · simp
      · simp [replayPending]
      · simp [Control.readsNew]

/-- An empty read means an empty list. -/
theorem own_eq_nil_of_readPending
    {group : GroupState} (empty : group.readPending = []) :
    group.own = [] := by
  unfold GroupState.readPending at empty
  rw [List.map_eq_nil_iff, List.take_eq_nil_iff] at empty
  rcases empty with impossible | none
  · cases impossible
  · exact none

theorem Sound.serve
    (sound : Sound state) (claims : List (StreamId × Nat))
    (served : serveCommand state claims = some after) :
    Sound after := by
  unfold serveCommand at served
  split at served
  · rename_i issued
    cases served
    have inStep := sound.running (by rw [issued]; rfl)
    rw [issued] at inStep
    have replayPending := inStep.replayPending_eq_true rfl
    refine .of_running sound.separated ?_
    apply inStep.moveTo
    · simp [replayPending]
    · intro equal
      simp only [Control.pendingReading.injEq, Option.some.injEq] at equal
      exact own_eq_nil_of_readPending equal
    · simp [Control.replays]
    · simp [replayPending]
  · rename_i issued
    cases served
    have inStep := sound.running (by rw [issued]; rfl)
    rw [issued] at inStep
    have replayPending := inStep.replayPending_eq_false rfl
    refine .of_running sound.separated ?_
    apply inStep.moveTo
    · intro _ id member
      rcases (mem_insertPending _ _ _).1 member with old | new
      · rcases inStep.assigned replayPending id old with yielded | held
        · exact Or.inl yielded
        · cases held
      · exact Or.inr (by simpa [Control.held, GroupState.row] using new)
    · simp
    · simp [replayPending]
    · simp [Control.readsNew]
  · rename_i now claimed issued
    dsimp only at served
    split_ifs at served with known
    cases served
    have inStep := sound.running (by rw [issued]; rfl)
    rw [issued] at inStep
    have replayPending := inStep.replayPending_eq_false rfl
    refine .of_running sound.separated ?_
    apply inStep.moveTo
    · intro _ id member
      rcases (mem_insertPending _ _ _).1 member with old | new
      · rcases inStep.assigned replayPending id old with yielded | held
        · exact Or.inl yielded
        · right
          simp only [Control.held, List.map_append]
          exact List.mem_append_left _ held
      · right
        simp only [Control.held, List.map_append, List.map_map]
        exact List.mem_append_right _ new
    · simp
    · simp [replayPending]
    · simp [Control.readsNew]
  · cases served

theorem Sound.reply
    (sound : Sound state) (replied : receiveReply state = some after) :
    Sound after := by
  unfold receiveReply at replied
  split at replied
  · rename_i rows answered
    have inStep := sound.running (by rw [answered]; rfl)
    rw [answered] at inStep
    have replayPending := inStep.replayPending_eq_true rfl
    dsimp only at replied
    split_ifs at replied with noRows
    · cases replied
      rw [List.isEmpty_iff] at noRows
      subst rows
      apply Sound.of_running
      · exact sound.separated.append_other (by simp)
      · have empty := inStep.emptied rfl
        constructor
        case assigned => simp [empty]
        case emptied => simp
        case replays => simp
        case readsNew => simp [Control.readsNew]
        case quiet => simp [LoopVariables.recovered]
        case clear => simp [suspectAfter]
        case streak => simp [LoopVariables.recovered]
        case bounded => simp [LoopVariables.recovered, redisAttempts]
    · cases replied
      apply Sound.of_running
      · exact sound.separated.append_other (by simp)
      · constructor
        case assigned => simp [LoopVariables.recovered, replayPending]
        case emptied => simp
        case replays => simp [Control.replays]
        case readsNew => simp [LoopVariables.recovered, replayPending]
        case quiet => simp [LoopVariables.recovered]
        case clear => simp [LoopVariables.recovered, replayPending]
        case streak => simp [LoopVariables.recovered]
        case bounded => simp [LoopVariables.recovered, redisAttempts]
  · rename_i now claimed answered
    cases replied
    have inStep := sound.running (by rw [answered]; rfl)
    rw [answered] at inStep
    have replayPending := inStep.replayPending_eq_false rfl
    have quiet := inStep.quiet replayPending
    apply Sound.of_running
    · exact sound.separated.append_other (by simp)
    · constructor
      case assigned => exact inStep.assigned
      case emptied => simp
      case replays => simp [replayPending]
      case readsNew => simp [Control.readsNew]
      case quiet => exact inStep.quiet
      case clear =>
        intro _
        simpa [suspectAfter] using inStep.clear replayPending
      case streak => simpa using quiet
      case bounded => exact inStep.bounded
  · rename_i rows answered
    cases replied
    have inStep := sound.running (by rw [answered]; rfl)
    rw [answered] at inStep
    have replayPending := inStep.replayPending_eq_false rfl
    apply Sound.of_running
    · exact sound.separated.append_other (by simp)
    · constructor
      case assigned => exact inStep.assigned
      case emptied => simp
      case replays => simp [LoopVariables.recovered, replayPending]
      case readsNew => simp [Control.readsNew]
      case quiet => simp [LoopVariables.recovered]
      case clear =>
        intro _
        simpa [suspectAfter] using inStep.clear replayPending
      case streak => simp [LoopVariables.recovered]
      case bounded => simp [LoopVariables.recovered, redisAttempts]
  · cases replied

/--
A handled failure either was the last attempt or pauses for the back-off of
its index, and from then on the loop replays.
-/
theorem handleTransportError_outcome
    (inStep :
      InStep state.locals.replayPending state.locals.failures state.control
        state.group.own (state.yielded.map Envelope.id) state.trace)
    (errorName : String) (clock : Nat → Int) :
    let failed := handleTransportError state errorName clock
    failed.locals.failures = state.locals.failures + 1 ∧
      failed.trace =
        state.trace ++ [.failed state.locals.operationStage] ∧
      ((failed.locals.failures = redisAttempts ∧
          failed.control.exhausted) ∨
        (failed.locals.failures < redisAttempts ∧
          failed.locals.replayPending = true ∧
          ∃ ms,
            backoffMs[failed.locals.failures - 1]? = some ms ∧
              failed.control = .pausing ms)) := by
  have bounded := inStep.bounded
  simp only [handleTransportError]
  split_ifs with last
  · refine ⟨rfl, rfl, Or.inl ⟨?_, _, rfl⟩⟩
    dsimp only [redisAttempts] at *
    omega
  · refine ⟨rfl, rfl, Or.inr ⟨not_le.1 last, rfl, ?_⟩⟩
    have inRange : state.locals.failures + 1 - 1 < backoffMs.length := by
      simp only [redisAttempts, backoffMs, List.length_cons,
        List.length_nil] at *
      omega
    rw [List.getElem?_eq_getElem inRange]
    exact ⟨_, rfl, rfl⟩

theorem Sound.transportError
    (sound : Sound state) (guarded : state.control.guarded = true)
    (errorName : String) (clock : Nat → Int) :
    Sound (handleTransportError state errorName clock) := by
  have running : state.control.ended = false := by
    cases control : state.control <;>
      simp_all [Control.guarded, Control.ended]
  have inStep := sound.running running
  have streak := inStep.streak
  rcases handleTransportError_outcome inStep errorName clock with
    ⟨failures, trace, outcome⟩
  have separated :
      Separated (handleTransportError state errorName clock).trace := by
    rw [trace]
    exact sound.separated.append_other (by simp)
  have streakAfter :
      (handleTransportError state errorName clock).locals.failures =
        failureStreak
          (handleTransportError state errorName clock).trace := by
    rw [trace, failureStreak_append, failures, streak]
  rcases outcome with
    ⟨atLast, exhausted⟩ | ⟨below, replayPending, ms, _, pausing⟩
  · refine ⟨separated, ?_, ?_⟩
    · rcases exhausted with ⟨record, raised⟩
      rw [raised]
      intro impossible
      cases impossible
    · rw [← streakAfter, atLast]
      exact ⟨le_rfl, fun _ => exhausted⟩
  · apply Sound.of_running separated
    rw [pausing]
    constructor
    case assigned => simp [replayPending]
    case emptied => simp
    case replays => simp [Control.replays]
    case readsNew => simp [replayPending]
    case quiet => simp [replayPending]
    case clear => simp [replayPending]
    case streak => exact streakAfter
    case bounded => exact below

/-- Yielding a row, or raising over it, keeps the invariant. -/
theorem Sound.yieldRow
    (sound : Sound state) (running : state.control.ended = false)
    {row : StreamRow} {attempt : Option Nat} {reclaimed : Bool}
    {missing : String} {counted : LoopVariables} {next : Control}
    (replayEq : counted.replayPending = state.locals.replayPending)
    (failuresEq : counted.failures = state.locals.failures)
    (held : state.control.held ⊆ row.id :: next.held)
    (replays : state.control.replays = true → next.replays = true)
    (readsNew : state.control.readsNew = true → next.readsNew = true)
    (notPending : next ≠ .pendingReading (some [])) :
    Sound
      (ConsumerSubscription.yieldRow loads state row attempt reclaimed missing
        counted next) := by
  have inStep := sound.running running
  unfold ConsumerSubscription.yieldRow
  split
  · split
    · refine .of_running sound.separated ?_
      dsimp only
      rw [replayEq, failuresEq]
      constructor
      case assigned =>
        intro quiet id member
        rw [List.map_append, List.mem_append]
        rcases inStep.assigned quiet id member with yielded | waiting
        · exact Or.inl (Or.inl yielded)
        · rcases List.mem_cons.1 (held waiting) with rfl | later
          · exact Or.inl (Or.inr (by simp))
          · exact Or.inr later
      case emptied =>
        intro impossible
        exact absurd impossible notPending
      case replays => exact fun quiet => replays (inStep.replays quiet)
      case readsNew => exact fun quiet => readsNew (inStep.readsNew quiet)
      case quiet => exact inStep.quiet
      case clear => exact inStep.clear
      case streak => exact inStep.streak
      case bounded => exact inStep.bounded
    · exact sound.of_ended running rfl rfl
  · exact sound.of_ended running rfl rfl

/-- Back at the head of the loop with nothing left to yield. -/
theorem Sound.toTop
    (sound : Sound state) (running : state.control.ended = false)
    (noneHeld : state.control.held = []) (locals : LoopVariables)
    (replayEq : locals.replayPending = state.locals.replayPending)
    (failuresEq : locals.failures = state.locals.failures) :
    Sound { state with locals := locals, control := .top } := by
  have inStep := sound.running running
  refine .of_running sound.separated ?_
  dsimp only
  rw [replayEq, failuresEq]
  apply inStep.moveTo
  · intro quiet id member
    have known := inStep.assigned quiet id member
    rw [noneHeld] at known
    exact known
  · simp
  · simp [Control.replays]
  · simp [Control.readsNew]

theorem Sound.advance
    (sound : Sound state) (advanced : advanceRows loads state = some after) :
    Sound after := by
  unfold advanceRows at advanced
  split at advanced
  · rename_i control
    cases advanced
    exact
      sound.toTop (by rw [control]; rfl) (by rw [control]; rfl) _ rfl rfl
  · rename_i row rest control
    cases advanced
    apply sound.yieldRow
    all_goals simp [control, Control.ended, Control.held, Control.replays,
      Control.readsNew, LoopVariables.replayed]
  · rename_i row rest control
    cases advanced
    apply sound.yieldRow
    all_goals simp [control, Control.ended, Control.held, Control.replays,
      Control.readsNew]
  · rename_i control
    cases advanced
    exact
      sound.toTop (by rw [control]; rfl) (by rw [control]; rfl) _ rfl rfl
  · rename_i row rest control
    cases advanced
    apply sound.yieldRow
    all_goals simp [control, Control.ended, Control.held, Control.replays,
      Control.readsNew]
  · cases advanced

theorem Sound.failEnsure
    (sound : Sound state) {attempt : Nat}
    (ensuring : state.control = .ensuring attempt) (errorName : String)
    (startedAt recordedAt : Int) :
    Sound
      (ConsumerSubscription.failEnsure state attempt errorName startedAt
        recordedAt) := by
  have running : state.control.ended = false := by
    rw [ensuring]
    rfl
  simp only [ConsumerSubscription.failEnsure]
  split_ifs with last stopped
  · exact sound.of_ended running rfl rfl
  · split <;> exact sound.of_ended running rfl rfl
  · split
    · exact sound.of_ended running rfl rfl
    · have inStep := sound.running running
      rw [ensuring] at inStep
      have replayPending := inStep.replayPending_eq_false rfl
      refine .of_running sound.separated ?_
      apply inStep.moveTo
      · exact inStep.assigned
      · simp
      · simp [replayPending]
      · simp [Control.readsNew]

/-- The group's other users only take entries away from the consumer. -/
theorem environmentStep_own
    {action : EnvironmentAction} {group : GroupState}
    (taken : environmentStep state action = some group) :
    group.own ⊆ state.group.own := by
  cases action with
  | acknowledge id =>
      simp only [environmentStep] at taken
      split_ifs at taken
      cases taken
      exact List.filter_sublist.subset
  | otherClaim ids =>
      simp only [environmentStep] at taken
      split_ifs at taken
      cases taken
      exact List.filter_sublist.subset
  | produce id fields =>
      cases taken
      exact List.Subset.refl _
  | delete id =>
      cases taken
      exact List.Subset.refl _
  | otherRead count =>
      cases taken
      exact List.Subset.refl _
  | otherAcknowledge id =>
      cases taken
      exact List.Subset.refl _

/-- Every action keeps the invariant. -/
theorem Sound.step
    {action : SubscribeAction} (sound : Sound state)
    (taken : subscribeStep loads reclaimEvery state action = some after) :
    Sound after := by
  cases action with
  | ensured =>
      simp only [subscribeStep] at taken
      split at taken
      · rename_i attempt ensuring
        cases taken
        exact
          sound.toTop (by rw [ensuring]; rfl) (by rw [ensuring]; rfl) _ rfl
            rfl
      · cases taken
  | ensureFailed errorName startedAt recordedAt =>
      simp only [subscribeStep] at taken
      split at taken
      · rename_i attempt ensuring
        cases taken
        exact sound.failEnsure ensuring errorName startedAt recordedAt
      · cases taken
  | enter clock =>
      simp only [subscribeStep] at taken
      split at taken
      · rename_i atTop
        cases taken
        exact sound.enter atTop clock
      · cases taken
  | serve claims => exact sound.serve claims taken
  | reply => exact sound.reply taken
  | transportError errorName clock =>
      simp only [subscribeStep] at taken
      split_ifs at taken with guarded
      cases taken
      exact sound.transportError guarded errorName clock
  | otherError reason =>
      simp only [subscribeStep] at taken
      split_ifs at taken with ended
      cases taken
      exact sound.of_ended (by simpa using ended) rfl rfl
  | advance => exact sound.advance taken
  | issueRead clock =>
      simp only [subscribeStep] at taken
      split at taken
      · rename_i yieldedAll
        cases taken
        exact sound.issueRead yieldedAll clock
      · cases taken
  | resume =>
      simp only [subscribeStep] at taken
      split at taken
      · rename_i ms pausing
        have running : state.control.ended = false := by
          rw [pausing]
          rfl
        split_ifs at taken with stopped
        · cases taken
          exact sound.of_ended running rfl rfl
        · cases taken
          exact sound.toTop running (by rw [pausing]; rfl) _ rfl rfl
      · cases taken
  | cancel =>
      simp only [subscribeStep] at taken
      split_ifs at taken with ended
      cases taken
      exact sound.of_ended (by simpa using ended) rfl rfl
  | requestStop =>
      cases taken
      exact ⟨sound.separated, sound.running, sound.ended⟩
  | environment action =>
      rcases Option.map_eq_some_iff.1 taken with ⟨group, moved, rfl⟩
      exact sound.withGroup group (environmentStep_own moved)

/-- A subscription that starts with an empty own pending list. -/
theorem subscribe_sound
    {requestedTopic : String} {groupName : Option String}
    {requestedBlockMs : Nat} {telemetry : Telemetry} {group : GroupState}
    (started :
      subscribe requestedTopic groupName requestedBlockMs telemetry group =
        .ok state)
    (empty : group.own = []) :
    Sound state := by
  unfold subscribe at started
  split_ifs at started with refused
  cases started
  apply Sound.of_running
  · intro earlier command between later equal
    simp at equal
  · constructor
    case assigned => simp [empty]
    case emptied => simp
    case replays => simp
    case readsNew => simp [Control.readsNew]
    case quiet => simp
    case clear => simp [suspect]
    case streak => rfl
    case bounded => simp [redisAttempts]

end Steps

/--
The read loop loses no assigned entry.  In every run of one subscription that
starts with an empty own pending list: when a read of new entries is issued,
the caller has received every entry then pending for the consumer; after a
transport failure no such read is issued until the own pending entries have
been read as empty; and failures stop the loop at the last attempt, each
earlier one pausing for the back-off of its own index.
-/
theorem subscribe_loses_no_entry
    {Message : Type} (loads : String → Option Message) (reclaimEvery : Int)
    (requestedTopic : String) (groupName : Option String)
    (requestedBlockMs : Nat) (telemetry : Telemetry) (group : GroupState)
    (start state : SubscribeState Message)
    (started :
      subscribe requestedTopic groupName requestedBlockMs telemetry group =
        .ok start)
    (empty : group.own = [])
    (run : Reaches (subscribeStep loads reclaimEvery) start state) :
    (∀ clock after,
      subscribeStep loads reclaimEvery state (.issueRead clock) =
          some after →
        ∀ id ∈ state.group.own, id ∈ state.yielded.map Envelope.id) ∧
      (∀ earlier command between later,
        state.trace =
            earlier ++ .failed command :: between ++
              .issued .newMessageRead :: later →
          .returned .pendingRead 0 ∈ between) ∧
      failureStreak state.trace ≤ redisAttempts ∧
      (failureStreak state.trace = redisAttempts →
        ∃ record,
          state.control =
            .raised ⟨"REDIS_TRANSPORT_RETRY_EXHAUSTED", record⟩) ∧
      ∀ errorName clock after,
        subscribeStep loads reclaimEvery state
            (.transportError errorName clock) =
          some after →
          after.control.exhausted ∨
            1 ≤ after.locals.failures ∧
              after.locals.failures - 1 < backoffMs.length ∧
              ∃ ms,
                backoffMs[after.locals.failures - 1]? = some ms ∧
                  after.control = .pausing ms := by
  have sound : Sound state :=
    run.invariant Sound (subscribe_sound started empty)
      fun _ _ _ before taken => before.step taken
  refine
    ⟨?_, sound.separated, sound.ended.1, sound.ended.2, ?_⟩
  · intro clock after taken id member
    simp only [subscribeStep] at taken
    split at taken
    · rename_i yieldedAll
      have inStep := sound.running (by rw [yieldedAll]; rfl)
      rw [yieldedAll] at inStep
      rcases
          inStep.assigned (inStep.replayPending_eq_false rfl) id member with
        yielded | held
      · exact yielded
      · cases held
    · cases taken
  · intro errorName clock after taken
    simp only [subscribeStep] at taken
    split_ifs at taken with guarded
    cases taken
    have running : state.control.ended = false := by
      cases control : state.control <;>
        simp_all [Control.guarded, Control.ended]
    rcases
        handleTransportError_outcome (sound.running running) errorName
          clock with
      ⟨failures, _, ⟨_, exhausted⟩ | ⟨_, _, ms, backoff, pausing⟩⟩
    · exact Or.inl exhausted
    · refine Or.inr ⟨by omega, ?_, ms, backoff, pausing⟩
      exact (List.getElem?_eq_some_iff.1 backoff).1

/-! ## A run with a lost reply -/

/-- A group with nothing pending and nothing to deliver. -/
def emptyGroup : GroupState where
  own := []
  foreign := []
  undelivered := []
  fields := fun _ => []

/-- No failure recorded yet. -/
def freshTelemetry : Telemetry where
  transportFailures := 0
  recoveries := 0
  pendingReplays := 0
  lastFailure := none

/--
A read of new entries that takes effect and loses its reply.  The loop replays
the entry, the caller acknowledges it, the own pending entries are read as
empty, and the next entry is read and yielded but not acknowledged.
-/
def lostReplyActions : List SubscribeAction :=
  [.environment (.produce ⟨1, 0⟩ [("data", "first")]), .ensured,
    .enter fun _ => 0, .issueRead fun _ => 0, .serve [],
    .transportError "TimeoutError" fun _ => 0, .resume,
    .enter fun _ => 0, .serve [], .reply, .advance, .advance,
    .environment (.acknowledge ⟨1, 0⟩),
    .enter fun _ => 0, .serve [], .reply,
    .environment (.produce ⟨2, 0⟩ [("data", "second")]),
    .enter fun _ => 0, .issueRead fun _ => 0, .serve [], .reply, .advance,
    .advance, .enter fun _ => 0]

/-- The state in which `subscribe` begins. -/
def freshSubscription : SubscribeState String where
  locals :=
    { lastReclaim := 0
      replayPending := false
      failures := 0
      recoveryDeadline := none
      recoveryStartedAt := none
      recoveryPending := false
      operationStage := .pendingRead
      telemetry := freshTelemetry }
  control := .ensuring 0
  group := emptyGroup
  stop := false
  yielded := []
  trace := []

/-- The entry still pending when the next read is issued has been yielded. -/
theorem subscribe_loses_no_entry_lostReply :
    ∃ state after : SubscribeState String,
      subscribe topic none blockMs freshTelemetry emptyGroup =
          .ok freshSubscription ∧
        perform (subscribeStep some 30000) freshSubscription
            lostReplyActions =
          some state ∧
        subscribeStep some 30000 state (.issueRead fun _ => 0) =
          some after ∧
        state.group.own = [⟨2, 0⟩] ∧
        state.locals.telemetry.pendingReplays = 1 ∧
        ∀ id ∈ state.group.own, id ∈ state.yielded.map Envelope.id := by
  have performed :
      perform (subscribeStep some 30000) freshSubscription
          lostReplyActions =
        some _ := rfl
  refine ⟨_, _, rfl, performed, rfl, rfl, rfl, ?_⟩
  exact
    (subscribe_loses_no_entry some 30000 topic none blockMs freshTelemetry
      emptyGroup freshSubscription _ rfl rfl
      (reaches_of_perform performed)).1
      (fun _ => 0) _ rfl

end KairosDeploy.Epoch.ConsumerSubscription
