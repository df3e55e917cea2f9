import KairosDeploy.Library.HexDigest
import KairosDeploy.Library.JsonText
import KairosDeploy.Library.Timestamp
import KairosDeploy.Library.Transition

/-!
# The one test message of the alert channel

`alert_delivery.qualify`: a process creates the qualification journal
exclusively, asks Telegram who the bot and the chat are, appends a reservation
to the journal and sends the test message.  Any statement may raise, and a
process may be killed between any two effects, so the journal may end in any
prefix of a record.

The invariant says that whoever is past the creation is the creator of the
journal that is there, and that a process that may still send has not sent.
-/

namespace KairosDeploy.Alerts.Qualification

open KairosDeploy.Library.HexDigest
open KairosDeploy.Library.JsonText
open KairosDeploy.Library.JsonValue
open KairosDeploy.Library.Timestamp
open KairosDeploy.Library.Transition

/-! ## Records -/

/-- `EXPECTED_BOT`. -/
def expectedBot : String := "KairosCryptoAI_bot"

/-- `EXPECTED_TEST_CHAT`. -/
def expectedTestChat : Int := -100447580288

/-- `TEST_MESSAGE`. -/
def testMessage : String :=
  "[KAIROS QUALIFICATION TEST] Проверка аварийного канала. Это тест, не " ++
    "торговый сигнал и не разрешение LIVE."

/-- The methods of the Bot API that are called. -/
inductive Method where
  | getMe
  | getChat
  | sendMessage
deriving DecidableEq, Repr

/-- The dictionary `result`.  `error_category` is absent from the first record
and `message_id` until the message is accepted. -/
structure Result where
  implementation : String
  stage : String
  errorCategory : Option (Option String)
  sendAttempts : Nat
  getMe : Nat
  getChat : Nat
  sendMessage : Nat
  transportAccepted : Bool
  messageId : Option Int
deriving DecidableEq, Repr

namespace Result

/-- `result` before the journal is created. -/
def initial (implementation : String) : Result where
  implementation := implementation
  stage := "PRECHECK_STARTED"
  errorCategory := none
  sendAttempts := 0
  getMe := 0
  getChat := 0
  sendMessage := 0
  transportAccepted := false
  messageId := none

/-- The assignments at the start of `record`. -/
def recorded (result : Result) (stage : String) (error : Option String) :
    Result :=
  { result with stage := stage, errorCategory := some error }

/-- `http_method_counts`. -/
def counts (result : Result) : Json :=
  .object
    (dict
      [("getMe", .int result.getMe), ("getChat", .int result.getChat),
        ("sendMessage", .int result.sendMessage)])

/-- The members of `result`. -/
def members (sha256 : Sha256) (result : Result) : Members :=
  [("schema_version", .int 1),
    ("implementation_sha256", .text result.implementation),
    ("test_message_sha256", .text (sha256.hexdigest (utf8 testMessage))),
    ("expected_bot_username", .text expectedBot),
    ("expected_chat_id", .int expectedTestChat),
    ("recipient_purpose", .text "qualification_test_only"),
    ("stage", .text result.stage),
    ("send_attempts", .int result.sendAttempts),
    ("http_method_counts", result.counts),
    ("transport_accepted", .bool result.transportAccepted),
    ("human_acknowledged", .bool false),
    ("trading_authority", .bool false)] ++
    (match result.errorCategory with
      | none => []
      | some none => [("error_category", .null)]
      | some (some category) => [("error_category", .text category)]) ++
    (match result.messageId with
      | none => []
      | some identity => [("message_id", .int identity)])

end Result

section Lines

variable (floats : FloatText) (sha256 : Sha256)

/-- `canonical(value) + b"\n"`. -/
def canonicalLine (members : Members) : List UInt8 :=
  utf8 (String.ofList (write floats (.object (dict members)) ++ ['\n']))

/-- The record that creates the journal. -/
def openingLine (result : Result) : List UInt8 :=
  canonicalLine floats (result.members sha256)

/-- The record of `record`. -/
def recordLine (result : Result) (observed : CivilTime) : List UInt8 :=
  canonicalLine floats
    (result.members sha256 ++
      [("observed_at_utc", .text (isoformat observed))])

end Lines

/-! ## Processes -/

/-- The appends to the journal.  A failure after a local exception is recorded
under `except OSError: pass`. -/
inductive Append where
  | journal
  | identity
  | reservation
  | acceptance
  | failure (shielded : Bool)
deriving DecidableEq, Repr

/-- Where `qualify` stands. -/
inductive Stage where
  /-- Before the checks of the arguments and the paths. -/
  | starting
  /-- Before `_exclusive(journal, …)`. -/
  | admitted
  /-- `record` has changed `result`. -/
  | recording (append : Append)
  /-- The journal is open with these bytes still to write. -/
  | writing (append : Append) (remaining : List UInt8)
  /-- The bytes are written; before `os.fsync`. -/
  | syncing (append : Append)
  /-- Before `_private_acl(journal)`. -/
  | created
  /-- Before the token is read. -/
  | guarded
  /-- Before the request is issued. -/
  | asking (method : Method)
  /-- The request is issued. -/
  | awaiting (method : Method)
  | returned
  | raised
  | killed
deriving DecidableEq, Repr

/-- `sending` is the local variable of `qualify`. -/
structure Process where
  authorized : Bool
  result : Result
  sending : Bool
  stage : Stage
deriving DecidableEq, Repr

namespace Process

/-- A process before its first statement. -/
def fresh (authorized : Bool) (implementation : String) : Process where
  authorized := authorized
  result := .initial implementation
  sending := false
  stage := .starting

/-- The process goes on to a stage. -/
def enter (process : Process) (stage : Stage) : Process :=
  { process with stage := stage }

/-- The process calls `record`. -/
def record (process : Process) (append : Append) (stage : String)
    (error : Option String) : Process :=
  { process with
    result := process.result.recorded stage error
    stage := .recording append }

/-- `"SEND_OUTCOME_UNKNOWN" if sending else "PRECHECK_FAILED"`. -/
def failedStage (process : Process) : String :=
  if process.sending then "SEND_OUTCOME_UNKNOWN" else "PRECHECK_FAILED"

/-- `except DeliveryError`. -/
def refused (process : Process) (category : String) : Process :=
  process.record (.failure false) process.failedStage (some category)

/-- `except Exception`. -/
def faulted (process : Process) : Process :=
  { process with
    result := { process.result with transportAccepted := false } }.record
      (.failure true) process.failedStage (some "LOCAL_FAILURE")

/-- What follows an append. -/
def appended (process : Process) : Append → Process
  | .journal => process.enter .created
  | .identity =>
      { process with
        result := { process.result with sendAttempts := 1 } }.record
          .reservation "SEND_RESERVED" none
  | .reservation =>
      { process with
        sending := true
        result := { process.result with sendMessage := 1 }
        stage := .asking .sendMessage }
  | .acceptance | .failure _ => process.enter .returned

/-- The bot is the expected one. -/
def isExpectedBot (identity : Members) : Bool :=
  (get identity "is_bot").isTrue &&
    (get identity "username").pyEq (.text expectedBot)

/-- The member is the test chat's id, an `int`. -/
def isTestChat (chat : Members) : Bool :=
  match get chat "id" with
  | .int identity => identity = expectedTestChat
  | _ => false

/-- The id of a message sent to the test chat. -/
def sentMessage (sent : Members) : Option Int :=
  match get sent "chat", get sent "message_id" with
  | .object chat, .int identity =>
      if isTestChat chat && 0 < identity then some identity else none
  | _, _ => none

/-- What follows the answer to a call. -/
def answered (process : Process) (answer : Members) : Method → Process
  | .getMe =>
      if isExpectedBot answer then
        { process with
          result := { process.result with getChat := 1 }
          stage := .asking .getChat }
      else
        process.refused "BOT_IDENTITY_MISMATCH"
  | .getChat =>
      if !isTestChat answer then
        process.refused "CHAT_IDENTITY_MISMATCH"
      else
        match get answer "type" with
        | .text kind =>
            if kind = "group" || kind = "supergroup" then
              process.record .identity "IDENTITY_VERIFIED" none
            else
              process.refused "CHAT_IDENTITY_MISMATCH"
        -- A list or a dict is not hashable.
        | .array _ | .object _ => process.faulted
        | _ => process.refused "CHAT_IDENTITY_MISMATCH"
  | .sendMessage =>
      match sentMessage answer with
      | some identity =>
          { process with
            result :=
              { process.result with
                transportAccepted := true
                messageId := some identity } }.record
            .acceptance "TRANSPORT_ACCEPTED" none
      | none => process.refused "SEND_RESPONSE_IDENTITY_MISMATCH"

end Process

/-! ## Steps -/

/-- The journal.  No creator means that it was there before; the first
`durable` bytes have reached the disk. -/
structure Journal (Pid : Type) where
  creator : Option Pid
  content : List UInt8
  durable : Nat
deriving DecidableEq, Repr

namespace Journal

variable {Pid : Type}

/-- Bytes reach the end of the file. -/
def append (bytes : List UInt8) (journal : Journal Pid) : Journal Pid :=
  { journal with content := journal.content ++ bytes }

/-- `os.fsync`. -/
def sync (journal : Journal Pid) : Journal Pid :=
  { journal with durable := journal.content.length }

end Journal

/-- What can happen to a process at a statement. -/
inductive Event where
  /-- The statement is carried out. -/
  | proceed
  /-- `record` reads the clock and opens the journal. -/
  | observe (time : CivilTime)
  /-- Some of the bytes of `stream.write` reach the file. -/
  | write (count : Nat)
  /-- The call returns this object. -/
  | answer (value : Members)
  /-- The statement raises `DeliveryError`. -/
  | refuse (category : String)
  /-- The statement raises another exception. -/
  | raise
  | kill

/-- What a step leaves: the process, the journal and the request issued. -/
structure Outcome (Pid : Type) where
  process : Process
  journal : Option (Journal Pid)
  request : Option Method := none

section

variable (floats : FloatText) (sha256 : Sha256)
variable {Pid : Type}

/-- The next statement of `qualify`, given the file at the journal path. -/
def proceed (pid : Pid) (process : Process)
    (journal : Option (Journal Pid)) : Option (Outcome Pid) :=
  match process.stage with
  | .starting =>
      -- EXPLICIT_TEST_AUTHORIZATION_REQUIRED
      if process.authorized then
        some ⟨process.enter .admitted, journal, none⟩
      else
        some ⟨process.enter .raised, journal, none⟩
  | .admitted =>
      match journal with
      -- EXISTING_QUALIFICATION_REQUIRES_REVIEW
      | some _ => some ⟨process.enter .raised, journal, none⟩
      | none =>
          some
            ⟨process.enter
                (.writing .journal (openingLine floats sha256 process.result)),
              some ⟨some pid, [], 0⟩, none⟩
  | .writing append remaining =>
      some
        ⟨process.enter (.syncing append),
          journal.map (Journal.append remaining), none⟩
  | .syncing append =>
      some ⟨process.appended append, journal.map Journal.sync, none⟩
  | .created => some ⟨process.enter .guarded, journal, none⟩
  | .guarded =>
      some
        ⟨{ process with
            result := { process.result with getMe := 1 }
            stage := .asking .getMe },
          journal, none⟩
  | .asking method =>
      some ⟨process.enter (.awaiting method), journal, some method⟩
  | .recording _ | .awaiting _ | .returned | .raised | .killed => none

/-- A statement raises `DeliveryError`: only the checks of paths and of the
token and the calls do. -/
def refuse (process : Process) (category : String) : Option Process :=
  match process.stage with
  | .starting | .admitted | .created => some (process.enter .raised)
  | .guarded | .asking _ | .awaiting _ => some (process.refused category)
  | _ => none

/-- A statement raises another exception. -/
def fault (process : Process) : Option Process :=
  match process.stage with
  | .starting | .admitted | .created => some (process.enter .raised)
  | .recording append | .writing append _ | .syncing append =>
      match append with
      | .journal | .failure false => some (process.enter .raised)
      | .failure true => some (process.enter .returned)
      | .identity | .reservation | .acceptance => some process.faulted
  | .guarded | .asking _ | .awaiting _ => some process.faulted
  | .returned | .raised | .killed => none

/-- What an event does to a process and to the journal. -/
def happen (pid : Pid) (process : Process) (journal : Option (Journal Pid)) :
    Event → Option (Outcome Pid)
  | .proceed => proceed floats sha256 pid process journal
  | .observe time =>
      match process.stage with
      | .recording append =>
          some
            ⟨process.enter
                (.writing append
                  (recordLine floats sha256 process.result time)),
              journal, none⟩
      | _ => none
  | .write count =>
      match process.stage with
      | .writing append remaining =>
          some
            ⟨process.enter (.writing append (remaining.drop count)),
              journal.map (Journal.append (remaining.take count)), none⟩
      | _ => none
  | .answer value =>
      match process.stage with
      | .awaiting method =>
          some ⟨process.answered value method, journal, none⟩
      | _ => none
  | .refuse category =>
      (refuse process category).map fun next => ⟨next, journal, none⟩
  | .raise => (fault process).map fun next => ⟨next, journal, none⟩
  | .kill =>
      match process.stage with
      | .returned | .raised | .killed => none
      | _ => some ⟨process.enter .killed, journal, none⟩

/-- The journal, the requests in the order of their issue and the
processes. -/
structure State (Pid : Type) where
  journal : Option (Journal Pid)
  requests : List (Pid × Method)
  processes : Pid → Process

variable [DecidableEq Pid]

/-- A step of one process. -/
def step (state : State Pid) (action : Pid × Event) : Option (State Pid) :=
  (happen floats sha256 action.1 (state.processes action.1) state.journal
      action.2).map
    fun outcome =>
      { journal := outcome.journal
        requests :=
          state.requests ++
            (outcome.request.map fun method => (action.1, method)).toList
        processes :=
          Function.update state.processes action.1 outcome.process }

end

/-! ## What a step does to the journal -/

/-- Between the creation of the journal and the end of the process. -/
def Stage.owns : Stage → Bool
  | .starting | .admitted | .returned | .raised | .killed => false
  | _ => true

/-- The message is not sent yet but may be. -/
def Stage.beforeSend : Stage → Bool
  | .starting | .admitted | .created | .guarded | .asking _ => true
  | .awaiting method => method ≠ .sendMessage
  | .recording append | .writing append _ | .syncing append =>
      append = .journal || append = .identity || append = .reservation
  | .returned | .raised | .killed => false

/-- `result` as `SEND_RESERVED` is recorded. -/
structure Reserving (result : Result) : Prop where
  stage_eq : result.stage = "SEND_RESERVED"
  sendAttempts_eq : result.sendAttempts = 1

section

variable (floats : FloatText) (sha256 : Sha256)
variable {Pid : Type}

/-- With the remaining bytes the journal ends in a reservation. -/
def EndsReserved (journal : Journal Pid) (remaining : List UInt8) : Prop :=
  ∃ result time,
    Reserving result ∧
      recordLine floats sha256 result time <:+ journal.content ++ remaining

/-- The journal ends in a reservation and all of it is on the disk. -/
structure DurablyReserved (journal : Journal Pid) : Prop where
  ends : EndsReserved floats sha256 journal []
  durable_eq : journal.durable = journal.content.length

/-- What the stage of the creator says about the journal. -/
def Tells (process : Process) (journal : Journal Pid) : Prop :=
  match process.stage with
  | .recording .reservation => Reserving process.result
  | .writing .reservation remaining =>
      EndsReserved floats sha256 journal remaining
  | .syncing .reservation => EndsReserved floats sha256 journal []
  | .asking .sendMessage => DurablyReserved floats sha256 journal
  | _ => True

/-- The moves of a process, by what they mean for the journal. -/
inductive Moves (pid : Pid) (process : Process) :
    Option (Journal Pid) → Outcome Pid → Prop where
  /-- To a stage that says nothing about the journal. -/
  | stays (present) (next : Process)
      (owns : next.stage.owns = true → process.stage.owns = true)
      (before :
        next.stage.beforeSend = true → process.stage.beforeSend = true)
      (tells :
        ∀ journal : Journal Pid, Tells floats sha256 next journal) :
      Moves pid process present ⟨next, present, none⟩
  | creates (line : List UInt8) (admitted : process.stage = .admitted) :
      Moves pid process none
        ⟨process.enter (.writing .journal line), some ⟨some pid, [], 0⟩,
          none⟩
  | opens (present) (append : Append) (time : CivilTime)
      (recording : process.stage = .recording append) :
      Moves pid process present
        ⟨process.enter
            (.writing append (recordLine floats sha256 process.result time)),
          present, none⟩
  | writes (present) (append : Append) (remaining : List UInt8)
      (count : Nat) (writing : process.stage = .writing append remaining) :
      Moves pid process present
        ⟨process.enter (.writing append (remaining.drop count)),
          present.map (Journal.append (remaining.take count)), none⟩
  | closes (present) (append : Append) (remaining : List UInt8)
      (writing : process.stage = .writing append remaining) :
      Moves pid process present
        ⟨process.enter (.syncing append),
          present.map (Journal.append remaining), none⟩
  | syncs (present) (append : Append)
      (syncing : process.stage = .syncing append) :
      Moves pid process present
        ⟨process.appended append, present.map Journal.sync, none⟩
  | asks (present) (method : Method)
      (asking : process.stage = .asking method) :
      Moves pid process present
        ⟨process.enter (.awaiting method), present, some method⟩

end

section

variable {floats : FloatText} {sha256 : Sha256} {Pid : Type} {pid : Pid}
variable {process next : Process} {journal : Option (Journal Pid)}
variable {outcome : Outcome Pid} {event : Event}

theorem proceed_moves
    (proceeded :
      proceed floats sha256 pid process journal = some outcome) :
    Moves floats sha256 pid process journal outcome := by
  unfold proceed at proceeded
  split at proceeded
  case h_1 stage =>
    split at proceeded <;> cases proceeded
    · exact .stays _ _ nofun (fun _ => by rw [stage]; rfl) fun _ => trivial
    · exact .stays _ _ nofun nofun fun _ => trivial
  case h_2 stage =>
    split at proceeded <;> cases proceeded
    · exact .stays _ _ nofun nofun fun _ => trivial
    · exact .creates _ stage
  case h_3 append remaining stage =>
    cases proceeded
    exact .closes _ append remaining stage
  case h_4 append stage =>
    cases proceeded
    exact .syncs _ append stage
  case h_5 stage =>
    cases proceeded
    exact
      .stays _ _ (fun _ => by rw [stage]; rfl) (fun _ => by rw [stage]; rfl)
        fun _ => trivial
  case h_6 stage =>
    cases proceeded
    exact
      .stays _ _ (fun _ => by rw [stage]; rfl) (fun _ => by rw [stage]; rfl)
        fun _ => trivial
  case h_7 method stage =>
    cases proceeded
    exact .asks _ method stage
  all_goals cases proceeded

/-- A handled failure goes on to record it. -/
theorem moves_of_failure
    {shielded : Bool}
    (owns : process.stage.owns = true)
    (failing : next.stage = .recording (.failure shielded)) :
    Moves floats sha256 pid process journal ⟨next, journal, none⟩ := by
  refine .stays _ _ (fun _ => owns) ?_ ?_
  · rw [failing]
    nofun
  · intro file
    unfold Tells
    rw [failing]
    trivial

/-- The process ends. -/
theorem moves_of_end
    {stage : Stage}
    (ended : stage = .returned ∨ stage = .raised ∨ stage = .killed) :
    Moves floats sha256 pid process journal
      ⟨process.enter stage, journal, none⟩ := by
  rcases ended with rfl | rfl | rfl <;>
    exact .stays _ _ nofun nofun fun _ => trivial

theorem answered_moves
    {method : Method} {answer : Members}
    (awaiting : process.stage = .awaiting method) :
    Moves floats sha256 pid process journal
      ⟨process.answered answer method, journal, none⟩ := by
  have owns : process.stage.owns = true := by
    rw [awaiting]
    rfl
  unfold Process.answered
  split
  · split
    · exact
        .stays _ _ (fun _ => owns) (fun _ => by rw [awaiting]; rfl)
          fun _ => trivial
    · exact moves_of_failure owns rfl
  · split
    · exact moves_of_failure owns rfl
    · split
      · split
        · exact
            .stays _ _ (fun _ => owns) (fun _ => by rw [awaiting]; rfl)
              fun _ => trivial
        · exact moves_of_failure owns rfl
      · exact moves_of_failure owns rfl
      · exact moves_of_failure owns rfl
      · exact moves_of_failure owns rfl
  · split
    · exact
        .stays _ _ (fun _ => owns) (fun moved => by cases moved)
          fun _ => trivial
    · exact moves_of_failure owns rfl

theorem refuse_moves
    {category : String}
    (refused : refuse process category = some next) :
    Moves floats sha256 pid process journal ⟨next, journal, none⟩ := by
  unfold refuse at refused
  split at refused
  case h_7 => cases refused
  case h_4 stage | h_5 stage | h_6 stage =>
    cases refused
    exact moves_of_failure (by rw [stage]; rfl) rfl
  all_goals
    cases refused
    exact moves_of_end (by simp)

theorem fault_moves (faulted : fault process = some next) :
    Moves floats sha256 pid process journal ⟨next, journal, none⟩ := by
  unfold fault at faulted
  split at faulted
  case h_1 | h_2 | h_3 =>
    cases faulted
    exact moves_of_end (by simp)
  case h_4 stage | h_5 stage | h_6 stage =>
    split at faulted <;> cases faulted
    · exact moves_of_end (by simp)
    · exact moves_of_end (by simp)
    · exact moves_of_end (by simp)
    all_goals exact moves_of_failure (by rw [stage]; rfl) rfl
  case h_7 stage | h_8 stage | h_9 stage =>
    cases faulted
    exact moves_of_failure (by rw [stage]; rfl) rfl
  all_goals cases faulted

theorem happen_moves
    (happened :
      happen floats sha256 pid process journal event = some outcome) :
    Moves floats sha256 pid process journal outcome := by
  cases event with
  | proceed => exact proceed_moves happened
  | observe time =>
      simp only [happen] at happened
      split at happened
      · next append stage =>
          cases happened
          exact .opens _ append time stage
      · cases happened
  | write count =>
      simp only [happen] at happened
      split at happened
      · next append remaining stage =>
          cases happened
          exact .writes _ append remaining count stage
      · cases happened
  | answer value =>
      simp only [happen] at happened
      split at happened
      · next method stage =>
          cases happened
          exact answered_moves stage
      · cases happened
  | refuse category =>
      rcases Option.map_eq_some_iff.1 happened with ⟨next, refused, rfl⟩
      exact refuse_moves refused
  | raise =>
      rcases Option.map_eq_some_iff.1 happened with ⟨next, faulted, rfl⟩
      exact fault_moves faulted
  | kill =>
      simp only [happen] at happened
      split at happened <;> cases happened
      exact moves_of_end (by simp)

end

/-! ## Runs -/

section

variable {floats : FloatText} {sha256 : Sha256}
variable {Pid : Type} {pid other : Pid}

/-- The journal was created by this process. -/
def CreatedBy (pid : Pid) (journal : Option (Journal Pid)) : Prop :=
  ∃ file, journal = some file ∧ file.creator = some pid

theorem CreatedBy.unique
    {journal : Option (Journal Pid)}
    (left : CreatedBy pid journal) (right : CreatedBy other journal) :
    other = pid := by
  rcases left with ⟨file, rfl, creator⟩
  rcases right with ⟨_, same, otherCreator⟩
  cases same
  exact Option.some.inj (otherCreator.symm.trans creator)

/-- Bytes and synchronisation leave the creator and all earlier bytes. -/
def Extends (before after : Option (Journal Pid)) : Prop :=
  ∀ file, before = some file →
    ∃ later, after = some later ∧ later.creator = file.creator ∧
      file.content <+: later.content

theorem Extends.refl (journal : Option (Journal Pid)) :
    Extends journal journal :=
  fun file present => ⟨file, present, rfl, List.prefix_rfl⟩

theorem Extends.trans
    {first second third : Option (Journal Pid)}
    (left : Extends first second) (right : Extends second third) :
    Extends first third := by
  intro file present
  rcases left file present with ⟨middle, found, creator, content⟩
  rcases right middle found with ⟨later, last, same, rest⟩
  exact ⟨later, last, same.trans creator, content.trans rest⟩

theorem extends_append (journal : Option (Journal Pid))
    (bytes : List UInt8) :
    Extends journal (journal.map (Journal.append bytes)) := by
  rintro file rfl
  exact ⟨file.append bytes, rfl, rfl, List.prefix_append _ _⟩

theorem extends_sync (journal : Option (Journal Pid)) :
    Extends journal (journal.map Journal.sync) := by
  rintro file rfl
  exact ⟨file.sync, rfl, rfl, List.prefix_rfl⟩

theorem CreatedBy.extend
    {before after : Option (Journal Pid)}
    (created : CreatedBy pid before) (grows : Extends before after) :
    CreatedBy pid after := by
  rcases created with ⟨file, present, creator⟩
  rcases grows file present with ⟨later, found, same, _⟩
  exact ⟨later, found, same.trans creator⟩

section

variable {process : Process} {journal : Option (Journal Pid)}
variable {outcome : Outcome Pid}

/-- No move changes a byte that is there. -/
theorem Moves.grows
    (moves : Moves floats sha256 pid process journal outcome) :
    Extends journal outcome.journal := by
  cases moves with
  | stays => exact .refl _
  | creates => exact nofun
  | opens => exact .refl _
  | writes => exact extends_append _ _
  | closes => exact extends_append _ _
  | syncs => exact extends_sync _
  | asks => exact .refl _

/-- Only a process that creates or owns the journal touches it. -/
theorem Moves.keeps_journal
    (moves : Moves floats sha256 pid process journal outcome) :
    outcome.journal = journal ∨ journal = none ∨
      process.stage.owns = true := by
  cases moves with
  | stays => exact .inl rfl
  | creates => exact .inr (.inl rfl)
  | opens => exact .inl rfl
  | writes _ _ _ _ writing => exact .inr (.inr (by rw [writing]; rfl))
  | closes _ _ _ writing => exact .inr (.inr (by rw [writing]; rfl))
  | syncs _ _ syncing => exact .inr (.inr (by rw [syncing]; rfl))
  | asks => exact .inl rfl

/-- A process owns the journal by creating it. -/
theorem Moves.owns
    (moves : Moves floats sha256 pid process journal outcome)
    (known : process.stage.owns = true → CreatedBy pid journal)
    (owns : outcome.process.stage.owns = true) :
    CreatedBy pid outcome.journal := by
  have kept :
      process.stage.owns = true → CreatedBy pid outcome.journal :=
    fun before => (known before).extend moves.grows
  cases moves with
  | stays _ _ earlier => exact kept (earlier owns)
  | creates => exact ⟨_, rfl, rfl⟩
  | opens _ _ _ recording => exact kept (by rw [recording]; rfl)
  | writes _ _ _ _ writing => exact kept (by rw [writing]; rfl)
  | closes _ _ _ writing => exact kept (by rw [writing]; rfl)
  | syncs _ _ syncing => exact kept (by rw [syncing]; rfl)
  | asks _ _ asking => exact kept (by rw [asking]; rfl)

/-- Nobody returns to the time before the message is sent. -/
theorem Moves.beforeSend
    (moves : Moves floats sha256 pid process journal outcome)
    (before : outcome.process.stage.beforeSend = true) :
    process.stage.beforeSend = true := by
  cases moves with
  | stays _ _ _ earlier => exact earlier before
  | creates _ admitted => rw [admitted]; rfl
  | opens _ _ _ recording => rw [recording]; exact before
  | writes _ _ _ _ writing => rw [writing]; exact before
  | closes _ _ _ writing => rw [writing]; exact before
  | syncs _ append syncing =>
      rw [syncing]
      cases append with
      | acceptance => cases before
      | failure shielded => cases before
      | _ => rfl
  | asks _ _ asking => rw [asking]; rfl

/-- A request is issued where the stage says so. -/
theorem Moves.asking
    {method : Method}
    (moves : Moves floats sha256 pid process journal outcome)
    (issued : outcome.request = some method) :
    process.stage = .asking method ∧
      outcome.process.stage = .awaiting method := by
  cases moves with
  | asks _ _ asking =>
      cases issued
      exact ⟨asking, rfl⟩
  | _ => cases issued

omit outcome in
/-- Stages without a journal say nothing. -/
theorem tells_of_not_owns
    (file : Journal Pid) (idle : process.stage.owns = false) :
    Tells floats sha256 process file := by
  unfold Tells
  split
  · simp_all [Stage.owns]
  · simp_all [Stage.owns]
  · simp_all [Stage.owns]
  · simp_all [Stage.owns]
  · trivial

/-- What the stage of the creator says stays true. -/
theorem Moves.tells
    {file later : Journal Pid}
    (moves : Moves floats sha256 pid process (some file) outcome)
    (told : Tells floats sha256 process file)
    (left : outcome.journal = some later) :
    Tells floats sha256 outcome.process later := by
  unfold Tells at told
  cases moves with
  | stays _ _ _ _ silent => exact silent later
  | opens _ append time recording =>
      rw [recording] at told
      cases append with
      | reservation =>
          exact ⟨_, time, told, List.suffix_append _ _⟩
      | _ => trivial
  | writes _ append remaining count writing =>
      rw [writing] at told
      cases left
      cases append with
      | reservation =>
          rcases told with ⟨result, time, reserving, ends⟩
          refine ⟨result, time, reserving, ?_⟩
          show _ <:+
              file.content ++ remaining.take count ++ remaining.drop count
          rw [List.append_assoc, List.take_append_drop]
          exact ends
      | _ => trivial
  | closes _ append remaining writing =>
      rw [writing] at told
      cases left
      cases append with
      | reservation =>
          rcases told with ⟨result, time, reserving, ends⟩
          refine ⟨result, time, reserving, ?_⟩
          show _ <:+ file.content ++ remaining ++ []
          rw [List.append_nil]
          exact ends
      | _ => trivial
  | syncs _ append syncing =>
      rw [syncing] at told
      cases left
      cases append with
      | identity => exact ⟨rfl, rfl⟩
      | reservation => exact ⟨told, rfl⟩
      | _ => trivial
  | asks => trivial

end

/-- Every process is before its first statement, no request is issued and
no process has created a journal. -/
structure Started (state : State Pid) : Prop where
  fresh :
    ∀ pid, ∃ authorized implementation,
      state.processes pid = .fresh authorized implementation
  requests_eq : state.requests = []
  foreign : ∀ pid, ¬ CreatedBy pid state.journal

/-- What holds in every reachable state. -/
structure Consistent (floats : FloatText) (sha256 : Sha256)
    (state : State Pid) : Prop where
  owned :
    ∀ pid, (state.processes pid).stage.owns = true →
      CreatedBy pid state.journal
  told :
    ∀ pid, (state.processes pid).stage.owns = true →
      ∀ file, state.journal = some file →
        Tells floats sha256 (state.processes pid) file
  requested :
    ∀ request ∈ state.requests, CreatedBy request.1 state.journal
  unsent :
    ∀ pid, (state.processes pid).stage.beforeSend = true →
      (pid, Method.sendMessage) ∉ state.requests
  once : (state.requests.map Prod.snd).count .sendMessage ≤ 1

theorem Started.consistent {state : State Pid} (started : Started state) :
    Consistent floats sha256 state where
  owned pid owns := by
    rcases started.fresh pid with ⟨authorized, implementation, fresh⟩
    rw [fresh] at owns
    cases owns
  told pid owns := by
    rcases started.fresh pid with ⟨authorized, implementation, fresh⟩
    rw [fresh] at owns
    cases owns
  requested request member := by
    rw [started.requests_eq] at member
    cases member
  unsent pid _ := by
    rw [started.requests_eq]
    exact List.not_mem_nil
  once := by
    rw [started.requests_eq]
    exact Nat.zero_le 1

variable [DecidableEq Pid] {before after : State Pid}
variable {action : Pid × Event}

/-- What a step does to the state. -/
theorem step_moves
    (taken : step floats sha256 before action = some after) :
    ∃ outcome,
      Moves floats sha256 action.1 (before.processes action.1)
          before.journal outcome ∧
        after.journal = outcome.journal ∧
        after.requests =
          before.requests ++
            (outcome.request.map fun method => (action.1, method)).toList ∧
        after.processes =
          Function.update before.processes action.1 outcome.process := by
  rcases Option.map_eq_some_iff.1 taken with ⟨outcome, happened, rfl⟩
  exact ⟨outcome, happen_moves happened, rfl, rfl, rfl⟩

theorem grows_of_step
    (taken : step floats sha256 before action = some after) :
    Extends before.journal after.journal := by
  rcases step_moves taken with ⟨outcome, moves, journal, _, _⟩
  rw [journal]
  exact moves.grows

/-- What a process says about a journal that another process moves on. -/
theorem Consistent.told_other
    (consistent : Consistent floats sha256 before)
    (taken : step floats sha256 before action = some after)
    (different : other ≠ action.1)
    (owns : (before.processes other).stage.owns = true) :
    after.journal = before.journal := by
  rcases step_moves taken with ⟨outcome, moves, journal, _, _⟩
  have created := consistent.owned other owns
  rw [journal]
  rcases moves.keeps_journal with same | absent | acting
  · exact same
  · rcases created with ⟨file, present, _⟩
    rw [absent] at present
    cases present
  · exact absurd ((consistent.owned _ acting).unique created) different

theorem Consistent.step
    (consistent : Consistent floats sha256 before)
    (taken : step floats sha256 before action = some after) :
    Consistent floats sha256 after := by
  have grows := grows_of_step taken
  have unchanged :
      ∀ other, other ≠ action.1 →
        (before.processes other).stage.owns = true →
          after.journal = before.journal :=
    fun other different owns => consistent.told_other taken different owns
  rcases step_moves taken with
    ⟨outcome, moves, journal, requests, processes⟩
  have owner :
      outcome.request.isSome = true →
        (before.processes action.1).stage.owns = true := by
    intro issued
    rcases Option.isSome_iff_exists.1 issued with ⟨method, some⟩
    rw [(moves.asking some).1]
    rfl
  constructor
  case owned =>
    intro pid owns
    rw [processes] at owns
    by_cases same : pid = action.1
    · subst same
      rw [Function.update_self] at owns
      rw [journal]
      exact moves.owns (consistent.owned _) owns
    · rw [Function.update_of_ne same] at owns
      exact (consistent.owned pid owns).extend grows
  case told =>
    intro pid owns later left
    rw [processes] at owns ⊢
    by_cases same : pid = action.1
    · subst same
      rw [Function.update_self] at owns ⊢
      rw [journal] at left
      cases present : before.journal with
      | none =>
          rw [present] at moves
          cases moves with
          | creates => trivial
          | stays _ _ earlier =>
              cases left
          | _ => cases left
      | some file =>
          rw [present] at moves
          have told :
              Tells floats sha256 (before.processes action.1) file := by
            cases owned : (before.processes action.1).stage.owns with
            | true => exact consistent.told _ owned file present
            | false => exact tells_of_not_owns file owned
          exact moves.tells told left
    · rw [Function.update_of_ne same] at owns ⊢
      rw [unchanged pid same owns] at left
      exact consistent.told pid owns later left
  case requested =>
    intro request member
    rw [requests] at member
    rcases List.mem_append.1 member with earlier | issued
    · exact (consistent.requested request earlier).extend grows
    · rw [Option.mem_toList, Option.map_eq_some_iff] at issued
      rcases issued with ⟨method, some, rfl⟩
      have created :=
        consistent.owned _ (owner (Option.isSome_of_eq_some some))
      exact created.extend grows
  case unsent =>
    intro pid before member
    rw [processes] at before
    rw [requests] at member
    by_cases same : pid = action.1
    · subst same
      rw [Function.update_self] at before
      rcases List.mem_append.1 member with earlier | issued
      · exact consistent.unsent _ (moves.beforeSend before) earlier
      · rw [Option.mem_toList, Option.map_eq_some_iff] at issued
        rcases issued with ⟨method, some, sent⟩
        cases sent
        rw [(moves.asking some).2] at before
        cases before
    · rw [Function.update_of_ne same] at before
      rcases List.mem_append.1 member with earlier | issued
      · exact consistent.unsent pid before earlier
      · rw [Option.mem_toList, Option.map_eq_some_iff] at issued
        rcases issued with ⟨method, _, sent⟩
        exact same (congrArg Prod.fst sent).symm
  case once =>
    rw [requests, List.map_append, List.count_append]
    cases issued : outcome.request with
    | none => exact consistent.once
    | some method =>
        cases method with
        | sendMessage =>
            -- Whoever sends created the journal, so nobody else has sent.
            have asking := (moves.asking issued).1
            have created :=
              consistent.owned action.1 (owner (by rw [issued]; rfl))
            have none :
                (before.requests.map Prod.snd).count .sendMessage = 0 := by
              rw [List.count_eq_zero, List.mem_map]
              rintro ⟨⟨sender, _⟩, member, rfl⟩
              have same :=
                created.unique (consistent.requested _ member)
              change sender = action.1 at same
              rw [same] at member
              exact
                consistent.unsent action.1 (by rw [asking]; rfl) member
            rw [none]
            exact Nat.le_refl 1
        | _ => exact consistent.once

end

/-! ## A run with two processes -/

/-- Two authorised processes and no journal. -/
def twoProcesses : State Bool where
  journal := none
  requests := []
  processes _ := .fresh true ""

theorem twoProcesses_started : Started twoProcesses where
  fresh _ := ⟨true, "", rfl⟩
  requests_eq := rfl
  foreign _ := nofun

end KairosDeploy.Alerts.Qualification
