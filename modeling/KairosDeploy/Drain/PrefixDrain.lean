import KairosDeploy.Drain.SignedReceipt

/-!
# Draining a signed prefix

`apply_prefix` publishes the signed identities one after the other and stops
at the first doubt; `main` prints what came of it.  The calls on the
persistence library, the clock and the two `close` calls are arguments.
-/

namespace KairosDeploy.Drain.PrefixDrain

open KairosDeploy.Library.Refusal
open KairosDeploy.Library.JsonValue
open KairosDeploy.Drain.SignedReceipt

/-! ## What the runner calls -/

/-- An exception: the name of its type, and whether `main` catches it. -/
structure Raised where
  name : String
  caught : Bool
deriving DecidableEq, Repr

/-- `main` catches neither an `OverflowError` nor what it does not know. -/
def raisedBy : DrainFailure → Raised
  | .drainInput _ => ⟨"DrainInputError", true⟩
  | .sensitive => ⟨"DrainInputError", true⟩
  | .valueError => ⟨"ValueError", true⟩
  | .typeError => ⟨"TypeError", true⟩
  | .overflowError => ⟨"OverflowError", false⟩
  | .payloadReader => ⟨"Exception", false⟩

/-- What `drain_exact` returns, as far as it is read. -/
structure DrainResult where
  state : String
  rejection : Option String
  unknownQuarantined : Option Bool
  failureKind : Option String
deriving DecidableEq, Repr

/-- What the calls of one apply run do. -/
structure Behaviour where
  /-- `create_pool` and the construction of the bus. -/
  connect : Except Raised Unit
  /-- The reading of the clock that the deadline is computed from. -/
  start : Int
  /-- The reading before each identity. -/
  reading : Nat → Int
  /-- The readings of the publisher during each call of `drain_exact`. -/
  publisher : Nat → List Int
  drainExact : Nat → Except Raised DrainResult
  busClose : Except Raised Unit
  poolClose : Except Raised Unit

/-- What `run` has established before it calls `apply_prefix`. -/
structure Admitted where
  plan : DrainPlan
  signed : List PrefixIdentity
  receiptSha256 : String
  /-- `source_lock()`. -/
  sourceLock : Json
  /-- `sha256_json`. -/
  sha256Json : Json → String
  casefold : String → String

/-! ## The report -/

/-- `_drain_row_id`. -/
def drainRowId (plan : DrainPlan) (identity : PrefixIdentity) :
    Except DrainFailure String :=
  let value := plan.drainId ++ ":" ++ toString identity.id
  if 200 < value.length then
    .error
      (.drainInput
        "derived exact drain identity exceeds the persistence bound")
  else
    .ok value

/-- The members that a terminal result adds to the report. -/
def terminalEntries (terminal : Option DrainResult) : Members :=
  match terminal with
  | none => []
  | some result =>
      ("terminal_state", .text result.state) ::
        (result.rejection.toList.map fun text => ("rejection", .text text)) ++
        (result.unknownQuarantined.toList.map fun known =>
          ("unknown_quarantined", .bool known)) ++
        (result.failureKind.toList.map fun text =>
          ("failure_kind", .text text))

/-- The entries of the report, in the order of the source. -/
def reportEntries (admitted : Admitted)
    (acknowledged : List PrefixIdentity) (state : String)
    (terminal : Option DrainResult) : Members :=
  [("schema_version", .int 1),
    ("kind", .text "kairos.offline-outbox-drain-acceptance.v1"),
    ("classification", .text "OFFLINE_SIGNED_PREFIX_ONLY"),
    ("source_lock_sha256", .text (admitted.sha256Json admitted.sourceLock)),
    ("plan_sha256",
      .text (admitted.sha256Json (.object admitted.plan.payload))),
    ("database_name", .text admitted.plan.databaseName),
    ("producer", .text admitted.plan.producer),
    ("topic", .text admitted.plan.topic),
    ("drain_id", .text admitted.plan.drainId),
    ("inspection_receipt_sha256", .text admitted.receiptSha256),
    ("selected_count", .int admitted.signed.length),
    ("acknowledged_count", .int acknowledged.length),
    ("acknowledged_identities", identitiesPayload acknowledged),
    ("acknowledged_identities_sha256",
      .text (admitted.sha256Json (identitiesPayload acknowledged))),
    ("state", .text state)] ++
    terminalEntries terminal

/-- `_acceptance_payload`. -/
def acceptancePayload (admitted : Admitted)
    (acknowledged : List PrefixIdentity) (state : String)
    (terminal : Option DrainResult) : Except DrainFailure Members := do
  let report := dict (reportEntries admitted acknowledged state terminal)
  -- assert_receipt_redacted
  refuseIf (isRedacted admitted.casefold (.object report) = false) .sensitive
  return report

/-! ## The loop -/

/-- Why the loop ends when nothing is raised. -/
inductive Stop where
  | timeCap
  | terminal (result : DrainResult)
  | drained
deriving DecidableEq, Repr

/-- The exit code. -/
def Stop.code : Stop → Nat
  | timeCap => 2
  | terminal result => if result.state = "CLAIM_REJECTED" then 2 else 3
  | drained => 0

/-- The state in the report. -/
def Stop.state (admitted : Admitted) : Stop → String
  | timeCap => "TIME_CAP_REACHED"
  | terminal result => result.state
  | drained =>
      if (admitted.signed.length : Int) = admitted.plan.maximumRows then
        "DRAINED_CAP"
      else
        "DRAINED_EMPTY"

def Stop.result : Stop → Option DrainResult
  | terminal result => some result
  | _ => none

/-- What happens in a run, in order. -/
inductive Event where
  | reading (time : Int)
  | call (identity : PrefixIdentity) (drainId : String)
deriving DecidableEq

/-- A run of the loop. -/
structure DrainRun where
  trace : List Event
  acknowledged : List PrefixIdentity
  ending : Except Raised Stop

/-- The run after an identity that was acknowledged. -/
def DrainRun.after (run : DrainRun) (identity : PrefixIdentity)
    (earlier : List Event) : DrainRun where
  trace := earlier ++ run.trace
  acknowledged := identity :: run.acknowledged
  ending := run.ending

section Loop

variable (admitted : Admitted) (behaviour : Behaviour)

/-- `deadline`, in nanoseconds. -/
def deadline : Int :=
  behaviour.start + admitted.plan.maximumDurationSeconds * 1000000000

/-- The loop over the signed identities. -/
def drainLoop : Nat → List PrefixIdentity → DrainRun
  | _, [] => ⟨[], [], .ok .drained⟩
  | index, identity :: rest =>
      let now := behaviour.reading index
      if deadline admitted behaviour ≤ now then
        ⟨[.reading now], [], .ok .timeCap⟩
      else
        match drainRowId admitted.plan identity with
        | .error failure => ⟨[.reading now], [], .error (raisedBy failure)⟩
        | .ok drainId =>
            let events :=
              .reading now :: .call identity drainId ::
                (behaviour.publisher index).map .reading
            match behaviour.drainExact index with
            | .error raised => ⟨events, [], .error raised⟩
            | .ok result =>
                if result.state = "PUBLISH_ACKNOWLEDGED" then
                  (drainLoop (index + 1) rest).after identity events
                else
                  ⟨events, [], .ok (.terminal result)⟩

/-- The loop over all signed identities. -/
def drainRun : DrainRun :=
  drainLoop admitted behaviour 0 admitted.signed

/-- The report of a run that ends without an exception. -/
def reportOf (acknowledged : List PrefixIdentity) (stop : Stop) :
    Except Raised (Nat × Members) :=
  match
    acceptancePayload admitted acknowledged (stop.state admitted)
      stop.result
  with
  | .ok report => .ok (stop.code, report)
  | .error failure => .error (raisedBy failure)

/-- `apply_prefix`.  What the `finally` block raises replaces everything. -/
def applyPrefix : Except Raised (Nat × Members) := do
  behaviour.connect
  let run := drainRun admitted behaviour
  let outcome :=
    run.ending.bind fun stop => reportOf admitted run.acknowledged stop
  behaviour.busClose
  behaviour.poolClose
  outcome

end Loop

/-! ## `main` -/

/-- The exit code and the printed object. -/
structure Exit where
  code : Nat
  output : Members

/-- What `main` prints for an exception that it catches. -/
def startupRejected (raised : Raised) : Members :=
  dict
    [("schema_version", .int 1),
      ("kind", .text "kairos.offline-outbox-drain-acceptance.v1"),
      ("classification", .text "OFFLINE_SIGNED_PREFIX_ONLY"),
      ("state", .text "STARTUP_REJECTED"),
      ("error_type", .text raised.name)]

/-- `main` in apply mode.  What it does not catch is raised. -/
def mainApply (admission : Except Raised Admitted) (behaviour : Behaviour) :
    Except Raised Exit :=
  match admission.bind fun admitted => applyPrefix admitted behaviour with
  | .ok (code, output) => .ok ⟨code, output⟩
  | .error raised =>
      if raised.caught then .ok ⟨4, startupRejected raised⟩
      else .error raised

/-- The identities whose publication was acknowledged during the run. -/
def acknowledgedBy (admission : Except Raised Admitted)
    (behaviour : Behaviour) : List PrefixIdentity :=
  match admission, behaviour.connect with
  | .ok admitted, .ok () => (drainRun admitted behaviour).acknowledged
  | _, _ => []

/-! ## Where the loop ends -/

section Ends

variable (admitted : Admitted) (behaviour : Behaviour)

/-- The identity at an index is drained and acknowledged. -/
def Acknowledges (index : Nat) (identity : PrefixIdentity) : Prop :=
  behaviour.reading index < deadline admitted behaviour ∧
    (∃ drainId, drainRowId admitted.plan identity = .ok drainId) ∧
    ∃ result,
      behaviour.drainExact index = .ok result ∧
        result.state = "PUBLISH_ACKNOWLEDGED"

/-- How the loop ends at an index, where the identity is the next one. -/
inductive EndsWith (index : Nat) :
    Option PrefixIdentity → Except Raised Stop → Prop where
  | drained : EndsWith index none (.ok .drained)
  | timeCap {identity : PrefixIdentity}
      (late : deadline admitted behaviour ≤ behaviour.reading index) :
      EndsWith index (some identity) (.ok .timeCap)
  | longId {identity : PrefixIdentity} {failure : DrainFailure}
      (early : behaviour.reading index < deadline admitted behaviour)
      (long : drainRowId admitted.plan identity = .error failure) :
      EndsWith index (some identity) (.error (raisedBy failure))
  | raised {identity : PrefixIdentity} {drainId : String}
      {raised : Raised}
      (early : behaviour.reading index < deadline admitted behaviour)
      (named : drainRowId admitted.plan identity = .ok drainId)
      (raises : behaviour.drainExact index = .error raised) :
      EndsWith index (some identity) (.error raised)
  | terminal {identity : PrefixIdentity} {drainId : String}
      {result : DrainResult}
      (early : behaviour.reading index < deadline admitted behaviour)
      (named : drainRowId admitted.plan identity = .ok drainId)
      (returns : behaviour.drainExact index = .ok result)
      (doubt : result.state ≠ "PUBLISH_ACKNOWLEDGED") :
      EndsWith index (some identity) (.ok (.terminal result))

/-- The first `count` identities are acknowledged, and then the loop ends. -/
structure Drains (index : Nat) (identities : List PrefixIdentity)
    (run : DrainRun) (count : Nat) : Prop where
  within : count ≤ identities.length
  acknowledged : run.acknowledged = identities.take count
  each :
    ∀ earlier identity, earlier < count →
      identities[earlier]? = some identity →
        Acknowledges admitted behaviour (index + earlier) identity
  ends :
    EndsWith admitted behaviour (index + count) identities[count]? run.ending

variable {admitted behaviour}

theorem Drains.after {index count : Nat} {identity : PrefixIdentity}
    {rest : List PrefixIdentity} {run : DrainRun} {events : List Event}
    (drains : Drains admitted behaviour (index + 1) rest run count)
    (first : Acknowledges admitted behaviour index identity) :
    Drains admitted behaviour index (identity :: rest)
      (run.after identity events) (count + 1) where
  within := Nat.succ_le_succ drains.within
  acknowledged := by
    rw [List.take_succ_cons, ← drains.acknowledged]
    rfl
  each := by
    intro earlier other below found
    cases earlier with
    | zero =>
        rw [List.getElem?_cons_zero, Option.some_inj] at found
        exact found ▸ first
    | succ earlier =>
        rw [List.getElem?_cons_succ] at found
        have acknowledged :=
          drains.each earlier other (Nat.lt_of_succ_lt_succ below) found
        rwa [Nat.add_assoc, Nat.add_comm 1] at acknowledged
  ends := by
    have ends := drains.ends
    rw [Nat.add_assoc, Nat.add_comm 1] at ends
    exact ends

/-- Whatever the calls do, the loop drains a prefix. -/
theorem drainLoop_drains (admitted : Admitted) (behaviour : Behaviour)
    (identities : List PrefixIdentity) :
    ∀ index, ∃ count,
      Drains admitted behaviour index identities
        (drainLoop admitted behaviour index identities) count := by
  induction identities with
  | nil =>
      intro index
      exact
        ⟨0, le_rfl, rfl, fun _ _ below => absurd below (Nat.not_lt_zero _),
          .drained⟩
  | cons identity rest induction =>
      intro index
      have stopped {run : DrainRun} (none : run.acknowledged = [])
          (ends :
            EndsWith admitted behaviour index (some identity) run.ending) :
          ∃ count,
            Drains admitted behaviour index (identity :: rest) run count :=
        ⟨0, Nat.zero_le _, none,
          fun _ _ below => absurd below (Nat.not_lt_zero _), ends⟩
      unfold drainLoop
      dsimp only
      split_ifs with late
      · exact stopped rfl (.timeCap late)
      · have early := not_le.1 late
        cases named : drainRowId admitted.plan identity with
        | error failure => exact stopped rfl (.longId early named)
        | ok drainId =>
            cases returns : behaviour.drainExact index with
            | error raised => exact stopped rfl (.raised early named returns)
            | ok result =>
                dsimp only
                split_ifs with acknowledged
                · rcases induction (index + 1) with ⟨count, drains⟩
                  exact
                    ⟨count + 1,
                      drains.after
                        ⟨early, ⟨drainId, named⟩, result, returns,
                          acknowledged⟩⟩
                · exact
                    stopped rfl
                      (.terminal early named returns acknowledged)

/-- An identity at which the loop ends is not acknowledged. -/
theorem EndsWith.not_acknowledges {index : Nat} {identity : PrefixIdentity}
    {ending : Except Raised Stop}
    (ends : EndsWith admitted behaviour index (some identity) ending) :
    ¬ Acknowledges admitted behaviour index identity := by
  rintro ⟨early, ⟨drainId, named⟩, result, returns, acknowledged⟩
  cases ends with
  | timeCap late => exact absurd late (not_le.2 early)
  | longId _ long =>
      rw [named] at long
      cases long
  | raised _ _ raises =>
      rw [returns] at raises
      cases raises
  | terminal _ _ other doubt =>
      rw [returns] at other
      cases other
      exact doubt acknowledged

/-- The loop ends in one way. -/
theorem EndsWith.unique {index : Nat} {next : Option PrefixIdentity}
    {ending other : Except Raised Stop}
    (left : EndsWith admitted behaviour index next ending)
    (right : EndsWith admitted behaviour index next other) :
    ending = other := by
  cases left with
  | drained =>
      cases right
      rfl
  | timeCap late =>
      cases right with
      | timeCap => rfl
      | longId early _ => exact absurd late (not_le.2 early)
      | raised early _ _ => exact absurd late (not_le.2 early)
      | terminal early _ _ _ => exact absurd late (not_le.2 early)
  | longId early long =>
      cases right with
      | timeCap late => exact absurd late (not_le.2 early)
      | longId _ other =>
          rw [Except.error.inj (long.symm.trans other)]
      | raised _ named _ => cases long.symm.trans named
      | terminal _ named _ _ => cases long.symm.trans named
  | raised early named raises =>
      cases right with
      | timeCap late => exact absurd late (not_le.2 early)
      | longId _ long => cases long.symm.trans named
      | raised _ _ other =>
          rw [Except.error.inj (raises.symm.trans other)]
      | terminal _ _ returns _ => cases raises.symm.trans returns
  | terminal early named returns _ =>
      cases right with
      | timeCap late => exact absurd late (not_le.2 early)
      | longId _ long => cases long.symm.trans named
      | raised _ _ raises => cases raises.symm.trans returns
      | terminal _ _ other _ =>
          rw [Except.ok.inj (returns.symm.trans other)]

/-- The first identity that is not acknowledged, on the inputs alone. -/
structure FirstDoubt (admitted : Admitted) (behaviour : Behaviour)
    (count : Nat) : Prop where
  within : count ≤ admitted.signed.length
  each :
    ∀ earlier identity, earlier < count →
      admitted.signed[earlier]? = some identity →
        Acknowledges admitted behaviour earlier identity
  doubt :
    ∀ identity, admitted.signed[count]? = some identity →
      ¬ Acknowledges admitted behaviour count identity

theorem FirstDoubt.unique {count other : Nat}
    (left : FirstDoubt admitted behaviour count)
    (right : FirstDoubt admitted behaviour other) : count = other := by
  rcases Nat.lt_trichotomy count other with below | same | above
  · have found := List.getElem?_eq_getElem (below.trans_le right.within)
    exact absurd (right.each count _ below found) (left.doubt _ found)
  · exact same
  · have found := List.getElem?_eq_getElem (above.trans_le left.within)
    exact absurd (left.each other _ above found) (right.doubt _ found)

/-- The run of an apply drains up to the first doubt. -/
theorem drainRun_drains (admitted : Admitted) (behaviour : Behaviour) :
    ∃ count,
      FirstDoubt admitted behaviour count ∧
        Drains admitted behaviour 0 admitted.signed
          (drainRun admitted behaviour) count := by
  rcases drainLoop_drains admitted behaviour admitted.signed 0 with
    ⟨count, drains⟩
  refine ⟨count, ⟨drains.within, ?_, ?_⟩, drains⟩
  · intro earlier identity below found
    have acknowledged := drains.each earlier identity below found
    rwa [Nat.zero_add] at acknowledged
  · intro identity found
    have ends := drains.ends
    rw [found, Nat.zero_add] at ends
    exact ends.not_acknowledges

end Ends

/-! ## What `main` reports -/

/-- The state in a printed object. -/
def Exit.state (exit : Exit) : Json :=
  get exit.output "state"

/--
What a drain must report: if an identity was acknowledged, `main` prints
exactly the acknowledged identities under another state than
`STARTUP_REJECTED`; and the exit code 4 with that state is printed only if
none was.
-/
structure ReportsAcknowledged (admission : Except Raised Admitted)
    (behaviour : Behaviour) : Prop where
  listed :
    acknowledgedBy admission behaviour ≠ [] →
      ∃ exit, mainApply admission behaviour = .ok exit ∧
        get exit.output "acknowledged_identities" =
          identitiesPayload (acknowledgedBy admission behaviour) ∧
        exit.state ≠ .text "STARTUP_REJECTED"
  rejected :
    ∀ exit, mainApply admission behaviour = .ok exit → exit.code = 4 →
      exit.state = .text "STARTUP_REJECTED" →
        acknowledgedBy admission behaviour = []

/--
After the first doubt nothing is raised: the call that decides it returns, the
report holds no connection string, both `close` calls return, and the state is
not named `STARTUP_REJECTED`.
-/
def EndsQuietly (admitted : Admitted) (behaviour : Behaviour) (count : Nat) :
    Prop :=
  ∃ stop,
    EndsWith admitted behaviour count admitted.signed[count]? (.ok stop) ∧
      (∃ report,
        acceptancePayload admitted (admitted.signed.take count)
            (stop.state admitted) stop.result = .ok report) ∧
      behaviour.busClose = .ok () ∧
      behaviour.poolClose = .ok () ∧
      stop.state admitted ≠ "STARTUP_REJECTED"

/-- The members of a terminal result, in the order of the source. -/
theorem keys_terminalEntries (terminal : Option DrainResult) :
    ((terminalEntries terminal).map Prod.fst).Sublist
      ["terminal_state", "rejection", "unknown_quarantined",
        "failure_kind"] := by
  rcases terminal with _ | ⟨state, rejection, unknown, failure⟩
  · exact List.nil_sublist _
  · cases rejection <;> cases unknown <;> cases failure <;>
      simp [terminalEntries]

theorem keys_reportEntries (admitted : Admitted)
    (acknowledged : List PrefixIdentity) (state : String)
    (terminal : Option DrainResult) :
    ((reportEntries admitted acknowledged state terminal).map
      Prod.fst).Nodup := by
  rw [reportEntries, List.map_append]
  refine
    List.Nodup.sublist
      (List.Sublist.append (List.Sublist.refl _)
        (keys_terminalEntries terminal))
      ?_
  show List.Nodup
    ["schema_version", "kind", "classification", "source_lock_sha256",
      "plan_sha256", "database_name", "producer", "topic", "drain_id",
      "inspection_receipt_sha256", "selected_count", "acknowledged_count",
      "acknowledged_identities", "acknowledged_identities_sha256", "state",
      "terminal_state", "rejection", "unknown_quarantined", "failure_kind"]
  decide

/-- What the report says of the acknowledged identities and the state. -/
theorem get_acceptancePayload {admitted : Admitted}
    {acknowledged : List PrefixIdentity} {state : String}
    {terminal : Option DrainResult} {report : Members}
    (made :
      acceptancePayload admitted acknowledged state terminal = .ok report) :
    get report "acknowledged_identities" = identitiesPayload acknowledged ∧
      get report "state" = .text state := by
  simp only [acceptancePayload, bind_eq_ok_iff, refuseIf_eq_ok_iff,
    pure_eq_ok_iff, exists_const] at made
  rcases made with ⟨_, rfl⟩
  have distinct := keys_reportEntries admitted acknowledged state terminal
  constructor
  · refine get_dict_of_mem distinct (List.mem_append_left _ ?_)
    exact List.mem_of_getElem? (i := 12) rfl
  · refine get_dict_of_mem distinct (List.mem_append_left _ ?_)
    exact List.mem_of_getElem? (i := 14) rfl

theorem get_startupRejected (raised : Raised) :
    get (startupRejected raised) "state" = .text "STARTUP_REJECTED" := by
  refine get_dict_of_mem ?_ (List.mem_of_getElem? (i := 3) rfl)
  show List.Nodup
    ["schema_version", "kind", "classification", "state", "error_type"]
  decide

section Main

variable {admitted : Admitted} {behaviour : Behaviour} {count : Nat}

theorem acknowledgedBy_of_connected (connected : behaviour.connect = .ok ()) :
    acknowledgedBy (.ok admitted) behaviour =
      (drainRun admitted behaviour).acknowledged := by
  simp [acknowledgedBy, connected]

theorem acknowledgedBy_of_not_connected {raised : Raised}
    (failed : behaviour.connect = .error raised) :
    acknowledgedBy (.ok admitted) behaviour = [] := by
  simp [acknowledgedBy, failed]

theorem applyPrefix_eq_ok_iff {outcome : Nat × Members} :
    applyPrefix admitted behaviour = .ok outcome ↔
      behaviour.connect = .ok () ∧ behaviour.busClose = .ok () ∧
        behaviour.poolClose = .ok () ∧
        ∃ stop,
          (drainRun admitted behaviour).ending = .ok stop ∧
            reportOf admitted (drainRun admitted behaviour).acknowledged
              stop = .ok outcome := by
  simp only [applyPrefix, bind_eq_ok_iff]
  constructor
  · rintro ⟨⟨⟩, connected, ⟨⟩, bus, ⟨⟩, pool, done⟩
    exact ⟨connected, bus, pool, (bind_eq_ok_iff _ _ _).1 done⟩
  · rintro ⟨connected, bus, pool, done⟩
    exact
      ⟨(), connected, (), bus, (), pool, (bind_eq_ok_iff _ _ _).2 done⟩

theorem reportOf_eq_ok_iff {acknowledged : List PrefixIdentity}
    {stop : Stop} {outcome : Nat × Members} :
    reportOf admitted acknowledged stop = .ok outcome ↔
      outcome.1 = stop.code ∧
        acceptancePayload admitted acknowledged (stop.state admitted)
          stop.result = .ok outcome.2 := by
  rcases outcome with ⟨code, report⟩
  unfold reportOf
  split
  · next made =>
      rw [made]
      simp [eq_comm]
  · next failed =>
      rw [failed]
      simp

/-- What `apply_prefix` returns, with the drained prefix. -/
theorem applyPrefix_eq_ok_of_drains {outcome : Nat × Members}
    (drains :
      Drains admitted behaviour 0 admitted.signed
        (drainRun admitted behaviour) count)
    (connected : behaviour.connect = .ok ()) :
    applyPrefix admitted behaviour = .ok outcome ↔
      behaviour.busClose = .ok () ∧ behaviour.poolClose = .ok () ∧
        ∃ stop,
          EndsWith admitted behaviour count admitted.signed[count]?
              (.ok stop) ∧
            outcome.1 = stop.code ∧
            acceptancePayload admitted (admitted.signed.take count)
              (stop.state admitted) stop.result = .ok outcome.2 := by
  have ends := drains.ends
  rw [Nat.zero_add] at ends
  have ending (stop : Stop) :
      (drainRun admitted behaviour).ending = .ok stop ↔
        EndsWith admitted behaviour count admitted.signed[count]?
          (.ok stop) :=
    ⟨fun same => same ▸ ends, fun other => ends.unique other⟩
  simp only [applyPrefix_eq_ok_iff, reportOf_eq_ok_iff, connected, true_and,
    drains.acknowledged, ending]

/-- What `main` prints where `apply_prefix` raises is a startup rejection. -/
theorem mainApply_of_error {exit : Exit} {raised : Raised}
    (failed : applyPrefix admitted behaviour = .error raised)
    (printed : mainApply (.ok admitted) behaviour = .ok exit) :
    exit.state = .text "STARTUP_REJECTED" := by
  unfold mainApply at printed
  rw [show (Except.ok admitted).bind
      (fun admitted => applyPrefix admitted behaviour) =
        .error raised from failed] at printed
  dsimp only at printed
  split_ifs at printed with known
  cases printed
  exact get_startupRejected raised

theorem mainApply_of_ok {outcome : Nat × Members}
    (done : applyPrefix admitted behaviour = .ok outcome) :
    mainApply (.ok admitted) behaviour = .ok ⟨outcome.1, outcome.2⟩ := by
  unfold mainApply
  rw [show (Except.ok admitted).bind
      (fun admitted => applyPrefix admitted behaviour) =
        .ok outcome from done]

/-- With an acknowledged identity, `main` reports exactly the quiet runs. -/
theorem reportsAcknowledged_iff_endsQuietly
    (doubt : FirstDoubt admitted behaviour count)
    (connected : behaviour.connect = .ok ()) (some : count ≠ 0) :
    ReportsAcknowledged (.ok admitted) behaviour ↔
      EndsQuietly admitted behaviour count := by
  rcases drainRun_drains admitted behaviour with
    ⟨other, otherDoubt, drains⟩
  cases otherDoubt.unique doubt
  have acknowledged :
      acknowledgedBy (.ok admitted) behaviour =
        admitted.signed.take count :=
    (acknowledgedBy_of_connected connected).trans drains.acknowledged
  have notNone : acknowledgedBy (.ok admitted) behaviour ≠ [] := by
    rw [acknowledged, Ne, List.take_eq_nil_iff, not_or]
    refine ⟨some, fun none => ?_⟩
    have within := doubt.within
    rw [none] at within
    exact some (Nat.le_zero.1 within)
  have returns (outcome : Nat × Members) :=
    (applyPrefix_eq_ok_of_drains drains connected :
      applyPrefix admitted behaviour = .ok outcome ↔ _)
  constructor
  · intro reports
    rcases reports.listed notNone with ⟨exit, printed, _, state⟩
    cases done : applyPrefix admitted behaviour with
    | error raised => exact absurd (mainApply_of_error done printed) state
    | ok outcome =>
        rcases (returns outcome).1 done with
          ⟨bus, pool, stop, ends, _, report⟩
        refine ⟨stop, ends, ⟨_, report⟩, bus, pool, fun named => state ?_⟩
        rw [mainApply_of_ok done] at printed
        cases printed
        exact (get_acceptancePayload report).2.trans (congrArg _ named)
  · rintro ⟨stop, ends, ⟨report, made⟩, bus, pool, named⟩
    have done :=
      (returns (stop.code, report)).2 ⟨bus, pool, stop, ends, rfl, made⟩
    have printed := mainApply_of_ok done
    have fields := get_acceptancePayload made
    have state : Exit.state ⟨stop.code, report⟩ ≠
        .text "STARTUP_REJECTED" := by
      rw [Exit.state, fields.2]
      exact fun same => named (Json.text.inj same)
    refine ⟨fun _ => ⟨_, printed, ?_, state⟩, fun exit other _ rejected => ?_⟩
    · rw [acknowledged]
      exact fields.1
    · rw [printed] at other
      cases other
      exact absurd rejected state

/-- Without an acknowledged identity there is nothing to report. -/
theorem reportsAcknowledged_of_nil
    {admission : Except Raised Admitted}
    (none : acknowledgedBy admission behaviour = []) :
    ReportsAcknowledged admission behaviour :=
  ⟨fun some => absurd none some, fun _ _ _ _ => none⟩

/--
`main` reports the acknowledged identities exactly when nothing is raised
after the first of them: once the first doubt is past an acknowledged
identity, the run must end quietly.
-/
theorem reportsAcknowledged_iff
    (admission : Except Raised Admitted) (behaviour : Behaviour) :
    ReportsAcknowledged admission behaviour ↔
      ∀ admitted count,
        admission = .ok admitted → behaviour.connect = .ok () →
          FirstDoubt admitted behaviour count →
            count = 0 ∨ EndsQuietly admitted behaviour count := by
  constructor
  · rintro reports admitted count rfl connected doubt
    by_cases none : count = 0
    · exact .inl none
    · exact
        .inr
          ((reportsAcknowledged_iff_endsQuietly doubt connected none).1
            reports)
  · intro quiet
    cases admission with
    | error raised => exact reportsAcknowledged_of_nil rfl
    | ok admitted =>
        cases connected : behaviour.connect with
        | error raised =>
            exact
              reportsAcknowledged_of_nil
                (acknowledgedBy_of_not_connected connected)
        | ok value =>
            rcases drainRun_drains admitted behaviour with
              ⟨count, doubt, drains⟩
            by_cases none : count = 0
            · refine
                reportsAcknowledged_of_nil
                  ((acknowledgedBy_of_connected connected).trans ?_)
              exact drains.acknowledged.trans (none ▸ List.take_zero)
            · exact
                (reportsAcknowledged_iff_endsQuietly doubt connected
                  none).2
                  ((quiet admitted count rfl connected doubt).resolve_left
                    none)

end Main

/-- An identity of the drained topic. -/
def sampleIdentity (id : Int) (positive : 0 < id) : PrefixIdentity where
  id := id
  producer := "kairos-quant-scouts"
  messageId := "message"
  topic := "kairos.market.closed_bar.v1"
  payloadSha256 :=
    "0000000000000000000000000000000000000000000000000000000000000000"
  publishAttempts := 0
  positive := positive
  producer_nonblank := by decide
  messageId_nonblank := by decide
  topic_nonblank := by decide
  lowercase := by decide
  attempts_nonnegative := le_rfl

/-- Two signed identities under a plan for at most a hundred. -/
def sampleAdmitted : Admitted where
  plan :=
    ⟨"kairos", "kairos-quant-scouts", "kairos.market.closed_bar.v1",
      "drain-1", 100, 30⟩
  signed :=
    [sampleIdentity 1 Int.one_pos, sampleIdentity 2 (by decide)]
  receiptSha256 := ""
  sourceLock := .null
  sha256Json _ := ""
  casefold := id

/-- The first identity is acknowledged; the database fails at the second. -/
def failingSecond : Behaviour where
  connect := .ok ()
  start := 0
  reading _ := 0
  publisher _ := []
  drainExact index :=
    if index = 0 then .ok ⟨"PUBLISH_ACKNOWLEDGED", none, none, none⟩
    else .error ⟨"PostgresError", true⟩
  busClose := .ok ()
  poolClose := .ok ()

/-- One row is published, and `main` prints a startup rejection. -/
theorem reportsAcknowledged_failingSecond :
    ¬ ReportsAcknowledged (.ok sampleAdmitted) failingSecond := by
  intro reports
  have none :=
    reports.rejected ⟨4, startupRejected ⟨"PostgresError", true⟩⟩ rfl rfl
      (get_startupRejected ⟨"PostgresError", true⟩)
  cases none

end KairosDeploy.Drain.PrefixDrain
