import KairosDeploy.Drain.PrefixDrain
import KairosDeploy.Drain.ReceiptRoundTrip

/-!
# A drain stops at the first doubt

`_fresh_prefix_matches` inspects the database once more, and `apply_prefix`
drains the signed identities in order.  A call of `drain_exact` follows only
acknowledged calls and a reading of the clock before the deadline, and what is
reported is the prefix of acknowledged calls.
-/

namespace KairosDeploy.Drain.PrefixDrain

open KairosDeploy.Library.HexDigest
open KairosDeploy.Library.Refusal
open KairosDeploy.Library.JsonValue
open KairosDeploy.Library.Timestamp
open KairosDeploy.Library.DatabaseRow
open KairosDeploy.Drain.SignedReceipt

/-! ## The second inspection -/

/-- The tables that `inspect_database` reads, and the time of its
transaction. -/
structure Database where
  name : String
  migrations : List String
  outbox : List Row
  eventAudit : List Row
  now : Datetime

/-- `published_at IS NULL AND dead_lettered_at IS NULL`. -/
def isOpen (row : Row) : Bool :=
  (row.get "published_at").isNone && (row.get "dead_lettered_at").isNone

/-- `stored <= now()`. -/
def isReached (now : Datetime) (stored : RawValue) : Json :=
  match stored with
  | .time time =>
      match time.instant, now.instant with
      | some reached, some present => .bool (reached ≤ present)
      | _, _ => .null
  | .json _ => .null

/-- The columns that are selected of a row of the outbox. -/
def selected (now : Datetime) (row : Row) : Row := fun name =>
  if name = "lease_clear" then
    some (.json (.bool (row.get "lease_until").isNone))
  else if name = "available" then
    some (.json (isReached now (row.get "available_at")))
  else
    row name

/-- `id`, the primary key. -/
def idColumn (row : Row) : Int :=
  match row.get "id" with
  | .json (.int id) => id
  | _ => 0

section Inspect

variable (library : DrainLibrary) (lock : SourceLock) (plan : DrainPlan)
variable (database : Database)

/-- `WHERE producer=$1 AND published_at IS NULL`. -/
def unpublished : List Row :=
  database.outbox.filter fun row =>
    (row.get "producer").eqJson (.text plan.producer) &&
      (row.get "published_at").isNone

/-- The selected rows: `ORDER BY id LIMIT $2`. -/
def prefixRows : List Row :=
  (((unpublished plan database).mergeSort fun left right =>
      idColumn left ≤ idColumn right).take
    plan.maximumRows.toNat).map
    (selected database.now)

/-- `audit_rows`. -/
def auditsOf (messageId : String) : List Row :=
  if (prefixRows plan database).any fun row =>
      (row.get "message_id").eqJson (.text messageId) then
    database.eventAudit.filter fun row =>
      (row.get "message_id").eqJson (.text messageId)
  else
    []

/-- `count(*) FILTER (WHERE …)`. -/
def countRows (condition : Row → Bool) : Int :=
  (database.outbox.filter condition).length

/-- `counts`. -/
def globalCounts (name : String) : Option Int :=
  match name with
  | "leased" =>
      some
        (countRows database fun row =>
          isOpen row && !(row.get "lease_until").isNone)
  | "ambiguous" =>
      some
        (countRows database fun row =>
          isOpen row && !(row.get "reconciliation_state").isNone &&
            !(row.get "reconciliation_state").eqJson (.text "NONE"))
  | "dead_lettered" =>
      some
        (countRows database fun row =>
          !(row.get "dead_lettered_at").isNone)
  | "producer_pending" =>
      some
        (countRows database fun row =>
          (row.get "producer").eqJson (.text plan.producer) &&
            (row.get "topic").eqJson (.text plan.topic) && isOpen row)
  | _ => none

/-- What `inspect_database` passes to `build_inspection_receipt`. -/
def snapshotOf : DatabaseSnapshot :=
  if database.migrations = lock.requiredMigrations then
    ⟨database.name, database.migrations, prefixRows plan database,
      auditsOf plan database, globalCounts plan database⟩
  else
    ⟨database.name, database.migrations, [], fun _ => [], fun _ => some 0⟩

/-- `inspect_database`. -/
def inspectDatabase (inspectedAt : Datetime) :
    Except DrainFailure Members :=
  buildInspectionReceipt library lock plan (snapshotOf lock plan database)
    inspectedAt

/-- `_fresh_prefix_matches`. -/
def freshPrefixMatches (inspectedAt : Datetime)
    (signed : List PrefixIdentity) : Except DrainFailure Unit := do
  let fresh ← inspectDatabase library lock plan database inspectedAt
  match getMember fresh "inspection" with
  | some (.object inspection) =>
      refuseIf (isText (getMember inspection "result") "ELIGIBLE" = false)
        (.drainInput
          "database no longer satisfies the signed drain preconditions")
  | _ =>
      .error
        (.drainInput
          "database no longer satisfies the signed drain preconditions")
  let identities ← receiptIdentities library fresh
  refuseIf (identities ≠ signed)
    (.drainInput
      "database prefix differs from the signed inspection receipt")

end Inspect

/-! ## Traces -/

/-- The identities for which `drain_exact` is called. -/
def callsOf (events : List Event) : List PrefixIdentity :=
  events.filterMap fun event =>
    match event with
    | .call identity _ => some identity
    | .reading _ => none

/-- The readings of the clock. -/
def readingsOf (events : List Event) : List Int :=
  events.filterMap fun event =>
    match event with
    | .call _ _ => none
    | .reading time => some time

/-- `time.monotonic()` does not go backwards. -/
def Monotonic (events : List Event) : Prop :=
  (readingsOf events).Pairwise (· ≤ ·)

/-- The latest reading before each call is before the deadline. -/
def CallsEarly (limit : Int) : Int → List Event → Prop
  | _, [] => True
  | _, .reading time :: rest => CallsEarly limit time rest
  | latest, .call _ _ :: rest =>
      latest < limit ∧ CallsEarly limit latest rest

theorem CallsEarly.after_reading
    {limit latest time : Int} {before after : List Event}
    (early : CallsEarly limit latest (before ++ .reading time :: after)) :
    CallsEarly limit time after := by
  induction before generalizing latest with
  | nil => exact early
  | cons event rest induction =>
      cases event with
      | reading => exact induction early
      | call => exact induction early.2

/-- After a late reading there is no call. -/
theorem CallsEarly.callsOf_eq_nil
    {limit latest : Int} {events : List Event}
    (early : CallsEarly limit latest events) (late : limit ≤ latest)
    (monotonic : (latest :: readingsOf events).Pairwise (· ≤ ·)) :
    callsOf events = [] := by
  induction events generalizing latest with
  | nil => rfl
  | cons event rest induction =>
      cases event with
      | reading time =>
          have parts := List.pairwise_cons.1 monotonic
          have reached : limit ≤ time :=
            late.trans (parts.1 time List.mem_cons_self)
          exact induction early reached parts.2
      | call identity drainId => exact absurd early.1 (not_lt.2 late)

theorem callsEarly_readings
    {limit latest : Int} {events : List Event}
    (rest : ∀ earlier, CallsEarly limit earlier events) (times : List Int) :
    CallsEarly limit latest (times.map .reading ++ events) := by
  induction times generalizing latest with
  | nil => exact rest latest
  | cons time later induction => exact induction

theorem callsOf_append (before after : List Event) :
    callsOf (before ++ after) = callsOf before ++ callsOf after :=
  List.filterMap_append

theorem callsOf_readings (times : List Int) :
    callsOf (times.map .reading) = [] := by
  induction times with
  | nil => rfl
  | cons time rest induction => exact induction

section Loop

variable {admitted : Admitted} {behaviour : Behaviour}

theorem drainLoop_callsEarly (identities : List PrefixIdentity)
    (index : Nat) (latest : Int) :
    CallsEarly (deadline admitted behaviour) latest
      (drainLoop admitted behaviour index identities).trace := by
  induction identities generalizing index latest with
  | nil => trivial
  | cons identity rest induction =>
      unfold drainLoop
      dsimp only
      split_ifs with late
      · trivial
      · have early := not_le.1 late
        cases drainRowId admitted.plan identity with
        | error failure => trivial
        | ok drainId =>
            have alone :
                CallsEarly (deadline admitted behaviour)
                  (behaviour.reading index)
                  ((behaviour.publisher index).map .reading) := by
              have none :
                  CallsEarly (deadline admitted behaviour)
                    (behaviour.reading index)
                    ((behaviour.publisher index).map .reading ++ []) := by
                apply callsEarly_readings
                intro earlier
                trivial
              rwa [List.append_nil] at none
            cases behaviour.drainExact index with
            | error raised => exact ⟨early, alone⟩
            | ok result =>
                dsimp only
                split_ifs with acknowledged
                · exact
                    ⟨early,
                      callsEarly_readings (induction (index + 1)) _⟩
                · exact ⟨early, alone⟩

/-- The call at an index returns an acknowledgement. -/
def Acknowledged (behaviour : Behaviour) (index : Nat) : Prop :=
  ∃ result,
    behaviour.drainExact index = .ok result ∧
      result.state = "PUBLISH_ACKNOWLEDGED"

/-- The calls go through the list in order, each after an acknowledged
one. -/
def CallsInOrder (behaviour : Behaviour) (index : Nat)
    (identities : List PrefixIdentity) (events : List Event) : Prop :=
  ∃ count,
    count ≤ identities.length ∧ callsOf events = identities.take count ∧
      ∀ earlier, earlier + 1 < count →
        Acknowledged behaviour (index + earlier)

theorem drainLoop_callsInOrder (identities : List PrefixIdentity)
    (index : Nat) :
    CallsInOrder behaviour index identities
      (drainLoop admitted behaviour index identities).trace := by
  induction identities generalizing index with
  | nil => exact ⟨0, le_rfl, rfl, fun _ below => by omega⟩
  | cons identity rest induction =>
      unfold drainLoop
      dsimp only
      split_ifs with late
      · exact ⟨0, Nat.zero_le _, rfl, fun _ below => by omega⟩
      · cases drainRowId admitted.plan identity with
        | error failure =>
            exact ⟨0, Nat.zero_le _, rfl, fun _ below => by omega⟩
        | ok drainId =>
            have one :
                callsOf
                    (.reading (behaviour.reading index) ::
                      .call identity drainId ::
                        (behaviour.publisher index).map .reading) =
                  [identity] :=
              congrArg (identity :: ·) (callsOf_readings _)
            cases returns : behaviour.drainExact index with
            | error raised =>
                exact
                  ⟨1, Nat.succ_le_succ (Nat.zero_le _), one,
                    fun _ below => by omega⟩
            | ok result =>
                dsimp only
                split_ifs with acknowledged
                · rcases induction (index + 1) with
                    ⟨count, within, calls, each⟩
                  refine ⟨count + 1, Nat.succ_le_succ within, ?_, ?_⟩
                  · show callsOf (_ ++ _) = _
                    rw [callsOf_append, one, calls]
                    rfl
                  · intro earlier below
                    cases earlier with
                    | zero => exact ⟨result, returns, acknowledged⟩
                    | succ earlier =>
                        have later := each earlier (by omega)
                        rwa [Nat.add_assoc, Nat.add_comm 1] at later
                · exact
                    ⟨1, Nat.succ_le_succ (Nat.zero_le _), one,
                      fun _ below => by omega⟩

end Loop

/-! ## What the second inspection shows -/

section Fresh

variable {library : DrainLibrary} {lock : SourceLock} {plan : DrainPlan}
variable {database : Database} {inspectedAt : Datetime}
variable {signed : List PrefixIdentity}

/-- The selected columns of an identity are those of the table. -/
theorem hasIdentity_selected_iff
    (now : Datetime) (row : Row) (identity : PrefixIdentity) :
    HasIdentity (selected now row) identity ↔ HasIdentity row identity := by
  constructor
  · intro has
    exact
      ⟨has.id, has.producer, has.messageId, has.topic, has.payloadSha256,
        has.publishAttempts⟩
  · intro has
    exact
      ⟨has.id, has.producer, has.messageId, has.topic, has.payloadSha256,
        has.publishAttempts⟩

/-- The inspected rows are those of the signed identities. -/
structure FreshRows (plan : DrainPlan) (database : Database)
    (signed : List PrefixIdentity) : Prop where
  lists : Lists plan (prefixRows plan database) 0 signed
  nonempty : prefixRows plan database ≠ []

theorem freshRows_of_matches
    (fresh :
      freshPrefixMatches library lock plan database inspectedAt signed =
        .ok ()) :
    FreshRows plan database signed := by
  rcases (bind_eq_ok_iff _ _ _).1 fresh with ⟨receipt, returned, checked⟩
  rcases built_of_buildInspectionReceipt returned with
    ⟨state, identitiesSha256, lockSha256, planSha256, civil, receiptSha256,
      built, _, rfl, _⟩
  rcases
    getMember_inspectionMembers lock plan (snapshotOf lock plan database)
      state identitiesSha256 with
    ⟨result, _, _⟩
  rw [getMember_insertMember_of_ne _ _ (by decide),
    getMember_receiptContent_inspection] at checked
  dsimp only at checked
  rcases (bind_eq_ok_iff _ _ _).1 checked with ⟨_, eligible, rest⟩
  rcases (bind_eq_ok_iff _ _ _).1 rest with ⟨identities, read, same⟩
  rw [refuseIf_eq_ok_iff, not_not] at same
  rw [refuseIf_eq_ok_iff, Bool.not_eq_false, result] at eligible
  have rows :=
    eligibleRows_of_result
      (Json.text.inj ((pyEq_text_iff _ _).1 eligible))
  rcases (receiptIdentities_built_iff built).1 read with ⟨read, _, _⟩
  rcases foldlM_inspectRow built.inspected rows.rowsMatch with
    ⟨_, added, grown, lists⟩
  have fetched :
      (snapshotOf lock plan database).rows = prefixRows plan database := by
    have some := rows.nonempty
    unfold snapshotOf at some ⊢
    split_ifs at some ⊢
    · rfl
    · exact absurd rfl some
  have some := rows.nonempty
  rw [fetched] at lists some
  rw [List.nil_append] at grown
  rw [← same, read, grown]
  exact ⟨lists, some⟩

end Fresh

/-! ## The drain -/

/-- `drain_exact` does not use the runner's own label. -/
def LabelsApart (behaviour : Behaviour) : Prop :=
  ∀ index result,
    behaviour.drainExact index = .ok result →
      result.state ≠ "DRAINED_EMPTY"

/-- The loop meets the deadline, or the claim is rejected, at an index. -/
def StopsEarly (admitted : Admitted) (behaviour : Behaviour) (index : Nat) :
    Prop :=
  deadline admitted behaviour ≤ behaviour.reading index ∨
    ∃ result,
      behaviour.drainExact index = .ok result ∧
        result.state = "CLAIM_REJECTED"

/-- What a report says, where `count` is the first doubt. -/
structure ReportsPrefix (admitted : Admitted) (behaviour : Behaviour)
    (code : Nat) (report : Members) (count : Nat) : Prop where
  doubt : FirstDoubt admitted behaviour count
  acknowledged :
    get report "acknowledged_identities" =
      identitiesPayload (admitted.signed.take count)
  zero : code = 0 ↔ count = admitted.signed.length
  two :
    code = 2 ↔
      count < admitted.signed.length ∧ StopsEarly admitted behaviour count
  other : code = 0 ∨ code = 2 ∨ code = 3

/-- The drain stops at the first doubt and reports what came before it. -/
structure StopsAtFirstDoubt (admitted : Admitted) (behaviour : Behaviour) :
    Prop where
  calls :
    CallsInOrder behaviour 0 admitted.signed
      (drainRun admitted behaviour).trace
  late :
    ∀ before time after,
      (drainRun admitted behaviour).trace =
          before ++ .reading time :: after →
        deadline admitted behaviour ≤ time →
          Monotonic (drainRun admitted behaviour).trace →
            callsOf after = []
  reports :
    ∀ code report, applyPrefix admitted behaviour = .ok (code, report) →
      ∃ count, ReportsPrefix admitted behaviour code report count
  emptied :
    ∀ library lock database inspectedAt,
      freshPrefixMatches library lock admitted.plan database inspectedAt
          admitted.signed = .ok () →
        LabelsApart behaviour →
          ∀ code report,
            applyPrefix admitted behaviour = .ok (code, report) →
              get report "state" = .text "DRAINED_EMPTY" →
                ∃ acknowledged,
                  get report "acknowledged_identities" =
                      identitiesPayload acknowledged ∧
                    ∀ row ∈ unpublished admitted.plan database,
                      ∃ identity ∈ acknowledged, HasIdentity row identity

section Drain

variable {admitted : Admitted} {behaviour : Behaviour} {count code : Nat}
variable {report : Members}

/-- The report of a run that drained up to an index. -/
theorem reportsPrefix_of_drains
    (doubt : FirstDoubt admitted behaviour count)
    (drains :
      Drains admitted behaviour 0 admitted.signed
        (drainRun admitted behaviour) count)
    (done : applyPrefix admitted behaviour = .ok (code, report)) :
    ReportsPrefix admitted behaviour code report count ∧
      ∃ stop,
        EndsWith admitted behaviour count admitted.signed[count]?
            (.ok stop) ∧
          get report "state" = .text (stop.state admitted) := by
  have connected := (applyPrefix_eq_ok_iff.1 done).1
  rcases (applyPrefix_eq_ok_of_drains drains connected).1 done with
    ⟨_, _, stop, ends, codeEq, made⟩
  change code = stop.code at codeEq
  have fields := get_acceptancePayload made
  refine ⟨?_, stop, ends, fields.2⟩
  have below :
      ∀ identity, admitted.signed[count]? = some identity →
        count < admitted.signed.length :=
    fun identity found => (List.getElem?_eq_some_iff.1 found).1
  revert ends
  generalize found : admitted.signed[count]? = upcoming
  intro ends
  cases ends with
  | drained =>
      have all : count = admitted.signed.length :=
        le_antisymm doubt.within (List.getElem?_eq_none_iff.1 found)
      exact
        ⟨doubt, fields.1, iff_of_true codeEq all,
          iff_of_false (by rw [codeEq]; decide)
            fun stopped => absurd all stopped.1.ne,
          .inl codeEq⟩
  | @timeCap identity late =>
      have strict := below identity found
      exact
        ⟨doubt, fields.1,
          iff_of_false (by rw [codeEq]; decide) strict.ne,
          iff_of_true codeEq ⟨strict, .inl late⟩, .inr (.inl codeEq)⟩
  | @terminal identity drainId result early named returns doubtful =>
      have strict := below identity found
      change code = if result.state = "CLAIM_REJECTED" then 2 else 3
        at codeEq
      by_cases rejected : result.state = "CLAIM_REJECTED"
      · rw [if_pos rejected] at codeEq
        exact
          ⟨doubt, fields.1,
            iff_of_false (by rw [codeEq]; decide) strict.ne,
            iff_of_true codeEq
              ⟨strict, .inr ⟨result, returns, rejected⟩⟩,
            .inr (.inl codeEq)⟩
      · rw [if_neg rejected] at codeEq
        refine
          ⟨doubt, fields.1,
            iff_of_false (by rw [codeEq]; decide) strict.ne,
            iff_of_false (by rw [codeEq]; decide) ?_, .inr (.inr codeEq)⟩
        rintro ⟨_, late | ⟨other, same, known⟩⟩
        · exact absurd late (not_le.2 early)
        · rw [returns] at same
          cases same
          exact rejected known

/-- A drain that leaves room under the cap has drained all rows. -/
theorem emptied_of_drained
    {database : Database}
    (fresh : FreshRows admitted.plan database admitted.signed)
    (room :
      (admitted.signed.length : Int) ≠ admitted.plan.maximumRows) :
    ∀ row ∈ unpublished admitted.plan database,
      ∃ identity ∈ admitted.signed, HasIdentity row identity := by
  intro row inside
  have length := fresh.lists.each.length_eq
  have some := List.length_pos_iff.2 fresh.nonempty
  have sorted :=
    (List.mergeSort_perm (unpublished admitted.plan database)
      fun left right => idColumn left ≤ idColumn right).length_eq
  unfold prefixRows at length some
  rw [List.length_map, List.length_take, sorted] at length some
  have all :
      (unpublished admitted.plan database).length ≤
        admitted.plan.maximumRows.toNat := by
    omega
  have selectedRow : selected database.now row ∈
      prefixRows admitted.plan database := by
    refine List.mem_map_of_mem ?_
    rw [List.take_of_length_le (sorted.trans_le all)]
    exact List.mem_mergeSort.2 inside
  rcases fresh.lists.exists_of_mem selectedRow with
    ⟨identity, listed, has⟩
  exact
    ⟨identity, listed, (hasIdentity_selected_iff _ row identity).1 has⟩

end Drain

theorem applyPrefix_stopsAtFirstDoubt (admitted : Admitted)
    (behaviour : Behaviour) : StopsAtFirstDoubt admitted behaviour := by
  rcases drainRun_drains admitted behaviour with ⟨count, doubt, drains⟩
  refine ⟨drainLoop_callsInOrder _ 0, ?_, ?_, ?_⟩
  · intro before time after split late monotonic
    have early :
        CallsEarly (deadline admitted behaviour) 0
          (drainRun admitted behaviour).trace :=
      drainLoop_callsEarly _ 0 0
    rw [split] at early monotonic
    refine early.after_reading.callsOf_eq_nil late ?_
    unfold Monotonic readingsOf at monotonic
    rw [List.filterMap_append] at monotonic
    exact (List.pairwise_append.1 monotonic).2.1
  · exact fun code report done =>
      ⟨count, (reportsPrefix_of_drains doubt drains done).1⟩
  · intro library lock database inspectedAt fresh apart code report done
      labelled
    rcases reportsPrefix_of_drains doubt drains done with
      ⟨reports, stop, ends, state⟩
    refine ⟨admitted.signed.take count, reports.acknowledged, ?_⟩
    rw [state] at labelled
    have named := Json.text.inj labelled
    revert ends
    generalize found : admitted.signed[count]? = upcoming
    intro ends
    cases ends with
    | drained =>
        rw [List.take_of_length_le (List.getElem?_eq_none_iff.1 found)]
        refine emptied_of_drained (freshRows_of_matches fresh) ?_
        intro full
        change (if _ then _ else _) = _ at named
        rw [if_pos full] at named
        exact absurd named (by decide)
    | timeCap =>
        change "TIME_CAP_REACHED" = _ at named
        exact absurd named (by decide)
    | terminal _ _ returns _ => exact absurd named (apart count _ returns)

/-! ## A drain that empties the outbox -/

/-- The stored row of the identity. -/
def storedRow : Row := fun name =>
  if name = "available_at" then
    some (.time ⟨midnight, some utcOffset⟩)
  else
    membersRow
      [("id", .int 1), ("producer", .text "signals"),
        ("message_id", .text "message-1"), ("topic", .text "signals.v1"),
        ("payload_sha256", .text (hexText payloadDigest)),
        ("publish_attempts", .int 0), ("published_at", .null),
        ("dead_lettered_at", .null), ("lease_until", .null),
        ("reconciliation_state", .text "NONE"),
        ("payload", .object rowPayload)]
      name

/-- A database with this row. -/
def storedDatabase : Database where
  name := "kairos"
  migrations := []
  outbox := [storedRow]
  eventAudit := [auditRow]
  now := ⟨midnight, some utcOffset⟩

theorem unpublished_stored :
    unpublished smallPlan storedDatabase = [storedRow] :=
  List.filter_eq_self.2 (by
    simp only [storedDatabase, List.forall_mem_cons, List.not_mem_nil,
      false_implies, implies_true, and_true]
    decide)

theorem prefixRows_stored :
    prefixRows smallPlan storedDatabase =
      [selected storedDatabase.now storedRow] := by
  unfold prefixRows
  rw [unpublished_stored, List.mergeSort_singleton]
  rfl

/-- What the second inspection reads. -/
def storedSnapshot : DatabaseSnapshot :=
  snapshotOf smallLock smallPlan storedDatabase

theorem inspected_stored :
    storedSnapshot.rows.foldlM
        (inspectRow buildLibrary smallPlan storedSnapshot.auditRows)
        ⟨true, true, 0, []⟩ =
      .ok inspectedState := by
  have has :
      HasIdentity (selected storedDatabase.now storedRow)
        inspectedIdentity := by
    constructor <;> rfl
  have matched :
      RowMatches smallPlan 0 (selected storedDatabase.now storedRow)
        inspectedIdentity rowPayload (hexText payloadDigest) := by
    decide +kernel
  have listed :
      (prefixRows smallPlan storedDatabase).any (fun row =>
          (row.get "message_id").eqJson (.text "message-1")) =
        true := by
    rw [prefixRows_stored]
    decide
  have audits :
      auditsOf smallPlan storedDatabase "message-1" = [auditRow] := by
    unfold auditsOf
    rw [if_pos listed]
    refine List.filter_eq_self.2 ?_
    simp only [storedDatabase, List.forall_mem_cons, List.not_mem_nil,
      false_implies, implies_true, and_true]
    decide
  have rows : storedSnapshot.rows = _ := prefixRows_stored
  rw [rows]
  exact inspectRow_matched has rfl matched audits

theorem content_stored :
    receiptContent smallLock smallPlan storedSnapshot inspectedState
        (hexText identitiesDigest) (hexText lockDigest) (hexText planDigest)
        midnight =
      builtContent := by
  have leased : storedSnapshot.count "leased" = oneRow.count "leased" := by
    decide
  have ambiguous :
      storedSnapshot.count "ambiguous" = oneRow.count "ambiguous" := by
    decide
  have dead :
      storedSnapshot.count "dead_lettered" =
        oneRow.count "dead_lettered" := by
    decide
  have pending :
      storedSnapshot.count "producer_pending" =
        oneRow.count "producer_pending" := by
    decide
  have length : storedSnapshot.rows.length = oneRow.rows.length := by
    have rows : storedSnapshot.rows = _ := prefixRows_stored
    rw [rows]
    rfl
  have empty : storedSnapshot.rows.isEmpty = oneRow.rows.isEmpty := by
    have rows : storedSnapshot.rows = _ := prefixRows_stored
    rw [rows]
    rfl
  have name : storedSnapshot.databaseName = oneRow.databaseName := rfl
  have migrations : storedSnapshot.migrations = oneRow.migrations := rfl
  unfold builtContent receiptContent inspectionMembers inspectionResult
    inspectionChecks
  rw [leased, ambiguous, dead, pending, length, empty, name, migrations]

theorem freshPrefixMatches_stored :
    freshPrefixMatches buildLibrary smallLock smallPlan storedDatabase
        ⟨midnight, some utcOffset⟩ [inspectedIdentity] =
      .ok () := by
  have built :
      inspectDatabase buildLibrary smallLock smallPlan storedDatabase
          ⟨midnight, some utcOffset⟩ =
        .ok builtReceipt :=
    builtReceipt_of_content inspected_stored content_stored
  have read :
      receiptIdentities buildLibrary builtReceipt =
        .ok [inspectedIdentity] :=
    (receiptIdentities_built_iff (built_of_inspected inspected_oneRow)).2
      ⟨rfl, List.cons_ne_nil _ _, List.pairwise_singleton _ _⟩
  rcases eligible_builtReceipt with ⟨inspection, found, held⟩
  unfold freshPrefixMatches
  rw [bind_eq_ok_iff]
  refine ⟨_, built, ?_⟩
  rw [found]
  dsimp only
  rw [bind_eq_ok_iff]
  refine ⟨(), ?_, ?_⟩
  · rw [refuseIf_eq_ok_iff, Bool.not_eq_false]
    exact (isText_iff _ _ _).2 held
  · rw [bind_eq_ok_iff]
    refine ⟨_, read, ?_⟩
    rw [refuseIf_eq_ok_iff]
    exact not_not.2 rfl

/-- The signed prefix of the database. -/
def storedAdmitted : Admitted where
  plan := smallPlan
  signed := [inspectedIdentity]
  receiptSha256 := hexText contentDigest
  sourceLock := .object smallLock.document
  sha256Json value := buildLibrary.sha256.hexdigest (textBytes value)
  casefold := id

/-- Every call is acknowledged at once. -/
def acknowledging : Behaviour where
  connect := .ok ()
  start := 0
  reading _ := 0
  publisher _ := []
  drainExact _ := .ok ⟨"PUBLISH_ACKNOWLEDGED", none, none, none⟩
  busClose := .ok ()
  poolClose := .ok ()

/-- The first call takes longer than the plan allows. -/
def slowFirst : Behaviour where
  connect := .ok ()
  start := 0
  reading index := if index = 0 then 0 else 31000000000
  publisher _ := [30500000000]
  drainExact _ := .ok ⟨"PUBLISH_ACKNOWLEDGED", none, none, none⟩
  busClose := .ok ()
  poolClose := .ok ()

theorem labelsApart_acknowledging : LabelsApart acknowledging := by
  intro index result returns
  rw [← Except.ok.inj returns]
  decide

theorem sha256Json_stored
    {value : Json} {digest : Nat} (known : (value, digest) ∈ builtValues) :
    storedAdmitted.sha256Json value = hexText digest :=
  hexdigest_tableDigest
    (nodup_digestsOf apart_builtValues canonical_builtValues)
    (List.mem_map_of_mem known)

theorem acceptancePayload_stored :
    ∃ report,
      acceptancePayload storedAdmitted [inspectedIdentity] "DRAINED_EMPTY"
          none =
        .ok report := by
  have lockHash :
      storedAdmitted.sha256Json storedAdmitted.sourceLock =
        hexText lockDigest :=
    sha256Json_stored (List.mem_cons_of_mem _ List.mem_cons_self)
  have planHash :
      storedAdmitted.sha256Json (.object storedAdmitted.plan.payload) =
        hexText planDigest :=
    sha256Json_stored
      (List.mem_cons_of_mem _ (List.mem_cons_of_mem _ List.mem_cons_self))
  have identitiesHash :
      storedAdmitted.sha256Json (identitiesPayload [inspectedIdentity]) =
        hexText identitiesDigest :=
    sha256Json_stored List.mem_cons_self
  have redacted :
      isRedacted storedAdmitted.casefold
          (.object
            (dict
              (reportEntries storedAdmitted [inspectedIdentity]
                "DRAINED_EMPTY" none))) =
        true := by
    rw [reportEntries, lockHash, planHash, identitiesHash]
    decide +kernel
  refine ⟨_, (bind_eq_ok_iff _ _ _).2 ⟨(), ?_, rfl⟩⟩
  rw [refuseIf_eq_ok_iff, Bool.not_eq_false]
  exact redacted

theorem drains_stored :
    (drainRun storedAdmitted acknowledging).ending = .ok .drained ∧
      (drainRun storedAdmitted acknowledging).acknowledged =
        [inspectedIdentity] := by
  decide +kernel

theorem applyPrefix_stored :
    ∃ report,
      applyPrefix storedAdmitted acknowledging = .ok (0, report) ∧
        get report "state" = .text "DRAINED_EMPTY" := by
  rcases acceptancePayload_stored with ⟨report, made⟩
  rcases drains_stored with ⟨ending, acknowledged⟩
  refine ⟨report, ?_, (get_acceptancePayload made).2⟩
  refine applyPrefix_eq_ok_iff.2 ⟨rfl, rfl, rfl, .drained, ending, ?_⟩
  rw [acknowledged]
  exact reportOf_eq_ok_iff.2 ⟨rfl, made⟩

theorem applyPrefix_stopsAtFirstDoubt_stored :
    freshPrefixMatches buildLibrary smallLock storedAdmitted.plan
          storedDatabase ⟨midnight, some utcOffset⟩ storedAdmitted.signed =
        .ok () ∧
      LabelsApart acknowledging ∧
      (∃ report acknowledged,
        applyPrefix storedAdmitted acknowledging = .ok (0, report) ∧
          get report "state" = .text "DRAINED_EMPTY" ∧
          get report "acknowledged_identities" =
            identitiesPayload acknowledged ∧
          ∀ row ∈ unpublished smallPlan storedDatabase,
            ∃ identity ∈ acknowledged, HasIdentity row identity) ∧
      Monotonic (drainRun sampleAdmitted slowFirst).trace ∧
      ∃ identity drainId,
        (drainRun sampleAdmitted slowFirst).trace =
            [.reading 0, .call identity drainId] ++
              .reading 30500000000 :: [.reading 31000000000] ∧
          callsOf [.reading 31000000000] = [] := by
  have emptied :=
    (applyPrefix_stopsAtFirstDoubt storedAdmitted acknowledging).emptied
  have late := (applyPrefix_stopsAtFirstDoubt sampleAdmitted slowFirst).late
  have monotonic : Monotonic (drainRun sampleAdmitted slowFirst).trace := by
    unfold Monotonic
    decide
  have trace :
      (drainRun sampleAdmitted slowFirst).trace =
        [.reading 0, .call (sampleIdentity 1 Int.one_pos) "drain-1:1"] ++
          .reading 30500000000 :: [.reading 31000000000] := by
    decide
  rcases applyPrefix_stored with ⟨report, done, state⟩
  rcases emptied _ _ _ _ freshPrefixMatches_stored labelsApart_acknowledging _
      _ done state with
    ⟨acknowledged, listed, rows⟩
  exact
    ⟨freshPrefixMatches_stored, labelsApart_acknowledging,
      ⟨report, acknowledged, done, state, listed, rows⟩, monotonic, _, _,
      trace, late _ _ _ trace (by decide) monotonic⟩

end KairosDeploy.Drain.PrefixDrain
