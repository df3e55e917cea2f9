import KairosDeploy.Drain.SignedReceipt

/-!
# The prefix that an inspection lists

If an inspection finds its rows in order, the identities in its receipt are
those of the rows, one for one; and a list of identities is read back from its
own payload exactly if its ids increase.
-/

namespace KairosDeploy.Drain.SignedReceipt

open KairosDeploy.Library.Refusal
open KairosDeploy.Library.JsonValue
open KairosDeploy.Library.JsonText
open KairosDeploy.Library.Timestamp
open KairosDeploy.Library.DatabaseRow

/-! ## The loop over the rows -/

/-- The identity is one of the plan's producer and topic. -/
structure InScope (plan : DrainPlan) (identity : PrefixIdentity) : Prop where
  producer : identity.producer = plan.producer
  topic : identity.topic = plan.topic

/-- The ids increase strictly. -/
def Increasing (identities : List PrefixIdentity) : Prop :=
  identities.Pairwise fun earlier later => earlier.id < later.id

/-- The identities are those of the rows, in order and in scope. -/
structure Lists (plan : DrainPlan) (rows : List Row) (priorId : Int)
    (identities : List PrefixIdentity) : Prop where
  each : List.Forall₂ HasIdentity rows identities
  scope : ∀ identity ∈ identities, InScope plan identity
  above : ∀ identity ∈ identities, priorId < identity.id
  increasing : Increasing identities

/-- Every row is listed. -/
theorem Lists.exists_of_mem
    {plan : DrainPlan} {rows : List Row} {priorId : Int}
    {identities : List PrefixIdentity} {row : Row}
    (lists : Lists plan rows priorId identities) (inside : row ∈ rows) :
    ∃ identity ∈ identities, HasIdentity row identity := by
  rcases List.mem_iff_get.1 inside with ⟨⟨index, within⟩, rfl⟩
  have listed : index < identities.length :=
    lists.each.length_eq ▸ within
  exact
    ⟨identities.get ⟨index, listed⟩, List.get_mem _ _,
      lists.each.get within listed⟩

section

variable {library : DrainLibrary} {lock : SourceLock} {plan : DrainPlan}
variable {auditRows : String → List Row} {state later : BuildState}

/-- A round that leaves `prefix_rows_match` adds the identity of its row. -/
theorem inspectRow_spec {row : Row}
    (inspected : inspectRow library plan auditRows state row = .ok later)
    (kept : later.rowsMatch = true) :
    state.rowsMatch = true ∧
      ∃ identity,
        HasIdentity row identity ∧ InScope plan identity ∧
          state.priorId < identity.id ∧ later.priorId = identity.id ∧
          later.identities = state.identities ++ [identity] := by
  unfold inspectRow at inspected
  split at inspected
  · cases inspected
    cases kept
  · cases inspected
  · rename_i identity payload payloadSha256 read
    rcases (bind_eq_ok_iff _ _ _).1 inspected with ⟨audited, _, done⟩
    cases done
    rcases (Bool.and_eq_true _ _).mp kept with ⟨before, decided⟩
    have conditions := of_decide_eq_true decided
    refine
      ⟨before, identity, ?_, ⟨conditions.2.1, conditions.2.2.1⟩,
        conditions.1, rfl, rfl⟩
    unfold readRow at read
    split at read
    · rename_i known columns
      cases column : payloadColumn library row with
      | error failure =>
          rw [column] at read
          cases read
      | ok value =>
          rw [column] at read
          cases read
          exact (ofColumns_eq_ok_iff row identity).1 columns
    · cases read

theorem foldlM_inspectRow {rows : List Row}
    (inspected :
      rows.foldlM (inspectRow library plan auditRows) state = .ok later)
    (kept : later.rowsMatch = true) :
    state.rowsMatch = true ∧
      ∃ added,
        later.identities = state.identities ++ added ∧
          Lists plan rows state.priorId added := by
  induction rows generalizing state with
  | nil =>
      cases inspected
      exact
        ⟨kept, [], (List.append_nil _).symm,
          ⟨.nil, nofun, nofun, .nil⟩⟩
  | cons row rest induction =>
      rw [List.foldlM_cons, bind_eq_ok_iff] at inspected
      rcases inspected with ⟨between, first, others⟩
      rcases induction others with ⟨matched, added, grown, lists⟩
      rcases inspectRow_spec first matched with
        ⟨before, identity, has, scope, above, prior, one⟩
      rw [prior] at lists
      refine ⟨before, identity :: added, ?_, ?_⟩
      · rw [grown, one, List.append_assoc]
        rfl
      · constructor
        · exact .cons has lists.each
        · exact List.forall_mem_cons.2 ⟨scope, lists.scope⟩
        · exact
            List.forall_mem_cons.2
              ⟨above, fun other inside => above.trans (lists.above _ inside)⟩
        · exact List.pairwise_cons.2 ⟨lists.above, lists.increasing⟩

end

/-! ## Identities read back -/

theorem readIdentity_identityPayload
    (identities : List PrefixIdentity) (identity : PrefixIdentity) :
    readIdentity identities (identityPayload identity) =
      if identity.id ≤
          (identities.getLast?.map PrefixIdentity.id).getD 0 then
        .error
          (.drainInput
            ("inspection receipt prefix identities must be strictly " ++
              "ordered"))
      else
        .ok (identities ++ [identity]) := by
  have read :
      PrefixIdentity.ofColumns (membersRow (identityMembers identity)) =
        .ok identity :=
    (ofColumns_eq_ok_iff _ _).2 (hasIdentity_identityMembers identity)
  rw [identityPayload_eq]
  unfold readIdentity
  dsimp only
  rw [keySet_identityMembers, read, refuseIf, if_neg (not_not.2 rfl)]
  split_ifs with unordered
  · show (refuseIf (identity.id ≤ _) _ >>= fun _ => _) = _
    rw [refuseIf, if_pos unordered]
    rfl
  · show (refuseIf (identity.id ≤ _) _ >>= fun _ => _) = _
    rw [refuseIf, if_neg unordered]
    rfl

/-- The last id of a list that was read, or zero. -/
def lastId (identities : List PrefixIdentity) : Int :=
  (identities.getLast?.map PrefixIdentity.id).getD 0

theorem lastId_append (identities : List PrefixIdentity)
    (identity : PrefixIdentity) :
    lastId (identities ++ [identity]) = identity.id := by
  simp [lastId]

/-- A list of identities is read back exactly if its ids increase. -/
theorem foldlM_readIdentity
    (identities start result : List PrefixIdentity) :
    (identities.map identityPayload).foldlM readIdentity start =
        .ok result ↔
      result = start ++ identities ∧
        (∀ identity ∈ identities, lastId start < identity.id) ∧
        Increasing identities := by
  induction identities generalizing start with
  | nil =>
      rw [List.map_nil, List.foldlM_nil, pure_eq_ok_iff, List.append_nil,
        eq_comm]
      exact
        ⟨fun same => ⟨same, nofun, .nil⟩, fun parts => parts.1⟩
  | cons identity rest induction =>
      rw [List.map_cons, List.foldlM_cons, bind_eq_ok_iff]
      simp only [readIdentity_identityPayload]
      constructor
      · rintro ⟨between, read, others⟩
        split_ifs at read with unordered
        cases read
        rcases (induction _).1 others with ⟨same, above, increasing⟩
        rw [lastId_append] at above
        have first : lastId start < identity.id := not_le.1 unordered
        refine ⟨?_, ?_, List.pairwise_cons.2 ⟨above, increasing⟩⟩
        · rw [same, List.append_assoc]
          rfl
        · exact
            List.forall_mem_cons.2
              ⟨first, fun other inside => first.trans (above other inside)⟩
      · rintro ⟨same, above, increasing⟩
        have parts := List.pairwise_cons.1 increasing
        refine
          ⟨start ++ [identity],
            if_neg (not_le.2 (above identity List.mem_cons_self)), ?_⟩
        refine (induction _).2 ⟨?_, ?_, parts.2⟩
        · rw [same, List.append_assoc]
          rfl
        · rw [lastId_append]
          exact parts.1

theorem identitiesFromJson_eq_ok_iff
    (identities result : List PrefixIdentity) :
    identitiesFromJson (some (identitiesPayload identities)) = .ok result ↔
      result = identities ∧ identities ≠ [] ∧ Increasing identities := by
  cases identities with
  | nil =>
      constructor
      · nofun
      · exact fun parts => absurd rfl parts.2.1
  | cons identity rest =>
      have positive :
          ∀ other ∈ identity :: rest, lastId [] < other.id :=
        fun other _ => other.positive
      refine (foldlM_readIdentity (identity :: rest) [] result).trans ?_
      rw [List.nil_append]
      constructor
      · exact fun parts => ⟨parts.1, List.cons_ne_nil _ _, parts.2.2⟩
      · exact fun parts => ⟨parts.1, positive, parts.2.2⟩

/-! ## An eligible inspection -/

section

variable {library : DrainLibrary} {lock : SourceLock} {plan : DrainPlan}
variable {snapshot : DatabaseSnapshot} {state : BuildState}
variable {inspectedAt : Datetime} {receipt : Members}

theorem inspectionResult_eq_eligible_iff :
    inspectionResult lock plan snapshot state = "ELIGIBLE" ↔
      (inspectionChecks lock plan snapshot state).all Prod.snd = true := by
  unfold inspectionResult
  split_ifs with all empty
  · exact iff_of_true rfl all
  · exact iff_of_false (by decide) all
  · exact iff_of_false (by decide) all

/-- The checks of an eligible inspection that are about its rows. -/
structure EligibleRows (plan : DrainPlan) (snapshot : DatabaseSnapshot)
    (state : BuildState) : Prop where
  nonempty : snapshot.rows ≠ []
  within : (snapshot.rows.length : Int) ≤ plan.maximumRows
  rowsMatch : state.rowsMatch = true

theorem eligibleRows_of_result
    (eligible : inspectionResult lock plan snapshot state = "ELIGIBLE") :
    EligibleRows plan snapshot state := by
  have all := inspectionResult_eq_eligible_iff.1 eligible
  simp only [inspectionChecks, List.all_cons, List.all_nil,
    Bool.and_eq_true, Bool.not_eq_true', List.isEmpty_eq_false_iff,
    decide_eq_true_eq] at all
  rcases all with ⟨_, _, _, _, _, nonempty, within, matched, _⟩
  exact ⟨nonempty, within, matched.1⟩

/-- What `build_inspection_receipt` has computed. -/
structure Built (library : DrainLibrary) (lock : SourceLock)
    (plan : DrainPlan) (snapshot : DatabaseSnapshot)
    (inspectedAt : Datetime) (state : BuildState)
    (identitiesSha256 lockSha256 planSha256 : String) (civil : CivilTime) :
    Prop where
  inspected :
    snapshot.rows.foldlM (inspectRow library plan snapshot.auditRows)
      ⟨true, true, 0, []⟩ = .ok state
  identities_hash :
    sha256Json library (identitiesPayload state.identities) =
      .ok identitiesSha256
  lock_hash : sha256Json library (.object lock.document) = .ok lockSha256
  plan_hash : sha256Json library (.object plan.payload) = .ok planSha256
  civil_eq : astimezoneUtc library inspectedAt = .ok civil

/-- The receipt without its hash. -/
def receiptContent (lock : SourceLock) (plan : DrainPlan)
    (snapshot : DatabaseSnapshot) (state : BuildState)
    (identitiesSha256 lockSha256 planSha256 : String) (civil : CivilTime) :
    Members :=
  dict
    [("schema_version", .int 1),
      ("kind", .text "kairos.offline-outbox-drain-inspection.v1"),
      ("classification", .text "OFFLINE_SIGNED_PREFIX_ONLY"),
      ("source_lock_sha256", .text lockSha256),
      ("source", lock.dependencies),
      ("plan_sha256", .text planSha256),
      ("plan", .object plan.payload),
      ("inspection",
        .object
          (inspectionMembers lock plan snapshot state identitiesSha256)),
      ("inspected_at_utc", .text (zuluText civil))]

/-- A receipt that is built is its content and the hash of its content. -/
theorem built_of_buildInspectionReceipt
    (built :
      buildInspectionReceipt library lock plan snapshot inspectedAt =
        .ok receipt) :
    ∃ state identitiesSha256 lockSha256 planSha256 civil receiptSha256,
      Built library lock plan snapshot inspectedAt state identitiesSha256
          lockSha256 planSha256 civil ∧
        sha256Json library
            (.object
              (receiptContent lock plan snapshot state identitiesSha256
                lockSha256 planSha256 civil)) =
          .ok receiptSha256 ∧
        receipt =
          insertMember "receipt_sha256" (.text receiptSha256)
            (receiptContent lock plan snapshot state identitiesSha256
              lockSha256 planSha256 civil) ∧
        assertReceiptRedacted library receipt = .ok () := by
  simp only [buildInspectionReceipt, inspectionPayload, bind_eq_ok_iff,
    pure_eq_ok_iff] at built
  rcases built with
    ⟨state, inspected, identitiesSha256, identitiesHash, content,
      ⟨lockSha256, lockHash, planSha256, planHash, civil, civilEq, rfl⟩,
      receiptSha256, receiptHash, _, redacted, rfl⟩
  exact
    ⟨state, identitiesSha256, lockSha256, planSha256, civil, receiptSha256,
      ⟨inspected, identitiesHash, lockHash, planHash, civilEq⟩,
      receiptHash, rfl, redacted⟩

theorem getMember_inspectionMembers
    (lock : SourceLock) (plan : DrainPlan) (snapshot : DatabaseSnapshot)
    (state : BuildState) (identitiesSha256 : String) :
    getMember (inspectionMembers lock plan snapshot state identitiesSha256)
        "result" =
      some (.text (inspectionResult lock plan snapshot state)) ∧
    getMember (inspectionMembers lock plan snapshot state identitiesSha256)
        "identities" =
      some (identitiesPayload state.identities) ∧
    getMember (inspectionMembers lock plan snapshot state identitiesSha256)
        "identities_sha256" =
      some (.text identitiesSha256) := by
  unfold inspectionMembers
  refine ⟨?_, ?_, ?_⟩ <;> rw [getMember_dict] <;> rfl

theorem getMember_receiptContent_inspection
    (identitiesSha256 lockSha256 planSha256 : String) (civil : CivilTime) :
    getMember
        (receiptContent lock plan snapshot state identitiesSha256 lockSha256
          planSha256 civil)
        "inspection" =
      some
        (.object
          (inspectionMembers lock plan snapshot state
            identitiesSha256)) := by
  unfold receiptContent
  rw [getMember_dict]
  rfl

/-- The identities of a receipt that was built are read back if they are in
order. -/
theorem receiptIdentities_built_iff
    {identitiesSha256 lockSha256 planSha256 receiptSha256 : String}
    {civil : CivilTime} {identities : List PrefixIdentity}
    (built :
      Built library lock plan snapshot inspectedAt state identitiesSha256
        lockSha256 planSha256 civil) :
    receiptIdentities library
        (insertMember "receipt_sha256" (.text receiptSha256)
          (receiptContent lock plan snapshot state identitiesSha256
            lockSha256 planSha256 civil)) =
        .ok identities ↔
      identities = state.identities ∧ state.identities ≠ [] ∧
        Increasing state.identities := by
  rcases
    getMember_inspectionMembers lock plan snapshot state
      identitiesSha256 with
    ⟨_, listed, hashed⟩
  unfold receiptIdentities
  rw [getMember_insertMember_of_ne _ _ (by decide),
    getMember_receiptContent_inspection]
  dsimp only
  rw [bind_eq_ok_iff, listed, hashed]
  simp only [identitiesFromJson_eq_ok_iff]
  constructor
  · rintro ⟨read, known, done⟩
    rcases (bind_eq_ok_iff _ _ _).1 done with ⟨_, _, rest⟩
    rcases (bind_eq_ok_iff _ _ _).1 rest with ⟨_, _, same⟩
    cases same
    exact known
  · rintro ⟨rfl, nonempty, increasing⟩
    refine ⟨_, ⟨rfl, nonempty, increasing⟩, ?_⟩
    rw [built.identities_hash]
    show (refuseIf _ _ >>= fun _ => _) = _
    rw [bind_eq_ok_iff]
    refine ⟨(), ?_, rfl⟩
    rw [refuseIf_eq_ok_iff, Bool.not_eq_false]
    exact (pyEq_text_iff _ _).2 rfl

end

end KairosDeploy.Drain.SignedReceipt
