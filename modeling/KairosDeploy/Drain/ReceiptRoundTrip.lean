import KairosDeploy.Drain.InspectedPrefix

/-!
# The round trip of a signed receipt

What `build_inspection_receipt` writes as eligible, `validate_apply_receipt`
reads back as the identities of the inspected rows; and whatever else it
accepts is bound to its own hashes, in order, within the cap and in scope.
-/

namespace KairosDeploy.Drain.SignedReceipt

open KairosDeploy.Library.Refusal
open KairosDeploy.Library.PyNumber
open KairosDeploy.Library.JsonValue
open KairosDeploy.Library.JsonText
open KairosDeploy.Library.HexDigest
open KairosDeploy.Library.Timestamp
open KairosDeploy.Library.DatabaseRow

/-! ## What an accepted receipt is -/

/-- The member is this text. -/
def Holds (members : Members) (key text : String) : Prop :=
  getMember members key = some (.text text)

theorem isText_iff (members : Members) (key text : String) :
    isText (getMember members key) text = true ↔
      Holds members key text := by
  unfold isText Holds
  rw [pyEq_text_iff]
  cases getMember members key with
  | none => simp
  | some value => simp

section

variable {library : DrainLibrary} {lock : SourceLock} {plan : DrainPlan}
variable {receipt : Members} {now : Datetime}
variable {identities : List PrefixIdentity}

/-- The members that `check_envelope` has compared. -/
structure Enveloped (library : DrainLibrary) (lock : SourceLock)
    (plan : DrainPlan) (receipt : Members) : Prop where
  own_hash :
    ∃ hash,
      sha256Json library (.object (receiptWithoutHash receipt)) =
          .ok hash ∧
        Holds receipt "receipt_sha256" hash
  redacted : assertReceiptRedacted library receipt = .ok ()
  kind : Holds receipt "kind" "kairos.offline-outbox-drain-inspection.v1"
  classification :
    Holds receipt "classification" "OFFLINE_SIGNED_PREFIX_ONLY"
  lock_hash :
    ∃ hash,
      sha256Json library (.object lock.document) = .ok hash ∧
        Holds receipt "source_lock_sha256" hash
  plan_hash :
    ∃ hash,
      sha256Json library (.object plan.payload) = .ok hash ∧
        Holds receipt "plan_sha256" hash
  plan_eq :
    ((getMember receipt "plan").getD .null).pyEq (.object plan.payload) =
      true
  eligible :
    ∃ inspection,
      getMember receipt "inspection" = some (.object inspection) ∧
        Holds inspection "result" "ELIGIBLE"

theorem eligible_eq_ok_iff (failure : DrainFailure) :
    (match getMember receipt "inspection" with
      | some (.object inspection) =>
          refuseIf
            (isText (getMember inspection "result") "ELIGIBLE" = false)
            failure
      | _ => .error failure) =
        .ok () ↔
      ∃ inspection,
        getMember receipt "inspection" = some (.object inspection) ∧
          Holds inspection "result" "ELIGIBLE" := by
  split
  · rename_i inspection found
    rw [refuseIf_eq_ok_iff, Bool.not_eq_false, isText_iff, found]
    simp
  · rename_i other
    constructor
    · nofun
    · rintro ⟨inspection, found, _⟩
      exact absurd found (other inspection)

theorem checkEnvelope_eq_ok_iff :
    checkEnvelope library lock plan receipt = .ok () ↔
      Enveloped library lock plan receipt := by
  unfold checkEnvelope
  simp only [bind_eq_ok_iff, refuseIf_eq_ok_iff, exists_const, isText_iff,
    not_or, Bool.not_eq_false]
  constructor
  · rintro ⟨ownHash, own, ownHeld, ⟨⟩, redacted, kind, classification,
      lockHash, lockDigest, lockHeld, planHash, planDigest,
      ⟨planHeld, planEq⟩, eligible⟩
    exact
      ⟨⟨ownHash, own, ownHeld⟩, redacted, kind, classification,
        ⟨lockHash, lockDigest, lockHeld⟩, ⟨planHash, planDigest, planHeld⟩,
        planEq, (eligible_eq_ok_iff _).1 eligible⟩
  · rintro ⟨⟨ownHash, own, ownHeld⟩, redacted, kind, classification,
      ⟨lockHash, lockDigest, lockHeld⟩, ⟨planHash, planDigest, planHeld⟩,
      planEq, eligible⟩
    exact
      ⟨ownHash, own, ownHeld, (), redacted, kind, classification, lockHash,
        lockDigest, lockHeld, planHash, planDigest, ⟨planHeld, planEq⟩,
        (eligible_eq_ok_iff _).2 eligible⟩

/-- What `validate_apply_receipt` has established about a receipt. -/
structure Validated (library : DrainLibrary) (lock : SourceLock)
    (plan : DrainPlan) (now : Datetime) (receipt : Members)
    (identities : List PrefixIdentity) : Prop where
  enveloped : Enveloped library lock plan receipt
  identities_eq : receiptIdentities library receipt = .ok identities
  within : (identities.length : Int) ≤ plan.maximumRows
  scope : ∀ identity ∈ identities, InScope plan identity
  age : checkAge library lock receipt now = .ok ()

theorem validateContent_eq_ok_iff (value : Json) :
    validateContent library lock plan now value = .ok identities ↔
      ∃ receipt,
        value = .object receipt ∧
          Validated library lock plan now receipt identities := by
  have inScope (listed : List PrefixIdentity) :
      (¬ listed.any
          (fun identity =>
            identity.producer ≠ plan.producer ||
              identity.topic ≠ plan.topic) =
          true) ↔
        ∀ identity ∈ listed, InScope plan identity := by
    simp only [List.any_eq_true, not_exists, not_and, Bool.or_eq_true,
      decide_eq_true_eq, not_or, not_not]
    exact
      forall₂_congr fun identity _ =>
        ⟨fun both => ⟨both.1, both.2⟩, fun both => ⟨both.1, both.2⟩⟩
  constructor
  · intro validated
    unfold validateContent at validated
    split at validated
    · rename_i receipt
      simp only [bind_eq_ok_iff, refuseIf_eq_ok_iff, exists_const,
        pure_eq_ok_iff, not_lt, inScope] at validated
      rcases validated with
        ⟨_, enveloped, listed, read, within, scope, _, age, rfl⟩
      exact
        ⟨receipt, rfl, checkEnvelope_eq_ok_iff.1 enveloped, read, within,
          scope, age⟩
    · cases validated
  · rintro ⟨receipt, rfl, validated⟩
    unfold validateContent
    simp only [bind_eq_ok_iff, refuseIf_eq_ok_iff, exists_const,
      pure_eq_ok_iff, not_lt, inScope]
    exact
      ⟨(), checkEnvelope_eq_ok_iff.2 validated.enveloped, identities,
        validated.identities_eq, validated.within, validated.scope, (),
        validated.age, rfl⟩

end

/-! ## What is read as the identity list -/

theorem getMember_of_membersRow
    {members : Members} {name : String} {value : Json}
    (stored : (membersRow members).get name = .json value)
    (known : value ≠ .null) : getMember members name = some value := by
  unfold Row.get membersRow at stored
  cases found : getMember members name with
  | none =>
      rw [found] at stored
      exact absurd (RawValue.json.inj stored).symm known
  | some present =>
      rw [found] at stored
      exact congrArg some (RawValue.json.inj stored)

/-- The columns and the keys determine the members. -/
theorem eq_identityMembers
    {members : Members} {identity : PrefixIdentity}
    (sorted : KeysSorted members) (keys : keySet members = identityFields)
    (has : HasIdentity (membersRow members) identity) :
    members = identityMembers identity := by
  have written := hasIdentity_identityMembers identity
  refine eq_of_getMember_eq sorted (keysSorted_dict _) fun key => ?_
  by_cases field : key ∈ identityFields
  · simp only [identityFields, Finset.mem_insert, Finset.mem_singleton]
      at field
    rcases field with rfl | rfl | rfl | rfl | rfl | rfl
    · rw [getMember_of_membersRow has.id nofun,
        getMember_of_membersRow written.id nofun]
    · rw [getMember_of_membersRow has.producer nofun,
        getMember_of_membersRow written.producer nofun]
    · rw [getMember_of_membersRow has.messageId nofun,
        getMember_of_membersRow written.messageId nofun]
    · rw [getMember_of_membersRow has.topic nofun,
        getMember_of_membersRow written.topic nofun]
    · rw [getMember_of_membersRow has.payloadSha256 nofun,
        getMember_of_membersRow written.payloadSha256 nofun]
    · rw [getMember_of_membersRow has.publishAttempts nofun,
        getMember_of_membersRow written.publishAttempts nofun]
  · have apart := field
    rw [← keys] at field
    rw [← keySet_identityMembers identity] at apart
    rw [(getMember_eq_none_iff _ _).2 field,
      (getMember_eq_none_iff _ _).2 apart]

/-- What is read as an identity is the payload of that identity. -/
theorem eq_identityPayload_of_read
    {raw : Json} {before after : List PrefixIdentity}
    (sorted : Sorted raw) (read : readIdentity before raw = .ok after) :
    ∃ identity, raw = identityPayload identity := by
  unfold readIdentity at read
  split at read
  · rename_i members
    simp only [bind_eq_ok_iff, refuseIf_eq_ok_iff, exists_const, not_not,
      pure_eq_ok_iff] at read
    rcases read with ⟨keys, identity, columns, _⟩
    cases sorted with
    | object keysSorted _ =>
        refine ⟨identity, congrArg Json.object ?_⟩
        exact
          eq_identityMembers keysSorted keys
            ((ofColumns_eq_ok_iff _ _).1 columns)
  · cases read

theorem exists_payloads_of_read
    {items : List Json} {before after : List PrefixIdentity}
    (sorted : ∀ item ∈ items, Sorted item)
    (read : items.foldlM readIdentity before = .ok after) :
    ∃ identities : List PrefixIdentity,
      items = identities.map identityPayload := by
  induction items generalizing before with
  | nil => exact ⟨[], rfl⟩
  | cons item rest induction =>
      rw [List.forall_mem_cons] at sorted
      rw [List.foldlM_cons, bind_eq_ok_iff] at read
      rcases read with ⟨between, first, others⟩
      rcases eq_identityPayload_of_read sorted.1 first with
        ⟨identity, rfl⟩
      rcases induction sorted.2 others with ⟨identities, rfl⟩
      exact ⟨identity :: identities, rfl⟩

/-- An identity list that is read is the payload of its identities. -/
theorem identitiesFromJson_of_sorted
    {raw : Json} {identities : List PrefixIdentity} (sorted : Sorted raw)
    (read : identitiesFromJson (some raw) = .ok identities) :
    raw = identitiesPayload identities ∧ Increasing identities := by
  unfold identitiesFromJson at read
  split at read
  · rename_i first rest same
    cases same
    cases sorted with
    | array each =>
        rcases exists_payloads_of_read each read with ⟨listed, payloads⟩
        rw [payloads, foldlM_readIdentity, List.nil_append] at read
        rcases read with ⟨rfl, _, increasing⟩
        exact ⟨congrArg Json.array payloads, increasing⟩
  · cases read

/-- Members of sorted members are sorted. -/
theorem sorted_getMember
    {members : Members} {key : String} {value : Json}
    (sorted : Sorted (.object members))
    (found : getMember members key = some value) : Sorted value := by
  cases sorted with
  | object keys each =>
      exact each (key, value) (((mem_iff_getMember keys key value).2 found))

/-- The inspection of a receipt lists the identities that it authorises. -/
structure Bound (library : DrainLibrary) (receipt : Members)
    (identities : List PrefixIdentity) : Prop where
  listed :
    ∃ inspection hash,
      getMember receipt "inspection" = some (.object inspection) ∧
        Holds inspection "result" "ELIGIBLE" ∧
        getMember inspection "identities" =
          some (identitiesPayload identities) ∧
        sha256Json library (identitiesPayload identities) = .ok hash ∧
        Holds inspection "identities_sha256" hash
  increasing : Increasing identities

theorem bound_of_receiptIdentities
    {library : DrainLibrary} {receipt inspection : Members}
    {identities : List PrefixIdentity} (sorted : Sorted (.object receipt))
    (found : getMember receipt "inspection" = some (.object inspection))
    (eligible : Holds inspection "result" "ELIGIBLE")
    (read : receiptIdentities library receipt = .ok identities) :
    Bound library receipt identities := by
  unfold receiptIdentities at read
  rw [found] at read
  dsimp only at read
  simp only [bind_eq_ok_iff, refuseIf_eq_ok_iff, exists_const,
    Bool.not_eq_false, pure_eq_ok_iff, isText_iff] at read
  rcases read with ⟨_, listed, hash, hashed, held, rfl⟩
  have inner := sorted_getMember sorted found
  cases raw : getMember inspection "identities" with
  | none =>
      rw [raw] at listed
      cases listed
  | some value =>
      rw [raw] at listed
      rcases identitiesFromJson_of_sorted (sorted_getMember inner raw)
        listed with
        ⟨rfl, increasing⟩
      exact ⟨⟨inspection, hash, found, eligible, raw, hashed, held⟩,
        increasing⟩

/-! ## Tampering -/

/-- The two texts that are hashed are one text if their hashes are one. -/
def CollisionFree (library : DrainLibrary) (left right : Json) : Prop :=
  ∀ leftText rightText,
    dumps library.floats left = some leftText →
      dumps library.floats right = some rightText →
        library.sha256.hexdigest (utf8 leftText) =
            library.sha256.hexdigest (utf8 rightText) →
          leftText = rightText

theorem sha256Json_eq_ok_iff
    (library : DrainLibrary) (value : Json) (hash : String) :
    sha256Json library value = .ok hash ↔
      finiteNumbers value = true ∧
        library.sha256.hexdigest
            (utf8 (String.ofList (write library.floats value))) =
          hash := by
  unfold sha256Json dumps
  by_cases finite : finiteNumbers value = true
  · rw [if_pos finite]
    simp [finite]
  · rw [if_neg finite]
    simp [finite]

/-- Under collision freedom one hash is of one value. -/
theorem eq_of_sha256Json
    {library : DrainLibrary} {left right : Json} {hash : String}
    (leftSorted : Sorted left) (rightSorted : Sorted right)
    (free : CollisionFree library left right)
    (leftHash : sha256Json library left = .ok hash)
    (rightHash : sha256Json library right = .ok hash) : left = right := by
  rcases (sha256Json_eq_ok_iff library left hash).1 leftHash with
    ⟨leftFinite, leftDigest⟩
  rcases (sha256Json_eq_ok_iff library right hash).1 rightHash with
    ⟨rightFinite, rightDigest⟩
  have texts :=
    free _ _ (if_pos leftFinite) (if_pos rightFinite)
      (leftDigest.trans rightDigest.symm)
  exact
    write_injective (canonical_of_sorted leftSorted leftFinite)
      (canonical_of_sorted rightSorted rightFinite)
      (String.ofList_injective texts)

theorem sorted_receiptWithoutHash
    {receipt : Members} (sorted : Sorted (.object receipt)) :
    Sorted (.object (receiptWithoutHash receipt)) := by
  cases sorted with
  | object keys each =>
      exact
        .object (keys.sublist List.filter_sublist) fun member inside =>
          each member (List.mem_filter.1 inside).1

theorem getMember_receiptWithoutHash
    {receipt : Members} {key : String} (sorted : Sorted (.object receipt))
    (other : key ≠ "receipt_sha256") :
    getMember (receiptWithoutHash receipt) key = getMember receipt key := by
  have smaller := sorted_receiptWithoutHash sorted
  cases sorted with
  | object keys each =>
      cases smaller with
      | object fewer _ =>
          refine Option.ext fun value => ?_
          rw [← mem_iff_getMember fewer, ← mem_iff_getMember keys]
          unfold receiptWithoutHash
          rw [List.mem_filter]
          exact and_iff_left (decide_eq_true other)

/-- A receipt is its hash and its content. -/
theorem eq_of_receiptWithoutHash
    {left right : Members} (leftSorted : Sorted (.object left))
    (rightSorted : Sorted (.object right))
    (hashes :
      getMember left "receipt_sha256" = getMember right "receipt_sha256")
    (contents : receiptWithoutHash left = receiptWithoutHash right) :
    left = right := by
  have keys :
      ∀ key, getMember left key = getMember right key := by
    intro key
    by_cases same : key = "receipt_sha256"
    · rw [same, hashes]
    · rw [← getMember_receiptWithoutHash leftSorted same, contents,
        getMember_receiptWithoutHash rightSorted same]
  cases leftSorted with
  | object leftKeys _ =>
      cases rightSorted with
      | object rightKeys _ => exact eq_of_getMember_eq leftKeys rightKeys keys

/-- Two receipts under one hash that are both accepted are one receipt. -/
theorem eq_of_enveloped
    {library : DrainLibrary} {lock : SourceLock} {plan : DrainPlan}
    {left right : Members} (leftSorted : Sorted (.object left))
    (rightSorted : Sorted (.object right))
    (free :
      CollisionFree library (.object (receiptWithoutHash left))
        (.object (receiptWithoutHash right)))
    (hashes :
      getMember left "receipt_sha256" = getMember right "receipt_sha256")
    (leftAccepted : Enveloped library lock plan left)
    (rightAccepted : Enveloped library lock plan right) : left = right := by
  rcases leftAccepted.own_hash with ⟨leftHash, leftOwn, leftHeld⟩
  rcases rightAccepted.own_hash with ⟨rightHash, rightOwn, rightHeld⟩
  unfold Holds at leftHeld rightHeld
  rw [leftHeld, rightHeld] at hashes
  cases hashes
  have contents :=
    eq_of_sha256Json (sorted_receiptWithoutHash leftSorted)
      (sorted_receiptWithoutHash rightSorted) free leftOwn rightOwn
  exact
    eq_of_receiptWithoutHash leftSorted rightSorted
      (leftHeld.trans rightHeld.symm) (Json.object.inj contents)

/-! ## Times -/

/-- The instant of an inspection; a naive time is a local one. -/
def inspectionInstant (library : DrainLibrary) (inspectedAt : Datetime) :
    Int :=
  inspectedAt.civil.microseconds -
    (inspectedAt.offset.getD (library.localOffset inspectedAt.civil)).1

theorem microseconds_of_astimezoneUtc
    {library : DrainLibrary} {time : Datetime} {civil : CivilTime}
    (converted : astimezoneUtc library time = .ok civil) :
    civil.microseconds = inspectionInstant library time := by
  unfold astimezoneUtc Datetime.astimezone at converted
  dsimp only at converted
  unfold inspectionInstant
  split at converted
  · rename_i result same
    cases converted
    split_ifs at same with utc
    · cases same
      rw [utc, sub_zero]
    · exact microseconds_of_ofMicroseconds same
  · cases converted

/-- The time that the receipt names is read back. -/
theorem datetimeOf_zuluText (library : DrainLibrary) (civil : CivilTime) :
    datetimeOf library (some (.text (zuluText civil))) = .ok civil := by
  unfold datetimeOf zuluText
  dsimp only
  rw [replace_zulu_isoformat, library.iso.fromisoformat_isoformat]
  rfl

/-- The age of a receipt within its lifetime. -/
theorem ageSeconds_of_between
    {now : Datetime} {inspected : CivilTime} {instant maximum : Int}
    (known : now.instant = some instant)
    (after : inspected.microseconds ≤ instant)
    (before : instant ≤ inspected.microseconds + maximum * 1000000) :
    ∃ age,
      ageSeconds now inspected = .ok age ∧
        pyLt age.comparable (comparableInt 0) = false ∧
        pyLt (comparableInt maximum) age.comparable = false := by
  obtain ⟨elapsed, elapsedEq⟩ :
      ∃ elapsed : Nat, instant - inspected.microseconds = elapsed :=
    ⟨_, (Int.toNat_of_nonneg (by omega)).symm⟩
  obtain ⟨bound, boundEq⟩ : ∃ bound : Nat, maximum = bound :=
    ⟨_, (Int.toNat_of_nonneg (by omega)).symm⟩
  have range : elapsed < 2 ^ 53 * 1000000 := by
    have first := microseconds_bounds inspected
    have second := microseconds_bounds now.civil
    unfold Datetime.instant at known
    rcases Option.map_eq_some_iff.1 known with ⟨offset, _, rfl⟩
    have limits := offset.2
    omega
  have lasts : elapsed ≤ bound * 1000000 := by omega
  have small : 1000000 ≤ 2 ^ 1000 :=
    calc
      1000000 ≤ 2 ^ 20 := by norm_num
      _ ≤ 2 ^ 1000 := Nat.pow_le_pow_right (by norm_num) (by norm_num)
  rcases ofRatio_le (by decide) small range lasts with
    ⟨float, ratio, nonnegative, below⟩
  refine ⟨.finite float, ?_, ?_, ?_⟩
  · unfold ageSeconds
    rw [known]
    dsimp only
    rw [elapsedEq, ratio]
  · refine decide_eq_false (not_lt.2 ?_)
    exact_mod_cast nonnegative
  · refine decide_eq_false (not_lt.2 ?_)
    rw [boundEq]
    exact_mod_cast below

/-! ## The round trip -/

section

variable {library : DrainLibrary} {lock : SourceLock} {plan : DrainPlan}
variable {snapshot : DatabaseSnapshot} {state : BuildState}
variable {identitiesSha256 lockSha256 planSha256 : String}
variable {civil : CivilTime}

theorem sorted_inspectionMembers :
    Sorted
      (.object
        (inspectionMembers lock plan snapshot state identitiesSha256)) := by
  have texts (values : List String) :
      Sorted (.array (values.map .text)) := by
    refine .array fun item inside => ?_
    rcases List.mem_map.1 inside with ⟨text, _, rfl⟩
    exact .text text
  have checks :
      Sorted
        (.object
          (dict
            ((inspectionChecks lock plan snapshot state).map fun check =>
              (check.1, .bool check.2)))) := by
    refine wellFormed_dict fun entry inside => ?_
    rcases List.mem_map.1 inside with ⟨check, _, rfl⟩
    exact .bool check.2
  have identities : Sorted (identitiesPayload state.identities) := by
    refine .array fun item inside => ?_
    rcases List.mem_map.1 inside with ⟨identity, _, rfl⟩
    refine wellFormed_dict ?_
    simp only [List.forall_mem_cons, List.not_mem_nil, false_implies,
      implies_true, and_true]
    exact ⟨.int _, .text _, .text _, .text _, .text _, .int _⟩
  refine wellFormed_dict ?_
  simp only [List.forall_mem_cons, List.not_mem_nil, false_implies,
    implies_true, and_true]
  refine
    ⟨.text _, checks, .text _, texts _, wellFormed_dict ?_, .int _,
      identities, .text _⟩
  simp only [List.forall_mem_cons, List.not_mem_nil, false_implies,
    implies_true, and_true]
  exact ⟨.int _, .int _, .int _, .int _⟩

theorem sorted_payload (plan : DrainPlan) : Sorted (.object plan.payload) := by
  refine wellFormed_dict ?_
  simp only [List.forall_mem_cons, List.not_mem_nil, false_implies,
    implies_true, and_true]
  exact ⟨.int _, .text _, .text _, .text _, .text _, .int _, .int _⟩

theorem sorted_receiptContent :
    Sorted
      (.object
        (receiptContent lock plan snapshot state identitiesSha256 lockSha256
          planSha256 civil)) := by
  refine wellFormed_dict ?_
  simp only [List.forall_mem_cons, List.not_mem_nil, false_implies,
    implies_true, and_true]
  exact
    ⟨.int _, .text _, .text _, .text _,
      sorted_getMember lock.sorted lock.dependencies_eq, .text _,
      sorted_payload plan, sorted_inspectionMembers, .text _⟩

theorem wellFormed_insertMember
    {admits : PyFloat → Prop} {members : Members} {key : String}
    {value : Json} (known : WellFormed admits (.object members))
    (given : WellFormed admits value) :
    WellFormed admits (.object (insertMember key value members)) := by
  cases known with
  | object keys each =>
      refine .object (keysSorted_insertMember keys _ _) ?_
      intro member inside
      rcases mem_insertMember inside with rfl | old
      · exact given
      · exact each member old

/-- A receipt that was built can be written and read. -/
theorem canonical_receipt_of_hash
    {content : Members} {hash : String} (sorted : Sorted (.object content))
    (hashed : sha256Json library (.object content) = .ok hash) :
    Canonical
      (.object (insertMember "receipt_sha256" (.text hash) content)) := by
  have finite := ((sha256Json_eq_ok_iff _ _ _).1 hashed).1
  exact
    wellFormed_insertMember (canonical_of_sorted sorted finite) (.text hash)

theorem receiptWithoutHash_built (hash : String) :
    receiptWithoutHash
        (insertMember "receipt_sha256" (.text hash)
          (receiptContent lock plan snapshot state identitiesSha256
            lockSha256 planSha256 civil)) =
      receiptContent lock plan snapshot state identitiesSha256 lockSha256
        planSha256 civil := by
  refine filter_insertMember _ fun entry inside => ?_
  have listed := mem_dict inside
  simp only [List.mem_cons, List.not_mem_nil, or_false] at listed
  rcases listed with
    rfl | rfl | rfl | rfl | rfl | rfl | rfl | rfl | rfl <;>
    (dsimp only; decide)

/-- An eligible receipt passes all checks of its envelope. -/
theorem enveloped_of_built
    {inspectedAt : Datetime} {hash : String}
    (built :
      Built library lock plan snapshot inspectedAt state identitiesSha256
        lockSha256 planSha256 civil)
    (hashed :
      sha256Json library
          (.object
            (receiptContent lock plan snapshot state identitiesSha256
              lockSha256 planSha256 civil)) =
        .ok hash)
    (redacted :
      assertReceiptRedacted library
          (insertMember "receipt_sha256" (.text hash)
            (receiptContent lock plan snapshot state identitiesSha256
              lockSha256 planSha256 civil)) =
        .ok ())
    (eligible :
      inspectionResult lock plan snapshot state = "ELIGIBLE") :
    Enveloped library lock plan
      (insertMember "receipt_sha256" (.text hash)
        (receiptContent lock plan snapshot state identitiesSha256 lockSha256
          planSha256 civil)) where
  own_hash := by
    refine ⟨hash, ?_, getMember_insertMember_self _ _ _⟩
    rw [receiptWithoutHash_built]
    exact hashed
  redacted := redacted
  kind := by
    unfold Holds receiptContent
    rw [getMember_insertMember_of_ne _ _ (by decide), getMember_dict]
    rfl
  classification := by
    unfold Holds receiptContent
    rw [getMember_insertMember_of_ne _ _ (by decide), getMember_dict]
    rfl
  lock_hash := by
    refine ⟨lockSha256, built.lock_hash, ?_⟩
    unfold Holds receiptContent
    rw [getMember_insertMember_of_ne _ _ (by decide), getMember_dict]
    rfl
  plan_hash := by
    refine ⟨planSha256, built.plan_hash, ?_⟩
    unfold Holds receiptContent
    rw [getMember_insertMember_of_ne _ _ (by decide), getMember_dict]
    rfl
  plan_eq := by
    have found :
        getMember
            (insertMember "receipt_sha256" (.text hash)
              (receiptContent lock plan snapshot state identitiesSha256
                lockSha256 planSha256 civil))
            "plan" =
          some (.object plan.payload) := by
      unfold receiptContent
      rw [getMember_insertMember_of_ne _ _ (by decide), getMember_dict]
      rfl
    rw [found]
    have formed :
        WellFormed (fun _ => False) (.object plan.payload) := by
      refine wellFormed_dict ?_
      simp only [List.forall_mem_cons, List.not_mem_nil, false_implies,
        implies_true, and_true]
      exact ⟨.int _, .text _, .text _, .text _, .text _, .int _, .int _⟩
    exact pyEq_self (fun _ admitted => admitted.elim) formed
  eligible := by
    refine
      ⟨inspectionMembers lock plan snapshot state identitiesSha256, ?_, ?_⟩
    · rw [getMember_insertMember_of_ne _ _ (by decide)]
      exact getMember_receiptContent_inspection _ _ _ _
    · unfold Holds
      rw [(getMember_inspectionMembers lock plan snapshot state
        identitiesSha256).1, eligible]

theorem checkAge_built
    {inspectedAt now : Datetime} {hash : String} {instant : Int}
    (built :
      Built library lock plan snapshot inspectedAt state identitiesSha256
        lockSha256 planSha256 civil)
    (known : now.instant = some instant)
    (after : inspectionInstant library inspectedAt ≤ instant)
    (before :
      instant ≤
        inspectionInstant library inspectedAt +
          lock.maximumReceiptAgeSeconds * 1000000) :
    checkAge library lock
        (insertMember "receipt_sha256" (.text hash)
          (receiptContent lock plan snapshot state identitiesSha256
            lockSha256 planSha256 civil))
        now =
      .ok () := by
  have named :
      getMember
          (insertMember "receipt_sha256" (.text hash)
            (receiptContent lock plan snapshot state identitiesSha256
              lockSha256 planSha256 civil))
          "inspected_at_utc" =
        some (.text (zuluText civil)) := by
    unfold receiptContent
    rw [getMember_insertMember_of_ne _ _ (by decide), getMember_dict]
    rfl
  rw [← microseconds_of_astimezoneUtc built.civil_eq] at after before
  rcases ageSeconds_of_between known after before with
    ⟨age, ageEq, notFuture, notStale⟩
  unfold checkAge
  rw [named, datetimeOf_zuluText]
  simp only [bind_eq_ok_iff, refuseIf_eq_ok_iff]
  exact
    ⟨civil, rfl, age, ageEq, by rw [notFuture, notStale]; decide⟩

end

/-- The receipt's own result. -/
def IsEligible (receipt : Members) : Prop :=
  ∃ inspection,
    getMember receipt "inspection" = some (.object inspection) ∧
      Holds inspection "result" "ELIGIBLE"

/-- The same receipt is read back from its canonical text, and it authorises
the identities of the inspected rows. -/
structure ReadsAsBuilt (library : DrainLibrary) (lock : SourceLock)
    (plan : DrainPlan) (reader : Reader) (rows : List Row)
    (receipt : Members) (fileSha256 : String) (now : Datetime)
    (identities : List PrefixIdentity) : Prop where
  back :
    (dumps library.floats (.object receipt)).bind (loads reader) =
      some (.object receipt)
  validated :
    validateApplyReceipt library lock plan (.object receipt) fileSha256
        fileSha256 now =
      .ok identities
  lists : Lists plan rows 0 identities
  within : (identities.length : Int) ≤ plan.maximumRows

/-- What a receipt is that is accepted. -/
structure Authorises (library : DrainLibrary) (plan : DrainPlan)
    (receipt : Members) (identities : List PrefixIdentity) : Prop where
  own_hash :
    ∃ hash,
      sha256Json library (.object (receiptWithoutHash receipt)) =
          .ok hash ∧
        Holds receipt "receipt_sha256" hash
  bound : Bound library receipt identities
  within : (identities.length : Int) ≤ plan.maximumRows
  scope : ∀ identity ∈ identities, InScope plan identity

/-- Builder and validator agree. -/
structure RoundTrip (library : DrainLibrary) (lock : SourceLock)
    (plan : DrainPlan) : Prop where
  built :
    ∀ snapshot inspectedAt receipt,
      buildInspectionReceipt library lock plan snapshot inspectedAt =
          .ok receipt →
        IsEligible receipt →
          ∀ (reader : Reader) fileSha256 now instant,
            reader.float = library.floats.float →
              isSha256 fileSha256 = true →
                now.instant = some instant →
                  inspectionInstant library inspectedAt ≤ instant →
                    instant ≤
                        inspectionInstant library inspectedAt +
                          lock.maximumReceiptAgeSeconds * 1000000 →
                      ∃ identities,
                        ReadsAsBuilt library lock plan reader snapshot.rows
                          receipt fileSha256 now identities
  accepted :
    ∀ (value : Json) expected actual now identities,
      Sorted value →
        validateApplyReceipt library lock plan value expected actual now =
            .ok identities →
          ∃ receipt,
            value = .object receipt ∧
              Authorises library plan receipt identities
  unchanged :
    ∀ (receipt changed : Members) expected actual now identities,
      Sorted (.object receipt) → Sorted (.object changed) →
        CollisionFree library (.object (receiptWithoutHash receipt))
            (.object (receiptWithoutHash changed)) →
          getMember receipt "receipt_sha256" =
              getMember changed "receipt_sha256" →
            receipt ≠ changed →
              validateApplyReceipt library lock plan (.object receipt)
                  expected actual now =
                  .ok identities →
                ∀ otherExpected otherActual later others,
                  validateApplyReceipt library lock plan (.object changed)
                      otherExpected otherActual later ≠
                    .ok others

theorem validated_of_validateApplyReceipt
    {library : DrainLibrary} {lock : SourceLock} {plan : DrainPlan}
    {value : Json} {expected actual : String} {now : Datetime}
    {identities : List PrefixIdentity}
    (accepted :
      validateApplyReceipt library lock plan value expected actual now =
        .ok identities) :
    ∃ receipt,
      value = .object receipt ∧
        Validated library lock plan now receipt identities := by
  rcases (bind_eq_ok_iff _ _ _).1 accepted with ⟨_, _, content⟩
  exact (validateContent_eq_ok_iff value).1 content

theorem inspectionResult_of_eligible
    {lock : SourceLock} {plan : DrainPlan} {snapshot : DatabaseSnapshot}
    {state : BuildState}
    {identitiesSha256 lockSha256 planSha256 hash : String}
    {civil : CivilTime}
    (eligible :
      IsEligible
        (insertMember "receipt_sha256" (.text hash)
          (receiptContent lock plan snapshot state identitiesSha256
            lockSha256 planSha256 civil))) :
    inspectionResult lock plan snapshot state = "ELIGIBLE" := by
  rcases eligible with ⟨inspection, found, held⟩
  rw [getMember_insertMember_of_ne _ _ (by decide),
    getMember_receiptContent_inspection] at found
  cases found
  unfold Holds at held
  rw [(getMember_inspectionMembers lock plan snapshot state
    identitiesSha256).1] at held
  exact Json.text.inj (Option.some.inj held)

theorem receipt_roundTrip (library : DrainLibrary) (lock : SourceLock)
    (plan : DrainPlan) : RoundTrip library lock plan := by
  refine ⟨?_, ?_, ?_⟩
  · intro snapshot inspectedAt receipt returned eligible reader fileSha256
      now instant agrees digest known after before
    rcases built_of_buildInspectionReceipt returned with
      ⟨state, identitiesSha256, lockSha256, planSha256, civil, hash, built,
        hashed, rfl, redacted⟩
    have result := inspectionResult_of_eligible eligible
    have rows := eligibleRows_of_result result
    rcases foldlM_inspectRow built.inspected rows.rowsMatch with
      ⟨_, identities, grown, lists⟩
    rw [List.nil_append] at grown
    have within : (identities.length : Int) ≤ plan.maximumRows := by
      rw [← lists.each.length_eq]
      exact rows.within
    have nonempty : identities ≠ [] := by
      intro none
      have length := lists.each.length_eq
      rw [none] at length
      exact rows.nonempty (List.eq_nil_of_length_eq_zero length)
    have canonical := canonical_receipt_of_hash sorted_receiptContent hashed
    refine ⟨identities, ?_, ?_, lists, within⟩
    · unfold dumps
      rw [if_pos (finiteNumbers_of_canonical canonical), Option.bind_some]
      exact loads_write agrees canonical
    · refine (bind_eq_ok_iff _ _ _).2 ⟨⟨⟩, ?_, ?_⟩
      · unfold checkFileHashes
        simp [digest]
      · refine (validateContent_eq_ok_iff _).2 ⟨_, rfl, ?_⟩
        refine
          ⟨enveloped_of_built built hashed redacted result, ?_, within,
            lists.scope, checkAge_built built known after before⟩
        exact
          (receiptIdentities_built_iff built).2
            ⟨grown.symm, grown ▸ nonempty, grown ▸ lists.increasing⟩
  · intro value expected actual now identities sorted accepted
    rcases validated_of_validateApplyReceipt accepted with
      ⟨receipt, rfl, validated⟩
    rcases validated.enveloped.eligible with ⟨inspection, found, result⟩
    exact
      ⟨receipt, rfl, validated.enveloped.own_hash,
        bound_of_receiptIdentities sorted found result
          validated.identities_eq,
        validated.within, validated.scope⟩
  · intro receipt changed expected actual now identities receiptSorted
      changedSorted free hashes apart accepted otherExpected otherActual
      later others alsoAccepted
    rcases validated_of_validateApplyReceipt accepted with
      ⟨_, same, validated⟩
    cases same
    rcases validated_of_validateApplyReceipt alsoAccepted with
      ⟨_, same, otherValidated⟩
    cases same
    exact
      apart
        (eq_of_enveloped receiptSorted changedSorted free hashes
          validated.enveloped otherValidated.enveloped)

/-! ## A receipt for one row -/

/-- Members that stand in the order of their keys. -/
theorem wellFormed_object
    {admits : PyFloat → Prop} {members : Members}
    (keys : (members.map Prod.fst).IsChain (· < ·))
    (values : ∀ member ∈ members, WellFormed admits member.2) :
    WellFormed admits (.object members) :=
  .object (List.pairwise_map.1 (List.isChain_iff_pairwise.1 keys)) values

/-- The first minute of 2024. -/
def midnight : CivilTime where
  year := 2024
  month := 1
  day := 1
  hour := 0
  minute := 0
  second := 0
  microsecond := 0
  valid := by decide

/-- The profile of a small source lock. -/
def smallProfile : Members :=
  [("apply_confirmation", .text "APPLY"),
    ("maximum_receipt_age_seconds", .int 900),
    ("required_migrations", .array [])]

/-- A source lock with the members that are read. -/
def smallLock : SourceLock where
  document := [("dependencies", .object []), ("profile", .object smallProfile)]
  dependencies := .object []
  profile := smallProfile
  requiredMigrations := []
  maximumReceiptAgeSeconds := 900
  sorted := by
    refine wellFormed_object (by decide) ?_
    simp only [List.forall_mem_cons, List.not_mem_nil, false_implies,
      implies_true, and_true]
    refine ⟨wellFormed_object (by decide) (by simp), ?_⟩
    refine wellFormed_object (by decide) ?_
    simp only [smallProfile, List.forall_mem_cons, List.not_mem_nil,
      false_implies, implies_true, and_true]
    exact ⟨.text _, .int _, .array (by simp)⟩
  dependencies_eq := rfl
  profile_eq := rfl
  requiredMigrations_eq := rfl
  maximumReceiptAgeSeconds_eq := rfl

/-- A plan for at most two rows. -/
def smallPlan : DrainPlan :=
  ⟨"kairos", "signals", "signals.v1", "drain-1", 2, 60⟩

/-- The digest of the source lock. -/
def lockDigest : Nat :=
  0x80c0c414b4b11661be051224c1fa04742582112991b713e9e27f855cc547fbaa

/-- The digest of the plan. -/
def planDigest : Nat :=
  0x8f6395cff314d5a6e46fffbf272e061a5bf504bee0af5b72654bdfeb99c33aac

/-- The canonical bytes of a value without floats. -/
@[irreducible] def textBytes (value : Json) : List UInt8 :=
  utf8 (String.ofList (write exponentFloats value))

theorem textBytes_injective
    {left right : Json} (leftCanonical : Canonical left)
    (rightCanonical : Canonical right)
    (same : textBytes left = textBytes right) : left = right := by
  unfold textBytes at same
  exact
    write_injective leftCanonical rightCanonical
      (String.ofList_injective (utf8_injective same))

/-- `sha256` on the texts of these values. -/
def digestsOf (values : List (Json × Nat)) : List (List UInt8 × Nat) :=
  values.map fun entry => (textBytes entry.1, entry.2)

section

variable {values : List (Json × Nat)}

/-- Different values have different texts. -/
theorem nodup_digestsOf
    (apart : (values.map Prod.fst).Nodup)
    (canonical : ∀ entry ∈ values, Canonical entry.1) :
    ((digestsOf values).map Prod.fst).Nodup := by
  have texts :
      (digestsOf values).map Prod.fst =
        (values.map Prod.fst).map textBytes := by
    simp [digestsOf]
  rw [texts]
  refine apart.map_on fun left leftKnown right rightKnown => ?_
  rcases List.mem_map.1 leftKnown with ⟨leftEntry, leftListed, rfl⟩
  rcases List.mem_map.1 rightKnown with ⟨rightEntry, rightListed, rfl⟩
  exact
    textBytes_injective (canonical leftEntry leftListed)
      (canonical rightEntry rightListed)

theorem sha256Json_digestsOf
    {library : DrainLibrary} (floats : library.floats = exponentFloats)
    (sha256 : library.sha256 = tableDigest (digestsOf values))
    (apart : (values.map Prod.fst).Nodup)
    (canonical : ∀ entry ∈ values, Canonical entry.1)
    {value : Json} {digest : Nat} (known : (value, digest) ∈ values) :
    sha256Json library value = .ok (hexText digest) := by
  have listed : (textBytes value, digest) ∈ digestsOf values :=
    List.mem_map_of_mem known
  have hashed :=
    hexdigest_tableDigest (nodup_digestsOf apart canonical) listed
  have finite := finiteNumbers_of_canonical (canonical _ known)
  refine (sha256Json_eq_ok_iff library value _).2 ⟨finite, ?_⟩
  rw [floats, sha256, ← hashed, textBytes]

/-- A value that is not in the table has a text and a digest of its own. -/
theorem collisionFree_digestsOf
    {library : DrainLibrary} (floats : library.floats = exponentFloats)
    (sha256 : library.sha256 = tableDigest (digestsOf values))
    (apart : (values.map Prod.fst).Nodup)
    (canonical : ∀ entry ∈ values, Canonical entry.1)
    (digests : (0 :: values.map Prod.snd).Nodup)
    (small : ∀ digest ∈ values.map Prod.snd, digest < 16 ^ 64)
    {known other : Json} (listed : known ∈ values.map Prod.fst)
    (foreign : other ∉ values.map Prod.fst)
    (otherCanonical : Canonical other) :
    CollisionFree library known other := by
  have seconds :
      (digestsOf values).map Prod.snd = values.map Prod.snd := by
    simp [digestsOf]
  have texts :
      (digestsOf values).map Prod.fst =
        (values.map Prod.fst).map textBytes := by
    simp [digestsOf]
  have absent : textBytes other ∉ (digestsOf values).map Prod.fst := by
    rw [texts, List.mem_map]
    rintro ⟨value, inside, same⟩
    rcases List.mem_map.1 inside with ⟨entry, entryListed, rfl⟩
    exact
      foreign
        (textBytes_injective (canonical entry entryListed) otherCanonical
          same ▸ inside)
  have present : textBytes known ∈ (digestsOf values).map Prod.fst := by
    rw [texts]
    exact List.mem_map_of_mem listed
  have bytes :
      ∀ {value : Json} {text : String},
        dumps library.floats value = some text →
          utf8 text = textBytes value := by
    intro value text dumped
    unfold dumps at dumped
    split at dumped
    · rw [← Option.some.inj dumped, floats, textBytes]
    · cases dumped
  intro leftText rightText left right same
  apply utf8_injective
  rw [sha256] at same
  refine
    eq_of_hexdigest_tableDigest (nodup_digestsOf apart canonical)
      (seconds.symm ▸ digests) (seconds.symm ▸ small) absent
      (Or.inr ?_) (Or.inl (bytes right)) same
  rw [bytes left]
  exact present

end

/-- The number of members, which tells the hashed values apart. -/
def memberCount : Json → Nat
  | .object members => members.length
  | _ => 0

theorem canonical_lock : Canonical (.object smallLock.document) := by
  refine wellFormed_object (by decide) ?_
  simp only [smallLock, List.forall_mem_cons, List.not_mem_nil,
    false_implies, implies_true, and_true]
  refine ⟨wellFormed_object (by decide) (by simp), ?_⟩
  refine wellFormed_object (by decide) ?_
  simp only [smallProfile, List.forall_mem_cons, List.not_mem_nil,
    false_implies, implies_true, and_true]
  exact ⟨.text _, .int _, .array (by simp)⟩

/-- The payload of the row. -/
def rowPayload : Members :=
  [("message_id", .text "message-1")]

/-- The digest of the payload. -/
def payloadDigest : Nat :=
  0x75ce1db95ea94aac4160aa12e999b4a5a0ebc9183bd2969fd5b9578d4847289e

/-- A row that an inspection admits. -/
def inspectedRow : Row :=
  membersRow
    [("id", .int 1), ("producer", .text "signals"),
      ("message_id", .text "message-1"), ("topic", .text "signals.v1"),
      ("payload_sha256", .text (hexText payloadDigest)),
      ("publish_attempts", .int 0), ("published_at", .null),
      ("dead_lettered_at", .null), ("lease_clear", .bool true),
      ("available", .bool true), ("reconciliation_state", .text "NONE"),
      ("payload", .object rowPayload)]

/-- The audit row of its message. -/
def auditRow : Row :=
  membersRow
    [("message_id", .text "message-1"), ("topic", .text "signals.v1"),
      ("payload", .object rowPayload)]

/-- A database with this row. -/
def oneRow : DatabaseSnapshot where
  databaseName := "kairos"
  migrations := []
  rows := [inspectedRow]
  auditRows _ := [auditRow]
  globalCounts name := if name = "producer_pending" then some 1 else none

/-- The identity of the row. -/
def inspectedIdentity : PrefixIdentity where
  id := 1
  producer := "signals"
  messageId := "message-1"
  topic := "signals.v1"
  payloadSha256 := hexText payloadDigest
  publishAttempts := 0
  positive := by decide
  producer_nonblank := by decide
  messageId_nonblank := by decide
  topic_nonblank := by decide
  lowercase := isSha256_hexText payloadDigest
  attempts_nonnegative := by decide

/-- The variables of the loop at its end. -/
def inspectedState : BuildState :=
  ⟨true, true, 1, [inspectedIdentity]⟩

/-- The digest of the identities. -/
def identitiesDigest : Nat :=
  0x6f65485331147b8707b5b7f5dc2995f3074c4c4a31cb5e6c5093b2141848e414

/-- The digest of the receipt's content. -/
def contentDigest : Nat :=
  0x46b8676a4bbe3bfacaef8bf1099601764d1209c97722d19b2087bdc1d860e738

/-- The digest of the receipt file. -/
def fileDigest : Nat :=
  0xde1d2f757f60b325fa7f638d6b5991aca1daa51572d48ad0cbbdb2ed13ebcfb9

/-- The receipt without its hash. -/
def builtContent : Members :=
  receiptContent smallLock smallPlan oneRow inspectedState
    (hexText identitiesDigest) (hexText lockDigest) (hexText planDigest)
    midnight

/-- The receipt. -/
def builtReceipt : Members :=
  insertMember "receipt_sha256" (.text (hexText contentDigest)) builtContent

/-- The values that are hashed. -/
def builtValues : List (Json × Nat) :=
  [(identitiesPayload [inspectedIdentity], identitiesDigest),
    (.object smallLock.document, lockDigest),
    (.object smallPlan.payload, planDigest),
    (.object builtContent, contentDigest)]

/-- Libraries that agree with the real ones on what the builder passes to
them. -/
def buildLibrary : DrainLibrary where
  floats := exponentFloats
  sha256 := tableDigest (digestsOf builtValues)
  iso := isoReader
  casefold := id
  localOffset := fun _ => utcOffset
  canonicalOutboxPayload
    | .json (.object payload) => .ok (payload, hexText payloadDigest)
    | _ => .error .rejected

theorem canonical_builtValues :
    ∀ entry ∈ builtValues, Canonical entry.1 := by
  simp only [builtValues, List.forall_mem_cons, List.not_mem_nil,
    false_implies, implies_true, and_true]
  refine ⟨?_, canonical_lock, ?_, ?_⟩
  · refine .array fun item inside => ?_
    rw [List.mem_singleton.1 inside]
    refine wellFormed_dict ?_
    simp only [List.forall_mem_cons, List.not_mem_nil, false_implies,
      implies_true, and_true]
    exact ⟨.int _, .text _, .text _, .text _, .text _, .int _⟩
  · exact canonical_of_sorted (sorted_payload smallPlan) (by decide)
  · exact canonical_of_sorted sorted_receiptContent (by decide)

theorem apart_builtValues : (builtValues.map Prod.fst).Nodup :=
  List.Nodup.of_map memberCount (by decide)

/-- The round of a row with this identity and this payload. -/
theorem inspectRow_matched
    {row : Row} {auditRows : String → List Row}
    (has : HasIdentity row inspectedIdentity)
    (payload : row "payload" = some (.json (.object rowPayload)))
    (matched :
      RowMatches smallPlan 0 row inspectedIdentity rowPayload
        (hexText payloadDigest))
    (audits : auditRows "message-1" = [auditRow]) :
    [row].foldlM (inspectRow buildLibrary smallPlan auditRows)
        ⟨true, true, 0, []⟩ =
      .ok inspectedState := by
  have read :
      readRow buildLibrary row =
        .ok (inspectedIdentity, rowPayload, hexText payloadDigest) := by
    unfold readRow payloadColumn
    rw [(ofColumns_eq_ok_iff _ _).2 has, payload]
    rfl
  have audited :
      auditMatches buildLibrary [auditRow] inspectedIdentity rowPayload =
        .ok true := by
    decide +kernel
  show
    (inspectRow buildLibrary smallPlan auditRows ⟨true, true, 0, []⟩ row >>=
      pure) = _
  rw [bind_pure]
  unfold inspectRow
  rw [read]
  show
    (auditMatches buildLibrary (auditRows "message-1") _ _ >>= fun _ => _) =
      _
  rw [audits, audited]
  simp only [decide_eq_true matched]
  rfl

theorem inspected_oneRow :
    oneRow.rows.foldlM (inspectRow buildLibrary smallPlan oneRow.auditRows)
        ⟨true, true, 0, []⟩ =
      .ok inspectedState := by
  refine inspectRow_matched ?_ rfl (by decide +kernel) rfl
  constructor <;> rfl

/-- The hashes do not depend on the rest of the database. -/
theorem built_of_inspected
    {snapshot : DatabaseSnapshot}
    (inspected :
      snapshot.rows.foldlM
          (inspectRow buildLibrary smallPlan snapshot.auditRows)
          ⟨true, true, 0, []⟩ =
        .ok inspectedState) :
    Built buildLibrary smallLock smallPlan snapshot
      ⟨midnight, some utcOffset⟩ inspectedState (hexText identitiesDigest)
      (hexText lockDigest) (hexText planDigest) midnight where
  inspected := inspected
  identities_hash :=
    sha256Json_digestsOf rfl rfl apart_builtValues canonical_builtValues
      List.mem_cons_self
  lock_hash :=
    sha256Json_digestsOf rfl rfl apart_builtValues canonical_builtValues
      (List.mem_cons_of_mem _ List.mem_cons_self)
  plan_hash :=
    sha256Json_digestsOf rfl rfl apart_builtValues canonical_builtValues
      (List.mem_cons_of_mem _
        (List.mem_cons_of_mem _ List.mem_cons_self))
  civil_eq := rfl

theorem hashed_builtContent :
    sha256Json buildLibrary (.object builtContent) =
      .ok (hexText contentDigest) :=
  sha256Json_digestsOf rfl rfl apart_builtValues canonical_builtValues
    (List.mem_of_getLast? rfl)

theorem eligible_builtReceipt : IsEligible builtReceipt := by
  have result :
      inspectionResult smallLock smallPlan oneRow inspectedState =
        "ELIGIBLE" := by
    rw [inspectionResult_eq_eligible_iff]
    decide
  refine
    ⟨inspectionMembers smallLock smallPlan oneRow inspectedState
      (hexText identitiesDigest), ?_, ?_⟩
  · unfold builtReceipt builtContent
    rw [getMember_insertMember_of_ne _ _ (by decide),
      getMember_receiptContent_inspection]
  · unfold Holds
    rw [(getMember_inspectionMembers _ _ _ _ _).1, result]

theorem redacted_builtReceipt :
    assertReceiptRedacted buildLibrary builtReceipt = .ok () := by
  rw [assertReceiptRedacted, refuseIf_eq_ok_iff]
  decide +kernel

/-- Whatever database leads to this content, the receipt is the same. -/
theorem builtReceipt_of_content
    {snapshot : DatabaseSnapshot}
    (inspected :
      snapshot.rows.foldlM
          (inspectRow buildLibrary smallPlan snapshot.auditRows)
          ⟨true, true, 0, []⟩ =
        .ok inspectedState)
    (content :
      receiptContent smallLock smallPlan snapshot inspectedState
          (hexText identitiesDigest) (hexText lockDigest)
          (hexText planDigest) midnight =
        builtContent) :
    buildInspectionReceipt buildLibrary smallLock smallPlan snapshot
        ⟨midnight, some utcOffset⟩ =
      .ok builtReceipt := by
  have built := built_of_inspected inspected
  have payload :
      inspectionPayload buildLibrary smallLock smallPlan
          (inspectionMembers smallLock smallPlan snapshot inspectedState
            (hexText identitiesDigest))
          ⟨midnight, some utcOffset⟩ =
        .ok builtContent := by
    rw [← content]
    simp only [inspectionPayload, bind_eq_ok_iff, pure_eq_ok_iff]
    exact
      ⟨_, built.lock_hash, _, built.plan_hash, _, built.civil_eq, rfl⟩
  simp only [buildInspectionReceipt, bind_eq_ok_iff, pure_eq_ok_iff]
  exact
    ⟨_, inspected, _, built.identities_hash, _, payload, _,
      hashed_builtContent, _, redacted_builtReceipt, rfl⟩

/-- The receipt with another time in it. -/
def changedReceipt : Members :=
  insertMember "inspected_at_utc" (.text "2024-01-02T00:00:00Z") builtReceipt

theorem sorted_builtReceipt : Sorted (.object builtReceipt) :=
  wellFormed_insertMember sorted_receiptContent (.text _)

theorem sorted_changedReceipt : Sorted (.object changedReceipt) :=
  wellFormed_insertMember sorted_builtReceipt (.text _)

theorem getMember_changedReceipt
    {key : String} (other : key ≠ "inspected_at_utc") :
    getMember changedReceipt key = getMember builtReceipt key :=
  getMember_insertMember_of_ne _ _ other

theorem getMember_builtContent :
    getMember builtContent "inspected_at_utc" =
      some (.text "2024-01-01T00:00:00Z") := by
  have time : zuluText midnight = "2024-01-01T00:00:00Z" := by
    decide
  unfold builtContent receiptContent
  rw [getMember_dict, time]
  rfl

theorem getMember_changedContent :
    getMember (receiptWithoutHash changedReceipt) "inspected_at_utc" =
      some (.text "2024-01-02T00:00:00Z") := by
  rw [getMember_receiptWithoutHash sorted_changedReceipt (by decide)]
  exact getMember_insertMember_self _ _ _

/-- Without their hashes, the two receipts have different digests. -/
theorem collisionFree_changedReceipt :
    CollisionFree buildLibrary (.object (receiptWithoutHash builtReceipt))
      (.object (receiptWithoutHash changedReceipt)) := by
  have content : receiptWithoutHash builtReceipt = builtContent :=
    receiptWithoutHash_built (hexText contentDigest)
  have nine :
      memberCount (.object (receiptWithoutHash changedReceipt)) = 9 := by
    decide
  have finite :
      finiteNumbers (.object (receiptWithoutHash changedReceipt)) = true := by
    decide
  rw [content]
  refine
    collisionFree_digestsOf rfl rfl apart_builtValues canonical_builtValues
      (by decide) (by decide) (List.mem_of_getLast? rfl) ?_
      (canonical_of_sorted (sorted_receiptWithoutHash sorted_changedReceipt)
        finite)
  intro inside
  simp only [builtValues, List.map_cons, List.map_nil, List.mem_cons,
    List.not_mem_nil, or_false] at inside
  rcases inside with same | same | same | same
  · cases same
  · rw [same] at nine
    cases nine
  · rw [same] at nine
    revert nine
    decide
  · have texts := getMember_changedContent
    rw [Json.object.inj same, getMember_builtContent, Option.some.injEq,
      Json.text.injEq] at texts
    revert texts
    decide

theorem built_oneRow :
    buildInspectionReceipt buildLibrary smallLock smallPlan oneRow
        ⟨midnight, some utcOffset⟩ =
      .ok builtReceipt := by
  apply builtReceipt_of_content inspected_oneRow
  unfold builtContent
  rfl

theorem receipt_roundTrip_oneRow :
    buildInspectionReceipt buildLibrary smallLock smallPlan oneRow
          ⟨midnight, some utcOffset⟩ =
        .ok builtReceipt ∧
      IsEligible builtReceipt ∧
      (∃ identities,
        ReadsAsBuilt buildLibrary smallLock smallPlan
            ⟨exponentFloats.float, true⟩ oneRow.rows builtReceipt
            (hexText fileDigest) ⟨midnight, some utcOffset⟩ identities ∧
          Authorises buildLibrary smallPlan builtReceipt identities) ∧
      ∀ expected actual later others,
        validateApplyReceipt buildLibrary smallLock smallPlan
            (.object changedReceipt) expected actual later ≠
          .ok others := by
  have trip := receipt_roundTrip buildLibrary smallLock smallPlan
  have different : builtReceipt ≠ changedReceipt := by
    intro same
    have content : receiptWithoutHash builtReceipt = builtContent :=
      receiptWithoutHash_built (hexText contentDigest)
    have texts := getMember_changedContent
    rw [← same, content, getMember_builtContent, Option.some.injEq,
      Json.text.injEq] at texts
    revert texts
    decide
  rcases trip.built _ _ _ built_oneRow eligible_builtReceipt
      ⟨exponentFloats.float, true⟩ (hexText fileDigest)
      ⟨midnight, some utcOffset⟩ midnight.microseconds rfl
      (isSha256_hexText fileDigest) (by decide) (by decide)
      (by decide) with
    ⟨identities, reads⟩
  rcases Option.bind_eq_some_iff.1 reads.back with ⟨text, _, loaded⟩
  rcases trip.accepted _ _ _ _ _ (sorted_of_loads loaded) reads.validated with
    ⟨receipt, same, authorises⟩
  rw [← Json.object.inj same] at authorises
  refine
    ⟨built_oneRow, eligible_builtReceipt, ⟨identities, reads, authorises⟩,
      ?_⟩
  exact
    trip.unchanged _ _ _ _ _ _ sorted_builtReceipt sorted_changedReceipt
      collisionFree_changedReceipt
      (getMember_changedReceipt (by decide)).symm different reads.validated

end KairosDeploy.Drain.SignedReceipt
