import KairosDeploy.Library.Refusal
import KairosDeploy.Library.JsonText
import KairosDeploy.Library.Timestamp
import KairosDeploy.Library.HexDigest
import KairosDeploy.Library.DatabaseRow

/-!
# The signed inspection receipt of an offline drain

`build_inspection_receipt` inspects a prefix of the outbox and writes a
receipt; `validate_apply_receipt` reads such a receipt back and returns the
identities that it authorises.  The two are separate programs over the same
JSON.  This module translates both with all their checks, and proves that an
eligible receipt survives the round trip and that nothing else is authorised.
-/

namespace KairosDeploy.Drain.SignedReceipt

open KairosDeploy.Library.Refusal
open KairosDeploy.Library.PyNumber
open KairosDeploy.Library.JsonValue
open KairosDeploy.Library.JsonText
open KairosDeploy.Library.Timestamp
open KairosDeploy.Library.HexDigest
open KairosDeploy.Library.DatabaseRow

/-! ## What the runner raises and calls -/

/--
What the runner raises.  `assert_receipt_redacted` raises one of two messages,
whichever member it meets first; both are `sensitive` here.
-/
inductive DrainFailure where
  | drainInput (message : String)
  | sensitive
  | valueError
  | typeError
  | overflowError
  | payloadReader
deriving DecidableEq

/-- How reading a payload ends when it does not return. -/
inductive PayloadFailure where
  /-- `KeyError`, `TypeError` or `ValueError`. -/
  | rejected
  | raised
deriving DecidableEq

/-- The functions of other libraries that the runner calls. -/
structure DrainLibrary where
  floats : FloatText
  sha256 : Sha256
  iso : IsoReader
  casefold : String → String
  /-- The distance from UTC that a naive time is taken to have. -/
  localOffset : CivilTime → Offset
  /-- `AuditRepository._canonical_outbox_payload`. -/
  canonicalOutboxPayload :
    RawValue → Except PayloadFailure (Members × String)

/-! ## Plan and source lock -/

/-- `DrainPlan`. -/
structure DrainPlan where
  databaseName : String
  producer : String
  topic : String
  drainId : String
  maximumRows : Int
  maximumDurationSeconds : Int
deriving DecidableEq

/-- `DrainPlan.payload`. -/
def DrainPlan.payload (plan : DrainPlan) : Members :=
  dict
    [("schema_version", .int 1), ("database_name", .text plan.databaseName),
      ("producer", .text plan.producer), ("topic", .text plan.topic),
      ("drain_id", .text plan.drainId),
      ("maximum_rows", .int plan.maximumRows),
      ("maximum_duration_seconds", .int plan.maximumDurationSeconds)]

/-- `source-lock.json`, with the members that are read from it. -/
structure SourceLock where
  document : Members
  dependencies : Json
  profile : Members
  requiredMigrations : List String
  maximumReceiptAgeSeconds : Int
  sorted : Sorted (.object document)
  dependencies_eq : getMember document "dependencies" = some dependencies
  profile_eq : getMember document "profile" = some (.object profile)
  requiredMigrations_eq :
    getMember profile "required_migrations" =
      some (.array (requiredMigrations.map .text))
  maximumReceiptAgeSeconds_eq :
    getMember profile "maximum_receipt_age_seconds" =
      some (.int maximumReceiptAgeSeconds)

/-! ## Prefix identities -/

/-- `character.isspace()`. -/
def isSpace (character : Char) : Bool :=
  let code := character.toNat
  (9 ≤ code && code ≤ 13) || (28 ≤ code && code ≤ 32) || code = 0x85 ||
    code = 0xa0 || code = 0x1680 || (0x2000 ≤ code && code ≤ 0x200a) ||
    code = 0x2028 || code = 0x2029 || code = 0x202f || code = 0x205f ||
    code = 0x3000

/-- `not value.strip()`. -/
def isBlank (text : String) : Bool :=
  text.toList.all isSpace

/-- `PrefixIdentity`, with what `__post_init__` has checked. -/
structure PrefixIdentity where
  id : Int
  producer : String
  messageId : String
  topic : String
  payloadSha256 : String
  publishAttempts : Int
  positive : 0 < id
  producer_nonblank : isBlank producer = false
  messageId_nonblank : isBlank messageId = false
  topic_nonblank : isBlank topic = false
  lowercase : isSha256 payloadSha256 = true
  attempts_nonnegative : 0 ≤ publishAttempts
deriving DecidableEq

/-- The check of `id`. -/
def positiveId : RawValue → Except DrainFailure {id : Int // 0 < id}
  | .json (.int id) =>
      if positive : 0 < id then
        .ok ⟨id, positive⟩
      else
        .error
          (.drainInput "prefix identity id must be a positive integer")
  | _ =>
      .error (.drainInput "prefix identity id must be a positive integer")

/-- The check of `producer`, `message_id` and `topic`. -/
def nonblankText (name : String) :
    RawValue → Except DrainFailure {text : String // isBlank text = false}
  | .json (.text text) =>
      if nonblank : isBlank text = false then
        .ok ⟨text, nonblank⟩
      else
        .error
          (.drainInput
            ("prefix identity " ++ name ++ " must be a non-empty string"))
  | _ =>
      .error
        (.drainInput
          ("prefix identity " ++ name ++ " must be a non-empty string"))

/-- The check of `payload_sha256`. -/
def lowercaseSha256 :
    RawValue → Except DrainFailure {text : String // isSha256 text = true}
  | .json (.text text) =>
      if lowercase : isSha256 text = true then
        .ok ⟨text, lowercase⟩
      else
        .error
          (.drainInput
            "prefix identity payload_sha256 must be a lowercase SHA-256")
  | _ =>
      .error
        (.drainInput
          "prefix identity payload_sha256 must be a lowercase SHA-256")

/-- The check of `publish_attempts`. -/
def nonnegativeAttempts :
    RawValue → Except DrainFailure {attempts : Int // 0 ≤ attempts}
  | .json (.int attempts) =>
      if nonnegative : 0 ≤ attempts then
        .ok ⟨attempts, nonnegative⟩
      else
        .error
          (.drainInput
            ("prefix identity publish_attempts must be a non-negative " ++
              "integer"))
  | _ =>
      .error
        (.drainInput
          "prefix identity publish_attempts must be a non-negative integer")

/-- `PrefixIdentity(...)` of the columns of a row or the members of a dict. -/
def PrefixIdentity.ofColumns (row : Row) :
    Except DrainFailure PrefixIdentity := do
  let id ← positiveId (row.get "id")
  let producer ← nonblankText "producer" (row.get "producer")
  let messageId ← nonblankText "message_id" (row.get "message_id")
  let topic ← nonblankText "topic" (row.get "topic")
  let payloadSha256 ← lowercaseSha256 (row.get "payload_sha256")
  let attempts ← nonnegativeAttempts (row.get "publish_attempts")
  return {
    id := id.1
    producer := producer.1
    messageId := messageId.1
    topic := topic.1
    payloadSha256 := payloadSha256.1
    publishAttempts := attempts.1
    positive := id.2
    producer_nonblank := producer.2
    messageId_nonblank := messageId.2
    topic_nonblank := topic.2
    lowercase := payloadSha256.2
    attempts_nonnegative := attempts.2 }

/-- `identity_payload`. -/
def identityPayload (identity : PrefixIdentity) : Json :=
  .object
    (dict
      [("id", .int identity.id), ("producer", .text identity.producer),
        ("message_id", .text identity.messageId),
        ("topic", .text identity.topic),
        ("payload_sha256", .text identity.payloadSha256),
        ("publish_attempts", .int identity.publishAttempts)])

/-- `identities_payload`. -/
def identitiesPayload (identities : List PrefixIdentity) : Json :=
  .array (identities.map identityPayload)

/-- The keys of an identity. -/
def identityFields : Finset String :=
  {"id", "producer", "message_id", "topic", "payload_sha256",
    "publish_attempts"}

/-- The members of a dict as columns. -/
def membersRow (members : Members) : Row := fun name =>
  (getMember members name).map .json

/-- One round of the loop of `identities_from_json`. -/
def readIdentity (identities : List PrefixIdentity) (raw : Json) :
    Except DrainFailure (List PrefixIdentity) := do
  match raw with
  | .object members => do
      refuseIf (keySet members ≠ identityFields)
        (.drainInput "inspection receipt identity is malformed")
      let identity ← PrefixIdentity.ofColumns (membersRow members)
      refuseIf
        (identity.id ≤ (identities.getLast?.map PrefixIdentity.id).getD 0)
        (.drainInput
          ("inspection receipt prefix identities must be strictly " ++
            "ordered"))
      return identities ++ [identity]
  | _ =>
      .error (.drainInput "inspection receipt identity is malformed")

/-- `identities_from_json`. -/
def identitiesFromJson (value : Option Json) :
    Except DrainFailure (List PrefixIdentity) :=
  match value with
  | some (.array (first :: rest)) =>
      (first :: rest).foldlM readIdentity []
  | _ =>
      .error
        (.drainInput
          "inspection receipt must contain a non-empty exact prefix")

/-! ## Hashes, times and redaction -/

/-- `sha256_json`. -/
def sha256Json (library : DrainLibrary) (value : Json) :
    Except DrainFailure String :=
  match dumps library.floats value with
  | some text => .ok (library.sha256.hexdigest (utf8 text))
  | none => .error .valueError

/-- `time.astimezone(UTC)`. -/
def astimezoneUtc (library : DrainLibrary) (time : Datetime) :
    Except DrainFailure CivilTime :=
  let aware : Datetime :=
    ⟨time.civil, some (time.offset.getD (library.localOffset time.civil))⟩
  match aware.astimezone with
  | some civil => .ok civil
  | none => .error .overflowError

/-- `_datetime`. -/
def datetimeOf (library : DrainLibrary) (value : Option Json) :
    Except DrainFailure CivilTime := do
  match value with
  | some (.text text) =>
      match library.iso.fromisoformat
          (replaceAll ['Z'] zeroOffset text) with
      | some parsed => do
          refuseIf (parsed.offset = none)
            (.drainInput
              "receipt inspected_at_utc must include a timezone")
          astimezoneUtc library parsed
      | none =>
          .error (.drainInput "receipt inspected_at_utc is invalid")
  | _ =>
      .error
        (.drainInput
          "receipt inspected_at_utc must be an RFC3339 timestamp")

/-- `_receipt_without_hash`. -/
def receiptWithoutHash (receipt : Members) : Members :=
  receipt.filter fun entry => entry.1 ≠ "receipt_sha256"

/-- The keys that `assert_receipt_redacted` forbids. -/
def forbiddenKeys : List String :=
  ["payload", "database_url", "redis_url", "password", "secret", "token",
    "private_key"]

/-- Whether a text holds the scheme of a connection string. -/
def hasConnectionString (text : String) : Bool :=
  decide ("postgres://".toList <:+: text.toList) ||
    decide ("redis://".toList <:+: text.toList)

mutual

/-- Whether `visit` of `assert_receipt_redacted` returns. -/
def isRedacted (casefold : String → String) : Json → Bool
  | .text text => !hasConnectionString text
  | .array items => redactedItems casefold items
  | .object members => redactedMembers casefold members
  | _ => true

/-- `visit` of the items of a list. -/
def redactedItems (casefold : String → String) : List Json → Bool
  | [] => true
  | item :: items =>
      isRedacted casefold item && redactedItems casefold items

/-- `visit` of the members of a dict. -/
def redactedMembers (casefold : String → String) : Members → Bool
  | [] => true
  | (key, value) :: members =>
      !forbiddenKeys.contains (casefold key) &&
        isRedacted casefold value && redactedMembers casefold members

end

/-- `assert_receipt_redacted`. -/
def assertReceiptRedacted (library : DrainLibrary) (receipt : Members) :
    Except DrainFailure Unit :=
  refuseIf (isRedacted library.casefold (.object receipt) = false) .sensitive

/-! ## Building a receipt -/

/-- What an inspection has read from the database. -/
structure DatabaseSnapshot where
  databaseName : String
  migrations : List String
  rows : List Row
  auditRows : String → List Row
  globalCounts : String → Option Int

/-- The local variables of the loop of `build_inspection_receipt`. -/
structure BuildState where
  rowsMatch : Bool
  auditMatches : Bool
  priorId : Int
  identities : List PrefixIdentity

section Building

variable (library : DrainLibrary) (lock : SourceLock) (plan : DrainPlan)

/-- `_canonical_outbox_payload(row["payload"])`. -/
def payloadColumn (row : Row) : Except PayloadFailure (Members × String) :=
  match row "payload" with
  | some value => library.canonicalOutboxPayload value
  | none => .error .rejected

/-- The first `try` of the loop. -/
def readRow (row : Row) :
    Except PayloadFailure (PrefixIdentity × Members × String) :=
  match PrefixIdentity.ofColumns row with
  | .ok identity => (payloadColumn library row).map (identity, ·)
  | .error _ => .error .rejected

/-- `payload.get("message_id") == identity.message_id`. -/
def namesMessage (payload : Members) (identity : PrefixIdentity) : Bool :=
  ((getMember payload "message_id").getD .null).pyEq
    (.text identity.messageId)

/-- The conditions on a row that has been read. -/
def RowMatches (priorId : Int) (row : Row) (identity : PrefixIdentity)
    (payload : Members) (payloadSha256 : String) : Prop :=
  priorId < identity.id ∧ identity.producer = plan.producer ∧
    identity.topic = plan.topic ∧
    (row.get "published_at").isNone = true ∧
    (row.get "dead_lettered_at").isNone = true ∧
    (row.get "lease_clear").isTrue = true ∧
    (row.get "available").isTrue = true ∧
    (row.get "reconciliation_state").eqJson (.text "NONE") = true ∧
    payloadSha256 = identity.payloadSha256 ∧
    namesMessage payload identity = true

instance (priorId : Int) (row : Row) (identity : PrefixIdentity)
    (payload : Members) (payloadSha256 : String) :
    Decidable
      (RowMatches plan priorId row identity payload payloadSha256) :=
  inferInstanceAs (Decidable (_ ∧ _))

/-- The conditions on the audit rows of a message. -/
def auditMatches (audits : List Row) (identity : PrefixIdentity)
    (payload : Members) : Except DrainFailure Bool :=
  match audits with
  | [audit] =>
      match payloadColumn library audit with
      | .ok (auditPayload, auditHash) =>
          .ok
            ((audit.get "topic").eqJson (.text identity.topic) &&
              auditHash = identity.payloadSha256 &&
              pyEqMembers auditPayload payload &&
              namesMessage auditPayload identity)
      | .error .rejected => .ok false
      | .error .raised => .error .payloadReader
  | _ => .ok false

/-- One round of the loop of `build_inspection_receipt`. -/
def inspectRow (auditRows : String → List Row) (state : BuildState)
    (row : Row) : Except DrainFailure BuildState :=
  match readRow library row with
  | .error .rejected => .ok { state with rowsMatch := false }
  | .error .raised => .error .payloadReader
  | .ok (identity, payload, payloadSha256) => do
      let audited ←
        auditMatches library (auditRows identity.messageId) identity payload
      return {
        rowsMatch :=
          state.rowsMatch &&
            decide
              (RowMatches plan state.priorId row identity payload
                payloadSha256)
        auditMatches := state.auditMatches && audited
        priorId := identity.id
        identities := state.identities ++ [identity] }

/-- `global_counts.get(name, 0)`. -/
def DatabaseSnapshot.count (snapshot : DatabaseSnapshot) (name : String) :
    Int :=
  (snapshot.globalCounts name).getD 0

/-- `checks`, in the order of the source. -/
def inspectionChecks (snapshot : DatabaseSnapshot) (state : BuildState) :
    List (String × Bool) :=
  [("database_matches", snapshot.databaseName = plan.databaseName),
    ("schema_matches", snapshot.migrations = lock.requiredMigrations),
    ("no_global_leases", snapshot.count "leased" = 0),
    ("no_global_ambiguous_reconciliations", snapshot.count "ambiguous" = 0),
    ("no_global_dead_letters", snapshot.count "dead_lettered" = 0),
    ("prefix_nonempty", !snapshot.rows.isEmpty),
    ("prefix_within_cap", (snapshot.rows.length : Int) ≤ plan.maximumRows),
    ("prefix_rows_match",
      state.rowsMatch && state.identities.length = snapshot.rows.length),
    ("prefix_audit_matches", state.auditMatches)]

/-- `inspection["result"]`. -/
def inspectionResult (snapshot : DatabaseSnapshot) (state : BuildState) :
    String :=
  if (inspectionChecks lock plan snapshot state).all Prod.snd then
    "ELIGIBLE"
  else if snapshot.rows.isEmpty ∧
      snapshot.migrations = lock.requiredMigrations then
    "EMPTY"
  else
    "REJECTED"

/-- `inspection`. -/
def inspectionMembers (snapshot : DatabaseSnapshot) (state : BuildState)
    (identitiesSha256 : String) : Members :=
  dict
    [("result", .text (inspectionResult lock plan snapshot state)),
      ("checks",
        .object
          (dict
            ((inspectionChecks lock plan snapshot state).map fun check =>
              (check.1, .bool check.2)))),
      ("database_name", .text snapshot.databaseName),
      ("migrations", .array (snapshot.migrations.map .text)),
      ("global",
        .object
          (dict
            [("leased", .int (snapshot.count "leased")),
              ("ambiguous", .int (snapshot.count "ambiguous")),
              ("dead_lettered", .int (snapshot.count "dead_lettered")),
              ("producer_pending",
                .int (snapshot.count "producer_pending"))])),
      ("selected_count", .int state.identities.length),
      ("identities", identitiesPayload state.identities),
      ("identities_sha256", .text identitiesSha256)]

/-- `inspected_at.astimezone(UTC).isoformat().replace("+00:00", "Z")`. -/
def zuluText (civil : CivilTime) : String :=
  replaceAll zeroOffset ['Z'] (isoformat civil)

/-- `_inspection_payload`. -/
def inspectionPayload (inspection : Members) (inspectedAt : Datetime) :
    Except DrainFailure Members := do
  let lockSha256 ← sha256Json library (.object lock.document)
  let planSha256 ← sha256Json library (.object plan.payload)
  let civil ← astimezoneUtc library inspectedAt
  return dict
    [("schema_version", .int 1),
      ("kind", .text "kairos.offline-outbox-drain-inspection.v1"),
      ("classification", .text "OFFLINE_SIGNED_PREFIX_ONLY"),
      ("source_lock_sha256", .text lockSha256),
      ("source", lock.dependencies),
      ("plan_sha256", .text planSha256),
      ("plan", .object plan.payload),
      ("inspection", .object inspection),
      ("inspected_at_utc", .text (zuluText civil))]

/-- `build_inspection_receipt`. -/
def buildInspectionReceipt (snapshot : DatabaseSnapshot)
    (inspectedAt : Datetime) : Except DrainFailure Members := do
  let state ←
    snapshot.rows.foldlM (inspectRow library plan snapshot.auditRows)
      ⟨true, true, 0, []⟩
  let identitiesSha256 ←
    sha256Json library (identitiesPayload state.identities)
  let content ←
    inspectionPayload library lock plan
      (inspectionMembers lock plan snapshot state identitiesSha256)
      inspectedAt
  let receiptSha256 ← sha256Json library (.object content)
  let receipt :=
    insertMember "receipt_sha256" (.text receiptSha256) content
  assertReceiptRedacted library receipt
  return receipt

end Building

/-! ## Validating a receipt -/

section Validating

variable (library : DrainLibrary) (lock : SourceLock) (plan : DrainPlan)

/-- `value == text` for what `get` returned. -/
def isText (value : Option Json) (text : String) : Bool :=
  (value.getD .null).pyEq (.text text)

/-- `receipt_identities`. -/
def receiptIdentities (receipt : Members) :
    Except DrainFailure (List PrefixIdentity) :=
  match getMember receipt "inspection" with
  | some (.object inspection) => do
      let identities ←
        identitiesFromJson (getMember inspection "identities")
      let valuesSha256 ← sha256Json library (identitiesPayload identities)
      refuseIf
        (isText (getMember inspection "identities_sha256") valuesSha256 =
          false)
        (.drainInput "inspection receipt prefix hash is invalid")
      return identities
  | _ =>
      .error (.drainInput "inspection receipt inspection is invalid")

/-- `(now - inspected).total_seconds()`. -/
def ageSeconds (now : Datetime) (inspected : CivilTime) :
    Except DrainFailure PyFloat :=
  match now.instant with
  | none => .error .typeError
  | some instant =>
      match PyFloat.ofRatio (instant - inspected.microseconds) 1000000 with
      | some seconds => .ok seconds
      | none => .error .overflowError

/-- The end of `validate_apply_receipt`. -/
def checkAge (receipt : Members) (now : Datetime) :
    Except DrainFailure Unit := do
  let inspected ←
    datetimeOf library (getMember receipt "inspected_at_utc")
  let age ← ageSeconds now inspected
  refuseIf
    (pyLt age.comparable (comparableInt 0) ∨
      pyLt (comparableInt lock.maximumReceiptAgeSeconds) age.comparable)
    (.drainInput "inspection receipt is stale or has a future timestamp")

/-- The checks of `validate_apply_receipt` before the inspection. -/
def checkEnvelope (receipt : Members) : Except DrainFailure Unit := do
  let contentSha256 ←
    sha256Json library (.object (receiptWithoutHash receipt))
  refuseIf
    (isText (getMember receipt "receipt_sha256") contentSha256 = false)
    (.drainInput
      ("inspection receipt content hash does not match its signed " ++
        "content"))
  assertReceiptRedacted library receipt
  refuseIf
    (isText (getMember receipt "kind")
        "kairos.offline-outbox-drain-inspection.v1" =
      false)
    (.drainInput "inspection receipt kind is invalid")
  refuseIf
    (isText (getMember receipt "classification")
        "OFFLINE_SIGNED_PREFIX_ONLY" =
      false)
    (.drainInput "inspection receipt classification is invalid")
  let lockSha256 ← sha256Json library (.object lock.document)
  refuseIf
    (isText (getMember receipt "source_lock_sha256") lockSha256 = false)
    (.drainInput
      "inspection receipt source lock differs from this runner")
  let planSha256 ← sha256Json library (.object plan.payload)
  refuseIf
    (isText (getMember receipt "plan_sha256") planSha256 = false ∨
      ((getMember receipt "plan").getD .null).pyEq (.object plan.payload) =
        false)
    (.drainInput
      "inspection receipt plan differs from the supplied drain plan")
  match getMember receipt "inspection" with
  | some (.object inspection) =>
      refuseIf (isText (getMember inspection "result") "ELIGIBLE" = false)
        (.drainInput
          "only an eligible inspection receipt can authorize a drain")
  | _ =>
      .error
        (.drainInput
          "only an eligible inspection receipt can authorize a drain")

/-- `validate_apply_receipt`, after its checks of the two file hashes. -/
def validateContent (now : Datetime) (receipt : Json) :
    Except DrainFailure (List PrefixIdentity) := do
  match receipt with
  | .object receipt => do
      checkEnvelope library lock plan receipt
      let identities ← receiptIdentities library receipt
      refuseIf (plan.maximumRows < identities.length)
        (.drainInput "inspection receipt exceeds the signed drain cap")
      refuseIf
        (identities.any
            (fun identity =>
              identity.producer ≠ plan.producer ||
                identity.topic ≠ plan.topic) =
          true)
        (.drainInput
          ("inspection receipt contains an identity outside the signed " ++
            "scope"))
      checkAge library lock receipt now
      return identities
  | _ =>
      .error (.drainInput "inspection receipt must be a JSON object")

/-- The checks of the two file hashes, with which `validate_apply_receipt`
begins. -/
def checkFileHashes (expectedFileSha256 actualFileSha256 : String) :
    Except DrainFailure Unit := do
  refuseIf
    (isSha256 expectedFileSha256 = false ∨
      isSha256 actualFileSha256 = false)
    (.drainInput "receipt file hashes must be lowercase SHA-256 values")
  refuseIf (expectedFileSha256 ≠ actualFileSha256)
    (.drainInput
      ("inspection receipt file hash differs from the explicitly armed " ++
        "value"))

/-- `validate_apply_receipt`. -/
def validateApplyReceipt (receipt : Json)
    (expectedFileSha256 actualFileSha256 : String) (now : Datetime) :
    Except DrainFailure (List PrefixIdentity) := do
  checkFileHashes expectedFileSha256 actualFileSha256
  validateContent library lock plan now receipt

end Validating

/-! ## What is read as an identity -/

theorem positiveId_eq_ok_iff
    (value : RawValue) (id : {id : Int // 0 < id}) :
    positiveId value = .ok id ↔ value = .json (.int id.1) := by
  rcases id with ⟨id, positive⟩
  constructor
  · intro read
    unfold positiveId at read
    split at read
    · split_ifs at read with stored
      cases read
      rfl
    · cases read
  · rintro rfl
    simp [positiveId, positive]

theorem nonblankText_eq_ok_iff
    (name : String) (value : RawValue)
    (text : {text : String // isBlank text = false}) :
    nonblankText name value = .ok text ↔ value = .json (.text text.1) := by
  rcases text with ⟨text, nonblank⟩
  constructor
  · intro read
    unfold nonblankText at read
    split at read
    · split_ifs at read with stored
      cases read
      rfl
    · cases read
  · rintro rfl
    simp [nonblankText, nonblank]

theorem lowercaseSha256_eq_ok_iff
    (value : RawValue) (text : {text : String // isSha256 text = true}) :
    lowercaseSha256 value = .ok text ↔ value = .json (.text text.1) := by
  rcases text with ⟨text, lowercase⟩
  constructor
  · intro read
    unfold lowercaseSha256 at read
    split at read
    · split_ifs at read with stored
      cases read
      rfl
    · cases read
  · rintro rfl
    simp [lowercaseSha256, lowercase]

theorem nonnegativeAttempts_eq_ok_iff
    (value : RawValue) (attempts : {attempts : Int // 0 ≤ attempts}) :
    nonnegativeAttempts value = .ok attempts ↔
      value = .json (.int attempts.1) := by
  rcases attempts with ⟨attempts, nonnegative⟩
  constructor
  · intro read
    unfold nonnegativeAttempts at read
    split at read
    · split_ifs at read with stored
      cases read
      rfl
    · cases read
  · rintro rfl
    simp [nonnegativeAttempts, nonnegative]

/-- The columns of a row are those of an identity. -/
structure HasIdentity (row : Row) (identity : PrefixIdentity) : Prop where
  id : row.get "id" = .json (.int identity.id)
  producer : row.get "producer" = .json (.text identity.producer)
  messageId : row.get "message_id" = .json (.text identity.messageId)
  topic : row.get "topic" = .json (.text identity.topic)
  payloadSha256 :
    row.get "payload_sha256" = .json (.text identity.payloadSha256)
  publishAttempts :
    row.get "publish_attempts" = .json (.int identity.publishAttempts)

theorem ofColumns_eq_ok_iff (row : Row) (identity : PrefixIdentity) :
    PrefixIdentity.ofColumns row = .ok identity ↔
      HasIdentity row identity := by
  simp only [PrefixIdentity.ofColumns, bind_eq_ok_iff, pure_eq_ok_iff,
    positiveId_eq_ok_iff, nonblankText_eq_ok_iff, lowercaseSha256_eq_ok_iff,
    nonnegativeAttempts_eq_ok_iff]
  constructor
  · rintro
      ⟨id, hasId, producer, hasProducer, messageId, hasMessageId, topic,
        hasTopic, payloadSha256, hasSha256, attempts, hasAttempts, rfl⟩
    exact
      ⟨hasId, hasProducer, hasMessageId, hasTopic, hasSha256, hasAttempts⟩
  · intro has
    exact
      ⟨⟨identity.id, identity.positive⟩, has.id,
        ⟨identity.producer, identity.producer_nonblank⟩, has.producer,
        ⟨identity.messageId, identity.messageId_nonblank⟩, has.messageId,
        ⟨identity.topic, identity.topic_nonblank⟩, has.topic,
        ⟨identity.payloadSha256, identity.lowercase⟩, has.payloadSha256,
        ⟨identity.publishAttempts, identity.attempts_nonnegative⟩,
        has.publishAttempts, rfl⟩

/-- The members of an identity. -/
def identityMembers (identity : PrefixIdentity) : Members :=
  dict
    [("id", .int identity.id), ("producer", .text identity.producer),
      ("message_id", .text identity.messageId),
      ("topic", .text identity.topic),
      ("payload_sha256", .text identity.payloadSha256),
      ("publish_attempts", .int identity.publishAttempts)]

theorem identityPayload_eq (identity : PrefixIdentity) :
    identityPayload identity = .object (identityMembers identity) :=
  rfl

theorem keySet_identityMembers (identity : PrefixIdentity) :
    keySet (identityMembers identity) = identityFields := by
  rw [identityMembers, keySet_dict]
  rfl

theorem hasIdentity_identityMembers (identity : PrefixIdentity) :
    HasIdentity (membersRow (identityMembers identity)) identity := by
  constructor <;>
    simp only [Row.get, membersRow, identityMembers, getMember_dict] <;> rfl

end KairosDeploy.Drain.SignedReceipt
