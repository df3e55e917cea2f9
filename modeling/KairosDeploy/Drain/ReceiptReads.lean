import KairosDeploy.Drain.ReceiptRoundTrip

/-!
# The reads of the receipt path

`run` of the drain runner and of the exact-row reconciliation runner open the
receipt path four times: `is_file`, `gpgv`, `read_bytes` and `read_json`.
Another process may replace the file between any two of them.  Both runners
make the same reads in the same order and differ in what
`validate_apply_receipt` asks of the content.  Nothing ties what `read_json`
parses to the bytes of the two reads before it; this module says exactly when
the receipt that is acted on is one that was signed and armed.
-/

namespace KairosDeploy.Drain.ReceiptReads

open KairosDeploy.Library.Refusal
open KairosDeploy.Library.PyNumber
open KairosDeploy.Library.JsonValue
open KairosDeploy.Library.JsonText
open KairosDeploy.Library.HexDigest
open KairosDeploy.Library.Timestamp
open KairosDeploy.Library.DatabaseRow
open KairosDeploy.Drain.SignedReceipt

/-! ## One apply run -/

/-- What the receipt path shows: nothing, or a file. -/
abbrev Shown : Type := Option (List UInt8)

/-- What the path shows to each of the four reads. -/
structure Reads where
  isFile : Shown
  gpgv : Shown
  readBytes : Shown
  readJson : Shown

/-- The arguments of an apply run, apart from the receipt path. -/
structure ApplyArguments where
  applyConfirmation : Option String
  maximumReceiptAgeSeconds : Int
  /-- `--redis-url-file`, `--receipt` and `--receipt-signature` are given. -/
  pathsGiven : Bool
  expectedReceiptSha256 : Option String
  /-- The signature file and the trusted signer are files, and `gpg` imports
  the signer. -/
  signerReady : Bool

/--
A runner: its source lock and libraries, the content checks of its
`validate_apply_receipt` with what they authorise, and what it does after
them before it applies, at the end of which it has the URL of Redis.
-/
structure Runner (Authority : Type) where
  library : DrainLibrary
  reader : Reader
  lock : SourceLock
  /-- Whether `gpgv` accepts the detached signature for the bytes it reads. -/
  verifies : List UInt8 → Bool
  validateContent : Json → Except DrainFailure Authority
  ready : Authority → Except DrainFailure String

section Run

variable {Authority : Type} (runner : Runner Authority)

/-- `json.loads` of the text that the bytes decode to. -/
def parse (bytes : List UInt8) : Option Json :=
  (String.fromUTF8? bytes.toByteArray).bind (loads runner.reader)

/-- The checks of the arguments. -/
def checkArguments (arguments : ApplyArguments) :
    Except DrainFailure String := do
  refuseIf
    (((getMember runner.lock.profile "apply_confirmation").getD .null).pyEq
        ((arguments.applyConfirmation.map .text).getD .null) =
      false)
    (.drainInput "apply requires the exact immutable apply confirmation")
  refuseIf
    (arguments.maximumReceiptAgeSeconds ≠
      runner.lock.maximumReceiptAgeSeconds)
    (.drainInput "apply cannot extend the immutable receipt lifetime")
  match arguments.pathsGiven, arguments.expectedReceiptSha256 with
  | true, some armed => do
      refuseIf (armed = "")
        (.drainInput
          ("apply requires Redis, receipt, signature, and exact receipt " ++
            "hash"))
      return armed
  | _, _ =>
      .error
        (.drainInput
          ("apply requires Redis, receipt, signature, and exact receipt " ++
            "hash"))

/-- `verify_receipt_signature`. -/
def verifyReceiptSignature (arguments : ApplyArguments) (reads : Reads) :
    Except DrainFailure Unit := do
  refuseIf (reads.isFile.isSome = false ∨ arguments.signerReady = false)
    (.drainInput "receipt, signature, or trusted signer is unavailable")
  refuseIf (reads.gpgv.any runner.verifies = false)
    (.drainInput
      ("inspection receipt signature is invalid or from an untrusted " ++
        "signer"))

/-- `args.receipt.read_bytes()`. -/
def readReceiptBytes (reads : Reads) :
    Except DrainFailure (List UInt8) :=
  match reads.readBytes with
  | some bytes => .ok bytes
  | none => .error (.drainInput "OSError")

/-- `read_json`. -/
def readReceiptJson (reads : Reads) : Except DrainFailure Json :=
  match reads.readJson.bind (parse runner) with
  | some receipt => .ok receipt
  | none => .error (.drainInput "inspection receipt cannot be parsed")

/-- `run` of an apply call, from its checks of the arguments up to the call of
`apply_prefix` or `apply_exact_row`: the armed hash, the receipt that was
validated, and what it authorises. -/
def reachesApply (arguments : ApplyArguments) (reads : Reads) :
    Except DrainFailure (String × Json × Authority) := do
  let armed ← checkArguments runner arguments
  verifyReceiptSignature runner arguments reads
  let bytes ← readReceiptBytes reads
  let receipt ← readReceiptJson runner reads
  checkFileHashes armed (runner.library.sha256.hexdigest bytes)
  let authority ← runner.validateContent receipt
  let _ ← runner.ready authority
  return (armed, receipt, authority)

end Run

/-! ## The two runners -/

/-- `read_nonempty_secret` of a file with this content, if it can be read. -/
def readNonemptySecret (label : String) (content : Option String) :
    Except DrainFailure String :=
  match content with
  | none => .error (.drainInput (label ++ " is unavailable"))
  | some text =>
      if isBlank text then .error (.drainInput (label ++ " is empty"))
      else
        .ok
          (String.ofList
            ((text.toList.dropWhile isSpace).rdropWhile isSpace))

section Runners

variable (library : DrainLibrary) (reader : Reader) (lock : SourceLock)
variable (verifies : List UInt8 → Bool) (now : Datetime)
variable (redisUrlFile : Option String)

/-- The drain runner.  What it does before it applies is to compare the prefix
of the database with the identities, and to read the URL of Redis. -/
def drainRunner (plan : DrainPlan)
    (freshPrefixMatches : List PrefixIdentity → Except DrainFailure Unit) :
    Runner (List PrefixIdentity) where
  library := library
  reader := reader
  lock := lock
  verifies := verifies
  validateContent := SignedReceipt.validateContent library lock plan now
  ready := fun identities => do
    freshPrefixMatches identities
    readNonemptySecret "Redis URL file" redisUrlFile

/-- `ExactExpectation`.  `ExactIdentity` has the fields and the checks of
`PrefixIdentity`. -/
structure ExactExpectation where
  identity : PrefixIdentity
  reconciliationId : String
deriving DecidableEq

/-- `ExactExpectation.payload`. -/
def ExactExpectation.payload (expectation : ExactExpectation) : Members :=
  dict
    [("schema_version", .int 1),
      ("identity", identityPayload expectation.identity),
      ("reconciliation_id", .text expectation.reconciliationId)]

/-- `validate_apply_receipt` of the reconciliation runner, after its checks of
the two file hashes. -/
def validateExactContent (expectation : ExactExpectation) (receipt : Json) :
    Except DrainFailure Unit := do
  match receipt with
  | .object receipt => do
      let contentSha256 ←
        sha256Json library (.object (receiptWithoutHash receipt))
      refuseIf
        (isText (getMember receipt "receipt_sha256") contentSha256 = false)
        (.drainInput
          ("inspection receipt content hash does not match its signed " ++
            "content"))
      assertReceiptRedacted library receipt
      refuseIf
        (isText (getMember receipt "kind")
            "kairos.offline-outbox-inspection.v1" =
          false)
        (.drainInput "receipt kind is invalid")
      refuseIf
        (isText (getMember receipt "classification")
            "OFFLINE_EXACT_ROW_ONLY" =
          false)
        (.drainInput "receipt classification is invalid")
      let lockSha256 ← sha256Json library (.object lock.document)
      refuseIf
        (isText (getMember receipt "source_lock_sha256") lockSha256 = false)
        (.drainInput
          "inspection receipt source lock differs from this runner")
      let expectationSha256 ←
        sha256Json library (.object expectation.payload)
      refuseIf
        (isText (getMember receipt "expectation_sha256")
            expectationSha256 =
          false)
        (.drainInput
          "inspection receipt expectation differs from supplied exact row")
      refuseIf
        (((getMember receipt "identity").getD .null).pyEq
            (identityPayload expectation.identity) =
          false)
        (.drainInput
          "inspection receipt identity differs from supplied exact row")
      refuseIf
        (isText (getMember receipt "reconciliation_id")
            expectation.reconciliationId =
          false)
        (.drainInput
          ("inspection receipt reconciliation ID differs from supplied " ++
            "expectation"))
      match getMember receipt "inspection" with
      | some (.object inspection) => do
          refuseIf
            (isText (getMember inspection "result") "ELIGIBLE" = false)
            (.drainInput
              ("only an eligible inspection receipt can authorize an " ++
                "apply attempt"))
          refuseIf (lock.maximumReceiptAgeSeconds ≤ 0)
            (.drainInput "source lock receipt lifetime is invalid")
          checkAge library lock receipt now
      | _ =>
          .error
            (.drainInput
              ("only an eligible inspection receipt can authorize an " ++
                "apply attempt"))
  | _ =>
      .error (.drainInput "inspection receipt must be a JSON object")

/-- The exact-row reconciliation runner.  It reads the URL of Redis before it
applies. -/
def reconciliationRunner (expectation : ExactExpectation) :
    Runner Unit where
  library := library
  reader := reader
  lock := lock
  verifies := verifies
  validateContent := validateExactContent library lock now expectation
  ready := fun _ => readNonemptySecret "Redis URL file" redisUrlFile

end Runners

/-! ## The receipt that is acted on -/

section Acted

variable {Authority : Type} (runner : Runner Authority)

/-- The receipt is the parse of the bytes whose signature the run verified,
and their hash is the armed one. -/
def Bound (reads : Reads) (armed : String) (receipt : Json) : Prop :=
  ∃ bytes,
    (reads.gpgv = some bytes ∧ runner.verifies bytes = true) ∧
      runner.library.sha256.hexdigest bytes = armed ∧
      parse runner bytes = some receipt

/-- Every receipt that the run applies was signed and armed. -/
def ActsOnSigned (arguments : ApplyArguments) (reads : Reads) : Prop :=
  ∀ armed receipt authority,
    reachesApply runner arguments reads = .ok (armed, receipt, authority) →
      Bound runner reads armed receipt

/-- The reads before `read_json` show a file, signed bytes and armed bytes. -/
structure Opened (arguments : ApplyArguments) (reads : Reads)
    (armed : String) : Prop where
  arguments_ok : checkArguments runner arguments = .ok armed
  isFile : reads.isFile.isSome = true
  signerReady : arguments.signerReady = true
  signed : ∃ bytes, reads.gpgv = some bytes ∧ runner.verifies bytes = true
  armed_eq :
    ∃ bytes,
      reads.readBytes = some bytes ∧
        runner.library.sha256.hexdigest bytes = armed

/-- The path shows to `read_json` bytes with a receipt of their own that the
content checks admit. -/
structure ShowsAdmissible (reads : Reads) (receipt : Json)
    (authority : Authority) : Prop where
  shown : reads.readJson.bind (parse runner) = some receipt
  admitted : runner.validateContent receipt = .ok authority
  ready : ∃ url, runner.ready authority = .ok url

/-- The reads cannot be told apart by what the run makes of them: `read_json`
is shown the value, and `read_bytes` the hash, of the bytes that `gpgv` is
shown. -/
structure Unreplaced (reads : Reads) : Prop where
  value :
    reads.readJson.bind (parse runner) = reads.gpgv.bind (parse runner)
  hash :
    reads.readBytes.map runner.library.sha256.hexdigest =
      reads.gpgv.map runner.library.sha256.hexdigest

variable {runner}

theorem checkFileHashes_eq_ok_iff
    {expected actual : String} (lowercase : isSha256 actual = true) :
    checkFileHashes expected actual = .ok () ↔ actual = expected := by
  simp only [checkFileHashes, bind_eq_ok_iff, refuseIf_eq_ok_iff,
    exists_const, not_or, not_not, Bool.not_eq_false]
  constructor
  · rintro ⟨_, same⟩
    exact same.symm
  · rintro rfl
    exact ⟨⟨lowercase, lowercase⟩, rfl⟩

theorem verifyReceiptSignature_eq_ok_iff
    (arguments : ApplyArguments) (reads : Reads) (done : Unit) :
    verifyReceiptSignature runner arguments reads = .ok done ↔
      (reads.isFile.isSome = true ∧ arguments.signerReady = true) ∧
        ∃ bytes, reads.gpgv = some bytes ∧ runner.verifies bytes = true := by
  simp only [verifyReceiptSignature, bind_eq_ok_iff, refuseIf_eq_ok_iff,
    exists_const, not_or, Bool.not_eq_false, Option.any_eq_true]

theorem readReceiptBytes_eq_ok_iff (reads : Reads) (bytes : List UInt8) :
    readReceiptBytes reads = .ok bytes ↔ reads.readBytes = some bytes := by
  unfold readReceiptBytes
  cases reads.readBytes <;> simp

theorem readReceiptJson_eq_ok_iff (reads : Reads) (receipt : Json) :
    readReceiptJson runner reads = .ok receipt ↔
      reads.readJson.bind (parse runner) = some receipt := by
  unfold readReceiptJson
  cases reads.readJson.bind (parse runner) <;> simp

/-- What has to be shown for the run to apply.  The conditions on the three
reads have no content in common. -/
theorem reachesApply_eq_ok_iff
    (arguments : ApplyArguments) (reads : Reads) (armed : String)
    (receipt : Json) (authority : Authority) :
    reachesApply runner arguments reads = .ok (armed, receipt, authority) ↔
      Opened runner arguments reads armed ∧
        ShowsAdmissible runner reads receipt authority := by
  simp only [reachesApply, bind_eq_ok_iff, pure_eq_ok_iff,
    verifyReceiptSignature_eq_ok_iff, readReceiptBytes_eq_ok_iff,
    readReceiptJson_eq_ok_iff]
  constructor
  · rintro
      ⟨armed, checked, _, ⟨⟨isFile, signerReady⟩, signed⟩, bytes, read,
        receipt, shown, _, hashes, authority, admitted, url, ready, same⟩
    cases same
    have hash :=
      (checkFileHashes_eq_ok_iff
        (runner.library.sha256.isSha256_hexdigest bytes)).1 hashes
    exact
      ⟨⟨checked, isFile, signerReady, signed, bytes, read, hash⟩,
        ⟨shown, admitted, url, ready⟩⟩
  · rintro ⟨opened, shows⟩
    rcases opened.armed_eq with ⟨bytes, read, hash⟩
    rcases shows.ready with ⟨url, ready⟩
    have hashes :=
      (checkFileHashes_eq_ok_iff
        (runner.library.sha256.isSha256_hexdigest bytes)).2 hash
    exact
      ⟨armed, opened.arguments_ok, (),
        ⟨⟨opened.isFile, opened.signerReady⟩, opened.signed⟩, bytes, read,
        receipt, shows.shown, (), hashes, authority, shows.admitted, url,
        ready, rfl⟩

theorem ShowsAdmissible.of_bytes
    {reads : Reads} {bytes : List UInt8} {receipt : Json}
    {authority : Authority} {url : String}
    (shown : reads.readJson = some bytes)
    (parsed : parse runner bytes = some receipt)
    (admitted : runner.validateContent receipt = .ok authority)
    (ready : runner.ready authority = .ok url) :
    ShowsAdmissible runner reads receipt authority := by
  refine ⟨?_, admitted, url, ready⟩
  rw [shown, Option.bind_some]
  exact parsed

/-- A path that shows the same bytes to the three reads is not replaced. -/
theorem Unreplaced.of_same
    {reads : Reads} (json : reads.readJson = reads.gpgv)
    (bytes : reads.readBytes = reads.gpgv) :
    Unreplaced runner reads where
  value := by rw [json]
  hash := by rw [bytes]

/-- What the run acts on is bound exactly if the reads agree. -/
theorem bound_iff_unreplaced
    {arguments : ApplyArguments} {reads : Reads} {armed : String}
    {receipt : Json} {authority : Authority}
    (opened : Opened runner arguments reads armed)
    (shows : ShowsAdmissible runner reads receipt authority) :
    Bound runner reads armed receipt ↔ Unreplaced runner reads := by
  rcases opened.signed with ⟨signed, gpgv, verified⟩
  rcases opened.armed_eq with ⟨hashed, read, digest⟩
  constructor
  · rintro ⟨bytes, ⟨shown, _⟩, hash, parsed⟩
    constructor
    · rw [shows.shown, shown]
      exact parsed.symm
    · rw [read, shown, Option.map_some, Option.map_some, digest, hash]
  · intro same
    have hash := same.hash
    rw [read, gpgv, Option.map_some, Option.map_some, digest] at hash
    have value := same.value
    rw [shows.shown, gpgv] at value
    exact
      ⟨signed, ⟨gpgv, verified⟩, (Option.some.inj hash).symm, value.symm⟩

end Acted

/-- The reads before the last pass their checks, and the last is shown a
receipt that the content checks admit. -/
def PassesChecks {Authority : Type} (runner : Runner Authority)
    (arguments : ApplyArguments) (reads : Reads) : Prop :=
  ∃ armed receipt authority,
    Opened runner arguments reads armed ∧
      ShowsAdmissible runner reads receipt authority

/--
A run acts on signed and armed receipts only, exactly if one of the reads fails
the checks of its own or what `read_json` is shown is what `gpgv` verified and
`read_bytes` hashed.
-/
theorem actsOnSigned_iff
    {Authority : Type} (runner : Runner Authority)
    (arguments : ApplyArguments) (reads : Reads) :
    ActsOnSigned runner arguments reads ↔
      (PassesChecks runner arguments reads → Unreplaced runner reads) := by
  constructor
  · rintro acts ⟨armed, receipt, authority, opened, shows⟩
    have reaches :=
      (reachesApply_eq_ok_iff arguments reads armed receipt authority).2
        ⟨opened, shows⟩
    exact
      (bound_iff_unreplaced opened shows).1
        (acts armed receipt authority reaches)
  · intro unreplaced armed receipt authority reaches
    rcases (reachesApply_eq_ok_iff arguments reads armed receipt
        authority).1 reaches with
      ⟨opened, shows⟩
    exact
      (bound_iff_unreplaced opened shows).2
        (unreplaced ⟨armed, receipt, authority, opened, shows⟩)

/-! ## A receipt that is replaced before it is parsed -/

/-- A row, with the digests of its identity list, of the receipt's content and
of the receipt file. -/
structure RowReceipt where
  id : Int
  messageId : String
  identitiesDigest : Nat
  contentDigest : Nat
  fileDigest : Nat

/-- The row of the receipt that is signed. -/
def signedRow : RowReceipt :=
  ⟨1, "message-1",
    0xd526da2e917aaf0e93db0824d969c38c6852d87416f03abc6e93e1af5845d53f,
    0x6c4ca0bb9b6dbea8b5015fa0f7decebc1fe2d772d00fb481a3e8ee2b21d7f255,
    0x2eab26b4e179438df328ae89c9d1785d1d115f87e22eeb574ce6367100380ffb⟩

/-- The row of the receipt that takes its place. -/
def otherRow : RowReceipt :=
  ⟨2, "message-2",
    0xf82fe1ecac1032b7f53462e187674ba8a463ea4b5671b27f622a489495537086,
    0x025c8ed2fc78e4a7277000b3616f7a433d3d8b04cf2f59633c1b2072fe2af0ba,
    0xbcd366d279201de9b89f04131ab893e41865ab7273bee4380c35d3171c716f30⟩

/-- The identity of the row. -/
def RowReceipt.identity (row : RowReceipt) : Members :=
  [("id", .int row.id), ("message_id", .text row.messageId),
    ("payload_sha256", .text (hexText 7)), ("producer", .text "signals"),
    ("publish_attempts", .int 0), ("topic", .text "signals.v1")]

/-- The inspection of a receipt for the row. -/
def RowReceipt.inspection (row : RowReceipt) : Members :=
  [("identities", .array [.object row.identity]),
    ("identities_sha256", .text (hexText row.identitiesDigest)),
    ("result", .text "ELIGIBLE")]

/-- The plan in the order of its keys. -/
def planMembers : Members :=
  [("database_name", .text "kairos"), ("drain_id", .text "drain-1"),
    ("maximum_duration_seconds", .int 60), ("maximum_rows", .int 2),
    ("producer", .text "signals"), ("schema_version", .int 1),
    ("topic", .text "signals.v1")]

/-- The content of a receipt for the row, with its own hash or without. -/
def RowReceipt.content (row : RowReceipt) (hash : Members) : Members :=
  ("classification", .text "OFFLINE_SIGNED_PREFIX_ONLY") ::
    ("inspected_at_utc", .text "2024-01-01T00:00:00Z") ::
    ("inspection", .object row.inspection) ::
    ("kind", .text "kairos.offline-outbox-drain-inspection.v1") ::
    ("plan", .object planMembers) ::
    ("plan_sha256", .text (hexText planDigest)) ::
    (hash ++
      [("schema_version", .int 1), ("source", .object []),
        ("source_lock_sha256", .text (hexText lockDigest))])

/-- The receipt for the row. -/
def RowReceipt.receipt (row : RowReceipt) : Json :=
  .object
    (row.content [("receipt_sha256", .text (hexText row.contentDigest))])

/-- The values whose digests the run computes. -/
def knownValues : List (Json × Nat) :=
  [(signedRow.receipt, signedRow.fileDigest),
    (.object smallLock.document, lockDigest),
    (.object planMembers, planDigest),
    (.array [.object otherRow.identity], otherRow.identitiesDigest),
    (.object (otherRow.content []), otherRow.contentDigest)]

/-- Libraries that agree with the real ones on what the run passes to them. -/
def smallLibrary : DrainLibrary where
  floats := exponentFloats
  sha256 := tableDigest (digestsOf knownValues)
  iso := isoReader
  casefold := id
  localOffset := fun _ => utcOffset
  canonicalOutboxPayload := fun _ => .error .rejected

/-- The drain runner with a signature for one receipt. -/
def smallRunner : Runner (List PrefixIdentity) :=
  drainRunner smallLibrary ⟨exponentFloats.float, true⟩ smallLock
    (fun bytes => bytes = textBytes signedRow.receipt)
    ⟨midnight, some utcOffset⟩ (some "redis://localhost/0") smallPlan
    fun _ => .ok ()

/-- The arguments of a run that is armed with the signed receipt. -/
def smallArguments : ApplyArguments :=
  ⟨some "APPLY", 900, true, some (hexText signedRow.fileDigest), true⟩

/-- The file is replaced after its bytes have been hashed. -/
def replacedReads : Reads where
  isFile := some (textBytes signedRow.receipt)
  gpgv := some (textBytes signedRow.receipt)
  readBytes := some (textBytes signedRow.receipt)
  readJson := some (textBytes otherRow.receipt)

theorem canonical_identity (row : RowReceipt) :
    Canonical (.object row.identity) := by
  refine wellFormed_object ?_ ?_
  · simp only [RowReceipt.identity, List.map_cons, List.map_nil]
    decide
  · simp only [RowReceipt.identity, List.forall_mem_cons, List.not_mem_nil,
      false_implies, implies_true, and_true]
    exact ⟨.int _, .text _, .text _, .text _, .int _, .text _⟩

theorem canonical_identities (row : RowReceipt) :
    Canonical (.array [.object row.identity]) :=
  .array (by simpa using canonical_identity row)

theorem canonical_inspection (row : RowReceipt) :
    Canonical (.object row.inspection) := by
  refine wellFormed_object ?_ ?_
  · simp only [RowReceipt.inspection, List.map_cons, List.map_nil]
    decide
  · simp only [RowReceipt.inspection, List.forall_mem_cons,
      List.not_mem_nil, false_implies, implies_true, and_true]
    exact ⟨canonical_identities row, .text _, .text _⟩

theorem canonical_plan : Canonical (.object planMembers) := by
  refine wellFormed_object (by decide) ?_
  simp only [planMembers, List.forall_mem_cons, List.not_mem_nil,
    false_implies, implies_true, and_true]
  exact ⟨.text _, .text _, .int _, .int _, .text _, .int _, .text _⟩

theorem canonical_content (row : RowReceipt) :
    Canonical (.object (row.content [])) := by
  refine wellFormed_object ?_ ?_
  · simp only [RowReceipt.content, List.map_cons, List.map_nil,
      List.nil_append]
    decide
  · simp only [RowReceipt.content, List.nil_append, List.forall_mem_cons,
      List.not_mem_nil, false_implies, implies_true, and_true]
    exact
      ⟨.text _, .text _, canonical_inspection row, .text _, canonical_plan,
        .text _, .int _, wellFormed_object (by decide) (by simp), .text _⟩

theorem canonical_receipt (row : RowReceipt) : Canonical row.receipt := by
  refine wellFormed_object ?_ ?_
  · simp only [RowReceipt.content, List.map_cons, List.map_nil,
      List.cons_append, List.nil_append]
    decide
  · simp only [RowReceipt.content, List.cons_append, List.nil_append,
      List.forall_mem_cons, List.not_mem_nil, false_implies, implies_true,
      and_true]
    exact
      ⟨.text _, .text _, canonical_inspection row, .text _, canonical_plan,
        .text _, .text _, .int _, wellFormed_object (by decide) (by simp),
        .text _⟩

theorem fromUTF8?_utf8 (text : String) :
    String.fromUTF8? (utf8 text).toByteArray = some text := by
  have bytes : (utf8 text).toByteArray = text.toByteArray := by
    apply ByteArray.ext
    simp [utf8]
  unfold String.fromUTF8?
  rw [bytes, dif_pos text.isValidUTF8]
  rfl

theorem parse_textBytes (row : RowReceipt) :
    parse smallRunner (textBytes row.receipt) = some row.receipt := by
  unfold parse textBytes
  rw [fromUTF8?_utf8, Option.bind_some]
  exact loads_write rfl (canonical_receipt row)

theorem canonical_knownValues :
    ∀ entry ∈ knownValues, Canonical entry.1 := by
  simp only [knownValues, List.forall_mem_cons, List.not_mem_nil,
    false_implies, implies_true, and_true]
  exact
    ⟨canonical_receipt signedRow, canonical_lock, canonical_plan,
      canonical_identities otherRow, canonical_content otherRow⟩

theorem apart_knownValues : (knownValues.map Prod.fst).Nodup :=
  List.Nodup.of_map memberCount (by decide)

theorem sha256Json_known
    {value : Json} {digest : Nat} (known : (value, digest) ∈ knownValues) :
    sha256Json smallLibrary value = .ok (hexText digest) :=
  sha256Json_digestsOf rfl rfl apart_knownValues canonical_knownValues known

theorem payload_smallPlan : smallPlan.payload = planMembers := by
  have keys : KeysSorted planMembers := by
    apply List.pairwise_map.1
    apply List.isChain_iff_pairwise.1
    decide
  unfold DrainPlan.payload
  refine dict_eq_of_subset keys ?_ ?_ rfl
  · simp only [List.map_cons, List.map_nil]
    decide
  · intro member listed
    simp only [planMembers, List.mem_cons, List.not_mem_nil, or_false]
      at listed
    rcases listed with rfl | rfl | rfl | rfl | rfl | rfl | rfl <;>
      simp [smallPlan]

theorem otherIdentity_positive : (0 : Int) < 2 := by
  decide

/-- The identity that the other receipt authorises. -/
def otherIdentity : PrefixIdentity where
  id := 2
  producer := "signals"
  messageId := "message-2"
  topic := "signals.v1"
  payloadSha256 := hexText 7
  publishAttempts := 0
  positive := otherIdentity_positive
  producer_nonblank := inspectedIdentity.producer_nonblank
  messageId_nonblank := by decide
  topic_nonblank := inspectedIdentity.topic_nonblank
  lowercase := isSha256_hexText 7
  attempts_nonnegative := inspectedIdentity.attempts_nonnegative

theorem identityPayload_otherIdentity :
    identityPayload otherIdentity = .object otherRow.identity := by
  have keys : KeysSorted otherRow.identity := by
    apply List.pairwise_map.1
    apply List.isChain_iff_pairwise.1
    simp only [RowReceipt.identity, List.map_cons, List.map_nil]
    decide
  refine congrArg Json.object (dict_eq_of_subset keys ?_ ?_ rfl)
  · simp only [List.map_cons, List.map_nil]
    decide
  · intro member listed
    simp only [RowReceipt.identity, List.mem_cons, List.not_mem_nil,
      or_false] at listed
    rcases listed with rfl | rfl | rfl | rfl | rfl | rfl <;>
      simp [otherIdentity, otherRow]

theorem identitiesFromJson_other :
    identitiesFromJson (some (.array [.object otherRow.identity])) =
      .ok [otherIdentity] := by
  have same : identityMembers otherIdentity = otherRow.identity :=
    Json.object.inj identityPayload_otherIdentity
  have read :
      PrefixIdentity.ofColumns (membersRow otherRow.identity) =
        .ok otherIdentity := by
    rw [ofColumns_eq_ok_iff, ← same]
    exact hasIdentity_identityMembers otherIdentity
  have fields : keySet otherRow.identity = identityFields := by
    rw [← same]
    exact keySet_identityMembers otherIdentity
  unfold identitiesFromJson
  show readIdentity [] (.object otherRow.identity) >>= pure = _
  rw [bind_pure]
  unfold readIdentity
  simp only [bind_eq_ok_iff, refuseIf_eq_ok_iff, exists_const]
  exact ⟨not_not.2 fields, otherIdentity, read, by decide, rfl⟩

theorem isText_self (text : String) :
    SignedReceipt.isText (some (.text text)) text = true :=
  (pyEq_text_iff _ _).2 rfl

theorem checkArguments_small :
    checkArguments smallRunner smallArguments =
      .ok (hexText signedRow.fileDigest) := by
  decide +kernel

theorem hexdigest_signed :
    smallRunner.library.sha256.hexdigest (textBytes signedRow.receipt) =
      hexText signedRow.fileDigest :=
  hexdigest_tableDigest
    (nodup_digestsOf apart_knownValues canonical_knownValues)
    List.mem_cons_self

/-- A digest has no colon. -/
theorem hasConnectionString_hexText (digest : Nat) :
    hasConnectionString (hexText digest) = false := by
  have absent : ':' ∉ (hexText digest).toList := by
    intro colon
    have digits := isSha256_hexText digest
    simp only [isSha256, Bool.and_eq_true, List.all_eq_true] at digits
    exact absurd (digits.2 _ colon) (by decide)
  have postgres : ':' ∈ "postgres://".toList := by decide
  have redis : ':' ∈ "redis://".toList := by decide
  unfold hasConnectionString
  refine Bool.or_eq_false_iff.2 ⟨decide_eq_false ?_, decide_eq_false ?_⟩
  · exact fun inside => absent (inside.subset postgres)
  · exact fun inside => absent (inside.subset redis)

theorem checkEnvelope_other :
    checkEnvelope smallLibrary smallLock smallPlan
        (otherRow.content
          [("receipt_sha256", .text (hexText otherRow.contentDigest))]) =
      .ok () := by
  have redacted :
      assertReceiptRedacted smallLibrary
          (otherRow.content
            [("receipt_sha256", .text (hexText otherRow.contentDigest))]) =
        .ok () := by
    rw [assertReceiptRedacted, refuseIf_eq_ok_iff]
    simp only [RowReceipt.content, RowReceipt.inspection,
      RowReceipt.identity, planMembers, isRedacted, redactedItems,
      redactedMembers, hasConnectionString_hexText, List.cons_append,
      List.nil_append]
    decide
  have lockHash :=
    sha256Json_known (List.mem_cons_of_mem _ List.mem_cons_self)
  have planHash :
      sha256Json smallLibrary (.object smallPlan.payload) =
        .ok (hexText planDigest) := by
    rw [payload_smallPlan]
    exact
      sha256Json_known
        (List.mem_cons_of_mem _
          (List.mem_cons_of_mem _ List.mem_cons_self))
  have contentHash :
      sha256Json smallLibrary
          (.object
            (receiptWithoutHash
              (otherRow.content
                [("receipt_sha256",
                  .text (hexText otherRow.contentDigest))]))) =
        .ok (hexText otherRow.contentDigest) :=
    sha256Json_known (List.mem_of_getLast? rfl)
  have samePlan :
      (Json.object planMembers).pyEq (.object smallPlan.payload) = true := by
    rw [payload_smallPlan]
    decide
  unfold checkEnvelope
  simp only [bind_eq_ok_iff, refuseIf_eq_ok_iff, exists_const]
  refine
    ⟨_, contentHash, ?_, (), redacted, ?_, ?_, _, lockHash, ?_, _, planHash,
      ?_, ?_⟩
  · rw [Bool.not_eq_false]
    exact isText_self _
  · rw [Bool.not_eq_false]
    exact isText_self _
  · rw [Bool.not_eq_false]
    exact isText_self _
  · rw [Bool.not_eq_false]
    exact isText_self _
  · rw [not_or, Bool.not_eq_false, Bool.not_eq_false]
    exact ⟨isText_self _, samePlan⟩
  · show
      refuseIf
          (SignedReceipt.isText (some (.text "ELIGIBLE")) "ELIGIBLE" = false)
          _ =
        _
    rw [refuseIf_eq_ok_iff, Bool.not_eq_false]
    exact isText_self _

/-- The content checks admit the other receipt: its hash is its own. -/
theorem validateContent_other :
    smallRunner.validateContent otherRow.receipt = .ok [otherIdentity] := by
  have identities :
      receiptIdentities smallLibrary
          (otherRow.content
            [("receipt_sha256",
              .text (hexText otherRow.contentDigest))]) =
        .ok [otherIdentity] := by
    have valuesHash :
        sha256Json smallLibrary (identitiesPayload [otherIdentity]) =
          .ok (hexText otherRow.identitiesDigest) := by
      unfold identitiesPayload
      rw [List.map_singleton, identityPayload_otherIdentity]
      exact
        sha256Json_known
          (List.mem_cons_of_mem _
            (List.mem_cons_of_mem _
              (List.mem_cons_of_mem _ List.mem_cons_self)))
    show
      (identitiesFromJson (some (.array [.object otherRow.identity])) >>=
          fun identities => _) =
        _
    rw [bind_eq_ok_iff]
    refine ⟨_, identitiesFromJson_other, ?_⟩
    rw [bind_eq_ok_iff]
    refine ⟨_, valuesHash, ?_⟩
    rw [bind_eq_ok_iff]
    refine ⟨(), ?_, rfl⟩
    rw [refuseIf_eq_ok_iff, Bool.not_eq_false]
    exact isText_self _
  have age :
      checkAge smallLibrary smallLock
          (otherRow.content
            [("receipt_sha256", .text (hexText otherRow.contentDigest))])
          ⟨midnight, some utcOffset⟩ =
        .ok () := by
    decide +kernel
  show (checkEnvelope smallLibrary smallLock smallPlan _ >>= fun _ => _) = _
  rw [bind_eq_ok_iff]
  refine ⟨(), checkEnvelope_other, ?_⟩
  rw [bind_eq_ok_iff]
  refine ⟨_, identities, ?_⟩
  simp only [bind_eq_ok_iff, refuseIf_eq_ok_iff, exists_const]
  exact ⟨by decide, by decide, (), age, rfl⟩

theorem verifies_small (bytes : List UInt8) :
    smallRunner.verifies bytes = true ↔
      bytes = textBytes signedRow.receipt :=
  decide_eq_true_iff

theorem signed_ne_other : signedRow.receipt ≠ otherRow.receipt := by
  intro same
  have contents := Json.object.inj same
  have inspections :
      Json.object signedRow.inspection = .object otherRow.inspection :=
    congrArg (fun members => (members.getD 2 ("", .null)).2) contents
  have lists :
      Json.array [.object signedRow.identity] =
        .array [.object otherRow.identity] :=
    congrArg (fun members => (members.getD 0 ("", .null)).2)
      (Json.object.inj inspections)
  have identities : signedRow.identity = otherRow.identity :=
    Json.object.inj (List.head_eq_of_cons_eq (Json.array.inj lists))
  have ids : Json.int signedRow.id = .int otherRow.id :=
    congrArg (fun members => (members.getD 0 ("", .null)).2) identities
  have apart : signedRow.id ≠ otherRow.id := by decide
  exact apart (Json.int.inj ids)

theorem opened_replaced :
    Opened smallRunner smallArguments replacedReads
      (hexText signedRow.fileDigest) where
  arguments_ok := checkArguments_small
  isFile := rfl
  signerReady := rfl
  signed := ⟨_, rfl, (verifies_small _).2 rfl⟩
  armed_eq := ⟨_, rfl, hexdigest_signed⟩

theorem readNonemptySecret_small :
    ∃ url,
      readNonemptySecret "Redis URL file" (some "redis://localhost/0") =
        .ok url :=
  ⟨_, rfl⟩

theorem shows_replaced :
    ShowsAdmissible smallRunner replacedReads otherRow.receipt
      [otherIdentity] := by
  rcases readNonemptySecret_small with ⟨url, read⟩
  exact .of_bytes rfl (parse_textBytes otherRow) validateContent_other read

/-- No bytes that are signed parse to the other receipt. -/
theorem unsigned_other (bytes : List UInt8)
    (signed : smallRunner.verifies bytes = true) :
    parse smallRunner bytes ≠ some otherRow.receipt := by
  intro parsed
  rw [(verifies_small bytes).1 signed, parse_textBytes] at parsed
  exact signed_ne_other (Option.some.inj parsed)

/-- The run applies a receipt that nobody signed. -/
theorem actsOnSigned_replaced :
    ¬ ActsOnSigned smallRunner smallArguments replacedReads ∧
      ∀ bytes, smallRunner.verifies bytes = true →
        parse smallRunner bytes ≠ some otherRow.receipt := by
  refine ⟨fun acts => ?_, unsigned_other⟩
  have reaches :=
    (reachesApply_eq_ok_iff smallArguments replacedReads _ _ _).2
      ⟨opened_replaced, shows_replaced⟩
  rcases acts _ _ _ reaches with ⟨bytes, ⟨_, signed⟩, _, parsed⟩
  exact unsigned_other bytes signed parsed

end KairosDeploy.Drain.ReceiptReads
