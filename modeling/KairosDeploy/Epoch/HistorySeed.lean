import KairosDeploy.Library.Refusal
import KairosDeploy.Library.ArithmeticChain
import KairosDeploy.Library.JsonText
import KairosDeploy.Library.Timestamp
import KairosDeploy.Library.HexDigest
import KairosDeploy.Library.DatabaseRow
import KairosDeploy.Epoch.AuditAnchors

/-!
# The history seed of a new epoch

`_Accumulator.add` validates one exported row against everything seen before
it, and two drivers feed it: `measure_history` computes the digest and the
anchors of an export, and `seed_history` inserts the export in batches inside
one transaction.  This module translates the accumulator with all its checks
and both drivers, and proves that a seed is exact or does not happen.
-/

namespace KairosDeploy.Epoch.HistorySeed

open KairosDeploy.Library.Refusal
open KairosDeploy.Library.ArithmeticChain
open KairosDeploy.Library.PyNumber
open KairosDeploy.Library.JsonValue
open KairosDeploy.Library.JsonText
open KairosDeploy.Library.Timestamp
open KairosDeploy.Library.HexDigest
open KairosDeploy.Library.DatabaseRow
open KairosDeploy.Epoch.Contract
open KairosDeploy.Epoch.AuditAnchors

/-! ## Constants -/

/-- `SCHEMA_VERSION`. -/
def schemaVersion : String := "1.0"

/-- `CONTRACT_VERSION`. -/
def contractVersion : String := "closed-bar.v1"

/-- `MAX_ROW_BYTES`. -/
def maxRowBytes : Nat := 1 * 1024 * 1024

/-- `_PAYLOAD_FIELDS`. -/
def payloadFields : Finset String :=
  {"schema_version", "message_id", "correlation_id", "causation_id",
    "produced_at", "source", "contract_version", "venue", "symbol",
    "timeframe", "open_time_ms", "close_time_ms", "open", "high", "low",
    "close", "base_volume", "quote_volume", "taker_buy_base_volume",
    "taker_buy_quote_volume", "is_closed", "bar_sha256"}

/-- `_BAR_IDENTITY_FIELDS`. -/
def barIdentityFields : List String :=
  ["base_volume", "close", "close_time_ms", "contract_version", "high",
    "is_closed", "low", "open", "open_time_ms", "quote_volume", "symbol",
    "taker_buy_base_volume", "taker_buy_quote_volume", "timeframe", "venue"]

/-- The columns that `add` requires. -/
def requiredColumns : List String :=
  ["produced_at", "message_id", "topic", "source", "schema_version",
    "correlation_id", "causation_id", "payload", "outbox_count",
    "outbox_topic", "outbox_producer", "outbox_payload",
    "stored_payload_sha256"]

/-! ## What the code reads -/

/-- What a seed raises. -/
inductive SeedFailure where
  | seedError (message : String)
  | overflowError
  | database (message : String)
deriving DecidableEq

/-- An exported row, by the names of its columns. -/
abbrev ExportRow := Row

/-- The functions of other libraries that the module calls. -/
structure SeedLibrary where
  floats : FloatText
  sha256 : Sha256
  iso : IsoReader
  /-- `orjson.dumps` with sorted keys, where `orjson` can be imported. -/
  orjson : Option (Json → Option (List UInt8))

/-- `Anchor`. -/
structure Anchor where
  count : Nat
  firstOpenTimeMs : Int
  lastOpenTimeMs : Int
  lastCloseTimeMs : Int
deriving DecidableEq

/-- `SeedExpectation`. -/
structure SeedExpectation where
  anchors : Dict Anchor
  orderedDigestSha256 : String

/-- `SeedLimits`. -/
structure SeedLimits where
  maximumRows : Int
  maximumBytes : Int
  maximumSeconds : Int

/-- `SourceIdentity`. -/
structure SourceIdentity where
  databaseName : String
  epochId : String
  readOnly : Bool
  pinnedSnapshot : Bool

/-- `TargetIdentity`. -/
structure TargetIdentity where
  databaseName : String
  epochId : String
  schemaVerified : Bool
  freshNonTradingEpoch : Bool
  protectedSourceOrShadow : Bool

/-- One row that `TARGET_INSERT_SQL` inserts. -/
structure AuditTuple where
  producedAt : CivilTime
  messageId : RawValue
  topic : RawValue
  source : RawValue
  schemaVersion : RawValue
  correlationId : RawValue
  causationId : RawValue
  payload : String

/-- The target tables: audit rows in the order of insertion. -/
structure Target where
  eventAudit : List AuditTuple
  messageOutboxRows : Nat

/-- `SeedReceipt`. -/
structure SeedReceipt where
  rows : Nat
  bytes : Nat
  orderedDigestSha256 : String
  anchors : Dict Anchor
  targetDatabase : String
  targetEpochId : String
  targetOutboxRowsAfter : Nat

/-! ## Comparisons of columns -/

/-- A required column. -/
def column (raw : ExportRow) (name : String) : RawValue :=
  raw.get name

/-- A member of a payload whose fields have been checked. -/
def field (payload : Members) (name : String) : Json :=
  (getMember payload name).getD .null

/-! ## Validation without state -/

section Validation

variable (library : SeedLibrary)

/-- `canonical_json`. -/
def canonicalJson (value : Json) : Except SeedFailure (List UInt8) :=
  match dumps library.floats value with
  | some text => .ok (utf8 text)
  | none => .error (.seedError "history row is not canonical JSON data")

/-- `0.0 if isinstance(item, float) and item == 0 else item`. -/
def normalizedZero : Json → Json
  | .float value =>
      if pyEqual value.comparable (comparableInt 0) then
        .float ((PyFloat.ofInt 0).getD .nan)
      else
        .float value
  | item => item

/-- `_contract_canonical_json`. -/
def contractCanonicalJson (value : Members) :
    Except SeedFailure (List UInt8) :=
  let normalized : Json :=
    .object (value.map fun entry => (entry.1, normalizedZero entry.2))
  match library.orjson with
  | some orjsonDumps =>
      match orjsonDumps normalized with
      | some bytes => .ok bytes
      | none =>
          .error
            (.seedError "closed-bar identity is not canonical JSON data")
  | none => canonicalJson library normalized

/-- `_utc_datetime`. -/
def utcDatetime (value : RawValue) (label : String) :
    Except SeedFailure CivilTime := do
  let time ←
    match value with
    | .json (.text text) =>
        match library.iso.fromisoformat
            (replaceAll ['Z'] zeroOffset text) with
        | some time => .ok (some time)
        | none =>
            .error (.seedError (label ++ " is not an ISO-8601 timestamp"))
    | .json _ => .ok none
    | .time time => .ok (some time)
  match time with
  | none => .error (.seedError (label ++ " must be timezone-aware"))
  | some time => do
      refuseIf (time.offset = none)
        (.seedError (label ++ " must be timezone-aware"))
      match time.astimezone with
      | some civil => return civil
      | none => .error .overflowError

/-- `_payload`. -/
def payloadOf (value : RawValue) : Except SeedFailure Members := do
  let value ←
    match value with
    | .json (.text text) =>
        match loads ⟨library.floats.float, false⟩ text with
        | some value => .ok (some value)
        | none => .error (.seedError "history payload is not valid JSON")
    | .json value => .ok (some value)
    | .time _ => .ok none
  match value with
  | some (.object members) => do
      refuseIf (keySet members ≠ payloadFields)
        (.seedError
          ("history payload does not match the exact CLOSED_BAR v1 " ++
            "envelope"))
      return members
  | _ =>
      .error
        (.seedError
          ("history payload does not match the exact CLOSED_BAR v1 " ++
            "envelope"))

/-- `_finite_number`. -/
def finiteNumber (payload : Members) (name : String) (positive : Bool) :
    Except SeedFailure Comparable := do
  let converted ←
    match field payload name with
    | .int value =>
        match PyFloat.ofInt value with
        | some float => .ok float
        | none => .error .overflowError
    | .float value => .ok value
    | _ =>
        .error
          (.seedError "history OHLCV values must be finite numbers")
  refuseIf (converted.isFinite = false)
    (.seedError "history OHLCV values must be finite numbers")
  refuseIf (positive = true ∧ pyLe converted.comparable (comparableInt 0))
    (.seedError "history OHLC values must be positive")
  refuseIf
    (positive = false ∧ pyLt converted.comparable (comparableInt 0))
    (.seedError "history volumes must be non-negative")
  return converted.comparable

/-- The checks of prices and volumes. -/
def checkNumbers (payload : Members) : Except SeedFailure Unit := do
  let openPrice ← finiteNumber payload "open" true
  let high ← finiteNumber payload "high" true
  let low ← finiteNumber payload "low" true
  let close ← finiteNumber payload "close" true
  let base ← finiteNumber payload "base_volume" false
  let quote ← finiteNumber payload "quote_volume" false
  let takerBase ← finiteNumber payload "taker_buy_base_volume" false
  let takerQuote ← finiteNumber payload "taker_buy_quote_volume" false
  refuseIf
    (pyLt high openPrice ∨ pyLt high close ∨ pyLt openPrice low ∨
      pyLt close low ∨ pyLt high low)
    (.seedError "bar OHLC geometry is invalid")
  refuseIf (pyLt base takerBase ∨ pyLt quote takerQuote)
    (.seedError "bar taker-buy volume exceeds total volume")

/-- What the stateless checks read off a row. -/
structure ParsedRow where
  producedAt : CivilTime
  payload : Members
  symbol : String
  openMs : Int
  closeMs : Int
  messageId : String

/-- The checks of `add` before the first one that needs the state. -/
def parseRow (raw : ExportRow) : Except SeedFailure ParsedRow := do
  refuseIf (requiredColumns.any (fun name => (raw name).isNone) = true)
    (.seedError "source export row is incomplete")
  refuseIf
    ((column raw "topic").eqJson (.text topic) = false ∨
      (column raw "source").eqJson (.text source) = false ∨
      (column raw "schema_version").eqJson (.text schemaVersion) = false)
    (.seedError "source audit identity is not canonical CLOSED_BAR v1")
  let producedAt ←
    utcDatetime library (column raw "produced_at") "audit produced_at"
  let payload ← payloadOf library (column raw "payload")
  refuseIf
    ((field payload "schema_version").pyEq (.text schemaVersion) = false ∨
      (field payload "source").pyEq (.text source) = false ∨
      (field payload "contract_version").pyEq (.text contractVersion) =
        false ∨
      (field payload "venue").pyEq (.text "BINANCE_UM") = false ∨
      (field payload "timeframe").pyEq (.text "1m") = false ∨
      (field payload "is_closed").isTrue = false ∨
      (column raw "schema_version").eqJson
        (field payload "schema_version") = false ∨
      (column raw "message_id").eqJson (field payload "message_id") =
        false ∨
      (column raw "correlation_id").eqJson
        (field payload "correlation_id") = false ∨
      (column raw "causation_id").eqJson (field payload "causation_id") =
        false)
    (.seedError "payload envelope does not match the source audit identity")
  let payloadProducedAt ←
    utcDatetime library (.json (field payload "produced_at"))
      "payload produced_at"
  refuseIf (payloadProducedAt ≠ producedAt)
    (.seedError "payload envelope does not match the source audit identity")
  match field payload "symbol" with
  | .text symbol => do
      refuseIf (symbol ∉ symbols)
        (.seedError
          "CLOSED_BAR symbol is outside the fixed five-symbol scope")
      match field payload "open_time_ms", field payload "close_time_ms" with
      | .int openMs, .int closeMs => do
          refuseIf
            (openMs < 0 ∨ openMs % minute ≠ 0 ∨
              closeMs ≠ openMs + minute - 1)
            (.seedError "bar timestamps must be minute-aligned and final")
          checkNumbers payload
          let identity :=
            dict (barIdentityFields.map fun name =>
              (name, field payload name))
          let bytes ← contractCanonicalJson library identity
          let barHash := library.sha256.hexdigest bytes
          refuseIf
            ((field payload "bar_sha256").pyEq (.text barHash) = false ∨
              (column raw "message_id").eqJson (.text barHash) = false)
            (.seedError "bar identity hash or message_id differs")
          refuseIf (barHash = "")
            (.seedError "source message_id is invalid")
          return ⟨producedAt, payload, symbol, openMs, closeMs, barHash⟩
      | _, _ =>
          .error
            (.seedError "bar timestamps must be integer milliseconds")
  | _ =>
      .error
        (.seedError
          "CLOSED_BAR symbol is outside the fixed five-symbol scope")

/-- The digest row and the row to insert. -/
structure EncodedRow where
  encoded : List UInt8
  tuple : AuditTuple

/-- A column as a JSON value; a time cannot be written. -/
def columnJson : RawValue → Except SeedFailure Json
  | .json value => .ok value
  | .time _ =>
      .error (.seedError "history row is not canonical JSON data")

/-- The checks of `add` after the last one that needs the sequence. -/
def encodeRow (raw : ExportRow) (parsed : ParsedRow) :
    Except SeedFailure EncodedRow := do
  refuseIf ((column raw "outbox_count").isInt 1 = false)
    (.seedError
      "source row must have exactly one immutable legacy outbox identity")
  refuseIf
    ((column raw "outbox_topic").eqJson (.text topic) = false ∨
      (column raw "outbox_producer").eqJson (.text source) = false)
    (.seedError
      "legacy outbox identity is not the matching CLOSED_BAR producer")
  let outboxPayload ← payloadOf library (column raw "outbox_payload")
  refuseIf
    ((Json.object outboxPayload).pyEq (.object parsed.payload) = false)
    (.seedError "legacy outbox and event audit payloads differ")
  let payloadBytes ← canonicalJson library (.object parsed.payload)
  let calculatedHash := library.sha256.hexdigest payloadBytes
  refuseIf
    ((column raw "stored_payload_sha256").eqJson (.text calculatedHash) =
        false ∨
      isSha256 calculatedHash = false)
    (.seedError "canonical payload hash differs from the stored outbox hash")
  let correlationId ← columnJson (column raw "correlation_id")
  let causationId ← columnJson (column raw "causation_id")
  let encoded ←
    canonicalJson library
      (.object
        (dict
          [("produced_at", .text (isoformat parsed.producedAt)),
            ("message_id", .text parsed.messageId),
            ("topic", .text topic),
            ("source", .text source),
            ("schema_version", .text schemaVersion),
            ("correlation_id", correlationId),
            ("causation_id", causationId),
            ("payload", .object parsed.payload),
            ("stored_payload_sha256", .text calculatedHash)]))
  pure
    ⟨encoded,
      { producedAt := parsed.producedAt
        messageId := column raw "message_id"
        topic := column raw "topic"
        source := column raw "source"
        schemaVersion := column raw "schema_version"
        correlationId := column raw "correlation_id"
        causationId := column raw "causation_id"
        payload :=
          String.ofList (write library.floats (.object parsed.payload)) }⟩

end Validation

/-! ## The accumulator -/

/-- The arguments of `_Accumulator`. -/
structure AccumulatorConfig where
  expectedAnchors : Dict Anchor
  expectedDigest : Option String
  limits : SeedLimits

/-- The state of `_Accumulator`; `fed` is what its digest has read. -/
structure Accumulator where
  rows : Nat
  bytes : Nat
  fed : List UInt8
  seenIds : List String
  previous : Dict Int
  first : Dict Int
  last : Dict (Int × Int)
  counts : Dict Nat

/-- The state before the first row. -/
def Accumulator.initial : Accumulator where
  rows := 0
  bytes := 0
  fed := []
  seenIds := []
  previous := ∅
  first := ∅
  last := ∅
  counts :=
    symbols.foldl (fun counts symbol => counts.insert symbol 0) ∅

/-- `_Accumulator.__init__`. -/
def checkConfig (config : AccumulatorConfig) : Except SeedFailure Unit := do
  refuseIf (¬ FiveSymbols config.expectedAnchors)
    (.seedError "exact expected anchors for all five symbols are required")
  refuseIf (config.expectedDigest.any (fun digest => !isSha256 digest) = true)
    (.seedError "expected ordered source digest is invalid")
  refuseIf
    (config.limits.maximumRows ≤ 0 ∨ config.limits.maximumBytes ≤ 0 ∨
      config.limits.maximumSeconds ≤ 0)
    (.seedError "positive bounded seed limits are required")

/-- `len(encoded).to_bytes(8, "big")`. -/
def lengthPrefix (length : Nat) : List UInt8 :=
  (List.range 8).reverse.map fun index =>
    UInt8.ofNat (length / 256 ^ index)

/-- What one row feeds to the digest. -/
def frame (encoded : List UInt8) : List UInt8 :=
  lengthPrefix encoded.length ++ encoded

/-- Whether the clock has passed the time bound at a reading. -/
def Expired (limits : SeedLimits) (clock : Nat → ℚ) (reading : Nat) : Prop :=
  (limits.maximumSeconds : ℚ) < clock reading - clock 0

instance (limits : SeedLimits) (clock : Nat → ℚ) (reading : Nat) :
    Decidable (Expired limits clock reading) :=
  inferInstanceAs (Decidable (_ < _))

/-- The state after a row has passed. -/
def Accumulator.record
    (state : Accumulator) (parsed : ParsedRow) (row : EncodedRow) :
    Accumulator where
  rows := state.rows + 1
  bytes := state.bytes + row.encoded.length
  fed := state.fed ++ frame row.encoded
  seenIds := state.seenIds ++ [parsed.messageId]
  previous := state.previous.insert parsed.symbol parsed.openMs
  first :=
    state.first.insert parsed.symbol
      ((state.first.lookup parsed.symbol).getD parsed.openMs)
  last := state.last.insert parsed.symbol (parsed.openMs, parsed.closeMs)
  counts :=
    state.counts.insert parsed.symbol
      ((state.counts.lookup parsed.symbol).getD 0 + 1)

section Drivers

variable (library : SeedLibrary) (clock : Nat → ℚ)

/-- `_Accumulator.add`.  Reading 0 of the clock is the start. -/
def add (limits : SeedLimits) (state : Accumulator) (raw : ExportRow) :
    Except SeedFailure (Accumulator × AuditTuple) := do
  refuseIf (Expired limits clock (state.rows + 1))
    (.seedError "history seed exceeded its time bound")
  let parsed ← parseRow library raw
  refuseIf (parsed.messageId ∈ state.seenIds)
    (.seedError "source message_id is duplicated")
  refuseIf
    ((state.previous.lookup parsed.symbol).any
      (fun previous => parsed.openMs ≠ previous + minute) = true)
    (.seedError "per-symbol CLOSED_BAR sequence is not contiguous")
  let row ← encodeRow library raw parsed
  let after := state.record parsed row
  refuseIf
    (limits.maximumRows < after.rows ∨ limits.maximumBytes < after.bytes ∨
      maxRowBytes < row.encoded.length)
    (.seedError "history seed exceeded its row or byte bound")
  return (after, row.tuple)

/-- The anchor of one symbol. -/
def anchorOf (state : Accumulator) (symbol : String) :
    Except SeedFailure Anchor := do
  let count := (state.counts.lookup symbol).getD 0
  refuseIf (count = 0)
    (.seedError "source history is incomplete for a required symbol")
  let (lastOpen, lastClose) := (state.last.lookup symbol).getD (0, 0)
  return ⟨count, (state.first.lookup symbol).getD 0, lastOpen, lastClose⟩

/-- The anchors of all symbols. -/
def actualAnchors (state : Accumulator) : Except SeedFailure (Dict Anchor) :=
  symbols.foldlM
    (fun actual symbol => do
      let anchor ← anchorOf state symbol
      return actual.insert symbol anchor)
    ∅

/-- `left == right` for dictionaries. -/
def SameDict (left right : Dict Anchor) : Prop :=
  left.keys.toFinset = right.keys.toFinset ∧
    ∀ key ∈ left.keys, left.lookup key = right.lookup key

instance (left right : Dict Anchor) : Decidable (SameDict left right) :=
  inferInstanceAs (Decidable (_ ∧ _))

/-- `_Accumulator.finish`. -/
def finish (config : AccumulatorConfig) (state : Accumulator) :
    Except SeedFailure (String × Dict Anchor) := do
  refuseIf (Expired config.limits clock (state.rows + 1))
    (.seedError "history seed exceeded its time bound")
  let actual ← actualAnchors state
  let digest := library.sha256.hexdigest state.fed
  refuseIf
    (¬ SameDict actual config.expectedAnchors ∨
      config.expectedDigest.any (fun expected => digest ≠ expected) = true)
    (.seedError
      "source history counts, final anchors, or ordered digest differ")
  return (digest, actual)

/-- `measure_history`. -/
def measureHistory
    (rows : List ExportRow) (expectedAnchors : Dict Anchor)
    (limits : SeedLimits) : Except SeedFailure SeedExpectation := do
  let config : AccumulatorConfig := ⟨expectedAnchors, none, limits⟩
  checkConfig config
  let state ←
    rows.foldlM
      (fun state raw => do
        let (after, _) ← add library clock limits state raw
        return after)
      Accumulator.initial
  let (digest, anchors) ← finish library clock config state
  return ⟨anchors, digest⟩

/-! ## The seed -/

/-- `NEW_EPOCH_DB_RE.fullmatch`. -/
def isNewEpochDatabase (name : String) : Bool :=
  name.toList.take 13 = "kairos_epoch_".toList &&
    name.toList.length = 25 &&
    (name.toList.drop 13).all fun character =>
      character.isDigit || 'a' ≤ character && character ≤ 'f'

/-- `validate_epoch_pair`. -/
def validateEpochPair (source : SourceIdentity) (target : TargetIdentity) :
    Except SeedFailure Unit := do
  refuseIf (source.readOnly = false ∨ source.pinnedSnapshot = false)
    (.seedError "source must be read-only and pinned to one epoch snapshot")
  refuseIf (source.databaseName = "" ∨ source.epochId = "")
    (.seedError "pinned source database and epoch identities are required")
  refuseIf
    (target.databaseName = source.databaseName ∨
      target.epochId = source.epochId)
    (.seedError "target must be a separately named database and epoch")
  refuseIf (isNewEpochDatabase target.databaseName = false)
    (.seedError "target database must have an explicitly new epoch name")
  refuseIf
    (target.epochId = "" ∨ target.schemaVerified = false ∨
      target.freshNonTradingEpoch = false)
    (.seedError "target must be a verified, fresh non-trading epoch")
  refuseIf (target.protectedSourceOrShadow = true)
    (.seedError "primary and preserved shadow targets are forbidden")

/--
Which calls to the target database fail, and with which message.  Calls are
counted from 0.
-/
abbrev DatabaseFaults := Nat → Option String

/-- A call to the target database. -/
def databaseCall (faults : DatabaseFaults) (call : Nat) :
    Except SeedFailure Unit :=
  match faults call with
  | some message => .error (.database message)
  | none => .ok ()

/-- The local variables of the loop of `seed_history`. -/
structure Seeding where
  accumulator : Accumulator
  batch : List AuditTuple
  inserted : Nat
  target : Target
  calls : Nat

/-- `executemany(TARGET_INSERT_SQL, batch)`. -/
def insertBatch (faults : DatabaseFaults) (state : Seeding) :
    Except SeedFailure Seeding := do
  databaseCall faults state.calls
  pure
    { state with
      batch := []
      inserted := state.inserted + state.batch.length
      target :=
        { state.target with
          eventAudit := state.target.eventAudit ++ state.batch }
      calls := state.calls + 1 }

/-- `if batch:` after the loop. -/
def insertRest (faults : DatabaseFaults) (state : Seeding) :
    Except SeedFailure Seeding :=
  if state.batch.isEmpty then .ok state else insertBatch faults state

/-- One round of the loop. -/
def seedRow
    (faults : DatabaseFaults) (limits : SeedLimits) (batchSize : Int)
    (state : Seeding) (raw : ExportRow) : Except SeedFailure Seeding := do
  let (accumulator, tuple) ← add library clock limits state.accumulator raw
  let state :=
    { state with
      accumulator := accumulator
      batch := state.batch ++ [tuple] }
  if (state.batch.length : Int) = batchSize then
    insertBatch faults state
  else
    return state

/-- The transaction: the tables after it and what the receipt needs. -/
def seedTransaction
    (faults : DatabaseFaults) (config : AccumulatorConfig)
    (rows : List ExportRow) (batchSize : Int) (target : Target) :
    Except SeedFailure (Seeding × String × Dict Anchor) := do
  databaseCall faults 0
  refuseIf
    (target.eventAudit.length ≠ 0 ∨ target.messageOutboxRows ≠ 0)
    (.seedError
      "fresh target must start with empty event_audit and message_outbox")
  let looped ←
    rows.foldlM
      (seedRow library clock faults config.limits batchSize)
      ⟨Accumulator.initial, [], 0, target, 1⟩
  let state ← insertRest faults looped
  let (digest, anchors) ← finish library clock config state.accumulator
  refuseIf (state.inserted ≠ state.accumulator.rows)
    (.seedError "target audit insertion count is incomplete")
  databaseCall faults state.calls
  refuseIf
    (state.target.eventAudit.length ≠ state.inserted ∨
      state.target.messageOutboxRows ≠ 0)
    (.seedError "target post-seed audit/outbox counts differ")
  return (state, digest, anchors)

/--
`async with target.transaction()`: the tables are those of the body when it
returns, and the old ones when it raises.
-/
def commitOrRollback {Result : Type} (before : Target)
    (body : Except SeedFailure (Result × Target)) :
    Except SeedFailure Result × Target :=
  match body with
  | .ok (result, after) => (.ok result, after)
  | .error failure => (.error failure, before)

/-- The arguments of `seed_history` besides the rows and the target. -/
structure SeedArguments where
  source : SourceIdentity
  targetIdentity : TargetIdentity
  expected : SeedExpectation
  limits : SeedLimits
  batchSize : Int

/-- The configuration of the accumulator of a seed. -/
def SeedArguments.config (arguments : SeedArguments) : AccumulatorConfig where
  expectedAnchors := arguments.expected.anchors
  expectedDigest := some arguments.expected.orderedDigestSha256
  limits := arguments.limits

/-- The checks of `seed_history` before the transaction. -/
def checkArguments (arguments : SeedArguments) : Except SeedFailure Unit := do
  validateEpochPair arguments.source arguments.targetIdentity
  refuseIf (¬ (1 ≤ arguments.batchSize ∧ arguments.batchSize ≤ 1000))
    (.seedError "target insert batch must be bounded to 1..1000 rows")
  checkConfig arguments.config

/-- `seed_history`: what it returns or raises, and the target after it. -/
def seedHistory
    (faults : DatabaseFaults) (arguments : SeedArguments)
    (rows : List ExportRow) (target : Target) :
    Except SeedFailure SeedReceipt × Target :=
  match checkArguments arguments with
  | .error failure => (.error failure, target)
  | .ok () =>
      commitOrRollback target do
        let (state, digest, anchors) ←
          seedTransaction library clock faults arguments.config rows
            arguments.batchSize target
        pure
          ({ rows := state.inserted
             bytes := state.accumulator.bytes
             orderedDigestSha256 := digest
             anchors := anchors
             targetDatabase := arguments.targetIdentity.databaseName
             targetEpochId := arguments.targetIdentity.epochId
             targetOutboxRowsAfter := 0 },
            state.target)

end Drivers

/-! ## What the checks of one row establish -/

section Rows

variable {library : SeedLibrary}

/-- What the stateless checks read off a row is in the row. -/
structure ParsedFrom
    (library : SeedLibrary) (raw : ExportRow) (parsed : ParsedRow) :
    Prop where
  producedAt :
    utcDatetime library (column raw "produced_at") "audit produced_at" =
      .ok parsed.producedAt
  payload :
    payloadOf library (column raw "payload") = .ok parsed.payload
  symbol : field parsed.payload "symbol" = .text parsed.symbol
  symbol_mem : parsed.symbol ∈ symbols
  openMs : field parsed.payload "open_time_ms" = .int parsed.openMs
  closeMs : parsed.closeMs = parsed.openMs + minute - 1
  messageId : column raw "message_id" = .json (.text parsed.messageId)

theorem parseRow_eq_ok
    {raw : ExportRow} {parsed : ParsedRow}
    (succeeded : parseRow library raw = .ok parsed) :
    ParsedFrom library raw parsed := by
  simp only [parseRow, bind_eq_ok_iff, refuseIf_eq_ok_iff, exists_const]
    at succeeded
  rcases succeeded with
    ⟨_, _, producedAt, produced, payload, payloadRead, _, _, _, _, rest⟩
  split at rest
  · rename_i symbol symbolField
    simp only [bind_eq_ok_iff, refuseIf_eq_ok_iff, exists_const, not_not]
      at rest
    rcases rest with ⟨symbolMember, rest⟩
    split at rest
    · rename_i openMs closeMs openField closeField
      simp only [bind_eq_ok_iff, refuseIf_eq_ok_iff, exists_const,
        pure_eq_ok_iff, not_or, not_not, Bool.not_eq_false,
        eqJson_text_iff] at rest
      rcases rest with
        ⟨⟨_, _, closed⟩, _, _, bytes, _, ⟨_, identified⟩, _, rfl⟩
      exact
        { producedAt := produced
          payload := payloadRead
          symbol := symbolField
          symbol_mem := symbolMember
          openMs := openField
          closeMs := closed
          messageId := identified }
    · cases rest
  · cases rest

/--
A row of the target that is one exported row: its columns, the instant it was
produced at, and the canonical text of its payload.
-/
structure ExportedAs
    (library : SeedLibrary) (raw : ExportRow) (tuple : AuditTuple) :
    Prop where
  producedAt :
    utcDatetime library (column raw "produced_at") "audit produced_at" =
      .ok tuple.producedAt
  messageId : tuple.messageId = column raw "message_id"
  topic : tuple.topic = column raw "topic"
  source : tuple.source = column raw "source"
  schemaVersion : tuple.schemaVersion = column raw "schema_version"
  correlationId : tuple.correlationId = column raw "correlation_id"
  causationId : tuple.causationId = column raw "causation_id"
  payload :
    ∃ payload,
      payloadOf library (column raw "payload") = .ok payload ∧
        dumps library.floats (.object payload) = some tuple.payload

theorem canonicalJson_eq_ok_iff (value : Json) (bytes : List UInt8) :
    canonicalJson library value = .ok bytes ↔
      ∃ text, dumps library.floats value = some text ∧ utf8 text = bytes := by
  unfold canonicalJson
  cases dumps library.floats value <;> simp

theorem dumps_eq_some
    {floats : FloatText} {value : Json} {text : String}
    (written : dumps floats value = some text) :
    text = String.ofList (write floats value) := by
  unfold dumps at written
  split_ifs at written
  exact (Option.some.inj written).symm

/-- The row that is inserted is the exported row. -/
theorem encodeRow_eq_ok
    {raw : ExportRow} {parsed : ParsedRow} {row : EncodedRow}
    (parsedFrom : ParsedFrom library raw parsed)
    (succeeded : encodeRow library raw parsed = .ok row) :
    ExportedAs library raw row.tuple := by
  simp only [encodeRow, bind_eq_ok_iff, refuseIf_eq_ok_iff, exists_const,
    pure_eq_ok_iff, canonicalJson_eq_ok_iff] at succeeded
  rcases succeeded with
    ⟨_, _, _, _, _, payloadBytes, ⟨text, written, _⟩, _, _, _, _, _, _, _,
      rfl⟩
  exact
    { producedAt := parsedFrom.producedAt
      messageId := rfl
      topic := rfl
      source := rfl
      schemaVersion := rfl
      correlationId := rfl
      causationId := rfl
      payload :=
        ⟨parsed.payload, parsedFrom.payload,
          written.trans (congrArg some (dumps_eq_some written))⟩ }

/-! ## The accumulator over a run -/

/-- A row and what the stateless checks made of it. -/
structure ReadRow where
  parsed : ParsedRow
  row : EncodedRow

/-- The stateless checks pass with this result. -/
def ReadsAs (library : SeedLibrary) (raw : ExportRow) (read : ReadRow) :
    Prop :=
  parseRow library raw = .ok read.parsed ∧
    encodeRow library raw read.parsed = .ok read.row

/-- A row passes exactly when every one of its checks does. -/
theorem add_eq_ok_iff
    (clock : Nat → ℚ) (limits : SeedLimits) (state : Accumulator)
    (raw : ExportRow) (result : Accumulator × AuditTuple) :
    add library clock limits state raw = .ok result ↔
      ¬ Expired limits clock (state.rows + 1) ∧
        ∃ read : ReadRow,
          ReadsAs library raw read ∧
            read.parsed.messageId ∉ state.seenIds ∧
            (∀ previous,
              state.previous.lookup read.parsed.symbol = some previous →
                read.parsed.openMs = previous + minute) ∧
            ¬ (limits.maximumRows < (state.rows + 1 : Nat) ∨
              limits.maximumBytes <
                (state.bytes + read.row.encoded.length : Nat) ∨
              maxRowBytes < read.row.encoded.length) ∧
            result =
              (state.record read.parsed read.row, read.row.tuple) := by
  have contiguous :
      ∀ (previous : Option Int) (openMs : Int),
        ¬ previous.any (fun value => openMs ≠ value + minute) = true ↔
          ∀ value, previous = some value → openMs = value + minute := by
    intro previous openMs
    cases previous <;> simp
  simp only [add, bind_eq_ok_iff, refuseIf_eq_ok_iff, exists_const,
    pure_eq_ok_iff, contiguous, ReadsAs]
  constructor
  · rintro
      ⟨inTime, parsed, parses, fresh, follows, row, encodes, bounds, rfl⟩
    exact
      ⟨inTime, ⟨parsed, row⟩, ⟨parses, encodes⟩, fresh, follows, bounds, rfl⟩
  · rintro
      ⟨inTime, ⟨parsed, row⟩, ⟨parses, encodes⟩, fresh, follows, bounds,
        rfl⟩
    exact
      ⟨inTime, parsed, parses, fresh, follows, row, encodes, bounds, rfl⟩

/-- The open times of one symbol, in order. -/
def openTimes (reads : List ReadRow) (symbol : String) : List Int :=
  (reads.filter fun read => read.parsed.symbol = symbol).map fun read =>
    read.parsed.openMs

/-- What the accumulator knows of one symbol. -/
inductive SymbolState
    (opens : List Int) (state : Accumulator) (symbol : String) : Prop
  | none
      (empty : opens = [])
      (previous : state.previous.lookup symbol = Option.none)
      (first : state.first.lookup symbol = Option.none)
      (count : state.counts.lookup symbol = some 0)
  | some (start : Int) (more : Nat)
      (chained : opens = chain minute start (more + 1))
      (previous :
        state.previous.lookup symbol =
          Option.some (start + more * minute))
      (first : state.first.lookup symbol = Option.some start)
      (last :
        state.last.lookup symbol =
          Option.some
            (start + more * minute, start + more * minute + minute - 1))
      (count : state.counts.lookup symbol = Option.some (more + 1))

/-- The state of the accumulator after these rows. -/
structure Tracks (reads : List ReadRow) (state : Accumulator) : Prop where
  rows : state.rows = reads.length
  seen : state.seenIds = reads.map fun read => read.parsed.messageId
  nodup : state.seenIds.Nodup
  symbol :
    ∀ symbol ∈ symbols,
      SymbolState (openTimes reads symbol) state symbol

theorem chain_succ (start : Int) (count : Nat) :
    chain minute start (count + 1) =
      chain minute start count ++ [start + count * minute] := by
  simp [chain, List.range_succ]

theorem openTimes_append_self (reads : List ReadRow) (read : ReadRow) :
    openTimes (reads ++ [read]) read.parsed.symbol =
      openTimes reads read.parsed.symbol ++ [read.parsed.openMs] := by
  simp [openTimes]

theorem openTimes_append_of_ne
    (reads : List ReadRow) {read : ReadRow} {symbol : String}
    (different : read.parsed.symbol ≠ symbol) :
    openTimes (reads ++ [read]) symbol = openTimes reads symbol := by
  simp [openTimes, different]

/-- Before the first row. -/
theorem Tracks.initial : Tracks [] Accumulator.initial where
  rows := rfl
  seen := rfl
  nodup := List.nodup_nil
  symbol := by
    intro symbol member
    refine .none rfl rfl rfl ?_
    revert symbol
    decide

/-- One passed row. -/
theorem Tracks.record
    {reads : List ReadRow} {state : Accumulator} {read : ReadRow}
    {raw : ExportRow}
    (tracks : Tracks reads state) (readsAs : ReadsAs library raw read)
    (fresh : read.parsed.messageId ∉ state.seenIds)
    (follows :
      ∀ previous,
        state.previous.lookup read.parsed.symbol = some previous →
          read.parsed.openMs = previous + minute) :
    Tracks (reads ++ [read]) (state.record read.parsed read.row) where
  rows := by
    rw [List.length_append, List.length_singleton, ← tracks.rows]
    rfl
  seen := by
    rw [List.map_append, ← tracks.seen]
    rfl
  nodup := by
    show (state.seenIds ++ [read.parsed.messageId]).Nodup
    rw [List.nodup_append]
    refine ⟨tracks.nodup, List.nodup_singleton _, ?_⟩
    intro left leftMember right rightMember equal
    rw [List.mem_singleton.1 rightMember] at equal
    exact fresh (equal ▸ leftMember)
  symbol := by
    intro symbol member
    have closes := (parseRow_eq_ok readsAs.1).closeMs
    by_cases same : read.parsed.symbol = symbol
    · subst same
      rw [openTimes_append_self]
      rcases tracks.symbol _ member with
        ⟨empty, previous, first, count⟩ |
          ⟨start, more, chained, previous, first, last, count⟩
      · refine .some read.parsed.openMs 0 ?_ ?_ ?_ ?_ ?_
        · rw [empty]
          simp [chain]
        · simp [Accumulator.record, AList.lookup_insert]
        · simp [Accumulator.record, AList.lookup_insert, first]
        · simp [Accumulator.record, AList.lookup_insert, closes]
        · simp [Accumulator.record, AList.lookup_insert, count]
      · have next := follows _ previous
        have nextOpen :
            read.parsed.openMs = start + ((more + 1 : Nat) : Int) * minute := by
          rw [next]
          push_cast
          ring
        refine .some start (more + 1) ?_ ?_ ?_ ?_ ?_
        · rw [chained, nextOpen, chain_succ start (more + 1)]
        · simp [Accumulator.record, AList.lookup_insert, nextOpen]
        · simp [Accumulator.record, AList.lookup_insert, first]
        · simp [Accumulator.record, AList.lookup_insert, closes, nextOpen]
        · simp [Accumulator.record, AList.lookup_insert, count]
    · have other : symbol ≠ read.parsed.symbol := Ne.symm same
      rw [openTimes_append_of_ne reads same]
      rcases tracks.symbol _ member with
        ⟨empty, previous, first, count⟩ |
          ⟨start, more, chained, previous, first, last, count⟩
      · refine .none empty ?_ ?_ ?_
        · exact (AList.lookup_insert_ne other).trans previous
        · exact (AList.lookup_insert_ne other).trans first
        · exact (AList.lookup_insert_ne other).trans count
      · refine .some start more chained ?_ ?_ ?_ ?_
        · exact (AList.lookup_insert_ne other).trans previous
        · exact (AList.lookup_insert_ne other).trans first
        · exact (AList.lookup_insert_ne other).trans last
        · exact (AList.lookup_insert_ne other).trans count

/-! ## The anchors at the end -/

/-- The anchor that the rows of one symbol have. -/
def AnchorOfTimes (opens : List Int) (anchor : Anchor) : Prop :=
  0 < anchor.count ∧ opens = chain minute anchor.firstOpenTimeMs anchor.count ∧
    (anchor.count : Int) =
      (anchor.lastOpenTimeMs - anchor.firstOpenTimeMs) / minute + 1 ∧
    anchor.lastCloseTimeMs = anchor.lastOpenTimeMs + minute - 1

theorem anchorOf_eq_ok
    {state : Accumulator} {symbol : String} {opens : List Int}
    {anchor : Anchor}
    (known : SymbolState opens state symbol)
    (succeeded : anchorOf state symbol = .ok anchor) :
    AnchorOfTimes opens anchor := by
  simp only [anchorOf, bind_eq_ok_iff, refuseIf_eq_ok_iff, exists_const,
    pure_eq_ok_iff] at succeeded
  rcases succeeded with ⟨counted, rfl⟩
  cases known with
  | none empty previous first count => simp [count] at counted
  | some start more chained previous first last count =>
      have quotient : (more : Int) * minute / minute = more :=
        Int.mul_ediv_cancel _ (by decide)
      refine ⟨?_, ?_, ?_, ?_⟩
      · simp [count]
      · simpa [count, first] using chained
      · simp [count, first, last, quotient]
      · simp [last]

/-- A finished accumulator has the digest of its frames and the anchors. -/
theorem finish_eq_ok
    {clock : Nat → ℚ} {config : AccumulatorConfig} {state : Accumulator}
    {reads : List ReadRow} {result : String × Dict Anchor}
    (tracks : Tracks reads state)
    (succeeded : finish library clock config state = .ok result) :
    ∀ symbol ∈ symbols,
      ∃ anchor,
        config.expectedAnchors.lookup symbol = some anchor ∧
          AnchorOfTimes (openTimes reads symbol) anchor := by
  simp only [finish, bind_eq_ok_iff, refuseIf_eq_ok_iff, exists_const,
    pure_eq_ok_iff, not_or, not_not] at succeeded
  rcases succeeded with ⟨_, actual, collected, ⟨⟨_, same⟩, _⟩, _⟩
  rcases foldlM_insert_eq_ok collected with ⟨members, reads', _⟩
  intro symbol member
  rcases reads' symbol member with ⟨anchor, anchored, found⟩
  have present : symbol ∈ actual := (members symbol).2 (Or.inl member)
  refine ⟨anchor, ?_, anchorOf_eq_ok (tracks.symbol symbol member) anchored⟩
  rw [← same symbol (AList.mem_keys.2 present), found]

/-! ## The loop of the seed -/

/-- The rows read so far are in the target or in the batch, in order. -/
structure Seeded (reads : List ReadRow) (state : Seeding) : Prop where
  tracks : Tracks reads state.accumulator
  rows :
    state.target.eventAudit ++ state.batch =
      reads.map fun read => read.row.tuple
  inserted : state.inserted = state.target.eventAudit.length
  outbox : state.target.messageOutboxRows = 0

/-- Inserting a batch moves it to the target. -/
theorem insertBatch_eq_ok
    {faults : DatabaseFaults} {state after : Seeding} {reads : List ReadRow}
    (seeded : Seeded reads state)
    (succeeded : insertBatch faults state = .ok after) :
    Seeded reads after ∧ after.batch = [] := by
  simp only [insertBatch, bind_eq_ok_iff, pure_eq_ok_iff] at succeeded
  rcases succeeded with ⟨_, _, rfl⟩
  refine
    ⟨{ tracks := seeded.tracks
       rows := ?_
       inserted := ?_
       outbox := seeded.outbox }, rfl⟩
  · rw [List.append_nil]
    exact seeded.rows
  · show state.inserted + state.batch.length =
      (state.target.eventAudit ++ state.batch).length
    rw [List.length_append, seeded.inserted]

theorem insertRest_eq_ok
    {faults : DatabaseFaults} {state after : Seeding} {reads : List ReadRow}
    (seeded : Seeded reads state)
    (succeeded : insertRest faults state = .ok after) :
    Seeded reads after ∧ after.batch = [] := by
  unfold insertRest at succeeded
  split_ifs at succeeded with empty
  · cases succeeded
    exact ⟨seeded, List.isEmpty_iff.1 empty⟩
  · exact insertBatch_eq_ok seeded succeeded

/-- One round of the loop. -/
theorem seedRow_eq_ok
    {clock : Nat → ℚ} {faults : DatabaseFaults} {limits : SeedLimits}
    {batchSize : Int} {state after : Seeding} {reads : List ReadRow}
    {raw : ExportRow}
    (seeded : Seeded reads state)
    (succeeded :
      seedRow library clock faults limits batchSize state raw = .ok after) :
    ∃ read, ReadsAs library raw read ∧ Seeded (reads ++ [read]) after := by
  simp only [seedRow, bind_eq_ok_iff] at succeeded
  rcases succeeded with ⟨⟨accumulator, tuple⟩, added, succeeded⟩
  rcases (add_eq_ok_iff clock limits _ raw _).1 added with
    ⟨_, read, readsAs, fresh, follows, _, recorded⟩
  cases recorded
  have extended :
      Seeded (reads ++ [read])
        { state with
          accumulator := state.accumulator.record read.parsed read.row
          batch := state.batch ++ [read.row.tuple] } :=
    { tracks := seeded.tracks.record readsAs fresh follows
      rows := by
        rw [← List.append_assoc, seeded.rows, List.map_append]
        rfl
      inserted := seeded.inserted
      outbox := seeded.outbox }
  refine ⟨read, readsAs, ?_⟩
  split_ifs at succeeded
  · exact (insertBatch_eq_ok extended succeeded).1
  · rw [pure_eq_ok_iff] at succeeded
    exact succeeded ▸ extended

/-- The whole loop. -/
theorem foldlM_seedRow_eq_ok
    {clock : Nat → ℚ} {faults : DatabaseFaults} {limits : SeedLimits}
    {batchSize : Int} {rows : List ExportRow} {state after : Seeding}
    {reads : List ReadRow}
    (seeded : Seeded reads state)
    (succeeded :
      rows.foldlM (seedRow library clock faults limits batchSize) state =
        .ok after) :
    ∃ more,
      List.Forall₂ (ReadsAs library) rows more ∧
        Seeded (reads ++ more) after := by
  apply foldlM_relates (ReadsAs library) Seeded _ seeded succeeded
  intro reads state raw next seeded stepped
  exact seedRow_eq_ok seeded stepped

/-! ## Bars of rows -/

/-- The symbol and open time in the payload of a row. -/
def barOf (library : SeedLibrary) (raw : ExportRow) :
    Option (String × Int) :=
  match payloadOf library (column raw "payload") with
  | .error _ => none
  | .ok payload =>
      match field payload "symbol", field payload "open_time_ms" with
      | .text symbol, .int openMs => some (symbol, openMs)
      | _, _ => none

/-- The open times of the rows of one symbol, in the order of the rows. -/
def symbolOpens
    (library : SeedLibrary) (rows : List ExportRow) (symbol : String) :
    List Int :=
  rows.filterMap fun raw =>
    (barOf library raw).bind fun bar =>
      if bar.1 = symbol then some bar.2 else none

theorem barOf_of_readsAs
    {raw : ExportRow} {read : ReadRow} (readsAs : ReadsAs library raw read) :
    barOf library raw = some (read.parsed.symbol, read.parsed.openMs) := by
  have parsed := parseRow_eq_ok readsAs.1
  simp [barOf, parsed.payload, parsed.symbol, parsed.openMs]

theorem symbolOpens_of_readsAs
    {rows : List ExportRow} {reads : List ReadRow}
    (related : List.Forall₂ (ReadsAs library) rows reads)
    (symbol : String) :
    symbolOpens library rows symbol = openTimes reads symbol := by
  induction related with
  | nil => rfl
  | @cons raw read rows reads head tail induction =>
      have bar := barOf_of_readsAs head
      unfold symbolOpens openTimes at induction ⊢
      by_cases same : read.parsed.symbol = symbol
      · rw [List.filterMap_cons_some (b := read.parsed.openMs)
            (by simp [bar, same]),
          List.filter_cons_of_pos (by simp [same]), List.map_cons, induction]
      · rw [List.filterMap_cons_none (by simp [bar, same]),
          List.filter_cons_of_neg (by simp [same]), induction]

/-! ## A seed that returns -/

/--
The target holds exactly the exported rows, in their order; their message ids
are distinct; every symbol has one row for every minute between its first and
its last, as many as expected; and the outbox is empty.
-/
structure ExactSeed
    (library : SeedLibrary) (expected : Dict Anchor)
    (rows : List ExportRow) (after : Target) : Prop where
  exported : List.Forall₂ (ExportedAs library) rows after.eventAudit
  distinct : (after.eventAudit.map AuditTuple.messageId).Nodup
  bars :
    ∀ raw ∈ rows, ∃ symbol ∈ symbols, ∃ openMs,
      barOf library raw = some (symbol, openMs)
  anchors :
    ∀ symbol ∈ symbols,
      ∃ anchor,
        expected.lookup symbol = some anchor ∧
          AnchorOfTimes (symbolOpens library rows symbol) anchor
  outbox : after.messageOutboxRows = 0

theorem seedTransaction_eq_ok
    {clock : Nat → ℚ} {faults : DatabaseFaults}
    {config : AccumulatorConfig} {rows : List ExportRow} {batchSize : Int}
    {target : Target} {result : Seeding × String × Dict Anchor}
    (succeeded :
      seedTransaction library clock faults config rows batchSize target =
        .ok result) :
    ExactSeed library config.expectedAnchors rows result.1.target := by
  simp only [seedTransaction, bind_eq_ok_iff, refuseIf_eq_ok_iff,
    exists_const, pure_eq_ok_iff, not_or, not_not] at succeeded
  rcases succeeded with
    ⟨_, _, ⟨audit, outbox⟩, looped, loops, state, flushed,
      ⟨digest, anchors⟩, finished, _, _, _, _, rfl⟩
  have start :
      Seeded [] ⟨Accumulator.initial, [], 0, target, 1⟩ :=
    { tracks := Tracks.initial
      rows := by
        rw [List.length_eq_zero_iff.1 audit]
        rfl
      inserted := audit.symm
      outbox := outbox }
  rcases foldlM_seedRow_eq_ok start loops with ⟨reads, related, seeded⟩
  rw [List.nil_append] at seeded
  have complete := insertRest_eq_ok seeded flushed
  have inserted := complete.1.rows
  rw [complete.2, List.append_nil] at inserted
  have parsed :
      ∀ {raw read}, ReadsAs library raw read →
        ParsedFrom library raw read.parsed :=
    fun readsAs => parseRow_eq_ok readsAs.1
  exact
    { exported := by
        rw [inserted, List.forall₂_map_right_iff]
        exact
          related.imp fun _ _ readsAs =>
            encodeRow_eq_ok (parsed readsAs) readsAs.2
      distinct := by
        have ids :
            state.target.eventAudit.map AuditTuple.messageId =
              (reads.map fun read => read.parsed.messageId).map
                fun id => RawValue.json (.text id) := by
          rw [inserted, List.map_map, List.map_map]
          apply List.map_congr_left
          intro read member
          rcases List.mem_iff_get.1 member with ⟨index, rfl⟩
          rcases List.forall₂_iff_get.1 related with ⟨lengths, each⟩
          have readsAs :=
            each index.1 (index.2.trans_eq lengths.symm) index.2
          exact
            (encodeRow_eq_ok (parsed readsAs) readsAs.2).messageId.trans
              (parsed readsAs).messageId
        rw [ids, ← complete.1.tracks.seen]
        apply complete.1.tracks.nodup.map
        intro left right equal
        cases equal
        rfl
      bars := by
        intro raw member
        rcases List.mem_iff_get.1 member with ⟨index, rfl⟩
        rcases List.forall₂_iff_get.1 related with ⟨lengths, each⟩
        have readsAs := each index.1 index.2 (index.2.trans_eq lengths)
        exact
          ⟨_, (parsed readsAs).symbol_mem, _, barOf_of_readsAs readsAs⟩
      anchors := by
        intro symbol member
        rw [symbolOpens_of_readsAs related symbol]
        exact finish_eq_ok complete.1.tracks finished symbol member
      outbox := complete.1.outbox }

/-! ## A measured export can be seeded -/

/-- The clock has not passed the time bound at any reading. -/
def InTime (limits : SeedLimits) (clock : Nat → ℚ) : Prop :=
  ∀ reading, ¬ Expired limits clock reading

/-- A row that has passed under one clock passes under another. -/
theorem add_of_inTime
    {clock other : Nat → ℚ} {limits : SeedLimits} {state : Accumulator}
    {raw : ExportRow} {result : Accumulator × AuditTuple}
    (inTime : InTime limits other)
    (passed : add library clock limits state raw = .ok result) :
    add library other limits state raw = .ok result := by
  rw [add_eq_ok_iff] at passed ⊢
  exact ⟨inTime _, passed.2⟩

/-- A call that does not fail. -/
theorem insertBatch_succeeds
    {faults : DatabaseFaults} (healthy : ∀ call, faults call = none)
    (state : Seeding) :
    ∃ after,
      insertBatch faults state = .ok after ∧
        after.accumulator = state.accumulator := by
  refine
    ⟨{ state with
       batch := []
       inserted := state.inserted + state.batch.length
       target :=
         { state.target with
           eventAudit := state.target.eventAudit ++ state.batch }
       calls := state.calls + 1 }, ?_, rfl⟩
  simp [insertBatch, databaseCall, healthy]

/-- The loop of the seed follows the loop of the measurement. -/
theorem foldlM_seedRow_succeeds
    {clock other : Nat → ℚ} {faults : DatabaseFaults} {limits : SeedLimits}
    (inTime : InTime limits other) (healthy : ∀ call, faults call = none)
    (batchSize : Int) {rows : List ExportRow} {measured : Accumulator}
    (state : Seeding)
    (succeeded :
      rows.foldlM
          (fun state raw => do
            let (after, _) ← add library clock limits state raw
            return after)
          state.accumulator =
        .ok measured) :
    ∃ after,
      rows.foldlM (seedRow library other faults limits batchSize) state =
          .ok after ∧
        after.accumulator = measured := by
  induction rows generalizing state with
  | nil =>
      rw [List.foldlM_nil, pure_eq_ok_iff] at succeeded
      exact ⟨state, rfl, succeeded⟩
  | cons raw rest induction =>
      simp only [List.foldlM_cons, bind_eq_ok_iff, pure_eq_ok_iff]
        at succeeded
      rcases succeeded with ⟨_, ⟨⟨accumulator, tuple⟩, added, rfl⟩, tail⟩
      have headOk :
          ∃ next,
            seedRow library other faults limits batchSize state raw =
                .ok next ∧
              next.accumulator = accumulator := by
        simp only [seedRow, bind_eq_ok_iff]
        have passed := add_of_inTime inTime added
        by_cases full :
            ((state.batch ++ [tuple]).length : Int) = batchSize
        · rcases
              insertBatch_succeeds healthy
                { state with
                  accumulator := accumulator
                  batch := state.batch ++ [tuple] } with
            ⟨next, inserted, kept⟩
          refine ⟨next, ⟨_, passed, ?_⟩, kept⟩
          rw [if_pos full]
          exact inserted
        · refine
            ⟨{ state with
               accumulator := accumulator
               batch := state.batch ++ [tuple] }, ⟨_, passed, ?_⟩, rfl⟩
          rw [if_neg full]
          rfl
      rcases headOk with ⟨next, headRuns, kept⟩
      rw [← kept] at tail
      rcases induction next tail with ⟨after, tailRuns, finished⟩
      refine ⟨after, ?_, finished⟩
      rw [List.foldlM_cons, bind_eq_ok_iff]
      exact ⟨next, headRuns, tailRuns⟩

theorem sameDict_refl (values : Dict Anchor) : SameDict values values :=
  ⟨rfl, fun _ _ => rfl⟩

/-- What a measurement returns is accepted as an expectation. -/
theorem finish_of_measured
    {clock other : Nat → ℚ} {expectedAnchors : Dict Anchor}
    {limits : SeedLimits} {state : Accumulator}
    {result : String × Dict Anchor}
    (inTime : InTime limits other)
    (measured :
      finish library clock ⟨expectedAnchors, none, limits⟩ state =
        .ok result) :
    finish library other ⟨result.2, some result.1, limits⟩ state =
      .ok result := by
  simp only [finish, bind_eq_ok_iff, refuseIf_eq_ok_iff, exists_const,
    pure_eq_ok_iff, not_or, not_not] at measured ⊢
  rcases measured with ⟨_, actual, collected, _, rfl⟩
  refine
    ⟨inTime _, actual, collected, ⟨sameDict_refl actual, ?_⟩, rfl⟩
  simp

theorem checkConfig_of_measured
    {clock : Nat → ℚ} {expectedAnchors : Dict Anchor} {limits : SeedLimits}
    {state : Accumulator} {result : String × Dict Anchor} {done : Unit}
    (checked :
      checkConfig ⟨expectedAnchors, none, limits⟩ = .ok done)
    (measured :
      finish library clock ⟨expectedAnchors, none, limits⟩ state =
        .ok result) :
    checkConfig ⟨result.2, some result.1, limits⟩ = .ok () := by
  simp only [finish, bind_eq_ok_iff, refuseIf_eq_ok_iff, exists_const,
    pure_eq_ok_iff] at measured
  rcases measured with ⟨_, actual, collected, _, rfl⟩
  rcases foldlM_insert_eq_ok collected with ⟨members, _, _⟩
  have five : FiveSymbols actual := fiveSymbols_of_members members
  simp only [checkConfig, bind_eq_ok_iff, refuseIf_eq_ok_iff, exists_const,
    not_not] at checked ⊢
  refine ⟨five, ?_, checked.2.2⟩
  simp [library.sha256.isSha256_hexdigest]

/--
A measured export is accepted by a seed with the measured expectation, and the
seed reports what was measured.
-/
theorem seedHistory_of_measured
    {clock other : Nat → ℚ} {faults : DatabaseFaults}
    {arguments : SeedArguments} {expectedAnchors : Dict Anchor}
    {rows : List ExportRow}
    (measured :
      measureHistory library clock rows expectedAnchors arguments.limits =
        .ok arguments.expected)
    (pair :
      validateEpochPair arguments.source arguments.targetIdentity = .ok ())
    (batch : 1 ≤ arguments.batchSize ∧ arguments.batchSize ≤ 1000)
    (inTime : InTime arguments.limits other)
    (healthy : ∀ call, faults call = none) :
    ∃ receipt after,
      seedHistory library other faults arguments rows ⟨[], 0⟩ =
          (.ok receipt, after) ∧
        receipt.orderedDigestSha256 =
          arguments.expected.orderedDigestSha256 ∧
        receipt.anchors = arguments.expected.anchors := by
  simp only [measureHistory, bind_eq_ok_iff, pure_eq_ok_iff] at measured
  rcases measured with
    ⟨_, checked, state, looped, ⟨digest, anchors⟩, finished, expected⟩
  have config :
      arguments.config = ⟨anchors, some digest, arguments.limits⟩ := by
    unfold SeedArguments.config
    rw [← expected]
  have admitted : checkArguments arguments = .ok () := by
    simp only [checkArguments, bind_eq_ok_iff, refuseIf_eq_ok_iff,
      exists_const, not_not]
    refine ⟨(), pair, batch, ?_⟩
    rw [config]
    exact checkConfig_of_measured checked finished
  let start : Seeding := ⟨Accumulator.initial, [], 0, ⟨[], 0⟩, 1⟩
  have empty : Seeded [] start := ⟨Tracks.initial, rfl, rfl, rfl⟩
  rcases
      foldlM_seedRow_succeeds inTime healthy arguments.batchSize start
        looped with
    ⟨seeding, loops, same⟩
  rcases foldlM_seedRow_eq_ok empty loops with ⟨reads, _, seeded⟩
  rw [List.nil_append] at seeded
  have flushes :
      ∃ last,
        insertRest faults seeding = .ok last ∧
          last.accumulator = seeding.accumulator := by
    unfold insertRest
    split_ifs
    · exact ⟨seeding, rfl, rfl⟩
    · exact insertBatch_succeeds healthy seeding
  rcases flushes with ⟨last, flushed, kept⟩
  have complete := insertRest_eq_ok seeded flushed
  have inserted : last.inserted = last.accumulator.rows := by
    have rows := congrArg List.length complete.1.rows
    rw [complete.2, List.append_nil, List.length_map] at rows
    rw [complete.1.inserted, rows, complete.1.tracks.rows]
  have finishes :
      finish library other arguments.config last.accumulator =
        .ok (digest, anchors) := by
    rw [config, kept, same]
    have again := finish_of_measured inTime finished
    exact again
  have transaction :
      seedTransaction library other faults arguments.config rows
          arguments.batchSize ⟨[], 0⟩ =
        .ok (last, digest, anchors) := by
    simp only [seedTransaction, bind_eq_ok_iff, refuseIf_eq_ok_iff,
      exists_const, pure_eq_ok_iff]
    refine
      ⟨(), by simp [databaseCall, healthy], by simp, seeding, loops, last,
        flushed, (digest, anchors), finishes, by simp [inserted], (),
        by simp [databaseCall, healthy], ?_, rfl⟩
    simp [complete.1.inserted, complete.1.outbox]
  refine
    ⟨⟨last.inserted, last.accumulator.bytes, digest, anchors,
        arguments.targetIdentity.databaseName,
        arguments.targetIdentity.epochId, 0⟩,
      last.target, ?_, congrArg SeedExpectation.orderedDigestSha256 expected,
      congrArg SeedExpectation.anchors expected⟩
  unfold seedHistory
  rw [admitted]
  simp only [transaction]
  rfl

end Rows

/-! ## Exact and atomic -/

/--
A seed of an empty target either returns, and the target holds exactly the
export, or raises, and the target is unchanged.  An export that has been
measured is accepted, with the measured digest and anchors.
-/
theorem seedHistory_exact_atomic
    (library : SeedLibrary) (clock : Nat → ℚ) (faults : DatabaseFaults)
    (arguments : SeedArguments) (rows : List ExportRow) (target : Target) :
    (∀ receipt after,
      seedHistory library clock faults arguments rows target =
          (.ok receipt, after) →
        ExactSeed library arguments.expected.anchors rows after) ∧
      (∀ failure after,
        seedHistory library clock faults arguments rows target =
            (.error failure, after) →
          after = target) ∧
      ∀ measureClock expectedAnchors,
        measureHistory library measureClock rows expectedAnchors
              arguments.limits =
            .ok arguments.expected →
          validateEpochPair arguments.source arguments.targetIdentity =
              .ok () →
            1 ≤ arguments.batchSize ∧ arguments.batchSize ≤ 1000 →
              InTime arguments.limits clock →
                (∀ call, faults call = none) →
                  target = ⟨[], 0⟩ →
                    ∃ receipt after,
                      seedHistory library clock faults arguments rows
                            target =
                          (.ok receipt, after) ∧
                        receipt.orderedDigestSha256 =
                          arguments.expected.orderedDigestSha256 ∧
                        receipt.anchors = arguments.expected.anchors := by
  refine ⟨?_, ?_, ?_⟩
  · intro receipt after returned
    unfold seedHistory at returned
    cases checked : checkArguments arguments with
    | error failure => simp [checked] at returned
    | ok done =>
        rw [checked] at returned
        cases body :
            seedTransaction library clock faults arguments.config rows
              arguments.batchSize target with
        | error failure =>
            simp only [body, commitOrRollback] at returned
            cases returned
        | ok result =>
            simp only [body, commitOrRollback] at returned
            cases returned
            exact seedTransaction_eq_ok body
  · intro failure after raised
    unfold seedHistory at raised
    cases checked : checkArguments arguments with
    | error failure =>
        rw [checked] at raised
        exact (congrArg Prod.snd raised).symm
    | ok done =>
        rw [checked] at raised
        cases body :
            seedTransaction library clock faults arguments.config rows
              arguments.batchSize target with
        | error failure =>
            simp only [body, commitOrRollback] at raised
            exact (congrArg Prod.snd raised).symm
        | ok result =>
            simp only [body, commitOrRollback] at raised
            cases raised
  · intro measureClock expectedAnchors measured pair batch inTime healthy
      empty
    rw [empty]
    exact seedHistory_of_measured measured pair batch inTime healthy

/-! ## A seed of five bars -/

/-- The first minute of 2024, when the bars of the example were produced. -/
def newYear : CivilTime where
  year := 2024
  month := 1
  day := 1
  hour := 0
  minute := 1
  second := 0
  microsecond := 0
  valid := by decide

/-- A symbol with the digests of its bar and of its payload. -/
structure NewYearBar where
  symbol : String
  barDigest : Nat
  payloadDigest : Nat

/-- `bar_sha256`. -/
def NewYearBar.barHash (bar : NewYearBar) : String := hexText bar.barDigest

/-- `stored_payload_sha256`. -/
def NewYearBar.payloadHash (bar : NewYearBar) : String :=
  hexText bar.payloadDigest

/-- The five bars of the first minute of 2024. -/
def newYearBars : List NewYearBar :=
  [⟨"BTCUSDT",
        0x9cd1a31df284959f6cd512c0257d3b2e58e270faa1c659751ecb9a5438a66072,
        0x1301d32cc6828b29df073d68e31a4ea40b1d1d488a29aafdae64f48dfd366dee⟩,
    ⟨"ETHUSDT",
        0x774bc19ff871c114a4a7639aab332d2c811dab238406fba26dad1fad9a4bc1e4,
        0xe3404db0559541338f21215d67ee7ec08be4ec69f63d8cc96696b5a88c1d1c6a⟩,
    ⟨"SOLUSDT",
        0xb1bdd17c76132ca5d8ff7f743348e38be8607f3fad07521a5b346b61070f299f,
        0x57aba06ccd4c1ba8e8891a045824af5f00e819ff1446e3d38f541f85b63344db⟩,
    ⟨"BNBUSDT",
        0xcda127c0332de3074682defd728841bc9beaa07cc2a1121cda85ce2d4f661ad4,
        0xec9c7abb3776cc0e808a968e20f96396d423be58d9043c58089abedbd6b0447e⟩,
    ⟨"XRPUSDT",
        0x7d154437bd947be662595c0e2ce9bda41f43efb5bc13a2d83f169cfa658fb13c,
        0x5bbac7c1dfd87c7cad5ae5e869f81884eb5a96f14e09632c4309cc06ea9926a4⟩]

/-- What identifies the bar of a symbol. -/
def newYearIdentity (symbol : String) : Members :=
  [("base_volume", .int 2), ("close", .int 11),
    ("close_time_ms", .int 1704067259999),
    ("contract_version", .text contractVersion), ("high", .int 12),
    ("is_closed", .bool true), ("low", .int 9), ("open", .int 10),
    ("open_time_ms", .int 1704067200000), ("quote_volume", .int 20),
    ("symbol", .text symbol), ("taker_buy_base_volume", .int 1),
    ("taker_buy_quote_volume", .int 10), ("timeframe", .text "1m"),
    ("venue", .text "BINANCE_UM")]

/-- The payload of a bar. -/
def NewYearBar.payload (bar : NewYearBar) : Members :=
  [("bar_sha256", .text bar.barHash), ("base_volume", .int 2),
    ("causation_id", .null), ("close", .int 11),
    ("close_time_ms", .int 1704067259999),
    ("contract_version", .text contractVersion),
    ("correlation_id", .text "c-1"), ("high", .int 12),
    ("is_closed", .bool true), ("low", .int 9),
    ("message_id", .text bar.barHash), ("open", .int 10),
    ("open_time_ms", .int 1704067200000),
    ("produced_at", .text (isoformat newYear)),
    ("quote_volume", .int 20), ("schema_version", .text schemaVersion),
    ("source", .text source), ("symbol", .text bar.symbol),
    ("taker_buy_base_volume", .int 1), ("taker_buy_quote_volume", .int 10),
    ("timeframe", .text "1m"), ("venue", .text "BINANCE_UM")]

/-- The digest row of a bar. -/
def NewYearBar.digestRow (bar : NewYearBar) : Members :=
  [("causation_id", .null), ("correlation_id", .text "c-1"),
    ("message_id", .text bar.barHash), ("payload", .object bar.payload),
    ("produced_at", .text (isoformat newYear)),
    ("schema_version", .text schemaVersion), ("source", .text source),
    ("stored_payload_sha256", .text bar.payloadHash),
    ("topic", .text topic)]

/-- The exported row of a bar. -/
def NewYearBar.row (bar : NewYearBar) : ExportRow := fun name =>
  [("produced_at", RawValue.time ⟨newYear, some utcOffset⟩),
    ("message_id", .json (.text bar.barHash)), ("topic", .json (.text topic)),
    ("source", .json (.text source)),
    ("schema_version", .json (.text schemaVersion)),
    ("correlation_id", .json (.text "c-1")), ("causation_id", .json .null),
    ("payload", .json (.object bar.payload)), ("outbox_count", .json (.int 1)),
    ("outbox_topic", .json (.text topic)),
    ("outbox_producer", .json (.text source)),
    ("outbox_payload", .json (.object bar.payload)),
    ("stored_payload_sha256", .json (.text bar.payloadHash))].lookup name

/-- The canonical text of members whose numbers are integers. -/
@[irreducible] def plainText (members : Members) : List Char :=
  write exponentFloats (.object members)

/-- What the five bars feed to the digest. -/
@[irreducible] def newYearFed : List UInt8 :=
  newYearBars.flatMap fun bar =>
    frame (utf8 (String.ofList (plainText bar.digestRow)))

/-- The ordered digest of the five bars. -/
def newYearDigest : Nat :=
  0x26b72e544ade38b8cec8959d625d2f1facb3171e7bc2815695e5deb57e06e2bf

/-- The SHA-256 digests that a seed of the five bars computes. -/
def newYearDigests : List (List UInt8 × Nat) :=
  (newYearFed, newYearDigest) ::
    (newYearBars.map (fun bar =>
        (utf8 (String.ofList (plainText (newYearIdentity bar.symbol))),
          bar.barDigest)) ++
      newYearBars.map fun bar =>
        (utf8 (String.ofList (plainText bar.payload)), bar.payloadDigest))

/-- Libraries that agree with the real ones on the five bars. -/
def newYearLibrary : SeedLibrary where
  floats := exponentFloats
  sha256 := tableDigest newYearDigests
  iso := isoReader
  orjson := none

/-- What `add` reads off a row of the five bars. -/
def NewYearBar.parsed (bar : NewYearBar) : ParsedRow where
  producedAt := newYear
  payload := bar.payload
  symbol := bar.symbol
  openMs := 1704067200000
  closeMs := 1704067259999
  messageId := bar.barHash

/-- What `add` encodes of a row of the five bars. -/
def NewYearBar.encoded (bar : NewYearBar) : EncodedRow where
  encoded := utf8 (String.ofList (plainText bar.digestRow))
  tuple :=
    { producedAt := newYear
      messageId := .json (.text bar.barHash)
      topic := .json (.text topic)
      source := .json (.text source)
      schemaVersion := .json (.text schemaVersion)
      correlationId := .json (.text "c-1")
      causationId := .json .null
      payload := String.ofList (plainText bar.payload) }

/-- The members of a canonical text are written as they are. -/
theorem canonicalJson_plain
    {members : Members} (finite : finiteMembers members = true) :
    canonicalJson newYearLibrary (.object members) =
      .ok (utf8 (String.ofList (plainText members))) := by
  unfold canonicalJson dumps plainText
  rw [if_pos (by exact finite)]
  rfl


theorem canonical_identity (symbol : String) :
    Canonical (.object (newYearIdentity symbol)) := by
  refine .object ?_ ?_
  · apply List.pairwise_map.1
    apply List.isChain_iff_pairwise.1
    simp only [newYearIdentity, List.map_cons, List.map_nil]
    decide
  · simp only [newYearIdentity, List.forall_mem_cons, List.not_mem_nil,
      false_implies, implies_true, and_true]
    exact
      ⟨.int _, .int _, .int _, .text _, .int _, .bool _, .int _, .int _,
        .int _, .int _, .text _, .int _, .int _, .text _, .text _⟩
theorem canonical_payload (bar : NewYearBar) :
    Canonical (.object bar.payload) := by
  refine .object ?_ ?_
  · apply List.pairwise_map.1
    apply List.isChain_iff_pairwise.1
    simp only [NewYearBar.payload, List.map_cons, List.map_nil]
    decide
  · simp only [NewYearBar.payload, List.forall_mem_cons, List.not_mem_nil,
      false_implies, implies_true, and_true]
    exact
      ⟨.text _, .int _, .null, .int _, .int _, .text _, .text _, .int _,
        .bool _, .int _, .text _, .int _, .int _, .text _, .int _, .text _,
        .text _, .text _, .int _, .int _, .text _, .text _⟩

/-- Members with one canonical text are the same. -/
theorem plainText_injective
    {left right : Members} (leftCanonical : Canonical (.object left))
    (rightCanonical : Canonical (.object right))
    (equal : plainText left = plainText right) : left = right := by
  unfold plainText at equal
  have values := write_injective leftCanonical rightCanonical equal
  injection values

theorem plainText_identity_injective {left right : String}
    (equal :
      plainText (newYearIdentity left) = plainText (newYearIdentity right)) :
    left = right := by
  have same :=
    plainText_injective (canonical_identity left) (canonical_identity right)
      equal
  simpa [newYearIdentity] using same

theorem plainText_payload_injective {left right : NewYearBar}
    (equal :
      plainText left.payload = plainText right.payload) :
    left.symbol = right.symbol := by
  have same :=
    plainText_injective (canonical_payload left) (canonical_payload right)
      equal
  simp [NewYearBar.payload] at same
  exact same.2

theorem plainText_identity_ne {symbol : String} {bar : NewYearBar} :
      plainText (newYearIdentity symbol) ≠ plainText bar.payload := by
  intro equal
  have same :=
    plainText_injective (canonical_identity symbol) (canonical_payload bar)
      equal
  have lengths := congrArg List.length same
  cases lengths


theorem length_digestRow {bar : NewYearBar} (member : bar ∈ newYearBars) :
    (plainText bar.digestRow).length ≤ 160000 := by
  have text :
      ∀ {value : String}, value.toList.length ≤ 64 →
        (write exponentFloats (.text value)).length ≤ 386 := by
    intro value short
    have bound := length_writeText_le value
    rw [write]
    omega
  have symbolShort :
      ∀ bar ∈ newYearBars, bar.symbol.toList.length ≤ 64 := by
    decide
  have entry :
      ∀ {key : String} {value : Json}, key.toList.length ≤ 30 →
        (write exponentFloats value).length ≤ 386 →
          (writeText key).length + (write exponentFloats value).length ≤
            600 := by
    intro key value short valueShort
    have bound := length_writeText_le key
    omega
  have keys :
      ∀ member ∈ bar.payload, (member.1.toList).length ≤ 30 := by
    have each :
        ∀ key ∈ bar.payload.map Prod.fst, key.toList.length ≤ 30 := by
      simp only [NewYearBar.payload, List.map_cons, List.map_nil]
      decide
    exact fun member listed => each _ (List.mem_map_of_mem listed)
  have hash : ∀ value, (hexText value).toList.length ≤ 64 :=
    fun value => (length_hexText value).le
  have values :
      ∀ entry ∈ bar.payload,
        (write exponentFloats entry.2).length ≤ 386 := by
    simp only [NewYearBar.payload, List.forall_mem_cons, List.not_mem_nil,
      false_implies, implies_true, and_true]
    refine
      ⟨text (hash _), ?_, ?_, ?_, ?_, ?_, ?_, ?_, ?_, ?_, text (hash _), ?_,
        ?_, ?_, ?_, ?_, ?_, text (symbolShort bar member), ?_, ?_, ?_, ?_⟩ <;>
      decide
  have payload :
      (write exponentFloats (.object bar.payload)).length ≤ 22 * 602 + 2 :=
    length_write_object_le exponentFloats fun member listed =>
      entry (keys member listed) (values member listed)
  have rowKeys :
      ∀ member ∈ bar.digestRow, member.1.toList.length ≤ 30 := by
    have each :
        ∀ key ∈ bar.digestRow.map Prod.fst, key.toList.length ≤ 30 := by
      simp only [NewYearBar.digestRow, List.map_cons, List.map_nil]
      decide
    exact fun member listed => each _ (List.mem_map_of_mem listed)
  have rowValues :
      ∀ member ∈ bar.digestRow,
        (write exponentFloats member.2).length ≤ 22 * 602 + 2 := by
    have small :
        ∀ {value : Json}, (write exponentFloats value).length ≤ 386 →
          (write exponentFloats value).length ≤ 22 * 602 + 2 :=
      fun bound => bound.trans (by decide)
    simp only [NewYearBar.digestRow, List.forall_mem_cons, List.not_mem_nil,
      false_implies, implies_true, and_true]
    exact
      ⟨by decide, by decide, small (text (hash _)), payload, by decide,
        by decide, by decide, small (text (hash _)), by decide⟩
  unfold plainText
  have each :
      ∀ member ∈ bar.digestRow,
        (writeText member.1).length +
            (write exponentFloats member.2).length ≤
          14000 := by
    intro member listed
    have bound := length_writeText_le member.1
    have key := rowKeys member listed
    have value := rowValues member listed
    omega
  have total := length_write_object_le exponentFloats each
  have nine : bar.digestRow.length = 9 := rfl
  rw [nine] at total
  exact total.trans (by decide)

theorem length_encoded {bar : NewYearBar} (member : bar ∈ newYearBars) :
    bar.encoded.encoded.length ≤ 640000 := by
  have bytes := length_utf8_le (plainText bar.digestRow)
  have text := length_digestRow member
  exact bytes.trans (by omega)

theorem head_frame
    {encoded : List UInt8} (small : encoded.length < 256 ^ 7)
    (rest : List UInt8) : (frame encoded ++ rest).head? = some 0 := by
  have zero := Nat.div_eq_of_lt small
  have head :
      (frame encoded ++ rest).head? =
        some (UInt8.ofNat (encoded.length / 256 ^ 7)) := rfl
  rw [head, zero]
  rfl

/-- What is fed starts with a zero, and a text does not. -/
theorem newYearFed_ne (members : Members) :
    newYearFed ≠ utf8 (String.ofList (plainText members)) := by
  intro equal
  have starts : newYearFed.head? = some 0 := by
    unfold newYearFed newYearBars
    rw [List.flatMap_cons]
    apply head_frame
    exact (length_encoded List.mem_cons_self).trans_lt (by decide)
  have opens : ∃ rest, plainText members = '\x7b' :: rest := by
    unfold plainText
    cases members with
    | nil => exact ⟨_, rfl⟩
    | cons head rest => exact ⟨_, rfl⟩
  rcases opens with ⟨text, opens⟩
  rw [equal, opens, utf8_ofList, List.flatMap_cons] at starts
  have brace : String.utf8EncodeChar '\x7b' = [123] := by decide
  rw [brace] at starts
  cases starts

theorem utf8_plainText_ne {left right : Members}
    (apart : plainText left ≠ plainText right) :
    utf8 (String.ofList (plainText left)) ≠
      utf8 (String.ofList (plainText right)) := fun equal =>
  apart (String.ofList_injective (utf8_injective equal))

theorem nodup_newYearDigests : (newYearDigests.map Prod.fst).Nodup := by
  have symbolsApart :=
    List.pairwise_map.1
      (show (newYearBars.map NewYearBar.symbol).Nodup by decide)
  unfold newYearDigests
  rw [List.map_cons, List.map_append, List.map_map, List.map_map,
    List.nodup_cons]
  refine ⟨?_, List.Nodup.append ?_ ?_ ?_⟩
  · intro listed
    rcases List.mem_append.1 listed with identity | payload
    · rcases List.mem_map.1 identity with ⟨bar, _, equal⟩
      exact newYearFed_ne _ equal.symm
    · rcases List.mem_map.1 payload with ⟨bar, _, equal⟩
      exact newYearFed_ne _ equal.symm
  · exact
      List.pairwise_map.2
        (symbolsApart.imp fun apart =>
          utf8_plainText_ne fun equal =>
            apart (plainText_identity_injective equal))
  · exact
      List.pairwise_map.2
        (symbolsApart.imp fun apart =>
          utf8_plainText_ne fun equal =>
            apart (plainText_payload_injective equal))
  · intro text inIdentities inPayloads
    rcases List.mem_map.1 inIdentities with ⟨left, _, rfl⟩
    rcases List.mem_map.1 inPayloads with ⟨right, _, equal⟩
    exact utf8_plainText_ne plainText_identity_ne equal.symm

theorem hexdigest_newYear {bar : NewYearBar} (member : bar ∈ newYearBars) :
    newYearLibrary.sha256.hexdigest
          (utf8 (String.ofList (plainText (newYearIdentity bar.symbol)))) =
        bar.barHash ∧
      newYearLibrary.sha256.hexdigest
          (utf8 (String.ofList (plainText bar.payload))) =
        bar.payloadHash :=
  ⟨hexdigest_tableDigest nodup_newYearDigests
      (List.mem_cons_of_mem _
        (List.mem_append_left _ (List.mem_map.2 ⟨bar, member, rfl⟩))),
    hexdigest_tableDigest nodup_newYearDigests
      (List.mem_cons_of_mem _
        (List.mem_append_right _ (List.mem_map.2 ⟨bar, member, rfl⟩)))⟩

theorem contract_identity (symbol : String) :
    contractCanonicalJson newYearLibrary (newYearIdentity symbol) =
      .ok (utf8 (String.ofList (plainText (newYearIdentity symbol)))) := by
  have finite : finiteMembers (newYearIdentity symbol) = true := rfl
  exact canonicalJson_plain finite

theorem identity_newYear (bar : NewYearBar) :
    dict (barIdentityFields.map fun name =>
        (name, field bar.payload name)) =
      newYearIdentity bar.symbol := by
  have listed :
      (barIdentityFields.map fun name => (name, field bar.payload name)) =
        newYearIdentity bar.symbol := rfl
  rw [listed]
  have canonical := canonical_identity bar.symbol
  cases canonical with
  | object sorted _ => exact dict_of_keysSorted sorted

theorem checkNumbers_newYear (bar : NewYearBar) :
    checkNumbers bar.payload = .ok () := by
  have same :
      checkNumbers bar.payload =
        checkNumbers (NewYearBar.payload ⟨"", 0, 0⟩) := rfl
  have passes :
      (checkNumbers (NewYearBar.payload ⟨"", 0, 0⟩)).isOk = true := by
    decide +kernel
  rw [same]
  rcases exists_eq_ok_of_isOk passes with ⟨_, passed⟩
  exact passed

theorem utcDatetime_newYear (label : String) :
    utcDatetime newYearLibrary (.time ⟨newYear, some utcOffset⟩) label =
        .ok newYear ∧
      utcDatetime newYearLibrary
          (.json (.text (isoformat newYear))) label =
        .ok newYear := by
  have civil :
      Datetime.astimezone ⟨newYear, some utcOffset⟩ = some newYear := by
    decide
  have read :
      newYearLibrary.iso.fromisoformat
          (replaceAll ['Z'] zeroOffset (isoformat newYear)) =
        some ⟨newYear, some utcOffset⟩ := by
    rw [replace_zulu_of_isoformat, IsoReader.fromisoformat_isoformat]
  constructor
  · simp [utcDatetime, civil, refuseIf]
  · simp [utcDatetime, civil, read, refuseIf]


theorem payload_newYear (bar : NewYearBar) :
    payloadOf newYearLibrary (.json (.object bar.payload)) =
      .ok bar.payload := by
  have keys : keySet bar.payload = payloadFields := by
    simp only [keySet, NewYearBar.payload, List.map_cons, List.map_nil]
    decide
  simp only [payloadOf, bind_eq_ok_iff]
  refine ⟨some (.object bar.payload), rfl, ?_⟩
  simp only [bind_eq_ok_iff, refuseIf_eq_ok_iff, exists_const]
  exact ⟨not_not.2 keys, rfl⟩

theorem parseRow_newYear
    {bar : NewYearBar} (member : bar ∈ newYearBars) :
    parseRow newYearLibrary bar.row = .ok bar.parsed := by
  have known :
      ∀ bar ∈ newYearBars, bar.symbol ∈ symbols := by
    decide
  have nonempty : bar.barHash ≠ "" := by
    intro empty
    have length := length_hexText bar.barDigest
    rw [show hexText bar.barDigest = "" from empty] at length
    cases length
  have hashes := hexdigest_newYear member
  have fields :
      field bar.payload "symbol" = .text bar.symbol ∧
        field bar.payload "open_time_ms" = .int 1704067200000 ∧
          field bar.payload "close_time_ms" = .int 1704067259999 :=
    ⟨rfl, rfl, rfl⟩
  simp only [parseRow, bind_eq_ok_iff, refuseIf_eq_ok_iff, exists_const]
  refine
    ⟨?_, ?_, newYear, (utcDatetime_newYear _).1, bar.payload,
      payload_newYear bar, ?_, newYear, (utcDatetime_newYear _).2, by simp,
      ?_⟩
  · exact Bool.false_ne_true
  · simp only [not_or, Bool.not_eq_false, eqJson_text_iff]
    exact ⟨rfl, rfl, rfl⟩
  · simp only [not_or, Bool.not_eq_false, pyEq_text_iff]
    refine ⟨rfl, rfl, rfl, rfl, rfl, rfl, ?_, ?_, ?_, ?_⟩
    · exact (eqJson_text_iff _ _).2 rfl
    · exact (eqJson_text_iff _ _).2 rfl
    · exact (eqJson_text_iff _ _).2 rfl
    · rfl
  · simp only [fields, bind_eq_ok_iff, refuseIf_eq_ok_iff, exists_const,
      identity_newYear, contract_identity, not_not]
    refine
      ⟨known bar member, by decide, (), checkNumbers_newYear bar, _, rfl,
        ?_, ?_, ?_⟩
    · rw [hashes.1]
      simp only [not_or, Bool.not_eq_false, pyEq_text_iff, eqJson_text_iff]
      exact ⟨rfl, rfl⟩
    · rw [hashes.1]
      exact nonempty
    · rw [hashes.1]
      rfl


theorem digestRow_newYear (bar : NewYearBar) :
    dict
        [("produced_at", .text (isoformat newYear)),
          ("message_id", .text bar.barHash), ("topic", .text topic),
          ("source", .text source), ("schema_version", .text schemaVersion),
          ("correlation_id", .text "c-1"), ("causation_id", .null),
          ("payload", .object bar.payload),
          ("stored_payload_sha256", .text bar.payloadHash)] =
      bar.digestRow := by
  apply dict_eq_of_subset
  · exact
      List.pairwise_map.1
        (List.isChain_iff_pairwise.1 (by
          simp only [NewYearBar.digestRow, List.map_cons, List.map_nil]
          decide))
  · simp only [List.map_cons, List.map_nil]
    decide
  · simp only [NewYearBar.digestRow]
    intro entry member
    simp only [List.mem_cons, List.not_mem_nil, or_false] at member ⊢
    tauto
  · rfl

theorem encodeRow_newYear
    {bar : NewYearBar} (member : bar ∈ newYearBars) :
    encodeRow newYearLibrary bar.row bar.parsed = .ok bar.encoded := by
  have hashes := hexdigest_newYear member
  have written :
      canonicalJson newYearLibrary (.object bar.payload) =
        .ok (utf8 (String.ofList (plainText bar.payload))) :=
    canonicalJson_plain rfl
  have comparable :
      ∀ float : PyFloat, float.isFinite = true →
        float.comparable.isSome = true := by
    intro float finite
    cases float with
    | finite value => rfl
    | infinite negative => cases finite
    | nan => cases finite
  have same : (Json.object bar.payload).pyEq (.object bar.payload) = true :=
    pyEq_self comparable (canonical_payload bar)
  simp only [encodeRow, bind_eq_ok_iff, refuseIf_eq_ok_iff, exists_const,
    pure_eq_ok_iff]
  refine
    ⟨?_, ?_, bar.payload, payload_newYear bar, ?_, _, written, ?_,
      .text "c-1", rfl, .null, rfl,
      utf8 (String.ofList (plainText bar.digestRow)), ?_, ?_⟩
  · exact Bool.noConfusion
  · simp only [not_or, Bool.not_eq_false, eqJson_text_iff]
    exact ⟨rfl, rfl⟩
  · intro different
    rw [show bar.parsed.payload = bar.payload from rfl, same] at different
    cases different
  · rw [hashes.2]
    simp only [not_or, Bool.not_eq_false, eqJson_text_iff]
    exact ⟨rfl, isSha256_hexText _⟩
  · rw [hashes.2]
    show canonicalJson newYearLibrary
      (.object
        (dict
          [("produced_at", .text (isoformat newYear)),
            ("message_id", .text bar.barHash), ("topic", .text topic),
            ("source", .text source), ("schema_version", .text schemaVersion),
            ("correlation_id", .text "c-1"), ("causation_id", .null),
            ("payload", .object bar.payload),
            ("stored_payload_sha256", .text bar.payloadHash)])) = _
    rw [digestRow_newYear]
    exact canonicalJson_plain rfl
  · unfold NewYearBar.encoded plainText
    rfl

/-- The export of the five bars. -/
def newYearRows : List ExportRow := newYearBars.map NewYearBar.row

/-- The anchor of each of the five bars. -/
def newYearAnchors : Dict Anchor :=
  symbols.foldl
    (fun anchors symbol =>
      anchors.insert symbol
        ⟨1, 1704067200000, 1704067200000, 1704067259999⟩)
    ∅

/-- Limits that the five bars keep. -/
def newYearLimits : SeedLimits where
  maximumRows := 5
  maximumBytes := 4000000
  maximumSeconds := 60

/-- The accumulator after some of the bars. -/
def recordAll (bars : List NewYearBar) (state : Accumulator) : Accumulator :=
  bars.foldl (fun state bar => state.record bar.parsed bar.encoded) state

theorem foldlM_newYear
    {bars : List NewYearBar} (subset : bars ⊆ newYearBars)
    (symbolsApart : (bars.map NewYearBar.symbol).Nodup)
    (hashesApart : (bars.map NewYearBar.barHash).Nodup)
    {state : Accumulator}
    (fresh : ∀ bar ∈ bars, bar.barHash ∉ state.seenIds)
    (unseen : ∀ bar ∈ bars, state.previous.lookup bar.symbol = none)
    (rows : state.rows + bars.length ≤ 5)
    (bytes : state.bytes ≤ 640000 * state.rows) :
    (bars.map NewYearBar.row).foldlM
        (fun state raw => do
          let (after, _) ←
            add newYearLibrary (fun _ => 0) newYearLimits state raw
          return after)
        state =
      .ok (recordAll bars state) := by
  induction bars generalizing state with
  | nil => rfl
  | cons bar rest induction =>
      rw [List.map_cons, List.nodup_cons] at symbolsApart hashesApart
      rw [List.forall_mem_cons] at fresh unseen
      rw [List.cons_subset] at subset
      rw [List.length_cons] at rows
      have small := length_encoded subset.1
      have added :
          add newYearLibrary (fun _ => 0) newYearLimits state bar.row =
            .ok (state.record bar.parsed bar.encoded, bar.encoded.tuple) := by
        rw [add_eq_ok_iff]
        refine
          ⟨by simp [Expired, newYearLimits], ⟨bar.parsed, bar.encoded⟩,
            ⟨parseRow_newYear subset.1, encodeRow_newYear subset.1⟩, fresh.1,
            ?_, ?_, rfl⟩
        · intro previous known
          exact absurd (known.symm.trans unseen.1) (Option.some_ne_none _)
        · simp only [newYearLimits, maxRowBytes]
          omega
      rw [List.map_cons, List.foldlM_cons, added]
      refine induction subset.2 symbolsApart.2 hashesApart.2 ?_ ?_ ?_ ?_
      · intro other member listed
        rcases List.mem_append.1 listed with old | new
        · exact fresh.2 other member old
        · have same : other.barHash = bar.barHash := List.mem_singleton.1 new
          exact hashesApart.1 (same ▸ List.mem_map_of_mem member)
      · intro other member
        have apart : other.symbol ≠ bar.symbol := fun same =>
          symbolsApart.1 (same ▸ List.mem_map_of_mem member)
        show (state.previous.insert bar.symbol _).lookup other.symbol = none
        rw [AList.lookup_insert_ne apart]
        exact unseen.2 other member
      · show state.rows + 1 + rest.length ≤ 5
        omega
      · show
          state.bytes + bar.encoded.encoded.length ≤
            640000 * (state.rows + 1)
        omega

theorem fed_recordAll (bars : List NewYearBar) (state : Accumulator) :
    (recordAll bars state).fed =
      state.fed ++
        bars.flatMap fun bar =>
          frame (utf8 (String.ofList (plainText bar.digestRow))) := by
  induction bars generalizing state with
  | nil => exact (List.append_nil _).symm
  | cons bar rest induction =>
      rw [List.flatMap_cons, ← List.append_assoc]
      exact induction _

theorem actualAnchors_newYear :
    ∃ anchors,
      actualAnchors (recordAll newYearBars Accumulator.initial) =
          .ok anchors ∧
        SameDict anchors newYearAnchors := by
  have computed :
      (match actualAnchors (recordAll newYearBars Accumulator.initial) with
        | .ok anchors => decide (SameDict anchors newYearAnchors)
        | .error _ => false) =
        true := by
    decide
  split at computed
  · rename_i anchors found
    exact ⟨anchors, found, of_decide_eq_true computed⟩
  · cases computed

theorem hashesApart_newYear : (newYearBars.map NewYearBar.barHash).Nodup := by
  have digitsApart :
      (newYearBars.map fun bar => hexDigits bar.barDigest).Nodup := by
    decide
  refine
    List.pairwise_map.2
      ((List.pairwise_map.1 digitsApart).imp fun apart equal => apart ?_)
  unfold NewYearBar.barHash hexText at equal
  exact String.ofList_injective equal

theorem measureHistory_newYear :
    ∃ expected,
      measureHistory newYearLibrary (fun _ => 0) newYearRows newYearAnchors
            newYearLimits =
          .ok expected ∧
        expected.orderedDigestSha256 = hexText newYearDigest := by
  rcases actualAnchors_newYear with ⟨anchors, found, same⟩
  have digest :
      newYearLibrary.sha256.hexdigest
          (recordAll newYearBars Accumulator.initial).fed =
        hexText newYearDigest := by
    have fed :
        (recordAll newYearBars Accumulator.initial).fed = newYearFed := by
      rw [fed_recordAll, newYearFed]
      exact List.nil_append _
    rw [fed]
    exact
      hexdigest_tableDigest nodup_newYearDigests List.mem_cons_self
  refine ⟨⟨anchors, hexText newYearDigest⟩, ?_, rfl⟩
  simp only [measureHistory, bind_eq_ok_iff, pure_eq_ok_iff]
  refine
    ⟨(), ?_, recordAll newYearBars Accumulator.initial, ?_,
      (hexText newYearDigest, anchors), ?_, rfl⟩
  · have five : FiveSymbols newYearAnchors := by
      decide
    simp [checkConfig, refuseIf, five, newYearLimits]
  · exact
      foldlM_newYear (List.Subset.refl _) (by decide)
        hashesApart_newYear (fun _ _ => List.not_mem_nil)
        (fun _ _ => rfl) (by decide) (by decide)
  · simp only [finish, bind_eq_ok_iff, refuseIf_eq_ok_iff, exists_const,
      pure_eq_ok_iff]
    refine ⟨by simp [Expired, newYearLimits], anchors, found, ?_, ?_⟩
    · simpa using same
    · rw [digest]

/-- The arguments of a seed of the five bars in batches of two. -/
def newYearArguments (expected : SeedExpectation) : SeedArguments where
  source := ⟨"kairos", "epoch-1", true, true⟩
  targetIdentity :=
    ⟨"kairos_epoch_0123456789ab", "epoch-2", true, true, false⟩
  expected := expected
  limits := newYearLimits
  batchSize := 2

/--
The five bars are measured and seeded; over a lost connection they are not,
and the target stays empty.
-/
theorem seedHistory_newYear :
    ∃ expected receipt after failure unchanged,
      measureHistory newYearLibrary (fun _ => 0) newYearRows newYearAnchors
            newYearLimits =
          .ok expected ∧
        seedHistory newYearLibrary (fun _ => 0) (fun _ => none)
              (newYearArguments expected) newYearRows ⟨[], 0⟩ =
            (.ok receipt, after) ∧
          receipt.orderedDigestSha256 = hexText newYearDigest ∧
            ExactSeed newYearLibrary expected.anchors newYearRows after ∧
              seedHistory newYearLibrary (fun _ => 0)
                    (fun _ => some "connection lost")
                    (newYearArguments expected) newYearRows ⟨[], 0⟩ =
                  (.error failure, unchanged) ∧
                unchanged = ⟨[], 0⟩ := by
  rcases measureHistory_newYear with ⟨expected, measured, digest⟩
  have pair :
      validateEpochPair (newYearArguments expected).source
          (newYearArguments expected).targetIdentity =
        .ok () := by
    have name : isNewEpochDatabase "kairos_epoch_0123456789ab" = true := by
      decide
    simp [newYearArguments, validateEpochPair, refuseIf, name]
  have seeds :=
    seedHistory_exact_atomic newYearLibrary (fun _ => 0) (fun _ => none)
      (newYearArguments expected) newYearRows ⟨[], 0⟩
  rcases
      seeds.2.2 (fun _ => 0) newYearAnchors measured pair
        ⟨by simp [newYearArguments], by simp [newYearArguments]⟩
        (by simp [InTime, Expired, newYearArguments, newYearLimits])
        (fun _ => rfl) rfl with
    ⟨receipt, after, seeded, sameDigest, _⟩
  have lost :
      ∃ failure unchanged,
        seedHistory newYearLibrary (fun _ => 0)
            (fun _ => some "connection lost")
            (newYearArguments expected) newYearRows ⟨[], 0⟩ =
          (.error failure, unchanged) := by
    unfold seedHistory
    split
    · exact ⟨_, _, rfl⟩
    · exact ⟨_, _, rfl⟩
  rcases lost with ⟨failure, unchanged, raised⟩
  exact
    ⟨expected, receipt, after, failure, unchanged, measured, seeded,
      sameDigest.trans digest, seeds.1 receipt after seeded, raised,
      (seedHistory_exact_atomic newYearLibrary (fun _ => 0)
        (fun _ => some "connection lost") (newYearArguments expected)
        newYearRows ⟨[], 0⟩).2.1 failure unchanged raised⟩

end KairosDeploy.Epoch.HistorySeed
