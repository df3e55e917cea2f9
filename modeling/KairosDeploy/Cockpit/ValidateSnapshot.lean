import KairosDeploy.Library.JsonSchema
import KairosDeploy.Library.Refusal

/-!
# The snapshot validator of the cockpit

`validateSnapshot` of `api.js` and the schema `snapshot-v1.schema.json` that
the cockpit publishes, each as it stands in its file.  `Date.parse` is a
parameter; the pattern for the zone at the end of a timestamp is not.
-/

namespace KairosDeploy.Cockpit.ValidateSnapshot

open KairosDeploy.Library.JsonSchema
open KairosDeploy.Library.PyNumber
open KairosDeploy.Library.Refusal

/-! ## Texts and tests of strings -/

/-- `SYMBOLS`. -/
def symbols : List String :=
  ["BTCUSDT", "ETHUSDT", "SOLUSDT", "BNBUSDT", "XRPUSDT"]

/-- `RUNTIME_STATES`. -/
def runtimeStates : List String := ["RUNNING", "DEGRADED", "STOPPED"]

/-- `TRADING_MODES`. -/
def tradingModes : List String := ["DRY_RUN", "PAPER", "LIVE"]

/-- `POLICIES`. -/
def policies : List String := ["REJECT_ALL", "ALLOWLIST"]

/-- `INTERVALS`. -/
def intervals : List String := ["1m", "5m", "15m", "1h", "4h", "1d"]

/-- `VENUE_STATES`. -/
def venueStates : List String :=
  ["HEALTHY", "DEGRADED", "STALE", "UNAVAILABLE"]

/-- `CANDIDATE_STATES`. -/
def candidateStates : List String := ["CREATED", "REJECTED", "EXPIRED"]

/-- `INTENT_SIDES`. -/
def intentSides : List String := ["LONG", "SHORT", "FLAT"]

/-- `REVIEW_STATES`. -/
def reviewStates : List String := ["ALLOW", "VETO", "DEFER", "NOT_REQUESTED"]

/-- `RISK_STATES`. -/
def riskStates : List String := ["APPROVED", "VETO", "DEFER"]

/-- `EXECUTION_STATES`. -/
def executionStates : List String :=
  ["NOT_REQUESTED", "PENDING", "PARTIAL", "FILLED", "CANCELLED", "REJECTED",
    "UNKNOWN"]

/-- `LIFECYCLE_TYPES`. -/
def lifecycleTypes : List String :=
  ["INTENT", "REVIEW", "RISK", "ORDER", "FILL", "PROTECTION", "TIMEOUT",
    "RECOVERY"]

/-- What `trim` removes. -/
def isWhite (unit : UInt16) : Bool :=
  (9 ≤ unit && unit ≤ 13) ||
    [0x20, 0xA0, 0x1680, 0x2028, 0x2029, 0x202F, 0x205F, 0x3000,
        0xFEFF].contains unit ||
      (0x2000 ≤ unit && unit ≤ 0x200A)

/-- `value.trim().length === 0`. -/
def isBlank (text : Units) : Bool :=
  text.all isWhite

/-- `\d`. -/
def isDigit (unit : UInt16) : Bool :=
  0x30 ≤ unit && unit ≤ 0x39

/-- `/(?:[zZ]|[+-]\d{2}:\d{2})$/.test(value)`. -/
def isZoned (text : Units) : Bool :=
  match text.reverse with
  | last :: rest =>
      last = 0x5A || last = 0x7A ||
        match rest with
        | third :: colon :: second :: first :: sign :: _ =>
            isDigit last && isDigit third && colon = 0x3A &&
              isDigit second && isDigit first &&
                (sign = 0x2B || sign = 0x2D)
        | _ => false
  | [] => false

/-- `[a-z0-9:_-]`. -/
def isSafe (unit : UInt16) : Bool :=
  (0x61 ≤ unit && unit ≤ 0x7A) || isDigit unit ||
    [0x3A, 0x5F, 0x2D].contains unit

/-- `/^[a-z0-9:_-]+$/.test(value)`. -/
def isIdentifier (text : Units) : Bool :=
  !text.isEmpty && text.all isSafe

/-! ## The validator -/

/-- `CockpitApiError`. -/
structure CockpitApiError where
  code : String
  message : String
deriving DecidableEq, Repr

/-- The error of `fail`. -/
def invalid (message : String) : CockpitApiError :=
  ⟨"INVALID_SNAPSHOT", message⟩

/-- What a check returns. -/
abbrev Checked (Result : Type) : Type := Except CockpitApiError Result

/-- `record`. -/
def record (value : Value) (label : String) (allowed keys : List String) :
    Checked Value := do
  match value with
  | .object members =>
      refuseIf
        ((members.any fun member =>
            !(allowed.map units).contains member.1) = true)
        (invalid (label ++ " contains an unsupported field"))
      refuseIf
        ((keys.any fun key => (lookup members key).isNone) = true)
        (invalid (label ++ " is missing a required field"))
      return value
  | _ => .error (invalid (label ++ " must be an object"))

/-- `array`. -/
def array (value : Value) (label : String) (maximum : Nat) :
    Checked (List Value) :=
  match value with
  | .array items =>
      if items.length ≤ maximum then
        .ok items
      else
        .error
          (invalid
            (label ++ " must be an array of at most " ++ toString maximum ++
              " items"))
  | _ =>
      .error
        (invalid
          (label ++ " must be an array of at most " ++ toString maximum ++
            " items"))

/-- `boundedString`, which every caller calls without `allowEmpty`. -/
def boundedString (value : Value) (label : String) (maximum : Nat) :
    Checked Units :=
  match value with
  | .string text =>
      if maximum < text.length || isBlank text then
        .error (invalid (label ++ " must be a bounded string"))
      else
        .ok text
  | _ => .error (invalid (label ++ " must be a bounded string"))

/-- `enumValue`. -/
def enumValue (value : Value) (label : String) (allowed : List String) :
    Checked Units :=
  match value with
  | .string text =>
      if (allowed.map units).contains text then
        .ok text
      else
        .error (invalid (label ++ " is not supported"))
  | _ => .error (invalid (label ++ " is not supported"))

/-- `finiteNumber`; without a minimum it is `-Infinity`. -/
def finiteNumber (value : Value) (label : String) (least : Option ℚ) :
    Checked ℚ :=
  match value with
  | .number (.finite float) =>
      if (least.any fun bound => decide (float.value < bound)) = true then
        .error (invalid (label ++ " must be a finite number"))
      else
        .ok float.value
  | _ => .error (invalid (label ++ " must be a finite number"))

/-- `Number.MIN_VALUE`. -/
def minValue : ℚ := 2 ^ (-1074 : ℤ)

/-- `for (const [index, item] of items.entries())` with a variable that the
body changes. -/
def forEntries {State : Type}
    (body : Nat → State → Value → Checked State) :
    Nat → State → List Value → Checked State
  | _, state, [] => .ok state
  | index, state, item :: rest => do
      let next ← body index state item
      forEntries body (index + 1) next rest

/-- `label[index]`. -/
def entry (label : String) (index : Nat) : String :=
  label ++ "[" ++ toString index ++ "]"

section

variable (dateParse : Units → Option Int)

/-- The timestamp check. -/
def isTimestamp (text : Units) : Bool :=
  isZoned text && (dateParse text).isSome

/-- `isoDateTime`. -/
def isoDateTime (value : Value) (label : String) : Checked Units := do
  let text ← boundedString value label 40
  refuseIf (isTimestamp dateParse text = false)
    (invalid (label ++ " must be an ISO-8601 timestamp with timezone"))
  return text

/-- `Date.parse` of a text that passed the check. -/
def parsed (text : Units) : Int :=
  (dateParse text).getD 0

/-- `validateSystem`. -/
def validateSystem (value : Value) : Checked Unit := do
  let system ←
    record value "system"
      ["runtime_state", "trading_mode", "strategy_policy", "readiness"]
      ["runtime_state", "trading_mode", "strategy_policy", "readiness"]
  let _ ←
    enumValue (system.read "runtime_state") "system.runtime_state"
      runtimeStates
  let _ ←
    enumValue (system.read "trading_mode") "system.trading_mode" tradingModes
  let _ ←
    enumValue (system.read "strategy_policy") "system.strategy_policy"
      policies
  let readiness ←
    record (system.read "readiness") "system.readiness"
      ["technical_paper_ready", "paper_qualified", "alpha_ready",
        "live_ready"]
      ["technical_paper_ready", "paper_qualified", "alpha_ready",
        "live_ready"]
  refuseIf
    ((readiness.members.any fun member =>
        !type [.boolean]
            ((List.lookup member.1 readiness.members).getD .null)) =
      true)
    (invalid "system.readiness values must be boolean")

/-- `time <= previousTime`, where no time is `-Infinity`. -/
def notAfter (time : Int) : Option Int → Bool
  | some previous => time ≤ previous
  | none => false

/-- The body of the loop of `validateBars`. -/
def validateBar (label : String) (index : Nat) (previous : Option Int)
    (value : Value) : Checked (Option Int) := do
  let bar ←
    record value (entry label index)
      ["closed_at", "open", "high", "low", "close"]
      ["closed_at", "open", "high", "low", "close"]
  let closedAt ← isoDateTime dateParse (bar.read "closed_at")
    (label ++ ".closed_at")
  let opening ←
    finiteNumber (bar.read "open") (label ++ ".open") (some minValue)
  let high ←
    finiteNumber (bar.read "high") (label ++ ".high") (some minValue)
  let low ← finiteNumber (bar.read "low") (label ++ ".low") (some minValue)
  let close ←
    finiteNumber (bar.read "close") (label ++ ".close") (some minValue)
  refuseIf (notAfter (parsed dateParse closedAt) previous = true)
    (invalid (label ++ " timestamps must be strictly increasing"))
  refuseIf (min opening close < low ∨ high < max opening close ∨ high < low)
    (invalid (label ++ " contains invalid OHLC ordering"))
  return some (parsed dateParse closedAt)

/-- `validateBars`. -/
def validateBars (value : Value) (label : String) : Checked Unit := do
  let bars ← array value label 500
  let _ ← forEntries (validateBar dateParse label) 0 none bars

/-- The body of the inner loop of `validateIndicators`. -/
def validatePoint (label : String) (index : Nat) (previous : Option Int)
    (point : Value) : Checked (Option Int) := do
  let item ←
    record point (entry (label ++ ".values") index) ["closed_at", "value"]
      ["closed_at", "value"]
  let closedAt ← isoDateTime dateParse (item.read "closed_at")
    (label ++ ".closed_at")
  let _ ← finiteNumber (item.read "value") (label ++ ".value") none
  refuseIf (notAfter (parsed dateParse closedAt) previous = true)
    (invalid (label ++ " timestamps must be strictly increasing"))
  return some (parsed dateParse closedAt)

/-- The body of the loop of `validateIndicators`. -/
def validateIndicator (label : String) (index : Nat) (ids : List Units)
    (value : Value) : Checked (List Units) := do
  let indicator ←
    record value (entry label index) ["id", "label", "values"]
      ["id", "label", "values"]
  let id ← boundedString (indicator.read "id") (label ++ ".id") 64
  refuseIf (isIdentifier id = false ∨ id ∈ ids)
    (invalid (label ++ " ids must be unique safe identifiers"))
  let _ ← boundedString (indicator.read "label") (label ++ ".label") 64
  let values ← array (indicator.read "values") (label ++ ".values") 500
  let _ ← forEntries (validatePoint dateParse label) 0 none values
  return id :: ids

/-- `validateIndicators`. -/
def validateIndicators (value : Value) (label : String) : Checked Unit := do
  let indicators ← array value label 16
  let _ ← forEntries (validateIndicator dateParse label) 0 [] indicators

/-- An optional member: absent, `null` or checked. -/
def optionally (value : Value) (key : String)
    (check : Value → Checked Unit) : Checked Unit :=
  match lookup value.members key with
  | none => .ok ()
  | some .null => .ok ()
  | some member => check member

/-- `finiteNumber` of an optional member. -/
def optionalNumber (label : String) (least : Option ℚ) (member : Value) :
    Checked Unit := do
  let _ ← finiteNumber member label least

/-- `book_age_ms`. -/
def optionalAge (member : Value) : Checked Unit := do
  let age ← finiteNumber member "venue_quality.book_age_ms" (some 0)
  refuseIf (age.isInt = false)
    (invalid "venue_quality.book_age_ms must be an integer")

/-- `venue_quality`. -/
def validateVenue (value : Value) : Checked Unit := do
  let venue ←
    record value "market.venue_quality"
      ["state", "as_of", "spread_bps", "book_age_ms", "slippage_bps"]
      ["state", "as_of"]
  let _ ← enumValue (venue.read "state") "venue_quality.state" venueStates
  let _ ← isoDateTime dateParse (venue.read "as_of") "venue_quality.as_of"
  optionally venue "spread_bps"
    (optionalNumber "venue_quality.spread_bps" (some 0))
  optionally venue "slippage_bps"
    (optionalNumber "venue_quality.slippage_bps" none)
  optionally venue "book_age_ms" optionalAge

/-- The body of the loop of `validateMarkets`. -/
def validateMarket (index : Nat) (seenSymbols : List Units)
    (value : Value) : Checked (List Units) := do
  let market ←
    record value (entry "markets" index)
      ["symbol", "bar_interval", "bars", "indicators", "venue_quality"]
      ["symbol", "bar_interval", "bars", "indicators", "venue_quality"]
  let symbol ← enumValue (market.read "symbol") "market.symbol" symbols
  refuseIf (symbol ∈ seenSymbols)
    (invalid "markets must not contain duplicate symbols")
  let _ ←
    enumValue (market.read "bar_interval") "market.bar_interval" intervals
  validateBars dateParse (market.read "bars") "market.bars"
  validateIndicators dateParse (market.read "indicators") "market.indicators"
  validateVenue dateParse (market.read "venue_quality")
  return symbol :: seenSymbols

/-- `validateMarkets`. -/
def validateMarkets (value : Value) : Checked Unit := do
  let markets ← array value "markets" 5
  let _ ← forEntries (validateMarket dateParse) 0 [] markets

/-- `reason_code`: checked unless it is `null`. -/
def validateReason : Value → Checked Unit
  | .null => .ok ()
  | reason => do
      let _ ← boundedString reason "decision.reason_code" 96

/-- The body of the loop of `validateDecisions`. -/
def validateDecision (index : Nat) (_ : Unit) (item : Value) :
    Checked Unit := do
  let decision ←
    record item (entry "decisions" index)
      ["id", "created_at", "symbol", "strategy_id", "intent_side",
        "candidate_state", "llm_review", "risk_decision", "execution_state",
        "reason_code"]
      ["id", "created_at", "symbol", "strategy_id", "intent_side",
        "candidate_state", "llm_review", "risk_decision", "execution_state",
        "reason_code"]
  let _ ← boundedString (decision.read "id") "decision.id" 96
  let _ ← isoDateTime dateParse (decision.read "created_at")
    "decision.created_at"
  let _ ← enumValue (decision.read "symbol") "decision.symbol" symbols
  let _ ← boundedString (decision.read "strategy_id") "decision.strategy_id"
    96
  let _ ← enumValue (decision.read "intent_side") "decision.intent_side"
    intentSides
  let _ ←
    enumValue (decision.read "candidate_state") "decision.candidate_state"
      candidateStates
  let _ ← enumValue (decision.read "llm_review") "decision.llm_review"
    reviewStates
  let _ ← enumValue (decision.read "risk_decision") "decision.risk_decision"
    riskStates
  let _ ←
    enumValue (decision.read "execution_state") "decision.execution_state"
      executionStates
  validateReason (decision.read "reason_code")

/-- `validateDecisions`. -/
def validateDecisions (items : Value) : Checked Unit := do
  let decisions ← array items "decisions" 200
  forEntries (validateDecision dateParse) 0 () decisions

/-- The body of the loop of `validateLifecycle`. -/
def validateEvent (index : Nat) (_ : Unit) (item : Value) :
    Checked Unit := do
  let event ←
    record item (entry "lifecycle" index)
      ["id", "occurred_at", "symbol", "event_type", "state"]
      ["id", "occurred_at", "symbol", "event_type", "state"]
  let _ ← boundedString (event.read "id") "lifecycle.id" 96
  let _ ← isoDateTime dateParse (event.read "occurred_at")
    "lifecycle.occurred_at"
  let _ ← enumValue (event.read "symbol") "lifecycle.symbol" symbols
  let _ ← enumValue (event.read "event_type") "lifecycle.event_type"
    lifecycleTypes
  let _ ← boundedString (event.read "state") "lifecycle.state" 64

/-- `validateLifecycle`. -/
def validateLifecycle (items : Value) : Checked Unit := do
  let events ← array items "lifecycle" 200
  forEntries (validateEvent dateParse) 0 () events

/-- The body of the loop of `validateTca`. -/
def validateTcaRow (index : Nat) (_ : Unit) (item : Value) :
    Checked Unit := do
  let row ←
    record item (entry "tca" index)
      ["reference_id", "measured_at", "fee_bps", "slippage_bps",
        "funding_bps"]
      ["reference_id", "measured_at", "fee_bps", "slippage_bps"]
  let _ ← boundedString (row.read "reference_id") "tca.reference_id" 96
  let _ ← isoDateTime dateParse (row.read "measured_at") "tca.measured_at"
  let _ ← finiteNumber (row.read "fee_bps") "tca.fee_bps" (some 0)
  let _ ← finiteNumber (row.read "slippage_bps") "tca.slippage_bps" none
  optionally row "funding_bps" (optionalNumber "tca.funding_bps" none)

/-- `validateTca`. -/
def validateTca (items : Value) : Checked Unit := do
  let rows ← array items "tca" 200
  forEntries (validateTcaRow dateParse) 0 () rows

/-- `validateSnapshot`. -/
def validateSnapshot (value : Value) : Checked Value := do
  let snapshot ←
    record value "snapshot"
      ["schema_version", "generated_at", "system", "markets", "decisions",
        "lifecycle", "tca"]
      ["schema_version", "generated_at", "system", "markets", "decisions",
        "lifecycle", "tca"]
  refuseIf
    (const "kairos.cockpit.snapshot.v1" (snapshot.read "schema_version") =
      false)
    ⟨"UNSUPPORTED_VERSION", "Snapshot schema version is unsupported"⟩
  let _ ← isoDateTime dateParse (snapshot.read "generated_at")
    "generated_at"
  validateSystem (snapshot.read "system")
  validateMarkets dateParse (snapshot.read "markets")
  validateDecisions dateParse (snapshot.read "decisions")
  validateLifecycle dateParse (snapshot.read "lifecycle")
  validateTca dateParse (snapshot.read "tca")
  return snapshot

end

/-! ## The schema -/

section

variable (dateTime : Units → Bool)

/-- The schema of a timestamp. -/
def timestampSchema : Schema :=
  all [type [.string], format dateTime, maxLength 40]

/-- A string of one to `bound` code points. -/
def nonEmptySchema (bound : Nat) : Schema :=
  all [type [.string], minLength 1, maxLength bound]

/-- A positive number. -/
def positiveSchema : Schema :=
  all [type [.number], exclusiveMinimum 0]

/-- `system`. -/
def systemSchema : Schema :=
  closedObject
    ["runtime_state", "trading_mode", "strategy_policy", "readiness"]
    [("runtime_state", enum ["RUNNING", "DEGRADED", "STOPPED"]),
      ("trading_mode", enum ["DRY_RUN", "PAPER", "LIVE"]),
      ("strategy_policy", enum ["REJECT_ALL", "ALLOWLIST"]),
      ("readiness",
        closedObject
          ["technical_paper_ready", "paper_qualified", "alpha_ready",
            "live_ready"]
          [("technical_paper_ready", type [.boolean]),
            ("paper_qualified", type [.boolean]),
            ("alpha_ready", type [.boolean]),
            ("live_ready", type [.boolean])])]

/-- An item of `bars`. -/
def barSchema : Schema :=
  closedObject ["closed_at", "open", "high", "low", "close"]
    [("closed_at", timestampSchema dateTime), ("open", positiveSchema),
      ("high", positiveSchema), ("low", positiveSchema),
      ("close", positiveSchema)]

/-- `^[a-z0-9:_-]{1,64}$`. -/
def isShortIdentifier (text : Units) : Bool :=
  1 ≤ text.length && text.length ≤ 64 && text.all isSafe

/-- An item of `indicators[].values`. -/
def pointSchema : Schema :=
  closedObject ["closed_at", "value"]
    [("closed_at", timestampSchema dateTime), ("value", type [.number])]

/-- An item of `indicators`. -/
def indicatorSchema : Schema :=
  closedObject ["id", "label", "values"]
    [("id", all [type [.string], format isShortIdentifier]),
      ("label", nonEmptySchema 64),
      ("values", boundedArray 500 (pointSchema dateTime))]

/-- `venue_quality`. -/
def venueSchema : Schema :=
  closedObject ["state", "as_of"]
    [("state", enum ["HEALTHY", "DEGRADED", "STALE", "UNAVAILABLE"]),
      ("as_of", timestampSchema dateTime),
      ("spread_bps", all [type [.number, .null], minimum 0]),
      ("book_age_ms", all [type [.integer, .null], minimum 0]),
      ("slippage_bps", type [.number, .null])]

/-- An item of `markets`. -/
def marketSchema : Schema :=
  closedObject
    ["symbol", "bar_interval", "bars", "indicators", "venue_quality"]
    [("symbol",
        enum ["BTCUSDT", "ETHUSDT", "SOLUSDT", "BNBUSDT", "XRPUSDT"]),
      ("bar_interval", enum ["1m", "5m", "15m", "1h", "4h", "1d"]),
      ("bars", boundedArray 500 (barSchema dateTime)),
      ("indicators", boundedArray 16 (indicatorSchema dateTime)),
      ("venue_quality", venueSchema dateTime)]

/-- An item of `decisions`. -/
def decisionSchema : Schema :=
  closedObject
    ["id", "created_at", "symbol", "strategy_id", "intent_side",
      "candidate_state", "llm_review", "risk_decision", "execution_state",
      "reason_code"]
    [("id", nonEmptySchema 96), ("created_at", timestampSchema dateTime),
      ("symbol",
        enum ["BTCUSDT", "ETHUSDT", "SOLUSDT", "BNBUSDT", "XRPUSDT"]),
      ("strategy_id", nonEmptySchema 96),
      ("intent_side", enum ["LONG", "SHORT", "FLAT"]),
      ("candidate_state", enum ["CREATED", "REJECTED", "EXPIRED"]),
      ("llm_review", enum ["ALLOW", "VETO", "DEFER", "NOT_REQUESTED"]),
      ("risk_decision", enum ["APPROVED", "VETO", "DEFER"]),
      ("execution_state",
        enum
          ["NOT_REQUESTED", "PENDING", "PARTIAL", "FILLED", "CANCELLED",
            "REJECTED", "UNKNOWN"]),
      ("reason_code", all [type [.string, .null], maxLength 96])]

/-- An item of `lifecycle`. -/
def eventSchema : Schema :=
  closedObject ["id", "occurred_at", "symbol", "event_type", "state"]
    [("id", nonEmptySchema 96), ("occurred_at", timestampSchema dateTime),
      ("symbol",
        enum ["BTCUSDT", "ETHUSDT", "SOLUSDT", "BNBUSDT", "XRPUSDT"]),
      ("event_type",
        enum
          ["INTENT", "REVIEW", "RISK", "ORDER", "FILL", "PROTECTION",
            "TIMEOUT", "RECOVERY"]),
      ("state", nonEmptySchema 64)]

/-- An item of `tca`. -/
def tcaSchema : Schema :=
  closedObject ["reference_id", "measured_at", "fee_bps", "slippage_bps"]
    [("reference_id", nonEmptySchema 96),
      ("measured_at", timestampSchema dateTime),
      ("fee_bps", all [type [.number], minimum 0]),
      ("slippage_bps", type [.number]),
      ("funding_bps", type [.number, .null])]

/-- `snapshot-v1.schema.json`. -/
def snapshotSchema : Schema :=
  closedObject
    ["schema_version", "generated_at", "system", "markets", "decisions",
      "lifecycle", "tca"]
    [("schema_version", const "kairos.cockpit.snapshot.v1"),
      ("generated_at", timestampSchema dateTime),
      ("system", systemSchema),
      ("markets", boundedArray 5 (marketSchema dateTime)),
      ("decisions", boundedArray 200 (decisionSchema dateTime)),
      ("lifecycle", boundedArray 200 (eventSchema dateTime)),
      ("tca", boundedArray 200 (tcaSchema dateTime))]

end

end KairosDeploy.Cockpit.ValidateSnapshot
