import KairosDeploy.Library.JsonValue
import KairosDeploy.Library.Refusal

/-!
# The verdict on the technical canary

`paper_canary_acceptance.evaluate_evidence`: one snapshot of durable evidence
is read against its schema, and a report with a status is built from what the
loop over the trades accumulates.  A violated invariant makes the status
`FAIL`, a scenario that is not covered yet makes it `PENDING`.
-/

namespace KairosDeploy.Canary.Evaluation

open KairosDeploy.Library.JsonValue
open KairosDeploy.Library.PyNumber
open KairosDeploy.Library.Refusal

/-! ## The readers of the schema -/

/-- What the readers raise: `EvidenceSchemaError`, which is caught, and the
`OverflowError` of `float`, which is not. -/
inductive Fault where
  | schema
  | overflow
deriving DecidableEq, Repr

/-- `_exact_keys`. -/
def exactKeys (value : Members) (expected : Finset String) :
    Except Fault Unit :=
  refuseIf (keySet value ≠ expected) .schema

/-- `_mapping`. -/
def mapping : Json → Except Fault Members
  | .object members => .ok members
  | _ => .error .schema

/-- `_list`. -/
def list : Json → Except Fault (List Json)
  | .array items => .ok items
  | _ => .error .schema

/-- `_text`. -/
def text : Json → Except Fault String
  | .text value => do
      refuseIf (value = "") .schema
      return value
  | _ => .error .schema

/-- `_boolean`. -/
def boolean : Json → Except Fault Bool
  | .bool value => .ok value
  | _ => .error .schema

/-- `_integer`. -/
def integer : Json → Except Fault Nat
  | .int value => do
      refuseIf (value < 0) .schema
      return value.toNat
  | _ => .error .schema

/-- The tests of `_finite_nonnegative` after the conversion. -/
def nonnegative (value : PyFloat) : Except Fault PyFloat := do
  refuseIf
    (value.isFinite = false ∨
      pyLt value.comparable (comparableInt 0) = true)
    .schema
  return value

/-- `_finite_nonnegative`. -/
def finiteNonnegative : Json → Except Fault PyFloat
  | .int value =>
      match PyFloat.ofInt value with
      | some float => nonnegative float
      | none => .error .overflow
  | .float value => nonnegative value
  | _ => .error .schema

/-- `_text_set`. -/
def textSet (value : Json) : Except Fault (Finset String) := do
  let items ← list value
  let texts ← items.mapM text
  refuseIf (¬ texts.Nodup) .schema
  return texts.toFinset

/-! ## The evidence -/

/-- The scope that the evidence was collected in. -/
structure Scope where
  environment : String
  tradingMode : String
  profile : String
  exchange : String
  accountId : String
deriving DecidableEq

/-- The recovery barrier. -/
structure Recovery where
  present : Bool
  entriesBlocked : Bool
  recoveryEpoch : Nat
  completed : Bool
  protectedTradeCrossedEpoch : Bool
deriving DecidableEq

/-- The aggregates. -/
structure Integrity where
  preparedEffects : Nat
  failedEffects : Nat
  duplicateClientOrderIds : Nat
  foreignScopeTrades : Nat
  foreignScopeEffects : Nat
  cancelOrderEffects : Nat
  realFillEvents : Nat
  publicFailureEvents : Nat
deriving DecidableEq

/-- An entry of `normalized_trades`. -/
structure Trade where
  symbol : String
  venueSymbol : String
  tradingMode : String
  profile : String
  exchange : String
  strategyId : String
  strategyRevision : String
  state : String
  filledQuantity : PyFloat
  marketableIocLimit : Bool
  nextBarMarket : Bool
  decisionBindingValid : Bool
  eventTypes : Finset String
  exitReasons : Finset String
  publicEventCount : Nat
  expectedPublicEventCount : Nat
  publicSequenceContiguous : Bool
  publicScopeValid : Bool
  protectedSequenceValid : Bool
  internalFailureCount : Nat
  cancelOrderEffects : Nat
  realFillEventCount : Nat
deriving DecidableEq

/-- What the schema of `evaluate_evidence` admits. -/
structure Evidence where
  scope : Scope
  recovery : Recovery
  integrity : Integrity
  trades : List Trade

/-- The keys of the evidence. -/
def evidenceKeys : List String :=
  ["schema_version", "scope", "recovery", "integrity", "trades"]

/-- The keys of the scope. -/
def scopeKeys : List String :=
  ["environment", "trading_mode", "profile", "exchange", "account_id"]

/-- The keys of the recovery barrier. -/
def recoveryKeys : List String :=
  ["present", "entries_blocked", "recovery_epoch", "completed",
    "protected_trade_crossed_epoch"]

/-- The keys of the aggregates. -/
def integrityKeys : List String :=
  ["prepared_effects", "failed_effects", "duplicate_client_order_ids",
    "foreign_scope_trades", "foreign_scope_effects", "cancel_order_effects",
    "real_fill_events", "public_failure_events"]

/-- `trade_keys`. -/
def tradeKeys : List String :=
  ["symbol", "venue_symbol", "trading_mode", "profile", "exchange",
    "strategy_id", "strategy_revision", "state", "filled_quantity",
    "marketable_ioc_limit", "next_bar_market", "decision_binding_valid",
    "event_types", "exit_reasons", "public_event_count",
    "expected_public_event_count", "public_sequence_contiguous",
    "public_scope_valid", "protected_sequence_valid",
    "internal_failure_count", "cancel_order_effects",
    "real_fill_event_count"]

/-- The reading of the scope. -/
def readScope (value : Json) : Except Fault Scope := do
  let scope ← mapping value
  exactKeys scope scopeKeys.toFinset
  return {
    environment := ← text (get scope "environment")
    tradingMode := ← text (get scope "trading_mode")
    profile := ← text (get scope "profile")
    exchange := ← text (get scope "exchange")
    accountId := ← text (get scope "account_id") }

/-- The reading of the recovery barrier. -/
def readRecovery (value : Json) : Except Fault Recovery := do
  let recovery ← mapping value
  exactKeys recovery recoveryKeys.toFinset
  return {
    present := ← boolean (get recovery "present")
    entriesBlocked := ← boolean (get recovery "entries_blocked")
    recoveryEpoch := ← integer (get recovery "recovery_epoch")
    completed := ← boolean (get recovery "completed")
    protectedTradeCrossedEpoch :=
      ← boolean (get recovery "protected_trade_crossed_epoch") }

/-- The reading of the aggregates. -/
def readIntegrity (value : Json) : Except Fault Integrity := do
  let integrity ← mapping value
  exactKeys integrity integrityKeys.toFinset
  return {
    preparedEffects := ← integer (get integrity "prepared_effects")
    failedEffects := ← integer (get integrity "failed_effects")
    duplicateClientOrderIds :=
      ← integer (get integrity "duplicate_client_order_ids")
    foreignScopeTrades := ← integer (get integrity "foreign_scope_trades")
    foreignScopeEffects := ← integer (get integrity "foreign_scope_effects")
    cancelOrderEffects := ← integer (get integrity "cancel_order_effects")
    realFillEvents := ← integer (get integrity "real_fill_events")
    publicFailureEvents :=
      ← integer (get integrity "public_failure_events") }

/-- The reading of one trade. -/
def readTrade (value : Json) : Except Fault Trade := do
  let trade ← mapping value
  exactKeys trade tradeKeys.toFinset
  return {
    symbol := ← text (get trade "symbol")
    venueSymbol := ← text (get trade "venue_symbol")
    tradingMode := ← text (get trade "trading_mode")
    profile := ← text (get trade "profile")
    exchange := ← text (get trade "exchange")
    strategyId := ← text (get trade "strategy_id")
    strategyRevision := ← text (get trade "strategy_revision")
    state := ← text (get trade "state")
    filledQuantity := ← finiteNonnegative (get trade "filled_quantity")
    marketableIocLimit := ← boolean (get trade "marketable_ioc_limit")
    nextBarMarket := ← boolean (get trade "next_bar_market")
    decisionBindingValid := ← boolean (get trade "decision_binding_valid")
    eventTypes := ← textSet (get trade "event_types")
    exitReasons := ← textSet (get trade "exit_reasons")
    publicEventCount := ← integer (get trade "public_event_count")
    expectedPublicEventCount :=
      ← integer (get trade "expected_public_event_count")
    publicSequenceContiguous :=
      ← boolean (get trade "public_sequence_contiguous")
    publicScopeValid := ← boolean (get trade "public_scope_valid")
    protectedSequenceValid :=
      ← boolean (get trade "protected_sequence_valid")
    internalFailureCount := ← integer (get trade "internal_failure_count")
    cancelOrderEffects := ← integer (get trade "cancel_order_effects")
    realFillEventCount := ← integer (get trade "real_fill_event_count") }

/-- The `try` block of `evaluate_evidence`. -/
def readEvidence (evidence : Json) : Except Fault Evidence := do
  let root ← mapping evidence
  exactKeys root evidenceKeys.toFinset
  refuseIf ((get root "schema_version").pyEq (.int 1) = false) .schema
  let scope ← readScope (get root "scope")
  let recovery ← readRecovery (get root "recovery")
  let integrity ← readIntegrity (get root "integrity")
  let rows ← list (get root "trades")
  let trades ← rows.mapM readTrade
  return ⟨scope, recovery, integrity, trades⟩

/-! ## One trade -/

/-- `EXPECTED_VENUE_SYMBOLS`. -/
def expectedVenueSymbols : List (String × String) :=
  [("BTCUSDT", "BTCUSD:DEV"), ("ETHUSDT", "ETHUSD:DEV"),
    ("SOLUSDT", "SOLUSD:DEV"), ("BNBUSDT", "BNBUSD:DEV"),
    ("XRPUSDT", "XRPUSD:DEV")]

/-- `EXPECTED_SYMBOLS`. -/
def expectedSymbols : List String :=
  ["BTCUSDT", "ETHUSDT", "SOLUSDT", "BNBUSDT", "XRPUSDT"]

/-- `EXPECTED_ENVIRONMENTS`. -/
def expectedEnvironments : List String :=
  ["paper:EVEDEX:DEV:PAPER", "paper-dev:EVEDEX:DEV:PAPER"]

/-- `TERMINAL_STATES`. -/
def terminalStates : List String :=
  ["FLAT", "CANCELLED"]

/-- `REQUIRED_PROTECTION_EVENTS`. -/
def requiredProtectionEvents : Finset String :=
  ["STOP_CREATED", "STOP_RECONCILED", "TARGET_CREATED",
    "TARGET_RECONCILED"].toFinset

/-- `REQUIRED_EXIT_REASONS`. -/
def requiredExitReasons : Finset String :=
  ["STOP", "TARGET", "TIMEOUT"].toFinset

/-- `FILL_EVENTS`. -/
def fillEvents : Finset String :=
  ["ENTRY_FILLED", "ENTRY_PARTIAL_FILL"].toFinset

/-- `FORBIDDEN_PUBLIC_EVENTS`. -/
def forbiddenPublicEvents : Finset String :=
  ["FAILED", "RECOVERY_BLOCKED", "EMERGENCY_CLOSE"].toFinset

/-- `[a-z0-9]`. -/
def isAccountEdge (character : Char) : Bool :=
  ('a' ≤ character && character ≤ 'z') || character.isDigit

/-- `ACCOUNT_PATTERN.fullmatch`: after the prefix at most 48 characters, the
first and the last of which are no hyphens. -/
def isAccount (account : String) : Bool :=
  match account.toList.dropPrefix? "kairos-paper-dev-".toList with
  | some name =>
      name.length ≤ 48 &&
        name.all (fun character =>
          isAccountEdge character || character = '-') &&
        name.head?.any isAccountEdge && name.getLast?.any isAccountEdge
  | none => false

namespace Trade

variable (casefold : String → String)

/-- The test for `TRADE_LINEAGE_OUTSIDE_TECHNICAL_CANARY_V1`, negated. -/
def inLineage (trade : Trade) : Bool :=
  expectedVenueSymbols.lookup trade.symbol = some trade.venueSymbol &&
    trade.tradingMode = "PAPER" && trade.profile = "DEV" &&
    casefold trade.exchange = "evedex" &&
    trade.strategyId = "technical-canary" && trade.strategyRevision = "1" &&
    trade.decisionBindingValid

/-- The state is terminal. -/
def isTerminal (trade : Trade) : Bool :=
  terminalStates.contains trade.state

/-- The lifecycle counts as failed. -/
def hasFailed (trade : Trade) : Bool :=
  trade.state = "FAILED_BLOCKED" || trade.internalFailureCount ≠ 0 ||
    !decide (Disjoint trade.eventTypes forbiddenPublicEvents)

/-- The public facts are atomic and contiguous. -/
def isContiguous (trade : Trade) : Bool :=
  trade.publicEventCount = trade.expectedPublicEventCount &&
    trade.publicSequenceContiguous && trade.publicScopeValid

/-- `has_fill`. -/
def hasFill (trade : Trade) : Bool :=
  pyLt (comparableInt 0) trade.filledQuantity.comparable ||
    0 < trade.realFillEventCount

/-- `required_exits`. -/
def requiredExits (trade : Trade) : Finset String :=
  trade.exitReasons ∩ requiredExitReasons

/-- `exit_attribution_valid`. -/
def exitAttributionValid (trade : Trade) : Bool :=
  trade.exitReasons = trade.requiredExits && trade.requiredExits.card = 1

/-- `protected_flat`. -/
def protectedFlat (trade : Trade) : Bool :=
  trade.state = "FLAT" && trade.hasFill &&
    !decide (Disjoint trade.eventTypes fillEvents) &&
    decide ("DECISION_RECEIVED" ∈ trade.eventTypes) &&
    decide (requiredProtectionEvents ⊆ trade.eventTypes) &&
    decide ("EXIT_TRIGGERED" ∈ trade.eventTypes) &&
    decide ("EXIT_FILLED" ∈ trade.eventTypes) &&
    trade.exitAttributionValid && trade.protectedSequenceValid

end Trade

/-! ## The loop over the trades -/

/-- `if condition: reasons.append(reason)`. -/
def reasonIf (condition : Bool) (reason : String) : List String :=
  if condition then [reason] else []

/-- What the loop accumulates. -/
structure Tally where
  failures : List String
  protectedSymbols : Finset String
  observedExitReasons : Finset String
  nonterminalTrades : Nat
  failedLifecycles : Nat
  computedRealFillEvents : Nat
  computedCancelEffects : Nat
  marketableIocLimit : Bool
deriving DecidableEq

/-- The variables before the loop. -/
def Tally.start (trades : List Trade) : Tally where
  failures := []
  protectedSymbols := ∅
  observedExitReasons := ∅
  nonterminalTrades := 0
  failedLifecycles := 0
  computedRealFillEvents := 0
  computedCancelEffects := 0
  marketableIocLimit := !trades.isEmpty

section

variable (casefold : String → String)

/-- The failures that a trade adds. -/
def Trade.failures (trade : Trade) : List String :=
  reasonIf (!trade.inLineage casefold)
      "TRADE_LINEAGE_OUTSIDE_TECHNICAL_CANARY_V1" ++
    reasonIf (!trade.isContiguous)
      "PUBLIC_LIFECYCLE_FACTS_ARE_NOT_ATOMIC_AND_CONTIGUOUS" ++
    reasonIf (trade.hasFill && !trade.protectedFlat)
      "FILLED_TRADE_LACKS_PROTECTED_FLAT_ROUND_TRIP"

/-- The body of the loop. -/
def Tally.add (tally : Tally) (trade : Trade) : Tally where
  failures := tally.failures ++ trade.failures casefold
  protectedSymbols :=
    if trade.protectedFlat then insert trade.symbol tally.protectedSymbols
    else tally.protectedSymbols
  observedExitReasons :=
    if trade.protectedFlat then
      tally.observedExitReasons ∪ trade.requiredExits
    else tally.observedExitReasons
  nonterminalTrades :=
    if trade.isTerminal then tally.nonterminalTrades
    else tally.nonterminalTrades + 1
  failedLifecycles :=
    if trade.hasFailed then tally.failedLifecycles + 1
    else tally.failedLifecycles
  computedRealFillEvents :=
    tally.computedRealFillEvents + trade.realFillEventCount
  computedCancelEffects :=
    tally.computedCancelEffects + trade.cancelOrderEffects
  marketableIocLimit :=
    tally.marketableIocLimit && trade.marketableIocLimit &&
      trade.nextBarMarket

/-- The loop. -/
def tallyOf (trades : List Trade) : Tally :=
  trades.foldl (Tally.add casefold) (.start trades)

/-! ## The report -/

/-- The scope is the dedicated one. -/
def Scope.isDedicated (scope : Scope) : Bool :=
  expectedEnvironments.contains scope.environment &&
    scope.tradingMode = "PAPER" && scope.profile = "DEV" &&
    casefold scope.exchange = "evedex" && isAccount scope.accountId

/-- `restart_recovery`. -/
def Recovery.restartRecovery (recovery : Recovery) : Bool :=
  recovery.present && recovery.completed && !recovery.entriesBlocked &&
    2 ≤ recovery.recoveryEpoch && recovery.protectedTradeCrossedEpoch

/-- The failures of the recovery barrier. -/
def Recovery.failures (recovery : Recovery) : List String :=
  if recovery.present then
    reasonIf (recovery.entriesBlocked || !recovery.completed)
      "RECOVERY_BARRIER_NOT_CLEAN"
  else
    ["RECOVERY_BARRIER_MISSING"]

/-- `unresolved_effects`. -/
def Integrity.unresolvedEffects (integrity : Integrity) : Nat :=
  integrity.preparedEffects + integrity.failedEffects

/-- `missing_symbols`, before it is sorted. -/
def Tally.missingSymbols (tally : Tally) : Finset String :=
  expectedSymbols.toFinset \ tally.protectedSymbols

/-- `missing_exits`, before it is sorted. -/
def Tally.missingExits (tally : Tally) : Finset String :=
  requiredExitReasons \ tally.observedExitReasons

/-- `failures`. -/
def failures (evidence : Evidence) (tally : Tally) : List String :=
  let integrity := evidence.integrity
  reasonIf (!evidence.scope.isDedicated casefold)
      "SCOPE_IS_NOT_DEDICATED_EVEDEX_DEV_PAPER" ++
    evidence.recovery.failures ++
    reasonIf (integrity.unresolvedEffects ≠ 0)
      "UNRESOLVED_PREPARED_OR_FAILED_EFFECTS" ++
    reasonIf (integrity.duplicateClientOrderIds ≠ 0)
      "DUPLICATE_CLIENT_ORDER_IDS" ++
    reasonIf
      (integrity.foreignScopeTrades ≠ 0 || integrity.foreignScopeEffects ≠ 0)
      "DEDICATED_ACCOUNT_HAS_FOREIGN_SCOPE_FACTS" ++
    reasonIf (integrity.publicFailureEvents ≠ 0)
      "FAILED_OR_EMERGENCY_PUBLIC_LIFECYCLE_FACTS" ++
    tally.failures ++
    reasonIf (tally.computedRealFillEvents ≠ integrity.realFillEvents)
      "REAL_FILL_EVENT_AGGREGATE_MISMATCH" ++
    reasonIf (tally.computedCancelEffects ≠ integrity.cancelOrderEffects)
      "CANCEL_EFFECT_AGGREGATE_MISMATCH" ++
    reasonIf (tally.nonterminalTrades ≠ 0) "NONTERMINAL_TRADE_LIFECYCLES" ++
    reasonIf (tally.failedLifecycles ≠ 0) "FAILED_TRADE_LIFECYCLES"

/-- `pending`. -/
def pending (evidence : Evidence) (tally : Tally) : List String :=
  let integrity := evidence.integrity
  reasonIf (!evidence.recovery.restartRecovery)
      "RESTART_RECOVERY_NOT_YET_PROVEN" ++
    reasonIf (tally.missingSymbols ≠ ∅)
      "PROTECTED_FLAT_ROUND_TRIPS_MISSING" ++
    reasonIf (tally.missingExits ≠ ∅)
      "STOP_TARGET_TIMEOUT_COVERAGE_INCOMPLETE" ++
    reasonIf (!tally.marketableIocLimit)
      "MARKETABLE_IOC_LIMIT_COVERAGE_INCOMPLETE" ++
    reasonIf (integrity.cancelOrderEffects = 0)
      "ENTRY_CANCEL_COVERAGE_INCOMPLETE" ++
    reasonIf (integrity.realFillEvents = 0)
      "REAL_EVEDEX_DEV_FILL_NOT_OBSERVED"

end

/-- The statuses of a report. -/
inductive Status where
  | fail
  | pending
  | pass
deriving DecidableEq, Repr

/-- The text of a status. -/
def Status.code : Status → String
  | .fail => "FAIL"
  | .pending => "PENDING"
  | .pass => "PASS"

/-- `"FAIL" if failures else "PENDING" if pending else "PASS"`. -/
def statusOf (pending failures : List String) : Status :=
  if failures ≠ [] then .fail else if pending ≠ [] then .pending else .pass

theorem isTrans_text :
    IsTrans String fun left right : String => left ≤ right :=
  inferInstance

theorem antisymm_text :
    Std.Antisymm fun left right : String => left ≤ right :=
  inferInstance

theorem total_text : Std.Total fun left right : String => left ≤ right :=
  inferInstance

/-- `sorted` of a set of texts. -/
def sortedTexts (texts : Finset String) : Json :=
  .array
    ((@Finset.sort String texts (fun left right => left ≤ right)
      (fun left right => String.decLE left right) isTrans_text antisymm_text
      total_text).map .text)

/-- `_base_report`. -/
def baseReport (status : Status) (pending failures : List String)
    (coverage counters : Members) : Members :=
  [("schema_version", .int 1),
    ("gate", .text "EVEDEX_DEV_TECHNICAL_CANARY_ACCEPTANCE"),
    ("status", .text status.code), ("accepted", .bool (status = .pass)),
    ("strategy", .text "technical-canary@1"),
    ("scope",
      .object
        [("trading_mode", .text "PAPER"), ("profile", .text "DEV"),
          ("exchange", .text "EVEDEX"),
          ("dedicated_account_namespace", .bool true)]),
    ("coverage", .object coverage), ("counters", .object counters),
    ("pending_reasons", sortedTexts pending.toFinset),
    ("failure_reasons", sortedTexts failures.toFinset),
    ("contains_raw_identifiers", .bool false),
    ("contains_credentials", .bool false)]

/-- `list(EXPECTED_SYMBOLS)`. -/
def requiredSymbols : Json :=
  .array (expectedSymbols.map .text)

/-- `invalid_evidence_report`. -/
def invalidEvidenceReport : Members :=
  baseReport .fail [] ["EVIDENCE_SCHEMA_INVALID"]
    [("protected_flat_symbols", .array []),
      ("required_symbols", requiredSymbols), ("exit_reasons", .array []),
      ("marketable_ioc_limit", .bool false), ("entry_cancel", .bool false),
      ("restart_recovery", .bool false)]
    [("trades", .int 0), ("real_fill_events", .int 0),
      ("duplicate_client_order_ids", .int 0), ("unresolved_effects", .int 0),
      ("nonterminal_trades", .int 0), ("failed_lifecycles", .int 0)]

section

variable (casefold : String → String)

/-- `evaluate_evidence` after its `try` block. -/
def report (evidence : Evidence) : Members :=
  let tally := tallyOf casefold evidence.trades
  let integrity := evidence.integrity
  let failures := failures casefold evidence tally
  let pending := pending evidence tally
  baseReport (statusOf pending failures) pending failures
    [("protected_flat_symbols", sortedTexts tally.protectedSymbols),
      ("required_symbols", requiredSymbols),
      ("missing_symbols", sortedTexts tally.missingSymbols),
      ("exit_reasons", sortedTexts tally.observedExitReasons),
      ("missing_exit_reasons", sortedTexts tally.missingExits),
      ("marketable_ioc_limit", .bool tally.marketableIocLimit),
      ("entry_cancel", .bool (0 < integrity.cancelOrderEffects)),
      ("restart_recovery", .bool evidence.recovery.restartRecovery)]
    [("trades", .int evidence.trades.length),
      ("real_fill_events", .int integrity.realFillEvents),
      ("duplicate_client_order_ids", .int integrity.duplicateClientOrderIds),
      ("unresolved_effects", .int integrity.unresolvedEffects),
      ("nonterminal_trades", .int tally.nonterminalTrades),
      ("failed_lifecycles", .int tally.failedLifecycles)]

/-- `evaluate_evidence`, absent where it raises `OverflowError`. -/
def evaluateEvidence (evidence : Json) : Option Members :=
  match readEvidence evidence with
  | .ok evidence => some (report casefold evidence)
  | .error .schema => some invalidEvidenceReport
  | .error .overflow => none

end

end KairosDeploy.Canary.Evaluation
