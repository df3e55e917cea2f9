import KairosDeploy.Canary.Evaluation
import KairosDeploy.Library.PyObject

/-!
# What a verdict on the canary stands for

The loop over the trades is summed up without its order.  From this follow
when the status is `PASS`, what a passing report shows, and that the order of
the trades does not matter.
-/

namespace KairosDeploy.Canary.Acceptance

open KairosDeploy.Canary.Evaluation
open KairosDeploy.Library.JsonValue
open KairosDeploy.Library.PyNumber
open KairosDeploy.Library.PyObject
open KairosDeploy.Library.Refusal

/-! ## The loop without its order -/

/-- The trades that are protected round trips. -/
def protectedTrades (trades : List Trade) : List Trade :=
  trades.filter Trade.protectedFlat

section Loop

variable (casefold : String → String)

theorem protectedTrades_cons (trade : Trade) (trades : List Trade) :
    protectedTrades (trade :: trades) =
      if trade.protectedFlat then trade :: protectedTrades trades
      else protectedTrades trades :=
  List.filter_cons

theorem countP_cons_ite
    {Item : Type} (test : Item → Bool) (item : Item) (items : List Item)
    (start : Nat) :
    (if test item then start + 1 else start) + items.countP test =
      start + (item :: items).countP test := by
  rw [List.countP_cons]
  cases test item
  · simp
  · simp only [if_true]
    omega

/-- What the loop adds to its variables. -/
theorem foldl_add (trades : List Trade) (tally : Tally) :
    trades.foldl (Tally.add casefold) tally =
      { failures :=
          tally.failures ++ trades.flatMap (Trade.failures casefold)
        protectedSymbols :=
          tally.protectedSymbols ∪
            ((protectedTrades trades).map Trade.symbol).toFinset
        observedExitReasons :=
          tally.observedExitReasons ∪
            (protectedTrades trades).toFinset.biUnion Trade.requiredExits
        nonterminalTrades :=
          tally.nonterminalTrades +
            trades.countP fun trade => !trade.isTerminal
        failedLifecycles :=
          tally.failedLifecycles + trades.countP Trade.hasFailed
        computedRealFillEvents :=
          tally.computedRealFillEvents +
            (trades.map Trade.realFillEventCount).sum
        computedCancelEffects :=
          tally.computedCancelEffects +
            (trades.map Trade.cancelOrderEffects).sum
        marketableIocLimit :=
          tally.marketableIocLimit &&
            trades.all fun trade =>
              trade.marketableIocLimit && trade.nextBarMarket } := by
  induction trades generalizing tally with
  | nil => simp [protectedTrades]
  | cons trade trades induction =>
      rw [List.foldl_cons, induction]
      have terminal :=
        countP_cons_ite (fun trade : Trade => !trade.isTerminal) trade
          trades tally.nonterminalTrades
      have failed :=
        countP_cons_ite Trade.hasFailed trade trades tally.failedLifecycles
      simp only [Tally.add, protectedTrades_cons]
      congr 1
      · rw [List.flatMap_cons, List.append_assoc]
      · split <;> simp
      · split <;> simp [Finset.union_assoc]
      · rw [← terminal]
        cases trade.isTerminal <;> rfl
      · rw [List.map_cons, List.sum_cons, Nat.add_assoc]
      · rw [List.map_cons, List.sum_cons, Nat.add_assoc]
      · rw [List.all_cons, Bool.and_assoc, Bool.and_assoc, Bool.and_assoc]

/-- The variables after the loop. -/
theorem tallyOf_eq (trades : List Trade) :
    tallyOf casefold trades =
      { failures := trades.flatMap (Trade.failures casefold)
        protectedSymbols :=
          ((protectedTrades trades).map Trade.symbol).toFinset
        observedExitReasons :=
          (protectedTrades trades).toFinset.biUnion Trade.requiredExits
        nonterminalTrades := trades.countP fun trade => !trade.isTerminal
        failedLifecycles := trades.countP Trade.hasFailed
        computedRealFillEvents := (trades.map Trade.realFillEventCount).sum
        computedCancelEffects := (trades.map Trade.cancelOrderEffects).sum
        marketableIocLimit :=
          !trades.isEmpty &&
            trades.all fun trade =>
              trade.marketableIocLimit && trade.nextBarMarket } := by
  rw [tallyOf, foldl_add]
  simp [Tally.start]

end Loop

/-! ## What a trade has to be -/

/-- A fill that was protected and closed for one reason. -/
structure RoundTrip (trade : Trade) (reason : String) : Prop where
  flat : trade.state = "FLAT"
  filled : trade.hasFill = true
  fillFact : ∃ event ∈ trade.eventTypes, event ∈ fillEvents
  decided : "DECISION_RECEIVED" ∈ trade.eventTypes
  guarded : ∀ event ∈ requiredProtectionEvents, event ∈ trade.eventTypes
  triggered : "EXIT_TRIGGERED" ∈ trade.eventTypes
  exited : "EXIT_FILLED" ∈ trade.eventTypes
  attributed : trade.exitReasons = {reason}
  known : reason ∈ requiredExitReasons
  ordered : trade.protectedSequenceValid = true

/-- What no accepted evidence holds a trade without. -/
structure Admissible (casefold : String → String) (trade : Trade) :
    Prop where
  lineage : trade.inLineage casefold = true
  terminal : trade.state ∈ terminalStates
  notBlocked : trade.state ≠ "FAILED_BLOCKED"
  noFailure : trade.internalFailureCount = 0
  noEmergency : ∀ event ∈ trade.eventTypes, event ∉ forbiddenPublicEvents
  contiguous : trade.isContiguous = true
  roundTrip : trade.hasFill = true → ∃ reason, RoundTrip trade reason
  marketable : trade.marketableIocLimit = true
  nextBar : trade.nextBarMarket = true

/-- The evidence that the canary is accepted on. -/
structure Accepted (casefold : String → String) (evidence : Evidence) :
    Prop where
  dedicated : evidence.scope.isDedicated casefold = true
  present : evidence.recovery.present = true
  unblocked : evidence.recovery.entriesBlocked = false
  completed : evidence.recovery.completed = true
  restarted : 2 ≤ evidence.recovery.recoveryEpoch
  crossed : evidence.recovery.protectedTradeCrossedEpoch = true
  prepared : evidence.integrity.preparedEffects = 0
  failed : evidence.integrity.failedEffects = 0
  duplicates : evidence.integrity.duplicateClientOrderIds = 0
  foreignTrades : evidence.integrity.foreignScopeTrades = 0
  foreignEffects : evidence.integrity.foreignScopeEffects = 0
  publicFailures : evidence.integrity.publicFailureEvents = 0
  admissible : ∀ trade ∈ evidence.trades, Admissible casefold trade
  symbols : ∀ symbol ∈ expectedSymbols,
    ∃ trade ∈ evidence.trades,
      trade.symbol = symbol ∧ ∃ reason, RoundTrip trade reason
  exits : ∀ reason ∈ requiredExitReasons,
    ∃ trade ∈ evidence.trades, RoundTrip trade reason
  fills :
    (evidence.trades.map Trade.realFillEventCount).sum =
      evidence.integrity.realFillEvents
  cancels :
    (evidence.trades.map Trade.cancelOrderEffects).sum =
      evidence.integrity.cancelOrderEffects
  filled : 0 < evidence.integrity.realFillEvents
  cancelled : 0 < evidence.integrity.cancelOrderEffects

theorem exitAttributionValid_iff (trade : Trade) :
    trade.exitAttributionValid = true ↔
      ∃ reason, trade.exitReasons = {reason} ∧
        reason ∈ requiredExitReasons := by
  unfold Trade.exitAttributionValid
  simp only [Bool.and_eq_true, decide_eq_true_eq, Finset.card_eq_one]
  constructor
  · rintro ⟨own, reason, only⟩
    have member : reason ∈ trade.requiredExits := by
      rw [only]
      exact Finset.mem_singleton_self reason
    exact ⟨reason, own.trans only, (Finset.mem_inter.1 member).2⟩
  · rintro ⟨reason, only, known⟩
    have required : trade.requiredExits = {reason} := by
      rw [Trade.requiredExits, only]
      exact Finset.singleton_inter_of_mem known
    exact ⟨only.trans required.symm, reason, required⟩

theorem protectedFlat_iff (trade : Trade) :
    trade.protectedFlat = true ↔ ∃ reason, RoundTrip trade reason := by
  simp only [Trade.protectedFlat, Bool.and_eq_true, decide_eq_true_eq,
    Bool.not_eq_true', decide_eq_false_iff_not, exitAttributionValid_iff,
    Finset.not_disjoint_iff]
  constructor
  · rintro ⟨⟨⟨⟨⟨⟨⟨⟨flat, filled⟩, fact⟩, decided⟩, guarded⟩, triggered⟩,
      exited⟩, reason, attributed, known⟩, ordered⟩
    exact
      ⟨reason, flat, filled, fact, decided, fun _ member => guarded member,
        triggered, exited, attributed, known, ordered⟩
  · rintro ⟨reason, trip⟩
    exact
      ⟨⟨⟨⟨⟨⟨⟨⟨trip.flat, trip.filled⟩, trip.fillFact⟩, trip.decided⟩,
        fun _ member => trip.guarded _ member⟩, trip.triggered⟩,
        trip.exited⟩, reason, trip.attributed, trip.known⟩, trip.ordered⟩

/-- A protected trade is closed for the reasons that count. -/
theorem roundTrip_iff
    {trade : Trade} (flat : trade.protectedFlat = true) (reason : String) :
    RoundTrip trade reason ↔ reason ∈ trade.requiredExits := by
  rcases (protectedFlat_iff trade).1 flat with ⟨only, trip⟩
  unfold Trade.requiredExits
  rw [trip.attributed, Finset.singleton_inter_of_mem trip.known,
    Finset.mem_singleton]
  constructor
  · intro other
    have same := other.attributed
    rw [trip.attributed, Finset.singleton_inj] at same
    exact same.symm
  · rintro rfl
    exact trip

theorem hasFailed_eq_false_iff (trade : Trade) :
    trade.hasFailed = false ↔
      trade.state ≠ "FAILED_BLOCKED" ∧ trade.internalFailureCount = 0 ∧
        ∀ event ∈ trade.eventTypes, event ∉ forbiddenPublicEvents := by
  simp [Trade.hasFailed, Finset.disjoint_left, and_assoc]

theorem reasonIf_eq_nil_iff (condition : Bool) (reason : String) :
    reasonIf condition reason = [] ↔ condition = false := by
  cases condition <;> simp [reasonIf]

section

variable (casefold : String → String)

theorem failures_eq_nil_iff (trade : Trade) :
    trade.failures casefold = [] ↔
      trade.inLineage casefold = true ∧ trade.isContiguous = true ∧
        (trade.hasFill = true → trade.protectedFlat = true) := by
  unfold Trade.failures
  simp only [List.append_eq_nil_iff, reasonIf_eq_nil_iff,
    Bool.not_eq_false', Bool.and_eq_false_imp, and_assoc]

/-! ## When the canary passes -/

theorem failures_nil_iff (evidence : Evidence) :
    failures casefold evidence (tallyOf casefold evidence.trades) = [] ↔
      evidence.scope.isDedicated casefold = true ∧
        (evidence.recovery.present = true ∧
          evidence.recovery.entriesBlocked = false ∧
          evidence.recovery.completed = true) ∧
        (evidence.integrity.preparedEffects = 0 ∧
          evidence.integrity.failedEffects = 0) ∧
        evidence.integrity.duplicateClientOrderIds = 0 ∧
        (evidence.integrity.foreignScopeTrades = 0 ∧
          evidence.integrity.foreignScopeEffects = 0) ∧
        evidence.integrity.publicFailureEvents = 0 ∧
        (∀ trade ∈ evidence.trades, trade.failures casefold = []) ∧
        (evidence.trades.map Trade.realFillEventCount).sum =
          evidence.integrity.realFillEvents ∧
        (evidence.trades.map Trade.cancelOrderEffects).sum =
          evidence.integrity.cancelOrderEffects ∧
        (∀ trade ∈ evidence.trades, trade.isTerminal = true) ∧
        ∀ trade ∈ evidence.trades, trade.hasFailed = false := by
  have recovery :
      evidence.recovery.failures = [] ↔
        evidence.recovery.present = true ∧
          evidence.recovery.entriesBlocked = false ∧
          evidence.recovery.completed = true := by
    unfold Recovery.failures
    cases evidence.recovery.present <;> simp [reasonIf_eq_nil_iff]
  unfold failures
  rw [tallyOf_eq]
  simp only [List.append_eq_nil_iff, reasonIf_eq_nil_iff, recovery,
    Integrity.unresolvedEffects, List.flatMap_eq_nil_iff]
  simp [List.countP_eq_zero, and_assoc]

theorem pending_nil_iff (evidence : Evidence) :
    pending evidence (tallyOf casefold evidence.trades) = [] ↔
      evidence.recovery.restartRecovery = true ∧
        (∀ symbol ∈ expectedSymbols,
          ∃ trade ∈ evidence.trades,
            trade.protectedFlat = true ∧ trade.symbol = symbol) ∧
        (∀ reason ∈ requiredExitReasons,
          ∃ trade ∈ evidence.trades,
            trade.protectedFlat = true ∧ reason ∈ trade.requiredExits) ∧
        (evidence.trades ≠ [] ∧
          ∀ trade ∈ evidence.trades,
            trade.marketableIocLimit = true ∧ trade.nextBarMarket = true) ∧
        evidence.integrity.cancelOrderEffects ≠ 0 ∧
        evidence.integrity.realFillEvents ≠ 0 := by
  unfold pending
  rw [tallyOf_eq]
  simp only [List.append_eq_nil_iff, reasonIf_eq_nil_iff, and_assoc]
  simp [Tally.missingSymbols, Tally.missingExits, protectedTrades,
    Finset.sdiff_eq_empty_iff_subset, Finset.subset_iff, and_assoc]

theorem restartRecovery_iff (recovery : Recovery) :
    recovery.restartRecovery = true ↔
      recovery.present = true ∧ recovery.completed = true ∧
        recovery.entriesBlocked = false ∧ 2 ≤ recovery.recoveryEpoch ∧
        recovery.protectedTradeCrossedEpoch = true := by
  simp [Recovery.restartRecovery, and_assoc]

/-- Neither list has a reason exactly if the evidence is accepted. -/
theorem accepted_iff (evidence : Evidence) :
    failures casefold evidence (tallyOf casefold evidence.trades) = [] ∧
        pending evidence (tallyOf casefold evidence.trades) = [] ↔
      Accepted casefold evidence := by
  rw [failures_nil_iff, pending_nil_iff, restartRecovery_iff]
  constructor
  · rintro ⟨⟨dedicated, ⟨present, unblocked, completed⟩, ⟨prepared, failed⟩,
      duplicates, ⟨foreignTrades, foreignEffects⟩, publicFailures, sound,
      fills, cancels, terminal, intact⟩, ⟨_, _, _, restarted, crossed⟩,
      symbols, exits, ⟨_, entries⟩, cancelled, filled⟩
    have admissible : ∀ trade ∈ evidence.trades,
        Admissible casefold trade := by
      intro trade listed
      rcases (failures_eq_nil_iff casefold trade).1 (sound trade listed) with
        ⟨lineage, contiguous, roundTrip⟩
      rcases (hasFailed_eq_false_iff trade).1 (intact trade listed) with
        ⟨notBlocked, noFailure, noEmergency⟩
      exact
        { lineage, notBlocked, noFailure, noEmergency, contiguous
          terminal := by simpa [Trade.isTerminal] using terminal trade listed
          roundTrip := fun fill =>
            (protectedFlat_iff trade).1 (roundTrip fill)
          marketable := (entries trade listed).1
          nextBar := (entries trade listed).2 }
    exact
      { dedicated, present, unblocked, completed, restarted, crossed,
        prepared, failed, duplicates, foreignTrades, foreignEffects,
        publicFailures, admissible, fills, cancels
        symbols := fun symbol expected => by
          rcases symbols symbol expected with ⟨trade, listed, flat, same⟩
          exact ⟨trade, listed, same, (protectedFlat_iff trade).1 flat⟩
        exits := fun reason required => by
          rcases exits reason required with ⟨trade, listed, flat, closed⟩
          exact ⟨trade, listed, (roundTrip_iff flat reason).2 closed⟩
        filled := Nat.pos_of_ne_zero filled
        cancelled := Nat.pos_of_ne_zero cancelled }
  · intro accepted
    have some_trade : evidence.trades ≠ [] := by
      rcases accepted.exits "STOP" (by simp [requiredExitReasons]) with
        ⟨trade, listed, _⟩
      exact List.ne_nil_of_mem listed
    refine
      ⟨⟨accepted.dedicated,
        ⟨accepted.present, accepted.unblocked, accepted.completed⟩,
        ⟨accepted.prepared, accepted.failed⟩, accepted.duplicates,
        ⟨accepted.foreignTrades, accepted.foreignEffects⟩,
        accepted.publicFailures, ?_, accepted.fills, accepted.cancels, ?_,
        ?_⟩,
        ⟨accepted.present, accepted.completed, accepted.unblocked,
          accepted.restarted, accepted.crossed⟩, ?_, ?_,
        ⟨some_trade, ?_⟩, accepted.cancelled.ne', accepted.filled.ne'⟩
    · intro trade listed
      have sound := accepted.admissible trade listed
      exact
        (failures_eq_nil_iff casefold trade).2
          ⟨sound.lineage, sound.contiguous, fun fill =>
            (protectedFlat_iff trade).2 (sound.roundTrip fill)⟩
    · intro trade listed
      simpa [Trade.isTerminal] using
        (accepted.admissible trade listed).terminal
    · intro trade listed
      have sound := accepted.admissible trade listed
      exact
        (hasFailed_eq_false_iff trade).2
          ⟨sound.notBlocked, sound.noFailure, sound.noEmergency⟩
    · intro symbol expected
      rcases accepted.symbols symbol expected with
        ⟨trade, listed, same, trip⟩
      exact ⟨trade, listed, (protectedFlat_iff trade).2 trip, same⟩
    · intro reason required
      rcases accepted.exits reason required with ⟨trade, listed, trip⟩
      have flat := (protectedFlat_iff trade).2 ⟨reason, trip⟩
      exact ⟨trade, listed, flat, (roundTrip_iff flat reason).1 trip⟩
    · intro trade listed
      have sound := accepted.admissible trade listed
      exact ⟨sound.marketable, sound.nextBar⟩

theorem statusOf_eq_pass_iff (pending failures : List String) :
    statusOf pending failures = .pass ↔ failures = [] ∧ pending = [] := by
  unfold statusOf
  split_ifs with failed waiting
  · simp [failed]
  · simp [waiting]
  · exact iff_of_true rfl ⟨not_not.1 failed, not_not.1 waiting⟩

theorem code_eq_pass_iff (status : Status) :
    status.code = "PASS" ↔ status = .pass := by
  cases status <;> simp [Status.code]

/-- The status that a report shows. -/
theorem get_status_baseReport
    (status : Status) (pending failures : List String)
    (coverage counters : Members) :
    get (baseReport status pending failures coverage counters) "status" =
      .text status.code :=
  rfl

theorem report_pass_iff (evidence : Evidence) :
    get (report casefold evidence) "status" = .text "PASS" ↔
      Accepted casefold evidence := by
  rw [report, get_status_baseReport, Json.text.injEq, code_eq_pass_iff,
    statusOf_eq_pass_iff, accepted_iff]

/-! ## What a passing report shows -/

/-- The passing report on so many trades and fills. -/
def passingReport (trades fills : Nat) : Members :=
  baseReport .pass [] []
    [("protected_flat_symbols", sortedTexts expectedSymbols.toFinset),
      ("required_symbols", requiredSymbols),
      ("missing_symbols", sortedTexts ∅),
      ("exit_reasons", sortedTexts requiredExitReasons),
      ("missing_exit_reasons", sortedTexts ∅),
      ("marketable_ioc_limit", .bool true), ("entry_cancel", .bool true),
      ("restart_recovery", .bool true)]
    [("trades", .int trades), ("real_fill_events", .int fills),
      ("duplicate_client_order_ids", .int 0), ("unresolved_effects", .int 0),
      ("nonterminal_trades", .int 0), ("failed_lifecycles", .int 0)]

theorem mem_expectedSymbols_of_lineage
    {trade : Trade} (lineage : trade.inLineage casefold = true) :
    trade.symbol ∈ expectedSymbols := by
  have venue :
      expectedVenueSymbols.lookup trade.symbol = some trade.venueSymbol := by
    simp only [Trade.inLineage, Bool.and_eq_true, decide_eq_true_eq]
      at lineage
    exact lineage.1.1.1.1.1.1
  rcases List.lookup_eq_some_iff.1 venue with ⟨front, rest, split, _⟩
  have listed : (trade.symbol, trade.venueSymbol) ∈ expectedVenueSymbols := by
    rw [split]
    exact List.mem_append_right _ List.mem_cons_self
  exact List.mem_map_of_mem (f := Prod.fst) listed

theorem protectedSymbols_of_accepted
    {evidence : Evidence} (accepted : Accepted casefold evidence) :
    ((protectedTrades evidence.trades).map Trade.symbol).toFinset =
      expectedSymbols.toFinset := by
  ext symbol
  simp only [protectedTrades, List.mem_toFinset, List.mem_map,
    List.mem_filter]
  constructor
  · rintro ⟨trade, ⟨listed, _⟩, rfl⟩
    exact
      mem_expectedSymbols_of_lineage casefold
        (accepted.admissible trade listed).lineage
  · intro expected
    rcases accepted.symbols symbol expected with ⟨trade, listed, same, trip⟩
    exact ⟨trade, ⟨listed, (protectedFlat_iff trade).2 trip⟩, same⟩

theorem observedExitReasons_of_accepted
    {evidence : Evidence} (accepted : Accepted casefold evidence) :
    (protectedTrades evidence.trades).toFinset.biUnion Trade.requiredExits =
      requiredExitReasons := by
  ext reason
  simp only [protectedTrades, Finset.mem_biUnion, List.mem_toFinset,
    List.mem_filter]
  constructor
  · rintro ⟨trade, _, closed⟩
    exact (Finset.mem_inter.1 closed).2
  · intro required
    rcases accepted.exits reason required with ⟨trade, listed, trip⟩
    have flat := (protectedFlat_iff trade).2 ⟨reason, trip⟩
    exact ⟨trade, ⟨listed, flat⟩, (roundTrip_iff flat reason).1 trip⟩

theorem report_of_accepted
    {evidence : Evidence} (accepted : Accepted casefold evidence) :
    report casefold evidence =
      passingReport evidence.trades.length
        evidence.integrity.realFillEvents := by
  have lists := (accepted_iff casefold evidence).2 accepted
  have entries := ((pending_nil_iff casefold evidence).1 lists.2).2.2.2.1
  have sound := (failures_nil_iff casefold evidence).1 lists.1
  have symbols := protectedSymbols_of_accepted casefold accepted
  have exits := observedExitReasons_of_accepted casefold accepted
  have restarted :=
    (restartRecovery_iff evidence.recovery).2
      ⟨accepted.present, accepted.completed, accepted.unblocked,
        accepted.restarted, accepted.crossed⟩
  have marketable :
      (!evidence.trades.isEmpty &&
        evidence.trades.all fun trade =>
          trade.marketableIocLimit && trade.nextBarMarket) = true := by
    simpa using entries
  have terminal :
      (evidence.trades.countP fun trade => !trade.isTerminal) = 0 := by
    simpa [List.countP_eq_zero] using sound.2.2.2.2.2.2.2.2.2.1
  have intact : evidence.trades.countP Trade.hasFailed = 0 := by
    simpa [List.countP_eq_zero] using sound.2.2.2.2.2.2.2.2.2.2
  unfold report passingReport
  simp only [lists.1, lists.2]
  simp only [tallyOf_eq, Tally.missingSymbols, Tally.missingExits, symbols,
    exits, marketable, terminal, intact, restarted, Finset.sdiff_self,
    accepted.cancelled, accepted.duplicates, Integrity.unresolvedEffects,
    accepted.prepared, accepted.failed, decide_true]
  rfl

/-- The canary passes on accepted evidence and on nothing else, and a passing
report shows only how many trades and fills there were. -/
theorem evaluateEvidence_pass_iff (value : Json) :
    (∃ report, evaluateEvidence casefold value = some report ∧
        get report "status" = .text "PASS") ↔
      ∃ evidence, readEvidence value = .ok evidence ∧
        Accepted casefold evidence ∧
        evaluateEvidence casefold value =
          some
            (passingReport evidence.trades.length
              evidence.integrity.realFillEvents) := by
  unfold evaluateEvidence
  rcases readEvidence value with (_ | _) | evidence
  · simp [invalidEvidenceReport, get_status_baseReport, Status.code]
  · simp
  · simp only [Option.some.injEq, exists_eq_left', Except.ok.injEq,
      report_pass_iff]
    constructor
    · intro accepted
      exact ⟨accepted, report_of_accepted casefold accepted⟩
    · rintro ⟨accepted, _⟩
      exact accepted

/-! ## An accepted evidence -/

/-- The evidence with these trades. -/
def withTrades (root : Members) (rows : List Json) : Members :=
  insertMember "trades" (.array rows) root

/-- The evidence of a canary around its trades. -/
def canaryRoot : Members :=
  [("integrity",
      .object
        [("prepared_effects", .int 0), ("failed_effects", .int 0),
          ("duplicate_client_order_ids", .int 0),
          ("foreign_scope_trades", .int 0), ("foreign_scope_effects", .int 0),
          ("cancel_order_effects", .int 1), ("real_fill_events", .int 5),
          ("public_failure_events", .int 0)]),
    ("recovery",
      .object
        [("present", .bool true), ("entries_blocked", .bool false),
          ("recovery_epoch", .int 2), ("completed", .bool true),
          ("protected_trade_crossed_epoch", .bool true)]),
    ("schema_version", .int 1),
    ("scope",
      .object
        [("environment", .text "paper:EVEDEX:DEV:PAPER"),
          ("trading_mode", .text "PAPER"), ("profile", .text "DEV"),
          ("exchange", .text "EVEDEX"),
          ("account_id", .text "kairos-paper-dev-1")]),
    ("trades", .null)]

/-- A row of a trade of the canary without a failed effect. -/
def canaryRow
    (symbol venue state : String) (filled cancelled : Nat)
    (events exits : List String) : Json :=
  .object
    [("symbol", .text symbol), ("venue_symbol", .text venue),
      ("trading_mode", .text "PAPER"), ("profile", .text "DEV"),
      ("exchange", .text "EVEDEX"),
      ("strategy_id", .text "technical-canary"),
      ("strategy_revision", .text "1"), ("state", .text state),
      ("filled_quantity", .int filled), ("marketable_ioc_limit", .bool true),
      ("next_bar_market", .bool true), ("decision_binding_valid", .bool true),
      ("event_types", .array (events.map .text)),
      ("exit_reasons", .array (exits.map .text)),
      ("public_event_count", .int events.length),
      ("expected_public_event_count", .int events.length),
      ("public_sequence_contiguous", .bool true),
      ("public_scope_valid", .bool true),
      ("protected_sequence_valid", .bool (filled ≠ 0)),
      ("internal_failure_count", .int 0),
      ("cancel_order_effects", .int cancelled),
      ("real_fill_event_count", .int filled)]

/-- The row of a trade that was filled, protected and closed. -/
def filledRow (symbol venue reason : String) : Json :=
  canaryRow symbol venue "FLAT" 1 0
    ["DECISION_RECEIVED", "ENTRY_FILLED", "STOP_CREATED", "STOP_RECONCILED",
      "TARGET_CREATED", "TARGET_RECONCILED", "EXIT_TRIGGERED", "EXIT_FILLED"]
    [reason]

/-- A round trip in every symbol, and an entry that was cancelled. -/
def canaryRows : List Json :=
  [filledRow "BTCUSDT" "BTCUSD:DEV" "STOP",
    filledRow "ETHUSDT" "ETHUSD:DEV" "TARGET",
    filledRow "SOLUSDT" "SOLUSD:DEV" "TIMEOUT",
    filledRow "BNBUSDT" "BNBUSD:DEV" "STOP",
    filledRow "XRPUSDT" "XRPUSD:DEV" "STOP",
    canaryRow "BTCUSDT" "BTCUSD:DEV" "CANCELLED" 0 1
      ["DECISION_RECEIVED", "ENTRY_CANCELLED"] []]

theorem readEvidence_canary :
    ∃ evidence,
      readEvidence (.object (withTrades canaryRoot canaryRows)) =
          .ok evidence ∧
        Accepted asciiLower evidence ∧ evidence.trades.length = 6 ∧
        evidence.integrity.realFillEvents = 5 := by
  have computed :
      ((readEvidence (.object (withTrades canaryRoot canaryRows))).toOption.map
          fun evidence =>
            (evidence.trades.length, evidence.integrity.realFillEvents,
              failures asciiLower evidence (tallyOf asciiLower evidence.trades),
              pending evidence (tallyOf asciiLower evidence.trades))) =
        some (6, 5, [], []) := by
    decide +kernel
  rcases read : readEvidence (.object (withTrades canaryRoot canaryRows)) with
    fault | evidence
  · rw [read] at computed
    cases computed
  · rw [read] at computed
    simp only [Except.toOption, Option.map_some, Option.some.injEq,
      Prod.mk.injEq] at computed
    rcases computed with ⟨six, five, lists⟩
    exact
      ⟨evidence, rfl, (accepted_iff asciiLower evidence).1 lists, six, five⟩

theorem evaluateEvidence_canary :
    evaluateEvidence asciiLower
        (.object (withTrades canaryRoot canaryRows)) =
      some (passingReport 6 5) := by
  rcases readEvidence_canary with ⟨evidence, read, accepted, six, five⟩
  rw [evaluateEvidence, read, ← six, ← five]
  exact congrArg some (report_of_accepted asciiLower accepted)

theorem evaluateEvidence_pass_canary :
    ∃ evidence,
      readEvidence (.object (withTrades canaryRoot canaryRows)) =
          .ok evidence ∧
        Accepted asciiLower evidence ∧
        evaluateEvidence asciiLower
            (.object (withTrades canaryRoot canaryRows)) =
          some
            (passingReport evidence.trades.length
              evidence.integrity.realFillEvents) :=
  (evaluateEvidence_pass_iff asciiLower _).1
    ⟨_, evaluateEvidence_canary, rfl⟩

/-! ## The order of the trades -/

theorem report_perm
    (evidence : Evidence) {others : List Trade}
    (perm : others.Perm evidence.trades) :
    report casefold { evidence with trades := others } =
      report casefold evidence := by
  have flat : (protectedTrades others).Perm
      (protectedTrades evidence.trades) :=
    perm.filter _
  have symbols :
      ((protectedTrades others).map Trade.symbol).toFinset =
        ((protectedTrades evidence.trades).map Trade.symbol).toFinset :=
    List.toFinset_eq_of_perm _ _ (flat.map _)
  have exits :
      (protectedTrades others).toFinset =
        (protectedTrades evidence.trades).toFinset :=
    List.toFinset_eq_of_perm _ _ flat
  have entries :
      (!others.isEmpty &&
          others.all fun trade =>
            trade.marketableIocLimit && trade.nextBarMarket) =
        (!evidence.trades.isEmpty &&
          evidence.trades.all fun trade =>
            trade.marketableIocLimit && trade.nextBarMarket) := by
    rw [perm.isEmpty_eq, perm.all_eq]
  have pendingSame :
      pending { evidence with trades := others } (tallyOf casefold others) =
        pending evidence (tallyOf casefold evidence.trades) := by
    simp only [pending, tallyOf_eq, Tally.missingSymbols, Tally.missingExits,
      symbols, exits, entries]
  have failuresPerm :
      (failures casefold { evidence with trades := others }
          (tallyOf casefold others)).Perm
        (failures casefold evidence
          (tallyOf casefold evidence.trades)) := by
    simp only [failures, tallyOf_eq, perm.countP_eq,
      (perm.map Trade.realFillEventCount).sum_eq,
      (perm.map Trade.cancelOrderEffects).sum_eq]
    iterate 4 apply List.Perm.append_right
    exact List.Perm.append_left _ (perm.flatMap_right _)
  have statusSame :
      statusOf (pending evidence (tallyOf casefold evidence.trades))
          (failures casefold { evidence with trades := others }
            (tallyOf casefold others)) =
        statusOf (pending evidence (tallyOf casefold evidence.trades))
          (failures casefold evidence
            (tallyOf casefold evidence.trades)) := by
    unfold statusOf
    simp only [ne_eq, ← List.length_eq_zero_iff, failuresPerm.length_eq]
  unfold report
  dsimp only
  rw [pendingSame, statusSame]
  simp only [baseReport, List.toFinset_eq_of_perm _ _ failuresPerm]
  simp only [tallyOf_eq, Tally.missingSymbols, Tally.missingExits, symbols,
    exits, entries, perm.countP_eq, perm.length_eq]

/-- What `readEvidence` reads before it comes to the trades. -/
def readFrame (root : Members) :
    Except Fault (Scope × Recovery × Integrity) := do
  exactKeys root evidenceKeys.toFinset
  refuseIf ((get root "schema_version").pyEq (.int 1) = false) .schema
  let scope ← readScope (get root "scope")
  let recovery ← readRecovery (get root "recovery")
  let integrity ← readIntegrity (get root "integrity")
  return (scope, recovery, integrity)

theorem keySet_withTrades (root : Members) (rows : List Json) :
    keySet (withTrades root rows) = insert "trades" (keySet root) := by
  ext key
  rw [← not_iff_not, ← getMember_eq_none_iff, withTrades]
  by_cases same : key = "trades"
  · simp [same]
  · rw [getMember_insertMember_of_ne _ _ same, getMember_eq_none_iff,
      Finset.mem_insert, or_iff_right same]

theorem mapping_object (members : Members) :
    mapping (.object members) = pure members :=
  rfl

theorem list_array (items : List Json) : list (.array items) = pure items :=
  rfl

theorem readEvidence_withTrades (root : Members) (rows : List Json) :
    readEvidence (.object (withTrades root rows)) = do
      let frame ← readFrame (withTrades root [])
      let trades ← rows.mapM readTrade
      return ⟨frame.1, frame.2.1, frame.2.2, trades⟩ := by
  have others : ∀ key, key ≠ "trades" →
      get (withTrades root rows) key = get (withTrades root []) key := by
    intro key different
    unfold Library.JsonValue.get withTrades
    rw [getMember_insertMember_of_ne _ _ different,
      getMember_insertMember_of_ne _ _ different]
  have listed : get (withTrades root rows) "trades" = .array rows := by
    rw [Library.JsonValue.get, withTrades, getMember_insertMember_self]
    rfl
  have keys : keySet (withTrades root rows) =
      keySet (withTrades root []) := by
    rw [keySet_withTrades, keySet_withTrades]
  unfold readEvidence readFrame
  simp only [mapping_object, exactKeys, keys, listed, list_array,
    bind_assoc, pure_bind, others "schema_version" (by simp),
    others "scope" (by simp), others "recovery" (by simp),
    others "integrity" (by simp)]

/-- The same trades in another order lead to the same report, unless one of
the two orders comes to a `float` that overflows. -/
theorem evaluateEvidence_perm
    (root : Members) {rows others : List Json} (perm : others.Perm rows) :
    evaluateEvidence casefold (.object (withTrades root others)) = none ∨
      evaluateEvidence casefold (.object (withTrades root rows)) = none ∨
      evaluateEvidence casefold (.object (withTrades root others)) =
        evaluateEvidence casefold (.object (withTrades root rows)) := by
  unfold evaluateEvidence
  rw [readEvidence_withTrades, readEvidence_withTrades]
  rcases readFrame (withTrades root []) with fault | frame
  · exact Or.inr (Or.inr rfl)
  · rcases read : rows.mapM readTrade with fault | trades
    · rcases other : others.mapM readTrade with otherFault | otherTrades
      · cases fault
        · cases otherFault
          · exact Or.inr (Or.inr rfl)
          · exact Or.inl rfl
        · exact Or.inr (Or.inl rfl)
      · rcases mapM_perm perm.symm other with ⟨_, succeeded, _⟩
        cases read.symm.trans succeeded
    · rcases mapM_perm perm read with ⟨otherTrades, other, same⟩
      rw [other]
      exact
        Or.inr (Or.inr (congrArg some
          (report_perm casefold ⟨frame.1, frame.2.1, frame.2.2, trades⟩
            same)))

theorem evaluateEvidence_perm_canary :
    canaryRows.reverse.Perm canaryRows ∧
      evaluateEvidence asciiLower
          (.object (withTrades canaryRoot canaryRows.reverse)) =
        some (passingReport 6 5) := by
  have reversed : canaryRows.reverse.Perm canaryRows :=
    List.reverse_perm canaryRows
  have read :
      (readEvidence
          (.object
            (withTrades canaryRoot canaryRows.reverse))).toOption.isSome :=
    by decide +kernel
  refine ⟨reversed, ?_⟩
  rcases evaluateEvidence_perm asciiLower canaryRoot reversed with
    absent | absent | same
  · unfold evaluateEvidence at absent
    split at absent
    · cases absent
    · cases absent
    · rename_i overflow
      rw [overflow] at read
      cases read
  · cases absent.symm.trans evaluateEvidence_canary
  · exact same.trans evaluateEvidence_canary

end

end KairosDeploy.Canary.Acceptance
