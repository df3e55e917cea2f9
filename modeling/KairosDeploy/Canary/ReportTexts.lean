import KairosDeploy.Canary.Acceptance
import KairosDeploy.Drain.ReceiptRedaction

/-!
# What a report on the canary tells

No account, order or effect enters a report.  Its texts come from a fixed
vocabulary, with one exception: the symbol of a protected trade is shown as
the evidence has it, also where the trade is outside the lineage of the
canary.  Such a report has failed.
-/

namespace KairosDeploy.Canary.ReportTexts

open KairosDeploy.Canary.Acceptance
open KairosDeploy.Canary.Evaluation
open KairosDeploy.Drain.ReceiptRedaction
open KairosDeploy.Library.JsonValue
open KairosDeploy.Library.PyObject

/-! ## The parts of a report -/

@[simp]
theorem inside_text_iff (text other : String) :
    Inside (.text text) (.text other) ↔ text = other := by
  constructor
  · intro inside
    cases inside
    rfl
  · rintro rfl
    exact .here

@[simp]
theorem not_inside_int (text : String) (value : Int) :
    ¬ Inside (.text text) (.int value) := by
  intro inside
  cases inside

@[simp]
theorem not_inside_bool (text : String) (value : Bool) :
    ¬ Inside (.text text) (.bool value) := by
  intro inside
  cases inside

@[simp]
theorem inside_array_iff (text : String) (items : List Json) :
    Inside (.text text) (.array items) ↔
      ∃ item ∈ items, Inside (.text text) item := by
  constructor
  · intro inside
    cases inside with
    | item member deeper => exact ⟨_, member, deeper⟩
  · rintro ⟨item, member, deeper⟩
    exact .item member deeper

@[simp]
theorem inside_object_iff (text : String) (members : Members) :
    Inside (.text text) (.object members) ↔
      ∃ entry ∈ members, Inside (.text text) entry.2 := by
  constructor
  · intro inside
    cases inside with
    | value member deeper => exact ⟨_, member, deeper⟩
  · rintro ⟨entry, member, deeper⟩
    exact .value member deeper

@[simp]
theorem inside_sortedTexts_iff (text : String) (texts : Finset String) :
    Inside (.text text) (sortedTexts texts) ↔ text ∈ texts := by
  simp [sortedTexts]

/-- The texts of a report are its own and those of its lists. -/
theorem inside_baseReport_iff
    (text : String) (status : Status) (pending failures : List String)
    (coverage counters : Members) :
    Inside (.text text)
        (.object (baseReport status pending failures coverage counters)) ↔
      text = "EVEDEX_DEV_TECHNICAL_CANARY_ACCEPTANCE" ∨
        text = status.code ∨ text = "technical-canary@1" ∨
        (text = "PAPER" ∨ text = "DEV" ∨ text = "EVEDEX") ∨
        Inside (.text text) (.object coverage) ∨
        Inside (.text text) (.object counters) ∨ text ∈ pending ∨
        text ∈ failures := by
  simp [baseReport, -inside_object_iff, inside_object_iff _ (_ :: _)]

/-! ## The vocabulary -/

/-- The reasons that a report can list. -/
def reasons : List String :=
  ["EVIDENCE_SCHEMA_INVALID", "SCOPE_IS_NOT_DEDICATED_EVEDEX_DEV_PAPER",
    "RECOVERY_BARRIER_NOT_CLEAN", "RECOVERY_BARRIER_MISSING",
    "UNRESOLVED_PREPARED_OR_FAILED_EFFECTS", "DUPLICATE_CLIENT_ORDER_IDS",
    "DEDICATED_ACCOUNT_HAS_FOREIGN_SCOPE_FACTS",
    "FAILED_OR_EMERGENCY_PUBLIC_LIFECYCLE_FACTS",
    "TRADE_LINEAGE_OUTSIDE_TECHNICAL_CANARY_V1",
    "PUBLIC_LIFECYCLE_FACTS_ARE_NOT_ATOMIC_AND_CONTIGUOUS",
    "FILLED_TRADE_LACKS_PROTECTED_FLAT_ROUND_TRIP",
    "REAL_FILL_EVENT_AGGREGATE_MISMATCH", "CANCEL_EFFECT_AGGREGATE_MISMATCH",
    "NONTERMINAL_TRADE_LIFECYCLES", "FAILED_TRADE_LIFECYCLES",
    "RESTART_RECOVERY_NOT_YET_PROVEN", "PROTECTED_FLAT_ROUND_TRIPS_MISSING",
    "STOP_TARGET_TIMEOUT_COVERAGE_INCOMPLETE",
    "MARKETABLE_IOC_LIMIT_COVERAGE_INCOMPLETE",
    "ENTRY_CANCEL_COVERAGE_INCOMPLETE", "REAL_EVEDEX_DEV_FILL_NOT_OBSERVED"]

/-- The texts that every report may show. -/
def vocabulary : List String :=
  ["EVEDEX_DEV_TECHNICAL_CANARY_ACCEPTANCE", "FAIL", "PENDING", "PASS",
      "technical-canary@1", "PAPER", "DEV", "EVEDEX", "STOP", "TARGET",
      "TIMEOUT"] ++
    expectedSymbols ++ reasons

theorem mem_reasonIf
    {condition : Bool} {reason listed : String}
    (member : listed ∈ reasonIf condition reason) : listed = reason := by
  cases condition
  · cases member
  · exact List.mem_singleton.1 member

section

variable (casefold : String → String)

theorem mem_trade_failures
    {trade : Trade} {reason : String}
    (listed : reason ∈ trade.failures casefold) : reason ∈ reasons := by
  unfold Trade.failures at listed
  simp only [List.mem_append] at listed
  rcases listed with (listed | listed) | listed <;>
    rw [mem_reasonIf listed] <;> simp [reasons]

theorem mem_recovery_failures
    {recovery : Recovery} {reason : String}
    (listed : reason ∈ recovery.failures) : reason ∈ reasons := by
  unfold Recovery.failures at listed
  split_ifs at listed
  · rw [mem_reasonIf listed]
    simp [reasons]
  · rw [List.mem_singleton.1 listed]
    simp [reasons]

theorem mem_failures
    {evidence : Evidence} {reason : String}
    (listed :
      reason ∈ failures casefold evidence
        (tallyOf casefold evidence.trades)) :
    reason ∈ reasons := by
  unfold failures at listed
  rw [tallyOf_eq] at listed
  simp only [List.mem_append, List.mem_flatMap] at listed
  rcases listed with
    (((((((((listed | listed) | listed) | listed) | listed) | listed) |
      ⟨trade, _, listed⟩) | listed) | listed) | listed) | listed
  · rw [mem_reasonIf listed]
    simp [reasons]
  · exact mem_recovery_failures listed
  · rw [mem_reasonIf listed]
    simp [reasons]
  · rw [mem_reasonIf listed]
    simp [reasons]
  · rw [mem_reasonIf listed]
    simp [reasons]
  · rw [mem_reasonIf listed]
    simp [reasons]
  · exact mem_trade_failures casefold listed
  all_goals
    rw [mem_reasonIf listed]
    simp [reasons]

theorem mem_pending
    {evidence : Evidence} {tally : Tally} {reason : String}
    (listed : reason ∈ pending evidence tally) : reason ∈ reasons := by
  unfold pending at listed
  simp only [List.mem_append] at listed
  rcases listed with
    ((((listed | listed) | listed) | listed) | listed) | listed <;>
    rw [mem_reasonIf listed] <;> simp [reasons]

/-! ## What a report tells -/

theorem code_mem_vocabulary (status : Status) :
    status.code ∈ vocabulary := by
  cases status <;> simp [Status.code, vocabulary]

theorem mem_vocabulary_of_symbol
    {symbol : String} (expected : symbol ∈ expectedSymbols) :
    symbol ∈ vocabulary :=
  List.mem_append_left _ (List.mem_append_right _ expected)

theorem mem_vocabulary_of_exit
    {reason : String} (required : reason ∈ requiredExitReasons) :
    reason ∈ vocabulary := by
  simp only [requiredExitReasons, List.mem_toFinset, List.mem_cons,
    List.not_mem_nil, or_false] at required
  rcases required with rfl | rfl | rfl <;> simp [vocabulary]

theorem mem_vocabulary_of_reason
    {reason : String} (listed : reason ∈ reasons) : reason ∈ vocabulary :=
  List.mem_append_right _ listed

/-- A trade outside the expected symbols makes the evaluation fail. -/
theorem status_of_foreign
    {evidence : Evidence} {trade : Trade} (listed : trade ∈ evidence.trades)
    (foreign : trade.symbol ∉ expectedSymbols) :
    get (report casefold evidence) "status" = .text "FAIL" := by
  have outside : ¬ trade.inLineage casefold = true := fun lineage =>
    foreign (mem_expectedSymbols_of_lineage casefold lineage)
  have some_failure :
      failures casefold evidence (tallyOf casefold evidence.trades) ≠ [] := by
    intro none
    have sound := (failures_nil_iff casefold evidence).1 none
    exact
      outside
        ((failures_eq_nil_iff casefold trade).1
          (sound.2.2.2.2.2.2.1 trade listed)).1
  rw [report, get_status_baseReport, statusOf, if_pos some_failure]
  rfl

theorem coverage_texts
    {evidence : Evidence} {text : String}
    (covered :
      text ∈ (tallyOf casefold evidence.trades).protectedSymbols ∨
        text ∈ expectedSymbols ∨
        text ∈ (tallyOf casefold evidence.trades).missingSymbols ∨
        text ∈ (tallyOf casefold evidence.trades).observedExitReasons ∨
        text ∈ (tallyOf casefold evidence.trades).missingExits) :
    text ∈ vocabulary ∨
      ∃ trade ∈ evidence.trades, trade.protectedFlat = true ∧
        trade.symbol ∉ expectedSymbols ∧ text = trade.symbol := by
  rw [tallyOf_eq] at covered
  rcases covered with shown | expected | missing | observed | missing
  · rcases List.mem_map.1 (List.mem_toFinset.1 shown) with
      ⟨trade, kept, rfl⟩
    rcases List.mem_filter.1 kept with ⟨listed, flat⟩
    by_cases expected : trade.symbol ∈ expectedSymbols
    · exact Or.inl (mem_vocabulary_of_symbol expected)
    · exact Or.inr ⟨trade, listed, flat, expected, rfl⟩
  · exact Or.inl (mem_vocabulary_of_symbol expected)
  · have expected := List.mem_toFinset.1 (Finset.mem_sdiff.1 missing).1
    exact Or.inl (mem_vocabulary_of_symbol expected)
  · rcases Finset.mem_biUnion.1 observed with ⟨trade, _, closed⟩
    exact Or.inl (mem_vocabulary_of_exit (Finset.mem_inter.1 closed).2)
  · exact Or.inl (mem_vocabulary_of_exit (Finset.mem_sdiff.1 missing).1)

theorem report_texts
    {evidence : Evidence} {text : String}
    (inside : Inside (.text text) (.object (report casefold evidence))) :
    text ∈ vocabulary ∨
      ∃ trade ∈ evidence.trades, trade.protectedFlat = true ∧
        trade.symbol ∉ expectedSymbols ∧ text = trade.symbol := by
  unfold report at inside
  dsimp only at inside
  rw [inside_baseReport_iff] at inside
  rcases inside with rfl | rfl | rfl | (rfl | rfl | rfl) | covered |
    counted | listed | listed
  · exact Or.inl (by simp [vocabulary])
  · exact Or.inl (code_mem_vocabulary _)
  · exact Or.inl (by simp [vocabulary])
  · exact Or.inl (by simp [vocabulary])
  · exact Or.inl (by simp [vocabulary])
  · exact Or.inl (by simp [vocabulary])
  · exact coverage_texts casefold (by simpa [requiredSymbols] using covered)
  · simp at counted
  · exact Or.inl (mem_vocabulary_of_reason (mem_pending listed))
  · exact Or.inl (mem_vocabulary_of_reason (mem_failures casefold listed))

theorem invalidEvidenceReport_texts
    {text : String}
    (inside : Inside (.text text) (.object invalidEvidenceReport)) :
    text ∈ vocabulary := by
  rw [invalidEvidenceReport, inside_baseReport_iff] at inside
  rcases inside with rfl | rfl | rfl | (rfl | rfl | rfl) | covered |
    counted | listed | listed
  · simp [vocabulary]
  · exact code_mem_vocabulary _
  · simp [vocabulary]
  · simp [vocabulary]
  · simp [vocabulary]
  · simp [vocabulary]
  · exact mem_vocabulary_of_symbol (by simpa [requiredSymbols] using covered)
  · simp at counted
  · cases listed
  · rw [List.mem_singleton.1 listed]
    simp [vocabulary, reasons]

/-- A text of a report is in the vocabulary, or the report has failed and the
text is the symbol of a protected trade that the canary does not expect. -/
theorem evaluateEvidence_texts
    {value : Json} {shown : Members}
    (evaluated : evaluateEvidence casefold value = some shown)
    {text : String} (inside : Inside (.text text) (.object shown)) :
    text ∈ vocabulary ∨
      get shown "status" = .text "FAIL" ∧
        ∃ evidence, readEvidence value = .ok evidence ∧
          ∃ trade ∈ evidence.trades, trade.protectedFlat = true ∧
            trade.symbol ∉ expectedSymbols ∧ text = trade.symbol := by
  unfold evaluateEvidence at evaluated
  rcases read : readEvidence value with (_ | _) | evidence
  · rw [read] at evaluated
    cases evaluated
    exact Or.inl (invalidEvidenceReport_texts inside)
  · rw [read] at evaluated
    cases evaluated
  · rw [read] at evaluated
    cases evaluated
    rcases report_texts casefold inside with known |
      ⟨trade, listed, flat, foreign, same⟩
    · exact Or.inl known
    · exact
        Or.inr
          ⟨status_of_foreign casefold listed foreign, evidence, rfl, trade,
            listed, flat, foreign, same⟩

/-- The canary of a symbol that it does not expect. -/
def foreignRows : List Json :=
  [filledRow "BTCUSDT" "BTCUSD:DEV" "STOP",
    filledRow "DOGEUSDT" "DOGEUSD:DEV" "TARGET"]

theorem evaluateEvidence_texts_foreign :
    ∃ shown,
      evaluateEvidence asciiLower
          (.object (withTrades canaryRoot foreignRows)) = some shown ∧
        Inside (.text "DOGEUSDT") (.object shown) ∧
        "DOGEUSDT" ∉ vocabulary ∧
        get shown "status" = .text "FAIL" := by
  have computed :
      ((readEvidence (.object (withTrades canaryRoot foreignRows))).toOption.map
          fun evidence =>
            decide
              ("DOGEUSDT" ∈
                (tallyOf asciiLower evidence.trades).protectedSymbols)) =
        some true := by
    decide +kernel
  have unknown : "DOGEUSDT" ∉ vocabulary := by
    decide
  rcases read : readEvidence (.object (withTrades canaryRoot foreignRows)) with
    fault | evidence
  · rw [read] at computed
    cases computed
  · rw [read] at computed
    have shown :
        "DOGEUSDT" ∈ (tallyOf asciiLower evidence.trades).protectedSymbols :=
      of_decide_eq_true (Option.some.inj computed)
    have evaluated :
        evaluateEvidence asciiLower
            (.object (withTrades canaryRoot foreignRows)) =
          some (report asciiLower evidence) := by
      rw [evaluateEvidence, read]
    have inside :
        Inside (.text "DOGEUSDT") (.object (report asciiLower evidence)) := by
      unfold report
      rw [inside_baseReport_iff]
      simp [shown]
    have told :=
      (evaluateEvidence_texts asciiLower evaluated inside).resolve_left unknown
    exact ⟨_, evaluated, inside, unknown, told.1⟩

end

end KairosDeploy.Canary.ReportTexts
