import KairosDeploy.Library.PyObject
import KairosDeploy.Library.PyRounding

/-!
# The health of a durable runtime

`parse_metrics` reads the lines of a metrics text into a dictionary of floats
and `health_errors` tests it.  The tests have different forms: some ask for a
value, some for an interval, and most only refuse what lies beyond a limit.
The forms differ on a value that is not a number, which no order relates to
anything.
-/

namespace KairosDeploy.Soak.Health

open KairosDeploy.Library.PyNumber
open KairosDeploy.Library.PyObject

/-! ## Texts -/

/-- The characters at which `str.splitlines` splits, `\r\n` counting once. -/
def isLineBreak (character : Char) : Bool :=
  let code := character.toNat
  (10 ≤ code && code ≤ 13) || (28 ≤ code && code ≤ 30) || code = 0x85 ||
    code = 0x2028 || code = 0x2029

/-- `text.splitlines()`, the line being read given in reverse. -/
def splitLinesFrom (line : List Char) : List Char → List (List Char)
  | [] => if line = [] then [] else [line.reverse]
  | '\r' :: '\n' :: rest => line.reverse :: splitLinesFrom [] rest
  | character :: rest =>
      if isLineBreak character then
        line.reverse :: splitLinesFrom [] rest
      else
        splitLinesFrom (character :: line) rest

/-- `text.splitlines()`. -/
def splitLines (text : List Char) : List (List Char) :=
  splitLinesFrom [] text

/-- `text.split()`. -/
def splitWords (text : List Char) : List (List Char) :=
  (text.splitOnP isSpace).filter fun word => !word.isEmpty

example : splitLines "a\r\nb\n\nc".toList =
    ["a".toList, "b".toList, [], "c".toList] := by
  decide

theorem isLineBreak_of_newline : isLineBreak '\n' = true := by
  decide

theorem isLineBreak_of_return : isLineBreak '\r' = true := by
  decide

/-- Every line break is white space. -/
theorem isSpace_of_isLineBreak {character : Char}
    (ends : isLineBreak character = true) : isSpace character = true := by
  simp only [isSpace, isLineBreak] at *
  simp only [Bool.or_eq_true, Bool.and_eq_true, decide_eq_true_eq] at *
  omega

/-- At a line break that begins no `\r\n`, a line ends. -/
theorem splitLinesFrom_break
    {character : Char} (ends : isLineBreak character = true)
    (line rest : List Char)
    (apart : character = '\r' → rest.head? ≠ some '\n') :
    splitLinesFrom line (character :: rest) =
      line.reverse :: splitLinesFrom [] rest := by
  rw [splitLinesFrom, if_pos ends]
  rintro tail rfl rfl
  exact apart rfl rfl

theorem splitLinesFrom_inside
    {character : Char} (inside : isLineBreak character = false)
    (line rest : List Char) :
    splitLinesFrom line (character :: rest) =
      splitLinesFrom (character :: line) rest := by
  rw [splitLinesFrom, if_neg (by simp [inside])]
  rintro tail rfl rfl
  rw [isLineBreak_of_return] at inside
  cases inside

/-! ## Values -/

/-- A float as a value: a rational number, an infinity, or no number. -/
abbrev Value := Comparable

/-- A number as a value. -/
def num (value : ℚ) : Value :=
  some ((value : WithTop ℚ) : WithBot (WithTop ℚ))

theorem pyLt_num (left right : ℚ) :
    pyLt (num left) (num right) = decide (left < right) := by
  simp [pyLt, num]

theorem pyLe_num (left right : ℚ) :
    pyLe (num left) (num right) = decide (left ≤ right) := by
  simp [pyLe, num]

theorem pyEqual_num (left right : ℚ) :
    pyEqual (num left) (num right) = decide (left = right) := by
  simp [pyEqual, num]

/-- The sum of two values, before it is rounded. -/
def exactSum : Value → Value → Value
  | some left, some right =>
      if (left = ⊥ ∧ right = ⊤) ∨ (left = ⊤ ∧ right = ⊥) then
        none
      else
        some (left + right)
  | _, _ => none

/-- `left + right`, a float as well. -/
def pyAdd (left right : Value) : Value :=
  rounded (exactSum left right)

/-- A digit part of a literal: digits with single underscores between them. -/
def digitPart (text : List Char) : Option (List Char) :=
  let pieces := text.splitOn '_'
  if text = [] then
    some []
  else if pieces.all fun piece => !piece.isEmpty && piece.all Char.isDigit then
    some pieces.flatten
  else
    none

/-- A sign and what follows it. -/
def signOf : List Char → Bool × List Char
  | '-' :: rest => (true, rest)
  | '+' :: rest => (false, rest)
  | rest => (false, rest)

/-- The exponent of a literal, zero when there is no `e`. -/
def exponentOf : Option (List Char) → Option Int
  | none => some 0
  | some text => do
      let (negative, digits) := signOf text
      let digits ← digitPart digits
      guard (digits ≠ [])
      let magnitude := (Nat.ofDigitChars 10 digits 0 : Int)
      return if negative then -magnitude else magnitude

/-- The value of an unsigned decimal literal. -/
def decimalOf (text : List Char) : Option ℚ := do
  let (mantissa, exponent) := partition 'e' text
  let (whole, fraction) := partition '.' mantissa
  let whole ← digitPart whole
  let fraction ← digitPart (fraction.getD [])
  guard (whole ++ fraction ≠ [])
  let exponent ← exponentOf exponent
  return (Nat.ofDigitChars 10 (whole ++ fraction) 0 : ℚ) *
    10 ^ (exponent - fraction.length)

/--
`float(text)` of a word of ASCII characters, the float nearest to the number
that a decimal literal writes.
-/
def pyFloat (text : List Char) : Option PyFloat :=
  let (negative, unsigned) := signOf (text.map Char.toLower)
  if unsigned = "nan".toList then
    some .nan
  else if unsigned = "inf".toList ∨ unsigned = "infinity".toList then
    some (.infinite negative)
  else
    (decimalOf unsigned).map fun value =>
      if negative then (nearest value).neg else nearest value

example :
    pyFloat "25.0000000000000001".toList = pyFloat "25".toList ∧
      pyFloat "-1e400".toList = some (.infinite true) := by
  decide +kernel

/-- The entries of a dictionary in the order in which they are assigned. -/
abbrev Metrics := List (String × Value)

/-- The entry that a line of a metrics text assigns, if it assigns one. -/
def metricOf (float : List Char → Option PyFloat) (raw : List Char) :
    Option (String × Value) :=
  let line := strip raw
  if line = [] ∨ line.head? = some '#' then
    none
  else
    match splitWords line with
    | [name, number] =>
        if '\x7b' ∈ name then
          none
        else
          (float number).map fun value =>
            (String.ofList name, value.comparable)
    | _ => none

/-- `parse_metrics`; `float` is absent where it raises `ValueError`. -/
def parseMetrics (float : List Char → Option PyFloat)
    (payload : List Char) : Metrics :=
  (splitLines payload).filterMap (metricOf float)

/-- `metrics.get(name, default)`. -/
def getOr (metrics : Metrics) (name : String) (default : Value) : Value :=
  (lastOf metrics name).getD default

/-! ## The names and the limits -/

/-- `REQUIRED_METRICS`. -/
def requiredMetrics : List String :=
  ["kairos_persistence_up",
    "kairos_redis_up",
    "kairos_outbox_pending",
    "kairos_outbox_dead_lettered_total",
    "kairos_inbox_failed",
    "kairos_inbox_processing_oldest_age_seconds",
    "kairos_inbox_processing_expired",
    "kairos_execution_effects_prepared",
    "kairos_execution_effects_failed",
    "kairos_outbox_oldest_age_seconds"]

/-- `ZERO_REQUIRED`. -/
def zeroRequired : List String :=
  ["kairos_outbox_dead_lettered_total",
    "kairos_inbox_failed",
    "kairos_inbox_processing_expired",
    "kairos_execution_effects_prepared",
    "kairos_execution_effects_failed"]

/-- `MAX_OUTBOX_AGE_SECONDS`. -/
def maxOutboxAgeSeconds : ℚ := 60

/-- `PAPER_REQUIRED_METRICS`. -/
def paperRequiredMetrics : List String :=
  ["kairos_closed_bar_gaps_24h",
    "kairos_closed_bar_symbols_24h",
    "kairos_closed_bar_minimum_coverage_ratio_24h",
    "kairos_closed_bar_latest_age_seconds",
    "kairos_venue_measurements_24h",
    "kairos_venue_availability_ratio_24h",
    "kairos_venue_poll_expected_24h",
    "kairos_venue_poll_attempted_24h",
    "kairos_venue_poll_succeeded_24h",
    "kairos_venue_poll_failed_24h",
    "kairos_venue_blocked_24h",
    "kairos_venue_p95_abs_basis_bps",
    "kairos_venue_p95_spread_bps",
    "kairos_venue_p95_slippage_bps",
    "kairos_venue_max_book_age_ms",
    "kairos_venue_max_timestamp_skew_ms",
    "kairos_venue_p95_latency_ms",
    "kairos_venue_latest_age_seconds",
    "kairos_paper_active_trades",
    "kairos_paper_unprotected_trades",
    "kairos_paper_recovery_blocked",
    "kairos_execution_p95_shortfall_bps",
    "kairos_paper_account_latest_age_seconds",
    "kairos_api_spend_month_usd",
    "kairos_execution_runtime_health_age_seconds",
    "kairos_evedex_auth_age_seconds",
    "kairos_evedex_auth_expires_in_seconds",
    "kairos_evedex_local_mutation_reserve",
    "kairos_evedex_local_mutation_capacity",
    "kairos_evedex_local_mutation_compensation_reserve",
    "kairos_evedex_local_mutation_window_seconds",
    "kairos_evedex_venue_rate_limit_observable",
    "kairos_evedex_venue_rate_limit_reserve"]

/-- `PAPER_ZERO_REQUIRED`. -/
def paperZeroRequired : List String :=
  ["kairos_closed_bar_gaps_24h", "kairos_paper_unprotected_trades"]

/-- The float `0.999`. -/
def minimumCoverage : ℚ := 8998192055486251 / 2 ^ 53

/-- The float `0.99`. -/
def minimumVenueAvailability : ℚ := 8917127262193582 / 2 ^ 53

/-- The metrics that may not exceed 25 basis points. -/
def basisPointMetrics : List String :=
  ["kairos_venue_p95_abs_basis_bps",
    "kairos_venue_p95_spread_bps",
    "kairos_venue_p95_slippage_bps",
    "kairos_execution_p95_shortfall_bps"]

/-- The metrics in milliseconds with their maxima. -/
def millisecondMaxima : List (String × ℚ) :=
  [("kairos_venue_max_book_age_ms", 5000),
    ("kairos_venue_max_timestamp_skew_ms", 2000),
    ("kairos_venue_p95_latency_ms", 5000)]

/-! ## The tests -/

/-- `if condition: errors.append(message)`. -/
def errorIf (condition : Bool) (message : String) : List String :=
  if condition then [message] else []

theorem errorIf_eq_nil_iff (condition : Bool) (message : String) :
    errorIf condition message = [] ↔ condition = false := by
  cases condition <;> simp [errorIf]

/-- `missing:` for every name that is absent. -/
def missingErrors (metrics : Metrics) (names : List String) : List String :=
  names.flatMap fun name =>
    errorIf (lastOf metrics name).isNone ("missing:" ++ name)

/-- `metrics.get(name) != value`, true of an absent metric. -/
def differs (metrics : Metrics) (name : String) (value : ℚ) : Bool :=
  !(lastOf metrics name).any fun found => pyEqual found (num value)

/-- `nonzero:` for every name that is present with another value. -/
def nonzeroErrors (metrics : Metrics) (names : List String) : List String :=
  names.flatMap fun name =>
    errorIf
      ((lastOf metrics name).any fun found => !pyEqual found (num 0))
      ("nonzero:" ++ name)

/-- `metrics.get(name, 0.0) > maximum`. -/
def exceeds (metrics : Metrics) (name : String) (maximum : ℚ) : Bool :=
  pyLt (num maximum) (getOr metrics name (num 0))

/-- `metrics.get(name, default) < minimum`. -/
def fallsShort (metrics : Metrics) (name : String) (default minimum : ℚ) :
    Bool :=
  pyLt (getOr metrics name (num default)) (num minimum)

/-- `not 0 <= metrics.get(name, -1.0) <= 60`. -/
def notRecent (metrics : Metrics) (name : String) : Bool :=
  let age := getOr metrics name (num (-1))
  !(pyLe (num 0) age && pyLe age (num 60))

/-- The errors that every runtime is tested for. -/
def durableErrors (metrics : Metrics) : List String :=
  missingErrors metrics requiredMetrics ++
  errorIf (differs metrics "kairos_persistence_up" 1)
    "persistence_unavailable" ++
  errorIf (differs metrics "kairos_redis_up" 1) "redis_unavailable" ++
  nonzeroErrors metrics zeroRequired ++
  errorIf
    (exceeds metrics "kairos_outbox_oldest_age_seconds" maxOutboxAgeSeconds)
    "outbox_backlog_stale"

/-- The errors of the closed bars and of the venue polls. -/
def venueErrors (metrics : Metrics) : List String :=
  let attempted :=
    getOr metrics "kairos_venue_poll_attempted_24h" (num 0)
  let succeeded :=
    getOr metrics "kairos_venue_poll_succeeded_24h" (num 0)
  let failed := getOr metrics "kairos_venue_poll_failed_24h" (num 0)
  errorIf (fallsShort metrics "kairos_venue_measurements_24h" 0 1)
    "venue_measurements_missing" ++
  errorIf
    (!pyEqual (getOr metrics "kairos_closed_bar_symbols_24h" (num 0))
      (num 5))
    "closed_bar_symbol_coverage_incomplete" ++
  errorIf
    (fallsShort metrics "kairos_closed_bar_minimum_coverage_ratio_24h" 0
      minimumCoverage)
    "closed_bar_coverage_below_0.999" ++
  errorIf (exceeds metrics "kairos_closed_bar_latest_age_seconds" 90)
    "closed_bar_stream_stale" ++
  errorIf
    (fallsShort metrics "kairos_venue_availability_ratio_24h" 0
      minimumVenueAvailability)
    "venue_availability_below_0.99" ++
  errorIf
    (!pyEqual (getOr metrics "kairos_venue_poll_expected_24h" (num 0))
      (num 14400))
    "venue_poll_schedule_incomplete" ++
  errorIf (pyLt attempted (pyAdd succeeded failed))
    "venue_poll_fact_counts_inconsistent" ++
  errorIf (exceeds metrics "kairos_venue_latest_age_seconds" 60)
    "venue_measurement_stale" ++
  basisPointMetrics.flatMap (fun name =>
    errorIf (exceeds metrics name 25) ("threshold:" ++ name)) ++
  millisecondMaxima.flatMap fun entry =>
    errorIf (exceeds metrics entry.1 entry.2) ("threshold:" ++ entry.1)

/-- The errors of the paper account and of the execution runtime. -/
def executionErrors (metrics : Metrics) : List String :=
  let capacity :=
    getOr metrics "kairos_evedex_local_mutation_capacity" (num (-1))
  let reserve :=
    getOr metrics "kairos_evedex_local_mutation_reserve" (num (-1))
  let compensation :=
    getOr metrics "kairos_evedex_local_mutation_compensation_reserve"
      (num (-1))
  let venueObservable :=
    getOr metrics "kairos_evedex_venue_rate_limit_observable" (num (-1))
  errorIf
    (!pyEqual (getOr metrics "kairos_paper_recovery_blocked" (num 0))
      (num 0))
    "paper_recovery_blocked" ++
  errorIf (notRecent metrics "kairos_paper_account_latest_age_seconds")
    "paper_account_snapshot_stale" ++
  errorIf (exceeds metrics "kairos_api_spend_month_usd" 15)
    "api_qualification_budget_exceeded" ++
  errorIf (notRecent metrics "kairos_execution_runtime_health_age_seconds")
    "execution_runtime_health_missing_or_stale" ++
  errorIf (fallsShort metrics "kairos_evedex_auth_age_seconds" (-1) 0)
    "evedex_auth_age_unknown" ++
  errorIf
    (fallsShort metrics "kairos_evedex_auth_expires_in_seconds" (-1) 60)
    "evedex_auth_expired_or_near_expiry" ++
  errorIf
    (!pyEqual capacity (num 30) ||
      fallsShort metrics "kairos_evedex_local_mutation_compensation_reserve"
        (-1) 4 ||
      fallsShort metrics "kairos_evedex_local_mutation_window_seconds" (-1)
        60)
    "evedex_mutation_budget_unsafe" ++
  errorIf (pyLt reserve compensation)
    "evedex_compensation_reserve_exhausted" ++
  errorIf
    (!(pyEqual venueObservable (num 0) || pyEqual venueObservable (num 1)))
    "evedex_venue_rate_limit_observability_unknown" ++
  errorIf
    (pyEqual venueObservable (num 1) &&
      fallsShort metrics "kairos_evedex_venue_rate_limit_reserve" (-1) 1)
    "evedex_venue_rate_limit_exhausted"

/-- `health_errors`. -/
def healthErrors (metrics : Metrics) (paper : Bool) : List String :=
  durableErrors metrics ++
    if paper then
      missingErrors metrics paperRequiredMetrics ++
        nonzeroErrors metrics paperZeroRequired ++
        venueErrors metrics ++ executionErrors metrics
    else
      []

end KairosDeploy.Soak.Health
