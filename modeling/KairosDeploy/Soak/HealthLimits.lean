import KairosDeploy.Soak.Health

/-!
# What an empty list of health errors says

Every metric of a healthy report is present and within its limit, provided
that it is a number.  A metric tested for a value or for an interval is one,
but a metric that is only compared with a limit, or not at all, may be no
number, and a sum of opposite infinities is none either.  The polls are
compared with a rounded sum, which may be rounded down to their number.  These
are the only reports that pass without keeping the limits.
-/

namespace KairosDeploy.Soak.Health

open KairosDeploy.Library.PyNumber
open KairosDeploy.Library.PyObject

/-! ## The limits of a healthy report -/

/-- The metrics that have to have a value. -/
def exactValues : List (String × ℚ) :=
  [("kairos_persistence_up", 1), ("kairos_redis_up", 1),
    ("kairos_closed_bar_symbols_24h", 5),
    ("kairos_venue_poll_expected_24h", 14400),
    ("kairos_paper_recovery_blocked", 0),
    ("kairos_evedex_local_mutation_capacity", 30)] ++
    (zeroRequired ++ paperZeroRequired).map fun name => (name, 0)

/-- The ages that lie between zero and a minute. -/
def recentAges : List String :=
  ["kairos_paper_account_latest_age_seconds",
    "kairos_execution_runtime_health_age_seconds"]

/-- The metrics that may not exceed a limit. -/
def upperLimits : List (String × ℚ) :=
  [("kairos_outbox_oldest_age_seconds", maxOutboxAgeSeconds),
    ("kairos_closed_bar_latest_age_seconds", 90),
    ("kairos_venue_latest_age_seconds", 60),
    ("kairos_api_spend_month_usd", 15)] ++
    basisPointMetrics.map (fun name => (name, 25)) ++ millisecondMaxima

/-- The metrics that may not fall short of a limit. -/
def lowerLimits : List (String × ℚ) :=
  [("kairos_venue_measurements_24h", 1),
    ("kairos_closed_bar_minimum_coverage_ratio_24h", minimumCoverage),
    ("kairos_venue_availability_ratio_24h", minimumVenueAvailability),
    ("kairos_evedex_auth_age_seconds", 0),
    ("kairos_evedex_auth_expires_in_seconds", 60),
    ("kairos_evedex_local_mutation_compensation_reserve", 4),
    ("kairos_evedex_local_mutation_window_seconds", 60)]

/-- The metrics that a report has to have. -/
def allRequired : List String :=
  requiredMetrics ++ paperRequiredMetrics

/-- `metrics[name]`, absent also when it is no number. -/
def numberOf (metrics : Metrics) (name : String) :
    Option (WithBot (WithTop ℚ)) :=
  (lastOf metrics name).join

/--
Every required metric is a number and keeps its limit.  The polls that
succeeded and those that failed are added by `sum`.
-/
structure WithinLimits (sum : Value → Value → Value) (metrics : Metrics) :
    Prop where
  known : ∀ name ∈ allRequired, (numberOf metrics name).isSome
  exactly : ∀ entry ∈ exactValues,
    numberOf metrics entry.1 = num entry.2
  recent : ∀ name ∈ recentAges, ∀ value ∈ numberOf metrics name,
    pyLe (num 0) (some value) ∧ pyLe (some value) (num 60)
  atMost : ∀ entry ∈ upperLimits, ∀ value ∈ numberOf metrics entry.1,
    pyLe (some value) (num entry.2)
  atLeast : ∀ entry ∈ lowerLimits, ∀ value ∈ numberOf metrics entry.1,
    pyLe (num entry.2) (some value)
  counted :
    pyLe
      (sum (numberOf metrics "kairos_venue_poll_succeeded_24h")
        (numberOf metrics "kairos_venue_poll_failed_24h"))
      (numberOf metrics "kairos_venue_poll_attempted_24h")
  reserved :
    pyLe
      (numberOf metrics "kairos_evedex_local_mutation_compensation_reserve")
      (numberOf metrics "kairos_evedex_local_mutation_reserve")
  observable :
    numberOf metrics "kairos_evedex_venue_rate_limit_observable" = num 0 ∨
      numberOf metrics "kairos_evedex_venue_rate_limit_observable" =
          num 1 ∧
        pyLe (num 1)
          (numberOf metrics "kairos_evedex_venue_rate_limit_reserve")

/-- The metrics that pass only with a value or in an interval. -/
def guarded : List String :=
  exactValues.map Prod.fst ++ recentAges ++
    ["kairos_evedex_venue_rate_limit_observable"]

/-- No metric whose tests miss it is no number, nor is the sum of the polls. -/
structure Ordered (metrics : Metrics) : Prop where
  numbers : ∀ name ∈ allRequired, name ∉ guarded →
    lastOf metrics name ≠ some none
  finiteSum :
    let succeeded := lastOf metrics "kairos_venue_poll_succeeded_24h"
    let failed := lastOf metrics "kairos_venue_poll_failed_24h"
    ¬ (succeeded = some (some ⊥) ∧ failed = some (some ⊤)) ∧
      ¬ (succeeded = some (some ⊤) ∧ failed = some (some ⊥))

/-- The polls are not fewer than a sum that is rounded to their number. -/
def SumKept (metrics : Metrics) : Prop :=
  let attempted := numberOf metrics "kairos_venue_poll_attempted_24h"
  let succeeded := numberOf metrics "kairos_venue_poll_succeeded_24h"
  let failed := numberOf metrics "kairos_venue_poll_failed_24h"
  pyAdd succeeded failed = attempted →
    pyLt attempted (exactSum succeeded failed) = false

/-! ## What each form of a test establishes -/

section Tests

variable {metrics : Metrics} {name : String} {limit default : ℚ}
  {value : WithBot (WithTop ℚ)}

theorem missingErrors_eq_nil_iff
    (metrics : Metrics) (names : List String) :
    missingErrors metrics names = [] ↔
      ∀ name ∈ names, (lastOf metrics name).isSome := by
  simp [missingErrors, List.flatMap_eq_nil_iff, errorIf_eq_nil_iff,
    Option.isSome_iff_ne_none]

theorem pyEqual_num_iff (found : Value) (limit : ℚ) :
    pyEqual found (num limit) = true ↔ found = num limit := by
  cases found <;> simp [pyEqual, num]

theorem lastOf_of_numberOf (found : numberOf metrics name = some value) :
    lastOf metrics name = some (some value) :=
  Option.join_eq_some_iff.1 found

theorem numberOf_of_lastOf
    (found : lastOf metrics name = some (num limit)) :
    numberOf metrics name = num limit := by
  rw [numberOf, found]
  rfl

/-- A metric tested for zero is zero when it is there. -/
theorem lastOf_of_nonzeroErrors
    {names : List String} (clean : nonzeroErrors metrics names = [])
    (present : ∀ name ∈ names, (lastOf metrics name).isSome) :
    ∀ name ∈ names, lastOf metrics name = some (num 0) := by
  intro name member
  rcases Option.isSome_iff_exists.1 (present name member) with
    ⟨found, read⟩
  have zero :
      errorIf
          ((lastOf metrics name).any fun found => !pyEqual found (num 0))
          ("nonzero:" ++ name) = [] :=
    List.flatMap_eq_nil_iff.1 clean name member
  rw [errorIf_eq_nil_iff, read, Option.any_some, Bool.not_eq_false',
    pyEqual_num_iff] at zero
  rw [read, zero]

/-- A metric tested for a value has it. -/
theorem lastOf_of_differs (same : differs metrics name limit = false) :
    lastOf metrics name = some (num limit) := by
  rw [differs, Bool.not_eq_false'] at same
  cases found : lastOf metrics name with
  | none => simp [found] at same
  | some stored =>
      rw [found, Option.any_some, pyEqual_num_iff] at same
      rw [same]

theorem lastOf_of_pyEqual
    (present : (lastOf metrics name).isSome)
    (same :
      (!pyEqual (getOr metrics name (num default)) (num limit)) = false) :
    lastOf metrics name = some (num limit) := by
  rcases Option.isSome_iff_exists.1 present with ⟨found, read⟩
  rw [getOr, read, Option.getD_some, Bool.not_eq_false',
    pyEqual_num_iff] at same
  rw [read, same]

theorem atMost_of_exceeds
    (test : exceeds metrics name limit = false) :
    ∀ value ∈ numberOf metrics name, pyLe (some value) (num limit) = true := by
  intro value found
  rw [exceeds, getOr, lastOf_of_numberOf found] at test
  simpa [pyLt, pyLe, num] using test

theorem atLeast_of_fallsShort
    (test : fallsShort metrics name default limit = false) :
    ∀ value ∈ numberOf metrics name, pyLe (num limit) (some value) = true := by
  intro value found
  rw [fallsShort, getOr, lastOf_of_numberOf found] at test
  simpa [pyLt, pyLe, num] using test

theorem recent_of_notRecent
    (test : notRecent metrics name = false) :
    ∀ value ∈ numberOf metrics name,
      pyLe (num 0) (some value) = true ∧
        pyLe (some value) (num 60) = true := by
  intro value found
  rw [notRecent, getOr, lastOf_of_numberOf found] at test
  simpa using test

/-- A metric tested for an interval is a number. -/
theorem number_of_notRecent
    (test : notRecent metrics name = false) :
    lastOf metrics name ≠ some none := by
  intro found
  rw [notRecent, getOr, found] at test
  simp [pyLe] at test

end Tests

/-! ## A report without errors -/

/-- What the tests establish of a report that passes them all. -/
structure Passed (metrics : Metrics) : Prop where
  present : ∀ name ∈ allRequired, (lastOf metrics name).isSome
  exactly : ∀ entry ∈ exactValues,
    lastOf metrics entry.1 = some (num entry.2)
  recent : ∀ name ∈ recentAges, notRecent metrics name = false
  atMost : ∀ entry ∈ upperLimits, exceeds metrics entry.1 entry.2 = false
  atLeast : ∀ entry ∈ lowerLimits,
    ∃ default, fallsShort metrics entry.1 default entry.2 = false
  counted :
    pyLt (getOr metrics "kairos_venue_poll_attempted_24h" (num 0))
      (pyAdd (getOr metrics "kairos_venue_poll_succeeded_24h" (num 0))
        (getOr metrics "kairos_venue_poll_failed_24h" (num 0))) = false
  reserved :
    pyLt
      (getOr metrics "kairos_evedex_local_mutation_reserve" (num (-1)))
      (getOr metrics "kairos_evedex_local_mutation_compensation_reserve"
        (num (-1))) = false
  observable :
    lastOf metrics "kairos_evedex_venue_rate_limit_observable" =
        some (num 0) ∨
      lastOf metrics "kairos_evedex_venue_rate_limit_observable" =
          some (num 1) ∧
        fallsShort metrics "kairos_evedex_venue_rate_limit_reserve" (-1)
          1 = false

theorem zeroRequired_subset : zeroRequired ⊆ requiredMetrics := by
  simp [zeroRequired, requiredMetrics]

theorem paperZeroRequired_subset :
    paperZeroRequired ⊆ paperRequiredMetrics := by
  simp [paperZeroRequired, paperRequiredMetrics]

theorem passed_of_healthErrors
    {metrics : Metrics} (healthy : healthErrors metrics true = []) :
    Passed metrics := by
  simp only [healthErrors, durableErrors, venueErrors, executionErrors,
    if_true, List.append_eq_nil_iff, errorIf_eq_nil_iff,
    missingErrors_eq_nil_iff, List.flatMap_eq_nil_iff,
    Bool.or_eq_false_iff, and_assoc] at healthy
  rcases healthy with
    ⟨required, persistence, redis, zero, outbox, paperRequired, paperZero,
      measurements, symbols, coverage, barAge, availability, expected,
      counted, venueAge, basisPoints, milliseconds, blocked, accountAge,
      spend, runtimeAge, authAge, authExpires, capacity, compensation,
      window, reserved, observable, reserve⟩
  have present : ∀ name ∈ allRequired, (lastOf metrics name).isSome := by
    rw [allRequired, List.forall_mem_append]
    exact ⟨required, paperRequired⟩
  have zeros :
      ∀ name ∈ zeroRequired ++ paperZeroRequired,
        lastOf metrics name = some (num 0) := by
    rw [List.forall_mem_append]
    constructor
    · refine lastOf_of_nonzeroErrors zero fun name member => ?_
      exact required name (zeroRequired_subset member)
    · refine lastOf_of_nonzeroErrors paperZero fun name member => ?_
      exact paperRequired name (paperZeroRequired_subset member)
  have held (name : String) (member : name ∈ paperRequiredMetrics) :=
    paperRequired name member
  refine
    { present := present
      exactly := ?_
      recent := ?_
      atMost := ?_
      atLeast := ?_
      counted := counted
      reserved := reserved
      observable := ?_ }
  · rw [exactValues, List.forall_mem_append, List.forall_mem_map]
    refine ⟨?_, zeros⟩
    simp only [List.forall_mem_cons, List.not_mem_nil, false_implies,
      implies_true, and_true]
    exact
      ⟨lastOf_of_differs persistence, lastOf_of_differs redis,
        lastOf_of_pyEqual (held _ (by simp [paperRequiredMetrics])) symbols,
        lastOf_of_pyEqual (held _ (by simp [paperRequiredMetrics])) expected,
        lastOf_of_pyEqual (held _ (by simp [paperRequiredMetrics])) blocked,
        lastOf_of_pyEqual (held _ (by simp [paperRequiredMetrics]))
          capacity⟩
  · simp only [recentAges, List.forall_mem_cons, List.not_mem_nil,
      false_implies, implies_true, and_true]
    exact ⟨accountAge, runtimeAge⟩
  · simp only [upperLimits, List.forall_mem_append, List.forall_mem_cons,
      List.forall_mem_map, List.not_mem_nil, false_implies, implies_true,
      and_true]
    exact ⟨⟨⟨outbox, barAge, venueAge, spend⟩, basisPoints⟩, milliseconds⟩
  · simp only [lowerLimits, List.forall_mem_cons, List.not_mem_nil,
      false_implies, implies_true, and_true]
    exact
      ⟨⟨_, measurements⟩, ⟨_, coverage⟩, ⟨_, availability⟩, ⟨_, authAge⟩,
        ⟨_, authExpires⟩, ⟨_, compensation⟩, ⟨_, window⟩⟩
  · rcases Option.isSome_iff_exists.1
      (held "kairos_evedex_venue_rate_limit_observable"
        (by simp [paperRequiredMetrics])) with ⟨found, read⟩
    simp only [getOr, read, Option.getD_some, Bool.not_eq_false',
      Bool.or_eq_true, pyEqual_num_iff] at observable reserve
    rcases observable with rfl | rfl
    · exact Or.inl read
    · refine Or.inr ⟨read, ?_⟩
      have one : pyEqual (num 1) (num 1) = true :=
        (pyEqual_num_iff _ _).2 rfl
      simpa [one] using reserve

/-- A guarded metric of a report that passes is a number. -/
theorem Passed.guarded_number
    {metrics : Metrics} (passed : Passed metrics) :
    ∀ name ∈ guarded, lastOf metrics name ≠ some none := by
  simp only [guarded, List.forall_mem_append, List.forall_mem_map,
    List.forall_mem_cons, List.not_mem_nil, false_implies, implies_true,
    and_true]
  refine ⟨⟨?_, ?_⟩, ?_⟩
  · intro entry member
    rw [passed.exactly entry member]
    simp [num]
  · exact fun name member => number_of_notRecent (passed.recent name member)
  · rcases passed.observable with found | ⟨found, _⟩ <;>
      simp [found, num]

/-- A required metric of an ordered report that passes is a number. -/
theorem Passed.known
    {metrics : Metrics} (passed : Passed metrics)
    (ordered : Ordered metrics) :
    ∀ name ∈ allRequired, ∃ value,
      lastOf metrics name = some (some value) := by
  intro name member
  rcases Option.isSome_iff_exists.1 (passed.present name member) with
    ⟨found, read⟩
  cases found with
  | some value => exact ⟨value, read⟩
  | none =>
      by_cases inside : name ∈ guarded
      · exact absurd read (passed.guarded_number name inside)
      · exact absurd read (ordered.numbers name member inside)

/-- A sum of numbers that are not opposite infinities is a number. -/
theorem exactSum_number
    {left right : WithBot (WithTop ℚ)}
    (lower : ¬ (left = ⊥ ∧ right = ⊤)) (upper : ¬ (left = ⊤ ∧ right = ⊥)) :
    exactSum (some left) (some right) = some (left + right) := by
  rw [exactSum, if_neg]
  tauto

theorem exactSum_opposite :
    exactSum (some ⊥) (some ⊤) = none ∧ exactSum (some ⊤) (some ⊥) = none := by
  simp [exactSum]

theorem pyLe_of_not_pyLt
    {left right : WithBot (WithTop ℚ)}
    (test : pyLt (some left) (some right) = false) :
    pyLe (some right) (some left) = true := by
  simpa [pyLt, pyLe] using test

/-- What a report that passes tells of the polls. -/
theorem Passed.polls
    {metrics : Metrics} (passed : Passed metrics)
    (ordered : Ordered metrics) :
    ∃ attempted total totalFloat,
      numberOf metrics "kairos_venue_poll_attempted_24h" = some attempted ∧
        lastOf metrics "kairos_venue_poll_attempted_24h" =
          some (some attempted) ∧
        exactSum (numberOf metrics "kairos_venue_poll_succeeded_24h")
          (numberOf metrics "kairos_venue_poll_failed_24h") = some total ∧
        rounded (some total) = some totalFloat ∧
        totalFloat ≤ attempted := by
  have known := passed.known ordered
  rcases known "kairos_venue_poll_attempted_24h"
    (by simp [allRequired, paperRequiredMetrics]) with ⟨attempted, readA⟩
  rcases known "kairos_venue_poll_succeeded_24h"
    (by simp [allRequired, paperRequiredMetrics]) with ⟨succeeded, readS⟩
  rcases known "kairos_venue_poll_failed_24h"
    (by simp [allRequired, paperRequiredMetrics]) with ⟨failed, readF⟩
  rcases ordered.finiteSum with ⟨lower, upper⟩
  simp only [readS, readF, Option.some.injEq] at lower upper
  rcases rounded_number (succeeded + failed) with ⟨totalFloat, round⟩
  have counted := passed.counted
  simp only [getOr, readA, readS, readF, Option.getD_some, pyAdd,
    exactSum_number lower upper, round, pyLt, decide_eq_false_iff_not,
    not_lt] at counted
  refine ⟨attempted, succeeded + failed, totalFloat, ?_, readA, ?_, round,
    counted⟩
  · rw [numberOf, readA]
    rfl
  · simp only [numberOf, readS, readF, Option.join_some]
    exact exactSum_number lower upper

/-- A report that passes keeps all limits, if it keeps that of the polls. -/
theorem withinLimits_of_passed
    {sum : Value → Value → Value} {metrics : Metrics}
    (passed : Passed metrics) (ordered : Ordered metrics)
    (counted :
      pyLe
        (sum (numberOf metrics "kairos_venue_poll_succeeded_24h")
          (numberOf metrics "kairos_venue_poll_failed_24h"))
        (numberOf metrics "kairos_venue_poll_attempted_24h") = true) :
    WithinLimits sum metrics := by
  have known := passed.known ordered
  refine
    { known := ?_
      exactly := ?_
      recent := ?_
      atMost := ?_
      atLeast := ?_
      counted := counted
      reserved := ?_
      observable := ?_ }
  · intro name member
    rcases known name member with ⟨value, read⟩
    rw [numberOf, read]
    rfl
  · exact fun entry member =>
      numberOf_of_lastOf (passed.exactly entry member)
  · exact fun name member => recent_of_notRecent (passed.recent name member)
  · exact fun entry member =>
      atMost_of_exceeds (passed.atMost entry member)
  · intro entry member
    rcases passed.atLeast entry member with ⟨default, test⟩
    exact atLeast_of_fallsShort test
  · rcases known "kairos_evedex_local_mutation_reserve"
      (by simp [allRequired, paperRequiredMetrics]) with ⟨reserve, readR⟩
    rcases known "kairos_evedex_local_mutation_compensation_reserve"
      (by simp [allRequired, paperRequiredMetrics]) with
      ⟨compensation, readC⟩
    have reserved := passed.reserved
    simp only [getOr, readR, readC, Option.getD_some] at reserved
    simp only [numberOf, readR, readC, Option.join_some]
    exact pyLe_of_not_pyLt reserved
  · rcases known "kairos_evedex_venue_rate_limit_reserve"
      (by simp [allRequired, paperRequiredMetrics]) with ⟨reserve, readR⟩
    rcases passed.observable with found | ⟨found, test⟩
    · exact Or.inl (numberOf_of_lastOf found)
    · refine Or.inr ⟨numberOf_of_lastOf found, ?_⟩
      have enough := atLeast_of_fallsShort test
      have read :
          numberOf metrics "kairos_evedex_venue_rate_limit_reserve" =
            some reserve := by
        rw [numberOf, readR]
        rfl
      rw [read]
      exact enough reserve read

theorem ordered_of_withinLimits
    {sum : Value → Value → Value} {metrics : Metrics}
    (opposite :
      sum (some ⊥) (some ⊤) = none ∧ sum (some ⊤) (some ⊥) = none)
    (within : WithinLimits sum metrics) : Ordered metrics := by
  constructor
  · intro name member _ missing
    have known := within.known name member
    rw [numberOf, missing] at known
    cases known
  · have counted := within.counted
    refine ⟨?_, ?_⟩
    · rintro ⟨succeeded, failed⟩
      simp [numberOf, succeeded, failed, opposite, pyLe] at counted
    · rintro ⟨succeeded, failed⟩
      simp [numberOf, succeeded, failed, opposite, pyLe] at counted

/-- A value of a metrics text is a float. -/
theorem exists_float_of_lastOf
    {float : List Char → Option PyFloat} {payload : List Char}
    {name : String} {value : Value}
    (found : lastOf (parseMetrics float payload) name = some value) :
    ∃ read : PyFloat, value = read.comparable := by
  rcases List.mem_filterMap.1 (mem_of_lastOf found) with ⟨raw, _, assigned⟩
  unfold metricOf at assigned
  dsimp only at assigned
  split at assigned
  · cases assigned
  · split at assigned
    · split at assigned
      · cases assigned
      · rcases Option.map_eq_some_iff.1 assigned with ⟨read, _, same⟩
        exact ⟨read, (Prod.ext_iff.1 same).2.symm⟩
    · cases assigned

/--
A metrics text without health errors keeps every limit exactly when no metric
whose tests miss it is no number, the counts of the polls have a sum, and this
sum is not rounded down to the polls that were attempted.  The rounded sum
keeps the limit of the polls in any case.
-/
theorem healthErrors_withinLimits_iff
    {float : List Char → Option PyFloat} {payload : List Char}
    (healthy : healthErrors (parseMetrics float payload) true = []) :
    (WithinLimits exactSum (parseMetrics float payload) ↔
        Ordered (parseMetrics float payload) ∧
          SumKept (parseMetrics float payload)) ∧
      (WithinLimits pyAdd (parseMetrics float payload) ↔
        Ordered (parseMetrics float payload)) := by
  have passed := passed_of_healthErrors healthy
  constructor
  · constructor
    · intro within
      have ordered := ordered_of_withinLimits exactSum_opposite within
      refine ⟨ordered, fun _ => ?_⟩
      rcases passed.polls ordered with
        ⟨attempted, total, _, readA, _, exact_sum, _⟩
      have counted := within.counted
      rw [readA, exact_sum] at counted ⊢
      simpa [pyLe, pyLt] using counted
    · rintro ⟨ordered, kept⟩
      apply withinLimits_of_passed passed ordered
      rcases passed.polls ordered with
        ⟨attempted, total, totalFloat, readA, lastA, exact_sum, round, le⟩
      rcases exists_float_of_lastOf lastA with ⟨float, isFloat⟩
      unfold SumKept at kept
      simp only [pyAdd, readA, exact_sum, round] at kept
      rw [readA, exact_sum]
      by_contra exceeds
      have above : attempted < total := by
        simpa [pyLe] using exceeds
      -- the attempted polls are a float, so the sum is not rounded below them
      have least := @le_rounded float total ?_
      · rw [round, ← isFloat] at least
        have same : totalFloat = attempted :=
          le_antisymm le (by simpa [pyLe] using least)
        have notBelow := kept (congrArg some same)
        simp [pyLt, above] at notBelow
      · rw [← isFloat]
        simpa [pyLe] using above.le
  · constructor
    · intro within
      refine ordered_of_withinLimits ?_ within
      simp only [pyAdd, exactSum_opposite]
      exact ⟨rfl, rfl⟩
    · intro ordered
      apply withinLimits_of_passed passed ordered
      rcases passed.polls ordered with
        ⟨attempted, total, totalFloat, readA, _, exact_sum, round, le⟩
      rw [pyAdd, readA, exact_sum, round]
      simpa [pyLe] using le

/-! ## A metrics text that is read back -/

/-- A metrics text: a name and a value on every line. -/
def metricsText (entries : List (String × String)) : List Char :=
  entries.flatMap fun entry =>
    entry.1.toList ++ ' ' :: entry.2.toList ++ ['\n']

/-- A word that a line of a metrics text keeps as it is. -/
def plainWord (word : List Char) : Bool :=
  !word.isEmpty && word.all fun character =>
    !isSpace character && character != '#' && character != '\x7b'

theorem plainWord_ofList {word : List Char} (plain : plainWord word = true) :
    plainWord (String.ofList word).toList = true := by
  rwa [String.toList_ofList]

theorem not_isLineBreak {character : Char}
    (inside : isSpace character = false) : isLineBreak character = false := by
  simp only [isSpace, isLineBreak] at *
  simp only [Bool.or_eq_false_iff, Bool.and_eq_false_imp,
    decide_eq_true_eq, decide_eq_false_iff_not] at *
  omega

/-- A line ends at its line feed. -/
theorem splitLinesFrom_append {text : List Char} (rest : List Char)
    (inside : ∀ character ∈ text, isLineBreak character = false) :
    ∀ line, splitLinesFrom line (text ++ '\n' :: rest) =
      (line.reverse ++ text) :: splitLines rest := by
  induction text with
  | nil =>
      intro line
      rw [List.nil_append, splitLinesFrom]
      · simp [isLineBreak, splitLines]
      · simp
  | cons head tail induction =>
      intro line
      have first := inside head List.mem_cons_self
      rw [List.cons_append, splitLinesFrom]
      · rw [first, if_neg Bool.false_ne_true,
          induction fun character member =>
            inside character (List.mem_cons_of_mem _ member)]
        simp
      · rintro rest' rfl
        cases first

theorem splitLines_append {text : List Char} (rest : List Char)
    (inside : ∀ character ∈ text, isLineBreak character = false) :
    splitLines (text ++ '\n' :: rest) = text :: splitLines rest := by
  rw [splitLines, splitLinesFrom_append rest inside]
  rfl

theorem plainWord_iff (word : List Char) :
    plainWord word = true ↔
      word ≠ [] ∧ ∀ character ∈ word,
        isSpace character = false ∧ character ≠ '#' ∧ character ≠ '\x7b' := by
  simp [plainWord, and_assoc]

/-- Nothing is stripped before a word. -/
theorem dropWhile_word {word : List Char} (plain : plainWord word = true)
    (rest : List Char) :
    (word ++ rest).dropWhile isSpace = word ++ rest := by
  rcases (plainWord_iff word).1 plain with ⟨nonempty, inside⟩
  rcases List.exists_cons_of_ne_nil nonempty with ⟨first, others, rfl⟩
  rw [List.cons_append, List.dropWhile_cons_of_neg]
  rw [(inside first List.mem_cons_self).1]
  exact Bool.false_ne_true

theorem plainWord_reverse (word : List Char) :
    plainWord word.reverse = plainWord word := by
  simp [plainWord]

theorem strip_words {name number : List Char}
    (named : plainWord name = true) (numbered : plainWord number = true) :
    strip (name ++ ' ' :: number) = name ++ ' ' :: number := by
  rw [← plainWord_reverse] at numbered
  rw [strip, dropWhile_word named, List.reverse_append, List.reverse_cons,
    List.append_assoc, dropWhile_word numbered]
  simp

theorem splitWords_words {name number : List Char}
    (named : plainWord name = true) (numbered : plainWord number = true) :
    splitWords (name ++ ' ' :: number) = [name, number] := by
  rcases (plainWord_iff name).1 named with ⟨hasName, inName⟩
  rcases (plainWord_iff number).1 numbered with ⟨hasNumber, inNumber⟩
  rw [splitWords,
    List.splitOnP_append_cons_of_forall_mem
      (fun character member => (inName character member).1) ' ' rfl,
    List.splitOnP_eq_singleton fun character member =>
      (inNumber character member).1]
  simp [hasName, hasNumber]

/-- A line is read back as its name and its value. -/
theorem metricOf_words (float : List Char → Option PyFloat)
    {name number : List Char} (named : plainWord name = true)
    (numbered : plainWord number = true) :
    metricOf float (name ++ ' ' :: number) =
      (float number).map fun value =>
        (String.ofList name, value.comparable) := by
  rcases (plainWord_iff name).1 named with ⟨hasName, inName⟩
  have unmarked : (name ++ ' ' :: number).head? ≠ some '#' := by
    rcases List.exists_cons_of_ne_nil hasName with ⟨first, others, rfl⟩
    intro marked
    exact (inName first List.mem_cons_self).2.1 (by simpa using marked)
  have unlabelled : '\x7b' ∉ name := fun member =>
    (inName _ member).2.2 rfl
  simp only [metricOf, strip_words named numbered,
    splitWords_words named numbered]
  rw [if_neg (not_or.2 ⟨by simp, unmarked⟩), if_neg unlabelled]

/-- `float(text)` as a value. -/
def valueOf (float : List Char → Option PyFloat) (text : String) :
    Option Value :=
  (float text.toList).map PyFloat.comparable

/-- A metrics text is read back as its entries. -/
theorem parseMetrics_metricsText (float : List Char → Option PyFloat)
    {entries : List (String × String)}
    (plain : ∀ entry ∈ entries,
      plainWord entry.1.toList = true ∧ plainWord entry.2.toList = true) :
    parseMetrics float (metricsText entries) =
      entries.filterMap fun entry =>
        (valueOf float entry.2).map fun value => (entry.1, value) := by
  induction entries with
  | nil => rfl
  | cons head rest induction =>
      rcases plain head List.mem_cons_self with ⟨named, numbered⟩
      have inLine : ∀ character ∈
          head.1.toList ++ ' ' :: head.2.toList,
          isLineBreak character = false := by
        intro character member
        rcases List.mem_append.1 member with member | member
        · exact not_isLineBreak
            (((plainWord_iff _).1 named).2 character member).1
        · rcases List.mem_cons.1 member with rfl | member
          · rfl
          · exact not_isLineBreak
              (((plainWord_iff _).1 numbered).2 character member).1
      have text :
          metricsText (head :: rest) =
            (head.1.toList ++ ' ' :: head.2.toList) ++
              '\n' :: metricsText rest := by
        simp [metricsText]
      rw [parseMetrics, text, splitLines_append _ inLine,
        List.filterMap_cons, metricOf_words float named numbered,
        List.filterMap_cons, String.ofList_toList, valueOf, Option.map_map]
      have others := induction fun entry member =>
        plain entry (List.mem_cons_of_mem _ member)
      rw [parseMetrics] at others
      rw [others]
      rfl

/-- A healthy report with the given spread of the venue. -/
def healthyReport (spread : String) : List Char :=
  metricsText
    ([("kairos_persistence_up", "1"), ("kairos_redis_up", "1"),
      ("kairos_closed_bar_symbols_24h", "5"),
      ("kairos_closed_bar_minimum_coverage_ratio_24h", "1"),
      ("kairos_venue_measurements_24h", "14400"),
      ("kairos_venue_availability_ratio_24h", "1.0"),
      ("kairos_venue_poll_expected_24h", "14400"),
      ("kairos_venue_poll_attempted_24h", "14400"),
      ("kairos_venue_poll_succeeded_24h", "14400"),
      ("kairos_venue_p95_spread_bps", spread),
      ("kairos_evedex_auth_expires_in_seconds", "3600"),
      ("kairos_evedex_local_mutation_reserve", "30"),
      ("kairos_evedex_local_mutation_capacity", "30"),
      ("kairos_evedex_local_mutation_compensation_reserve", "4"),
      ("kairos_evedex_local_mutation_window_seconds", "60")] ++
      (["kairos_outbox_pending", "kairos_outbox_dead_lettered_total",
        "kairos_inbox_failed",
        "kairos_inbox_processing_oldest_age_seconds",
        "kairos_inbox_processing_expired",
        "kairos_execution_effects_prepared",
        "kairos_execution_effects_failed",
        "kairos_outbox_oldest_age_seconds", "kairos_closed_bar_gaps_24h",
        "kairos_closed_bar_latest_age_seconds",
        "kairos_venue_poll_failed_24h", "kairos_venue_blocked_24h",
        "kairos_venue_p95_abs_basis_bps",
        "kairos_venue_p95_slippage_bps", "kairos_venue_max_book_age_ms",
        "kairos_venue_max_timestamp_skew_ms",
        "kairos_venue_p95_latency_ms", "kairos_venue_latest_age_seconds",
        "kairos_paper_active_trades", "kairos_paper_unprotected_trades",
        "kairos_paper_recovery_blocked",
        "kairos_execution_p95_shortfall_bps",
        "kairos_paper_account_latest_age_seconds",
        "kairos_api_spend_month_usd",
        "kairos_execution_runtime_health_age_seconds",
        "kairos_evedex_auth_age_seconds",
        "kairos_evedex_venue_rate_limit_observable",
        "kairos_evedex_venue_rate_limit_reserve"].map
          fun name => (name, "0")))

/-- The entries of a healthy report with the given spread. -/
def healthyMetrics (spread : Value) : Metrics :=
  [("kairos_persistence_up", num 1), ("kairos_redis_up", num 1),
    ("kairos_closed_bar_symbols_24h", num 5),
    ("kairos_closed_bar_minimum_coverage_ratio_24h", num 1),
    ("kairos_venue_measurements_24h", num 14400),
    ("kairos_venue_availability_ratio_24h", num 1),
    ("kairos_venue_poll_expected_24h", num 14400),
    ("kairos_venue_poll_attempted_24h", num 14400),
    ("kairos_venue_poll_succeeded_24h", num 14400),
    ("kairos_venue_p95_spread_bps", spread),
    ("kairos_evedex_auth_expires_in_seconds", num 3600),
    ("kairos_evedex_local_mutation_reserve", num 30),
    ("kairos_evedex_local_mutation_capacity", num 30),
    ("kairos_evedex_local_mutation_compensation_reserve", num 4),
    ("kairos_evedex_local_mutation_window_seconds", num 60)] ++
    ["kairos_outbox_pending", "kairos_outbox_dead_lettered_total",
      "kairos_inbox_failed",
      "kairos_inbox_processing_oldest_age_seconds",
      "kairos_inbox_processing_expired",
      "kairos_execution_effects_prepared",
      "kairos_execution_effects_failed",
      "kairos_outbox_oldest_age_seconds", "kairos_closed_bar_gaps_24h",
      "kairos_closed_bar_latest_age_seconds",
      "kairos_venue_poll_failed_24h", "kairos_venue_blocked_24h",
      "kairos_venue_p95_abs_basis_bps",
      "kairos_venue_p95_slippage_bps", "kairos_venue_max_book_age_ms",
      "kairos_venue_max_timestamp_skew_ms",
      "kairos_venue_p95_latency_ms", "kairos_venue_latest_age_seconds",
      "kairos_paper_active_trades", "kairos_paper_unprotected_trades",
      "kairos_paper_recovery_blocked",
      "kairos_execution_p95_shortfall_bps",
      "kairos_paper_account_latest_age_seconds",
      "kairos_api_spend_month_usd",
      "kairos_execution_runtime_health_age_seconds",
      "kairos_evedex_auth_age_seconds",
      "kairos_evedex_venue_rate_limit_observable",
      "kairos_evedex_venue_rate_limit_reserve"].map
        fun name => (name, num 0)

theorem valueOf_values :
    valueOf pyFloat "0" = some (num 0) ∧
      valueOf pyFloat "1" = some (num 1) ∧
      valueOf pyFloat "1.0" = some (num 1) ∧
      valueOf pyFloat "4" = some (num 4) ∧
      valueOf pyFloat "5" = some (num 5) ∧
      valueOf pyFloat "30" = some (num 30) ∧
      valueOf pyFloat "60" = some (num 60) ∧
      valueOf pyFloat "3600" = some (num 3600) ∧
      valueOf pyFloat "14400" = some (num 14400) := by
  and_intros <;> decide +kernel

theorem parseMetrics_healthyReport {spread : String} {value : Value}
    (plain : plainWord spread.toList = true)
    (read : valueOf pyFloat spread = some value) :
    parseMetrics pyFloat (healthyReport spread) = healthyMetrics value := by
  rw [healthyReport, parseMetrics_metricsText]
  · simp only [List.map_cons, List.map_nil, List.cons_append,
      List.nil_append, List.filterMap_cons, List.filterMap_nil,
      valueOf_values, read, Option.map_some, healthyMetrics]
  · simp only [List.map_cons, List.map_nil, List.cons_append,
      List.nil_append, List.forall_mem_cons, plain, and_true]
    refine ⟨?_, ?_⟩
    and_intros
    all_goals try exact plainWord_ofList rfl
    intro entry listed
    cases listed

theorem lastOf_healthyMetrics (spread : Value) :
    ∀ entry ∈ healthyMetrics spread,
      lastOf (healthyMetrics spread) entry.1 = some entry.2 := by
  have distinct : ((healthyMetrics spread).map Prod.fst).Nodup := by
    simp only [healthyMetrics, List.map_cons, List.map_nil,
      List.cons_append, List.nil_append, List.nodup_cons, List.mem_cons,
      String.reduceEq, or_self, List.not_mem_nil, not_false_eq_true,
      and_self, List.nodup_nil]
  exact fun entry member => lastOf_of_mem distinct member

theorem pyAdd_polls : pyAdd (num 14400) (num 0) = num 14400 := by
  decide +kernel

/-- Only the spread of the report decides on its health. -/
theorem healthErrors_of_values {metrics : Metrics} {spread : Value}
    (values : ∀ entry ∈ healthyMetrics spread,
      lastOf metrics entry.1 = some entry.2)
    (test : pyLt (num 25) spread = false) :
    healthErrors metrics true = [] := by
  simp only [healthyMetrics, List.map_cons, List.map_nil, List.cons_append,
    List.nil_append, List.forall_mem_cons] at values
  simp only [healthErrors, durableErrors, venueErrors, executionErrors,
    missingErrors, nonzeroErrors, requiredMetrics, zeroRequired,
    paperRequiredMetrics, paperZeroRequired, basisPointMetrics,
    millisecondMaxima, List.flatMap_cons, List.flatMap_nil, differs, exceeds,
    fallsShort, notRecent, getOr, values, test, Option.getD_some,
    Option.isNone_some, Option.any_some, pyLt_num, pyLe_num, pyEqual_num,
    pyAdd_polls]
  norm_num [errorIf, maxOutboxAgeSeconds, minimumCoverage,
    minimumVenueAvailability]

theorem healthErrors_spread_nan :
    healthErrors (parseMetrics pyFloat (healthyReport "NaN")) true = [] ∧
      ∀ sum,
        ¬ WithinLimits sum (parseMetrics pyFloat (healthyReport "NaN")) := by
  rw [parseMetrics_healthyReport (by decide)
    (show valueOf pyFloat "NaN" = some none by decide)]
  have values := lastOf_healthyMetrics none
  refine ⟨healthErrors_of_values values rfl, fun sum within => ?_⟩
  have known :=
    within.known "kairos_venue_p95_spread_bps"
      (by simp [allRequired, paperRequiredMetrics])
  have spread := values ("kairos_venue_p95_spread_bps", none)
    (by simp [healthyMetrics])
  rw [numberOf, spread] at known
  cases known

/-- A healthy report whose values are numbers keeps every limit. -/
theorem healthErrors_withinLimits_iff_spread :
    healthErrors (parseMetrics pyFloat (healthyReport "3.5")) true = [] ∧
      (WithinLimits exactSum
          (parseMetrics pyFloat (healthyReport "3.5")) ↔
        Ordered (parseMetrics pyFloat (healthyReport "3.5")) ∧
          SumKept (parseMetrics pyFloat (healthyReport "3.5"))) := by
  have healthy :
      healthErrors (parseMetrics pyFloat (healthyReport "3.5")) true = [] := by
    rw [parseMetrics_healthyReport (by decide)
      (show valueOf pyFloat "3.5" = some (num (7 / 2)) by decide +kernel)]
    exact healthErrors_of_values (lastOf_healthyMetrics _) (by decide +kernel)
  exact ⟨healthy, (healthErrors_withinLimits_iff healthy).1⟩

end KairosDeploy.Soak.Health
