import KairosDeploy.Soak.Health

/-!
# The soak loop

`run_soak` samples a runtime until the clock has passed the duration and at
least one sample was taken.  A fetch that fails counts as a transport error
and not as a sample, so the clock alone never ends the loop: it returns its
summary exactly when some fetch succeeds before anything is raised.
-/

namespace KairosDeploy.Soak.RunSoak

open KairosDeploy.Library.PyNumber
open KairosDeploy.Soak.Health

/-! ## The world of a run -/

/-- What a fetch does. -/
inductive Fetch
  | metrics (metrics : Metrics)
  /-- `OSError`, `SubprocessError` or `TimeoutError`. -/
  | transportError
  /-- Any other exception. -/
  | raised (error : String)

/-- The restart command: absent, or whether it exits with zero. -/
inductive RestartCommand
  | absent
  | succeeds
  | fails
deriving DecidableEq, Repr

/-- Why a run raises. -/
inductive SoakError
  | valueError (message : String)
  | overflowError
  | restartFailed
  | fetchRaised (error : String)
deriving DecidableEq, Repr

/--
The arguments of `run_soak` and what happens around it.  `clock`, `elapsed`
and `sampled` are the readings at the head of an iteration, inside of it and
after its fetch, relative to the start; `format4` is the format `.4f`.
-/
structure SoakRun where
  metricsUrl : Bool
  metricsCommand : Bool
  duration : Value
  interval : Value
  restartAt : Option Value
  restartCommand : RestartCommand
  paper : Bool
  minimumAvailability : Value
  clock : Nat → ℚ
  elapsed : Nat → ℚ
  sampled : Nat → ℚ
  fetch : Nat → Fetch
  format4 : Value → String

/-! ## One iteration -/

/-- `PAPER_WINDOW_READINESS_ERRORS`. -/
def paperWindowReadinessErrors : List String :=
  ["venue_measurements_missing", "closed_bar_symbol_coverage_incomplete",
    "closed_bar_coverage_below_0.999", "venue_availability_below_0.99",
    "venue_poll_schedule_incomplete"]

/-- `IRREVERSIBLE_QUALIFICATION_ERRORS`. -/
def irreversibleQualificationErrors : List String :=
  ["nonzero:kairos_outbox_dead_lettered_total",
    "nonzero:kairos_inbox_failed",
    "nonzero:kairos_execution_effects_failed",
    "nonzero:kairos_closed_bar_gaps_24h",
    "nonzero:kairos_paper_unprotected_trades",
    "venue_poll_fact_counts_inconsistent",
    "api_qualification_budget_exceeded",
    "evedex_mutation_budget_unsafe"]

/-- `_is_window_readiness_error`. -/
def isWindowReadinessError (error : String) : Bool :=
  paperWindowReadinessErrors.contains error ||
    "threshold:".toList.isPrefixOf error.toList

/-- `_sample_availability_errors`. -/
def sampleAvailabilityErrors (errors : List String) (paper : Bool) :
    List String :=
  if paper then
    errors.filter fun error => !isWindowReadinessError error
  else
    errors

/-- The local state of `run_soak`. -/
structure Progress where
  samples : Nat
  healthy : Nat
  transportErrors : Nat
  restarted : Bool
  recovered : Bool
  durableFailures : List String
  lastErrors : List String
deriving DecidableEq, Repr

/-- The state before the loop. -/
def Progress.start : Progress :=
  ⟨0, 0, 0, false, false, [], ["no_samples"]⟩

/-- The restart, once its time has come. -/
def restart (soak : SoakRun) (index : Nat) (progress : Progress) :
    Except SoakError Progress :=
  match soak.restartAt with
  | none => .ok progress
  | some restartAt =>
      if progress.restarted = false ∧
          pyLe restartAt (num (soak.elapsed index)) = true then
        match soak.restartCommand with
        | .absent =>
            .error
              (.valueError
                "restart command is required when restart_at_s is set")
        | .fails => .error .restartFailed
        | .succeeds => .ok { progress with restarted := true }
      else
        .ok progress

/-- A sample: it is counted before its health is known. -/
def sample (soak : SoakRun) (metrics : Metrics) (progress : Progress) :
    Progress :=
  let errors := healthErrors metrics soak.paper
  let counted :=
    { progress with
      samples := progress.samples + 1
      lastErrors := errors
      durableFailures :=
        progress.durableFailures ++
          errors.filter irreversibleQualificationErrors.contains }
  if sampleAvailabilityErrors errors soak.paper = [] then
    { counted with
      healthy := progress.healthy + 1
      recovered := progress.recovered || progress.restarted }
  else
    counted

/-- A fetch that fails is counted apart. -/
def transportFailed (progress : Progress) : Progress :=
  { progress with
    transportErrors := progress.transportErrors + 1
    lastErrors := ["metrics_unavailable"] }

/-- The metrics of an iteration, counted. -/
def attempt (soak : SoakRun) (index : Nat) (progress : Progress) :
    Except SoakError Progress :=
  match soak.fetch index with
  | .metrics metrics => .ok (sample soak metrics progress)
  | .transportError => .ok (transportFailed progress)
  | .raised error => .error (.fetchRaised error)

/-- Seconds in nanoseconds. -/
def nanoseconds : Value → Value
  | some (some (some seconds)) => rounded (num (seconds * 10 ^ 9))
  | extreme => extreme

/-- What `time.sleep(interval)` raises; it counts 64 bits of nanoseconds. -/
def sleepError (interval : Value) : Option SoakError :=
  if interval = none then
    some (.valueError "Invalid value NaN (not a number)")
  else if !(pyLe (num (-2 ^ 63)) (nanoseconds interval) &&
      pyLt (nanoseconds interval) (num (2 ^ 63))) then
    some .overflowError
  else if pyLt interval (num 0) then
    some (.valueError "sleep length must be non-negative")
  else
    none

example :
    sleepError (num (1 / 10)) = none ∧
      sleepError (num (10 ^ 10)) = some .overflowError := by
  decide +kernel

/-- The sleep after a fetch, while the duration is not over. -/
def sleep (soak : SoakRun) (index : Nat) (progress : Progress) :
    Except SoakError Progress :=
  if pyLt (num (soak.sampled index)) soak.duration then
    match sleepError soak.interval with
    | some error => .error error
    | none => .ok progress
  else
    .ok progress

/-- One iteration of the loop.  What it sleeps shows in the clock. -/
def iteration (soak : SoakRun) (index : Nat) (progress : Progress) :
    Except SoakError Progress := do
  let restarted ← restart soak index progress
  let counted ← attempt soak index restarted
  sleep soak index counted

/-! ## The loop and its summary -/

/-- `SoakSummary`. -/
structure SoakSummary where
  samples : Nat
  healthySamples : Nat
  transportErrors : Nat
  restartExecuted : Bool
  recoveredAfterRestart : Bool
  minimumAvailability : Value
  measuredAvailability : Value
  paperGate : Bool
  terminalErrors : List String

/-- `healthy / total_attempts if total_attempts else 0.0`. -/
def measuredAvailability (progress : Progress) : Value :=
  let attempts := progress.samples + progress.transportErrors
  if attempts = 0 then
    num 0
  else
    (PyFloat.ofRatio progress.healthy attempts).bind PyFloat.comparable

/-- What `run_soak` does after the loop. -/
def summarize (soak : SoakRun) (progress : Progress) : SoakSummary :=
  let measured := measuredAvailability progress
  let availabilityFailures :=
    if pyLt measured soak.minimumAvailability then
      ["availability_below_" ++ soak.format4 soak.minimumAvailability]
    else
      []
  { samples := progress.samples
    healthySamples := progress.healthy
    transportErrors := progress.transportErrors
    restartExecuted := progress.restarted
    recoveredAfterRestart :=
      if progress.restarted then progress.recovered else true
    minimumAvailability := soak.minimumAvailability
    measuredAvailability := measured
    paperGate := soak.paper
    terminalErrors :=
      (progress.durableFailures ++ availabilityFailures ++
        progress.lastErrors).dedup.mergeSort }

/-- How a run ends within a number of iterations. -/
inductive Ending
  | returned (summary : SoakSummary)
  | raised (error : SoakError)
  | unfinished

/-- The loop from an iteration on. -/
def loop (soak : SoakRun) : Nat → Nat → Progress → Ending
  | 0, _, _ => .unfinished
  | fuel + 1, index, progress =>
      if pyLt (num (soak.clock index)) soak.duration = true ∨
          progress.samples = 0 then
        match iteration soak index progress with
        | .error error => .raised error
        | .ok later => loop soak fuel (index + 1) later
      else
        .returned (summarize soak progress)

/-- The arguments that `run_soak` does not refuse. -/
def Admitted (soak : SoakRun) : Prop :=
  pyLt (num 0) soak.minimumAvailability = true ∧
    pyLe soak.minimumAvailability (num 1) = true ∧
    soak.metricsUrl ≠ soak.metricsCommand

/-- `run_soak`, cut off after a number of iterations. -/
def runSoak (soak : SoakRun) (fuel : Nat) : Ending :=
  if !(pyLt (num 0) soak.minimumAvailability &&
      pyLe soak.minimumAvailability (num 1)) then
    .raised (.valueError "minimum_availability must be in (0, 1]")
  else if soak.metricsUrl = soak.metricsCommand then
    .raised
      (.valueError "exactly one metrics transport must be configured")
  else
    loop soak fuel 0 .start

/-! ## What one iteration does -/

/-- A reading of the clock that is not before the end of the duration. -/
def Over (soak : SoakRun) (reading : ℚ) : Prop :=
  pyLt (num reading) soak.duration = false

/-- A fetch that is counted as a sample. -/
def Succeeds (soak : SoakRun) (index : Nat) : Prop :=
  ∃ metrics, soak.fetch index = .metrics metrics

/-- The restart is due in an iteration and cannot be done. -/
def RestartRaises (soak : SoakRun) (index : Nat) : Prop :=
  ∃ restartAt, soak.restartAt = some restartAt ∧
    pyLe restartAt (num (soak.elapsed index)) = true ∧
    soak.restartCommand ≠ .succeeds

/-- An iteration that raises if it is reached. -/
def Raises (soak : SoakRun) (index : Nat) : Prop :=
  RestartRaises soak index ∨
    (∃ error, soak.fetch index = .raised error) ∨
    pyLt (num (soak.sampled index)) soak.duration = true ∧
      (sleepError soak.interval).isSome

/-- The restart touches no count; it fails only where it can. -/
theorem restart_cases
    (soak : SoakRun) (index : Nat) (progress : Progress)
    (pending : soak.restartCommand ≠ .succeeds →
      progress.restarted = false) :
    (∃ later, restart soak index progress = .ok later ∧
        later.samples = progress.samples ∧
        (soak.restartCommand ≠ .succeeds → later.restarted = false) ∧
        ¬ RestartRaises soak index) ∨
      (∃ error, restart soak index progress = .error error) ∧
        RestartRaises soak index := by
  unfold restart RestartRaises
  cases at_time : soak.restartAt with
  | none => exact Or.inl ⟨progress, rfl, rfl, pending, by simp⟩
  | some restartAt =>
      by_cases due : pyLe restartAt (num (soak.elapsed index)) = true
      · cases command : soak.restartCommand with
        | succeeds =>
            left
            by_cases first : progress.restarted = false
            · exact
                ⟨{ progress with restarted := true }, by simp [first, due],
                  rfl, by simp, by simp⟩
            · exact ⟨progress, by simp [first], rfl, by simp, by simp⟩
        | absent | fails =>
            right
            have first : progress.restarted = false :=
              pending (by simp [command])
            exact ⟨by simp [first, due], restartAt, rfl, due, by simp⟩
      · exact
          Or.inl
            ⟨progress, by simp [due], rfl, pending, by simp [due]⟩

/-- An attempt counts a sample or a transport error. -/
theorem attempt_cases
    (soak : SoakRun) (index : Nat) (progress : Progress) :
    (∃ later, attempt soak index progress = .ok later ∧
        later.restarted = progress.restarted ∧
        (later.samples = 0 ↔
          progress.samples = 0 ∧ ¬ Succeeds soak index) ∧
        ¬ ∃ error, soak.fetch index = .raised error) ∨
      (∃ error, attempt soak index progress = .error error) ∧
        ∃ error, soak.fetch index = .raised error := by
  unfold attempt Succeeds
  cases fetched : soak.fetch index with
  | metrics metrics =>
      left
      refine ⟨sample soak metrics progress, rfl, ?_, ?_, by simp⟩
      · unfold sample
        dsimp only
        split <;> rfl
      · have counted :
            (sample soak metrics progress).samples =
              progress.samples + 1 := by
          unfold sample
          dsimp only
          split <;> rfl
        simp [counted]
  | transportError =>
      left
      exact
        ⟨transportFailed progress, rfl, rfl, by simp [transportFailed],
          by simp⟩
  | raised error => exact Or.inr ⟨⟨_, rfl⟩, error, rfl⟩

/-- A sleep changes nothing. -/
theorem sleep_cases
    (soak : SoakRun) (index : Nat) (progress : Progress) :
    sleep soak index progress = .ok progress ∧
        ¬ (pyLt (num (soak.sampled index)) soak.duration = true ∧
          (sleepError soak.interval).isSome) ∨
      (∃ error, sleep soak index progress = .error error) ∧
        pyLt (num (soak.sampled index)) soak.duration = true ∧
          (sleepError soak.interval).isSome := by
  unfold sleep
  by_cases early : pyLt (num (soak.sampled index)) soak.duration = true
  · cases raised : sleepError soak.interval with
    | none => exact Or.inl ⟨by simp, by simp⟩
    | some error => exact Or.inr ⟨⟨error, by simp [early]⟩, early, rfl⟩
  · exact Or.inl ⟨by simp [early], by simp [early]⟩

theorem iteration_cases
    (soak : SoakRun) (index : Nat) (progress : Progress)
    (pending : soak.restartCommand ≠ .succeeds →
      progress.restarted = false) :
    (¬ Raises soak index ∧ ∃ later,
        iteration soak index progress = .ok later ∧
        (soak.restartCommand ≠ .succeeds → later.restarted = false) ∧
        (later.samples = 0 ↔
          progress.samples = 0 ∧ ¬ Succeeds soak index)) ∨
      Raises soak index ∧
        ∃ error, iteration soak index progress = .error error := by
  unfold iteration Raises
  rcases restart_cases soak index progress pending with
    ⟨restarted, done, same, kept, calm⟩ | ⟨⟨error, failed⟩, due⟩
  · rw [done]
    rcases attempt_cases soak index restarted with
      ⟨counted, attempted, flag, samples, fetched⟩ | ⟨⟨error, failed⟩, raised⟩
    · rcases sleep_cases soak index counted with
        ⟨slept, quiet⟩ | ⟨⟨error, failed⟩, raised⟩
      · left
        refine ⟨by tauto, counted, ?_, ?_, ?_⟩
        · simp only [bind, Except.bind, attempted, slept]
        · intro command
          rw [flag]
          exact kept command
        · rw [samples, same]
      · exact
          Or.inr
            ⟨Or.inr (Or.inr raised), error, by
              simp only [bind, Except.bind, attempted, failed]⟩
    · exact
        Or.inr
          ⟨Or.inr (Or.inl raised), error, by
            simp only [bind, Except.bind, failed]⟩
  · rw [failed]
    exact Or.inr ⟨Or.inl due, error, rfl⟩

/-! ## When the loop returns -/

/-- The loop can leave from an iteration on without anything being raised. -/
def CanLeave (soak : SoakRun) (index : Nat) (progress : Progress) : Prop :=
  ∃ last, index ≤ last ∧ Over soak (soak.clock last) ∧
    (progress.samples ≠ 0 ∨
      ∃ sampled, index ≤ sampled ∧ sampled < last ∧
        Succeeds soak sampled) ∧
    ∀ earlier, index ≤ earlier → earlier < last → ¬ Raises soak earlier

theorem canLeave_of_returned
    {soak : SoakRun} {fuel index : Nat} {progress : Progress}
    {summary : SoakSummary}
    (pending : soak.restartCommand ≠ .succeeds →
      progress.restarted = false)
    (returned : loop soak fuel index progress = .returned summary) :
    CanLeave soak index progress := by
  induction fuel generalizing index progress with
  | zero => cases returned
  | succ fuel induction =>
      rw [loop] at returned
      split at returned
      · rcases iteration_cases soak index progress pending with
          ⟨calm, later, done, kept, counted⟩ | ⟨_, error, failed⟩
        · rw [done] at returned
          rcases induction kept returned with
            ⟨last, after, passed, sampled, quiet⟩
          refine ⟨last, by omega, passed, ?_, ?_⟩
          · rcases sampled with some_sample | ⟨sampled, from_, before, ok⟩
            · rw [ne_eq, counted, not_and_or, not_not] at some_sample
              rcases some_sample with before | ok
              · exact Or.inl before
              · exact Or.inr ⟨index, le_rfl, by omega, ok⟩
            · exact Or.inr ⟨sampled, by omega, before, ok⟩
          · intro earlier from_ before
            rcases Nat.eq_or_lt_of_le from_ with rfl | further
            · exact calm
            · exact quiet earlier further before
        · rw [failed] at returned
          cases returned
      · rename_i leaves
        rw [not_or, Bool.not_eq_true] at leaves
        exact
          ⟨index, le_rfl, leaves.1, Or.inl leaves.2,
            fun earlier from_ before => absurd before (not_lt.2 from_)⟩

theorem returned_of_canLeave
    {soak : SoakRun} {index : Nat} {progress : Progress}
    (pending : soak.restartCommand ≠ .succeeds →
      progress.restarted = false)
    (canLeave : CanLeave soak index progress) :
    ∃ fuel summary, loop soak fuel index progress = .returned summary := by
  rcases canLeave with ⟨last, after, passed, sampled, quiet⟩
  -- the induction is on the iterations that are left until `last`
  induction turns : last - index generalizing index progress with
  | zero =>
      have here : index = last := by omega
      subst here
      have some_sample : progress.samples ≠ 0 := by
        rcases sampled with some_sample | ⟨sampled, from_, before, _⟩
        · exact some_sample
        · omega
      refine ⟨1, summarize soak progress, ?_⟩
      rw [loop, if_neg]
      rintro (early | unsampled)
      · exact Bool.noConfusion (early.symm.trans passed)
      · exact some_sample unsampled
  | succ distance induction =>
      have before_last : index + 1 ≤ last := by omega
      have shorter : last - (index + 1) = distance := by omega
      by_cases leaves :
          pyLt (num (soak.clock index)) soak.duration = true ∨
            progress.samples = 0
      · rcases iteration_cases soak index progress pending with
          ⟨_, later, done, kept, counted⟩ | ⟨raises, _⟩
        · have laterSampled :
              later.samples ≠ 0 ∨
                ∃ sampled, index + 1 ≤ sampled ∧ sampled < last ∧
                  Succeeds soak sampled := by
            rw [ne_eq, counted, not_and_or, not_not]
            rcases sampled with some_sample | ⟨sampled, from_, before, ok⟩
            · exact Or.inl (Or.inl some_sample)
            · rcases Nat.eq_or_lt_of_le from_ with rfl | further
              · exact Or.inl (Or.inr ok)
              · exact Or.inr ⟨sampled, further, before, ok⟩
          rcases
            induction kept before_last laterSampled
              (fun earlier from_ =>
                quiet earlier (le_trans (Nat.le_succ _) from_))
              shorter with
            ⟨fuel, summary, returned⟩
          refine ⟨fuel + 1, summary, ?_⟩
          rw [loop, if_pos leaves, done]
          exact returned
        · exact absurd raises (quiet index le_rfl before_last)
      · exact ⟨1, summarize soak progress, by rw [loop, if_neg leaves]⟩

theorem runSoak_of_admitted
    {soak : SoakRun} (admitted : Admitted soak) (fuel : Nat) :
    runSoak soak fuel = loop soak fuel 0 .start := by
  rcases admitted with ⟨positive, atMostOne, oneTransport⟩
  rw [runSoak, positive, atMostOne, if_neg (by decide), if_neg oneTransport]

theorem admitted_of_returned
    {soak : SoakRun} {fuel : Nat} {summary : SoakSummary}
    (returned : runSoak soak fuel = .returned summary) : Admitted soak := by
  unfold runSoak at returned
  split at returned
  · cases returned
  · rename_i bounds
    split at returned
    · cases returned
    · rename_i oneTransport
      rw [Bool.not_eq_true, Bool.not_eq_false', Bool.and_eq_true] at bounds
      exact ⟨bounds.1, bounds.2, oneTransport⟩

/-- A run returns a summary, one that tells when no sample ever succeeded. -/
def Returns (soak : SoakRun) : Prop :=
  ∃ fuel summary, runSoak soak fuel = .returned summary ∧
    ((∀ index, ¬ Succeeds soak index) →
      0 < summary.transportErrors ∧ summary.terminalErrors ≠ [])

theorem returns_iff
    (soak : SoakRun) :
    Returns soak ↔
      Admitted soak ∧ ∃ last, Over soak (soak.clock last) ∧
        (∃ sampled < last, Succeeds soak sampled) ∧
        ∀ earlier < last, ¬ Raises soak earlier := by
  constructor
  · rintro ⟨fuel, summary, returned, _⟩
    have admitted := admitted_of_returned returned
    rw [runSoak_of_admitted admitted] at returned
    rcases canLeave_of_returned (fun _ => rfl) returned with
      ⟨last, _, passed, unsampled | ⟨sampled, _, before, ok⟩, quiet⟩
    · exact absurd rfl unsampled
    · exact
        ⟨admitted, last, passed, ⟨sampled, before, ok⟩, fun earlier =>
          quiet earlier (Nat.zero_le _)⟩
  · rintro ⟨admitted, last, passed, ⟨sampled, before, ok⟩, quiet⟩
    have canLeave : CanLeave soak 0 .start :=
      ⟨last, Nat.zero_le _, passed,
        Or.inr ⟨sampled, Nat.zero_le _, before, ok⟩,
        fun earlier _ => quiet earlier⟩
    rcases returned_of_canLeave (fun _ => rfl) canLeave with
      ⟨fuel, summary, returned⟩
    refine ⟨fuel, summary, ?_, fun never => absurd ok (never sampled)⟩
    rw [runSoak_of_admitted admitted]
    exact returned

/--
A run returns a summary exactly when some fetch has succeeded by an iteration
that starts after the duration and nothing was raised before it.  When nothing
is ever raised and the clock passes the duration, this means exactly that some
fetch succeeds.
-/
theorem runSoak_returns_iff (soak : SoakRun) :
    (Returns soak ↔
      Admitted soak ∧ ∃ last, Over soak (soak.clock last) ∧
        (∃ sampled < last, Succeeds soak sampled) ∧
        ∀ earlier < last, ¬ Raises soak earlier) ∧
    (Admitted soak →
      (∃ passed, ∀ later ≥ passed, Over soak (soak.clock later)) →
      (∀ index, ¬ Raises soak index) →
      (Returns soak ↔ ∃ index, Succeeds soak index)) := by
  refine ⟨returns_iff soak, ?_⟩
  rintro admitted ⟨passed, late⟩ calm
  rw [returns_iff]
  constructor
  · rintro ⟨_, _, _, ⟨sampled, _, ok⟩, _⟩
    exact ⟨sampled, ok⟩
  · rintro ⟨sampled, ok⟩
    refine
      ⟨admitted, max passed (sampled + 1), late _ (le_max_left _ _),
        ⟨sampled, ?_, ok⟩, fun earlier _ => calm earlier⟩
    exact lt_of_lt_of_le (Nat.lt_succ_self _) (le_max_right _ _)

/-- A second of sampling an endpoint that is never reached. -/
def unreachable : SoakRun where
  metricsUrl := true
  metricsCommand := false
  duration := num 1
  interval := num (1 / 2)
  restartAt := none
  restartCommand := .absent
  paper := false
  minimumAvailability := num (99 / 100)
  clock := fun index => index
  elapsed := fun index => index
  sampled := fun index => index + 1
  fetch := fun _ => .transportError
  format4 := fun _ => "0.9900"

theorem unreachable_never_returns :
    Admitted unreachable ∧
      (∀ later ≥ 1, Over unreachable (unreachable.clock later)) ∧
      (∀ index, ¬ Raises unreachable index) ∧ ¬ Returns unreachable := by
  refine ⟨?_, ?_, ?_, ?_⟩
  · exact ⟨by decide +kernel, by decide +kernel, by decide⟩
  · intro later positive
    have nonzero : later ≠ 0 := Nat.one_le_iff_ne_zero.1 positive
    simpa [Over, unreachable, pyLt, num] using nonzero
  · intro index raises
    have sleeps : sleepError unreachable.interval = none := by
      decide +kernel
    rw [Raises, sleeps] at raises
    simp [RestartRaises, unreachable] at raises
  · rw [returns_iff]
    simp [Succeeds, unreachable]

end KairosDeploy.Soak.RunSoak
