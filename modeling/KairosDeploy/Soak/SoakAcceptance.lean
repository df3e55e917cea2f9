import KairosDeploy.Library.PyQuotient
import KairosDeploy.Soak.RunSoak

/-!
# What the soak accepts

`main` of the soak returns zero for a summary without terminal errors whose
restart has recovered.  The counters of the loop tell what happened in its
iterations, so that such a summary is sound, but for one thing: a restart that
was asked for and whose time never came counts as recovered.
-/

namespace KairosDeploy.Soak.SoakAcceptance

open KairosDeploy.Library.PyNumber
open KairosDeploy.Soak.Health
open KairosDeploy.Soak.RunSoak

/-! ## The exit code -/

/-- What `main` returns for a summary. -/
def exitCode (summary : SoakSummary) : Nat :=
  if summary.terminalErrors = [] ∧ summary.recoveredAfterRestart = true then
    0
  else
    1

/-- The arguments that `main` lets through. -/
structure AcceptedByMain (soak : SoakRun) : Prop where
  duration : pyLe soak.duration (num 0) = false
  interval : pyLe soak.interval (num 0) = false
  restart : soak.restartAt.isSome = true ↔ soak.restartCommand ≠ .absent
  transport : soak.metricsUrl ≠ soak.metricsCommand

/-! ## What happens in an iteration -/

section Iterations

variable (soak : SoakRun) (index : Nat)

/-- The health errors of an iteration. -/
def errorsAt : List String :=
  match soak.fetch index with
  | .metrics metrics => healthErrors metrics soak.paper
  | _ => ["metrics_unavailable"]

/-- The health errors that are known before an iteration. -/
def lastErrorsBefore : Nat → List String
  | 0 => ["no_samples"]
  | index + 1 => errorsAt soak index

/-- A sample that counts as healthy. -/
def healthyAt : Bool :=
  match soak.fetch index with
  | .metrics metrics =>
      (sampleAvailabilityErrors (healthErrors metrics soak.paper)
        soak.paper).isEmpty
  | _ => false

/-- The time of the restart has come. -/
def Due : Prop :=
  ∃ restartAt, soak.restartAt = some restartAt ∧
    pyLe restartAt (num (soak.elapsed index)) = true

/-- The loop goes on: its time is not over or no fetch has succeeded. -/
def GoesOn : Prop :=
  pyLt (num (soak.clock index)) soak.duration = true ∨
    ∀ sampled < index, ¬ Succeeds soak sampled

/-- The state before an iteration. -/
def stateAt : Nat → Except SoakError Progress
  | 0 => .ok .start
  | index + 1 =>
      match stateAt index with
      | .error error => .error error
      | .ok progress => iteration soak index progress

/-- The restart command is executed in the iteration. -/
def RestartsAt : Prop :=
  ∃ before after, stateAt soak index = .ok before ∧
    restart soak index before = .ok after ∧
    before.restarted = false ∧ after.restarted = true

end Iterations

/-- What the state tells about the iterations before it. -/
structure Tells (soak : SoakRun) (count : Nat) (progress : Progress) :
    Prop where
  attempts : progress.samples + progress.transportErrors = count
  sampled : progress.samples = 0 ↔ ∀ index < count, ¬ Succeeds soak index
  healthy : progress.healthy = (List.range count).countP (healthyAt soak)
  durable : ∀ index < count, ∀ metrics,
    soak.fetch index = .metrics metrics →
    ∀ error ∈ healthErrors metrics soak.paper,
      error ∈ irreversibleQualificationErrors →
      error ∈ progress.durableFailures
  last : progress.lastErrors = lastErrorsBefore soak count
  notYet : progress.restarted = false → ∀ index < count, ¬ Due soak index
  restarted : progress.restarted = true →
    ∃ index < count, RestartsAt soak index
  recovered : progress.recovered = true →
    ∃ index sampled, index ≤ sampled ∧ sampled < count ∧
      RestartsAt soak index ∧ healthyAt soak sampled = true

section Steps

variable {soak : SoakRun} {index : Nat}

/-- A restart changes nothing but its flag. -/
theorem restart_eq_ok
    {progress later : Progress}
    (done : restart soak index progress = .ok later) :
    (later = progress ∧
        (progress.restarted = false → ¬ Due soak index)) ∨
      (progress.restarted = false ∧ Due soak index ∧
        later = { progress with restarted := true }) := by
  unfold restart at done
  split at done
  · rename_i never
    cases done
    refine .inl ⟨rfl, fun _ => ?_⟩
    rintro ⟨restartAt, at_time, _⟩
    rw [never] at at_time
    cases at_time
  · rename_i restartAt at_time
    split at done
    · rename_i due
      split at done
      · cases done
      · cases done
      · cases done
        exact .inr ⟨due.1, ⟨restartAt, at_time, due.2⟩, rfl⟩
    · rename_i notDue
      cases done
      refine .inl ⟨rfl, fun first => ?_⟩
      rintro ⟨other, same, reached⟩
      rw [at_time] at same
      cases same
      exact notDue ⟨first, reached⟩

/-- After the restart its flag tells about this iteration, too. -/
theorem tells_restart
    {progress later : Progress}
    (reached : stateAt soak index = .ok progress)
    (tells : Tells soak index progress)
    (done : restart soak index progress = .ok later) :
    (later.restarted = false → ∀ earlier < index + 1, ¬ Due soak earlier) ∧
      (later.restarted = true →
        ∃ earlier < index + 1, RestartsAt soak earlier) := by
  have kept := done
  rcases restart_eq_ok done with ⟨rfl, notDue⟩ | ⟨first, due, rfl⟩
  · refine ⟨fun pending earlier before => ?_, fun restarted => ?_⟩
    · rcases Nat.lt_succ_iff_lt_or_eq.1 before with inside | rfl
      · exact tells.notYet pending earlier inside
      · exact notDue pending
    · rcases tells.restarted restarted with ⟨earlier, inside, executed⟩
      exact ⟨earlier, by omega, executed⟩
  · constructor
    · intro pending
      cases pending
    · intro _
      exact
        ⟨index, Nat.lt_succ_self _, progress, _, reached, kept, first, rfl⟩

theorem countP_range_succ :
    (List.range (index + 1)).countP (healthyAt soak) =
      (List.range index).countP (healthyAt soak) +
        if healthyAt soak index = true then 1 else 0 := by
  rw [List.range_succ, List.countP_append]
  simp [List.countP_cons]

/-- What is told of earlier iterations and of this one is told of all. -/
theorem forall_lt_succ
    {property : Nat → Prop} (earlier : ∀ other < index, property other)
    (here : property index) : ∀ other < index + 1, property other := by
  intro other before
  rcases Nat.lt_succ_iff_lt_or_eq.1 before with inside | rfl
  · exact earlier other inside
  · exact here

/-- An iteration restarts and counts; its sleep changes nothing. -/
theorem iteration_eq_ok
    {progress later : Progress}
    (done : iteration soak index progress = .ok later) :
    ∃ restarted, restart soak index progress = .ok restarted ∧
      attempt soak index restarted = .ok later := by
  unfold iteration at done
  cases first : restart soak index progress with
  | error error =>
      rw [first] at done
      cases done
  | ok restarted =>
      simp only [first, bind, Except.bind] at done
      cases second : attempt soak index restarted with
      | error error =>
          rw [second] at done
          cases done
      | ok counted =>
          rw [second] at done
          dsimp only at done
          rcases sleep_cases soak index counted with
            ⟨slept, _⟩ | ⟨⟨error, failed⟩, _⟩
          · rw [slept] at done
            cases done
            exact ⟨restarted, rfl, second⟩
          · rw [failed] at done
            cases done

/-- A recovery before an iteration is one after it. -/
theorem Tells.recovered_earlier
    {progress : Progress} (tells : Tells soak index progress)
    (hasRecovered : progress.recovered = true) :
    ∃ executed sampled, executed ≤ sampled ∧ sampled < index + 1 ∧
      RestartsAt soak executed ∧ healthyAt soak sampled = true := by
  rcases tells.recovered hasRecovered with
    ⟨executed, sampled, order, inside, facts⟩
  exact ⟨executed, sampled, order, by omega, facts⟩

/-- A sample adds the irreversible errors of its metrics. -/
theorem Tells.durable_sample
    {progress later : Progress} {metrics : Metrics}
    (tells : Tells soak index progress)
    (durable : later.durableFailures = progress.durableFailures)
    (fetched : soak.fetch index = .metrics metrics) :
    ∀ other < index + 1, ∀ others, soak.fetch other = .metrics others →
      ∀ error ∈ healthErrors others soak.paper,
        error ∈ irreversibleQualificationErrors →
          error ∈
            later.durableFailures ++
              (healthErrors metrics soak.paper).filter
                irreversibleQualificationErrors.contains := by
  refine forall_lt_succ ?_ ?_
  · intro other inside others again error found irreversible
    rw [durable]
    exact
      List.mem_append_left _
        (tells.durable other inside others again error found irreversible)
  · intro others again error found irreversible
    rw [fetched] at again
    cases again
    refine List.mem_append_right _ (List.mem_filter.2 ⟨found, ?_⟩)
    exact List.contains_iff_mem.2 irreversible

/-- The samples tell about this iteration, too. -/
theorem tells_sampled
    {progress later counted : Progress}
    (tells : Tells soak index progress)
    (same : later.samples = progress.samples)
    (attempted : attempt soak index later = .ok counted) :
    counted.samples = 0 ↔
      ∀ earlier < index + 1, ¬ Succeeds soak earlier := by
  rcases attempt_cases soak index later with
    ⟨other, again, _, samples, _⟩ | ⟨⟨error, failed⟩, _⟩
  · rw [attempted] at again
    cases again
    rw [samples, same, tells.sampled]
    constructor
    · rintro ⟨before, here⟩
      exact forall_lt_succ before here
    · intro all
      exact
        ⟨fun earlier before => all earlier (by omega),
          all index (Nat.lt_succ_self _)⟩
  · rw [attempted] at failed
    cases failed

/-- A failed fetch is told. -/
theorem tells_transportFailed
    {progress later : Progress}
    (reached : stateAt soak index = .ok progress)
    (tells : Tells soak index progress)
    (done : restart soak index progress = .ok later)
    (failed : soak.fetch index = .transportError) :
    Tells soak (index + 1) (transportFailed later) := by
  rcases tells_restart reached tells done with ⟨notYet, restarted⟩
  have unhealthy : healthyAt soak index = false := by
    rw [healthyAt, failed]
  have errors : errorsAt soak index = ["metrics_unavailable"] := by
    rw [errorsAt, failed]
  have same :
      later.samples = progress.samples ∧
        later.healthy = progress.healthy ∧
        later.transportErrors = progress.transportErrors ∧
        later.recovered = progress.recovered ∧
        later.durableFailures = progress.durableFailures := by
    rcases restart_eq_ok done with ⟨rfl, _⟩ | ⟨_, _, rfl⟩ <;> simp
  rcases same with ⟨samples, healthy, transportErrors, recovered, durable⟩
  have attempted :
      attempt soak index later = .ok (transportFailed later) := by
    rw [attempt, failed]
  refine
    ⟨?_, tells_sampled tells samples attempted, ?_, ?_, errors.symm, notYet,
      restarted, ?_⟩
  · simp only [transportFailed, samples, transportErrors]
    have attempts := tells.attempts
    omega
  · rw [countP_range_succ, unhealthy]
    simpa [transportFailed, healthy] using tells.healthy
  · refine forall_lt_succ ?_ ?_
    · simp only [transportFailed, durable]
      exact tells.durable
    · intro metrics fetched
      rw [failed] at fetched
      cases fetched
  · intro hasRecovered
    exact tells.recovered_earlier (recovered ▸ hasRecovered)

/-- A sample is told. -/
theorem tells_sample
    {progress later : Progress} {metrics : Metrics}
    (reached : stateAt soak index = .ok progress)
    (tells : Tells soak index progress)
    (done : restart soak index progress = .ok later)
    (fetched : soak.fetch index = .metrics metrics) :
    Tells soak (index + 1) (sample soak metrics later) := by
  rcases tells_restart reached tells done with ⟨notYet, restarted⟩
  have healthyHere :
      healthyAt soak index =
        (sampleAvailabilityErrors (healthErrors metrics soak.paper)
          soak.paper).isEmpty := by
    rw [healthyAt, fetched]
  have errors :
      errorsAt soak index = healthErrors metrics soak.paper := by
    rw [errorsAt, fetched]
  have same :
      later.samples = progress.samples ∧
        later.healthy = progress.healthy ∧
        later.transportErrors = progress.transportErrors ∧
        later.recovered = progress.recovered ∧
        later.durableFailures = progress.durableFailures := by
    rcases restart_eq_ok done with ⟨rfl, _⟩ | ⟨_, _, rfl⟩ <;> simp
  rcases same with ⟨samples, healthy, transportErrors, recovered, durable⟩
  have attempts := tells.attempts
  have healthyBefore := tells.healthy
  have durableAll := tells.durable_sample durable fetched
  have attempted :
      attempt soak index later = .ok (sample soak metrics later) := by
    rw [attempt, fetched]
  have samplesTold := tells_sampled tells samples attempted
  unfold sample at samplesTold ⊢
  dsimp only at samplesTold ⊢
  split at samplesTold
  · rename_i available
    have isHealthy : healthyAt soak index = true := by
      rw [healthyHere, available]
      rfl
    rw [if_pos available]
    refine
      ⟨?_, samplesTold, ?_, durableAll, errors.symm, notYet,
        restarted, ?_⟩
    · simp only [samples, transportErrors]
      omega
    · rw [countP_range_succ, isHealthy]
      simp only [healthy, if_true]
      omega
    · intro hasRecovered
      rw [Bool.or_eq_true, recovered] at hasRecovered
      rcases hasRecovered with before | now
      · exact tells.recovered_earlier before
      · rcases restarted now with ⟨executed, inside, facts⟩
        exact
          ⟨executed, index, by omega, Nat.lt_succ_self _, facts, isHealthy⟩
  · rename_i unavailable
    have notHealthy : healthyAt soak index = false := by
      rw [healthyHere, List.isEmpty_eq_false_iff]
      exact unavailable
    rw [if_neg unavailable]
    refine
      ⟨?_, samplesTold, ?_, durableAll, errors.symm, notYet,
        restarted, ?_⟩
    · simp only [samples, transportErrors]
      omega
    · rw [countP_range_succ, notHealthy]
      simpa [healthy] using healthyBefore
    · intro hasRecovered
      exact tells.recovered_earlier (recovered ▸ hasRecovered)

/-- The state before every iteration that is reached tells. -/
theorem tells_of_stateAt
    {progress : Progress} (reached : stateAt soak index = .ok progress) :
    Tells soak index progress := by
  induction index generalizing progress with
  | zero =>
      cases reached
      refine ⟨rfl, ?_, rfl, ?_, rfl, ?_, ?_, ?_⟩
      · exact
          ⟨fun _ _ before => absurd before (Nat.not_lt_zero _), fun _ => rfl⟩
      · intro other before
        omega
      · intro _ other before
        omega
      · intro restarted
        cases restarted
      · intro recovered
        cases recovered
  | succ index induction =>
      rw [stateAt] at reached
      cases before : stateAt soak index with
      | error error =>
          rw [before] at reached
          cases reached
      | ok earlier =>
          rw [before] at reached
          rcases iteration_eq_ok reached with ⟨later, done, attempted⟩
          have tells := induction before
          unfold attempt at attempted
          cases fetched : soak.fetch index with
          | metrics metrics =>
              rw [fetched] at attempted
              cases attempted
              exact tells_sample before tells done fetched
          | transportError =>
              rw [fetched] at attempted
              cases attempted
              exact tells_transportFailed before tells done fetched
          | raised error =>
              rw [fetched] at attempted
              cases attempted

end Steps

/-! ## The end of the run -/

/-- The loop goes on as the fetches before it tell. -/
theorem goesOn_iff
    {soak : SoakRun} {index : Nat} {progress : Progress}
    (tells : Tells soak index progress) :
    GoesOn soak index ↔
      pyLt (num (soak.clock index)) soak.duration = true ∨
        progress.samples = 0 := by
  rw [GoesOn, tells.sampled]

/-- A summary is that of the first state in which the loop does not go on. -/
theorem exists_state_of_returned
    {soak : SoakRun} {fuel index : Nat} {progress : Progress}
    {summary : SoakSummary}
    (reached : stateAt soak index = .ok progress)
    (returned : loop soak fuel index progress = .returned summary) :
    ∃ last final, stateAt soak last = .ok final ∧ index ≤ last ∧
      (∀ earlier, index ≤ earlier → earlier < last → GoesOn soak earlier) ∧
      ¬ GoesOn soak last ∧ summary = summarize soak final := by
  induction fuel generalizing index progress with
  | zero => cases returned
  | succ fuel induction =>
      have goesOn := goesOn_iff (tells_of_stateAt reached)
      rw [loop] at returned
      split at returned
      · rename_i loops
        cases done : iteration soak index progress with
        | error error =>
            rw [done] at returned
            cases returned
        | ok later =>
            rw [done] at returned
            have next : stateAt soak (index + 1) = .ok later := by
              rw [stateAt, reached]
              exact done
            rcases induction next returned with
              ⟨last, final, ends, after, before, leaves, same⟩
            refine ⟨last, final, ends, by omega, ?_, leaves, same⟩
            intro earlier from_ inside
            rcases Nat.eq_or_lt_of_le from_ with rfl | further
            · exact goesOn.2 loops
            · exact before earlier further inside
      · rename_i leaves
        cases returned
        exact
          ⟨index, progress, reached, le_rfl,
            fun earlier from_ inside => absurd inside (not_lt.2 from_),
            fun on => leaves (goesOn.1 on), rfl⟩

/-- How many iterations a run has made. -/
def attempts (summary : SoakSummary) : Nat :=
  summary.samples + summary.transportErrors

/-- What an accepted run has shown. -/
structure Sound (soak : SoakRun) (count : Nat) : Prop where
  lastAttempt : ∃ index metrics, count = index + 1 ∧
    soak.fetch index = .metrics metrics ∧
    healthErrors metrics soak.paper = []
  reversible : ∀ index < count, ∀ metrics,
    soak.fetch index = .metrics metrics →
    ∀ error ∈ healthErrors metrics soak.paper,
      error ∉ irreversibleQualificationErrors
  available :
    pyLe soak.minimumAvailability
      ((PyFloat.ofRatio ((List.range count).countP (healthyAt soak))
        count).bind PyFloat.comparable) = true
  recovered : soak.restartAt ≠ none →
    ∃ index sampled, index ≤ sampled ∧ sampled < count ∧
      RestartsAt soak index ∧ healthyAt soak sampled = true

/-- No restart is asked for, or its time comes while the loop goes on. -/
def RestartReached (soak : SoakRun) : Prop :=
  soak.restartAt = none ∨
    ∃ index, Due soak index ∧ ∀ earlier ≤ index, GoesOn soak earlier

/-- The iterations that are made are those at which the loop goes on. -/
theorem restartReached_iff
    {soak : SoakRun} {last : Nat}
    (before : ∀ earlier < last, GoesOn soak earlier)
    (leaves : ¬ GoesOn soak last) :
    RestartReached soak ↔
      soak.restartAt = none ∨ ∃ index < last, Due soak index := by
  apply or_congr_right
  constructor
  · rintro ⟨index, due, on⟩
    refine ⟨index, ?_, due⟩
    by_contra after
    exact leaves (on last (not_lt.1 after))
  · rintro ⟨index, inside, due⟩
    exact
      ⟨index, due, fun earlier le => before earlier (lt_of_le_of_lt le inside)⟩

section End

variable {soak : SoakRun} {fuel : Nat} {summary : SoakSummary}

/-- The terminal errors of a summary, before they are sorted. -/
theorem terminalErrors_eq_nil
    {progress : Progress}
    (none_left : (summarize soak progress).terminalErrors = []) :
    progress.durableFailures = [] ∧ progress.lastErrors = [] ∧
      pyLt (measuredAvailability progress) soak.minimumAvailability =
        false := by
  have empty :
      (summarize soak progress).terminalErrors.length = 0 := by
    rw [none_left, List.length_nil]
  simp only [summarize, List.length_mergeSort, List.length_eq_zero_iff,
    List.dedup_eq_nil, List.append_eq_nil_iff] at empty
  refine ⟨empty.1.1, empty.2, ?_⟩
  by_contra below
  rw [Bool.not_eq_false] at below
  rw [if_pos below] at empty
  exact List.cons_ne_nil _ _ empty.1.2

/-- The availability of a state is that of its iterations. -/
theorem available_of_not_below
    {last : Nat} {final : Progress} (admitted : Admitted soak)
    (tells : Tells soak last final) (nonempty : last ≠ 0)
    (notBelow :
      pyLt (measuredAvailability final) soak.minimumAvailability =
        false) :
    pyLe soak.minimumAvailability
      ((PyFloat.ofRatio ((List.range last).countP (healthyAt soak))
        last).bind PyFloat.comparable) = true := by
  have attempts := tells.attempts
  have fewer : (List.range last).countP (healthyAt soak) ≤ last := by
    have counted :=
      @List.countP_le_length _ (healthyAt soak) (List.range last)
    rw [List.length_range] at counted
    exact counted
  rcases exists_float_of_le (by omega) fewer with ⟨float, quotient⟩
  have measured :
      measuredAvailability final = PyFloat.comparable (.finite float) := by
    rw [measuredAvailability, attempts, tells.healthy]
    rw [if_neg (by omega), quotient]
    rfl
  rw [measured] at notBelow
  rw [quotient]
  have bounded := admitted.1
  change pyLe _ (PyFloat.comparable (.finite float)) = true
  cases minimum : soak.minimumAvailability with
  | none =>
      rw [minimum] at bounded
      cases bounded
  | some least =>
      rw [minimum] at notBelow
      simp only [PyFloat.comparable, pyLt, pyLe, decide_eq_false_iff_not,
        decide_eq_true_eq] at notBelow ⊢
      exact not_lt.1 notBelow

/-- What exit code zero tells of the final state. -/
theorem sound_iff
    {last : Nat} {final : Progress} (admitted : Admitted soak)
    (reached : stateAt soak last = .ok final)
    (before : ∀ earlier < last, GoesOn soak earlier)
    (leaves : ¬ GoesOn soak last)
    (accepted : exitCode (summarize soak final) = 0) :
    Sound soak last ↔ RestartReached soak := by
  rw [restartReached_iff before leaves]
  have tells := tells_of_stateAt reached
  have nonempty : last ≠ 0 := by
    rintro rfl
    exact leaves (Or.inr fun _ none_before =>
      absurd none_before (Nat.not_lt_zero _))
  unfold exitCode at accepted
  split at accepted
  · rename_i passed
    rcases passed with ⟨noErrors, recovers⟩
    rcases terminalErrors_eq_nil noErrors with
      ⟨durable, lastErrors, notBelow⟩
    constructor
    · intro sound
      by_cases asked : soak.restartAt = none
      · exact .inl asked
      · rcases sound.recovered asked with
          ⟨index, sampled, order, inside, executed, _⟩
        rcases executed with ⟨before, after, _, done, pending, restarted⟩
        rcases restart_eq_ok done with ⟨rfl, _⟩ | ⟨_, due, _⟩
        · rw [pending] at restarted
          cases restarted
        · exact .inr ⟨index, by omega, due⟩
    · intro restartReached
      refine ⟨?_, ?_, ?_, ?_⟩
      · have lastTold := tells.last
        rw [lastErrors] at lastTold
        cases last with
        | zero => cases lastTold
        | succ index =>
            rw [lastErrorsBefore, errorsAt] at lastTold
            cases fetched : soak.fetch index with
            | metrics metrics =>
                rw [fetched] at lastTold
                exact ⟨index, metrics, rfl, fetched, lastTold.symm⟩
            | transportError =>
                rw [fetched] at lastTold
                cases lastTold
            | raised error =>
                rw [fetched] at lastTold
                cases lastTold
      · intro index inside metrics fetched error found irreversible
        have kept :=
          tells.durable index inside metrics fetched error found irreversible
        rw [durable] at kept
        cases kept
      · exact available_of_not_below admitted tells nonempty notBelow
      · intro asked
        rcases restartReached with none_asked | ⟨index, inside, due⟩
        · exact absurd none_asked asked
        · have restarted : final.restarted = true := by
            by_contra pending
            rw [Bool.not_eq_true] at pending
            exact tells.notYet pending index inside due
          have recovered : final.recovered = true := by
            simpa [summarize, restarted] using recovers
          exact tells.recovered recovered
  · cases accepted

/--
A run that `main` accepts is sound if and only if no restart is asked for or
its time comes while the readings of the clock and the fetches keep the loop
going.
-/
theorem main_sound_iff
    (returned : runSoak soak fuel = .returned summary)
    (accepted : exitCode summary = 0) :
    Sound soak (attempts summary) ↔ RestartReached soak := by
  have admitted := admitted_of_returned returned
  rw [runSoak_of_admitted admitted] at returned
  rcases @exists_state_of_returned soak fuel 0 .start summary rfl returned
    with ⟨last, final, reached, _, before, leaves, rfl⟩
  have count : attempts (summarize soak final) = last :=
    (tells_of_stateAt reached).attempts
  rw [count]
  exact
    sound_iff admitted reached
      (fun earlier inside => before earlier (Nat.zero_le _) inside) leaves
      accepted

end End

/-! ## A restart whose time never comes -/

/-- A healthy runtime. -/
def healthyMetrics : Metrics :=
  requiredMetrics.map fun name =>
    (name, num (if zeroRequired.contains name then 0 else 1))

/-- Two seconds of healthy samples, with a restart after a number of them. -/
def shortSoak (restartAt : ℚ) : SoakRun where
  metricsUrl := true
  metricsCommand := false
  duration := num 2
  interval := num (1 / 2)
  restartAt := some (num restartAt)
  restartCommand := .succeeds
  paper := false
  minimumAvailability := num (1 / 2)
  clock := fun index => index
  elapsed := fun index => index
  sampled := fun index => index + 1
  fetch := fun _ => .metrics healthyMetrics
  format4 := fun _ => "0.5000"

/-- The run ends with exit code zero after a number of iterations. -/
def endsWell (count : Nat) : Ending → Bool
  | .returned summary => exitCode summary = 0 && attempts summary = count
  | _ => false

theorem exists_of_endsWell
    {count : Nat} {ending : Ending} (well : endsWell count ending = true) :
    ∃ summary, ending = .returned summary ∧ exitCode summary = 0 ∧
      attempts summary = count := by
  cases ending with
  | returned summary =>
      simp only [endsWell, Bool.and_eq_true, decide_eq_true_eq] at well
      exact ⟨summary, rfl, well⟩
  | raised error => cases well
  | unfinished => cases well

/-- A restart that is asked for after the end of the run is not missed. -/
theorem main_accepts_without_restart :
    ¬ ∀ (soak : SoakRun) (fuel : Nat) (summary : SoakSummary),
      AcceptedByMain soak →
      runSoak soak fuel = .returned summary →
      exitCode summary = 0 → Sound soak (attempts summary) := by
  intro always
  have well : endsWell 2 (runSoak (shortSoak 1000) 3) = true := by
    decide +kernel
  rcases exists_of_endsWell well with ⟨summary, returned, zero, count⟩
  have accepted : AcceptedByMain (shortSoak 1000) :=
    ⟨by decide +kernel, by decide +kernel, by decide, by decide⟩
  have sound := always _ _ _ accepted returned zero
  rw [count] at sound
  rcases sound.recovered (by decide) with
    ⟨index, sampled, order, inside, executed, _⟩
  rcases executed with ⟨before, after, _, done, pending, restarted⟩
  rcases restart_eq_ok done with ⟨rfl, _⟩ | ⟨_, ⟨time, asked, due⟩, _⟩
  · rw [pending] at restarted
    cases restarted
  · cases asked
    have early : (1000 : ℚ) ≤ (index : ℚ) := by
      rwa [pyLe_num, decide_eq_true_eq] at due
    have late : 1000 ≤ index := by exact_mod_cast early
    omega

/-- A run of two iterations with a restart in the second. -/
theorem main_sound_iff_restarted :
    ∃ summary, runSoak (shortSoak 1) 3 = .returned summary ∧
      exitCode summary = 0 ∧ Sound (shortSoak 1) (attempts summary) := by
  have well : endsWell 2 (runSoak (shortSoak 1) 3) = true := by
    decide +kernel
  rcases exists_of_endsWell well with ⟨summary, returned, zero, count⟩
  refine ⟨summary, returned, zero, (main_sound_iff returned zero).2 ?_⟩
  refine .inr ⟨1, ⟨num 1, rfl, by decide⟩, fun earlier le => ?_⟩
  left
  have early : (earlier : ℚ) < 2 := by
    exact_mod_cast Nat.lt_succ_of_le le
  show pyLt (num (earlier : ℚ)) (num 2) = true
  rw [pyLt_num, decide_eq_true_eq]
  exact early

end KairosDeploy.Soak.SoakAcceptance
