import KairosDeploy.Epoch.SourceWait
import KairosDeploy.Library.Transition

/-!
# The counters that a circuit can show

A `SourceCircuit` only counts: rounds that were deferred and rounds that
succeeded.  The counters that some run leads to are described by a few
inequalities between them, without the run.
-/

namespace KairosDeploy.Epoch.CircuitRuns

open KairosDeploy.Epoch.SourceWait
open KairosDeploy.Library.Transition

/-! ## Runs -/

/-- How a round ends for the circuit. -/
inductive CircuitEvent where
  | succeeded
  | deferred (reason : WaitReason)
deriving DecidableEq

/-- The circuit after a round. -/
def circuitStep (circuit : SourceCircuit) :
    CircuitEvent → Option SourceCircuit
  | .succeeded => some circuit.succeeded
  | .deferred reason => some (circuit.counted reason)

/-- The counters of a run, without the run. -/
structure Attained (circuit : SourceCircuit) : Prop where
  /-- A recovery ends deferrals that the present streak does not count. -/
  apart :
    circuit.recoveries + circuit.consecutive ≤
      circuit.timeouts + circuit.dnsFailures
  /-- What the present streak does not count was recovered from. -/
  recovered :
    circuit.consecutive < circuit.timeouts + circuit.dnsFailures →
      1 ≤ circuit.recoveries
  timeoutStreak :
    circuit.consecutiveTimeouts ≤ circuit.timeouts ∧
      circuit.consecutiveTimeouts ≤ circuit.consecutive
  dnsStreak :
    circuit.consecutiveDnsFailures ≤ circuit.dnsFailures ∧
      circuit.consecutiveDnsFailures ≤ circuit.consecutive
  /-- The last deferral had one reason. -/
  oneReason :
    circuit.consecutive = 0 ∨
      1 ≤ circuit.consecutiveTimeouts ∧
        circuit.consecutiveDnsFailures = 0 ∨
      1 ≤ circuit.consecutiveDnsFailures ∧ circuit.consecutiveTimeouts = 0
  /-- A streak that is longer than its last part changed its reason. -/
  changed :
    (circuit.consecutiveTimeouts = 0 ∨
      circuit.consecutiveTimeouts = circuit.consecutive ∨
      1 ≤ circuit.dnsFailures) ∧
    (circuit.consecutiveDnsFailures = 0 ∨
      circuit.consecutiveDnsFailures = circuit.consecutive ∨
      1 ≤ circuit.timeouts)

theorem attained_start : Attained .start where
  apart := by simp [SourceCircuit.start]
  recovered := by simp [SourceCircuit.start]
  timeoutStreak := by simp [SourceCircuit.start]
  dnsStreak := by simp [SourceCircuit.start]
  oneReason := by simp [SourceCircuit.start]
  changed := by simp [SourceCircuit.start]

theorem Attained.succeeded
    {circuit : SourceCircuit} (attained : Attained circuit) :
    Attained circuit.succeeded := by
  rcases attained with ⟨apart, recovered, _, _, _, _⟩
  constructor <;> dsimp only [SourceCircuit.succeeded] <;> grind

theorem Attained.counted
    {circuit : SourceCircuit} (attained : Attained circuit)
    (reason : WaitReason) : Attained (circuit.counted reason) := by
  rcases attained with ⟨apart, recovered, _, _, one, changed⟩
  cases reason <;> constructor <;> dsimp only [SourceCircuit.counted] <;> omega

/-- Every run keeps the inequalities. -/
theorem attained_of_reaches
    {circuit : SourceCircuit} (run : Reaches circuitStep .start circuit) :
    Attained circuit := by
  apply run.invariant Attained attained_start
  intro before event after attained taken
  cases event with
  | succeeded =>
      cases taken
      exact attained.succeeded
  | deferred reason =>
      cases taken
      exact attained.counted reason

/-! ## Every such counters are met -/

/-- The state before a deferral for a timeout. -/
def beforeTimeout (circuit : SourceCircuit) : SourceCircuit where
  timeouts := circuit.timeouts - 1
  dnsFailures := circuit.dnsFailures
  recoveries := circuit.recoveries
  consecutive := circuit.consecutive - 1
  consecutiveTimeouts := circuit.consecutiveTimeouts - 1
  consecutiveDnsFailures :=
    if circuit.consecutiveTimeouts = 1 then
      min circuit.dnsFailures (circuit.consecutive - 1)
    else 0

/-- The state before a deferral for a failure of the DNS. -/
def beforeDns (circuit : SourceCircuit) : SourceCircuit where
  timeouts := circuit.timeouts
  dnsFailures := circuit.dnsFailures - 1
  recoveries := circuit.recoveries
  consecutive := circuit.consecutive - 1
  consecutiveTimeouts :=
    if circuit.consecutiveDnsFailures = 1 then
      min circuit.timeouts (circuit.consecutive - 1)
    else 0
  consecutiveDnsFailures := circuit.consecutiveDnsFailures - 1

/-- The state before a recovery: as many deferrals as possible are recent. -/
def beforeRecovery (circuit : SourceCircuit) : SourceCircuit :=
  let recent :=
    circuit.timeouts + circuit.dnsFailures - (circuit.recoveries - 1)
  { circuit with
    recoveries := circuit.recoveries - 1
    consecutive := recent
    consecutiveTimeouts := min circuit.timeouts recent
    consecutiveDnsFailures :=
      if circuit.timeouts = 0 then recent else 0 }

theorem attained_beforeTimeout
    {circuit : SourceCircuit} (attained : Attained circuit)
    (streak : 1 ≤ circuit.consecutiveTimeouts) :
    Attained (beforeTimeout circuit) ∧
      (beforeTimeout circuit).counted .fetchTimeout = circuit := by
  rcases attained with ⟨apart, recovered, timeouts, dns, one, changed⟩
  constructor
  · constructor <;> dsimp only [beforeTimeout] <;> grind
  · rcases circuit with ⟨_, _, _, _, _, _⟩
    simp only [beforeTimeout, SourceCircuit.counted,
      SourceCircuit.mk.injEq] at *
    grind

theorem attained_beforeDns
    {circuit : SourceCircuit} (attained : Attained circuit)
    (streak : 1 ≤ circuit.consecutiveDnsFailures) :
    Attained (beforeDns circuit) ∧
      (beforeDns circuit).counted .fetchDnsFailure = circuit := by
  rcases attained with ⟨apart, recovered, timeouts, dns, one, changed⟩
  constructor
  · constructor <;> dsimp only [beforeDns] <;> grind
  · rcases circuit with ⟨_, _, _, _, _, _⟩
    simp only [beforeDns, SourceCircuit.counted,
      SourceCircuit.mk.injEq] at *
    grind

theorem attained_beforeRecovery
    {circuit : SourceCircuit} (attained : Attained circuit)
    (idle : circuit.consecutive = 0) (some : 1 ≤ circuit.recoveries) :
    Attained (beforeRecovery circuit) ∧
      (beforeRecovery circuit).succeeded = circuit := by
  rcases attained with ⟨apart, recovered, timeouts, dns, one, changed⟩
  constructor
  · constructor <;> dsimp only [beforeRecovery] <;> grind
  · rcases circuit with ⟨_, _, _, _, _, _⟩
    simp only [beforeRecovery, SourceCircuit.succeeded,
      SourceCircuit.mk.injEq] at *
    grind

/-- Counters without deferrals are those of the start. -/
theorem eq_start
    {circuit : SourceCircuit} (attained : Attained circuit)
    (idle : circuit.consecutive = 0) (none : circuit.recoveries = 0) :
    circuit = .start := by
  rcases attained with ⟨apart, recovered, timeouts, dns, one, changed⟩
  rcases circuit with ⟨_, _, _, _, _, _⟩
  simp only [SourceCircuit.start, SourceCircuit.mk.injEq] at *
  omega

/-- The rounds that a circuit has counted. -/
def counters (circuit : SourceCircuit) : Nat :=
  circuit.timeouts + circuit.dnsFailures + circuit.recoveries

theorem reaches_of_attained
    (circuit : SourceCircuit) (attained : Attained circuit) :
    Reaches circuitStep .start circuit := by
  -- The last round is undone: the streak says which one it was.
  by_cases timeout : 1 ≤ circuit.consecutiveTimeouts
  · rcases attained_beforeTimeout attained timeout with ⟨earlier, same⟩
    have run := reaches_of_attained (beforeTimeout circuit) earlier
    exact run.act (.deferred .fetchTimeout) (congrArg some same)
  · by_cases dns : 1 ≤ circuit.consecutiveDnsFailures
    · rcases attained_beforeDns attained dns with ⟨earlier, same⟩
      have run := reaches_of_attained (beforeDns circuit) earlier
      exact run.act (.deferred .fetchDnsFailure) (congrArg some same)
    · have idle : circuit.consecutive = 0 := by
        have one := attained.oneReason
        omega
      by_cases recovery : 1 ≤ circuit.recoveries
      · rcases attained_beforeRecovery attained idle recovery with
          ⟨earlier, same⟩
        have run := reaches_of_attained (beforeRecovery circuit) earlier
        exact run.act .succeeded (congrArg some same)
      · rw [eq_start attained idle (by omega)]
        exact .start
termination_by counters circuit
decreasing_by
  · have most := attained.timeoutStreak
    simp only [counters, beforeTimeout]
    omega
  · have most := attained.dnsStreak
    simp only [counters, beforeDns]
    omega
  · simp only [counters, beforeRecovery]
    omega

/-- The counters that some run leads to are those with the inequalities. -/
theorem reaches_iff_attained (circuit : SourceCircuit) :
    Reaches circuitStep .start circuit ↔ Attained circuit :=
  ⟨attained_of_reaches, reaches_of_attained circuit⟩

end KairosDeploy.Epoch.CircuitRuns
