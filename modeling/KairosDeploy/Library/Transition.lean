import Mathlib

/-!
# Runs of a partial step function

A system is a partial function that takes a state and an action to the next
state.  Nondeterminism, including failures of the environment, lives in the
choice of actions.  A run is any finite sequence of enabled actions.
-/

namespace KairosDeploy.Library.Transition

universe u v w x

variable {State : Type u} {Action : Type v}

/-- The states reached from `start` by some finite run. -/
inductive Reaches (step : State → Action → Option State) (start : State) :
    State → Prop where
  | start : Reaches step start start
  | step {before after : State} {action : Action}
      (run : Reaches step start before)
      (taken : step before action = some after) :
      Reaches step start after

namespace Reaches

/-- What holds at the start and survives every step holds along every run. -/
theorem invariant
    {step : State → Action → Option State} {start : State}
    (property : State → Prop)
    (initially : property start)
    (preserved :
      ∀ before action after,
        property before → step before action = some after → property after)
    {state : State} (run : Reaches step start state) :
    property state := by
  induction run with
  | start => exact initially
  | step _ taken induction =>
      exact preserved _ _ _ induction taken

/-- One more step, by a given action. -/
theorem act
    {step : State → Action → Option State} {start before after : State}
    (run : Reaches step start before) (action : Action)
    (taken : step before action = some after) :
    Reaches step start after :=
  .step run taken

theorem trans
    {step : State → Action → Option State} {first second third : State}
    (left : Reaches step first second)
    (right : Reaches step second third) :
    Reaches step first third := by
  induction right with
  | start => exact left
  | step _ taken induction => exact .step induction taken

/--
If every concrete step is matched by an abstract run between the projections,
every concrete run is.
-/
theorem simulates
    {Abstract : Type w} {AbstractAction : Type x}
    {step : State → Action → Option State}
    {abstractStep : Abstract → AbstractAction → Option Abstract}
    (project : State → Abstract)
    (matched :
      ∀ before action after,
        step before action = some after →
          Reaches abstractStep (project before) (project after))
    {start state : State} (run : Reaches step start state) :
    Reaches abstractStep (project start) (project state) := by
  induction run with
  | start => exact .start
  | step _ taken induction =>
      exact induction.trans (matched _ _ _ taken)

end Reaches

/-- Perform a list of actions. -/
def perform (step : State → Action → Option State) :
    State → List Action → Option State
  | state, [] => some state
  | state, action :: rest =>
      (step state action).bind fun next => perform step next rest

/-- One list of actions after another. -/
theorem perform_append
    {step : State → Action → Option State} {start middle : State}
    {actions : List Action} (rest : List Action)
    (performed : perform step start actions = some middle) :
    perform step start (actions ++ rest) = perform step middle rest := by
  induction actions generalizing start with
  | nil =>
      cases performed
      rfl
  | cons action actions induction =>
      rcases Option.bind_eq_some_iff.1 performed with ⟨next, taken, tail⟩
      rw [List.cons_append, perform, taken, Option.bind_some]
      exact induction tail

theorem reaches_of_perform
    {step : State → Action → Option State} {start state : State}
    {actions : List Action}
    (performed : perform step start actions = some state) :
    Reaches step start state := by
  induction actions generalizing start with
  | nil =>
      cases performed
      exact .start
  | cons action rest induction =>
      rcases Option.bind_eq_some_iff.1 performed with ⟨next, taken, tail⟩
      exact (Reaches.step .start taken).trans (induction tail)

/-- What holds of the past and the state survives every step. -/
theorem invariant_of_perform
    {step : State → Action → Option State} {start state : State}
    (property : List Action → State → Prop)
    (initially : property [] start)
    (preserved :
      ∀ past before action after,
        property past before → step before action = some after →
          property (past ++ [action]) after)
    {actions : List Action}
    (performed : perform step start actions = some state) :
    property actions state := by
  have onwards :
      ∀ past, property past start →
        property (past ++ actions) state := by
    clear initially
    induction actions generalizing start with
    | nil =>
        intro past holds
        cases performed
        rw [List.append_nil]
        exact holds
    | cons action rest induction =>
        intro past holds
        rcases Option.bind_eq_some_iff.1 performed with ⟨next, taken, tail⟩
        have later :=
          induction tail (past ++ [action])
            (preserved past start action next holds taken)
        rw [List.append_assoc] at later
        exact later
  exact onwards [] initially

end KairosDeploy.Library.Transition
