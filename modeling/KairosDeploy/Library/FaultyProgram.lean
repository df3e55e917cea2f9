import Mathlib

/-!
# Programs that may raise or be killed

A program over a state either returns, raises an error that a handler may
catch, or is killed where it stands, which nothing catches.  The state it
leaves is kept in all three cases.  `Keeps` states that a program preserves an
invariant however it ends, so that the invariant holds at every moment at which
the program can be cut off.
-/

namespace KairosDeploy.Library.FaultyProgram

universe u

variable {State Error Value Result Item : Type}

/-! ## Programs -/

/-- How a program ends. -/
inductive Ending (Error Value : Type) where
  | returned (value : Value)
  | raised (error : Error)
  | killed

/-- A program from a state to its ending and the state it leaves. -/
def Program (State Error Value : Type) : Type :=
  State → Ending Error Value × State

namespace Program

/-- Run one program and, where it returns, the next. -/
def andThen (program : Program State Error Value)
    (next : Value → Program State Error Result) :
    Program State Error Result :=
  fun state =>
    match program state with
    | (.returned value, later) => next value later
    | (.raised error, later) => (.raised error, later)
    | (.killed, later) => (.killed, later)

instance : Monad (Program State Error) where
  pure value := fun state => (.returned value, state)
  bind := andThen

/-- `raise error`. -/
def raise (error : Error) : Program State Error Value :=
  fun state => (.raised error, state)

/-- A value read off the state. -/
def observe (view : State → Value) : Program State Error Value :=
  fun state => (.returned (view state), state)

/-- A change of the state that cannot fail. -/
def update (change : State → State) : Program State Error Unit :=
  fun state => (.returned (), change state)

/-- Raise `error` where the state meets the condition. -/
def refuseWhen (condition : State → Bool) (error : Error) :
    Program State Error Unit :=
  fun state =>
    if condition state then (.raised error, state) else (.returned (), state)

/-- `try: ... except BaseException as error: ...`. -/
def attempt (program : Program State Error Value)
    (handler : Error → Program State Error Value) :
    Program State Error Value :=
  fun state =>
    match program state with
    | (.raised error, later) => handler error later
    | ended => ended

/-- The value of a computation that may refuse. -/
def lift : Except Error Value → Program State Error Value
  | .ok value => pure value
  | .error error => raise error

/-- The error that a `try` block with a catching handler leaves, if any. -/
def caught (program : Program State Error Unit) :
    Program State Error (Option Error) :=
  attempt (do program; return none) fun error => pure (some error)

/-- The first error of a loop whose every round catches its errors. -/
def caughtEach (items : List Item) (body : Item → Program State Error Unit) :
    Program State Error (Option Error) :=
  match items with
  | [] => pure none
  | item :: rest => do
      let first ← caught (body item)
      let later ← caughtEach rest body
      return first <|> later

end Program

/-! ## Steps on the outside world -/

/-- How much of an effect takes place. -/
inductive Extent where
  | nothing
  | part (count : Nat)
  | whole
deriving DecidableEq, Repr

/-- What becomes of one step on the outside world. -/
inductive Fate (Error : Type) where
  | works
  | raises (extent : Extent) (error : Error)
  | killed (extent : Extent)

/--
One step on the outside world.  It may raise or be killed before its effect,
after a part of it, or after all of it.
-/
def perform (fate : State → Fate Error)
    (effect : Extent → State → State) : Program State Error Unit :=
  fun state =>
    match fate state with
    | .works => (.returned (), effect .whole state)
    | .raises extent error => (.raised error, effect extent state)
    | .killed extent => (.killed, effect extent state)

/-! ## Invariants -/

/-- How a program with an invariant may end. -/
def EndsWell (invariant : State → Prop) (post : Value → State → Prop)
    (fails : Error → State → Prop) : Ending Error Value × State → Prop
  | (.returned value, state) => invariant state ∧ post value state
  | (.raised error, state) => invariant state ∧ fails error state
  | (.killed, state) => invariant state

/--
From a state with the invariant and the precondition, the invariant holds
however the program ends, the postcondition where it returns, and `fails` where
it raises.
-/
def Ensures (invariant pre : State → Prop)
    (program : Program State Error Value) (post : Value → State → Prop)
    (fails : Error → State → Prop) : Prop :=
  ∀ state, invariant state → pre state →
    EndsWell invariant post fails (program state)

/-- `Ensures`, where nothing but the invariant is said about an error. -/
abbrev Keeps (invariant pre : State → Prop)
    (program : Program State Error Value) (post : Value → State → Prop) :
    Prop :=
  Ensures invariant pre program post fun _ _ => True

variable {invariant pre weaker : State → Prop}
variable {program : Program State Error Value}
variable {post stronger : Value → State → Prop}
variable {fails : Error → State → Prop}

/-- The invariant holds of the state that the program leaves. -/
theorem Ensures.invariant_after
    (ensures : Ensures invariant pre program post fails) {state : State}
    (holds : invariant state) (ready : pre state) :
    invariant (program state).2 := by
  have ends := ensures state holds ready
  revert ends
  rcases program state with ⟨ending, later⟩
  cases ending with
  | returned value => exact And.left
  | raised error => exact And.left
  | killed => exact id

theorem Ensures.mono
    (ensures : Ensures invariant weaker program stronger fails)
    (before : ∀ state, invariant state → pre state → weaker state)
    (after :
      ∀ value state, invariant state → stronger value state →
        post value state) :
    Ensures invariant pre program post fails := by
  intro state holds ready
  have ends := ensures state holds (before state holds ready)
  revert ends
  rcases program state with ⟨ending, later⟩
  cases ending with
  | returned value =>
      rintro ⟨kept, done⟩
      exact ⟨kept, after value later kept done⟩
  | raised error => exact id
  | killed => exact id

theorem Ensures.weakenPre
    (ensures : Ensures invariant weaker program post fails)
    (before : ∀ state, invariant state → pre state → weaker state) :
    Ensures invariant pre program post fails :=
  ensures.mono before fun _ _ _ done => done

theorem Ensures.weakenPost
    (ensures : Ensures invariant pre program stronger fails)
    (after :
      ∀ value state, invariant state → stronger value state →
        post value state) :
    Ensures invariant pre program post fails :=
  ensures.mono (fun _ _ ready => ready) after

/-- Continue from a precondition that the given one implies. -/
theorem ensures_from (weaker : State → Prop)
    (ensures : Ensures invariant weaker program post fails)
    (before : ∀ state, invariant state → pre state → weaker state) :
    Ensures invariant pre program post fails :=
  ensures.weakenPre before

/-- Forget what is known where the program returns. -/
theorem Ensures.forget
    (ensures : Ensures invariant pre program post fails) :
    Ensures invariant pre program (fun _ _ => True) fails :=
  ensures.weakenPost fun _ _ _ _ => trivial

theorem Ensures.weakenFails
    {thrown : Error → State → Prop}
    (ensures : Ensures invariant pre program post thrown)
    (failed :
      ∀ error state, invariant state → thrown error state →
        fails error state) :
    Ensures invariant pre program post fails := by
  intro state holds ready
  have ends := ensures state holds ready
  revert ends
  rcases program state with ⟨ending, later⟩
  cases ending with
  | returned value => exact id
  | raised error =>
      rintro ⟨kept, raised⟩
      exact ⟨kept, failed error later kept raised⟩
  | killed => exact id

/-- Forget what is known where the program raises. -/
theorem Ensures.keeps
    (ensures : Ensures invariant pre program post fails) :
    Keeps invariant pre program post :=
  ensures.weakenFails fun _ _ _ _ => trivial

/-- A precondition with a witness that the program does not know. -/
theorem ensures_exists
    {Witness : Type} {known : Witness → State → Prop}
    (each :
      ∀ witness, Ensures invariant (known witness) program post fails) :
    Ensures invariant (fun state => ∃ witness, known witness state) program
      post fails := by
  rintro state holds ⟨witness, ready⟩
  exact each witness state holds ready

/-- A precondition that is a fact about the program alone. -/
theorem ensures_assuming
    {fact : Prop}
    (ensures : fact → Ensures invariant pre program post fails) :
    Ensures invariant (fun state => pre state ∧ fact) program post fails :=
  fun state holds ready => ensures ready.2 state holds ready.1

/-- Inside a stronger invariant that the precondition provides. -/
theorem Ensures.strengthen
    {inner : State → Prop}
    (ensures : Ensures inner pre program post fails)
    (implies : ∀ state, inner state → invariant state) :
    Ensures invariant (fun state => inner state ∧ pre state) program
      (fun value state => inner state ∧ post value state)
      fun error state => inner state ∧ fails error state := by
  intro state _ ready
  have ends := ensures state ready.1 ready.2
  revert ends
  rcases program state with ⟨ending, later⟩
  cases ending with
  | returned value => exact fun kept => ⟨implies later kept.1, kept⟩
  | raised error => exact fun kept => ⟨implies later kept.1, kept⟩
  | killed => exact implies later

/-- A stronger invariant that holds at the start holds throughout. -/
theorem Ensures.within
    {inner : State → Prop}
    (ensures : Ensures inner (fun _ => True) program post fails)
    (implies : ∀ state, inner state → invariant state) :
    Ensures invariant inner program
      (fun value state => inner state ∧ post value state) fails :=
  ((ensures.strengthen implies).weakenFails
    fun _ _ _ failed => failed.2).weakenPre fun _ _ holds => ⟨holds, trivial⟩

/-- A program of a stronger invariant that the precondition provides. -/
theorem keeps_inside
    {inner : State → Prop} (ensures : Keeps inner pre program post)
    (implies : ∀ state, inner state → invariant state) :
    Keeps invariant (fun state => inner state ∧ pre state) program post :=
  ((ensures.strengthen implies).weakenPost fun _ _ _ done => done.2).keeps

/-! ## One rule for each construct -/

theorem ensures_pure
    {value : Value}
    (done : ∀ state, invariant state → pre state → post value state) :
    Ensures invariant pre (pure value) post fails :=
  fun state holds ready => ⟨holds, done state holds ready⟩

theorem ensures_bind
    {next : Value → Program State Error Result}
    {after : Result → State → Prop}
    (first : Ensures invariant pre program post fails)
    (second :
      ∀ value, Ensures invariant (post value) (next value) after fails) :
    Ensures invariant pre (program >>= next) after fails := by
  intro state holds ready
  have ends := first state holds ready
  show EndsWell invariant after fails (Program.andThen program next state)
  unfold Program.andThen
  revert ends
  rcases program state with ⟨ending, later⟩
  cases ending with
  | returned value =>
      rintro ⟨kept, done⟩
      exact second value later kept done
  | raised error => exact id
  | killed => exact id

/-- Two programs, by what holds between them. -/
theorem ensures_through
    {next : Value → Program State Error Result}
    {after : Result → State → Prop}
    (between : Value → State → Prop)
    (first : Ensures invariant pre program between fails)
    (second :
      ∀ value, Ensures invariant (between value) (next value) after fails) :
    Ensures invariant pre (program >>= next) after fails :=
  ensures_bind first second

theorem ensures_raise
    {error : Error}
    (failed : ∀ state, invariant state → pre state → fails error state) :
    Ensures invariant pre (Program.raise error) post fails :=
  fun state holds ready => ⟨holds, failed state holds ready⟩

theorem ensures_observe {view : State → Value} :
    Ensures invariant pre (Program.observe view)
      (fun value state => pre state ∧ value = view state) fails :=
  fun _ holds ready => ⟨holds, ready, rfl⟩

theorem ensures_update
    {change : State → State} {after : State → Prop}
    (kept : ∀ state, invariant state → pre state → invariant (change state))
    (done : ∀ state, invariant state → pre state → after (change state)) :
    Ensures invariant pre (Program.update change) (fun _ => after) fails :=
  fun state holds ready => ⟨kept state holds ready, done state holds ready⟩

theorem ensures_ite
    {condition : Prop} [Decidable condition]
    {other : Program State Error Value}
    (whenTrue : condition → Ensures invariant pre program post fails)
    (whenFalse : ¬ condition → Ensures invariant pre other post fails) :
    Ensures invariant pre (if condition then program else other) post
      fails := by
  split_ifs with holds
  · exact whenTrue holds
  · exact whenFalse holds

/-- A handler starts from what the block leaves where it raises. -/
theorem ensures_attempt
    {handler : Error → Program State Error Value}
    {thrown : Error → State → Prop}
    (body : Ensures invariant pre program post thrown)
    (handled :
      ∀ error, Ensures invariant (thrown error) (handler error) post fails) :
    Ensures invariant pre (Program.attempt program handler) post fails := by
  intro state holds ready
  have ends := body state holds ready
  unfold Program.attempt
  revert ends
  rcases program state with ⟨ending, later⟩
  cases ending with
  | returned value => exact id
  | raised error => exact fun kept => handled error later kept.1 kept.2
  | killed => exact id

/-- A block whose errors are caught leaves its postcondition or an error. -/
theorem ensures_caught
    {block : Program State Error Unit} {after : State → Prop}
    {thrown : Error → State → Prop}
    (body : Ensures invariant pre block (fun _ => after) thrown) :
    Ensures invariant pre (Program.caught block)
      (fun error state =>
        match error with
        | none => after state
        | some raised => thrown raised state)
      fails := by
  apply ensures_attempt
  · exact ensures_bind body fun _ => ensures_pure fun _ _ done => done
  · intro error
    exact ensures_pure fun _ _ failed => failed

theorem ensures_refuseWhen
    {condition : State → Bool} {error : Error}
    (failed :
      ∀ state, invariant state → pre state → condition state = true →
        fails error state) :
    Ensures invariant pre (Program.refuseWhen condition error)
      (fun _ state => pre state ∧ condition state = false) fails := by
  intro state holds ready
  unfold Program.refuseWhen
  split_ifs with refused
  · exact ⟨holds, failed state holds ready refused⟩
  · exact ⟨holds, ready, Bool.eq_false_of_not_eq_true refused⟩

theorem keeps_refuseWhen {condition : State → Bool} {error : Error} :
    Keeps invariant pre (Program.refuseWhen condition error)
      fun _ state => pre state ∧ condition state = false :=
  ensures_refuseWhen fun _ _ _ _ => trivial

theorem keeps_lift {computation : Except Error Value} :
    Keeps invariant pre (Program.lift computation) fun value state =>
      pre state ∧ computation = .ok value := by
  cases computation with
  | ok value => exact ensures_pure fun _ _ ready => ⟨ready, rfl⟩
  | error error => exact ensures_raise fun _ _ _ => trivial

/-- A loop whose rounds catch their errors. -/
theorem ensures_caughtEach
    {items : List Item} {body : Item → Program State Error Unit}
    (once :
      ∀ item ∈ items,
        Keeps invariant (fun _ => True) (body item) fun _ _ => True) :
    Ensures invariant (fun _ => True) (Program.caughtEach items body)
      (fun _ _ => True) fails := by
  induction items with
  | nil => exact ensures_pure fun _ _ ready => ready
  | cons item rest induction =>
      rw [List.forall_mem_cons] at once
      refine ensures_bind (ensures_caught once.1).forget fun _ => ?_
      exact
        ensures_bind (induction once.2) fun _ =>
          ensures_pure fun _ _ ready => ready

/-- A step does its effect, or a part of it where it raises. -/
theorem ensures_perform
    {fate : State → Fate Error} {effect : Extent → State → State}
    {after : State → Prop}
    (kept :
      ∀ state extent, invariant state → pre state →
        invariant (effect extent state))
    (done :
      ∀ state, invariant state → pre state → after (effect .whole state))
    (failed :
      ∀ state extent error, invariant state → pre state →
        fate state = .raises extent error →
        fails error (effect extent state)) :
    Ensures invariant pre (perform fate effect) (fun _ => after) fails := by
  intro state holds ready
  unfold perform
  split
  · exact ⟨kept state .whole holds ready, done state holds ready⟩
  · rename_i extent error raised
    exact
      ⟨kept state extent holds ready,
        failed state extent error holds ready raised⟩
  · exact kept state _ holds ready

/-- A step keeps what its effect keeps at every extent. -/
theorem keeps_perform
    {fate : State → Fate Error} {effect : Extent → State → State}
    {after : State → Prop}
    (kept :
      ∀ state extent, invariant state → pre state →
        invariant (effect extent state))
    (done :
      ∀ state, invariant state → pre state → after (effect .whole state)) :
    Keeps invariant pre (perform fate effect) fun _ => after :=
  ensures_perform kept done fun _ _ _ _ _ _ => trivial

/-! ## Two statements about one program -/

/-- What two statements say of a program holds together. -/
theorem Ensures.and
    {ready : State → Prop} {done : Value → State → Prop}
    {thrown : Error → State → Prop}
    (first : Ensures invariant pre program post fails)
    (second : Ensures (fun _ => True) ready program done thrown) :
    Ensures invariant (fun state => pre state ∧ ready state) program
      (fun value state => post value state ∧ done value state)
      fun error state => fails error state ∧ thrown error state := by
  intro state holds before
  have left := first state holds before.1
  have right := second state trivial before.2
  revert left right
  rcases program state with ⟨ending, later⟩
  cases ending with
  | returned value => exact fun left right => ⟨left.1, left.2, right.2⟩
  | raised error => exact fun left right => ⟨left.1, left.2, right.2⟩
  | killed => exact fun left _ => left

/-! ## Frames -/

variable {View : Type} {view : State → View}

/-- A program leaves a view of the state as it is, however it ends. -/
def Leaves (view : State → View) (program : Program State Error Value) :
    Prop :=
  ∀ state, view (program state).2 = view state

/-- What is said of the view alone is an invariant of the program. -/
theorem Leaves.keeps
    (leaves : Leaves view program) (condition : View → Prop) :
    Keeps (fun state => condition (view state)) (fun _ => True) program
      fun _ _ => True := by
  intro state holds _
  have same := leaves state
  revert same
  rcases program state with ⟨ending, later⟩
  intro same
  rw [← same] at holds
  cases ending with
  | returned value => exact ⟨holds, trivial⟩
  | raised error => exact ⟨holds, trivial⟩
  | killed => exact holds

/-- What is said of the view alone still holds after the program. -/
theorem Leaves.ensures
    (leaves : Leaves view program) (condition : View → Prop) :
    Ensures (fun _ => True) (fun state => condition (view state)) program
      (fun _ state => condition (view state))
      fun _ state => condition (view state) :=
  (((leaves.keeps condition).strengthen fun _ _ => trivial).mono
      (fun _ _ holds => ⟨holds, trivial⟩) fun _ _ _ done => done.1).weakenFails
    fun _ _ _ failed => failed.1

/-- A program leaves what depends on the view alone. -/
theorem Leaves.map
    {Other : Type} (leaves : Leaves view program) (part : View → Other) :
    Leaves (fun state => part (view state)) program :=
  fun state => congrArg part (leaves state)

theorem Leaves.bind
    {next : Value → Program State Error Result}
    (first : Leaves view program)
    (second : ∀ value, Leaves view (next value)) :
    Leaves view (program >>= next) := by
  intro state
  have same := first state
  show view (Program.andThen program next state).2 = view state
  unfold Program.andThen
  revert same
  rcases program state with ⟨ending, later⟩
  cases ending with
  | returned value => exact fun same => (second value later).trans same
  | raised error => exact id
  | killed => exact id

theorem leaves_pure {value : Value} :
    Leaves view (pure value : Program State Error Value) :=
  fun _ => rfl

theorem leaves_raise {error : Error} :
    Leaves view (Program.raise error : Program State Error Value) :=
  fun _ => rfl

theorem leaves_observe {seen : State → Value} :
    Leaves view (Program.observe seen : Program State Error Value) :=
  fun _ => rfl

theorem leaves_update
    {change : State → State}
    (same : ∀ state, view (change state) = view state) :
    Leaves view (Program.update change : Program State Error Unit) :=
  same

theorem leaves_refuseWhen {condition : State → Bool} {error : Error} :
    Leaves view (Program.refuseWhen condition error) := by
  intro state
  unfold Program.refuseWhen
  split <;> rfl

theorem leaves_lift {computation : Except Error Value} :
    Leaves view (Program.lift computation : Program State Error Value) := by
  cases computation with
  | ok value => exact leaves_pure
  | error error => exact leaves_raise

theorem leaves_ite
    {condition : Prop} [Decidable condition]
    {other : Program State Error Value} (whenTrue : Leaves view program)
    (whenFalse : Leaves view other) :
    Leaves view (if condition then program else other) := by
  split_ifs with holds
  · exact whenTrue
  · exact whenFalse

theorem leaves_perform
    {fate : State → Fate Error} {effect : Extent → State → State}
    (same : ∀ extent state, view (effect extent state) = view state) :
    Leaves view (perform fate effect) := by
  intro state
  unfold perform
  split
  · exact same _ state
  · exact same _ state
  · exact same _ state

theorem Leaves.attempt
    {handler : Error → Program State Error Value}
    (body : Leaves view program)
    (handled : ∀ error, Leaves view (handler error)) :
    Leaves view (Program.attempt program handler) := by
  intro state
  have same := body state
  unfold Program.attempt
  revert same
  rcases program state with ⟨ending, later⟩
  cases ending with
  | returned value => exact id
  | raised error => exact fun same => (handled error later).trans same
  | killed => exact id

theorem Leaves.caught
    {block : Program State Error Unit} (body : Leaves view block) :
    Leaves view (Program.caught block) :=
  (body.bind fun _ => leaves_pure).attempt fun _ => leaves_pure

end KairosDeploy.Library.FaultyProgram
