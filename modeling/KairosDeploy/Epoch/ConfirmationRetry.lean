import Mathlib

/-!
# Retrying an unpublished confirmation

The recovery of a symbol fetches its first page twice and compares the two
before anything is appended.  When the exchange has changed rows in between,
`recover_with_confirmation_retries` lets the recovery start again.  It keeps
the last two fetches of each attempt and asks them, and the status that the
recovery reports, whether nothing but unpublished rows can have changed.

Neither the recovery library nor the fetch function is fixed: an attempt is
any sequence of fetches and appends with any end.
-/

namespace KairosDeploy.Epoch.ConfirmationRetry

/-- `MINUTE`, in milliseconds. -/
def minute : Int := 60000

/-- `RECOVERY_PAGE_SIZE`. -/
def recoveryPageSize : Int := 200

/-- `MAX_UNPUBLISHED_CONFIRMATION_RETRIES`. -/
def maxUnpublishedConfirmationRetries : Nat := 2

/-! ## Pages -/

/-- What was asked of `fetch`. -/
structure Request where
  symbol : String
  start : Int
  finish : Int
deriving DecidableEq, Repr

section Pages

variable {Raw Bar : Type}

/-- A request with the page that answered it. -/
structure Observation (Raw : Type) where
  request : Request
  raw : Raw

/-- `canonical_bar_bytes` and `parse_page`, absent where they raise. -/
structure Recovery (Raw Bar : Type) where
  canonicalBarBytes : Bar → Option (List UInt8)
  parsePage : Raw → Request → Option (List Bar)

/-- The last two fetches of an attempt, as `observed_fetch` keeps them. -/
def observe (observations : List (Observation Raw))
    (observation : Observation Raw) : List (Observation Raw) :=
  let appended := observations ++ [observation]
  if appended.length > 2 then appended.drop 1 else appended

/-- The comparison of two parsed pages; absent where a bar has no bytes. -/
def mutableRowsDiffer
    (recovery : Recovery Raw Bar) (anchor : Bar) (first second : List Bar) :
    Option Bool :=
  match first, second with
  | firstHead :: firstRest, secondHead :: secondRest => do
      let anchorBytes ← recovery.canonicalBarBytes anchor
      let firstBytes ← recovery.canonicalBarBytes firstHead
      let secondBytes ← recovery.canonicalBarBytes secondHead
      if firstBytes ≠ anchorBytes ∨ secondBytes ≠ anchorBytes then
        return false
      else
        let firstRows ← firstRest.mapM recovery.canonicalBarBytes
        let secondRows ← secondRest.mapM recovery.canonicalBarBytes
        return decide (firstRows ≠ secondRows)
  | _, _ => none

/-- `safe_unpublished_confirmation`. -/
def safeUnpublishedConfirmation
    (recovery : Recovery Raw Bar) (symbol : String) (anchor : Bar)
    (anchorOpenTime endExclusive : Int)
    (observations : List (Observation Raw)) : Bool :=
  match observations with
  | [first, second] =>
      if first.request ≠ second.request ∨ first.request.symbol ≠ symbol ∨
          first.request.start ≠ anchorOpenTime ∨
          first.request.finish ≠
            min endExclusive
              (first.request.start + recoveryPageSize * minute) then
        false
      else
        -- any exception in here means that no retry is authorized
        (do
          let firstPage ← recovery.parsePage first.raw first.request
          let secondPage ← recovery.parsePage second.raw second.request
          if firstPage.length < 2 ∨
              firstPage.length ≠ secondPage.length then
            return false
          else
            mutableRowsDiffer recovery anchor firstPage secondPage).getD
          false
  | _ => false

end Pages

/-! ## Attempts -/

section Attempts

variable {Raw Bar Count : Type}

/-- The exceptions that the handler tells apart. -/
inductive PyException
  | cancelled (identity : Nat)
  | recoveryError (identity : Nat)
  | other (identity : Nat)
deriving DecidableEq, Repr

/-- What `recover_symbol` does through its callbacks. -/
inductive Event (Raw Bar : Type)
  | fetched (observation : Observation Raw)
  | appended (bar : Bar)

/-- How a call of `recover_symbol` ends. -/
inductive Ending (Count : Type)
  | returned (count : Count)
  | raised (error : PyException)

/--
One call of `recover_symbol` with the status that it leaves, where an absent
attribute of the status is absent.
-/
structure Attempt (Raw Bar Count : Type) where
  events : List (Event Raw Bar)
  phase : Option String
  totalAppendedBars : Option Int
  ending : Ending Count

/-- The pages that an attempt fetched. -/
def Attempt.fetches (attempt : Attempt Raw Bar Count) :
    List (Observation Raw) :=
  attempt.events.filterMap fun event =>
    match event with
    | .fetched observation => some observation
    | .appended _ => none

/-- The bars that an attempt appended. -/
def Attempt.appended (attempt : Attempt Raw Bar Count) : List Bar :=
  attempt.events.filterMap fun event =>
    match event with
    | .fetched _ => none
    | .appended bar => some bar

/-- The observations at the end of an attempt; each attempt has its own. -/
def Attempt.observations (attempt : Attempt Raw Bar Count) :
    List (Observation Raw) :=
  attempt.fetches.foldl observe []

/--
The recovery of one symbol: its anchor, the attempts it makes when it is
restarted, and whether the status can be written before each restart.
-/
structure Symbol (Raw Bar Count : Type) where
  recovery : Recovery Raw Bar
  symbol : String
  anchor : Bar
  anchorOpenTime : Int
  endExclusive : Int
  attempt : Nat → Attempt Raw Bar Count
  writeStatus : Nat → Option PyException

/-- The handler's condition for another attempt. -/
def mayRestart (symbol : Symbol Raw Bar Count) (deferred : Nat)
    (attempt : Attempt Raw Bar Count) (error : PyException) : Bool :=
  match error with
  | .recoveryError _ =>
      decide (deferred < maxUnpublishedConfirmationRetries) &&
        decide (attempt.phase = some "CONFIRMATION_COMPARE") &&
        decide (attempt.totalAppendedBars = some 0) &&
        safeUnpublishedConfirmation symbol.recovery symbol.symbol
          symbol.anchor symbol.anchorOpenTime symbol.endExclusive
          attempt.observations
  | .cancelled _ | .other _ => false

/-- The attempts that were made and how the last one ended. -/
structure Run (Raw Bar Count : Type) where
  attempts : List (Attempt Raw Bar Count)
  ending : Ending Count

theorem lt_of_mayRestart
    {symbol : Symbol Raw Bar Count} {deferred : Nat}
    {attempt : Attempt Raw Bar Count} {error : PyException}
    (restarts : mayRestart symbol deferred attempt error = true) :
    deferred < maxUnpublishedConfirmationRetries := by
  cases error with
  | recoveryError identity =>
      simp only [mayRestart, Bool.and_eq_true, decide_eq_true_eq] at restarts
      exact restarts.1.1.1
  | cancelled identity => cases restarts
  | other identity => cases restarts

/-- `recover_with_confirmation_retries` after some deferred rounds. -/
def recoverFrom (symbol : Symbol Raw Bar Count) (deferred : Nat) :
    Run Raw Bar Count :=
  let attempt := symbol.attempt deferred
  match attempt.ending with
  | .returned count => ⟨[attempt], .returned count⟩
  | .raised error =>
      if _restarts : mayRestart symbol deferred attempt error then
        match symbol.writeStatus deferred with
        | some failure => ⟨[attempt], .raised failure⟩
        | none =>
            let run := recoverFrom symbol (deferred + 1)
            { run with attempts := attempt :: run.attempts }
      else
        ⟨[attempt], .raised error⟩
termination_by maxUnpublishedConfirmationRetries - deferred
decreasing_by
  have bounded := lt_of_mayRestart ‹_›
  omega

/-- `recover_with_confirmation_retries`. -/
def recoverWithConfirmationRetries (symbol : Symbol Raw Bar Count) :
    Run Raw Bar Count :=
  recoverFrom symbol 0

/-! ## What authorizes a restart -/

/-- The last two fetches of an attempt prove that unpublished rows changed. -/
structure SafeEvidence (symbol : Symbol Raw Bar Count)
    (first second : Observation Raw) : Prop where
  same : second.request = first.request
  ownSymbol : first.request.symbol = symbol.symbol
  start : first.request.start = symbol.anchorOpenTime
  finish : first.request.finish =
    min symbol.endExclusive
      (symbol.anchorOpenTime + recoveryPageSize * minute)
  rows : ∃ firstPage secondPage anchorBytes firstRows secondRows,
    symbol.recovery.parsePage first.raw first.request = some firstPage ∧
      symbol.recovery.parsePage second.raw first.request =
        some secondPage ∧
      2 ≤ firstPage.length ∧ secondPage.length = firstPage.length ∧
      symbol.recovery.canonicalBarBytes symbol.anchor =
        some anchorBytes ∧
      firstPage.mapM symbol.recovery.canonicalBarBytes =
        some (anchorBytes :: firstRows) ∧
      secondPage.mapM symbol.recovery.canonicalBarBytes =
        some (anchorBytes :: secondRows) ∧
      firstRows ≠ secondRows

/-- An attempt after which the recovery may start again. -/
structure RestartedSafely (symbol : Symbol Raw Bar Count)
    (attempt : Attempt Raw Bar Count) : Prop where
  failed : ∃ identity, attempt.ending = .raised (.recoveryError identity)
  unpublished : attempt.totalAppendedBars = some 0
  evidence : ∃ earlier first second,
    attempt.fetches = earlier ++ [first, second] ∧
      SafeEvidence symbol first second

/-- The observations are the last two fetches. -/
theorem foldl_observe
    (kept fetches : List (Observation Raw)) (few : kept.length ≤ 2) :
    ∃ earlier,
      kept ++ fetches = earlier ++ fetches.foldl observe kept ∧
        (fetches.foldl observe kept).length ≤ 2 := by
  induction fetches generalizing kept with
  | nil => exact ⟨[], by simp, few⟩
  | cons fetch fetches induction =>
      rw [List.foldl_cons, observe]
      split
      · rename_i full
        have fewer : ((kept ++ [fetch]).drop 1).length ≤ 2 := by
          rw [List.length_drop, List.length_append, List.length_singleton]
          omega
        rcases induction _ fewer with ⟨earlier, shape, bounded⟩
        refine ⟨(kept ++ [fetch]).take 1 ++ earlier, ?_, bounded⟩
        rw [List.append_assoc, ← shape, ← List.append_assoc,
          List.take_append_drop, List.append_assoc, List.singleton_append]
      · rename_i room
        rcases induction _ (not_lt.1 room) with ⟨earlier, shape, bounded⟩
        refine ⟨earlier, ?_, bounded⟩
        rw [← shape, List.append_assoc, List.singleton_append]

theorem mutableRowsDiffer_eq_some_true
    {recovery : Recovery Raw Bar} {anchor : Bar} {first second : List Bar}
    (differ : mutableRowsDiffer recovery anchor first second = some true) :
    ∃ anchorBytes firstRows secondRows,
      recovery.canonicalBarBytes anchor = some anchorBytes ∧
        first.mapM recovery.canonicalBarBytes =
          some (anchorBytes :: firstRows) ∧
        second.mapM recovery.canonicalBarBytes =
          some (anchorBytes :: secondRows) ∧
        firstRows ≠ secondRows := by
  unfold mutableRowsDiffer at differ
  split at differ
  · rename_i firstHead firstRest secondHead secondRest
    simp only [Option.bind_eq_bind, Option.bind_eq_some_iff] at differ
    rcases differ with
      ⟨anchorBytes, anchorRead, firstBytes, firstRead, secondBytes,
        secondRead, differ⟩
    split at differ
    · cases differ
    · rename_i same
      rw [not_or, not_not, not_not] at same
      rcases same with ⟨rfl, rfl⟩
      simp only [Option.bind_eq_some_iff, Option.pure_def,
        Option.some.injEq, decide_eq_true_eq] at differ
      rcases differ with
        ⟨firstRows, firstMapped, secondRows, secondMapped, unequal⟩
      refine ⟨_, firstRows, secondRows, anchorRead, ?_, ?_, unequal⟩
      · simp [List.mapM_cons, firstRead, firstMapped]
      · simp [List.mapM_cons, secondRead, secondMapped]
  · cases differ

theorem safeEvidence_of_safe
    {symbol : Symbol Raw Bar Count}
    {observations : List (Observation Raw)}
    (safe :
      safeUnpublishedConfirmation symbol.recovery symbol.symbol
        symbol.anchor symbol.anchorOpenTime symbol.endExclusive
        observations = true) :
    ∃ first second, observations = [first, second] ∧
      SafeEvidence symbol first second := by
  unfold safeUnpublishedConfirmation at safe
  split at safe
  · rename_i first second
    split at safe
    · cases safe
    · rename_i requests
      simp only [not_or, not_not] at requests
      rcases requests with ⟨same, ownSymbol, start, finish⟩
      rw [Option.getD_eq_iff] at safe
      rcases safe with safe | ⟨_, impossible⟩
      · simp only [Option.bind_eq_bind, Option.bind_eq_some_iff] at safe
        rcases safe with
          ⟨firstPage, firstParsed, secondPage, secondParsed, safe⟩
        split at safe
        · cases safe
        · rename_i sizes
          rw [not_or, not_lt, not_not] at sizes
          rcases mutableRowsDiffer_eq_some_true safe with
            ⟨anchorBytes, firstRows, secondRows, anchorRead, firstRead,
              secondRead, unequal⟩
          refine
            ⟨first, second, rfl, same.symm, ownSymbol, start, ?_, firstPage,
              secondPage, anchorBytes, firstRows, secondRows, firstParsed,
              ?_, sizes.1, sizes.2.symm, anchorRead, firstRead, secondRead,
              unequal⟩
          · rw [finish, start]
          · rw [same]
            exact secondParsed
      · cases impossible
  · cases safe

theorem restartedSafely_of_mayRestart
    {symbol : Symbol Raw Bar Count} {deferred : Nat}
    {attempt : Attempt Raw Bar Count} {error : PyException}
    (ending : attempt.ending = .raised error)
    (restarts : mayRestart symbol deferred attempt error = true) :
    RestartedSafely symbol attempt := by
  cases error with
  | recoveryError identity =>
      simp only [mayRestart, Bool.and_eq_true, decide_eq_true_eq] at restarts
      rcases restarts with ⟨⟨_, unpublished⟩, safe⟩
      rcases safeEvidence_of_safe safe with ⟨first, second, pair, evidence⟩
      rcases foldl_observe [] attempt.fetches (by simp) with
        ⟨earlier, shape, _⟩
      refine ⟨⟨identity, ending⟩, unpublished, earlier, first, second, ?_,
        evidence⟩
      rw [← pair]
      exact shape
  | cancelled identity => cases restarts
  | other identity => cases restarts

/-! ## The whole retry -/

/-- How a run that starts after some deferred rounds went. -/
structure Faithful (symbol : Symbol Raw Bar Count) (deferred : Nat)
    (run : Run Raw Bar Count) (last : Nat) : Prop where
  started : deferred ≤ last
  bounded : last ≤ max deferred maxUnpublishedConfirmationRetries
  attempts : run.attempts =
    (List.range' deferred (last + 1 - deferred)).map symbol.attempt
  restarted : ∀ index, deferred ≤ index → index < last →
    RestartedSafely symbol (symbol.attempt index)
  ended : run.ending = (symbol.attempt last).ending ∨
    RestartedSafely symbol (symbol.attempt last) ∧
      ∃ failure, symbol.writeStatus last = some failure ∧
        run.ending = .raised failure

/-- A run of one attempt. -/
theorem Faithful.single
    {symbol : Symbol Raw Bar Count} {deferred : Nat}
    {ending : Ending Count}
    (ended : ending = (symbol.attempt deferred).ending ∨
      RestartedSafely symbol (symbol.attempt deferred) ∧
        ∃ failure, symbol.writeStatus deferred = some failure ∧
          ending = .raised failure) :
    Faithful symbol deferred ⟨[symbol.attempt deferred], ending⟩ deferred
    where
  started := le_rfl
  bounded := le_max_left _ _
  attempts := by
    rw [Nat.add_sub_cancel_left]
    rfl
  restarted := fun index from_ before => absurd before (not_lt.2 from_)
  ended := ended

/-- One more attempt before a run that was faithful. -/
theorem Faithful.cons
    {symbol : Symbol Raw Bar Count} {deferred last : Nat}
    {run : Run Raw Bar Count}
    (early : deferred < maxUnpublishedConfirmationRetries)
    (safe : RestartedSafely symbol (symbol.attempt deferred))
    (faithful : Faithful symbol (deferred + 1) run last) :
    Faithful symbol deferred
      { run with attempts := symbol.attempt deferred :: run.attempts }
      last where
  started := le_trans (Nat.le_succ _) faithful.started
  bounded := by
    have bounded := faithful.bounded
    rw [max_eq_right (by omega)] at bounded
    exact le_trans bounded (le_max_right _ _)
  attempts := by
    have started := faithful.started
    have count : last + 1 - deferred = last + 1 - (deferred + 1) + 1 := by
      omega
    rw [count, List.range'_succ, List.map_cons, ← faithful.attempts]
  restarted := by
    intro index from_ before
    rcases Nat.eq_or_lt_of_le from_ with rfl | later
    · exact safe
    · exact faithful.restarted index later before
  ended := faithful.ended

theorem recoverFrom_faithful
    (symbol : Symbol Raw Bar Count) (deferred : Nat) :
    ∃ last, Faithful symbol deferred (recoverFrom symbol deferred) last := by
  induction deferred using recoverFrom.induct symbol with
  | case1 deferred attempt count ending =>
      refine ⟨deferred, ?_⟩
      have ended : (symbol.attempt deferred).ending = .returned count :=
        ending
      rw [recoverFrom]
      simp only [ended]
      exact .single (Or.inl ended.symm)
  | case2 deferred attempt error ending restarts failure failed =>
      refine ⟨deferred, ?_⟩
      have ended : (symbol.attempt deferred).ending = .raised error := ending
      have safe := restartedSafely_of_mayRestart ended restarts
      rw [recoverFrom]
      simp only [ended]
      rw [dif_pos restarts, failed]
      exact .single (Or.inr ⟨safe, failure, failed, rfl⟩)
  | case3 deferred attempt error ending restarts written induction =>
      have ended : (symbol.attempt deferred).ending = .raised error := ending
      have safe := restartedSafely_of_mayRestart ended restarts
      rcases induction with ⟨last, faithful⟩
      refine ⟨last, ?_⟩
      rw [recoverFrom]
      simp only [ended]
      rw [dif_pos restarts, written]
      exact faithful.cons (lt_of_mayRestart restarts) safe
  | case4 deferred attempt error ending refused =>
      refine ⟨deferred, ?_⟩
      have ended : (symbol.attempt deferred).ending = .raised error := ending
      rw [recoverFrom]
      simp only [ended]
      rw [dif_neg refused]
      exact .single (Or.inl ended.symm)

/--
At most two restarts happen, each after an attempt that appended nothing and
whose last two fetches prove that only unpublished rows changed; in every
other case the end of the last attempt is the end of the whole, unless the
status of a restart could not be written.  So all bars that are appended are
those of the last attempt.
-/
def RetriesSafely (symbol : Symbol Raw Bar Count) : Prop :=
  ∃ last ≤ maxUnpublishedConfirmationRetries,
    (recoverWithConfirmationRetries symbol).attempts =
        (List.range (last + 1)).map symbol.attempt ∧
      (∀ index < last,
        RestartedSafely symbol (symbol.attempt index) ∧
          (symbol.attempt index).appended = []) ∧
      ((recoverWithConfirmationRetries symbol).ending =
          (symbol.attempt last).ending ∨
        RestartedSafely symbol (symbol.attempt last) ∧
          ∃ failure, symbol.writeStatus last = some failure ∧
            (recoverWithConfirmationRetries symbol).ending =
              .raised failure) ∧
      (recoverWithConfirmationRetries symbol).attempts.flatMap
          Attempt.appended =
        (symbol.attempt last).appended

/-- A status that counts no bar is the status of an attempt without any. -/
def Truthful (symbol : Symbol Raw Bar Count) : Prop :=
  ∀ index, (symbol.attempt index).totalAppendedBars = some 0 →
    (symbol.attempt index).appended = []

/-- A restart touches no published data. -/
theorem recoverWithConfirmationRetries_safe
    {symbol : Symbol Raw Bar Count} (truthful : Truthful symbol) :
    RetriesSafely symbol := by
  rcases recoverFrom_faithful symbol 0 with ⟨last, faithful⟩
  have quiet :
      ∀ index < last,
        RestartedSafely symbol (symbol.attempt index) ∧
          (symbol.attempt index).appended = [] := by
    intro index before
    have safe := faithful.restarted index (Nat.zero_le _) before
    exact ⟨safe, truthful index safe.unpublished⟩
  have attempts :
      (recoverWithConfirmationRetries symbol).attempts =
        (List.range (last + 1)).map symbol.attempt := by
    rw [recoverWithConfirmationRetries, faithful.attempts,
      List.range_eq_range', Nat.sub_zero]
  refine ⟨last, by simpa using faithful.bounded, attempts, quiet,
    faithful.ended, ?_⟩
  have nothing :
      ((List.range last).map symbol.attempt).flatMap Attempt.appended =
        [] := by
    rw [List.flatMap_eq_nil_iff]
    intro attempt member
    rcases List.mem_map.1 member with ⟨index, inside, rfl⟩
    exact (quiet index (List.mem_range.1 inside)).2
  rw [attempts, List.range_succ, List.map_append, List.flatMap_append,
    nothing, List.nil_append, List.map_singleton, List.flatMap_singleton]

end Attempts

/-- A first page of two rows, the second of which the exchange changes. -/
def changedRow : Symbol (List UInt8) UInt8 Nat where
  recovery :=
    { canonicalBarBytes := fun bar => some [bar]
      parsePage := fun raw _ => some raw }
  symbol := "BTCUSDT"
  anchor := 1
  anchorOpenTime := 0
  endExclusive := 120000
  attempt := fun index =>
    if index = 0 then
      { events :=
          [.fetched ⟨⟨"BTCUSDT", 0, 120000⟩, [1, 2]⟩,
            .fetched ⟨⟨"BTCUSDT", 0, 120000⟩, [1, 3]⟩]
        phase := some "CONFIRMATION_COMPARE"
        totalAppendedBars := some 0
        ending := .raised (.recoveryError 0) }
    else
      { events :=
          [.fetched ⟨⟨"BTCUSDT", 0, 120000⟩, [1, 3]⟩,
            .fetched ⟨⟨"BTCUSDT", 0, 120000⟩, [1, 3]⟩, .appended 3]
        phase := some "COMPLETE"
        totalAppendedBars := some 1
        ending := .returned 1 }
  writeStatus := fun _ => none

theorem recoverWithConfirmationRetries_safe_changedRow :
    mayRestart changedRow 0 (changedRow.attempt 0) (.recoveryError 0) =
        true ∧
      RetriesSafely changedRow := by
  refine ⟨by decide, recoverWithConfirmationRetries_safe ?_⟩
  intro index counted
  by_cases first : index = 0
  · simp [changedRow, first, Attempt.appended]
  · simp [changedRow, first] at counted

end KairosDeploy.Epoch.ConfirmationRetry
