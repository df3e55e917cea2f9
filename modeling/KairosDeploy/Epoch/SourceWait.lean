import Mathlib

/-!
# Waiting for a source without hiding another failure

The tasks of a recovery fail together as a tree of exception groups.
`recover` flattens the tree with a stack and raises either the whole group or
its first leaf; `SourceCircuit.failed` classifies what arrives recursively and
turns an admitted reason into a wait.  The two classifications agree on every
tree: a wait means that every leaf admits the same reason, and what is raised
otherwise is the group or a leaf that admits none.
-/

namespace KairosDeploy.Epoch.SourceWait

/-! ## Exceptions -/

/-- The transport failures that can defer. -/
inductive WaitReason
  | fetchTimeout
  | fetchDnsFailure
deriving DecidableEq, Repr

/-- The code of a reason. -/
def WaitReason.code : WaitReason → String
  | .fetchTimeout => "OFFICIAL_CLOSED_BAR_FETCH_TIMEOUT"
  | .fetchDnsFailure => "OFFICIAL_CLOSED_BAR_FETCH_DNS_FAILURE"

/-- An exception that is no group: which one, its class and its text. -/
structure Leaf where
  identity : Nat
  isEpochError : Bool
  text : String
deriving DecidableEq, Repr

/-- An exception.  An `ExceptionGroup` always holds at least one. -/
inductive PyException
  | leaf (error : Leaf)
  | group (first : PyException) (others : List PyException)

/-- `source_wait_reason` of an exception that is no group. -/
def leafReason (error : Leaf) : Option WaitReason :=
  if error.isEpochError ∧ error.text = WaitReason.fetchTimeout.code then
    some .fetchTimeout
  else if
      error.isEpochError ∧ error.text = WaitReason.fetchDnsFailure.code then
    some .fetchDnsFailure
  else
    none

mutual

/-- `source_wait_reason`. -/
def sourceWaitReason : PyException → Option WaitReason
  | .leaf error => leafReason error
  | .group first others =>
      match sourceWaitReason first with
      | none => none
      | some reason =>
          if allWaitFor reason others then some reason else none

/-- `all(reason == reasons[0] for reason in reasons)`. -/
def allWaitFor (reason : WaitReason) : List PyException → Bool
  | [] => true
  | error :: errors =>
      decide (sourceWaitReason error = some reason) &&
        allWaitFor reason errors

end

/-! ## The circuit -/

/-- The counters of a `SourceCircuit`. -/
@[ext]
structure SourceCircuit where
  timeouts : Nat
  dnsFailures : Nat
  recoveries : Nat
  consecutive : Nat
  consecutiveTimeouts : Nat
  consecutiveDnsFailures : Nat
deriving DecidableEq, Repr

/-- The counters after one more failure for a reason. -/
def SourceCircuit.counted (circuit : SourceCircuit) :
    WaitReason → SourceCircuit
  | .fetchDnsFailure =>
      { circuit with
        consecutive := circuit.consecutive + 1
        dnsFailures := circuit.dnsFailures + 1
        consecutiveDnsFailures := circuit.consecutiveDnsFailures + 1
        consecutiveTimeouts := 0 }
  | .fetchTimeout =>
      { circuit with
        consecutive := circuit.consecutive + 1
        timeouts := circuit.timeouts + 1
        consecutiveTimeouts := circuit.consecutiveTimeouts + 1
        consecutiveDnsFailures := 0 }

/-- `SourceCircuit.failed`: what it raises or returns, and the counters. -/
def SourceCircuit.failed (circuit : SourceCircuit) (error : PyException) :
    Except PyException WaitReason × SourceCircuit :=
  match sourceWaitReason error with
  | none => (.error error, circuit)
  | some reason => (.ok reason, circuit.counted reason)

/-- `SourceCircuit()`. -/
def SourceCircuit.start : SourceCircuit where
  timeouts := 0
  dnsFailures := 0
  recoveries := 0
  consecutive := 0
  consecutiveTimeouts := 0
  consecutiveDnsFailures := 0

/-- `SourceCircuit.succeeded`. -/
def SourceCircuit.succeeded (circuit : SourceCircuit) : SourceCircuit :=
  { circuit with
    recoveries :=
      if circuit.consecutive ≠ 0 then circuit.recoveries + 1
      else circuit.recoveries
    consecutive := 0
    consecutiveTimeouts := 0
    consecutiveDnsFailures := 0 }

/-! ## Flattening -/

mutual

/-- The number of exceptions in a tree. -/
def PyException.size : PyException → Nat
  | .leaf _ => 1
  | .group first others => 1 + first.size + sizes others

/-- The number of exceptions in some trees. -/
def sizes : List PyException → Nat
  | [] => 0
  | error :: errors => error.size + sizes errors

end

theorem sizes_append (front back : List PyException) :
    sizes (front ++ back) = sizes front + sizes back := by
  induction front with
  | nil => simp [sizes]
  | cons error front induction =>
      rw [List.cons_append, sizes, sizes, induction, Nat.add_assoc]

theorem sizes_reverse (errors : List PyException) :
    sizes errors.reverse = sizes errors := by
  induction errors with
  | nil => rfl
  | cons error errors induction =>
      rw [List.reverse_cons, sizes_append, induction, sizes, sizes, sizes]
      omega

/--
The loop of `recover` that flattens a tree.  The top of `pending_errors` is
the head of the list, so that `extend` puts the last child on top.
-/
def flatten (leaves : List Leaf) : List PyException → List Leaf
  | [] => leaves
  | .leaf error :: pending => flatten (leaves ++ [error]) pending
  | .group first others :: pending =>
      flatten leaves ((first :: others).reverse ++ pending)
termination_by pending => sizes pending
decreasing_by
  · rw [sizes, PyException.size]
    omega
  · rw [sizes_append, sizes_reverse, sizes, sizes, PyException.size]
    omega

/-- `while isinstance(original, ExceptionGroup)`. -/
def firstLeaf : PyException → Leaf
  | .leaf error => error
  | .group first _ => firstLeaf first

/-- What the handler of `recover` raises for a group. -/
def reraised (errors : PyException) : PyException :=
  let leafReasons := (flatten [] [errors]).map leafReason
  let admittedReasons := leafReasons.reduceOption.dedup
  if admittedReasons ≠ [] ∧
      (none ∈ leafReasons ∨ admittedReasons.length ≠ 1) then
    errors
  else
    .leaf (firstLeaf errors)

/-! ## The leaves of a tree -/

/-- An exception that is a leaf of another one. -/
inductive IsLeaf (error : Leaf) : PyException → Prop
  | leaf : IsLeaf error (.leaf error)
  | group {first child : PyException} {others : List PyException}
      (member : child ∈ first :: others) (inside : IsLeaf error child) :
      IsLeaf error (.group first others)

/-- The loop collects the leaves of all that is pending. -/
theorem mem_flatten_iff
    (leaves : List Leaf) (pending : List PyException) (error : Leaf) :
    error ∈ flatten leaves pending ↔
      error ∈ leaves ∨ ∃ tree ∈ pending, IsLeaf error tree := by
  induction leaves, pending using flatten.induct with
  | case1 leaves => simp [flatten]
  | case2 leaves front pending induction =>
      have here : IsLeaf error (.leaf front) ↔ error = front := by
        constructor
        · rintro ⟨⟩
          rfl
        · rintro rfl
          exact .leaf
      rw [flatten, induction, List.mem_append, List.mem_singleton, or_assoc]
      simp [here]
  | case3 leaves first others pending induction =>
      have here :
          IsLeaf error (.group first others) ↔
            ∃ tree ∈ first :: others, IsLeaf error tree := by
        constructor
        · rintro (_ | ⟨member, inside⟩)
          exact ⟨_, member, inside⟩
        · rintro ⟨tree, member, inside⟩
          exact .group member inside
      rw [flatten, induction]
      simp only [List.mem_append, List.mem_reverse, or_and_right, exists_or,
        List.mem_cons, exists_eq_left, here]

theorem mem_leaves_iff (tree : PyException) (error : Leaf) :
    error ∈ flatten [] [tree] ↔ IsLeaf error tree := by
  rw [mem_flatten_iff]
  simp

theorem firstLeaf_isLeaf (tree : PyException) :
    IsLeaf (firstLeaf tree) tree := by
  induction tree using firstLeaf.induct with
  | case1 error => exact .leaf
  | case2 first others induction =>
      exact .group List.mem_cons_self induction

mutual

/-- The recursive classification asks every leaf for the same reason. -/
theorem sourceWaitReason_eq_some_iff
    (tree : PyException) (reason : WaitReason) :
    sourceWaitReason tree = some reason ↔
      ∀ error, IsLeaf error tree → leafReason error = some reason := by
  cases tree with
  | leaf error =>
      rw [sourceWaitReason]
      constructor
      · rintro admitted _ ⟨⟩
        exact admitted
      · intro each
        exact each error .leaf
  | group first others =>
      have heads := sourceWaitReason_eq_some_iff first
      have tails := allWaitFor_iff others
      rw [sourceWaitReason]
      constructor
      · intro admitted
        cases found : sourceWaitReason first with
        | none => simp [found] at admitted
        | some head =>
            simp only [found, Option.ite_none_right_eq_some,
              Option.some.injEq] at admitted
            rcases admitted with ⟨others, rfl⟩
            rintro error (_ | ⟨member, inside⟩)
            rcases List.mem_cons.1 member with rfl | later
            · exact (heads head).1 found error inside
            · exact (tails head).1 others _ later error inside
      · intro each
        have found : sourceWaitReason first = some reason :=
          (heads reason).2 fun error inside =>
            each error (.group List.mem_cons_self inside)
        have rest : allWaitFor reason others = true :=
          (tails reason).2 fun tree later error inside =>
            each error (.group (List.mem_cons_of_mem _ later) inside)
        simp [found, rest]

theorem allWaitFor_iff
    (errors : List PyException) (reason : WaitReason) :
    allWaitFor reason errors = true ↔
      ∀ tree ∈ errors, ∀ error, IsLeaf error tree →
        leafReason error = some reason := by
  cases errors with
  | nil => simp [allWaitFor]
  | cons tree errors =>
      rw [allWaitFor, Bool.and_eq_true, decide_eq_true_eq,
        sourceWaitReason_eq_some_iff tree reason,
        allWaitFor_iff errors reason, List.forall_mem_cons]

end

/-! ## Both classifications agree -/

/-- A list has one distinct member when all its members are equal. -/
theorem length_dedup_eq_one_iff (reasons : List WaitReason) :
    reasons.dedup.length = 1 ↔
      ∃ reason ∈ reasons, ∀ other ∈ reasons, other = reason := by
  constructor
  · intro single
    rcases List.length_eq_one_iff.1 single with ⟨reason, only⟩
    have members : ∀ other, other ∈ reasons ↔ other = reason := by
      intro other
      rw [← List.mem_dedup, only, List.mem_singleton]
    exact ⟨reason, (members _).2 rfl, fun other => (members other).1⟩
  · rintro ⟨reason, member, equal⟩
    have same : reasons.dedup.Perm [reason] := by
      rw [List.perm_ext_iff_of_nodup (List.nodup_dedup _)
        (List.nodup_singleton _)]
      intro other
      rw [List.mem_dedup, List.mem_singleton]
      constructor
      · exact equal other
      · rintro rfl
        exact member
    rw [same.length_eq, List.length_singleton]

theorem mem_leafReasons_iff
    (tree : PyException) (found : Option WaitReason) :
    found ∈ (flatten [] [tree]).map leafReason ↔
      ∃ error, IsLeaf error tree ∧ leafReason error = found := by
  simp [mem_leaves_iff]

/-- The first leaf is raised alone when all leaves admit one reason. -/
theorem reraised_of_agreed
    {tree : PyException} {reason : WaitReason}
    (agreed : ∀ error, IsLeaf error tree → leafReason error = some reason) :
    reraised tree = .leaf (firstLeaf tree) := by
  have first := firstLeaf_isLeaf tree
  have noneMissing : none ∉ (flatten [] [tree]).map leafReason := by
    rw [mem_leafReasons_iff]
    rintro ⟨error, inside, missing⟩
    rw [agreed error inside] at missing
    cases missing
  have single :
      ((flatten [] [tree]).map leafReason).reduceOption.dedup.length = 1 := by
    rw [length_dedup_eq_one_iff]
    simp only [List.reduceOption_mem_iff, mem_leafReasons_iff]
    refine ⟨reason, ⟨_, first, agreed _ first⟩, ?_⟩
    rintro other ⟨error, inside, found⟩
    rw [agreed error inside, Option.some.injEq] at found
    exact found.symm
  rw [reraised, if_neg]
  rintro ⟨_, missing | several⟩
  · exact noneMissing missing
  · exact several single

/-- A wait for the first leaf never hides a leaf that does not agree. -/
theorem reraised_of_disagreed
    {tree : PyException} {reason : WaitReason}
    (admitted : leafReason (firstLeaf tree) = some reason)
    (disagreed :
      ¬ ∀ error, IsLeaf error tree → leafReason error = some reason) :
    reraised tree = tree := by
  have first := firstLeaf_isLeaf tree
  push Not at disagreed
  rcases disagreed with ⟨error, inside, different⟩
  have present :
      reason ∈ ((flatten [] [tree]).map leafReason).reduceOption := by
    rw [List.reduceOption_mem_iff, mem_leafReasons_iff]
    exact ⟨_, first, admitted⟩
  rw [reraised, if_pos]
  constructor
  · exact List.ne_nil_of_mem (List.mem_dedup.2 present)
  · cases found : leafReason error with
    | none => exact Or.inl ((mem_leafReasons_iff _ _).2 ⟨error, inside, found⟩)
    | some other =>
        right
        rw [ne_eq, length_dedup_eq_one_iff]
        rintro ⟨only, _, equal⟩
        have isOther :
            other ∈ ((flatten [] [tree]).map leafReason).reduceOption := by
          rw [List.reduceOption_mem_iff, mem_leafReasons_iff]
          exact ⟨error, inside, found⟩
        rw [found, equal other isOther, ← equal reason present] at different
        exact different rfl

/-- What the handler raises is the group or its first leaf. -/
theorem reraised_cases (tree : PyException) :
    reraised tree = tree ∨ reraised tree = .leaf (firstLeaf tree) := by
  rw [reraised]
  exact ite_eq_or_eq _ _ _

/-- What is raised admits a reason exactly when every leaf does. -/
theorem sourceWaitReason_reraised_iff
    (tree : PyException) (reason : WaitReason) :
    sourceWaitReason (reraised tree) = some reason ↔
      ∀ error, IsLeaf error tree → leafReason error = some reason := by
  constructor
  · intro admitted
    by_contra disagreed
    rcases reraised_cases tree with whole | alone
    · rw [whole, sourceWaitReason_eq_some_iff] at admitted
      exact disagreed admitted
    · have first : leafReason (firstLeaf tree) = some reason := by
        simpa [alone, sourceWaitReason] using admitted
      have whole := reraised_of_disagreed first disagreed
      rw [whole, sourceWaitReason_eq_some_iff] at admitted
      exact disagreed admitted
  · intro agreed
    rw [reraised_of_agreed agreed, sourceWaitReason]
    exact agreed _ (firstLeaf_isLeaf tree)

/-- The error is an `EpochError` with the code of the reason. -/
structure Admits (error : Leaf) (reason : WaitReason) : Prop where
  isEpochError : error.isEpochError = true
  text : error.text = reason.code

theorem leafReason_eq_some_iff (error : Leaf) (reason : WaitReason) :
    leafReason error = some reason ↔ Admits error reason := by
  have apart : WaitReason.fetchTimeout.code ≠ WaitReason.fetchDnsFailure.code :=
    by decide
  constructor
  · intro admitted
    unfold leafReason at admitted
    split at admitted
    · rename_i timeout
      cases admitted
      exact ⟨timeout.1, timeout.2⟩
    · split at admitted
      · rename_i dns
        cases admitted
        exact ⟨dns.1, dns.2⟩
      · cases admitted
  · intro admits
    unfold leafReason
    cases reason with
    | fetchTimeout => exact if_pos ⟨admits.isEpochError, admits.text⟩
    | fetchDnsFailure =>
        have other :
            ¬ (error.isEpochError = true ∧
              error.text = WaitReason.fetchTimeout.code) :=
          fun timeout => apart (timeout.2.symm.trans admits.text)
        rw [if_neg other]
        exact if_pos ⟨admits.isEpochError, admits.text⟩

theorem leafReason_eq_none_iff (error : Leaf) :
    leafReason error = none ↔ ∀ reason, ¬ Admits error reason := by
  rw [Option.eq_none_iff_forall_ne_some]
  simp only [ne_eq, leafReason_eq_some_iff]

/-- The six counters after a wait for a reason: one more failure of its kind,
in all and in a row, and none in a row of the other kind. -/
structure Counted (before later : SourceCircuit) (reason : WaitReason) :
    Prop where
  timeouts :
    later.timeouts =
      before.timeouts + if reason = .fetchTimeout then 1 else 0
  dnsFailures :
    later.dnsFailures =
      before.dnsFailures + if reason = .fetchDnsFailure then 1 else 0
  recoveries : later.recoveries = before.recoveries
  consecutive : later.consecutive = before.consecutive + 1
  consecutiveTimeouts :
    later.consecutiveTimeouts =
      if reason = .fetchTimeout then before.consecutiveTimeouts + 1 else 0
  consecutiveDnsFailures :
    later.consecutiveDnsFailures =
      if reason = .fetchDnsFailure then before.consecutiveDnsFailures + 1
      else 0

theorem counted_counted (circuit : SourceCircuit) (reason : WaitReason) :
    Counted circuit (circuit.counted reason) reason := by
  cases reason <;> constructor <;> rfl

theorem Counted.unique
    {before left right : SourceCircuit} {reason : WaitReason}
    (first : Counted before left reason)
    (second : Counted before right reason) : left = right := by
  ext
  · rw [first.timeouts, second.timeouts]
  · rw [first.dnsFailures, second.dnsFailures]
  · rw [first.recoveries, second.recoveries]
  · rw [first.consecutive, second.consecutive]
  · rw [first.consecutiveTimeouts, second.consecutiveTimeouts]
  · rw [first.consecutiveDnsFailures, second.consecutiveDnsFailures]

/--
A source wait never hides another failure.  The circuit returns a reason and
counts it exactly when every leaf admits it; otherwise it raises the group or
a leaf that no wait is admitted for, and its counters stay.
-/
theorem failed_reraised
    (circuit : SourceCircuit) (first : PyException)
    (others : List PyException) :
    (∀ reason later,
      circuit.failed (reraised (.group first others)) =
          (.ok reason, later) ↔
        (∀ error, IsLeaf error (.group first others) →
          Admits error reason) ∧
          Counted circuit later reason) ∧
    ((∀ reason, ¬ ∀ error, IsLeaf error (.group first others) →
        Admits error reason) →
      ∃ raised,
        circuit.failed (reraised (.group first others)) =
            (.error raised, circuit) ∧
          (raised = .group first others ∨
            ∃ error, IsLeaf error (.group first others) ∧
              raised = .leaf error ∧ ∀ reason, ¬ Admits error reason)) := by
  have agree :
      ∀ reason,
        sourceWaitReason (reraised (.group first others)) = some reason ↔
          ∀ error, IsLeaf error (.group first others) →
            Admits error reason := by
    intro reason
    rw [sourceWaitReason_reraised_iff]
    simp only [leafReason_eq_some_iff]
  constructor
  · intro reason later
    rw [← agree reason, SourceCircuit.failed]
    cases sourceWaitReason (reraised (.group first others)) with
    | none => simp
    | some found =>
        simp only [Prod.mk.injEq, Except.ok.injEq, Option.some.injEq]
        constructor
        · rintro ⟨rfl, rfl⟩
          exact ⟨rfl, counted_counted circuit found⟩
        · rintro ⟨rfl, counted⟩
          exact ⟨rfl, (counted_counted circuit found).unique counted⟩
  · intro none_agreed
    have refused :
        sourceWaitReason (reraised (.group first others)) = none := by
      rw [Option.eq_none_iff_forall_ne_some]
      intro reason admitted
      exact none_agreed reason ((agree reason).1 admitted)
    refine ⟨reraised (.group first others), ?_, ?_⟩
    · rw [SourceCircuit.failed, refused]
    · rcases reraised_cases (.group first others) with whole | alone
      · exact Or.inl whole
      · refine Or.inr ⟨_, firstLeaf_isLeaf _, alone, ?_⟩
        rw [← leafReason_eq_none_iff]
        simpa [alone, sourceWaitReason] using refused

/-- An `EpochError` with this text. -/
def epochError (identity : Nat) (text : String) : Leaf :=
  ⟨identity, true, text⟩

/-- A timeout. -/
def timeoutError (identity : Nat) : Leaf :=
  epochError identity WaitReason.fetchTimeout.code

/-- Another failure. -/
def otherError : Leaf :=
  epochError 2 "EPOCH_DATABASE_DIVERGED"

/-- Two timeouts in a group of their own. -/
def nestedTimeouts : PyException :=
  .group (.leaf (timeoutError 1)) [.leaf (timeoutError 2)]

/-- A timeout beside another failure, two groups down. -/
def nestedMixture : PyException :=
  .group (.group (.leaf (timeoutError 1)) [.leaf otherError]) []

theorem isLeaf_nestedTimeouts_iff (error : Leaf) :
    IsLeaf error (.group nestedTimeouts [.leaf (timeoutError 3)]) ↔
      error = timeoutError 3 ∨ error = timeoutError 2 ∨
        error = timeoutError 1 := by
  rw [← mem_leaves_iff]
  simp [flatten, nestedTimeouts]

theorem isLeaf_nestedMixture_iff (error : Leaf) :
    IsLeaf error (.group (.leaf (timeoutError 3)) [nestedMixture]) ↔
      error = otherError ∨ error = timeoutError 1 ∨
        error = timeoutError 3 := by
  rw [← mem_leaves_iff]
  simp [flatten, nestedMixture]

theorem admits_timeoutError (identity : Nat) :
    Admits (timeoutError identity) .fetchTimeout :=
  ⟨rfl, rfl⟩

theorem not_admits_otherError (reason : WaitReason) :
    ¬ Admits otherError reason := by
  intro admits
  have text := admits.text
  revert text
  cases reason <;> decide

/-- Nested timeouts are one wait, and the mixture is raised. -/
theorem failed_reraised_nested :
    SourceCircuit.start.failed
          (reraised (.group nestedTimeouts [.leaf (timeoutError 3)])) =
        (.ok .fetchTimeout, ⟨1, 0, 0, 1, 1, 0⟩) ∧
      ∃ raised,
        SourceCircuit.start.failed
            (reraised (.group (.leaf (timeoutError 3)) [nestedMixture])) =
          (.error raised, SourceCircuit.start) := by
  constructor
  · have wait :=
      (failed_reraised .start nestedTimeouts [.leaf (timeoutError 3)]).1
    refine (wait .fetchTimeout _).2 ⟨fun error inside => ?_, ?_⟩
    · rcases (isLeaf_nestedTimeouts_iff error).1 inside with
        rfl | rfl | rfl <;>
        exact admits_timeoutError _
    · exact counted_counted .start .fetchTimeout
  · have raises :=
      (failed_reraised .start (.leaf (timeoutError 3)) [nestedMixture]).2
    have mixed :
        ∀ reason,
          ¬ ∀ error,
            IsLeaf error
                (.group (.leaf (timeoutError 3)) [nestedMixture]) →
              Admits error reason := by
      intro reason each
      have inside := (isLeaf_nestedMixture_iff otherError).2 (Or.inl rfl)
      exact not_admits_otherError reason (each otherError inside)
    rcases raises mixed with ⟨raised, failed, _⟩
    exact ⟨raised, failed⟩

end KairosDeploy.Epoch.SourceWait
