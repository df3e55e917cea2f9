import Mathlib

/-!
# Computations that refuse

Validation code is a sequence of tests, each of which refuses with its own
error, followed by a result.  `refuseIf` is one such test.  The lemmas below
turn the success of a whole sequence into the conjunction of what each test
established, so that a caller never unfolds the sequence itself.
-/

namespace KairosDeploy.Library.Refusal

universe u v w x

variable {Error : Type u} {Value : Type v} {Result : Type v}

/-- Refuse with `error` when `condition` holds. -/
def refuseIf (condition : Prop) [Decidable condition] (error : Error) :
    Except Error PUnit.{v + 1} :=
  if condition then .error error else .ok ⟨⟩

@[simp]
theorem refuseIf_eq_ok_iff
    (condition : Prop) [Decidable condition] (error : Error)
    (done : PUnit.{v + 1}) :
    refuseIf condition error = .ok done ↔ ¬ condition := by
  unfold refuseIf
  split_ifs with holds <;> simp [holds]

/-- A sequence succeeds exactly when both of its parts do. -/
@[simp]
theorem bind_eq_ok_iff
    (first : Except Error Value) (next : Value → Except Error Result)
    (result : Result) :
    (first >>= next) = .ok result ↔
      ∃ value, first = .ok value ∧ next value = .ok result := by
  cases first with
  | error error =>
      constructor
      · intro impossible
        cases impossible
      · rintro ⟨_, impossible, _⟩
        cases impossible
  | ok value =>
      constructor
      · intro succeeded
        exact ⟨value, rfl, succeeded⟩
      · rintro ⟨_, equal, succeeded⟩
        cases equal
        exact succeeded

/-- A test refuses with its own error only. -/
theorem refuseIf_eq_error_iff
    (condition : Prop) [Decidable condition] (error raised : Error) :
    (refuseIf condition error : Except Error PUnit.{v + 1}) =
        .error raised ↔
      condition ∧ error = raised := by
  unfold refuseIf
  split_ifs with holds <;> simp [holds]

/-- A sequence raises what the first failing part raises. -/
theorem bind_eq_error_iff
    (first : Except Error Value) (next : Value → Except Error Result)
    (raised : Error) :
    (first >>= next) = .error raised ↔
      first = .error raised ∨
        ∃ value, first = .ok value ∧ next value = .error raised := by
  cases first with
  | error error =>
      constructor
      · intro equal
        cases equal
        exact Or.inl rfl
      · rintro (equal | ⟨_, impossible, _⟩)
        · cases equal
          rfl
        · cases impossible
  | ok value =>
      constructor
      · intro failed
        exact Or.inr ⟨value, rfl, failed⟩
      · rintro (impossible | ⟨_, equal, failed⟩)
        · cases impossible
        · cases equal
          exact failed

@[simp]
theorem pure_eq_ok_iff (value result : Value) :
    (pure value : Except Error Value) = .ok result ↔ value = result := by
  constructor
  · intro equal
    exact Except.ok.inj equal
  · rintro rfl
    rfl

theorem exists_eq_ok_of_isOk
    {computation : Except Error Value}
    (succeeded : computation.isOk = true) :
    ∃ result, computation = .ok result := by
  cases computation with
  | error error => cases succeeded
  | ok result => exact ⟨result, rfl⟩

/-- Renaming errors does not touch success. -/
@[simp]
theorem mapError_eq_ok_iff
    {Other : Type w} (rename : Error → Other)
    (computation : Except Error Value) (result : Value) :
    computation.mapError rename = .ok result ↔ computation = .ok result := by
  cases computation with
  | error error => simp [Except.mapError]
  | ok value => simp [Except.mapError]

/-- A running total succeeds exactly when every summand does. -/
theorem foldlM_add_eq_ok_iff
    {Item : Type w} (summand : Item → Except Error Int) (items : List Item)
    (start total : Int) :
    items.foldlM
          (fun total item => do
            let value ← summand item
            return total + value)
          start =
        .ok total ↔
      ∃ values, items.mapM summand = .ok values ∧
        total = start + values.sum := by
  induction items generalizing start with
  | nil =>
      simp only [List.foldlM_nil, List.mapM_nil, pure_eq_ok_iff]
      constructor
      · rintro rfl
        exact ⟨[], rfl, by simp⟩
      · rintro ⟨_, rfl, rfl⟩
        simp
  | cons item rest induction =>
      simp only [List.foldlM_cons, List.mapM_cons, bind_eq_ok_iff,
        pure_eq_ok_iff]
      constructor
      · rintro ⟨_, ⟨value, headOk, rfl⟩, folded⟩
        rcases (induction _).1 folded with ⟨values, mapped, rfl⟩
        refine
          ⟨value :: values, ⟨value, headOk, values, mapped, rfl⟩, ?_⟩
        rw [List.sum_cons]
        ring
      · rintro ⟨_, ⟨value, headOk, values, mapped, rfl⟩, rfl⟩
        refine ⟨_, ⟨value, headOk, rfl⟩, (induction _).2 ⟨values, mapped, ?_⟩⟩
        rw [List.sum_cons]
        ring

/-- What every step keeps holds after a fold. -/
theorem foldlM_invariant
    {State : Type v} {Item : Type w} {step : State → Item → Except Error State}
    {items : List Item} {start result : State} (Holds : State → Prop)
    (keeps :
      ∀ state item next, item ∈ items → Holds state →
        step state item = .ok next → Holds next)
    (initial : Holds start)
    (succeeded : items.foldlM step start = .ok result) :
    Holds result := by
  induction items generalizing start with
  | nil =>
      rw [List.foldlM_nil, pure_eq_ok_iff] at succeeded
      exact succeeded ▸ initial
  | cons head rest induction =>
      rw [List.foldlM_cons, bind_eq_ok_iff] at succeeded
      rcases succeeded with ⟨next, stepped, folded⟩
      apply induction _ _ folded
      · intro state item later member
        exact keeps state item later (List.mem_cons_of_mem head member)
      · exact keeps start head next List.mem_cons_self initial stepped

/-- What one item brings about, and every step keeps, holds after a fold. -/
theorem foldlM_establishes
    {State : Type v} {Item : Type w} {step : State → Item → Except Error State}
    {items : List Item} {start result : State}
    (Before After : State → Prop) {item : Item}
    (keeps :
      ∀ state item next, item ∈ items → Before state →
        step state item = .ok next → Before next)
    (stays :
      ∀ state item next, item ∈ items → After state →
        step state item = .ok next → After next)
    (brings :
      ∀ state next, Before state → step state item = .ok next → After next)
    (member : item ∈ items) (initial : Before start)
    (succeeded : items.foldlM step start = .ok result) :
    After result := by
  induction items generalizing start with
  | nil => cases member
  | cons head rest induction =>
      rw [List.foldlM_cons, bind_eq_ok_iff] at succeeded
      rcases succeeded with ⟨next, stepped, folded⟩
      have staysInRest :
          ∀ state item next, item ∈ rest → After state →
            step state item = .ok next → After next := by
        intro state item later inRest
        exact stays state item later (List.mem_cons_of_mem head inRest)
      rcases List.mem_cons.1 member with rfl | inRest
      · exact
          foldlM_invariant After staysInRest (brings start next initial stepped)
            folded
      · apply induction _ staysInRest inRest _ folded
        · intro state item later inRest
          exact keeps state item later (List.mem_cons_of_mem head inRest)
        · exact keeps start head next List.mem_cons_self initial stepped

/-- A fold whose steps record one value each records one for every item. -/
theorem foldlM_relates
    {State : Type v} {Item : Type w} {Record : Type x}
    {step : State → Item → Except Error State} {items : List Item}
    {start result : State} {records : List Record}
    (Related : Item → Record → Prop) (Holds : List Record → State → Prop)
    (extend :
      ∀ records state item next, Holds records state →
        step state item = .ok next →
          ∃ record, Related item record ∧ Holds (records ++ [record]) next)
    (initial : Holds records start)
    (succeeded : items.foldlM step start = .ok result) :
    ∃ more, List.Forall₂ Related items more ∧
      Holds (records ++ more) result := by
  induction items generalizing start records with
  | nil =>
      rw [List.foldlM_nil, pure_eq_ok_iff] at succeeded
      subst result
      exact ⟨[], .nil, by rwa [List.append_nil]⟩
  | cons head rest induction =>
      rw [List.foldlM_cons, bind_eq_ok_iff] at succeeded
      rcases succeeded with ⟨next, stepped, folded⟩
      rcases extend records start head next initial stepped with
        ⟨record, related, extended⟩
      rcases induction extended folded with ⟨more, others, finished⟩
      refine ⟨record :: more, .cons related others, ?_⟩
      rwa [List.append_assoc] at finished

/-- A fold whose steps append appends all. -/
theorem foldlM_append
    {Item : Type w} {Value Extra : Type v}
    {step : List Value × Extra → Item → Except Error (List Value × Extra)}
    {items : List Item} {start result : List Value × Extra}
    {values : Item → List Value}
    (appends :
      ∀ state item next, step state item = .ok next →
        next.1 = state.1 ++ values item)
    (succeeded : items.foldlM step start = .ok result) :
    result.1 = start.1 ++ items.flatMap values := by
  induction items generalizing start with
  | nil =>
      rw [List.foldlM_nil, pure_eq_ok_iff] at succeeded
      simp [succeeded]
  | cons head rest induction =>
      rw [List.foldlM_cons, bind_eq_ok_iff] at succeeded
      rcases succeeded with ⟨next, stepped, folded⟩
      rw [induction folded, appends start head next stepped]
      simp

/-- The first error raised over a list decides; otherwise all succeed. -/
theorem mapM_eq_ok_iff
    {Item : Type w} {Value : Type v} (check : Item → Except Error Value)
    (items : List Item) (values : List Value) :
    items.mapM check = .ok values ↔
      List.Forall₂ (fun item value => check item = .ok value) items values := by
  induction items generalizing values with
  | nil =>
      rw [List.mapM_nil, pure_eq_ok_iff, List.forall₂_nil_left_iff]
      exact eq_comm
  | cons item rest induction =>
      rw [List.mapM_cons, bind_eq_ok_iff]
      constructor
      · rintro ⟨value, headOk, tailOk⟩
        rw [bind_eq_ok_iff] at tailOk
        rcases tailOk with ⟨tailValues, mapped, equal⟩
        rw [pure_eq_ok_iff] at equal
        subst values
        exact .cons headOk ((induction tailValues).1 mapped)
      · intro related
        cases related with
        | @cons _ value _ tailValues headOk tailOk =>
            refine ⟨value, headOk, ?_⟩
            rw [bind_eq_ok_iff]
            exact ⟨tailValues, (induction tailValues).2 tailOk, rfl⟩

theorem mapM_eq_ok_exists
    {Item : Type w} {Value : Type v} {check : Item → Except Error Value}
    {items : List Item} {values : List Value}
    (succeeded : items.mapM check = .ok values)
    {item : Item} (member : item ∈ items) :
    ∃ value, check item = .ok value := by
  have related := (mapM_eq_ok_iff check items values).1 succeeded
  rcases List.forall₂_iff_get.1 related with ⟨lengths, each⟩
  rcases List.get_of_mem member with ⟨index, rfl⟩
  exact ⟨_, each index.1 index.2 (lengths ▸ index.2)⟩

/-- Where every member succeeds with the value of a function, so does all. -/
theorem mapM_eq_ok_of_forall
    {Item : Type w} {Value : Type v} {check : Item → Except Error Value}
    {items : List Item} {function : Item → Value}
    (each : ∀ item ∈ items, check item = .ok (function item)) :
    items.mapM check = .ok (items.map function) := by
  rw [mapM_eq_ok_iff, List.forall₂_map_right_iff, List.forall₂_same]
  exact each

/-- Where each success is the value of a function, so is the whole list. -/
theorem mapM_eq_ok_map
    {Item : Type w} {Value : Type v} {check : Item → Except Error Value}
    {items : List Item} {values : List Value} {function : Item → Value}
    (agrees :
      ∀ item value, check item = .ok value → value = function item)
    (succeeded : items.mapM check = .ok values) :
    values = items.map function := by
  have related := (mapM_eq_ok_iff check items values).1 succeeded
  induction related with
  | nil => rfl
  | cons headOk tailOk induction =>
      rw [List.map_cons, ← agrees _ _ headOk,
        ← induction ((mapM_eq_ok_iff _ _ _).2 tailOk)]

/-- Over the same items in another order, the same values come out. -/
theorem mapM_perm
    {Item : Type w} {Value : Type v} {check : Item → Except Error Value}
    {items others : List Item} {values : List Value}
    (perm : others.Perm items) (succeeded : items.mapM check = .ok values) :
    ∃ more, others.mapM check = .ok more ∧ more.Perm values := by
  have related := (mapM_eq_ok_iff check items values).1 succeeded
  rcases List.perm_comp_forall₂ perm related with ⟨more, each, same⟩
  exact ⟨more, (mapM_eq_ok_iff check others more).2 each, same⟩

end KairosDeploy.Library.Refusal
