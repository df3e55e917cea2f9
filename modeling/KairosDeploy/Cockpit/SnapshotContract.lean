import KairosDeploy.Cockpit.ValidateSnapshot

/-!
# The validator and the published contract

`validateSnapshot` against the schema: each check of the validator is a
keyword of the schema, and what it asks beyond the schema is listed in
`Conforms`.  One field differs: the schema admits an empty reason code.
-/

namespace KairosDeploy.Cockpit.SnapshotContract

open KairosDeploy.Library.JsonSchema
open KairosDeploy.Library.PyNumber
open KairosDeploy.Library.Refusal
open KairosDeploy.Cockpit.ValidateSnapshot

/-! ## The single checks -/

theorem record_eq_ok_iff
    (value : Value) (label : String) (allowed keys : List String)
    (result : Value) :
    record value label allowed keys = .ok result ↔
      IsRecord allowed keys value ∧ result = value := by
  unfold record
  cases value with
  | object members =>
      simp only [bind_eq_ok_iff, refuseIf_eq_ok_iff, pure_eq_ok_iff]
      constructor
      · rintro ⟨_, only, _, present, rfl⟩
        refine ⟨⟨⟨members, rfl⟩, fun member inside => ?_, ?_⟩, rfl⟩
        · by_contra other
          refine only (List.any_eq_true.2 ⟨member, inside, ?_⟩)
          rw [Bool.not_eq_true', ← Bool.not_eq_true]
          exact fun listed => other (List.contains_iff_mem.1 listed)
        · intro key listed
          rw [Option.isSome_iff_ne_none]
          intro absent
          refine present (List.any_eq_true.2 ⟨key, listed, ?_⟩)
          change lookup members key = none at absent
          rw [absent]
          rfl
      · rintro ⟨isRecord, rfl⟩
        refine ⟨⟨⟩, fun other => ?_, ⟨⟩, fun absent => ?_, rfl⟩
        · rcases List.any_eq_true.1 other with ⟨member, inside, unlisted⟩
          have listed :=
            List.contains_iff_mem.2 (isRecord.allowed member inside)
          rw [listed] at unlisted
          cases unlisted
        · rcases List.any_eq_true.1 absent with ⟨key, listed, none⟩
          have present := isRecord.present key listed
          change (lookup members key).isSome = true at present
          rw [Option.isNone_iff_eq_none] at none
          rw [none] at present
          cases present
  | _ =>
      constructor
      · intro wrong
        cases wrong
      · rintro ⟨⟨⟨_, wrong⟩, _, _⟩, _⟩
        cases wrong

theorem array_eq_ok_iff
    (value : Value) (label : String) (maximum : Nat) (items : List Value) :
    array value label maximum = .ok items ↔
      IsArray maximum value ∧ items = value.items := by
  unfold array
  cases value with
  | array found =>
      dsimp only
      split
      · rename_i short
        constructor
        · intro equal
          cases equal
          exact ⟨⟨⟨_, rfl⟩, short⟩, rfl⟩
        · rintro ⟨_, rfl⟩
          rfl
      · rename_i long
        constructor
        · intro wrong
          cases wrong
        · rintro ⟨⟨_, short⟩, _⟩
          exact absurd short long
  | _ =>
      constructor
      · intro wrong
        cases wrong
      · rintro ⟨⟨⟨_, wrong⟩, _⟩, _⟩
        cases wrong

theorem enumValue_eq_ok_iff
    (value : Value) (label : String) (allowed : List String) (text : Units) :
    enumValue value label allowed = .ok text ↔
      enum allowed value = true ∧ text = value.text := by
  unfold enumValue enum
  cases value with
  | string found =>
      dsimp only
      split
      · rename_i listed
        constructor
        · intro equal
          cases equal
          exact ⟨listed, rfl⟩
        · rintro ⟨_, rfl⟩
          rfl
      · rename_i other
        constructor
        · intro wrong
          cases wrong
        · rintro ⟨listed, _⟩
          exact absurd listed other
  | _ =>
      constructor
      · intro wrong
        cases wrong
      · rintro ⟨wrong, _⟩
        cases wrong

theorem boundedString_eq_ok_iff
    {value : Value} (free : PairFree value) (label : String)
    (maximum : Nat) (text : Units) :
    boundedString value label maximum = .ok text ↔
      (nonEmptySchema maximum value = true ∧ isBlank value.text = false) ∧
        text = value.text := by
  cases value with
  | string found =>
      have length := codePoints_eq_length free.text
      change codePoints found = found.length at length
      simp only [boundedString, nonEmptySchema, all, type, minLength,
        maxLength, Kind.holds, List.all_cons, List.all_nil, List.any_cons,
        List.any_nil, Bool.or_false, Bool.and_true, Bool.true_and,
        Bool.and_eq_true, decide_eq_true_eq, length, Value.text]
      split
      · rename_i wrong
        rw [Bool.or_eq_true, decide_eq_true_eq] at wrong
        constructor
        · intro impossible
          cases impossible
        · rintro ⟨⟨⟨_, short⟩, visible⟩, _⟩
          rcases wrong with long | blank
          · omega
          · rw [blank] at visible
            cases visible
      · rename_i right
        rw [Bool.or_eq_true, decide_eq_true_eq, not_or] at right
        have visible : isBlank found = false := by simpa using right.2
        have inhabited : 1 ≤ found.length := by
          cases found with
          | nil => cases visible
          | cons => exact Nat.succ_le_succ (Nat.zero_le _)
        constructor
        · intro equal
          cases equal
          exact ⟨⟨⟨inhabited, by omega⟩, visible⟩, rfl⟩
        · rintro ⟨_, rfl⟩
          rfl
  | _ =>
      constructor
      · intro wrong
        cases wrong
      · rintro ⟨⟨wrong, _⟩, _⟩
        cases wrong

theorem finiteNumber_eq_ok_iff
    (value : Value) (label : String) (least : Option ℚ) (number : ℚ) :
    finiteNumber value label least = .ok number ↔
      (type [.number] value = true ∧ ∀ bound ∈ least, bound ≤ value.rational) ∧
        number = value.rational := by
  cases value with
  | number found =>
      cases found with
      | finite float =>
          simp only [finiteNumber]
          split
          · rename_i small
            rw [Option.any_eq_true_iff_get] at small
            constructor
            · intro wrong
              cases wrong
            · rintro ⟨⟨_, large⟩, _⟩
              rcases small with ⟨some, below⟩
              have bound := large _ (Option.get_mem some)
              exact absurd (of_decide_eq_true below) (not_lt.2 bound)
          · rename_i large
            constructor
            · intro equal
              cases equal
              refine ⟨⟨rfl, ?_⟩, rfl⟩
              rintro bound rfl
              by_contra below
              exact large (decide_eq_true (not_le.1 below))
            · rintro ⟨_, rfl⟩
              rfl
      | _ =>
          constructor
          · intro wrong
            cases wrong
          · rintro ⟨⟨wrong, _⟩, _⟩
            cases wrong
  | _ =>
      constructor
      · intro wrong
        cases wrong
      · rintro ⟨⟨wrong, _⟩, _⟩
        cases wrong

/-! ## Timestamps and numbers -/

/-- The characters from `!` to `~` are not blank. -/
theorem visible_of_ascii
    {unit : UInt16} (low : 0x20 < unit) (high : unit < 0x80) :
    isWhite unit = false := by
  unfold isWhite
  simp only [List.contains_cons, List.contains_nil, Bool.or_false,
    Bool.or_eq_false_iff, Bool.and_eq_false_iff, decide_eq_false_iff_not,
    beq_eq_false_iff_ne, ne_eq, ← UInt16.toNat_inj,
    UInt16.le_iff_toNat_le, UInt16.lt_iff_toNat_lt] at low high ⊢
  simp at low high ⊢
  omega

theorem visible_of_isDigit
    {unit : UInt16} (digit : isDigit unit = true) :
    isWhite unit = false := by
  simp only [isDigit, Bool.and_eq_true, decide_eq_true_eq] at digit
  exact
    visible_of_ascii
      (UInt16.lt_of_lt_of_le (by decide : (0x20 : UInt16) < 0x30) digit.1)
      (UInt16.lt_of_le_of_lt digit.2 (by decide : (0x39 : UInt16) < 0x80))

/-- A text with a zone is not blank. -/
theorem visible_of_isZoned
    {text : Units} (zoned : isZoned text = true) : isBlank text = false := by
  have ending :
      ∃ last ∈ text.reverse, isWhite last = false := by
    unfold isZoned at zoned
    split at zoned
    · rename_i last rest reversed
      refine ⟨last, by rw [reversed]; exact List.mem_cons_self, ?_⟩
      simp only [Bool.or_eq_true, decide_eq_true_eq] at zoned
      rcases zoned with (upper | lower) | offset
      · rw [upper]
        exact visible_of_ascii (by decide) (by decide)
      · rw [lower]
        exact visible_of_ascii (by decide) (by decide)
      · split at offset
        · simp only [Bool.and_eq_true] at offset
          exact visible_of_isDigit offset.1.1.1.1.1
        · cases offset
    · cases zoned
  rcases ending with ⟨last, inside, visible⟩
  unfold isBlank
  rw [List.all_eq_false]
  exact ⟨last, List.mem_reverse.1 inside, by rw [visible]; nofun⟩

theorem isoDateTime_eq_ok_iff
    {dateParse : Units → Option Int} {value : Value} (free : PairFree value)
    (label : String) (text : Units) :
    isoDateTime dateParse value label = .ok text ↔
      timestampSchema (isTimestamp dateParse) value = true ∧
        text = value.text := by
  unfold isoDateTime
  simp only [bind_eq_ok_iff, boundedString_eq_ok_iff free,
    refuseIf_eq_ok_iff, pure_eq_ok_iff, Bool.not_eq_false]
  simp only [nonEmptySchema, timestampSchema, all, List.all_cons,
    List.all_nil, Bool.and_true, Bool.and_eq_true]
  cases value with
  | string found =>
      constructor
      · rintro ⟨_, ⟨⟨⟨kind, _, short⟩, _⟩, rfl⟩, _, passed, rfl⟩
        exact ⟨⟨kind, passed, short⟩, rfl⟩
      · rintro ⟨⟨kind, passed, short⟩, equal⟩
        change isTimestamp dateParse found = true at passed
        have zoned : isZoned found = true := by
          unfold isTimestamp at passed
          rw [Bool.and_eq_true] at passed
          exact passed.1
        have visible := visible_of_isZoned zoned
        have inhabited : minLength 1 (.string found) = true := by
          have length : codePoints found = found.length :=
            codePoints_eq_length free.text
          unfold minLength
          rw [decide_eq_true_eq, length]
          cases found with
          | nil => cases visible
          | cons => exact Nat.succ_le_succ (Nat.zero_le _)
        exact
          ⟨found, ⟨⟨⟨kind, inhabited, short⟩, visible⟩, rfl⟩, ⟨⟩, passed,
            equal.symm⟩
  | _ =>
      constructor
      · rintro ⟨_, ⟨⟨⟨wrong, _⟩, _⟩, _⟩, _⟩
        cases wrong
      · rintro ⟨⟨wrong, _⟩, _⟩
        cases wrong

/-- A number with the smallest positive value as its minimum is positive. -/
theorem finiteNumber_positive_iff
    (value : Value) (label : String) (number : ℚ) :
    finiteNumber value label (some minValue) = .ok number ↔
      positiveSchema value = true ∧ number = value.rational := by
  rw [finiteNumber_eq_ok_iff]
  refine and_congr_left fun _ => ?_
  cases value with
  | number found =>
      cases found with
      | finite float =>
          simp [positiveSchema, all, type, exclusiveMinimum, Kind.holds,
            PyFloat.isFinite, Value.rational, minValue,
            ← FiniteFloat.smallest_le_iff]
      | _ =>
          exact
            iff_of_false (fun both => by cases both.1)
              (fun fits => by cases fits)
  | _ =>
      exact
        iff_of_false (fun both => by cases both.1) (fun fits => by cases fits)

theorem finiteNumber_minimum_iff
    (value : Value) (label : String) (bound number : ℚ) :
    finiteNumber value label (some bound) = .ok number ↔
      all [type [.number], minimum bound] value = true ∧
        number = value.rational := by
  rw [finiteNumber_eq_ok_iff]
  refine and_congr_left fun _ => ?_
  cases value with
  | number found =>
      cases found with
      | finite float =>
          simp [all, type, minimum, Kind.holds, PyFloat.isFinite,
            Value.rational]
      | _ =>
          exact
            iff_of_false (fun both => by cases both.1)
              (fun fits => by cases fits)
  | _ =>
      exact
        iff_of_false (fun both => by cases both.1) (fun fits => by cases fits)

theorem finiteNumber_any_iff
    (value : Value) (label : String) (number : ℚ) :
    finiteNumber value label none = .ok number ↔
      type [.number] value = true ∧ number = value.rational := by
  rw [finiteNumber_eq_ok_iff]
  simp

/-! ## Loops -/

section

variable {State : Type}

/-- A walk along items that each fit the state left by the earlier ones. -/
def Walk (fits : State → Value → Prop) (next : State → Value → State) :
    State → List Value → Prop
  | _, [] => True
  | state, item :: rest =>
      fits state item ∧ Walk fits next (next state item) rest

theorem forEntries_eq_ok_iff
    {body : Nat → State → Value → Checked State} {good : Value → Prop}
    {fits : State → Value → Prop} {next : State → Value → State}
    (items : List Value)
    (spec :
      ∀ item ∈ items, ∀ index state after,
        body index state item = .ok after ↔
          good item ∧ fits state item ∧ after = next state item)
    (index : Nat) (state after : State) :
    forEntries body index state items = .ok after ↔
      (∀ item ∈ items, good item) ∧ Walk fits next state items ∧
        after = items.foldl next state := by
  induction items generalizing index state with
  | nil =>
      simp only [forEntries, Walk, List.not_mem_nil, false_implies,
        implies_true, true_and, List.foldl_nil]
      exact
        ⟨fun equal => (Except.ok.inj equal).symm, fun equal => by rw [equal]⟩
  | cons item rest induction =>
      have tail := induction fun other inside =>
        spec other (List.mem_cons_of_mem _ inside)
      rw [forEntries, bind_eq_ok_iff, List.forall_mem_cons, List.foldl_cons]
      constructor
      · rintro ⟨middle, headOk, tailOk⟩
        rcases (spec item List.mem_cons_self _ _ _).1 headOk with
          ⟨good, fits, rfl⟩
        rcases (tail _ _).1 tailOk with ⟨each, walk, equal⟩
        exact ⟨⟨good, each⟩, ⟨fits, walk⟩, equal⟩
      · rintro ⟨⟨good, each⟩, ⟨fits, walk⟩, equal⟩
        exact
          ⟨_, (spec item List.mem_cons_self _ _ _).2 ⟨good, fits, rfl⟩,
            (tail _ _).2 ⟨each, walk, equal⟩⟩

/-- Items whose keys the earlier ones do not have. -/
theorem walk_distinct_iff (key : Value → Units) (items : List Value)
    (earlier : List Units) :
    Walk (fun ids item => key item ∉ ids) (fun ids item => key item :: ids)
        earlier items ↔
      (items.map key).Nodup ∧ ∀ item ∈ items, key item ∉ earlier := by
  induction items generalizing earlier with
  | nil => simp [Walk]
  | cons item rest induction =>
      rw [Walk, induction, List.map_cons, List.nodup_cons,
        List.forall_mem_cons]
      constructor
      · rintro ⟨fresh, distinct, each⟩
        refine ⟨⟨fun inside => ?_, distinct⟩, fresh, fun other member => ?_⟩
        · rcases List.mem_map.1 inside with ⟨other, member, same⟩
          exact each other member (by rw [same]; exact List.mem_cons_self)
        · exact fun found => each other member (List.mem_cons_of_mem _ found)
      · rintro ⟨⟨fresh, distinct⟩, first, each⟩
        refine ⟨first, distinct, fun other member found => ?_⟩
        rcases List.mem_cons.1 found with same | found
        · exact fresh (same ▸ List.mem_map_of_mem member)
        · exact each other member found

/-- Items whose times increase. -/
theorem walk_increasing_iff (time : Value → Int) (items : List Value) :
    Walk (fun previous item => notAfter (time item) previous = false)
        (fun _ item => some (time item)) none items ↔
      (items.map time).IsChain (· < ·) := by
  have following :
      ∀ (rest : List Value) (first : Int),
        Walk (fun previous item => notAfter (time item) previous = false)
            (fun _ item => some (time item)) (some first) rest ↔
          (first :: rest.map time).IsChain (· < ·) := by
    intro rest
    induction rest with
    | nil => simp [Walk]
    | cons item rest induction =>
        intro first
        rw [Walk, induction, List.map_cons, List.isChain_cons_cons]
        simp [notAfter]
  cases items with
  | nil => simp [Walk]
  | cons item rest =>
      rw [Walk, following, List.map_cons]
      simp [notAfter]

end

/-! ## What the validator asks beyond the schema -/

/-- `low <= min(open, close)` and `max(open, close) <= high`. -/
structure Ordered (bar : Value) : Prop where
  low_le :
    (bar.read "low").rational ≤
      min (bar.read "open").rational (bar.read "close").rational
  le_high :
    max (bar.read "open").rational (bar.read "close").rational ≤
      (bar.read "high").rational

section

variable (dateParse : Units → Option Int)

/-- The time of an item. -/
def closedAt (item : Value) : Int :=
  parsed dateParse (item.read "closed_at").text

/-- The times of the items increase strictly. -/
def Increasing (value : Value) : Prop :=
  (value.items.map (closedAt dateParse)).IsChain (· < ·)

end

/-- The texts of the members of the items of an array. -/
def texts (value : Value) (key : String) : List Units :=
  value.items.map fun item => (item.read key).text

section

variable (dateParse : Units → Option Int)

/-- What is asked of an indicator. -/
structure IndicatorConforms (indicator : Value) : Prop where
  label : isBlank (indicator.read "label").text = false
  times : Increasing dateParse (indicator.read "values")

/-- What is asked of a market. -/
structure MarketConforms (market : Value) : Prop where
  times : Increasing dateParse (market.read "bars")
  ordered : ∀ bar ∈ (market.read "bars").items, Ordered bar
  ids : (texts (market.read "indicators") "id").Nodup
  indicators :
    ∀ indicator ∈ (market.read "indicators").items,
      IndicatorConforms dateParse indicator

end

/-! ## Records -/

section

variable (dateParse : Units → Option Int) {value : Value}

omit dateParse in
/-- The loop over the keys of `readiness`. -/
theorem booleans_iff
    {keys : List String} (isRecord : IsRecord keys keys value) :
    (¬ (value.members.any fun member =>
          !type [.boolean] ((List.lookup member.1 value.members).getD .null)) =
        true) ↔
      ∀ key ∈ keys, type [.boolean] (value.read key) = true := by
  rw [Bool.not_eq_true, List.any_eq_false]
  constructor
  · intro each key listed
    rcases Option.isSome_iff_exists.1 (isRecord.present key listed) with
      ⟨found, some⟩
    rcases List.lookup_eq_some_iff.1 some with ⟨before, after, split, _⟩
    have inside : (units key, found) ∈ value.members := by
      rw [split]
      exact List.mem_append_right _ List.mem_cons_self
    have passed := each _ inside
    rw [Bool.not_eq_true, Bool.not_eq_false'] at passed
    exact passed
  · intro each member inside
    rcases List.mem_map.1 (isRecord.allowed member inside) with
      ⟨key, listed, same⟩
    rw [← same, Bool.not_eq_true, Bool.not_eq_false']
    exact each key listed

theorem validateSystem_eq_ok_iff (value : Value) :
    validateSystem value = .ok () ↔ systemSchema value = true := by
  unfold validateSystem systemSchema
  simp only [bind_eq_ok_iff, record_eq_ok_iff, enumValue_eq_ok_iff,
    refuseIf_eq_ok_iff]
  rw [closedObject_all_iff]
  case same => rfl
  simp only [List.forall_mem_cons, List.not_mem_nil, false_implies,
    implies_true, and_true]
  rw [closedObject_all_iff]
  case same => rfl
  constructor
  · rintro ⟨_, ⟨isRecord, rfl⟩, _, ⟨runtime, _⟩, _, ⟨mode, _⟩, _,
      ⟨policy, _⟩, _, ⟨readiness, rfl⟩, flags⟩
    have each := (booleans_iff readiness).1 flags
    simp only [List.forall_mem_cons, List.not_mem_nil, false_implies,
      implies_true, and_true] at each ⊢
    exact ⟨isRecord, runtime, mode, policy, readiness, each⟩
  · rintro ⟨isRecord, runtime, mode, policy, readiness, each⟩
    refine
      ⟨value, ⟨isRecord, rfl⟩, _, ⟨runtime, rfl⟩, _, ⟨mode, rfl⟩, _,
        ⟨policy, rfl⟩, _, ⟨readiness, rfl⟩, (booleans_iff readiness).2 ?_⟩
    simp only [List.forall_mem_cons, List.not_mem_nil, false_implies,
      implies_true, and_true] at each ⊢
    exact each

theorem validateBar_eq_ok_iff
    (free : PairFree value) (label : String) (index : Nat)
    (previous after : Option Int) :
    validateBar dateParse label index previous value = .ok after ↔
      (barSchema (isTimestamp dateParse) value = true ∧ Ordered value) ∧
        notAfter (closedAt dateParse value) previous = false ∧
        after = some (closedAt dateParse value) := by
  unfold validateBar barSchema
  simp only [bind_eq_ok_iff, record_eq_ok_iff, refuseIf_eq_ok_iff,
    finiteNumber_positive_iff, pure_eq_ok_iff]
  rw [closedObject_all_iff]
  case same => rfl
  simp only [List.forall_mem_cons, List.not_mem_nil, false_implies,
    implies_true, and_true]
  constructor
  · rintro ⟨_, ⟨isRecord, rfl⟩, text, stamped, opening, ⟨openOk, rfl⟩, high,
      ⟨highOk, rfl⟩, low, ⟨lowOk, rfl⟩, close, ⟨closeOk, rfl⟩, _, later, _,
      ordered, rfl⟩
    rw [isoDateTime_eq_ok_iff (free.read _)] at stamped
    rcases stamped with ⟨stamped, rfl⟩
    simp only [not_or, not_lt] at ordered
    exact
      ⟨⟨⟨isRecord, stamped, openOk, highOk, lowOk, closeOk⟩, ordered.1,
          ordered.2.1⟩,
        Bool.eq_false_of_not_eq_true later, rfl⟩
  · rintro ⟨⟨⟨isRecord, stamped, openOk, highOk, lowOk, closeOk⟩, lower,
      upper⟩, later, rfl⟩
    refine
      ⟨value, ⟨isRecord, rfl⟩, _,
        (isoDateTime_eq_ok_iff (free.read _) _ _).2 ⟨stamped, rfl⟩, _,
        ⟨openOk, rfl⟩, _, ⟨highOk, rfl⟩, _, ⟨lowOk, rfl⟩, _,
        ⟨closeOk, rfl⟩, ⟨⟩, ?_, ⟨⟩, ?_, rfl⟩
    · rw [Bool.not_eq_true]
      exact later
    · simp only [not_or, not_lt]
      exact
        ⟨lower, upper,
          lower.trans ((min_le_max).trans upper)⟩

theorem validateBars_eq_ok_iff
    (free : PairFree value) (label : String) :
    validateBars dateParse value label = .ok () ↔
      boundedArray 500 (barSchema (isTimestamp dateParse)) value = true ∧
        Increasing dateParse value ∧ ∀ bar ∈ value.items, Ordered bar := by
  have loop :=
    forEntries_eq_ok_iff value.items
      (fun item inside index previous after =>
        validateBar_eq_ok_iff dateParse (free.item inside) label index
          previous after)
  unfold validateBars Increasing
  simp only [bind_eq_ok_iff, array_eq_ok_iff, pure_eq_ok_iff]
  rw [boundedArray_iff]
  constructor
  · rintro ⟨_, ⟨isArray, rfl⟩, _, walked, _⟩
    rcases (loop _ _ _).1 walked with ⟨each, walk, _⟩
    exact
      ⟨⟨isArray, fun bar inside => (each bar inside).1⟩,
        (walk_increasing_iff _ _).1 walk,
        fun bar inside => (each bar inside).2⟩
  · rintro ⟨⟨isArray, valid⟩, increasing, ordered⟩
    refine ⟨_, ⟨isArray, rfl⟩, _, (loop _ _ _).2 ⟨?_, ?_, rfl⟩, trivial⟩
    · exact fun bar inside => ⟨valid bar inside, ordered bar inside⟩
    · exact (walk_increasing_iff _ _).2 increasing

theorem validatePoint_eq_ok_iff
    (free : PairFree value) (label : String) (index : Nat)
    (previous after : Option Int) :
    validatePoint dateParse label index previous value = .ok after ↔
      pointSchema (isTimestamp dateParse) value = true ∧
        notAfter (closedAt dateParse value) previous = false ∧
        after = some (closedAt dateParse value) := by
  unfold validatePoint pointSchema
  simp only [bind_eq_ok_iff, record_eq_ok_iff, refuseIf_eq_ok_iff,
    finiteNumber_any_iff, pure_eq_ok_iff]
  rw [closedObject_all_iff]
  case same => rfl
  simp only [List.forall_mem_cons, List.not_mem_nil, false_implies,
    implies_true, and_true]
  constructor
  · rintro ⟨_, ⟨isRecord, rfl⟩, text, stamped, _, ⟨number, _⟩, _, later,
      rfl⟩
    rw [isoDateTime_eq_ok_iff (free.read _)] at stamped
    rcases stamped with ⟨stamped, rfl⟩
    exact
      ⟨⟨isRecord, stamped, number⟩, Bool.eq_false_of_not_eq_true later, rfl⟩
  · rintro ⟨⟨isRecord, stamped, number⟩, later, rfl⟩
    refine
      ⟨value, ⟨isRecord, rfl⟩, _,
        (isoDateTime_eq_ok_iff (free.read _) _ _).2 ⟨stamped, rfl⟩, _,
        ⟨number, rfl⟩, ⟨⟩, ?_, rfl⟩
    rw [Bool.not_eq_true]
    exact later

omit dateParse in
theorem visible_of_isSafe
    {unit : UInt16} (safe : isSafe unit = true) : isWhite unit = false := by
  unfold isSafe at safe
  simp only [Bool.or_eq_true, Bool.and_eq_true, decide_eq_true_eq] at safe
  rcases safe with (letter | digit) | sign
  · exact
      visible_of_ascii
        (UInt16.lt_of_lt_of_le (by decide : (0x20 : UInt16) < 0x61) letter.1)
        (UInt16.lt_of_le_of_lt letter.2
          (by decide : (0x7A : UInt16) < 0x80))
  · exact visible_of_isDigit digit
  · rw [List.contains_iff_mem] at sign
    simp only [List.mem_cons, List.not_mem_nil, or_false] at sign
    rcases sign with rfl | rfl | rfl <;>
      exact visible_of_ascii (by decide) (by decide)

omit dateParse in
/-- A bounded safe identifier is what the pattern admits. -/
theorem identifier_iff (free : PairFree value) :
    (nonEmptySchema 64 value = true ∧ isBlank value.text = false) ∧
        isIdentifier value.text = true ↔
      all [type [.string], format isShortIdentifier] value = true := by
  simp only [nonEmptySchema, all, List.all_cons, List.all_nil, Bool.and_true,
    Bool.and_eq_true]
  cases value with
  | string found =>
      have length : codePoints found = found.length :=
        codePoints_eq_length free.text
      simp only [minLength, maxLength, format, isShortIdentifier,
        isIdentifier, length, Value.text, Bool.and_eq_true,
        decide_eq_true_eq]
      constructor
      · rintro ⟨⟨⟨kind, inhabited, short⟩, _⟩, _, safe⟩
        exact ⟨kind, ⟨inhabited, short⟩, safe⟩
      · rintro ⟨kind, ⟨inhabited, short⟩, safe⟩
        cases found with
        | nil => cases inhabited
        | cons first rest =>
            have visible :=
              visible_of_isSafe
                (List.all_eq_true.1 safe first List.mem_cons_self)
            refine ⟨⟨⟨kind, inhabited, short⟩, ?_⟩, rfl, safe⟩
            unfold isBlank
            rw [List.all_cons, visible, Bool.false_and]
  | _ =>
      exact
        iff_of_false (fun both => nomatch both.1.1.1) fun both =>
          nomatch both.1

theorem validateIndicator_eq_ok_iff
    (free : PairFree value) (label : String) (index : Nat)
    (ids after : List Units) :
    validateIndicator dateParse label index ids value = .ok after ↔
      (indicatorSchema (isTimestamp dateParse) value = true ∧
          IndicatorConforms dateParse value) ∧
        (value.read "id").text ∉ ids ∧
        after = (value.read "id").text :: ids := by
  have loop :=
    forEntries_eq_ok_iff (value.read "values").items
      (fun item inside index previous after =>
        validatePoint_eq_ok_iff dateParse ((free.read _).item inside) label
          index previous after)
  have identifier := identifier_iff (free.read "id")
  unfold validateIndicator indicatorSchema
  simp only [bind_eq_ok_iff, record_eq_ok_iff, array_eq_ok_iff,
    refuseIf_eq_ok_iff, pure_eq_ok_iff]
  rw [closedObject_all_iff]
  case same => rfl
  simp only [List.forall_mem_cons, List.not_mem_nil, false_implies,
    implies_true, and_true, boundedArray_iff, ← identifier]
  constructor
  · rintro ⟨_, ⟨isRecord, rfl⟩, _, bounded, _, safe, _, labelled, _,
      ⟨isArray, rfl⟩, _, walked, rfl⟩
    rw [boundedString_eq_ok_iff (free.read _)] at bounded labelled
    rcases bounded with ⟨bounded, rfl⟩
    rcases (loop _ _ _).1 walked with ⟨each, walk, _⟩
    simp only [not_or, Bool.not_eq_false] at safe
    exact
      ⟨⟨⟨isRecord, ⟨bounded, safe.1⟩, labelled.1.1, isArray, each⟩,
          labelled.1.2, (walk_increasing_iff _ _).1 walk⟩,
        safe.2, rfl⟩
  · rintro ⟨⟨⟨isRecord, ⟨bounded, safe⟩, labelled, isArray, each⟩, visible,
      increasing⟩, fresh, rfl⟩
    refine
      ⟨value, ⟨isRecord, rfl⟩, _,
        (boundedString_eq_ok_iff (free.read _) _ _ _).2 ⟨bounded, rfl⟩, ⟨⟩,
        ?_, _,
        (boundedString_eq_ok_iff (free.read _) _ _ _).2
          ⟨⟨labelled, visible⟩, rfl⟩,
        _, ⟨isArray, rfl⟩, _,
        (loop _ _ _).2
          ⟨each, (walk_increasing_iff _ _).2 increasing, rfl⟩,
        rfl⟩
    simp only [not_or, Bool.not_eq_false]
    exact ⟨safe, fresh⟩

theorem validateIndicators_eq_ok_iff
    (free : PairFree value) (label : String) :
    validateIndicators dateParse value label = .ok () ↔
      boundedArray 16 (indicatorSchema (isTimestamp dateParse)) value = true ∧
        (texts value "id").Nodup ∧
        ∀ indicator ∈ value.items, IndicatorConforms dateParse indicator := by
  have loop :=
    forEntries_eq_ok_iff value.items
      (fun item inside index ids after =>
        validateIndicator_eq_ok_iff dateParse (free.item inside) label index
          ids after)
  unfold validateIndicators texts
  simp only [bind_eq_ok_iff, array_eq_ok_iff, pure_eq_ok_iff]
  rw [boundedArray_iff]
  constructor
  · rintro ⟨_, ⟨isArray, rfl⟩, _, walked, _⟩
    rcases (loop _ _ _).1 walked with ⟨each, walk, _⟩
    exact
      ⟨⟨isArray, fun indicator inside => (each indicator inside).1⟩,
        ((walk_distinct_iff _ _ _).1 walk).1,
        fun indicator inside => (each indicator inside).2⟩
  · rintro ⟨⟨isArray, valid⟩, distinct, conforms⟩
    refine ⟨_, ⟨isArray, rfl⟩, _, (loop _ _ _).2 ⟨?_, ?_, rfl⟩, trivial⟩
    · exact fun indicator inside =>
        ⟨valid indicator inside, conforms indicator inside⟩
    · exact
        (walk_distinct_iff _ _ _).2
          ⟨distinct, fun _ _ => List.not_mem_nil⟩

/-! ## Optional members -/

omit dateParse in
/-- An optional member that may be `null`. -/
theorem optionally_eq_ok_iff
    {check : Value → Checked Unit} {schema : Schema} {key : String}
    (null : schema .null = true)
    (spec :
      ∀ member, member ≠ .null →
        (check member = .ok () ↔ schema member = true)) :
    optionally value key check = .ok () ↔ Holds value (key, schema) := by
  unfold optionally Holds
  cases found : lookup value.members key with
  | none => exact iff_of_true rfl nofun
  | some member =>
      have single :
          (∀ other, some member = some other → schema other = true) ↔
            schema member = true :=
        ⟨fun each => each member rfl, fun holds _ same => by
          cases same
          exact holds⟩
      rw [single]
      cases member with
      | null => exact iff_of_true rfl null
      | _ => exact spec _ nofun

omit dateParse in
/-- A number or `null`. -/
theorem numberOrNull_iff
    {member : Value} (present : member ≠ .null) :
    type [.number, .null] member = true ↔ type [.number] member = true := by
  cases member with
  | null => exact absurd rfl present
  | _ => simp [type, Kind.holds]

omit dateParse in
theorem minimumOrNull_iff
    {member : Value} (bound : ℚ) (present : member ≠ .null) :
    all [type [.number, .null], minimum bound] member = true ↔
      all [type [.number], minimum bound] member = true := by
  cases member with
  | null => exact absurd rfl present
  | _ => simp [all, type, Kind.holds]

omit dateParse in
/-- A finite number without a fractional part and a minimum. -/
theorem integerOrNull_iff
    {member : Value} (bound : ℚ) (present : member ≠ .null) :
    all [type [.integer, .null], minimum bound] member = true ↔
      all [type [.number], minimum bound] member = true ∧
        member.rational.isInt = true := by
  cases member with
  | null => exact absurd rfl present
  | number found =>
      cases found with
      | finite float =>
          simp [all, type, Kind.holds, minimum, Value.rational,
            PyFloat.isFinite, and_comm]
      | _ => simp [all, type, Kind.holds, PyFloat.isFinite]
  | _ => simp [all, type, Kind.holds]

omit dateParse in
theorem optionalNumber_any_iff (key label : String) :
    optionally value key (optionalNumber label none) = .ok () ↔
      Holds value (key, type [.number, .null]) := by
  refine optionally_eq_ok_iff rfl fun member present => ?_
  rw [numberOrNull_iff present]
  simp only [optionalNumber, bind_eq_ok_iff, finiteNumber_any_iff,
    pure_eq_ok_iff, and_true]
  simp

omit dateParse in
theorem optionalNumber_minimum_iff (key label : String) (bound : ℚ) :
    optionally value key (optionalNumber label (some bound)) = .ok () ↔
      Holds value (key, all [type [.number, .null], minimum bound]) := by
  refine optionally_eq_ok_iff rfl fun member present => ?_
  rw [minimumOrNull_iff bound present]
  simp only [optionalNumber, bind_eq_ok_iff, finiteNumber_minimum_iff,
    pure_eq_ok_iff, and_true]
  simp

omit dateParse in
theorem optionalAge_iff (key : String) :
    optionally value key optionalAge = .ok () ↔
      Holds value (key, all [type [.integer, .null], minimum 0]) := by
  refine optionally_eq_ok_iff rfl fun member present => ?_
  rw [integerOrNull_iff 0 present]
  simp [optionalAge, finiteNumber_minimum_iff]

theorem validateVenue_eq_ok_iff (free : PairFree value) :
    validateVenue dateParse value = .ok () ↔
      venueSchema (isTimestamp dateParse) value = true := by
  unfold validateVenue venueSchema
  simp only [bind_eq_ok_iff, record_eq_ok_iff, enumValue_eq_ok_iff]
  rw [closedObject_iff]
  simp only [List.forall_mem_cons, List.not_mem_nil, false_implies,
    implies_true, and_true]
  constructor
  · rintro ⟨_, ⟨isRecord, rfl⟩, _, ⟨state, _⟩, text, stamped, _, spread, _,
      slippage, age⟩
    rw [isoDateTime_eq_ok_iff (free.read _)] at stamped
    exact
      ⟨isRecord, (isRecord.holds_iff (by simp)).2 state,
        (isRecord.holds_iff (by simp)).2 stamped.1,
        (optionalNumber_minimum_iff _ _ _).1 spread,
        (optionalAge_iff _).1 age, (optionalNumber_any_iff _ _).1 slippage⟩
  · rintro ⟨isRecord, state, stamped, spread, age, slippage⟩
    exact
      ⟨value, ⟨isRecord, rfl⟩, _,
        ⟨(isRecord.holds_iff (by simp)).1 state, rfl⟩, _,
        (isoDateTime_eq_ok_iff (free.read _) _ _).2
          ⟨(isRecord.holds_iff (by simp)).1 stamped, rfl⟩,
        ⟨⟩, (optionalNumber_minimum_iff _ _ _).2 spread, ⟨⟩,
        (optionalNumber_any_iff _ _).2 slippage, (optionalAge_iff _).2 age⟩

/-! ## Markets -/

theorem validateMarket_eq_ok_iff
    (free : PairFree value) (index : Nat) (seenSymbols after : List Units) :
    validateMarket dateParse index seenSymbols value = .ok after ↔
      (marketSchema (isTimestamp dateParse) value = true ∧
          MarketConforms dateParse value) ∧
        (value.read "symbol").text ∉ seenSymbols ∧
        after = (value.read "symbol").text :: seenSymbols := by
  unfold validateMarket marketSchema
  simp only [bind_eq_ok_iff, record_eq_ok_iff, enumValue_eq_ok_iff,
    refuseIf_eq_ok_iff, pure_eq_ok_iff]
  rw [closedObject_all_iff]
  case same => rfl
  simp only [List.forall_mem_cons, List.not_mem_nil, false_implies,
    implies_true, and_true]
  constructor
  · rintro ⟨_, ⟨isRecord, rfl⟩, _, ⟨symbol, rfl⟩, _, fresh, _,
      ⟨interval, _⟩, _, bars, _, indicators, _, venue, rfl⟩
    rw [validateBars_eq_ok_iff dateParse (free.read _)] at bars
    rw [validateIndicators_eq_ok_iff dateParse (free.read _)] at indicators
    rw [validateVenue_eq_ok_iff dateParse (free.read _)] at venue
    exact
      ⟨⟨⟨isRecord, symbol, interval, bars.1, indicators.1, venue⟩,
          bars.2.1, bars.2.2, indicators.2.1, indicators.2.2⟩,
        fresh, rfl⟩
  · rintro ⟨⟨⟨isRecord, symbol, interval, bars, indicators, venue⟩,
      conforms⟩, fresh, rfl⟩
    exact
      ⟨value, ⟨isRecord, rfl⟩, _, ⟨symbol, rfl⟩, ⟨⟩, fresh, _,
        ⟨interval, rfl⟩, ⟨⟩,
        (validateBars_eq_ok_iff dateParse (free.read _) _).2
          ⟨bars, conforms.times, conforms.ordered⟩,
        ⟨⟩,
        (validateIndicators_eq_ok_iff dateParse (free.read _) _).2
          ⟨indicators, conforms.ids, conforms.indicators⟩,
        ⟨⟩, (validateVenue_eq_ok_iff dateParse (free.read _)).2 venue, rfl⟩

theorem validateMarkets_eq_ok_iff (free : PairFree value) :
    validateMarkets dateParse value = .ok () ↔
      boundedArray 5 (marketSchema (isTimestamp dateParse)) value = true ∧
        (texts value "symbol").Nodup ∧
        ∀ market ∈ value.items, MarketConforms dateParse market := by
  have loop :=
    forEntries_eq_ok_iff value.items
      (fun item inside index seenSymbols after =>
        validateMarket_eq_ok_iff dateParse (free.item inside) index
          seenSymbols after)
  unfold validateMarkets texts
  simp only [bind_eq_ok_iff, array_eq_ok_iff, pure_eq_ok_iff]
  rw [boundedArray_iff]
  constructor
  · rintro ⟨_, ⟨isArray, rfl⟩, _, walked, _⟩
    rcases (loop _ _ _).1 walked with ⟨each, walk, _⟩
    exact
      ⟨⟨isArray, fun market inside => (each market inside).1⟩,
        ((walk_distinct_iff _ _ _).1 walk).1,
        fun market inside => (each market inside).2⟩
  · rintro ⟨⟨isArray, valid⟩, distinct, conforms⟩
    refine ⟨_, ⟨isArray, rfl⟩, _, (loop _ _ _).2 ⟨?_, ?_, rfl⟩, trivial⟩
    · exact fun market inside =>
        ⟨valid market inside, conforms market inside⟩
    · exact
        (walk_distinct_iff _ _ _).2
          ⟨distinct, fun _ _ => List.not_mem_nil⟩

/-! ## Decisions, events and measurements -/

/-- A reason code that is a blank text. -/
def BlankReason (decision : Value) : Prop :=
  type [.string] (decision.read "reason_code") = true ∧
    isBlank (decision.read "reason_code").text = true

/-- The validator refuses blank reason codes, the schema does not. -/
theorem validateReason_eq_ok_iff {reason : Value} (free : PairFree reason) :
    validateReason reason = .ok () ↔
      all [type [.string, .null], maxLength 96] reason = true ∧
        ¬ (type [.string] reason = true ∧ isBlank reason.text = true) := by
  have bounded :=
    boundedString_eq_ok_iff free "decision.reason_code" 96
  cases reason with
  | null => simp [validateReason, all, type, Kind.holds, maxLength]
  | string found =>
      simp only [validateReason, bind_eq_ok_iff, bounded, pure_eq_ok_iff,
        and_true]
      constructor
      · rintro ⟨_, ⟨nonEmpty, visible⟩, _⟩
        simp only [nonEmptySchema, all, List.all_cons, List.all_nil,
          Bool.and_true, Bool.and_eq_true] at nonEmpty ⊢
        refine ⟨⟨rfl, nonEmpty.2.2⟩, fun blank => ?_⟩
        rw [visible] at blank
        cases blank.2
      · rintro ⟨short, shown⟩
        have visible : isBlank found = false :=
          Bool.eq_false_of_not_eq_true fun blank => shown ⟨rfl, blank⟩
        have length : codePoints found = found.length :=
          codePoints_eq_length free.text
        simp only [nonEmptySchema, all, List.all_cons, List.all_nil,
          Bool.and_true, Bool.and_eq_true] at short ⊢
        refine ⟨found, ⟨⟨rfl, ?_, short.2⟩, visible⟩, rfl⟩
        unfold minLength
        rw [decide_eq_true_eq, length]
        cases found with
        | nil => cases visible
        | cons => exact Nat.succ_le_succ (Nat.zero_le _)
  | _ =>
      simp [validateReason, all, type, Kind.holds, boundedString]

/-- The texts of a record that must not be blank. -/
def Shown (keys : List String) (item : Value) : Prop :=
  ∀ key ∈ keys, isBlank (item.read key).text = false

theorem validateDecision_eq_ok_iff
    (free : PairFree value) (index : Nat) (state after : Unit) :
    validateDecision dateParse index state value = .ok after ↔
      (decisionSchema (isTimestamp dateParse) value = true ∧
          Shown ["id", "strategy_id"] value ∧ ¬ BlankReason value) ∧
        True ∧ after = () := by
  unfold validateDecision decisionSchema Shown BlankReason
  simp only [bind_eq_ok_iff, record_eq_ok_iff, enumValue_eq_ok_iff]
  rw [closedObject_all_iff]
  case same => rfl
  simp only [List.forall_mem_cons, List.not_mem_nil, false_implies,
    implies_true, and_true]
  constructor
  · rintro ⟨_, ⟨isRecord, rfl⟩, _, id, _, created, _, ⟨symbol, _⟩, _,
      strategy, _, ⟨side, _⟩, _, ⟨candidate, _⟩, _, ⟨review, _⟩, _,
      ⟨risk, _⟩, _, ⟨execution, _⟩, reason⟩
    rw [boundedString_eq_ok_iff (free.read _)] at id strategy
    rw [isoDateTime_eq_ok_iff (free.read _)] at created
    have reasoned :=
      (validateReason_eq_ok_iff (free.read "reason_code")).1 reason
    exact
      ⟨⟨isRecord, id.1.1, created.1, symbol, strategy.1.1, side, candidate,
          review, risk, execution, reasoned.1⟩,
        ⟨id.1.2, strategy.1.2⟩, reasoned.2⟩
  · rintro ⟨⟨isRecord, id, created, symbol, strategy, side, candidate,
      review, risk, execution, reason⟩, ⟨shownId, shownStrategy⟩, shown⟩
    exact
      ⟨value, ⟨isRecord, rfl⟩, _,
        (boundedString_eq_ok_iff (free.read _) _ _ _).2
          ⟨⟨id, shownId⟩, rfl⟩,
        _, (isoDateTime_eq_ok_iff (free.read _) _ _).2 ⟨created, rfl⟩, _,
        ⟨symbol, rfl⟩, _,
        (boundedString_eq_ok_iff (free.read _) _ _ _).2
          ⟨⟨strategy, shownStrategy⟩, rfl⟩,
        _, ⟨side, rfl⟩, _, ⟨candidate, rfl⟩, _, ⟨review, rfl⟩, _,
        ⟨risk, rfl⟩, _, ⟨execution, rfl⟩,
        (validateReason_eq_ok_iff (free.read _)).2 ⟨reason, shown⟩⟩

theorem validateEvent_eq_ok_iff
    (free : PairFree value) (index : Nat) (state after : Unit) :
    validateEvent dateParse index state value = .ok after ↔
      (eventSchema (isTimestamp dateParse) value = true ∧
          Shown ["id", "state"] value) ∧
        True ∧ after = () := by
  unfold validateEvent eventSchema Shown
  simp only [bind_eq_ok_iff, record_eq_ok_iff, enumValue_eq_ok_iff,
    pure_eq_ok_iff]
  rw [closedObject_all_iff]
  case same => rfl
  simp only [List.forall_mem_cons, List.not_mem_nil, false_implies,
    implies_true, and_true]
  constructor
  · rintro ⟨_, ⟨isRecord, rfl⟩, _, id, _, occurred, _, ⟨symbol, _⟩, _,
      ⟨kind, _⟩, _, final⟩
    rw [boundedString_eq_ok_iff (free.read _)] at id final
    rw [isoDateTime_eq_ok_iff (free.read _)] at occurred
    exact
      ⟨⟨isRecord, id.1.1, occurred.1, symbol, kind, final.1.1⟩, id.1.2,
        final.1.2⟩
  · rintro ⟨⟨isRecord, id, occurred, symbol, kind, final⟩, shownId,
      shownState⟩
    exact
      ⟨value, ⟨isRecord, rfl⟩, _,
        (boundedString_eq_ok_iff (free.read _) _ _ _).2
          ⟨⟨id, shownId⟩, rfl⟩,
        _, (isoDateTime_eq_ok_iff (free.read _) _ _).2 ⟨occurred, rfl⟩, _,
        ⟨symbol, rfl⟩, _, ⟨kind, rfl⟩, _,
        (boundedString_eq_ok_iff (free.read _) _ _ _).2
          ⟨⟨final, shownState⟩, rfl⟩⟩

theorem validateTcaRow_eq_ok_iff
    (free : PairFree value) (index : Nat) (state after : Unit) :
    validateTcaRow dateParse index state value = .ok after ↔
      (tcaSchema (isTimestamp dateParse) value = true ∧
          Shown ["reference_id"] value) ∧
        True ∧ after = () := by
  unfold validateTcaRow tcaSchema Shown
  simp only [bind_eq_ok_iff, record_eq_ok_iff, finiteNumber_minimum_iff,
    finiteNumber_any_iff]
  rw [closedObject_iff]
  simp only [List.forall_mem_cons, List.not_mem_nil, false_implies,
    implies_true, and_true]
  constructor
  · rintro ⟨_, ⟨isRecord, rfl⟩, _, reference, _, measured, _, ⟨fee, _⟩, _,
      ⟨slippage, _⟩, funding⟩
    rw [boundedString_eq_ok_iff (free.read _)] at reference
    rw [isoDateTime_eq_ok_iff (free.read _)] at measured
    exact
      ⟨⟨isRecord, (isRecord.holds_iff (by simp)).2 reference.1.1,
          (isRecord.holds_iff (by simp)).2 measured.1,
          (isRecord.holds_iff (by simp)).2 fee,
          (isRecord.holds_iff (by simp)).2 slippage,
          (optionalNumber_any_iff _ _).1 funding⟩,
        reference.1.2⟩
  · rintro ⟨⟨isRecord, reference, measured, fee, slippage, funding⟩, shown⟩
    exact
      ⟨value, ⟨isRecord, rfl⟩, _,
        (boundedString_eq_ok_iff (free.read _) _ _ _).2
          ⟨⟨(isRecord.holds_iff (by simp)).1 reference, shown⟩, rfl⟩,
        _,
        (isoDateTime_eq_ok_iff (free.read _) _ _).2
          ⟨(isRecord.holds_iff (by simp)).1 measured, rfl⟩,
        _, ⟨(isRecord.holds_iff (by simp)).1 fee, rfl⟩, _,
        ⟨(isRecord.holds_iff (by simp)).1 slippage, rfl⟩,
        (optionalNumber_any_iff _ _).2 funding⟩

/-! ## Snapshots -/

omit dateParse in
/-- A bounded array each of whose items is checked on its own. -/
theorem listed_eq_ok_iff
    (label : String) (bound : Nat) {schema : Schema} {good : Value → Prop}
    {body : Nat → Unit → Value → Checked Unit}
    (spec :
      ∀ item ∈ value.items, ∀ index state after,
        body index state item = .ok after ↔
          (schema item = true ∧ good item) ∧ True ∧ after = ()) :
    (array value label bound >>= fun items => forEntries body 0 () items) =
        .ok () ↔
      boundedArray bound schema value = true ∧
        ∀ item ∈ value.items, good item := by
  have loop := forEntries_eq_ok_iff _ spec
  simp only [bind_eq_ok_iff, array_eq_ok_iff]
  rw [boundedArray_iff]
  constructor
  · rintro ⟨_, ⟨isArray, rfl⟩, walked⟩
    have each := ((loop _ _ _).1 walked).1
    exact
      ⟨⟨isArray, fun item inside => (each item inside).1⟩,
        fun item inside => (each item inside).2⟩
  · rintro ⟨⟨isArray, valid⟩, each⟩
    have walk :
        ∀ (items : List Value),
          Walk (fun _ _ => True) (fun _ _ => ()) () items := by
      intro items
      induction items with
      | nil => trivial
      | cons item rest induction => exact ⟨trivial, induction⟩
    exact
      ⟨_, ⟨isArray, rfl⟩,
        (loop _ _ _).2
          ⟨fun item inside => ⟨valid item inside, each item inside⟩,
            walk _, rfl⟩⟩

theorem validateDecisions_eq_ok_iff (free : PairFree value) :
    validateDecisions dateParse value = .ok () ↔
      boundedArray 200 (decisionSchema (isTimestamp dateParse)) value =
          true ∧
        ∀ decision ∈ value.items,
          Shown ["id", "strategy_id"] decision ∧ ¬ BlankReason decision :=
  listed_eq_ok_iff "decisions" 200 fun _ inside index state after =>
    validateDecision_eq_ok_iff dateParse (free.item inside) index state after

theorem validateLifecycle_eq_ok_iff (free : PairFree value) :
    validateLifecycle dateParse value = .ok () ↔
      boundedArray 200 (eventSchema (isTimestamp dateParse)) value = true ∧
        ∀ event ∈ value.items, Shown ["id", "state"] event :=
  listed_eq_ok_iff "lifecycle" 200 fun _ inside index state after =>
    validateEvent_eq_ok_iff dateParse (free.item inside) index state after

theorem validateTca_eq_ok_iff (free : PairFree value) :
    validateTca dateParse value = .ok () ↔
      boundedArray 200 (tcaSchema (isTimestamp dateParse)) value = true ∧
        ∀ row ∈ value.items, Shown ["reference_id"] row :=
  listed_eq_ok_iff "tca" 200 fun _ inside index state after =>
    validateTcaRow_eq_ok_iff dateParse (free.item inside) index state after

/-- The contract: the schema, texts that are not blank, distinct symbols and
ids, increasing times and ordered bars. -/
structure Conforms (snapshot : Value) : Prop where
  valid : snapshotSchema (isTimestamp dateParse) snapshot = true
  symbols : (texts (snapshot.read "markets") "symbol").Nodup
  markets :
    ∀ market ∈ (snapshot.read "markets").items,
      MarketConforms dateParse market
  decisions :
    ∀ decision ∈ (snapshot.read "decisions").items,
      Shown ["id", "strategy_id"] decision
  lifecycle :
    ∀ event ∈ (snapshot.read "lifecycle").items, Shown ["id", "state"] event
  tca :
    ∀ row ∈ (snapshot.read "tca").items, Shown ["reference_id"] row

/-- No decision has a blank reason code. -/
def ReasonsShown (snapshot : Value) : Prop :=
  ∀ decision ∈ (snapshot.read "decisions").items, ¬ BlankReason decision

/-- What `validateSnapshot` accepts. -/
theorem validateSnapshot_eq_ok_iff
    (free : PairFree value) (result : Value) :
    validateSnapshot dateParse value = .ok result ↔
      (Conforms dateParse value ∧ ReasonsShown value) ∧ result = value := by
  have valid :
      snapshotSchema (isTimestamp dateParse) value = true ↔ _ :=
    closedObject_all_iff value rfl
  simp only [List.forall_mem_cons, List.not_mem_nil, false_implies,
    implies_true, and_true] at valid
  unfold validateSnapshot
  simp only [bind_eq_ok_iff, record_eq_ok_iff, refuseIf_eq_ok_iff,
    pure_eq_ok_iff, Bool.not_eq_false]
  constructor
  · rintro ⟨_, ⟨isRecord, rfl⟩, _, version, _, generated, _, system, _,
      markets, _, decisions, _, lifecycle, _, tca, rfl⟩
    rw [isoDateTime_eq_ok_iff (free.read _)] at generated
    have systemOk := (validateSystem_eq_ok_iff _).1 system
    have marketsOk :=
      (validateMarkets_eq_ok_iff dateParse (free.read _)).1 markets
    have decisionsOk :=
      (validateDecisions_eq_ok_iff dateParse (free.read _)).1 decisions
    have lifecycleOk :=
      (validateLifecycle_eq_ok_iff dateParse (free.read _)).1 lifecycle
    have tcaOk := (validateTca_eq_ok_iff dateParse (free.read _)).1 tca
    refine ⟨⟨⟨?_, ?_, ?_, ?_, ?_, ?_⟩, ?_⟩, rfl⟩
    · exact
        valid.2
          ⟨isRecord, version, generated.1, systemOk, marketsOk.1,
            decisionsOk.1, lifecycleOk.1, tcaOk.1⟩
    · exact marketsOk.2.1
    · exact marketsOk.2.2
    · exact fun decision inside => (decisionsOk.2 decision inside).1
    · exact lifecycleOk.2
    · exact tcaOk.2
    · exact fun decision inside => (decisionsOk.2 decision inside).2
  · rintro ⟨⟨conforms, reasons⟩, rfl⟩
    rcases valid.1 conforms.valid with
      ⟨isRecord, version, generated, system, markets, decisions, lifecycle,
        tca⟩
    refine
      ⟨_, ⟨isRecord, rfl⟩, ⟨⟩, version, _,
        (isoDateTime_eq_ok_iff (free.read _) _ _).2 ⟨generated, rfl⟩, ⟨⟩,
        (validateSystem_eq_ok_iff _).2 system, ⟨⟩,
        (validateMarkets_eq_ok_iff dateParse (free.read _)).2
          ⟨markets, conforms.symbols, conforms.markets⟩,
        ⟨⟩,
        (validateDecisions_eq_ok_iff dateParse (free.read _)).2
          ⟨decisions, fun decision inside =>
            ⟨conforms.decisions decision inside, reasons decision inside⟩⟩,
        ⟨⟩,
        (validateLifecycle_eq_ok_iff dateParse (free.read _)).2
          ⟨lifecycle, conforms.lifecycle⟩,
        ⟨⟩,
        (validateTca_eq_ok_iff dateParse (free.read _)).2
          ⟨tca, conforms.tca⟩,
        rfl⟩

/--
The validator and the contract agree on a value exactly if no decision has a
blank reason code or the value breaks the contract anyway.
-/
theorem validateSnapshot_agrees_iff
    (value : Value) (free : PairFree value) :
    ((∃ result, validateSnapshot dateParse value = .ok result) ↔
        Conforms dateParse value) ↔
      (Conforms dateParse value → ReasonsShown value) := by
  have accepted :
      (∃ result, validateSnapshot dateParse value = .ok result) ↔
        Conforms dateParse value ∧ ReasonsShown value := by
    constructor
    · rintro ⟨result, returned⟩
      exact ((validateSnapshot_eq_ok_iff dateParse free result).1 returned).1
    · intro both
      exact
        ⟨value, (validateSnapshot_eq_ok_iff dateParse free value).2
          ⟨both, rfl⟩⟩
  rw [accepted]
  constructor
  · exact fun same conforms => (same.2 conforms).2
  · exact fun shown => ⟨fun both => both.1, fun conforms =>
      ⟨conforms, shown conforms⟩⟩

end

/-! ## A snapshot with an empty reason code -/

/-- A string. -/
def textValue (text : String) : Value :=
  .string (units text)

/-- An object. -/
def objectValue (members : List (String × Value)) : Value :=
  .object (members.map fun member => (units member.1, member.2))

/-- A `Date.parse` that reads one text. -/
def oneDate (text : Units) : Option Int :=
  if text = units "2026-10-11T00:00:00Z" then some 0 else none

/-- A timestamp. -/
def someTime : Value :=
  textValue "2026-10-11T00:00:00Z"

/-- A decision whose reason code is empty. -/
def unexplained : Value :=
  objectValue
    [("id", textValue "d1"), ("created_at", someTime),
      ("symbol", textValue "BTCUSDT"), ("strategy_id", textValue "s1"),
      ("intent_side", textValue "LONG"),
      ("candidate_state", textValue "CREATED"),
      ("llm_review", textValue "ALLOW"),
      ("risk_decision", textValue "APPROVED"),
      ("execution_state", textValue "FILLED"),
      ("reason_code", textValue "")]

/-- A snapshot with this decision. -/
def unexplainedSnapshot : Value :=
  objectValue
    [("schema_version", textValue "kairos.cockpit.snapshot.v1"),
      ("generated_at", someTime),
      ("system",
        objectValue
          [("runtime_state", textValue "RUNNING"),
            ("trading_mode", textValue "PAPER"),
            ("strategy_policy", textValue "ALLOWLIST"),
            ("readiness",
              objectValue
                [("technical_paper_ready", .bool true),
                  ("paper_qualified", .bool false),
                  ("alpha_ready", .bool false),
                  ("live_ready", .bool false)])]),
      ("markets", .array []), ("decisions", .array [unexplained]),
      ("lifecycle", .array []), ("tca", .array [])]

theorem conforms_unexplained : Conforms oneDate unexplainedSnapshot where
  valid := by decide
  symbols := List.nodup_nil
  markets := nofun
  decisions := by
    rintro decision inside
    rw [List.mem_singleton.1 inside]
    unfold Shown
    decide
  lifecycle := nofun
  tca := nofun

theorem pairFree_textValue
    {text : String} (free : NoPairs (units text)) :
    PairFree (textValue text) :=
  .string _ free

theorem pairFree_objectValue
    {members : List (String × Value)}
    (each : ∀ member ∈ members, PairFree member.2) :
    PairFree (objectValue members) := by
  refine .object _ fun member inside => ?_
  rcases List.mem_map.1 inside with ⟨named, listed, rfl⟩
  exact each named listed

theorem pairFree_unexplained : PairFree unexplained := by
  refine pairFree_objectValue ?_
  simp only [List.forall_mem_cons, List.not_mem_nil, false_implies,
    implies_true, and_true]
  refine ⟨?_, ?_, ?_, ?_, ?_, ?_, ?_, ?_, ?_, ?_⟩ <;>
    exact pairFree_textValue (by unfold NoPairs; decide)

theorem pairFree_unexplainedSnapshot : PairFree unexplainedSnapshot := by
  have text :
      ∀ found ∈ ["kairos.cockpit.snapshot.v1", "2026-10-11T00:00:00Z",
          "RUNNING", "PAPER", "ALLOWLIST"],
        PairFree (textValue found) := by
    have each :
        ∀ found ∈ ["kairos.cockpit.snapshot.v1", "2026-10-11T00:00:00Z",
            "RUNNING", "PAPER", "ALLOWLIST"],
          NoPairs (units found) := by
      unfold NoPairs
      decide
    exact fun found listed => pairFree_textValue (each found listed)
  have readiness :
      PairFree
        (objectValue
          [("technical_paper_ready", .bool true),
            ("paper_qualified", .bool false), ("alpha_ready", .bool false),
            ("live_ready", .bool false)]) := by
    refine pairFree_objectValue ?_
    simp only [List.forall_mem_cons, List.not_mem_nil, false_implies,
      implies_true, and_true]
    exact ⟨.bool _, .bool _, .bool _, .bool _⟩
  refine pairFree_objectValue ?_
  simp only [List.forall_mem_cons, List.not_mem_nil, false_implies,
    implies_true, and_true]
  refine
    ⟨text _ (by simp), text _ (by simp), ?_, .array _ nofun,
      .array _ fun decision inside => ?_, .array _ nofun, .array _ nofun⟩
  · refine pairFree_objectValue ?_
    simp only [List.forall_mem_cons, List.not_mem_nil, false_implies,
      implies_true, and_true]
    exact
      ⟨text _ (by simp), text _ (by simp), text _ (by simp), readiness⟩
  · rw [List.mem_singleton.1 inside]
    exact pairFree_unexplained

theorem validateSnapshot_agrees_iff_unexplained :
    ((∃ result,
          validateSnapshot oneDate unexplainedSnapshot = .ok result) ↔
        Conforms oneDate unexplainedSnapshot) ↔
      (Conforms oneDate unexplainedSnapshot →
        ReasonsShown unexplainedSnapshot) :=
  validateSnapshot_agrees_iff oneDate unexplainedSnapshot
    pairFree_unexplainedSnapshot

/-- The validator refuses a snapshot that the contract admits. -/
theorem validateSnapshot_refuses_unexplained :
    PairFree unexplainedSnapshot ∧ Conforms oneDate unexplainedSnapshot ∧
      ¬ ∃ result,
        validateSnapshot oneDate unexplainedSnapshot = .ok result := by
  refine ⟨pairFree_unexplainedSnapshot, conforms_unexplained, ?_⟩
  rintro ⟨result, returned⟩
  have failed :
      (validateSnapshot oneDate unexplainedSnapshot).isOk = false := by
    decide
  rw [returned] at failed
  cases failed

end KairosDeploy.Cockpit.SnapshotContract
