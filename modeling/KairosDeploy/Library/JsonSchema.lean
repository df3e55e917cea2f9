import KairosDeploy.Library.PyNumber

/-!
# JSON Schema over the values of `JSON.parse`

A string is the list of its UTF-16 code units, a number a binary64 value, an
object the list of its members, of which the first with a key is read.  A
schema is a conjunction of keywords, each of which constrains the values of
its own type only.  Lengths are counted in code points.
-/

namespace KairosDeploy.Library.JsonSchema

open KairosDeploy.Library.PyNumber

/-! ## Values -/

/-- The code units of a string. -/
abbrev Units : Type := List UInt16

/-- The code units of a text of the basic plane. -/
def units (text : String) : Units :=
  text.toList.map fun character => UInt16.ofNat character.toNat

/-- The first unit of a surrogate pair. -/
def isHigh (unit : UInt16) : Bool :=
  0xD800 ≤ unit && unit < 0xDC00

/-- The second unit of a surrogate pair. -/
def isLow (unit : UInt16) : Bool :=
  0xDC00 ≤ unit && unit < 0xE000

/-- The number of code points: a surrogate pair is one. -/
def codePoints : Units → Nat
  | first :: second :: rest =>
      if isHigh first && isLow second then
        codePoints rest + 1
      else
        codePoints (second :: rest) + 1
  | [_] => 1
  | [] => 0

/-- No two neighbours are a surrogate pair. -/
def NoPairs (text : Units) : Prop :=
  text.IsChain fun first second => ¬ (isHigh first && isLow second) = true

theorem codePoints_eq_length {text : Units} (free : NoPairs text) :
    codePoints text = text.length := by
  fun_induction codePoints text with
  | case1 first second rest pair _ =>
      exact absurd pair (List.isChain_cons_cons.1 free).1
  | case2 first second rest _ induction =>
      rw [induction (List.isChain_cons_cons.1 free).2]
      rfl
  | case3 => rfl
  | case4 => rfl

/-- What `JSON.parse` returns. -/
inductive Value where
  | null
  | bool (value : Bool)
  | number (value : PyFloat)
  | string (text : Units)
  | array (items : List Value)
  | object (members : List (Units × Value))

/-- The members of an object. -/
abbrev Members : Type := List (Units × Value)

/-- No string inside the value has a surrogate pair. -/
inductive PairFree : Value → Prop where
  | null : PairFree .null
  | bool (value : Bool) : PairFree (.bool value)
  | number (value : PyFloat) : PairFree (.number value)
  | string (text : Units) (free : NoPairs text) : PairFree (.string text)
  | array (items : List Value) (each : ∀ item ∈ items, PairFree item) :
      PairFree (.array items)
  | object (members : Members)
      (each : ∀ member ∈ members, PairFree member.2) :
      PairFree (.object members)

/-- The member with a key. -/
def lookup (members : Members) (key : String) : Option Value :=
  List.lookup (units key) members

namespace Value

/-- The members of an object, none of another value. -/
def members : Value → Members
  | object members => members
  | _ => []

/-- The items of an array, none of another value. -/
def items : Value → List Value
  | array items => items
  | _ => []

/-- The units of a string, none of another value. -/
def text : Value → Units
  | string text => text
  | _ => []

/-- The value of a finite number. -/
def rational : Value → ℚ
  | number (.finite float) => float.value
  | _ => 0

/-- A member of an object, `null` where there is none. -/
def read (value : Value) (key : String) : Value :=
  (lookup value.members key).getD null

end Value

theorem PairFree.read
    {value : Value} (free : PairFree value) (key : String) :
    PairFree (value.read key) := by
  unfold Value.read
  cases found : lookup value.members key with
  | none => exact .null
  | some member =>
      cases free with
      | object members each =>
          rcases List.lookup_eq_some_iff.1 found with ⟨before, after, split, _⟩
          refine each (units key, member) ?_
          change members = _ at split
          rw [split]
          exact List.mem_append_right _ List.mem_cons_self
      | _ => cases found

theorem PairFree.item
    {value item : Value} (free : PairFree value)
    (member : item ∈ value.items) :
    PairFree item := by
  cases free with
  | array items each => exact each item member
  | _ => cases member

theorem PairFree.text
    {value : Value} (free : PairFree value) : NoPairs value.text := by
  cases free with
  | string text free => exact free
  | _ => exact .nil

/-! ## Keywords -/

/-- A schema, as the test that it describes. -/
abbrev Schema : Type := Value → Bool

/-- The values of `type`. -/
inductive Kind where
  | null
  | boolean
  | number
  | integer
  | string
  | array
  | object
deriving DecidableEq, Repr

/-- A value is of a type.  An integer has no fractional part. -/
def Kind.holds : Kind → Value → Bool
  | null, .null => true
  | boolean, .bool _ => true
  | number, .number value => value.isFinite
  | integer, .number (.finite float) => float.value.isInt
  | string, .string _ => true
  | array, .array _ => true
  | object, .object _ => true
  | _, _ => false

/-- All keywords of a schema. -/
def all (keywords : List Schema) : Schema :=
  fun value => keywords.all fun keyword => keyword value

/-- `type`. -/
def type (kinds : List Kind) : Schema :=
  fun value => kinds.any fun kind => kind.holds value

/-- `enum`, of strings. -/
def enum (texts : List String) : Schema
  | .string text => (texts.map units).contains text
  | _ => false

/-- `const`, of a string. -/
def const (text : String) : Schema :=
  enum [text]

/-- `maxItems`. -/
def maxItems (bound : Nat) : Schema
  | .array items => items.length ≤ bound
  | _ => true

/-- `items`. -/
def items (schema : Schema) : Schema
  | .array items => items.all schema
  | _ => true

/-- `required`. -/
def required (keys : List String) : Schema
  | .object members => keys.all fun key => (lookup members key).isSome
  | _ => true

/-- `properties`. -/
def properties (schemas : List (String × Schema)) : Schema
  | .object members =>
      schemas.all fun entry =>
        match lookup members entry.1 with
        | some value => entry.2 value
        | none => true
  | _ => true

/-- `additionalProperties: false` beside properties of these names. -/
def noOtherProperties (keys : List String) : Schema
  | .object members =>
      members.all fun member => (keys.map units).contains member.1
  | _ => true

/-- `minLength`. -/
def minLength (bound : Nat) : Schema
  | .string text => bound ≤ codePoints text
  | _ => true

/-- `maxLength`. -/
def maxLength (bound : Nat) : Schema
  | .string text => codePoints text ≤ bound
  | _ => true

/-- `pattern` and `format`: a test of strings. -/
def format (test : Units → Bool) : Schema
  | .string text => test text
  | _ => true

/-- `minimum`. -/
def minimum (bound : ℚ) : Schema
  | .number (.finite float) => bound ≤ float.value
  | _ => true

/-- `exclusiveMinimum`. -/
def exclusiveMinimum (bound : ℚ) : Schema
  | .number (.finite float) => bound < float.value
  | _ => true

/-- An object with these properties and no others. -/
def closedObject (keys : List String) (schemas : List (String × Schema)) :
    Schema :=
  all
    [type [.object], noOtherProperties (schemas.map Prod.fst),
      required keys, properties schemas]

/-- An array with at most so many items. -/
def boundedArray (bound : Nat) (schema : Schema) : Schema :=
  all [type [.array], maxItems bound, items schema]

/-! ## What the keywords say -/

/-- An object whose keys are allowed and that has the required ones. -/
structure IsRecord (allowed keys : List String) (value : Value) : Prop where
  isObject : ∃ members, value = .object members
  allowed : ∀ member ∈ value.members, member.1 ∈ allowed.map units
  present : ∀ key ∈ keys, (lookup value.members key).isSome = true

/-- A property holds of the member with its name, if there is one. -/
def Holds (value : Value) (entry : String × Schema) : Prop :=
  ∀ member, lookup value.members entry.1 = some member →
    entry.2 member = true

theorem closedObject_iff
    (keys : List String) (schemas : List (String × Schema)) (value : Value) :
    closedObject keys schemas value = true ↔
      IsRecord (schemas.map Prod.fst) keys value ∧
        ∀ entry ∈ schemas, Holds value entry := by
  unfold closedObject all
  simp only [List.all_cons, List.all_nil, Bool.and_true, Bool.and_eq_true]
  cases value with
  | object members =>
      constructor
      · rintro ⟨_, only, present, holds⟩
        refine ⟨⟨⟨members, rfl⟩, ?_, ?_⟩, ?_⟩
        · intro member inside
          exact List.contains_iff_mem.1 (List.all_eq_true.1 only member inside)
        · exact List.all_eq_true.1 present
        · intro entry listed member found
          have passed := List.all_eq_true.1 holds entry listed
          change lookup members entry.1 = some member at found
          rw [found] at passed
          exact passed
      · rintro ⟨⟨_, only, present⟩, holds⟩
        refine ⟨rfl, ?_, ?_, ?_⟩
        · exact List.all_eq_true.2 fun member inside =>
            List.contains_iff_mem.2 (only member inside)
        · exact List.all_eq_true.2 present
        · refine List.all_eq_true.2 fun entry listed => ?_
          have passed := holds entry listed
          unfold Holds at passed
          change ∀ member, lookup members entry.1 = some member → _ at passed
          cases found : lookup members entry.1 with
          | none => rfl
          | some member => exact passed member found
  | _ =>
      constructor
      · rintro ⟨wrong, _⟩
        cases wrong
      · rintro ⟨⟨⟨_, wrong⟩, _, _⟩, _⟩
        cases wrong

/-- A property of a required member. -/
theorem IsRecord.holds_iff
    {allowed keys : List String} {value : Value}
    (isRecord : IsRecord allowed keys value)
    {entry : String × Schema} (listed : entry.1 ∈ keys) :
    Holds value entry ↔ entry.2 (value.read entry.1) = true := by
  rcases Option.isSome_iff_exists.1 (isRecord.present _ listed) with
    ⟨member, found⟩
  have same : value.read entry.1 = member := by
    unfold Value.read
    rw [found]
    rfl
  rw [same]
  constructor
  · exact fun holds => holds member found
  · intro passed other foundOther
    rw [found] at foundOther
    cases foundOther
    exact passed

/-- An object whose properties are all required. -/
theorem closedObject_all_iff
    {keys : List String} {schemas : List (String × Schema)} (value : Value)
    (same : keys = schemas.map Prod.fst) :
    closedObject keys schemas value = true ↔
      IsRecord keys keys value ∧
        ∀ entry ∈ schemas, entry.2 (value.read entry.1) = true := by
  rw [closedObject_iff, ← same]
  refine and_congr_right fun isRecord => ?_
  refine forall₂_congr fun entry listed => ?_
  refine isRecord.holds_iff ?_
  rw [same]
  exact List.mem_map_of_mem listed

/-- An array with at most so many items. -/
structure IsArray (bound : Nat) (value : Value) : Prop where
  isArray : ∃ items, value = .array items
  length_le : value.items.length ≤ bound

theorem boundedArray_iff
    (bound : Nat) (schema : Schema) (value : Value) :
    boundedArray bound schema value = true ↔
      IsArray bound value ∧ ∀ item ∈ value.items, schema item = true := by
  unfold boundedArray all
  simp only [List.all_cons, List.all_nil, Bool.and_true, Bool.and_eq_true]
  cases value with
  | array items =>
      constructor
      · rintro ⟨_, short, each⟩
        exact
          ⟨⟨⟨items, rfl⟩, of_decide_eq_true short⟩,
            List.all_eq_true.1 each⟩
      · rintro ⟨⟨_, short⟩, each⟩
        exact ⟨rfl, decide_eq_true short, List.all_eq_true.2 each⟩
  | _ =>
      constructor
      · rintro ⟨wrong, _⟩
        cases wrong
      · rintro ⟨⟨⟨_, wrong⟩, _⟩, _⟩
        cases wrong

/-- The smallest positive value. -/
theorem FiniteFloat.smallest_le_iff (float : FiniteFloat) :
    (2 : ℚ) ^ (-1074 : ℤ) ≤ float.value ↔ 0 < float.value := by
  have smallest : (0 : ℚ) < 2 ^ (-1074 : ℤ) := by positivity
  constructor
  · exact fun least => smallest.trans_le least
  · intro positive
    have power : (0 : ℚ) < 2 ^ float.exponent := by positivity
    have parts := float.normal
    unfold FiniteFloat.value at positive ⊢
    cases sign : float.negative with
    | true =>
        exfalso
        rw [sign, if_pos rfl] at positive
        have mantissa : (0 : ℚ) ≤ float.mantissa := Nat.cast_nonneg _
        nlinarith [mul_nonneg mantissa power.le]
    | false =>
        rw [sign] at positive
        rw [if_neg Bool.false_ne_true, one_mul] at positive ⊢
        have mantissa : 1 ≤ float.mantissa := by
          by_contra zero
          have none : float.mantissa = 0 := by omega
          rw [none, Nat.cast_zero, zero_mul] at positive
          exact lt_irrefl _ positive
        have least : (1 : ℚ) ≤ float.mantissa := by exact_mod_cast mantissa
        calc (2 : ℚ) ^ (-1074 : ℤ) ≤ 2 ^ float.exponent :=
              zpow_le_zpow_right₀ (by norm_num) parts.2.1
          _ ≤ float.mantissa * 2 ^ float.exponent :=
              le_mul_of_one_le_left power.le least

end KairosDeploy.Library.JsonSchema
