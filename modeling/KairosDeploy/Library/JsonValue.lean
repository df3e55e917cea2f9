import KairosDeploy.Library.PyNumber

/-!
# JSON values

The values that `json.loads` returns.  A `dict` is kept as its members in the
order of their keys: two dictionaries are equal in Python when they have the
same members in any order, and the code that uses this module never depends on
the order in which members were inserted.
-/

namespace KairosDeploy.Library.JsonValue

open KairosDeploy.Library.PyNumber

/-- A JSON value. -/
inductive Json where
  | null
  | bool (value : Bool)
  | int (value : Int)
  | float (value : PyFloat)
  | text (value : String)
  | array (items : List Json)
  | object (members : List (String × Json))

/-- The members of an object. -/
abbrev Members := List (String × Json)

/-! ## Dictionaries -/

/-- Keys occur once and in order. -/
def KeysSorted (members : Members) : Prop :=
  members.Pairwise fun earlier later => earlier.1 < later.1

/-- `members[key] = value`. -/
def insertMember (key : String) (value : Json) : Members → Members
  | [] => [(key, value)]
  | (other, stored) :: rest =>
      if key < other then
        (key, value) :: (other, stored) :: rest
      else if key = other then
        (key, value) :: rest
      else
        (other, stored) :: insertMember key value rest

/-- The dictionary that a display with these entries builds. -/
def dict (entries : Members) : Members :=
  entries.foldl (fun members entry => insertMember entry.1 entry.2 members) []

/-- `members.get(key)`, absent where the key is. -/
def getMember (members : Members) (key : String) : Option Json :=
  members.lookup key

/-- `members.get(key)`, where a missing key gives `None`. -/
def get (members : Members) (key : String) : Json :=
  (getMember members key).getD .null

/-- `set(members)`. -/
def keySet (members : Members) : Finset String :=
  (members.map Prod.fst).toFinset

theorem keySet_nil : keySet [] = ∅ :=
  rfl

theorem keySet_cons (entry : String × Json) (rest : Members) :
    keySet (entry :: rest) = insert entry.1 (keySet rest) :=
  List.toFinset_cons

theorem mem_insertMember
    {key : String} {value : Json} {members : Members}
    {entry : String × Json}
    (member : entry ∈ insertMember key value members) :
    entry = (key, value) ∨ entry ∈ members := by
  induction members with
  | nil => exact Or.inl (List.mem_singleton.1 member)
  | cons head rest induction =>
      unfold insertMember at member
      split_ifs at member with before same
      · exact List.mem_cons.1 member
      · rcases List.mem_cons.1 member with isNew | inRest
        · exact Or.inl isNew
        · exact Or.inr (List.mem_cons_of_mem _ inRest)
      · rcases List.mem_cons.1 member with isHead | inRest
        · exact Or.inr (isHead ▸ List.mem_cons_self)
        · exact
            (induction inRest).imp id fun old =>
              List.mem_cons_of_mem _ old

theorem mem_dict
    {entries : Members} {entry : String × Json}
    (member : entry ∈ dict entries) : entry ∈ entries := by
  suffices
      ∀ members,
        entry ∈
            entries.foldl
              (fun members entry => insertMember entry.1 entry.2 members)
              members →
          entry ∈ members ∨ entry ∈ entries from
    (this [] member).resolve_left List.not_mem_nil
  clear member
  induction entries with
  | nil => exact fun _ member => Or.inl member
  | cons head rest induction =>
      intro members member
      rcases induction _ member with inserted | inRest
      · rcases mem_insertMember inserted with isHead | old
        · exact Or.inr (isHead ▸ List.mem_cons_self)
        · exact Or.inl old
      · exact Or.inr (List.mem_cons_of_mem _ inRest)

theorem keysSorted_insertMember
    {members : Members} (sorted : KeysSorted members)
    (key : String) (value : Json) :
    KeysSorted (insertMember key value members) := by
  induction members with
  | nil => exact List.pairwise_singleton _ _
  | cons head rest induction =>
      rcases List.pairwise_cons.1 sorted with ⟨headLess, restSorted⟩
      unfold insertMember
      split_ifs with before same
      · refine List.pairwise_cons.2 ⟨?_, sorted⟩
        intro entry member
        rcases List.mem_cons.1 member with isHead | inRest
        · exact isHead ▸ before
        · exact before.trans (headLess entry inRest)
      · exact List.pairwise_cons.2 ⟨same ▸ headLess, restSorted⟩
      · refine List.pairwise_cons.2 ⟨?_, induction restSorted⟩
        intro entry member
        rcases mem_insertMember member with isNew | old
        · rw [isNew]
          exact lt_of_le_of_ne (not_lt.1 before) (Ne.symm same)
        · exact headLess entry old

theorem keysSorted_dict (entries : Members) : KeysSorted (dict entries) := by
  suffices
      ∀ members, KeysSorted members →
        KeysSorted
          (entries.foldl
            (fun members entry => insertMember entry.1 entry.2 members)
            members) from
    this [] List.Pairwise.nil
  induction entries with
  | nil => exact fun _ sorted => sorted
  | cons entry rest induction =>
      intro members sorted
      exact induction _ (keysSorted_insertMember sorted entry.1 entry.2)

@[simp]
theorem getMember_insertMember_self
    (members : Members) (key : String) (value : Json) :
    getMember (insertMember key value members) key = some value := by
  induction members with
  | nil => simp [insertMember, getMember]
  | cons head rest induction =>
      unfold insertMember
      split_ifs with before same
      · simp [getMember]
      · simp [getMember]
      · rw [getMember, List.lookup_cons, beq_eq_false_iff_ne.2 same]
        exact induction

theorem getMember_insertMember_of_ne
    (members : Members) {key other : String} (value : Json)
    (different : other ≠ key) :
    getMember (insertMember key value members) other =
      getMember members other := by
  have skipped : (other == key) = false := beq_eq_false_iff_ne.2 different
  induction members with
  | nil => simp [insertMember, getMember, List.lookup_cons, skipped]
  | cons head rest induction =>
      rcases head with ⟨headKey, stored⟩
      unfold insertMember
      split_ifs with before same
      · simp [getMember, List.lookup_cons, skipped]
      · subst same
        simp [getMember, List.lookup_cons, skipped]
      · simp only [getMember, List.lookup_cons] at induction ⊢
        rw [induction]

/-- The last entry of a display with a key decides. -/
theorem getMember_dict (entries : Members) (key : String) :
    getMember (dict entries) key = entries.reverse.lookup key := by
  induction entries using List.reverseRecOn with
  | nil => rfl
  | append_singleton front entry induction =>
      rw [List.reverse_append, List.reverse_singleton, List.singleton_append]
      unfold dict at induction ⊢
      rw [List.foldl_append, List.foldl_cons, List.foldl_nil]
      by_cases same : key = entry.1
      · rw [same, getMember_insertMember_self, List.lookup_cons]
        simp
      · rw [getMember_insertMember_of_ne _ _ same, induction,
          List.lookup_cons, beq_eq_false_iff_ne.2 same]

theorem get_dict (entries : Members) (key : String) :
    get (dict entries) key = (entries.reverse.lookup key).getD .null := by
  rw [get, getMember_dict]

/-- Inserting a greatest key appends it. -/
theorem insertMember_of_forall_lt
    {members : Members} {key : String} (value : Json)
    (greatest : ∀ entry ∈ members, entry.1 < key) :
    insertMember key value members = members ++ [(key, value)] := by
  induction members with
  | nil => rfl
  | cons head rest induction =>
      rw [List.forall_mem_cons] at greatest
      unfold insertMember
      rw [if_neg greatest.1.asymm, if_neg greatest.1.ne', induction greatest.2]
      rfl

/-- Sorted members are the dictionary that they build. -/
theorem dict_of_keysSorted
    {members : Members} (sorted : KeysSorted members) :
    dict members = members := by
  induction members using List.reverseRecOn with
  | nil => rfl
  | append_singleton front entry induction =>
      rcases List.pairwise_append.1 sorted with ⟨frontSorted, _, before⟩
      unfold dict at induction ⊢
      rw [List.foldl_append, List.foldl_cons, List.foldl_nil,
        induction frontSorted]
      exact
        insertMember_of_forall_lt entry.2 fun other member =>
          before other member entry (List.mem_singleton_self entry)

theorem perm_insertMember
    {members : Members} {key : String} (value : Json)
    (absent : key ∉ members.map Prod.fst) :
    (insertMember key value members).Perm ((key, value) :: members) := by
  induction members with
  | nil => exact List.Perm.refl _
  | cons head rest induction =>
      rw [List.map_cons, List.mem_cons, not_or] at absent
      unfold insertMember
      rw [if_neg absent.1]
      split_ifs with before
      · exact List.Perm.refl _
      · exact
          ((induction absent.2).cons head).trans
            (List.Perm.swap (key, value) head rest)

/-- A display whose keys are distinct only orders its entries. -/
theorem perm_dict
    {entries : Members} (distinct : (entries.map Prod.fst).Nodup) :
    (dict entries).Perm entries := by
  induction entries using List.reverseRecOn with
  | nil => exact List.Perm.refl _
  | append_singleton front entry induction =>
      rw [List.map_append, List.map_singleton,
        List.nodup_append_comm] at distinct
      rcases List.nodup_cons.1 distinct with ⟨absent, frontDistinct⟩
      have ordered := induction frontDistinct
      have stillAbsent : entry.1 ∉ (dict front).map Prod.fst := fun listed =>
        absent ((ordered.map Prod.fst).mem_iff.1 listed)
      unfold dict at ordered stillAbsent ⊢
      rw [List.foldl_append, List.foldl_cons, List.foldl_nil]
      exact
        (perm_insertMember entry.2 stillAbsent).trans
          ((ordered.cons entry).trans
            (List.perm_append_singleton entry front).symm)

/-- The dictionary of a display, found by listing its entries in order. -/
theorem dict_eq_of_subset
    {entries sorted : Members} (keys : KeysSorted sorted)
    (distinct : (entries.map Prod.fst).Nodup) (subset : sorted ⊆ entries)
    (length : entries.length = sorted.length) :
    dict entries = sorted := by
  have sortedDistinct : sorted.Nodup :=
    keys.imp fun before equal => before.ne (congrArg Prod.fst equal)
  have listed : sorted.Perm entries :=
    (sortedDistinct.subperm subset).perm_of_length_le length.le
  exact
    List.Perm.eq_of_pairwise
      (fun _ _ _ _ before after => absurd after before.asymm)
      (keysSorted_dict entries) keys ((perm_dict distinct).trans listed.symm)

theorem mem_iff_getMember
    {members : Members} (sorted : KeysSorted members)
    (key : String) (value : Json) :
    (key, value) ∈ members ↔ getMember members key = some value := by
  induction members with
  | nil => simp [getMember]
  | cons head rest induction =>
      rcases List.pairwise_cons.1 sorted with ⟨before, restSorted⟩
      have found := induction restSorted
      unfold getMember at found ⊢
      rw [List.mem_cons, List.lookup_cons, found]
      by_cases same : key = head.1
      · subst same
        have absent : List.lookup head.1 rest ≠ some value := fun listed =>
          lt_irrefl head.1 (before (head.1, value) (found.2 listed))
        simp [absent, Prod.ext_iff, eq_comm]
      · simp [same, beq_false_of_ne same, Prod.ext_iff]

/-- A display whose keys differ gives each key its own value. -/
theorem get_dict_of_mem
    {entries : Members} (distinct : (entries.map Prod.fst).Nodup)
    {key : String} {value : Json} (member : (key, value) ∈ entries) :
    get (dict entries) key = value := by
  have found :=
    (mem_iff_getMember (keysSorted_dict entries) key value).1
      ((perm_dict distinct).mem_iff.2 member)
  rw [get, found]
  rfl


/-- Sorted members are determined by what their keys give. -/
theorem eq_of_getMember_eq
    {left right : Members} (leftSorted : KeysSorted left)
    (rightSorted : KeysSorted right)
    (equal : ∀ key, getMember left key = getMember right key) :
    left = right := by
  have distinct : ∀ {members : Members}, KeysSorted members → members.Nodup :=
    fun sorted => sorted.imp fun before same =>
      before.ne (congrArg Prod.fst same)
  have listed : left.Perm right :=
    (List.perm_ext_iff_of_nodup (distinct leftSorted)
        (distinct rightSorted)).2 fun entry => by
      rw [mem_iff_getMember leftSorted, mem_iff_getMember rightSorted,
        equal]
  exact
    List.Perm.eq_of_pairwise
      (fun _ _ _ _ before after => absurd after before.asymm)
      leftSorted rightSorted listed

theorem getMember_eq_none_iff (members : Members) (key : String) :
    getMember members key = none ↔ key ∉ keySet members := by
  unfold getMember keySet
  rw [List.mem_toFinset, List.lookup_eq_none_iff, List.mem_map, not_exists]
  constructor
  · rintro apart entry ⟨member, rfl⟩
    have different := apart entry member
    simp at different
  · intro absent entry member
    rw [bne_iff_ne]
    intro same
    exact absent entry ⟨member, same.symm⟩

/-- The keys of a display. -/
theorem keySet_dict (entries : Members) :
    keySet (dict entries) = keySet entries := by
  ext key
  rw [← not_iff_not, ← getMember_eq_none_iff, getMember_dict,
    ← getMember_eq_none_iff, getMember]
  simp [List.lookup_eq_none_iff]

/-- Removing a key that was just inserted gives back the members. -/
theorem filter_insertMember
    {members : Members} {key : String} (value : Json)
    (absent : ∀ entry ∈ members, entry.1 ≠ key) :
    (insertMember key value members).filter (fun entry => entry.1 ≠ key) =
      members := by
  induction members with
  | nil => simp [insertMember]
  | cons head rest induction =>
      have kept :
          (head :: rest).filter (fun entry => entry.1 ≠ key) =
            head :: rest :=
        List.filter_eq_self.2 fun entry member =>
          decide_eq_true (absent entry member)
      rw [List.forall_mem_cons] at absent
      unfold insertMember
      rw [if_neg (Ne.symm absent.1)]
      split_ifs with before
      · rw [List.filter_cons_of_neg (by simp)]
        exact kept
      · rw [List.filter_cons_of_pos (by simpa using absent.1),
          induction absent.2]

/-- Keys are sorted at every depth, and all floats are admitted. -/
inductive WellFormed (admits : PyFloat → Prop) : Json → Prop
  | null : WellFormed admits .null
  | bool (value : Bool) : WellFormed admits (.bool value)
  | int (value : Int) : WellFormed admits (.int value)
  | float {value : PyFloat} (admitted : admits value) :
      WellFormed admits (.float value)
  | text (value : String) : WellFormed admits (.text value)
  | array {items : List Json}
      (each : ∀ item ∈ items, WellFormed admits item) :
      WellFormed admits (.array items)
  | object {members : Members} (sorted : KeysSorted members)
      (each : ∀ member ∈ members, WellFormed admits member.2) :
      WellFormed admits (.object members)

/-- A display of well-formed values is well formed. -/
theorem wellFormed_dict
    {admits : PyFloat → Prop} {entries : Members}
    (each : ∀ entry ∈ entries, WellFormed admits entry.2) :
    WellFormed admits (.object (dict entries)) :=
  .object (keysSorted_dict entries) fun entry member =>
    each entry (mem_dict member)

/-- `value is True`. -/
def Json.isTrue : Json → Bool
  | .bool true => true
  | _ => false

/-- `value is False`. -/
def Json.isFalse : Json → Bool
  | .bool false => true
  | _ => false

/-- `bool(value)`. -/
def Json.truthy : Json → Bool
  | .null => false
  | .bool value => value
  | .int value => value ≠ 0
  | .float value => pyEqual value.comparable (comparableInt 0) = false
  | .text value => value ≠ ""
  | .array items => !items.isEmpty
  | .object members => !members.isEmpty

/-! ## Python equality -/

/-- A number in a comparison, absent for what is not a number. -/
def Json.number : Json → Option Comparable
  | .bool value => some (comparableInt (if value then 1 else 0))
  | .int value => some (comparableInt value)
  | .float value => some value.comparable
  | _ => none

mutual

/-- `left == right`. -/
def Json.pyEq : Json → Json → Bool
  | .null, .null => true
  | .text left, .text right => left = right
  | .array left, .array right => pyEqItems left right
  | .object left, .object right => pyEqMembers left right
  | left, right =>
      match left.number, right.number with
      | some leftValue, some rightValue => pyEqual leftValue rightValue
      | _, _ => false

/-- Lists are equal when their items are, one by one. -/
def pyEqItems : List Json → List Json → Bool
  | [], [] => true
  | left :: leftRest, right :: rightRest =>
      left.pyEq right && pyEqItems leftRest rightRest
  | _, _ => false

/-- Dictionaries are equal when they have the same keys and values. -/
def pyEqMembers : Members → Members → Bool
  | [], [] => true
  | (leftKey, left) :: leftRest, (rightKey, right) :: rightRest =>
      leftKey = rightKey && left.pyEq right &&
        pyEqMembers leftRest rightRest
  | _, _ => false

end

@[simp]
theorem pyEq_text_iff (value : Json) (text : String) :
    value.pyEq (.text text) = true ↔ value = .text text := by
  cases value <;> simp [Json.pyEq, Json.number]

@[simp]
theorem pyEq_int_iff (left right : Int) :
    (Json.int left).pyEq (.int right) = true ↔ left = right := by
  simp [Json.pyEq, Json.number, pyEqual, comparableInt]

theorem pyEqItems_self
    {items : List Json} (each : ∀ item ∈ items, item.pyEq item = true) :
    pyEqItems items items = true := by
  induction items with
  | nil => rfl
  | cons head rest induction =>
      rw [List.forall_mem_cons] at each
      rw [pyEqItems, each.1, induction each.2]
      rfl

theorem pyEqMembers_self
    {members : Members}
    (each : ∀ member ∈ members, member.2.pyEq member.2 = true) :
    pyEqMembers members members = true := by
  induction members with
  | nil => rfl
  | cons head rest induction =>
      rw [List.forall_mem_cons] at each
      rw [pyEqMembers, each.1, induction each.2, decide_eq_true rfl]
      rfl

/-- A value without NaN equals itself. -/
theorem pyEq_self
    {admits : PyFloat → Prop}
    (comparable : ∀ float, admits float → float.comparable.isSome = true)
    {value : Json} (formed : WellFormed admits value) :
    value.pyEq value = true := by
  have equals :
      ∀ number : Comparable, number.isSome = true →
        pyEqual number number = true := by
    intro number isNumber
    rcases Option.isSome_iff_exists.1 isNumber with ⟨known, rfl⟩
    exact decide_eq_true rfl
  induction formed with
  | null => rfl
  | bool value =>
      exact equals (comparableInt (if value then 1 else 0)) rfl
  | int value => exact equals (comparableInt value) rfl
  | float admitted => exact equals _ (comparable _ admitted)
  | text value => exact (pyEq_text_iff _ _).2 rfl
  | array _ induction => exact pyEqItems_self induction
  | object _ _ induction => exact pyEqMembers_self induction

end KairosDeploy.Library.JsonValue
