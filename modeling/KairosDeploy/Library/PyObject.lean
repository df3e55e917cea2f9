import KairosDeploy.Library.JsonText

/-!
# Python code over JSON values

Validators of documents read them with `get`, `or`, `set`, `str` and `in`, and
append a message for every test that fails.  Where a value does not have the
method that is called, Python raises; here the result is then absent.
-/

namespace KairosDeploy.Library.PyObject

open KairosDeploy.Library.PyNumber
open KairosDeploy.Library.JsonValue
open KairosDeploy.Library.JsonText

/-! ## Reading values -/

/-- `lower` and `casefold` of ASCII texts. -/
def asciiLower (text : String) : String :=
  String.ofList (text.toList.map Char.toLower)

/-- `bool(value)`. -/
def truthy : Json → Bool
  | .null => false
  | .bool value => value
  | .int value => value ≠ 0
  | .float (.finite value) => value.mantissa ≠ 0
  | .float _ => true
  | .text value => value ≠ ""
  | .array items => !items.isEmpty
  | .object members => !members.isEmpty

/-- `value.get(key, default)`, absent where `value` is not a `dict`. -/
def getOr (value : Json) (key : String) (default : Json) : Option Json :=
  match value with
  | .object members => some ((getMember members key).getD default)
  | _ => none

/-- `value.get(key)`. -/
def getKey (value : Json) (key : String) : Option Json :=
  getOr value key .null

/-- `value or {}`. -/
def orDict (value : Json) : Json :=
  if truthy value then value else .object []

/-- `value or []`. -/
def orList (value : Json) : Json :=
  if truthy value then value else .array []

/-- `iter(value)`: the keys of a `dict`, the characters of a text. -/
def iterate : Json → Option (List Json)
  | .array items => some items
  | .object members => some (members.map fun member => .text member.1)
  | .text value =>
      some
        (value.toList.map fun character =>
          .text (String.ofList [character]))
  | _ => none

/-- Whether the value can be an element of a `set`. -/
def hashable : Json → Bool
  | .array _ => false
  | .object _ => false
  | _ => true

/-- `set(value)`, as the list of its elements. -/
def pySet (value : Json) : Option (List Json) := do
  let items ← iterate value
  if items.all hashable then some items else none

/-- Whether a value is this text. -/
def isText (text : String) : Json → Bool
  | .text value => value = text
  | _ => false

/-- `text in items`. -/
def hasText (items : List Json) (text : String) : Bool :=
  items.any (isText text)

/-- `set(items) == texts`. -/
def sameTexts (items : List Json) (texts : List String) : Bool :=
  items.all (fun item => texts.any fun text => isText text item) &&
    texts.all (hasText items)

@[simp]
theorem isText_iff (text : String) (value : Json) :
    isText text value = true ↔ value = .text text := by
  cases value <;> simp [isText]

@[simp]
theorem hasText_iff (items : List Json) (text : String) :
    hasText items text = true ↔ Json.text text ∈ items := by
  unfold hasText
  rw [List.any_eq_true]
  constructor
  · rintro ⟨item, listed, same⟩
    exact (isText_iff text item).1 same ▸ listed
  · intro listed
    exact ⟨.text text, listed, (isText_iff text _).2 rfl⟩

theorem sameTexts_iff (items : List Json) (texts : List String) :
    sameTexts items texts = true ↔
      ∀ item, item ∈ items ↔ ∃ text ∈ texts, item = .text text := by
  simp only [sameTexts, Bool.and_eq_true, List.all_eq_true, List.any_eq_true,
    isText_iff, hasText_iff]
  constructor
  · rintro ⟨only, all⟩ item
    constructor
    · exact only item
    · rintro ⟨text, listed, rfl⟩
      exact all text listed
  · intro same
    exact
      ⟨fun item => (same item).1, fun text listed =>
        (same (.text text)).2 ⟨text, listed, rfl⟩⟩

/-! ## Texts -/

/-- What the built-in functions make of values that are not texts. -/
structure Builtins where
  /-- `str` of a float, a list or a `dict`. -/
  repr : Json → String
  /-- `int`, absent where it raises. -/
  int : Json → Option Int
  /-- `float(left) >= float(right)`, absent where one of the two raises. -/
  floatGe : Json → Json → Option Bool
  casefold : String → String
  lower : String → String

/-- `str(value)`. -/
def Builtins.str (builtins : Builtins) : Json → String
  | .null => "None"
  | .bool true => "True"
  | .bool false => "False"
  | .int value => String.ofList (writeInt value)
  | .text value => value
  | value => builtins.repr value

/-- `part in text`. -/
def hasPart (part text : String) : Bool :=
  decide (part.toList <:+: text.toList)

/-- `text.endswith(part)`. -/
def endsWith (text part : String) : Bool :=
  part.toList.isSuffixOf text.toList

/-- `text.replace("\\", "/")`. -/
def slashes (text : String) : String :=
  String.ofList
    (text.toList.map fun character =>
      if character = '\\' then '/' else character)

/-- `character.isspace()`. -/
def isSpace (character : Char) : Bool :=
  let code := character.toNat
  (9 ≤ code && code ≤ 13) || (28 ≤ code && code ≤ 32) || code = 0x85 ||
    code = 0xa0 || code = 0x1680 || (0x2000 ≤ code && code ≤ 0x200a) ||
    code = 0x2028 || code = 0x2029 || code = 0x202f || code = 0x205f ||
    code = 0x3000

/-- `text.strip()`. -/
def strip (text : List Char) : List Char :=
  ((text.dropWhile isSpace).reverse.dropWhile isSpace).reverse

/-- `text.partition(separator)`: what is before and, if there is a separator,
after the first one. -/
def partition (separator : Char) (text : List Char) :
    List Char × Option (List Char) :=
  match text.dropWhile (fun character => character ≠ separator) with
  | [] => (text, none)
  | _ :: after =>
      (text.takeWhile fun character => character ≠ separator, some after)

/-- `" ".join(str(part) for part in parts)`. -/
def joined (builtins : Builtins) (parts : List Json) : String :=
  String.intercalate " " (parts.map builtins.str)

/-! ## Dictionaries that later entries overwrite -/

/-- The value that the last entry gives the key. -/
def lastOf {Value : Type} (entries : List (String × Value)) (key : String) :
    Option Value :=
  entries.reverse.lookup key

/-- `dict(entries) == expected`, where no key of `expected` is repeated. -/
def sameEntries (entries expected : List (String × String)) : Bool :=
  entries.all (fun entry => expected.any fun other => other.1 = entry.1) &&
    expected.all fun entry => lastOf entries entry.1 = some entry.2

theorem sameEntries_iff (entries expected : List (String × String)) :
    sameEntries entries expected = true ↔
      (∀ entry ∈ entries, ∃ other ∈ expected, other.1 = entry.1) ∧
        ∀ entry ∈ expected, lastOf entries entry.1 = some entry.2 := by
  simp [sameEntries]

theorem mem_of_lastOf
    {Value : Type} {entries : List (String × Value)} {key : String}
    {value : Value} (last : lastOf entries key = some value) :
    (key, value) ∈ entries := by
  unfold lastOf at last
  rw [List.lookup_eq_some_iff] at last
  rcases last with ⟨before, after, split, _⟩
  have member : (key, value) ∈ entries.reverse := by
    rw [split]
    simp
  exact List.mem_reverse.1 member

/-- What is found under a key is listed there. -/
theorem mem_of_lookup
    {Value : Type} {entries : List (String × Value)} {key : String}
    {value : Value} (found : entries.lookup key = some value) :
    (key, value) ∈ entries := by
  rcases List.lookup_eq_some_iff.1 found with ⟨front, rest, split, _⟩
  rw [split]
  exact List.mem_append_right _ List.mem_cons_self

/-- A key of a list without repeated keys is found where it is listed. -/
theorem lookup_of_mem
    {Value : Type} {entries : List (String × Value)}
    (distinct : (entries.map Prod.fst).Nodup) {key : String} {value : Value}
    (listed : (key, value) ∈ entries) : entries.lookup key = some value := by
  induction entries with
  | nil => cases listed
  | cons head rest induction =>
      rw [List.map_cons, List.nodup_cons] at distinct
      rcases List.mem_cons.1 listed with rfl | later
      · simp
      · have differs : key ≠ head.1 := by
          rintro rfl
          exact distinct.1 (List.mem_map.2 ⟨_, later, rfl⟩)
        rw [List.lookup_cons, beq_eq_false_iff_ne.2 differs]
        exact induction distinct.2 later

/-- Without repeated keys the last entry of a key is the only one. -/
theorem lastOf_of_mem
    {Value : Type} {entries : List (String × Value)}
    (distinct : (entries.map Prod.fst).Nodup) {key : String} {value : Value}
    (listed : (key, value) ∈ entries) : lastOf entries key = some value := by
  refine lookup_of_mem ?_ (List.mem_reverse.2 listed)
  rw [List.map_reverse]
  exact List.nodup_reverse.2 distinct

/-! ## Messages -/

/-- The messages of a validation; absent where it raises. -/
abbrev Findings : Type := Option (List String)

/-- `if wrong: errors.append(message)`. -/
def finding (wrong : Option Bool) (message : String) : Findings :=
  wrong.map fun wrong => if wrong then [message] else []

/-- Several validations, one after the other. -/
def findings : List Findings → Findings
  | [] => some []
  | first :: rest => do
      let found ← first
      let others ← findings rest
      return found ++ others

theorem findings_cons (first : Findings) (rest : List Findings) :
    findings (first :: rest) =
      first.bind fun found =>
        (findings rest).bind fun others => some (found ++ others) :=
  rfl

@[simp]
theorem finding_eq_nil_iff (wrong : Option Bool) (message : String) :
    finding wrong message = some [] ↔ wrong = some false := by
  unfold finding
  rcases wrong with _ | _ | _ <;> simp

/-- Nothing is found exactly if no validation finds anything. -/
theorem findings_eq_nil_iff (checks : List Findings) :
    findings checks = some [] ↔ ∀ check ∈ checks, check = some [] := by
  induction checks with
  | nil => simp [findings]
  | cons first rest induction =>
      rw [List.forall_mem_cons, ← induction, findings_cons]
      constructor
      · intro clean
        rcases Option.bind_eq_some_iff.1 clean with ⟨found, here, after⟩
        rcases Option.bind_eq_some_iff.1 after with ⟨others, there, none⟩
        have empty := List.append_eq_nil_iff.1 (Option.some.inj none)
        rw [here, there, empty.1, empty.2]
        exact ⟨rfl, rfl⟩
      · rintro ⟨here, there⟩
        rw [here, there]
        rfl

/-- A validation that every element of a list passes. -/
theorem findings_map_eq_nil_iff
    {Element : Type} (elements : List Element)
    (check : Element → Findings) :
    findings (elements.map check) = some [] ↔
      ∀ element ∈ elements, check element = some [] := by
  simp [findings_eq_nil_iff]

end KairosDeploy.Library.PyObject
