import KairosDeploy.Library.JsonValue

/-!
# JSON texts

`json.dumps` with sorted keys, compact separators and `ensure_ascii=False`,
and `json.loads`.  What the writer writes the reader reads back, so equal
texts come from equal values.

The two conversions between floats and their decimal texts are a parameter:
`FloatText` asks of them that a finite float is read back from its `repr`.
-/

namespace KairosDeploy.Library.JsonText

open KairosDeploy.Library.PyNumber
open KairosDeploy.Library.JsonValue

/-! ## Reading numbers -/

/-- An optional minus sign. -/
def signPart : List Char → List Char × List Char
  | '-' :: rest => (['-'], rest)
  | text => ([], text)

/-- `0|[1-9][0-9]*`. -/
def wholePart (text : List Char) : List Char × List Char :=
  match text with
  | '0' :: rest => (['0'], rest)
  | _ => (text.takeWhile Char.isDigit, text.dropWhile Char.isDigit)

/-- `(\.[0-9]+)?`. -/
def fractionPart (text : List Char) : List Char × List Char :=
  match text with
  | '.' :: rest =>
      if (rest.takeWhile Char.isDigit).isEmpty then
        ([], text)
      else
        ('.' :: rest.takeWhile Char.isDigit, rest.dropWhile Char.isDigit)
  | _ => ([], text)

/-- `[-+]?` in an exponent. -/
def exponentSign : List Char → List Char × List Char
  | '+' :: rest => (['+'], rest)
  | '-' :: rest => (['-'], rest)
  | text => ([], text)

/-- `([eE][-+]?[0-9]+)?`. -/
def exponentPart (text : List Char) : List Char × List Char :=
  match text with
  | [] => ([], [])
  | mark :: rest =>
      if mark = 'e' ∨ mark = 'E' then
        let (sign, digits) := exponentSign rest
        if (digits.takeWhile Char.isDigit).isEmpty then
          ([], text)
        else
          (mark :: sign ++ digits.takeWhile Char.isDigit,
            digits.dropWhile Char.isDigit)
      else
        ([], text)

/-- An integer, or a float where there is a fraction or an exponent. -/
def readNumber (float : List Char → PyFloat) (text : List Char) :
    Option (Json × List Char) :=
  let (sign, afterSign) := signPart text
  let (whole, afterWhole) := wholePart afterSign
  if whole.isEmpty then
    none
  else
    let (fraction, afterFraction) := fractionPart afterWhole
    let (exponent, rest) := exponentPart afterFraction
    if fraction.isEmpty && exponent.isEmpty then
      let magnitude : Int := Nat.ofDigitChars 10 whole 0
      some (.int (if sign.isEmpty then magnitude else -magnitude), rest)
    else
      some (.float (float (sign ++ whole ++ fraction ++ exponent)), rest)

/-- What follows a value inside a compact text. -/
def Delimited (rest : List Char) : Prop :=
  ∀ character ∈ rest.head?,
    character = ',' ∨ character = ']' ∨ character = '}'

/-- `float.__repr__` and `float`. -/
structure FloatText where
  repr : PyFloat → List Char
  float : List Char → PyFloat
  readNumber_repr :
    ∀ value, value.isFinite = true →
      ∀ rest, Delimited rest →
        readNumber float (repr value ++ rest) = some (.float value, rest)

/-! ## Reading texts -/

/-- The value of a hexadecimal digit. -/
def hexValue (character : Char) : Option Nat :=
  if character.isDigit then
    some (character.toNat - '0'.toNat)
  else if 'a' ≤ character ∧ character ≤ 'f' then
    some (character.toNat - 'a'.toNat + 10)
  else if 'A' ≤ character ∧ character ≤ 'F' then
    some (character.toNat - 'A'.toNat + 10)
  else
    none

/-- The code unit of four hexadecimal digits. -/
def codeUnit (first second third fourth : Char) : Option Nat := do
  let first ← hexValue first
  let second ← hexValue second
  let third ← hexValue third
  let fourth ← hexValue fourth
  return ((first * 16 + second) * 16 + third) * 16 + fourth

/-- The escapes of one letter. -/
def simpleEscape : Char → Option Char
  | '"' => some '"'
  | '\\' => some '\\'
  | '/' => some '/'
  | 'b' => some '\x08'
  | 'f' => some '\x0c'
  | 'n' => some '\n'
  | 'r' => some '\r'
  | 't' => some '\t'
  | _ => none

/-- The code points up to the closing quote, surrogates not yet joined. -/
def readUnits : List Char → Option (List Nat × List Char)
  | [] => none
  | '"' :: rest => some ([], rest)
  | '\\' :: 'u' :: a :: b :: c :: d :: rest => do
      let unit ← codeUnit a b c d
      let (units, after) ← readUnits rest
      return (unit :: units, after)
  | '\\' :: letter :: rest => do
      let character ← simpleEscape letter
      let (units, after) ← readUnits rest
      return (character.toNat :: units, after)
  | character :: rest =>
      if character.toNat < 32 then
        none
      else do
        let (units, after) ← readUnits rest
        return (character.toNat :: units, after)

/-- Whether a code point is half of a surrogate pair. -/
def IsSurrogate (unit : Nat) : Prop :=
  0xD800 ≤ unit ∧ unit ≤ 0xDFFF

instance (unit : Nat) : Decidable (IsSurrogate unit) :=
  inferInstanceAs (Decidable (_ ∧ _))

/--
The characters of the code points.  A surrogate without its partner is not a
character and is refused.
-/
def joinUnits : List Nat → Option (List Char)
  | [] => some []
  | high :: low :: rest =>
      if 0xD800 ≤ high ∧ high ≤ 0xDBFF ∧ 0xDC00 ≤ low ∧ low ≤ 0xDFFF then do
        let characters ← joinUnits rest
        let unit := 0x10000 + (high - 0xD800) * 0x400 + (low - 0xDC00)
        return Char.ofNat unit :: characters
      else if IsSurrogate high then
        none
      else do
        let characters ← joinUnits (low :: rest)
        return Char.ofNat high :: characters
  | [unit] => if IsSurrogate unit then none else some [Char.ofNat unit]

/-- The characters up to the closing quote. -/
def readText (text : List Char) : Option (List Char × List Char) := do
  let (units, rest) ← readUnits text
  let characters ← joinUnits units
  return (characters, rest)

/-! ## Reading values -/

/-- `[ \t\n\r]*`. -/
def skipSpace (text : List Char) : List Char :=
  text.dropWhile fun character =>
    character = ' ' ∨ character = '\t' ∨ character = '\n' ∨
      character = '\r'

/-- `NaN`, `Infinity` and `-Infinity`. -/
def readConstant : List Char → Option (Json × List Char)
  | 'N' :: 'a' :: 'N' :: rest => some (.float .nan, rest)
  | 'I' :: 'n' :: 'f' :: 'i' :: 'n' :: 'i' :: 't' :: 'y' :: rest =>
      some (.float (.infinite false), rest)
  | '-' :: 'I' :: 'n' :: 'f' :: 'i' :: 'n' :: 'i' :: 't' :: 'y' :: rest =>
      some (.float (.infinite true), rest)
  | _ => none

/-- A reader: how it reads floats, and whether it admits the constants. -/
structure Reader where
  float : List Char → PyFloat
  constants : Bool

mutual

/-- One value.  Every call reads a character, so the length is enough fuel. -/
def readValue (reader : Reader) :
    Nat → List Char → Option (Json × List Char)
  | 0, _ => none
  | fuel + 1, text =>
      match skipSpace text with
      | '"' :: rest => do
          let (characters, after) ← readText rest
          return (.text (String.ofList characters), after)
      | '[' :: rest =>
          match skipSpace rest with
          | ']' :: after => some (.array [], after)
          | _ => do
              let (first, after) ← readValue reader fuel rest
              let (items, after) ← readItems reader fuel after
              return (.array (first :: items), after)
      | '\x7b' :: rest =>
          match skipSpace rest with
          | '\x7d' :: after => some (.object [], after)
          | _ => do
              let (first, after) ← readMember reader fuel rest
              let (members, after) ← readMembers reader fuel after
              return (.object (dict (first :: members)), after)
      | 'n' :: 'u' :: 'l' :: 'l' :: rest => some (.null, rest)
      | 't' :: 'r' :: 'u' :: 'e' :: rest => some (.bool true, rest)
      | 'f' :: 'a' :: 'l' :: 's' :: 'e' :: rest => some (.bool false, rest)
      | other =>
          match readNumber reader.float other with
          | some result => some result
          | none => if reader.constants then readConstant other else none

/-- The items after the first, and the closing bracket. -/
def readItems (reader : Reader) :
    Nat → List Char → Option (List Json × List Char)
  | 0, _ => none
  | fuel + 1, text =>
      match skipSpace text with
      | ']' :: rest => some ([], rest)
      | ',' :: rest => do
          let (item, after) ← readValue reader fuel rest
          let (items, after) ← readItems reader fuel after
          return (item :: items, after)
      | _ => none

/-- One member of an object. -/
def readMember (reader : Reader) :
    Nat → List Char → Option ((String × Json) × List Char)
  | 0, _ => none
  | fuel + 1, text =>
      match skipSpace text with
      | '"' :: rest => do
          let (key, after) ← readText rest
          match skipSpace after with
          | ':' :: rest => do
              let (value, after) ← readValue reader fuel rest
              return ((String.ofList key, value), after)
          | _ => none
      | _ => none

/-- The members after the first, and the closing brace. -/
def readMembers (reader : Reader) :
    Nat → List Char → Option (Members × List Char)
  | 0, _ => none
  | fuel + 1, text =>
      match skipSpace text with
      | '\x7d' :: rest => some ([], rest)
      | ',' :: rest => do
          let (member, after) ← readMember reader fuel rest
          let (members, after) ← readMembers reader fuel after
          return (member :: members, after)
      | _ => none

end

/-- `json.loads`. -/
def loads (reader : Reader) (text : String) : Option Json := do
  let (value, rest) ←
    readValue reader (text.toList.length + 1) text.toList
  if (skipSpace rest).isEmpty then some value else none

/-! ## Writing -/

/-- One character of a text. -/
def writeCharacter (character : Char) : List Char :=
  if character = '"' then
    ['\\', '"']
  else if character = '\\' then
    ['\\', '\\']
  else if character = '\n' then
    ['\\', 'n']
  else if character = '\r' then
    ['\\', 'r']
  else if character = '\t' then
    ['\\', 't']
  else if character = '\x08' then
    ['\\', 'b']
  else if character = '\x0c' then
    ['\\', 'f']
  else if character.toNat < 32 then
    ['\\', 'u', '0', '0', Nat.digitChar (character.toNat / 16),
      Nat.digitChar (character.toNat % 16)]
  else
    [character]

/-- A text in quotes. -/
def writeText (text : String) : List Char :=
  '"' :: (text.toList.flatMap writeCharacter ++ ['"'])

/-- An integer in decimal. -/
def writeInt (value : Int) : List Char :=
  if value < 0 then
    '-' :: Nat.toDigits 10 value.natAbs
  else
    Nat.toDigits 10 value.natAbs

mutual

/-- One value. -/
def write (floats : FloatText) : Json → List Char
  | .null => ['n', 'u', 'l', 'l']
  | .bool true => ['t', 'r', 'u', 'e']
  | .bool false => ['f', 'a', 'l', 's', 'e']
  | .int value => writeInt value
  | .float value => floats.repr value
  | .text text => writeText text
  | .array [] => ['[', ']']
  | .array (first :: items) =>
      '[' :: (write floats first ++ writeItems floats items)
  | .object [] => ['\x7b', '\x7d']
  | .object ((key, value) :: members) =>
      '\x7b' ::
        (writeText key ++ ':' :: write floats value ++
          writeMembers floats members)

/-- The items after the first, and the closing bracket. -/
def writeItems (floats : FloatText) : List Json → List Char
  | [] => [']']
  | item :: items =>
      ',' :: (write floats item ++ writeItems floats items)

/-- The members after the first, and the closing brace. -/
def writeMembers (floats : FloatText) : Members → List Char
  | [] => ['\x7d']
  | (key, value) :: members =>
      ',' ::
        (writeText key ++ ':' :: write floats value ++
          writeMembers floats members)

end

mutual

/-- Whether the writer admits the value: `allow_nan` is off. -/
def finiteNumbers : Json → Bool
  | .float value => value.isFinite
  | .array items => finiteItems items
  | .object members => finiteMembers members
  | _ => true

/-- Whether the writer admits all items. -/
def finiteItems : List Json → Bool
  | [] => true
  | item :: items => finiteNumbers item && finiteItems items

/-- Whether the writer admits the values of all members. -/
def finiteMembers : Members → Bool
  | [] => true
  | (_, value) :: members => finiteNumbers value && finiteMembers members

end

/-- `json.dumps`, absent where it raises `ValueError`. -/
def dumps (floats : FloatText) (value : Json) : Option String :=
  if finiteNumbers value then
    some (String.ofList (write floats value))
  else
    none

/-! ## Lengths of texts -/

theorem length_writeText_le (text : String) :
    (writeText text).length ≤ 6 * text.toList.length + 2 := by
  unfold writeText
  rw [List.length_cons, List.length_append, List.length_singleton]
  induction text.toList with
  | nil => simp
  | cons character rest induction =>
      have one : (writeCharacter character).length ≤ 6 := by
        unfold writeCharacter
        split_ifs <;> simp
      rw [List.flatMap_cons, List.length_append, List.length_cons]
      omega

/-- Members with short texts have a short text. -/
theorem length_write_object_le
    (floats : FloatText) {members : Members} {bound : Nat}
    (each :
      ∀ member ∈ members,
        (writeText member.1).length + (write floats member.2).length ≤
          bound) :
    (write floats (.object members)).length ≤
      members.length * (bound + 2) + 2 := by
  have others :
      ∀ members : Members,
        (∀ member ∈ members,
          (writeText member.1).length + (write floats member.2).length ≤
            bound) →
          (writeMembers floats members).length ≤
            members.length * (bound + 2) + 1 := by
    intro members each
    induction members with
    | nil => simp [writeMembers]
    | cons member rest induction =>
        rw [List.forall_mem_cons] at each
        have tail := induction each.2
        rw [writeMembers, List.length_cons, List.length_append,
          List.length_append, List.length_cons, List.length_cons,
          Nat.succ_mul]
        omega
  cases members with
  | nil => simp [write]
  | cons member rest =>
      rw [List.forall_mem_cons] at each
      have tail := others rest each.2
      rw [write, List.length_cons, List.length_append, List.length_append,
        List.length_cons, List.length_cons, Nat.succ_mul]
      omega

/-! ## Numbers are read back -/

theorem isDigit_of_mem_toDigits
    {value : Nat} {character : Char}
    (member : character ∈ Nat.toDigits 10 value) :
    character.isDigit = true :=
  Nat.isDigit_of_mem_toDigits (by decide) (by decide) member

/-- A positive number has no leading zero. -/
theorem head_toDigits_ne_zero
    {value : Nat} (positive : 0 < value) :
    (Nat.toDigits 10 value).head? ≠ some '0' := by
  induction value using Nat.strongRecOn with
  | ind value induction =>
      by_cases small : value < 10
      · rw [Nat.toDigits_of_lt_base small, List.head?_cons]
        intro equal
        interval_cases value <;> simp at equal
      · rw [Nat.toDigits_of_base_le (by decide) (by omega)]
        have front : Nat.toDigits 10 (value / 10) ≠ [] :=
          Nat.toDigits_ne_nil
        rw [List.head?_append_of_ne_nil _ front]
        exact induction (value / 10) (by omega) (by omega)

theorem Delimited.head_not_digit
    {rest : List Char} (delimited : Delimited rest) :
    ∀ character ∈ rest.head?, character.isDigit = false := by
  intro character isHead
  rcases delimited character isHead with rfl | rfl | rfl <;> rfl

theorem takeWhile_digits_append
    {digits rest : List Char}
    (all : ∀ character ∈ digits, character.isDigit = true)
    (ended : ∀ character ∈ rest.head?, character.isDigit = false) :
    (digits ++ rest).takeWhile Char.isDigit = digits ∧
      (digits ++ rest).dropWhile Char.isDigit = rest := by
  rw [List.takeWhile_append_of_pos all, List.dropWhile_append_of_pos all]
  cases rest with
  | nil => exact ⟨List.append_nil _, rfl⟩
  | cons head tail =>
      have stop : head.isDigit = false := ended head rfl
      rw [List.takeWhile_cons_of_neg (by simp [stop]),
        List.dropWhile_cons_of_neg (by simp [stop])]
      exact ⟨List.append_nil _, rfl⟩

theorem wholePart_toDigits
    (value : Nat) {rest : List Char}
    (ended : ∀ character ∈ rest.head?, character.isDigit = false) :
    wholePart (Nat.toDigits 10 value ++ rest) =
      (Nat.toDigits 10 value, rest) := by
  rcases Nat.eq_zero_or_pos value with rfl | positive
  · rfl
  · have spans :
        (Nat.toDigits 10 value ++ rest).takeWhile Char.isDigit =
            Nat.toDigits 10 value ∧
          (Nat.toDigits 10 value ++ rest).dropWhile Char.isDigit = rest :=
      takeWhile_digits_append
        (fun _ member => isDigit_of_mem_toDigits member) ended
    unfold wholePart
    split
    · rename_i text tail equal
      have noZero := head_toDigits_ne_zero positive
      rw [← List.head?_append_of_ne_nil _ Nat.toDigits_ne_nil, equal]
        at noZero
      exact absurd rfl noZero
    · rw [spans.1, spans.2]

theorem fractionPart_of_delimited
    {rest : List Char} (delimited : Delimited rest) :
    fractionPart rest = ([], rest) := by
  unfold fractionPart
  split
  · have impossible := delimited '.' rfl
    simp at impossible
  · rfl

theorem exponentPart_of_delimited
    {rest : List Char} (delimited : Delimited rest) :
    exponentPart rest = ([], rest) := by
  unfold exponentPart
  cases rest with
  | nil => rfl
  | cons head tail =>
      rcases delimited head rfl with rfl | rfl | rfl <;> rfl

theorem signPart_toDigits (value : Nat) (rest : List Char) :
    signPart (Nat.toDigits 10 value ++ rest) =
      ([], Nat.toDigits 10 value ++ rest) := by
  unfold signPart
  split
  · rename_i tail equal
    have member : '-' ∈ Nat.toDigits 10 value := by
      have nonempty : Nat.toDigits 10 value ≠ [] := Nat.toDigits_ne_nil
      rcases List.exists_cons_of_ne_nil nonempty with ⟨head, other, split⟩
      rw [split, List.cons_append, List.cons.injEq] at equal
      rw [split, equal.1]
      exact List.mem_cons_self
    have impossible := isDigit_of_mem_toDigits member
    simp at impossible
  · rfl

/-- An integer is read back. -/
theorem readNumber_writeInt
    (float : List Char → PyFloat) (value : Int) {rest : List Char}
    (delimited : Delimited rest) :
    readNumber float (writeInt value ++ rest) = some (.int value, rest) := by
  have nonempty : (Nat.toDigits 10 value.natAbs).isEmpty = false := by
    simp [List.isEmpty_eq_false_iff, Nat.toDigits_ne_nil]
  unfold readNumber writeInt
  by_cases negative : value < 0
  · rw [if_pos negative, List.cons_append]
    simp only [signPart, wholePart_toDigits _ delimited.head_not_digit,
      nonempty, fractionPart_of_delimited delimited,
      exponentPart_of_delimited delimited, Nat.ofDigitChars_ten_toDigits]
    have magnitude : -|value| = value := by
      rw [abs_of_neg negative, neg_neg]
    simp [magnitude]
  · rw [if_neg negative]
    simp only [signPart_toDigits,
      wholePart_toDigits _ delimited.head_not_digit, nonempty,
      fractionPart_of_delimited delimited,
      exponentPart_of_delimited delimited, Nat.ofDigitChars_ten_toDigits]
    have magnitude : |value| = value := abs_of_nonneg (not_lt.1 negative)
    simp [magnitude]

/-- A number starts with a sign or a digit. -/
theorem head_of_readNumber
    {float : List Char → PyFloat} {text : List Char}
    {result : Json × List Char}
    (read : readNumber float text = some result) :
    ∃ head tail, text = head :: tail ∧ (head = '-' ∨ head.isDigit) := by
  cases text with
  | nil => cases read
  | cons head tail =>
      refine ⟨head, tail, rfl, ?_⟩
      by_contra neither
      rw [not_or] at neither
      have unsigned : signPart (head :: tail) = ([], head :: tail) := by
        unfold signPart
        split
        · rename_i rest equal
          exact absurd (List.cons.inj equal).1 neither.1
        · rfl
      have whole : (wholePart (head :: tail)).1 = [] := by
        unfold wholePart
        split
        · rename_i rest equal
          have isZero : head = '0' := (List.cons.inj equal).1
          exact absurd (isZero ▸ rfl) neither.2
        · exact List.takeWhile_cons_of_neg neither.2
      simp [readNumber, unsigned, whole] at read

/-! ## Texts are read back -/

theorem hexValue_digitChar :
    ∀ digit < 16, hexValue (Nat.digitChar digit) = some digit := by
  decide

/-- One written character is read back. -/
theorem readUnits_writeCharacter (character : Char) (rest : List Char) :
    readUnits (writeCharacter character ++ rest) =
      (readUnits rest).map fun read =>
        (character.toNat :: read.1, read.2) := by
  unfold writeCharacter
  split_ifs with quote backslash newline carriage tab backspace feed control
  · subst quote
    simp [readUnits, simpleEscape, Option.map_eq_bind]
  · subst backslash
    simp [readUnits, simpleEscape, Option.map_eq_bind]
  · subst newline
    simp [readUnits, simpleEscape, Option.map_eq_bind]
  · subst carriage
    simp [readUnits, simpleEscape, Option.map_eq_bind]
  · subst tab
    simp [readUnits, simpleEscape, Option.map_eq_bind]
  · subst backspace
    simp [readUnits, simpleEscape, Option.map_eq_bind]
  · subst feed
    simp [readUnits, simpleEscape, Option.map_eq_bind]
  · have unit :
        codeUnit '0' '0' (Nat.digitChar (character.toNat / 16))
            (Nat.digitChar (character.toNat % 16)) =
          some character.toNat := by
      have high := hexValue_digitChar (character.toNat / 16) (by omega)
      have low := hexValue_digitChar (character.toNat % 16) (by omega)
      have zero : hexValue '0' = some 0 := rfl
      simp only [codeUnit, zero, high, low, Option.bind_eq_bind,
        Option.bind_some, Option.pure_def, Option.some.injEq]
      omega
    simp [readUnits, unit, Option.map_eq_bind]
  · rw [List.singleton_append]
    simp [readUnits, backslash, control, Option.map_eq_bind]

theorem readUnits_writeText (characters rest : List Char) :
    readUnits (characters.flatMap writeCharacter ++ '"' :: rest) =
      some (characters.map Char.toNat, rest) := by
  induction characters with
  | nil => simp [readUnits]
  | cons character tail induction =>
      rw [List.flatMap_cons, List.append_assoc, readUnits_writeCharacter,
        induction]
      rfl

theorem not_isSurrogate_toNat (character : Char) :
    ¬ IsSurrogate character.toNat := by
  rintro ⟨low, high⟩
  have valid := character.valid
  simp only [Char.toNat, UInt32.isValidChar, Nat.isValidChar] at *
  omega

theorem joinUnits_toNat (characters : List Char) :
    joinUnits (characters.map Char.toNat) = some characters := by
  induction characters with
  | nil => rfl
  | cons character tail induction =>
      have notSurrogate := not_isSurrogate_toNat character
      cases tail with
      | nil => simp [joinUnits, notSurrogate]
      | cons next rest =>
          have unpaired :
              ¬ (0xD800 ≤ character.toNat ∧ character.toNat ≤ 0xDBFF ∧
                0xDC00 ≤ next.toNat ∧ next.toNat ≤ 0xDFFF) := by
            rintro ⟨low, high, _⟩
            exact notSurrogate ⟨low, by omega⟩
          rw [List.map_cons, List.map_cons, joinUnits, if_neg unpaired,
            if_neg notSurrogate, ← List.map_cons, induction]
          simp

/-- A text is read back. -/
theorem readText_writeText (text : String) (rest : List Char) :
    readText (text.toList.flatMap writeCharacter ++ '"' :: rest) =
      some (text.toList, rest) := by
  simp [readText, readUnits_writeText, joinUnits_toNat]

theorem writeText_injective : Function.Injective writeText := by
  intro one other same
  have bodies := (List.cons.inj same).2
  have oneRead := readText_writeText one []
  rw [bodies, readText_writeText, Option.some.injEq, Prod.mk.injEq]
    at oneRead
  exact (String.toList_inj.1 oneRead.1).symm

/-! ## Values are read back -/

/-- The values that the writer admits: sorted keys and finite floats. -/
abbrev Canonical : Json → Prop :=
  WellFormed fun value => value.isFinite = true

section RoundTrip

variable {floats : FloatText} {reader : Reader}

/-- What it means for a reader to read a value back. -/
def ReadsBack (floats : FloatText) (reader : Reader) (value : Json) : Prop :=
  ∀ fuel rest, (write floats value).length ≤ fuel → Delimited rest →
    readValue reader fuel (write floats value ++ rest) = some (value, rest)

theorem skipSpace_cons
    {head : Char} (tail : List Char)
    (visible :
      ¬ (head = ' ' ∨ head = '\t' ∨ head = '\n' ∨ head = '\r')) :
    skipSpace (head :: tail) = head :: tail := by
  unfold skipSpace
  exact List.dropWhile_cons_of_neg (by simpa using visible)

/-- The head of a written value: visible, and not a closing bracket. -/
def OpensValue (head : Char) : Prop :=
  ¬ (head = ' ' ∨ head = '\t' ∨ head = '\n' ∨ head = '\r') ∧ head ≠ ']'

instance (head : Char) : Decidable (OpensValue head) :=
  inferInstanceAs (Decidable (_ ∧ _))

theorem opensValue_of_number
    {head : Char} (number : head = '-' ∨ head.isDigit = true) :
    OpensValue head := by
  constructor
  · rintro (rfl | rfl | rfl | rfl) <;> simp at number
  · rintro rfl
    simp at number

/-- Where a number can be read, a value is read as that number. -/
theorem readValue_of_readNumber
    {text : List Char} {result : Json × List Char}
    (read : readNumber reader.float text = some result) (fuel : Nat) :
    readValue reader (fuel + 1) text = some result := by
  rcases head_of_readNumber read with ⟨head, tail, rfl, number⟩
  have visible := (opensValue_of_number number).1
  rw [readValue, skipSpace_cons tail visible]
  split <;> rename_i equal <;> try
    (have isHead := (List.cons.inj equal).1
     subst isHead
     simp at number)
  rw [read]

theorem write_eq_cons
    (floats : FloatText) {value : Json} (canonical : Canonical value) :
    ∃ head tail, write floats value = head :: tail ∧ OpensValue head := by
  have ofNumber :
      ∀ text result,
        readNumber floats.float (text ++ []) = some result →
          ∃ head tail, text = head :: tail ∧ OpensValue head := by
    intro text result read
    rw [List.append_nil] at read
    rcases head_of_readNumber read with ⟨head, tail, split, number⟩
    exact ⟨head, tail, split, opensValue_of_number number⟩
  have nothing : Delimited [] := fun _ impossible => by cases impossible
  cases canonical with
  | null => exact ⟨_, _, rfl, by decide⟩
  | bool value =>
      cases value with
      | true => exact ⟨_, _, rfl, by decide⟩
      | false => exact ⟨_, _, rfl, by decide⟩
  | int value =>
      exact ofNumber _ _ (readNumber_writeInt floats.float value nothing)
  | float finite =>
      exact ofNumber _ _ (floats.readNumber_repr _ finite [] nothing)
  | text value => exact ⟨_, _, rfl, by decide⟩
  | array each =>
      rename_i items
      cases items with
      | nil => exact ⟨_, _, rfl, by decide⟩
      | cons first items => exact ⟨_, _, rfl, by decide⟩
  | object sorted each =>
      rename_i members
      cases members with
      | nil => exact ⟨_, _, rfl, by decide⟩
      | cons first members => exact ⟨_, _, rfl, by decide⟩

theorem delimited_writeItems (items : List Json) (rest : List Char) :
    Delimited (writeItems floats items ++ rest) := by
  intro character isHead
  cases items with
  | nil =>
      cases isHead
      exact Or.inr (Or.inl rfl)
  | cons item items =>
      cases isHead
      exact Or.inl rfl

theorem delimited_writeMembers (members : Members) (rest : List Char) :
    Delimited (writeMembers floats members ++ rest) := by
  intro character isHead
  cases members with
  | nil =>
      cases isHead
      exact Or.inr (Or.inr rfl)
  | cons member members =>
      cases isHead
      exact Or.inl rfl

/-- The items after the first are read back. -/
theorem readItems_writeItems
    {items : List Json}
    (each : ∀ item ∈ items, ReadsBack floats reader item) :
    ∀ fuel rest, (writeItems floats items).length ≤ fuel →
      readItems reader fuel (writeItems floats items ++ rest) =
        some (items, rest) := by
  induction items with
  | nil =>
      intro fuel rest enough
      cases fuel with
      | zero => simp [writeItems] at enough
      | succ fuel => simp [writeItems, readItems, skipSpace]
  | cons item tail induction =>
      intro fuel rest enough
      rw [List.forall_mem_cons] at each
      cases fuel with
      | zero => simp [writeItems] at enough
      | succ fuel =>
          simp only [writeItems, List.length_cons, List.length_append]
            at enough
          have head :=
            each.1 fuel (writeItems floats tail ++ rest) (by omega)
              (delimited_writeItems tail rest)
          have others := induction each.2 fuel rest (by omega)
          simp only [writeItems, List.cons_append, List.append_assoc]
          rw [readItems, skipSpace_cons _ (by decide)]
          simp [head, others]

/-- One member is read back. -/
theorem readMember_write
    {key : String} {value : Json}
    (reads : ReadsBack floats reader value) (fuel : Nat) (rest : List Char)
    (enough :
      (writeText key ++ ':' :: write floats value).length ≤ fuel)
    (delimited : Delimited rest) :
    readMember reader fuel
        (writeText key ++ ':' :: write floats value ++ rest) =
      some ((key, value), rest) := by
  cases fuel with
  | zero => simp [writeText] at enough
  | succ fuel =>
      simp only [writeText, List.length_cons, List.length_append]
        at enough
      have valueRead := reads fuel rest (by omega) delimited
      simp only [writeText, List.cons_append, List.append_assoc,
        List.nil_append]
      rw [readMember, skipSpace_cons _ (by decide)]
      have colon :
          skipSpace (':' :: (write floats value ++ rest)) =
            ':' :: (write floats value ++ rest) :=
        skipSpace_cons _ (by decide)
      simp [readText_writeText, colon, valueRead]

/-- The members after the first are read back. -/
theorem readMembers_writeMembers
    {members : Members}
    (each : ∀ member ∈ members, ReadsBack floats reader member.2) :
    ∀ fuel rest, (writeMembers floats members).length ≤ fuel →
      readMembers reader fuel (writeMembers floats members ++ rest) =
        some (members, rest) := by
  induction members with
  | nil =>
      intro fuel rest enough
      cases fuel with
      | zero => simp [writeMembers] at enough
      | succ fuel => simp [writeMembers, readMembers, skipSpace]
  | cons member tail induction =>
      intro fuel rest enough
      rcases member with ⟨key, value⟩
      rw [List.forall_mem_cons] at each
      cases fuel with
      | zero => simp [writeMembers] at enough
      | succ fuel =>
          simp only [writeMembers, List.length_cons, List.length_append]
            at enough
          have memberEnough :
              (writeText key ++ ':' :: write floats value).length ≤ fuel := by
            simp only [List.length_cons, List.length_append]
            omega
          have head :=
            readMember_write each.1 fuel (writeMembers floats tail ++ rest)
              memberEnough (delimited_writeMembers tail rest)
          have others := induction each.2 fuel rest (by omega)
          simp only [writeMembers, List.cons_append, List.append_assoc]
            at head ⊢
          rw [readMembers, skipSpace_cons _ (by decide)]
          simp [head, others]

/-- A reader with the same floats reads every admitted value back. -/
theorem readsBack_of_canonical
    (agrees : reader.float = floats.float)
    {value : Json} (canonical : Canonical value) :
    ReadsBack floats reader value := by
  induction canonical with
  | null =>
      intro fuel rest enough _
      cases fuel with
      | zero => simp [write] at enough
      | succ fuel => simp [write, readValue, skipSpace]
  | bool value =>
      intro fuel rest enough _
      cases fuel with
      | zero => cases value <;> simp [write] at enough
      | succ fuel => cases value <;> simp [write, readValue, skipSpace]
  | int value =>
      intro fuel rest enough delimited
      cases fuel with
      | zero =>
          rcases write_eq_cons floats (.int value) with
            ⟨head, tail, split, _⟩
          simp [split] at enough
      | succ fuel =>
          exact
            readValue_of_readNumber
              (readNumber_writeInt reader.float value delimited) fuel
  | float finite =>
      intro fuel rest enough delimited
      cases fuel with
      | zero =>
          rcases write_eq_cons floats (.float finite) with
            ⟨head, tail, split, _⟩
          simp [split] at enough
      | succ fuel =>
          apply readValue_of_readNumber
          rw [agrees]
          exact floats.readNumber_repr _ finite rest delimited
  | text value =>
      intro fuel rest enough _
      cases fuel with
      | zero => simp [write, writeText] at enough
      | succ fuel =>
          simp only [write, writeText, List.cons_append, List.append_assoc,
            List.nil_append]
          rw [readValue, skipSpace_cons _ (by decide)]
          simp [readText_writeText]
  | array each induction =>
      rename_i items
      intro fuel rest enough _
      cases fuel with
      | zero => cases items <;> simp [write] at enough
      | succ fuel =>
          cases items with
          | nil => simp [write, readValue, skipSpace]
          | cons first items =>
              rw [List.forall_mem_cons] at each induction
              simp only [write, List.length_cons, List.length_append]
                at enough
              have head :=
                induction.1 fuel (writeItems floats items ++ rest) (by omega)
                  (delimited_writeItems items rest)
              have others :=
                readItems_writeItems induction.2 fuel rest (by omega)
              rcases write_eq_cons floats each.1 with
                ⟨opening, tail, split, opens⟩
              simp only [write, List.cons_append, List.append_assoc]
              rw [readValue, skipSpace_cons _ (by decide)]
              simp only [split, List.cons_append] at head ⊢
              rw [skipSpace_cons _ opens.1]
              split
              · rename_i after equal
                exact absurd (List.cons.inj equal).1 opens.2
              · simp [head, others]
  | object sorted each induction =>
      rename_i members
      intro fuel rest enough _
      cases fuel with
      | zero => cases members <;> simp [write] at enough
      | succ fuel =>
          cases members with
          | nil => simp [write, readValue, skipSpace]
          | cons first members =>
              rcases first with ⟨key, value⟩
              rw [List.forall_mem_cons] at induction
              simp only [write, List.length_cons, List.length_append]
                at enough
              have firstEnough :
                  (writeText key ++ ':' :: write floats value).length ≤
                    fuel := by
                simp only [List.length_cons, List.length_append]
                omega
              have head :=
                readMember_write induction.1 fuel
                  (writeMembers floats members ++ rest) firstEnough
                  (delimited_writeMembers members rest)
              have others :=
                readMembers_writeMembers induction.2 fuel rest (by omega)
              simp only [write, writeText, List.cons_append,
                List.append_assoc, List.nil_append] at head ⊢
              rw [readValue, skipSpace_cons _ (by decide)]
              simp only [skipSpace_cons _
                (show ¬ ('"' = ' ' ∨ '"' = '\t' ∨ '"' = '\n' ∨ '"' = '\r') by
                  decide)]
              simp [head, others, dict_of_keysSorted sorted]

/-- What the writer has written, the reader reads back. -/
theorem loads_write
    (agrees : reader.float = floats.float)
    {value : Json} (canonical : Canonical value) :
    loads reader (String.ofList (write floats value)) = some value := by
  have read :=
    readsBack_of_canonical agrees canonical
      ((write floats value).length + 1) [] (by omega)
      (fun _ impossible => by cases impossible)
  rw [List.append_nil] at read
  unfold loads
  rw [String.toList_ofList, read]
  rfl

/-- Equal texts come from equal values. -/
theorem write_injective
    {left right : Json}
    (leftCanonical : Canonical left) (rightCanonical : Canonical right)
    (equal : write floats left = write floats right) :
    left = right := by
  have reads :
      ∀ value, Canonical value →
        loads ⟨floats.float, true⟩ (String.ofList (write floats value)) =
          some value :=
    fun value canonical => loads_write rfl canonical
  have leftRead := reads left leftCanonical
  have rightRead := reads right rightCanonical
  rw [equal, rightRead] at leftRead
  exact (Option.some.inj leftRead).symm

end RoundTrip

/-! ## Floats in one fixed layout -/

/-- A float as its mantissa and the power of two, both in decimal. -/
def exponentRepr : PyFloat → List Char
  | .finite float =>
      (if float.negative then ['-'] else []) ++
        (Nat.toDigits 10 float.mantissa ++
          '.' :: '0' :: 'e' :: writeInt float.exponent)
  | _ => []

/-- The float of a text in this layout. -/
def exponentFloat (text : List Char) : PyFloat :=
  let (sign, unsigned) := signPart text
  let (exponentMark, digits) :=
    signPart ((unsigned.dropWhile Char.isDigit).drop 3)
  let magnitude : Int := Nat.ofDigitChars 10 digits 0
  (PyFloat.ofParts (!sign.isEmpty)
      (Nat.ofDigitChars 10 (unsigned.takeWhile Char.isDigit) 0)
      (if exponentMark.isEmpty then magnitude else -magnitude)).getD .nan

theorem signPart_writeInt (value : Int) (rest : List Char) :
    signPart (writeInt value ++ rest) =
      (if value < 0 then ['-'] else [],
        Nat.toDigits 10 value.natAbs ++ rest) := by
  unfold writeInt
  by_cases negative : value < 0
  · rw [if_pos negative, if_pos negative]
    rfl
  · rw [if_neg negative, if_neg negative, signPart_toDigits]

theorem exponentSign_writeInt (value : Int) (rest : List Char) :
    exponentSign (writeInt value ++ rest) =
      (if value < 0 then ['-'] else [],
        Nat.toDigits 10 value.natAbs ++ rest) := by
  unfold writeInt
  by_cases negative : value < 0
  · rw [if_pos negative, if_pos negative]
    rfl
  · rw [if_neg negative, if_neg negative]
    rcases List.exists_cons_of_ne_nil
        (Nat.toDigits_ne_nil : Nat.toDigits 10 value.natAbs ≠ []) with
      ⟨head, tail, split⟩
    have digit : head.isDigit = true :=
      isDigit_of_mem_toDigits (split ▸ List.mem_cons_self)
    rw [split, List.cons_append]
    unfold exponentSign
    split <;> rename_i equal
    · rw [(List.cons.inj equal).1] at digit
      simp at digit
    · rw [(List.cons.inj equal).1] at digit
      simp at digit
    · rfl

theorem exponentPart_writeInt
    (exponent : Int) {rest : List Char} (delimited : Delimited rest) :
    exponentPart ('e' :: (writeInt exponent ++ rest)) =
      ('e' :: writeInt exponent, rest) := by
  have digits :
      (Nat.toDigits 10 exponent.natAbs ++ rest).takeWhile Char.isDigit =
          Nat.toDigits 10 exponent.natAbs ∧
        (Nat.toDigits 10 exponent.natAbs ++ rest).dropWhile Char.isDigit =
          rest :=
    takeWhile_digits_append (fun _ member => isDigit_of_mem_toDigits member)
      delimited.head_not_digit
  have nonempty : (Nat.toDigits 10 exponent.natAbs).isEmpty = false := by
    simp [List.isEmpty_eq_false_iff, Nat.toDigits_ne_nil]
  unfold exponentPart
  simp only [exponentSign_writeInt, digits, nonempty, true_or, if_true,
    Bool.false_eq_true, if_false]
  by_cases negative : exponent < 0
  · simp [writeInt, negative]
  · simp [writeInt, negative]

/-- The parts of a float are read back. -/
theorem exponentFloat_repr (float : FiniteFloat) :
    exponentFloat (exponentRepr (.finite float)) = .finite float := by
  have mantissa :
      ∀ rest : List Char,
        (Nat.toDigits 10 float.mantissa ++ '.' :: rest).takeWhile
              Char.isDigit =
            Nat.toDigits 10 float.mantissa ∧
          (Nat.toDigits 10 float.mantissa ++ '.' :: rest).dropWhile
              Char.isDigit =
            '.' :: rest := by
    intro rest
    apply takeWhile_digits_append
    · exact fun _ member => isDigit_of_mem_toDigits member
    · intro character isHead
      cases isHead
      rfl
  have unsigned :
      signPart (exponentRepr (.finite float)) =
        (if float.negative then ['-'] else [],
          Nat.toDigits 10 float.mantissa ++
            '.' :: '0' :: 'e' :: writeInt float.exponent) := by
    unfold exponentRepr
    by_cases negative : float.negative = true
    · simp [negative, signPart]
    · simp [negative, signPart_toDigits]
  have exponent := signPart_writeInt float.exponent []
  rw [List.append_nil, List.append_nil] at exponent
  have sign :
      (!(if float.negative then ['-'] else [] : List Char).isEmpty) =
        float.negative := by
    cases float.negative <;> rfl
  have power :
      (if (if float.exponent < 0 then ['-'] else [] : List Char).isEmpty then
          (float.exponent.natAbs : Int)
        else
          -(float.exponent.natAbs : Int)) =
        float.exponent := by
    by_cases negative : float.exponent < 0
    · simp [negative, abs_of_neg negative]
    · simp [negative, abs_of_nonneg (not_lt.1 negative)]
  unfold exponentFloat
  simp only [unsigned, mantissa, List.drop_succ_cons, List.drop_zero,
    exponent, Nat.ofDigitChars_ten_toDigits, sign, power]
  rw [PyFloat.ofParts, dif_pos float.normal]
  rfl

/-- Floats in a layout that shows their parts. -/
def exponentFloats : FloatText where
  repr := exponentRepr
  float := exponentFloat
  readNumber_repr := by
    intro value finite rest delimited
    cases value with
    | infinite negative => cases finite
    | nan => cases finite
    | finite float =>
        have unsigned :
            signPart (exponentRepr (.finite float) ++ rest) =
              (if float.negative then ['-'] else [],
                Nat.toDigits 10 float.mantissa ++
                  '.' :: '0' :: 'e' :: (writeInt float.exponent ++ rest)) := by
          unfold exponentRepr
          by_cases negative : float.negative = true
          · simp [negative, signPart]
          · simp [negative, signPart_toDigits]
        have whole :
            wholePart
                (Nat.toDigits 10 float.mantissa ++
                  '.' :: '0' :: 'e' :: (writeInt float.exponent ++ rest)) =
              (Nat.toDigits 10 float.mantissa,
                '.' :: '0' :: 'e' :: (writeInt float.exponent ++ rest)) :=
          wholePart_toDigits _ fun _ isHead => by
            cases isHead
            rfl
        have fraction :
            fractionPart
                ('.' :: '0' :: 'e' :: (writeInt float.exponent ++ rest)) =
              (['.', '0'], 'e' :: (writeInt float.exponent ++ rest)) := rfl
        have nonempty : (Nat.toDigits 10 float.mantissa).isEmpty = false := by
          simp [List.isEmpty_eq_false_iff, Nat.toDigits_ne_nil]
        have repr :
            (if float.negative then ['-'] else []) ++
                  Nat.toDigits 10 float.mantissa ++ ['.', '0'] ++
                'e' :: writeInt float.exponent =
              exponentRepr (.finite float) := by
          simp [exponentRepr]
        unfold readNumber
        simp only [unsigned, whole, nonempty, fraction,
          exponentPart_writeInt _ delimited, repr, exponentFloat_repr]
        rfl

/-! ## What is read is well formed -/

/-- A value of which nothing but its keys is asked. -/
abbrev Sorted : Json → Prop :=
  WellFormed fun _ => True

theorem sorted_of_readNumber
    {float : List Char → PyFloat} {text : List Char}
    {result : Json × List Char}
    (read : readNumber float text = some result) :
    Sorted result.1 := by
  simp only [readNumber] at read
  split at read
  · cases read
  · split at read
    · cases read
      exact .int _
    · cases read
      exact .float trivial

theorem sorted_of_readConstant
    {text : List Char} {result : Json × List Char}
    (read : readConstant text = some result) :
    Sorted result.1 := by
  unfold readConstant at read
  split at read
  · cases read
    exact .float trivial
  · cases read
    exact .float trivial
  · cases read
    exact .float trivial
  · cases read

/-- Everything that a reader reads has sorted keys. -/
theorem sorted_of_read (reader : Reader) (fuel : Nat) :
    (∀ text result,
        readValue reader fuel text = some result → Sorted result.1) ∧
      (∀ text result,
        readItems reader fuel text = some result →
          ∀ item ∈ result.1, Sorted item) ∧
      (∀ text result,
        readMember reader fuel text = some result → Sorted result.1.2) ∧
      ∀ text result,
        readMembers reader fuel text = some result →
          ∀ member ∈ result.1, Sorted member.2 := by
  induction fuel with
  | zero =>
      refine ⟨?_, ?_, ?_, ?_⟩ <;> intro text result read <;> cases read
  | succ fuel induction =>
      rcases induction with ⟨values, items, member, members⟩
      refine ⟨?_, ?_, ?_, ?_⟩
      · intro text result read
        rw [readValue] at read
        split at read
        · simp only [Option.bind_eq_bind, Option.pure_def,
            Option.bind_eq_some_iff, Option.some.injEq] at read
          rcases read with ⟨_, _, rfl⟩
          exact .text _
        · split at read
          · cases read
            exact .array fun _ impossible => by cases impossible
          · simp only [Option.bind_eq_bind, Option.pure_def,
              Option.bind_eq_some_iff, Option.some.injEq] at read
            rcases read with ⟨_, firstRead, _, restRead, rfl⟩
            exact
              .array
                (List.forall_mem_cons.2
                  ⟨values _ _ firstRead, items _ _ restRead⟩)
        · split at read
          · cases read
            exact .object List.Pairwise.nil fun _ impossible => by
              cases impossible
          · simp only [Option.bind_eq_bind, Option.pure_def,
              Option.bind_eq_some_iff, Option.some.injEq] at read
            rcases read with ⟨_, firstRead, _, restRead, rfl⟩
            exact
              wellFormed_dict
                (List.forall_mem_cons.2
                  ⟨member _ _ firstRead, members _ _ restRead⟩)
        · cases read
          exact .null
        · cases read
          exact .bool true
        · cases read
          exact .bool false
        · split at read
          · rename_i number numberRead
            cases read
            exact sorted_of_readNumber numberRead
          · split at read
            · exact sorted_of_readConstant read
            · cases read
      · intro text result read
        rw [readItems] at read
        split at read
        · cases read
          exact fun _ impossible => by cases impossible
        · simp only [Option.bind_eq_bind, Option.pure_def,
            Option.bind_eq_some_iff, Option.some.injEq] at read
          rcases read with ⟨_, firstRead, _, restRead, rfl⟩
          exact
            List.forall_mem_cons.2
              ⟨values _ _ firstRead, items _ _ restRead⟩
        · cases read
      · intro text result read
        rw [readMember] at read
        split at read
        · simp only [Option.bind_eq_bind, Option.pure_def,
            Option.bind_eq_some_iff] at read
          rcases read with ⟨_, _, valueRead⟩
          split at valueRead
          · simp only [Option.bind_eq_some_iff, Option.some.injEq]
              at valueRead
            rcases valueRead with ⟨_, inner, rfl⟩
            exact values _ _ inner
          · cases valueRead
        · cases read
      · intro text result read
        rw [readMembers] at read
        split at read
        · cases read
          exact fun _ impossible => by cases impossible
        · simp only [Option.bind_eq_bind, Option.pure_def,
            Option.bind_eq_some_iff, Option.some.injEq] at read
          rcases read with ⟨_, firstRead, _, restRead, rfl⟩
          exact
            List.forall_mem_cons.2
              ⟨member _ _ firstRead, members _ _ restRead⟩
        · cases read

theorem sorted_of_loads
    {reader : Reader} {text : String} {value : Json}
    (read : loads reader text = some value) : Sorted value := by
  simp only [loads, Option.bind_eq_bind, Option.bind_eq_some_iff] at read
  rcases read with ⟨result, valueRead, finished⟩
  split_ifs at finished
  cases finished
  exact (sorted_of_read reader _).1 _ _ valueRead

theorem finiteItems_iff (items : List Json) :
    finiteItems items = true ↔
      ∀ item ∈ items, finiteNumbers item = true := by
  induction items with
  | nil => simp [finiteItems]
  | cons item rest induction => simp [finiteItems, induction]

theorem finiteMembers_iff (members : Members) :
    finiteMembers members = true ↔
      ∀ member ∈ members, finiteNumbers member.2 = true := by
  induction members with
  | nil => simp [finiteMembers]
  | cons member rest induction => simp [finiteMembers, induction]

/-- A value with sorted keys and finite floats can be written. -/
theorem canonical_of_sorted
    {value : Json} (sorted : Sorted value)
    (finite : finiteNumbers value = true) : Canonical value := by
  induction sorted with
  | null => exact .null
  | bool value => exact .bool value
  | int value => exact .int value
  | float _ => exact .float finite
  | text value => exact .text value
  | array _ induction =>
      have all := (finiteItems_iff _).1 finite
      exact .array fun item member => induction item member (all item member)
  | object keys _ induction =>
      have all := (finiteMembers_iff _).1 finite
      exact
        .object keys fun member listed =>
          induction member listed (all member listed)

theorem finiteNumbers_of_canonical
    {value : Json} (canonical : Canonical value) :
    finiteNumbers value = true := by
  induction canonical with
  | null => rfl
  | bool value => rfl
  | int value => rfl
  | float finite => exact finite
  | text value => rfl
  | array _ induction => exact (finiteItems_iff _).2 induction
  | object _ _ induction => exact (finiteMembers_iff _).2 induction

end KairosDeploy.Library.JsonText
