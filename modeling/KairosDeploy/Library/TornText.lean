import KairosDeploy.Library.JsonPairs

/-!
# JSON texts that break off

A writer that is cut off leaves a part of a document, and nothing or another
document may follow it.  The two together are no document: whatever was left
open, a text, a number, a list or an object, is not closed by what follows.

What follows is an object whose first key starts with a letter, and the first
document has no floats, whose texts are a parameter.
-/

namespace KairosDeploy.Library.TornText

open KairosDeploy.Library.JsonPairs
open KairosDeploy.Library.JsonText hiding
  readValue readItems readMember readMembers loads ReadsBack
open KairosDeploy.Library.JsonValue
open KairosDeploy.Library.PyNumber

/-! ## Where nothing is read on -/

/-- A list, an object or a member that needs more is not read on here. -/
def Stuck (rest : List Char) : Prop :=
  ∀ character ∈ (skipSpace rest).head?,
    character ≠ ',' ∧ character ≠ ']' ∧ character ≠ '\x7d' ∧
      character ≠ ':'

theorem stuck_nil : Stuck [] := by
  rintro character ⟨⟩

theorem stuck_cons
    {head : Char} (tail : List Char)
    (visible :
      ¬ (head = ' ' ∨ head = '\t' ∨ head = '\n' ∨ head = '\r'))
    (other : head ≠ ',' ∧ head ≠ ']' ∧ head ≠ '\x7d' ∧ head ≠ ':') :
    Stuck (head :: tail) := by
  intro character isHead
  rw [skipSpace_cons tail visible] at isHead
  cases isHead
  exact other

theorem Stuck.skipSpace_ne
    {rest : List Char} (stuck : Stuck rest) (after : List Char) :
    skipSpace rest ≠ ',' :: after ∧ skipSpace rest ≠ ']' :: after ∧
      skipSpace rest ≠ '\x7d' :: after ∧ skipSpace rest ≠ ':' :: after := by
  have apart :
      ∀ head, skipSpace rest = head :: after →
        head ≠ ',' ∧ head ≠ ']' ∧ head ≠ '\x7d' ∧ head ≠ ':' :=
    fun head equal => stuck head (by rw [equal]; rfl)
  exact
    ⟨fun equal => (apart _ equal).1 rfl,
      fun equal => (apart _ equal).2.1 rfl,
      fun equal => (apart _ equal).2.2.1 rfl,
      fun equal => (apart _ equal).2.2.2 rfl⟩

variable {reader : PairReader}

theorem Stuck.readItems
    {rest : List Char} (stuck : Stuck rest) (fuel : Nat) :
    readItems reader fuel rest = none := by
  cases fuel with
  | zero => rw [JsonPairs.readItems]
  | succ fuel =>
      rw [JsonPairs.readItems]
      split
      · rename_i after equal
        exact absurd equal (stuck.skipSpace_ne after).2.1
      · rename_i after equal
        exact absurd equal (stuck.skipSpace_ne after).1
      · rfl

theorem Stuck.readMembers
    {rest : List Char} (stuck : Stuck rest) (fuel : Nat) :
    readMembers reader fuel rest = none := by
  cases fuel with
  | zero => rw [JsonPairs.readMembers]
  | succ fuel =>
      rw [JsonPairs.readMembers]
      split
      · rename_i after equal
        exact absurd equal (stuck.skipSpace_ne after).2.2.1
      · rename_i after equal
        exact absurd equal (stuck.skipSpace_ne after).1
      · rfl

/-- Whatever a reader reads of a text, nothing is read on after it. -/
def Breaks {α : Type}
    (read : Nat → List Char → Option (α × List Char)) (text : List Char) :
    Prop :=
  ∀ fuel result, text.length ≤ fuel → read fuel text = some result →
    Stuck result.2

/-! ## What follows -/

/-- Nothing, or the text of an object whose first key starts with a letter. -/
structure Resumed (reader : PairReader) (text : List Char) : Prop where
  opens :
    text = [] ∨
      ∃ letter tail, text = '\x7b' :: '"' :: letter :: tail ∧
        letter.isLower = true
  breaks : Breaks (readValue reader) text

theorem stuck_of_lower
    {letter : Char} (lower : letter.isLower = true) (tail : List Char) :
    Stuck (letter :: tail) := by
  apply stuck_cons
  · rintro (rfl | rfl | rfl | rfl) <;> simp at lower
  · refine ⟨?_, ?_, ?_, ?_⟩ <;> rintro rfl <;> simp at lower

theorem resumed_nil : Resumed reader [] where
  opens := Or.inl rfl
  breaks fuel result _ read := by
    cases fuel with
    | zero => cases read
    | succ fuel =>
        have nothing : readNumber reader.float [] = none := rfl
        cases constants : reader.constants <;>
          simp [readValue, JsonText.readValue, skipSpace, nothing, constants,
            readConstant] at read

namespace Resumed

variable {text : List Char}

/-- Only a brace can follow. -/
theorem head
    (resumed : Resumed reader text) :
    ∀ character ∈ text.head?, character = '\x7b' := by
  rcases resumed.opens with rfl | ⟨letter, tail, rfl, _⟩
  · rintro character ⟨⟩
  · rintro character ⟨⟩
    rfl

theorem stuck (resumed : Resumed reader text) : Stuck text := by
  rcases resumed.opens with rfl | ⟨letter, tail, rfl, _⟩
  · exact stuck_nil
  · exact stuck_cons _ (by decide) (by decide)

/-- What follows is not a member. -/
theorem readMember (resumed : Resumed reader text) (fuel : Nat) :
    readMember reader fuel text = none := by
  cases fuel with
  | zero => rw [JsonPairs.readMember]
  | succ fuel =>
      rw [JsonPairs.readMember]
      rcases resumed.opens with rfl | ⟨letter, tail, rfl, _⟩
      · rfl
      · rw [skipSpace_cons _ (by decide)]
        rfl

end Resumed

/-! ## Splitting a text -/

/-- A part of two texts ends inside the first or reaches into the second. -/
theorem append_eq_append_cases
    {α : Type} {front back part rest : List α}
    (split : front ++ back = part ++ rest) :
    (∃ missing, front = part ++ missing) ∨
      ∃ head later,
        part = front ++ head :: later ∧ back = head :: later ++ rest := by
  rcases List.append_eq_append_iff.1 split with
    ⟨later, rfl, behind⟩ | ⟨missing, inside, _⟩
  · cases later with
    | nil =>
        refine Or.inl ⟨[], ?_⟩
        rw [List.append_nil, List.append_nil]
    | cons head later => exact Or.inr ⟨head, later, rfl, behind⟩
  · exact Or.inl ⟨missing, inside⟩

/-! ## Texts -/

section

variable {following : List Char}

/-- Only escapes have parts. -/
theorem escape_of_cut
    {character head : Char} {part missing : List Char}
    (unfinished : missing ≠ [])
    (split : writeCharacter character = head :: part ++ missing) :
    head = '\\' ∧
      (part = [] ∨ ∃ digits, part = 'u' :: digits ∧ digits.length < 4) := by
  have present := List.length_pos_iff.2 unfinished
  have short :
      ∀ {letter}, ['\\', letter] = head :: part ++ missing →
        head = '\\' ∧
          (part = [] ∨
            ∃ digits, part = 'u' :: digits ∧ digits.length < 4) := by
    intro letter written
    have lengths := congrArg List.length written
    simp only [List.length_append, List.length_cons, List.length_nil]
      at lengths
    have empty : part.length = 0 := by omega
    exact
      ⟨(List.cons.inj written).1.symm,
        Or.inl (List.length_eq_zero_iff.1 empty)⟩
  unfold writeCharacter at split
  split_ifs at split
  · exact short split
  · exact short split
  · exact short split
  · exact short split
  · exact short split
  · exact short split
  · exact short split
  · rcases List.cons.inj split with ⟨rfl, rest⟩
    cases part with
    | nil => exact ⟨rfl, Or.inl rfl⟩
    | cons letter digits =>
        cases (List.cons.inj rest).1
        have lengths := congrArg List.length split
        simp only [List.length_append, List.length_cons, List.length_nil]
          at lengths
        exact ⟨rfl, Or.inr ⟨digits, rfl, by omega⟩⟩
  · have lengths := congrArg List.length split
    simp only [List.length_append, List.length_cons, List.length_nil]
      at lengths
    omega

/-- No character is read of a part of an escape. -/
theorem readUnits_cut
    (resumed : Resumed reader following) {character : Char}
    {head : Char} {part missing : List Char} (unfinished : missing ≠ [])
    (split : writeCharacter character = head :: part ++ missing) :
    readUnits (head :: part ++ following) = none := by
  rcases escape_of_cut unfinished split with
    ⟨rfl, rfl | ⟨digits, rfl, few⟩⟩
  · rcases resumed.opens with rfl | ⟨letter, tail, rfl, _⟩
    · rfl
    · simp [readUnits, simpleEscape]
  · have brace : hexValue '\x7b' = none := by decide
    rcases resumed.opens with rfl | ⟨letter, tail, rfl, _⟩
    · rcases digits with _ | ⟨a, _ | ⟨b, _ | ⟨c, _ | _⟩⟩⟩
      · simp [readUnits, simpleEscape]
      · simp [readUnits, simpleEscape]
      · simp [readUnits, simpleEscape]
      · simp [readUnits, simpleEscape]
      · simp at few
        omega
    · rcases digits with _ | ⟨a, _ | ⟨b, _ | ⟨c, _ | _⟩⟩⟩
      · cases tail with
        | nil => simp [readUnits, simpleEscape]
        | cons next tail => simp [readUnits, codeUnit, brace]
      · simp [readUnits, codeUnit, brace]
      · simp [readUnits, codeUnit, brace]
      · simp [readUnits, codeUnit, brace]
      · simp at few
        omega

/-- A text that breaks off ends at the first key of what follows. -/
theorem readUnits_torn
    (resumed : Resumed reader following)
    {characters part rest : List Char}
    (split : characters.flatMap writeCharacter = part ++ rest)
    {result : List Nat × List Char}
    (read : readUnits (part ++ following) = some result) :
    Stuck result.2 := by
  have fresh :
      ∀ {result}, readUnits following = some result → Stuck result.2 := by
    intro result read
    rcases resumed.opens with rfl | ⟨letter, tail, rfl, lower⟩
    · cases read
    · have units :
          readUnits ('\x7b' :: '"' :: letter :: tail) =
            some ([123], letter :: tail) := by
        simp [readUnits]
      rw [units] at read
      cases read
      exact stuck_of_lower lower tail
  induction characters generalizing part result with
  | nil =>
      rw [List.flatMap_nil] at split
      rw [(List.append_eq_nil_iff.1 split.symm).1] at read
      exact fresh read
  | cons character characters induction =>
      rw [List.flatMap_cons] at split
      rcases append_eq_append_cases split with
        ⟨missing, inside⟩ | ⟨head, later, rfl, others⟩
      · cases part with
        | nil => exact fresh read
        | cons head part =>
            cases missing with
            | nil =>
                rw [List.append_nil] at inside
                rw [← inside, readUnits_writeCharacter] at read
                rcases Option.map_eq_some_iff.1 read with ⟨units, later, rfl⟩
                have broken : Stuck units.2 := fresh later
                exact broken
            | cons next missing =>
                rw [readUnits_cut resumed (List.cons_ne_nil _ _) inside]
                  at read
                cases read
      · rw [List.append_assoc, readUnits_writeCharacter] at read
        rcases Option.map_eq_some_iff.1 read with ⟨units, after, rfl⟩
        have broken : Stuck units.2 := induction others after
        exact broken

/-- A text in quotes that breaks off, or what follows it. -/
theorem readText_torn
    (resumed : Resumed reader following)
    {text : String} {part rest : List Char}
    (split : text.toList.flatMap writeCharacter ++ ['"'] = part ++ rest)
    {result : List Char × List Char}
    (read : readText (part ++ following) = some result) :
    Stuck result.2 := by
  rcases append_eq_append_cases split with
    ⟨missing, inside⟩ | ⟨head, later, rfl, closing⟩
  · unfold readText at read
    rcases Option.bind_eq_some_iff.1 read with ⟨units, unitsRead, joined⟩
    rcases Option.bind_eq_some_iff.1 joined with ⟨characters, _, returned⟩
    cases returned
    exact readUnits_torn resumed inside unitsRead
  · cases (List.cons.inj closing).1
    cases (List.append_eq_nil_iff.1 (List.cons.inj closing).2.symm).1
    rw [List.append_assoc, List.singleton_append, readText_writeText] at read
    cases read
    exact resumed.stuck

/-! ## Numbers -/

/-- A digit or a brace is next, or nothing. -/
def Quiet (text : List Char) : Prop :=
  ∀ character ∈ text.head?, character.isDigit = true ∨ character = '\x7b'

theorem Quiet.stuck {text : List Char} (quiet : Quiet text) : Stuck text := by
  cases text with
  | nil => exact stuck_nil
  | cons head tail =>
      rcases quiet head rfl with digit | rfl
      · apply stuck_cons
        · rintro (rfl | rfl | rfl | rfl) <;> simp at digit
        · refine ⟨?_, ?_, ?_, ?_⟩ <;> rintro rfl <;> simp at digit
      · exact stuck_cons _ (by decide) (by decide)

theorem Quiet.signPart {text : List Char} (quiet : Quiet text) :
    signPart text = ([], text) := by
  unfold JsonText.signPart
  split
  · have impossible := quiet '-' rfl
    simp at impossible
  · rfl

theorem Quiet.fractionPart {text : List Char} (quiet : Quiet text) :
    fractionPart text = ([], text) := by
  unfold JsonText.fractionPart
  split
  · have impossible := quiet '.' rfl
    simp at impossible
  · rfl

theorem Quiet.exponentPart {text : List Char} (quiet : Quiet text) :
    exponentPart text = ([], text) := by
  unfold JsonText.exponentPart
  split
  · rfl
  · rename_i mark rest
    have other : ¬ (mark = 'e' ∨ mark = 'E') := by
      rintro (rfl | rfl)
      · have impossible := quiet 'e' rfl
        simp at impossible
      · have impossible := quiet 'E' rfl
        simp at impossible
    rw [if_neg other]

theorem quiet_digits
    (resumed : Resumed reader following) {digits : List Char}
    (all : ∀ character ∈ digits, character.isDigit = true) :
    Quiet (digits ++ following) := by
  intro character isHead
  cases digits with
  | nil => exact Or.inr (resumed.head character isHead)
  | cons head tail =>
      cases isHead
      exact Or.inl (all _ List.mem_cons_self)

/-- The digits of a number end before what follows. -/
theorem quiet_wholePart
    (resumed : Resumed reader following) {digits : List Char}
    (all : ∀ character ∈ digits, character.isDigit = true) :
    Quiet (wholePart (digits ++ following)).2 := by
  have ended :
      ∀ character ∈ following.head?, character.isDigit = false := by
    intro character isHead
    rw [resumed.head character isHead]
    rfl
  unfold wholePart
  split
  · rename_i rest equal
    cases digits with
    | nil =>
        rw [List.nil_append] at equal
        cases resumed.head '0' (by rw [equal]; rfl)
    | cons head tail =>
        cases (List.cons.inj equal).2
        exact
          quiet_digits resumed fun character member =>
            all character (List.mem_cons_of_mem _ member)
  · rw [(takeWhile_digits_append all ended).2]
    exact fun character isHead => Or.inr (resumed.head character isHead)

/-- What follows the digits of a number that breaks off is not read. -/
theorem readNumber_torn
    (resumed : Resumed reader following)
    {float : List Char → PyFloat} {value : Int} {part rest : List Char}
    (split : writeInt value = part ++ rest)
    {result : Json × List Char}
    (read : readNumber float (part ++ following) = some result) :
    Stuck result.2 := by
  have unsigned :
      ∃ digits, (∀ character ∈ digits, character.isDigit = true) ∧
        (signPart (part ++ following)).2 = digits ++ following := by
    unfold writeInt at split
    split_ifs at split with negative
    · cases part with
      | nil =>
          rw [List.nil_append,
            (Quiet.signPart fun character isHead =>
              Or.inr (resumed.head character isHead))]
          exact
            ⟨[], fun character member => absurd member List.not_mem_nil, rfl⟩
      | cons sign digits =>
          rcases List.cons.inj split with ⟨rfl, written⟩
          exact
            ⟨digits,
              fun character member =>
                isDigit_of_mem_toDigits
                  (by
                    rw [written]
                    exact List.mem_append_left _ member),
              rfl⟩
    · have all : ∀ character ∈ part, character.isDigit = true :=
        fun character member =>
          isDigit_of_mem_toDigits (split ▸ List.mem_append_left _ member)
      rw [(quiet_digits resumed all).signPart]
      exact ⟨part, all, rfl⟩
  rcases unsigned with ⟨digits, all, unsigned⟩
  have quiet := quiet_wholePart resumed all
  rw [← unsigned] at quiet
  unfold readNumber at read
  simp only [quiet.fractionPart, quiet.exponentPart] at read
  split at read
  · cases read
  · cases read
    exact quiet.stuck

/-! ## Words -/

/-- The texts of `None`, `True` and `False`. -/
def words : List (List Char) :=
  [['n', 'u', 'l', 'l'], ['t', 'r', 'u', 'e'], ['f', 'a', 'l', 's', 'e']]

theorem wordHead
    {word : List Char} (isWord : word ∈ words) {head : Char}
    {tail : List Char} (split : word = head :: tail) :
    head = 'n' ∨ head = 't' ∨ head = 'f' := by
  simp only [words, List.mem_cons, List.not_mem_nil, or_false] at isWord
  rcases isWord with rfl | rfl | rfl
  · exact Or.inl (List.cons.inj split).1.symm
  · exact Or.inr (Or.inl (List.cons.inj split).1.symm)
  · exact Or.inr (Or.inr (List.cons.inj split).1.symm)

/-- A word is known by its first letter. -/
theorem word_eq_of_head
    {one other : List Char} (oneWord : one ∈ words) (otherWord : other ∈ words)
    (same : one.head? = other.head?) : one = other := by
  simp only [words, List.mem_cons, List.not_mem_nil, or_false]
    at oneWord otherWord
  rcases oneWord with rfl | rfl | rfl <;>
    rcases otherWord with rfl | rfl | rfl <;> simp at same ⊢

/-- Where a letter is next, a word is read. -/
theorem readValue_word
    {plain : Reader} {head : Char} {tail : List Char}
    (letter : head = 'n' ∨ head = 't' ∨ head = 'f') {fuel : Nat}
    {result : Json × List Char}
    (read : JsonText.readValue plain (fuel + 1) (head :: tail) = some result) :
    ∃ word ∈ words, head :: tail = word ++ result.2 := by
  have visible :
      ¬ (head = ' ' ∨ head = '\t' ∨ head = '\n' ∨ head = '\r') := by
    rcases letter with rfl | rfl | rfl <;> decide
  rw [JsonText.readValue, skipSpace_cons tail visible] at read
  split at read
  · rename_i equal
    cases (List.cons.inj equal).1
    simp at letter
  · rename_i equal
    cases (List.cons.inj equal).1
    simp at letter
  · rename_i equal
    cases (List.cons.inj equal).1
    simp at letter
  · rename_i equal
    cases read
    exact ⟨_, List.mem_cons_self, equal⟩
  · rename_i equal
    cases read
    exact ⟨_, List.mem_cons_of_mem _ List.mem_cons_self, equal⟩
  · rename_i equal
    cases read
    exact
      ⟨_,
        List.mem_cons_of_mem _ (List.mem_cons_of_mem _ List.mem_cons_self),
        equal⟩
  · have noNumber : readNumber plain.float (head :: tail) = none := by
      rw [← Option.not_isSome_iff_eq_none]
      intro found
      rcases Option.isSome_iff_exists.1 found with ⟨number, numberRead⟩
      rcases head_of_readNumber numberRead with ⟨_, _, equal, digit⟩
      cases (List.cons.inj equal).1
      rcases letter with rfl | rfl | rfl <;> simp at digit
    have noConstant : readConstant (head :: tail) = none := by
      rcases letter with rfl | rfl | rfl <;> rfl
    rw [noNumber, noConstant] at read
    simp at read

/-- A part of a word is not completed by what follows. -/
theorem word_torn
    (resumed : Resumed reader following)
    {word part missing : List Char} (isWord : word ∈ words)
    {head : Char}
    (split : word = head :: part ++ missing) {fuel : Nat}
    {result : Json × List Char}
    (read :
      JsonText.readValue reader.toReader (fuel + 1)
          (head :: part ++ following) =
        some result) :
    Stuck result.2 := by
  rcases readValue_word (wordHead isWord split) read with
    ⟨other, otherWord, written⟩
  have same : word = other := by
    apply word_eq_of_head isWord otherWord
    cases other with
    | nil => simp [words] at otherWord
    | cons first more =>
        rw [split, List.cons_append, List.head?_cons, List.head?_cons,
          (List.cons.inj written).1]
  subst same
  have after :
      head :: part ++ following = head :: part ++ missing ++ result.2 := by
    rw [← split, ← written]
    rfl
  rw [List.append_assoc, List.append_cancel_left_eq] at after
  cases missing with
  | nil =>
      rw [List.nil_append] at after
      rw [← after]
      exact resumed.stuck
  | cons next missing =>
      have brace := resumed.head next (by rw [after]; rfl)
      have present : '\x7b' ∈ word := by
        rw [split, ← brace]
        exact List.mem_append_right _ List.mem_cons_self
      simp only [words, List.mem_cons, List.not_mem_nil, or_false] at isWord
      rcases isWord with rfl | rfl | rfl <;> simp at present

/-! ## Values -/

variable {floats : FloatText}

/-- A value that breaks off, or what follows it, is not read on. -/
def Torn (floats : FloatText) (reader : PairReader) (following : List Char)
    (value : Json) : Prop :=
  ∀ part rest, write floats value = part ++ rest →
    Breaks (readValue reader) (part ++ following)

/-- A value without floats, with sorted keys. -/
abbrev Floatless : Json → Prop :=
  WellFormed fun _ => False

theorem Floatless.canonical {value : Json} (floatless : Floatless value) :
    Canonical value := by
  induction floatless with
  | null => exact .null
  | bool value => exact .bool value
  | int value => exact .int value
  | float impossible => exact impossible.elim
  | text value => exact .text value
  | array _ induction => exact .array induction
  | object sorted _ induction => exact .object sorted induction

/-- It is enough to read a part that is not empty. -/
theorem torn_of_cons
    (resumed : Resumed reader following) {value : Json}
    (inside :
      ∀ head part rest, write floats value = head :: part ++ rest →
        ∀ fuel result, (part ++ following).length ≤ fuel →
          readValue reader (fuel + 1) (head :: part ++ following) =
              some result →
            Stuck result.2) :
    Torn floats reader following value := by
  intro part rest split
  cases part with
  | nil => exact resumed.breaks
  | cons head part =>
      intro fuel result enough read
      cases fuel with
      | zero => cases enough
      | succ fuel =>
          exact
            inside head part rest split fuel result
              (Nat.le_of_succ_le_succ enough) read

theorem torn_word
    (resumed : Resumed reader following) {value : Json}
    (isWord : write floats value ∈ words) :
    Torn floats reader following value := by
  apply torn_of_cons resumed
  intro head part rest split fuel result _ read
  have letter := wordHead isWord split
  rw [List.cons_append, readValue_other] at read
  · exact word_torn resumed isWord split read
  · rcases letter with rfl | rfl | rfl <;> decide
  · rcases letter with rfl | rfl | rfl <;> decide
  · rcases letter with rfl | rfl | rfl <;> decide

theorem torn_text
    (resumed : Resumed reader following) (text : String) :
    Torn floats reader following (.text text) := by
  apply torn_of_cons resumed
  intro head part rest split fuel result _ read
  rcases List.cons.inj split with ⟨rfl, quoted⟩
  rw [List.cons_append, readValue_other _ _ (by decide) (by decide)
    (by decide), JsonText.readValue, skipSpace_cons _ (by decide)] at read
  rcases Option.bind_eq_some_iff.1 read with ⟨characters, textRead, returned⟩
  cases returned
  exact readText_torn resumed quoted textRead

/-- Without constants, what starts as a number is a number. -/
theorem readNumber_of_readValue
    {plain : Reader} (strict : plain.constants = false) {head : Char}
    {tail : List Char} (number : head = '-' ∨ head.isDigit = true)
    {fuel : Nat} {result : Json × List Char}
    (read : JsonText.readValue plain (fuel + 1) (head :: tail) = some result) :
    readNumber plain.float (head :: tail) = some result := by
  cases found : readNumber plain.float (head :: tail) with
  | some other => rwa [readValue_of_readNumber found] at read
  | none =>
      rw [JsonText.readValue,
        skipSpace_cons tail (opensValue_of_number number).1] at read
      split at read <;> try
        (rename_i equal
         cases (List.cons.inj equal).1
         simp at number)
      rw [found, strict] at read
      cases read

theorem torn_int
    (strict : reader.constants = false)
    (resumed : Resumed reader following) (value : Int) :
    Torn floats reader following (.int value) := by
  apply torn_of_cons resumed
  intro head part rest split fuel result _ read
  have number : head = '-' ∨ head.isDigit = true := by
    have whole :=
      head_of_readNumber (readNumber_writeInt floats.float value delimited_nil)
    rcases whole with ⟨first, others, same, number⟩
    rw [List.append_nil] at same
    cases (List.cons.inj (same.symm.trans split)).1
    exact number
  have apart := apart_of_number number
  rw [List.cons_append,
    readValue_other _ _ (opensValue_of_number number).1 apart.1 apart.2]
    at read
  exact
    readNumber_torn resumed split
      (readNumber_of_readValue strict number read)

theorem delimited_items
    {items : List Json} {head : Char} {later rest after : List Char}
    (split : writeItems floats items = head :: later ++ rest) :
    Delimited (head :: later ++ after) := by
  rintro character ⟨⟩
  apply delimited_writeItems items []
  rw [split]
  rfl

theorem delimited_members
    {members : Members} {head : Char} {later rest after : List Char}
    (split : writeMembers floats members = head :: later ++ rest) :
    Delimited (head :: later ++ after) := by
  rintro character ⟨⟩
  apply delimited_writeMembers members []
  rw [split]
  rfl

/-- Items that break off are not closed. -/
theorem readItems_torn
    (resumed : Resumed reader following) {items : List Json}
    (each :
      ∀ item ∈ items,
        ReadsBack floats reader item ∧ Torn floats reader following item)
    {part rest : List Char} (unfinished : rest ≠ [])
    (split : writeItems floats items = part ++ rest) (fuel : Nat)
    (enough : (part ++ following).length ≤ fuel) :
    readItems reader fuel (part ++ following) = none := by
  induction items generalizing part fuel with
  | nil =>
      cases part with
      | nil => exact resumed.stuck.readItems fuel
      | cons head part =>
          rcases List.append_eq_nil_iff.1 (List.cons.inj split).2.symm with
            ⟨_, finished⟩
          exact absurd finished unfinished
  | cons item items induction =>
      rw [List.forall_mem_cons] at each
      cases part with
      | nil => exact resumed.stuck.readItems fuel
      | cons head part =>
          cases fuel with
          | zero => cases enough
          | succ fuel =>
              rcases List.cons.inj split with ⟨rfl, written⟩
              have shorter : (part ++ following).length ≤ fuel :=
                Nat.le_of_succ_le_succ enough
              rw [List.cons_append, readItems_comma]
              rcases append_eq_append_cases written with
                ⟨missing, inside⟩ | ⟨next, later, rfl, others⟩
              · cases found : readValue reader fuel (part ++ following) with
                | none => rfl
                | some result =>
                    have stuck :=
                      each.1.2 part missing inside fuel result shorter found
                    simp [stuck.readItems]
              · have delimited : Delimited (next :: later ++ following) :=
                  delimited_items others
                rw [List.append_assoc] at shorter ⊢
                rw [List.length_append] at shorter
                have found :=
                  each.1.1 fuel (next :: later ++ following) (by omega)
                    delimited
                have closed := induction each.2 others fuel (by omega)
                rw [List.cons_append] at closed
                rw [found, List.cons_append]
                simp [closed]

/-- A member that breaks off, or what follows it, is not read on. -/
theorem readMember_torn
    (resumed : Resumed reader following) {key : String} {value : Json}
    (torn : Torn floats reader following value) {part rest : List Char}
    (split : writeText key ++ ':' :: write floats value = part ++ rest) :
    Breaks (readMember reader) (part ++ following) := by
  intro fuel result enough read
  cases part with
  | nil =>
      rw [List.nil_append, resumed.readMember] at read
      cases read
  | cons head part =>
      cases fuel with
      | zero => cases enough
      | succ fuel =>
          rcases List.cons.inj split with ⟨rfl, written⟩
          have shorter : (part ++ following).length ≤ fuel :=
            Nat.le_of_succ_le_succ enough
          rw [List.cons_append, readMember_quote] at read
          rcases append_eq_append_cases written with
            ⟨missing, inside⟩ | ⟨next, later, rfl, others⟩
          · rcases Option.bind_eq_some_iff.1 read with
              ⟨⟨characters, after⟩, found, more⟩
            have stuck : Stuck after := readText_torn resumed inside found
            dsimp only at more
            split at more
            · rename_i value colon
              exact absurd colon (stuck.skipSpace_ne value).2.2.2
            · cases more
          · rcases List.cons.inj others with ⟨rfl, valueWritten⟩
            have colon :
                skipSpace (':' :: (later ++ following)) =
                  ':' :: (later ++ following) :=
              skipSpace_cons _ (by decide)
            rw [List.append_assoc, List.append_assoc, List.singleton_append,
              List.cons_append, readText_writeText] at read
            rcases Option.bind_eq_some_iff.1 read with ⟨text, same, more⟩
            cases same
            dsimp only at more
            rw [colon] at more
            rcases Option.bind_eq_some_iff.1 more with
              ⟨⟨written, after⟩, found, returned⟩
            cases returned
            refine torn later rest valueWritten fuel (written, after) ?_ found
            simp only [List.length_append, List.length_cons] at shorter ⊢
            omega

/-- Members that break off are not closed. -/
theorem readMembers_torn
    (resumed : Resumed reader following) {members : Members}
    (each :
      ∀ member ∈ members,
        ReadsBack floats reader member.2 ∧
          Torn floats reader following member.2)
    {part rest : List Char} (unfinished : rest ≠ [])
    (split : writeMembers floats members = part ++ rest) (fuel : Nat)
    (enough : (part ++ following).length ≤ fuel) :
    readMembers reader fuel (part ++ following) = none := by
  induction members generalizing part fuel with
  | nil =>
      cases part with
      | nil => exact resumed.stuck.readMembers fuel
      | cons head part =>
          rcases List.append_eq_nil_iff.1 (List.cons.inj split).2.symm with
            ⟨_, finished⟩
          exact absurd finished unfinished
  | cons member members induction =>
      rcases member with ⟨key, value⟩
      rw [List.forall_mem_cons] at each
      cases part with
      | nil => exact resumed.stuck.readMembers fuel
      | cons head part =>
          cases fuel with
          | zero => cases enough
          | succ fuel =>
              rcases List.cons.inj split with ⟨rfl, written⟩
              have shorter : (part ++ following).length ≤ fuel :=
                Nat.le_of_succ_le_succ enough
              rw [List.cons_append, readMembers_comma]
              rcases append_eq_append_cases written with
                ⟨missing, inside⟩ | ⟨next, later, rfl, others⟩
              · cases found : readMember reader fuel (part ++ following) with
                | none => rfl
                | some result =>
                    have stuck :=
                      readMember_torn resumed each.1.2 inside fuel result
                        shorter found
                    simp [stuck.readMembers]
              · have delimited : Delimited (next :: later ++ following) :=
                  delimited_members others
                rw [List.append_assoc] at shorter ⊢
                rw [List.length_append] at shorter
                have memberEnough :
                    (writeText key ++ ':' :: write floats value).length ≤
                      fuel := by
                  omega
                have found :=
                  readMember_write each.1.1 (next :: later ++ following)
                    memberEnough delimited
                have closed := induction each.2 others fuel (by omega)
                rw [List.cons_append] at closed
                rw [found, List.cons_append]
                simp [closed]

/-- A list that breaks off is not closed. -/
theorem readValue_tornArray
    (resumed : Resumed reader following) {items : List Json}
    (canonical : ∀ item ∈ items, Canonical item)
    (each :
      ∀ item ∈ items,
        ReadsBack floats reader item ∧ Torn floats reader following item)
    {head : Char} {part rest : List Char} (unfinished : rest ≠ [])
    (split : write floats (.array items) = head :: part ++ rest)
    (fuel : Nat) (enough : (part ++ following).length ≤ fuel) :
    readValue reader (fuel + 1) (head :: part ++ following) = none := by
  cases items with
  | nil =>
      rcases List.cons.inj split with ⟨rfl, closing⟩
      cases part with
      | nil =>
          rw [List.cons_append, List.nil_append,
            readValue_array fuel fun after =>
              (resumed.stuck.skipSpace_ne after).2.1]
          cases found : readValue reader fuel following with
          | none => rfl
          | some result =>
              have stuck := resumed.breaks fuel result enough found
              simp [stuck.readItems]
      | cons next part =>
          rcases List.append_eq_nil_iff.1 (List.cons.inj closing).2.symm with
            ⟨_, finished⟩
          exact absurd finished unfinished
  | cons item items =>
      rw [List.forall_mem_cons] at canonical each
      rcases List.cons.inj split with ⟨rfl, written⟩
      have unclosed :
          ∀ after, skipSpace (part ++ following) ≠ ']' :: after := by
        intro after closed
        cases part with
        | nil => exact (resumed.stuck.skipSpace_ne after).2.1 closed
        | cons next part =>
            rcases write_eq_cons floats canonical.1 with
              ⟨opening, tail, opened, opens⟩
            rw [opened] at written
            cases (List.cons.inj written).1
            rw [List.cons_append, skipSpace_cons _ opens.1] at closed
            exact opens.2 (List.cons.inj closed).1
      rw [List.cons_append, readValue_array fuel unclosed]
      rcases append_eq_append_cases written with
        ⟨missing, inside⟩ | ⟨next, later, rfl, others⟩
      · cases found : readValue reader fuel (part ++ following) with
        | none => rfl
        | some result =>
            have stuck :=
              each.1.2 part missing inside fuel result enough found
            simp [stuck.readItems]
      · have delimited : Delimited (next :: later ++ following) :=
          delimited_items others
        rw [List.append_assoc] at enough ⊢
        rw [List.length_append] at enough
        have found :=
          each.1.1 fuel (next :: later ++ following) (by omega) delimited
        have closed :=
          readItems_torn resumed each.2 unfinished others fuel (by omega)
        rw [List.cons_append] at closed
        rw [found, List.cons_append]
        simp [closed]

/-- An object that breaks off is not closed. -/
theorem readValue_tornObject
    (resumed : Resumed reader following) {members : Members}
    (each :
      ∀ member ∈ members,
        ReadsBack floats reader member.2 ∧
          Torn floats reader following member.2)
    {head : Char} {part rest : List Char} (unfinished : rest ≠ [])
    (split : write floats (.object members) = head :: part ++ rest)
    (fuel : Nat) (enough : (part ++ following).length ≤ fuel) :
    readValue reader (fuel + 1) (head :: part ++ following) = none := by
  cases members with
  | nil =>
      rcases List.cons.inj split with ⟨rfl, closing⟩
      cases part with
      | nil =>
          rw [List.cons_append, List.nil_append,
            readValue_object fuel fun after =>
              (resumed.stuck.skipSpace_ne after).2.2.1,
            resumed.readMember]
          rfl
      | cons next part =>
          rcases List.append_eq_nil_iff.1 (List.cons.inj closing).2.symm with
            ⟨_, finished⟩
          exact absurd finished unfinished
  | cons member members =>
      rcases member with ⟨key, value⟩
      rw [List.forall_mem_cons] at each
      rcases List.cons.inj split with ⟨rfl, written⟩
      have unclosed :
          ∀ after, skipSpace (part ++ following) ≠ '\x7d' :: after := by
        intro after closed
        cases part with
        | nil => exact (resumed.stuck.skipSpace_ne after).2.2.1 closed
        | cons next part =>
            cases (List.cons.inj written).1
            rw [List.cons_append, skipSpace_cons _ (by decide)] at closed
            cases (List.cons.inj closed).1
      rw [List.cons_append, readValue_object fuel unclosed]
      rcases append_eq_append_cases written with
        ⟨missing, inside⟩ | ⟨next, later, rfl, others⟩
      · cases found : readMember reader fuel (part ++ following) with
        | none => rfl
        | some result =>
            have stuck :=
              readMember_torn resumed each.1.2 inside fuel result enough found
            simp [stuck.readMembers]
      · have delimited : Delimited (next :: later ++ following) :=
          delimited_members others
        rw [List.append_assoc] at enough ⊢
        rw [List.length_append] at enough
        have memberEnough :
            (writeText key ++ ':' :: write floats value).length ≤ fuel := by
          omega
        have found :=
          readMember_write each.1.1 (next :: later ++ following)
            memberEnough delimited
        have closed :=
          readMembers_torn resumed each.2 unfinished others fuel (by omega)
        rw [List.cons_append] at closed
        rw [found, List.cons_append]
        simp [closed]

/-- A list or an object is broken off or whole. -/
theorem torn_of_closed
    (resumed : Resumed reader following) {value : Json}
    (whole :
      ∀ fuel, (write floats value).length ≤ fuel →
        readValue reader fuel (write floats value ++ following) =
          some (value, following))
    (broken :
      ∀ head part rest, rest ≠ [] →
        write floats value = head :: part ++ rest →
          ∀ fuel, (part ++ following).length ≤ fuel →
            readValue reader (fuel + 1) (head :: part ++ following) =
              none) :
    Torn floats reader following value := by
  apply torn_of_cons resumed
  intro head part rest split fuel result enough read
  by_cases finished : rest = []
  · rw [finished, List.append_nil] at split
    have found := whole (fuel + 1) (by
      rw [split, List.length_cons]
      rw [List.length_append] at enough
      omega)
    rw [split, read] at found
    cases found
    exact resumed.stuck
  · rw [broken head part rest finished split fuel enough] at read
    cases read

/-- Whatever is read of a part of a document, nothing is read on after it. -/
theorem torn_of_floatless
    (agrees : reader.float = floats.float)
    (strict : reader.constants = false)
    (keeps : KeepsSorted reader.hook)
    (resumed : Resumed reader following)
    {value : Json} (floatless : Floatless value) :
    Torn floats reader following value := by
  have back :
      ∀ {value}, Floatless value → ReadsBack floats reader value :=
    fun floatless =>
      readsBack_of_canonical agrees keeps floatless.canonical
  induction floatless with
  | null => exact torn_word resumed List.mem_cons_self
  | bool value =>
      cases value with
      | true =>
          exact torn_word resumed (List.mem_cons_of_mem _ List.mem_cons_self)
      | false =>
          exact
            torn_word resumed
              (List.mem_cons_of_mem _
                (List.mem_cons_of_mem _ List.mem_cons_self))
  | int value => exact torn_int strict resumed value
  | float impossible => exact impossible.elim
  | text value => exact torn_text resumed value
  | array each induction =>
      have canonical := fun item member =>
        Floatless.canonical (each item member)
      have items := fun item member =>
        And.intro (back (each item member)) (induction item member)
      exact
        torn_of_closed resumed
          (fun fuel enough =>
            readValue_writeArray canonical
              (fun item member => (items item member).1) following enough)
          fun head part rest unfinished split fuel enough =>
            readValue_tornArray resumed canonical items unfinished split fuel
              enough
  | object sorted each induction =>
      have members := fun member listed =>
        And.intro (back (each member listed)) (induction member listed)
      exact
        torn_of_closed resumed
          (fun fuel enough =>
            readValue_writeObject keeps sorted
              (fun member listed => (members member listed).1) following
              enough)
          fun head part rest unfinished split fuel enough =>
            readValue_tornObject resumed members unfinished split fuel enough

/-! ## Documents -/

/-- A lower-case letter is written as it is. -/
theorem writeCharacter_lower
    {letter : Char} (lower : letter.isLower = true) :
    writeCharacter letter = [letter] := by
  have visible : 32 ≤ letter.toNat := by
    simp only [Char.isLower, Bool.and_eq_true, decide_eq_true_eq] at lower
    have low : 97 ≤ letter.val.toNat := lower.1
    show 32 ≤ letter.val.toNat
    omega
  unfold writeCharacter
  split_ifs with quote backslash newline carriage tab backspace feed control
  · subst quote
    simp at lower
  · subst backslash
    simp at lower
  · subst newline
    simp at lower
  · subst carriage
    simp at lower
  · subst tab
    simp at lower
  · subst backspace
    simp at lower
  · subst feed
    simp at lower
  · omega
  · rfl

/-- The text of an object resumes, where its first key starts with a letter. -/
theorem resumed_write
    (agrees : reader.float = floats.float)
    (keeps : KeepsSorted reader.hook)
    {key : String} {value : Json} {members : Members}
    (canonical : Canonical (.object ((key, value) :: members)))
    {letter : Char} {tail : List Char} (starts : key.toList = letter :: tail)
    (lower : letter.isLower = true) :
    Resumed reader (write floats (.object ((key, value) :: members))) where
  opens := by
    have written :
        write floats (.object ((key, value) :: members)) =
          '\x7b' :: '"' :: letter ::
            (tail.flatMap writeCharacter ++ ['"'] ++
              ':' :: write floats value ++ writeMembers floats members) := by
      rw [write, writeText, starts, List.flatMap_cons,
        writeCharacter_lower lower]
      rfl
    exact Or.inr ⟨letter, _, written, lower⟩
  breaks fuel result enough read := by
    have whole :=
      readsBack_of_canonical agrees keeps canonical fuel [] enough
        delimited_nil
    rw [List.append_nil, read] at whole
    cases whole
    exact stuck_nil

/-- A part of a document, with what follows it, is no document. -/
theorem loads_torn
    (agrees : reader.float = floats.float)
    (strict : reader.constants = false)
    (keeps : KeepsSorted reader.hook)
    (resumed : Resumed reader following)
    {members : Members} (floatless : Floatless (.object members))
    {part rest : List Char}
    (split : write floats (.object members) = part ++ rest)
    (started : part ≠ []) (torn : rest ≠ [] ∨ following ≠ []) :
    loads reader (String.ofList (part ++ following)) = none := by
  cases part with
  | nil => exact absurd rfl started
  | cons head part =>
      unfold loads
      rw [String.toList_ofList]
      cases floatless with
      | object sorted each =>
          have members := fun member listed =>
            And.intro
              (readsBack_of_canonical agrees keeps
                (Floatless.canonical (each member listed)))
              (torn_of_floatless agrees strict keeps resumed
                (each member listed))
          by_cases finished : rest = []
          · rw [finished, List.append_nil] at split
            rw [← split,
              readValue_writeObject keeps sorted
                (fun member listed => (members member listed).1) following]
            · have more : following ≠ [] :=
                torn.resolve_left (not_not_intro finished)
              rcases resumed.opens with empty | ⟨letter, tail, rfl, _⟩
              · exact absurd empty more
              · have brace :
                    skipSpace ('\x7b' :: '"' :: letter :: tail) =
                      '\x7b' :: '"' :: letter :: tail :=
                  skipSpace_cons _ (by decide)
                simp [brace]
            · rw [List.length_append]
              omega
          · rw [readValue_tornObject resumed members finished split]
            · rfl
            · simp

end

end KairosDeploy.Library.TornText
