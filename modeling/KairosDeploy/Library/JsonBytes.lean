import KairosDeploy.Library.TextBytes
import KairosDeploy.Library.TornText

/-!
# JSON in files

A file of bytes is cut into lines, and the encoding of a document is detected
from its first bytes.  A document that breaks off inside a character is no
text, and one that breaks off between two characters is no document.
-/

namespace KairosDeploy.Library.JsonBytes

open KairosDeploy.Library.HexDigest
open KairosDeploy.Library.JsonPairs
open KairosDeploy.Library.JsonText hiding
  readValue readItems readMember readMembers loads ReadsBack
open KairosDeploy.Library.JsonValue
open KairosDeploy.Library.TextBytes
open KairosDeploy.Library.TornText

/-! ## Lines -/

/-- `raw.splitlines()`, the line being read given in reverse. -/
def splitLinesFrom (line : List UInt8) : List UInt8 → List (List UInt8)
  | [] => if line = [] then [] else [line.reverse]
  | 13 :: 10 :: rest => line.reverse :: splitLinesFrom [] rest
  | byte :: rest =>
      if byte = 10 ∨ byte = 13 then
        line.reverse :: splitLinesFrom [] rest
      else
        splitLinesFrom (byte :: line) rest

/-- `raw.splitlines()`. -/
def splitLines (raw : List UInt8) : List (List UInt8) :=
  splitLinesFrom [] raw

/-- No line ends inside. -/
def Unbroken (bytes : List UInt8) : Prop :=
  ∀ byte ∈ bytes, byte ≠ 10 ∧ byte ≠ 13

theorem splitLinesFrom_append
    {bytes : List UInt8} (unbroken : Unbroken bytes)
    (line rest : List UInt8) :
    splitLinesFrom line (bytes ++ 10 :: rest) =
      (line.reverse ++ bytes) :: splitLines rest := by
  induction bytes generalizing line with
  | nil =>
      rw [List.nil_append, splitLinesFrom, if_pos (Or.inl rfl),
        List.append_nil]
      · rfl
      · rintro tail ⟨⟩
  | cons head tail induction =>
      rw [Unbroken, List.forall_mem_cons] at unbroken
      rw [List.cons_append, splitLinesFrom,
        if_neg (not_or.2 unbroken.1), induction unbroken.2,
        List.reverse_cons, List.append_assoc]
      · rfl
      · rintro after rfl
        exact absurd rfl unbroken.1.2

/-- Lines that are ended one by one are the lines. -/
theorem splitLines_flatten
    {lines : List (List UInt8)} (each : ∀ line ∈ lines, Unbroken line) :
    splitLines (lines.map fun line => line ++ [10]).flatten = lines := by
  induction lines with
  | nil => rfl
  | cons line lines induction =>
      rw [List.forall_mem_cons] at each
      rw [List.map_cons, List.flatten_cons, List.append_assoc,
        List.singleton_append, splitLines, splitLinesFrom_append each.1,
        induction each.2]
      rfl

/-! ## Encodings -/

/-- `json.detect_encoding` finds UTF-16 or UTF-32. -/
def isWide : List UInt8 → Bool
  | 0xFE :: 0xFF :: _ => true
  | 0xFF :: 0xFE :: _ => true
  | first :: second :: rest =>
      (first = 0 || second = 0) && (rest.length = 0 || 2 ≤ rest.length)
  | _ => false

/-- The text of a document.  `wide` decodes UTF-16 and UTF-32. -/
def decodeJson (wide : List UInt8 → Option String) :
    List UInt8 → Option String
  | 0xEF :: 0xBB :: 0xBF :: rest => decode rest
  | bytes => if isWide bytes then wide bytes else decode bytes

/-- `json.loads` of bytes. -/
def loadsBytes (wide : List UInt8 → Option String) (reader : PairReader)
    (bytes : List UInt8) : Option Json :=
  (decodeJson wide bytes).bind (loads reader)

theorem decodeJson_brace
    (wide : List UInt8 → Option String) {rest : List UInt8}
    (visible : rest.head? ≠ some 0) :
    decodeJson wide (123 :: rest) = decode (123 :: rest) := by
  have narrow : isWide (123 :: rest) = false := by
    cases rest with
    | nil => rfl
    | cons second rest =>
        have other : second ≠ 0 := fun zero => visible (by rw [zero]; rfl)
        simp [isWide, other]
  unfold decodeJson
  split
  · rename_i equal
    cases (List.cons.inj equal).1
  · rw [narrow]
    rfl

/-! ## Encoded characters -/

/-- Encodings of characters start differently. -/
theorem encode_append_inj
    {one other : Char} {left right : List UInt8}
    (same :
      String.utf8EncodeChar one ++ left =
        String.utf8EncodeChar other ++ right) :
    one = other ∧ left = right := by
  have decoded :
      ∀ (character : Char) (rest : List UInt8),
        ByteArray.utf8DecodeChar?
            (String.utf8EncodeChar character ++ rest).toByteArray 0 =
          some character := by
    intro character rest
    rw [List.toByteArray_append]
    exact ByteArray.utf8DecodeChar?_utf8EncodeChar_append
  have equal : one = other := by
    have first := decoded one left
    rw [same, decoded, Option.some.injEq] at first
    exact first.symm
  subst equal
  exact ⟨rfl, List.append_cancel_left same⟩

/-- Only the first byte of a character can start one. -/
theorem eq_nil_of_startsCharacter
    {character : Char} {front back : List UInt8} {byte : UInt8}
    (split : String.utf8EncodeChar character = front ++ byte :: back)
    (starts : byte.IsUTF8FirstByte) : front = [] := by
  have inside : front.length < (String.utf8EncodeChar character).length := by
    rw [split, List.length_append, List.length_cons]
    omega
  have found : (String.utf8EncodeChar character)[front.length] = byte := by
    simp [split]
  rw [← found, UInt8.isUTF8FirstByte_getElem_utf8EncodeChar] at starts
  exact List.length_eq_zero_iff.1 starts

/-- A character below 128 is its own byte. -/
theorem character_of_byte
    {character ascii : Char} {byte : UInt8}
    (alone : String.utf8EncodeChar ascii = [byte])
    (starts : byte.IsUTF8FirstByte)
    (member : byte ∈ String.utf8EncodeChar character) :
    character = ascii := by
  rcases List.append_of_mem member with ⟨front, back, split⟩
  have first := eq_nil_of_startsCharacter split starts
  rw [first, List.nil_append, ← List.singleton_append, ← alone,
    ← List.append_nil (String.utf8EncodeChar character)] at split
  exact (encode_append_inj split).1

/-- Bytes break off between two characters or inside one. -/
theorem split_encoded
    {text : List Char} {part rest : List UInt8}
    (split : text.flatMap String.utf8EncodeChar = part ++ rest) :
    (∃ front back : List Char, text = front ++ back ∧
        part = front.flatMap String.utf8EncodeChar) ∨
      ∃ (front : List Char) (character : Char) (begun missing : List UInt8),
        begun ≠ [] ∧ missing ≠ [] ∧
          String.utf8EncodeChar character = begun ++ missing ∧
          part = front.flatMap String.utf8EncodeChar ++ begun := by
  induction text generalizing part with
  | nil =>
      rw [List.flatMap_nil] at split
      exact Or.inl ⟨[], [], rfl, (List.append_eq_nil_iff.1 split.symm).1⟩
  | cons character text induction =>
      rw [List.flatMap_cons] at split
      rcases List.append_eq_append_iff.1 split with
        ⟨later, rfl, others⟩ | ⟨missing, inside, _⟩
      · rcases induction others with
          ⟨front, back, rfl, rfl⟩ |
            ⟨front, other, begun, missing, started, unfinished, encoded,
              rfl⟩
        · exact Or.inl ⟨character :: front, back, rfl, rfl⟩
        · refine
            Or.inr
              ⟨character :: front, other, begun, missing, started,
                unfinished, encoded, ?_⟩
          rw [List.flatMap_cons, List.append_assoc]
      · by_cases unfinished : missing = []
        · refine Or.inl ⟨[character], text, rfl, ?_⟩
          rw [List.flatMap_singleton, inside, unfinished, List.append_nil]
        · cases part with
          | nil => exact Or.inl ⟨[], _, rfl, rfl⟩
          | cons head part =>
              exact
                Or.inr
                  ⟨[], character, head :: part, missing,
                    List.cons_ne_nil _ _, unfinished, inside, rfl⟩

/-- Bytes that break off inside a character are no text. -/
theorem decode_torn
    {front : List Char} {character : Char}
    {begun missing following : List UInt8}
    (started : begun ≠ []) (unfinished : missing ≠ [])
    (encoded : String.utf8EncodeChar character = begun ++ missing)
    (starts : ∀ byte ∈ following.head?, byte.IsUTF8FirstByte) :
    decode (front.flatMap String.utf8EncodeChar ++ begun ++ following) =
      none := by
  have ended :
      ∀ {other : Char} {later : List UInt8},
        String.utf8EncodeChar character =
            String.utf8EncodeChar other ++ later →
          later = [] := by
    intro other later whole
    rw [← List.append_nil (String.utf8EncodeChar character)] at whole
    exact (encode_append_inj whole).2.symm
  have apart :
      ∀ text : List Char,
        front.flatMap String.utf8EncodeChar ++ begun ++ following ≠
          text.flatMap String.utf8EncodeChar := by
    induction front with
    | nil =>
        intro text same
        rw [List.flatMap_nil, List.nil_append] at same
        cases text with
        | nil => exact started (List.append_eq_nil_iff.1 same).1
        | cons other text =>
            rw [List.flatMap_cons] at same
            rcases List.append_eq_append_iff.1 same with
              ⟨later, whole, after⟩ | ⟨later, whole, _⟩
            · cases later with
              | nil =>
                  rw [List.append_nil] at whole
                  rw [← whole] at encoded
                  exact unfinished (ended encoded)
              | cons byte later =>
                  have first := starts byte (by rw [after]; rfl)
                  exact started (eq_nil_of_startsCharacter whole first)
            · rw [whole, List.append_assoc] at encoded
              exact
                unfinished (List.append_eq_nil_iff.1 (ended encoded)).2
    | cons first front induction =>
        intro text same
        rw [List.flatMap_cons, List.append_assoc, List.append_assoc] at same
        cases text with
        | nil =>
            exact
              String.utf8EncodeChar_ne_nil
                (List.append_eq_nil_iff.1 same).1
        | cons other text =>
            rw [List.flatMap_cons] at same
            apply induction text
            rw [List.append_assoc]
            exact (encode_append_inj same).2
  rw [← Option.not_isSome_iff_eq_none]
  intro decoded
  rcases Option.isSome_iff_exists.1 decoded with ⟨text, found⟩
  rw [decode_eq_some_iff, ← String.ofList_toList (s := text), utf8_ofList]
    at found
  exact apart _ found

/-! ## Written documents -/

/-- The first two characters of an object. -/
theorem write_object_opens
    (floats : FloatText) (members : Members) :
    ∃ next tail, write floats (.object members) = '\x7b' :: next :: tail ∧
      (next = '"' ∨ next = '\x7d') := by
  cases members with
  | nil => exact ⟨_, _, rfl, Or.inr rfl⟩
  | cons member members => exact ⟨_, _, rfl, Or.inl rfl⟩

/-- No line ends inside. -/
def OneLine (text : List Char) : Prop :=
  ∀ character ∈ text, character ≠ '\n' ∧ character ≠ '\r'

theorem oneLine_append
    {front back : List Char} (left : OneLine front) (right : OneLine back) :
    OneLine (front ++ back) :=
  List.forall_mem_append.2 ⟨left, right⟩

theorem oneLine_cons
    {head : Char} {tail : List Char}
    (left : head ≠ '\n' ∧ head ≠ '\r') (right : OneLine tail) :
    OneLine (head :: tail) :=
  List.forall_mem_cons.2 ⟨left, right⟩

theorem oneLine_writeCharacter (character : Char) :
    OneLine (writeCharacter character) := by
  have digit :
      ∀ value, (Nat.digitChar (value % 16)) ≠ '\n' ∧
        (Nat.digitChar (value % 16)) ≠ '\r' := by
    intro value
    have small : value % 16 < 16 := Nat.mod_lt _ (by decide)
    interval_cases value % 16 <;> decide
  unfold writeCharacter
  split_ifs with quote backslash newline carriage tab backspace feed control
  · simp [OneLine]
  · simp [OneLine]
  · simp [OneLine]
  · simp [OneLine]
  · simp [OneLine]
  · simp [OneLine]
  · simp [OneLine]
  · have high : character.toNat / 16 = character.toNat / 16 % 16 := by omega
    rw [high]
    simp [OneLine, digit]
  · simp [OneLine, newline, carriage]

theorem oneLine_writeText (text : String) : OneLine (writeText text) := by
  have body : OneLine (text.toList.flatMap writeCharacter) := by
    intro character member
    rcases List.mem_flatMap.1 member with ⟨one, _, written⟩
    exact oneLine_writeCharacter one character written
  exact
    oneLine_cons (by decide)
      (oneLine_append body (oneLine_cons (by decide) (by
        rintro character ⟨⟩)))

theorem oneLine_writeInt (value : Int) : OneLine (writeInt value) := by
  have digits : OneLine (Nat.toDigits 10 value.natAbs) := by
    intro character member
    have digit := isDigit_of_mem_toDigits member
    constructor
    · rintro rfl
      simp at digit
    · rintro rfl
      simp at digit
  unfold writeInt
  split_ifs
  · exact oneLine_cons (by decide) digits
  · exact digits

/-- A written document is one line. -/
theorem oneLine_write
    (floats : FloatText) {value : Json} (floatless : Floatless value) :
    OneLine (write floats value) := by
  have empty : OneLine [] := by rintro character ⟨⟩
  induction floatless with
  | null => simp [OneLine, write]
  | bool value => cases value <;> simp [OneLine, write]
  | int value => exact oneLine_writeInt value
  | float impossible => exact impossible.elim
  | text value => exact oneLine_writeText value
  | array each induction =>
      rename_i items
      have others :
          ∀ items : List Json,
            (∀ item ∈ items, OneLine (write floats item)) →
              OneLine (writeItems floats items) := by
        intro items each
        induction items with
        | nil => exact oneLine_cons (by decide) empty
        | cons item items next =>
            rw [List.forall_mem_cons] at each
            exact
              oneLine_cons (by decide)
                (oneLine_append each.1 (next each.2))
      cases items with
      | nil => exact oneLine_cons (by decide) (oneLine_cons (by decide) empty)
      | cons first items =>
          rw [List.forall_mem_cons] at induction
          exact
            oneLine_cons (by decide)
              (oneLine_append induction.1 (others items induction.2))
  | object sorted each induction =>
      rename_i members
      have member :
          ∀ key value, OneLine (write floats value) →
            OneLine (writeText key ++ ':' :: write floats value) :=
        fun key value line =>
          oneLine_append (oneLine_writeText key)
            (oneLine_cons (by decide) line)
      have others :
          ∀ members : Members,
            (∀ member ∈ members, OneLine (write floats member.2)) →
              OneLine (writeMembers floats members) := by
        intro members each
        induction members with
        | nil => exact oneLine_cons (by decide) empty
        | cons first members next =>
            rw [List.forall_mem_cons] at each
            exact
              oneLine_cons (by decide)
                (oneLine_append (member first.1 first.2 each.1)
                  (next each.2))
      cases members with
      | nil => exact oneLine_cons (by decide) (oneLine_cons (by decide) empty)
      | cons first members =>
          rw [List.forall_mem_cons] at induction
          exact
            oneLine_cons (by decide)
              (oneLine_append (member first.1 first.2 induction.1)
                (others members induction.2))

/-- The bytes of one line. -/
theorem unbroken_utf8 {text : List Char} (oneLine : OneLine text) :
    Unbroken (utf8 (String.ofList text)) := by
  intro byte member
  rw [utf8_ofList] at member
  rcases List.mem_flatMap.1 member with ⟨character, listed, written⟩
  have apart := oneLine character listed
  constructor
  · rintro rfl
    exact apart.1 (character_of_byte (by decide) (by decide) written)
  · rintro rfl
    exact apart.2 (character_of_byte (by decide) (by decide) written)

/-! ## Reading bytes -/

section

variable {floats : FloatText} {reader : PairReader}
variable {wide : List UInt8 → Option String}

/-- The bytes of a written object. -/
def objectBytes (floats : FloatText) (members : Members) : List UInt8 :=
  utf8 (String.ofList (write floats (.object members)))

theorem objectBytes_opens (floats : FloatText) (members : Members) :
    ∃ next rest, objectBytes floats members = 123 :: next :: rest ∧
      next ≠ 0 := by
  have brace : String.utf8EncodeChar '\x7b' = [123] := by decide
  rcases write_object_opens floats members with
    ⟨next, tail, split, rfl | rfl⟩
  · have quote : String.utf8EncodeChar '"' = [34] := by decide
    refine ⟨34, tail.flatMap String.utf8EncodeChar, ?_, by decide⟩
    rw [objectBytes, utf8_ofList, split, List.flatMap_cons,
      List.flatMap_cons, brace, quote]
    rfl
  · have closing : String.utf8EncodeChar '\x7d' = [125] := by decide
    refine ⟨125, tail.flatMap String.utf8EncodeChar, ?_, by decide⟩
    rw [objectBytes, utf8_ofList, split, List.flatMap_cons,
      List.flatMap_cons, brace, closing]
    rfl

theorem unbroken_objectBytes
    {members : Members} (floatless : Floatless (.object members)) :
    Unbroken (objectBytes floats members) :=
  unbroken_utf8 (oneLine_write floats floatless)

/-- The bytes of an object are read back. -/
theorem loadsBytes_object
    (agrees : reader.float = floats.float)
    (keeps : KeepsSorted reader.hook) {members : Members}
    (canonical : Canonical (.object members)) :
    loadsBytes wide reader (objectBytes floats members) =
      some (.object members) := by
  have decoded :
      decodeJson wide (objectBytes floats members) =
        some (String.ofList (write floats (.object members))) := by
    rcases objectBytes_opens floats members with ⟨next, rest, split, other⟩
    rw [split, decodeJson_brace wide (by simpa using other), ← split]
    exact decode_utf8 _
  rw [loadsBytes, decoded]
  exact loads_write agrees keeps canonical

/-- So are the bytes of its line. -/
theorem loadsBytes_line
    (agrees : reader.float = floats.float)
    (keeps : KeepsSorted reader.hook) {members : Members}
    (canonical : Canonical (.object members)) :
    loadsBytes wide reader (objectBytes floats members ++ [10]) =
      some (.object members) := by
  have feed : String.utf8EncodeChar '\n' = [10] := by decide
  have joined :
      objectBytes floats members ++ [10] =
        utf8 (String.ofList (write floats (.object members) ++ ['\n'])) := by
    rw [objectBytes, utf8_ofList, utf8_ofList, List.flatMap_append,
      List.flatMap_singleton, feed]
  have decoded :
      decodeJson wide (objectBytes floats members ++ [10]) =
        some (String.ofList (write floats (.object members) ++ ['\n'])) := by
    rcases objectBytes_opens floats members with ⟨next, rest, split, other⟩
    rw [joined, ← decode_utf8, ← joined, split, List.cons_append,
      decodeJson_brace wide (by simpa using other)]
  rw [loadsBytes, decoded, Option.bind_some]
  unfold loads
  rw [String.toList_ofList]
  cases canonical with
  | object sorted each =>
      rw [readValue_writeObject keeps sorted
        (fun member listed =>
          readsBack_of_canonical agrees keeps (each member listed)) ['\n']]
      · rfl
      · rw [List.length_append]
        omega

/-- Bytes of an object that break off, with what follows, are no document. -/
theorem loadsBytes_torn
    {following : List Char}
    (agrees : reader.float = floats.float)
    (strict : reader.constants = false)
    (keeps : KeepsSorted reader.hook)
    (resumed : Resumed reader following)
    {members : Members} (floatless : Floatless (.object members))
    {part rest : List UInt8}
    (split : objectBytes floats members = part ++ rest)
    (started : part ≠ []) (torn : rest ≠ [] ∨ following ≠ []) :
    loadsBytes wide reader (part ++ utf8 (String.ofList following)) =
      none := by
  have brace : String.utf8EncodeChar '\x7b' = [123] := by decide
  have next :
      ∀ byte ∈ (utf8 (String.ofList following)).head?, byte = 123 := by
    rw [utf8_ofList]
    rcases resumed.opens with rfl | ⟨letter, tail, rfl, _⟩
    · rintro byte ⟨⟩
    · rw [List.flatMap_cons, brace]
      rintro byte ⟨⟩
      rfl
  have narrow :
      decodeJson wide (part ++ utf8 (String.ofList following)) =
        decode (part ++ utf8 (String.ofList following)) := by
    rcases objectBytes_opens floats members with ⟨second, others, opens, other⟩
    rw [opens] at split
    cases part with
    | nil => exact absurd rfl started
    | cons head part =>
        rcases List.cons.inj split with ⟨rfl, written⟩
        apply decodeJson_brace
        cases part with
        | nil =>
            intro zero
            cases next 0 zero
        | cons head part =>
            rcases List.cons.inj written with ⟨rfl, _⟩
            intro zero
            exact other (Option.some.inj zero)
  rw [loadsBytes, narrow]
  rw [objectBytes, utf8_ofList] at split
  rcases split_encoded split with
    ⟨front, back, whole, rfl⟩ |
      ⟨front, character, begun, missing, begins, unfinished, encoded, rfl⟩
  · rw [← utf8_ofList front]
    have joined :
        utf8 (String.ofList front) ++ utf8 (String.ofList following) =
          utf8 (String.ofList (front ++ following)) := by
      rw [utf8_ofList, utf8_ofList, utf8_ofList, List.flatMap_append]
    rw [joined, decode_utf8]
    apply loads_torn agrees strict keeps resumed floatless whole
    · rintro rfl
      exact started rfl
    · refine torn.imp_left fun more finished => more ?_
      rw [whole, finished, List.append_nil] at split
      exact (List.self_eq_append_right.1 split)
  · rw [decode_torn begins unfinished encoded]
    · rfl
    · intro byte isHead
      rw [next byte isHead]
      decide

end

end KairosDeploy.Library.JsonBytes
