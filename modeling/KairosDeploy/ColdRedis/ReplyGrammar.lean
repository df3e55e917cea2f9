import KairosDeploy.Library.Fields
import KairosDeploy.RedisAof.RespFraming

/-!
# The replies of Redis

What `RESPReader.parse` accepts, as a parser of all the bytes that a
connection will ever deliver.  A reply is read from its own bytes only: the
parser does the same whatever follows them, and it reads back every value that
Redis can write.  That the code receives the bytes in pieces is left to the
reader itself.
-/

namespace KairosDeploy.ColdRedis.ReplyGrammar

open KairosDeploy.Library.Fields
open KairosDeploy.Library.Refusal
open KairosDeploy.RedisAof.RespReader
open KairosDeploy.RedisAof.RespFraming

/-- `ColdRedisError`, by its message. -/
structure ColdRedisError where
  message : String
deriving DecidableEq, Repr

/-- A reply as `parse` returns it. -/
inductive Reply
  | int (value : Int)
  | bytes (value : Bytes)
  | none
  | list (items : List Reply)

/-- `MAX_XRANGE_ENTRIES`. -/
def maxXrangeEntries : Nat := 120000

/-- The largest array that `parse` accepts. -/
def maxArrayCount : Nat := maxXrangeEntries * 8 + 16

/-! ## Numbers -/

/-- `byte.isspace()`. -/
def isSpace (byte : UInt8) : Bool :=
  byte = 32 || (9 ≤ byte && byte ≤ 13)

/-- A sign and what follows it. -/
def signOf : Bytes → Bool × Bytes
  | 45 :: rest => (true, rest)
  | 43 :: rest => (false, rest)
  | rest => (false, rest)

/-- The number of digits that `int` converts. -/
def maxDigits : Nat := 4300

/-- `int(line)`, absent where it raises `ValueError`. -/
def pyInt (line : Bytes) : Option Int :=
  let (negative, unsigned) := signOf (trim isSpace line)
  let pieces := unsigned.splitOn 95
  let digits := pieces.flatten
  if (pieces.all fun piece => !piece.isEmpty && piece.all isDigit) ∧
      digits.length ≤ maxDigits then
    let value : Int := digitsValue digits
    some (if negative then -value else value)
  else
    Option.none

/-! ## The parser -/

/-- A computation that takes bytes from a source and may raise. -/
abbrev Reading (State Value : Type) :=
  StateT State (Except ColdRedisError) Value

/-- `_take` and `_line` of a reader. -/
structure Source (State : Type) where
  take : Nat → Reading State Bytes
  line : Reading State Bytes

section Parser

variable {State : Type} (source : Source State) (maximumBytes : Nat)

/-- `int(self._line())` with the message for a line that is no integer. -/
def takeInt (malformed : String) : Reading State Int := do
  let line ← source.line
  match pyInt line with
  | Option.none => throw ⟨malformed⟩
  | some value => return value

/-- The rest of a bulk string. -/
def takeBulk : Reading State Reply := do
  let length ← takeInt source "Redis bulk response length is malformed"
  if length = -1 then
    return .none
  else if length < 0 ∨ length > maximumBytes then
    throw ⟨"Redis bulk response length is outside its bound"⟩
  else
    let value ← source.take (length.toNat + 2)
    if value.drop length.toNat ≠ [13, 10] then
      throw ⟨"Redis bulk response terminator is malformed"⟩
    else
      return .bytes (value.take length.toNat)

/-- The items of an array. -/
def takeItems (item : Reading State Reply) :
    Nat → Reading State (List Reply)
  | 0 => return []
  | count + 1 => do
      let first ← item
      let others ← takeItems item count
      return first :: others

/-- The rest of an array whose items are read with `item`. -/
def takeArray (item : Reading State Reply) : Reading State Reply := do
  let count ← takeInt source "Redis array count is malformed"
  if count = -1 then
    return .none
  else if count < 0 ∨ count > maxArrayCount then
    throw ⟨"Redis array count is outside its bound"⟩
  else
    let items ← takeItems item count.toNat
    return .list items

/-- `parse`, by the number of levels that may still be entered. -/
def parseReply : Nat → Reading State Reply
  | 0 => throw ⟨"Redis response nesting exceeded its bound"⟩
  | levels + 1 => do
      let marker ← source.take 1
      if marker = [45] then
        let _ ← source.line
        throw ⟨"Redis returned an error for a read-only probe"⟩
      else if marker = [58] then
        let value ← takeInt source "Redis integer response is malformed"
        return .int value
      else if marker = [43] then
        let line ← source.line
        return .bytes line
      else if marker = [36] then
        takeBulk source maximumBytes
      else if marker = [42] then
        takeArray source (parseReply levels)
      else
        throw ⟨"Redis response type is unsupported"⟩

end Parser

/-- A parser of all the bytes that are left. -/
abbrev Parsing (Value : Type) := Reading Bytes Value

/-- `_take` of all the bytes; `exhausted` is what reading past them raises. -/
def takeBytes (exhausted : ColdRedisError) (count : Nat) :
    Parsing Bytes := fun bytes =>
  if bytes.length < count then
    .error exhausted
  else
    .ok (bytes.take count, bytes.drop count)

/-- `_line` of all the bytes. -/
def takeLine (exhausted : ColdRedisError) : Parsing Bytes := fun bytes =>
  match splitLine bytes with
  | Option.none => .error exhausted
  | some (text, rest) => .ok (text, rest)

/-- All the bytes as a source. -/
abbrev whole (exhausted : ColdRedisError) : Source Bytes :=
  ⟨takeBytes exhausted, takeLine exhausted⟩

theorem whole_take (exhausted : ColdRedisError) :
    (whole exhausted).take = takeBytes exhausted :=
  rfl

theorem whole_line (exhausted : ColdRedisError) :
    (whole exhausted).line = takeLine exhausted :=
  rfl

/-- Levels of a reply: depth 0 to depth 8. -/
def maxLevels : Nat := 9

/-! ## A parser reads its own bytes only -/

/--
Whatever the first parser reads, the second reads from the same bytes,
whatever follows them.
-/
def Local {Value : Type} (parser other : Parsing Value) : Prop :=
  ∀ bytes value rest, parser bytes = .ok (value, rest) →
    ∃ consumed, bytes = consumed ++ rest ∧
      ∀ suffix, other (consumed ++ suffix) = .ok (value, suffix)

section Local

variable {Value Result : Type}

theorem bind_eq
    (first : Parsing Value) (later : Value → Parsing Result)
    (bytes : Bytes) :
    (first >>= later) bytes =
      first bytes >>= fun read => later read.1 read.2 :=
  rfl

@[simp]
theorem ok_bind
    {Input Output : Type} (value : Input)
    (later : Input → Except ColdRedisError Output) :
    (Except.ok value >>= later) = later value :=
  rfl

theorem local_pure (value : Value) : Local (pure value) (pure value) := by
  intro bytes result rest read
  cases read
  exact ⟨[], rfl, fun suffix => rfl⟩

theorem local_throw (error other : ColdRedisError) :
    Local (throw error : Parsing Value) (throw other) := by
  intro bytes result rest read
  cases read

theorem Local.bind
    {first again : Parsing Value} {later followed : Value → Parsing Result}
    (head : Local first again)
    (tail : ∀ value, Local (later value) (followed value)) :
    Local (first >>= later) (again >>= followed) := by
  intro bytes result rest read
  rw [bind_eq, bind_eq_ok_iff] at read
  rcases read with ⟨⟨value, middle⟩, headRead, tailRead⟩
  rcases head bytes value middle headRead with
    ⟨front, rfl, frontLocal⟩
  rcases tail value middle result rest tailRead with
    ⟨back, rfl, backLocal⟩
  refine ⟨front ++ back, by rw [List.append_assoc], fun suffix => ?_⟩
  rw [bind_eq, List.append_assoc, frontLocal]
  exact backLocal suffix

theorem local_ite
    {condition : Prop} [Decidable condition]
    {first again second otherwise : Parsing Value}
    (left : Local first again) (right : Local second otherwise) :
    Local (if condition then first else second)
      (if condition then again else otherwise) := by
  split
  · exact left
  · exact right

section Exhausted

variable (exhausted other : ColdRedisError)

theorem local_takeBytes (count : Nat) :
    Local (takeBytes exhausted count) (takeBytes other count) := by
  intro bytes value rest read
  unfold takeBytes at read
  split at read
  · cases read
  · rename_i enough
    cases read
    have length : (bytes.take count).length = count := by
      rw [List.length_take]
      omega
    refine ⟨bytes.take count, (List.take_append_drop _ _).symm, ?_⟩
    intro suffix
    have longer : ¬ (bytes.take count ++ suffix).length < count := by
      rw [List.length_append, length]
      omega
    rw [takeBytes, if_neg longer, List.take_left' length,
      List.drop_left' length]

/-- The first line end stays the first whatever follows the line. -/
theorem splitLine_suffix
    {bytes text rest : Bytes}
    (split : splitLine bytes = some (text, rest)) (suffix : Bytes) :
    splitLine (text ++ (lineEnd ++ suffix)) = some (text, suffix) := by
  induction bytes using splitLine.induct generalizing text with
  | case1 => cases split
  | case2 tail =>
      cases split
      rfl
  | case3 byte tail notLine induction =>
      rw [splitLine] at split
      · rcases Option.map_eq_some_iff.1 split with
          ⟨⟨front, back⟩, found, equal⟩
        cases equal
        have shape := splitLine_eq_some found
        rw [List.cons_append, splitLine, induction found]
        · rfl
        · intro later isReturn startsWith
          cases front with
          | nil => cases startsWith
          | cons head others =>
              rw [List.cons_append, List.cons.injEq] at startsWith
              rw [shape, List.cons_append, startsWith.1] at notLine
              exact notLine _ isReturn rfl
      · exact notLine

theorem local_takeLine :
    Local (takeLine exhausted) (takeLine other) := by
  intro bytes value rest read
  unfold takeLine at read
  split at read
  · cases read
  · rename_i text after split
    cases read
    refine
      ⟨value ++ lineEnd, ?_, fun suffix => ?_⟩
    · rw [List.append_assoc]
      exact splitLine_eq_some split
    · rw [takeLine, List.append_assoc, splitLine_suffix split suffix]

theorem local_takeInt (malformed : String) :
    Local (takeInt (whole exhausted) malformed)
      (takeInt (whole other) malformed) := by
  refine (local_takeLine exhausted other).bind fun line => ?_
  cases pyInt line with
  | none => exact local_throw _ _
  | some value => exact local_pure _

theorem local_takeBulk (maximumBytes : Nat) :
    Local (takeBulk (whole exhausted) maximumBytes)
      (takeBulk (whole other) maximumBytes) := by
  refine (local_takeInt exhausted other _).bind fun length => ?_
  refine local_ite (local_pure _) (local_ite (local_throw _ _) ?_)
  refine (local_takeBytes exhausted other _).bind fun value => ?_
  exact local_ite (local_throw _ _) (local_pure _)

theorem local_takeItems
    {item again : Parsing Reply} (each : Local item again) (count : Nat) :
    Local (takeItems item count) (takeItems again count) := by
  induction count with
  | zero => exact local_pure _
  | succ count induction =>
      refine each.bind fun first => ?_
      exact induction.bind fun others => local_pure _

theorem local_takeArray
    {item again : Parsing Reply} (each : Local item again) :
    Local (takeArray (whole exhausted) item)
      (takeArray (whole other) again) := by
  refine (local_takeInt exhausted other _).bind fun count => ?_
  refine local_ite (local_pure _) (local_ite (local_throw _ _) ?_)
  exact (local_takeItems each _).bind fun items => local_pure _

theorem local_parseReply (maximumBytes levels : Nat) :
    Local (parseReply (whole exhausted) maximumBytes levels)
      (parseReply (whole other) maximumBytes levels) := by
  induction levels with
  | zero => exact local_throw _ _
  | succ levels induction =>
      refine (local_takeBytes exhausted other 1).bind fun marker => ?_
      refine local_ite ?_ (local_ite ?_ (local_ite ?_ (local_ite ?_
        (local_ite ?_ (local_throw _ _)))))
      · exact
          (local_takeLine exhausted other).bind fun _ => local_throw _ _
      · exact
          (local_takeInt exhausted other _).bind fun _ => local_pure _
      · exact (local_takeLine exhausted other).bind fun _ => local_pure _
      · exact local_takeBulk exhausted other maximumBytes
      · exact local_takeArray exhausted other induction

end Exhausted

end Local

/-! ## The values that Redis writes -/

/-- A RESP2 value. -/
inductive RespValue
  | integer (value : Int)
  | simple (text : Bytes)
  | bulk (value : Bytes)
  | nullBulk
  | array (items : List RespValue)
  | nullArray

mutual

/-- The standard encoding of a value. -/
def encodeValue : RespValue → Bytes
  | .integer value =>
      58 :: ((if value < 0 then [45] else []) ++
        decimalBytes value.natAbs ++ lineEnd)
  | .simple text => 43 :: (text ++ lineEnd)
  | .bulk value =>
      36 :: (decimalBytes value.length ++ lineEnd ++ value ++ lineEnd)
  | .nullBulk => 36 :: ([45, 49] ++ lineEnd)
  | .array items =>
      42 :: (decimalBytes items.length ++ lineEnd ++ encodeValues items)
  | .nullArray => 42 :: ([45, 49] ++ lineEnd)

/-- The encodings of some values. -/
def encodeValues : List RespValue → Bytes
  | [] => []
  | value :: values => encodeValue value ++ encodeValues values

end

mutual

/-- A value as `parse` returns it. -/
def RespValue.reply : RespValue → Reply
  | .integer value => .int value
  | .simple text => .bytes text
  | .bulk value => .bytes value
  | .nullBulk => .none
  | .array items => .list (replies items)
  | .nullArray => .none

/-- Some values as `parse` returns them. -/
def replies : List RespValue → List Reply
  | [] => []
  | value :: values => value.reply :: replies values

end

mutual

/--
A value of RESP2: integers and the lengths of bulk strings have 64 bits,
simple strings hold no line end, and arrays are within the count bound.
-/
def WellFormed : RespValue → Prop
  | .integer value => value.natAbs < 2 ^ 64
  | .simple text => ¬ lineEnd <:+: text
  | .bulk value => value.length < 2 ^ 64
  | .nullBulk => True
  | .array items => items.length ≤ maxArrayCount ∧ AllWellFormed items
  | .nullArray => True

/-- Values of RESP2. -/
def AllWellFormed : List RespValue → Prop
  | [] => True
  | value :: values => WellFormed value ∧ AllWellFormed values

end

mutual

/-- How deep arrays are nested in a value. -/
def nesting : RespValue → Nat
  | .array items => nestings items + 1
  | .integer _ | .simple _ | .bulk _ | .nullBulk | .nullArray => 0

/-- How deep arrays are nested in some values. -/
def nestings : List RespValue → Nat
  | [] => 0
  | value :: values => max (nesting value) (nestings values)

end

/-! ## Every value is read back -/

theorem free_decimalBytes
    (number : Nat) (separates : UInt8 → Bool)
    (noDigit : ∀ byte, isDigit byte = true → separates byte = false) :
    Free separates (decimalBytes number) := fun byte member =>
  noDigit byte (isDigit_decimalBytes number byte member)

theorem signOf_digits
    {digits : Bytes} (all : ∀ byte ∈ digits, isDigit byte = true) :
    signOf digits = (false, digits) := by
  unfold signOf
  split
  · exact absurd (all 45 List.mem_cons_self) (by decide)
  · exact absurd (all 43 List.mem_cons_self) (by decide)
  · rfl

/-- The digits of a number are read back, with a minus or without. -/
theorem pyInt_signed
    {number : Nat} (negative : Bool) (small : number < 10 ^ 20) :
    pyInt ((if negative then [45] else []) ++ decimalBytes number) =
      some (if negative then -(number : Int) else number) := by
  have digits := isDigit_decimalBytes number
  rcases length_decimalBytes small with ⟨nonempty, short⟩
  have noSpace : Free isSpace (decimalBytes number) := by
    refine free_decimalBytes number isSpace fun byte digit => ?_
    simp only [isDigit, Bool.and_eq_true, decide_eq_true_eq,
      UInt8.le_iff_toNat_le] at digit
    have low : 48 ≤ byte.toNat := digit.1
    simp only [isSpace, Bool.or_eq_false_iff, Bool.and_eq_false_iff,
      decide_eq_false_iff_not, UInt8.le_iff_toNat_le]
    constructor
    · rintro rfl
      exact absurd low (by decide)
    · right
      exact not_le.2 (lt_of_lt_of_le (by decide) low)
  have trimmed :
      trim isSpace
          ((if negative then [45] else []) ++ decimalBytes number) =
        (if negative then [45] else []) ++ decimalBytes number := by
    refine trim_of_free ?_
    intro byte member
    rcases List.mem_append.1 member with sign | digit
    · cases negative with
      | false => cases sign
      | true =>
          rw [List.mem_singleton.1 sign]
          decide
    · exact noSpace byte digit
  have signed :
      signOf ((if negative then [45] else []) ++ decimalBytes number) =
        (negative, decimalBytes number) := by
    cases negative with
    | false => exact signOf_digits digits
    | true => rfl
  have whole :
      (decimalBytes number).splitOn 95 = [decimalBytes number] := by
    apply List.splitOn_eq_singleton
    intro member
    exact absurd (digits 95 member) (by decide)
  have all : (decimalBytes number).all isDigit = true :=
    List.all_eq_true.2 digits
  have fits : (decimalBytes number).length ≤ maxDigits :=
    le_trans short (by decide)
  simp only [pyInt, trimmed, signed, whole]
  rw [if_pos (by simp [nonempty, all, fits])]
  simp [digitsValue_decimalBytes]

theorem splitLine_simple
    {text : Bytes} (rest : Bytes) (simple : ¬ lineEnd <:+: text) :
    splitLine (text ++ (lineEnd ++ rest)) = some (text, rest) := by
  induction text with
  | nil => rfl
  | cons byte tail induction =>
      have inner : ¬ lineEnd <:+: tail := fun inside =>
        simple (inside.trans (List.suffix_cons _ _).isInfix)
      rw [List.cons_append, splitLine, induction inner]
      · rfl
      · intro later isReturn startsWith
        subst isReturn
        cases tail with
        | nil => cases startsWith
        | cons head others =>
            rw [List.cons_append, List.cons.injEq] at startsWith
            rw [startsWith.1] at simple
            exact simple (List.prefix_append [13, 10] others).isInfix

section Encoded

variable (exhausted : ColdRedisError) {maximumBytes : Nat}

theorem takeInt_signed
    (malformed : String) {number : Nat} (negative : Bool) (rest : Bytes)
    (small : number < 10 ^ 20) :
    takeInt (whole exhausted) malformed
        ((if negative then [45] else []) ++ decimalBytes number ++
          (lineEnd ++ rest)) =
      .ok (if negative then -(number : Int) else number, rest) := by
  have single :
      ¬ lineEnd <:+:
        (if negative then [45] else []) ++ decimalBytes number := by
    intro inside
    have member : (13 : UInt8) ∈
        (if negative then [45] else []) ++ decimalBytes number :=
      inside.subset (by simp [lineEnd])
    rcases List.mem_append.1 member with sign | digit
    · cases negative <;> simp at sign
    · exact
        absurd (isDigit_decimalBytes number 13 digit) (by decide)
  have lineRead :
      takeLine exhausted
          ((if negative then [45] else []) ++ decimalBytes number ++
            (lineEnd ++ rest)) =
        .ok ((if negative then [45] else []) ++ decimalBytes number,
          rest) := by
    rw [takeLine, splitLine_simple rest single]
  rw [takeInt, bind_eq, whole_line, lineRead]
  change (match pyInt _ with
    | Option.none => throw ⟨malformed⟩
    | some value => return value : Parsing Int) rest = _
  rw [pyInt_signed negative small]
  rfl

theorem takeInt_decimal
    (malformed : String) {number : Nat} (rest : Bytes)
    (small : number < 10 ^ 20) :
    takeInt (whole exhausted) malformed
        (decimalBytes number ++ lineEnd ++ rest) =
      .ok ((number : Int), rest) := by
  rw [List.append_assoc]
  exact takeInt_signed exhausted malformed false rest small

theorem takeInt_minusOne (malformed : String) (rest : Bytes) :
    takeInt (whole exhausted) malformed ([45, 49] ++ lineEnd ++ rest) =
      .ok (-1, rest) := by
  have digits : decimalBytes 1 = [49] := by decide
  have small : 1 < 10 ^ 20 := by decide
  have read := takeInt_signed exhausted malformed true rest small
  rw [digits] at read
  exact read

theorem takeBytes_exact
    (front rest : Bytes) :
    takeBytes exhausted front.length (front ++ rest) = .ok (front, rest) := by
  have enough : ¬ (front ++ rest).length < front.length := by
    rw [List.length_append]
    omega
  rw [takeBytes, if_neg enough, List.take_left, List.drop_left]

theorem takeBulk_encode
    {value : Bytes} (rest : Bytes) (fits : value.length ≤ maximumBytes)
    (small : value.length < 10 ^ 20) :
    takeBulk (whole exhausted) maximumBytes
        (decimalBytes value.length ++ lineEnd ++
          (value ++ lineEnd ++ rest)) =
      .ok (.bytes value, rest) := by
  have positive : ¬ ((value.length : Int) = -1) := by omega
  have inside :
      ¬ ((value.length : Int) < 0 ∨
        (value.length : Int) > maximumBytes) := by
    omega
  have ended : ¬ ((value ++ lineEnd).drop value.length ≠ [13, 10]) := by
    rw [List.drop_left, not_not]
    rfl
  have taken :
      takeBytes exhausted (value.length + 2) (value ++ lineEnd ++ rest) =
        .ok (value ++ lineEnd, rest) := by
    have exactly := takeBytes_exact exhausted (value ++ lineEnd) rest
    rw [List.length_append] at exactly
    exact exactly
  rw [takeBulk, bind_eq, takeInt_decimal _ _ _ small, ok_bind,
    if_neg positive, if_neg inside, bind_eq, whole_take,
    Int.toNat_natCast, taken,
    ok_bind, if_neg ended, List.take_left]
  rfl

/-- The byte that tells the type of a reply. -/
theorem marker_bind
    {Value : Type} (later : Bytes → Parsing Value) (byte : UInt8)
    (bytes : Bytes) :
    (takeBytes exhausted 1 >>= later) (byte :: bytes) =
      later [byte] bytes := by
  have first := takeBytes_exact exhausted [byte] bytes
  rw [List.singleton_append, List.length_singleton] at first
  rw [bind_eq, first, ok_bind]

theorem parseReply_int (levels : Nat) (bytes : Bytes) :
    parseReply (whole exhausted) maximumBytes (levels + 1) (58 :: bytes) =
      takeInt (whole exhausted) "Redis integer response is malformed"
        bytes >>= fun read => .ok (.int read.1, read.2) := by
  rw [parseReply, whole_take, marker_bind]
  rfl

theorem parseReply_simple (levels : Nat) (bytes : Bytes) :
    parseReply (whole exhausted) maximumBytes (levels + 1) (43 :: bytes) =
      takeLine exhausted bytes >>= fun read =>
        .ok (.bytes read.1, read.2) := by
  rw [parseReply, whole_take, marker_bind]
  rfl

theorem parseReply_bulk (levels : Nat) (bytes : Bytes) :
    parseReply (whole exhausted) maximumBytes (levels + 1) (36 :: bytes) =
      takeBulk (whole exhausted) maximumBytes bytes := by
  rw [parseReply, whole_take, marker_bind]
  rfl

theorem parseReply_array (levels : Nat) (bytes : Bytes) :
    parseReply (whole exhausted) maximumBytes (levels + 1) (42 :: bytes) =
      takeArray (whole exhausted)
        (parseReply (whole exhausted) maximumBytes levels) bytes := by
  rw [parseReply, whole_take, marker_bind]
  rfl

/-- An array of a legal count reads that many items. -/
theorem takeArray_decimal
    (item : Parsing Reply) {count : Nat} (bytes : Bytes)
    (within : count ≤ maxArrayCount) :
    takeArray (whole exhausted) item
        (decimalBytes count ++ lineEnd ++ bytes) =
      takeItems item count bytes >>= fun read =>
        .ok (.list read.1, read.2) := by
  have small : count < 10 ^ 20 := lt_of_le_of_lt within (by decide)
  have positive : ¬ ((count : Int) = -1) := by omega
  have inside : ¬ ((count : Int) < 0 ∨ (count : Int) > maxArrayCount) := by
    omega
  rw [takeArray, bind_eq, takeInt_decimal _ _ _ small, ok_bind,
    if_neg positive, if_neg inside, bind_eq, Int.toNat_natCast]
  rfl

mutual

/-- Every value that fits is read back, and what follows it is left. -/
theorem parseReply_encode
    (value : RespValue) {levels : Nat} (rest : Bytes)
    (wellFormed : WellFormed value) (shallow : nesting value < levels)
    (fits : (encodeValue value).length ≤ maximumBytes) :
    parseReply (whole exhausted) maximumBytes levels
        (encodeValue value ++ rest) =
      .ok (value.reply, rest) := by
  cases levels with
  | zero => omega
  | succ levels =>
      cases value with
      | integer value =>
          have short : value.natAbs < 10 ^ 20 := by
            rw [WellFormed] at wellFormed
            omega
          have read :=
            takeInt_signed exhausted "Redis integer response is malformed"
              (decide (value < 0)) rest short
          have signed :
              (if decide (value < 0) = true then -(value.natAbs : Int)
                else value.natAbs) = value := by
            split <;> rename_i sign <;> simp at sign <;> omega
          rw [signed] at read
          simp only [decide_eq_true_eq] at read
          rw [encodeValue, List.cons_append, parseReply_int,
            List.append_assoc, read, ok_bind, RespValue.reply]
      | simple text =>
          rw [WellFormed] at wellFormed
          rw [encodeValue, List.cons_append, parseReply_simple, takeLine,
            List.append_assoc, splitLine_simple rest wellFormed, ok_bind,
            RespValue.reply]
      | bulk value =>
          have inside : value.length ≤ maximumBytes := by
            simp only [encodeValue, List.length_cons,
              List.length_append] at fits
            omega
          have small : value.length < 10 ^ 20 := by
            rw [WellFormed] at wellFormed
            omega
          have read := takeBulk_encode exhausted rest inside small
          have shape :
              encodeValue (.bulk value) ++ rest =
                36 :: (decimalBytes value.length ++ lineEnd ++
                  (value ++ lineEnd ++ rest)) := by
            simp [encodeValue]
          rw [shape, parseReply_bulk, read, RespValue.reply]
      | nullBulk =>
          rw [encodeValue, List.cons_append, parseReply_bulk, takeBulk,
            bind_eq, takeInt_minusOne, ok_bind, if_pos rfl,
            RespValue.reply]
          rfl
      | array items =>
          rw [WellFormed] at wellFormed
          rw [nesting] at shallow
          simp only [encodeValue, List.length_cons,
            List.length_append] at fits
          have read :=
            takeItems_encode items rest wellFormed.2
              (Nat.lt_of_succ_lt_succ shallow) (by omega)
          rw [encodeValue, List.cons_append, parseReply_array,
            List.append_assoc, takeArray_decimal _ _ _ wellFormed.1, read,
            ok_bind, RespValue.reply]
      | nullArray =>
          rw [encodeValue, List.cons_append, parseReply_array, takeArray,
            bind_eq, takeInt_minusOne, ok_bind, if_pos rfl,
            RespValue.reply]
          rfl

theorem takeItems_encode
    (values : List RespValue) {levels : Nat} (rest : Bytes)
    (wellFormed : AllWellFormed values) (shallow : nestings values < levels)
    (fits : (encodeValues values).length ≤ maximumBytes) :
    takeItems (parseReply (whole exhausted) maximumBytes levels)
        values.length (encodeValues values ++ rest) =
      .ok (replies values, rest) := by
  cases values with
  | nil => rfl
  | cons value values =>
      rw [AllWellFormed] at wellFormed
      rw [nestings, max_lt_iff] at shallow
      rw [encodeValues, List.length_append] at fits
      have head :=
        parseReply_encode value (encodeValues values ++ rest) wellFormed.1
          shallow.1 (by omega)
      have tail :=
        takeItems_encode values rest wellFormed.2 shallow.2 (by omega)
      rw [encodeValues, List.append_assoc, List.length_cons, takeItems,
        bind_eq, head, ok_bind, bind_eq, tail, ok_bind]
      rfl

end

end Encoded

end KairosDeploy.ColdRedis.ReplyGrammar
