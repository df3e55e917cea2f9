import KairosDeploy.RedisAof.RespReader

/-!
# The framing of an append-only file

A command is written as an array header followed by length-prefixed binary
arguments.  The arguments may contain the bytes that delimit a line, so that
only the lengths tell where one ends.  The reader inverts this encoding on
whole files, and it refuses every file that was cut inside a command: what it
reads from the beginning of a file it also reads when the file goes on, so a
cut command would have been read as something it is not.

`FileReader` is the reader as the code keeps it, an offset into the data.
Every call on it does what the same call does on the bytes that are left.
-/

namespace KairosDeploy.RedisAof.RespFraming

open KairosDeploy.Library.Refusal
open KairosDeploy.RedisAof.RespReader

/-! ## The standard encoding -/

/-- The decimal digits of a number. -/
def decimalBytes (number : Nat) : Bytes :=
  (Nat.toDigits 10 number).map fun character =>
    UInt8.ofNat character.toNat

/-- `\r\n`. -/
def lineEnd : Bytes := [13, 10]

/-- One argument: `$`, its length, its bytes. -/
def encodeArgument (value : Bytes) : Bytes :=
  36 :: (decimalBytes value.length ++ lineEnd ++ value ++ lineEnd)

/-- One command: `*`, the number of its arguments, the arguments. -/
def encodeCommand (command : List Bytes) : Bytes :=
  42 :: (decimalBytes command.length ++ lineEnd ++
    command.flatMap encodeArgument)

/-- A command within the limits of the reader. -/
structure Command where
  arguments : List Bytes
  nonempty : 1 ≤ arguments.length
  bounded : arguments.length ≤ maxArrayLength
  tokens : ∀ value ∈ arguments, value.length ≤ maxTokenBytes

/-- The bytes of a file. -/
def encode (commands : List Command) : Bytes :=
  commands.flatMap fun command => encodeCommand command.arguments

/-! ## Numbers -/

theorem toNat_digit
    {character : Char} (digit : character.isDigit = true) :
    (UInt8.ofNat character.toNat).toNat = character.toNat ∧
      48 ≤ character.toNat ∧ character.toNat ≤ 57 := by
  have bounds : 48 ≤ character.toNat ∧ character.toNat ≤ 57 := by
    simpa [Char.isDigit, UInt32.le_iff_toNat_le] using digit
  refine ⟨?_, bounds⟩
  rw [UInt8.toNat_ofNat']
  exact Nat.mod_eq_of_lt (by omega)

theorem isDigit_decimalBytes (number : Nat) :
    ∀ byte ∈ decimalBytes number, isDigit byte = true := by
  intro byte member
  rcases List.mem_map.1 member with ⟨character, inside, rfl⟩
  have digit : character.isDigit = true :=
    Nat.isDigit_of_mem_toDigits (by decide) (by decide) inside
  rcases toNat_digit digit with ⟨value, low, high⟩
  simp only [isDigit, Bool.and_eq_true, decide_eq_true_eq,
    UInt8.le_iff_toNat_le, value]
  exact ⟨low, high⟩

theorem digitsValue_decimalBytes (number : Nat) :
    digitsValue (decimalBytes number) = number := by
  have folded :
      digitsValue (decimalBytes number) =
        Nat.ofDigitChars 10 (Nat.toDigits 10 number) 0 := by
    rw [Nat.ofDigitChars_eq_foldl, digitsValue, decimalBytes,
      List.foldl_map]
    apply List.foldl_ext
    intro value character member
    have digit : character.isDigit = true :=
      Nat.isDigit_of_mem_toDigits (by decide) (by decide) member
    rw [(toNat_digit digit).1]
    rfl
  rw [folded, Nat.ofDigitChars_ten_toDigits]

theorem length_decimalBytes
    {number : Nat} (small : number < 10 ^ 20) :
    decimalBytes number ≠ [] ∧ (decimalBytes number).length ≤ 20 := by
  constructor
  · intro empty
    exact Nat.toDigits_ne_nil (List.map_eq_nil_iff.1 empty)
  · rw [decimalBytes, List.length_map]
    exact (Nat.length_toDigits_le_iff (by decide) (by decide)).2 small

theorem unsigned_decimalBytes
    {number maximum : Nat} (code : String)
    (within : number ≤ maximum) (small : number < 10 ^ 20) :
    unsigned (decimalBytes number) maximum code = .ok number := by
  rcases length_decimalBytes small with ⟨nonempty, short⟩
  have digits : (decimalBytes number).all isDigit = true :=
    List.all_eq_true.2 (isDigit_decimalBytes number)
  simp only [unsigned, bind_eq_ok_iff, refuseIf_eq_ok_iff, exists_const,
    pure_eq_ok_iff, digitsValue_decimalBytes]
  refine ⟨?_, not_lt.2 within, trivial⟩
  rintro (empty | long | notDigits)
  · exact nonempty empty
  · omega
  · exact notDigits digits

/-! ## Reading an encoding -/

theorem splitLine_append
    {text rest : Bytes} (single : ∀ byte ∈ text, byte ≠ 13) :
    splitLine (text ++ lineEnd ++ rest) = some (text, rest) := by
  induction text with
  | nil => rfl
  | cons byte tail induction =>
      rw [List.forall_mem_cons] at single
      have found := induction single.2
      have notReturn : byte ≠ 13 := single.1
      rw [List.cons_append, List.cons_append, splitLine, found]
      · rfl
      · intro after isReturn
        exact absurd isReturn notReturn

theorem header_encode
    (marker : UInt8) {maximum number : Nat} (rest : Bytes)
    (within : number ≤ maximum) (small : number < 10 ^ 20) :
    header marker maximum
        (marker :: (decimalBytes number ++ lineEnd ++ rest)) =
      .ok (number, rest) := by
  have single : ∀ byte ∈ decimalBytes number, byte ≠ 13 := by
    rintro byte member rfl
    exact absurd (isDigit_decimalBytes number _ member) (by decide)
  have short : ¬ (decimalBytes number).length > maxTokenBytes :=
    not_lt.2 (le_trans (length_decimalBytes small).2 (by decide))
  have lineRead :
      line (decimalBytes number ++ lineEnd ++ rest) =
        .ok (decimalBytes number, rest) := by
    rw [line, splitLine_append single]
    simp only [bind_eq_ok_iff, refuseIf_eq_ok_iff, exists_const,
      pure_eq_ok_iff, and_true]
    exact short
  have numberRead :=
    unsigned_decimalBytes "AOF_LIMIT_EXCEEDED" within small
  simp only [header, bind_eq_ok_iff, refuseIf_eq_ok_iff, exists_const,
    pure_eq_ok_iff, lineRead, Except.ok.injEq, Prod.exists,
    Prod.mk.injEq, ne_eq, not_true_eq_false, not_false_eq_true, true_and]
  exact ⟨_, _, ⟨rfl, rfl⟩, _, numberRead, rfl, rfl⟩

theorem argument_encode
    {value : Bytes} (rest : Bytes) (token : value.length ≤ maxTokenBytes) :
    argument (encodeArgument value ++ rest) = .ok (value, rest) := by
  have small : value.length < 10 ^ 20 := by
    rw [maxTokenBytes] at token
    omega
  have shape :
      encodeArgument value ++ rest =
        36 :: (decimalBytes value.length ++ lineEnd ++
          (value ++ (lineEnd ++ rest))) := by
    simp [encodeArgument]
  have headerRead :=
    header_encode 36 (value ++ (lineEnd ++ rest)) token small
  have enough :
      ¬ (value.length + 2 > (value ++ (lineEnd ++ rest)).length ∨
        ((value ++ (lineEnd ++ rest)).drop value.length).take 2 ≠
          [13, 10]) := by
    rw [List.drop_left]
    rintro (long | notEnd)
    · simp only [List.length_append, lineEnd, List.length_cons,
        List.length_nil] at long
      omega
    · exact notEnd rfl
  rw [shape]
  simp only [argument, bind_eq_ok_iff, refuseIf_eq_ok_iff, exists_const,
    pure_eq_ok_iff, headerRead, Except.ok.injEq, Prod.exists,
    Prod.mk.injEq]
  refine ⟨_, _, ⟨rfl, rfl⟩, enough, List.take_left, ?_⟩
  rw [← List.drop_drop, List.drop_left]
  rfl

theorem arguments_encode
    {values : List Bytes} (rest : Bytes)
    (tokens : ∀ value ∈ values, value.length ≤ maxTokenBytes) :
    arguments values.length (values.flatMap encodeArgument ++ rest) =
      .ok (values, rest) := by
  induction values with
  | nil => rfl
  | cons value values induction =>
      rw [List.forall_mem_cons] at tokens
      have headRead :=
        argument_encode (values.flatMap encodeArgument ++ rest) tokens.1
      rw [List.flatMap_cons, List.append_assoc, List.length_cons]
      simp only [arguments, headRead, bind_eq_ok_iff, pure_eq_ok_iff,
        Except.ok.injEq, Prod.exists, Prod.mk.injEq]
      exact
        ⟨value, _, ⟨rfl, rfl⟩, values, rest, induction tokens.2, rfl, rfl⟩

theorem nextCommand_encode
    {maxCommands before : Nat} (command : Command) (rest : Bytes)
    (room : before + 1 ≤ maxCommands) :
    nextCommand maxCommands
        ⟨encodeCommand command.arguments ++ rest, before⟩ =
      .ok (some (command.arguments, ⟨rest, before + 1⟩)) := by
  have small : command.arguments.length < 10 ^ 20 := by
    have bounded := command.bounded
    rw [maxArrayLength] at bounded
    omega
  have shape :
      encodeCommand command.arguments ++ rest =
        42 :: (decimalBytes command.arguments.length ++ lineEnd ++
          (command.arguments.flatMap encodeArgument ++ rest)) := by
    simp [encodeCommand]
  have headerRead :=
    header_encode 42
      (command.arguments.flatMap encodeArgument ++ rest) command.bounded
      small
  have argumentsRead := arguments_encode rest command.tokens
  have nonempty := command.nonempty
  have bounded := command.bounded
  rw [shape]
  simp only [nextCommand, headerRead, bind_eq_ok_iff, refuseIf_eq_ok_iff,
    exists_const, pure_eq_ok_iff, Except.ok.injEq, Prod.exists,
    Prod.mk.injEq]
  exact
    ⟨_, _, ⟨rfl, rfl⟩, by omega, _, _, argumentsRead, by omega, rfl⟩

/-! ## What is read stays read when the file goes on -/

theorem splitLine_extends
    {front text rest : Bytes} (back : Bytes)
    (read : splitLine front = some (text, rest)) :
    splitLine (front ++ back) = some (text, rest ++ back) := by
  induction front using splitLine.induct generalizing text with
  | case1 => cases read
  | case2 tail =>
      cases read
      rfl
  | case3 byte tail notLine induction =>
      rw [splitLine] at read
      · rcases Option.map_eq_some_iff.1 read with
          ⟨⟨start, after⟩, found, equal⟩
        cases equal
        rw [List.cons_append, splitLine, induction found]
        · rfl
        · -- the line end that would now be found needs a byte of the tail
          intro later isReturn startsWith
          cases tail with
          | nil => cases found
          | cons head others =>
              rw [List.cons_append, List.cons.injEq] at startsWith
              exact notLine others isReturn (by rw [startsWith.1])
      · exact notLine

theorem line_extends
    {front text rest : Bytes} (back : Bytes)
    (read : line front = .ok (text, rest)) :
    line (front ++ back) = .ok (text, rest ++ back) := by
  unfold line at read ⊢
  split at read
  · cases read
  · rename_i found
    simp only [bind_eq_ok_iff, refuseIf_eq_ok_iff, exists_const,
      pure_eq_ok_iff, Prod.mk.injEq] at read
    rcases read with ⟨short, rfl, rfl⟩
    rw [splitLine_extends back found]
    simp only [bind_eq_ok_iff, refuseIf_eq_ok_iff, exists_const,
      pure_eq_ok_iff, and_true]
    exact short

theorem header_extends
    {marker : UInt8} {maximum number : Nat} {front rest : Bytes}
    (back : Bytes)
    (read : header marker maximum front = .ok (number, rest)) :
    header marker maximum (front ++ back) =
      .ok (number, rest ++ back) := by
  cases front with
  | nil => cases read
  | cons first tail =>
      simp only [List.cons_append, header, bind_eq_ok_iff,
        refuseIf_eq_ok_iff, exists_const, pure_eq_ok_iff, Prod.mk.injEq,
        Prod.exists] at read ⊢
      rcases read with ⟨marked, text, after, lineRead, _, numberRead, rfl, rfl⟩
      exact
        ⟨marked, text, after ++ back, line_extends back lineRead, _,
          numberRead, rfl, rfl⟩

theorem argument_extends
    {front value rest : Bytes} (back : Bytes)
    (read : argument front = .ok (value, rest)) :
    argument (front ++ back) = .ok (value, rest ++ back) := by
  simp only [argument, bind_eq_ok_iff, refuseIf_eq_ok_iff, exists_const,
    pure_eq_ok_iff, Prod.mk.injEq, Prod.exists, not_or, not_lt,
    not_not] at read ⊢
  rcases read with ⟨length, body, headerRead, ⟨long, ended⟩, rfl, rfl⟩
  have within : length ≤ body.length := by omega
  refine
    ⟨length, body ++ back, header_extends back headerRead, ⟨?_, ?_⟩, ?_, ?_⟩
  · rw [List.length_append]
    omega
  · rw [List.drop_append_of_le_length within,
      List.take_append_of_le_length, ended]
    rw [List.length_drop]
    omega
  · exact List.take_append_of_le_length within
  · exact List.drop_append_of_le_length long

theorem arguments_extends
    {count : Nat} {front rest : Bytes} {values : List Bytes}
    (back : Bytes)
    (read : arguments count front = .ok (values, rest)) :
    arguments count (front ++ back) = .ok (values, rest ++ back) := by
  induction count generalizing front values with
  | zero =>
      cases read
      rfl
  | succ count induction =>
      simp only [arguments, bind_eq_ok_iff, pure_eq_ok_iff, Prod.mk.injEq,
        Prod.exists] at read ⊢
      rcases read with ⟨first, after, head, others, _, tail, rfl, rfl⟩
      exact
        ⟨first, after ++ back, argument_extends back head, others, _,
          induction tail, rfl, rfl⟩

theorem nextCommand_extends
    {maxCommands : Nat} {front : Bytes} {before : Nat}
    {command : List Bytes} {after : Reader} (back : Bytes)
    (read :
      nextCommand maxCommands ⟨front, before⟩ =
        .ok (some (command, after))) :
    nextCommand maxCommands ⟨front ++ back, before⟩ =
      .ok (some
        (command, ⟨after.remaining ++ back, after.commands⟩)) := by
  cases front with
  | nil => cases read
  | cons first tail =>
      simp only [nextCommand, List.cons_append, bind_eq_ok_iff,
        refuseIf_eq_ok_iff, exists_const, pure_eq_ok_iff,
        Option.some.injEq, Prod.mk.injEq, Prod.exists] at read ⊢
      rcases read with
        ⟨count, body, headerRead, counted, values, rest, argumentsRead,
          room, rfl, rfl⟩
      exact
        ⟨count, body ++ back, header_extends back headerRead, counted,
          values, rest ++ back, arguments_extends back argumentsRead,
          room, rfl, rfl⟩

/-- A file cut inside a command is refused there. -/
theorem nextCommand_truncated
    {maxCommands before : Nat} {command : Command} {front back : Bytes}
    (room : before + 1 ≤ maxCommands)
    (cut : encodeCommand command.arguments = front ++ back)
    (some_read : front ≠ []) (some_missing : back ≠ []) :
    ∃ error,
      nextCommand maxCommands ⟨front, before⟩ = .error error := by
  cases read : nextCommand maxCommands ⟨front, before⟩ with
  | error error => exact ⟨error, rfl⟩
  | ok outcome =>
      cases outcome with
      | none =>
          cases front with
          | nil => exact absurd rfl some_read
          | cons first tail =>
              simp only [nextCommand, bind_eq_ok_iff,
                refuseIf_eq_ok_iff, exists_const, pure_eq_ok_iff,
                reduceCtorEq, and_false] at read
      | some result =>
          have whole := nextCommand_encode command [] room
          have longer := nextCommand_extends back read
          rw [List.append_nil, cut, longer] at whole
          simp only [Except.ok.injEq, Option.some.injEq, Prod.mk.injEq,
            Reader.mk.injEq, List.append_eq_nil_iff] at whole
          exact absurd whole.2.1.2 some_missing

/-! ## The reader and its offset -/

/-- `_RespReader`. -/
structure FileReader where
  data : Bytes
  offset : Nat
  commands : Nat
  maxCommands : Nat
deriving DecidableEq, Repr

/-- A method of the reader: it may raise, and what it changed stays. -/
abbrev Method (Value : Type) := EStateM AofError FileReader Value

/-- `if condition: _fail(code)`. -/
def failIf (condition : Prop) [Decidable condition] (code : String) :
    Method Unit :=
  if condition then throw ⟨code⟩ else pure ()

namespace FileReader

/-- `_RespReader.__init__`. -/
def init (maxCommands : Nat) (data : Bytes) : FileReader :=
  ⟨data, 0, 0, maxCommands⟩

/-- `self.data[first:last]`. -/
def slice (reader : FileReader) (first last : Nat) : Bytes :=
  (reader.data.drop first).take (last - first)

/-- The bytes from the offset on. -/
def remaining (reader : FileReader) : Bytes :=
  reader.data.drop reader.offset

/-- `self.data.find(b"\r\n", self.offset)`. -/
def find (reader : FileReader) : Option Nat :=
  (splitLine reader.remaining).map fun split =>
    reader.offset + split.1.length

/-- `_RespReader._line`. -/
def line : Method Bytes := do
  let reader ← get
  match reader.find with
  | none => throw ⟨"AOF_MALFORMED_OR_TRUNCATED"⟩
  | some stop =>
      set { reader with offset := stop + 2 }
      let text := reader.slice reader.offset stop
      failIf (text.length > maxTokenBytes) "AOF_LIMIT_EXCEEDED"
      return text

/-- The test of the byte at the offset, and the step past it. -/
def marker (expected : UInt8) : Method Unit := do
  let reader ← get
  failIf (reader.slice reader.offset (reader.offset + 1) ≠ [expected])
    "AOF_MALFORMED_OR_TRUNCATED"
  set { reader with offset := reader.offset + 1 }

/-- A line that holds a number. -/
def number (maximum : Nat) : Method Nat := do
  let text ← line
  match unsigned text maximum "AOF_LIMIT_EXCEEDED" with
  | .error error => throw error
  | .ok value => return value

/-- One turn of the loop of `next_command`. -/
def argument : Method Bytes := do
  marker 36
  let length ← number maxTokenBytes
  failIf (length > maxTokenBytes) "AOF_LIMIT_EXCEEDED"
  let reader ← get
  let stop := reader.offset + length
  failIf
    (stop + 2 > reader.data.length ∨
      reader.slice stop (stop + 2) ≠ [13, 10])
    "AOF_MALFORMED_OR_TRUNCATED"
  set { reader with offset := stop + 2 }
  return reader.slice reader.offset stop

/-- The loop of `next_command`. -/
def arguments : Nat → Method (List Bytes)
  | 0 => return []
  | count + 1 => do
      let first ← argument
      let others ← arguments count
      return first :: others

/-- `_RespReader.next_command`. -/
def nextCommand : Method (Option (List Bytes)) := do
  let reader ← get
  if reader.offset = reader.data.length then
    return none
  else
    marker 42
    let count ← number maxArrayLength
    failIf (count < 1 ∨ count > maxArrayLength) "AOF_LIMIT_EXCEEDED"
    let command ← arguments count
    modify fun reader => { reader with commands := reader.commands + 1 }
    let reader ← get
    failIf (reader.commands > reader.maxCommands) "AOF_LIMIT_EXCEEDED"
    return some command

end FileReader

/-! ## Both readers do the same -/

/-- What reading changes in a reader. -/
structure Advances (before after : FileReader) : Prop where
  data : after.data = before.data
  commands : after.commands = before.commands
  maxCommands : after.maxCommands = before.maxCommands
  forward : before.offset ≤ after.offset
  inside : after.offset ≤ before.data.length

theorem Advances.refl
    {reader : FileReader} (inside : reader.offset ≤ reader.data.length) :
    Advances reader reader :=
  ⟨rfl, rfl, rfl, le_rfl, inside⟩

theorem Advances.trans
    {first second third : FileReader}
    (left : Advances first second) (right : Advances second third) :
    Advances first third := by
  refine
    ⟨right.data.trans left.data, right.commands.trans left.commands,
      right.maxCommands.trans left.maxCommands,
      le_trans left.forward right.forward, ?_⟩
  rw [← left.data]
  exact right.inside

theorem Advances.stays_inside
    {before after : FileReader} (moved : Advances before after) :
    after.offset ≤ after.data.length := by
  rw [moved.data]
  exact moved.inside

/-- The step to a later offset. -/
theorem Advances.moveTo
    {reader : FileReader} {offset : Nat}
    (forward : reader.offset ≤ offset)
    (inside : offset ≤ reader.data.length) :
    Advances reader { reader with offset := offset } :=
  ⟨rfl, rfl, rfl, forward, inside⟩

/--
A method does on the whole data what a function of the remaining bytes does on
them: the same value with the same bytes left, or the same error.
-/
inductive Follows {Value : Type} (reader : FileReader) :
    Except AofError (Value × Bytes) →
      EStateM.Result AofError FileReader Value → Prop
  | returned {value : Value} {later : FileReader}
      (moved : Advances reader later) :
      Follows reader (.ok (value, later.remaining)) (.ok value later)
  | raised {error : AofError} {later : FileReader}
      (moved : Advances reader later) :
      Follows reader (.error error) (.error error later)

section Simulation

variable {Value Result : Type}

theorem Follows.weaken
    {first second : FileReader}
    {read : Except AofError (Value × Bytes)}
    {outcome : EStateM.Result AofError FileReader Value}
    (moved : Advances first second)
    (follows : Follows second read outcome) :
    Follows first read outcome := by
  cases follows with
  | returned later => exact .returned (moved.trans later)
  | raised later => exact .raised (moved.trans later)

theorem Follows.bind
    {reader : FileReader} {first : Method Value}
    {later : Value → Method Result}
    {read : Except AofError (Value × Bytes)}
    {rest : Value × Bytes → Except AofError (Result × Bytes)}
    (head : Follows reader read (first reader))
    (tail : ∀ value moved, Advances reader moved →
      Follows moved (rest (value, moved.remaining)) (later value moved)) :
    Follows reader (read >>= rest) ((first >>= later) reader) := by
  change Follows reader (read >>= rest) (EStateM.bind first later reader)
  unfold EStateM.bind
  generalize first reader = outcome at head
  cases head with
  | returned moved => exact (tail _ _ moved).weaken moved
  | raised moved => exact .raised moved

theorem Follows.failIf
    {reader : FileReader} {condition other : Prop} [Decidable condition]
    [Decidable other] {code : String} {later : Unit → Method Value}
    {rest : Except AofError (Value × Bytes)}
    (inside : reader.offset ≤ reader.data.length)
    (same : condition ↔ other)
    (tail : ¬ condition → Follows reader rest (later () reader)) :
    Follows reader (refuseIf other ⟨code⟩ >>= fun _ => rest)
      ((RespFraming.failIf condition code >>= later) reader) := by
  by_cases holds : condition
  · rw [RespFraming.failIf, refuseIf, if_pos holds, if_pos (same.1 holds)]
    exact .raised (Advances.refl inside)
  · rw [RespFraming.failIf, refuseIf, if_neg holds,
      if_neg fun reached => holds (same.2 reached)]
    exact tail holds

theorem get_bind
    (later : FileReader → Method Value) (reader : FileReader) :
    (get >>= later : Method Value) reader = later reader reader :=
  rfl

theorem set_bind
    (later : PUnit → Method Value) (stored reader : FileReader) :
    (set stored >>= later : Method Value) reader = later ⟨⟩ stored :=
  rfl

end Simulation

/-- The bytes that a line is made of. -/
theorem splitLine_eq_some
    {remaining text rest : Bytes}
    (split : splitLine remaining = some (text, rest)) :
    remaining = text ++ (lineEnd ++ rest) := by
  induction remaining using splitLine.induct generalizing text with
  | case1 => cases split
  | case2 tail =>
      cases split
      rfl
  | case3 byte tail notLine induction =>
      rw [splitLine] at split
      · rcases Option.map_eq_some_iff.1 split with
          ⟨⟨front, back⟩, found, equal⟩
        cases equal
        rw [induction found, List.cons_append]
      · exact notLine

/-- A slice that starts at the offset. -/
theorem slice_offset (reader : FileReader) (count : Nat) :
    reader.slice reader.offset (reader.offset + count) =
      reader.remaining.take count := by
  rw [FileReader.slice, Nat.add_sub_cancel_left, FileReader.remaining]

theorem length_remaining (reader : FileReader) :
    reader.remaining.length = reader.data.length - reader.offset :=
  List.length_drop

theorem remaining_moveTo (reader : FileReader) (count : Nat) :
    FileReader.remaining { reader with offset := reader.offset + count } =
      reader.remaining.drop count := by
  rw [FileReader.remaining, FileReader.remaining, List.drop_drop]

theorem line_follows
    {reader : FileReader} (inside : reader.offset ≤ reader.data.length) :
    Follows reader (RespReader.line reader.remaining)
      (FileReader.line reader) := by
  rw [FileReader.line, get_bind]
  cases found : splitLine reader.remaining with
  | none =>
      rw [FileReader.find, RespReader.line, found]
      exact .raised (Advances.refl inside)
  | some split =>
      rcases split with ⟨text, rest⟩
      have shape := splitLine_eq_some found
      have lengths := congrArg List.length shape
      rw [length_remaining] at lengths
      simp only [List.length_append, lineEnd, List.length_cons,
        List.length_nil] at lengths
      have moved :
          Advances reader
            { reader with offset := reader.offset + text.length + 2 } :=
        Advances.moveTo (by omega) (by omega)
      have textRead :
          reader.slice reader.offset (reader.offset + text.length) =
            text := by
        rw [slice_offset, shape, List.take_left]
      have restLeft :
          FileReader.remaining
              { reader with offset := reader.offset + text.length + 2 } =
            rest := by
        rw [Nat.add_assoc, remaining_moveTo, shape, ← List.drop_drop,
          List.drop_left]
        rfl
      rw [FileReader.find, RespReader.line, found]
      simp only [Option.map_some, set_bind]
      refine
        Follows.weaken moved
          (Follows.failIf moved.stays_inside (by rw [textRead]) ?_)
      intro _
      rw [textRead, ← restLeft]
      exact .returned (Advances.refl moved.stays_inside)

theorem unsigned_le
    {text : Bytes} {maximum number : Nat} {code : String}
    (read : unsigned text maximum code = .ok number) :
    number ≤ maximum := by
  simp only [unsigned, bind_eq_ok_iff, refuseIf_eq_ok_iff, exists_const,
    pure_eq_ok_iff, not_lt] at read
  rcases read with ⟨_, within, rfl⟩
  exact within

theorem header_follows
    {Value : Type} {expected : UInt8} {maximum : Nat}
    {reader : FileReader} {later : Nat → Method Value}
    {rest : Nat × Bytes → Except AofError (Value × Bytes)}
    (inside : reader.offset ≤ reader.data.length)
    (tail : ∀ number moved, number ≤ maximum → Advances reader moved →
      Follows moved (rest (number, moved.remaining))
        (later number moved)) :
    Follows reader (header expected maximum reader.remaining >>= rest)
      ((FileReader.marker expected >>= fun _ =>
        FileReader.number maximum >>= later) reader) := by
  have start := slice_offset reader 1
  simp only [FileReader.marker, bind_assoc]
  rw [get_bind]
  cases bytes : reader.remaining with
  | nil =>
      rw [bytes] at start
      rw [RespFraming.failIf, start, if_pos (by simp)]
      exact .raised (Advances.refl inside)
  | cons first others =>
      have lengths := congrArg List.length bytes
      rw [length_remaining, List.length_cons] at lengths
      have moved :
          Advances reader { reader with offset := reader.offset + 1 } :=
        Advances.moveTo (by omega) (by omega)
      have othersLeft :
          FileReader.remaining
              { reader with offset := reader.offset + 1 } = others := by
        rw [remaining_moveTo, bytes, List.drop_one, List.tail_cons]
      have same :
          reader.slice reader.offset (reader.offset + 1) ≠ [expected] ↔
            first ≠ expected := by
        rw [start, bytes]
        simp
      simp only [header, bind_assoc]
      refine Follows.failIf inside same fun _ => ?_
      rw [set_bind]
      refine Follows.weaken moved ?_
      rw [FileReader.number, bind_assoc, ← othersLeft]
      refine Follows.bind (line_follows moved.stays_inside) ?_
      intro text after advanced
      cases numberRead : unsigned text maximum "AOF_LIMIT_EXCEEDED" with
      | error error => exact .raised (Advances.refl advanced.stays_inside)
      | ok value =>
          exact
            tail value after (unsigned_le numberRead)
              (moved.trans advanced)

theorem failIf_of_not
    {Value : Type} {condition : Prop} [Decidable condition] {code : String}
    (passes : ¬ condition) (later : Unit → Method Value) :
    (failIf condition code >>= later) = later () := by
  rw [failIf, if_neg passes]
  rfl

theorem argument_follows
    {reader : FileReader} (inside : reader.offset ≤ reader.data.length) :
    Follows reader (RespReader.argument reader.remaining)
      (FileReader.argument reader) := by
  rw [FileReader.argument, RespReader.argument]
  refine header_follows inside ?_
  intro length moved within advanced
  have stays := advanced.stays_inside
  have lengths := length_remaining moved
  rw [failIf_of_not (not_lt.2 within), get_bind]
  have ending :
      moved.slice (moved.offset + length) (moved.offset + length + 2) =
        (moved.remaining.drop length).take 2 := by
    rw [FileReader.slice, FileReader.remaining, List.drop_drop,
      Nat.add_sub_cancel_left]
  refine Follows.failIf stays ?_ ?_
  · rw [ending]
    have sameRoom :
        moved.offset + length + 2 > moved.data.length ↔
          length + 2 > moved.remaining.length := by
      omega
    rw [sameRoom]
  · intro whole
    have room : moved.offset + (length + 2) ≤ moved.data.length :=
      not_lt.1 fun beyond => whole (Or.inl beyond)
    have advances :
        Advances moved { moved with offset := moved.offset + length + 2 } :=
      Advances.moveTo (by omega) (by omega)
    rw [set_bind, slice_offset, ← remaining_moveTo]
    exact .returned advances

theorem arguments_follows
    (count : Nat) {reader : FileReader}
    (inside : reader.offset ≤ reader.data.length) :
    Follows reader (RespReader.arguments count reader.remaining)
      (FileReader.arguments count reader) := by
  induction count generalizing reader with
  | zero => exact .returned (Advances.refl inside)
  | succ count induction =>
      rw [RespReader.arguments, FileReader.arguments]
      refine Follows.bind (argument_follows inside) ?_
      intro first moved advanced
      refine Follows.bind (induction advanced.stays_inside) ?_
      intro others after later
      exact .returned (Advances.refl later.stays_inside)

/-- The outcomes of `next_command` on the bytes left and on the data. -/
inductive Calls (reader : FileReader) :
    Except AofError (Option (List Bytes × Reader)) →
      EStateM.Result AofError FileReader (Option (List Bytes)) → Prop
  | ended (atEnd : reader.offset = reader.data.length) :
      Calls reader (.ok none) (.ok none reader)
  | returned {command : List Bytes} {later : FileReader}
      (data : later.data = reader.data)
      (maxCommands : later.maxCommands = reader.maxCommands)
      (inside : later.offset ≤ reader.data.length) :
      Calls reader
        (.ok (some (command, ⟨later.remaining, later.commands⟩)))
        (.ok (some command) later)
  | raised {error : AofError} {later : FileReader}
      (inside : later.offset ≤ reader.data.length) :
      Calls reader (.error error) (.error error later)

/-- The part of `next_command` that reads. -/
theorem commandBody_follows
    {reader : FileReader} (inside : reader.offset ≤ reader.data.length) :
    Follows reader
      (header 42 maxArrayLength reader.remaining >>= fun read =>
        refuseIf (read.1 < 1 ∨ read.1 > maxArrayLength)
            ⟨"AOF_LIMIT_EXCEEDED"⟩ >>= fun _ =>
          RespReader.arguments read.1 read.2)
      ((FileReader.marker 42 >>= fun _ =>
        FileReader.number maxArrayLength >>= fun count =>
          failIf (count < 1 ∨ count > maxArrayLength)
              "AOF_LIMIT_EXCEEDED" >>= fun _ =>
            FileReader.arguments count) reader) := by
  refine header_follows inside ?_
  intro count moved _ advanced
  refine Follows.failIf advanced.stays_inside Iff.rfl fun _ => ?_
  exact arguments_follows count advanced.stays_inside

/-- Reading is followed by the count of the commands. -/
theorem counted_calls
    {reader : FileReader} {read : Except AofError (List Bytes × Bytes)}
    {body : Method (List Bytes)}
    (follows : Follows reader read (body reader)) :
    Calls reader
      (read >>= fun result =>
        refuseIf (reader.commands + 1 > reader.maxCommands)
            ⟨"AOF_LIMIT_EXCEEDED"⟩ >>= fun _ =>
          pure (some (result.1, ⟨result.2, reader.commands + 1⟩)))
      ((body >>= fun command =>
        (modify fun reader =>
          { reader with commands := reader.commands + 1 }) >>= fun _ =>
        get >>= fun counted =>
        failIf (counted.commands > counted.maxCommands)
            "AOF_LIMIT_EXCEEDED" >>= fun _ =>
          pure (some command)) reader) := by
  change Calls reader _ (EStateM.bind body _ reader)
  unfold EStateM.bind
  generalize body reader = outcome at follows
  cases follows with
  | raised moved => exact .raised moved.inside
  | @returned command later moved =>
      change Calls reader
        (refuseIf (reader.commands + 1 > reader.maxCommands)
            ⟨"AOF_LIMIT_EXCEEDED"⟩ >>= fun _ =>
          pure (some (command, ⟨later.remaining, reader.commands + 1⟩)))
        ((failIf (later.commands + 1 > later.maxCommands)
            "AOF_LIMIT_EXCEEDED" >>= fun _ => pure (some command))
          { later with commands := later.commands + 1 })
      rw [← moved.commands, ← moved.maxCommands]
      by_cases full : later.commands + 1 > later.maxCommands
      · rw [failIf, refuseIf, if_pos full, if_pos full]
        exact .raised moved.inside
      · rw [failIf_of_not full, refuseIf, if_neg full]
        have same :
            later.remaining =
              FileReader.remaining
                { later with commands := later.commands + 1 } :=
          rfl
        rw [same]
        exact .returned moved.data moved.maxCommands moved.inside

theorem nextCommand_calls
    {reader : FileReader} (inside : reader.offset ≤ reader.data.length) :
    Calls reader
      (RespReader.nextCommand reader.maxCommands
        ⟨reader.remaining, reader.commands⟩)
      (FileReader.nextCommand reader) := by
  rw [FileReader.nextCommand, get_bind]
  have lengths := length_remaining reader
  by_cases atEnd : reader.offset = reader.data.length
  · have empty : reader.remaining = [] :=
      List.length_eq_zero_iff.1 (by omega)
    rw [if_pos atEnd, empty]
    exact .ended atEnd
  · have body := commandBody_follows inside
    rw [if_neg atEnd]
    cases bytes : reader.remaining with
    | nil =>
        rw [bytes, List.length_nil] at lengths
        omega
    | cons first others =>
        have counted := counted_calls body
        simp only [bind_assoc] at counted
        simp only [bytes] at counted
        simp only [RespReader.nextCommand]
        exact counted

/-! ## The loop over the commands -/

/-- How a loop over `next_command` stops. -/
inductive Ending
  | returnedNone
  | raised (error : AofError)
  | unfinished
deriving DecidableEq, Repr

/-- The commands with the offsets after them, the end, and the reader then. -/
structure Run where
  returned : List (List Bytes × Nat)
  ending : Ending
  last : FileReader

/-- At most `fuel` calls of `next_command`, up to the first that stops. -/
def FileReader.calls : Nat → FileReader → Run
  | 0, reader => ⟨[], .unfinished, reader⟩
  | fuel + 1, reader =>
      match FileReader.nextCommand reader with
      | .error error later => ⟨[], .raised error, later⟩
      | .ok none later => ⟨[], .returnedNone, later⟩
      | .ok (some command) later =>
          let run := later.calls fuel
          { run with returned := (command, later.offset) :: run.returned }

/-- Every loop ends, and the offset only moves forward inside the data. -/
theorem calls_ends
    {fuel : Nat} {reader : FileReader}
    (inside : reader.offset ≤ reader.data.length)
    (enough : reader.remaining.length < fuel) :
    (reader.calls fuel).ending ≠ .unfinished ∧
      (reader.offset :: (reader.calls fuel).returned.map Prod.snd).Pairwise
        (· < ·) ∧
      ∀ offset ∈ (reader.calls fuel).last.offset ::
          (reader.calls fuel).returned.map Prod.snd,
        offset ≤ reader.data.length := by
  induction fuel generalizing reader with
  | zero => omega
  | succ fuel induction =>
      have same := nextCommand_calls inside
      have shorter :
          ∀ command after,
            RespReader.nextCommand reader.maxCommands
                ⟨reader.remaining, reader.commands⟩ =
              .ok (some (command, after)) →
            after.remaining.length < reader.remaining.length :=
        fun command after read => (nextCommand_eq_some read).1
      rw [FileReader.calls]
      generalize FileReader.nextCommand reader = outcome at same
      generalize
        RespReader.nextCommand reader.maxCommands
          ⟨reader.remaining, reader.commands⟩ = read at same shorter
      cases same with
      | ended atEnd => simp [inside]
      | raised later => simp [later]
      | @returned command later data maxCommands within =>
          have laterInside : later.offset ≤ later.data.length := by
            rw [data]
            exact within
          have fewer := shorter command _ rfl
          have lengths := length_remaining reader
          have laterLengths := length_remaining later
          rw [data] at laterLengths
          rcases induction laterInside (by simp only at fewer; omega) with
            ⟨finished, increasing, bounded⟩
          have forward : reader.offset < later.offset := by
            simp only at fewer
            omega
          rw [data] at bounded
          refine ⟨finished, ?_, ?_⟩
          · rw [List.map_cons, List.pairwise_cons]
            refine ⟨?_, increasing⟩
            rw [List.forall_mem_cons]
            refine ⟨forward, fun offset member => ?_⟩
            exact
              lt_trans forward ((List.pairwise_cons.1 increasing).1 _ member)
          · simp only [List.map_cons, List.forall_mem_cons] at bounded ⊢
            exact ⟨bounded.1, within, bounded.2⟩

/-- The first turn of a loop on bytes that start with a command. -/
theorem calls_command
    {reader : FileReader} {command : Command} {rest : Bytes} (fuel : Nat)
    (inside : reader.offset ≤ reader.data.length)
    (bytes : reader.remaining = encodeCommand command.arguments ++ rest)
    (room : reader.commands + 1 ≤ reader.maxCommands) :
    ∃ later : FileReader,
      later.data = reader.data ∧
        later.maxCommands = reader.maxCommands ∧
        later.offset ≤ reader.data.length ∧
        later.remaining = rest ∧
        later.commands = reader.commands + 1 ∧
        rest.length < reader.remaining.length ∧
        reader.calls (fuel + 1) =
          { later.calls fuel with
            returned :=
              (command.arguments, later.offset) ::
                (later.calls fuel).returned } := by
  have same := nextCommand_calls inside
  have read := nextCommand_encode command rest room
  have shorter := (nextCommand_eq_some read).1
  rw [← bytes] at read shorter
  rw [read] at same
  rw [FileReader.calls]
  generalize FileReader.nextCommand reader = outcome at same
  have fewer : rest.length < reader.remaining.length := shorter
  generalize reader.commands + 1 = count at same ⊢
  cases same with
  | @returned _ later data maxCommands within =>
      exact ⟨later, data, maxCommands, within, rfl, rfl, fewer, rfl⟩

/-- A loop on an encoding returns its commands and then `None`. -/
theorem calls_encode
    {commands : List Command} {fuel : Nat} {reader : FileReader}
    (inside : reader.offset ≤ reader.data.length)
    (bytes : reader.remaining = encode commands)
    (room : reader.commands + commands.length ≤ reader.maxCommands)
    (enough : reader.remaining.length < fuel) :
    (reader.calls fuel).returned.map Prod.fst =
        commands.map Command.arguments ∧
      (reader.calls fuel).ending = .returnedNone ∧
      (reader.calls fuel).last.offset = reader.data.length := by
  induction commands generalizing fuel reader with
  | nil =>
      cases fuel with
      | zero => omega
      | succ fuel =>
          have same := nextCommand_calls inside
          rw [bytes] at same
          rw [FileReader.calls]
          generalize FileReader.nextCommand reader = outcome at same
          cases same with
          | ended atEnd => exact ⟨rfl, rfl, atEnd⟩
  | cons command commands induction =>
      cases fuel with
      | zero => omega
      | succ fuel =>
          rw [List.length_cons] at room
          rw [encode, List.flatMap_cons, ← encode] at bytes
          rcases calls_command fuel inside bytes (by omega) with
            ⟨later, data, maxCommands, within, left, counted, shorter,
              turn⟩
          rw [← data] at within
          have fewer : later.remaining.length < fuel := by
            rw [left]
            omega
          rcases induction within left (by omega) fewer with
            ⟨returned, ending, atEnd⟩
          rw [turn, List.map_cons, List.map_cons, returned]
          exact ⟨rfl, ending, by rw [atEnd, data]⟩

/-- A loop on a file cut inside a command raises. -/
theorem calls_truncated
    {commands : List Command} {fuel : Nat} {reader : FileReader}
    {missing : Bytes}
    (inside : reader.offset ≤ reader.data.length)
    (bytes : encode commands = reader.remaining ++ missing)
    (cut : ∀ count, reader.remaining ≠ encode (commands.take count))
    (room : reader.commands + commands.length ≤ reader.maxCommands)
    (enough : reader.remaining.length < fuel) :
    ∃ error, (reader.calls fuel).ending = .raised error := by
  induction commands generalizing fuel reader with
  | nil =>
      have nothing := (List.append_eq_nil_iff.1 bytes.symm).1
      exact absurd nothing (cut 0)
  | cons command commands induction =>
      cases fuel with
      | zero => omega
      | succ fuel =>
          rw [List.length_cons] at room
          rw [encode, List.flatMap_cons, ← encode] at bytes
          rcases List.append_eq_append_iff.1 bytes with
            ⟨rest, whole, others⟩ | ⟨rest, inner, _⟩
          · -- the cut is after this command
            rcases calls_command fuel inside whole (by omega) with
              ⟨later, data, maxCommands, within, left, counted, shorter,
                turn⟩
            rw [← data] at within
            have laterCut :
                ∀ count,
                  later.remaining ≠ encode (commands.take count) := by
              intro count same
              apply cut (count + 1)
              rw [whole, ← left, same, List.take_succ_cons, encode, encode,
                List.flatMap_cons]
            have fewer : later.remaining.length < fuel := by
              rw [left]
              omega
            rw [turn]
            exact
              induction within (by rw [left, others]) laterCut (by omega)
                fewer
          · -- the cut is inside this command
            have missingBytes : rest ≠ [] := by
              rintro rfl
              rw [List.append_nil] at inner
              apply cut 1
              rw [← inner]
              simp [encode]
            have started : reader.remaining ≠ [] := by
              simpa [encode] using cut 0
            have first : reader.commands + 1 ≤ reader.maxCommands := by
              omega
            rcases nextCommand_truncated first inner started missingBytes with
              ⟨error, refused⟩
            have same := nextCommand_calls inside
            rw [refused] at same
            rw [FileReader.calls]
            generalize FileReader.nextCommand reader = outcome at same
            cases same with
            | raised _ => exact ⟨error, rfl⟩

/--
Reading a file returns the commands it encodes and then `None` at its end, a
file cut inside a command is refused, and on any bytes at all the reading
ends with the offset inside the data and moving forward.
-/
theorem fileReader_framing (maxCommands : Nat) :
    (∀ commands : List Command, commands.length ≤ maxCommands →
      ∀ fuel, (encode commands).length < fuel →
        let run :=
          (FileReader.init maxCommands (encode commands)).calls fuel
        run.returned.map Prod.fst = commands.map Command.arguments ∧
          run.ending = .returnedNone ∧
          run.last.offset = (encode commands).length) ∧
    (∀ commands : List Command, commands.length ≤ maxCommands →
      ∀ front missing, encode commands = front ++ missing →
        (∀ count, front ≠ encode (commands.take count)) →
        ∀ fuel, front.length < fuel →
          ∃ error,
            ((FileReader.init maxCommands front).calls fuel).ending =
              .raised error) ∧
    (∀ data fuel, data.length < fuel →
      let run := (FileReader.init maxCommands data).calls fuel
      run.ending ≠ .unfinished ∧
        (0 :: run.returned.map Prod.snd).Pairwise (· < ·) ∧
        ∀ offset ∈ run.last.offset :: run.returned.map Prod.snd,
          offset ≤ data.length) := by
  have whole :
      ∀ data, (FileReader.init maxCommands data).remaining = data :=
    fun data => rfl
  have unread :
      ∀ data count, count ≤ maxCommands →
        (FileReader.init maxCommands data).commands + count ≤ maxCommands :=
    fun data count room => (Nat.zero_add count).symm ▸ room
  refine ⟨?_, ?_, ?_⟩
  · intro commands room fuel enough
    exact
      calls_encode (Nat.zero_le _) (whole _) (unread _ _ room) enough
  · intro commands room front missing bytes cut fuel enough
    exact
      calls_truncated (Nat.zero_le _) bytes cut (unread _ _ room)
        enough
  · intro data fuel enough
    exact calls_ends (Nat.zero_le _) enough

/-- `SET`, with a value that looks like the end of one argument and the
beginning of the next. -/
def setCommand : Command where
  arguments :=
    [asciiBytes "SET", asciiBytes "key", asciiBytes "a\r\n$1\r\nb\r\n"]
  nonempty := by decide
  bounded := by decide
  tokens := by decide

/-- `PING`. -/
def pingCommand : Command where
  arguments := [asciiBytes "PING"]
  nonempty := by decide
  bounded := by decide
  tokens := by decide

/-- Cut behind the line feed inside the value, the file encodes nothing. -/
theorem cut_setPing (count : Nat) :
    (encode [setCommand, pingCommand]).take 30 ≠
      encode ([setCommand, pingCommand].take count) := by
  rcases count with _ | _ | count
  · decide
  · decide
  · rw [List.take_succ_cons, List.take_succ_cons, List.take_nil]
    decide

/-- What reading the file returns. -/
def setPingRun : Run :=
  (FileReader.init 2 (encode [setCommand, pingCommand])).calls 100

/-- What reading the beginning of the file returns. -/
def cutRun : Run :=
  (FileReader.init 2 ((encode [setCommand, pingCommand]).take 30)).calls 100

theorem fileReader_framing_setPing :
    setPingRun.returned.map Prod.fst =
        [[asciiBytes "SET", asciiBytes "key",
            asciiBytes "a\r\n$1\r\nb\r\n"],
          [asciiBytes "PING"]] ∧
      setPingRun.ending = .returnedNone ∧
      setPingRun.last.offset = 53 ∧
      ∃ error, cutRun.ending = .raised error := by
  have length : (encode [setCommand, pingCommand]).length = 53 := by
    decide
  have room : [setCommand, pingCommand].length ≤ 2 := le_rfl
  rcases fileReader_framing 2 with ⟨whole, truncated, _⟩
  rcases whole _ room 100 (by rw [length]; decide) with
    ⟨returned, ending, offset⟩
  rw [length] at offset
  have refused :=
    truncated _ room _ _ (List.take_append_drop 30 _).symm cut_setPing 100
      (by rw [List.length_take, length]; decide)
  unfold setPingRun cutRun
  exact ⟨returned, ending, offset, refused⟩

end KairosDeploy.RedisAof.RespFraming
