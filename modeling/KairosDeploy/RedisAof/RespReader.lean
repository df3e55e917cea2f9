import KairosDeploy.Library.Refusal

/-!
# Reading an append-only file

`_RespReader` splits the bytes of a Redis append-only file into commands.  A
command is an array header followed by length-prefixed arguments.  The reader
is bounded: every length it accepts is limited, and every command it returns
is shorter than what it was read from, which is why the loop over the commands
of a file ends.
-/

namespace KairosDeploy.RedisAof.RespReader

open KairosDeploy.Library.Refusal

/-- A Python `bytes` value. -/
abbrev Bytes := List UInt8

/-- `_AofError`: a sanitized stable code. -/
structure AofError where
  code : String
deriving DecidableEq, Repr

/-- The bytes of an ASCII text. -/
def asciiBytes (text : String) : Bytes :=
  text.toList.map fun character => UInt8.ofNat character.toNat

/-- `MAX_ARRAY_LENGTH`. -/
def maxArrayLength : Nat := 32

/-- `MAX_TOKEN_BYTES`. -/
def maxTokenBytes : Nat := 128 * 1024

/-! ## Numbers and lines -/

/-- An ASCII digit. -/
def isDigit (byte : UInt8) : Bool :=
  48 ≤ byte && byte ≤ 57

/-- The value of a sequence of digits. -/
def digitsValue (digits : Bytes) : Nat :=
  digits.foldl (fun value digit => 10 * value + (digit.toNat - 48)) 0

/-- `_unsigned`. -/
def unsigned (value : Bytes) (maximum : Nat) (code : String) :
    Except AofError Nat := do
  refuseIf (value = [] ∨ value.length > 20 ∨ ¬ value.all isDigit)
    ⟨"AOF_MALFORMED_OR_TRUNCATED"⟩
  let number := digitsValue value
  refuseIf (number > maximum) ⟨code⟩
  return number

/-- The bytes before the first `\r\n`, and the bytes after it. -/
def splitLine : Bytes → Option (Bytes × Bytes)
  | [] => none
  | 13 :: 10 :: rest => some ([], rest)
  | byte :: rest => (splitLine rest).map fun split => (byte :: split.1, split.2)

/-- `_RespReader._line`. -/
def line (remaining : Bytes) : Except AofError (Bytes × Bytes) :=
  match splitLine remaining with
  | none => .error ⟨"AOF_MALFORMED_OR_TRUNCATED"⟩
  | some (text, rest) => do
      refuseIf (text.length > maxTokenBytes) ⟨"AOF_LIMIT_EXCEEDED"⟩
      return (text, rest)

theorem splitLine_length
    {remaining text rest : Bytes}
    (split : splitLine remaining = some (text, rest)) :
    rest.length < remaining.length := by
  induction remaining using splitLine.induct generalizing text with
  | case1 => cases split
  | case2 tail =>
      cases split
      simp only [List.length_cons]
      omega
  | case3 byte tail notLine induction =>
      rw [splitLine] at split
      · rcases Option.map_eq_some_iff.1 split with
          ⟨⟨front, back⟩, found, equal⟩
        cases equal
        have shorter : back.length < tail.length := induction found
        simp only [List.length_cons]
        omega
      · exact notLine

theorem line_length
    {remaining text rest : Bytes}
    (read : line remaining = .ok (text, rest)) :
    rest.length < remaining.length := by
  unfold line at read
  split at read
  · cases read
  · rename_i front back found
    simp only [bind_eq_ok_iff, refuseIf_eq_ok_iff, exists_const,
      pure_eq_ok_iff, Prod.mk.injEq] at read
    rcases read with ⟨_, rfl, rfl⟩
    exact splitLine_length found

/-! ## Commands -/

/-- A header: its marker, its decimal number, the end of its line. -/
def header (marker : UInt8) (maximum : Nat) (remaining : Bytes) :
    Except AofError (Nat × Bytes) :=
  match remaining with
  | [] => .error ⟨"AOF_MALFORMED_OR_TRUNCATED"⟩
  | first :: rest => do
      refuseIf (first ≠ marker) ⟨"AOF_MALFORMED_OR_TRUNCATED"⟩
      let (text, after) ← line rest
      let number ← unsigned text maximum "AOF_LIMIT_EXCEEDED"
      return (number, after)

/-- One argument: `$`, its length, its bytes and a line end. -/
def argument (remaining : Bytes) : Except AofError (Bytes × Bytes) := do
  let (length, body) ← header 36 maxTokenBytes remaining
  refuseIf
    (length + 2 > body.length ∨
      (body.drop length).take 2 ≠ [13, 10])
    ⟨"AOF_MALFORMED_OR_TRUNCATED"⟩
  return (body.take length, body.drop (length + 2))

/-- The arguments of one command. -/
def arguments : Nat → Bytes → Except AofError (List Bytes × Bytes)
  | 0, remaining => .ok ([], remaining)
  | count + 1, remaining => do
      let (first, after) ← argument remaining
      let (others, rest) ← arguments count after
      return (first :: others, rest)

/-- The position of a reader: the bytes left and the commands read. -/
structure Reader where
  remaining : Bytes
  commands : Nat
deriving DecidableEq, Repr

/-- `_RespReader.next_command`. -/
def nextCommand (maxCommands : Nat) (reader : Reader) :
    Except AofError (Option (List Bytes × Reader)) :=
  match reader.remaining with
  | [] => .ok none
  | remaining => do
      let (count, body) ← header 42 maxArrayLength remaining
      refuseIf (count < 1 ∨ count > maxArrayLength)
        ⟨"AOF_LIMIT_EXCEEDED"⟩
      let (command, rest) ← arguments count body
      refuseIf (reader.commands + 1 > maxCommands) ⟨"AOF_LIMIT_EXCEEDED"⟩
      return some (command, ⟨rest, reader.commands + 1⟩)

theorem header_length
    {marker : UInt8} {maximum number : Nat} {remaining rest : Bytes}
    (read : header marker maximum remaining = .ok (number, rest)) :
    rest.length < remaining.length := by
  unfold header at read
  split at read
  · cases read
  · simp only [bind_eq_ok_iff, refuseIf_eq_ok_iff, exists_const,
      pure_eq_ok_iff, Prod.mk.injEq, Prod.exists] at read
    rcases read with ⟨_, text, after, lineRead, _, _, _, rfl⟩
    have shorter := line_length lineRead
    simp only [List.length_cons]
    omega

theorem argument_length
    {remaining value rest : Bytes}
    (read : argument remaining = .ok (value, rest)) :
    rest.length < remaining.length := by
  simp only [argument, bind_eq_ok_iff, refuseIf_eq_ok_iff, exists_const,
    pure_eq_ok_iff, Prod.mk.injEq, Prod.exists] at read
  rcases read with ⟨length, body, headerRead, _, _, rfl⟩
  have shorter := header_length headerRead
  rw [List.length_drop]
  omega

theorem arguments_length
    {count : Nat} {remaining rest : Bytes} {values : List Bytes}
    (read : arguments count remaining = .ok (values, rest)) :
    rest.length ≤ remaining.length ∧ values.length = count := by
  induction count generalizing remaining values with
  | zero =>
      cases read
      exact ⟨le_rfl, rfl⟩
  | succ count induction =>
      simp only [arguments, bind_eq_ok_iff, pure_eq_ok_iff, Prod.mk.injEq,
        Prod.exists] at read
      rcases read with ⟨first, after, head, others, _, tail, rfl, rfl⟩
      have headShorter := argument_length head
      rcases induction tail with ⟨tailShorter, tailCount⟩
      exact ⟨by omega, by rw [List.length_cons, tailCount]⟩

/-- A command consumes bytes and has at least its name. -/
theorem nextCommand_eq_some
    {maxCommands : Nat} {reader after : Reader} {command : List Bytes}
    (read : nextCommand maxCommands reader = .ok (some (command, after))) :
    after.remaining.length < reader.remaining.length ∧ command ≠ [] ∧
      after.commands = reader.commands + 1 := by
  unfold nextCommand at read
  split at read
  · cases read
  · rename_i notEmpty
    simp only [bind_eq_ok_iff, refuseIf_eq_ok_iff, exists_const,
      pure_eq_ok_iff, Option.some.injEq, Prod.mk.injEq, Prod.exists] at read
    rcases read with
      ⟨count, body, headerRead, positive, values, rest, argumentsRead, _,
        rfl, rfl⟩
    have headerShorter := header_length headerRead
    rcases arguments_length argumentsRead with ⟨shorter, valueCount⟩
    refine ⟨lt_of_le_of_lt shorter headerShorter, ?_, rfl⟩
    rintro rfl
    rw [List.length_nil] at valueCount
    exact positive (Or.inl (by omega))

/-! ## The loop over a file -/

section Loop

universe u

variable {State : Type u}

/--
`while (command := reader.next_command()) is not None`.  The fuel bounds the
number of commands; a file never needs more than its length.
-/
def forEachCommand
    (maxCommands : Nat)
    (handle : State → List Bytes → Except AofError State) :
    Nat → Reader → State → Except AofError (Reader × State)
  | 0, _, _ => .error ⟨"AOF_LIMIT_EXCEEDED"⟩
  | fuel + 1, reader, state =>
      match nextCommand maxCommands reader with
      | .error error => .error error
      | .ok none => .ok (reader, state)
      | .ok (some (command, after)) =>
          match handle state command with
          | .error error => .error error
          | .ok next => forEachCommand maxCommands handle fuel after next

/-- More fuel than bytes is as good as any. -/
theorem forEachCommand_fuel
    {maxCommands : Nat}
    {handle : State → List Bytes → Except AofError State}
    {fuel : Nat} (extra : Nat) {reader : Reader} (state : State)
    (enough : reader.remaining.length < fuel) :
    forEachCommand maxCommands handle (fuel + extra) reader state =
      forEachCommand maxCommands handle fuel reader state := by
  induction fuel generalizing reader state with
  | zero => omega
  | succ fuel induction =>
      have unrolled : fuel + 1 + extra = (fuel + extra) + 1 := by omega
      rw [unrolled]
      unfold forEachCommand
      split
      · rfl
      · rfl
      · rename_i command after read
        split
        · rfl
        · have shorter := (nextCommand_eq_some read).1
          exact induction _ (by omega)

/-- The commands of a file, in order. -/
def readCommands (maxCommands : Nat) (data : Bytes) :
    Except AofError (List (List Bytes)) := do
  let (_, commands) ←
    forEachCommand maxCommands
      (fun commands command => .ok (commands ++ [command]))
      (data.length + 1) ⟨data, 0⟩ []
  return commands

/-- A loop that succeeds has handled the commands of the file in order. -/
theorem forEachCommand_eq_ok
    {maxCommands : Nat}
    {handle : State → List Bytes → Except AofError State}
    {fuel : Nat} {reader last : Reader} {state final : State}
    (handled :
      forEachCommand maxCommands handle fuel reader state =
        .ok (last, final)) :
    ∃ commands,
      commands.foldlM handle state = .ok final ∧
        (∀ command ∈ commands, command ≠ []) ∧
        last.commands = reader.commands + commands.length ∧
        ∀ front,
          forEachCommand maxCommands
              (fun commands command => .ok (commands ++ [command])) fuel
              reader front =
            .ok (last, front ++ commands) := by
  induction fuel generalizing reader state with
  | zero => cases handled
  | succ fuel induction =>
      unfold forEachCommand at handled ⊢
      split at handled
      · cases handled
      · cases handled
        rename_i drained
        exact
          ⟨[], rfl, by simp, rfl, fun front => by
            rw [List.append_nil]⟩
      · rename_i command after read
        split at handled
        · cases handled
        · rename_i next stepped
          rcases induction handled with
            ⟨commands, folded, nonempty, counted, reread⟩
          refine ⟨command :: commands, ?_, ?_, ?_, ?_⟩
          · rw [List.foldlM_cons, stepped]
            exact folded
          · intro other member
            rcases List.mem_cons.1 member with rfl | later
            · exact (nextCommand_eq_some read).2.1
            · exact nonempty other later
          · rw [counted, (nextCommand_eq_some read).2.2, List.length_cons]
            omega
          · intro front
            rw [reread, List.append_assoc]
            rfl

end Loop

end KairosDeploy.RedisAof.RespReader
