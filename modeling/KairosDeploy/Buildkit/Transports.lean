import KairosDeploy.Library.HexDigest
import KairosDeploy.Library.JsonText
import KairosDeploy.Library.Refusal
import KairosDeploy.Soak.Health

/-!
# Observed transports, and the script that cancels them

A probe prints a line for every transport of the builder, `parse_transports`
reads the lines against the cgroup of the server, and `cancel_transport_script`
prints the rows again, reads them against the cgroup of the first row, and
writes a script that checks and signals them.
-/

namespace KairosDeploy.Buildkit.Transports

open KairosDeploy.Library
open KairosDeploy.Library.HexDigest (utf8 utf8_ofList)
open KairosDeploy.Library.PyObject
open KairosDeploy.Library.Refusal
open KairosDeploy.Soak.Health

/-! ## Texts -/

/-- A text, as its characters. -/
abbrev Text : Type := List Char

/-- `GateError(code)`. -/
structure GateError where
  code : String
deriving DecidableEq

/-- `separator.join(parts)` for one character. -/
def join (separator : Char) (parts : List Text) : Text :=
  [separator].intercalate parts

/-- A decimal digit: one of ASCII, or one that `int` reads besides. -/
def digitValue (other : Char → Option Nat) (character : Char) : Option Nat :=
  if character.isDigit then
    some (character.toNat - '0'.toNat)
  else
    other character

/-- `text.isdecimal()`. -/
def isDecimal (other : Char → Option Nat) (text : Text) : Bool :=
  !text.isEmpty &&
    text.all fun character => (digitValue other character).isSome

/-- `int(text)` of a decimal text. -/
def int (other : Char → Option Nat) (text : Text) : Nat :=
  text.foldl
    (fun sofar character =>
      10 * sofar + (digitValue other character).getD 0)
    0

/-- `str(value)`. -/
def decimal (value : Nat) : Text :=
  Nat.toDigits 10 value

/-- `re.fullmatch(r"0|[1-9][0-9]{0,19}", value)`. -/
def isUnsigned : Text → Bool
  | [] => false
  | first :: rest =>
      if first = '0' then
        rest.isEmpty
      else
        first.isDigit && rest.length ≤ 19 && rest.all Char.isDigit

/-- `mount_unsigned(value, maximum, positive=True)`. -/
def mountUnsigned (value : Text) (maximum : Nat) : Except GateError Nat := do
  refuseIf (isUnsigned value = false) ⟨"NUMERIC_PROJECTION_REQUIRED"⟩
  let number := Nat.ofDigitChars 10 value 0
  refuseIf (number > maximum ∨ number = 0) ⟨"NUMERIC_PROJECTION_BOUNDARY"⟩
  return number

/-- `[A-Za-z0-9_./:-]`. -/
def isPathCharacter (character : Char) : Bool :=
  character.isAlphanum || character = '_' || character = '.' ||
    character = '/' || character = ':' || character = '-'

/-- `re.fullmatch(r"/[A-Za-z0-9_./:-]*", path)`. -/
def isPath : Text → Bool
  | '/' :: rest => rest.all isPathCharacter
  | _ => false

/-- `0::`. -/
def hierarchy : Text := ['0', ':', ':']

/-- `path.rstrip("/") or "/"`. -/
def withoutSlashes (path : Text) : Text :=
  let stripped := path.rdropWhile (· = '/')
  if stripped = [] then ['/'] else stripped

/-- `cgroup_path(value)`. -/
def cgroupPath (value : Text) : Except GateError Text := do
  refuseIf
    ((hierarchy ++ ['/']).isPrefixOf value = false ∨ '\n' ∈ value ∨
      '\r' ∈ value)
    ⟨"WORKER_CGROUP_BOUNDARY"⟩
  let path := value.drop 3
  refuseIf (['.', '.'] ∈ path.splitOn '/' ∨ isPath path = false)
    ⟨"WORKER_CGROUP_BOUNDARY"⟩
  return withoutSlashes path

/-- `cgroup:[`. -/
def namespaceStart : Text :=
  ['c', 'g', 'r', 'o', 'u', 'p', ':', '[']

/-- `re.fullmatch(r"cgroup:\[[0-9]+\]", value)`. -/
def isNamespace (value : Text) : Bool :=
  let digits := (value.drop 8).dropLast
  !digits.isEmpty && digits.all Char.isDigit &&
    value = namespaceStart ++ digits ++ [']']

/-! ## Parsing -/

/-- A row of `parse_transports`. -/
structure Transport where
  pid : Nat
  startTicks : Nat
  cgroup : Text
  namespaceId : Text
  uid : Nat
deriving DecidableEq

/-- A row of `parse_workers`. -/
structure Worker where
  pid : Nat
  startTicks : Nat
  cgroup : Text
  namespaceId : Text
deriving DecidableEq

/-- The fields of a line of the probe, next to the user. -/
structure Fields where
  pid : Text
  startTicks : Text
  cgroup : Text
  namespaceId : Text

/-- `parent == "/" or path == parent or path.startswith(parent + "/")`. -/
def within (parent path : Text) : Bool :=
  parent = ['/'] || path = parent || (parent ++ ['/']).isPrefixOf path

section Parsing

variable (other : Char → Option Nat)

/-- One line of `parse_workers`. -/
def parseWorker (parent line : Text) : Except GateError Worker :=
  match line.splitOn '|' with
  | [pid, startTicks, cgroup, namespaceId] => do
      refuseIf
        (isDecimal other pid = false ∨ isDecimal other startTicks = false ∨
          int other pid ≤ 1 ∨ int other startTicks = 0)
        ⟨"WORKER_IDENTITY_UNPROVEN"⟩
      let path ← cgroupPath cgroup
      refuseIf (isNamespace namespaceId = false ∨ within parent path = false)
        ⟨"WORKER_ESCAPED_BOUNDED_CGROUP"⟩
      return ⟨int other pid, int other startTicks, path, namespaceId⟩
  | _ => .error ⟨"WORKER_IDENTITY_UNPROVEN"⟩

/-- `parse_workers(text, server_cgroup, namespace)`. -/
def parseWorkers (text serverCgroup namespaceId : Text) :
    Except GateError (List Worker) := do
  let parent ← cgroupPath serverCgroup
  refuseIf (isNamespace namespaceId = false)
    ⟨"SERVER_CGROUP_NAMESPACE_UNPROVEN"⟩
  let found ← (splitLines (strip text)).mapM (parseWorker other parent)
  refuseIf (found.length > 4 ∨ ¬ (found.map Worker.pid).Nodup)
    ⟨"WORKER_COUNT_BOUNDARY"⟩
  return found

/-- The five fields of a line, of which the third is the user `1000`. -/
def readFields (line : Text) : Option Fields :=
  match line.splitOn '|' with
  | [pid, startTicks, uid, cgroup, namespaceId] =>
      if uid = ['1', '0', '0', '0'] then
        some ⟨pid, startTicks, cgroup, namespaceId⟩
      else
        none
  | _ => none

/-- The two numbers of a line. -/
def checkNumbers (fields : Fields) : Except GateError Unit := do
  let _ ← mountUnsigned fields.pid (2 ^ 32 - 1)
  let _ ← mountUnsigned fields.startTicks (2 ^ 64 - 1)
  return ()

/-- A line of the projection. -/
def project (fields : Fields) : Text :=
  join '|'
    [fields.pid, fields.startTicks, fields.cgroup, fields.namespaceId]

/-- `row | {"uid": 1000}`. -/
def Worker.transport (worker : Worker) : Transport :=
  ⟨worker.pid, worker.startTicks, worker.cgroup, worker.namespaceId, 1000⟩

/-- `parse_transports(text, server_cgroup, namespace, allow_empty)`. -/
def parseTransports
    (text serverCgroup namespaceId : Text) (allowEmpty : Bool) :
    Except GateError (List Transport) := do
  refuseIf ((utf8 (String.ofList text)).length > 8192)
    ⟨"FIXED_TRANSPORT_PROJECTION_REQUIRED"⟩
  let lines := splitLines text
  refuseIf (lines = [] ∧ allowEmpty = false)
    ⟨"OWNED_TRANSPORT_COUNT_UNPROVEN"⟩
  match lines.mapM readFields with
  | none => .error ⟨"FIXED_TRANSPORT_PROJECTION_REQUIRED"⟩
  | some fields => do
      let _ ← fields.mapM checkNumbers
      let workers ←
        parseWorkers other (join '\n' (fields.map project)) serverCgroup
          namespaceId
      refuseIf
        (workers.any fun worker => worker.namespaceId ≠ namespaceId)
        ⟨"TRANSPORT_SERVER_NAMESPACE_REQUIRED"⟩
      return workers.map Worker.transport

end Parsing

/-! ## The script -/

/-- What a script checks of a transport. -/
inductive Check where
  | comm
  | startTicks
  | commandLine
  | uid
  | cgroup
  | namespaceId
deriving DecidableEq

/-- All of them, in the order of the script. -/
def Check.all : List Check :=
  [.comm, .startTicks, .commandLine, .uid, .cgroup, .namespaceId]

/-- A command of a script. -/
inductive Command where
  | setOptions
  | check (kind : Check) (row : Transport)
  | kill (force : Bool) (pid : Nat)
deriving DecidableEq

/-- A number or a part of a row, in the script. -/
def plain (text : Text) : String :=
  String.ofList text

/-- The text of a check. -/
def Check.render (row : Transport) : Check → String
  | .comm =>
      "[ \"$(cat /proc/" ++ plain (decimal row.pid) ++
        "/comm)\" = buildctl ] || exit 91"
  | .startTicks =>
      "[ \"$(sed 's/.*) //' /proc/" ++ plain (decimal row.pid) ++
        "/stat | awk '\x7bprint $20\x7d')\" = " ++
        plain (decimal row.startTicks) ++ " ] || exit 91"
  | .commandLine =>
      "[ \"$(tr '\\000' ' ' < /proc/" ++ plain (decimal row.pid) ++
        "/cmdline)\" = 'buildctl dial-stdio ' ] || exit 91"
  | .uid =>
      "[ \"$(awk '$1==\"Uid:\" \x7bprint $2\x7d' /proc/" ++
        plain (decimal row.pid) ++ "/status)\" = 1000 ] || exit 91"
  | .cgroup =>
      "[ \"$(cat /proc/" ++ plain (decimal row.pid) ++ "/cgroup)\" = \"0::" ++
        plain row.cgroup ++ "\" ] || exit 91"
  | .namespaceId =>
      "[ \"$(readlink /proc/" ++ plain (decimal row.pid) ++
        "/ns/cgroup)\" = \"" ++ plain row.namespaceId ++ "\" ] || exit 91"

/-- The text of a command. -/
def Command.render : Command → String
  | .setOptions => "set -eu"
  | .check kind row => kind.render row
  | .kill force pid =>
      "kill -" ++ (if force then "KILL" else "TERM") ++ " " ++
        plain (decimal pid)

/-- The commands before the first signal. -/
def checks (rows : List Transport) : List Command :=
  .setOptions ::
    rows.flatMap fun row => Check.all.map fun kind => .check kind row

/-- The commands for some rows. -/
def commands (rows : List Transport) (force : Bool) : List Command :=
  checks rows ++ rows.map fun row => .kill force row.pid

/-- The line that a row is printed as. -/
def serialize (row : Transport) : Text :=
  join '|'
    [decimal row.pid, decimal row.startTicks, ['1', '0', '0', '0'],
      hierarchy ++ row.cgroup, row.namespaceId]

/-- `cancel_transport_script(rows, force=force)`. -/
def cancelTransportScript
    (other : Char → Option Nat) (rows : List Transport) (force : Bool) :
    Except GateError String :=
  match rows with
  | [] => .error ⟨"EXACT_TRANSPORT_SIGNAL_POLICY_REQUIRED"⟩
  | first :: rest => do
      refuseIf ((first :: rest).any fun row => row.uid ≠ 1000)
        ⟨"FIXED_TRANSPORT_IDENTITY_REQUIRED"⟩
      let validated ←
        parseTransports other (join '\n' ((first :: rest).map serialize))
          (hierarchy ++ first.cgroup) first.namespaceId false
      refuseIf (validated ≠ first :: rest)
        ⟨"FIXED_TRANSPORT_IDENTITY_REQUIRED"⟩
      return "; ".intercalate ((commands validated force).map Command.render)

/-! ## Lines and fields -/

section Lines

@[simp]
theorem join_singleton (separator : Char) (part : Text) :
    join separator [part] = part := by
  simp [join, List.intercalate]

theorem join_cons_cons
    (separator : Char) (part next : Text) (rest : List Text) :
    join separator (part :: next :: rest) =
      part ++ separator :: join separator (next :: rest) := by
  simp [join, List.intercalate]

/-- What is between separators, and the separators. -/
theorem length_join (separator : Char) (part : Text) (rest : List Text) :
    (join separator (part :: rest)).length + 1 =
      ((part :: rest).map List.length).sum + (part :: rest).length := by
  induction rest generalizing part with
  | nil => simp
  | cons next rest induction =>
      rw [join_cons_cons, List.length_append, List.length_cons, List.map_cons,
        List.sum_cons, List.length_cons]
      have tail := induction next
      omega

theorem length_join_of_ne_nil
    (separator : Char) {parts : List Text} (nonempty : parts ≠ []) :
    (join separator parts).length + 1 =
      (parts.map List.length).sum + parts.length := by
  rcases List.exists_cons_of_ne_nil nonempty with ⟨part, rest, rfl⟩
  exact length_join separator part rest

/-- A text without line breaks. -/
def Unbroken (text : Text) : Prop :=
  ∀ character ∈ text, isLineBreak character = false

theorem splitLinesFrom_unbroken
    {text : Text} (unbroken : Unbroken text) (line : Text) :
    splitLinesFrom line text =
      if text.reverse ++ line = [] then [] else [line.reverse ++ text] := by
  induction text generalizing line with
  | nil =>
      rw [splitLinesFrom]
      simp
  | cons head rest induction =>
      rw [Unbroken, List.forall_mem_cons] at unbroken
      rw [splitLinesFrom_inside unbroken.1, induction unbroken.2]
      simp

theorem splitLinesFrom_unbroken_append
    {text : Text} (unbroken : Unbroken text) (line rest : Text) :
    splitLinesFrom line (text ++ '\n' :: rest) =
      (line.reverse ++ text) :: splitLinesFrom [] rest := by
  induction text generalizing line with
  | nil =>
      rw [List.nil_append,
        splitLinesFrom_break isLineBreak_of_newline _ _ (by simp)]
      simp
  | cons head tail induction =>
      rw [Unbroken, List.forall_mem_cons] at unbroken
      rw [List.cons_append, splitLinesFrom_inside unbroken.1,
        induction unbroken.2]
      simp

/-- Lines that are joined are split again. -/
theorem splitLines_join
    {part : Text} {rest : List Text}
    (unbroken : ∀ line ∈ part :: rest, Unbroken line ∧ line ≠ []) :
    splitLines (join '\n' (part :: rest)) = part :: rest := by
  induction rest generalizing part with
  | nil =>
      rw [List.forall_mem_singleton] at unbroken
      rw [join_singleton, splitLines, splitLinesFrom_unbroken unbroken.1]
      simp [unbroken.2]
  | cons next rest induction =>
      rw [List.forall_mem_cons] at unbroken
      rw [join_cons_cons, splitLines,
        splitLinesFrom_unbroken_append unbroken.1.1]
      exact congrArg (part :: ·) (induction unbroken.2)

/-- Lines have no breaks, and do not take more than the text. -/
theorem splitLinesFrom_spec
    (line text : Text) (unbroken : Unbroken line) :
    (∀ piece ∈ splitLinesFrom line text, Unbroken piece) ∧
      ((splitLinesFrom line text).map List.length).sum +
          (splitLinesFrom line text).length ≤
        line.length + text.length + 1 := by
  have reversed : ∀ part : Text, Unbroken part → Unbroken part.reverse :=
    fun part free character member =>
      free character (List.mem_reverse.1 member)
  have ending : Unbroken [] := fun _ impossible => by cases impossible
  induction line, text using splitLinesFrom.induct with
  | case1 => simp [splitLinesFrom]
  | case2 line nonempty =>
      rw [splitLinesFrom, if_neg nonempty, List.forall_mem_singleton]
      exact ⟨reversed line unbroken, by simp⟩
  | case3 line rest induction =>
      rcases induction ending with ⟨pieces, size⟩
      rw [splitLinesFrom, List.forall_mem_cons]
      refine ⟨⟨reversed line unbroken, pieces⟩, ?_⟩
      simp only [List.map_cons, List.sum_cons, List.length_cons,
        List.length_reverse, List.length_nil] at size ⊢
      omega
  | case4 line character rest alone ends induction =>
      rcases induction ending with ⟨pieces, size⟩
      rw [splitLinesFrom, if_pos ends, List.forall_mem_cons]
      · refine ⟨⟨reversed line unbroken, pieces⟩, ?_⟩
        simp only [List.map_cons, List.sum_cons, List.length_cons,
          List.length_reverse, List.length_nil] at size ⊢
        omega
      · exact alone
  | case5 line character rest alone inside induction =>
      rw [Bool.not_eq_true] at inside
      rcases
        induction (List.forall_mem_cons.2 ⟨inside, unbroken⟩) with
        ⟨pieces, size⟩
      rw [splitLinesFrom_inside inside]
      refine ⟨pieces, ?_⟩
      simp only [List.length_cons] at size ⊢
      omega

theorem not_mem_of_mem_splitOn
    {separator : Char} {text part : Text}
    (member : part ∈ text.splitOn separator) : separator ∉ part := by
  induction text generalizing part with
  | nil =>
      rw [List.splitOn_nil, List.mem_singleton] at member
      rw [member]
      exact List.not_mem_nil
  | cons head rest induction =>
      rw [List.splitOn_cons_eq_if_modifyHead] at member
      split_ifs at member with same
      · rcases List.mem_cons.1 member with rfl | inRest
        · exact List.not_mem_nil
        · exact induction inRest
      · cases pieces : rest.splitOn separator with
        | nil => exact absurd pieces (List.splitOn_ne_nil _ _)
        | cons first others =>
            rw [pieces, List.modifyHead_cons] at member
            rw [pieces] at induction
            rcases List.mem_cons.1 member with rfl | inOthers
            · rw [List.mem_cons, not_or]
              refine ⟨?_, induction List.mem_cons_self⟩
              rintro rfl
              exact same (beq_self_eq_true _)
            · exact induction (List.mem_cons_of_mem _ inOthers)

end Lines

/-! ## Numbers -/

section Numbers

variable {other : Char → Option Nat}

/-- `int` of ASCII digits. -/
theorem int_of_digits
    {text : Text} (digits : ∀ character ∈ text, character.isDigit = true) :
    int other text = Nat.ofDigitChars 10 text 0 := by
  have every :
      ∀ (sofar : Nat),
        text.foldl
            (fun sofar character =>
              10 * sofar + (digitValue other character).getD 0)
            sofar =
          Nat.ofDigitChars 10 text sofar := by
    induction text with
    | nil =>
        intro sofar
        rw [List.foldl_nil, Nat.ofDigitChars_nil]
    | cons head rest induction =>
        intro sofar
        rw [List.forall_mem_cons] at digits
        rw [List.foldl_cons, Nat.ofDigitChars_cons, induction digits.2,
          digitValue, if_pos digits.1, Option.getD_some]
  exact every 0

theorem isDecimal_of_digits
    {text : Text} (nonempty : text ≠ [])
    (digits : ∀ character ∈ text, character.isDigit = true) :
    isDecimal other text = true := by
  rw [isDecimal, Bool.and_eq_true, List.all_eq_true]
  refine ⟨by simpa using nonempty, fun character member => ?_⟩
  rw [digitValue, if_pos (digits character member)]
  rfl

theorem digits_of_isUnsigned
    {text : Text} (unsigned : isUnsigned text = true) :
    text ≠ [] ∧ ∀ character ∈ text, character.isDigit = true := by
  cases text with
  | nil => cases unsigned
  | cons first rest =>
      rw [isUnsigned] at unsigned
      refine ⟨List.cons_ne_nil _ _, List.forall_mem_cons.2 ?_⟩
      split_ifs at unsigned with zero
      · rw [List.isEmpty_iff] at unsigned
        rw [unsigned, zero]
        exact ⟨by decide, by simp⟩
      · simp only [Bool.and_eq_true, List.all_eq_true] at unsigned
        exact ⟨unsigned.1.1, unsigned.2⟩

theorem digits_decimal (value : Nat) :
    decimal value ≠ [] ∧
      ∀ character ∈ decimal value, character.isDigit = true :=
  ⟨List.ne_nil_of_length_pos Nat.length_toDigits_pos,
    fun _ member => JsonText.isDigit_of_mem_toDigits member⟩

/-- A positive number of at most twenty digits is unsigned. -/
theorem isUnsigned_decimal
    {value : Nat} (positive : 0 < value) (small : value ≤ 2 ^ 64 - 1) :
    isUnsigned (decimal value) = true := by
  have short : (decimal value).length ≤ 20 :=
    Nat.toDigits_length 10 value 20 (by decide) (by omega)
  cases shape : decimal value with
  | nil => exact absurd shape (digits_decimal value).1
  | cons first rest =>
      have digits := (digits_decimal value).2
      rw [shape, List.forall_mem_cons] at digits
      have nonzero : first ≠ '0' := by
        rintro rfl
        apply JsonText.head_toDigits_ne_zero positive
        rw [← decimal, shape, List.head?_cons]
      rw [isUnsigned, if_neg nonzero]
      rw [shape, List.length_cons] at short
      simp only [Bool.and_eq_true, List.all_eq_true, decide_eq_true_eq]
      exact ⟨⟨digits.1, by omega⟩, digits.2⟩

theorem ofDigitChars_decimal (value : Nat) :
    Nat.ofDigitChars 10 (decimal value) 0 = value :=
  Nat.ofDigitChars_ten_toDigits

/-- A number is printed in no more digits than it was read from. -/
theorem length_decimal_le
    {text : Text} (nonempty : text ≠ [])
    (digits : ∀ character ∈ text, character.isDigit = true) :
    (decimal (Nat.ofDigitChars 10 text 0)).length ≤ text.length := by
  have bound :
      ∀ sofar : Nat,
        Nat.ofDigitChars 10 text sofar < (sofar + 1) * 10 ^ text.length := by
    clear nonempty
    induction text with
    | nil =>
        intro sofar
        simp
    | cons head rest induction =>
        intro sofar
        rw [List.forall_mem_cons] at digits
        have digit : head.toNat - '0'.toNat ≤ 9 := by
          have range := digits.1
          rw [Char.isDigit, Bool.and_eq_true, decide_eq_true_eq,
            decide_eq_true_eq] at range
          have upper : head.toNat ≤ 57 := range.2
          have zero : '0'.toNat = 48 := rfl
          omega
        rw [Nat.ofDigitChars_cons]
        calc
          Nat.ofDigitChars 10 rest
                (10 * sofar + (head.toNat - '0'.toNat)) <
              (10 * sofar + (head.toNat - '0'.toNat) + 1) *
                10 ^ rest.length := induction digits.2 _
          _ ≤ ((sofar + 1) * 10) * 10 ^ rest.length :=
              Nat.mul_le_mul_right _ (by omega)
          _ = (sofar + 1) * 10 ^ (head :: rest).length := by
              rw [List.length_cons, pow_succ]
              ring
  have total := bound 0
  rw [Nat.zero_add, Nat.one_mul] at total
  exact
    Nat.toDigits_length 10 _ text.length (List.length_pos_of_ne_nil nonempty)
      total

end Numbers

/-! ## Paths of cgroups -/

section Paths

theorem cgroupPath_eq_ok_iff {value path : Text} :
    cgroupPath value = .ok path ↔
      (hierarchy ++ ['/']).isPrefixOf value = true ∧ '\n' ∉ value ∧
        '\r' ∉ value ∧ ['.', '.'] ∉ (value.drop 3).splitOn '/' ∧
        isPath (value.drop 3) = true ∧
        path = withoutSlashes (value.drop 3) := by
  simp only [cgroupPath, bind_eq_ok_iff, refuseIf_eq_ok_iff, pure_eq_ok_iff,
    not_or, Bool.not_eq_false]
  constructor
  · rintro ⟨_, ⟨start, feed, turn⟩, _, ⟨parts, plain⟩, rfl⟩
    exact ⟨start, feed, turn, parts, plain, rfl⟩
  · rintro ⟨start, feed, turn, parts, plain, rfl⟩
    exact ⟨(), ⟨start, feed, turn⟩, (), ⟨parts, plain⟩, rfl⟩

theorem isPath_iff {path : Text} :
    isPath path = true ↔
      path.head? = some '/' ∧
        ∀ character ∈ path, isPathCharacter character = true := by
  cases path with
  | nil => simp [isPath]
  | cons head rest =>
      rw [List.head?_cons, Option.some_inj, List.forall_mem_cons]
      constructor
      · intro plain
        unfold isPath at plain
        split at plain
        case h_1 rest same =>
          cases same
          exact ⟨rfl, by decide, List.all_eq_true.1 plain⟩
        case h_2 => cases plain
      · rintro ⟨rfl, _, others⟩
        exact List.all_eq_true.2 others

/-- A path is what is left, and slashes. -/
theorem withoutSlashes_spec {path : Text} (plain : isPath path = true) :
    isPath (withoutSlashes path) = true ∧
      withoutSlashes (withoutSlashes path) = withoutSlashes path ∧
      ∃ slashes, path = withoutSlashes path ++ slashes ∧
        ∀ character ∈ slashes, character = '/' := by
  rcases isPath_iff.1 plain with ⟨start, characters⟩
  rcases List.head?_eq_some_iff.1 start with ⟨tail, shape⟩
  have parts :
      path.rdropWhile (· = '/') ++ path.rtakeWhile (· = '/') = path :=
    List.rdropWhile_append_rtakeWhile
  have slashes :
      ∀ character ∈ path.rtakeWhile (· = '/'), character = '/' :=
    fun character member => by simpa using List.mem_rtakeWhile_imp member
  rw [withoutSlashes]
  by_cases empty : path.rdropWhile (· = '/') = []
  · rw [if_pos empty]
    rw [empty, List.nil_append] at parts
    rw [parts, shape, List.forall_mem_cons] at slashes
    exact
      ⟨by decide, by decide, tail, by rw [shape]; rfl, slashes.2⟩
  · rw [if_neg empty]
    refine ⟨isPath_iff.2 ⟨?_, ?_⟩, ?_, _, parts.symm, slashes⟩
    · rcases List.exists_cons_of_ne_nil empty with ⟨head, rest, inner⟩
      rw [inner, List.cons_append, shape] at parts
      rw [inner, List.head?_cons, (List.cons.inj parts).1]
    · intro character member
      apply characters
      rw [← parts]
      exact List.mem_append_left _ member
    · rw [withoutSlashes, List.rdropWhile_idempotent, if_neg empty]

theorem not_mem_of_isPath
    {path : Text} (plain : isPath path = true) {character : Char}
    (odd : isPathCharacter character = false) : character ∉ path := by
  intro member
  have even := (isPath_iff.1 plain).2 character member
  rw [odd] at even
  cases even

/-- What `cgroup_path` returns, it reads again. -/
theorem cgroupPath_again
    {value path : Text} (read : cgroupPath value = .ok path) :
    isPath path = true ∧ path.length + 3 ≤ value.length ∧
      cgroupPath (hierarchy ++ path) = .ok path := by
  rcases cgroupPath_eq_ok_iff.1 read with
    ⟨start, feed, turn, parts, plain, rfl⟩
  rcases withoutSlashes_spec plain with
    ⟨settled, again, slashes, split, all⟩
  have long : 4 ≤ value.length :=
    (List.isPrefixOf_iff_prefix.1 start).length_le
  have size : (withoutSlashes (value.drop 3)).length ≤ value.length - 3 := by
    rw [← List.length_drop]
    conv_rhs => rw [split]
    rw [List.length_append]
    exact Nat.le_add_right _ _
  have noDots : ['.', '.'] ∉ (withoutSlashes (value.drop 3)).splitOn '/' := by
    intro member
    apply parts
    rw [split]
    cases slashes with
    | nil => rwa [List.append_nil]
    | cons slash others =>
        rw [all slash List.mem_cons_self, List.splitOn_append_cons_self]
        exact List.mem_append_left _ member
  generalize withoutSlashes (value.drop 3) = path at settled again size noDots
  have drops : (hierarchy ++ path).drop 3 = path := rfl
  have absent :
      ∀ character, isPathCharacter character = false →
        character ∉ hierarchy → character ∉ hierarchy ++ path := by
    intro character odd outside member
    rcases List.mem_append.1 member with inside | inside
    · exact outside inside
    · exact not_mem_of_isPath settled odd inside
  refine
    ⟨settled, by omega, cgroupPath_eq_ok_iff.2
      ⟨?_, absent _ (by decide) (by decide), absent _ (by decide) (by decide),
        by rwa [drops], by rwa [drops], by rw [drops, again]⟩⟩
  rcases List.head?_eq_some_iff.1 (isPath_iff.1 settled).1 with ⟨rest, rfl⟩
  rfl

end Paths

/-! ## The projection -/

section Projection

/-- White space at the end of a text, behind another character. -/
theorem rdropWhile_append
    {front back : Text} (visible : back.rdropWhile isSpace ≠ []) :
    (front ++ back).rdropWhile isSpace =
      front ++ back.rdropWhile isSpace := by
  unfold List.rdropWhile at visible ⊢
  rw [List.reverse_append, List.dropWhile_append]
  split_ifs with blank
  · rw [List.isEmpty_iff] at blank
    rw [blank] at visible
    exact absurd rfl visible
  · rw [List.reverse_append, List.reverse_reverse]

theorem rdropWhile_cons
    {head : Char} (visible : isSpace head = false) (rest : Text) :
    (head :: rest).rdropWhile isSpace = head :: rest.rdropWhile isSpace := by
  unfold List.rdropWhile
  rw [List.reverse_cons, List.dropWhile_append]
  split_ifs with blank
  · rw [List.isEmpty_iff] at blank
    rw [blank, List.dropWhile_cons_of_neg (by simp [visible])]
    rfl
  · rw [List.reverse_append, List.reverse_singleton]
    rfl

/-- The fields without the white space that `strip` removes. -/
def trimLast : List Fields → List Fields
  | [] => []
  | [last] =>
      [{ last with namespaceId := last.namespaceId.rdropWhile isSpace }]
  | first :: next :: rest => first :: trimLast (next :: rest)

theorem project_eq (fields : Fields) :
    project fields =
      fields.pid ++ '|' :: (fields.startTicks ++ '|' ::
        (fields.cgroup ++ '|' :: fields.namespaceId)) := by
  rw [project, join_cons_cons, join_cons_cons, join_cons_cons,
    join_singleton]

theorem rdropWhile_project (fields : Fields) :
    (project fields).rdropWhile isSpace =
      project
        { fields with
          namespaceId := fields.namespaceId.rdropWhile isSpace } := by
  have bar : isSpace '|' = false := by
    decide
  have inner := rdropWhile_cons bar fields.namespaceId
  have step (front : Text) {back result : Text}
      (known : back.rdropWhile isSpace = '|' :: result) :
      (front ++ back).rdropWhile isSpace = front ++ '|' :: result := by
    rw [rdropWhile_append (by rw [known]; exact List.cons_ne_nil _ _), known]
  have cgroup := step fields.cgroup inner
  have ticks :=
    step fields.startTicks
      ((rdropWhile_cons bar _).trans (congrArg _ cgroup))
  have pid :=
    step fields.pid ((rdropWhile_cons bar _).trans (congrArg _ ticks))
  rw [project_eq, project_eq, pid]

theorem project_ne_nil (fields : Fields) : project fields ≠ [] := by
  rw [project_eq]
  simp

theorem join_ne_nil
    {separator : Char} {part : Text} {rest : List Text}
    (nonempty : part ≠ []) : join separator (part :: rest) ≠ [] := by
  cases rest with
  | nil => simpa using nonempty
  | cons next rest =>
      rw [join_cons_cons]
      simp

theorem rdropWhile_join (first : Fields) (rest : List Fields) :
    (join '\n' ((first :: rest).map project)).rdropWhile isSpace =
      join '\n' ((trimLast (first :: rest)).map project) := by
  induction rest generalizing first with
  | nil =>
      rw [trimLast, List.map_singleton, List.map_singleton, join_singleton,
        join_singleton, rdropWhile_project]
  | cons next rest induction =>
      have inner := induction next
      have others : ∃ head tail, trimLast (next :: rest) = head :: tail := by
        cases rest with
        | nil => exact ⟨_, _, rfl⟩
        | cons after more => exact ⟨_, _, rfl⟩
      rcases others with ⟨head, tail, shape⟩
      have visible :
          (join '\n' ((next :: rest).map project)).rdropWhile isSpace ≠
            [] := by
        rw [inner, shape]
        exact join_ne_nil (project_ne_nil head)
      rw [trimLast, shape, List.map_cons, List.map_cons, List.map_cons,
        List.map_cons, join_cons_cons, join_cons_cons, ← List.map_cons,
        ← List.map_cons, ← shape, ← inner]
      have whole :
          ((project first ++ ['\n']) ++
              join '\n' ((next :: rest).map project)).rdropWhile isSpace =
            (project first ++ ['\n']) ++
              (join '\n' ((next :: rest).map project)).rdropWhile isSpace :=
        rdropWhile_append visible
      simpa using whole

/-- Fields that a line was split into, with their numbers checked. -/
structure Clean (fields : Fields) : Prop where
  parts :
    ∀ part ∈
      [fields.pid, fields.startTicks, fields.cgroup, fields.namespaceId],
      '|' ∉ part ∧ Unbroken part
  pid : isUnsigned fields.pid = true
  startTicks : isUnsigned fields.startTicks = true

theorem Clean.trim
    {fields : Fields} (clean : Clean fields) :
    Clean
      { fields with
        namespaceId := fields.namespaceId.rdropWhile isSpace } := by
  refine ⟨?_, clean.pid, clean.startTicks⟩
  have parts := clean.parts
  simp only [List.forall_mem_cons] at parts ⊢
  rcases parts with ⟨pid, startTicks, cgroup, ⟨bar, unbroken⟩, none⟩
  have inside := (List.rdropWhile_prefix isSpace
    (l := fields.namespaceId)).subset
  exact
    ⟨pid, startTicks, cgroup,
      ⟨fun member => bar (inside member),
        fun character member => unbroken character (inside member)⟩, none⟩

/-- What trimming keeps holds of the trimmed lines. -/
theorem forall_trimLast
    {Holds : Fields → Prop}
    (keeps :
      ∀ line, Holds line →
        Holds
          { line with
            namespaceId := line.namespaceId.rdropWhile isSpace })
    {fields : List Fields} (each : ∀ line ∈ fields, Holds line) :
    ∀ line ∈ trimLast fields, Holds line := by
  induction fields using trimLast.induct with
  | case1 => exact each
  | case2 last =>
      rw [List.forall_mem_singleton] at each
      exact List.forall_mem_singleton.2 (keeps last each)
  | case3 first next rest induction =>
      rw [List.forall_mem_cons] at each
      exact List.forall_mem_cons.2 ⟨each.1, induction each.2⟩

theorem Clean.unbroken_project
    {fields : Fields} (clean : Clean fields) : Unbroken (project fields) := by
  have parts := clean.parts
  simp only [List.forall_mem_cons] at parts
  rcases parts with ⟨pid, startTicks, cgroup, namespaceId, _⟩
  have bar : isLineBreak '|' = false := by
    decide
  intro character member
  rw [project_eq] at member
  simp only [List.mem_append, List.mem_cons] at member
  rcases member with inPid | rfl | inTicks | rfl | inCgroup | rfl | inId
  · exact pid.2 character inPid
  · exact bar
  · exact startTicks.2 character inTicks
  · exact bar
  · exact cgroup.2 character inCgroup
  · exact bar
  · exact namespaceId.2 character inId

theorem Clean.splitOn_project
    {fields : Fields} (clean : Clean fields) :
    (project fields).splitOn '|' =
      [fields.pid, fields.startTicks, fields.cgroup, fields.namespaceId] :=
  List.splitOn_intercalate '|' (fun part member => (clean.parts part member).1)
    (List.cons_ne_nil _ _)

theorem isSpace_of_isDigit
    {character : Char} (digit : character.isDigit = true) :
    isSpace character = false := by
  rw [Char.isDigit, Bool.and_eq_true, decide_eq_true_eq,
    decide_eq_true_eq] at digit
  have lower : 48 ≤ character.toNat := digit.1
  have upper : character.toNat ≤ 57 := digit.2
  simp only [isSpace, Bool.or_eq_false_iff, Bool.and_eq_false_iff,
    decide_eq_false_iff_not]
  omega

/-- The lines of the projection, after `strip`. -/
theorem splitLines_strip_project
    {first : Fields} {rest : List Fields}
    (clean : ∀ line ∈ first :: rest, Clean line) :
    splitLines (strip (join '\n' ((first :: rest).map project))) =
      (trimLast (first :: rest)).map project := by
  have start :
      ∃ head tail, join '\n' ((first :: rest).map project) = head :: tail ∧
        isSpace head = false := by
    rcases digits_of_isUnsigned (clean first List.mem_cons_self).pid with
      ⟨nonempty, digits⟩
    rcases List.exists_cons_of_ne_nil nonempty with ⟨head, tail, shape⟩
    rw [shape, List.forall_mem_cons] at digits
    have visible := isSpace_of_isDigit digits.1
    cases rest with
    | nil =>
        rw [List.map_singleton, join_singleton, project_eq, shape,
          List.cons_append]
        exact ⟨head, _, rfl, visible⟩
    | cons next rest =>
        rw [List.map_cons, List.map_cons, join_cons_cons, project_eq, shape,
          List.cons_append, List.cons_append]
        exact ⟨head, _, rfl, visible⟩
  have stripped :
      strip (join '\n' ((first :: rest).map project)) =
        join '\n' ((trimLast (first :: rest)).map project) := by
    rw [← rdropWhile_join]
    rcases start with ⟨head, tail, shape, visible⟩
    rw [shape]
    change ((head :: tail).dropWhile isSpace).rdropWhile isSpace = _
    rw [List.dropWhile_cons_of_neg (by simp [visible])]
  have trimmed := forall_trimLast (fun _ line => line.trim) clean
  rw [stripped]
  cases shape : trimLast (first :: rest) with
  | nil => cases rest <;> cases shape
  | cons head tail =>
      rw [shape] at trimmed
      rw [List.map_cons]
      apply splitLines_join
      rw [← List.map_cons, List.forall_mem_map]
      intro line member
      exact ⟨(trimmed line member).unbroken_project, project_ne_nil line⟩

/-- The number that ASCII digits write. -/
def number (text : Text) : Nat :=
  Nat.ofDigitChars 10 text 0

/-- A worker that some fields describe. -/
def Describes (parent : Text) (fields : Fields) (worker : Worker) : Prop :=
  ∃ path, cgroupPath fields.cgroup = .ok path ∧
    isNamespace fields.namespaceId = true ∧ within parent path = true ∧
    1 < number fields.pid ∧ 0 < number fields.startTicks ∧
    worker =
      ⟨number fields.pid, number fields.startTicks, path, fields.namespaceId⟩

theorem parseWorker_project
    {other : Char → Option Nat} {parent : Text} {fields : Fields}
    (clean : Clean fields) {worker : Worker} :
    parseWorker other parent (project fields) = .ok worker ↔
      Describes parent fields worker := by
  rcases digits_of_isUnsigned clean.pid with ⟨pidSome, pidDigits⟩
  rcases digits_of_isUnsigned clean.startTicks with ⟨ticksSome, ticksDigits⟩
  rw [parseWorker, clean.splitOn_project]
  simp only [bind_eq_ok_iff, refuseIf_eq_ok_iff, pure_eq_ok_iff, not_or,
    isDecimal_of_digits pidSome pidDigits,
    isDecimal_of_digits ticksSome ticksDigits, int_of_digits pidDigits,
    int_of_digits ticksDigits, Bool.not_eq_false]
  constructor
  · rintro ⟨_, ⟨_, _, pid, ticks⟩, path, read, _, ⟨isId, inside⟩, rfl⟩
    exact
      ⟨path, read, isId, inside, Nat.lt_of_not_le pid,
        Nat.pos_of_ne_zero ticks, rfl⟩
  · rintro ⟨path, read, isId, inside, pid, ticks, rfl⟩
    exact
      ⟨(), ⟨by simp, by simp, Nat.not_le_of_lt pid, ticks.ne'⟩, path, read,
        (), ⟨isId, inside⟩, rfl⟩

/-- What `parse_workers` makes of a projection. -/
theorem parseWorkers_project
    {other : Char → Option Nat} {first : Fields} {rest : List Fields}
    (clean : ∀ line ∈ first :: rest, Clean line)
    {serverCgroup namespaceId : Text} {found : List Worker} :
    parseWorkers other (join '\n' ((first :: rest).map project)) serverCgroup
          namespaceId =
        .ok found ↔
      ∃ parent, cgroupPath serverCgroup = .ok parent ∧
        isNamespace namespaceId = true ∧
        List.Forall₂ (Describes parent) (trimLast (first :: rest)) found ∧
        found.length ≤ 4 ∧ (found.map Worker.pid).Nodup := by
  have trimmed := forall_trimLast (fun _ line => line.trim) clean
  have each (parent : Text) :
      ((trimLast (first :: rest)).map project).mapM
            (parseWorker other parent) =
          .ok found ↔
        List.Forall₂ (Describes parent) (trimLast (first :: rest)) found := by
    rw [mapM_eq_ok_iff, List.forall₂_map_left_iff]
    generalize trimLast (first :: rest) = lines at trimmed
    constructor
    · intro related
      induction related with
      | nil => exact .nil
      | cons head tail induction =>
          rw [List.forall_mem_cons] at trimmed
          exact
            .cons ((parseWorker_project trimmed.1).1 head)
              (induction trimmed.2)
    · intro related
      induction related with
      | nil => exact .nil
      | cons head tail induction =>
          rw [List.forall_mem_cons] at trimmed
          exact
            .cons ((parseWorker_project trimmed.1).2 head)
              (induction trimmed.2)
  simp only [parseWorkers, splitLines_strip_project clean, bind_eq_ok_iff,
    refuseIf_eq_ok_iff, pure_eq_ok_iff, not_or, not_not, not_lt,
    Bool.not_eq_false]
  constructor
  · rintro ⟨parent, read, _, isId, _, related, _, ⟨few, distinct⟩, rfl⟩
    exact ⟨parent, read, isId, (each parent).1 related, few, distinct⟩
  · rintro ⟨parent, read, isId, related, few, distinct⟩
    exact
      ⟨parent, read, (), isId, found, (each parent).2 related, (),
        ⟨few, distinct⟩, rfl⟩

end Projection

/-! ## Observed rows -/

section Observation

variable {other : Char → Option Nat}

theorem mountUnsigned_eq_ok_iff {value : Text} {maximum result : Nat} :
    mountUnsigned value maximum = .ok result ↔
      isUnsigned value = true ∧ number value ≤ maximum ∧
        0 < number value ∧ result = number value := by
  simp only [mountUnsigned, bind_eq_ok_iff, refuseIf_eq_ok_iff,
    pure_eq_ok_iff, Bool.not_eq_false, not_or, not_lt]
  constructor
  · rintro ⟨_, unsigned, _, ⟨bounded, nonzero⟩, rfl⟩
    exact ⟨unsigned, bounded, Nat.pos_of_ne_zero nonzero, rfl⟩
  · rintro ⟨unsigned, bounded, positive, rfl⟩
    exact ⟨(), unsigned, (), ⟨bounded, positive.ne'⟩, rfl⟩

/-- The numbers of a line are positive and within their bounds. -/
structure Bounded (fields : Fields) : Prop where
  pid :
    isUnsigned fields.pid = true ∧ number fields.pid ≤ 2 ^ 32 - 1 ∧
      0 < number fields.pid
  startTicks :
    isUnsigned fields.startTicks = true ∧
      number fields.startTicks ≤ 2 ^ 64 - 1 ∧ 0 < number fields.startTicks

theorem checkNumbers_eq_ok_iff {fields : Fields} {done : Unit} :
    checkNumbers fields = .ok done ↔ Bounded fields := by
  simp only [checkNumbers, bind_eq_ok_iff, mountUnsigned_eq_ok_iff,
    pure_eq_ok_iff]
  constructor
  · rintro ⟨_, ⟨unsigned, bounded, positive, _⟩, _,
      ⟨ticks, ticksBounded, ticksPositive, _⟩, _⟩
    exact
      ⟨⟨unsigned, bounded, positive⟩, ⟨ticks, ticksBounded, ticksPositive⟩⟩
  · rintro ⟨⟨unsigned, bounded, positive⟩, ticks, ticksBounded, ticksPositive⟩
    exact
      ⟨_, ⟨unsigned, bounded, positive, rfl⟩, _,
        ⟨ticks, ticksBounded, ticksPositive, rfl⟩, trivial⟩

/-- The length of the line with these fields. -/
def lineSize (fields : Fields) : Nat :=
  fields.pid.length + fields.startTicks.length + fields.cgroup.length +
    fields.namespaceId.length + 8

theorem readFields_eq_some
    {line : Text} {fields : Fields} (read : readFields line = some fields) :
    line.length = lineSize fields ∧
      ∀ part ∈
        [fields.pid, fields.startTicks, fields.cgroup, fields.namespaceId],
        '|' ∉ part ∧ part ⊆ line := by
  have whole : join '|' (line.splitOn '|') = line :=
    List.intercalate_splitOn '|'
  have apart : ∀ part ∈ line.splitOn '|', '|' ∉ part :=
    fun part member => not_mem_of_mem_splitOn member
  unfold readFields at read
  split at read
  case h_2 => cases read
  case h_1 pid startTicks uid cgroup namespaceId shape =>
    split_ifs at read with user
    cases read
    rw [shape] at whole apart
    have pieces := whole
    rw [join_cons_cons, join_cons_cons, join_cons_cons, join_cons_cons,
      join_singleton] at pieces
    rw [← pieces, user, lineSize]
    simp only [List.forall_mem_cons] at apart ⊢
    rcases apart with ⟨one, two, _, four, five, none⟩
    refine ⟨?_, ⟨one, ?_⟩, ⟨two, ?_⟩, ⟨four, ?_⟩, ⟨five, ?_⟩, by simp⟩
    · simp only [List.length_append, List.length_cons, List.length_nil]
      omega
    all_goals
      intro character member
      simp only [List.mem_append, List.mem_cons, member, true_or, or_true]

/-- The rows of a mapM in `Option`. -/
theorem mapM_readFields
    {lines : List Text} {fields : List Fields} :
    lines.mapM readFields = some fields ↔
      List.Forall₂ (fun line row => readFields line = some row) lines
        fields := by
  induction lines generalizing fields with
  | nil =>
      rw [List.mapM_nil, List.forall₂_nil_left_iff]
      exact ⟨fun equal => (Option.some.inj equal).symm, fun equal => by
        rw [equal]; rfl⟩
  | cons line rest induction =>
      rw [List.mapM_cons]
      constructor
      · intro read
        rcases Option.bind_eq_some_iff.1 read with ⟨row, head, read⟩
        rcases Option.bind_eq_some_iff.1 read with ⟨rows, tail, read⟩
        cases read
        exact .cons head (induction.1 tail)
      · intro related
        cases related with
        | @cons _ row _ rows head tail =>
            rw [head, induction.2 tail]
            rfl

/-- What `parse_transports` says of its result. -/
theorem parseTransports_eq_ok_iff
    {text serverCgroup namespaceId : Text} {allowEmpty : Bool}
    {rows : List Transport} :
    parseTransports other text serverCgroup namespaceId allowEmpty =
        .ok rows ↔
      (utf8 (String.ofList text)).length ≤ 8192 ∧
        (splitLines text = [] → allowEmpty = true) ∧
        ∃ fields,
          List.Forall₂ (fun line row => readFields line = some row)
              (splitLines text) fields ∧
            (∀ line ∈ fields, Bounded line) ∧
            ∃ workers,
              parseWorkers other (join '\n' (fields.map project))
                    serverCgroup namespaceId =
                  .ok workers ∧
                (∀ worker ∈ workers, worker.namespaceId = namespaceId) ∧
                rows = workers.map Worker.transport := by
  simp only [parseTransports, bind_eq_ok_iff, refuseIf_eq_ok_iff, not_lt,
    not_and, Bool.not_eq_false, ← mapM_readFields]
  constructor
  · rintro ⟨_, small, _, some, parsed⟩
    refine ⟨small, some, ?_⟩
    split at parsed
    case h_1 => cases parsed
    case h_2 fields read =>
      simp only [bind_eq_ok_iff, refuseIf_eq_ok_iff, pure_eq_ok_iff]
        at parsed
      rcases parsed with ⟨_, numbers, workers, found, _, same, rfl⟩
      refine ⟨fields, read, ?_, workers, found, ?_, rfl⟩
      · intro line member
        rcases mapM_eq_ok_exists numbers member with ⟨done, checked⟩
        exact checkNumbers_eq_ok_iff.1 checked
      · simpa using same
  · rintro ⟨small, some, fields, read, bounded, workers, found, same, rfl⟩
    refine ⟨(), small, (), some, ?_⟩
    have numbers :
        fields.mapM checkNumbers = .ok (fields.map fun _ => ()) :=
      mapM_eq_ok_of_forall fun line member =>
        checkNumbers_eq_ok_iff.2 (bounded line member)
    rw [read]
    simp only [bind_eq_ok_iff, refuseIf_eq_ok_iff, pure_eq_ok_iff]
    exact ⟨_, numbers, workers, found, (), by simpa using same, rfl⟩

/-- A row that can be printed and read again. -/
structure Valid (namespaceId : Text) (row : Transport) : Prop where
  pid : 1 < row.pid ∧ row.pid ≤ 2 ^ 32 - 1
  startTicks : 0 < row.startTicks ∧ row.startTicks ≤ 2 ^ 64 - 1
  path : isPath row.cgroup = true
  cgroup : cgroupPath (hierarchy ++ row.cgroup) = .ok row.cgroup
  same : row.namespaceId = namespaceId
  isId : isNamespace row.namespaceId = true
  uid : row.uid = 1000

/-- Rows that were observed together. -/
structure Observed (namespaceId : Text) (rows : List Transport) : Prop where
  valid : ∀ row ∈ rows, Valid namespaceId row
  few : rows.length ≤ 4
  distinct : (rows.map Transport.pid).Nodup
  small : (join '\n' (rows.map serialize)).length ≤ 8192

theorem sum_trimLast (fields : List Fields) :
    ((trimLast fields).map lineSize).sum ≤ (fields.map lineSize).sum := by
  induction fields using trimLast.induct with
  | case1 => simp [trimLast]
  | case2 last =>
      have shorter :=
        (List.rdropWhile_prefix isSpace
          (l := last.namespaceId)).length_le
      simp only [trimLast, List.map_singleton, List.sum_singleton, lineSize]
      omega
  | case3 first next rest induction =>
      rw [trimLast, List.map_cons, List.sum_cons, List.map_cons,
        List.sum_cons]
      exact Nat.add_le_add_left induction _

/-- A described worker is printed in no more than its line. -/
theorem length_serialize_le
    {parent : Text} {fields : Fields} {worker : Worker}
    (bounded : Bounded fields) (described : Describes parent fields worker) :
    (serialize worker.transport).length ≤ lineSize fields := by
  rcases described with ⟨path, read, _, _, _, _, rfl⟩
  rcases digits_of_isUnsigned bounded.pid.1 with ⟨pidSome, pidDigits⟩
  rcases digits_of_isUnsigned bounded.startTicks.1 with
    ⟨ticksSome, ticksDigits⟩
  have pid := length_decimal_le pidSome pidDigits
  have ticks := length_decimal_le ticksSome ticksDigits
  have shorter := (cgroupPath_again read).2.1
  rw [serialize, join_cons_cons, join_cons_cons, join_cons_cons,
    join_cons_cons, join_singleton, lineSize]
  simp only [Worker.transport, number, hierarchy, List.length_append,
    List.length_cons, List.length_nil]
  omega

theorem valid_of_describes
    {parent namespaceId : Text} {fields : Fields} {worker : Worker}
    (bounded : Bounded fields) (described : Describes parent fields worker)
    (same : worker.namespaceId = namespaceId) :
    Valid namespaceId worker.transport := by
  rcases described with ⟨path, read, isId, _, pid, ticks, rfl⟩
  rcases cgroupPath_again read with ⟨plain, _, again⟩
  exact
    ⟨⟨pid, bounded.pid.2.1⟩, ⟨ticks, bounded.startTicks.2.1⟩, plain, again,
      same, isId, rfl⟩

theorem exists_of_mem_right
    {Left Right : Type} {Related : Left → Right → Prop} {left : List Left}
    {right : List Right} (related : List.Forall₂ Related left right)
    {value : Right} (member : value ∈ right) :
    ∃ origin ∈ left, Related origin value := by
  induction related with
  | nil => cases member
  | @cons head other _ _ first _ induction =>
      rcases List.mem_cons.1 member with rfl | inRest
      · exact ⟨head, List.mem_cons_self, first⟩
      · rcases induction inRest with ⟨origin, there, holds⟩
        exact ⟨origin, List.mem_cons_of_mem _ there, holds⟩

/-- Sums over related members are ordered as the members are. -/
theorem sum_le_of_forall₂
    {Left Right : Type} {size : Left → Nat} {measure : Right → Nat}
    {left : List Left} {right : List Right}
    (related :
      List.Forall₂ (fun origin value => measure value ≤ size origin) left
        right) :
    (right.map measure).sum ≤ (left.map size).sum := by
  induction related with
  | nil => simp
  | cons head _ induction =>
      rw [List.map_cons, List.sum_cons, List.map_cons, List.sum_cons]
      exact Nat.add_le_add head induction

theorem length_trimLast (fields : List Fields) :
    (trimLast fields).length = fields.length := by
  induction fields using trimLast.induct with
  | case1 => rfl
  | case2 last => rfl
  | case3 first next rest induction =>
      rw [trimLast, List.length_cons, induction]
      rfl

theorem length_le_utf8 (text : Text) :
    text.length ≤ (utf8 (String.ofList text)).length := by
  rw [utf8_ofList]
  induction text with
  | nil => simp
  | cons head rest induction =>
      have one : 1 ≤ (String.utf8EncodeChar head).length := by
        rw [String.length_utf8EncodeChar]
        exact Char.utf8Size_pos head
      rw [List.flatMap_cons, List.length_append, List.length_cons]
      omega

/-- The lines of a text, as fields. -/
theorem clean_of_read
    {line : Text} {fields : Fields} (unbroken : Unbroken line)
    (read : readFields line = some fields) (bounded : Bounded fields) :
    Clean fields := by
  refine ⟨?_, bounded.pid.1, bounded.startTicks.1⟩
  intro part member
  rcases (readFields_eq_some read).2 part member with ⟨apart, inside⟩
  exact ⟨apart, fun character there => unbroken character (inside there)⟩

/-- What an observation gives. -/
theorem observed_of_parseTransports
    {text serverCgroup namespaceId : Text} {allowEmpty : Bool}
    {rows : List Transport} (nonempty : rows ≠ [])
    (parsed :
      parseTransports other text serverCgroup namespaceId allowEmpty =
        .ok rows) :
    Observed namespaceId rows := by
  rcases parseTransports_eq_ok_iff.1 parsed with
    ⟨small, _, fields, read, bounded, workers, found, same, rfl⟩
  have ending : Unbroken [] := fun _ impossible => by cases impossible
  rcases splitLinesFrom_spec [] text ending with ⟨unbroken, size⟩
  rw [← splitLines] at unbroken size
  cases fields with
  | nil =>
      simp only [parseWorkers, bind_eq_ok_iff, pure_eq_ok_iff] at found
      rcases found with ⟨_, _, _, _, none, mapped, _, _, rfl⟩
      cases mapped
      exact absurd rfl nonempty
  | cons first rest =>
      have clean : ∀ line ∈ first :: rest, Clean line := by
        intro fields member
        rcases exists_of_mem_right read member with ⟨line, there, isRead⟩
        exact
          clean_of_read (unbroken line there) isRead (bounded fields member)
      have trimmed :
          ∀ line ∈ trimLast (first :: rest), Bounded line :=
        forall_trimLast (fun _ line => ⟨line.pid, line.startTicks⟩) bounded
      rcases (parseWorkers_project clean).1 found with
        ⟨parent, _, _, related, few, distinct⟩
      refine ⟨?_, by simpa using few, ?_, ?_⟩
      · intro row member
        rcases List.mem_map.1 member with ⟨worker, inWorkers, rfl⟩
        rcases exists_of_mem_right related inWorkers with
          ⟨fields, inFields, described⟩
        exact
          valid_of_describes (trimmed fields inFields) described
            (same worker inWorkers)
      · rw [List.map_map]
        exact distinct
      · have printed :
            (((workers.map Worker.transport).map serialize).map
                List.length).sum ≤
              ((trimLast (first :: rest)).map lineSize).sum := by
          rw [List.map_map, List.map_map]
          apply sum_le_of_forall₂
          rw [List.forall₂_iff_zip] at related ⊢
          refine ⟨related.1, fun {line worker} member => ?_⟩
          exact
            length_serialize_le (trimmed line (List.of_mem_zip member).1)
              (related.2 member)
        have lines :
            ((first :: rest).map lineSize).sum ≤
              ((splitLines text).map List.length).sum := by
          apply sum_le_of_forall₂
          apply read.imp
          intro line fields isRead
          exact (readFields_eq_some isRead).1.ge
        have counted : workers.length = (splitLines text).length := by
          rw [← related.length_eq, length_trimLast, read.length_eq]
        have bytes := length_le_utf8 text
        have shorter := sum_trimLast (first :: rest)
        have whole :=
          length_join_of_ne_nil '\n'
            (show (workers.map Worker.transport).map serialize ≠ [] by
              simpa using nonempty)
        rw [List.length_map, List.length_map] at whole
        rw [List.length_nil] at size
        omega

end Observation

/-! ## Cancellation -/

section Cancellation

variable {other : Char → Option Nat} {namespaceId : Text}

/-- The fields of a printed row. -/
def fieldsOf (row : Transport) : Fields :=
  ⟨decimal row.pid, decimal row.startTicks, hierarchy ++ row.cgroup,
    row.namespaceId⟩

/-- The characters of printed rows, the bars apart. -/
def isPrinted (character : Char) : Bool :=
  isPathCharacter character || character = '[' || character = ']'

theorem printed_of_isDigit
    {character : Char} (digit : character.isDigit = true) :
    isPrinted character = true := by
  simp [isPrinted, isPathCharacter, Char.isAlphanum, digit]

theorem isNamespace_spec
    {text : Text} (isId : isNamespace text = true) :
    ∃ digits, digits ≠ [] ∧
      (∀ character ∈ digits, character.isDigit = true) ∧
      text = namespaceStart ++ digits ++ [']'] := by
  simp only [isNamespace, Bool.and_eq_true, List.all_eq_true,
    decide_eq_true_eq] at isId
  exact ⟨_, by simpa using isId.1.1, isId.1.2, isId.2⟩

/-- They are visible characters of ASCII, below the bar. -/
theorem code_of_printed
    {character : Char} (printed : isPrinted character = true) :
    45 ≤ character.toNat ∧ character.toNat ≤ 122 := by
  simp only [isPrinted, isPathCharacter, Char.isAlphanum, Char.isAlpha,
    Char.isUpper, Char.isLower, Char.isDigit, Bool.or_eq_true,
    Bool.and_eq_true, decide_eq_true_eq] at printed
  rcases printed with
    ((((((((upper | lower) | digit) | rfl) | rfl) | rfl) | rfl) | rfl) | rfl) |
      rfl
  · have low : 65 ≤ character.toNat := upper.1
    have high : character.toNat ≤ 90 := upper.2
    omega
  · have low : 97 ≤ character.toNat := lower.1
    have high : character.toNat ≤ 122 := lower.2
    omega
  · have low : 48 ≤ character.toNat := digit.1
    have high : character.toNat ≤ 57 := digit.2
    omega
  all_goals decide

theorem unbroken_of_printed
    {text : Text} (printed : ∀ character ∈ text, isPrinted character = true) :
    '|' ∉ text ∧ Unbroken text := by
  constructor
  · intro member
    exact absurd (code_of_printed (printed _ member)).2 (by decide)
  · intro character member
    have bounds := code_of_printed (printed character member)
    simp only [isLineBreak, Bool.or_eq_false_iff, Bool.and_eq_false_iff,
      decide_eq_false_iff_not]
    omega

theorem printed_fieldsOf
    {row : Transport} (valid : Valid namespaceId row) :
    ∀ part ∈
      [(fieldsOf row).pid, (fieldsOf row).startTicks, (fieldsOf row).cgroup,
        (fieldsOf row).namespaceId],
      ∀ character ∈ part, isPrinted character = true := by
  have ofPath :
      ∀ character ∈ row.cgroup, isPrinted character = true := by
    intro character member
    rw [isPrinted, (isPath_iff.1 valid.path).2 character member]
    rfl
  have ofStart :
      ∀ character ∈ namespaceStart, isPrinted character = true :=
    List.all_eq_true.1 (by decide)
  have ofId :
      ∀ character ∈ row.namespaceId, isPrinted character = true := by
    rcases isNamespace_spec valid.isId with ⟨digits, _, all, shape⟩
    rw [shape]
    intro character member
    rcases List.mem_append.1 member with inside | last
    · rcases List.mem_append.1 inside with start | digit
      · exact ofStart character start
      · exact printed_of_isDigit (all character digit)
    · rw [List.mem_singleton.1 last]
      decide
  have ofHierarchy :
      ∀ character ∈ hierarchy, isPrinted character = true :=
    List.all_eq_true.1 (by decide)
  simp only [List.forall_mem_cons]
  refine ⟨?_, ?_, ?_, ofId, by simp⟩
  · exact fun character member =>
      printed_of_isDigit ((digits_decimal row.pid).2 character member)
  · exact fun character member =>
      printed_of_isDigit ((digits_decimal row.startTicks).2 character member)
  · intro character member
    rcases List.mem_append.1 member with start | inPath
    · exact ofHierarchy character start
    · exact ofPath character inPath

theorem clean_fieldsOf
    {row : Transport} (valid : Valid namespaceId row) :
    Clean (fieldsOf row) ∧ Bounded (fieldsOf row) := by
  have small : row.pid ≤ 2 ^ 64 - 1 := by
    have bound := valid.pid.2
    omega
  have pid := isUnsigned_decimal (Nat.lt_of_succ_lt valid.pid.1) small
  have ticks :=
    isUnsigned_decimal valid.startTicks.1 valid.startTicks.2
  have pidNumber : number (fieldsOf row).pid = row.pid :=
    ofDigitChars_decimal row.pid
  have ticksNumber : number (fieldsOf row).startTicks = row.startTicks :=
    ofDigitChars_decimal row.startTicks
  refine ⟨⟨?_, pid, ticks⟩, ⟨pid, ?_⟩, ⟨ticks, ?_⟩⟩
  · intro part member
    exact unbroken_of_printed (printed_fieldsOf valid part member)
  · rw [pidNumber]
    exact ⟨valid.pid.2, Nat.lt_of_succ_lt valid.pid.1⟩
  · rw [ticksNumber]
    exact ⟨valid.startTicks.2, valid.startTicks.1⟩

/-- A printed row is read as its fields. -/
theorem readFields_serialize
    {row : Transport} (valid : Valid namespaceId row) :
    readFields (serialize row) = some (fieldsOf row) := by
  have parts := (clean_fieldsOf valid).1.parts
  simp only [List.forall_mem_cons] at parts
  rcases parts with ⟨pid, ticks, cgroup, isId, _⟩
  have split :
      (serialize row).splitOn '|' =
        [decimal row.pid, decimal row.startTicks, ['1', '0', '0', '0'],
          hierarchy ++ row.cgroup, row.namespaceId] := by
    apply List.splitOn_intercalate '|' _ (List.cons_ne_nil _ _)
    simp only [List.forall_mem_cons]
    exact ⟨pid.1, ticks.1, by decide, cgroup.1, isId.1, by simp⟩
  rw [readFields, split]
  rfl

theorem unbroken_serialize
    {row : Transport} (valid : Valid namespaceId row) :
    Unbroken (serialize row) ∧ serialize row ≠ [] := by
  have parts := (clean_fieldsOf valid).1.parts
  simp only [List.forall_mem_cons] at parts
  rcases parts with ⟨pid, ticks, cgroup, isId, _⟩
  have bar : isLineBreak '|' = false := by
    decide
  have user : Unbroken ['1', '0', '0', '0'] :=
    (unbroken_of_printed (List.all_eq_true.1 (by decide))).2
  rw [serialize, join_cons_cons, join_cons_cons, join_cons_cons,
    join_cons_cons, join_singleton]
  constructor
  · intro character member
    rcases List.mem_append.1 member with inside | member
    · exact pid.2 character inside
    rcases List.mem_cons.1 member with rfl | member
    · exact bar
    rcases List.mem_append.1 member with inside | member
    · exact ticks.2 character inside
    rcases List.mem_cons.1 member with rfl | member
    · exact bar
    rcases List.mem_append.1 member with inside | member
    · exact user character inside
    rcases List.mem_cons.1 member with rfl | member
    · exact bar
    rcases List.mem_append.1 member with inside | member
    · exact cgroup.2 character inside
    rcases List.mem_cons.1 member with rfl | inside
    · exact bar
    · exact isId.2 character inside
  · simp

theorem trimLast_fieldsOf
    {rows : List Transport}
    (valid : ∀ row ∈ rows, Valid namespaceId row) :
    trimLast (rows.map fieldsOf) = rows.map fieldsOf := by
  induction rows with
  | nil => rfl
  | cons row rest induction =>
      rw [List.forall_mem_cons] at valid
      cases rest with
      | nil =>
          rcases isNamespace_spec valid.1.isId with ⟨digits, _, _, shape⟩
          have kept :
              row.namespaceId.rdropWhile isSpace = row.namespaceId := by
            rw [shape, List.rdropWhile_concat_neg]
            decide
          rw [List.map_singleton, trimLast, fieldsOf, kept]
      | cons next rest =>
          have inner := induction valid.2
          rw [List.map_cons] at inner
          rw [List.map_cons, List.map_cons, trimLast, inner]

/-- The worker of a row. -/
def workerOf (row : Transport) : Worker :=
  ⟨row.pid, row.startTicks, row.cgroup, row.namespaceId⟩

theorem describes_fieldsOf
    {row : Transport} (valid : Valid namespaceId row) {parent : Text}
    {worker : Worker} :
    Describes parent (fieldsOf row) worker ↔
      within parent row.cgroup = true ∧ worker = workerOf row := by
  have pid : number (fieldsOf row).pid = row.pid :=
    ofDigitChars_decimal row.pid
  have ticks : number (fieldsOf row).startTicks = row.startTicks :=
    ofDigitChars_decimal row.startTicks
  rw [Describes, pid, ticks]
  constructor
  · rintro ⟨path, read, _, inside, _, _, rfl⟩
    have same : path = row.cgroup :=
      Except.ok.inj (read.symm.trans valid.cgroup)
    rw [← same]
    exact ⟨inside, by rw [same]; rfl⟩
  · rintro ⟨inside, rfl⟩
    exact
      ⟨row.cgroup, valid.cgroup, valid.isId, inside, valid.pid.1,
        valid.startTicks.1, rfl⟩

theorem ascii_serialize
    {row : Transport} (valid : Valid namespaceId row) :
    ∀ character ∈ serialize row, character.toNat < 128 := by
  have parts := printed_fieldsOf valid
  simp only [List.forall_mem_cons] at parts
  rcases parts with ⟨pid, ticks, cgroup, isId, _⟩
  have user : ∀ character ∈ ['1', '0', '0', '0'], isPrinted character = true :=
    List.all_eq_true.1 (by decide)
  have ascii {part : Text}
      (printed : ∀ character ∈ part, isPrinted character = true) :
      ∀ character ∈ part, character.toNat < 128 := by
    intro character member
    have bound := (code_of_printed (printed character member)).2
    omega
  rw [serialize, join_cons_cons, join_cons_cons, join_cons_cons,
    join_cons_cons, join_singleton]
  have behind {part rest : Text}
      (first : ∀ character ∈ part, character.toNat < 128)
      (others : ∀ character ∈ rest, character.toNat < 128) :
      ∀ character ∈ part ++ '|' :: rest, character.toNat < 128 :=
    List.forall_mem_append.2
      ⟨first, List.forall_mem_cons.2 ⟨by decide, others⟩⟩
  exact
    behind (ascii pid)
      (behind (ascii ticks)
        (behind (ascii user) (behind (ascii cgroup) (ascii isId))))

theorem length_utf8_of_ascii
    {text : Text} (ascii : ∀ character ∈ text, character.toNat < 128) :
    (utf8 (String.ofList text)).length = text.length := by
  rw [utf8_ofList]
  induction text with
  | nil => rfl
  | cons head rest induction =>
      rw [List.forall_mem_cons] at ascii
      have one : (String.utf8EncodeChar head).length = 1 := by
        rw [String.length_utf8EncodeChar, Char.utf8Size, if_pos]
        have code : head.val.toNat < 128 := ascii.1
        rw [UInt32.le_iff_toNat_le]
        change head.val.toNat ≤ 127
        omega
      rw [List.flatMap_cons, List.length_append, induction ascii.2, one,
        List.length_cons, Nat.add_comm]

theorem ascii_join
    {lines : List Text}
    (ascii : ∀ line ∈ lines, ∀ character ∈ line, character.toNat < 128) :
    ∀ character ∈ join '\n' lines, character.toNat < 128 := by
  cases lines with
  | nil => simp [join, List.intercalate]
  | cons line rest =>
      induction rest generalizing line with
      | nil => simpa using ascii
      | cons next rest induction =>
          rw [List.forall_mem_cons] at ascii
          rw [join_cons_cons, List.forall_mem_append, List.forall_mem_cons]
          exact ⟨ascii.1, by decide, induction next ascii.2⟩

theorem forall₂_describes
    {parent : Text} {rows : List Transport}
    (valid : ∀ row ∈ rows, Valid namespaceId row) {found : List Worker} :
    List.Forall₂ (Describes parent) (rows.map fieldsOf) found ↔
      found = rows.map workerOf ∧
        ∀ row ∈ rows, within parent row.cgroup = true := by
  induction rows generalizing found with
  | nil =>
      rw [List.map_nil, List.forall₂_nil_left_iff, List.map_nil]
      simp
  | cons row rest induction =>
      rw [List.forall_mem_cons] at valid
      rw [List.map_cons, List.map_cons, List.forall_mem_cons]
      constructor
      · intro related
        cases related with
        | cons head tail =>
            rcases (describes_fieldsOf valid.1).1 head with ⟨inside, rfl⟩
            rcases (induction valid.2).1 tail with ⟨rfl, others⟩
            exact ⟨rfl, inside, others⟩
      · rintro ⟨rfl, inside, others⟩
        exact
          .cons ((describes_fieldsOf valid.1).2 ⟨inside, rfl⟩)
            ((induction valid.2).2 ⟨rfl, others⟩)

/-- Rows that were observed are read again below the first one. -/
theorem parseTransports_serialize
    {first : Transport} {rest rows : List Transport}
    (observed : Observed namespaceId (first :: rest)) :
    parseTransports other (join '\n' ((first :: rest).map serialize))
          (hierarchy ++ first.cgroup) first.namespaceId false =
        .ok rows ↔
      rows = first :: rest ∧
        ∀ row ∈ first :: rest, within first.cgroup row.cgroup = true := by
  have valid := observed.valid
  have head := valid first List.mem_cons_self
  have lines :
      splitLines (join '\n' ((first :: rest).map serialize)) =
        (first :: rest).map serialize := by
    apply splitLines_join
    rw [← List.map_cons, List.forall_mem_map]
    exact fun row member => unbroken_serialize (valid row member)
  have bytes :
      (utf8
          (String.ofList (join '\n' ((first :: rest).map serialize)))).length =
        (join '\n' ((first :: rest).map serialize)).length := by
    apply length_utf8_of_ascii
    apply ascii_join
    rw [List.forall_mem_map]
    exact fun row member => ascii_serialize (valid row member)
  have small := observed.small
  have clean :
      ∀ line ∈ (first :: rest).map fieldsOf, Clean line ∧ Bounded line := by
    rw [List.forall_mem_map]
    exact fun row member => clean_fieldsOf (valid row member)
  have read :
      List.Forall₂ (fun line row => readFields line = some row)
        ((first :: rest).map serialize) ((first :: rest).map fieldsOf) := by
    rw [List.forall₂_map_left_iff, List.forall₂_map_right_iff,
      List.forall₂_same]
    exact fun row member => readFields_serialize (valid row member)
  have workers (found : List Worker) :
      parseWorkers other
            (join '\n' (((first :: rest).map fieldsOf).map project))
            (hierarchy ++ first.cgroup) first.namespaceId =
          .ok found ↔
        found = (first :: rest).map workerOf ∧
          ∀ row ∈ first :: rest, within first.cgroup row.cgroup = true := by
    have projected :
        parseWorkers other
              (join '\n'
                ((fieldsOf first :: rest.map fieldsOf).map project))
              (hierarchy ++ first.cgroup) first.namespaceId =
            .ok found ↔
          _ :=
      parseWorkers_project fun line member => (clean line member).1
    rw [← List.map_cons, trimLast_fieldsOf valid] at projected
    rw [projected]
    constructor
    · rintro ⟨parent, isParent, _, related, _, _⟩
      rw [head.cgroup] at isParent
      cases isParent
      exact (forall₂_describes valid).1 related
    · rintro ⟨rfl, inside⟩
      refine
        ⟨first.cgroup, head.cgroup, head.isId,
          (forall₂_describes valid).2 ⟨rfl, inside⟩, ?_, ?_⟩
      · rw [List.length_map]
        exact observed.few
      · rw [List.map_map]
        exact observed.distinct
  have back :
      ((first :: rest).map workerOf).map Worker.transport =
        first :: rest := by
    have each :
        ∀ row ∈ first :: rest,
          (Worker.transport ∘ workerOf) row = id row := by
      intro row member
      have user := (valid row member).uid
      rcases row with ⟨pid, startTicks, cgroup, namespaceId, uid⟩
      cases user
      rfl
    rw [List.map_map, List.map_congr_left each, List.map_id]
  rw [parseTransports_eq_ok_iff, bytes, lines]
  constructor
  · rintro ⟨_, _, fields, isRead, _, found, parsed, _, rfl⟩
    have same : fields = (first :: rest).map fieldsOf :=
      Option.some.inj
        ((mapM_readFields.2 isRead).symm.trans (mapM_readFields.2 read))
    rw [same] at parsed
    rcases (workers found).1 parsed with ⟨rfl, inside⟩
    exact ⟨back, inside⟩
  · rintro ⟨rfl, inside⟩
    refine
      ⟨small, by simp, _, read, fun line member => (clean line member).2, _,
        (workers _).2 ⟨rfl, inside⟩, ?_, back.symm⟩
    rw [List.forall_mem_map]
    intro row member
    exact (valid row member).same.trans head.same.symm

/-- A script is returned for observed rows below the first one. -/
theorem cancelTransportScript_eq_ok_iff
    {first : Transport} {rest : List Transport} {force : Bool}
    (observed : Observed namespaceId (first :: rest)) {script : String} :
    cancelTransportScript other (first :: rest) force = .ok script ↔
      (∀ row ∈ first :: rest, within first.cgroup row.cgroup = true) ∧
        script =
          "; ".intercalate
            ((commands (first :: rest) force).map Command.render) := by
  have users :
      ((first :: rest).any fun row => row.uid ≠ 1000) = false := by
    rw [List.any_eq_false]
    intro row member
    simp [(observed.valid row member).uid]
  simp only [cancelTransportScript, bind_eq_ok_iff, refuseIf_eq_ok_iff,
    pure_eq_ok_iff, parseTransports_serialize observed, not_not]
  constructor
  · rintro ⟨_, _, rows, ⟨rfl, inside⟩, _, _, rfl⟩
    exact ⟨inside, rfl⟩
  · rintro ⟨inside, rfl⟩
    exact
      ⟨(), by rw [users]; exact Bool.false_ne_true, _, ⟨rfl, inside⟩, (),
        rfl, rfl⟩

end Cancellation

/-! ## What a script is for -/

/-- A test of a script: what a command prints is compared, and another text
ends the script. -/
def test (command expected : String) : String :=
  "[ \"$(" ++ command ++ ")\" = " ++ expected ++ " ] || exit 91"

/-- The tests of a transport: its comm, start ticks, command line, uid, cgroup
and namespace. -/
def tests (row : Transport) : List String :=
  let proc := "/proc/" ++ toString row.pid
  [test ("cat " ++ proc ++ "/comm") "buildctl",
    test ("sed 's/.*) //' " ++ proc ++ "/stat | awk '\x7bprint $20\x7d'")
      (toString row.startTicks),
    test ("tr '\\000' ' ' < " ++ proc ++ "/cmdline")
      "'buildctl dial-stdio '",
    test ("awk '$1==\"Uid:\" \x7bprint $2\x7d' " ++ proc ++ "/status")
      "1000",
    test ("cat " ++ proc ++ "/cgroup")
      ("\"0::" ++ String.ofList row.cgroup ++ "\""),
    test ("readlink " ++ proc ++ "/ns/cgroup")
      ("\"" ++ String.ofList row.namespaceId ++ "\"")]

/-- The signal for a transport. -/
def signal (force : Bool) (row : Transport) : String :=
  (if force then "kill -KILL " else "kill -TERM ") ++ toString row.pid

/-- `[A-Za-z0-9_./:-]`, spelled out. -/
def pathCharacters : Text :=
  ("ABCDEFGHIJKLMNOPQRSTUVWXYZabcdefghijklmnopqrstuvwxyz" ++
    "0123456789_./:-").toList

/-- A path of a cgroup. -/
structure PlainPath (path : Text) : Prop where
  rooted : path.head? = some '/'
  characters : ∀ character ∈ path, character ∈ pathCharacters

/-- The id of a namespace. -/
def PlainNamespace (value : Text) : Prop :=
  ∃ digits : Text,
    digits ≠ [] ∧ (∀ digit ∈ digits, digit ∈ "0123456789".toList) ∧
      value = "cgroup:[".toList ++ digits ++ [']']

/--
A script that cancels the rows: all tests of all rows stand before the first
signal, the pids of the rows are signalled once each and in order, and the
texts of the rows are plain.
-/
structure Sound
    (rows : List Transport) (force : Bool) (script : String) : Prop where
  text :
    script =
      "; ".intercalate
        ("set -eu" :: (rows.flatMap tests ++ rows.map (signal force)))
  once : (rows.map Transport.pid).Nodup
  plain :
    ∀ row ∈ rows, PlainPath row.cgroup ∧ PlainNamespace row.namespaceId

theorem test_eq
    {command path expected opening closing : String} (pid : String)
    (before : opening = "[ \"$(" ++ command ++ "/proc/")
    (after : closing = path ++ ")\" = " ++ expected ++ " ] || exit 91") :
    opening ++ pid ++ closing =
      test (command ++ ("/proc/" ++ pid) ++ path) expected := by
  rw [before, after]
  simp only [test, String.append_assoc]

theorem test_eq_of_parts
    {command path left right opening middle closing : String}
    (pid value : String)
    (before : opening = "[ \"$(" ++ command ++ "/proc/")
    (between : middle = path ++ ")\" = " ++ left)
    (after : closing = right ++ " ] || exit 91") :
    opening ++ pid ++ middle ++ value ++ closing =
      test (command ++ ("/proc/" ++ pid) ++ path)
        (left ++ value ++ right) := by
  rw [before, between, after]
  simp only [test, String.append_assoc]

/-- The checks of a row are its tests. -/
theorem map_render_checks (row : Transport) :
    Check.all.map (fun kind => kind.render row) = tests row := by
  have ticks :
      toString row.startTicks = "" ++ toString row.startTicks ++ "" := by
    rw [String.empty_append, String.append_empty]
  unfold tests
  dsimp only
  rw [ticks]
  refine congrArg₂ List.cons (test_eq _ rfl rfl) ?_
  refine congrArg₂ List.cons (test_eq_of_parts _ _ rfl rfl rfl) ?_
  refine congrArg₂ List.cons (test_eq _ rfl rfl) ?_
  refine congrArg₂ List.cons (test_eq _ rfl rfl) ?_
  refine congrArg₂ List.cons (test_eq_of_parts _ _ rfl rfl rfl) ?_
  exact congrArg₂ List.cons (test_eq_of_parts _ _ rfl rfl rfl) rfl

theorem render_kill (force : Bool) (row : Transport) :
    (Command.kill force row.pid).render = signal force row := by
  cases force <;> rfl

/-- The texts of the commands. -/
theorem map_render_commands (rows : List Transport) (force : Bool) :
    (commands rows force).map Command.render =
      "set -eu" :: (rows.flatMap tests ++ rows.map (signal force)) := by
  have tested :
      (rows.flatMap fun row =>
          Check.all.map fun kind => Command.check kind row).map
          Command.render =
        rows.flatMap tests := by
    rw [List.map_flatMap]
    congr 1
    funext row
    rw [List.map_map]
    exact map_render_checks row
  have signalled :
      (rows.map fun row => Command.kill force row.pid).map Command.render =
        rows.map (signal force) := by
    rw [List.map_map]
    exact List.map_congr_left fun row _ => render_kill force row
  rw [commands, List.map_append, checks, List.map_cons, tested, signalled]
  rfl

/-- The characters of a path are those that are spelled out. -/
theorem mem_pathCharacters
    {character : Char} (passed : isPathCharacter character = true) :
    character ∈ pathCharacters := by
  have printed : isPrinted character = true := by
    simp [isPrinted, passed]
  have low : character.toNat < 128 :=
    (code_of_printed printed).2.trans_lt (by decide)
  have each :
      ∀ code < 128, isPathCharacter (Char.ofNat code) = true →
        Char.ofNat code ∈ pathCharacters := by
    decide +kernel
  have inside := each character.toNat low
  rw [Char.ofNat_toNat] at inside
  exact inside passed

theorem mem_digits
    {character : Char} (digit : character.isDigit = true) :
    character ∈ "0123456789".toList := by
  have printed := printed_of_isDigit digit
  have low : character.toNat < 128 :=
    (code_of_printed printed).2.trans_lt (by decide)
  have each :
      ∀ code < 128, (Char.ofNat code).isDigit = true →
        Char.ofNat code ∈ "0123456789".toList := by
    decide
  have inside := each character.toNat low
  rw [Char.ofNat_toNat] at inside
  exact inside digit

theorem plainPath_of_isPath {path : Text} (passed : isPath path = true) :
    PlainPath path := by
  rcases isPath_iff.1 passed with ⟨rooted, characters⟩
  exact
    ⟨rooted, fun character member =>
      mem_pathCharacters (characters character member)⟩

theorem plainNamespace_of_isNamespace
    {value : Text} (passed : isNamespace value = true) :
    PlainNamespace value := by
  rcases isNamespace_spec passed with ⟨digits, nonempty, each, shape⟩
  exact
    ⟨digits, nonempty, fun digit member => mem_digits (each digit member),
      shape⟩

theorem sound_commands
    {namespaceId : Text} {rows : List Transport}
    (observed : Observed namespaceId rows) (force : Bool) :
    Sound rows force
      ("; ".intercalate ((commands rows force).map Command.render)) where
  text := by rw [map_render_commands]
  once := observed.distinct
  plain := fun row member =>
    ⟨plainPath_of_isPath (observed.valid row member).path,
      plainNamespace_of_isNamespace (observed.valid row member).isId⟩

/-- Observed transports are cancelled when they stand below the first one. -/
theorem cancelTransportScript_sound_iff
    (other : Char → Option Nat) (text serverCgroup namespaceId : Text)
    (allowEmpty : Bool) (rows : List Transport) (force : Bool)
    (parsed :
      parseTransports other text serverCgroup namespaceId allowEmpty =
        .ok rows)
    (nonempty : rows ≠ []) :
    (∀ script, cancelTransportScript other rows force = .ok script →
        Sound rows force script) ∧
      ((∃ script, cancelTransportScript other rows force = .ok script ∧
          Sound rows force script) ↔
        ∀ first ∈ rows.head?, ∀ row ∈ rows,
          within first.cgroup row.cgroup = true) := by
  have observed := observed_of_parseTransports nonempty parsed
  cases rows with
  | nil => exact absurd rfl nonempty
  | cons first rest =>
      rw [List.head?_cons]
      refine ⟨?_, ?_, ?_⟩
      · intro script cancelled
        rcases (cancelTransportScript_eq_ok_iff observed).1 cancelled with
          ⟨_, rfl⟩
        exact sound_commands observed force
      · rintro ⟨script, cancelled, _⟩ other same
        cases same
        exact ((cancelTransportScript_eq_ok_iff observed).1 cancelled).1
      · intro inside
        exact
          ⟨_, (cancelTransportScript_eq_ok_iff observed).2
              ⟨inside first rfl, rfl⟩,
            sound_commands observed force⟩

/-- `72|900|1000|0::/a|cgroup:[4]`, and another transport in a second group. -/
def twoLines (second : Char) : Text :=
  "72|900|1000|0::/a|cgroup:[4]\n73|901|1000|0::/".toList ++
    second :: "|cgroup:[4]\n".toList

/-- The rows that are read from them. -/
def twoRows (second : Char) : List Transport :=
  [⟨72, 900, ['/', 'a'], "cgroup:[4]".toList, 1000⟩,
    ⟨73, 901, ['/', second], "cgroup:[4]".toList, 1000⟩]

theorem cancelTransportScript_sound_two :
    ∃ script,
      cancelTransportScript (fun _ => none) (twoRows 'a') true = .ok script ∧
        Sound (twoRows 'a') true script := by
  apply
    (cancelTransportScript_sound_iff (fun _ => none) (twoLines 'a')
      "0::/".toList "cgroup:[4]".toList false (twoRows 'a') true
      (by decide) (List.cons_ne_nil _ _)).2.2
  intro first same row member
  cases same
  decide +revert

/-- Two transports below the server, none of them below the other. -/
theorem cancelTransportScript_refuses_siblings :
    parseTransports (fun _ => none) (twoLines 'b') "0::/".toList
          "cgroup:[4]".toList false =
        .ok (twoRows 'b') ∧
      cancelTransportScript (fun _ => none) (twoRows 'b') false =
        .error ⟨"WORKER_ESCAPED_BOUNDED_CGROUP"⟩ := by
  constructor <;> decide

end KairosDeploy.Buildkit.Transports
