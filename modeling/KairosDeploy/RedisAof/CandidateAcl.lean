import KairosDeploy.Library.Fields
import KairosDeploy.RedisAof.Inventory

/-!
# Rewriting the access control list

`candidate_acl` replaces the line of the default user of an access control
list and keeps all other bytes.  It validates the other lines after splitting
them as Python does, at line feeds and at carriage returns; Redis splits at
line feeds only.  The two readings agree exactly when no line holds a carriage
return inside, and then nothing but the default user has changed.
-/

namespace KairosDeploy.RedisAof.CandidateAcl

open KairosDeploy.Library.Fields
open KairosDeploy.Library.Refusal
open KairosDeploy.RedisAof.RespReader
open KairosDeploy.RedisAof.Inventory

/-! ## Lines -/

/-- A line feed. -/
def isFeed (byte : UInt8) : Bool :=
  byte = 10

/-- A line feed or a carriage return. -/
def isBreak (byte : UInt8) : Bool :=
  byte = 10 || byte = 13

/-- `remainder.splitlines()`, the line being read given in reverse. -/
def splitLinesFrom (line : Bytes) : Bytes → List Bytes
  | [] => if line = [] then [] else [line.reverse]
  | 13 :: 10 :: rest => line.reverse :: splitLinesFrom [] rest
  | byte :: rest =>
      if isBreak byte then
        line.reverse :: splitLinesFrom [] rest
      else
        splitLinesFrom (byte :: line) rest

/-- `remainder.splitlines()`. -/
def splitLines (remainder : Bytes) : List Bytes :=
  splitLinesFrom [] remainder

/-- The lines of Redis: split at line feeds and trimmed, no blank ones. -/
def redisLines (remainder : Bytes) : List Bytes :=
  lines isFeed isBreak remainder

/-! ## The rewrite -/

/-- `[a-zA-Z0-9_]`. -/
def isWord (byte : UInt8) : Bool :=
  isDigit byte || (65 ≤ byte && byte ≤ 90) || (97 ≤ byte && byte ≤ 122) ||
    byte = 95

/-- `(?: |$)` of a line, which holds no line feed. -/
def endsField : Bytes → Bool
  | [] => true
  | byte :: _ => byte = 32

/-- Group 1 of `^user ([a-zA-Z0-9_]+) (?:on|off)(?: |$)`. -/
def aclUser (line : Bytes) : Option Bytes := do
  let rest ← line.dropPrefix? (asciiBytes "user ")
  let name := rest.takeWhile isWord
  guard (name ≠ [])
  let flags ← (rest.dropWhile isWord).dropPrefix? (asciiBytes " ")
  guard
    ((flags.dropPrefix? (asciiBytes "on")).any endsField ∨
      (flags.dropPrefix? (asciiBytes "off")).any endsField)
  return name

/-- The users that the other lines are about. -/
def expectedUsers : List Bytes :=
  ["kairos_epoch_admin", "kairos_epoch_producer",
    "kairos_epoch_consumer"].map asciiBytes

/-- `replay_default_acl`. -/
def replayDefaultAcl (owner : String) : Bytes :=
  asciiBytes "user default reset off resetpass ~" ++
    asciiBytes "kairos.market.closed_bar.v1" ++ asciiBytes " ~" ++
    ledgerKey owner ++
    asciiBytes " +select +multi +exec +xadd +hset +xgroup|create" ++
    asciiBytes " +xgroup|setid +xclaim +xack"

/-- The bytes before the first line feed, and those after one. -/
def splitFirst (original : Bytes) : Bytes × Option Bytes :=
  match original.dropWhile fun byte => !isFeed byte with
  | [] => (original, none)
  | _ :: remainder =>
      (original.takeWhile fun byte => !isFeed byte, some remainder)

/-- `line.decode("ascii")` does not raise. -/
def isAscii (line : Bytes) : Bool :=
  line.all fun byte => byte < 128

/-- The user of a line of `decoded`. -/
def foundUser (line : Bytes) : Except AofError Bytes :=
  match aclUser line with
  | none => .error ⟨"ACL_INPUT_INVALID"⟩
  | some name => do
      refuseIf (name ∉ expectedUsers) ⟨"ACL_INPUT_INVALID"⟩
      return name

/-- `candidate_acl`. -/
def candidateAcl (original : Bytes) (owner : String) :
    Except AofError Bytes := do
  checkOwner owner
  refuseIf (0 ∈ original) ⟨"ACL_INPUT_INVALID"⟩
  let (line, rest) := splitFirst original
  let returns := line.getLast? = some 13
  let ending : Bytes := if returns then [13, 10] else [10]
  let first := if returns then line.dropLast else line
  let remainder := rest.getD []
  let decoded :=
    (splitLines remainder).filter fun line => !line.isEmpty
  refuseIf (¬ isAscii first ∨ ¬ decoded.all isAscii)
    ⟨"ACL_INPUT_INVALID"⟩
  refuseIf (first ≠ asciiBytes "user default off") ⟨"ACL_INPUT_INVALID"⟩
  let found ← decoded.mapM foundUser
  -- `set(found) != expected or len(found) != len(expected)`
  refuseIf
    (¬ (∀ name ∈ found, name ∈ expectedUsers) ∨
      ¬ (∀ name ∈ expectedUsers, name ∈ found) ∨
      found.length ≠ expectedUsers.length)
    ⟨"ACL_INPUT_INVALID"⟩
  refuseIf (rest = none) ⟨"ACL_INPUT_INVALID"⟩
  return replayDefaultAcl owner ++ ending ++ remainder

/-! ## Splitting like Python and like Redis -/

theorem isBreak_of_isFeed (byte : UInt8) (feed : isFeed byte = true) :
    isBreak byte = true := by
  simp only [isFeed, decide_eq_true_eq] at feed
  simp [isBreak, feed]

/-- The line that has been read is the first field. -/
theorem filter_cons_eq
    {line : Bytes} (others : List Bytes) (free : Free isBreak line) :
    (line.reverse :: others).filter (fun line => !line.isEmpty) =
      fields isBreak line.reverse ++
        others.filter fun line => !line.isEmpty := by
  have reversed : Free isBreak line.reverse := fun byte member =>
    free byte (List.mem_reverse.1 member)
  by_cases empty : line = []
  · simp [empty]
  · rw [fields_of_free reversed (by simpa using empty),
      List.filter_cons_of_pos (by simpa using empty),
      List.singleton_append]

/-- The nonempty lines of Python are the fields. -/
theorem splitLinesFrom_filter
    {line : Bytes} (remainder : Bytes) (free : Free isBreak line) :
    (splitLinesFrom line remainder).filter (fun line => !line.isEmpty) =
      fields isBreak (line.reverse ++ remainder) := by
  have none_yet : Free isBreak [] := fun byte member =>
    absurd member List.not_mem_nil
  induction line, remainder using splitLinesFrom.induct with
  | case1 => simp [splitLinesFrom]
  | case2 line nonempty =>
      rw [splitLinesFrom, if_neg nonempty, filter_cons_eq [] free,
        List.append_nil, List.filter_nil, List.append_nil]
  | case3 line rest induction =>
      have feed : fields isBreak ([10] ++ rest) = fields isBreak rest :=
        fields_append_left rest (by simp [isBreak])
      have isEnd : isBreak 13 = true := by decide
      rw [splitLinesFrom, filter_cons_eq _ free, induction none_yet,
        fields_append line.reverse (10 :: rest) isEnd, List.reverse_nil,
        List.nil_append, ← feed, List.singleton_append]
  | case4 line byte rest notPair isEnd induction =>
      rw [splitLinesFrom, if_pos isEnd, filter_cons_eq _ free,
        induction none_yet, fields_append line.reverse rest isEnd,
        List.reverse_nil, List.nil_append]
      exact notPair
  | case5 line byte rest notPair inner induction =>
      rw [Bool.not_eq_true] at inner
      have longer : Free isBreak (byte :: line) :=
        List.forall_mem_cons.2 ⟨inner, free⟩
      rw [splitLinesFrom, if_neg (by simp [inner]), induction longer,
        List.reverse_cons, List.append_assoc, List.singleton_append]
      exact notPair

theorem splitLines_filter (remainder : Bytes) :
    (splitLines remainder).filter (fun line => !line.isEmpty) =
      fields isBreak remainder :=
  splitLinesFrom_filter remainder fun _ member =>
    absurd member List.not_mem_nil

/-! ## What an accepted list is -/

theorem splitFirst_eq_some
    {original line remainder : Bytes}
    (split : splitFirst original = (line, some remainder)) :
    original = line ++ 10 :: remainder := by
  unfold splitFirst at split
  split at split
  · cases split
  · rename_i byte rest found
    simp only [Prod.mk.injEq, Option.some.injEq] at split
    rcases split with ⟨rfl, rfl⟩
    have feed : byte = 10 := by
      have stopped := dropWhile_cons found
      simpa [isFeed] using stopped
    have whole :=
      List.takeWhile_append_dropWhile (p := fun byte => !isFeed byte)
        (l := original)
    rw [found, feed] at whole
    exact whole.symm

/-- The bytes after the first line feed. -/
def remainderOf (original : Bytes) : Bytes :=
  (splitFirst original).2.getD []

theorem foundUser_eq_ok
    {line name : Bytes} (found : foundUser line = .ok name) :
    aclUser line = some name := by
  unfold foundUser at found
  split at found
  · cases found
  · rename_i user matched
    simp only [bind_eq_ok_iff, refuseIf_eq_ok_iff, exists_const,
      pure_eq_ok_iff] at found
    rw [matched, found.2]

/-- The same users in another order. -/
theorem perm_expectedUsers
    {found : List Bytes}
    (each : ∀ name ∈ expectedUsers, name ∈ found)
    (count : found.length = expectedUsers.length) :
    found.Perm expectedUsers := by
  have distinct : expectedUsers.Nodup := by decide
  have contained : expectedUsers.Subperm found :=
    List.subperm_of_subset distinct each
  exact (contained.perm_of_length_le count.le).symm

/-- What `candidate_acl` establishes before it returns. -/
theorem candidateAcl_eq_ok
    {original output : Bytes} {owner : String}
    (returned : candidateAcl original owner = .ok output) :
    ∃ ending,
      (ending = [10] ∨ ending = [13, 10]) ∧
        original =
          asciiBytes "user default off" ++ ending ++
            remainderOf original ∧
        output =
          replayDefaultAcl owner ++ ending ++ remainderOf original ∧
        ((fields isBreak (remainderOf original)).map aclUser).Perm
          (expectedUsers.map some) := by
  unfold candidateAcl at returned
  rcases split : splitFirst original with ⟨line, rest⟩
  simp only [split, bind_eq_ok_iff, refuseIf_eq_ok_iff, exists_const,
    pure_eq_ok_iff, splitLines_filter] at returned
  rcases returned with
    ⟨_, _, _, _, first, found, mapped, users, present, rfl⟩
  rcases Option.ne_none_iff_exists'.1 present with ⟨remainder, rfl⟩
  have remains : remainderOf original = remainder := by
    rw [remainderOf, split]
    rfl
  simp only [not_or, not_not] at users first
  have matched :
      (fields isBreak remainder).map aclUser = found.map some := by
    have related := (mapM_eq_ok_iff _ _ _).1 mapped
    rw [← List.forall₂_eq_eq_eq, List.forall₂_map_left_iff,
      List.forall₂_map_right_iff]
    exact related.imp fun _ _ => foundUser_eq_ok
  have perm := (perm_expectedUsers users.2.1 users.2.2).map some
  rw [remains]
  have whole := splitFirst_eq_some split
  by_cases returns : line.getLast? = some 13
  · simp only [returns, if_true, Option.getD_some] at first ⊢
    have last : line = line.dropLast ++ [13] :=
      (List.dropLast_append_getLast? 13 returns).symm
    refine ⟨[13, 10], Or.inr rfl, ?_, rfl, ?_⟩
    · rw [← first, List.append_assoc, whole]
      conv_lhs => rw [last]
      simp
    · rw [matched]
      exact perm
  · simp only [returns, if_false, Option.getD_some] at first ⊢
    refine ⟨[10], Or.inl rfl, ?_, rfl, ?_⟩
    · rw [← first, List.append_assoc, whole]
      rfl
    · rw [matched]
      exact perm

/-! ## The rewrite and the lines of Redis -/

/-- Only the line of the default user changes, and it changes once. -/
structure TouchesDefaultOnly (original output : Bytes) (owner : String) :
    Prop where
  replaced : ∃ ending, (ending = [10] ∨ ending = [13, 10]) ∧
    original =
      asciiBytes "user default off" ++ ending ++ remainderOf original ∧
    output = replayDefaultAcl owner ++ ending ++ remainderOf original
  users : ((redisLines (remainderOf original)).map aclUser).Perm
    (expectedUsers.map some)
  once : ∀ later, ∃ error, candidateAcl output later = .error error

/-- No line of the remainder holds a carriage return between other bytes. -/
def NoInnerReturn (original : Bytes) : Prop :=
  ∀ line ∈ redisLines (remainderOf original), Free isBreak line

/-- A rewritten list is no list with the reviewed first line. -/
theorem candidateAcl_replayed
    (owner later : String) (rest : Bytes) :
    ∃ error, candidateAcl (replayDefaultAcl owner ++ rest) later =
      .error error := by
  cases returned : candidateAcl (replayDefaultAcl owner ++ rest) later with
  | error error => exact ⟨error, rfl⟩
  | ok output =>
      rcases candidateAcl_eq_ok returned with ⟨ending, _, shape, _⟩
      -- the lists differ in the fourteenth byte, `reset` against `off`
      have byte := congrArg (fun bytes => bytes[13]?) shape
      simp [replayDefaultAcl, asciiBytes] at byte

/--
An accepted list is rewritten in the line of the default user only, its other
users each on one line of Redis, exactly when no carriage return is left
inside such a line.
-/
theorem candidateAcl_touchesDefaultOnly_iff
    {original output : Bytes} {owner : String}
    (returned : candidateAcl original owner = .ok output) :
    TouchesDefaultOnly original output owner ↔ NoInnerReturn original := by
  rcases candidateAcl_eq_ok returned with
    ⟨ending, isEnding, before, after, users⟩
  constructor
  · intro touches
    refine free_of_length_le isBreak_of_isFeed ?_
    have sameCount := touches.users.trans users.symm
    have lengths := sameCount.length_eq
    rw [List.length_map, List.length_map] at lengths
    exact lengths.ge
  · intro free
    refine ⟨⟨ending, isEnding, before, after⟩, ?_, ?_⟩
    · rw [redisLines, lines_eq_fields isBreak_of_isFeed free]
      exact users
    · intro later
      rw [after, List.append_assoc]
      exact candidateAcl_replayed owner later _

/-- A list that has its three users on one line of Redis. -/
def hiddenUsers : Bytes :=
  asciiBytes "user default off" ++ [10] ++
    asciiBytes "user kairos_epoch_admin on" ++ [13] ++
    asciiBytes "user kairos_epoch_producer on" ++ [13] ++
    asciiBytes "user kairos_epoch_consumer on" ++ [10]

/-- A list with a line for every user. -/
def reviewedUsers : Bytes :=
  asciiBytes "user default off" ++ [10] ++
    asciiBytes "user kairos_epoch_admin on" ++ [10] ++
    asciiBytes "user kairos_epoch_producer on" ++ [10] ++
    asciiBytes "user kairos_epoch_consumer on" ++ [10]

/-- The owner of the runtime epoch. -/
def runtimeOwner : String := "69893dc7b7c647f49967387e7efca9fb"

theorem candidateAcl_hiddenUsers :
    ∃ output, candidateAcl hiddenUsers runtimeOwner = .ok output ∧
      ¬ TouchesDefaultOnly hiddenUsers output runtimeOwner := by
  have accepted :
      candidateAcl hiddenUsers runtimeOwner =
        .ok (replayDefaultAcl runtimeOwner ++ [10] ++
          remainderOf hiddenUsers) := by
    decide +kernel
  have oneLine : (redisLines (remainderOf hiddenUsers)).length = 1 := by
    decide
  refine ⟨_, accepted, fun touches => ?_⟩
  have lengths := touches.users.length_eq
  rw [List.length_map, oneLine] at lengths
  cases lengths

theorem candidateAcl_touchesDefaultOnly_iff_reviewed :
    ∃ output, candidateAcl reviewedUsers runtimeOwner = .ok output ∧
      (TouchesDefaultOnly reviewedUsers output runtimeOwner ↔
        NoInnerReturn reviewedUsers) := by
  have accepted :
      candidateAcl reviewedUsers runtimeOwner =
        .ok (replayDefaultAcl runtimeOwner ++ [10] ++
          remainderOf reviewedUsers) := by
    decide +kernel
  exact ⟨_, accepted, candidateAcl_touchesDefaultOnly_iff accepted⟩

end KairosDeploy.RedisAof.CandidateAcl
