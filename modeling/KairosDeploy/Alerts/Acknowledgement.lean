import KairosDeploy.Alerts.JournalRecords
import KairosDeploy.Library.JsonBytes
import KairosDeploy.Library.Refusal

/-!
# Reading the qualification journal

Before an operator may confirm the test message, the journal is read back:
four lines, each an object without repeated keys, in the order of the stages.
Whatever happened to the run that wrote the journal, only the four records of
a run whose message was accepted are read back, and only for its id.
-/

namespace KairosDeploy.Alerts.Acknowledgement

open KairosDeploy.Alerts.JournalRecords
open KairosDeploy.Alerts.Qualification
open KairosDeploy.Library.HexDigest
open KairosDeploy.Library.JsonBytes
open KairosDeploy.Library.JsonPairs (PairReader uniquePairs
  keepsSorted_uniquePairs)
open KairosDeploy.Library.JsonText (FloatText exponentFloats write)
open KairosDeploy.Library.JsonValue
open KairosDeploy.Library.Refusal
open KairosDeploy.Library.Timestamp
open KairosDeploy.Library.TornText
open KairosDeploy.Library.Transition

/-! ## The reader of the journal -/

/-- `MAX_QUALIFICATION_JOURNAL_LINES`. -/
def maxQualificationJournalLines : Nat := 8

/-- `json`, `hashlib` and `datetime`; `wide` decodes UTF-16 and UTF-32. -/
structure Tools where
  floats : FloatText
  sha256 : Sha256
  iso : IsoReader
  wide : List UInt8 → Option String

/-- `json.loads` with `unique_pairs` and a `parse_constant` that raises. -/
def Tools.reader (tools : Tools) : PairReader where
  float := tools.floats.float
  constants := false
  hook := uniquePairs

/-- `type(value) is int`. -/
def isInt : Json → Bool
  | .int _ => true
  | _ => false

/-- `value is None`. -/
def isNone : Json → Bool
  | .null => true
  | _ => false

/-- `re.fullmatch(r"[0-9a-f]{64}", value)` of a text. -/
def isDigest : Json → Bool
  | .text text => isSha256 text
  | _ => false

/-- `stages`. -/
def stages : List String :=
  ["PRECHECK_STARTED", "IDENTITY_VERIFIED", "SEND_RESERVED",
    "TRANSPORT_ACCEPTED"]

/-- `common`. -/
def common (sha256 : Sha256) : Members :=
  [("schema_version", .int 1),
    ("test_message_sha256", .text (sha256.hexdigest (utf8 testMessage))),
    ("expected_bot_username", .text expectedBot),
    ("expected_chat_id", .int expectedTestChat),
    ("recipient_purpose", .text "qualification_test_only")]

/-- `base_keys`. -/
def baseKeys (sha256 : Sha256) : List String :=
  (common sha256).map Prod.fst ++
    ["implementation_sha256", "human_acknowledged", "trading_authority",
      "stage", "send_attempts", "http_method_counts", "transport_accepted"]

/-- `expected_keys`. -/
def expectedKeys (sha256 : Sha256) (index : Nat) : List String :=
  baseKeys sha256 ++
    (if index = 0 then [] else ["error_category", "observed_at_utc"]) ++
    (if index = 3 then ["message_id"] else [])

/-- `expected_counts`. -/
def expectedCounts (index : Nat) : Members :=
  let asked := if index = 0 then 0 else 1
  dict
    [("getMe", .int asked), ("getChat", .int asked),
      ("sendMessage", .int (if index = 3 then 1 else 0))]

/-- A value of `common` is there, and is an `int` where it has to be. -/
def hasCommon (entry : Members) (expected : String × Json) : Bool :=
  (get entry expected.1).pyEq expected.2 &&
    (isInt (get entry expected.1) ||
      !(expected.1 = "schema_version" || expected.1 = "expected_chat_id"))

/-- The counters are these, all of them `int`. -/
def hasCounts (entry : Members) (index : Nat) : Bool :=
  (get entry "http_method_counts").pyEq (.object (expectedCounts index)) &&
    match get entry "http_method_counts" with
    | .object counts => counts.all fun count => isInt count.2
    | _ => false

/-- `entry.get(key) == value` and `type(entry.get(key)) is int`. -/
def hasInt (entry : Members) (key : String) (value : Int) : Bool :=
  (get entry key).pyEq (.int value) && isInt (get entry key)

/-- `fingerprint_fields`. -/
def fingerprintFields : List String :=
  ["implementation_sha256", "test_message_sha256", "expected_bot_username",
    "expected_chat_id", "recipient_purpose"]

/-- `_parse_utc_timestamp`. -/
def parseUtcTimestamp (iso : IsoReader) (value : Json) (error : String) :
    Except String CivilTime :=
  match value with
  | .text text =>
      match iso.fromisoformat text with
      | some ⟨civil, some offset⟩ =>
          if offset.1 = 0 then .ok civil else .error error
      | _ => .error error
  | _ => .error error

theorem parseUtcTimestamp_isoformat
    (iso : IsoReader) (time : CivilTime) (error : String) :
    parseUtcTimestamp iso (.text (isoformat time)) error = .ok time := by
  rw [parseUtcTimestamp, iso.fromisoformat_isoformat]
  rfl

/-- One line of the journal. -/
def readEntry (tools : Tools) (line : List UInt8) : Except String Members :=
  match loadsBytes tools.wide tools.reader line with
  | some (.object entry) => .ok entry
  | _ => .error "QUALIFICATION_JOURNAL_INVALID"

section

variable (tools : Tools) (messageId : Int)

/-- The body of the loop over the entries and their stages. -/
def checkEntry (index : Nat) (stage : String) (entry : Members)
    (previous : Option CivilTime) : Except String (Option CivilTime) := do
  refuseIf (keySet entry ≠ (expectedKeys tools.sha256 index).toFinset)
    "QUALIFICATION_JOURNAL_SEQUENCE_REJECTED"
  refuseIf (isDigest (get entry "implementation_sha256") = false)
    "QUALIFICATION_JOURNAL_IDENTITY_REJECTED"
  refuseIf ((common tools.sha256).all (hasCommon entry) = false)
    "QUALIFICATION_JOURNAL_IDENTITY_REJECTED"
  refuseIf
    ((get entry "human_acknowledged").isFalse = false ∨
      (get entry "trading_authority").isFalse = false)
    "QUALIFICATION_JOURNAL_FLAGS_REJECTED"
  refuseIf
    ((get entry "stage").pyEq (.text stage) = false ∨
      hasInt entry "send_attempts" (if 2 ≤ index then 1 else 0) = false)
    "QUALIFICATION_JOURNAL_SEQUENCE_REJECTED"
  refuseIf (hasCounts entry index = false)
    "QUALIFICATION_JOURNAL_COUNTERS_REJECTED"
  refuseIf
    ((if index = 3 then (get entry "transport_accepted").isTrue
      else (get entry "transport_accepted").isFalse) = false)
    "QUALIFICATION_JOURNAL_FLAGS_REJECTED"
  refuseIf (index = 3 ∧ hasInt entry "message_id" messageId = false)
    "MESSAGE_ID_MISMATCH"
  refuseIf (index ≠ 3 ∧ "message_id" ∈ keySet entry)
    "QUALIFICATION_JOURNAL_SEQUENCE_REJECTED"
  refuseIf (index = 0 ∧ "error_category" ∈ keySet entry)
    "QUALIFICATION_JOURNAL_SEQUENCE_REJECTED"
  refuseIf (index ≠ 0 ∧ isNone (get entry "error_category") = false)
    "QUALIFICATION_JOURNAL_NOT_SUCCESSFUL"
  if index = 0 then
    return previous
  else
    let observed ←
      parseUtcTimestamp tools.iso (get entry "observed_at_utc")
        "QUALIFICATION_JOURNAL_SEQUENCE_REJECTED"
    refuseIf
      (previous.any fun earlier =>
        observed.microseconds < earlier.microseconds)
      "QUALIFICATION_JOURNAL_TIME_ORDER_REJECTED"
    return some observed

/-- The loop over the entries and their stages. -/
def checkEntries :
    Nat → Option CivilTime → List (Members × String) → Except String Unit
  | _, _, [] => .ok ()
  | index, previous, (entry, stage) :: rest => do
      let observed ← checkEntry tools messageId index stage entry previous
      checkEntries (index + 1) observed rest

/-- The first entry and the others agree on the fields that are fixed. -/
def drifted : List Members → Bool
  | [] => false
  | first :: others =>
      others.any fun entry =>
        fingerprintFields.any fun key =>
          !(get entry key).pyEq (get first key)

/-- `_validated_terminal_journal`. -/
def validatedTerminalJournal (raw : List UInt8) :
    Except String (List Members) := do
  refuseIf (messageId ≤ 0) "MESSAGE_ID_REQUIRED"
  refuseIf (raw.getLast? ≠ some 10)
    "QUALIFICATION_JOURNAL_SEQUENCE_REJECTED"
  let lines := splitLines raw
  refuseIf (lines.length ≠ 4 ∨ maxQualificationJournalLines < lines.length)
    "QUALIFICATION_JOURNAL_SEQUENCE_REJECTED"
  let entries ← lines.mapM (readEntry tools)
  checkEntries tools messageId 0 none (entries.zip stages)
  refuseIf (drifted entries = true) "QUALIFICATION_JOURNAL_DRIFT"
  return entries

end

/-! ## The entries of a run -/

/-- The members of a record with what is added to it. -/
def recordMembers (sha256 : Sha256) (result : Result) :
    Option CivilTime → Members
  | none => result.members sha256
  | some time =>
      result.members sha256 ++ [("observed_at_utc", .text (isoformat time))]

/-- The object of a record. -/
def entryOf (sha256 : Sha256) (result : Result) (time : Option CivilTime) :
    Members :=
  dict (recordMembers sha256 result time)

section

variable {sha256 : Sha256} {result : Result} {time : Option CivilTime}

variable (sha256 result time) in
theorem recordMembers_distinct :
    ((recordMembers sha256 result time).map Prod.fst).Nodup := by
  rcases result with ⟨_, _, error, _, _, _, _, _, message⟩
  rcases error with _ | (_ | _) <;> rcases message with _ | _ <;>
    rcases time with _ | _ <;> simp [recordMembers, Result.members]

/-- A key of a record has its value. -/
theorem get_entryOf
    {key : String} {value : Json}
    (member : (key, value) ∈ recordMembers sha256 result time) :
    get (entryOf sha256 result time) key = value :=
  get_dict_of_mem (recordMembers_distinct sha256 result time) member

theorem floatless_members :
    ∀ entry ∈ result.members sha256, Floatless entry.2 := by
  have counts : Floatless result.counts := by
    apply wellFormed_dict
    intro entry member
    simp only [List.mem_cons, List.not_mem_nil, or_false] at member
    rcases member with rfl | rfl | rfl <;> exact .int _
  intro entry member
  rcases List.mem_append.1 member with front | message
  · rcases List.mem_append.1 front with base | error
    · simp only [List.mem_cons, List.not_mem_nil, or_false] at base
      rcases base with
        rfl | rfl | rfl | rfl | rfl | rfl | rfl | rfl | rfl | rfl | rfl | rfl
      · exact .int _
      · exact .text _
      · exact .text _
      · exact .text _
      · exact .int _
      · exact .text _
      · exact .text _
      · exact .int _
      · exact counts
      · exact .bool _
      · exact .bool _
      · exact .bool _
    · split at error
      · cases error
      · rw [List.mem_singleton.1 error]
        exact .null
      · rw [List.mem_singleton.1 error]
        exact .text _
  · split at message
    · cases message
    · rw [List.mem_singleton.1 message]
      exact .int _

variable (sha256 result time) in
/-- A record has no floats, and its keys are sorted. -/
theorem floatless_entryOf :
    Floatless (.object (entryOf sha256 result time)) := by
  apply wellFormed_dict
  cases time with
  | none => exact floatless_members
  | some time =>
      intro entry member
      rcases List.mem_append.1 member with front | observed
      · exact floatless_members entry front
      · rw [List.mem_singleton.1 observed]
        exact .text _

theorem isLower_of_key :
    ∀ entry ∈ recordMembers sha256 result time,
      entry.1.toList.head?.any Char.isLower = true := by
  rcases result with ⟨_, _, error, _, _, _, _, _, message⟩
  rcases error with _ | (_ | _) <;> rcases message with _ | _ <;>
    rcases time with _ | _ <;> simp [recordMembers, Result.members]

/-- A record is not taken for the rest of a record that broke off. -/
theorem resumed_entryOf (tools : Tools) :
    Resumed tools.reader
      (write tools.floats (.object (entryOf sha256 result time))) := by
  have canonical := (floatless_entryOf sha256 result time).canonical
  cases entries : entryOf sha256 result time with
  | nil =>
      have listed :
          ("schema_version", Json.int 1) ∈
            recordMembers sha256 result time := by
        cases time <;> exact List.mem_cons_self
      have permuted := perm_dict (recordMembers_distinct sha256 result time)
      have missing := permuted.symm.mem_iff.1 listed
      rw [show dict (recordMembers sha256 result time) = [] from entries]
        at missing
      cases missing
  | cons first rest =>
      rcases first with ⟨key, value⟩
      rw [entries] at canonical
      have listed : (key, value) ∈ recordMembers sha256 result time :=
        mem_dict (by
          show (key, value) ∈ entryOf sha256 result time
          rw [entries]
          exact List.mem_cons_self)
      rcases Option.any_eq_true _ _ |>.1 (isLower_of_key _ listed) with
        ⟨letter, isHead, lower⟩
      rcases List.head?_eq_some_iff.1 isHead with ⟨tail, starts⟩
      exact
        resumed_write rfl keepsSorted_uniquePairs canonical starts lower

end

/-! ## The lines of a run -/

section

variable (tools : Tools) (account : Account)

/-- The time in a record; the first has none. -/
def timeAt (index : Nat) : Option CivilTime :=
  if index = 0 then none else some (account.times index)

/-- The object of each record of a run. -/
def entryAt (index : Nat) : Members :=
  entryOf tools.sha256 (account.resultAt index) (timeAt account index)

/-- The line of each record of a run, without its end. -/
def textAt (index : Nat) : List UInt8 :=
  objectBytes tools.floats (entryAt tools account index)

theorem canonicalLine_eq (entries : Members) :
    canonicalLine tools.floats entries =
      objectBytes tools.floats (dict entries) ++ [10] := by
  have feed : String.utf8EncodeChar '\n' = [10] := by decide
  unfold canonicalLine objectBytes
  rw [utf8_ofList, utf8_ofList, List.flatMap_append, List.flatMap_singleton,
    feed]

theorem line_eq (index : Nat) :
    account.line tools.floats tools.sha256 index =
      textAt tools account index ++ [10] := by
  cases index with
  | zero => exact canonicalLine_eq tools _
  | succ index => exact canonicalLine_eq tools _

theorem recordLine_eq (result : Result) (time : CivilTime) :
    recordLine tools.floats tools.sha256 result time =
      objectBytes tools.floats
        (entryOf tools.sha256 result (some time)) ++ [10] :=
  canonicalLine_eq tools _

theorem front_eq (count : Nat) :
    account.front tools.floats tools.sha256 count =
      (((List.range count).map (textAt tools account)).map
        fun line => line ++ [10]).flatten := by
  unfold Account.front
  rw [List.map_map]
  exact
    congrArg List.flatten
      (List.map_congr_left fun index _ => line_eq tools account index)

/-- A journal of short records is short. -/
theorem length_front_le
    {count bound : Nat}
    (short :
      ∀ index < count,
        (write tools.floats (.object (entryAt tools account index))).length ≤
          bound) :
    (account.front tools.floats tools.sha256 count).length ≤
      count * (4 * bound + 1) := by
  induction count with
  | zero => exact Nat.le_of_eq (Nat.zero_mul _).symm
  | succ count induction =>
      have earlier :=
        induction fun index less => short index (Nat.lt_succ_of_lt less)
      have bytes :=
        length_utf8_le
          (write tools.floats (.object (entryAt tools account count)))
      have last := short count (Nat.lt_succ_self count)
      have line :
          (account.line tools.floats tools.sha256 count).length ≤
            4 * bound + 1 := by
        rw [line_eq, textAt, objectBytes, List.length_append,
          List.length_singleton]
        omega
      rw [Account.front_succ, List.length_append, Nat.succ_mul]
      exact Nat.add_le_add earlier line

theorem unbroken_textAt (index : Nat) :
    Unbroken (textAt tools account index) :=
  unbroken_objectBytes (floatless_entryOf _ _ _)

end

/-! ## How a journal ends -/

/-- Bytes that end in a line feed but have none inside are whole lines. -/
theorem eq_nil_of_getLast
    {text part rest : List UInt8} (unbroken : Unbroken text)
    (line : text ++ [10] = part ++ rest) (ends : part.getLast? = some 10) :
    rest = [] := by
  rcases List.eq_nil_or_concat rest with rfl | ⟨before, last, rfl⟩
  · rfl
  · rw [List.concat_eq_append, ← List.append_assoc] at line
    have whole : text = part ++ before := (List.append_inj' line rfl).1
    have member : (10 : UInt8) ∈ text := by
      rw [whole]
      exact List.mem_append_left _ (List.mem_of_getLast? ends)
    exact absurd rfl (unbroken 10 member).1

/-- A part of a line is the line or a part of its text. -/
theorem part_of_line
    {text part rest : List UInt8} (line : text ++ [10] = part ++ rest) :
    (part = text ++ [10] ∧ rest = []) ∨ ∃ more, text = part ++ more := by
  rcases List.eq_nil_or_concat rest with rfl | ⟨before, last, rfl⟩
  · rw [List.append_nil] at line
    exact Or.inl ⟨line.symm, rfl⟩
  · rw [List.concat_eq_append, ← List.append_assoc] at line
    exact Or.inr ⟨before, (List.append_inj' line rfl).1⟩

section

variable (tools : Tools) (sent : Prop) (heard : Int → Prop)

/-- The records of a run that has not failed, and nothing else. -/
def Intact (account : Account) (content : List UInt8) : Prop :=
  ∃ count ≤ 4,
    content = account.front tools.floats tools.sha256 count ∧
      (count = 4 → sent ∧ heard account.message)

/-- The last line reports a failure, perhaps after a part of a record. -/
def Failed (account : Account) (content : List UInt8) : Prop :=
  ∃ count part result time category,
    content =
        account.front tools.floats tools.sha256 count ++
          (part ++
            objectBytes tools.floats
              (entryOf tools.sha256 result (some time))) ++ [10] ∧
      (part = [] ∨ ∃ more, textAt tools account count = part ++ more) ∧
      result.errorCategory = some (some category)

variable {tools sent heard} {account : Account} {content : List UInt8}

theorem intact_of_begun
    (begun : Begun tools.floats tools.sha256 sent heard account content)
    (ends : content.getLast? = some 10) :
    Intact tools sent heard account content := by
  rcases begun with ⟨index, part, rest, less, rfl, line, last⟩
  rcases List.eq_nil_or_concat part with rfl | ⟨front, byte, rfl⟩
  · exact ⟨index, less.le, List.append_nil _, by omega⟩
  · rw [line_eq] at line
    have finished : rest = [] := by
      apply eq_nil_of_getLast (unbroken_textAt tools account index) line
      rw [List.concat_eq_append, ← List.append_assoc,
        List.getLast?_concat] at ends
      rw [List.concat_eq_append, List.getLast?_concat]
      exact ends
    rw [finished, List.append_nil] at line
    refine ⟨index + 1, less, ?_, fun isLast => last (by omega)⟩
    rw [Account.front_succ, line_eq, line]

/-- A journal that ends in a line feed is one or the other. -/
theorem intact_or_failed
    (left : Left tools.floats tools.sha256 sent heard account content)
    (ends : content.getLast? = some 10) :
    Intact tools sent heard account content ∨
      Failed tools account content := by
  rcases left with
    begun |
      ⟨remaining, base, written, result, time, category, rfl, begun, record,
        error⟩
  · exact Or.inl (intact_of_begun begun ends)
  · rcases List.eq_nil_or_concat written with rfl | ⟨front, byte, rfl⟩
    · rw [List.append_nil] at ends ⊢
      exact Or.inl (intact_of_begun begun ends)
    · right
      rw [recordLine_eq] at record
      have finished : remaining = [] := by
        apply eq_nil_of_getLast
          (unbroken_objectBytes (floatless_entryOf _ _ _)) record
        rw [List.concat_eq_append, ← List.append_assoc,
          List.getLast?_concat] at ends
        rw [List.concat_eq_append, List.getLast?_concat]
        exact ends
      rw [finished, List.append_nil] at record
      rw [← record]
      rcases begun with ⟨index, part, rest, less, rfl, line, _⟩
      rw [line_eq] at line
      rcases part_of_line line with ⟨rfl, _⟩ | torn
      · refine ⟨index + 1, [], result, time, category, ?_, Or.inl rfl, error⟩
        rw [Account.front_succ, line_eq, List.nil_append]
        simp only [List.append_assoc]
      · exact
          ⟨index, part, result, time, category,
            by simp only [List.append_assoc], Or.inr torn, error⟩

end

/-! ## Lines of a journal -/

section

variable {tools : Tools} {account : Account}

/-- The lines of whole records. -/
theorem splitLines_front (count : Nat) :
    splitLines (account.front tools.floats tools.sha256 count) =
      (List.range count).map (textAt tools account) := by
  rw [front_eq]
  apply splitLines_flatten
  intro line member
  rcases List.mem_map.1 member with ⟨index, _, rfl⟩
  exact unbroken_textAt tools account index

/-- The lines of whole records and one more. -/
theorem splitLines_failed
    {count : Nat} {line : List UInt8} (unbroken : Unbroken line) :
    splitLines
        (account.front tools.floats tools.sha256 count ++ line ++ [10]) =
      (List.range count).map (textAt tools account) ++ [line] := by
  rw [front_eq]
  have joined :
      (((List.range count).map (textAt tools account)).map
              fun line => line ++ [10]).flatten ++ line ++ [10] =
        (((List.range count).map (textAt tools account) ++ [line]).map
          fun line => line ++ [10]).flatten := by
    rw [List.map_append, List.flatten_append, List.map_singleton,
      List.flatten_singleton, List.append_assoc]
  rw [joined]
  apply splitLines_flatten
  intro other member
  rcases List.mem_append.1 member with record | last
  · rcases List.mem_map.1 record with ⟨index, _, rfl⟩
    exact unbroken_textAt tools account index
  · rw [List.mem_singleton.1 last]
    exact unbroken

theorem readEntry_object
    {members : Members} (floatless : Floatless (.object members)) :
    readEntry tools (objectBytes tools.floats members) = .ok members := by
  unfold readEntry
  rw [loadsBytes_object rfl keepsSorted_uniquePairs floatless.canonical]

theorem readEntry_textAt (index : Nat) :
    readEntry tools (textAt tools account index) =
      .ok (entryAt tools account index) :=
  readEntry_object (floatless_entryOf _ _ _)

/-- Whole records are read back. -/
theorem mapM_readEntry_front (count : Nat) :
    ((List.range count).map (textAt tools account)).mapM (readEntry tools) =
      .ok ((List.range count).map (entryAt tools account)) := by
  rw [mapM_eq_ok_iff, List.forall₂_map_left_iff, List.forall₂_map_right_iff,
    List.forall₂_same]
  intro index _
  exact readEntry_textAt index

/-- A part of a record followed by a record is no object. -/
theorem readEntry_torn
    {index : Nat} {part more : List UInt8} {result : Result}
    {time : Option CivilTime} (started : part ≠ [])
    (torn : textAt tools account index = part ++ more) {entry : Members} :
    readEntry tools
        (part ++ objectBytes tools.floats (entryOf tools.sha256 result time)) ≠
      .ok entry := by
  have nothing :
      loadsBytes tools.wide tools.reader
          (part ++
            objectBytes tools.floats (entryOf tools.sha256 result time)) =
        none := by
    apply loadsBytes_torn rfl rfl keepsSorted_uniquePairs
      (resumed_entryOf tools) (floatless_entryOf _ _ _) torn started
    right
    rcases objectBytes_opens tools.floats
        (entryOf tools.sha256 result time) with
      ⟨next, rest, opens, _⟩
    intro empty
    rw [objectBytes, empty] at opens
    cases opens
  intro read
  unfold readEntry at read
  rw [nothing] at read
  cases read

end

/-! ## The checks of a record -/

section

variable {sha256 : Sha256} {result : Result} {time : Option CivilTime}

/-- A member of the result is a member of its record. -/
theorem get_result
    {key : String} {value : Json}
    (member : (key, value) ∈ result.members sha256) :
    get (entryOf sha256 result time) key = value := by
  apply get_entryOf
  cases time with
  | none => exact member
  | some time => exact List.mem_append_left _ member

variable (sha256 result time) in
theorem get_implementation :
    get (entryOf sha256 result time) "implementation_sha256" =
      .text result.implementation :=
  get_result (by simp [Result.members])

variable (sha256 result time) in
theorem get_stage :
    get (entryOf sha256 result time) "stage" = .text result.stage :=
  get_result (by simp [Result.members])

variable (sha256 result time) in
theorem get_sendAttempts :
    get (entryOf sha256 result time) "send_attempts" =
      .int result.sendAttempts :=
  get_result (by simp [Result.members])

variable (sha256 result time) in
theorem get_counts :
    get (entryOf sha256 result time) "http_method_counts" = result.counts :=
  get_result (by simp [Result.members])

variable (sha256 result time) in
theorem get_transportAccepted :
    get (entryOf sha256 result time) "transport_accepted" =
      .bool result.transportAccepted :=
  get_result (by simp [Result.members])

variable (sha256 result time) in
theorem get_flag {key : String}
    (flag : key = "human_acknowledged" ∨ key = "trading_authority") :
    get (entryOf sha256 result time) key = .bool false := by
  rcases flag with rfl | rfl
  · exact get_result (by simp [Result.members])
  · exact get_result (by simp [Result.members])

theorem get_messageId
    {identity : Int} (known : result.messageId = some identity) :
    get (entryOf sha256 result time) "message_id" = .int identity :=
  get_result (by simp [Result.members, known])

theorem get_errorCategory
    {error : Option String} (known : result.errorCategory = some error) :
    get (entryOf sha256 result time) "error_category" =
      error.elim .null .text := by
  apply get_result
  cases error <;> simp [Result.members, known]

theorem get_observed {observed : CivilTime} :
    get (entryOf sha256 result (some observed)) "observed_at_utc" =
      .text (isoformat observed) :=
  get_entryOf (List.mem_append_right _ List.mem_cons_self)

/-- The values of `common` are those of every record. -/
theorem get_common
    {expected : String × Json} (member : expected ∈ common sha256) :
    get (entryOf sha256 result time) expected.1 = expected.2 := by
  apply get_result
  simp only [common, List.mem_cons, List.not_mem_nil, or_false] at member
  rcases member with rfl | rfl | rfl | rfl | rfl <;> simp [Result.members]

variable (sha256 result time) in
theorem all_hasCommon :
    (common sha256).all (hasCommon (entryOf sha256 result time)) = true := by
  rw [List.all_eq_true]
  intro expected member
  unfold hasCommon
  rw [get_common member]
  simp only [common, List.mem_cons, List.not_mem_nil, or_false] at member
  rcases member with rfl | rfl | rfl | rfl | rfl <;> simp [isInt]

end

/-! ## The checks of the records of a run -/

section

variable (tools : Tools) (account : Account)

theorem keySet_entryAt {index : Nat} (less : index < 4) :
    keySet (entryAt tools account index) =
      (expectedKeys tools.sha256 index).toFinset := by
  unfold entryAt entryOf
  rw [keySet_dict]
  apply List.toFinset_eq_of_perm
  have base :
      (["schema_version", "implementation_sha256", "test_message_sha256",
            "expected_bot_username", "expected_chat_id", "recipient_purpose",
            "stage", "send_attempts", "http_method_counts",
            "transport_accepted", "human_acknowledged", "trading_authority"] :
          List String).Perm
        (baseKeys tools.sha256) := by
    show List.Perm _
      ["schema_version", "test_message_sha256", "expected_bot_username",
        "expected_chat_id", "recipient_purpose", "implementation_sha256",
        "human_acknowledged", "trading_authority", "stage", "send_attempts",
        "http_method_counts", "transport_accepted"]
    decide
  rcases index with _ | _ | _ | _ | index
  · exact base.append_right _
  · exact base.append_right _
  · exact base.append_right _
  · apply (base.append_right _).trans
    rw [expectedKeys, List.append_assoc]
    apply List.Perm.append_left
    show List.Perm ["error_category", "message_id", "observed_at_utc"]
      ["error_category", "observed_at_utc", "message_id"]
    decide
  · omega

theorem resultAt_implementation (index : Nat) :
    (account.resultAt index).implementation = account.implementation := by
  rcases index with _ | _ | _ | index <;> rfl

variable {account} in
theorem isDigest_entryAt
    (digest : isSha256 account.implementation = true) (index : Nat) :
    isDigest (get (entryAt tools account index) "implementation_sha256") =
      true := by
  unfold entryAt
  rw [get_implementation, resultAt_implementation]
  exact digest

/-- The stage and the count of attempts are those of the position. -/
theorem sequence_entryAt
    {index : Nat} {stage : String} (listed : stages[index]? = some stage) :
    (get (entryAt tools account index) "stage").pyEq (.text stage) = true ∧
      hasInt (entryAt tools account index) "send_attempts"
        (if 2 ≤ index then 1 else 0) = true := by
  unfold entryAt hasInt
  rw [get_stage, get_sendAttempts, pyEq_text_iff, Bool.and_eq_true,
    pyEq_int_iff, Json.text.injEq]
  rcases index with _ | _ | _ | _ | index
  · exact ⟨Option.some.inj listed, rfl, rfl⟩
  · exact ⟨Option.some.inj listed, rfl, rfl⟩
  · exact ⟨Option.some.inj listed, rfl, rfl⟩
  · exact ⟨Option.some.inj listed, rfl, rfl⟩
  · simp [stages] at listed

theorem hasCounts_entryAt {index : Nat} (less : index < 4) :
    hasCounts (entryAt tools account index) index = true := by
  have counts :
      (account.resultAt index).counts = .object (expectedCounts index) := by
    rcases index with _ | _ | _ | _ | index
    · rfl
    · rfl
    · rfl
    · rfl
    · omega
  unfold hasCounts entryAt
  rw [get_counts, counts, Bool.and_eq_true, List.all_eq_true]
  constructor
  · simp only [Json.pyEq]
    apply pyEqMembers_self
    intro entry member
    have listed := mem_dict member
    simp only [List.mem_cons, List.not_mem_nil, or_false] at listed
    rcases listed with rfl | rfl | rfl <;> exact (pyEq_int_iff _ _).2 rfl
  · intro entry member
    have listed := mem_dict member
    simp only [List.mem_cons, List.not_mem_nil, or_false] at listed
    rcases listed with rfl | rfl | rfl <;> rfl

theorem flags_entryAt (index : Nat) :
    (get (entryAt tools account index) "human_acknowledged").isFalse = true ∧
      (get (entryAt tools account index) "trading_authority").isFalse =
        true := by
  unfold entryAt
  rw [get_flag _ _ _ (Or.inl rfl), get_flag _ _ _ (Or.inr rfl)]
  exact ⟨rfl, rfl⟩

theorem transport_entryAt {index : Nat} (less : index < 4) :
    (if index = 3 then
        (get (entryAt tools account index) "transport_accepted").isTrue
      else
        (get (entryAt tools account index) "transport_accepted").isFalse) =
      true := by
  unfold entryAt
  rw [get_transportAccepted]
  rcases index with _ | _ | _ | _ | index
  · rfl
  · rfl
  · rfl
  · rfl
  · omega

/-- The last record has the id of the message. -/
theorem message_entryAt (messageId : Int) :
    hasInt (entryAt tools account 3) "message_id" messageId = true ↔
      account.message = messageId := by
  unfold hasInt entryAt
  have known : (account.resultAt 3).messageId = some account.message := rfl
  rw [get_messageId known, Bool.and_eq_true, pyEq_int_iff]
  exact and_iff_left rfl

/-- No other record has an id, and the first has no error category. -/
theorem not_mem_expectedKeys (sha256 : Sha256) (index : Nat) :
    (index ≠ 3 → "message_id" ∉ expectedKeys sha256 index) ∧
      (index = 0 → "error_category" ∉ expectedKeys sha256 index) := by
  constructor
  · intro other
    simp [expectedKeys, baseKeys, common, other]
  · rintro rfl
    simp [expectedKeys, baseKeys, common]

theorem noError_entryAt {index : Nat} (later : index ≠ 0) :
    isNone (get (entryAt tools account index) "error_category") = true := by
  have known : (account.resultAt index).errorCategory = some none := by
    rcases index with _ | _ | _ | index
    · exact absurd rfl later
    · rfl
    · rfl
    · rfl
  unfold entryAt
  rw [get_errorCategory known]
  rfl

/-- The time of a record is read back. -/
theorem observed_entryAt {index : Nat} (later : index ≠ 0) (error : String) :
    parseUtcTimestamp tools.iso
        (get (entryAt tools account index) "observed_at_utc") error =
      .ok (account.times index) := by
  unfold entryAt timeAt
  rw [if_neg later, get_observed, parseUtcTimestamp_isoformat]

/-- A record is not earlier than the one before it. -/
theorem timed_entryAt
    {index : Nat} (later : index ≠ 0) (previous observed : Option CivilTime) :
    (do
          let time ←
            parseUtcTimestamp tools.iso
              (get (entryAt tools account index) "observed_at_utc")
              "QUALIFICATION_JOURNAL_SEQUENCE_REJECTED"
          refuseIf
            (previous.any fun earlier : CivilTime =>
              time.microseconds < earlier.microseconds)
            "QUALIFICATION_JOURNAL_TIME_ORDER_REJECTED"
          return some time : Except String (Option CivilTime)) =
        .ok observed ↔
      (∀ earlier ∈ previous,
          earlier.microseconds ≤ (account.times index).microseconds) ∧
        some (account.times index) = observed := by
  rw [observed_entryAt tools account later]
  simp only [bind_eq_ok_iff, refuseIf_eq_ok_iff, pure_eq_ok_iff,
    exists_and_left, exists_const, Except.ok.injEq, exists_eq_left']
  rw [Bool.not_eq_true, Option.any_eq_false]
  simp

variable {account} in
/-- A record of a run passes when its id and its time do. -/
theorem checkEntry_entryAt
    (digest : isSha256 account.implementation = true) {index : Nat}
    {stage : String} (listed : stages[index]? = some stage)
    (messageId : Int) (previous observed : Option CivilTime) :
    checkEntry tools messageId index stage (entryAt tools account index)
          previous =
        .ok observed ↔
      (index = 3 → account.message = messageId) ∧
        (index ≠ 0 →
          ∀ earlier ∈ previous,
            earlier.microseconds ≤ (account.times index).microseconds) ∧
        observed =
          if index = 0 then previous else some (account.times index) := by
  have less : index < 4 := (List.getElem?_eq_some_iff.1 listed).1
  have keys := keySet_entryAt tools account less
  have digested := isDigest_entryAt tools digest index
  have shared :
      (common tools.sha256).all (hasCommon (entryAt tools account index)) =
        true :=
    all_hasCommon _ _ _
  have flags := flags_entryAt tools account index
  have sequence := sequence_entryAt tools account listed
  have counts := hasCounts_entryAt tools account less
  have transport := transport_entryAt tools account less
  have absent := not_mem_expectedKeys tools.sha256 index
  rw [@eq_comm _ observed]
  unfold checkEntry
  simp only [bind_eq_ok_iff, refuseIf_eq_ok_iff, exists_and_left, exists_const,
    keys, List.mem_toFinset, digested, shared, flags, sequence, counts,
    transport]
  by_cases first : index = 0
  · subst first
    simp [absent]
  · have error := noError_entryAt tools account first
    rw [if_neg first, if_neg first, timed_entryAt tools account first]
    have message := message_entryAt tools account messageId
    by_cases last : index = 3
    · subst last
      simp [error, message]
    · simp [first, last, error, absent]

end

/-! ## The four records of a run -/

/-- The clock did not go back between the records. -/
def Ordered (account : Account) : Prop :=
  (account.times 1).microseconds ≤ (account.times 2).microseconds ∧
    (account.times 2).microseconds ≤ (account.times 3).microseconds

section

variable {tools : Tools} {account : Account} {messageId : Int}

/-- The entries of a run that succeeds. -/
def entriesOf (tools : Tools) (account : Account) : List Members :=
  (List.range 4).map (entryAt tools account)

theorem checkEntries_front
    (digest : isSha256 account.implementation = true) :
    checkEntries tools messageId 0 none
          ((entriesOf tools account).zip stages) =
        .ok () ↔
      account.message = messageId ∧ Ordered account := by
  have listed :
      (entriesOf tools account).zip stages =
        [(entryAt tools account 0, "PRECHECK_STARTED"),
          (entryAt tools account 1, "IDENTITY_VERIFIED"),
          (entryAt tools account 2, "SEND_RESERVED"),
          (entryAt tools account 3, "TRANSPORT_ACCEPTED")] :=
    rfl
  have first := checkEntry_entryAt tools digest
    (show stages[0]? = some "PRECHECK_STARTED" from rfl) messageId
  have second := checkEntry_entryAt tools digest
    (show stages[1]? = some "IDENTITY_VERIFIED" from rfl) messageId
  have third := checkEntry_entryAt tools digest
    (show stages[2]? = some "SEND_RESERVED" from rfl) messageId
  have fourth := checkEntry_entryAt tools digest
    (show stages[3]? = some "TRANSPORT_ACCEPTED" from rfl) messageId
  rw [listed]
  simp only [checkEntries, bind_eq_ok_iff, Nat.zero_add, first,
    Nat.reduceAdd, second, third, fourth]
  simp [Ordered]
  exact and_left_comm

/-- Entries that agree with the first on the fixed fields have not drifted. -/
theorem drifted_eq_false
    {first : Members} {others : List Members}
    (same :
      ∀ entry ∈ others, ∀ key ∈ fingerprintFields,
        (get entry key).pyEq (get first key) = true) :
    drifted (first :: others) = false := by
  unfold drifted
  rw [List.any_eq_false]
  intro entry member
  rw [Bool.not_eq_true, List.any_eq_false]
  intro key field
  rw [same entry member key field]
  decide

/-- A fixed field has one value in all the records. -/
theorem fixed_field
    {key : String} (field : key ∈ fingerprintFields) :
    ∃ value : Json, value.pyEq value = true ∧
      ∀ index, get (entryAt tools account index) key = value := by
  simp only [fingerprintFields, List.mem_cons, List.not_mem_nil, or_false]
    at field
  rcases field with rfl | rfl | rfl | rfl | rfl
  · refine
      ⟨.text account.implementation, (pyEq_text_iff _ _).2 rfl,
        fun index => ?_⟩
    unfold entryAt
    rw [get_implementation, resultAt_implementation]
  · exact
      ⟨.text (tools.sha256.hexdigest (utf8 testMessage)),
        (pyEq_text_iff _ _).2 rfl,
        fun index => get_result (by simp [Result.members])⟩
  · exact
      ⟨.text expectedBot, (pyEq_text_iff _ _).2 rfl,
        fun index => get_result (by simp [Result.members])⟩
  · exact
      ⟨.int expectedTestChat, (pyEq_int_iff _ _).2 rfl,
        fun index => get_result (by simp [Result.members])⟩
  · exact
      ⟨.text "qualification_test_only", (pyEq_text_iff _ _).2 rfl,
        fun index => get_result (by simp [Result.members])⟩

/-- The records of a run have not drifted. -/
theorem drifted_records (others : List Nat) :
    drifted
        (entryAt tools account 0 :: others.map (entryAt tools account)) =
      false := by
  apply drifted_eq_false
  intro entry member key field
  rcases List.mem_map.1 member with ⟨index, _, rfl⟩
  rcases fixed_field field with ⟨value, equal, each⟩
  rw [each, each]
  exact equal

theorem front_ends (count : Nat) :
    (account.front tools.floats tools.sha256 (count + 1)).getLast? =
      some 10 := by
  rw [Account.front_succ, line_eq, ← List.append_assoc, List.getLast?_concat]

/-- The journal of a run that succeeds is read for its message only. -/
theorem validated_front
    (digest : isSha256 account.implementation = true)
    {entries : List Members} :
    validatedTerminalJournal tools messageId
          (account.front tools.floats tools.sha256 4) =
        .ok entries ↔
      0 < messageId ∧ account.message = messageId ∧ Ordered account ∧
        entries = entriesOf tools account := by
  have undrifted : ¬ drifted (entriesOf tools account) = true :=
    Bool.eq_false_iff.1 (drifted_records [1, 2, 3])
  have checked :=
    @checkEntries_front tools account messageId digest
  have limit : maxQualificationJournalLines = 8 := rfl
  unfold entriesOf at undrifted checked ⊢
  unfold validatedTerminalJournal
  simp only [bind_eq_ok_iff, refuseIf_eq_ok_iff, front_ends, splitLines_front,
    mapM_readEntry_front, exists_and_left, exists_const, Except.ok.injEq,
    exists_eq_left', List.length_map, List.length_range, checked, undrifted,
    limit, pure_eq_ok_iff]
  simp [and_assoc, eq_comm]

/-- An entry that passes reports no error after the first line. -/
theorem noError_of_checkEntry
    {index : Nat} {stage : String} {entry : Members}
    {previous observed : Option CivilTime}
    (passed :
      checkEntry tools messageId index stage entry previous = .ok observed)
    (later : index ≠ 0) :
    isNone (get entry "error_category") = true := by
  unfold checkEntry at passed
  simp only [bind_eq_ok_iff, refuseIf_eq_ok_iff, exists_and_left,
    exists_const] at passed
  rcases passed with ⟨-, -, -, -, -, -, -, -, -, -, succeeded, -⟩
  rw [not_and, Bool.not_eq_false] at succeeded
  exact succeeded later

/-- The last line of a failed journal has no line end inside. -/
theorem unbroken_failed
    {count : Nat} {part : List UInt8} {result : Result}
    {time : Option CivilTime}
    (torn : part = [] ∨ ∃ more, textAt tools account count = part ++ more) :
    Unbroken
      (part ++
        objectBytes tools.floats (entryOf tools.sha256 result time)) := by
  intro byte member
  rcases List.mem_append.1 member with inPart | inRecord
  · rcases torn with rfl | ⟨more, split⟩
    · cases inPart
    · apply unbroken_textAt tools account count
      rw [split]
      exact List.mem_append_left _ inPart
  · exact unbroken_objectBytes (floatless_entryOf _ _ _) byte inRecord

/-- A journal whose last line reports a failure is not read. -/
theorem rejected_of_failed
    {content : List UInt8} (failed : Failed tools account content)
    {entries : List Members} :
    validatedTerminalJournal tools messageId content ≠ .ok entries := by
  intro validated
  rcases failed with ⟨count, part, result, time, category, rfl, torn, error⟩
  have unbroken :
      Unbroken
        (part ++
          objectBytes tools.floats
            (entryOf tools.sha256 result (some time))) :=
    unbroken_failed torn
  unfold validatedTerminalJournal at validated
  simp only [bind_eq_ok_iff, refuseIf_eq_ok_iff] at validated
  rcases validated with
    ⟨_, _, _, _, _, lengths, values, read, _, checked, _⟩
  rw [splitLines_failed unbroken] at lengths read
  have three : count = 3 := by
    simp at lengths
    omega
  subst three
  by_cases started : part = []
  · subst started
    have known :
        ((List.range 3).map (textAt tools account) ++
              [[] ++
                objectBytes tools.floats
                  (entryOf tools.sha256 result (some time))]).mapM
            (readEntry tools) =
          .ok
            [entryAt tools account 0, entryAt tools account 1,
              entryAt tools account 2,
              entryOf tools.sha256 result (some time)] :=
      (mapM_eq_ok_iff _ _ _).2
        (.cons (readEntry_textAt 0)
          (.cons (readEntry_textAt 1)
            (.cons (readEntry_textAt 2)
              (.cons (readEntry_object (floatless_entryOf _ _ _)) .nil))))
    rw [known] at read
    cases read
    have listed :
        [entryAt tools account 0, entryAt tools account 1,
              entryAt tools account 2,
              entryOf tools.sha256 result (some time)].zip stages =
          [(entryAt tools account 0, "PRECHECK_STARTED"),
            (entryAt tools account 1, "IDENTITY_VERIFIED"),
            (entryAt tools account 2, "SEND_RESERVED"),
            (entryOf tools.sha256 result (some time),
              "TRANSPORT_ACCEPTED")] :=
      rfl
    rw [listed] at checked
    simp only [checkEntries, bind_eq_ok_iff] at checked
    rcases checked with ⟨_, _, _, _, _, _, _, passed, _⟩
    have none := noError_of_checkEntry passed (by decide)
    rw [get_errorCategory error] at none
    cases none
  · rcases torn with empty | ⟨more, split⟩
    · exact started empty
    · rcases
          mapM_eq_ok_exists read
            (List.mem_append_right _ List.mem_cons_self) with
        ⟨entry, taken⟩
      exact readEntry_torn started split taken

/-- Four whole records do not end in a failure. -/
theorem not_failed_front :
    ¬ Failed tools account
      (account.front tools.floats tools.sha256 4) := by
  rintro ⟨count, part, result, time, category, same, torn, error⟩
  have lines := congrArg splitLines same
  rw [splitLines_front, splitLines_failed (unbroken_failed torn)] at lines
  have three : count = 3 := by
    have lengths := congrArg List.length lines
    simp at lengths
    omega
  subst three
  rw [List.range_succ, List.map_append, List.map_singleton] at lines
  have last :
      textAt tools account 3 =
        part ++
          objectBytes tools.floats
            (entryOf tools.sha256 result (some time)) :=
    List.singleton_inj.1 (List.append_cancel_left lines)
  have read := @readEntry_textAt tools account 3
  rw [last] at read
  by_cases started : part = []
  · subst started
    rw [List.nil_append, readEntry_object (floatless_entryOf _ _ _),
      Except.ok.injEq] at read
    have none := noError_entryAt tools account (show 3 ≠ 0 by decide)
    rw [← read, get_errorCategory error] at none
    cases none
  · rcases torn with empty | ⟨more, split⟩
    · exact started empty
    · exact readEntry_torn started split read

/-- Of all that a run can leave, only its four records are read. -/
theorem validated_of_left
    {sent : Prop} {heard : Int → Prop} {content : List UInt8}
    (left : Left tools.floats tools.sha256 sent heard account content)
    {entries : List Members}
    (validated :
      validatedTerminalJournal tools messageId content = .ok entries) :
    content = account.front tools.floats tools.sha256 4 ∧ sent ∧
      heard account.message := by
  have parts := validated
  unfold validatedTerminalJournal at parts
  simp only [bind_eq_ok_iff, refuseIf_eq_ok_iff] at parts
  rcases parts with ⟨_, _, _, ends, _, lengths, _⟩
  rcases intact_or_failed left (not_not.1 ends) with
    ⟨count, _, rfl, last⟩ | failed
  · have four : count = 4 := by
      rw [splitLines_front] at lengths
      simp at lengths
      omega
    subst four
    exact ⟨rfl, last rfl⟩
  · exact absurd validated (rejected_of_failed failed)

/-- A run that has left four records has heard of the acceptance. -/
theorem heard_of_left_front
    {sent : Prop} {heard : Int → Prop}
    (left :
      Left tools.floats tools.sha256 sent heard account
        (account.front tools.floats tools.sha256 4)) :
    heard account.message := by
  rcases intact_or_failed left (front_ends 3) with
    ⟨count, _, same, last⟩ | failed
  · have lines := congrArg splitLines same
    rw [splitLines_front, splitLines_front] at lines
    have four : count = 4 := by
      have lengths := congrArg List.length lines
      simp at lengths
      omega
    exact (last four).2
  · exact absurd failed not_failed_front

end

/-! ## A run whose message is accepted -/

/-- `json`, `hashlib` and `datetime` for texts in UTF-8. -/
def plainTools : Tools where
  floats := exponentFloats
  sha256 := tableDigest []
  iso := isoReader
  wide _ := none

/-- Two authorised processes with a digest. -/
def digestedProcesses : State Bool where
  journal := none
  requests := []
  processes _ := .fresh true (hexText 0)

theorem digestedProcesses_started : Started digestedProcesses where
  fresh _ := ⟨true, hexText 0, rfl⟩
  requests_eq := rfl
  foreign _ := nofun

theorem digestedProcesses_digested : Digested digestedProcesses :=
  fun _ => isSha256_hexText 0

/-- The first process sends the message, and it is accepted. -/
def sentAndAccepted : List (Bool × Event) :=
  [(true, .proceed), (true, .proceed), (true, .proceed), (true, .proceed),
    (true, .proceed), (true, .proceed), (true, .proceed),
    (true,
      .answer [("is_bot", .bool true), ("username", .text expectedBot)]),
    (true, .proceed),
    (true,
      .answer [("id", .int expectedTestChat), ("type", .text "group")]),
    (true, .observe leapDay), (true, .proceed), (true, .proceed),
    (true, .observe leapDay), (true, .proceed), (true, .proceed),
    (true, .proceed),
    (true,
      .answer
        [("chat", .object [("id", .int expectedTestChat)]),
          ("message_id", .int 7)]),
    (true, .observe leapDay), (true, .proceed), (true, .proceed)]

/-- What this process records. -/
def plainAccount : Account where
  implementation := hexText 0
  times _ := leapDay
  message := 7

theorem sentAndAccepted_eq :
    sentAndAccepted =
      (undisturbed plainAccount).map fun event => (true, event) :=
  rfl

theorem sentAndAccepted_returns :
    ∃ state file,
      perform (step plainTools.floats plainTools.sha256) digestedProcesses
          sentAndAccepted =
        some state ∧
        state.journal = some file ∧ file.creator = some true ∧
        file.content =
          plainAccount.front plainTools.floats plainTools.sha256 4 ∧
        (state.processes true).stage = .returned ∧
        (state.processes true).result.transportAccepted = true := by
  have positive : 0 < plainAccount.message := by decide
  have fresh :
      digestedProcesses.processes true =
        .fresh true plainAccount.implementation :=
    rfl
  have absent : digestedProcesses.journal = none := rfl
  rcases @qualifies_undisturbed plainTools.floats plainTools.sha256 _ _ _ _ _
      positive fresh absent with
    ⟨state, run, process, journal⟩
  refine ⟨state, _, ?_, journal, rfl, rfl, ?_, ?_⟩
  · rw [sentAndAccepted_eq]
    exact run
  · rw [process]
  · rw [process]
    rfl

/-! ## Reading back whatever a run has left -/

section

variable {Pid : Type} [DecidableEq Pid] {tools : Tools}
variable {start state : State Pid} {actions : List (Pid × Event)}
variable {pid : Pid} {file : Journal Pid}

theorem pos_of_sentMessage
    {value : Members} {message : Int}
    (found : Process.sentMessage value = some message) :
    0 < message := by
  unfold Process.sentMessage at found
  split at found
  · split at found
    · rename_i conditions
      cases found
      rw [Bool.and_eq_true, decide_eq_true_iff] at conditions
      exact conditions.2
    · cases found
  · cases found

omit [DecidableEq Pid] in
/-- A journal that is read back tells of an accepted message. -/
theorem account_of_validated
    (recounted : Recounted tools.floats tools.sha256 actions state)
    (present : state.journal = some file) (creator : file.creator = some pid)
    {messageId : Int} {entries : List Members}
    (validated :
      validatedTerminalJournal tools messageId file.content =
        .ok entries) :
    ∃ account : Account,
      isSha256 account.implementation = true ∧
        account.message = messageId ∧ Ordered account ∧
        file.content = account.front tools.floats tools.sha256 4 ∧
        entries = entriesOf tools account ∧
        Accepted actions pid messageId ∧
        (pid, Method.sendMessage) ∈ state.requests := by
  rcases recounted.shown pid file present creator with
    ⟨account, digest, fits⟩
  rcases validated_of_left fits.left validated with
    ⟨content, sent, accepted⟩
  rw [content] at validated
  rcases (validated_front digest).1 validated with
    ⟨_, message, ordered, read⟩
  exact
    ⟨account, digest, message, ordered, content, read, message ▸ accepted,
      sent⟩

/-- Whatever happens to the processes, the journal is read back for an id
exactly if it is the four records of a run whose one message was accepted under
this id, and the clock did not go back. -/
theorem journal_validates_iff
    (started : Started start) (digested : Digested start)
    (run :
      perform (step tools.floats tools.sha256) start actions = some state)
    (present : state.journal = some file) (creator : file.creator = some pid)
    (messageId : Int) :
    (∃ entries,
        validatedTerminalJournal tools messageId file.content =
          .ok entries) ↔
      ∃ account : Account,
        isSha256 account.implementation = true ∧
          account.message = messageId ∧ Ordered account ∧
          file.content = account.front tools.floats tools.sha256 4 ∧
          Accepted actions pid messageId ∧
          (pid, Method.sendMessage) ∈ state.requests := by
  have recounted :
      Recounted tools.floats tools.sha256 actions state :=
    recounted_of_perform started digested run
  constructor
  · rintro ⟨entries, validated⟩
    rcases account_of_validated recounted present creator validated with
      ⟨account, digest, message, ordered, content, _, accepted, sent⟩
    exact ⟨account, digest, message, ordered, content, accepted, sent⟩
  · rintro ⟨account, digest, message, ordered, content, accepted, _⟩
    rcases accepted with ⟨value, _, found⟩
    refine ⟨entriesOf tools account, ?_⟩
    rw [content]
    exact
      (validated_front digest).2
        ⟨pos_of_sentMessage found, message, ordered, rfl⟩

theorem journal_validates_iff_accepted :
    ∃ state file,
      perform (step plainTools.floats plainTools.sha256) digestedProcesses
          sentAndAccepted =
        some state ∧
        state.journal = some file ∧
        ((∃ entries,
            validatedTerminalJournal plainTools 7 file.content =
              .ok entries) ↔
          ∃ account : Account,
            isSha256 account.implementation = true ∧
              account.message = 7 ∧ Ordered account ∧
              file.content =
                account.front plainTools.floats plainTools.sha256 4 ∧
              Accepted sentAndAccepted true 7 ∧
              (true, Method.sendMessage) ∈ state.requests) := by
  rcases sentAndAccepted_returns with
    ⟨state, file, run, present, creator, _, _, _⟩
  exact
    ⟨state, file, run, present,
      journal_validates_iff digestedProcesses_started
        digestedProcesses_digested run present creator 7⟩

/-- A run that returns an accepted message has left a journal, which stays as
it is and is read back for the id of this message and for no other. -/
theorem journal_of_accepted
    (started : Started start) (digested : Digested start)
    (run :
      perform (step tools.floats tools.sha256) start actions = some state)
    (returned : (state.processes pid).stage = .returned)
    (accepted : (state.processes pid).result.transportAccepted = true) :
    ∃ file,
      state.journal = some file ∧
        (∀ later,
          Reaches (step tools.floats tools.sha256) state later →
            later.journal = some file) ∧
        ∃ account : Account,
          (state.processes pid).result.messageId = some account.message ∧
            file.content = account.front tools.floats tools.sha256 4 ∧
            ∀ messageId,
              (∃ entries,
                  validatedTerminalJournal tools messageId file.content =
                    .ok entries) ↔
                messageId = account.message ∧ Ordered account := by
  have recounted :
      Recounted tools.floats tools.sha256 actions state :=
    recounted_of_perform started digested run
  rcases created_of_transportAccepted started (reaches_of_perform run)
      accepted with
    ⟨file, present, creator⟩
  have kept :
      ∀ later,
        Reaches (step tools.floats tools.sha256) state later →
          later.journal = some file :=
    fun later rest =>
      journal_of_returned recounted.consistent present creator returned rest
  rcases recounted.shown pid file present creator with
    ⟨account, digest, fits⟩
  unfold Fits at fits
  rw [returned] at fits
  rcases fits with ⟨left, finished⟩
  rcases finished accepted with ⟨result, content⟩
  rw [content] at left
  rcases heard_of_left_front left with ⟨value, _, found⟩
  refine
    ⟨file, present, kept, account, by rw [result]; rfl, content,
      fun messageId => ?_⟩
  rw [content]
  constructor
  · rintro ⟨entries, validated⟩
    rcases (validated_front digest).1 validated with
      ⟨_, message, ordered, _⟩
    exact ⟨message.symm, ordered⟩
  · rintro ⟨rfl, ordered⟩
    exact
      ⟨entriesOf tools account,
        (validated_front digest).2
          ⟨pos_of_sentMessage found, rfl, ordered, rfl⟩⟩

theorem journal_of_accepted_returned :
    ∃ state file,
      perform (step plainTools.floats plainTools.sha256) digestedProcesses
          sentAndAccepted =
        some state ∧
        state.journal = some file ∧
        (∀ later,
          Reaches (step plainTools.floats plainTools.sha256) state later →
            later.journal = some file) ∧
        ∃ account : Account,
          (state.processes true).result.messageId = some account.message ∧
            file.content =
              account.front plainTools.floats plainTools.sha256 4 ∧
            ∀ messageId,
              (∃ entries,
                  validatedTerminalJournal plainTools messageId
                      file.content =
                    .ok entries) ↔
                messageId = account.message ∧ Ordered account := by
  rcases sentAndAccepted_returns with
    ⟨state, _, run, _, _, _, returned, accepted⟩
  rcases journal_of_accepted digestedProcesses_started
      digestedProcesses_digested run returned accepted with
    ⟨file, told⟩
  exact ⟨state, file, run, told⟩

end

end KairosDeploy.Alerts.Acknowledgement
