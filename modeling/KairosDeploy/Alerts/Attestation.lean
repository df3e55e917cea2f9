import KairosDeploy.Alerts.Acknowledgement

/-!
# The operator's attestation

The operator confirms the test message against the bytes of its journal, and
the confirmation is written to a receipt that is created once.  Whoever reads
the receipt back may rely on the journal, on the message and on the operator's
statement, whatever interrupted the processes that wrote them.
-/

namespace KairosDeploy.Alerts.Attestation

open KairosDeploy.Alerts.Acknowledgement
open KairosDeploy.Alerts.JournalRecords
open KairosDeploy.Alerts.Qualification
open KairosDeploy.Library.HexDigest
open KairosDeploy.Library.JsonBytes
open KairosDeploy.Library.JsonPairs (keepsSorted_uniquePairs)
open KairosDeploy.Library.JsonText (write)
open KairosDeploy.Library.JsonValue
open KairosDeploy.Library.Refusal
open KairosDeploy.Library.Timestamp
open KairosDeploy.Library.TornText
open KairosDeploy.Library.Transition

/-! ## Reading the two files -/

/-- `ACK_CONFIRMATION`. -/
def ackConfirmation : String := "OWNER_SAW_QUALIFICATION_MESSAGE"

/-- `MAX_QUALIFICATION_JOURNAL_BYTES`. -/
def maxQualificationJournalBytes : Nat := 128 * 1024

/-- The limit of the receipt. -/
def maxReceiptBytes : Nat := 16 * 1024

/-- `_read_protected_file` of what is at the path. -/
def readProtectedFile (file : Option (List UInt8)) (maximum : Nat) :
    Except String (List UInt8) :=
  match file with
  | none => .error "QUALIFICATION_JOURNAL_REQUIRED"
  | some value => do
      refuseIf (¬ (0 < value.length ∧ value.length ≤ maximum))
        "QUALIFICATION_JOURNAL_SIZE_REJECTED"
      return value

section

variable (tools : Tools)

/-- `_qualification_scope`. -/
def qualificationScope : String :=
  tools.sha256.hexdigest
    (objectBytes tools.floats
      (dict
        [("bot", .text expectedBot), ("chat", .int expectedTestChat)]))

/-- `expected`. -/
def expected (journalSha256 : String) (messageId : Int) : Members :=
  [("schema_version", .int 1),
    ("kind", .text "kairos.telegram.local-operator-attestation.v1"),
    ("status", .text "RECORDED_LOCAL_OPERATOR_ATTESTATION"),
    ("basis", .text "LOCAL_OPERATOR_ATTESTATION"),
    ("bot_username", .text expectedBot),
    ("chat_id", .int expectedTestChat),
    ("recipient_purpose", .text "qualification_test_only"),
    ("scope_sha256", .text (qualificationScope tools)),
    ("qualification_journal_sha256", .text journalSha256),
    ("message_id", .int messageId),
    ("confirmation", .text ackConfirmation),
    ("human_acknowledged", .bool true),
    ("telegram_user_authenticated", .bool false),
    ("operationally_qualified", .bool false),
    ("trading_authority", .bool false)]

/-- `boolean_fields`. -/
def booleanFields : List (String × Bool) :=
  [("human_acknowledged", true), ("telegram_user_authenticated", false),
    ("operationally_qualified", false), ("trading_authority", false)]

/-- `receipt`. -/
def receiptOf (journalSha256 : String) (messageId : Int)
    (attestedAt : CivilTime) : Members :=
  expected tools journalSha256 messageId ++
    [("attested_at_utc", .text (isoformat attestedAt))]

/-- A value of `expected` is there, and is an `int` where it has to be. -/
def hasExpected (receipt : Members) (entry : String × Json) : Bool :=
  (get receipt entry.1).pyEq entry.2 &&
    (isInt (get receipt entry.1) ||
      !(entry.1 = "schema_version" || entry.1 = "chat_id" ||
        entry.1 = "message_id"))

/-- A field is this very `bool`. -/
def hasBoolean (receipt : Members) (field : String × Bool) : Bool :=
  match get receipt field.1 with
  | .bool value => value = field.2
  | _ => false

/-- The condition for `ACKNOWLEDGEMENT_RECEIPT_MISMATCH`, negated. -/
def isExpected (journalSha256 : String) (messageId : Int)
    (receipt : Members) : Bool :=
  (expected tools journalSha256 messageId).all (hasExpected receipt) &&
    booleanFields.all (hasBoolean receipt) &&
    keySet receipt =
      ((expected tools journalSha256 messageId).map Prod.fst ++
        ["attested_at_utc"]).toFinset

section

variable (journalSha256 : String) (messageId : Int)

/-- What both functions ask of the journal. -/
def readJournal (journal : Option (List UInt8)) :
    Except String (List Members) := do
  refuseIf (isSha256 journalSha256 = false)
    "EXPECTED_JOURNAL_SHA256_REQUIRED"
  refuseIf (messageId ≤ 0) "MESSAGE_ID_REQUIRED"
  let raw ← readProtectedFile journal maxQualificationJournalBytes
  refuseIf (tools.sha256.hexdigest raw ≠ journalSha256)
    "QUALIFICATION_JOURNAL_SHA256_MISMATCH"
  validatedTerminalJournal tools messageId raw

/-- `terminal_at`. -/
def terminalAt (entries : List Members) : Except String CivilTime :=
  parseUtcTimestamp tools.iso
    (get (entries.getLast?.getD []) "observed_at_utc")
    "QUALIFICATION_JOURNAL_SEQUENCE_REJECTED"

/-- The receipt as it is read. -/
def readReceipt (raw : List UInt8) : Except String Members :=
  match loadsBytes tools.wide tools.reader raw with
  | some (.object receipt) => .ok receipt
  | some _ => .error "ACKNOWLEDGEMENT_RECEIPT_MISMATCH"
  | none => .error "ACKNOWLEDGEMENT_RECEIPT_INVALID"

/-- `read_acknowledgement`, without the path of the receipt. -/
def readAcknowledgement (journal receiptFile : Option (List UInt8)) :
    Except String Members := do
  let entries ← readJournal tools journalSha256 messageId journal
  let raw ← readProtectedFile receiptFile maxReceiptBytes
  let receipt ← readReceipt tools raw
  refuseIf (isExpected tools journalSha256 messageId receipt = false)
    "ACKNOWLEDGEMENT_RECEIPT_MISMATCH"
  let attestedAt ←
    parseUtcTimestamp tools.iso (get receipt "attested_at_utc")
      "ACKNOWLEDGEMENT_RECEIPT_MISMATCH"
  let terminal ← terminalAt tools entries
  refuseIf (attestedAt.microseconds < terminal.microseconds)
    "ACKNOWLEDGEMENT_TIME_ORDER_REJECTED"
  return expected tools journalSha256 messageId ++
    [("attested_at_utc", get receipt "attested_at_utc")]

/-- `acknowledge` up to the creation of the receipt. -/
def acknowledge (confirmation : String) (journal : Option (List UInt8))
    (attestedAt : CivilTime) : Except String Members := do
  refuseIf (confirmation ≠ ackConfirmation)
    "EXPLICIT_ACKNOWLEDGEMENT_REQUIRED"
  let entries ← readJournal tools journalSha256 messageId journal
  let terminal ← terminalAt tools entries
  refuseIf (attestedAt.microseconds < terminal.microseconds)
    "ACKNOWLEDGEMENT_TIME_ORDER_REJECTED"
  return receiptOf tools journalSha256 messageId attestedAt

end

end

/-! ## The receipt is read back -/

section

variable {tools : Tools} {journalSha256 : String} {messageId : Int}
variable {attestedAt : CivilTime}

variable (tools journalSha256 messageId attestedAt) in
theorem receiptOf_distinct :
    ((receiptOf tools journalSha256 messageId attestedAt).map
      Prod.fst).Nodup := by
  simp [receiptOf, expected]

/-- A field of the receipt has its value. -/
theorem get_receiptOf
    {key : String} {value : Json}
    (member :
      (key, value) ∈ receiptOf tools journalSha256 messageId attestedAt) :
    get (dict (receiptOf tools journalSha256 messageId attestedAt)) key =
      value :=
  get_dict_of_mem (receiptOf_distinct _ _ _ _) member

/-- No value of the receipt is a float. -/
theorem floatless_of_mem
    {entry : String × Json}
    (member : entry ∈ receiptOf tools journalSha256 messageId attestedAt) :
    Floatless entry.2 := by
  simp only [receiptOf, expected, List.cons_append, List.nil_append,
    List.mem_cons, List.not_mem_nil, or_false] at member
  rcases member with
    rfl | rfl | rfl | rfl | rfl | rfl | rfl | rfl | rfl | rfl | rfl | rfl |
      rfl | rfl | rfl | rfl
  all_goals first | exact .int _ | exact .text _ | exact .bool _

variable (tools journalSha256 messageId attestedAt) in
theorem floatless_receiptOf :
    Floatless
      (.object (dict (receiptOf tools journalSha256 messageId attestedAt))) :=
  wellFormed_dict fun _ member => floatless_of_mem member

variable (tools journalSha256 messageId attestedAt) in
/-- The receipt passes for the digest and the id it was made for. -/
theorem isExpected_receiptOf :
    isExpected tools journalSha256 messageId
        (dict (receiptOf tools journalSha256 messageId attestedAt)) =
      true := by
  unfold isExpected
  rw [Bool.and_eq_true, Bool.and_eq_true, List.all_eq_true,
    List.all_eq_true, decide_eq_true_iff, keySet_dict]
  refine ⟨⟨?_, ?_⟩, ?_⟩
  · intro entry member
    have listed :
        entry ∈ receiptOf tools journalSha256 messageId attestedAt :=
      List.mem_append_left _ member
    have equal : entry.2.pyEq entry.2 = true :=
      pyEq_self (fun _ impossible => impossible.elim)
        (floatless_of_mem listed)
    unfold hasExpected
    rw [get_receiptOf listed, equal, Bool.true_and]
    simp only [expected, List.mem_cons, List.not_mem_nil, or_false] at member
    rcases member with
      rfl | rfl | rfl | rfl | rfl | rfl | rfl | rfl | rfl | rfl | rfl | rfl |
        rfl | rfl | rfl <;> simp [isInt]
  · intro field member
    have found :
        get (dict (receiptOf tools journalSha256 messageId attestedAt))
            field.1 =
          .bool field.2 := by
      apply get_receiptOf
      simp only [booleanFields, List.mem_cons, List.not_mem_nil, or_false]
        at member
      rcases member with rfl | rfl | rfl | rfl <;> simp [receiptOf, expected]
    unfold hasBoolean
    rw [found]
    exact decide_eq_true rfl
  · rw [keySet, receiptOf, List.map_append]
    rfl

/-- A receipt passes for no other digest and no other id. -/
theorem eq_of_isExpected
    {otherSha256 : String} {otherId : Int}
    (passes :
      isExpected tools otherSha256 otherId
          (dict (receiptOf tools journalSha256 messageId attestedAt)) =
        true) :
    otherSha256 = journalSha256 ∧ otherId = messageId := by
  unfold isExpected at passes
  rw [Bool.and_eq_true, Bool.and_eq_true, List.all_eq_true] at passes
  have digest :=
    passes.1.1 ("qualification_journal_sha256", .text otherSha256)
      (by simp [expected])
  have identity :=
    passes.1.1 ("message_id", .int otherId) (by simp [expected])
  have ownDigest :
      get (dict (receiptOf tools journalSha256 messageId attestedAt))
          "qualification_journal_sha256" =
        .text journalSha256 :=
    get_receiptOf (by simp [receiptOf, expected])
  have ownIdentity :
      get (dict (receiptOf tools journalSha256 messageId attestedAt))
          "message_id" =
        .int messageId :=
    get_receiptOf (by simp [receiptOf, expected])
  unfold hasExpected at digest identity
  rw [ownDigest, Bool.and_eq_true, pyEq_text_iff] at digest
  rw [ownIdentity, Bool.and_eq_true, pyEq_int_iff] at identity
  exact ⟨(Json.text.inj digest.1).symm, identity.1.symm⟩

theorem readProtectedFile_eq_ok
    {file : Option (List UInt8)} {maximum : Nat} {value : List UInt8} :
    readProtectedFile file maximum = .ok value ↔
      file = some value ∧ 0 < value.length ∧ value.length ≤ maximum := by
  cases file with
  | none => simp [readProtectedFile]
  | some raw =>
      simp only [readProtectedFile, bind_eq_ok_iff, refuseIf_eq_ok_iff,
        pure_eq_ok_iff, exists_const, not_not, Option.some.injEq]
      constructor
      · rintro ⟨sized, rfl⟩
        exact ⟨rfl, sized⟩
      · rintro ⟨rfl, sized⟩
        exact ⟨sized, rfl⟩

/-- A receipt is read with or without the end of its line. -/
theorem readReceipt_whole
    {bytes : List UInt8}
    (whole :
      bytes =
          objectBytes tools.floats
            (dict (receiptOf tools journalSha256 messageId attestedAt)) ∨
        bytes =
          objectBytes tools.floats
              (dict (receiptOf tools journalSha256 messageId attestedAt)) ++
            [10]) :
    readReceipt tools bytes =
      .ok (dict (receiptOf tools journalSha256 messageId attestedAt)) := by
  have canonical :=
    (floatless_receiptOf tools journalSha256 messageId attestedAt).canonical
  unfold readReceipt
  rcases whole with object | line
  · rw [object, loadsBytes_object rfl keepsSorted_uniquePairs canonical]
  · rw [line, loadsBytes_line rfl keepsSorted_uniquePairs canonical]

/-- What `acknowledge` has written is read back on the same journal. -/
theorem readAcknowledgement_of_acknowledge
    {confirmation : String} {journal : Option (List UInt8)}
    {bytes : List UInt8}
    (acknowledged :
      acknowledge tools journalSha256 messageId confirmation journal
          attestedAt =
        .ok (receiptOf tools journalSha256 messageId attestedAt))
    (bounded :
      readProtectedFile (some bytes) maxReceiptBytes = .ok bytes)
    (received :
      readReceipt tools bytes =
        .ok (dict (receiptOf tools journalSha256 messageId attestedAt))) :
    readAcknowledgement tools journalSha256 messageId journal (some bytes) =
      .ok (receiptOf tools journalSha256 messageId attestedAt) := by
  unfold acknowledge at acknowledged
  simp only [bind_eq_ok_iff, refuseIf_eq_ok_iff, pure_eq_ok_iff]
    at acknowledged
  rcases acknowledged with
    ⟨_, _, entries, journalRead, terminal, terminalRead, _, ordered, _⟩
  have time :
      get (dict (receiptOf tools journalSha256 messageId attestedAt))
          "attested_at_utc" =
        .text (isoformat attestedAt) :=
    get_receiptOf (List.mem_append_right _ List.mem_cons_self)
  unfold readAcknowledgement
  simp only [bind_eq_ok_iff, refuseIf_eq_ok_iff, pure_eq_ok_iff]
  refine
    ⟨entries, journalRead, bytes, bounded, _, received, ⟨⟩, ?_, attestedAt,
      ?_, terminal, terminalRead, ⟨⟩, ordered, ?_⟩
  · rw [isExpected_receiptOf]
    decide
  · rw [time, parseUtcTimestamp_isoformat]
  · rw [time]
    rfl

end

/-! ## The processes around the two files -/

/-- The receipt and what is still to be written to it. -/
structure Receipt where
  content : List UInt8
  remaining : List UInt8

/-- The state of the qualification and the receipt that is there. -/
structure Site (Pid : Type) where
  qualification : State Pid
  receipt : Option Receipt

/-- What happens at a site.  A process that writes the receipt may be killed,
which is that it never writes again. -/
inductive Action (Pid : Type) where
  /-- A step of a `qualify` process. -/
  | qualify (action : Pid × Event)
  /-- `acknowledge` reads the journal and the clock and creates the receipt. -/
  | attest (journalSha256 : String) (messageId : Int)
      (confirmation : String) (attestedAt : CivilTime)
  /-- Some of the bytes of the receipt reach the file. -/
  | write (count : Nat)

namespace Site

variable {Pid : Type}

/-- The bytes of the journal. -/
def journal (site : Site Pid) : Option (List UInt8) :=
  site.qualification.journal.map Journal.content

/-- The bytes of the receipt. -/
def receiptFile (site : Site Pid) : Option (List UInt8) :=
  site.receipt.map Receipt.content

end Site

/-- Some bytes reach the receipt. -/
def Receipt.write (count : Nat) (receipt : Receipt) : Receipt where
  content := receipt.content ++ receipt.remaining.take count
  remaining := receipt.remaining.drop count

section

variable (tools : Tools) {Pid : Type} [DecidableEq Pid]

/-- A step at a site. -/
def siteStep (site : Site Pid) : Action Pid → Option (Site Pid)
  | .qualify action =>
      (step tools.floats tools.sha256 site.qualification action).map
        fun next => { site with qualification := next }
  | .attest journalSha256 messageId confirmation attestedAt =>
      match site.receipt,
        acknowledge tools journalSha256 messageId confirmation site.journal
          attestedAt with
      | none, .ok members =>
          some
            { site with
              receipt :=
                some
                  ⟨[], objectBytes tools.floats (dict members) ++ [10]⟩ }
      -- A refusal, EXISTING_ACKNOWLEDGEMENT_REQUIRES_REVIEW among them.
      | _, _ => some site
  | .write count =>
      site.receipt.map fun receipt =>
        { site with receipt := some (receipt.write count) }

end

/-- The steps of the `qualify` processes. -/
def qualifications {Pid : Type} (actions : List (Action Pid)) :
    List (Pid × Event) :=
  actions.filterMap fun
    | .qualify action => some action
    | _ => none

section

variable {tools : Tools} {Pid : Type}

/-- The receipt has the bytes that an operator's statement gives it. -/
def Stated (tools : Tools) (actions : List (Action Pid))
    (receipt : Receipt) : Prop :=
  ∃ journalSha256 messageId attestedAt,
    Action.attest journalSha256 messageId ackConfirmation attestedAt ∈
        actions ∧
      objectBytes tools.floats
            (dict (receiptOf tools journalSha256 messageId attestedAt)) ++
          [10] =
        receipt.content ++ receipt.remaining

/-- What a run of a site has left. -/
structure Witnessed (tools : Tools) (actions : List (Action Pid))
    (site : Site Pid) : Prop where
  recounted :
    Recounted tools.floats tools.sha256 (qualifications actions)
      site.qualification
  created :
    site.qualification.journal = none ∨
      ∃ pid, CreatedBy pid site.qualification.journal
  stated : ∀ receipt, site.receipt = some receipt → Stated tools actions receipt

theorem Stated.later
    {past : List (Action Pid)} {receipt : Receipt}
    (stated : Stated tools past receipt) (action : Action Pid) :
    Stated tools (past ++ [action]) receipt := by
  rcases stated with ⟨digest, identity, attestedAt, member, bytes⟩
  exact ⟨digest, identity, attestedAt, List.mem_append_left _ member, bytes⟩

theorem Stated.write
    {past : List (Action Pid)} {receipt : Receipt}
    (stated : Stated tools past receipt) (count : Nat) :
    Stated tools past (receipt.write count) := by
  rcases stated with ⟨digest, identity, attestedAt, member, bytes⟩
  refine ⟨digest, identity, attestedAt, member, bytes.trans ?_⟩
  show receipt.content ++ receipt.remaining =
    receipt.content ++ receipt.remaining.take count ++
      receipt.remaining.drop count
  rw [List.append_assoc, List.take_append_drop]

/-- A receipt is created with all of its bytes still to write. -/
theorem stated_created
    {actions : List (Action Pid)} {journalSha256 : String}
    {messageId : Int} {attestedAt : CivilTime}
    (member :
      Action.attest journalSha256 messageId ackConfirmation attestedAt ∈
        actions) :
    Stated tools actions
      ⟨[],
        objectBytes tools.floats
            (dict (receiptOf tools journalSha256 messageId attestedAt)) ++
          [10]⟩ :=
  ⟨journalSha256, messageId, attestedAt, member, (List.nil_append _).symm⟩

/-- An accepted statement has the confirmation in it. -/
theorem acknowledge_eq_ok
    {journalSha256 confirmation : String} {messageId : Int}
    {journal : Option (List UInt8)} {attestedAt : CivilTime}
    {members : Members}
    (acknowledged :
      acknowledge tools journalSha256 messageId confirmation journal
          attestedAt =
        .ok members) :
    confirmation = ackConfirmation ∧
      members = receiptOf tools journalSha256 messageId attestedAt := by
  unfold acknowledge at acknowledged
  simp only [bind_eq_ok_iff, refuseIf_eq_ok_iff, pure_eq_ok_iff]
    at acknowledged
  rcases acknowledged with ⟨_, confirmed, _, _, _, _, _, _, rfl⟩
  exact ⟨not_not.1 confirmed, rfl⟩

variable [DecidableEq Pid]

theorem Witnessed.step
    {past : List (Action Pid)} {before after : Site Pid}
    {action : Action Pid} (witnessed : Witnessed tools past before)
    (taken : siteStep tools before action = some after) :
    Witnessed tools (past ++ [action]) after := by
  have stays :
      (∀ own, action ≠ .qualify own) →
        Recounted tools.floats tools.sha256
          (qualifications (past ++ [action])) before.qualification := by
    intro other
    have same : qualifications (past ++ [action]) = qualifications past := by
      unfold qualifications
      rw [List.filterMap_append]
      cases action with
      | qualify own => exact absurd rfl (other own)
      | attest => exact List.append_nil _
      | write => exact List.append_nil _
    rw [same]
    exact witnessed.recounted
  cases action with
  | qualify own =>
      rcases Option.map_eq_some_iff.1 taken with ⟨next, moved, rfl⟩
      refine ⟨?_, ?_, fun receipt found => ?_⟩
      · have actions :
            qualifications (past ++ [.qualify own]) =
              qualifications past ++ [own] := by
          unfold qualifications
          rw [List.filterMap_append]
          rfl
        rw [actions]
        exact witnessed.recounted.step moved
      · exact created_of_step moved witnessed.created
      · exact (witnessed.stated receipt found).later _
  | attest journalSha256 messageId confirmation attestedAt =>
      have recounted := stays (by rintro own ⟨⟩)
      simp only [siteStep] at taken
      split at taken
      · rename_i members absent acknowledged
        rw [← Option.some.inj taken]
        refine ⟨recounted, witnessed.created, fun receipt found => ?_⟩
        rw [← Option.some.inj found]
        rcases acknowledge_eq_ok acknowledged with ⟨confirmed, given⟩
        rw [confirmed, given]
        exact
          stated_created (List.mem_append_right _ List.mem_cons_self)
      · rw [← Option.some.inj taken]
        exact
          ⟨recounted, witnessed.created, fun receipt found =>
            (witnessed.stated receipt found).later _⟩
  | write count =>
      have recounted := stays (by rintro own ⟨⟩)
      rcases Option.map_eq_some_iff.1 taken with ⟨receipt, found, rfl⟩
      refine ⟨recounted, witnessed.created, ?_⟩
      rintro written ⟨⟩
      exact ((witnessed.stated receipt found).later _).write count

omit [DecidableEq Pid] in
/-- The last of the four records has the time of the acceptance. -/
theorem terminalAt_entriesOf (tools : Tools) (account : Account) :
    terminalAt tools (entriesOf tools account) = .ok (account.times 3) := by
  have last :
      (entriesOf tools account).getLast?.getD [] =
        entryAt tools account 3 := by
    unfold entriesOf
    rw [List.range_succ, List.map_append, List.map_singleton,
      List.getLast?_concat, Option.getD_some]
  unfold terminalAt
  rw [last]
  exact observed_entryAt tools account (by decide) _

omit [DecidableEq Pid] in
/-- Of a receipt that broke off, nothing is read. -/
theorem whole_of_readReceipt
    {journalSha256 : String} {messageId : Int} {attestedAt : CivilTime}
    {content remaining : List UInt8} {receipt : Members}
    (split :
      objectBytes tools.floats
            (dict (receiptOf tools journalSha256 messageId attestedAt)) ++
          [10] =
        content ++ remaining)
    (started : 0 < content.length)
    (read : readReceipt tools content = .ok receipt) :
    content =
        objectBytes tools.floats
          (dict (receiptOf tools journalSha256 messageId attestedAt)) ∨
      content =
        objectBytes tools.floats
            (dict (receiptOf tools journalSha256 messageId attestedAt)) ++
          [10] := by
  have floatless :=
    floatless_receiptOf tools journalSha256 messageId attestedAt
  rcases part_of_line split with ⟨whole, _⟩ | ⟨more, part⟩
  · exact Or.inr whole
  · by_cases finished : more = []
    · rw [finished, List.append_nil] at part
      exact Or.inl part.symm
    · have nothing :
          loadsBytes tools.wide tools.reader
              (content ++ utf8 (String.ofList [])) =
            none :=
        loadsBytes_torn rfl rfl keepsSorted_uniquePairs resumed_nil floatless
          part (List.ne_nil_of_length_pos started) (Or.inl finished)
      have empty : utf8 (String.ofList []) = [] := rfl
      rw [empty, List.append_nil] at nothing
      unfold readReceipt at read
      rw [nothing] at read
      cases read

end

section

variable {tools : Tools} {Pid : Type}
variable {site : Site Pid} {actions : List (Action Pid)}

/-- What stands behind a receipt that is read back. -/
structure Attested (tools : Tools) (actions : List (Action Pid))
    (site : Site Pid) (pid : Pid) (content : List UInt8)
    (journalSha256 : String) (messageId : Int) (account : Account)
    (attestedAt : CivilTime) : Prop where
  /-- An operator confirmed this digest and this id. -/
  confirmed :
    Action.attest journalSha256 messageId ackConfirmation attestedAt ∈ actions
  digest : journalSha256 = tools.sha256.hexdigest content
  /-- The journal is the four records of a run. -/
  records : content = account.front tools.floats tools.sha256 4
  implementation : isSha256 account.implementation = true
  message : account.message = messageId
  ordered : Ordered account
  later : (account.times 3).microseconds ≤ attestedAt.microseconds
  /-- Its one message was sent, and accepted under the id. -/
  accepted : Accepted (qualifications actions) pid messageId
  sent : (pid, Method.sendMessage) ∈ site.qualification.requests
  /-- Both files are within their limits, and the receipt is whole. -/
  bounded : content.length ≤ maxQualificationJournalBytes
  receipt :
    ∃ bytes, site.receiptFile = some bytes ∧
      bytes.length ≤ maxReceiptBytes ∧
      (bytes =
          objectBytes tools.floats
            (dict (receiptOf tools journalSha256 messageId attestedAt)) ∨
        bytes =
          objectBytes tools.floats
              (dict (receiptOf tools journalSha256 messageId attestedAt)) ++
            [10])

/-- On the four records of an accepted run the operator's statement is taken. -/
theorem acknowledge_front
    {account : Account} {content : List UInt8} {journalSha256 : String}
    {messageId : Int} {attestedAt : CivilTime}
    (implementation : isSha256 account.implementation = true)
    (records : content = account.front tools.floats tools.sha256 4)
    (digest : journalSha256 = tools.sha256.hexdigest content)
    (message : account.message = messageId) (positive : 0 < messageId)
    (ordered : Ordered account)
    (bounded : content.length ≤ maxQualificationJournalBytes)
    (later :
      (account.times 3).microseconds ≤ attestedAt.microseconds) :
    acknowledge tools journalSha256 messageId ackConfirmation (some content)
        attestedAt =
      .ok (receiptOf tools journalSha256 messageId attestedAt) := by
  have validated :
      validatedTerminalJournal tools messageId content =
        .ok (entriesOf tools account) := by
    rw [records]
    exact
      (validated_front implementation).2 ⟨positive, message, ordered, rfl⟩
  have nonempty : 0 < content.length := by
    apply List.length_pos_of_ne_nil
    intro empty
    have ends := @front_ends tools account 3
    rw [← records, empty] at ends
    cases ends
  have isDigest : isSha256 journalSha256 = true := by
    rw [digest]
    exact tools.sha256.isSha256_hexdigest _
  have journalRead :
      readJournal tools journalSha256 messageId (some content) =
        .ok (entriesOf tools account) := by
    unfold readJournal
    simp only [bind_eq_ok_iff, refuseIf_eq_ok_iff]
    exact
      ⟨⟨⟩, Bool.not_eq_false _ ▸ isDigest, ⟨⟩, not_le.2 positive, content,
        readProtectedFile_eq_ok.2 ⟨rfl, nonempty, bounded⟩, ⟨⟩,
        not_not.2 digest.symm, validated⟩
  unfold acknowledge
  simp only [bind_eq_ok_iff, refuseIf_eq_ok_iff, pure_eq_ok_iff]
  exact
    ⟨⟨⟩, not_not.2 rfl, entriesOf tools account, journalRead,
      account.times 3, terminalAt_entriesOf tools account, ⟨⟩,
      not_lt.2 later, trivial⟩

/-- A whole receipt that was written on a journal is read back on it. -/
theorem readAcknowledgement_whole
    {confirmation journalSha256 : String} {messageId : Int}
    {journal : Option (List UInt8)} {attestedAt : CivilTime}
    {bytes : List UInt8}
    (acknowledged :
      acknowledge tools journalSha256 messageId confirmation journal
          attestedAt =
        .ok (receiptOf tools journalSha256 messageId attestedAt))
    (limited : bytes.length ≤ maxReceiptBytes)
    (whole :
      bytes =
          objectBytes tools.floats
            (dict (receiptOf tools journalSha256 messageId attestedAt)) ∨
        bytes =
          objectBytes tools.floats
              (dict (receiptOf tools journalSha256 messageId attestedAt)) ++
            [10]) :
    readAcknowledgement tools journalSha256 messageId journal (some bytes) =
      .ok (receiptOf tools journalSha256 messageId attestedAt) := by
  have received := readReceipt_whole whole
  have started : 0 < bytes.length := by
    apply List.length_pos_of_ne_nil
    rcases objectBytes_opens tools.floats
        (dict (receiptOf tools journalSha256 messageId attestedAt)) with
      ⟨next, rest, opens, _⟩
    rw [opens] at whole
    rintro rfl
    rcases whole with empty | empty <;> cases empty
  exact
    readAcknowledgement_of_acknowledge acknowledged
      (readProtectedFile_eq_ok.2 ⟨rfl, started, limited⟩) received

/-- A journal that is read back is the four records of an accepted run. -/
theorem Witnessed.account_of_readJournal
    (witnessed : Witnessed tools actions site)
    {journalSha256 : String} {messageId : Int} {entries : List Members}
    (read :
      readJournal tools journalSha256 messageId site.journal = .ok entries) :
    ∃ file pid account,
      site.qualification.journal = some file ∧
        file.creator = some pid ∧
        entries = entriesOf tools account ∧
        journalSha256 = tools.sha256.hexdigest file.content ∧
        file.content = account.front tools.floats tools.sha256 4 ∧
        isSha256 account.implementation = true ∧
        account.message = messageId ∧
        Ordered account ∧
        Accepted (qualifications actions) pid messageId ∧
        (pid, Method.sendMessage) ∈ site.qualification.requests ∧
        file.content.length ≤ maxQualificationJournalBytes := by
  unfold readJournal at read
  simp only [bind_eq_ok_iff, refuseIf_eq_ok_iff] at read
  rcases read with ⟨_, _, _, _, bytes, protectedRead, _, digest, validated⟩
  rcases readProtectedFile_eq_ok.1 protectedRead with ⟨journal, _, bounded⟩
  rcases Option.map_eq_some_iff.1 journal with ⟨file, present, rfl⟩
  have created : ∃ pid, CreatedBy pid site.qualification.journal :=
    witnessed.created.resolve_left fun missing =>
      Option.some_ne_none file (present.symm.trans missing)
  rcases created with ⟨pid, _, same, creator⟩
  rw [← Option.some.inj (present.symm.trans same)] at creator
  rcases
      account_of_validated witnessed.recounted present creator validated with
    ⟨account, implementation, message, ordered, content, listed, accepted,
      sent⟩
  exact
    ⟨file, pid, account, present, creator, listed, (not_not.1 digest).symm,
      content, implementation, message, ordered, accepted, sent, bounded⟩

/-- A receipt that is read back is the whole receipt of an operator's
statement. -/
theorem Witnessed.attest_of_readReceipt
    (witnessed : Witnessed tools actions site)
    {journalSha256 : String} {messageId : Int} {attestedAt : CivilTime}
    {raw : List UInt8} {receipt : Members}
    (there : site.receiptFile = some raw) (started : 0 < raw.length)
    (received : readReceipt tools raw = .ok receipt)
    (passes : isExpected tools journalSha256 messageId receipt = true)
    (timed :
      parseUtcTimestamp tools.iso (get receipt "attested_at_utc")
          "ACKNOWLEDGEMENT_RECEIPT_MISMATCH" =
        .ok attestedAt) :
    Action.attest journalSha256 messageId ackConfirmation attestedAt ∈
        actions ∧
      get receipt "attested_at_utc" = .text (isoformat attestedAt) ∧
      (raw =
          objectBytes tools.floats
            (dict (receiptOf tools journalSha256 messageId attestedAt)) ∨
        raw =
          objectBytes tools.floats
              (dict (receiptOf tools journalSha256 messageId attestedAt)) ++
            [10]) := by
  rcases Option.map_eq_some_iff.1 there with ⟨own, found, same⟩
  rcases witnessed.stated own found with
    ⟨statedSha256, statedId, statedAt, member, split⟩
  rw [same] at split
  have whole := whole_of_readReceipt split started received
  have known := Except.ok.inj (received.symm.trans (readReceipt_whole whole))
  rw [known] at passes timed ⊢
  rcases eq_of_isExpected passes with ⟨sameDigest, sameId⟩
  have time :
      get (dict (receiptOf tools statedSha256 statedId statedAt))
          "attested_at_utc" =
        .text (isoformat statedAt) :=
    get_receiptOf (List.mem_append_right _ List.mem_cons_self)
  rw [time, parseUtcTimestamp_isoformat] at timed
  have sameTime : statedAt = attestedAt := Except.ok.inj timed
  rw [← sameDigest, ← sameId, sameTime] at member whole
  refine ⟨member, ?_, whole⟩
  rw [time, sameTime]

/-- What is read back goes back to a statement and an accepted run. -/
theorem Witnessed.attested_of_readAcknowledgement
    (witnessed : Witnessed tools actions site)
    {journalSha256 : String} {messageId : Int} {value : Members}
    (read :
      readAcknowledgement tools journalSha256 messageId site.journal
          site.receiptFile =
        .ok value) :
    ∃ file pid account attestedAt,
      site.qualification.journal = some file ∧
        file.creator = some pid ∧
        value = receiptOf tools journalSha256 messageId attestedAt ∧
        Attested tools actions site pid file.content journalSha256
          messageId account attestedAt := by
  unfold readAcknowledgement at read
  simp only [bind_eq_ok_iff, refuseIf_eq_ok_iff, pure_eq_ok_iff] at read
  rcases read with
    ⟨entries, journalRead, raw, protectedRead, receipt, received, _, passes,
      attestedAt, timed, terminal, terminalRead, _, later, returned⟩
  rcases witnessed.account_of_readJournal journalRead with
    ⟨file, pid, account, present, creator, listed, digest, records,
      implementation, message, ordered, accepted, sent, bounded⟩
  have terminalTime : terminal = account.times 3 := by
    rw [listed, terminalAt_entriesOf] at terminalRead
    exact (Except.ok.inj terminalRead).symm
  rcases readProtectedFile_eq_ok.1 protectedRead with
    ⟨there, started, limited⟩
  rcases
      witnessed.attest_of_readReceipt there started received
        (Bool.eq_true_of_not_eq_false passes) timed with
    ⟨confirmed, time, whole⟩
  rw [time] at returned
  rw [terminalTime] at later
  exact
    ⟨file, pid, account, attestedAt, present, creator, returned.symm,
      { confirmed := confirmed
        digest := digest
        records := records
        implementation := implementation
        message := message
        ordered := ordered
        later := not_lt.1 later
        accepted := accepted
        sent := sent
        bounded := bounded
        receipt := ⟨raw, there, limited, whole⟩ }⟩

/-- A receipt with such a statement and such a run behind it is read back. -/
theorem readAcknowledgement_of_attested
    {file : Journal Pid} {pid : Pid} {account : Account}
    {journalSha256 : String} {messageId : Int} {attestedAt : CivilTime}
    (present : site.qualification.journal = some file)
    (attested :
      Attested tools actions site pid file.content journalSha256 messageId
        account attestedAt) :
    readAcknowledgement tools journalSha256 messageId site.journal
        site.receiptFile =
      .ok (receiptOf tools journalSha256 messageId attestedAt) := by
  have sameFile : site.journal = some file.content := by
    unfold Site.journal
    rw [present]
    rfl
  have positive : 0 < messageId := by
    rcases attested.accepted with ⟨answer, _, found⟩
    exact pos_of_sentMessage found
  rcases attested.receipt with ⟨bytes, there, limited, whole⟩
  rw [sameFile, there]
  exact
    readAcknowledgement_whole
      (acknowledge_front attested.implementation attested.records
        attested.digest attested.message positive attested.ordered
        attested.bounded attested.later)
      limited whole

end

section

variable {tools : Tools} {Pid : Type} [DecidableEq Pid]
variable {start site : Site Pid} {actions : List (Action Pid)}

/-- What holds of the two files along every run that starts without them. -/
theorem witnessed_of_perform
    (started : Started start.qualification)
    (digested : Digested start.qualification)
    (unwritten : start.qualification.journal = none)
    (absent : start.receipt = none)
    (run : perform (siteStep tools) start actions = some site) :
    Witnessed tools actions site := by
  refine
    invariant_of_perform (Witnessed tools)
      ⟨Started.recounted started digested, Or.inl unwritten, ?_⟩
      (fun _ _ _ _ before taken => before.step taken) run
  intro receipt found
  rw [absent] at found
  cases found

/-- Whatever interrupts the processes around the two files, the receipt is read
back exactly if an operator confirmed this digest and this id, the one message
of the journal was accepted under the id before that, and the receipt is
whole. -/
theorem readAcknowledgement_iff_attested
    (started : Started start.qualification)
    (digested : Digested start.qualification)
    (unwritten : start.qualification.journal = none)
    (absent : start.receipt = none)
    (run : perform (siteStep tools) start actions = some site)
    (journalSha256 : String) (messageId : Int) (value : Members) :
    readAcknowledgement tools journalSha256 messageId site.journal
          site.receiptFile =
        .ok value ↔
      ∃ file pid account attestedAt,
        site.qualification.journal = some file ∧
          file.creator = some pid ∧
          value = receiptOf tools journalSha256 messageId attestedAt ∧
          Attested tools actions site pid file.content journalSha256
            messageId account attestedAt := by
  have witnessed : Witnessed tools actions site :=
    witnessed_of_perform started digested unwritten absent run
  constructor
  · exact witnessed.attested_of_readAcknowledgement
  · rintro ⟨file, pid, account, attestedAt, present, _, rfl, attested⟩
    exact readAcknowledgement_of_attested present attested

/-- The steps of the `qualify` processes leave the receipt. -/
theorem perform_qualify
    {actions : List (Pid × Event)} {next : State Pid}
    (run :
      perform (step tools.floats tools.sha256) start.qualification actions =
        some next) :
    perform (siteStep tools) start (actions.map .qualify) =
      some { start with qualification := next } := by
  induction actions generalizing start with
  | nil =>
      cases run
      rfl
  | cons action actions induction =>
      rcases Option.bind_eq_some_iff.1 run with ⟨middle, taken, rest⟩
      have moved :
          siteStep tools start (.qualify action) =
            some { start with qualification := middle } :=
        Option.map_eq_some_iff.2 ⟨middle, taken, rfl⟩
      rw [List.map_cons, perform, moved]
      exact @induction { start with qualification := middle } rest

/-- A site where nothing has happened. -/
def emptySite : Site Bool where
  qualification := digestedProcesses
  receipt := none

theorem emptySite_started : Started emptySite.qualification :=
  digestedProcesses_started

theorem emptySite_digested : Digested emptySite.qualification :=
  digestedProcesses_digested

/-- The receipt that the operator's statement gives. -/
def plainReceipt : List UInt8 :=
  objectBytes plainTools.floats
      (dict (receiptOf plainTools (hexText 0) 7 leapDay)) ++
    [10]

/-- The first process of a site sends the message, which is accepted.  The
operator confirms it, and the receipt is written in two parts. -/
def confirmedAtSite : List (Action Bool) :=
  sentAndAccepted.map .qualify ++
    [.attest (hexText 0) 7 ackConfirmation leapDay, .write 100,
      .write (plainReceipt.length - 100)]

theorem acknowledge_plain :
    acknowledge plainTools (hexText 0) 7 ackConfirmation
        (some (plainAccount.front plainTools.floats plainTools.sha256 4))
        leapDay =
      .ok (receiptOf plainTools (hexText 0) 7 leapDay) := by
  have digest :
      ∀ content, hexText 0 = plainTools.sha256.hexdigest content :=
    fun _ => rfl
  have short :
      ∀ index < 4,
        (write plainTools.floats
            (.object (entryAt plainTools plainAccount index))).length ≤
          2000 := by
    decide +kernel
  have bounded :
      (plainAccount.front plainTools.floats plainTools.sha256 4).length ≤
        maxQualificationJournalBytes :=
    (length_front_le plainTools plainAccount short).trans
      (show 4 * (4 * 2000 + 1) ≤ 128 * 1024 by decide)
  have ordered : Ordered plainAccount := ⟨le_refl _, le_refl _⟩
  exact
    acknowledge_front (isSha256_hexText 0) rfl (digest _) rfl (by decide)
      ordered bounded (le_refl _)

theorem confirmedAtSite_receipt :
    ∃ site,
      perform (siteStep plainTools) emptySite confirmedAtSite = some site ∧
        site.journal =
          some
            (plainAccount.front plainTools.floats plainTools.sha256 4) ∧
        site.receiptFile = some plainReceipt := by
  rcases sentAndAccepted_returns with
    ⟨state, file, run, present, _, content, _, _⟩
  have qualified := @perform_qualify plainTools _ _ emptySite _ _ run
  let sent : Site Bool := { emptySite with qualification := state }
  have journal :
      sent.journal =
        some
          (plainAccount.front plainTools.floats plainTools.sha256 4) := by
    unfold Site.journal
    rw [present, Option.map_some, content]
  have attested :
      siteStep plainTools sent
          (.attest (hexText 0) 7 ackConfirmation leapDay) =
        some { sent with receipt := some ⟨[], plainReceipt⟩ } := by
    have absent : sent.receipt = none := rfl
    simp only [siteStep, absent, journal, acknowledge_plain]
    rfl
  have written :
      plainReceipt.take 100 ++
          (plainReceipt.drop 100).take (plainReceipt.length - 100) =
        plainReceipt := by
    rw [← List.length_drop, List.take_length, List.take_append_drop]
  let confirmed : Site Bool :=
    { sent with
      receipt :=
        some
          (Receipt.write (plainReceipt.length - 100)
            (Receipt.write 100 ⟨[], plainReceipt⟩)) }
  have rest :
      perform (siteStep plainTools) sent
          [.attest (hexText 0) 7 ackConfirmation leapDay, .write 100,
            .write (plainReceipt.length - 100)] =
        some confirmed := by
    rw [perform, attested]
    rfl
  exact
    ⟨confirmed, (perform_append _ qualified).trans rest, journal,
      congrArg some written⟩

theorem readAcknowledgement_iff_attested_confirmed :
    ∃ site,
      perform (siteStep plainTools) emptySite confirmedAtSite = some site ∧
        readAcknowledgement plainTools (hexText 0) 7 site.journal
            site.receiptFile =
          .ok (receiptOf plainTools (hexText 0) 7 leapDay) ∧
        ∃ file pid account attestedAt,
          site.qualification.journal = some file ∧
            file.creator = some pid ∧
            receiptOf plainTools (hexText 0) 7 leapDay =
              receiptOf plainTools (hexText 0) 7 attestedAt ∧
            Attested plainTools confirmedAtSite site pid file.content
              (hexText 0) 7 account attestedAt := by
  rcases confirmedAtSite_receipt with ⟨site, run, journal, receipt⟩
  have short :
      (write plainTools.floats
          (.object
            (dict (receiptOf plainTools (hexText 0) 7 leapDay)))).length ≤
        2000 := by
    decide +kernel
  have limited : plainReceipt.length ≤ maxReceiptBytes := by
    have bytes :=
      length_utf8_le
        (write plainTools.floats
          (.object (dict (receiptOf plainTools (hexText 0) 7 leapDay))))
    rw [plainReceipt, objectBytes, List.length_append,
      List.length_singleton]
    unfold maxReceiptBytes
    omega
  have read :
      readAcknowledgement plainTools (hexText 0) 7 site.journal
          site.receiptFile =
        .ok (receiptOf plainTools (hexText 0) 7 leapDay) := by
    rw [journal, receipt]
    exact readAcknowledgement_whole acknowledge_plain limited (Or.inr rfl)
  have unwritten : emptySite.qualification.journal = none := rfl
  have absent : emptySite.receipt = none := rfl
  exact
    ⟨site, run, read,
      (readAcknowledgement_iff_attested emptySite_started emptySite_digested
        unwritten absent run (hexText 0) 7 _).1 read⟩

end

end KairosDeploy.Alerts.Attestation
