import KairosDeploy.Epoch.OutboxPublication

/-!
# The Redis proof of a booting epoch

`boot_redis_state` compares the outbox and the inbox with the publication hash
and the stream before a new process may serve.  It looks at the stream through
a length, a set of ids and a set of admitted payloads, and at each message
through its receipt.  This module translates it and proves which states pass:
the stream is one copy of every message and one duplicate of one of them.
-/

namespace KairosDeploy.Epoch.BootRedisState

open KairosDeploy.Library.Refusal
open KairosDeploy.Library.RedisStream
open KairosDeploy.Epoch.Contract
open KairosDeploy.Epoch.OutboxPublication

/-! ## Texts of stream ids -/

/-- The text of a stream id, as the client returns it. -/
def idText (id : StreamId) : String :=
  String.ofList (receiptText id)

/--
The id that the server reads from a text.  Both numbers have 64 bits; leading
zeros are read as zeros.
-/
def parseStreamId (text : String) : Option StreamId :=
  if positiveReceipt text.toList then
    let ms := Nat.ofDigitChars 10 (text.toList.takeWhile Char.isDigit) 0
    let seq :=
      Nat.ofDigitChars 10 ((text.toList.dropWhile Char.isDigit).drop 1) 0
    if ms < 2 ^ 64 ∧ seq < 2 ^ 64 then some ⟨ms, seq⟩ else none
  else
    none

theorem takeWhile_receiptText (id : StreamId) :
    (receiptText id).takeWhile Char.isDigit = Nat.toDigits 10 id.ms ∧
      (receiptText id).dropWhile Char.isDigit =
        '-' :: Nat.toDigits 10 id.seq := by
  have digits :
      ∀ character ∈ Nat.toDigits 10 id.ms, character.isDigit = true :=
    fun character member =>
      Nat.isDigit_of_mem_toDigits (by decide) (by decide) member
  unfold receiptText
  constructor
  · rw [List.takeWhile_append_of_pos digits]
    exact List.append_nil _
  · rw [List.dropWhile_append_of_pos digits]
    rfl

theorem positiveReceipt_receiptText (id : StreamId) :
    positiveReceipt (receiptText id) = true := by
  have sequence :
      ∀ character ∈ Nat.toDigits 10 id.seq, character.isDigit = true :=
    fun character member =>
      Nat.isDigit_of_mem_toDigits (by decide) (by decide) member
  unfold positiveReceipt
  rw [(takeWhile_receiptText id).1, (takeWhile_receiptText id).2]
  simpa [List.isEmpty_iff] using sequence

/-- The server reads an id that it has written. -/
theorem parseStreamId_idText
    {id : StreamId} (bounded : id.ms < 2 ^ 64 ∧ id.seq < 2 ^ 64) :
    parseStreamId (idText id) = some id := by
  have text : (idText id).toList = receiptText id := String.toList_ofList
  unfold parseStreamId
  rw [text, if_pos (positiveReceipt_receiptText id),
    (takeWhile_receiptText id).1, (takeWhile_receiptText id).2]
  simp only [List.drop_succ_cons, List.drop_zero,
    Nat.ofDigitChars_ten_toDigits]
  rw [if_pos bounded]

/-! ## What the checks read -/

/-- A row of `message_outbox`, with its lease. -/
structure LeasedOutboxRow extends OutboxRow where
  leaseOwner : Option String
  leaseUntil : Option Int
deriving DecidableEq, Repr

/-- The columns of `message_inbox` that are selected. -/
structure InboxRow where
  consumer : String
  messageId : String
  topic : String
  status : String
  payloadSha256 : Option String
deriving DecidableEq, Repr

/-- What `json.loads` returns, as far as a receipt goes. -/
inductive JsonValue where
  | text (value : String)
  | array (items : List JsonValue)
  | other

/-- What `xinfo_groups` returns for one group. -/
structure ConsumerGroup where
  name : String
  lastDeliveredId : String
deriving DecidableEq, Repr

/-- The members of a `ClosedBarEventV1` that identify it. -/
structure BarIdentity where
  messageId : String
  source : String
  symbol : String
deriving DecidableEq, Repr

/-- `ClosedBarEventV1`, as far as its identity goes. -/
structure IdentityModel where
  modelValidate : Payload → Option BarIdentity

/-- A stream whose ids fit the server's 64-bit numbers. -/
structure ServerStream where
  stream : Stream EntryFields
  bounded :
    ∀ entry ∈ stream.entries,
      entry.id.ms < 2 ^ 64 ∧ entry.id.seq < 2 ^ 64

/--
Everything that `boot_redis_state` reads.  Message ids are unique in
`message_outbox`.
-/
structure BootQueues where
  owner : String
  defaultAccessRefused : Bool
  rolesAuthenticated : Bool
  schemaVerified : Bool
  outbox : List LeasedOutboxRow
  uniqueMessages : (outbox.map fun row => row.messageId).Nodup
  inbox : List InboxRow
  ledger : Dict String
  server : ServerStream
  groups : List ConsumerGroup
  pending : Nat

/-- What `boot_redis_state` returns. -/
structure BootRedisProof where
  outboxRows : Nat
  completedInbox : Nat
  streamEntries : Nat
  publicationReceipts : Nat
  publicationMessageIdsSha256 : String
deriving DecidableEq, Repr

/--
The value of `data` when it is the only field.  The client returns the fields
of an entry as a dictionary, in which the last of several equal names stays.
-/
def dataOf (fields : EntryFields) : Option String :=
  if fields.all fun field => field.1 = "data" then
    fields.getLast?.map Prod.snd
  else
    none

/-- `"kairos-epoch-consumer-" + owner[:12] + ":bars"`. -/
def consumerName (owner : String) : String :=
  "kairos-epoch-consumer-" ++ String.ofList (owner.toList.take 12) ++ ":bars"

/-! ## The checks -/

section Checks

variable (codec : PayloadCodec) (model : IdentityModel)
    (loads : String → Option JsonValue)

/-- A row whose bar is published and that nobody is working on. -/
def Settled (row : LeasedOutboxRow) (event : BarIdentity) : Prop :=
  row.topic = topic ∧ row.producer = source ∧ row.publishedAt ≠ none ∧
    1 ≤ row.publishAttempts ∧ row.lastError = none ∧
    row.leaseOwner = none ∧ row.leaseUntil = none ∧
    row.deadLetteredAt = none ∧ row.reconciliationState = "NONE" ∧
    codec.digest row.payload = row.payloadSha256 ∧
    event.messageId = row.messageId ∧ event.source = source ∧
    event.symbol ∈ symbols

instance (row : LeasedOutboxRow) (event : BarIdentity) :
    Decidable (Settled codec row event) :=
  inferInstanceAs (Decidable (_ ∧ _))

/-- The digest and the canonical text of one outbox row. -/
def durableEntry (row : LeasedOutboxRow) :
    Except EpochError (String × String) :=
  match model.modelValidate row.payload with
  | none => .error ⟨"ValidationError"⟩
  | some event => do
      refuseIf (¬ Settled codec row event)
        ⟨"BOOT_QUEUE_IDENTITY_OR_STATE_CONFLICT"⟩
      return (codec.digest row.payload, codec.encoded row.payload)

/-- `durable`: digest and text by message id. -/
def durableMessages (outbox : List LeasedOutboxRow) :
    Except EpochError (Dict (String × String)) :=
  outbox.foldlM
    (fun durable row => do
      let entry ← durableEntry codec model row
      return durable.insert row.messageId entry)
    ∅

/-- One row of the loop over the inbox. -/
def checkInboxRow
    (owner : String) (durable : Dict (String × String))
    (seen : List String) (row : InboxRow) :
    Except EpochError (List String) := do
  refuseIf
    (row.consumer ≠ consumerName owner ∨ row.topic ≠ topic ∨
      row.status ≠ "COMPLETED" ∨
      (durable.lookup row.messageId).map Prod.fst = none ∨
      row.payloadSha256 ≠ (durable.lookup row.messageId).map Prod.fst ∨
      row.messageId ∈ seen)
    ⟨"BOOT_QUEUE_INBOX_NOT_EXACTLY_COMPLETED"⟩
  return seen ++ [row.messageId]

/-- The receipt of one message and the entry that it names. -/
def checkReceipt
    (ledger : Dict String) (stream : Stream EntryFields)
    (messageId digest encoded : String) : Except EpochError String := do
  let receipt := (ledger.lookup messageId).getD ""
  refuseIf (receipt = "") ⟨"BOOT_REDIS_PUBLICATION_RECEIPT_MISSING"⟩
  match loads receipt with
  | none => .error ⟨"JSONDecodeError"⟩
  | some (.array [.text stored, .text id]) => do
      refuseIf (stored ≠ digest ∨ positiveReceipt id.toList = false)
        ⟨"BOOT_REDIS_PUBLICATION_RECEIPT_CONFLICT"⟩
      match parseStreamId id with
      | none => .error ⟨"ERR Invalid stream ID specified as stream " ++
          "command argument"⟩
      | some streamId =>
          match stream.xrange streamId with
          | [entry] => do
              refuseIf (dataOf entry.fields ≠ some encoded)
                ⟨"BOOT_REDIS_STREAM_RECEIPT_CONFLICT"⟩
              return id
          | _ => .error ⟨"BOOT_REDIS_STREAM_RECEIPT_CONFLICT"⟩
  | some _ => .error ⟨"BOOT_REDIS_PUBLICATION_RECEIPT_CONFLICT"⟩

/-- `durable.items()`, in the order of the outbox. -/
def durableItems (durable : Dict (String × String)) :
    List (String × String × String) :=
  durable.entries.reverse.map fun entry => (entry.1, entry.2)

/-- `expected_stream_ids`: the ids of all receipts. -/
def receiptIds
    (ledger : Dict String) (stream : Stream EntryFields)
    (durable : Dict (String × String)) :
    Except EpochError (List String) :=
  (durableItems durable).foldlM
    (fun ids item => do
      let id ←
        checkReceipt loads ledger stream item.1 item.2.1 item.2.2
      return ids.insert id)
    []

/-- The ids of the stream, as texts. -/
def streamIds (stream : Stream EntryFields) : List String :=
  stream.entries.map fun entry => idText entry.id

/-- `validate_boot_stream_rows`. -/
def validateBootStreamRows
    (stream : Stream EntryFields) (durable : Dict (String × String))
    (receipts : List String) : Except EpochError Unit :=
  let allowed := (durableItems durable).map fun item => item.2.2
  refuseIf
    (stream.entries.length ≠ durable.entries.length + 1 ∨
      (streamIds stream).dedup.length ≠ stream.entries.length ∨
      ¬ receipts ⊆ streamIds stream ∨
      ∃ entry ∈ stream.entries,
        ¬ ((dataOf entry.fields).any fun data => data ∈ allowed) = true)
    ⟨"BOOT_REDIS_UNOWNED_STREAM_ENTRY"⟩

/-- The group has delivered the last entry and nothing is pending. -/
def groupCaughtUp (queues : BootQueues) (receipts : List String) : Prop :=
  queues.groups.length = 1 ∧
    (queues.groups.find? fun group => group.name = "bars").map
        ConsumerGroup.lastDeliveredId =
      (streamIds queues.server.stream).getLast? ∧
    (queues.groups.find? fun group => group.name = "bars").isSome = true ∧
    queues.pending = 0 ∧
    receipts ⊆ streamIds queues.server.stream

instance (queues : BootQueues) (receipts : List String) :
    Decidable (groupCaughtUp queues receipts) :=
  inferInstanceAs (Decidable (_ ∧ _))

/-- `boot_redis_state`. -/
def bootRedisState
    (dumps : List String → String) (sha256 : String → String)
    (queues : BootQueues) : Except EpochError BootRedisProof := do
  refuseIf (queues.defaultAccessRefused = false)
    ⟨"BOOT_REDIS_DEFAULT_OR_ANONYMOUS_ACCESS_ALLOWED"⟩
  refuseIf (queues.rolesAuthenticated = false)
    ⟨"BOOT_REDIS_SEPARATE_ROLE_AUTH_REQUIRED"⟩
  refuseIf (queues.schemaVerified = false)
    ⟨"EXACT_CONTROLLED_SCHEMA_REQUIRED"⟩
  let durable ← durableMessages codec model queues.outbox
  refuseIf (queues.inbox.length ≠ durable.entries.length)
    ⟨"BOOT_QUEUE_ORPHAN_OR_UNRESOLVED_ROW"⟩
  let _ ← queues.inbox.foldlM (checkInboxRow queues.owner durable) []
  let receipts ←
    receiptIds loads queues.ledger queues.server.stream durable
  validateBootStreamRows queues.server.stream durable receipts
  refuseIf (¬ groupCaughtUp queues receipts)
    ⟨"BOOT_REDIS_CONSUMER_GROUP_NOT_CAUGHT_UP"⟩
  pure
    { outboxRows := queues.outbox.length
      completedInbox := queues.inbox.length
      streamEntries := queues.server.stream.entries.length
      publicationReceipts := receipts.length
      publicationMessageIdsSha256 :=
        sha256 (dumps (durable.keys.insertionSort (· ≤ ·))) }

/-! ## What each check establishes -/

variable {codec model loads}

/-- A row that passes the loop over the outbox. -/
def SettledRow
    (codec : PayloadCodec) (model : IdentityModel) (row : LeasedOutboxRow) :
    Prop :=
  ∃ event,
    model.modelValidate row.payload = some event ∧ Settled codec row event

/-- The entry of `durable` for one outbox row. -/
def durableItem (codec : PayloadCodec) (row : LeasedOutboxRow) :
    String × String × String :=
  (row.messageId, codec.digest row.payload, codec.encoded row.payload)

theorem durableEntry_eq_ok_iff
    (row : LeasedOutboxRow) (entry : String × String) :
    durableEntry codec model row = .ok entry ↔
      SettledRow codec model row ∧ entry = (durableItem codec row).2 := by
  unfold durableEntry SettledRow
  cases validated : model.modelValidate row.payload with
  | none => simp
  | some event =>
      simp only [bind_eq_ok_iff, refuseIf_eq_ok_iff, pure_eq_ok_iff,
        not_not, exists_const, Option.some.injEq, exists_eq_left']
      rw [eq_comm]
      rfl

/-- The loop over the outbox, from any dictionary that shares no key. -/
theorem foldlM_durable_eq_ok_iff
    {outbox : List LeasedOutboxRow} {start : Dict (String × String)}
    (unique : (outbox.map fun row => row.messageId).Nodup)
    (fresh : ∀ row ∈ outbox, row.messageId ∉ start)
    (durable : Dict (String × String)) :
    outbox.foldlM
          (fun durable row => do
            let entry ← durableEntry codec model row
            return durable.insert row.messageId entry)
          start =
        .ok durable ↔
      (∀ row ∈ outbox, SettledRow codec model row) ∧
        durable.entries =
          (outbox.map fun row =>
              (⟨row.messageId, (durableItem codec row).2⟩ :
                Sigma fun _ : String => String × String)).reverse ++
            start.entries := by
  induction outbox generalizing start with
  | nil =>
      simp only [List.foldlM_nil, pure_eq_ok_iff, List.not_mem_nil,
        false_imp_iff, implies_true, true_and, List.map_nil,
        List.reverse_nil, List.nil_append]
      rw [AList.ext_iff, eq_comm]
  | cons row rest induction =>
      rw [List.map_cons, List.nodup_cons] at unique
      have rowFresh : row.messageId ∉ start :=
        fresh row List.mem_cons_self
      have restFresh :
          ∀ other ∈ rest,
            other.messageId ∉
              start.insert row.messageId (durableItem codec row).2 := by
        intro other member present
        rcases (AList.mem_insert _).1 present with equal | old
        · exact unique.1 (equal ▸ List.mem_map_of_mem member)
        · exact fresh other (List.mem_cons_of_mem _ member) old
      have tail := induction unique.2 restFresh
      simp only [List.foldlM_cons, bind_eq_ok_iff, pure_eq_ok_iff,
        durableEntry_eq_ok_iff, List.forall_mem_cons]
      constructor
      · rintro ⟨_, ⟨_, ⟨settled, rfl⟩, rfl⟩, folded⟩
        rcases tail.1 folded with ⟨restSettled, entries⟩
        refine ⟨⟨settled, restSettled⟩, ?_⟩
        rw [entries, AList.insert_of_notMem rowFresh]
        simp
      · rintro ⟨⟨settled, restSettled⟩, entries⟩
        refine ⟨_, ⟨_, ⟨settled, rfl⟩, rfl⟩, tail.2 ⟨restSettled, ?_⟩⟩
        rw [entries, AList.insert_of_notMem rowFresh]
        simp

/-- The dictionary holds the items of the outbox and nothing else. -/
def DurableOf
    (codec : PayloadCodec) (outbox : List LeasedOutboxRow)
    (durable : Dict (String × String)) : Prop :=
  durableItems durable = outbox.map (durableItem codec)

theorem durableItems_of_entries
    {outbox : List LeasedOutboxRow} {durable : Dict (String × String)}
    (entries :
      durable.entries =
        (outbox.map fun row =>
          (⟨row.messageId, (durableItem codec row).2⟩ :
            Sigma fun _ : String => String × String)).reverse) :
    DurableOf codec outbox durable := by
  unfold DurableOf durableItems
  rw [entries, List.reverse_reverse, List.map_map]
  rfl

/-- The loop over the outbox collects the items of settled rows. -/
theorem durableMessages_eq_ok
    {outbox : List LeasedOutboxRow} {durable : Dict (String × String)}
    (unique : (outbox.map fun row => row.messageId).Nodup)
    (collected : durableMessages codec model outbox = .ok durable) :
    (∀ row ∈ outbox, SettledRow codec model row) ∧
      DurableOf codec outbox durable := by
  have fresh :
      ∀ row ∈ outbox,
        row.messageId ∉ (∅ : Dict (String × String)) :=
    fun _ _ => AList.notMem_empty _
  rcases (foldlM_durable_eq_ok_iff unique fresh durable).1 collected with
    ⟨settled, entries⟩
  exact ⟨settled, durableItems_of_entries (by simpa using entries)⟩

/-- Settled rows with unique ids are collected. -/
theorem durableMessages_succeeds
    {outbox : List LeasedOutboxRow}
    (unique : (outbox.map fun row => row.messageId).Nodup)
    (settled : ∀ row ∈ outbox, SettledRow codec model row) :
    ∃ durable,
      durableMessages codec model outbox = .ok durable ∧
        DurableOf codec outbox durable := by
  have fresh :
      ∀ row ∈ outbox,
        row.messageId ∉ (∅ : Dict (String × String)) :=
    fun _ _ => AList.notMem_empty _
  let entries : List (Sigma fun _ : String => String × String) :=
    (outbox.map fun row =>
      (⟨row.messageId, (durableItem codec row).2⟩ :
        Sigma fun _ : String => String × String)).reverse
  have keys : entries.NodupKeys := by
    show (entries.map Sigma.fst).Nodup
    rw [List.map_reverse, List.nodup_reverse, List.map_map]
    exact unique
  refine ⟨⟨entries, keys⟩, ?_, durableItems_of_entries rfl⟩
  exact
    (foldlM_durable_eq_ok_iff unique fresh _).2
      ⟨settled, (List.append_nil _).symm⟩

theorem DurableOf.length
    {outbox : List LeasedOutboxRow} {durable : Dict (String × String)}
    (collected : DurableOf codec outbox durable) :
    durable.entries.length = outbox.length := by
  have lengths := congrArg List.length collected
  simpa [durableItems] using lengths

/-- Looking up a message finds the digest and text of its row. -/
theorem DurableOf.lookup_eq_some_iff
    {outbox : List LeasedOutboxRow} {durable : Dict (String × String)}
    (collected : DurableOf codec outbox durable)
    (messageId : String) (value : String × String) :
    durable.lookup messageId = some value ↔
      ∃ row ∈ outbox, durableItem codec row = (messageId, value) := by
  have listed :
      (messageId, value) ∈ durableItems durable ↔
        (messageId, value) ∈ outbox.map (durableItem codec) := by
    rw [collected]
  rw [List.mem_map] at listed
  rw [← listed, ← Option.mem_def, AList.mem_lookup_iff]
  unfold durableItems
  rw [List.mem_map]
  constructor
  · intro member
    exact ⟨⟨messageId, value⟩, List.mem_reverse.2 member, rfl⟩
  · rintro ⟨⟨key, stored⟩, member, equal⟩
    cases equal
    exact List.mem_reverse.1 member

/-! ### The inbox -/

/-- The inbox row that a consumed message leaves. -/
def completedRow
    (codec : PayloadCodec) (owner : String) (row : LeasedOutboxRow) :
    InboxRow where
  consumer := consumerName owner
  messageId := row.messageId
  topic := topic
  status := "COMPLETED"
  payloadSha256 := some (codec.digest row.payload)

/-- One inbox row passes when it completes a message not seen before. -/
theorem checkInboxRow_eq_ok_iff
    {outbox : List LeasedOutboxRow} {durable : Dict (String × String)}
    (collected : DurableOf codec outbox durable)
    (owner : String) (seen result : List String) (row : InboxRow) :
    checkInboxRow owner durable seen row = .ok result ↔
      row ∈ outbox.map (completedRow codec owner) ∧
        row.messageId ∉ seen ∧ result = seen ++ [row.messageId] := by
  simp only [checkInboxRow, bind_eq_ok_iff, refuseIf_eq_ok_iff,
    pure_eq_ok_iff, exists_const, not_or, not_not, ne_eq]
  constructor
  · rintro ⟨⟨consumer, rowTopic, status, present, digest, unseen⟩, rfl⟩
    refine ⟨?_, unseen, rfl⟩
    cases found : durable.lookup row.messageId with
    | none => exact absurd (by rw [found]; rfl) present
    | some value =>
        rcases (collected.lookup_eq_some_iff _ _).1 found with
          ⟨message, member, equal⟩
        have sameId : message.messageId = row.messageId :=
          congrArg Prod.fst equal
        have sameDigest : codec.digest message.payload = value.1 :=
          congrArg (fun item => item.2.1) equal
        rw [found] at digest
        refine List.mem_map.2 ⟨message, member, ?_⟩
        cases row
        simp_all [completedRow]
  · rintro ⟨member, unseen, rfl⟩
    rcases List.mem_map.1 member with ⟨message, inOutbox, rfl⟩
    have found :
        durable.lookup message.messageId =
          some (durableItem codec message).2 :=
      (collected.lookup_eq_some_iff _ _).2 ⟨message, inOutbox, rfl⟩
    refine ⟨⟨rfl, rfl, rfl, ?_, ?_, unseen⟩, rfl⟩
    · show (durable.lookup message.messageId).map Prod.fst ≠ none
      rw [found]
      exact Option.some_ne_none _
    · show some (codec.digest message.payload) =
        (durable.lookup message.messageId).map Prod.fst
      rw [found]
      rfl

/-- The loop over the inbox. -/
theorem foldlM_checkInboxRow_eq_ok_iff
    {outbox : List LeasedOutboxRow} {durable : Dict (String × String)}
    (collected : DurableOf codec outbox durable)
    (owner : String) (inbox : List InboxRow) (seen result : List String) :
    inbox.foldlM (checkInboxRow owner durable) seen = .ok result ↔
      inbox ⊆ outbox.map (completedRow codec owner) ∧
        (inbox.map InboxRow.messageId).Nodup ∧
        (∀ row ∈ inbox, row.messageId ∉ seen) ∧
        result = seen ++ inbox.map InboxRow.messageId := by
  induction inbox generalizing seen with
  | nil =>
      rw [List.foldlM_nil, pure_eq_ok_iff]
      simp [eq_comm]
  | cons row rest induction =>
      simp only [List.foldlM_cons, bind_eq_ok_iff,
        checkInboxRow_eq_ok_iff collected, induction, List.cons_subset,
        List.map_cons, List.nodup_cons, List.forall_mem_cons]
      constructor
      · rintro ⟨_, ⟨member, unseen, rfl⟩, inOutbox, nodup, fresh, rfl⟩
        refine
          ⟨⟨member, inOutbox⟩, ⟨?_, nodup⟩, ⟨unseen, ?_⟩, by simp⟩
        · intro again
          rcases List.mem_map.1 again with ⟨other, otherMember, equal⟩
          exact fresh other otherMember (by simp [equal])
        · intro other otherMember old
          exact fresh other otherMember (by simp [old])
      · rintro
          ⟨⟨member, inOutbox⟩, ⟨once, nodup⟩, ⟨unseen, fresh⟩, rfl⟩
        refine
          ⟨_, ⟨member, unseen, rfl⟩, inOutbox, nodup, ?_, by simp⟩
        intro other otherMember old
        rcases List.mem_append.1 old with earlier | same
        · exact fresh other otherMember earlier
        · rw [← List.mem_singleton.1 same] at once
          exact once (List.mem_map_of_mem otherMember)

/-- With as many rows as messages, the inbox is the completed outbox. -/
theorem inbox_checks_iff_perm
    {outbox : List LeasedOutboxRow} {durable : Dict (String × String)}
    (unique : (outbox.map fun row => row.messageId).Nodup)
    (collected : DurableOf codec outbox durable)
    (owner : String) (inbox : List InboxRow) :
    (inbox.length = durable.entries.length ∧
        ∃ result,
          inbox.foldlM (checkInboxRow owner durable) [] = .ok result) ↔
      inbox.Perm (outbox.map (completedRow codec owner)) := by
  have ids :
      (outbox.map (completedRow codec owner)).map InboxRow.messageId =
        outbox.map fun row => row.messageId := by
    rw [List.map_map]
    rfl
  simp only [foldlM_checkInboxRow_eq_ok_iff collected]
  constructor
  · rintro ⟨lengths, _, inOutbox, nodup, _, _⟩
    have subperm := List.subperm_of_subset (List.Nodup.of_map _ nodup) inOutbox
    apply subperm.perm_of_length_le
    rw [List.length_map, lengths, collected.length]
  · intro perm
    refine ⟨?_, _, perm.subset, ?_, by simp, rfl⟩
    · rw [perm.length_eq, List.length_map, collected.length]
    · rw [(perm.map InboxRow.messageId).nodup_iff, ids]
      exact unique

/-! ### The receipts -/

/-- The publication hash stores a digest and an id text for a message. -/
def StoredReceipt
    (loads : String → Option JsonValue) (ledger : Dict String)
    (messageId digest id : String) : Prop :=
  ∃ text,
    ledger.lookup messageId = some text ∧ text ≠ "" ∧
      loads text = some (.array [.text digest, .text id])

theorem storedReceipt_unique
    {ledger : Dict String} {messageId digest left right : String}
    (leftStored : StoredReceipt loads ledger messageId digest left)
    (rightStored : StoredReceipt loads ledger messageId digest right) :
    left = right := by
  rcases leftStored with ⟨leftText, leftFound, _, leftLoads⟩
  rcases rightStored with ⟨rightText, rightFound, _, rightLoads⟩
  rw [leftFound] at rightFound
  cases rightFound
  rw [leftLoads] at rightLoads
  cases rightLoads
  rfl

/-- Looking up one id of a stream finds the entry with that id. -/
theorem xrange_eq_singleton_iff
    (stream : Stream EntryFields) (id : StreamId)
    (entry : Entry EntryFields) :
    stream.xrange id = [entry] ↔ entry ∈ stream.entries ∧ entry.id = id := by
  constructor
  · intro found
    exact (stream.mem_xrange_iff id entry).1 (found ▸ List.mem_singleton_self _)
  · intro member
    have nodup : (stream.xrange id).Nodup :=
      (stream.increasing.imp fun less equal => less.ne (by rw [equal])).filter _
    have same :
        ∀ other ∈ stream.xrange id, other = entry := by
      intro other otherMember
      rcases (stream.mem_xrange_iff id other).1 otherMember with
        ⟨inStream, sameId⟩
      exact
        stream.entry_eq_of_id_eq inStream member.1
          (sameId.trans member.2.symm)
    have present : entry ∈ stream.xrange id :=
      (stream.mem_xrange_iff id entry).2 member
    rw [List.perm_singleton.symm, List.perm_ext_iff_of_nodup nodup
      (List.nodup_singleton _)]
    intro other
    rw [List.mem_singleton]
    exact ⟨same other, fun equal => equal ▸ present⟩

/-- A receipt passes when its id is that of an entry with the text. -/
theorem checkReceipt_eq_ok_iff
    (ledger : Dict String) (stream : Stream EntryFields)
    (messageId digest encoded id : String) :
    checkReceipt loads ledger stream messageId digest encoded = .ok id ↔
      StoredReceipt loads ledger messageId digest id ∧
        positiveReceipt id.toList = true ∧
        ∃ entry ∈ stream.entries,
          parseStreamId id = some entry.id ∧
            dataOf entry.fields = some encoded := by
  unfold checkReceipt StoredReceipt
  cases found : ledger.lookup messageId with
  | none => simp [refuseIf, bind, Except.bind]
  | some text =>
      simp only [Option.getD_some, bind_eq_ok_iff, refuseIf_eq_ok_iff,
        exists_const, Option.some.injEq, exists_eq_left']
      constructor
      · rintro ⟨nonempty, checked⟩
        split at checked
        · cases checked
        · rename_i stored storedId loaded
          simp only [bind_eq_ok_iff, refuseIf_eq_ok_iff, exists_const,
            not_or, not_not, Bool.not_eq_false] at checked
          rcases checked with ⟨⟨rfl, positive⟩, looked⟩
          split at looked
          · cases looked
          · rename_i streamId parsed
            split at looked
            · rename_i entry ranged
              simp only [bind_eq_ok_iff, refuseIf_eq_ok_iff, exists_const,
                not_not, pure_eq_ok_iff] at looked
              rcases looked with ⟨data, rfl⟩
              rcases (xrange_eq_singleton_iff _ _ _).1 ranged with
                ⟨member, rfl⟩
              exact
                ⟨⟨nonempty, loaded⟩, positive, entry, member, parsed, data⟩
            · cases looked
        · cases checked
      · rintro ⟨⟨nonempty, loaded⟩, positive, entry, member, parsed, data⟩
        refine ⟨nonempty, ?_⟩
        have ranged : stream.xrange entry.id = [entry] :=
          (xrange_eq_singleton_iff _ _ _).2 ⟨member, rfl⟩
        simp [loaded, positive, parsed, ranged, data, refuseIf, bind,
          Except.bind, pure, Except.pure]

/-- Which ids the loop over the receipts collects. -/
theorem foldlM_insert_receipts
    {Item : Type} {check : Item → Except EpochError String}
    {items : List Item} {start result : List String}
    (collected :
      items.foldlM
          (fun ids item => do
            let id ← check item
            return ids.insert id)
          start =
        .ok result) :
    (∀ id, id ∈ result ↔ id ∈ start ∨ ∃ item ∈ items, check item = .ok id) ∧
      ∀ item ∈ items, ∃ id, check item = .ok id := by
  induction items generalizing start with
  | nil =>
      rw [List.foldlM_nil, pure_eq_ok_iff] at collected
      subst result
      simp
  | cons item rest induction =>
      simp only [List.foldlM_cons, bind_eq_ok_iff, pure_eq_ok_iff]
        at collected
      rcases collected with ⟨_, ⟨id, checked, rfl⟩, tail⟩
      rcases induction tail with ⟨members, passes⟩
      constructor
      · intro other
        rw [members, List.mem_insert_iff]
        simp only [List.exists_mem_cons_iff, checked, Except.ok.injEq]
        rw [eq_comm (a := other)]
        tauto
      · rw [List.forall_mem_cons]
        exact ⟨⟨id, checked⟩, passes⟩

/-- The loop over the receipts ends when every receipt passes. -/
theorem foldlM_insert_receipts_succeeds
    {Item : Type} {check : Item → Except EpochError String}
    {items : List Item}
    (passes : ∀ item ∈ items, ∃ id, check item = .ok id)
    (start : List String) :
    ∃ result,
      items.foldlM
          (fun ids item => do
            let id ← check item
            return ids.insert id)
          start =
        .ok result := by
  induction items generalizing start with
  | nil => exact ⟨start, rfl⟩
  | cons item rest induction =>
      rw [List.forall_mem_cons] at passes
      rcases passes with ⟨⟨id, checked⟩, restPasses⟩
      rcases induction restPasses (start.insert id) with ⟨result, folded⟩
      refine ⟨result, ?_⟩
      simp only [List.foldlM_cons, bind_eq_ok_iff, pure_eq_ok_iff]
      exact ⟨_, ⟨id, checked, rfl⟩, folded⟩

/-- The receipt of a row names an entry that holds the text of the row. -/
def MatchingReceipt
    (codec : PayloadCodec) (loads : String → Option JsonValue)
    (ledger : Dict String) (row : LeasedOutboxRow)
    (entry : Entry EntryFields) : Prop :=
  StoredReceipt loads ledger row.messageId (codec.digest row.payload)
      (idText entry.id) ∧
    dataOf entry.fields = some (codec.encoded row.payload)

/-- Different ids of a server have different texts. -/
theorem idText_injOn (server : ServerStream) :
    Set.InjOn (fun entry : Entry EntryFields => idText entry.id)
      {entry | entry ∈ server.stream.entries} := by
  intro left leftMember right rightMember equal
  have same : some left.id = some right.id := by
    rw [← parseStreamId_idText (server.bounded left leftMember),
      ← parseStreamId_idText (server.bounded right rightMember)]
    exact congrArg parseStreamId equal
  exact
    server.stream.entry_eq_of_id_eq leftMember rightMember
      (Option.some.inj same)

theorem streamIds_nodup (server : ServerStream) :
    (streamIds server.stream).Nodup := by
  apply List.Nodup.map_on
  · exact idText_injOn server
  · exact
      server.stream.increasing.imp fun less equal =>
        less.ne (by rw [equal])

/--
A receipt passes with an id of the stream exactly when it names an entry with
the text of the message.
-/
theorem checkReceipt_in_stream_iff
    (server : ServerStream) (ledger : Dict String) (row : LeasedOutboxRow)
    (id : String) :
    (checkReceipt loads ledger server.stream row.messageId
            (codec.digest row.payload) (codec.encoded row.payload) =
          .ok id ∧
        id ∈ streamIds server.stream) ↔
      ∃ entry ∈ server.stream.entries,
        idText entry.id = id ∧
          MatchingReceipt codec loads ledger row entry := by
  rw [checkReceipt_eq_ok_iff]
  unfold streamIds
  rw [List.mem_map]
  constructor
  · rintro
      ⟨⟨stored, _, entry, member, parsed, data⟩, named, namedMember, rfl⟩
    have same : named = entry := by
      rw [parseStreamId_idText (server.bounded named namedMember)] at parsed
      exact
        server.stream.entry_eq_of_id_eq namedMember member
          (Option.some.inj parsed)
    subst same
    exact ⟨named, member, rfl, stored, data⟩
  · rintro ⟨entry, member, rfl, stored, data⟩
    refine
      ⟨⟨stored, ?_, entry, member,
        parseStreamId_idText (server.bounded entry member), data⟩,
        entry, member, rfl⟩
    rw [idText, String.toList_ofList]
    exact positiveReceipt_receiptText entry.id

/-- Every receipt has passed, with one of the collected ids. -/
theorem receiptIds_eq_ok
    {outbox : List LeasedOutboxRow} {durable : Dict (String × String)}
    {ledger : Dict String} {stream : Stream EntryFields}
    {receipts : List String}
    (collected : DurableOf codec outbox durable)
    (read : receiptIds loads ledger stream durable = .ok receipts) :
    ∀ row ∈ outbox,
      ∃ id ∈ receipts,
        checkReceipt loads ledger stream row.messageId
            (codec.digest row.payload) (codec.encoded row.payload) =
          .ok id := by
  intro row member
  rcases foldlM_insert_receipts read with ⟨members, passes⟩
  have listed : durableItem codec row ∈ durableItems durable := by
    rw [show durableItems durable = _ from collected]
    exact List.mem_map_of_mem member
  rcases passes _ listed with ⟨id, checked⟩
  exact ⟨id, (members id).2 (Or.inr ⟨_, listed, checked⟩), checked⟩

/-- Matching receipts are all read, and their ids are in the stream. -/
theorem receiptIds_succeeds
    {outbox : List LeasedOutboxRow} {durable : Dict (String × String)}
    {ledger : Dict String} {server : ServerStream}
    (collected : DurableOf codec outbox durable)
    (matching :
      ∀ row ∈ outbox,
        ∃ entry ∈ server.stream.entries,
          MatchingReceipt codec loads ledger row entry) :
    ∃ receipts,
      receiptIds loads ledger server.stream durable = .ok receipts ∧
        receipts ⊆ streamIds server.stream := by
  have checked :
      ∀ item ∈ durableItems durable,
        ∃ id,
          checkReceipt loads ledger server.stream item.1 item.2.1 item.2.2 =
              .ok id ∧
            id ∈ streamIds server.stream := by
    intro item listed
    rw [show durableItems durable = _ from collected] at listed
    rcases List.mem_map.1 listed with ⟨row, member, rfl⟩
    rcases matching row member with ⟨entry, entryMember, receipt⟩
    exact
      ⟨idText entry.id,
        (checkReceipt_in_stream_iff server ledger row _).2
          ⟨entry, entryMember, rfl, receipt⟩⟩
  have passes :
      ∀ item ∈ durableItems durable,
        ∃ id,
          checkReceipt loads ledger server.stream item.1 item.2.1 item.2.2 =
            .ok id :=
    fun item listed => (checked item listed).imp fun _ both => both.1
  rcases foldlM_insert_receipts_succeeds passes [] with ⟨receipts, read⟩
  refine ⟨receipts, read, ?_⟩
  intro id idMember
  rcases ((foldlM_insert_receipts read).1 id).1 idMember with
    impossible | ⟨item, listed, itemChecked⟩
  · cases impossible
  · rcases checked item listed with ⟨other, otherChecked, inStream⟩
    rw [itemChecked] at otherChecked
    cases otherChecked
    exact inStream

/-! ## Exactness -/

/--
Every message of the outbox is completed, receipted and in the stream, one of
them twice, and the group has read the stream to its end.
-/
structure DeliveredShape
    (codec : PayloadCodec) (loads : String → Option JsonValue)
    (queues : BootQueues) : Prop where
  inbox :
    queues.inbox.Perm (queues.outbox.map (completedRow codec queues.owner))
  receipts :
    ∀ row ∈ queues.outbox,
      ∃ entry ∈ queues.server.stream.entries,
        MatchingReceipt codec loads queues.ledger row entry
  distinctReceipts :
    ∀ left ∈ queues.outbox, ∀ right ∈ queues.outbox, ∀ id,
      StoredReceipt loads queues.ledger left.messageId
          (codec.digest left.payload) id →
        StoredReceipt loads queues.ledger right.messageId
            (codec.digest right.payload) id →
          left = right
  stream :
    ∃ extra ∈ queues.outbox,
      (queues.server.stream.entries.map fun entry =>
          dataOf entry.fields).Perm
        (some (codec.encoded extra.payload) ::
          queues.outbox.map fun row => some (codec.encoded row.payload))
  group :
    ∃ last,
      queues.server.stream.entries.getLast? = some last ∧
        queues.groups = [⟨"bars", idText last.id⟩]
  nothingPending : queues.pending = 0

/-- The states that a new process may start from. -/
structure ExactBootState
    (codec : PayloadCodec) (model : IdentityModel)
    (loads : String → Option JsonValue) (queues : BootQueues) : Prop
    extends DeliveredShape codec loads queues where
  accessRefused : queues.defaultAccessRefused = true
  rolesAuthenticated : queues.rolesAuthenticated = true
  schemaVerified : queues.schemaVerified = true
  settled : ∀ row ∈ queues.outbox, SettledRow codec model row

/-- Settled rows with one text are one row. -/
theorem row_eq_of_encoded_eq
    {outbox : List LeasedOutboxRow}
    (unique : (outbox.map fun row => row.messageId).Nodup)
    (settled : ∀ row ∈ outbox, SettledRow codec model row)
    {left right : LeasedOutboxRow}
    (leftMember : left ∈ outbox) (rightMember : right ∈ outbox)
    (equal : codec.encoded left.payload = codec.encoded right.payload) :
    left = right := by
  have samePayload : left.payload = right.payload :=
    codec.text_injective equal
  rcases settled left leftMember with ⟨leftEvent, leftValid, leftSettled⟩
  rcases settled right rightMember with
    ⟨rightEvent, rightValid, rightSettled⟩
  rw [samePayload, rightValid] at leftValid
  cases leftValid
  have sameId : left.messageId = right.messageId :=
    leftSettled.2.2.2.2.2.2.2.2.2.2.1.symm.trans
      rightSettled.2.2.2.2.2.2.2.2.2.2.1
  exact List.inj_on_of_nodup_map unique leftMember rightMember sameId

/-- The texts of the outbox are different. -/
theorem encoded_nodup
    {outbox : List LeasedOutboxRow}
    (unique : (outbox.map fun row => row.messageId).Nodup)
    (settled : ∀ row ∈ outbox, SettledRow codec model row) :
    (outbox.map fun row => some (codec.encoded row.payload)).Nodup := by
  apply List.Nodup.map_on
  · intro left leftMember right rightMember equal
    exact
      row_eq_of_encoded_eq unique settled leftMember rightMember
        (Option.some.inj equal)
  · exact List.Nodup.of_map _ unique

/--
A list of one more admitted payload than there are messages, in which no
message is missing, has each message once and one of them twice.
-/
theorem perm_cons_of_admitted
    {Item : Type} {payloads required : List Item}
    (nodup : required.Nodup) (present : required ⊆ payloads)
    (length : payloads.length = required.length + 1)
    (admitted : payloads ⊆ required) :
    ∃ extra ∈ required, payloads.Perm (extra :: required) := by
  classical
  have subperm := List.subperm_of_subset nodup present
  rcases subperm.exists_of_length_lt (by omega) with ⟨extra, larger⟩
  have perm := larger.perm_of_length_le (by simp [length])
  exact ⟨extra, admitted (larger.subset List.mem_cons_self), perm.symm⟩

/-- Different messages have different receipts. -/
theorem distinctReceipts_of_matching
    (queues : BootQueues)
    (settled : ∀ row ∈ queues.outbox, SettledRow codec model row)
    (matching :
      ∀ row ∈ queues.outbox,
        ∃ entry ∈ queues.server.stream.entries,
          MatchingReceipt codec loads queues.ledger row entry) :
    ∀ left ∈ queues.outbox, ∀ right ∈ queues.outbox, ∀ id,
      StoredReceipt loads queues.ledger left.messageId
          (codec.digest left.payload) id →
        StoredReceipt loads queues.ledger right.messageId
            (codec.digest right.payload) id →
          left = right := by
  intro left leftMember right rightMember id leftStored rightStored
  rcases matching left leftMember with
    ⟨leftEntry, leftEntryMember, leftNamed, leftData⟩
  rcases matching right rightMember with
    ⟨rightEntry, rightEntryMember, rightNamed, rightData⟩
  have sameText : idText leftEntry.id = idText rightEntry.id :=
    (storedReceipt_unique leftNamed leftStored).trans
      (storedReceipt_unique rightStored rightNamed)
  have sameEntry : leftEntry = rightEntry :=
    idText_injOn queues.server leftEntryMember rightEntryMember sameText
  rw [sameEntry, rightData] at leftData
  exact
    row_eq_of_encoded_eq queues.uniqueMessages settled leftMember
      rightMember (Option.some.inj leftData).symm

/-- The stream checks, once all receipts have passed. -/
theorem validateBootStreamRows_eq_ok_iff
    {queues : BootQueues} {durable : Dict (String × String)}
    {receipts : List String}
    (settled : ∀ row ∈ queues.outbox, SettledRow codec model row)
    (collected : DurableOf codec queues.outbox durable)
    (present :
      ∀ row ∈ queues.outbox,
        ∃ entry ∈ queues.server.stream.entries,
          dataOf entry.fields = some (codec.encoded row.payload))
    (done : Unit) :
    validateBootStreamRows queues.server.stream durable receipts =
        .ok done ↔
      receipts ⊆ streamIds queues.server.stream ∧
        ∃ extra ∈ queues.outbox,
          (queues.server.stream.entries.map fun entry =>
              dataOf entry.fields).Perm
            (some (codec.encoded extra.payload) ::
              queues.outbox.map fun row =>
                some (codec.encoded row.payload)) := by
  have allowed :
      ((durableItems durable).map fun item => item.2.2) =
        queues.outbox.map fun row => codec.encoded row.payload := by
    rw [show durableItems durable = _ from collected, List.map_map]
    rfl
  have ids := List.dedup_eq_self.2 (streamIds_nodup queues.server)
  unfold validateBootStreamRows
  simp only [refuseIf_eq_ok_iff, not_or, not_not, not_exists, not_and,
    allowed, collected.length, ids]
  constructor
  · rintro ⟨length, _, named, admitted⟩
    refine ⟨named, ?_⟩
    have complete :
        (queues.outbox.map fun row => some (codec.encoded row.payload)) ⊆
          queues.server.stream.entries.map fun entry =>
            dataOf entry.fields := by
      intro payload member
      rcases List.mem_map.1 member with ⟨row, rowMember, rfl⟩
      rcases present row rowMember with ⟨entry, entryMember, data⟩
      exact List.mem_map.2 ⟨entry, entryMember, data⟩
    have owned :
        (queues.server.stream.entries.map fun entry =>
            dataOf entry.fields) ⊆
          queues.outbox.map fun row =>
            some (codec.encoded row.payload) := by
      intro payload member
      rcases List.mem_map.1 member with ⟨entry, entryMember, rfl⟩
      rcases (Option.any_eq_true _ _).1 (admitted entry entryMember) with
        ⟨data, found, inOutbox⟩
      rcases List.mem_map.1 (of_decide_eq_true inOutbox) with
        ⟨row, rowMember, rfl⟩
      exact List.mem_map.2 ⟨row, rowMember, found.symm⟩
    rcases
        perm_cons_of_admitted
          (encoded_nodup queues.uniqueMessages settled) complete
          (by rw [List.length_map, List.length_map, length]) owned with
      ⟨_, member, perm⟩
    rcases List.mem_map.1 member with ⟨extra, extraMember, rfl⟩
    exact ⟨extra, extraMember, perm⟩
  · rintro ⟨named, extra, extraMember, perm⟩
    refine ⟨?_, ?_, named, ?_⟩
    · simpa using perm.length_eq
    · exact List.length_map _
    · intro entry entryMember
      have listed := perm.subset (List.mem_map.2 ⟨entry, entryMember, rfl⟩)
      have admitted :
          dataOf entry.fields ∈
            queues.outbox.map fun row =>
              some (codec.encoded row.payload) := by
        rcases List.mem_cons.1 listed with isExtra | inOutbox
        · rw [isExtra]
          exact List.mem_map.2 ⟨extra, extraMember, rfl⟩
        · exact inOutbox
      rcases List.mem_map.1 admitted with ⟨row, rowMember, equal⟩
      rw [← equal]
      simpa using ⟨row, rowMember, rfl⟩

/-- The group check, once the receipts are in the stream. -/
theorem groupCaughtUp_iff
    {queues : BootQueues} {receipts : List String}
    (named : receipts ⊆ streamIds queues.server.stream) :
    groupCaughtUp queues receipts ↔
      (∃ last,
          queues.server.stream.entries.getLast? = some last ∧
            queues.groups = [⟨"bars", idText last.id⟩]) ∧
        queues.pending = 0 := by
  unfold groupCaughtUp
  constructor
  · rintro ⟨one, delivered, found, pending, _⟩
    refine ⟨?_, pending⟩
    rcases List.length_eq_one_iff.1 one with ⟨group, groups⟩
    rw [groups] at delivered found
    have named : group.name = "bars" := by
      by_contra other
      simp [other] at found
    rw [List.find?_cons_of_pos (by simp [named]), Option.map_some] at delivered
    unfold streamIds at delivered
    rw [List.getLast?_map] at delivered
    rcases Option.map_eq_some_iff.1 delivered.symm with
      ⟨last, isLast, text⟩
    refine ⟨last, isLast, ?_⟩
    cases group
    simp_all
  · rintro ⟨⟨last, isLast, groups⟩, pending⟩
    refine ⟨?_, ?_, ?_, pending, named⟩
    · rw [groups]
      rfl
    · rw [groups]
      simp [streamIds, List.getLast?_map, isLast]
    · rw [groups]
      rfl

/--
The checks of `boot_redis_state` pass in exactly the states in which every
message is settled, completed, receipted and in the stream, one of them twice,
and in which the group has read the stream to its end.
-/
theorem bootRedisState_passes_iff
    (codec : PayloadCodec) (model : IdentityModel)
    (loads : String → Option JsonValue) (dumps : List String → String)
    (sha256 : String → String) (queues : BootQueues) :
    (∃ proof,
        bootRedisState codec model loads dumps sha256 queues = .ok proof) ↔
      ExactBootState codec model loads queues := by
  simp only [bootRedisState, bind_eq_ok_iff, refuseIf_eq_ok_iff,
    pure_eq_ok_iff, exists_const, not_not, Bool.not_eq_false]
  constructor
  · rintro
      ⟨_, access, roles, schema, durable, collects, length, seen, inboxOk,
        receipts, receiptsOk, _, streamOk, caughtUp, _⟩
    rcases durableMessages_eq_ok queues.uniqueMessages collects with
      ⟨settled, collected⟩
    have checked := receiptIds_eq_ok collected receiptsOk
    have present :
        ∀ row ∈ queues.outbox,
          ∃ entry ∈ queues.server.stream.entries,
            dataOf entry.fields = some (codec.encoded row.payload) := by
      intro row member
      rcases checked row member with ⟨id, _, passed⟩
      rcases (checkReceipt_eq_ok_iff _ _ _ _ _ _).1 passed with
        ⟨_, _, entry, entryMember, _, data⟩
      exact ⟨entry, entryMember, data⟩
    rcases
        (validateBootStreamRows_eq_ok_iff settled collected present _).1
          streamOk with
      ⟨named, stream⟩
    rcases (groupCaughtUp_iff named).1 caughtUp with ⟨group, pending⟩
    have matching :
        ∀ row ∈ queues.outbox,
          ∃ entry ∈ queues.server.stream.entries,
            MatchingReceipt codec loads queues.ledger row entry := by
      intro row member
      rcases checked row member with ⟨id, idMember, passed⟩
      rcases
          (checkReceipt_in_stream_iff queues.server queues.ledger row id).1
            ⟨passed, named idMember⟩ with
        ⟨entry, entryMember, _, receipt⟩
      exact ⟨entry, entryMember, receipt⟩
    exact
      { accessRefused := access
        rolesAuthenticated := roles
        schemaVerified := schema
        settled := settled
        inbox :=
          (inbox_checks_iff_perm queues.uniqueMessages collected _ _).1
            ⟨length, seen, inboxOk⟩
        receipts := matching
        distinctReceipts :=
          distinctReceipts_of_matching queues settled matching
        stream := stream
        group := group
        nothingPending := pending }
  · intro state
    rcases durableMessages_succeeds queues.uniqueMessages state.settled with
      ⟨durable, collects, collected⟩
    rcases
        (inbox_checks_iff_perm queues.uniqueMessages collected _ _).2
          state.inbox with
      ⟨length, seen, inboxOk⟩
    rcases receiptIds_succeeds collected state.receipts with
      ⟨receipts, receiptsOk, named⟩
    have present :
        ∀ row ∈ queues.outbox,
          ∃ entry ∈ queues.server.stream.entries,
            dataOf entry.fields = some (codec.encoded row.payload) := by
      intro row member
      rcases state.receipts row member with ⟨entry, entryMember, receipt⟩
      exact ⟨entry, entryMember, receipt.2⟩
    have streamOk :=
      (validateBootStreamRows_eq_ok_iff state.settled collected present
        ()).2 ⟨named, state.stream⟩
    have caughtUp :=
      (groupCaughtUp_iff named).2 ⟨state.group, state.nothingPending⟩
    exact
      ⟨_, state.accessRefused, state.rolesAuthenticated,
        state.schemaVerified, durable, collects, length, seen, inboxOk,
        receipts, receiptsOk, (), streamOk, caughtUp, rfl⟩

end Checks

/-! ## A delivered message whose row is not marked -/

/-- The payload of the message `m1`. -/
def unmarkedPayload : Payload where
  messageId := some "m1"
  symbol := some "BTCUSDT"
  openTimeMs := some 0
  closeTimeMs := some 59999
  rest := ""

/-- The row of `m1`, published at the given time and after the attempts. -/
def deliveredRow (publishedAt : Option Int) (attempts : Nat) :
    LeasedOutboxRow where
  id := 1
  messageId := "m1"
  topic := topic
  payload := unmarkedPayload
  payloadSha256 := memberCodec.digest unmarkedPayload
  producer := source
  reconciliationState := "NONE"
  deadLetteredAt := none
  publishedAt := publishedAt
  publishAttempts := attempts
  lastError := none
  leaseOwner := none
  leaseUntil := none

/-- Reads the members that identify a bar. -/
def memberModel : IdentityModel where
  modelValidate payload :=
    payload.messageId.map fun messageId =>
      ⟨messageId, source, payload.symbol.getD ""⟩

/-- The receipt that the script stores for `m1`. -/
def unmarkedReceipt : String :=
  "[\"" ++ memberCodec.digest unmarkedPayload ++ "\",\"1-0\"]"

/-- Reads the receipt of `m1`. -/
def receiptLoads (text : String) : Option JsonValue :=
  if text = unmarkedReceipt then
    some (.array [.text (memberCodec.digest unmarkedPayload), .text "1-0"])
  else
    none

/-- The entry of `m1` and its duplicate. -/
def unmarkedStream : ServerStream where
  stream :=
    { entries :=
        [⟨⟨1, 0⟩, [("data", memberCodec.encoded unmarkedPayload)]⟩,
          ⟨⟨2, 0⟩, [("data", memberCodec.encoded unmarkedPayload)]⟩]
      increasing := by
        simp only [List.pairwise_cons, List.mem_singleton, forall_eq,
          List.not_mem_nil, false_imp_iff, implies_true,
          List.Pairwise.nil, and_true]
        decide }
  bounded := by
    simp

/-- A state in which `m1` is delivered, consumed and receipted. -/
def deliveredQueues (row : LeasedOutboxRow) : BootQueues where
  owner := "0123456789ab"
  defaultAccessRefused := true
  rolesAuthenticated := true
  schemaVerified := true
  outbox := [row]
  uniqueMessages := List.nodup_singleton _
  inbox := [completedRow memberCodec "0123456789ab" row]
  ledger := AList.insert "m1" unmarkedReceipt ∅
  server := unmarkedStream
  groups := [⟨"bars", "2-0"⟩]
  pending := 0

example :
    (bootRedisState memberCodec memberModel receiptLoads String.join id
      (deliveredQueues (deliveredRow (some 7) 1))).isOk = true := by
  decide

/-- The flush of `m1` died between the script and the update. -/
def unmarkedRow : LeasedOutboxRow :=
  deliveredRow none 0

theorem unmarkedRow_storedReceipt :
    StoredReceipt receiptLoads (deliveredQueues unmarkedRow).ledger "m1"
      (memberCodec.digest unmarkedPayload) "1-0" := by
  refine ⟨unmarkedReceipt, ?_, by decide, ?_⟩
  · exact AList.lookup_insert ∅
  · exact if_pos rfl

theorem unmarkedRow_delivered :
    DeliveredShape memberCodec receiptLoads
      (deliveredQueues unmarkedRow) where
  inbox := List.Perm.refl _
  receipts := by
    intro row member
    rw [List.mem_singleton.1 member]
    exact
      ⟨⟨⟨1, 0⟩, [("data", memberCodec.encoded unmarkedPayload)]⟩,
        List.mem_cons_self, unmarkedRow_storedReceipt, rfl⟩
  distinctReceipts := by
    intro left leftMember right rightMember _ _ _
    rw [List.mem_singleton.1 leftMember, List.mem_singleton.1 rightMember]
  stream := ⟨unmarkedRow, List.mem_cons_self, List.Perm.refl _⟩
  group := ⟨_, rfl, rfl⟩
  nothingPending := rfl

/-- A state of the delivered shape does not pass with an unmarked row. -/
theorem bootRedisState_refuses_unmarked :
    DeliveredShape memberCodec receiptLoads (deliveredQueues unmarkedRow) ∧
      bootRedisState memberCodec memberModel receiptLoads String.join id
          (deliveredQueues unmarkedRow) =
        .error ⟨"BOOT_QUEUE_IDENTITY_OR_STATE_CONFLICT"⟩ := by
  refine ⟨unmarkedRow_delivered, ?_⟩
  have refused :
      durableMessages memberCodec memberModel [unmarkedRow] =
        .error ⟨"BOOT_QUEUE_IDENTITY_OR_STATE_CONFLICT"⟩ := rfl
  simp [bootRedisState, refused, refuseIf, deliveredQueues, bind,
    Except.bind]

end KairosDeploy.Epoch.BootRedisState
