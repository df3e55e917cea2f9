import KairosDeploy.Library.Refusal
import KairosDeploy.Library.Transition
import KairosDeploy.Library.RedisStream
import KairosDeploy.Epoch.Contract

/-!
# Exactly-once publication of the outbox

`EpochWriter.append` commits a bar and its outbox row in one transaction, and
`flush` publishes the unpublished rows: it runs `PUBLICATION_LUA` for each row
and then marks the row.  The script and the mark belong to two stores without
a common transaction, and a flush may be cut off between any two effects.

The publication hash makes the script idempotent.  The invariant of this
module says what the two stores agree on after every prefix of every flush,
and exactly-once publication follows from it.
-/

namespace KairosDeploy.Epoch.OutboxPublication

open KairosDeploy.Library.Refusal
open KairosDeploy.Library.Transition
open KairosDeploy.Library.RedisStream
open KairosDeploy.Epoch.Contract

/-! ## The two stores -/

/--
`canonical_payload`: the canonical JSON text of a payload and its digest.  The
text is a JSON document, so it determines the payload it was written from.
-/
structure PayloadCodec where
  canonicalPayload : Payload → String × String
  text_injective :
    Function.Injective fun payload => (canonicalPayload payload).1

/-- The canonical text of a payload. -/
def PayloadCodec.encoded (codec : PayloadCodec) (payload : Payload) :
    String :=
  (codec.canonicalPayload payload).1

/-- The digest of the canonical text. -/
def PayloadCodec.digest (codec : PayloadCodec) (payload : Payload) :
    String :=
  (codec.canonicalPayload payload).2

/-- The columns of `message_outbox` that `flush` selects. -/
structure OutboxMessage where
  id : Nat
  messageId : String
  topic : String
  payload : Payload
  payloadSha256 : String
  producer : String
  reconciliationState : String
  deadLetteredAt : Option Int
deriving DecidableEq, Repr

/-- A row of `message_outbox`, with the columns that `flush` updates. -/
structure OutboxRow extends OutboxMessage where
  publishedAt : Option Int
  publishAttempts : Nat
  lastError : Option String
deriving DecidableEq, Repr

/-- The table `message_outbox` with its primary key. -/
structure Outbox where
  rows : List OutboxRow
  primaryKey : (rows.map fun row => row.id).Nodup

/-- The rows with `published_at IS NULL`. -/
def Outbox.unpublished (outbox : Outbox) : List OutboxRow :=
  outbox.rows.filter fun row => row.publishedAt.isNone

/--
`SELECT ... WHERE published_at IS NULL ORDER BY id LIMIT MAX_PENDING + 1`.
-/
def Outbox.pendingRecords (outbox : Outbox) : List OutboxMessage :=
  ((outbox.unpublished.map OutboxRow.toOutboxMessage).insertionSort
    fun left right => left.id ≤ right.id).take (maxPending + 1)

/-- The row after `UPDATE ... WHERE id = $1 AND published_at IS NULL`. -/
def OutboxRow.marked (id : Nat) (now : Int) (row : OutboxRow) : OutboxRow :=
  if row.id = id ∧ row.publishedAt = none then
    { row with
      publishedAt := some now
      publishAttempts := row.publishAttempts + 1
      lastError := none }
  else
    row

@[simp]
theorem OutboxRow.marked_toOutboxMessage
    (id : Nat) (now : Int) (row : OutboxRow) :
    (row.marked id now).toOutboxMessage = row.toOutboxMessage := by
  unfold OutboxRow.marked
  split_ifs <;> rfl

/-- The table after the update that marks one row as published. -/
def Outbox.markPublished (outbox : Outbox) (id : Nat) (now : Int) :
    Outbox where
  rows := outbox.rows.map (OutboxRow.marked id now)
  primaryKey := by
    have same :
        (outbox.rows.map (OutboxRow.marked id now)).map (fun row => row.id) =
          outbox.rows.map fun row => row.id := by
      rw [List.map_map]
      apply List.map_congr_left
      intro row _
      exact congrArg OutboxMessage.id (row.marked_toOutboxMessage id now)
    rw [same]
    exact outbox.primaryKey

/-- The two tables an append writes. -/
structure Database where
  audit : List AuditRow
  outbox : Outbox

/-- The receipt stored in the publication hash: a digest and a stream id. -/
structure Receipt where
  digest : String
  id : StreamId
deriving DecidableEq, Repr

/-- The fields of a stream entry, in order. -/
abbrev EntryFields := List (String × String)

/-- The two Redis keys of the epoch. -/
structure RedisState where
  stream : Stream EntryFields
  publication : Dict Receipt

/-! ## Appending a bar -/

/--
The decision of `_require_matching_audit_identity`: whether the stored audit
rows of a message id match the topic and canonical text of the new event.
-/
abbrev AuditIdentityCheck := List AuditRow → String → String → String → Bool

/--
`enqueue_outbox`: one new unpublished row for a message id that has none yet.
The id comes from the table's sequence and has not been used before.
-/
def enqueueOutbox (outbox : Outbox) (message : OutboxMessage) :
    Option Outbox :=
  if outbox.rows.any fun row => row.messageId = message.messageId then
    some outbox
  else if unused : message.id ∉ outbox.rows.map fun row => row.id then
    some
      { rows :=
          outbox.rows ++
            [{ toOutboxMessage := message
               publishedAt := none
               publishAttempts := 0
               lastError := none }]
        primaryKey := by
          rw [List.map_append, List.map_singleton, List.nodup_append]
          refine ⟨outbox.primaryKey, List.nodup_singleton _, ?_⟩
          intro left leftMember right rightMember equal
          rw [List.mem_singleton.1 rightMember] at equal
          exact unused (equal ▸ leftMember) }
  else
    none

/-- The outbox row that an append of `event` proposes. -/
def proposedMessage
    (codec : PayloadCodec) (event : ClosedBarEvent) (outboxId : Nat) :
    OutboxMessage where
  id := outboxId
  messageId := event.messageId
  topic := topic
  payload := event.toPayload
  payloadSha256 := codec.digest event.toPayload
  producer := source
  reconciliationState := "NONE"
  deadLetteredAt := none

/--
The audit half of an append: a new message id gets one row, a known one must
pass the identity check.
-/
def appendAudit
    (codec : PayloadCodec) (identityCheck : AuditIdentityCheck)
    (audit : List AuditRow) (event : ClosedBarEvent) (columns : String) :
    Option (List AuditRow) :=
  let rows := audit.filter fun row => row.messageId = event.messageId
  if rows.isEmpty then
    some
      (audit ++
        [{ messageId := event.messageId
           topic := topic
           source := source
           payload := event.toPayload
           columns := columns }])
  else if identityCheck rows event.messageId topic
      (codec.encoded event.toPayload) then
    some audit
  else
    none

/--
`EpochWriter.append`, the committed transaction.  It has no result when the
identity check raises: the transaction is then rolled back.
-/
def append
    (codec : PayloadCodec) (identityCheck : AuditIdentityCheck)
    (database : Database) (event : ClosedBarEvent) (publish : Bool)
    (columns : String) (outboxId : Nat) : Option Database :=
  (appendAudit codec identityCheck database.audit event columns).bind
    fun audit =>
      (if publish then
        enqueueOutbox database.outbox (proposedMessage codec event outboxId)
      else
        some database.outbox).map
          fun outbox => ⟨audit, outbox⟩

/-! ## The publication script -/

/--
`PUBLICATION_LUA`, run atomically by the server.  `serverId` is the id that
`XADD *` would assign.  An error leaves both keys as they were.
-/
def publicationLua
    (redis : RedisState) (serverId : StreamId)
    (messageId digest encoded : String) :
    Except EpochError (StreamId × RedisState) :=
  match redis.publication.lookup messageId with
  | some prior =>
      if prior.digest ≠ digest then
        .error ⟨"EPOCH_IDENTITY_CONFLICT"⟩
      else
        match redis.stream.xrange prior.id with
        | [row] =>
            if row.fields ≠ [("data", encoded)] then
              .error ⟨"EPOCH_STREAM_PAYLOAD_CONFLICT"⟩
            else
              .ok (prior.id, redis)
        | _ => .error ⟨"EPOCH_RECEIPT_WITHOUT_STREAM"⟩
  | none =>
      match redis.stream.xadd serverId [("data", encoded)] with
      | some stream =>
          .ok
            (serverId,
              { stream := stream
                publication :=
                  redis.publication.insert messageId ⟨digest, serverId⟩ })
      | none =>
          .error
            ⟨"ERR The ID specified in XADD is equal or smaller than the " ++
              "target stream top item"⟩

/-- `re.fullmatch(r"[0-9]+-[0-9]+", receipt)` on the text of an id. -/
def positiveReceipt (receipt : List Char) : Bool :=
  match receipt.dropWhile Char.isDigit with
  | '-' :: sequence =>
      !(receipt.takeWhile Char.isDigit).isEmpty && !sequence.isEmpty &&
        sequence.all Char.isDigit
  | _ => false

/-- The text of a stream id. -/
def receiptText (id : StreamId) : List Char :=
  Nat.toDigits 10 id.ms ++ '-' :: Nat.toDigits 10 id.seq

/-- The tests that `flush` makes on a record before it calls the script. -/
def checkRecord (codec : PayloadCodec) (record : OutboxMessage) :
    Except EpochError Unit := do
  refuseIf
    (record.topic ≠ topic ∨ record.producer ≠ source ∨
      record.reconciliationState ≠ "NONE" ∨ record.deadLetteredAt ≠ none)
    ⟨"NON_BAR_OUTBOX_REJECTED"⟩
  refuseIf
    (codec.digest record.payload ≠ record.payloadSha256 ∨
      record.payload.messageId ≠ some record.messageId)
    ⟨"OUTBOX_HASH_CONFLICT"⟩

/-- One record of `flush`, up to and including the reply of the script. -/
def publishRecord
    (codec : PayloadCodec) (redis : RedisState) (serverId : StreamId)
    (record : OutboxMessage) :
    Except EpochError (StreamId × RedisState) := do
  checkRecord codec record
  publicationLua redis serverId record.messageId
    (codec.digest record.payload) (codec.encoded record.payload)

/-! ## Flushes as a transition system -/

/--
Where the dispatcher stands.  The dispatcher lock admits one flush at a time
and is released when the flush ends or its process dies.
-/
inductive Dispatcher where
  | idle
  | failed (error : EpochError)
  | dispatching (remaining : List OutboxMessage)
  | evaluated (record : OutboxMessage) (remaining : List OutboxMessage)
deriving DecidableEq, Repr

/-- The lock is free. -/
def Dispatcher.unlocked : Dispatcher → Bool
  | .idle | .failed _ => true
  | _ => false

/-- Both stores and the flush in progress. -/
structure PublicationState where
  database : Database
  redis : RedisState
  dispatcher : Dispatcher

/--
What may happen next: a commit by `EpochWriter.append`, an effect of the flush
in progress, a script whose reply was lost, or the end of the flush's process.
-/
inductive PublicationAction where
  | append (event : ClosedBarEvent) (publish : Bool) (columns : String)
      (outboxId : Nat)
  | select
  | evaluate (serverId : StreamId)
  | evaluateUnanswered (serverId : StreamId)
  | update (now : Int)
  | finish
  | cut

/-- The effect of one action, where it is possible. -/
def publicationStep
    (codec : PayloadCodec) (identityCheck : AuditIdentityCheck)
    (state : PublicationState) :
    PublicationAction → Option PublicationState
  | .append event publish columns outboxId =>
      (append codec identityCheck state.database event publish columns
          outboxId).map
        fun database => { state with database := database }
  | .select =>
      if state.dispatcher.unlocked then
        let records := state.database.outbox.pendingRecords
        if records.length > maxPending then
          some
            { state with
              dispatcher := .failed ⟨"NEW_EPOCH_PENDING_CAP_EXCEEDED"⟩ }
        else
          some { state with dispatcher := .dispatching records }
      else
        none
  | .evaluate serverId =>
      match state.dispatcher with
      | .dispatching (record :: remaining) =>
          match publishRecord codec state.redis serverId record with
          | .error error => some { state with dispatcher := .failed error }
          | .ok (receipt, redis) =>
              if positiveReceipt (receiptText receipt) then
                some
                  { state with
                    redis := redis
                    dispatcher := .evaluated record remaining }
              else
                some
                  { state with
                    redis := redis
                    dispatcher :=
                      .failed ⟨"POSITIVE_REDIS_RECEIPT_REQUIRED"⟩ }
      | _ => none
  | .evaluateUnanswered serverId =>
      match state.dispatcher with
      | .dispatching (record :: _) =>
          match publishRecord codec state.redis serverId record with
          | .error _ => none
          | .ok (_, redis) => some { state with redis := redis }
      | _ => none
  | .update now =>
      match state.dispatcher with
      | .evaluated record remaining =>
          some
            { state with
              database :=
                { state.database with
                  outbox := state.database.outbox.markPublished record.id now }
              dispatcher := .dispatching remaining }
      | _ => none
  | .finish =>
      match state.dispatcher with
      | .dispatching [] => some { state with dispatcher := .idle }
      | _ => none
  | .cut => some { state with dispatcher := .idle }

/-! ## What one effect does -/

/-- The single field that a published entry carries. -/
def dataFields (codec : PayloadCodec) (payload : Payload) : EntryFields :=
  [("data", codec.encoded payload)]

/-- A record whose stored digest and message id are those of its payload. -/
def Admissible (codec : PayloadCodec) (record : OutboxMessage) : Prop :=
  codec.digest record.payload = record.payloadSha256 ∧
    record.payload.messageId = some record.messageId

/-- The record has its receipt in the hash and its entry on the stream. -/
def Delivered
    (codec : PayloadCodec) (redis : RedisState) (record : OutboxMessage) :
    Prop :=
  Admissible codec record ∧
    ∃ id,
      redis.publication.lookup record.messageId =
          some ⟨codec.digest record.payload, id⟩ ∧
        ⟨id, dataFields codec record.payload⟩ ∈ redis.stream.entries

theorem checkRecord_admissible
    {codec : PayloadCodec} {record : OutboxMessage}
    (passed : checkRecord codec record = .ok ()) :
    Admissible codec record := by
  simp only [checkRecord, bind_eq_ok_iff, refuseIf_eq_ok_iff, exists_const,
    not_or, not_not] at passed
  exact passed.2

/-- The script either finds the receipt of the record or publishes it. -/
theorem publicationLua_eq_ok
    {redis after : RedisState} {serverId receipt : StreamId}
    {messageId digest encoded : String}
    (succeeded :
      publicationLua redis serverId messageId digest encoded =
        .ok (receipt, after)) :
    (after = redis ∧
      redis.publication.lookup messageId = some ⟨digest, receipt⟩ ∧
      ⟨receipt, [("data", encoded)]⟩ ∈ redis.stream.entries) ∨
    (redis.publication.lookup messageId = none ∧
      after.stream.entries =
        redis.stream.entries ++ [⟨receipt, [("data", encoded)]⟩] ∧
      after.publication =
        redis.publication.insert messageId ⟨digest, receipt⟩) := by
  unfold publicationLua at succeeded
  split at succeeded
  · rename_i prior found
    split_ifs at succeeded with sameDigest
    split at succeeded
    · rename_i row ranged
      split_ifs at succeeded with sameFields
      cases succeeded
      rw [not_not] at sameDigest sameFields
      have rowMember : row ∈ redis.stream.xrange prior.id := by
        rw [ranged]
        exact List.mem_singleton_self row
      rcases (redis.stream.mem_xrange_iff prior.id row).1 rowMember with
        ⟨stored, idEq⟩
      refine Or.inl ⟨rfl, ?_, ?_⟩
      · rw [found, ← sameDigest]
      · rw [← idEq, ← sameFields]
        exact stored
    · cases succeeded
  · rename_i missing
    split at succeeded
    · rename_i stream added
      cases succeeded
      have appended := (Stream.xadd_eq_some_iff _ _ _ _).1 added
      exact Or.inr ⟨missing, appended.2, rfl⟩
    · cases succeeded

/-- A published record is delivered, and nothing delivered is lost. -/
theorem publishRecord_eq_ok
    {codec : PayloadCodec} {redis after : RedisState}
    {serverId receipt : StreamId} {record : OutboxMessage}
    (succeeded :
      publishRecord codec redis serverId record = .ok (receipt, after)) :
    Admissible codec record ∧
      ((after = redis ∧ Delivered codec redis record) ∨
      (redis.publication.lookup record.messageId = none ∧
        after.stream.entries =
          redis.stream.entries ++
            [⟨receipt, dataFields codec record.payload⟩] ∧
        after.publication =
          redis.publication.insert record.messageId
            ⟨codec.digest record.payload, receipt⟩)) := by
  simp only [publishRecord, bind_eq_ok_iff] at succeeded
  rcases succeeded with ⟨_, passed, replied⟩
  have admissible := checkRecord_admissible passed
  refine ⟨admissible, ?_⟩
  rcases publicationLua_eq_ok replied with
    ⟨unchanged, found, stored⟩ | written
  · exact Or.inl ⟨unchanged, admissible, receipt, found, stored⟩
  · exact Or.inr written

theorem enqueueOutbox_eq_some
    {outbox after : Outbox} {message : OutboxMessage}
    (enqueued : enqueueOutbox outbox message = some after) :
    ((∃ row ∈ outbox.rows, row.messageId = message.messageId) ∧
        after = outbox) ∨
      ((∀ row ∈ outbox.rows, row.messageId ≠ message.messageId) ∧
        after.rows =
          outbox.rows ++
            [{ toOutboxMessage := message
               publishedAt := none
               publishAttempts := 0
               lastError := none }]) := by
  unfold enqueueOutbox at enqueued
  split_ifs at enqueued with known unused
  · cases enqueued
    rcases List.any_eq_true.1 known with ⟨row, member, same⟩
    exact Or.inl ⟨⟨row, member, of_decide_eq_true same⟩, rfl⟩
  · cases enqueued
    refine Or.inr ⟨?_, rfl⟩
    intro row member same
    exact known (List.any_eq_true.2 ⟨row, member, by simpa using same⟩)

/-- An append leaves the outbox alone or adds one unpublished row. -/
theorem append_outbox
    {codec : PayloadCodec} {identityCheck : AuditIdentityCheck}
    {database after : Database} {event : ClosedBarEvent} {publish : Bool}
    {columns : String} {outboxId : Nat}
    (committed :
      append codec identityCheck database event publish columns outboxId =
        some after) :
    after.outbox = database.outbox ∨
      ((∀ row ∈ database.outbox.rows, row.messageId ≠ event.messageId) ∧
        after.outbox.rows =
          database.outbox.rows ++
            [{ toOutboxMessage := proposedMessage codec event outboxId
               publishedAt := none
               publishAttempts := 0
               lastError := none }]) := by
  simp only [append, Option.bind_eq_some_iff, Option.map_eq_some_iff]
    at committed
  rcases committed with ⟨audit, _, outbox, enqueued, rfl⟩
  split_ifs at enqueued with publishing
  · exact (enqueueOutbox_eq_some enqueued).imp_left And.right
  · cases enqueued
    exact Or.inl rfl

/-! ## The invariant -/

/-- The records a flush still holds. -/
def Dispatcher.records : Dispatcher → List OutboxMessage
  | .idle | .failed _ => []
  | .dispatching remaining => remaining
  | .evaluated record remaining => record :: remaining

/-- What both stores and the flush in progress agree on in every state. -/
structure Consistent (codec : PayloadCodec) (state : PublicationState) :
    Prop where
  receipted :
    ∀ messageId receipt,
      state.redis.publication.lookup messageId = some receipt →
        ∃ row ∈ state.database.outbox.rows,
          row.messageId = messageId ∧
            Admissible codec row.toOutboxMessage ∧
            receipt.digest = codec.digest row.payload ∧
            ⟨receipt.id, dataFields codec row.payload⟩ ∈
              state.redis.stream.entries
  owned :
    ∀ entry ∈ state.redis.stream.entries,
      ∃ row ∈ state.database.outbox.rows,
        Admissible codec row.toOutboxMessage ∧
          entry.fields = dataFields codec row.payload ∧
          state.redis.publication.lookup row.messageId =
            some ⟨codec.digest row.payload, entry.id⟩
  published :
    ∀ row ∈ state.database.outbox.rows,
      row.publishedAt ≠ none →
        Delivered codec state.redis row.toOutboxMessage
  selected :
    ∀ record ∈ state.dispatcher.records,
      ∃ row ∈ state.database.outbox.rows, row.toOutboxMessage = record
  evaluated :
    ∀ record remaining,
      state.dispatcher = .evaluated record remaining →
        Delivered codec state.redis record

/-- A start without stream, hash, published row or flush. -/
structure FreshStart (state : PublicationState) : Prop where
  stream : state.redis.stream.entries = []
  publication : state.redis.publication = ∅
  unpublished :
    ∀ row ∈ state.database.outbox.rows, row.publishedAt = none
  dispatcher : state.dispatcher = .idle

theorem FreshStart.consistent
    {codec : PayloadCodec} {state : PublicationState}
    (fresh : FreshStart state) :
    Consistent codec state where
  receipted := by
    intro messageId receipt found
    rw [fresh.publication, AList.lookup_empty] at found
    cases found
  owned := by
    intro entry member
    rw [fresh.stream] at member
    cases member
  published := by
    intro row member marked
    exact absurd (fresh.unpublished row member) marked
  selected := by
    intro record member
    rw [fresh.dispatcher] at member
    cases member
  evaluated := by
    intro record remaining equal
    rw [fresh.dispatcher] at equal
    cases equal

/-- Dropping records, or the whole flush, keeps the invariant. -/
theorem Consistent.withDispatcher
    {codec : PayloadCodec} {state : PublicationState}
    (consistent : Consistent codec state) (dispatcher : Dispatcher)
    (selected :
      ∀ record ∈ dispatcher.records,
        ∃ row ∈ state.database.outbox.rows, row.toOutboxMessage = record)
    (evaluated :
      ∀ record remaining,
        dispatcher = .evaluated record remaining →
          Delivered codec state.redis record) :
    Consistent codec { state with dispatcher := dispatcher } where
  receipted := consistent.receipted
  owned := consistent.owned
  published := consistent.published
  selected := selected
  evaluated := evaluated

/-- A flush that ends, in whatever way, keeps the invariant. -/
theorem Consistent.release
    {codec : PayloadCodec} {state : PublicationState}
    (consistent : Consistent codec state) {dispatcher : Dispatcher}
    (unlocked : dispatcher.unlocked = true) :
    Consistent codec { state with dispatcher := dispatcher } := by
  apply consistent.withDispatcher
  · intro record member
    cases dispatcher <;> simp_all [Dispatcher.unlocked, Dispatcher.records]
  · intro record remaining equal
    rw [equal] at unlocked
    cases unlocked

/-- New unpublished rows keep the invariant. -/
theorem Consistent.withRows
    {codec : PayloadCodec} {state : PublicationState} {database : Database}
    (consistent : Consistent codec state)
    (kept :
      ∀ row ∈ state.database.outbox.rows, row ∈ database.outbox.rows)
    (added :
      ∀ row ∈ database.outbox.rows,
        row ∈ state.database.outbox.rows ∨ row.publishedAt = none) :
    Consistent codec { state with database := database } where
  receipted := by
    intro messageId receipt found
    rcases consistent.receipted messageId receipt found with
      ⟨row, member, rest⟩
    exact ⟨row, kept row member, rest⟩
  owned := by
    intro entry entryMember
    rcases consistent.owned entry entryMember with ⟨row, member, rest⟩
    exact ⟨row, kept row member, rest⟩
  published := by
    intro row member marked
    rcases added row member with old | unpublished
    · exact consistent.published row old marked
    · exact absurd unpublished marked
  selected := by
    intro record member
    rcases consistent.selected record member with ⟨row, rowMember, equal⟩
    exact ⟨row, kept row rowMember, equal⟩
  evaluated := consistent.evaluated

/-- What is delivered stays delivered when another record is published. -/
theorem Delivered.publish
    {codec : PayloadCodec} {redis after : RedisState} {receipt : StreamId}
    {record other : OutboxMessage}
    (delivered : Delivered codec redis other)
    (missing : redis.publication.lookup record.messageId = none)
    (entries :
      after.stream.entries =
        redis.stream.entries ++ [⟨receipt, dataFields codec record.payload⟩])
    (publication :
      after.publication =
        redis.publication.insert record.messageId
          ⟨codec.digest record.payload, receipt⟩) :
    Delivered codec after other := by
  rcases delivered with ⟨admissible, id, found, stored⟩
  refine ⟨admissible, id, ?_, ?_⟩
  · have different : other.messageId ≠ record.messageId := by
      intro equal
      rw [equal, missing] at found
      cases found
    rw [publication, AList.lookup_insert_ne different]
    exact found
  · rw [entries]
    exact List.mem_append_left _ stored

/-- Running the script for a selected record keeps the invariant. -/
theorem Consistent.publish
    {codec : PayloadCodec} {state : PublicationState} {redis : RedisState}
    {serverId receipt : StreamId} {record : OutboxMessage}
    (consistent : Consistent codec state)
    (member : record ∈ state.dispatcher.records)
    (succeeded :
      publishRecord codec state.redis serverId record =
        .ok (receipt, redis)) :
    Consistent codec { state with redis := redis } ∧
      Delivered codec redis record := by
  rcases publishRecord_eq_ok succeeded with
    ⟨admissible, ⟨rfl, delivered⟩ | ⟨missing, entries, publication⟩⟩
  · exact ⟨consistent, delivered⟩
  have recordDelivered : Delivered codec redis record := by
    refine ⟨admissible, receipt, ?_, ?_⟩
    · rw [publication, AList.lookup_insert]
    · rw [entries]
      exact List.mem_append_right _ (List.mem_singleton_self _)
  rcases consistent.selected record member with
    ⟨recordRow, recordRowMember, rfl⟩
  refine ⟨?_, recordDelivered⟩
  constructor
  case receipted =>
    intro messageId stored found
    rw [publication] at found
    by_cases same : messageId = recordRow.messageId
    · subst same
      rw [AList.lookup_insert] at found
      cases found
      refine ⟨recordRow, recordRowMember, rfl, admissible, rfl, ?_⟩
      rw [entries]
      exact List.mem_append_right _ (List.mem_singleton_self _)
    · rw [AList.lookup_insert_ne same] at found
      rcases consistent.receipted messageId stored found with
        ⟨row, rowMember, idEq, rowAdmissible, digestEq, entryMember⟩
      refine ⟨row, rowMember, idEq, rowAdmissible, digestEq, ?_⟩
      rw [entries]
      exact List.mem_append_left _ entryMember
  case owned =>
    intro entry entryMember
    rw [entries, List.mem_append] at entryMember
    rcases entryMember with old | new
    · rcases consistent.owned entry old with
        ⟨row, rowMember, rowAdmissible, fieldsEq, found⟩
      have different : row.messageId ≠ recordRow.messageId := by
        intro equal
        rw [equal, missing] at found
        cases found
      refine ⟨row, rowMember, rowAdmissible, fieldsEq, ?_⟩
      rw [publication, AList.lookup_insert_ne different]
      exact found
    · rw [List.mem_singleton] at new
      subst entry
      refine ⟨recordRow, recordRowMember, admissible, rfl, ?_⟩
      rw [publication, AList.lookup_insert]
  case published =>
    intro row rowMember marked
    exact
      (consistent.published row rowMember marked).publish missing entries
        publication
  case selected => exact consistent.selected
  case evaluated =>
    intro other remaining equal
    exact
      (consistent.evaluated other remaining equal).publish missing entries
        publication

/-- Marking the evaluated record keeps the invariant. -/
theorem Consistent.update
    {codec : PayloadCodec} {state : PublicationState}
    {record : OutboxMessage} {remaining : List OutboxMessage}
    (consistent : Consistent codec state)
    (evaluated : state.dispatcher = .evaluated record remaining)
    (now : Int) :
    Consistent codec
      { state with
        database :=
          { state.database with
            outbox := state.database.outbox.markPublished record.id now }
        dispatcher := .dispatching remaining } := by
  have delivered := consistent.evaluated record remaining evaluated
  have recordSelected :
      ∃ row ∈ state.database.outbox.rows, row.toOutboxMessage = record := by
    apply consistent.selected
    rw [evaluated]
    exact List.mem_cons_self
  rcases recordSelected with ⟨recordRow, recordRowMember, recordEq⟩
  have markedMember :
      ∀ row ∈ state.database.outbox.rows,
        row.marked record.id now ∈
          (state.database.outbox.markPublished record.id now).rows :=
    fun row member => List.mem_map.2 ⟨row, member, rfl⟩
  constructor
  case receipted =>
    intro messageId receipt found
    rcases consistent.receipted messageId receipt found with
      ⟨row, member, idEq, admissible, digestEq, entryMember⟩
    refine ⟨row.marked record.id now, markedMember row member, ?_⟩
    rw [OutboxRow.marked_toOutboxMessage]
    exact ⟨idEq, admissible, digestEq, entryMember⟩
  case owned =>
    intro entry entryMember
    rcases consistent.owned entry entryMember with
      ⟨row, member, admissible, fieldsEq, found⟩
    refine ⟨row.marked record.id now, markedMember row member, ?_⟩
    rw [OutboxRow.marked_toOutboxMessage]
    exact ⟨admissible, fieldsEq, found⟩
  case published =>
    intro row member marked
    rcases List.mem_map.1 member with ⟨before, beforeMember, rfl⟩
    rw [OutboxRow.marked_toOutboxMessage]
    by_cases published : before.publishedAt = none
    · by_cases chosen : before.id = record.id
      · have sameRow : before = recordRow :=
          List.inj_on_of_nodup_map state.database.outbox.primaryKey
            beforeMember recordRowMember
            (chosen.trans (congrArg OutboxMessage.id recordEq).symm)
        rw [sameRow, recordEq]
        exact delivered
      · simp [OutboxRow.marked, chosen, published] at marked
    · exact consistent.published before beforeMember published
  case selected =>
    intro other otherMember
    have held : other ∈ state.dispatcher.records := by
      rw [evaluated]
      exact List.mem_cons_of_mem _ otherMember
    rcases consistent.selected other held with ⟨row, rowMember, equal⟩
    exact
      ⟨row.marked record.id now, markedMember row rowMember,
        (row.marked_toOutboxMessage record.id now).trans equal⟩
  case evaluated =>
    intro other rest equal
    cases equal

theorem mem_pendingRecords
    {outbox : Outbox} {record : OutboxMessage}
    (member : record ∈ outbox.pendingRecords) :
    ∃ row ∈ outbox.rows,
      row.publishedAt = none ∧ row.toOutboxMessage = record := by
  have sorted := List.mem_of_mem_take member
  rw [List.mem_insertionSort, List.mem_map] at sorted
  rcases sorted with ⟨row, unpublished, equal⟩
  rcases List.mem_filter.1 unpublished with ⟨rowMember, isNone⟩
  exact ⟨row, rowMember, Option.isNone_iff_eq_none.1 isNone, equal⟩

/-- Every action keeps the invariant. -/
theorem Consistent.step
    {codec : PayloadCodec} {identityCheck : AuditIdentityCheck}
    {state after : PublicationState} {action : PublicationAction}
    (consistent : Consistent codec state)
    (taken : publicationStep codec identityCheck state action = some after) :
    Consistent codec after := by
  cases action with
  | append event publish columns outboxId =>
      rcases Option.map_eq_some_iff.1 taken with ⟨database, committed, rfl⟩
      apply consistent.withRows
      · intro row member
        rcases append_outbox committed with same | ⟨_, rows⟩
        · rw [same]
          exact member
        · rw [rows]
          exact List.mem_append_left _ member
      · intro row member
        rcases append_outbox committed with same | ⟨_, rows⟩
        · rw [same] at member
          exact Or.inl member
        · rw [rows, List.mem_append, List.mem_singleton] at member
          exact member.imp_right fun new => by rw [new]
  | select =>
      simp only [publicationStep] at taken
      split_ifs at taken with unlocked overfull
      · cases taken
        exact consistent.release rfl
      · cases taken
        apply consistent.withDispatcher
        · intro record member
          rcases mem_pendingRecords member with ⟨row, rowMember, _, equal⟩
          exact ⟨row, rowMember, equal⟩
        · intro record remaining equal
          cases equal
  | evaluate serverId =>
      simp only [publicationStep] at taken
      split at taken
      · rename_i record remaining dispatching
        have held : record ∈ state.dispatcher.records := by
          rw [dispatching]
          exact List.mem_cons_self
        split at taken
        · cases taken
          exact consistent.release rfl
        · rename_i receipt redis published
          rcases consistent.publish held published with
            ⟨extended, delivered⟩
          split_ifs at taken with positive
          · cases taken
            apply extended.withDispatcher
            · intro other member
              have otherHeld : other ∈ state.dispatcher.records := by
                rw [dispatching]
                exact member
              exact consistent.selected other otherHeld
            · intro other rest equal
              cases equal
              exact delivered
          · cases taken
            exact extended.release rfl
      · cases taken
  | evaluateUnanswered serverId =>
      simp only [publicationStep] at taken
      split at taken
      · rename_i record remaining dispatching
        have held : record ∈ state.dispatcher.records := by
          rw [dispatching]
          exact List.mem_cons_self
        split at taken
        · cases taken
        · rename_i receipt redis published
          cases taken
          exact (consistent.publish held published).1
      · cases taken
  | update now =>
      simp only [publicationStep] at taken
      split at taken
      · rename_i record remaining evaluated
        cases taken
        exact consistent.update evaluated now
      · cases taken
  | finish =>
      simp only [publicationStep] at taken
      split at taken
      · cases taken
        exact consistent.release rfl
      · cases taken
  | cut =>
      cases taken
      exact consistent.release rfl

/-! ## Exactly-once publication -/

/-- The entry carries the encoding of a payload with this message id. -/
def Owns
    (codec : PayloadCodec) (messageId : String)
    (entry : Entry EntryFields) : Prop :=
  ∃ payload,
    entry.fields = dataFields codec payload ∧
      payload.messageId = some messageId

/--
Exactly-once publication: a message id owns at most one entry, its hash field
exists exactly when that entry does and holds the digest and id of it, and
every published row has both.
-/
structure ExactlyOnce (codec : PayloadCodec) (state : PublicationState) :
    Prop where
  single :
    ∀ messageId,
      ∀ left ∈ state.redis.stream.entries,
        ∀ right ∈ state.redis.stream.entries,
          Owns codec messageId left → Owns codec messageId right →
            left = right
  field_iff :
    ∀ messageId,
      (∃ receipt,
        state.redis.publication.lookup messageId = some receipt) ↔
        ∃ entry ∈ state.redis.stream.entries, Owns codec messageId entry
  field_holds :
    ∀ messageId receipt,
      state.redis.publication.lookup messageId = some receipt →
        ∃ row ∈ state.database.outbox.rows,
          row.messageId = messageId ∧
            receipt.digest = row.payloadSha256 ∧
            receipt.digest = codec.digest row.payload ∧
            ⟨receipt.id, dataFields codec row.payload⟩ ∈
              state.redis.stream.entries
  published :
    ∀ row ∈ state.database.outbox.rows,
      row.publishedAt ≠ none →
        ∃ id,
          state.redis.publication.lookup row.messageId =
              some ⟨row.payloadSha256, id⟩ ∧
            ⟨id, dataFields codec row.payload⟩ ∈ state.redis.stream.entries

/-- Encodings determine payloads. -/
theorem payload_eq_of_dataFields_eq
    {codec : PayloadCodec} {left right : Payload}
    (equal : dataFields codec left = dataFields codec right) :
    left = right := by
  simp only [dataFields, List.cons.injEq, Prod.mk.injEq, true_and,
    and_true] at equal
  exact codec.text_injective equal

/-- An owned entry has its owner's receipt in the hash. -/
theorem Consistent.receipt_of_owns
    {codec : PayloadCodec} {state : PublicationState}
    (consistent : Consistent codec state)
    {messageId : String} {entry : Entry EntryFields}
    (member : entry ∈ state.redis.stream.entries)
    (owns : Owns codec messageId entry) :
    ∃ digest,
      state.redis.publication.lookup messageId = some ⟨digest, entry.id⟩ := by
  rcases owns with ⟨payload, fieldsEq, idEq⟩
  rcases consistent.owned entry member with
    ⟨row, _, admissible, rowFields, found⟩
  have payloadEq : payload = row.payload :=
    payload_eq_of_dataFields_eq (fieldsEq.symm.trans rowFields)
  have sameId : some messageId = some row.messageId := by
    rw [← idEq, payloadEq]
    exact admissible.2
  cases sameId
  exact ⟨_, found⟩

theorem Consistent.exactlyOnce
    {codec : PayloadCodec} {state : PublicationState}
    (consistent : Consistent codec state) :
    ExactlyOnce codec state where
  single := by
    intro messageId left leftMember right rightMember leftOwned rightOwned
    rcases consistent.receipt_of_owns leftMember leftOwned with
      ⟨leftDigest, leftFound⟩
    rcases consistent.receipt_of_owns rightMember rightOwned with
      ⟨rightDigest, rightFound⟩
    have sameReceipt := Option.some.inj (leftFound.symm.trans rightFound)
    exact
      state.redis.stream.entry_eq_of_id_eq leftMember rightMember
        (congrArg Receipt.id sameReceipt)
  field_iff := by
    intro messageId
    constructor
    · rintro ⟨receipt, found⟩
      rcases consistent.receipted messageId receipt found with
        ⟨row, _, rfl, admissible, _, entryMember⟩
      exact ⟨_, entryMember, row.payload, rfl, admissible.2⟩
    · rintro ⟨entry, member, owns⟩
      rcases consistent.receipt_of_owns member owns with ⟨digest, found⟩
      exact ⟨_, found⟩
  field_holds := by
    intro messageId receipt found
    rcases consistent.receipted messageId receipt found with
      ⟨row, rowMember, idEq, admissible, digestEq, entryMember⟩
    exact
      ⟨row, rowMember, idEq, digestEq.trans admissible.1, digestEq,
        entryMember⟩
  published := by
    intro row rowMember marked
    rcases consistent.published row rowMember marked with
      ⟨admissible, id, found, entryMember⟩
    exact ⟨id, by rw [found, ← admissible.1], entryMember⟩

/-- The script refuses a receipt that does not match record and stream. -/
theorem publicationLua_conflict
    {redis : RedisState} (serverId : StreamId)
    {messageId digest encoded : String} {prior : Receipt}
    (found : redis.publication.lookup messageId = some prior)
    (conflict :
      prior.digest ≠ digest ∨
        ⟨prior.id, [("data", encoded)]⟩ ∉ redis.stream.entries) :
    ∃ error,
      publicationLua redis serverId messageId digest encoded =
        .error error := by
  rcases outcome :
      publicationLua redis serverId messageId digest encoded with
    error | ⟨receipt, after⟩
  · exact ⟨error, rfl⟩
  · rcases publicationLua_eq_ok outcome with
      ⟨_, stored, entryMember⟩ | ⟨missing, _⟩
    · rw [found, Option.some.injEq] at stored
      subst prior
      rcases conflict with digestDiffers | absent
      · exact absurd rfl digestDiffers
      · exact absurd entryMember absent
    · rw [found] at missing
      cases missing

/--
Exactly-once publication over all runs, and the three conflicts.  From any
fresh start, every interleaving of appends and flushes, each cut off anywhere,
keeps `ExactlyOnce`.  In any state at all, a flush that meets a receipt with
another digest, a missing entry or another payload fails and changes neither
store.
-/
theorem publication_exactlyOnce
    (codec : PayloadCodec) (identityCheck : AuditIdentityCheck)
    (start : PublicationState) (fresh : FreshStart start) :
    (∀ state,
      Reaches (publicationStep codec identityCheck) start state →
        ExactlyOnce codec state) ∧
      ∀ state record remaining serverId prior,
        state.dispatcher = .dispatching (record :: remaining) →
          state.redis.publication.lookup record.messageId = some prior →
            (prior.digest ≠ codec.digest record.payload ∨
              ⟨prior.id, dataFields codec record.payload⟩ ∉
                state.redis.stream.entries) →
              ∃ error,
                publicationStep codec identityCheck state
                    (.evaluate serverId) =
                  some { state with dispatcher := .failed error } := by
  constructor
  · intro state run
    have consistent : Consistent codec state :=
      run.invariant (Consistent codec) fresh.consistent
        fun _ _ _ before taken => before.step taken
    exact consistent.exactlyOnce
  · intro state record remaining serverId prior dispatching found conflict
    have refused :
        ∃ error,
          publishRecord codec state.redis serverId record =
            .error error := by
      rcases checked : checkRecord codec record with error | _
      · exact ⟨error, by simp only [publishRecord, checked]; rfl⟩
      · rcases
            publicationLua_conflict serverId found conflict with
          ⟨error, refusal⟩
        exact ⟨error, by simp only [publishRecord, checked]; exact refusal⟩
    rcases refused with ⟨error, refusal⟩
    exact ⟨error, by simp only [publicationStep, dispatching, refusal]⟩

/-! ## A run with a lost update -/

/-- One member of a payload: every character escaped, then a terminator. -/
def memberText (text : List Char) : List Char :=
  text.flatMap (fun character => ['.', character]) ++ [';']

theorem memberText_append_inj
    {left right leftTail rightTail : List Char}
    (equal : memberText left ++ leftTail = memberText right ++ rightTail) :
    left = right ∧ leftTail = rightTail := by
  induction left generalizing right with
  | nil =>
      cases right with
      | nil => simpa [memberText] using equal
      | cons head tail => simp [memberText] at equal
  | cons head tail induction =>
      cases right with
      | nil => simp [memberText] at equal
      | cons rightHead rightRest =>
          simp only [memberText, List.flatMap_cons, List.cons_append,
            List.nil_append, List.append_assoc, List.cons.injEq,
            true_and] at equal
          have rest : tail = rightRest ∧ leftTail = rightTail :=
            induction (by
              simpa only [memberText, List.append_assoc, List.cons_append,
                List.nil_append] using equal.2)
          exact ⟨by rw [equal.1, rest.1], rest.2⟩

/-- An optional text, distinguishing an absent member from an empty one. -/
def optionalText : Option String → List Char
  | none => []
  | some text => '=' :: text.toList

/-- An optional number in decimal. -/
def optionalNumber : Option Int → List Char
  | none => []
  | some number => '=' :: (toString number).toList

theorem optionalText_injective : Function.Injective optionalText := by
  intro left right equal
  cases left <;> cases right <;>
    simp_all [optionalText, String.toList_inj]

theorem optionalNumber_injective : Function.Injective optionalNumber := by
  intro left right equal
  cases left <;> cases right <;>
    simp_all [optionalNumber, String.toList_inj]

/-- The members of a payload, one after the other. -/
def payloadText (payload : Payload) : List Char :=
  memberText (optionalText payload.messageId) ++
    (memberText (optionalText payload.symbol) ++
      (memberText (optionalNumber payload.openTimeMs) ++
        (memberText (optionalNumber payload.closeTimeMs) ++
          (memberText payload.rest.toList ++ []))))

theorem payloadText_injective : Function.Injective payloadText := by
  intro left right equal
  rcases memberText_append_inj equal with ⟨messageId, equal⟩
  rcases memberText_append_inj equal with ⟨symbol, equal⟩
  rcases memberText_append_inj equal with ⟨openTime, equal⟩
  rcases memberText_append_inj equal with ⟨closeTime, equal⟩
  rcases memberText_append_inj equal with ⟨rest, _⟩
  cases left
  cases right
  simp only [Payload.mk.injEq]
  exact
    ⟨optionalText_injective messageId, optionalText_injective symbol,
      optionalNumber_injective openTime, optionalNumber_injective closeTime,
      String.toList_inj.1 rest⟩

/-- A codec that writes the members in a fixed order. -/
def memberCodec : PayloadCodec where
  canonicalPayload payload :=
    (String.ofList (payloadText payload), String.ofList (payloadText payload))
  text_injective := by
    intro left right equal
    exact payloadText_injective (String.ofList_injective equal)

/-- Two empty stores and no flush. -/
def emptyPublication : PublicationState where
  database := ⟨[], ⟨[], List.nodup_nil⟩⟩
  redis := ⟨Stream.empty, ∅⟩
  dispatcher := .idle

theorem emptyPublication_fresh : FreshStart emptyPublication where
  stream := rfl
  publication := rfl
  unpublished := by
    intro row member
    cases member
  dispatcher := rfl

/-- A flush that dies between the script and the update, then another. -/
def lostUpdateActions : List PublicationAction :=
  [.append ⟨"m1", "BTCUSDT", 0, 59999, ""⟩ true "" 1, .select,
    .evaluate ⟨1, 0⟩, .cut, .select, .evaluate ⟨2, 0⟩, .update 7, .finish]

/-- After the lost update the row is marked and the stream holds one entry. -/
theorem publication_exactlyOnce_lostUpdate :
    ∃ state,
      perform (publicationStep memberCodec fun _ _ _ _ => true)
          emptyPublication lostUpdateActions =
        some state ∧
      state.redis.stream.entries.length = 1 ∧
      state.database.outbox.unpublished = [] ∧
      ExactlyOnce memberCodec state := by
  have performed :
      perform (publicationStep memberCodec fun _ _ _ _ => true)
          emptyPublication lostUpdateActions =
        some _ := rfl
  refine ⟨_, performed, rfl, rfl, ?_⟩
  exact
    (publication_exactlyOnce memberCodec (fun _ _ _ _ => true)
      emptyPublication emptyPublication_fresh).1 _
      (reaches_of_perform performed)

end KairosDeploy.Epoch.OutboxPublication
