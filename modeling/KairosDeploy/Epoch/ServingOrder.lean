import KairosDeploy.Epoch.ServingLoop

/-!
# The order of a symbol's bars on the stream

Recovery appends the bars of one symbol minute by minute while the five
symbols interleave, and a flush publishes unpublished rows by outbox id.  A
crash may leave a row published on the stream but unmarked in the table.

For one symbol the state is three nested prefixes: the marked rows, the rows
on the stream, and all rows in append order.  Each operation of the loop moves
one of the three ends.
-/

namespace KairosDeploy.Epoch.ServingOrder

open KairosDeploy.Library.Refusal
open KairosDeploy.Library.Transition
open KairosDeploy.Library.RedisStream
open KairosDeploy.Epoch.Contract
open KairosDeploy.Epoch.RuntimeWatermark
open KairosDeploy.Epoch.AuditAnchors
open KairosDeploy.Epoch.OutboxPublication
open KairosDeploy.Epoch.ServingLoop

/-! ## One symbol -/

/-- The later bar opens one minute after the earlier one. -/
def NextMinute (earlier later : Payload) : Prop :=
  ∃ time,
    earlier.openTimeMs = some time ∧
      later.openTimeMs = some (time + minute)

/-- The earlier bar opens before the later one. -/
def OpensBefore (earlier later : Payload) : Prop :=
  ∃ earlierTime laterTime,
    earlier.openTimeMs = some earlierTime ∧
      later.openTimeMs = some laterTime ∧ earlierTime < laterTime

instance : Trans OpensBefore OpensBefore OpensBefore where
  trans := by
    rintro first second third ⟨early, middle, firstTime, secondTime, less⟩
      ⟨middle', late, secondTime', thirdTime, less'⟩
    rw [secondTime, Option.some.injEq] at secondTime'
    subst middle'
    exact ⟨early, late, firstTime, thirdTime, less.trans less'⟩

/-- Along a chain of minutes no payload occurs twice. -/
theorem nodup_of_isChain
    {payloads : List Payload} (chain : payloads.IsChain NextMinute) :
    payloads.Nodup := by
  have opens : payloads.IsChain OpensBefore := by
    apply chain.imp
    rintro earlier later ⟨time, earlierTime, laterTime⟩
    exact
      ⟨time, time + minute, earlierTime, laterTime,
        lt_add_of_pos_right time (by decide)⟩
  apply (List.isChain_iff_pairwise.1 opens).imp
  rintro earlier _ ⟨_, _, earlierTime, laterTime, less⟩ rfl
  rw [earlierTime, Option.some.injEq] at laterTime
  exact less.ne laterTime

/--
The rows of one symbol in append order, its newest audited minute and its
payloads on the stream.  Marked rows are a prefix of what is on the stream,
and what is on the stream is a prefix of the rows.
-/
structure SymbolOrdered
    (rows : List OutboxRow) (newest : Option Int) (streamed : List Payload) :
    Prop where
  chain : (rows.map fun row => row.payload).IsChain NextMinute
  ids : rows.Pairwise fun earlier later => earlier.id < later.id
  last : ∀ row ∈ rows.getLast?, row.payload.openTimeMs = newest
  prefixes :
    ∃ front back,
      rows = front ++ back ∧
        (∀ row ∈ front, row.publishedAt ≠ none) ∧
        (∀ row ∈ back, row.publishedAt = none) ∧
        front.map (fun row => row.payload) <+: streamed ∧
        streamed <+: rows.map fun row => row.payload

theorem SymbolOrdered.empty (newest : Option Int) :
    SymbolOrdered [] newest [] where
  chain := .nil
  ids := .nil
  last := by simp
  prefixes := ⟨[], [], by simp⟩

/-- The marked rows are the first rows. -/
theorem SymbolOrdered.published_prefix
    {rows : List OutboxRow} {newest : Option Int} {streamed : List Payload}
    (ordered : SymbolOrdered rows newest streamed) :
    rows.filter (fun row => row.publishedAt.isSome) <+: rows := by
  rcases ordered.prefixes with ⟨front, back, rfl, marked, unmarked, _⟩
  have frontKept :
      front.filter (fun row => row.publishedAt.isSome) = front := by
    rw [List.filter_eq_self]
    intro row member
    exact Option.isSome_iff_ne_none.2 (marked row member)
  have backDropped :
      back.filter (fun row => row.publishedAt.isSome) = [] := by
    rw [List.filter_eq_nil_iff]
    intro row member
    simp [unmarked row member]
  rw [List.filter_append, frontKept, backDropped, List.append_nil]
  exact List.prefix_append front back

/-- On the stream, one minute follows the other. -/
theorem SymbolOrdered.streamed_isChain
    {rows : List OutboxRow} {newest : Option Int} {streamed : List Payload}
    (ordered : SymbolOrdered rows newest streamed) :
    streamed.IsChain NextMinute := by
  rcases ordered.prefixes with ⟨_, _, _, _, _, _, inRows⟩
  exact ordered.chain.prefix inRows

/-- No row opens after the newest audited minute. -/
theorem SymbolOrdered.openTime_le
    {rows : List OutboxRow} {newest : Int} {streamed : List Payload}
    (ordered : SymbolOrdered rows (some newest) streamed)
    {row : OutboxRow} (member : row ∈ rows) :
    ∃ time, row.payload.openTimeMs = some time ∧ time ≤ newest := by
  rcases List.eq_nil_or_concat rows with rfl | ⟨front, final, rfl⟩
  · cases member
  have finalTime : final.payload.openTimeMs = some newest :=
    ordered.last final (by simp)
  rw [List.concat_eq_append, List.mem_append, List.mem_singleton] at member
  rcases member with earlier | rfl
  · have opens :
        ((front ++ [final]).map fun row => row.payload).IsChain
          OpensBefore := by
      rw [← List.concat_eq_append]
      apply ordered.chain.imp
      rintro earlier later ⟨time, earlierTime, laterTime⟩
      exact
        ⟨time, time + minute, earlierTime, laterTime,
          lt_add_of_pos_right time (by decide)⟩
    rw [List.isChain_iff_pairwise, List.map_append,
      List.pairwise_append] at opens
    rcases
        opens.2.2 row.payload (List.mem_map_of_mem earlier) final.payload
          (by simp) with
      ⟨time, finalOpen, rowTime, finalEq, less⟩
    rw [finalTime, Option.some.injEq] at finalEq
    subst finalOpen
    exact ⟨time, rowTime, less.le⟩
  · exact ⟨newest, finalTime, le_rfl⟩

/-- Appending the next minute. -/
theorem SymbolOrdered.append
    {rows : List OutboxRow} {newest : Int} {streamed : List Payload}
    {row : OutboxRow}
    (ordered : SymbolOrdered rows (some newest) streamed)
    (opened : row.payload.openTimeMs = some (newest + minute))
    (unmarked : row.publishedAt = none)
    (greater : ∀ earlier ∈ rows, earlier.id < row.id) :
    SymbolOrdered (rows ++ [row]) (some (newest + minute)) streamed where
  chain := by
    rw [List.map_append, List.isChain_append]
    refine ⟨ordered.chain, .singleton _, ?_⟩
    intro earlier earlierLast later laterFirst
    simp only [List.map_singleton, List.head?_cons, Option.mem_def,
      Option.some.injEq] at laterFirst
    subst later
    rw [List.getLast?_map, Option.mem_def,
      Option.map_eq_some_iff] at earlierLast
    rcases earlierLast with ⟨last, isLast, rfl⟩
    exact ⟨newest, ordered.last last isLast, opened⟩
  ids := by
    rw [List.pairwise_append]
    refine ⟨ordered.ids, List.pairwise_singleton _ _, ?_⟩
    intro earlier member later laterMember
    rw [List.mem_singleton.1 laterMember]
    exact greater earlier member
  last := by
    intro last isLast
    simp only [List.getLast?_append, List.getLast?_singleton,
      Option.some_or, Option.mem_def, Option.some.injEq] at isLast
    rw [← isLast]
    exact opened
  prefixes := by
    rcases ordered.prefixes with
      ⟨front, back, rfl, marked, unmarkedBack, onStream, inRows⟩
    refine
      ⟨front, back ++ [row], List.append_assoc _ _ _, marked, ?_, onStream,
        ?_⟩
    · intro other member
      rcases List.mem_append.1 member with old | new
      · exact unmarkedBack other old
      · rw [List.mem_singleton.1 new]
        exact unmarked
    · rw [List.map_append]
      exact inRows.trans (List.prefix_append _ _)

/-- The unmarked row with the smallest id is the first unmarked row. -/
theorem first_unmarked
    {rows front back : List OutboxRow} {row : OutboxRow}
    (ids : rows.Pairwise fun earlier later => earlier.id < later.id)
    (rowsEq : rows = front ++ back)
    (marked : ∀ other ∈ front, other.publishedAt ≠ none)
    (unmarkedBack : ∀ other ∈ back, other.publishedAt = none)
    (member : row ∈ rows)
    (unmarked : row.publishedAt = none)
    (least :
      ∀ other ∈ rows, other.publishedAt = none → row.id ≤ other.id) :
    ∃ rest, back = row :: rest := by
  subst rowsEq
  have inBack : row ∈ back := by
    rcases List.mem_append.1 member with inFront | inBack
    · exact absurd unmarked (marked row inFront)
    · exact inBack
  cases back with
  | nil => cases inBack
  | cons head rest =>
      refine ⟨rest, ?_⟩
      rcases List.mem_cons.1 inBack with rfl | later
      · rfl
      · have headLess : head.id < row.id :=
          List.rel_of_pairwise_cons (List.pairwise_append.1 ids).2.1 later
        have rowLeast : row.id ≤ head.id :=
          least head (by simp) (unmarkedBack head List.mem_cons_self)
        omega

/-- Publishing the first unmarked row, when it is not on the stream yet. -/
theorem SymbolOrdered.publish
    {rows : List OutboxRow} {newest : Option Int} {streamed : List Payload}
    {row : OutboxRow}
    (ordered : SymbolOrdered rows newest streamed)
    (member : row ∈ rows)
    (unmarked : row.publishedAt = none)
    (least :
      ∀ other ∈ rows, other.publishedAt = none → row.id ≤ other.id)
    (absent : row.payload ∉ streamed) :
    SymbolOrdered rows newest (streamed ++ [row.payload]) where
  chain := ordered.chain
  ids := ordered.ids
  last := ordered.last
  prefixes := by
    rcases ordered.prefixes with
      ⟨front, back, rowsEq, marked, unmarkedBack, onStream, inRows⟩
    rcases
        first_unmarked ordered.ids rowsEq marked unmarkedBack member unmarked
          least with
      ⟨rest, rfl⟩
    have exactFront : streamed = front.map fun row => row.payload := by
      rcases onStream with ⟨more, rfl⟩
      rw [rowsEq, List.map_append, List.prefix_append_right_inj] at inRows
      cases more with
      | nil => exact List.append_nil _
      | cons head tail =>
          rw [List.map_cons, List.cons_prefix_cons] at inRows
          exact absurd (by simp [inRows.1]) absent
    refine
      ⟨front, row :: rest, rowsEq, marked, unmarkedBack,
        onStream.trans (List.prefix_append _ _), ?_⟩
    rw [rowsEq, exactFront, List.map_append, List.map_cons,
      List.prefix_append_right_inj]
    exact ⟨rest.map fun row => row.payload, rfl⟩

/-- Marking a row that is not here changes nothing. -/
theorem map_marked_of_ne
    {rows : List OutboxRow} {id : Nat} (now : Int)
    (other : ∀ row ∈ rows, row.publishedAt = none → row.id ≠ id) :
    rows.map (OutboxRow.marked id now) = rows := by
  conv_rhs => rw [← List.map_id rows]
  apply List.map_congr_left
  intro row member
  unfold OutboxRow.marked
  split_ifs with chosen
  · exact absurd chosen.1 (other row member chosen.2)
  · rfl

/-- Marking the first unmarked row, once it is on the stream. -/
theorem SymbolOrdered.mark
    {rows : List OutboxRow} {newest : Option Int} {streamed : List Payload}
    {row : OutboxRow}
    (ordered : SymbolOrdered rows newest streamed)
    (member : row ∈ rows)
    (unmarked : row.publishedAt = none)
    (least :
      ∀ other ∈ rows, other.publishedAt = none → row.id ≤ other.id)
    (present : row.payload ∈ streamed)
    (now : Int) :
    SymbolOrdered (rows.map (OutboxRow.marked row.id now)) newest
      streamed := by
  have payloads :
      (rows.map (OutboxRow.marked row.id now)).map (fun row => row.payload) =
        rows.map fun row => row.payload := by
    rw [List.map_map]
    apply List.map_congr_left
    intro other _
    exact
      congrArg OutboxMessage.payload
        (other.marked_toOutboxMessage row.id now)
  constructor
  case chain =>
    rw [payloads]
    exact ordered.chain
  case ids =>
    rw [List.pairwise_map]
    simpa only [OutboxRow.marked_toOutboxMessage] using ordered.ids
  case last =>
    intro last isLast
    rw [List.getLast?_map, Option.mem_def, Option.map_eq_some_iff] at isLast
    rcases isLast with ⟨before, beforeLast, rfl⟩
    rw [OutboxRow.marked_toOutboxMessage]
    exact ordered.last before beforeLast
  case prefixes =>
    rcases ordered.prefixes with
      ⟨front, back, rowsEq, marked, unmarkedBack, onStream, inRows⟩
    rcases
        first_unmarked ordered.ids rowsEq marked unmarkedBack member unmarked
          least with
      ⟨rest, rfl⟩
    have ids := ordered.ids
    rw [rowsEq, List.pairwise_append, List.pairwise_cons] at ids
    have frontKept : front.map (OutboxRow.marked row.id now) = front :=
      map_marked_of_ne now fun other otherMember otherUnmarked =>
        absurd otherUnmarked (marked other otherMember)
    have restKept : rest.map (OutboxRow.marked row.id now) = rest :=
      map_marked_of_ne now fun other otherMember _ =>
        (ids.2.1.1 other otherMember).ne'
    have extended :
        (front ++ [row]).map (fun row => row.payload) <+: streamed := by
      rcases onStream with ⟨more, rfl⟩
      have inRows' := inRows
      rw [rowsEq, List.map_append, List.prefix_append_right_inj] at inRows'
      cases more with
      | nil =>
          have distinct := nodup_of_isChain ordered.chain
          rw [rowsEq, List.map_append, List.map_cons,
            List.nodup_append] at distinct
          rw [List.append_nil] at present
          exact
            absurd rfl
              (distinct.2.2 row.payload present row.payload
                List.mem_cons_self)
      | cons head tail =>
          rw [List.map_cons, List.cons_prefix_cons] at inRows'
          rw [inRows'.1, List.map_append, List.map_singleton,
            List.prefix_append_right_inj]
          exact ⟨tail, rfl⟩
    refine ⟨front ++ [row.marked row.id now], rest, ?_, ?_, ?_, ?_, ?_⟩
    · rw [rowsEq, List.map_append, List.map_cons, frontKept, restKept,
        List.append_assoc]
      rfl
    · intro other otherMember
      rcases List.mem_append.1 otherMember with inFront | isRow
      · exact marked other inFront
      · rw [List.mem_singleton.1 isRow]
        simp [OutboxRow.marked, unmarked]
    · intro other otherMember
      exact unmarkedBack other (List.mem_cons_of_mem _ otherMember)
    · rw [List.map_append, List.map_singleton,
        OutboxRow.marked_toOutboxMessage]
      rw [List.map_append, List.map_singleton] at extended
      exact extended
    · rw [payloads]
      exact inRows

/-! ## Both stores -/

/-- The rows of one symbol in append order. -/
def symbolOutbox (outbox : Outbox) (symbol : String) : List OutboxRow :=
  outbox.rows.filter fun row => row.payload.symbol = some symbol

/-- The payloads of one symbol in stream order. -/
def symbolStream (stream : List Payload) (symbol : String) : List Payload :=
  stream.filter fun payload => payload.symbol = some symbol

/-- The entries of the stream carry these payloads, in this order. -/
def Carries
    (codec : PayloadCodec) (redis : RedisState) (stream : List Payload) :
    Prop :=
  redis.stream.entries.map Entry.fields = stream.map (dataFields codec)

/--
What both stores satisfy in every state: outbox rows are audited, closed bars
come from the one source, and each symbol is in order.
-/
structure OrderedStores
    (codec : PayloadCodec) (database : Database) (redis : RedisState) :
    Prop where
  audited :
    ∀ row ∈ database.outbox.rows,
      ∃ auditRow ∈ database.audit, auditRow.messageId = row.messageId
  sourced :
    ∀ row ∈ database.audit, row.topic = topic → row.source = source
  known :
    ∀ row ∈ database.outbox.rows,
      ∃ symbol ∈ symbols, row.payload.symbol = some symbol
  ordered :
    ∃ stream,
      Carries codec redis stream ∧
        ∀ symbol ∈ symbols,
          SymbolOrdered (symbolOutbox database.outbox symbol)
            (lastOpen database.audit symbol) (symbolStream stream symbol)

/--
The documented behaviour of `_require_matching_audit_identity`: it accepts
only stored rows with the topic and the canonical text of the event.
-/
def IdentitySound
    (codec : PayloadCodec) (identityCheck : AuditIdentityCheck) : Prop :=
  ∀ rows messageId topic encoded,
    identityCheck rows messageId topic encoded = true →
      ∀ row ∈ rows, row.topic = topic ∧ codec.encoded row.payload = encoded

/-- The audit row of a new bar. -/
def barAuditRow (event : ClosedBarEvent) (columns : String) : AuditRow where
  messageId := event.messageId
  topic := topic
  source := source
  payload := event.toPayload
  columns := columns

/-- The outbox row of a new bar. -/
def barOutboxRow
    (codec : PayloadCodec) (event : ClosedBarEvent) (outboxId : Nat) :
    OutboxRow where
  toOutboxMessage := proposedMessage codec event outboxId
  publishedAt := none
  publishAttempts := 0
  lastError := none

/-- A bar beyond the newest audited minute gets a row in both tables. -/
theorem append_newMinute
    {codec : PayloadCodec} {identityCheck : AuditIdentityCheck}
    {database after : Database} {redis : RedisState}
    {messageId symbol rest columns : String} {newest : Int} {outboxId : Nat}
    (sound : IdentitySound codec identityCheck)
    (stores : OrderedStores codec database redis)
    (found : lastOpen database.audit symbol = some newest)
    (committed :
      OutboxPublication.append codec identityCheck database
          (closedBar messageId symbol (newest + minute) rest) true columns
          outboxId =
        some after) :
    after.audit =
        database.audit ++
          [barAuditRow (closedBar messageId symbol (newest + minute) rest)
            columns] ∧
      after.outbox.rows =
        database.outbox.rows ++
          [barOutboxRow codec
            (closedBar messageId symbol (newest + minute) rest)
            outboxId] := by
  simp only [OutboxPublication.append, Option.bind_eq_some_iff,
    Option.map_eq_some_iff, if_true] at committed
  rcases committed with ⟨audit, audited, outbox, enqueued, rfl⟩
  simp only [appendAudit] at audited
  split_ifs at audited with unknown accepted
  · cases audited
    refine ⟨rfl, ?_⟩
    rcases enqueueOutbox_eq_some enqueued with ⟨known, same⟩ | ⟨_, rows⟩
    · rcases known with ⟨row, member, sameId⟩
      rcases stores.audited row member with ⟨auditRow, stored, auditId⟩
      rw [List.isEmpty_iff, List.filter_eq_nil_iff] at unknown
      exact
        absurd (decide_eq_true (auditId.trans sameId))
          (unknown auditRow stored)
    · exact rows
  · rw [List.isEmpty_iff] at unknown
    rcases List.exists_mem_of_ne_nil _ unknown with ⟨row, member⟩
    rcases sound _ _ _ _ accepted row member with ⟨rowTopic, rowText⟩
    have stored := (List.mem_filter.1 member).1
    have payloadEq := codec.text_injective rowText
    have isSymbolRow : row ∈ symbolRows database.audit symbol :=
      mem_symbolRows_iff.2
        ⟨stored, rowTopic, stores.sourced row stored rowTopic, by
          rw [payloadEq]; rfl⟩
    have tooNew : newest + minute ≤ newest :=
      le_lastOpen found isSymbolRow (by rw [payloadEq]; rfl)
    exact absurd tooNew (by simp [minute])

/-- A recovery step keeps both stores in order. -/
theorem OrderedStores.append
    {codec : PayloadCodec} {identityCheck : AuditIdentityCheck}
    {database after : Database} {redis : RedisState}
    {messageId symbol rest columns : String} {newest : Int} {outboxId : Nat}
    (stores : OrderedStores codec database redis)
    (sound : IdentitySound codec identityCheck)
    (member : symbol ∈ symbols)
    (found : lastOpen database.audit symbol = some newest)
    (increasing :
      ∀ row ∈ symbolOutbox database.outbox symbol, row.id < outboxId)
    (committed :
      OutboxPublication.append codec identityCheck database
          (closedBar messageId symbol (newest + minute) rest) true columns
          outboxId =
        some after) :
    OrderedStores codec after redis ∧
      lastOpen after.audit symbol = some (newest + minute) ∧
      ∀ other, other ≠ symbol →
        lastOpen after.audit other = lastOpen database.audit other := by
  rcases append_newMinute sound stores found committed with
    ⟨auditEq, rowsEq⟩
  have ownNewest :
      lastOpen after.audit symbol = some (newest + minute) := by
    rw [auditEq]
    exact
      lastOpen_append_newer found
        (le_add_of_nonneg_right (by decide))
        (mem_symbolRows_iff.2
          ⟨List.mem_singleton_self _, rfl, rfl, rfl⟩)
        rfl
  have otherNewest :
      ∀ other, other ≠ symbol →
        lastOpen after.audit other = lastOpen database.audit other := by
    intro other different
    rw [auditEq]
    apply lastOpen_append_other
    intro equal
    exact different (Option.some.inj equal).symm
  refine ⟨?_, ownNewest, otherNewest⟩
  constructor
  case audited =>
    intro row rowMember
    rw [rowsEq, List.mem_append, List.mem_singleton] at rowMember
    rw [auditEq]
    rcases rowMember with old | rfl
    · rcases stores.audited row old with ⟨auditRow, stored, sameId⟩
      exact ⟨auditRow, List.mem_append_left _ stored, sameId⟩
    · exact
        ⟨_, List.mem_append_right _ (List.mem_singleton_self _), rfl⟩
  case sourced =>
    intro row rowMember rowTopic
    rw [auditEq, List.mem_append, List.mem_singleton] at rowMember
    rcases rowMember with old | rfl
    · exact stores.sourced row old rowTopic
    · rfl
  case known =>
    intro row rowMember
    rw [rowsEq, List.mem_append, List.mem_singleton] at rowMember
    rcases rowMember with old | rfl
    · exact stores.known row old
    · exact ⟨symbol, member, rfl⟩
  case ordered =>
    rcases stores.ordered with ⟨stream, carried, ordered⟩
    refine ⟨stream, carried, ?_⟩
    intro other otherMember
    by_cases same : other = symbol
    · subst other
      have extended :
          symbolOutbox after.outbox symbol =
            symbolOutbox database.outbox symbol ++
              [barOutboxRow codec
                (closedBar messageId symbol (newest + minute) rest)
                outboxId] := by
        simp [symbolOutbox, rowsEq, barOutboxRow, proposedMessage,
          closedBar, ClosedBarEvent.toPayload]
      have before := ordered symbol member
      rw [found] at before
      rw [extended, ownNewest]
      exact before.append rfl rfl increasing
    · have unchanged :
          symbolOutbox after.outbox other =
            symbolOutbox database.outbox other := by
        simp [symbolOutbox, rowsEq, barOutboxRow, proposedMessage,
          closedBar, ClosedBarEvent.toPayload, Ne.symm same]
      rw [unchanged, otherNewest other same]
      exact ordered other otherMember

/-- A payload is carried exactly when some entry has its fields. -/
theorem Carries.mem_iff
    {codec : PayloadCodec} {redis : RedisState} {stream : List Payload}
    (carried : Carries codec redis stream) (payload : Payload) :
    payload ∈ stream ↔
      ∃ entry ∈ redis.stream.entries,
        entry.fields = dataFields codec payload := by
  have fieldsMember :
      dataFields codec payload ∈ stream.map (dataFields codec) ↔
        payload ∈ stream := by
    constructor
    · intro mapped
      rcases List.mem_map.1 mapped with ⟨other, otherMember, equal⟩
      rw [← payload_eq_of_dataFields_eq equal]
      exact otherMember
    · exact List.mem_map_of_mem
  rw [← fieldsMember, ← carried, List.mem_map]

/-- The row is unpublished, and no row of its symbol comes before it. -/
def FirstPending (outbox : Outbox) (row : OutboxRow) : Prop :=
  row ∈ outbox.unpublished ∧
    ∀ other ∈ outbox.unpublished, row.id ≤ other.id

theorem FirstPending.least
    {outbox : Outbox} {row : OutboxRow} (first : FirstPending outbox row)
    (symbol : String) :
    ∀ other ∈ symbolOutbox outbox symbol,
      other.publishedAt = none → row.id ≤ other.id := by
  intro other otherMember unmarked
  apply first.2
  exact
    List.mem_filter.2
      ⟨(List.mem_filter.1 otherMember).1, by rw [unmarked]; rfl⟩

/-- Publishing the first pending row keeps both stores in order. -/
theorem OrderedStores.publish
    {codec : PayloadCodec} {publication : PublicationState}
    {redis : RedisState} {serverId receipt : StreamId} {row : OutboxRow}
    (stores :
      OrderedStores codec publication.database publication.redis)
    (consistent : Consistent codec publication)
    (first : FirstPending publication.database.outbox row)
    (succeeded :
      publishRecord codec publication.redis serverId row.toOutboxMessage =
        .ok (receipt, redis)) :
    OrderedStores codec publication.database redis := by
  rcases publishRecord_eq_ok succeeded with
    ⟨admissible, ⟨rfl, _⟩ | ⟨missing, entries, _⟩⟩
  · exact stores
  refine ⟨stores.audited, stores.sourced, stores.known, ?_⟩
  rcases stores.ordered with ⟨stream, carried, ordered⟩
  have absent : row.payload ∉ stream := by
    intro present
    rcases (carried.mem_iff row.payload).1 present with
      ⟨entry, entryMember, fieldsEq⟩
    rcases
        consistent.receipt_of_owns entryMember
          ⟨row.payload, fieldsEq, admissible.2⟩ with
      ⟨digest, found⟩
    rw [missing] at found
    cases found
  refine ⟨stream ++ [row.payload], ?_, ?_⟩
  · unfold Carries at carried ⊢
    rw [entries, List.map_append, List.map_append, carried]
    rfl
  · intro symbol member
    by_cases own : row.payload.symbol = some symbol
    · have extended :
          symbolStream (stream ++ [row.payload]) symbol =
            symbolStream stream symbol ++ [row.payload] := by
        simp [symbolStream, own]
      rw [extended]
      rcases List.mem_filter.1 first.1 with ⟨stored, unmarked⟩
      apply
        (ordered symbol member).publish
          (List.mem_filter.2 ⟨stored, decide_eq_true own⟩)
          (Option.isNone_iff_eq_none.1 unmarked)
          (first.least symbol)
      intro present
      exact absent (List.mem_filter.1 present).1
    · have unchanged :
          symbolStream (stream ++ [row.payload]) symbol =
            symbolStream stream symbol := by
        simp [symbolStream, own]
      rw [unchanged]
      exact ordered symbol member

theorem symbolOutbox_markPublished
    (outbox : Outbox) (id : Nat) (now : Int) (symbol : String) :
    symbolOutbox (outbox.markPublished id now) symbol =
      (symbolOutbox outbox symbol).map (OutboxRow.marked id now) := by
  simp only [symbolOutbox, Outbox.markPublished, List.filter_map]
  congr 1
  apply List.filter_congr
  intro row _
  simp only [Function.comp_apply, OutboxRow.marked_toOutboxMessage]

/-- Marking the first pending row, once delivered, keeps both in order. -/
theorem OrderedStores.update
    {codec : PayloadCodec} {database : Database} {redis : RedisState}
    {row : OutboxRow}
    (stores : OrderedStores codec database redis)
    (first : FirstPending database.outbox row)
    (delivered : Delivered codec redis row.toOutboxMessage)
    (now : Int) :
    OrderedStores codec
      { database with outbox := database.outbox.markPublished row.id now }
      redis := by
  have rowFacts := List.mem_filter.1 first.1
  constructor
  case audited =>
    intro other otherMember
    rcases List.mem_map.1 otherMember with ⟨before, stored, rfl⟩
    rw [OutboxRow.marked_toOutboxMessage]
    exact stores.audited before stored
  case sourced => exact stores.sourced
  case known =>
    intro other otherMember
    rcases List.mem_map.1 otherMember with ⟨before, stored, rfl⟩
    rw [OutboxRow.marked_toOutboxMessage]
    exact stores.known before stored
  case ordered =>
    rcases stores.ordered with ⟨stream, carried, ordered⟩
    refine ⟨stream, carried, ?_⟩
    intro symbol member
    dsimp only
    rw [symbolOutbox_markPublished]
    by_cases own : row.payload.symbol = some symbol
    · apply
        (ordered symbol member).mark
          (List.mem_filter.2 ⟨rowFacts.1, decide_eq_true own⟩)
          (Option.isNone_iff_eq_none.1 rowFacts.2)
          (first.least symbol)
      rcases delivered with ⟨_, id, _, entryMember⟩
      exact
        List.mem_filter.2
          ⟨(carried.mem_iff row.payload).2 ⟨_, entryMember, rfl⟩,
            decide_eq_true own⟩
    · rw [map_marked_of_ne now]
      · exact ordered symbol member
      · intro other otherMember _ sameId
        rcases List.mem_filter.1 otherMember with ⟨stored, otherSymbol⟩
        have sameRow : other = row :=
          List.inj_on_of_nodup_map database.outbox.primaryKey stored
            rowFacts.1 sameId
        rw [sameRow] at otherSymbol
        exact own (of_decide_eq_true otherSymbol)

/-! ## The flush in progress -/

/-- The records a flush holds are unpublished and sorted by id. -/
structure Selected (publication : PublicationState) : Prop where
  sorted :
    publication.dispatcher.records.Pairwise fun earlier later =>
      earlier.id < later.id
  pending :
    ∀ record ∈ publication.dispatcher.records,
      ∃ row ∈ publication.database.outbox.unpublished,
        row.toOutboxMessage = record

theorem Selected.of_unlocked
    {publication : PublicationState}
    (unlocked : publication.dispatcher.unlocked = true) :
    Selected publication := by
  have none : publication.dispatcher.records = [] := by
    rcases publication with ⟨_, _, dispatcher⟩
    cases dispatcher with
    | idle => rfl
    | failed error => rfl
    | dispatching remaining => cases unlocked
    | evaluated record remaining => cases unlocked
  refine ⟨?_, ?_⟩
  · rw [none]
    exact .nil
  · rw [none]
    intro record member
    cases member

/-- `ORDER BY id` on a primary key is strict. -/
theorem pendingRecords_sorted
    {outbox : Outbox}
    (fits : outbox.pendingRecords.length ≤ maxPending) :
    outbox.pendingRecords.Pairwise fun earlier later =>
      earlier.id < later.id := by
  rw [pendingRecords_eq_sorted fits]
  have total :
      Std.Total fun left right : OutboxMessage => left.id ≤ right.id :=
    ⟨fun left right => le_total left.id right.id⟩
  have transitive :
      IsTrans OutboxMessage fun left right => left.id ≤ right.id :=
    ⟨fun _ _ _ first second => first.trans second⟩
  have weak :=
    List.pairwise_insertionSort
      (fun left right : OutboxMessage => left.id ≤ right.id)
      (outbox.unpublished.map OutboxRow.toOutboxMessage)
  have idsNodup :
      (outbox.unpublished.map fun row => row.id).Nodup :=
    outbox.primaryKey.sublist (List.filter_sublist.map _)
  have distinct :
      ((outbox.unpublished.map OutboxRow.toOutboxMessage).insertionSort
          fun left right => left.id ≤ right.id).Pairwise
        fun left right => left.id ≠ right.id := by
    rw [← List.pairwise_map]
    have permuted :=
      (List.perm_insertionSort
        (fun left right : OutboxMessage => left.id ≤ right.id)
        (outbox.unpublished.map OutboxRow.toOutboxMessage)).map
        OutboxMessage.id
    rw [List.map_map] at permuted
    exact permuted.nodup_iff.2 idsNodup
  exact
    (weak.and distinct).imp fun facts => lt_of_le_of_ne facts.1 facts.2

/-- The record at the head of a flush belongs to the first pending row. -/
theorem Selected.firstPending
    {publication : PublicationState} {record : OutboxMessage}
    {remaining : List OutboxMessage}
    (selected : Selected publication)
    (covers : Covers publication)
    (locked : publication.dispatcher.unlocked = false)
    (records : publication.dispatcher.records = record :: remaining) :
    ∃ row,
      FirstPending publication.database.outbox row ∧
        row.toOutboxMessage = record := by
  have sorted := selected.sorted
  rw [records, List.pairwise_cons] at sorted
  rcases selected.pending record (by rw [records]; simp) with
    ⟨row, rowMember, rfl⟩
  refine ⟨row, ⟨rowMember, ?_⟩, rfl⟩
  intro other otherMember
  have held : other.toOutboxMessage ∈ row.toOutboxMessage :: remaining := by
    rcases covers with unlocked | covered
    · rw [locked] at unlocked
      cases unlocked
    · rw [← records]
      exact covered other otherMember
  rcases List.mem_cons.1 held with same | later
  · exact (congrArg OutboxMessage.id same).ge
  · exact (sorted.1 _ later).le

/-- Every effect of a flush keeps both stores in order. -/
theorem OrderedStores.flushMove
    {codec : PayloadCodec} {before after : PublicationState}
    (stores : OrderedStores codec before.database before.redis)
    (consistent : Consistent codec before)
    (selected : Selected before)
    (covers : Covers before)
    (move : FlushMove codec before after) :
    OrderedStores codec after.database after.redis ∧ Selected after := by
  cases move with
  | overfull => exact ⟨stores, .of_unlocked rfl⟩
  | selected fits =>
      refine ⟨stores, pendingRecords_sorted fits, ?_⟩
      intro record member
      rcases mem_pendingRecords member with
        ⟨row, stored, unmarked, equal⟩
      exact
        ⟨row, List.mem_filter.2 ⟨stored, by rw [unmarked]; rfl⟩, equal⟩
  | refused => exact ⟨stores, .of_unlocked rfl⟩
  | @published record remaining _ _ _ _ dispatching succeeded outcome =>
      have records : before.dispatcher.records = record :: remaining := by
        rw [dispatching]
        rfl
      rcases
          selected.firstPending covers (by rw [dispatching]; rfl) records
        with ⟨row, first, rfl⟩
      refine ⟨stores.publish consistent first succeeded, ?_⟩
      have sorted := selected.sorted
      have pending := selected.pending
      rw [records] at sorted pending
      rcases outcome with rfl | rfl | rfl
      · exact ⟨sorted, pending⟩
      · exact ⟨sorted, pending⟩
      · exact .of_unlocked rfl
  | @updated record remaining now evaluated =>
      have records : before.dispatcher.records = record :: remaining := by
        rw [evaluated]
        rfl
      rcases
          selected.firstPending covers (by rw [evaluated]; rfl) records
        with ⟨row, first, rfl⟩
      have delivered := consistent.evaluated _ _ evaluated
      refine ⟨stores.update first delivered now, ?_, ?_⟩
      · have sorted := selected.sorted
        rw [records] at sorted
        exact sorted.of_cons
      · intro other otherMember
        have sorted := selected.sorted
        rw [records, List.pairwise_cons] at sorted
        rcases selected.pending other
            (by rw [records]; exact List.mem_cons_of_mem _ otherMember) with
          ⟨otherRow, otherPending, rfl⟩
        refine ⟨otherRow, ?_, rfl⟩
        dsimp only
        rw [unpublished_markPublished, List.mem_filter]
        exact
          ⟨otherPending,
            decide_eq_true (sorted.1 _ otherMember).ne'⟩

/-! ## Runs of the loop -/

/-- An appended row gets a greater id than the earlier rows of its symbol. -/
def AssignsInOrder (state : ServingState) : ServingAction → Prop
  | .append _ symbol _ _ outboxId =>
      ∀ row ∈ symbolOutbox state.outbox symbol, row.id < outboxId
  | _ => True

instance (state : ServingState) (action : ServingAction) :
    Decidable (AssignsInOrder state action) :=
  match action with
  | .append _ symbol _ _ outboxId =>
      inferInstanceAs
        (Decidable
          (∀ row ∈ symbolOutbox state.outbox symbol, row.id < outboxId))
  | .flush _ | .flushed _ | .plan | .recovered | .restart _ =>
      inferInstanceAs (Decidable True)

/-- The loop over a table whose ids increase along each symbol's appends. -/
def orderedServingStep
    (codec : PayloadCodec) (identityCheck : AuditIdentityCheck)
    (model : BarModel) (state : ServingState) (action : ServingAction) :
    Option ServingState :=
  if AssignsInOrder state action then
    servingStep codec identityCheck model state action
  else
    none

/-- The invariant of the loop. -/
structure Ordered (codec : PayloadCodec) (state : ServingState) : Prop where
  bounded : Bounded state
  consistent : Consistent codec state.publication
  selected : Selected state.publication
  stores :
    OrderedStores codec state.publication.database state.publication.redis
  resumes :
    ∀ endExclusive next,
      state.stage = .recovering endExclusive next →
        ∀ symbol ∈ symbols,
          ∃ newest,
            lastOpen state.publication.database.audit symbol =
                some newest ∧
              next symbol = newest + minute

/-- A plan resumes each symbol after its newest audited minute. -/
theorem planRound_resumes
    {model : BarModel} {audit : List AuditRow} {target endExclusive : Int}
    {next : String → Int}
    (planned : planRound model audit target = .ok (endExclusive, next)) :
    ∀ symbol ∈ symbols,
      ∃ newest,
        lastOpen audit symbol = some newest ∧
          next symbol = newest + minute := by
  intro symbol member
  rcases planRound_eq_ok planned with ⟨values, read, rfl, _⟩
  rcases (anchors_eq_ok read).2 symbol member with
    ⟨event, found, newest, watermark, _⟩
  exact
    ⟨event.openTimeMs, newest,
      (watermarkAt_of_lookup found).trans watermark⟩

/-- Every move with ids in order keeps the invariant. -/
theorem Ordered.move
    {codec : PayloadCodec} {identityCheck : AuditIdentityCheck}
    {model : BarModel} {state after : ServingState} {action : ServingAction}
    (sound : IdentitySound codec identityCheck)
    (ordered : Ordered codec state)
    (inOrder : AssignsInOrder state action)
    (taken : servingStep codec identityCheck model state action = some after) :
    Ordered codec after := by
  have move := servingStep_move taken
  have bounded := ordered.bounded.move move
  have consistent : Consistent codec after.publication :=
    (servingStep_publication taken).invariant (Consistent codec)
      ordered.consistent fun _ _ _ before performed => before.step performed
  have stores := ordered.stores
  have selected := ordered.selected
  cases move with
  | @flush before after stage effect flushes performed =>
      have covers : Covers before := by
        cases stage with
        | flushing target => exact ordered.bounded.2.1
        | flushingAgain => exact ordered.bounded.2.1
        | planning target => cases flushes
        | recovering endExclusive next => cases flushes
      rcases
          stores.flushMove ordered.consistent selected covers
            (flushEffect_move performed) with
        ⟨storesAfter, selectedAfter⟩
      refine ⟨bounded, consistent, selectedAfter, storesAfter, ?_⟩
      rintro endExclusive next rfl
      cases flushes
  | @flushed before after stage nextStage now advanced performed =>
      rcases finish_eq_some performed with ⟨_, rfl⟩
      refine ⟨bounded, consistent, .of_unlocked rfl, stores, ?_⟩
      rintro endExclusive next rfl
      cases stage <;> cases advanced
  | plan planned =>
      refine ⟨bounded, consistent, selected, stores, ?_⟩
      intro endExclusive next stageEq
      cases stageEq
      exact planRound_resumes planned
  | @append before after endExclusive next messageId symbol rest columns
      outboxId member missing performed =>
      rcases Option.map_eq_some_iff.1 performed with
        ⟨database, committed, rfl⟩
      have resumes := ordered.resumes endExclusive next rfl
      rcases resumes symbol member with ⟨newest, found, nextEq⟩
      rw [nextEq] at committed
      rcases stores.append sound member found inOrder committed with
        ⟨storesAfter, ownNewest, otherNewest⟩
      refine
        ⟨bounded, consistent, .of_unlocked ?_, storesAfter, ?_⟩
      · rw [bounded.1]
        rfl
      · intro _ _ stageEq other otherMember
        cases stageEq
        by_cases same : other = symbol
        · subst other
          refine ⟨newest + minute, ownNewest, ?_⟩
          rw [Function.update_self, nextEq]
        · rw [Function.update_of_ne same]
          dsimp only
          rw [otherNewest other same]
          exact resumes other otherMember
  | recovered =>
      refine ⟨bounded, consistent, selected, stores, ?_⟩
      intro _ _ stageEq
      cases stageEq
  | restart =>
      refine ⟨bounded, consistent, .of_unlocked rfl, stores, ?_⟩
      intro _ _ stageEq
      cases stageEq

/--
A service at the start of its epoch: an empty outbox, an empty stream and
hash, and an audit table whose closed bars come from the one source.
-/
structure EpochStart (state : ServingState) : Prop where
  rows : state.outbox.rows = []
  stream : state.publication.redis.stream.entries = []
  publication : state.publication.redis.publication = ∅
  dispatcher : state.publication.dispatcher = .idle
  stage : ∃ target, state.stage = .flushing target
  sourced :
    ∀ row ∈ state.publication.database.audit,
      row.topic = topic → row.source = source

theorem EpochStart.ordered
    {codec : PayloadCodec} {state : ServingState}
    (started : EpochStart state) :
    Ordered codec state := by
  rcases state with ⟨⟨⟨audit, outbox⟩, redis, dispatcher⟩, stage⟩
  rcases started with ⟨rows, stream, publication, rfl, ⟨_, rfl⟩, sourced⟩
  dsimp only [ServingState.outbox] at rows stream publication sourced
  have noRows : ∀ row, row ∉ outbox.rows := by
    intro row
    rw [rows]
    exact List.not_mem_nil
  have noPending : outbox.unpublished = [] := by
    rw [Outbox.unpublished, rows]
    rfl
  constructor
  case bounded =>
    refine ⟨?_, Or.inl rfl, by simp⟩
    dsimp only
    rw [noPending]
    exact Nat.zero_le _
  case consistent =>
    apply FreshStart.consistent
    exact
      { stream := stream
        publication := publication
        unpublished := fun row member => absurd member (noRows row)
        dispatcher := rfl }
  case selected => exact .of_unlocked rfl
  case stores =>
    refine
      ⟨fun row member => absurd member (noRows row), sourced,
        fun row member => absurd member (noRows row), [], ?_, ?_⟩
    · unfold Carries
      dsimp only
      rw [stream]
      rfl
    · intro symbol _
      dsimp only [symbolOutbox, symbolStream]
      rw [rows]
      exact .empty _
  case resumes =>
    intro _ _ stageEq
    cases stageEq

/--
The order of the stream.  In every state of every run from the start of the
epoch, the entries carry payloads of the five symbols, the payloads of each
symbol follow each other minute by minute, and the published rows of each
symbol are the first of its rows in append order.
-/
theorem servingLoop_stream_ordered
    (codec : PayloadCodec) (identityCheck : AuditIdentityCheck)
    (model : BarModel) (sound : IdentitySound codec identityCheck)
    (start state : ServingState) (started : EpochStart start)
    (run :
      Reaches (orderedServingStep codec identityCheck model) start state) :
    ∃ stream,
      state.publication.redis.stream.entries.map Entry.fields =
          stream.map (dataFields codec) ∧
        (∀ payload ∈ stream,
          ∃ symbol ∈ symbols, payload.symbol = some symbol) ∧
        ∀ symbol ∈ symbols,
          (symbolStream stream symbol).IsChain NextMinute ∧
            symbolStream stream symbol <+:
              (symbolOutbox state.outbox symbol).map
                (fun row => row.payload) ∧
            (symbolOutbox state.outbox symbol).filter
                (fun row => row.publishedAt.isSome) <+:
              symbolOutbox state.outbox symbol := by
  have ordered : Ordered codec state := by
    apply run.invariant (Ordered codec) started.ordered
    intro before action after beforeOrdered taken
    unfold orderedServingStep at taken
    split_ifs at taken with inOrder
    exact beforeOrdered.move sound inOrder taken
  rcases ordered.stores.ordered with ⟨stream, carried, perSymbol⟩
  refine ⟨stream, carried, ?_, ?_⟩
  · intro payload member
    rcases (carried.mem_iff payload).1 member with
      ⟨entry, entryMember, fieldsEq⟩
    rcases ordered.consistent.owned entry entryMember with
      ⟨row, rowMember, _, rowFields, _⟩
    rw [payload_eq_of_dataFields_eq (fieldsEq.symm.trans rowFields)]
    exact ordered.stores.known row rowMember
  · intro symbol member
    have symbolOrdered := perSymbol symbol member
    rcases symbolOrdered.prefixes with ⟨_, _, _, _, _, _, inRows⟩
    exact
      ⟨symbolOrdered.streamed_isChain, inRows,
        symbolOrdered.published_prefix⟩

theorem matchingIdentity_sound (codec : PayloadCodec) :
    IdentitySound codec (matchingIdentity codec) := by
  intro rows messageId topic encoded accepted row member
  simp only [matchingIdentity, List.all_eq_true] at accepted
  exact of_decide_eq_true (accepted row member)

/--
The crashed recovery, followed by a service that dies between the script and
the update of the second row, and a third one that publishes what is left.
-/
def republishedRecovery : List ServingAction :=
  crashedRecovery ++
    [.restart 400000, .flush .select, .flush (.evaluate ⟨3, 0⟩),
      .flush (.update 10), .flush (.evaluate ⟨4, 0⟩), .flush (.update 11),
      .flushed 0]

/-- Three entries, in the order of the minutes of each symbol. -/
theorem servingLoop_stream_ordered_republished :
    ∃ state stream,
      perform
          (orderedServingStep memberCodec (matchingIdentity memberCodec)
            minuteBarModel)
          firstMinuteService republishedRecovery =
        some state ∧
      state.publication.redis.stream.entries.length = 3 ∧
      state.publication.redis.stream.entries.map Entry.fields =
        stream.map (dataFields memberCodec) ∧
      (symbolStream stream "BTCUSDT").IsChain NextMinute := by
  have performed :
      perform
          (orderedServingStep memberCodec (matchingIdentity memberCodec)
            minuteBarModel)
          firstMinuteService republishedRecovery =
        some _ := rfl
  have started : EpochStart firstMinuteService :=
    { rows := rfl
      stream := rfl
      publication := rfl
      dispatcher := rfl
      stage := ⟨3 * minute, rfl⟩
      sourced := by decide }
  rcases
      servingLoop_stream_ordered memberCodec (matchingIdentity memberCodec)
        minuteBarModel (matchingIdentity_sound memberCodec)
        firstMinuteService _ started (reaches_of_perform performed) with
    ⟨stream, carried, _, perSymbol⟩
  exact
    ⟨_, stream, performed, rfl, carried,
      (perSymbol "BTCUSDT" (by decide)).1⟩

end KairosDeploy.Epoch.ServingOrder
