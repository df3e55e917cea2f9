import KairosDeploy.Library.Transition
import KairosDeploy.Epoch.RuntimeWatermark
import KairosDeploy.Epoch.AuditAnchors
import KairosDeploy.Epoch.OutboxPublication

/-!
# The serving loop and its pending bound

One round of `runtime` flushes the outbox, plans an end, recovers the five
symbols up to it and flushes again.  Every part may fail or be cut off at any
point, after which the service starts again at the first flush.

The cap on pending rows is spread over three places: the flush that precedes
every plan, the cap in `recover` and the end chosen by `bounded_runtime_end`.
The invariant of this module adds the rows that are still unpublished to the
bars that the running recovery may still append.
-/

namespace KairosDeploy.Epoch.ServingLoop

open KairosDeploy.Library.Refusal
open KairosDeploy.Library.Transition
open KairosDeploy.Library.RedisStream
open KairosDeploy.Epoch.Contract
open KairosDeploy.Epoch.RuntimeWatermark
open KairosDeploy.Epoch.AuditAnchors
open KairosDeploy.Epoch.OutboxPublication

/-! ## The loop -/

/--
Where the loop stands.  `recovering` carries the end of the batch and, for
each symbol, the minute that `recover_symbol` appends next.
-/
inductive Stage where
  | flushing (target : Int)
  | planning (target : Int)
  | recovering (endExclusive : Int) (next : String → Int)
  | flushingAgain

/-- The stores, the flush in progress and the place in the loop. -/
structure ServingState where
  publication : PublicationState
  stage : Stage

/-- The table that the loop keeps bounded. -/
def ServingState.outbox (state : ServingState) : Outbox :=
  state.publication.database.outbox

/-- The finality target at a clock reading. -/
def finalityTarget (now : Int) : Int :=
  ((now - finalityMs) / minute) * minute

/-- The effects of a flush before it returns. -/
inductive FlushEffect where
  | select
  | evaluate (serverId : StreamId)
  | evaluateUnanswered (serverId : StreamId)
  | update (now : Int)

/-- A flush effect as an action on both stores. -/
def FlushEffect.toAction : FlushEffect → PublicationAction
  | .select => .select
  | .evaluate serverId => .evaluate serverId
  | .evaluateUnanswered serverId => .evaluateUnanswered serverId
  | .update now => .update now

/-- A bar as `recover_symbol` hands it to the writer. -/
def closedBar (messageId symbol : String) (openTime : Int) (rest : String) :
    ClosedBarEvent where
  messageId := messageId
  symbol := symbol
  openTimeMs := openTime
  closeTimeMs := openTime + minute - 1
  rest := rest

/--
What may happen next.  `recovered` ends a recovery that succeeded or stopped
with an admitted source wait.  `restart` stands for every other failure, a
cancellation or a crash, and the start of the service that follows.
-/
inductive ServingAction where
  | flush (effect : FlushEffect)
  | flushed (now : Int)
  | plan
  | append (messageId symbol rest columns : String) (outboxId : Nat)
  | recovered
  | restart (now : Int)

/--
The plan of a round: the end of the batch, the two tests that `recover` makes
on it, and the minute at which each symbol resumes.
-/
def planRound (model : BarModel) (audit : List AuditRow) (target : Int) :
    Except EpochError (Int × (String → Int)) := do
  let values ← anchors model audit
  let endExclusive ← boundedRuntimeEnd values target
  let required ← requiredBars values endExclusive
  refuseIf (required > maxPending) ⟨"EPOCH_INTERVAL_EXCEEDS_FIXED_CAP"⟩
  return (endExclusive, watermarkAt values)

/-- The stage after a flush returns. -/
def Stage.afterFlush (now : Int) : Stage → Option Stage
  | .flushing target => some (.planning target)
  | .flushingAgain => some (.flushing (finalityTarget now))
  | _ => none

/-- The effect of one action, where it is possible. -/
def servingStep
    (codec : PayloadCodec) (identityCheck : AuditIdentityCheck)
    (model : BarModel) (state : ServingState) :
    ServingAction → Option ServingState
  | .flush effect =>
      match state.stage with
      | .flushing _ | .flushingAgain =>
          (publicationStep codec identityCheck state.publication
              effect.toAction).map
            fun publication => { state with publication := publication }
      | _ => none
  | .flushed now =>
      (state.stage.afterFlush now).bind fun stage =>
        (publicationStep codec identityCheck state.publication .finish).map
          fun publication => ⟨publication, stage⟩
  | .plan =>
      match state.stage with
      | .planning target =>
          match planRound model state.publication.database.audit target with
          | .ok (endExclusive, next) =>
              some { state with stage := .recovering endExclusive next }
          | .error _ => none
      | _ => none
  | .append messageId symbol rest columns outboxId =>
      match state.stage with
      | .recovering endExclusive next =>
          if symbol ∈ symbols ∧ next symbol < endExclusive then
            (publicationStep codec identityCheck state.publication
                (.append (closedBar messageId symbol (next symbol) rest) true
                  columns outboxId)).map
              fun publication =>
                { publication := publication
                  stage :=
                    .recovering endExclusive
                      (Function.update next symbol
                        (next symbol + minute)) }
          else
            none
      | _ => none
  | .recovered =>
      match state.stage with
      | .recovering _ _ => some { state with stage := .flushingAgain }
      | _ => none
  | .restart now =>
      (publicationStep codec identityCheck state.publication .cut).map
        fun publication =>
          { publication := publication
            stage := .flushing (finalityTarget now) }

/-! ## What one step does -/

/-- The stages in which a flush runs. -/
def Stage.flushes : Stage → Prop
  | .flushing _ | .flushingAgain => True
  | _ => False

/-- The moves of the loop, with what each of them requires. -/
inductive ServingMove
    (codec : PayloadCodec) (identityCheck : AuditIdentityCheck)
    (model : BarModel) :
    ServingState → ServingAction → ServingState → Prop where
  | flush {before after : PublicationState} {stage : Stage}
      {effect : FlushEffect}
      (flushes : stage.flushes)
      (performed :
        publicationStep codec identityCheck before effect.toAction =
          some after) :
      ServingMove codec identityCheck model ⟨before, stage⟩ (.flush effect)
        ⟨after, stage⟩
  | flushed {before after : PublicationState} {stage nextStage : Stage}
      {now : Int}
      (advanced : stage.afterFlush now = some nextStage)
      (performed :
        publicationStep codec identityCheck before .finish = some after) :
      ServingMove codec identityCheck model ⟨before, stage⟩ (.flushed now)
        ⟨after, nextStage⟩
  | plan {publication : PublicationState} {target endExclusive : Int}
      {next : String → Int}
      (planned :
        planRound model publication.database.audit target =
          .ok (endExclusive, next)) :
      ServingMove codec identityCheck model
        ⟨publication, .planning target⟩ .plan
        ⟨publication, .recovering endExclusive next⟩
  | append {before after : PublicationState} {endExclusive : Int}
      {next : String → Int} {messageId symbol rest columns : String}
      {outboxId : Nat}
      (member : symbol ∈ symbols)
      (missing : next symbol < endExclusive)
      (performed :
        publicationStep codec identityCheck before
            (.append (closedBar messageId symbol (next symbol) rest) true
              columns outboxId) =
          some after) :
      ServingMove codec identityCheck model
        ⟨before, .recovering endExclusive next⟩
        (.append messageId symbol rest columns outboxId)
        ⟨after,
          .recovering endExclusive
            (Function.update next symbol (next symbol + minute))⟩
  | recovered {publication : PublicationState} {endExclusive : Int}
      {next : String → Int} :
      ServingMove codec identityCheck model
        ⟨publication, .recovering endExclusive next⟩ .recovered
        ⟨publication, .flushingAgain⟩
  | restart {publication : PublicationState} {stage : Stage} {now : Int} :
      ServingMove codec identityCheck model ⟨publication, stage⟩
        (.restart now)
        ⟨{ publication with dispatcher := .idle },
          .flushing (finalityTarget now)⟩

/-- Every step is one of the moves. -/
theorem servingStep_move
    {codec : PayloadCodec} {identityCheck : AuditIdentityCheck}
    {model : BarModel} {state after : ServingState} {action : ServingAction}
    (taken : servingStep codec identityCheck model state action = some after) :
    ServingMove codec identityCheck model state action after := by
  rcases state with ⟨publication, stage⟩
  cases action with
  | flush effect =>
      cases stage with
      | flushing target =>
          rcases Option.map_eq_some_iff.1 taken with ⟨_, performed, rfl⟩
          exact .flush trivial performed
      | flushingAgain =>
          rcases Option.map_eq_some_iff.1 taken with ⟨_, performed, rfl⟩
          exact .flush trivial performed
      | planning target => cases taken
      | recovering endExclusive next => cases taken
  | flushed now =>
      rcases Option.bind_eq_some_iff.1 taken with ⟨_, advanced, finished⟩
      rcases Option.map_eq_some_iff.1 finished with ⟨_, performed, rfl⟩
      exact .flushed advanced performed
  | plan =>
      simp only [servingStep] at taken
      split at taken
      · split at taken
        · rename_i planned
          cases taken
          exact .plan planned
        · cases taken
      · cases taken
  | append messageId symbol rest columns outboxId =>
      simp only [servingStep] at taken
      split at taken
      · split_ifs at taken with allowed
        rcases Option.map_eq_some_iff.1 taken with ⟨_, performed, rfl⟩
        exact .append allowed.1 allowed.2 performed
      · cases taken
  | recovered =>
      cases stage with
      | recovering endExclusive next =>
          cases taken
          exact .recovered
      | flushing target => cases taken
      | planning target => cases taken
      | flushingAgain => cases taken
  | restart now =>
      cases taken
      exact .restart

/-- Every step of the loop is an action on the stores, or none. -/
theorem servingStep_publication
    {codec : PayloadCodec} {identityCheck : AuditIdentityCheck}
    {model : BarModel} {state after : ServingState} {action : ServingAction}
    (taken : servingStep codec identityCheck model state action = some after) :
    Reaches (publicationStep codec identityCheck) state.publication
      after.publication := by
  cases servingStep_move taken with
  | flush _ performed => exact .step .start performed
  | flushed _ performed => exact .step .start performed
  | plan _ => exact .start
  | append _ _ performed => exact .step .start performed
  | recovered => exact .start
  | @restart publication _ _ =>
      have performed :
          publicationStep codec identityCheck publication .cut =
            some { publication with dispatcher := .idle } := rfl
      exact .step .start performed

/-- The effects of a flush, with what each of them requires. -/
inductive FlushMove (codec : PayloadCodec) :
    PublicationState → PublicationState → Prop where
  | overfull {before : PublicationState}
      (overfull :
        maxPending < before.database.outbox.pendingRecords.length) :
      FlushMove codec before
        { before with
          dispatcher := .failed ⟨"NEW_EPOCH_PENDING_CAP_EXCEEDED"⟩ }
  | selected {before : PublicationState}
      (fits : before.database.outbox.pendingRecords.length ≤ maxPending) :
      FlushMove codec before
        { before with
          dispatcher :=
            .dispatching before.database.outbox.pendingRecords }
  | refused {before : PublicationState} {record : OutboxMessage}
      {serverId : StreamId} {error : EpochError}
      (refusal :
        publishRecord codec before.redis serverId record = .error error) :
      FlushMove codec before { before with dispatcher := .failed error }
  | published {before : PublicationState} {record : OutboxMessage}
      {remaining : List OutboxMessage} {serverId receipt : StreamId}
      {redis : RedisState} {dispatcher : Dispatcher}
      (dispatching : before.dispatcher = .dispatching (record :: remaining))
      (succeeded :
        publishRecord codec before.redis serverId record =
          .ok (receipt, redis))
      (outcome :
        dispatcher = .evaluated record remaining ∨
          dispatcher = .dispatching (record :: remaining) ∨
          dispatcher = .failed ⟨"POSITIVE_REDIS_RECEIPT_REQUIRED"⟩) :
      FlushMove codec before
        { before with redis := redis, dispatcher := dispatcher }
  | updated {before : PublicationState} {record : OutboxMessage}
      {remaining : List OutboxMessage} {now : Int}
      (evaluated : before.dispatcher = .evaluated record remaining) :
      FlushMove codec before
        { before with
          database :=
            { before.database with
              outbox := before.database.outbox.markPublished record.id now }
          dispatcher := .dispatching remaining }

theorem flushEffect_move
    {codec : PayloadCodec} {identityCheck : AuditIdentityCheck}
    {before after : PublicationState} {effect : FlushEffect}
    (performed :
      publicationStep codec identityCheck before effect.toAction =
        some after) :
    FlushMove codec before after := by
  cases effect with
  | select =>
      simp only [FlushEffect.toAction, publicationStep] at performed
      split_ifs at performed with unlocked overfull
      · cases performed
        exact .overfull overfull
      · cases performed
        exact .selected (not_lt.1 overfull)
  | evaluate serverId =>
      simp only [FlushEffect.toAction, publicationStep] at performed
      split at performed
      · rename_i record remaining dispatching
        split at performed
        · rename_i error refusal
          cases performed
          exact .refused refusal
        · rename_i receipt redis succeeded
          split_ifs at performed with positive
          · cases performed
            exact .published dispatching succeeded (Or.inl rfl)
          · cases performed
            exact .published dispatching succeeded (Or.inr (Or.inr rfl))
      · cases performed
  | evaluateUnanswered serverId =>
      simp only [FlushEffect.toAction, publicationStep] at performed
      split at performed
      · rename_i record remaining dispatching
        split at performed
        · cases performed
        · rename_i receipt redis succeeded
          cases performed
          exact
            .published dispatching succeeded
              (Or.inr (Or.inl dispatching))
      · cases performed
  | update now =>
      simp only [FlushEffect.toAction, publicationStep] at performed
      split at performed
      · rename_i record remaining evaluated
        cases performed
        exact .updated evaluated
      · cases performed

/-- A flush returns only with nothing left to dispatch. -/
theorem finish_eq_some
    {codec : PayloadCodec} {identityCheck : AuditIdentityCheck}
    {before after : PublicationState}
    (performed :
      publicationStep codec identityCheck before .finish = some after) :
    before.dispatcher = .dispatching [] ∧
      after = { before with dispatcher := .idle } := by
  simp only [publicationStep] at performed
  split at performed
  · rename_i drained
    cases performed
    exact ⟨drained, rfl⟩
  · cases performed

/-! ## Pending rows -/

/-- Marking a row removes exactly that row from the unpublished ones. -/
theorem unpublished_markPublished
    (outbox : Outbox) (id : Nat) (now : Int) :
    (outbox.markPublished id now).unpublished =
      outbox.unpublished.filter fun row => row.id ≠ id := by
  change
    (outbox.rows.map (OutboxRow.marked id now)).filter _ =
      (outbox.rows.filter _).filter _
  generalize outbox.rows = rows
  induction rows with
  | nil => rfl
  | cons row rest induction =>
      rcases published : row.publishedAt with _ | time
      · by_cases chosen : row.id = id
        · simp [OutboxRow.marked, published, chosen, induction]
        · simp [OutboxRow.marked, published, chosen, induction]
      · simp [OutboxRow.marked, published, induction]

theorem length_pendingRecords_le (outbox : Outbox) :
    outbox.pendingRecords.length ≤ outbox.unpublished.length := by
  unfold Outbox.pendingRecords
  rw [List.length_take, List.length_insertionSort, List.length_map]
  exact min_le_right _ _

/-- A selection within the cap holds every unpublished row. -/
theorem pendingRecords_eq_sorted
    {outbox : Outbox}
    (fits : outbox.pendingRecords.length ≤ maxPending) :
    outbox.pendingRecords =
      (outbox.unpublished.map OutboxRow.toOutboxMessage).insertionSort
        fun left right => left.id ≤ right.id := by
  unfold Outbox.pendingRecords at fits ⊢
  rw [List.length_take] at fits
  apply List.take_of_length_le
  omega

theorem mem_pendingRecords_of_fits
    {outbox : Outbox} {row : OutboxRow}
    (fits : outbox.pendingRecords.length ≤ maxPending)
    (member : row ∈ outbox.unpublished) :
    row.toOutboxMessage ∈ outbox.pendingRecords := by
  rw [pendingRecords_eq_sorted fits, List.mem_insertionSort]
  exact List.mem_map_of_mem member

theorem append_unpublished_length
    {codec : PayloadCodec} {identityCheck : AuditIdentityCheck}
    {database after : Database} {event : ClosedBarEvent} {publish : Bool}
    {columns : String} {outboxId : Nat}
    (committed :
      append codec identityCheck database event publish columns outboxId =
        some after) :
    after.outbox.unpublished.length ≤
      database.outbox.unpublished.length + 1 := by
  rcases append_outbox committed with same | ⟨_, rows⟩
  · rw [same]
    exact Nat.le_succ _
  · simp [Outbox.unpublished, rows]

/-- The flush in progress still holds every unpublished row. -/
def Covers (publication : PublicationState) : Prop :=
  publication.dispatcher.unlocked = true ∨
    ∀ row ∈ publication.database.outbox.unpublished,
      row.toOutboxMessage ∈ publication.dispatcher.records

/-- The refusal that a flush of too many rows would raise. -/
def pendingCapExceeded : EpochError :=
  ⟨"NEW_EPOCH_PENDING_CAP_EXCEEDED"⟩

theorem publicationLua_error_ne
    {redis : RedisState} {serverId : StreamId}
    {messageId digest encoded : String} {error : EpochError}
    (refusal :
      publicationLua redis serverId messageId digest encoded =
        .error error) :
    error ≠ pendingCapExceeded := by
  rintro rfl
  unfold publicationLua at refusal
  split at refusal
  · split_ifs at refusal
    · simp [pendingCapExceeded] at refusal
    · split at refusal
      · split_ifs at refusal
        simp [pendingCapExceeded] at refusal
      · simp [pendingCapExceeded] at refusal
  · split at refusal <;> simp [pendingCapExceeded] at refusal

/-- No record is refused with the reason of the cap. -/
theorem publishRecord_error_ne
    {codec : PayloadCodec} {redis : RedisState} {serverId : StreamId}
    {record : OutboxMessage} {error : EpochError}
    (refusal : publishRecord codec redis serverId record = .error error) :
    error ≠ pendingCapExceeded := by
  simp only [publishRecord, checkRecord, bind_eq_error_iff,
    refuseIf_eq_error_iff] at refusal
  rcases refusal with
    (⟨_, rfl⟩ | ⟨_, _, _, rfl⟩) | ⟨_, _, refusal⟩
  · simp [pendingCapExceeded]
  · simp [pendingCapExceeded]
  · exact publicationLua_error_ne refusal

/-- A flush of at most `MAX_PENDING` rows never meets the cap. -/
theorem FlushMove.pending
    {codec : PayloadCodec} {before after : PublicationState}
    (move : FlushMove codec before after)
    (bounded :
      before.database.outbox.unpublished.length ≤ maxPending)
    (covers : Covers before) :
    after.database.outbox.unpublished.length ≤ maxPending ∧
      Covers after ∧ after.dispatcher ≠ .failed pendingCapExceeded := by
  cases move with
  | overfull overfull =>
      have short := length_pendingRecords_le before.database.outbox
      omega
  | selected fits =>
      refine ⟨bounded, Or.inr ?_, ?_⟩
      · intro row member
        exact mem_pendingRecords_of_fits fits member
      · intro impossible
        cases impossible
  | refused refusal =>
      refine ⟨bounded, Or.inl rfl, ?_⟩
      intro equal
      cases equal
      exact publishRecord_error_ne refusal rfl
  | @published record remaining _ _ _ _ dispatching succeeded outcome =>
      have held :
          ∀ row ∈ before.database.outbox.unpublished,
            row.toOutboxMessage ∈ record :: remaining := by
        simpa [Covers, dispatching, Dispatcher.unlocked, Dispatcher.records]
          using covers
      rcases outcome with rfl | rfl | rfl
      · exact ⟨bounded, Or.inr held, by simp⟩
      · exact ⟨bounded, Or.inr held, by simp⟩
      · exact ⟨bounded, Or.inl rfl, by simp [pendingCapExceeded]⟩
  | @updated record remaining now evaluated =>
      have held :
          ∀ row ∈ before.database.outbox.unpublished,
            row.toOutboxMessage ∈ record :: remaining := by
        simpa [Covers, evaluated, Dispatcher.unlocked, Dispatcher.records]
          using covers
      refine ⟨?_, Or.inr ?_, ?_⟩
      · dsimp only
        rw [unpublished_markPublished]
        exact (List.length_filter_le _ _).trans bounded
      · intro row member
        dsimp only at member
        rw [unpublished_markPublished, List.mem_filter,
          decide_eq_true_eq] at member
        rcases List.mem_cons.1 (held row member.1) with isRecord | inRest
        · exact absurd (congrArg OutboxMessage.id isRecord) member.2
        · exact inRest
      · intro impossible
        cases impossible

/-! ## Bars still to be appended -/

/-- The bars a recovery up to `endExclusive` may still append. -/
def remainingBars (endExclusive : Int) (next : String → Int) : Int :=
  (symbols.map fun symbol => (endExclusive - next symbol) / minute).sum

theorem remainingBars_nonneg
    {endExclusive : Int} {next : String → Int}
    (within : ∀ symbol ∈ symbols, next symbol ≤ endExclusive) :
    0 ≤ remainingBars endExclusive next := by
  apply List.sum_nonneg
  intro bars member
  rcases List.mem_map.1 member with ⟨symbol, symbolMember, rfl⟩
  exact
    Int.ediv_nonneg (sub_nonneg.2 (within symbol symbolMember)) (by decide)

/-- An appended bar is one bar less to append. -/
theorem remainingBars_append
    {endExclusive : Int} {next : String → Int} {symbol : String}
    (member : symbol ∈ symbols) :
    remainingBars endExclusive
        (Function.update next symbol (next symbol + minute)) =
      remainingBars endExclusive next - 1 := by
  unfold remainingBars
  rw [← List.sum_map_erase _ member, ← List.sum_map_erase _ member]
  have others :
      (symbols.erase symbol).map
          (fun other =>
            (endExclusive -
                Function.update next symbol (next symbol + minute) other) /
              minute) =
        (symbols.erase symbol).map fun other =>
          (endExclusive - next other) / minute := by
    apply List.map_congr_left
    intro other otherMember
    have different : other ≠ symbol :=
      (symbols_nodup.mem_erase_iff.1 otherMember).1
    rw [Function.update_of_ne different]
  have own :
      (endExclusive - (next symbol + minute)) / minute =
        (endExclusive - next symbol) / minute - 1 := by
    simp only [minute]
    omega
  rw [others, Function.update_self, own]
  ring

/-- A plan fits the cap and starts no symbol beyond its end. -/
theorem planRound_eq_ok
    {model : BarModel} {audit : List AuditRow} {target endExclusive : Int}
    {next : String → Int}
    (planned : planRound model audit target = .ok (endExclusive, next)) :
    ∃ values,
      anchors model audit = .ok values ∧ next = watermarkAt values ∧
        (∀ symbol ∈ symbols,
          next symbol ≤ endExclusive ∧
            minute ∣ endExclusive - next symbol) ∧
        remainingBars endExclusive next ≤ maxPending := by
  simp only [planRound, bind_eq_ok_iff, refuseIf_eq_ok_iff, exists_const,
    pure_eq_ok_iff, Prod.mk.injEq] at planned
  rcases planned with
    ⟨values, read, _, _, required, counted, fits, rfl, rfl⟩
  rcases (requiredBars_eq_ok_iff _ _ _).1 counted with ⟨five, ends, rfl⟩
  refine ⟨values, read, rfl, ?_, ?_⟩
  · intro symbol member
    exact ends _ ((mem_watermarks_iff five _).2 ⟨symbol, member, rfl⟩)
  · rw [missingBars_watermarks five] at fits
    exact not_lt.1 fits

/-! ## The invariant of the loop -/

/-- What each stage of the loop guarantees about pending rows. -/
def Bounded : ServingState → Prop
  | ⟨publication, .flushing _⟩ | ⟨publication, .flushingAgain⟩ =>
      publication.database.outbox.unpublished.length ≤ maxPending ∧
        Covers publication ∧
        publication.dispatcher ≠ .failed pendingCapExceeded
  | ⟨publication, .planning _⟩ =>
      publication.database.outbox.unpublished = [] ∧
        publication.dispatcher = .idle
  | ⟨publication, .recovering endExclusive next⟩ =>
      publication.dispatcher = .idle ∧
        (∀ symbol ∈ symbols,
          next symbol ≤ endExclusive ∧
            minute ∣ endExclusive - next symbol) ∧
        publication.database.outbox.unpublished.length +
            remainingBars endExclusive next ≤
          maxPending

/-- In every stage the pending rows fit the cap. -/
theorem Bounded.pending
    {state : ServingState} (bounded : Bounded state) :
    state.outbox.unpublished.length ≤ maxPending ∧
      state.publication.dispatcher ≠ .failed pendingCapExceeded := by
  rcases state with ⟨publication, stage⟩
  cases stage with
  | flushing target => exact ⟨bounded.1, bounded.2.2⟩
  | flushingAgain => exact ⟨bounded.1, bounded.2.2⟩
  | planning target =>
      rcases bounded with ⟨drained, idle⟩
      refine ⟨?_, by simp [idle]⟩
      simp [ServingState.outbox, drained]
  | recovering endExclusive next =>
      rcases bounded with ⟨idle, within, fits⟩
      refine ⟨?_, by simp [idle]⟩
      have room :=
        remainingBars_nonneg fun symbol member => (within symbol member).1
      simp only [ServingState.outbox]
      omega

/-- Every move keeps the bound. -/
theorem Bounded.move
    {codec : PayloadCodec} {identityCheck : AuditIdentityCheck}
    {model : BarModel} {state after : ServingState} {action : ServingAction}
    (bounded : Bounded state)
    (move : ServingMove codec identityCheck model state action after) :
    Bounded after := by
  cases move with
  | @flush before after stage effect flushes performed =>
      have flushMove := flushEffect_move performed
      cases stage with
      | flushing target => exact flushMove.pending bounded.1 bounded.2.1
      | flushingAgain => exact flushMove.pending bounded.1 bounded.2.1
      | planning target => cases flushes
      | recovering endExclusive next => cases flushes
  | @flushed before after stage nextStage now advanced performed =>
      rcases finish_eq_some performed with ⟨drained, rfl⟩
      cases stage with
      | flushing target =>
          cases advanced
          have covers : Covers before := bounded.2.1
          have empty : before.database.outbox.unpublished = [] := by
            simpa [Covers, drained, Dispatcher.unlocked, Dispatcher.records,
              List.eq_nil_iff_forall_not_mem] using covers
          exact ⟨empty, rfl⟩
      | flushingAgain =>
          cases advanced
          exact ⟨bounded.1, Or.inl rfl, by simp⟩
      | planning target => cases advanced
      | recovering endExclusive next => cases advanced
  | plan planned =>
      rcases planRound_eq_ok planned with ⟨values, _, _, within, fits⟩
      rcases bounded with ⟨empty, idle⟩
      refine ⟨idle, within, ?_⟩
      rw [empty]
      simpa using fits
  | @append before after endExclusive next messageId symbol rest columns
      outboxId member missing performed =>
      rcases bounded with ⟨idle, within, fits⟩
      rcases Option.map_eq_some_iff.1 performed with
        ⟨database, committed, rfl⟩
      refine ⟨idle, ?_, ?_⟩
      · intro other otherMember
        by_cases same : other = symbol
        · subst other
          have aligned := (within symbol member).2
          rw [Function.update_self]
          simp only [minute] at aligned ⊢
          omega
        · rw [Function.update_of_ne same]
          exact within other otherMember
      · have grown := append_unpublished_length committed
        rw [remainingBars_append member]
        dsimp only
        omega
  | recovered =>
      rcases bounded.pending with ⟨fits, _⟩
      rcases bounded with ⟨idle, _, _⟩
      refine ⟨fits, Or.inl ?_, ?_⟩
      · rw [idle]
        rfl
      · simp [idle]
  | restart =>
      exact ⟨bounded.pending.1, Or.inl rfl, by simp⟩

/--
The pending bound of the serving loop.  Start the service with at most
`MAX_PENDING` unpublished rows.  In every state of every run, with failures,
cancellations and crashes at any point, the unpublished rows fit the cap, no
flush has been refused for exceeding it, and a recovery that starts finds no
unpublished row.
-/
theorem servingLoop_pending_le
    (codec : PayloadCodec) (identityCheck : AuditIdentityCheck)
    (model : BarModel) (start state : ServingState) (target : Int)
    (starting : start.stage = .flushing target)
    (idle : start.publication.dispatcher = .idle)
    (pending : start.outbox.unpublished.length ≤ maxPending)
    (run : Reaches (servingStep codec identityCheck model) start state) :
    state.outbox.unpublished.length ≤ maxPending ∧
      state.publication.dispatcher ≠
        .failed ⟨"NEW_EPOCH_PENDING_CAP_EXCEEDED"⟩ ∧
      ∀ after,
        servingStep codec identityCheck model state .plan = some after →
          state.outbox.unpublished = [] := by
  have initially : Bounded start := by
    rcases start with ⟨publication, stage⟩
    subst starting
    exact ⟨pending, Or.inl (by rw [idle]; rfl), by rw [idle]; simp⟩
  have bounded : Bounded state :=
    run.invariant Bounded initially
      fun _ _ _ before taken => before.move (servingStep_move taken)
  refine ⟨bounded.pending.1, bounded.pending.2, ?_⟩
  intro after taken
  rcases state with ⟨publication, stage⟩
  cases stage with
  | planning planned => exact bounded.1
  | flushing other => cases taken
  | flushingAgain => cases taken
  | recovering endExclusive next => cases taken

/-! ## A run with a crash inside a recovery -/

/-- A check that accepts exactly the rows with this topic and this text. -/
def matchingIdentity (codec : PayloadCodec) : AuditIdentityCheck :=
  fun rows _ topic encoded =>
    rows.all fun row =>
      row.topic = topic ∧ codec.encoded row.payload = encoded

/-- The first minute of each symbol, audited and never published. -/
def firstMinuteAudit : List AuditRow :=
  symbols.map fun symbol =>
    { messageId := symbol
      topic := topic
      source := source
      payload := (closedBar symbol symbol 0 "").toPayload
      columns := "" }

/-- A service that starts on one minute of history and two empty keys. -/
def firstMinuteService : ServingState where
  publication :=
    { emptyPublication with
      database := ⟨firstMinuteAudit, ⟨[], List.nodup_nil⟩⟩ }
  stage := .flushing (3 * minute)

/--
A recovery that dies after three bars of two symbols, and the first flush of
the service that starts after it.
-/
def crashedRecovery : List ServingAction :=
  [.flush .select, .flushed 0, .plan,
    .append "BTC-1" "BTCUSDT" "" "" 1, .append "ETH-1" "ETHUSDT" "" "" 2,
    .append "BTC-2" "BTCUSDT" "" "" 4, .restart 300000,
    .flush .select, .flush (.evaluate ⟨1, 0⟩), .flush (.update 9),
    .flush (.evaluate ⟨2, 0⟩)]

/-- Two rows are pending while the first flush after the crash runs. -/
theorem servingLoop_pending_le_crashedRecovery :
    ∃ state,
      perform
          (servingStep memberCodec (matchingIdentity memberCodec)
            minuteBarModel)
          firstMinuteService crashedRecovery =
        some state ∧
      state.outbox.unpublished.length = 2 ∧
      state.outbox.unpublished.length ≤ maxPending := by
  have performed :
      perform
          (servingStep memberCodec (matchingIdentity memberCodec)
            minuteBarModel)
          firstMinuteService crashedRecovery =
        some _ := rfl
  refine ⟨_, performed, rfl, ?_⟩
  exact
    (servingLoop_pending_le memberCodec (matchingIdentity memberCodec)
      minuteBarModel firstMinuteService _ (3 * minute) rfl rfl
      (Nat.zero_le _) (reaches_of_perform performed)).1

end KairosDeploy.Epoch.ServingLoop
