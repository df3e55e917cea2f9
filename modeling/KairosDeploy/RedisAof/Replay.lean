import KairosDeploy.RedisAof.Inventory

/-!
# Replaying an inventoried file

Redis executes the commands of an append-only file in order: commands between
`MULTI` and `EXEC` are queued and executed together, an `XADD` needs an id
greater than the last one, and an `HSET` keys its field by its exact bytes.
The inventory has other rules: it rejects reused ids without comparing them,
and it folds the case of fields.

This module says exactly when the two agree.  The inventory's own dictionaries
are tracked along the file, the replay is reduced to the commands it settles,
and the two descriptions are compared.
-/

namespace KairosDeploy.RedisAof.Replay

open KairosDeploy.Library.Refusal
open KairosDeploy.Library.RedisStream
open KairosDeploy.RedisAof.RespReader
open KairosDeploy.RedisAof.Inventory

/-! ## The server -/

/-- The stream and the hash of one owner. -/
structure Keys where
  stream : Stream (List (Bytes × Bytes))
  hash : AList fun _ : Bytes => Bytes

/-- No entry and no field. -/
def Keys.empty : Keys :=
  ⟨Stream.empty, ∅⟩

/-- The single field of an entry. -/
def entryFields (data : Bytes) : List (Bytes × Bytes) :=
  [(asciiBytes "data", data)]

/-- A command outside of a transaction, or at its execution. -/
def apply (keys : Keys) : AofCommand → Option Keys
  | .xadd id data =>
      (parsedId id).bind fun sid =>
        (keys.stream.xadd sid (entryFields data)).map fun stream =>
          { keys with stream := stream }
  | .hset field value =>
      some { keys with hash := keys.hash.insert field value }
  | .unrelated => some keys
  | .multi | .exec => none

/-- A connection that replays a file, with the commands it has queued. -/
structure Session where
  keys : Keys
  queue : Option (List AofCommand)

/-- One command of the file. -/
def execute (session : Session) : AofCommand → Option Session
  | .multi =>
      match session.queue with
      | none => some { session with queue := some [] }
      | some _ => none
  | .exec =>
      match session.queue with
      | none => none
      | some queued =>
          (queued.foldlM apply session.keys).map fun keys => ⟨keys, none⟩
  | command =>
      match session.queue with
      | some queued =>
          some { session with queue := some (queued ++ [command]) }
      | none =>
          (apply session.keys command).map fun keys => ⟨keys, none⟩

/-- The replay of a file into an empty server. -/
def replay (commands : List AofCommand) : Option Session :=
  commands.foldlM execute ⟨.empty, none⟩

/-! ## Transactions settle -/

/-- The commands of a file that do something, in order. -/
def effects (commands : List AofCommand) : List AofCommand :=
  commands.filter fun command => command ≠ .multi ∧ command ≠ .exec

section Settled

variable {sha256 : Bytes → Bytes} {loads : Bytes → Option JsonValue}

theorem execute_effect
    {session : Session} {command : AofCommand}
    (effect : command ≠ .multi ∧ command ≠ .exec) :
    execute session command =
      match session.queue with
      | some queued =>
          some { session with queue := some (queued ++ [command]) }
      | none =>
          (apply session.keys command).map fun keys => ⟨keys, none⟩ := by
  cases command with
  | multi => exact absurd rfl effect.1
  | exec => exact absurd rfl effect.2
  | xadd id data => rfl
  | hset field value => rfl
  | unrelated => rfl

/-- What a command other than `MULTI` and `EXEC` leaves of the flag. -/
theorem inventoried_inMulti_eq
    {state after : InventoryState} {command : AofCommand}
    (step : Inventoried sha256 loads state command after)
    (effect : command ≠ .multi ∧ command ≠ .exec) :
    after.inMulti = state.inMulti := by
  cases step with
  | multi => exact absurd rfl effect.1
  | exec => exact absurd rfl effect.2
  | xadd => rfl
  | hset => rfl
  | unrelated => rfl

/--
The replay of balanced transactions is the execution, in file order, of what
is queued followed by what is still to come.
-/
theorem replay_settles
    {state final : InventoryState} {commands : List AofCommand}
    (run : InventoryRun sha256 loads state commands final)
    (closed : final.inMulti = false)
    {session : Session} (agree : session.queue.isSome = state.inMulti) :
    commands.foldlM execute session =
      ((session.queue.getD [] ++ effects commands).foldlM apply
        session.keys).map fun keys => ⟨keys, none⟩ := by
  induction run generalizing session with
  | nil =>
      rw [closed] at agree
      rcases session with ⟨keys, _ | queued⟩
      · rfl
      · cases agree
  | @cons first middle last command rest step run induction =>
      rw [List.foldlM_cons]
      by_cases effect : command ≠ .multi ∧ command ≠ .exec
      · have kept : effects (command :: rest) = command :: effects rest := by
          unfold effects
          exact List.filter_cons_of_pos (decide_eq_true effect)
        have flag := inventoried_inMulti_eq step effect
        rw [execute_effect effect, kept]
        rcases session with ⟨keys, _ | queued⟩
        · dsimp only [Option.getD_none, List.nil_append]
          rw [List.foldlM_cons]
          rcases applied : apply keys command with _ | next
          · rfl
          · exact induction closed (agree.trans flag.symm)
        · have tail :
              rest.foldlM execute ⟨keys, some (queued ++ [command])⟩ =
                ((queued ++ [command] ++ effects rest).foldlM apply
                  keys).map fun keys => ⟨keys, none⟩ :=
            induction closed (agree.trans flag.symm)
          rw [List.append_assoc] at tail
          exact tail
      · cases step with
        | multi wasClosed =>
            rw [wasClosed] at agree
            rcases session with ⟨keys, _ | queued⟩
            · exact induction closed rfl
            · cases agree
        | exec wasOpen balanced =>
            rw [wasOpen] at agree
            rcases session with ⟨keys, _ | queued⟩
            · cases agree
            · have dropped : effects (.exec :: rest) = effects rest := rfl
              rw [dropped, Option.getD_some, List.foldlM_append]
              rcases executed : queued.foldlM apply keys with _ | next
              · simp only [execute, executed]
                rfl
              · simp only [execute, executed]
                exact induction closed rfl
        | xadd => simp at effect
        | hset => simp at effect
        | unrelated => simp at effect

/-- The replay of an accepted file. -/
theorem replay_eq_effects
    {final : InventoryState} {commands : List AofCommand}
    (run : InventoryRun sha256 loads .initial commands final)
    (closed : final.inMulti = false) :
    replay commands =
      ((effects commands).foldlM apply .empty).map fun keys =>
        ⟨keys, none⟩ :=
  replay_settles run closed rfl

end Settled

/-! ## The keys after a replay -/

@[simp]
theorem xadds_append (left right : List AofCommand) :
    xadds (left ++ right) = xadds left ++ xadds right :=
  List.filterMap_append

@[simp]
theorem hsets_append (left right : List AofCommand) :
    hsets (left ++ right) = hsets left ++ hsets right :=
  List.filterMap_append

theorem xadds_append_of_eq_nil
    {commands : List AofCommand} {command : AofCommand}
    (noEntry : xadds [command] = []) :
    xadds (commands ++ [command]) = xadds commands := by
  rw [xadds_append, noEntry, List.append_nil]

theorem hsets_append_of_eq_nil
    {commands : List AofCommand} {command : AofCommand}
    (noReceipt : hsets [command] = []) :
    hsets (commands ++ [command]) = hsets commands := by
  rw [hsets_append, noReceipt, List.append_nil]

/-- The ids of the `XADD` commands, in order. -/
def xaddIds (commands : List AofCommand) : List StreamId :=
  (xadds commands).filterMap fun entry => parsedId entry.1

/-- The entries that the `XADD` commands write, in order. -/
def writtenEntries (commands : List AofCommand) :
    List (Entry (List (Bytes × Bytes))) :=
  (xadds commands).filterMap fun entry =>
    (parsedId entry.1).map fun id => ⟨id, entryFields entry.2⟩

/-- The hash after the `HSET` commands, in order. -/
def writtenHash
    (hash : AList fun _ : Bytes => Bytes) (commands : List AofCommand) :
    AList fun _ : Bytes => Bytes :=
  (hsets commands).foldl (fun hash entry => hash.insert entry.1 entry.2)
    hash

/-- A successful replay has written every entry and every field. -/
theorem effects_eq_some
    {commands : List AofCommand} {keys final : Keys}
    (applied : (effects commands).foldlM apply keys = some final) :
    final.stream.entries = keys.stream.entries ++ writtenEntries commands ∧
      final.hash = writtenHash keys.hash commands ∧
      (keys.stream.lastId :: xaddIds commands).IsChain (· < ·) := by
  induction commands generalizing keys with
  | nil =>
      cases applied
      exact ⟨(List.append_nil _).symm, rfl, .singleton _⟩
  | cons command rest induction =>
      cases command with
      | multi => exact induction applied
      | exec => exact induction applied
      | unrelated => exact induction applied
      | hset field value => exact induction applied
      | xadd id data =>
          have unfolded :
              (apply keys (.xadd id data)).bind
                  (fun next => (effects rest).foldlM apply next) =
                some final := applied
          rcases Option.bind_eq_some_iff.1 unfolded with
            ⟨next, written, tail⟩
          rcases Option.bind_eq_some_iff.1 written with
            ⟨sid, parsed, added⟩
          rcases Option.map_eq_some_iff.1 added with
            ⟨stream, appended, rfl⟩
          rcases (Stream.xadd_eq_some_iff _ _ _ _).1 appended with
            ⟨greater, entriesEq⟩
          rcases induction tail with ⟨entries, hash, chain⟩
          have lastEq : stream.lastId = sid :=
            Stream.lastId_of_entries_append entriesEq
          have idsEq :
              xaddIds (.xadd id data :: rest) = sid :: xaddIds rest := by
            simp [xaddIds, xadds, parsed]
          have writtenEq :
              writtenEntries (.xadd id data :: rest) =
                ⟨sid, entryFields data⟩ :: writtenEntries rest := by
            simp [writtenEntries, xadds, parsed]
          refine ⟨?_, hash, ?_⟩
          · rw [entries, entriesEq, writtenEq, List.append_assoc]
            rfl
          · rw [idsEq]
            rw [lastEq] at chain
            exact .cons_cons greater chain

/-- Increasing ids are all that a replay needs. -/
theorem effects_succeed
    {commands : List AofCommand} {keys : Keys}
    (valid : ∀ entry ∈ xadds commands, (parsedId entry.1).isSome = true)
    (chain : (keys.stream.lastId :: xaddIds commands).IsChain (· < ·)) :
    ∃ final, (effects commands).foldlM apply keys = some final := by
  induction commands generalizing keys with
  | nil => exact ⟨keys, rfl⟩
  | cons command rest induction =>
      cases command with
      | multi => exact induction valid chain
      | exec => exact induction valid chain
      | unrelated => exact induction valid chain
      | hset field value =>
          let next : Keys :=
            { keys with hash := keys.hash.insert field value }
          have nextChain :
              (next.stream.lastId :: xaddIds rest).IsChain (· < ·) := chain
          exact induction valid nextChain
      | xadd id data =>
          have parsedSome : (parsedId id).isSome = true :=
            valid (id, data) List.mem_cons_self
          rcases Option.isSome_iff_exists.1 parsedSome with ⟨sid, parsed⟩
          have idsEq :
              xaddIds (.xadd id data :: rest) = sid :: xaddIds rest := by
            simp [xaddIds, xadds, parsed]
          rw [idsEq, List.isChain_cons_cons] at chain
          rcases chain with ⟨greater, tailChain⟩
          have appendable :
              ∃ stream,
                keys.stream.xadd sid (entryFields data) = some stream := by
            unfold Stream.xadd
            rw [dif_pos greater]
            exact ⟨_, rfl⟩
          rcases appendable with ⟨stream, added⟩
          let next : Keys := { keys with stream := stream }
          have nextChain :
              (next.stream.lastId :: xaddIds rest).IsChain (· < ·) := by
            have entriesEq := ((Stream.xadd_eq_some_iff _ _ _ _).1 added).2
            have lastEq : stream.lastId = sid :=
              Stream.lastId_of_entries_append entriesEq
            rw [← lastEq] at tailChain
            exact tailChain
          rcases
              induction
                (fun entry member =>
                  valid entry (List.mem_cons_of_mem _ member))
                nextChain with
            ⟨final, tail⟩
          refine ⟨final, ?_⟩
          have written : apply keys (.xadd id data) = some next := by
            simp only [apply, parsed, Option.bind_some, added,
              Option.map_some, next]
          change
            (apply keys (.xadd id data)).bind
                (fun next => (effects rest).foldlM apply next) =
              some final
          rw [written]
          exact tail

theorem mem_writtenHash
    (hash : AList fun _ : Bytes => Bytes) (commands : List AofCommand)
    (field : Bytes) :
    field ∈ writtenHash hash commands ↔
      field ∈ hash ∨ ∃ entry ∈ hsets commands, entry.1 = field := by
  unfold writtenHash
  induction hsets commands generalizing hash with
  | nil => simp
  | cons head rest induction =>
      rw [List.foldl_cons, induction, AList.mem_insert]
      simp only [List.mem_cons, exists_eq_or_imp]
      constructor
      · rintro ((same | old) | later)
        · exact Or.inr (Or.inl same.symm)
        · exact Or.inl old
        · exact Or.inr (Or.inr later)
      · rintro (old | same | later)
        · exact Or.inl (Or.inr old)
        · exact Or.inl (Or.inl same.symm)
        · exact Or.inr later

theorem lookup_writtenHash
    {hash : AList fun _ : Bytes => Bytes} {commands : List AofCommand}
    {field value : Bytes}
    (found : (writtenHash hash commands).lookup field = some value) :
    (field, value) ∈ hsets commands ∨ hash.lookup field = some value := by
  unfold writtenHash at found
  generalize hsets commands = entries at found ⊢
  induction entries generalizing hash with
  | nil => exact Or.inr found
  | cons head rest induction =>
      rw [List.foldl_cons] at found
      rcases induction found with later | stored
      · exact Or.inl (List.mem_cons_of_mem _ later)
      · by_cases same : field = head.1
        · subst same
          rw [AList.lookup_insert, Option.some.injEq] at stored
          subst stored
          exact Or.inl List.mem_cons_self
        · rw [AList.lookup_insert_ne same] at stored
          exact Or.inr stored

/-! ## What the inventory tracks -/

/-- The dictionaries of the inventory in terms of the commands so far. -/
structure Tracks
    (sha256 : Bytes → Bytes) (loads : Bytes → Option JsonValue)
    (processed : List AofCommand) (state : InventoryState) : Prop where
  xaddCount : state.count "xadd" = (xadds processed).length
  valid :
    ∀ entry ∈ xadds processed, streamId entry.1 false = .ok entry.1
  written :
    ∀ pair ∈ state.xaddReceipts,
      ∃ entry ∈ xadds processed, pair = (sha256 entry.2, entry.1)
  received :
    ∀ entry ∈ hsets processed,
      ∃ pair,
        receiptOf loads entry.2 = .ok pair ∧
          state.receiptFields.lookup (lower entry.1) = some pair
  onStream :
    ∀ key pair,
      state.receiptFields.lookup key = some pair →
        pair ∈ state.xaddReceipts
  named :
    ∀ key ∈ state.receiptFields,
      ∃ entry ∈ hsets processed, lower entry.1 = key
  listed :
    state.publicationIds.Nodup ∧
      ∀ key, key ∈ state.publicationIds ↔ key ∈ state.receiptFields

section Tracking

variable {sha256 : Bytes → Bytes} {loads : Bytes → Option JsonValue}
    {processed : List AofCommand} {state after : InventoryState}

theorem Tracks.initial : Tracks sha256 loads [] .initial where
  xaddCount := rfl
  valid := by simp [xadds]
  written := by simp [InventoryState.initial]
  received := by simp [hsets]
  onStream := by simp [InventoryState.initial]
  named := by simp [InventoryState.initial]
  listed := by simp [InventoryState.initial]

theorem count_bump_of_ne
    {key other : String} (different : key ≠ other) :
    (state.bump key).count other = state.count other := by
  simp only [InventoryState.bump, InventoryState.count]
  rw [AList.lookup_insert_ne different.symm]

/-- A command that is neither `XADD` nor `HSET`. -/
theorem Tracks.frame
    (tracks : Tracks sha256 loads processed state) {command : AofCommand}
    (noEntry : xadds [command] = []) (noReceipt : hsets [command] = [])
    (counted : after.count "xadd" = state.count "xadd")
    (receipts : after.xaddReceipts = state.xaddReceipts)
    (fields : after.receiptFields = state.receiptFields)
    (ids : after.publicationIds = state.publicationIds) :
    Tracks sha256 loads (processed ++ [command]) after := by
  have sameEntries : xadds (processed ++ [command]) = xadds processed :=
    xadds_append_of_eq_nil noEntry
  have sameReceipts : hsets (processed ++ [command]) = hsets processed :=
    hsets_append_of_eq_nil noReceipt
  constructor
  case xaddCount => rw [counted, sameEntries, tracks.xaddCount]
  case valid => rw [sameEntries]; exact tracks.valid
  case written => rw [sameEntries, receipts]; exact tracks.written
  case received => rw [sameReceipts, fields]; exact tracks.received
  case onStream => rw [receipts, fields]; exact tracks.onStream
  case named => rw [sameReceipts, fields]; exact tracks.named
  case listed => rw [ids, fields]; exact tracks.listed

theorem Tracks.xadd
    (tracks : Tracks sha256 loads processed state) {id data : Bytes}
    (valid : streamId id false = .ok id) :
    Tracks sha256 loads (processed ++ [.xadd id data])
      (state.withEntry sha256 id data) := by
  have entries :
      xadds (processed ++ [.xadd id data]) =
        xadds processed ++ [(id, data)] := by
    rw [xadds_append]
    rfl
  have receipts :
      hsets (processed ++ [.xadd id data]) = hsets processed :=
    hsets_append_of_eq_nil rfl
  constructor
  case xaddCount =>
    rw [entries, List.length_append, ← tracks.xaddCount]
    simp [InventoryState.withEntry, InventoryState.bump,
      InventoryState.count]
  case valid =>
    intro entry member
    rw [entries, List.mem_append, List.mem_singleton] at member
    rcases member with old | rfl
    · exact tracks.valid entry old
    · exact valid
  case written =>
    intro pair member
    rw [entries]
    rcases List.mem_insert_iff.1 member with rfl | old
    · exact ⟨(id, data), by simp, rfl⟩
    · rcases tracks.written pair old with ⟨entry, entryMember, equal⟩
      exact ⟨entry, List.mem_append_left _ entryMember, equal⟩
  case received => rw [receipts]; exact tracks.received
  case onStream =>
    intro key pair found
    exact List.mem_insert_of_mem (tracks.onStream key pair found)
  case named => rw [receipts]; exact tracks.named
  case listed => exact tracks.listed

theorem Tracks.hset
    (tracks : Tracks sha256 loads processed state) {field value : Bytes}
    {pair : Bytes × Bytes}
    (receipt : receiptOf loads value = .ok pair)
    (onStream : pair ∈ state.xaddReceipts)
    (kept :
      state.receiptFields.lookup (lower field) = none ∨
        state.receiptFields.lookup (lower field) = some pair) :
    Tracks sha256 loads (processed ++ [.hset field value])
      (state.withReceipt field pair) := by
  have entries :
      xadds (processed ++ [.hset field value]) = xadds processed :=
    xadds_append_of_eq_nil rfl
  have receipts :
      hsets (processed ++ [.hset field value]) =
        hsets processed ++ [(field, value)] := by
    rw [hsets_append]
    rfl
  constructor
  case xaddCount =>
    rw [entries, ← tracks.xaddCount]
    exact count_bump_of_ne (by decide)
  case valid => rw [entries]; exact tracks.valid
  case written => rw [entries]; exact tracks.written
  case received =>
    intro entry member
    rw [receipts, List.mem_append, List.mem_singleton] at member
    change
      ∃ stored,
        receiptOf loads entry.2 = .ok stored ∧
          (state.receiptFields.insert (lower field) pair).lookup
              (lower entry.1) =
            some stored
    rcases member with old | rfl
    · rcases tracks.received entry old with ⟨stored, read, found⟩
      refine ⟨stored, read, ?_⟩
      by_cases same : lower entry.1 = lower field
      · rw [same, AList.lookup_insert]
        rw [same] at found
        rcases kept with missing | same
        · rw [found] at missing
          cases missing
        · rw [← found, ← same]
      · rw [AList.lookup_insert_ne same]
        exact found
    · exact ⟨pair, receipt, AList.lookup_insert _⟩
  case onStream =>
    intro key stored found
    change
      (state.receiptFields.insert (lower field) pair).lookup key =
        some stored at found
    by_cases same : key = lower field
    · rw [same, AList.lookup_insert, Option.some.injEq] at found
      subst stored
      exact onStream
    · rw [AList.lookup_insert_ne same] at found
      exact tracks.onStream key stored found
  case named =>
    intro key member
    rw [receipts]
    have present :
        key ∈ state.receiptFields.insert (lower field) pair := member
    rw [AList.mem_insert] at present
    rcases present with rfl | old
    · exact ⟨(field, value), by simp, rfl⟩
    · rcases tracks.named key old with ⟨entry, entryMember, equal⟩
      exact ⟨entry, List.mem_append_left _ entryMember, equal⟩
  case listed =>
    rcases tracks.listed with ⟨nodup, members⟩
    change
      (if state.receiptFields.lookup (lower field) = none then
          state.publicationIds ++ [lower field]
        else
          state.publicationIds).Nodup ∧
        ∀ key,
          key ∈
              (if state.receiptFields.lookup (lower field) = none then
                state.publicationIds ++ [lower field]
              else
                state.publicationIds) ↔
            key ∈ state.receiptFields.insert (lower field) pair
    split_ifs with missing
    · have absent : lower field ∉ state.publicationIds := by
        rw [members, ← AList.lookup_eq_none]
        exact missing
      refine ⟨?_, ?_⟩
      · rw [List.nodup_append]
        refine ⟨nodup, List.nodup_singleton _, ?_⟩
        rintro left leftMember right rightMember rfl
        rw [List.mem_singleton] at rightMember
        exact absent (rightMember ▸ leftMember)
      · intro key
        rw [List.mem_append, List.mem_singleton, members,
          AList.mem_insert]
        exact or_comm
    · refine ⟨nodup, ?_⟩
      intro key
      rw [members, AList.mem_insert]
      constructor
      · exact Or.inr
      · rintro (rfl | old)
        · by_contra absent
          exact missing (AList.lookup_eq_none.2 absent)
        · exact old

/-- Every accepted command keeps the correspondence. -/
theorem Tracks.step
    {command : AofCommand}
    (tracks : Tracks sha256 loads processed state)
    (step : Inventoried sha256 loads state command after) :
    Tracks sha256 loads (processed ++ [command]) after := by
  cases step with
  | multi closed =>
      exact
        tracks.frame rfl rfl (count_bump_of_ne (by decide)) rfl rfl rfl
  | exec opened balanced =>
      exact
        tracks.frame rfl rfl (count_bump_of_ne (by decide)) rfl rfl rfl
  | xadd valid fresh => exact tracks.xadd valid
  | hset opened hexField receipt inTransaction onStream kept =>
      exact tracks.hset receipt onStream kept
  | unrelated otherKey =>
      exact tracks.frame rfl rfl (count_bump_of_ne otherKey) rfl rfl rfl

end Tracking

/-! ## When inventory and replay agree -/

/-- The ids of the file strictly increase. -/
def IdsIncrease (commands : List AofCommand) : Prop :=
  (xaddIds commands).Pairwise (· < ·)

/-- No two fields of the file differ only in the case of letters. -/
def CaseDistinct (commands : List AofCommand) : Prop :=
  ∀ left ∈ hsets commands, ∀ right ∈ hsets commands,
    lower left.1 = lower right.1 → left.1 = right.1

/--
The stored receipt names an entry of the stream whose payload has the digest
of the receipt, written in lower case.
-/
def ReceiptMatches
    (sha256 : Bytes → Bytes) (loads : Bytes → Option JsonValue)
    (keys : Keys) (value : Bytes) : Prop :=
  ∃ digest id sid data,
    receiptOf loads value = .ok (digest, id) ∧
      parsedId id = some sid ∧
      ⟨sid, entryFields data⟩ ∈ keys.stream.entries ∧
      sha256 data = digest

/-- The replay succeeds and yields what the report says. -/
def ReplaysAs
    (sha256 : Bytes → Bytes) (loads : Bytes → Option JsonValue)
    (commands : List AofCommand) (report : InventoryReport) : Prop :=
  ∃ keys,
    replay commands = some ⟨keys, none⟩ ∧
      keys.stream.entries.length = report.xaddCount ∧
      keys.hash.entries.length = report.ledgerFields ∧
      ∀ field value,
        keys.hash.lookup field = some value →
          ReceiptMatches sha256 loads keys value

/-- The number of fields of the hash is the number of distinct fields. -/
theorem length_writtenHash (commands : List AofCommand) :
    (writtenHash ∅ commands).entries.length =
      ((hsets commands).map Prod.fst).toFinset.card := by
  have sameKeys :
      (writtenHash ∅ commands).keys.toFinset =
        ((hsets commands).map Prod.fst).toFinset := by
    ext field
    rw [List.mem_toFinset, ← AList.mem_keys, mem_writtenHash,
      List.mem_toFinset, List.mem_map]
    simp
  rw [← sameKeys,
    List.toFinset_card_of_nodup (writtenHash ∅ commands).keys_nodup]
  exact (List.length_map _).symm

section Agreement

variable {sha256 : Bytes → Bytes} {loads : Bytes → Option JsonValue}
    {commands : List AofCommand} {final : InventoryState}

/-- The inventory counts fields without their case. -/
theorem Tracks.length_publicationIds
    (tracks : Tracks sha256 loads commands final) :
    final.publicationIds.length =
      (((hsets commands).map Prod.fst).toFinset.image lower).card := by
  have sameIds :
      final.publicationIds.toFinset =
        ((hsets commands).map Prod.fst).toFinset.image lower := by
    ext key
    rw [List.mem_toFinset, tracks.listed.2, Finset.mem_image]
    constructor
    · intro member
      rcases tracks.named key member with ⟨entry, entryMember, equal⟩
      exact
        ⟨entry.1,
          List.mem_toFinset.2 (List.mem_map_of_mem entryMember), equal⟩
    · rintro ⟨field, member, rfl⟩
      rcases List.mem_map.1 (List.mem_toFinset.1 member) with
        ⟨entry, entryMember, rfl⟩
      rcases tracks.received entry entryMember with ⟨_, _, found⟩
      exact AList.lookup_isSome.1 (Option.isSome_iff_exists.2 ⟨_, found⟩)
  rw [← sameIds, List.toFinset_card_of_nodup tracks.listed.1]

theorem caseDistinct_iff_card :
    ((hsets commands).map Prod.fst).toFinset.card =
        (((hsets commands).map Prod.fst).toFinset.image lower).card ↔
      CaseDistinct commands := by
  rw [eq_comm, Finset.card_image_iff]
  constructor
  · intro injective left leftMember right rightMember equal
    apply injective _ _ equal
    · exact
        Finset.mem_coe.2
          (List.mem_toFinset.2 (List.mem_map_of_mem leftMember))
    · exact
        Finset.mem_coe.2
          (List.mem_toFinset.2 (List.mem_map_of_mem rightMember))
  · intro distinct left leftMember right rightMember equal
    rcases List.mem_map.1 (List.mem_toFinset.1 leftMember) with
      ⟨leftEntry, leftEntryMember, rfl⟩
    rcases List.mem_map.1 (List.mem_toFinset.1 rightMember) with
      ⟨rightEntry, rightEntryMember, rfl⟩
    exact distinct leftEntry leftEntryMember rightEntry rightEntryMember equal

/-- Valid ids are positive, so a chain of ids starts above `0-0`. -/
theorem Tracks.isChain_iff
    (tracks : Tracks sha256 loads commands final) :
    ((⟨0, 0⟩ : StreamId) :: xaddIds commands).IsChain (· < ·) ↔
      IdsIncrease commands := by
  rw [List.isChain_iff_pairwise, List.pairwise_cons]
  refine and_iff_right ?_
  intro id member
  rcases List.mem_filterMap.1 member with ⟨entry, entryMember, parsed⟩
  rcases (streamId_eq_ok (tracks.valid entry entryMember)).2 with
    ⟨sid, sameParsed, positive⟩
  rw [parsed, Option.some.injEq] at sameParsed
  subst sid
  exact positive rfl

theorem Tracks.parsed
    (tracks : Tracks sha256 loads commands final) :
    ∀ entry ∈ xadds commands, (parsedId entry.1).isSome = true := by
  intro entry member
  rcases (streamId_eq_ok (tracks.valid entry member)).2 with
    ⟨sid, parsed, _⟩
  rw [parsed]
  rfl

theorem Tracks.length_writtenEntries
    (tracks : Tracks sha256 loads commands final) :
    (writtenEntries commands).length = final.count "xadd" := by
  rw [tracks.xaddCount]
  unfold writtenEntries
  rw [List.filterMap_length_eq_length]
  intro entry member
  rw [Option.isSome_map]
  exact tracks.parsed entry member

/-- After a successful replay every field holds a matching receipt. -/
theorem Tracks.receiptMatches
    (tracks : Tracks sha256 loads commands final) {keys : Keys}
    (entries : keys.stream.entries = writtenEntries commands)
    (hash : keys.hash = writtenHash ∅ commands)
    {field value : Bytes}
    (found : keys.hash.lookup field = some value) :
    ReceiptMatches sha256 loads keys value := by
  rw [hash] at found
  rcases lookup_writtenHash found with written | impossible
  · rcases tracks.received (field, value) written with
      ⟨⟨digest, id⟩, read, stored⟩
    have onStream := tracks.onStream _ _ stored
    rcases tracks.written _ onStream with
      ⟨⟨entryId, data⟩, entryMember, equal⟩
    rw [Prod.mk.injEq] at equal
    rcases equal with ⟨rfl, rfl⟩
    rcases (streamId_eq_ok (tracks.valid _ entryMember)).2 with
      ⟨sid, parsed, _⟩
    refine ⟨_, _, sid, data, read, parsed, ?_, rfl⟩
    rw [entries]
    exact
      List.mem_filterMap.2 ⟨(id, data), entryMember, by simp [parsed]⟩
  · rw [AList.lookup_empty] at impossible
    cases impossible

end Agreement

/--
When the inventory describes the replay.  For every accepted file, Redis
replays its commands without an error and ends with the reported numbers of
entries and fields, each field holding a receipt of an entry, exactly when the
`XADD` ids of the file strictly increase and no two `HSET` fields differ only
in the case of letters.
-/
theorem inventory_replays_iff
    (sha256 : Bytes → Bytes) (loads : Bytes → Option JsonValue)
    (owner : String) (data : Bytes) (profile : String)
    (report : InventoryReport)
    (accepted :
      inventoryBytes sha256 loads owner data profile = .ok report) :
    ∃ commands,
      fileCommands owner data profile = some commands ∧
        (ReplaysAs sha256 loads commands report ↔
          IdsIncrease commands ∧ CaseDistinct commands) := by
  rcases inventoryBytes_eq_ok accepted with
    ⟨commands, count, final, reads, run, closed, rfl⟩
  refine ⟨commands, reads, ?_⟩
  have tracks : Tracks sha256 loads ([] ++ commands) final :=
    run.invariant (fun _ _ _ _ before step => before.step step) .initial
  rw [List.nil_append] at tracks
  have settled := replay_eq_effects run closed
  have fieldCounts :
      (writtenHash ∅ commands).entries.length =
          final.publicationIds.length ↔
        CaseDistinct commands := by
    rw [length_writtenHash, tracks.length_publicationIds]
    exact caseDistinct_iff_card
  constructor
  · rintro ⟨keys, replayed, _, fields, _⟩
    rw [settled, Option.map_eq_some_iff] at replayed
    rcases replayed with ⟨settledKeys, applied, equal⟩
    cases equal
    rcases effects_eq_some applied with ⟨_, hash, chain⟩
    rw [hash] at fields
    exact ⟨tracks.isChain_iff.1 chain, fieldCounts.1 fields⟩
  · rintro ⟨increase, distinct⟩
    have succeeded :
        ∃ keys, (effects commands).foldlM apply Keys.empty = some keys :=
      effects_succeed tracks.parsed (tracks.isChain_iff.2 increase)
    rcases succeeded with ⟨keys, applied⟩
    rcases effects_eq_some applied with ⟨entries, hash, _⟩
    have entriesEq : keys.stream.entries = writtenEntries commands :=
      entries
    refine ⟨keys, ?_, ?_, ?_, ?_⟩
    · rw [settled, applied]
      rfl
    · rw [entriesEq]
      exact tracks.length_writtenEntries
    · rw [hash]
      exact fieldCounts.2 distinct
    · intro field value found
      exact tracks.receiptMatches entriesEq hash found

/-! ## Three files -/

/-- The owner of the epoch. -/
def epochOwner : String := "69893dc7b7c647f49967387e7efca9fb"

/-- The digest of an empty JSON object. -/
def emptyObjectDigest : Bytes :=
  asciiBytes
    "44136fa355b3678a1146ad16f7e8649e94fb4fc21fe77e8310c060f61caaff8a"

/-- The field of a publication. -/
def publicationField : Bytes :=
  List.replicate 64 97

/-- The receipt of a publication of an empty object with id `5-0`. -/
def publicationReceipt : Bytes :=
  asciiBytes "[\"" ++ emptyObjectDigest ++ asciiBytes "\",\"5-0\"]"

/-- `json.loads` of the receipt. -/
def receiptLoads (value : Bytes) : Option JsonValue :=
  if value = publicationReceipt then
    some
      (.array
        [.text (emptyObjectDigest.map UInt8.toNat), .text [53, 45, 48]])
  else
    none

/-- `XADD` of an empty object with an id of one digit. -/
def xaddBytes (digit : String) : Bytes :=
  asciiBytes "*5\r\n$4\r\nXADD\r\n$27\r\nkairos.market.closed_bar.v1\r\n" ++
    asciiBytes ("$3\r\n" ++ digit ++ "-0\r\n$4\r\ndata\r\n") ++
    asciiBytes "$2\r\n\x7b\x7d\r\n"

/-- `HSET` of the receipt under a field. -/
def hsetBytes (field : Bytes) : Bytes :=
  asciiBytes "*4\r\n$4\r\nHSET\r\n$59\r\nkairos.runtime." ++
    asciiBytes (epochOwner ++ ".publication\r\n$64\r\n") ++
    field ++ asciiBytes "\r\n$74\r\n" ++ publicationReceipt ++
    asciiBytes "\r\n"

/-- One publication in one transaction. -/
def orderedFile : Bytes :=
  asciiBytes "*1\r\n$5\r\nMULTI\r\n" ++ xaddBytes "5" ++
    hsetBytes publicationField ++ asciiBytes "*1\r\n$4\r\nEXEC\r\n"

/-- An entry whose id is below the one before it. -/
def unorderedFile : Bytes :=
  xaddBytes "5" ++ xaddBytes "3"

/-- The same publication, with its field written in both cases. -/
def recasedFile : Bytes :=
  asciiBytes "*1\r\n$5\r\nMULTI\r\n" ++ xaddBytes "5" ++
    hsetBytes publicationField ++ hsetBytes (upper publicationField) ++
    asciiBytes "*1\r\n$4\r\nEXEC\r\n"

/-- `sha256` on the texts the inventory hashes in these files. -/
def fileSha256 (data : Bytes) : Bytes :=
  if data = asciiBytes "\x7b\x7d" then
    emptyObjectDigest
  else if data = asciiBytes "[]" then
    asciiBytes
      "4f53cda18c2baa0c0354bb5f9a3ecbe5ed12ab4d8e11ba873c2f11161202b945"
  else if data = asciiBytes "[\"" ++ publicationField ++ asciiBytes "\"]" then
    asciiBytes
      "5adb8c3d42601f14dc3c467830d23dcc75ffae17236d02c6bb26c6e31b1c3c8e"
  else if data = orderedFile then
    asciiBytes
      "2ceade71c9592e7a53fa8ccf5f66c994cd31ac38286dfa0f5527aa51f633400f"
  else if data = recasedFile then
    asciiBytes
      "242158f917197ac467903c3e8084572729c29385cee6a7155ceda5e1ea8bc7c1"
  else
    asciiBytes
      "dcde66b93cb30623f4d81a6b985554c58af34866681559c39861144d587240ef"

/-- The commands of the ordered file. -/
def orderedCommands : List AofCommand :=
  [.multi, .xadd (asciiBytes "5-0") (asciiBytes "\x7b\x7d"),
    .hset publicationField publicationReceipt, .exec]

/-- The report on the ordered file. -/
def orderedReport : InventoryReport where
  bytes := 336
  parsedSourceSha256 := fileSha256 orderedFile
  commandCount := 4
  dbs := []
  subcommandCounts := [("exec", 1), ("hset", 1), ("multi", 1), ("xadd", 1)]
  xaddCount := 1
  ledgerFields := 1
  receiptCount := 1
  publicationMessageIdsSha256 :=
    asciiBytes
      "5adb8c3d42601f14dc3c467830d23dcc75ffae17236d02c6bb26c6e31b1c3c8e"
  firstPublicationMessageId := some publicationField
  lastPublicationMessageId := some publicationField
  matchedReceiptCount := 1
  actorFormatValid := false
  transactionsBalanced := true

theorem orderedFile_accepted :
    inventoryBytes fileSha256 receiptLoads epochOwner orderedFile
        "standard" =
      .ok orderedReport := by
  decide +kernel

theorem orderedFile_read :
    fileCommands epochOwner orderedFile "standard" =
      some orderedCommands := by
  decide +kernel

/-- One publication in one transaction is replayed as it is reported. -/
theorem inventory_replays_iff_ordered :
    inventoryBytes fileSha256 receiptLoads epochOwner orderedFile
          "standard" =
        .ok orderedReport ∧
      fileCommands epochOwner orderedFile "standard" =
        some orderedCommands ∧
      ReplaysAs fileSha256 receiptLoads orderedCommands orderedReport := by
  rcases inventory_replays_iff _ _ _ _ _ _ orderedFile_accepted with
    ⟨commands, rereads, agree⟩
  rw [orderedFile_read] at rereads
  cases rereads
  refine
    ⟨orderedFile_accepted, orderedFile_read, agree.2 ⟨?_, ?_⟩⟩
  · unfold IdsIncrease
    decide
  · unfold CaseDistinct
    decide

/-- The commands of the unordered file. -/
def unorderedCommands : List AofCommand :=
  [.xadd (asciiBytes "5-0") (asciiBytes "\x7b\x7d"),
    .xadd (asciiBytes "3-0") (asciiBytes "\x7b\x7d")]

/-- The report on the unordered file. -/
def unorderedReport : InventoryReport where
  bytes := 150
  parsedSourceSha256 := fileSha256 unorderedFile
  commandCount := 2
  dbs := []
  subcommandCounts := [("xadd", 2)]
  xaddCount := 2
  ledgerFields := 0
  receiptCount := 0
  publicationMessageIdsSha256 := fileSha256 (asciiBytes "[]")
  firstPublicationMessageId := none
  lastPublicationMessageId := none
  matchedReceiptCount := 0
  actorFormatValid := false
  transactionsBalanced := true

/-- The commands of the recased file. -/
def recasedCommands : List AofCommand :=
  [.multi, .xadd (asciiBytes "5-0") (asciiBytes "\x7b\x7d"),
    .hset publicationField publicationReceipt,
    .hset (upper publicationField) publicationReceipt, .exec]

/-- The report on the recased file. -/
def recasedReport : InventoryReport :=
  { orderedReport with
    bytes := 568
    parsedSourceSha256 := fileSha256 recasedFile
    commandCount := 5
    subcommandCounts :=
      [("exec", 1), ("hset", 2), ("multi", 1), ("xadd", 1)]
    receiptCount := 2 }

set_option maxRecDepth 20000 in
/--
The inventory accepts a file that Redis does not replay, and a file that
Redis replays into two fields where the report has one.
-/
theorem inventory_accepts_unordered_and_recased :
    (inventoryBytes fileSha256 receiptLoads epochOwner unorderedFile
          "standard" =
        .ok unorderedReport ∧
      fileCommands epochOwner unorderedFile "standard" =
        some unorderedCommands ∧
      replay unorderedCommands = none ∧
      ¬ ReplaysAs fileSha256 receiptLoads unorderedCommands
        unorderedReport) ∧
      inventoryBytes fileSha256 receiptLoads epochOwner recasedFile
            "standard" =
          .ok recasedReport ∧
        fileCommands epochOwner recasedFile "standard" =
          some recasedCommands ∧
        recasedReport.ledgerFields = 1 ∧
        ((replay recasedCommands).map fun session =>
          session.keys.hash.entries.length) = some 2 ∧
        ¬ ReplaysAs fileSha256 receiptLoads recasedCommands
          recasedReport := by
  have refused : replay unorderedCommands = none := rfl
  have counted :
      ((replay recasedCommands).map fun session =>
        session.keys.hash.entries.length) = some 2 := by
    decide
  refine
    ⟨⟨by decide, by decide, refused, ?_⟩,
      by decide, by decide, rfl, counted, ?_⟩
  · rintro ⟨keys, replayed, _⟩
    rw [refused] at replayed
    cases replayed
  · rintro ⟨keys, replayed, _, fields, _⟩
    rw [replayed, Option.map_some, Option.some.injEq, fields] at counted
    exact absurd counted (by decide)

end KairosDeploy.RedisAof.Replay
