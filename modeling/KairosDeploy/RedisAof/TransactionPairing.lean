import KairosDeploy.RedisAof.Replay

/-!
# Pairing entries and receipts inside transactions

The publication script writes an entry and its receipt in one transaction.
The inventory remembers the entries of the open transaction and refuses a
receipt that names none of them.  At `EXEC` it compares two booleans only:
whether the transaction had an `XADD`, and whether it had an `HSET`.

A receipt is therefore always inside a transaction and after its entry.  An
entry is sure to have a receipt only while it is the only entry of its
transaction: this module proves exactly when the pairing holds.
-/

namespace KairosDeploy.RedisAof.TransactionPairing

open KairosDeploy.Library.Refusal
open KairosDeploy.RedisAof.RespReader
open KairosDeploy.RedisAof.Inventory
open KairosDeploy.RedisAof.Replay

/-! ## Transactions of a file -/

/-- The closed transactions of a file, and the commands of the open one. -/
structure Transactions where
  closed : List (List AofCommand)
  current : Option (List AofCommand)

/-- The transactions after one more command. -/
def Transactions.next (transactions : Transactions) :
    AofCommand → Transactions
  | .multi => { transactions with current := some [] }
  | .exec =>
      match transactions.current with
      | none => transactions
      | some block => ⟨transactions.closed ++ [block], none⟩
  | command =>
      { transactions with
        current := transactions.current.map fun block =>
          block ++ [command] }

/-- The transactions of a sequence of commands. -/
def transactions (commands : List AofCommand) : Transactions :=
  commands.foldl Transactions.next ⟨[], none⟩

/-- The blocks between a `MULTI` and its `EXEC`, in order. -/
def blocks (commands : List AofCommand) : List (List AofCommand) :=
  (transactions commands).closed

/-- The digest and the id of an entry, as a receipt names them. -/
def entryPair (sha256 : Bytes → Bytes) (entry : Bytes × Bytes) :
    Bytes × Bytes :=
  (sha256 entry.2, entry.1)

/-- The different receipts of a sequence of commands. -/
def receipts
    (loads : Bytes → Option JsonValue) (commands : List AofCommand) :
    List (Bytes × Bytes) :=
  ((hsets commands).filterMap fun entry =>
    (receiptOf loads entry.2).toOption).dedup

/-- Every receipt of a block comes after the entry that it names. -/
def ReceiptsFollow
    (sha256 : Bytes → Bytes) (loads : Bytes → Option JsonValue)
    (block : List AofCommand) : Prop :=
  ∀ earlier field value rest,
    block = earlier ++ .hset field value :: rest →
      ∃ entry ∈ xadds earlier,
        receiptOf loads value = .ok (entryPair sha256 entry)

/-- Every entry of a block has its receipt in the block. -/
def EntriesReceipted
    (sha256 : Bytes → Bytes) (loads : Bytes → Option JsonValue)
    (block : List AofCommand) : Prop :=
  ∀ entry ∈ xadds block,
    ∃ receipt ∈ hsets block,
      receiptOf loads receipt.2 = .ok (entryPair sha256 entry)

/-- Entries and receipts are paired inside the transactions of a file. -/
structure Paired
    (sha256 : Bytes → Bytes) (loads : Bytes → Option JsonValue)
    (commands : List AofCommand) : Prop where
  receipted :
    ∀ block ∈ blocks commands, EntriesReceipted sha256 loads block
  inside : hsets commands = (blocks commands).flatMap hsets
  follow : ∀ block ∈ blocks commands, ReceiptsFollow sha256 loads block
  counted :
    ((blocks commands).flatMap xadds).length =
      (receipts loads commands).length
  ledgered :
    ∀ block ∈ blocks commands, ∀ entry ∈ xadds block,
      ∃ field value,
        (writtenHash ∅ commands).lookup field = some value ∧
          receiptOf loads value = .ok (entryPair sha256 entry)

/--
Every transaction with several entries has as many different receipts as
entries.
-/
def SeveralReceipted
    (loads : Bytes → Option JsonValue) (commands : List AofCommand) :
    Prop :=
  ∀ block ∈ blocks commands,
    2 ≤ (xadds block).length →
      (xadds block).length ≤ (receipts loads block).length

/-! ## One transaction -/

section Block

variable {sha256 : Bytes → Bytes} {loads : Bytes → Option JsonValue}
    {block : List AofCommand}

theorem mem_receipts_iff
    {commands : List AofCommand} {pair : Bytes × Bytes} :
    pair ∈ receipts loads commands ↔
      ∃ receipt ∈ hsets commands, receiptOf loads receipt.2 = .ok pair := by
  have toOption_iff :
      ∀ result : Except AofError (Bytes × Bytes),
        result.toOption = some pair ↔ result = .ok pair := by
    intro result
    cases result with
    | error error => simp [Except.toOption]
    | ok value => simp [Except.toOption]
  simp only [receipts, List.mem_dedup, List.mem_filterMap, toOption_iff]

theorem nodup_receipts (commands : List AofCommand) :
    (receipts loads commands).Nodup :=
  List.nodup_dedup _

theorem mem_hsets_iff {commands : List AofCommand} {field value : Bytes} :
    (field, value) ∈ hsets commands ↔ .hset field value ∈ commands := by
  simp only [hsets, List.mem_filterMap]
  constructor
  · rintro ⟨command, member, read⟩
    cases command with
    | hset otherField otherValue =>
        cases read
        exact member
    | _ => cases read
  · intro member
    exact ⟨_, member, rfl⟩

theorem receiptsFollow_nil : ReceiptsFollow sha256 loads [] := by
  intro earlier field value rest split
  simp at split

/-- A longer block needs an argument for its last command only. -/
theorem ReceiptsFollow.append
    {command : AofCommand}
    (follow : ReceiptsFollow sha256 loads block)
    (last :
      ∀ field value,
        command = .hset field value →
          ∃ entry ∈ xadds block,
            receiptOf loads value = .ok (entryPair sha256 entry)) :
    ReceiptsFollow sha256 loads (block ++ [command]) := by
  intro earlier field value rest split
  rcases List.eq_nil_or_concat rest with rfl | ⟨front, final, rfl⟩
  · rcases List.append_inj' split rfl with ⟨rfl, same⟩
    cases same
    exact last field value rfl
  · rw [List.concat_eq_append, ← List.cons_append,
      ← List.append_assoc] at split
    rcases List.append_inj' split rfl with ⟨shorter, _⟩
    exact follow earlier field value front shorter

/-- A receipt of a block names one of its entries. -/
theorem ReceiptsFollow.receipts_subset
    (follow : ReceiptsFollow sha256 loads block) :
    receipts loads block ⊆ (xadds block).map (entryPair sha256) := by
  intro pair member
  rcases mem_receipts_iff.1 member with ⟨⟨field, value⟩, inBlock, read⟩
  rcases List.append_of_mem (mem_hsets_iff.1 inBlock) with
    ⟨earlier, rest, split⟩
  rcases follow earlier field value rest split with
    ⟨entry, entryMember, named⟩
  rw [read, Except.ok.injEq] at named
  rw [named, List.mem_map]
  refine ⟨entry, ?_, rfl⟩
  rw [split, xadds_append]
  exact List.mem_append_left _ entryMember

/-- A block with a receipt has a receipt that can be read. -/
theorem ReceiptsFollow.receipts_ne_nil
    (follow : ReceiptsFollow sha256 loads block)
    (some_ : hsets block ≠ []) : receipts loads block ≠ [] := by
  rcases List.exists_mem_of_ne_nil _ some_ with ⟨⟨field, value⟩, member⟩
  rcases List.append_of_mem (mem_hsets_iff.1 member) with
    ⟨earlier, rest, split⟩
  rcases follow earlier field value rest split with ⟨entry, _, read⟩
  exact List.ne_nil_of_mem (mem_receipts_iff.2 ⟨_, member, read⟩)

/-- Distinct ids make distinct pairs. -/
theorem nodup_entryPairs
    {entries : List (Bytes × Bytes)}
    (distinct : (entries.map Prod.fst).Nodup) :
    (entries.map (entryPair sha256)).Nodup := by
  refine List.Nodup.of_map Prod.snd ?_
  rw [List.map_map]
  exact distinct

/-- Receipts name all entries exactly when there are enough of them. -/
theorem entriesReceipted_iff
    (follow : ReceiptsFollow sha256 loads block)
    (distinct : ((xadds block).map Prod.fst).Nodup) :
    EntriesReceipted sha256 loads block ↔
      (xadds block).length ≤ (receipts loads block).length := by
  have pairsNodup : ((xadds block).map (entryPair sha256)).Nodup :=
    nodup_entryPairs distinct
  constructor
  · intro receipted
    have covered :
        (xadds block).map (entryPair sha256) ⊆ receipts loads block := by
      intro pair member
      rcases List.mem_map.1 member with ⟨entry, entryMember, rfl⟩
      exact mem_receipts_iff.2 (receipted entry entryMember)
    have shorter := (List.subperm_of_subset pairsNodup covered).length_le
    rw [List.length_map] at shorter
    exact shorter
  · intro enough entry member
    have included :
        (receipts loads block).Subperm
          ((xadds block).map (entryPair sha256)) :=
      List.subperm_of_subset (nodup_receipts _) follow.receipts_subset
    have same :
        (receipts loads block).Perm
          ((xadds block).map (entryPair sha256)) := by
      refine included.perm_of_length_le ?_
      rw [List.length_map]
      exact enough
    exact
      mem_receipts_iff.1
        (same.symm.subset (List.mem_map_of_mem member))

/-- A single entry has its receipt, if entries and receipts come together. -/
theorem enough_of_several
    (follow : ReceiptsFollow sha256 loads block)
    (together : hsets block = [] ↔ xadds block = [])
    (several :
      2 ≤ (xadds block).length →
        (xadds block).length ≤ (receipts loads block).length) :
    (xadds block).length ≤ (receipts loads block).length := by
  by_cases two : 2 ≤ (xadds block).length
  · exact several two
  · by_cases none_ : xadds block = []
    · rw [none_]
      exact Nat.zero_le _
    · have present : receipts loads block ≠ [] :=
        follow.receipts_ne_nil fun empty => none_ (together.1 empty)
      have positive := List.length_pos_iff.2 present
      omega

end Block

/-! ## What the inventory remembers of transactions -/

/-- The open transaction, as the local variables of the inventory see it. -/
structure OpenBlock
    (sha256 : Bytes → Bytes) (loads : Bytes → Option JsonValue)
    (block : List AofCommand) (state : InventoryState) : Prop where
  follow : ReceiptsFollow sha256 loads block
  streams :
    ∀ pair ∈ state.transactionStreams,
      ∃ entry ∈ xadds block, pair = entryPair sha256 entry
  hasXadd : state.transactionHasXadd = true ↔ xadds block ≠ []
  hasHset : state.transactionHasHset = true ↔ hsets block ≠ []

/-- A closed transaction that the inventory has accepted. -/
structure ClosedBlock
    (sha256 : Bytes → Bytes) (loads : Bytes → Option JsonValue)
    (block : List AofCommand) : Prop where
  follow : ReceiptsFollow sha256 loads block
  together : hsets block = [] ↔ xadds block = []

/-- The transactions so far in terms of the state of the inventory. -/
structure Brackets
    (sha256 : Bytes → Bytes) (loads : Bytes → Option JsonValue)
    (processed : List AofCommand) (state : InventoryState) : Prop where
  closedBlocks :
    ∀ block ∈ (transactions processed).closed,
      ClosedBlock sha256 loads block
  opened : state.inMulti = (transactions processed).current.isSome
  openBlock :
    ∀ block,
      (transactions processed).current = some block →
        OpenBlock sha256 loads block state
  inside :
    hsets processed =
      (transactions processed).closed.flatMap hsets ++
        hsets ((transactions processed).current.getD [])
  listed :
    ((transactions processed).closed.flatMap xadds ++
        xadds ((transactions processed).current.getD [])).Sublist
      (xadds processed)
  distinct : ((xadds processed).map Prod.fst).Nodup
  known : ∀ entry ∈ xadds processed, entry.1 ∈ state.streamReceipts

section Steps

variable {sha256 : Bytes → Bytes} {loads : Bytes → Option JsonValue}
    {block processed : List AofCommand} {state after : InventoryState}

theorem OpenBlock.opened
    (noStreams : state.transactionStreams = [])
    (noXadd : state.transactionHasXadd = false)
    (noHset : state.transactionHasHset = false) :
    OpenBlock sha256 loads [] state where
  follow := receiptsFollow_nil
  streams := by simp [noStreams]
  hasXadd := by simp [noXadd, xadds]
  hasHset := by simp [noHset, hsets]

theorem OpenBlock.xadd
    (before : OpenBlock sha256 loads block state)
    (inMulti : state.inMulti = true) (id data : Bytes) :
    OpenBlock sha256 loads (block ++ [.xadd id data])
      (state.withEntry sha256 id data) := by
  have entries :
      xadds (block ++ [.xadd id data]) = xadds block ++ [(id, data)] := by
    rw [xadds_append]
    rfl
  have fields : hsets (block ++ [.xadd id data]) = hsets block :=
    hsets_append_of_eq_nil rfl
  constructor
  case follow =>
    exact before.follow.append fun field value other => by cases other
  case streams =>
    intro pair member
    simp only [InventoryState.withEntry, InventoryState.bump, inMulti,
      if_true, List.mem_insert_iff] at member
    rw [entries]
    rcases member with rfl | old
    · exact ⟨(id, data), by simp, rfl⟩
    · rcases before.streams pair old with ⟨entry, entryMember, equal⟩
      exact ⟨entry, List.mem_append_left _ entryMember, equal⟩
  case hasXadd =>
    simp [entries, InventoryState.withEntry, InventoryState.bump, inMulti]
  case hasHset =>
    rw [fields]
    exact before.hasHset

theorem OpenBlock.hset
    (before : OpenBlock sha256 loads block state)
    {field value : Bytes} {pair : Bytes × Bytes}
    (receipt : receiptOf loads value = .ok pair)
    (inTransaction : pair ∈ state.transactionStreams) :
    OpenBlock sha256 loads (block ++ [.hset field value])
      (state.withReceipt field pair) := by
  have entries :
      xadds (block ++ [.hset field value]) = xadds block :=
    xadds_append_of_eq_nil rfl
  have fields :
      hsets (block ++ [.hset field value]) =
        hsets block ++ [(field, value)] := by
    rw [hsets_append]
    rfl
  constructor
  case follow =>
    refine before.follow.append ?_
    intro otherField otherValue same
    cases same
    rcases before.streams pair inTransaction with ⟨entry, member, equal⟩
    exact ⟨entry, member, by rw [receipt, equal]⟩
  case streams =>
    rw [entries]
    exact before.streams
  case hasXadd =>
    rw [entries]
    exact before.hasXadd
  case hasHset =>
    simp [fields, InventoryState.withReceipt, InventoryState.bump]

/-- A command that is neither `XADD` nor `HSET` changes nothing. -/
theorem OpenBlock.unrelated
    (before : OpenBlock sha256 loads block state)
    (streams : after.transactionStreams = state.transactionStreams)
    (hasXadd : after.transactionHasXadd = state.transactionHasXadd)
    (hasHset : after.transactionHasHset = state.transactionHasHset) :
    OpenBlock sha256 loads (block ++ [.unrelated]) after := by
  have entries : xadds (block ++ [.unrelated]) = xadds block :=
    xadds_append_of_eq_nil rfl
  have fields : hsets (block ++ [.unrelated]) = hsets block :=
    hsets_append_of_eq_nil rfl
  constructor
  case follow =>
    exact before.follow.append fun field value other => by cases other
  case streams =>
    rw [entries, streams]
    exact before.streams
  case hasXadd =>
    rw [entries, hasXadd]
    exact before.hasXadd
  case hasHset =>
    rw [fields, hasHset]
    exact before.hasHset

/-- `EXEC` compares whether there were entries and whether receipts. -/
theorem OpenBlock.close
    (before : OpenBlock sha256 loads block state)
    (balanced : state.transactionHasHset = state.transactionHasXadd) :
    ClosedBlock sha256 loads block where
  follow := before.follow
  together := by
    have both : hsets block ≠ [] ↔ xadds block ≠ [] := by
      rw [← before.hasHset, ← before.hasXadd, balanced]
    exact not_iff_not.1 both

theorem Brackets.initial : Brackets sha256 loads [] .initial where
  closedBlocks := by simp [transactions]
  opened := rfl
  openBlock := by simp [transactions]
  inside := rfl
  listed := by simp [transactions, xadds]
  distinct := by simp [xadds]
  known := by simp [xadds]

theorem transactions_append
    (commands : List AofCommand) (command : AofCommand) :
    transactions (commands ++ [command]) =
      (transactions commands).next command := by
  simp [transactions]

/-- `MULTI` opens an empty block. -/
theorem Brackets.multi
    (before : Brackets sha256 loads processed state)
    (closed : state.inMulti = false)
    (inMulti : after.inMulti = true)
    (openBlock : OpenBlock sha256 loads [] after)
    (receipts : after.streamReceipts = state.streamReceipts) :
    Brackets sha256 loads (processed ++ [.multi]) after := by
  have entries : xadds (processed ++ [.multi]) = xadds processed :=
    xadds_append_of_eq_nil rfl
  have fields : hsets (processed ++ [.multi]) = hsets processed :=
    hsets_append_of_eq_nil rfl
  have idle : (transactions processed).current = none := by
    rw [← Option.isSome_eq_false_iff.trans Option.isNone_iff_eq_none,
      ← before.opened, closed]
  have insideBefore := before.inside
  have listedBefore := before.listed
  rw [idle] at insideBefore listedBefore
  constructor
  case distinct =>
    rw [entries]
    exact before.distinct
  case known =>
    rw [entries, receipts]
    exact before.known
  all_goals rw [transactions_append]
  case closedBlocks => exact before.closedBlocks
  case opened => exact inMulti
  case openBlock =>
    intro block same
    cases same
    exact openBlock
  case inside =>
    rw [fields]
    exact insideBefore
  case listed =>
    rw [entries]
    exact listedBefore

/-- `EXEC` closes the open block. -/
theorem Brackets.exec
    (before : Brackets sha256 loads processed state)
    (opened : state.inMulti = true)
    (balanced : state.transactionHasHset = state.transactionHasXadd)
    (inMulti : after.inMulti = false)
    (receipts : after.streamReceipts = state.streamReceipts) :
    Brackets sha256 loads (processed ++ [.exec]) after := by
  have entries : xadds (processed ++ [.exec]) = xadds processed :=
    xadds_append_of_eq_nil rfl
  have fields : hsets (processed ++ [.exec]) = hsets processed :=
    hsets_append_of_eq_nil rfl
  have busy := opened
  rw [before.opened, Option.isSome_iff_exists] at busy
  rcases busy with ⟨block, current⟩
  have closing :
      (transactions processed).next .exec =
        ⟨(transactions processed).closed ++ [block], none⟩ := by
    simp only [Transactions.next, current]
  have insideBefore := before.inside
  have listedBefore := before.listed
  rw [current, Option.getD_some] at insideBefore listedBefore
  constructor
  case distinct =>
    rw [entries]
    exact before.distinct
  case known =>
    rw [entries, receipts]
    exact before.known
  all_goals rw [transactions_append, closing]
  case closedBlocks =>
    intro other member
    rcases List.mem_append.1 member with old | new
    · exact before.closedBlocks other old
    · rw [List.mem_singleton.1 new]
      exact (before.openBlock block current).close balanced
  case opened => exact inMulti
  case openBlock =>
    intro other same
    cases same
  case inside =>
    rw [fields, insideBefore]
    simp [hsets]
  case listed =>
    rw [entries]
    simpa [xadds] using listedBefore

/-- Any other command extends the open block, if there is one. -/
theorem Brackets.extend
    (before : Brackets sha256 loads processed state)
    {command : AofCommand}
    (extends_ :
      (transactions processed).next command =
        { transactions processed with
          current := (transactions processed).current.map fun block =>
            block ++ [command] })
    (inMulti : after.inMulti = state.inMulti)
    (openBlock :
      ∀ block,
        state.inMulti = true →
          OpenBlock sha256 loads block state →
            OpenBlock sha256 loads (block ++ [command]) after)
    (outside : state.inMulti = false → hsets [command] = [])
    (distinct : ((xadds (processed ++ [command])).map Prod.fst).Nodup)
    (known :
      ∀ entry ∈ xadds (processed ++ [command]),
        entry.1 ∈ after.streamReceipts) :
    Brackets sha256 loads (processed ++ [command]) after := by
  have opened := before.opened
  have insideBefore := before.inside
  have listedBefore := before.listed
  have openBefore := before.openBlock
  rcases current : (transactions processed).current with _ | block
  · rw [current] at extends_ opened insideBefore listedBefore
    refine ⟨?_, ?_, ?_, ?_, ?_, distinct, known⟩
    all_goals rw [transactions_append, extends_]
    · exact before.closedBlocks
    · rw [inMulti, opened]
      rfl
    · intro block same
      cases same
    · rw [hsets_append, outside opened, List.append_nil]
      exact insideBefore
    · rw [xadds_append]
      exact listedBefore.trans (List.sublist_append_left _ _)
  · rw [current] at extends_ opened insideBefore listedBefore
    have openNow := openBlock block opened (openBefore block current)
    refine ⟨?_, ?_, ?_, ?_, ?_, distinct, known⟩
    all_goals rw [transactions_append, extends_]
    · exact before.closedBlocks
    · rw [inMulti, opened]
      rfl
    · intro other same
      cases same
      exact openNow
    · rw [hsets_append, insideBefore, List.append_assoc]
      simp
    · rw [xadds_append]
      have longer := listedBefore.append (List.Sublist.refl (xadds [command]))
      rw [List.append_assoc] at longer
      simpa using longer

/-- Every accepted command keeps the brackets. -/
theorem Brackets.step
    {command : AofCommand}
    (before : Brackets sha256 loads processed state)
    (step : Inventoried sha256 loads state command after) :
    Brackets sha256 loads (processed ++ [command]) after := by
  cases step with
  | multi closed =>
      exact before.multi closed rfl (.opened rfl rfl rfl) rfl
  | exec opened balanced => exact before.exec opened balanced rfl rfl
  | @xadd id data valid fresh =>
      have entries :
          xadds (processed ++ [.xadd id data]) =
            xadds processed ++ [(id, data)] := by
        rw [xadds_append]
        rfl
      refine
        before.extend rfl rfl
          (fun block inMulti openBlock => openBlock.xadd inMulti id data)
          (fun _ => rfl) ?_ ?_
      · rw [entries, List.map_append, List.map_singleton,
          List.nodup_append]
        refine ⟨before.distinct, List.nodup_singleton _, ?_⟩
        rintro old oldMember new newMember rfl
        rcases List.mem_map.1 oldMember with ⟨entry, member, same⟩
        rw [List.mem_singleton] at newMember
        have present := before.known entry member
        rw [same, newMember] at present
        exact AList.lookup_eq_none.1 fresh present
      · intro entry member
        rw [entries, List.mem_append, List.mem_singleton] at member
        change
          entry.1 ∈ state.streamReceipts.insert id (sha256 data)
        rw [AList.mem_insert]
        rcases member with old | rfl
        · exact Or.inr (before.known entry old)
        · exact Or.inl rfl
  | @hset field value pair opened hexField receipt inTransaction onStream
      kept =>
      have entries :
          xadds (processed ++ [.hset field value]) = xadds processed :=
        xadds_append_of_eq_nil rfl
      refine
        before.extend rfl rfl
          (fun block _ openBlock => openBlock.hset receipt inTransaction)
          (fun outside => ?_) ?_ ?_
      · rw [opened] at outside
        cases outside
      · rw [entries]
        exact before.distinct
      · rw [entries]
        exact before.known
  | unrelated otherKey =>
      have entries :
          xadds (processed ++ [.unrelated]) = xadds processed :=
        xadds_append_of_eq_nil rfl
      refine
        before.extend rfl rfl
          (fun block _ openBlock => openBlock.unrelated rfl rfl rfl)
          (fun _ => rfl) ?_ ?_
      · rw [entries]
        exact before.distinct
      · rw [entries]
        exact before.known

end Steps

/-! ## When entries and receipts are paired -/

section Pairing

variable {sha256 : Bytes → Bytes} {loads : Bytes → Option JsonValue}
    {commands : List AofCommand} {final : InventoryState}

/-- The ids of the entries of all transactions are distinct. -/
theorem Brackets.distinct_blocks
    (brackets : Brackets sha256 loads commands final) :
    (((blocks commands).flatMap xadds).map Prod.fst).Nodup := by
  have listed :
      ((blocks commands).flatMap xadds).Sublist (xadds commands) :=
    (List.sublist_append_left _ _).trans brackets.listed
  exact brackets.distinct.sublist (listed.map Prod.fst)

theorem sublist_flatMap_of_mem
    {block : List AofCommand} (member : block ∈ blocks commands) :
    (xadds block).Sublist ((blocks commands).flatMap xadds) := by
  rcases List.append_of_mem member with ⟨front, rest, split⟩
  rw [split, List.flatMap_append, List.flatMap_cons]
  exact
    (List.sublist_append_left _ _).trans (List.sublist_append_right _ _)

theorem Brackets.inside_blocks
    (brackets : Brackets sha256 loads commands final)
    (closed : final.inMulti = false) :
    hsets commands = (blocks commands).flatMap hsets := by
  have idle : (transactions commands).current = none := by
    rw [← Option.isSome_eq_false_iff.trans Option.isNone_iff_eq_none,
      ← brackets.opened, closed]
  have inside := brackets.inside
  rw [idle] at inside
  exact inside.trans (List.append_nil _)

/-- When all entries have receipts, there are as many of both. -/
theorem Brackets.counted_of_receipted
    (brackets : Brackets sha256 loads commands final)
    (closed : final.inMulti = false)
    (receipted :
      ∀ block ∈ blocks commands, EntriesReceipted sha256 loads block) :
    ((blocks commands).flatMap xadds).length =
      (receipts loads commands).length := by
  have pairsNodup :
      (((blocks commands).flatMap xadds).map (entryPair sha256)).Nodup :=
    nodup_entryPairs brackets.distinct_blocks
  have inside := brackets.inside_blocks closed
  have same :
      (receipts loads commands).Perm
        (((blocks commands).flatMap xadds).map (entryPair sha256)) := by
    refine (List.perm_ext_iff_of_nodup (nodup_receipts _) pairsNodup).2 ?_
    intro pair
    rw [mem_receipts_iff, inside]
    constructor
    · rintro ⟨receipt, member, read⟩
      rcases List.mem_flatMap.1 member with ⟨block, inBlocks, inBlock⟩
      have named :=
        (brackets.closedBlocks block inBlocks).follow.receipts_subset
          (mem_receipts_iff.2 ⟨receipt, inBlock, read⟩)
      rcases List.mem_map.1 named with ⟨entry, entryMember, rfl⟩
      exact
        List.mem_map_of_mem
          (List.mem_flatMap.2 ⟨block, inBlocks, entryMember⟩)
    · intro member
      rcases List.mem_map.1 member with ⟨entry, inAll, rfl⟩
      rcases List.mem_flatMap.1 inAll with ⟨block, inBlocks, inBlock⟩
      rcases receipted block inBlocks entry inBlock with
        ⟨receipt, receiptMember, read⟩
      exact
        ⟨receipt, List.mem_flatMap.2 ⟨block, inBlocks, receiptMember⟩,
          read⟩
  rw [same.length_eq, List.length_map]

/-- A receipt once written stays in the ledger. -/
theorem ledgered_of_hset
    (tracks : Tracks sha256 loads commands final)
    {field value : Bytes} {pair : Bytes × Bytes}
    (member : (field, value) ∈ hsets commands)
    (read : receiptOf loads value = .ok pair) :
    ∃ stored,
      (writtenHash ∅ commands).lookup field = some stored ∧
        receiptOf loads stored = .ok pair := by
  have present : field ∈ writtenHash ∅ commands :=
    (mem_writtenHash ∅ commands field).2 (Or.inr ⟨_, member, rfl⟩)
  rcases Option.isSome_iff_exists.1 (AList.lookup_isSome.2 present) with
    ⟨stored, found⟩
  refine ⟨stored, found, ?_⟩
  rcases lookup_writtenHash found with written | initially
  · rcases tracks.received _ member with ⟨first, firstRead, firstFound⟩
    rcases tracks.received _ written with ⟨last, lastRead, lastFound⟩
    rw [firstFound, Option.some.injEq] at lastFound
    rw [firstRead, Except.ok.injEq] at read
    rw [← read, lastFound]
    exact lastRead
  · simp at initially

/--
In an accepted file, entries and receipts are paired inside the transactions
exactly when every transaction with several entries has as many different
receipts as entries.
-/
theorem inventory_paired_iff
    (sha256 : Bytes → Bytes) (loads : Bytes → Option JsonValue)
    (owner : String) (data : Bytes) (profile : String)
    (report : InventoryReport)
    (accepted :
      inventoryBytes sha256 loads owner data profile = .ok report) :
    ∃ commands,
      fileCommands owner data profile = some commands ∧
        (Paired sha256 loads commands ↔ SeveralReceipted loads commands) := by
  rcases inventoryBytes_eq_ok accepted with
    ⟨commands, count, final, reads, run, closed, rfl⟩
  refine ⟨commands, reads, ?_⟩
  have brackets : Brackets sha256 loads ([] ++ commands) final :=
    run.invariant (fun _ _ _ _ before step => before.step step) .initial
  have tracks : Tracks sha256 loads ([] ++ commands) final :=
    run.invariant (fun _ _ _ _ before step => before.step step) .initial
  rw [List.nil_append] at brackets tracks
  have receipted_iff :
      ∀ block ∈ blocks commands,
        (EntriesReceipted sha256 loads block ↔
          (xadds block).length ≤ (receipts loads block).length) := by
    intro block member
    refine
      entriesReceipted_iff (brackets.closedBlocks block member).follow ?_
    exact
      brackets.distinct_blocks.sublist
        ((sublist_flatMap_of_mem member).map Prod.fst)
  constructor
  · intro paired block member _
    exact (receipted_iff block member).1 (paired.receipted block member)
  · intro several
    have receipted :
        ∀ block ∈ blocks commands, EntriesReceipted sha256 loads block := by
      intro block member
      have accepted := brackets.closedBlocks block member
      exact
        (receipted_iff block member).2
          (enough_of_several accepted.follow accepted.together
            (several block member))
    constructor
    case receipted => exact receipted
    case inside => exact brackets.inside_blocks closed
    case follow =>
      exact fun block member => (brackets.closedBlocks block member).follow
    case counted => exact brackets.counted_of_receipted closed receipted
    case ledgered =>
      intro block member entry inBlock
      rcases receipted block member entry inBlock with
        ⟨⟨field, value⟩, inReceipts, read⟩
      have inFile : (field, value) ∈ hsets commands := by
        rw [brackets.inside_blocks closed]
        exact List.mem_flatMap.2 ⟨block, member, inReceipts⟩
      rcases ledgered_of_hset tracks inFile read with
        ⟨stored, found, readStored⟩
      exact ⟨field, stored, found, readStored⟩

end Pairing

/-- The field of a second publication. -/
def secondField : Bytes :=
  List.replicate 64 98

/-- The receipt of a publication of an empty object with id `6-0`. -/
def secondReceipt : Bytes :=
  asciiBytes "[\"" ++ emptyObjectDigest ++ asciiBytes "\",\"6-0\"]"

/-- `json.loads` of the two receipts. -/
def pairLoads (value : Bytes) : Option JsonValue :=
  if value = secondReceipt then
    some
      (.array
        [.text (emptyObjectDigest.map UInt8.toNat), .text [54, 45, 48]])
  else
    receiptLoads value

/-- Two publications in one transaction. -/
def pairedFile : Bytes :=
  asciiBytes "*1\r\n$5\r\nMULTI\r\n" ++ xaddBytes "5" ++ xaddBytes "6" ++
    hsetBytes publicationField ++
    asciiBytes "*4\r\n$4\r\nHSET\r\n$59\r\nkairos.runtime." ++
    asciiBytes (epochOwner ++ ".publication\r\n$64\r\n") ++
    secondField ++ asciiBytes "\r\n$74\r\n" ++ secondReceipt ++
    asciiBytes "\r\n*1\r\n$4\r\nEXEC\r\n"

/-- `sha256`, also on the file with two publications. -/
def pairSha256 (data : Bytes) : Bytes :=
  if data = pairedFile then
    asciiBytes
      "afb9bac385c1e771ed1ca4efe5480a919f803de5307d54d7f6b8ffad40e5b9dd"
  else if
      data =
        asciiBytes "[\"" ++ publicationField ++ asciiBytes "\",\"" ++
          secondField ++ asciiBytes "\"]" then
    asciiBytes
      "2ba3056e95d23c0c154eca683e330401c46e441d5074523e16349e29d7597a64"
  else
    fileSha256 data

/-- The transaction of the file. -/
def pairedBlock : List AofCommand :=
  [.xadd (asciiBytes "5-0") (asciiBytes "\x7b\x7d"),
    .xadd (asciiBytes "6-0") (asciiBytes "\x7b\x7d"),
    .hset publicationField publicationReceipt,
    .hset secondField secondReceipt]

/-- The commands of the file. -/
def pairedCommands : List AofCommand :=
  .multi :: pairedBlock ++ [.exec]

/-- The report on the file. -/
def pairedReport : InventoryReport :=
  { orderedReport with
    bytes := 643
    parsedSourceSha256 := pairSha256 pairedFile
    commandCount := 6
    subcommandCounts :=
      [("exec", 1), ("hset", 2), ("multi", 1), ("xadd", 2)]
    xaddCount := 2
    ledgerFields := 2
    receiptCount := 2
    publicationMessageIdsSha256 :=
      asciiBytes
        "2ba3056e95d23c0c154eca683e330401c46e441d5074523e16349e29d7597a64"
    lastPublicationMessageId := some secondField
    matchedReceiptCount := 2 }

set_option maxRecDepth 20000 in
/-- Two publications in one transaction are paired. -/
theorem inventory_paired_iff_two :
    inventoryBytes pairSha256 pairLoads epochOwner pairedFile "standard" =
        .ok pairedReport ∧
      fileCommands epochOwner pairedFile "standard" = some pairedCommands ∧
      blocks pairedCommands = [pairedBlock] ∧
      (receipts pairLoads pairedBlock).length = 2 ∧
      Paired pairSha256 pairLoads pairedCommands := by
  have accepted :
      inventoryBytes pairSha256 pairLoads epochOwner pairedFile "standard" =
        .ok pairedReport := by
    decide
  have commandsRead :
      fileCommands epochOwner pairedFile "standard" =
        some pairedCommands := by
    decide
  have block : blocks pairedCommands = [pairedBlock] := by
    decide
  have two : (receipts pairLoads pairedBlock).length = 2 := by
    decide
  rcases inventory_paired_iff _ _ _ _ _ _ accepted with
    ⟨commands, rereads, agree⟩
  rw [commandsRead] at rereads
  rw [← Option.some.inj rereads] at agree
  refine ⟨accepted, commandsRead, block, two, agree.2 ?_⟩
  intro own member _
  rw [block, List.mem_singleton] at member
  rw [member, two]
  exact Nat.le_refl 2

/-! ## An orphan entry -/

/-- Two entries in one transaction, with the receipt of the first. -/
def orphanFile : Bytes :=
  asciiBytes "*1\r\n$5\r\nMULTI\r\n" ++ xaddBytes "5" ++ xaddBytes "6" ++
    hsetBytes publicationField ++ asciiBytes "*1\r\n$4\r\nEXEC\r\n"

/-- `sha256`, also on the file with the orphan. -/
def orphanSha256 (data : Bytes) : Bytes :=
  if data = orphanFile then
    asciiBytes
      "6d6783a2d67b301242d5eb4afef8882d260ad12437ad4057885a5f074c6f8b79"
  else
    fileSha256 data

/-- The transaction of the file. -/
def orphanBlock : List AofCommand :=
  [.xadd (asciiBytes "5-0") (asciiBytes "\x7b\x7d"),
    .xadd (asciiBytes "6-0") (asciiBytes "\x7b\x7d"),
    .hset publicationField publicationReceipt]

/-- The commands of the file. -/
def orphanCommands : List AofCommand :=
  .multi :: orphanBlock ++ [.exec]

/-- The report on the file. -/
def orphanReport : InventoryReport :=
  { orderedReport with
    bytes := 411
    parsedSourceSha256 := orphanSha256 orphanFile
    commandCount := 5
    subcommandCounts :=
      [("exec", 1), ("hset", 1), ("multi", 1), ("xadd", 2)]
    xaddCount := 2 }

set_option maxRecDepth 20000 in
/-- The inventory accepts a transaction whose second entry has no receipt. -/
theorem inventory_accepts_orphan :
    inventoryBytes orphanSha256 receiptLoads epochOwner orphanFile
          "standard" =
        .ok orphanReport ∧
      fileCommands epochOwner orphanFile "standard" =
        some orphanCommands ∧
      blocks orphanCommands = [orphanBlock] ∧
      ¬ EntriesReceipted orphanSha256 receiptLoads orphanBlock ∧
      ((blocks orphanCommands).flatMap xadds).length = 2 ∧
      (receipts receiptLoads orphanCommands).length = 1 ∧
      ¬ Paired orphanSha256 receiptLoads orphanCommands := by
  have twoEntries :
      ((blocks orphanCommands).flatMap xadds).length = 2 := by
    decide
  have oneReceipt : (receipts receiptLoads orphanCommands).length = 1 := by
    decide
  refine
    ⟨by decide, by decide, by decide, ?_,
      twoEntries, oneReceipt, ?_⟩
  · intro receipted
    have orphan :
        ¬ ∃ receipt ∈ hsets orphanBlock,
          (receiptOf receiptLoads receipt.2).toOption =
            some (entryPair orphanSha256
              (asciiBytes "6-0", asciiBytes "\x7b\x7d")) := by
      decide
    rcases
        receipted (asciiBytes "6-0", asciiBytes "\x7b\x7d")
          (by decide) with
      ⟨receipt, member, read⟩
    exact orphan ⟨receipt, member, by rw [read]; rfl⟩
  · intro paired
    have equal := paired.counted
    rw [twoEntries, oneReceipt] at equal
    exact absurd equal (by decide)

end KairosDeploy.RedisAof.TransactionPairing
