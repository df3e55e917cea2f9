import KairosDeploy.Library.RedisStream
import KairosDeploy.Epoch.Contract
import KairosDeploy.RedisAof.RespReader

/-!
# The inventory of an append-only file

`inventory_bytes` reads the commands of a captured file and accepts only the
commands of the publication script and of the consumer group, on the two keys
of one owner.  It keeps its own dictionaries of stream ids and receipts and
returns counts.  This module translates it, and describes what one accepted
command does to these dictionaries in the terms in which Redis reads it.
-/

namespace KairosDeploy.RedisAof.Inventory

open KairosDeploy.Library.Refusal
open KairosDeploy.Library.RedisStream
open KairosDeploy.Epoch.Contract (Dict)
open KairosDeploy.RedisAof.RespReader

/-! ## Constants and profiles -/

/-- `TOPIC`. -/
def topic : Bytes := asciiBytes "kairos.market.closed_bar.v1"

/-- `_GROUP`. -/
def groupName : Bytes := asciiBytes "bars"

/-- `_profile_limits`: the largest file and the largest number of commands. -/
def profileLimits (profile : String) : Except AofError (Nat × Nat) :=
  if profile = "standard" then
    .ok (8 * 1024 * 1024, 50000)
  else if profile = "forensic32m" then
    .ok (32 * 1024 * 1024, 200000)
  else
    .error ⟨"AOF_PROFILE_INVALID"⟩

/-- `_owner`: 32 lower-case hexadecimal digits. -/
def checkOwner (owner : String) : Except AofError Unit :=
  refuseIf
    (owner.toList.length ≠ 32 ∨
      ¬ owner.toList.all fun character =>
        ('0' ≤ character && character ≤ '9') ||
          ('a' ≤ character && character ≤ 'f'))
    ⟨"OWNER_INVALID"⟩

/-- `_key`. -/
def ledgerKey (owner : String) : Bytes :=
  asciiBytes ("kairos.runtime." ++ owner ++ ".publication")

/-! ## Bytes as text -/

/-- `bytes.upper`. -/
def upper (value : Bytes) : Bytes :=
  value.map fun byte => if 97 ≤ byte ∧ byte ≤ 122 then byte - 32 else byte

/-- `str.lower` on ASCII text. -/
def lower (value : Bytes) : Bytes :=
  value.map fun byte => if 65 ≤ byte ∧ byte ≤ 90 then byte + 32 else byte

/-- Every byte is ASCII. -/
def isAscii (value : Bytes) : Bool :=
  value.all fun byte => byte < 128

/-- `[0-9a-fA-F]`. -/
def isHexDigit (byte : UInt8) : Bool :=
  isDigit byte || (65 ≤ byte && byte ≤ 70) || (97 ≤ byte && byte ≤ 102)

/-- `_HEX64`. -/
def isHex64 (value : Bytes) : Bool :=
  value.length = 64 && value.all isHexDigit

/-- `0|[1-9][0-9]*`. -/
def isDecimal (value : Bytes) : Bool :=
  value == [48] ||
    (!value.isEmpty && value.all isDigit && value.head? != some 48)

/-- The two numbers of a text that matches `_STREAM_ID`. -/
def streamIdParts (value : Bytes) : Option (Bytes × Bytes) :=
  match value.dropWhile (· ≠ 45) with
  | 45 :: seq =>
      if isDecimal (value.takeWhile (· ≠ 45)) ∧ isDecimal seq then
        some (value.takeWhile (· ≠ 45), seq)
      else
        none
  | _ => none

/-- The id that a text denotes. -/
def parsedId (value : Bytes) : Option StreamId :=
  (streamIdParts value).map fun parts =>
    ⟨digitsValue parts.1, digitsValue parts.2⟩

/-- `_stream_id`. -/
def streamId (value : Bytes) (allowZero : Bool) : Except AofError Bytes :=
  match streamIdParts value with
  | none => .error ⟨"STREAM_ID_INVALID"⟩
  | some (ms, seq) => do
      refuseIf (ms.length > 20 ∨ seq.length > 20) ⟨"STREAM_ID_INVALID"⟩
      refuseIf
        (digitsValue ms > 2 ^ 64 - 1 ∨ digitsValue seq > 2 ^ 64 - 1 ∨
          (digitsValue ms = 0 ∧ digitsValue seq = 0 ∧ allowZero = false))
        ⟨"STREAM_ID_INVALID"⟩
      return value

/-! ## Consumer-group commands -/

/-- `_CONSUMER`: `consumer-[0-9a-f]{12}-[1-9][0-9]*`. -/
def isConsumer (value : Bytes) : Bool :=
  let marker := asciiBytes "consumer-"
  let host := (value.drop marker.length).take 12
  let process := value.drop (marker.length + 13)
  value.take marker.length == marker && host.length == 12 &&
    host.all (fun byte => isDigit byte || (97 ≤ byte && byte ≤ 102)) &&
    (value.drop (marker.length + 12)).head? == some 45 &&
    !process.isEmpty && process.all isDigit && process.head? != some 48

/-- `_valid_group_args`: the subcommand in lower case. -/
def validGroupArgs (args : List Bytes) : Except AofError String :=
  match args with
  | subcommand :: key :: group :: id :: rest => do
      refuseIf (key ≠ topic ∨ group ≠ groupName)
        ⟨"AOF_UNKNOWN_COMMAND_OR_KEY"⟩
      let name ←
        if subcommand = asciiBytes "CREATE" then
          if rest = [asciiBytes "MKSTREAM"] then
            .ok "create"
          else
            .error ⟨"AOF_UNKNOWN_COMMAND_OR_KEY"⟩
        else if subcommand = asciiBytes "SETID" then
          match rest with
          | [option, entries] => do
              refuseIf (option ≠ asciiBytes "ENTRIESREAD")
                ⟨"AOF_UNKNOWN_COMMAND_OR_KEY"⟩
              let _ ←
                unsigned entries (2 ^ 63 - 1) "AOF_MALFORMED_OR_TRUNCATED"
              return "setid"
          | _ => .error ⟨"AOF_UNKNOWN_COMMAND_OR_KEY"⟩
        else
          .error ⟨"AOF_UNKNOWN_COMMAND_OR_KEY"⟩
      if id = asciiBytes "$" ∨ id = asciiBytes "0" then
        return name
      else do
        let _ ← streamId id true
        return name
  | _ => .error ⟨"AOF_UNKNOWN_COMMAND_OR_KEY"⟩

/-- The options of `XCLAIM` in order, each with its number of values. -/
def claimOptions : List (Bytes × Nat) :=
  [(asciiBytes "TIME", 1), (asciiBytes "RETRYCOUNT", 1),
    (asciiBytes "FORCE", 0), (asciiBytes "JUSTID", 0),
    (asciiBytes "LASTID", 1)]

/-- The place of an option in the order, and its number of values. -/
def claimOption (value : Bytes) : Option (Nat × Nat) :=
  (claimOptions.findIdx? fun option => option.1 = upper value).map
    fun index => (index, (claimOptions.map Prod.snd).getD index 0)

/-- The options of a claim, each at most once and in order. -/
def checkClaimOptions : Int → List Bytes → Except AofError Unit
  | _, [] => .ok ()
  | last, option :: rest =>
      match claimOption option with
      | none => .error ⟨"AOF_UNKNOWN_COMMAND_OR_KEY"⟩
      | some (order, arity) =>
          if (order : Int) ≤ last then
            .error ⟨"AOF_MALFORMED_OR_TRUNCATED"⟩
          else if arity = 0 then
            checkClaimOptions order rest
          else
            match rest with
            | [] => .error ⟨"AOF_MALFORMED_OR_TRUNCATED"⟩
            | value :: others => do
                if upper option = asciiBytes "LASTID" then
                  let _ ← streamId value true
                else
                  let _ ←
                    unsigned value (2 ^ 63 - 1)
                      "AOF_MALFORMED_OR_TRUNCATED"
                checkClaimOptions order others

/-- The ids of a claim, up to its first option. -/
def checkClaimIds : Bool → List Bytes → Except AofError Unit
  | some_, [] =>
      if some_ then .ok () else .error ⟨"AOF_MALFORMED_OR_TRUNCATED"⟩
  | some_, value :: rest =>
      if (claimOption value).isSome then
        if some_ then
          checkClaimOptions (-1) (value :: rest)
        else
          .error ⟨"AOF_MALFORMED_OR_TRUNCATED"⟩
      else do
        let _ ← streamId value false
        checkClaimIds true rest

/-- `_valid_claim`. -/
def validClaim (args : List Bytes) : Except AofError Unit :=
  match args with
  | key :: group :: consumer :: idle :: first :: rest => do
      refuseIf (key ≠ topic ∨ group ≠ groupName)
        ⟨"AOF_UNKNOWN_COMMAND_OR_KEY"⟩
      refuseIf (¬ isAscii consumer) ⟨"AOF_MALFORMED_OR_TRUNCATED"⟩
      refuseIf (¬ isConsumer consumer) ⟨"AOF_CONSUMER_IDENTITY_INVALID"⟩
      let _ ← unsigned idle (2 ^ 63 - 1) "AOF_MALFORMED_OR_TRUNCATED"
      checkClaimIds false (first :: rest)
  | _ => .error ⟨"AOF_UNKNOWN_COMMAND_OR_KEY"⟩

/-! ## Receipts -/

/--
What `json.loads` returns, as far as the inventory looks at it.  A text is its
code points, so that lone surrogates are covered.
-/
inductive JsonValue where
  | text (codePoints : List Nat)
  | array (items : List JsonValue)
  | other

/-- `str.encode("ascii", "strict")`. -/
def encodeAscii (codePoints : List Nat) : Option Bytes :=
  if codePoints.all (· < 128) then
    some (codePoints.map UInt8.ofNat)
  else
    none

/-- The digest in lower case and the stream id of a stored receipt. -/
def receiptOf (loads : Bytes → Option JsonValue) (value : Bytes) :
    Except AofError (Bytes × Bytes) := do
  refuseIf (¬ isAscii value) ⟨"AOF_RECEIPT_INVALID"⟩
  match loads value with
  | some (.array [.text digest, .text id]) =>
      match encodeAscii digest, encodeAscii id with
      | some digestBytes, some idBytes => do
          refuseIf (¬ isHex64 digestBytes) ⟨"AOF_RECEIPT_INVALID"⟩
          let receiptId ← streamId idBytes false
          return (lower digestBytes, receiptId)
      | _, _ => .error ⟨"AOF_RECEIPT_INVALID"⟩
  | _ => .error ⟨"AOF_RECEIPT_INVALID"⟩

/-! ## The inventory -/

/-- The names the inventory admits. -/
inductive CommandName where
  | multi
  | exec
  | select
  | xadd
  | hset
  | xgroup
  | xclaim
  | xack
deriving DecidableEq, Repr

/-- `command[0].upper()`, compared with each admitted name. -/
def commandName (name : Bytes) : Option CommandName :=
  if upper name = asciiBytes "MULTI" then some .multi
  else if upper name = asciiBytes "EXEC" then some .exec
  else if upper name = asciiBytes "SELECT" then some .select
  else if upper name = asciiBytes "XADD" then some .xadd
  else if upper name = asciiBytes "HSET" then some .hset
  else if upper name = asciiBytes "XGROUP" then some .xgroup
  else if upper name = asciiBytes "XCLAIM" then some .xclaim
  else if upper name = asciiBytes "XACK" then some .xack
  else none

/-- The local variables of `inventory_bytes`. -/
structure InventoryState where
  counts : Dict Nat
  dbs : List Nat
  publicationIds : List Bytes
  receiptFields : AList fun _ : Bytes => Bytes × Bytes
  streamReceipts : AList fun _ : Bytes => Bytes
  inMulti : Bool
  transactionStreams : List (Bytes × Bytes)
  transactionHasHset : Bool
  transactionHasXadd : Bool
  xaddReceipts : List (Bytes × Bytes)

/-- Before the first command. -/
def InventoryState.initial : InventoryState where
  counts := ∅
  dbs := []
  publicationIds := []
  receiptFields := ∅
  streamReceipts := ∅
  inMulti := false
  transactionStreams := []
  transactionHasHset := false
  transactionHasXadd := false
  xaddReceipts := []

/-- `counts[key]`. -/
def InventoryState.count (state : InventoryState) (key : String) : Nat :=
  (state.counts.lookup key).getD 0

/-- `counts[key] += 1`. -/
def InventoryState.bump (state : InventoryState) (key : String) :
    InventoryState :=
  { state with counts := state.counts.insert key (state.count key + 1) }

section Inventory

variable (sha256 : Bytes → Bytes) (loads : Bytes → Option JsonValue)
    (owner : String)

/-- The branch of `MULTI`. -/
def inventoryMulti (state : InventoryState) (args : List Bytes) :
    Except AofError InventoryState := do
  refuseIf (args ≠ [] ∨ state.inMulti = true) ⟨"AOF_TRANSACTION_INVALID"⟩
  let opened : InventoryState :=
    { state with
      inMulti := true
      transactionStreams := []
      transactionHasHset := false
      transactionHasXadd := false }
  return opened.bump "multi"

/-- The branch of `EXEC`. -/
def inventoryExec (state : InventoryState) (args : List Bytes) :
    Except AofError InventoryState := do
  refuseIf (args ≠ [] ∨ state.inMulti = false) ⟨"AOF_TRANSACTION_INVALID"⟩
  refuseIf (state.transactionHasHset ≠ state.transactionHasXadd)
    ⟨"AOF_TRANSACTION_INVALID"⟩
  return { state with inMulti := false }.bump "exec"

/-- The branch of `SELECT`. -/
def inventorySelect (state : InventoryState) (args : List Bytes) :
    Except AofError InventoryState := do
  refuseIf (args ≠ [asciiBytes "0"]) ⟨"AOF_DB_INVALID"⟩
  return { state with dbs := state.dbs.insert 0 }.bump "select"

/-- The state after an accepted `XADD`. -/
def InventoryState.withEntry
    (state : InventoryState) (id data : Bytes) : InventoryState :=
  let digest := sha256 data
  { state with
    streamReceipts := state.streamReceipts.insert id digest
    xaddReceipts := state.xaddReceipts.insert (digest, id)
    transactionStreams :=
      if state.inMulti then
        state.transactionStreams.insert (digest, id)
      else
        state.transactionStreams
    transactionHasXadd := state.inMulti || state.transactionHasXadd }.bump
      "xadd"

/-- The branch of `XADD`. -/
def inventoryXadd (state : InventoryState) (args : List Bytes) :
    Except AofError InventoryState :=
  match args with
  | [key, id, field, data] => do
      refuseIf (key ≠ topic ∨ field ≠ asciiBytes "data")
        ⟨"AOF_UNKNOWN_COMMAND_OR_KEY"⟩
      let sid ← streamId id false
      refuseIf (state.streamReceipts.lookup sid ≠ none)
        ⟨"AOF_STREAM_ID_REUSED"⟩
      return state.withEntry sha256 sid data
  | _ => .error ⟨"AOF_UNKNOWN_COMMAND_OR_KEY"⟩

/-- The state after an accepted `HSET`. -/
def InventoryState.withReceipt
    (state : InventoryState) (field : Bytes) (pair : Bytes × Bytes) :
    InventoryState :=
  let messageId := lower field
  { state with
    publicationIds :=
      if state.receiptFields.lookup messageId = none then
        state.publicationIds ++ [messageId]
      else
        state.publicationIds
    receiptFields := state.receiptFields.insert messageId pair
    transactionHasHset := true }.bump "hset"

/-- The branch of `HSET`. -/
def inventoryHset (state : InventoryState) (args : List Bytes) :
    Except AofError InventoryState := do
  refuseIf (state.inMulti = false) ⟨"AOF_TRANSACTION_INVALID"⟩
  match args with
  | [key, field, value] => do
      refuseIf (key ≠ ledgerKey owner) ⟨"AOF_UNKNOWN_COMMAND_OR_KEY"⟩
      refuseIf (¬ isAscii field) ⟨"AOF_MALFORMED_OR_TRUNCATED"⟩
      refuseIf (¬ isHex64 field) ⟨"AOF_UNKNOWN_COMMAND_OR_KEY"⟩
      let pair ← receiptOf loads value
      refuseIf
        (pair ∉ state.transactionStreams ∨ pair ∉ state.xaddReceipts)
        ⟨"AOF_RECEIPT_INVALID"⟩
      refuseIf
        (state.receiptFields.lookup (lower field) ≠ none ∧
          state.receiptFields.lookup (lower field) ≠ some pair)
        ⟨"AOF_RECEIPT_FIELD_REWRITTEN"⟩
      return state.withReceipt field pair
  | _ => .error ⟨"AOF_UNKNOWN_COMMAND_OR_KEY"⟩

/-- The branch of `XGROUP`. -/
def inventoryXgroup (state : InventoryState) (args : List Bytes) :
    Except AofError InventoryState := do
  let subcommand ← validGroupArgs args
  return state.bump ("xgroup|" ++ subcommand)

/-- The branch of `XCLAIM`. -/
def inventoryXclaim (state : InventoryState) (args : List Bytes) :
    Except AofError InventoryState := do
  validClaim args
  return state.bump "xclaim"

/-- The branch of `XACK`. -/
def inventoryXack (state : InventoryState) (args : List Bytes) :
    Except AofError InventoryState :=
  match args with
  | key :: group :: first :: rest => do
      refuseIf (key ≠ topic ∨ group ≠ groupName)
        ⟨"AOF_UNKNOWN_COMMAND_OR_KEY"⟩
      let _ ← (first :: rest).mapM fun id => streamId id false
      return state.bump "xack"
  | _ => .error ⟨"AOF_UNKNOWN_COMMAND_OR_KEY"⟩

/-- One command of the loop of `inventory_bytes`. -/
def inventoryStep (state : InventoryState) (command : List Bytes) :
    Except AofError InventoryState :=
  match command with
  | [] => .error ⟨"AOF_MALFORMED_OR_TRUNCATED"⟩
  | name :: args =>
      match commandName name with
      | some .multi => inventoryMulti state args
      | some .exec => inventoryExec state args
      | some .select => inventorySelect state args
      | some .xadd => inventoryXadd sha256 state args
      | some .hset => inventoryHset loads owner state args
      | some .xgroup => inventoryXgroup state args
      | some .xclaim => inventoryXclaim state args
      | some .xack => inventoryXack state args
      | none => .error ⟨"AOF_UNKNOWN_COMMAND_OR_KEY"⟩

/-- The sanitized result. -/
structure InventoryReport where
  bytes : Nat
  parsedSourceSha256 : Bytes
  commandCount : Nat
  dbs : List Nat
  subcommandCounts : List (String × Nat)
  xaddCount : Nat
  ledgerFields : Nat
  receiptCount : Nat
  publicationMessageIdsSha256 : Bytes
  firstPublicationMessageId : Option Bytes
  lastPublicationMessageId : Option Bytes
  matchedReceiptCount : Nat
  actorFormatValid : Bool
  transactionsBalanced : Bool
deriving DecidableEq, Repr

/-- `json.dumps(ids, separators=(",", ":"))` for hexadecimal ids. -/
def dumpsIds (ids : List Bytes) : Bytes :=
  asciiBytes "[" ++
    (List.intersperse (asciiBytes ",")
      (ids.map fun id => asciiBytes "\"" ++ id ++ asciiBytes "\"")).flatten ++
    asciiBytes "]"

/-- The report on a file whose commands have all been accepted. -/
def inventoryReport (data : Bytes) (commands : Nat) (state : InventoryState) :
    InventoryReport where
  bytes := data.length
  parsedSourceSha256 := sha256 data
  commandCount := commands
  dbs := state.dbs.insertionSort (· ≤ ·)
  subcommandCounts :=
    (state.counts.entries.map fun entry => (entry.1, entry.2)).insertionSort
      fun left right => left.1 ≤ right.1
  xaddCount := state.count "xadd"
  ledgerFields := state.publicationIds.length
  receiptCount := state.count "hset"
  publicationMessageIdsSha256 :=
    sha256
      (dumpsIds
        (state.publicationIds.insertionSort fun left right =>
          left.map UInt8.toNat ≤ right.map UInt8.toNat))
  firstPublicationMessageId := state.publicationIds.head?
  lastPublicationMessageId := state.publicationIds.getLast?
  matchedReceiptCount := state.receiptFields.entries.length
  actorFormatValid := state.count "xclaim" > 0
  transactionsBalanced := state.count "multi" = state.count "exec"

/-- `inventory_bytes`. -/
def inventoryBytes (data : Bytes) (profile : String) :
    Except AofError InventoryReport := do
  let (maxBytes, maxCommands) ← profileLimits profile
  checkOwner owner
  refuseIf (data.length > maxBytes) ⟨"AOF_LIMIT_EXCEEDED"⟩
  let (reader, state) ←
    forEachCommand maxCommands (inventoryStep sha256 loads owner)
      (data.length + 1) ⟨data, 0⟩ .initial
  refuseIf (state.inMulti = true) ⟨"AOF_TRANSACTION_INVALID"⟩
  refuseIf (data = []) ⟨"AOF_MALFORMED_OR_TRUNCATED"⟩
  return inventoryReport sha256 data reader.commands state

end Inventory

/-! ## Commands as Redis reads them -/

/-- A command on the stream or the hash of one owner, or on neither. -/
inductive AofCommand where
  | multi
  | exec
  | xadd (id data : Bytes)
  | hset (field value : Bytes)
  | unrelated
deriving DecidableEq, Repr

/-- The meaning of a command for the stream and the hash. -/
def aofCommand (owner : String) (command : List Bytes) :
    Option AofCommand :=
  match command with
  | [] => none
  | name :: args =>
      match commandName name, args with
      | some .multi, [] => some .multi
      | some .exec, [] => some .exec
      | some .xadd, [key, id, field, data] =>
          if key = topic ∧ field = asciiBytes "data" then
            some (.xadd id data)
          else
            none
      | some .hset, [key, field, value] =>
          if key = ledgerKey owner then some (.hset field value) else none
      | some .select, _ => some .unrelated
      | some .xgroup, _ => some .unrelated
      | some .xclaim, _ => some .unrelated
      | some .xack, _ => some .unrelated
      | _, _ => none

/-- The commands of a file, as Redis reads them. -/
def fileCommands (owner : String) (data : Bytes) (profile : String) :
    Option (List AofCommand) :=
  match profileLimits profile with
  | .error _ => none
  | .ok (_, maxCommands) =>
      match readCommands maxCommands data with
      | .error _ => none
      | .ok commands => commands.mapM (aofCommand owner)

/-- The ids and payloads of the `XADD` commands, in order. -/
def xadds (commands : List AofCommand) : List (Bytes × Bytes) :=
  commands.filterMap fun command =>
    match command with
    | .xadd id data => some (id, data)
    | _ => none

/-- The fields and values of the `HSET` commands, in order. -/
def hsets (commands : List AofCommand) : List (Bytes × Bytes) :=
  commands.filterMap fun command =>
    match command with
    | .hset field value => some (field, value)
    | _ => none

section Accepted

variable {sha256 : Bytes → Bytes} {loads : Bytes → Option JsonValue}
    {owner : String}

/-- What one accepted command requires of the inventory and does to it. -/
inductive Inventoried
    (sha256 : Bytes → Bytes) (loads : Bytes → Option JsonValue) :
    InventoryState → AofCommand → InventoryState → Prop where
  | multi {state : InventoryState}
      (closed : state.inMulti = false) :
      Inventoried sha256 loads state .multi
        ({ state with
            inMulti := true
            transactionStreams := []
            transactionHasHset := false
            transactionHasXadd := false }.bump "multi")
  | exec {state : InventoryState}
      (opened : state.inMulti = true)
      (balanced : state.transactionHasHset = state.transactionHasXadd) :
      Inventoried sha256 loads state .exec
        ({ state with inMulti := false }.bump "exec")
  | xadd {state : InventoryState} {id data : Bytes}
      (valid : streamId id false = .ok id)
      (fresh : state.streamReceipts.lookup id = none) :
      Inventoried sha256 loads state (.xadd id data)
        (state.withEntry sha256 id data)
  | hset {state : InventoryState} {field value : Bytes}
      {pair : Bytes × Bytes}
      (opened : state.inMulti = true)
      (hexField : isHex64 field = true)
      (receipt : receiptOf loads value = .ok pair)
      (inTransaction : pair ∈ state.transactionStreams)
      (onStream : pair ∈ state.xaddReceipts)
      (kept :
        state.receiptFields.lookup (lower field) = none ∨
          state.receiptFields.lookup (lower field) = some pair) :
      Inventoried sha256 loads state (.hset field value)
        (state.withReceipt field pair)
  | unrelated {state : InventoryState} {key : String} {dbs : List Nat}
      (otherKey : key ≠ "xadd") :
      Inventoried sha256 loads state .unrelated
        ({ state with dbs := dbs }.bump key)

/-- A valid id is returned as it was read. -/
theorem streamId_eq_ok
    {value text : Bytes} {allowZero : Bool}
    (valid : streamId value allowZero = .ok text) :
    text = value ∧
      ∃ id,
        parsedId value = some id ∧
          (allowZero = false → (⟨0, 0⟩ : StreamId) < id) := by
  unfold streamId at valid
  split at valid
  · cases valid
  · rename_i ms seq parts
    simp only [bind_eq_ok_iff, refuseIf_eq_ok_iff, exists_const,
      pure_eq_ok_iff, not_or, not_and] at valid
    rcases valid with ⟨_, ⟨_, _, nonzero⟩, rfl⟩
    refine
      ⟨rfl, ⟨digitsValue ms, digitsValue seq⟩, by simp [parsedId, parts], ?_⟩
    rintro rfl
    change
      toLex ((0 : Nat), (0 : Nat)) <
        toLex (digitsValue ms, digitsValue seq)
    rw [Prod.Lex.toLex_lt_toLex]
    by_cases zero : digitsValue ms = 0
    · have positive : digitsValue seq ≠ 0 := fun seqZero =>
        nonzero zero seqZero rfl
      exact Or.inr ⟨zero.symm, Nat.pos_of_ne_zero positive⟩
    · exact Or.inl (Nat.pos_of_ne_zero zero)

/-- Every command the inventory accepts is one that Redis reads. -/
theorem inventoryStep_eq_ok
    {state after : InventoryState} {command : List Bytes}
    (accepted : inventoryStep sha256 loads owner state command = .ok after) :
    ∃ read,
      aofCommand owner command = some read ∧
        Inventoried sha256 loads state read after := by
  unfold inventoryStep at accepted
  split at accepted
  · cases accepted
  rename_i name args
  split at accepted
  all_goals rename_i named
  · simp only [inventoryMulti, bind_eq_ok_iff, refuseIf_eq_ok_iff,
      exists_const, pure_eq_ok_iff, not_or, not_not,
      Bool.not_eq_true] at accepted
    rcases accepted with ⟨⟨rfl, closed⟩, rfl⟩
    exact ⟨.multi, by simp [aofCommand, named], .multi closed⟩
  · simp only [inventoryExec, bind_eq_ok_iff, refuseIf_eq_ok_iff,
      exists_const, pure_eq_ok_iff, not_or, not_not,
      Bool.not_eq_false] at accepted
    rcases accepted with ⟨⟨rfl, opened⟩, balanced, rfl⟩
    exact ⟨.exec, by simp [aofCommand, named], .exec opened balanced⟩
  · simp only [inventorySelect, bind_eq_ok_iff, refuseIf_eq_ok_iff,
      exists_const, pure_eq_ok_iff] at accepted
    rcases accepted with ⟨_, rfl⟩
    exact
      ⟨.unrelated, by simp [aofCommand, named], .unrelated (by decide)⟩
  · unfold inventoryXadd at accepted
    split at accepted
    · simp only [bind_eq_ok_iff, refuseIf_eq_ok_iff, exists_const,
        pure_eq_ok_iff, not_or, not_not] at accepted
      rcases accepted with ⟨keys, sid, valid, fresh, rfl⟩
      have same := (streamId_eq_ok valid).1
      subst sid
      exact
        ⟨.xadd _ _, by simp [aofCommand, named, keys], .xadd valid fresh⟩
    · cases accepted
  · simp only [inventoryHset, bind_eq_ok_iff, refuseIf_eq_ok_iff,
      exists_const, Bool.not_eq_false] at accepted
    rcases accepted with ⟨opened, accepted⟩
    split at accepted
    · rename_i key field value
      simp only [bind_eq_ok_iff, refuseIf_eq_ok_iff, exists_const,
        pure_eq_ok_iff, not_or, not_not, not_and] at accepted
      rcases accepted with
        ⟨sameKey, _, hexField, pair, receipt, ⟨inTransaction, onStream⟩,
          kept, rfl⟩
      refine
        ⟨.hset field value, by simp [aofCommand, named, sameKey],
          .hset opened hexField receipt inTransaction onStream ?_⟩
      by_cases missing : state.receiptFields.lookup (lower field) = none
      · exact Or.inl missing
      · exact Or.inr (kept missing)
    · cases accepted
  · simp only [inventoryXgroup, bind_eq_ok_iff, pure_eq_ok_iff] at accepted
    rcases accepted with ⟨subcommand, _, rfl⟩
    refine ⟨.unrelated, by simp [aofCommand, named], .unrelated ?_⟩
    intro same
    have texts := congrArg String.toList same
    simp at texts
  · simp only [inventoryXclaim, bind_eq_ok_iff, pure_eq_ok_iff] at accepted
    rcases accepted with ⟨_, _, rfl⟩
    exact
      ⟨.unrelated, by simp [aofCommand, named], .unrelated (by decide)⟩
  · unfold inventoryXack at accepted
    split at accepted
    · simp only [bind_eq_ok_iff, refuseIf_eq_ok_iff, exists_const,
        pure_eq_ok_iff] at accepted
      rcases accepted with ⟨_, _, _, rfl⟩
      exact
        ⟨.unrelated, by simp [aofCommand, named], .unrelated (by decide)⟩
    · cases accepted
  · cases accepted

/-- The inventory of a sequence of commands. -/
inductive InventoryRun
    (sha256 : Bytes → Bytes) (loads : Bytes → Option JsonValue) :
    InventoryState → List AofCommand → InventoryState → Prop where
  | nil {state : InventoryState} :
      InventoryRun sha256 loads state [] state
  | cons {first middle last : InventoryState} {command : AofCommand}
      {rest : List AofCommand}
      (step : Inventoried sha256 loads first command middle)
      (run : InventoryRun sha256 loads middle rest last) :
      InventoryRun sha256 loads first (command :: rest) last

/-- What every accepted command preserves holds after all of them. -/
theorem InventoryRun.invariant
    {property : List AofCommand → InventoryState → Prop}
    (preserved :
      ∀ processed state command after,
        property processed state →
          Inventoried sha256 loads state command after →
            property (processed ++ [command]) after)
    {state final : InventoryState} {commands : List AofCommand}
    (run : InventoryRun sha256 loads state commands final)
    {processed : List AofCommand} (initially : property processed state) :
    property (processed ++ commands) final := by
  induction run generalizing processed with
  | nil => simpa using initially
  | cons step _ induction =>
      have next := induction (preserved _ _ _ _ initially step)
      simpa using next

theorem inventoryRun_of_foldlM
    {raw : List (List Bytes)} {state final : InventoryState}
    (folded :
      raw.foldlM (inventoryStep sha256 loads owner) state = .ok final) :
    ∃ commands,
      raw.mapM (aofCommand owner) = some commands ∧
        InventoryRun sha256 loads state commands final := by
  induction raw generalizing state with
  | nil =>
      rw [List.foldlM_nil, pure_eq_ok_iff] at folded
      subst final
      exact ⟨[], rfl, .nil⟩
  | cons command rest induction =>
      rw [List.foldlM_cons, bind_eq_ok_iff] at folded
      rcases folded with ⟨middle, accepted, tail⟩
      rcases inventoryStep_eq_ok accepted with ⟨read, reads, step⟩
      rcases induction tail with ⟨commands, mapped, run⟩
      refine ⟨read :: commands, ?_, .cons step run⟩
      simp [List.mapM_cons, reads, mapped]

/-- What the acceptance of a file establishes. -/
theorem inventoryBytes_eq_ok
    {data : Bytes} {profile : String} {report : InventoryReport}
    (accepted :
      inventoryBytes sha256 loads owner data profile = .ok report) :
    ∃ commands count final,
      fileCommands owner data profile = some commands ∧
        InventoryRun sha256 loads .initial commands final ∧
        final.inMulti = false ∧
        report = inventoryReport sha256 data count final := by
  simp only [inventoryBytes, bind_eq_ok_iff, refuseIf_eq_ok_iff,
    exists_const, pure_eq_ok_iff, Prod.exists] at accepted
  rcases accepted with
    ⟨_, maxCommands, limits, _, _, _, reader, final, looped, closed, _,
      rfl⟩
  rcases forEachCommand_eq_ok looped with ⟨raw, folded, _, _, reread⟩
  rcases inventoryRun_of_foldlM folded with ⟨commands, mapped, run⟩
  refine
    ⟨commands, reader.commands, final, ?_, run,
      Bool.eq_false_of_not_eq_true closed, rfl⟩
  have reads : readCommands maxCommands data = .ok raw := by
    simp only [readCommands, bind_eq_ok_iff, pure_eq_ok_iff, Prod.exists]
    exact ⟨reader, raw, by simpa using reread [], rfl⟩
  simp only [fileCommands, limits, reads, mapped]

end Accepted

end KairosDeploy.RedisAof.Inventory
