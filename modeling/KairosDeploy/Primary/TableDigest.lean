import KairosDeploy.Library.PyObject
import KairosDeploy.Primary.ExactQuarantine

/-!
# The digest of a table

`_table_digest` has the server write every row as JSON, hash it, sort the
hashes and hash their concatenation.  It checks what comes back and charges it
to the budget of the snapshot.  Other queries do the same for the rows of a
`WHERE`, without the budget.  Either result stands for the rows: it is equal
for two tables exactly if they hold the same rows equally often.
-/

namespace KairosDeploy.Primary.TableDigest

open KairosDeploy.Epoch
open KairosDeploy.Epoch.HistorySnapshot (SnapshotError maxBytes maxRows
  maxSeconds tableBytes)
open KairosDeploy.Library.HexDigest
open KairosDeploy.Library.JsonText
open KairosDeploy.Library.JsonValue
open KairosDeploy.Library.PyNumber
open KairosDeploy.Library.PyObject (Builtins)
open KairosDeploy.Library.Refusal
open KairosDeploy.Library.SortedDigest
open KairosDeploy.Primary.ExactQuarantine (isTableName)

/-! ## The server -/

/-- A text or an integer. -/
inductive Plain : Json → Prop
  | text (value : String) : Plain (.text value)
  | int (value : Int) : Plain (.int value)

/-- The functions of the server and the standard library. -/
structure Tools where
  sha256 : Sha256
  /-- The order of `ORDER BY row_sha`. -/
  collation : Collation
  /-- `json_build_object(..)::text`. -/
  jsonText : Members → String
  float : List Char → PyFloat
  builtins : Builtins
  /-- `json.loads` reads back texts and integers that the server wrote. -/
  loads_jsonText :
    ∀ entries : Members, (∀ entry ∈ entries, Plain entry.2) →
      loads ⟨float, true⟩ (jsonText entries) = some (.object (dict entries))

/-- `encode(sha256(convert_to(text,'UTF8')),'hex')`. -/
def Tools.hash (tools : Tools) : FixedHash where
  hex text := tools.sha256.hexdigest (utf8 text)
  width := 64
  length_hex text := by
    have hexadecimal := tools.sha256.isSha256_hexdigest (utf8 text)
    rw [isSha256, Bool.and_eq_true, decide_eq_true_eq] at hexadecimal
    rw [← String.length_toList]
    exact hexadecimal.1
  width_pos := sha256Width_pos

/-- What a call of `_table_digest` depends on beside the rows. -/
structure Call where
  table : String
  /-- `query_timeout`. -/
  queryTimeout : Json
  /-- What `fetchval` raises. -/
  fault : Option SnapshotError
  /-- `time.monotonic() - budget.start` once the result is charged. -/
  seconds : Rat

/-- The call for a table. -/
def Call.on (call : Call) (table : String) : Call :=
  { call with table := table }

/-- `Budget`, before its deadline. -/
structure Budget where
  rows : Int
  bytes : Int
deriving DecidableEq, Repr

/-- A bound of the budget is exceeded. -/
def Budget.Exceeded (budget : Budget) (seconds : Rat) : Prop :=
  budget.rows > maxRows ∨ budget.bytes > maxBytes ∨ seconds > maxSeconds

instance (budget : Budget) (seconds : Rat) :
    Decidable (budget.Exceeded seconds) :=
  inferInstanceAs (Decidable (_ ∨ _))

/-- The result of the query, as far as it is read. -/
structure Answer where
  count : Int
  bytes : Int
  sha256 : Json

/-- What `_table_digest` returns. -/
structure Digest where
  count : Int
  sha256 : Json

/-- What a query with a `WHERE` returns. -/
structure PrefixDigest where
  n : Nat
  sha : String
deriving DecidableEq, Repr

/-- `None`, or a number in the bounds that is not a `bool`. -/
def timeoutAllowed : Json → Bool
  | .null => true
  | .int value => 0 < value && value ≤ 120
  | .float value =>
      pyLt (comparableInt 0) value.comparable &&
        pyLe value.comparable (comparableInt 120)
  | _ => false

section Digests

variable {Row : Type} (tools : Tools) (text : Row → String)

/-- The hash of the sorted row hashes; no rows give the hash of `''`. -/
def rowsDigest (rows : List Row) : String :=
  collatedDigest tools.hash text tools.collation rows

/-- The object that the query of `_table_digest` builds. -/
def resultEntries (table : String) (rows : List Row) : Members :=
  [("table", .text table), ("count", .int rows.length),
    ("bytes", .int (tableBytes text rows)),
    ("sha256", .text (rowsDigest tools text rows))]

/-- `connection.fetchval(query, table)`. -/
def fetchval (call : Call) (rows : List Row) : Except SnapshotError Json :=
  match call.fault with
  | some error => .error error
  | none =>
      .ok
        (.text (tools.jsonText (resultEntries tools text call.table rows)))

/-- `json.loads(raw) if isinstance(raw, str) else raw`. -/
def parseResult (raw : Json) : Except SnapshotError Json :=
  match raw with
  | .text text =>
      match loads ⟨tools.float, true⟩ text with
      | some result => .ok result
      | none => .error (.worker "full-table digest result is invalid")
  | result => .ok result

/-- The check of the shape of a result. -/
def checkResult (table : String) (result : Json) :
    Except SnapshotError Answer :=
  match result with
  | .object members =>
      match get members "count", get members "bytes" with
      | .int count, .int bytes => do
          refuseIf
            ((get members "table").pyEq (.text table) = false ∨
              isSha256 (tools.builtins.str (get members "sha256")) = false)
            (.worker "full-table digest shape differs")
          return ⟨count, bytes, get members "sha256"⟩
      | _, _ => .error (.worker "full-table digest shape differs")
  | _ => .error (.worker "full-table digest shape differs")

/-- `_table_digest` until its budget is charged. -/
def queryDigest (call : Call) (rows : List Row) :
    Except SnapshotError Answer := do
  refuseIf (isTableName call.table = false)
    (.worker "invalid table identifier")
  refuseIf (timeoutAllowed call.queryTimeout = false)
    (.worker "full-table digest query timeout exceeds its fixed bound")
  let raw ← fetchval tools text call rows
  let result ← parseResult tools raw
  checkResult tools call.table result

/-- The budget after an answer. -/
def Budget.charge (budget : Budget) (answer : Answer) : Budget :=
  ⟨budget.rows + answer.count, budget.bytes + answer.bytes⟩

/--
`_table_digest`: what it returns or raises, and the budget after it.  A budget
that is exceeded stays charged.
-/
def tableDigest (call : Call) (budget : Budget) (rows : List Row) :
    Except SnapshotError Digest × Budget :=
  match queryDigest tools text call rows with
  | .error error => (.error error, budget)
  | .ok answer =>
      let used := budget.charge answer
      (do
        refuseIf (used.Exceeded call.seconds)
          (.worker "full-history snapshot exceeded its fixed bound")
        return ⟨answer.count, answer.sha256⟩,
        used)

/-- The tables of a snapshot, which share one budget. -/
def digestTables (calls : String → Call) (database : String → List Row) :
    Budget → List String → Except SnapshotError (List (String × Digest))
  | _, [] => .ok []
  | budget, name :: rest =>
      match
        tableDigest tools text ((calls name).on name) budget (database name)
      with
      | (.error error, _) => .error error
      | (.ok digest, used) => do
          let others ← digestTables calls database used rest
          return (name, digest) :: others

/-- `count(*)` and the digest of the rows that a `WHERE` keeps. -/
def prefixDigest (kept : Row → Bool) (rows : List Row) : PrefixDigest :=
  ⟨(rows.filter kept).length, rowsDigest tools text (rows.filter kept)⟩

/-- `message_id NOT IN (ids)`, which no `NULL` satisfies. -/
def notIn (ids : List String) : Option String → Bool
  | none => false
  | some messageId => !ids.contains messageId

/-- The tables of the queue. -/
def queueTables : List String := ["message_outbox", "message_inbox"]

/-- `preserved` of `_sql_snapshot`; `ids` are those of its targets. -/
def preservedQueuePrefixes
    (messageId : Row → Option String) (ids : List String)
    (database : String → List Row) : List (String × PrefixDigest) :=
  queueTables.map fun table =>
    (table,
      prefixDigest tools text (fun row => notIn ids (messageId row))
        (database table))

end Digests

/-! ## What comes back -/

section Results

variable {Row : Type} {tools : Tools} {text : Row → String}
    {left right : List Row}

theorem isSha256_rowsDigest (rows : List Row) :
    isSha256 (rowsDigest tools text rows) = true :=
  tools.sha256.isSha256_hexdigest _

/-- The answer to a query that is put to the server. -/
def answerOf (tools : Tools) (text : Row → String) (rows : List Row) :
    Answer :=
  ⟨rows.length, tableBytes text rows, .text (rowsDigest tools text rows)⟩

theorem fetchval_eq_ok_iff
    (call : Call) (rows : List Row) (raw : Json) :
    fetchval tools text call rows = .ok raw ↔
      call.fault = none ∧
        raw =
          .text
            (tools.jsonText (resultEntries tools text call.table rows)) := by
  unfold fetchval
  cases call.fault <;> simp [eq_comm]

/-- The result of the query is read, and has the shape that is checked. -/
theorem checkResult_parseResult (table : String) (rows : List Row) :
    (parseResult tools
          (.text (tools.jsonText (resultEntries tools text table rows))) >>=
        checkResult tools table) =
      .ok (answerOf tools text rows) := by
  have plain :
      ∀ entry ∈ resultEntries tools text table rows, Plain entry.2 := by
    simp [resultEntries, Plain.text, Plain.int]
  have entries :
      ∀ key value, (key, value) ∈ resultEntries tools text table rows →
        get (dict (resultEntries tools text table rows)) key = value := by
    intro key value member
    exact get_dict_of_mem (by simp [resultEntries]) member
  have parsed :
      parseResult tools
          (.text (tools.jsonText (resultEntries tools text table rows))) =
        .ok (.object (dict (resultEntries tools text table rows))) := by
    rw [parseResult, tools.loads_jsonText _ plain]
  rw [parsed]
  change
    checkResult tools table
        (.object (dict (resultEntries tools text table rows))) =
      _
  have count := entries "count" (.int rows.length) (by simp [resultEntries])
  have bytes :=
    entries "bytes" (.int (tableBytes text rows)) (by simp [resultEntries])
  have name := entries "table" (.text table) (by simp [resultEntries])
  have sha256 :=
    entries "sha256" (.text (rowsDigest tools text rows))
      (by simp [resultEntries])
  simp [checkResult, count, bytes, name, sha256, refuseIf, Builtins.str,
    Json.pyEq, isSha256_rowsDigest, answerOf]

/-- A query is answered if its arguments are allowed and the server answers. -/
theorem queryDigest_eq_ok_iff
    (call : Call) (rows : List Row) (answer : Answer) :
    queryDigest tools text call rows = .ok answer ↔
      isTableName call.table = true ∧
        timeoutAllowed call.queryTimeout = true ∧
        call.fault = none ∧ answer = answerOf tools text rows := by
  have queried :
      queryDigest tools text call rows = .ok answer ↔
        isTableName call.table = true ∧
          timeoutAllowed call.queryTimeout = true ∧
          ∃ raw, fetchval tools text call rows = .ok raw ∧
            (parseResult tools raw >>= checkResult tools call.table) =
              .ok answer := by
    simp only [queryDigest, bind_eq_ok_iff, refuseIf_eq_ok_iff, exists_const,
      Bool.not_eq_false]
  rw [queried]
  simp only [fetchval_eq_ok_iff]
  constructor
  · rintro ⟨named, allowed, raw, ⟨answered, rfl⟩, checked⟩
    rw [checkResult_parseResult] at checked
    cases checked
    exact ⟨named, allowed, answered, rfl⟩
  · rintro ⟨named, allowed, answered, rfl⟩
    exact
      ⟨named, allowed, _, ⟨answered, rfl⟩, checkResult_parseResult _ rows⟩

/-- What `_table_digest` returns. -/
def digestOf (tools : Tools) (text : Row → String) (rows : List Row) :
    Digest :=
  ⟨rows.length, .text (rowsDigest tools text rows)⟩

/-- A digest is returned if the server answers within the budget. -/
theorem tableDigest_eq_ok_iff
    (call : Call) (budget : Budget) (rows : List Row) (digest : Digest) :
    (tableDigest tools text call budget rows).1 = .ok digest ↔
      isTableName call.table = true ∧
        timeoutAllowed call.queryTimeout = true ∧ call.fault = none ∧
        ¬ (budget.charge (answerOf tools text rows)).Exceeded call.seconds ∧
        digest = digestOf tools text rows := by
  have asked := @queryDigest_eq_ok_iff Row tools text call rows
  unfold tableDigest
  split
  · rename_i error queried
    simp only [queried, reduceCtorEq, false_iff, not_and] at asked
    simp only [reduceCtorEq, false_iff]
    rintro ⟨named, allowed, answered, _⟩
    exact asked _ named allowed answered rfl
  · rename_i answer queried
    rcases (asked answer).1 queried with ⟨named, allowed, answered, rfl⟩
    simp only [bind_eq_ok_iff, pure_eq_ok_iff, refuseIf_eq_ok_iff,
      exists_const, named, allowed, answered, true_and]
    exact and_congr_right fun _ => eq_comm

theorem eq_digestOf_of_tableDigest
    {call : Call} {budget : Budget} {rows : List Row} {digest : Digest}
    (returned : (tableDigest tools text call budget rows).1 = .ok digest) :
    digest = digestOf tools text rows :=
  ((tableDigest_eq_ok_iff call budget rows digest).1 returned).2.2.2.2

/-- Every table of a snapshot has its own digest. -/
theorem eq_map_of_digestTables
    {calls : String → Call} {database : String → List Row} {budget : Budget}
    {names : List String} {digests : List (String × Digest)}
    (returned :
      digestTables tools text calls database budget names = .ok digests) :
    digests =
      names.map fun name => (name, digestOf tools text (database name)) := by
  induction names generalizing budget digests with
  | nil =>
      cases returned
      rfl
  | cons name rest induction =>
      unfold digestTables at returned
      split at returned
      · cases returned
      · rename_i digest used first
        simp only [bind_eq_ok_iff, pure_eq_ok_iff] at returned
        rcases returned with ⟨others, remaining, rfl⟩
        rw [List.map_cons,
          ← eq_digestOf_of_tableDigest (congrArg Prod.fst first),
          ← induction remaining]

/-- On a server that answers, the digest of a history snapshot is this one. -/
theorem tableDigest_codePoints
    {call : Call} (budget : HistorySnapshot.Budget) (rows : List Row)
    (sorts : tools.collation = codePoints)
    (named : isTableName call.table = true)
    (allowed : timeoutAllowed call.queryTimeout = true)
    (answered : call.fault = none) :
    (tableDigest tools text call ⟨budget.rows, budget.bytes⟩ rows).1 =
      (HistorySnapshot.tableDigest tools.hash text budget call.seconds
          rows).map
        fun result => ⟨result.1.count, .text result.1.sha256⟩ := by
  have queried :
      queryDigest tools text call rows = .ok (answerOf tools text rows) :=
    (queryDigest_eq_ok_iff call rows _).2 ⟨named, allowed, answered, rfl⟩
  have digest :
      rowsDigest tools text rows = sortedDigest tools.hash text rows := by
    rw [rowsDigest, sorts, collatedDigest_codePoints]
  unfold tableDigest HistorySnapshot.tableDigest
  rw [queried]
  simp only [Budget.charge, Budget.Exceeded, answerOf, digest,
    ← Nat.cast_add, gt_iff_lt, Nat.cast_lt]
  unfold refuseIf
  split_ifs
  · rfl
  · rfl

/-! ## What a digest stands for -/

/-- The hash does not collide on what is hashed for two tables. -/
def CollisionFree
    (tools : Tools) (text : Row → String) (left right : List Row) : Prop :=
  Separates tools.hash.hex
    (collatedTexts tools.hash text tools.collation left ++
      collatedTexts tools.hash text tools.collation right)

theorem rowsDigest_eq_of_coe_eq
    (same : (left : Multiset Row) = right) :
    rowsDigest tools text left = rowsDigest tools text right :=
  collatedDigest_eq_of_perm (Multiset.coe_eq_coe.1 same)

/-- The digest alone determines the rows and their multiplicities. -/
theorem rowsDigest_eq_iff
    (injective : Function.Injective text)
    (collisionFree : CollisionFree tools text left right) :
    rowsDigest tools text left = rowsDigest tools text right ↔
      (left : Multiset Row) = right := by
  constructor
  · intro same
    have faithful : Separates text (left ++ right) :=
      fun _ _ _ _ equal => injective equal
    exact
      Multiset.coe_eq_coe.2
        (perm_of_collatedDigest_eq collisionFree faithful same)
  · exact rowsDigest_eq_of_coe_eq

theorem length_eq_of_coe_eq
    (same : (left : Multiset Row) = right) :
    left.length = right.length :=
  (Multiset.coe_eq_coe.1 same).length_eq

theorem digestOf_eq_iff
    (injective : Function.Injective text)
    (collisionFree : CollisionFree tools text left right) :
    digestOf tools text left = digestOf tools text right ↔
      (left : Multiset Row) = right := by
  rw [← rowsDigest_eq_iff injective collisionFree]
  simp only [digestOf, Digest.mk.injEq, Json.text.injEq, Int.natCast_inj]
  constructor
  · exact And.right
  · intro same
    have rows := (rowsDigest_eq_iff injective collisionFree).1 same
    exact ⟨length_eq_of_coe_eq rows, same⟩

/-- A digest with a `WHERE` stands for the rows that it keeps. -/
theorem prefixDigest_eq_iff
    (injective : Function.Injective text) (kept : Row → Bool)
    (collisionFree :
      CollisionFree tools text (left.filter kept) (right.filter kept)) :
    prefixDigest tools text kept left = prefixDigest tools text kept right ↔
      (left : Multiset Row).filter (fun row => kept row) =
        (right : Multiset Row).filter fun row => kept row := by
  rw [Multiset.filter_coe, Multiset.filter_coe]
  simp only [Bool.decide_eq_true]
  rw [← rowsDigest_eq_iff injective collisionFree]
  simp only [prefixDigest, PrefixDigest.mk.injEq]
  constructor
  · exact And.right
  · intro same
    have rows := (rowsDigest_eq_iff injective collisionFree).1 same
    exact ⟨length_eq_of_coe_eq rows, same⟩

/-- The order of the rows does not show, also where a call raises. -/
theorem tableDigest_eq_of_coe_eq
    (call : Call) (budget : Budget) (same : (left : Multiset Row) = right) :
    tableDigest tools text call budget left =
      tableDigest tools text call budget right := by
  have bytes : tableBytes text left = tableBytes text right :=
    ((Multiset.coe_eq_coe.1 same).map _).sum_eq
  have entries :
      resultEntries tools text call.table left =
        resultEntries tools text call.table right := by
    unfold resultEntries
    rw [length_eq_of_coe_eq same, bytes, rowsDigest_eq_of_coe_eq same]
  unfold tableDigest queryDigest fetchval
  rw [entries]

/-- A snapshot has the digests of its tables, and they stand for the rows. -/
theorem digestTables_eq_iff
    {leftCalls rightCalls : String → Call}
    {leftDatabase rightDatabase : String → List Row}
    {leftBudget rightBudget : Budget} {names : List String}
    {leftDigests rightDigests : List (String × Digest)}
    (injective : Function.Injective text)
    (collisionFree :
      ∀ name ∈ names,
        CollisionFree tools text (leftDatabase name) (rightDatabase name))
    (leftReturned :
      digestTables tools text leftCalls leftDatabase leftBudget names =
        .ok leftDigests)
    (rightReturned :
      digestTables tools text rightCalls rightDatabase rightBudget names =
        .ok rightDigests) :
    leftDigests = rightDigests ↔
      ∀ name ∈ names,
        (leftDatabase name : Multiset Row) = rightDatabase name := by
  rw [eq_map_of_digestTables leftReturned,
    eq_map_of_digestTables rightReturned, List.map_inj_left]
  apply forall₂_congr
  intro name member
  rw [Prod.mk.injEq, digestOf_eq_iff injective (collisionFree name member)]
  simp

/-- The preserved prefixes stand for the rows of other messages. -/
theorem preservedQueuePrefixes_eq_iff
    (injective : Function.Injective text) (messageId : Row → Option String)
    (ids : List String) (leftDatabase rightDatabase : String → List Row)
    (collisionFree :
      ∀ table ∈ queueTables,
        CollisionFree tools text
          ((leftDatabase table).filter fun row => notIn ids (messageId row))
          ((rightDatabase table).filter fun row =>
            notIn ids (messageId row))) :
    preservedQueuePrefixes tools text messageId ids leftDatabase =
        preservedQueuePrefixes tools text messageId ids rightDatabase ↔
      ∀ table ∈ queueTables,
        (leftDatabase table : Multiset Row).filter
            (fun row => notIn ids (messageId row)) =
          (rightDatabase table : Multiset Row).filter
            fun row => notIn ids (messageId row) := by
  unfold preservedQueuePrefixes
  rw [List.map_inj_left]
  apply forall₂_congr
  intro table member
  rw [Prod.mk.injEq,
    prefixDigest_eq_iff injective _ (collisionFree table member)]
  simp

end Results

/-! ## Digests and rows -/

/--
The pair of the count and the digest stands for the multiset of the rows.  It
does not depend on their order, and it is equal for two tables exactly if they
hold the same rows with the same multiplicities.  The same is true of the
prefix digests and the rows that their `WHERE` keeps, as far as the hash does
not collide on what is hashed for the two tables.
-/
theorem tableDigest_identifies_rows
    {Row : Type} (tools : Tools) (text : Row → String)
    (injective : Function.Injective text) :
    (∀ (call : Call) (budget : Budget) (left right : List Row),
      (left : Multiset Row) = right →
        tableDigest tools text call budget left =
          tableDigest tools text call budget right) ∧
    (∀ (leftCall rightCall : Call) (leftBudget rightBudget : Budget)
        (left right : List Row) (leftDigest rightDigest : Digest),
      CollisionFree tools text left right →
        (tableDigest tools text leftCall leftBudget left).1 =
            .ok leftDigest →
          (tableDigest tools text rightCall rightBudget right).1 =
              .ok rightDigest →
            (leftDigest = rightDigest ↔ (left : Multiset Row) = right)) ∧
    (∀ (kept : Row → Bool) (left right : List Row),
      CollisionFree tools text (left.filter kept) (right.filter kept) →
        (prefixDigest tools text kept left =
            prefixDigest tools text kept right ↔
          (left : Multiset Row).filter (fun row => kept row) =
            (right : Multiset Row).filter fun row => kept row)) ∧
    ∀ (messageId : Row → Option String) (ids : List String)
        (leftDatabase rightDatabase : String → List Row),
      (∀ table ∈ queueTables,
        CollisionFree tools text
          ((leftDatabase table).filter fun row => notIn ids (messageId row))
          ((rightDatabase table).filter fun row =>
            notIn ids (messageId row))) →
        (preservedQueuePrefixes tools text messageId ids leftDatabase =
            preservedQueuePrefixes tools text messageId ids rightDatabase ↔
          ∀ table ∈ queueTables,
            (leftDatabase table : Multiset Row).filter
                (fun row => notIn ids (messageId row)) =
              (rightDatabase table : Multiset Row).filter
                fun row => notIn ids (messageId row)) := by
  refine ⟨?order, ?table, ?filtered, ?preserved⟩
  case order =>
    intro call budget left right same
    exact tableDigest_eq_of_coe_eq call budget same
  case table =>
    intro leftCall rightCall leftBudget rightBudget left right leftDigest
      rightDigest collisionFree leftReturned rightReturned
    rw [eq_digestOf_of_tableDigest leftReturned,
      eq_digestOf_of_tableDigest rightReturned]
    exact digestOf_eq_iff injective collisionFree
  case filtered =>
    intro kept left right collisionFree
    exact prefixDigest_eq_iff injective kept collisionFree
  case preserved =>
    intro messageId ids leftDatabase rightDatabase collisionFree
    exact
      preservedQueuePrefixes_eq_iff injective messageId ids leftDatabase
        rightDatabase collisionFree

/-! ## A row and the same row twice -/

/-- The texts whose digest is known: a row, and the digest of that row. -/
def knownTexts : List String := ["a", hexText 1]

/-- The digests of these texts, and one digest for everything else. -/
def knownTable : List (List UInt8 × Nat) :=
  (knownTexts.map utf8).zip [1, 2]

/-- A server that writes results as `json.dumps` does. -/
def plainTools : Tools where
  sha256 := Library.HexDigest.tableDigest knownTable
  collation := codePoints
  jsonText entries :=
    String.ofList (write exponentFloats (.object (dict entries)))
  float := exponentFloats.float
  builtins := ⟨fun _ => "", fun _ => none, fun _ _ => none, id, id⟩
  loads_jsonText := by
    intro entries plain
    apply loads_write rfl
    apply wellFormed_dict
    intro entry member
    have known := plain entry member
    generalize entry.2 = value at known ⊢
    cases known with
    | text value => exact .text value
    | int value => exact .int value

/-- A call for the outbox that is answered at once. -/
def outboxCall : Call where
  table := "message_outbox"
  queryTimeout := .null
  fault := none
  seconds := 0

theorem keys_knownTable : knownTable.map Prod.fst = knownTexts.map utf8 :=
  List.map_fst_zip (by decide)

/-- Texts of other lengths are other texts. -/
theorem ne_of_length_ne
    {left right : String}
    (different : left.toList.length ≠ right.toList.length) :
    left ≠ right := by
  rintro rfl
  exact different rfl

theorem nodup_knownTable : (knownTable.map Prod.fst).Nodup := by
  have apart : "a" ≠ hexText 1 := by
    apply ne_of_length_ne
    rw [length_hexText]
    decide
  rw [keys_knownTable]
  apply List.Nodup.map utf8_injective
  simp [knownTexts, apart]

theorem hash_row : plainTools.hash.hex "a" = hexText 1 :=
  hexdigest_tableDigest nodup_knownTable List.mem_cons_self

/-- What is hashed for the row, and for the row twice. -/
theorem collatedTexts_row :
    collatedTexts plainTools.hash id codePoints ["a"] =
        [hexText 1, "a"] ∧
      collatedTexts plainTools.hash id codePoints ["a", "a"] =
        [hexText 1 ++ hexText 1, "a", "a"] := by
  have once : codePoints.sorted [hexText 1] = [hexText 1] :=
    rfl
  have twice :
      codePoints.sorted [hexText 1, hexText 1] = [hexText 1, hexText 1] := by
    simp [Collation.sorted, List.insertionSort]
  simp [collatedTexts, collatedHashes, hash_row, once, twice]

theorem collisionFree_row : CollisionFree plainTools id ["a"] ["a", "a"] := by
  have unknown : hexText 1 ++ hexText 1 ∉ knownTexts := by
    have length :
        (hexText 1 ++ hexText 1).toList.length = 128 := by
      rw [String.toList_append, List.length_append, length_hexText]
    simp only [knownTexts, List.mem_cons, List.not_mem_nil, or_false, not_or]
    constructor
    · apply ne_of_length_ne
      rw [length]
      decide
    · apply ne_of_length_ne
      rw [length, length_hexText]
      decide
  have texts :
      ∀ value ∈
          collatedTexts plainTools.hash id codePoints ["a"] ++
            collatedTexts plainTools.hash id codePoints ["a", "a"],
        utf8 value = utf8 (hexText 1 ++ hexText 1) ∨
          utf8 value ∈ knownTable.map Prod.fst := by
    intro value member
    rw [collatedTexts_row.1, collatedTexts_row.2] at member
    rw [keys_knownTable]
    simp only [List.cons_append, List.nil_append, List.mem_cons,
      List.not_mem_nil, or_false] at member
    rcases member with rfl | rfl | rfl | rfl | rfl
    · simp [knownTexts]
    · simp [knownTexts]
    · simp
    · simp [knownTexts]
    · simp [knownTexts]
  intro one oneMember other otherMember same
  apply utf8_injective
  refine
    eq_of_hexdigest_tableDigest nodup_knownTable (by decide) ?_ ?_
      (texts one oneMember) (texts other otherMember) same
  · decide
  · rw [keys_knownTable]
    intro listed
    rcases List.mem_map.1 listed with ⟨text, member, equal⟩
    exact unknown (utf8_injective equal ▸ member)

/--
Two rows have one digest in either order; a row has another digest than the
same row twice, also where a third row is excluded.
-/
theorem tableDigest_identifies_rows_twice :
    tableDigest plainTools id outboxCall ⟨0, 0⟩ ["a", "b"] =
        tableDigest plainTools id outboxCall ⟨0, 0⟩ ["b", "a"] ∧
      (∃ once twice,
        (tableDigest plainTools id outboxCall ⟨0, 0⟩ ["a"]).1 = .ok once ∧
          (tableDigest plainTools id outboxCall ⟨0, 0⟩ ["a", "a"]).1 =
            .ok twice ∧
          once ≠ twice) ∧
      prefixDigest plainTools id (fun row => notIn ["b"] (some row))
          ["b", "a"] ≠
        prefixDigest plainTools id (fun row => notIn ["b"] (some row))
          ["a", "b", "a"] ∧
      preservedQueuePrefixes plainTools id some ["b"] (fun _ => ["b", "a"]) ≠
        preservedQueuePrefixes plainTools id some ["b"]
          fun _ => ["a", "b", "a"] := by
  have identifies :=
    tableDigest_identifies_rows plainTools id Function.injective_id
  have returned :
      ∀ rows : List String, rows.length ≤ 2 → tableBytes id rows ≤ 2 →
        (tableDigest plainTools id outboxCall ⟨0, 0⟩ rows).1 =
          .ok (digestOf plainTools id rows) := by
    intro rows few small
    rw [tableDigest_eq_ok_iff]
    refine ⟨by decide, rfl, rfl, ?_, rfl⟩
    simp [Budget.charge, Budget.Exceeded, answerOf, outboxCall, maxRows,
      maxBytes, maxSeconds]
    omega
  have once := returned ["a"] (by decide) (by decide)
  have twice := returned ["a", "a"] (by decide) (by decide)
  refine ⟨?order, ⟨_, _, once, twice, ?apart⟩, ?filtered, ?preserved⟩
  case order =>
    exact identifies.1 outboxCall ⟨0, 0⟩ ["a", "b"] ["b", "a"] (by decide)
  case apart =>
    intro same
    have rows :=
      (identifies.2.1 outboxCall outboxCall ⟨0, 0⟩ ⟨0, 0⟩ ["a"] ["a", "a"] _ _
        collisionFree_row once twice).1 same
    revert rows
    decide
  case filtered =>
    intro same
    have rows :=
      (identifies.2.2.1 (fun row => notIn ["b"] (some row)) ["b", "a"]
        ["a", "b", "a"] collisionFree_row).1 same
    revert rows
    decide
  case preserved =>
    intro same
    have rows :=
      (identifies.2.2.2 some ["b"] (fun _ => ["b", "a"])
        (fun _ => ["a", "b", "a"]) fun _ _ => collisionFree_row).1 same
        "message_outbox" List.mem_cons_self
    revert rows
    decide

end KairosDeploy.Primary.TableDigest
