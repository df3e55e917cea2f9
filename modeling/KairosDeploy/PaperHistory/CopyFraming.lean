import KairosDeploy.PaperHistory.OrderedText

/-!
# The framing of an ordered text column

Which bytes the decoder of the history stream accepts, and with what result.
The text of binary COPY for some rows is written down on its own; the decoder
accepts it, nothing else, and counts and hashes the rows as the cursor of the
snapshot worker does.
-/

namespace KairosDeploy.PaperHistory.CopyFraming

open KairosDeploy.Library.HexDigest (utf8)
open KairosDeploy.Library.Refusal
open KairosDeploy.Library.TextBytes
open KairosDeploy.PaperHistory.OrderedText

/-! ## The text of COPY -/

/-- One row: one field, its length, its bytes. -/
def copyRow (row : String) : Bytes :=
  toBytes 2 1 ++ toBytes 4 (utf8 row).length ++ utf8 row

/-- The two bytes of `-1`. -/
def trailer : Bytes := [255, 255]

/-- The binary COPY of some rows. -/
def copyText (rows : List String) : Bytes :=
  header ++ (rows.flatMap copyRow ++ trailer)

/-- The totals after some rows are within the bounds. -/
def Admits (budget : Budget) (rows : List String) : Prop :=
  rows = [] ∨
    (budget.bytes + (rows.flatMap utf8).length ≤ maxTotalBytes ∧
      budget.rows + rows.length ≤ maxTotalRows)

/-- What a digest of some rows returns. -/
def rowDigest (sha256 : Bytes → String) (rows : List String) : RowDigest :=
  ⟨rows.length, sha256 (rows.flatMap fun row => hashedRow (utf8 row))⟩

/-! ## One row -/

/-- The budget after a row. -/
def spend (budget : Budget) (row : String) : Budget :=
  ⟨budget.bytes + (utf8 row).length, budget.rows + 1⟩

/-- The budget takes a row. -/
structure Affords (budget : Budget) (row : String) : Prop where
  small : (utf8 row).length ≤ maxRowBytes
  bytes : budget.bytes + (utf8 row).length ≤ maxTotalBytes
  rows : budget.rows + 1 ≤ maxTotalRows

theorem add_eq_ok_iff
    (budget later : Budget) (row : String) (data : Bytes) :
    budget.add row = .ok (data, later) ↔
      Affords budget row ∧ data = utf8 row ∧ later = spend budget row := by
  unfold Budget.add
  dsimp only
  split
  · rename_i exceeded
    constructor
    · intro impossible
      cases impossible
    · rintro ⟨⟨small, bytes, rows⟩, _⟩
      omega
  · rename_i within
    constructor
    · intro added
      cases added
      exact ⟨⟨by omega, by omega, by omega⟩, rfl, rfl⟩
    · rintro ⟨_, rfl, rfl⟩
      rfl

/-- The decoder takes a row. -/
structure Accepts (digest : OrderedTextDigest) (row : String) : Prop where
  affords : Affords digest.budget row
  ordered : ∀ previous ∈ digest.previous, previous ≤ utf8 row

/-- The decoder after a row. -/
def takeRow (digest : OrderedTextDigest) (row : String) :
    OrderedTextDigest :=
  { digest with
      budget := spend digest.budget row
      hashed := digest.hashed ++ hashedRow (utf8 row)
      count := digest.count + 1
      previous := some (utf8 row) }.expect .fields 2 OrderedTextDigest.room_fields

theorem frameBody_eq_ok_iff
    (digest later : OrderedTextDigest) (frame : Bytes) :
    digest.frameBody frame = .ok later ↔
      ∃ row, frame = utf8 row ∧ Accepts digest row ∧
        later = takeRow digest row := by
  unfold OrderedTextDigest.frameBody
  constructor
  · intro framed
    split at framed
    · cases framed
    · rename_i row decoded
      split at framed
      · cases framed
      · rename_i data budget added
        rcases (add_eq_ok_iff _ _ _ _).1 added with ⟨affords, rfl, rfl⟩
        split at framed
        · cases framed
        · rename_i fine
          rw [not_or, not_exists] at fine
          cases framed
          refine
            ⟨row, (decode_eq_some_iff _ _).1 decoded,
              ⟨affords, fun previous member => ?_⟩, rfl⟩
          exact List.not_lt.1 fun less => fine.2 previous ⟨member, less⟩
  · rintro ⟨row, rfl, ⟨affords, ordered⟩, rfl⟩
    have added :=
      (add_eq_ok_iff digest.budget _ row _).2 ⟨affords, rfl, rfl⟩
    rw [decode_utf8]
    dsimp only
    rw [added]
    dsimp only
    rw [if_neg]
    · rfl
    · rintro (different | ⟨previous, member, less⟩)
      · exact different rfl
      · exact List.not_lt.2 (ordered previous member) less

/-! ## Frames -/

section Frames

variable {digest later : OrderedTextDigest}

/-- At the start of a frame nothing is pending. -/
theorem clear_of_pending (fresh : digest.pending = []) :
    digest.clear = digest := by
  cases digest
  cases fresh
  rfl

/-- A frame at its start. -/
theorem consume_frame
    (reading : digest.state ≠ .trailer) (fresh : digest.pending = [])
    {first rest : Bytes} (full : first.length = digest.needed) :
    digest.consume (first ++ rest) =
      digest.frame first >>= fun middle => middle.consume rest := by
  have filled : digest.pending.length + first.length = digest.needed := by
    rw [fresh, List.length_nil, full, Nat.zero_add]
  rw [OrderedTextDigest.consume_full reading filled,
    clear_of_pending fresh, fresh, List.nil_append]

/-- Bytes that lead to the trailer begin with a whole frame. -/
theorem exists_frame_of_trailer
    (reading : digest.state ≠ .trailer) (fresh : digest.pending = [])
    {bytes : Bytes} (consumed : digest.consume bytes = .ok later)
    (ended : later.state = .trailer) :
    ∃ first rest middle, bytes = first ++ rest ∧
      first.length = digest.needed ∧ digest.frame first = .ok middle ∧
      middle.consume rest = .ok later := by
  by_cases short : bytes.length < digest.needed - digest.pending.length
  · rw [OrderedTextDigest.consume_short reading short] at consumed
    cases consumed
    exact absurd ended reading
  · rcases OrderedTextDigest.exists_frame reading short with
      ⟨first, rest, rfl, full, _⟩
    rw [fresh, List.length_nil, Nat.zero_add] at full
    rw [consume_frame reading fresh full, bind_eq_ok_iff] at consumed
    rcases consumed with ⟨middle, framed, left⟩
    exact ⟨first, rest, middle, rfl, full, framed, left⟩

/-- The decoder before a row or the trailer. -/
structure AtRow (digest : OrderedTextDigest) : Prop where
  state : digest.state = .fields
  needed : digest.needed = 2
  pending : digest.pending = []

theorem atRow_expect
    (digest : OrderedTextDigest) (room : State.fields ≠ .trailer → 0 < 2) :
    AtRow (digest.expect .fields 2 room) :=
  ⟨rfl, rfl, rfl⟩

theorem atRow_takeRow (digest : OrderedTextDigest) (row : String) :
    AtRow (takeRow digest row) :=
  ⟨rfl, rfl, rfl⟩

/-- The decoder at its end. -/
def atTrailer (digest : OrderedTextDigest) : OrderedTextDigest :=
  digest.expect .trailer 0 OrderedTextDigest.room_trailer

theorem frame_fields
    (fields : digest.state = .fields) (frame : Bytes) :
    digest.frame frame = .ok later ↔
      (fromBytes frame = -1 ∧ later = atTrailer digest) ∨
        (fromBytes frame = 1 ∧
          later = digest.expect .length 4 fun _ => by decide) := by
  unfold OrderedTextDigest.frame
  rw [fields]
  dsimp only
  split
  · rename_i ended
    constructor
    · intro framed
      cases framed
      exact .inl ⟨ended, rfl⟩
    · rintro (⟨_, rfl⟩ | ⟨one, _⟩)
      · rfl
      · omega
  · rename_i notEnded
    split
    · rename_i one
      constructor
      · intro framed
        cases framed
        exact .inr ⟨one, rfl⟩
      · rintro (⟨ended, _⟩ | ⟨_, rfl⟩)
        · exact absurd ended notEnded
        · rfl
    · rename_i notOne
      constructor
      · intro impossible
        cases impossible
      · rintro (⟨ended, _⟩ | ⟨one, _⟩)
        · exact absurd ended notEnded
        · exact absurd one notOne

/-- A length and the body after it are one row. -/
theorem consume_length
    (length : digest.state = .length) (four : digest.needed = 4)
    (fresh : digest.pending = []) {row : String}
    (accepts : Accepts digest row) (rest : Bytes) :
    digest.consume (toBytes 4 (utf8 row).length ++ (utf8 row ++ rest)) =
      (takeRow digest row).consume rest := by
  have reading : digest.state ≠ .trailer := by
    rw [length]
    decide
  have small := accepts.affords.small
  have bound : maxRowBytes = 4 * 1024 * 1024 := rfl
  have value :
      fromBytes (toBytes 4 (utf8 row).length) = (utf8 row).length :=
    fromBytes_toBytes (by omega)
  have inside :
      ¬ (fromBytes (toBytes 4 (utf8 row).length) < 0 ∨
        fromBytes (toBytes 4 (utf8 row).length) > maxRowBytes) := by
    omega
  have body (later : OrderedTextDigest) (again : Accepts later row) :
      later.frameBody (utf8 row) = .ok (takeRow later row) :=
    (frameBody_eq_ok_iff later _ _).2 ⟨row, rfl, again, rfl⟩
  rw [consume_frame reading fresh (by rw [length_toBytes, four])]
  unfold OrderedTextDigest.frame
  rw [length]
  dsimp only
  rw [if_neg inside]
  by_cases empty : utf8 row = []
  · rw [dif_pos (by rw [value, empty]; rfl), empty, List.nil_append]
    have framed := body digest accepts
    rw [empty] at framed
    rw [framed]
    rfl
  · have positive := List.length_pos_of_ne_nil empty
    rw [dif_neg (by omega)]
    change OrderedTextDigest.consume _ _ = _
    rw [consume_frame (fun ended => by cases ended) rfl
      (by simp [OrderedTextDigest.expect, value])]
    have again :
        Accepts
          (digest.expect .body
            (fromBytes (toBytes 4 (utf8 row).length)).toNat
            fun _ => by omega) row :=
      ⟨accepts.affords, accepts.ordered⟩
    have framed := body _ again
    change OrderedTextDigest.frameBody _ _ >>= _ = _
    rw [framed]
    rfl

/-- Reading on at a length reads one row. -/
theorem exists_row_of_length
    (length : digest.state = .length) (four : digest.needed = 4)
    (fresh : digest.pending = []) {bytes : Bytes}
    (consumed : digest.consume bytes = .ok later)
    (ended : later.state = .trailer) :
    ∃ row rest, bytes = toBytes 4 (utf8 row).length ++ (utf8 row ++ rest) ∧
      Accepts digest row ∧ (takeRow digest row).consume rest = .ok later := by
  have reading : digest.state ≠ .trailer := by
    rw [length]
    decide
  rcases exists_frame_of_trailer reading fresh consumed ended with
    ⟨first, rest, middle, rfl, full, framed, left⟩
  unfold OrderedTextDigest.frame at framed
  rw [length] at framed
  dsimp only at framed
  split at framed
  · cases framed
  · rename_i inside
    have number :
        fromBytes first = ((fromBytes first).toNat : Int) := by
      omega
    have encoded := eq_toBytes_of_fromBytes number
    rw [full, four] at encoded
    split at framed
    · rename_i empty
      rcases (frameBody_eq_ok_iff _ _ _).1 framed with
        ⟨row, nothing, accepts, rfl⟩
      refine ⟨row, rest, ?_, accepts, left⟩
      rw [encoded, empty, ← nothing]
      rfl
    · rename_i positive
      cases framed
      rcases
        exists_frame_of_trailer (fun trailing => by cases trailing) rfl left
          ended with
        ⟨body, others, last, rfl, filled, bodyFramed, rest⟩
      change OrderedTextDigest.frameBody _ _ = _ at bodyFramed
      rcases (frameBody_eq_ok_iff _ _ _).1 bodyFramed with
        ⟨row, rfl, accepts, rfl⟩
      refine
        ⟨row, others, ?_, ⟨accepts.affords, accepts.ordered⟩, rest⟩
      have size : (utf8 row).length = (fromBytes first).toNat := filled
      rw [size, ← encoded]

/-- One row is taken at a row. -/
theorem consume_copyRow
    (atRow : AtRow digest) {row : String} (accepts : Accepts digest row)
    (rest : Bytes) :
    digest.consume (copyRow row ++ rest) =
      (takeRow digest row).consume rest := by
  have reading : digest.state ≠ .trailer := by
    rw [atRow.state]
    decide
  have framed :=
    (frame_fields atRow.state (toBytes 2 1)).2 (.inr ⟨by decide, rfl⟩)
  rw [copyRow, List.append_assoc, List.append_assoc,
    consume_frame reading atRow.pending (by rw [atRow.needed]; decide),
    framed]
  exact
    @consume_length (digest.expect .length 4 fun _ => by decide) rfl rfl rfl
      row ⟨accepts.affords, accepts.ordered⟩ rest

/-- The trailer ends the rows. -/
theorem consume_copyTrailer (atRow : AtRow digest) :
    digest.consume trailer = .ok (atTrailer digest) := by
  have reading : digest.state ≠ .trailer := by
    rw [atRow.state]
    decide
  have framed :=
    (frame_fields atRow.state trailer).2 (.inl ⟨by decide, rfl⟩)
  have read :
      digest.consume (trailer ++ []) =
        digest.frame trailer >>= fun middle => middle.consume [] :=
    consume_frame reading atRow.pending (by rw [atRow.needed]; decide)
  rw [List.append_nil, framed] at read
  rw [read]
  exact OrderedTextDigest.consume_nil _

/-- Two bytes of `-1` are the trailer. -/
theorem eq_trailer
    {frame : Bytes} (two : frame.length = 2)
    (minusOne : fromBytes frame = -1) : frame = trailer := by
  have encoded := toBytes_bigEndian frame
  have value : bigEndian frame = 65535 := by
    unfold fromBytes at minusOne
    rw [two] at minusOne
    split at minusOne <;> omega
  rw [two, value] at encoded
  exact encoded.symm

/-- Reading on at a row reads a row or the trailer. -/
theorem exists_of_atRow
    (atRow : AtRow digest) {bytes : Bytes}
    (consumed : digest.consume bytes = .ok later)
    (ended : later.state = .trailer) :
    (bytes = trailer ∧ later = atTrailer digest) ∨
      ∃ row rest, bytes = copyRow row ++ rest ∧ Accepts digest row ∧
        (takeRow digest row).consume rest = .ok later := by
  have reading : digest.state ≠ .trailer := by
    rw [atRow.state]
    decide
  rcases exists_frame_of_trailer reading atRow.pending consumed ended with
    ⟨first, rest, middle, rfl, full, framed, left⟩
  rw [atRow.needed] at full
  rcases (frame_fields atRow.state first).1 framed with
    ⟨minusOne, rfl⟩ | ⟨one, rfl⟩
  · left
    have encoded := eq_trailer full minusOne
    have none_left : rest = [] := by
      by_contra more
      rw [OrderedTextDigest.consume_trailer rfl more] at left
      cases left
    subst none_left
    rw [OrderedTextDigest.consume_nil] at left
    cases left
    exact ⟨by rw [encoded, List.append_nil], rfl⟩
  · right
    rcases exists_row_of_length rfl rfl rfl left ended with
      ⟨row, others, rfl, accepts, remaining⟩
    refine
      ⟨row, others, ?_, ⟨accepts.affords, accepts.ordered⟩, remaining⟩
    have encoded :=
      @eq_toBytes_of_fromBytes first 1 (by rw [one]; rfl)
    rw [full] at encoded
    rw [encoded, copyRow, List.append_assoc, List.append_assoc]

end Frames

/-! ## All rows -/

/-- The decoder after some rows. -/
def takeRows (digest : OrderedTextDigest) (rows : List String) :
    OrderedTextDigest :=
  rows.foldl takeRow digest

/-- The decoder takes some rows, one after the other. -/
def Takes : OrderedTextDigest → List String → Prop
  | _, [] => True
  | digest, row :: rows =>
      Accepts digest row ∧ Takes (takeRow digest row) rows

/-- Rows are read to their trailer, and nothing else is. -/
theorem consume_rows_iff
    {digest : OrderedTextDigest} (atRow : AtRow digest) (bytes : Bytes)
    (later : OrderedTextDigest) :
    digest.consume bytes = .ok later ∧ later.state = .trailer ↔
      ∃ rows, bytes = rows.flatMap copyRow ++ trailer ∧ Takes digest rows ∧
        later = atTrailer (takeRows digest rows) := by
  constructor
  · rintro ⟨consumed, ended⟩
    induction length : bytes.length using Nat.strong_induction_on
      generalizing digest bytes with
    | _ length induction =>
        subst length
        rcases exists_of_atRow atRow consumed ended with
          ⟨rfl, rfl⟩ | ⟨row, rest, rfl, accepts, left⟩
        · exact ⟨[], rfl, trivial, rfl⟩
        · have shorter : rest.length < (copyRow row ++ rest).length := by
            simp only [copyRow, List.length_append, length_toBytes]
            omega
          rcases
            induction _ shorter (atRow_takeRow digest row) rest left rfl with
            ⟨rows, rfl, takes, rfl⟩
          refine ⟨row :: rows, ?_, ⟨accepts, takes⟩, rfl⟩
          rw [List.flatMap_cons, List.append_assoc]
  · rintro ⟨rows, rfl, takes, rfl⟩
    refine ⟨?_, rfl⟩
    induction rows generalizing digest with
    | nil => exact consume_copyTrailer atRow
    | cons row rows induction =>
        rw [List.flatMap_cons, List.append_assoc,
          consume_copyRow atRow takes.1]
        exact induction (atRow_takeRow digest row) takes.2

/-- The decoder after the header. -/
def started (budget : Budget) : OrderedTextDigest :=
  (OrderedTextDigest.init budget).expect .fields 2 OrderedTextDigest.room_fields

/-- The whole text is read to its end, and nothing else is. -/
theorem consume_init_iff
    (budget : Budget) (bytes : Bytes) (later : OrderedTextDigest) :
    (OrderedTextDigest.init budget).consume bytes = .ok later ∧
        later.state = .trailer ↔
      ∃ rows, bytes = copyText rows ∧
        Takes (started budget) rows ∧
        later = atTrailer (takeRows (started budget) rows) := by
  have framed (first : Bytes) :
      (OrderedTextDigest.init budget).frame first =
        if first ≠ header then
          (OrderedTextDigest.init budget).reject
        else
          .ok (started budget) :=
    rfl
  have reading : (OrderedTextDigest.init budget).state ≠ .trailer :=
    fun trailing => by cases trailing
  constructor
  · rintro ⟨consumed, ended⟩
    rcases exists_frame_of_trailer reading rfl consumed ended with
      ⟨first, rest, middle, rfl, full, headed, left⟩
    rw [framed] at headed
    split at headed
    · cases headed
    · rename_i same
      cases headed
      rcases (consume_rows_iff (atRow_expect _ _) rest later).1 ⟨left, ended⟩
        with ⟨rows, rfl, takes, equal⟩
      exact ⟨rows, by rw [copyText, not_not.1 same], takes, equal⟩
  · rintro ⟨rows, rfl, takes, equal⟩
    rw [copyText, consume_frame reading rfl rfl, framed, if_neg (by simp)]
    exact
      (consume_rows_iff (atRow_expect _ _) _ later).2
        ⟨rows, rfl, takes, equal⟩

/-! ## What the rows amount to -/

theorem takeRows_count (digest : OrderedTextDigest) (rows : List String) :
    (takeRows digest rows).count = digest.count + rows.length := by
  induction rows generalizing digest with
  | nil => rfl
  | cons row rows induction =>
      rw [takeRows, List.foldl_cons, ← takeRows, induction,
        List.length_cons]
      simp only [takeRow, OrderedTextDigest.expect]
      omega

theorem takeRows_hashed (digest : OrderedTextDigest) (rows : List String) :
    (takeRows digest rows).hashed =
      digest.hashed ++ rows.flatMap fun row => hashedRow (utf8 row) := by
  induction rows generalizing digest with
  | nil => exact (List.append_nil _).symm
  | cons row rows induction =>
      rw [takeRows, List.foldl_cons, ← takeRows, induction,
        List.flatMap_cons, ← List.append_assoc]
      rfl

/-- What is digested at the end. -/
theorem atTrailer_started
    (sha256 : Bytes → String) (budget : Budget) (rows : List String) :
    (atTrailer (takeRows (started budget) rows)).count = rows.length ∧
      (⟨(atTrailer (takeRows (started budget) rows)).count,
          sha256 (atTrailer (takeRows (started budget) rows)).hashed⟩ :
        RowDigest) = rowDigest sha256 rows := by
  have count := takeRows_count (started budget) rows
  have hashed := takeRows_hashed (started budget) rows
  have none_counted : (started budget).count = 0 := rfl
  have none_hashed : (started budget).hashed = [] := rfl
  rw [none_counted, Nat.zero_add] at count
  rw [none_hashed, List.nil_append] at hashed
  constructor
  · exact count
  · rw [rowDigest, ← hashed, ← count]
    rfl

theorem admits_cons (budget : Budget) (row : String) (rows : List String) :
    Admits budget (row :: rows) ↔
      (budget.bytes + (utf8 row).length ≤ maxTotalBytes ∧
        budget.rows + 1 ≤ maxTotalRows) ∧
      Admits (spend budget row) rows := by
  simp only [Admits, spend, List.flatMap_cons, List.length_append,
    List.length_cons, reduceCtorEq, false_or]
  constructor
  · rintro ⟨bytes, count⟩
    exact ⟨⟨by omega, by omega⟩, .inr ⟨by omega, by omega⟩⟩
  · rintro ⟨⟨bytes, count⟩, rfl | ⟨allBytes, allRows⟩⟩
    · exact ⟨by simpa using bytes, by simpa using count⟩
    · exact ⟨by omega, by omega⟩

theorem isChain_previous
    (previous : Option Bytes) (data : Bytes) (rest : List Bytes) :
    (previous.toList ++ data :: rest).IsChain (· ≤ ·) ↔
      (∀ last ∈ previous, last ≤ data) ∧
        (data :: rest).IsChain (· ≤ ·) := by
  cases previous with
  | none => simp
  | some last => simp [List.isChain_cons_cons]

/-- Rows are taken if they are small, in order and within the totals. -/
theorem takes_iff (digest : OrderedTextDigest) (rows : List String) :
    Takes digest rows ↔
      (∀ row ∈ rows, (utf8 row).length ≤ maxRowBytes) ∧
        (digest.previous.toList ++ rows.map utf8).IsChain (· ≤ ·) ∧
        Admits digest.budget rows := by
  induction rows generalizing digest with
  | nil =>
      cases digest.previous <;> simp [Takes, Admits]
  | cons row rows induction =>
      have later := induction (takeRow digest row)
      simp only [takeRow, OrderedTextDigest.expect, Option.toList_some,
        List.singleton_append] at later
      rw [Takes, takeRow, OrderedTextDigest.expect, later, List.map_cons,
        isChain_previous, admits_cons, List.forall_mem_cons]
      constructor
      · rintro ⟨⟨⟨small, bytes, count⟩, ordered⟩, others, chain, admits⟩
        exact ⟨⟨small, others⟩, ⟨ordered, chain⟩, ⟨bytes, count⟩, admits⟩
      · rintro ⟨⟨small, others⟩, ⟨ordered, chain⟩, ⟨bytes, count⟩, admits⟩
        exact ⟨⟨⟨small, bytes, count⟩, ordered⟩, others, chain, admits⟩

/-! ## The cursor -/

theorem tableDigestFrom_admitted
    (sha256 : Bytes → String) {hashed : Bytes} {count : Nat}
    {budget : Budget} {rows : List String}
    (small : ∀ row ∈ rows, (utf8 row).length ≤ maxRowBytes)
    (admits : Admits budget rows) :
    tableDigestFrom sha256 hashed count budget rows =
      .ok
        (⟨count + rows.length,
            sha256
              (hashed ++ rows.flatMap fun row => hashedRow (utf8 row))⟩,
          rows.foldl spend budget) := by
  induction rows generalizing hashed count budget with
  | nil =>
      rw [List.flatMap_nil, List.append_nil]
      rfl
  | cons row rows induction =>
      rw [List.forall_mem_cons] at small
      rw [admits_cons] at admits
      have added :=
        (add_eq_ok_iff budget _ row _).2
          ⟨⟨small.1, admits.1.1, admits.1.2⟩, rfl, rfl⟩
      rw [tableDigestFrom, added]
      change tableDigestFrom sha256 _ _ _ rows = _
      rw [induction small.2 admits.2, List.length_cons, List.flatMap_cons,
        List.append_assoc, List.foldl_cons, Nat.add_assoc,
        Nat.add_comm 1 rows.length]

/-- The cursor of the snapshot worker digests the same rows. -/
theorem tableDigest_admitted
    (sha256 : Bytes → String) {budget : Budget} {rows : List String}
    (small : ∀ row ∈ rows, (utf8 row).length ≤ maxRowBytes)
    (admits : Admits budget rows) :
    tableDigest sha256 budget rows =
      .ok (rowDigest sha256 rows, rows.foldl spend budget) := by
  rw [tableDigest, tableDigestFrom_admitted sha256 small admits,
    Nat.zero_add, List.nil_append]
  rfl

/-! ## Incremental decoding -/

/-- Rows that COPY can send within the bounds. -/
structure Copied (budget : Budget) (rows : List String) : Prop where
  small : ∀ row ∈ rows, (utf8 row).length ≤ maxRowBytes
  ordered : (rows.map utf8).IsChain (· ≤ ·)
  admitted : Admits budget rows

theorem finish_eq_ok_iff
    (sha256 : Bytes → String) {digest : OrderedTextDigest}
    (live : OrderedTextDigest.Live digest) (commandStatus : String)
    (result : RowDigest) (later : OrderedTextDigest) :
    digest.finish sha256 commandStatus = .ok (result, later) ↔
      digest.state = .trailer ∧ digest.pending = [] ∧
        commandStatus = "COPY " ++ toString digest.count ∧
        result = ⟨digest.count, sha256 digest.hashed⟩ ∧
        later = { digest with sealed := true } := by
  unfold OrderedTextDigest.finish
  simp only [live.failed, live.sealed, Bool.false_eq_true, false_or]
  split
  · rename_i refused
    constructor
    · intro impossible
      cases impossible
    · rintro ⟨ended, fresh, status, _⟩
      rcases refused with open_ | pending | other
      · exact absurd ended open_
      · exact absurd fresh pending
      · exact absurd status other
  · rename_i accepted
    simp only [not_or, not_not] at accepted
    constructor
    · intro finished
      cases finished
      exact ⟨accepted.1, accepted.2.1, accepted.2.2, rfl, rfl⟩
    · rintro ⟨_, _, _, rfl, rfl⟩
      rfl

/-- Chunks are accepted if together they are the text of some rows. -/
theorem finish_writeAll_iff
    (sha256 : Bytes → String) (budget : Budget) {chunks : List Chunk}
    (legal : ∀ chunk ∈ chunks, chunk.Legal) (commandStatus : String)
    (result : RowDigest) :
    (∃ digest later,
        (OrderedTextDigest.init budget).writeAll chunks = .ok digest ∧
          digest.finish sha256 commandStatus = .ok (result, later)) ↔
      ∃ rows, chunks.flatMap Chunk.value = copyText rows ∧
        Copied budget rows ∧
        commandStatus = "COPY " ++ toString rows.length ∧
        result = rowDigest sha256 rows := by
  have live : OrderedTextDigest.Live (OrderedTextDigest.init budget) :=
    ⟨rfl, rfl⟩
  rw [OrderedTextDigest.writeAll_live live legal]
  have left :=
    OrderedTextDigest.leaves_consume (OrderedTextDigest.init budget)
      (chunks.flatMap Chunk.value)
  constructor
  · rintro ⟨digest, later, consumed, finished⟩
    rw [consumed] at left
    cases left with
    | returned failed sealed =>
        rcases
          (finish_eq_ok_iff sha256 ⟨failed, sealed⟩ commandStatus result
            later).1 finished with ⟨ended, _, status, equal, _⟩
        rcases (consume_init_iff budget _ digest).1 ⟨consumed, ended⟩ with
          ⟨rows, bytes, takes, rfl⟩
        have copied := (takes_iff _ rows).1 takes
        have digested := atTrailer_started sha256 budget rows
        exact
          ⟨rows, bytes, ⟨copied.1, copied.2.1, copied.2.2⟩,
            by rw [status, digested.1], equal.trans digested.2⟩
  · rintro ⟨rows, bytes, copied, rfl, rfl⟩
    have takes :=
      (takes_iff (started budget) rows).2
        ⟨copied.small, copied.ordered, copied.admitted⟩
    rcases (consume_init_iff budget _ _).2 ⟨rows, bytes, takes, rfl⟩ with
      ⟨consumed, ended⟩
    rw [consumed] at left
    cases left with
    | returned failed sealed =>
        rcases atTrailer_started sha256 budget rows with ⟨count, equal⟩
        exact
          ⟨_, _, consumed,
            (finish_eq_ok_iff sha256 ⟨failed, sealed⟩ _ _ _).2
              ⟨ended, rfl, by rw [count], equal.symm, rfl⟩⟩

/--
Incremental decoding is one-shot decoding.  However the bytes are cut into
chunks, they are accepted exactly if they are the binary COPY of rows that
are small, in order and within the budget, and the status counts them; the
result is that of the cursor for these rows; and once a call has raised or
`finish` has returned, every later call raises.
-/
theorem orderedText_incremental
    (sha256 : Bytes → String) (budget : Budget) :
    (∀ (chunks : List Chunk) (commandStatus : String) (result : RowDigest),
      (∀ chunk ∈ chunks, chunk.Legal) →
      ((∃ digest later,
          (OrderedTextDigest.init budget).writeAll chunks = .ok digest ∧
            digest.finish sha256 commandStatus = .ok (result, later)) ↔
        ∃ rows, chunks.flatMap Chunk.value = copyText rows ∧
          Copied budget rows ∧
          commandStatus = "COPY " ++ toString rows.length ∧
          result = rowDigest sha256 rows)) ∧
    (∀ rows, Copied budget rows →
      ∃ spent,
        tableDigest sha256 budget rows =
          .ok (rowDigest sha256 rows, spent)) ∧
    (∀ (before later : List OrderedTextDigest.Request)
        (request last : OrderedTextDigest.Request),
      (∀ following,
        OrderedTextDigest.perform sha256
            (OrderedTextDigest.run sha256 (OrderedTextDigest.init budget)
              before)
            request ≠
          .ok (none, following)) →
      ∃ rejected,
        OrderedTextDigest.perform sha256
            (OrderedTextDigest.run sha256 (OrderedTextDigest.init budget)
              (before ++ request :: later))
            last =
          .error rejected) := by
  refine ⟨fun chunks commandStatus result legal => ?_,
    fun rows copied => ?_, fun before later request last closes => ?_⟩
  · exact finish_writeAll_iff sha256 budget legal commandStatus result
  · exact ⟨_, tableDigest_admitted sha256 copied.small copied.admitted⟩
  · exact
      OrderedTextDigest.perform_run_closed sha256 _ before later request last
        closes

end KairosDeploy.PaperHistory.CopyFraming
