import KairosDeploy.Library.Refusal
import KairosDeploy.Library.TextBytes

/-!
# The digest of an ordered text column

The binary COPY decoder of the history stream is fed chunk by chunk and keeps
the incomplete frame between two calls.  Feeding it chunks is feeding it their
concatenation: where the chunks are cut does not show.
-/

namespace KairosDeploy.PaperHistory.OrderedText

open KairosDeploy.Library.HexDigest (utf8)
open KairosDeploy.Library.Refusal
open KairosDeploy.Library.TextBytes

abbrev Bytes := List UInt8

/-! ## Numbers -/

/-- The value of bytes, the most significant first. -/
def bigEndian (bytes : Bytes) : Nat :=
  bytes.foldl (fun number byte => number * 256 + byte.toNat) 0

/-- `int.from_bytes(frame, "big", signed=True)`. -/
def fromBytes (frame : Bytes) : Int :=
  if 2 * bigEndian frame < 256 ^ frame.length then
    bigEndian frame
  else
    (bigEndian frame : Int) - 256 ^ frame.length

/-- `number.to_bytes(width, "big")`. -/
def toBytes : Nat → Nat → Bytes
  | 0, _ => []
  | width + 1, number =>
      toBytes width (number / 256) ++ [UInt8.ofNat (number % 256)]

@[simp]
theorem length_toBytes (width number : Nat) :
    (toBytes width number).length = width := by
  induction width generalizing number with
  | zero => rfl
  | succ width induction =>
      rw [toBytes, List.length_append, induction, List.length_singleton]

theorem bigEndian_append (bytes : Bytes) (byte : UInt8) :
    bigEndian (bytes ++ [byte]) = bigEndian bytes * 256 + byte.toNat := by
  rw [bigEndian, List.foldl_append]
  rfl

theorem bigEndian_toBytes
    {width number : Nat} (small : number < 256 ^ width) :
    bigEndian (toBytes width number) = number := by
  induction width generalizing number with
  | zero =>
      rw [pow_zero, Nat.lt_one_iff] at small
      rw [small]
      rfl
  | succ width induction =>
      have high : number / 256 < 256 ^ width := by
        rw [Nat.div_lt_iff_lt_mul (by decide), ← pow_succ]
        exact small
      have low : (UInt8.ofNat (number % 256)).toNat = number % 256 := by
        simp
      rw [toBytes, bigEndian_append, induction high, low]
      omega

/-- Bytes are determined by their value and their number. -/
theorem toBytes_bigEndian (bytes : Bytes) :
    toBytes bytes.length (bigEndian bytes) = bytes := by
  induction bytes using List.reverseRecOn with
  | nil => rfl
  | append_singleton bytes byte induction =>
      have small := byte.toNat_lt
      have high :
          (bigEndian bytes * 256 + byte.toNat) / 256 = bigEndian bytes := by
        omega
      have low :
          (bigEndian bytes * 256 + byte.toNat) % 256 = byte.toNat := by
        omega
      rw [List.length_append, List.length_singleton, toBytes,
        bigEndian_append, high, low, induction, UInt8.ofNat_toNat]

/-- Small numbers are read back. -/
theorem fromBytes_toBytes
    {width number : Nat} (small : 2 * number < 256 ^ width) :
    fromBytes (toBytes width number) = number := by
  rw [fromBytes, length_toBytes, bigEndian_toBytes (by omega),
    if_pos small]

theorem bigEndian_lt (bytes : Bytes) :
    bigEndian bytes < 256 ^ bytes.length := by
  induction bytes using List.reverseRecOn with
  | nil => decide
  | append_singleton bytes byte induction =>
      have small := byte.toNat_lt
      rw [bigEndian_append, List.length_append, List.length_singleton,
        pow_succ]
      omega

/-- Bytes of a number that is not negative. -/
theorem eq_toBytes_of_fromBytes
    {frame : Bytes} {number : Nat} (value : fromBytes frame = number) :
    frame = toBytes frame.length number := by
  have bound := bigEndian_lt frame
  unfold fromBytes at value
  split at value
  · have same : bigEndian frame = number := by exact_mod_cast value
    rw [← same, toBytes_bigEndian]
  · have cast :
        ((256 ^ frame.length : Nat) : Int) = 256 ^ frame.length := by
      push_cast
      rfl
    omega

/-! ## The budget -/

/-- `HEADER`. -/
def header : Bytes :=
  [80, 71, 67, 79, 80, 89, 10, 255, 13, 10, 0] ++ List.replicate 8 0

/-- `MAX_CHUNK_BYTES`. -/
def maxChunkBytes : Nat := 8 * 1024 * 1024

/-- `MAX_ROW_BYTES`. -/
def maxRowBytes : Nat := 4 * 1024 * 1024

/-- `MAX_TOTAL_BYTES`. -/
def maxTotalBytes : Nat := 1024 * 1024 * 1024

/-- `MAX_TOTAL_ROWS`. -/
def maxTotalRows : Nat := 2000000

/-- `Budget`, before its deadline. -/
structure Budget where
  bytes : Nat
  rows : Nat
deriving DecidableEq, Repr

/-- `Budget.add`; the budget counts also when it raises. -/
def Budget.add (budget : Budget) (raw : String) :
    Except Budget (Bytes × Budget) :=
  let data := utf8 raw
  let later : Budget := ⟨budget.bytes + data.length, budget.rows + 1⟩
  if data.length > maxRowBytes ∨ later.bytes > maxTotalBytes ∨
      later.rows > maxTotalRows then
    .error later
  else
    .ok (data, later)

/-- What a digest returns. -/
structure RowDigest where
  count : Nat
  rowDigestSha256 : String
deriving DecidableEq, Repr

/-- What the hash is fed for a row. -/
def hashedRow (data : Bytes) : Bytes :=
  toBytes 8 data.length ++ data

/-! ## The decoder -/

/-- The frame that is expected. -/
inductive State
  | header
  | fields
  | length
  | body
  | trailer
deriving DecidableEq, Repr

/-- A chunk that is offered to `write`. -/
inductive Chunk
  | bytes (value : Bytes)
  | bytearray (value : Bytes)
  | foreign
deriving DecidableEq, Repr

/-- The bytes of a chunk. -/
def Chunk.value : Chunk → Bytes
  | .bytes value => value
  | .bytearray value => value
  | .foreign => []

/-- Bytes of a legal number. -/
def Chunk.Legal (chunk : Chunk) : Prop :=
  chunk ≠ .foreign ∧ chunk.value.length ≤ maxChunkBytes

instance (chunk : Chunk) : Decidable chunk.Legal :=
  inferInstanceAs (Decidable (_ ∧ _))

/-- `OrderedTextDigest`; `hashed` is what its hash has been fed. -/
structure OrderedTextDigest where
  budget : Budget
  hashed : Bytes
  count : Nat
  previous : Option Bytes
  pending : Bytes
  state : State
  needed : Nat
  failed : Bool
  sealed : Bool
  room : state ≠ .trailer → pending.length < needed

namespace OrderedTextDigest

/-- `__init__`. -/
def init (budget : Budget) : OrderedTextDigest where
  budget := budget
  hashed := []
  count := 0
  previous := none
  pending := []
  state := .header
  needed := header.length
  failed := false
  sealed := false
  room := fun _ => by decide

/-- `_reject`: what raises leaves the object. -/
def reject {Value : Type} (digest : OrderedTextDigest) :
    Except OrderedTextDigest Value :=
  .error { digest with failed := true }

/-- The object at the start of a frame. -/
def expect
    (digest : OrderedTextDigest) (state : State) (needed : Nat)
    (room : state ≠ .trailer → 0 < needed) : OrderedTextDigest :=
  { digest with
    pending := []
    state := state
    needed := needed
    room := room }

theorem room_fields : State.fields ≠ .trailer → 0 < 2 :=
  fun _ => by decide

theorem room_trailer : State.trailer ≠ .trailer → 0 < 0 :=
  fun ended => absurd rfl ended

/-- `_frame` in the state `body`. -/
def frameBody (digest : OrderedTextDigest) (frame : Bytes) :
    Except OrderedTextDigest OrderedTextDigest :=
  match decode frame with
  | none => digest.reject
  | some text =>
      match digest.budget.add text with
      | .error budget => { digest with budget := budget }.reject
      | .ok (data, budget) =>
          if data ≠ frame ∨ ∃ previous ∈ digest.previous, data < previous then
            { digest with budget := budget }.reject
          else
            .ok
              ({ digest with
                  budget := budget
                  hashed := digest.hashed ++ hashedRow data
                  count := digest.count + 1
                  previous := some data }.expect .fields 2
                fun _ => by decide)

/-- `_frame`; a body of no bytes is framed at once. -/
def frame (digest : OrderedTextDigest) (frame : Bytes) :
    Except OrderedTextDigest OrderedTextDigest :=
  match digest.state with
  | .header =>
      if frame ≠ header then
        digest.reject
      else
        .ok (digest.expect .fields 2 fun _ => by decide)
  | .fields =>
      if fromBytes frame = -1 then
        .ok (digest.expect .trailer 0 fun ended => absurd rfl ended)
      else if fromBytes frame = 1 then
        .ok (digest.expect .length 4 fun _ => by decide)
      else
        digest.reject
  | .length =>
      if fromBytes frame < 0 ∨ fromBytes frame > maxRowBytes then
        digest.reject
      else if empty : (fromBytes frame).toNat = 0 then
        digest.frameBody []
      else
        .ok
          (digest.expect .body (fromBytes frame).toNat
            fun _ => Nat.pos_of_ne_zero empty)
  | .body => digest.frameBody frame
  | .trailer => digest.reject

/-- A frame is taken out. -/
def clear (digest : OrderedTextDigest) : OrderedTextDigest :=
  { digest with
    pending := []
    room := fun reading => Nat.zero_lt_of_lt (digest.room reading) }

/-- Bytes that do not fill a frame are kept. -/
def keep
    (digest : OrderedTextDigest) (bytes : Bytes)
    (short : bytes.length < digest.needed - digest.pending.length) :
    OrderedTextDigest :=
  { digest with
    pending := digest.pending ++ bytes
    room := fun _ => by
      rw [List.length_append]
      omega }

/-- The loop of `write`. -/
def consume (digest : OrderedTextDigest) (view : Bytes) :
    Except OrderedTextDigest OrderedTextDigest :=
  if ended : view = [] then
    .ok digest
  else if trailing : digest.state = .trailer then
    digest.reject
  else
    let take := min (digest.needed - digest.pending.length) view.length
    if full : digest.pending.length + take = digest.needed then
      match digest.clear.frame (digest.pending ++ view.take take) with
      | .error rejected => .error rejected
      | .ok later => consume later (view.drop take)
    else
      consume
        (digest.keep (view.take take) (by
          have := digest.room trailing
          rw [List.length_take]
          omega))
        (view.drop take)
termination_by view.length
decreasing_by
  all_goals
    have := digest.room trailing
    have := List.length_pos_of_ne_nil ended
    rw [List.length_drop]
    omega

/-- `write`. -/
def write (digest : OrderedTextDigest) (chunk : Chunk) :
    Except OrderedTextDigest OrderedTextDigest :=
  if digest.failed ∨ digest.sealed ∨ ¬ chunk.Legal then
    digest.reject
  else
    digest.consume chunk.value

/-- `finish`. -/
def finish
    (sha256 : Bytes → String) (digest : OrderedTextDigest)
    (commandStatus : String) :
    Except OrderedTextDigest (RowDigest × OrderedTextDigest) :=
  if digest.failed ∨ digest.sealed ∨ digest.state ≠ .trailer ∨
      digest.pending ≠ [] ∨
      commandStatus ≠ "COPY " ++ toString digest.count then
    digest.reject
  else
    .ok
      (⟨digest.count, sha256 digest.hashed⟩, { digest with sealed := true })

/-- `write` of several chunks. -/
def writeAll (digest : OrderedTextDigest) :
    List Chunk → Except OrderedTextDigest OrderedTextDigest
  | [] => .ok digest
  | chunk :: chunks =>
      match digest.write chunk with
      | .error rejected => .error rejected
      | .ok later => later.writeAll chunks

/-! ## The loop, frame by frame -/

section Loop

variable {digest : OrderedTextDigest}

theorem consume_nil (digest : OrderedTextDigest) :
    digest.consume [] = .ok digest := by
  rw [consume, dif_pos rfl]

theorem consume_trailer
    (trailing : digest.state = .trailer) {view : Bytes} (more : view ≠ []) :
    digest.consume view = digest.reject := by
  rw [consume, dif_neg more, dif_pos trailing]

/-- Bytes that fill a frame are framed, and the others are read on. -/
theorem consume_full
    (reading : digest.state ≠ .trailer) {first rest : Bytes}
    (full : digest.pending.length + first.length = digest.needed) :
    digest.consume (first ++ rest) =
      digest.clear.frame (digest.pending ++ first) >>= fun later =>
        later.consume rest := by
  have room := digest.room reading
  have more : first ++ rest ≠ [] := by
    intro empty
    rw [List.append_eq_nil_iff] at empty
    rw [empty.1, List.length_nil] at full
    omega
  have taken :
      min (digest.needed - digest.pending.length) (first ++ rest).length =
        first.length := by
    rw [List.length_append]
    omega
  rw [consume, dif_neg more, dif_neg reading]
  simp only [taken, List.take_left, List.drop_left]
  rw [dif_pos full]
  cases digest.clear.frame (digest.pending ++ first) with
  | error rejected => rfl
  | ok later => rfl

/-- Fewer bytes are kept. -/
theorem consume_short
    (reading : digest.state ≠ .trailer) {view : Bytes}
    (short : view.length < digest.needed - digest.pending.length) :
    digest.consume view = .ok (digest.keep view short) := by
  have taken :
      min (digest.needed - digest.pending.length) view.length =
        view.length := by
    omega
  by_cases ended : view = []
  · subst ended
    rw [consume_nil, keep]
    simp only [List.append_nil]
  · rw [consume, dif_neg ended, dif_neg reading]
    simp only [taken, List.take_length, List.drop_length]
    rw [dif_neg (by omega), consume_nil]

/-- Bytes that are not fewer begin with a frame. -/
theorem exists_frame
    (reading : digest.state ≠ .trailer) {view : Bytes}
    (long : ¬ view.length < digest.needed - digest.pending.length) :
    ∃ first rest, view = first ++ rest ∧
      digest.pending.length + first.length = digest.needed ∧
      rest.length < view.length := by
  have room := digest.room reading
  refine
    ⟨view.take (digest.needed - digest.pending.length),
      view.drop (digest.needed - digest.pending.length),
      (List.take_append_drop _ _).symm, ?_, ?_⟩
  · rw [List.length_take]
    omega
  · rw [List.length_drop]
    omega

/-- Where the bytes are cut does not show. -/
theorem consume_append (digest : OrderedTextDigest) (view rest : Bytes) :
    digest.consume (view ++ rest) =
      digest.consume view >>= fun later => later.consume rest := by
  induction length : view.length using Nat.strong_induction_on
    generalizing digest view with
  | _ length induction =>
      subst length
      by_cases trailing : digest.state = .trailer
      · by_cases ended : view = []
        · subst ended
          rw [consume_nil]
          rfl
        · rw [consume_trailer trailing ended,
            consume_trailer trailing (by simp [ended])]
          rfl
      · have room := digest.room trailing
        by_cases short : view.length < digest.needed - digest.pending.length
        · rw [consume_short trailing short]
          change _ = (digest.keep view short).consume rest
          by_cases all :
              (view ++ rest).length < digest.needed - digest.pending.length
          · have left :
                rest.length <
                  (digest.keep view short).needed -
                    (digest.keep view short).pending.length := by
              simp only [keep, List.length_append] at all ⊢
              omega
            rw [consume_short trailing all,
              consume_short (by exact trailing) left]
            simp only [keep, List.append_assoc]
          · rw [List.length_append] at all
            have filled :
                (rest.take
                    (digest.needed - digest.pending.length -
                      view.length)).length =
                  digest.needed - digest.pending.length - view.length := by
              rw [List.length_take]
              omega
            rw [← List.take_append_drop
                (digest.needed - digest.pending.length - view.length) rest,
              ← List.append_assoc, consume_full trailing,
              consume_full (by exact trailing)]
            · simp only [keep, clear, List.append_assoc]
            · simp only [keep, List.length_append, filled]
              omega
            · rw [List.length_append, filled]
              omega
        · rcases exists_frame trailing short with
            ⟨first, others, rfl, full, shorter⟩
          rw [List.append_assoc, consume_full trailing full,
            consume_full trailing full, bind_assoc]
          congr 1
          funext later
          exact induction _ shorter later _ rfl

end Loop

/-! ## What a call leaves -/

/-- An object that has neither rejected nor finished. -/
structure Live (digest : OrderedTextDigest) : Prop where
  failed : digest.failed = false
  sealed : digest.sealed = false

/-- An object whose calls all reject. -/
def Closed (digest : OrderedTextDigest) : Prop :=
  digest.failed = true ∨ digest.sealed = true

/-- A call that raises has failed, and one that returns changes neither. -/
inductive Leaves (digest : OrderedTextDigest) :
    Except OrderedTextDigest OrderedTextDigest → Prop
  | returned {later : OrderedTextDigest}
      (failed : later.failed = digest.failed)
      (sealed : later.sealed = digest.sealed) : Leaves digest (.ok later)
  | raised {rejected : OrderedTextDigest}
      (failed : rejected.failed = true) : Leaves digest (.error rejected)

section Leaves

variable (digest : OrderedTextDigest)

theorem leaves_frameBody (frame : Bytes) :
    Leaves digest (digest.frameBody frame) := by
  unfold frameBody
  split
  · exact .raised rfl
  · split
    · exact .raised rfl
    · split
      · exact .raised rfl
      · exact .returned rfl rfl

theorem leaves_frame (frame : Bytes) :
    Leaves digest (digest.frame frame) := by
  unfold OrderedTextDigest.frame
  split
  · split
    · exact .raised rfl
    · exact .returned rfl rfl
  · split
    · exact .returned rfl rfl
    · split
      · exact .returned rfl rfl
      · exact .raised rfl
  · split
    · exact .raised rfl
    · split
      · exact leaves_frameBody digest []
      · exact .returned rfl rfl
  · exact leaves_frameBody digest frame
  · exact .raised rfl

theorem leaves_consume (view : Bytes) :
    Leaves digest (digest.consume view) := by
  induction length : view.length using Nat.strong_induction_on
    generalizing digest view with
  | _ length induction =>
      subst length
      by_cases trailing : digest.state = .trailer
      · by_cases ended : view = []
        · subst ended
          rw [consume_nil]
          exact .returned rfl rfl
        · rw [consume_trailer trailing ended]
          exact .raised rfl
      · have room := digest.room trailing
        by_cases short : view.length < digest.needed - digest.pending.length
        · rw [consume_short trailing short]
          exact .returned rfl rfl
        · rcases exists_frame trailing short with
            ⟨first, others, rfl, full, shorter⟩
          rw [consume_full trailing full]
          have framed :=
            leaves_frame digest.clear (digest.pending ++ first)
          generalize digest.clear.frame _ = call at framed
          cases framed with
          | raised failed => exact .raised failed
          | returned failed sealed =>
              rename_i later
              have rest := induction _ shorter later _ rfl
              change Leaves digest (later.consume _)
              generalize later.consume _ = call at rest ⊢
              cases rest with
              | raised failed => exact .raised failed
              | returned laterFailed laterSealed =>
                  exact
                    .returned (laterFailed.trans failed)
                      (laterSealed.trans sealed)

theorem leaves_write (chunk : Chunk) :
    Leaves digest (digest.write chunk) := by
  unfold write
  split
  · exact .raised rfl
  · exact leaves_consume digest chunk.value

end Leaves

theorem write_live
    {digest : OrderedTextDigest} (live : Live digest) {chunk : Chunk}
    (legal : chunk.Legal) :
    digest.write chunk = digest.consume chunk.value := by
  rw [write, if_neg]
  simp [live.failed, live.sealed, legal]

/-- Chunks are consumed like their concatenation. -/
theorem writeAll_live
    {digest : OrderedTextDigest} (live : Live digest) {chunks : List Chunk}
    (legal : ∀ chunk ∈ chunks, chunk.Legal) :
    digest.writeAll chunks =
      digest.consume (chunks.flatMap Chunk.value) := by
  induction chunks generalizing digest with
  | nil => rw [List.flatMap_nil, consume_nil, writeAll]
  | cons chunk chunks induction =>
      rw [List.flatMap_cons, consume_append, writeAll,
        write_live live (legal chunk List.mem_cons_self)]
      have left := leaves_consume digest chunk.value
      generalize digest.consume chunk.value = call at left ⊢
      cases left with
      | raised failed => rfl
      | returned failed sealed =>
          exact
            induction ⟨failed.trans live.failed, sealed.trans live.sealed⟩
              fun other member =>
                legal other (List.mem_cons_of_mem chunk member)

/-! ## Calls in any order -/

/-- A call of the object. -/
inductive Request
  | write (chunk : Chunk)
  | finish (commandStatus : String)
deriving DecidableEq, Repr

section Requests

variable (sha256 : Bytes → String)

/-- What a call returns, nothing for a `write`. -/
def perform (digest : OrderedTextDigest) :
    Request →
      Except OrderedTextDigest (Option RowDigest × OrderedTextDigest)
  | .write chunk => (digest.write chunk).map fun later => (none, later)
  | .finish commandStatus =>
      (digest.finish sha256 commandStatus).map fun done =>
        (some done.1, done.2)

/-- The object after a call, whether it raises or returns. -/
def after {Value : Type} :
    Except OrderedTextDigest (Value × OrderedTextDigest) → OrderedTextDigest
  | .error rejected => rejected
  | .ok (_, later) => later

/-- The object after some calls, each of which may raise. -/
def run (digest : OrderedTextDigest) (requests : List Request) :
    OrderedTextDigest :=
  requests.foldl (fun later request => after (perform sha256 later request))
    digest

theorem perform_closed
    {digest : OrderedTextDigest} (closed : Closed digest)
    (request : Request) :
    perform sha256 digest request =
      .error { digest with failed := true } := by
  have refused : digest.failed = true ∨ digest.sealed = true := closed
  cases request with
  | write chunk =>
      rw [perform, write, if_pos (by tauto)]
      rfl
  | finish commandStatus =>
      rw [perform, finish, if_pos (by tauto)]
      rfl

theorem closed_run
    {digest : OrderedTextDigest} (closed : Closed digest)
    (requests : List Request) : Closed (run sha256 digest requests) := by
  induction requests generalizing digest with
  | nil => exact closed
  | cons request requests induction =>
      rw [run, List.foldl_cons, perform_closed sha256 closed]
      exact induction (.inl rfl)

/-- A call that raises, or a `finish` that returns, closes the object. -/
theorem closed_after
    (digest : OrderedTextDigest) (request : Request)
    (closes :
      ∀ later, perform sha256 digest request ≠ .ok (none, later)) :
    Closed (after (perform sha256 digest request)) := by
  cases request with
  | write chunk =>
      have left := leaves_write digest chunk
      rw [perform] at closes ⊢
      generalize digest.write chunk = call at left closes
      cases left with
      | raised failed => exact .inl failed
      | returned failed sealed => exact absurd rfl (closes _)
  | finish commandStatus =>
      rw [perform]
      unfold finish
      split
      · exact .inl rfl
      · exact .inr rfl

/-- Once closed, every later call raises. -/
theorem perform_run_closed
    (digest : OrderedTextDigest) (before later : List Request)
    (request last : Request)
    (closes :
      ∀ next, perform sha256 (run sha256 digest before) request ≠
        .ok (none, next)) :
    ∃ rejected,
      perform sha256
          (run sha256 digest (before ++ request :: later)) last =
        .error rejected := by
  have closed := closed_after sha256 _ request closes
  have shape :
      run sha256 digest (before ++ request :: later) =
        run sha256
          (after (perform sha256 (run sha256 digest before) request))
          later := by
    rw [run, List.foldl_append, List.foldl_cons]
    rfl
  rw [shape,
    perform_closed sha256 (closed_run sha256 closed later)]
  exact ⟨_, rfl⟩

end Requests

end OrderedTextDigest

/-! ## The cursor -/

/-- The loop of `_table_digest` over the rows that are left. -/
def tableDigestFrom
    (sha256 : Bytes → String) (hashed : Bytes) (count : Nat)
    (budget : Budget) : List String → Except Budget (RowDigest × Budget)
  | [] => .ok (⟨count, sha256 hashed⟩, budget)
  | row :: rows => do
      let (data, later) ← budget.add row
      tableDigestFrom sha256 (hashed ++ hashedRow data) (count + 1) later rows

/-- `_table_digest` of the rows that its cursor returns. -/
def tableDigest
    (sha256 : Bytes → String) (budget : Budget) (rows : List String) :
    Except Budget (RowDigest × Budget) :=
  tableDigestFrom sha256 [] 0 budget rows

end KairosDeploy.PaperHistory.OrderedText
