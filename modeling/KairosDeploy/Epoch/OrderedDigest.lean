import KairosDeploy.Library.PrefixCode
import KairosDeploy.Epoch.HistorySeed
import KairosDeploy.PaperHistory.CopyFraming

/-!
# Digests of ordered rows

The accumulator of the history seed and the decoder of the history stream hash
the same text: every row behind its length in eight bytes.  The rows are
arbitrary bytes, also bytes that look like lengths, but a length in front says
how far its row reaches.  So the text determines the rows, their order and
their number, and a digest that does not collide determines them too.
-/

namespace KairosDeploy.Epoch.OrderedDigest

open KairosDeploy.Library.HexDigest
open KairosDeploy.Library.PrefixCode
open KairosDeploy.Library.Refusal
open KairosDeploy.Epoch.Contract
open KairosDeploy.Epoch.HistorySeed
open KairosDeploy.PaperHistory.CopyFraming (atTrailer_started
  consume_init_iff copyText finish_eq_ok_iff takeRows_hashed takes_iff)
open KairosDeploy.PaperHistory.OrderedText (Bytes Chunk
  OrderedTextDigest RowDigest bigEndian bigEndian_toBytes hashedRow
  length_toBytes toBytes)

/-! ## The framing -/

theorem toBytes_eq_map (width number : Nat) :
    toBytes width number =
      (List.range width).reverse.map fun index =>
        UInt8.ofNat (number / 256 ^ index) := by
  induction width generalizing number with
  | zero => rfl
  | succ width induction =>
      have low : UInt8.ofNat (number % 256) = UInt8.ofNat number := by
        apply UInt8.toNat_inj.1
        simp
      have high :
          ∀ index,
            number / 256 / 256 ^ index = number / 256 ^ (index + 1) := by
        intro index
        rw [Nat.div_div_eq_div_mul, ← pow_succ']
      rw [toBytes, induction, List.range_succ_eq_map, List.reverse_cons,
        List.map_append, ← List.map_reverse, List.map_map]
      simp only [high, low, Function.comp_def, List.map_cons, List.map_nil,
        pow_zero, Nat.div_one, Nat.succ_eq_add_one]

theorem lengthPrefix_eq_toBytes : lengthPrefix = toBytes 8 := by
  funext length
  rw [toBytes_eq_map]
  rfl

theorem frame_eq_framed : frame = framed (toBytes 8) := by
  funext row
  rw [frame, lengthPrefix_eq_toBytes]
  rfl

/-- Both modules hash a row in the same way. -/
theorem hashedRow_eq_frame : hashedRow = frame := by
  rw [frame_eq_framed]
  rfl

/-- Eight bytes tell lengths below `2 ^ 64` apart. -/
theorem headers_toBytes : Headers (toBytes 8) 8 (2 ^ 64) where
  width_pos := by decide
  length_header := length_toBytes 8
  injOn := by
    intro one oneSmall other otherSmall same
    have bound : (2 ^ 64 : Nat) = 256 ^ 8 := by decide
    simp only [Set.mem_ofPred_eq, bound] at oneSmall otherSmall
    calc
      one = bigEndian (toBytes 8 one) := (bigEndian_toBytes oneSmall).symm
      _ = bigEndian (toBytes 8 other) := by rw [same]
      _ = other := bigEndian_toBytes otherSmall

/-- Rows that can be framed: their length fits into eight bytes. -/
def Framable (rows : List Bytes) : Prop :=
  ∀ row ∈ rows, row.length < 2 ^ 64

/-- What is hashed determines the rows. -/
theorem flatMap_frame_inj
    {left right : List Bytes} (leftFramable : Framable left)
    (rightFramable : Framable right)
    (same : left.flatMap frame = right.flatMap frame) :
    left = right := by
  rw [frame_eq_framed] at same
  exact headers_toBytes.flatMap_framed_inj leftFramable rightFramable same

/-- A row that contains the next row with its length is told apart. -/
example : [[1], [2]].flatMap frame ≠ [[1] ++ frame [2]].flatMap frame := by
  decide

/-! ## Rows of the accumulator -/

section Accumulators

variable {library : SeedLibrary}

/-- The bytes that `add` hashes for a row, if its own checks pass. -/
def encodedRow (library : SeedLibrary) (raw : ExportRow) :
    Except SeedFailure Bytes := do
  let parsed ← parseRow library raw
  let row ← encodeRow library raw parsed
  return row.encoded

/-- The rows of an export that pass their own checks. -/
def encodedRows (library : SeedLibrary) (rows : List ExportRow) :
    List Bytes :=
  rows.filterMap fun raw => (encodedRow library raw).toOption

/-- What the digest of an export is computed from. -/
def fedBy (library : SeedLibrary) (rows : List ExportRow) : Bytes :=
  (encodedRows library rows).flatMap frame

/-- The loop of `measure_history`. -/
def addAll
    (library : SeedLibrary) (clock : Nat → ℚ) (limits : SeedLimits)
    (rows : List ExportRow) : Except SeedFailure Accumulator :=
  rows.foldlM
    (fun state raw => do
      let (after, _) ← add library clock limits state raw
      return after)
    Accumulator.initial

theorem encodedRow_of_readsAs
    {raw : ExportRow} {read : ReadRow} (readsAs : ReadsAs library raw read) :
    encodedRow library raw = .ok read.row.encoded := by
  unfold encodedRow
  rw [readsAs.1]
  change
    (encodeRow library raw read.parsed >>= fun row => pure row.encoded) = _
  rw [readsAs.2]
  rfl

/-- The digest of an accumulator has read these rows. -/
structure Feeds (encoded : List Bytes) (state : Accumulator) : Prop where
  fed : state.fed = encoded.flatMap frame
  small : ∀ row ∈ encoded, row.length ≤ maxRowBytes

theorem Feeds.initial : Feeds [] Accumulator.initial where
  fed := rfl
  small := by simp

/-- One passed row. -/
theorem Feeds.add
    {clock : Nat → ℚ} {limits : SeedLimits} {encoded : List Bytes}
    {state after : Accumulator} {raw : ExportRow} {tuple : AuditTuple}
    (feeds : Feeds encoded state)
    (added : add library clock limits state raw = .ok (after, tuple)) :
    ∃ row, encodedRow library raw = .ok row ∧
      Feeds (encoded ++ [row]) after := by
  rcases (add_eq_ok_iff clock limits state raw _).1 added with
    ⟨_, read, readsAs, _, _, bounds, recorded⟩
  cases recorded
  refine ⟨read.row.encoded, encodedRow_of_readsAs readsAs, ?_, ?_⟩
  · rw [List.flatMap_append, ← feeds.fed]
    simp [Accumulator.record]
  · intro row member
    rw [List.mem_append, List.mem_singleton] at member
    rcases member with before | rfl
    · exact feeds.small row before
    · simp only [not_or, not_lt] at bounds
      exact bounds.2.2

/-- Every row of an export passes its own checks and can be framed. -/
structure Passes (library : SeedLibrary) (rows : List ExportRow) : Prop where
  all : rows.map (encodedRow library) = (encodedRows library rows).map .ok
  framable : Framable (encodedRows library rows)

theorem encodedRows_of_forall₂
    {rows : List ExportRow} {encoded : List Bytes}
    (related :
      List.Forall₂ (fun raw row => encodedRow library raw = .ok row) rows
        encoded) :
    encodedRows library rows = encoded ∧
      rows.map (encodedRow library) = encoded.map .ok := by
  induction related with
  | nil => exact ⟨rfl, rfl⟩
  | @cons raw row rows encoded head tail induction =>
      have passed : (encodedRow library raw).toOption = some row := by
        rw [head]
        rfl
      constructor
      · unfold encodedRows at induction ⊢
        rw [List.filterMap_cons, passed, induction.1]
      · rw [List.map_cons, List.map_cons, head, induction.2]

/-- A loop that adds every row has fed every row. -/
theorem fedRows_of_foldlM
    {State : Type} {step : State → ExportRow → Except SeedFailure State}
    {rows : List ExportRow} {start result : State}
    (accumulator : State → Accumulator)
    (adds :
      ∀ encoded state raw next, Feeds encoded (accumulator state) →
        step state raw = .ok next →
          ∃ row, encodedRow library raw = .ok row ∧
            Feeds (encoded ++ [row]) (accumulator next))
    (initial : accumulator start = Accumulator.initial)
    (looped : rows.foldlM step start = .ok result) :
    Passes library rows ∧
      (accumulator result).fed = fedBy library rows := by
  rcases
    foldlM_relates (fun raw row => encodedRow library raw = .ok row)
      (fun encoded state => Feeds encoded (accumulator state)) adds
      (initial ▸ Feeds.initial) looped with
    ⟨encoded, related, feeds⟩
  rw [List.nil_append] at feeds
  rcases encodedRows_of_forall₂ related with ⟨same, all⟩
  constructor
  · rw [← same] at all feeds
    refine ⟨all, fun row member => ?_⟩
    exact (feeds.small row member).trans_lt (by decide)
  · rw [fedBy, same, feeds.fed]

theorem fedRows_of_addAll
    {clock : Nat → ℚ} {limits : SeedLimits} {rows : List ExportRow}
    {state : Accumulator}
    (added : addAll library clock limits rows = .ok state) :
    Passes library rows ∧ state.fed = fedBy library rows := by
  apply fedRows_of_foldlM id _ rfl added
  intro encoded state raw next feeds stepped
  rw [bind_eq_ok_iff] at stepped
  rcases stepped with ⟨⟨after, tuple⟩, passed, equal⟩
  rw [pure_eq_ok_iff] at equal
  exact equal ▸ feeds.add passed

theorem accumulator_insertBatch
    {faults : DatabaseFaults} {state after : Seeding}
    (inserted : insertBatch faults state = .ok after) :
    after.accumulator = state.accumulator := by
  simp only [insertBatch, bind_eq_ok_iff, pure_eq_ok_iff] at inserted
  rcases inserted with ⟨_, _, rfl⟩
  rfl

theorem accumulator_insertRest
    {faults : DatabaseFaults} {state after : Seeding}
    (inserted : insertRest faults state = .ok after) :
    after.accumulator = state.accumulator := by
  unfold insertRest at inserted
  split_ifs at inserted
  · cases inserted
    rfl
  · exact accumulator_insertBatch inserted

/-- The loop of `seed_history` feeds its accumulator as well. -/
theorem fedRows_of_seedRows
    {clock : Nat → ℚ} {faults : DatabaseFaults} {limits : SeedLimits}
    {batchSize : Int} {rows : List ExportRow} {target : Target} {calls : Nat}
    {after : Seeding}
    (looped :
      rows.foldlM (seedRow library clock faults limits batchSize)
          ⟨Accumulator.initial, [], 0, target, calls⟩ =
        .ok after) :
    Passes library rows ∧ after.accumulator.fed = fedBy library rows := by
  apply fedRows_of_foldlM Seeding.accumulator _ rfl looped
  intro encoded state raw next feeds stepped
  simp only [seedRow, bind_eq_ok_iff] at stepped
  rcases stepped with ⟨⟨accumulator, tuple⟩, passed, stepped⟩
  rcases feeds.add passed with ⟨row, encodes, extended⟩
  refine ⟨row, encodes, ?_⟩
  split_ifs at stepped
  · rw [accumulator_insertBatch stepped]
    exact extended
  · rw [pure_eq_ok_iff] at stepped
    exact stepped ▸ extended

/-- A digest of an export, all of whose rows have passed. -/
def DigestOf
    (library : SeedLibrary) (rows : List ExportRow) (digest : String) :
    Prop :=
  Passes library rows ∧
    digest = library.sha256.hexdigest (fedBy library rows)

theorem digestOf_of_finish
    {clock : Nat → ℚ} {config : AccumulatorConfig} {rows : List ExportRow}
    {state : Accumulator} {result : String × Dict Anchor}
    (fed : Passes library rows ∧ state.fed = fedBy library rows)
    (finished : finish library clock config state = .ok result) :
    DigestOf library rows result.1 := by
  simp only [finish, bind_eq_ok_iff, refuseIf_eq_ok_iff, exists_const,
    pure_eq_ok_iff] at finished
  rcases finished with ⟨_, _, _, _, rfl⟩
  exact ⟨fed.1, by rw [fed.2]⟩

theorem digestOf_of_measured
    {clock : Nat → ℚ} {rows : List ExportRow}
    {expectedAnchors : Dict Anchor} {limits : SeedLimits}
    {expectation : SeedExpectation}
    (measured :
      measureHistory library clock rows expectedAnchors limits =
        .ok expectation) :
    DigestOf library rows expectation.orderedDigestSha256 := by
  simp only [measureHistory, bind_eq_ok_iff, pure_eq_ok_iff] at measured
  rcases measured with ⟨_, _, state, added, result, finished, rfl⟩
  exact digestOf_of_finish (fedRows_of_addAll added) finished

theorem digestOf_of_seeded
    {clock : Nat → ℚ} {faults : DatabaseFaults} {arguments : SeedArguments}
    {rows : List ExportRow} {target after : Target} {receipt : SeedReceipt}
    (seeded :
      seedHistory library clock faults arguments rows target =
        (.ok receipt, after)) :
    DigestOf library rows receipt.orderedDigestSha256 := by
  unfold seedHistory at seeded
  split at seeded
  · cases seeded
  · unfold commitOrRollback at seeded
    split at seeded
    · rename_i body
      cases seeded
      simp only [seedTransaction, bind_eq_ok_iff, pure_eq_ok_iff,
        refuseIf_eq_ok_iff, exists_const] at body
      rcases body with
        ⟨_, ⟨_, _, _, state, looped, last, flushed, _, finished, _, _, _, _,
          rfl⟩, equal⟩
      cases equal
      have fed := fedRows_of_seedRows looped
      rw [← accumulator_insertRest flushed] at fed
      exact digestOf_of_finish fed finished
    · cases seeded

end Accumulators

/-! ## Digests that are returned -/

/-- An ordered digest that one of the two drivers returns for an export. -/
inductive Reports
    (library : SeedLibrary) (rows : List ExportRow) : String → Prop
  | measured
      {clock : Nat → ℚ} {expectedAnchors : Dict Anchor} {limits : SeedLimits}
      {expectation : SeedExpectation}
      (returned :
        measureHistory library clock rows expectedAnchors limits =
          .ok expectation) :
      Reports library rows expectation.orderedDigestSha256
  | seeded
      {clock : Nat → ℚ} {faults : DatabaseFaults} {arguments : SeedArguments}
      {target after : Target} {receipt : SeedReceipt}
      (returned :
        seedHistory library clock faults arguments rows target =
          (.ok receipt, after)) :
      Reports library rows receipt.orderedDigestSha256

/-- A digest that `finish` returns after some chunks, and what it hashes. -/
def Streams
    (sha256 : Bytes → String) (chunks : List Chunk) (hashed : Bytes)
    (result : RowDigest) : Prop :=
  ∃ budget digest later commandStatus,
    (OrderedTextDigest.init budget).writeAll chunks = .ok digest ∧
      digest.hashed = hashed ∧
      digest.finish sha256 commandStatus = .ok (result, later)

/-- A hash does not collide on two inputs. -/
def CollisionFree (hash : Bytes → String) (left right : Bytes) : Prop :=
  hash left = hash right → left = right

theorem digestOf_of_reports
    {library : SeedLibrary} {rows : List ExportRow} {digest : String}
    (reports : Reports library rows digest) :
    DigestOf library rows digest := by
  cases reports with
  | measured returned => exact digestOf_of_measured returned
  | seeded returned => exact digestOf_of_seeded returned

/-- What `write` takes is bytes of a legal number. -/
theorem legal_of_writeAll
    {chunks : List Chunk} {digest later : OrderedTextDigest}
    (written : digest.writeAll chunks = .ok later) :
    ∀ chunk ∈ chunks, chunk.Legal := by
  induction chunks generalizing digest with
  | nil => simp
  | cons chunk rest induction =>
      rw [OrderedTextDigest.writeAll] at written
      split at written
      · cases written
      · rename_i next first
        rw [List.forall_mem_cons]
        refine ⟨?_, induction written⟩
        unfold OrderedTextDigest.write at first
        split at first
        · cases first
        · rename_i accepted
          simp only [not_or, not_not] at accepted
          exact accepted.2.2

/-- What was streamed is the text of small rows, and they were hashed. -/
theorem exists_rows_of_streams
    {sha256 : Bytes → String} {chunks : List Chunk} {hashed : Bytes}
    {result : RowDigest} (streams : Streams sha256 chunks hashed result) :
    ∃ rows, chunks.flatMap Chunk.value = copyText rows ∧
      Framable (rows.map utf8) ∧
      hashed = (rows.map utf8).flatMap hashedRow ∧
      result = ⟨rows.length, sha256 hashed⟩ := by
  rcases streams with
    ⟨budget, digest, later, commandStatus, written, rfl, finished⟩
  have live : OrderedTextDigest.Live (OrderedTextDigest.init budget) :=
    ⟨rfl, rfl⟩
  rw [OrderedTextDigest.writeAll_live live (legal_of_writeAll written)]
    at written
  have left :=
    OrderedTextDigest.leaves_consume (OrderedTextDigest.init budget)
      (chunks.flatMap Chunk.value)
  rw [written] at left
  cases left with
  | returned failed sealed =>
      rcases
        (finish_eq_ok_iff sha256 ⟨failed, sealed⟩ commandStatus result
          later).1 finished with ⟨ended, _, _, equal, _⟩
      rcases (consume_init_iff budget _ digest).1 ⟨written, ended⟩ with
        ⟨rows, text, takes, rfl⟩
      refine ⟨rows, text, ?_, ?_, ?_⟩
      · intro row member
        rcases List.mem_map.1 member with ⟨source, listed, rfl⟩
        have small := ((takes_iff _ rows).1 takes).1 source listed
        exact small.trans_lt (by decide)
      · rw [List.flatMap_map]
        exact takeRows_hashed _ rows
      · rw [equal, (atTrailer_started sha256 budget rows).1]

/-! ## The rows of a digest -/

/-- Two exports have the same encoded rows, in the same order. -/
def SameRows (library : SeedLibrary) (left right : List ExportRow) : Prop :=
  ∃ encoded : List Bytes,
    left.map (encodedRow library) = encoded.map .ok ∧
      right.map (encodedRow library) = encoded.map .ok

theorem sameRows_of_fedBy_eq
    {library : SeedLibrary} {left right : List ExportRow}
    (leftPasses : Passes library left) (rightPasses : Passes library right)
    (same : fedBy library left = fedBy library right) :
    SameRows library left right := by
  have rows : encodedRows library left = encodedRows library right :=
    flatMap_frame_inj leftPasses.framable rightPasses.framable same
  exact
    ⟨encodedRows library left, leftPasses.all, by rw [rows, rightPasses.all]⟩

/-- Streams that hash the same text are the text of the same rows. -/
theorem copyText_of_streams
    {sha256 : Bytes → String} {left right : List Chunk}
    {hashed : Bytes} {leftResult rightResult : RowDigest}
    (leftStreams : Streams sha256 left hashed leftResult)
    (rightStreams : Streams sha256 right hashed rightResult) :
    ∃ rows, left.flatMap Chunk.value = copyText rows ∧
      right.flatMap Chunk.value = copyText rows ∧
      leftResult.count = rows.length ∧ rightResult.count = rows.length := by
  rcases exists_rows_of_streams leftStreams with
    ⟨rows, leftText, leftFramable, leftHashed, rfl⟩
  rcases exists_rows_of_streams rightStreams with
    ⟨others, rightText, rightFramable, rightHashed, rfl⟩
  rw [leftHashed, hashedRow_eq_frame] at rightHashed
  have encoded : rows.map utf8 = others.map utf8 :=
    flatMap_frame_inj leftFramable rightFramable rightHashed
  have same : rows = others := utf8_injective.list_map encoded
  subst same
  exact ⟨rows, leftText, rightText, rfl, rfl⟩

/--
The text that is hashed for ordered rows determines them, whichever of the two
modules hashes it.  So exports with one ordered digest have the same encoded
rows in the same order, and streams with one row digest are the text of the
same rows, as far as the hash does not collide on what it was fed.
-/
theorem orderedDigest_identifies_rows
    (library : SeedLibrary) (sha256 : Bytes → String) :
    (∀ left right : List Bytes, Framable left → Framable right →
      (left.flatMap frame = right.flatMap frame → left = right) ∧
        (left.flatMap hashedRow = right.flatMap hashedRow → left = right) ∧
          (left.flatMap frame = right.flatMap hashedRow → left = right)) ∧
    (∀ left right leftClock rightClock leftLimits rightLimits leftState
        rightState,
      addAll library leftClock leftLimits left = .ok leftState →
        addAll library rightClock rightLimits right = .ok rightState →
          leftState.fed = rightState.fed →
            SameRows library left right) ∧
    (∀ left right digest,
      Reports library left digest → Reports library right digest →
        CollisionFree library.sha256.hexdigest (fedBy library left)
            (fedBy library right) →
          SameRows library left right) ∧
    ∀ left right leftHashed rightHashed leftResult rightResult,
      Streams sha256 left leftHashed leftResult →
        Streams sha256 right rightHashed rightResult →
          leftResult.rowDigestSha256 = rightResult.rowDigestSha256 →
            CollisionFree sha256 leftHashed rightHashed →
              ∃ rows, left.flatMap Chunk.value = copyText rows ∧
                right.flatMap Chunk.value = copyText rows ∧
                leftResult.count = rows.length ∧
                rightResult.count = rows.length := by
  refine ⟨?framing, ?accumulator, ?digest, ?stream⟩
  case framing =>
    intro left right leftFramable rightFramable
    rw [hashedRow_eq_frame]
    have inj := flatMap_frame_inj leftFramable rightFramable
    exact ⟨inj, inj, inj⟩
  case accumulator =>
    intro left right _ _ _ _ leftState rightState leftAdded rightAdded same
    rcases fedRows_of_addAll leftAdded with ⟨leftPasses, leftFed⟩
    rcases fedRows_of_addAll rightAdded with ⟨rightPasses, rightFed⟩
    rw [leftFed, rightFed] at same
    exact sameRows_of_fedBy_eq leftPasses rightPasses same
  case digest =>
    intro left right digest leftReports rightReports collisionFree
    rcases digestOf_of_reports leftReports with ⟨leftPasses, leftDigest⟩
    rcases digestOf_of_reports rightReports with ⟨rightPasses, rightDigest⟩
    have same := collisionFree (leftDigest.symm.trans rightDigest)
    exact sameRows_of_fedBy_eq leftPasses rightPasses same
  case stream =>
    intro left right leftHashed rightHashed leftResult rightResult
      leftStreams rightStreams digests collisionFree
    rcases exists_rows_of_streams leftStreams with ⟨_, _, _, _, leftDigest⟩
    rcases exists_rows_of_streams rightStreams with ⟨_, _, _, _, rightDigest⟩
    rw [leftDigest, rightDigest] at digests
    have same : leftHashed = rightHashed := collisionFree digests
    subst same
    exact copyText_of_streams leftStreams rightStreams

end KairosDeploy.Epoch.OrderedDigest
