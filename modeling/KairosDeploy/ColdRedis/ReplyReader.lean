import KairosDeploy.ColdRedis.ReplyGrammar

/-!
# Reading replies from a connection

`RESPReader` buffers what `recv` delivers and parses from the buffer, asking
for more where it runs out.  Where the pieces are cut does not show: on any
delivery the reader does what the parser of all the bytes does, and what it
has not used, buffered or not yet delivered, is what that parser leaves.
-/

namespace KairosDeploy.ColdRedis.ReplyReader

open KairosDeploy.RedisAof.RespReader
open KairosDeploy.RedisAof.RespFraming
open KairosDeploy.ColdRedis.ReplyGrammar

/-! ## The connection -/

/-- Bytes that one `recv` can deliver: there is at least one. -/
structure Piece where
  first : UInt8
  others : Bytes
deriving DecidableEq, Repr

/-- The bytes of a piece. -/
def Piece.bytes (piece : Piece) : Bytes :=
  piece.first :: piece.others

/-- What is left of a piece that was cut. -/
def leftOver : Bytes → List Piece
  | [] => []
  | first :: others => [⟨first, others⟩]

/-- `connection.recv(limit)`; no bytes when the peer has closed. -/
def recv (limit : Nat) : List Piece → Bytes × List Piece
  | [] => ([], [])
  | piece :: pieces =>
      (piece.bytes.take limit, leftOver (piece.bytes.drop limit) ++ pieces)

theorem flatMap_leftOver (bytes : Bytes) :
    (leftOver bytes).flatMap Piece.bytes = bytes := by
  cases bytes with
  | nil => rfl
  | cons first others => simp [leftOver, Piece.bytes]

theorem recv_append (limit : Nat) (pieces : List Piece) :
    (recv limit pieces).1 ++ (recv limit pieces).2.flatMap Piece.bytes =
      pieces.flatMap Piece.bytes := by
  cases pieces with
  | nil => rfl
  | cons piece pieces =>
      rw [recv, List.flatMap_append, flatMap_leftOver, List.flatMap_cons,
        ← List.append_assoc, List.take_append_drop]

/-- A piece delivers at least one byte to a `recv` that asks for one. -/
theorem recv_ne_nil
    {limit : Nat} {pieces : List Piece} (asked : 0 < limit)
    (some_left : pieces ≠ []) : (recv limit pieces).1 ≠ [] := by
  cases pieces with
  | nil => exact absurd rfl some_left
  | cons piece pieces =>
      cases limit with
      | zero => omega
      | succ limit => simp [recv, Piece.bytes]

/-- A `RESPReader` with the pieces that its connection will deliver. -/
structure RespReader where
  pieces : List Piece
  received : Nat
  buffer : Bytes
  maximumBytes : Nat
deriving DecidableEq, Repr

/-- What raises when the bytes do not suffice. -/
def boundError : ColdRedisError :=
  ⟨"Redis inspection exceeded its time or response-byte bound"⟩

/-- What raises when a piece goes beyond the bound. -/
def overrunError : ColdRedisError :=
  ⟨"Redis inspection exceeded its response-byte bound"⟩

/-- What raises when the peer has closed. -/
def endedError : ColdRedisError :=
  ⟨"Redis inspection response ended unexpectedly"⟩

namespace RespReader

/-- `RESPReader.__init__`. -/
def init (maximumBytes : Nat) (pieces : List Piece) : RespReader :=
  ⟨pieces, 0, [], maximumBytes⟩

/-- The bytes that the connection has not delivered yet. -/
def undelivered (reader : RespReader) : Bytes :=
  reader.pieces.flatMap Piece.bytes

/-- The bytes that have not been used yet. -/
def unused (reader : RespReader) : Bytes :=
  reader.buffer ++ reader.undelivered

/-- `_more`, before the deadline. -/
def more (reader : RespReader) : Except ColdRedisError RespReader :=
  if reader.maximumBytes ≤ reader.received then
    .error boundError
  else
    let (data, pieces) :=
      recv (min (64 * 1024) (reader.maximumBytes - reader.received + 1))
        reader.pieces
    if data = [] then
      .error endedError
    else if reader.received + data.length > reader.maximumBytes then
      .error overrunError
    else
      .ok
        { reader with
          pieces := pieces
          received := reader.received + data.length
          buffer := reader.buffer ++ data }

/-- What `_more` does when it does not raise. -/
theorem more_eq_ok
    {reader later : RespReader} (got : reader.more = .ok later) :
    later.unused = reader.unused ∧
      later.maximumBytes = reader.maximumBytes ∧
      later.received + later.undelivered.length =
        reader.received + reader.undelivered.length ∧
      later.undelivered.length < reader.undelivered.length := by
  unfold more at got
  split at got
  · cases got
  · rcases delivered :
      recv (min (64 * 1024) (reader.maximumBytes - reader.received + 1))
        reader.pieces with ⟨data, pieces⟩
    have whole :=
      recv_append
        (min (64 * 1024) (reader.maximumBytes - reader.received + 1))
        reader.pieces
    rw [delivered] at got whole
    simp only at got whole
    split at got
    · cases got
    · rename_i nonempty
      split at got
      · cases got
      · cases got
        have positive := List.length_pos_of_ne_nil nonempty
        have lengths := congrArg List.length whole
        rw [List.length_append] at lengths
        simp only [unused, undelivered, List.append_assoc, whole, true_and]
        omega

/-- The loop of `_take`. -/
def takeFrom (count : Nat) (reader : RespReader) :
    Except ColdRedisError (Bytes × RespReader) :=
  if reader.buffer.length < count then
    match _got : reader.more with
    | .error error => .error error
    | .ok later => takeFrom count later
  else
    .ok
      (reader.buffer.take count,
        { reader with buffer := reader.buffer.drop count })
termination_by reader.undelivered.length
decreasing_by exact (more_eq_ok _got).2.2.2

/-- The loop of `_line`. -/
def lineFrom (reader : RespReader) :
    Except ColdRedisError (Bytes × RespReader) :=
  match splitLine reader.buffer with
  | some (text, rest) => .ok (text, { reader with buffer := rest })
  | none =>
      match _got : reader.more with
      | .error error => .error error
      | .ok later => lineFrom later
termination_by reader.undelivered.length
decreasing_by exact (more_eq_ok _got).2.2.2

/-- The reader as a source of bytes. -/
abbrev source : Source RespReader :=
  ⟨takeFrom, lineFrom⟩

/-- `RESPReader.parse`. -/
def parse (reader : RespReader) :
    Except ColdRedisError (Reply × RespReader) :=
  parseReply source reader.maximumBytes maxLevels reader

end RespReader

/-! ## Where the pieces are cut does not show -/

/-- All bytes of the connection are accounted for. -/
structure Consistent (maximum total : Nat) (reader : RespReader) : Prop where
  maximumBytes : reader.maximumBytes = maximum
  accounted : reader.received + reader.undelivered.length = total

/-- What reading on past the last byte raises. -/
def exhausted (maximum total : Nat) : ColdRedisError :=
  if total < maximum then endedError else boundError

section Simulation

variable {maximum total : Nat}

theorem more_of_ended
    {reader : RespReader} (consistent : Consistent maximum total reader)
    (ended : reader.undelivered = []) :
    reader.more = .error (exhausted maximum total) := by
  rcases consistent with ⟨rfl, accounted⟩
  have none_left : reader.pieces = [] := by
    cases pieces : reader.pieces with
    | nil => rfl
    | cons piece others =>
        simp [RespReader.undelivered, pieces, Piece.bytes] at ended
  rw [ended, List.length_nil, Nat.add_zero] at accounted
  unfold RespReader.more exhausted
  rw [← accounted]
  by_cases full : reader.maximumBytes ≤ reader.received
  · rw [if_pos full, if_neg (by omega)]
  · rw [if_neg full, if_pos (by omega), none_left]
    rfl

/-- While bytes are left `more` raises for its bound only. -/
theorem more_of_delivered
    {reader : RespReader} {error : ColdRedisError}
    (consistent : Consistent maximum total reader)
    (delivered : reader.undelivered ≠ [])
    (failed : reader.more = .error error) :
    maximum < total ∧ (error = boundError ∨ error = overrunError) := by
  rcases consistent with ⟨rfl, accounted⟩
  have positive := List.length_pos_of_ne_nil delivered
  unfold RespReader.more at failed
  split at failed
  · cases failed
    exact ⟨by omega, .inl rfl⟩
  · have some_left : reader.pieces ≠ [] := by
      intro none_left
      rw [RespReader.undelivered, none_left] at delivered
      exact delivered rfl
    have asked :
        0 < min (64 * 1024) (reader.maximumBytes - reader.received + 1) := by
      omega
    have nonempty := recv_ne_nil asked some_left
    have whole :=
      recv_append
        (min (64 * 1024) (reader.maximumBytes - reader.received + 1))
        reader.pieces
    rcases received :
      recv (min (64 * 1024) (reader.maximumBytes - reader.received + 1))
        reader.pieces with ⟨data, pieces⟩
    rw [received] at failed nonempty whole
    have lengths := congrArg List.length whole
    rw [List.length_append] at lengths
    change _ = reader.undelivered.length at lengths
    simp only at failed nonempty lengths
    rw [if_neg nonempty] at failed
    split at failed
    · cases failed
      exact ⟨by omega, .inr rfl⟩
    · cases failed

theorem Consistent.more
    {reader later : RespReader}
    (consistent : Consistent maximum total reader)
    (got : reader.more = .ok later) : Consistent maximum total later := by
  rcases RespReader.more_eq_ok got with ⟨_, sameMaximum, accounted, _⟩
  exact
    ⟨sameMaximum.trans consistent.maximumBytes,
      accounted.trans consistent.accounted⟩

/-- What is left in the buffer of a consistent reader. -/
theorem Consistent.buffer
    {reader : RespReader} (consistent : Consistent maximum total reader)
    (buffer : Bytes) :
    Consistent maximum total { reader with buffer := buffer } :=
  ⟨consistent.maximumBytes, consistent.accounted⟩

/--
A reader does what a parser of its unused bytes does, unless there are more
bytes than its bound allows.
-/
inductive Follows (maximum total : Nat) {Value : Type} :
    Except ColdRedisError (Value × Bytes) →
      Except ColdRedisError (Value × RespReader) → Prop
  | returned {value : Value} {later : RespReader}
      (consistent : Consistent maximum total later) :
      Follows maximum total (.ok (value, later.unused))
        (.ok (value, later))
  | raised {error : ColdRedisError} :
      Follows maximum total (.error error) (.error error)
  | refused {parsed : Except ColdRedisError (Value × Bytes)}
      {error : ColdRedisError} (beyond : maximum < total)
      (bound : error = boundError ∨ error = overrunError) :
      Follows maximum total parsed (.error error)

/-- A computation of the reader that a parser describes. -/
def Simulates (maximum total : Nat) {Value : Type}
    (reading : Reading RespReader Value) (parser : Parsing Value) : Prop :=
  ∀ reader, Consistent maximum total reader →
    Follows maximum total (parser reader.unused) (reading reader)

theorem take_simulates (count : Nat) :
    Simulates maximum total (RespReader.takeFrom count)
      (takeBytes (exhausted maximum total) count) := by
  intro reader consistent
  induction reader using RespReader.takeFrom.induct count with
  | case1 reader short error got =>
      rw [RespReader.takeFrom, if_pos short]
      split
      · rename_i other failed
        by_cases ended : reader.undelivered = []
        · rw [more_of_ended consistent ended] at failed
          cases failed
          rw [takeBytes, RespReader.unused, ended, List.append_nil,
            if_pos short]
          exact .raised
        · rcases more_of_delivered consistent ended failed with
            ⟨beyond, bound⟩
          exact .refused beyond bound
      · rename_i failed
        rw [got] at failed
        cases failed
  | case2 reader short later got induction =>
      have follows := induction (consistent.more got)
      rw [(RespReader.more_eq_ok got).1] at follows
      rw [RespReader.takeFrom, if_pos short]
      split
      · rename_i failed
        rw [got] at failed
        cases failed
      · rename_i other more
        rw [got] at more
        cases more
        exact follows
  | case3 reader enough =>
      have long : ¬ reader.unused.length < count := by
        rw [RespReader.unused, List.length_append]
        omega
      have left :
          reader.unused.drop count =
            RespReader.unused
              { reader with buffer := reader.buffer.drop count } := by
        rw [RespReader.unused, List.drop_append_of_le_length (by omega)]
        rfl
      have taken : reader.unused.take count = reader.buffer.take count :=
        List.take_append_of_le_length (by omega)
      rw [RespReader.takeFrom, if_neg enough, takeBytes, if_neg long, left,
        taken]
      exact .returned (consistent.buffer _)

theorem line_simulates :
    Simulates maximum total RespReader.lineFrom
      (takeLine (exhausted maximum total)) := by
  intro reader consistent
  induction reader using RespReader.lineFrom.induct with
  | case1 reader text rest found =>
      have whole := splitLine_extends reader.undelivered found
      rw [RespReader.lineFrom, takeLine, RespReader.unused, whole, found]
      exact .returned (consistent.buffer _)
  | case2 reader missing error got =>
      rw [RespReader.lineFrom, missing]
      dsimp only
      split
      · rename_i other failed
        by_cases ended : reader.undelivered = []
        · rw [more_of_ended consistent ended] at failed
          cases failed
          rw [takeLine, RespReader.unused, ended, List.append_nil, missing]
          exact .raised
        · rcases more_of_delivered consistent ended failed with
            ⟨beyond, bound⟩
          exact .refused beyond bound
      · rename_i failed
        rw [got] at failed
        cases failed
  | case3 reader missing later got induction =>
      have follows := induction (consistent.more got)
      rw [(RespReader.more_eq_ok got).1] at follows
      rw [RespReader.lineFrom, missing]
      dsimp only
      split
      · rename_i failed
        rw [got] at failed
        cases failed
      · rename_i other more
        rw [got] at more
        cases more
        exact follows

/-! ## The parser follows -/

section Combinators

variable {Value Result : Type}

theorem simulates_pure (value : Value) :
    Simulates maximum total (pure value) (pure value) :=
  fun _ consistent => .returned consistent

theorem simulates_throw (error : ColdRedisError) :
    Simulates maximum total (throw error : Reading RespReader Value)
      (throw error) :=
  fun _ _ => .raised

theorem Simulates.bind
    {first : Reading RespReader Value} {parser : Parsing Value}
    {later : Value → Reading RespReader Result}
    {rest : Value → Parsing Result}
    (head : Simulates maximum total first parser)
    (tail : ∀ value, Simulates maximum total (later value) (rest value)) :
    Simulates maximum total (first >>= later) (parser >>= rest) := by
  intro reader consistent
  have follows := head reader consistent
  change Follows maximum total
    (parser reader.unused >>= fun read => rest read.1 read.2)
    (first reader >>= fun read => later read.1 read.2)
  generalize parser reader.unused = parsed at follows
  generalize first reader = read at follows
  cases follows with
  | returned moved => exact tail _ _ moved
  | raised => exact .raised
  | refused beyond bound => exact .refused beyond bound

theorem simulates_ite
    {condition : Prop} [Decidable condition]
    {first second : Reading RespReader Value}
    {parser other : Parsing Value}
    (left : Simulates maximum total first parser)
    (right : Simulates maximum total second other) :
    Simulates maximum total (if condition then first else second)
      (if condition then parser else other) := by
  split
  · exact left
  · exact right

end Combinators

theorem takeInt_simulates (malformed : String) :
    Simulates maximum total (takeInt RespReader.source malformed)
      (takeInt (whole (exhausted maximum total)) malformed) := by
  refine line_simulates.bind fun line => ?_
  cases pyInt line with
  | none => exact simulates_throw _
  | some value => exact simulates_pure _

theorem takeBulk_simulates (maximumBytes : Nat) :
    Simulates maximum total (takeBulk RespReader.source maximumBytes)
      (takeBulk (whole (exhausted maximum total)) maximumBytes) := by
  refine (takeInt_simulates _).bind fun length => ?_
  refine simulates_ite (simulates_pure _)
    (simulates_ite (simulates_throw _) ?_)
  refine (take_simulates _).bind fun value => ?_
  exact simulates_ite (simulates_throw _) (simulates_pure _)

theorem takeItems_simulates
    {item : Reading RespReader Reply} {parser : Parsing Reply}
    (each : Simulates maximum total item parser) (count : Nat) :
    Simulates maximum total (takeItems item count)
      (takeItems parser count) := by
  induction count with
  | zero => exact simulates_pure _
  | succ count induction =>
      refine each.bind fun first => ?_
      exact induction.bind fun others => simulates_pure _

theorem takeArray_simulates
    {item : Reading RespReader Reply} {parser : Parsing Reply}
    (each : Simulates maximum total item parser) :
    Simulates maximum total (takeArray RespReader.source item)
      (takeArray (whole (exhausted maximum total)) parser) := by
  refine (takeInt_simulates _).bind fun count => ?_
  refine simulates_ite (simulates_pure _)
    (simulates_ite (simulates_throw _) ?_)
  exact (takeItems_simulates each _).bind fun items => simulates_pure _

theorem parseReply_simulates (maximumBytes levels : Nat) :
    Simulates maximum total
      (parseReply RespReader.source maximumBytes levels)
      (parseReply (whole (exhausted maximum total)) maximumBytes
        levels) := by
  induction levels with
  | zero => exact simulates_throw _
  | succ levels induction =>
      refine (take_simulates 1).bind fun marker => ?_
      refine simulates_ite ?_ (simulates_ite ?_ (simulates_ite ?_
        (simulates_ite ?_ (simulates_ite ?_ (simulates_throw _)))))
      · exact line_simulates.bind fun _ => simulates_throw _
      · exact (takeInt_simulates _).bind fun _ => simulates_pure _
      · exact line_simulates.bind fun _ => simulates_pure _
      · exact takeBulk_simulates maximumBytes
      · exact takeArray_simulates induction

end Simulation

/-! ## Replies on a connection -/

/-- The value that `parse` returns or the error that it raises. -/
def outcome (parsed : Except ColdRedisError (Reply × RespReader)) :
    Except ColdRedisError Reply :=
  parsed.map Prod.fst

/-- `parse` is the parser of the unused bytes. -/
theorem parse_follows
    {maximum total : Nat} {reader : RespReader}
    (consistent : Consistent maximum total reader) :
    Follows maximum total
      (parseReply (whole (exhausted maximum total)) maximum maxLevels
        reader.unused)
      reader.parse := by
  rw [RespReader.parse, consistent.maximumBytes]
  exact parseReply_simulates maximum maxLevels reader consistent

/-- A new reader has all bytes to deliver. -/
theorem init_consistent (maximum : Nat) (pieces : List Piece) :
    Consistent maximum (pieces.flatMap Piece.bytes).length
      (RespReader.init maximum pieces) :=
  ⟨rfl, Nat.zero_add _⟩

/-- What a parse within the bound does, by the parser of all the bytes. -/
theorem Follows.within
    {maximum total : Nat} {Value : Type}
    {parsed : Except ColdRedisError (Value × Bytes)}
    {read : Except ColdRedisError (Value × RespReader)}
    (follows : Follows maximum total parsed read) (within : total ≤ maximum) :
    parsed = read.map fun result => (result.1, result.2.unused) := by
  cases follows with
  | returned consistent => rfl
  | raised => rfl
  | refused beyond bound => exact absurd within (not_le.2 beyond)

/-- The replies of several commands, one after the other. -/
def parseAll : Nat → RespReader →
    Except ColdRedisError (List Reply × RespReader)
  | 0, reader => .ok ([], reader)
  | count + 1, reader => do
      let (first, later) ← reader.parse
      let (others, last) ← parseAll count later
      return (first :: others, last)

/-- A value that Redis can write and `parse` can hold. -/
structure Sendable (value : RespValue) : Prop where
  wellFormed : WellFormed value
  shallow : nesting value ≤ 8

/-- The replies are read in turn, unless the bytes go beyond the bound. -/
theorem parseAll_encoded
    {maximum total : Nat} {values : List RespValue} {suffix : Bytes}
    {reader : RespReader} (consistent : Consistent maximum total reader)
    (sendable : ∀ value ∈ values, Sendable value)
    (fits : (values.flatMap encodeValue).length ≤ maximum)
    (bytes : reader.unused = values.flatMap encodeValue ++ suffix) :
    Follows maximum total
      (.ok (values.map RespValue.reply, suffix))
      (parseAll values.length reader) := by
  induction values generalizing reader with
  | nil =>
      rw [List.flatMap_nil, List.nil_append] at bytes
      rw [← bytes]
      exact .returned consistent
  | cons value values induction =>
      rw [List.flatMap_cons, List.length_append] at fits
      rw [List.flatMap_cons, List.append_assoc] at bytes
      have head := sendable value List.mem_cons_self
      have follows := parse_follows consistent
      rw [bytes, maxLevels,
        parseReply_encode _ value _ head.wellFormed
          (Nat.lt_succ_of_le head.shallow)
          (le_trans (Nat.le_add_right _ _) fits)] at follows
      rw [List.length_cons, parseAll]
      generalize reader.parse = read at follows
      generalize left : values.flatMap encodeValue ++ suffix = rest at follows
      cases follows with
      | returned moved =>
          have tail :=
            induction moved
              (fun other member =>
                sendable other (List.mem_cons_of_mem value member))
              (by omega) left.symm
          rw [ok_bind]
          dsimp only
          generalize parseAll values.length _ = others at tail ⊢
          cases tail with
          | returned last => exact .returned last
          | refused beyond bound => exact .refused beyond bound
      | refused beyond bound => exact .refused beyond bound

/-- All deliveries of the same bytes have the same outcome. -/
theorem outcome_parse_eq
    {maximum : Nat} {pieces others : List Piece}
    (same : pieces.flatMap Piece.bytes = others.flatMap Piece.bytes)
    (within : (pieces.flatMap Piece.bytes).length ≤ maximum) :
    outcome (RespReader.init maximum pieces).parse =
      outcome (RespReader.init maximum others).parse := by
  have first := (parse_follows (init_consistent maximum pieces)).within within
  have second :=
    (parse_follows (init_consistent maximum others)).within (same ▸ within)
  have unused :
      (RespReader.init maximum pieces).unused =
        (RespReader.init maximum others).unused := same
  rw [unused, same, second] at first
  have values := congrArg (Except.map Prod.fst) first
  generalize (RespReader.init maximum pieces).parse = left at values ⊢
  generalize (RespReader.init maximum others).parse = right at values ⊢
  cases left <;> cases right <;> exact values.symm

/-- What was read gives the same value before any other bytes. -/
theorem parse_consumed
    {maximum : Nat} {pieces : List Piece} {value : Reply}
    {later : RespReader}
    (within : (pieces.flatMap Piece.bytes).length ≤ maximum)
    (read : (RespReader.init maximum pieces).parse = .ok (value, later)) :
    ∃ consumed, pieces.flatMap Piece.bytes = consumed ++ later.unused ∧
      ∀ (suffix : Bytes) (cut : List Piece),
        (consumed ++ suffix).length ≤ maximum →
        cut.flatMap Piece.bytes = consumed ++ suffix →
        ∃ last, (RespReader.init maximum cut).parse = .ok (value, last) ∧
          last.unused = suffix := by
  have parsed :=
    (parse_follows (init_consistent maximum pieces)).within within
  rw [read] at parsed
  rcases
    local_parseReply (exhausted maximum (pieces.flatMap Piece.bytes).length)
      (exhausted maximum (pieces.flatMap Piece.bytes).length) maximum
      maxLevels _ value later.unused parsed with ⟨consumed, whole, _⟩
  refine ⟨consumed, whole, fun suffix cut fits bytes => ?_⟩
  rcases
    local_parseReply (exhausted maximum (pieces.flatMap Piece.bytes).length)
      (exhausted maximum (cut.flatMap Piece.bytes).length) maximum
      maxLevels _ value later.unused parsed with
    ⟨front, sameWhole, again⟩
  have same : front = consumed :=
    List.append_cancel_right (sameWhole.symm.trans whole)
  have unused :
      (RespReader.init maximum cut).unused = consumed ++ suffix := bytes
  have followed :=
    (parse_follows (init_consistent maximum cut)).within (bytes ▸ fits)
  rw [unused, ← same, again suffix] at followed
  generalize (RespReader.init maximum cut).parse = result at followed ⊢
  cases result with
  | error error => cases followed
  | ok result =>
      cases followed
      exact ⟨result.2, rfl, rfl⟩

/--
Parsing does not depend on packet boundaries.  All deliveries of the same
bytes have the same outcome; what is returned was read from bytes of its own,
which give the same value before any other bytes, and all other bytes are
left; and the values that Redis can write are read back one after the other,
whatever follows them, unless the bytes go beyond the bound of the reader.
-/
theorem parse_independent (maximum : Nat) :
    (∀ pieces others : List Piece,
      pieces.flatMap Piece.bytes = others.flatMap Piece.bytes →
      (pieces.flatMap Piece.bytes).length ≤ maximum →
      outcome (RespReader.init maximum pieces).parse =
        outcome (RespReader.init maximum others).parse) ∧
    (∀ (pieces : List Piece) (value : Reply) (later : RespReader),
      (pieces.flatMap Piece.bytes).length ≤ maximum →
      (RespReader.init maximum pieces).parse = .ok (value, later) →
      ∃ consumed, pieces.flatMap Piece.bytes =
          consumed ++ (later.buffer ++ later.undelivered) ∧
        ∀ (suffix : Bytes) (cut : List Piece),
          (consumed ++ suffix).length ≤ maximum →
          cut.flatMap Piece.bytes = consumed ++ suffix →
          ∃ last, (RespReader.init maximum cut).parse =
              .ok (value, last) ∧
            last.buffer ++ last.undelivered = suffix) ∧
    (∀ (values : List RespValue) (suffix : Bytes) (pieces : List Piece),
      (∀ value ∈ values, Sendable value) →
      pieces.flatMap Piece.bytes = values.flatMap encodeValue ++ suffix →
      (values.flatMap encodeValue).length ≤ maximum →
      (∃ later, parseAll values.length (RespReader.init maximum pieces) =
          .ok (values.map RespValue.reply, later) ∧
        later.buffer ++ later.undelivered = suffix) ∨
      (maximum < (pieces.flatMap Piece.bytes).length ∧
        (parseAll values.length (RespReader.init maximum pieces) =
            .error boundError ∨
          parseAll values.length (RespReader.init maximum pieces) =
            .error overrunError))) := by
  refine ⟨fun pieces others same within => outcome_parse_eq same within,
    fun pieces value later within read => parse_consumed within read,
    fun values suffix pieces sendable bytes fits => ?_⟩
  have follows :=
    parseAll_encoded (init_consistent maximum pieces) sendable fits bytes
  generalize parseAll values.length (RespReader.init maximum pieces) = read
    at follows
  cases follows with
  | returned consistent => exact .inl ⟨_, rfl, rfl⟩
  | refused beyond bound =>
      right
      rcases bound with rfl | rfl
      · exact ⟨beyond, .inl rfl⟩
      · exact ⟨beyond, .inr rfl⟩

/-- A reply that fits is refused when one more byte comes with it. -/
theorem parse_overrun :
    ¬ ∀ (maximum : Nat) (value : RespValue) (suffix : Bytes)
        (pieces : List Piece),
      Sendable value →
      (encodeValue value).length ≤ maximum →
      pieces.flatMap Piece.bytes = encodeValue value ++ suffix →
      ∃ later, (RespReader.init maximum pieces).parse =
          .ok (value.reply, later) ∧
        later.buffer ++ later.undelivered = suffix := by
  intro always
  have sendable : Sendable .nullBulk := ⟨trivial, Nat.zero_le _⟩
  rcases
    always 5 .nullBulk [43] [⟨36, [45, 49, 13, 10, 43]⟩] sendable
      (by decide) (by decide) with ⟨later, read, _⟩
  have refused :
      RespReader.takeFrom 1
          (RespReader.init 5 [⟨36, [45, 49, 13, 10, 43]⟩]) =
        .error overrunError := by
    rw [RespReader.takeFrom]
    rfl
  have failed :
      (RespReader.init 5 [⟨36, [45, 49, 13, 10, 43]⟩]).parse =
        .error overrunError := by
    change (RespReader.takeFrom 1 _ >>= _) = _
    rw [refused]
    rfl
  rw [failed] at read
  cases read

end KairosDeploy.ColdRedis.ReplyReader
