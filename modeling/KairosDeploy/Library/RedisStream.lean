import Mathlib

/-!
# Redis streams

A stream is a list of entries whose ids strictly increase.  The only write
modelled here is `XADD`, which appends an entry with a given id and refuses an
id that is not greater than the last one; `XADD *` is the same write with an
id chosen by the server.
-/

namespace KairosDeploy.Library.RedisStream

universe u

variable {Fields : Type u}

/-- A stream id `ms-seq`. -/
structure StreamId where
  ms : Nat
  seq : Nat
deriving DecidableEq, Repr

/-- Ids are compared by milliseconds, then by sequence number. -/
def StreamId.key (id : StreamId) : Nat ×ₗ Nat :=
  toLex (id.ms, id.seq)

theorem StreamId.key_injective : Function.Injective StreamId.key := by
  intro left right equal
  cases left
  cases right
  cases equal
  rfl

instance : LinearOrder StreamId :=
  LinearOrder.lift' StreamId.key StreamId.key_injective

/-- One stream entry. -/
structure Entry (Fields : Type u) where
  id : StreamId
  fields : Fields
deriving DecidableEq, Repr

/-- A stream, with the id order that Redis maintains. -/
structure Stream (Fields : Type u) where
  entries : List (Entry Fields)
  increasing : entries.Pairwise fun earlier later => earlier.id < later.id

namespace Stream

/-- The stream without entries. -/
def empty : Stream Fields :=
  ⟨[], List.Pairwise.nil⟩

/-- The id of the last entry, `0-0` when there is none. -/
def lastId (stream : Stream Fields) : StreamId :=
  (stream.entries.getLast?.map Entry.id).getD ⟨0, 0⟩

/-- The last id is that of the entry appended last. -/
theorem lastId_of_entries_append
    {stream : Stream Fields} {entries : List (Entry Fields)}
    {entry : Entry Fields} (equal : stream.entries = entries ++ [entry]) :
    stream.lastId = entry.id := by
  simp [lastId, equal]

theorem le_lastId
    (stream : Stream Fields) {entry : Entry Fields}
    (member : entry ∈ stream.entries) :
    entry.id ≤ stream.lastId := by
  rcases List.eq_nil_or_concat stream.entries with empty | ⟨front, last, split⟩
  · rw [empty] at member
    cases member
  · rw [List.concat_eq_append] at split
    have ordered := stream.increasing
    rw [split, List.pairwise_append] at ordered
    rw [split, List.mem_append] at member
    rw [lastId_of_entries_append split]
    rcases member with inFront | isLast
    · exact (ordered.2.2 entry inFront last (by simp)).le
    · rw [List.mem_singleton.1 isLast]

/-- `XADD` with an explicit id. -/
def xadd (stream : Stream Fields) (id : StreamId) (fields : Fields) :
    Option (Stream Fields) :=
  if greater : stream.lastId < id then
    some
      { entries := stream.entries ++ [⟨id, fields⟩]
        increasing := by
          rw [List.pairwise_append]
          refine ⟨stream.increasing, List.pairwise_singleton _ _, ?_⟩
          intro earlier earlierMember later laterMember
          rw [List.mem_singleton.1 laterMember]
          exact (stream.le_lastId earlierMember).trans_lt greater }
  else
    none

/-- `XADD` succeeds exactly on a greater id, and then appends one entry. -/
theorem xadd_eq_some_iff
    (stream after : Stream Fields) (id : StreamId) (fields : Fields) :
    stream.xadd id fields = some after ↔
      stream.lastId < id ∧
        after.entries = stream.entries ++ [⟨id, fields⟩] := by
  unfold xadd
  split_ifs with greater
  · cases after
    simp [greater, eq_comm]
  · simp [greater]

/-- `XRANGE id id`. -/
def xrange (stream : Stream Fields) (id : StreamId) : List (Entry Fields) :=
  stream.entries.filter fun entry => entry.id = id

theorem mem_xrange_iff
    (stream : Stream Fields) (id : StreamId) (entry : Entry Fields) :
    entry ∈ stream.xrange id ↔ entry ∈ stream.entries ∧ entry.id = id := by
  simp [xrange]

/-- `XRANGE (id +`. -/
def after (stream : Stream Fields) (id : StreamId) : List (Entry Fields) :=
  stream.entries.filter fun entry => id < entry.id

/-- Ids identify the entries of a stream. -/
theorem entry_eq_of_id_eq
    (stream : Stream Fields) {left right : Entry Fields}
    (leftMember : left ∈ stream.entries)
    (rightMember : right ∈ stream.entries)
    (equal : left.id = right.id) :
    left = right := by
  have idsNodup : (stream.entries.map Entry.id).Nodup := by
    rw [List.Nodup, List.pairwise_map]
    exact stream.increasing.imp fun less => less.ne
  exact List.inj_on_of_nodup_map idsNodup leftMember rightMember equal

end Stream

end KairosDeploy.Library.RedisStream
