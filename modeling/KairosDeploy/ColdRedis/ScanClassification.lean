import KairosDeploy.ColdRedis.ScanEntries

/-!
# Classification of a stream

A server that honours exclusive bounds and counts sends the pages of the
stream one after the other, so that the scan visits each entry once and in
order.  It ends with the number of matching entries, and it is complete only
if it has seen the end of the stream below its limit.
-/

namespace KairosDeploy.ColdRedis.ScanClassification

open KairosDeploy.Library.HexDigest
open KairosDeploy.Library.RedisStream
open KairosDeploy.Library.TextBytes
open KairosDeploy.ColdRedis.ReplyGrammar
open KairosDeploy.ColdRedis.StreamScan
open KairosDeploy.ColdRedis.ScanEntries

/-- How many of the entries match. -/
def matchCount (probe : Probe) (entries : List (Entry FieldList)) : Nat :=
  entries.countP (isMatch probe)

/-! ## The server -/

/-- The variables of the loop after some entries. -/
def scanAfter (probe : Probe) (entries : List (Entry FieldList)) : Scan where
  found := (entries.filter (isMatch probe)).map fun entry => idText entry.id
  entriesScanned := entries.length
  complete := false
  cursor := (entries.getLast?.map fun entry => idText entry.id).getD "-"
  visited := entries.map fun entry => idText entry.id

section Scan

variable {server : List String → RespValue} {runId : String}
  {stream : Stream FieldList} {probe : Probe}
  {front back page : List (Entry FieldList)}

section Page

variable {scan : Scan} (below : scan.entriesScanned < maxXrangeEntries)

include below

end Page

/--
The scan comes to the entry at this position: the position is below the limit
and fewer than two of the entries before its page match.
-/
structure Reached
    (probe : Probe) (stream : Stream FieldList) (position : Nat)
    (entry : Entry FieldList) : Prop where
  here : stream.entries[position]? = some entry
  below : position < maxXrangeEntries
  few : matchCount probe
    (stream.entries.take
      (xrangePageSize * (position / xrangePageSize))) < 2

/-- The scan has seen all entries below the limit, or two that match. -/
def Ended (probe : Probe) (stream : Stream FieldList) (scan : Scan) : Prop :=
  ∃ seen, seen ≤ min stream.entries.length maxXrangeEntries ∧
    (seen = min stream.entries.length maxXrangeEntries ∨
      2 ≤ matchCount probe (stream.entries.take seen)) ∧
    scan =
      { scanAfter probe (stream.entries.take seen) with
        complete :=
          decide
            (stream.entries.length < maxXrangeEntries ∧
              matchCount probe (stream.entries.take seen) < 2) }

section Pages

variable {pages : Nat} (split : stream.entries = front ++ back)
  (whole : front.length = xrangePageSize * pages)

include split whole

end Pages

/-- What becomes of a scan that has come to a position. -/
structure Outcome
    (probe : Probe) (stream : Stream FieldList) (start : Nat)
    (result : Except Failure Scan) : Prop where
  ended : (∀ position entry, start ≤ position →
      Reached probe stream position entry → Legible entry) →
    ∃ scan, result = .ok scan ∧ Ended probe stream scan
  refused : (∃ position entry, start ≤ position ∧
      Reached probe stream position entry ∧ ¬ Legible entry) →
    ∃ error, result = .error (.refused error)

/-- A scan that goes on after entries that it can read. -/
theorem Outcome.mono
    {start later : Nat} {result : Except Failure Scan}
    (outcome : Outcome probe stream later result) (le : start ≤ later)
    (read : ∀ position entry, start ≤ position → position < later →
      Reached probe stream position entry → Legible entry) :
    Outcome probe stream start result where
  ended := fun all =>
    outcome.ended fun position entry after reached =>
      all position entry (le.trans after) reached
  refused := by
    rintro ⟨position, entry, after, reached, illegible⟩
    by_cases before : position < later
    · exact absurd (read position entry after before reached) illegible
    · exact
        outcome.refused
          ⟨position, entry, not_lt.1 before, reached, illegible⟩

section Step

variable {pages : Nat} (split : stream.entries = front ++ back)
  (whole : front.length = xrangePageSize * pages)
  (below : front.length < maxXrangeEntries)

include split whole

end Step

/-- The inspection is right about the stream. -/
structure Agrees
    (probe : Probe) (stream : Stream FieldList)
    (inspection : Inspection) : Prop where
  scan : ∃ seen, seen ≤ min stream.entries.length maxXrangeEntries ∧
    (seen = min stream.entries.length maxXrangeEntries ∨
      2 ≤ matchCount probe (stream.entries.take seen)) ∧
    inspection.visited =
      (stream.entries.take seen).map (fun entry => idText entry.id) ∧
    inspection.entriesScanned = seen ∧
    inspection.matchCount =
      (if stream.entries.length < maxXrangeEntries ∨
          2 ≤ matchCount probe (stream.entries.take seen) then
        some (matchCount probe (stream.entries.take seen))
      else
        none) ∧
    inspection.streamIds =
      (((stream.entries.take seen).filter (isMatch probe)).map
        fun entry => idText entry.id).take 16
  conflict : inspection.state = .conflict ↔
    2 ≤ matchCount probe (stream.entries.take maxXrangeEntries)
  positiveAccepted : inspection.state = .positiveAccepted ↔
    stream.entries.length < maxXrangeEntries ∧
      matchCount probe stream.entries = 1
  zeroMatch : inspection.state = .inconclusiveZeroMatch ↔
    stream.entries.length < maxXrangeEntries ∧
      matchCount probe stream.entries = 0
  scanLimit : inspection.state = .inconclusiveScanLimit ↔
    maxXrangeEntries ≤ stream.entries.length ∧
      matchCount probe (stream.entries.take maxXrangeEntries) < 2

end Scan

/-- A run id. -/
def zeros : String := "0000000000000000000000000000000000000000"

/-- The id of an entry that one client has chosen. -/
def longId : StreamId := ⟨1, 99999999999⟩

end KairosDeploy.ColdRedis.ScanClassification
