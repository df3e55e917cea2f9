import KairosDeploy.ColdRedis.ReplyGrammar
import KairosDeploy.Library.PyObject
import KairosDeploy.Library.RedisStream
import KairosDeploy.Library.TextBytes

/-!
# Scanning a stream

`_inspect_stream` of the isolated clone: it asks for the identity of the
server and then for page after page of the stream, each after the last entry
of the page before, and counts the entries whose payload is the one that was
published.
-/

namespace KairosDeploy.ColdRedis.StreamScan

open KairosDeploy.Library.HexDigest
open KairosDeploy.Library.JsonValue
open KairosDeploy.Library.PyObject
open KairosDeploy.Library.TextBytes
open KairosDeploy.RedisAof.RespReader (Bytes)
open KairosDeploy.ColdRedis.ReplyGrammar

/-! ## What is called -/

/-- `XRANGE_PAGE_SIZE`. -/
def xrangePageSize : Nat := 500

/-- What the inspection raises: its own error or another exception. -/
inductive Failure
  | refused (error : ColdRedisError)
  | raised
deriving DecidableEq, Repr

/-- Raise the error with this message. -/
def refuse {Value : Type} (message : String) : Except Failure Value :=
  .error (.refused ⟨message⟩)

/-- What `json.loads` does: `undecodable` is a `UnicodeDecodeError` or a
`JSONDecodeError`, and `raised` any other exception. -/
inductive Loaded
  | value (payload : Json)
  | undecodable
  | raised

/-- What hashing a payload does: `unwritable` is a `TypeError` or a
`ValueError`, and `raised` any other exception. -/
inductive Hashed
  | digest (sha256 : String)
  | unwritable
  | raised
deriving DecidableEq, Repr

/-- `json.loads` of bytes and `_sha256_bytes(_canonical(payload))`. -/
structure PayloadReader where
  loads : Bytes → Loaded
  hash : Json → Hashed

/-- What is looked for, and how payloads are read. -/
structure Probe extends PayloadReader where
  topic : String
  messageId : String
  payloadSha256 : String

/-! ## One entry -/

/-- `_decode`; what is neither bytes nor `None` has no `decode`. -/
def decodeReply : Reply → Except Failure (Option String)
  | .bytes value => .ok (decode value)
  | .none => .ok none
  | .int _ => .error .raised
  | .list _ => .error .raised

/-- The values of the fields named `data`. -/
def dataFields : List Reply → Except Failure (List Reply)
  | name :: value :: rest => do
      let decoded ← decodeReply name
      let others ← dataFields rest
      return if decoded = some "data" then value :: others else others
  | _ => .ok []

/-- The variables of the loop; `visited` are the ids in the order in which the
loop has come to them. -/
structure Scan where
  found : List String
  entriesScanned : Nat
  complete : Bool
  cursor : String
  visited : List String
deriving DecidableEq, Repr

/-- Before the loop. -/
def Scan.start : Scan := ⟨[], 0, false, "-", []⟩

/-- `XRANGE topic minimum + COUNT count`. -/
def xrange (topic cursor : String) (count : Nat) : List String :=
  ["XRANGE", topic, if cursor = "-" then cursor else "(" ++ cursor, "+",
    "COUNT", toString count]

section Server

variable (server : List String → RespValue)

/-- The states of an inspection. -/
inductive InspectionState
  | conflict
  | positiveAccepted
  | inconclusiveZeroMatch
  | inconclusiveScanLimit
deriving DecidableEq, Repr

/-- What is returned, with the ids that were visited. -/
structure Inspection where
  state : InspectionState
  redisServerRunId : String
  matchCount : Option Nat
  streamIds : List String
  entriesScanned : Nat
  scanComplete : Bool
  evidence : Option (List String)
  visited : List String
deriving DecidableEq, Repr

/-- The state of a scan that has ended. -/
def Scan.state (scan : Scan) : InspectionState :=
  if scan.found.length > 1 then
    .conflict
  else if scan.complete ∧ scan.found.length = 1 then
    .positiveAccepted
  else if scan.complete then
    .inconclusiveZeroMatch
  else
    .inconclusiveScanLimit

/-- What is returned for a scan that has ended. -/
def Scan.inspection
    (scan : Scan) (runId : String) (includeEvidence : Bool) :
    Inspection where
  state := scan.state
  redisServerRunId := runId
  matchCount :=
    if scan.complete ∨ scan.found.length > 1 then
      some scan.found.length
    else
      none
  streamIds := scan.found.take 16
  entriesScanned := scan.entriesScanned
  scanComplete := scan.complete
  evidence :=
    if scan.state = .positiveAccepted ∧ includeEvidence then
      some scan.found
    else
      none
  visited := scan.visited

end Server

end KairosDeploy.ColdRedis.StreamScan
