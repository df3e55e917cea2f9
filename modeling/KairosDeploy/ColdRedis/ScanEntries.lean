import KairosDeploy.ColdRedis.StreamScan

/-!
# What Redis sends for a stream

The replies for the pages of a stream, and what the inspection makes of one
entry: it reads the id and the fields back and decides whether the entry
matches, unless the id has too many digits.
-/

namespace KairosDeploy.ColdRedis.ScanEntries

open KairosDeploy.Library.HexDigest (utf8)
open KairosDeploy.Library.JsonValue (Json getMember)
open KairosDeploy.Library.PyObject
open KairosDeploy.Library.RedisStream
open KairosDeploy.Library.TextBytes
open KairosDeploy.RedisAof.RespReader (Bytes)
open KairosDeploy.ColdRedis.ReplyGrammar
open KairosDeploy.ColdRedis.StreamScan

/-! ## Entries and their replies -/

/-- The fields of an entry, names and values, in order. -/
abbrev FieldList := List (Bytes × Bytes)

/-- `ms-seq`. -/
def idText (id : StreamId) : String :=
  String.ofList (Nat.toDigits 10 id.ms ++ '-' :: Nat.toDigits 10 id.seq)

/-- Names and values as Redis sends them. -/
def fieldValues (fields : FieldList) : List RespValue :=
  fields.flatMap fun field => [.bulk field.1, .bulk field.2]

/-- The values of the fields named `data`. -/
def dataValues (fields : FieldList) : List Bytes :=
  (fields.filter fun field => field.1 = utf8 "data").map Prod.snd

section Matching

variable (probe : Probe)

/--
The entry has exactly one data field, which holds the JSON of an object with
the message id whose canonical form has the digest.
-/
def isMatch (entry : Entry FieldList) : Bool :=
  match dataValues entry.fields with
  | [data] =>
      match probe.loads data with
      | .value (.object members) =>
          (getMember members "message_id").any (isText probe.messageId) &&
            probe.hash (.object members) = .digest probe.payloadSha256
      | _ => false
  | _ => false

/-- Reading the payload of the entry raises nothing that is not expected. -/
structure Quiet (entry : Entry FieldList) : Prop where
  loads : ∀ data, dataValues entry.fields = [data] →
    probe.loads data ≠ .raised
  hash : ∀ data members, dataValues entry.fields = [data] →
    probe.loads data = .value (.object members) →
    probe.hash (.object members) ≠ .raised

/-- The id has as many digits as the inspection allows. -/
def ShortId (id : StreamId) : Prop :=
  id.ms < 10 ^ 20 ∧ id.seq < 10 ^ 10

instance (id : StreamId) : Decidable (ShortId id) :=
  inferInstanceAs (Decidable (_ ∧ _))

/-- The fields are as many as the reader allows. -/
def FewFields (fields : FieldList) : Prop :=
  (fieldValues fields).length ≤ maxArrayCount

instance (fields : FieldList) : Decidable (FewFields fields) :=
  inferInstanceAs (Decidable (_ ≤ _))

/-- The inspection can read the entry. -/
structure Legible (entry : Entry FieldList) : Prop where
  id : ShortId entry.id
  fields : FewFields entry.fields

end Matching

/-! ## Ids -/

section Entry

variable {probe : Probe}

end Entry

/-! ## Pages -/

section Pages

variable (exhausted : ColdRedisError)

end Pages

end KairosDeploy.ColdRedis.ScanEntries
