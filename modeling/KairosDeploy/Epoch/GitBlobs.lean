import KairosDeploy.ColdRedis.ReplyGrammar
import KairosDeploy.Library.TextBytes

/-!
# Extracting the blobs of a pinned tree

`_extract_git_blob_snapshot` lists a tree, asks for the sizes of its blobs and
reads the blobs from one stream.  A record of the stream is a header line, the
bytes of the blob and a line feed.  The bytes may look like a header, so that
only the sizes tell where a record ends.  What the reader returns from a
stream is no longer returned when the stream goes on, so every stream that is
cut or extended is refused.
-/

namespace KairosDeploy.Epoch.GitBlobs

open KairosDeploy.ColdRedis.ReplyGrammar
open KairosDeploy.Library.Fields
open KairosDeploy.Library.Refusal
open KairosDeploy.RedisAof.RespFraming
open KairosDeploy.RedisAof.RespReader (Bytes asciiBytes)

/-- `Rejected(message)`. -/
abbrev Message : Type := String

/-- A finished subprocess. -/
structure Completed where
  returncode : Int
  stdout : Bytes

/-! ## Words of a line -/

/-- An ASCII byte at which `int` strips a text. -/
def isTextSpace (byte : UInt8) : Bool :=
  isSpace byte || (28 ≤ byte && byte ≤ 31)

/-- `int(text)` of an ASCII text, absent where it raises `ValueError`. -/
def strInt (text : Bytes) : Option Int :=
  pyInt (trim isTextSpace text)

/-- `line.decode("ascii").split(" ")`, absent where it raises. -/
def asciiWords (line : Bytes) : Option (List Bytes) :=
  if line.all (· < 128) then some (line.splitOn 32) else none

/-- The object, the kind and the size that a line names. -/
def readHeader (line : Bytes) : Option (Bytes × Bytes × Int) := do
  match ← asciiWords line with
  | [objectId, kind, rawSize] =>
      let size ← strInt rawSize
      return (objectId, kind, size)
  | _ => none

/-! ## The entries of the tree -/

/-- An entry of the tree. -/
structure TreeEntry where
  objectId : Bytes
  path : String
  relativeParts : List (List Char)
  mode : Bytes
deriving DecidableEq

/-- `path.split("/")`. -/
def partsOf (path : String) : List (List Char) :=
  path.toList.splitOn '/'

/-- `item.rstrip("/")`. -/
def withoutSlashes (item : List Char) : List Char :=
  (item.reverse.dropWhile (· = '/')).reverse

/-- `path == item or path.startswith(item.rstrip("/") + "/")`. -/
def isUnder (path item : String) : Bool :=
  path = item ||
    (withoutSlashes item.toList ++ ['/']).isPrefixOf path.toList

/-- `re.fullmatch(r"[0-9a-f]{40}", object_id)`. -/
def isObjectId (objectId : Bytes) : Bool :=
  objectId.length = 40 &&
    objectId.all fun byte => (48 ≤ byte && byte ≤ 57) ||
      (97 ≤ byte && byte ≤ 102)

/-- A path that the tree may not list. -/
def isUnsafe (paths : List String) (seen : List String) (path : String) :
    Bool :=
  path = "" || path.toList.contains '\\' || path.toList.head? = some '/' ||
    (partsOf path).any (fun part =>
      part = [] || part = ['.'] || part = ['.', '.']) ||
    seen.contains path || !paths.any (isUnder path)

/-- The components of the target, below the destination. -/
def relativePartsOf (stripPrefix : Option String) (path : String) :
    Except Message (List (List Char)) :=
  match stripPrefix, partsOf path with
  | none, parts => .ok parts
  | some first, head :: rest =>
      if head ≠ first.toList ∨ rest = [] then
        .error "PINNED_SOURCE_ARCHIVE_PREFIX_REQUIRED"
      else
        .ok rest
  | some _, [] => .error "PINNED_SOURCE_ARCHIVE_PREFIX_REQUIRED"

/-- One record of the tree. -/
def readEntry (paths : List String) (stripPrefix : Option String)
    (seen : List String) (record : Bytes) : Except Message TreeEntry :=
  match record.dropWhile (· ≠ 9) with
  | [] => .error "PINNED_GIT_BLOB_ENTRY_REJECTED"
  | _ :: rawPath =>
      match asciiWords (record.takeWhile (· ≠ 9)),
        Library.TextBytes.decode rawPath with
      | some [mode, kind, objectId], some path =>
          if !(mode = asciiBytes "100644" || mode = asciiBytes "100755") ||
              kind ≠ asciiBytes "blob" || !isObjectId objectId ||
              isUnsafe paths seen path then
            .error "PINNED_GIT_BLOB_ENTRY_REJECTED"
          else do
            let relativeParts ← relativePartsOf stripPrefix path
            return ⟨objectId, path, relativeParts, mode⟩
      | _, _ => .error "PINNED_GIT_BLOB_ENTRY_REJECTED"

/-- The loop over the records, after the entries that were read so far. -/
def readRecords (paths : List String) (stripPrefix : Option String)
    (entries : List TreeEntry) : List Bytes → Except Message (List TreeEntry)
  | [] => .ok entries
  | record :: rest =>
      if record = [] then
        readRecords paths stripPrefix entries rest
      else do
        let entry ←
          readEntry paths stripPrefix (entries.map TreeEntry.path) record
        refuseIf (entries.length + 1 > 2048)
          "PINNED_SOURCE_ARCHIVE_SIZE_LIMIT"
        readRecords paths stripPrefix (entries ++ [entry]) rest

/-- The entries of the tree. -/
def readEntries (paths : List String) (stripPrefix : Option String)
    (tree : Completed) : Except Message (List TreeEntry) := do
  refuseIf (tree.returncode ≠ 0 ∨ tree.stdout.length > 4 * 1024 * 1024)
    "PINNED_GIT_BLOB_TREE_FAILED"
  let entries ← readRecords paths stripPrefix [] (tree.stdout.splitOn 0)
  refuseIf (entries = []) "CREATE_ONLY_PINNED_SOURCE_SNAPSHOT_REQUIRED"
  return entries

/-! ## The sizes of the blobs -/

/-- `output.splitlines()` of bytes, the line being read given in reverse. -/
def splitLinesFrom (line : Bytes) : Bytes → List Bytes
  | [] => if line = [] then [] else [line.reverse]
  | 13 :: 10 :: rest => line.reverse :: splitLinesFrom [] rest
  | byte :: rest =>
      if byte = 10 ∨ byte = 13 then
        line.reverse :: splitLinesFrom [] rest
      else
        splitLinesFrom (byte :: line) rest

/-- The loop over the entries and the rows of their sizes. -/
def readRows (total : Nat) :
    List (TreeEntry × Bytes) → Except Message (List Nat)
  | [] => .ok []
  | (entry, row) :: rest =>
      match readHeader row with
      | none => .error "PINNED_GIT_BLOB_SIZE_CHECK_FAILED"
      | some (objectId, kind, size) => do
          refuseIf
            (objectId ≠ entry.objectId ∨ kind ≠ asciiBytes "blob" ∨
              size < 0 ∨ size > 16 * 1024 ^ 2)
            "PINNED_GIT_BLOB_SIZE_CHECK_FAILED"
          refuseIf (total + size.toNat > 128 * 1024 ^ 2)
            "PINNED_SOURCE_ARCHIVE_SIZE_LIMIT"
          let sizes ← readRows (total + size.toNat) rest
          return size.toNat :: sizes

/-- The sizes of the blobs. -/
def readSizes (entries : List TreeEntry) (checked : Completed) :
    Except Message (List Nat) := do
  let rows :=
    if checked.returncode = 0 then splitLinesFrom [] checked.stdout else []
  refuseIf (rows.length ≠ entries.length)
    "PINNED_GIT_BLOB_SIZE_CHECK_FAILED"
  readRows 0 (entries.zip rows)

/-! ## The blobs -/

/-- One record of the stream, and what follows it. -/
def readBlob (objectId : Bytes) (size : Nat) (stream : Bytes) :
    Except Message (Bytes × Bytes) :=
  match stream.dropWhile (· ≠ 10) with
  | [] => .error "PINNED_GIT_BLOB_READ_FAILED"
  | _ :: body =>
      match readHeader (stream.takeWhile (· ≠ 10)) with
      | none => .error "PINNED_GIT_BLOB_READ_FAILED"
      | some (found, kind, reported) =>
          if found ≠ objectId ∨ kind ≠ asciiBytes "blob" ∨
              reported ≠ size ∨ body.length ≤ size ∨
              body[size]? ≠ some 10 then
            .error "PINNED_GIT_BLOB_READ_FAILED"
          else
            .ok (body.take size, body.drop (size + 1))

/-- The loop over the entries with their sizes. -/
def readBlobs :
    List (TreeEntry × Nat) → Bytes → Except Message (List Bytes)
  | [], stream => do
      refuseIf (stream ≠ []) "PINNED_GIT_BLOB_READ_FAILED"
      return []
  | (entry, size) :: others, stream => do
      let (blob, rest) ← readBlob entry.objectId size stream
      let blobs ← readBlobs others rest
      return blob :: blobs

/-- A file that is written: the components of its path, its mode, its
bytes. -/
structure Written where
  relativeParts : List (List Char)
  executable : Bool
  bytes : Bytes

/-- `_extract_git_blob_snapshot`, up to the writing of the files. -/
def extractGitBlobSnapshot (paths : List String)
    (stripPrefix : Option String) (tree checked content : Completed) :
    Except Message (List Written) := do
  let entries ← readEntries paths stripPrefix tree
  let sizes ← readSizes entries checked
  refuseIf (content.returncode ≠ 0) "PINNED_GIT_BLOB_READ_FAILED"
  let blobs ← readBlobs (entries.zip sizes) content.stdout
  return (entries.zip blobs).map fun file =>
    ⟨file.1.relativeParts, file.1.mode = asciiBytes "100755", file.2⟩

/-! ## Records of the stream -/

/-- The record with a header. -/
def record (header blob : Bytes) : Bytes :=
  header ++ 10 :: (blob ++ [10])

/-- The records one after the other. -/
def streamOf (records : List (Bytes × Bytes)) : Bytes :=
  records.flatMap fun file => record file.1 file.2

/-- A line that names an object, a kind and a size. -/
def Header (line : Bytes) (objectId kind : Bytes) (size : Int) : Prop :=
  10 ∉ line ∧ readHeader line = some (objectId, kind, size)

/-- The record belongs to the entry: its header names the blob of the entry
with its size, and the bytes have this size. -/
structure Fits (entry : TreeEntry × Nat) (file : Bytes × Bytes) : Prop where
  header : Header file.1 entry.1.objectId (asciiBytes "blob") entry.2
  size : file.2.length = entry.2

theorem takeWhile_line {line : Bytes} (inside : 10 ∉ line) (rest : Bytes) :
    (line ++ 10 :: rest).takeWhile (· ≠ 10) = line ∧
      (line ++ 10 :: rest).dropWhile (· ≠ 10) = 10 :: rest := by
  have other : ∀ byte ∈ line, decide (byte ≠ 10) = true := by
    intro byte member
    rw [decide_eq_true_eq]
    rintro rfl
    exact inside member
  constructor
  · rw [List.takeWhile_append_of_pos other]
    simp
  · rw [List.dropWhile_append_of_pos other]
    simp

theorem record_append (header blob rest : Bytes) :
    record header blob ++ rest = header ++ 10 :: (blob ++ 10 :: rest) := by
  simp [record]

/-- A record of the entry is read. -/
theorem readBlob_record {entry : TreeEntry × Nat} {file : Bytes × Bytes}
    (fits : Fits entry file) (rest : Bytes) :
    readBlob entry.1.objectId entry.2 (record file.1 file.2 ++ rest) =
      .ok (file.2, rest) := by
  rcases fits with ⟨⟨inside, named⟩, size⟩
  rcases takeWhile_line inside (file.2 ++ 10 :: rest) with ⟨front, back⟩
  rw [record_append, readBlob, back]
  simp only [front, named]
  rw [if_neg]
  · rw [List.take_left' size, ← List.drop_drop, List.drop_left' size]
    rfl
  · rw [← size]
    simp

/-- What is read is a record of the entry. -/
theorem readBlob_ok {entry : TreeEntry × Nat} {stream blob rest : Bytes}
    (read : readBlob entry.1.objectId entry.2 stream = .ok (blob, rest)) :
    ∃ header, Fits entry (header, blob) ∧
      stream = record header blob ++ rest := by
  rw [readBlob] at read
  cases found : stream.dropWhile (· ≠ 10) with
  | nil =>
      rw [found] at read
      cases read
  | cons byte body =>
      have isEnd : byte = 10 := by
        have nonempty : stream.dropWhile (· ≠ 10) ≠ [] := by
          rw [found]
          exact List.cons_ne_nil _ _
        have stops := List.head_dropWhile_not _ nonempty
        have head : (stream.dropWhile (· ≠ 10)).head nonempty = byte := by
          simp only [found, List.head_cons]
        rw [head] at stops
        simpa using stops
      subst isEnd
      rw [found] at read
      dsimp only at read
      cases named : readHeader (stream.takeWhile (· ≠ 10)) with
      | none =>
          rw [named] at read
          cases read
      | some header =>
          rcases header with ⟨objectId, kind, reported⟩
          rw [named] at read
          dsimp only at read
          split_ifs at read with wrong
          · simp only [not_or, not_not, not_le, ne_eq] at wrong
            rcases wrong with ⟨rfl, rfl, rfl, long, ends⟩
            cases read
            refine ⟨stream.takeWhile (· ≠ 10), ⟨⟨?_, named⟩, ?_⟩, ?_⟩
            · intro member
              simpa using List.mem_takeWhile_imp member
            · exact List.length_take_of_le (le_of_lt long)
            · have shape :
                  body.drop entry.2 = 10 :: body.drop (entry.2 + 1) := by
                rw [List.drop_eq_getElem_cons long]
                rw [List.getElem?_eq_getElem long,
                  Option.some.injEq] at ends
                rw [ends]
              rw [record_append, ← shape, List.take_append_drop, ← found,
                List.takeWhile_append_dropWhile]

/-! ## Whole streams -/

theorem streamOf_cons (file : Bytes × Bytes)
    (records : List (Bytes × Bytes)) :
    streamOf (file :: records) =
      record file.1 file.2 ++ streamOf records :=
  rfl

/-- The records are read, and nothing may follow them. -/
theorem readBlobs_streamOf
    {entries : List (TreeEntry × Nat)} {records : List (Bytes × Bytes)}
    (fits : List.Forall₂ Fits entries records) (more : Bytes) :
    readBlobs entries (streamOf records ++ more) =
      if more = [] then .ok (records.map Prod.snd)
      else .error "PINNED_GIT_BLOB_READ_FAILED" := by
  induction fits with
  | nil =>
      by_cases ended : more = [] <;>
        simp [readBlobs, streamOf, refuseIf, ended]
  | @cons entry file others records first _ induction =>
      rw [streamOf_cons, List.append_assoc, readBlobs,
        readBlob_record first]
      simp only [bind, Except.bind]
      rw [induction]
      split_ifs
      · rfl
      · rfl

/-- What is read is a stream of records of the entries. -/
theorem readBlobs_ok
    {entries : List (TreeEntry × Nat)} {stream : Bytes}
    {blobs : List Bytes} (read : readBlobs entries stream = .ok blobs) :
    ∃ records, List.Forall₂ Fits entries records ∧
      stream = streamOf records ∧ blobs = records.map Prod.snd := by
  induction entries generalizing stream blobs with
  | nil =>
      simp only [readBlobs, bind_eq_ok_iff, refuseIf_eq_ok_iff, not_not,
        pure_eq_ok_iff] at read
      rcases read with ⟨_, rfl, rfl⟩
      exact ⟨[], .nil, rfl, rfl⟩
  | cons entry others induction =>
      rw [readBlobs, bind_eq_ok_iff] at read
      rcases read with ⟨⟨blob, rest⟩, first, read⟩
      simp only [bind_eq_ok_iff, pure_eq_ok_iff] at read
      rcases read with ⟨later, read, rfl⟩
      rcases readBlob_ok first with ⟨header, fits, rfl⟩
      rcases induction read with ⟨records, matched, rfl, rfl⟩
      exact ⟨(header, blob) :: records, .cons fits matched, rfl, rfl⟩

/-- A stream that is read is refused when it goes on. -/
theorem readBlobs_extended
    {entries : List (TreeEntry × Nat)} {stream more : Bytes}
    {blobs : List Bytes} (read : readBlobs entries stream = .ok blobs)
    (extended : more ≠ []) :
    readBlobs entries (stream ++ more) =
      .error "PINNED_GIT_BLOB_READ_FAILED" := by
  rcases readBlobs_ok read with ⟨records, fits, rfl, rfl⟩
  rw [readBlobs_streamOf fits, if_neg extended]

/-- A strict prefix of a stream that is read is refused. -/
theorem readBlobs_cut
    {entries : List (TreeEntry × Nat)} {stream cut : Bytes}
    {blobs others : List Bytes} (read : readBlobs entries stream = .ok blobs)
    (begins : cut <+: stream) (strict : cut ≠ stream) :
    readBlobs entries cut ≠ .ok others := by
  intro readCut
  rcases begins with ⟨more, rfl⟩
  have extended : more ≠ [] := by
    rintro rfl
    exact strict (List.append_nil cut).symm
  rw [readBlobs_extended readCut extended] at read
  cases read

/-- A line that does not name the blob of the entry with its size. -/
structure OtherHeader (entry : TreeEntry × Nat) (line : Bytes) : Prop where
  isLine : 10 ∉ line
  names :
    readHeader line ≠
      some (entry.1.objectId, asciiBytes "blob", (entry.2 : Int))

/-- Under another header nothing is read, whatever follows. -/
theorem readBlob_otherHeader
    {entry : TreeEntry × Nat} {line : Bytes}
    (other : OtherHeader entry line) (rest : Bytes) (file : Bytes × Bytes) :
    readBlob entry.1.objectId entry.2 (line ++ 10 :: rest) ≠ .ok file := by
  intro read
  rcases readBlob_ok read with ⟨header, fits, shape⟩
  rw [record_append] at shape
  have left := (takeWhile_line other.isLine rest).1
  have right :=
    (takeWhile_line fits.header.1 (file.1 ++ 10 :: file.2)).1
  rw [shape, right] at left
  have named := fits.header.2
  rw [left] at named
  exact other.names named

/-- A stream is refused at the first header that does not name its entry. -/
theorem readBlobs_otherHeader
    {before after : List (TreeEntry × Nat)} {entry : TreeEntry × Nat}
    {records : List (Bytes × Bytes)} {line : Bytes}
    (fits : List.Forall₂ Fits before records)
    (other : OtherHeader entry line) (rest : Bytes) (blobs : List Bytes) :
    readBlobs (before ++ entry :: after)
        (streamOf records ++ (line ++ 10 :: rest)) ≠
      .ok blobs := by
  induction fits generalizing blobs with
  | nil =>
      intro read
      rcases (bind_eq_ok_iff _ _ _).1 read with ⟨file, first, _⟩
      exact readBlob_otherHeader other rest file first
  | @cons named file earlier records first _ induction =>
      intro read
      rw [streamOf_cons, List.append_assoc, List.cons_append, readBlobs,
        readBlob_record first] at read
      rcases (bind_eq_ok_iff _ _ _).1 read with ⟨_, same, read⟩
      cases same
      rcases (bind_eq_ok_iff _ _ _).1 read with ⟨later, read, _⟩
      exact induction later read

/-- A record as a batch writes it: a header of the size of its bytes. -/
def WellFormed (file : Bytes × Bytes) : Prop :=
  ∃ objectId kind, Header file.1 objectId kind file.2.length

/-- Every header of a stream that is read names its entry. -/
theorem fits_of_readBlobs
    {entries : List (TreeEntry × Nat)} {records : List (Bytes × Bytes)}
    (formed : ∀ file ∈ records, WellFormed file) {blobs : List Bytes}
    (read : readBlobs entries (streamOf records) = .ok blobs) :
    List.Forall₂ Fits entries records ∧ blobs = records.map Prod.snd := by
  induction entries generalizing records blobs with
  | nil =>
      rcases readBlobs_ok read with ⟨none, fits, empty, rfl⟩
      cases fits
      cases records with
      | nil => exact ⟨.nil, rfl⟩
      | cons file others =>
          have impossible := congrArg List.length empty
          simp [streamOf, record] at impossible
  | cons entry others induction =>
      rcases readBlobs_ok read with ⟨found, fits, shape, rfl⟩
      cases fits with
      | @cons _ first _ later fits matched =>
          cases records with
          | nil =>
              have impossible := congrArg List.length shape
              simp [streamOf, record] at impossible
          | cons file rest =>
              rw [List.forall_mem_cons] at formed
              rcases formed with ⟨⟨objectId, kind, inside, named⟩, formed⟩
              rw [streamOf_cons, streamOf_cons, record_append,
                record_append] at shape
              have left := takeWhile_line inside
                (file.2 ++ 10 :: streamOf rest)
              have right := takeWhile_line fits.header.1
                (first.2 ++ 10 :: streamOf later)
              have header : file.1 = first.1 := by
                rw [← left.1, shape, right.1]
              have body := left.2.symm.trans (shape ▸ right.2)
              rw [List.cons.injEq] at body
              have size : file.2.length = first.2.length := by
                have sizes := fits.header.2
                rw [← header, named] at sizes
                simp only [Option.some.injEq, Prod.mk.injEq,
                  Nat.cast_inj] at sizes
                rw [sizes.2.2, fits.size]
              rcases List.append_inj body.2 size with ⟨blob, tail⟩
              have same : file = first := Prod.ext header blob
              subst same
              rw [List.cons.injEq] at tail
              have others := readBlobs_streamOf matched []
              rw [List.append_nil, if_pos rfl, ← tail.2] at others
              rcases induction formed others with ⟨matched, values⟩
              exact ⟨.cons fits matched, by
                rw [List.map_cons, List.map_cons, values]⟩

/-! ## The entries of the tree -/

/-- The path is relative, without an unsafe component, and requested. -/
structure Contained (paths : List String) (path : String) : Prop where
  relative : path.toList.head? ≠ some '/'
  noBackslash : '\\' ∉ path.toList
  components : ∀ part ∈ partsOf path,
    part ≠ [] ∧ part ≠ ['.'] ∧ part ≠ ['.', '.']
  requested : ∃ item ∈ paths, isUnder path item = true

theorem contained_of_safe {paths seen : List String} {path : String}
    (safe : isUnsafe paths seen path = false) :
    Contained paths path ∧ path ∉ seen := by
  simp only [isUnsafe, Bool.or_eq_false_iff, Bool.not_eq_false',
    decide_eq_false_iff_not, List.any_eq_false, List.any_eq_true,
    Bool.or_eq_true, decide_eq_true_eq, not_or, List.contains_eq_mem] at safe
  rcases safe with ⟨⟨⟨⟨⟨_, backslash⟩, root⟩, parts⟩, fresh⟩, under⟩
  exact
    ⟨⟨root, backslash, fun part member =>
      ⟨(parts part member).1.1, (parts part member).1.2,
        (parts part member).2⟩, under⟩, fresh⟩

theorem partsOf_injective : Function.Injective partsOf := by
  intro left right same
  have joined := congrArg (['/'].intercalate) same
  rw [partsOf, partsOf, List.intercalate_splitOn,
    List.intercalate_splitOn] at joined
  exact String.toList_injective joined

/-- The target of an entry determines its path. -/
theorem path_of_relativeParts {stripPrefix : Option String}
    {left right : String} {parts : List (List Char)}
    (fromLeft : relativePartsOf stripPrefix left = .ok parts)
    (fromRight : relativePartsOf stripPrefix right = .ok parts) :
    left = right := by
  apply partsOf_injective
  cases stripPrefix with
  | none =>
      simp only [relativePartsOf, Except.ok.injEq] at fromLeft fromRight
      rw [fromLeft, fromRight]
  | some first =>
      cases leftParts : partsOf left with
      | nil => simp [relativePartsOf, leftParts] at fromLeft
      | cons leftHead leftRest =>
          cases rightParts : partsOf right with
          | nil => simp [relativePartsOf, rightParts] at fromRight
          | cons rightHead rightRest =>
              simp only [relativePartsOf, leftParts] at fromLeft
              simp only [relativePartsOf, rightParts] at fromRight
              split_ifs at fromLeft fromRight with inLeft inRight
              · simp only [not_or, not_not, ne_eq] at inLeft inRight
                rw [Except.ok.injEq] at fromLeft fromRight
                rw [inLeft.1, inRight.1, fromLeft, fromRight]

/-- The components of a target are components of the path. -/
theorem relativeParts_sublist {stripPrefix : Option String} {path : String}
    {parts : List (List Char)}
    (stripped : relativePartsOf stripPrefix path = .ok parts) :
    parts ≠ [] ∧ ∀ part ∈ parts, part ∈ partsOf path := by
  cases stripPrefix with
  | none =>
      simp only [relativePartsOf, Except.ok.injEq] at stripped
      subst stripped
      exact ⟨List.splitOn_ne_nil _ _, fun _ member => member⟩
  | some first =>
      cases shape : partsOf path with
      | nil => simp [relativePartsOf, shape] at stripped
      | cons head rest =>
          simp only [relativePartsOf, shape] at stripped
          split_ifs at stripped with other
          · simp only [not_or, not_not, ne_eq] at other
            cases stripped
            exact
              ⟨other.2, fun part member => List.mem_cons_of_mem _ member⟩

/-- What holds of the entries of a tree. -/
structure Listed (paths : List String) (stripPrefix : Option String)
    (entries : List TreeEntry) : Prop where
  objects : ∀ entry ∈ entries, isObjectId entry.objectId = true
  contained : ∀ entry ∈ entries, Contained paths entry.path
  stripped : ∀ entry ∈ entries,
    relativePartsOf stripPrefix entry.path = .ok entry.relativeParts
  distinct : (entries.map TreeEntry.path).Nodup

theorem readEntry_ok {paths : List String} {stripPrefix : Option String}
    {seen : List String} {record : Bytes} {entry : TreeEntry}
    (read : readEntry paths stripPrefix seen record = .ok entry) :
    isObjectId entry.objectId = true ∧ Contained paths entry.path ∧
      entry.path ∉ seen ∧
      relativePartsOf stripPrefix entry.path = .ok entry.relativeParts := by
  unfold readEntry at read
  split at read
  · cases read
  · split at read
    · split_ifs at read with wrong
      · rw [bind_eq_ok_iff] at read
        rcases read with ⟨relativeParts, stripped, made⟩
        cases made
        simp only [Bool.or_eq_true, not_or, Bool.not_eq_true,
          Bool.not_eq_false'] at wrong
        rcases contained_of_safe wrong.2 with ⟨contained, fresh⟩
        exact ⟨wrong.1.2, contained, fresh, stripped⟩
    · cases read

theorem readRecords_ok {paths : List String} {stripPrefix : Option String}
    {entries final : List TreeEntry} {records : List Bytes}
    (listed : Listed paths stripPrefix entries)
    (read : readRecords paths stripPrefix entries records = .ok final) :
    Listed paths stripPrefix final := by
  induction records generalizing entries with
  | nil =>
      cases read
      exact listed
  | cons record rest induction =>
      rw [readRecords] at read
      split_ifs at read with empty
      · exact induction listed read
      · simp only [bind_eq_ok_iff, refuseIf_eq_ok_iff] at read
        rcases read with ⟨entry, first, _, _, others⟩
        rcases readEntry_ok first with
          ⟨object, contained, fresh, stripped⟩
        refine induction ⟨?_, ?_, ?_, ?_⟩ others
        · intro other member
          rcases List.mem_append.1 member with old | new
          · exact listed.objects other old
          · exact List.mem_singleton.1 new ▸ object
        · intro other member
          rcases List.mem_append.1 member with old | new
          · exact listed.contained other old
          · exact List.mem_singleton.1 new ▸ contained
        · intro other member
          rcases List.mem_append.1 member with old | new
          · exact listed.stripped other old
          · exact List.mem_singleton.1 new ▸ stripped
        · rw [List.map_append, List.map_singleton]
          exact
            List.nodup_append.2
              ⟨listed.distinct, List.nodup_singleton _, by
                intro left inLeft right inRight same
                rw [List.mem_singleton] at inRight
                exact fresh (inRight ▸ same ▸ inLeft)⟩

theorem readEntries_ok {paths : List String} {stripPrefix : Option String}
    {tree : Completed} {entries : List TreeEntry}
    (read : readEntries paths stripPrefix tree = .ok entries) :
    Listed paths stripPrefix entries := by
  simp only [readEntries, bind_eq_ok_iff, refuseIf_eq_ok_iff,
    pure_eq_ok_iff] at read
  rcases read with ⟨_, _, final, records, _, _, rfl⟩
  have empty : Listed paths stripPrefix [] :=
    ⟨by simp, by simp, by simp, List.nodup_nil⟩
  exact readRecords_ok empty records

/-- Different entries have different targets. -/
theorem nodup_relativeParts {paths : List String}
    {stripPrefix : Option String} {entries : List TreeEntry}
    (listed : Listed paths stripPrefix entries) :
    (entries.map TreeEntry.relativeParts).Nodup := by
  have apart := List.Nodup.of_map _ listed.distinct
  refine (List.nodup_map_iff_inj_on apart).2 ?_
  intro left inLeft right inRight same
  have fromLeft := listed.stripped left inLeft
  rw [same] at fromLeft
  have path := path_of_relativeParts fromLeft (listed.stripped right inRight)
  exact List.inj_on_of_nodup_map listed.distinct inLeft inRight path

/-! ## The output of git -/

/-- `<oid> blob <size>`. -/
def headerOf (objectId : Bytes) (size : Nat) : Bytes :=
  objectId ++ 32 :: (asciiBytes "blob" ++ 32 :: decimalBytes size)

/-- The output of `git cat-file --batch` for the blobs. -/
def batchOf (entries : List TreeEntry) (blobs : List Bytes) : Bytes :=
  streamOf ((entries.zip blobs).map fun file =>
    (headerOf file.1.objectId file.2.length, file.2))

theorem blob_bytes : asciiBytes "blob" = [98, 108, 111, 98] := by
  decide

theorem isObjectId_byte {objectId : Bytes}
    (object : isObjectId objectId = true) :
    ∀ byte ∈ objectId, byte < 128 ∧ byte ≠ 32 ∧ byte ≠ 10 := by
  intro byte member
  simp only [isObjectId, Bool.and_eq_true, List.all_eq_true,
    Bool.or_eq_true, decide_eq_true_eq, UInt8.le_iff_toNat_le] at object
  have range := object.2 byte member
  have low : 48 ≤ byte.toNat := by
    rcases range with digit | letter
    · exact digit.1
    · exact le_trans (by decide) letter.1
  have high : byte.toNat ≤ 102 := by
    rcases range with digit | letter
    · exact le_trans digit.2 (by decide)
    · exact letter.2
  refine ⟨UInt8.lt_iff_toNat_lt.2 (lt_of_le_of_lt high (by decide)), ?_, ?_⟩
  · rintro rfl
    exact absurd low (by decide)
  · rintro rfl
    exact absurd low (by decide)

theorem decimalBytes_byte (number : Nat) :
    ∀ byte ∈ decimalBytes number,
      byte < 128 ∧ byte ≠ 32 ∧ byte ≠ 10 ∧ isTextSpace byte = false := by
  intro byte member
  have digit := isDigit_decimalBytes number byte member
  simp only [RedisAof.RespReader.isDigit, Bool.and_eq_true,
    decide_eq_true_eq, UInt8.le_iff_toNat_le] at digit
  have low : 48 ≤ byte.toNat := digit.1
  have high : byte.toNat ≤ 57 := digit.2
  refine ⟨UInt8.lt_iff_toNat_lt.2 (lt_of_le_of_lt high (by decide)), ?_, ?_,
    ?_⟩
  · rintro rfl
    exact absurd low (by decide)
  · rintro rfl
    exact absurd low (by decide)
  · have above : ∀ limit : UInt8, limit.toNat < 48 → ¬ byte ≤ limit := by
      intro limit small within
      rw [UInt8.le_iff_toNat_le] at within
      omega
    have other : byte ≠ 32 := by
      rintro rfl
      exact absurd low (by decide)
    simp [isTextSpace, isSpace, other, above 13 (by decide),
      above 31 (by decide)]

/-- The digits of a size are read back. -/
theorem strInt_decimalBytes {number : Nat} (small : number < 10 ^ 20) :
    strInt (decimalBytes number) = some (number : Int) := by
  have free : Free isTextSpace (decimalBytes number) := fun byte member =>
    (decimalBytes_byte number byte member).2.2.2
  rw [strInt, trim_of_free free]
  exact pyInt_signed false small

/-- The header that git writes names its object. -/
theorem header_headerOf {objectId : Bytes}
    (object : isObjectId objectId = true) {size : Nat}
    (small : size < 10 ^ 20) :
    Header (headerOf objectId size) objectId (asciiBytes "blob") size := by
  have inObject := isObjectId_byte object
  have inSize := decimalBytes_byte size
  constructor
  · intro member
    simp only [headerOf, blob_bytes, List.mem_append, List.mem_cons] at member
    rcases member with inside | space | (letter | letter | letter | letter |
      none) | space | inside
    · exact (inObject 10 inside).2.2 rfl
    · exact absurd space (by decide)
    · exact absurd letter (by decide)
    · exact absurd letter (by decide)
    · exact absurd letter (by decide)
    · exact absurd letter (by decide)
    · cases none
    · exact absurd space (by decide)
    · exact (inSize 10 inside).2.2.1 rfl
  · have ascii : (headerOf objectId size).all (· < 128) = true := by
      rw [headerOf, List.all_append, List.all_cons, List.all_append,
        List.all_cons]
      simp only [Bool.and_eq_true]
      refine ⟨?_, rfl, by decide, rfl, ?_⟩
      · exact List.all_eq_true.2 fun byte member =>
          decide_eq_true (inObject byte member).1
      · exact List.all_eq_true.2 fun byte member =>
          decide_eq_true (inSize byte member).1
    have words :
        asciiWords (headerOf objectId size) =
          some [objectId, asciiBytes "blob", decimalBytes size] := by
      rw [asciiWords, if_pos ascii, headerOf,
        List.splitOn_append_cons_self_of_not_mem fun member =>
          (inObject 32 member).2.1 rfl,
        List.splitOn_append_cons_self_of_not_mem (by decide),
        List.splitOn_eq_singleton fun member => (inSize 32 member).2.1 rfl]
    rw [readHeader, words]
    simp [strInt_decimalBytes small]

theorem readRows_ok {total : Nat} {rows : List (TreeEntry × Bytes)}
    {sizes : List Nat} (read : readRows total rows = .ok sizes) :
    sizes.length = rows.length ∧ ∀ size ∈ sizes, size ≤ 16 * 1024 ^ 2 := by
  induction rows generalizing total sizes with
  | nil =>
      cases read
      simp
  | cons head rest induction =>
      rcases head with ⟨entry, row⟩
      rw [readRows] at read
      cases named : readHeader row with
      | none =>
          rw [named] at read
          cases read
      | some header =>
          rw [named] at read
          simp only [bind_eq_ok_iff, refuseIf_eq_ok_iff,
            pure_eq_ok_iff] at read
          rcases read with ⟨_, bounded, _, _, others, later, rfl⟩
          rcases induction later with ⟨lengths, small⟩
          simp only [not_or, not_lt, gt_iff_lt] at bounded
          refine ⟨by simp [lengths], List.forall_mem_cons.2 ⟨?_, small⟩⟩
          have range := bounded.2.2
          omega

theorem readSizes_ok {entries : List TreeEntry} {checked : Completed}
    {sizes : List Nat} (read : readSizes entries checked = .ok sizes) :
    sizes.length = entries.length ∧
      ∀ size ∈ sizes, size ≤ 16 * 1024 ^ 2 := by
  simp only [readSizes, bind_eq_ok_iff, refuseIf_eq_ok_iff, not_not,
    ne_eq] at read
  rcases read with ⟨_, same, rows⟩
  rcases readRows_ok rows with ⟨lengths, small⟩
  refine ⟨?_, small⟩
  rw [lengths, List.length_zip, same, min_self]

/-- The records that git writes fit the entries. -/
theorem fits_batchOf {entries : List TreeEntry} {blobs : List Bytes}
    (objects : ∀ entry ∈ entries, isObjectId entry.objectId = true)
    (lengths : blobs.length = entries.length)
    (small : ∀ blob ∈ blobs, blob.length < 10 ^ 20) :
    List.Forall₂ Fits (entries.zip (blobs.map List.length))
      ((entries.zip blobs).map fun file =>
        (headerOf file.1.objectId file.2.length, file.2)) := by
  induction entries generalizing blobs with
  | nil => exact .nil
  | cons entry rest induction =>
      cases blobs with
      | nil => cases lengths
      | cons blob others =>
          rw [List.forall_mem_cons] at objects small
          refine .cons ⟨?_, rfl⟩
            (induction objects.2 (Nat.succ.inj lengths) small.2)
          exact header_headerOf objects.1 small.1

/-- What git writes for the blobs is read as these blobs. -/
theorem readBlobs_batchOf {entries : List TreeEntry} {blobs : List Bytes}
    (objects : ∀ entry ∈ entries, isObjectId entry.objectId = true)
    (lengths : blobs.length = entries.length)
    (small : ∀ blob ∈ blobs, blob.length < 10 ^ 20) :
    readBlobs (entries.zip (blobs.map List.length))
        (batchOf entries blobs) =
      .ok blobs := by
  have read := readBlobs_streamOf (fits_batchOf objects lengths small) []
  rw [List.append_nil, if_pos rfl, List.map_map] at read
  have seconds : (entries.zip blobs).map Prod.snd = blobs :=
    List.map_snd_zip (le_of_eq lengths)
  exact read.trans (congrArg Except.ok seconds)

/-- The blobs that are written. -/
def writtenOf (entries : List TreeEntry) (blobs : List Bytes) :
    List Written :=
  (entries.zip blobs).map fun file =>
    ⟨file.1.relativeParts, file.1.mode = asciiBytes "100755", file.2⟩

theorem extractGitBlobSnapshot_eq {paths : List String}
    {stripPrefix : Option String} {tree checked : Completed}
    {entries : List TreeEntry} {sizes : List Nat}
    (listed : readEntries paths stripPrefix tree = .ok entries)
    (sized : readSizes entries checked = .ok sizes) (stream : Bytes) :
    extractGitBlobSnapshot paths stripPrefix tree checked ⟨0, stream⟩ =
      (readBlobs (entries.zip sizes) stream).map (writtenOf entries) := by
  rw [extractGitBlobSnapshot, listed]
  simp only [bind, Except.bind]
  rw [sized]
  cases read : readBlobs (entries.zip sizes) stream <;>
    simp [refuseIf, read, Except.map, writtenOf, pure, Except.pure]

theorem map_eq_ok_iff {Value Result : Type} {change : Value → Result}
    {computation : Except Message Value} {result : Result} :
    computation.map change = .ok result ↔
      ∃ value, computation = .ok value ∧ change value = result := by
  cases computation <;> simp [Except.map]

/--
The extraction is exact: what git writes for blobs of any bytes is read as
these blobs, in the order of the entries; what is cut, extended or written
under another header is refused, whatever follows that header; what is read is
a stream of records of the entries; and the targets are distinct and inside
the destination.
-/
theorem extractGitBlobSnapshot_exact {paths : List String}
    {stripPrefix : Option String} {tree checked : Completed}
    {entries : List TreeEntry} {sizes : List Nat}
    (listed : readEntries paths stripPrefix tree = .ok entries)
    (sized : readSizes entries checked = .ok sizes) :
    (∀ blobs : List Bytes, blobs.map List.length = sizes →
      extractGitBlobSnapshot paths stripPrefix tree checked
          ⟨0, batchOf entries blobs⟩ = .ok (writtenOf entries blobs) ∧
        (∀ cut, cut <+: batchOf entries blobs →
          cut ≠ batchOf entries blobs → ∀ files,
            extractGitBlobSnapshot paths stripPrefix tree checked
              ⟨0, cut⟩ ≠ .ok files) ∧
        ∀ more, more ≠ [] → ∀ files,
          extractGitBlobSnapshot paths stripPrefix tree checked
            ⟨0, batchOf entries blobs ++ more⟩ ≠ .ok files) ∧
      (∀ records, (∀ file ∈ records, WellFormed file) → ∀ files,
        extractGitBlobSnapshot paths stripPrefix tree checked
            ⟨0, streamOf records⟩ = .ok files →
          List.Forall₂ Fits (entries.zip sizes) records) ∧
      (∀ before entry after records line,
        entries.zip sizes = before ++ entry :: after →
          List.Forall₂ Fits before records → OtherHeader entry line →
            ∀ rest files,
              extractGitBlobSnapshot paths stripPrefix tree checked
                  ⟨0, streamOf records ++ (line ++ 10 :: rest)⟩ ≠
                .ok files) ∧
      (∀ stream files,
        extractGitBlobSnapshot paths stripPrefix tree checked ⟨0, stream⟩ =
            .ok files ↔
          ∃ records,
            List.Forall₂ Fits (entries.zip sizes) records ∧
              stream = streamOf records ∧
                files = writtenOf entries (records.map Prod.snd)) ∧
      (∀ entry ∈ entries, Contained paths entry.path ∧
        entry.relativeParts ≠ [] ∧ ∀ part ∈ entry.relativeParts,
          part ≠ [] ∧ part ≠ ['.'] ∧ part ≠ ['.', '.']) ∧
      (entries.map TreeEntry.relativeParts).Nodup := by
  have facts := readEntries_ok listed
  rcases readSizes_ok sized with ⟨lengths, bounded⟩
  simp only [extractGitBlobSnapshot_eq listed sized]
  refine ⟨?_, ?_, ?_, ?_, ?_, nodup_relativeParts facts⟩
  · rintro blobs rfl
    rw [List.length_map] at lengths
    have small : ∀ blob ∈ blobs, blob.length < 10 ^ 20 :=
      fun blob member =>
        lt_of_le_of_lt (bounded _ (List.mem_map_of_mem member)) (by norm_num)
    have whole := readBlobs_batchOf facts.objects lengths small
    refine ⟨by rw [whole]; rfl, ?_, ?_⟩
    · intro cut begins strict files accepted
      rcases map_eq_ok_iff.1 accepted with ⟨others, read, _⟩
      exact readBlobs_cut whole begins strict read
    · intro more extended files accepted
      rcases map_eq_ok_iff.1 accepted with ⟨others, read, _⟩
      rw [readBlobs_extended whole extended] at read
      cases read
  · intro records formed files accepted
    rcases map_eq_ok_iff.1 accepted with ⟨blobs, read, _⟩
    exact (fits_of_readBlobs formed read).1
  · intro before entry after records line split fits other rest files accepted
    rcases map_eq_ok_iff.1 accepted with ⟨blobs, read, _⟩
    rw [split] at read
    exact readBlobs_otherHeader fits other rest blobs read
  · intro stream files
    rw [map_eq_ok_iff]
    constructor
    · rintro ⟨blobs, read, rfl⟩
      rcases readBlobs_ok read with ⟨records, fits, shape, rfl⟩
      exact ⟨records, fits, shape, rfl⟩
    · rintro ⟨records, fits, rfl, rfl⟩
      have read := readBlobs_streamOf fits []
      rw [List.append_nil, if_pos rfl] at read
      exact ⟨_, read, rfl⟩
  · intro entry member
    have contained := facts.contained entry member
    rcases relativeParts_sublist (facts.stripped entry member) with
      ⟨nonempty, inside⟩
    exact
      ⟨contained, nonempty, fun part inParts =>
        contained.components part (inside part inParts)⟩

/-- An object whose digits are all the same. -/
def objectOf (digit : UInt8) : Bytes :=
  List.replicate 40 digit

/-- A record of the tree for a path. -/
def treeRecord (digit : UInt8) (mode path : String) : Bytes :=
  asciiBytes mode ++ asciiBytes " blob " ++ objectOf digit ++ 9 ::
    (Library.HexDigest.utf8 path ++ [0])

/-- A tree with two blobs. -/
def smallTree : Completed :=
  ⟨0, treeRecord 48 "100644" "a/b" ++ treeRecord 49 "100755" "a/c/d"⟩

/-- Its entries, below the prefix. -/
def smallEntries : List TreeEntry :=
  [⟨objectOf 48, "a/b", [['b']], asciiBytes "100644"⟩,
    ⟨objectOf 49, "a/c/d", [['c'], ['d']], asciiBytes "100755"⟩]

/-- A line feed, and the header of the other blob. -/
def headerLike (digit : UInt8) : Bytes :=
  10 :: (headerOf (objectOf digit) 49 ++ [10])

/-- The sizes of two blobs that look like headers. -/
def smallSizes : Completed :=
  ⟨0, headerOf (objectOf 48) 50 ++ 10 :: (headerOf (objectOf 49) 50 ++ [10])⟩

/-- Blobs that look like headers are extracted; with another size in the
second header nothing is. -/
theorem extractGitBlobSnapshot_exact_headers :
    extractGitBlobSnapshot ["a"] (some "a") smallTree smallSizes
          ⟨0, batchOf smallEntries [headerLike 49, headerLike 48]⟩ =
        .ok (writtenOf smallEntries [headerLike 49, headerLike 48]) ∧
      ∀ files,
        extractGitBlobSnapshot ["a"] (some "a") smallTree smallSizes
            ⟨0, streamOf [(headerOf (objectOf 48) 50, headerLike 49)] ++
              (headerOf (objectOf 49) 999 ++ 10 :: (headerLike 48 ++ [10]))⟩ ≠
          .ok files := by
  have listed :
      readEntries ["a"] (some "a") smallTree = .ok smallEntries := by
    decide +kernel
  have sized : readSizes smallEntries smallSizes = .ok [50, 50] := by
    decide
  have exact := extractGitBlobSnapshot_exact listed sized
  have lengths : [headerLike 49, headerLike 48].map List.length = [50, 50] :=
    by decide
  have first :
      Fits (smallEntries.head (by decide), 50)
        (headerOf (objectOf 48) 50, headerLike 49) :=
    ⟨header_headerOf (by decide) (by decide), by decide⟩
  have second :=
    @header_headerOf (objectOf 49) (by decide) 999 (by decide)
  have other :
      OtherHeader (smallEntries.getLast (by decide), 50)
        (headerOf (objectOf 49) 999) := by
    refine ⟨second.1, ?_⟩
    rw [second.2]
    decide
  refine ⟨(exact.1 _ lengths).1, ?_⟩
  exact
    exact.2.2.1 [_] _ [] _ _ rfl (.cons first .nil) other
      (headerLike 48 ++ [10])

end KairosDeploy.Epoch.GitBlobs
