import KairosDeploy.Library.HexDigest
import KairosDeploy.Library.Refusal
import KairosDeploy.Soak.Health

/-!
# The persistence layout of a Redis volume

`_persistence_layout` looks at the names of the files of a volume and at the
manifest of its multipart AOF.  A line of the manifest names a file, a
sequence number and a type; the number stands twice, once in the file name,
and the two are compared as texts, while repeated numbers are found as
integers.

Since the texts agree, a line is determined by its number, its type and its
offsets, and the file by the first two.  Files that are listed twice would
have one sequence number and one type, so the integers suffice to exclude
them, whatever zeros stand in front.
-/

namespace KairosDeploy.ColdRedis.PersistenceLayout

open KairosDeploy.Library.HexDigest (isHex)
open KairosDeploy.Library.PyObject (strip)
open KairosDeploy.Library.Refusal
open KairosDeploy.Soak.Health (splitLines)

/-! ## Errors -/

/-- The bounded metadata of a rejection. -/
structure Diagnostic where
  recognizedFileCount : Nat
  manifestSha256 : Option String := none
  entryCount : Option Nat := none
  filename : Option (List Char) := none
  componentType : Option String := none
  sequence : Option Nat := none
deriving DecidableEq

/-- What the inspection raises. -/
inductive Failure where
  /-- `ColdRedisError(message)`. -/
  | cold (message : String)
  /-- A rejection with an error code and metadata. -/
  | rejected (code message : String) (diagnostic : Diagnostic)
  | python (exception : String)
deriving DecidableEq

/-! ## The volume -/

/-- What a path is: a file that cannot be opened has a size. -/
inductive Opened where
  | noFile
  | closed (size : Nat)
  | bytes (content : List UInt8)

/-- A volume that does not change, with the files that a walk finds. -/
structure Volume where
  files : Finset String
  opened : String → Opened

/-- `MAX_SOURCE_FILES`. -/
def maxSourceFiles : Nat := 4096

/-- `MAX_SOURCE_BYTES`. -/
def maxSourceBytes : Nat := 256 * 1024 ^ 2

/-- `appendonlydir/`. -/
def directoryPart : List Char :=
  ['a', 'p', 'p', 'e', 'n', 'd', 'o', 'n', 'l', 'y', 'd', 'i', 'r', '/']

/-- `appendonly.aof.`. -/
def filePart : List Char :=
  ['a', 'p', 'p', 'e', 'n', 'd', 'o', 'n', 'l', 'y', '.', 'a', 'o', 'f', '.']

/-- `manifest`. -/
def manifestWord : List Char :=
  ['m', 'a', 'n', 'i', 'f', 'e', 's', 't']

/-- `appendonlydir/appendonly.aof.manifest`. -/
def manifestPath : String :=
  String.ofList (directoryPart ++ filePart ++ manifestWord)

/-- `path.startswith("appendonlydir/")`. -/
def inDirectory (path : String) : Bool :=
  directoryPart.isPrefixOf path.toList

/-- `path.endswith(".manifest")`. -/
def isManifest (path : String) : Bool :=
  ('.' :: manifestWord).isSuffixOf path.toList

/-- `base.rdb` and `incr.aof`. -/
def kindText (isBase : Bool) : List Char :=
  if isBase then
    ['b', 'a', 's', 'e', '.', 'r', 'd', 'b']
  else
    ['i', 'n', 'c', 'r', '.', 'a', 'o', 'f']

/-- `path.endswith(".base.rdb")`. -/
def isBasePath (path : String) : Bool :=
  ('.' :: kindText true).isSuffixOf path.toList

/-- `Path(path).name`. -/
def lastPart (path : String) : List Char :=
  (path.toList.reverse.takeWhile (· ≠ '/')).reverse

/-- The number and the kind of `appendonly.aof.<number>.<kind>`. -/
def readFilename (filename : List Char) : Option (List Char × Bool) :=
  match filename.splitOn '.' with
  | [first, second, number, third, fourth] =>
      if filePart = first ++ '.' :: second ++ ['.'] ∧ number ≠ [] ∧
          number.all Char.isDigit = true then
        if third ++ '.' :: fourth = kindText true then
          some (number, true)
        else if third ++ '.' :: fourth = kindText false then
          some (number, false)
        else
          none
      else
        none
  | _ => none

/-- `PERSISTENCE_FILENAME.fullmatch(Path(path).name)`. -/
def isPersistenceFile (path : String) : Bool :=
  match readFilename (lastPart path) with
  | some (number, _) => number.length ≤ 10
  | none => false

/-! ## Manifest lines -/

/-- The groups of a manifest line. -/
structure Match where
  filename : List Char
  filenameSequence : List Char
  isBase : Bool
  sequence : List Char
  entryType : Char
  offsets : Option (List Char × Option (List Char))
deriving DecidableEq

/-- `0|[1-9][0-9]{0,18}`. -/
def isOffset (text : List Char) : Bool :=
  text = ['0'] ||
    (text.head?.any fun first => '1' ≤ first && first ≤ '9') &&
      text.length ≤ 19 && text.all Char.isDigit

/-- `startoffset`. -/
def startWord : List Char :=
  ['s', 't', 'a', 'r', 't', 'o', 'f', 'f', 's', 'e', 't']

/-- `endoffset`. -/
def endWord : List Char :=
  ['e', 'n', 'd', 'o', 'f', 'f', 's', 'e', 't']

/-- The optional offsets at the end of a line. -/
def readOffsets :
    List (List Char) → Option (Option (List Char × Option (List Char)))
  | [] => some none
  | [word, first] =>
      if word = startWord ∧ isOffset first = true then
        some (some (first, none))
      else
        none
  | [word, first, otherWord, last] =>
      if word = startWord ∧ isOffset first = true ∧ otherWord = endWord ∧
          isOffset last = true then
        some (some (first, some last))
      else
        none
  | _ => none

/-- `re.fullmatch` of the pattern of an entry. -/
def matchEntry (line : List Char) : Option Match :=
  match line.splitOn ' ' with
  | word :: filename :: sequenceWord :: sequence :: typeWord :: [entryType] ::
      rest =>
      if word = ['f', 'i', 'l', 'e'] ∧ sequenceWord = ['s', 'e', 'q'] ∧
          typeWord = ['t', 'y', 'p', 'e'] ∧ sequence ≠ [] ∧
          sequence.all Char.isDigit = true ∧
          (entryType = 'b' ∨ entryType = 'i') then do
        let (number, isBase) ← readFilename filename
        let offsets ← readOffsets rest
        return ⟨filename, number, isBase, sequence, entryType, offsets⟩
      else
        none
  | _ => none

/-- The integer of a text of digits. -/
def digitsValue (text : List Char) : Nat :=
  Nat.ofDigitChars 10 text 0

/-- `int(text)` of a text of digits, which raises above 4300 of them. -/
def pyInt (text : List Char) : Except Failure Nat :=
  if text.length ≤ 4300 then
    .ok (digitsValue text)
  else
    .error (.python "ValueError")

/-- `9_223_372_036_854_775_807`. -/
def maxOffset : Nat := 9223372036854775807

/-- The test that rejects the offsets of an entry. -/
def offsetsConflict (entryType : Char)
    (offsets : Option (List Char × Option (List Char))) : Bool :=
  match offsets with
  | none => false
  | some (first, last) =>
      entryType ≠ 'i' || digitsValue first > maxOffset ||
        last.any fun last =>
          digitsValue last > maxOffset ||
            digitsValue last < digitsValue first

/-- `base` or `incremental`. -/
def componentName (isBase : Bool) : String :=
  if isBase then "base" else "incremental"

section Inspection

variable (volume : Volume) (sha256 : List UInt8 → String)

/-- `min(recognized_count, MAX_SOURCE_FILES)`. -/
def recognizedCount : Nat :=
  min (volume.files.filter fun path => isPersistenceFile path = true).card
    maxSourceFiles

/-- The metadata about an entry. -/
def entryDiagnostic
    (manifestSha256 : String) (entryCount : Nat) (found : Match)
    (isBase : Bool) (sequence : Nat) : Diagnostic where
  recognizedFileCount := recognizedCount volume
  manifestSha256 := some manifestSha256
  entryCount := some (min entryCount maxSourceFiles)
  filename := some found.filename
  componentType := some (componentName isBase)
  sequence := some (min sequence 9999999999)

/-- `relative = "appendonlydir/" + filename`. -/
def relativePath (filename : List Char) : String :=
  String.ofList (directoryPart ++ filename)

/--
One line that is not blank, after `entryCount - 1` others: its sequence and
type, and its path.
-/
def readEntry
    (manifestSha256 : String) (seen : List (Nat × Char)) (entryCount : Nat)
    (line : List Char) : Except Failure ((Nat × Char) × String) :=
  match matchEntry line with
  | none =>
      .error
        (.rejected "MANIFEST_ENTRY_UNSUPPORTED"
          "Redis AOF manifest entry is unsupported"
          { recognizedFileCount := recognizedCount volume
            manifestSha256 := some manifestSha256
            entryCount := some (min entryCount maxSourceFiles) })
  | some found => do
      let sequence ← pyInt found.sequence
      refuseIf
        (found.entryType ≠ (if found.isBase then 'b' else 'i') ∨
          found.filenameSequence ≠ found.sequence ∨
          (sequence, found.entryType) ∈ seen)
        (.rejected "MANIFEST_SEQUENCE_TYPE_CONFLICT"
          "Redis AOF manifest sequence or type conflicts"
          (entryDiagnostic volume manifestSha256 entryCount found
            (found.entryType = 'b') sequence))
      refuseIf (offsetsConflict found.entryType found.offsets = true)
        (.rejected "MANIFEST_OFFSETS_INVALID"
          "Redis AOF manifest offset metadata conflicts"
          (entryDiagnostic volume manifestSha256 entryCount found
            (found.entryType = 'b') sequence))
      refuseIf (relativePath found.filename ∉ volume.files)
        (.rejected "COMPONENT_MISSING"
          "Redis AOF manifest references a missing persistence file"
          (entryDiagnostic volume manifestSha256 entryCount found
            found.isBase sequence))
      return ((sequence, found.entryType), relativePath found.filename)

/-- The loop over the lines: the paths, and the count of entries. -/
def readLines (manifestSha256 : String) :
    List (Nat × Char) → Nat → List (List Char) →
      Except Failure (List String × Nat)
  | _, entryCount, [] => .ok ([], entryCount)
  | seen, entryCount, line :: rest =>
      if strip line = [] then
        readLines manifestSha256 seen entryCount rest
      else do
        let (key, path) ←
          readEntry volume manifestSha256 seen (entryCount + 1) line
        let (paths, total) ←
          readLines manifestSha256 (key :: seen) (entryCount + 1) rest
        return (path :: paths, total)

/-- `raw.decode("ascii")`, absent where it raises. -/
def decodeAscii (raw : List UInt8) : Option (List Char) :=
  if raw.all (· < 128) then
    some (raw.map fun byte => Char.ofNat byte.toNat)
  else
    none

/-- The rejection of a large manifest. -/
def manifestTooLarge : Failure :=
  .rejected "MANIFEST_TOO_LARGE"
    "Redis AOF manifest exceeds its metadata bound"
    { recognizedFileCount := recognizedCount volume }

/-- The manifest and its multipart files. -/
def readManifest : Except Failure (String × List String) :=
  match volume.opened manifestPath with
  | .noFile => .error (.python "FileNotFoundError")
  | .closed size => do
      refuseIf (size > 1024 * 1024) (manifestTooLarge volume)
      .error
        (.cold
          "source file cannot be opened without changing access metadata")
  | .bytes raw => do
      refuseIf (raw.length > 1024 * 1024) (manifestTooLarge volume)
      match decodeAscii raw with
      | none =>
          .error
            (.rejected "MANIFEST_NON_ASCII"
              "Redis AOF manifest metadata is not ASCII"
              { recognizedFileCount := recognizedCount volume
                manifestSha256 := some (sha256 raw)
                entryCount := some 0 })
      | some text => do
          let (multipart, entryCount) ←
            readLines volume (sha256 raw) [] 0 (splitLines text)
          let diagnostic : Diagnostic :=
            { recognizedFileCount := recognizedCount volume
              manifestSha256 := some (sha256 raw)
              entryCount := some (min entryCount maxSourceFiles) }
          refuseIf
            (multipart = [] ∨
              (multipart.filter fun path => isBasePath path).length ≠ 1)
            (.rejected "BASE_CARDINALITY"
              "Redis multipart AOF manifest has no unique base file"
              diagnostic)
          refuseIf
            (volume.files.filter (fun path => inDirectory path = true) ≠
              multipart.toFinset ∪ {manifestPath})
            (.rejected "UNREFERENCED_COMPONENT"
              ("Redis multipart AOF directory has unreferenced " ++
                "persistence files")
              diagnostic)
          return (sha256 raw, multipart)

/-- The rejection of a file that is no file or too large. -/
def missingArtifact : Failure :=
  .cold "accepted receipt artifact is missing or exceeds its size bound"

/-- `_file_sha256(root / path, maximum=MAX_SOURCE_BYTES, noatime=True)`. -/
def fileSha256 (path : String) : Except Failure String :=
  match volume.opened path with
  | .noFile => .error missingArtifact
  | .closed size => do
      refuseIf (size > maxSourceBytes) missingArtifact
      .error
        (.cold
          "source file cannot be opened without changing access metadata")
  | .bytes content => do
      refuseIf (content.length > maxSourceBytes) missingArtifact
      return sha256 content

/-- The formats of a volume. -/
inductive Format where
  | multipartAof
  | legacyAof
  | rdbFallback
deriving DecidableEq

/-- A layout, with the metadata of the root RDB where it is required. -/
structure Layout (RootRdb : Type) where
  format : Format
  aofManifestSha256 : Option String
  aofFileHashes : List (String × String)
  rdbPresent : Bool
  historicalRootRdb : Option RootRdb
deriving DecidableEq

/-- The manifests, in order. -/
def manifests : List String :=
  (volume.files.filter fun path => isManifest path = true).sort

/-- The format, the digest of the manifest, and the AOF files. -/
def readFormat : Except Failure (Format × Option String × List String) :=
  if manifests volume ≠ [] then do
    refuseIf (manifests volume ≠ [manifestPath])
      (.rejected "MANIFEST_INVENTORY_UNSUPPORTED"
        "Redis AOF manifest inventory is ambiguous or unsupported"
        { recognizedFileCount := recognizedCount volume })
    let (digest, multipart) ← readManifest volume sha256
    return (.multipartAof, some digest, multipart)
  else do
    refuseIf (volume.files.filter (fun path => inDirectory path = true) ≠ ∅)
      (.rejected "ORPHANED_APPENDONLYDIR"
        "Redis appendonlydir files have no controlling manifest"
        { recognizedFileCount := recognizedCount volume })
    if "appendonly.aof" ∈ volume.files then
      return (.legacyAof, none, ["appendonly.aof"])
    else if "dump.rdb" ∈ volume.files then
      return (.rdbFallback, none, [])
    else
      .error
        (.rejected "NO_PERSISTENCE_IMAGE"
          "Redis volume has no recognized persistence image"
          { recognizedFileCount := recognizedCount volume })

/-- `_persistence_layout(root, require_root_rdb=…)`. -/
def persistenceLayout
    {RootRdb : Type} (rootRdbMetadata : Except Failure (Option RootRdb))
    (requireRootRdb : Bool) : Except Failure (Layout RootRdb) := do
  let (format, digest, paths) ← readFormat volume sha256
  let hashes ←
    paths.mapM fun path => do
      let hash ← fileSha256 volume sha256 path
      return (path, hash)
  let layout : Layout RootRdb :=
    ⟨format, digest, hashes, decide ("dump.rdb" ∈ volume.files), none⟩
  if requireRootRdb then do
    match ← rootRdbMetadata with
    | none => .error (.cold "historical root RDB is missing")
    | some rootRdb => return { layout with historicalRootRdb := some rootRdb }
  else
    return layout

end Inspection

/-! ## What a manifest says -/

/-- An entry: one number, one kind, and offsets. -/
structure Entry where
  number : List Char
  isBase : Bool
  offsets : Option (List Char × Option (List Char))

/-- The name of the file of an entry. -/
def Entry.filename (entry : Entry) : List Char :=
  filePart ++ entry.number ++ '.' :: kindText entry.isBase

/-- The path of the file of an entry. -/
def Entry.path (entry : Entry) : String :=
  relativePath entry.filename

/-- The sequence number of an entry. -/
def Entry.sequence (entry : Entry) : Nat :=
  digitsValue entry.number

/-- The text of the offsets. -/
def offsetsLine : Option (List Char × Option (List Char)) → List Char
  | none => []
  | some (first, none) => ' ' :: startWord ++ ' ' :: first
  | some (first, some last) =>
      ' ' :: startWord ++ ' ' :: first ++ ' ' :: endWord ++ ' ' :: last

/--
The line of an entry.  Its file name and its `seq` are one number, and its
suffix and its type letter are one kind.
-/
def Entry.line (entry : Entry) : List Char :=
  ['f', 'i', 'l', 'e', ' '] ++ entry.filename ++ [' ', 's', 'e', 'q', ' '] ++
    entry.number ++ [' ', 't', 'y', 'p', 'e', ' '] ++
    [if entry.isBase then 'b' else 'i'] ++ offsetsLine entry.offsets

/-- Offsets stand on incremental entries only, in order and below `2 ^ 63`. -/
def Entry.OffsetsValid (entry : Entry) : Prop :=
  ∀ first last, entry.offsets = some (first, last) →
    entry.isBase = false ∧ digitsValue first < 2 ^ 63 ∧
      ∀ value, last = some value →
        digitsValue first ≤ digitsValue value ∧
          digitsValue value < 2 ^ 63

/-- A manifest accounts for the files of the directory. -/
structure Accounted
    {RootRdb : Type} (volume : Volume) (sha256 : List UInt8 → String)
    (layout : Layout RootRdb) (text : List Char) (entries : List Entry) :
    Prop where
  lines :
    (splitLines text).filter (fun line => strip line ≠ []) =
      entries.map Entry.line
  numbers :
    ∀ entry ∈ entries, entry.number ≠ [] ∧
      entry.number.all Char.isDigit = true
  paths_nodup : (entries.map Entry.path).Nodup
  complete :
    ∀ path, path ∈ entries.map Entry.path ↔
      path ∈ volume.files ∧ inDirectory path = true ∧ path ≠ manifestPath
  oneBase : (entries.filter Entry.isBase).length = 1
  sequences :
    (entries.map fun entry => (entry.sequence, entry.isBase)).Nodup
  offsets : ∀ entry ∈ entries, entry.OffsetsValid
  hashes :
    List.Forall₂
      (fun entry recorded =>
        recorded.1 = entry.path ∧
          fileSha256 volume sha256 entry.path = .ok recorded.2)
      entries layout.aofFileHashes

/-! ## Reading lines -/

section Lines

/-- Words that were split are joined again. -/
theorem line_of_splitOn
    {separator : Char} {line : List Char} {words : List (List Char)}
    (split : line.splitOn separator = words) :
    line = [separator].intercalate words := by
  rw [← split, List.intercalate_splitOn]

theorem readFilename_eq_some
    {filename number : List Char} {isBase : Bool}
    (read : readFilename filename = some (number, isBase)) :
    filename = filePart ++ number ++ '.' :: kindText isBase ∧
      number ≠ [] ∧ number.all Char.isDigit = true := by
  unfold readFilename at read
  split at read
  case h_2 => cases read
  case h_1 first second found third fourth split =>
    have joined := line_of_splitOn split
    split_ifs at read with wellFormed base incremental
    · cases read
      refine ⟨?_, wellFormed.2⟩
      rw [joined, wellFormed.1, ← base]
      simp [List.intercalate]
    · cases read
      refine ⟨?_, wellFormed.2⟩
      rw [joined, wellFormed.1, ← incremental]
      simp [List.intercalate]

theorem readOffsets_eq_some
    {words : List (List Char)}
    {offsets : Option (List Char × Option (List Char))}
    (read : readOffsets words = some offsets) :
    words.flatMap (fun word => ' ' :: word) = offsetsLine offsets := by
  unfold readOffsets at read
  split at read
  · cases read
    rfl
  · split_ifs at read with wellFormed
    cases read
    rw [wellFormed.1]
    simp [offsetsLine]
  · split_ifs at read with wellFormed
    cases read
    rw [wellFormed.1, wellFormed.2.2.1]
    simp [offsetsLine]
  · cases read

theorem intercalate_cons_flatMap
    (separator : Char) (first : List Char) (rest : List (List Char)) :
    [separator].intercalate (first :: rest) =
      first ++ rest.flatMap (fun word => separator :: word) := by
  induction rest generalizing first with
  | nil => simp [List.intercalate]
  | cons second rest induction =>
      rw [List.intercalate_cons_cons, induction, List.flatMap_cons]
      simp

/-- The groups of a line determine the line. -/
theorem matchEntry_eq_some
    {line : List Char} {found : Match} (read : matchEntry line = some found) :
    line =
        ['f', 'i', 'l', 'e', ' '] ++ found.filename ++
          [' ', 's', 'e', 'q', ' '] ++ found.sequence ++
          [' ', 't', 'y', 'p', 'e', ' '] ++ [found.entryType] ++
          offsetsLine found.offsets ∧
      found.filename =
        filePart ++ found.filenameSequence ++
          '.' :: kindText found.isBase ∧
      found.filenameSequence ≠ [] ∧
      found.filenameSequence.all Char.isDigit = true := by
  unfold matchEntry at read
  split at read
  case h_2 => cases read
  case h_1 word filename sequenceWord sequence typeWord entryType rest split =>
    have joined := line_of_splitOn split
    rw [intercalate_cons_flatMap] at joined
    split_ifs at read with wellFormed
    rcases wellFormed with ⟨rfl, rfl, rfl, _, _, _⟩
    rw [Option.bind_eq_bind, Option.bind_eq_some_iff] at read
    rcases read with ⟨⟨number, isBase⟩, named, read⟩
    rw [Option.bind_eq_bind, Option.bind_eq_some_iff] at read
    rcases read with ⟨offsets, placed, read⟩
    cases read
    refine ⟨?_, readFilename_eq_some named⟩
    rw [joined, ← readOffsets_eq_some placed]
    simp

variable {volume : Volume} {sha256 : List UInt8 → String}
    {manifestSha256 : String}

/-- The type letter of an entry. -/
def Entry.letter (entry : Entry) : Char :=
  if entry.isBase then 'b' else 'i'

/-- The key under which an entry is remembered. -/
def Entry.key (entry : Entry) : Nat × Char :=
  (entry.sequence, entry.letter)

theorem pyInt_eq_ok_iff {text : List Char} {value : Nat} :
    pyInt text = .ok value ↔
      text.length ≤ 4300 ∧ value = digitsValue text := by
  unfold pyInt
  split_ifs with small
  · simp [small, eq_comm]
  · simp [small]

theorem offsetsValid_of_not_conflict
    {entry : Entry}
    (passed : offsetsConflict entry.letter entry.offsets = false) :
    entry.OffsetsValid := by
  intro first last given
  rw [given, offsetsConflict] at passed
  simp only [Bool.or_eq_false_iff, decide_eq_false_iff_not, not_not, not_lt,
    gt_iff_lt, maxOffset] at passed
  rcases passed with ⟨⟨incremental, firstSmall⟩, lastPassed⟩
  refine ⟨?_, by omega, ?_⟩
  · cases base : entry.isBase with
    | false => rfl
    | true =>
        rw [Entry.letter, base] at incremental
        cases incremental
  · rintro value rfl
    simp only [Option.any_some, Bool.or_eq_false_iff,
      decide_eq_false_iff_not, not_lt] at lastPassed
    omega

/-- What an accepted line says. -/
structure ReadAs
    (volume : Volume) (seen : List (Nat × Char)) (line : List Char)
    (entry : Entry) : Prop where
  line : line = entry.line
  fresh : entry.key ∉ seen
  offsets : entry.OffsetsValid
  listed : entry.path ∈ volume.files
  number : entry.number ≠ [] ∧ entry.number.all Char.isDigit = true

theorem readEntry_eq_ok
    {seen : List (Nat × Char)} {entryCount : Nat} {line : List Char}
    {key : Nat × Char} {path : String}
    (read :
      readEntry volume manifestSha256 seen entryCount line =
        .ok (key, path)) :
    ∃ entry : Entry,
      key = entry.key ∧ path = entry.path ∧
        ReadAs volume seen line entry := by
  unfold readEntry at read
  split at read
  case h_1 => cases read
  case h_2 found matched =>
    simp only [bind_eq_ok_iff, refuseIf_eq_ok_iff, exists_const,
      pure_eq_ok_iff, Prod.mk.injEq, pyInt_eq_ok_iff, not_or, not_not,
      Bool.not_eq_true] at read
    rcases read with
      ⟨sequence, ⟨_, rfl⟩, ⟨letter, number, fresh⟩, offsets, listed, rfl,
        rfl⟩
    rcases matchEntry_eq_some matched with ⟨lineText, named, nonempty, digits⟩
    have filename :
        found.filename =
          Entry.filename
            ⟨found.filenameSequence, found.isBase, found.offsets⟩ :=
      named
    rw [← number] at lineText fresh ⊢
    refine
      ⟨⟨found.filenameSequence, found.isBase, found.offsets⟩, ?_, ?_,
        { line := ?_
          fresh := ?_
          offsets := offsetsValid_of_not_conflict ?_
          listed := ?_
          number := ⟨nonempty, digits⟩ }⟩
    · rw [letter]
      rfl
    · rw [filename]
      rfl
    · rw [lineText, filename, letter]
      rfl
    · rw [letter] at fresh
      exact fresh
    · rw [letter] at offsets
      exact offsets
    · rw [Entry.path, ← filename]
      exact listed

/-- The lines that are accepted are the lines of entries with new keys. -/
theorem readLines_eq_ok
    {seen : List (Nat × Char)} {entryCount total : Nat}
    {lines : List (List Char)} {paths : List String}
    (read :
      readLines volume manifestSha256 seen entryCount lines =
        .ok (paths, total)) :
    ∃ entries : List Entry,
      lines.filter (fun line => strip line ≠ []) = entries.map Entry.line ∧
        paths = entries.map Entry.path ∧
        (entries.map Entry.key).Nodup ∧
        ∀ entry ∈ entries, entry.key ∉ seen ∧ entry.OffsetsValid ∧
          entry.path ∈ volume.files ∧ entry.number ≠ [] ∧
          entry.number.all Char.isDigit = true := by
  induction lines generalizing seen entryCount paths total with
  | nil =>
      cases read
      exact
        ⟨[], rfl, rfl, List.nodup_nil,
          fun _ member => absurd member List.not_mem_nil⟩
  | cons line rest induction =>
      unfold readLines at read
      split_ifs at read with blank
      · rw [List.filter_cons_of_neg (by simp [blank])]
        exact induction read
      · simp only [bind_eq_ok_iff, pure_eq_ok_iff] at read
        rcases read with
          ⟨⟨key, path⟩, first, ⟨others, count⟩, following, same⟩
        cases same
        rcases readEntry_eq_ok first with ⟨entry, rfl, rfl, readAs⟩
        rcases induction following with
          ⟨entries, linesRead, rfl, distinct, each⟩
        refine ⟨entry :: entries, ?_, rfl, ?_, ?_⟩
        · rw [List.filter_cons_of_pos (by simpa using blank), linesRead,
            List.map_cons, ← readAs.line]
        · rw [List.map_cons, List.nodup_cons]
          refine ⟨?_, distinct⟩
          intro repeated
          rcases List.mem_map.1 repeated with ⟨other, member, same⟩
          exact (each other member).1 (same ▸ List.mem_cons_self)
        · rw [List.forall_mem_cons]
          refine
            ⟨⟨readAs.fresh, readAs.offsets, readAs.listed, readAs.number⟩,
              fun other member => ?_⟩
          rcases each other member with ⟨fresh, facts⟩
          exact
            ⟨fun old => fresh (List.mem_cons_of_mem _ old), facts⟩

/-! ## Paths of entries -/

theorem length_kindText (isBase : Bool) : (kindText isBase).length = 8 := by
  cases isBase <;> rfl

theorem kindText_injective : Function.Injective kindText := by
  decide

/-- The path of an entry determines its number and its kind. -/
theorem Entry.key_eq_of_path
    {one other : Entry} (same : one.path = other.path) :
    one.key = other.key := by
  have lists := String.ofList_injective same
  rw [Entry.filename, Entry.filename, List.append_assoc, List.append_assoc]
    at lists
  have ends :=
    List.append_cancel_left (List.append_cancel_left lists)
  have parts :=
    List.append_inj' ends (by simp [length_kindText])
  have kinds : one.isBase = other.isBase :=
    kindText_injective (List.cons.inj parts.2).2
  rw [Entry.key, Entry.key, Entry.sequence, Entry.sequence, Entry.letter,
    Entry.letter, parts.1, kinds]

theorem Entry.toList_path (entry : Entry) :
    entry.path.toList =
      directoryPart ++ filePart ++ entry.number ++
        '.' :: kindText entry.isBase := by
  rw [Entry.path, relativePath, String.toList_ofList, Entry.filename]
  simp

theorem Entry.isBasePath_path (entry : Entry) :
    isBasePath entry.path = entry.isBase := by
  rw [Bool.eq_iff_iff, isBasePath, List.isSuffixOf_iff_suffix,
    entry.toList_path]
  constructor
  · rintro ⟨front, equal⟩
    have parts :=
      List.append_inj' equal (by simp [length_kindText])
    exact (kindText_injective (List.cons.inj parts.2).2).symm
  · intro base
    rw [base]
    exact List.suffix_append _ _

theorem Entry.path_ne_manifestPath (entry : Entry) :
    entry.path ≠ manifestPath := by
  intro same
  have ends := congrArg (fun path => path.toList.getLast?) same
  simp only [entry.toList_path, manifestPath, String.toList_ofList] at ends
  cases base : entry.isBase with
  | false =>
      rw [base] at ends
      simp [kindText, manifestWord] at ends
  | true =>
      rw [base] at ends
      simp [kindText, manifestWord] at ends

end Lines

/-! ## The layout -/

section Layouts

variable {volume : Volume} {sha256 : List UInt8 → String}

/-- What an accepted manifest says about the volume. -/
structure ReadManifest
    (volume : Volume) (text : List Char) (entries : List Entry) : Prop where
  lines :
    (splitLines text).filter (fun line => strip line ≠ []) =
      entries.map Entry.line
  keys : (entries.map Entry.key).Nodup
  each :
    ∀ entry ∈ entries, entry.OffsetsValid ∧ entry.number ≠ [] ∧
      entry.number.all Char.isDigit = true
  oneBase : (entries.filter Entry.isBase).length = 1
  directory :
    volume.files.filter (fun path => inDirectory path = true) =
      (entries.map Entry.path).toFinset ∪ {manifestPath}

theorem readManifest_eq_ok
    {digest : String} {multipart : List String}
    (read : readManifest volume sha256 = .ok (digest, multipart)) :
    ∃ raw text entries,
      volume.opened manifestPath = .bytes raw ∧
        decodeAscii raw = some text ∧ digest = sha256 raw ∧
        multipart = entries.map Entry.path ∧
        ReadManifest volume text entries := by
  unfold readManifest at read
  split at read
  case h_1 => cases read
  case h_2 =>
    rw [bind_eq_ok_iff] at read
    rcases read with ⟨_, _, impossible⟩
    cases impossible
  case h_3 raw opened =>
    rw [bind_eq_ok_iff] at read
    rcases read with ⟨_, _, read⟩
    split at read
    case h_1 => cases read
    case h_2 text decoded =>
      simp only [bind_eq_ok_iff, refuseIf_eq_ok_iff, exists_const,
        pure_eq_ok_iff, Prod.mk.injEq, not_or, not_not] at read
      rcases read with
        ⟨⟨paths, total⟩, linesRead, ⟨_, cardinality⟩, directory, rfl, rfl⟩
      rcases readLines_eq_ok linesRead with
        ⟨entries, lines, rfl, keys, each⟩
      refine
        ⟨raw, text, entries, opened, decoded, rfl, rfl,
          { lines := lines
            keys := keys
            each := fun entry member =>
              ⟨(each entry member).2.1, (each entry member).2.2.2⟩
            oneBase := ?_
            directory := directory }⟩
      rw [List.filter_map, List.length_map] at cardinality
      rw [← cardinality]
      exact
        congrArg List.length
          (List.filter_congr fun entry _ => (entry.isBasePath_path).symm)

theorem ReadManifest.paths_nodup
    {text : List Char} {entries : List Entry}
    (manifest : ReadManifest volume text entries) :
    (entries.map Entry.path).Nodup := by
  have keys := manifest.keys
  rw [List.Nodup, List.pairwise_map] at keys ⊢
  exact keys.imp fun different same =>
    different (Entry.key_eq_of_path same)

theorem ReadManifest.complete
    {text : List Char} {entries : List Entry}
    (manifest : ReadManifest volume text entries) (path : String) :
    path ∈ entries.map Entry.path ↔
      path ∈ volume.files ∧ inDirectory path = true ∧
        path ≠ manifestPath := by
  have member := Finset.ext_iff.1 manifest.directory path
  rw [Finset.mem_filter, Finset.mem_union, List.mem_toFinset,
    Finset.mem_singleton] at member
  constructor
  · intro listed
    rcases member.2 (Or.inl listed) with ⟨inFiles, inside⟩
    refine ⟨inFiles, inside, ?_⟩
    rcases List.mem_map.1 listed with ⟨entry, _, rfl⟩
    exact entry.path_ne_manifestPath
  · rintro ⟨inFiles, inside, other⟩
    exact (member.1 ⟨inFiles, inside⟩).resolve_right other

theorem ReadManifest.sequences
    {text : List Char} {entries : List Entry}
    (manifest : ReadManifest volume text entries) :
    (entries.map fun entry => (entry.sequence, entry.isBase)).Nodup := by
  have keys := manifest.keys
  rw [List.Nodup, List.pairwise_map] at keys ⊢
  refine keys.imp fun different same => different ?_
  rw [Prod.mk.injEq] at same
  rw [Entry.key, Entry.key, Entry.letter, Entry.letter, same.1, same.2]

theorem readFormat_multipart
    {digest : Option String} {paths : List String}
    (read : readFormat volume sha256 = .ok (.multipartAof, digest, paths)) :
    ∃ value, digest = some value ∧
      readManifest volume sha256 = .ok (value, paths) := by
  unfold readFormat at read
  split_ifs at read
  · simp only [bind_eq_ok_iff, pure_eq_ok_iff, Prod.mk.injEq, true_and]
      at read
    rcases read with ⟨_, _, ⟨value, multipart⟩, manifest, rfl, rfl⟩
    exact ⟨value, rfl, manifest⟩
  · simp only [bind_eq_ok_iff, pure_eq_ok_iff, Prod.mk.injEq] at read
    rcases read with ⟨_, _, impossible, _⟩
    cases impossible
  · simp only [bind_eq_ok_iff, pure_eq_ok_iff, Prod.mk.injEq] at read
    rcases read with ⟨_, _, impossible, _⟩
    cases impossible
  · rw [bind_eq_ok_iff] at read
    rcases read with ⟨_, _, impossible⟩
    cases impossible

theorem readFormat_without_manifest
    {result : Format × Option String × List String}
    (absent : ∀ path ∈ volume.files, isManifest path = false)
    (read : readFormat volume sha256 = .ok result) :
    ∀ path ∈ volume.files, inDirectory path = false := by
  have none : manifests volume = [] := by
    have empty : volume.files.filter (isManifest · = true) = ∅ :=
      Finset.filter_eq_empty_iff.2 fun path member => by
        simp [absent path member]
    rw [manifests, empty, Finset.sort_empty]
  unfold readFormat at read
  rw [if_neg (not_not.2 none)] at read
  simp only [bind_eq_ok_iff, refuseIf_eq_ok_iff, not_not] at read
  rcases read with ⟨_, empty, _⟩
  intro path member
  have outside := Finset.filter_eq_empty_iff.1 empty member
  simpa using outside

variable {RootRdb : Type} {rootRdbMetadata : Except Failure (Option RootRdb)}
    {requireRootRdb : Bool} {layout : Layout RootRdb}

/-- What a layout is made of. -/
theorem persistenceLayout_eq_ok
    (accepted :
      persistenceLayout volume sha256 rootRdbMetadata requireRootRdb =
        .ok layout) :
    ∃ paths,
      readFormat volume sha256 =
          .ok (layout.format, layout.aofManifestSha256, paths) ∧
        List.Forall₂
          (fun path recorded =>
            recorded.1 = path ∧
              fileSha256 volume sha256 path = .ok recorded.2)
          paths layout.aofFileHashes := by
  unfold persistenceLayout at accepted
  simp only [bind_eq_ok_iff] at accepted
  rcases accepted with
    ⟨⟨format, digest, paths⟩, read, hashes, hashed, finished⟩
  have same :
      layout.format = format ∧ layout.aofManifestSha256 = digest ∧
        layout.aofFileHashes = hashes := by
    split_ifs at finished
    · rw [bind_eq_ok_iff] at finished
      rcases finished with ⟨rootRdb, _, finished⟩
      cases rootRdb with
      | none => cases finished
      | some value =>
          cases finished
          exact ⟨rfl, rfl, rfl⟩
    · cases finished
      exact ⟨rfl, rfl, rfl⟩
  rcases same with ⟨rfl, rfl, rfl⟩
  refine ⟨paths, read, ?_⟩
  rw [mapM_eq_ok_iff] at hashed
  refine hashed.imp fun path recorded computed => ?_
  simp only [bind_eq_ok_iff, pure_eq_ok_iff] at computed
  rcases computed with ⟨hash, hashOk, rfl⟩
  exact ⟨rfl, hashOk⟩

/--
A multipart layout is returned only if the manifest accounts for every file of
the directory, and without a manifest only if the directory is empty.
-/
theorem persistenceLayout_accounted
    (accepted :
      persistenceLayout volume sha256 rootRdbMetadata requireRootRdb =
        .ok layout) :
    (layout.format = .multipartAof →
      ∃ raw text entries,
        volume.opened manifestPath = .bytes raw ∧
          decodeAscii raw = some text ∧
          Accounted volume sha256 layout text entries) ∧
      ((∀ path ∈ volume.files, isManifest path = false) →
        ∀ path ∈ volume.files, inDirectory path = false) := by
  rcases persistenceLayout_eq_ok accepted with ⟨paths, read, hashes⟩
  refine ⟨fun multipart => ?_, fun absent =>
    readFormat_without_manifest absent read⟩
  rw [multipart] at read
  rcases readFormat_multipart read with ⟨digest, _, manifestRead⟩
  rcases readManifest_eq_ok manifestRead with
    ⟨raw, text, entries, opened, decoded, _, rfl, manifest⟩
  refine
    ⟨raw, text, entries, opened, decoded,
      { lines := manifest.lines
        numbers := fun entry member => (manifest.each entry member).2
        paths_nodup := manifest.paths_nodup
        complete := manifest.complete
        oneBase := manifest.oneBase
        sequences := manifest.sequences
        offsets := fun entry member => (manifest.each entry member).1
        hashes := ?_ }⟩
  rwa [List.forall₂_map_left_iff] at hashes

end Layouts

/-! ### A manifest of two files -/

section Recorded

/-- The lines of a base file and of an incremental file. -/
def recordedManifest : List UInt8 := [
    102, 105, 108, 101, 32, 97, 112, 112, 101, 110, 100, 111, 110, 108, 121,
    46, 97, 111, 102, 46, 49, 46, 98, 97, 115, 101, 46, 114, 100, 98, 32,
    115, 101, 113, 32, 49, 32, 116, 121, 112, 101, 32, 98, 10, 102, 105,
    108, 101, 32, 97, 112, 112, 101, 110, 100, 111, 110, 108, 121, 46, 97,
    111, 102, 46, 49, 46, 105, 110, 99, 114, 46, 97, 111, 102, 32, 115, 101,
    113, 32, 49, 32, 116, 121, 112, 101, 32, 105, 32, 115, 116, 97, 114,
    116, 111, 102, 102, 115, 101, 116, 32, 48, 10]

/-- The bytes of the base file. -/
def recordedBase : List UInt8 := [82, 69, 68, 73, 83, 48, 48, 49, 50]

/-- The bytes of the incremental file. -/
def recordedIncremental : List UInt8 := [42, 49, 13, 10]

/-- The digests of the three files. -/
def recordedSha256 (content : List UInt8) : String :=
  if content = recordedManifest then
    "c5ae0c02c2388c4f500bffe3590ba7687884e4ba6ad665bb9f2e8f3a68ce1e65"
  else if content = recordedBase then
    "48ed530ca3a0c9ccfae3474b493be735be7e3f54efaaeab7af67f28a9a59d720"
  else
    "7aca65e5ea73ff62671c038850f14d7367728b2d35ffc169e2952436be02e8a9"

/-- The path of the base file. -/
def basePath : String :=
  relativePath (filePart ++ '1' :: '.' :: kindText true)

/-- The path of the incremental file. -/
def incrementalPath : String :=
  relativePath (filePart ++ '1' :: '.' :: kindText false)

/-- A volume with these files. -/
def recordedVolume : Volume where
  files := {manifestPath, basePath, incrementalPath}
  opened path :=
    if path = manifestPath then
      .bytes recordedManifest
    else if path = basePath then
      .bytes recordedBase
    else if path = incrementalPath then
      .bytes recordedIncremental
    else
      .noFile

/-- The layout of this volume. -/
def recordedLayout : Layout Unit where
  format := .multipartAof
  aofManifestSha256 := some (recordedSha256 recordedManifest)
  aofFileHashes :=
    [(basePath, recordedSha256 recordedBase),
      (incrementalPath, recordedSha256 recordedIncremental)]
  rdbPresent := false
  historicalRootRdb := none

theorem persistenceLayout_accounted_recorded :
    persistenceLayout recordedVolume recordedSha256 (.ok none) false =
        .ok recordedLayout ∧
      ∃ raw text entries,
        recordedVolume.opened manifestPath = .bytes raw ∧
          decodeAscii raw = some text ∧
          Accounted recordedVolume recordedSha256 recordedLayout text
            entries := by
  have accepted :
      persistenceLayout recordedVolume recordedSha256 (.ok none) false =
        .ok recordedLayout := by
    decide +kernel
  exact ⟨accepted, (persistenceLayout_accounted accepted).1 rfl⟩

end Recorded

end KairosDeploy.ColdRedis.PersistenceLayout
