import KairosDeploy.Library.FileTree
import KairosDeploy.Library.Refusal

/-!
# Cold copies of volumes

`copy_snapshot` describes the source by a manifest, copies what the manifest
names, and compares the manifests of both sides.  The `copy-hash` worker copies
while it walks, and compares two digests.  All of them look at a volume through
the same walk, which passes over a directory that it cannot list without
raising.  What stands below such a directory is in no manifest, so the
comparison says nothing about it.
-/

namespace KairosDeploy.Epoch.ColdCopy

open KairosDeploy.Library.FileTree
open KairosDeploy.Library.Refusal

/-! ## Volumes -/

/-- A regular file. -/
structure FileInfo where
  mode : Nat
  mtimeNs : Int
  content : List UInt8
deriving DecidableEq

/-- A directory, with its permission bits, or a file. -/
abbrev VolumeNode : Type := Node Nat FileInfo

/-- A volume. -/
abbrev Volume : Type := FileSystem Nat FileInfo

/-- A volume whose entries stand in directories. -/
structure SourceVolume extends Volume where
  mode : Nat
  root_free : nodes.lookup [] = none
  parents :
    ∀ path ∈ nodes.keys,
      path.dropLast = [] ∨
        (nodes.lookup path.dropLast).any Node.isDirectory = true

/-- What the copies raise. -/
inductive Failure where
  /-- `SnapshotError(code)`. -/
  | snapshot (code : String)
  /-- `ColdRedisError(message)`. -/
  | redis (message : String)
  | python (exception : String)
deriving DecidableEq

/-- A row of a manifest. -/
inductive Row where
  | directory (path : Path) (mode : Nat)
  | file (path : Path) (mode size : Nat) (mtimeNs : Int) (sha256 : String)
deriving DecidableEq

/-- The path of a row. -/
def Row.path : Row → Path
  | .directory path _ => path
  | .file path _ _ _ _ => path

/-- `relative`. -/
def Row.relative (row : Row) : String :=
  String.intercalate "/" row.path

/-- What the copies use of the system. -/
structure Tools where
  sha256 : List UInt8 → String
  /-- The digest of the rows of a Redis volume. -/
  treeDigest : List Row → String
  /-- The digest of the paths, sizes and digests of its files. -/
  contentDigest : List (Path × Nat × String) → String
  /-- The user can list, or add to, a directory of its own with this mode. -/
  canList : Nat → Bool
  canCreate : Nat → Bool
  /-- The mode of a directory that `mkdir` adds above another one. -/
  parentMode : Nat

/-- What a pass meets: the deadline may be over, or a call may fail. -/
structure Pass where
  /-- `lstat`, and the check after it. -/
  inspect : Path → Except Failure Unit
  /-- Opening a file without following links, and reading it. -/
  read : Path → Except Failure Unit

/-- `MAX_BYTES`. -/
def maxBytes : Nat := 4 * 1024 ^ 3

/-- `MAX_FILES`. -/
def maxFiles : Nat := 50000

/-- `MAX_SOURCE_FILES` of the Redis volumes. -/
def maxSourceFiles : Nat := 4096

section Copies

variable (tools : Tools)

/-! ## Manifests -/

/-- The row of a node. -/
def rowOf (path : Path) : VolumeNode → Row
  | .directory _ mode => .directory path mode
  | .file info =>
      .file path info.mode info.content.length info.mtimeNs
        (tools.sha256 info.content)

/-- The row at a path, if there is a node. -/
def rowAt (volume : Volume) (path : Path) : Option Row :=
  (volume.nodes.lookup path).map (rowOf tools path)

/-- One entry of `manifest`, after the rows and the bytes before it. -/
def visitEntry
    (pass : Pass) (volume : Volume) (state : List Row × Nat)
    (path : Path) : Except Failure (List Row × Nat) := do
  pass.inspect path
  match volume.nodes.lookup path with
  | none => .error (.python "FileNotFoundError")
  | some (.directory listable mode) =>
      return (state.1 ++ [rowOf tools path (.directory listable mode)],
        state.2)
  | some (.file info) => do
      let total := state.2 + info.content.length
      refuseIf (total > maxBytes ∨ state.1.length ≥ maxFiles)
        (.snapshot "COLD_COPY_SIZE_BOUND")
      pass.read path
      return (state.1 ++ [rowOf tools path (.file info)], total)

/-- One directory of `manifest`. -/
def visitListing
    (pass : Pass) (volume : Volume) (state : List Row × Nat)
    (listing : Listing) : Except Failure (List Row × Nat) := do
  refuseIf
    (state.1.length + listing.names.length + listing.files.length > maxFiles)
    (.snapshot "COLD_COPY_FILE_BOUND")
  let visited ←
    listing.paths.foldlM (visitEntry tools pass volume) state
  refuseIf (visited.1.length > maxFiles) (.snapshot "COLD_COPY_FILE_BOUND")
  return visited

/-- The result of `manifest`. -/
structure Manifest where
  rows : List Row
  bytes : Nat
  entries : Nat
deriving DecidableEq

/-- `manifest(root)`. -/
def manifest (pass : Pass) (volume : Volume) :
    Except Failure Manifest := do
  let (rows, total) ←
    volume.walk.foldlM (visitListing tools pass volume) ([], 0)
  refuseIf (rows = [] ∨ total = 0) (.snapshot "COLD_NONEMPTY_SOURCE_REQUIRED")
  return ⟨rows.insertionSort fun left right => left.relative ≤ right.relative,
    total, rows.length⟩

/-! ## Copying -/

/-- The nodes of a target. -/
abbrev Nodes : Type := AList fun _ : Path => VolumeNode

/-- The user may add an entry at a path. -/
def mayCreate (nodes : Nodes) (path : Path) : Bool :=
  if path.dropLast = [] then
    true
  else
    match nodes.lookup path.dropLast with
    | some (.directory _ mode) => tools.canCreate mode
    | _ => false

/-- A directory of the copying user. -/
def ownDirectory (mode : Nat) : VolumeNode :=
  .directory (tools.canList mode) mode

/-- A directory that may be there already. -/
def makeDirectory (nodes : Nodes) (path : Path) : Except Failure Nodes :=
  match nodes.lookup path with
  | some (.directory _ _) => .ok nodes
  | some (.file _) => .error (.python "FileExistsError")
  | none => do
      refuseIf (mayCreate tools nodes path = false)
        (.python "PermissionError")
      return nodes.insert path (ownDirectory tools tools.parentMode)

/-- `path.mkdir(parents=True, exist_ok=True)`. -/
def makeDirectories (nodes : Nodes) (path : Path) : Except Failure Nodes :=
  path.inits.tail.foldlM (makeDirectory tools) nodes

/-- A new file, opened with `xb`. -/
def createFile (nodes : Nodes) (path : Path) (info : FileInfo) :
    Except Failure Nodes := do
  refuseIf ((nodes.lookup path).isSome = true) (.python "FileExistsError")
  refuseIf (mayCreate tools nodes path = false) (.python "PermissionError")
  return nodes.insert path (.file info)

/-- One row of `copy_snapshot`, with the bytes copied so far. -/
def copyRow
    (pass : Pass) (source : Volume) (state : Nodes × Nat) (row : Row) :
    Except Failure (Nodes × Nat) :=
  match row with
  | .directory path mode => do
      let nodes ← makeDirectories tools state.1 path
      return (nodes.insert path (ownDirectory tools mode), state.2)
  | .file path mode size mtimeNs _ => do
      let nodes ← makeDirectories tools state.1 path.dropLast
      match source.nodes.lookup path with
      | some (.file info) => do
          refuseIf (info.content.length ≠ size ∨ info.mtimeNs ≠ mtimeNs)
            (.snapshot "COLD_SOURCE_CHANGED")
          let created ←
            createFile tools nodes path ⟨mode, mtimeNs, info.content⟩
          pass.read path
          refuseIf (state.2 + info.content.length > maxBytes)
            (.snapshot "COLD_COPY_SIZE_BOUND")
          return (created, state.2 + info.content.length)
      | _ => .error (.python "OSError")

/-- The four passes of a copy. -/
structure Passes where
  before : Pass
  copy : Pass
  after : Pass
  target : Pass

/-- The parts of the receipt that depend on the volumes. -/
structure Receipt where
  bytes : Nat
  entries : Nat
deriving DecidableEq

/-- `copy_snapshot(source, target)`, with the target that it leaves. -/
def copySnapshot
    (passes : Passes) (separate : Bool) (source target : Volume) :
    Except Failure (Receipt × Volume) := do
  refuseIf (separate = false) (.snapshot "COLD_SEPARATE_TARGET_REQUIRED")
  refuseIf (target.rootListable = false) (.python "PermissionError")
  refuseIf (target.nodes.entries ≠ []) (.snapshot "COLD_EMPTY_TARGET_REQUIRED")
  let before ← manifest tools passes.before source
  let (nodes, _) ←
    before.rows.foldlM (copyRow tools passes.copy source) (target.nodes, 0)
  let after ← manifest tools passes.after source
  let copied ← manifest tools passes.target { target with nodes := nodes }
  refuseIf (before ≠ after ∨ before ≠ copied)
    (.snapshot "COLD_COPY_CONTENT_OR_SOURCE_CONFLICT")
  return (⟨before.bytes, before.entries⟩, { target with nodes := nodes })

/-! ## The worker of the Redis volumes -/

/-- A path that `_metadata_row` refuses. -/
def isUnsafe (path : Path) : Bool :=
  path = [] || path.any fun part =>
    part.toList.any fun character => character.toNat < 32

/-- One entry of `_manifest_tree`. -/
def visitTreeEntry
    (pass : Pass) (maxTotalBytes : Nat) (volume : Volume)
    (state : List Row × Nat) (path : Path) :
    Except Failure (List Row × Nat) := do
  pass.inspect path
  match volume.nodes.lookup path with
  | none => .error (.python "FileNotFoundError")
  | some (.directory listable mode) => do
      refuseIf (isUnsafe path = true)
        (.redis "Redis volume has an unsafe path")
      return (state.1 ++ [rowOf tools path (.directory listable mode)],
        state.2)
  | some (.file info) => do
      let total := state.2 + info.content.length
      refuseIf (state.1.length ≥ maxSourceFiles ∨ total > maxTotalBytes)
        (.redis "Redis volume exceeds its file or size bound")
      pass.read path
      refuseIf (isUnsafe path = true)
        (.redis "Redis volume has an unsafe path")
      return (state.1 ++ [rowOf tools path (.file info)], total)

/-- The rows of files. -/
def contentRows (rows : List Row) : List (Path × Nat × String) :=
  rows.filterMap fun row =>
    match row with
    | .directory _ _ => none
    | .file path _ size _ sha256 => some (path, size, sha256)

/-- The result of `_manifest_tree`. -/
structure TreeManifest where
  fileCount : Nat
  totalBytes : Nat
  manifestSha256 : String
  contentSha256 : String
deriving DecidableEq

/-- The rows of `_manifest_tree`, and the bytes of the files. -/
def treeRows (pass : Pass) (maxTotalBytes : Nat) (volume : Volume) :
    Except Failure (List Row × Nat) := do
  let visited ←
    (volume.walk.flatMap Listing.paths).foldlM
      (visitTreeEntry tools pass maxTotalBytes volume) ([], 0)
  refuseIf (visited.1.length > maxSourceFiles)
    (.redis "Redis volume exceeds its file bound")
  return visited

/-- `_manifest_tree`. -/
def manifestTree (pass : Pass) (maxTotalBytes : Nat) (volume : Volume) :
    Except Failure TreeManifest := do
  let (rows, total) ← treeRows tools pass maxTotalBytes volume
  return ⟨(contentRows rows).length, total, tools.treeDigest rows,
    tools.contentDigest (contentRows rows)⟩

/-- `mode & 0o777`. -/
def permissionBits (mode : Nat) : Nat :=
  mode % 512

/-- One file of `_copy_tree`. -/
def copyTreeFile
    (pass : Pass) (source : Volume) (nodes : Nodes) (path : Path) :
    Except Failure Nodes := do
  pass.inspect path
  match source.nodes.lookup path with
  | some (.file info) => do
      pass.read path
      createFile tools nodes path
        { info with mode := permissionBits info.mode }
  | _ => .error (.redis "Redis volume contains an unsafe file")

/-- One directory of `_copy_tree`; the root of the target is there already. -/
def copyTreeListing
    (pass : Pass) (source : Volume) (nodes : Nodes) (listing : Listing) :
    Except Failure Nodes := do
  let made ← makeDirectories tools nodes listing.directory
  let changed :=
    match source.nodes.lookup listing.directory with
    | some (.directory _ mode) =>
        made.insert listing.directory
          (ownDirectory tools (permissionBits mode))
    | _ => made
  (listing.files.map fun name => listing.directory ++ [name]).foldlM
    (copyTreeFile tools pass source) changed

/-- `_copy_tree`. -/
def copyTree (pass : Pass) (source : Volume) (nodes : Nodes) :
    Except Failure Nodes :=
  source.walk.foldlM (copyTreeListing tools pass source) nodes

/-- The `copy-hash` mode of `_copy_worker`, with the target that it leaves. -/
def copyWorker
    {Layout : Type} [DecidableEq Layout]
    (passes : Passes) (persistenceLayout : Except Failure Layout)
    (maxSourceBytes : Nat) (source : SourceVolume) (target : Volume) :
    Except Failure (TreeManifest × Volume) := do
  let before ←
    manifestTree tools passes.before maxSourceBytes source.toFileSystem
  let persistence ← persistenceLayout
  refuseIf (before.fileCount < 1 ∨ before.totalBytes > maxSourceBytes)
    (.redis "source Redis volume is empty or exceeds the copy-size bound")
  refuseIf (target.rootListable = false) (.python "PermissionError")
  refuseIf (target.nodes.entries ≠ [])
    (.redis "owned snapshot volume is not empty before copy")
  let nodes ←
    copyTree tools passes.copy source.toFileSystem target.nodes
  -- The root takes the permission bits of the root of the source.
  let copy : Volume := ⟨tools.canList (permissionBits source.mode), nodes⟩
  let after ←
    manifestTree tools passes.after maxSourceBytes source.toFileSystem
  let copied ← manifestTree tools passes.target maxSourceBytes copy
  let persistenceAfter ← persistenceLayout
  refuseIf
    (before ≠ after ∨ before.contentSha256 ≠ copied.contentSha256 ∨
      persistence ≠ persistenceAfter)
    (.redis "source changed during copy or snapshot content differs")
  return (before, copy)

end Copies

/-! ## What completeness means -/

/-- The kind of a node, with its permission bits, or with the file. -/
def entryOf : VolumeNode → Nat ⊕ FileInfo
  | .directory _ mode => .inl mode
  | .file info => .inr info

/-- The same relative paths, and the same entries there. -/
def SameEntries (source copy : Volume) : Prop :=
  ∀ path,
    (source.nodes.lookup path).map entryOf =
      (copy.nodes.lookup path).map entryOf

/-- The bytes of the regular file at a path. -/
def fileBytes (volume : Volume) (path : Path) : Option (List UInt8) :=
  match volume.nodes.lookup path with
  | some (.file info) => some info.content
  | _ => none

/-- The same regular files, path for path and byte for byte. -/
def SameFiles (source copy : Volume) : Prop :=
  ∀ path, fileBytes source path = fileBytes copy path

section Properties

variable {tools : Tools} {source : Volume}

/-! ## What a manifest lists -/

theorem visitEntry_appends
    {pass : Pass} {state next : List Row × Nat} {path : Path}
    (succeeded : visitEntry tools pass source state path = .ok next) :
    next.1 = state.1 ++ (rowAt tools source path).toList := by
  rw [visitEntry, bind_eq_ok_iff] at succeeded
  rcases succeeded with ⟨_, _, succeeded⟩
  split at succeeded
  case h_1 => cases succeeded
  case h_2 listable mode found =>
    rw [pure_eq_ok_iff] at succeeded
    simp [← succeeded, rowAt, found]
  case h_3 info found =>
    simp only [bind_eq_ok_iff, pure_eq_ok_iff] at succeeded
    rcases succeeded with ⟨_, _, _, _, rfl⟩
    simp [rowAt, found]

theorem visitListing_appends
    {pass : Pass} {state next : List Row × Nat} {listing : Listing}
    (succeeded : visitListing tools pass source state listing = .ok next) :
    next.1 =
      state.1 ++
        listing.paths.flatMap fun path =>
          (rowAt tools source path).toList := by
  simp only [visitListing, bind_eq_ok_iff, pure_eq_ok_iff] at succeeded
  rcases succeeded with ⟨_, _, visited, folded, _, _, rfl⟩
  exact foldlM_append (fun _ _ _ stepped => visitEntry_appends stepped) folded

/-- A manifest has the rows of the visible nodes. -/
theorem mem_rows_manifest
    {pass : Pass} {result : Manifest}
    (succeeded : manifest tools pass source = .ok result) {row : Row} :
    row ∈ result.rows ↔
      ∃ path, source.Visible path ∧ rowAt tools source path = some row := by
  simp only [manifest, bind_eq_ok_iff, pure_eq_ok_iff] at succeeded
  rcases succeeded with ⟨⟨rows, total⟩, folded, _, _, rfl⟩
  have listed :=
    foldlM_append (fun _ _ _ stepped => visitListing_appends stepped) folded
  simp only [List.nil_append] at listed
  rw [List.mem_insertionSort, listed, ← List.flatMap_assoc, List.mem_flatMap]
  simp only [mem_paths_walk, Option.mem_toList]

theorem rowOf_path (path : Path) (node : VolumeNode) :
    (rowOf tools path node).path = path := by
  cases node with
  | directory listable mode => rfl
  | file info => rfl

/-- The row of a manifest stands at its own path. -/
theorem rowAt_eq_some_iff {path : Path} {row : Row} :
    rowAt tools source path = some row ↔
      ∃ node, source.nodes.lookup path = some node ∧
        row = rowOf tools path node := by
  rw [rowAt, Option.map_eq_some_iff]
  constructor
  · rintro ⟨node, found, rfl⟩
    exact ⟨node, found, rfl⟩
  · rintro ⟨node, found, rfl⟩
    exact ⟨node, found, rfl⟩

/-! ## What a copy makes -/

/-- A copy holds paths that are visible, and files with the same bytes. -/
structure CopiedFrom (source : Volume) (nodes : Nodes) : Prop where
  visible : ∀ path, (nodes.lookup path).isSome → source.Visible path
  files :
    ∀ path info, nodes.lookup path = some (.file info) →
      ∃ original, source.nodes.lookup path = some (.file original) ∧
        original.content = info.content

theorem CopiedFrom.of_empty
    {nodes : Nodes} (empty : nodes.entries = []) :
    CopiedFrom source nodes := by
  have absent : ∀ path, nodes.lookup path = none := by
    intro path
    rw [AList.lookup_eq_none, AList.mem_keys, AList.keys, empty]
    exact List.not_mem_nil
  constructor
  · intro path found
    rw [absent] at found
    cases found
  · intro path info found
    rw [absent] at found
    cases found

theorem CopiedFrom.insert_directory
    {nodes : Nodes} (copied : CopiedFrom source nodes)
    {path : Path} (visible : source.Visible path) (listable : Bool)
    (mode : Nat) :
    CopiedFrom source (nodes.insert path (.directory listable mode)) := by
  constructor
  · intro other found
    by_cases same : other = path
    · exact same ▸ visible
    · rw [AList.lookup_insert_ne same] at found
      exact copied.visible other found
  · intro other info found
    by_cases same : other = path
    · rw [same, AList.lookup_insert] at found
      cases found
    · rw [AList.lookup_insert_ne same] at found
      exact copied.files other info found

theorem CopiedFrom.insert_file
    {nodes : Nodes} (copied : CopiedFrom source nodes)
    {path : Path} (visible : source.Visible path)
    {info original : FileInfo}
    (found : source.nodes.lookup path = some (.file original))
    (bytes : original.content = info.content) :
    CopiedFrom source (nodes.insert path (.file info)) := by
  constructor
  · intro other stored
    by_cases same : other = path
    · exact same ▸ visible
    · rw [AList.lookup_insert_ne same] at stored
      exact copied.visible other stored
  · intro other copy stored
    by_cases same : other = path
    · rw [same, AList.lookup_insert] at stored
      cases stored
      exact ⟨original, same ▸ found, bytes⟩
    · rw [AList.lookup_insert_ne same] at stored
      exact copied.files other copy stored

theorem createFile_eq_ok_iff
    {nodes next : Nodes} {path : Path} {info : FileInfo} :
    createFile tools nodes path info = .ok next ↔
      nodes.lookup path = none ∧ mayCreate tools nodes path = true ∧
        next = nodes.insert path (.file info) := by
  simp only [createFile, bind_eq_ok_iff, refuseIf_eq_ok_iff, pure_eq_ok_iff]
  constructor
  · rintro ⟨_, fresh, _, allowed, rfl⟩
    exact ⟨by simpa using fresh, by simpa using allowed, rfl⟩
  · rintro ⟨fresh, allowed, rfl⟩
    exact ⟨⟨⟩, by simp [fresh], ⟨⟩, by simp [allowed], rfl⟩

/-- A directory is there, or it is new. -/
theorem makeDirectory_cases
    {nodes next : Nodes} {path : Path}
    (made : makeDirectory tools nodes path = .ok next) :
    next = nodes ∨
      nodes.lookup path = none ∧
        next = nodes.insert path (ownDirectory tools tools.parentMode) := by
  rw [makeDirectory] at made
  split at made
  case h_1 => exact Or.inl (Except.ok.inj made).symm
  case h_2 => cases made
  case h_3 absent =>
    simp only [bind_eq_ok_iff, pure_eq_ok_iff] at made
    rcases made with ⟨_, _, rfl⟩
    exact Or.inr ⟨absent, rfl⟩

theorem CopiedFrom.makeDirectory
    {nodes next : Nodes} (copied : CopiedFrom source nodes)
    {path : Path} (visible : source.Visible path)
    (made : makeDirectory tools nodes path = .ok next) :
    CopiedFrom source next := by
  rcases makeDirectory_cases made with rfl | ⟨_, rfl⟩
  · exact copied
  · exact copied.insert_directory visible _ _

/-- The paths that `mkdir` comes to. -/
theorem mem_tail_inits {path above : Path} (member : above ∈ path.inits.tail) :
    above <+: path ∧ above ≠ [] := by
  cases path with
  | nil => cases member
  | cons head rest =>
      rw [List.inits_cons, List.tail_cons, List.mem_map] at member
      rcases member with ⟨inner, start, rfl⟩
      refine ⟨?_, List.cons_ne_nil _ _⟩
      exact List.cons_prefix_cons.2 ⟨rfl, (List.mem_inits _ _).1 start⟩

theorem CopiedFrom.makeDirectories
    {nodes next : Nodes} (copied : CopiedFrom source nodes)
    {path : Path} (visible : path = [] ∨ source.Visible path)
    (made : makeDirectories tools nodes path = .ok next) :
    CopiedFrom source next := by
  apply foldlM_invariant (CopiedFrom source) _ copied made
  intro state above later member holds stepped
  rcases mem_tail_inits member with ⟨start, nonempty⟩
  rcases visible with rfl | visible
  · exact absurd (List.prefix_nil.1 start) nonempty
  · exact holds.makeDirectory (visible.of_isPrefix start nonempty) stepped

/-- A file of a copy is kept. -/
theorem lookup_file_makeDirectories
    {nodes next : Nodes} {path file : Path} {info : FileInfo}
    (stored : nodes.lookup file = some (.file info))
    (made : ColdCopy.makeDirectories tools nodes path = .ok next) :
    next.lookup file = some (.file info) := by
  apply
    foldlM_invariant
      (fun state => state.lookup file = some (.file info)) _ stored
      made
  intro state above later _ holds stepped
  rcases makeDirectory_cases stepped with rfl | ⟨absent, rfl⟩
  · exact holds
  · rw [AList.lookup_insert_ne]
    · exact holds
    · rintro rfl
      rw [absent] at holds
      cases holds

theorem Visible.dropLast
    {path : Path} (visible : source.Visible path) :
    path.dropLast = [] ∨ source.Visible path.dropLast := by
  by_cases root : path.dropLast = []
  · exact Or.inl root
  · exact Or.inr (visible.of_isPrefix (List.dropLast_prefix path) root)

/-- A row of a manifest is copied from the source. -/
theorem CopiedFrom.copyRow
    {pass : Pass} {state next : Nodes × Nat} {row : Row}
    (copied : CopiedFrom source state.1) (visible : source.Visible row.path)
    (succeeded : copyRow tools pass source state row = .ok next) :
    CopiedFrom source next.1 := by
  cases row with
  | directory path mode =>
      simp only [ColdCopy.copyRow, bind_eq_ok_iff, pure_eq_ok_iff]
        at succeeded
      rcases succeeded with ⟨nodes, made, rfl⟩
      exact
        (copied.makeDirectories (Or.inr visible) made).insert_directory visible
          _ _
  | file path mode size mtimeNs sha256 =>
      rw [ColdCopy.copyRow, bind_eq_ok_iff] at succeeded
      rcases succeeded with ⟨nodes, made, succeeded⟩
      split at succeeded
      case h_2 => cases succeeded
      case h_1 info found =>
        simp only [bind_eq_ok_iff, createFile_eq_ok_iff, pure_eq_ok_iff]
          at succeeded
        rcases succeeded with ⟨_, _, _, ⟨_, _, rfl⟩, _, _, _, _, rfl⟩
        exact
          (copied.makeDirectories (Visible.dropLast visible)
            made).insert_file visible found rfl

theorem CopiedFrom.copyTreeFile
    {pass : Pass} {nodes next : Nodes} {path : Path}
    (copied : CopiedFrom source nodes) (visible : source.Visible path)
    (succeeded : copyTreeFile tools pass source nodes path = .ok next) :
    CopiedFrom source next := by
  rw [ColdCopy.copyTreeFile, bind_eq_ok_iff] at succeeded
  rcases succeeded with ⟨_, _, succeeded⟩
  split at succeeded
  case h_2 => cases succeeded
  case h_1 info found =>
    simp only [bind_eq_ok_iff, createFile_eq_ok_iff] at succeeded
    rcases succeeded with ⟨_, _, _, _, rfl⟩
    exact copied.insert_file visible found rfl

theorem exists_file_copyTreeFile
    {pass : Pass} {nodes next : Nodes} {path : Path}
    (succeeded : copyTreeFile tools pass source nodes path = .ok next) :
    ∃ info, next.lookup path = some (.file info) := by
  rw [copyTreeFile, bind_eq_ok_iff] at succeeded
  rcases succeeded with ⟨_, _, succeeded⟩
  split at succeeded
  case h_2 => cases succeeded
  case h_1 info found =>
    simp only [bind_eq_ok_iff, createFile_eq_ok_iff] at succeeded
    rcases succeeded with ⟨_, _, _, _, rfl⟩
    exact ⟨_, AList.lookup_insert _⟩

theorem lookup_file_copyTreeFile
    {pass : Pass} {nodes next : Nodes} {path file : Path} {info : FileInfo}
    (stored : nodes.lookup file = some (.file info))
    (succeeded : copyTreeFile tools pass source nodes path = .ok next) :
    next.lookup file = some (.file info) := by
  rw [copyTreeFile, bind_eq_ok_iff] at succeeded
  rcases succeeded with ⟨_, _, succeeded⟩
  split at succeeded
  case h_2 => cases succeeded
  case h_1 original found =>
    simp only [bind_eq_ok_iff, createFile_eq_ok_iff] at succeeded
    rcases succeeded with ⟨_, _, fresh, _, rfl⟩
    rw [AList.lookup_insert_ne]
    · exact stored
    · rintro rfl
      rw [fresh] at stored
      cases stored

/-- The files that a listing names. -/
def filePaths (listing : Listing) : List Path :=
  listing.files.map fun name => listing.directory ++ [name]

/-- The directory of a listing, on the side of the copy. -/
def enterDirectory
    (tools : Tools) (source : Volume) (made : Nodes) (directory : Path) :
    Nodes :=
  match source.nodes.lookup directory with
  | some (.directory _ mode) =>
      made.insert directory (ownDirectory tools (permissionBits mode))
  | _ => made

/-- A listing makes its directory, and then copies its files. -/
theorem copyTreeListing_eq_ok_iff
    {pass : Pass} {nodes next : Nodes} {listing : Listing} :
    copyTreeListing tools pass source nodes listing = .ok next ↔
      ∃ made, makeDirectories tools nodes listing.directory = .ok made ∧
        (filePaths listing).foldlM (copyTreeFile tools pass source)
            (enterDirectory tools source made listing.directory) =
          .ok next := by
  rw [copyTreeListing, bind_eq_ok_iff]
  rfl

/-- A directory that the walk lists is the root, or it is visible. -/
theorem visible_of_mem_walk
    {listing : Listing} (member : listing ∈ source.walk) :
    listing.directory = [] ∨ source.Visible listing.directory := by
  rcases mem_walk.1 member with ⟨directory, rfl, listed⟩
  by_cases root : directory = []
  · exact Or.inl root
  · apply Or.inr
    refine ⟨root, ?_, fun above start _ => listed above start⟩
    exact isSome_of_isListable root (listed directory (List.prefix_refl _))

theorem visible_of_mem_filePaths
    {listing : Listing} (member : listing ∈ source.walk)
    {path : Path} (named : path ∈ filePaths listing) :
    source.Visible path := by
  apply mem_paths_walk.1
  apply List.mem_flatMap.2
  refine ⟨listing, member, ?_⟩
  rw [Listing.paths, List.map_append, List.mem_append]
  exact Or.inr named

theorem CopiedFrom.enterDirectory
    {made : Nodes} {directory : Path}
    (copied : CopiedFrom source made)
    (root_free : source.nodes.lookup [] = none)
    (visible : directory = [] ∨ source.Visible directory) :
    CopiedFrom source (enterDirectory tools source made directory) := by
  unfold ColdCopy.enterDirectory
  split
  case h_1 listable mode found =>
    rcases visible with rfl | visible
    · rw [root_free] at found
      cases found
    · exact copied.insert_directory visible _ _
  case h_2 => exact copied

theorem lookup_file_enterDirectory
    {made : Nodes} {directory file : Path} {info : FileInfo}
    (copied : CopiedFrom source made)
    (stored : made.lookup file = some (.file info)) :
    (enterDirectory tools source made directory).lookup file =
      some (.file info) := by
  unfold enterDirectory
  split
  case h_1 listable mode found =>
    rw [AList.lookup_insert_ne]
    · exact stored
    · rintro rfl
      rcases copied.files _ _ stored with ⟨original, isFile, _⟩
      rw [isFile] at found
      cases found
  case h_2 => exact stored

theorem lookup_file_copyTreeListing
    {pass : Pass} {nodes next : Nodes} {listing : Listing} {file : Path}
    {info : FileInfo}
    (copied : CopiedFrom source nodes) (member : listing ∈ source.walk)
    (stored : nodes.lookup file = some (.file info))
    (succeeded :
      copyTreeListing tools pass source nodes listing = .ok next) :
    next.lookup file = some (.file info) := by
  rcases copyTreeListing_eq_ok_iff.1 succeeded with ⟨made, directory, folded⟩
  have kept := lookup_file_makeDirectories stored directory
  have entered : CopiedFrom source made :=
    copied.makeDirectories (visible_of_mem_walk member) directory
  apply
    foldlM_invariant
      (fun state => state.lookup file = some (.file info)) _
      (lookup_file_enterDirectory entered kept) folded
  intro state path later _ holds stepped
  exact lookup_file_copyTreeFile holds stepped

/-- A listing copies the files that it names. -/
theorem exists_file_copyTreeListing
    {pass : Pass} {nodes next : Nodes} {listing : Listing} {file : Path}
    (named : file ∈ filePaths listing)
    (succeeded :
      copyTreeListing tools pass source nodes listing = .ok next) :
    ∃ info, next.lookup file = some (.file info) := by
  rcases copyTreeListing_eq_ok_iff.1 succeeded with ⟨made, directory, folded⟩
  apply
    foldlM_establishes (fun _ => True)
      (fun state => ∃ info, state.lookup file = some (.file info))
      _ _ _ named trivial folded
  · intro _ _ _ _ _ _
    trivial
  · rintro state path later _ ⟨info, stored⟩ stepped
    exact ⟨info, lookup_file_copyTreeFile stored stepped⟩
  · intro state later _ stepped
    exact exists_file_copyTreeFile stepped

section CopyTree

variable {pass : Pass} (root_free : source.nodes.lookup [] = none)

include root_free

theorem CopiedFrom.copyTreeListing
    {nodes next : Nodes} {listing : Listing}
    (copied : CopiedFrom source nodes) (member : listing ∈ source.walk)
    (succeeded :
      copyTreeListing tools pass source nodes listing = .ok next) :
    CopiedFrom source next := by
  rcases copyTreeListing_eq_ok_iff.1 succeeded with ⟨made, directory, folded⟩
  have visible := visible_of_mem_walk member
  have entered : CopiedFrom source made :=
    copied.makeDirectories visible directory
  apply
    foldlM_invariant (CopiedFrom source) _
      (entered.enterDirectory root_free visible) folded
  intro state path later named holds stepped
  exact holds.copyTreeFile (visible_of_mem_filePaths member named) stepped

theorem CopiedFrom.copyTree
    {nodes next : Nodes} (copied : CopiedFrom source nodes)
    (succeeded : copyTree tools pass source nodes = .ok next) :
    CopiedFrom source next := by
  apply foldlM_invariant (CopiedFrom source) _ copied succeeded
  intro state listing later member holds stepped
  exact holds.copyTreeListing root_free member stepped

/-- The copy of a tree has the visible files. -/
theorem exists_file_copyTree
    {nodes next : Nodes} {file : Path} {info : FileInfo}
    (copied : CopiedFrom source nodes) (visible : source.Visible file)
    (isFile : source.nodes.lookup file = some (.file info))
    (succeeded : copyTree tools pass source nodes = .ok next) :
    ∃ copy, next.lookup file = some (.file copy) := by
  rcases List.mem_flatMap.1 (mem_paths_walk.2 visible) with
    ⟨listing, member, named⟩
  have inFiles : file ∈ filePaths listing := by
    rcases mem_walk.1 member with ⟨directory, rfl, _⟩
    rcases List.mem_map.1 named with ⟨name, child, rfl⟩
    apply List.mem_map.2
    refine ⟨name, ?_, rfl⟩
    rcases List.mem_append.1 child with inNames | inFiles
    · rcases mem_childNames.1 inNames with ⟨node, found, isDirectory⟩
      have same : node = .file info :=
        Option.some.inj (found.symm.trans isFile)
      rw [same] at isDirectory
      cases isDirectory
    · exact inFiles
  have whole :
      CopiedFrom source next ∧
        ∃ copy, next.lookup file = some (.file copy) := by
    apply
      foldlM_establishes (CopiedFrom source)
        (fun state =>
          CopiedFrom source state ∧
            ∃ copy, state.lookup file = some (.file copy))
        _ _ _ member copied succeeded
    · intro state other later inWalk holds stepped
      exact holds.copyTreeListing root_free inWalk stepped
    · rintro state other later inWalk ⟨holds, copy, stored⟩ stepped
      exact
        ⟨holds.copyTreeListing root_free inWalk stepped, copy,
          lookup_file_copyTreeListing holds inWalk stored stepped⟩
    · intro state later holds stepped
      exact
        ⟨holds.copyTreeListing root_free member stepped,
          exists_file_copyTreeListing inFiles stepped⟩
  exact whole.2

end CopyTree

end Properties

/-! ## Completeness -/

section Completeness

variable {tools : Tools} {passes : Passes} {source : SourceVolume}
    {target copy : Volume}

/-- The copy that `copy_snapshot` accepts has the visible nodes. -/
theorem entryOf_lookup_copySnapshot
    {separate : Bool} {receipt : Receipt}
    (succeeded :
      copySnapshot tools passes separate source.toFileSystem target =
        .ok (receipt, copy)) :
    CopiedFrom source.toFileSystem copy.nodes ∧
      ∀ path, source.Visible path →
        (source.nodes.lookup path).map entryOf =
          (copy.nodes.lookup path).map entryOf := by
  simp only [copySnapshot, bind_eq_ok_iff, refuseIf_eq_ok_iff,
    pure_eq_ok_iff, not_not, not_or, Prod.mk.injEq] at succeeded
  rcases succeeded with
    ⟨_, _, _, _, _, empty, before, described, ⟨nodes, bytes⟩, folded, after,
      _, copied, redescribed, _, ⟨_, same⟩, _, rfl⟩
  have made : CopiedFrom source.toFileSystem nodes := by
    apply
      foldlM_invariant
        (fun state : Nodes × Nat =>
          CopiedFrom source.toFileSystem state.1) _
        (CopiedFrom.of_empty empty) folded
    intro state row later member holds stepped
    rcases (mem_rows_manifest described).1 member with ⟨path, visible, found⟩
    rcases rowAt_eq_some_iff.1 found with ⟨node, _, rfl⟩
    exact holds.copyRow (by rwa [rowOf_path]) stepped
  refine ⟨made, fun path visible => ?_⟩
  rcases Option.isSome_iff_exists.1 visible.2.1 with ⟨node, found⟩
  have listed : rowOf tools path node ∈ before.rows :=
    (mem_rows_manifest described).2
      ⟨path, visible, rowAt_eq_some_iff.2 ⟨node, found, rfl⟩⟩
  rw [same] at listed
  rcases (mem_rows_manifest redescribed).1 listed with ⟨other, _, sameRow⟩
  rcases rowAt_eq_some_iff.1 sameRow with ⟨twin, stored, equal⟩
  have samePath : path = other := by
    rw [← rowOf_path path node, equal, rowOf_path]
  subst samePath
  rw [found, stored, Option.map_some, Option.map_some]
  cases node with
  | directory listable mode =>
      cases twin with
      | directory _ _ =>
          cases equal
          rfl
      | file _ => cases equal
  | file info =>
      cases twin with
      | directory _ _ => cases equal
      | file copy =>
          rcases made.files path copy stored with ⟨original, isFile, bytes⟩
          rw [found] at isFile
          cases isFile
          rcases info with ⟨mode, mtimeNs, content⟩
          rcases copy with ⟨copyMode, copyMtimeNs, copyContent⟩
          simp only [rowOf, Row.file.injEq] at equal bytes
          rw [equal.2.1, equal.2.2.2.1, bytes]

/-- `copy_snapshot` misses what stands below an unlistable directory. -/
theorem sameEntries_copySnapshot_iff
    {separate : Bool} {receipt : Receipt}
    (succeeded :
      copySnapshot tools passes separate source.toFileSystem target =
        .ok (receipt, copy)) :
    SameEntries source.toFileSystem copy ↔
      ∀ path node, source.nodes.lookup path = some node →
        source.Reachable path := by
  rcases entryOf_lookup_copySnapshot succeeded with ⟨copied, agrees⟩
  constructor
  · intro same path node found
    have copiedThere : (copy.nodes.lookup path).isSome := by
      have entry := same path
      rw [found, Option.map_some] at entry
      rcases Option.map_eq_some_iff.1 entry.symm with ⟨twin, stored, _⟩
      simp [stored]
    exact (copied.visible path copiedThere).2.2
  · intro reachable path
    cases found : source.nodes.lookup path with
    | some node =>
        have nonempty : path ≠ [] := by
          rintro rfl
          rw [source.root_free] at found
          cases found
        rw [← found]
        exact
          agrees path ⟨nonempty, by simp [found], reachable path node found⟩
    | none =>
        cases stored : copy.nodes.lookup path with
        | none => rfl
        | some twin =>
            have visible := copied.visible path (by simp [stored])
            have present := visible.2.1
            rw [found] at present
            cases present

/-- The worker misses the files below an unlistable directory. -/
theorem sameFiles_copyWorker_iff
    {Layout : Type} [DecidableEq Layout]
    {persistenceLayout : Except Failure Layout} {maxSourceBytes : Nat}
    {verified : TreeManifest}
    (succeeded :
      copyWorker tools passes persistenceLayout maxSourceBytes source target =
        .ok (verified, copy)) :
    SameFiles source.toFileSystem copy ↔
      ∀ path info, source.nodes.lookup path = some (.file info) →
        source.Reachable path := by
  simp only [copyWorker, bind_eq_ok_iff, refuseIf_eq_ok_iff,
    pure_eq_ok_iff, not_not, Prod.mk.injEq] at succeeded
  rcases succeeded with
    ⟨before, _, persistence, _, _, _, _, _, _, empty, nodes, made, after, _,
      copied, _, persistenceAfter, _, _, _, _, rfl⟩
  have start : CopiedFrom source.toFileSystem target.nodes :=
    CopiedFrom.of_empty empty
  have holds := start.copyTree source.root_free made
  constructor
  · intro same path info found
    have bytes := same path
    simp only [fileBytes, found] at bytes
    split at bytes
    case h_1 copy stored =>
      exact (holds.visible path (by simp [stored])).2.2
    case h_2 => cases bytes
  · intro reachable path
    rw [fileBytes, fileBytes]
    split
    case h_1 info found =>
      have nonempty : path ≠ [] := by
        rintro rfl
        rw [source.root_free] at found
        cases found
      have visible : source.Visible path :=
        ⟨nonempty, by simp [found], reachable path info found⟩
      rcases exists_file_copyTree source.root_free start visible found made
        with ⟨copy, stored⟩
      rcases holds.files path copy stored with ⟨original, isFile, bytes⟩
      rw [found] at isFile
      cases isFile
      rw [stored, bytes]
    case h_2 notFile =>
      split
      case h_1 copy stored =>
        rcases holds.files path copy stored with ⟨original, isFile, _⟩
        exact absurd isFile (notFile original)
      case h_2 => rfl

end Completeness

/-- An accepted copy is complete exactly when nothing was out of reach. -/
theorem coldCopy_complete_iff
    (tools : Tools) (passes : Passes) (source : SourceVolume)
    (target copy : Volume) :
    (∀ (separate : Bool) (receipt : Receipt),
        copySnapshot tools passes separate source.toFileSystem target =
            .ok (receipt, copy) →
          (SameEntries source.toFileSystem copy ↔
            ∀ path node, source.nodes.lookup path = some node →
              source.Reachable path)) ∧
      ∀ (Layout : Type) [DecidableEq Layout]
        (persistenceLayout : Except Failure Layout) (maxSourceBytes : Nat)
        (verified : TreeManifest),
        copyWorker tools passes persistenceLayout maxSourceBytes source
              target =
            .ok (verified, copy) →
          (SameFiles source.toFileSystem copy ↔
            ∀ path info, source.nodes.lookup path = some (.file info) →
              source.Reachable path) := by
  constructor
  · intro separate receipt succeeded
    exact sameEntries_copySnapshot_iff succeeded
  · intro Layout _ persistenceLayout maxSourceBytes verified succeeded
    exact sameFiles_copyWorker_iff succeeded

/-- Where every directory can be listed, everything recorded is reachable. -/
theorem SourceVolume.reachable (source : SourceVolume)
    (root : source.rootListable = true)
    (listed :
      ∀ path ∈ source.nodes.keys,
        (source.nodes.lookup path).any Node.isDirectory = true →
          source.isListable path = true) :
    ∀ path ∈ source.nodes.keys, source.Reachable path := by
  intro path
  induction path using List.reverseRecOn with
  | nil =>
      intro member
      rw [← AList.mem_keys, ← AList.lookup_isSome, source.root_free] at member
      cases member
  | append_singleton directory name induction =>
      intro member above start proper
      have within : above <+: directory :=
        (List.prefix_concat_iff.1 start).resolve_left proper
      have parent := source.parents _ member
      rw [List.dropLast_concat] at parent
      rcases parent with atRoot | isDirectory
      · rw [atRoot, List.prefix_nil] at within
        rw [within, FileSystem.isListable, if_pos rfl]
        exact root
      · have recorded : directory ∈ source.nodes.keys := by
          rw [← AList.mem_keys, ← AList.lookup_isSome]
          rcases Option.any_eq_true .. |>.1 isDirectory with ⟨node, found, _⟩
          rw [found]
          rfl
        by_cases whole : above = directory
        · rw [whole]
          exact listed directory recorded isDirectory
        · exact induction recorded above within whole

/-- Digests that show what they are made of, and an owner's permissions. -/
def plainTools : Tools where
  sha256 bytes := String.ofList (bytes.map fun byte => Char.ofNat byte.toNat)
  treeDigest rows := String.join (rows.map Row.relative)
  contentDigest rows := String.join (rows.map fun row => row.2.2)
  canList mode := mode / 256 % 2 = 1 ∧ mode / 64 % 2 = 1
  canCreate mode := mode / 128 % 2 = 1 ∧ mode / 64 % 2 = 1
  parentMode := 0o755

/-- A pass that nothing disturbs. -/
def calmPass : Pass where
  inspect _ := .ok ()
  read _ := .ok ()

/-- Four of them. -/
def calmPasses : Passes := ⟨calmPass, calmPass, calmPass, calmPass⟩

/-- An empty directory and a file. -/
def smallSource : SourceVolume where
  rootListable := true
  nodes :=
    AList.insert ["f"] (.file ⟨0o640, 7, [1, 2]⟩)
      (AList.insert ["d"] (.directory true 0o700) ∅)
  mode := 0o755
  root_free := by decide
  parents := by decide

/-- A directory with a file in it, and a file. -/
def nestedSource : SourceVolume where
  rootListable := true
  nodes :=
    AList.insert ["d", "x"] (.file ⟨0o640, 7, [3]⟩)
      (AList.insert ["f"] (.file ⟨0o640, 7, [1, 2]⟩)
        (AList.insert ["d"] (.directory true 0o700) ∅))
  mode := 0o755
  root_free := by decide
  parents := by decide

/-- The copy of it, in the order of the manifest. -/
def nestedCopy : Volume where
  rootListable := true
  nodes :=
    AList.insert ["f"] (.file ⟨0o640, 7, [1, 2]⟩)
      (AList.insert ["d", "x"] (.file ⟨0o640, 7, [3]⟩)
        (AList.insert ["d"] (.directory true 0o700) ∅))

/-- What the worker makes of it, in the order of its own walk. -/
def nestedTree : Volume where
  rootListable := true
  nodes :=
    AList.insert ["d", "x"] (.file ⟨0o640, 7, [3]⟩)
      (AList.insert ["d"] (.directory true 0o700)
        (AList.insert ["f"] (.file ⟨0o640, 7, [1, 2]⟩) ∅))

theorem coldCopy_complete_small :
    SameEntries nestedSource.toFileSystem nestedCopy ∧
      SameFiles nestedSource.toFileSystem nestedTree := by
  have reachable :
      ∀ path node, nestedSource.nodes.lookup path = some node →
        nestedSource.Reachable path := by
    intro path node found
    apply nestedSource.reachable rfl (by decide)
    rw [← AList.mem_keys, ← AList.lookup_isSome, found]
    rfl
  constructor
  · have complete :=
      coldCopy_complete_iff plainTools calmPasses nestedSource ⟨true, ∅⟩
        nestedCopy
    exact (complete.1 true ⟨3, 3⟩ rfl).2 reachable
  · have complete :=
      coldCopy_complete_iff plainTools calmPasses nestedSource ⟨true, ∅⟩
        nestedTree
    apply (complete.2 Unit (.ok ()) maxBytes ⟨2, 3, _, _⟩ rfl).2
    intro path info found
    exact reachable path (.file info) found

/-- The directory is another user's, and has a file in it. -/
def hiddenSource : SourceVolume where
  rootListable := true
  nodes :=
    AList.insert ["d", "x"] (.file ⟨0o640, 7, [3]⟩)
      (AList.insert ["f"] (.file ⟨0o640, 7, [1, 2]⟩)
        (AList.insert ["d"] (.directory false 0o700) ∅))
  mode := 0o755
  root_free := by decide
  parents := by decide

/-- What the worker makes of it: the directory is not even made. -/
def hiddenTree : Volume where
  rootListable := true
  nodes := AList.insert ["f"] (.file ⟨0o640, 7, [1, 2]⟩) ∅

/-- Both copies are accepted without the file that the walk did not see. -/
theorem coldCopy_passes_hidden_file :
    (∃ receipt,
        copySnapshot plainTools calmPasses true hiddenSource.toFileSystem
            ⟨true, ∅⟩ =
          .ok (receipt, smallSource.toFileSystem)) ∧
      ¬ SameEntries hiddenSource.toFileSystem smallSource.toFileSystem ∧
      (∃ verified,
        copyWorker plainTools calmPasses (.ok ()) maxBytes hiddenSource
            ⟨true, ∅⟩ =
          .ok (verified, hiddenTree)) ∧
      ¬ SameFiles hiddenSource.toFileSystem hiddenTree := by
  refine ⟨⟨⟨2, 2⟩, rfl⟩, ?_, ⟨⟨1, 2, _, _⟩, rfl⟩, ?_⟩
  · intro same
    have entry := same ["d", "x"]
    cases entry
  · intro same
    have bytes := same ["d", "x"]
    cases bytes

end KairosDeploy.Epoch.ColdCopy
