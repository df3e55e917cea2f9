import Mathlib

/-!
# Trees of files, and walks through them

A tree of directories and files is a finite map from paths to nodes, where
every node stands below directories.  A walk lists the root, and goes on in
the directories that it finds.  A directory that cannot be listed yields
nothing, and the walk goes on without it, so what the walk sees are the nodes
that stand below listable directories only.
-/

namespace KairosDeploy.Library.FileTree

universe u v

/-- A path is given by its parts, from the root. -/
abbrev Path : Type := List String

/-- A node of a tree. -/
inductive Node (Directory : Type u) (File : Type v) where
  | directory (listable : Bool) (info : Directory)
  | file (info : File)
deriving DecidableEq

/-- The nodes below a root, and whether the root can be listed. -/
structure FileSystem (Directory : Type u) (File : Type v) where
  rootListable : Bool
  nodes : AList fun _ : Path => Node Directory File

section Walk

variable {Directory : Type u} {File : Type v}

/-- A directory. -/
def Node.isDirectory : Node Directory File → Bool
  | .directory _ _ => true
  | .file _ => false

variable (tree : FileSystem Directory File)

/-- A directory that can be listed. -/
def FileSystem.isListable (path : Path) : Bool :=
  if path = [] then
    tree.rootListable
  else
    match tree.nodes.lookup path with
    | some (.directory listable _) => listable
    | _ => false

/-- The names in a directory of its directories, or of its files. -/
def FileSystem.childNames (directory : Path) (directories : Bool) :
    List String :=
  (tree.nodes.entries.filterMap fun entry =>
      if entry.1.dropLast = directory ∧ entry.2.isDirectory = directories then
        entry.1.getLast?
      else
        none).insertionSort (· ≤ ·)

/-- What a walk says about a directory. -/
structure Listing where
  directory : Path
  names : List String
  files : List String
deriving DecidableEq

/-- The paths that a listing names. -/
def Listing.paths (listing : Listing) : List Path :=
  (listing.names ++ listing.files).map fun name =>
    listing.directory ++ [name]

/-- The listing of a directory. -/
def FileSystem.listing (directory : Path) : Listing where
  directory := directory
  names := tree.childNames directory true
  files := tree.childNames directory false

/-- The listings of a walk from a directory, top down. -/
def FileSystem.walkFrom : Nat → Path → List Listing
  | 0, _ => []
  | fuel + 1, directory =>
      if tree.isListable directory then
        tree.listing directory ::
          (tree.childNames directory true).flatMap fun name =>
            FileSystem.walkFrom fuel (directory ++ [name])
      else
        []

/-- The length of the longest path. -/
def FileSystem.depth : Nat :=
  (tree.nodes.entries.map fun entry => entry.1.length).foldr max 0

/-- The listings of a walk from the root. -/
def FileSystem.walk : List Listing :=
  tree.walkFrom (tree.depth + 1) []

/-- The directories above a path can be listed. -/
def FileSystem.Reachable (path : Path) : Prop :=
  ∀ above, above <+: path → above ≠ path → tree.isListable above = true

/-- A node that a walk comes to. -/
def FileSystem.Visible (path : Path) : Prop :=
  path ≠ [] ∧ (tree.nodes.lookup path).isSome ∧ tree.Reachable path

end Walk

section Properties

variable {Directory : Type u} {File : Type v}
    {tree : FileSystem Directory File}

theorem mem_childNames
    {directory : Path} {name : String} {directories : Bool} :
    name ∈ tree.childNames directory directories ↔
      ∃ node, tree.nodes.lookup (directory ++ [name]) = some node ∧
        node.isDirectory = directories := by
  rw [FileSystem.childNames, List.mem_insertionSort, List.mem_filterMap]
  constructor
  · rintro ⟨⟨path, node⟩, member, found⟩
    split_ifs at found with here
    have nonempty : path ≠ [] := by
      rintro rfl
      cases found
    have whole : directory ++ [name] = path := by
      rw [← here.1]
      exact List.dropLast_append_getLast? name found
    exact ⟨node, whole ▸ AList.mem_lookup_iff.2 member, here.2⟩
  · rintro ⟨node, found, kind⟩
    refine ⟨⟨directory ++ [name], node⟩, AList.mem_lookup_iff.1 found, ?_⟩
    rw [if_pos ⟨by simp, kind⟩]
    simp

/-- A listable directory below another one is among its names. -/
theorem mem_childNames_of_isListable
    {directory : Path} {name : String}
    (listable : tree.isListable (directory ++ [name]) = true) :
    name ∈ tree.childNames directory true := by
  rw [FileSystem.isListable, if_neg (by simp)] at listable
  split at listable
  case h_1 listable info found =>
    exact mem_childNames.2 ⟨_, found, rfl⟩
  case h_2 => cases listable

/-- The walk lists the directories all of whose prefixes can be listed. -/
theorem mem_walkFrom
    {fuel : Nat} {directory : Path} {listing : Listing} :
    listing ∈ tree.walkFrom fuel directory ↔
      ∃ rest, rest.length < fuel ∧
        listing = tree.listing (directory ++ rest) ∧
        ∀ above, above <+: rest →
          tree.isListable (directory ++ above) = true := by
  induction fuel generalizing directory with
  | zero => simp [FileSystem.walkFrom]
  | succ fuel induction =>
      rw [FileSystem.walkFrom]
      constructor
      · intro member
        split_ifs at member with listable
        · rcases List.mem_cons.1 member with rfl | below
          · refine ⟨[], Nat.succ_pos _, by simp, fun above start => ?_⟩
            rw [List.prefix_nil.1 start, List.append_nil]
            exact listable
          · rcases List.mem_flatMap.1 below with ⟨name, _, inside⟩
            rcases induction.1 inside with ⟨rest, short, rfl, listed⟩
            refine
              ⟨name :: rest, by simpa using short, by simp,
                fun above start => ?_⟩
            cases above with
            | nil => simpa using listable
            | cons head tail =>
                rcases List.cons_prefix_cons.1 start with ⟨rfl, more⟩
                simpa using listed tail more
        · cases member
      · rintro ⟨rest, short, rfl, listed⟩
        have here : tree.isListable directory = true := by
          simpa using listed [] List.nil_prefix
        rw [if_pos here]
        cases rest with
        | nil => simp
        | cons name rest =>
            have inner : tree.isListable (directory ++ [name]) = true :=
              listed [name] (List.cons_prefix_cons.2 ⟨rfl, List.nil_prefix⟩)
            refine List.mem_cons_of_mem _ (List.mem_flatMap.2 ⟨name, ?_, ?_⟩)
            · exact mem_childNames_of_isListable inner
            · refine
                induction.2
                  ⟨rest, by simpa using short, by simp,
                    fun above start => ?_⟩
              simpa using
                listed (name :: above) (List.cons_prefix_cons.2 ⟨rfl, start⟩)

theorem length_le_depth
    {path : Path} (found : (tree.nodes.lookup path).isSome) :
    path.length ≤ tree.depth := by
  rcases Option.isSome_iff_exists.1 found with ⟨node, stored⟩
  have member := AList.mem_lookup_iff.1 stored
  unfold FileSystem.depth
  generalize tree.nodes.entries = entries at member
  induction entries with
  | nil => cases member
  | cons head rest induction =>
      rw [List.map_cons, List.foldr_cons]
      rcases List.mem_cons.1 member with rfl | inRest
      · exact le_max_left _ _
      · exact (induction inRest).trans (le_max_right _ _)

theorem isSome_of_isListable
    {path : Path} (nonempty : path ≠ [])
    (listable : tree.isListable path = true) :
    (tree.nodes.lookup path).isSome := by
  rw [FileSystem.isListable, if_neg nonempty] at listable
  split at listable
  case h_1 found => simp [found]
  case h_2 => cases listable

/-- The directories above a visible node are visible. -/
theorem FileSystem.Visible.of_isPrefix
    {path above : Path} (visible : tree.Visible path)
    (start : above <+: path) (nonempty : above ≠ []) :
    tree.Visible above := by
  refine ⟨nonempty, ?_, fun higher below proper => ?_⟩
  · by_cases whole : above = path
    · rw [whole]
      exact visible.2.1
    · exact isSome_of_isListable nonempty (visible.2.2 above start whole)
  · apply visible.2.2 higher (below.trans start)
    rintro rfl
    exact proper (below.eq_of_length_le start.length_le)

theorem mem_walk {listing : Listing} :
    listing ∈ tree.walk ↔
      ∃ directory, listing = tree.listing directory ∧
        ∀ above, above <+: directory → tree.isListable above = true := by
  rw [FileSystem.walk, mem_walkFrom]
  constructor
  · rintro ⟨rest, _, rfl, listed⟩
    exact ⟨rest, rfl, listed⟩
  · rintro ⟨directory, rfl, listed⟩
    refine ⟨directory, ?_, rfl, listed⟩
    by_cases root : directory = []
    · rw [root]
      exact Nat.succ_pos _
    · exact
        Nat.lt_succ_of_le
          (length_le_depth
            (isSome_of_isListable root (listed _ (List.prefix_refl _))))

/-- The walk names the visible nodes. -/
theorem mem_paths_walk {path : Path} :
    path ∈ tree.walk.flatMap Listing.paths ↔ tree.Visible path := by
  rw [List.mem_flatMap]
  constructor
  · rintro ⟨listing, member, named⟩
    rcases mem_walk.1 member with ⟨directory, rfl, listed⟩
    rcases List.mem_map.1 named with ⟨name, listedName, rfl⟩
    refine ⟨by simp [FileSystem.listing], ?_, ?_⟩
    · rcases List.mem_append.1 listedName with inNames | inFiles
      · rcases mem_childNames.1 inNames with ⟨node, found, _⟩
        exact Option.isSome_iff_exists.2 ⟨node, found⟩
      · rcases mem_childNames.1 inFiles with ⟨node, found, _⟩
        exact Option.isSome_iff_exists.2 ⟨node, found⟩
    · intro above start proper
      refine listed above ?_
      rcases List.prefix_concat_iff.1 start with same | inside
      · exact absurd same proper
      · exact inside
  · rintro ⟨nonempty, found, listed⟩
    rcases List.eq_nil_or_concat' path with rfl | ⟨directory, name, rfl⟩
    · exact absurd rfl nonempty
    · rcases Option.isSome_iff_exists.1 found with ⟨node, stored⟩
      refine ⟨tree.listing directory, mem_walk.2 ⟨directory, rfl, ?_⟩, ?_⟩
      · intro above start
        refine listed above (start.trans (List.prefix_append _ _)) ?_
        rintro rfl
        have short := start.length_le
        simp at short
      · refine List.mem_map.2 ⟨name, ?_, rfl⟩
        rw [List.mem_append]
        cases kind : node.isDirectory with
        | true => exact Or.inl (mem_childNames.2 ⟨node, stored, kind⟩)
        | false => exact Or.inr (mem_childNames.2 ⟨node, stored, kind⟩)

end Properties

end KairosDeploy.Library.FileTree
