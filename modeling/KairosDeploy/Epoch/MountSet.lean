import KairosDeploy.Library.PyObject
import KairosDeploy.Library.Refusal

/-!
# The mounts of a created container

`require_mount_set` looks up every mount of a container in the expected map,
by the name of its volume or by its host path, and compares the destination
and the access mode.  At the end it compares the destinations only.  As they
are distinct on both sides, this makes the mounts correspond one to one to the
expected entries.  Host paths are compared up to slash direction, letter case
and the prefixes of Docker Desktop.
-/

namespace KairosDeploy.Epoch.MountSet

open KairosDeploy.Library.JsonValue
open KairosDeploy.Library.PyObject
open KairosDeploy.Library.Refusal

/-- `Rejected(message)`, or another exception under its name. -/
abbrev Message : Type := String

/-- An entry of the expected map: a host path or the name of a volume, its
destination, and whether it is writable. -/
structure Entry where
  source : String
  destination : String
  writable : Bool

/-! ## Identities -/

/-- The prefixes under which Docker Desktop shows the drives of the host. -/
def desktopPrefixes : List (List Char) :=
  ["/run/desktop/mnt/host/".toList, "/host_mnt/".toList]

/-- The drive path of a text with the prefix, where it is one. -/
def drivePath (text start : List Char) : Option (List Char) :=
  if start.isPrefixOf text then
    match text.drop start.length with
    | letter :: '/' :: rest =>
        if 'a' ≤ letter ∧ letter ≤ 'z' then
          some (letter :: ':' :: '/' :: rest)
        else
          none
    | _ => none
  else
    none

section MountSet

variable (casefold : String → String) (created : String → Bool)

/-- `fresh.mount_identity`. -/
def mountIdentity (value : String) : Except Message String :=
  let slashes := value.toList.map fun character =>
    if character = '\\' then '/' else character
  let text := (casefold (String.ofList slashes)).toList
  if (text.splitOn '/').any fun part => part = ['.'] ∨ part = ['.', '.'] then
    .error "NONCANONICAL_MOUNT_PATH"
  else
    .ok
      (String.ofList
        ((desktopPrefixes.findSome? (drivePath text)).getD text))

/-- The identity of an expected entry. -/
def expectedIdentity (entry : Entry) : Except Message String :=
  if created entry.source then
    .ok entry.source
  else
    mountIdentity casefold entry.source

/-- `mount.get("Type") == "volume"`. -/
def isVolume (mount : Members) : Bool :=
  match get mount "Type" with
  | .text kind => kind = "volume"
  | _ => false

/-- The identity of a mount. -/
def identityOf (mount : Members) : Except Message Json :=
  if isVolume mount then
    .ok (get mount "Name")
  else
    match get mount "Source" with
    | .text source => (mountIdentity casefold source).map .text
    | source =>
        if truthy source then
          .error "AttributeError"
        else
          (mountIdentity casefold "").map .text

/-! ## The check -/

/-- Whether a JSON value is the text. -/
def sameText (text : String) : Json → Bool
  | .text value => value = text
  | _ => false

/-- `value is flag`. -/
def isFlag (flag : Bool) : Json → Bool
  | .bool value => value = flag
  | _ => false

/-- The first expected entry with the identity. -/
def findKey (identity : Json) :
    List Entry → Except Message (Option Entry)
  | [] => .ok none
  | entry :: rest => do
      let candidate ← expectedIdentity casefold created entry
      if sameText candidate identity then
        .ok (some entry)
      else
        findKey identity rest

/-- One pass of the loop; `actual` holds the destinations seen so far. -/
def checkMount (expected : List Entry) (actual : List String)
    (mount : Members) : Except Message (List String) := do
  let identity ← identityOf casefold mount
  match ← findKey casefold created identity expected with
  | none => .error "CREATED_CONTAINER_MOUNT_SET_REJECTED"
  | some entry =>
      if !sameText entry.destination (get mount "Destination") ||
          !isFlag entry.writable (get mount "RW") ||
          actual.contains entry.destination then
        .error "CREATED_CONTAINER_MOUNT_SET_REJECTED"
      else
        .ok (entry.destination :: actual)

/-- `require_mount_set`, on the mounts of the inspected container. -/
def requireMountSet (expected : List Entry) (mounts : List Members) :
    Except Message Unit := do
  let actual ← mounts.foldlM (checkMount casefold created expected) []
  refuseIf (actual.toFinset ≠ (expected.map Entry.destination).toFinset)
    "CREATED_CONTAINER_MOUNT_SET_REJECTED"

/-! ## What an identity is -/

/-- A path with its slashes in one direction, and in one case. -/
def folded (value : String) : List Char :=
  (casefold
      (String.ofList
        (value.toList.map fun character =>
          if character = '\\' then '/' else character))).toList

/-- Docker Desktop shows a path of a drive under one of its prefixes. -/
inductive ShownAs : List Char → List Char → Prop
  | desktop {letter : Char} {rest : List Char}
      (low : 'a' ≤ letter) (high : letter ≤ 'z') :
      ShownAs (letter :: ':' :: '/' :: rest)
        ("/run/desktop/mnt/host/".toList ++ letter :: '/' :: rest)
  | hostMount {letter : Char} {rest : List Char}
      (low : 'a' ≤ letter) (high : letter ≤ 'z') :
      ShownAs (letter :: ':' :: '/' :: rest)
        ("/host_mnt/".toList ++ letter :: '/' :: rest)

/-- No component of the path is `.` or `..`. -/
def NoDots (text : List Char) : Prop :=
  ['.'] ∉ text.splitOn '/' ∧ ['.', '.'] ∉ text.splitOn '/'

/-- The value is a spelling of the path: they differ in slash direction,
letter case and the prefix of Docker Desktop only. -/
structure Spells (value path : String) : Prop where
  canonical : NoDots (folded casefold value)
  shown :
    ShownAs path.toList (folded casefold value) ∨
      folded casefold value = path.toList ∧
        ∀ drive, ¬ ShownAs drive (folded casefold value)

/-- Two values are spellings of one path. -/
def SamePath (left right : String) : Prop :=
  ∃ path, Spells casefold left path ∧ Spells casefold right path

/-- The mount is that of the volume with this name. -/
structure ShowsVolume (mount : Members) (name : String) : Prop where
  kind : get mount "Type" = .text "volume"
  name : get mount "Name" = .text name

/-- The mount is of another kind and has this host path, which is empty where
there is none. -/
structure ShowsPath (mount : Members) (path : String) : Prop where
  kind : get mount "Type" ≠ .text "volume"
  source :
    get mount "Source" = .text path ∨
      truthy (get mount "Source") = false ∧ path = ""

/-- What an entry goes by: the name of a created volume, or else the path that
it spells. -/
inductive Identified (entry : Entry) (identity : String) : Prop
  | name (isCreated : created entry.source = true)
      (same : entry.source = identity)
  | path (other : created entry.source = false)
      (spelled : Spells casefold entry.source identity)

/--
The mount shows what the entry names.  A created volume goes by its name, and
any other entry is taken for a path.  An entry of the other kind is met by its
very spelling only.
-/
inductive SameIdentity (mount : Members) (entry : Entry) : Prop
  | volume (isCreated : created entry.source = true)
      (shown : ShowsVolume mount entry.source)
  | path {path : String} (other : created entry.source = false)
      (shown : ShowsPath mount path)
      (same : SamePath casefold path entry.source)
  | volumeOfPath {name : String} (other : created entry.source = false)
      (shown : ShowsVolume mount name)
      (spelled : Spells casefold entry.source name)
  | pathOfVolume {path : String} (isCreated : created entry.source = true)
      (shown : ShowsPath mount path)
      (spelled : Spells casefold path entry.source)

section Spelling

variable {casefold created}

theorem drivePath_eq_some_iff (text start drive : List Char) :
    drivePath text start = some drive ↔
      ∃ letter rest, ('a' ≤ letter ∧ letter ≤ 'z') ∧
        text = start ++ letter :: '/' :: rest ∧
          drive = letter :: ':' :: '/' :: rest := by
  unfold drivePath
  constructor
  · intro found
    split at found
    · rename_i begins
      rcases List.isPrefixOf_iff_prefix.1 begins with ⟨remainder, rfl⟩
      rw [List.drop_left] at found
      split at found
      · rename_i letter rest
        split at found
        · rename_i inside
          exact ⟨letter, rest, inside, rfl, (Option.some.inj found).symm⟩
        · cases found
      · cases found
    · cases found
  · rintro ⟨letter, rest, inside, rfl, rfl⟩
    have begins :
        start.isPrefixOf (start ++ letter :: '/' :: rest) = true :=
      List.isPrefixOf_iff_prefix.2 (List.prefix_append _ _)
    rw [if_pos begins, List.drop_left]
    exact if_pos inside

/-- The drive that the code finds is the one that is shown. -/
theorem findSome_drivePath_iff (text drive : List Char) :
    desktopPrefixes.findSome? (drivePath text) = some drive ↔
      ShownAs drive text := by
  have either :
      desktopPrefixes.findSome? (drivePath text) =
        (drivePath text "/run/desktop/mnt/host/".toList).or
          (drivePath text "/host_mnt/".toList) := by
    simp only [desktopPrefixes, List.findSome?_cons, List.findSome?_nil]
    cases drivePath text "/run/desktop/mnt/host/".toList with
    | some drive => rfl
    | none =>
        cases drivePath text "/host_mnt/".toList <;> rfl
  rw [either, Option.or_eq_some_iff, drivePath_eq_some_iff,
    drivePath_eq_some_iff]
  constructor
  · rintro (⟨letter, rest, inside, rfl, rfl⟩ |
      ⟨_, letter, rest, inside, rfl, rfl⟩)
    · exact .desktop inside.1 inside.2
    · exact .hostMount inside.1 inside.2
  · intro shown
    cases shown with
    | @desktop letter rest low high =>
        exact Or.inl ⟨letter, rest, ⟨low, high⟩, rfl, rfl⟩
    | @hostMount letter rest low high =>
        refine Or.inr ⟨rfl, letter, rest, ⟨low, high⟩, rfl, rfl⟩

theorem any_dots_iff (text : List Char) :
    ((text.splitOn '/').any fun part => part = ['.'] ∨ part = ['.', '.']) =
        true ↔
      ¬ NoDots text := by
  rw [List.any_eq_true]
  simp only [decide_eq_true_eq, NoDots, not_and_or, not_not]
  constructor
  · rintro ⟨part, inside, rfl | rfl⟩
    · exact Or.inl inside
    · exact Or.inr inside
  · rintro (inside | inside)
    · exact ⟨_, inside, Or.inl rfl⟩
    · exact ⟨_, inside, Or.inr rfl⟩

theorem ofList_eq_iff (text : List Char) (path : String) :
    String.ofList text = path ↔ text = path.toList := by
  constructor
  · rintro rfl
    exact String.toList_ofList.symm
  · rintro rfl
    exact String.ofList_toList

/-- The identity of a value is the path that it spells. -/
theorem mountIdentity_eq_ok_iff (value path : String) :
    mountIdentity casefold value = .ok path ↔
      Spells casefold value path := by
  have drives := findSome_drivePath_iff (folded casefold value)
  have identity :
      String.ofList
            ((desktopPrefixes.findSome?
                (drivePath (folded casefold value))).getD
              (folded casefold value)) =
          path ↔
        ShownAs path.toList (folded casefold value) ∨
          folded casefold value = path.toList ∧
            ∀ drive, ¬ ShownAs drive (folded casefold value) := by
    rw [ofList_eq_iff]
    simp only [← drives]
    cases desktopPrefixes.findSome? (drivePath (folded casefold value)) with
    | some drive => simp
    | none => simp
  have unfolded :
      mountIdentity casefold value =
        if ((folded casefold value).splitOn '/').any fun part =>
            part = ['.'] ∨ part = ['.', '.'] then
          .error "NONCANONICAL_MOUNT_PATH"
        else
          .ok
            (String.ofList
              ((desktopPrefixes.findSome?
                  (drivePath (folded casefold value))).getD
                (folded casefold value))) :=
    rfl
  rw [unfolded]
  split
  · rename_i dots
    have dotted := (any_dots_iff _).1 dots
    constructor
    · intro impossible
      cases impossible
    · intro spells
      exact absurd spells.canonical dotted
  · rename_i plain
    have canonical : NoDots (folded casefold value) := by
      by_contra dotted
      exact plain ((any_dots_iff _).2 dotted)
    rw [Except.ok.injEq, identity]
    exact ⟨fun shown => ⟨canonical, shown⟩, Spells.shown⟩

theorem isVolume_iff (mount : Members) :
    isVolume mount = true ↔ get mount "Type" = .text "volume" := by
  unfold isVolume
  cases get mount "Type" <;> simp

theorem identityOf_eq_ok_iff (mount : Members) (identity : String) :
    identityOf casefold mount = .ok (.text identity) ↔
      ShowsVolume mount identity ∨
        ∃ path, ShowsPath mount path ∧ Spells casefold path identity := by
  have mapped :
      ∀ value,
        (mountIdentity casefold value).map Json.text =
            .ok (.text identity) ↔
          Spells casefold value identity := by
    intro value
    rw [← mountIdentity_eq_ok_iff]
    cases mountIdentity casefold value <;> simp [Except.map]
  unfold identityOf
  by_cases volume : isVolume mount = true
  · have kind := (isVolume_iff mount).1 volume
    rw [if_pos volume, Except.ok.injEq]
    constructor
    · exact fun name => Or.inl ⟨kind, name⟩
    · rintro (shown | ⟨path, shown, _⟩)
      · exact shown.name
      · exact absurd kind shown.kind
  · have kind : get mount "Type" ≠ .text "volume" :=
      fun same => volume ((isVolume_iff mount).2 same)
    rw [if_neg volume]
    have paths :
        (ShowsVolume mount identity ∨
            ∃ path, ShowsPath mount path ∧ Spells casefold path identity) ↔
          ∃ path,
            (get mount "Source" = .text path ∨
              truthy (get mount "Source") = false ∧ path = "") ∧
              Spells casefold path identity := by
      constructor
      · rintro (shown | ⟨path, shown, spells⟩)
        · exact absurd shown.kind kind
        · exact ⟨path, shown.source, spells⟩
      · rintro ⟨path, source, spells⟩
        exact Or.inr ⟨path, ⟨kind, source⟩, spells⟩
    rw [paths]
    cases source : get mount "Source" with
    | text path =>
        rw [mapped]
        constructor
        · exact fun spells => ⟨path, Or.inl rfl, spells⟩
        · rintro ⟨other, same | ⟨empty, rfl⟩, spells⟩
          · rw [Json.text.inj same]
            exact spells
          · have isEmpty : path = "" := by simpa [truthy] using empty
            rw [isEmpty]
            exact spells
    | _ =>
        dsimp only
        split
        · rename_i holds
          simp [holds]
        · rename_i falsy
          rw [mapped]
          simp [falsy]

theorem expectedIdentity_eq_ok_iff (entry : Entry) (identity : String) :
    expectedIdentity casefold created entry = .ok identity ↔
      Identified casefold created entry identity := by
  unfold expectedIdentity
  constructor
  · intro read
    split at read
    · rename_i isCreated
      exact .name isCreated (Except.ok.inj read)
    · rename_i other
      exact
        .path (Bool.not_eq_true _ ▸ other)
          ((mountIdentity_eq_ok_iff _ _).1 read)
  · intro identified
    cases identified with
    | name isCreated same => rw [if_pos isCreated, same]
    | path other spelled =>
        rw [other, if_neg Bool.false_ne_true]
        exact (mountIdentity_eq_ok_iff _ _).2 spelled

/-- The code compares identities exactly where they mean the same. -/
theorem sameIdentity_iff (mount : Members) (entry : Entry) :
    SameIdentity casefold created mount entry ↔
      ∃ identity,
        identityOf casefold mount = .ok (.text identity) ∧
          expectedIdentity casefold created entry = .ok identity := by
  simp only [identityOf_eq_ok_iff, expectedIdentity_eq_ok_iff]
  constructor
  · intro same
    cases same with
    | volume isCreated shown =>
        exact ⟨_, Or.inl shown, .name isCreated rfl⟩
    | path other shown same =>
        rcases same with ⟨identity, left, right⟩
        exact ⟨identity, Or.inr ⟨_, shown, left⟩, .path other right⟩
    | volumeOfPath other shown spelled =>
        exact ⟨_, Or.inl shown, .path other spelled⟩
    | pathOfVolume isCreated shown spelled =>
        exact ⟨_, Or.inr ⟨_, shown, spelled⟩, .name isCreated rfl⟩
  · rintro ⟨identity, shown | ⟨path, shown, left⟩, identified⟩
    · cases identified with
      | name isCreated same =>
          rw [← same] at shown
          exact .volume isCreated shown
      | path other right => exact .volumeOfPath other shown right
    · cases identified with
      | name isCreated same =>
          rw [← same] at left
          exact .pathOfVolume isCreated shown left
      | path other right => exact .path other shown ⟨identity, left, right⟩

end Spelling

/-! ## The correspondence -/

/-- The mount is the one that the entry asks for. -/
structure Corresponds (mount : Members) (entry : Entry) : Prop where
  identity : SameIdentity casefold created mount entry
  destination : get mount "Destination" = .text entry.destination
  access : get mount "RW" = .bool entry.writable

/-- The mounts are the expected entries in some order. -/
def OneToOne (expected : List Entry) (mounts : List Members) : Prop :=
  ∃ paired, paired.Perm expected ∧
    List.Forall₂ (Corresponds casefold created) mounts paired

theorem sameText_eq_true_iff (text : String) (value : Json) :
    sameText text value = true ↔ value = .text text := by
  cases value <;> simp [sameText]

theorem isFlag_eq_true_iff (flag : Bool) (value : Json) :
    isFlag flag value = true ↔ value = .bool flag := by
  cases value <;> simp [isFlag]

variable {casefold created} {expected : List Entry} {identity : Json}

theorem findKey_some {entry : Entry}
    (found : findKey casefold created identity expected = .ok (some entry)) :
    entry ∈ expected ∧ ∃ text, identity = .text text ∧
      expectedIdentity casefold created entry = .ok text := by
  induction expected with
  | nil => cases found
  | cons head rest induction =>
      rw [findKey, bind_eq_ok_iff] at found
      rcases found with ⟨candidate, read, found⟩
      split_ifs at found with same
      · cases found
        exact
          ⟨List.mem_cons_self, candidate,
            (sameText_eq_true_iff _ _).1 same, read⟩
      · rcases induction found with ⟨member, matching⟩
        exact ⟨List.mem_cons_of_mem _ member, matching⟩

/-- The identities of the entries are distinct. -/
def DistinctIdentities (casefold : String → String) (created : String → Bool)
    (expected : List Entry) : Prop :=
  expected.Pairwise fun first second =>
    ∀ identity,
      Identified casefold created first identity →
        ¬ Identified casefold created second identity

/-- An entry is found by its identity when all identities are defined. -/
theorem findKey_eq_of_mem
    (distinct : DistinctIdentities casefold created expected)
    (defined : ∀ entry ∈ expected, ∃ text,
      expectedIdentity casefold created entry = .ok text)
    {entry : Entry} (member : entry ∈ expected) {text : String}
    (read : expectedIdentity casefold created entry = .ok text) :
    findKey casefold created (.text text) expected = .ok (some entry) := by
  induction expected with
  | nil => cases member
  | cons head rest induction =>
      rcases defined head List.mem_cons_self with ⟨candidate, headRead⟩
      rcases List.pairwise_cons.1 distinct with ⟨apart, others⟩
      rw [findKey, headRead]
      rcases List.mem_cons.1 member with rfl | later
      · rw [headRead] at read
        cases read
        simp [bind, Except.bind, sameText]
      · have differs : text ≠ candidate := by
          rintro rfl
          rw [expectedIdentity_eq_ok_iff] at headRead read
          exact apart entry later text headRead read
        have found := induction others
          (fun other listed => defined other (List.mem_cons_of_mem _ listed))
          later
        simpa [bind, Except.bind, sameText, differs] using found

/-- What one pass of the loop establishes. -/
theorem checkMount_ok {actual next : List String} {mount : Members}
    (checked :
      checkMount casefold created expected actual mount = .ok next) :
    ∃ entry ∈ expected, Corresponds casefold created mount entry ∧
      entry.destination ∉ actual ∧ next = entry.destination :: actual := by
  rw [checkMount, bind_eq_ok_iff] at checked
  rcases checked with ⟨identity, read, checked⟩
  rw [bind_eq_ok_iff] at checked
  rcases checked with ⟨found, looked, checked⟩
  cases found with
  | none => cases checked
  | some entry =>
      rcases findKey_some looked with ⟨member, text, rfl, named⟩
      dsimp only at checked
      split_ifs at checked with wrong
      · cases checked
        simp only [Bool.or_eq_true, Bool.not_eq_true', not_or,
          Bool.not_eq_false, sameText_eq_true_iff, isFlag_eq_true_iff,
          List.contains_iff_mem] at wrong
        rcases wrong with ⟨⟨destination, access⟩, fresh⟩
        exact
          ⟨entry, member,
            ⟨(sameIdentity_iff _ _).2 ⟨text, read, named⟩, destination,
              access⟩,
            fresh, rfl⟩

/-- The converse of `checkMount_ok`. -/
theorem checkMount_eq_ok
    (distinct : DistinctIdentities casefold created expected)
    (defined : ∀ entry ∈ expected, ∃ text,
      expectedIdentity casefold created entry = .ok text)
    {actual : List String} {mount : Members} {entry : Entry}
    (member : entry ∈ expected)
    (corresponds : Corresponds casefold created mount entry)
    (fresh : entry.destination ∉ actual) :
    checkMount casefold created expected actual mount =
      .ok (entry.destination :: actual) := by
  rcases (sameIdentity_iff _ _).1 corresponds.identity with
    ⟨text, read, named⟩
  have looked := findKey_eq_of_mem distinct defined member named
  rw [checkMount, read]
  simp only [bind, Except.bind]
  rw [looked]
  simp [corresponds.destination, corresponds.access, sameText, isFlag, fresh]

/-- What the loop establishes: an entry for every mount, and the destinations
of these entries are distinct. -/
theorem checkMounts_ok {mounts : List Members} {actual final : List String}
    (unseen : actual.Nodup)
    (checked :
      mounts.foldlM (checkMount casefold created expected) actual =
        .ok final) :
    ∃ paired : List Entry, (∀ entry ∈ paired, entry ∈ expected) ∧
      List.Forall₂ (Corresponds casefold created) mounts paired ∧
      final = (paired.map Entry.destination).reverse ++ actual ∧
      final.Nodup := by
  induction mounts generalizing actual with
  | nil =>
      cases checked
      exact ⟨[], by simp, .nil, rfl, unseen⟩
  | cons mount rest induction =>
      rw [List.foldlM_cons, bind_eq_ok_iff] at checked
      rcases checked with ⟨between, first, others⟩
      rcases checkMount_ok first with
        ⟨entry, member, corresponds, fresh, rfl⟩
      rcases induction (List.nodup_cons.2 ⟨fresh, unseen⟩) others with
        ⟨paired, listed, matched, rfl, distinct⟩
      refine
        ⟨entry :: paired, ?_, .cons corresponds matched, ?_, distinct⟩
      · exact List.forall_mem_cons.2 ⟨member, listed⟩
      · simp

theorem checkMounts_eq_ok
    (distinct : DistinctIdentities casefold created expected)
    (defined : ∀ entry ∈ expected, ∃ text,
      expectedIdentity casefold created entry = .ok text)
    {mounts : List Members} {paired : List Entry}
    (listed : ∀ entry ∈ paired, entry ∈ expected)
    (matched : List.Forall₂ (Corresponds casefold created) mounts paired)
    {actual : List String}
    (fresh : ((paired.map Entry.destination) ++ actual).Nodup) :
    mounts.foldlM (checkMount casefold created expected) actual =
      .ok ((paired.map Entry.destination).reverse ++ actual) := by
  induction matched generalizing actual with
  | nil => rfl
  | @cons mount entry rest others corresponds _ induction =>
      rw [List.forall_mem_cons] at listed
      rw [List.map_cons, List.cons_append, List.nodup_cons] at fresh
      have unseen : entry.destination ∉ actual := fun seen =>
        fresh.1 (List.mem_append_right _ seen)
      rw [List.foldlM_cons,
        checkMount_eq_ok distinct defined listed.1 corresponds unseen]
      simp only [bind, Except.bind]
      rw [induction listed.2]
      · simp
      · exact List.nodup_middle.2 (List.nodup_cons.2 fresh)

/--
A container passes exactly when its mounts correspond one to one to the
expected entries.
-/
theorem requireMountSet_eq_ok_iff
    (distinct : DistinctIdentities casefold created expected)
    (destinations : (expected.map Entry.destination).Nodup)
    (mounts : List Members) :
    requireMountSet casefold created expected mounts = .ok () ↔
      OneToOne casefold created expected mounts := by
  rw [requireMountSet, bind_eq_ok_iff]
  constructor
  · rintro ⟨actual, checked, compared⟩
    rcases checkMounts_ok List.nodup_nil checked with
      ⟨paired, listed, matched, rfl, apart⟩
    rw [refuseIf_eq_ok_iff, not_not, List.append_nil,
      List.toFinset_reverse] at compared
    rw [List.append_nil, List.nodup_reverse] at apart
    refine ⟨paired, ?_, matched⟩
    refine
      (List.perm_ext_iff_of_nodup (List.Nodup.of_map _ apart)
        (List.Nodup.of_map _ destinations)).2 fun entry =>
          ⟨listed entry, fun member => ?_⟩
    -- The entry with this destination is paired, and it is the only one.
    have covered : entry.destination ∈ paired.map Entry.destination := by
      rw [← List.mem_toFinset, compared, List.mem_toFinset]
      exact List.mem_map_of_mem member
    rcases List.mem_map.1 covered with ⟨other, inPaired, same⟩
    have equal :=
      List.inj_on_of_nodup_map destinations (listed other inPaired) member
        same
    exact equal ▸ inPaired
  · rintro ⟨paired, permuted, matched⟩
    have defined : ∀ entry ∈ expected, ∃ text,
        expectedIdentity casefold created entry = .ok text := by
      intro entry member
      have inPaired := permuted.mem_iff.2 member
      rcases List.get_of_mem inPaired with ⟨index, rfl⟩
      rcases List.forall₂_iff_get.1 matched with ⟨lengths, each⟩
      have inside : index.1 < mounts.length := by
        rw [lengths]
        exact index.2
      have same := (each index.1 inside index.2).identity
      rcases (sameIdentity_iff _ _).1 same with ⟨text, _, named⟩
      exact ⟨text, named⟩
    have apart : (paired.map Entry.destination).Nodup :=
      (permuted.map Entry.destination).nodup_iff.2 destinations
    refine
      ⟨_, checkMounts_eq_ok distinct defined
        (fun entry member => permuted.mem_iff.1 member) matched
        (by rwa [List.append_nil]), ?_⟩
    rw [refuseIf_eq_ok_iff, not_not, List.append_nil,
      List.toFinset_reverse]
    exact List.toFinset_eq_of_perm _ _ (permuted.map Entry.destination)

/-- Two mounts of a container that passes do not satisfy one entry. -/
theorem apart_of_oneToOne
    (destinations : (expected.map Entry.destination).Nodup)
    {mounts : List Members}
    (corresponding : OneToOne casefold created expected mounts) :
    mounts.Pairwise fun first second =>
      ∀ entry ∈ expected, ¬ (Corresponds casefold created first entry ∧
        Corresponds casefold created second entry) := by
  rcases corresponding with ⟨paired, permuted, matched⟩
  have apart : (paired.map Entry.destination).Nodup :=
    (permuted.map Entry.destination).nodup_iff.2 destinations
  have listed : ∀ entry ∈ paired, entry ∈ expected := fun entry member =>
    permuted.mem_iff.1 member
  clear permuted
  induction matched with
  | nil => exact List.Pairwise.nil
  | @cons mount entry rest others corresponds matched induction =>
      rw [List.forall_mem_cons] at listed
      rw [List.map_cons, List.nodup_cons] at apart
      refine List.pairwise_cons.2 ⟨?_, induction apart.2 listed.2⟩
      intro second member other _ ⟨firstOther, secondOther⟩
      -- Both mounts have the destination of the entry.
      rcases List.get_of_mem member with ⟨index, rfl⟩
      rcases List.forall₂_iff_get.1 matched with ⟨lengths, each⟩
      have inside : index.1 < others.length := by
        rw [← lengths]
        exact index.2
      have later := each index.1 index.2 inside
      have same :
          entry.destination = (others.get ⟨_, inside⟩).destination := by
        have here := corresponds.destination.symm.trans firstOther.destination
        have there := later.destination.symm.trans secondOther.destination
        rw [Json.text.injEq] at here there
        exact here.trans there.symm
      exact apart.1 (same ▸ List.mem_map_of_mem (List.get_mem _ _))

/-! ## The kinds of the mounts -/

/-- A mount as Docker shows it: the name of a volume has no slash, and a host
path has one. -/
structure DockerMount (mount : Members) : Prop where
  name : ∀ name, ShowsVolume mount name → '/' ∉ name.toList
  path :
    ∀ path, ShowsPath mount path →
      '/' ∈ path.toList ∨ '\\' ∈ path.toList

/-- A key of the expected map: the name of a created volume, or a host path, or
the name of another volume, which is spelled as it is compared. -/
structure HostPathOrVolume (casefold : String → String)
    (created : String → Bool) (entry : Entry) : Prop where
  name : created entry.source = true → '/' ∉ entry.source.toList
  other :
    created entry.source = false →
      ('/' ∈ entry.source.toList ∨ '\\' ∈ entry.source.toList) ∨
        Spells casefold entry.source entry.source

/-- The mount is that of the named volume or of the host path, with the
destination and the access of the entry. -/
structure SameKind (casefold : String → String) (mount : Members)
    (entry : Entry) : Prop where
  source :
    ShowsVolume mount entry.source ∨
      ∃ path, ShowsPath mount path ∧ SamePath casefold path entry.source
  destination : get mount "Destination" = .text entry.destination
  access : get mount "RW" = .bool entry.writable

theorem Spells.unique {value left right : String}
    (first : Spells casefold value left)
    (second : Spells casefold value right) : left = right := by
  rw [← mountIdentity_eq_ok_iff] at first second
  exact Except.ok.inj (first.symm.trans second)

theorem ShownAs.slash {drive text : List Char} (shown : ShownAs drive text) :
    '/' ∈ drive := by
  cases shown <;> simp

/-- What a path with a slash spells has one. -/
theorem Spells.slash
    (keeps :
      ∀ text : String, '/' ∈ text.toList → '/' ∈ (casefold text).toList)
    {value path : String} (spells : Spells casefold value path)
    (slash : '/' ∈ value.toList ∨ '\\' ∈ value.toList) :
    '/' ∈ path.toList := by
  have inFolded : '/' ∈ folded casefold value := by
    apply keeps
    rw [String.toList_ofList, List.mem_map]
    rcases slash with slash | slash
    · exact ⟨'/', slash, rfl⟩
    · exact ⟨'\\', slash, rfl⟩
  rcases spells.shown with shown | ⟨same, _⟩
  · exact shown.slash
  · rw [← same]
    exact inFolded

/-- Mounts of Docker meet entries of their own kind. -/
theorem Corresponds.sameKind
    (keeps :
      ∀ text : String, '/' ∈ text.toList → '/' ∈ (casefold text).toList)
    {mount : Members} {entry : Entry} (docker : DockerMount mount)
    (key : HostPathOrVolume casefold created entry)
    (corresponds : Corresponds casefold created mount entry) :
    SameKind casefold mount entry := by
  refine ⟨?_, corresponds.destination, corresponds.access⟩
  cases corresponds.identity with
  | volume isCreated shown => exact Or.inl shown
  | path other shown same => exact Or.inr ⟨_, shown, same⟩
  | volumeOfPath other shown spelled =>
      rcases key.other other with slash | itself
      · exact absurd (spelled.slash keeps slash) (docker.name _ shown)
      · rw [spelled.unique itself] at shown
        exact Or.inl shown
  | pathOfVolume isCreated shown spelled =>
      have slash := spelled.slash keeps (docker.path _ shown)
      exact absurd slash (key.name isCreated)

/-- The order of the mounts does not matter. -/
theorem OneToOne.perm {mounts others : List Members}
    (permuted : mounts.Perm others)
    (corresponding : OneToOne casefold created expected mounts) :
    OneToOne casefold created expected others := by
  rcases corresponding with ⟨paired, arranged, matched⟩
  rcases List.perm_comp_forall₂ permuted.symm matched with
    ⟨rearranged, matched, back⟩
  exact ⟨rearranged, back.trans arranged, matched⟩

/--
The acceptance of a mount set is a bijection: the accepted mounts correspond
one to one to the expected entries, no two of them satisfy one entry, none is
extra, missing or repeated, and their order does not matter.  As Docker names
volumes and paths, a volume is paired with its name and a host path with a
spelling of it.
-/
theorem requireMountSet_bijection
    (distinct : DistinctIdentities casefold created expected)
    (destinations : (expected.map Entry.destination).Nodup)
    (mounts : List Members) :
    (requireMountSet casefold created expected mounts = .ok () ↔
        OneToOne casefold created expected mounts) ∧
      (requireMountSet casefold created expected mounts = .ok () →
        mounts.length = expected.length ∧
          mounts.Pairwise fun first second =>
            ∀ entry ∈ expected,
              ¬ (Corresponds casefold created first entry ∧
                Corresponds casefold created second entry)) ∧
      (∀ others : List Members, mounts.Perm others →
        (requireMountSet casefold created expected mounts = .ok () ↔
          requireMountSet casefold created expected others = .ok ())) ∧
      ((∀ text : String, '/' ∈ text.toList → '/' ∈ (casefold text).toList) →
        (∀ mount ∈ mounts, DockerMount mount) →
        (∀ entry ∈ expected, HostPathOrVolume casefold created entry) →
        requireMountSet casefold created expected mounts = .ok () →
          ∃ paired, paired.Perm expected ∧
            List.Forall₂ (SameKind casefold) mounts paired) := by
  have exactly := requireMountSet_eq_ok_iff distinct destinations
  refine
    ⟨exactly mounts, fun passed => ?_, fun others permuted => ?_,
      fun keeps docker keys passed => ?_⟩
  · have corresponding := (exactly mounts).1 passed
    refine ⟨?_, apart_of_oneToOne destinations corresponding⟩
    rcases corresponding with ⟨paired, permuted, matched⟩
    exact matched.length_eq.trans permuted.length_eq
  · rw [exactly, exactly]
    exact ⟨OneToOne.perm permuted, OneToOne.perm permuted.symm⟩
  · rcases (exactly mounts).1 passed with ⟨paired, permuted, matched⟩
    refine ⟨paired, permuted, ?_⟩
    have listed : ∀ entry ∈ paired, entry ∈ expected := fun entry member =>
      permuted.mem_iff.1 member
    clear permuted exactly passed
    induction matched with
    | nil => exact .nil
    | cons corresponds _ induction =>
        rw [List.forall_mem_cons] at docker listed
        exact
          .cons (corresponds.sameKind keeps docker.1 (keys _ listed.1))
            (induction docker.2 listed.2)

/-- The expected entries of a database: its volume and its secret. -/
def databaseEntries : List Entry :=
  [⟨"kairos_ts-data", "/data", true⟩, ⟨"C:\\Kairos\\S", "/secret", false⟩]

/-- Its mounts, the secret under the prefix of Docker Desktop. -/
def databaseMounts : List Members :=
  [[("Type", .text "bind"), ("Source", .text "/host_mnt/c/kairos/s"),
      ("Destination", .text "/secret"), ("RW", .bool false)],
    [("Type", .text "volume"), ("Name", .text "kairos_ts-data"),
      ("Source", .text "/var/lib/docker/volumes/kairos_ts-data/_data"),
      ("Destination", .text "/data"), ("RW", .bool true)]]

/-- The volume was created by the controller. -/
def databaseCreated (name : String) : Bool :=
  name = "kairos_ts-data"

theorem requireMountSet_bijection_database :
    requireMountSet asciiLower databaseCreated databaseEntries databaseMounts =
        .ok () ∧
      OneToOne asciiLower databaseCreated databaseEntries databaseMounts ∧
        ∃ paired, paired.Perm databaseEntries ∧
          List.Forall₂ (SameKind asciiLower) databaseMounts paired := by
  have secret : Spells asciiLower "C:\\Kairos\\S" "c:/kairos/s" :=
    (mountIdentity_eq_ok_iff _ _).1 (by decide +kernel)
  have distinct :
      DistinctIdentities asciiLower databaseCreated databaseEntries := by
    refine List.pairwise_pair.2 fun identity first second => ?_
    cases first with
    | path other spelled => cases other
    | name isCreated same =>
        cases second with
        | name other _ => cases other
        | path _ spelled =>
            have clash : "kairos_ts-data" = "c:/kairos/s" :=
              same.trans (spelled.unique secret)
            exact absurd clash (by decide)
  have keeps :
      ∀ text : String, '/' ∈ text.toList → '/' ∈ (asciiLower text).toList := by
    intro text slash
    rw [asciiLower, String.toList_ofList]
    exact List.mem_map.2 ⟨'/', slash, rfl⟩
  have docker : ∀ mount ∈ databaseMounts, DockerMount mount := by
    simp only [databaseMounts, List.forall_mem_cons, List.not_mem_nil,
      false_implies, implies_true, and_true]
    refine ⟨⟨fun name shown => ?_, fun path shown => ?_⟩,
      ⟨fun name shown => ?_, fun path shown => ?_⟩⟩
    · exact absurd (Json.text.inj shown.kind) (by decide)
    · rcases shown.source with same | ⟨falsy, _⟩
      · rw [← Json.text.inj same]
        exact Or.inl (by decide)
      · exact absurd falsy (by decide)
    · rw [← Json.text.inj shown.name]
      decide
    · exact absurd rfl shown.kind
  have keys :
      ∀ entry ∈ databaseEntries,
        HostPathOrVolume asciiLower databaseCreated entry := by
    simp only [databaseEntries, List.forall_mem_cons, List.not_mem_nil,
      false_implies, implies_true, and_true]
    refine ⟨⟨fun _ => by decide, fun other => ?_⟩,
      ⟨fun isCreated => ?_, fun _ => Or.inl (Or.inr (by decide))⟩⟩
    · exact absurd other (by decide)
    · exact absurd isCreated (by decide)
  have passed :
      requireMountSet asciiLower databaseCreated databaseEntries
          databaseMounts =
        .ok () := by
    decide +kernel
  have bijection :=
    requireMountSet_bijection distinct (by decide) databaseMounts
  exact
    ⟨passed, bijection.1.1 passed,
      bijection.2.2.2 keeps docker keys passed⟩

end MountSet

end KairosDeploy.Epoch.MountSet
