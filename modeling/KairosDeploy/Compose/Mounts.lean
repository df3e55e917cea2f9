import KairosDeploy.Compose.LaxModel

/-!
# The mounts of accepted models

The validators build a dictionary of the volumes of an infrastructure service,
keyed by their targets, and compare it with the allow-list.  Elements in the
short syntax are not in it, of several elements with one target it keeps the
last, and a bind source is compared by its end only.  Of the top-level volumes
they compare the keys and the names that are given, but read neither
`external` nor the driver and its options.
-/

namespace KairosDeploy.Compose.Mounts

open KairosDeploy.Library.JsonValue
open KairosDeploy.Library.PyObject
open KairosDeploy.Compose.SharedChecks
open KairosDeploy.Compose.Accepted

/-! ## What an element of a volumes list mounts -/

/-- A volume in the short syntax `SOURCE:TARGET[:MODE]`. -/
def shortMount (text : String) : Option Mount :=
  let kind := fun (source : List Char) =>
    if source.head?.any fun first =>
        first = '/' || first = '.' || first = '~' then
      "bind"
    else
      "volume"
  match text.toList.splitOn ':' with
  | [source, target] =>
      some
        ⟨String.ofList target, kind source, String.ofList source, false⟩
  | [source, target, mode] =>
      some
        ⟨String.ofList target, kind source, String.ofList source,
          (mode.splitOn ',').contains "ro".toList⟩
  | _ => none

/-- A volume in mapping syntax. -/
def dictMount (builtins : Builtins) (members : Members) : Option Mount :=
  match getMember members "type" with
  | some (.text kind) =>
      some
        ⟨builtins.str ((getMember members "target").getD (.text "")), kind,
          slashes
            (builtins.str ((getMember members "source").getD (.text ""))),
          truthy ((getMember members "read_only").getD (.bool false))⟩
  | _ => none

/-- What Compose mounts for an element in either syntax. -/
def asMount (builtins : Builtins) : Json → Option Mount
  | .object members => dictMount builtins members
  | .text text => shortMount text
  | _ => none

/-- A mount of the allow-list with the repository at `root`: bind sources are
listed relative to it. -/
def resolved (root : String) (mount : Mount) : Mount :=
  if mount.kind = "volume" then mount
  else { mount with source := root ++ mount.source }

section Service

variable (builtins : Builtins) (root : String) (expected : List Mount)
variable (volumes : List Json)

/-- The element is a mount of the allow-list. -/
def Listed (volume : Json) : Prop :=
  ∃ mount ∈ expected, asMount builtins volume = some (resolved root mount)

/-- The elements are the allow-listed mounts. -/
structure ExactMounts : Prop where
  listed : ∀ volume ∈ volumes, Listed builtins root expected volume
  present :
    ∀ mount ∈ expected,
      ∃ volume ∈ volumes,
        asMount builtins volume = some (resolved root mount)

/-- The dictionary keyed by targets keeps the element. -/
def Kept (volume : Json) : Prop :=
  ∃ members,
    volume = .object members ∧
      lastOf (byTarget builtins volumes)
          (builtins.str ((getMember members "target").getD (.text ""))) =
        some members

/-- The elements that the dictionary does not keep are allow-listed, and the
bind sources that it keeps are those of the repository. -/
structure NothingElse : Prop where
  dropped :
    ∀ volume ∈ volumes, ¬ Kept builtins volumes volume →
      Listed builtins root expected volume
  bound :
    ∀ mount ∈ expected, mount.kind ≠ "volume" →
      ∀ members,
        lastOf (byTarget builtins volumes) mount.target = some members →
          slashes
              (builtins.str
                ((getMember members "source").getD (.text ""))) =
            root ++ mount.source

end Service

/-! ## What a named volume is -/

/-- Where the data of a named volume lies. -/
inductive Place where
  /-- In the volume of this name, which Docker keeps. -/
  | volume (name : String)
  /-- On the device, or in the directory of the host, of the driver options. -/
  | device (path : String)
  /-- Where another driver than `local` puts it. -/
  | driver (name : String)
deriving DecidableEq

/-- The definition of a top-level volume. -/
def definitionOf (config : Members) (key : String) : Members :=
  let volumes := orDict ((getMember config "volumes").getD (.object []))
  let definition := (getOr volumes key (.object [])).getD (.object [])
  (dictOf (orDict definition)).getD []

section NamedVolume

variable (project key : String) (definition : Members)

/-- The text that a definition gives, unless it is empty. -/
def givenText (field : String) : Option String :=
  match getMember definition field with
  | some (.text text) => if text = "" then none else some text
  | _ => none

/-- The driver, `local` by default. -/
def driverOf : String :=
  (givenText definition "driver").getD "local"

/-- The device of the driver options. -/
def deviceOf : Option String := do
  let options ← (getMember definition "driver_opts").bind dictOf
  givenText options "device"

/-- Compose does not create the volume. -/
def isExternal : Bool :=
  truthy ((getMember definition "external").getD .null)

/-- The name in the older syntax, a mapping under `external`. -/
def externalName : Option String := do
  let external ← (getMember definition "external").bind dictOf
  givenText external "name"

/-- The name of the volume.  Without one in the definition, Compose puts the
project before the key, unless the volume is external. -/
def volumeName : String :=
  match givenText definition "name" with
  | some name => name
  | none =>
      if isExternal definition then (externalName definition).getD key
      else project ++ "_" ++ key

/-- Where Docker keeps the data of the volume. -/
def placeOf : Place :=
  if driverOf definition = "local" then
    ((deviceOf definition).map Place.device).getD
      (.volume (volumeName project key definition))
  else
    .driver (driverOf definition)

/-- The definition asks for no other driver, device or volume. -/
structure PlainVolume : Prop where
  driver : driverOf definition = "local"
  device : deviceOf definition = none
  name :
    givenText definition "name" = none → isExternal definition = true →
      externalName definition = some (project ++ "_" ++ key)

end NamedVolume

/-- A directory of the host under the key of the Redis volume. -/
example :
    placeOf "kairos" "redis-data"
        [("driver_opts",
          .object [("type", .text "none"), ("o", .text "bind"),
            ("device", .text "/etc")])] =
      .device "/etc" := by
  decide

theorem key_ne_prefixed (project key : String) :
    key ≠ project ++ "_" ++ key := by
  intro same
  have lengths := congrArg String.length same
  rw [String.length_append, String.length_append] at lengths
  have mark : ("_" : String).length = 1 := rfl
  omega

/-- A volume whose name passes is that of the project if and only if its
definition is plain. -/
theorem placeOf_eq_own_iff
    {project key : String} {definition : Members}
    (own :
      ownName (project ++ "_" ++ key)
          ((getMember definition "name").getD .null) =
        true) :
    placeOf project key definition = .volume (project ++ "_" ++ key) ↔
      PlainVolume project key definition := by
  have given :
      ∀ name, givenText definition "name" = some name →
        name = project ++ "_" ++ key := by
    intro name found
    unfold givenText at found
    split at found
    · rename_i text stored
      rw [stored] at own
      split at found
      · cases found
      · rw [← Option.some.inj found]
        exact of_decide_eq_true own
    · cases found
  have named :
      volumeName project key definition = project ++ "_" ++ key ↔
        (givenText definition "name" = none → isExternal definition = true →
          externalName definition = some (project ++ "_" ++ key)) := by
    unfold volumeName
    cases found : givenText definition "name" with
    | some name =>
        simp only [given name found, reduceCtorEq, false_implies]
    | none =>
        by_cases external : isExternal definition = true
        · simp only [external, if_true, true_implies]
          cases older : externalName definition with
          | none =>
              simp only [Option.getD_none, reduceCtorEq, iff_false]
              exact key_ne_prefixed project key
          | some name => rw [Option.getD_some, Option.some.injEq]
        · simp only [external, if_false, Bool.false_eq_true, false_implies,
            implies_true]
  unfold placeOf
  constructor
  · intro place
    split at place
    · rename_i driver
      cases device : deviceOf definition with
      | none =>
          rw [device] at place
          exact ⟨driver, device, named.1 (Place.volume.inj place)⟩
      | some path =>
          rw [device] at place
          cases place
    · cases place
  · intro plain
    rw [if_pos plain.driver, plain.device, named.2 plain.name]
    rfl

/-- The name of a volume of an accepted model passes. -/
theorem ownName_of_check
    {project message : String} {names : List String} {config : Members}
    (clean :
      checkNamedVolumes project message names config = some []) :
    ∀ key ∈ names,
      ownName (project ++ "_" ++ key)
          ((getMember (definitionOf config key) "name").getD .null) =
        true := by
  intro key listed
  rcases Option.bind_eq_some_iff.1 clean with ⟨actual, _, clean⟩
  have each := (findings_eq_nil_iff _).1 clean
  simp only [List.forall_mem_cons, List.forall_mem_map, finding_eq_nil_iff]
    at each
  rcases Option.bind_eq_some_iff.1 (each.2 key listed) with
    ⟨definition, found, resolve⟩
  rcases Option.bind_eq_some_iff.1 resolve with ⟨name, read, passed⟩
  have own : ownName (project ++ "_" ++ key) name = true := by
    simpa using passed
  rcases isObject_of_getOr read with ⟨entries, object⟩
  rw [object] at read
  have same : definitionOf config key = entries := by
    unfold definitionOf
    dsimp only
    rw [found, Option.getD_some, object]
    rfl
  rw [same, Option.some.inj read]
  exact own

/-! ## Accepted services -/

/-- What is accepted of the volumes of an infrastructure service. -/
structure AcceptedMounts (builtins : Builtins) (expected : List Mount)
    (volumes : List Json) : Prop where
  targets :
    ∀ target,
      target ∈ (byTarget builtins volumes).map Prod.fst ↔
        target ∈ expected.map Mount.target
  matched :
    ∀ mount ∈ expected,
      ∃ members,
        lastOf (byTarget builtins volumes) mount.target = some members ∧
          mountMatches builtins mount members = true

section Accepted

variable {builtins : Builtins} {root : String} {expected : List Mount}
variable {volumes : List Json}

theorem mem_byTarget_iff (entry : String × Members) :
    entry ∈ byTarget builtins volumes ↔
      .object entry.2 ∈ volumes ∧
        entry.1 =
          builtins.str ((getMember entry.2 "target").getD (.text "")) := by
  unfold byTarget
  rw [List.mem_filterMap]
  constructor
  · rintro ⟨volume, listed, found⟩
    cases volume with
    | object members =>
        cases found
        exact ⟨listed, rfl⟩
    | _ => cases found
  · rintro ⟨listed, target⟩
    refine ⟨.object entry.2, listed, ?_⟩
    show some (_, entry.2) = some entry
    rw [← target]

/-- A volume that matches a mount is that mount, up to the source of a bind. -/
theorem asMount_of_matches
    {mount : Mount} {members : Members}
    (target :
      mount.target =
        builtins.str ((getMember members "target").getD (.text "")))
    (matched : mountMatches builtins mount members = true)
    (source :
      mount.kind ≠ "volume" →
        slashes
            (builtins.str ((getMember members "source").getD (.text ""))) =
          root ++ mount.source) :
    asMount builtins (.object members) = some (resolved root mount) := by
  simp only [mountMatches, Bool.and_eq_true, isText_iff] at matched
  obtain ⟨⟨kind, sourceMatches⟩, readOnly⟩ := matched
  have readOnlyEq := of_decide_eq_true readOnly
  have stored : getMember members "type" = some (.text mount.kind) := by
    cases found : getMember members "type" with
    | none =>
        rw [found] at kind
        cases kind
    | some value =>
        rw [found, Option.getD_some] at kind
        rw [kind]
  show dictMount builtins members = _
  unfold dictMount
  rw [stored]
  show some (Mount.mk _ mount.kind _ _) = _
  rw [← target, readOnlyEq]
  unfold resolved
  by_cases volume : mount.kind = "volume"
  · have same := of_decide_eq_true sourceMatches
    rw [if_pos volume] at same ⊢
    rw [same]
  · rw [if_neg volume, source volume]

/-- The mounts of an accepted service are exact only if nothing else is
there. -/
theorem nothingElse_of_exactMounts
    (distinct : (expected.map Mount.target).Nodup)
    (exact : ExactMounts builtins root expected volumes) :
    NothingElse builtins root expected volumes := by
  refine ⟨fun volume member _ => exact.listed volume member, ?_⟩
  intro mount listed bind members last
  have inside := (mem_byTarget_iff _).1 (mem_of_lastOf last)
  rcases exact.listed _ inside.1 with ⟨other, otherListed, mounted⟩
  change dictMount builtins members = _ at mounted
  unfold dictMount at mounted
  split at mounted
  · have fields := Option.some.inj mounted
    have targets : other.target = mount.target := by
      have same := congrArg Mount.target fields
      rw [← inside.2] at same
      unfold resolved at same
      split at same <;> exact same.symm
    have sameMount : other = mount :=
      List.inj_on_of_nodup_map distinct otherListed listed targets
    rw [sameMount] at fields
    have sources := congrArg Mount.source fields
    unfold resolved at sources
    rw [if_neg bind] at sources
    exact sources
  · cases mounted

variable (accepted : AcceptedMounts builtins expected volumes)

include accepted

/-- The mounts of an accepted service are exact if nothing else is there. -/
theorem exactMounts_of_nothingElse
    (nothing : NothingElse builtins root expected volumes) :
    ExactMounts builtins root expected volumes := by
  have keptMount :
      ∀ mount ∈ expected,
        ∃ members,
          lastOf (byTarget builtins volumes) mount.target =
              some members ∧
            .object members ∈ volumes ∧
              asMount builtins (.object members) =
                some (resolved root mount) := by
    intro mount listed
    rcases accepted.matched mount listed with ⟨members, last, matched⟩
    have inside := (mem_byTarget_iff _).1 (mem_of_lastOf last)
    exact
      ⟨members, last, inside.1,
        asMount_of_matches inside.2 matched fun bind =>
          nothing.bound mount listed bind members last⟩
  constructor
  · intro volume member
    by_cases kept : Kept builtins volumes volume
    · rcases kept with ⟨members, rfl, last⟩
      have target :=
        (accepted.targets _).1
          (List.mem_map_of_mem (mem_of_lastOf last))
      rcases List.mem_map.1 target with ⟨mount, listed, same⟩
      rcases keptMount mount listed with ⟨others, found, _, mounted⟩
      rw [same, last] at found
      cases found
      exact ⟨mount, listed, mounted⟩
    · exact nothing.dropped volume member kept
  · intro mount listed
    rcases keptMount mount listed with ⟨members, _, member, mounted⟩
    exact ⟨.object members, member, mounted⟩

end Accepted

/-! ## Accepted models -/

theorem acceptedMounts_of_check
    {builtins : Builtins} {listName name : String} {services : Members}
    {expected : List Mount}
    (clean :
      checkMounts builtins listName services name expected = some []) :
    ∃ volumes,
      volumesOf (serviceOf services name) = some volumes ∧
        AcceptedMounts builtins expected volumes := by
  rcases Option.bind_eq_some_iff.1 clean with ⟨volumes, read, clean⟩
  refine ⟨volumes, read, ?_⟩
  dsimp only at clean
  split at clean
  · rename_i same
    rw [findings_map_eq_nil_iff] at clean
    refine ⟨(sameSources_iff _ _).1 same, fun mount listed => ?_⟩
    have passed := clean mount listed
    rw [finding_eq_nil_iff, Option.map_eq_some_iff] at passed
    rcases passed with ⟨members, last, matched⟩
    exact ⟨members, last, by simpa using matched⟩
  · cases clean

/-- The targets of the allow-list of a service differ. -/
theorem targets_nodup
    (validator : Validator) {entry : String × List Mount}
    (listed : entry ∈ validator.mounts) :
    (entry.2.map Mount.target).Nodup := by
  cases validator with
  | base setting =>
      have each :
          ∀ entry ∈ BaseCompose.expectedMounts,
            (entry.2.map Mount.target).Nodup := by
        decide
      exact each entry listed
  | paper host =>
      have each :
          ∀ entry ∈ PaperCompose.expectedMounts,
            (entry.2.map Mount.target).Nodup := by
        decide
      exact each entry listed

/-- Every service is built from source or has an allow-list of mounts. -/
theorem source_or_mounts
    (validator : Validator) {name : String}
    (expected : name ∈ validator.expectedServices) :
    name ∈ validator.sourceServices ∨
      name ∈ validator.mounts.map Prod.fst := by
  cases validator with
  | base setting =>
      have each :
          ∀ name ∈ BaseCompose.expectedServices,
            name ∈ BaseCompose.sourceServices ∨
              name ∈ BaseCompose.expectedMounts.map Prod.fst := by
        decide
      exact each name expected
  | paper host =>
      have each :
          ∀ name ∈ PaperCompose.paperExpectedServices,
            name ∈ PaperCompose.paperSourceServices ∨
              name ∈ PaperCompose.expectedMounts.map Prod.fst := by
        decide
      exact each name expected

/-- The mounts of all services are as listed, source services have none, and
the named volumes are those of the project. -/
structure MountsExact (validator : Validator) (root : String)
    (config services : Members) : Prop where
  infrastructure :
    ∀ entry ∈ validator.mounts,
      ∃ volumes,
        volumesOf (serviceOf services entry.1) = some volumes ∧
          ExactMounts validator.builtins root entry.2 volumes
  sources :
    ∀ name ∈ services.map Prod.fst,
      name ∉ validator.mounts.map Prod.fst →
        volumesOf (serviceOf services name) = some []
  places :
    ∀ entry ∈ validator.mounts, ∀ mount ∈ entry.2, mount.kind = "volume" →
      placeOf validator.project mount.source
          (definitionOf config mount.source) =
        .volume (validator.project ++ "_" ++ mount.source)

/-- Nothing but the allow-list is in the volumes of the infrastructure
services, and the named volumes are plain. -/
structure NoOtherVolume (validator : Validator) (root : String)
    (config services : Members) : Prop where
  elements :
    ∀ entry ∈ validator.mounts,
      ∃ volumes,
        volumesOf (serviceOf services entry.1) = some volumes ∧
          NothingElse validator.builtins root entry.2 volumes
  definitions :
    ∀ key ∈ validator.namedVolumes,
      PlainVolume validator.project key (definitionOf config key)

/-- The sources of the mounts of named volumes. -/
def volumeSources (mounts : List (String × List Mount)) : List String :=
  ((mounts.flatMap Prod.snd).filter fun mount =>
    mount.kind = "volume").map Mount.source

theorem mem_volumeSources_iff
    (mounts : List (String × List Mount)) (key : String) :
    key ∈ volumeSources mounts ↔
      ∃ entry ∈ mounts,
        ∃ mount ∈ entry.2, mount.kind = "volume" ∧ mount.source = key := by
  simp only [volumeSources, List.mem_map, List.mem_filter, List.mem_flatMap,
    decide_eq_true_eq]
  constructor
  · rintro ⟨mount, ⟨⟨entry, listed, inside⟩, kind⟩, source⟩
    exact ⟨entry, listed, mount, inside, kind, source⟩
  · rintro ⟨entry, listed, mount, inside, kind, source⟩
    exact ⟨mount, ⟨⟨entry, listed, inside⟩, kind⟩, source⟩

/-- The top-level volumes are the named volumes of the mounts. -/
theorem namedVolumes_eq (validator : Validator) :
    validator.namedVolumes = volumeSources validator.mounts := by
  cases validator with
  | base setting =>
      show BaseCompose.expectedNamedVolumes =
        volumeSources BaseCompose.expectedMounts
      decide
  | paper host =>
      show PaperCompose.expectedNamedVolumes =
        volumeSources PaperCompose.expectedMounts
      decide

/--
The mounts of an accepted model are exactly the allow-listed ones if and only
if every element in the short syntax, and every one that a later element with
its target replaces, is itself allow-listed, the bind sources are those of the
repository, and the top-level volumes ask for no other driver, device or
volume.
-/
theorem validated_mounts_iff
    (validator : Validator) (config lock : Members)
    (accepted : validator.validate config lock = some []) :
    ∃ services,
      servicesOf config = some services ∧
        ∀ root,
          MountsExact validator root config services ↔
            NoOtherVolume validator root config services := by
  rcases accepted_model accepted with ⟨services, networks, model⟩
  refine ⟨services, model.services_eq, fun root => ?_⟩
  have mounted :
      ∀ entry ∈ validator.mounts,
        ∃ volumes,
          volumesOf (serviceOf services entry.1) = some volumes ∧
            AcceptedMounts validator.builtins entry.2 volumes := by
    intro entry listed
    rcases model.mounted entry listed with ⟨listName, clean⟩
    exact acceptedMounts_of_check clean
  have placed :
      ∀ key ∈ validator.namedVolumes,
        placeOf validator.project key (definitionOf config key) =
            .volume (validator.project ++ "_" ++ key) ↔
          PlainVolume validator.project key (definitionOf config key) := by
    intro key listed
    rcases model.volumes with ⟨message, clean⟩
    exact placeOf_eq_own_iff (ownName_of_check clean key listed)
  constructor
  · intro exact
    constructor
    · intro entry listed
      rcases mounted entry listed with ⟨volumes, read, accepted⟩
      rcases exact.infrastructure entry listed with ⟨others, found, holds⟩
      rw [read] at found
      cases found
      exact
        ⟨volumes, read,
          nothingElse_of_exactMounts (targets_nodup validator listed) holds⟩
    · intro key listed
      have named := listed
      rw [namedVolumes_eq, mem_volumeSources_iff] at named
      rcases named with ⟨entry, present, mount, inside, kind, source⟩
      have place := exact.places entry present mount inside kind
      rw [source] at place
      exact (placed key listed).1 place
  · intro nothing
    constructor
    · intro entry listed
      rcases mounted entry listed with ⟨volumes, read, accepted⟩
      rcases nothing.elements entry listed with ⟨others, found, holds⟩
      rw [read] at found
      cases found
      exact ⟨volumes, read, exactMounts_of_nothingElse accepted holds⟩
    · intro name present other
      have expected := ((sameSources_iff _ _).1 model.names name).1 present
      have source := (source_or_mounts validator expected).resolve_right other
      rcases (model.sources name source).noVolumes with
        ⟨volumes, read, falsy⟩
      exact iterate_of_falsy read falsy
    · intro entry listed mount inside kind
      have named : mount.source ∈ validator.namedVolumes := by
        rw [namedVolumes_eq, mem_volumeSources_iff]
        exact ⟨entry, listed, mount, inside, kind, rfl⟩
      exact (placed _ named).2 (nothing.definitions _ named)

theorem validated_mounts_iff_lax :
    ∃ services,
      servicesOf LaxModel.laxConfig = some services ∧
        ∀ root,
          MountsExact (.base LaxModel.plainSetting) root LaxModel.laxConfig
              services ↔
            NoOtherVolume (.base LaxModel.plainSetting) root
              LaxModel.laxConfig services :=
  validated_mounts_iff (.base LaxModel.plainSetting) LaxModel.laxConfig
    LaxModel.plainLock LaxModel.validateCompose_lax

/-- The validator accepts a model in which Redis mounts a directory of the
host. -/
theorem mounts_hostDirectory :
    (Validator.base LaxModel.plainSetting).validate LaxModel.laxConfig
        LaxModel.plainLock =
      some [] ∧
      ∀ root,
        ¬ MountsExact (.base LaxModel.plainSetting) root LaxModel.laxConfig
          LaxModel.laxServices := by
  refine ⟨LaxModel.validateCompose_lax, fun root exact => ?_⟩
  rcases exact.infrastructure
      ("redis", [⟨"/data", "volume", "redis-data", false⟩])
      List.mem_cons_self with
    ⟨volumes, read, holds⟩
  have stored :
      volumesOf (serviceOf LaxModel.laxServices "redis") =
        some (LaxModel.mountsOf "redis" ++ [LaxModel.hostDirectory]) :=
    rfl
  rw [stored] at read
  cases read
  rcases holds.listed LaxModel.hostDirectory (by simp) with
    ⟨mount, listed, mounted⟩
  have parsed :
      asMount LaxModel.plainBuiltins LaxModel.hostDirectory =
        some ⟨"/host", "bind", "/etc", false⟩ := by
    decide
  rw [List.mem_singleton] at listed
  have others := Option.some.inj (parsed.symm.trans mounted)
  rw [listed] at others
  have kinds := congrArg Mount.kind others
  revert kinds
  show ¬ ("bind" : String) = "volume"
  decide

end KairosDeploy.Compose.Mounts
