import KairosDeploy.Library.PyObject

/-!
# What the two Compose validators share

`validate_compose` and `validate_paper_compose` read the same parts of a
rendered Compose model with their own names and messages.  The reading
functions and the checks that differ in nothing else stand here once.
-/

namespace KairosDeploy.Compose.SharedChecks

open KairosDeploy.Library.PyNumber
open KairosDeploy.Library.JsonValue
open KairosDeploy.Library.JsonText
open KairosDeploy.Library.PyObject

/-- Where a validator runs. -/
structure Host where
  builtins : Builtins
  /-- Whether `Path(text).resolve(strict=False)` is this repository. -/
  isRepository : String → Bool

/-! ## Services -/

/-- `services.get(name, {})`. -/
def serviceRaw (services : Members) (name : String) : Json :=
  (getMember services name).getD (.object [])

/-- `services.get(name, {}) or {}`. -/
def serviceOf (services : Members) (name : String) : Json :=
  orDict (serviceRaw services name)

/-- `service.get("environment", {}) or {}`. -/
def environmentOf (service : Json) : Option Json := do
  let environment ← getOr service "environment" (.object [])
  return orDict environment

/-- `service.get("build", {})`, then `get("args", {}) or {}`. -/
def buildArgs (build : Json) : Option Json := do
  let args ← getOr build "args" (.object [])
  return orDict args

/-- `set(service.get("networks", {}) or [])`. -/
def networksOf (service : Json) : Option (List Json) := do
  let networks ← getOr service "networks" (.object [])
  pySet (orList networks)

/-- `service.get("volumes", []) or []`. -/
def volumesOf (service : Json) : Option (List Json) := do
  let volumes ← getOr service "volumes" (.array [])
  iterate (orList volumes)

/-- `service.get("ports", []) or []`. -/
def portsOf (service : Json) : Option (List Json) := do
  let ports ← getOr service "ports" (.array [])
  iterate (orList ports)

/-- `service.get("secrets", []) or []`. -/
def secretItems (service : Json) : Option (List Json) := do
  let secrets ← getOr service "secrets" (.array [])
  iterate (orList secrets)

/-- The object of a member that is a `dict` or falsy. -/
def dictOf : Json → Option Members
  | .object members => some members
  | value => if truthy value then none else some []

section Reading

variable (builtins : Builtins)

/-- `str(item.get(key, "") if isinstance(item, dict) else item)`. -/
def itemText (key : String) : Json → String
  | .object members =>
      builtins.str ((getMember members key).getD (.text ""))
  | item => builtins.str item

/-- `_secret_sources`. -/
def secretSources (service : Json) : Option (List String) := do
  let items ← secretItems service
  return items.map (itemText builtins "source")

/-- Two lists of texts with the same elements. -/
def sameSources (left right : List String) : Bool :=
  left.all right.contains && right.all left.contains

/-- One item of `KAIROS_SECRET_BINDINGS`. -/
def bindingEntry (part : List Char) : Option (String × String) :=
  match partition '=' part with
  | (name, some path) =>
      if name.isEmpty || path.isEmpty then
        none
      else
        some (String.ofList name, String.ofList path)
  | (_, none) => none

/-- The items of `KAIROS_SECRET_BINDINGS` that are not malformed. -/
def bindingEntries (raw : String) : List (String × String) :=
  (((raw.toList.splitOn ',').map strip).filter
      fun part => !part.isEmpty).filterMap bindingEntry

/-- `_bindings`, as the items that the dictionary is built from. -/
def bindings (service : Json) : Option (List (String × String)) := do
  let environment ← environmentOf service
  let raw ← getOr environment "KAIROS_SECRET_BINDINGS" (.text "")
  return bindingEntries (builtins.str raw)

/-- `_context_map`, as the items that the dictionary is built from. -/
def contextMap (build : Json) : Option (List (String × String)) := do
  let contexts ← getOr build "additional_contexts" (.object [])
  match contexts with
  | .object members =>
      return members.map fun member => (member.1, builtins.str member.2)
  | .array items =>
      return items.filterMap fun item =>
        match partition '=' (builtins.str item).toList with
        | (name, some value) =>
            some (String.ofList name, String.ofList value)
        | (_, none) => none
  | _ => return []

/-- `_is_true`. -/
def isTrue (value : Json) : Bool :=
  ["1", "true", "yes", "on"].contains
    (builtins.lower
      (String.ofList (strip (builtins.str value).toList)))

end Reading

/-! ## Checks of every service -/

/-- `FORBIDDEN_SERVICE_OPTIONS`, sorted. -/
def forbiddenServiceOptions : List String :=
  ["cap_add", "cgroup", "cgroup_parent", "configs", "credential_spec",
    "device_cgroup_rules", "devices", "entrypoint", "external_links", "ipc",
    "links", "network_mode", "pid", "runtime", "user", "uts",
    "volumes_from"]

/-- `value in (None, "", [], {})`. -/
def isUnset : Json → Bool
  | .null => true
  | .text value => value = ""
  | .array items => items.isEmpty
  | .object members => members.isEmpty
  | _ => false

/-- The users of infrastructure services. -/
def infrastructureUsers : List (String × String) :=
  [("redis", "redis:redis"), ("timescaledb", "postgres:postgres")]

/-- The loop over the forbidden options. -/
def checkOptions (name : String) (service : Json) : Findings :=
  findings
    (forbiddenServiceOptions.map fun option =>
      if option = "user" ∧ (infrastructureUsers.lookup name).isSome then
        some []
      else
        finding ((getKey service option).map fun value => !isUnset value)
          (name ++ ": unsafe Compose option " ++ option ++
            " is forbidden"))

/-- The loop over the volumes that looks for the Docker socket. -/
def checkDockerSocket (builtins : Builtins) (message : String)
    (name : String) (service : Json) : Findings := do
  let volumes ← volumesOf service
  findings
    (volumes.map fun volume =>
      finding
        (some (hasPart "docker.sock" (itemText builtins "source" volume)))
        (name ++ message))

/-- The keys of the environment. -/
def checkEnvironmentKeys (message : String)
    (expected : Option (List String)) (name : String) (service : Json) :
    Findings := do
  let environment ← environmentOf service
  let keys ← pySet environment
  match expected with
  | none => some []
  | some expected =>
      finding (some (!sameTexts keys expected)) (name ++ message)

/-- The networks of a service. -/
def checkNetworks (message : String)
    (serviceNetworks : List (String × List String)) (name : String)
    (service : Json) : Findings := do
  let networks ← networksOf service
  finding
    (some (!sameTexts networks ((serviceNetworks.lookup name).getD [])))
    (name ++ message)

/-- The pinned users of infrastructure services. -/
def checkUsers (services : Members) : Findings :=
  findings
    (infrastructureUsers.map fun entry =>
      finding
        ((getKey (serviceOf services entry.1) "user").map fun user =>
          !isText entry.2 user)
        (entry.1 ++ ": must run as the pinned non-root image user"))

/-! ## Checks of source services -/

/-- The dependencies of a source service. -/
def checkDependencies (name : String) (service : Json) : Findings := do
  let dependencies ← getKey service "depends_on"
  findings
    (["redis", "timescaledb"].map fun dependency =>
      finding
        ((getOr (orDict dependencies) dependency (.object [])).map
          fun requirement =>
            match requirement with
            | .object members =>
                !isText "service_healthy"
                  ((getMember members "condition").getD .null)
            | _ => true)
        (name ++ ": must wait for healthy " ++ dependency))

/-- The security options of a source service. -/
def checkHardening (rootMessage capabilityMessage : String)
    (name : String) (service : Json) : Findings :=
  findings
    [finding
        ((getKey service "read_only").map fun value =>
          match value with
          | .bool true => false
          | _ => true)
        (name ++ rootMessage),
      finding
        ((getKey service "cap_drop").map fun value =>
          !value.pyEq (.array [.text "ALL"]))
        (name ++ capabilityMessage),
      finding
        ((getKey service "security_opt").map fun value =>
          !value.pyEq (.array [.text "no-new-privileges:true"]))
        (name ++ ": no-new-privileges must be enabled"),
      finding
        ((getKey service "init").map fun value =>
          match value with
          | .bool true => false
          | _ => true)
        (name ++ ": the reviewed init wrapper must remain enabled")]

/-! ## Secrets, volumes, ports and networks -/

/-- `value in (None, own)`. -/
def ownName (own : String) : Json → Bool
  | .null => true
  | .text value => value = own
  | _ => false

/-- The top-level secrets: the names, and the files that they resolve to. -/
def checkSecretFiles (builtins : Builtins) (project setMessage aliasMessage
      distinctMessage : String)
    (files : List (String × String)) (config : Members) :
    Option (List String × List String) := do
  let definitions := orDict ((getMember config "secrets").getD (.object []))
  let names ← pySet definitions
  let found ←
    finding (some (!sameTexts names (files.map Prod.fst))) setMessage
  let each ← files.mapM fun file => do
    let definition ← getOr definitions file.1 (.object [])
    let name ← getKey (orDict definition) "name"
    let path ← getOr (orDict definition) "file" (.text "")
    let resolved := slashes (builtins.str path)
    let aliased ←
      finding (some (!ownName (project ++ "_" ++ file.1) name))
        (file.1 ++ aliasMessage)
    let misplaced ←
      finding (some (!endsWith resolved ("/" ++ file.2)))
        (file.1 ++ ": secret file must end with /" ++ file.2)
    return (aliased ++ misplaced,
      if resolved = "" then [] else [builtins.casefold resolved])
  let paths := each.flatMap Prod.snd
  let repeated ←
    finding (some (!decide paths.Nodup)) distinctMessage
  return (found ++ each.flatMap Prod.fst ++ repeated, paths)

theorem mapM_eq_some_map
    {α β : Type} {read : α → Option β} {value : α → β} {items : List α}
    (each : ∀ item ∈ items, read item = some (value item)) :
    items.mapM read = some (items.map value) := by
  induction items with
  | nil => rfl
  | cons head rest induction =>
      rw [List.forall_mem_cons] at each
      rw [List.mapM_cons, each.1, induction each.2]
      rfl

/-- The definition of a secret by its file. -/
def secretFile (path : String) : Json :=
  .object [("file", .text path)]

/-- Secrets that are defined by files of their own pass. -/
theorem checkSecretFiles_of_files
    {project setMessage aliasMessage distinctMessage : String}
    {files : List (String × String)} {config : Members}
    (builtins : Builtins) (path : String × String → String)
    (defined : orDict ((getMember config "secrets").getD (.object [])) =
      .object (files.map fun file => (file.1, secretFile (path file))))
    (names : (files.map Prod.fst).Nodup)
    (located : ∀ file ∈ files,
      endsWith (slashes (path file)) ("/" ++ file.2) = true)
    (distinct :
      (files.map fun file =>
        builtins.casefold (slashes (path file))).Nodup) :
    checkSecretFiles builtins project setMessage aliasMessage
        distinctMessage files config =
      some
        ([],
          files.map fun file =>
            builtins.casefold (slashes (path file))) := by
  have keys :
      ((files.map fun file => (file.1, secretFile (path file))).map
        Prod.fst).Nodup := by
    rw [List.map_map]
    exact names
  have same :
      sameTexts (files.map fun file => .text file.1) (files.map Prod.fst) =
        true := by
    rw [sameTexts_iff]
    intro item
    simp only [List.mem_map, exists_exists_and_eq_and]
    exact exists_congr fun file => and_congr_right fun _ => eq_comm
  have nonempty : ∀ file ∈ files, slashes (path file) ≠ "" := by
    intro file listed empty
    have ends := located file listed
    rw [empty] at ends
    simp [endsWith] at ends
  have found : ∀ file ∈ files,
      getOr (.object (files.map fun file => (file.1, secretFile (path file))))
          file.1 (.object []) =
        some (secretFile (path file)) := by
    intro file listed
    have member :
        getMember (files.map fun file => (file.1, secretFile (path file)))
            file.1 =
          some (secretFile (path file)) :=
      lookup_of_mem keys (List.mem_map.2 ⟨file, listed, rfl⟩)
    rw [getOr, member, Option.getD_some]
  have kept (text : String) :
      orDict (secretFile text) = secretFile text := rfl
  have unnamed (text : String) :
      getKey (secretFile text) "name" = some .null := rfl
  have filed (text : String) :
      getOr (secretFile text) "file" (.text "") = some (.text text) := rfl
  have listing :
      pySet
          (.object (files.map fun file => (file.1, secretFile (path file)))) =
        some (files.map fun file => .text file.1) := by
    simp [pySet, iterate, hashable, Function.comp_def]
  unfold checkSecretFiles
  dsimp only
  rw [defined, mapM_eq_some_map fun file listed => ?each]
  case each =>
    simp only [found file listed, kept, unnamed, filed, Builtins.str, ownName,
      located file listed, nonempty file listed, if_false, finding,
      Bool.not_true, Bool.false_eq_true, Option.map_some,
      Option.bind_eq_bind, Option.bind_some, List.append_nil]
    rfl
  simp [listing, finding, same, distinct, List.flatMap_map,
    ← List.map_eq_flatMap]
/-- The secrets of the infrastructure services. -/
def checkInfrastructureSecrets (builtins : Builtins) (message : String)
    (expected : List (String × List String)) (services : Members) :
    Findings :=
  findings
    (expected.map fun entry =>
      finding
        ((secretSources builtins (serviceOf services entry.1)).map
          fun sources => !sameSources sources entry.2)
        (entry.1 ++ message))

/-- A mount of the allow-list. -/
structure Mount where
  target : String
  kind : String
  source : String
  readOnly : Bool
deriving DecidableEq

/-- `actual_by_target`, as the entries that the dictionary is built from. -/
def byTarget (builtins : Builtins) (volumes : List Json) :
    List (String × Members) :=
  volumes.filterMap fun volume =>
    match volume with
    | .object members =>
        some
          (builtins.str ((getMember members "target").getD (.text "")),
            members)
    | _ => none

/-- Whether a volume has the kind, the source and the flag of the mount. -/
def mountMatches (builtins : Builtins) (mount : Mount)
    (volume : Members) : Bool :=
  let source :=
    slashes (builtins.str ((getMember volume "source").getD (.text "")))
  let sourceMatches :=
    if mount.kind = "volume" then source = mount.source
    else endsWith source mount.source
  isText mount.kind ((getMember volume "type").getD .null) &&
    sourceMatches &&
    truthy ((getMember volume "read_only").getD (.bool false)) =
      mount.readOnly

/-- The volumes of one infrastructure service. -/
def checkMounts (builtins : Builtins) (listName : String)
    (services : Members) (name : String) (expected : List Mount) :
    Findings := do
  let volumes ← volumesOf (serviceOf services name)
  let actual := byTarget builtins volumes
  if sameSources (actual.map Prod.fst) (expected.map Mount.target) then
    findings
      (expected.map fun mount =>
        finding
          ((lastOf actual mount.target).map fun volume =>
            !mountMatches builtins mount volume)
          (name ++ ": volume " ++ mount.target ++ " differs from the " ++
            listName))
  else
    some [name ++ ": volume targets must match the exact " ++ listName]

/-- The top-level volumes. -/
def checkNamedVolumes (project message : String)
    (names : List String) (config : Members) : Findings := do
  let volumes := orDict ((getMember config "volumes").getD (.object []))
  let actual ← pySet volumes
  findings
    (finding (some (!sameTexts actual names)) message ::
      names.map fun name =>
        finding
          (do
            let definition ← getOr volumes name (.object [])
            let resolved ← getKey (orDict definition) "name"
            return !ownName (project ++ "_" ++ name) resolved)
          (name ++ ": resolved volume aliases another Compose project"))

/-- The published ports of one observability service. -/
def checkLoopback (builtins : Builtins) (message : String)
    (name : String) (service : Json) : Findings := do
  let ports ← portsOf service
  findings
    (ports.map fun port =>
      finding
        (some (!hasPart "127.0.0.1" (itemText builtins "host_ip" port)))
        (name ++ message))

/-- `IMAGE_PATTERN.fullmatch`. -/
def isPinnedImage (image : String) : Bool :=
  match partition '@' image.toList with
  | (tag, some digest) =>
      !tag.isEmpty && !tag.any isSpace &&
        "sha256:".toList.isPrefixOf digest && digest.length = 71 &&
        (digest.drop 7).all fun character =>
          character.isDigit || 'a' ≤ character && character ≤ 'f'
  | (_, none) => false

end KairosDeploy.Compose.SharedChecks
