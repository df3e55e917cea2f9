import KairosDeploy.Compose.LaxModel

/-!
# The wiring of credentials

A binding of a source service names a file, and a secret item of the service
mounts a secret at a file.  The validators compare the bindings and the
sources of the secrets with their allow-lists.  They do not read the target of
a secret item, and of the items of `KAIROS_SECRET_BINDINGS` with one name only
the last; this module says what these two leave open.
-/

namespace KairosDeploy.Compose.Credentials

open KairosDeploy.Library.JsonValue
open KairosDeploy.Library.PyObject
open KairosDeploy.Compose.SharedChecks
open KairosDeploy.Compose.Accepted

/-! ## The intended wiring -/

/-- Where Compose mounts a secret that names no target. -/
def secretPath (source : String) : String :=
  "/run/secrets/" ++ source

/-- The names of the bindings with their secrets. -/
def bindingWiring : Validator → String → List (String × String)
  | .base _, name =>
      [("KAIROS_REDIS_URL", "redis_url"),
        ("KAIROS_PERSISTENCE_DATABASE_URL", "persistence_database_url")] ++
        (BaseCompose.providersOf name).map fun provider =>
          (provider.1, provider.2.1)
  | .paper _, _ =>
      [("KAIROS_REDIS_URL", "paper_redis_url"),
        ("KAIROS_PERSISTENCE_DATABASE_URL",
          "paper_persistence_database_url")]

/-- The `*_FILE` variables of the PAPER execution engine with their
secrets. -/
def fileWiring : Validator → String → List (String × String)
  | .base _, _ => []
  | .paper _, name =>
      if name = "execution-engine" then
        [("KAIROS_EVEDEX_DEV_API_KEY_FILE", "evedex_dev_api_key"),
          ("KAIROS_EVEDEX_DEV_PRIVATE_KEY_FILE", "evedex_dev_private_key")]
      else
        []

/-- All names that a service reads a credential by, with their secrets. -/
def wiring (validator : Validator) (name : String) :
    List (String × String) :=
  bindingWiring validator name ++ fileWiring validator name

/-! ## What a model mounts and names -/

/-- Where Compose mounts a secret item. -/
def mountedAt (builtins : Builtins) (item : Json) : String :=
  match item with
  | .object members =>
      match getMember members "target" with
      | some (.text target) =>
          if "/".toList <+: target.toList then target
          else secretPath target
      | _ => secretPath (itemText builtins "source" item)
  | _ => secretPath (itemText builtins "source" item)

/-- The secrets of a service with the files at which they are mounted. -/
def secretMounts (builtins : Builtins) (service : Json) :
    List (String × String) :=
  ((secretItems service).getD []).map fun item =>
    (itemText builtins "source" item, mountedAt builtins item)

/-- The items of `KAIROS_SECRET_BINDINGS`. -/
def bindingItems (builtins : Builtins) (service : Json) :
    List (String × String) :=
  (bindings builtins service).getD []

/-- The `*_FILE` variables of the PAPER execution engine. -/
def fileVariables (validator : Validator) (name : String)
    (service : Json) : List (String × String) :=
  match validator with
  | .base _ => []
  | .paper host =>
      if name = "execution-engine" then
        let environment := ((environmentOf service).bind dictOf).getD []
        ((environment.map Prod.fst).filter fun key =>
            endsWith key "_FILE").map fun key =>
          (key, host.builtins.str ((getMember environment key).getD .null))
      else
        []

/-- The secret is mounted at the file, and no other secret is. -/
def Holds (mounts : List (String × String)) (path source : String) : Prop :=
  (∃ mount ∈ mounts, mount.2 = path) ∧
    ∀ mount ∈ mounts, mount.2 = path → mount.1 = source

section Wiring

variable (validator : Validator) (name : String) (service : Json)

/-- The mounts of the service. -/
abbrev mountsOf : List (String × String) :=
  secretMounts validator.builtins service

/-- The names that the service is given, with their files. -/
def references : List (String × String) :=
  bindingItems validator.builtins service ++
    fileVariables validator name service

/-- The credentials of the service are wired as intended. -/
structure ExactWiring : Prop where
  intended :
    ∀ reference ∈ references validator name service,
      ∃ source,
        (wiring validator name).lookup reference.1 = some source ∧
          Holds (mountsOf validator service) reference.2 source
  apart :
    ∀ left ∈ references validator name service,
      ∀ right ∈ references validator name service,
        left.2 = right.2 → left.1 = right.1
  noOther :
    ∀ mount ∈ mountsOf validator service,
      ∃ binding ∈ wiring validator name, binding.2 = mount.1

/-- Every secret of the service, and no other, is mounted under its own
name. -/
def OwnTargets : Prop :=
  ∀ source ∈ validator.secretsOf name,
    Holds (mountsOf validator service) (secretPath source) source

/-- An item that a later one of its name overrides names a file of the same
secret. -/
def OverriddenHarmless : Prop :=
  ∀ item ∈ bindingItems validator.builtins service,
    lastOf (bindingItems validator.builtins service) item.1 ≠
        some item.2 →
      ∃ source,
        (wiring validator name).lookup item.1 = some source ∧
          Holds (mountsOf validator service) item.2 source

end Wiring

/-! ## The allow-lists are the intended wiring -/

theorem bindingsOf_eq
    (validator : Validator) {name : String}
    (member : name ∈ validator.sourceServices) :
    validator.bindingsOf name =
      (bindingWiring validator name).map fun binding =>
        (binding.1, secretPath binding.2) := by
  cases validator with
  | base setting =>
      have each :
          ∀ name ∈ BaseCompose.sourceServices,
            BaseCompose.expectedBindings name =
              (bindingWiring (.base setting) name).map fun binding =>
                (binding.1, secretPath binding.2) := by
        show
          ∀ name ∈ BaseCompose.sourceServices,
            BaseCompose.expectedBindings name =
              ([("KAIROS_REDIS_URL", "redis_url"),
                  ("KAIROS_PERSISTENCE_DATABASE_URL",
                    "persistence_database_url")] ++
                (BaseCompose.providersOf name).map fun provider =>
                  (provider.1, provider.2.1)).map fun binding =>
                (binding.1, secretPath binding.2)
        decide
      exact each name member
  | paper host =>
      show
        PaperCompose.commonBindings =
          [("KAIROS_REDIS_URL", "paper_redis_url"),
            ("KAIROS_PERSISTENCE_DATABASE_URL",
              "paper_persistence_database_url")].map fun binding =>
            (binding.1, secretPath binding.2)
      decide

theorem secretsOf_eq (validator : Validator) (name : String) :
    validator.secretsOf name =
      (wiring validator name).map Prod.snd := by
  cases validator with
  | base setting =>
      show
        ["redis_url", "persistence_database_url"] ++
            (BaseCompose.providersOf name).map _ =
          _
      simp [wiring, bindingWiring, fileWiring]
  | paper host =>
      by_cases engine : name = "execution-engine" <;>
        simp [wiring, bindingWiring, fileWiring, Validator.secretsOf,
          PaperCompose.expectedSecretSources, engine]

/-- Names and secrets of the wiring determine each other. -/
theorem wiring_injective
    (validator : Validator) {name : String}
    (member : name ∈ validator.sourceServices) :
    ((wiring validator name).map Prod.fst).Nodup ∧
      ((wiring validator name).map Prod.snd).Nodup := by
  cases validator with
  | base setting =>
      have each :
          ∀ name ∈ BaseCompose.sourceServices,
            let all :=
              [("KAIROS_REDIS_URL", "redis_url"),
                  ("KAIROS_PERSISTENCE_DATABASE_URL",
                    "persistence_database_url")] ++
                (BaseCompose.providersOf name).map (fun provider =>
                  (provider.1, provider.2.1)) ++ []
            (all.map Prod.fst).Nodup ∧ (all.map Prod.snd).Nodup := by
        decide
      exact each name member
  | paper host =>
      by_cases engine : name = "execution-engine"
      · simp [wiring, bindingWiring, fileWiring, engine]
      · simp [wiring, bindingWiring, fileWiring, engine]

theorem source_of_lookup
    {validator : Validator} {name key source : String}
    (found : (wiring validator name).lookup key = some source) :
    (key, source) ∈ wiring validator name := by
  rcases List.lookup_eq_some_iff.1 found with ⟨before, after, split, _⟩
  rw [split]
  exact List.mem_append_right _ List.mem_cons_self

/-- Two names with one secret are one name. -/
theorem name_of_source
    {validator : Validator} {name : String}
    (member : name ∈ validator.sourceServices)
    {left right source : String}
    (leftFound : (wiring validator name).lookup left = some source)
    (rightFound : (wiring validator name).lookup right = some source) :
    left = right := by
  have distinct := (wiring_injective validator member).2
  have same :=
    List.inj_on_of_nodup_map distinct (source_of_lookup leftFound)
      (source_of_lookup rightFound) rfl
  exact congrArg Prod.fst same

/-! ## Accepted services -/

/-- What is accepted of the credentials of a source service. -/
structure AcceptedWiring (validator : Validator) (name : String)
    (service : Json) : Prop where
  named :
    ∀ item ∈ bindingItems validator.builtins service,
      ∃ source, (item.1, source) ∈ bindingWiring validator name
  last :
    ∀ binding ∈ bindingWiring validator name,
      lastOf (bindingItems validator.builtins service) binding.1 =
        some (secretPath binding.2)
  files :
    ∀ entry,
      entry ∈ fileVariables validator name service ↔
        ∃ binding ∈ fileWiring validator name,
          entry = (binding.1, secretPath binding.2)
  mounted :
    ∀ source,
      (∃ mount ∈ mountsOf validator service, mount.1 = source) ↔
        source ∈ validator.secretsOf name

section Exact

variable {validator : Validator} {name : String} {service : Json}
variable (member : name ∈ validator.sourceServices)
variable (accepted : AcceptedWiring validator name service)

include member accepted

/-- A reference of a service that keeps its targets leads to its secret. -/
theorem intended_of_targets
    (targets : OwnTargets validator name service)
    (overridden : OverriddenHarmless validator name service)
    {reference : String × String}
    (referred : reference ∈ references validator name service) :
    ∃ source,
      (wiring validator name).lookup reference.1 = some source ∧
        Holds (mountsOf validator service) reference.2 source := by
  have distinct := (wiring_injective validator member).1
  have holds :
      ∀ binding ∈ wiring validator name,
        Holds (mountsOf validator service) (secretPath binding.2)
          binding.2 := by
    intro binding listed
    apply targets
    rw [secretsOf_eq]
    exact List.mem_map_of_mem listed
  rcases List.mem_append.1 referred with item | file
  · by_cases current :
        lastOf (bindingItems validator.builtins service) reference.1 =
          some reference.2
    · rcases accepted.named reference item with ⟨source, listed⟩
      have path := accepted.last _ listed
      rw [current] at path
      have inWiring : (reference.1, source) ∈ wiring validator name :=
        List.mem_append_left _ listed
      refine ⟨source, lookup_of_mem distinct inWiring, ?_⟩
      rw [Option.some.inj path]
      exact holds _ inWiring
    · exact overridden reference item current
  · rcases (accepted.files reference).1 file with ⟨binding, listed, rfl⟩
    have inWiring : binding ∈ wiring validator name :=
      List.mem_append_right _ listed
    exact ⟨binding.2, lookup_of_mem distinct inWiring, holds _ inWiring⟩

/-- The intended wiring, once every reference leads to its secret. -/
theorem exactWiring_of_intended
    (intended :
      ∀ reference ∈ references validator name service,
        ∃ source,
          (wiring validator name).lookup reference.1 = some source ∧
            Holds (mountsOf validator service) reference.2 source) :
    ExactWiring validator name service := by
  refine ⟨intended, ?_, ?_⟩
  · intro left leftListed right rightListed same
    rcases intended left leftListed with ⟨leftSource, leftFound, leftHolds⟩
    rcases intended right rightListed with
      ⟨rightSource, rightFound, rightHolds⟩
    rcases leftHolds.1 with ⟨mount, listed, path⟩
    have leftEq := leftHolds.2 mount listed path
    have rightEq := rightHolds.2 mount listed (path.trans same)
    rw [← leftEq] at leftFound
    rw [← rightEq] at rightFound
    exact name_of_source member leftFound rightFound
  · intro mount listed
    have expected := (accepted.mounted mount.1).1 ⟨mount, listed, rfl⟩
    rw [secretsOf_eq] at expected
    rcases List.mem_map.1 expected with ⟨binding, inWiring, same⟩
    exact ⟨binding, inWiring, same⟩

/-- The wiring of an accepted service is the intended one exactly if its
secrets keep their targets and overridden items are harmless. -/
theorem exactWiring_iff :
    ExactWiring validator name service ↔
      OwnTargets validator name service ∧
        OverriddenHarmless validator name service := by
  have distinct := (wiring_injective validator member).1
  constructor
  · intro exact
    constructor
    · intro source expected
      rw [secretsOf_eq] at expected
      rcases List.mem_map.1 expected with ⟨binding, inWiring, rfl⟩
      have referred :
          (binding.1, secretPath binding.2) ∈
            references validator name service := by
        rcases List.mem_append.1 inWiring with bound | file
        · exact
            List.mem_append_left _ (mem_of_lastOf (accepted.last _ bound))
        · exact
            List.mem_append_right _
              ((accepted.files _).2 ⟨binding, file, rfl⟩)
      rcases exact.intended _ referred with ⟨source, found, holds⟩
      rw [lookup_of_mem distinct inWiring] at found
      cases found
      exact holds
    · intro item listed _
      exact exact.intended item (List.mem_append_left _ listed)
  · rintro ⟨targets, overridden⟩
    exact
      exactWiring_of_intended member accepted fun reference referred =>
        intended_of_targets member accepted targets overridden referred

end Exact

/-! ## Accepted models -/

/-- The environment of the execution engine of an accepted PAPER model. -/
structure PaperEnvironment (builtins : Builtins) (service : Json)
    (environment : Members) : Prop where
  read : environmentOf service = some (.object environment)
  keys :
    ∀ key,
      key ∈ environment.map Prod.fst ↔
        key ∈
          (PaperCompose.paperSourceEnvironmentKeys.lookup
              "execution-engine").getD []
  apiKey :
    getMember environment "KAIROS_EVEDEX_DEV_API_KEY_FILE" =
      some (.text "/run/secrets/evedex_dev_api_key")
  privateKey :
    getMember environment "KAIROS_EVEDEX_DEV_PRIVATE_KEY_FILE" =
      some (.text "/run/secrets/evedex_dev_private_key")

/-- A text that a key gives is the value of a member. -/
theorem getMember_of_getKey
    {members : Members} {key text : String} {value : Json}
    (read : getKey (.object members) key = some value)
    (same : isText text value = true) :
    getMember members key = some (.text text) := by
  rw [isText_iff] at same
  have found := Option.some.inj read
  rw [same] at found
  cases stored : getMember members key with
  | none =>
      rw [stored] at found
      cases found
  | some other =>
      rw [stored, Option.getD_some] at found
      rw [found]

theorem keys_of_pySet
    {environment : Members} {keys : List Json}
    (read : pySet (.object environment) = some keys)
    {texts : List String} (same : sameTexts keys texts = true)
    (key : String) :
    key ∈ environment.map Prod.fst ↔ key ∈ texts := by
  have listed :
      keys = environment.map fun member => Json.text member.1 := by
    unfold pySet at read
    rcases Option.bind_eq_some_iff.1 read with ⟨items, found, kept⟩
    cases found
    split at kept
    · exact (Option.some.inj kept).symm
    · cases kept
  have element := (sameTexts_iff keys texts).1 same (.text key)
  constructor
  · intro member
    rcases List.mem_map.1 member with ⟨entry, inside, rfl⟩
    have inKeys : Json.text entry.1 ∈ keys := by
      rw [listed]
      exact List.mem_map_of_mem inside
    rcases element.1 inKeys with ⟨text, member, equal⟩
    exact Json.text.inj equal ▸ member
  · intro member
    have inKeys := element.2 ⟨key, member, rfl⟩
    rw [listed] at inKeys
    rcases List.mem_map.1 inKeys with ⟨entry, inside, equal⟩
    exact Json.text.inj equal ▸ List.mem_map_of_mem inside

theorem environmentKeys_of_check
    {message name : String} {expected : List String} {service : Json}
    (clean :
      checkEnvironmentKeys message (some expected) name service = some [])
    {environment : Members}
    (read : environmentOf service = some (.object environment))
    (key : String) :
    key ∈ environment.map Prod.fst ↔ key ∈ expected := by
  rcases Option.bind_eq_some_iff.1 clean with ⟨other, found, clean⟩
  rw [read] at found
  cases found
  rcases Option.bind_eq_some_iff.1 clean with ⟨keys, elements, same⟩
  rw [finding_eq_nil_iff, Option.some.injEq, Bool.not_eq_false'] at same
  exact keys_of_pySet elements same key

theorem paperEnvironment_of_checks
    {host : Host} {services : Members} {service : Json}
    (found : getMember services "execution-engine" = some service)
    (checked :
      PaperCompose.checkService host "execution-engine" service = some [])
    (execution : PaperCompose.checkExecution host services = some []) :
    ∃ environment,
      PaperEnvironment host.builtins service environment := by
  have object :=
    (service_of_paperService checked).1.isObject
  have same : serviceOf services "execution-engine" = service := by
    rcases object with ⟨members, rfl⟩
    rw [serviceOf, serviceRaw_of_getMember found, orDict_object]
  unfold PaperCompose.checkExecution at execution
  rw [same] at execution
  rcases Option.bind_eq_some_iff.1 execution with ⟨value, read, clean⟩
  rcases Option.bind_eq_some_iff.1 clean with ⟨_, _, clean⟩
  rcases Option.bind_eq_some_iff.1 clean with ⟨_, _, clean⟩
  rcases Option.bind_eq_some_iff.1 clean with ⟨_, _, clean⟩
  rcases Option.bind_eq_some_iff.1 clean with ⟨_, _, clean⟩
  rcases Option.bind_eq_some_iff.1 clean with ⟨_, _, clean⟩
  rcases Option.bind_eq_some_iff.1 clean with ⟨_, _, clean⟩
  rcases Option.bind_eq_some_iff.1 clean with ⟨_, _, clean⟩
  rcases Option.bind_eq_some_iff.1 clean with ⟨_, _, clean⟩
  rcases Option.bind_eq_some_iff.1 clean with ⟨_, _, clean⟩
  rcases Option.bind_eq_some_iff.1 clean with ⟨_, _, clean⟩
  rcases Option.bind_eq_some_iff.1 clean with ⟨apiKey, apiRead, clean⟩
  rcases Option.bind_eq_some_iff.1 clean with
    ⟨privateKey, privateRead, clean⟩
  rcases Option.bind_eq_some_iff.1 clean with ⟨_, _, clean⟩
  have each := (findings_eq_nil_iff _).1 clean
  simp only [List.forall_mem_cons, finding_eq_nil_iff, Option.some.injEq,
    Bool.not_eq_false'] at each
  obtain ⟨_, _, _, _, _, _, _, _, api, signing, _⟩ := each
  rcases isObject_of_getOr apiRead with ⟨environment, rfl⟩
  unfold PaperCompose.checkService at checked
  rcases Option.bind_eq_some_iff.1 checked with ⟨_, _, checked⟩
  rcases Option.bind_eq_some_iff.1 checked with ⟨_, _, checked⟩
  rcases Option.bind_eq_some_iff.1 checked with ⟨_, _, checked⟩
  rcases Option.bind_eq_some_iff.1 checked with ⟨_, _, checked⟩
  rcases Option.bind_eq_some_iff.1 checked with ⟨_, _, checked⟩
  have passed := (findings_eq_nil_iff _).1 checked
  simp only [List.forall_mem_cons] at passed
  obtain ⟨_, _, _, _, _, _, _, _, keys, _⟩ := passed
  refine
    ⟨environment, read, ?_, getMember_of_getKey apiRead api,
      getMember_of_getKey privateRead signing⟩
  exact fun key => environmentKeys_of_check keys read key

/-- The `*_FILE` keys among the expected ones. -/
theorem fileKeys_iff (key : String) :
    (key ∈
          (PaperCompose.paperSourceEnvironmentKeys.lookup
              "execution-engine").getD [] ∧
        endsWith key "_FILE" = true) ↔
      key = "KAIROS_EVEDEX_DEV_API_KEY_FILE" ∨
        key = "KAIROS_EVEDEX_DEV_PRIVATE_KEY_FILE" := by
  constructor
  · have each :
        ∀ key ∈
            (PaperCompose.paperSourceEnvironmentKeys.lookup
              "execution-engine").getD [],
          endsWith key "_FILE" = true →
            key = "KAIROS_EVEDEX_DEV_API_KEY_FILE" ∨
              key = "KAIROS_EVEDEX_DEV_PRIVATE_KEY_FILE" := by
      decide
    rintro ⟨listed, file⟩
    exact each key listed file
  · rintro (rfl | rfl)
    · decide
    · decide

/-- The `*_FILE` variables of an accepted PAPER execution engine. -/
theorem files_of_paperEnvironment
    {host : Host} {service : Json} {environment : Members}
    (accepted : PaperEnvironment host.builtins service environment)
    (entry : String × String) :
    entry ∈ fileVariables (.paper host) "execution-engine" service ↔
      ∃ binding ∈ fileWiring (.paper host) "execution-engine",
        entry = (binding.1, secretPath binding.2) := by
  have computed :
      fileVariables (.paper host) "execution-engine" service =
        ((environment.map Prod.fst).filter fun key =>
            endsWith key "_FILE").map fun key =>
          (key,
            host.builtins.str
              ((getMember environment key).getD .null)) := by
    unfold fileVariables
    rw [accepted.read]
    rfl
  rw [computed, List.mem_map]
  have key :
      ∀ name,
        name ∈
            (environment.map Prod.fst).filter (fun key =>
              endsWith key "_FILE") ↔
          name = "KAIROS_EVEDEX_DEV_API_KEY_FILE" ∨
            name = "KAIROS_EVEDEX_DEV_PRIVATE_KEY_FILE" := by
    intro name
    rw [List.mem_filter, accepted.keys, fileKeys_iff]
  have wired :
      fileWiring (.paper host) "execution-engine" =
        [("KAIROS_EVEDEX_DEV_API_KEY_FILE", "evedex_dev_api_key"),
          ("KAIROS_EVEDEX_DEV_PRIVATE_KEY_FILE",
            "evedex_dev_private_key")] :=
    rfl
  simp only [key, wired, List.mem_cons, List.not_mem_nil, or_false,
    exists_eq_or_imp, exists_eq_left, accepted.apiKey, accepted.privateKey,
    Option.getD_some]
  have api :
      host.builtins.str (.text "/run/secrets/evedex_dev_api_key") =
        secretPath "evedex_dev_api_key" := by
    show "/run/secrets/evedex_dev_api_key" = _
    decide
  have signing :
      host.builtins.str (.text "/run/secrets/evedex_dev_private_key") =
        secretPath "evedex_dev_private_key" := by
    show "/run/secrets/evedex_dev_private_key" = _
    decide
  rw [api, signing]
  constructor
  · rintro (same | same)
    · exact Or.inl same.symm
    · exact Or.inr same.symm
  · rintro (same | same)
    · exact Or.inl same.symm
    · exact Or.inr same.symm

theorem wiring_of_source
    {validator : Validator} {name : String} {service : Json}
    (member : name ∈ validator.sourceServices)
    (source : AcceptedSource validator name service)
    (files :
      ∀ entry,
        entry ∈ fileVariables validator name service ↔
          ∃ binding ∈ fileWiring validator name,
            entry = (binding.1, secretPath binding.2)) :
    AcceptedWiring validator name service := by
  rcases source.bound with ⟨entries, read, same⟩
  rw [sameEntries_iff, bindingsOf_eq validator member] at same
  have items : bindingItems validator.builtins service = entries := by
    unfold bindingItems
    rw [read]
    rfl
  rcases source.secrets with ⟨sources, secretsRead, sameSources⟩
  rcases Option.bind_eq_some_iff.1 secretsRead with ⟨list, found, listed⟩
  have mounts :
      (mountsOf validator service).map Prod.fst = sources := by
    show ((((secretItems service).getD []).map _).map Prod.fst) = _
    rw [found, Option.getD_some, List.map_map]
    exact Option.some.inj listed
  refine ⟨?_, ?_, files, ?_⟩
  · intro item listed
    rw [items] at listed
    rcases same.1 item listed with ⟨other, expected, named⟩
    rcases List.mem_map.1 expected with ⟨binding, wired, rfl⟩
    exact ⟨binding.2, named ▸ wired⟩
  · intro binding wired
    rw [items]
    exact same.2 _ (List.mem_map_of_mem wired)
  · intro source
    rw [← (sameSources_iff _ _).1 sameSources source, ← mounts,
      List.mem_map]

/-- The credentials of an accepted model. -/
theorem accepted_wiring
    {validator : Validator} {config lock : Members}
    (accepted : validator.validate config lock = some []) :
    ∃ services,
      servicesOf config = some services ∧
        ∀ name ∈ validator.sourceServices,
          AcceptedWiring validator name (serviceOf services name) := by
  rcases accepted_model accepted with ⟨services, networks, model⟩
  refine ⟨services, model.services_eq, fun name member => ?_⟩
  apply wiring_of_source member (model.sources name member)
  cases validator with
  | base setting =>
      intro entry
      simp [fileVariables, fileWiring]
  | paper host =>
      by_cases engine : name = "execution-engine"
      · subst engine
        rcases Option.bind_eq_some_iff.1 accepted with ⟨others, read, parts⟩
        have same : others = services :=
          Option.some.inj (read.symm.trans model.services_eq)
        rw [same] at parts
        have each := (findings_eq_nil_iff _).1 parts
        simp only [List.forall_mem_cons] at each
        obtain ⟨_, _, _, checked, _, _, _, _, _, execution, _⟩ := each
        rw [findings_map_eq_nil_iff] at checked
        have present :
            "execution-engine" ∈ services.map Prod.fst :=
          ((sameSources_iff _ _).1 model.names _).2
            (List.mem_append_left _ member)
        rcases exists_getMember present with ⟨service, found⟩
        rcases paperEnvironment_of_checks found
            (checked _ (mem_of_getMember found)) execution with
          ⟨environment, paper⟩
        have object := (model.each _ (mem_of_getMember found)).isObject
        have service_eq :
            serviceOf services "execution-engine" = service := by
          rcases object with ⟨members, rfl⟩
          rw [serviceOf, serviceRaw_of_getMember found, orDict_object]
        rw [service_eq]
        exact files_of_paperEnvironment paper
      · intro entry
        simp [fileVariables, fileWiring, engine]

/--
In an accepted model the credentials of a source service are wired as intended
exactly if each of its secrets, and no other, is mounted under its own name,
and no overridden binding names a file of another secret.
-/
theorem validated_wiring_iff
    (validator : Validator) (config lock : Members)
    (accepted : validator.validate config lock = some []) :
    ∃ services,
      servicesOf config = some services ∧
        ∀ name ∈ validator.sourceServices,
          ExactWiring validator name (serviceOf services name) ↔
            OwnTargets validator name (serviceOf services name) ∧
              OverriddenHarmless validator name
                (serviceOf services name) := by
  rcases accepted_wiring accepted with ⟨services, read, each⟩
  exact
    ⟨services, read, fun name member =>
      exactWiring_iff member (each name member)⟩

theorem validated_wiring_iff_lax :
    ∃ services,
      servicesOf LaxModel.laxConfig = some services ∧
        ∀ name ∈ (Validator.base LaxModel.plainSetting).sourceServices,
          ExactWiring (.base LaxModel.plainSetting) name
              (serviceOf services name) ↔
            OwnTargets (.base LaxModel.plainSetting) name
                (serviceOf services name) ∧
              OverriddenHarmless (.base LaxModel.plainSetting) name
                (serviceOf services name) :=
  validated_wiring_iff (.base LaxModel.plainSetting) LaxModel.laxConfig
    LaxModel.plainLock LaxModel.validateCompose_lax

/-- The validator accepts a model whose text scouts read the credential of one
provider under the name of the other. -/
theorem wiring_exchanged :
    (Validator.base LaxModel.plainSetting).validate LaxModel.laxConfig
        LaxModel.plainLock =
      some [] ∧
      ¬ ExactWiring (.base LaxModel.plainSetting) "text-scouts"
        (serviceOf LaxModel.laxServices "text-scouts") := by
  refine ⟨LaxModel.validateCompose_lax, fun exact => ?_⟩
  have referred :
      ("KAIROS_OPENAI_API_KEY", "/run/secrets/openai_api_key") ∈
        references (.base LaxModel.plainSetting) "text-scouts"
          (serviceOf LaxModel.laxServices "text-scouts") := by
    apply List.mem_append_left
    show _ ∈ (LaxModel.boundTo "text-scouts").getD []
    rw [LaxModel.bound_both]
    decide
  rcases exact.intended _ referred with ⟨source, found, holds⟩
  have expected : source = "openai_api_key" := by
    have wired :
        (wiring (.base LaxModel.plainSetting) "text-scouts").lookup
            "KAIROS_OPENAI_API_KEY" =
          some "openai_api_key" :=
      rfl
    exact Option.some.inj (found.symm.trans wired)
  have exchanged :
      ("x_bearer_token", "/run/secrets/openai_api_key") ∈
        secretMounts LaxModel.plainBuiltins
          (serviceOf LaxModel.laxServices "text-scouts") := by
    decide
  have same := holds.2 _ exchanged rfl
  rw [expected] at same
  revert same
  decide

end KairosDeploy.Compose.Credentials
