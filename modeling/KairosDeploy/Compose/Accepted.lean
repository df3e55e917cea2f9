import KairosDeploy.Compose.BaseCompose
import KairosDeploy.Compose.PaperCompose

/-!
# Accepted Compose models

Both validators test their models piece by piece.  This module says once what
the absence of messages means for the pieces that matter for isolation: the
services and their networks, options, secrets, mounts and ports, and the
top-level networks.
-/

namespace KairosDeploy.Compose.Accepted

open KairosDeploy.Library.JsonValue
open KairosDeploy.Library.PyObject
open KairosDeploy.Compose.SharedChecks

/-! ## The two validators -/

/-- A validator and the setting in which it runs. -/
inductive Validator where
  | base (setting : BaseCompose.Setting)
  | paper (host : Host)

namespace Validator

/-- The call of the validator. -/
def validate : Validator → Members → Members → Findings
  | base setting => BaseCompose.validateCompose setting
  | paper host => PaperCompose.validatePaperCompose host

/-- The built-in functions. -/
def builtins : Validator → Builtins
  | base setting => setting.builtins
  | paper host => host.builtins

/-- The name of the Compose project. -/
def project : Validator → String
  | base _ => "kairos"
  | paper _ => "kairos-paper"

/-- The services of the model. -/
def expectedServices : Validator → List String
  | base _ => BaseCompose.expectedServices
  | paper _ => PaperCompose.paperExpectedServices

/-- The services that are built from source. -/
def sourceServices : Validator → List String
  | base _ => BaseCompose.sourceServices
  | paper _ => PaperCompose.paperSourceServices

/-- The services that may reach the outside. -/
def egressServices : Validator → List String
  | base _ => BaseCompose.egressServices
  | paper _ => PaperCompose.paperEgressServices

/-- The networks of each service. -/
def serviceNetworks : Validator → List (String × List String)
  | base _ => BaseCompose.baseServiceNetworks
  | paper _ => PaperCompose.paperServiceNetworks

/-- The networks that are internal. -/
def internalNetworks : Validator → List String
  | base _ => BaseCompose.internalNetworks
  | paper _ => PaperCompose.internalNetworks

/-- All networks. -/
def expectedNetworks : Validator → List String
  | base _ => BaseCompose.expectedNetworks
  | paper _ => PaperCompose.expectedNetworks

/-- The secrets of a source service. -/
def secretsOf : Validator → String → List String
  | base _ => BaseCompose.expectedSources
  | paper _ => PaperCompose.expectedSecretSources

/-- The bindings of a source service. -/
def bindingsOf : Validator → String → List (String × String)
  | base _ => BaseCompose.expectedBindings
  | paper _ => fun _ => PaperCompose.commonBindings

/-- The services whose ports must be falsy. -/
def silentServices : Validator → List String
  | base _ => ["redis", "timescaledb"]
  | paper _ =>
      "redis" :: "timescaledb" ::
        PaperCompose.paperSourceServices.filter fun name =>
          name ≠ "ops-exporter"

/-- The services whose ports are not looked at. -/
def unreadServices : Validator → List String
  | base _ => BaseCompose.appServices
  | paper _ => []

/-- The mounts of the infrastructure services. -/
def mounts : Validator → List (String × List Mount)
  | base _ => BaseCompose.expectedMounts
  | paper _ => PaperCompose.expectedMounts

/-- The top-level volumes. -/
def namedVolumes : Validator → List String
  | base _ => BaseCompose.expectedNamedVolumes
  | paper _ => PaperCompose.expectedNamedVolumes

end Validator

/-- `config.get("services", {}) or {}`, a `dict`. -/
def servicesOf (config : Members) : Option Members :=
  dictOf (orDict ((getMember config "services").getD (.object [])))

/-- `config.get("networks", {}) or {}`, a `dict`. -/
def topNetworks (config : Members) : Option Members :=
  dictOf (orDict ((getMember config "networks").getD (.object [])))

/-! ## What is accepted of one service -/

/-- A service of an accepted model. -/
structure AcceptedService (validator : Validator) (name : String)
    (service : Json) : Prop where
  isObject : ∃ members, service = .object members
  options :
    ∀ option ∈ forbiddenServiceOptions, option ≠ "user" →
      ∃ value, getKey service option = some value ∧ isUnset value = true
  networks :
    ∃ networks,
      networksOf service = some networks ∧
        ∀ item,
          item ∈ networks ↔
            ∃ text ∈ (validator.serviceNetworks.lookup name).getD [],
              item = .text text

/-- A source service of an accepted model. -/
structure AcceptedSource (validator : Validator) (name : String)
    (service : Json) : Prop where
  noVolumes :
    ∃ volumes, getKey service "volumes" = some volumes ∧
      truthy volumes = false
  secrets :
    ∃ sources,
      secretSources validator.builtins service = some sources ∧
        sameSources sources (validator.secretsOf name) = true
  bound :
    ∃ entries,
      bindings validator.builtins service = some entries ∧
        sameEntries entries (validator.bindingsOf name) = true

/-- The top-level networks of an accepted model. -/
structure AcceptedNetworks (validator : Validator)
    (networks : Members) : Prop where
  names :
    sameSources (networks.map Prod.fst) validator.expectedNetworks = true
  own :
    ∀ network ∈ networks,
      ∃ name, getKey (orDict network.2) "name" = some name ∧
        ownName (validator.project ++ "_" ++ network.1) name = true
  inside :
    ∀ name ∈ validator.internalNetworks,
      getKey (serviceOf networks name) "internal" = some (.bool true)

/-- What the validators establish about an accepted model. -/
structure AcceptedModel (validator : Validator) (config : Members)
    (services networks : Members) : Prop where
  services_eq : servicesOf config = some services
  networks_eq : topNetworks config = some networks
  names :
    sameSources (services.map Prod.fst) validator.expectedServices = true
  each :
    ∀ entry ∈ services, AcceptedService validator entry.1 entry.2
  sources :
    ∀ name ∈ validator.sourceServices,
      AcceptedSource validator name (serviceOf services name)
  mounted :
    ∀ entry ∈ validator.mounts,
      ∃ listName,
        checkMounts validator.builtins listName services entry.1 entry.2 =
          some []
  volumes :
    ∃ message,
      checkNamedVolumes validator.project message validator.namedVolumes
          config =
        some []
  silent :
    ∀ name ∈ validator.silentServices,
      ∃ ports, getKey (serviceOf services name) "ports" = some ports ∧
        truthy ports = false
  loopback :
    ∀ name ∈ ["ops-exporter", "prometheus", "grafana"],
      ∃ message, ∀ service, getMember services name = some service →
        checkLoopback validator.builtins message name service = some []
  topLevel : AcceptedNetworks validator networks

/-! ## Inverting the shared checks -/

theorem sameSources_iff (left right : List String) :
    sameSources left right = true ↔ ∀ name, name ∈ left ↔ name ∈ right := by
  simp only [sameSources, Bool.and_eq_true, List.all_eq_true,
    List.contains_iff_mem]
  constructor
  · exact fun both name => ⟨both.1 name, both.2 name⟩
  · exact fun same =>
      ⟨fun name => (same name).1, fun name => (same name).2⟩

/-- A `dict` is not replaced by `or {}`. -/
theorem orDict_object (members : Members) :
    orDict (.object members) = .object members := by
  cases members <;> rfl

theorem serviceRaw_of_getMember
    {services : Members} {name : String} {service : Json}
    (found : getMember services name = some service) :
    serviceRaw services name = service := by
  unfold serviceRaw
  rw [found]
  rfl

theorem mem_of_getMember
    {members : Members} {key : String} {value : Json}
    (found : getMember members key = some value) :
    (key, value) ∈ members := by
  rcases List.lookup_eq_some_iff.1 found with ⟨before, after, split, _⟩
  rw [split]
  exact List.mem_append_right _ List.mem_cons_self

theorem exists_getMember
    {members : Members} {key : String}
    (present : key ∈ members.map Prod.fst) :
    ∃ value, getMember members key = some value := by
  cases found : getMember members key with
  | some value => exact ⟨value, rfl⟩
  | none =>
      rw [getMember_eq_none_iff, keySet, List.mem_toFinset] at found
      exact absurd present found

/-- `value is not True`. -/
theorem eq_true_of_match
    {value : Json}
    (same :
      (match value with
        | .bool true => false
        | _ => true) =
        false) :
    value = .bool true := by
  split at same
  · rfl
  · cases same

theorem internal_of_raw
    {networks : Members} {name : String} {value : Json}
    (found : getKey (serviceRaw networks name) "internal" = some value) :
    getKey (serviceOf networks name) "internal" = some value := by
  unfold serviceOf
  cases raw : serviceRaw networks name with
  | object members =>
      rw [raw] at found
      rw [orDict_object]
      exact found
  | _ =>
      rw [raw] at found
      cases found

theorem isObject_of_getOr
    {value result : Json} {key : String} {default : Json}
    (read : getOr value key default = some result) :
    ∃ members, value = .object members := by
  cases value with
  | object members => exact ⟨members, rfl⟩
  | _ => cases read

/-- A falsy list has no element. -/
theorem iterate_of_falsy
    {service value : Json} {key : String}
    (read : getKey service key = some value)
    (falsy : truthy value = false) :
    (getOr service key (.array []) >>= fun items =>
        iterate (orList items)) =
      some [] := by
  rcases isObject_of_getOr read with ⟨members, rfl⟩
  show (some ((getMember members key).getD (.array [])) >>= _) = _
  cases found : getMember members key with
  | none => rfl
  | some item =>
      have same := Option.some.inj read
      rw [found, Option.getD_some] at same
      rw [← same] at falsy
      show iterate (orList item) = _
      unfold orList
      rw [falsy]
      rfl

theorem options_of_check
    {name : String} {service : Json}
    (clean : checkOptions name service = some []) :
    ∀ option ∈ forbiddenServiceOptions, option ≠ "user" →
      ∃ value, getKey service option = some value ∧
        isUnset value = true := by
  intro option listed other
  have passed :=
    (findings_map_eq_nil_iff forbiddenServiceOptions _).1 clean option listed
  rw [if_neg (fun both => other both.1), finding_eq_nil_iff,
    Option.map_eq_some_iff] at passed
  rcases passed with ⟨value, read, unset⟩
  exact ⟨value, read, by simpa using unset⟩

theorem networks_of_check
    {message name : String} {map : List (String × List String)}
    {service : Json}
    (clean : checkNetworks message map name service = some []) :
    ∃ networks,
      networksOf service = some networks ∧
        ∀ item,
          item ∈ networks ↔
            ∃ text ∈ (map.lookup name).getD [], item = .text text := by
  rcases Option.bind_eq_some_iff.1 clean with ⟨networks, read, passed⟩
  rw [finding_eq_nil_iff, Option.some.injEq, Bool.not_eq_false'] at passed
  exact ⟨networks, read, (sameTexts_iff _ _).1 passed⟩

theorem isObject_of_networks
    {service : Json} {networks : List Json}
    (read : networksOf service = some networks) :
    ∃ members, service = .object members := by
  rcases Option.bind_eq_some_iff.1 read with ⟨value, found, _⟩
  exact isObject_of_getOr found

/-! ## The base model -/

section Base

open BaseCompose

variable {setting : Setting}

theorem service_of_checkService
    {name : String} {service : Json}
    (clean : BaseCompose.checkService setting name service = some []) :
    AcceptedService (.base setting) name service := by
  have each := (findings_eq_nil_iff _).1 clean
  simp only [List.forall_mem_cons] at each
  obtain ⟨_, _, options, _, _, networks, _⟩ := each
  have networked := networks_of_check networks
  rcases networked with ⟨items, read, same⟩
  exact
    ⟨isObject_of_networks read, options_of_check options, items, read, same⟩

theorem noVolumes_of_wiring
    {name : String} {service : Json}
    (member : name ∈ BaseCompose.sourceServices)
    (clean : BaseCompose.checkSourceWiring setting name service = some []) :
    ∃ volumes, getKey service "volumes" = some volumes ∧
      truthy volumes = false := by
  unfold BaseCompose.checkSourceWiring at clean
  rcases Option.bind_eq_some_iff.1 clean with ⟨networks, _, clean⟩
  rcases Option.bind_eq_some_iff.1 clean with ⟨volumes, read, clean⟩
  rcases Option.bind_eq_some_iff.1 clean with ⟨entries, _, clean⟩
  rcases Option.bind_eq_some_iff.1 clean with ⟨sources, _, clean⟩
  rcases Option.bind_eq_some_iff.1 clean with ⟨environment, _, clean⟩
  rcases Option.bind_eq_some_iff.1 clean with ⟨bus, _, clean⟩
  rcases Option.bind_eq_some_iff.1 clean with ⟨profile, _, clean⟩
  rcases Option.bind_eq_some_iff.1 clean with ⟨logJson, _, clean⟩
  have each := (findings_eq_nil_iff _).1 clean
  simp only [List.forall_mem_cons] at each
  have forbidden := each.2.1
  rw [finding_eq_nil_iff, Option.some.injEq, Bool.and_eq_false_iff]
    at forbidden
  refine ⟨volumes, read, forbidden.resolve_left ?_⟩
  rw [List.contains_iff_mem.2 member]
  exact Bool.noConfusion

theorem source_of_checks
    {services : Members} {lockServices : Json} {name : String}
    (member : name ∈ BaseCompose.sourceServices)
    (service :
      BaseCompose.checkSourceService setting services lockServices name =
        some [])
    (secrets :
      BaseCompose.checkSecrets setting services name = some []) :
    AcceptedSource (.base setting) name (serviceOf services name) := by
  rcases Option.bind_eq_some_iff.1 service with ⟨source, _, parts⟩
  have each := (findings_eq_nil_iff _).1 parts
  simp only [List.forall_mem_cons] at each
  rcases Option.bind_eq_some_iff.1 secrets with ⟨sources, read, rest⟩
  rcases Option.bind_eq_some_iff.1 rest with ⟨entries, bound, both⟩
  have passed := (findings_eq_nil_iff _).1 both
  simp only [List.forall_mem_cons, finding_eq_nil_iff, Option.some.injEq,
    Bool.not_eq_false'] at passed
  exact
    ⟨noVolumes_of_wiring member each.2.2.2.1, ⟨sources, read, passed.1⟩,
      ⟨entries, bound, passed.2.1⟩⟩

theorem silent_of_infrastructure
    {services : Members}
    (clean :
      BaseCompose.checkInfrastructure setting services = some []) :
    ∀ name ∈ ["redis", "timescaledb"],
      ∃ ports, getKey (serviceOf services name) "ports" = some ports ∧
        truthy ports = false := by
  unfold BaseCompose.checkInfrastructure at clean
  rcases Option.bind_eq_some_iff.1 clean with ⟨_, _, clean⟩
  rcases Option.bind_eq_some_iff.1 clean with ⟨_, _, clean⟩
  rcases Option.bind_eq_some_iff.1 clean with ⟨_, _, clean⟩
  rcases Option.bind_eq_some_iff.1 clean with ⟨_, _, clean⟩
  rcases Option.bind_eq_some_iff.1 clean with ⟨redis, redisRead, clean⟩
  rcases Option.bind_eq_some_iff.1 clean with ⟨_, _, clean⟩
  rcases Option.bind_eq_some_iff.1 clean with
    ⟨timescale, timescaleRead, clean⟩
  rcases Option.bind_eq_some_iff.1 clean with ⟨_, _, clean⟩
  rcases Option.bind_eq_some_iff.1 clean with ⟨_, _, clean⟩
  rcases Option.bind_eq_some_iff.1 clean with ⟨_, _, clean⟩
  rcases Option.bind_eq_some_iff.1 clean with ⟨_, _, clean⟩
  rcases Option.bind_eq_some_iff.1 clean with ⟨_, _, clean⟩
  have each := (findings_eq_nil_iff _).1 clean
  simp only [List.forall_mem_cons, finding_eq_nil_iff, Option.some.injEq]
    at each
  simp only [List.forall_mem_cons, List.not_mem_nil, false_implies,
    implies_true, and_true]
  exact
    ⟨⟨redis, redisRead, each.2.1⟩,
      ⟨timescale, timescaleRead, each.2.2.2.2.2.1⟩⟩

theorem networks_of_checkTopLevel
    {config : Members}
    (clean : BaseCompose.checkTopLevelNetworks config = some []) :
    ∃ networks,
      topNetworks config = some networks ∧
        AcceptedNetworks (.base setting) networks := by
  rcases Option.bind_eq_some_iff.1 clean with ⟨networks, read, parts⟩
  have each := (findings_eq_nil_iff _).1 parts
  simp only [List.forall_mem_cons, findings_map_eq_nil_iff,
    finding_eq_nil_iff, Option.some.injEq, Bool.not_eq_false',
    Option.map_eq_some_iff] at each
  obtain ⟨names, own, inside, _⟩ := each
  refine ⟨networks, read, names, own, ?_⟩
  intro name listed
  rcases inside name listed with ⟨value, found, isTrue⟩
  rw [eq_true_of_match isTrue] at found
  exact internal_of_raw found

/-- What the absence of messages means for the base model. -/
theorem accepted_base
    {config lock : Members}
    (accepted : validateCompose setting config lock = some []) :
    ∃ services networks,
      AcceptedModel (.base setting) config services networks := by
  rcases Option.bind_eq_some_iff.1 accepted with ⟨services, read, parts⟩
  have each := (findings_eq_nil_iff _).1 parts
  simp only [List.forall_mem_cons] at each
  obtain
    ⟨_, names, checked, _, sources, _, _, _, secrets, _, _, _,
      infrastructure, _, mounts, volumes, observability, _, topLevel, _⟩ :=
    each
  rcases networks_of_checkTopLevel topLevel with
    ⟨networks, networksRead, acceptedNetworks⟩
  rw [finding_eq_nil_iff, Option.some.injEq, Bool.not_eq_false'] at names
  rw [findings_map_eq_nil_iff] at checked sources secrets mounts
  rw [findings_map_eq_nil_iff] at observability
  refine
    ⟨services, networks,
      { services_eq := read
        networks_eq := networksRead
        names := names
        each := fun entry member =>
          service_of_checkService (checked entry member)
        sources := fun name member =>
          source_of_checks member (sources name member)
            (secrets name member)
        mounted := fun entry member => ⟨_, mounts entry member⟩
        volumes := ⟨_, volumes⟩
        silent := silent_of_infrastructure infrastructure
        loopback := ?_
        topLevel := acceptedNetworks }⟩
  intro name listed
  refine ⟨": published ports must bind to 127.0.0.1", fun service found => ?_⟩
  have checks := observability name listed
  rcases Option.bind_eq_some_iff.1 checks with ⟨_, _, checks⟩
  rcases Option.bind_eq_some_iff.1 checks with ⟨_, _, checks⟩
  have each := (findings_eq_nil_iff _).1 checks
  simp only [List.forall_mem_cons] at each
  have published := each.2.2.1
  rw [serviceRaw_of_getMember found] at published
  exact published

end Base

/-! ## The PAPER model -/

section Paper

open PaperCompose

variable {host : Host}

theorem service_of_paperService
    {name : String} {service : Json}
    (clean : PaperCompose.checkService host name service = some []) :
    AcceptedService (.paper host) name service ∧
      (name ∈ paperSourceServices →
        ∃ volumes, getKey service "volumes" = some volumes ∧
          truthy volumes = false) := by
  unfold PaperCompose.checkService at clean
  rcases Option.bind_eq_some_iff.1 clean with ⟨environment, _, clean⟩
  rcases Option.bind_eq_some_iff.1 clean with ⟨networks, _, clean⟩
  rcases Option.bind_eq_some_iff.1 clean with ⟨keys, _, clean⟩
  rcases Option.bind_eq_some_iff.1 clean with ⟨sources, _, clean⟩
  rcases Option.bind_eq_some_iff.1 clean with ⟨volumes, read, clean⟩
  have each := (findings_eq_nil_iff _).1 clean
  simp only [List.forall_mem_cons] at each
  obtain ⟨_, _, options, _, _, _, _, forbidden, _, networked, _⟩ := each
  rcases networks_of_check networked with ⟨items, found, same⟩
  constructor
  · exact
      ⟨isObject_of_networks found, options_of_check options, items, found,
        same⟩
  · intro member
    rw [finding_eq_nil_iff, Option.some.injEq, Bool.and_eq_false_iff]
      at forbidden
    refine ⟨volumes, read, forbidden.resolve_left ?_⟩
    rw [List.contains_iff_mem.2 member]
    exact Bool.noConfusion

theorem secrets_of_paperSource
    {services : Members} {lockServices : Json} {name : String}
    (clean :
      PaperCompose.checkSourceService host services lockServices name =
        some []) :
    (∃ sources,
        secretSources host.builtins (serviceOf services name) =
            some sources ∧
          sameSources sources (expectedSecretSources name) = true) ∧
      (∃ entries,
          bindings host.builtins (serviceOf services name) = some entries ∧
            sameEntries entries commonBindings = true) ∧
        (name ≠ "ops-exporter" →
          ∃ ports, getKey (serviceOf services name) "ports" = some ports ∧
            truthy ports = false) := by
  rcases Option.bind_eq_some_iff.1 clean with ⟨source, _, parts⟩
  have each := (findings_eq_nil_iff _).1 parts
  simp only [List.forall_mem_cons] at each
  have wiring := each.2.2.2.1
  unfold PaperCompose.checkSourceWiring at wiring
  rcases Option.bind_eq_some_iff.1 wiring with ⟨networks, _, wiring⟩
  rcases Option.bind_eq_some_iff.1 wiring with ⟨entries, bound, wiring⟩
  rcases Option.bind_eq_some_iff.1 wiring with ⟨sources, read, wiring⟩
  rcases Option.bind_eq_some_iff.1 wiring with ⟨ports, published, wiring⟩
  rcases Option.bind_eq_some_iff.1 wiring with ⟨environment, _, wiring⟩
  have passed := (findings_eq_nil_iff _).1 wiring
  simp only [List.cons_append, List.forall_mem_cons, finding_eq_nil_iff,
    Option.some.injEq, Bool.not_eq_false'] at passed
  refine
    ⟨⟨sources, read, passed.2.2.2.1⟩, ⟨entries, bound, passed.2.2.1⟩,
      fun other => ⟨ports, published, ?_⟩⟩
  have silent := passed.2.2.2.2.1
  rw [decide_eq_true other, Bool.true_and] at silent
  exact silent

theorem silent_of_paperInfrastructure
    {services : Members}
    (clean :
      PaperCompose.checkInfrastructure host services = some []) :
    ∀ name ∈ ["redis", "timescaledb"],
      ∃ ports, getKey (serviceOf services name) "ports" = some ports ∧
        truthy ports = false := by
  unfold PaperCompose.checkInfrastructure at clean
  rcases Option.bind_eq_some_iff.1 clean with ⟨_, _, clean⟩
  rcases Option.bind_eq_some_iff.1 clean with ⟨redis, redisRead, clean⟩
  rcases Option.bind_eq_some_iff.1 clean with ⟨_, _, clean⟩
  rcases Option.bind_eq_some_iff.1 clean with
    ⟨timescale, timescaleRead, clean⟩
  rcases Option.bind_eq_some_iff.1 clean with ⟨_, _, clean⟩
  rcases Option.bind_eq_some_iff.1 clean with ⟨_, _, clean⟩
  have each := (findings_eq_nil_iff _).1 clean
  simp only [List.forall_mem_cons, finding_eq_nil_iff, Option.some.injEq,
    Bool.or_eq_false_iff] at each
  simp only [List.forall_mem_cons, List.not_mem_nil, false_implies,
    implies_true, and_true]
  exact
    ⟨⟨redis, redisRead, each.1.2⟩,
      ⟨timescale, timescaleRead, each.2.2.1⟩⟩

theorem networks_of_paperTopLevel
    {config : Members}
    (clean : PaperCompose.checkTopLevelNetworks config = some []) :
    ∃ networks,
      topNetworks config = some networks ∧
        AcceptedNetworks (.paper host) networks := by
  rcases Option.bind_eq_some_iff.1 clean with ⟨networks, read, parts⟩
  have each := (findings_eq_nil_iff _).1 parts
  simp only [List.forall_mem_cons, findings_map_eq_nil_iff,
    finding_eq_nil_iff, Option.some.injEq, Bool.not_eq_false',
    Option.map_eq_some_iff] at each
  obtain ⟨names, inside, _, own, _⟩ := each
  refine ⟨networks, read, names, fun network member => ?_, ?_⟩
  · have both := (findings_eq_nil_iff _).1 (own network member)
    simp only [List.forall_mem_cons, finding_eq_nil_iff,
      Option.map_eq_some_iff, Bool.not_eq_false'] at both
    exact both.1
  · intro name listed
    rcases inside name listed with ⟨value, found, isTrue⟩
    rw [eq_true_of_match isTrue] at found
    exact found

/-- What the absence of messages means for the PAPER model. -/
theorem accepted_paper
    {config lock : Members}
    (accepted : validatePaperCompose host config lock = some []) :
    ∃ services networks,
      AcceptedModel (.paper host) config services networks := by
  rcases Option.bind_eq_some_iff.1 accepted with ⟨services, read, parts⟩
  have each := (findings_eq_nil_iff _).1 parts
  simp only [List.forall_mem_cons] at each
  obtain
    ⟨_, names, _, checked, _, sources, _, _, _, _, _, _, mounts, volumes,
      infrastructure, _, topLevel, published, _⟩ := each
  rcases networks_of_paperTopLevel topLevel with
    ⟨networks, networksRead, acceptedNetworks⟩
  rw [finding_eq_nil_iff, Option.some.injEq, Bool.not_eq_false'] at names
  rw [findings_map_eq_nil_iff] at checked sources mounts published
  refine
    ⟨services, networks,
      { services_eq := read
        networks_eq := networksRead
        names := names
        each := fun entry member =>
          (service_of_paperService (checked entry member)).1
        sources := ?_
        mounted := fun entry member => ⟨_, mounts entry member⟩
        volumes := ⟨_, volumes⟩
        silent := ?_
        loopback := ?_
        topLevel := acceptedNetworks }⟩
  · intro name member
    have wired := secrets_of_paperSource (sources name member)
    have present : name ∈ services.map Prod.fst :=
      ((sameSources_iff _ _).1 names name).2
        (List.mem_append_left _ member)
    rcases exists_getMember present with ⟨service, found⟩
    have each := service_of_paperService (checked _ (mem_of_getMember found))
    rcases each.1.isObject with ⟨members, rfl⟩
    have same : serviceOf services name = .object members := by
      rw [serviceOf, serviceRaw_of_getMember found, orDict_object]
    rw [same] at wired ⊢
    exact ⟨each.2 member, wired.1, wired.2.1⟩
  · intro name listed
    have infrastructure := silent_of_paperInfrastructure infrastructure
    rcases List.mem_cons.1 listed with rfl | listed
    · exact infrastructure _ (by decide)
    rcases List.mem_cons.1 listed with rfl | listed
    · exact infrastructure _ (by decide)
    rcases List.mem_filter.1 listed with ⟨member, other⟩
    exact
      (secrets_of_paperSource (sources name member)).2.2
        (of_decide_eq_true other)
  · intro name listed
    refine
      ⟨": observability ports must bind only to loopback",
        fun service found => ?_⟩
    have each := service_of_paperService (checked _ (mem_of_getMember found))
    rcases each.1.isObject with ⟨members, rfl⟩
    have loopback := published name listed
    rw [serviceOf, serviceRaw_of_getMember found, orDict_object] at loopback
    exact loopback

end Paper

/-- What the absence of messages means for either model. -/
theorem accepted_model
    {validator : Validator} {config lock : Members}
    (accepted : validator.validate config lock = some []) :
    ∃ services networks,
      AcceptedModel validator config services networks := by
  cases validator with
  | base setting => exact accepted_base accepted
  | paper host => exact accepted_paper accepted

end KairosDeploy.Compose.Accepted
