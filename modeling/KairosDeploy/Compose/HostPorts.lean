import KairosDeploy.Compose.LaxModel

/-!
# The published ports of accepted models

The validators refuse ports of infrastructure services and, in the PAPER
model, of source services.  The three observability services may publish
entries whose host text contains the loopback address.  Nothing reads the
ports of the application services of the base model.
-/

namespace KairosDeploy.Compose.HostPorts

open KairosDeploy.Library.JsonValue
open KairosDeploy.Library.PyObject
open KairosDeploy.Compose.SharedChecks
open KairosDeploy.Compose.Accepted

/-! ## Where an entry is bound -/

/-- The host address of the short syntax `HOST:PORT:TARGET`. -/
def shortAddress (text : String) : Option String :=
  match text.toList.splitOn ':' with
  | [host, _, _] => some (String.ofList host)
  | _ => none

/-- The host address of an entry in either syntax; without one Compose binds
the port on every address of the host. -/
def hostAddress (builtins : Builtins) : Json → Option String
  | .object members => (getMember members "host_ip").map builtins.str
  | .text text => shortAddress text
  | _ => none

/-- The services that may publish ports. -/
def observabilityServices : List String :=
  ["ops-exporter", "prometheus", "grafana"]

/-- Only observability services publish, and on the loopback address. -/
structure LoopbackOnly (builtins : Builtins) (services : Members) :
    Prop where
  silent :
    ∀ name ∈ services.map Prod.fst, name ∉ observabilityServices →
      portsOf (serviceOf services name) = some []
  bound :
    ∀ name ∈ observabilityServices,
      ∃ ports,
        portsOf (serviceOf services name) = some ports ∧
          ∀ port ∈ ports, hostAddress builtins port = some "127.0.0.1"

/-- An entry that mentions the loopback address and is bound elsewhere. -/
def Lookalike (builtins : Builtins) (port : Json) : Prop :=
  hasPart "127.0.0.1" (itemText builtins "host_ip" port) = true ∧
    hostAddress builtins port ≠ some "127.0.0.1"

/-- The services whose ports nobody reads have none, and no entry of an
observability service only looks like a loopback one. -/
structure NoOtherPort (validator : Validator) (services : Members) :
    Prop where
  unread :
    ∀ name ∈ validator.unreadServices,
      portsOf (serviceOf services name) = some []
  exact :
    ∀ name ∈ observabilityServices,
      ∀ ports, portsOf (serviceOf services name) = some ports →
        ∀ port ∈ ports, ¬ Lookalike validator.builtins port

/-! ## Accepted models -/

theorem ports_of_checkLoopback
    {builtins : Builtins} {message name : String} {service : Json}
    (clean : checkLoopback builtins message name service = some []) :
    ∃ ports,
      portsOf service = some ports ∧
        ∀ port ∈ ports,
          hasPart "127.0.0.1" (itemText builtins "host_ip" port) = true := by
  rcases Option.bind_eq_some_iff.1 clean with ⟨ports, read, each⟩
  refine ⟨ports, read, fun port listed => ?_⟩
  have passed := (findings_map_eq_nil_iff ports _).1 each port listed
  rw [finding_eq_nil_iff, Option.some.injEq, Bool.not_eq_false'] at passed
  exact passed

/-- The ports of every service are refused, compared or not read. -/
theorem silent_or_unread
    (validator : Validator) {name : String}
    (expected : name ∈ validator.expectedServices)
    (other : name ∉ observabilityServices) :
    name ∈ validator.silentServices ∨ name ∈ validator.unreadServices := by
  cases validator with
  | base setting =>
      have each :
          ∀ name ∈ BaseCompose.expectedServices,
            name ∉ observabilityServices →
              name ∈ ["redis", "timescaledb"] ∨
                name ∈ BaseCompose.appServices := by
        decide
      exact each name expected other
  | paper host =>
      have each :
          ∀ name ∈ PaperCompose.paperExpectedServices,
            name ∉ observabilityServices →
              name ∈ (Validator.paper host).silentServices := by
        show ∀ name ∈ PaperCompose.paperExpectedServices,
            name ∉ observabilityServices →
              name ∈
                "redis" :: "timescaledb" ::
                  PaperCompose.paperSourceServices.filter fun name =>
                    name ≠ "ops-exporter"
        decide
      exact .inl (each name expected other)

/-- Services whose ports are not read are application services. -/
theorem unread_expected
    (validator : Validator) {name : String}
    (unread : name ∈ validator.unreadServices) :
    name ∈ validator.expectedServices ∧ name ∉ observabilityServices := by
  cases validator with
  | base setting =>
      have each :
          ∀ name ∈ BaseCompose.appServices,
            name ∈ BaseCompose.expectedServices ∧
              name ∉ observabilityServices := by
        decide
      exact each name unread
  | paper host => cases unread

theorem observability_expected
    (validator : Validator) {name : String}
    (observed : name ∈ observabilityServices) :
    name ∈ validator.expectedServices := by
  cases validator with
  | base setting =>
      have each :
          ∀ name ∈ observabilityServices,
            name ∈ BaseCompose.expectedServices := by
        decide
      exact each name observed
  | paper host =>
      have each :
          ∀ name ∈ observabilityServices,
            name ∈ PaperCompose.paperExpectedServices := by
        decide
      exact each name observed

/-- Every entry of an observability service mentions the loopback address. -/
theorem loopback_ports
    {validator : Validator} {config services networks : Members}
    (model : AcceptedModel validator config services networks)
    {name : String} (observed : name ∈ observabilityServices) :
    ∃ ports,
      portsOf (serviceOf services name) = some ports ∧
        ∀ port ∈ ports,
          hasPart "127.0.0.1" (itemText validator.builtins "host_ip" port) =
            true := by
  rcases model.loopback name observed with ⟨message, clean⟩
  have present :=
    ((sameSources_iff _ _).1 model.names name).2
      (observability_expected validator observed)
  rcases exists_getMember present with ⟨service, found⟩
  rcases (model.each _ (mem_of_getMember found)).isObject with
    ⟨members, object⟩
  have same : serviceOf services name = service := by
    change service = .object members at object
    unfold serviceOf
    rw [serviceRaw_of_getMember found, object, orDict_object]
  rw [same]
  exact ports_of_checkLoopback (clean service found)

/--
An accepted model publishes ports of the observability services on the
loopback address only if and only if no application service of the base model
publishes one and no entry only looks like a loopback one.
-/
theorem validated_ports_iff
    (validator : Validator) (config lock : Members)
    (accepted : validator.validate config lock = some []) :
    ∃ services,
      servicesOf config = some services ∧
        (LoopbackOnly validator.builtins services ↔
          NoOtherPort validator services) := by
  rcases accepted_model accepted with ⟨services, networks, model⟩
  have present := (sameSources_iff _ _).1 model.names
  refine ⟨services, model.services_eq, ?_, ?_⟩
  · intro only
    constructor
    · intro name unread
      have known := unread_expected validator unread
      exact only.silent name ((present name).2 known.1) known.2
    · intro name observed ports read port listed lookalike
      rcases only.bound name observed with ⟨others, found, bound⟩
      rw [read] at found
      cases found
      exact lookalike.2 (bound port listed)
  · intro nothing
    constructor
    · intro name member other
      have expected := (present name).1 member
      rcases silent_or_unread validator expected other with silent | unread
      · rcases model.silent name silent with ⟨ports, read, falsy⟩
        exact iterate_of_falsy read falsy
      · exact nothing.unread name unread
    · intro name observed
      rcases loopback_ports model observed with ⟨ports, read, mentions⟩
      refine ⟨ports, read, fun port listed => ?_⟩
      by_contra elsewhere
      exact
        nothing.exact name observed ports read port listed
          ⟨mentions port listed, elsewhere⟩

theorem validated_ports_iff_lax :
    ∃ services,
      servicesOf LaxModel.laxConfig = some services ∧
        (LoopbackOnly LaxModel.plainBuiltins services ↔
          NoOtherPort (.base LaxModel.plainSetting) services) :=
  validated_ports_iff (.base LaxModel.plainSetting) LaxModel.laxConfig
    LaxModel.plainLock LaxModel.validateCompose_lax

/-- The validator accepts a model in which an application service publishes a
port on every address of the host. -/
theorem ports_published :
    (Validator.base LaxModel.plainSetting).validate LaxModel.laxConfig
        LaxModel.plainLock =
      some [] ∧
      ¬ LoopbackOnly LaxModel.plainBuiltins LaxModel.laxServices := by
  refine ⟨LaxModel.validateCompose_lax, fun only => ?_⟩
  have present :
      "strategy-engine" ∈ LaxModel.laxServices.map Prod.fst := by
    decide
  have stored :
      portsOf (serviceOf LaxModel.laxServices "strategy-engine") =
        some [LaxModel.publishedPort] :=
    rfl
  have silent := only.silent "strategy-engine" present (by decide)
  rw [stored] at silent
  cases silent

end KairosDeploy.Compose.HostPorts
