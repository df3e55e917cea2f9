import KairosDeploy.Compose.LaxModel

/-!
# Egress confinement

An accepted Compose model lets only the egress services reach a network that
is not internal, shares no network namespace, and names no network of another
Compose project.
-/

namespace KairosDeploy.Compose.Egress

open KairosDeploy.Library.JsonValue
open KairosDeploy.Library.PyObject
open KairosDeploy.Compose.SharedChecks
open KairosDeploy.Compose.Accepted

/-- The networks that Compose attaches a service to: those that it lists or
has as keys, and `default` where there is none. -/
def Attached (service : Json) (network : String) : Prop :=
  ∃ networks,
    networksOf service = some networks ∧
      (.text network ∈ networks ∨ networks = [] ∧ network = "default")

/-- The model defines the network with `internal: true`. -/
def Internal (networks : Members) (network : String) : Prop :=
  ∃ definition,
    getMember networks network = some (.object definition) ∧
      getMember definition "internal" = some (.bool true)

/-- The mode takes the network namespace of the host, of another service or
of a container. -/
def SharesNamespace (mode : String) : Prop :=
  mode = "host" ∨ "service:".toList <+: mode.toList ∨
    "container:".toList <+: mode.toList

/-- The name of a network definition is absent or the one of the project. -/
def OwnNetwork (project : String) (network : String × Json) : Prop :=
  ∀ definition value,
    network.2 = .object definition →
      getMember definition "name" = some value →
        value = .null ∨ value = .text (project ++ "_" ++ network.1)

/-- What a model must not do with its networks. -/
structure Confined (validator : Validator) (config : Members)
    (services networks : Members) : Prop where
  egress :
    ∀ name service network,
      getMember services name = some service → Attached service network →
        ¬ Internal networks network → name ∈ validator.egressServices
  namespaces :
    ∀ name service mode,
      getMember services name = some service →
        getKey service "network_mode" = some (.text mode) →
          ¬ SharesNamespace mode
  defined :
    ∀ name service network,
      getMember services name = some service → Attached service network →
        network ∈ networks.map Prod.fst
  own : ∀ network ∈ networks, OwnNetwork validator.project network

/-! ## The network map -/

/-- The map gives every service a network. -/
theorem serviceNetworks_nonempty
    (validator : Validator) {name : String}
    (expected : name ∈ validator.expectedServices) :
    (validator.serviceNetworks.lookup name).getD [] ≠ [] := by
  have each :
      ∀ name ∈ validator.expectedServices,
        (validator.serviceNetworks.lookup name).getD [] ≠ [] := by
    cases validator with
    | base _ =>
        show
          ∀ name ∈ BaseCompose.expectedServices,
            (BaseCompose.baseServiceNetworks.lookup name).getD [] ≠ []
        decide
    | paper _ =>
        show
          ∀ name ∈ PaperCompose.paperExpectedServices,
            (PaperCompose.paperServiceNetworks.lookup name).getD [] ≠ []
        decide
  exact each name expected

/-- The map gives a network that is not internal to the egress services
only. -/
theorem egress_of_serviceNetworks
    (validator : Validator) {name network : String}
    (expected : name ∈ validator.expectedServices)
    (attached :
      network ∈ (validator.serviceNetworks.lookup name).getD [])
    (outside : network ∉ validator.internalNetworks) :
    name ∈ validator.egressServices := by
  have each :
      ∀ name ∈ validator.expectedServices,
        ∀ network ∈ (validator.serviceNetworks.lookup name).getD [],
          network ∉ validator.internalNetworks →
            name ∈ validator.egressServices := by
    cases validator with
    | base _ =>
        show
          ∀ name ∈ BaseCompose.expectedServices,
            ∀ network ∈
                (BaseCompose.baseServiceNetworks.lookup name).getD [],
              network ∉ BaseCompose.internalNetworks →
                name ∈ BaseCompose.egressServices
        decide
    | paper _ =>
        show
          ∀ name ∈ PaperCompose.paperExpectedServices,
            ∀ network ∈
                (PaperCompose.paperServiceNetworks.lookup name).getD [],
              network ∉ PaperCompose.internalNetworks →
                name ∈ PaperCompose.paperEgressServices
        decide
  exact each name expected network attached outside

/-- The map uses the networks of the project only. -/
theorem expected_of_serviceNetworks
    (validator : Validator) {name network : String}
    (expected : name ∈ validator.expectedServices)
    (attached :
      network ∈ (validator.serviceNetworks.lookup name).getD []) :
    network ∈ validator.expectedNetworks := by
  have each :
      ∀ name ∈ validator.expectedServices,
        ∀ network ∈ (validator.serviceNetworks.lookup name).getD [],
          network ∈ validator.expectedNetworks := by
    cases validator with
    | base _ =>
        show
          ∀ name ∈ BaseCompose.expectedServices,
            ∀ network ∈
                (BaseCompose.baseServiceNetworks.lookup name).getD [],
              network ∈ BaseCompose.expectedNetworks
        decide
    | paper _ =>
        show
          ∀ name ∈ PaperCompose.paperExpectedServices,
            ∀ network ∈
                (PaperCompose.paperServiceNetworks.lookup name).getD [],
              network ∈ PaperCompose.expectedNetworks
        decide
  exact each name expected network attached

/-! ## Accepted models -/

section Accepted

variable {validator : Validator} {config services networks : Members}
variable (model : AcceptedModel validator config services networks)

include model

theorem expected_of_getMember
    {name : String} {service : Json}
    (found : getMember services name = some service) :
    name ∈ validator.expectedServices :=
  ((sameSources_iff _ _).1 model.names name).1
    (List.mem_map_of_mem (mem_of_getMember found))

/-- A service is attached to the networks of the map and to no other. -/
theorem attached_iff
    {name : String} {service : Json}
    (found : getMember services name = some service) (network : String) :
    Attached service network ↔
      network ∈ (validator.serviceNetworks.lookup name).getD [] := by
  have expected := expected_of_getMember model found
  rcases (model.each _ (mem_of_getMember found)).networks with
    ⟨items, read, same⟩
  have listed :
      ∀ network, Json.text network ∈ items ↔
        network ∈ (validator.serviceNetworks.lookup name).getD [] := by
    intro network
    rw [same (.text network)]
    constructor
    · rintro ⟨text, member, equal⟩
      exact Json.text.inj equal ▸ member
    · exact fun member => ⟨network, member, rfl⟩
  constructor
  · rintro ⟨others, readOthers, attached⟩
    rw [read] at readOthers
    cases readOthers
    rcases attached with member | ⟨empty, _⟩
    · exact (listed network).1 member
    · rcases List.exists_mem_of_ne_nil _
          (serviceNetworks_nonempty validator expected) with
        ⟨other, member⟩
      have impossible := (listed other).2 member
      rw [empty] at impossible
      cases impossible
  · exact fun member => ⟨items, read, Or.inl ((listed network).2 member)⟩

/-- The networks of the allow-list are internal. -/
theorem internal_of_mem
    {network : String} (listed : network ∈ validator.internalNetworks) :
    Internal networks network := by
  have inside := model.topLevel.inside network listed
  unfold serviceOf serviceRaw at inside
  cases found : getMember networks network with
  | none =>
      rw [found] at inside
      cases inside
  | some value =>
      rw [found, Option.getD_some] at inside
      cases value with
      | object definition =>
          rw [orDict_object] at inside
          have read := Option.some.inj inside
          cases internal : getMember definition "internal" with
          | none =>
              rw [internal] at read
              cases read
          | some flag =>
              rw [internal, Option.getD_some] at read
              exact ⟨definition, found, read ▸ internal⟩
      | null => cases inside
      | bool value => cases value <;> cases inside
      | int value =>
          unfold orDict at inside
          split at inside <;> cases inside
      | float value =>
          unfold orDict at inside
          split at inside <;> cases inside
      | text value =>
          unfold orDict at inside
          split at inside <;> cases inside
      | array items =>
          unfold orDict at inside
          split at inside <;> cases inside

/-- No service has a mode that takes another namespace. -/
theorem not_sharesNamespace
    {name : String} {service : Json} {mode : String}
    (found : getMember services name = some service)
    (used : getKey service "network_mode" = some (.text mode)) :
    ¬ SharesNamespace mode := by
  rcases (model.each _ (mem_of_getMember found)).options "network_mode"
      (by decide) (by decide) with
    ⟨value, read, unset⟩
  rw [used] at read
  cases read
  have empty : mode = "" := of_decide_eq_true unset
  rw [empty]
  unfold SharesNamespace
  decide

theorem ownNetwork_of_mem
    {network : String × Json} (member : network ∈ networks) :
    OwnNetwork validator.project network := by
  rintro definition value object read
  rcases model.topLevel.own network member with ⟨name, found, own⟩
  rw [object, orDict_object] at found
  have same := Option.some.inj found
  rw [read, Option.getD_some] at same
  rw [same]
  cases name with
  | null => exact Or.inl rfl
  | text text => exact Or.inr (congrArg Json.text (of_decide_eq_true own))
  | _ => cases own

end Accepted

/-- An accepted model is confined. -/
theorem validated_confined
    (validator : Validator) (config lock : Members)
    (accepted : validator.validate config lock = some []) :
    ∃ services networks,
      servicesOf config = some services ∧
        topNetworks config = some networks ∧
          Confined validator config services networks := by
  rcases accepted_model accepted with ⟨services, networks, model⟩
  refine
    ⟨services, networks, model.services_eq, model.networks_eq,
      { egress := ?_
        namespaces := fun name service mode found =>
          not_sharesNamespace model found
        defined := ?_
        own := fun network member => ownNetwork_of_mem model member }⟩
  · intro name service network found attached outside
    have mapped := (attached_iff model found network).1 attached
    apply
      egress_of_serviceNetworks validator (expected_of_getMember model found)
        mapped
    exact fun listed => outside (internal_of_mem model listed)
  · intro name service network found attached
    have mapped := (attached_iff model found network).1 attached
    exact
      ((sameSources_iff _ _).1 model.topLevel.names network).2
        (expected_of_serviceNetworks validator
          (expected_of_getMember model found) mapped)

theorem validated_confined_lax :
    ∃ services networks,
      servicesOf LaxModel.laxConfig = some services ∧
        topNetworks LaxModel.laxConfig = some networks ∧
          Confined (.base LaxModel.plainSetting) LaxModel.laxConfig services
            networks :=
  validated_confined (.base LaxModel.plainSetting) LaxModel.laxConfig
    LaxModel.plainLock LaxModel.validateCompose_lax

end KairosDeploy.Compose.Egress
