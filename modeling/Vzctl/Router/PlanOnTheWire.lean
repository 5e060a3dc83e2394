import Vzctl.Router.RouteTypes

/-!
# Router plans on the wire

The supervisor sends a plan as JSON to the helper of the virtual machine,
which builds it again in `HelperControlServer.plan(from:)`.
-/

namespace Vzctl

namespace HelperControlServer

def decodeNetwork (item : JSONValue) : Except PlanError RouterNetwork :=
  match (item.field? "name").bind JSONValue.asString?,
      (item.field? "cidr").bind JSONValue.asString?,
      (item.field? "address").bind JSONValue.asString? with
  | some name, some cidr, some address => .ok {
      name := name
      cidr := cidr
      address := address
      -- The default of the initializer.
      natEgress := true }
  | _, _, _ => .error (.invalid "invalid router network")

/-- `Int(value)`. -/
def swiftIntOfDouble (value : Rat) : Except PlanError Int :=
  if -2 ^ 63 ≤ value.num ∧ value.num < 2 ^ 63 then
    .ok value.num
  else
    .error (.trap .overflow)

def decodePort (policy : String) (item : JSONValue) : Except PlanError Int :=
  match item with
  | .number value =>
      if value.den = 1 then
        swiftIntOfDouble value
      else
        .error (.invalid ("invalid port in policy " ++ policy))
  | _ => .error (.invalid ("invalid port in policy " ++ policy))

/-- The items of an optional array. -/
def itemsOf (item : JSONValue) (key : String) : List JSONValue :=
  ((item.field? key).bind JSONValue.asArray?).getD []

def decodeAllow (policy : String) (raw : JSONValue) :
    Except PlanError PolicyAllow :=
  match (raw.field? "to").bind JSONValue.asString?,
      (raw.field? "proto").bind JSONValue.asString? with
  | some target, some proto => do
      let ports ← (itemsOf raw "ports").mapM (decodePort policy)
      return ⟨target, proto, ports⟩
  | _, _ =>
      .error (.invalid ("invalid allow rule in policy " ++ policy))

def decodePolicy (item : JSONValue) : Except PlanError ForwardPolicy :=
  match (item.field? "name").bind JSONValue.asString?,
      (item.field? "network").bind JSONValue.asString?,
      (item.field? "forward").bind JSONValue.asString? with
  | some name, some network, some forward => do
      let allow ← (itemsOf item "allow").mapM (decodeAllow name)
      return {
        name := name
        network := network
        forward := forward
        allow := allow
        via := (item.field? "via").bind JSONValue.asString? }
  | _, _, _ => .error (.invalid "invalid forward policy")

/-- `plan(from:)`. -/
def plan (value : JSONValue) : Except PlanError RouterPlan :=
  match (value.field? "vm_id").bind JSONValue.asString?,
      (value.field? "networks").bind JSONValue.asArray? with
  | some vmID, some rawNetworks => do
      let networks ← rawNetworks.mapM decodeNetwork
      let policies ← (itemsOf value "policies").mapM decodePolicy
      RouterPlan.ofNetworks vmID networks policies []
  | _, _ => .error (.invalid "invalid route plan")

/-! ## Parts of a plan -/

theorem decodeNetwork_json (network : RouterNetwork) :
    decodeNetwork network.json =
      .ok { network with natEgress := true } := by
  simp [decodeNetwork, RouterNetwork.json, JSONValue.field?,
    JSONValue.asString?, List.lookup_cons]

theorem decodePort_json {policy : String} {port : Int}
    (isPort : 1 ≤ port ∧ port ≤ 65535) :
    decodePort policy (portJSON port) = .ok port := by
  have inRange : -2 ^ 63 ≤ port ∧ port < 2 ^ 63 := by omega
  have whole : ((port : Rat).den) = 1 := Rat.den_intCast port
  have number : ((port : Rat).num) = port := Rat.num_intCast port
  unfold portJSON decodePort
  simp only [whole, if_true, swiftIntOfDouble, number]
  rw [if_pos inRange]

theorem decodeAllow_json {policy : String} {networkNames : List String}
    {allow : PolicyAllow}
    (valid : RouterPlan.AllowValid networkNames allow) :
    decodeAllow policy allow.json = .ok allow := by
  have isPort : ∀ port ∈ allow.ports, 1 ≤ port ∧ port ≤ 65535 := by
    rcases valid.service with ⟨_, withoutPorts⟩ | ⟨_, _, inRange⟩
    · simp [withoutPorts]
    · exact inRange
  have ports : (allow.ports.map portJSON).mapM (decodePort policy) =
      .ok allow.ports := by
    rw [Outcome.mapM_map_eq_ok fun port member =>
      decodePort_json (isPort port member), List.map_id']
  simp [decodeAllow, PolicyAllow.json, JSONValue.field?, itemsOf,
    JSONValue.asString?, JSONValue.asArray?, List.lookup_cons, ports]

theorem decodePolicy_json {networkNames : List String}
    {policy : ForwardPolicy}
    (valid : RouterPlan.PolicyValid networkNames policy) :
    decodePolicy policy.json = .ok policy := by
  have allows : (policy.allow.map PolicyAllow.json).mapM
      (decodeAllow policy.name) = .ok policy.allow := by
    rw [Outcome.mapM_map_eq_ok fun allow member =>
      decodeAllow_json (valid.allows allow member), List.map_id']
  obtain ⟨name, network, forward, allow, via⟩ := policy
  cases via with
  | none =>
      simp [decodePolicy, ForwardPolicy.json, JSONValue.field?, itemsOf,
        JSONValue.asString?, JSONValue.asArray?, List.lookup_cons, allows]
  | some via =>
      simp [decodePolicy, ForwardPolicy.json, JSONValue.field?, itemsOf,
        JSONValue.asString?, JSONValue.asArray?, List.lookup_cons, allows]

end HelperControlServer

namespace RouterPlan

/-! ## The received plan -/

/-- A network as the helper receives it. -/
def receivedNetwork (network : RouterNetwork) : RouterNetwork :=
  { network with natEgress := true }

theorem validate_received (networks : List RouterNetwork)
    (policies : List ForwardPolicy) :
    validate (networks.map receivedNetwork) policies =
      validate networks policies := by
  have names : (networks.map receivedNetwork).map (·.name) =
      networks.map (·.name) := by
    simp [receivedNetwork, Function.comp_def]
  have checked : forM (networks.map receivedNetwork) validateNetwork =
      forM networks validateNetwork := by
    exact List.forM_map
  have addresses : validateAddresses (networks.map receivedNetwork) =
      validateAddresses networks := by
    have owns : ownsRouterAddress ∘ receivedNetwork =
        ownsRouterAddress := rfl
    have guest : (fun network => !ownsRouterAddress network) ∘
        receivedNetwork = fun network => !ownsRouterAddress network := rfl
    unfold validateAddresses
    simp only [List.filter_map, owns, guest, List.length_map,
      List.isEmpty_map]
  unfold validate
  rw [names, checked, addresses, List.length_map]

/-- The plan that the helper builds: without the static routes, and with NAT
egress on every network. -/
def received (plan : RouterPlan) : RouterPlan where
  vmID := plan.vmID
  networks := plan.networks.map receivedNetwork
  policies := plan.policies
  staticRoutes := []
  networksSorted := List.pairwise_map.mpr plan.networksSorted
  policiesSorted := plan.policiesSorted
  routesSorted := List.Pairwise.nil
  validated := by rw [validate_received, plan.validated]

theorem make_eq_ok {vmID : String} {networks : List RouterNetwork}
    {networksSorted : networks.Pairwise fun left right =>
      left.name ≤ right.name}
    {policies : List ForwardPolicy} {staticRoutes : List StaticRoute}
    (policiesSorted : policies.Pairwise fun left right =>
      left.name ≤ right.name)
    (routesSorted : staticRoutes.Pairwise fun left right =>
      left.key ≤ right.key)
    (validated : validate networks policies = .ok ()) :
    make vmID networks networksSorted policies staticRoutes =
      .ok ⟨vmID, networks, policies, staticRoutes, networksSorted,
        policiesSorted, routesSorted, validated⟩ := by
  have policiesKept : sortedBy (fun policy : ForwardPolicy => policy.name)
      policies = policies :=
    SortedBy.sortedBy_of_pairwise policiesSorted
  have routesKept : sortedBy StaticRoute.key staticRoutes = staticRoutes :=
    SortedBy.sortedBy_of_pairwise routesSorted
  unfold make
  split
  · rename_i failed
    rw [policiesKept, validated] at failed
    cases failed
  · simp [policiesKept, routesKept]

theorem plan_json (plan : RouterPlan) :
    HelperControlServer.plan plan.json = .ok plan.received := by
  have networks : (plan.networks.map RouterNetwork.json).mapM
      HelperControlServer.decodeNetwork =
        .ok (plan.networks.map receivedNetwork) :=
    Outcome.mapM_map_eq_ok fun network _ =>
      HelperControlServer.decodeNetwork_json network
  have policies : (plan.policies.map ForwardPolicy.json).mapM
      HelperControlServer.decodePolicy = .ok plan.policies := by
    rw [Outcome.mapM_map_eq_ok fun policy member =>
      HelperControlServer.decodePolicy_json
        (plan.valid.policies policy member), List.map_id']
  have networksKept : sortedBy (fun network : RouterNetwork => network.name)
      (plan.networks.map receivedNetwork) =
        plan.networks.map receivedNetwork :=
    SortedBy.sortedBy_of_pairwise plan.received.networksSorted
  have built : ofNetworks plan.vmID (plan.networks.map receivedNetwork)
      plan.policies [] = .ok plan.received := by
    unfold ofNetworks
    simp only [networksKept]
    exact make_eq_ok plan.policiesSorted List.Pairwise.nil
      plan.received.validated
  simp [HelperControlServer.plan, json, JSONValue.field?,
    HelperControlServer.itemsOf, JSONValue.asString?, JSONValue.asArray?,
    List.lookup_cons, networks, policies]
  exact built

/-- The plan has nothing that the wire loses. -/
def SurvivesWire (plan : RouterPlan) : Prop :=
  (∀ network ∈ plan.networks, network.natEgress = true) ∧
    plan.staticRoutes = []

theorem receivedNetwork_eq_self {network : RouterNetwork} :
    receivedNetwork network = network ↔ network.natEgress = true := by
  constructor
  · intro same
    rw [← same]
    rfl
  · intro egress
    rw [receivedNetwork, ← egress]

theorem received_eq_iff {plan : RouterPlan} :
    plan.received = plan ↔ plan.SurvivesWire := by
  constructor
  · intro same
    constructor
    · intro network member
      rw [← same] at member
      obtain ⟨sent, _, rfl⟩ := List.mem_map.mp member
      rfl
    · rw [← same]
      rfl
  · rintro ⟨egress, noRoutes⟩
    have networksKept : plan.networks.map receivedNetwork =
        plan.networks := by
      calc
        plan.networks.map receivedNetwork = plan.networks.map id :=
          List.map_congr_left fun network member =>
            receivedNetwork_eq_self.mpr (egress network member)
        _ = plan.networks := List.map_id _
    obtain ⟨vmID, networks, policies, staticRoutes, _, _, _, _⟩ := plan
    simp only [received, RouterPlan.mk.injEq, true_and]
    exact ⟨networksKept, noRoutes.symm⟩

/-- The helper has the plan, its firewall and its routes exactly when every
network has NAT egress and there is no static route. -/
theorem plan_survives_wire_iff (plan : RouterPlan) :
    (∃ received, HelperControlServer.plan plan.json = .ok received ∧
      received = plan ∧ received.nftables = plan.nftables ∧
        received.json = plan.json) ↔
      plan.SurvivesWire := by
  rw [plan_json, ← received_eq_iff]
  constructor
  · rintro ⟨other, decoded, isPlan, _, _⟩
    exact (Except.ok.inj decoded).trans isPlan
  · intro same
    exact ⟨plan.received, rfl, same, by rw [same], by rw [same]⟩

/-- A router between two networks without NAT egress, with a policy for the
internet and a route to a network behind a Docker host. -/
def hostOnlyRouter : Except PlanError RouterPlan :=
  ofNetworks "edge/router"
    [⟨"lan", "10.90.0.0/24", "10.90.0.2", false⟩,
      ⟨"dmz", "10.80.0.0/24", "10.80.0.2", false⟩]
    [{
      name := "forward-only"
      network := "lan"
      forward := "deny-all"
      allow := [⟨"internet", "tcp", [80]⟩]
      via := none }]
    [⟨"10.91.0.0/24", "10.80.0.10"⟩]

/-- The helper masquerades for this router, and its route is lost. -/
theorem hostOnlyRouter_is_changed :
    ∃ plan received, hostOnlyRouter = .ok plan ∧
      HelperControlServer.plan plan.json = .ok received ∧
      received ≠ plan ∧ received.nftables ≠ plan.nftables ∧
      plan.staticRoutes ≠ [] ∧ received.staticRoutes = [] := by
  have accepted : hostOnlyRouter.isOk = true := by
    rfl
  obtain ⟨plan, built⟩ := Outcome.exists_of_isOk accepted
  have changed : ∀ plan, hostOnlyRouter = .ok plan →
      plan.received ≠ plan ∧ plan.received.nftables ≠ plan.nftables ∧
        plan.staticRoutes ≠ [] ∧ plan.received.staticRoutes = [] := by
    decide +kernel
  exact ⟨plan, plan.received, built, plan_json plan, changed plan built⟩

end RouterPlan

end Vzctl
