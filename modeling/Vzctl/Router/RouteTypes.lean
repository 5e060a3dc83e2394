import Mathlib.Data.Prod.Lex
import Mathlib.Data.String.Basic
import Vzctl.Lib.SortedBy
import Vzctl.Network.IPv4CIDR
import Vzctl.Network.NetworkDatabase

/-!
# Router plans

The types of `RouteTypes.swift`: a router with its networks and forward
policies, the checks of the two initializers, the plan as JSON and as the text
of an nftables ruleset.
-/

namespace Vzctl

inductive RouteApplyError where
  | invalid (message : String)
  | unavailable (message : String)
  | guest (message : String)
  deriving DecidableEq, Repr

/-- What the initializers and the decoder of a plan throw, and what stops
them. -/
inductive PlanError where
  | route (error : RouteApplyError)
  | network (error : NetworkValidationError)
  | trap (trap : Trap)
  deriving DecidableEq, Repr

/-- `throw RouteApplyError.invalid(message)`. -/
def PlanError.invalid (message : String) : PlanError :=
  .route (.invalid message)

/-- The `to` of a policy for everything outside. -/
def internetPolicyTarget : String := "internet"

/-- Non-RFC1918 / non-link-local destinations for `to: internet` nft rules. -/
def internetDestinationExpr : String :=
  "!= \x7b 10.0.0.0/8, 172.16.0.0/12, 192.168.0.0/16, 127.0.0.0/8, " ++
    "169.254.0.0/16 \x7d"

structure RouterNetwork where
  name : String
  cidr : String
  address : String
  natEgress : Bool
  deriving DecidableEq, Repr

def RouterNetwork.json (network : RouterNetwork) : JSONValue :=
  .object [
    ("name", .string network.name),
    ("cidr", .string network.cidr),
    ("address", .string network.address),
    ("nat_egress", .bool network.natEgress),
    ("host_gateway_dns", .string (IPv4CIDR.gateway network.cidr)),
    ("router_gateway", .string (IPv4CIDR.router network.cidr))]

/-- `.number(Double($0))`. -/
def portJSON (port : Int) : JSONValue := .number port

structure PolicyAllow where
  target : String
  proto : String
  ports : List Int
  deriving DecidableEq, Repr

def PolicyAllow.json (allow : PolicyAllow) : JSONValue :=
  .object [
    ("to", .string allow.target),
    ("proto", .string allow.proto),
    ("ports", .array (allow.ports.map portJSON))]

structure ForwardPolicy where
  name : String
  network : String
  forward : String
  allow : List PolicyAllow
  /-- Router VM id or config basename that must apply this policy. -/
  via : Option String
  deriving DecidableEq, Repr

def ForwardPolicy.json (policy : ForwardPolicy) : JSONValue :=
  .object ([
    ("name", .string policy.name),
    ("network", .string policy.network),
    ("forward", .string policy.forward),
    ("allow", .array (policy.allow.map PolicyAllow.json))] ++
    match policy.via with
    | some via => [("via", .string via)]
    | none => [])

structure StaticRoute where
  destination : String
  via : String
  deriving DecidableEq, Repr

namespace StaticRoute

def json (route : StaticRoute) : JSONValue :=
  .object [
    ("destination", .string route.destination),
    ("via", .string route.via)]

/-- Routes are ordered by destination, then by `via`. -/
def key (route : StaticRoute) : Lex (String × String) :=
  toLex (route.destination, route.via)

end StaticRoute

structure ActiveForwardRule where
  policy : String
  source : String
  target : String
  proto : String
  ports : List Int
  sourceCIDR : String
  destinationCIDR : String
  deriving DecidableEq, Repr

namespace ActiveForwardRule

variable (rule : ActiveForwardRule)

def isInternet : Bool := rule.target = internetPolicyTarget

def json : JSONValue :=
  .object [
    ("policy", .string rule.policy),
    ("from", .string rule.source),
    ("to", .string rule.target),
    ("proto", .string rule.proto),
    ("ports", .array (rule.ports.map portJSON)),
    ("source_cidr", .string rule.sourceCIDR),
    ("destination_cidr", .string rule.destinationCIDR),
    ("action", .string "accept")]

/-- The destination in the line of the forward chain. -/
def destinationText : String :=
  if rule.isInternet then
    "ip daddr " ++ internetDestinationExpr
  else
    "ip daddr " ++ rule.destinationCIDR

/-- Protocol and ports in the line of the forward chain. -/
def serviceText : String :=
  if rule.proto = "icmp" then
    " ip protocol icmp"
  else
    " " ++ rule.proto ++
      match rule.ports with
      | [port] => " dport " ++ toString port
      | ports =>
          " dport \x7b " ++ ", ".intercalate (ports.map toString) ++ " \x7d"

/-- The line of the forward chain. -/
def expression : String :=
  "    ip saddr " ++ rule.sourceCIDR ++ " " ++ rule.destinationText ++
    rule.serviceText ++ " accept comment \"vzctl:" ++ rule.policy ++ "\""

end ActiveForwardRule

/-! ## The checks of a plan -/

namespace RouterPlan

/-- `guard condition else { throw RouteApplyError.invalid(message) }`. -/
def require (condition : Bool) (message : String) : Except PlanError Unit :=
  if condition then .ok () else .error (.invalid message)

/-- Letters, digits, dot, dash and underscore. -/
def policyNameByte (byte : UInt8) : Bool :=
  (48 ≤ byte ∧ byte ≤ 57) ∨ (65 ≤ byte ∧ byte ≤ 90) ∨
    (97 ≤ byte ∧ byte ≤ 122) ∨ byte ∈ [45, 46, 95]

def validateTarget (networkNames : List String) (policy : String)
    (allow : PolicyAllow) : Except PlanError Unit :=
  -- With NAT egress the router masquerades; without, it only forwards.
  if allow.target = internetPolicyTarget then
    .ok ()
  else
    require (networkNames.contains allow.target)
      ("policy " ++ policy ++
        " references unattached destination network " ++ allow.target)

def validateService (policy : String) (allow : PolicyAllow) :
    Except PlanError Unit :=
  if allow.proto = "icmp" then
    require allow.ports.isEmpty
      ("policy " ++ policy ++ " ICMP allow must not declare ports")
  else if allow.proto = "tcp" ∨ allow.proto = "udp" then
    require (!allow.ports.isEmpty &&
        allow.ports.all fun port => 1 ≤ port ∧ port ≤ 65535)
      ("policy " ++ policy ++ " TCP/UDP allow requires ports 1...65535")
  else
    .error (.invalid
      ("policy " ++ policy ++ " proto must be tcp, udp, or icmp"))

def validateAllow (networkNames : List String) (policy : String)
    (allow : PolicyAllow) : Except PlanError Unit := do
  validateTarget networkNames policy allow
  validateService policy allow

def validatePolicy (networkNames : List String) (policy : ForwardPolicy) :
    Except PlanError Unit := do
  require (!policy.name.isEmpty &&
      policy.name.toUTF8.data.toList.all policyNameByte)
    ("policy name may only contain letters, digits, dot, dash, " ++
      "and underscore")
  require (networkNames.contains policy.network)
    ("policy " ++ policy.name ++
      " references unattached source network " ++ policy.network)
  require (policy.forward = "deny-all")
    ("policy " ++ policy.name ++ " forward must be deny-all")
  forM policy.allow (validateAllow networkNames policy.name)

def validateNetwork (network : RouterNetwork) : Except PlanError Unit :=
  match IPv4CIDR.parse network.cidr with
  | .ok _ => .ok ()
  | .error failure => .error (.network failure)

/-- The router is at offset 2 of the network. -/
def ownsRouterAddress (network : RouterNetwork) : Bool :=
  network.address = IPv4CIDR.router network.cidr

def validateAddresses (networks : List RouterNetwork) :
    Except PlanError Unit :=
  let routerOwned := networks.filter ownsRouterAddress
  let parentOwned := networks.filter fun network =>
    !ownsRouterAddress network
  if parentOwned.isEmpty then
    require (routerOwned.length = networks.length)
      "router plan requires .2 on every network"
  else
    require (!routerOwned.isEmpty)
      "docker router plan requires at least one .2 attachment"

def validate (networks : List RouterNetwork)
    (policies : List ForwardPolicy) : Except PlanError Unit := do
  require (2 ≤ networks.length) "router plan requires at least two networks"
  require (networks.map (·.name)).Nodup
    "router plan contains duplicate networks"
  forM networks validateNetwork
  validateAddresses networks
  require (policies.map (·.name)).Nodup "policy names must be unique"
  forM policies (validatePolicy (networks.map (·.name)))

end RouterPlan

/-- A plan that passed the checks, in the order that both initializers give
it. -/
structure RouterPlan where
  vmID : String
  networks : List RouterNetwork
  policies : List ForwardPolicy
  staticRoutes : List StaticRoute
  networksSorted : networks.Pairwise fun left right => left.name ≤ right.name
  policiesSorted : policies.Pairwise fun left right => left.name ≤ right.name
  routesSorted : staticRoutes.Pairwise fun left right => left.key ≤ right.key
  validated : RouterPlan.validate networks policies = .ok ()
  deriving DecidableEq

namespace RouterPlan

/-- The rest of both initializers, once the networks are in order. -/
def make (vmID : String) (networks : List RouterNetwork)
    (networksSorted : networks.Pairwise fun left right =>
      left.name ≤ right.name)
    (policies : List ForwardPolicy) (staticRoutes : List StaticRoute) :
    Except PlanError RouterPlan :=
  match validated : validate networks
      (sortedBy (fun policy : ForwardPolicy => policy.name) policies) with
  | .error failure => .error failure
  | .ok () => .ok {
      vmID := vmID
      networks := networks
      policies := sortedBy (fun policy => policy.name) policies
      staticRoutes := sortedBy StaticRoute.key staticRoutes
      networksSorted := networksSorted
      policiesSorted := SortedBy.pairwise_sortedBy
      routesSorted := SortedBy.pairwise_sortedBy
      validated := validated }

/-- `init(vmID:networks:policies:staticRoutes:)`. -/
def ofNetworks (vmID : String) (networks : List RouterNetwork)
    (policies : List ForwardPolicy) (staticRoutes : List StaticRoute) :
    Except PlanError RouterPlan :=
  make vmID (sortedBy (fun network : RouterNetwork => network.name) networks)
    SortedBy.pairwise_sortedBy policies staticRoutes

/-- The network of a plan that an attachment stands for. -/
def routerNetwork (vmID : String) (isDockerRouter : Bool)
    (record? : String → Option NetworkRecord)
    (attachment : NetworkAttachmentRecord) :
    Except PlanError RouterNetwork :=
  match record? attachment.networkID with
  | none => .error (.invalid
      ("router attachment references unknown network " ++
        attachment.networkName))
  | some network =>
      if network.name = attachment.networkName then
        let expected := IPv4CIDR.router network.cidr
        if (network.isDockerBackend || !isDockerRouter) &&
            attachment.ip ≠ expected then
          .error (.invalid
            ("router VM " ++ vmID ++ " must use " ++ expected ++ " on " ++
              network.name ++ ", got " ++ attachment.ip))
        else
          .ok {
            name := network.name
            cidr := network.cidr
            address := attachment.ip
            natEgress := network.natEgress }
      else
        .error (.invalid "router attachment network identity mismatch")

theorem routerNetwork_name {vmID : String} {isDockerRouter : Bool}
    {record? : String → Option NetworkRecord}
    (attachment : NetworkAttachmentRecord) (network : RouterNetwork)
    (built : routerNetwork vmID isDockerRouter record? attachment =
      .ok network) : network.name = attachment.networkName := by
  unfold routerNetwork at built
  split at built
  · cases built
  · split at built
    · rename_i sameName
      dsimp only at built
      split at built
      · cases built
      · cases built
        exact sameName
    · cases built

theorem sorted_of_selected {vmID : String} {isDockerRouter : Bool}
    {record? : String → Option NetworkRecord}
    {attachments : List NetworkAttachmentRecord}
    {networks : List RouterNetwork}
    (built : (sortedBy (fun attachment : NetworkAttachmentRecord =>
        attachment.networkName) attachments).mapM
      (routerNetwork vmID isDockerRouter record?) = .ok networks) :
    networks.Pairwise fun left right => left.name ≤ right.name := by
  have names := Outcome.map_eq_of_mapM
    (fun attachment _ => routerNetwork_name attachment) built
  have sorted : (sortedBy (fun attachment : NetworkAttachmentRecord =>
      attachment.networkName) attachments).Pairwise fun left right =>
        left.networkName ≤ right.networkName :=
    SortedBy.pairwise_sortedBy
  have sortedNames : (networks.map (·.name)).Pairwise (· ≤ ·) := by
    rw [names]
    exact List.pairwise_map.mpr sorted
  exact List.pairwise_map.mp sortedNames

/-- `init(vmID:networkRecords:attachments:policies:staticRoutes:)`. -/
def ofRecords (vmID : String) (networkRecords : List NetworkRecord)
    (attachments : List NetworkAttachmentRecord)
    (policies : List ForwardPolicy) (staticRoutes : List StaticRoute) :
    Except PlanError RouterPlan :=
  if (networkRecords.map (·.id)).Nodup then
    let record? := fun id => networkRecords.find? fun record => record.id = id
    let selected := attachments.filter fun attachment =>
      attachment.vmID = vmID
    if 2 ≤ selected.length then
      let isDockerRouter := selected.any fun attachment =>
        (record? attachment.networkID).any NetworkRecord.isDockerBackend
      match built : (sortedBy (fun attachment : NetworkAttachmentRecord =>
          attachment.networkName) selected).mapM
            (routerNetwork vmID isDockerRouter record?) with
      | .error failure => .error failure
      | .ok networks =>
          make vmID networks (sorted_of_selected built) policies staticRoutes
    else
      .error (.invalid
        ("router VM " ++ vmID ++ " requires at least two network attachments"))
  else
    .error (.invalid "network inventory contains duplicate IDs")

/-! ## Rules, JSON and nftables text -/

section Output

variable (plan : RouterPlan)

/-- `cidrs[name]!`.  The name is always that of a network of the plan
(`cidrs_of_mem`). -/
def cidrs (name : String) : String :=
  ((plan.networks.find? fun network => network.name = name).map
    (·.cidr)).getD ""

def activeRule (policy : ForwardPolicy) (allow : PolicyAllow) :
    ActiveForwardRule where
  policy := policy.name
  source := policy.network
  target := allow.target
  proto := allow.proto
  ports := allow.ports
  sourceCIDR := plan.cidrs policy.network
  destinationCIDR :=
    if allow.target = internetPolicyTarget then
      internetPolicyTarget
    else
      plan.cidrs allow.target

def rules : List ActiveForwardRule :=
  plan.policies.flatMap fun policy =>
    policy.allow.map fun allow => plan.activeRule policy allow

def json : JSONValue :=
  .object [
    ("apiVersion", .string "vzctl.dev/router/v1"),
    ("vm_id", .string plan.vmID),
    ("networks", .array (plan.networks.map RouterNetwork.json)),
    ("forward_policy", .string "drop"),
    ("policies", .array (plan.policies.map ForwardPolicy.json)),
    ("rules", .array (plan.rules.map ActiveForwardRule.json)),
    ("static_routes", .array (plan.staticRoutes.map StaticRoute.json))]

/-- `Array(Set(rules.filter(\.isInternet).map(\.sourceCIDR))).sorted()`. -/
def internetSources : List String :=
  sortedBy id
    ((plan.rules.filter (·.isInternet)).map (·.sourceCIDR)).dedup

def hasNatEgress : Bool := plan.networks.any (·.natEgress)

def nftables : String :=
  "\n".intercalate
    (["table inet vzctl \x7b",
      "  chain forward \x7b",
      "    type filter hook forward priority 0; policy drop;",
      "    ct state established,related accept comment \"vzctl:return\""] ++
      plan.rules.map ActiveForwardRule.expression ++
      ["  \x7d"] ++
      (if !plan.internetSources.isEmpty && plan.hasNatEgress then
        ["  chain postrouting \x7b",
          "    type nat hook postrouting priority srcnat; policy accept;"] ++
          plan.internetSources.map (fun cidr =>
            "    ip saddr " ++ cidr ++
              " masquerade comment \"vzctl:internet\"") ++
          ["  \x7d"]
      else
        []) ++
      ["\x7d", ""])

end Output

/-! ## What the checks establish -/

section Validated

theorem require_eq_ok_iff {condition : Bool} {message : String}
    {done : Unit} :
    require condition message = .ok done ↔ condition = true := by
  cases condition with
  | true => simp [require]
  | false => simp [require]

/-- What `validateAllow` establishes. -/
structure AllowValid (networkNames : List String) (allow : PolicyAllow) :
    Prop where
  attached : allow.target ≠ internetPolicyTarget →
    allow.target ∈ networkNames
  service :
    allow.proto = "icmp" ∧ allow.ports = [] ∨
      (allow.proto = "tcp" ∨ allow.proto = "udp") ∧ allow.ports ≠ [] ∧
        ∀ port ∈ allow.ports, 1 ≤ port ∧ port ≤ 65535

theorem attached_of_validateTarget {networkNames : List String}
    {policy : String} {allow : PolicyAllow}
    (accepted : validateTarget networkNames policy allow = .ok ())
    (notInternet : allow.target ≠ internetPolicyTarget) :
    allow.target ∈ networkNames := by
  rw [validateTarget, if_neg notInternet, require_eq_ok_iff] at accepted
  simpa using accepted

theorem service_of_validateService {policy : String} {allow : PolicyAllow}
    (accepted : validateService policy allow = .ok ()) :
    allow.proto = "icmp" ∧ allow.ports = [] ∨
      (allow.proto = "tcp" ∨ allow.proto = "udp") ∧ allow.ports ≠ [] ∧
        ∀ port ∈ allow.ports, 1 ≤ port ∧ port ≤ 65535 := by
  unfold validateService at accepted
  by_cases icmp : allow.proto = "icmp"
  · rw [if_pos icmp, require_eq_ok_iff, List.isEmpty_iff] at accepted
    exact .inl ⟨icmp, accepted⟩
  · rw [if_neg icmp] at accepted
    by_cases tcpOrUDP : allow.proto = "tcp" ∨ allow.proto = "udp"
    · rw [if_pos tcpOrUDP, require_eq_ok_iff] at accepted
      refine .inr ⟨tcpOrUDP, ?_⟩
      simpa using accepted
    · rw [if_neg tcpOrUDP] at accepted
      cases accepted

theorem allowValid_of_validateAllow {networkNames : List String}
    {policy : String} {allow : PolicyAllow}
    (accepted : validateAllow networkNames policy allow = .ok ()) :
    AllowValid networkNames allow := by
  obtain ⟨_, target, service⟩ := Outcome.bind_eq_ok_iff.mp accepted
  exact ⟨attached_of_validateTarget target,
    service_of_validateService service⟩

/-- What `validatePolicy` establishes. -/
structure PolicyValid (networkNames : List String)
    (policy : ForwardPolicy) : Prop where
  attached : policy.network ∈ networkNames
  denyAll : policy.forward = "deny-all"
  allows : ∀ allow ∈ policy.allow, AllowValid networkNames allow

theorem policyValid_of_validatePolicy {networkNames : List String}
    {policy : ForwardPolicy}
    (accepted : validatePolicy networkNames policy = .ok ()) :
    PolicyValid networkNames policy := by
  unfold validatePolicy at accepted
  obtain ⟨_, _, accepted⟩ := Outcome.bind_eq_ok_iff.mp accepted
  obtain ⟨_, attached, accepted⟩ := Outcome.bind_eq_ok_iff.mp accepted
  obtain ⟨_, denyAll, allowed⟩ := Outcome.bind_eq_ok_iff.mp accepted
  have eachAllowed := Outcome.forM_eq_ok_iff.mp allowed
  exact {
    attached := by simpa [require_eq_ok_iff] using attached
    denyAll := by simpa [require_eq_ok_iff] using denyAll
    allows := fun allow member =>
      allowValid_of_validateAllow (eachAllowed allow member) }

variable (plan : RouterPlan)

/-- What is known about every plan. -/
structure Valid (plan : RouterPlan) : Prop where
  namesUnique : (plan.networks.map (·.name)).Nodup
  cidrsParsed : ∀ network ∈ plan.networks,
    ∃ cidr, IPv4CIDR.parse network.cidr = .ok cidr
  policies : ∀ policy ∈ plan.policies,
    PolicyValid (plan.networks.map (·.name)) policy

theorem valid : plan.Valid := by
  have accepted := plan.validated
  unfold validate at accepted
  obtain ⟨_, _, accepted⟩ := Outcome.bind_eq_ok_iff.mp accepted
  obtain ⟨_, unique, accepted⟩ := Outcome.bind_eq_ok_iff.mp accepted
  obtain ⟨_, parsed, accepted⟩ := Outcome.bind_eq_ok_iff.mp accepted
  obtain ⟨_, _, accepted⟩ := Outcome.bind_eq_ok_iff.mp accepted
  obtain ⟨_, _, policies⟩ := Outcome.bind_eq_ok_iff.mp accepted
  have eachParsed := Outcome.forM_eq_ok_iff.mp parsed
  have eachPolicy := Outcome.forM_eq_ok_iff.mp policies
  refine ⟨?_, ?_, ?_⟩
  · simpa [require_eq_ok_iff] using unique
  · intro network member
    have checked := eachParsed network member
    unfold validateNetwork at checked
    split at checked
    · exact ⟨_, ‹_›⟩
    · cases checked
  · intro policy member
    exact policyValid_of_validatePolicy (eachPolicy policy member)

variable {plan}

theorem cidrs_of_mem {network : RouterNetwork}
    (member : network ∈ plan.networks) :
    plan.cidrs network.name = network.cidr := by
  have found : plan.networks.find?
      (fun other => other.name = network.name) = some network :=
    (UniqueKey.find?_eq_some_iff plan.valid.namesUnique).mpr ⟨member, rfl⟩
  rw [cidrs, found]
  rfl

end Validated

end RouterPlan

end Vzctl
