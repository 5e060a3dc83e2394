import Mathlib.Data.List.DropRight
import Vzctl.Router.PlanOnTheWire
import Vzctl.Supervisor.EdgeRPC
import Vzctl.Supervisor.NetworkFallback

/-!
# Route calls of the supervisor

`route.apply`, `route.plan` and `route.status` of `SupervisorRPCNetwork`: the
policies of the call are divided among the running routers of a project, and
every router gets its plan from its helper.  The manifests of the bundles and
the answers of the helpers are inputs.  No combining mark stands behind the
slash of an id.
-/

namespace Vzctl

namespace ForwardPolicy

/-- The part behind the last slash. -/
def configKey (vmID : String) : String :=
  String.ofList (vmID.toList.rtakeWhile (· ≠ '/'))

/-- Match `policies.*.via` (config key or full runtime id) to a running
router. -/
def matchesVia (vmID via : String) : Bool :=
  vmID = via || ('/' ∈ vmID.toList && configKey vmID = via)

end ForwardPolicy

namespace DockerBackendRoutes

section

variable (networks : List NetworkRecord)
  (attachments : List NetworkAttachmentRecord)

/-- `byID`: a network whose id no other network has. -/
def byID (networkID : String) : Option NetworkRecord :=
  match networks.filter (·.id = networkID) with
  | [network] => some network
  | _ => none

/-- `byVM`; a missing entry has no attachments. -/
def byVM (vmID : String) : List NetworkAttachmentRecord :=
  attachments.filter (·.vmID = vmID)

/-- `byID[$0.networkID]?.isDockerBackend == false`. -/
def isParent (attachment : NetworkAttachmentRecord) : Bool :=
  (byID networks attachment.networkID).any (!·.isDockerBackend)

/-- The routes to one docker-backend network. -/
def routesTo (vmID : String) (network : NetworkRecord) : List StaticRoute :=
  match attachments.find? (·.networkID = network.id) with
  | none => []
  | some owner =>
      if owner.vmID = vmID then
        []
      else
        let ownerParents :=
          (byVM attachments owner.vmID).filter (isParent networks)
        let routerParents :=
          ((byVM attachments vmID).filter (isParent networks)).map (·.networkID)
        (ownerParents.filter fun parent =>
            routerParents.contains parent.networkID).map fun parent =>
          ⟨network.cidr, parent.ip⟩

/-- Routes that `seen` does not have, each once. -/
def unseen (seen : List String) : List StaticRoute → List StaticRoute
  | [] => []
  | route :: rest =>
      let key := route.destination ++ "->" ++ route.via
      if key ∈ seen then
        unseen seen rest
      else
        route :: unseen (key :: seen) rest

def staticRoutes (vmID : String) : List StaticRoute :=
  unseen []
    ((networks.filter (·.isDockerBackend)).flatMap
      (routesTo networks attachments vmID))

end

end DockerBackendRoutes

namespace RouteRPC

open Procedure

abbrev Fields := EdgeRPC.Fields

inductive RouterOperation where
  | apply
  | plan
  | status
  deriving DecidableEq, Repr

/-- What stops a call: the checks of a plan, of its parameters, or any other
error, with its description. -/
inductive Failure where
  | plan (failure : PlanError)
  | params (failure : RPCFailure)
  | other (description : String)
  deriving DecidableEq, Repr

/-- `throw RouteApplyError.invalid(message)`. -/
def Failure.invalid (message : String) : Failure :=
  .plan (.invalid message)

def require (condition : Bool) (message : String) : Except Failure Unit :=
  if condition then .ok () else .error (.invalid message)

/-- What a call finds. -/
structure Surroundings where
  /-- `helpers.values`. -/
  helpers : List HelperRecord
  snapshot : Except Failure NetworkSnapshot
  /-- `vm.json` of a bundle. -/
  manifest : String → Except Failure JSONValue
  /-- What the helper of a VM answers to the call. -/
  helper : String → Except Failure JSONValue

/-! ## Parameters -/

/-- `forwardPolicies(from:)`; the helper reads an item the same way. -/
def forwardPolicies : Option JSONValue → Except Failure (List ForwardPolicy)
  | none => .ok []
  | some (.array items) =>
      (items.mapM HelperControlServer.decodePolicy).mapError .plan
  | some _ => .error (.invalid "policies must be an array")

/-- `root["roles"] as? [String]`. -/
def rolesOf (manifest : JSONValue) : Option (List String) :=
  ((manifest.field? "roles").bind JSONValue.asArray?).bind fun roles =>
    roles.mapM JSONValue.asString?

variable (surroundings : Surroundings)

def vmHasRouterRole (bundle : String) : Except Failure Bool := do
  let manifest ← surroundings.manifest bundle
  match rolesOf manifest with
  | some roles => return roles.contains "router"
  | none =>
      throw (.invalid
        ("VM manifest " ++ bundle ++ "/vm.json has no roles array"))

/-- `vmID.hasPrefix(project + "/")`. -/
def isInProject (project vmID : String) : Bool :=
  (project ++ "/").toList.isPrefixOf vmID.toList

def checkProject (requestedRouter : Option String) (project : String) :
    Except Failure Unit := do
  require (NetworkRegistry.isProjectText project.toList)
    "invalid route project"
  match requestedRouter with
  | some router =>
      require (isInProject project router)
        ("router " ++ router ++ " is outside project " ++ project)
  | none => return ()

def isRequested (requestedRouter project : Option String)
    (record : HelperRecord) : Except Failure Bool :=
  if project.any fun project => !isInProject project record.vmID then
    .ok false
  else
    match requestedRouter with
    | some router => .ok (record.vmID = router)
    | none => vmHasRouterRole surroundings record.bundle

def routeRouterRecords (records : List HelperRecord)
    (requestedRouter project : Option String)
    (operation : RouterOperation) : Except Failure (List HelperRecord) := do
  match project with
  | some project => checkProject requestedRouter project
  | none => pure ()
  require (operation = .status || project.isSome || requestedRouter.isSome)
    "route plan/apply requires project or explicit router"
  records.filterM (isRequested surroundings requestedRouter project)

/-- What is known of a call before its plans are made. -/
structure Request where
  policies : List ForwardPolicy
  snapshot : NetworkSnapshot
  /-- In the order of their ids. -/
  routers : List HelperRecord

def paramFields : Option JSONValue → Except Failure Fields
  | none => .ok []
  | some params => (EdgeRPC.networkParams params).mapError .params

def requestPolicies (operation : RouterOperation) (fields : Fields) :
    Except Failure (List ForwardPolicy) :=
  if operation = .status then .ok []
  else forwardPolicies (fields.lookup "policies")

def request (operation : RouterOperation) (params : Option JSONValue) :
    Except Failure Request := do
  let fields ← paramFields params
  let requestedRouter ←
    (EdgeRPC.optionalString "router" fields).mapError .params
  let project ← (EdgeRPC.optionalString "project" fields).mapError .params
  let policies ← requestPolicies operation fields
  let snapshot ← surroundings.snapshot
  let records := surroundings.helpers.filter (·.state = .running)
  let routers ← routeRouterRecords surroundings records requestedRouter
    project operation
  require (!routers.isEmpty)
    (match requestedRouter with
      | some router => "router VM " ++ router ++ " is not running"
      | none => "no running VM with roles: [router]")
  return ⟨policies, snapshot, sortedBy (·.vmID) routers⟩

/-! ## Plans -/

/-- The policies that a router takes. -/
def selects (topology : RouterPlan) (policy : ForwardPolicy) : Bool :=
  let attached := topology.networks.map (·.name)
  let hasInternet :=
    policy.allow.any (·.target = internetPolicyTarget)
  let hasNonInternet :=
    policy.allow.any (·.target ≠ internetPolicyTarget)
  policy.via.all (ForwardPolicy.matchesVia topology.vmID) &&
    attached.contains policy.network &&
    (policy.allow.all fun allow =>
      allow.target = internetPolicyTarget || attached.contains allow.target) &&
    -- Mixed policies bind to the router that owns the other destinations.
    !(hasInternet && !hasNonInternet && !topology.hasNatEgress)

/-- The networks of a router. -/
def topology (snapshot : NetworkSnapshot) (router : HelperRecord) :
    Except PlanError RouterPlan :=
  RouterPlan.ofRecords router.vmID snapshot.networks snapshot.attachments
    [] []

/-- `policyMatches`. -/
abbrev PolicyMatches := Dictionary Nat

/-- `policyMatches[policy.name, default: 0] += 1`. -/
def count (found : PolicyMatches) (policy : ForwardPolicy) : PolicyMatches :=
  found.modify policy.name 0 (· + 1)

/-- The closure that is mapped over the routers. -/
def planRouter (request : Request) (found : PolicyMatches)
    (router : HelperRecord) : Except Failure (RouterPlan × PolicyMatches) := do
  let isRouter ← vmHasRouterRole surroundings router.bundle
  require isRouter
    ("VM " ++ router.vmID ++ " does not declare roles: [router]")
  let topology ← (topology request.snapshot router).mapError .plan
  let selectedPolicies := request.policies.filter (selects topology)
  let staticRoutes := DockerBackendRoutes.staticRoutes
    request.snapshot.networks request.snapshot.attachments router.vmID
  let plan ← (RouterPlan.ofNetworks topology.vmID topology.networks
    selectedPolicies staticRoutes).mapError .plan
  return (plan, selectedPolicies.foldl count found)

def planRouters (request : Request) :
    PolicyMatches → List HelperRecord →
      Except Failure (List RouterPlan × PolicyMatches)
  | found, [] => .ok ([], found)
  | found, router :: rest => do
      let (plan, found) ← planRouter surroundings request found router
      let (plans, found) ← planRouters request found rest
      return (plan :: plans, found)

def matchMessage (policy : ForwardPolicy) (found : Nat) : String :=
  match policy.via with
  | some via =>
      "policy " ++ policy.name ++ " via " ++ via ++
        if found = 0 then " does not match a running router"
        else " matches more than one running router"
  | none =>
      "policy " ++ policy.name ++
        (if found = 0 then " does not match a running router"
          else " matches more than one running router") ++
        "; set policies.*.via to pin a router"

def checkMatch (found : PolicyMatches) (policy : ForwardPolicy) :
    Except Failure Unit :=
  let matched := (found.lookup policy.name).getD 0
  require (matched = 1) (matchMessage policy matched)

/-- The plans of a call, before a helper knows of it. -/
def plans (request : Request) : Except Failure (List RouterPlan) := do
  let (plans, found) ← planRouters surroundings request ∅ request.routers
  forM request.policies (checkMatch found)
  return plans

/-! ## Helpers -/

/-- What a call does: the plans it sends to helpers, and its events
`route.applied`. -/
structure Effects where
  sent : List RouterPlan
  applied : List (String × Bool)

/-- A status of a helper, with the networks of its router. -/
def routerStatus (plan : RouterPlan) (values : Fields) : JSONValue :=
  .object (("vm_id", .string plan.vmID) ::
    ("networks", .array (plan.networks.map RouterNetwork.json)) ::
      values.filter fun entry => entry.1 ≠ "vm_id" ∧ entry.1 ≠ "networks")

/-- The status that a helper answers, and whether it changed its router. -/
def helperStatus (vmID : String) : Except Failure (Bool × Fields) :=
  match surroundings.helper vmID with
  | .error failure => .error failure
  | .ok (.object values) =>
      match values.lookup "changed" with
      | some (.bool changed) => .ok (changed, values)
      | _ => .error (.plan (.route
          (.guest ("router helper " ++ vmID ++ " returned invalid status"))))
  | .ok _ => .error (.plan (.route
      (.guest "router helper returned an invalid response")))

/-- One turn of the loop over the plans. -/
def send (operation : RouterOperation) (plan : RouterPlan) :
    Procedure Effects Failure (Bool × JSONValue) := do
  writing fun effects => .ok { effects with sent := effects.sent ++ [plan] }
  let (changed, values) ← reading fun _ => helperStatus surroundings plan.vmID
  if operation = .apply then
    writing fun effects => .ok
      { effects with applied := effects.applied ++ [(plan.vmID, changed)] }
  return (changed, routerStatus plan values)

def sendAll (operation : RouterOperation) :
    List RouterPlan → Procedure Effects Failure (Bool × List JSONValue)
  | [] => return (false, [])
  | plan :: rest => do
      let (changed, result) ← send surroundings operation plan
      let (anyChanged, results) ← sendAll operation rest
      return (changed || anyChanged, result :: results)

/-- `route.<operation>`. -/
def route (operation : RouterOperation) (params : Option JSONValue) :
    Procedure Effects Failure JSONValue := do
  let request ← reading fun _ => request surroundings operation params
  let plans ← reading fun _ => plans surroundings request
  let (changed, results) ← sendAll surroundings operation plans
  return .object [("changed", .bool changed), ("routers", .array results)]

end RouteRPC

end Vzctl
