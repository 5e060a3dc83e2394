import Mathlib.Data.List.Infix
import Vzctl.Ingress.Render
import Vzctl.Json

/-!
# Ingress claims

The ingress part of the service controllers: the upstream of a claim
(`node_port`), the routes that a reconcile projects (`reconcile_with_edge`),
the status records of the claims, and the steps of an apply that publish
routes.  The answers of the guest agent, of Kubernetes, of the supervisor and
of the edge are inputs of a run.
-/

namespace Vzctl

namespace EdgeClaims

open Ingress

structure ControllerError where
  code : String
  message : String
  deriving DecidableEq

/-! ## Guest calls -/

/-- What a registration check finds; a reconcile from the command line has no
registration to check. -/
inductive RegistrationReply where
  | unregistered
  | current
  | unavailable
  | replaced
  deriving DecidableEq

def checkRegistration : RegistrationReply → Except ControllerError Unit
  | .unregistered => .ok ⟨⟩
  | .current => .ok ⟨⟩
  | .unavailable =>
      .error ⟨"RegistrationUnavailable",
        "controller registration cannot be verified"⟩
  | .replaced =>
      .error ⟨"RegistrationRevoked",
        "controller registration was disabled or replaced"⟩

inductive Stdout where
  | blank
  | json (value : JSONValue)
  | malformed

structure ExecOutput where
  exitCode : Int
  truncated : Bool
  stdout : Stdout

/-- `executed` is `none` when `vm.exec` fails or times out. -/
structure GuestReply where
  registration : RegistrationReply
  executed : Option ExecOutput

/-- `RpcGuest::run` with an input of this many bytes. -/
def runGuest (stdinLength : Nat) (reply : GuestReply) :
    Except ControllerError ExecOutput := do
  checkRegistration reply.registration
  if 256 * 1024 < stdinLength then
    .error ⟨"InvalidOperation", "controller operation exceeds limits"⟩
  else
    match reply.executed with
    | none =>
        .error ⟨"GuestUnavailable", "guest execution failed or timed out"⟩
    | some output => .ok output

def decodeOutput (output : ExecOutput) : Except ControllerError JSONValue :=
  if output.exitCode ≠ 0 ∨ output.truncated = true then
    .error ⟨"KubernetesUnavailable",
      "Kubernetes ingress service operation failed"⟩
  else
    match output.stdout with
    | .blank => .ok .null
    | .json value => .ok value
    | .malformed =>
        .error ⟨"InvalidResponse", "Kubernetes service response is invalid"⟩

def execute (stdinLength : Nat) (reply : GuestReply) :
    Except ControllerError JSONValue := do
  let output ← runGuest stdinLength reply
  decodeOutput output

/-! ## JSON -/

/-- `value[key]`. -/
def member (value : JSONValue) (key : String) : JSONValue :=
  (value.field? key).getD .null

/-- `value[0]`. -/
def firstItem (value : JSONValue) : JSONValue :=
  ((value.asArray?.bind List.head?).getD .null)

def asU64 : JSONValue → Option Nat
  | .number value =>
      if value.den = 1 ∧ 0 ≤ value.num ∧ value.num < 2 ^ 64 then
        some value.num.toNat
      else none
  | _ => none

def natural (value : Nat) : JSONValue := .number value

/-! ## Configuration -/

inductive ServiceKind where
  | ingress
  | oidc
  | postgres
  | s3
  deriving DecidableEq

structure KubernetesService where
  cluster : String
  namespaceName : String
  service : String
  port : UInt16

inductive Backend where
  | vm (vm : String) (port : UInt16)
  | kubernetes (service : KubernetesService)

structure Claim where
  kind : ServiceKind
  host : Option String
  backend : Option Backend

structure Cluster where
  server : String
  network : String

/-- The parts of a stack that edge claims depend on.  `vms` holds the networks
of each VM, `claims` the declared and the discovered claims. -/
structure Stack where
  project : String
  vms : List (String × List String)
  clusters : List (String × Cluster)
  ingress : Option IngressConfig
  claims : List (String × Claim)

def Stack.ingressEnabled (stack : Stack) : Bool :=
  (stack.ingress.filter IngressConfig.enabled).isSome

/-! ## The NodePort of a Kubernetes backend -/

/-- `digest` is a SHA-256 in hexadecimal, `encodedLength` the length of a
value as JSON. -/
structure Encoding where
  digest : String → String
  encodedLength : JSONValue → Nat

/-- The answers to the calls of `node_port`, in their order.  The last one
depends on the verb and on the manifest. -/
structure NodePortCalls where
  source : GuestReply
  managed : GuestReply
  written : String → JSONValue → GuestReply

section NodePort

variable (encoding : Encoding) (stack : Stack) (name : String)
  (backend : KubernetesService)

def claimOwner : String := "vzctl:" ++ stack.project ++ "/" ++ name

def sourceSelector (source : JSONValue) :
    Except ControllerError JSONValue :=
  match member (member source "spec") "selector" with
  | .object (first :: rest) => .ok (.object (first :: rest))
  | _ =>
      .error ⟨"UnsupportedBackend",
        "ingress requires a Service with a Pod selector"⟩

def sourcePort (source : JSONValue) : Except ControllerError JSONValue :=
  let ports := (member (member source "spec") "ports").asArray?.getD []
  match ports.find? fun port =>
      member port "port" = natural backend.port.toNat ∧
        (member port "protocol").asString?.getD "TCP" = "TCP" with
  | some port => .ok port
  | none => .error ⟨"InvalidBackend", "Service TCP port missing"⟩

def requireOwned (managed : JSONValue) : Except ControllerError Unit :=
  if managed ≠ .null ∧
      member (member (member managed "metadata") "annotations")
        "services.vzctl.dev/owner" ≠ .string (claimOwner stack name) then
    .error ⟨"OwnershipConflict",
      "ingress NodePort Service belongs to another owner"⟩
  else .ok ⟨⟩

def allocatedPort (service : JSONValue) : Option Nat :=
  asU64 (member (firstItem (member (member service "spec") "ports"))
    "nodePort")

def desiredPort (source managed : JSONValue) : JSONValue :=
  let target := (source.field? "targetPort").getD (member source "port")
  let allocated :=
    match allocatedPort managed with
    | some number => [("nodePort", natural number)]
    | none => []
  .object ([("name", .string "http")] ++ allocated ++
    [("port", natural backend.port.toNat), ("protocol", .string "TCP"),
      ("targetPort", target)])

/-- The Service to write over `managed`. -/
def manifest (selector port managed : JSONValue) : JSONValue :=
  let owner := claimOwner stack name
  let resourceName :=
    "vzctl-" ++ String.ofList ((encoding.digest owner).toList.take 20)
  let version :=
    if managed = .null then []
    else
      [("resourceVersion",
        member (member managed "metadata") "resourceVersion")]
  let addresses :=
    if managed = .null then []
    else
      [("clusterIP", member (member managed "spec") "clusterIP")] ++
        match (member managed "spec").field? "clusterIPs" with
        | some ips => [("clusterIPs", ips)]
        | none => []
  .object [
    ("apiVersion", .string "v1"),
    ("kind", .string "Service"),
    ("metadata", .object ([
      ("annotations",
        .object [("services.vzctl.dev/owner", .string owner)]),
      ("labels",
        .object [("app.kubernetes.io/managed-by", .string "vzctl")]),
      ("name", .string resourceName),
      ("namespace", .string backend.namespaceName)] ++ version)),
    ("spec", .object (addresses ++ [
      ("externalTrafficPolicy", .string "Cluster"),
      ("ports", .array [port]),
      ("selector", selector),
      ("type", .string "NodePort")]))]

/-- The managed Service is as it should be. -/
def upToDate (selector port managed : JSONValue) : Bool :=
  let spec := member managed "spec"
  managed ≠ .null ∧ member spec "selector" = selector ∧
    member spec "ports" = .array [port] ∧
    member spec "type" = .string "NodePort" ∧
    member spec "externalTrafficPolicy" = .string "Cluster"

def currentService (calls : NodePortCalls)
    (selector port managed : JSONValue) : Except ControllerError JSONValue :=
  if upToDate selector port managed then .ok managed
  else
    let desired := manifest encoding stack name backend selector port managed
    execute (encoding.encodedLength desired)
      (calls.written (if managed = .null then "create" else "replace")
        desired)

def publishedPort (service : JSONValue) : Except ControllerError Nat :=
  match (allocatedPort service).filter fun port =>
      0 < port ∧ port ≤ 65535 with
  | some port => .ok port
  | none =>
      .error ⟨"BackendPending", "Kubernetes has not allocated a NodePort"⟩

/-- The server VM of a cluster, which has to be on its network. -/
def clusterServer : Except ControllerError String :=
  match stack.clusters.lookup backend.cluster with
  | none => .error ⟨"InvalidBackend", "Kubernetes cluster missing"⟩
  | some cluster =>
      if ((stack.vms.lookup cluster.server).getD []).contains
          cluster.network then
        .ok cluster.server
      else .error ⟨"InvalidBackend", "Kubernetes node address missing"⟩

/-- `node_port`. -/
def nodePort (calls : NodePortCalls) : Except ControllerError String := do
  let server ← clusterServer stack backend
  let source ← execute 0 calls.source
  let selector ← sourceSelector source
  let port ← sourcePort backend source
  let managed ← execute 0 calls.managed
  requireOwned stack name managed
  let current ← currentService encoding stack name backend calls selector
    (desiredPort backend port managed) managed
  let number ← publishedPort current
  .ok (server ++ ":" ++ String.ofList (Nat.toDigits 10 number))

end NodePort

/-! ## Routes of claims -/

inductive RecordState where
  | ready
  | conflict
  | degraded
  deriving DecidableEq

/-- The status of a claim and its `resource`. -/
structure Record where
  state : RecordState
  host : Option String
  backend : Option String
  deriving DecidableEq

section Routes

variable (encoding : Encoding) (stack : Stack)

def claimUpstream (name : String) (calls : NodePortCalls) :
    Backend → Except ControllerError String
  | .vm vm port =>
      .ok (vm ++ ":" ++ String.ofList (Nat.toDigits 10 port.toNat))
  | .kubernetes service => nodePort encoding stack name service calls

/-- The route of an ingress claim. -/
def resolveClaim (name : String) (claim : Claim) (calls : NodePortCalls) :
    Except ControllerError IngressRoute :=
  match claim.host with
  | none => .error ⟨"InvalidClaim", "ingress host missing"⟩
  | some host =>
      match claim.backend with
      | none => .error ⟨"InvalidClaim", "ingress backend missing"⟩
      | some backend => do
          let upstream ← claimUpstream encoding stack name calls backend
          if stack.ingressEnabled then .ok ⟨host, upstream, []⟩
          else .error ⟨"InvalidProvider", "stack ingress is disabled"⟩

/-- The errors after which a published route is kept. -/
def retains (code : String) : Bool :=
  code == "KubernetesUnavailable" || code == "BackendPending"

/-- The backend names a VM of the stack and a port. -/
def reusable (backend : String) : Bool :=
  let vm := String.ofList (backend.toList.takeWhile (· ≠ ':'))
  match backend.toList.dropWhile (· ≠ ':') with
  | [] => false
  | _ :: port =>
      (stack.vms.lookup vm).isSome &&
        (parseU16 (String.ofList port)).any fun number => 0 < number

/-- The route that stays published when a claim could not be resolved. -/
def previousRoute (claim : Claim) (error : ControllerError)
    (record : Option Record) : Option IngressRoute :=
  if retains error.code then
    match record with
    | none => none
    | some record =>
        if record.host = claim.host then
          match record.host, record.backend with
          | some host, some backend =>
              if reusable stack backend then some ⟨host, backend, []⟩
              else none
          | _, _ => none
        else none
  else none

end Routes

/-! ## Runs -/

inductive Discovery where
  | failed
  | incomplete
  | complete
  deriving DecidableEq

/-- How `ingress.ensure` of a run ends: the intent is stored and the call
succeeds, the call fails before, or it fails after the intent was stored. -/
inductive EdgeOutcome where
  | published
  | failedBefore
  | failedAfter
  deriving DecidableEq

def EdgeOutcome.stores : EdgeOutcome → Bool
  | published => true
  | failedBefore => false
  | failedAfter => true

/-- What a reconcile is answered.  `recorded` says whether it gets to write
the status of a claim. -/
structure Run where
  discovery : Discovery
  permission : RegistrationReply
  calls : String → NodePortCalls
  permissionAfter : RegistrationReply
  edge : EdgeOutcome
  recorded : String → Bool

/-- A stored intent by its routes, with the claims that had been reported
Ready before and the upstreams last resolved. -/
structure Moment where
  routes : List IngressRoute
  ready : String → Bool
  resolved : String → Option String

/-- `records` are the status files; the rest is history. -/
structure State where
  records : String → Option Record
  moments : List Moment
  ready : String → Bool
  resolved : String → Option String

section Reconcile

variable (encoding : Encoding) (stack : Stack)

def Stack.ingressClaim (name : String) : Option Claim :=
  (stack.claims.lookup name).filter fun claim => claim.kind = .ingress

/-- The run gets to resolve the claims. -/
def Run.resolves (run : Run) : Bool :=
  run.discovery = .complete && (checkRegistration run.permission).isOk

/-- The run gets to the edge. -/
def Run.reachesEdge (run : Run) : Bool :=
  run.resolves && (checkRegistration run.permissionAfter).isOk

/-- The run stores an intent. -/
def Run.stores (run : Run) : Bool :=
  run.reachesEdge && stack.ingressEnabled && run.edge.stores

def resolveIn (run : Run) (name : String) (claim : Claim) :
    Except ControllerError IngressRoute :=
  resolveClaim encoding stack name claim (run.calls name)

/-- The routes that a claim adds to those of the configuration. -/
def claimRoute (run : Run) (records : String → Option Record)
    (entry : String × Claim) : Option IngressRoute :=
  if entry.2.kind = .ingress then
    match resolveIn encoding stack run entry.1 entry.2 with
    | .ok route => some route
    | .error error => previousRoute stack entry.2 error (records entry.1)
  else none

def configuredRoutes : List IngressRoute :=
  match stack.ingress with
  | some ingress => ingress.routes
  | none => []

/-- The routes of the projected configuration: those of claims that resolve
and those that stay published. -/
def projectedRoutes (run : Run) (records : String → Option Record) :
    List IngressRoute :=
  configuredRoutes stack ++
    stack.claims.filterMap (claimRoute encoding stack run records)

/-- The result for an ingress claim. -/
def claimResult (run : Run) (name : String) (claim : Claim) :
    Except ControllerError IngressRoute :=
  if run.discovery ≠ .complete then
    .error ⟨"DiscoveryIncomplete",
      "edge configuration retained until complete claim inventory is available"⟩
  else if run.resolves = false then
    .error ⟨"InvalidClaim", "edge claim result missing"⟩
  else do
    let route ← resolveIn encoding stack run name claim
    if run.reachesEdge = false then
      .error ⟨"InvalidClaim", "edge claim result missing"⟩
    else if run.edge = .published then .ok route
    else
      .error ⟨"IngressUnavailable",
        "stack ingress reconciliation failed; inspect edge health"⟩

def isConflict (code : String) : Bool :=
  "Conflict".toList <:+: code.toList

/-- A failed claim keeps its last `resource`. -/
def writeRecord (previous : Option Record)
    (result : Except ControllerError IngressRoute) : Record :=
  match result with
  | .ok route => ⟨.ready, some route.host, some route.target⟩
  | .error error =>
      { state := if isConflict error.code then .conflict else .degraded
        host := previous.bind Record.host
        backend := previous.bind Record.backend }

def resolvedAfter (run : Run) (state : State) (name : String) :
    Option String :=
  match stack.ingressClaim name with
  | none => state.resolved name
  | some claim =>
      if run.resolves then
        match resolveIn encoding stack run name claim with
        | .ok route => some route.target
        | .error _ => state.resolved name
      else state.resolved name

def recordAfter (run : Run) (state : State) (name : String) :
    Option Record :=
  match stack.ingressClaim name with
  | none => state.records name
  | some claim =>
      if run.recorded name then
        some (writeRecord (state.records name)
          (claimResult encoding stack run name claim))
      else state.records name

def readyAfter (run : Run) (state : State) (name : String) : Bool :=
  state.ready name ||
    match stack.ingressClaim name with
    | none => false
    | some claim =>
        run.recorded name && (claimResult encoding stack run name claim).isOk

/-- One reconcile of the controller. -/
def reconcile (run : Run) (state : State) : State :=
  if run.discovery = .failed then state
  else
    let resolved := resolvedAfter encoding stack run state
    { records := recordAfter encoding stack run state
      moments :=
        if run.stores stack then
          state.moments ++
            [⟨projectedRoutes encoding stack run state.records, state.ready,
              resolved⟩]
        else state.moments
      ready := readyAfter encoding stack run state
      resolved := resolved }

end Reconcile

/-! ## Projects -/

/-- A project with the claims that stay the same.  VM names have no colon, and
discovered claims come from a cluster. -/
structure Project extends Stack where
  declared : List (String × Claim)
  plainNames : ∀ vm ∈ vms, ':' ∉ vm.1.toList
  discovered : claims ≠ [] → declared ≠ [] ∨ clusters ≠ []

/-- The two writers: a reconcile of the controller, and an apply whose step
`ensure_ingress` may be reached and whose step `ensure_service_claims` may
run a reconcile. -/
inductive Event where
  | reconcile (run : Run)
  | apply (ensureIngress : Option EdgeOutcome) (claims : Option Run)

namespace Project

variable (encoding : Encoding) (project : Project)

def hasControllers : Bool :=
  !project.declared.isEmpty || !project.clusters.isEmpty

/-- `ensure_ingress` leaves the routes to the controllers where there are
any. -/
def ensureIngress (outcome : EdgeOutcome) (state : State) : State :=
  if project.hasControllers then state
  else if project.ingressEnabled && outcome.stores then
    { state with
      moments := state.moments ++
        [⟨configuredRoutes project.toStack, state.ready, state.resolved⟩] }
  else state

def ensureServiceClaims (run : Run) (state : State) : State :=
  if project.hasControllers then
    EdgeClaims.reconcile encoding project.toStack run state
  else state

def step (state : State) : Event → State
  | .reconcile run => EdgeClaims.reconcile encoding project.toStack run state
  | .apply ensured claims =>
      let published :=
        match ensured with
        | some outcome => project.ensureIngress outcome state
        | none => state
      match claims with
      | some run => project.ensureServiceClaims encoding run published
      | none => published

end Project

end EdgeClaims

end Vzctl
