import Mathlib.Data.String.Basic
import Vzctl.Ingress.CaddyfileMerge
import Vzctl.Lib.Decimal
import Vzctl.Lib.Dictionary
import Vzctl.Lib.Outcome
import Vzctl.Lib.SortedBy

/-!
# Gateway listeners

The ingress part of `EdgeServer.apply` and `HostGatewayIngressProxy`: which
gateway addresses are opened for the ingress intents of all projects and where
they forward to.
-/

namespace Vzctl

namespace Ingress

open Outcome

/-! ## Intents -/

inductive Front where
  | http
  | https
  deriving DecidableEq

/-- The ports are `none` where the request leaves them out.  `bindingCIDRs`
are the networks of `gateway_bindings`. -/
structure IngressIntent where
  project : String
  caddyfile : Source
  binary : String
  gateways : List String
  httpPort : Option UInt16
  httpsPort : Option UInt16
  backendHTTPPort : Option UInt16
  backendHTTPSPort : Option UInt16
  bindingCIDRs : List String

namespace IngressIntent

variable (intent : IngressIntent)

def port : Front → UInt16
  | .http => intent.httpPort.getD 80
  | .https => intent.httpsPort.getD 443

def backend : Front → UInt16
  | .http => intent.backendHTTPPort.getD (intent.port .http)
  | .https => intent.backendHTTPSPort.getD (intent.port .https)

def workDir : String := "ingress/" ++ intent.project

def caddyIntent (configPath : String) : CaddyIntent where
  project := intent.project
  caddyfile := intent.caddyfile
  binary := intent.binary
  backendHTTP := intent.backend .http
  backendHTTPS := intent.backend .https
  workDir := intent.workDir
  configPath := configPath

end IngressIntent

/-! ## Bindings -/

structure Binding where
  gatewayIP : String
  port : UInt16
  backendHost : String
  backendPort : UInt16
  deriving DecidableEq

def addressKey (gatewayIP : String) (port : UInt16) : String :=
  gatewayIP ++ ":" ++ String.ofList (Nat.toDigits 10 port.toNat)

def Binding.key (binding : Binding) : String :=
  addressKey binding.gatewayIP binding.port

def IngressIntent.binding (intent : IngressIntent) (gateway : String)
    (front : Front) : Binding where
  gatewayIP := gateway
  port := intent.port front
  backendHost := "127.0.0.1"
  backendPort := intent.backend front

/-- Keep the first binding per `gatewayIP:port`. -/
def uniqueBindings (bindings : List Binding) : List Binding :=
  (bindings.foldl
    (fun (state : List String × List Binding) binding =>
      if binding.key ∈ state.1 then state
      else (binding.key :: state.1, state.2 ++ [binding]))
    ([], [])).2

/-! ## Listeners -/

structure EnsureResult where
  active : List Binding
  skipped : List (Binding × String)

structure Ensuring where
  active : List Binding
  skipped : List (Binding × String)
  listeners : Dictionary Binding

section Ensure

-- `opens` says why a binding cannot be opened.
variable (opens : Binding → Option String) (forceReopen : Bool)

def ensureOne (state : Ensuring) (binding : Binding) : Ensuring :=
  if forceReopen = false ∧
      state.listeners.lookup binding.key = some binding then
    { state with active := state.active ++ [binding] }
  else
    let closed := state.listeners.erase binding.key
    match opens binding with
    | none =>
        { state with
          active := state.active ++ [binding]
          listeners := closed.insert binding.key binding }
    | some failure =>
        { state with
          skipped := state.skipped ++ [(binding, failure)]
          listeners := closed }

def ensure (desired : List Binding) (listeners : Dictionary Binding) :
    EnsureResult × Dictionary Binding :=
  let kept := listeners.mapValues fun key held =>
    if key ∈ desired.map Binding.key then some held else none
  let reached := desired.foldl (ensureOne opens forceReopen) ⟨[], [], kept⟩
  ({ active := sortedBy Binding.key reached.active
     skipped := sortedBy (fun skip => skip.1.key) reached.skipped },
    reached.listeners)

end Ensure

/-- What the host does during one call of `apply`: whether it writes the
configuration of a project, prepares the network, starts the children, opens a
binding in each attempt, answers the probe after it, and finishes. -/
structure Host where
  writes : IngressIntent → Except String String
  prepares : Except String PUnit
  starts : List Child → Except String PUnit
  opens : Nat → Binding → Option String
  reachable : Nat → Bool
  finishes : Except String PUnit

section Apply

variable (host : Host)

/-- The retries of `ensureWithProbe` after attempt `attempt`. -/
def retryEnsure (desired : List Binding) (attempt : Nat) :
    Nat → EnsureResult × Dictionary Binding →
      EnsureResult × Dictionary Binding
  | 0, state => state
  | retries + 1, state =>
      if host.reachable attempt then state
      else
        retryEnsure desired (attempt + 1) retries
          (ensure (host.opens (attempt + 1)) true desired state.2)

def ensureWithProbe (desired : List Binding)
    (listeners : Dictionary Binding) : EnsureResult × Dictionary Binding :=
  retryEnsure host desired 0 2 (ensure (host.opens 0) false desired listeners)

def checkLoopback (result : EnsureResult) (key : String) :
    Except String PUnit :=
  match result.skipped.find? fun skip => skip.1.key = key with
  | some failure =>
      .error ("ingress listener " ++ key ++ ": " ++ failure.2)
  | none =>
      if result.active.any fun binding => binding.key = key then .ok ⟨⟩
      else .error ("ingress listener " ++ key ++ ": missing")

def evaluateIngressGatewayEnsure (result : EnsureResult)
    (loopbackGateways : List String) (httpPort httpsPort : UInt16) :
    Except String (Option String) := do
  forM (loopbackGateways.flatMap fun gateway =>
    [httpPort, httpsPort].map (addressKey gateway)) (checkLoopback result)
  let guestSkips := result.skipped.filter fun skip =>
    skip.1.gatewayIP ∉ loopbackGateways
  if guestSkips = [] then .ok none
  else
    .ok (some ("; ".intercalate (guestSkips.map fun skip =>
      "ingress listener " ++ skip.1.key ++ ": " ++ skip.2)))

/-! ## One reconcile -/

structure Collected where
  intents : List CaddyIntent
  bindings : List Binding
  loopbackGateways : List String
  httpPort : UInt16
  httpsPort : UInt16

def Collected.start : Collected where
  intents := []
  bindings := []
  loopbackGateways := ["127.0.0.1"]
  httpPort := 80
  httpsPort := 443

/-- The text has no combining mark. -/
def isLoopback (gateway : String) : Bool :=
  gateway == "127.0.0.1" || "127.".toList.isPrefixOf gateway.toList

/-- `lastPathComponent`. -/
def lastPathComponent (path : String) : Option (List Char) :=
  ((path.toList.splitOn '/').filter (· ≠ [])).getLast?

def requireBinary (path : String) (basename : String) :
    Except String PUnit :=
  if lastPathComponent path = some basename.toList then .ok ⟨⟩
  else .error ("edge service binary must be " ++ basename)

def intentBindings (intent : IngressIntent) : List Binding :=
  intent.gateways.flatMap fun gateway =>
    [intent.binding gateway .http, intent.binding gateway .https]

def requireNetwork (activeCIDRs : List String) (cidr : String) :
    Except String PUnit :=
  if cidr ∈ activeCIDRs then .ok ⟨⟩
  else .error ("ingress gateway binding requires active vmnet " ++ cidr)

/-- One pass of the loop over `ingress`. -/
def collect (activeCIDRs : List String) (soFar : Collected)
    (intent : IngressIntent) : Except String Collected := do
  requireBinary intent.binary "caddy"
  let configPath ← host.writes intent
  forM intent.bindingCIDRs (requireNetwork activeCIDRs)
  .ok {
    intents := soFar.intents ++ [intent.caddyIntent configPath]
    bindings := soFar.bindings ++ intentBindings intent
    loopbackGateways :=
      soFar.loopbackGateways ++ intent.gateways.filter isLoopback
    httpPort := intent.port .http
    httpsPort := intent.port .https }

/-- `ingressGuestWarning` after the listeners were opened. -/
def guestWarning (collected : Collected) (bindings : List Binding)
    (result : EnsureResult) : Except String (Option String) :=
  if bindings = [] then .ok none
  else
    evaluateIngressGatewayEnsure result collected.loopbackGateways
      collected.httpPort collected.httpsPort

/-- The ingress part of `apply`.  The listeners stay open when a later step
fails. -/
def apply (activeCIDRs : List String) (intents : List IngressIntent)
    (listeners : Dictionary Binding) :
    Except String (Option String) × Dictionary Binding :=
  let started : Except String Collected := do
    let collected ← intents.foldlM (collect host activeCIDRs) .start
    host.prepares
    host.starts (children collected.intents)
    .ok collected
  match started with
  | .error failure => (.error failure, listeners)
  | .ok collected =>
      let bindings := uniqueBindings collected.bindings
      let ensured := ensureWithProbe host bindings listeners
      let finished : Except String (Option String) := do
        let warning ← guestWarning collected bindings ensured.1
        host.finishes
        .ok warning
      (finished, ensured.2)

end Apply

end Ingress

end Vzctl
