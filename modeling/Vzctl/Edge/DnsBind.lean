import Mathlib.Data.String.Basic
import Vzctl.Lib.SortedBy
import Vzctl.Network.IPv4CIDR

/-!
# The firewall of the host

The firewall requests of `DnsBind.swift`: their validation and the text for
`pf` that is made of them.
-/

namespace Vzctl

namespace DnsBind

def opFirewallReconcile : String := "firewall.reconcile"

def opFirewallReconcileV2 : String := "firewall.reconcile.v2"

structure FirewallBinding where
  cidr : String
  allowedSources : List String
  tcpPorts : List UInt16
  dnsPort : Option UInt16
  dnsBackendPort : Option UInt16
  deriving DecidableEq, Repr

structure FirewallRequest where
  op : String
  bindings : List FirewallBinding
  deriving DecidableEq, Repr

/-- `init(bindings:)`. -/
def FirewallRequest.ofBindings (bindings : List FirewallBinding) :
    FirewallRequest where
  op :=
    if bindings.any fun binding =>
        binding.dnsPort.isSome || binding.dnsBackendPort.isSome then
      opFirewallReconcileV2
    else
      opFirewallReconcile
  bindings := bindings

/-- The errors of firewall requests. -/
inductive ValidationError where
  | unsupportedOp (op : String)
  | invalidCIDR (cidr : String)
  | invalidFirewall (message : String)
  deriving DecidableEq, Repr

/-- `guard condition else { throw error }`. -/
def require (condition : Bool) (error : ValidationError) :
    Except ValidationError Unit :=
  if condition then .ok () else .error error

/-- `(try? IPv4CIDR(cidr))?.canonical == cidr`. -/
def isCanonical (cidr : String) : Bool :=
  match IPv4CIDR.parse cidr with
  | .ok parsed => parsed.canonical = cidr
  | .error _ => false

def validateDNSPorts (op : String) (binding : FirewallBinding) :
    Except ValidationError Unit :=
  match binding.dnsPort, binding.dnsBackendPort with
  | none, none => .ok ()
  | some dnsPort, some backendPort =>
      if 0 < dnsPort ∧ 0 < backendPort then
        require (op = opFirewallReconcileV2)
          (.invalidFirewall "DNS redirect requires firewall.reconcile.v2")
      else
        .error (.invalidFirewall
          "DNS public and backend ports must both be greater than zero")
  | _, _ =>
      .error (.invalidFirewall
        "DNS public and backend ports must both be greater than zero")

/-- The checks of one binding, after the CIDRs in `seen`. -/
def validateBinding (op : String) (seen : List String)
    (binding : FirewallBinding) : Except ValidationError Unit := do
  require (isCanonical binding.cidr) (.invalidCIDR binding.cidr)
  require (!seen.contains binding.cidr)
    (.invalidFirewall ("duplicate binding " ++ binding.cidr))
  require (!binding.tcpPorts.contains 0)
    (.invalidFirewall "TCP port must be greater than zero")
  validateDNSPorts op binding
  forM binding.allowedSources fun source =>
    require (isCanonical source) (.invalidCIDR source)

def validateBindings (op : String) (seen : List String) :
    List FirewallBinding → Except ValidationError Unit
  | [] => .ok ()
  | binding :: rest => do
      validateBinding op seen binding
      validateBindings op (binding.cidr :: seen) rest

def validate (request : FirewallRequest) : Except ValidationError Unit := do
  require
    (request.op = opFirewallReconcile || request.op = opFirewallReconcileV2)
    (.unsupportedOp request.op)
  validateBindings request.op [] request.bindings

/-! ## The text -/

namespace FirewallBinding

variable (binding : FirewallBinding)

/-- `Array(Set(binding.allowedSources)).sorted()`. -/
def sources : List String := sortedBy id binding.allowedSources.dedup

/-- `Array(Set(binding.tcpPorts)).sorted()`. -/
def ports : List UInt16 := sortedBy UInt16.toNat binding.tcpPorts.dedup

def sourceList : String :=
  "\x7b " ++ ", ".intercalate binding.sources ++ " \x7d"

def portList : String :=
  "\x7b " ++
    ", ".intercalate (binding.ports.map fun port => toString port.toNat) ++
    " \x7d"

/-- The DNS ports between which a redirection is needed. -/
def redirection : Option (UInt16 × UInt16) :=
  match binding.dnsPort, binding.dnsBackendPort with
  | some dnsPort, some backendPort =>
      if dnsPort ≠ backendPort ∧ binding.sources ≠ [] then
        some (dnsPort, backendPort)
      else
        none
  | _, _ => none

/-- The lines that a binding adds to `translations`. -/
def translations (interface : String) : List String :=
  let gateway := IPv4CIDR.gateway binding.cidr
  match binding.redirection with
  | some (dnsPort, backendPort) =>
      ["rdr pass on " ++ interface ++ " inet proto udp from " ++
        binding.sourceList ++ " to " ++ gateway ++ " port " ++
        toString dnsPort.toNat ++ " -> " ++ gateway ++ " port " ++
        toString backendPort.toNat]
  | none => []

/-- The lines that a binding adds to `filters`. -/
def filters (interface : String) : List String :=
  let hostService := IPv4CIDR.hostService binding.cidr
  let gateway := IPv4CIDR.gateway binding.cidr
  (if binding.sources ≠ [] then
    ["pass in quick on " ++ interface ++ " inet proto udp from " ++
      binding.sourceList ++ " to 224.0.0.251 port 5353 keep state"]
  else
    []) ++
  (match binding.redirection with
  | some (dnsPort, _) =>
      ["block in quick on " ++ interface ++ " inet proto udp from any to " ++
        gateway ++ " port " ++ toString dnsPort.toNat]
  | none => []) ++
  (if binding.sources ≠ [] ∧ binding.ports ≠ [] then
    ["pass in quick on " ++ interface ++ " inet proto tcp from " ++
      binding.sourceList ++ " to " ++ hostService ++ " port " ++
      binding.portList ++ " flags S/SA keep state"]
  else
    []) ++
  ["block in quick on " ++ interface ++ " inet from any to " ++ hostService]

end FirewallBinding

/-- The interface of a binding; `nameCharacter` is `isLetter || isNumber`. -/
def interfaceOf (nameCharacter : Char → Bool)
    (interfaceByCIDR : String → Option String) (binding : FirewallBinding) :
    Except ValidationError (String × FirewallBinding) :=
  match interfaceByCIDR binding.cidr with
  | some interface =>
      if !interface.isEmpty && interface.toList.all nameCharacter then
        .ok (interface, binding)
      else
        .error (.invalidFirewall
          ("missing or invalid interface for " ++ binding.cidr))
  | none =>
      .error (.invalidFirewall
        ("missing or invalid interface for " ++ binding.cidr))

/-- The bindings in order, each with its interface. -/
def attachedBindings (nameCharacter : Char → Bool)
    (interfaceByCIDR : String → Option String)
    (bindings : List FirewallBinding) :
    Except ValidationError (List (String × FirewallBinding)) := do
  validate (.ofBindings bindings)
  (sortedBy FirewallBinding.cidr bindings).mapM
    (interfaceOf nameCharacter interfaceByCIDR)

def firewallRules (nameCharacter : Char → Bool)
    (interfaceByCIDR : String → Option String)
    (bindings : List FirewallBinding) : Except ValidationError String := do
  let attached ←
    attachedBindings nameCharacter interfaceByCIDR bindings
  let translations := attached.flatMap fun (interface, binding) =>
    binding.translations interface
  let filters := attached.flatMap fun (interface, binding) =>
    binding.filters interface
  let rules := translations ++ filters
  return if rules.isEmpty then "" else "\n".intercalate rules ++ "\n"

end DnsBind

end Vzctl
