import Vzctl.Lib.Nftables

/-!
# Rulesets of `pf`

The part of the `pf.conf` language that redirections and `quick` rules for
packets coming in on an interface are written in.  Redirections are read
before the filter rules, and one with `pass` skips them; without an applicable
rule a packet passes.
-/

namespace PacketFilter

/-- A packet that comes in, and whether its TCP flags ask for a new
connection (`S/SA`). -/
structure Packet extends IPv4Packet where
  interface : String
  opensConnection : Bool
  deriving DecidableEq, Repr

inductive Source where
  | any
  | oneOf (addresses : List String)
  deriving DecidableEq, Repr

inductive Ports where
  | any
  | single (port : UInt16)
  | oneOf (ports : List UInt16)
  deriving DecidableEq, Repr

inductive Protocol where
  | any
  | udp
  | tcp
  deriving DecidableEq, Repr

/-- Which packets a rule is about. -/
structure Criteria where
  interface : String
  protocol : Protocol
  source : Source
  destination : String
  ports : Ports
  deriving DecidableEq, Repr

inductive Rule where
  | redirect (criteria : Criteria) (target : String) (port : UInt16)
  | block (criteria : Criteria)
  | pass (criteria : Criteria) (opening : Bool)
  deriving DecidableEq, Repr

inductive Verdict where
  | block
  | pass
  /-- Passed, with this destination instead. -/
  | redirect (target : String) (port : UInt16)
  deriving DecidableEq, Repr

/-! ## Text -/

def renderPort (port : UInt16) : String := toString port.toNat

def Source.render : Source → String
  | .any => "any"
  | .oneOf addresses => "\x7b " ++ ", ".intercalate addresses ++ " \x7d"

def Ports.render : Ports → String
  | .any => ""
  | .single port => " port " ++ renderPort port
  | .oneOf ports =>
      " port \x7b " ++ ", ".intercalate (ports.map renderPort) ++ " \x7d"

def Protocol.render : Protocol → String
  | .any => ""
  | .udp => " proto udp"
  | .tcp => " proto tcp"

def Criteria.render (criteria : Criteria) : String :=
  " on " ++ criteria.interface ++ " inet" ++ criteria.protocol.render ++
    " from " ++ criteria.source.render ++ " to " ++ criteria.destination ++
    criteria.ports.render

def Rule.render : Rule → String
  | .redirect criteria target port =>
      "rdr pass" ++ criteria.render ++ " -> " ++ target ++ " port " ++
        renderPort port
  | .block criteria => "block in quick" ++ criteria.render
  | .pass criteria opening =>
      "pass in quick" ++ criteria.render ++
        (if opening then " flags S/SA" else "") ++ " keep state"

/-- One rule a line; nothing for no rules. -/
def renderRules (rules : List Rule) : String :=
  if rules.isEmpty then
    ""
  else
    "\n".intercalate (rules.map Rule.render) ++ "\n"

/-! ## Verdicts -/

open Nftables (AddressReader covers)

variable (read : AddressReader)

def Source.holds : Source → UInt32 → Bool
  | .any, _ => true
  | .oneOf addresses, source =>
      addresses.any fun address => covers read address source

def Ports.holds : Ports → UInt16 → Bool
  | .any, _ => true
  | .single port, destination => destination = port
  | .oneOf ports, destination => destination ∈ ports

/-- Protocol and destination port. -/
def Criteria.serves (criteria : Criteria) (transport : Transport) : Bool :=
  match criteria.protocol, transport with
  | .any, _ => true
  | .udp, .udp port => criteria.ports.holds port
  | .tcp, .tcp port => criteria.ports.holds port
  | _, _ => false

theorem Criteria.serves_udp_iff {interface destination : String}
    {source : Source} {port : UInt16} {transport : Transport} :
    (Criteria.mk interface .udp source destination (.single port)).serves
      transport = true ↔ transport = .udp port := by
  cases transport <;> simp [serves, Ports.holds]

theorem Criteria.serves_tcp_iff {interface destination : String}
    {source : Source} {ports : List UInt16} {transport : Transport} :
    (Criteria.mk interface .tcp source destination (.oneOf ports)).serves
      transport = true ↔ ∃ port ∈ ports, transport = .tcp port := by
  cases transport <;> simp [serves, Ports.holds]

def Criteria.holds (criteria : Criteria) (packet : Packet) : Bool :=
  packet.interface = criteria.interface &&
    criteria.serves packet.transport &&
    criteria.source.holds read packet.source &&
    covers read criteria.destination packet.destination

variable {read} in
theorem Criteria.holds_eq_true_iff {criteria : Criteria} {packet : Packet} :
    criteria.holds read packet = true ↔
      packet.interface = criteria.interface ∧
        criteria.serves packet.transport = true ∧
        criteria.source.holds read packet.source = true ∧
        covers read criteria.destination packet.destination = true := by
  simp only [Criteria.holds, Bool.and_eq_true, decide_eq_true_eq, and_assoc]

def Rule.holds : Rule → Packet → Bool
  | .redirect criteria _ _, packet => criteria.holds read packet
  | .block criteria, packet => criteria.holds read packet
  | .pass criteria opening, packet =>
      criteria.holds read packet && (!opening || packet.opensConnection)

def Rule.verdict : Rule → Verdict
  | .redirect _ target port => .redirect target port
  | .block _ => .block
  | .pass _ _ => .pass

def filter : FirstMatch Rule Packet Verdict where
  applies := Rule.holds read
  verdict := Rule.verdict
  policy := .pass

/-- What happens to a packet under redirections and filter rules. -/
def evaluate (translations filters : List Rule) (packet : Packet) : Verdict :=
  (filter read).run (translations ++ filters) packet

end PacketFilter
