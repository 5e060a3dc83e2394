import Vzctl.Lib.AlignedBlock
import Vzctl.Lib.FirstMatch

/-!
# Rulesets of the kernel's packet filter

The part of the `nft` language that forwarding rules between IPv4 networks are
written in: its text, and what a loaded table does with the first packet of a
flow and with the packets that follow.  How `nft` reads an address is left to
a parameter.
-/

/-- What an IPv4 packet carries, with the destination port where there is
one. -/
inductive Transport where
  | tcp (port : UInt16)
  | udp (port : UInt16)
  | icmp
  | other
  deriving DecidableEq, Repr

structure IPv4Packet where
  source : UInt32
  destination : UInt32
  transport : Transport
  deriving DecidableEq, Repr

namespace Nftables

/-- What connection tracking knows about a packet. -/
inductive ConnectionState where
  | new
  | established
  | related
  | invalid
  deriving DecidableEq, Repr

def ConnectionState.render : ConnectionState → String
  | .new => "new"
  | .established => "established"
  | .related => "related"
  | .invalid => "invalid"

structure Packet extends IPv4Packet where
  state : ConnectionState
  deriving DecidableEq, Repr

inductive Match where
  | ctState (states : List ConnectionState)
  | saddr (address : String)
  | daddr (address : String)
  | daddrOutside (addresses : List String)
  | protocolICMP
  | dport (protocol : String) (ports : List Int)
  deriving DecidableEq, Repr

inductive Statement where
  | accept
  | masquerade
  deriving DecidableEq, Repr

structure Rule where
  conditions : List Match
  statement : Statement
  comment : String
  deriving DecidableEq, Repr

inductive Verdict where
  | accept
  | drop
  deriving DecidableEq, Repr

/-- A base chain. -/
structure Chain where
  name : String
  type : String
  hook : String
  priority : String
  policy : Verdict
  rules : List Rule
  deriving DecidableEq, Repr

structure Table where
  family : String
  name : String
  chains : List Chain
  deriving DecidableEq, Repr

/-! ## Text -/

/-- An anonymous set; a single element stands without braces. -/
def renderPorts : List Int → String
  | [port] => toString port
  | ports => "\x7b " ++ ", ".intercalate (ports.map toString) ++ " \x7d"

def Match.render : Match → String
  | .ctState states =>
      "ct state " ++ ",".intercalate (states.map ConnectionState.render)
  | .saddr address => "ip saddr " ++ address
  | .daddr address => "ip daddr " ++ address
  | .daddrOutside addresses =>
      "ip daddr != \x7b " ++ ", ".intercalate addresses ++ " \x7d"
  | .protocolICMP => "ip protocol icmp"
  | .dport protocol ports => protocol ++ " dport " ++ renderPorts ports

@[simp]
theorem Match.render_saddr (address : String) :
    (Match.saddr address).render = "ip saddr " ++ address := rfl

@[simp]
theorem Match.render_daddr (address : String) :
    (Match.daddr address).render = "ip daddr " ++ address := rfl

@[simp]
theorem Match.render_daddrOutside (addresses : List String) :
    (Match.daddrOutside addresses).render =
      "ip daddr != \x7b " ++ ", ".intercalate addresses ++ " \x7d" := rfl

@[simp]
theorem Match.render_protocolICMP :
    Match.protocolICMP.render = "ip protocol icmp" := rfl

@[simp]
theorem Match.render_dport (protocol : String) (ports : List Int) :
    (Match.dport protocol ports).render =
      protocol ++ " dport " ++ renderPorts ports := rfl

def Statement.render : Statement → String
  | .accept => "accept"
  | .masquerade => "masquerade"

def Verdict.render : Verdict → String
  | .accept => "accept"
  | .drop => "drop"

def Rule.render (rule : Rule) : String :=
  " ".intercalate (rule.conditions.map Match.render ++
    [rule.statement.render, "comment \"" ++ rule.comment ++ "\""])

def Chain.lines (chain : Chain) : List String :=
  ["  chain " ++ chain.name ++ " \x7b",
    "    type " ++ chain.type ++ " hook " ++ chain.hook ++ " priority " ++
      chain.priority ++ "; policy " ++ chain.policy.render ++ ";"] ++
    chain.rules.map (fun rule => "    " ++ rule.render) ++
    ["  \x7d"]

def Table.render (table : Table) : String :=
  "\n".intercalate
    (["table " ++ table.family ++ " " ++ table.name ++ " \x7b"] ++
      table.chains.flatMap Chain.lines ++ ["\x7d", ""])

theorem Table.render_starts (table : Table) :
    ∃ rest, table.render =
      "table " ++ table.family ++ " " ++ table.name ++ " \x7b" ++ rest := by
  unfold render
  simp only [List.cons_append]
  rw [String.intercalate_cons_of_ne_nil (by simp)]
  exact ⟨_, String.append_assoc⟩

theorem Table.render_ends (table : Table) :
    ∃ body, table.render = body ++ "\x7d\n" := by
  have last : "\n".intercalate ["\x7d", ""] = "\x7d\n" := by
    rfl
  unfold render
  rw [String.intercalate_append_of_ne_nil (by simp) (by simp), last]
  exact ⟨_, rfl⟩

/-! ## Verdicts -/

/-- The addresses that a text stands for, where `nft` can read it. -/
abbrev AddressReader := String → Option AlignedBlock

variable (read : AddressReader)

/-- The address lies in the block that the text stands for. -/
def covers (text : String) (address : UInt32) : Bool :=
  (read text).any fun block => address.toNat ∈ block

def Match.holds : Match → Packet → Bool
  | .ctState states, packet => packet.state ∈ states
  | .saddr address, packet => covers read address packet.source
  | .daddr address, packet => covers read address packet.destination
  | .daddrOutside addresses, packet =>
      !addresses.any fun address => covers read address packet.destination
  | .protocolICMP, packet => packet.transport = .icmp
  | .dport protocol ports, packet =>
      match packet.transport with
      | .tcp port => protocol = "tcp" ∧ (port.toNat : Int) ∈ ports
      | .udp port => protocol = "udp" ∧ (port.toNat : Int) ∈ ports
      | .icmp => false
      | .other => false

def Rule.holds (rule : Rule) (packet : Packet) : Bool :=
  rule.conditions.all fun condition => condition.holds read packet

/-- `masquerade` rewrites the source and lets the packet go on. -/
def Statement.verdict : Statement → Verdict
  | .accept => .accept
  | .masquerade => .accept

def Chain.filter (chain : Chain) : FirstMatch Rule Packet Verdict where
  applies := Rule.holds read
  verdict rule := rule.statement.verdict
  policy := chain.policy

def Chain.verdict (chain : Chain) (packet : Packet) : Verdict :=
  (chain.filter read).run chain.rules packet

/-- A forwarded packet passes when no base chain on its way drops it. -/
def Table.forwards (table : Table) (packet : Packet) : Bool :=
  table.chains.all fun chain => chain.verdict read packet = .accept

variable {read} {packet : Packet}

theorem Statement.verdict_eq_accept (statement : Statement) :
    statement.verdict = .accept := by
  cases statement
  · rfl
  · rfl

theorem Chain.verdict_eq_accept_iff {chain : Chain}
    (dropping : chain.policy = .drop) :
    chain.verdict read packet = .accept ↔
      ∃ rule ∈ chain.rules, rule.holds read packet = true := by
  have otherPolicy : (chain.filter read).policy ≠ .accept := by
    simp [Chain.filter, dropping]
  exact FirstMatch.run_eq_iff_of_uniform
    (fun rule _ => rule.statement.verdict_eq_accept) otherPolicy

theorem Chain.verdict_of_policy_accept {chain : Chain}
    (accepting : chain.policy = .accept) :
    chain.verdict read packet = .accept := by
  unfold Chain.verdict FirstMatch.run
  cases (chain.filter read).deciding chain.rules packet with
  | none => exact accepting
  | some rule => exact rule.statement.verdict_eq_accept

theorem covers_eq_true_iff {text : String} {block : AlignedBlock}
    {address : UInt32} (readAs : read text = some block) :
    covers read text address = true ↔ address.toNat ∈ block := by
  simp [covers, readAs]

end Nftables
