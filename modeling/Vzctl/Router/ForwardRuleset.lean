import Vzctl.Lib.PacketFilter
import Vzctl.Router.RouteTypes

/-!
# The firewall of a router

The ruleset that the text of a plan denotes, and the flows that it forwards.
-/

namespace Vzctl

open Nftables

/-- The destinations that `to: internet` leaves out. -/
def privateRanges : List String :=
  ["10.0.0.0/8", "172.16.0.0/12", "192.168.0.0/16", "127.0.0.0/8",
    "169.254.0.0/16"]

namespace ActiveForwardRule

variable (rule : ActiveForwardRule)

def destinationMatch : Match :=
  if rule.isInternet then
    .daddrOutside privateRanges
  else
    .daddr rule.destinationCIDR

def serviceMatch : Match :=
  if rule.proto = "icmp" then
    .protocolICMP
  else
    .dport rule.proto rule.ports

def nftRule : Nftables.Rule where
  conditions :=
    [.saddr rule.sourceCIDR, rule.destinationMatch, rule.serviceMatch]
  statement := .accept
  comment := "vzctl:" ++ rule.policy

theorem destinationText_eq_render :
    rule.destinationText = rule.destinationMatch.render := by
  have ranges : "ip daddr " ++ internetDestinationExpr =
      "ip daddr != \x7b " ++ ", ".intercalate privateRanges ++ " \x7d" := by
    rfl
  unfold destinationText destinationMatch
  by_cases internet : rule.isInternet = true
  · rw [if_pos internet, if_pos internet, Match.render_daddrOutside, ranges]
  · rw [if_neg internet, if_neg internet, Match.render_daddr]

theorem serviceText_eq_render :
    rule.serviceText = " " ++ rule.serviceMatch.render := by
  have brace : (" dport \x7b " : String) = " dport " ++ "\x7b " := by
    rfl
  have icmpText : (" ip protocol icmp" : String) =
      " " ++ "ip protocol icmp" := by
    rfl
  obtain ⟨_, _, _, proto, ports, _, _⟩ := rule
  by_cases icmp : proto = "icmp"
  · simp only [serviceText, serviceMatch, icmp, if_true,
      Match.render_protocolICMP, icmpText]
  · simp only [serviceText, serviceMatch, icmp, if_false,
      Match.render_dport, brace]
    unfold renderPorts
    split
    · simp only [String.append_assoc]
    · simp only [String.append_assoc]

theorem expression_eq_render :
    rule.expression = "    " ++ rule.nftRule.render := by
  have first : ("    ip saddr " : String) = "    " ++ "ip saddr " := by
    rfl
  have last : (" accept comment \"vzctl:" : String) =
      " " ++ "accept" ++ " " ++ ("comment \"" ++ "vzctl:") := by
    rfl
  have joined : rule.nftRule.render =
      "ip saddr " ++ rule.sourceCIDR ++ " " ++ rule.destinationMatch.render ++
        " " ++ rule.serviceMatch.render ++ " " ++ "accept" ++ " " ++
        ("comment \"" ++ ("vzctl:" ++ rule.policy) ++ "\"") := by
    simp only [Rule.render, nftRule, Match.render_saddr, Statement.render,
      List.map_cons, List.map_nil, List.cons_append, List.nil_append,
      String.intercalate_cons_cons, String.intercalate_singleton,
      String.append_assoc]
  calc
    rule.expression =
        "    ip saddr " ++ rule.sourceCIDR ++ " " ++ rule.destinationText ++
          rule.serviceText ++ " accept comment \"vzctl:" ++ rule.policy ++
          "\"" := rfl
    _ = "    " ++ rule.nftRule.render := by
      simp only [joined, destinationText_eq_render, serviceText_eq_render,
        last, first, String.append_assoc]

end ActiveForwardRule

namespace RouterPlan

variable (plan : RouterPlan)

/-- `ct state established,related accept`. -/
def returnRule : Nftables.Rule where
  conditions := [.ctState [.established, .related]]
  statement := .accept
  comment := "vzctl:return"

def forwardChain : Chain where
  name := "forward"
  type := "filter"
  hook := "forward"
  priority := "0"
  policy := .drop
  rules := returnRule :: plan.rules.map ActiveForwardRule.nftRule

def masqueradeRule (cidr : String) : Nftables.Rule where
  conditions := [.saddr cidr]
  statement := .masquerade
  comment := "vzctl:internet"

def postroutingChain : Chain where
  name := "postrouting"
  type := "nat"
  hook := "postrouting"
  priority := "srcnat"
  policy := .accept
  rules := plan.internetSources.map masqueradeRule

/-- The ruleset that the text of the plan denotes. -/
def ruleset : Nftables.Table where
  family := "inet"
  name := "vzctl"
  chains := plan.forwardChain ::
    if !plan.internetSources.isEmpty && plan.hasNatEgress then
      [plan.postroutingChain]
    else
      []

theorem masqueradeRule_render (cidr : String) :
    "    ip saddr " ++ cidr ++ " masquerade comment \"vzctl:internet\"" =
      "    " ++ (masqueradeRule cidr).render := by
  have first : ("    ip saddr " : String) = "    " ++ "ip saddr " := by
    rfl
  have last : (" masquerade comment \"vzctl:internet\"" : String) =
      " " ++ "masquerade" ++ " " ++
        ("comment \"" ++ "vzctl:internet" ++ "\"") := by
    rfl
  simp only [first, last, Rule.render, masqueradeRule, Match.render_saddr,
    Statement.render, List.map_cons, List.map_nil, List.cons_append,
    List.nil_append, String.intercalate_cons_cons,
    String.intercalate_singleton, String.append_assoc]

theorem forwardChain_lines :
    plan.forwardChain.lines =
      ["  chain forward \x7b",
        "    type filter hook forward priority 0; policy drop;",
        "    ct state established,related accept comment \"vzctl:return\""] ++
        plan.rules.map ActiveForwardRule.expression ++ ["  \x7d"] := by
  have expressions : plan.rules.map ActiveForwardRule.expression =
      plan.rules.map fun rule => "    " ++ rule.nftRule.render :=
    List.map_congr_left fun rule _ => rule.expression_eq_render
  have header : ("  chain " ++ "forward" ++ " \x7b" : String) =
      "  chain forward \x7b" := by
    rfl
  have hook : ("    type " ++ "filter" ++ " hook " ++ "forward" ++
      " priority " ++ "0" ++ "; policy " ++ "drop" ++ ";" : String) =
      "    type filter hook forward priority 0; policy drop;" := by
    rfl
  have returns : "    " ++ returnRule.render =
      "    ct state established,related accept comment \"vzctl:return\"" := by
    rfl
  rw [expressions, ← header, ← hook, ← returns]
  simp [Chain.lines, forwardChain, Verdict.render, Function.comp_def]

theorem postroutingChain_lines :
    plan.postroutingChain.lines =
      ["  chain postrouting \x7b",
        "    type nat hook postrouting priority srcnat; policy accept;"] ++
        plan.internetSources.map (fun cidr =>
          "    ip saddr " ++ cidr ++
            " masquerade comment \"vzctl:internet\"") ++ ["  \x7d"] := by
  have header : ("  chain " ++ "postrouting" ++ " \x7b" : String) =
      "  chain postrouting \x7b" := by
    rfl
  have hook : ("    type " ++ "nat" ++ " hook " ++ "postrouting" ++
      " priority " ++ "srcnat" ++ "; policy " ++ "accept" ++ ";" : String) =
      "    type nat hook postrouting priority srcnat; policy accept;" := by
    rfl
  rw [← header, ← hook]
  simp only [masqueradeRule_render]
  simp [Chain.lines, postroutingChain, Verdict.render, Function.comp_def]

theorem nftables_eq_render : plan.nftables = plan.ruleset.render := by
  have header : ("table " ++ "inet" ++ " " ++ "vzctl" ++ " \x7b" : String) =
      "table inet vzctl \x7b" := by
    rfl
  unfold nftables Table.render ruleset
  rw [← header]
  by_cases masquerades :
      (!plan.internetSources.isEmpty && plan.hasNatEgress) = true
  · simp only [if_pos masquerades, List.flatMap_cons, List.flatMap_nil,
      forwardChain_lines, postroutingChain_lines]
    simp
  · simp only [if_neg masquerades, List.flatMap_cons, List.flatMap_nil,
      forwardChain_lines]
    simp

/-! ## Forwarded flows -/

section Flows

variable {plan} {read : AddressReader}

/-- The protocol and port of a flow are among those allowed. -/
def serves (proto : String) (ports : List Int) (transport : Transport) :
    Bool :=
  match transport with
  | .tcp port => proto = "tcp" ∧ (port.toNat : Int) ∈ ports
  | .udp port => proto = "udp" ∧ (port.toNat : Int) ∈ ports
  | .icmp => proto = "icmp"
  | .other => false

/-- The first packet of a flow. -/
def opening (flow : IPv4Packet) : Packet where
  toIPv4Packet := flow
  state := .new

/-- An entry allows a flow: its target is the internet, or a network with the
destination. -/
def permits (read : AddressReader) (plan : RouterPlan) (allow : PolicyAllow)
    (flow : IPv4Packet) : Prop :=
  serves allow.proto allow.ports flow.transport = true ∧
    if allow.target = internetPolicyTarget then
      ∀ range ∈ privateRanges, covers read range flow.destination = false
    else
      ∃ network ∈ plan.networks, network.name = allow.target ∧
        covers read network.cidr flow.destination = true

/-- Some policy of a network with the source allows a flow. -/
def Allows (read : AddressReader) (plan : RouterPlan) (flow : IPv4Packet) :
    Prop :=
  ∃ network ∈ plan.networks, covers read network.cidr flow.source = true ∧
    ∃ policy ∈ plan.policies, policy.network = network.name ∧
      ∃ allow ∈ policy.allow, permits read plan allow flow

theorem serviceMatch_holds {rule : ActiveForwardRule} {flow : IPv4Packet} :
    rule.serviceMatch.holds read (opening flow) =
      serves rule.proto rule.ports flow.transport := by
  unfold ActiveForwardRule.serviceMatch
  by_cases icmp : rule.proto = "icmp"
  · rw [if_pos icmp]
    cases carried : flow.transport <;>
      simp [Match.holds, serves, opening, carried, icmp]
  · rw [if_neg icmp]
    cases carried : flow.transport <;>
      simp [Match.holds, serves, opening, carried, icmp]

theorem covers_cidrs_iff {name : String} {address : UInt32}
    (attached : name ∈ plan.networks.map (·.name)) :
    covers read (plan.cidrs name) address = true ↔
      ∃ network ∈ plan.networks, network.name = name ∧
        covers read network.cidr address = true := by
  constructor
  · intro covered
    obtain ⟨network, member, rfl⟩ := List.mem_map.mp attached
    rw [cidrs_of_mem member] at covered
    exact ⟨network, member, rfl, covered⟩
  · rintro ⟨network, member, rfl, covered⟩
    rw [cidrs_of_mem member]
    exact covered

theorem destinationMatch_holds_iff {policy : ForwardPolicy}
    {allow : PolicyAllow} {flow : IPv4Packet}
    (policyMember : policy ∈ plan.policies)
    (allowMember : allow ∈ policy.allow) :
    (plan.activeRule policy allow).destinationMatch.holds read
        (opening flow) = true ↔
      if allow.target = internetPolicyTarget then
        ∀ range ∈ privateRanges, covers read range flow.destination = false
      else
        ∃ network ∈ plan.networks, network.name = allow.target ∧
          covers read network.cidr flow.destination = true := by
  have allowValid :=
    (plan.valid.policies policy policyMember).allows allow allowMember
  unfold ActiveForwardRule.destinationMatch
  by_cases internet : allow.target = internetPolicyTarget
  · simp [ActiveForwardRule.isInternet, activeRule, internet, Match.holds,
      opening]
  · rw [if_neg internet,
      ← covers_cidrs_iff (allowValid.attached internet)]
    simp [ActiveForwardRule.isInternet, activeRule, internet, Match.holds,
      opening]

theorem nftRule_holds_iff {policy : ForwardPolicy} {allow : PolicyAllow}
    {flow : IPv4Packet} (policyMember : policy ∈ plan.policies)
    (allowMember : allow ∈ policy.allow) :
    (plan.activeRule policy allow).nftRule.holds read (opening flow) = true ↔
      (∃ network ∈ plan.networks, network.name = policy.network ∧
        covers read network.cidr flow.source = true) ∧
        permits read plan allow flow := by
  have attached := (plan.valid.policies policy policyMember).attached
  have conditions :
      (plan.activeRule policy allow).nftRule.holds read (opening flow) =
          true ↔
        covers read (plan.cidrs policy.network) flow.source = true ∧
          (plan.activeRule policy allow).destinationMatch.holds read
            (opening flow) = true ∧
          (plan.activeRule policy allow).serviceMatch.holds read
            (opening flow) = true := by
    simp [Rule.holds, ActiveForwardRule.nftRule, Match.holds, activeRule,
      opening]
  rw [conditions, covers_cidrs_iff attached,
    destinationMatch_holds_iff policyMember allowMember, serviceMatch_holds]
  exact and_congr_right fun _ => and_comm

theorem returnRule_holds (flow : IPv4Packet) :
    returnRule.holds read (opening flow) = false := by
  simp [Rule.holds, returnRule, Match.holds, opening]

theorem forwards_iff_forwardChain (packet : Packet) :
    plan.ruleset.forwards read packet = true ↔
      plan.forwardChain.verdict read packet = .accept := by
  have translated : plan.postroutingChain.verdict read packet = .accept :=
    Chain.verdict_of_policy_accept rfl
  unfold Table.forwards ruleset
  split
  · simp [translated]
  · simp

theorem forwards_opening_iff (flow : IPv4Packet) :
    plan.ruleset.forwards read (opening flow) = true ↔
      plan.Allows read flow := by
  rw [forwards_iff_forwardChain, Chain.verdict_eq_accept_iff rfl]
  constructor
  · rintro ⟨nftRule, ruleMember, holds⟩
    rcases List.mem_cons.mp ruleMember with rfl | ruleMember
    · rw [returnRule_holds] at holds
      cases holds
    · obtain ⟨rule, active, rfl⟩ := List.mem_map.mp ruleMember
      obtain ⟨policy, policyMember, active⟩ := List.mem_flatMap.mp active
      obtain ⟨allow, allowMember, rfl⟩ := List.mem_map.mp active
      obtain ⟨⟨network, member, named, covered⟩, permitted⟩ :=
        (nftRule_holds_iff policyMember allowMember).mp holds
      exact ⟨network, member, covered, policy, policyMember, named.symm,
        allow, allowMember, permitted⟩
  · rintro ⟨network, member, covered, policy, policyMember, named, allow,
      allowMember, permitted⟩
    refine ⟨(plan.activeRule policy allow).nftRule, ?_,
      (nftRule_holds_iff policyMember allowMember).mpr
        ⟨⟨network, member, named.symm, covered⟩, permitted⟩⟩
    apply List.mem_cons_of_mem
    apply List.mem_map_of_mem
    apply List.mem_flatMap.mpr
    exact ⟨policy, policyMember, List.mem_map_of_mem allowMember⟩

end Flows

end RouterPlan

end Vzctl
