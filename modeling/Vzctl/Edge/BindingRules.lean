import Mathlib.Data.List.Dedup
import Vzctl.Edge.DnsBind
import Vzctl.Lib.PacketFilter

/-!
# The rules of a firewall binding

The `pf` rules that the lines of a binding denote, and the packets that each
of them is about.
-/

namespace Vzctl

namespace DnsBind

open PacketFilter
open Nftables (AddressReader covers)

namespace FirewallBinding

variable (binding : FirewallBinding) (interface : String)

/-! ## Rules and text -/

def mdnsRule : Rule :=
  .pass ⟨interface, .udp, .oneOf binding.sources, "224.0.0.251",
    .single 5353⟩ false

def redirectRule (dnsPort backendPort : UInt16) : Rule :=
  let gateway := IPv4CIDR.gateway binding.cidr
  .redirect ⟨interface, .udp, .oneOf binding.sources, gateway,
    .single dnsPort⟩ gateway backendPort

def blockDNSRule (dnsPort : UInt16) : Rule :=
  .block ⟨interface, .udp, .any, IPv4CIDR.gateway binding.cidr,
    .single dnsPort⟩

def serviceRule : Rule :=
  .pass ⟨interface, .tcp, .oneOf binding.sources,
    IPv4CIDR.hostService binding.cidr, .oneOf binding.ports⟩ true

def blockServiceRule : Rule :=
  .block ⟨interface, .any, .any, IPv4CIDR.hostService binding.cidr, .any⟩

def translationRules : List Rule :=
  match binding.redirection with
  | some (dnsPort, backendPort) =>
      [binding.redirectRule interface dnsPort backendPort]
  | none => []

def mdnsRules : List Rule :=
  if binding.sources ≠ [] then [binding.mdnsRule interface] else []

def dnsRules : List Rule :=
  match binding.redirection with
  | some (dnsPort, _) => [binding.blockDNSRule interface dnsPort]
  | none => []

def serviceRules : List Rule :=
  if binding.sources ≠ [] ∧ binding.ports ≠ [] then
    [binding.serviceRule interface]
  else
    []

def filterRules : List Rule :=
  binding.mdnsRules interface ++ binding.dnsRules interface ++
    binding.serviceRules interface ++ [binding.blockServiceRule interface]

theorem translations_eq_render :
    binding.translations interface =
      (binding.translationRules interface).map Rule.render := by
  have first : ("rdr pass" ++ " on " : String) = "rdr pass on " := by
    rfl
  have middle : (" inet" ++ " proto udp" ++ " from " : String) =
      " inet proto udp from " := by
    rfl
  unfold translations translationRules
  cases binding.redirection with
  | none => rfl
  | some ports =>
      obtain ⟨dnsPort, backendPort⟩ := ports
      simp only [List.map_cons, List.map_nil, redirectRule, Rule.render,
        Criteria.render, Source.render, Ports.render, Protocol.render,
        renderPort, sourceList, ← first, ← middle, String.append_assoc]

theorem mdnsRule_render :
    "pass in quick on " ++ interface ++ " inet proto udp from " ++
      binding.sourceList ++ " to 224.0.0.251 port 5353 keep state" =
      (binding.mdnsRule interface).render := by
  have first : ("pass in quick" ++ " on " : String) =
      "pass in quick on " := by
    rfl
  have middle : (" inet" ++ " proto udp" ++ " from " : String) =
      " inet proto udp from " := by
    rfl
  have last : (" to " ++ "224.0.0.251" ++ (" port " ++ renderPort 5353) ++ ""
      ++ " keep state" : String) =
      " to 224.0.0.251 port 5353 keep state" := by
    rfl
  simp only [mdnsRule, Rule.render, Criteria.render, Source.render,
    Ports.render, Protocol.render, sourceList, ← first, ← middle, ← last,
    Bool.false_eq_true, if_false, String.append_assoc]

theorem blockDNSRule_render (dnsPort : UInt16) :
    "block in quick on " ++ interface ++ " inet proto udp from any to " ++
      IPv4CIDR.gateway binding.cidr ++ " port " ++ toString dnsPort.toNat =
      (binding.blockDNSRule interface dnsPort).render := by
  have first : ("block in quick" ++ " on " : String) =
      "block in quick on " := by
    rfl
  have middle : (" inet" ++ " proto udp" ++ " from " ++ "any" ++ " to "
      : String) = " inet proto udp from any to " := by
    rfl
  simp only [blockDNSRule, Rule.render, Criteria.render, Source.render,
    Ports.render, Protocol.render, renderPort, ← first, ← middle,
    String.append_assoc]

theorem serviceRule_render :
    "pass in quick on " ++ interface ++ " inet proto tcp from " ++
      binding.sourceList ++ " to " ++ IPv4CIDR.hostService binding.cidr ++
      " port " ++ binding.portList ++ " flags S/SA keep state" =
      (binding.serviceRule interface).render := by
  have first : ("pass in quick" ++ " on " : String) =
      "pass in quick on " := by
    rfl
  have middle : (" inet" ++ " proto tcp" ++ " from " : String) =
      " inet proto tcp from " := by
    rfl
  have brace : (" port \x7b " : String) = " port " ++ "\x7b " := by
    rfl
  have last : (" flags S/SA" ++ " keep state" : String) =
      " flags S/SA keep state" := by
    rfl
  have ports : binding.portList =
      "\x7b " ++ ", ".intercalate (binding.ports.map renderPort) ++
        " \x7d" := rfl
  simp only [serviceRule, Rule.render, Criteria.render, Source.render,
    Ports.render, Protocol.render, sourceList, ports, brace, ← first,
    ← middle, ← last, if_true, String.append_assoc]

theorem blockServiceRule_render :
    "block in quick on " ++ interface ++ " inet from any to " ++
      IPv4CIDR.hostService binding.cidr =
      (binding.blockServiceRule interface).render := by
  have first : ("block in quick" ++ " on " : String) =
      "block in quick on " := by
    rfl
  have middle : (" inet" ++ "" ++ " from " ++ "any" ++ " to " : String) =
      " inet from any to " := by
    rfl
  simp only [blockServiceRule, Rule.render, Criteria.render, Source.render,
    Ports.render, Protocol.render, ← first, ← middle, String.append_assoc,
    String.append_empty]

theorem filters_eq_render :
    binding.filters interface =
      (binding.filterRules interface).map Rule.render := by
  unfold filters filterRules mdnsRules dnsRules serviceRules
  simp only [mdnsRule_render, serviceRule_render, blockServiceRule_render,
    blockDNSRule_render, List.map_append, List.map_cons, List.map_nil,
    apply_ite (List.map Rule.render)]
  cases binding.redirection with
  | none => rfl
  | some ports => rfl

end FirewallBinding

end DnsBind

end Vzctl
