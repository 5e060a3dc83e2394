import Vzctl.Router.ForwardRuleset

/-!
# What the firewall of a router means

Between two attached networks the firewall forwards what the policies of the
source allow, where addresses tell the networks apart.  A policy for the
internet reaches every address outside the private ranges, also one of an
attached network.
-/

namespace Vzctl

open Nftables

/-- Documented of `nft`: the canonical text of a network stands for its
addresses. -/
def ReadsNetworks (read : AddressReader) : Prop :=
  ∀ cidr : IPv4CIDR, read cidr.canonical = some cidr.block

/-- A reader of addresses that only knows networks of the daemon. -/
def networkReader : AddressReader := fun text =>
  (IPv4CIDR.parse text).toOption.map IPv4CIDR.block

theorem readsNetworks_networkReader : ReadsNetworks networkReader := by
  intro cidr
  rw [networkReader, cidr.parse_canonical]
  rfl

def privateNetworks : List IPv4CIDR :=
  privateRanges.filterMap fun range => (IPv4CIDR.parse range).toOption

theorem canonical_privateNetworks :
    privateNetworks.map IPv4CIDR.canonical = privateRanges := by
  rfl

/-- The address is in no private range. -/
def OutsidePrivate (address : UInt32) : Prop :=
  ∀ range ∈ privateNetworks, address.toNat ∉ range.block

theorem outsidePrivate_iff {read : AddressReader}
    (documented : ReadsNetworks read) {address : UInt32} :
    (∀ range ∈ privateRanges, covers read range address = false) ↔
      OutsidePrivate address := by
  have covered : ∀ range : IPv4CIDR,
      covers read range.canonical address = false ↔
        address.toNat ∉ range.block := by
    intro range
    rw [← covers_eq_true_iff (documented range), Bool.not_eq_true]
  rw [← canonical_privateNetworks, List.forall_mem_map]
  exact forall_congr' fun range => imp_congr_right fun _ => covered range

namespace RouterPlan

/-- A policy of `source` allows flows of a kind to a target. -/
def AllowsTarget (plan : RouterPlan) (source : RouterNetwork)
    (target : String) (transport : Transport) : Prop :=
  ∃ policy ∈ plan.policies, policy.network = source.name ∧
    ∃ allow ∈ policy.allow, allow.target = target ∧
      serves allow.proto allow.ports transport = true

instance (plan : RouterPlan) (source : RouterNetwork) (target : String)
    (transport : Transport) :
    Decidable (plan.AllowsTarget source target transport) :=
  inferInstanceAs (Decidable (∃ _ ∈ _, _ ∧ ∃ _ ∈ _, _ ∧ _))

/-- An attached network is the only one with an address. -/
structure OnlyNetwork (read : AddressReader) (plan : RouterPlan)
    (network : RouterNetwork) (address : UInt32) : Prop where
  member : network ∈ plan.networks
  covered : covers read network.cidr address = true
  only : ∀ other ∈ plan.networks, covers read other.cidr address = true →
    other = network

section Networks

variable {read : AddressReader} {plan : RouterPlan}
  {source target : RouterNetwork} {flow : IPv4Packet}

theorem allows_iff_of_onlyNetwork (documented : ReadsNetworks read)
    (fromSource : plan.OnlyNetwork read source flow.source)
    (toTarget : plan.OnlyNetwork read target flow.destination)
    (notNamedInternet : target.name ≠ internetPolicyTarget) :
    plan.Allows read flow ↔
      plan.AllowsTarget source target.name flow.transport ∨
        OutsidePrivate flow.destination ∧
          plan.AllowsTarget source internetPolicyTarget flow.transport := by
  constructor
  · rintro ⟨network, member, covered, policy, policyMember, named, allow,
      allowMember, served, reached⟩
    rw [fromSource.only network member covered] at named
    by_cases internet : allow.target = internetPolicyTarget
    · rw [if_pos internet, outsidePrivate_iff documented] at reached
      exact .inr ⟨reached, policy, policyMember, named, allow, allowMember,
        internet, served⟩
    · rw [if_neg internet] at reached
      obtain ⟨other, otherMember, otherNamed, otherCovers⟩ := reached
      rw [toTarget.only other otherMember otherCovers] at otherNamed
      exact .inl ⟨policy, policyMember, named, allow, allowMember,
        otherNamed.symm, served⟩
  · rintro (⟨policy, policyMember, named, allow, allowMember, targeted,
      served⟩ | ⟨outside, policy, policyMember, named, allow, allowMember,
      internet, served⟩)
    · refine ⟨source, fromSource.member, fromSource.covered, policy,
        policyMember, named, allow, allowMember, served, ?_⟩
      rw [if_neg (targeted ▸ notNamedInternet)]
      exact ⟨target, toTarget.member, targeted.symm, toTarget.covered⟩
    · refine ⟨source, fromSource.member, fromSource.covered, policy,
        policyMember, named, allow, allowMember, served, ?_⟩
      rw [if_pos internet, outsidePrivate_iff documented]
      exact outside

end Networks

/-- The firewall of a plan means its policies. -/
theorem firewall_of_plan (read : AddressReader)
    (documented : ReadsNetworks read) (plan : RouterPlan) :
    plan.nftables = plan.ruleset.render ∧
      (∀ flow, plan.ruleset.forwards read (opening flow) = true ↔
        plan.Allows read flow) ∧
      ∀ source target flow,
        plan.OnlyNetwork read source flow.source →
        plan.OnlyNetwork read target flow.destination →
        target.name ≠ internetPolicyTarget →
        (plan.ruleset.forwards read (opening flow) = true ↔
          plan.AllowsTarget source target.name flow.transport ∨
            OutsidePrivate flow.destination ∧
              plan.AllowsTarget source internetPolicyTarget
                flow.transport) := by
  refine ⟨plan.nftables_eq_render, forwards_opening_iff, ?_⟩
  intro source target flow fromSource toTarget notNamedInternet
  rw [forwards_opening_iff]
  exact allows_iff_of_onlyNetwork documented fromSource toTarget
    notNamedInternet

/-! ## Examples of plans -/

def routerOn (name cidr : String) : RouterNetwork where
  name := name
  cidr := cidr
  address := IPv4CIDR.router cidr
  natEgress := true

/-- A policy with one entry for HTTPS. -/
def httpsPolicy (network target : String) : ForwardPolicy where
  name := network ++ "-https"
  network := network
  forward := "deny-all"
  allow := [⟨target, "tcp", [443]⟩]
  via := none

def httpsFlow (source destination : UInt32) : IPv4Packet where
  source := source
  destination := destination
  transport := .tcp 443

def lan : RouterNetwork := routerOn "lan" "10.90.0.0/24"

def dmz : RouterNetwork := routerOn "dmz" "10.80.0.0/24"

theorem firewall_of_lan_and_dmz :
    ∃ plan,
      ofNetworks "router" [lan, dmz] [httpsPolicy "lan" "dmz"] [] =
        .ok plan ∧
      plan.ruleset.forwards networkReader
        (opening (httpsFlow 0x0A5A000A 0x0A50000A)) = true := by
  have accepted :
      (ofNetworks "router" [lan, dmz] [httpsPolicy "lan" "dmz"] []).isOk =
        true := by
    rfl
  obtain ⟨plan, built⟩ := Outcome.exists_of_isOk accepted
  have parts : ∀ plan,
      ofNetworks "router" [lan, dmz] [httpsPolicy "lan" "dmz"] [] =
        .ok plan →
      plan.networks = [dmz, lan] ∧
        plan.AllowsTarget lan "dmz" (.tcp 443) := by
    decide
  obtain ⟨networks, allowed⟩ := parts plan built
  have onlyLan : plan.OnlyNetwork networkReader lan 0x0A5A000A := by
    refine ⟨by simp [networks], by rfl, ?_⟩
    rw [networks]
    decide +kernel
  have onlyDmz : plan.OnlyNetwork networkReader dmz 0x0A50000A := by
    refine ⟨by simp [networks], by rfl, ?_⟩
    rw [networks]
    decide
  have meaning :=
    firewall_of_plan networkReader readsNetworks_networkReader plan
  exact ⟨plan, built,
    (meaning.2.2 lan dmz (httpsFlow 0x0A5A000A 0x0A50000A) onlyLan onlyDmz
      (by decide)).mpr (.inl allowed)⟩

/-! ## Networks that addresses do not tell apart -/

/-- The claim about one flow between two networks of an accepted plan: it is
forwarded exactly when a policy of the source allows the target. -/
def FollowsPolicy (networks : List RouterNetwork)
    (policies : List ForwardPolicy) (source target : RouterNetwork)
    (flow : IPv4Packet) : Prop :=
  ∀ plan, ofNetworks "router" networks policies [] = .ok plan →
    covers networkReader source.cidr flow.source = true →
    covers networkReader target.cidr flow.destination = true →
    (plan.ruleset.forwards networkReader (opening flow) = true ↔
      plan.AllowsTarget source target.name flow.transport)

instance (networks : List RouterNetwork) (policies : List ForwardPolicy)
    (source target : RouterNetwork) (flow : IPv4Packet) :
    Decidable (FollowsPolicy networks policies source target flow) :=
  inferInstanceAs (Decidable (∀ _, _ → _ → _ → (_ ↔ _)))

/-- A network whose addresses are not private. -/
def publicNet : RouterNetwork := routerOn "public" "203.0.113.0/24"

/-- A network that has the addresses of `lan` among its own. -/
def campus : RouterNetwork := routerOn "campus" "10.90.0.0/16"

def namedInternet : RouterNetwork := routerOn "internet" "10.70.0.0/24"

/-- A policy for the internet opens a public network, a policy of an
enclosing network opens its target to an enclosed one, and a network called
`internet` is never a target. -/
theorem addresses_may_not_identify_networks :
    ¬ FollowsPolicy [lan, publicNet] [httpsPolicy "lan" "internet"]
        lan publicNet (httpsFlow 0x0A5A000A 0xCB00710A) ∧
      ¬ FollowsPolicy [campus, dmz, lan] [httpsPolicy "campus" "dmz"] lan dmz
        (httpsFlow 0x0A5A000A 0x0A50000A) ∧
      ¬ FollowsPolicy [lan, namedInternet] [httpsPolicy "lan" "internet"]
        lan namedInternet (httpsFlow 0x0A5A000A 0x0A46000A) := by
  decide +kernel

end RouterPlan

end Vzctl
