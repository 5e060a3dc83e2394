import Vzctl.Edge.BindingRules

/-!
# Verdicts of a firewall binding

Which packets each rule of a binding is about, and what the rules of a binding
say together about packets for its service address and for its gateway.
-/

namespace Vzctl

open Nftables (AddressReader covers)

/-- Documented of `pf`: the canonical text of a network stands for its
addresses, and the text of an address for this address. -/
structure ReadsIPv4 (read : AddressReader) : Prop where
  networks : ∀ cidr : IPv4CIDR, read cidr.canonical = some cidr.block
  addresses : ∀ address : UInt32,
    read (inetNtop address) = some (.single address.toNat)

/-- A reader of networks of the daemon and of single addresses. -/
def ipv4Reader : AddressReader := fun text =>
  match IPv4CIDR.parse text with
  | .ok cidr => some cidr.block
  | .error _ =>
      (inetPton text).map fun address => AlignedBlock.single address.toNat

theorem IPv4CIDR.parse_inetNtop (address : UInt32) :
    IPv4CIDR.parse (inetNtop address) =
      .error (.invalidCIDR (inetNtop address)) := by
  have noSlash : '/' ∉ (inetNtop address).toList :=
    not_mem_inetNtop (by decide) (by decide) address
  have whole : (inetNtop address).toList.splitOn '/' =
      [(inetNtop address).toList] := by
    rw [List.splitOn_eq_singleton]
    exact noSlash
  unfold IPv4CIDR.parse
  rw [whole]

namespace IPv4CIDR

variable (cidr : IPv4CIDR)

theorem network_mod_four : cidr.network.toNat % 4 = 0 := by
  have range := cidr.prefixRange
  have four : 2 ^ 2 ∣ 2 ^ (32 - cidr.prefixLength) :=
    Nat.pow_dvd_pow 2 (by omega)
  exact Nat.mod_eq_zero_of_dvd (four.trans cidr.network_aligned)

theorem toNat_addressAt_one :
    (cidr.addressAt 1).toNat = cidr.network.toNat + 1 := by
  have atLeast := cidr.four_le_size
  exact cidr.toNat_addressAt (by omega)

theorem addressAt_one_ne_network : cidr.addressAt 1 ≠ cidr.network := by
  intro same
  have next := cidr.toNat_addressAt_one
  rw [same] at next
  omega

theorem network_mem_block : cidr.network.toNat ∈ cidr.block :=
  ⟨le_refl _, cidr.block.base_le_last⟩

end IPv4CIDR

theorem readsIPv4_ipv4Reader : ReadsIPv4 ipv4Reader where
  networks cidr := by
    unfold ipv4Reader
    rw [cidr.parse_canonical]
  addresses address := by
    unfold ipv4Reader
    rw [IPv4CIDR.parse_inetNtop, inetPton_inetNtop]
    rfl

theorem ReadsIPv4.covers_address {read : AddressReader}
    (documented : ReadsIPv4 read) {address other : UInt32} :
    covers read (inetNtop address) other = true ↔ other = address := by
  rw [Nftables.covers_eq_true_iff (documented.addresses address),
    AlignedBlock.mem_single_iff, UInt32.toNat_inj]

namespace DnsBind

open PacketFilter

theorem exists_of_isCanonical {text : String}
    (accepted : isCanonical text = true) :
    ∃ cidr, IPv4CIDR.parse text = .ok cidr ∧ cidr.canonical = text := by
  unfold isCanonical at accepted
  split at accepted
  · rename_i cidr parsed
    exact ⟨cidr, parsed, of_decide_eq_true accepted⟩
  · cases accepted

/-- The group that queries of mDNS go to. -/
def mdnsGroup : UInt32 := 0xE00000FB

theorem inetNtop_mdnsGroup : inetNtop mdnsGroup = "224.0.0.251" := by
  rfl

theorem mdnsGroup_ne (cidr : IPv4CIDR) :
    mdnsGroup ≠ cidr.network ∧ mdnsGroup ≠ cidr.addressAt 1 := by
  have aligned := cidr.network_mod_four
  have next := cidr.toNat_addressAt_one
  have group : mdnsGroup.toNat = 0xE00000FB := rfl
  constructor
  · intro same
    rw [← same] at aligned
    omega
  · intro same
    rw [← same] at next
    omega

namespace FirewallBinding

/-- An allowed source has the address. -/
def Allows (binding : FirewallBinding) (address : UInt32) : Prop :=
  ∃ source ∈ binding.allowedSources, ∃ cidr,
    IPv4CIDR.parse source = .ok cidr ∧ address.toNat ∈ cidr.block

/-- A binding that passed the validation, with its network. -/
structure Valid (binding : FirewallBinding) (cidr : IPv4CIDR) : Prop where
  network : IPv4CIDR.parse binding.cidr = .ok cidr
  sources : ∀ source ∈ binding.allowedSources, isCanonical source = true

variable {read : AddressReader} {binding : FirewallBinding}
  {cidr : IPv4CIDR} {interface : String} {packet : Packet}

theorem mem_sources {source : String} :
    source ∈ binding.sources ↔ source ∈ binding.allowedSources := by
  rw [sources, SortedBy.mem_sortedBy, List.mem_dedup]

theorem mem_ports {port : UInt16} :
    port ∈ binding.ports ↔ port ∈ binding.tcpPorts := by
  rw [ports, SortedBy.mem_sortedBy, List.mem_dedup]

theorem sources_ne_nil_iff :
    binding.sources ≠ [] ↔ binding.allowedSources ≠ [] := by
  simp only [ne_eq, List.eq_nil_iff_forall_not_mem, mem_sources]

/-! ## The addresses of a binding -/

theorem Valid.gateway (valid : binding.Valid cidr) :
    IPv4CIDR.gateway binding.cidr = inetNtop cidr.network := by
  unfold IPv4CIDR.gateway
  rw [valid.network]

theorem Valid.hostService (valid : binding.Valid cidr) :
    IPv4CIDR.hostService binding.cidr = inetNtop (cidr.addressAt 1) := by
  have next : cidr.addressAt 1 = cidr.network + 1 := by
    unfold IPv4CIDR.addressAt
    rw [UInt32.ofNat_add, UInt32.ofNat_toNat]
    rfl
  unfold IPv4CIDR.hostService
  rw [valid.network, next]

/-! ## What each rule is about -/

theorem covers_of_isCanonical (documented : ReadsIPv4 read) {text : String}
    (accepted : isCanonical text = true) {address : UInt32} :
    covers read text address = true ↔
      ∃ network, IPv4CIDR.parse text = .ok network ∧
        address.toNat ∈ network.block := by
  obtain ⟨network, parsed, written⟩ := exists_of_isCanonical accepted
  have readAs : read text = some network.block := by
    rw [← written]
    exact documented.networks network
  rw [Nftables.covers_eq_true_iff readAs, parsed]
  simp

theorem sources_hold_iff (documented : ReadsIPv4 read)
    (valid : binding.Valid cidr) {address : UInt32} :
    (Source.oneOf binding.sources).holds read address = true ↔
      binding.Allows address := by
  simp only [Source.holds, List.any_eq_true, mem_sources]
  constructor
  · rintro ⟨source, member, covered⟩
    exact ⟨source, member,
      (covers_of_isCanonical documented (valid.sources source member)).mp
        covered⟩
  · rintro ⟨source, member, network⟩
    exact ⟨source, member,
      (covers_of_isCanonical documented (valid.sources source member)).mpr
        network⟩

theorem sources_ne_nil_of_allows {address : UInt32}
    (allowed : binding.Allows address) : binding.sources ≠ [] := by
  obtain ⟨source, member, _⟩ := allowed
  exact List.ne_nil_of_mem (mem_sources.mpr member)

theorem mdnsRule_holds_iff (documented : ReadsIPv4 read)
    (valid : binding.Valid cidr) :
    (binding.mdnsRule interface).holds read packet = true ↔
      packet.interface = interface ∧ packet.transport = .udp 5353 ∧
        binding.Allows packet.source ∧ packet.destination = mdnsGroup := by
  simp only [mdnsRule, Rule.holds, Bool.not_false, Bool.true_or,
    Bool.and_true, Criteria.holds_eq_true_iff,
    sources_hold_iff documented valid, ← inetNtop_mdnsGroup,
    documented.covers_address, Criteria.serves_udp_iff]

theorem redirectRule_holds_iff (documented : ReadsIPv4 read)
    (valid : binding.Valid cidr) {dnsPort backendPort : UInt16} :
    (binding.redirectRule interface dnsPort backendPort).holds read packet =
        true ↔
      packet.interface = interface ∧ packet.transport = .udp dnsPort ∧
        binding.Allows packet.source ∧
        packet.destination = cidr.network := by
  simp only [redirectRule, Rule.holds, Criteria.holds_eq_true_iff,
    sources_hold_iff documented valid, valid.gateway,
    documented.covers_address, Criteria.serves_udp_iff]

theorem blockDNSRule_holds_iff (documented : ReadsIPv4 read)
    (valid : binding.Valid cidr) {dnsPort : UInt16} :
    (binding.blockDNSRule interface dnsPort).holds read packet = true ↔
      packet.interface = interface ∧ packet.transport = .udp dnsPort ∧
        packet.destination = cidr.network := by
  simp only [blockDNSRule, Rule.holds, Criteria.holds_eq_true_iff,
    Source.holds, true_and, valid.gateway, documented.covers_address,
    Criteria.serves_udp_iff]

theorem serviceRule_holds_iff (documented : ReadsIPv4 read)
    (valid : binding.Valid cidr) :
    (binding.serviceRule interface).holds read packet = true ↔
      packet.interface = interface ∧
        (∃ port ∈ binding.tcpPorts, packet.transport = .tcp port) ∧
        binding.Allows packet.source ∧
        packet.destination = cidr.addressAt 1 ∧
        packet.opensConnection = true := by
  simp only [serviceRule, Rule.holds, Bool.and_eq_true, Bool.not_true,
    Bool.false_or, Criteria.holds_eq_true_iff,
    sources_hold_iff documented valid, valid.hostService,
    documented.covers_address, Criteria.serves_tcp_iff, mem_ports, and_assoc]

theorem blockServiceRule_holds_iff (documented : ReadsIPv4 read)
    (valid : binding.Valid cidr) :
    (binding.blockServiceRule interface).holds read packet = true ↔
      packet.interface = interface ∧
        packet.destination = cidr.addressAt 1 := by
  simp only [blockServiceRule, Rule.holds, Criteria.holds_eq_true_iff,
    Criteria.serves, Source.holds, true_and, valid.hostService,
    documented.covers_address]

theorem mem_translationRules {rule : Rule}
    (member : rule ∈ binding.translationRules interface) :
    ∃ dnsPort backendPort,
      rule = binding.redirectRule interface dnsPort backendPort := by
  unfold translationRules at member
  split at member
  · exact ⟨_, _, List.mem_singleton.mp member⟩
  · cases member

theorem mem_mdnsRules {rule : Rule}
    (member : rule ∈ binding.mdnsRules interface) :
    rule = binding.mdnsRule interface := by
  unfold mdnsRules at member
  split at member
  · exact List.mem_singleton.mp member
  · cases member

theorem mem_dnsRules {rule : Rule}
    (member : rule ∈ binding.dnsRules interface) :
    ∃ dnsPort, rule = binding.blockDNSRule interface dnsPort := by
  unfold dnsRules at member
  split at member
  · exact ⟨_, List.mem_singleton.mp member⟩
  · cases member

theorem mem_serviceRules {rule : Rule}
    (member : rule ∈ binding.serviceRules interface) :
    rule = binding.serviceRule interface := by
  unfold serviceRules at member
  split at member
  · exact List.mem_singleton.mp member
  · cases member

theorem ignores_of_not {rules : List Rule}
    (passedOver : ∀ rule ∈ rules, ¬ rule.holds read packet = true) :
    (filter read).Ignores rules packet :=
  fun rule member => Bool.eq_false_iff.mpr (passedOver rule member)

theorem translationRules_ignored (documented : ReadsIPv4 read)
    (valid : binding.Valid cidr)
    (elsewhere : packet.destination ≠ cidr.network) :
    (filter read).Ignores (binding.translationRules interface) packet := by
  apply ignores_of_not
  intro rule member holds
  obtain ⟨dnsPort, backendPort, rfl⟩ := mem_translationRules member
  exact elsewhere ((redirectRule_holds_iff documented valid).mp holds).2.2.2

theorem mdnsRules_ignored (documented : ReadsIPv4 read)
    (valid : binding.Valid cidr)
    (elsewhere : packet.destination ≠ mdnsGroup) :
    (filter read).Ignores (binding.mdnsRules interface) packet := by
  apply ignores_of_not
  intro rule member holds
  rw [mem_mdnsRules member] at holds
  exact elsewhere ((mdnsRule_holds_iff documented valid).mp holds).2.2.2

theorem dnsRules_ignored (documented : ReadsIPv4 read)
    (valid : binding.Valid cidr)
    (elsewhere : packet.destination ≠ cidr.network) :
    (filter read).Ignores (binding.dnsRules interface) packet := by
  apply ignores_of_not
  intro rule member holds
  obtain ⟨dnsPort, rfl⟩ := mem_dnsRules member
  exact elsewhere ((blockDNSRule_holds_iff documented valid).mp holds).2.2

theorem serviceRules_ignored (documented : ReadsIPv4 read)
    (valid : binding.Valid cidr)
    (elsewhere : packet.destination ≠ cidr.addressAt 1) :
    (filter read).Ignores
      (binding.serviceRules interface ++
        [binding.blockServiceRule interface]) packet := by
  apply ignores_of_not
  intro rule member holds
  rcases List.mem_append.mp member with isService | isBlock
  · rw [mem_serviceRules isService] at holds
    exact elsewhere
      ((serviceRule_holds_iff documented valid).mp holds).2.2.2.1
  · rw [List.mem_singleton.mp isBlock] at holds
    exact elsewhere ((blockServiceRule_holds_iff documented valid).mp holds).2

theorem filterRules_ignored (documented : ReadsIPv4 read)
    (valid : binding.Valid cidr)
    (notGroup : packet.destination ≠ mdnsGroup)
    (notNetwork : packet.destination ≠ cidr.network)
    (notService : packet.destination ≠ cidr.addressAt 1) :
    (filter read).Ignores (binding.filterRules interface) packet := by
  have mdns : (filter read).Ignores (binding.mdnsRules interface) packet :=
    mdnsRules_ignored documented valid notGroup
  have dns : (filter read).Ignores (binding.dnsRules interface) packet :=
    dnsRules_ignored documented valid notNetwork
  have service : (filter read).Ignores
      (binding.serviceRules interface ++
        [binding.blockServiceRule interface]) packet :=
    serviceRules_ignored documented valid notService
  intro rule member
  unfold filterRules at member
  rw [List.append_assoc, List.append_assoc] at member
  rcases List.mem_append.mp member with isMdns | others
  · exact mdns rule isMdns
  · rcases List.mem_append.mp others with isDNS | isService
    · exact dns rule isDNS
    · exact service rule isService

/-! ## One binding -/

/-- A packet that the binding lets through to its service address. -/
def Serves (binding : FirewallBinding) (packet : Packet) : Prop :=
  (∃ port ∈ binding.tcpPorts, packet.transport = .tcp port) ∧
    binding.Allows packet.source ∧ packet.opensConnection = true

/-- The verdict under the rules of one binding. -/
def alone (read : AddressReader) (binding : FirewallBinding)
    (interface : String) (packet : Packet) : Verdict :=
  evaluate read (binding.translationRules interface)
    (binding.filterRules interface) packet

theorem alone_service (documented : ReadsIPv4 read)
    (valid : binding.Valid cidr) (arrives : packet.interface = interface)
    (service : packet.destination = cidr.addressAt 1) :
    (binding.Serves packet → binding.alone read interface packet = .pass) ∧
      (¬ binding.Serves packet →
        binding.alone read interface packet = .block) := by
  have notNetwork : packet.destination ≠ cidr.network := by
    rw [service]
    exact cidr.addressAt_one_ne_network
  have notGroup : packet.destination ≠ mdnsGroup := by
    rw [service]
    exact (mdnsGroup_ne cidr).2.symm
  unfold alone evaluate filterRules
  rw [FirstMatch.run_append_of_ignores
      (translationRules_ignored documented valid notNetwork),
    List.append_assoc, List.append_assoc,
    FirstMatch.run_append_of_ignores
      (mdnsRules_ignored documented valid notGroup),
    FirstMatch.run_append_of_ignores
      (dnsRules_ignored documented valid notNetwork)]
  constructor
  · rintro ⟨⟨port, listed, tcp⟩, allowed, opens⟩
    have present : binding.sources ≠ [] ∧ binding.ports ≠ [] :=
      ⟨sources_ne_nil_of_allows allowed,
        List.ne_nil_of_mem (mem_ports.mpr listed)⟩
    have applies : (filter read).applies (binding.serviceRule interface)
        packet = true :=
      (serviceRule_holds_iff documented valid).mpr
        ⟨arrives, ⟨port, listed, tcp⟩, allowed, service, opens⟩
    unfold serviceRules
    rw [if_pos present]
    exact FirstMatch.run_cons_of_applies applies
  · intro notServed
    have passedOver : (filter read).Ignores
        (binding.serviceRules interface) packet := by
      apply ignores_of_not
      intro rule member holds
      rw [mem_serviceRules member] at holds
      have found := (serviceRule_holds_iff documented valid).mp holds
      exact notServed ⟨found.2.1, found.2.2.1, found.2.2.2.2⟩
    have blocks : (filter read).applies
        (binding.blockServiceRule interface) packet = true :=
      (blockServiceRule_holds_iff documented valid).mpr ⟨arrives, service⟩
    rw [FirstMatch.run_append_of_ignores passedOver]
    exact FirstMatch.run_cons_of_applies blocks

theorem redirection_eq_some {dnsPort backendPort : UInt16}
    (isDNS : binding.dnsPort = some dnsPort)
    (isBackend : binding.dnsBackendPort = some backendPort)
    (different : dnsPort ≠ backendPort)
    (someSource : binding.allowedSources ≠ []) :
    binding.redirection = some (dnsPort, backendPort) := by
  unfold redirection
  rw [isDNS, isBackend]
  exact if_pos ⟨different, sources_ne_nil_iff.mpr someSource⟩

theorem alone_dns (documented : ReadsIPv4 read)
    (valid : binding.Valid cidr) (arrives : packet.interface = interface)
    (gateway : packet.destination = cidr.network)
    {dnsPort backendPort : UInt16}
    (redirected : binding.redirection = some (dnsPort, backendPort))
    (query : packet.transport = .udp dnsPort) :
    (binding.Allows packet.source →
      binding.alone read interface packet =
        .redirect (inetNtop cidr.network) backendPort) ∧
      (¬ binding.Allows packet.source →
        binding.alone read interface packet = .block) := by
  have notGroup : packet.destination ≠ mdnsGroup := by
    rw [gateway]
    exact (mdnsGroup_ne cidr).1.symm
  have translations : binding.translationRules interface =
      [binding.redirectRule interface dnsPort backendPort] := by
    unfold translationRules
    rw [redirected]
  have redirects :
      (binding.redirectRule interface dnsPort backendPort).holds read packet =
        true ↔ binding.Allows packet.source := by
    rw [redirectRule_holds_iff documented valid]
    exact ⟨fun found => found.2.2.1,
      fun allowed => ⟨arrives, query, allowed, gateway⟩⟩
  unfold alone evaluate
  rw [translations]
  constructor
  · intro allowed
    have applies : (filter read).applies
        (binding.redirectRule interface dnsPort backendPort) packet = true :=
      redirects.mpr allowed
    rw [List.singleton_append, FirstMatch.run_cons_of_applies applies,
      ← valid.gateway]
    rfl
  · intro notAllowed
    have passedOver : (filter read).applies
        (binding.redirectRule interface dnsPort backendPort) packet = false :=
      Bool.eq_false_iff.mpr fun holds => notAllowed (redirects.mp holds)
    have blocks : (filter read).applies
        (binding.blockDNSRule interface dnsPort) packet = true :=
      (blockDNSRule_holds_iff documented valid).mpr
        ⟨arrives, query, gateway⟩
    unfold filterRules dnsRules
    rw [List.singleton_append, FirstMatch.run_cons_of_not passedOver,
      List.append_assoc, List.append_assoc,
      FirstMatch.run_append_of_ignores
        (mdnsRules_ignored documented valid notGroup), redirected]
    exact FirstMatch.run_cons_of_applies blocks

end FirewallBinding

end DnsBind

end Vzctl
