import Vzctl.Edge.BindingVerdicts

/-!
# What the firewall of the host means

The rules of all bindings are loaded into one list.  With disjoint networks
each binding decides for its own addresses: the service address is open to the
allowed sources, and DNS at the gateway is redirected for them alone.
-/

namespace Vzctl

open Nftables (AddressReader)

namespace DnsBind

open PacketFilter

namespace FirewallBinding

variable {read : AddressReader} {binding : FirewallBinding}
  {cidr : IPv4CIDR} {interface : String} {packet : Packet}

/-! ## Separate networks -/

/-- The networks of two bindings share no address. -/
def Separate (left right : FirewallBinding) : Prop :=
  ∀ leftCIDR, IPv4CIDR.parse left.cidr = .ok leftCIDR →
    ∀ rightCIDR, IPv4CIDR.parse right.cidr = .ok rightCIDR →
      leftCIDR.overlaps rightCIDR = false

instance (left right : FirewallBinding) : Decidable (left.Separate right) :=
  inferInstanceAs (Decidable (∀ _, _ → ∀ _, _ → _))

theorem not_mem_of_separate {left right : FirewallBinding}
    {leftCIDR rightCIDR : IPv4CIDR} (separate : left.Separate right)
    (leftValid : left.Valid leftCIDR) (rightValid : right.Valid rightCIDR)
    {address : Nat} (inLeft : address ∈ leftCIDR.block) :
    address ∉ rightCIDR.block := by
  intro inRight
  have meets := (IPv4CIDR.overlaps_iff leftCIDR rightCIDR).mpr
    (AlignedBlock.overlaps_iff_exists_mem.mpr ⟨address, inLeft, inRight⟩)
  rw [separate leftCIDR leftValid.network rightCIDR rightValid.network]
    at meets
  cases meets

theorem Separate.symm {left right : FirewallBinding}
    (separate : left.Separate right) : right.Separate left := by
  intro rightCIDR rightParsed leftCIDR leftParsed
  have apart := separate leftCIDR leftParsed rightCIDR rightParsed
  rw [← Bool.not_eq_true, IPv4CIDR.overlaps_iff] at apart ⊢
  exact fun meets => apart meets.symm

theorem verdict_of_mdnsGroup (documented : ReadsIPv4 read)
    (valid : binding.Valid cidr) (group : packet.destination = mdnsGroup)
    {rule : Rule}
    (member : rule ∈ binding.translationRules interface ∨
      rule ∈ binding.filterRules interface)
    (holds : rule.holds read packet = true) : rule.verdict = .pass := by
  have different := mdnsGroup_ne cidr
  have notNetwork : packet.destination ≠ cidr.network := by
    rw [group]
    exact different.1
  have notService : packet.destination ≠ cidr.addressAt 1 := by
    rw [group]
    exact different.2
  have excluded : ∀ {rules : List Rule},
      (filter read).Ignores rules packet → rule ∈ rules → False := by
    intro rules ignored listed
    exact Bool.eq_false_iff.mp (ignored rule listed) holds
  rcases member with translation | filtered
  · exact (excluded
      (translationRules_ignored documented valid notNetwork)
      translation).elim
  · unfold filterRules at filtered
    rw [List.append_assoc, List.append_assoc] at filtered
    rcases List.mem_append.mp filtered with isMdns | others
    · rw [mem_mdnsRules isMdns]
      rfl
    · rcases List.mem_append.mp others with isDNS | isService
      · exact (excluded (dnsRules_ignored documented valid notNetwork)
          isDNS).elim
      · exact (excluded (serviceRules_ignored documented valid notService)
          isService).elim

end FirewallBinding

/-! ## All bindings -/

section Loaded

variable (attached : List (String × FirewallBinding))

def loadedTranslations : List Rule :=
  attached.flatMap fun (interface, binding) =>
    binding.translationRules interface

def loadedFilters : List Rule :=
  attached.flatMap fun (interface, binding) => binding.filterRules interface

/-- The verdict under the rules of all bindings. -/
def hostVerdict (read : AddressReader) (packet : Packet) : Verdict :=
  evaluate read (loadedTranslations attached) (loadedFilters attached) packet

end Loaded

open FirewallBinding

variable {read : AddressReader} {packet : Packet}

theorem hostVerdict_of_mdnsGroup (documented : ReadsIPv4 read)
    {attached : List (String × FirewallBinding)}
    (valid : ∀ pair ∈ attached, ∃ cidr, pair.2.Valid cidr)
    (group : packet.destination = mdnsGroup) :
    hostVerdict attached read packet = .pass := by
  apply FirstMatch.run_eq_policy
  intro rule member holds
  have origin : ∃ pair ∈ attached,
      rule ∈ pair.2.translationRules pair.1 ∨
        rule ∈ pair.2.filterRules pair.1 := by
    rcases List.mem_append.mp member with translation | filtered
    · obtain ⟨pair, pairMember, listed⟩ := List.mem_flatMap.mp translation
      exact ⟨pair, pairMember, .inl listed⟩
    · obtain ⟨pair, pairMember, listed⟩ := List.mem_flatMap.mp filtered
      exact ⟨pair, pairMember, .inr listed⟩
  obtain ⟨pair, pairMember, listed⟩ := origin
  obtain ⟨cidr, pairValid⟩ := valid pair pairMember
  exact verdict_of_mdnsGroup documented pairValid group listed holds

theorem hostVerdict_eq_alone (documented : ReadsIPv4 read)
    {front back : List (String × FirewallBinding)} {interface : String}
    {binding : FirewallBinding} {cidr : IPv4CIDR}
    (valid : binding.Valid cidr)
    (others : ∀ pair ∈ front ++ back, ∃ network, pair.2.Valid network ∧
      binding.Separate pair.2)
    (inside : packet.destination.toNat ∈ cidr.block) :
    hostVerdict (front ++ (interface, binding) :: back) read packet =
      binding.alone read interface packet := by
  by_cases group : packet.destination = mdnsGroup
  · have single : binding.alone read interface packet =
        hostVerdict [(interface, binding)] read packet := by
      simp [alone, hostVerdict, loadedTranslations, loadedFilters]
    rw [single, hostVerdict_of_mdnsGroup documented _ group,
      hostVerdict_of_mdnsGroup documented _ group]
    · intro pair member
      rw [List.mem_singleton.mp member]
      exact ⟨cidr, valid⟩
    · intro pair member
      rcases List.mem_append.mp member with before | fromHere
      · obtain ⟨network, ofOther, _⟩ :=
          others pair (List.mem_append_left back before)
        exact ⟨network, ofOther⟩
      · rcases List.mem_cons.mp fromHere with rfl | after
        · exact ⟨cidr, valid⟩
        · obtain ⟨network, ofOther, _⟩ :=
            others pair (List.mem_append_right front after)
          exact ⟨network, ofOther⟩
  · have apart : ∀ pair ∈ front ++ back, ∃ network, pair.2.Valid network ∧
        packet.destination ≠ network.network ∧
        packet.destination ≠ network.addressAt 1 := by
      intro pair member
      obtain ⟨network, ofOther, separate⟩ := others pair member
      have outside := not_mem_of_separate separate valid ofOther inside
      have atLeast := network.four_le_size
      refine ⟨network, ofOther, ?_, ?_⟩
      · intro same
        rw [same] at outside
        exact outside network.network_mem_block
      · intro same
        rw [same] at outside
        exact outside (network.addressAt_mem_block (by omega))
    have translations : ∀ pairs : List (String × FirewallBinding),
        (∀ pair ∈ pairs, pair ∈ front ++ back) →
        (filter read).Ignores (loadedTranslations pairs) packet := by
      intro pairs among rule member
      obtain ⟨pair, pairMember, listed⟩ := List.mem_flatMap.mp member
      obtain ⟨network, ofOther, notNetwork, _⟩ :=
        apart pair (among pair pairMember)
      exact translationRules_ignored documented ofOther notNetwork rule listed
    have filters : ∀ pairs : List (String × FirewallBinding),
        (∀ pair ∈ pairs, pair ∈ front ++ back) →
        (filter read).Ignores (loadedFilters pairs) packet := by
      intro pairs among rule member
      obtain ⟨pair, pairMember, listed⟩ := List.mem_flatMap.mp member
      obtain ⟨network, ofOther, notNetwork, notService⟩ :=
        apart pair (among pair pairMember)
      exact filterRules_ignored documented ofOther group notNetwork notService
        rule listed
    have inFront : ∀ pair ∈ front, pair ∈ front ++ back :=
      fun pair member => List.mem_append_left back member
    have inBack : ∀ pair ∈ back, pair ∈ front ++ back :=
      fun pair member => List.mem_append_right front member
    have splitTranslations :
        loadedTranslations (front ++ (interface, binding) :: back) =
          loadedTranslations front ++
            (binding.translationRules interface ++ loadedTranslations back) :=
      by simp [loadedTranslations]
    have splitFilters :
        loadedFilters (front ++ (interface, binding) :: back) =
          loadedFilters front ++
            (binding.filterRules interface ++ loadedFilters back) := by
      simp [loadedFilters]
    unfold hostVerdict alone evaluate
    rw [splitTranslations, splitFilters, List.append_assoc,
      FirstMatch.run_append_of_ignores (translations front inFront),
      List.append_assoc]
    apply FirstMatch.run_append_congr
    rw [FirstMatch.run_append_of_ignores (translations back inBack),
      FirstMatch.run_append_of_ignores (filters front inFront),
      FirstMatch.run_append_ignored (filters back inBack)]

/-! ## Accepted bindings -/

theorem require_eq_ok_iff {condition : Bool} {error : ValidationError} :
    require condition error = .ok () ↔ condition = true := by
  cases condition <;> simp [require]

theorem valid_of_validateBinding {op : String} {seen : List String}
    {binding : FirewallBinding}
    (accepted : validateBinding op seen binding = .ok ()) :
    ∃ cidr, binding.Valid cidr := by
  unfold validateBinding at accepted
  simp only [Outcome.bind_eq_ok_iff] at accepted
  obtain ⟨_, canonical, _, _, _, _, _, _, sources⟩ := accepted
  obtain ⟨cidr, parsed, _⟩ :=
    exists_of_isCanonical (require_eq_ok_iff.mp canonical)
  refine ⟨cidr, parsed, ?_⟩
  intro source member
  exact require_eq_ok_iff.mp (Outcome.forM_eq_ok_iff.mp sources source member)

theorem valid_of_validateBindings {op : String} {seen : List String}
    {bindings : List FirewallBinding}
    (accepted : validateBindings op seen bindings = .ok ()) :
    ∀ binding ∈ bindings, ∃ cidr, binding.Valid cidr := by
  induction bindings generalizing seen with
  | nil => simp
  | cons first rest ih =>
      obtain ⟨_, ofFirst, ofRest⟩ := Outcome.bind_eq_ok_iff.mp accepted
      intro binding member
      rcases List.mem_cons.mp member with rfl | later
      · exact valid_of_validateBinding ofFirst
      · exact ih ofRest binding later

theorem interface_of_interfaceOf {nameCharacter : Char → Bool}
    {interfaceByCIDR : String → Option String} {binding : FirewallBinding}
    {pair : String × FirewallBinding}
    (found : interfaceOf nameCharacter interfaceByCIDR binding = .ok pair) :
    (some pair.1, pair.2) = (interfaceByCIDR binding.cidr, binding) := by
  unfold interfaceOf at found
  split at found
  · rename_i interface lookup
    split at found
    · rw [← Except.ok.inj found, lookup]
    · cases found
  · cases found

section Accepted

variable {nameCharacter : Char → Bool}
  {interfaceByCIDR : String → Option String}
  {bindings : List FirewallBinding}
  {attached : List (String × FirewallBinding)}

theorem attachedBindings_eq_ok
    (accepted : attachedBindings nameCharacter interfaceByCIDR bindings =
      .ok attached) :
    (∀ binding ∈ bindings, ∃ cidr, binding.Valid cidr) ∧
      attached.map (fun pair => (some pair.1, pair.2)) =
        (sortedBy FirewallBinding.cidr bindings).map
          fun binding => (interfaceByCIDR binding.cidr, binding) := by
  obtain ⟨_, validated, looked⟩ := Outcome.bind_eq_ok_iff.mp accepted
  obtain ⟨_, _, each⟩ := Outcome.bind_eq_ok_iff.mp validated
  exact ⟨valid_of_validateBindings each,
    Outcome.map_eq_of_mapM (fun _ _ _ => interface_of_interfaceOf) looked⟩

theorem map_snd_of_attached
    (accepted : attachedBindings nameCharacter interfaceByCIDR bindings =
      .ok attached) :
    attached.map Prod.snd = sortedBy FirewallBinding.cidr bindings := by
  have kept := congrArg (List.map Prod.snd) (attachedBindings_eq_ok accepted).2
  simpa [Function.comp_def] using kept

theorem mem_attached
    (accepted : attachedBindings nameCharacter interfaceByCIDR bindings =
      .ok attached) {binding : FirewallBinding} {interface : String}
    (member : binding ∈ bindings)
    (lookup : interfaceByCIDR binding.cidr = some interface) :
    (interface, binding) ∈ attached := by
  have listed : (some interface, binding) ∈
      attached.map fun pair => (some pair.1, pair.2) := by
    rw [(attachedBindings_eq_ok accepted).2, ← lookup]
    exact List.mem_map_of_mem (SortedBy.mem_sortedBy.mpr member)
  obtain ⟨pair, pairMember, same⟩ := List.mem_map.mp listed
  obtain ⟨sameInterface, sameBinding⟩ := Prod.mk.inj same
  rw [← Option.some.inj sameInterface, ← sameBinding]
  exact pairMember

theorem split_of_mem_attached
    (accepted : attachedBindings nameCharacter interfaceByCIDR bindings =
      .ok attached)
    (separate : bindings.Pairwise Separate) {binding : FirewallBinding}
    {interface : String} (listed : (interface, binding) ∈ attached) :
    ∃ front back, attached = front ++ (interface, binding) :: back ∧
      ∀ pair ∈ front ++ back, ∃ network, pair.2.Valid network ∧
        binding.Separate pair.2 := by
  obtain ⟨front, back, parts⟩ := List.append_of_mem listed
  have apart : (attached.map Prod.snd).Pairwise Separate := by
    rw [map_snd_of_attached accepted]
    exact separate.perm SortedBy.perm_sortedBy.symm fun pair => pair.symm
  rw [List.pairwise_map, parts, List.pairwise_append] at apart
  obtain ⟨_, fromHere, across⟩ := apart
  refine ⟨front, back, parts, ?_⟩
  intro pair member
  have original : pair.2 ∈ bindings := by
    have present : pair.2 ∈ attached.map Prod.snd := by
      apply List.mem_map_of_mem
      rw [parts]
      rcases List.mem_append.mp member with before | after
      · exact List.mem_append_left _ before
      · exact List.mem_append_right _ (List.mem_cons_of_mem _ after)
    rw [map_snd_of_attached accepted] at present
    exact SortedBy.mem_sortedBy.mp present
  obtain ⟨network, valid⟩ := (attachedBindings_eq_ok accepted).1 _ original
  refine ⟨network, valid, ?_⟩
  rcases List.mem_append.mp member with before | after
  · exact (across pair before _ List.mem_cons_self).symm
  · exact (List.pairwise_cons.mp fromHere).1 pair after

theorem firewallRules_eq_render
    (accepted : attachedBindings nameCharacter interfaceByCIDR bindings =
      .ok attached) :
    firewallRules nameCharacter interfaceByCIDR bindings =
      .ok (renderRules
        (loadedTranslations attached ++ loadedFilters attached)) := by
  have lines : attached.flatMap (fun (interface, binding) =>
        binding.translations interface) ++
      attached.flatMap (fun (interface, binding) =>
        binding.filters interface) =
      (loadedTranslations attached ++ loadedFilters attached).map
        Rule.render := by
    simp only [loadedTranslations, loadedFilters, List.map_append,
      List.map_flatMap, translations_eq_render, filters_eq_render]
  unfold firewallRules
  rw [accepted]
  change Except.ok (if (_ ++ _ : List String).isEmpty then _ else _) = _
  rw [lines, List.isEmpty_map]
  rfl

end Accepted

/-- The loaded text means the bindings: the service address is open to new
connections from allowed sources, DNS at the gateway is redirected for them
and blocked for others, and no binding decides for the addresses of another. -/
theorem hostFirewall_of_bindings (read : AddressReader)
    (documented : ReadsIPv4 read) (nameCharacter : Char → Bool)
    (interfaceByCIDR : String → Option String)
    (bindings : List FirewallBinding)
    (attached : List (String × FirewallBinding))
    (accepted : attachedBindings nameCharacter interfaceByCIDR bindings =
      .ok attached)
    (separate : bindings.Pairwise Separate) :
    firewallRules nameCharacter interfaceByCIDR bindings =
        .ok (renderRules
          (loadedTranslations attached ++ loadedFilters attached)) ∧
      ∀ binding ∈ bindings, ∀ interface cidr packet,
        interfaceByCIDR binding.cidr = some interface →
        IPv4CIDR.parse binding.cidr = .ok cidr →
        (packet.destination.toNat ∈ cidr.block →
          hostVerdict attached read packet =
            binding.alone read interface packet) ∧
        (packet.interface = interface →
          packet.destination = cidr.addressAt 1 →
          (hostVerdict attached read packet = .pass ↔
            binding.Serves packet) ∧
          (hostVerdict attached read packet = .block ↔
            ¬ binding.Serves packet)) ∧
        ∀ dnsPort backendPort, binding.dnsPort = some dnsPort →
          binding.dnsBackendPort = some backendPort →
          dnsPort ≠ backendPort → binding.allowedSources ≠ [] →
          packet.interface = interface →
          packet.destination = cidr.network →
          packet.transport = .udp dnsPort →
          (hostVerdict attached read packet =
              .redirect (inetNtop cidr.network) backendPort ↔
            binding.Allows packet.source) ∧
          (hostVerdict attached read packet = .block ↔
            ¬ binding.Allows packet.source) := by
  refine ⟨firewallRules_eq_render accepted, ?_⟩
  intro binding member interface cidr packet lookup parsed
  obtain ⟨network, valid⟩ := (attachedBindings_eq_ok accepted).1 binding member
  have sameNetwork : network = cidr :=
    Except.ok.inj (valid.network.symm.trans parsed)
  rw [sameNetwork] at valid
  obtain ⟨front, back, parts, others⟩ := split_of_mem_attached accepted
    separate (mem_attached accepted member lookup)
  have only : packet.destination.toNat ∈ cidr.block →
      hostVerdict attached read packet =
        binding.alone read interface packet := by
    rw [parts]
    exact hostVerdict_eq_alone documented valid others
  refine ⟨only, ?_, ?_⟩
  · intro arrives service
    have atLeast := cidr.four_le_size
    have inside : packet.destination.toNat ∈ cidr.block := by
      rw [service]
      exact cidr.addressAt_mem_block (by omega)
    obtain ⟨passes, blocks⟩ := alone_service documented valid arrives service
    rw [only inside]
    by_cases served : binding.Serves packet
    · simp [passes served, served]
    · simp [blocks served, served]
  · intro dnsPort backendPort isDNS isBackend different someSource arrives
      gateway query
    have inside : packet.destination.toNat ∈ cidr.block := by
      rw [gateway]
      exact cidr.network_mem_block
    obtain ⟨redirects, blocks⟩ := alone_dns documented valid arrives gateway
      (redirection_eq_some isDNS isBackend different someSource) query
    rw [only inside]
    by_cases allowed : binding.Allows packet.source
    · simp [redirects allowed, allowed]
    · simp [blocks allowed, allowed]

/-! ## Examples of bindings -/

/-- A web server behind the host, with DNS on another port. -/
def webBinding : FirewallBinding where
  cidr := "10.90.0.0/24"
  allowedSources := ["10.90.0.0/24"]
  tcpPorts := [80]
  dnsPort := some 53
  dnsBackendPort := some 15054

/-- DNS for nobody. -/
def closedBinding : FirewallBinding where
  cidr := "10.80.0.0/24"
  allowedSources := []
  tcpPorts := []
  dnsPort := some 53
  dnsBackendPort := some 15054

def sampleInterfaces : String → Option String
  | "10.90.0.0/24" => some "bridge100"
  | "10.80.0.0/24" => some "bridge101"
  | _ => none

def sampleAttached : List (String × FirewallBinding) :=
  [("bridge101", closedBinding), ("bridge100", webBinding)]

/-- A packet of a guest of `webBinding` to the web server. -/
def webPacket (opensConnection : Bool) : Packet where
  source := 0x0A5A000A
  destination := 0x0A5A0001
  transport := .tcp 80
  interface := "bridge100"
  opensConnection := opensConnection

/-- A query of a guest of `closedBinding`. -/
def closedQuery : Packet where
  source := 0x0A50000A
  destination := 0x0A500000
  transport := .udp 53
  interface := "bridge101"
  opensConnection := false

def sampleNetwork : IPv4CIDR where
  network := 0x0A5A0000
  prefixLength := 24
  prefixRange := by decide
  isNetwork := by decide

theorem webBinding_allows : webBinding.Allows 0x0A5A000A :=
  ⟨"10.90.0.0/24", List.mem_singleton.mpr rfl, sampleNetwork,
    by rfl, by decide⟩

theorem hostFirewall_of_samples :
    hostVerdict sampleAttached ipv4Reader (webPacket true) = .pass := by
  have accepted : attachedBindings Char.isAlphanum sampleInterfaces
      [webBinding, closedBinding] = .ok sampleAttached := by
    rfl
  have separate : [webBinding, closedBinding].Pairwise Separate := by
    refine List.pairwise_pair.mpr ?_
    decide
  have meaning := hostFirewall_of_bindings ipv4Reader readsIPv4_ipv4Reader
    Char.isAlphanum sampleInterfaces [webBinding, closedBinding]
    sampleAttached accepted separate
  have service := (meaning.2 webBinding List.mem_cons_self "bridge100"
    sampleNetwork (webPacket true) rfl (by rfl)).2.1
  exact (service rfl (by rfl)).1.mpr
    ⟨⟨80, List.mem_singleton.mpr rfl, rfl⟩, webBinding_allows, rfl⟩

/-- A packet that opens no connection is blocked although an allowed source
sends it to a port of the binding, and without allowed sources a query at the
gateway is not blocked. -/
theorem allowed_packet_blocked_and_query_passed :
    firewallRules Char.isAlphanum sampleInterfaces
        [webBinding, closedBinding] =
      .ok (renderRules
        (loadedTranslations sampleAttached ++
          loadedFilters sampleAttached)) ∧
      (webBinding.Allows (webPacket false).source ∧
        (webPacket false).transport = .tcp 80 ∧
        80 ∈ webBinding.tcpPorts ∧
        hostVerdict sampleAttached ipv4Reader (webPacket false) = .block) ∧
      ¬ closedBinding.Allows closedQuery.source ∧
      hostVerdict sampleAttached ipv4Reader closedQuery = .pass := by
  refine ⟨by rfl, ⟨webBinding_allows, rfl, by decide,
    by rfl⟩, ?_, by rfl⟩
  intro allowed
  obtain ⟨source, member, _⟩ := allowed
  cases member

end DnsBind

end Vzctl
