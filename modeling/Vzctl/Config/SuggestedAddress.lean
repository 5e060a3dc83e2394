import Mathlib.Data.Fintype.EquivFin
import Vzctl.Config.AttachmentChecks

/-!
# The suggested address

`next_free_ip` offers an address for a new VM.  It walks over the offsets 10 to
253 of a network and takes the broadcast address for a free one.
-/

namespace Vzctl

namespace Config

/-! ## The source -/

/-- An error, or a panic. -/
inductive SuggestionError where
  | message (text : String)
  | trap (trap : Trap)
  deriving DecidableEq, Repr

/-- `offset_ip`; `network + offset` panics on overflow. -/
def offsetIp (cidr : Ipv4Net) (offset : Nat) :
    Except SuggestionError UInt32 :=
  match trappingAdd cidr.network (UInt32.ofNat offset) with
  | .error trap => .error (.trap trap)
  | .ok candidate =>
      if cidr.broadcast < candidate then
        .error (.message ("host offset " ++ Nat.repr offset ++
          " out of range for " ++ cidr.text))
      else
        .ok candidate

variable (library : Library) (environment : Environment)

/-- The addresses of a network that attachments have. -/
def usedAddresses (networkName : String) : List UInt32 :=
  (inOrder environment.vms).flatMap fun entry =>
    (entry.2.filter (·.name = networkName)).filterMap fun attachment =>
      parseAddr attachment.ip

/-- The address at an offset, when there is no error. -/
def candidateAt (cidr : Ipv4Net) (offset : Nat) :
    Except SuggestionError (Option UInt32) :=
  (offsetIp cidr offset).map some

/-- The loop goes past this address. -/
def isTaken (cidr : Ipv4Net) (used : List UInt32) (ip : UInt32) : Bool :=
  !(cidr.contains ip && !used.contains ip)

def nextFreeIp (networkName : String) : Except SuggestionError String :=
  match environment.networks.lookup networkName with
  | none =>
      .error (.message ("unknown network " ++ library.debug networkName))
  | some network =>
      match library.parseNet network.cidr with
      | .error message =>
          .error (.message
            ("invalid CIDR " ++ network.cidr ++ ": " ++ message))
      | .ok cidr =>
          let used := usedAddresses environment networkName
          if network.backend = .docker then
            match offsetIp cidr 2 with
            | .error failure => .error failure
            | .ok ip =>
                if ip ∈ used then
                  .error (.message
                    ("docker network " ++ library.debug networkName ++
                      " already has owner at " ++ inetNtop ip))
                else
                  .ok (inetNtop ip)
          else
            -- The offsets are those of `10..254`.
            match FirstFree.scan (candidateAt cidr) (isTaken cidr used)
                244 10 with
            | .error failure => .error failure
            | .ok (some ip) => .ok (inetNtop ip)
            | .ok none =>
                .error (.message
                  ("no free IP on network " ++ library.debug networkName))

/-- The configuration with a new VM that is attached to a network. -/
def extended (vm networkName ip : String) : Environment :=
  { environment with
    vms := environment.vms.insert vm [⟨networkName, ip⟩] }

/-- The extended configuration passes the checks of attachments. -/
def Passes (vm networkName ip : String) : Prop :=
  attachmentIssues library (extended environment vm networkName ip) = []

/-- The suggested address passes for any new VM, an error means that no
address does, and nothing overflows. -/
def Suggests (networkName : String) : Prop :=
  match nextFreeIp library environment networkName with
  | .ok ip => ∀ vm, vm ∉ environment.vms →
      Passes library environment vm networkName ip
  | .error (.message _) => ∀ vm ip, vm ∉ environment.vms →
      ¬ Passes library environment vm networkName ip
  | .error (.trap _) => False

/-! ## Offsets -/

section Offsets

variable {cidr : Ipv4Net} {offset : Nat}

theorem offsetIp_of_lt (inside : offset < cidr.size) :
    offsetIp cidr offset = .ok (cidr.addressAt offset) := by
  have bound : cidr.network.toNat + cidr.size ≤ 2 ^ 32 :=
    cidr.block.base_add_size_le (Nat.sub_le _ _) cidr.network.toNat_lt
  have number : (UInt32.ofNat offset).toNat = offset :=
    UInt32.toNat_ofNat_of_lt' (by change _ < 2 ^ 32; omega)
  have sum : cidr.network + UInt32.ofNat offset = cidr.addressAt offset := by
    rw [← UInt32.toNat_inj, UInt32.toNat_add, number,
      cidr.toNat_addressAt inside]
    exact Nat.mod_eq_of_lt (by omega)
  have notBeyond : ¬ cidr.broadcast < cidr.addressAt offset := by
    rw [UInt32.lt_iff_toNat_lt, cidr.toNat_broadcast,
      cidr.toNat_addressAt inside]
    omega
  rw [offsetIp, trappingAdd, if_pos (by omega)]
  simp only [sum]
  rw [if_neg notBeyond]

theorem offsetIp_of_le (small : offset < 2 ^ 32)
    (outside : cidr.size ≤ offset) :
    (cidr.network.toNat + offset < 2 ^ 32 ∧
        ∃ text, offsetIp cidr offset = .error (.message text)) ∨
      (2 ^ 32 ≤ cidr.network.toNat + offset ∧
        offsetIp cidr offset = .error (.trap .overflow)) := by
  have number : (UInt32.ofNat offset).toNat = offset :=
    UInt32.toNat_ofNat_of_lt' (by change _ < 2 ^ 32; omega)
  have positive := cidr.size_pos
  by_cases fits : cidr.network.toNat + offset < 2 ^ 32
  · have beyond : cidr.broadcast < cidr.network + UInt32.ofNat offset := by
      rw [UInt32.lt_iff_toNat_lt, cidr.toNat_broadcast, UInt32.toNat_add,
        number, Nat.mod_eq_of_lt fits]
      omega
    refine .inl ⟨fits, ?_⟩
    rw [offsetIp, trappingAdd, if_pos (by omega)]
    simp only [beyond, if_true]
    exact ⟨_, rfl⟩
  · refine .inr ⟨by omega, ?_⟩
    rw [offsetIp, trappingAdd, if_neg (by omega)]

theorem candidateAt_of_lt (inside : offset < cidr.size) :
    candidateAt cidr offset = .ok (some (cidr.addressAt offset)) := by
  rw [candidateAt, offsetIp_of_lt inside]
  rfl

theorem lt_size_of_candidateAt {found : Option UInt32}
    (small : offset < 2 ^ 32)
    (isCandidate : candidateAt cidr offset = .ok found) :
    offset < cidr.size ∧ found = some (cidr.addressAt offset) := by
  by_cases inside : offset < cidr.size
  · rw [candidateAt_of_lt inside] at isCandidate
    exact ⟨inside, (Except.ok.inj isCandidate).symm⟩
  · rw [candidateAt] at isCandidate
    rcases offsetIp_of_le small (Nat.le_of_not_lt inside) with
      ⟨_, text, failed⟩ | ⟨_, failed⟩
    · rw [failed] at isCandidate
      cases isCandidate
    · rw [failed] at isCandidate
      cases isCandidate

theorem isTaken_addressAt {used : List UInt32} (inside : offset < cidr.size) :
    isTaken cidr used (cidr.addressAt offset) = true ↔
      cidr.addressAt offset ∈ used := by
  have contained : cidr.contains (cidr.addressAt offset) = true :=
    (cidr.contains_iff _).mpr ⟨offset, inside, rfl⟩
  simp [isTaken, contained]

/-- The permitted addresses are those from offset 2 up to the broadcast
address. -/
theorem permitsAddress_iff {network : NetworkConfig} {ip : UInt32} :
    PermitsAddress network cidr ip ↔
      network.dhcp = false ∧ ∃ offset, 2 ≤ offset ∧ offset + 1 < cidr.size ∧
        (network.backend = .docker → offset = 2) ∧
          ip = cidr.addressAt offset := by
  have positive := cidr.size_pos
  have first : cidr.network = cidr.addressAt 0 := by
    rw [Ipv4Net.addressAt, Nat.add_zero, UInt32.ofNat_toNat]
  constructor
  · intro permitted
    obtain ⟨offset, inside, same⟩ :=
      (cidr.contains_iff ip).mp permitted.inside
    have high := permitted.notReserved
    have router := permitted.router
    have notLast := permitted.notBroadcast
    rw [same, cidr.hostOffset_addressAt inside] at high router
    rw [same, cidr.broadcast_eq, Ne,
      cidr.addressAt_inj inside (by omega)] at notLast
    exact ⟨permitted.static, offset, high, by omega, router, same⟩
  · intro both
    obtain ⟨static, offset, high, low, router, same⟩ := both
    have inside : offset < cidr.size := by omega
    rw [same]
    constructor
    · exact (cidr.contains_iff _).mpr ⟨offset, inside, rfl⟩
    · rw [first, Ne, cidr.addressAt_inj inside positive]
      omega
    · rw [cidr.broadcast_eq, Ne, cidr.addressAt_inj inside (by omega)]
      omega
    · rw [cidr.hostOffset_addressAt inside]
      exact high
    · rw [cidr.hostOffset_addressAt inside]
      exact router
    · exact static

end Offsets

/-! ## Extended configurations -/

section Extension

variable {library environment} {networkName : String}
  {network : NetworkConfig} {cidr : Ipv4Net}

theorem mem_usedAddresses {address : UInt32} :
    address ∈ usedAddresses environment networkName ↔
      ∃ entry ∈ environment.vms.entries, ∃ attachment ∈ entry.2,
        attachment.name = networkName ∧
          parseAddr attachment.ip = some address := by
  have inMap : ∀ entry, entry ∈ inOrder environment.vms ↔
      entry ∈ environment.vms.entries := fun _ => SortedBy.mem_sortedBy
  simp only [usedAddresses, List.mem_flatMap, List.mem_filterMap,
    List.mem_filter, decide_eq_true_eq, inMap, and_assoc]

theorem exists_fresh (environment : Environment) :
    ∃ vm, vm ∉ environment.vms := by
  have infinite : Infinite String :=
    Infinite.of_injective (fun length : Nat =>
      String.ofList (List.replicate length 'a')) fun left right same => by
        have lists := String.ofList_injective same
        have lengths := congrArg List.length lists
        simpa using lengths
  obtain ⟨vm, fresh⟩ :=
    Infinite.exists_notMem_finset environment.vms.keys.toFinset
  exact ⟨vm, by simpa [AList.mem_keys] using fresh⟩

/-- What is known of a network of an accepted configuration. -/
structure Declared (library : Library) (environment : Environment)
    (networkName : String) (network : NetworkConfig) (cidr : Ipv4Net) :
    Prop where
  found : environment.networks.lookup networkName = some network
  parsed : library.parseNet network.cidr = .ok cidr
  canonical : cidr.trunc = cidr

theorem entry_of_lookup {values : Dictionary NetworkConfig}
    (found : values.lookup networkName = some network) :
    (⟨networkName, network⟩ : Sigma fun _ : String => NetworkConfig) ∈
      inOrder values :=
  SortedBy.mem_sortedBy.mpr (AList.mem_lookup_iff.mp found)

theorem declared_of_accepted (accepted : Accepted library environment)
    (found : environment.networks.lookup networkName = some network) :
    ∃ cidr, Declared library environment networkName network cidr := by
  have nothing := List.flatMap_eq_nil_iff.mp accepted.networks _
    (entry_of_lookup found)
  have noCIDR := (List.append_eq_nil_iff.mp nothing).1
  unfold cidrIssues at noCIDR
  cases parsed : library.parseNet network.cidr with
  | error message =>
      rw [parsed] at noCIDR
      cases noCIDR
  | ok cidr =>
      simp only [parsed] at noCIDR
      by_cases canonical : cidr = cidr.trunc
      · exact ⟨cidr, found, parsed, canonical.symm⟩
      · rw [if_neg canonical] at noCIDR
        cases noCIDR

theorem permits_iff (declared : Declared library environment networkName
      network cidr) {ip : String} {address : UInt32} :
    Permits library environment ⟨networkName, ip⟩ address ↔
      parseAddr ip = some address ∧ PermitsAddress network cidr address := by
  constructor
  · intro permits
    obtain ⟨other, otherCidr, found, parsed, permitted⟩ := permits.permitted
    rw [declared.found] at found
    rw [← Option.some.inj found, declared.parsed] at parsed
    rw [← Option.some.inj found, ← Except.ok.inj parsed,
      declared.canonical] at permitted
    exact ⟨permits.parses, permitted⟩
  · intro both
    refine ⟨both.1, network, cidr, declared.found, declared.parsed, ?_⟩
    rw [declared.canonical]
    exact both.2

theorem passes_iff (accepted : Accepted library environment)
    (declared : Declared library environment networkName network cidr)
    {vm ip : String} (fresh : vm ∉ environment.vms) :
    Passes library environment vm networkName ip ↔
      ∃ address, parseAddr ip = some address ∧
        PermitsAddress network cidr address ∧
          address ∉ usedAddresses environment networkName := by
  obtain ⟨sound, apart⟩ := attachmentIssues_eq_nil_iff.mp accepted.attachments
  have entries : (extended environment vm networkName ip).vms.entries =
      ⟨vm, [⟨networkName, ip⟩]⟩ :: environment.vms.entries :=
    AList.entries_insert_of_notMem fresh
  have samePermits : ∀ {attachment : VmNetwork} {address : UInt32},
      Permits library (extended environment vm networkName ip) attachment
          address ↔
        Permits library environment attachment address :=
    ⟨fun permits => ⟨permits.parses, permits.permitted⟩,
      fun permits => ⟨permits.parses, permits.permitted⟩⟩
  rw [Passes, attachmentIssues_eq_nil_iff, entries, List.forall_mem_cons,
    List.pairwise_cons]
  constructor
  · intro all
    obtain ⟨⟨here, _⟩, apartHere, _⟩ := all
    obtain ⟨address, permits⟩ :=
      here.permitted ⟨networkName, ip⟩ List.mem_cons_self
    obtain ⟨parses, permitted⟩ :=
      (permits_iff declared).mp (samePermits.mp permits)
    refine ⟨address, parses, permitted, ?_⟩
    intro used
    obtain ⟨entry, member, attachment, inside, named, has⟩ :=
      mem_usedAddresses.mp used
    refine apartHere entry member ⟨networkName, ip⟩ List.mem_cons_self
      attachment inside ?_
    simp [keyOf, named, has, parses]
  · intro found
    obtain ⟨address, parses, permitted, unused⟩ := found
    have permits := (permits_iff declared).mpr ⟨parses, permitted⟩
    refine ⟨⟨⟨?_, by simp⟩, ?_⟩, ?_, apart⟩
    · intro attachment member
      rw [List.mem_singleton.mp member]
      exact ⟨address, samePermits.mpr permits⟩
    · intro entry member
      refine ⟨?_, (sound entry member).distinct⟩
      intro attachment inside
      obtain ⟨other, otherPermits⟩ :=
        (sound entry member).permitted attachment inside
      exact ⟨other, samePermits.mpr otherPermits⟩
    · intro entry member attachment only other inside same
      rw [List.mem_singleton.mp only] at same
      obtain ⟨otherAddress, otherPermits⟩ :=
        (sound entry member).permitted other inside
      rw [keyOf_of_permits permits, keyOf_of_permits otherPermits] at same
      obtain ⟨sameName, sameAddress⟩ := Prod.mk.inj same
      refine unused (mem_usedAddresses.mpr
        ⟨entry, member, other, inside, sameName.symm, ?_⟩)
      rw [otherPermits.parses, sameAddress]

theorem permitted_of_used (accepted : Accepted library environment)
    (declared : Declared library environment networkName network cidr)
    {address : UInt32}
    (used : address ∈ usedAddresses environment networkName) :
    PermitsAddress network cidr address := by
  obtain ⟨sound, _⟩ := attachmentIssues_eq_nil_iff.mp accepted.attachments
  obtain ⟨entry, member, attachment, inside, named, has⟩ :=
    mem_usedAddresses.mp used
  obtain ⟨other, permits⟩ := (sound entry member).permitted attachment inside
  have sameAddress := permits.parses.symm.trans has
  rw [Option.some.inj sameAddress] at permits
  have whole : attachment = ⟨networkName, attachment.ip⟩ := by
    rw [← named]
  rw [whole] at permits
  exact ((permits_iff declared).mp permits).2

/-! ## When the suggestion is right -/

/-- An offset for hosts that no attachment has. -/
structure FreeOffset (environment : Environment) (networkName : String)
    (cidr : Ipv4Net) (offset : Nat) : Prop where
  notReserved : 2 ≤ offset
  notBroadcast : offset + 1 < cidr.size
  unused : cidr.addressAt offset ∉ usedAddresses environment networkName

/-- The configurations for which the suggestion is right: a docker network; a
free offset from 10 to 253; no free offset at all, or DHCP, in a network that
ends before offset 10 without the addition of 10 overflowing; no free offset
at all in a network that goes on behind offset 253. -/
def IsServed (environment : Environment) (networkName : String)
    (network : NetworkConfig) (cidr : Ipv4Net) : Prop :=
  network.backend = .docker ∨
  (network.dhcp = false ∧ ∃ offset, 10 ≤ offset ∧ offset < 254 ∧
    FreeOffset environment networkName cidr offset) ∨
  (29 ≤ cidr.prefixLength ∧ cidr.network.toNat + 10 < 2 ^ 32 ∧
    (network.dhcp = true ∨
      ∀ offset, ¬ FreeOffset environment networkName cidr offset)) ∨
  (cidr.prefixLength ≤ 24 ∧ network.dhcp = false ∧
    ∀ offset, ¬ FreeOffset environment networkName cidr offset)

theorem passes_vmnet_iff (accepted : Accepted library environment)
    (declared : Declared library environment networkName network cidr)
    (vmnet : network.backend ≠ .docker) {vm : String} {offset : Nat}
    (fresh : vm ∉ environment.vms) (inside : offset < cidr.size) :
    Passes library environment vm networkName
        (inetNtop (cidr.addressAt offset)) ↔
      network.dhcp = false ∧
        FreeOffset environment networkName cidr offset := by
  rw [passes_iff accepted declared fresh, parseAddr_inetNtop]
  simp only [Option.some.injEq, exists_eq_left', permitsAddress_iff]
  constructor
  · intro both
    obtain ⟨⟨static, other, high, low, _, same⟩, unused⟩ := both
    have isOffset := (cidr.addressAt_inj inside (by omega)).mp same
    rw [isOffset]
    exact ⟨static, high, low, isOffset ▸ unused⟩
  · intro both
    obtain ⟨static, free⟩ := both
    exact ⟨⟨static, offset, free.notReserved, free.notBroadcast,
      fun docker => absurd docker vmnet, rfl⟩, free.unused⟩

theorem forall_not_passes_iff (accepted : Accepted library environment)
    (declared : Declared library environment networkName network cidr)
    (vmnet : network.backend ≠ .docker) :
    (∀ vm ip, vm ∉ environment.vms →
        ¬ Passes library environment vm networkName ip) ↔
      network.dhcp = true ∨
        ∀ offset, ¬ FreeOffset environment networkName cidr offset := by
  constructor
  · intro none
    by_cases static : network.dhcp = false
    · right
      intro offset free
      obtain ⟨vm, fresh⟩ := exists_fresh environment
      have inside : offset < cidr.size := by
        have low := free.notBroadcast
        omega
      exact none vm _ fresh ((passes_vmnet_iff accepted declared vmnet fresh
        inside).mpr ⟨static, free⟩)
    · left
      simpa using static
  · intro either vm ip fresh passes
    obtain ⟨address, _, permitted, unused⟩ :=
      (passes_iff accepted declared fresh).mp passes
    obtain ⟨static, offset, high, low, _, same⟩ :=
      permitsAddress_iff.mp permitted
    rcases either with dhcp | none
    · rw [static] at dhcp
      cases dhcp
    · exact none offset ⟨high, low, same ▸ unused⟩

theorem broadcast_unused (accepted : Accepted library environment)
    (declared : Declared library environment networkName network cidr) :
    cidr.addressAt (cidr.size - 1) ∉
      usedAddresses environment networkName := fun used =>
  (permitted_of_used accepted declared used).notBroadcast rfl

theorem suggests_docker (accepted : Accepted library environment)
    (declared : Declared library environment networkName network cidr)
    (docker : network.backend = .docker) :
    Suggests library environment networkName := by
  obtain ⟨sound, _⟩ := attachmentIssues_eq_nil_iff.mp accepted.attachments
  have nothing := List.flatMap_eq_nil_iff.mp accepted.owners _
    (entry_of_lookup declared.found)
  have oneOwner : (owners environment networkName).length = 1 := by
    by_contra notOne
    simp [docker, notOne] at nothing
  obtain ⟨owner, owners_eq⟩ := List.length_eq_one_iff.mp oneOwner
  have isOwner : owner ∈ owners environment networkName := by
    rw [owners_eq]
    exact List.mem_singleton_self owner
  obtain ⟨entry, member, _⟩ := List.mem_map.mp isOwner
  obtain ⟨inMap, attached⟩ := List.mem_filter.mp member
  obtain ⟨attachment, inside, named⟩ := List.any_eq_true.mp attached
  have isEntry : entry ∈ environment.vms.entries :=
    SortedBy.mem_sortedBy.mp inMap
  obtain ⟨address, permits⟩ := (sound entry isEntry).permitted attachment
    inside
  have used : address ∈ usedAddresses environment networkName :=
    mem_usedAddresses.mpr ⟨entry, isEntry, attachment, inside,
      by simpa using named, permits.parses⟩
  obtain ⟨_, offset, _, low, router, same⟩ :=
    permitsAddress_iff.mp (permitted_of_used accepted declared used)
  rw [router docker] at low same
  rw [same] at used
  have suggestion : nextFreeIp library environment networkName =
      .error (.message ("docker network " ++ library.debug networkName ++
        " already has owner at " ++ inetNtop (cidr.addressAt 2))) := by
    rw [nextFreeIp, declared.found]
    simp only [declared.parsed, docker, if_true]
    rw [offsetIp_of_lt (by omega)]
    simp only [used, if_true]
  rw [Suggests, suggestion]
  intro vm ip fresh passes
  obtain ⟨other, _, permitted, unused⟩ :=
    (passes_iff accepted declared fresh).mp passes
  obtain ⟨_, otherOffset, _, _, otherRouter, otherSame⟩ :=
    permitsAddress_iff.mp permitted
  rw [otherRouter docker] at otherSame
  rw [otherSame] at unused
  exact unused used

theorem nextFreeIp_vmnet
    (declared : Declared library environment networkName network cidr)
    (vmnet : network.backend ≠ .docker) :
    nextFreeIp library environment networkName =
      match FirstFree.scan (candidateAt cidr)
        (isTaken cidr (usedAddresses environment networkName)) 244 10 with
      | .error failure => .error failure
      | .ok (some ip) => .ok (inetNtop ip)
      | .ok none => .error (.message
          ("no free IP on network " ++ library.debug networkName)) := by
  rw [nextFreeIp, declared.found]
  simp only [declared.parsed]
  rw [if_neg vmnet]

theorem suggests_small_iff (accepted : Accepted library environment)
    (declared : Declared library environment networkName network cidr)
    (vmnet : network.backend ≠ .docker) (small : cidr.size ≤ 10) :
    Suggests library environment networkName ↔
      cidr.network.toNat + 10 < 2 ^ 32 ∧ (network.dhcp = true ∨
        ∀ offset, ¬ FreeOffset environment networkName cidr offset) := by
  have walked : ∀ {failure : SuggestionError},
      offsetIp cidr 10 = .error failure →
        nextFreeIp library environment networkName = .error failure := by
    intro failure failed
    have first : candidateAt cidr 10 = .error failure := by
      rw [candidateAt, failed]
      rfl
    rw [nextFreeIp_vmnet declared vmnet, FirstFree.scan, first]
  rw [← forall_not_passes_iff accepted declared vmnet]
  rcases offsetIp_of_le (by decide) small with ⟨fits, text, failed⟩ |
    ⟨overflows, failed⟩
  · rw [Suggests, walked failed]
    exact (and_iff_right fits).symm
  · rw [Suggests, walked failed]
    constructor
    · intro impossible
      cases impossible
    · intro both
      omega

/-- The walk over the offsets of a network. -/
def walk (environment : Environment) (networkName : String)
    (cidr : Ipv4Net) : Except SuggestionError (Option UInt32) :=
  FirstFree.scan (candidateAt cidr)
    (isTaken cidr (usedAddresses environment networkName)) 244 10

theorem isTaken_of_unused {offset : Nat} (inside : offset < cidr.size)
    (unused : cidr.addressAt offset ∉
      usedAddresses environment networkName) :
    isTaken cidr (usedAddresses environment networkName)
      (cidr.addressAt offset) = false := by
  rw [Bool.eq_false_iff, Ne, isTaken_addressAt inside]
  exact unused

theorem walk_finds {offset : Nat} (fromTen : 10 ≤ offset)
    (below : offset < 254) (inside : offset < cidr.size)
    (unused : cidr.addressAt offset ∉
      usedAddresses environment networkName) :
    ∃ ip, walk environment networkName cidr = .ok (some ip) := by
  refine FirstFree.exists_of_free fromTen below ?_
    (candidateAt_of_lt inside) (isTaken_of_unused inside unused)
  intro earlier _ before
  exact ⟨_, candidateAt_of_lt (by omega)⟩

theorem walk_found {ip : UInt32}
    (found : walk environment networkName cidr = .ok (some ip)) :
    ∃ offset, 10 ≤ offset ∧ offset < 254 ∧ offset < cidr.size ∧
      ip = cidr.addressAt offset ∧
      cidr.addressAt offset ∉ usedAddresses environment networkName ∧
      ∀ earlier, 10 ≤ earlier → earlier < offset →
        cidr.addressAt earlier ∈ usedAddresses environment networkName := by
  obtain ⟨offset, below, isFirst⟩ := FirstFree.isFirst_of_scan found
  have fromTen := isFirst.notBefore
  obtain ⟨inside, same⟩ :=
    lt_size_of_candidateAt (by omega) isFirst.isCandidate
  have isAddress := Option.some.inj same
  refine ⟨offset, fromTen, below, inside, isAddress, ?_, ?_⟩
  · rw [← isTaken_addressAt inside, ← isAddress, isFirst.free]
    exact Bool.false_ne_true
  · intro earlier earlierFromTen before
    obtain ⟨other, isOther, taken⟩ :=
      isFirst.takenBefore earlier earlierFromTen before
    obtain ⟨earlierInside, otherSame⟩ :=
      lt_size_of_candidateAt (by omega) isOther
    rw [Option.some.inj otherSame, isTaken_addressAt earlierInside] at taken
    exact taken

theorem walk_cases (accepted : Accepted library environment)
    (declared : Declared library environment networkName network cidr)
    (large : 10 < cidr.size) :
    (∃ ip, walk environment networkName cidr = .ok (some ip)) ∨
      254 < cidr.size ∧ walk environment networkName cidr = .ok none := by
  have last := broadcast_unused accepted declared
  by_cases short : cidr.size ≤ 254
  · exact .inl (walk_finds (by omega) (by omega) (by omega) last)
  · cases walked : walk environment networkName cidr with
    | error failure =>
        obtain ⟨offset, _, below, failed, _⟩ :=
          FirstFree.failed_of_scan_error walked
        rw [candidateAt_of_lt (by omega)] at failed
        cases failed
    | ok result =>
        cases result with
        | some ip => exact .inl ⟨ip, rfl⟩
        | none => exact .inr ⟨by omega, rfl⟩

theorem suggests_large_iff (accepted : Accepted library environment)
    (declared : Declared library environment networkName network cidr)
    (vmnet : network.backend ≠ .docker) (large : 10 < cidr.size) :
    Suggests library environment networkName ↔
      (network.dhcp = false ∧ ∃ offset, 10 ≤ offset ∧ offset < 254 ∧
        FreeOffset environment networkName cidr offset) ∨
      (254 < cidr.size ∧ network.dhcp = false ∧
        ∀ offset, ¬ FreeOffset environment networkName cidr offset) := by
  have suggestion := nextFreeIp_vmnet declared vmnet
  rw [← walk] at suggestion
  rcases walk_cases accepted declared large with found | empty
  · obtain ⟨ip, found⟩ := found
    obtain ⟨offset, fromTen, below, inside, isAddress, unused, usedBefore⟩ :=
      walk_found found
    rw [found, isAddress] at suggestion
    rw [Suggests, suggestion]
    constructor
    · intro passes
      obtain ⟨vm, fresh⟩ := exists_fresh environment
      obtain ⟨static, free⟩ :=
        (passes_vmnet_iff accepted declared vmnet fresh inside).mp
          (passes vm fresh)
      exact .inl ⟨static, offset, fromTen, below, free⟩
    · intro either vm fresh
      rw [passes_vmnet_iff accepted declared vmnet fresh inside]
      rcases either with some | none
      · obtain ⟨static, other, otherFromTen, _, free⟩ := some
        have notBehind : ¬ other < offset := fun before =>
          free.unused (usedBefore other otherFromTen before)
        have low := free.notBroadcast
        exact ⟨static, by omega, by omega, unused⟩
      · obtain ⟨wide, static, noFree⟩ := none
        exact absurd ⟨by omega, by omega, unused⟩ (noFree offset)
  · obtain ⟨wide, empty⟩ := empty
    rw [empty] at suggestion
    rw [Suggests, suggestion]
    refine (forall_not_passes_iff accepted declared vmnet).trans ?_
    have allUsed : ∀ offset, 10 ≤ offset → offset < 254 →
        ¬ FreeOffset environment networkName cidr offset := by
      intro offset fromTen below free
      obtain ⟨ip, found⟩ :=
        walk_finds fromTen below (by omega) free.unused
      rw [empty] at found
      cases found
    have static : network.dhcp = false := by
      by_contra dhcp
      have unused : cidr.addressAt 10 ∉
          usedAddresses environment networkName := fun used =>
        dhcp (permitted_of_used accepted declared used).static
      exact allUsed 10 (by omega) (by omega) ⟨by omega, by omega, unused⟩
    constructor
    · intro either
      rcases either with dhcp | none
      · rw [static] at dhcp
        cases dhcp
      · exact .inr ⟨wide, static, none⟩
    · intro either
      rcases either with some | none
      · obtain ⟨_, offset, fromTen, below, free⟩ := some
        exact absurd free (allUsed offset fromTen below)
      · exact .inr none.2.2

/-- The suggestion of an accepted configuration is right exactly in the
networks that are served. -/
theorem suggests_iff (accepted : Accepted library environment)
    (declared : Declared library environment networkName network cidr) :
    Suggests library environment networkName ↔
      IsServed environment networkName network cidr := by
  have range := cidr.prefixRange
  by_cases docker : network.backend = .docker
  · constructor
    · intro _
      exact .inl docker
    · intro _
      exact suggests_docker accepted declared docker
  have bound : ∀ {length : Nat}, length ≤ cidr.prefixLength →
      cidr.size ≤ 2 ^ (32 - length) := fun longer =>
    Nat.pow_le_pow_right (by omega) (by omega)
  have atLeast : ∀ {length : Nat}, cidr.prefixLength ≤ length →
      2 ^ (32 - length) ≤ cidr.size := fun shorter =>
    Nat.pow_le_pow_right (by omega) (by omega)
  by_cases small : 29 ≤ cidr.prefixLength
  · have few : cidr.size ≤ 8 := bound small
    rw [suggests_small_iff accepted declared docker (by omega), IsServed]
    constructor
    · intro both
      exact .inr (.inr (.inl ⟨small, both⟩))
    · intro served
      rcases served with isDocker | some | none | wide
      · exact absurd isDocker docker
      · obtain ⟨_, offset, fromTen, _, free⟩ := some
        have low := free.notBroadcast
        omega
      · exact none.2
      · omega
  · have many : 16 ≤ cidr.size := atLeast (by omega : cidr.prefixLength ≤ 28)
    have wide_iff : 254 < cidr.size ↔ cidr.prefixLength ≤ 24 := by
      constructor
      · intro wide
        by_contra longer
        have few : cidr.size ≤ 128 :=
          bound (by omega : 25 ≤ cidr.prefixLength)
        omega
      · intro shorter
        have more : 256 ≤ cidr.size := atLeast shorter
        omega
    rw [suggests_large_iff accepted declared docker (by omega), wide_iff,
      IsServed]
    constructor
    · intro either
      rcases either with some | none
      · exact .inr (.inl some)
      · exact .inr (.inr (.inr none))
    · intro served
      rcases served with isDocker | some | short | none
      · exact absurd isDocker docker
      · exact .inl some
      · omega
      · exact .inr none

/-- For every network of an accepted configuration, the suggestion is right
exactly when the network is served. -/
theorem nextFreeIp_suggests_iff (library : Library)
    (environment : Environment) (accepted : Accepted library environment)
    (networkName : String) (network : NetworkConfig)
    (found : environment.networks.lookup networkName = some network) :
    ∃ cidr, library.parseNet network.cidr = .ok cidr ∧
      (Suggests library environment networkName ↔
        IsServed environment networkName network cidr) := by
  obtain ⟨cidr, declared⟩ := declared_of_accepted accepted found
  exact ⟨cidr, declared.parsed, suggests_iff accepted declared⟩

end Extension

/-! ## A small network -/

/-- The network 10.80.0.0/28. -/
def smallNet : Ipv4Net where
  addr := 0x0A500000
  prefixLength := 28
  prefixRange := by decide

/-- A parser that knows one network. -/
def smallLibrary : Library where
  debug := fun text => "\"" ++ text ++ "\""
  json := fun text => "\"" ++ text ++ "\""
  parseNet := fun text =>
    if text = "10.80.0.0/28" then .ok smallNet
    else .error "invalid IP address syntax"

/-- A network with a VM at each of some addresses. -/
def smallConfig (ips : List String) : Environment where
  networks := AList.singleton "lan"
    ⟨"10.80.0.0/28", .shared, false, true, .vmnet⟩
  vms := (ips.map fun ip =>
    (⟨"vm-" ++ ip, [⟨"lan", ip⟩]⟩ :
      Sigma fun _ : String => List VmNetwork)).toAList

/-- After three VMs there are free offsets. -/
theorem smallConfig_suggests :
    Suggests smallLibrary
      (smallConfig ["10.80.0.2", "10.80.0.10", "10.80.0.11"]) "lan" := by
  obtain ⟨cidr, parsed, served_iff⟩ := nextFreeIp_suggests_iff smallLibrary
    (smallConfig ["10.80.0.2", "10.80.0.10", "10.80.0.11"])
    ⟨by rfl, by rfl, by rfl⟩ "lan"
    ⟨"10.80.0.0/28", .shared, false, true, .vmnet⟩ (by decide)
  have isSmall : smallNet = cidr := Except.ok.inj parsed
  have unused : smallNet.addressAt 12 ∉ usedAddresses
      (smallConfig ["10.80.0.2", "10.80.0.10", "10.80.0.11"]) "lan" := by
    decide
  refine served_iff.mpr (.inr (.inl ⟨rfl, 12, by omega, by omega, ?_⟩))
  rw [← isSmall]
  exact ⟨by omega, by decide, unused⟩

/-- With VMs at all offsets from 10 on, the broadcast address is suggested. -/
theorem smallConfig_suggests_broadcast :
    let full := smallConfig ["10.80.0.10", "10.80.0.11", "10.80.0.12",
      "10.80.0.13", "10.80.0.14"]
    Accepted smallLibrary full ∧
      nextFreeIp smallLibrary full "lan" = .ok "10.80.0.15" ∧
      ¬ Suggests smallLibrary full "lan" := by
  intro full
  have suggestion : nextFreeIp smallLibrary full "lan" =
      .ok "10.80.0.15" := by
    rfl
  refine ⟨⟨by rfl, by rfl, by rfl⟩,
    suggestion, ?_⟩
  intro suggests
  rw [Suggests, suggestion] at suggests
  have passes : attachmentIssues smallLibrary
      (extended full "new" "lan" "10.80.0.15") = [] :=
    suggests "new" (by decide)
  have refused : attachmentIssues smallLibrary
      (extended full "new" "lan" "10.80.0.15") ≠ [] := by
    decide
  exact refused passes

end Config

end Vzctl
