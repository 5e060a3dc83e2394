import Vzctl.Config.Networks
import Vzctl.Lib.SortedBy

/-!
# Checks of networks and attachments

The parts of `validate_references` about networks and the attachments of VMs.
An attachment passes when its address is one that its network permits and that
no attachment before it has.
-/

namespace Vzctl

namespace Config

open Ingress (ValidationIssue)

variable (library : Library) (environment : Environment)

def semantic (path message : String) : ValidationIssue :=
  ⟨path, message, "semantic"⟩

def vmPath (vmName : String) : String :=
  Dependencies.jsonPathKey library.toLibrary "$.spec.vms" vmName

def networkPath (name : String) : String :=
  Dependencies.jsonPathKey library.toLibrary "$.spec.networks" name

/-- The entries of a map, in its order. -/
def inOrder {α : Type} (values : Dictionary α) :
    List (Sigma fun _ : String => α) :=
  sortedBy Sigma.fst values.entries

/-! ## Networks -/

def cidrIssues (name : String) (network : NetworkConfig) :
    List ValidationIssue :=
  let path := networkPath library name ++ ".cidr"
  match library.parseNet network.cidr with
  | .ok cidr =>
      if cidr = cidr.trunc then []
      else [semantic path
        ("CIDR must use its network address; expected " ++ cidr.trunc.text)]
  | .error message => [semantic path ("invalid IPv4 CIDR: " ++ message)]

def dockerIssues (name : String) (network : NetworkConfig) :
    List ValidationIssue :=
  let base := networkPath library name
  if network.backend = .docker then
    (if network.dhcp then
      [semantic (base ++ ".dhcp")
        "backend docker networks must not enable DHCP"]
    else []) ++
    (if network.natEgress then
      [semantic (base ++ ".natEgress")
        "backend docker networks must set natEgress: false"]
    else [])
  else []

def networkIssues : List ValidationIssue :=
  (inOrder environment.networks).flatMap fun entry =>
    cidrIssues library entry.1 entry.2 ++ dockerIssues library entry.1 entry.2

/-- The VMs with an attachment to a network. -/
def owners (name : String) : List String :=
  ((inOrder environment.vms).filter fun entry =>
    entry.2.any fun attachment => attachment.name = name).map Sigma.fst

def ownerIssues : List ValidationIssue :=
  (inOrder environment.networks).flatMap fun entry =>
    let found := (owners environment entry.1).length
    if entry.2.backend = .docker ∧ found ≠ 1 then
      [semantic (networkPath library entry.1 ++ ".backend")
        ("backend docker network " ++ library.debug entry.1 ++
          " requires exactly one attached VM, found " ++ Nat.repr found)]
    else []

/-! ## Attachments -/

/-- `assigned_ips`, the last entry first. -/
abbrev AssignedIps := List ((String × UInt32) × String × Nat)

/-- The issues of an address that may be assigned. -/
def assignmentIssues (base : String) (attachment : VmNetwork)
    (network : NetworkConfig) (cidr : Ipv4Net) (ip : UInt32)
    (assigned : AssignedIps) : List ValidationIssue :=
  let path := base ++ ".ip"
  (if network.backend = .docker ∧ cidr.hostOffset ip ≠ 2 then
    [semantic path
      ("backend docker network " ++ library.debug attachment.name ++
        " requires router IP .2, got " ++ inetNtop ip)]
  else []) ++
  (match assigned.lookup (attachment.name, ip) with
  | some (otherVM, otherIndex) =>
      [semantic path
        ("IP " ++ inetNtop ip ++ " collides with " ++
          vmPath library otherVM ++ ".networks[" ++ Nat.repr otherIndex ++
          "].ip")]
  | none => []) ++
  (if network.dhcp then
    [semantic path
      ("static IP " ++ inetNtop ip ++
        " collides with DHCP enabled on network " ++
        library.debug attachment.name)]
  else [])

/-- The address of an attachment to a network that is known. -/
def checkAddress (vmName : String) (index : Nat) (attachment : VmNetwork)
    (network : NetworkConfig) (cidr : Ipv4Net) (assigned : AssignedIps) :
    List ValidationIssue × AssignedIps :=
  let base := vmPath library vmName ++ ".networks[" ++ Nat.repr index ++ "]"
  let path := base ++ ".ip"
  match parseAddr attachment.ip with
  | none =>
      ([semantic path
        "invalid IPv4 address: invalid IPv4 address syntax"], assigned)
  | some ip =>
      if cidr.contains ip = false then
        ([semantic path ("IP " ++ inetNtop ip ++ " is not in CIDR " ++
          cidr.text)], assigned)
      else if ip = cidr.network ∨ ip = cidr.broadcast then
        ([semantic path ("IP " ++ inetNtop ip ++
          " is a reserved network/broadcast address in " ++ cidr.text)],
          assigned)
      else if cidr.hostOffset ip ≤ 1 then
        ([semantic path ("IP " ++ inetNtop ip ++
          " is reserved for gateway/DNS (.0) or future use (.1)")], assigned)
      else
        (assignmentIssues library base attachment network cidr ip assigned,
          ((attachment.name, ip), vmName, index) :: assigned)

/-- One turn of the loop over the attachments of a VM; `seen` holds the names
before. -/
def checkAttachment (vmName : String) (seen : List String) (index : Nat)
    (attachment : VmNetwork) (assigned : AssignedIps) :
    List ValidationIssue × AssignedIps :=
  let path := vmPath library vmName ++ ".networks[" ++ Nat.repr index ++
    "].name"
  let duplicate :=
    if attachment.name ∈ seen then
      [semantic path ("VM has duplicate attachment to " ++
        library.debug attachment.name)]
    else []
  -- The map of the networks has the truncated ones of those that parse.
  match environment.networks.lookup attachment.name with
  | none =>
      (duplicate ++ [semantic path
        ("unknown network " ++ library.debug attachment.name)], assigned)
  | some network =>
      match library.parseNet network.cidr with
      | .error _ =>
          (duplicate ++ [semantic path
            ("unknown network " ++ library.debug attachment.name)], assigned)
      | .ok cidr =>
          let checked := checkAddress library vmName index attachment network
            cidr.trunc assigned
          (duplicate ++ checked.1, checked.2)

def checkAttachments (vmName : String) :
    List String → Nat → List VmNetwork → AssignedIps →
      List ValidationIssue × AssignedIps
  | _, _, [], assigned => ([], assigned)
  | seen, index, attachment :: rest, assigned =>
      let first := checkAttachment library environment vmName seen index
        attachment assigned
      let later := checkAttachments vmName (attachment.name :: seen)
        (index + 1) rest first.2
      (first.1 ++ later.1, later.2)

def checkVMs :
    List (Sigma fun _ : String => List VmNetwork) → AssignedIps →
      List ValidationIssue × AssignedIps
  | [], assigned => ([], assigned)
  | entry :: rest, assigned =>
      let first := checkAttachments library environment entry.1 [] 0 entry.2
        assigned
      let later := checkVMs rest first.2
      (first.1 ++ later.1, later.2)

/-- The issues of all attachments. -/
def attachmentIssues : List ValidationIssue :=
  (checkVMs library environment (inOrder environment.vms) []).1

/-- Validation has nothing against the networks and attachments. -/
structure Accepted : Prop where
  networks : networkIssues library environment = []
  attachments : attachmentIssues library environment = []
  owners : ownerIssues library environment = []

/-! ## What the checks establish -/

section Spec

variable {library environment} {attachment : VmNetwork} {ip : UInt32}
  {assigned : AssignedIps}

/-- A network permits an address. -/
structure PermitsAddress (network : NetworkConfig) (cidr : Ipv4Net)
    (ip : UInt32) : Prop where
  inside : cidr.contains ip = true
  notNetwork : ip ≠ cidr.network
  notBroadcast : ip ≠ cidr.broadcast
  notReserved : 2 ≤ cidr.hostOffset ip
  router : network.backend = .docker → cidr.hostOffset ip = 2
  static : network.dhcp = false

/-- The address of an attachment is one that its network permits. -/
structure Permits (library : Library) (environment : Environment)
    (attachment : VmNetwork) (ip : UInt32) : Prop where
  parses : parseAddr attachment.ip = some ip
  permitted : ∃ network cidr,
    environment.networks.lookup attachment.name = some network ∧
      library.parseNet network.cidr = .ok cidr ∧
        PermitsAddress network cidr.trunc ip

theorem assignmentIssues_eq_nil_iff {base : String} {network : NetworkConfig}
    {cidr : Ipv4Net} :
    assignmentIssues library base attachment network cidr ip assigned = [] ↔
      (network.backend = .docker → cidr.hostOffset ip = 2) ∧
        assigned.lookup (attachment.name, ip) = none ∧
          network.dhcp = false := by
  have docker : ((if network.backend = .docker ∧ cidr.hostOffset ip ≠ 2 then
      [semantic (base ++ ".ip") ("backend docker network " ++
        library.debug attachment.name ++ " requires router IP .2, got " ++
          inetNtop ip)]
      else []) = []) ↔
        (network.backend = .docker → cidr.hostOffset ip = 2) := by
    simp
  simp only [assignmentIssues, List.append_eq_nil_iff, docker, and_assoc]
  refine and_congr_right fun _ => and_congr ?_ ?_
  · cases assigned.lookup (attachment.name, ip) with
    | none => simp
    | some other => simp
  · simp

theorem checkAddress_eq_nil_iff {vmName : String} {index : Nat}
    {network : NetworkConfig} {cidr : Ipv4Net} :
    (checkAddress library vmName index attachment network cidr
        assigned).1 = [] ↔
      ∃ ip, parseAddr attachment.ip = some ip ∧
        PermitsAddress network cidr ip ∧
          assigned.lookup (attachment.name, ip) = none := by
  unfold checkAddress
  cases parsed : parseAddr attachment.ip with
  | none => simp
  | some ip =>
      simp only [Option.some.injEq, exists_eq_left']
      by_cases inside : cidr.contains ip = false
      · rw [if_pos inside]
        constructor
        · intro impossible
          cases impossible
        · intro both
          rw [both.1.inside] at inside
          cases inside
      rw [if_neg inside]
      by_cases reserved : ip = cidr.network ∨ ip = cidr.broadcast
      · rw [if_pos reserved]
        constructor
        · intro impossible
          cases impossible
        · intro both
          rcases reserved with first | last
          · exact absurd first both.1.notNetwork
          · exact absurd last both.1.notBroadcast
      rw [if_neg reserved]
      by_cases low : cidr.hostOffset ip ≤ 1
      · rw [if_pos low]
        constructor
        · intro impossible
          cases impossible
        · intro both
          have high := both.1.notReserved
          omega
      rw [if_neg low, assignmentIssues_eq_nil_iff]
      obtain ⟨notNetwork, notBroadcast⟩ := not_or.mp reserved
      constructor
      · intro all
        exact ⟨⟨by simpa using inside, notNetwork, notBroadcast, by omega,
          all.1, all.2.2⟩, all.2.1⟩
      · intro both
        exact ⟨both.1.router, both.2, both.1.static⟩

theorem checkAddress_assigned {vmName : String} {index : Nat}
    {network : NetworkConfig} {cidr : Ipv4Net}
    (parses : parseAddr attachment.ip = some ip)
    (permitted : PermitsAddress network cidr ip) :
    (checkAddress library vmName index attachment network cidr
        assigned).2 =
      ((attachment.name, ip), vmName, index) :: assigned := by
  have inside := permitted.inside
  have high := permitted.notReserved
  simp only [checkAddress, parses]
  rw [if_neg (by simp [inside]), if_neg (by
    simp [permitted.notNetwork, permitted.notBroadcast]), if_neg (by omega)]

theorem checkAttachment_eq_nil_iff {vmName : String} {seen : List String}
    {index : Nat} :
    (checkAttachment library environment vmName seen index attachment
        assigned).1 = [] ↔
      attachment.name ∉ seen ∧ ∃ ip,
        Permits library environment attachment ip ∧
          assigned.lookup (attachment.name, ip) = none := by
  unfold checkAttachment
  cases found : environment.networks.lookup attachment.name with
  | none =>
      constructor
      · intro nothing
        simp at nothing
      · intro both
        obtain ⟨_, _, permits, _⟩ := both
        obtain ⟨network, _, isNetwork, _⟩ := permits.permitted
        rw [found] at isNetwork
        cases isNetwork
  | some network =>
      cases parsed : library.parseNet network.cidr with
      | error message =>
          constructor
          · intro nothing
            simp [parsed] at nothing
          · intro both
            obtain ⟨_, _, permits, _⟩ := both
            obtain ⟨other, _, isNetwork, parses, _⟩ := permits.permitted
            rw [found] at isNetwork
            rw [← Option.some.inj isNetwork, parsed] at parses
            cases parses
      | ok cidr =>
          simp only [parsed, List.append_eq_nil_iff, checkAddress_eq_nil_iff]
          refine and_congr (by simp) ?_
          constructor
          · intro checked
            obtain ⟨ip, parses, permitted, free⟩ := checked
            exact ⟨ip, ⟨parses, network, cidr, found, parsed, permitted⟩,
              free⟩
          · intro checked
            obtain ⟨ip, permits, free⟩ := checked
            obtain ⟨other, otherCidr, isNetwork, parses, permitted⟩ :=
              permits.permitted
            rw [found] at isNetwork
            rw [← Option.some.inj isNetwork] at parses permitted
            rw [parsed] at parses
            rw [← Except.ok.inj parses] at permitted
            exact ⟨ip, permits.parses, permitted, free⟩

theorem checkAttachment_assigned {vmName : String} {seen : List String}
    {index : Nat} (permits : Permits library environment attachment ip) :
    (checkAttachment library environment vmName seen index attachment
        assigned).2 =
      ((attachment.name, ip), vmName, index) :: assigned := by
  obtain ⟨network, cidr, found, parsed, permitted⟩ := permits.permitted
  simp only [checkAttachment, found, parsed]
  exact checkAddress_assigned permits.parses permitted

/-! ### Lists of attachments -/

/-- What an attachment is assigned under. -/
def keyOf (attachment : VmNetwork) : String × UInt32 :=
  (attachment.name, (parseAddr attachment.ip).getD 0)

theorem keyOf_of_permits
    (permits : Permits library environment attachment ip) :
    keyOf attachment = (attachment.name, ip) := by
  rw [keyOf, permits.parses]
  rfl

/-- Some address permits an attachment. -/
def Permitted (library : Library) (environment : Environment)
    (attachment : VmNetwork) : Prop :=
  ∃ ip, Permits library environment attachment ip

def keys (assigned : AssignedIps) : List (String × UInt32) :=
  assigned.map Prod.fst

theorem lookup_eq_none_iff {key : String × UInt32} :
    assigned.lookup key = none ↔ key ∉ keys assigned := by
  rw [List.lookup_eq_none_iff, keys]
  simp only [List.mem_map, not_exists, not_and, bne_iff_ne]
  exact forall₂_congr fun entry _ => ne_comm

/-- Attachments of one VM that pass after some names and assignments. -/
structure Fits (library : Library) (environment : Environment)
    (seen : List String) (assigned : AssignedIps)
    (attachments : List VmNetwork) : Prop where
  permitted : ∀ attachment ∈ attachments,
    Permitted library environment attachment
  distinct : (attachments.map (·.name)).Nodup
  unseen : ∀ attachment ∈ attachments, attachment.name ∉ seen
  free : ∀ attachment ∈ attachments, keyOf attachment ∉ keys assigned

theorem fits_cons_iff {seen : List String} {rest : List VmNetwork}
    {holder : String × Nat} (permits : Permits library environment
      attachment ip) :
    Fits library environment seen assigned (attachment :: rest) ↔
      (attachment.name ∉ seen ∧
        assigned.lookup (attachment.name, ip) = none) ∧
      Fits library environment (attachment.name :: seen)
        (((attachment.name, ip), holder) :: assigned) rest := by
  have key := keyOf_of_permits permits
  constructor
  · intro fits
    have others := List.nodup_cons.mp fits.distinct
    have differs : ∀ other ∈ rest, other.name ≠ attachment.name := by
      intro other member same
      have inside : other.name ∈ rest.map (·.name) :=
        List.mem_map_of_mem member
      rw [same] at inside
      exact others.1 inside
    refine ⟨⟨fits.unseen _ List.mem_cons_self, ?_⟩, ?_⟩
    · rw [lookup_eq_none_iff, ← key]
      exact fits.free _ List.mem_cons_self
    · constructor
      · intro other member
        exact fits.permitted other (List.mem_cons_of_mem _ member)
      · exact others.2
      · intro other member
        have fresh := fits.unseen other (List.mem_cons_of_mem _ member)
        simp [fresh, differs other member]
      · intro other member
        have free := fits.free other (List.mem_cons_of_mem _ member)
        have notSame : keyOf other ≠ (attachment.name, ip) := by
          intro same
          exact differs other member (congrArg Prod.fst same)
        simp only [keys, List.map_cons, List.mem_cons, not_or]
        exact ⟨notSame, free⟩
  · intro both
    obtain ⟨⟨fresh, unassigned⟩, later⟩ := both
    constructor
    · exact List.forall_mem_cons.mpr ⟨⟨ip, permits⟩, later.permitted⟩
    · rw [List.map_cons, List.nodup_cons]
      refine ⟨?_, later.distinct⟩
      intro member
      obtain ⟨other, inside, same⟩ := List.mem_map.mp member
      exact later.unseen other inside (same ▸ List.mem_cons_self)
    · refine List.forall_mem_cons.mpr ⟨fresh, ?_⟩
      intro other member inSeen
      exact later.unseen other member (List.mem_cons_of_mem _ inSeen)
    · refine List.forall_mem_cons.mpr ⟨?_, ?_⟩
      · rw [key, ← lookup_eq_none_iff]
        exact unassigned
      · intro other member inKeys
        exact later.free other member (List.mem_cons_of_mem _ inKeys)

/-- The attachments of a VM pass exactly when they fit, and are then assigned
too. -/
theorem checkAttachments_spec (vmName : String)
    (attachments : List VmNetwork) (seen : List String) (index : Nat)
    (assigned : AssignedIps) :
    ((checkAttachments library environment vmName seen index attachments
        assigned).1 = [] ↔
      Fits library environment seen assigned attachments) ∧
    (Fits library environment seen assigned attachments → ∀ key,
      key ∈ keys (checkAttachments library environment vmName seen index
          attachments assigned).2 ↔
        key ∈ keys assigned ∨ key ∈ attachments.map keyOf) := by
  induction attachments generalizing seen index assigned with
  | nil =>
      constructor
      · constructor
        · intro _
          constructor <;> simp
        · intro _
          rfl
      · intro _ key
        simp [checkAttachments]
  | cons attachment rest ih =>
      by_cases permitted : Permitted library environment attachment
      · obtain ⟨ip, permits⟩ := permitted
        have after : (checkAttachment library environment vmName seen index
            attachment assigned).2 =
              ((attachment.name, ip), vmName, index) :: assigned :=
          checkAttachment_assigned permits
        obtain ⟨nothing, assignedThen⟩ := ih
          (attachment.name :: seen) (index + 1)
          (((attachment.name, ip), vmName, index) :: assigned)
        have first : (checkAttachment library environment vmName seen index
            attachment assigned).1 = [] ↔ attachment.name ∉ seen ∧
              assigned.lookup (attachment.name, ip) = none := by
          rw [checkAttachment_eq_nil_iff]
          refine and_congr_right fun _ => ?_
          constructor
          · intro found
            obtain ⟨other, otherPermits, free⟩ := found
            have same := otherPermits.parses.symm.trans permits.parses
            rw [Option.some.inj same] at free
            exact free
          · intro free
            exact ⟨ip, permits, free⟩
        have fits : Fits library environment seen assigned
            (attachment :: rest) ↔ (attachment.name ∉ seen ∧
              assigned.lookup (attachment.name, ip) = none) ∧
            Fits library environment (attachment.name :: seen)
              (((attachment.name, ip), vmName, index) :: assigned) rest :=
          fits_cons_iff permits
        constructor
        · rw [checkAttachments, List.append_eq_nil_iff, after, nothing,
            first, fits]
        · intro both key
          rw [checkAttachments, after, assignedThen (fits.mp both).2 key,
            List.map_cons, List.mem_cons, keyOf_of_permits permits]
          simp only [keys, List.map_cons, List.mem_cons]
          tauto
      · have refused : ¬ Fits library environment seen assigned
            (attachment :: rest) := fun fits =>
          permitted (fits.permitted _ List.mem_cons_self)
        constructor
        · rw [checkAttachments, List.append_eq_nil_iff]
          constructor
          · intro both
            obtain ⟨_, ip, permits, _⟩ :=
              checkAttachment_eq_nil_iff.mp both.1
            exact absurd ⟨ip, permits⟩ permitted
          · intro fits
            exact absurd fits refused
        · intro fits
          exact absurd fits refused

/-- The attachments of a VM, without regard to those of others. -/
structure Sound (library : Library) (environment : Environment)
    (attachments : List VmNetwork) : Prop where
  permitted : ∀ attachment ∈ attachments,
    Permitted library environment attachment
  distinct : (attachments.map (·.name)).Nodup

/-- Two VMs share no address of a network. -/
def Apart (first second : Sigma fun _ : String => List VmNetwork) : Prop :=
  ∀ attachment ∈ first.2, ∀ other ∈ second.2,
    keyOf attachment ≠ keyOf other

theorem Apart.symm {first second : Sigma fun _ : String => List VmNetwork}
    (apart : Apart first second) : Apart second first := by
  intro other otherMember attachment member same
  exact apart attachment member other otherMember same.symm

theorem fits_iff :
    Fits library environment [] assigned = fun attachments =>
      Sound library environment attachments ∧
        ∀ attachment ∈ attachments, keyOf attachment ∉ keys assigned := by
  funext attachments
  apply propext
  constructor
  · intro fits
    exact ⟨⟨fits.permitted, fits.distinct⟩, fits.free⟩
  · intro both
    exact ⟨both.1.permitted, both.1.distinct, by simp, both.2⟩

theorem checkVMs_eq_nil_iff
    (entries : List (Sigma fun _ : String => List VmNetwork))
    (assigned : AssignedIps) :
    (checkVMs library environment entries assigned).1 = [] ↔
      (∀ entry ∈ entries, Sound library environment entry.2 ∧
        ∀ attachment ∈ entry.2, keyOf attachment ∉ keys assigned) ∧
      entries.Pairwise Apart := by
  induction entries generalizing assigned with
  | nil => simp [checkVMs]
  | cons entry rest ih =>
      have walked : _ ∧ (Fits library environment [] assigned entry.2 → _) :=
        checkAttachments_spec entry.1 entry.2 [] 0 assigned
      obtain ⟨nothing, assignedThen⟩ := walked
      rw [checkVMs, List.append_eq_nil_iff, nothing, ih,
        List.forall_mem_cons, List.pairwise_cons]
      have fits : Fits library environment [] assigned entry.2 ↔
          Sound library environment entry.2 ∧
            ∀ attachment ∈ entry.2, keyOf attachment ∉ keys assigned := by
        rw [fits_iff]
      constructor
      · intro all
        obtain ⟨here, later, pairs⟩ := all
        have assignedKeys := assignedThen here
        refine ⟨⟨fits.mp here, ?_⟩, ?_, pairs⟩
        · intro other member
          refine ⟨(later other member).1, ?_⟩
          intro attachment inside inKeys
          exact (later other member).2 attachment inside
            ((assignedKeys _).mpr (.inl inKeys))
        · intro other member attachment inside otherAttachment otherInside
            same
          exact (later other member).2 otherAttachment otherInside
            ((assignedKeys _).mpr
              (.inr (same ▸ List.mem_map_of_mem inside)))
      · intro all
        obtain ⟨⟨here, later⟩, apart, pairs⟩ := all
        have assignedKeys := assignedThen (fits.mpr here)
        refine ⟨fits.mpr here, ?_, pairs⟩
        intro other member
        refine ⟨(later other member).1, ?_⟩
        intro attachment inside inKeys
        rcases (assignedKeys _).mp inKeys with before | fromEntry
        · exact (later other member).2 attachment inside before
        · obtain ⟨first, firstInside, same⟩ := List.mem_map.mp fromEntry
          exact apart other member first firstInside attachment inside same

/-- All attachments pass when those of each VM do and no two VMs share an
address. -/
theorem attachmentIssues_eq_nil_iff :
    attachmentIssues library environment = [] ↔
      (∀ entry ∈ environment.vms.entries,
        Sound library environment entry.2) ∧
      environment.vms.entries.Pairwise Apart := by
  rw [attachmentIssues, checkVMs_eq_nil_iff]
  have permuted : (inOrder environment.vms).Perm environment.vms.entries :=
    SortedBy.perm_sortedBy
  rw [permuted.pairwise_iff fun apart => apart.symm]
  refine and_congr_left fun _ => ?_
  constructor
  · intro each entry member
    exact (each entry (permuted.mem_iff.mpr member)).1
  · intro each entry member
    exact ⟨each entry (permuted.mem_iff.mp member), by simp [keys]⟩

end Spec

end Config

end Vzctl
