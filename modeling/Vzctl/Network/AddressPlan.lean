import Vzctl.Network.AttachmentTable

/-!
# The address plan

Whether two networks of the registry can share addresses.  `createLocked` and
`NetRuntimeStore.acquire` compare canonical CIDR texts only, so networks are
disjoint exactly as long as nobody asks for a range inside a recorded one.
-/

namespace Vzctl

open NetworkDatabase NetworkRegistry

namespace NetworkDatabase

/-- Distinct networks have disjoint ranges. -/
structure Isolated (database : NetworkDatabase) : Prop where
  canonical : ∀ network ∈ database.networkTable.rows,
    ∃ cidr : IPv4CIDR, network.cidr = cidr.canonical
  disjoint : ∀ left ∈ database.networkTable.rows,
    ∀ right ∈ database.networkTable.rows, left.id ≠ right.id →
      ∀ leftCIDR rightCIDR : IPv4CIDR, left.cidr = leftCIDR.canonical →
        right.cidr = rightCIDR.canonical →
          ¬ leftCIDR.block.Overlaps rightCIDR.block

/-- The range of a network lies outside of all recorded ones. -/
def Separate (database : NetworkDatabase) (record : NetworkRecord) : Prop :=
  ∃ cidr : IPv4CIDR, record.cidr = cidr.canonical ∧
    ∀ network ∈ database.networkTable.rows, ∀ other : IPv4CIDR,
      network.cidr = other.canonical → ¬ cidr.block.Overlaps other.block

section Edits

variable {before after : NetworkDatabase}

theorem isolated_fresh : fresh.Isolated where
  canonical := by simp [fresh]
  disjoint := by simp [fresh]

theorem Isolated.of_kept (isolated : before.Isolated)
    (kept : ∀ network ∈ after.networkTable.rows,
      ∃ old ∈ before.networkTable.rows,
        old.id = network.id ∧ old.cidr = network.cidr) :
    after.Isolated where
  canonical := by
    intro network member
    obtain ⟨old, oldMember, _, sameCIDR⟩ := kept network member
    rw [← sameCIDR]
    exact isolated.canonical old oldMember
  disjoint := by
    intro left leftMember right rightMember different leftCIDR rightCIDR
      leftCanonical rightCanonical
    obtain ⟨oldLeft, oldLeftMember, leftID, leftSame⟩ := kept left leftMember
    obtain ⟨oldRight, oldRightMember, rightID, rightSame⟩ :=
      kept right rightMember
    apply isolated.disjoint oldLeft oldLeftMember oldRight oldRightMember
    · rw [leftID, rightID]
      exact different
    · exact leftSame.trans leftCanonical
    · exact rightSame.trans rightCanonical

theorem Isolated.of_insert {record : NetworkRecord}
    (isolated : before.Isolated) (separate : before.Separate record)
    (rows : after.networkTable.rows =
      before.networkTable.rows ++ [record]) :
    after.Isolated := by
  obtain ⟨cidr, isCanonical, apart⟩ := separate
  have cidrOf : ∀ other : IPv4CIDR, record.cidr = other.canonical →
      other = cidr := by
    intro other otherCanonical
    exact IPv4CIDR.canonical_injective
      (otherCanonical.symm.trans isCanonical)
  constructor
  · intro network member
    rw [rows] at member
    rcases List.mem_append.mp member with old | new
    · exact isolated.canonical network old
    · rw [List.mem_singleton.mp new]
      exact ⟨cidr, isCanonical⟩
  · intro left leftMember right rightMember different leftCIDR rightCIDR
      leftCanonical rightCanonical
    rw [rows] at leftMember rightMember
    rcases List.mem_append.mp leftMember with leftOld | leftNew
    · rcases List.mem_append.mp rightMember with rightOld | rightNew
      · exact isolated.disjoint left leftOld right rightOld different
          leftCIDR rightCIDR leftCanonical rightCanonical
      · rw [List.mem_singleton.mp rightNew] at rightCanonical
        rw [cidrOf rightCIDR rightCanonical]
        intro meets
        exact apart left leftOld leftCIDR leftCanonical meets.symm
    · rw [List.mem_singleton.mp leftNew] at leftCanonical
      rcases List.mem_append.mp rightMember with rightOld | rightNew
      · rw [cidrOf leftCIDR leftCanonical]
        exact apart right rightOld rightCIDR rightCanonical
      · rw [List.mem_singleton.mp leftNew,
          List.mem_singleton.mp rightNew] at different
        exact absurd rfl different

theorem isolated_of_edit {permits : Permits} {origin : NetworkDatabase}
    (createsSeparate : ∀ database record, permits.creates database record →
      database.Separate record)
    (isolated : before.Isolated) (edit : Edit permits origin before after) :
    after.Isolated := by
  have sameRows : after.networkTable.rows = before.networkTable.rows →
      after.Isolated := by
    intro same
    apply isolated.of_kept
    intro network member
    exact ⟨network, same ▸ member, rfl, rfl⟩
  cases edit with
  | insertNetwork created done =>
      exact isolated.of_insert (createsSeparate _ _ created)
        (insertNetwork_writes done).1
  | updateRuntime done =>
      apply isolated.of_kept
      intro network member
      rw [(updateNetworkRuntime_writes done).1] at member
      obtain ⟨old, oldMember, rfl⟩ := List.mem_map.mp member
      refine ⟨old, oldMember, ?_⟩
      split
      · exact ⟨rfl, rfl⟩
      · exact ⟨rfl, rfl⟩
  | deleteNetwork _ done =>
      apply isolated.of_kept
      intro network member
      rw [(deleteNetwork_writes done).2.1] at member
      exact ⟨network, List.mem_of_mem_filter member, rfl, rfl⟩
  | insertAttachment _ _ done =>
      exact sameRows (congrArg Table.rows (insertAttachment_writes done).1)
  | updateAttachment _ _ done =>
      exact sameRows (congrArg Table.rows (updateAttachment_writes done).1)
  | rewriteAttachment _ _ _ _ done =>
      exact sameRows (congrArg Table.rows (updateAttachment_writes done).1)
  | removeAttachments => exact sameRows rfl
  | setDefault => exact sameRows rfl

end Edits

end NetworkDatabase

namespace IPv4CIDR

variable {left right : IPv4CIDR}

/-- The host, service and router addresses of a network. -/
def ownAddresses (cidr : String) : List String :=
  [gateway cidr, hostService cidr, router cidr]

theorem mem_ownAddresses (cidr : IPv4CIDR) {text : String}
    (member : text ∈ ownAddresses cidr.canonical) :
    cidr.contains text = true := by
  have atLeast := cidr.four_le_size
  have atOffset : ∀ offset < 4,
      cidr.contains (inetNtop (cidr.addressAt offset)) = true := by
    intro offset small
    exact (cidr.contains_iff _).mpr
      ⟨_, inetPton_inetNtop _, cidr.addressAt_mem_block (by omega)⟩
  have shifted : ∀ offset : UInt32, offset.toNat < 4 →
      cidr.network + offset = cidr.addressAt offset.toNat := by
    intro offset small
    rw [← UInt32.toNat_inj, UInt32.toNat_add,
      cidr.toNat_addressAt (by omega)]
    have bound := cidr.network_add_size_le
    exact Nat.mod_eq_of_lt (by omega)
  have start : cidr.network = cidr.addressAt 0 := by
    rw [addressAt, Nat.add_zero, UInt32.ofNat_toNat]
  simp only [ownAddresses, gateway, hostService, router, parse_canonical,
    List.mem_cons, List.not_mem_nil, or_false] at member
  rcases member with rfl | rfl | rfl
  · rw [start]
    exact atOffset 0 (by omega)
  · rw [shifted 1 (by decide)]
    exact atOffset 1 (by omega)
  · rw [shifted 2 (by decide)]
    exact atOffset 2 (by omega)

theorem not_contains_both (apart : ¬ left.block.Overlaps right.block)
    (text : String) :
    ¬ (left.contains text = true ∧ right.contains text = true) := by
  rintro ⟨inLeft, inRight⟩
  obtain ⟨address, parsed, leftMember⟩ := (left.contains_iff text).mp inLeft
  obtain ⟨other, otherParsed, rightMember⟩ :=
    (right.contains_iff text).mp inRight
  rw [parsed] at otherParsed
  rw [← Option.some.inj otherParsed] at rightMember
  exact apart
    (AlignedBlock.overlaps_iff_exists_mem.mpr ⟨_, leftMember, rightMember⟩)

end IPv4CIDR

/-- No network that a call asks for, and that passes the checks of
`createLocked`, overlaps a recorded one. -/
def CreatesSeparate (foundation : Foundation) (registry : NetworkRegistry)
    (label : RegistryEnv × RegistryCall) : Prop :=
  ∀ request ∈ newNetworks registry label.2, ∀ cidr,
    checkCreate foundation request = .ok cidr →
    checkNew (newRecord label.1 request cidr)
      registry.database.networks = .ok () →
    ∀ network ∈ registry.database.networks, ∀ other,
      IPv4CIDR.parse network.cidr = .ok other → cidr.overlaps other = false

/-- A statement about the value of a computation that succeeds. -/
def onSuccess {ε α : Type} (outcome : Except ε α) (holds : α → Bool) : Bool :=
  match outcome with
  | .ok value => holds value
  | .error _ => true

theorem onSuccess_iff {ε α : Type} {outcome : Except ε α}
    {holds : α → Bool} :
    onSuccess outcome holds = true ↔
      ∀ value, outcome = .ok value → holds value = true := by
  cases outcome with
  | ok value => simp [onSuccess]
  | error failure => simp [onSuccess]

instance (foundation : Foundation) (registry : NetworkRegistry)
    (label : RegistryEnv × RegistryCall) :
    Decidable (CreatesSeparate foundation registry label) :=
  decidable_of_iff
    (∀ request ∈ newNetworks registry label.2,
      onSuccess (checkCreate foundation request) (fun cidr =>
        !decide (checkNew (newRecord label.1 request cidr)
          registry.database.networks = .ok ()) ||
        registry.database.networks.all fun network =>
          onSuccess (IPv4CIDR.parse network.cidr) fun other =>
            !cidr.overlaps other) = true)
    (by
      simp only [CreatesSeparate, onSuccess_iff, Bool.or_eq_true,
        Bool.not_eq_true', decide_eq_false_iff_not, List.all_eq_true,
        ← imp_iff_not_or])

theorem isolated_of_perform {foundation : Foundation}
    {registry : NetworkRegistry} {label : RegistryEnv × RegistryCall}
    (isolated : registry.database.Isolated)
    (separate : CreatesSeparate foundation registry label) :
    (RegistryCall.perform foundation registry label).database.Isolated := by
  obtain ⟨env, call⟩ := label
  have edits : Edits ⟨Separate, True⟩ registry.database
      (RegistryCall.perform foundation registry (env, call)).database := by
    apply perform_edited trivial
    rintro request requested _ ⟨cidr, requestChecked, rfl, newChecked⟩
    refine ⟨cidr, rfl, ?_⟩
    intro network member other isCanonical meets
    have apart := separate request requested cidr requestChecked newChecked
      network (mem_networks.mpr member) other (by
        rw [isCanonical, IPv4CIDR.parse_canonical])
    rw [(IPv4CIDR.overlaps_iff cidr other).mpr meets] at apart
    cases apart
  have preserved : ∀ {reached : NetworkDatabase},
      Edits ⟨Separate, True⟩ registry.database reached →
        reached.Isolated := by
    intro reached chain
    induction chain with
    | refl => exact isolated
    | tail _ edit ih =>
        exact isolated_of_edit (fun _ _ created => created)
          ih edit
  exact preserved edits

/-- In every run whose calls create separate networks only, the ranges of any
two networks are disjoint, active or not: no address lies in both, and the
host, service and router addresses of one are none of the other's. -/
theorem address_plan_of_runs (foundation : Foundation)
    {registry : NetworkRegistry}
    (run : Transitions.Runs
      (Transitions.guarded (CreatesSeparate foundation)
        (registryStep foundation)) NetworkRegistry.fresh registry) :
    ∀ left ∈ registry.database.networks,
      ∀ right ∈ registry.database.networks, left ≠ right →
        ∃ leftCIDR rightCIDR : IPv4CIDR,
          IPv4CIDR.parse left.cidr = .ok leftCIDR ∧
          IPv4CIDR.parse right.cidr = .ok rightCIDR ∧
          leftCIDR.overlaps rightCIDR = false ∧
          (∀ text, ¬ (leftCIDR.contains text = true ∧
            rightCIDR.contains text = true)) ∧
          (IPv4CIDR.ownAddresses left.cidr).Disjoint
            (IPv4CIDR.ownAddresses right.cidr) := by
  have isolated : registry.database.Isolated := by
    apply Transitions.invariant_of_runs
      (fun state => state.database.Isolated) _ isolated_fresh run
    rintro source label _ sourceIsolated ⟨separate, rfl⟩
    exact isolated_of_perform sourceIsolated separate
  intro left leftMember right rightMember different
  rw [mem_networks] at leftMember rightMember
  obtain ⟨leftCIDR, leftCanonical⟩ := isolated.canonical left leftMember
  obtain ⟨rightCIDR, rightCanonical⟩ := isolated.canonical right rightMember
  have differentID : left.id ≠ right.id := by
    intro sameID
    exact different <| UniqueKey.eq_of_key_eq
      registry.database.networkTable.valid.1 leftMember rightMember sameID
  have apart := isolated.disjoint left leftMember right rightMember
    differentID leftCIDR rightCIDR leftCanonical rightCanonical
  have shareNone := IPv4CIDR.not_contains_both apart
  refine ⟨leftCIDR, rightCIDR, ?_, ?_, ?_, shareNone, ?_⟩
  · rw [leftCanonical, IPv4CIDR.parse_canonical]
  · rw [rightCanonical, IPv4CIDR.parse_canonical]
  · rw [← Bool.not_eq_true, IPv4CIDR.overlaps_iff]
    exact apart
  · intro text inLeft inRight
    rw [leftCanonical] at inLeft
    rw [rightCanonical] at inRight
    exact shareNone text ⟨leftCIDR.mem_ownAddresses inLeft,
      rightCIDR.mem_ownAddresses inRight⟩

/-! ## Separate and nested networks -/

/-- Two networks side by side. -/
def separateCalls : List (RegistryEnv × RegistryCall) :=
  [({}, .create { name := "lab", cidr := "10.80.0.0/24" }),
    ({}, .create { name := "ops", cidr := "10.81.0.0/24" })]

def separateRegistry : NetworkRegistry :=
  separateCalls.foldl (RegistryCall.perform .ascii) .fresh

theorem separateRegistry_reachable :
    Transitions.Runs
      (Transitions.guarded (CreatesSeparate .ascii) (registryStep .ascii))
      .fresh separateRegistry := by
  have along : Transitions.Along (CreatesSeparate .ascii)
      (RegistryCall.perform .ascii) NetworkRegistry.fresh separateCalls :=
    ⟨by decide, by decide, trivial⟩
  exact Transitions.Runs.guarded_foldl along

theorem address_plan_of_separate :
    separateRegistry.database.networks.map (·.cidr) =
      ["10.80.0.0/24", "10.81.0.0/24"] ∧
    ∀ left ∈ separateRegistry.database.networks,
      ∀ right ∈ separateRegistry.database.networks, left ≠ right →
        ∃ leftCIDR rightCIDR : IPv4CIDR,
          IPv4CIDR.parse left.cidr = .ok leftCIDR ∧
          IPv4CIDR.parse right.cidr = .ok rightCIDR ∧
          leftCIDR.overlaps rightCIDR = false ∧
          (∀ text, ¬ (leftCIDR.contains text = true ∧
            rightCIDR.contains text = true)) ∧
          (IPv4CIDR.ownAddresses left.cidr).Disjoint
            (IPv4CIDR.ownAddresses right.cidr) :=
  ⟨by rfl,
    address_plan_of_runs .ascii separateRegistry_reachable⟩

/-- A docker network at the base of a wider vmnet network. -/
def nestedCalls : List (RegistryEnv × RegistryCall) :=
  [({}, .create { name := "wide", cidr := "10.80.0.0/16" }),
    ({}, .create {
      name := "narrow"
      cidr := "10.80.0.0/24"
      natEgress := false
      backend := "docker" })]

def nestedRegistry : NetworkRegistry :=
  nestedCalls.foldl (RegistryCall.perform .ascii) .fresh

theorem nestedRegistry_reachable :
    Transitions.Runs (registryStep .ascii) .fresh nestedRegistry :=
  Transitions.Runs.ofFunction_foldl (RegistryCall.perform .ascii)
    nestedCalls NetworkRegistry.fresh

/-- Both networks are active; they overlap and share their gateway, service
and router addresses. -/
theorem nested_networks_share_addresses :
    Transitions.Runs (registryStep .ascii) .fresh nestedRegistry ∧
    nestedRegistry.database.networks.map
        (fun network => (network.id, network.runtimeState)) =
      [("narrow", "active"), ("wide", "active")] ∧
    (nestedRegistry.database.networks.map fun network =>
      (IPv4CIDR.parse network.cidr).toOption.map fun cidr =>
        (cidr.prefixLength, cidr.contains "10.80.0.10",
          IPv4CIDR.ownAddresses network.cidr)) =
      [some (24, true, ["10.80.0.0", "10.80.0.1", "10.80.0.2"]),
        some (16, true, ["10.80.0.0", "10.80.0.1", "10.80.0.2"])] ∧
    ∃ narrow wide : IPv4CIDR,
      IPv4CIDR.parse "10.80.0.0/24" = .ok narrow ∧
      IPv4CIDR.parse "10.80.0.0/16" = .ok wide ∧
      narrow.overlaps wide = true :=
  ⟨nestedRegistry_reachable, by rfl, by rfl,
    _, _, rfl, rfl, by rfl⟩

end Vzctl
