import Vzctl.Network.AttachmentTable

/-!
# Allocating guest addresses

`ensureVMNetwork` for a VM without attachments: it settles on a network and
takes the lowest free guest address, and once it has a network it fails only
when every guest address is in use.
-/

namespace Vzctl

namespace NetworkRegistry

open NetworkDatabase Procedure

/-- Networks have canonical ranges, and attachments stay. -/
def selectionPermits : Permits where
  creates _ record := ∃ cidr : IPv4CIDR, record.cidr = cidr.canonical
  attaches := False

theorem creatable_canonical {foundation : Foundation} {env : RegistryEnv}
    {request : CreateRequest} {database : NetworkDatabase}
    {record : NetworkRecord}
    (creatable : Creatable foundation env request database record) :
    ∃ cidr : IPv4CIDR, record.cidr = cidr.canonical := by
  obtain ⟨cidr, _, rfl, _⟩ := creatable
  exact ⟨cidr, rfl⟩

section Allocation

variable {foundation : Foundation} {env : RegistryEnv}
  {registry : NetworkRegistry} {vmID : String}

theorem allocateAddress_ends {network : NetworkRecord}
    (sound : registry.database.Sound)
    (recorded : network ∈ registry.database.networkTable.rows) :
    Ends (allocateAddress env network)
      (fun ip reached => reached = registry ∧ ∃ cidr : IPv4CIDR, ∃ offset,
        IPv4CIDR.parse network.cidr = .ok cidr ∧
          cidr.IsLowestFree (registry.database.usedAddresses network.id)
            offset ∧
          ip = inetNtop (cidr.addressAt offset))
      (fun _ _ => (∃ call, env.faults call = true) ∨
        ∃ cidr : IPv4CIDR, IPv4CIDR.parse network.cidr = .ok cidr ∧
          cidr.Full (registry.database.usedAddresses network.id))
      registry := by
  obtain ⟨cidr, isCanonical⟩ := sound.canonical network recorded
  have parsed : IPv4CIDR.parse network.cidr = .ok cidr := by
    rw [isCanonical, IPv4CIDR.parse_canonical]
  have sameUsed :=
    mem_usedAddresses_iff registry.database network.id
  apply Ends.of_bind
  apply Ends.of_reading
  · intro all found
    split at found
    · cases found
    · cases found
      apply Ends.of_bind
      apply Ends.of_reading
      · intro other otherParsed
        have same : other = cidr := by
          rw [parsed] at otherParsed
          exact (Except.ok.inj otherParsed).symm
        rw [same]
        have outcomes := cidr.freeGuestAddress_cases
          ((registry.database.attachments.filter
            (·.networkID = network.id)).map (·.ip))
        apply Ends.of_bind
        apply Ends.of_reading
        · intro found walked
          rcases outcomes with ⟨offset, lowest, isLowest⟩ |
            ⟨full, isNone | ⟨trap, isTrap⟩⟩
          · rw [isLowest] at walked
            cases walked
            exact Ends.of_pure
              ⟨rfl, cidr, offset, parsed, lowest.of_same sameUsed, rfl⟩
          · rw [isNone] at walked
            cases walked
            exact Ends.of_fail (.inr ⟨cidr, parsed, full.of_same sameUsed⟩)
          · rw [isTrap] at walked
            cases walked
        · intro failure failed
          rcases outcomes with ⟨offset, lowest, isLowest⟩ | ⟨full, _⟩
          · rw [isLowest] at failed
            cases failed
          · exact .inr ⟨cidr, parsed, full.of_same sameUsed⟩
      · intro failure failed
        rw [parsed] at failed
        cases failed
  · intro failure failed
    split at failed
    · rename_i faulty
      exact .inl ⟨_, faulty⟩
    · cases failed

theorem writeAllocation_ends {record : NetworkAttachmentRecord}
    {network : NetworkRecord}
    (recorded : network ∈ registry.database.networkTable.rows)
    (sameNetwork : network.id = record.networkID)
    (unattached : ∀ row ∈ registry.database.attachmentTable.rows,
      row.vmID ≠ record.vmID)
    (free : cString record.ip ∉
      registry.database.usedAddresses record.networkID) :
    Ends (writeAllocation env record [])
      (fun _ reached => record.row ∈ reached.database.attachmentTable.rows)
      (fun _ _ => ∃ call, env.faults call = true) registry := by
  apply Ends.of_bind
  apply ends_statement.mono
  · rintro _ _ ⟨_, after, done, rfl⟩
    change record.row ∈ after.attachmentTable.rows
    rw [(insertAttachment_writes done).2]
    exact List.mem_append_right _ (List.mem_singleton_self _)
  · rintro _ _ ⟨_, faulty | refused⟩
    · exact ⟨_, faulty⟩
    · have accepted := insertAttachment_ne_none
        ⟨network, recorded, sameNetwork⟩
        (fun row member _ => unattached row member)
        (fun row member same equal => free <| by
          rw [← equal, usedAddresses]
          exact List.mem_map_of_mem <| List.mem_filter.mpr
            ⟨member, decide_eq_true same⟩)
      exact absurd refused accepted

/-- Why `ensureVMNetwork` refuses a VM without attachments before it looks for
an address. -/
def Unselected (foundation : Foundation) (env : RegistryEnv)
    (vmID : String) (requestedNetwork : Option String) (vmIsStopped : Bool)
    (registry : NetworkRegistry) : Prop :=
  registry.stopped = true ∨ validName foundation vmID = false ∨
    vmIsStopped = false ∨ (∃ call, env.faults call = true) ∨
    ∃ failure reached,
      selectNetwork foundation env vmID requestedNetwork [] registry =
        (.error failure, reached)

/-- The selected network has no free guest address. -/
def SelectedFull (foundation : Foundation) (env : RegistryEnv)
    (vmID : String) (requestedNetwork : Option String)
    (registry : NetworkRegistry) : Prop :=
  ∃ network automatic reached, ∃ cidr : IPv4CIDR,
    selectNetwork foundation env vmID requestedNetwork [] registry =
      (.ok (.network network automatic), reached) ∧
    IPv4CIDR.parse network.cidr = .ok cidr ∧
    cidr.Full (registry.database.usedAddresses network.id)

/-- What a successful allocation returns and records. -/
structure Allocated (registry reached : NetworkRegistry) (vmID : String)
    (selection : VMNetworkSelection) (cidr : IPv4CIDR) (offset : Nat) :
    Prop where
  vm : selection.attachment.vmID = vmID
  network : selection.attachment.networkID = selection.network.id
  parsed : IPv4CIDR.parse selection.network.cidr = .ok cidr
  lowest : cidr.IsLowestFree
    (registry.database.usedAddresses selection.network.id) offset
  address : selection.attachment.ip = inetNtop (cidr.addressAt offset)
  recorded : selection.attachment.row ∈
    reached.database.attachmentTable.rows

theorem allocateAttachment_ends {network : NetworkRecord}
    {automatic : Bool} (sound : registry.database.Sound)
    (recorded : network ∈ registry.database.networkTable.rows)
    (unattached : ∀ row ∈ registry.database.attachmentTable.rows,
      row.vmID ≠ vmID) :
    Ends (allocateAttachment env vmID network automatic [])
      (fun selection reached => selection.network = network ∧
        ∃ cidr offset, Allocated registry reached vmID selection cidr offset)
      (fun _ _ => (∃ call, env.faults call = true) ∨
        ∃ cidr : IPv4CIDR, IPv4CIDR.parse network.cidr = .ok cidr ∧
          cidr.Full (registry.database.usedAddresses network.id))
      registry := by
  apply Ends.of_bind
  apply (allocateAddress_ends sound recorded).mono
  · rintro ip registry ⟨rfl, cidr, offset, parsed, lowest, rfl⟩
    apply Ends.of_bind
    apply Ends.of_orElse
    apply (writeAllocation_ends recorded rfl unattached _).mono
    · intro _ reached written
      exact Ends.of_pure
        ⟨rfl, cidr, offset, rfl, rfl, parsed, lowest, rfl, written⟩
    · intro _ _ faulty
      exact Ends.of_fail (.inl faulty)
    · change cString (inetNtop (cidr.addressAt offset)) ∉ _
      rw [cString_inetNtop]
      exact lowest.free
  · intro _ _ failed
    exact failed

/-- A VM without attachments ends up with a recorded network, and selecting it
leaves the attachments. -/
theorem selectNetwork_unattached {requestedNetwork : Option String}
    (sound : registry.database.Sound)
    (noneCurrent :
      registry.database.attachments.filter (·.vmID = vmID) = []) :
    Ends (selectNetwork foundation env vmID requestedNetwork [])
      (fun selected reached => ∃ network automatic,
        selected = .network network automatic ∧
        reached.database.Sound ∧
        network ∈ reached.database.networkTable.rows ∧
        reached.database.attachmentTable = registry.database.attachmentTable)
      (fun _ _ => True) registry := by
  have noneExplicit : explicitAttachments registry.database vmID = [] := by
    rw [explicitAttachments, noneCurrent]
    rfl
  have unchanged : EditedFrom selectionPermits registry registry :=
    Relation.ReflTransGen.refl
  have ends : Ends
      (selectNetwork foundation env vmID requestedNetwork
        (registry.database.attachments.filter (·.vmID = vmID)))
      (SelectedFrom selectionPermits registry registry
        (explicitAttachments registry.database vmID))
      (fun _ => EditedFrom selectionPermits registry) registry :=
    selectNetwork_ends unchanged fun _ _ _ _ creatable =>
      creatable_canonical creatable
  rw [noneCurrent, noneExplicit] at ends
  apply ends.mono
  · rintro selected reached ⟨edited, selectedCase⟩
    cases selected with
    | attached selection => exact absurd rfl selectedCase
    | network network automatic =>
        exact ⟨network, automatic, rfl,
          sound_of_edits (fun _ _ created => created) sound edited,
          mem_networks.mp selectedCase.1,
          attachmentTable_of_edits (fun attaches => attaches) edited⟩
  · intro _ _ _
    trivial

theorem ensureVMNetwork_ends {requestedNetwork : Option String}
    {vmIsStopped : Bool} (sound : registry.database.Sound)
    (unattached : ∀ row ∈ registry.database.attachmentTable.rows,
      row.vmID ≠ vmID) :
    Ends (ensureVMNetwork foundation env vmID requestedNetwork vmIsStopped)
      (fun selection reached =>
        ∃ cidr offset, Allocated registry reached vmID selection cidr offset)
      (fun _ _ =>
        Unselected foundation env vmID requestedNetwork vmIsStopped registry ∨
        SelectedFull foundation env vmID requestedNetwork registry)
      registry := by
  have noneCurrent : registry.database.attachments.filter
      (·.vmID = vmID) = [] := by
    rw [List.filter_eq_nil_iff]
    intro attachment member isCurrent
    obtain ⟨row, rowMember, _, _, _, rfl⟩ := mem_attachments.mp member
    exact unattached row rowMember (of_decide_eq_true isCurrent)
  apply Ends.of_bind
  apply Ends.of_reading
  · intro _ _
    apply Ends.of_bind
    apply Ends.of_reading
    · intro _ _
      apply Ends.of_bind
      apply Ends.of_require
      · intro _
        apply Ends.of_bind
        apply Ends.of_reading
        · intro all found
          split at found
          · cases found
          · cases found
            rw [noneCurrent]
            apply Ends.of_bind
            apply Ends.of_run
            · intro selected reached performed
              obtain ⟨network, automatic, rfl, reachedSound, recorded,
                sameAttachments⟩ := (selectNetwork_unattached sound
                  noneCurrent).of_returned performed
              have sameUsed : reached.database.usedAddresses network.id =
                  registry.database.usedAddresses network.id := by
                rw [usedAddresses, sameAttachments, ← usedAddresses]
              have stillUnattached : ∀ row ∈
                  reached.database.attachmentTable.rows,
                  row.vmID ≠ vmID := by
                rw [sameAttachments]
                exact unattached
              apply (allocateAttachment_ends reachedSound recorded
                stillUnattached).mono
              · rintro selection allocated ⟨sameNetwork, cidr, offset, facts⟩
                refine ⟨cidr, offset, facts.vm, facts.network, facts.parsed,
                  ?_, facts.address, facts.recorded⟩
                have lowest := facts.lowest
                rw [sameNetwork, sameUsed] at lowest
                rw [sameNetwork]
                exact lowest
              · rintro _ _ (faulty | ⟨cidr, parsed, full⟩)
                · exact .inl (.inr (.inr (.inr (.inl faulty))))
                · rw [sameUsed] at full
                  exact .inr ⟨network, automatic, reached, cidr, performed,
                    parsed, full⟩
            · intro failure reached performed
              exact .inl (.inr (.inr (.inr (.inr ⟨failure, reached,
                performed⟩))))
        · intro failure failed
          split at failed
          · rename_i faulty
            exact .inl (.inr (.inr (.inr (.inl ⟨_, faulty⟩))))
          · cases failed
      · intro running
        exact .inl (.inr (.inr (.inl (by simpa using running))))
    · intro failure failed
      unfold validateName at failed
      split at failed
      · cases failed
      · rename_i invalid
        exact .inl (.inr (.inl (by simpa using invalid)))
  · intro failure failed
    split at failed
    · rename_i isStopped
      exact .inl (.inl isStopped)
    · cases failed

end Allocation

/-! ## Every state of the registry -/

/-- A call may create canonical networks and touch attachments. -/
def callPermits : Permits where
  creates _ record := ∃ cidr : IPv4CIDR, record.cidr = cidr.canonical
  attaches := True

theorem perform_callPermits (foundation : Foundation)
    (registry : NetworkRegistry) (env : RegistryEnv) (call : RegistryCall) :
    Edits callPermits registry.database
      (RegistryCall.perform foundation registry (env, call)).database :=
  perform_edited trivial fun _ _ _ creatable => creatable_canonical creatable

theorem sound_of_runs {foundation : Foundation}
    {registry : NetworkRegistry}
    (run : Transitions.Runs (registryStep foundation) fresh registry) :
    registry.database.Sound := by
  apply Transitions.invariant_of_runs (fun state => state.database.Sound)
    _ sound_fresh run
  rintro source ⟨env, call⟩ _ sound rfl
  exact sound_of_edits (fun _ _ created => created) sound
    (perform_callPermits foundation source env call)

end NetworkRegistry

open NetworkRegistry NetworkDatabase in
/-- In every state of the registry: no two attachments of a network share an
address; every attachment has a network and an address at the router offset or
a guest offset of it; a call deletes a network only when it has no attachment;
and for a VM without attachments `ensureVMNetwork` takes the lowest free guest
address, or fails before it has a network, or finds the network full. -/
theorem attachment_table_of_runs (foundation : Foundation)
    {registry : NetworkRegistry}
    (run : Transitions.Runs (registryStep foundation) fresh registry) :
    (∀ left ∈ registry.database.attachmentTable.rows,
      ∀ right ∈ registry.database.attachmentTable.rows,
        left.networkID = right.networkID →
        inetPton left.ip = inetPton right.ip → left = right) ∧
    (∀ row ∈ registry.database.attachmentTable.rows,
      ∃ network ∈ registry.database.networkTable.rows,
        ∃ cidr : IPv4CIDR, ∃ offset,
          network.id = row.networkID ∧
          IPv4CIDR.parse network.cidr = .ok cidr ∧
          (offset = 2 ∨ 10 ≤ offset ∧
            cidr.network.toNat + offset < cidr.broadcast.toNat) ∧
          inetPton row.ip = some (cidr.addressAt offset) ∧
          cidr.contains row.ip = true) ∧
    (∀ env call, ∀ network ∈ registry.database.networkTable.rows,
      (∀ other ∈ (RegistryCall.perform foundation registry
          (env, call)).database.networkTable.rows,
        other.id ≠ network.id) →
      ∀ row ∈ registry.database.attachmentTable.rows,
        row.networkID ≠ network.id) ∧
    ∀ env vmID requestedNetwork vmIsStopped,
      (∀ row ∈ registry.database.attachmentTable.rows, row.vmID ≠ vmID) →
      (∀ selection reached,
        ensureVMNetwork foundation env vmID requestedNetwork vmIsStopped
          registry = (.ok selection, reached) →
        ∃ cidr offset,
          Allocated registry reached vmID selection cidr offset) ∧
      ∀ failure reached,
        ensureVMNetwork foundation env vmID requestedNetwork vmIsStopped
          registry = (.error failure, reached) →
        Unselected foundation env vmID requestedNetwork vmIsStopped
          registry ∨
        SelectedFull foundation env vmID requestedNetwork registry := by
  have sound := sound_of_runs run
  refine ⟨?_, ?_, ?_, ?_⟩
  · intro left leftMember right rightMember sameNetwork sameAddress
    have canonical : ∀ row ∈ registry.database.attachmentTable.rows,
        ∃ address, row.ip = inetNtop address := by
      intro row member
      obtain ⟨_, _, cidr, offset, _, _, _, address⟩ :=
        sound.located row member
      exact ⟨_, address⟩
    obtain ⟨leftAddress, leftText⟩ := canonical left leftMember
    obtain ⟨rightAddress, rightText⟩ := canonical right rightMember
    rw [leftText, rightText, inetPton_inetNtop, inetPton_inetNtop]
      at sameAddress
    have sameText : left.ip = right.ip := by
      rw [leftText, rightText, Option.some.inj sameAddress]
    exact UniqueKey.eq_of_key_eq registry.database.attachmentTable.valid.2
      leftMember rightMember (Prod.ext sameNetwork sameText)
  · intro row member
    obtain ⟨network, networkMember, cidr, offset, same, isCanonical,
      isAttachment, address⟩ := sound.located row member
    have inside := isAttachment.lt_size
    have read : inetPton row.ip = some (cidr.addressAt offset) := by
      rw [address, inetPton_inetNtop]
    refine ⟨network, networkMember, cidr, offset, same, ?_, ?_, read, ?_⟩
    · rw [isCanonical, IPv4CIDR.parse_canonical]
    · rw [IPv4CIDR.toNat_broadcast]
      rcases isAttachment with isRouter | guest
      · exact .inl isRouter
      · right
        omega
    · exact (cidr.contains_iff row.ip).mpr
        ⟨_, read, cidr.addressAt_mem_block inside⟩
  · intro env call network member deleted
    exact unattached_of_edits
      (perform_callPermits foundation registry env call)
      ⟨network, member, rfl⟩ deleted
  · intro env vmID requestedNetwork vmIsStopped unattached
    constructor
    · intro selection reached performed
      exact (ensureVMNetwork_ends sound unattached).of_returned performed
    · intro failure reached performed
      exact (ensureVMNetwork_ends sound unattached).of_failed performed

/-- A network of a project, and a VM of the project on it. -/
def shopCalls : List (RegistryEnv × RegistryCall) :=
  [({}, .create {
      name := "lab"
      cidr := "10.80.0.0/24"
      project := some "shop" }),
    ({}, .ensureVMNetwork "shop/web" (some "lab") true)]

def shopRegistry : NetworkRegistry :=
  shopCalls.foldl (RegistryCall.perform .ascii) .fresh

theorem shopRegistry_reachable :
    Transitions.Runs (registryStep .ascii) .fresh shopRegistry :=
  Transitions.Runs.ofFunction_foldl (RegistryCall.perform .ascii) shopCalls
    NetworkRegistry.fresh

theorem attachment_table_of_shop :
    shopRegistry.database.usedAddresses "shop/lab" = ["10.80.0.10"] ∧
    (NetworkRegistry.ensureVMNetwork .ascii {} "shop/db" (some "lab") true
        shopRegistry).1.toOption.map (·.attachment.ip) = some "10.80.0.11" ∧
    ∀ left ∈ shopRegistry.database.attachmentTable.rows,
      ∀ right ∈ shopRegistry.database.attachmentTable.rows,
        left.networkID = right.networkID →
        inetPton left.ip = inetPton right.ip → left = right :=
  ⟨by decide +kernel, by decide +kernel,
    (attachment_table_of_runs .ascii shopRegistry_reachable).1⟩

/-- The shop before its VM is attached. -/
def emptyShop : NetworkRegistry :=
  (shopCalls.take 1).foldl (RegistryCall.perform .ascii) .fresh

theorem emptyShop_reachable :
    Transitions.Runs (registryStep .ascii) .fresh emptyShop :=
  Transitions.Runs.ofFunction_foldl (RegistryCall.perform .ascii)
    (shopCalls.take 1) NetworkRegistry.fresh

/-- A running VM is refused, and so is a VM for which no default network can be
told, while every guest address of the only network is free. -/
theorem ensureVMNetwork_refuses_with_free_addresses :
    Transitions.Runs (registryStep .ascii) .fresh emptyShop ∧
    emptyShop.database.networks.map (·.id) = ["shop/lab"] ∧
    emptyShop.database.attachmentTable.rows = [] ∧
    (NetworkRegistry.ensureVMNetwork .ascii {} "shop/web" (some "lab") false
      emptyShop).1 = .error (.conflict
        "VM shop/web must be stopped before changing network attachments") ∧
    (NetworkRegistry.ensureVMNetwork .ascii {} "vm1" none true
      emptyShop).1 = .error (.notFound ("default network is not configured; "
        ++ "run vzctl net default set <name> --cidr <CIDR>")) :=
  ⟨emptyShop_reachable, by rfl, by rfl,
    by rfl, by decide⟩

end Vzctl
