import Vzctl.Network.RuntimeReservations

/-!
# Stable identities

A project network is identified by `project/name`; a global network, and one
from before identities were qualified, by its name alone.  The resolver matches
identities and logical names alike.
-/

namespace Vzctl

open NetworkDatabase NetworkRegistry Procedure

/-- The identity is the name, or the name qualified by the project. -/
def NetworkRecord.WellNamed (foundation : Foundation)
    (record : NetworkRecord) : Prop :=
  record.id = record.name ∨
    ∃ project, record.project = some project ∧
      record.id = project ++ "/" ++ record.name ∧
      foundation.containsSlash record.name = false

namespace NetworkDatabase

/-- Every recorded network is well named. -/
def WellNamed (foundation : Foundation) (database : NetworkDatabase) : Prop :=
  ∀ network ∈ database.networkTable.rows, network.WellNamed foundation

/-- No other network has the identity as its logical name. -/
def Addressable (database : NetworkDatabase) (network : NetworkRecord) :
    Prop :=
  ∀ other ∈ database.networks, other.name = network.id → other = network

section Edits

variable {foundation : Foundation} {before after : NetworkDatabase}

theorem wellNamed_of_edit {permits : Permits} {origin : NetworkDatabase}
    (createsWellNamed : ∀ database record,
      permits.creates database record → record.WellNamed foundation)
    (wellNamed : before.WellNamed foundation)
    (edit : Edit permits origin before after) :
    after.WellNamed foundation := by
  have sameRows : after.networkTable.rows = before.networkTable.rows →
      after.WellNamed foundation := by
    intro same network member
    rw [same] at member
    exact wellNamed network member
  cases edit with
  | insertNetwork created done =>
      intro network member
      rw [(insertNetwork_writes done).1] at member
      rcases List.mem_append.mp member with old | new
      · exact wellNamed network old
      · rw [List.mem_singleton.mp new]
        exact createsWellNamed _ _ created
  | updateRuntime done =>
      intro network member
      rw [(updateNetworkRuntime_writes done).1] at member
      obtain ⟨old, oldMember, rfl⟩ := List.mem_map.mp member
      have named := wellNamed old oldMember
      split
      · exact named
      · exact named
  | deleteNetwork _ done =>
      intro network member
      rw [(deleteNetwork_writes done).2.1] at member
      exact wellNamed network (List.mem_of_mem_filter member)
  | insertAttachment _ _ done =>
      exact sameRows (congrArg Table.rows (insertAttachment_writes done).1)
  | updateAttachment _ _ done =>
      exact sameRows (congrArg Table.rows (updateAttachment_writes done).1)
  | rewriteAttachment _ _ _ _ done =>
      exact sameRows (congrArg Table.rows (updateAttachment_writes done).1)
  | removeAttachments => exact sameRows rfl
  | setDefault => exact sameRows rfl

end Edits

variable {foundation : Foundation} {database : NetworkDatabase}
  {network other : NetworkRecord}

theorem nodup_networks : database.networks.Nodup := by
  have rows : database.networkTable.rows.Nodup :=
    List.Nodup.of_map NetworkRecord.id database.networkTable.valid.1
  exact (List.perm_insertionSort _ _).nodup_iff.mpr rows

theorem eq_of_same_id (member : network ∈ database.networks)
    (otherMember : other ∈ database.networks)
    (sameID : other.id = network.id) : other = network :=
  UniqueKey.eq_of_key_eq database.networkTable.valid.1
    (mem_networks.mp otherMember) (mem_networks.mp member) sameID

theorem unqualified_of_borrowed (wellNamed : database.WellNamed foundation)
    (slash : foundation.containsSlash network.id = true)
    (member : network ∈ database.networks)
    (otherMember : other ∈ database.networks)
    (borrowed : other.name = network.id) (different : other ≠ network) :
    network.id = network.name := by
  rcases wellNamed network (mem_networks.mp member) with
    unqualified | _
  · exact unqualified
  · rcases wellNamed other (mem_networks.mp otherMember) with
      otherUnqualified | ⟨_, _, _, short⟩
    · have sameID := otherUnqualified.trans borrowed
      exact absurd (eq_of_same_id member otherMember sameID) different
    · rw [borrowed, slash] at short
      cases short

theorem addressable_of_qualified (wellNamed : database.WellNamed foundation)
    (slash : foundation.containsSlash network.id = true)
    (member : network ∈ database.networks)
    (qualified : network.id ≠ network.name) :
    database.Addressable network := by
  intro other otherMember borrowed
  by_contra different
  exact qualified
    (unqualified_of_borrowed wellNamed slash member otherMember borrowed
      different)

end NetworkDatabase

namespace NetworkRegistry

/-! ## Resolving an identity -/

section Resolving

variable {database : NetworkDatabase} {network : NetworkRecord}

theorem mem_candidatesFor_id {other : NetworkRecord}
    {all : List NetworkRecord} :
    other ∈ candidatesFor network.id none false all ↔
      other ∈ all ∧ (other.id = network.id ∨ other.name = network.id) := by
  simp [candidatesFor]

theorem eq_of_resolved_id {found : NetworkRecord}
    (member : network ∈ database.networks)
    (resolved : resolveAmong network.id none false database.networks =
      .ok found) : found = network := by
  have candidate : network ∈
      candidatesFor network.id none false database.networks :=
    mem_candidatesFor_id.mpr ⟨member, .inl rfl⟩
  unfold resolveAmong at resolved
  split at resolved
  · rename_i only isOnly
    cases resolved
    rw [isOnly] at candidate
    exact (List.mem_singleton.mp candidate).symm
  · cases resolved
  · cases resolved

theorem resolved_of_addressable (member : network ∈ database.networks)
    (addressable : database.Addressable network) :
    resolveAmong network.id none false database.networks = .ok network := by
  have candidate : network ∈
      candidatesFor network.id none false database.networks :=
    mem_candidatesFor_id.mpr ⟨member, .inl rfl⟩
  have same : ∀ other ∈
      candidatesFor network.id none false database.networks,
      other = network := by
    intro other otherCandidate
    obtain ⟨otherMember, sameID | borrowed⟩ :=
      mem_candidatesFor_id.mp otherCandidate
    · exact eq_of_same_id member otherMember sameID
    · exact addressable other otherMember borrowed
  have nodup : (candidatesFor network.id none false
      database.networks).Nodup := nodup_networks.filter _
  unfold resolveAmong
  generalize candidatesFor network.id none false database.networks =
    candidates at candidate same nodup
  match candidates with
  | [] => cases candidate
  | [only] =>
      have isNetwork : only = network := same only List.mem_cons_self
      rw [isNetwork]
  | first :: second :: rest =>
      have firstSame : first = network := same first List.mem_cons_self
      have secondSame : second = network := same second (by simp)
      rw [firstSame, secondSame] at nodup
      simp at nodup

theorem ambiguous_of_borrowed {other : NetworkRecord}
    (member : network ∈ database.networks)
    (otherMember : other ∈ database.networks)
    (borrowed : other.name = network.id) (different : other ≠ network) :
    resolveAmong network.id none false database.networks =
      .error (.conflict ("ambiguous network " ++ network.id ++
        "; specify project or qualified identity")) := by
  have candidate : network ∈
      candidatesFor network.id none false database.networks :=
    mem_candidatesFor_id.mpr ⟨member, .inl rfl⟩
  have otherCandidate : other ∈
      candidatesFor network.id none false database.networks :=
    mem_candidatesFor_id.mpr ⟨otherMember, .inr borrowed⟩
  unfold resolveAmong
  split
  · rename_i only isOnly
    rw [isOnly] at candidate otherCandidate
    have networkSame := List.mem_singleton.mp candidate
    have otherSame := List.mem_singleton.mp otherCandidate
    exact absurd (otherSame.trans networkSame.symm) different
  · rename_i noCandidate
    rw [noCandidate] at candidate
    cases candidate
  · rfl

end Resolving

/-! ## Operations by identity -/

section Operations

variable {env : RegistryEnv} {registry : NetworkRegistry}
  {network : NetworkRecord}

/-- The rows of all networks but one are as before. -/
def KeepsOthers (network : NetworkRecord)
    (before after : NetworkRegistry) : Prop :=
  ∀ other ∈ before.database.networks, other ≠ network →
    other ∈ after.database.networks

theorem KeepsOthers.of_same {reached after : NetworkRegistry}
    (kept : KeepsOthers network registry reached)
    (sameTables : after.database = reached.database) :
    KeepsOthers network registry after := by
  intro other member different
  rw [sameTables]
  exact kept other member different

theorem callRuntime_keepsOthers {α : Type} {fate : CallFate}
    {served : Procedure NetRuntimeStore NetRuntimeError α}
    {reached : NetworkRegistry} (kept : KeepsOthers network registry reached) :
    Ends (callRuntime env fate served)
      (fun _ => KeepsOthers network registry)
      (fun _ => KeepsOthers network registry) reached :=
  ends_callRuntime.mono (fun _ _ same => kept.of_same same)
    fun _ _ same => kept.of_same same

theorem statement_keepsOthers {call : DatabaseCall}
    {change : NetworkDatabase → Option NetworkDatabase}
    {reached : NetworkRegistry}
    (member : network ∈ registry.database.networks)
    (kept : KeepsOthers network registry reached)
    (aboutNetwork : ∀ after, change reached.database = some after →
      ∀ other ∈ reached.database.networks, other.id ≠ network.id →
        other ∈ after.networks) :
    Ends (statement env call change)
      (fun _ => KeepsOthers network registry)
      (fun _ => KeepsOthers network registry) reached := by
  apply ends_statement.mono
  · rintro _ _ ⟨_, after, performed, rfl⟩ other otherMember different
    apply aboutNetwork after performed other
      (kept other otherMember different)
    intro sameID
    exact different (eq_of_same_id member otherMember sameID)
  · rintro _ _ ⟨rfl, _⟩
    exact kept

theorem updateRuntime_keepsOthers {call : DatabaseCall} {state : String}
    {error : Option String} {reached : NetworkRegistry}
    (member : network ∈ registry.database.networks)
    (kept : KeepsOthers network registry reached) :
    Ends (updateRuntime env call network.id state error)
      (fun _ => KeepsOthers network registry)
      (fun _ => KeepsOthers network registry) reached := by
  apply statement_keepsOthers member kept
  intro after performed other otherMember different
  rw [mem_networks] at otherMember ⊢
  rw [(updateNetworkRuntime_writes performed).1]
  exact List.mem_map.mpr ⟨other, otherMember, if_neg different⟩

theorem delete_keepsOthers
    (member : network ∈ registry.database.networks) :
    Ends (delete env network.id none)
      (fun _ => KeepsOthers network registry)
      (fun _ => KeepsOthers network registry) registry := by
  have unchanged : KeepsOthers network registry registry :=
    fun _ otherMember _ => otherMember
  refine Ends.of_reading_bind (fun _ => unchanged) ?_
  intro _ _
  refine resolveNetwork_bind (fun _ => unchanged) ?_
  intro found _ resolved
  rw [eq_of_resolved_id member resolved]
  refine Ends.of_reading_bind (fun _ => unchanged) ?_
  intro all _
  refine Ends.of_require_bind unchanged ?_
  intro _
  apply Ends.andThen (fun _ => KeepsOthers network registry)
  · apply Ends.of_orElse
    apply (statement_keepsOthers member unchanged ?_).mono
    · exact fun _ _ kept => kept
    · exact fun _ _ kept => Ends.of_fail kept
    · intro after performed other otherMember different
      rw [mem_networks] at otherMember ⊢
      rw [(deleteNetwork_writes performed).2.1]
      exact List.mem_filter.mpr ⟨otherMember, decide_eq_true different⟩
  · intro _ deleted kept
    refine Ends.of_reading_bind (fun _ => kept) ?_
    intro held _
    split
    · apply Ends.bind_writing_ok
      exact callRuntime_keepsOthers (kept.of_same rfl)
    · exact Ends.of_pure kept

theorem replace_keepsOthers {reached : NetworkRegistry}
    (member : network ∈ registry.database.networks)
    (kept : KeepsOthers network registry reached) :
    Ends (do
        NetworkRegistry.release env network.id
        reserve env network
        setHandle network.id
        updateRuntime env .recreateActive network.id "active" none)
      (fun _ => KeepsOthers network registry)
      (fun _ => KeepsOthers network registry) reached := by
  apply Ends.andThen (fun _ => KeepsOthers network registry)
  · exact callRuntime_keepsOthers kept
  · intro _ released afterRelease
    apply Ends.andThen (fun _ => KeepsOthers network registry)
    · exact callRuntime_keepsOthers afterRelease
    · intro _ reserved afterReserve
      apply Ends.bind_writing_ok
      exact updateRuntime_keepsOthers member
        (afterReserve.of_same rfl)

theorem recreateRuntime_keepsOthers
    (member : network ∈ registry.database.networks) :
    Ends (recreateRuntime env network.id none)
      (fun _ => KeepsOthers network registry)
      (fun _ => KeepsOthers network registry) registry := by
  have unchanged : KeepsOthers network registry registry :=
    fun _ otherMember _ => otherMember
  refine Ends.of_reading_bind (fun _ => unchanged) ?_
  intro _ _
  refine resolveNetwork_bind (fun _ => unchanged) ?_
  intro found _ resolved
  rw [eq_of_resolved_id member resolved]
  refine Ends.of_require_bind unchanged ?_
  intro _
  refine Ends.of_reading_bind (fun _ => unchanged) ?_
  intro held _
  refine Ends.of_require_bind unchanged ?_
  intro _
  have dropped : KeepsOthers network registry
      (registry.withoutHandle network.id) := unchanged.of_same rfl
  apply Ends.bind_writing_ok
  apply Ends.of_orElse
  apply (replace_keepsOthers member dropped).mono
  · exact fun _ _ kept => kept
  · intro failure failed kept
    apply Ends.andThen (fun _ => KeepsOthers network registry)
    · apply Ends.of_attempt
      exact updateRuntime_keepsOthers member kept
    · exact fun _ _ marked => Ends.of_fail marked

/-- `detach` by an identity removes no attachment of another network, when
the identity is unambiguous or the VM is attached to the network. -/
theorem detach_keepsOthers {vmID : String} {vmIsStopped : Bool}
    (member : network ∈ registry.database.networks)
    (meant : registry.database.Addressable network ∨
      ∃ attachment ∈ registry.database.attachments,
        attachment.vmID = vmID ∧ attachment.networkID = network.id) :
    Ends (detach env vmID network.id none vmIsStopped)
      (fun _ reached => ∀ attachment ∈ registry.database.attachments,
        attachment.networkID ≠ network.id →
          attachment ∈ reached.database.attachments)
      (fun _ reached => reached = registry) registry := by
  refine Ends.of_reading_bind (fun _ => rfl) ?_
  intro _ _
  refine Ends.of_require_bind rfl ?_
  intro _
  refine Ends.of_reading_bind (fun _ => rfl) ?_
  intro all listed
  split at listed
  · cases listed
  · cases listed
    split
    · rename_i found isOnly
      have foundCandidate : found ∈ detachCandidates vmID network.id none
          registry.database.attachments := by
        rw [isOnly]
        exact List.mem_singleton_self _
      have foundHere : found.networkID = network.id := by
        rcases meant with addressable | ⟨attachment, attached, sameVM, here⟩
        · simp only [detachCandidates, List.mem_filter,
            decide_eq_true_eq] at foundCandidate
          obtain ⟨recorded, _, sameID | borrowed, _⟩ := foundCandidate
          · exact sameID
          · obtain ⟨row, _, joined, joinedMember, sameNetwork, rfl⟩ :=
              mem_attachments.mp recorded
            have isNetwork := addressable joined
              (mem_networks.mpr joinedMember) borrowed
            rw [isNetwork] at sameNetwork
            exact sameNetwork.symm
        · have candidate : attachment ∈ detachCandidates vmID network.id none
              registry.database.attachments := by
            simp only [detachCandidates, List.mem_filter, decide_eq_true_eq]
            exact ⟨attached, sameVM, .inl here, .inl trivial⟩
          rw [isOnly] at candidate
          rw [← List.mem_singleton.mp candidate]
          exact here
      apply Ends.of_orElse
      apply ends_statement.mono
      · rintro _ _ ⟨_, after, performed, rfl⟩ attachment recorded elsewhere
        obtain ⟨row, rowMember, joined, joinedMember, sameNetwork, rfl⟩ :=
          mem_attachments.mp recorded
        obtain ⟨sameNetworks, rows⟩ := deleteAttachment_writes performed
        refine mem_attachments.mpr ⟨row, ?_, joined, ?_, sameNetwork, rfl⟩
        · rw [rows, List.mem_filter]
          refine ⟨rowMember, decide_eq_true ?_⟩
          rintro ⟨_, sameID⟩
          exact elsewhere (sameID.trans foundHere)
        · rw [sameNetworks]
          exact joinedMember
      · rintro _ _ ⟨rfl, _⟩
        exact Ends.of_fail rfl
    · exact Ends.of_fail rfl

end Operations

end NetworkRegistry

/-! ## Runs -/

theorem wellNamed_of_perform {foundation : Foundation}
    {registry : NetworkRegistry} {label : RegistryEnv × RegistryCall}
    (wellNamed : registry.database.WellNamed foundation) :
    (RegistryCall.perform foundation registry label).database.WellNamed
      foundation := by
  obtain ⟨env, call⟩ := label
  have edits : Edits ⟨fun _ record => record.WellNamed foundation, True⟩
      registry.database
      (RegistryCall.perform foundation registry (env, call)).database := by
    apply perform_edited trivial
    rintro request _ _ ⟨cidr, requestChecked, rfl, _⟩
    obtain ⟨_, owned, _⟩ := checkCreate_eq_ok_iff.mp requestChecked
    change NetworkRecord.WellNamed foundation (newRecord env request cidr)
    unfold NetworkRecord.WellNamed newRecord CreateRequest.identity
    cases isOwned : request.project with
    | none => exact .inl rfl
    | some project =>
        rw [isOwned] at owned
        simp only [Option.all_some, Bool.and_eq_true, Bool.not_eq_true']
          at owned
        exact .inr ⟨project, rfl, rfl, owned.2⟩
  have preserved : ∀ {reached : NetworkDatabase},
      Edits ⟨fun _ record => record.WellNamed foundation, True⟩ registry.database
        reached → reached.WellNamed foundation := by
    intro reached chain
    induction chain with
    | refl => exact wellNamed
    | tail _ edit ih =>
        exact wellNamed_of_edit (fun _ _ created => created)
          ih edit
  exact preserved edits

/-- In every run, also from the tables of an older version in which names were
identities: an identity denotes its own network or nothing; it denotes the
network exactly when no other one has it as its logical name, which is so for
every qualified identity whose slash is a character of its own; otherwise it is
refused as ambiguous.  So `delete` and `recreateRuntime` by an identity change
no other network, and `detach` removes no attachment of another one when the
identity is unambiguous or the VM is attached to the network. -/
theorem stable_identity_of_runs (foundation : Foundation)
    {start registry : NetworkRegistry}
    (namesAreIdentities : ∀ network ∈ start.database.networks,
      network.id = network.name)
    (run : Transitions.Runs (registryStep foundation) start registry) :
    ∀ network ∈ registry.database.networks,
      (∀ found, resolveAmong network.id none false
          registry.database.networks = .ok found → found = network) ∧
      (resolveAmong network.id none false registry.database.networks =
          .ok network ↔ registry.database.Addressable network) ∧
      (¬ registry.database.Addressable network →
        resolveAmong network.id none false registry.database.networks =
          .error (.conflict ("ambiguous network " ++ network.id ++
            "; specify project or qualified identity"))) ∧
      (network.id ≠ network.name →
        foundation.containsSlash network.id = true →
          registry.database.Addressable network) ∧
      (∀ env, KeepsOthers network registry
        (NetworkRegistry.delete env network.id none registry).2) ∧
      (∀ env, KeepsOthers network registry
        (NetworkRegistry.recreateRuntime env network.id none registry).2) ∧
      (∀ env vmID vmIsStopped,
        (registry.database.Addressable network ∨
          ∃ attachment ∈ registry.database.attachments,
            attachment.vmID = vmID ∧ attachment.networkID = network.id) →
        ∀ attachment ∈ registry.database.attachments,
          attachment.networkID ≠ network.id →
            attachment ∈ (NetworkRegistry.detach env vmID network.id none
              vmIsStopped registry).2.database.attachments) := by
  have wellNamed : registry.database.WellNamed foundation := by
    apply Transitions.invariant_of_runs
      (fun state => state.database.WellNamed foundation) _ _ run
    · rintro source label _ sourceNamed rfl
      exact wellNamed_of_perform sourceNamed
    · intro network member
      exact .inl (namesAreIdentities network (mem_networks.mpr member))
  intro network member
  refine ⟨fun found => eq_of_resolved_id member, ?_, ?_, ?_, ?_, ?_, ?_⟩
  · constructor
    · intro resolved other otherMember borrowed
      by_contra different
      rw [ambiguous_of_borrowed member otherMember borrowed different]
        at resolved
      cases resolved
    · exact resolved_of_addressable member
  · intro ambiguous
    simp only [Addressable, not_forall] at ambiguous
    obtain ⟨other, otherMember, borrowed, different⟩ := ambiguous
    exact ambiguous_of_borrowed member otherMember borrowed different
  · intro qualified slash
    exact addressable_of_qualified wellNamed slash member qualified
  · intro env
    exact (delete_keepsOthers member).reached
  · intro env
    exact (recreateRuntime_keepsOthers member).reached
  · intro env vmID vmIsStopped meant
    have ends : Ends
        (NetworkRegistry.detach env vmID network.id none vmIsStopped)
        (fun _ reached => ∀ attachment ∈ registry.database.attachments,
          attachment.networkID ≠ network.id →
            attachment ∈ reached.database.attachments)
        (fun _ reached => ∀ attachment ∈ registry.database.attachments,
          attachment.networkID ≠ network.id →
            attachment ∈ reached.database.attachments) registry := by
      apply (detach_keepsOthers member meant).mono
      · exact fun _ _ kept => kept
      · rintro _ _ rfl attachment recorded _
        exact recorded
    exact ends.reached

/-! ## A borrowed identity -/

/-- A global network and a project network of one name; a VM is attached to
the project network. -/
def borrowedCalls : List (RegistryEnv × RegistryCall) :=
  [({}, .create { name := "lan", cidr := "10.80.0.0/24" }),
    ({}, .create {
      name := "lan"
      cidr := "10.81.0.0/24"
      project := some "shop" }),
    ({}, .attach {
      vmID := "shop/web"
      networkName := "shop/lan"
      ip := "10.81.0.10"
      project := some "shop" })]

def borrowedRegistry : NetworkRegistry :=
  borrowedCalls.foldl (RegistryCall.perform .ascii) .fresh

theorem borrowedRegistry_reachable :
    Transitions.Runs (registryStep .ascii) .fresh borrowedRegistry :=
  Transitions.Runs.ofFunction_foldl (RegistryCall.perform .ascii)
    borrowedCalls NetworkRegistry.fresh

theorem stable_identity_of_borrowed :
    borrowedRegistry.database.networks.map (·.id) = ["lan", "shop/lan"] ∧
    ∀ network ∈ borrowedRegistry.database.networks,
      (∀ found, resolveAmong network.id none false
          borrowedRegistry.database.networks = .ok found →
            found = network) ∧
      (network.id ≠ network.name →
        Foundation.ascii.containsSlash network.id = true →
          borrowedRegistry.database.Addressable network) := by
  refine ⟨by decide +kernel, ?_⟩
  intro network member
  obtain ⟨unique, _, _, qualified, _⟩ := stable_identity_of_runs .ascii
    (by simp [NetworkRegistry.fresh, NetworkDatabase.fresh,
      NetworkDatabase.networks])
    borrowedRegistry_reachable network member
  exact ⟨unique, qualified⟩

/-- The global network is not found by its identity, and a `detach` by it acts
on the other network. -/
theorem global_identity_is_ambiguous :
    Transitions.Runs (registryStep .ascii) .fresh borrowedRegistry ∧
    borrowedRegistry.database.networks.map (·.id) = ["lan", "shop/lan"] ∧
    resolveAmong "lan" none false borrowedRegistry.database.networks =
      .error (.conflict
        "ambiguous network lan; specify project or qualified identity") ∧
    (NetworkRegistry.detach {} "shop/web" "lan" none true
      borrowedRegistry).1 = .ok () ∧
    borrowedRegistry.database.attachments.map (·.networkID) =
      ["shop/lan"] ∧
    (NetworkRegistry.detach {} "shop/web" "lan" none true
      borrowedRegistry).2.database.attachments = [] :=
  ⟨borrowedRegistry_reachable, by decide +kernel, by decide +kernel,
    by decide +kernel, by decide +kernel, by decide +kernel⟩

end Vzctl
