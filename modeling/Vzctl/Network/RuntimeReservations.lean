import Vzctl.Network.RegistryEdits

/-!
# Rows, handles and reservations

`create`, `delete` and `recreateRuntime` change three stores one after the
other.  They agree on every network afterwards, unless an answer of vz-net is
lost where the code does not expect it.
-/

namespace Vzctl

open NetworkDatabase NetworkRegistry Procedure

namespace NetworkRegistry

/-- The network has a row in state `active`. -/
def Active (registry : NetworkRegistry) (id : String) : Prop :=
  ∃ network ∈ registry.database.networks,
    network.id = id ∧ network.runtimeState = "active"

instance (registry : NetworkRegistry) (id : String) :
    Decidable (registry.Active id) :=
  inferInstanceAs (Decidable (∃ _ ∈ _, _ ∧ _))

/-- Exactly the networks with a handle and an active row are reserved. -/
def InStep (registry : NetworkRegistry) : Prop :=
  ∀ id, registry.runtime.Reserves id ↔
    id ∈ registry.handles ∧ registry.Active id

/-- The three stores agree on one network. -/
structure AgreesOn (registry : NetworkRegistry) (id : String) : Prop where
  held : id ∈ registry.handles ↔ registry.runtime.Reserves id
  active : id ∈ registry.handles → registry.Active id

/-- The three stores agree, and vz-net is in order. -/
structure Synchronized (registry : NetworkRegistry) : Prop where
  live : registry.runtime.Live
  agrees : ∀ id, registry.AgreesOn id

theorem synchronized_fresh : fresh.Synchronized where
  live := NetRuntimeStore.live_fresh
  agrees id := {
    held := by simp [fresh, NetRuntimeStore.fresh, NetRuntimeStore.Reserves]
    active := by simp [fresh] }

theorem Synchronized.inStep {registry : NetworkRegistry}
    (synchronized : registry.Synchronized) : registry.InStep := by
  intro id
  obtain ⟨held, active⟩ := synchronized.agrees id
  rw [← held]
  constructor
  · intro hasHandle
    exact ⟨hasHandle, active hasHandle⟩
  · intro both
    exact both.1

/-! ## Writes about one network -/

/-- The stores are changed for one network only. -/
structure Touches (id : String) (before after : NetworkRegistry) :
    Prop where
  live : before.runtime.Live → after.runtime.Live
  handles : ∀ other, other ≠ id →
    (other ∈ after.handles ↔ other ∈ before.handles)
  reserves : ∀ other, other ≠ id →
    (after.runtime.Reserves other ↔ before.runtime.Reserves other)
  active : ∀ other, other ≠ id → before.Active other → after.Active other

namespace Touches

variable {id : String} {first second third registry : NetworkRegistry}

theorem refl (registry : NetworkRegistry) : Touches id registry registry where
  live live := live
  handles _ _ := Iff.rfl
  reserves _ _ := Iff.rfl
  active _ _ isActive := isActive

theorem trans (before : Touches id first second)
    (after : Touches id second third) : Touches id first third where
  live live := after.live (before.live live)
  handles other different :=
    (after.handles other different).trans (before.handles other different)
  reserves other different :=
    (after.reserves other different).trans (before.reserves other different)
  active other different isActive :=
    after.active other different (before.active other different isActive)

theorem synchronized (touches : Touches id first second)
    (earlier : first.Synchronized) (agrees : second.AgreesOn id) :
    second.Synchronized where
  live := touches.live earlier.live
  agrees := by
    intro other
    by_cases same : other = id
    · rw [same]
      exact agrees
    · obtain ⟨held, active⟩ := earlier.agrees other
      constructor
      · rw [touches.handles other same, touches.reserves other same]
        exact held
      · intro hasHandle
        apply touches.active other same
        exact active ((touches.handles other same).mp hasHandle)

theorem ofHandles {handles : Finset String}
    (same : ∀ other, other ≠ id →
      (other ∈ handles ↔ other ∈ registry.handles)) :
    Touches id registry { registry with handles := handles } where
  live live := live
  handles := same
  reserves _ _ := Iff.rfl
  active _ _ isActive := isActive

theorem dropHandle : Touches id registry
    { registry with handles := registry.handles.erase id } := by
  apply Touches.ofHandles
  intro other different
  exact Finset.mem_erase.trans (and_iff_right different)

theorem ofDatabase {database : NetworkDatabase}
    (kept : ∀ network ∈ registry.database.networks, network.id ≠ id →
      network ∈ database.networks) :
    Touches id registry { registry with database := database } where
  live live := live
  handles _ _ := Iff.rfl
  reserves _ _ := Iff.rfl
  active := by
    rintro _ different ⟨network, member, rfl, isActive⟩
    exact ⟨network, kept network member different, rfl, isActive⟩

theorem ofRuntime {runtime : NetRuntimeStore} (live : runtime.Live)
    (same : ∀ other, other ≠ id →
      (runtime.Reserves other ↔ registry.runtime.Reserves other)) :
    Touches id registry { registry with runtime := runtime } where
  live _ := live
  handles _ _ := Iff.rfl
  reserves := same
  active _ _ isActive := isActive

end Touches

section Writes

variable {env : RegistryEnv} {registry : NetworkRegistry}

theorem callRuntime_ends {α : Type} {fate : CallFate}
    {served : Procedure NetRuntimeStore NetRuntimeError α}
    {done : NetRuntimeStore → Prop} {failed : NetRuntimeStore → Prop}
    (serves : Ends served (fun _ => done) (fun _ => failed)
      registry.runtime) :
    Ends (callRuntime env fate served)
      (fun _ reached => fate = .answered ∧
        ∃ runtime, done runtime ∧
          reached = { registry with runtime := runtime })
      (fun _ reached =>
        (fate = .undelivered ∧ reached = registry) ∨
        (fate = .unanswered ∧ ∃ runtime, done runtime ∧
          reached = { registry with runtime := runtime }) ∨
        (∃ runtime, failed runtime ∧
          reached = { registry with runtime := runtime })) registry := by
  unfold Ends callRuntime at *
  cases fate with
  | undelivered => exact .inl ⟨rfl, rfl⟩
  | unanswered =>
      dsimp only
      split at serves
      · rename_i value runtime performed
        rw [performed]
        exact .inr (.inl ⟨rfl, runtime, serves, rfl⟩)
      · rename_i failure runtime performed
        rw [performed]
        exact .inr (.inr ⟨runtime, serves, rfl⟩)
  | answered =>
      dsimp only
      split at serves
      · rename_i value runtime performed
        rw [performed]
        exact ⟨rfl, runtime, serves, rfl⟩
      · rename_i failure runtime performed
        rw [performed]
        exact .inr (.inr ⟨runtime, serves, rfl⟩)

/-- The reservation of one network was made. -/
structure Reserved (id : String) (before after : NetworkRegistry) :
    Prop where
  touches : Touches id before after
  sameTables : after.database = before.database
  sameHandles : after.handles = before.handles
  reserved : after.runtime.Reserves id

/-- The reservation of one network was released. -/
structure Released (id : String) (before after : NetworkRegistry) :
    Prop where
  touches : Touches id before after
  sameTables : after.database = before.database
  sameHandles : after.handles = before.handles
  released : ¬ after.runtime.Reserves id

/-- A failed reservation leaves nothing behind, unless the answer to a
successful one is lost. -/
theorem reserve_ends {network : NetworkRecord}
    (live : registry.runtime.Live)
    (free : ¬ registry.runtime.Reserves network.id)
    (noLostAnswer : env.native network.id = none →
      env.acquire network.id ≠ .unanswered) :
    Ends (reserve env network)
      (fun _ reached => env.acquire network.id = .answered ∧
        env.native network.id = none ∧ Reserved network.id registry reached)
      (fun _ reached => reached = registry) registry := by
  apply (callRuntime_ends (NetRuntimeStore.acquire_ends live free)).mono
  · rintro _ _ ⟨answered, runtime, ⟨made, runtimeLive, reserves⟩, rfl⟩
    refine ⟨answered, made, ?_, rfl, rfl, (reserves _).mpr (.inl rfl)⟩
    apply Touches.ofRuntime runtimeLive
    intro other different
    rw [reserves]
    exact or_iff_right different
  · rintro _ _ (⟨_, same⟩ | ⟨lost, _, ⟨made, _⟩, _⟩ | ⟨_, same, rfl⟩)
    · exact same
    · exact absurd lost (noLostAnswer made)
    · rw [same]

theorem release_ends {id : String} (live : registry.runtime.Live)
    (reserved : registry.runtime.Reserves id) :
    Ends (NetworkRegistry.release env id)
      (fun _ reached => env.release id = .answered ∧
        Released id registry reached)
      (fun _ reached =>
        (env.release id = .undelivered ∧ reached = registry) ∨
        (env.release id = .unanswered ∧ Released id registry reached))
      registry := by
  have released : ∀ runtime : NetRuntimeStore, runtime.Live →
      (∀ other, runtime.Reserves other ↔
        other ≠ id ∧ registry.runtime.Reserves other) →
      Released id registry { registry with runtime := runtime } := by
    intro runtime runtimeLive reserves
    constructor
    · apply Touches.ofRuntime runtimeLive
      intro other different
      rw [reserves]
      exact and_iff_right different
    · rfl
    · rfl
    · intro stillReserved
      exact ((reserves id).mp stillReserved).1 rfl
  apply (callRuntime_ends (NetRuntimeStore.release_ends live reserved)).mono
  · rintro _ _ ⟨answered, runtime, ⟨runtimeLive, reserves⟩, rfl⟩
    exact ⟨answered, released runtime runtimeLive reserves⟩
  · rintro _ _ (⟨lost, same⟩ | ⟨lost, runtime, ⟨runtimeLive, reserves⟩, rfl⟩ |
      ⟨_, impossible, _⟩)
    · exact .inl ⟨lost, same⟩
    · exact .inr ⟨lost, released runtime runtimeLive reserves⟩
    · exact impossible.elim

theorem insertNetwork_ends {call : DatabaseCall} {record : NetworkRecord} :
    Ends (statement env call (·.insertNetwork record))
      (fun _ reached => (∀ id, Touches id registry reached) ∧
        reached.handles = registry.handles ∧
        reached.runtime = registry.runtime ∧
        record ∈ reached.database.networks)
      (fun _ reached => reached = registry ∧
        (env.faults call = true ∨
          registry.database.insertNetwork record = none)) registry := by
  apply ends_statement.mono
  · rintro _ _ ⟨_, after, done, rfl⟩
    have rows := (insertNetwork_writes done).1
    refine ⟨?_, rfl, rfl, ?_⟩
    · intro id
      apply Touches.ofDatabase
      intro network member _
      rw [mem_networks] at member ⊢
      rw [rows]
      exact List.mem_append_left _ member
    · rw [mem_networks, rows]
      exact List.mem_append_right _ (List.mem_singleton_self record)
  · intro _ _ failed
    exact failed

theorem updateRuntime_ends {call : DatabaseCall} {id state : String}
    {error : Option String} :
    Ends (updateRuntime env call id state error)
      (fun _ reached => env.faults call = false ∧
        Touches id registry reached ∧
        reached.handles = registry.handles ∧
        reached.runtime = registry.runtime ∧
        (state = "active" →
          (∃ network ∈ registry.database.networks, network.id = id) →
            reached.Active id))
      (fun _ reached => reached = registry ∧ env.faults call = true)
      registry := by
  apply ends_statement.mono
  · rintro _ _ ⟨answered, after, done, rfl⟩
    have rows := (updateNetworkRuntime_writes done).1
    refine ⟨answered, ?_, rfl, rfl, ?_⟩
    · apply Touches.ofDatabase
      intro network member different
      rw [mem_networks] at member ⊢
      rw [rows]
      exact List.mem_map.mpr ⟨network, member, if_neg different⟩
    · rintro rfl ⟨network, member, rfl⟩
      refine ⟨setRuntime "active" error env.timestamp network, ?_, rfl, rfl⟩
      rw [mem_networks] at member ⊢
      rw [rows]
      exact List.mem_map.mpr ⟨network, member, if_pos rfl⟩
  · rintro _ _ ⟨same, faulty | refused⟩
    · exact ⟨same, faulty⟩
    · exact absurd refused (updateNetworkRuntime_ne_none _ _ _ _ _)

end Writes

/-! ## The lost answers -/

section Settles

variable (foundation : Foundation) (env : RegistryEnv)
  (registry : NetworkRegistry)

/-- When `create` makes a reservation, it learns of it; and when it fails to
insert the row, its release reaches vz-net. -/
def CreateSettles (request : CreateRequest) : Prop :=
  registry.stopped = false → env.faults .createNetworks = false →
    ∀ cidr, checkCreate foundation request = .ok cidr →
      let record := newRecord env request cidr
      checkNew record registry.database.networks = .ok () →
      record.isDockerBackend = false → env.native record.id = none →
        env.acquire record.id ≠ .unanswered ∧
        (env.acquire record.id = .answered →
          (env.faults .createInsert = true ∨
            (registry.database.insertNetwork record).isNone) →
          env.release record.id ≠ .undelivered)

/-- The release of a deleted network that has a handle is answered. -/
def DeleteSettles (name : String) (project : Option String) : Prop :=
  registry.stopped = false → env.faults .resolveNetworks = false →
    env.faults .deleteAttachments = false →
    env.faults .deleteNetwork = false →
    ∀ network, resolveAmong name project false registry.database.networks =
        .ok network →
      (∀ attachment ∈ registry.database.attachments,
        attachment.networkID ≠ network.id) →
      network.id ∈ registry.handles → env.release network.id = .answered

/-- The release of `recreateRuntime` reaches vz-net; it learns of its new
reservation; and when it cannot write `active` it cannot write `orphaned`
either. -/
def ReplacementSettles (id : String) : Prop :=
  env.release id ≠ .undelivered ∧
    (env.release id = .answered → env.native id = none →
      env.acquire id ≠ .unanswered ∧
      (env.acquire id = .answered → env.faults .recreateActive = true →
        env.faults .recreateOrphaned = true))

def RecreateSettles (name : String) (project : Option String) : Prop :=
  registry.stopped = false → env.faults .resolveNetworks = false →
    ∀ network, resolveAmong name project false registry.database.networks =
        .ok network →
      network.isDockerBackend = false → network.id ∈ registry.handles →
        ReplacementSettles env network.id

instance (request : CreateRequest) :
    Decidable (CreateSettles foundation env registry request) :=
  inferInstanceAs (Decidable (_ → _ → ∀ cidr, _ = Except.ok cidr → _))

instance (id : String) : Decidable (ReplacementSettles env id) :=
  inferInstanceAs (Decidable (_ ∧ _))

instance (name : String) (project : Option String) :
    Decidable (RecreateSettles env registry name project) :=
  inferInstanceAs (Decidable (_ → _ → ∀ network, _ = Except.ok network → _))

end Settles

section Operations

variable {foundation : Foundation} {env : RegistryEnv}
  {registry : NetworkRegistry}

theorem Synchronized.free (synchronized : registry.Synchronized)
    {record : NetworkRecord}
    (new : checkNew record registry.database.networks = .ok ()) :
    record.id ∉ registry.handles ∧
      ¬ registry.runtime.Reserves record.id := by
  have noHandle : record.id ∉ registry.handles := by
    intro hasHandle
    obtain ⟨other, member, sameID, _⟩ :=
      (synchronized.agrees record.id).active hasHandle
    exact (checkNew_eq_ok_iff.mp new other member).2.1 sameID
  refine ⟨noHandle, ?_⟩
  rw [← (synchronized.agrees record.id).held]
  exact noHandle

section Replacing

variable {id : String} {reserved reached : NetworkRegistry}

theorem Reserved.undone (made : Reserved id registry reserved)
    (synchronized : registry.Synchronized)
    (noHandle : id ∉ registry.handles)
    (released : Released id reserved reached) : reached.Synchronized := by
  have noHandleYet : id ∉ reached.handles := by
    rw [released.sameHandles, made.sameHandles]
    exact noHandle
  apply (made.touches.trans released.touches).synchronized synchronized
  constructor
  · exact iff_of_false noHandleYet released.released
  · exact fun hasHandle => absurd hasHandle noHandleYet

theorem Touches.handled (touches : Touches id registry reached)
    (synchronized : registry.Synchronized)
    (reserved : reached.runtime.Reserves id)
    (active : reached.Active id) :
    ({ reached with handles := insert id reached.handles } :
      NetworkRegistry).Synchronized := by
  have handled : Touches id reached
      { reached with handles := insert id reached.handles } := by
    apply Touches.ofHandles
    intro other different
    exact Finset.mem_insert.trans (or_iff_right different)
  apply (touches.trans handled).synchronized synchronized
  constructor
  · exact iff_of_true (Finset.mem_insert_self id _) reserved
  · exact fun _ => active

end Replacing

theorem persist_synchronized {record : NetworkRecord}
    {failure : NetworkRegistryError → NetworkRegistryError}
    {reserved : NetworkRegistry}
    (made : Reserved record.id registry reserved)
    (synchronized : registry.Synchronized)
    (noHandle : record.id ∉ registry.handles)
    (isActive : record.runtimeState = "active")
    (delivered : (env.faults .createInsert = true ∨
        registry.database.insertNetwork record = none) →
      env.release record.id ≠ .undelivered) :
    Ends (do
        (statement env .createInsert (·.insertNetwork record)).orElse
          fun error => do
            (NetworkRegistry.release env record.id).attempt
            .fail (failure error)
        setHandle record.id
        return record)
      (fun _ reached => reached.Synchronized)
      (fun _ reached => reached.Synchronized) reserved := by
  apply Ends.of_bind
  apply Ends.of_orElse
  apply insertNetwork_ends.mono
  · rintro _ inserted ⟨touches, _, sameRuntime, recorded⟩
    apply Ends.of_bind
    apply Ends.of_writing
    · intro changed done
      cases done
      apply Ends.of_pure
      apply (made.touches.trans (touches record.id)).handled synchronized
      · rw [sameRuntime]
        exact made.reserved
      · exact ⟨record, recorded, rfl, isActive⟩
    · intro failure refused
      cases refused
  · rintro _ _ ⟨rfl, refused⟩
    rw [made.sameTables] at refused
    apply Ends.of_bind
    apply Ends.of_attempt
    apply (release_ends (made.touches.live synchronized.live)
      made.reserved).mono
    · rintro _ reached ⟨_, released⟩
      exact Ends.of_fail (made.undone synchronized noHandle released)
    · rintro _ reached (⟨lost, _⟩ | ⟨_, released⟩)
      · exact absurd lost (delivered refused)
      · exact Ends.of_fail (made.undone synchronized noHandle released)

theorem insertOnly_synchronized {record : NetworkRecord}
    {failure : NetworkRegistryError → NetworkRegistryError}
    (synchronized : registry.Synchronized)
    (noHandle : record.id ∉ registry.handles) :
    Ends (do
        (statement env .createInsert (·.insertNetwork record)).orElse
          fun error => .fail (failure error)
        return record)
      (fun _ reached => reached.Synchronized)
      (fun _ reached => reached.Synchronized) registry := by
  apply Ends.of_bind
  apply Ends.of_orElse
  apply insertNetwork_ends.mono
  · rintro _ inserted ⟨touches, sameHandles, sameRuntime, _⟩
    apply Ends.of_pure
    apply (touches record.id).synchronized synchronized
    constructor
    · rw [sameHandles, sameRuntime]
      exact (synchronized.agrees record.id).held
    · rw [sameHandles]
      exact fun hasHandle => absurd hasHandle noHandle
  · rintro _ _ ⟨rfl, _⟩
    exact Ends.of_fail synchronized

theorem createLocked_synchronized {request : CreateRequest}
    (synchronized : registry.Synchronized)
    (isRunning : registry.stopped = false)
    (settles : CreateSettles foundation env registry request) :
    Ends (createLocked foundation env request)
      (fun _ reached => reached.Synchronized)
      (fun _ reached => reached.Synchronized) registry := by
  refine Ends.of_reading_bind (fun _ => synchronized) ?_
  intro cidr requestChecked
  refine Ends.of_reading_bind (fun _ => synchronized) ?_
  intro existing found
  split at found
  · cases found
  · rename_i answered
    rw [Bool.not_eq_true] at answered
    cases found
    refine Ends.of_reading_bind (fun _ => synchronized) ?_
    intro _ newChecked
    have settled := settles isRunning answered cidr requestChecked newChecked
    obtain ⟨noHandle, free⟩ := synchronized.free newChecked
    dsimp only
    split
    · exact insertOnly_synchronized synchronized noHandle
    · rename_i notDocker
      rw [Bool.not_eq_true] at notDocker
      apply Ends.of_bind
      apply (reserve_ends synchronized.live free
        fun made => (settled notDocker made).1).mono
      · rintro _ reserved ⟨answered, made, isReserved⟩
        apply persist_synchronized isReserved synchronized noHandle rfl
        intro refused
        apply (settled notDocker made).2 answered
        rw [Option.isNone_iff_eq_none]
        exact refused
      · rintro _ _ rfl
        exact synchronized

theorem isRunning_of_requireRunning {value : Unit}
    (passed : (if registry.stopped then
        .error (.runtime "network registry is stopping")
      else
        .ok () : Except NetworkRegistryError Unit) = .ok value) :
    registry.stopped = false := by
  split at passed
  · cases passed
  · rename_i isRunning
    rw [Bool.not_eq_true] at isRunning
    exact isRunning

theorem create_synchronized {request : CreateRequest}
    (synchronized : registry.Synchronized)
    (settles : CreateSettles foundation env registry request) :
    Ends (create foundation env request)
      (fun _ reached => reached.Synchronized)
      (fun _ reached => reached.Synchronized) registry := by
  refine Ends.of_reading_bind (fun _ => synchronized) ?_
  intro _ passed
  exact createLocked_synchronized synchronized
    (isRunning_of_requireRunning passed) settles

theorem resolveNetwork_bind {α : Type} {name : String}
    {project : Option String} {next : NetworkRecord → RegistryM α}
    {returns : α → NetworkRegistry → Prop}
    {fails : NetworkRegistryError → NetworkRegistry → Prop}
    (missed : ∀ failure, fails failure registry)
    (found : ∀ network, env.faults .resolveNetworks = false →
      resolveAmong name project false registry.database.networks =
        .ok network →
      Ends (next network) returns fails registry) :
    Ends (resolveNetwork env name project >>= next) returns fails
      registry := by
  apply Ends.of_bind
  refine Ends.of_reading_bind missed ?_
  intro all listed
  split at listed
  · cases listed
  · rename_i answered
    rw [Bool.not_eq_true] at answered
    cases listed
    exact Ends.of_reading (fun network resolved =>
      found network answered resolved) fun failure _ => missed failure

theorem deleteNetwork_ends {call : DatabaseCall} {id : String} :
    Ends (statement env call (·.deleteNetwork id))
      (fun _ reached => env.faults call = false ∧
        Touches id registry reached ∧
        reached.handles = registry.handles ∧
        reached.runtime = registry.runtime)
      (fun _ reached => reached = registry) registry := by
  apply ends_statement.mono
  · rintro _ _ ⟨answered, after, performed, rfl⟩
    refine ⟨answered, ?_, rfl, rfl⟩
    apply Touches.ofDatabase
    intro network member different
    rw [mem_networks] at member ⊢
    rw [(deleteNetwork_writes performed).2.1]
    exact List.mem_filter.mpr ⟨member, decide_eq_true different⟩
  · exact fun _ _ failed => failed.1

theorem releaseHandle_synchronized {id : String}
    {deleted : NetworkRegistry}
    (synchronized : registry.Synchronized)
    (touches : Touches id registry deleted)
    (sameHandles : deleted.handles = registry.handles)
    (sameRuntime : deleted.runtime = registry.runtime)
    (answered : id ∈ registry.handles → env.release id = .answered) :
    Ends (releaseHandle env id) (fun _ reached => reached.Synchronized)
      (fun _ _ => False) deleted := by
  have held := (synchronized.agrees id).held
  apply Ends.of_bind
  apply Ends.of_reading
  · intro hasHandle looked
    have isHandle := Except.ok.inj looked
    split
    · rename_i holds
      rw [← isHandle, decide_eq_true_eq, sameHandles] at holds
      apply Ends.of_bind
      apply Ends.of_writing
      · intro changed done
        cases done
        let dropped : NetworkRegistry :=
          { deleted with handles := deleted.handles.erase id }
        have dropTouches : Touches id deleted dropped := Touches.dropHandle
        have reserved : dropped.runtime.Reserves id := by
          rw [show dropped.runtime = registry.runtime from sameRuntime]
          exact held.mp holds
        have live : dropped.runtime.Live :=
          (touches.trans dropTouches).live synchronized.live
        apply (release_ends live reserved).mono
        · rintro _ reached ⟨_, released⟩
          apply ((touches.trans dropTouches).trans
            released.touches).synchronized synchronized
          have noHandle : id ∉ reached.handles := by
            rw [released.sameHandles]
            exact Finset.notMem_erase id _
          constructor
          · exact iff_of_false noHandle released.released
          · exact fun hasHandle => absurd hasHandle noHandle
        · rintro _ reached (⟨lost, _⟩ | ⟨lost, _⟩)
          · rw [answered holds] at lost
            cases lost
          · rw [answered holds] at lost
            cases lost
      · intro failure refused
        cases refused
    · rename_i missing
      rw [← isHandle, decide_eq_true_eq] at missing
      apply Ends.of_pure
      apply touches.synchronized synchronized
      constructor
      · rw [sameHandles, sameRuntime]
        exact held
      · exact fun hasHandle => absurd hasHandle missing
  · intro failure refused
    cases refused

theorem delete_synchronized {name : String} {project : Option String}
    (synchronized : registry.Synchronized)
    (settles : DeleteSettles env registry name project) :
    Ends (delete env name project) (fun _ reached => reached.Synchronized)
      (fun _ reached => reached = registry) registry := by
  refine Ends.of_reading_bind (fun _ => rfl) ?_
  intro _ passed
  have isRunning := isRunning_of_requireRunning passed
  refine resolveNetwork_bind (fun _ => rfl) ?_
  intro network resolveAnswered resolved
  refine Ends.of_reading_bind (fun _ => rfl) ?_
  intro all listed
  split at listed
  · cases listed
  · rename_i listAnswered
    rw [Bool.not_eq_true] at listAnswered
    cases listed
    refine Ends.of_require_bind rfl ?_
    intro unattached
    apply Ends.of_bind
    apply Ends.of_orElse
    apply deleteNetwork_ends.mono
    · rintro _ deleted ⟨deleteAnswered, touches, sameHandles, sameRuntime⟩
      apply (releaseHandle_synchronized synchronized touches sameHandles
        sameRuntime ?_).mono
      · exact fun _ _ kept => kept
      · exact fun _ _ impossible => impossible.elim
      · apply settles isRunning resolveAnswered listAnswered deleteAnswered
          network resolved
        intro attachment member attached
        have listedAttachment : attachment ∈
            registry.database.attachments.filter
              (·.networkID = network.id) :=
          List.mem_filter.mpr ⟨member, decide_eq_true attached⟩
        rw [unattached] at listedAttachment
        cases listedAttachment
    · rintro _ _ rfl
      exact Ends.of_fail rfl

/-- The registry without the handle of a network. -/
def withoutHandle (registry : NetworkRegistry) (id : String) :
    NetworkRegistry :=
  { registry with handles := registry.handles.erase id }

theorem markOrphaned_synchronized {id : String} {failure : Option String}
    {released : NetworkRegistry} {error : NetworkRegistryError}
    (synchronized : registry.Synchronized)
    (isReleased : Released id (registry.withoutHandle id) released) :
    Ends (do
        (updateRuntime env .recreateOrphaned id "orphaned" failure).attempt
        (fail error : RegistryM Unit))
      (fun _ reached => reached.Synchronized)
      (fun _ reached => reached.Synchronized) released := by
  have settled : ∀ reached : NetworkRegistry,
      Touches id released reached → reached.handles = released.handles →
      reached.runtime = released.runtime → reached.Synchronized := by
    intro reached touches sameHandles sameRuntime
    apply ((Touches.dropHandle.trans isReleased.touches).trans
      touches).synchronized synchronized
    have noHandle : id ∉ reached.handles := by
      rw [sameHandles, isReleased.sameHandles]
      exact Finset.notMem_erase id _
    constructor
    · apply iff_of_false noHandle
      rw [sameRuntime]
      exact isReleased.released
    · exact fun hasHandle => absurd hasHandle noHandle
  apply Ends.of_bind
  apply Ends.of_attempt
  apply updateRuntime_ends.mono
  · rintro _ reached ⟨_, touches, sameHandles, sameRuntime, _⟩
    exact Ends.of_fail (settled reached touches sameHandles sameRuntime)
  · rintro _ _ ⟨rfl, _⟩
    exact Ends.of_fail (settled _ (Touches.refl _) rfl rfl)

/-- The new reservation of `recreateRuntime`, and what is left of a failed
one. -/
theorem replace_ends {network : NetworkRecord}
    (synchronized : registry.Synchronized)
    (recorded : network ∈ registry.database.networks)
    (hasHandle : network.id ∈ registry.handles)
    (settles : ReplacementSettles env network.id) :
    Ends (do
        NetworkRegistry.release env network.id
        reserve env network
        setHandle network.id
        updateRuntime env .recreateActive network.id "active" none)
      (fun _ reached => reached.Synchronized)
      (fun _ reached =>
        Released network.id (registry.withoutHandle network.id) reached ∨
        (reached.Synchronized ∧ env.faults .recreateOrphaned = true))
      (registry.withoutHandle network.id) := by
  obtain ⟨held, active⟩ := synchronized.agrees network.id
  have dropTouches :
      Touches network.id registry (registry.withoutHandle network.id) :=
    Touches.dropHandle
  have live := dropTouches.live synchronized.live
  apply Ends.of_bind
  apply (release_ends live (held.mp hasHandle)).mono
  · rintro _ released ⟨answered, isReleased⟩
    have settledReserve := settles.2 answered
    apply Ends.of_bind
    apply (reserve_ends (isReleased.touches.live live) isReleased.released
      fun made => (settledReserve made).1).mono
    · rintro _ reserved ⟨reserveAnswered, made, isReserved⟩
      have touches : Touches network.id registry reserved :=
        (dropTouches.trans isReleased.touches).trans isReserved.touches
      have sameTables : reserved.database = registry.database :=
        isReserved.sameTables.trans isReleased.sameTables
      apply Ends.of_bind
      apply Ends.of_writing
      · intro handled done
        cases done
        have stillActive : reserved.Active network.id := by
          unfold Active
          rw [sameTables]
          exact active hasHandle
        have synchronizedAgain :=
          touches.handled synchronized isReserved.reserved stillActive
        apply updateRuntime_ends.mono
        · rintro _ reached ⟨_, updateTouches, sameHandles, sameRuntime,
            nowActive⟩
          apply updateTouches.synchronized synchronizedAgain
          obtain ⟨heldAgain, _⟩ := synchronizedAgain.agrees network.id
          constructor
          · rw [sameHandles, sameRuntime]
            exact heldAgain
          · intro _
            apply nowActive rfl
            refine ⟨network, ?_, rfl⟩
            rw [show _ = registry.database from sameTables]
            exact recorded
        · rintro _ _ ⟨rfl, faulty⟩
          exact .inr ⟨synchronizedAgain,
            (settledReserve made).2 reserveAnswered faulty⟩
      · intro failure refused
        cases refused
    · rintro _ _ rfl
      exact .inl isReleased
  · rintro _ released (⟨lost, _⟩ | ⟨_, isReleased⟩)
    · exact absurd lost settles.1
    · exact .inl isReleased

theorem recreateRuntime_synchronized {name : String}
    {project : Option String} (synchronized : registry.Synchronized)
    (settles : RecreateSettles env registry name project) :
    Ends (recreateRuntime env name project)
      (fun _ reached => reached.Synchronized)
      (fun _ reached => reached.Synchronized) registry := by
  refine Ends.of_reading_bind (fun _ => synchronized) ?_
  intro _ passed
  have isRunning := isRunning_of_requireRunning passed
  refine resolveNetwork_bind (fun _ => synchronized) ?_
  intro network resolveAnswered resolved
  refine Ends.of_require_bind synchronized ?_
  intro notDocker
  refine Ends.of_reading_bind (fun _ => synchronized) ?_
  intro held looked
  refine Ends.of_require_bind synchronized ?_
  intro isHeld
  have hasHandle : network.id ∈ registry.handles :=
    of_decide_eq_true ((Except.ok.inj looked).trans isHeld)
  have settlesHere := settles isRunning resolveAnswered network resolved
    notDocker hasHandle
  apply Ends.of_bind
  apply Ends.of_writing
  · intro dropped done
    cases done
    apply Ends.of_orElse
    apply (replace_ends synchronized (mem_of_resolveAmong resolved)
      hasHandle settlesHere).mono
    · exact fun _ _ kept => kept
    · rintro failure reached (isReleased | ⟨kept, faulty⟩)
      · exact markOrphaned_synchronized synchronized isReleased
      · apply Ends.of_bind
        apply Ends.of_attempt
        apply updateRuntime_ends.mono
        · rintro _ _ ⟨answered, _⟩
          rw [faulty] at answered
          cases answered
        · rintro _ _ ⟨rfl, _⟩
          exact Ends.of_fail kept
  · intro failure refused
    cases refused

end Operations

end NetworkRegistry

/-! ## Runs -/

/-- One of the three calls, with no answer lost where it matters. -/
def StoresSettle (foundation : Foundation) (registry : NetworkRegistry)
    (label : RegistryEnv × RegistryCall) : Prop :=
  match label.2 with
  | .create request => CreateSettles foundation label.1 registry request
  | .delete name project => DeleteSettles label.1 registry name project
  | .recreateRuntime name project =>
      RecreateSettles label.1 registry name project
  | _ => False

theorem synchronized_of_perform {foundation : Foundation}
    {registry : NetworkRegistry} {label : RegistryEnv × RegistryCall}
    (synchronized : registry.Synchronized)
    (settles : StoresSettle foundation registry label) :
    (RegistryCall.perform foundation registry label).Synchronized := by
  obtain ⟨env, call⟩ := label
  have ends : Ends (call.procedure foundation env)
      (fun _ reached => reached.Synchronized)
      (fun _ reached => reached.Synchronized) registry := by
    cases call with
    | create request =>
        apply Ends.of_bind
        apply (create_synchronized synchronized settles).mono
        · exact fun _ _ kept => Ends.of_pure kept
        · exact fun _ _ kept => kept
    | delete name project =>
        apply (delete_synchronized synchronized settles).mono
        · exact fun _ _ kept => kept
        · rintro _ _ rfl
          exact synchronized
    | recreateRuntime name project =>
        exact recreateRuntime_synchronized synchronized settles
    | attach => exact settles.elim
    | setDefault => exact settles.elim
    | ensureVMNetwork => exact settles.elim
    | detach => exact settles.elim
    | detachAll => exact settles.elim
    | start => exact settles.elim
    | shutdown => exact settles.elim
  exact ends.reached

/-- In every run of `create`, `delete` and `recreateRuntime` that loses no
answer where it matters, with any other failures, the reserved networks are
the ones with a handle and an active row after each call; and a `delete` that
throws has changed nothing. -/
theorem stores_in_step_of_runs (foundation : Foundation)
    {start registry : NetworkRegistry} (synchronized : start.Synchronized)
    (run : Transitions.Runs
      (Transitions.guarded (StoresSettle foundation)
        (registryStep foundation)) start registry) :
    registry.InStep ∧
    ∀ env name project, DeleteSettles env registry name project →
      ∀ failure reached,
        NetworkRegistry.delete env name project registry =
          (.error failure, reached) →
        reached = registry := by
  have reachedSynchronized : registry.Synchronized := by
    apply Transitions.invariant_of_runs NetworkRegistry.Synchronized _
      synchronized run
    rintro source label _ sourceSynchronized ⟨settles, rfl⟩
    exact synchronized_of_perform sourceSynchronized settles
  refine ⟨reachedSynchronized.inStep, ?_⟩
  intro env name project settles failure reached thrown
  exact (delete_synchronized reachedSynchronized settles).of_failed thrown

/-- A network is created, a second one fails, the first one is recreated. -/
def settledCalls : List (RegistryEnv × RegistryCall) :=
  [({}, .create { name := "lab", cidr := "10.80.0.0/24" }),
    ({ native := fun _ => some "no vmnet" },
      .create { name := "ops", cidr := "10.81.0.0/24" }),
    ({ release := fun _ => .unanswered }, .recreateRuntime "lab" none),
    ({}, .create { name := "dev", cidr := "10.82.0.0/24" })]

def settledRegistry : NetworkRegistry :=
  settledCalls.foldl (RegistryCall.perform .ascii) .fresh

theorem settledRegistry_reachable :
    Transitions.Runs
      (Transitions.guarded (StoresSettle .ascii) (registryStep .ascii))
      .fresh settledRegistry := by
  have along : Transitions.Along (StoresSettle .ascii)
      (RegistryCall.perform .ascii) NetworkRegistry.fresh settledCalls := by
    refine ⟨?_, ?_, ?_, ?_, trivial⟩
    · change CreateSettles _ _ _ _
      decide
    · change CreateSettles _ _ _ _
      decide
    · change RecreateSettles _ _ _ _
      decide
    · change CreateSettles _ _ _ _
      decide
  exact Transitions.Runs.guarded_foldl along

theorem stores_in_step_of_settled :
    (settledRegistry.database.networks.map
        fun network => (network.id, network.runtimeState)) =
      [("dev", "active"), ("lab", "orphaned")] ∧
    settledRegistry.handles = {"dev"} ∧
    settledRegistry.InStep ∧
    ∀ env name project, DeleteSettles env settledRegistry name project →
      ∀ failure reached,
        NetworkRegistry.delete env name project settledRegistry =
          (.error failure, reached) →
        reached = settledRegistry :=
  ⟨by rfl, by rfl,
    stores_in_step_of_runs .ascii synchronized_fresh
      settledRegistry_reachable⟩

/-! ## A release that is not delivered -/

def labRegistry : NetworkRegistry :=
  [(({}, .create { name := "lab", cidr := "10.80.0.0/24" }) :
    RegistryEnv × RegistryCall)].foldl (RegistryCall.perform .ascii) .fresh

theorem labRegistry_reachable :
    Transitions.Runs (registryStep .ascii) .fresh labRegistry :=
  Transitions.Runs.ofFunction_foldl (RegistryCall.perform .ascii) _
    NetworkRegistry.fresh

/-- vz-net cannot be reached when the network is released. -/
def undeliveredRelease : RegistryEnv where
  release _ := .undelivered
  transport := "vz-net is unreachable"

def leakedRegistry : NetworkRegistry :=
  (NetworkRegistry.delete undeliveredRelease "lab" none labRegistry).2

theorem leakedRegistry_reachable :
    Transitions.Runs (registryStep .ascii) .fresh leakedRegistry :=
  labRegistry_reachable.snoc
    (show registryStep .ascii labRegistry
      (undeliveredRelease, .delete "lab" none) leakedRegistry from rfl)

/-- The `delete` throws, but row and handle are gone, the reservation stays,
and the next `delete` does not find the network. -/
theorem thrown_delete_leaks_reservation :
    Transitions.Runs (registryStep .ascii) .fresh leakedRegistry ∧
    (NetworkRegistry.delete undeliveredRelease "lab" none labRegistry).1 =
      .error (.runtime "vz-net is unreachable") ∧
    labRegistry.handles = {"lab"} ∧ labRegistry.Active "lab" ∧
    leakedRegistry.database.networks = [] ∧ leakedRegistry.handles = ∅ ∧
    leakedRegistry.runtime.Reserves "lab" ∧
    ¬ leakedRegistry.InStep ∧
    (NetworkRegistry.delete {} "lab" none leakedRegistry).1 =
      .error (.notFound "network not found for requested project: lab") := by
  have noHandle : leakedRegistry.handles = ∅ := by rfl
  have stillReserved : leakedRegistry.runtime.Reserves "lab" := by
    decide
  refine ⟨leakedRegistry_reachable, by rfl, by rfl,
    by decide, by rfl, noHandle, stillReserved, ?_,
    by rfl⟩
  intro inStep
  have hasHandle := ((inStep "lab").mp stillReserved).1
  rw [noHandle] at hasHandle
  cases hasHandle

end Vzctl
