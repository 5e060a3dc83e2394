import Vzctl.Network.RegistryCalls

/-!
# What the registry writes

Every operation changes the network tables by a chain of elementary edits, each
of which comes with what the operation has checked before.  The invariants of
the tables follow from the edits and never look at an operation.
-/

namespace Vzctl

namespace NetworkDatabase

/-- The address test of an attachment record against its network. -/
structure AddressChecked (database : NetworkDatabase)
    (record : NetworkAttachmentRecord) (network : NetworkRecord)
    (cidr : IPv4CIDR) (offset : Nat) : Prop where
  recorded : network ∈ database.networkTable.rows
  sameNetwork : network.id = record.networkID
  parsed : IPv4CIDR.parse network.cidr = .ok cidr
  isAttachment : cidr.AttachmentOffset offset
  address : inetPton record.ip = some (cidr.addressAt offset)

/-- What an operation may write: which networks it creates, and whether it
touches attachments at all. -/
structure Permits where
  creates : NetworkDatabase → NetworkRecord → Prop
  attaches : Prop

/-- One write.  A network is only deleted from the tables an operation has
started with. -/
inductive Edit (permits : Permits)
    (origin : NetworkDatabase) :
    NetworkDatabase → NetworkDatabase → Prop where
  | insertNetwork {before after : NetworkDatabase} {record : NetworkRecord}
      (created : permits.creates before record)
      (done : before.insertNetwork record = some after) :
      Edit permits origin before after
  | updateRuntime {before after : NetworkDatabase} {id state : String}
      {error : Option String} {updatedAt : String}
      (done : before.updateNetworkRuntime id state error updatedAt =
        some after) :
      Edit permits origin before after
  | deleteNetwork {before after : NetworkDatabase} {id : String}
      (atOrigin : before = origin)
      (done : before.deleteNetwork id = some after) :
      Edit permits origin before after
  | insertAttachment {before after : NetworkDatabase}
      {record : NetworkAttachmentRecord} {network : NetworkRecord}
      {cidr : IPv4CIDR} {offset : Nat}
      (attaches : permits.attaches)
      (checked : before.AddressChecked record network cidr offset)
      (done : before.insertAttachment record = some after) :
      Edit permits origin before after
  | updateAttachment {before after : NetworkDatabase}
      {record : NetworkAttachmentRecord} {network : NetworkRecord}
      {cidr : IPv4CIDR} {offset : Nat}
      (attaches : permits.attaches)
      (checked : before.AddressChecked record network cidr offset)
      (done : before.updateAttachment record = some after) :
      Edit permits origin before after
  /-- The address is that of an attachment of the same network. -/
  | rewriteAttachment {before after : NetworkDatabase}
      {record existing : NetworkAttachmentRecord}
      (attaches : permits.attaches)
      (recorded : existing ∈ before.attachments)
      (sameNetwork : existing.networkID = record.networkID)
      (sameAddress : existing.ip = record.ip)
      (done : before.updateAttachment record = some after) :
      Edit permits origin before after
  | removeAttachments (before : NetworkDatabase)
      (selects : AttachmentRow → Bool) (attaches : permits.attaches) :
      Edit permits origin before (before.removeAttachments selects)
  | setDefault (before : NetworkDatabase) (record : DefaultNetworkRecord) :
      Edit permits origin before (before.setDefaultNetwork record)

/-- The edits of one operation. -/
def Edits (permits : Permits)
    (origin : NetworkDatabase) : NetworkDatabase → Prop :=
  Relation.ReflTransGen (Edit permits origin) origin

theorem edit_of_deleteAttachment
    {permits : Permits}
    {origin before after : NetworkDatabase} {vmID networkID : String}
    (attaches : permits.attaches)
    (done : before.deleteAttachment vmID networkID = some after) :
    Edit permits origin before after := by
  unfold deleteAttachment at done
  dsimp only at done
  split at done
  · cases done
    exact .removeAttachments before _ attaches
  · cases done

end NetworkDatabase

namespace NetworkRegistry

open NetworkDatabase Procedure

/-- From some earlier state on, the tables went through edits only. -/
def EditedFrom (permits : Permits)
    (start reached : NetworkRegistry) : Prop :=
  Edits permits start.database reached.database

section Edits

variable {permits : Permits}
  {foundation : Foundation} {env : RegistryEnv}
  {start registry : NetworkRegistry}

/-- A procedure that ends, well or badly, in an edited registry. -/
abbrev EndsEdited {α : Type}
    (permits : Permits)
    (start : NetworkRegistry) (procedure : RegistryM α)
    (registry : NetworkRegistry) : Prop :=
  Ends procedure (fun _ => EditedFrom permits start)
    (fun _ => EditedFrom permits start) registry

theorem EditedFrom.of_same {reached : NetworkRegistry}
    (earlier : EditedFrom permits start registry)
    (sameTables : reached.database = registry.database) :
    EditedFrom permits start reached := by
  unfold EditedFrom
  rw [sameTables]
  exact earlier

/-! ## Access to the stores -/

theorem ends_statement {call : DatabaseCall}
    {change : NetworkDatabase → Option NetworkDatabase} :
    Ends (statement env call change)
      (fun _ reached => env.faults call = false ∧
        ∃ after, change registry.database = some after ∧
          reached = { registry with database := after })
      (fun _ reached => reached = registry ∧
        (env.faults call = true ∨ change registry.database = none))
      registry := by
  apply Ends.of_writing
  · intro changed done
    split at done
    · cases done
    · rename_i answered
      rw [Bool.not_eq_true] at answered
      split at done
      · cases done
      · rename_i after performed
        cases done
        exact ⟨answered, after, performed, rfl⟩
  · intro failure failed
    refine ⟨rfl, ?_⟩
    split at failed
    · rename_i faulty
      exact .inl faulty
    · split at failed
      · rename_i refused
        exact .inr refused
      · cases failed

theorem ends_callRuntime {α : Type} {fate : CallFate}
    {served : Procedure NetRuntimeStore NetRuntimeError α} :
    Ends (callRuntime env fate served)
      (fun _ reached => reached.database = registry.database)
      (fun _ reached => reached.database = registry.database) registry := by
  unfold Ends callRuntime
  cases fate with
  | undelivered => rfl
  | unanswered => rfl
  | answered =>
      dsimp only
      cases served registry.runtime with
      | mk outcome runtime =>
          cases outcome with
          | ok value => rfl
          | error failure => rfl

namespace EndsEdited

variable {α β : Type}

theorem ofFail {failure : NetworkRegistryError}
    (earlier : EditedFrom permits start registry) :
    EndsEdited permits start (fail failure : RegistryM α) registry :=
  Ends.of_fail earlier

theorem ofPure {value : α} (earlier : EditedFrom permits start registry) :
    EndsEdited permits start (pure value : RegistryM α) registry :=
  Ends.of_pure earlier

theorem reading {look : NetworkRegistry → Except NetworkRegistryError α}
    {next : α → RegistryM β}
    (earlier : EditedFrom permits start registry)
    (holds : ∀ value, look registry = .ok value →
      EndsEdited permits start (next value) registry) :
    EndsEdited permits start (Procedure.reading look >>= next) registry :=
  Ends.of_bind (Ends.of_reading holds fun _ _ => earlier)

theorem query {call : DatabaseCall} {look : NetworkDatabase → α}
    {next : α → RegistryM β}
    (earlier : EditedFrom permits start registry)
    (holds : EndsEdited permits start (next (look registry.database))
      registry) :
    EndsEdited permits start (NetworkRegistry.query env call look >>= next)
      registry := by
  apply reading earlier
  intro value found
  split at found
  · cases found
  · cases found
    exact holds

theorem ofExcept {outcome : Except NetworkRegistryError α}
    {next : α → RegistryM β}
    (earlier : EditedFrom permits start registry)
    (holds : ∀ value, outcome = .ok value →
      EndsEdited permits start (next value) registry) :
    EndsEdited permits start (NetworkRegistry.ofExcept outcome >>= next)
      registry :=
  reading earlier holds

theorem ofTrap {outcome : Except Trap α} {next : α → RegistryM β}
    (earlier : EditedFrom permits start registry)
    (holds : ∀ value, outcome = .ok value →
      EndsEdited permits start (next value) registry) :
    EndsEdited permits start (NetworkRegistry.ofTrap outcome >>= next)
      registry := by
  apply ofExcept earlier
  intro value found
  exact holds value (Outcome.mapError_eq_ok_iff.mp found)

theorem require {condition : Prop} [Decidable condition]
    {failure : NetworkRegistryError} {next : Unit → RegistryM β}
    (earlier : EditedFrom permits start registry)
    (holds : condition → EndsEdited permits start (next ()) registry) :
    EndsEdited permits start (Procedure.require condition failure >>= next)
      registry :=
  Ends.of_bind (Ends.of_require holds fun _ => earlier)

theorem sequence {first : RegistryM α} {next : α → RegistryM β}
    (firstEnds : EndsEdited permits start first registry)
    (nextEnds : ∀ value reached, EditedFrom permits start reached →
      EndsEdited permits start (next value) reached) :
    EndsEdited permits start (first >>= next) registry :=
  Ends.andThen (fun _ => EditedFrom permits start) firstEnds nextEnds

theorem orElse {first : RegistryM α}
    {handler : NetworkRegistryError → RegistryM α}
    (firstEnds : EndsEdited permits start first registry)
    (handlerEnds : ∀ failure reached, EditedFrom permits start reached →
      EndsEdited permits start (handler failure) reached) :
    EndsEdited permits start (first.orElse handler) registry :=
  Ends.of_orElse (firstEnds.mono (fun _ _ edited => edited) handlerEnds)

theorem orFail {first : RegistryM α}
    {failure : NetworkRegistryError → NetworkRegistryError}
    (firstEnds : EndsEdited permits start first registry) :
    EndsEdited permits start (first.orElse fun error => .fail (failure error))
      registry :=
  orElse firstEnds fun _ _ edited => ofFail edited

theorem attempt {first : RegistryM Unit}
    (firstEnds : EndsEdited permits start first registry) :
    EndsEdited permits start first.attempt registry :=
  Ends.of_attempt firstEnds

theorem statement {call : DatabaseCall}
    {change : NetworkDatabase → Option NetworkDatabase}
    (earlier : EditedFrom permits start registry)
    (edits : ∀ after, change registry.database = some after →
      Edit permits start.database registry.database after) :
    EndsEdited permits start (NetworkRegistry.statement env call change)
      registry := by
  apply ends_statement.mono
  · rintro _ _ ⟨_, after, performed, rfl⟩
    exact Relation.ReflTransGen.tail earlier (edits after performed)
  · rintro _ _ ⟨rfl, _⟩
    exact earlier

theorem writing {change : NetworkRegistry → NetworkRegistry}
    (earlier : EditedFrom permits start registry)
    (sameTables : (change registry).database = registry.database) :
    EndsEdited permits start
      (Procedure.writing fun registry => .ok (change registry)) registry := by
  apply Ends.of_writing
  · intro changed done
    cases done
    exact earlier.of_same sameTables
  · intro failure refused
    cases refused

theorem callRuntime {fate : CallFate}
    {served : Procedure NetRuntimeStore NetRuntimeError α}
    (earlier : EditedFrom permits start registry) :
    EndsEdited permits start (NetworkRegistry.callRuntime env fate served)
      registry :=
  ends_callRuntime.mono (fun _ _ same => earlier.of_same same)
    fun _ _ same => earlier.of_same same

end EndsEdited

/-! ## Creating networks -/

/-- What `createLocked` has checked of a network before it inserts it. -/
def Creatable (foundation : Foundation) (env : RegistryEnv)
    (request : CreateRequest) (database : NetworkDatabase)
    (record : NetworkRecord) : Prop :=
  ∃ cidr, checkCreate foundation request = .ok cidr ∧
    record = newRecord env request cidr ∧
    checkNew record database.networks = .ok ()

theorem checkCreate_eq_ok_iff {request : CreateRequest} {cidr : IPv4CIDR} :
    checkCreate foundation request = .ok cidr ↔
      validName foundation request.name = true ∧
      request.project.all (fun project =>
        matchesProject project &&
          !foundation.containsSlash request.name) = true ∧
      request.mode = "shared" ∧
      request.backend ∈ ["", NetworkRecord.backendVmnet,
        NetworkRecord.backendDocker] ∧
      ¬ (request.backend = NetworkRecord.backendDocker ∧
        request.natEgress = true) ∧
      validMetadata foundation request.labels request.project
        request.stack = true ∧
      IPv4CIDR.parse request.cidr = .ok cidr := by
  unfold checkCreate validateName validateMetadata
  generalize validName foundation request.name = named
  generalize request.project.all (fun project =>
    matchesProject project && !foundation.containsSlash request.name) = owned
  generalize validMetadata foundation request.labels request.project
    request.stack = described
  cases named with
  | false => simp [bind, Except.bind]
  | true =>
      cases owned with
      | false => simp [bind, Except.bind, throw, throwThe, MonadExceptOf.throw]
      | true =>
          by_cases isShared : request.mode = "shared"
          · by_cases isBackend : request.backend ∈ ["",
                NetworkRecord.backendVmnet, NetworkRecord.backendDocker]
            · by_cases dockerEgress :
                  request.backend = NetworkRecord.backendDocker ∧
                    request.natEgress = true
              · simp [isShared, dockerEgress, bind, Except.bind, throw,
                  throwThe, MonadExceptOf.throw]
              · cases described with
                | false =>
                    simp [isShared, isBackend, dockerEgress, bind,
                      Except.bind]
                | true =>
                    simp [isShared, isBackend, dockerEgress, bind,
                      Except.bind, Outcome.mapError_eq_ok_iff]
            · simp [isShared, isBackend, bind, Except.bind, throw, throwThe,
                MonadExceptOf.throw]
          · simp [isShared, bind, Except.bind, throw, throwThe,
              MonadExceptOf.throw]

/-- A network is new when no recorded one has its scoped name, its identity or
its range. -/
theorem checkNew_eq_ok_iff {record : NetworkRecord}
    {existing : List NetworkRecord} :
    checkNew record existing = .ok () ↔
      ∀ other ∈ existing,
        ¬ (other.name = record.name ∧ other.project = record.project) ∧
          other.id ≠ record.id ∧ other.cidr ≠ record.cidr := by
  unfold checkNew
  by_cases sameName : existing.any fun other =>
      other.name = record.name ∧ other.project = record.project
  · rw [if_pos sameName]
    obtain ⟨other, member, same⟩ := List.any_eq_true.mp sameName
    constructor
    · intro impossible
      cases impossible
    · intro new
      exact absurd (of_decide_eq_true same) (new other member).1
  · by_cases sameID : existing.any fun other => other.id = record.id
    · rw [if_neg sameName, if_pos sameID]
      obtain ⟨other, member, same⟩ := List.any_eq_true.mp sameID
      constructor
      · intro impossible
        cases impossible
      · intro new
        exact absurd (of_decide_eq_true same) (new other member).2.1
    · by_cases sameCIDR : existing.any fun other => other.cidr = record.cidr
      · rw [if_neg sameName, if_neg sameID, if_pos sameCIDR]
        obtain ⟨other, member, same⟩ := List.any_eq_true.mp sameCIDR
        constructor
        · intro impossible
          cases impossible
        · intro new
          exact absurd (of_decide_eq_true same) (new other member).2.2
      · rw [if_neg sameName, if_neg sameID, if_neg sameCIDR]
        simp only [Bool.not_eq_true, List.any_eq_false,
          decide_eq_true_eq] at sameName sameID sameCIDR
        constructor
        · intro _ other member
          exact ⟨sameName other member, sameID other member,
            sameCIDR other member⟩
        · intro _
          rfl

theorem createLocked_ends {request : CreateRequest}
    (earlier : EditedFrom permits start registry)
    (allowed : ∀ record,
      Creatable foundation env request registry.database record →
        permits.creates registry.database record) :
    Ends (createLocked foundation env request)
      (fun record reached => EditedFrom permits start reached ∧
        record ∈ reached.database.networkTable.rows)
      (fun _ => EditedFrom permits start) registry := by
  apply Ends.of_bind
  apply Ends.of_reading
  · intro cidr requestChecked
    apply Ends.of_bind
    apply Ends.of_reading
    · intro existing found
      split at found
      · cases found
      · cases found
        apply Ends.of_bind
        apply Ends.of_reading
        · intro _ newChecked
          have created :
              permits.creates registry.database (newRecord env request cidr) :=
            allowed _ ⟨cidr, requestChecked, rfl, newChecked⟩
          have insertion : ∀ reached,
              reached.database = registry.database →
              Ends (statement env .createInsert
                  (·.insertNetwork (newRecord env request cidr)))
                (fun _ written => EditedFrom permits start written ∧
                  newRecord env request cidr ∈
                    written.database.networkTable.rows)
                (fun _ => EditedFrom permits start) reached := by
            intro reached sameTables
            apply ends_statement.mono
            · rintro _ _ ⟨_, after, done, rfl⟩
              have inserted := (insertNetwork_writes done).1
              rw [sameTables] at done
              refine ⟨Relation.ReflTransGen.tail earlier
                (.insertNetwork created done), ?_⟩
              rw [inserted]
              exact List.mem_append_right _ (List.mem_singleton_self _)
            · rintro _ _ ⟨rfl, _⟩
              exact earlier.of_same sameTables
          dsimp only
          split
          · apply Ends.of_bind
            apply Ends.of_orElse
            apply (insertion registry rfl).mono
            · intro _ _ written
              exact Ends.of_pure written
            · intro _ _ edited
              exact Ends.of_fail edited
          · apply Ends.andThen
              (fun _ reached => reached.database = registry.database)
            · exact ends_callRuntime.mono (fun _ _ same => same)
                fun _ _ same => earlier.of_same same
            · intro _ reserved sameTables
              apply Ends.of_bind
              apply Ends.of_orElse
              apply (insertion reserved sameTables).mono
              · intro _ _ written
                exact written
              · intro _ _ edited
                apply Ends.andThen (fun _ => EditedFrom permits start)
                  (EndsEdited.callRuntime edited).attempt
                intro _ released afterRelease
                exact Ends.of_fail afterRelease
        · intro _ _
          exact earlier
    · intro _ _
      exact earlier
  · intro _ _
    exact earlier

theorem create_edited {request : CreateRequest}
    (earlier : EditedFrom permits start registry)
    (allowed : ∀ record,
      Creatable foundation env request registry.database record →
        permits.creates registry.database record) :
    EndsEdited permits start (create foundation env request) registry :=
  EndsEdited.reading earlier fun _ _ =>
    (createLocked_ends earlier allowed).mono
      (fun _ _ created => created.1) fun _ _ edited => edited

/-! ## The default network -/

/-- The request for a default network, unless a network has its name. -/
def missingDefault (database : NetworkDatabase) (name cidr : String) :
    List CreateRequest :=
  if database.networks.any fun network =>
      network.name = name ∧ network.project = none then
    []
  else
    [defaultRequest name cidr]

theorem resolveDefaultNetworkRecord_ends
    (earlier : EditedFrom permits start registry) :
    Ends (resolveDefaultNetworkRecord env)
      (fun record reached => EditedFrom permits start reached ∧
        (reached = registry ∧ registry.database.defaultRow = some record ∨
          ∃ network ∈ reached.database.networks,
            network.name = record.name ∧ network.project = none))
      (fun _ => EditedFrom permits start) registry := by
  apply Ends.of_bind
  apply Ends.of_reading
  · intro configured found
    split at found
    · cases found
    · cases found
      cases isConfigured : registry.database.defaultRow with
      | some record =>
          exact Ends.of_pure ⟨earlier, .inl ⟨rfl, rfl⟩⟩
      | none =>
          apply Ends.of_bind
          apply Ends.of_reading
          · intro all found
            split at found
            · cases found
            · cases found
              dsimp only
              split
              · exact Ends.of_fail earlier
              · rename_i network inferred
                have sharedNetwork : network ∈
                    registry.database.networks.filter fun network =>
                      network.mode = "shared" ∧ network.project = none := by
                  split at inferred
                  · rename_i only isOnly
                    cases inferred
                    rw [isOnly]
                    exact List.mem_singleton_self _
                  · exact List.mem_of_find?_eq_some inferred
                rw [List.mem_filter, decide_eq_true_eq] at sharedNetwork
                obtain ⟨member, _, noProject⟩ := sharedNetwork
                apply Ends.of_bind
                apply Ends.of_writing
                · intro changed done
                  split at done
                  · cases done
                  · cases done
                    refine Ends.of_pure ⟨?_, .inr ⟨network, member, rfl,
                      noProject⟩⟩
                    exact Relation.ReflTransGen.tail earlier
                      (.setDefault registry.database _)
                · intro failure _
                  exact earlier
          · intro failure _
            exact earlier
  · intro failure _
    exact earlier

theorem ensureDefaultNetworkLocked_ends {name cidr : String}
    (earlier : EditedFrom permits start registry)
    (allowed : ∀ request ∈ missingDefault registry.database name cidr,
      ∀ record, Creatable foundation env request registry.database record →
        permits.creates registry.database record) :
    Ends (ensureDefaultNetworkLocked foundation env name cidr)
      (fun network reached => EditedFrom permits start reached ∧
        network ∈ reached.database.networkTable.rows)
      (fun _ => EditedFrom permits start) registry := by
  apply Ends.of_bind
  apply Ends.of_reading
  · intro all found
    split at found
    · cases found
    · cases found
      split
      · rename_i existing isExisting
        have recorded := mem_networks.mp (List.mem_of_find?_eq_some isExisting)
        apply Ends.of_bind
        apply Ends.of_require
        · intro _
          apply Ends.of_bind
          apply Ends.of_reading
          · intro _ _
            exact Ends.of_pure ⟨earlier, recorded⟩
          · intro _ _
            exact earlier
        · intro _
          exact earlier
      · rename_i missing
        apply createLocked_ends earlier
        apply allowed
        have noNetwork : ¬ registry.database.networks.any (fun network =>
            decide (network.name = name ∧ network.project = none)) =
              true := by
          rw [List.find?_eq_none] at missing
          simpa using missing
        rw [missingDefault, if_neg noNetwork]
        exact List.mem_singleton_self _
  · intro _ _
    exact earlier

theorem setDefault_edited {name rawCIDR : String}
    (earlier : EditedFrom permits start registry)
    (allowed : ∀ cidr, IPv4CIDR.parse rawCIDR = .ok cidr →
      ∀ request ∈ missingDefault registry.database name cidr.canonical,
        ∀ record,
          Creatable foundation env request registry.database record →
            permits.creates registry.database record) :
    EndsEdited permits start (setDefault foundation env name rawCIDR)
      registry := by
  apply EndsEdited.reading earlier
  intro _ _
  apply EndsEdited.ofExcept earlier
  intro _ _
  apply EndsEdited.ofExcept earlier
  intro cidr parsed
  have isParsed : IPv4CIDR.parse rawCIDR = .ok cidr :=
    Outcome.mapError_eq_ok_iff.mp parsed
  apply EndsEdited.sequence
    ((ensureDefaultNetworkLocked_ends earlier (allowed cidr isParsed)).mono
      (fun _ _ ensured => ensured.1) fun _ _ edited => edited)
  intro _ reached edited
  apply EndsEdited.query edited
  split
  · exact EndsEdited.ofPure edited
  · apply EndsEdited.sequence
    · apply EndsEdited.statement edited
      intro after done
      cases done
      exact .setDefault _ _
    · intro _ written afterWrite
      exact EndsEdited.ofPure afterWrite

/-! ## Attachments -/

theorem deleteOld_edited {call : String → DatabaseCall}
    {old : List NetworkAttachmentRecord}
    (attaches : permits.attaches)
    (earlier : EditedFrom permits start registry) :
    EndsEdited permits start (deleteOld env call old) registry := by
  apply Ends.of_forEach (EditedFrom permits start)
  · intro attachment _ reached edited
    exact EndsEdited.statement edited fun _ done =>
      edit_of_deleteAttachment attaches done
  · exact earlier

theorem candidatesFor_of_resolveAmong {name : String}
    {project : Option String} {allowGlobal : Bool} {all : List NetworkRecord}
    {network : NetworkRecord}
    (resolved : resolveAmong name project allowGlobal all = .ok network) :
    candidatesFor name project allowGlobal all = [network] := by
  unfold resolveAmong at resolved
  split at resolved
  · rename_i only isOnly
    cases resolved
    exact isOnly
  · cases resolved
  · cases resolved

theorem mem_of_resolveAmong {name : String} {project : Option String}
    {allowGlobal : Bool} {all : List NetworkRecord} {network : NetworkRecord}
    (resolved : resolveAmong name project allowGlobal all = .ok network) :
    network ∈ all := by
  have candidate : network ∈ candidatesFor name project allowGlobal all := by
    rw [candidatesFor_of_resolveAmong resolved]
    exact List.mem_singleton_self network
  unfold candidatesFor at candidate
  dsimp only at candidate
  split at candidate
  · exact List.mem_of_mem_filter candidate
  · split at candidate
    · exact List.mem_of_mem_filter (List.mem_of_mem_filter candidate)
    · exact List.mem_of_mem_filter (List.mem_of_mem_filter candidate)

theorem EndsEdited.resolveNetwork {β : Type} {name : String}
    {project : Option String} {allowGlobal : Bool}
    {next : NetworkRecord → RegistryM β}
    (earlier : EditedFrom permits start registry)
    (holds : ∀ network, network ∈ registry.database.networks →
      EndsEdited permits start (next network) registry) :
    EndsEdited permits start
      (NetworkRegistry.resolveNetwork env name project allowGlobal >>= next)
      registry := by
  apply Ends.of_bind
  apply Ends.of_bind
  apply Ends.of_reading
  · intro all found
    split at found
    · cases found
    · cases found
      apply Ends.of_reading
      · intro network resolved
        exact holds network (mem_of_resolveAmong resolved)
      · intro failure _
        exact earlier
  · intro failure _
    exact earlier

theorem EndsEdited.checkAddress {β : Type} {network : NetworkRecord}
    {ip : String} {next : Unit → RegistryM β}
    (earlier : EditedFrom permits start registry)
    (holds : ∀ cidr offset, IPv4CIDR.parse network.cidr = .ok cidr →
      cidr.AttachmentOffset offset →
      inetPton ip = some (cidr.addressAt offset) →
        EndsEdited permits start (next ()) registry) :
    EndsEdited permits start
      (NetworkRegistry.checkAddress network ip >>= next) registry := by
  apply Ends.of_bind
  apply Ends.of_bind
  apply Ends.of_reading
  · intro cidr parsed
    have isParsed : IPv4CIDR.parse network.cidr = .ok cidr :=
      Outcome.mapError_eq_ok_iff.mp parsed
    apply Ends.of_bind
    apply Ends.of_reading
    · intro isContained tested
      apply Ends.of_require
      · intro accepted
        have contained : cidr.containsAttachment ip = .ok true :=
          accepted ▸ Outcome.mapError_eq_ok_iff.mp tested
        obtain ⟨offset, isAttachment, address⟩ :=
          (cidr.containsAttachment_eq_true_iff ip).mp contained
        exact holds cidr offset isParsed isAttachment address
      · intro _
        exact earlier
    · intro failure _
      exact earlier
  · intro failure _
    exact earlier

theorem writeAttachment_edited {record : NetworkAttachmentRecord}
    {network : NetworkRecord} {cidr : IPv4CIDR} {offset : Nat}
    (attaches : permits.attaches)
    (earlier : EditedFrom permits start registry)
    (checked : registry.database.AddressChecked record network cidr offset) :
    EndsEdited permits start (writeAttachment env record) registry := by
  apply EndsEdited.query earlier
  dsimp only
  split
  · apply EndsEdited.sequence (EndsEdited.statement earlier
      fun _ done => .updateAttachment attaches checked done)
    exact fun _ _ edited => deleteOld_edited attaches edited
  · apply EndsEdited.sequence (EndsEdited.statement earlier
      fun _ done => .insertAttachment attaches checked done)
    exact fun _ _ edited => deleteOld_edited attaches edited

theorem attach_edited {request : AttachRequest}
    (attaches : permits.attaches)
    (earlier : EditedFrom permits start registry) :
    EndsEdited permits start (attach foundation env request) registry := by
  apply EndsEdited.reading earlier
  intro _ _
  apply EndsEdited.ofExcept earlier
  intro _ _
  apply EndsEdited.ofExcept earlier
  intro _ _
  apply EndsEdited.ofExcept earlier
  intro _ _
  apply EndsEdited.require earlier
  intro _
  apply EndsEdited.ofTrap earlier
  intro project _
  apply EndsEdited.resolveNetwork earlier
  intro network recorded
  have addressed : EndsEdited permits start (do
      NetworkRegistry.checkAddress network request.ip
      let record := attachRecord env request network
      (writeAttachment env record).orElse fun _ =>
        .fail (.conflict ("cannot attach " ++ request.vmID ++ " to " ++
          request.networkName ++ ": VM/network or IP already attached"))
      return record) registry := by
    apply EndsEdited.checkAddress earlier
    intro cidr offset parsed isAttachment address
    have checked : registry.database.AddressChecked
        (attachRecord env request network) network cidr offset :=
      ⟨mem_networks.mp recorded, rfl, parsed, isAttachment, address⟩
    apply EndsEdited.sequence
      (writeAttachment_edited attaches earlier checked).orFail
    intro _ reached edited
    exact EndsEdited.ofPure edited
  dsimp only
  split
  · exact EndsEdited.reading earlier fun _ _ => addressed
  · exact addressed

/-- The explicit attachments of a VM. -/
def explicitAttachments (database : NetworkDatabase) (vmID : String) :
    List NetworkAttachmentRecord :=
  (database.attachments.filter (·.vmID = vmID)).filter fun attachment =>
    !isAutomatic attachment.labels

/-- What `ensureVMNetwork` may create for a VM that asks for no network. -/
def defaultNetworks (database : NetworkDatabase) (vmID : String) :
    List CreateRequest :=
  match explicitAttachments database vmID, database.defaultRow with
  | [], some configured =>
      missingDefault database configured.name configured.cidr
  | _, _ => []

/-- Where the selection of a network leaves the registry. -/
def SelectedFrom (permits : Permits)
    (start registry : NetworkRegistry)
    (explicit : List NetworkAttachmentRecord) (selected : SelectedNetwork)
    (reached : NetworkRegistry) : Prop :=
  EditedFrom permits start reached ∧
    match selected with
    | .attached _ => explicit ≠ []
    | .network network automatic =>
        network ∈ reached.database.networks ∧
          (automatic = false → reached = registry)

theorem selectExisting_ends {existing : Option NetworkAttachmentRecord}
    (known : ∀ attachment ∈ existing,
      attachment ∈ registry.database.attachments) :
    Ends (selectExisting env existing)
      (fun selection reached => reached = registry ∧
        selection.isSome = existing.isSome)
      (fun _ reached => reached = registry) registry := by
  cases existing with
  | none => exact Ends.of_pure ⟨rfl, rfl⟩
  | some attachment =>
      apply Ends.of_bind
      apply Ends.of_reading
      · intro all found
        split at found
        · cases found
        · cases found
          apply Ends.of_pure
          refine ⟨rfl, ?_⟩
          have recorded := known attachment rfl
          rw [mem_attachments] at recorded
          obtain ⟨row, _, network, networkMember, same, rfl⟩ := recorded
          rw [Option.isSome_map, Option.isSome_some, List.find?_isSome]
          refine ⟨network, mem_networks.mpr networkMember, ?_⟩
          exact decide_eq_true same
      · intro failure _
        rfl

theorem selectRequested_ends {vmID requestedNetwork : String}
    {explicit : List NetworkAttachmentRecord}
    (known : ∀ attachment ∈ explicit,
      attachment ∈ registry.database.attachments)
    (earlier : EditedFrom permits start registry) :
    Ends (selectRequested foundation env vmID requestedNetwork explicit)
      (SelectedFrom permits start registry explicit)
      (fun _ => EditedFrom permits start)
      registry := by
  apply Ends.of_bind
  apply Ends.of_reading
  · intro _ _
    apply Ends.of_bind
    apply Ends.of_require
    · intro _
      apply Ends.of_bind
      apply (selectExisting_ends _).mono
      · rintro selection registry ⟨rfl, isSome⟩
        cases selection with
        | some selection =>
            refine Ends.of_pure ⟨earlier, ?_⟩
            rintro rfl
            cases isSome
        | none =>
            apply Ends.of_bind
            apply Ends.of_require
            · intro _
              apply Ends.of_bind
              apply Ends.of_reading
              · intro project _
                apply Ends.of_bind
                apply Ends.of_bind
                apply Ends.of_reading
                · intro all found
                  split at found
                  · cases found
                  · cases found
                    apply Ends.of_reading
                    · intro network resolved
                      exact Ends.of_pure ⟨earlier,
                        mem_of_resolveAmong resolved, fun _ => rfl⟩
                    · intro _ _
                      exact earlier
                · intro _ _
                  exact earlier
              · intro _ _
                exact earlier
            · intro _
              exact earlier
      · rintro _ _ rfl
        exact earlier
      · intro attachment isHead
        apply known
        exact List.mem_of_mem_filter (List.mem_of_mem_head? isHead)
    · intro _
      exact earlier
  · intro _ _
    exact earlier

theorem selectDefault_ends {vmID : String}
    (earlier : EditedFrom permits start registry)
    (allowed : ∀ request ∈ defaultNetworks registry.database vmID,
      ∀ record, Creatable foundation env request registry.database record →
        permits.creates registry.database record) :
    Ends (selectDefault foundation env
        (explicitAttachments registry.database vmID))
      (SelectedFrom permits start registry
        (explicitAttachments registry.database vmID))
      (fun _ => EditedFrom permits start)
      registry := by
  apply Ends.of_bind
  apply (selectExisting_ends _).mono
  · rintro selection registry ⟨rfl, isSome⟩
    cases selection with
    | some selection =>
        refine Ends.of_pure ⟨earlier, ?_⟩
        intro noExplicit
        rw [noExplicit] at isSome
        cases isSome
    | none =>
        have noExplicit : explicitAttachments registry.database vmID = [] := by
          cases explicit : explicitAttachments registry.database vmID with
          | nil => rfl
          | cons first rest =>
              rw [explicit] at isSome
              cases isSome
        apply Ends.of_bind
        apply (resolveDefaultNetworkRecord_ends earlier).mono
        · rintro configured resolved ⟨edited, unchanged | inferred⟩
          · obtain ⟨rfl, isConfigured⟩ := unchanged
            apply Ends.of_bind
            apply (ensureDefaultNetworkLocked_ends edited _).mono
            · rintro network reached ⟨afterEnsure, recorded⟩
              exact Ends.of_pure
                ⟨afterEnsure, mem_networks.mpr recorded, nofun⟩
            · intro _ _ failed
              exact failed
            · intro request missing
              apply allowed
              rw [defaultNetworks, noExplicit, isConfigured]
              exact missing
          · obtain ⟨network, member, sameName, noProject⟩ := inferred
            apply Ends.of_bind
            apply (ensureDefaultNetworkLocked_ends edited _).mono
            · rintro network reached ⟨afterEnsure, recorded⟩
              exact Ends.of_pure
                ⟨afterEnsure, mem_networks.mpr recorded, nofun⟩
            · intro _ _ failed
              exact failed
            · intro request missing
              have present : (resolved.database.networks.any fun network =>
                  decide (network.name = configured.name ∧
                    network.project = none)) = true := by
                rw [List.any_eq_true]
                exact ⟨network, member, decide_eq_true ⟨sameName, noProject⟩⟩
              rw [missingDefault, if_pos present] at missing
              cases missing
        · intro _ _ failed
          exact failed
  · rintro _ _ rfl
    exact earlier
  · intro attachment isHead
    exact List.mem_of_mem_filter
      (List.mem_of_mem_filter (List.mem_of_mem_head? isHead))

theorem reuseAttachment_edited {network : NetworkRecord} {automatic : Bool}
    {existing : NetworkAttachmentRecord}
    (recorded : automatic = false →
      existing ∈ registry.database.attachments)
    (attaches : permits.attaches)
    (earlier : EditedFrom permits start registry) :
    EndsEdited permits start (reuseAttachment env network automatic existing)
      registry := by
  unfold reuseAttachment
  split
  · rename_i promoted
    have sameNetwork : existing.networkID =
        (promoteAttachment env existing).networkID := rfl
    apply EndsEdited.sequence
    · exact EndsEdited.statement earlier fun _ done =>
        .rewriteAttachment attaches (recorded promoted.1) sameNetwork rfl done
    · intro _ _ edited
      exact EndsEdited.ofPure edited
  · exact EndsEdited.ofPure earlier

theorem allocateAttachment_edited {vmID : String} {network : NetworkRecord}
    {automatic : Bool} {current : List NetworkAttachmentRecord}
    (recorded : network ∈ registry.database.networks)
    (attaches : permits.attaches)
    (earlier : EditedFrom permits start registry) :
    EndsEdited permits start
      (allocateAttachment env vmID network automatic current) registry := by
  apply Ends.of_bind
  apply Ends.of_bind
  apply Ends.of_reading
  · intro all _
    apply Ends.of_bind
    apply Ends.of_reading
    · intro cidr parsed
      apply Ends.of_bind
      apply Ends.of_reading
      · intro found walked
        cases found with
        | none => exact Ends.of_fail earlier
        | some ip =>
            apply Ends.of_pure
            have isFree := Outcome.mapError_eq_ok_iff.mp walked
            rcases cidr.freeGuestAddress_cases
                ((all.filter (·.networkID = network.id)).map (·.ip)) with
              ⟨offset, lowest, isLowest⟩ | ⟨_, isNone | ⟨trap, isTrap⟩⟩
            · rw [isLowest] at isFree
              cases isFree
              have checked : registry.database.AddressChecked
                  (allocatedRecord env vmID network automatic
                    (inetNtop (cidr.addressAt offset))) network cidr offset :=
                ⟨mem_networks.mp recorded, rfl,
                  Outcome.mapError_eq_ok_iff.mp parsed,
                  .inr ⟨lowest.fromTen, lowest.belowLast⟩,
                  inetPton_inetNtop _⟩
              apply EndsEdited.sequence (EndsEdited.orFail _)
              · intro _ _ edited
                exact EndsEdited.ofPure edited
              · apply EndsEdited.sequence
                · exact EndsEdited.statement earlier fun _ done =>
                    .insertAttachment attaches checked done
                · exact fun _ _ edited => deleteOld_edited attaches edited
            · rw [isNone] at isFree
              cases isFree
            · rw [isTrap] at isFree
              cases isFree
      · intro _ _
        exact earlier
    · intro _ _
      exact earlier
  · intro _ _
    exact earlier

theorem selectNetwork_ends {vmID : String}
    {requestedNetwork : Option String}
    (earlier : EditedFrom permits start registry)
    (allowed : requestedNetwork = none →
      ∀ request ∈ defaultNetworks registry.database vmID,
        ∀ record,
          Creatable foundation env request registry.database record →
            permits.creates registry.database record) :
    Ends (selectNetwork foundation env vmID requestedNetwork
        (registry.database.attachments.filter (·.vmID = vmID)))
      (SelectedFrom permits start registry
        (explicitAttachments registry.database vmID))
      (fun _ => EditedFrom permits start) registry := by
  cases requestedNetwork with
  | some requested =>
      apply selectRequested_ends _ earlier
      intro attachment member
      exact List.mem_of_mem_filter (List.mem_of_mem_filter member)
  | none => exact selectDefault_ends earlier (allowed rfl)

theorem ensureVMNetwork_edited {vmID : String}
    {requestedNetwork : Option String} {vmIsStopped : Bool}
    (attaches : permits.attaches)
    (earlier : EditedFrom permits start registry)
    (allowed : requestedNetwork = none →
      ∀ request ∈ defaultNetworks registry.database vmID,
        ∀ record,
          Creatable foundation env request registry.database record →
            permits.creates registry.database record) :
    EndsEdited permits start
      (ensureVMNetwork foundation env vmID requestedNetwork vmIsStopped)
      registry := by
  apply EndsEdited.reading earlier
  intro _ _
  apply EndsEdited.ofExcept earlier
  intro _ _
  apply EndsEdited.require earlier
  intro _
  apply EndsEdited.query earlier
  apply Ends.of_bind
  apply (selectNetwork_ends earlier allowed).mono
  · rintro selected reached ⟨edited, recorded⟩
    cases selected with
    | attached selection => exact Ends.of_pure edited
    | network network automatic =>
        obtain ⟨networkRecorded, unchanged⟩ := recorded
        dsimp only
        split
        · rename_i existing isExisting
          apply reuseAttachment_edited _ attaches edited
          intro explicit
          rw [unchanged explicit]
          exact List.mem_of_mem_filter (List.mem_of_find?_eq_some isExisting)
        · exact allocateAttachment_edited networkRecorded attaches edited
  · intro _ _ failed
    exact failed

theorem detach_edited {vmID networkName : String} {project : Option String}
    {vmIsStopped : Bool} (attaches : permits.attaches)
    (earlier : EditedFrom permits start registry) :
    EndsEdited permits start
      (detach env vmID networkName project vmIsStopped) registry := by
  apply EndsEdited.reading earlier
  intro _ _
  apply EndsEdited.require earlier
  intro _
  apply EndsEdited.query earlier
  split
  · apply EndsEdited.orFail
    exact EndsEdited.statement earlier fun _ done =>
      edit_of_deleteAttachment attaches done
  · exact EndsEdited.ofFail earlier

theorem detachAll_edited {vmID : String} {vmIsStopped : Bool}
    (attaches : permits.attaches)
    (earlier : EditedFrom permits start registry) :
    EndsEdited permits start (detachAll env vmID vmIsStopped) registry := by
  apply EndsEdited.reading earlier
  intro _ _
  apply EndsEdited.require earlier
  intro _
  apply EndsEdited.query earlier
  apply EndsEdited.sequence
  · apply EndsEdited.statement earlier
    intro after done
    cases done
    exact .removeAttachments _ _ attaches
  · intro _ _ edited
    exact EndsEdited.ofPure edited

/-! ## Deleting and recreating networks -/

theorem delete_edited {name : String} {project : Option String} :
    EndsEdited permits registry (delete env name project) registry := by
  have earlier : EditedFrom permits registry registry :=
    Relation.ReflTransGen.refl
  apply EndsEdited.reading earlier
  intro _ _
  apply EndsEdited.resolveNetwork earlier
  intro network _
  apply EndsEdited.query earlier
  apply EndsEdited.require earlier
  intro _
  apply EndsEdited.sequence
  · apply EndsEdited.orFail
    exact EndsEdited.statement earlier fun _ done => .deleteNetwork rfl done
  · intro _ reached edited
    apply EndsEdited.reading edited
    intro held _
    split
    · apply EndsEdited.sequence (EndsEdited.writing edited rfl)
      exact fun _ _ afterHandle => EndsEdited.callRuntime afterHandle
    · exact EndsEdited.ofPure edited

theorem updateRuntime_edited {call : DatabaseCall} {id state : String}
    {error : Option String} (earlier : EditedFrom permits start registry) :
    EndsEdited permits start (updateRuntime env call id state error)
      registry :=
  EndsEdited.statement earlier fun _ done => .updateRuntime done

theorem recreateRuntime_edited {name : String} {project : Option String}
    (earlier : EditedFrom permits start registry) :
    EndsEdited permits start (recreateRuntime env name project) registry := by
  apply EndsEdited.reading earlier
  intro _ _
  apply EndsEdited.resolveNetwork earlier
  intro network _
  apply EndsEdited.require earlier
  intro _
  apply EndsEdited.reading earlier
  intro held _
  apply EndsEdited.require earlier
  intro _
  apply EndsEdited.sequence (EndsEdited.writing earlier rfl)
  intro _ reached edited
  apply EndsEdited.orElse
  · apply EndsEdited.sequence (EndsEdited.callRuntime edited)
    intro _ _ afterRelease
    apply EndsEdited.sequence (EndsEdited.callRuntime afterRelease)
    intro _ _ afterReserve
    apply EndsEdited.sequence (EndsEdited.writing afterReserve rfl)
    exact fun _ _ afterHandle => updateRuntime_edited afterHandle
  · intro failure _ afterReplace
    apply EndsEdited.sequence (updateRuntime_edited afterReplace).attempt
    exact fun _ _ afterUpdate => EndsEdited.ofFail afterUpdate

/-! ## Start and stop -/

theorem rebuildNetwork_edited {network : NetworkRecord}
    (earlier : EditedFrom permits start registry) :
    EndsEdited permits start (rebuildNetwork env network) registry := by
  unfold rebuildNetwork
  dsimp only
  split
  · exact updateRuntime_edited earlier
  · apply EndsEdited.orElse
    · apply EndsEdited.sequence (EndsEdited.callRuntime earlier)
      intro _ _ afterReserve
      apply EndsEdited.sequence (updateRuntime_edited afterReserve)
      exact fun _ _ afterUpdate => EndsEdited.writing afterUpdate rfl
    · exact fun _ _ failed => updateRuntime_edited failed

theorem start_edited (earlier : EditedFrom permits start registry) :
    EndsEdited permits start (NetworkRegistry.start env) registry := by
  apply EndsEdited.sequence (EndsEdited.writing earlier rfl)
  intro _ emptied edited
  apply EndsEdited.orElse
  · apply EndsEdited.query edited
    apply Ends.of_forEach (EditedFrom permits start)
    · exact fun _ _ _ rebuilt => rebuildNetwork_edited rebuilt
    · exact edited
  · intro failure _ failed
    apply EndsEdited.sequence (EndsEdited.writing failed rfl)
    exact fun _ _ stopped => EndsEdited.ofFail stopped

end Edits

/-- The networks a call may create. -/
def newNetworks (registry : NetworkRegistry) :
    RegistryCall → List CreateRequest
  | .create request => [request]
  | .setDefault name rawCIDR =>
      match IPv4CIDR.parse rawCIDR with
      | .ok cidr => missingDefault registry.database name cidr.canonical
      | .error _ => []
  | .ensureVMNetwork vmID none _ => defaultNetworks registry.database vmID
  | _ => []

theorem perform_edited
    {permits : Permits}
    {foundation : Foundation} {env : RegistryEnv}
    {registry : NetworkRegistry} {call : RegistryCall}
    (attaches : permits.attaches)
    (allowed : ∀ request ∈ newNetworks registry call,
      ∀ record, Creatable foundation env request registry.database record →
        permits.creates registry.database record) :
    Edits permits registry.database
      (RegistryCall.perform foundation registry (env, call)).database := by
  have earlier : EditedFrom permits registry registry :=
    Relation.ReflTransGen.refl
  have ends : EndsEdited permits registry (call.procedure foundation env)
      registry := by
    cases call with
    | create request =>
        apply EndsEdited.sequence
          (create_edited earlier (allowed request List.mem_cons_self))
        exact fun _ _ edited => EndsEdited.ofPure edited
    | attach request =>
        apply EndsEdited.sequence (attach_edited attaches earlier)
        exact fun _ _ edited => EndsEdited.ofPure edited
    | setDefault name cidr =>
        apply EndsEdited.sequence (setDefault_edited earlier _)
        · exact fun _ _ edited => EndsEdited.ofPure edited
        · intro parsed isParsed request missing
          apply allowed request
          rw [newNetworks, isParsed]
          exact missing
    | ensureVMNetwork vmID requestedNetwork vmIsStopped =>
        apply EndsEdited.sequence (ensureVMNetwork_edited attaches earlier _)
        · exact fun _ _ edited => EndsEdited.ofPure edited
        · rintro rfl request missing
          exact allowed request missing
    | detach vmID networkName project vmIsStopped =>
        exact detach_edited attaches earlier
    | detachAll vmID vmIsStopped =>
        apply EndsEdited.sequence (detachAll_edited attaches earlier)
        exact fun _ _ edited => EndsEdited.ofPure edited
    | delete name project => exact delete_edited
    | recreateRuntime name project => exact recreateRuntime_edited earlier
    | start => exact start_edited earlier
    | shutdown => exact EndsEdited.writing earlier rfl
  exact ends.reached

end NetworkRegistry

end Vzctl
