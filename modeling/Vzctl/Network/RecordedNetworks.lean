import Vzctl.Network.RegistryEdits

/-!
# Recorded networks

What every network in the tables looks like, and what the operations that
succeed make of the list of networks.
-/

namespace Vzctl

/-- A record as `create` makes it, up to its runtime state. -/
structure NetworkRecord.WellFormed (record : NetworkRecord) : Prop where
  identity : record.id =
    record.project.elim record.name fun project => project ++ "/" ++ record.name
  shared : record.mode = "shared"
  canonical : ∃ cidr : IPv4CIDR, record.cidr = cidr.canonical

namespace NetworkDatabase

variable {before after : NetworkDatabase}

/-- What holds of every new network, and is not about the runtime state, holds
of every network after an edit. -/
theorem forall_networks_of_edit {permits : Permits}
    {origin : NetworkDatabase} {holds : NetworkRecord → Prop}
    (created : ∀ database record, permits.creates database record →
      holds record)
    (kept : ∀ state error updatedAt record, holds record →
      holds (setRuntime state error updatedAt record))
    (all : ∀ record ∈ before.networkTable.rows, holds record)
    (edit : Edit permits origin before after) :
    ∀ record ∈ after.networkTable.rows, holds record := by
  intro record member
  cases edit with
  | insertNetwork isCreated done =>
      rw [(insertNetwork_writes done).1] at member
      rcases List.mem_append.mp member with old | new
      · exact all record old
      · rw [List.mem_singleton.mp new]
        exact created _ _ isCreated
  | updateRuntime done =>
      rw [(updateNetworkRuntime_writes done).1] at member
      obtain ⟨old, oldMember, rfl⟩ := List.mem_map.mp member
      split
      · exact kept _ _ _ old (all old oldMember)
      · exact all old oldMember
  | deleteNetwork _ done =>
      rw [(deleteNetwork_writes done).2.1] at member
      exact all record (List.mem_of_mem_filter member)
  | insertAttachment _ _ done =>
      rw [(insertAttachment_writes done).1] at member
      exact all record member
  | updateAttachment _ _ done =>
      rw [(updateAttachment_writes done).1] at member
      exact all record member
  | rewriteAttachment _ _ _ _ done =>
      rw [(updateAttachment_writes done).1] at member
      exact all record member
  | removeAttachments => exact all record member
  | setDefault => exact all record member

theorem forall_networks_of_edits {permits : Permits}
    {origin : NetworkDatabase} {holds : NetworkRecord → Prop}
    (created : ∀ database record, permits.creates database record →
      holds record)
    (kept : ∀ state error updatedAt record, holds record →
      holds (setRuntime state error updatedAt record))
    (all : ∀ record ∈ origin.networkTable.rows, holds record)
    (edits : Edits permits origin after) :
    ∀ record ∈ after.networkTable.rows, holds record := by
  induction edits with
  | refl => exact all
  | tail _ edit ih =>
      exact forall_networks_of_edit created kept ih edit

theorem eq_of_id_eq {left right : NetworkRecord}
    (leftMember : left ∈ before.networkTable.rows)
    (rightMember : right ∈ before.networkTable.rows)
    (sameId : left.id = right.id) : left = right := by
  obtain ⟨ids, _⟩ := before.networkTable.valid
  exact UniqueKey.eq_of_key_eq ids leftMember rightMember sameId

theorem eq_of_name_eq {left right : NetworkRecord}
    (leftMember : left ∈ before.networkTable.rows)
    (rightMember : right ∈ before.networkTable.rows)
    (sameProject : left.project = right.project)
    (sameName : left.name = right.name) : left = right := by
  obtain ⟨_, _, _, names⟩ := before.networkTable.valid
  apply UniqueKey.eq_of_key_eq names leftMember rightMember
  rw [sameProject, sameName]

end NetworkDatabase

namespace NetworkRegistry

open NetworkDatabase Procedure

variable {foundation : Foundation} {env : RegistryEnv}
  {registry reached : NetworkRegistry}

/-! ## Every state of the registry -/

theorem wellFormed_newRecord {request : CreateRequest} {cidr : IPv4CIDR}
    (checked : checkCreate foundation request = .ok cidr) :
    (newRecord env request cidr).WellFormed := by
  obtain ⟨_, _, isShared, _⟩ := checkCreate_eq_ok_iff.mp checked
  constructor
  · change CreateRequest.identity request = _
    rw [CreateRequest.identity]
    cases isProject : request.project with
    | none => simp [newRecord, isProject]
    | some project => simp [newRecord, isProject]
  · exact isShared
  · exact ⟨cidr, rfl⟩

/-- A call may create well-formed networks and touch attachments. -/
def wellFormedPermits : Permits where
  creates _ record := record.WellFormed
  attaches := True

theorem wellFormed_of_runs
    (run : Transitions.Runs (registryStep foundation) fresh registry) :
    ∀ record ∈ registry.database.networkTable.rows, record.WellFormed := by
  apply Transitions.invariant_of_runs
    (fun state => ∀ record ∈ state.database.networkTable.rows,
      record.WellFormed) _ _ run
  · intro source label target all moved
    have edits : Edits wellFormedPermits source.database
        (RegistryCall.perform foundation source label).database := by
      refine perform_edited trivial ?_
      intro request _ record creatable
      obtain ⟨cidr, checked, same, _⟩ := creatable
      rw [same]
      exact wellFormed_newRecord checked
    rw [← moved]
    refine forall_networks_of_edits (fun _ _ created => created) ?_ all edits
    intro state error updatedAt record wellFormed
    exact ⟨wellFormed.identity, wellFormed.shared, wellFormed.canonical⟩
  · simp [fresh, NetworkDatabase.fresh]

/-! ## Operations that succeed -/

theorem ends_statement_networks {call : DatabaseCall}
    {change : NetworkDatabase → Option NetworkDatabase}
    {rows : List NetworkRecord}
    (writes : ∀ written, change registry.database = some written →
      written.networkTable.rows = rows) :
    Ends (statement env call change)
      (fun _ reached => reached.database.networkTable.rows = rows)
      (fun _ _ => True) registry := by
  apply ends_statement.mono
  · intro _ reached performed
    obtain ⟨_, written, done, same⟩ := performed
    rw [same]
    exact writes written done
  · intros
    trivial

theorem ends_orFail {α : Type} {first : RegistryM α}
    {rename : NetworkRegistryError → NetworkRegistryError}
    {returns : α → NetworkRegistry → Prop}
    (ends : Ends first returns (fun _ _ => True) registry) :
    Ends (first.orElse fun failure => .fail (rename failure)) returns
      (fun _ _ => True) registry := by
  apply Ends.of_orElse
  apply ends.mono
  · intro _ _ returned
    exact returned
  · intro _ _ _
    exact Ends.of_fail trivial

theorem create_returns {request : CreateRequest} :
    Ends (create foundation env request)
      (fun record reached => ∃ cidr,
        checkCreate foundation request = .ok cidr ∧
          record = newRecord env request cidr ∧
          reached.database.networkTable.rows =
            registry.database.networkTable.rows ++ [record])
      (fun _ _ => True) registry := by
  apply Ends.of_reading_bind (fun _ => trivial)
  intro _ _
  apply Ends.of_reading_bind (fun _ => trivial)
  intro cidr checked
  apply Ends.of_reading_bind (fun _ => trivial)
  intro existing _
  apply Ends.of_reading_bind (fun _ => trivial)
  intro _ _
  have insertion : ∀ between : NetworkRegistry,
      between.database = registry.database →
      Ends (statement env .createInsert
          (·.insertNetwork (newRecord env request cidr)))
        (fun _ written => written.database.networkTable.rows =
          registry.database.networkTable.rows ++ [newRecord env request cidr])
        (fun _ _ => True) between := by
    intro between sameTables
    apply ends_statement_networks
    intro written done
    rw [(insertNetwork_writes done).1, sameTables]
  dsimp only
  split
  · apply Ends.of_bind
    apply (ends_orFail (insertion registry rfl)).mono
    · intro _ written rows
      exact Ends.of_pure ⟨cidr, checked, rfl, rows⟩
    · intros
      trivial
  · apply Ends.andThen
      (fun _ reserved => reserved.database = registry.database)
    · exact ends_callRuntime.mono (fun _ _ same => same)
        fun _ _ _ => trivial
    · intro _ reserved sameTables
      apply Ends.of_bind
      apply Ends.of_orElse
      apply (insertion reserved sameTables).mono
      · intro _ written rows
        exact ⟨cidr, checked, rfl, rows⟩
      · intro _ between _
        apply Ends.andThen (fun _ _ => True)
        · apply Ends.of_attempt
          exact ends_callRuntime.mono (fun _ _ _ => trivial)
            fun _ _ _ => trivial
        · intros
          exact Ends.of_fail trivial

theorem detach_returns {vmID networkName : String} {project : Option String}
    {vmIsStopped : Bool} :
    Ends (detach env vmID networkName project vmIsStopped)
      (fun _ reached => reached.database.networkTable.rows =
        registry.database.networkTable.rows)
      (fun _ _ => True) registry := by
  apply Ends.of_reading_bind (fun _ => trivial)
  intro _ _
  apply Ends.of_require_bind trivial
  intro _
  apply Ends.of_reading_bind (fun _ => trivial)
  intro all _
  split
  · apply ends_orFail
    apply ends_statement_networks
    intro written done
    rw [(deleteAttachment_writes done).1]
  · exact Ends.of_fail trivial

/-- The network that goes is the only one of the project with the name or the
identity that `delete` is given. -/
theorem delete_returns {name : String} {project : String} :
    Ends (delete env name (some project))
      (fun _ reached => ∃ network ∈ registry.database.networkTable.rows,
        (∀ other ∈ registry.database.networkTable.rows,
          other.id = name ∨ other.name = name →
            other.project = some project → other = network) ∧
          reached.database.networkTable.rows =
            registry.database.networkTable.rows.filter (·.id ≠ network.id))
      (fun _ _ => True) registry := by
  apply Ends.of_reading_bind (fun _ => trivial)
  intro _ _
  apply Ends.of_bind
  apply Ends.of_reading_bind (fun _ => trivial)
  intro all found
  have isAll : all = registry.database.networks := by
    split at found
    · cases found
    · exact (Except.ok.inj found).symm
  apply Ends.of_reading
  · intro network resolved
    have candidate_iff : ∀ other, other = network ↔
        (other ∈ registry.database.networkTable.rows ∧
          (other.id = name ∨ other.name = name)) ∧
            other.project = some project := by
      intro other
      rw [← List.mem_singleton, ← candidatesFor_of_resolveAmong resolved,
        isAll]
      simp only [candidatesFor, or_true, if_true, List.mem_filter,
        mem_networks, decide_eq_true_eq]
    have member := ((candidate_iff network).mp rfl).1.1
    apply Ends.of_reading_bind (fun _ => trivial)
    intro attachments _
    apply Ends.of_require_bind trivial
    intro _
    apply Ends.andThen (fun _ written => written.database.networkTable.rows =
      registry.database.networkTable.rows.filter (·.id ≠ network.id))
    · apply ends_orFail
      apply ends_statement_networks
      intro written done
      rw [(deleteNetwork_writes done).2.1]
    · intro _ written rows
      have unique : ∀ other ∈ registry.database.networkTable.rows,
          other.id = name ∨ other.name = name →
            other.project = some project → other = network := by
        intro other isOther named isScoped
        exact (candidate_iff other).mpr ⟨⟨isOther, named⟩, isScoped⟩
      apply Ends.of_reading_bind (fun _ => trivial)
      intro held _
      split
      · apply Ends.bind_writing_ok
        apply ends_callRuntime.mono
        · intro _ released same
          rw [same]
          exact ⟨network, member, unique, rows⟩
        · intros
          trivial
      · exact Ends.of_pure ⟨network, member, unique, rows⟩
  · intros
    trivial

end NetworkRegistry

end Vzctl
