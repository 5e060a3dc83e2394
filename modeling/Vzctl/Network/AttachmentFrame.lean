import Vzctl.Network.AttachmentTable

/-!
# What a change of one VM's attachments leaves alone

`attach`, `detach` and `ensureVMNetwork` write no attachment of another VM, and
nothing at all when the VM is not stopped.
-/

namespace Vzctl

namespace NetworkDatabase

variable {before after : NetworkDatabase} {vmID : String}

/-- The attachments of all VMs but one. -/
def otherRows (database : NetworkDatabase) (vmID : String) :
    List AttachmentRow :=
  database.attachmentTable.rows.filter (·.vmID ≠ vmID)

theorem otherRows_of_insert {record : NetworkAttachmentRecord}
    (sameVM : record.vmID = vmID)
    (done : before.insertAttachment record = some after) :
    after.otherRows vmID = before.otherRows vmID := by
  obtain ⟨_, rows⟩ := insertAttachment_writes done
  have own : record.row.vmID = vmID := sameVM
  simp [otherRows, rows, own]

theorem otherRows_of_update {record : NetworkAttachmentRecord}
    (sameVM : record.vmID = vmID)
    (done : before.updateAttachment record = some after) :
    after.otherRows vmID = before.otherRows vmID := by
  obtain ⟨_, rows⟩ := updateAttachment_writes done
  have own : record.row.vmID = vmID := sameVM
  unfold otherRows
  rw [rows]
  induction before.attachmentTable.rows with
  | nil => rfl
  | cons row rest ih =>
      rw [List.map_cons]
      by_cases selected :
          row.vmID = record.vmID ∧ row.networkID = record.networkID
      · have isVM : row.vmID = vmID := selected.1.trans sameVM
        rw [if_pos selected, List.filter_cons_of_neg (by simp [own]),
          List.filter_cons_of_neg (by simp [isVM])]
        exact ih
      · rw [if_neg selected, List.filter_cons, List.filter_cons,
          ih]

theorem otherRows_of_delete {networkID : String}
    (done : before.deleteAttachment vmID networkID = some after) :
    after.otherRows vmID = before.otherRows vmID := by
  obtain ⟨_, rows⟩ := deleteAttachment_writes done
  unfold otherRows
  rw [rows, List.filter_filter]
  apply List.filter_congr
  intro row _
  by_cases isVM : row.vmID = vmID
  · simp [isVM]
  · simp [isVM]

end NetworkDatabase

namespace NetworkRegistry

open NetworkDatabase Procedure

variable {foundation : Foundation} {env : RegistryEnv}
  {start registry : NetworkRegistry} {vmID : String}

/-- The attachments of all other VMs are those of an earlier state. -/
def KeepsOtherVMs (vmID : String) (start reached : NetworkRegistry) :
    Prop :=
  reached.database.otherRows vmID = start.database.otherRows vmID

/-- A procedure that ends, well or badly, with the attachments of all other
VMs as they were. -/
abbrev EndsFramed {α : Type} (vmID : String) (start : NetworkRegistry)
    (procedure : RegistryM α) (registry : NetworkRegistry) : Prop :=
  Ends procedure (fun _ => KeepsOtherVMs vmID start)
    (fun _ => KeepsOtherVMs vmID start) registry

namespace EndsFramed

variable {α β : Type}

theorem looking {first : RegistryM α} {next : α → RegistryM β}
    (kept : KeepsOtherVMs vmID start registry)
    (looks : Ends first (fun _ reached => reached = registry)
      (fun _ reached => reached = registry) registry)
    (holds : ∀ value, EndsFramed vmID start (next value) registry) :
    EndsFramed vmID start (first >>= next) registry := by
  apply Ends.of_bind
  apply looks.mono
  · rintro value _ rfl
    exact holds value
  · rintro _ _ rfl
    exact kept

theorem statement {call : DatabaseCall}
    {change : NetworkDatabase → Option NetworkDatabase}
    (kept : KeepsOtherVMs vmID start registry)
    (keeps : ∀ after, change registry.database = some after →
      after.otherRows vmID = registry.database.otherRows vmID) :
    EndsFramed vmID start (NetworkRegistry.statement env call change)
      registry := by
  apply ends_statement.mono
  · rintro _ _ ⟨_, after, performed, rfl⟩
    exact (keeps after performed).trans kept
  · rintro _ _ ⟨rfl, _⟩
    exact kept

theorem deleteOld {call : String → DatabaseCall}
    {old : List NetworkAttachmentRecord}
    (kept : KeepsOtherVMs vmID start registry)
    (own : ∀ attachment ∈ old, attachment.vmID = vmID) :
    EndsFramed vmID start (NetworkRegistry.deleteOld env call old)
      registry := by
  apply Ends.of_forEach (KeepsOtherVMs vmID start)
  · intro attachment member reached reachedKept
    apply statement reachedKept
    intro after done
    rw [own attachment member] at done
    exact otherRows_of_delete done
  · exact kept

theorem orFail {first : RegistryM α}
    {failure : NetworkRegistryError → NetworkRegistryError}
    (firstEnds : EndsFramed vmID start first registry) :
    EndsFramed vmID start
      (first.orElse fun error => .fail (failure error)) registry := by
  apply Ends.of_orElse
  apply firstEnds.mono
  · exact fun _ _ kept => kept
  · exact fun _ _ kept => Ends.of_fail kept

theorem sequence {first : RegistryM α} {next : α → RegistryM β}
    (firstEnds : EndsFramed vmID start first registry)
    (nextEnds : ∀ value reached, KeepsOtherVMs vmID start reached →
      EndsFramed vmID start (next value) reached) :
    EndsFramed vmID start (first >>= next) registry :=
  Ends.andThen (fun _ => KeepsOtherVMs vmID start) firstEnds nextEnds

end EndsFramed

/-! ## Looking -/

theorem reading_looks {α : Type}
    {look : NetworkRegistry → Except NetworkRegistryError α} :
    Ends (Procedure.reading look) (fun _ reached => reached = registry)
      (fun _ reached => reached = registry) registry :=
  Ends.of_reading (fun _ _ => rfl) fun _ _ => rfl

theorem require_looks {condition : Prop} [Decidable condition]
    {failure : NetworkRegistryError} :
    Ends (Procedure.require condition failure : RegistryM Unit)
      (fun _ reached => reached = registry)
      (fun _ reached => reached = registry) registry :=
  Ends.of_require (fun _ => rfl) fun _ => rfl

theorem bind_looks {α β : Type} {first : RegistryM α}
    {next : α → RegistryM β}
    (looks : Ends first (fun _ reached => reached = registry)
      (fun _ reached => reached = registry) registry)
    (nextLooks : ∀ value, Ends (next value)
      (fun _ reached => reached = registry)
      (fun _ reached => reached = registry) registry) :
    Ends (first >>= next) (fun _ reached => reached = registry)
      (fun _ reached => reached = registry) registry := by
  apply Ends.of_bind
  apply looks.mono
  · rintro value _ rfl
    exact nextLooks value
  · exact fun _ _ same => same

theorem resolveNetwork_looks {name : String} {project : Option String}
    {allowGlobal : Bool} :
    Ends (resolveNetwork env name project allowGlobal)
      (fun _ reached => reached = registry)
      (fun _ reached => reached = registry) registry :=
  bind_looks reading_looks fun _ => reading_looks

theorem checkAddress_looks {network : NetworkRecord} {ip : String} :
    Ends (checkAddress network ip) (fun _ reached => reached = registry)
      (fun _ reached => reached = registry) registry :=
  bind_looks reading_looks fun _ =>
    bind_looks reading_looks fun _ => require_looks

/-! ## The operations -/

theorem writeAttachment_framed {record : NetworkAttachmentRecord}
    (own : record.vmID = vmID)
    (kept : KeepsOtherVMs vmID start registry) :
    EndsFramed vmID start (writeAttachment env record) registry := by
  apply EndsFramed.looking kept reading_looks
  intro all
  have oldOwn : ∀ attachment ∈ (all.filter
      (·.vmID = record.vmID)).filter (fun old =>
        isAutomatic old.labels && old.networkID ≠ record.networkID),
      attachment.vmID = vmID := by
    intro attachment member
    have selected := (List.mem_filter.mp (List.mem_of_mem_filter member)).2
    exact (of_decide_eq_true selected).trans own
  dsimp only
  split
  · apply EndsFramed.sequence
    · exact EndsFramed.statement kept fun _ done =>
        otherRows_of_update own done
    · exact fun _ _ reachedKept => EndsFramed.deleteOld reachedKept oldOwn
  · apply EndsFramed.sequence
    · exact EndsFramed.statement kept fun _ done =>
        otherRows_of_insert own done
    · exact fun _ _ reachedKept => EndsFramed.deleteOld reachedKept oldOwn

theorem attach_framed {request : AttachRequest} :
    EndsFramed request.vmID registry (attach foundation env request)
      registry := by
  have kept : KeepsOtherVMs request.vmID registry registry := rfl
  apply EndsFramed.looking kept reading_looks
  intro _
  apply EndsFramed.looking kept reading_looks
  intro _
  apply EndsFramed.looking kept reading_looks
  intro _
  apply EndsFramed.looking kept reading_looks
  intro _
  apply EndsFramed.looking kept require_looks
  intro _
  apply EndsFramed.looking kept reading_looks
  intro project
  apply EndsFramed.looking kept resolveNetwork_looks
  intro network
  have written : EndsFramed request.vmID registry (do
      checkAddress network request.ip
      let record := attachRecord env request network
      (writeAttachment env record).orElse fun _ =>
        .fail (.conflict ("cannot attach " ++ request.vmID ++ " to " ++
          request.networkName ++ ": VM/network or IP already attached"))
      return record) registry := by
    apply EndsFramed.looking kept checkAddress_looks
    intro _
    apply EndsFramed.sequence
    · exact (writeAttachment_framed rfl kept).orFail
    · exact fun _ _ reachedKept => Ends.of_pure reachedKept
  dsimp only
  split
  · exact EndsFramed.looking kept reading_looks fun _ => written
  · exact written

theorem reuseAttachment_framed {network : NetworkRecord}
    {automatic : Bool} {existing : NetworkAttachmentRecord}
    (own : existing.vmID = vmID)
    (kept : KeepsOtherVMs vmID start registry) :
    EndsFramed vmID start
      (reuseAttachment env network automatic existing) registry := by
  unfold reuseAttachment
  split
  · have promotedOwn : (promoteAttachment env existing).vmID = vmID := own
    apply EndsFramed.sequence
    · exact EndsFramed.statement kept fun _ done =>
        otherRows_of_update promotedOwn done
    · exact fun _ _ reachedKept => Ends.of_pure reachedKept
  · exact Ends.of_pure kept

theorem allocateAddress_looks {network : NetworkRecord} :
    Ends (allocateAddress env network)
      (fun _ reached => reached = registry)
      (fun _ reached => reached = registry) registry := by
  apply bind_looks reading_looks
  intro all
  apply bind_looks reading_looks
  intro cidr
  apply bind_looks reading_looks
  intro found
  cases found with
  | none => exact Ends.of_fail rfl
  | some ip => exact Ends.of_pure rfl

theorem allocateAttachment_framed {network : NetworkRecord}
    {automatic : Bool} {current : List NetworkAttachmentRecord}
    (own : ∀ attachment ∈ current, attachment.vmID = vmID)
    (kept : KeepsOtherVMs vmID start registry) :
    EndsFramed vmID start
      (allocateAttachment env vmID network automatic current)
      registry := by
  apply EndsFramed.looking kept allocateAddress_looks
  intro ip
  apply EndsFramed.sequence
  · apply EndsFramed.orFail
    apply EndsFramed.sequence
    · exact EndsFramed.statement kept fun _ done =>
        otherRows_of_insert rfl done
    · intro _ _ reachedKept
      apply EndsFramed.deleteOld reachedKept
      intro attachment member
      exact own attachment (List.mem_of_mem_filter member)
  · exact fun _ _ reachedKept => Ends.of_pure reachedKept

theorem ensureVMNetwork_framed {requestedNetwork : Option String}
    {vmIsStopped : Bool} :
    EndsFramed vmID registry
      (ensureVMNetwork foundation env vmID requestedNetwork vmIsStopped)
      registry := by
  have kept : KeepsOtherVMs vmID registry registry := rfl
  have unedited : EditedFrom ⟨fun _ _ => True, False⟩ registry registry :=
    Relation.ReflTransGen.refl
  have untouched : ∀ {reached : NetworkRegistry},
      EditedFrom ⟨fun _ _ => True, False⟩ registry reached →
        KeepsOtherVMs vmID registry reached := by
    intro reached edited
    unfold KeepsOtherVMs otherRows
    rw [attachmentTable_of_edits id edited]
  apply EndsFramed.looking kept reading_looks
  intro _
  apply EndsFramed.looking kept reading_looks
  intro _
  apply EndsFramed.looking kept require_looks
  intro _
  refine Ends.of_reading_bind (fun _ => kept) ?_
  intro all listed
  split at listed
  · cases listed
  · cases listed
    have own : ∀ attachment ∈ registry.database.attachments.filter
        (·.vmID = vmID), attachment.vmID = vmID := by
      intro attachment member
      exact of_decide_eq_true (List.mem_filter.mp member).2
    apply Ends.of_bind
    apply (selectNetwork_ends unedited fun _ _ _ _ _ => trivial).mono
    · rintro selected reached ⟨edited, _⟩
      have reachedKept := untouched edited
      cases selected with
      | attached selection => exact Ends.of_pure reachedKept
      | network network automatic =>
          dsimp only
          split
          · rename_i existing isExisting
            apply reuseAttachment_framed _ reachedKept
            exact own existing (List.mem_of_find?_eq_some isExisting)
          · exact allocateAttachment_framed own reachedKept
    · exact fun _ _ edited => untouched edited

theorem detach_framed {networkName : String} {project : Option String}
    {vmIsStopped : Bool} :
    EndsFramed vmID registry
      (detach env vmID networkName project vmIsStopped) registry := by
  have kept : KeepsOtherVMs vmID registry registry := rfl
  apply EndsFramed.looking kept reading_looks
  intro _
  apply EndsFramed.looking kept require_looks
  intro _
  apply EndsFramed.looking kept reading_looks
  intro all
  split
  · apply EndsFramed.orFail
    exact EndsFramed.statement kept fun _ done => otherRows_of_delete done
  · exact Ends.of_fail kept

/-! ## A VM that is not stopped -/

theorem requireStopped_bind {α : Type} {next : Unit → RegistryM α} :
    Ends (requireStopped false vmID >>= next)
      (fun _ reached => reached = registry)
      (fun _ reached => reached = registry) registry := by
  refine Ends.of_require_bind rfl ?_
  intro stopped
  cases stopped

theorem attach_running {request : AttachRequest}
    (running : request.vmIsStopped = false) :
    Ends (attach foundation env request)
      (fun _ reached => reached = registry)
      (fun _ reached => reached = registry) registry := by
  unfold attach
  rw [running]
  apply bind_looks reading_looks
  intro _
  apply bind_looks reading_looks
  intro _
  apply bind_looks reading_looks
  intro _
  apply bind_looks reading_looks
  intro _
  exact requireStopped_bind

theorem ensureVMNetwork_running {requestedNetwork : Option String} :
    Ends (ensureVMNetwork foundation env vmID requestedNetwork false)
      (fun _ reached => reached = registry)
      (fun _ reached => reached = registry) registry := by
  apply bind_looks reading_looks
  intro _
  apply bind_looks reading_looks
  intro _
  exact requireStopped_bind

theorem detach_running {networkName : String} {project : Option String} :
    Ends (detach env vmID networkName project false)
      (fun _ reached => reached = registry)
      (fun _ reached => reached = registry) registry := by
  apply bind_looks reading_looks
  intro _
  exact requireStopped_bind

end NetworkRegistry

end Vzctl
