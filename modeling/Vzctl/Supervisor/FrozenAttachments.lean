import Vzctl.Network.AttachmentFrame
import Vzctl.Supervisor.HelperBookkeeping

/-!
# The attachments of a running VM

A helper that has read the attachments of its VM holds the lock of the VM until
it ends, and `vmIsStopped` answers no while the lock is held.  The answer and
the write of the registry are two steps: a change that was answered before the
helper has read is still written afterwards.
-/

namespace Vzctl

open NetworkRegistry

namespace NetworkChange

variable {foundation : Foundation} {env : RegistryEnv}
  {registry : NetworkRegistry}

theorem perform_running (change : NetworkChange) :
    RegistryCall.perform foundation registry (env, change.call false) =
      registry := by
  cases change with
  | attach request =>
      have looks : Procedure.Ends
          ((NetworkChange.attach request).call false |>.procedure foundation
            env)
          (fun _ reached => reached = registry)
          (fun _ reached => reached = registry) registry :=
        bind_looks (attach_running rfl) fun _ => Procedure.Ends.of_pure rfl
      exact looks.reached
  | detach vmID networkName project =>
      have looks : Procedure.Ends (NetworkRegistry.detach env vmID
          networkName project false)
          (fun _ reached => reached = registry)
          (fun _ reached => reached = registry) registry :=
        detach_running
      exact looks.reached
  | ensure vmID requestedNetwork =>
      have looks : Procedure.Ends
          ((NetworkChange.ensure vmID requestedNetwork).call false
            |>.procedure foundation env)
          (fun _ reached => reached = registry)
          (fun _ reached => reached = registry) registry :=
        bind_looks ensureVMNetwork_running fun _ =>
          Procedure.Ends.of_pure rfl
      exact looks.reached

theorem perform_keepsOtherVMs (change : NetworkChange)
    (vmIsStopped : Bool) :
    KeepsOtherVMs change.vmID registry
      (RegistryCall.perform foundation registry
        (env, change.call vmIsStopped)) := by
  cases change with
  | attach request =>
      have framed : EndsFramed request.vmID registry
          ((NetworkChange.attach request).call vmIsStopped |>.procedure
            foundation env) registry :=
        EndsFramed.sequence attach_framed fun _ _ kept =>
          Procedure.Ends.of_pure kept
      exact framed.reached
  | detach vmID networkName project =>
      have framed : EndsFramed vmID registry
          (NetworkRegistry.detach env vmID networkName project vmIsStopped)
          registry := detach_framed
      exact framed.reached
  | ensure vmID requestedNetwork =>
      have framed : EndsFramed vmID registry
          ((NetworkChange.ensure vmID requestedNetwork).call vmIsStopped
            |>.procedure foundation env) registry :=
        EndsFramed.sequence ensureVMNetwork_framed fun _ _ kept =>
          Procedure.Ends.of_pure kept
      exact framed.reached

end NetworkChange

namespace SupervisorState

variable {lockFile : String → String} {foundation : Foundation}
  {env : Surroundings} {state source target : SupervisorState}
  {vmID other bundle : String} {process : Nat} {rows : List AttachmentRow}

theorem attachmentRows_of_keepsOtherVMs (isOther : vmID ≠ other)
    (kept : KeepsOtherVMs other source.registry target.registry) :
    target.attachmentRows vmID = source.attachmentRows vmID := by
  have amongOthers (registry : NetworkRegistry) :
      registry.database.attachmentTable.rows.filter (·.vmID = vmID) =
        (registry.database.otherRows other).filter (·.vmID = vmID) := by
    unfold NetworkDatabase.otherRows
    rw [List.filter_filter]
    apply List.filter_congr
    intro row _
    by_cases isVM : row.vmID = vmID
    · simp [isVM, isOther]
    · simp [isVM]
  unfold attachmentRows
  rw [amongOthers, amongOthers, kept]

/-! ## The invariant -/

/-- A running helper of the VM has read these attachments. -/
def Reads (state : SupervisorState) (vmID : String) (process : Nat)
    (rows : List AttachmentRow) : Prop :=
  ∃ helper, state.processes[process]? = some helper ∧
    helper.vmID = vmID ∧ helper.isRunning = true ∧
    helper.attachments = some rows

/-- A change of the VM was told that the VM is stopped and is to be written. -/
def Pending (state : SupervisorState) (vmID : String) : Prop :=
  ∃ handler change,
    state.handlers handler = some (.change change (.write true)) ∧
    change.vmID = vmID

structure Frozen (lockFile : String → String) (state : SupervisorState) :
    Prop where
  noPurge : ∀ handler vmID request point,
    state.handlers handler = some (.stop vmID request point) →
      request ≠ .purge ∧ point ≠ .detachAll
  locked : ∀ vmID process rows, state.Reads vmID process rows →
    state.locks (lockFile vmID) = some (.helper process)
  same : ∀ vmID process rows, state.Reads vmID process rows →
    state.attachmentRows vmID = rows
  settled : ∀ vmID process rows, state.Reads vmID process rows →
    ¬ state.Pending vmID

theorem frozen_started (registry : NetworkRegistry) :
    (started registry).Frozen lockFile := by
  have noReader : ∀ vmID process rows,
      ¬ (started registry).Reads vmID process rows := by
    rintro vmID process rows ⟨helper, known, _⟩
    simp [started] at known
  constructor
  · intro handler vmID request point serving
    cases serving
  · exact fun vmID process rows reads => (noReader _ _ _ reads).elim
  · exact fun vmID process rows reads => (noReader _ _ _ reads).elim
  · exact fun vmID process rows reads => (noReader _ _ _ reads).elim

theorem Frozen.of_kept (frozen : source.Frozen lockFile)
    (noPurge : ∀ handler vmID request point,
      target.handlers handler = some (.stop vmID request point) →
        request ≠ .purge ∧ point ≠ .detachAll)
    (reads : ∀ vmID process rows, target.Reads vmID process rows →
      source.Reads vmID process rows)
    (locks : ∀ vmID process rows, target.Reads vmID process rows →
      source.locks (lockFile vmID) = some (.helper process) →
        target.locks (lockFile vmID) = some (.helper process))
    (written : ∀ vmID process rows, source.Reads vmID process rows →
      target.attachmentRows vmID = source.attachmentRows vmID)
    (pending : ∀ vmID process rows, source.Reads vmID process rows →
      target.Pending vmID → source.Pending vmID) :
    target.Frozen lockFile where
  noPurge := noPurge
  locked vmID process rows now :=
    locks vmID process rows now
      (frozen.locked vmID process rows (reads vmID process rows now))
  same vmID process rows now := by
    have before := reads vmID process rows now
    rw [written vmID process rows before]
    exact frozen.same vmID process rows before
  settled vmID process rows now isPending := by
    have before := reads vmID process rows now
    exact frozen.settled vmID process rows before
      (pending vmID process rows before isPending)

/-- Only the bookkeeping of helpers changes. -/
structure Still (source target : SupervisorState) : Prop where
  handlers : target.handlers = source.handlers
  processes : target.processes = source.processes
  locks : target.locks = source.locks
  registry : target.registry = source.registry

theorem Frozen.of_still (frozen : source.Frozen lockFile)
    (still : Still source target) : target.Frozen lockFile := by
  apply frozen.of_kept
  · rw [still.handlers]
    exact frozen.noPurge
  · intro vmID process rows reads
    unfold Reads at reads
    rw [still.processes] at reads
    exact reads
  · rw [still.locks]
    exact fun _ _ _ _ held => held
  · intro vmID process rows _
    unfold attachmentRows
    rw [still.registry]
  · intro vmID process rows _ isPending
    unfold Pending at isPending
    rw [still.handlers] at isPending
    exact isPending

theorem Still.refl : Still state state :=
  ⟨rfl, rfl, rfl, rfl⟩

theorem still_report {record : HelperRecord} :
    Still state (state.report record) := by
  unfold report
  split
  · exact ⟨rfl, rfl, rfl, rfl⟩
  · exact .refl

theorem still_failStart {message : String} :
    Still state (state.failStart env vmID bundle process message) := by
  unfold failStart
  split
  · exact ⟨rfl, rfl, rfl, rfl⟩
  · exact .refl

theorem still_installProcess :
    Still state (state.installProcess env vmID bundle process) := by
  unfold installProcess
  dsimp only
  split
  · exact ⟨rfl, rfl, rfl, rfl⟩
  · exact ⟨rfl, rfl, rfl, rfl⟩

theorem still_helperTerminated {helper : HelperProcess} :
    Still state (state.helperTerminated env process helper) := by
  unfold helperTerminated
  split
  · dsimp only
    split
    · exact ⟨rfl, rfl, rfl, rfl⟩
    · split
      · exact ⟨rfl, rfl, rfl, rfl⟩
      · exact ⟨rfl, rfl, rfl, rfl⟩
  · exact .refl

/-! ## Processes and locks -/

theorem reads_of_update {change : HelperProcess → HelperProcess}
    {another : Nat}
    (keeps : ∀ helper, (change helper).isRunning = true →
      (change helper).vmID = helper.vmID ∧ helper.isRunning = true ∧
        (change helper).attachments = helper.attachments)
    (now : (state.updateProcess another change).Reads vmID process rows) :
    state.Reads vmID process rows := by
  obtain ⟨helper, known, sameVM, running, read⟩ := now
  simp only [updateProcess, List.getElem?_modify, Option.map_eq_map,
    Option.map_eq_some_iff] at known
  obtain ⟨before, found, rfl⟩ := known
  by_cases isAnother : another = process
  · rw [if_pos isAnother] at sameVM running read
    obtain ⟨vmKept, wasRunning, readKept⟩ := keeps before running
    exact ⟨before, found, vmKept.symm.trans sameVM, wasRunning,
      readKept.symm.trans read⟩
  · rw [if_neg isAnother] at sameVM running read
    exact ⟨before, found, sameVM, running, read⟩

theorem reads_of_spawn {pid : Nat}
    (now : (state.spawnProcess other bundle pid).Reads vmID process rows) :
    state.Reads vmID process rows := by
  obtain ⟨helper, known, sameVM, running, read⟩ := now
  refine ⟨helper, ?_, sameVM, running, read⟩
  simp only [spawnProcess] at known
  by_cases isOld : process < state.processes.length
  · rw [List.getElem?_append_left isOld] at known
    exact known
  · rw [List.getElem?_append_right (Nat.le_of_not_lt isOld)] at known
    have isNew := List.mem_of_getElem? known
    rw [List.mem_singleton.mp isNew] at read
    cases read

theorem Frozen.updateProcess {change : HelperProcess → HelperProcess}
    (frozen : state.Frozen lockFile)
    (keeps : ∀ helper, (change helper).isRunning = true →
      (change helper).vmID = helper.vmID ∧ helper.isRunning = true ∧
        (change helper).attachments = helper.attachments) :
    (state.updateProcess process change).Frozen lockFile := by
  refine frozen.of_kept frozen.noPurge ?_ ?_ ?_ ?_
  · exact fun _ _ _ now => reads_of_update keeps now
  · exact fun _ _ _ _ held => held
  · exact fun _ _ _ _ => rfl
  · exact fun _ _ _ _ isPending => isPending

theorem Frozen.takeLock {name : String} {holder : LockHolder}
    (frozen : state.Frozen lockFile) (isFree : state.locks name = none) :
    { state with
      locks := Function.update state.locks name (some holder) }.Frozen
        lockFile := by
  refine frozen.of_kept frozen.noPurge ?_ ?_ ?_ ?_
  · exact fun _ _ _ now => now
  · intro vmID process rows _ held
    have isOther : lockFile vmID ≠ name := by
      rintro rfl
      rw [isFree] at held
      cases held
    simp only [Function.update_of_ne isOther]
    exact held
  · exact fun _ _ _ _ => rfl
  · exact fun _ _ _ _ isPending => isPending

theorem Frozen.dropLock {name : String} {pid : Nat}
    (frozen : state.Frozen lockFile)
    (foreign : state.locks name = some (.other pid)) :
    { state with
      locks := Function.update state.locks name none }.Frozen lockFile := by
  refine frozen.of_kept frozen.noPurge ?_ ?_ ?_ ?_
  · exact fun _ _ _ now => now
  · intro vmID process rows _ held
    have isOther : lockFile vmID ≠ name := by
      rintro rfl
      rw [foreign] at held
      cases held
    simp only [Function.update_of_ne isOther]
    exact held
  · exact fun _ _ _ _ => rfl
  · exact fun _ _ _ _ isPending => isPending

theorem Frozen.claim (frozen : state.Frozen lockFile) :
    (state.claim lockFile process).Frozen lockFile := by
  unfold SupervisorState.claim
  split
  · exact frozen
  · split
    · rename_i free
      exact frozen.takeLock free.2
    · exact frozen

theorem Frozen.exit {status : Int} {reason : TerminationReason}
    (frozen : state.Frozen lockFile) :
    (state.exit process status reason).Frozen lockFile := by
  unfold SupervisorState.exit
  split
  · have ended : ∀ helper : HelperProcess,
        ({ helper with
            isRunning := false
            terminationStatus := status
            terminationReason := reason } : HelperProcess).isRunning =
          true → False := by
      intro helper running
      cases running
    refine frozen.of_kept frozen.noPurge ?_ ?_ ?_ ?_
    · intro vmID another rows now
      exact reads_of_update (fun helper running =>
        (ended helper running).elim) now
    · intro vmID another rows now held
      have isOther : another ≠ process := by
        rintro rfl
        obtain ⟨helper, known, _, running, _⟩ := now
        simp only [SupervisorState.updateProcess, List.getElem?_modify,
          Option.map_eq_map, Option.map_eq_some_iff] at known
        obtain ⟨before, _, rfl⟩ := known
        simp at running
      dsimp only
      rw [held, if_neg]
      intro sameHolder
      cases sameHolder
      exact isOther rfl
    · exact fun _ _ _ _ => rfl
    · exact fun _ _ _ _ isPending => isPending
  · exact frozen

theorem Frozen.terminated (frozen : state.Frozen lockFile) :
    (state.terminated env process).Frozen lockFile := by
  unfold SupervisorState.terminated
  split
  · exact frozen
  · split
    · apply Frozen.of_still _ still_helperTerminated
      exact frozen.updateProcess fun helper running => ⟨rfl, running, rfl⟩
    · exact frozen

theorem Frozen.readNetworks (frozen : state.Frozen lockFile)
    (settled : ∀ helper, state.processes[process]? = some helper →
      ¬ state.Pending helper.vmID) :
    (state.readNetworks lockFile process).Frozen lockFile := by
  unfold SupervisorState.readNetworks
  split
  · exact frozen
  · rename_i helper known
    split
    · rename_i reading
      obtain ⟨_, _, holds⟩ := reading
      have readers : ∀ vmID another rows,
          (state.updateProcess process fun helper =>
            { helper with
              attachments := some (state.attachmentRows helper.vmID)
              }).Reads vmID another rows →
          state.Reads vmID another rows ∨
            (another = process ∧ vmID = helper.vmID ∧
              rows = state.attachmentRows vmID) := by
        rintro vmID another rows ⟨after, found, sameVM, running, read⟩
        simp only [SupervisorState.updateProcess, List.getElem?_modify,
          Option.map_eq_map, Option.map_eq_some_iff] at found
        obtain ⟨before, foundBefore, rfl⟩ := found
        by_cases isSame : process = another
        · subst isSame
          rw [known] at foundBefore
          cases foundBefore
          rw [if_pos rfl] at sameVM read
          cases read
          cases sameVM
          exact .inr ⟨rfl, rfl, rfl⟩
        · rw [if_neg isSame] at sameVM running read
          exact .inl ⟨before, foundBefore, sameVM, running, read⟩
      constructor
      · exact frozen.noPurge
      · intro vmID another rows now
        rcases readers vmID another rows now
          with before | ⟨rfl, rfl, rfl⟩
        · exact frozen.locked vmID another rows before
        · exact holds
      · intro vmID another rows now
        rcases readers vmID another rows now
          with before | ⟨rfl, rfl, rfl⟩
        · exact frozen.same vmID another rows before
        · rfl
      · intro vmID another rows now
        rcases readers vmID another rows now
          with before | ⟨rfl, rfl, rfl⟩
        · exact frozen.settled vmID another rows before
        · exact settled helper known
    · exact frozen

/-! ## Handlers -/

theorem Frozen.setHandler {handler : Nat} {next : Option Handler}
    (frozen : state.Frozen lockFile)
    (noPurge : ∀ vmID request point,
      next = some (.stop vmID request point) →
        request ≠ .purge ∧ point ≠ .detachAll)
    (unread : ∀ change, next = some (.change change (.write true)) →
      ∀ process rows, ¬ state.Reads change.vmID process rows) :
    (state.setHandler handler next).Frozen lockFile := by
  apply frozen.of_kept
  · intro another vmID request point serving
    rw [handlers_setHandler] at serving
    split at serving
    · exact noPurge vmID request point serving
    · exact frozen.noPurge another vmID request point serving
  · exact fun _ _ _ now => now
  · exact fun _ _ _ _ held => held
  · exact fun _ _ _ _ => rfl
  · rintro vmID process rows reads ⟨another, change, serving, rfl⟩
    rw [handlers_setHandler] at serving
    split at serving
    · exact (unread change serving process rows reads).elim
    · exact ⟨another, change, serving, rfl⟩

theorem frozen_startStep {point : StartPoint}
    (frozen : state.Frozen lockFile) :
    (state.startStep lockFile env vmID bundle point).1.Frozen
      lockFile := by
  by_cases looks : LooksAt point
  · rw [startStep_looks looks]
    exact frozen
  · cases point with
    | begin =>
        rcases startStep_begin lockFile env state vmID bundle with
          ⟨_, stays⟩ | ⟨_, enters⟩
        · rw [stays]
          exact frozen
        · rw [enters]
          exact frozen.of_still ⟨rfl, rfl, rfl, rfl⟩
    | clear => exact frozen.of_still ⟨rfl, rfl, rfl, rfl⟩
    | spawn =>
        simp only [startStep]
        split
        · exact frozen
        · refine frozen.of_kept frozen.noPurge ?_ ?_ ?_ ?_
          · exact fun _ _ _ now => reads_of_spawn now
          · exact fun _ _ _ _ held => held
          · exact fun _ _ _ _ => rfl
          · exact fun _ _ _ _ isPending => isPending
    | install process => exact frozen.of_still still_installProcess
    | recordFailure process message => exact frozen.of_still still_failStart
    | finish => exact frozen.of_still ⟨rfl, rfl, rfl, rfl⟩
    | _ => exact absurd trivial looks

theorem frozen_stopStep {force : Bool} {point : StopPoint}
    (notDetaching : point ≠ .detachAll) (frozen : state.Frozen lockFile) :
    (state.stopStep foundation env vmID (.stop force) point).1.Frozen
        lockFile ∧
      (state.stopStep foundation env vmID (.stop force) point).2 ≠
        some .detachAll := by
  cases point with
  | readRecord =>
      simp only [stopStep]
      split
      · exact ⟨frozen, by simp⟩
      · exact ⟨frozen, by simp⟩
  | expect record =>
      exact ⟨frozen.of_still ⟨rfl, rfl, rfl, rfl⟩, by simp [stopStep]⟩
  | kill record =>
      simp only [stopStep]
      split
      · exact ⟨frozen, by simp⟩
      · exact ⟨frozen, by simp⟩
      · exact ⟨frozen, by simp⟩
      · refine ⟨frozen, ?_⟩
        dsimp only
        split
        · simp
        · simp
  | retract =>
      exact ⟨frozen.of_still ⟨rfl, rfl, rfl, rfl⟩, by simp [stopStep]⟩
  | checkRunning =>
      simp only [stopStep]
      split
      · exact ⟨frozen, by simp⟩
      · exact ⟨frozen, by simp⟩
  | readProcess =>
      simp only [stopStep]
      split
      · exact ⟨frozen, by simp⟩
      · exact ⟨frozen, by simp⟩
  | expectProcess process =>
      exact ⟨frozen.of_still ⟨rfl, rfl, rfl, rfl⟩, by simp [stopStep]⟩
  | killProcess process =>
      cases force with
      | false => exact ⟨frozen, by simp [stopStep]⟩
      | true => exact ⟨frozen, by simp [stopStep]⟩
  | drop =>
      exact ⟨frozen.of_still ⟨rfl, rfl, rfl, rfl⟩, by simp [stopStep]⟩
  | detachAll => exact absurd rfl notDetaching

theorem unread_of_changeStep {change : NetworkChange} {point : ChangePoint}
    (frozen : state.Frozen lockFile)
    (told : (state.changeStep lockFile foundation env change point).2 =
      some (.write true)) :
    ¬ state.Reads change.vmID process rows := by
  intro reads
  have held := frozen.locked _ _ _ reads
  cases point with
  | reportsRunning =>
      simp only [changeStep] at told
      split at told
      · cases told
      · cases told
  | probeLock =>
      simp [changeStep, held] at told
  | write vmIsStopped => cases told

theorem frozen_changeStep {handler : Nat} {change : NetworkChange}
    {point : ChangePoint}
    (serving : state.handlers handler = some (.change change point))
    (frozen : state.Frozen lockFile) :
    (state.changeStep lockFile foundation env change point).1.Frozen
      lockFile := by
  cases point with
  | reportsRunning =>
      simp only [changeStep]
      split
      · exact frozen
      · exact frozen
  | probeLock => exact frozen
  | write vmIsStopped =>
      refine frozen.of_kept frozen.noPurge ?_ ?_ ?_ ?_
      · exact fun _ _ _ now => now
      · exact fun _ _ _ _ held => held
      · intro vmID process rows reads
        cases vmIsStopped with
        | false =>
            simp only [attachmentRows, changeStep,
              NetworkChange.perform_running]
        | true =>
            have isOther : vmID ≠ change.vmID := by
              rintro rfl
              exact frozen.settled _ _ _ reads
                ⟨handler, change, serving, rfl⟩
            exact attachmentRows_of_keepsOtherVMs isOther
              (change.perform_keepsOtherVMs true)
      · exact fun _ _ _ _ isPending => isPending

theorem frozen_serve {handler : Nat} (frozen : state.Frozen lockFile) :
    (state.serve lockFile foundation env handler).Frozen lockFile := by
  unfold serve
  split
  · exact frozen
  · rename_i current serving
    cases current with
    | start vmID bundle point =>
        apply (frozen_startStep frozen).setHandler
        · intro other request point' isStop
          obtain ⟨_, _, sameHandler⟩ := Option.map_eq_some_iff.mp isStop
          cases sameHandler
        · intro change isChange
          obtain ⟨_, _, sameHandler⟩ := Option.map_eq_some_iff.mp isChange
          cases sameHandler
    | stop vmID request point =>
        obtain ⟨notPurge, notDetaching⟩ :=
          frozen.noPurge handler vmID request point serving
        cases request with
        | purge => exact absurd rfl notPurge
        | stop force =>
            have stepped : (state.stopStep foundation env vmID (.stop force)
                point).1.Frozen lockFile ∧ _ :=
              frozen_stopStep notDetaching frozen
            apply stepped.1.setHandler
            · intro other request' point' isStop
              obtain ⟨next, goesOn, sameHandler⟩ :=
                Option.map_eq_some_iff.mp isStop
              cases sameHandler
              refine ⟨by simp, ?_⟩
              rintro rfl
              exact stepped.2 goesOn
            · intro change isChange
              obtain ⟨_, _, sameHandler⟩ :=
                Option.map_eq_some_iff.mp isChange
              cases sameHandler
    | change change point =>
        apply (frozen_changeStep serving frozen).setHandler
        · intro other request point' isStop
          obtain ⟨_, _, sameHandler⟩ := Option.map_eq_some_iff.mp isStop
          cases sameHandler
        · intro another isChange process rows reads
          obtain ⟨next, told, sameHandler⟩ :=
            Option.map_eq_some_iff.mp isChange
          cases sameHandler
          have before : state.Reads change.vmID process rows := by
            cases point with
            | reportsRunning =>
                simp only [changeStep] at reads
                split at reads
                · exact reads
                · exact reads
            | probeLock => exact reads
            | write vmIsStopped => cases told
          exact unread_of_changeStep frozen told before

/-- No helper reads while a change of its VM, told that the VM is stopped, is
still to be written. -/
def ReadsSettled (state : SupervisorState) : SupervisorEvent → Prop
  | .networks process => ∀ helper,
      state.processes[process]? = some helper →
        ¬ state.Pending helper.vmID
  | _ => True

/-- Every event but a `vm.purge`. -/
def WithoutPurge : SupervisorEvent → Prop
  | .request _ (.purge _) => False
  | _ => True

theorem frozen_perform {event : SupervisorEvent}
    (withoutPurge : WithoutPurge event)
    (settled : state.ReadsSettled event)
    (frozen : state.Frozen lockFile) :
    (state.perform lockFile foundation event).Frozen lockFile := by
  cases event with
  | request handler request =>
      simp only [perform]
      split
      · exact frozen
      · apply frozen.setHandler
        · intro vmID request' point isStop
          cases request with
          | start vmID bundle => cases isStop
          | stop vmID force =>
              cases isStop
              exact ⟨by simp, by simp⟩
          | purge vmID => exact withoutPurge.elim
          | change change => cases isStop
        · intro change isChange
          cases request with
          | start vmID bundle => cases isChange
          | stop vmID force => cases isChange
          | purge vmID => exact withoutPurge.elim
          | change change => cases isChange
  | serve handler env => exact frozen_serve frozen
  | report record => exact frozen.of_still still_report
  | claim process => exact frozen.claim
  | networks process => exact frozen.readNetworks settled
  | exit process status reason => exact frozen.exit
  | terminated process env => exact frozen.terminated
  | lockTaken name pid =>
      simp only [perform]
      split
      · rename_i isFree
        exact frozen.takeLock isFree
      · exact frozen
  | lockDropped name =>
      simp only [perform]
      split
      · rename_i pid foreign
        exact frozen.dropLock foreign
      · exact frozen

end SupervisorState

/-! ## Results -/

/-- In every run in which a helper reads only while no change of its VM is
between its check and its write, the attachments of a VM are those its helper
has read, from then on until the helper ends. -/
theorem frozen_attachments_of_runs (lockFile : String → String)
    (foundation : Foundation) {registry : NetworkRegistry}
    {state : SupervisorState}
    (run : Transitions.Runs
      (Transitions.guarded
        (fun between event => SupervisorState.WithoutPurge event ∧
          between.ReadsSettled event)
        (supervisorStep lockFile foundation))
      (.started registry) state) :
    ∀ (process : Nat) (helper : HelperProcess) (rows : List AttachmentRow),
      state.processes[process]? = some helper →
      helper.isRunning = true → helper.attachments = some rows →
        state.attachmentRows helper.vmID = rows := by
  have frozen : state.Frozen lockFile := by
    apply Transitions.invariant_of_runs
      (SupervisorState.Frozen lockFile) _
      (SupervisorState.frozen_started registry) run
    rintro source event _ before ⟨⟨withoutPurge, settled⟩, rfl⟩
    exact SupervisorState.frozen_perform withoutPurge settled before
  intro process helper rows known running read
  exact frozen.same helper.vmID process rows
    ⟨helper, known, rfl, running, read⟩

/-! ## A change that was checked before the start -/

/-- A registry with the network `lan`. -/
def lanRegistry : NetworkRegistry :=
  RegistryCall.perform .ascii .fresh
    ({}, .create { name := "lan", cidr := "10.80.0.0/24" })

/-- A `net.attach` of `web` that has seen the VM stopped. -/
def checkedAttach (handler : Nat) : List SupervisorEvent :=
  [.request handler (.change (.attach {
      vmID := "web"
      networkName := "lan"
      ip := "10.80.0.10" })),
    .serve handler {}, .serve handler {}]

/-- A `vm.start` of `web` whose helper claims its lock. -/
def startedHelper (handler : Nat) : List SupervisorEvent :=
  .request handler (.start "web" "/web") ::
    List.replicate 8 (.serve handler {}) ++ [.claim 0]

/-- The attachment is written before the helper of the VM claims its lock. -/
def settledEvents : List SupervisorEvent :=
  checkedAttach 0 ++ [.serve 0 {}] ++ startedHelper 1

/-- The helper reads, and then the attachment is written. -/
def racingEvents : List SupervisorEvent :=
  checkedAttach 0 ++ startedHelper 1 ++ [.networks 0, .serve 0 {}]

def lanSupervisorAfter (events : List SupervisorEvent) : SupervisorState :=
  events.foldl (SupervisorState.perform id .ascii) (.started lanRegistry)

namespace SupervisorState

variable {lockFile : String → String} {foundation : Foundation}
  {state : SupervisorState} {handler : Nat}

theorem handlers_perform {event : SupervisorEvent}
    (idle : state.handlers handler = none)
    (unrequested : ∀ request, event ≠ .request handler request) :
    (state.perform lockFile foundation event).handlers handler = none := by
  cases event with
  | request another request =>
      simp only [perform]
      split
      · exact idle
      · have isOther : handler ≠ another := by
          rintro rfl
          exact unrequested request rfl
        rw [handlers_setHandler, if_neg isOther]
        exact idle
  | serve another env =>
      simp only [perform, serve]
      split
      · exact idle
      · rename_i current serving
        have isOther : handler ≠ another := by
          rintro rfl
          rw [idle] at serving
          cases serving
        rw [handlers_setHandler, if_neg isOther]
        cases current with
        | start vmID bundle point =>
            exact (congrFun startStep_handlers handler).trans idle
        | stop vmID request point =>
            exact (congrFun quiet_stopStep.handlers handler).trans idle
        | change change point =>
            exact (congrFun quiet_changeStep.handlers handler).trans idle
  | report record => exact (congrFun quiet_report.handlers handler).trans idle
  | claim process => exact (congrFun quiet_claim.handlers handler).trans idle
  | networks process =>
      exact (congrFun quiet_readNetworks.handlers handler).trans idle
  | exit process status reason =>
      exact (congrFun quiet_exit.handlers handler).trans idle
  | terminated process env =>
      exact (congrFun quiet_terminated.handlers handler).trans idle
  | lockTaken name pid =>
      simp only [perform]
      split
      · exact idle
      · exact idle
  | lockDropped name =>
      simp only [perform]
      split
      · exact idle
      · exact idle

theorem handlers_foldl {events : List SupervisorEvent}
    (idle : state.handlers handler = none)
    (unrequested : ∀ event ∈ events, ∀ request,
      event ≠ .request handler request) :
    (events.foldl (perform lockFile foundation) state).handlers handler =
      none := by
  induction events generalizing state with
  | nil => exact idle
  | cons event rest ih =>
      apply ih
      · exact handlers_perform idle (unrequested event List.mem_cons_self)
      · intro another member
        exact unrequested another (List.mem_cons_of_mem event member)

end SupervisorState

theorem settled_supervisor_settles (vmID : String) :
    ¬ (lanSupervisorAfter settledEvents).Pending vmID := by
  rintro ⟨handler, change, serving, _⟩
  by_cases isAttach : handler = 0
  · subst isAttach
    have served : (lanSupervisorAfter settledEvents).handlers 0 = none := by
      rfl
    rw [served] at serving
    cases serving
  · by_cases isStart : handler = 1
    · subst isStart
      have starting : (lanSupervisorAfter settledEvents).handlers 1 =
          some (.start "web" "/web" (.awaitClaim 0)) := by
        rfl
      rw [starting] at serving
      cases serving
    · have idle : (lanSupervisorAfter settledEvents).handlers handler =
          none := by
        apply SupervisorState.handlers_foldl rfl
        simp [settledEvents, checkedAttach, startedHelper, List.replicate,
          Ne.symm isAttach, Ne.symm isStart]
      rw [idle] at serving
      cases serving

/-- The helper has read once the attachment was written. -/
def readSupervisor : SupervisorState :=
  (lanSupervisorAfter settledEvents).perform id .ascii (.networks 0)

theorem readSupervisor_reachable :
    Transitions.Runs
      (Transitions.guarded
        (fun between event => SupervisorState.WithoutPurge event ∧
          between.ReadsSettled event)
        (supervisorStep id .ascii))
      (.started lanRegistry) readSupervisor := by
  have written : Transitions.Runs
      (Transitions.guarded
        (fun between event => SupervisorState.WithoutPurge event ∧
          between.ReadsSettled event)
        (supervisorStep id .ascii))
      (.started lanRegistry) (lanSupervisorAfter settledEvents) := by
    apply Transitions.Runs.guarded_foldl
    simp [settledEvents, checkedAttach, startedHelper, Transitions.Along,
      SupervisorState.WithoutPurge, SupervisorState.ReadsSettled,
      List.replicate]
  have settled : (lanSupervisorAfter settledEvents).ReadsSettled
      (.networks 0) :=
    fun helper _ => settled_supervisor_settles helper.vmID
  have allowed : SupervisorState.WithoutPurge (.networks 0) := trivial
  exact written.snoc ⟨⟨allowed, settled⟩, rfl⟩

/-- The attachment of `web` to `lan`. -/
def webRow : AttachmentRow where
  vmID := "web"
  networkID := "lan"
  ip := "10.80.0.10"
  labels := []
  project := none
  stack := none
  updatedAt := ""

/-- The helper of `web` once it has read. -/
def webHelper : HelperProcess where
  vmID := "web"
  bundle := "/web"
  pid := 1
  attachments := some [webRow]

theorem frozen_attachments_of_settled :
    readSupervisor.attachmentRows "web" = [webRow] :=
  frozen_attachments_of_runs id .ascii readSupervisor_reachable 0 webHelper
    [webRow] (by decide +kernel) rfl rfl

/-- A `net.attach` that has seen the VM stopped is written after the helper
has read. -/
theorem checked_attach_races_start :
    Transitions.Runs
      (Transitions.guarded
        (fun _ event => SupervisorState.WithoutPurge event)
        (supervisorStep id .ascii))
      (.started lanRegistry) (lanSupervisorAfter racingEvents) ∧
    (lanSupervisorAfter racingEvents).processes.map
        (fun helper => (helper.vmID, helper.isRunning, helper.attachments)) =
      [("web", true, some [])] ∧
    ((lanSupervisorAfter racingEvents).attachmentRows "web").map (·.ip) =
      ["10.80.0.10"] := by
  refine ⟨?_, by rfl, by decide +kernel⟩
  apply Transitions.Runs.guarded_foldl
  simp [racingEvents, checkedAttach, startedHelper, Transitions.Along,
    SupervisorState.WithoutPurge, List.replicate]

end Vzctl
