import Vzctl.Supervisor.HelperBookkeeping

/-!
# Generations of helper processes

A delayed report or termination callback of an earlier helper never touches the
bookkeeping of the helper that `vm.start` has installed since.
-/

namespace Vzctl

namespace SupervisorState

variable {lockFile : String → String} {foundation : Foundation}
  {env : Surroundings} {state : SupervisorState}
  {vmID other bundle : String} {process : Nat}

/-! ## The installed process -/

/-- The step of a `vm.stop` or a `vm.purge` that drops the bookkeeping of a
VM. -/
def DropsEntry (state : SupervisorState) (vmID : String) :
    SupervisorEvent → Prop
  | .serve handler _ => ∃ request,
      state.handlers handler = some (.stop vmID request .drop)
  | _ => False

theorem helperProcesses_dropEntry (isOther : other ≠ vmID) :
    (state.dropEntry vmID).helperProcesses other =
      state.helperProcesses other := by
  simp [dropEntry, setRecord, setProcess, isOther]

theorem helperProcesses_failStart {message : String} :
    (state.failStart env vmID bundle process message).helperProcesses =
      state.helperProcesses := by
  unfold failStart
  split
  · rfl
  · rfl

theorem helperProcesses_startStep {point : StartPoint}
    (isOther : other = vmID →
      point ≠ .clear ∧ ∀ process, point ≠ .install process) :
    (state.startStep lockFile env vmID bundle point).1.helperProcesses
      other = state.helperProcesses other := by
  by_cases looks : LooksAt point
  · rw [startStep_looks looks]
  · cases point with
    | begin =>
        rcases startStep_begin lockFile env state vmID bundle with
          ⟨_, stays⟩ | ⟨_, enters⟩
        · rw [stays]
        · rw [enters]
    | clear => exact helperProcesses_dropEntry fun isVM => (isOther isVM).1 rfl
    | spawn =>
        simp only [startStep]
        split
        · rfl
        · rfl
    | install process =>
        have differs : other ≠ vmID := fun isVM =>
          (isOther isVM).2 process rfl
        simp only [startStep]
        rw [installProcess_helperProcesses,
          Function.update_of_ne differs]
    | recordFailure process message =>
        simp only [startStep]
        rw [helperProcesses_failStart]
    | finish => rfl
    | _ => exact absurd trivial looks

theorem helperProcesses_stopStep {request : StopRequest}
    {point : StopPoint} (isOther : other = vmID → point ≠ .drop) :
    (state.stopStep foundation env vmID request point).1.helperProcesses
      other = state.helperProcesses other := by
  cases point with
  | readRecord =>
      simp only [stopStep]
      split
      · rfl
      · rfl
  | kill record =>
      simp only [stopStep]
      split
      · rfl
      · rfl
      · rfl
      · rfl
  | checkRunning =>
      simp only [stopStep]
      split
      · rfl
      · rfl
  | readProcess =>
      simp only [stopStep]
      split
      · rfl
      · rfl
  | killProcess process =>
      simp only [stopStep]
      split
      · rfl
      · rfl
  | drop =>
      have differs : other ≠ vmID := fun isVM => isOther isVM rfl
      simp only [stopStep]
      split
      · exact helperProcesses_dropEntry differs
      · exact helperProcesses_dropEntry differs
  | expect record => rfl
  | retract => rfl
  | expectProcess process => rfl
  | detachAll => rfl

theorem helperProcesses_changeStep {change : NetworkChange}
    {point : ChangePoint} :
    (state.changeStep lockFile foundation env change
      point).1.helperProcesses = state.helperProcesses := by
  cases point with
  | reportsRunning =>
      simp only [changeStep]
      split
      · rfl
      · rfl
  | probeLock => rfl
  | write vmIsStopped => rfl

theorem point_of_running {point : StartPoint}
    (holds : state.Holds vmID point)
    (installed : state.helperProcesses vmID = some process)
    (running : state.isRunning process = true) :
    point ≠ .clear ∧ ∀ another, point ≠ .install another := by
  constructor
  · rintro rfl
    obtain ⟨helper, known, ended⟩ := holds process installed
    simp [isRunning, known, ended] at running
  · rintro another rfl
    have noProcess := AtMost.none_iff.mp holds.1
    rw [installed] at noProcess
    cases noProcess

theorem helperProcesses_serve {handler : Nat} (fenced : state.Fenced)
    (installed : state.helperProcesses vmID = some process)
    (running : state.isRunning process = true)
    (keeps : ¬ state.DropsEntry vmID (.serve handler env)) :
    (state.serve lockFile foundation env handler).helperProcesses vmID =
      state.helperProcesses vmID := by
  unfold serve
  split
  · rfl
  · rename_i current serving
    cases current with
    | start startedVM bundle point =>
        apply helperProcesses_startStep
        rintro rfl
        exact point_of_running (fenced.points _ _ _ _ serving) installed
          running
    | stop stoppedVM request point =>
        apply helperProcesses_stopStep
        rintro rfl rfl
        exact keeps ⟨request, serving⟩
    | change change point =>
        change (state.changeStep lockFile foundation env change
          point).1.helperProcesses vmID = _
        rw [helperProcesses_changeStep]

/-! ## Callbacks and reports -/

theorem entry_helperTerminated {helper : HelperProcess}
    (isOther : ¬ (helper.vmID = vmID ∧
      state.helperProcesses vmID = some process)) :
    (state.helperTerminated env process helper).entry vmID =
      state.entry vmID := by
  unfold helperTerminated
  split
  · rename_i isCurrent
    have differs : vmID ≠ helper.vmID := by
      intro isVM
      apply isOther
      refine ⟨isVM.symm, ?_⟩
      rw [isVM]
      simpa [SupervisorState.isCurrent] using isCurrent
    have removed (record : Option HelperRecord) :
        (((state.setProcess helper.vmID none).retractStop
          helper.vmID).setRecord helper.vmID record).entry vmID =
            state.entry vmID := by
      simp [entry, setRecord, setProcess, retractStop, differs]
    dsimp only
    split
    · exact removed _
    · split
      · simp [entry, setProcess, retractStop, differs]
      · exact removed _
  · rfl

theorem entry_terminated
    (isOther : state.helperProcesses vmID ≠ some process) :
    (state.terminated env process).entry vmID = state.entry vmID := by
  unfold terminated
  split
  · rfl
  · split
    · rw [entry_helperTerminated]
      · rfl
      · rintro ⟨_, installed⟩
        exact isOther installed
    · rfl

theorem entry_setRecord {record : Option HelperRecord}
    (isOther : vmID ≠ other) :
    (state.setRecord other record).entry vmID = state.entry vmID := by
  unfold entry
  rw [helpers_setRecord, if_neg isOther]
  rfl

theorem entry_report_of_installed {record : HelperRecord}
    (installed : state.helperProcesses vmID = some process)
    (isOther : record.pid ≠ state.processIdentifier process) :
    (state.report record).entry vmID = state.entry vmID := by
  unfold report
  split
  · rename_i accepted
    by_cases isVM : vmID = record.vmID
    · subst isVM
      simp only [accepts, installed, Option.all_some, Bool.and_eq_true,
        decide_eq_true_eq] at accepted
      exact absurd accepted.1.symm isOther
    · exact entry_setRecord isVM
  · rfl

theorem entry_report_of_none {record : HelperRecord}
    (isVM : record.vmID = vmID)
    (noProcess : state.helperProcesses vmID = none) :
    (state.report record).entry vmID =
      if (state.helpers vmID).all (·.pid = record.pid) then
        (some record, none, decide (vmID ∈ state.expectedHelperStops))
      else
        state.entry vmID := by
  subst isVM
  unfold report
  have decides : state.accepts record =
      (state.helpers record.vmID).all (·.pid = record.pid) := by
    simp [accepts, noProcess]
  rw [decides]
  split
  · unfold entry
    rw [helpers_setRecord, if_pos rfl]
    change (some record, state.helperProcesses record.vmID, _) = _
    rw [noProcess]
    rfl
  · rfl

/-- While a process runs and no `vm.stop` or `vm.purge` drops it, it stays
installed. -/
theorem helperProcesses_perform {event : SupervisorEvent}
    (fenced : state.Fenced)
    (installed : state.helperProcesses vmID = some process)
    (running : state.isRunning process = true)
    (keeps : ¬ state.DropsEntry vmID event) :
    (state.perform lockFile foundation event).helperProcesses vmID =
      some process := by
  cases event with
  | request handler request =>
      simp only [perform]
      split
      · exact installed
      · exact installed
  | serve handler env =>
      exact (helperProcesses_serve fenced installed running keeps).trans
        installed
  | report record =>
      simp only [perform, report]
      split
      · exact installed
      · exact installed
  | claim process =>
      simp only [perform, claim]
      split
      · exact installed
      · split
        · exact installed
        · exact installed
  | networks process =>
      simp only [perform, readNetworks]
      split
      · exact installed
      · split
        · exact installed
        · exact installed
  | exit process status reason =>
      simp only [perform, exit]
      split
      · exact installed
      · exact installed
  | terminated another env =>
      by_cases isSame : another = process
      · subst isSame
        simp only [perform, terminated]
        split
        · exact installed
        · rename_i helper known
          rw [if_neg]
          · exact installed
          · rintro ⟨ended, _⟩
            simp [isRunning, known, ended] at running
      · have unchanged : (state.terminated env another).entry vmID =
            state.entry vmID := by
          apply entry_terminated
          rw [installed]
          exact fun same => isSame (Option.some.inj same).symm
        exact (congrArg (·.2.1) unchanged).trans installed
  | lockTaken name pid =>
      simp only [perform]
      split
      · exact installed
      · exact installed
  | lockDropped name =>
      simp only [perform]
      split
      · exact installed
      · exact installed

end SupervisorState

/-! ## Results -/

/-- A report that carries another pid, or the termination callback of another
process. -/
def IsForeign (state : SupervisorState) (process : Nat) :
    SupervisorEvent → Prop
  | .report record => record.pid ≠ state.processIdentifier process
  | .terminated another _ => another ≠ process
  | _ => False

/-- From the moment `vm.start` installs a process until it ends or the
bookkeeping of its VM is dropped by `vm.stop` or `vm.purge`, the process stays
installed, the record carries its pid, and no foreign report or callback
changes the entry.  Without an installed process, callbacks change nothing, and
a report is taken over when no record is left, and otherwise only if it carries
the pid of the record. -/
theorem generations_fenced_of_runs (lockFile : String → String)
    (foundation : Foundation) {registry : NetworkRegistry}
    {state : SupervisorState} (vmID : String)
    (run : Transitions.Runs (supervisorStep lockFile foundation)
      (.started registry) state) :
    (∀ handler bundle process env reached,
      state.handlers handler =
        some (.start vmID bundle (.install process)) →
      Transitions.Runs
        (Transitions.guarded (fun between event =>
            between.isRunning process = true ∧
              ¬ between.DropsEntry vmID event)
          (supervisorStep lockFile foundation))
        (state.perform lockFile foundation (.serve handler env)) reached →
      reached.helperProcesses vmID = some process ∧
      (reached.helpers vmID).map (·.pid) =
        some (reached.processIdentifier process) ∧
      ∀ event, IsForeign reached process event →
        (reached.perform lockFile foundation event).entry vmID =
          reached.entry vmID) ∧
    (state.helperProcesses vmID = none →
      (∀ process env,
        (state.perform lockFile foundation
          (.terminated process env)).entry vmID = state.entry vmID) ∧
      ∀ record : HelperRecord, record.vmID = vmID →
        (state.perform lockFile foundation (.report record)).entry vmID =
          if (state.helpers vmID).all (·.pid = record.pid) then
            (some record, none, decide (vmID ∈ state.expectedHelperStops))
          else
            state.entry vmID) := by
  have fenced := SupervisorState.fenced_of_runs run
  constructor
  · intro handler bundle process env reached serving window
    have startFenced : (state.perform lockFile foundation
        (.serve handler env)).Fenced :=
      SupervisorState.fenced_perform fenced
    have startInstalled : (state.perform lockFile foundation
        (.serve handler env)).helperProcesses vmID = some process := by
      simp [SupervisorState.perform, SupervisorState.serve, serving,
        SupervisorState.handlerStep, SupervisorState.startStep,
        SupervisorState.setHandler,
        SupervisorState.installProcess_helperProcesses]
    have stays : reached.Fenced ∧
        reached.helperProcesses vmID = some process := by
      apply Transitions.invariant_of_runs (fun between =>
        between.Fenced ∧ between.helperProcesses vmID = some process) _
        ⟨startFenced, startInstalled⟩ window
      rintro between event _ ⟨betweenFenced, installed⟩
        ⟨⟨running, keeps⟩, rfl⟩
      exact ⟨SupervisorState.fenced_perform betweenFenced,
        SupervisorState.helperProcesses_perform betweenFenced installed
          running keeps⟩
    obtain ⟨reachedFenced, installed⟩ := stays
    refine ⟨installed,
      (reachedFenced.consistent vmID process installed).2, ?_⟩
    intro event foreign
    cases event with
    | report record =>
        exact SupervisorState.entry_report_of_installed installed foreign
    | terminated another env =>
        apply SupervisorState.entry_terminated
        rw [installed]
        exact fun same => foreign (Option.some.inj same).symm
    | _ => exact foreign.elim
  · intro noProcess
    constructor
    · intro process env
      apply SupervisorState.entry_terminated
      rw [noProcess]
      intro same
      cases same
    · intro record isVM
      exact SupervisorState.entry_report_of_none isVM noProcess

/-! ## Late messages -/

/-- A `vm.start` of `web`, served to its end while the process claims its
lock. -/
def startOf (handler process pid : Nat) : List SupervisorEvent :=
  .request handler (.start "web" "/web") ::
    List.replicate 6 (.serve handler {}) ++
    [.serve handler { spawned := some pid }, .serve handler {},
      .claim process, .serve handler {}, .serve handler {},
      .serve handler {}]

/-- A heartbeat of a helper. -/
def heartbeat (pid : Nat) : HelperRecord where
  vmID := "web"
  state := .running
  pid := pid
  bundle := "/web"
  lastError := none
  updatedAt := ""

/-- The supervisor after a list of events, over an empty registry. -/
def supervisorAfter (events : List SupervisorEvent) : SupervisorState :=
  events.foldl (SupervisorState.perform id .ascii) (.started .fresh)

theorem supervisorAfter_reachable (events : List SupervisorEvent) :
    Transitions.Runs (supervisorStep id .ascii) (.started .fresh)
      (supervisorAfter events) :=
  Transitions.Runs.ofFunction_foldl (SupervisorState.perform id .ascii)
    events (.started .fresh)

/-- A helper ends and its termination handler runs. -/
def endedEvents : List SupervisorEvent :=
  startOf 0 0 7 ++ [.exit 0 0 .exit, .terminated 0 {}]

/-- A `vm.stop` reads the record of a helper that ends before it is served
further; a second `vm.start` installs process 1 meanwhile. -/
def overtakenEvents : List SupervisorEvent :=
  startOf 0 0 7 ++
    [.request 1 (.stop "web" false), .serve 1 {}, .exit 0 0 .exit,
      .terminated 0 {}] ++
    startOf 2 1 8 ++
    [.serve 1 {}, .serve 1 { kill := .noProcess }, .serve 1 {}]

/-- The same up to the moment before `vm.start` installs its process. -/
def spawnedEvents : List SupervisorEvent :=
  (startOf 0 0 7).take 8

/-- The supervisor once the process is installed. -/
def installedSupervisor : SupervisorState :=
  (supervisorAfter spawnedEvents).perform id .ascii (.serve 0 {})

theorem generations_fenced_of_started :
    installedSupervisor.helperProcesses "web" = some 0 ∧
    (installedSupervisor.perform id .ascii
      (.report (heartbeat 6))).entry "web" =
        installedSupervisor.entry "web" ∧
    ((supervisorAfter endedEvents).perform id .ascii
      (.terminated 0 {})).entry "web" =
        (supervisorAfter endedEvents).entry "web" := by
  have installed := (generations_fenced_of_runs id .ascii "web"
    (supervisorAfter_reachable spawnedEvents)).1 0 "/web" 0 {}
    installedSupervisor (by rfl) (.refl _)
  have ended := (generations_fenced_of_runs id .ascii "web"
    (supervisorAfter_reachable endedEvents)).2 (by rfl)
  refine ⟨installed.1, installed.2.2 _ ?_, ended.1 0 {}⟩
  change 6 ≠ installedSupervisor.processIdentifier 0
  decide

/-- After the last process of a VM has ended, a late heartbeat brings its
record back.  And a `vm.stop` that was overtaken drops the bookkeeping of the
new helper, so that a heartbeat with another pid is taken over while process 1
runs. -/
theorem late_heartbeat_is_adopted :
    Transitions.Runs (supervisorStep id .ascii) (.started .fresh)
      (supervisorAfter endedEvents) ∧
    (supervisorAfter endedEvents).processes.all (!·.isRunning) ∧
    (supervisorAfter endedEvents).helpers "web" = none ∧
    ((supervisorAfter endedEvents).perform id .ascii
      (.report (heartbeat 7))).helpers "web" = some (heartbeat 7) ∧
    Transitions.Runs (supervisorStep id .ascii) (.started .fresh)
      (supervisorAfter overtakenEvents) ∧
    (supervisorAfter overtakenEvents).isRunning 1 = true ∧
    (supervisorAfter overtakenEvents).helpers "web" = none ∧
    ((supervisorAfter overtakenEvents).perform id .ascii
      (.report (heartbeat 7))).helpers "web" = some (heartbeat 7) :=
  ⟨supervisorAfter_reachable endedEvents, by rfl,
    by rfl, by rfl,
    supervisorAfter_reachable overtakenEvents, by rfl,
    by rfl, by rfl⟩

/-! ## One helper for a VM -/

/-- In every run an installed process was started for its VM alone, the record
of the VM has its pid, and no two starts of a VM are past their gate. -/
theorem installed_of_runs (lockFile : String → String)
    (foundation : Foundation) {registry : NetworkRegistry}
    {state : SupervisorState}
    (run : Transitions.Runs (supervisorStep lockFile foundation)
      (.started registry) state) :
    (∀ vmID process, state.helperProcesses vmID = some process →
      state.Owns vmID process ∧
        (state.helpers vmID).map (·.pid) =
          some (state.processIdentifier process) ∧
        ∀ other, state.helperProcesses other = some process →
          other = vmID) ∧
    ∀ first second vmID firstBundle secondBundle firstPoint secondPoint,
      state.handlers first = some (.start vmID firstBundle firstPoint) →
      state.handlers second = some (.start vmID secondBundle secondPoint) →
      firstPoint ≠ .begin → secondPoint ≠ .begin → first = second := by
  have fenced := SupervisorState.fenced_of_runs run
  refine ⟨fun vmID process installed => ?_, fenced.serial⟩
  obtain ⟨owned, recorded⟩ := fenced.consistent vmID process installed
  refine ⟨owned, recorded, fun other also => ?_⟩
  obtain ⟨_, known, isVM⟩ := owned
  obtain ⟨⟨_, alsoKnown, isOther⟩, _⟩ := fenced.consistent other process also
  cases known.symm.trans alsoKnown
  exact isOther.symm.trans isVM

theorem installed_of_started :
    (supervisorAfter (startOf 0 0 7)).Owns "web" 0 :=
  ((installed_of_runs id .ascii
    (supervisorAfter_reachable (startOf 0 0 7))).1 "web" 0 (by rfl)).1

end Vzctl
