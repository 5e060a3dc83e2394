import Vzctl.Supervisor.HelperProcesses

/-!
# The bookkeeping of helper processes

One `vm.start` per VM is in flight, and it clears the bookkeeping only after
the process it found there has ended.  Every other step is quiet: it installs
no process and keeps the record and the process of a VM on one generation.
-/

namespace Vzctl

namespace SupervisorState

variable {lockFile : String → String} {foundation : Foundation}
  {env : Surroundings} {state source target : SupervisorState}
  {vmID other bundle : String} {process : Nat}

/-! ## Writing the tables -/

section Writing

variable (state) (vmID)

theorem helpers_setRecord (record : Option HelperRecord) (other : String) :
    (state.setRecord vmID record).helpers other =
      if other = vmID then record else state.helpers other :=
  Function.update_apply ..

theorem handlers_setHandler (handler : Nat) (next : Option Handler)
    (another : Nat) :
    (state.setHandler handler next).handlers another =
      if another = handler then next else state.handlers another :=
  Function.update_apply ..

end Writing

/-- What the supervisor keeps about a VM. -/
def entry (state : SupervisorState) (vmID : String) :
    Option HelperRecord × Option Nat × Bool :=
  (state.helpers vmID, state.helperProcesses vmID,
    vmID ∈ state.expectedHelperStops)

/-- The process was started for the VM. -/
def Owns (state : SupervisorState) (vmID : String) (process : Nat) : Prop :=
  ∃ helper, state.processes[process]? = some helper ∧ helper.vmID = vmID

/-- The VM has no process but, possibly, the given one. -/
def AtMost (state : SupervisorState) (vmID : String)
    (process : Option Nat) : Prop :=
  state.helperProcesses vmID = none ∨ state.helperProcesses vmID = process

theorem AtMost.none_iff :
    state.AtMost vmID none ↔ state.helperProcesses vmID = none :=
  or_self_iff

/-! ## Later states -/

/-- No process is installed for the VM in between, and processes keep their
identity and stay ended. -/
structure Later (vmID : String) (source target : SupervisorState) :
    Prop where
  atMost : target.AtMost vmID (source.helperProcesses vmID)
  processes : ∀ (process : Nat) (helper : HelperProcess),
    source.processes[process]? = some helper →
    ∃ after, target.processes[process]? = some after ∧
      after.vmID = helper.vmID ∧ after.pid = helper.pid ∧
      (after.isRunning = true → helper.isRunning = true)

namespace Later

theorem of_same
    (atMost : target.AtMost vmID (source.helperProcesses vmID))
    (sameProcesses : target.processes = source.processes) :
    Later vmID source target where
  atMost := atMost
  processes _ helper known :=
    ⟨helper, sameProcesses ▸ known, rfl, rfl, id⟩

theorem refl : Later vmID source source :=
  of_same (.inr rfl) rfl

theorem atMost_of {process : Option Nat} (later : Later vmID source target)
    (before : source.AtMost vmID process) :
    target.AtMost vmID process := by
  rcases later.atMost with gone | same
  · exact .inl gone
  · unfold AtMost
    rw [same]
    exact before

theorem trans {middle : SupervisorState}
    (first : Later vmID source middle)
    (second : Later vmID middle target) : Later vmID source target where
  atMost := second.atMost_of first.atMost
  processes process helper known := by
    obtain ⟨between, found, sameVM, samePid, runs⟩ :=
      first.processes process helper known
    obtain ⟨after, foundAfter, sameVMAfter, samePidAfter, runsAfter⟩ :=
      second.processes process between found
    exact ⟨after, foundAfter, sameVMAfter.trans sameVM,
      samePidAfter.trans samePid, fun running => runs (runsAfter running)⟩

theorem owns (later : Later vmID source target)
    (owned : source.Owns other process) : target.Owns other process := by
  obtain ⟨helper, found, sameVM⟩ := owned
  obtain ⟨after, foundAfter, sameAfter, _⟩ :=
    later.processes process helper found
  exact ⟨after, foundAfter, sameAfter.trans sameVM⟩

theorem processIdentifier (later : Later vmID source target)
    (owned : source.Owns other process) :
    target.processIdentifier process = source.processIdentifier process := by
  obtain ⟨helper, found, _⟩ := owned
  obtain ⟨after, foundAfter, _, samePid, _⟩ :=
    later.processes process helper found
  simp [SupervisorState.processIdentifier, found, foundAfter, samePid]

end Later

theorem later_updateProcess {change : HelperProcess → HelperProcess}
    (sameVM : ∀ helper, (change helper).vmID = helper.vmID)
    (samePid : ∀ helper, (change helper).pid = helper.pid)
    (runs : ∀ helper, (change helper).isRunning = true →
      helper.isRunning = true) :
    Later vmID state (state.updateProcess process change) where
  atMost := .inr rfl
  processes another helper known := by
    have found : (state.updateProcess process change).processes[another]? =
        some (if process = another then change helper else helper) := by
      simp only [updateProcess, List.getElem?_modify, known]
      split
      · rfl
      · rfl
    refine ⟨_, found, ?_⟩
    split
    · exact ⟨sameVM helper, samePid helper, runs helper⟩
    · exact ⟨rfl, rfl, id⟩

theorem later_spawnProcess {pid : Nat} :
    Later vmID state (state.spawnProcess other bundle pid) where
  atMost := .inr rfl
  processes process helper known := by
    have inBounds : process < state.processes.length :=
      (List.getElem?_eq_some_iff.mp known).1
    refine ⟨helper, ?_, rfl, rfl, id⟩
    simp only [spawnProcess, List.getElem?_append_left inBounds]
    exact known

/-! ## The invariant -/

/-- What a `vm.start` may rely on where it stands. -/
def Holds (state : SupervisorState) (vmID : String) : StartPoint → Prop
  | .begin | .readPrevious | .finish => True
  | .checkCurrent _ process
  | .awaitRelease _ process
  | .awaitExit _ process => state.AtMost vmID process
  | .clear => ∀ process, state.helperProcesses vmID = some process →
      ∃ helper, state.processes[process]? = some helper ∧
        helper.isRunning = false
  | .spawn => state.AtMost vmID none
  | .install process => state.AtMost vmID none ∧ state.Owns vmID process
  | .awaitClaim process
  | .confirm process
  | .recordFailure process _ =>
      state.AtMost vmID (some process) ∧ state.Owns vmID process

theorem Holds.later {point : StartPoint}
    (later : Later vmID source target)
    (holds : source.Holds vmID point) : target.Holds vmID point := by
  cases point with
  | begin => trivial
  | readPrevious => trivial
  | finish => trivial
  | checkCurrent previous process => exact later.atMost_of holds
  | awaitRelease previous process => exact later.atMost_of holds
  | awaitExit previous process => exact later.atMost_of holds
  | clear =>
      intro process current
      rcases later.atMost with gone | same
      · rw [gone] at current
        cases current
      · obtain ⟨helper, found, ended⟩ := holds process (same ▸ current)
        obtain ⟨after, foundAfter, _, _, runs⟩ :=
          later.processes process helper found
        refine ⟨after, foundAfter, ?_⟩
        by_contra running
        have wasRunning := runs (by simpa using running)
        rw [ended] at wasRunning
        cases wasRunning
  | spawn => exact later.atMost_of holds
  | install process =>
      exact ⟨later.atMost_of holds.1, later.owns holds.2⟩
  | awaitClaim process =>
      exact ⟨later.atMost_of holds.1, later.owns holds.2⟩
  | confirm process =>
      exact ⟨later.atMost_of holds.1, later.owns holds.2⟩
  | recordFailure process message =>
      exact ⟨later.atMost_of holds.1, later.owns holds.2⟩

/-- An installed process is one of the VM, and the record carries its pid. -/
def Consistent (state : SupervisorState) (vmID : String) : Prop :=
  ∀ process, state.helperProcesses vmID = some process →
    state.Owns vmID process ∧
      (state.helpers vmID).map (·.pid) =
        some (state.processIdentifier process)

/-- The bookkeeping of a VM belongs to one generation. -/
structure Fenced (state : SupervisorState) : Prop where
  consistent : ∀ vmID, state.Consistent vmID
  inFlight : ∀ handler vmID bundle point,
    state.handlers handler = some (.start vmID bundle point) →
      point ≠ .begin → vmID ∈ state.helperStartsInFlight
  serial : ∀ first second vmID firstBundle secondBundle firstPoint
    secondPoint,
    state.handlers first = some (.start vmID firstBundle firstPoint) →
    state.handlers second = some (.start vmID secondBundle secondPoint) →
    firstPoint ≠ .begin → secondPoint ≠ .begin → first = second
  points : ∀ handler vmID bundle point,
    state.handlers handler = some (.start vmID bundle point) →
      state.Holds vmID point

theorem fenced_started (registry : NetworkRegistry) :
    (started registry).Fenced where
  consistent _ _ installed := by cases installed
  inFlight _ _ _ _ serving := by cases serving
  serial _ _ _ _ _ _ _ serving := by cases serving
  points _ _ _ _ serving := by cases serving

/-! ## Quiet steps -/

/-- No process is installed and no `vm.start` moves. -/
structure Quiet (source target : SupervisorState) : Prop where
  handlers : target.handlers = source.handlers
  flights : target.helperStartsInFlight = source.helperStartsInFlight
  later : ∀ vmID, Later vmID source target
  consistent : ∀ vmID, source.Consistent vmID → target.Consistent vmID

namespace Quiet

theorem refl : Quiet source source where
  handlers := rfl
  flights := rfl
  later _ := .refl
  consistent _ kept := kept

theorem trans {middle : SupervisorState} (first : Quiet source middle)
    (second : Quiet middle target) : Quiet source target where
  handlers := second.handlers.trans first.handlers
  flights := second.flights.trans first.flights
  later vmID := (first.later vmID).trans (second.later vmID)
  consistent vmID kept :=
    second.consistent vmID (first.consistent vmID kept)

theorem of_sameTables (handlers : target.handlers = source.handlers)
    (flights : target.helperStartsInFlight = source.helperStartsInFlight)
    (helpers : target.helpers = source.helpers)
    (helperProcesses : target.helperProcesses = source.helperProcesses)
    (later : ∀ vmID, Later vmID source target) : Quiet source target where
  handlers := handlers
  flights := flights
  later := later
  consistent vmID kept process current := by
    rw [helperProcesses] at current
    obtain ⟨owned, samePid⟩ := kept process current
    refine ⟨(later vmID).owns owned, ?_⟩
    rw [helpers, samePid, (later vmID).processIdentifier owned]

theorem of_entry (vmID : String)
    (handlers : target.handlers = source.handlers)
    (flights : target.helperStartsInFlight = source.helperStartsInFlight)
    (processes : target.processes = source.processes)
    (others : ∀ other, other ≠ vmID →
      target.helpers other = source.helpers other ∧
        target.helperProcesses other = source.helperProcesses other)
    (atMost : target.AtMost vmID (source.helperProcesses vmID))
    (samePid : ∀ process, target.helperProcesses vmID = some process →
      source.Consistent vmID →
        (target.helpers vmID).map (·.pid) =
          some (source.processIdentifier process)) :
    Quiet source target where
  handlers := handlers
  flights := flights
  later other := by
    by_cases isVM : other = vmID
    · rw [isVM]
      exact .of_same atMost processes
    · exact .of_same (.inr (others other isVM).2) processes
  consistent other kept process current := by
    have sameIdentifier : target.processIdentifier process =
        source.processIdentifier process := by
      unfold SupervisorState.processIdentifier
      rw [processes]
    rw [sameIdentifier]
    unfold Owns
    rw [processes]
    by_cases isVM : other = vmID
    · subst isVM
      refine ⟨?_, samePid process current kept⟩
      rcases atMost with gone | same
      · rw [gone] at current
        cases current
      · exact (kept process (same ▸ current)).1
    · obtain ⟨sameRecord, sameProcess⟩ := others other isVM
      rw [sameProcess] at current
      rw [sameRecord]
      exact kept process current

end Quiet

theorem quiet_dropEntry : Quiet state (state.dropEntry vmID) := by
  refine Quiet.of_entry vmID rfl rfl rfl ?_ ?_ ?_
  · intro other isOther
    simp [dropEntry, setRecord, setProcess, isOther]
  · simp [AtMost, dropEntry, setRecord, setProcess]
  · intro process current
    simp [dropEntry, setRecord, setProcess] at current

theorem quiet_retractStop : Quiet state (state.retractStop vmID) :=
  .of_sameTables rfl rfl rfl rfl fun _ => .of_same (.inr rfl) rfl

theorem quiet_expectStop : Quiet state (state.expectStop vmID) :=
  .of_sameTables rfl rfl rfl rfl fun _ => .of_same (.inr rfl) rfl

theorem quiet_registry (registry : NetworkRegistry) :
    Quiet state { state with registry := registry } :=
  .of_sameTables rfl rfl rfl rfl fun _ => .of_same (.inr rfl) rfl

theorem quiet_locks (locks : String → Option LockHolder) :
    Quiet state { state with locks := locks } :=
  .of_sameTables rfl rfl rfl rfl fun _ => .of_same (.inr rfl) rfl

theorem quiet_spawnProcess {pid : Nat} :
    Quiet state (state.spawnProcess vmID bundle pid) :=
  .of_sameTables rfl rfl rfl rfl fun _ => later_spawnProcess

theorem quiet_failStart {message : String} :
    Quiet state (state.failStart env vmID bundle process message) := by
  unfold failStart
  split
  · rename_i isCurrent
    refine Quiet.of_entry vmID rfl rfl rfl ?_ ?_ ?_
    · intro other isOther
      simp [setRecord, isOther]
    · exact .inr rfl
    · intro another current _
      have same : state.helperProcesses vmID = some process := by
        simpa [SupervisorState.isCurrent] using isCurrent
      have isSame : process = another := by
        simpa [setRecord, same] using current
      simp [setRecord, startRecord, isSame]
  · exact .refl

theorem quiet_report {record : HelperRecord} :
    Quiet state (state.report record) := by
  unfold report
  split
  · rename_i accepted
    refine Quiet.of_entry record.vmID rfl rfl rfl ?_ ?_ ?_
    · intro other isOther
      simp [setRecord, isOther]
    · exact .inr rfl
    · intro another current _
      have same : state.helperProcesses record.vmID = some another := by
        simpa [setRecord] using current
      simp only [accepts, same, Option.all_some, Bool.and_eq_true,
        decide_eq_true_eq] at accepted
      simp [setRecord, accepted.1]
  · exact .refl

theorem quiet_updateProcess {change : HelperProcess → HelperProcess}
    (sameVM : ∀ helper, (change helper).vmID = helper.vmID)
    (samePid : ∀ helper, (change helper).pid = helper.pid)
    (runs : ∀ helper, (change helper).isRunning = true →
      helper.isRunning = true) :
    Quiet state (state.updateProcess process change) :=
  .of_sameTables rfl rfl rfl rfl fun _ =>
    later_updateProcess sameVM samePid runs

theorem quiet_claim : Quiet state (state.claim lockFile process) := by
  unfold claim
  split
  · exact .refl
  · split
    · exact quiet_locks _
    · exact .refl

theorem quiet_readNetworks :
    Quiet state (state.readNetworks lockFile process) := by
  unfold readNetworks
  split
  · exact .refl
  · split
    · exact quiet_updateProcess (fun _ => rfl) (fun _ => rfl) fun _ => id
    · exact .refl

theorem quiet_exit {status : Int} {reason : TerminationReason} :
    Quiet state (state.exit process status reason) := by
  unfold exit
  split
  · apply Quiet.trans _ (quiet_locks _)
    apply quiet_updateProcess
    · exact fun _ => rfl
    · exact fun _ => rfl
    · intro helper running
      cases running
  · exact .refl

theorem quiet_helperTerminated {helper : HelperProcess} :
    Quiet state (state.helperTerminated env process helper) := by
  unfold helperTerminated
  split
  · have removed (record : Option HelperRecord) : Quiet state
        (((state.setProcess helper.vmID none).retractStop
          helper.vmID).setRecord helper.vmID record) := by
      refine Quiet.of_entry helper.vmID rfl rfl rfl ?_ ?_ ?_
      · intro other isOther
        simp [setRecord, setProcess, retractStop, isOther]
      · simp [AtMost, setRecord, setProcess, retractStop]
      · intro another current
        simp [setRecord, setProcess, retractStop] at current
    dsimp only
    split
    · exact removed _
    · split
      · have kept := removed (state.helpers helper.vmID)
        have same : (((state.setProcess helper.vmID none).retractStop
            helper.vmID).setRecord helper.vmID
              (state.helpers helper.vmID)) =
            (state.setProcess helper.vmID none).retractStop
              helper.vmID := by
          simp [setRecord, setProcess, retractStop]
        rw [same] at kept
        exact kept
      · exact removed _
  · exact .refl

theorem quiet_terminated : Quiet state (state.terminated env process) := by
  unfold terminated
  split
  · exact .refl
  · split
    · apply Quiet.trans _ quiet_helperTerminated
      exact quiet_updateProcess (fun _ => rfl) (fun _ => rfl) fun _ => id
    · exact .refl

theorem quiet_stopStep {request : StopRequest} {point : StopPoint} :
    Quiet state
      (state.stopStep foundation env vmID request point).1 := by
  cases point with
  | readRecord =>
      simp only [stopStep]
      split
      · exact .refl
      · exact .refl
  | expect record => exact quiet_expectStop
  | kill record =>
      simp only [stopStep]
      split
      · exact .refl
      · exact .refl
      · exact .refl
      · exact .refl
  | retract => exact quiet_retractStop
  | checkRunning =>
      simp only [stopStep]
      split
      · exact .refl
      · exact .refl
  | readProcess =>
      simp only [stopStep]
      split
      · exact .refl
      · exact .refl
  | expectProcess process => exact quiet_expectStop
  | killProcess process =>
      simp only [stopStep]
      split
      · exact .refl
      · exact .refl
  | drop =>
      simp only [stopStep]
      split
      · exact quiet_dropEntry
      · exact quiet_dropEntry
  | detachAll => exact quiet_registry _

theorem quiet_changeStep {change : NetworkChange} {point : ChangePoint} :
    Quiet state
      (state.changeStep lockFile foundation env change point).1 := by
  cases point with
  | reportsRunning =>
      simp only [changeStep]
      split
      · exact .refl
      · exact .refl
  | probeLock => exact .refl
  | write vmIsStopped => exact quiet_registry _

/-! ## Steps of `vm.start` -/

/-- The points at which `vm.start` neither enters or leaves nor installs its
process. -/
def QuietPoint : StartPoint → Prop
  | .begin | .install _ | .finish => False
  | _ => True

/-- The points at which `vm.start` only looks. -/
def LooksAt : StartPoint → Prop
  | .readPrevious | .checkCurrent _ _ | .awaitRelease _ _ | .awaitExit _ _
  | .awaitClaim _ | .confirm _ => True
  | _ => False

theorem startStep_looks {point : StartPoint} (looks : LooksAt point) :
    (state.startStep lockFile env vmID bundle point).1 = state := by
  cases point with
  | readPrevious => rfl
  | checkCurrent previous process =>
      simp only [startStep]
      split
      · split
        · rfl
        · rfl
      · rfl
  | awaitRelease previous process =>
      simp only [startStep]
      split
      · rfl
      · split
        · rfl
        · split
          · rfl
          · rfl
  | awaitExit previous process =>
      simp only [startStep]
      split
      · split
        · rfl
        · rfl
      · split
        · rfl
        · rfl
  | awaitClaim process =>
      simp only [startStep]
      split
      · rfl
      · split
        · rfl
        · split
          · rfl
          · split
            · rfl
            · rfl
  | confirm process =>
      simp only [startStep]
      split
      · rfl
      · rfl
  | _ => exact looks.elim

theorem quiet_startStep {point : StartPoint}
    (isQuiet : QuietPoint point) :
    Quiet state (state.startStep lockFile env vmID bundle point).1 := by
  by_cases looks : LooksAt point
  · rw [startStep_looks looks]
    exact .refl
  · cases point with
    | clear => exact quiet_dropEntry.trans quiet_retractStop
    | spawn =>
        simp only [startStep]
        split
        · exact .refl
        · exact quiet_spawnProcess
    | recordFailure process message => exact quiet_failStart
    | begin => exact isQuiet.elim
    | install process => exact isQuiet.elim
    | finish => exact isQuiet.elim
    | _ => exact absurd trivial looks

theorem startStep_begin (lockFile : String → String) (env : Surroundings)
    (state : SupervisorState) (vmID bundle : String) :
    (vmID ∈ state.helperStartsInFlight ∧
      state.startStep lockFile env vmID bundle .begin = (state, none)) ∨
    (vmID ∉ state.helperStartsInFlight ∧
      state.startStep lockFile env vmID bundle .begin =
        ({ state with
          helperStartsInFlight := insert vmID state.helperStartsInFlight },
          some .readPrevious)) := by
  by_cases isInFlight : vmID ∈ state.helperStartsInFlight
  · exact .inl ⟨isInFlight, if_pos isInFlight⟩
  · exact .inr ⟨isInFlight, if_neg isInFlight⟩

section Install

variable (state) (env) (vmID) (bundle) (process)

theorem installProcess_handlers :
    (state.installProcess env vmID bundle process).handlers =
      state.handlers := by
  unfold installProcess
  dsimp only
  split
  · rfl
  · rfl

theorem installProcess_flights :
    (state.installProcess env vmID bundle process).helperStartsInFlight =
      state.helperStartsInFlight := by
  unfold installProcess
  dsimp only
  split
  · rfl
  · rfl

theorem installProcess_processes :
    (state.installProcess env vmID bundle process).processes =
      state.processes := by
  unfold installProcess
  dsimp only
  split
  · rfl
  · rfl

theorem installProcess_helperProcesses :
    (state.installProcess env vmID bundle process).helperProcesses =
      Function.update state.helperProcesses vmID (some process) := by
  unfold installProcess
  dsimp only
  split
  · rfl
  · rfl

theorem installProcess_pid :
    ((state.installProcess env vmID bundle process).helpers vmID).map
        (·.pid) =
      some (state.processIdentifier process) := by
  unfold installProcess
  dsimp only
  split
  · simp [setRecord, startRecord]
  · rename_i samePid
    exact not_not.mp samePid

theorem installProcess_helpers_of_ne (isOther : other ≠ vmID) :
    (state.installProcess env vmID bundle process).helpers other =
      state.helpers other := by
  unfold installProcess
  dsimp only
  split
  · simp [setRecord, setProcess, isOther]
  · rfl

end Install

theorem later_installProcess (isOther : other ≠ vmID) :
    Later other state (state.installProcess env vmID bundle process) := by
  apply Later.of_same
  · unfold AtMost
    rw [installProcess_helperProcesses, Function.update_of_ne isOther]
    exact .inr rfl
  · exact installProcess_processes ..

theorem startStep_handlers {point : StartPoint} :
    (state.startStep lockFile env vmID bundle point).1.handlers =
      state.handlers := by
  by_cases isQuiet : QuietPoint point
  · exact (quiet_startStep isQuiet).handlers
  · cases point with
    | begin =>
        rcases startStep_begin lockFile env state vmID bundle with
          ⟨_, stays⟩ | ⟨_, enters⟩
        · rw [stays]
        · rw [enters]
    | install process => exact installProcess_handlers ..
    | finish => rfl
    | _ => exact absurd trivial isQuiet

theorem startStep_later {point : StartPoint}
    (begins : other = vmID → point = .begin) :
    Later other state
      (state.startStep lockFile env vmID bundle point).1 := by
  by_cases isQuiet : QuietPoint point
  · exact (quiet_startStep isQuiet).later other
  · cases point with
    | begin =>
        rcases startStep_begin lockFile env state vmID bundle with
          ⟨_, stays⟩ | ⟨_, enters⟩
        · rw [stays]
          exact .refl
        · rw [enters]
          exact .of_same (.inr rfl) rfl
    | install process =>
        have isOther : other ≠ vmID := by
          intro isVM
          cases begins isVM
        exact later_installProcess isOther
    | finish => exact .of_same (.inr rfl) rfl
    | _ => exact absurd trivial isQuiet

theorem startStep_keepsFlight {point : StartPoint}
    (marked : other ∈ state.helperStartsInFlight)
    (begins : other = vmID → point = .begin) :
    other ∈ (state.startStep lockFile env vmID bundle
      point).1.helperStartsInFlight := by
  by_cases isQuiet : QuietPoint point
  · rw [(quiet_startStep isQuiet).flights]
    exact marked
  · cases point with
    | begin =>
        rcases startStep_begin lockFile env state vmID bundle with
          ⟨_, stays⟩ | ⟨_, enters⟩
        · rw [stays]
          exact marked
        · rw [enters]
          exact Finset.mem_insert_of_mem marked
    | install process =>
        simp only [startStep, installProcess_flights]
        exact marked
    | finish =>
        have isOther : other ≠ vmID := by
          intro isVM
          cases begins isVM
        exact Finset.mem_erase_of_ne_of_mem isOther marked
    | _ => exact absurd trivial isQuiet

theorem startStep_marks {point next : StartPoint}
    (goesOn : (state.startStep lockFile env vmID bundle point).2 =
      some next)
    (marked : point ≠ .begin → vmID ∈ state.helperStartsInFlight) :
    vmID ∈ (state.startStep lockFile env vmID bundle
      point).1.helperStartsInFlight := by
  by_cases isQuiet : QuietPoint point
  · rw [(quiet_startStep isQuiet).flights]
    apply marked
    rintro rfl
    exact isQuiet
  · cases point with
    | begin =>
        rcases startStep_begin lockFile env state vmID bundle with
          ⟨_, stays⟩ | ⟨_, enters⟩
        · rw [stays] at goesOn
          cases goesOn
        · rw [enters]
          exact Finset.mem_insert_self _ _
    | install process =>
        simp only [startStep, installProcess_flights]
        exact marked (by simp)
    | finish => cases goesOn
    | _ => exact absurd trivial isQuiet

theorem consistent_installProcess (owned : state.Owns vmID process)
    (consistent : state.Consistent other) :
    (state.installProcess env vmID bundle process).Consistent other := by
  intro another current
  rw [installProcess_helperProcesses, Function.update_apply] at current
  unfold Owns processIdentifier
  rw [installProcess_processes]
  by_cases isVM : other = vmID
  · rw [if_pos isVM] at current
    cases current
    subst isVM
    exact ⟨owned, installProcess_pid ..⟩
  · rw [if_neg isVM] at current
    rw [installProcess_helpers_of_ne _ _ _ _ _ isVM]
    exact consistent another current

theorem startStep_consistent {point : StartPoint}
    (holds : state.Holds vmID point)
    (consistent : state.Consistent other) :
    (state.startStep lockFile env vmID bundle
      point).1.Consistent other := by
  by_cases isQuiet : QuietPoint point
  · exact (quiet_startStep isQuiet).consistent other consistent
  · cases point with
    | begin =>
        rcases startStep_begin lockFile env state vmID bundle with
          ⟨_, stays⟩ | ⟨_, enters⟩
        · rw [stays]
          exact consistent
        · rw [enters]
          exact consistent
    | install process => exact consistent_installProcess holds.2 consistent
    | finish => exact consistent
    | _ => exact absurd trivial isQuiet

theorem ended_of_released {previous : Option HelperRecord}
    {found : Option Nat}
    (consistent : state.Consistent vmID)
    (atMost : state.AtMost vmID found)
    (released : state.previousIsAlive env previous found = false) :
    state.Holds vmID .clear := by
  intro process current
  obtain ⟨⟨helper, known, _⟩, _⟩ := consistent process current
  refine ⟨helper, known, ?_⟩
  rcases atMost with gone | same
  · rw [gone] at current
    cases current
  · rw [← same, current] at released
    simpa [previousIsAlive, isRunning, known] using released

theorem holds_of_looks {point next : StartPoint} (looks : LooksAt point)
    (holds : state.Holds vmID point) (consistent : state.Consistent vmID)
    (goesOn : (state.startStep lockFile env vmID bundle point).2 =
      some next) :
    state.Holds vmID next := by
  cases point with
  | readPrevious =>
      cases goesOn
      exact .inr rfl
  | checkCurrent previous found =>
      simp only [startStep] at goesOn
      split at goesOn
      · split at goesOn
        · cases goesOn
          trivial
        · cases goesOn
          exact holds
      · cases goesOn
        exact holds
  | awaitRelease previous found =>
      simp only [startStep] at goesOn
      split at goesOn
      · cases goesOn
        trivial
      · split at goesOn
        · cases goesOn
          exact holds
        · split at goesOn
          · cases goesOn
            trivial
          · cases goesOn
            exact holds
  | awaitExit previous found =>
      simp only [startStep] at goesOn
      split at goesOn
      · split at goesOn
        · cases goesOn
          trivial
        · cases goesOn
          exact holds
      · rename_i released
        split at goesOn
        · cases goesOn
          apply ended_of_released consistent holds
          simpa using released
        · cases goesOn
          trivial
  | awaitClaim process =>
      simp only [startStep] at goesOn
      split at goesOn
      · cases goesOn
        exact holds
      · split at goesOn
        · cases goesOn
          exact holds
        · split at goesOn
          · cases goesOn
            exact holds
          · split at goesOn
            · cases goesOn
              exact holds
            · cases goesOn
              exact holds
  | confirm process =>
      simp only [startStep] at goesOn
      split at goesOn
      · cases goesOn
        trivial
      · cases goesOn
        exact holds
  | _ => exact looks.elim

theorem startStep_holds {point next : StartPoint}
    (holds : state.Holds vmID point) (consistent : state.Consistent vmID)
    (goesOn : (state.startStep lockFile env vmID bundle point).2 =
      some next) :
    (state.startStep lockFile env vmID bundle point).1.Holds vmID
      next := by
  by_cases looks : LooksAt point
  · rw [startStep_looks looks]
    exact holds_of_looks looks holds consistent goesOn
  · cases point with
    | begin =>
        rcases startStep_begin lockFile env state vmID bundle with
          ⟨_, stays⟩ | ⟨_, enters⟩
        · rw [stays] at goesOn
          cases goesOn
        · rw [enters] at goesOn
          cases goesOn
          trivial
    | clear =>
        cases goesOn
        simp [startStep, Holds, AtMost, dropEntry, retractStop, setRecord,
          setProcess]
    | spawn =>
        simp only [startStep] at goesOn ⊢
        split at goesOn
        · cases goesOn
          trivial
        · rename_i pid spawned
          cases goesOn
          refine ⟨later_spawnProcess.atMost_of holds, ?_⟩
          refine ⟨_, List.getElem?_concat_length, rfl⟩
    | install process =>
        cases goesOn
        refine ⟨?_, ?_⟩
        · simp [startStep, AtMost, installProcess_helperProcesses]
        · simp only [startStep, Owns, installProcess_processes]
          exact holds.2
    | recordFailure process message =>
        cases goesOn
        trivial
    | finish => cases goesOn
    | _ => exact absurd trivial looks

/-! ## The invariant holds in every run -/

theorem Later.setHandler {handler : Nat} {next : Option Handler}
    (later : Later vmID source target) :
    Later vmID source (target.setHandler handler next) :=
  ⟨later.atMost, later.processes⟩

theorem Fenced.of_quiet {reached : SupervisorState} {handler : Nat}
    {next : Option Handler}
    (fenced : state.Fenced) (quiet : Quiet state reached)
    (isOther : ∀ vmID bundle point,
      next = some (.start vmID bundle point) → point = .begin) :
    (reached.setHandler handler next).Fenced := by
  have served : ∀ another vmID bundle point,
      (reached.setHandler handler next).handlers another =
        some (.start vmID bundle point) →
      point = .begin ∨
        state.handlers another = some (.start vmID bundle point) := by
    intro another vmID bundle point serving
    rw [handlers_setHandler] at serving
    split at serving
    · exact .inl (isOther _ _ _ serving)
    · rw [quiet.handlers] at serving
      exact .inr serving
  constructor
  · intro vmID
    exact quiet.consistent vmID (fenced.consistent vmID)
  · intro another vmID bundle point serving started
    rcases served _ _ _ _ serving with begins | before
    · exact absurd begins started
    · change vmID ∈ reached.helperStartsInFlight
      rw [quiet.flights]
      exact fenced.inFlight _ _ _ _ before started
  · intro first second vmID _ _ _ _ firstServing secondServing
      firstStarted secondStarted
    rcases served _ _ _ _ firstServing with begins | firstBefore
    · exact absurd begins firstStarted
    · rcases served _ _ _ _ secondServing with begins | secondBefore
      · exact absurd begins secondStarted
      · exact fenced.serial _ _ _ _ _ _ _ firstBefore secondBefore
          firstStarted secondStarted
  · intro another vmID bundle point serving
    rcases served _ _ _ _ serving with begins | before
    · subst begins
      trivial
    · exact (fenced.points _ _ _ _ before).later
        (quiet.later vmID).setHandler

theorem Fenced.of_event (fenced : source.Fenced)
    (quiet : Quiet source target) : target.Fenced where
  consistent vmID := quiet.consistent vmID (fenced.consistent vmID)
  inFlight handler vmID bundle point serving := by
    rw [quiet.handlers] at serving
    rw [quiet.flights]
    exact fenced.inFlight _ _ _ _ serving
  serial := by
    rw [quiet.handlers]
    exact fenced.serial
  points handler vmID bundle point serving := by
    rw [quiet.handlers] at serving
    exact (fenced.points _ _ _ _ serving).later (quiet.later vmID)

/-- A step of `vm.start`.  Any other one of the VM has not begun, or has been
refused. -/
theorem Fenced.of_start {handler : Nat} {point : StartPoint}
    (fenced : state.Fenced)
    (serving : state.handlers handler = some (.start vmID bundle point)) :
    ((state.startStep lockFile env vmID bundle point).1.setHandler handler
      ((state.startStep lockFile env vmID bundle point).2.map
        (.start vmID bundle))).Fenced := by
  have holds := fenced.points _ _ _ _ serving
  have others : ∀ {another other bundle' point'},
      another ≠ handler → point' ≠ .begin →
      state.handlers another = some (.start other bundle' point') →
      other = vmID → point = .begin := by
    intro another other bundle' point' isAnother started before isVM
    subst isVM
    by_contra begun
    exact isAnother
      (fenced.serial _ _ _ _ _ _ _ before serving started begun)
  have entered : ∀ {another other bundle' point' next},
      another ≠ handler → point' ≠ .begin →
      state.handlers another = some (.start other bundle' point') →
      (state.startStep lockFile env vmID bundle point).2 = some next →
      next ≠ .begin → other ≠ vmID := by
    intro another other bundle' point' next isAnother started before goesOn
      _ isVM
    have begins := others isAnother started before isVM
    subst begins isVM
    have marked := fenced.inFlight _ _ _ _ before started
    rcases startStep_begin lockFile env state other bundle with
          ⟨_, stays⟩ | ⟨notMarked, _⟩
    · rw [stays] at goesOn
      cases goesOn
    · exact notMarked marked
  have served : ∀ another other bundle' point',
      ((state.startStep lockFile env vmID bundle point).1.setHandler handler
        ((state.startStep lockFile env vmID bundle point).2.map
          (.start vmID bundle))).handlers another =
        some (.start other bundle' point') →
      (another = handler ∧ other = vmID ∧
        (state.startStep lockFile env vmID bundle point).2 =
          some point') ∨
      (another ≠ handler ∧
        state.handlers another = some (.start other bundle' point')) := by
    intro another other bundle' point' nowServing
    rw [handlers_setHandler] at nowServing
    split at nowServing
    · rename_i isSame
      obtain ⟨next, goesOn, sameHandler⟩ :=
        Option.map_eq_some_iff.mp nowServing
      cases sameHandler
      exact .inl ⟨isSame, rfl, goesOn⟩
    · rename_i isAnother
      rw [startStep_handlers] at nowServing
      exact .inr ⟨isAnother, nowServing⟩
  constructor
  · intro other
    exact startStep_consistent holds (fenced.consistent other)
  · intro another other bundle' point' nowServing started
    rcases served _ _ _ _ nowServing
      with ⟨_, rfl, goesOn⟩ | ⟨isAnother, before⟩
    · exact startStep_marks goesOn (fenced.inFlight _ _ _ _ serving)
    · exact startStep_keepsFlight
        (fenced.inFlight _ _ _ _ before started)
        (others isAnother started before)
  · intro first second other _ _ firstPoint secondPoint firstServing
      secondServing firstStarted secondStarted
    rcases served _ _ _ _ firstServing
      with ⟨isFirst, sameVM, goesOn⟩ | ⟨isAnother, before⟩
    · rcases served _ _ _ _ secondServing
        with ⟨isSecond, _⟩ | ⟨isAnother, before⟩
      · rw [isFirst, isSecond]
      · exact absurd sameVM
          (entered isAnother secondStarted before goesOn firstStarted)
    · rcases served _ _ _ _ secondServing
        with ⟨_, sameVM, goesOn⟩ | ⟨_, secondBefore⟩
      · exact absurd sameVM
          (entered isAnother firstStarted before goesOn secondStarted)
      · exact fenced.serial _ _ _ _ _ _ _ before secondBefore firstStarted
          secondStarted
  · intro another other bundle' point' nowServing
    rcases served _ _ _ _ nowServing
      with ⟨_, rfl, goesOn⟩ | ⟨isAnother, before⟩
    · exact startStep_holds holds (fenced.consistent other) goesOn
    · by_cases begins : point' = .begin
      · subst begins
        trivial
      · exact (fenced.points _ _ _ _ before).later
          (startStep_later (others isAnother begins before)).setHandler

theorem fenced_serve {handler : Nat} (fenced : state.Fenced) :
    (state.serve lockFile foundation env handler).Fenced := by
  unfold serve
  split
  · exact fenced
  · rename_i current serving
    cases current with
    | start vmID bundle point => exact fenced.of_start serving
    | stop vmID request point =>
        apply fenced.of_quiet quiet_stopStep
        intro other bundle point' isStart
        obtain ⟨_, _, sameHandler⟩ := Option.map_eq_some_iff.mp isStart
        cases sameHandler
    | change change point =>
        apply fenced.of_quiet quiet_changeStep
        intro other bundle point' isStart
        obtain ⟨_, _, sameHandler⟩ := Option.map_eq_some_iff.mp isStart
        cases sameHandler

theorem fenced_perform {event : SupervisorEvent} (fenced : state.Fenced) :
    (state.perform lockFile foundation event).Fenced := by
  cases event with
  | request handler request =>
      simp only [perform]
      split
      · exact fenced
      · apply fenced.of_quiet .refl
        intro vmID bundle point isStart
        cases request with
        | start vmID bundle =>
            cases isStart
            rfl
        | stop vmID force => cases isStart
        | purge vmID => cases isStart
        | change change => cases isStart
  | serve handler env => exact fenced_serve fenced
  | report record => exact fenced.of_event quiet_report
  | claim process => exact fenced.of_event quiet_claim
  | networks process => exact fenced.of_event quiet_readNetworks
  | exit process status reason => exact fenced.of_event quiet_exit
  | terminated process env => exact fenced.of_event quiet_terminated
  | lockTaken name pid =>
      simp only [perform]
      split
      · exact fenced.of_event (quiet_locks _)
      · exact fenced
  | lockDropped name =>
      simp only [perform]
      split
      · exact fenced.of_event (quiet_locks _)
      · exact fenced

theorem fenced_of_runs {registry : NetworkRegistry}
    (run : Transitions.Runs (supervisorStep lockFile foundation)
      (started registry) state) : state.Fenced := by
  apply Transitions.invariant_of_runs Fenced _ (fenced_started registry) run
  rintro source event _ fenced rfl
  exact fenced_perform fenced

end SupervisorState

end Vzctl
