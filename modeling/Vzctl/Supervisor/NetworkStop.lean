import Vzctl.Supervisor.FrozenAttachments
import Vzctl.Supervisor.ServiceCommands

/-!
# Stopping the network under its users

A helper that has read its attachments holds vmnet interfaces of `vz-net`.
The list of helpers is read before the services are stopped, so it says
nothing about helpers that read their attachments afterwards.

* `stopsNetwork` — `vz-net` is stopped before the helpers are looked at again;
* `Attentive` — no helper reads then, and the lists a command acts on name
  every helper that holds an interface;
* `network_unused_of_runs` — in runs of such steps no helper holds an
  interface when `vz-net` is booted out.
-/

namespace Vzctl

/-- The process runs and has read its attachments, and there are some. -/
def HelperProcess.holdsInterface (helper : HelperProcess) : Bool :=
  helper.isRunning && helper.attachments.any (!·.isEmpty)

/-! ## Which commands stop the network -/

/-- The next task on helpers or on `vz-net` stops `vz-net`. -/
def stopsNetwork : List ServiceTask → Bool
  | [] => false
  | .stopVMHelpers :: _ => false
  | .stopOne .net :: _ => true
  | _ :: rest => stopsNetwork rest

/-- The helpers count as stopped, and `vz-net` is stopped next. -/
def ServiceCommand.stopsNetwork (command : ServiceCommand) : Bool :=
  match command.point with
  | .next | .awaitGone _ | .awaitExits _ => Vzctl.stopsNetwork command.tasks
  | .bootout spec => spec == .net || Vzctl.stopsNetwork command.tasks
  | _ => false

/-- The command is about to stop the helpers, or has failed to. -/
def CommandPoint.concernsHelpers : CommandPoint → Bool
  | .connect | .list | .stopEach _ | .awaitStop _ _ _ | .poll | .search
  | .awaitExits _ | .refused => true
  | _ => false

/-- No task stops a service before the one that stops the helpers. -/
def HelpersFirst (tasks : List ServiceTask) : Prop :=
  tasks.Pairwise fun earlier later =>
    (∃ spec, earlier = .stopOne spec) → later ≠ .stopVMHelpers

theorem stopsNetwork_cons {task : ServiceTask} {rest : List ServiceTask}
    (isOther : task ≠ .stopVMHelpers) (stops : stopsNetwork rest = true) :
    stopsNetwork (task :: rest) = true := by
  cases task with
  | stopVMHelpers => exact absurd rfl isOther
  | stopOne spec =>
      cases spec with
      | net => rfl
      | edge => exact stops
      | supervisor => exact stops
  | ensurePlistsFor target => exact stops
  | startOne spec => exact stops
  | restartOne spec => exact stops

theorem tasks_stopsNetwork (action : ServiceAction) (target : ServiceId) :
    stopsNetwork (action.tasks target) = false := by
  cases action with
  | stop => cases target <;> rfl
  | restart => cases target <;> rfl

theorem tasks_helpersFirst (action : ServiceAction) (target : ServiceId) :
    HelpersFirst (action.tasks target) := by
  unfold HelpersFirst
  cases action with
  | stop =>
      cases target <;>
        simp [ServiceAction.tasks, stopTarget, stopOrder]
  | restart =>
      cases target <;>
        simp [ServiceAction.tasks, restartTarget, restartTargetServices,
          stopTarget, stopOrder, startTarget, startOrder]

/-! ## Helpers that hold interfaces -/

/-- Every holder of an interface was one before, or its pid is excepted. -/
def Retains (excepted : Nat → Prop) (source target : List HelperProcess) :
    Prop :=
  ∀ helper ∈ target, helper.holdsInterface = true →
    (∃ former ∈ source, former.holdsInterface = true ∧
      former.pid = helper.pid) ∨ excepted helper.pid

namespace Retains

variable {excepted : Nat → Prop}
  {source target earlier later : List HelperProcess}

theorem refl : Retains excepted source source :=
  fun helper member holds => .inl ⟨helper, member, holds, rfl⟩

theorem of_eq (same : target = source) : Retains excepted source target := by
  rw [same]
  exact refl

theorem append (first : Retains excepted source target)
    (second : Retains excepted earlier later) :
    Retains excepted (source ++ earlier) (target ++ later) := by
  intro helper member holds
  rcases List.mem_append.mp member with inFirst | inSecond
  · refine (first helper inFirst holds).imp_left ?_
    rintro ⟨former, known, held⟩
    exact ⟨former, List.mem_append_left _ known, held⟩
  · refine (second helper inSecond holds).imp_left ?_
    rintro ⟨former, known, held⟩
    exact ⟨former, List.mem_append_right _ known, held⟩

theorem modify {process : Nat} {change : HelperProcess → HelperProcess}
    (keeps : ∀ helper, source[process]? = some helper →
      (change helper).holdsInterface = true →
        (helper.holdsInterface = true ∧ helper.pid = (change helper).pid) ∨
          excepted (change helper).pid) :
    Retains excepted source (source.modify process change) := by
  intro helper member holds
  obtain ⟨index, found⟩ := List.mem_iff_getElem?.mp member
  simp only [List.getElem?_modify, Option.map_eq_map,
    Option.map_eq_some_iff] at found
  obtain ⟨former, known, rfl⟩ := found
  have formerMember : former ∈ source := List.mem_of_getElem? known
  split at holds
  · rename_i isProcess
    subst isProcess
    rw [if_pos rfl]
    refine (keeps former known holds).imp_left ?_
    rintro ⟨held, samePid⟩
    exact ⟨former, formerMember, held, samePid⟩
  · rename_i isOther
    rw [if_neg isOther]
    exact .inl ⟨former, formerMember, holds, rfl⟩

end Retains

namespace SupervisorState

variable {lockFile : String → String} {foundation : Foundation}
  {env : Surroundings} {state : SupervisorState} {vmID bundle : String}
  {excepted : Nat → Prop}

theorem retains_startStep {point : StartPoint} :
    Retains excepted state.processes
      (state.startStep lockFile env vmID bundle point).1.processes := by
  by_cases looks : LooksAt point
  · rw [startStep_looks looks]
    exact .refl
  · cases point with
    | begin =>
        rcases startStep_begin lockFile env state vmID bundle with
          ⟨_, stays⟩ | ⟨_, enters⟩
        · rw [stays]
          exact .refl
        · rw [enters]
          exact .refl
    | spawn =>
        simp only [startStep]
        split
        · exact .refl
        · -- a new process has read nothing
          intro helper member holds
          rcases List.mem_append.mp member with isOld | isNew
          · exact .inl ⟨helper, isOld, holds, rfl⟩
          · rw [List.mem_singleton.mp isNew] at holds
            cases holds
    | install process => exact .of_eq still_installProcess.processes
    | recordFailure process message => exact .of_eq still_failStart.processes
    | clear => exact .refl
    | finish => exact .refl
    | _ => exact absurd trivial looks

theorem processes_stopStep {request : StopRequest} {point : StopPoint} :
    (state.stopStep foundation env vmID request point).1.processes =
      state.processes := by
  cases point <;> simp only [stopStep]
  all_goals
    first
    | rfl
    | (repeat' split) <;> rfl

theorem processes_changeStep {change : NetworkChange}
    {point : ChangePoint} :
    (state.changeStep lockFile foundation env change point).1.processes =
      state.processes := by
  cases point with
  | reportsRunning =>
      simp only [changeStep]
      split
      · rfl
      · rfl
  | probeLock => rfl
  | write vmIsStopped => rfl

theorem retains_serve {handler : Nat} :
    Retains excepted state.processes
      (state.serve lockFile foundation env handler).processes := by
  unfold serve
  split
  · exact .refl
  · rename_i current serving
    cases current with
    | start vmID bundle point => exact retains_startStep
    | stop vmID request point => exact .of_eq processes_stopStep
    | change change point => exact .of_eq processes_changeStep

/-- The event is that of a helper with this pid that asks for its networks,
and its VM has some. -/
def Joins (state : SupervisorState) (event : SupervisorEvent) (pid : Nat) :
    Prop :=
  ∃ process helper, event = .networks process ∧
    state.processes[process]? = some helper ∧ helper.pid = pid ∧
    state.attachmentRows helper.vmID ≠ []

theorem retains_readNetworks {process : Nat} :
    Retains (state.Joins (.networks process)) state.processes
      (state.readNetworks lockFile process).processes := by
  unfold readNetworks
  split
  · exact .refl
  · split
    · apply Retains.modify
      intro reader found holds
      refine .inr ⟨process, reader, rfl, found, rfl, ?_⟩
      intro nothing
      simp [HelperProcess.holdsInterface, nothing] at holds
    · exact .refl

theorem retains_perform {event : SupervisorEvent} :
    Retains (state.Joins event) state.processes
      (state.perform lockFile foundation event).processes := by
  cases event with
  | request handler request =>
      simp only [perform]
      split
      · exact .refl
      · exact .refl
  | serve handler env => exact retains_serve
  | report record => exact .of_eq still_report.processes
  | claim process =>
      simp only [perform, claim]
      split
      · exact .refl
      · split
        · exact .refl
        · exact .refl
  | networks process => exact retains_readNetworks
  | exit process status reason =>
      simp only [perform, SupervisorState.exit]
      split
      · apply Retains.modify
        intro helper _ holds
        cases holds
      · exact .refl
  | terminated process env =>
      simp only [perform, SupervisorState.terminated]
      split
      · exact .refl
      · split
        · rw [still_helperTerminated.processes]
          exact Retains.modify fun _ _ holds => .inl ⟨holds, rfl⟩
        · exact .refl
  | lockTaken name pid =>
      simp only [perform]
      split
      · exact .refl
      · exact .refl
  | lockDropped name =>
      simp only [perform]
      split
      · exact .refl
      · exact .refl

end SupervisorState

/-! ## Steps of a command -/

namespace ServiceHost

variable {lockFile : String → String} {foundation : Foundation}
  {host : ServiceHost} {answers : ServiceAnswers} {command : ServiceCommand}

theorem stopsNetwork_startTask {task : ServiceTask} {rest : List ServiceTask}
    (stops : (host.startTask answers command rest
      task).2.stopsNetwork = true) :
    stopsNetwork (task :: rest) = true := by
  cases task with
  | ensurePlistsFor target =>
      simp only [startTask] at stops
      split at stops
      · exact stops
      · cases stops
  | stopVMHelpers => cases stops
  | stopOne spec =>
      simp only [startTask] at stops
      split at stops
      · split at stops
        · rcases Bool.or_eq_true_iff.mp stops with isNet | later
          · rw [eq_of_beq isNet]
            rfl
          · exact stopsNetwork_cons (by simp) later
        · exact stopsNetwork_cons (by simp) stops
      · cases stops
  | startOne spec =>
      simp only [startTask] at stops
      split at stops
      · exact stops
      · cases stops
  | restartOne spec =>
      simp only [startTask] at stops
      split at stops
      · exact stops
      · cases stops

/-- How a command can come to stop the network: it did already, or it has
taken an answer about the helpers for complete. -/
theorem stopsNetwork_commandStep
    (stops : (host.commandStep lockFile foundation answers
      command).2.stopsNetwork = true) :
    (command.stopsNetwork = true ∧
      ∀ pids, command.point ≠ .awaitExits pids) ∨
    (∃ pids, command.point = .awaitExits pids ∧
      command.stopsNetwork = true ∧
      ((host.commandStep lockFile foundation answers command).2 = command ∨
        pids.any answers.killZero = false)) ∨
    (command.point = .poll ∧ answers.rpcOk = true ∧
      answers.records.any (·.isActive) = false) ∨
    (command.point = .search ∧ ∃ pids, answers.pgrep = some pids ∧
      (pids = [] ∨ (host.commandStep lockFile foundation answers
        command).2.point = .awaitExits pids)) := by
  obtain ⟨tasks, point, bootouts⟩ := command
  cases point with
  | next =>
      refine .inl ⟨?_, by simp⟩
      cases tasks with
      | nil => exact stops
      | cons task rest => exact stopsNetwork_startTask stops
  | connect =>
      simp only [commandStep] at stops
      split at stops
      · cases stops
      · cases stops
  | list =>
      simp only [commandStep] at stops
      split at stops
      · cases stops
      · cases stops
  | stopEach vmIDs =>
      cases vmIDs with
      | nil => cases stops
      | cons vmID rest =>
          simp only [commandStep] at stops
          split at stops
          · cases stops
          · cases stops
  | awaitStop generation handler rest =>
      simp only [commandStep] at stops
      split at stops
      · split at stops
        · cases stops
        · cases stops
      · cases stops
  | poll =>
      simp only [commandStep] at stops
      split at stops
      · rename_i answered
        split at stops
        · split at stops
          · cases stops
          · cases stops
        · rename_i noneActive
          exact .inr (.inr (.inl
            ⟨rfl, answered, Bool.eq_false_iff.mpr noneActive⟩))
      · cases stops
  | search =>
      simp only [commandStep] at stops ⊢
      split at stops
      · cases stops
      · rename_i found
        exact .inr (.inr (.inr ⟨trivial, [], found, .inl rfl⟩))
      · rename_i pids _ found
        exact .inr (.inr (.inr ⟨trivial, pids, found, .inr rfl⟩))
  | awaitExits pids =>
      simp only [commandStep] at stops ⊢
      split at stops
      · rename_i alive
        split at stops
        · cases stops
        · rename_i goesOn
          refine .inr (.inl ⟨pids, rfl, stops, .inl ?_⟩)
          rw [if_pos alive, if_neg goesOn]
      · rename_i noneAlive
        exact .inr (.inl
          ⟨pids, rfl, stops, .inr (Bool.eq_false_iff.mpr noneAlive)⟩)
  | bootout spec =>
      exact .inl ⟨Bool.or_eq_true_iff.mpr (.inr stops), by simp⟩
  | awaitGone spec =>
      refine .inl ⟨?_, by simp⟩
      simp only [commandStep] at stops
      split at stops
      · exact stops
      · cases stops
  | failed => cases stops
  | refused => cases stops

end ServiceHost

/-! ## Events of the host -/

namespace ServiceHost

variable {lockFile : String → String} {foundation : Foundation}
  {host : ServiceHost}

/-- A helper with this pid asks for its networks, and its VM has some. -/
def Joins (host : ServiceHost) (event : HostEvent) (pid : Nat) : Prop :=
  ∃ supervisor, host.supervisor = some supervisor ∧
    match event with
    | .serve event => supervisor.Joins event pid
    | .orphanReads helper =>
        ∃ orphan, host.orphans[helper]? = some orphan ∧ orphan.pid = pid ∧
          supervisor.attachmentRows orphan.vmID ≠ []
    | _ => False

theorem retains_serve {event : SupervisorEvent} {excepted : Nat → Prop}
    (joins : ∀ supervisor pid, host.supervisor = some supervisor →
      supervisor.Joins event pid → excepted pid) :
    Retains excepted host.helpers
      (host.serve lockFile foundation event).helpers := by
  apply Retains.append ?_ .refl
  simp only [serve]
  cases current : host.supervisor with
  | none => exact .refl
  | some supervisor =>
      intro helper member holds
      exact (SupervisorState.retains_perform helper member holds).imp_right
        (joins supervisor helper.pid current)

/-- No helper is given an interface and no command moves. -/
structure Keeps (source target : ServiceHost) : Prop where
  retains : ∀ excepted, Retains excepted source.helpers target.helpers
  commands : target.commands = source.commands

theorem Keeps.refl : Keeps host host where
  retains _ := .refl
  commands := rfl

theorem keeps_startTask {answers : ServiceAnswers}
    {command : ServiceCommand} {rest : List ServiceTask}
    (task : ServiceTask) :
    Keeps host (host.startTask answers command rest task).1 := by
  cases task with
  | ensurePlistsFor target =>
      simp only [startTask]
      split
      · exact .refl
      · exact .refl
  | stopVMHelpers => exact .refl
  | stopOne spec =>
      simp only [startTask]
      split
      · split
        · exact .refl
        · exact .refl
      · exact .refl
  | startOne spec =>
      simp only [startTask]
      split
      · exact ⟨fun _ => .refl, rfl⟩
      · exact ⟨fun _ => .refl, rfl⟩
  | restartOne spec =>
      simp only [startTask]
      split
      · exact ⟨fun _ => .refl, rfl⟩
      · exact ⟨fun _ => .refl, rfl⟩

/-- Beside its own point a command changes the loaded services, and the
requests the supervisor serves. -/
theorem keeps_commandStep {answers : ServiceAnswers}
    {command : ServiceCommand} :
    Keeps host
      (host.commandStep lockFile foundation answers command).1 := by
  unfold commandStep
  split
  · split
    · exact .refl
    · exact keeps_startTask _
  · split
    · exact .refl
    · exact .refl
  · split
    · exact .refl
    · exact .refl
  · exact .refl
  · split
    · refine ⟨fun excepted => retains_serve ?_, rfl⟩
      rintro supervisor pid _ ⟨process, helper, isNetworks, _⟩
      cases isNetworks
    · exact .refl
  · split
    · split
      · exact .refl
      · exact .refl
    · exact .refl
  · split
    · split
      · split
        · exact .refl
        · exact .refl
      · exact .refl
    · exact .refl
  · split
    · exact .refl
    · exact .refl
    · exact .refl
  · split
    · split
      · exact .refl
      · exact .refl
    · exact .refl
  · exact ⟨fun _ => .refl, rfl⟩
  · split
    · exact .refl
    · exact .refl
  · exact .refl
  · exact .refl

theorem retains_perform {event : HostEvent} :
    Retains (host.Joins event) host.helpers
      (host.perform lockFile foundation event).helpers := by
  cases event with
  | begin number action target =>
      simp only [perform]
      split
      · exact .refl
      · exact .refl
  | advance number answers =>
      simp only [perform, advance]
      split
      · exact .refl
      · exact keeps_commandStep.retains _
  | serve event =>
      apply retains_serve
      exact fun supervisor pid current joins => ⟨supervisor, current, joins⟩
  | orphanReads index =>
      simp only [perform, orphanReads]
      split
      · exact .refl
      · rename_i supervisor current
        apply Retains.append .refl
        apply Retains.modify
        intro orphan found holds
        split at holds
        · refine .inr ⟨supervisor, current, orphan, found, ?_, ?_⟩
          · split <;> rfl
          · intro nothing
            simp [HelperProcess.holdsInterface, nothing] at holds
        · rename_i notRead
          rw [if_neg notRead]
          exact .inl ⟨holds, rfl⟩
  | orphanExits index =>
      apply Retains.append .refl
      apply Retains.modify
      intro orphan _ holds
      cases holds
  | supervisorExits => exact .refl
  | supervisorStarts registry =>
      simp only [perform]
      split
      · rename_i starts
        have isDown : host.supervisor = none := by
          simpa using (Bool.and_eq_true_iff.mp starts).1
        apply Retains.append ?_ .refl
        rw [isDown]
        exact .refl
      · exact .refl

theorem commands_setCommand (number other : Nat) (command : ServiceCommand) :
    (host.setCommand number command).commands other =
      if other = number then some command else host.commands other := by
  simp only [setCommand, Function.update_apply]

/-! ## The invariant -/

/-- No helper holds an interface that a command has not seen. -/
def Watched (host : ServiceHost) (command : ServiceCommand) : Prop :=
  command.stopsNetwork = true →
    ∀ helper ∈ host.helpers, helper.holdsInterface = true →
      ∃ pids, command.point = .awaitExits pids ∧ helper.pid ∈ pids

/-- Helpers are stopped before services, and only once. -/
structure HelpersThenServices (command : ServiceCommand) : Prop where
  helpersFirst : HelpersFirst command.tasks
  late : command.bootouts ≠ [] ∨ (∃ spec, command.point = .bootout spec) →
    .stopVMHelpers ∉ command.tasks
  early : command.point.concernsHelpers = true → command.bootouts = []

structure Sound (host : ServiceHost) : Prop where
  watched : ∀ number command, host.commands number = some command →
    host.Watched command
  ordered : ∀ number command, host.commands number = some command →
    HelpersThenServices command

/-- The answers name the helpers that hold an interface: a `vm.list` without
an active record is answered when there are none, `pgrep` finds them all, and
`kill -0` finds those that are listed. -/
def Truthful (host : ServiceHost) (answers : ServiceAnswers) :
    CommandPoint → Prop
  | .poll => answers.rpcOk = true →
      answers.records.any (·.isActive) = false →
        ∀ helper ∈ host.helpers, helper.holdsInterface = false
  | .search => ∀ pids, answers.pgrep = some pids →
      ∀ helper ∈ host.helpers, helper.holdsInterface = true →
        helper.pid ∈ pids
  | .awaitExits pids => ∀ helper ∈ host.helpers,
      helper.holdsInterface = true → helper.pid ∈ pids →
        answers.killZero helper.pid = true
  | _ => True

/-- No helper comes to hold an interface that a command is about to ignore,
and what a command is told about the helpers names those that hold one. -/
def Attentive (host : ServiceHost) (event : HostEvent) : Prop :=
  (∀ pid, host.Joins event pid →
    ∀ number command, host.commands number = some command →
      command.stopsNetwork = true →
        ∃ pids, command.point = .awaitExits pids ∧ pid ∈ pids) ∧
  ∀ number answers, event = .advance number answers →
    ∀ command, host.commands number = some command →
      host.Truthful answers command.point

theorem Watched.of_retains {reached : ServiceHost} {excepted : Nat → Prop}
    (watched : host.Watched command)
    (retains : Retains excepted host.helpers reached.helpers)
    (seen : command.stopsNetwork = true → ∀ pid, excepted pid →
      ∃ pids, command.point = .awaitExits pids ∧ pid ∈ pids) :
    reached.Watched command := by
  intro stops helper member holds
  rcases retains helper member holds with ⟨former, known, held, samePid⟩ | new
  · rw [← samePid]
    exact watched stops former known held
  · exact seen stops helper.pid new

theorem watched_commandStep (watched : host.Watched command)
    (truthful : host.Truthful answers command.point) :
    host.Watched
      (host.commandStep lockFile foundation answers command).2 := by
  intro stops helper member holds
  rcases stopsNetwork_commandStep stops with
    ⟨before, notAwaiting⟩ | ⟨pids, awaiting, before, step⟩ |
      ⟨polling, answered, noneActive⟩ | ⟨searching, pids, found, step⟩
  · obtain ⟨pids, awaiting, _⟩ := watched before helper member holds
    exact absurd awaiting (notAwaiting pids)
  · obtain ⟨listed, alsoAwaiting, inPids⟩ :=
      watched before helper member holds
    rcases step with stays | noneAlive
    · rw [stays]
      exact ⟨listed, alsoAwaiting, inPids⟩
    · rw [awaiting] at alsoAwaiting truthful
      cases alsoAwaiting
      have alive := truthful helper member holds inPids
      rw [List.any_eq_false] at noneAlive
      exact absurd alive (noneAlive helper.pid inPids)
  · rw [polling] at truthful
    rw [truthful answered noneActive helper member] at holds
    cases holds
  · rw [searching] at truthful
    have inPids := truthful pids found helper member holds
    rcases step with isEmpty | awaiting
    · rw [isEmpty] at inPids
      cases inPids
    · exact ⟨pids, awaiting, inPids⟩

namespace HelpersThenServices

variable {tasks rest : List ServiceTask} {task : ServiceTask}
  {bootouts : List ServiceSpec}

theorem proceed
    (ordered : HelpersThenServices ⟨task :: rest, .next, bootouts⟩) :
    HelpersThenServices ⟨rest, .next, bootouts⟩ where
  helpersFirst := List.Pairwise.of_cons ordered.helpersFirst
  late := by
    rintro (hasBooted | ⟨spec, isBootout⟩)
    · intro later
      exact ordered.late (.inl hasBooted) (List.mem_cons_of_mem task later)
    · cases isBootout
  early concerns := by cases concerns

theorem goTo {point reached : CommandPoint}
    (ordered : HelpersThenServices ⟨tasks, point, bootouts⟩)
    (noBootout : ∀ spec, reached ≠ .bootout spec)
    (concerned : reached.concernsHelpers = true →
      point.concernsHelpers = true) :
    HelpersThenServices ⟨tasks, reached, bootouts⟩ where
  helpersFirst := ordered.helpersFirst
  late := by
    rintro (hasBooted | ⟨spec, isBootout⟩)
    · exact ordered.late (.inl hasBooted)
    · exact absurd isBootout (noBootout spec)
  early concerns := ordered.early (concerned concerns)

theorem startTask
    (ordered : HelpersThenServices ⟨task :: rest, .next, bootouts⟩) :
    HelpersThenServices (host.startTask answers
      ⟨task :: rest, .next, bootouts⟩ rest task).2 := by
  cases task with
  | ensurePlistsFor target =>
      simp only [ServiceHost.startTask]
      split
      · exact ordered.proceed
      · exact ordered.goTo (by simp) (by simp [CommandPoint.concernsHelpers])
  | stopVMHelpers =>
      have noneYet : bootouts = [] := by
        by_contra hasBooted
        exact ordered.late (.inl hasBooted) List.mem_cons_self
      subst noneYet
      exact ⟨ordered.proceed.helpersFirst,
        by simp [ServiceHost.startTask], fun _ => rfl⟩
  | stopOne spec =>
      simp only [ServiceHost.startTask]
      split
      · split
        · have helpersDone : .stopVMHelpers ∉ rest := by
            intro later
            exact List.rel_of_pairwise_cons ordered.helpersFirst later
              ⟨spec, rfl⟩ rfl
          exact ⟨ordered.proceed.helpersFirst, fun _ => helpersDone,
            fun concerns => by cases concerns⟩
        · exact ordered.proceed
      · exact ordered.goTo (by simp) (by simp [CommandPoint.concernsHelpers])
  | startOne spec =>
      simp only [ServiceHost.startTask]
      split
      · exact ordered.proceed
      · exact ordered.goTo (by simp) (by simp [CommandPoint.concernsHelpers])
  | restartOne spec =>
      simp only [ServiceHost.startTask]
      split
      · exact ordered.proceed
      · exact ordered.goTo (by simp) (by simp [CommandPoint.concernsHelpers])

theorem commandStep (ordered : HelpersThenServices command) :
    HelpersThenServices
      (host.commandStep lockFile foundation answers command).2 := by
  obtain ⟨tasks, point, bootouts⟩ := command
  cases point with
  | next =>
      cases tasks with
      | nil => exact ordered
      | cons task rest => exact ordered.startTask
  | bootout spec =>
      exact ⟨ordered.helpersFirst,
        fun _ => ordered.late (.inr ⟨spec, rfl⟩),
        fun concerns => by cases concerns⟩
  | awaitGone spec =>
      simp only [ServiceHost.commandStep]
      split
      · exact ordered.goTo (by simp) (by simp [CommandPoint.concernsHelpers])
      · exact ordered.goTo (by simp) (by simp [CommandPoint.concernsHelpers])
  | failed => exact ordered
  | refused => exact ordered
  | stopEach vmIDs =>
      cases vmIDs with
      | nil => exact ordered.goTo (by simp) fun _ => rfl
      | cons vmID rest =>
          simp only [ServiceHost.commandStep]
          split
          · exact ordered.goTo (by simp) fun _ => rfl
          · exact ordered.goTo (by simp) fun _ => rfl
  | connect =>
      simp only [ServiceHost.commandStep]
      split
      · exact ordered.goTo (by simp) fun _ => rfl
      · exact ordered.goTo (by simp) fun _ => rfl
  | list =>
      simp only [ServiceHost.commandStep]
      split
      · exact ordered.goTo (by simp) fun _ => rfl
      · exact ordered.goTo (by simp) fun _ => rfl
  | awaitStop generation handler rest =>
      simp only [ServiceHost.commandStep]
      split
      · split
        · exact ordered.goTo (by simp) fun _ => rfl
        · exact ordered
      · exact ordered.goTo (by simp) fun _ => rfl
  | poll =>
      simp only [ServiceHost.commandStep]
      split
      · split
        · split
          · exact ordered.goTo (by simp) fun _ => rfl
          · exact ordered
        · exact ordered.goTo (by simp) fun _ => rfl
      · exact ordered.goTo (by simp) fun _ => rfl
  | search =>
      simp only [ServiceHost.commandStep]
      split
      · exact ordered.goTo (by simp) fun _ => rfl
      · exact ordered.goTo (by simp) fun _ => rfl
      · exact ordered.goTo (by simp) fun _ => rfl
  | awaitExits pids =>
      simp only [ServiceHost.commandStep]
      split
      · split
        · exact ordered.goTo (by simp) fun _ => rfl
        · exact ordered
      · exact ordered.goTo (by simp) fun _ => rfl

end HelpersThenServices

theorem Sound.of_retains {reached : ServiceHost} {excepted : Nat → Prop}
    (sound : host.Sound)
    (retains : Retains excepted host.helpers reached.helpers)
    (commands : reached.commands = host.commands)
    (seen : ∀ pid, excepted pid →
      ∀ number command, host.commands number = some command →
        command.stopsNetwork = true →
          ∃ pids, command.point = .awaitExits pids ∧ pid ∈ pids) :
    reached.Sound where
  watched number command known := by
    rw [commands] at known
    exact (sound.watched number command known).of_retains retains
      fun stops pid new => seen pid new number command known stops
  ordered number command known := by
    rw [commands] at known
    exact sound.ordered number command known

theorem Sound.setCommand {number : Nat} (sound : host.Sound)
    (watched : host.Watched command)
    (ordered : HelpersThenServices command) :
    (host.setCommand number command).Sound where
  watched other held known := by
    rw [commands_setCommand] at known
    split at known
    · cases known
      exact watched
    · exact sound.watched other held known
  ordered other held known := by
    rw [commands_setCommand] at known
    split at known
    · cases known
      exact ordered
    · exact sound.ordered other held known

theorem sound_perform {event : HostEvent} (sound : host.Sound)
    (attentive : host.Attentive event) :
    (host.perform lockFile foundation event).Sound := by
  cases event with
  | begin number action target =>
      simp only [perform]
      split
      · exact sound
      · apply sound.setCommand
        · intro stops
          rw [ServiceCommand.stopsNetwork, tasks_stopsNetwork] at stops
          cases stops
        · exact ⟨tasks_helpersFirst action target, by simp, fun _ => rfl⟩
  | advance number answers =>
      simp only [perform, advance]
      split
      · exact sound
      · rename_i command known
        have keeps : Keeps host
            (host.commandStep lockFile foundation answers command).1 :=
          keeps_commandStep
        have truthful := attentive.2 number answers rfl command known
        have watched : host.Watched
            (host.commandStep lockFile foundation answers command).2 :=
          watched_commandStep (sound.watched number command known) truthful
        have reached := sound.of_retains (keeps.retains fun _ => False)
          keeps.commands fun _ isNew => isNew.elim
        exact reached.setCommand
          (watched.of_retains (keeps.retains fun _ => False)
            fun _ _ isNew => isNew.elim)
          (sound.ordered number command known).commandStep
  | serve event => exact sound.of_retains retains_perform rfl attentive.1
  | orphanReads helper =>
      refine sound.of_retains retains_perform ?_ attentive.1
      simp only [perform, orphanReads]
      split
      · rfl
      · rfl
  | orphanExits helper =>
      exact sound.of_retains retains_perform rfl attentive.1
  | supervisorExits =>
      exact sound.of_retains retains_perform rfl attentive.1
  | supervisorStarts registry =>
      refine sound.of_retains retains_perform ?_ attentive.1
      simp only [perform]
      split
      · rfl
      · rfl

/-! ## Runs -/

/-- No command has begun. -/
def Idle (host : ServiceHost) : Prop :=
  ∀ number, host.commands number = none

/-- No helper that holds an interface of `vz-net` runs when a command boots
it out, and no service is booted out by a command that could not stop the
helpers. -/
def NetworkUnused (lockFile : String → String) (foundation : Foundation)
    (host : ServiceHost) : Prop :=
  ∀ number command, host.commands number = some command →
    (command.point = .bootout .net →
      ∀ helper ∈ host.helpers, helper.holdsInterface = false) ∧
    (command.point = .refused → command.bootouts = [] ∧
      ∀ answers,
        host.commandStep lockFile foundation answers command =
          (host, command))

end ServiceHost

/-- In every run in which helpers ask for networks only while no command is
about to stop `vz-net`, and in which the answers about helpers are true, the
network is stopped only when no helper uses it. -/
theorem network_unused_of_runs (lockFile : String → String)
    (foundation : Foundation) {start host : ServiceHost}
    (idle : start.Idle)
    (run : Transitions.Runs
      (Transitions.guarded ServiceHost.Attentive
        (hostStep lockFile foundation)) start host) :
    ServiceHost.NetworkUnused lockFile foundation host := by
  have sound : host.Sound := by
    apply Transitions.invariant_of_runs ServiceHost.Sound ?_ ?_ run
    · rintro source event _ before ⟨attentive, _, rfl⟩
      exact ServiceHost.sound_perform before attentive
    · constructor
      · intro number command known
        rw [idle number] at known
        cases known
      · intro number command known
        rw [idle number] at known
        cases known
  intro number command known
  constructor
  · intro booting helper member
    have stops : command.stopsNetwork = true := by
      simp [ServiceCommand.stopsNetwork, booting]
    by_contra holds
    obtain ⟨pids, awaiting, _⟩ := sound.watched number command known stops
      helper member (Bool.not_eq_false _ ▸ holds)
    rw [booting] at awaiting
    cases awaiting
  · intro isRefused
    have concerns : command.point.concernsHelpers = true := by
      rw [isRefused]
      rfl
    refine ⟨(sound.ordered number command known).early concerns, ?_⟩
    intro answers
    unfold ServiceHost.commandStep
    rw [isRefused]

namespace ServiceHost

variable {host : ServiceHost} {number : Nat} {answers : ServiceAnswers}

theorem possible_of_asksNothing (point : CommandPoint)
    (known : (host.commands number).map (·.point) = some point)
    (asksNothing : point ≠ .list ∧ point ≠ .poll ∧
      ∀ vmID rest, point ≠ .stopEach (vmID :: rest)) :
    host.Possible (.advance number answers) := by
  intro command found _ asks
  rw [found] at known
  cases known
  rcases asks with isList | isPoll | ⟨vmID, rest, isStop⟩
  · exact absurd isList asksNothing.1
  · exact absurd isPoll asksNothing.2.1
  · exact absurd isStop (asksNothing.2.2 vmID rest)

theorem possible_of_noRecord {point : CommandPoint}
    {supervisor : SupervisorState}
    (known : (host.commands number).map (·.point) = some point)
    (asksList : point = .list ∨ point = .poll)
    (current : host.supervisor = some supervisor)
    (unknown : ∀ vmID, supervisor.helpers vmID = none) :
    host.Possible (.advance number {}) := by
  intro command found _ _
  rw [found] at known
  have isPoint : command.point = point := Option.some.inj known
  have noRecord : ∀ record, record ∈ ([] : List HelperRecord) ↔
      ∃ vmID, supervisor.helpers vmID = some record := by
    simp [unknown]
  refine ⟨supervisor, current, ?_⟩
  rcases asksList with rfl | rfl
  · rw [isPoint]
    exact noRecord
  · rw [isPoint]
    exact noRecord

theorem Attentive.of_down {event : HostEvent} (down : host.supervisor = none)
    (notAdvance : ∀ number answers, event ≠ .advance number answers) :
    host.Attentive event := by
  constructor
  · rintro pid ⟨supervisor, current, _⟩
    rw [down] at current
    cases current
  · intro number answers isAdvance
    exact absurd isAdvance (notAdvance number answers)

theorem Attentive.advance_of_down (point : CommandPoint)
    (down : host.supervisor = none)
    (known : (host.commands number).map (·.point) = some point)
    (truthful : host.Truthful answers point) :
    host.Attentive (.advance number answers) := by
  constructor
  · rintro pid ⟨supervisor, current, _⟩
    rw [down] at current
    cases current
  · rintro _ _ ⟨⟩ command found
    rw [found] at known
    cases known
    exact truthful

end ServiceHost

/-! ## A helper that ends, and one that starts too late -/

/-- No supervisor runs, but a helper of an earlier one does. -/
def orphanHost : ServiceHost where
  supervisor := none
  orphans := [webHelper]

/-- A stop of `vz-net` finds the helper, which ends. -/
def orphanEvents : List HostEvent :=
  [.begin 0 .stop .net, .advance 0 {}, .advance 0 {}, .advance 0 {},
    .advance 0 { pgrep := some [1] }, .advance 0 {}, .orphanExits 0,
    .advance 0 { killZero := fun _ => false }, .advance 0 {}]

theorem along_orphanEvents :
    Transitions.Along
      (fun host event => host.Attentive event ∧ host.Possible event)
      (ServiceHost.perform id .ascii) orphanHost orphanEvents := by
  refine ⟨⟨.of_down rfl (by simp), trivial⟩,
    ⟨.advance_of_down .next rfl rfl trivial, ?_⟩,
    ⟨.advance_of_down .next rfl rfl trivial, ?_⟩,
    ⟨.advance_of_down .connect rfl rfl trivial, ?_⟩,
    ⟨.advance_of_down .search rfl rfl ?_, ?_⟩,
    ⟨.advance_of_down (.awaitExits [1]) rfl rfl ?_, ?_⟩,
    ⟨.of_down rfl (by simp), trivial⟩,
    ⟨.advance_of_down (.awaitExits [1]) rfl rfl ?_, ?_⟩,
    ⟨.advance_of_down .next rfl rfl trivial, ?_⟩, trivial⟩
  · exact ServiceHost.possible_of_asksNothing .next rfl (by simp)
  · exact ServiceHost.possible_of_asksNothing .next rfl (by simp)
  · exact ServiceHost.possible_of_asksNothing .connect rfl (by simp)
  · intro pids found helper member _
    cases found
    rw [List.mem_singleton.mp (show helper ∈ [webHelper] from member)]
    exact List.mem_singleton_self 1
  · exact ServiceHost.possible_of_asksNothing .search rfl (by simp)
  · exact fun _ _ _ _ => rfl
  · exact ServiceHost.possible_of_asksNothing (.awaitExits [1]) rfl (by simp)
  · -- the helper has ended
    intro helper member holds
    rw [List.mem_singleton.mp
      (show helper ∈ [{ webHelper with isRunning := false }] from member)]
      at holds
    cases holds
  · exact ServiceHost.possible_of_asksNothing (.awaitExits [1]) rfl (by simp)
  · exact ServiceHost.possible_of_asksNothing .next rfl (by simp)

theorem network_unused_of_orphan :
    ServiceHost.NetworkUnused id .ascii
      (orphanEvents.foldl (ServiceHost.perform id .ascii) orphanHost) := by
  have run := Transitions.Runs.guarded_foldl along_orphanEvents
  have idle : orphanHost.Idle := fun _ => rfl
  exact network_unused_of_runs id .ascii idle run.guarded_both

/-- The helper of `web` is attached to `lan` when it starts. -/
def lanHost : ServiceHost where
  supervisor := some (.started
    (lanSupervisorAfter (checkedAttach 0 ++ [.serve 0 {}])).registry)

/-- A stop of `vz-net` that finds no helper. -/
def stopEvents : List HostEvent :=
  .begin 0 .stop .net :: List.replicate 7 (.advance 0 {})

/-- Another client starts `web`, and the helper reads its networks. -/
def lateStartEvents : List HostEvent :=
  (startedHelper 1 ++ [SupervisorEvent.networks 0]).map .serve

def lateHost : ServiceHost :=
  (stopEvents ++ lateStartEvents).foldl (ServiceHost.perform id .ascii)
    lanHost

theorem along_stopEvents :
    Transitions.Along ServiceHost.Possible
      (ServiceHost.perform id .ascii) lanHost stopEvents := by
  refine ⟨trivial, ?_, ?_, ?_, ?_, ?_, ?_, ?_, trivial⟩
  · exact ServiceHost.possible_of_asksNothing .next rfl (by simp)
  · exact ServiceHost.possible_of_asksNothing .next rfl (by simp)
  · exact ServiceHost.possible_of_asksNothing .connect rfl (by simp)
  · exact ServiceHost.possible_of_noRecord rfl (.inl rfl) rfl fun _ => rfl
  · exact ServiceHost.possible_of_asksNothing (.stopEach []) rfl (by simp)
  · exact ServiceHost.possible_of_noRecord rfl (.inr rfl) rfl fun _ => rfl
  · exact ServiceHost.possible_of_asksNothing .next rfl (by simp)

theorem lateHost_reachable :
    Transitions.Runs (hostStep id .ascii) lanHost lateHost := by
  have stopping := Transitions.Runs.guarded_foldl along_stopEvents
  refine stopping.trans ?_
  unfold lateHost
  rw [List.foldl_append]
  apply Transitions.Runs.guarded_foldl
  simp [lateStartEvents, startedHelper, List.replicate, Transitions.Along,
    ServiceHost.Possible]

/-- `vz-net` is booted out under a helper that was started after the list of
helpers was read. -/
theorem network_stopped_under_late_start :
    lanHost.Idle ∧ Transitions.Runs (hostStep id .ascii) lanHost lateHost ∧
      ¬ ServiceHost.NetworkUnused id .ascii lateHost := by
  refine ⟨fun _ => rfl, lateHost_reachable, ?_⟩
  intro unused
  have booting : lateHost.commands 0 =
      some { tasks := [], point := .bootout .net } := by
    rfl
  have holding : lateHost.helpers.any (·.holdsInterface) = true := by
    decide +kernel
  obtain ⟨helper, member, holds⟩ := List.any_eq_true.mp holding
  rw [(unused 0 _ booting).1 rfl helper member] at holds
  cases holds

end Vzctl
