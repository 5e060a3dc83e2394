import Vzctl.Supervisor.HelperProcesses

/-!
# The service commands

`vzctl service stop` and `vzctl service restart`, beside the supervisor whose
helpers they stop first.

One step of a command is one request to the supervisor, one call of
`launchctl`, `pgrep` or `kill`, or one look at the plists.  What these answer
is chosen outside.
-/

namespace Vzctl

/-! ## Commands -/

inductive ServiceId where
  | net
  | edge
  | supervisor
  | all
  deriving DecidableEq, Repr

/-- A launch agent. -/
inductive ServiceSpec where
  | net
  | edge
  | supervisor
  deriving DecidableEq, Repr

def stopOrder : ServiceId → List ServiceSpec
  | .all => [.supervisor, .edge, .net]
  | .net => [.net]
  | .edge => [.edge]
  | .supervisor => [.supervisor]

def startOrder : ServiceId → List ServiceSpec
  | .all => [.net, .edge, .supervisor]
  | .net => [.net]
  | .edge => [.edge]
  | .supervisor => [.supervisor]

/-- What a command still has to call. -/
inductive ServiceTask where
  | ensurePlistsFor (target : ServiceId)
  | stopVMHelpers
  | stopOne (spec : ServiceSpec)
  | startOne (spec : ServiceSpec)
  | restartOne (spec : ServiceSpec)
  deriving DecidableEq, Repr

def stopTarget (target : ServiceId) : List ServiceTask :=
  .ensurePlistsFor target ::
    (if target = .all ∨ target = .net then [.stopVMHelpers] else []) ++
    (stopOrder target).map .stopOne

def startTarget (target : ServiceId) : List ServiceTask :=
  .ensurePlistsFor target :: (startOrder target).map .startOne

def restartTargetServices : ServiceId → List ServiceTask
  | .all => stopTarget .all ++ startTarget .all
  | .net => [.stopVMHelpers, .stopOne .net, .startOne .net,
      .restartOne .edge, .restartOne .supervisor]
  | .edge => [.restartOne .edge]
  | .supervisor => [.restartOne .supervisor]

def restartTarget (target : ServiceId) : List ServiceTask :=
  .ensurePlistsFor target :: restartTargetServices target

inductive ServiceAction where
  | stop
  | restart
  deriving DecidableEq, Repr

def ServiceAction.tasks : ServiceAction → ServiceId → List ServiceTask
  | .stop => stopTarget
  | .restart => restartTarget

/-- Where a command stands. -/
inductive CommandPoint where
  | next
  /-- `supervisor_reachable`. -/
  | connect
  /-- The first `vm.list`. -/
  | list
  | stopEach (vmIDs : List String)
  | awaitStop (generation handler : Nat) (vmIDs : List String)
  /-- A `vm.list` of the loop. -/
  | poll
  /-- `pgrep -x vz-helper`. -/
  | search
  /-- `kill -0`, after the `kill -TERM` of every pid. -/
  | awaitExits (pids : List Nat)
  | bootout (spec : ServiceSpec)
  /-- `wait_agent_gone`. -/
  | awaitGone (spec : ServiceSpec)
  | failed
  /-- `stop_vm_helpers` returned an error. -/
  | refused
  deriving DecidableEq, Repr

structure ServiceCommand where
  tasks : List ServiceTask
  point : CommandPoint := .next
  /-- The services it has booted out. -/
  bootouts : List ServiceSpec := []
  deriving DecidableEq, Repr

/-! ## The host -/

/-- The machine the commands run on. -/
structure ServiceHost where
  /-- The supervisor that launchd runs. -/
  supervisor : Option SupervisorState
  /-- How often a supervisor was started. -/
  generation : Nat := 0
  /-- The helpers that earlier supervisors have started. -/
  orphans : List HelperProcess := []
  agentLoaded : ServiceSpec → Bool := fun _ => true
  commands : Nat → Option ServiceCommand := fun _ => none

/-- What one step of a command is answered. -/
structure ServiceAnswers where
  plistsExist : Bool := true
  connects : Bool := true
  /-- The request was answered, and not with an error. -/
  rpcOk : Bool := true
  /-- What `vm.list` answers. -/
  records : List HelperRecord := []
  /-- The handler that serves the request. -/
  handler : Nat := 0
  /-- The deadline of the loop has passed. -/
  timedOut : Bool := false
  pgrep : Option (List Nat) := some []
  killZero : Nat → Bool := fun _ => true
  /-- `launchctl print` works. -/
  printOk : Bool := true
  /-- `launchctl bootout`, or `bootstrap` and `kickstart`, have an effect. -/
  launchctlOk : Bool := true
  /-- The service has gone, or has come up. -/
  arrived : Bool := true

inductive HostEvent where
  | begin (command : Nat) (action : ServiceAction) (target : ServiceId)
  | advance (command : Nat) (answers : ServiceAnswers)
  /-- A step of the supervisor, for its clients or its helpers. -/
  | serve (event : SupervisorEvent)
  /-- A helper of an earlier supervisor asks for its networks. -/
  | orphanReads (helper : Nat)
  | orphanExits (helper : Nat)
  | supervisorExits
  | supervisorStarts (registry : NetworkRegistry)

namespace ServiceCommand

variable (command : ServiceCommand)

def goTo (point : CommandPoint) : ServiceCommand :=
  { command with point := point }

def proceed (tasks : List ServiceTask) : ServiceCommand :=
  { command with tasks := tasks, point := .next }

/-- `starting` and `running` records, by `vm_id`. -/
def activeVMs (records : List HelperRecord) : List String :=
  (records.filter (·.isActive)).map (·.vmID)

end ServiceCommand

namespace ServiceHost

variable (lockFile : String → String) (foundation : Foundation)
  (host : ServiceHost)

/-- Every helper process, of this supervisor and of earlier ones. -/
def helpers : List HelperProcess :=
  (host.supervisor.map (·.processes)).getD [] ++ host.orphans

def setCommand (number : Nat) (command : ServiceCommand) : ServiceHost :=
  { host with
    commands := Function.update host.commands number (some command) }

def setLoaded (spec : ServiceSpec) (loaded : Bool) : ServiceHost :=
  { host with agentLoaded := Function.update host.agentLoaded spec loaded }

/-- The supervisor takes a step. -/
def serve (event : SupervisorEvent) : ServiceHost :=
  { host with
    supervisor := host.supervisor.map fun supervisor =>
      supervisor.perform lockFile foundation event }

/-- The first call of a task. -/
def startTask (answers : ServiceAnswers) (command : ServiceCommand)
    (rest : List ServiceTask) :
    ServiceTask → ServiceHost × ServiceCommand
  | .ensurePlistsFor _ =>
      if answers.plistsExist then
        (host, command.proceed rest)
      else
        (host, command.goTo .failed)
  | .stopVMHelpers =>
      (host, { command with tasks := rest, point := .connect })
  | .stopOne spec =>
      if answers.plistsExist then
        -- a failing `launchctl print` reads as not loaded
        if answers.printOk && host.agentLoaded spec then
          (host, { command with tasks := rest, point := .bootout spec })
        else
          (host, command.proceed rest)
      else
        (host, command.goTo .failed)
  -- `restart_one` leaves the service loaded as well
  | .startOne spec | .restartOne spec =>
      let started :=
        host.setLoaded spec (host.agentLoaded spec || answers.launchctlOk)
      if answers.arrived then
        (started, command.proceed rest)
      else
        (started, command.goTo .failed)

/-- One step of a command. -/
def commandStep (answers : ServiceAnswers) (command : ServiceCommand) :
    ServiceHost × ServiceCommand :=
  match command.point with
  | .next =>
      match command.tasks with
      | [] => (host, command)
      | task :: rest => host.startTask answers command rest task
  | .connect =>
      if answers.connects && host.supervisor.isSome then
        (host, command.goTo .list)
      else
        (host, command.goTo .search)
  | .list =>
      if answers.rpcOk then
        (host, command.goTo
          (.stopEach (ServiceCommand.activeVMs answers.records)))
      else
        (host, command.goTo .search)
  | .stopEach [] => (host, command.goTo .poll)
  | .stopEach (vmID :: rest) =>
      if answers.rpcOk then
        (host.serve lockFile foundation
            (.request answers.handler (.stop vmID false)),
          command.goTo (.awaitStop host.generation answers.handler rest))
      else
        (host, command.goTo .search)
  | .awaitStop generation handler rest =>
      if answers.rpcOk && host.generation == generation then
        if host.supervisor.all fun supervisor =>
            (supervisor.handlers handler).isNone then
          (host, command.goTo (.stopEach rest))
        else
          (host, command)
      else
        (host, command.goTo .search)
  | .poll =>
      if answers.rpcOk then
        if answers.records.any (·.isActive) then
          if answers.timedOut then
            (host, command.goTo .search)
          else
            (host, command)
        else
          (host, command.goTo .next)
      else
        (host, command.goTo .search)
  | .search =>
      match answers.pgrep with
      | none => (host, command.goTo .refused)
      | some [] => (host, command.goTo .next)
      | some pids => (host, command.goTo (.awaitExits pids))
  | .awaitExits pids =>
      if pids.any answers.killZero then
        if answers.timedOut then
          (host, command.goTo .refused)
        else
          (host, command)
      else
        (host, command.goTo .next)
  | .bootout spec =>
      (host.setLoaded spec (host.agentLoaded spec && !answers.launchctlOk),
        { command with
          point := .awaitGone spec
          bootouts := spec :: command.bootouts })
  | .awaitGone _ =>
      if answers.arrived then
        (host, command.goTo .next)
      else
        (host, command.goTo .failed)
  | .failed | .refused => (host, command)

def advance (number : Nat) (answers : ServiceAnswers) : ServiceHost :=
  match host.commands number with
  | none => host
  | some command =>
      let (reached, next) :=
        host.commandStep lockFile foundation answers command
      reached.setCommand number next

/-- A helper of an earlier supervisor reads, once, its attachments. -/
def orphanReads (helper : Nat) : ServiceHost :=
  match host.supervisor with
  | none => host
  | some supervisor =>
      { host with
        orphans := host.orphans.modify helper fun orphan =>
          if orphan.isRunning ∧ orphan.attachments = none then
            { orphan with
              attachments := some (supervisor.attachmentRows orphan.vmID) }
          else
            orphan }

/-- What an event does.  An event that cannot happen does nothing. -/
def perform : HostEvent → ServiceHost
  | .begin number action target =>
      match host.commands number with
      | some _ => host
      | none => host.setCommand number { tasks := action.tasks target }
  | .advance number answers =>
      host.advance lockFile foundation number answers
  | .serve event => host.serve lockFile foundation event
  | .orphanReads helper => host.orphanReads helper
  | .orphanExits helper =>
      { host with
        orphans := host.orphans.modify helper fun orphan =>
          { orphan with isRunning := false } }
  | .supervisorExits =>
      { host with
        supervisor := none
        orphans := host.helpers }
  | .supervisorStarts registry =>
      if host.supervisor.isNone && host.agentLoaded .supervisor then
        { host with
          supervisor := some (.started registry)
          generation := host.generation + 1 }
      else
        host

/-- `vm.list` answers the records, and a request is served by a handler of its
own. -/
def AnswersRequests (answers : ServiceAnswers) (point : CommandPoint) :
    Prop :=
  ∃ supervisor, host.supervisor = some supervisor ∧
    match point with
    | .list | .poll =>
        ∀ record, record ∈ answers.records ↔
          ∃ vmID, supervisor.helpers vmID = some record
    | .stopEach _ => supervisor.handlers answers.handler = none
    | _ => True

/-- What the supervisor answers is what it knows. -/
def Possible : HostEvent → Prop
  | .advance number answers =>
      ∀ command, host.commands number = some command →
        answers.rpcOk = true →
          command.point = .list ∨ command.point = .poll ∨
            (∃ vmID rest, command.point = .stopEach (vmID :: rest)) →
            host.AnswersRequests answers command.point
  | _ => True

end ServiceHost

/-- The events of the host, in any order. -/
def hostStep (lockFile : String → String) (foundation : Foundation) :
    ServiceHost → HostEvent → ServiceHost → Prop :=
  Transitions.guarded ServiceHost.Possible
    (Transitions.ofFunction (ServiceHost.perform lockFile foundation))

end Vzctl
