import Mathlib.Logic.Function.Basic
import Vzctl.Network.RegistryCalls

/-!
# Helper processes of the supervisor

The handlers of `vm.start`, `vm.stop` and `vm.purge`, of `helper.hello`,
`helper.state` and `helper.networks`, and of `net.attach`, `net.detach` and
`vm.network.ensure`, with the termination handler of a helper process.

Every request is served on a thread of its own.  One step of a handler is one
critical section of `stateLock`, one call of the network registry, or one look
at the operating system; a handler keeps what it has read between two steps.
-/

namespace Vzctl

/-! ## State -/

inductive HelperState where
  | starting
  | running
  | stopped
  | failed
  deriving DecidableEq, Repr

structure HelperRecord where
  vmID : String
  state : HelperState
  pid : Nat
  bundle : String
  lastError : Option String
  updatedAt : String
  deriving DecidableEq, Repr

/-- `state == "starting" || state == "running"`. -/
def HelperRecord.isActive (record : HelperRecord) : Bool :=
  record.state = .starting || record.state = .running

inductive TerminationReason where
  | exit
  | uncaughtSignal
  deriving DecidableEq, Repr

/-- A process the supervisor has started. -/
structure HelperProcess where
  vmID : String
  bundle : String
  pid : Nat
  isRunning : Bool := true
  terminationStatus : Int := 0
  terminationReason : TerminationReason := .exit
  /-- The termination handler was called. -/
  notified : Bool := false
  /-- The attachments of its VM, once it has read them. -/
  attachments : Option (List AttachmentRow) := none
  deriving DecidableEq, Repr

/-- The owner of a lock file.  Helpers of an earlier supervisor and other
programs may hold it as well. -/
inductive LockHolder where
  | helper (process : Nat)
  | other (pid : Nat)
  deriving DecidableEq, Repr

/-- Where a `vm.start` stands.  Processes are named by their position in the
list of all processes. -/
inductive StartPoint where
  | begin
  | readPrevious
  | checkCurrent (previous : Option HelperRecord) (process : Option Nat)
  | awaitRelease (previous : Option HelperRecord) (process : Option Nat)
  | awaitExit (previous : Option HelperRecord) (process : Option Nat)
  | clear
  | spawn
  | install (process : Nat)
  | awaitClaim (process : Nat)
  | confirm (process : Nat)
  | recordFailure (process : Nat) (message : String)
  | finish
  deriving DecidableEq, Repr

inductive StopRequest where
  | stop (force : Bool)
  | purge
  deriving DecidableEq, Repr

/-- Where a `vm.stop` or a `vm.purge` stands. -/
inductive StopPoint where
  | readRecord
  | expect (record : HelperRecord)
  | kill (record : HelperRecord)
  | retract
  | checkRunning
  | readProcess
  | expectProcess (process : Nat)
  | killProcess (process : Nat)
  | drop
  | detachAll
  deriving DecidableEq, Repr

/-- The parameters of `net.attach`, `net.detach` and `vm.network.ensure`. -/
inductive NetworkChange where
  | attach (request : AttachRequest)
  | detach (vmID networkName : String) (project : Option String)
  | ensure (vmID : String) (requestedNetwork : Option String)
  deriving DecidableEq, Repr

def NetworkChange.vmID : NetworkChange → String
  | .attach request => request.vmID
  | .detach vmID _ _ => vmID
  | .ensure vmID _ => vmID

/-- The registry call of a change. -/
def NetworkChange.call (vmIsStopped : Bool) : NetworkChange → RegistryCall
  | .attach request => .attach { request with vmIsStopped := vmIsStopped }
  | .detach vmID networkName project =>
      .detach vmID networkName project vmIsStopped
  | .ensure vmID requestedNetwork =>
      .ensureVMNetwork vmID requestedNetwork vmIsStopped

/-- Where a change stands; the first two points are `vmIsStopped`. -/
inductive ChangePoint where
  | reportsRunning
  | probeLock
  | write (vmIsStopped : Bool)
  deriving DecidableEq, Repr

/-- A request being served. -/
inductive Handler where
  | start (vmID bundle : String) (point : StartPoint)
  | stop (vmID : String) (request : StopRequest) (point : StopPoint)
  | change (change : NetworkChange) (point : ChangePoint)
  deriving DecidableEq, Repr

/-- The supervisor, the processes it has started and the lock files. -/
structure SupervisorState where
  helpers : String → Option HelperRecord
  helperProcesses : String → Option Nat
  helperStartsInFlight : Finset String
  expectedHelperStops : Finset String
  registry : NetworkRegistry
  processes : List HelperProcess
  locks : String → Option LockHolder
  handlers : Nat → Option Handler

/-- What `kill` answers. -/
inductive KillResult where
  | delivered
  /-- `ESRCH`. -/
  | noProcess
  | refused
  deriving DecidableEq, Repr

/-- What one step reads from its surroundings. -/
structure Surroundings where
  now : String := ""
  /-- The lock file cannot be inspected, for another reason than `ENOENT`. -/
  lockFails : Bool := false
  timedOut : Bool := false
  /-- `kill(pid, 0) == 0 || errno == EPERM`. -/
  pidIsAlive : Bool := true
  kill : KillResult := .delivered
  isExecutableFile : Bool := true
  /-- The pid of a process that `run` starts, when it does not throw. -/
  spawned : Option Nat := some 1
  message : String := ""
  registry : RegistryEnv := {}

namespace SupervisorState

/-- A supervisor that has just started over a registry. -/
def started (registry : NetworkRegistry) : SupervisorState where
  helpers _ := none
  helperProcesses _ := none
  helperStartsInFlight := ∅
  expectedHelperStops := ∅
  registry := registry
  processes := []
  locks _ := none
  handlers _ := none

variable (lockFile : String → String) (foundation : Foundation)
  (env : Surroundings) (state : SupervisorState)

/-- `helperProcesses[vmID] === process`. -/
def isCurrent (vmID : String) (process : Nat) : Bool :=
  state.helperProcesses vmID = some process

/-- `process.isRunning`. -/
def isRunning (process : Nat) : Bool :=
  (state.processes[process]?).any (·.isRunning)

/-- `process.processIdentifier`. -/
def processIdentifier (process : Nat) : Nat :=
  ((state.processes[process]?).map (·.pid)).getD 0

/-- `HelperStartupGate.isClaimed`: the holder of the lock wrote this pid. -/
def isClaimed (pid : Nat) (name : String) : Bool :=
  match state.locks name with
  | none => false
  | some (.helper process) => state.processIdentifier process = pid
  | some (.other holder) => holder = pid

def setRecord (vmID : String) (record : Option HelperRecord) :
    SupervisorState :=
  { state with helpers := Function.update state.helpers vmID record }

def setProcess (vmID : String) (process : Option Nat) : SupervisorState :=
  { state with
    helperProcesses := Function.update state.helperProcesses vmID process }

/-- `helperProcesses.removeValue` and `helpers.removeValue`. -/
def dropEntry (vmID : String) : SupervisorState :=
  (state.setProcess vmID none).setRecord vmID none

def expectStop (vmID : String) : SupervisorState :=
  { state with
    expectedHelperStops := insert vmID state.expectedHelperStops }

def retractStop (vmID : String) : SupervisorState :=
  { state with expectedHelperStops := state.expectedHelperStops.erase vmID }

/-! ## `vm.start` -/

/-- `previousProcessAlive` of `waitForRelease`. -/
def previousIsAlive (previous : Option HelperRecord)
    (process : Option Nat) : Bool :=
  match process with
  | some process => state.isRunning process
  | none => previous.isSome && env.pidIsAlive

/-- A helper process that was started. -/
def spawnProcess (vmID bundle : String) (pid : Nat) : SupervisorState :=
  { state with
    processes := state.processes ++ [{
      vmID := vmID
      bundle := bundle
      pid := pid }] }

/-- The record `vm.start` writes about its process. -/
def startRecord (vmID bundle : String) (process : Nat)
    (helperState : HelperState) (lastError : Option String) :
    HelperRecord where
  vmID := vmID
  state := helperState
  pid := state.processIdentifier process
  bundle := bundle
  lastError := lastError
  updatedAt := env.now

/-- The section after `process.run()`.  A fast `helper.hello` may already have
supplied a newer state. -/
def installProcess (vmID bundle : String) (process : Nat) :
    SupervisorState :=
  let installed := state.setProcess vmID (some process)
  if (state.helpers vmID).map (·.pid) ≠
      some (state.processIdentifier process) then
    installed.setRecord vmID
      (some (state.startRecord env vmID bundle process .starting none))
  else
    installed

/-- `confirmedHelperStartRecord`. -/
def isConfirmed (vmID : String) (process : Nat) : Bool :=
  state.isCurrent vmID process && state.isRunning process &&
    (state.helpers vmID).any fun record =>
      record.pid = state.processIdentifier process && record.isActive

/-- The section of a failed start. -/
def failStart (vmID bundle : String) (process : Nat) (message : String) :
    SupervisorState :=
  if state.isCurrent vmID process then
    state.setRecord vmID
      (some (state.startRecord env vmID bundle process .failed
        (some message)))
  else
    state

/-- One step of `vm.start`, and where it stands afterwards. -/
def startStep (vmID bundle : String) :
    StartPoint → SupervisorState × Option StartPoint
  | .begin =>
      if vmID ∈ state.helperStartsInFlight then
        (state, none)
      else
        ({ state with
          helperStartsInFlight := insert vmID state.helperStartsInFlight },
          some .readPrevious)
  | .readPrevious =>
      (state, some (.checkCurrent (state.helpers vmID)
        (state.helperProcesses vmID)))
  | .checkCurrent previous process =>
      if previous.any fun current => current.isActive && env.pidIsAlive then
        if env.lockFails ∨ previous.any fun current =>
            state.isClaimed current.pid (lockFile vmID) then
          (state, some .finish)
        else
          (state, some (.awaitRelease previous process))
      else
        (state, some (.awaitRelease previous process))
  | .awaitRelease previous process =>
      if env.lockFails then
        (state, some .finish)
      else if state.locks (lockFile vmID) = none then
        (state, some (.awaitExit previous process))
      else if env.timedOut then
        (state, some .finish)
      else
        (state, some (.awaitRelease previous process))
  | .awaitExit previous process =>
      if state.previousIsAlive env previous process then
        if env.timedOut then
          (state, some .finish)
        else
          (state, some (.awaitRelease previous process))
      else if env.isExecutableFile then
        (state, some .clear)
      else
        (state, some .finish)
  | .clear =>
      ((state.dropEntry vmID).retractStop vmID, some .spawn)
  | .spawn =>
      match env.spawned with
      | none => (state, some .finish)
      | some pid =>
          (state.spawnProcess vmID bundle pid,
            some (.install state.processes.length))
  | .install process =>
      (state.installProcess env vmID bundle process,
        some (.awaitClaim process))
  | .awaitClaim process =>
      if state.isRunning process = false then
        (state, some (.recordFailure process
          "new helper exited before claiming its VM lock"))
      else if env.lockFails then
        (state, some (.recordFailure process env.message))
      else if state.isClaimed (state.processIdentifier process)
          (lockFile vmID) then
        (state, some (.confirm process))
      else if env.timedOut then
        (state, some (.recordFailure process
          "new helper did not claim its VM lock before timeout"))
      else
        (state, some (.awaitClaim process))
  | .confirm process =>
      if state.isConfirmed vmID process then
        (state, some .finish)
      else
        (state, some (.recordFailure process
          (((state.helpers vmID).bind (·.lastError)).getD
            "new helper stopped or failed during startup")))
  -- `process.terminate()` only sends a signal
  | .recordFailure process message =>
      (state.failStart env vmID bundle process message, some .finish)
  | .finish =>
      ({ state with
        helperStartsInFlight := state.helperStartsInFlight.erase vmID },
        none)

/-! ## `vm.stop` and `vm.purge` -/

/-- One step of `vm.stop` or `vm.purge`.  A signal has no effect of its own:
the end of a process is a separate event. -/
def stopStep (vmID : String) (request : StopRequest) :
    StopPoint → SupervisorState × Option StopPoint
  | .readRecord =>
      match (state.helpers vmID).filter (·.isActive) with
      | some record => (state, some (.expect record))
      | none => (state, some .readProcess)
  | .expect record => (state.expectStop vmID, some (.kill record))
  | .kill _ =>
      match request, env.kill with
      | .purge, _ => (state, some .drop)
      | .stop _, .refused => (state, some .retract)
      | .stop _, .noProcess => (state, some .drop)
      | .stop force, .delivered =>
          (state, some (if force then .drop else .checkRunning))
  | .retract => (state.retractStop vmID, none)
  | .checkRunning =>
      if (state.helperProcesses vmID).any state.isRunning then
        (state, none)
      else
        (state, some .drop)
  | .readProcess =>
      match (state.helperProcesses vmID).filter state.isRunning with
      | some process => (state, some (.expectProcess process))
      | none => (state, some .drop)
  | .expectProcess process =>
      (state.expectStop vmID, some (.killProcess process))
  | .killProcess _ =>
      match request with
      | .stop false => (state, none)
      | _ => (state, some .drop)
  | .drop =>
      match request with
      | .stop _ => (state.dropEntry vmID, none)
      | .purge => (state.dropEntry vmID, some .detachAll)
  | .detachAll =>
      ({ state with
        registry := RegistryCall.perform foundation state.registry
          (env.registry, .detachAll vmID true) }, none)

/-! ## `net.attach`, `net.detach` and `vm.network.ensure` -/

/-- One step of a change of attachments. -/
def changeStep (change : NetworkChange) :
    ChangePoint → SupervisorState × Option ChangePoint
  | .reportsRunning =>
      if (state.helpers change.vmID).any (·.isActive) then
        (state, some (.write false))
      else
        (state, some .probeLock)
  | .probeLock =>
      (state, some (.write (!env.lockFails &&
        (state.locks (lockFile change.vmID)).isNone)))
  | .write vmIsStopped =>
      ({ state with
        registry := RegistryCall.perform foundation state.registry
          (env.registry, change.call vmIsStopped) }, none)

/-! ## Serving requests -/

/-- One step of a handler. -/
def handlerStep : Handler → SupervisorState × Option Handler
  | .start vmID bundle point =>
      (state.startStep lockFile env vmID bundle point).map id
        (Option.map (.start vmID bundle))
  | .stop vmID request point =>
      (state.stopStep foundation env vmID request point).map id
        (Option.map (.stop vmID request))
  | .change change point =>
      (state.changeStep lockFile foundation env change point).map id
        (Option.map (.change change))

def setHandler (handler : Nat) (next : Option Handler) : SupervisorState :=
  { state with handlers := Function.update state.handlers handler next }

/-- The next step of a request being served. -/
def serve (handler : Nat) : SupervisorState :=
  match state.handlers handler with
  | none => state
  | some current =>
      let (reached, next) :=
        state.handlerStep lockFile foundation env current
      reached.setHandler handler next

/-! ## Helper processes -/

/-- `helper.hello` and `helper.state`: whether a report is accepted. -/
def accepts (record : HelperRecord) : Bool :=
  (state.helperProcesses record.vmID).all (fun process =>
      state.processIdentifier process = record.pid) &&
    (state.helpers record.vmID).all (·.pid = record.pid)

def report (record : HelperRecord) : SupervisorState :=
  if state.accepts record then
    state.setRecord record.vmID (some record)
  else
    state

def updateProcess (process : Nat) (change : HelperProcess → HelperProcess) :
    SupervisorState :=
  { state with processes := state.processes.modify process change }

/-- A helper takes the lock of its VM, unless it is held. -/
def claim (process : Nat) : SupervisorState :=
  match state.processes[process]? with
  | none => state
  | some helper =>
      if helper.isRunning ∧ state.locks (lockFile helper.vmID) = none then
        { state with
          locks := Function.update state.locks (lockFile helper.vmID)
            (some (.helper process)) }
      else
        state

/-- The rows of `network_attachments` of a VM. -/
def attachmentRows (vmID : String) : List AttachmentRow :=
  state.registry.database.attachmentTable.rows.filter (·.vmID = vmID)

/-- `helper.networks`: a helper that holds its lock reads, once, the
attachments of its VM. -/
def readNetworks (process : Nat) : SupervisorState :=
  match state.processes[process]? with
  | none => state
  | some helper =>
      if helper.isRunning ∧ helper.attachments = none ∧
          state.locks (lockFile helper.vmID) = some (.helper process) then
        state.updateProcess process fun helper =>
          { helper with
            attachments := some (state.attachmentRows helper.vmID) }
      else
        state

/-- A process ends, and the system drops its locks. -/
def exit (process : Nat) (status : Int) (reason : TerminationReason) :
    SupervisorState :=
  if state.isRunning process then
    { state.updateProcess process (fun helper =>
        { helper with
          isRunning := false
          terminationStatus := status
          terminationReason := reason }) with
      locks := fun name =>
        if state.locks name = some (.helper process) then
          none
        else
          state.locks name }
  else
    state

def helperTerminationState (expected : Bool) (status : Int) : HelperState :=
  if expected ∨ status = 0 then .stopped else .failed

def helperTerminationMessage (status : Int) :
    TerminationReason → String
  | .exit => "helper exited with status " ++ toString status ++
      " before reporting an error"
  | .uncaughtSignal => "helper terminated by signal " ++ toString status ++
      " before reporting an error"

/-- `helperTerminated`. -/
def helperTerminated (process : Nat) (helper : HelperProcess) :
    SupervisorState :=
  if state.isCurrent helper.vmID process then
    let expected : Bool := helper.vmID ∈ state.expectedHelperStops
    let removed :=
      (state.setProcess helper.vmID none).retractStop helper.vmID
    if helperTerminationState expected helper.terminationStatus =
        .stopped then
      removed.setRecord helper.vmID none
    else if (state.helpers helper.vmID).any (·.state = .failed) then
      removed
    else
      removed.setRecord helper.vmID
        (some (state.startRecord env helper.vmID helper.bundle process .failed
          (some (helperTerminationMessage helper.terminationStatus
            helper.terminationReason))))
  else
    state

/-- The termination handler is called once for a process that has ended. -/
def terminated (process : Nat) : SupervisorState :=
  match state.processes[process]? with
  | none => state
  | some helper =>
      if helper.isRunning = false ∧ helper.notified = false then
        (state.updateProcess process fun helper =>
          { helper with notified := true }).helperTerminated env process
            helper
      else
        state

end SupervisorState

/-! ## Steps -/

/-- A request of a client. -/
inductive SupervisorRequest where
  | start (vmID bundle : String)
  | stop (vmID : String) (force : Bool)
  | purge (vmID : String)
  | change (change : NetworkChange)
  deriving DecidableEq, Repr

/-- The handler of a request. -/
def SupervisorRequest.handler : SupervisorRequest → Handler
  | .start vmID bundle => .start vmID bundle .begin
  | .stop vmID force => .stop vmID (.stop force) .readRecord
  | .purge vmID => .stop vmID .purge .readRecord
  | .change edit => .change edit .reportsRunning

inductive SupervisorEvent where
  | request (handler : Nat) (request : SupervisorRequest)
  | serve (handler : Nat) (env : Surroundings)
  | report (record : HelperRecord)
  | claim (process : Nat)
  | networks (process : Nat)
  | exit (process : Nat) (status : Int) (reason : TerminationReason)
  | terminated (process : Nat) (env : Surroundings)
  /-- A program other than a helper of this supervisor takes a lock. -/
  | lockTaken (name : String) (pid : Nat)
  | lockDropped (name : String)

namespace SupervisorState

variable (lockFile : String → String) (foundation : Foundation)

/-- What an event does.  An event that cannot happen does nothing. -/
def perform (state : SupervisorState) : SupervisorEvent → SupervisorState
  | .request handler request =>
      match state.handlers handler with
      | some _ => state
      | none => state.setHandler handler (some request.handler)
  | .serve handler env => state.serve lockFile foundation env handler
  | .report record => state.report record
  | .claim process => state.claim lockFile process
  | .networks process => state.readNetworks lockFile process
  | .exit process status reason => state.exit process status reason
  | .terminated process env => state.terminated env process
  | .lockTaken name pid =>
      if state.locks name = none then
        { state with
          locks := Function.update state.locks name (some (.other pid)) }
      else
        state
  | .lockDropped name =>
      match state.locks name with
      | some (.other _) =>
          { state with locks := Function.update state.locks name none }
      | _ => state

end SupervisorState

/-- The events of the supervisor, in any order. -/
def supervisorStep (lockFile : String → String) (foundation : Foundation) :
    SupervisorState → SupervisorEvent → SupervisorState → Prop :=
  Transitions.ofFunction (SupervisorState.perform lockFile foundation)

end Vzctl
