import Vzctl.Json
import Vzctl.Lib.Transition

/-!
# Recovery after a change of the host network

`NetworkResilienceController`.  Path changes, sleep, wake and `stop` arrive on
any thread; recoveries run one at a time on the serial queue `worker`.  One
step is one critical section of `lock`, one call of `event`, `probe` or
`fallback`, or one `asyncAfter`; anything may happen between two steps.
-/

namespace Vzctl

/-! ## Results and status -/

inductive NetworkResilienceState where
  | healthy
  | suspended
  | offline
  | stabilizing
  | recovering
  | captive
  | conflict
  | degraded
  deriving DecidableEq, Repr

def NetworkResilienceState.rawValue : NetworkResilienceState → String
  | .healthy => "healthy"
  | .suspended => "suspended"
  | .offline => "offline"
  | .stabilizing => "stabilizing"
  | .recovering => "recovering"
  | .captive => "captive"
  | .conflict => "conflict"
  | .degraded => "degraded"

structure NetworkEgressResult where
  classification : String
  phase : String
  statusCode : Option Int
  latencyMS : Int
  errorCode : Option String
  deriving DecidableEq, Repr

def NetworkEgressResult.unknown : NetworkEgressResult where
  classification := "unknown"
  phase := "none"
  statusCode := none
  latencyMS := 0
  errorCode := none

structure NetworkCIDRConflict where
  network : String
  cidr : String
  hostRoute : String
  interface : String
  deriving DecidableEq, Repr

def NetworkCIDRConflict.json (conflict : NetworkCIDRConflict) : JSONValue :=
  .object [
    ("network", .string conflict.network),
    ("cidr", .string conflict.cidr),
    ("host_route", .string conflict.hostRoute),
    ("interface", .string conflict.interface)]

structure NetworkRecoveryResult where
  internalOK : Bool
  hostEgress : NetworkEgressResult
  networkEgress : List (String × NetworkEgressResult)
  conflicts : List NetworkCIDRConflict
  error : Option String
  deriving DecidableEq, Repr

def NetworkRecoveryResult.state (result : NetworkRecoveryResult)
    (pathSatisfied : Bool) : NetworkResilienceState :=
  let egress (classification : String) : Bool :=
    result.networkEgress.any fun entry =>
      entry.2.classification = classification
  if ¬ pathSatisfied then .offline
  else if ¬ result.conflicts.isEmpty then .conflict
  else if ¬ result.internalOK then .degraded
  else if result.hostEgress.classification = "captive" then .captive
  else if result.hostEgress.classification = "offline" then .offline
  else if egress "captive" then .captive
  else if egress "offline" then .degraded
  else .healthy

structure NetworkResilienceStatus where
  state : NetworkResilienceState := .stabilizing
  epoch : UInt64 := 0
  pathSatisfied : Bool := false
  interfaceTypes : List String := []
  lastEvent : String := "startup"
  internalOK : Bool := true
  hostEgress : NetworkEgressResult := .unknown
  networkEgress : List (String × NetworkEgressResult) := []
  conflicts : List NetworkCIDRConflict := []
  lastError : Option String := none
  lastTransitionAt : String

/-! ## Recoveries -/

/-- The arguments of `recover`, and how often the generation had changed when
the recovery was asked for. -/
structure Recovery where
  generation : UInt64
  epoch : UInt64
  started : Nat
  deriving DecidableEq, Repr

structure ResilienceEvent where
  type : String
  data : List (String × JSONValue)

/-- Where a recovery stands on `worker`. -/
inductive RecoveryPoint where
  /-- The guard of `schedulePassiveRetry`. -/
  | retry
  /-- The guard at the top of the loop. -/
  | loop
  /-- The guard after `Thread.sleep`. -/
  | slept
  | begin
  | announce
  | probe
  | publish (result : NetworkRecoveryResult)
  /-- An event, after which the recovery ends or schedules a retry. -/
  | report (event : ResilienceEvent) (retries : Bool)
  | schedule
  /-- The guard after the wait for the deadline. -/
  | deadline (result : NetworkRecoveryResult)
  | finishDegraded (result : NetworkRecoveryResult)
  | fallback (result : NetworkRecoveryResult)
  | probeAgain (result : NetworkRecoveryResult)
  | publishAgain (result recovered : NetworkRecoveryResult)

/-- The next step of the recovery looks at the generation first. -/
def RecoveryPoint.isGuard : RecoveryPoint → Bool
  | .retry | .loop | .slept | .deadline _ => true
  | _ => false

/-- The recovery that occupies `worker`. -/
structure RunningRecovery where
  recovery : Recovery
  point : RecoveryPoint
  attempt : Nat := 0
  delay : Nat := 0

/-- A block that `asyncAfter` has put on `worker`. -/
structure RecoveryTimer where
  recovery : Recovery
  passiveRetry : Bool

/-- What `receive`, `willSleep` and `didWake` still do after their critical
section. -/
inductive NoticePoint where
  | announce (event : ResilienceEvent) (recovery : Option Recovery)
  | schedule (recovery : Recovery)

def NoticePoint.recovery : NoticePoint → Option Recovery
  | .announce _ recovery => recovery
  | .schedule recovery => some recovery

structure NetworkResilienceController where
  status : NetworkResilienceStatus
  pathFingerprint : String
  /-- How often `generation &+= 1` was executed. -/
  generationChanges : Nat
  fallbackAttemptedEpoch : Option UInt64
  stopped : Bool
  notices : List NoticePoint
  timers : List RecoveryTimer
  worker : Option RunningRecovery
  /-- The events that were emitted. -/
  events : List ResilienceEvent
  /-- The arguments of the calls of `fallback`. -/
  fallbackCalls : List NetworkRecoveryResult

/-- The clock after a result that is degraded.  It is read twice; a second
reading past the deadline traps, and nothing follows. -/
inductive BudgetReading where
  /-- The deadline has passed. -/
  | expired
  /-- The next delay ends before the deadline. -/
  | longer
  | shorter
  deriving DecidableEq, Repr

/-- What a step of a recovery is told by its surroundings. -/
structure RecoverySurroundings where
  now : String
  probed : NetworkRecoveryResult
  fellBack : Bool
  budget : BudgetReading

namespace NetworkResilienceController

def started (now : String) : NetworkResilienceController where
  status := { lastTransitionAt := now }
  pathFingerprint := ""
  generationChanges := 0
  fallbackAttemptedEpoch := none
  stopped := false
  notices := []
  timers := []
  worker := none
  events := []
  fallbackCalls := []

variable (controller : NetworkResilienceController)

def generation : UInt64 := .ofNat controller.generationChanges

/-- `!stopped && generation == target && status.pathSatisfied`. -/
def isActive (recovery : Recovery) : Bool :=
  !controller.stopped && controller.generation == recovery.generation &&
    controller.status.pathSatisfied

def transitionLocked (state : NetworkResilienceState) (now : String) :
    NetworkResilienceController :=
  { controller with
    status := { controller.status with
      state := state
      lastTransitionAt := now } }

def emit (event : ResilienceEvent) : NetworkResilienceController :=
  { controller with events := controller.events ++ [event] }

/-! ## Path changes, sleep, wake and stop -/

/-- The number of the epoch as it stands in an event. -/
def epochField (epoch : UInt64) : String × JSONValue :=
  ("epoch", .number epoch.toNat)

/-- The generation and the epoch after a change. -/
def scheduled : Recovery where
  generation := .ofNat (controller.generationChanges + 1)
  epoch := controller.status.epoch + 1
  started := controller.generationChanges + 1

/-- The critical section of a handler that starts a new generation. -/
def changeLocked (status : NetworkResilienceStatus) (notice : NoticePoint) :
    NetworkResilienceController :=
  { controller with
    generationChanges := controller.generationChanges + 1
    status := { status with epoch := controller.status.epoch + 1 }
    notices := controller.notices ++ [notice] }

/-- `guard !stopped, fingerprint != pathFingerprint`. -/
def acceptsPath (fingerprint : String) : Bool :=
  !controller.stopped && fingerprint != controller.pathFingerprint

/-- `receive`, which `receiveForTest` calls on any thread and the path monitor
on `worker`. -/
def receive (satisfied : Bool) (interfaces : List String)
    (reason fingerprint now : String) : NetworkResilienceController :=
  if controller.acceptsPath fingerprint then
    { controller.changeLocked
        { controller.status with
          pathSatisfied := satisfied
          interfaceTypes := interfaces
          lastEvent := reason
          state := if satisfied then .stabilizing else .offline
          lastTransitionAt := now }
        (.announce
          { type := "host.network_changed"
            data := [epochField controller.scheduled.epoch,
              ("path_satisfied", .bool satisfied),
              ("interfaces", .array (interfaces.map .string))] }
          (if satisfied then some controller.scheduled else none)) with
      pathFingerprint := fingerprint }
  else
    controller

def willSleep (now : String) : NetworkResilienceController :=
  controller.changeLocked
    { controller.status with
      lastEvent := "sleep"
      state := .suspended
      lastTransitionAt := now }
    (.announce
      { type := "host.sleep"
        data := [epochField controller.scheduled.epoch] }
      none)

def didWake (now : String) : NetworkResilienceController :=
  controller.changeLocked
    { controller.status with
      lastEvent := "wake"
      state :=
        if controller.status.pathSatisfied then .stabilizing else .offline
      lastTransitionAt := now }
    (.announce
      { type := "host.wake"
        data := [epochField controller.scheduled.epoch] }
      (if controller.status.pathSatisfied then some controller.scheduled
      else none))

def stop : NetworkResilienceController :=
  { controller with
    stopped := true
    generationChanges := controller.generationChanges + 1 }

/-- The rest of a handler: its event, then `scheduleRecovery`. -/
def noticeStep (index : Nat) : NetworkResilienceController :=
  match controller.notices[index]? with
  | none => controller
  | some (.announce event none) =>
      { controller.emit event with
        notices := controller.notices.eraseIdx index }
  | some (.announce event (some recovery)) =>
      { controller.emit event with
        notices := controller.notices.set index (.schedule recovery) }
  | some (.schedule recovery) =>
      { controller with
        notices := controller.notices.eraseIdx index
        timers := controller.timers ++ [⟨recovery, false⟩] }

/-! ## Recoveries on the worker -/

/-- `worker` takes a block whose time has come. -/
def fire (index : Nat) : NetworkResilienceController :=
  match controller.worker, controller.timers[index]? with
  | none, some timer =>
      { controller with
        timers := controller.timers.eraseIdx index
        worker := some {
          recovery := timer.recovery
          point := if timer.passiveRetry then .retry else .loop } }
  | _, _ => controller

def moveTo (running : RunningRecovery) (point : RecoveryPoint) :
    NetworkResilienceController :=
  { controller with worker := some { running with point := point } }

def leave : NetworkResilienceController :=
  { controller with worker := none }

/-- A guard of `recover`: go on or return. -/
def passGuard (running : RunningRecovery) (point : RecoveryPoint) :
    NetworkResilienceController :=
  if controller.isActive running.recovery then
    controller.moveTo running point
  else
    controller.leave

/-- The status takes over what a probe has found. -/
def publishLocked (result : NetworkRecoveryResult) (now : String) :
    NetworkResilienceController :=
  { controller with
    status := { controller.status with
      internalOK := result.internalOK
      hostEgress := result.hostEgress
      networkEgress := result.networkEgress
      conflicts := result.conflicts
      lastError := result.error
      state := result.state true
      lastTransitionAt := now } }

def recoveringEvent (running : RunningRecovery) : ResilienceEvent where
  type := "network.recovering"
  data := [epochField running.recovery.epoch,
    ("attempt", .number running.attempt)]

def recoveredEvent (running : RunningRecovery) : ResilienceEvent where
  type := "network.recovered"
  data := [epochField running.recovery.epoch,
    ("attempt", .number running.attempt)]

def fallbackRecoveredEvent (running : RunningRecovery) : ResilienceEvent where
  type := "network.recovered"
  data := [epochField running.recovery.epoch,
    ("attempt", .number (running.attempt + 1)),
    ("fallback", .bool true)]

def captiveEvent (running : RunningRecovery) : ResilienceEvent where
  type := "network.degraded"
  data := [epochField running.recovery.epoch,
    ("state", .string NetworkResilienceState.captive.rawValue)]

def conflictEvent (running : RunningRecovery)
    (result : NetworkRecoveryResult) : ResilienceEvent where
  type := "network.cidr_conflict"
  data := [epochField running.recovery.epoch,
    ("conflicts", .array (result.conflicts.map (·.json)))]

def degradedEvent (running : RunningRecovery)
    (result : NetworkRecoveryResult) : ResilienceEvent where
  type := "network.degraded"
  data := [epochField running.recovery.epoch,
    ("state", .string NetworkResilienceState.degraded.rawValue),
    ("error", (result.error.map JSONValue.string).getD .null)]

/-- `min(max(delay * 2, 1), 8)`. -/
def nextDelay (delay : Nat) : Nat := min (max (delay * 2) 1) 8

/-- The `switch` of `recover` over the state that was published. -/
def afterPublish (running : RunningRecovery) (result : NetworkRecoveryResult)
    (budget : BudgetReading) : RunningRecovery :=
  match result.state true, budget with
  | .healthy, _ =>
      { running with point := .report (recoveredEvent running) false }
  | .captive, _ =>
      { running with point := .report (captiveEvent running) true }
  | .conflict, _ =>
      { running with point := .report (conflictEvent running result) true }
  | .offline, _ => { running with point := .schedule }
  | .degraded, .longer =>
      { running with point := .loop, delay := nextDelay running.delay }
  | .degraded, .shorter => { running with point := .deadline result }
  | _, _ => { running with point := .finishDegraded result }

/-- One step of the recovery on `worker`. -/
def recoveryStep (env : RecoverySurroundings) (running : RunningRecovery) :
    NetworkResilienceController :=
  match running.point with
  | .retry => controller.passGuard running .loop
  | .loop =>
      controller.passGuard running (if 0 < running.delay then .slept else .begin)
  | .slept => controller.passGuard running .begin
  | .begin =>
      (controller.transitionLocked .recovering env.now).moveTo
        { running with attempt := running.attempt + 1 } .announce
  | .announce => (controller.emit (recoveringEvent running)).moveTo running .probe
  | .probe => controller.moveTo running (.publish env.probed)
  | .publish result =>
      { controller.publishLocked result env.now with
        worker := some (afterPublish running result env.budget) }
  | .report event retries =>
      let emitted := controller.emit event
      if retries then emitted.moveTo running .schedule else emitted.leave
  | .schedule =>
      { controller with
        timers := controller.timers ++ [⟨running.recovery, true⟩]
        worker := none }
  | .deadline result => controller.passGuard running (.finishDegraded result)
  | .finishDegraded result =>
      if controller.fallbackAttemptedEpoch ≠ some running.recovery.epoch then
        { controller.moveTo running (.fallback result) with
          fallbackAttemptedEpoch := some running.recovery.epoch }
      else
        controller.moveTo running (.report (degradedEvent running result) true)
  | .fallback result =>
      { controller.moveTo running
          (if env.fellBack then .probeAgain result
          else .report (degradedEvent running result) true) with
        fallbackCalls := controller.fallbackCalls ++ [result] }
  | .probeAgain result =>
      controller.moveTo running (.publishAgain result env.probed)
  | .publishAgain result recovered =>
      (controller.publishLocked recovered env.now).moveTo running
        (if recovered.state true = .healthy then
          .report (fallbackRecoveredEvent running) false
        else
          .report (degradedEvent running result) true)

def workerStep (env : RecoverySurroundings) : NetworkResilienceController :=
  match controller.worker with
  | none => controller
  | some running => controller.recoveryStep env running

end NetworkResilienceController

/-! ## Steps of the whole controller -/

inductive ResilienceAction where
  | receive (satisfied : Bool) (interfaces : List String)
      (reason fingerprint now : String)
  | willSleep (now : String)
  | didWake (now : String)
  | stop
  | notice (index : Nat)
  | fire (index : Nat)
  | work (env : RecoverySurroundings)

namespace NetworkResilienceController

def perform (controller : NetworkResilienceController) :
    ResilienceAction → NetworkResilienceController
  | .receive satisfied interfaces reason fingerprint now =>
      controller.receive satisfied interfaces reason fingerprint now
  | .willSleep now => controller.willSleep now
  | .didWake now => controller.didWake now
  | .stop => controller.stop
  | .notice index => controller.noticeStep index
  | .fire index => controller.fire index
  | .work env => controller.workerStep env

end NetworkResilienceController

end Vzctl
