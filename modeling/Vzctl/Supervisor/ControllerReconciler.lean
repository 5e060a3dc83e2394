import Mathlib.Data.String.Basic
import Mathlib.Logic.Function.Basic
import Vzctl.Json
import Vzctl.Lib.Dictionary
import Vzctl.Lib.Procedure
import Vzctl.Lib.SortedBy
import Vzctl.Lib.Transition

/-!
# The controller reconciler of the supervisor

`ControllerReconciler`: registered stack sources, one worker at a time.  One
step is one critical section of `lock` or what happens between two of them:
the start of a worker on its queue, its end, an event, the end of a wait.
-/

namespace Vzctl

namespace Controllers

/-! ## Public summaries -/

/-- What the summaries use of Foundation's texts. -/
structure TextRules where
  lowercased : String → String
  contains : String → String → Bool
  /-- The characters that have no control scalar. -/
  printable : String → List String

def sensitiveWords : List String :=
  ["password", "secret", "token", "authorization", "private key", "://", "@"]

def publicScalar (rules : TextRules) : Option JSONValue → JSONValue
  | some (.string text) =>
      if sensitiveWords.any (rules.contains (rules.lowercased text)) then
        .string "[redacted]"
      else
        .string (String.join ((rules.printable text).take 160))
  | some (.number value) => .number value
  | some (.bool value) => .bool value
  | _ => .null

def knownCodes : List String :=
  ["LeaseHeld", "RegistrationRevoked", "RegistrationUnavailable",
    "InvalidConfig", "InvalidState", "SecretStorage", "GuestUnavailable",
    "KubernetesUnavailable", "InvalidOperation", "Usage"]

def degraded (reason : String) : JSONValue :=
  .object [("state", .string "Degraded"), ("reason", .string reason)]

def publicFields (rules : TextRules) (item : JSONValue)
    (keys : List String) : List (String × JSONValue) :=
  keys.map fun key => (key, publicScalar rules (item.field? key))

/-- The members of `source` that are texts. -/
def publicSource (rules : TextRules) (source : JSONValue) : JSONValue :=
  .object <|
    (["type", "cluster", "namespace", "name", "uid"].filter fun key =>
      ((source.field? key).bind (·.asString?)).isSome).map fun key =>
        (key, publicScalar rules (source.field? key))

def publicConditions (rules : TextRules) (conditions : List JSONValue) :
    JSONValue :=
  .array <| (conditions.take 8).filterMap fun condition =>
    match condition with
    | .object _ =>
        some (.object (publicFields rules condition
          ["type", "status", "reason"]))
    | _ => none

def publicClaim (rules : TextRules) (claim : JSONValue) : JSONValue :=
  match claim with
  | .object _ =>
      .object <|
        publicFields rules claim
          ["name", "kind", "state", "observedGeneration"] ++
        (match claim.field? "source" with
        | some (.object source) =>
            [("source", publicSource rules (.object source))]
        | _ => []) ++
        (match claim.field? "conditions" with
        | some (.array conditions) =>
            [("conditions", publicConditions rules conditions)]
        | _ => [])
  | _ => .object [("state", .string "Unknown")]

def publicSummary (rules : TextRules) (value : JSONValue) : JSONValue :=
  match value with
  | .object _ =>
      match value.field? "code" with
      | some (.string code) =>
          degraded (if code ∈ knownCodes then code else "ReconcileFailed")
      | _ =>
          match value.field? "claims" with
          | some (.array claims) =>
              .object [
                ("claims",
                  .array ((claims.take 256).map (publicClaim rules))),
                ("warnings", .number
                  (((value.field? "warnings").bind
                    (·.asArray?)).getD []).length)]
          | _ => degraded "InvalidStatus"
  | _ => degraded "InvalidStatus"

/-- How the worker ends. -/
inductive WorkerResult where
  | returned (value : JSONValue)
  | timedOut
  | cancelled
  | failed

def WorkerResult.summary (rules : TextRules) : WorkerResult → JSONValue
  | .returned value => publicSummary rules value
  | .timedOut => degraded "ReconcileDeadlineExceeded"
  | .cancelled => degraded "ReconcileCancelled"
  | .failed => degraded "ReconcileFailed"

/-! ## State -/

structure Registration where
  project : String
  configPath : String
  generation : String
  deriving DecidableEq, Repr

/-- `active`; a worker is known by its number, which is its completion. -/
structure ActiveWorker where
  registration : Registration
  completion : Nat
  correlation : String
  deriving DecidableEq, Repr

/-- Where the block of a worker stands on its queue. -/
inductive WorkerPoint where
  | queued
  | running
  /-- The worker has returned; its summary is not recorded yet. -/
  | recording (summary : JSONValue)
  | announcing (summary : JSONValue)
  | leaving

/-- The worker has not returned yet, or its end is not noted yet. -/
def WorkerPoint.isActive : WorkerPoint → Bool
  | .queued | .running | .recording _ => true
  | .announcing _ | .leaving => false

structure WorkerTask where
  active : ActiveWorker
  point : WorkerPoint
  /-- How often the project had been registered when the worker was chosen. -/
  registered : Nat

/-- A call of `unregister`, with the projects it has yet to do. -/
structure UnregisterCall where
  remaining : List String
  /-- The completion it waits for, and how often the project had been
  registered when it was removed. -/
  waiting : Option (Nat × Nat)
  deriving DecidableEq, Repr

structure ControllerEvent where
  worker : ActiveWorker
  project : String
  generation : String
  correlation : String
  status : JSONValue

structure ControllerReconciler where
  registrations : Dictionary Registration
  eligibleAt : Dictionary Nat
  lastSummary : Dictionary JSONValue
  lastAttemptAt : Dictionary JSONValue
  active : Option ActiveWorker
  stopped : Bool
  lastProject : String
  registryError : Option String
  /-- The contents of `controller-registry.json`. -/
  registryFile : Dictionary Registration
  /-- The contents of `controller-status.json`. -/
  statusFile : Dictionary JSONValue
  tasks : Nat → Option WorkerTask
  /-- The next completion. -/
  started : Nat
  calls : Nat → Option UnregisterCall
  /-- How often a project has been registered. -/
  registerCount : String → Nat
  /-- The generations that were ever registered. -/
  generations : List String
  /-- The `unregister(project:)` that have returned without throwing, with
  the count of their project when they removed it. -/
  unregistered : List (String × Nat)
  events : List ControllerEvent

/-- How the write of a file fares. -/
inductive FileWrite where
  | written
  | failed
  /-- The file is written, but `chmod` fails. -/
  | unprotected
  deriving DecidableEq, Repr

/-- What a step is told by its surroundings. -/
structure ReconcilerEnv where
  now : Nat := 0
  interval : Nat := 30
  registryWrite : FileWrite := .written
  /-- `persistStatuses` has written its file. -/
  statusWritten : Bool := true
  /-- The standardized path, if it is that of a file. -/
  file : Option String := none
  /-- `UUID().uuidString.lowercased()`. -/
  uuid : String := ""

abbrev ReconcilerM (α : Type) := Procedure ControllerReconciler String α

def isAlphanumeric (scalar : Char) : Bool :=
  scalar.isAlpha || scalar.isDigit

def validProject (value : String) : Bool :=
  value ≠ "" && value.utf8ByteSize ≤ 63 &&
    (value.toList.head?).any isAlphanumeric &&
    value.toList.all fun scalar =>
      isAlphanumeric scalar || "-_.".toList.contains scalar

namespace ControllerReconciler

/-- What `init` makes of `controller-registry.json`. -/
inductive RegistryFile where
  | missing
  /-- Not a private regular file of this user, or not a registry. -/
  | unsafeFile
  | contents (values : Dictionary Registration)

/-- The check of a registry that was decoded. -/
def validRegistry (isUUID : String → Bool)
    (values : Dictionary Registration) : Bool :=
  values.entries.length ≤ 128 &&
    values.entries.all fun entry =>
      entry.1 = entry.2.project && validProject entry.1 &&
        "/".isPrefixOf entry.2.configPath &&
        entry.2.configPath.utf8ByteSize ≤ 1024 && isUUID entry.2.generation

/-- The registrations `init` accepts, or that it found no valid registry. -/
def readRegistry (isUUID : String → Bool) :
    RegistryFile → Option (Dictionary Registration)
  | .missing => some ∅
  | .unsafeFile => none
  | .contents values =>
      if validRegistry isUUID values then some values else none

/-- `init`, over the two files of an earlier process. -/
def loaded (isUUID : String → Bool) (now interval : Nat)
    (registry : RegistryFile) (statuses : Dictionary JSONValue) :
    ControllerReconciler :=
  let registrations := (readRegistry isUUID registry).getD ∅
  let registered (project : String) : Bool := project ∈ registrations
  { registrations := registrations
    eligibleAt := registrations.mapValues fun _ _ => some (now + interval)
    lastSummary := statuses.mapValues fun project value =>
      if registered project then
        some ((value.field? "lastStatus").getD value)
      else
        none
    lastAttemptAt := statuses.mapValues fun project value =>
      if registered project ∧ (value.field? "lastStatus").isSome then
        value.field? "lastAttemptAt"
      else
        none
    active := none
    stopped := false
    lastProject := ""
    registryError :=
      if (readRegistry isUUID registry).isSome then none
      else some ("controller registry is unavailable or unsafe; " ++
        "automatic reconcile disabled")
    registryFile :=
      match registry with
      | .contents values => values
      | _ => ∅
    statusFile := statuses
    tasks := fun _ => none
    started := 0
    calls := fun _ => none
    registerCount := fun _ => 0
    generations :=
      registrations.entries.map fun entry => entry.2.generation
    unregistered := []
    events := [] }

variable (env : ReconcilerEnv) (state : ControllerReconciler)

/-! ## Files -/

def persist (values : Dictionary Registration) : ReconcilerM Unit :=
  fun state =>
    match env.registryWrite with
    | .written => (.ok (), { state with registryFile := values })
    | .failed => (.error "cannot write controller registry", state)
    | .unprotected =>
        (.error "cannot protect controller registry",
          { state with registryFile := values })

/-- The records of `persistStatuses`. -/
def statusRecords : Dictionary JSONValue :=
  state.lastSummary.mapValues fun project summary =>
    some (.object [
      ("lastStatus", summary),
      ("lastAttemptAt", (state.lastAttemptAt.lookup project).getD .null)])

def persistStatuses : ControllerReconciler :=
  if env.statusWritten then
    { state with statusFile := state.statusRecords }
  else
    state

/-! ## `register` and `unregister` -/

def requireRegistry : ReconcilerM Unit :=
  .reading fun state =>
    match state.registryError with
    | some message => .error message
    | none => .ok ()

/-- Both tables forget what was recorded for a project. -/
def forget (project : String) : ControllerReconciler :=
  { state with
    lastSummary := state.lastSummary.erase project
    lastAttemptAt := state.lastAttemptAt.erase project }

/-- The assignments of `register`, behind `persist`. -/
def registered (record : Registration) : ControllerReconciler :=
  persistStatuses env <|
    { state with
      registrations := state.registrations.insert record.project record
      eligibleAt :=
        state.eligibleAt.insert record.project (env.now + env.interval)
      registerCount := Function.update state.registerCount record.project
        (state.registerCount record.project + 1)
      generations := state.generations ++ [record.generation] }.forget
        record.project

def register (project : String) : ReconcilerM Registration := do
  .require (validProject project = true) "invalid controller project"
  let path ← Procedure.reading fun _ =>
    match env.file with
    | some path => .ok path
    | none => .error "controller config_path must be an existing file"
  .require ("/".isPrefixOf path ∧ path.utf8ByteSize ≤ 1024)
    "controller config_path must be an existing file"
  requireRegistry
  let values ← Procedure.reading fun state => .ok state.registrations
  .require (project ∈ values ∨ values.entries.length < 128)
    "controller registration limit reached"
  let record : Registration := {
    project := project
    configPath := path
    generation := env.uuid }
  persist env (values.insert project record)
  .writing fun state => .ok (state.registered env record)
  return record

/-- The assignments of `unregister(project:)`, behind `persist`. -/
def removed (project : String) : ControllerReconciler :=
  persistStatuses env <|
    { state with
      registrations := state.registrations.erase project
      eligibleAt := state.eligibleAt.erase project }.forget project

/-- `active?.registration.project == project ? active?.completion : nil`. -/
def activeCompletion (project : String) : Option Nat :=
  (state.active.filter fun active =>
    active.registration.project = project).map (·.completion)

/-- The critical section of `unregister(project:)`. -/
def unregisterLocked (project : String) : ReconcilerM (Option Nat) := do
  requireRegistry
  let values ← Procedure.reading fun state => .ok state.registrations
  persist env (values.erase project)
  .writing fun state => .ok (state.removed env project)
  .reading fun state => .ok (state.activeCompletion project)

def setCall (call : Nat) (next : Option UnregisterCall) :
    ControllerReconciler :=
  { state with calls := Function.update state.calls call next }

/-- `unregister(project:)` returns, and the next project is up. -/
def unregisterReturned (call : Nat) (project : String) (count : Nat)
    (rest : List String) : ControllerReconciler :=
  { state with
    unregistered := state.unregistered ++ [(project, count)] }.setCall call
      (some ⟨rest, none⟩)

/-- One step of `unregister`. -/
def unregisterStep (call : Nat) (timedOut : Bool) : ControllerReconciler :=
  match state.calls call with
  | none => state
  | some ⟨[], _⟩ => state.setCall call none
  | some ⟨project :: rest, none⟩ =>
      match unregisterLocked env project state with
      | (.error _, reached) => reached.setCall call none
      | (.ok none, reached) =>
          reached.unregisterReturned call project
            (reached.registerCount project) rest
      | (.ok (some completion), reached) =>
          reached.setCall call (some ⟨project :: rest,
            some (completion, reached.registerCount project)⟩)
  | some ⟨project :: rest, some (completion, count)⟩ =>
      if (state.tasks completion).isNone then
        state.unregisterReturned call project count rest
      else if timedOut then
        state.setCall call none
      else
        state

/-- `unregister(configPath:)` takes the projects of a path. -/
def projectsOf (path : String) : List String :=
  (state.registrations.entries.filter fun entry =>
    entry.2.configPath = path).map (·.1)

/-! ## `tick` and its workers -/

def candidates : List Registration :=
  sortedBy (·.project) <|
    (state.registrations.entries.map (·.2)).filter fun registration =>
      (state.eligibleAt.lookup registration.project).any (· ≤ env.now)

/-- Round robin over the projects. -/
def selected : Option Registration :=
  let candidates := state.candidates env
  (candidates.find? fun registration =>
    state.lastProject < registration.project).or candidates.head?

def tick : ControllerReconciler :=
  if state.stopped ∨ state.registryError.isSome ∨ state.active.isSome then
    state
  else
    match state.selected env with
    | none => state
    | some registration =>
        let worker : ActiveWorker := {
          registration := registration
          completion := state.started
          correlation := env.uuid }
        { state with
          lastProject := registration.project
          active := some worker
          started := state.started + 1
          tasks := Function.update state.tasks state.started (some {
            active := worker
            point := .queued
            registered := state.registerCount registration.project }) }

def moveTask (number : Nat) (task : WorkerTask) (point : WorkerPoint) :
    ControllerReconciler :=
  { state with
    tasks := Function.update state.tasks number
      (some { task with point := point }) }

/-- `registrations[project]?.generation == registration.generation`. -/
def isCurrent (registration : Registration) : Bool :=
  ((state.registrations.lookup registration.project).map (·.generation)) =
    some registration.generation

/-- The section that notes the end of a worker, and whether its summary is
new. -/
def record (registration : Registration) (summary : JSONValue) :
    ControllerReconciler × Bool :=
  let idle := { state with active := none }
  if state.stopped ∨ state.isCurrent registration = false then
    (idle, false)
  else
    let project := registration.project
    (persistStatuses env {
      idle with
      eligibleAt := state.eligibleAt.insert project (env.now + env.interval)
      lastSummary := state.lastSummary.insert project summary
      lastAttemptAt := state.lastAttemptAt.insert project (.number env.now) },
      decide (state.lastSummary.lookup project ≠ some summary))

/-- `controller.status.changed`. -/
def announce (worker : ActiveWorker) (summary : JSONValue) :
    ControllerReconciler :=
  { state with
    events := state.events ++ [{
      worker := worker
      project := worker.registration.project
      generation := worker.registration.generation
      correlation := worker.correlation
      status := summary }] }

/-- One step of the block of a worker. -/
def workerStep (rules : TextRules) (result : WorkerResult) (number : Nat) :
    ControllerReconciler :=
  match state.tasks number with
  | none => state
  | some task =>
      match task.point with
      | .queued => state.moveTask number task .running
      | .running =>
          state.moveTask number task (.recording (result.summary rules))
      | .recording summary =>
          let (reached, changed) :=
            state.record env task.active.registration summary
          reached.moveTask number task
            (if changed then .announcing summary else .leaving)
      | .announcing summary =>
          (state.announce task.active summary).moveTask number task .leaving
      | .leaving =>
          { state with tasks := Function.update state.tasks number none }

end ControllerReconciler

/-! ## Steps -/

inductive ReconcilerAction where
  | register (project : String)
  | unregister (call : Nat) (project : String)
  | unregisterPath (call : Nat) (path : String)
  | proceed (call : Nat) (timedOut : Bool)
  | stop
  | tick
  | work (number : Nat) (result : WorkerResult)

namespace ControllerReconciler

/-- What an action does.  A call is known by a number that is free. -/
def perform (rules : TextRules) (state : ControllerReconciler) :
    ReconcilerEnv × ReconcilerAction → ControllerReconciler
  | (env, .register project) => (register env project state).2
  | (_, .unregister call project) =>
      match state.calls call with
      | some _ => state
      | none => state.setCall call (some ⟨[project], none⟩)
  | (_, .unregisterPath call path) =>
      match state.calls call with
      | some _ => state
      | none => state.setCall call (some ⟨state.projectsOf path, none⟩)
  | (env, .proceed call timedOut) => state.unregisterStep env call timedOut
  | (_, .stop) => { state with stopped := true }
  | (env, .tick) => state.tick env
  | (env, .work number result) => state.workerStep env rules result number

end ControllerReconciler

end Controllers

end Vzctl
