import Vzctl.Lib.Checkpoint
import Vzctl.Reconciler.Journal

/-!
# Runs of the reconciler

Processes of the command line inspect a stack, begin or resume an operation,
work through the step list of its mode and finish.  Any process can stop at
any point, several can run at once, and the supervisor can fail any statement
of any call.  The system keeps, beside the database and the processes, the
trace of step executions of every journal row.
-/

namespace Vzctl

open Transitions Checkpoint

/-! ## Step lists -/

def applySteps : List String :=
  ["validate", "acquire_lease", "ensure_nets", "ensure_dns", "ensure_ca",
   "ensure_images", "attach_nets", "ensure_vms", "start_helpers",
   "await_agents", "await_cloud_init", "ensure_guest_utils",
   "ensure_docker_project_mount", "ensure_oidc", "ensure_ingress",
   "ensure_ca_rollout", "ensure_oidc_inject", "ensure_docker_context",
   "apply_routes_policies", "ensure_kubernetes", "ensure_service_claims",
   "ensure_containers", "ensure_ports", "release_lease"]

def downSteps : List String :=
  ["disable_service_controllers", "purge_ingress", "purge_dns_records",
   "purge_oidc", "stop_helpers", "detach_nets", "destroy_managed",
   "purge_docker_context", "purge_ports", "dns_cleanup", "release_lease"]

/-- The list a run with this effective mode works through. -/
def stepsOf (mode : Mode) : List String :=
  if mode = .down then downSteps else applySteps

/-- The list of the mode a journal row records. -/
def journalSteps (record : JournalRecord) : List String :=
  if record.operationMode = some "down" then downSteps else applySteps

theorem stepsOf_nodup (mode : Mode) : (stepsOf mode).Nodup := by
  cases mode <;> decide

/-! ## Processes -/

structure RunOptions where
  stackID : String
  desiredHash : String
  mode : Mode
  resume : Bool
  purge : Bool

/-- Where a process stands in `run`. -/
inductive RunPhase where
  /-- After `stack.inspect`. -/
  | inspected
  /-- At the head of the step loop. -/
  | looping (journalID : String) (remaining : List String)
  /-- The step is checkpointed as running. -/
  | executing (journalID step : String) (rest : List String)
  /-- The step failed. -/
  | failing (journalID step : String)
  /-- The step is executed and not yet checkpointed as completed. -/
  | executed (journalID step : String) (rest : List String)

structure RunProcess where
  options : RunOptions
  effectiveMode : Mode
  effectivePurge : Bool
  phase : RunPhase

/-- The database, the running process of each holder, and the executions of
each journal row. -/
structure RunSystem where
  database : StateDatabase
  processes : String → Option RunProcess
  executions : String → List (Execution String)

inductive RunEvent where
  | inspect (holder : String) (options : RunOptions)
  | begin (holder : String) (env : CallEnv)
  | heartbeat (holder : String) (env : CallEnv)
  | checkpointRunning (holder : String) (env : CallEnv)
  | execute (holder : String) (succeeds : Bool)
  | checkpointFailed (holder : String) (env : CallEnv) (message : String)
  | checkpointCompleted (holder : String) (env : CallEnv)
  | finish (holder : String) (env : CallEnv)
      (resources : Option (List StackResourceRecord))
  /-- `apply --abort`, and the abort after a declined confirmation. -/
  | abort (stackID holder : String) (env : CallEnv)
  /-- The process crashes or returns a failure. -/
  | stop (holder : String)

namespace RunSystem

def fresh (leaseDuration : Nat) : RunSystem where
  database := .fresh leaseDuration
  processes := fun _ => none
  executions := fun _ => []

def setDatabase (system : RunSystem) (database : StateDatabase) :
    RunSystem :=
  { system with database := database }

def setProcess (system : RunSystem) (holder : String)
    (process : Option RunProcess) : RunSystem :=
  { system with
    processes := Function.update system.processes holder process }

def appendExecution (system : RunSystem) (journalID : String)
    (execution : Execution String) : RunSystem :=
  { system with
    executions := Function.update system.executions journalID
      (system.executions journalID ++ [execution]) }

/-- `stack.inspect` and the effective mode; `plan`, `diff` and `adopt` return
before a begin. -/
def inspect (system : RunSystem) (holder : String)
    (options : RunOptions) : RunSystem :=
  if (system.processes holder).isSome ∨
      options.mode ∈ [Mode.plan, Mode.diff, Mode.adopt] then
    system
  else
    let context :=
      if options.resume then
        journalContext (system.database.incompleteJournal options.stackID)
      else
        .ok (options.mode, options.purge)
    match context with
    | .error _ => system
    | .ok (effectiveMode, effectivePurge) =>
        system.setProcess holder <| some {
          options := options
          effectiveMode := effectiveMode
          effectivePurge := effectivePurge
          phase := .inspected }

/-- `stack.begin`, and the steps that are left for this run. -/
def begin (system : RunSystem) (holder : String) (env : CallEnv)
    (process : RunProcess) : RunSystem :=
  let options := process.options
  let mode := if options.resume then "resume" else options.mode.command
  let (outcome, database) :=
    system.database.beginApply env options.stackID holder
      options.desiredHash
      (beginPayload options.desiredHash mode options.purge) options.resume
  match outcome with
  | .error _ => (system.setDatabase database).setProcess holder none
  | .ok journal =>
      let resumeStep := if options.resume then some journal.step else none
      (system.setDatabase database).setProcess holder <| some
        { process with
          phase := .looping journal.id
            (skipTo resumeStep resumeStep.isNone
              (stepsOf process.effectiveMode)) }

def heartbeat (system : RunSystem) (holder : String) (env : CallEnv)
    (process : RunProcess) (journalID : String) : RunSystem :=
  system.setDatabase <|
    (system.database.heartbeatApply env journalID process.options.stackID
      holder).2

/-- The checkpoint before a step; the execution starts once it is accepted. -/
def startStep (system : RunSystem) (holder : String) (env : CallEnv)
    (process : RunProcess) (journalID step : String)
    (rest : List String) : RunSystem :=
  let (outcome, database) :=
    system.database.advanceApply env journalID process.options.stackID
      holder step "running" none
  match outcome with
  | .error _ => (system.setDatabase database).setProcess holder none
  | .ok _ =>
      ((system.setDatabase database).appendExecution journalID
        (.started step)).setProcess holder <| some
          { process with phase := .executing journalID step rest }

/-- The checkpoint after a step; the process goes on only when it is
accepted. -/
def checkpoint (system : RunSystem) (holder : String) (env : CallEnv)
    (process : RunProcess) (journalID step status : String)
    (error : Option String) (next : Option RunPhase) : RunSystem :=
  let (outcome, database) :=
    system.database.advanceApply env journalID process.options.stackID
      holder step status error
  match outcome with
  | .error _ => (system.setDatabase database).setProcess holder none
  | .ok _ =>
      (system.setDatabase database).setProcess holder <|
        next.map fun phase => { process with phase := phase }

def finish (system : RunSystem) (holder : String) (env : CallEnv)
    (process : RunProcess) (journalID : String)
    (resources : Option (List StackResourceRecord)) : RunSystem :=
  (system.setDatabase
    (system.database.finishApply env journalID process.options.stackID
      holder resources).2).setProcess holder none

/-- An event that does not fit the phase of its process does nothing. -/
def next (system : RunSystem) : RunEvent → RunSystem
  | .inspect holder options => system.inspect holder options
  | .begin holder env =>
      match system.processes holder with
      | some process =>
          match process.phase with
          | .inspected => system.begin holder env process
          | _ => system
      | none => system
  | .heartbeat holder env =>
      match system.processes holder with
      | some process =>
          match process.phase with
          | .inspected => system
          | .looping journalID _ =>
              system.heartbeat holder env process journalID
          | .executing journalID _ _ =>
              system.heartbeat holder env process journalID
          | .failing journalID _ =>
              system.heartbeat holder env process journalID
          | .executed journalID _ _ =>
              system.heartbeat holder env process journalID
      | none => system
  | .checkpointRunning holder env =>
      match system.processes holder with
      | some process =>
          match process.phase with
          | .looping journalID (step :: rest) =>
              system.startStep holder env process journalID step rest
          | _ => system
      | none => system
  | .execute holder succeeds =>
      match system.processes holder with
      | some process =>
          match process.phase with
          | .executing journalID step rest =>
              if succeeds then
                (system.appendExecution journalID
                  (.completed step)).setProcess holder <| some
                    { process with phase := .executed journalID step rest }
              else
                (system.appendExecution journalID
                  (.failed step)).setProcess holder <| some
                    { process with phase := .failing journalID step }
          | _ => system
      | none => system
  | .checkpointFailed holder env message =>
      match system.processes holder with
      | some process =>
          match process.phase with
          | .failing journalID step =>
              system.checkpoint holder env process journalID step "failed"
                (some message) none
          | _ => system
      | none => system
  | .checkpointCompleted holder env =>
      match system.processes holder with
      | some process =>
          match process.phase with
          | .executed journalID step rest =>
              system.checkpoint holder env process journalID step "running"
                none (some (.looping journalID rest))
          | _ => system
      | none => system
  | .finish holder env resources =>
      match system.processes holder with
      | some process =>
          match process.phase with
          | .looping journalID [] =>
              system.finish holder env process journalID resources
          | _ => system
      | none => system
  | .abort stackID holder env =>
      system.setDatabase (system.database.abortApply env stackID holder).2
  | .stop holder => system.setProcess holder none

def step : RunSystem → RunEvent → RunSystem → Prop :=
  ofFunction next

end RunSystem

end Vzctl
