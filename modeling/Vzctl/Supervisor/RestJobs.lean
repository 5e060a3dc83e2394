import Mathlib.Logic.Function.Basic
import Vzctl.Json
import Vzctl.Lib.Dictionary
import Vzctl.Supervisor.LineAccumulator

/-!
# REST jobs

`RestJobRunner`: the table of jobs, their order and the marks of `cancel`.  One
step is one critical section of `lock`: a call of `start` or `cancel`, a log
line, and the two updates of `run`.
-/

namespace Vzctl

inductive JobStatus where
  | queued
  | running
  | succeeded
  | failed
  deriving DecidableEq, Repr

/-- `status == .queued || status == .running`. -/
def JobStatus.isActive : JobStatus → Bool
  | .queued | .running => true
  | .succeeded | .failed => false

/-- `status == .succeeded || status == .failed`. -/
def JobStatus.isTerminal (status : JobStatus) : Bool := !status.isActive

structure RestJob where
  id : String
  kind : String
  status : JobStatus
  createdAt : String
  updatedAt : String
  result : Option JSONValue := none
  error : Option String := none
  log : List String := []
  progressPercent : Option Int := none
  progressLabel : Option String := none

def maxLogLines : Nat := 500

structure JobLimits where
  retainedJobs : Int := 32
  activeJobs : Int := 4

/-- What the updates of jobs use of Foundation's texts. -/
structure JobTexts where
  decoder : TextDecoder
  /-- `trimmingCharacters(in: .whitespacesAndNewlines)`. -/
  trimmed : String → String
  /-- `JSONDecoder().decode`. -/
  decode : String → Option JSONValue
  /-- The text from the first opening to the last closing brace, if the one
  is in front of the other. -/
  braced : String → Option String
  /-- The number in the first match of `(\d{1,3})%\s*$`. -/
  percentMatch : String → Option Int
  /-- The line without the match of `\s*\d{1,3}%\s*$`, trimmed. -/
  progressLabel : String → String

/-! ## Updates of a job -/

section Updates

variable (texts : JobTexts)

def progressPercent (line : String) : Option Int :=
  (texts.percentMatch line).filter (· ≤ 100)

def isProgressLine (line : String) : Bool :=
  (progressPercent texts line).isSome

def ingestLogLine (job : RestJob) (rawLine : String) : RestJob :=
  let line := texts.decoder.decoding
    (rawLine.toUTF8.data.toList.take maxLineBytes)
  let job :=
    match progressPercent texts line with
    | some percent =>
        { job with
          progressPercent := some percent
          progressLabel := some (texts.progressLabel line)
          log :=
            if job.log.getLast?.any (isProgressLine texts) then
              job.log.dropLast ++ [line]
            else
              job.log ++ [line] }
    | none => { job with log := job.log ++ [line] }
  { job with log := job.log.drop (job.log.length - maxLogLines) }

/-- What `appendLog` does to the job. -/
def logAppended (lines : List String) (now : String) (job : RestJob) :
    RestJob :=
  { lines.foldl (ingestLogLine texts) job with updatedAt := now }

/-- The first update of `run`. -/
def begun (now : String) (job : RestJob) : RestJob :=
  { job with status := .running, updatedAt := now }

structure ProcessResult where
  exitCode : Int
  stdout : String
  stderr : String
  deriving DecidableEq, Repr

def parseJSONValue (text : String) : Option JSONValue :=
  let trimmed := texts.trimmed text
  (texts.decode trimmed).or ((texts.braced trimmed).bind texts.decode)

def messageFromEnvelope (value : JSONValue) : Option String :=
  match value.field? "message" with
  | some (.string message) => some message
  | _ =>
      match (value.field? "summary").bind (·.field? "message") with
      | some (.string message) => some message
      | _ => none

/-- `JobProcessError.cancelled.description`. -/
def cancelledDescription : String :=
  "job cancelled; already applied resources were not rolled back"

/-- The last update of `run`: the process has ended, or it could not be
started or was stopped. -/
def finished (isCancelled : Bool) (outcome : Except String ProcessResult)
    (now : String) (job : RestJob) : RestJob :=
  let job := { job with updatedAt := now }
  match outcome with
  | .error failure => { job with status := .failed, error := some failure }
  | .ok result =>
      let parsed := parseJSONValue texts result.stdout
      if isCancelled then
        { job with status := .failed, error := some cancelledDescription }
      else if result.exitCode = 0 then
        { job with
          status := .succeeded
          result := some (parsed.getD (.object [
            ("stdout", .string result.stdout), ("exit_code", .number 0)])) }
      else
        { job with
          status := .failed
          error := some ((parsed.bind messageFromEnvelope).getD
            (if result.stderr = "" then "exit " ++ toString result.exitCode
            else result.stderr))
          result := some (parsed.getD (.object [
            ("stdout", .string result.stdout),
            ("stderr", .string result.stderr),
            ("exit_code", .number result.exitCode)])) }

end Updates

/-! ## The runner -/

structure RestJobRunner where
  jobs : Dictionary RestJob := ∅
  order : List String := []
  cancelledJobs : List String := []

namespace RestJobRunner

variable (limits : JobLimits) (runner : RestJobRunner)

def statusOf (id : String) : Option JobStatus :=
  (runner.jobs.lookup id).map (·.status)

def isActive (id : String) : Bool :=
  (runner.statusOf id).any JobStatus.isActive

def isTerminal (id : String) : Bool :=
  (runner.statusOf id).any JobStatus.isTerminal

/-- The queued and the running jobs. -/
def activeCount : Nat :=
  (runner.jobs.entries.filter fun entry => entry.2.status.isActive).length

/-- One round of the loop of `pruneLocked`, which removes the first job in
the order that has ended. -/
def pruneOne : Option RestJobRunner :=
  (runner.order.find? runner.isTerminal).map fun id => {
    order := runner.order.eraseP runner.isTerminal
    jobs := runner.jobs.erase id
    cancelledJobs := runner.cancelledJobs.filter (· ≠ id) }

def pruneRounds : Nat → RestJobRunner → RestJobRunner
  | 0, runner => runner
  | rounds + 1, runner =>
      if max 1 limits.retainedJobs < runner.jobs.entries.length then
        match runner.pruneOne with
        | none => runner
        | some pruned => pruneRounds rounds pruned
      else
        runner

/-- Every round removes one identifier from the order. -/
def pruneLocked : RestJobRunner :=
  pruneRounds limits runner.order.length runner

def start (id kind now : String) : Except String RestJobRunner :=
  if (runner.activeCount : Int) <
      max 1 (min limits.activeJobs limits.retainedJobs) then
    .ok <| pruneLocked limits { runner with
      jobs := runner.jobs.insert id {
        id := id
        kind := kind
        status := .queued
        createdAt := now
        updatedAt := now }
      order := runner.order ++ [id] }
  else
    .error "too many active jobs; retry after a running job finishes"

def cancel (id : String) : Bool × RestJobRunner :=
  if runner.isActive id then
    (true, { runner with cancelledJobs := runner.cancelledJobs.insert id })
  else
    (false, runner)

def update (id : String) (mutate : RestJob → RestJob) : RestJobRunner :=
  match runner.jobs.lookup id with
  | none => runner
  | some job =>
      let job := mutate job
      pruneLocked limits { runner with
        jobs := runner.jobs.insert id job
        cancelledJobs :=
          if job.status.isTerminal then
            runner.cancelledJobs.filter (· ≠ id)
          else
            runner.cancelledJobs }

def appendLog (texts : JobTexts) (id : String) (lines : List String)
    (now : String) : RestJobRunner :=
  let filtered := lines.filter (· ≠ "")
  if filtered = [] then runner
  else runner.update limits id (logAppended texts filtered now)

end RestJobRunner

/-! ## Interleavings -/

/-- Where `run` of a job stands. -/
inductive RunPoint where
  /-- On its queue, before the first update. -/
  | dispatched
  /-- The process runs. -/
  | streaming
  deriving DecidableEq, Repr

structure RestJobSystem where
  runner : RestJobRunner := {}
  runs : String → Option RunPoint := fun _ => none
  /-- The identifiers that `UUID()` has given so far. -/
  issued : List String := []

inductive RestJobAction where
  | start (id kind now : String)
  | cancel (id : String)
  | appendLog (id : String) (lines : List String) (now : String)
  | begin (id now : String)
  | finish (id : String) (outcome : Except String ProcessResult)
      (now : String)

namespace RestJobSystem

variable (limits : JobLimits) (texts : JobTexts)

def setRun (system : RestJobSystem) (id : String) (point : Option RunPoint) :
    RestJobSystem :=
  { system with runs := Function.update system.runs id point }

/-- What an action does.  The updates of `run` come one after the other. -/
def perform (system : RestJobSystem) : RestJobAction → RestJobSystem
  | .start id kind now =>
      let drawn := { system with issued := id :: system.issued }
      match system.runner.start limits id kind now with
      | .error _ => drawn
      | .ok runner => { drawn with runner := runner }.setRun id
          (some .dispatched)
  | .cancel id => { system with runner := (system.runner.cancel id).2 }
  | .appendLog id lines now =>
      { system with
        runner := system.runner.appendLog limits texts id lines now }
  | .begin id now =>
      match system.runs id with
      | some .dispatched =>
          { system with
            runner := system.runner.update limits id (begun now) }.setRun id
            (some .streaming)
      | _ => system
  | .finish id outcome now =>
      match system.runs id with
      | some .streaming =>
          { system with
            runner := system.runner.update limits id (finished texts
              (system.runner.cancelledJobs.contains id) outcome now) }.setRun
            id none
      | _ => system

/-- `UUID()` gives an identifier once. -/
def Fresh (system : RestJobSystem) : RestJobAction → Prop
  | .start id _ _ => id ∉ system.issued
  | _ => True

end RestJobSystem

end Vzctl
