import Mathlib.Algebra.Order.Archimedean.Basic
import Mathlib.Logic.Function.Basic
import Vzctl.Supervisor.LineAccumulator

/-!
# Pumping a job process

`JobProcessRunner.run`: one loop reads both pipes of a child, watches for a
cancellation and the deadline, and terminates, kills and drains the child.
What the loop observes in one round is a `Round`.
-/

namespace Vzctl

inductive JobProcessError where
  | timedOut
  | cancelled
  | outputLimit
  | drainTimeout
  | readFailed (code : Int)
deriving DecidableEq

namespace JobProcessRunner

inductive Pipe where
  | out
  | err
deriving DecidableEq

/-- What `Darwin.read` returns; `interrupted` is `EINTR` and `wouldBlock` is
`EAGAIN` or `EWOULDBLOCK`. -/
inductive ReadResult where
  | bytes (data : List UInt8)
  | endOfFile
  | interrupted
  | wouldBlock
  | failed (code : Int)

/-- One round: the result of every read that may be made, and what
`cancelled`, `isRunning` and each `Date()` of the loop body return. -/
structure Round where
  read : Pipe → Nat → ReadResult
  cancelled : Bool := false
  checkedAt : ℚ := 0
  isRunning : Bool := false
  signalledAt : ℚ := 0
  exitedAt : ℚ := 0
  drainedAt : ℚ := 0

/-- What happens in the loop, for the statements about it. -/
inductive Event where
  | read (pipe : Pipe) (data : List UInt8)
  | endOfFile (pipe : Pipe)
  | failed (error : JobProcessError)
  | terminated
  | killed
deriving DecidableEq

/-- The arguments of `run` that the loop uses. -/
structure Call where
  timeout : ℚ
  stdoutLimit : Nat := 1048576
  stderrLimit : Nat := 262144

/-- The variables of the loop, the arguments `onStderr` was called with, and
the events in their order. -/
structure Pump where
  stdout : List UInt8 := []
  stderr : List UInt8 := []
  stderrTruncated : Bool := false
  eof : Pipe → Bool := fun _ => false
  failure : Option JobProcessError := none
  terminateAt : Option ℚ := none
  exitedAt : Option ℚ := none
  reported : List (List UInt8) := []
  log : List Event := []

namespace Pump

def note (pump : Pump) (event : Event) : Pump :=
  { pump with log := pump.log ++ [event] }

/-- `failure = failure ?? error`. -/
def fail (pump : Pump) (error : JobProcessError) : Pump :=
  { pump.note (.failed error) with failure := pump.failure.or (some error) }

def close (pump : Pump) (pipe : Pipe) : Pump :=
  { pump with eof := Function.update pump.eof pipe true }

def takeOut (call : Call) (data : List UInt8) (pump : Pump) : Pump :=
  let remaining := call.stdoutLimit - pump.stdout.length
  let taken := { pump with stdout := pump.stdout ++ data.take remaining }
  if remaining < data.length then taken.fail .outputLimit else taken

def takeErr (call : Call) (data : List UInt8) (pump : Pump) : Pump :=
  let stderr := pump.stderr ++ data
  let told := { pump with reported := pump.reported ++ [data] }
  if call.stderrLimit < stderr.length then
    { told with
      stderr := stderr.drop (stderr.length - call.stderrLimit)
      stderrTruncated := true }
  else
    { told with stderr := stderr }

def take (call : Call) (pipe : Pipe) (data : List UInt8) (pump : Pump) :
    Pump :=
  match pipe with
  | .out => takeOut call data (pump.note (.read .out data))
  | .err => takeErr call data (pump.note (.read .err data))

/-- The remaining attempts to read from one pipe. -/
def drain (call : Call) (pipe : Pipe) (read : Nat → ReadResult) :
    Nat → Nat → Pump → Pump
  | 0, _, pump => pump
  | attempts + 1, attempt, pump =>
      match read attempt with
      | .bytes data =>
          drain call pipe read attempts (attempt + 1) (pump.take call pipe data)
      | .endOfFile => (pump.close pipe).note (.endOfFile pipe)
      | .interrupted => drain call pipe read attempts (attempt + 1) pump
      | .wouldBlock => pump
      | .failed code => (pump.fail (.readFailed code)).close pipe

def drainPipe (call : Call) (round : Round) (pipe : Pipe) (pump : Pump) :
    Pump :=
  if pump.eof pipe then pump else drain call pipe (round.read pipe) 16 0 pump

def check (deadline : ℚ) (round : Round) (pump : Pump) : Pump :=
  let asked := if round.cancelled then pump.fail .cancelled else pump
  if deadline ≤ round.checkedAt then asked.fail .timedOut else asked

/-- The child is running. -/
def signal (round : Round) (pump : Pump) : Pump :=
  if pump.failure.isSome then
    match pump.terminateAt with
    | none =>
        { pump.note .terminated with terminateAt := some round.signalledAt }
    | some since =>
        if 2 ≤ round.signalledAt - since then pump.note .killed else pump
  else
    pump

end Pump

inductive Progress where
  | going (pump : Pump)
  | ended (pump : Pump)

/-- The child has exited. -/
def Pump.leave (round : Round) (pump : Pump) : Progress :=
  if pump.eof .out ∧ pump.eof .err then
    .ended pump
  else
    let since := pump.exitedAt.getD round.exitedAt
    let left := { pump with exitedAt := some since }
    if 1 ≤ round.drainedAt - since then
      .ended (left.fail .drainTimeout)
    else
      .going left

/-- The pump when the child is looked at. -/
def Pump.observed (call : Call) (deadline : ℚ) (round : Round) (pump : Pump) :
    Pump :=
  ((pump.drainPipe call round .out).drainPipe call round .err).check deadline
    round

def Pump.step (call : Call) (deadline : ℚ) (round : Round) (pump : Pump) :
    Progress :=
  if round.isRunning then
    .going ((pump.observed call deadline round).signal round)
  else
    (pump.observed call deadline round).leave round

/-- A call of `run`: whether it is cancelled before the start, why the child
cannot be started, the rounds of the loop, and the exit of the child. -/
structure Environment where
  cancelledBefore : Bool := false
  launchError : Option String := none
  startedAt : ℚ := 0
  rounds : Nat → Round
  terminationStatus : Int := 0

namespace Environment

/-- The loop after a number of rounds. -/
def pumped (call : Call) (env : Environment) : Nat → Progress
  | 0 => .going {}
  | count + 1 =>
      match env.pumped call count with
      | .going pump =>
          pump.step call (env.startedAt + call.timeout) (env.rounds count)
      | .ended pump => .ended pump

end Environment

inductive RunError where
  | job (error : JobProcessError)
  | launch (message : String)

def truncationMarker : String := "[earlier stderr truncated]\n"

/-- What `run` returns or throws behind the loop. -/
def Pump.result (decoder : TextDecoder) (env : Environment) (pump : Pump) :
    Except RunError (Int × String × String) :=
  match pump.failure with
  | some failure => .error (.job failure)
  | none => .ok (env.terminationStatus, decoder.decoding pump.stdout,
      (if pump.stderrTruncated then truncationMarker else "") ++
        decoder.decoding pump.stderr)

/-- How a call ends. -/
inductive Ends (call : Call) (decoder : TextDecoder) (env : Environment) :
    Except RunError (Int × String × String) → Prop
  | cancelled (before : env.cancelledBefore = true) :
      Ends call decoder env (.error (.job .cancelled))
  | unstarted {message : String} (before : env.cancelledBefore = false)
      (failed : env.launchError = some message) :
      Ends call decoder env (.error (.launch message))
  | pumped {count : Nat} {before pump : Pump}
      (wanted : env.cancelledBefore = false)
      (started : env.launchError = none)
      (running : env.pumped call count = .going before)
      (last : env.pumped call (count + 1) = .ended pump) :
      Ends call decoder env (pump.result decoder env)

/-! ## What the events say -/

def chunk? (pipe : Pipe) : Event → Option (List UInt8)
  | .read other data => if other = pipe then some data else none
  | _ => none

def chunks (pipe : Pipe) (log : List Event) : List (List UInt8) :=
  log.filterMap (chunk? pipe)

/-- The bytes that were read from a pipe. -/
def bytesOf (pipe : Pipe) (log : List Event) : List UInt8 :=
  (chunks pipe log).flatten

def failure? : Event → Option JobProcessError
  | .failed error => some error
  | _ => none

def failures (log : List Event) : List JobProcessError :=
  log.filterMap failure?

@[simp]
theorem bytesOf_append (pipe : Pipe) (front back : List Event) :
    bytesOf pipe (front ++ back) = bytesOf pipe front ++ bytesOf pipe back := by
  simp [bytesOf, chunks]

@[simp]
theorem chunks_append (pipe : Pipe) (front back : List Event) :
    chunks pipe (front ++ back) = chunks pipe front ++ chunks pipe back :=
  List.filterMap_append

/-- The end of the pipe was met, and nothing was read from it since. -/
def Settled (pipe : Pipe) (log : List Event) : Prop :=
  ∃ front back, log = front ++ .endOfFile pipe :: back ∧
    bytesOf pipe back = []

theorem Settled.append {pipe : Pipe} {log : List Event} {event : Event}
    (settled : Settled pipe log) (other : chunk? pipe event = none) :
    Settled pipe (log ++ [event]) := by
  obtain ⟨front, back, same, nothing⟩ := settled
  refine ⟨front, back ++ [event], by simp [same], ?_⟩
  rw [bytesOf_append, nothing, List.nil_append]
  simp [bytesOf, chunks, other]

/-- The variables behind a round, whether the loop goes on or not. -/
def Progress.pump : Progress → Pump
  | .going pump => pump
  | .ended pump => pump

variable {call : Call} {pump before after : Pump} {round : Round}
  {pipe : Pipe} {deadline : ℚ}

namespace Pump

/-! ## What the variables hold -/

/-- The variables of the loop, by the events so far. -/
structure Kept (call : Call) (pump : Pump) : Prop where
  failure : pump.failure = (failures pump.log).head?
  reported : pump.reported = chunks .err pump.log
  stdout : pump.stdout = (bytesOf .out pump.log).take call.stdoutLimit
  stderr : pump.stderr = (bytesOf .err pump.log).drop
    ((bytesOf .err pump.log).length - call.stderrLimit)
  truncated : pump.stderrTruncated = true ↔
    call.stderrLimit < (bytesOf .err pump.log).length
  closed : ∀ pipe, pump.eof pipe = true → pump.failure = none →
    Settled pipe pump.log

/-- Too much output has failed as well. -/
structure Sound (call : Call) (pump : Pump) : Prop
    extends Kept call pump where
  exceeded : call.stdoutLimit < (bytesOf .out pump.log).length →
    pump.failure ≠ none

theorem sound_start : Sound call {} := by
  refine ⟨⟨rfl, rfl, ?_, ?_, ?_, ?_⟩, ?_⟩ <;> simp [bytesOf, chunks]

theorem Kept.note (kept : Kept call pump) {event : Event}
    (noChunk : ∀ pipe, chunk? pipe event = none)
    (noFailure : failure? event = none) : Kept call (pump.note event) := by
  have bytes : ∀ pipe, bytesOf pipe (pump.log ++ [event]) =
      bytesOf pipe pump.log := by
    simp [bytesOf, chunks, noChunk]
  refine ⟨?_, ?_, ?_, ?_, ?_, ?_⟩
  · simp [Pump.note, failures, noFailure, kept.failure]
  · simp [Pump.note, chunks, noChunk, kept.reported]
  · exact kept.stdout.trans (by rw [Pump.note, bytes])
  · exact kept.stderr.trans (by rw [Pump.note, bytes])
  · exact kept.truncated.trans (by rw [Pump.note, bytes])
  · intro pipe atEnd fine
    exact (kept.closed pipe atEnd fine).append (noChunk pipe)

theorem fail_failure_ne_none (error : JobProcessError) :
    (pump.fail error).failure ≠ none := by
  rw [fail]
  cases pump.failure <;> simp

theorem Kept.fail (kept : Kept call pump) (error : JobProcessError) :
    Sound call (pump.fail error) := by
  have noChunk : ∀ pipe, chunks pipe [Event.failed error] = [] :=
    fun _ => rfl
  have bytes : ∀ pipe, bytesOf pipe (pump.fail error).log =
      bytesOf pipe pump.log := by
    simp [Pump.fail, Pump.note, bytesOf, noChunk]
  refine ⟨⟨?_, ?_, ?_, ?_, ?_, ?_⟩, fun _ => fail_failure_ne_none error⟩
  · simp [Pump.fail, Pump.note, kept.failure, failures, failure?,
      List.head?_append]
  · simp [Pump.fail, Pump.note, kept.reported, noChunk]
  · exact kept.stdout.trans (by rw [bytes])
  · exact kept.stderr.trans (by rw [bytes])
  · exact kept.truncated.trans (by rw [bytes])
  · intro pipe _ fine
    exact absurd fine (fail_failure_ne_none error)

theorem Sound.takeOut {data : List UInt8} (kept : Sound call pump)
    (opened : pump.eof .out = false) :
    Sound call (pump.take call .out data) := by
  have total : bytesOf .out (pump.log ++ [.read .out data]) =
      bytesOf .out pump.log ++ data := by
    simp [bytesOf, chunks, chunk?]
  have others : bytesOf .err (pump.log ++ [.read .out data]) =
      bytesOf .err pump.log := by
    simp [bytesOf, chunks, chunk?]
  have taken : Kept call { pump.note (.read .out data) with
      stdout := pump.stdout ++
        data.take (call.stdoutLimit - pump.stdout.length) } := by
    refine ⟨?_, ?_, ?_, ?_, ?_, ?_⟩
    · simp [Pump.note, kept.failure, failures, failure?]
    · simp [Pump.note, kept.reported, chunks, chunk?]
    · simp only [Pump.note]
      rw [total, List.take_append, ← kept.stdout]
      congr 2
      rw [kept.stdout, List.length_take]
      omega
    · exact kept.stderr.trans (by rw [Pump.note, others])
    · exact kept.truncated.trans (by rw [Pump.note, others])
    · intro pipe atEnd fine
      refine (kept.closed pipe atEnd fine).append ?_
      cases pipe with
      | out => exact absurd (opened.symm.trans atEnd) Bool.false_ne_true
      | err => rfl
  rw [take, Pump.takeOut]
  split
  · exact taken.fail .outputLimit
  · rename_i fits
    refine ⟨taken, ?_⟩
    intro long
    simp only [Pump.note, total, List.length_append] at long
    change ¬ call.stdoutLimit - pump.stdout.length < data.length at fits
    rw [kept.stdout, List.length_take] at fits
    exact kept.exceeded (by omega)

theorem Sound.takeErr {data : List UInt8} (kept : Sound call pump)
    (opened : pump.eof .err = false) :
    Sound call (pump.take call .err data) := by
  have total : bytesOf .err (pump.log ++ [.read .err data]) =
      bytesOf .err pump.log ++ data := by
    simp [bytesOf, chunks, chunk?]
  have others : bytesOf .out (pump.log ++ [.read .err data]) =
      bytesOf .out pump.log := by
    simp [bytesOf, chunks, chunk?]
  have size : pump.stderr.length = (bytesOf .err pump.log).length -
      ((bytesOf .err pump.log).length - call.stderrLimit) := by
    rw [kept.stderr, List.length_drop]
  have joined : pump.stderr ++ data = (bytesOf .err pump.log ++ data).drop
      ((bytesOf .err pump.log).length - call.stderrLimit) := by
    rw [List.drop_append_of_le_length (Nat.sub_le _ _), ← kept.stderr]
  have common : ∀ stderr truncated,
      stderr = (bytesOf .err pump.log ++ data).drop
        ((bytesOf .err pump.log ++ data).length - call.stderrLimit) →
      (truncated = true ↔
        call.stderrLimit < (bytesOf .err pump.log ++ data).length) →
      Sound call { pump.note (.read .err data) with
        reported := pump.reported ++ [data]
        stderr := stderr
        stderrTruncated := truncated } := by
    intro stderr truncated kept' marked
    refine ⟨⟨?_, ?_, ?_, ?_, ?_, ?_⟩, ?_⟩
    · simp [Pump.note, kept.failure, failures, failure?]
    · simp [Pump.note, kept.reported, chunks, chunk?]
    · exact kept.stdout.trans (by rw [Pump.note, others])
    · exact kept'.trans (by rw [Pump.note, total])
    · exact marked.trans (by rw [Pump.note, total])
    · intro pipe atEnd fine
      refine (kept.closed pipe atEnd fine).append ?_
      cases pipe with
      | out => rfl
      | err => exact absurd (opened.symm.trans atEnd) Bool.false_ne_true
    · intro long
      simp only [Pump.note, others] at long
      exact kept.exceeded long
  rw [take, Pump.takeErr]
  change Sound call
    (if call.stderrLimit < (pump.stderr ++ data).length then _ else _)
  by_cases long : call.stderrLimit < (pump.stderr ++ data).length
  · rw [if_pos long]
    refine common _ _ ?_ ?_
    · change ((pump.stderr ++ data).drop
        ((pump.stderr ++ data).length - call.stderrLimit)) = _
      rw [joined, List.drop_drop]
      rw [List.length_append, size] at long
      congr 1
      simp only [List.length_drop, List.length_append]
      omega
    · rw [List.length_append, size] at long
      rw [List.length_append]
      constructor
      · intro _
        omega
      · intro _
        rfl
  · rw [if_neg long]
    rw [List.length_append, size] at long
    refine common _ _ ?_ ?_
    · change pump.stderr ++ data = _
      rw [joined]
      congr 1
      rw [List.length_append]
      omega
    · refine kept.truncated.trans ?_
      rw [List.length_append]
      omega

theorem Sound.note (sound : Sound call pump) {event : Event}
    (noChunk : ∀ pipe, chunk? pipe event = none)
    (noFailure : failure? event = none) : Sound call (pump.note event) := by
  refine ⟨sound.toKept.note noChunk noFailure, ?_⟩
  intro long
  refine sound.exceeded ?_
  have same : bytesOf .out (pump.note event).log = bytesOf .out pump.log := by
    simp [Pump.note, bytesOf, chunks, noChunk]
  rw [← same]
  exact long

theorem eof_take (data : List UInt8) (pump : Pump) :
    (pump.take call pipe data).eof = pump.eof := by
  cases pipe with
  | out =>
      simp only [take, Pump.takeOut]
      split <;> rfl
  | err =>
      simp only [take, Pump.takeErr]
      split <;> rfl

theorem Sound.drain (kept : Sound call pump) (read : Nat → ReadResult)
    (attempts attempt : Nat) (opened : pump.eof pipe = false) :
    Sound call (Pump.drain call pipe read attempts attempt pump) := by
  induction attempts generalizing attempt pump with
  | zero => exact kept
  | succ attempts ih =>
      rw [Pump.drain]
      cases read attempt with
      | bytes data =>
          refine ih ?_ _ ?_
          · cases pipe with
            | out => exact kept.takeOut opened
            | err => exact kept.takeErr opened
          · rw [eof_take, opened]
      | interrupted => exact ih kept _ opened
      | wouldBlock => exact kept
      | failed code =>
          have failed := kept.toKept.fail (.readFailed code)
          refine ⟨⟨failed.failure, failed.reported, failed.stdout,
            failed.stderr, failed.truncated, ?_⟩, failed.exceeded⟩
          intro other _ fine
          exact absurd fine (fail_failure_ne_none _)
      | endOfFile =>
          have noChunk : ∀ pipe', chunk? pipe' (.endOfFile pipe) = none :=
            fun _ => rfl
          have noted := kept.note noChunk rfl
          refine ⟨⟨noted.failure, noted.reported, noted.stdout,
            noted.stderr, noted.truncated, ?_⟩, noted.exceeded⟩
          intro other atEnd fine
          by_cases same : other = pipe
          · subst same
            exact ⟨pump.log, [], rfl, rfl⟩
          · refine noted.closed other ?_ fine
            rw [← atEnd]
            exact (Function.update_of_ne same _ _).symm

theorem Sound.drainPipe (kept : Sound call pump) (round : Round)
    (pipe : Pipe) : Sound call (pump.drainPipe call round pipe) := by
  rw [Pump.drainPipe]
  split
  · exact kept
  · rename_i opened
    exact kept.drain _ _ _ (Bool.not_eq_true _ ▸ opened)

theorem Sound.observed (kept : Sound call pump) (deadline : ℚ)
    (round : Round) : Sound call (pump.observed call deadline round) := by
  have drained := (kept.drainPipe round .out).drainPipe round .err
  rw [Pump.observed, check]
  have asked : ∀ {pump : Pump}, Sound call pump →
      Sound call (if round.cancelled then pump.fail .cancelled else pump) := by
    intro pump kept
    split
    · exact kept.toKept.fail .cancelled
    · exact kept
  split
  · exact (asked drained).toKept.fail .timedOut
  · exact asked drained

/-! ## What one round leaves alone -/

/-- The clocks stand, a failure stays, and the events go on. -/
structure Quiet (before after : Pump) : Prop where
  terminateAt : after.terminateAt = before.terminateAt
  exitedAt : after.exitedAt = before.exitedAt
  failed : before.failure ≠ none → after.failure ≠ none

theorem Quiet.refl (pump : Pump) : Quiet pump pump := ⟨rfl, rfl, id⟩

theorem Quiet.trans {first second third : Pump} (one : Quiet first second)
    (two : Quiet second third) : Quiet first third :=
  ⟨two.terminateAt.trans one.terminateAt, two.exitedAt.trans one.exitedAt,
    fun failed => two.failed (one.failed failed)⟩

theorem quiet_fail (pump : Pump) (error : JobProcessError) :
    Quiet pump (pump.fail error) :=
  ⟨rfl, rfl, fun _ => fail_failure_ne_none error⟩

theorem quiet_take (data : List UInt8) (pump : Pump) :
    Quiet pump (pump.take call pipe data) := by
  cases pipe with
  | out =>
      simp only [take, Pump.takeOut]
      split
      · exact ⟨rfl, rfl, fun _ => fail_failure_ne_none _⟩
      · exact ⟨rfl, rfl, id⟩
  | err =>
      simp only [take, Pump.takeErr]
      split <;> exact ⟨rfl, rfl, id⟩

theorem quiet_drain (read : Nat → ReadResult) (attempts attempt : Nat)
    (pump : Pump) :
    Quiet pump (Pump.drain call pipe read attempts attempt pump) := by
  induction attempts generalizing attempt pump with
  | zero => exact Quiet.refl pump
  | succ attempts ih =>
      rw [Pump.drain]
      cases read attempt with
      | bytes data =>
          exact (quiet_take data pump).trans (ih _ _)
      | interrupted => exact ih _ pump
      | wouldBlock => exact Quiet.refl pump
      | failed code => exact (quiet_fail pump _).trans ⟨rfl, rfl, id⟩
      | endOfFile => exact ⟨rfl, rfl, id⟩

theorem quiet_drainPipe (round : Round) (pipe : Pipe) (pump : Pump) :
    Quiet pump (pump.drainPipe call round pipe) := by
  rw [Pump.drainPipe]
  split
  · exact Quiet.refl pump
  · exact quiet_drain _ _ _ pump

theorem quiet_check (pump : Pump) : Quiet pump (pump.check deadline round) := by
  have asked : Quiet pump
      (if round.cancelled then pump.fail .cancelled else pump) := by
    split
    · exact quiet_fail pump _
    · exact Quiet.refl pump
  rw [check]
  split
  · exact asked.trans (quiet_fail _ _)
  · exact asked

theorem quiet_observed (pump : Pump) :
    Quiet pump (pump.observed call deadline round) :=
  ((quiet_drainPipe round .out pump).trans
    (quiet_drainPipe round .err _)).trans (quiet_check _)

theorem observed_failure_ne_none (late : deadline ≤ round.checkedAt) :
    (pump.observed call deadline round).failure ≠ none := by
  rw [Pump.observed, check, if_pos late]
  exact fail_failure_ne_none _

/-! ## One round -/

theorem Sound.signal (sound : Sound call pump) (round : Round) :
    Sound call (pump.signal round) := by
  rw [Pump.signal]
  split
  · split
    · have noted : Sound call (pump.note .terminated) :=
        sound.note (fun _ => rfl) rfl
      exact ⟨⟨noted.failure, noted.reported, noted.stdout, noted.stderr,
        noted.truncated, noted.closed⟩, noted.exceeded⟩
    · split
      · exact sound.note (fun _ => rfl) rfl
      · exact sound
  · exact sound

theorem Sound.leave (sound : Sound call pump) (round : Round) :
    Sound call (pump.leave round).pump := by
  have left : Sound call { pump with
      exitedAt := some (pump.exitedAt.getD round.exitedAt) } :=
    ⟨⟨sound.failure, sound.reported, sound.stdout, sound.stderr,
      sound.truncated, sound.closed⟩, sound.exceeded⟩
  rw [Pump.leave]
  split
  · exact sound
  · dsimp only
    split
    · exact left.toKept.fail .drainTimeout
    · exact left

theorem Sound.step (sound : Sound call pump) (deadline : ℚ)
    (round : Round) : Sound call (pump.step call deadline round).pump := by
  have observed := sound.observed deadline round
  rw [Pump.step]
  split
  · exact observed.signal round
  · exact observed.leave round

theorem signal_failure : (pump.signal round).failure = pump.failure := by
  rw [signal]
  split
  · split
    · rfl
    · split <;> rfl
  · rfl

theorem signal_exitedAt : (pump.signal round).exitedAt = pump.exitedAt := by
  rw [signal]
  split
  · split
    · rfl
    · split <;> rfl
  · rfl

/-- What a round does to the clocks of a loop that goes on. -/
structure Goes (deadline : ℚ) (round : Round) (before after : Pump) :
    Prop where
  failed : before.failure ≠ none ∨ deadline ≤ round.checkedAt →
    after.failure ≠ none
  terminateAt : ∀ since, before.terminateAt = some since →
    after.terminateAt = some since
  exitedAt : ∀ since, before.exitedAt = some since →
    after.exitedAt = some since
  terminates : round.isRunning = true → after.failure ≠ none →
    after.terminateAt ≠ none
  kills : round.isRunning = true → after.failure ≠ none →
    ∀ since, before.terminateAt = some since →
      since + 2 ≤ round.signalledAt → .killed ∈ after.log
  exits : round.isRunning = false → after.exitedAt ≠ none
  waits : round.isRunning = false → ∀ since, before.exitedAt = some since →
    ¬ since + 1 ≤ round.drainedAt

theorem goes_of_running (running : round.isRunning = true)
    (moved : pump.step call deadline round = .going after) :
    Goes deadline round pump after := by
  have quiet : Quiet pump (pump.observed call deadline round) :=
    quiet_observed pump
  rw [step, if_pos running] at moved
  rw [← Progress.going.inj moved]
  have noted : ((pump.observed call deadline round).signal round).failure =
      (pump.observed call deadline round).failure := signal_failure
  refine ⟨?_, ?_, ?_, ?_, ?_, ?_, ?_⟩
  · rw [noted]
    rintro (failed | late)
    · exact quiet.failed failed
    · exact observed_failure_ne_none late
  · intro since found
    rw [← quiet.terminateAt] at found
    rw [signal]
    split
    · rw [found]
      dsimp only
      split <;> exact found
    · exact found
  · intro since found
    rw [signal_exitedAt, quiet.exitedAt, found]
  · intro _ failed
    rw [noted] at failed
    rw [signal, if_pos (Option.isSome_iff_ne_none.mpr failed)]
    split
    · exact Option.some_ne_none _
    · rename_i since found
      split
      · exact found ▸ Option.some_ne_none since
      · exact found ▸ Option.some_ne_none since
  · intro _ failed since found waited
    rw [noted] at failed
    rw [← quiet.terminateAt] at found
    have long : 2 ≤ round.signalledAt - since := by
      rw [le_sub_iff_add_le, add_comm]
      exact waited
    rw [signal, if_pos (Option.isSome_iff_ne_none.mpr failed), found]
    dsimp only
    rw [if_pos long]
    exact List.mem_append_right _ List.mem_cons_self
  · intro gone
    rw [running] at gone
    cases gone
  · intro gone
    rw [running] at gone
    cases gone

theorem goes_of_exited (gone : round.isRunning = false)
    (moved : pump.step call deadline round = .going after) :
    Goes deadline round pump after := by
  have quiet : Quiet pump (pump.observed call deadline round) :=
    quiet_observed pump
  rw [step, if_neg (by rw [gone]; exact Bool.false_ne_true), leave] at moved
  split at moved
  · cases moved
  · dsimp only at moved
    split at moved
    · cases moved
    · rename_i waits
      rw [← Progress.going.inj moved]
      refine ⟨?_, ?_, ?_, ?_, ?_, ?_, ?_⟩
      · rintro (failed | late)
        · exact quiet.failed failed
        · exact observed_failure_ne_none late
      · intro since found
        exact quiet.terminateAt.trans found
      · intro since found
        dsimp only
        rw [quiet.exitedAt, found, Option.getD_some]
      · intro running
        rw [gone] at running
        cases running
      · intro running
        rw [gone] at running
        cases running
      · intro _
        exact Option.some_ne_none _
      · intro _ since found late
        rw [quiet.exitedAt, found, Option.getD_some] at waits
        apply waits
        rw [le_sub_iff_add_le, add_comm]
        exact late

theorem goes_of_step (moved : pump.step call deadline round = .going after) :
    Goes deadline round pump after := by
  cases running : round.isRunning with
  | true => exact goes_of_running running moved
  | false => exact goes_of_exited running moved

/-- The loop ends behind the exit of the child, with both pipes at their end
or with a failure. -/
theorem of_ended (ended : pump.step call deadline round = .ended after) :
    round.isRunning = false ∧
      (after.failure = none → after.eof .out = true ∧ after.eof .err = true) := by
  rw [step] at ended
  split at ended
  · cases ended
  · rename_i gone
    refine ⟨Bool.not_eq_true _ ▸ gone, ?_⟩
    rw [leave] at ended
    split at ended
    · rename_i atEnd
      rw [← Progress.ended.inj ended]
      exact fun _ => atEnd
    · dsimp only at ended
      split at ended
      · rw [← Progress.ended.inj ended]
        exact fun fine => absurd fine (fail_failure_ne_none _)
      · cases ended

end Pump

/-! ## The whole loop -/

section Runs

variable {env : Environment} {written : Pipe → List UInt8}
  {decoder : TextDecoder}

/-- What the loop relies on: its clock goes on, an exited child stays so, a
killed one exits, and a pipe ends behind everything written to it. -/
structure Lawful (call : Call) (env : Environment)
    (written : Pipe → List UInt8) : Prop where
  clock : ∀ time, ∃ start, ∀ count, start ≤ count →
    time ≤ (env.rounds count).checkedAt ∧
      time ≤ (env.rounds count).signalledAt ∧
      time ≤ (env.rounds count).drainedAt
  exited : ∀ count, (env.rounds count).isRunning = false →
    (env.rounds (count + 1)).isRunning = false
  killed : ∀ count pump, env.pumped call count = .going pump →
    .killed ∈ pump.log →
    ∃ later, count ≤ later ∧ (env.rounds later).isRunning = false
  pipe : ∀ count pipe front back,
    (env.pumped call count).pump.log = front ++ .endOfFile pipe :: back →
    bytesOf pipe front = written pipe

theorem sound_pumped (env : Environment) (count : Nat) :
    Pump.Sound call (env.pumped call count).pump := by
  induction count with
  | zero => exact Pump.sound_start
  | succ count ih =>
      rw [Environment.pumped]
      split
      · rename_i pump going
        rw [going] at ih
        exact ih.step _ _
      · rename_i pump ended
        rw [ended] at ih
        exact ih

theorem pumped_succ {count : Nat} {pump : Pump}
    (going : env.pumped call count = .going pump) :
    env.pumped call (count + 1) =
      pump.step call (env.startedAt + call.timeout) (env.rounds count) := by
  rw [Environment.pumped, going]

theorem exists_exited (lawful : Lawful call env written) (pumps : Nat → Pump)
    (going : ∀ count, env.pumped call count = .going (pumps count))
    (goes : ∀ count, Pump.Goes (env.startedAt + call.timeout)
      (env.rounds count) (pumps count) (pumps (count + 1))) :
    ∃ count, (env.rounds count).isRunning = false := by
  by_contra never
  have running : ∀ count, (env.rounds count).isRunning = true := by
    intro count
    by_contra gone
    exact never ⟨count, Bool.not_eq_true _ ▸ gone⟩
  obtain ⟨start, late⟩ := lawful.clock (env.startedAt + call.timeout)
  have failed : ∀ count, start ≤ count →
      (pumps (count + 1)).failure ≠ none :=
    fun count behind => (goes count).failed (.inr (late count behind).1)
  obtain ⟨since, terminated⟩ := Option.ne_none_iff_exists'.mp
    ((goes start).terminates (running start) (failed start le_rfl))
  have stays : ∀ more, (pumps (start + 1 + more)).terminateAt =
      some since := by
    intro more
    induction more with
    | zero => exact terminated
    | succ more ih =>
        exact (goes _).terminateAt since ih
  obtain ⟨far, later⟩ := lawful.clock (since + 2)
  have killed := (goes (start + 1 + far)).kills (running _)
    (failed _ (by omega)) since (stays far) (later _ (by omega)).2.1
  obtain ⟨end', _, gone⟩ := lawful.killed _ _ (going _) killed
  rw [running end'] at gone
  cases gone

theorem exists_ended (lawful : Lawful call env written) :
    ∃ count before pump, env.pumped call count = .going before ∧
      env.pumped call (count + 1) = .ended pump := by
  by_contra never
  have each : ∀ count, ∃ pump, env.pumped call count = .going pump := by
    intro count
    induction count with
    | zero => exact ⟨{}, rfl⟩
    | succ count ih =>
        obtain ⟨before, going⟩ := ih
        cases next : env.pumped call (count + 1) with
        | going pump => exact ⟨pump, rfl⟩
        | ended pump =>
            exact absurd ⟨count, before, pump, going, next⟩ never
  choose pumps going using each
  have goes : ∀ count, Pump.Goes (env.startedAt + call.timeout)
      (env.rounds count) (pumps count) (pumps (count + 1)) := by
    intro count
    exact Pump.goes_of_step
      ((pumped_succ (going count)).symm.trans (going (count + 1)))
  obtain ⟨start, gone⟩ := exists_exited lawful pumps going goes
  have stays : ∀ more, (env.rounds (start + more)).isRunning = false := by
    intro more
    induction more with
    | zero => exact gone
    | succ more ih =>
        exact lawful.exited _ ih
  obtain ⟨since, noticed⟩ := Option.ne_none_iff_exists'.mp
    ((goes start).exits gone)
  have keeps : ∀ more, (pumps (start + 1 + more)).exitedAt = some since := by
    intro more
    induction more with
    | zero => exact noticed
    | succ more ih =>
        exact (goes _).exitedAt since ih
  obtain ⟨far, later⟩ := lawful.clock (since + 1)
  have exited : (env.rounds (start + 1 + far)).isRunning = false := by
    rw [Nat.add_assoc]
    exact stays (1 + far)
  exact (goes _).waits exited since (keeps far) (later _ (by omega)).2.2

/-- The promise of `run`, for the loop that ended in a round. -/
structure Complete (call : Call) (decoder : TextDecoder) (env : Environment)
    (written : Pipe → List UInt8) (count : Nat) (pump : Pump) : Prop where
  exited : (env.rounds count).isRunning = false
  reported : pump.reported = chunks .err pump.log
  returned : ∀ code stdout stderr,
    pump.result decoder env = .ok (code, stdout, stderr) →
    failures pump.log = [] ∧ code = env.terminationStatus ∧
      stdout = decoder.decoding (written .out) ∧
      (written .out).length ≤ call.stdoutLimit ∧
      stderr = (if call.stderrLimit < (written .err).length then
          truncationMarker else "") ++
        decoder.decoding ((written .err).drop
          ((written .err).length - call.stderrLimit))
  threw : ∀ error, pump.result decoder env = .error error →
    ∃ first, (failures pump.log).head? = some first ∧ error = .job first

theorem written_of_settled (lawful : Lawful call env written) {count : Nat}
    {pipe : Pipe} (settled : Settled pipe (env.pumped call count).pump.log) :
    bytesOf pipe (env.pumped call count).pump.log = written pipe := by
  obtain ⟨front, back, same, nothing⟩ := settled
  have whole := lawful.pipe count pipe front back same
  rw [same, bytesOf_append, whole]
  have rest : bytesOf pipe (.endOfFile pipe :: back) = bytesOf pipe back :=
    rfl
  rw [rest, nothing, List.append_nil]

theorem complete_of_ended (decoder : TextDecoder)
    (lawful : Lawful call env written) {count : Nat} {before pump : Pump}
    (going : env.pumped call count = .going before)
    (ended : env.pumped call (count + 1) = .ended pump) :
    Complete call decoder env written count pump := by
  have sound : Pump.Sound call (env.pumped call (count + 1)).pump :=
    sound_pumped env (count + 1)
  have settled : ∀ pipe, Settled pipe (env.pumped call (count + 1)).pump.log →
      bytesOf pipe (env.pumped call (count + 1)).pump.log = written pipe :=
    fun _ => written_of_settled lawful
  rw [ended] at sound settled
  have last := ended
  rw [pumped_succ going] at last
  obtain ⟨gone, atEnd⟩ := Pump.of_ended last
  refine ⟨gone, sound.reported, ?_, ?_⟩
  · intro code stdout stderr returned
    rw [Pump.result] at returned
    split at returned
    · cases returned
    · rename_i fine
      have out := settled .out (sound.closed .out (atEnd fine).1 fine)
      have err := settled .err (sound.closed .err (atEnd fine).2 fine)
      simp only [Progress.pump] at sound out err
      have short : (written .out).length ≤ call.stdoutLimit := by
        by_contra long
        refine sound.exceeded ?_ fine
        rw [out]
        omega
      have none' := sound.failure.symm.trans fine
      simp only [Except.ok.injEq, Prod.mk.injEq] at returned
      obtain ⟨rfl, rfl, rfl⟩ := returned
      refine ⟨List.head?_eq_none_iff.mp none', rfl, ?_, short, ?_⟩
      · rw [sound.stdout, out, List.take_of_length_le short]
      · rw [sound.stderr, err]
        congr 1
        refine if_congr ?_ rfl rfl
        rw [sound.truncated, err]
  · intro error thrown
    rw [Pump.result] at thrown
    split at thrown
    · rename_i first failed
      cases thrown
      exact ⟨first, sound.failure.symm.trans failed, rfl⟩
    · cases thrown

/-- Every call ends, and every loop that was entered ends as `run` promises,
up to the decoding of the bytes. -/
theorem job_process_of_rounds (decoder : TextDecoder)
    (lawful : Lawful call env written) :
    (∃ result, Ends call decoder env result) ∧
      ∀ count before pump, env.pumped call count = .going before →
        env.pumped call (count + 1) = .ended pump →
        Complete call decoder env written count pump := by
  constructor
  · cases cancelled : env.cancelledBefore with
    | true => exact ⟨_, .cancelled cancelled⟩
    | false =>
        cases launched : env.launchError with
        | some message => exact ⟨_, .unstarted cancelled launched⟩
        | none =>
            obtain ⟨count, before, pump, going, ended⟩ :=
              exists_ended lawful
            exact ⟨_, .pumped cancelled launched going ended⟩
  · intro count before pump going ended
    exact complete_of_ended decoder lawful going ended

end Runs

/-! ## A child that writes one byte -/

/-- ASCII as it is, and every other byte as a replacement character. -/
def replacing : TextDecoder where
  decoding bytes := String.ofList (bytes.map fun byte =>
    if byte < 128 then Char.ofNat byte.toNat else Char.ofNat 0xFFFD)
  decoding_eq_empty_iff bytes := by
    rw [← String.toList_inj, String.toList_ofList]
    simp

/-- Standard output is the byte 255, and the child exits. -/
def oneByte : Environment where
  rounds count :=
    { read := fun pipe attempt =>
        if pipe = .out ∧ attempt = 0 then .bytes [255] else .endOfFile
      checkedAt := count
      signalledAt := count
      drainedAt := count }

/-- The pump behind the round. -/
def readOnce : Pump where
  stdout := [255]
  eof := Function.update (Function.update (fun _ => false) .out true) .err true
  log := [.read .out [255], .endOfFile .out, .endOfFile .err]

/-- What `run` returns is not what the child wrote, but its repaired text. -/
theorem stdout_repaired :
    oneByte.pumped ⟨10, 16, 16⟩ 1 = .ended readOnce ∧
      bytesOf .out readOnce.log = [255] ∧
      ∃ stdout, readOnce.result replacing oneByte = .ok (0, stdout, "") ∧
        stdout.toUTF8.toList ≠ [255] := by
  refine ⟨by with_unfolding_all rfl, rfl, _, rfl, ?_⟩
  decide +kernel

/-! ## A child that does not go at once -/

/-- One round a second, every one cancelled: the child writes a byte, stays
until the third round, and its pipes end behind it. -/
def stubborn : Environment where
  rounds count :=
    { read := fun pipe attempt =>
        if 3 ≤ count then .endOfFile
        else if count = 0 ∧ pipe = .out ∧ attempt = 0 then .bytes [97]
        else .wouldBlock
      cancelled := true
      checkedAt := count
      isRunning := count < 3
      signalledAt := count
      exitedAt := count
      drainedAt := count }

def stubbornWrites (pipe : Pipe) : List UInt8 :=
  if pipe = .out then [97] else []

/-- The pump in the round that kills the child. -/
def stubbornKilled : Pump where
  stdout := [97]
  failure := some .cancelled
  terminateAt := some 0
  log := [.read .out [97], .failed .cancelled, .terminated, .failed .cancelled,
    .failed .cancelled, .killed]

/-- The pump behind the last round. -/
def stubbornGone : Pump where
  stdout := [97]
  failure := some .cancelled
  terminateAt := some 0
  eof := Function.update (Function.update (fun _ => false) .out true) .err true
  log := stubbornKilled.log ++
    [.endOfFile .out, .endOfFile .err, .failed .cancelled]

theorem pumped_stubborn_killed :
    stubborn.pumped ⟨10, 16, 16⟩ 3 = .going stubbornKilled := by
  with_unfolding_all rfl

theorem pumped_stubborn_gone (count : Nat) :
    stubborn.pumped ⟨10, 16, 16⟩ (count + 4) = .ended stubbornGone := by
  induction count with
  | zero => with_unfolding_all rfl
  | succ count ih => rw [Environment.pumped, ih]

theorem log_stubborn_prefix (count : Nat) :
    (stubborn.pumped ⟨10, 16, 16⟩ count).pump.log <+: stubbornGone.log := by
  rcases count with _ | _ | _ | _ | count
  · exact List.nil_prefix
  · exact ⟨stubbornGone.log.drop 3, by with_unfolding_all rfl⟩
  · exact ⟨stubbornGone.log.drop 4, by with_unfolding_all rfl⟩
  · rw [pumped_stubborn_killed]
    exact List.prefix_append _ _
  · rw [pumped_stubborn_gone]
    exact List.prefix_refl _

/-- What is in front of the end of a pipe, by the position of that end. -/
theorem bytesOf_of_positions {pipe : Pipe} {log front back : List Event}
    {written : List UInt8}
    (positions : ∀ index < log.length,
      log[index]? = some (.endOfFile pipe) →
        bytesOf pipe (log.take index) = written)
    (same : log = front ++ .endOfFile pipe :: back) :
    bytesOf pipe front = written := by
  have found := positions front.length (by simp [same]) (by simp [same])
  rw [same, List.take_left' rfl] at found
  exact found

theorem lawful_stubborn :
    Lawful ⟨10, 16, 16⟩ stubborn stubbornWrites := by
  refine ⟨?_, ?_, ?_, ?_⟩
  · intro time
    obtain ⟨start, before⟩ := exists_nat_ge time
    refine ⟨start, fun count behind => ?_⟩
    have late : time ≤ (count : ℚ) :=
      before.trans (Nat.cast_le.mpr behind)
    exact ⟨late, late, late⟩
  · intro count gone
    have third : ¬ count < 3 := of_decide_eq_false gone
    exact decide_eq_false (by omega)
  · intro count _ _ _
    exact ⟨max count 3, le_max_left _ _, decide_eq_false (by omega)⟩
  · intro count pipe front back same
    obtain ⟨rest, whole⟩ := log_stubborn_prefix count
    rw [same, List.append_assoc, List.cons_append] at whole
    refine bytesOf_of_positions ?_ whole.symm
    cases pipe with
    | out => decide
    | err => decide

theorem job_process_of_stubborn :
    (∃ result, Ends ⟨10, 16, 16⟩ replacing stubborn result) ∧
      Complete ⟨10, 16, 16⟩ replacing stubborn stubbornWrites 3
        stubbornGone := by
  have promised := job_process_of_rounds replacing lawful_stubborn
  exact ⟨promised.1, promised.2 3 stubbornKilled stubbornGone
    pumped_stubborn_killed (pumped_stubborn_gone 0)⟩

end JobProcessRunner

end Vzctl
