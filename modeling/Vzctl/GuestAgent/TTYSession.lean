import Vzctl.Lib.LengthPrefix
import Vzctl.Lib.Transition

/-!
# TTY sessions

`runTTYSession`: one goroutine waits for the process and another reports how
it ended, one copies the PTY to the connection, one reads the frames of the
client, and the main one waits for `done` and sends the exit.  One step is one
system call or one section of `exitOnce`; `responseWriter.mu` keeps the bytes
of a frame together.  When the frames of a session are the whole output of the
process followed by one exit frame.
-/

namespace Vzctl

namespace GuestAgent

namespace TTYSession

open Transitions

/-! ## Frames -/

def muxStdin : UInt8 := 0x01

def muxStdout : UInt8 := 0x02

def muxResize : UInt8 := 0x04

def muxExit : UInt8 := 0x05

def muxStdinEOF : UInt8 := 0x06

def maxMuxFrame : Nat := 1024 * 1024

structure MuxFrame where
  type : UInt8
  payload : List UInt8
  deriving DecidableEq

def stdoutFrame (chunk : List UInt8) : MuxFrame := ⟨muxStdout, chunk⟩

def exitFrame (status : UInt32) : MuxFrame :=
  ⟨muxExit, LengthPrefix.littleEndian 4 status.toNat⟩

/-- The loop that reads the frames of the client goes on after this one.
`ptmWrites` says whether the PTY takes the input. -/
def keepsSession (ptmWrites : Bool) (frame : MuxFrame) : Bool :=
  -- `readMuxFrame`
  if maxMuxFrame < frame.payload.length then false
  else if frame.type = muxStdin then ptmWrites
  else if frame.type = muxStdinEOF then true
  else if frame.type = muxResize then frame.payload.length == 4
  else false

/-! ## State -/

/-- How the process ends. -/
inductive Ending where
  | exited (status : UInt8)
  | signaled (signal : Nat)
  deriving DecidableEq

/-- The status that a session reports: `processStatus` gives none for a
signal. -/
def Ending.reported : Ending → UInt32
  | exited status => status.toUInt32
  | signaled _ => 1

/-- `waitErr` and the goroutine that receives from it. -/
inductive Waiter where
  | waiting
  | returned (ending : Ending)
  | signalled
  deriving DecidableEq

/-- The goroutine that copies the PTY. -/
inductive PTYReader where
  | reading
  | writing (chunk : List UInt8)
  | stopped
  deriving DecidableEq

inductive Main where
  | waiting
  | sent
  | returned
  deriving DecidableEq

/-- `process` is `none` while the process runs; `done` is the exit status with
which it was closed.  `written` is what the process wrote to the PTY so far,
`pty` what is still to be read from its other end. -/
structure Session where
  connected : Bool
  process : Option Ending
  written : List UInt8
  pty : List UInt8
  ptmOpen : Bool
  waiter : Waiter
  reader : PTYReader
  clientReading : Bool
  done : Option UInt32
  main : Main
  output : List MuxFrame

def Session.started : Session where
  connected := true
  process := none
  written := []
  pty := []
  ptmOpen := true
  waiter := .waiting
  reader := .reading
  clientReading := true
  done := none
  main := .waiting
  output := []

namespace Session

variable (session : Session)

/-- `exitOnce.Do`. -/
def closeDone (status : UInt32) : Session :=
  { session with done := session.done.or (some status) }

/-- What reaches the client of a frame. -/
def sent (frame : MuxFrame) : List MuxFrame :=
  if session.connected then session.output ++ [frame] else session.output

end Session

/-! ## Steps -/

/-- The line discipline of the PTY stands between its ends: `shown` is what it
makes of bytes of the process, with ONLCR a line feed behind a carriage return,
and `echoed` what it shows of input of the client. -/
inductive Event where
  | produce (bytes shown : List UInt8)
  | exit (ending : Ending)
  | wait
  | signal
  | read (count : Nat)
  | readFails
  | writeStdout
  | writeFails
  | receive (frame : MuxFrame) (ptmWrites : Bool) (echoed : List UInt8)
  | endOfFile
  | sendExit
  | leave
  | disconnect

/-- The event is a step of the agent that needs nothing from outside. -/
def Event.internal : Event → Bool
  | produce _ _ => false
  | exit _ => false
  | receive _ _ _ => false
  | disconnect => false
  | _ => true

/-- One step of a goroutine, of the process or of the client.  The PTY ends
when no process has it open and everything is read, which may be before the
process is gone. -/
inductive Step : Session → Event → Session → Prop
  | produce {session : Session} {bytes shown : List UInt8} :
      session.process = none → session.ptmOpen = true →
      Step session (.produce bytes shown)
        { session with
          written := session.written ++ bytes
          pty := session.pty ++ shown }
  | exit {session : Session} {ending : Ending} :
      session.process = none →
      Step session (.exit ending) { session with process := some ending }
  | wait {session : Session} {ending : Ending} :
      session.waiter = .waiting → session.process = some ending →
      Step session .wait { session with waiter := .returned ending }
  | signal {session : Session} {ending : Ending} :
      session.waiter = .returned ending →
      Step session .signal
        { session.closeDone ending.reported with waiter := .signalled }
  | read {session : Session} {count : Nat} :
      session.reader = .reading → session.ptmOpen = true →
      0 < count → count ≤ 32 * 1024 → count ≤ session.pty.length →
      Step session (.read count)
        { session with
          reader := .writing (session.pty.take count)
          pty := session.pty.drop count }
  | readFails {session : Session} :
      session.reader = .reading →
      (session.ptmOpen = false ∨ session.pty = []) →
      Step session .readFails { session with reader := .stopped }
  | writeStdout {session : Session} {chunk : List UInt8} :
      session.reader = .writing chunk → session.connected = true →
      Step session .writeStdout
        { session with
          reader := .reading
          output := session.output ++ [stdoutFrame chunk] }
  | writeFails {session : Session} {chunk : List UInt8} :
      session.reader = .writing chunk → session.connected = false →
      Step session .writeFails
        { session.closeDone 0 with reader := .stopped }
  | receive {session : Session} {frame : MuxFrame} {ptmWrites : Bool}
      {echoed : List UInt8} :
      session.clientReading = true → session.connected = true →
      keepsSession ptmWrites frame = true →
      (frame.type ≠ muxStdin → echoed = []) →
      Step session (.receive frame ptmWrites echoed)
        { session with pty := session.pty ++ echoed }
  | refuse {session : Session} {frame : MuxFrame} {ptmWrites : Bool}
      {echoed : List UInt8} :
      session.clientReading = true → session.connected = true →
      keepsSession ptmWrites frame = false →
      (frame.type ≠ muxStdin → echoed = []) →
      Step session (.receive frame ptmWrites echoed)
        { session.closeDone 0 with
          pty := session.pty ++ echoed
          clientReading := false }
  | endOfFile {session : Session} :
      session.clientReading = true → session.connected = false →
      Step session .endOfFile
        { session.closeDone 0 with clientReading := false }
  | sendExit {session : Session} {status : UInt32} :
      session.main = .waiting → session.done = some status →
      Step session .sendExit
        { session with
          main := .sent
          output := session.sent (exitFrame status) }
  | leave {session : Session} :
      session.main = .sent →
      Step session .leave
        { session with
          main := .returned
          ptmOpen := false }
  | disconnect {session : Session} :
      Step session .disconnect { session with connected := false }

/-! ## What a session sends -/

/-- The bytes that the goroutine has read and not sent. -/
def PTYReader.held : PTYReader → List UInt8
  | writing chunk => chunk
  | _ => []

namespace Session

variable (session : Session)

/-- Nothing is left to read or to send. -/
def Drained : Prop :=
  session.pty = [] ∧ ∀ chunk, session.reader ≠ .writing chunk

/-- The frames are the output of the process and then its exit. -/
def Complete : Prop :=
  ∃ ending chunks,
    session.process = some ending ∧
      session.output =
        List.map stdoutFrame chunks ++ [exitFrame ending.reported] ∧
      chunks.flatten = session.written

/-- The frames are output of the process, from its start on. -/
def Partial : Prop :=
  ∃ chunks,
    session.output = List.map stdoutFrame chunks ∧
      chunks.flatten <+: session.written

end Session

/-- What a client that stays has received. -/
def Session.Lossless (session : Session) : Prop :=
  (session.main = .waiting → session.Partial) ∧
    (session.main ≠ .waiting → session.Complete)

/-- The terminal passes the output on as it is and shows no input, the process
keeps it open, the client does not end the session, and the exit is sent when
the output of the process is. -/
def Orderly (session : Session) : Event → Prop
  | .produce bytes shown => shown = bytes
  | .readFails => session.ptmOpen = false ∨ session.process.isSome = true
  | .receive frame ptmWrites echoed =>
      echoed = [] ∧
        (session.done = none → keepsSession ptmWrites frame = true)
  | .sendExit => session.Drained
  | _ => True

/-! ## The invariant -/

/-- What holds of a session whose client is there. -/
structure Intact (session : Session) : Prop where
  ended : ∀ ending, session.waiter = .returned ending →
    session.process = some ending
  reported : ∀ status, session.done = some status →
    ∃ ending, session.process = some ending ∧ status = ending.reported
  signalled : session.waiter = .signalled → session.done.isSome = true
  stopped : session.reader = .stopped →
    session.process.isSome = true ∧ session.pty = []
  closed : session.ptmOpen = false → session.main = .returned
  waiting : session.main = .waiting →
    ∃ chunks, session.output = List.map stdoutFrame chunks ∧
      session.written =
        chunks.flatten ++ session.reader.held ++ session.pty
  sent : session.main ≠ .waiting →
    session.Complete ∧ session.Drained

theorem intact_started : Intact Session.started := by
  constructor
  · intro ending impossible
    cases impossible
  · intro status impossible
    cases impossible
  · intro impossible
    cases impossible
  · intro impossible
    cases impossible
  · intro impossible
    cases impossible
  · intro _
    exact ⟨[], rfl, rfl⟩
  · intro impossible
    exact absurd rfl impossible

theorem connected_of_step {session next : Session} {event : Event}
    (step : Step session event next) (connected : next.connected = true) :
    session.connected = true := by
  cases step with
  | disconnect => cases connected
  | _ => exact connected

theorem reported_closeDone {session : Session} {ending : Ending}
    (intact : Intact session) (ended : session.process = some ending) :
    ∀ status, (session.closeDone ending.reported).done = some status →
      ∃ other, session.process = some other ∧ status = other.reported := by
  intro status closed
  unfold Session.closeDone at closed
  cases before : session.done with
  | some earlier =>
      rw [before] at closed
      exact intact.reported status (before.trans closed)
  | none =>
      rw [before] at closed
      cases closed
      exact ⟨ending, ended, rfl⟩

theorem isSome_closeDone {session : Session} {status : UInt32} :
    (session.closeDone status).done.isSome = true := by
  unfold Session.closeDone
  cases session.done with
  | some earlier => rfl
  | none => rfl

theorem closeDone_of_done {session : Session} {status : UInt32}
    (closed : session.done ≠ none) : session.closeDone status = session := by
  unfold Session.closeDone
  cases before : session.done with
  | none => exact absurd before closed
  | some earlier =>
      rw [← before, Option.or_of_isSome (by rw [before]; rfl)]

theorem Intact.produce {session : Session} {bytes : List UInt8}
    (intact : Intact session) (running : session.process = none) :
    Intact { session with
      written := session.written ++ bytes
      pty := session.pty ++ bytes } := by
  refine { intact with stopped := ?_, waiting := ?_, sent := ?_ }
  · intro stopped
    have ended := (intact.stopped stopped).1
    rw [running] at ended
    cases ended
  · intro waiting
    obtain ⟨chunks, frames, written⟩ := intact.waiting waiting
    refine ⟨chunks, frames, ?_⟩
    dsimp only
    rw [written, List.append_assoc _ session.pty]
  · intro sent
    obtain ⟨ending, _, ended, _⟩ := (intact.sent sent).1
    cases running.symm.trans ended

theorem Intact.exit {session : Session} {ending : Ending}
    (intact : Intact session) (running : session.process = none) :
    Intact { session with process := some ending } := by
  refine { intact with
    ended := ?_, reported := ?_, stopped := ?_, sent := ?_ }
  · intro other returned
    cases running.symm.trans (intact.ended other returned)
  · intro status closed
    obtain ⟨other, ended, _⟩ := intact.reported status closed
    cases running.symm.trans ended
  · intro stopped
    exact ⟨rfl, (intact.stopped stopped).2⟩
  · intro sent
    obtain ⟨other, _, ended, _⟩ := (intact.sent sent).1
    cases running.symm.trans ended

theorem Intact.signal {session : Session} {ending : Ending}
    (intact : Intact session) (returned : session.waiter = .returned ending) :
    Intact
      { session.closeDone ending.reported with waiter := .signalled } := by
  have ended := intact.ended ending returned
  refine { intact with
    ended := ?_, reported := reported_closeDone intact ended,
    signalled := fun _ => isSome_closeDone }
  intro other impossible
  cases impossible

theorem Intact.read {session : Session} {count : Nat}
    (intact : Intact session) (reading : session.reader = .reading)
    (positive : 0 < count) (inside : count ≤ session.pty.length) :
    Intact { session with
      reader := .writing (session.pty.take count)
      pty := session.pty.drop count } := by
  have unread : session.pty ≠ [] := by
    intro empty
    rw [empty] at inside
    exact absurd inside (Nat.not_le.mpr positive)
  refine { intact with stopped := ?_, waiting := ?_, sent := ?_ }
  · intro impossible
    cases impossible
  · intro waiting
    obtain ⟨chunks, frames, written⟩ := intact.waiting waiting
    refine ⟨chunks, frames, ?_⟩
    dsimp only [PTYReader.held]
    rw [List.append_assoc, List.take_append_drop, written, reading]
    simp only [PTYReader.held, List.append_nil]
  · intro sent
    exact absurd (intact.sent sent).2.1 unread

theorem Intact.readFails {session : Session}
    (intact : Intact session) (reading : session.reader = .reading)
    (atEnd : session.ptmOpen = false ∨ session.pty = [])
    (kept : session.ptmOpen = false ∨ session.process.isSome = true) :
    Intact { session with reader := .stopped } := by
  refine { intact with stopped := ?_, waiting := ?_, sent := ?_ }
  · intro _
    by_cases closed : session.ptmOpen = false
    · have returned := intact.closed closed
      have sent := intact.sent (by rw [returned]; decide)
      obtain ⟨ending, _, ended, _⟩ := sent.1
      refine ⟨?_, sent.2.1⟩
      dsimp only
      rw [ended]
      rfl
    · exact ⟨kept.resolve_left closed, atEnd.resolve_left closed⟩
  · intro waiting
    obtain ⟨chunks, frames, written⟩ := intact.waiting waiting
    rw [reading] at written
    exact ⟨chunks, frames, written⟩
  · intro sent
    refine ⟨(intact.sent sent).1, (intact.sent sent).2.1, ?_⟩
    intro chunk impossible
    cases impossible

theorem Intact.writeStdout {session : Session} {chunk : List UInt8}
    (intact : Intact session) (writing : session.reader = .writing chunk) :
    Intact { session with
      reader := .reading
      output := session.output ++ [stdoutFrame chunk] } := by
  refine { intact with stopped := ?_, waiting := ?_, sent := ?_ }
  · intro impossible
    cases impossible
  · intro waiting
    obtain ⟨chunks, frames, written⟩ := intact.waiting waiting
    refine ⟨chunks ++ [chunk], ?_, ?_⟩
    · dsimp only
      rw [frames, List.map_append]
      rfl
    · dsimp only
      rw [written, writing, List.flatten_append, List.flatten_singleton]
      simp only [PTYReader.held, List.append_nil]
  · intro sent
    exact absurd writing ((intact.sent sent).2.2 chunk)

theorem Intact.sendExit {session : Session} {status : UInt32}
    (intact : Intact session) (drained : session.Drained)
    (waiting : session.main = .waiting) (closed : session.done = some status)
    (connected : session.connected = true) :
    Intact { session with
      main := .sent
      output := session.sent (exitFrame status) } := by
  obtain ⟨ending, ended, sameStatus⟩ := intact.reported status closed
  obtain ⟨chunks, frames, written⟩ := intact.waiting waiting
  refine { intact with closed := ?_, waiting := ?_, sent := ?_ }
  · intro shut
    cases waiting.symm.trans (intact.closed shut)
  · intro impossible
    cases impossible
  · intro _
    refine ⟨⟨ending, chunks, ended, ?_, ?_⟩, drained⟩
    · dsimp only [Session.sent]
      rw [if_pos connected, frames, sameStatus]
    · have noHeld : session.reader.held = [] := by
        cases reader : session.reader with
        | writing chunk => exact absurd reader (drained.2 chunk)
        | reading => rfl
        | stopped => rfl
      dsimp only
      rw [written, noHeld, drained.1, List.append_nil, List.append_nil]

theorem Intact.step {session next : Session} {event : Event}
    (intact : Intact session) (orderly : Orderly session event)
    (step : Step session event next) (connected : next.connected = true) :
    Intact next := by
  cases step with
  | produce running _ =>
      cases orderly
      exact intact.produce running
  | exit running => exact intact.exit running
  | wait _ ended =>
      refine { intact with ended := ?_, signalled := ?_ }
      · intro other returned
        cases returned
        exact ended
      · intro impossible
        cases impossible
  | signal returned => exact intact.signal returned
  | read reading _ positive _ inside =>
      exact intact.read reading positive inside
  | readFails reading atEnd => exact intact.readFails reading atEnd orderly
  | writeStdout writing _ => exact intact.writeStdout writing
  | writeFails _ gone => cases gone.symm.trans connected
  | receive =>
      obtain ⟨rfl, _⟩ := orderly
      rw [List.append_nil]
      exact intact
  | refuse _ _ ends =>
      obtain ⟨rfl, keeps⟩ := orderly
      have closed : session.done ≠ none := by
        intro fresh
        cases ends.symm.trans (keeps fresh)
      rw [closeDone_of_done closed, List.append_nil]
      exact { intact with }
  | endOfFile _ gone => cases gone.symm.trans connected
  | sendExit waiting closed =>
      exact intact.sendExit orderly waiting closed connected
  | leave sent =>
      have beforeSent : session.main ≠ .waiting := by
        rw [sent]
        decide
      refine { intact with closed := ?_, waiting := ?_, sent := ?_ }
      · intro _
        rfl
      · intro impossible
        cases impossible
      · intro _
        exact intact.sent beforeSent
  | disconnect => cases connected

theorem Intact.lossless {session : Session} (intact : Intact session) :
    session.Lossless := by
  constructor
  · intro waiting
    obtain ⟨chunks, frames, written⟩ := intact.waiting waiting
    refine ⟨chunks, frames, ?_⟩
    rw [written, List.append_assoc]
    exact List.prefix_append _ _
  · intro sent
    exact (intact.sent sent).1

/-! ## Progress -/

/-- While the exit is not sent, one of the goroutines can go on once the
process has ended. -/
theorem Intact.progress {session : Session} (intact : Intact session)
    (connected : session.connected = true)
    (ended : session.process.isSome = true)
    (waiting : session.main = .waiting) :
    ∃ event next, event.internal = true ∧
      guarded Orderly Step session event next := by
  obtain ⟨ending, ended⟩ := Option.isSome_iff_exists.mp ended
  cases waiter : session.waiter with
  | waiting => exact ⟨.wait, _, rfl, trivial, .wait waiter ended⟩
  | returned other => exact ⟨.signal, _, rfl, trivial, .signal waiter⟩
  | signalled =>
      obtain ⟨status, closed⟩ :=
        Option.isSome_iff_exists.mp (intact.signalled waiter)
      cases reader : session.reader with
      | writing chunk =>
          exact ⟨.writeStdout, _, rfl, trivial, .writeStdout reader connected⟩
      | stopped =>
          have drained : session.Drained := by
            refine ⟨(intact.stopped reader).2, ?_⟩
            intro chunk writing
            cases reader.symm.trans writing
          exact ⟨.sendExit, _, rfl, drained, .sendExit waiting closed⟩
      | reading =>
          cases unread : session.pty with
          | nil =>
              have drained : session.Drained := by
                refine ⟨unread, ?_⟩
                intro chunk writing
                cases reader.symm.trans writing
              exact ⟨.sendExit, _, rfl, drained, .sendExit waiting closed⟩
          | cons byte rest =>
              have readable : session.ptmOpen = true := by
                cases opened : session.ptmOpen with
                | true => rfl
                | false => cases waiting.symm.trans (intact.closed opened)
              have inside : 1 ≤ session.pty.length := by
                rw [unread]
                exact Nat.succ_le_succ (Nat.zero_le _)
              exact ⟨.read 1, _, rfl, trivial,
                .read reader readable (by decide) (by decide) inside⟩

/-! ## Runs -/

end TTYSession

end GuestAgent

end Vzctl
