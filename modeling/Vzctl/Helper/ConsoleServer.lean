import Mathlib.Data.List.Perm.Basic
import Mathlib.Data.List.Perm.Lattice
import Vzctl.Lib.Transition

/-!
# The console server of the helper

The accept loop, the loop of each client, the fan-out of serial output and
`stopConsoleServer` of `VirtualMachineRuntime`.  The lock makes each change of
the list of clients one step; every system call after it is a step of its own,
and all threads take turns between steps.  Descriptor numbers are those that
are free when a descriptor is opened, so that a number can be used again.
-/

namespace Vzctl

namespace ConsoleServer

open Transitions

/-! ## State -/

/-- A number and, as history, the opening that it comes from. -/
structure Descriptor where
  number : Nat
  opening : Nat
  deriving DecidableEq, Repr

inductive Operation where
  | write (descriptor : Descriptor)
  | shutdown (descriptor : Descriptor)
  | close (descriptor : Descriptor)
  deriving DecidableEq, Repr

def Operation.descriptor : Operation → Descriptor
  | .write descriptor => descriptor
  | .shutdown descriptor => descriptor
  | .close descriptor => descriptor

/-- What a thread does next. -/
inductive Thread where
  | accepting (listener : Descriptor)
  | waiting (listener : Descriptor)
  | accepted (listener client : Descriptor)
  | reading (client : Descriptor)
  | ending (client : Descriptor)
  | shutting (failed : List Descriptor)
  | stopping (operations : List Operation)
  | starting (operations : List Operation)
  | binding (listener : Descriptor)
  deriving DecidableEq, Repr

/-- `others` are the numbers that the rest of the process has open.  `opened`
and `history` are history. -/
structure Runtime where
  consoleListener : Option Descriptor
  consoleClients : List Descriptor
  threads : List Thread
  held : List Nat
  others : List Nat
  opened : List Descriptor
  history : List Operation
  deriving DecidableEq

def Runtime.initial : Runtime where
  consoleListener := none
  consoleClients := []
  threads := []
  held := []
  others := []
  opened := []
  history := []

/-! ## Steps -/

/-- What a system call answers. -/
inductive Answer where
  | succeeds
  | fails
  | interrupted
  | opens (number : Nat)

namespace Runtime

variable (runtime : Runtime)

/-- A closed number is closed for whoever has it. -/
def issue (operation : Operation) : Runtime :=
  match operation with
  | .close descriptor =>
      { runtime with
        held := runtime.held.erase descriptor.number
        others := runtime.others.erase descriptor.number
        history := runtime.history ++ [operation] }
  | _ => { runtime with history := runtime.history ++ [operation] }

def issueAll (operations : List Operation) : Runtime :=
  operations.foldl issue runtime

def free (number : Nat) : Prop :=
  number ∉ runtime.held ∧ number ∉ runtime.others

instance (number : Nat) : Decidable (runtime.free number) :=
  inferInstanceAs (Decidable (_ ∧ _))

/-- The descriptor that `accept` or `socket` returns. -/
def fresh (number : Nat) : Descriptor where
  number := number
  opening := runtime.opened.length

def opens (number : Nat) : Runtime :=
  { runtime with
    held := number :: runtime.held
    opened := runtime.fresh number :: runtime.opened }

def adding (threads : List Thread) : Runtime :=
  { runtime with threads := threads ++ runtime.threads }

/-- The part of `stopConsoleServer` under the lock. -/
def takenDown : Runtime :=
  { runtime with consoleListener := none, consoleClients := [] }

/-- The calls of `stopConsoleServer` after the lock. -/
def stopOperations : List Operation :=
  runtime.consoleListener.toList.flatMap
      (fun listener => [.shutdown listener, .close listener]) ++
    runtime.consoleClients.flatMap
      fun client => [.shutdown client, .close client]

/-- The condition of `consoleAcceptLoop`, on the number alone. -/
def acceptLoop (listener : Descriptor) : Runtime :=
  if runtime.consoleListener.map Descriptor.number = some listener.number then
    runtime.adding [.waiting listener]
  else runtime

/-- The answer of `accept`. -/
def accept (listener : Descriptor) (answer : Answer) : Option Runtime :=
  match answer with
  | .opens number =>
      if runtime.free number then
        some ((runtime.opens number).adding
          [.accepted listener (runtime.fresh number)])
      else none
  | .interrupted => some (runtime.adding [.accepting listener])
  | .succeeds => some runtime
  | .fails => some runtime

/-- The check of the peer: one with another user id is closed, any other is
listed and gets a loop. -/
def listClient (listener client : Descriptor) (answer : Answer) : Runtime :=
  match answer with
  | .fails => (runtime.issue (.close client)).adding [.accepting listener]
  | _ =>
      { runtime with
        consoleClients := runtime.consoleClients ++ [client] }.adding
          [.reading client, .accepting listener]

/-- `consoleClientLoop` up to the close: at the end of the stream or an error
the number is removed from the list. -/
def clientLoop (client : Descriptor) (answer : Answer) : Runtime :=
  match answer with
  | .fails =>
      { runtime with
        consoleClients := runtime.consoleClients.filter fun other =>
          other.number ≠ client.number }.adding [.ending client]
  | _ => runtime.adding [.reading client]

/-- The shutdowns of `fanOutSerialOutput`. -/
def shutFailed (failed : List Descriptor) : Runtime :=
  match failed with
  | [] => runtime
  | client :: rest =>
      (runtime.issue (.shutdown client)).adding [.shutting rest]

/-- The calls of `stopConsoleServer`, one at a time. -/
def stopCalls (operations : List Operation) : Runtime :=
  match operations with
  | [] => runtime
  | operation :: rest => (runtime.issue operation).adding [.stopping rest]

/-- `startConsoleServer`: the calls of the stop, then the socket. -/
def startCalls (operations : List Operation) (answer : Answer) :
    Option Runtime :=
  match operations, answer with
  | operation :: rest, _ =>
      some ((runtime.issue operation).adding [.starting rest])
  | [], .opens number =>
      if runtime.free number then
        some ((runtime.opens number).adding [.binding (runtime.fresh number)])
      else none
  | [], _ => some runtime

/-- The answer of `bind` and `listen`. -/
def bindListener (listener : Descriptor) (answer : Answer) : Runtime :=
  match answer with
  | .fails => runtime.issue (.close listener)
  | _ =>
      { runtime with consoleListener := some listener }.adding
        [.accepting listener]

/-- The next step of a thread, where `runtime` has the other threads. -/
def advance (thread : Thread) (answer : Answer) : Option Runtime :=
  match thread with
  | .accepting listener => some (runtime.acceptLoop listener)
  | .waiting listener => runtime.accept listener answer
  | .accepted listener client => some (runtime.listClient listener client answer)
  | .reading client => some (runtime.clientLoop client answer)
  | .ending client => some (runtime.issue (.close client))
  | .shutting failed => some (runtime.shutFailed failed)
  | .stopping operations => some (runtime.stopCalls operations)
  | .starting operations => runtime.startCalls operations answer
  | .binding listener => some (runtime.bindListener listener answer)

def isStarting : Thread → Bool
  | .starting _ => true
  | .binding _ => true
  | _ => false

/-- The writes of `fanOutSerialOutput`, under the lock, and the removal of the
clients that failed. -/
def fanOut (fails : Descriptor → Bool) : Runtime :=
  let failed := runtime.consoleClients.filter fails
  let written := runtime.issueAll (runtime.consoleClients.map .write)
  { written with
    consoleClients := runtime.consoleClients.filter fun client =>
      client.number ∉ failed.map Descriptor.number }.adding [.shutting failed]

end Runtime

inductive Label where
  | move (index : Nat) (answer : Answer)
  | fanOut (fails : Descriptor → Bool)
  | stop
  | start
  | otherOpens (number : Nat)
  | otherCloses (number : Nat)

/-- One step.  The helper makes one start after the other. -/
def perform (runtime : Runtime) : Label → Option Runtime
  | .move index answer =>
      match runtime.threads[index]? with
      | none => none
      | some thread =>
          { runtime with threads := runtime.threads.eraseIdx index }.advance
            thread answer
  | .fanOut fails => some (runtime.fanOut fails)
  | .stop =>
      some (runtime.takenDown.adding [.stopping runtime.stopOperations])
  | .start =>
      if runtime.threads.any Runtime.isStarting then none
      else some (runtime.takenDown.adding [.starting runtime.stopOperations])
  | .otherOpens number =>
      if runtime.free number then
        some { runtime with others := number :: runtime.others }
      else none
  | .otherCloses number =>
      some { runtime with others := runtime.others.erase number }

def step (source : Runtime) (label : Label) (target : Runtime) : Prop :=
  perform source label = some target

/-! ## What should hold -/

/-- Nothing is done with a descriptor after it was closed. -/
def Clean (history : List Operation) : Prop :=
  ∀ earlier operation later, history = earlier ++ operation :: later →
    .close operation.descriptor ∉ earlier

/-- The server is stopped and every loop has ended. -/
def Runtime.Idle (runtime : Runtime) : Prop :=
  runtime.consoleListener = none ∧ runtime.threads = []

structure ClosedOnce (runtime : Runtime) : Prop where
  clean : Clean runtime.history
  exactly : runtime.Idle → ∀ descriptor ∈ runtime.opened,
    runtime.history.count (.close descriptor) = 1

/-! ## The condition -/

/-- The clients that a thread has still to shut down. -/
def Thread.failed : Thread → List Descriptor
  | .shutting clients => clients
  | _ => []

/-- The server is stopped while no client is listed, and the loop of a client
closes it when no fan-out has still to shut it down. -/
def Allowed (runtime : Runtime) : Label → Prop
  | .stop => runtime.consoleClients = []
  | .start => runtime.consoleClients = []
  | .move index _ =>
      match runtime.threads[index]? with
      | some (.ending client) =>
          ∀ thread ∈ runtime.threads, client ∉ thread.failed
      | _ => True
  | _ => True

instance (runtime : Runtime) (label : Label) :
    Decidable (Allowed runtime label) := by
  unfold Allowed
  split
  · infer_instance
  · infer_instance
  · split
    · infer_instance
    · infer_instance
  · infer_instance

/-! ## Books -/

def closes (operations : List Operation) : List Descriptor :=
  operations.filterMap fun operation =>
    match operation with
    | .close descriptor => some descriptor
    | _ => none

theorem mem_closes {operations : List Operation} {descriptor : Descriptor} :
    descriptor ∈ closes operations ↔ .close descriptor ∈ operations := by
  rw [closes, List.mem_filterMap]
  constructor
  · intro found
    obtain ⟨operation, member, same⟩ := found
    cases operation with
    | write other => cases same
    | shutdown other => cases same
    | close other =>
        rw [← Option.some.inj same]
        exact member
  · intro member
    exact ⟨.close descriptor, member, rfl⟩

theorem count_closes (operations : List Operation) (descriptor : Descriptor) :
    operations.count (.close descriptor) =
      (closes operations).count descriptor := by
  induction operations with
  | nil => rfl
  | cons operation rest ih =>
      rw [List.count_cons, ih]
      cases operation with
      | write other => simp [closes]
      | shutdown other => simp [closes]
      | close other =>
          have first : closes (.close other :: rest) =
              other :: closes rest := rfl
          rw [first, List.count_cons]
          by_cases same : other = descriptor
          · simp [same]
          · simp [same]

/-- `owed` are the descriptors that are still to be closed.  Each descriptor
that was opened is owed or closed, and nothing happens to a closed one. -/
structure Books (owed : List Descriptor) (runtime : Runtime) : Prop where
  ledger : runtime.opened.Perm (owed ++ closes runtime.history)
  openings : runtime.opened.map Descriptor.opening =
    (List.range runtime.opened.length).reverse
  numbers : (owed.map Descriptor.number).Nodup
  held : ∀ descriptor ∈ owed, descriptor.number ∈ runtime.held
  clean : Clean runtime.history

section Books

variable {owed others : List Descriptor} {runtime other : Runtime}
  {descriptor : Descriptor} {operation : Operation}

theorem Books.perm (books : Books owed runtime) (same : owed.Perm others) :
    Books others runtime where
  ledger := books.ledger.trans (same.append_right _)
  openings := books.openings
  numbers := (same.map Descriptor.number).nodup_iff.mp books.numbers
  held := fun descriptor member =>
    books.held descriptor (same.mem_iff.mpr member)
  clean := books.clean

theorem Books.of_eq (books : Books owed runtime)
    (opened : other.opened = runtime.opened)
    (history : other.history = runtime.history)
    (held : other.held = runtime.held) : Books owed other := by
  constructor
  · rw [opened, history]
    exact books.ledger
  · rw [opened]
    exact books.openings
  · exact books.numbers
  · rw [held]
    exact books.held
  · rw [history]
    exact books.clean

theorem Books.nodup (books : Books owed runtime) :
    (owed ++ closes runtime.history).Nodup := by
  have opened : runtime.opened.Nodup := by
    apply List.Nodup.of_map Descriptor.opening
    rw [books.openings, List.nodup_reverse]
    exact List.nodup_range
  exact books.ledger.nodup_iff.mp opened

theorem Books.not_closed (books : Books owed runtime)
    (member : descriptor ∈ owed) :
    .close descriptor ∉ runtime.history := by
  intro closed
  exact (List.nodup_append'.mp books.nodup).2.2 member (mem_closes.mpr closed)

theorem Clean.snoc {history : List Operation} (clean : Clean history)
    (fresh : .close operation.descriptor ∉ history) :
    Clean (history ++ [operation]) := by
  intro earlier issued later parts
  rcases List.eq_nil_or_concat later with last | before
  · rw [last] at parts
    obtain ⟨same, issuedLast⟩ := List.append_inj' parts rfl
    rw [← same, ← List.singleton_inj.mp issuedLast]
    exact fresh
  · obtain ⟨init, final, same⟩ := before
    rw [same, List.concat_eq_append, ← List.cons_append,
      ← List.append_assoc] at parts
    obtain ⟨front, _⟩ := List.append_inj' parts rfl
    exact clean earlier issued init front

theorem Books.touch (books : Books owed runtime)
    (member : operation.descriptor ∈ owed)
    (other : closes [operation] = []) :
    Books owed (runtime.issue operation) := by
  have clean := books.clean.snoc (books.not_closed member)
  have same : closes (runtime.history ++ [operation]) =
      closes runtime.history := by
    rw [closes, List.filterMap_append]
    rw [closes] at other
    rw [other, List.append_nil]
    rfl
  have ledger := books.ledger
  rw [← same] at ledger
  cases operation with
  | close closed => cases other
  | write written =>
      exact ⟨ledger, books.openings, books.numbers, books.held, clean⟩
  | shutdown shut =>
      exact ⟨ledger, books.openings, books.numbers, books.held, clean⟩

theorem Books.close (books : Books (descriptor :: owed) runtime) :
    Books owed (runtime.issue (.close descriptor)) := by
  have clean := @Clean.snoc (.close descriptor) _ books.clean
    (books.not_closed List.mem_cons_self)
  have closed : closes (runtime.history ++ [.close descriptor]) =
      closes runtime.history ++ [descriptor] := by
    rw [closes, List.filterMap_append]
    rfl
  have numbers := List.nodup_cons.mp books.numbers
  constructor
  · refine books.ledger.trans ?_
    change (descriptor :: owed ++ closes runtime.history).Perm
      (owed ++ closes (runtime.history ++ [.close descriptor]))
    rw [closed, ← List.append_assoc, List.cons_append]
    exact (List.perm_append_singleton descriptor _).symm
  · exact books.openings
  · exact numbers.2
  · intro remaining member
    refine (List.mem_erase_of_ne ?_).mpr
      (books.held remaining (List.mem_cons_of_mem _ member))
    intro same
    apply numbers.1
    rw [← same]
    exact List.mem_map_of_mem member
  · exact clean

theorem Books.opens (books : Books owed runtime) {number : Nat}
    (free : runtime.free number) :
    Books (runtime.fresh number :: owed) (runtime.opens number) := by
  constructor
  · exact books.ledger.cons _
  · change runtime.opened.length ::
        runtime.opened.map Descriptor.opening = _
    rw [books.openings]
    change _ = (List.range (runtime.opened.length + 1)).reverse
    rw [List.range_succ, List.reverse_append]
    rfl
  · rw [List.map_cons, List.nodup_cons]
    refine ⟨?_, books.numbers⟩
    intro member
    obtain ⟨clash, inside, same⟩ := List.mem_map.mp member
    apply free.1
    have held := books.held clash inside
    rwa [same] at held
  · intro each member
    rcases List.mem_cons.mp member with same | inside
    · rw [same]
      exact List.mem_cons_self
    · exact List.mem_cons_of_mem _ (books.held each inside)
  · exact books.clean

theorem Books.issueAll {operations : List Operation}
    (books : Books owed runtime)
    (members : ∀ operation ∈ operations, operation.descriptor ∈ owed)
    (other : closes operations = []) :
    Books owed (runtime.issueAll operations) := by
  rw [Runtime.issueAll]
  induction operations generalizing runtime with
  | nil => exact books
  | cons first rest ih =>
      have parts := List.forall_mem_cons.mp members
      have split : closes (first :: rest) = closes [first] ++ closes rest := by
        rw [closes, closes, closes, ← List.filterMap_append,
          List.singleton_append]
      rw [split, List.append_eq_nil_iff] at other
      exact ih (books.touch parts.1 other.1) parts.2 other.2

end Books

/-! ## The invariant -/

namespace Thread

/-- The descriptors that a thread will close. -/
def owed : Thread → List Descriptor
  | .accepted _ client => [client]
  | .reading client => [client]
  | .ending client => [client]
  | .stopping operations => closes operations
  | .starting operations => closes operations
  | .binding listener => [listener]
  | _ => []

def reads : Thread → List Descriptor
  | .reading client => [client]
  | _ => []

def keeps : Thread → List Descriptor
  | .reading client => [client]
  | .ending client => [client]
  | _ => []

end Thread

/-- Each operation is on a descriptor that is closed by it or later. -/
def Tidy : List Operation → Prop
  | [] => True
  | operation :: rest =>
      operation.descriptor ∈ closes (operation :: rest) ∧ Tidy rest

def Thread.Tidy : Thread → Prop
  | .stopping operations => ConsoleServer.Tidy operations
  | .starting operations => ConsoleServer.Tidy operations
  | _ => True

def Runtime.owed (runtime : Runtime) : List Descriptor :=
  runtime.consoleListener.toList ++ runtime.threads.flatMap Thread.owed

/-- A listed client has a loop that reads from it, and a client that a fan-out
has to shut down has a loop that did not close it. -/
structure Invariant (runtime : Runtime) : Prop where
  books : Books runtime.owed runtime
  listed : runtime.consoleClients ⊆ runtime.threads.flatMap Thread.reads
  failed : runtime.threads.flatMap Thread.failed ⊆
    runtime.threads.flatMap Thread.keeps
  tidy : ∀ thread ∈ runtime.threads, thread.Tidy
  starts : runtime.threads.countP Runtime.isStarting +
    runtime.consoleListener.toList.length ≤ 1

theorem invariant_initial : Invariant Runtime.initial := by
  refine ⟨⟨List.Perm.nil, rfl, List.nodup_nil, ?_, ?_⟩, ?_, ?_, ?_, ?_⟩
  · intro descriptor member
    cases member
  · intro earlier operation later parts
    exact absurd parts.symm (by simp [Runtime.initial])
  · exact List.nil_subset _
  · exact List.nil_subset _
  · intro thread member
    cases member
  · exact Nat.zero_le 1

section Invariant

variable {runtime target : Runtime} {thread : Thread} {threads : List Thread}
  {listener client : Descriptor} {answer : Answer}

theorem Invariant.perm (holds : Invariant runtime)
    (same : runtime.threads.Perm threads) :
    Invariant { runtime with threads := threads } := by
  have owed : runtime.owed.Perm
      ({ runtime with threads := threads } : Runtime).owed :=
    (same.flatMap_right _).append_left _
  constructor
  · exact (holds.books.perm owed).of_eq rfl rfl rfl
  · intro client member
    exact (same.flatMap_right _).mem_iff.mp (holds.listed member)
  · intro client member
    apply (same.flatMap_right _).mem_iff.mp
    exact holds.failed ((same.flatMap_right _).mem_iff.mpr member)
  · intro thread member
    exact holds.tidy thread (same.mem_iff.mpr member)
  · rw [← same.countP_eq]
    exact holds.starts

theorem owed_adding :
    (threads.flatMap Thread.owed ++ runtime.owed).Perm
      (runtime.adding threads).owed := by
  rw [Runtime.owed, Runtime.owed, Runtime.adding, List.flatMap_append]
  rw [← List.append_assoc, ← List.append_assoc]
  exact List.perm_append_comm.append_right _

theorem Invariant.owes (holds : Invariant (runtime.adding [thread])) :
    Books (thread.owed ++ runtime.owed) runtime := by
  have owed := holds.books.perm owed_adding.symm
  rw [List.flatMap_singleton] at owed
  exact owed.of_eq rfl rfl rfl

theorem Books.adding
    (books : Books (threads.flatMap Thread.owed ++ runtime.owed) target)
    (listener : target.consoleListener = runtime.consoleListener)
    (moved : target.threads = runtime.threads) :
    Books (target.adding threads).owed (target.adding threads) := by
  have same : target.owed = runtime.owed := by
    rw [Runtime.owed, Runtime.owed, listener, moved]
  rw [← same] at books
  exact (books.perm owed_adding).of_eq rfl rfl rfl

theorem Invariant.replace
    (holds : Invariant (runtime.adding [thread]))
    (books : Books (threads.flatMap Thread.owed ++ runtime.owed) target)
    (clients : target.consoleClients = runtime.consoleClients)
    (listener : target.consoleListener = runtime.consoleListener)
    (moved : target.threads = runtime.threads)
    (reads : thread.reads ⊆ threads.flatMap Thread.reads)
    (keeps : thread.keeps ⊆ threads.flatMap Thread.keeps)
    (failed : threads.flatMap Thread.failed ⊆ thread.failed)
    (tidy : ∀ each ∈ threads, each.Tidy)
    (starts : threads.countP Runtime.isStarting ≤
      [thread].countP Runtime.isStarting) :
    Invariant (target.adding threads) := by
  have all : (target.adding threads).threads = threads ++ runtime.threads := by
    rw [Runtime.adding, moved]
  constructor
  · exact books.adding listener moved
  · have before := holds.listed
    rw [all, List.flatMap_append]
    change target.consoleClients ⊆ _
    rw [clients]
    intro client member
    rcases List.mem_append.mp (before member) with own | rest
    · exact List.mem_append_left _ (reads own)
    · exact List.mem_append_right _ rest
  · have before := holds.failed
    rw [all, List.flatMap_append, List.flatMap_append]
    intro client member
    have wasFailed : client ∈
        (runtime.adding [thread]).threads.flatMap Thread.failed := by
      rcases List.mem_append.mp member with own | rest
      · exact List.mem_append_left _ (failed own)
      · exact List.mem_append_right _ rest
    rcases List.mem_append.mp (before wasFailed) with own | rest
    · exact List.mem_append_left _ (keeps own)
    · exact List.mem_append_right _ rest
  · rw [all]
    intro each member
    rcases List.mem_append.mp member with own | rest
    · exact tidy each own
    · exact holds.tidy each (List.mem_append_right _ rest)
  · have before := holds.starts
    rw [all, List.countP_append]
    change _ + target.consoleListener.toList.length ≤ 1
    rw [listener]
    rw [Runtime.adding, List.countP_append] at before
    change _ + runtime.consoleListener.toList.length ≤ 1 at before
    omega

theorem Invariant.drop
    (holds : Invariant (runtime.adding [thread]))
    (owes : thread.owed = [])
    (keeps : thread.keeps = []) (reads : thread.reads = []) :
    Invariant runtime := by
  have books := holds.owes
  rw [owes] at books
  apply @Invariant.replace runtime runtime thread [] holds books rfl rfl rfl
  · rw [reads]
    exact List.nil_subset _
  · rw [keeps]
    exact List.nil_subset _
  · exact List.nil_subset _
  · intro each member
    cases member
  · exact Nat.zero_le _

theorem Invariant.goOn
    (holds : Invariant (runtime.adding [thread]))
    (books : Books (threads.flatMap Thread.owed ++ runtime.owed) target)
    (clients : target.consoleClients = runtime.consoleClients)
    (listener : target.consoleListener = runtime.consoleListener)
    (moved : target.threads = runtime.threads)
    (reads : thread.reads = []) (keeps : thread.keeps = [])
    (failed : threads.flatMap Thread.failed = [])
    (tidy : ∀ each ∈ threads, each.Tidy)
    (starts : threads.countP Runtime.isStarting ≤
      [thread].countP Runtime.isStarting) :
    Invariant (target.adding threads) := by
  apply holds.replace books clients listener moved
  · simp [reads]
  · simp [keeps]
  · simp [failed]
  · exact tidy
  · exact starts

theorem Invariant.acceptLoop
    (holds : Invariant (runtime.adding [.accepting listener])) :
    Invariant (runtime.acceptLoop listener) := by
  rw [Runtime.acceptLoop]
  split
  · exact holds.goOn holds.owes rfl rfl rfl rfl rfl rfl
      (by simp [Thread.Tidy]) (Nat.zero_le _)
  · exact holds.drop rfl rfl rfl

theorem Invariant.accept
    (holds : Invariant (runtime.adding [.waiting listener]))
    (moved : runtime.accept listener answer = some target) :
    Invariant target := by
  have books := holds.owes
  cases answer with
  | opens number =>
      by_cases free : runtime.free number
      · have same : (runtime.opens number).adding
            [.accepted listener (runtime.fresh number)] = target := by
          simpa [Runtime.accept, free] using moved
        rw [← same]
        exact holds.goOn (books.opens free) rfl rfl rfl rfl rfl rfl
          (by simp [Thread.Tidy]) (Nat.zero_le _)
      · simp [Runtime.accept, free] at moved
  | interrupted =>
      rw [← Option.some.inj moved]
      exact holds.goOn books rfl rfl rfl rfl rfl rfl
        (by simp [Thread.Tidy]) (Nat.zero_le _)
  | succeeds =>
      rw [← Option.some.inj moved]
      exact holds.drop rfl rfl rfl
  | fails =>
      rw [← Option.some.inj moved]
      exact holds.drop rfl rfl rfl

theorem Invariant.listClient
    (holds : Invariant (runtime.adding [.accepted listener client])) :
    Invariant (runtime.listClient listener client answer) := by
  have listed : Invariant ({ runtime with
      consoleClients := runtime.consoleClients ++ [client] }.adding
        [.reading client, .accepting listener]) := by
    constructor
    · exact holds.books.of_eq rfl rfl rfl
    · intro each member
      rcases List.mem_append.mp member with before | new
      · exact List.mem_cons_of_mem _ (holds.listed before)
      · rw [List.mem_singleton.mp new]
        exact List.mem_cons_self
    · intro each member
      exact List.mem_cons_of_mem _ (holds.failed member)
    · intro each member
      rcases List.mem_append.mp member with own | rest
      · have either : each = .reading client ∨ each = .accepting listener := by
          simpa using own
        rcases either with same | same <;> rw [same] <;> exact True.intro
      · exact holds.tidy each (List.mem_append_right _ rest)
    · exact holds.starts
  cases answer with
  | fails =>
      exact holds.goOn holds.owes.close rfl rfl rfl rfl rfl rfl
        (by simp [Thread.Tidy]) (Nat.zero_le _)
  | succeeds => exact listed
  | interrupted => exact listed
  | opens number => exact listed

/-- The numbers of the descriptors that are owed differ, so that the loop of a
client removes no other client. -/
theorem Invariant.clientLoop
    (holds : Invariant (runtime.adding [.reading client])) :
    Invariant (runtime.clientLoop client answer) := by
  have ended : Invariant ({ runtime with
      consoleClients := runtime.consoleClients.filter fun other =>
        other.number ≠ client.number }.adding [.ending client]) := by
    constructor
    · exact holds.books.of_eq rfl rfl rfl
    · intro each member
      obtain ⟨before, differs⟩ := List.mem_filter.mp member
      rcases List.mem_cons.mp (holds.listed before) with same | rest
      · simp [same] at differs
      · exact rest
    · exact holds.failed
    · intro each member
      rcases List.mem_append.mp member with own | rest
      · rw [List.mem_singleton.mp own]
        exact True.intro
      · exact holds.tidy each (List.mem_append_right _ rest)
    · exact holds.starts
  cases answer with
  | fails => exact ended
  | succeeds => exact holds
  | interrupted => exact holds
  | opens number => exact holds

theorem Invariant.ending
    (holds : Invariant (runtime.adding [.ending client]))
    (done : client ∉ runtime.threads.flatMap Thread.failed) :
    Invariant (runtime.issue (.close client)) := by
  constructor
  · exact holds.owes.close
  · exact holds.listed
  · intro each member
    rcases List.mem_cons.mp (holds.failed member) with same | rest
    · exact absurd (same ▸ member) done
    · exact rest
  · intro each member
    exact holds.tidy each (List.mem_append_right _ member)
  · exact holds.starts

theorem keeps_subset_owed (threads : List Thread) :
    threads.flatMap Thread.keeps ⊆ threads.flatMap Thread.owed := by
  intro client member
  obtain ⟨thread, inside, kept⟩ := List.mem_flatMap.mp member
  refine List.mem_flatMap.mpr ⟨thread, inside, ?_⟩
  cases thread with
  | reading reader => exact kept
  | ending reader => exact kept
  | _ => cases kept

theorem reads_subset_keeps (threads : List Thread) :
    threads.flatMap Thread.reads ⊆ threads.flatMap Thread.keeps := by
  intro client member
  obtain ⟨thread, inside, read⟩ := List.mem_flatMap.mp member
  refine List.mem_flatMap.mpr ⟨thread, inside, ?_⟩
  cases thread with
  | reading reader => exact read
  | _ => cases read

theorem Invariant.shutFailed {failed : List Descriptor}
    (holds : Invariant (runtime.adding [.shutting failed])) :
    Invariant (runtime.shutFailed failed) := by
  cases failed with
  | nil => exact holds.drop rfl rfl rfl
  | cons client rest =>
      have kept := holds.failed (List.mem_cons_self)
      have owed : client ∈ runtime.owed :=
        List.mem_append_right _ (keeps_subset_owed _ kept)
      have books : Books runtime.owed (runtime.issue (.shutdown client)) :=
        @Books.touch _ _ (.shutdown client) holds.owes owed rfl
      have fewer : [Thread.shutting rest].flatMap Thread.failed ⊆
          client :: rest := by
        rw [List.flatMap_singleton]
        exact List.subset_cons_self client rest
      exact holds.replace books rfl rfl rfl (List.nil_subset _)
        (List.nil_subset _) fewer (by simp [Thread.Tidy]) (Nat.zero_le _)

theorem Books.tidy {operation : Operation} {rest : List Operation}
    {owed : List Descriptor}
    (books : Books (closes (operation :: rest) ++ owed) runtime)
    (tidy : Tidy (operation :: rest)) :
    Books (closes rest ++ owed) (runtime.issue operation) := by
  have member := List.mem_append_left owed tidy.1
  cases operation with
  | write written => exact books.touch member rfl
  | shutdown shut => exact books.touch member rfl
  | close closed => exact books.close

theorem Invariant.stopCalls {operations : List Operation}
    (holds : Invariant (runtime.adding [.stopping operations])) :
    Invariant (runtime.stopCalls operations) := by
  cases operations with
  | nil => exact holds.drop rfl rfl rfl
  | cons operation rest =>
      have tidy : Tidy (operation :: rest) := holds.tidy _ List.mem_cons_self
      apply holds.goOn _ _ _ _ rfl rfl rfl
      · simpa [Thread.Tidy] using tidy.2
      · exact Nat.zero_le _
      · rw [List.flatMap_singleton]
        exact holds.owes.tidy tidy
      · cases operation <;> rfl
      · cases operation <;> rfl
      · cases operation <;> rfl

theorem Invariant.startCalls {operations : List Operation}
    (holds : Invariant (runtime.adding [.starting operations]))
    (moved : runtime.startCalls operations answer = some target) :
    Invariant target := by
  have books := holds.owes
  cases operations with
  | cons operation rest =>
      have tidy : Tidy (operation :: rest) := holds.tidy _ List.mem_cons_self
      rw [← Option.some.inj moved]
      apply holds.goOn _ _ _ _ rfl rfl rfl
      · simpa [Thread.Tidy] using tidy.2
      · exact Nat.le_refl _
      · rw [List.flatMap_singleton]
        exact books.tidy tidy
      · cases operation <;> rfl
      · cases operation <;> rfl
      · cases operation <;> rfl
  | nil =>
      cases answer with
      | opens number =>
          by_cases free : runtime.free number
          · have same : (runtime.opens number).adding
                [.binding (runtime.fresh number)] = target := by
              simpa [Runtime.startCalls, free] using moved
            rw [← same]
            exact holds.goOn (books.opens free) rfl rfl rfl rfl rfl rfl
              (by simp [Thread.Tidy]) (Nat.le_refl _)
          · simp [Runtime.startCalls, free] at moved
      | succeeds =>
          rw [← Option.some.inj moved]
          exact holds.drop rfl rfl rfl
      | fails =>
          rw [← Option.some.inj moved]
          exact holds.drop rfl rfl rfl
      | interrupted =>
          rw [← Option.some.inj moved]
          exact holds.drop rfl rfl rfl

theorem Invariant.bindListener
    (holds : Invariant (runtime.adding [.binding listener])) :
    Invariant (runtime.bindListener listener answer) := by
  have starts := holds.starts
  have counted : (runtime.adding [.binding listener]).threads.countP
      Runtime.isStarting =
        runtime.threads.countP Runtime.isStarting + 1 :=
    List.countP_cons_of_pos rfl
  rw [counted] at starts
  change _ + runtime.consoleListener.toList.length ≤ 1 at starts
  have none : runtime.consoleListener.toList = [] := by
    apply List.eq_nil_of_length_eq_zero
    omega
  have bound : Invariant ({ runtime with
      consoleListener := some listener }.adding [.accepting listener]) := by
    constructor
    · have books := holds.books
      rw [Runtime.owed] at books
      change Books (runtime.consoleListener.toList ++ _) _ at books
      rw [none] at books
      exact books.of_eq rfl rfl rfl
    · exact holds.listed
    · exact holds.failed
    · intro each member
      rcases List.mem_append.mp member with own | rest
      · rw [List.mem_singleton.mp own]
        exact True.intro
      · exact holds.tidy each (List.mem_append_right _ rest)
    · change runtime.threads.countP Runtime.isStarting + 1 ≤ 1
      omega
  cases answer with
  | fails =>
      have closed : Books ([].flatMap Thread.owed ++ runtime.owed)
          (runtime.issue (.close listener)) := holds.owes.close
      exact holds.goOn closed rfl rfl rfl rfl rfl rfl (by simp)
        (Nat.zero_le _)
  | succeeds => exact bound
  | interrupted => exact bound
  | opens number => exact bound

theorem issueAll_threads (operations : List Operation) :
    (runtime.issueAll operations).threads = runtime.threads := by
  rw [Runtime.issueAll]
  induction operations generalizing runtime with
  | nil => rfl
  | cons operation rest ih =>
      rw [List.foldl_cons, ih]
      cases operation <;> rfl

theorem issueAll_consoleListener (operations : List Operation) :
    (runtime.issueAll operations).consoleListener =
      runtime.consoleListener := by
  rw [Runtime.issueAll]
  induction operations generalizing runtime with
  | nil => rfl
  | cons operation rest ih =>
      rw [List.foldl_cons, ih]
      cases operation <;> rfl

theorem Invariant.fanOut (holds : Invariant runtime)
    (fails : Descriptor → Bool) : Invariant (runtime.fanOut fails) := by
  have kept : runtime.consoleClients ⊆
      runtime.threads.flatMap Thread.keeps := by
    intro client member
    exact reads_subset_keeps _ (holds.listed member)
  have written : Books runtime.owed
      (runtime.issueAll (runtime.consoleClients.map .write)) := by
    apply holds.books.issueAll
    · intro operation member
      obtain ⟨client, inside, same⟩ := List.mem_map.mp member
      rw [← same]
      exact List.mem_append_right _ (keeps_subset_owed _ (kept inside))
    · rw [closes, List.filterMap_map, List.filterMap_eq_nil_iff]
      intro client member
      rfl
  rw [Runtime.fanOut]
  constructor
  · refine Books.adding ?_ (issueAll_consoleListener _) (issueAll_threads _)
    exact written.of_eq rfl rfl rfl
  · intro client member
    have inside := holds.listed (List.mem_filter.mp member).1
    rw [Runtime.adding, issueAll_threads]
    exact inside
  · intro client member
    rw [Runtime.adding, issueAll_threads] at member ⊢
    rcases List.mem_append.mp member with own | rest
    · exact kept (List.mem_filter.mp own).1
    · exact holds.failed rest
  · intro each member
    rw [Runtime.adding, issueAll_threads] at member
    rcases List.mem_cons.mp member with own | rest
    · rw [own]
      exact True.intro
    · exact holds.tidy each rest
  · have starts := holds.starts
    rw [Runtime.adding, issueAll_threads]
    change _ + (runtime.issueAll _).consoleListener.toList.length ≤ 1
    rw [issueAll_consoleListener]
    exact starts

theorem stopOperations_idle (idle : runtime.consoleClients = []) :
    closes runtime.stopOperations = runtime.consoleListener.toList ∧
      Tidy runtime.stopOperations := by
  rw [Runtime.stopOperations, idle]
  cases runtime.consoleListener with
  | none => exact ⟨rfl, True.intro⟩
  | some listener =>
      refine ⟨rfl, ?_, ?_, True.intro⟩
      · exact List.mem_cons_self
      · exact List.mem_cons_self

theorem Invariant.takenDown (holds : Invariant runtime)
    (idle : runtime.consoleClients = [])
    (owes : thread.owed = closes runtime.stopOperations)
    (keeps : thread.keeps = []) (failed : thread.failed = [])
    (tidy : thread.Tidy)
    (starts : (thread :: runtime.threads).countP Runtime.isStarting ≤ 1) :
    Invariant (runtime.takenDown.adding [thread]) := by
  constructor
  · have books := holds.books
    rw [Runtime.owed, ← (stopOperations_idle idle).1, ← owes] at books
    exact books.of_eq rfl rfl rfl
  · exact List.nil_subset _
  · change thread.failed ++ runtime.threads.flatMap Thread.failed ⊆
      thread.keeps ++ runtime.threads.flatMap Thread.keeps
    rw [failed, keeps]
    exact holds.failed
  · intro each member
    rcases List.mem_cons.mp member with own | rest
    · rw [own]
      exact tidy
    · exact holds.tidy each rest
  · exact starts

theorem Invariant.advance
    (holds : Invariant (runtime.adding [thread]))
    (done : ∀ client, thread = .ending client →
      client ∉ runtime.threads.flatMap Thread.failed)
    (moved : runtime.advance thread answer = some target) :
    Invariant target := by
  cases thread with
  | accepting listener =>
      rw [← Option.some.inj moved]
      exact holds.acceptLoop
  | waiting listener => exact holds.accept moved
  | accepted listener client =>
      rw [← Option.some.inj moved]
      exact holds.listClient
  | reading client =>
      rw [← Option.some.inj moved]
      exact holds.clientLoop
  | ending client =>
      rw [← Option.some.inj moved]
      exact holds.ending (done client rfl)
  | shutting failed =>
      rw [← Option.some.inj moved]
      exact holds.shutFailed
  | stopping operations =>
      rw [← Option.some.inj moved]
      exact holds.stopCalls
  | starting operations => exact holds.startCalls moved
  | binding listener =>
      rw [← Option.some.inj moved]
      exact holds.bindListener

theorem Invariant.others (holds : Invariant runtime) (numbers : List Nat) :
    Invariant { runtime with others := numbers } :=
  ⟨holds.books.of_eq rfl rfl rfl, holds.listed, holds.failed, holds.tidy,
    holds.starts⟩

theorem Invariant.move (holds : Invariant runtime) {index : Nat}
    (allowed : Allowed runtime (.move index answer))
    (performed : perform runtime (.move index answer) = some target) :
    Invariant target := by
  by_cases inside : index < runtime.threads.length
  · have found : runtime.threads[index]? = some runtime.threads[index] :=
      List.getElem?_eq_getElem inside
    have taken := holds.perm (List.getElem_cons_eraseIdx_perm inside).symm
    rw [perform, found] at performed
    rw [Allowed, found] at allowed
    refine @Invariant.advance
      { runtime with threads := runtime.threads.eraseIdx index }
      _ _ _ taken ?_ performed
    intro client ending member
    obtain ⟨other, rest, failed⟩ := List.mem_flatMap.mp member
    rw [ending] at allowed
    exact allowed other (List.mem_of_mem_eraseIdx rest) failed
  · have outside := List.getElem?_eq_none (Nat.le_of_not_lt inside)
    rw [perform, outside] at performed
    cases performed

theorem Invariant.perform (holds : Invariant runtime) {label : Label}
    (allowed : Allowed runtime label)
    (performed : perform runtime label = some target) :
    Invariant target := by
  cases label with
  | move index answer => exact holds.move allowed performed
  | fanOut fails =>
      rw [← Option.some.inj performed]
      exact holds.fanOut fails
  | stop =>
      have tidy := (stopOperations_idle allowed).2
      rw [← Option.some.inj performed]
      refine holds.takenDown allowed rfl rfl rfl tidy ?_
      exact Nat.le_of_add_right_le holds.starts
  | start =>
      have tidy := (stopOperations_idle allowed).2
      by_cases busy : runtime.threads.any Runtime.isStarting
      · simp [ConsoleServer.perform, busy] at performed
      · have same : runtime.takenDown.adding
            [.starting runtime.stopOperations] = target := by
          simpa [ConsoleServer.perform, busy] using performed
        rw [← same]
        refine holds.takenDown allowed rfl rfl rfl tidy ?_
        have none : runtime.threads.countP Runtime.isStarting = 0 := by
          rw [List.countP_eq_zero]
          intro thread member starting
          exact busy (List.any_eq_true.mpr ⟨thread, member, starting⟩)
        have one : List.countP Runtime.isStarting
            (.starting runtime.stopOperations :: runtime.threads) = 1 := by
          rw [List.countP_cons_of_pos rfl, none]
        exact Nat.le_of_eq one
  | otherOpens number =>
      by_cases free : runtime.free number
      · have same : { runtime with others := number :: runtime.others } =
            target := by
          simpa [ConsoleServer.perform, free] using performed
        rw [← same]
        exact holds.others _
      · simp [ConsoleServer.perform, free] at performed
  | otherCloses number =>
      rw [← Option.some.inj performed]
      exact holds.others _

theorem Invariant.closedOnce (holds : Invariant runtime) :
    ClosedOnce runtime := by
  refine ⟨holds.books.clean, ?_⟩
  intro idle descriptor member
  have owed : runtime.owed = [] := by
    rw [Runtime.owed, idle.1, idle.2]
    rfl
  have ledger := holds.books.ledger
  have nodup := holds.books.nodup
  rw [owed] at ledger nodup
  rw [count_closes]
  exact List.count_eq_one_of_mem nodup (ledger.mem_iff.mp member)

end Invariant

/-! ## Runs -/

/-- A server that is stopped while no client is connected, and whose client
loops wait for the shutdowns of a fan-out, closes each descriptor once and
uses none that is closed. -/
theorem closed_once_of_runs {runtime : Runtime}
    (run : Runs (guarded Allowed step) Runtime.initial runtime) :
    ClosedOnce runtime := by
  refine (invariant_of_runs Invariant ?_ invariant_initial run).closedOnce
  intro source label target holds performed
  exact holds.perform performed.1 performed.2

/-- A start, a client that connects and leaves, and a stop. -/
theorem closed_once_of_runs_served :
    ∃ runtime, runtime.Idle ∧ runtime.opened.length = 2 ∧
      ClosedOnce runtime := by
  let labels : List Label :=
    [.start, .move 0 (.opens 3), .move 0 .succeeds, .move 0 .succeeds,
      .move 0 (.opens 4), .move 0 .succeeds, .move 0 .fails, .move 0 .succeeds,
      .stop, .move 0 .succeeds, .move 0 .succeeds, .move 0 .succeeds,
      .move 0 .succeeds]
  let final : Runtime :=
    { Runtime.initial with
      opened := [⟨4, 1⟩, ⟨3, 0⟩]
      history := [.close ⟨4, 1⟩, .shutdown ⟨3, 0⟩, .close ⟨3, 0⟩] }
  refine ⟨final, ⟨rfl, rfl⟩, rfl, ?_⟩
  apply closed_once_of_runs
  exact @Runs.guarded_foldlM _ _ _ _ _ labels _ _ rfl

/-- The server is stopped while a client is connected.  When the loop of the
client ends, its number belongs to another part of the helper, and the loop
closes it. -/
theorem stop_closes_twice :
    ¬ ∀ runtime, Runs step Runtime.initial runtime → ClosedOnce runtime := by
  let labels : List Label :=
    [.start, .move 0 (.opens 3), .move 0 .succeeds, .move 0 .succeeds,
      .move 0 (.opens 4), .move 0 .succeeds, .stop, .move 0 .succeeds,
      .move 0 .succeeds, .move 0 .succeeds, .move 0 .succeeds,
      .otherOpens 4, .move 1 .fails, .move 0 .succeeds]
  intro always
  let final : Runtime :=
    { Runtime.initial with
      threads := [.stopping [], .accepting ⟨3, 0⟩]
      opened := [⟨4, 1⟩, ⟨3, 0⟩]
      history := [.shutdown ⟨3, 0⟩, .close ⟨3, 0⟩, .shutdown ⟨4, 1⟩,
        .close ⟨4, 1⟩, .close ⟨4, 1⟩] }
  have run : Runs (guarded (fun _ _ => True) step) Runtime.initial final :=
    @Runs.guarded_foldlM _ _ _ _ _ labels _ _ rfl
  have clean := (always final run.of_guarded).clean
  apply clean [.shutdown ⟨3, 0⟩, .close ⟨3, 0⟩, .shutdown ⟨4, 1⟩,
    .close ⟨4, 1⟩] (.close ⟨4, 1⟩) [] rfl
  simp [Operation.descriptor]

end ConsoleServer

end Vzctl
