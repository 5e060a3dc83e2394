import Mathlib.Logic.Function.Basic
import Vzctl.Lib.Procedure
import Vzctl.Lib.Transition

/-!
# Interleaved processes

A process is a sequence of atomic actions on a shared state.  Every action
gets a choice from outside, so that clocks, random values and failures of the
environment are inputs.  A pool runs any number of processes that take turns
between actions; a process may also stop there.

`Safe` is the precondition of a process on the assumption that the others keep
to a relation `rely`, and that its actions happen where they are `granted`:
every action of its own keeps to `guarantee`, and its outcome meets a
postcondition.  `AllSafe` lifts it to the runs of a pool.
-/

universe u v

/-- Atomic actions, each with a choice from outside, up to an outcome. -/
inductive Process (σ χ : Type u) (ε : Type v) (α : Type v) where
  | done (outcome : Except ε α)
  | atomic (change : χ → σ → σ) (next : χ → σ → Process σ χ ε α)

namespace Process

variable {σ χ : Type u} {ε α β : Type v}

protected def bind (next : α → Process σ χ ε β) :
    Process σ χ ε α → Process σ χ ε β
  | done (.ok value) => next value
  | done (.error failure) => done (.error failure)
  | atomic change rest =>
      atomic change fun choice state => (rest choice state).bind next

instance : Monad (Process σ χ ε) where
  pure value := done (.ok value)
  bind process next := process.bind next

/-- End with an error. -/
def fail (failure : ε) : Process σ χ ε α := done (.error failure)

/-- A procedure as one action. -/
def atomically (perform : χ → Procedure σ ε α) : Process σ χ ε α :=
  atomic (fun choice state => (perform choice state).2)
    fun choice state => done (perform choice state).1

/-- Look at the state in one action. -/
def look (see : σ → Except ε α) : Process σ χ ε α :=
  atomically fun _ => Procedure.reading see

/-- Get a value from outside. -/
def ask (answer : χ → Except ε α) : Process σ χ ε α :=
  atomically fun choice state => (answer choice, state)

/-- Fail unless a condition holds. -/
def require (condition : Prop) [Decidable condition] (failure : ε) :
    Process σ χ ε PUnit :=
  if condition then done (.ok ⟨⟩) else fail failure

/-- There are actions left. -/
def running : Process σ χ ε α → Prop
  | done _ => False
  | atomic _ _ => True

/-! ## Processes on their own -/

/-- A process that is not disturbed ends with an outcome and a state. -/
inductive Returns : Process σ χ ε α → σ → Except ε α → σ → Prop
  | done {outcome : Except ε α} {state : σ} :
      Returns (done outcome) state outcome state
  | atomic {change : χ → σ → σ} {next : χ → σ → Process σ χ ε α}
      {choice : χ} {state reached : σ} {outcome : Except ε α} :
      Returns (next choice state) (change choice state) outcome reached →
      Returns (atomic change next) state outcome reached

theorem exists_returns [Nonempty χ] (process : Process σ χ ε α) (state : σ) :
    ∃ outcome reached, Returns process state outcome reached := by
  induction process generalizing state with
  | done outcome => exact ⟨outcome, state, .done⟩
  | atomic change next ih =>
      obtain ⟨choice⟩ := ‹Nonempty χ›
      obtain ⟨outcome, reached, returns⟩ :=
        ih choice state (change choice state)
      exact ⟨outcome, reached, .atomic returns⟩

/-- What comes after an action that returns. -/
theorem Returns.after {perform : χ → Procedure σ ε β}
    {next : β → Process σ χ ε α} {state middle reached : σ} {value : β}
    {outcome : Except ε α}
    (returns : Returns (atomically perform >>= next) state outcome reached)
    (performed : ∀ choice, perform choice state = (.ok value, middle)) :
    Returns (next value) middle outcome reached := by
  cases returns with
  | @atomic _ _ choice _ _ _ rest =>
      simpa only [Process.bind, performed choice] using rest

theorem Returns.of_pure {state reached : σ} {value : α}
    {outcome : Except ε α}
    (returns : Returns (pure value : Process σ χ ε α) state outcome
      reached) : outcome = .ok value ∧ reached = state := by
  cases returns with
  | done => exact ⟨rfl, rfl⟩

/-! ## Processes among others -/

/-- While the others keep to `rely`, every action that is granted keeps to
`guarantee`, and the outcome meets `post`. -/
def Safe (granted : Process σ χ ε α → σ → χ → Prop)
    (rely guarantee : σ → σ → Prop) (post : Except ε α → σ → Prop) :
    Process σ χ ε α → σ → Prop
  | done outcome, state => ∀ later, rely state later → post outcome later
  | atomic change next, state =>
      ∀ later, rely state later → ∀ choice,
        granted (atomic change next) later choice →
        guarantee later (change choice later) ∧
          Safe granted rely guarantee post (next choice later)
            (change choice later)

/-- Every action is granted. -/
def always : Process σ χ ε α → σ → χ → Prop := fun _ _ _ => True

namespace Safe

variable {granted : Process σ χ ε α → σ → χ → Prop}
  {rely guarantee : σ → σ → Prop} {post : Except ε α → σ → Prop} {state : σ}

/-- What others do keeps a process safe. -/
theorem later {process : Process σ χ ε α} {after : σ}
    (transitive : ∀ first second third,
      rely first second → rely second third → rely first third)
    (safe : Safe granted rely guarantee post process state)
    (relied : rely state after) :
    Safe granted rely guarantee post process after := by
  cases process with
  | done outcome =>
      intro last reached
      exact safe last (transitive _ _ _ relied reached)
  | atomic change next =>
      intro last reached
      exact safe last (transitive _ _ _ relied reached)

theorem mono {process : Process σ χ ε α}
    {weaker : Except ε α → σ → Prop}
    (safe : Safe granted rely guarantee post process state)
    (implies : ∀ outcome reached, post outcome reached →
      weaker outcome reached) :
    Safe granted rely guarantee weaker process state := by
  induction process generalizing state with
  | done outcome =>
      intro last reached
      exact implies outcome last (safe last reached)
  | atomic change next ih =>
      intro last reached choice given
      have step := safe last reached choice given
      exact ⟨step.1, ih choice last step.2⟩

theorem of_pure {value : α}
    (holds : ∀ later, rely state later → post (.ok value) later) :
    Safe granted rely guarantee post (pure value : Process σ χ ε α) state :=
  holds

theorem of_fail {failure : ε}
    (holds : ∀ later, rely state later → post (.error failure) later) :
    Safe granted rely guarantee post (fail failure : Process σ χ ε α) state :=
  holds

/-- The rule for a sequence. -/
theorem of_bind {first : Process σ χ ε β} {next : β → Process σ χ ε α}
    (reflexive : ∀ state, rely state state)
    (safe : Safe (fun process => granted (process >>= next)) rely guarantee
      (fun outcome reached =>
        match outcome with
        | .ok value => Safe granted rely guarantee post (next value) reached
        | .error failure => post (.error failure) reached)
      first state) :
    Safe granted rely guarantee post (first >>= next) state := by
  induction first generalizing state with
  | done outcome =>
      cases outcome with
      | ok value => exact safe state (reflexive state)
      | error failure =>
          intro last reached
          exact safe last reached
  | atomic change rest ih =>
      intro last reached choice given
      have step := safe last reached choice given
      exact ⟨step.1, ih choice last step.2⟩

/-- The rule for one action that starts a sequence, from a condition that
others keep. -/
theorem of_atomically {perform : χ → Procedure σ ε β}
    {next : β → Process σ χ ε α} {before : σ → Prop}
    (holds : before state)
    (stable : ∀ first second, before first → rely first second →
      before second)
    (kept : ∀ current choice, before current →
      granted (atomically perform >>= next) current choice →
      guarantee current (perform choice current).2)
    (onReturn : ∀ current choice value reached, before current →
      granted (atomically perform >>= next) current choice →
      perform choice current = (.ok value, reached) →
      Safe granted rely guarantee post (next value) reached)
    (onFailure : ∀ current choice failure reached, before current →
      perform choice current = (.error failure, reached) →
      ∀ last, rely reached last → post (.error failure) last) :
    Safe granted rely guarantee post (atomically perform >>= next) state := by
  intro current reached choice given
  have beforeCurrent := stable state current holds reached
  refine ⟨kept current choice beforeCurrent given, ?_⟩
  cases performed : perform choice current with
  | mk outcome after =>
      cases outcome with
      | ok value =>
          have safe :=
            onReturn current choice value after beforeCurrent given performed
          simpa only [Process.bind, performed] using safe
      | error failure =>
          have failed :=
            onFailure current choice failure after beforeCurrent performed
          simpa only [Process.bind, performed, Safe] using failed

end Safe

end Process

namespace Process

variable {σ χ : Type u} {ε α β : Type v}

namespace Safe

variable {granted : Process σ χ ε α → σ → χ → Prop}
  {rely guarantee : σ → σ → Prop} {post : Except ε α → σ → Prop} {state : σ}

/-- The rule for a look. -/
theorem of_look {see : σ → Except ε β} {next : β → Process σ χ ε α}
    {before : σ → Prop} (holds : before state)
    (stable : ∀ first second, before first → rely first second →
      before second)
    (unchanged : ∀ state, guarantee state state)
    (found : ∀ current choice value, before current →
      granted (look see >>= next) current choice →
      see current = .ok value →
      Safe granted rely guarantee post (next value) current)
    (missed : ∀ current failure last, before current →
      see current = .error failure → rely current last →
      post (.error failure) last) :
    Safe granted rely guarantee post (look see >>= next) state := by
  refine of_atomically holds stable
    (fun current _ _ _ => unchanged current) ?_ ?_
  · intro current choice value reached known given performed
    obtain ⟨seen, rfl⟩ := Prod.mk.inj performed
    exact found current choice value known given seen
  · intro current choice failure reached known performed last relied
    obtain ⟨seen, rfl⟩ := Prod.mk.inj performed
    exact missed current failure last known seen relied

section Framed

variable
  (transitive : ∀ first second third,
    rely first second → rely second third → rely first third)

include transitive

/-- The rule for a look at what the others leave alone. -/
theorem of_look_framed {see : σ → Except ε β} {next : β → Process σ χ ε α}
    (same : ∀ later, rely state later → see later = see state)
    (unchanged : ∀ state, guarantee state state)
    (found : ∀ value, see state = .ok value →
      Safe granted rely guarantee post (next value) state)
    (missed : ∀ failure, see state = .error failure →
      ∀ later, rely state later → post (.error failure) later) :
    Safe granted rely guarantee post (look see >>= next) state := by
  intro current reached choice _
  refine ⟨unchanged current, ?_⟩
  have seen := same current reached
  cases looked : see state with
  | ok value =>
      have safe := (found value looked).later transitive reached
      rw [looked] at seen
      simpa only [Process.bind, Procedure.reading, seen] using safe
  | error failure =>
      rw [looked] at seen
      simp only [Process.bind, Procedure.reading, seen]
      intro last after
      exact missed failure looked last (transitive _ _ _ reached after)

/-- The rule for a value from outside. -/
theorem of_ask {answer : χ → Except ε β} {next : β → Process σ χ ε α}
    (unchanged : ∀ state, guarantee state state)
    (answered : ∀ choice value, answer choice = .ok value →
      Safe granted rely guarantee post (next value) state)
    (refused : ∀ choice failure, answer choice = .error failure →
      ∀ later, rely state later → post (.error failure) later) :
    Safe granted rely guarantee post (ask answer >>= next) state := by
  intro current reached choice _
  refine ⟨unchanged current, ?_⟩
  cases given : answer choice with
  | ok value =>
      have safe := (answered choice value given).later transitive reached
      simpa only [Process.bind, given] using safe
  | error failure =>
      simp only [Process.bind, given]
      intro last after
      exact refused choice failure given last
        (transitive _ _ _ reached after)

omit transitive in
/-- The rule for a requirement. -/
theorem of_require {condition : Prop} [Decidable condition] {failure : ε}
    {next : PUnit → Process σ χ ε α}
    (met : condition → Safe granted rely guarantee post (next ⟨⟩) state)
    (unmet : ¬ condition →
      ∀ later, rely state later → post (.error failure) later) :
    Safe granted rely guarantee post (require condition failure >>= next) state := by
  unfold require
  by_cases holds : condition
  · rw [if_pos holds]
    exact met holds
  · rw [if_neg holds]
    exact unmet holds

/-- The rule for a write that the others leave alone. -/
theorem of_write_framed {change : σ → Except ε σ}
    {next : PUnit → Process σ χ ε α}
    (unchanged : ∀ state, guarantee state state)
    (performed : ∀ changed, change state = .ok changed →
      Safe granted rely guarantee post (next ⟨⟩) changed ∧
        ∀ later, rely state later → ∃ after, change later = .ok after ∧
          guarantee later after ∧ rely changed after)
    (refused : ∀ failure, change state = .error failure →
      ∀ later, rely state later →
        change later = .error failure ∧ post (.error failure) later) :
    Safe granted rely guarantee post
      (atomically (fun _ => Procedure.writing change) >>= next) state := by
  intro current reached choice _
  change guarantee current (Procedure.writing change current).2 ∧
    Safe granted rely guarantee post
      (Process.bind next (.done (Procedure.writing change current).1))
      (Procedure.writing change current).2
  cases outcome : change state with
  | ok changed =>
      obtain ⟨safe, each⟩ := performed changed outcome
      obtain ⟨after, done, guaranteed, same⟩ := each current reached
      rw [Procedure.writing, done]
      exact ⟨guaranteed, safe.later transitive same⟩
  | error failure =>
      have same := (refused failure outcome current reached).1
      rw [Procedure.writing, same]
      refine ⟨unchanged current, fun last after => ?_⟩
      exact (refused failure outcome last
        (transitive _ _ _ reached after)).2

end Framed

end Safe

/-- What is safe among more disturbances is safe among fewer. -/
theorem Safe.of_rely {granted : Process σ χ ε α → σ → χ → Prop}
    {rely fewer guarantee : σ → σ → Prop} {post : Except ε α → σ → Prop}
    {process : Process σ χ ε α} {state : σ}
    (safe : Safe granted rely guarantee post process state)
    (implies : ∀ first second, fewer first second → rely first second) :
    Safe granted fewer guarantee post process state := by
  induction process generalizing state with
  | done outcome =>
      intro last reached
      exact safe last (implies _ _ reached)
  | atomic change next ih =>
      intro last reached choice given
      have step := safe last (implies _ _ reached) choice given
      exact ⟨step.1, ih choice last step.2⟩

/-- What the actions of a process that is safe on its own add up to. -/
theorem Returns.guaranteed {process : Process σ χ ε α} {state reached : σ}
    {outcome : Except ε α} {guarantee relation : σ → σ → Prop}
    {post : Except ε α → σ → Prop}
    (reflexive : ∀ state, relation state state)
    (transitive : ∀ first second third, relation first second →
      relation second third → relation first third)
    (implies : ∀ first second, guarantee first second →
      relation first second)
    (returns : Returns process state outcome reached)
    (safe : Safe always Eq guarantee post process state) :
    relation state reached := by
  induction returns with
  | done => exact reflexive _
  | @atomic _ _ choice _ _ _ _ ih =>
      have step := safe _ rfl choice trivial
      exact transitive _ _ _ (implies _ _ step.1)
        (ih step.2)

/-- What a process that is safe on its own ends with. -/
theorem Returns.post {process : Process σ χ ε α} {state reached : σ}
    {outcome : Except ε α} {guarantee : σ → σ → Prop}
    {post : Except ε α → σ → Prop}
    (returns : Returns process state outcome reached)
    (safe : Safe always Eq guarantee post process state) : post outcome reached := by
  induction returns with
  | done => exact safe _ rfl
  | atomic _ ih =>
      exact ih (safe _ rfl _ trivial).2

end Process

/-! ## Pools -/

namespace Interleaving

open Transitions Process

variable {σ χ : Type u} {ε α : Type v} {κ : Type u}

/-- A call and what is left of its process. -/
structure Thread (σ χ : Type u) (ε α : Type v) (κ : Type u) where
  call : κ
  process : Process σ χ ε α

/-- A shared state and numbered threads. -/
structure Pool (σ χ : Type u) (ε α : Type v) (κ : Type u) where
  shared : σ
  threads : Nat → Option (Thread σ χ ε α κ)

/-- No call has begun. -/
def Pool.fresh (shared : σ) : Pool σ χ ε α κ := ⟨shared, fun _ => none⟩

inductive Move (χ κ : Type u) where
  | begin (number : Nat) (call : κ)
  | act (number : Nat) (choice : χ)
  | stop (number : Nat)

def Move.number : Move χ κ → Nat
  | begin number _ => number
  | act number _ => number
  | stop number => number

/-- The process of every call, and what remains when a thread is gone. -/
structure System (σ χ : Type u) (ε α : Type v) (κ : Type u) where
  code : Nat → κ → Process σ χ ε α
  leave : Nat → σ → σ

/-- One move of a pool. -/
inductive Step (system : System σ χ ε α κ) :
    Pool σ χ ε α κ → Move χ κ → Pool σ χ ε α κ → Prop
  | begin {pool : Pool σ χ ε α κ} {number : Nat} {call : κ} :
      pool.threads number = none →
      Step system pool (.begin number call)
        { pool with
          threads := Function.update pool.threads number
            (some ⟨call, system.code number call⟩) }
  | act {pool : Pool σ χ ε α κ} {number : Nat} {choice : χ} {call : κ}
      {change : χ → σ → σ} {next : χ → σ → Process σ χ ε α} :
      pool.threads number = some ⟨call, .atomic change next⟩ →
      Step system pool (.act number choice)
        { shared := change choice pool.shared
          threads := Function.update pool.threads number
            (some ⟨call, next choice pool.shared⟩) }
  | stop {pool : Pool σ χ ε α κ} {number : Nat}
      {thread : Thread σ χ ε α κ} :
      pool.threads number = some thread →
      Step system pool (.stop number)
        { shared := system.leave number pool.shared
          threads := Function.update pool.threads number none }

/-! ## Schedules -/

/-- The pool after a move; a move that is not possible is skipped. -/
def Pool.move (system : System σ χ ε α κ) (pool : Pool σ χ ε α κ) :
    Move χ κ → Pool σ χ ε α κ
  | .begin number call =>
      match pool.threads number with
      | none =>
          { pool with
            threads := Function.update pool.threads number
              (some ⟨call, system.code number call⟩) }
      | some _ => pool
  | .act number choice =>
      match pool.threads number with
      | some ⟨call, .atomic change next⟩ =>
          { shared := change choice pool.shared
            threads := Function.update pool.threads number
              (some ⟨call, next choice pool.shared⟩) }
      | _ => pool
  | .stop number =>
      match pool.threads number with
      | some _ =>
          { shared := system.leave number pool.shared
            threads := Function.update pool.threads number none }
      | none => pool

theorem step_or_eq (system : System σ χ ε α κ) (pool : Pool σ χ ε α κ)
    (move : Move χ κ) :
    Step system pool move (pool.move system move) ∨
      pool.move system move = pool := by
  cases move with
  | begin number call =>
      unfold Pool.move
      dsimp only
      split
      · exact .inl (.begin (by assumption))
      · exact .inr rfl
  | act number choice =>
      unfold Pool.move
      dsimp only
      split
      · exact .inl (.act (by assumption))
      · exact .inr rfl
  | stop number =>
      unfold Pool.move
      dsimp only
      split
      · exact .inl (.stop (by assumption))
      · exact .inr rfl

/-- A schedule that meets a condition move by move is a run. -/
theorem runs_of_schedule {allowed : Pool σ χ ε α κ → Move χ κ → Prop}
    (system : System σ χ ε α κ) (moves : List (Move χ κ))
    (pool : Pool σ χ ε α κ)
    (along : Along allowed (Pool.move system) pool moves) :
    Runs (guarded allowed (Step system)) pool
      (moves.foldl (Pool.move system) pool) := by
  induction moves generalizing pool with
  | nil => exact .refl pool
  | cons move rest ih =>
      have later := ih _ along.2
      rcases step_or_eq system pool move with step | same
      · exact ((Runs.refl pool).guarded_snoc move along.1 step).trans later
      · rw [same] at later
        rw [List.foldl_cons, same]
        exact later

/-- Every schedule is a run. -/
theorem runs_foldl (system : System σ χ ε α κ) (moves : List (Move χ κ))
    (pool : Pool σ χ ε α κ) :
    Runs (Step system) pool (moves.foldl (Pool.move system) pool) := by
  induction moves generalizing pool with
  | nil => exact .refl pool
  | cons move rest ih =>
      have later := ih (pool.move system move)
      rcases step_or_eq system pool move with step | same
      · exact ((Runs.refl pool).snoc step).trans later
      · rw [same] at later
        rw [List.foldl_cons, same]
        exact later

/-- What is asked of the processes of a group of calls. -/
structure Contract (σ χ : Type u) (ε α : Type v) (κ : Type u) where
  valid : σ → Prop
  granted : κ → Process σ χ ε α → σ → χ → Prop
  rely : κ → σ → σ → Prop
  guarantee : κ → σ → σ → Prop
  post : κ → Except ε α → σ → Prop

/-- Every process meets the contract when it begins. -/
structure Contract.Meets (contract : Contract σ χ ε α κ)
    (system : System σ χ ε α κ) : Prop where
  reflexive : ∀ call state, contract.rely call state state
  transitive : ∀ call first second third, contract.rely call first second →
    contract.rely call second third → contract.rely call first third
  begins : ∀ number call state, contract.valid state →
    Safe (contract.granted call) (contract.rely call)
      (contract.guarantee call) (contract.post call)
      (system.code number call) state
  kept : ∀ call first second, contract.valid first →
    contract.guarantee call first second → contract.valid second
  left : ∀ number state, contract.valid state →
    contract.valid (system.leave number state)

/-- A move of one thread is one that every other running thread relies on. -/
def Undisturbed (contract : Contract σ χ ε α κ) (system : System σ χ ε α κ)
    (pool : Pool σ χ ε α κ) (move : Move χ κ) : Prop :=
  ∀ after, Step system pool move after → ∀ number thread,
    number ≠ move.number → pool.threads number = some thread →
    thread.process.running →
    contract.rely thread.call pool.shared after.shared

/-- An action happens where it is granted. -/
def Granted (contract : Contract σ χ ε α κ) (pool : Pool σ χ ε α κ) :
    Move χ κ → Prop
  | .act number choice => ∀ thread, pool.threads number = some thread →
      contract.granted thread.call thread.process pool.shared choice
  | _ => True

/-- The shared state is valid and every running thread is safe. -/
structure AllSafe (contract : Contract σ χ ε α κ) (pool : Pool σ χ ε α κ) :
    Prop where
  valid : contract.valid pool.shared
  safe : ∀ number thread, pool.threads number = some thread →
    thread.process.running →
    Safe (contract.granted thread.call) (contract.rely thread.call)
      (contract.guarantee thread.call) (contract.post thread.call)
      thread.process pool.shared

variable {contract : Contract σ χ ε α κ} {system : System σ χ ε α κ}

theorem allSafe_fresh {shared : σ} (valid : contract.valid shared) :
    AllSafe contract (.fresh shared : Pool σ χ ε α κ) := by
  constructor
  · exact valid
  · intro number thread impossible
    cases impossible

/-- The thread that an action belongs to is safe afterwards. -/
theorem AllSafe.acted {pool : Pool σ χ ε α κ} {number : Nat}
    {call : κ} {change : χ → σ → σ} {next : χ → σ → Process σ χ ε α}
    (allSafe : AllSafe contract pool) (meets : contract.Meets system)
    (known : pool.threads number = some ⟨call, .atomic change next⟩)
    {choice : χ} (granted : Granted contract pool (.act number choice)) :
    contract.guarantee call pool.shared (change choice pool.shared) ∧
      Safe (contract.granted call) (contract.rely call)
        (contract.guarantee call) (contract.post call)
        (next choice pool.shared) (change choice pool.shared) :=
  allSafe.safe number _ known trivial pool.shared
    (meets.reflexive call pool.shared) choice (granted _ known)

theorem AllSafe.step {pool after : Pool σ χ ε α κ} {move : Move χ κ}
    (allSafe : AllSafe contract pool) (meets : contract.Meets system)
    (granted : Granted contract pool move)
    (undisturbed : Undisturbed contract system pool move)
    (step : Step system pool move after) : AllSafe contract after := by
  have relied := undisturbed after step
  cases step with
  | begin fresh =>
      rename_i number call
      refine ⟨allSafe.valid, fun other thread found running => ?_⟩
      by_cases same : other = number
      · rw [same] at found
        cases Option.some.inj
          ((Function.update_self number _ pool.threads).symm.trans found)
        exact meets.begins number call pool.shared allSafe.valid
      · have before : pool.threads other = some thread :=
          (Function.update_of_ne same _ _).symm.trans found
        exact allSafe.safe other thread before running
  | act known =>
      rename_i number choice call change next
      have acted := allSafe.acted meets known granted
      refine ⟨meets.kept call _ _ allSafe.valid acted.1,
        fun other thread found running => ?_⟩
      by_cases same : other = number
      · rw [same] at found
        cases Option.some.inj
          ((Function.update_self number _ pool.threads).symm.trans found)
        exact acted.2
      · have before : pool.threads other = some thread :=
          (Function.update_of_ne same _ _).symm.trans found
        exact (allSafe.safe other thread before running).later
          (meets.transitive thread.call)
          (relied other thread same before running)
  | stop known =>
      rename_i number gone
      refine ⟨meets.left number _ allSafe.valid,
        fun other thread found running => ?_⟩
      by_cases same : other = number
      · rw [same] at found
        cases (Function.update_self number none pool.threads).symm.trans found
      · have before : pool.threads other = some thread :=
          (Function.update_of_ne same _ _).symm.trans found
        exact (allSafe.safe other thread before running).later
          (meets.transitive thread.call)
          (relied other thread same before running)

/-- Where every guarantee is what the others rely on, nobody is disturbed. -/
theorem AllSafe.undisturbed {pool : Pool σ χ ε α κ} {move : Move χ κ}
    (allSafe : AllSafe contract pool) (meets : contract.Meets system)
    (granted : Granted contract pool move)
    (relied : ∀ call other first second, contract.guarantee call first second →
      contract.rely other first second)
    (left : ∀ number call state,
      contract.rely call state (system.leave number state)) :
    Undisturbed contract system pool move := by
  intro after step number thread _ _ _
  cases step with
  | begin fresh => exact meets.reflexive thread.call _
  | act known =>
      exact relied _ _ _ _ (allSafe.acted meets known granted).1
  | stop known => exact left _ _ _

theorem allSafe_of_runs {shared : σ} {pool : Pool σ χ ε α κ}
    {allowed : Pool σ χ ε α κ → Move χ κ → Prop}
    (meets : contract.Meets system) (valid : contract.valid shared)
    (implies : ∀ pool move, AllSafe contract pool → allowed pool move →
      Granted contract pool move ∧ Undisturbed contract system pool move)
    (run : Runs (guarded allowed (Step system)) (.fresh shared) pool) :
    AllSafe contract pool := by
  refine invariant_of_runs (AllSafe contract) ?_ (allSafe_fresh valid) run
  intro source move target allSafe step
  obtain ⟨granted, undisturbed⟩ := implies source move allSafe step.1
  exact allSafe.step meets granted undisturbed step.2

/-- A thread that ends with a move meets its postcondition there. -/
theorem AllSafe.ended {pool after : Pool σ χ ε α κ} {number : Nat}
    {choice : χ} {call : κ} {outcome : Except ε α}
    (allSafe : AllSafe contract pool) (meets : contract.Meets system)
    (granted : Granted contract pool (.act number choice))
    (step : Step system pool (.act number choice) after)
    (ends : after.threads number = some ⟨call, .done outcome⟩) :
    contract.post call outcome after.shared := by
  cases step with
  | act known =>
      rename_i owner change next
      have acted := allSafe.acted meets known granted
      have same := Option.some.inj
        ((Function.update_self number _ pool.threads).symm.trans ends)
      obtain ⟨sameCall, sameProcess⟩ := Thread.mk.inj same
      rw [sameProcess, sameCall] at acted
      exact acted.2 _ (meets.reflexive call _)

/-- Every action of a thread keeps to its guarantee. -/
theorem AllSafe.guaranteed {pool after : Pool σ χ ε α κ} {number : Nat}
    {choice : χ} (allSafe : AllSafe contract pool)
    (meets : contract.Meets system)
    (granted : Granted contract pool (.act number choice))
    (step : Step system pool (.act number choice) after) :
    ∃ thread, pool.threads number = some thread ∧
      contract.guarantee thread.call pool.shared after.shared := by
  cases step with
  | act known =>
      exact ⟨_, known, (allSafe.acted meets known granted).1⟩

/-! ## Schedules of one thread -/

/-- A move touches its own thread only. -/
theorem threads_move {pool : Pool σ χ ε α κ} {move : Move χ κ} {other : Nat}
    (different : other ≠ move.number) :
    (pool.move system move).threads other = pool.threads other := by
  cases move with
  | begin number call =>
      unfold Pool.move
      dsimp only
      split
      · exact Function.update_of_ne different _ _
      · rfl
  | act number choice =>
      unfold Pool.move
      dsimp only
      split
      · exact Function.update_of_ne different _ _
      · rfl
  | stop number =>
      unfold Pool.move
      dsimp only
      split
      · exact Function.update_of_ne different _ _
      · rfl

/-- A thread that is alone disturbs no other. -/
theorem runs_alone (contract : Contract σ χ ε α κ) (number : Nat)
    (moves : List (Move χ κ)) (pool : Pool σ χ ε α κ)
    (own : ∀ move ∈ moves, move.number = number)
    (alone : ∀ other, other ≠ number → pool.threads other = none) :
    Runs (guarded (Undisturbed contract system) (Step system)) pool
      (moves.foldl (Pool.move system) pool) := by
  apply runs_of_schedule
  induction moves generalizing pool with
  | nil => trivial
  | cons move rest ih =>
      have ownFirst := own move List.mem_cons_self
      refine ⟨?_, ih _
        (fun other member => own other (List.mem_cons_of_mem _ member)) ?_⟩
      · intro after _ other thread different found
        rw [alone other (ownFirst ▸ different)] at found
        cases found
      · intro other different
        rw [threads_move (ownFirst ▸ different)]
        exact alone other different

end Interleaving
