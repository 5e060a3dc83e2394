import Vzctl.Lib.Procedure

/-!
# Shell scripts that stop at the first failure

Scripts under `set -e`: every command may fail, and then the run ends there.
Which commands fail is the run's `pending` list, one entry for each command in
the order they are issued; commands beyond its end succeed.  A command that
fails has no effect.  `Meets` is the precondition for a postcondition on every
choice of failures, or, for a reliable run, when no command fails of itself.
-/

universe u v

namespace Script

/-- Why a run ends early. -/
inductive Exit where
  | command
  | refused (message : String)
  deriving DecidableEq, Repr

structure Session (σ : Type u) where
  state : σ
  pending : List Bool

end Script

open Script in
abbrev Script (σ : Type u) (α : Type v) := Procedure (Session σ) Exit α

namespace Script

variable {σ : Type u} {α β : Type v}

/-- Issue a command; `none` is a state that it refuses. -/
def command (effect : σ → Option σ) : Script σ PUnit := fun session =>
  if session.pending.headD false then
    (.error .command, ⟨session.state, session.pending.tail⟩)
  else
    match effect session.state with
    | none => (.error .command, ⟨session.state, session.pending.tail⟩)
    | some changed => (.ok ⟨⟩, ⟨changed, session.pending.tail⟩)

/-- A command without an effect on the state, or several in a row. -/
def effectless : Script σ PUnit := command some

/-- A condition of the shell. -/
def test (look : σ → α) : Script σ α :=
  Procedure.reading fun session => .ok (look session.state)

/-- Assign to a variable of the shell. -/
def assign (change : σ → σ) : Script σ PUnit :=
  Procedure.writing fun session =>
    .ok { session with state := change session.state }

/-- `echo message >&2; exit`. -/
def exit (message : String) : Script σ α := Procedure.fail (.refused message)

/-- `condition || { echo message >&2; exit; }`. -/
def check (condition : Prop) [Decidable condition] (message : String) :
    Script σ PUnit :=
  if condition then pure ⟨⟩ else exit message

/-- `if condition; then …; fi`. -/
def onlyIf (condition : Prop) [Decidable condition]
    (script : Script σ PUnit) : Script σ PUnit :=
  if condition then script else pure ⟨⟩

/-- The end of a run: what it returned, and the state. -/
def run (script : Script σ α) (state : σ) (pending : List Bool) :
    Except Exit α × σ :=
  ((script ⟨state, pending⟩).1, (script ⟨state, pending⟩).2.state)

/-- No command fails of itself. -/
def Quiet (pending : List Bool) : Prop := ∀ fails ∈ pending, fails = false

theorem Quiet.headD {pending : List Bool} (quiet : Quiet pending) :
    pending.headD false = false := by
  cases pending with
  | nil => rfl
  | cons first rest => exact quiet first List.mem_cons_self

theorem Quiet.tail {pending : List Bool} (quiet : Quiet pending) :
    Quiet pending.tail :=
  fun fails member => quiet fails (List.mem_of_mem_tail member)

/-- However the commands fail, the run returns into `returns` or stops in
`fails`. -/
def Meets (reliable : Prop) (script : Script σ α)
    (returns : α → σ → Prop) (fails : σ → Prop) (state : σ) : Prop :=
  ∀ pending, (reliable → Quiet pending) →
    script.Ends
      (fun value session =>
        returns value session.state ∧ (reliable → Quiet session.pending))
      (fun _ session =>
        fails session.state ∧ (reliable → Quiet session.pending))
      ⟨state, pending⟩

namespace Meets

variable {reliable : Prop} {returns : α → σ → Prop} {fails : σ → Prop}
  {state : σ}

theorem of_pure {value : α} (holds : returns value state) :
    Meets reliable (pure value : Script σ α) returns fails state :=
  fun _ quiet => ⟨holds, quiet⟩

theorem of_exit {message : String} (holds : fails state) :
    Meets reliable (exit message : Script σ α) returns fails state :=
  fun _ quiet => ⟨holds, quiet⟩

theorem of_bind {first : Script σ β} {next : β → Script σ α}
    (holds : Meets reliable first
      (fun value reached => Meets reliable (next value) returns fails reached)
      fails state) :
    Meets reliable (first >>= next) returns fails state := by
  intro pending quiet
  apply Procedure.Ends.of_bind
  refine (holds pending quiet).mono ?_ ?_
  · intro value reached met
    exact met.1 reached.pending met.2
  · intro _ reached failed
    exact failed

theorem of_check {condition : Prop} [Decidable condition] {message : String}
    {returns : PUnit → σ → Prop} (met : condition → returns ⟨⟩ state)
    (unmet : ¬ condition → fails state) :
    Meets reliable (check condition message) returns fails state := by
  unfold check
  by_cases holds : condition
  · rw [if_pos holds]
    exact of_pure (met holds)
  · rw [if_neg holds]
    exact of_exit (unmet holds)

theorem of_onlyIf {condition : Prop} [Decidable condition]
    {script : Script σ PUnit} {returns : PUnit → σ → Prop}
    (taken : condition → Meets reliable script returns fails state)
    (skipped : ¬ condition → returns ⟨⟩ state) :
    Meets reliable (onlyIf condition script) returns fails state := by
  unfold onlyIf
  by_cases holds : condition
  · rw [if_pos holds]
    exact taken holds
  · rw [if_neg holds]
    exact of_pure (skipped holds)

theorem of_command {effect : σ → Option σ} {returns : PUnit → σ → Prop}
    (fallen : ¬ reliable → fails state)
    (refused : effect state = none → fails state)
    (performed : ∀ changed, effect state = some changed →
      returns ⟨⟩ changed) :
    Meets reliable (command effect) returns fails state := by
  intro pending quiet
  unfold Procedure.Ends command
  by_cases failing : pending.headD false = true
  · have unreliable : ¬ reliable := by
      intro isReliable
      rw [(quiet isReliable).headD] at failing
      cases failing
    rw [if_pos failing]
    exact ⟨fallen unreliable, fun isReliable => (quiet isReliable).tail⟩
  · rw [if_neg failing]
    cases outcome : effect state with
    | none =>
        exact ⟨refused outcome, fun isReliable => (quiet isReliable).tail⟩
    | some changed =>
        exact ⟨performed changed outcome, fun isReliable =>
          (quiet isReliable).tail⟩

theorem of_effectless {returns : PUnit → σ → Prop}
    (fallen : ¬ reliable → fails state) (holds : returns ⟨⟩ state) :
    Meets reliable effectless returns fails state := by
  refine of_command fallen ?_ ?_
  · intro impossible
    cases impossible
  · intro changed same
    cases same
    exact holds

theorem of_test {look : σ → α} (holds : returns (look state) state) :
    Meets reliable (test look) returns fails state :=
  fun _ quiet => ⟨holds, quiet⟩

theorem of_assign {change : σ → σ} {returns : PUnit → σ → Prop}
    (holds : returns ⟨⟩ (change state)) :
    Meets reliable (assign change) returns fails state :=
  fun _ quiet => ⟨holds, quiet⟩

theorem mono {script : Script σ α} {weakerReturns : α → σ → Prop}
    {weakerFails : σ → Prop}
    (holds : Meets reliable script returns fails state)
    (onReturn : ∀ value reached, returns value reached →
      weakerReturns value reached)
    (onFailure : ∀ reached, fails reached → weakerFails reached) :
    Meets reliable script weakerReturns weakerFails state := by
  intro pending quiet
  refine (holds pending quiet).mono ?_ ?_
  · intro value reached met
    exact ⟨onReturn value reached.state met.1, met.2⟩
  · intro _ reached failed
    exact ⟨onFailure reached.state failed.1, failed.2⟩

/-- The rule for a sequence with a named condition in the middle. -/
theorem andThen {first : Script σ β} {next : β → Script σ α}
    (middle : β → σ → Prop)
    (firstMeets : Meets reliable first middle fails state)
    (nextMeets : ∀ value reached, middle value reached →
      Meets reliable (next value) returns fails reached) :
    Meets reliable (first >>= next) returns fails state :=
  of_bind (firstMeets.mono nextMeets fun _ failed => failed)

/-- The rule for a part whose failure does not end the run. -/
theorem of_attempt {script : Script σ PUnit} {returns : PUnit → σ → Prop}
    (holds : Meets reliable script returns (returns ⟨⟩) state) :
    Meets reliable script.attempt returns fails state := by
  intro pending quiet
  exact Procedure.Ends.of_attempt (holds pending quiet)

/-- The rule for a part whose failure is reported. -/
theorem of_orElse {script : Script σ α} {handler : Script σ α}
    (holds : Meets reliable script returns
      (fun reached => Meets reliable handler returns fails reached) state) :
    Meets reliable (script.orElse fun _ => handler) returns fails state := by
  intro pending quiet
  apply Procedure.Ends.of_orElse
  refine (holds pending quiet).mono ?_ ?_
  · intro value reached met
    exact met
  · intro _ reached failed
    exact failed.1 reached.pending failed.2

/-- The loop rule, with an invariant on the items that remain. -/
theorem of_forEach {items : List β} {body : β → Script σ PUnit}
    (invariant : List β → σ → Prop)
    (round : ∀ item rest reached, invariant (item :: rest) reached →
      Meets reliable (body item) (fun _ => invariant rest) fails reached)
    (initial : invariant items state) :
    Meets reliable (Procedure.forEach items body)
      (fun _ => invariant []) fails state := by
  induction items generalizing state with
  | nil => exact of_pure initial
  | cons item rest ih =>
      apply of_bind
      refine (round item rest state initial).mono ?_ ?_
      · intro _ reached kept
        exact ih kept
      · intro _ failed
        exact failed

/-- What is known of a run that returned. -/
theorem of_returned {script : Script σ α} {pending : List Bool} {value : α}
    {reached : σ} (meets : Meets reliable script returns fails state)
    (quiet : reliable → Quiet pending)
    (performed : script.run state pending = (.ok value, reached)) :
    returns value reached := by
  have ends := meets pending quiet
  unfold run at performed
  cases outcome : script ⟨state, pending⟩ with
  | mk result session =>
      rw [outcome] at performed
      cases performed
      exact (ends.of_returned outcome).1

/-- What is known of a run that failed. -/
theorem of_failed {script : Script σ α} {pending : List Bool} {stop : Exit}
    {reached : σ} (meets : Meets reliable script returns fails state)
    (quiet : reliable → Quiet pending)
    (performed : script.run state pending = (.error stop, reached)) :
    fails reached := by
  have ends := meets pending quiet
  unfold run at performed
  cases outcome : script ⟨state, pending⟩ with
  | mk result session =>
      rw [outcome] at performed
      cases performed
      exact (ends.of_failed outcome).1

/-- A condition that holds however the run ends. -/
theorem of_ended {script : Script σ α} {pending : List Bool}
    {holdsIn : σ → Prop}
    (meets : Meets reliable script (fun _ => holdsIn) holdsIn state)
    (quiet : reliable → Quiet pending) :
    holdsIn (script.run state pending).2 := by
  have ends := meets pending quiet
  have always : script.Ends (fun _ session => holdsIn session.state)
      (fun _ session => holdsIn session.state) ⟨state, pending⟩ :=
    ends.mono (fun _ _ met => met.1) fun _ _ failed => failed.1
  exact always.reached

end Meets

end Script
