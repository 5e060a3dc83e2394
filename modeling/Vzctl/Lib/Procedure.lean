/-!
# Procedures that can fail half-way

A procedure runs on a state and returns a result or an error.  What it wrote
before an error stays written: there is no implicit rollback.  `Ends` is the
weakest precondition for a postcondition on each of the two ways to end, and
has one rule for each way to build a procedure.
-/

universe u v w

/-- A computation on a state that keeps its writes when it fails. -/
def Procedure (σ : Type u) (ε : Type v) (α : Type w) :=
  σ → Except ε α × σ

namespace Procedure

variable {σ : Type u} {ε : Type v} {α β : Type w}

protected def pure (value : α) : Procedure σ ε α :=
  fun state => (.ok value, state)

protected def bind (first : Procedure σ ε α)
    (next : α → Procedure σ ε β) : Procedure σ ε β :=
  fun state =>
    match first state with
    | (.ok value, reached) => next value reached
    | (.error failure, reached) => (.error failure, reached)

instance : Monad (Procedure σ ε) where
  pure := Procedure.pure
  bind := Procedure.bind

/-- Fail at once. -/
def fail (failure : ε) : Procedure σ ε α :=
  fun state => (.error failure, state)

/-- Look at the state without changing it. -/
def reading (look : σ → Except ε α) : Procedure σ ε α :=
  fun state => (look state, state)

/-- Fail unless a condition holds. -/
def require (condition : Prop) [Decidable condition] (failure : ε) :
    Procedure σ ε PUnit :=
  if condition then Procedure.pure ⟨⟩ else fail failure

/-- Replace the state, or fail and leave it. -/
def writing (change : σ → Except ε σ) : Procedure σ ε PUnit :=
  fun state =>
    match change state with
    | .ok changed => (.ok ⟨⟩, changed)
    | .error failure => (.error failure, state)

/-- Run on, with what a failed procedure has written so far. -/
def orElse (first : Procedure σ ε α)
    (handler : ε → Procedure σ ε α) : Procedure σ ε α :=
  fun state =>
    match first state with
    | (.ok value, reached) => (.ok value, reached)
    | (.error failure, reached) => handler failure reached

/-- Run and drop the error. -/
def attempt (first : Procedure σ ε PUnit) : Procedure σ ε PUnit :=
  first.orElse fun _ => Procedure.pure ⟨⟩

/-- Run a body for every element, stopping at the first error. -/
def forEach (items : List β) (body : β → Procedure σ ε PUnit) :
    Procedure σ ε PUnit :=
  match items with
  | [] => Procedure.pure ⟨⟩
  | item :: rest => (body item).bind fun _ => forEach rest body

theorem forEach_congr {items : List β}
    {body other : β → Procedure σ ε PUnit}
    (same : ∀ item ∈ items, body item = other item) :
    forEach items body = forEach items other := by
  induction items with
  | nil => rfl
  | cons item rest ih =>
      have both := List.forall_mem_cons.mp same
      rw [forEach, forEach, both.1, ih both.2]

/-! ## Running -/

section Running

variable (state : σ)

theorem bind_run (first : Procedure σ ε α)
    (next : α → Procedure σ ε β) :
    (first >>= next) state =
      match first state with
      | (.ok value, reached) => next value reached
      | (.error failure, reached) => (.error failure, reached) := rfl

@[simp]
theorem reading_run (look : σ → Except ε α) :
    (reading look : Procedure σ ε α) state = (look state, state) := rfl

/-- A sequence returns only if both parts return. -/
theorem exists_of_bind_run {state reached : σ} {value : β}
    {first : Procedure σ ε α} {next : α → Procedure σ ε β}
    (performed : (first >>= next) state = (.ok value, reached)) :
    ∃ middle between, first state = (.ok middle, between) ∧
      next middle between = (.ok value, reached) := by
  rw [bind_run] at performed
  cases ran : first state with
  | mk outcome between =>
      rw [ran] at performed
      cases outcome with
      | error failure => cases performed
      | ok middle => exact ⟨middle, between, rfl, performed⟩

/-- What follows a part that returns. -/
theorem bind_run_of_ok {state between : σ} {middle : α}
    {first : Procedure σ ε α} (ran : first state = (.ok middle, between))
    (next : α → Procedure σ ε β) :
    (first >>= next) state = next middle between := by
  rw [bind_run, ran]

/-- A met requirement is passed. -/
theorem require_bind_run {condition : Prop} [Decidable condition]
    (holds : condition) (failure : ε) (next : PUnit → Procedure σ ε β) :
    (require condition failure >>= next) state = next ⟨⟩ state := by
  rw [require, if_pos holds]
  rfl

/-- An unmet requirement ends the sequence. -/
theorem require_bind_run_of_not {condition : Prop} [Decidable condition]
    (fails : ¬ condition) (failure : ε) (next : PUnit → Procedure σ ε β) :
    (require condition failure >>= next) state = (.error failure, state) := by
  rw [require, if_neg fails]
  rfl

/-- A successful write continues in the changed state. -/
theorem writing_bind_run {change : σ → Except ε σ} {changed : σ}
    (done : change state = .ok changed) (next : PUnit → Procedure σ ε β) :
    (writing change >>= next) state = next ⟨⟩ changed := by
  rw [bind_run, writing, done]

end Running

/-! ## Weakest preconditions -/

/-- From this state the procedure ends well: it returns into `returns` or
fails into `fails`. -/
def Ends (procedure : Procedure σ ε α) (returns : α → σ → Prop)
    (fails : ε → σ → Prop) (state : σ) : Prop :=
  match procedure state with
  | (.ok value, reached) => returns value reached
  | (.error failure, reached) => fails failure reached

namespace Ends

variable {returns : α → σ → Prop} {fails : ε → σ → Prop} {state : σ}

theorem of_pure {value : α} (holds : returns value state) :
    Ends (pure value : Procedure σ ε α) returns fails state := holds

theorem of_fail {failure : ε} (holds : fails failure state) :
    Ends (fail failure : Procedure σ ε α) returns fails state := holds

theorem of_bind {first : Procedure σ ε β}
    {next : β → Procedure σ ε α}
    (holds : Ends first
      (fun value reached => Ends (next value) returns fails reached)
      fails state) :
    Ends (first >>= next) returns fails state := by
  unfold Ends at holds ⊢
  rw [bind_run]
  split at holds
  · exact holds
  · exact holds

theorem of_reading {look : σ → Except ε α}
    (found : ∀ value, look state = .ok value → returns value state)
    (missed : ∀ failure, look state = .error failure → fails failure state) :
    Ends (reading look) returns fails state := by
  unfold Ends
  rw [reading_run]
  cases looked : look state with
  | ok value => exact found value looked
  | error failure => exact missed failure looked

/-- The rule for a look whose failure is already accounted for. -/
theorem of_reading_bind {look : σ → Except ε β}
    {next : β → Procedure σ ε α}
    (missed : ∀ failure, fails failure state)
    (found : ∀ value, look state = .ok value →
      Ends (next value) returns fails state) :
    Ends (reading look >>= next) returns fails state :=
  of_bind (of_reading found fun failure _ => missed failure)

theorem of_require {condition : Prop} [Decidable condition] {failure : ε}
    {returns : PUnit → σ → Prop}
    (met : condition → returns ⟨⟩ state)
    (unmet : ¬ condition → fails failure state) :
    Ends (require condition failure) returns fails state := by
  unfold require
  split
  · rename_i holds
    exact met holds
  · rename_i holds
    exact unmet holds

theorem of_require_bind {condition : Prop} [Decidable condition]
    {failure : ε} {next : PUnit → Procedure σ ε α}
    (missed : fails failure state)
    (met : condition → Ends (next ⟨⟩) returns fails state) :
    Ends (require condition failure >>= next) returns fails state :=
  of_bind (of_require met fun _ => missed)

theorem of_writing {change : σ → Except ε σ} {returns : PUnit → σ → Prop}
    (done : ∀ changed, change state = .ok changed → returns ⟨⟩ changed)
    (refused : ∀ failure, change state = .error failure →
      fails failure state) :
    Ends (writing change) returns fails state := by
  unfold Ends writing
  cases performed : change state with
  | ok changed => exact done changed performed
  | error failure => exact refused failure performed

/-- The rule for a write that cannot fail. -/
theorem bind_writing_ok {change : σ → σ}
    {next : PUnit → Procedure σ ε α}
    (holds : Ends (next ⟨⟩) returns fails (change state)) :
    Ends (writing (fun current => .ok (change current)) >>= next) returns
      fails state :=
  of_bind holds

theorem of_orElse {first : Procedure σ ε α}
    {handler : ε → Procedure σ ε α}
    (holds : Ends first returns
      (fun failure reached => Ends (handler failure) returns fails reached)
      state) :
    Ends (first.orElse handler) returns fails state := by
  unfold Ends orElse at *
  split at holds
  · exact holds
  · exact holds

theorem of_attempt {first : Procedure σ ε PUnit}
    {returns : PUnit → σ → Prop}
    (holds : Ends first returns (fun _ reached => returns ⟨⟩ reached) state) :
    Ends first.attempt returns fails state :=
  of_orElse holds

/-- The loop rule: an invariant that every round keeps, also when it fails. -/
theorem of_forEach {items : List β} {body : β → Procedure σ ε PUnit}
    (invariant : σ → Prop)
    (round : ∀ item ∈ items, ∀ reached, invariant reached →
      Ends (body item) (fun _ => invariant) (fun _ => invariant) reached)
    (initial : invariant state) :
    Ends (forEach items body) (fun _ => invariant) (fun _ => invariant)
      state := by
  induction items generalizing state with
  | nil => exact initial
  | cons item rest ih =>
      apply of_bind
      have first := round item List.mem_cons_self state initial
      unfold Ends at first ⊢
      split at first
      · exact ih
          (fun other member => round other (List.mem_cons_of_mem item member))
          first
      · exact first

theorem mono {procedure : Procedure σ ε α}
    {weakerReturns : α → σ → Prop} {weakerFails : ε → σ → Prop}
    (holds : Ends procedure returns fails state)
    (onReturn : ∀ value reached, returns value reached →
      weakerReturns value reached)
    (onFailure : ∀ failure reached, fails failure reached →
      weakerFails failure reached) :
    Ends procedure weakerReturns weakerFails state := by
  unfold Ends at *
  split at holds
  · exact onReturn _ _ holds
  · exact onFailure _ _ holds

/-- The rule for a sequence with a named condition in the middle. -/
theorem andThen {first : Procedure σ ε β} {next : β → Procedure σ ε α}
    (middle : β → σ → Prop)
    (firstEnds : Ends first middle fails state)
    (nextEnds : ∀ value reached, middle value reached →
      Ends (next value) returns fails reached) :
    Ends (first >>= next) returns fails state :=
  of_bind (firstEnds.mono nextEnds fun _ _ failed => failed)

/-- The definition, by the way the procedure ends. -/
theorem of_run {procedure : Procedure σ ε α}
    (onReturn : ∀ value reached, procedure state = (.ok value, reached) →
      returns value reached)
    (onFailure : ∀ failure reached,
      procedure state = (.error failure, reached) → fails failure reached) :
    Ends procedure returns fails state := by
  unfold Ends
  split
  · rename_i performed
    exact onReturn _ _ performed
  · rename_i performed
    exact onFailure _ _ performed

theorem of_returned {procedure : Procedure σ ε α} {value : α} {reached : σ}
    (ends : Ends procedure returns fails state)
    (performed : procedure state = (.ok value, reached)) :
    returns value reached := by
  unfold Ends at ends
  rw [performed] at ends
  exact ends

theorem of_failed {procedure : Procedure σ ε α} {failure : ε} {reached : σ}
    (ends : Ends procedure returns fails state)
    (performed : procedure state = (.error failure, reached)) :
    fails failure reached := by
  unfold Ends at ends
  rw [performed] at ends
  exact ends

/-- A postcondition that does not ask how the procedure ended. -/
theorem reached {procedure : Procedure σ ε α} {holdsIn : σ → Prop}
    (ends : Ends procedure (fun _ => holdsIn) (fun _ => holdsIn) state) :
    holdsIn (procedure state).2 := by
  unfold Ends at ends
  split at ends
  · rename_i performed
    rw [performed]
    exact ends
  · rename_i performed
    rw [performed]
    exact ends

end Ends

/-! ## What a procedure keeps -/

/-- A condition that the procedure keeps, however it ends. -/
def Keeps (holdsIn : σ → Prop) (procedure : Procedure σ ε α) : Prop :=
  ∀ state, holdsIn state →
    Ends procedure (fun _ => holdsIn) (fun _ => holdsIn) state

section Keeps

variable {holdsIn : σ → Prop}

theorem Keeps.bind {first : Procedure σ ε α} {next : α → Procedure σ ε β}
    (keeps : Keeps holdsIn first) (follows : ∀ value, Keeps holdsIn (next value)) :
    Keeps holdsIn (first >>= next) := fun state holds =>
  (keeps state holds).andThen (fun _ => holdsIn) follows

theorem Keeps.orElse {first : Procedure σ ε α}
    {handler : ε → Procedure σ ε α} (keeps : Keeps holdsIn first)
    (handles : ∀ failure, Keeps holdsIn (handler failure)) :
    Keeps holdsIn (first.orElse handler) := fun state holds =>
  Ends.of_orElse ((keeps state holds).mono (fun _ _ kept => kept) handles)

theorem keeps_require (condition : Prop) [Decidable condition]
    (failure : ε) : Keeps holdsIn (require condition failure) :=
  fun _ holds => Ends.of_require (fun _ => holds) fun _ => holds

theorem keeps_reading (look : σ → Except ε α) :
    Keeps holdsIn (reading look) :=
  fun _ holds => Ends.of_reading (fun _ _ => holds) fun _ _ => holds

theorem keeps_writing {change : σ → σ}
    (kept : ∀ state, holdsIn state → holdsIn (change state)) :
    Keeps holdsIn
      (writing fun state => .ok (change state) : Procedure σ ε PUnit) :=
  fun state holds => kept state holds

end Keeps

end Procedure
