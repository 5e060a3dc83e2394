import Mathlib.Data.List.Nodup

/-!
# Checkpointed lists of steps

A list of steps is executed in order; a run can end at any point and another
run continues from a recorded step.  The trace of all runs is in order when
every execution of a step comes after a completed execution of each earlier
step of the list.
-/

namespace Checkpoint

universe u

variable {α : Type u}

/-- What a run does with one step. -/
inductive Execution (α : Type u) where
  | started (step : α)
  | completed (step : α)
  | failed (step : α)
  deriving DecidableEq

def Execution.step : Execution α → α
  | .started step => step
  | .completed step => step
  | .failed step => step

/-- `earlier` stands before an occurrence of `later`. -/
def Precedes (steps : List α) (earlier later : α) : Prop :=
  ∃ before after, steps = before ++ later :: after ∧ earlier ∈ before

/-- Every execution comes after the completion of each earlier step. -/
def InOrder (steps : List α) (trace : List (Execution α)) : Prop :=
  ∀ before event after, trace = before ++ event :: after →
    ∀ earlier, Precedes steps earlier event.step →
      .completed earlier ∈ before

/-- The steps before `step` are completed. -/
def Reached (steps : List α) (trace : List (Execution α)) (step : α) :
    Prop :=
  ∀ earlier, Precedes steps earlier step → .completed earlier ∈ trace

/-- `remaining` is what is left of the list after completed steps. -/
def Remaining (steps : List α) (trace : List (Execution α))
    (remaining : List α) : Prop :=
  ∃ done, steps = done ++ remaining ∧
    ∀ step ∈ done, .completed step ∈ trace

/-- The loop that skips to the recorded step; without one it skips nothing. -/
def skipTo [DecidableEq α] (recorded : Option α) : Bool → List α → List α
  | _, [] => []
  | true, step :: rest => step :: skipTo recorded true rest
  | false, step :: rest =>
      if recorded = some step then
        step :: skipTo recorded true rest
      else
        skipTo recorded false rest

variable {steps remaining : List α} {trace more : List (Execution α)}

/-! ## Order of the trace -/

theorem inOrder_nil (steps : List α) : InOrder steps [] := by
  intro before event after split
  cases before with
  | nil => cases split
  | cons head tail => cases split

theorem InOrder.snoc {event : Execution α}
    (ordered : InOrder steps trace)
    (reached : Reached steps trace event.step) :
    InOrder steps (trace ++ [event]) := by
  intro before current after split earlier precedes
  rcases List.eq_nil_or_concat after with rfl | ⟨initial, last, rfl⟩
  · obtain ⟨sameTrace, sameEvent⟩ := List.append_inj' split rfl
    cases sameEvent
    exact sameTrace ▸ reached earlier precedes
  · rw [List.concat_eq_append, ← List.cons_append,
      ← List.append_assoc] at split
    obtain ⟨sameTrace, _⟩ := List.append_inj' split rfl
    exact ordered before current initial sameTrace earlier precedes

/-! ## What is left -/

theorem remaining_all (steps : List α) (trace : List (Execution α)) :
    Remaining steps trace steps :=
  ⟨[], rfl, fun _ member => absurd member List.not_mem_nil⟩

theorem Reached.mono {step : α} (reached : Reached steps trace step)
    (subset : trace ⊆ more) : Reached steps more step :=
  fun earlier precedes => subset (reached earlier precedes)

theorem Remaining.mono (left : Remaining steps trace remaining)
    (subset : trace ⊆ more) : Remaining steps more remaining := by
  obtain ⟨done, split, completed⟩ := left
  exact ⟨done, split, fun step member => subset (completed step member)⟩

theorem Remaining.advance {step : α} {rest : List α}
    (left : Remaining steps trace (step :: rest))
    (completed : .completed step ∈ trace) :
    Remaining steps trace rest := by
  obtain ⟨done, split, doneCompleted⟩ := left
  refine ⟨done ++ [step], by simp [split], ?_⟩
  intro other member
  rcases List.mem_append.mp member with doneMember | lastMember
  · exact doneCompleted other doneMember
  · cases List.mem_singleton.mp lastMember
    exact completed

theorem Remaining.reached {step : α} {rest : List α}
    (nodup : steps.Nodup)
    (left : Remaining steps trace (step :: rest)) :
    Reached steps trace step := by
  rintro earlier ⟨before, after, precedesSplit, earlierMember⟩
  obtain ⟨done, split, completed⟩ := left
  have sameSplit : before ++ step :: after = done ++ step :: rest :=
    precedesSplit.symm.trans split
  have afterAbsent : step ∉ after := by
    rw [precedesSplit] at nodup
    exact (List.nodup_cons.mp (List.nodup_append.mp nodup).2.1).1
  have beforeAbsent : step ∉ before := by
    intro member
    rw [precedesSplit] at nodup
    exact (List.nodup_append.mp nodup).2.2 step member step
      List.mem_cons_self rfl
  have samePrefix : before = done :=
    ((List.append_cons_inj_of_notMem beforeAbsent afterAbsent).mp
      sameSplit).1
  exact completed earlier (samePrefix ▸ earlierMember)

theorem Remaining.completed_of_nil
    (left : Remaining steps trace []) {step : α} (member : step ∈ steps) :
    .completed step ∈ trace := by
  obtain ⟨done, split, completed⟩ := left
  rw [List.append_nil] at split
  exact completed step (split ▸ member)

/-! ## Skipping -/

section Skip

variable [DecidableEq α]

theorem skipTo_true (recorded : Option α) (steps : List α) :
    skipTo recorded true steps = steps := by
  induction steps with
  | nil => rfl
  | cons step rest ih =>
      rw [skipTo, ih]

theorem skipTo_eq_append {step : α} {before after : List α}
    (absent : step ∉ before) :
    skipTo (some step) false (before ++ step :: after) = step :: after := by
  induction before with
  | nil => simp [skipTo, skipTo_true]
  | cons head tail ih =>
      rw [List.mem_cons, not_or] at absent
      obtain ⟨different, tailAbsent⟩ := absent
      rw [List.cons_append, skipTo, if_neg (by simpa using different)]
      exact ih tailAbsent

/-- A run that continues from a reached step of the list continues with
nothing but completed steps behind it. -/
theorem remaining_skipTo {step : α} (member : step ∈ steps)
    (reached : Reached steps trace step) :
    Remaining steps trace (skipTo (some step) false steps) := by
  obtain ⟨before, after, rfl, absent⟩ :=
    List.eq_append_cons_of_mem member
  rw [skipTo_eq_append absent]
  exact ⟨before, rfl, fun earlier earlierMember =>
    reached earlier ⟨before, after, rfl, earlierMember⟩⟩

end Skip

end Checkpoint
