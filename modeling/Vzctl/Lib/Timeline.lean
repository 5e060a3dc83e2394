import Mathlib.Logic.Function.Iterate
import Mathlib.Data.List.Basic

/-!
# Timelines

A timeline is a present state between the states that can be gone back to and
those that can be gone forward to, the nearest one first.  A new state is
recorded over the future, and only so many past states are kept.

Going back and going forward undo each other, and going back over what was
recorded leads to where the recording began.
-/

structure Timeline (α : Type) where
  past : List α
  present : α
  future : List α

namespace Timeline

variable {α : Type} {timeline : Timeline α} {limit : Nat}

def record (limit : Nat) (timeline : Timeline α) (next : α) :
    Timeline α where
  past := (timeline.present :: timeline.past).take limit
  present := next
  future := []

def back (timeline : Timeline α) : Timeline α :=
  match timeline.past with
  | [] => timeline
  | previous :: earlier =>
      ⟨earlier, previous, timeline.present :: timeline.future⟩

def forward (timeline : Timeline α) : Timeline α :=
  match timeline.future with
  | [] => timeline
  | next :: later => ⟨timeline.present :: timeline.past, next, later⟩

def recordAll (limit : Nat) (timeline : Timeline α) (states : List α) :
    Timeline α :=
  states.foldl (record limit) timeline

theorem forward_back (reachable : timeline.past ≠ []) :
    timeline.back.forward = timeline := by
  obtain ⟨past, present, future⟩ := timeline
  cases past with
  | nil => exact (reachable rfl).elim
  | cons previous earlier => rfl

theorem back_forward (reachable : timeline.future ≠ []) :
    timeline.forward.back = timeline := by
  obtain ⟨past, present, future⟩ := timeline
  cases future with
  | nil => exact (reachable rfl).elim
  | cons next later => rfl

/-- Back over a record there is the state before it, and forward again the
record. -/
theorem back_record (next : α) (room : 0 < limit) :
    (timeline.record limit next).back =
      ⟨timeline.past.take (limit - 1), timeline.present, [next]⟩ := by
  cases limit with
  | zero => exact (Nat.lt_irrefl 0 room).elim
  | succ limit => rfl

theorem forward_back_record (next : α) (room : 0 < limit) :
    (timeline.record limit next).back.forward =
      timeline.record limit next := by
  refine forward_back ?_
  cases limit with
  | zero => exact (Nat.lt_irrefl 0 room).elim
  | succ limit =>
      rw [record, List.take_succ_cons]
      exact List.cons_ne_nil _ _

theorem length_past_back : timeline.back.past.length =
    timeline.past.length - 1 := by
  obtain ⟨past, present, future⟩ := timeline
  cases past <;> rfl

/-- As many steps forward as back lead nowhere. -/
theorem forward_back_iterate {count : Nat}
    (reachable : count ≤ timeline.past.length) :
    forward^[count] (back^[count] timeline) = timeline := by
  induction count generalizing timeline with
  | zero => rfl
  | succ count ih =>
      have nonempty : timeline.past ≠ [] := by
        intro empty
        rw [empty] at reachable
        exact Nat.not_succ_le_zero count reachable
      have below : count ≤ timeline.back.past.length := by
        rw [length_past_back]
        omega
      rw [Function.iterate_succ_apply' forward,
        Function.iterate_succ_apply back, ih below,
        forward_back nonempty]

/-- Back over everything recorded there is the timeline before, with another
future. -/
theorem back_recordAll {states : List α}
    (fits : timeline.past.length + states.length ≤ limit) :
    (back^[states.length] (timeline.recordAll limit states)).past =
        timeline.past ∧
      (back^[states.length] (timeline.recordAll limit states)).present =
        timeline.present := by
  induction states generalizing timeline with
  | nil => exact ⟨rfl, rfl⟩
  | cons state rest ih =>
      rw [List.length_cons] at fits
      have kept : (timeline.record limit state).past =
          timeline.present :: timeline.past := by
        rw [record, List.take_of_length_le]
        rw [List.length_cons]
        omega
      have fitsRest :
          (timeline.record limit state).past.length + rest.length ≤
            limit := by
        rw [kept, List.length_cons]
        omega
      have before := ih fitsRest
      rw [List.length_cons, Function.iterate_succ_apply', recordAll,
        List.foldl_cons, ← recordAll, back, before.1, kept]
      exact ⟨rfl, rfl⟩

end Timeline
