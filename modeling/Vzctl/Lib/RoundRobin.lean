import Mathlib.Data.List.Chain
import Mathlib.Order.Circular
import Vzctl.Lib.KeyedList

/-!
# Taking turns

The candidates stand in the order of their keys; the first one behind the last
turn is next, or else the first one of all.  Who is a candidate at every turn
has a turn before somebody else has two.
-/

namespace RoundRobin

variable {α κ : Type} [LinearOrder κ]

/-- The first candidate behind the last turn, or the first one. -/
def next (key : α → κ) (last : κ) (candidates : List α) : Option α :=
  (candidates.find? fun candidate => last < key candidate).or
    candidates.head?

/-! ## Going round -/

/-- Going round from `waiting`, one meets `first` before `second`. -/
def Ahead (waiting first second : κ) : Prop :=
  waiting < first ∧ first < second ∨
    first < second ∧ second < waiting ∨
    second < waiting ∧ waiting < first

variable {waiting first second third last : κ}

theorem Ahead.trans (before : Ahead waiting first second)
    (after : Ahead waiting second third) : Ahead waiting first third := by
  let _ : CircularOrder κ := LinearOrder.toCircularOrder κ
  have round : sbtw first second waiting := SBtw.sbtw.cyclic_left before
  have further : sbtw second third waiting := SBtw.sbtw.cyclic_left after
  have both : sbtw first third waiting := round.trans_left further
  exact both.cyclic_right

theorem not_ahead_self : ¬ Ahead waiting first first := by
  let _ : CircularOrder κ := LinearOrder.toCircularOrder κ
  have apart : ¬ sbtw waiting first first := sbtw_irrefl_right
  exact apart

/-- A turn that passes `waiting` over comes before it. -/
def Turns (waiting last turn : κ) : Prop :=
  last ≠ waiting → turn ≠ waiting → Ahead waiting last turn

theorem turns_of_next {key : α → κ} {candidates : List α} {item turn : α}
    (sorted : candidates.Pairwise
      fun left right => key left ≤ key right)
    (member : item ∈ candidates)
    (chosen : next key last candidates = some turn) :
    Turns (key item) last (key turn) := by
  intro notLast passed
  rcases Option.or_eq_some_iff.mp chosen with behind | ⟨none, isHead⟩
  · obtain ⟨isBehind, before, after, rfl, skipped⟩ :=
      List.find?_eq_some_iff_append.mp behind
    have later : last < key turn := of_decide_eq_true isBehind
    rcases lt_or_gt_of_ne notLast with itemLater | itemEarlier
    · have skippedNot : item ∉ before := by
        intro inside
        have notBehind := skipped item inside
        simp [itemLater] at notBehind
      have ordered : key turn ≤ key item := by
        rcases List.mem_append.mp member with inside | rest
        · exact absurd inside skippedNot
        · rcases List.mem_cons.mp rest with rfl | inside
          · exact le_rfl
          · exact (List.pairwise_cons.mp
              (List.pairwise_append.mp sorted).2.1).1 item inside
      exact .inr (.inl ⟨later, lt_of_le_of_ne ordered passed⟩)
    · exact .inl ⟨itemEarlier, later⟩
  · have notBehind := List.find?_eq_none.mp none item member
    have itemEarlier : key item < last := by
      have notLater : ¬ last < key item := by simpa using notBehind
      exact lt_of_le_of_ne (not_lt.mp notLater) (Ne.symm notLast)
    cases candidates with
    | nil => cases member
    | cons head rest =>
        have isTurn : head = turn := Option.some.inj isHead
        subst isTurn
        have ordered : key head ≤ key item := by
          rcases List.mem_cons.mp member with rfl | inside
          · exact le_rfl
          · exact (List.pairwise_cons.mp sorted).1 item inside
        exact .inr (.inr ⟨lt_of_le_of_ne ordered passed, itemEarlier⟩)

/-! ## Sequences of turns -/

theorem ahead_of_turns {between : List κ}
    (turns : (first :: (between ++ [last])).IsChain (Turns waiting))
    (passed : waiting ∉ between) (firstPassed : first ≠ waiting)
    (lastPassed : last ≠ waiting) : Ahead waiting first last := by
  induction between generalizing first with
  | nil =>
      simp only [List.nil_append, List.isChain_cons_cons] at turns
      exact turns.1 firstPassed lastPassed
  | cons turn rest ih =>
      rw [List.cons_append, List.isChain_cons_cons] at turns
      rw [List.mem_cons, not_or] at passed
      have turnPassed : turn ≠ waiting := Ne.symm passed.1
      have one := turns.1 firstPassed turnPassed
      exact one.trans (ih turns.2 passed.2 turnPassed)

theorem mem_between {between : List κ}
    (turns : (first :: (between ++ [first])).IsChain (Turns waiting))
    (other : first ≠ waiting) : waiting ∈ between := by
  by_contra passed
  exact not_ahead_self (ahead_of_turns turns passed other other)

end RoundRobin
