import Mathlib.Data.List.Induction
import Mathlib.Data.List.Nodup
import Mathlib.Logic.Relation

/-!
# Dependency graphs

A graph gives every node the list of its dependencies.  An order is valid when
every node stands behind its dependencies, which is possible only without
cycles.
-/

namespace DependencyGraph

open Relation

universe u

variable {α : Type u}

/-- `dependency` is one of the dependencies of `item`. -/
def Edge (next : α → List α) (item dependency : α) : Prop :=
  dependency ∈ next item

/-- Some node depends on itself, directly or through others. -/
def Cyclic (next : α → List α) : Prop :=
  ∃ item, TransGen (Edge next) item item

/-- Every item stands behind its dependencies. -/
def Ordered (next : α → List α) (order : List α) : Prop :=
  ∀ before item after, order = before ++ item :: after →
    ∀ dependency ∈ next item, dependency ∈ before

/-- Every item stands behind the items that depend on it. -/
def StopOrdered (next : α → List α) (order : List α) : Prop :=
  ∀ before item after, order = before ++ item :: after →
    ∀ dependent ∈ order, item ∈ next dependent → dependent ∈ before

variable {next : α → List α} {order : List α}

/-! ## Valid orders -/

theorem ordered_nil : Ordered next [] := by
  intro before item after parts
  simp at parts

theorem Ordered.snoc (ordered : Ordered next order) {item : α}
    (ready : ∀ dependency ∈ next item, dependency ∈ order) :
    Ordered next (order ++ [item]) := by
  intro before other after parts
  cases after using List.reverseRecOn with
  | nil =>
      obtain ⟨same, last⟩ := List.append_inj' parts rfl
      rw [← same, ← List.singleton_inj.mp last]
      exact ready
  | append_singleton initial last _ =>
      rw [← List.cons_append, ← List.append_assoc] at parts
      obtain ⟨same, _⟩ := List.append_inj' parts rfl
      exact ordered before other initial same

section Decidable

variable [DecidableEq α]

theorem Ordered.idxOf_lt (ordered : Ordered next order) {item other : α}
    (member : item ∈ order) (edge : Edge next item other) :
    other ∈ order ∧ order.idxOf other < order.idxOf item := by
  obtain ⟨before, after, parts, first⟩ :=
    List.eq_append_cons_of_mem member
  have earlier := ordered before item after parts other edge
  have position : order.idxOf item = before.length := by
    rw [parts, List.idxOf_append_of_notMem first]
    simp
  rw [position, parts, List.idxOf_append_of_mem earlier]
  exact ⟨List.mem_append_left _ earlier, List.idxOf_lt_length_of_mem earlier⟩

theorem Ordered.idxOf_lt_of_transGen (ordered : Ordered next order)
    {item other : α} (member : item ∈ order)
    (path : TransGen (Edge next) item other) :
    other ∈ order ∧ order.idxOf other < order.idxOf item := by
  induction path with
  | single edge => exact ordered.idxOf_lt member edge
  | tail _ edge ih =>
      obtain ⟨inside, before⟩ := ih
      obtain ⟨nextInside, nextBefore⟩ := ordered.idxOf_lt inside edge
      exact ⟨nextInside, Nat.lt_trans nextBefore before⟩

end Decidable

theorem Ordered.not_cyclic (ordered : Ordered next order)
    (complete : ∀ item, next item ≠ [] → item ∈ order) :
    ¬ Cyclic next := by
  classical
  intro cyclic
  obtain ⟨item, path⟩ := cyclic
  have hasNext : next item ≠ [] := by
    obtain ⟨dependency, edge, _⟩ := TransGen.head'_iff.mp path
    exact List.ne_nil_of_mem edge
  have before := ordered.idxOf_lt_of_transGen (complete item hasNext) path
  exact Nat.lt_irrefl _ before.2

/-- The reverse of a valid order is one in which every item stands behind what
depends on it. -/
theorem Ordered.reverse (ordered : Ordered next order)
    (distinct : order.Nodup) : StopOrdered next order.reverse := by
  classical
  intro before item after parts dependent member depends
  have straight : order = after.reverse ++ item :: before.reverse := by
    rw [← List.reverse_reverse order, parts]
    simp
  rw [List.mem_reverse] at member
  have earlier := (ordered.idxOf_lt member depends).2
  have notAfter : item ∉ after.reverse := by
    intro inside
    rw [straight] at distinct
    exact (List.nodup_append.mp distinct).2.2 item inside item
      List.mem_cons_self rfl
  have position : order.idxOf item = after.reverse.length := by
    rw [straight, List.idxOf_append_of_notMem notAfter]
    simp
  rw [straight] at member
  rcases List.mem_append.mp member with inAfter | inRest
  · have small := List.idxOf_lt_length_of_mem inAfter
    have same : order.idxOf dependent = after.reverse.idxOf dependent := by
      rw [straight, List.idxOf_append_of_mem inAfter]
    omega
  · rcases List.mem_cons.mp inRest with isItem | inBefore
    · rw [isItem] at earlier
      omega
    · exact List.mem_reverse.mp inBefore

/-! ## Cycles through the known nodes -/

theorem transGen_filter {known : α → Bool}
    (isKnown : ∀ item, next item ≠ [] → known item = true)
    {item other : α} (path : TransGen (Edge next) item other)
    (target : known other = true) :
    TransGen (Edge fun node => (next node).filter known) item other := by
  induction path with
  | single edge => exact .single (List.mem_filter.mpr ⟨edge, target⟩)
  | tail _ edge ih =>
      have source := isKnown _ (List.ne_nil_of_mem edge)
      exact .tail (ih source)
        (List.mem_filter.mpr ⟨edge, target⟩)

theorem cyclic_filter_iff {known : α → Bool}
    (isKnown : ∀ item, next item ≠ [] → known item = true) :
    Cyclic (fun node => (next node).filter known) ↔ Cyclic next := by
  constructor
  · intro cyclic
    obtain ⟨item, path⟩ := cyclic
    exact ⟨item, path.lift id
      fun _ _ edge => (List.mem_filter.mp edge).1⟩
  · intro cyclic
    obtain ⟨item, path⟩ := cyclic
    obtain ⟨dependency, edge, _⟩ := TransGen.head'_iff.mp path
    have source := isKnown item (List.ne_nil_of_mem edge)
    exact ⟨item, transGen_filter isKnown path source⟩

/-! ## Paths in progress -/

/-- Every open node leads to the item. -/
def LeadTo (next : α → List α) (openNodes : List α) (item : α) : Prop :=
  ∀ node ∈ openNodes, TransGen (Edge next) node item

theorem LeadTo.cyclic {openNodes : List α} {item : α}
    (lead : LeadTo next openNodes item) (member : item ∈ openNodes) :
    Cyclic next :=
  ⟨item, lead item member⟩

theorem LeadTo.step {openNodes opened : List α} {item dependency : α}
    (lead : LeadTo next openNodes item) (edge : dependency ∈ next item)
    (within : ∀ node ∈ opened, node = item ∨ node ∈ openNodes) :
    LeadTo next opened dependency := by
  intro node member
  rcases within node member with isItem | isOpen
  · rw [isItem]
    exact .single edge
  · exact .tail (lead node isOpen) edge

end DependencyGraph
