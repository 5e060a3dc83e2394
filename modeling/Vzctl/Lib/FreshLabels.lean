import Mathlib.Data.List.Basic
import Mathlib.Data.List.Nodup

/-!
# First matches

The first element of a list with a property, and the part of a list that is
left when every label is used only once.
-/

namespace FreshLabels

variable {α κ : Type}

/-- The element has the property, and none of those before it has. -/
def IsFirst (holds : α → Prop) (items : List α) (item : α) : Prop :=
  ∃ earlier later, items = earlier ++ item :: later ∧ holds item ∧
    ∀ other ∈ earlier, ¬ holds other

theorem IsFirst.mem {holds : α → Prop} {items : List α} {item : α}
    (first : IsFirst holds items item) : item ∈ items := by
  obtain ⟨earlier, later, parts, _⟩ := first
  simp [parts]

theorem isFirst_cons {holds : α → Prop} {head item : α} {rest : List α} :
    IsFirst holds (head :: rest) item ↔
      (item = head ∧ holds head) ∨ (¬ holds head ∧ IsFirst holds rest item) := by
  constructor
  · intro first
    obtain ⟨earlier, later, parts, here, before⟩ := first
    cases earlier with
    | nil =>
        have same := (List.cons.inj parts).1
        exact .inl ⟨same.symm, same ▸ here⟩
    | cons other others =>
        have same := List.cons.inj parts
        refine .inr ⟨same.1 ▸ before other List.mem_cons_self,
          others, later, same.2, here, ?_⟩
        intro inner member
        exact before inner (List.mem_cons_of_mem other member)
  · intro cases
    rcases cases with ⟨same, here⟩ | ⟨absent, first⟩
    · exact ⟨[], rest, by rw [same]; rfl, same ▸ here, by simp⟩
    · obtain ⟨earlier, later, parts, here, before⟩ := first
      refine ⟨head :: earlier, later, by rw [parts]; rfl, here, ?_⟩
      exact List.forall_mem_cons.mpr ⟨absent, before⟩

theorem find?_eq_some_iff_isFirst {test : α → Bool} {items : List α}
    {item : α} :
    items.find? test = some item ↔
      IsFirst (fun other => test other = true) items item := by
  induction items with
  | nil =>
      constructor
      · intro found
        cases found
      · intro first
        cases first.mem
  | cons head rest ih =>
      rw [isFirst_cons, List.find?_cons]
      by_cases here : test head = true
      · have same : some head = some item ↔ item = head := by
          rw [Option.some_inj]
          exact eq_comm
        simp [here, same]
      · simp [here, ih]

variable [DecidableEq κ] (label : α → κ)

/-- The elements whose label is neither taken nor that of an earlier one. -/
def fresh : List κ → List α → List α
  | _, [] => []
  | taken, item :: rest =>
      if label item ∈ taken then fresh taken rest
      else item :: fresh (taken ++ [label item]) rest

variable {label}

theorem mem_fresh {taken : List κ} {items : List α} {item : α} :
    item ∈ fresh label taken items ↔
      label item ∉ taken ∧
        IsFirst (fun other => label other = label item) items item := by
  induction items generalizing taken with
  | nil =>
      constructor
      · intro member
        cases member
      · intro first
        cases first.2.mem
  | cons head rest ih =>
      rw [fresh, isFirst_cons]
      by_cases used : label head ∈ taken
      · rw [if_pos used, ih]
        by_cases same : label head = label item
        · rw [same] at used
          simp [used]
        · have other : item ≠ head := fun equal => same (by rw [equal])
          simp [same, other]
      · rw [if_neg used, List.mem_cons, ih]
        by_cases equal : item = head
        · simp [equal, used]
        · by_cases same : label head = label item
          · simp [equal, same]
          · simp [equal, same, Ne.symm same]

theorem disjoint_fresh (taken : List κ) (items : List α) :
    ∀ item ∈ fresh label taken items, label item ∉ taken := by
  intro item member
  exact (mem_fresh.mp member).1

theorem nodup_fresh (taken : List κ) (items : List α) :
    ((fresh label taken items).map label).Nodup := by
  induction items generalizing taken with
  | nil => exact List.nodup_nil
  | cons head rest ih =>
      rw [fresh]
      by_cases used : label head ∈ taken
      · rw [if_pos used]
        exact ih taken
      · rw [if_neg used, List.map_cons, List.nodup_cons]
        refine ⟨?_, ih _⟩
        intro member
        obtain ⟨item, inside, same⟩ := List.mem_map.mp member
        have absent := disjoint_fresh _ rest item inside
        simp [same] at absent

end FreshLabels
