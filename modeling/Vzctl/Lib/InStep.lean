import Mathlib.Data.List.Forall2

/-!
# Lists in step

What holds of the members and of the pairs of two lists whose members are
related one by one.
-/

namespace InStep

universe u v

variable {α : Type u} {β : Type v} {related : α → β → Prop}
  {lefts : List α} {rights : List β}

theorem exists_of_forall₂
    (inStep : List.Forall₂ related lefts rights) :
    (∀ left ∈ lefts, ∃ right ∈ rights, related left right) ∧
      ∀ right ∈ rights, ∃ left ∈ lefts, related left right := by
  induction inStep with
  | nil => simp
  | cons here _ ih =>
      constructor
      · intro left member
        rcases List.mem_cons.mp member with same | behind
        · exact ⟨_, List.mem_cons_self, same ▸ here⟩
        · obtain ⟨right, inside, holds⟩ := ih.1 left behind
          exact ⟨right, List.mem_cons_of_mem _ inside, holds⟩
      · intro right member
        rcases List.mem_cons.mp member with same | behind
        · exact ⟨_, List.mem_cons_self, same ▸ here⟩
        · obtain ⟨left, inside, holds⟩ := ih.2 right behind
          exact ⟨left, List.mem_cons_of_mem _ inside, holds⟩

theorem pairwise_iff_of_forall₂
    {ofLefts : α → α → Prop} {ofRights : β → β → Prop}
    (agree : ∀ {left right later behind}, related left right →
      related later behind → (ofLefts left later ↔ ofRights right behind))
    (inStep : List.Forall₂ related lefts rights) :
    lefts.Pairwise ofLefts ↔ rights.Pairwise ofRights := by
  induction inStep with
  | nil => simp
  | cons here rest ih =>
      obtain ⟨ofLeft, ofRight⟩ := exists_of_forall₂ rest
      rw [List.pairwise_cons, List.pairwise_cons, ih]
      constructor
      · intro both
        refine ⟨?_, both.2⟩
        intro behind member
        obtain ⟨later, inside, holds⟩ := ofRight behind member
        exact (agree here holds).mp (both.1 later inside)
      · intro both
        refine ⟨?_, both.2⟩
        intro later member
        obtain ⟨behind, inside, holds⟩ := ofLeft later member
        exact (agree here holds).mpr (both.1 behind inside)

end InStep
