import Mathlib.Data.List.Nodup

/-!
# Carrying items over

A new list of items takes over those of an older list whose key it does not
have, each changed in a way that keeps its key.
-/

namespace CarryOver

variable {α κ : Type} [DecidableEq κ] {key : α → κ} {change : α → α}
  {fresh old : List α}

/-- Push one item unless its key is there. -/
def push (key : α → κ) (change : α → α) (items : List α) (item : α) :
    List α :=
  if items.any fun other => key other = key item then items
  else items ++ [change item]

def carryOver (key : α → κ) (change : α → α) (fresh old : List α) : List α :=
  old.foldl (push key change) fresh

theorem push_of_mem {item : α} (member : key item ∈ fresh.map key) :
    push key change fresh item = fresh := by
  have found : (fresh.any fun other => key other = key item) = true := by
    simpa using member
  rw [push, if_pos found]

theorem push_of_not_mem {item : α} (absent : key item ∉ fresh.map key) :
    push key change fresh item = fresh ++ [change item] := by
  have missed :
      ¬ (fresh.any fun other => key other = key item) = true := by
    simpa using absent
  rw [push, if_neg missed]

section SameKey

variable (sameKey : ∀ item, key (change item) = key item)

include sameKey

theorem mem_keys_push {item : α} {name : κ} :
    name ∈ (push key change fresh item).map key ↔
      name ∈ fresh.map key ∨ name = key item := by
  by_cases member : key item ∈ fresh.map key
  · rw [push_of_mem member]
    constructor
    · exact .inl
    · rintro (there | rfl)
      · exact there
      · exact member
  · rw [push_of_not_mem member]
    simp [sameKey]

theorem mem_keys_carryOver {name : κ} :
    name ∈ (carryOver key change fresh old).map key ↔
      name ∈ fresh.map key ∨ name ∈ old.map key := by
  induction old generalizing fresh with
  | nil => simp [carryOver]
  | cons item rest ih =>
      rw [carryOver, List.foldl_cons, ← carryOver, ih,
        mem_keys_push sameKey, List.map_cons, List.mem_cons, or_assoc]

theorem nodup_keys_carryOver (nodup : (fresh.map key).Nodup) :
    ((carryOver key change fresh old).map key).Nodup := by
  induction old generalizing fresh with
  | nil => exact nodup
  | cons item rest ih =>
      refine ih ?_
      by_cases member : key item ∈ fresh.map key
      · rw [push_of_mem member]
        exact nodup
      · rw [push_of_not_mem member, List.map_append, List.map_singleton,
          sameKey]
        exact nodup.append (List.nodup_singleton _)
          (List.disjoint_singleton.mpr member)

theorem mem_of_mem_carryOver {item : α}
    (member : item ∈ carryOver key change fresh old) :
    item ∈ fresh ∨
      ∃ earlier ∈ old, item = change earlier ∧
        key earlier ∉ fresh.map key := by
  induction old generalizing fresh with
  | nil => exact .inl member
  | cons first rest ih =>
      rw [carryOver, List.foldl_cons, ← carryOver] at member
      rcases ih member with new | ⟨earlier, there, rest⟩
      · by_cases known : key first ∈ fresh.map key
        · rw [push_of_mem known] at new
          exact .inl new
        · rw [push_of_not_mem known, List.mem_append,
            List.mem_singleton] at new
          rcases new with new | taken
          · exact .inl new
          · exact .inr ⟨first, List.mem_cons_self, taken, known⟩
      · refine .inr ⟨earlier, List.mem_cons_of_mem first there, rest.1, ?_⟩
        intro known
        exact rest.2 ((mem_keys_push sameKey).mpr (.inl known))

end SameKey

end CarryOver
