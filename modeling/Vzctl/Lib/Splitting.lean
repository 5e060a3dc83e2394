import Mathlib.Data.List.Basic
import Mathlib.Data.List.DropRight
import Mathlib.Data.List.TakeWhile

/-!
# Splitting at a separator

What the parts of a text hold, and the text before and behind the first
separator.
-/

namespace Splitting

section Separators

variable {α : Type} {separates : α → Bool} {text part : List α}

theorem not_separates_of_mem (member : part ∈ text.splitOnP separates) :
    ∀ item ∈ part, separates item = false := by
  induction text generalizing part with
  | nil =>
      cases List.mem_singleton.mp member
      intro item impossible
      cases impossible
  | cons first rest ih =>
      rw [List.splitOnP_cons_eq_if_modifyHead] at member
      by_cases separator : separates first = true
      · rw [if_pos separator] at member
        rcases List.mem_cons.mp member with rfl | later
        · intro item impossible
          cases impossible
        · exact ih later
      · rw [if_neg separator] at member
        obtain ⟨head, tail, split⟩ := List.exists_cons_of_ne_nil
          (List.splitOnP_ne_nil separates rest)
        rw [split, List.modifyHead_cons] at member
        rcases List.mem_cons.mp member with rfl | later
        · intro item inside
          rcases List.mem_cons.mp inside with rfl | inside
          · exact eq_false_of_ne_true separator
          · exact ih (split ▸ List.mem_cons_self) item inside
        · exact ih (split ▸ List.mem_cons_of_mem head later)

end Separators

section Parts

variable {α : Type} [BEq α] [LawfulBEq α] {separator : α}
  {text part front back : List α}

theorem not_mem_of_mem_splitOn (member : part ∈ text.splitOn separator) :
    separator ∉ part := by
  rw [List.splitOn_eq_splitOnP] at member
  intro inside
  have kept := not_separates_of_mem member separator inside
  rw [beq_self_eq_true] at kept
  cases kept

theorem splitOn_eq_pair_iff :
    text.splitOn separator = [front, back] ↔
      text = front ++ separator :: back ∧ separator ∉ front ∧
        separator ∉ back := by
  constructor
  · intro parts
    have whole : [separator].intercalate (text.splitOn separator) = text :=
      List.intercalate_splitOn separator
    refine ⟨?_, ?_, ?_⟩
    · rw [← whole, parts]
      simp [List.intercalate]
    · have isPart : front ∈ text.splitOn separator := by simp [parts]
      exact not_mem_of_mem_splitOn isPart
    · have isPart : back ∈ text.splitOn separator := by simp [parts]
      exact not_mem_of_mem_splitOn isPart
  · intro found
    obtain ⟨same, before, behind⟩ := found
    have joined : text = [separator].intercalate [front, back] := by
      rw [same]
      simp [List.intercalate]
    rw [joined]
    apply List.splitOn_intercalate separator
    · intro part member
      rcases List.mem_cons.mp member with isFront | inRest
      · exact isFront ▸ before
      · exact List.mem_singleton.mp inRest ▸ behind
    · simp

end Parts

section First

variable {α : Type} [DecidableEq α] {separator : α}
  {text front back : List α}

theorem first_separator_iff :
    (text.takeWhile (· ≠ separator) = front ∧
        text.dropWhile (· ≠ separator) = separator :: back) ↔
      text = front ++ separator :: back ∧ separator ∉ front := by
  constructor
  · intro found
    obtain ⟨before, behind⟩ := found
    constructor
    · rw [← before, ← behind]
      exact List.takeWhile_append_dropWhile.symm
    · intro member
      rw [← before] at member
      simpa using List.mem_takeWhile_imp member
  · intro found
    obtain ⟨same, plain⟩ := found
    have passes : ∀ item ∈ front, decide (item ≠ separator) = true := by
      intro item member
      exact decide_eq_true fun equal => plain (equal ▸ member)
    rw [same, List.takeWhile_append_of_pos passes,
      List.dropWhile_append_of_pos passes]
    simp

theorem head_of_dropWhile {item : α}
    (behind : text.dropWhile (· ≠ separator) = item :: back) :
    item = separator := by
  have stops := List.head?_dropWhile_not
    (fun other => decide (other ≠ separator)) text
  rw [behind] at stops
  simpa using stops

end First

end Splitting
