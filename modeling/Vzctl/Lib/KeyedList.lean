import Mathlib.Data.List.Pairwise
import Mathlib.Data.List.Sort
import Mathlib.Order.Defs.LinearOrder

/-!
# Lists of fields in the order of their keys

The fields of a sorted map as a list: insertion in place, removal, and what a
lookup finds after each.  With the keys in order two lists can be compared
field by field.
-/

namespace KeyedList

variable {κ α : Type} [LinearOrder κ] {key other : κ} {value held : α}
  {fields : List (κ × α)}

/-- Put a field in its place, over a field of the same key. -/
def insertKey (key : κ) (value : α) : List (κ × α) → List (κ × α)
  | [] => [(key, value)]
  | (other, held) :: rest =>
      if key < other then
        (key, value) :: (other, held) :: rest
      else if key = other then
        (key, value) :: rest
      else
        (other, held) :: insertKey key value rest

def eraseKey (key : κ) (fields : List (κ × α)) : List (κ × α) :=
  fields.filter fun field => field.1 ≠ key

/-- The keys grow strictly. -/
def Sorted (fields : List (κ × α)) : Prop :=
  fields.Pairwise fun left right => left.1 < right.1

/-! ## Order -/

theorem sorted_nil : Sorted ([] : List (κ × α)) := List.Pairwise.nil

theorem sorted_cons :
    Sorted ((key, value) :: fields) ↔
      (∀ field ∈ fields, key < field.1) ∧ Sorted fields :=
  List.pairwise_cons

theorem mem_insertKey {field : κ × α}
    (member : field ∈ insertKey key value fields) :
    field = (key, value) ∨ field ∈ fields := by
  induction fields with
  | nil =>
      rw [insertKey, List.mem_singleton] at member
      exact .inl member
  | cons first rest ih =>
      obtain ⟨other, held⟩ := first
      rw [insertKey] at member
      split at member
      · exact List.mem_cons.mp member
      · split at member
        · rcases List.mem_cons.mp member with equal | later
          · exact .inl equal
          · exact .inr (List.mem_cons_of_mem _ later)
        · rcases List.mem_cons.mp member with equal | later
          · exact .inr (equal ▸ List.mem_cons_self)
          · rcases ih later with equal | within
            · exact .inl equal
            · exact .inr (List.mem_cons_of_mem _ within)

theorem sorted_insertKey (key : κ) (value : α) (sorted : Sorted fields) :
    Sorted (insertKey key value fields) := by
  induction fields with
  | nil => exact List.pairwise_singleton _ _
  | cons first rest ih =>
      obtain ⟨other, held⟩ := first
      have parts := sorted_cons.mp sorted
      rw [insertKey]
      split
      · rename_i before
        refine sorted_cons.mpr ⟨?_, sorted⟩
        intro field member
        rcases List.mem_cons.mp member with equal | later
        · rw [equal]
          exact before
        · exact lt_trans before (parts.1 field later)
      · split
        · rename_i same
          rw [same]
          exact sorted_cons.mpr parts
        · rename_i notBefore different
          refine sorted_cons.mpr ⟨?_, ih parts.2⟩
          intro field member
          rcases mem_insertKey member with equal | within
          · rw [equal]
            exact lt_of_le_of_ne (not_lt.mp notBefore) (Ne.symm different)
          · exact parts.1 field within

theorem sorted_eraseKey (key : κ) (sorted : Sorted fields) :
    Sorted (eraseKey key fields) :=
  List.Pairwise.filter _ sorted

/-! ## Lookups -/

section Lookups

variable [BEq κ] [LawfulBEq κ]

theorem lookup_cons (other : κ) (held : α) (fields : List (κ × α))
    (key : κ) :
    ((other, held) :: fields).lookup key =
      if key = other then some held else fields.lookup key := by
  rw [List.lookup_cons]
  by_cases same : key = other
  · rw [beq_iff_eq.mpr same, if_pos same]
  · rw [beq_eq_false_iff_ne.mpr same, if_neg same]

theorem lookup_insertKey (key other : κ) (value : α)
    (fields : List (κ × α)) :
    (insertKey key value fields).lookup other =
      if other = key then some value else fields.lookup other := by
  induction fields with
  | nil =>
      rw [insertKey, lookup_cons]
  | cons field rest ih =>
      obtain ⟨first, held⟩ := field
      rw [insertKey]
      split
      · rw [lookup_cons]
      · split
        · rename_i same
          subst same
          rw [lookup_cons, lookup_cons]
          by_cases asked : other = key
          · rw [if_pos asked, if_pos asked]
          · rw [if_neg asked, if_neg asked, if_neg asked]
        · rename_i different
          rw [lookup_cons, lookup_cons, ih]
          by_cases asked : other = first
          · have otherKey : other ≠ key := fun same =>
              different (same.symm.trans asked)
            rw [if_pos asked, if_neg otherKey, if_pos asked]
          · rw [if_neg asked, if_neg asked]

theorem lookup_insertKey_self (key : κ) (value : α)
    (fields : List (κ × α)) :
    (insertKey key value fields).lookup key = some value := by
  rw [lookup_insertKey, if_pos rfl]

theorem lookup_insertKey_ne (value : α) (fields : List (κ × α))
    (different : other ≠ key) :
    (insertKey key value fields).lookup other = fields.lookup other := by
  rw [lookup_insertKey, if_neg different]

theorem lookup_eraseKey (key other : κ) (fields : List (κ × α)) :
    (eraseKey key fields).lookup other =
      if other = key then none else fields.lookup other := by
  induction fields with
  | nil => simp [eraseKey]
  | cons field rest ih =>
      obtain ⟨first, held⟩ := field
      have tail : (rest.filter fun field => field.1 ≠ key).lookup other =
          if other = key then none else rest.lookup other :=
        ih
      rw [eraseKey, List.filter_cons]
      by_cases same : first = key
      · rw [if_neg (by simp [same]), tail, lookup_cons]
        by_cases asked : other = key
        · rw [if_pos asked, if_pos asked]
        · rw [if_neg asked, if_neg asked,
            if_neg fun equal => asked (equal.trans same)]
      · rw [if_pos (by simp [same]), lookup_cons, lookup_cons, tail]
        by_cases asked : other = first
        · rw [if_pos asked, if_pos asked,
            if_neg fun equal => same (asked.symm.trans equal)]
        · rw [if_neg asked, if_neg asked]

theorem mem_of_lookup (found : fields.lookup key = some value) :
    (key, value) ∈ fields := by
  induction fields with
  | nil => cases found
  | cons field rest ih =>
      obtain ⟨first, held⟩ := field
      rw [lookup_cons] at found
      split at found
      · rename_i same
        cases found
        rw [same]
        exact List.mem_cons_self
      · exact List.mem_cons_of_mem _ (ih found)

/-! ## Lookups in order -/

theorem lookup_of_mem (sorted : Sorted fields)
    (member : (key, value) ∈ fields) : fields.lookup key = some value := by
  induction fields with
  | nil => cases member
  | cons first rest ih =>
      obtain ⟨other, held⟩ := first
      have parts := sorted_cons.mp sorted
      rw [lookup_cons]
      rcases List.mem_cons.mp member with equal | later
      · cases equal
        rw [if_pos rfl]
      · have above := parts.1 _ later
        rw [if_neg (ne_of_gt above)]
        exact ih parts.2 later

theorem lookup_eq_none_of_lt
    (above : ∀ field ∈ fields, key < field.1) :
    fields.lookup key = none := by
  cases found : fields.lookup key with
  | none => rfl
  | some value =>
      exact absurd (above _ (mem_of_lookup found)) (lt_irrefl key)

theorem mem_iff_lookup (sorted : Sorted fields) :
    (key, value) ∈ fields ↔ fields.lookup key = some value :=
  ⟨lookup_of_mem sorted, mem_of_lookup⟩

omit [BEq κ] [LawfulBEq κ] in
theorem eq_of_mem_iff {left right : List (κ × α)} (leftSorted : Sorted left)
    (rightSorted : Sorted right)
    (same : ∀ field, field ∈ left ↔ field ∈ right) : left = right := by
  have distinct : ∀ {listed : List (κ × α)}, Sorted listed → listed.Nodup :=
    fun sorted => sorted.imp fun before equal =>
      ne_of_lt before (congrArg Prod.fst equal)
  have permuted : left.Perm right :=
    (List.perm_ext_iff_of_nodup (distinct leftSorted)
      (distinct rightSorted)).mpr same
  refine permuted.eq_of_pairwise ?_ leftSorted rightSorted
  intro first second _ _ before after
  exact absurd (lt_trans before after) (lt_irrefl _)

theorem eq_of_lookup {left right : List (κ × α)} (leftSorted : Sorted left)
    (rightSorted : Sorted right)
    (same : ∀ key, left.lookup key = right.lookup key) : left = right := by
  refine eq_of_mem_iff leftSorted rightSorted ?_
  rintro ⟨key, value⟩
  rw [mem_iff_lookup leftSorted, mem_iff_lookup rightSorted, same]

theorem mem_insertKey_iff (sorted : Sorted fields)
    (absent : fields.lookup key = none) {field : κ × α} :
    field ∈ insertKey key value fields ↔
      field = (key, value) ∨ field ∈ fields := by
  obtain ⟨other, held⟩ := field
  rw [mem_iff_lookup (sorted_insertKey key value sorted),
    mem_iff_lookup sorted, lookup_insertKey]
  by_cases same : other = key
  · rw [if_pos same, same, absent]
    constructor
    · intro found
      cases found
      exact .inl rfl
    · rintro (equal | impossible)
      · cases equal
        rfl
      · cases impossible
  · rw [if_neg same]
    constructor
    · exact .inr
    · rintro (equal | found)
      · exact absurd (congrArg Prod.fst equal) same
      · exact found

/-- Two lists that say the same of every key, where a missing field says
`default`, differ in fields of that value only. -/
theorem filter_eq_of_getD_lookup [DecidableEq α] (default : α)
    {left right : List (κ × α)} (leftSorted : Sorted left)
    (rightSorted : Sorted right)
    (same : ∀ key, (left.lookup key).getD default =
      (right.lookup key).getD default) :
    left.filter (fun field => field.2 ≠ default) =
      right.filter fun field => field.2 ≠ default := by
  have listed : ∀ {fields : List (κ × α)}, Sorted fields →
      ∀ key value, (key, value) ∈ fields.filter
          (fun field => field.2 ≠ default) ↔
        (fields.lookup key).getD default = value ∧ value ≠ default := by
    intro fields sorted key value
    rw [List.mem_filter, decide_eq_true_iff, mem_iff_lookup sorted]
    constructor
    · rintro ⟨found, other⟩
      exact ⟨by rw [found]; rfl, other⟩
    · rintro ⟨found, other⟩
      refine ⟨?_, other⟩
      cases looked : fields.lookup key with
      | none =>
          rw [looked] at found
          exact absurd found.symm other
      | some held =>
          rw [looked] at found
          exact congrArg some found
  refine eq_of_mem_iff (leftSorted.filter _) (rightSorted.filter _) ?_
  rintro ⟨key, value⟩
  rw [listed leftSorted, listed rightSorted, same key]

omit [BEq κ] [LawfulBEq κ] in
theorem insertKey_insertKey (key : κ) (value held : α)
    (fields : List (κ × α)) :
    insertKey key value (insertKey key held fields) =
      insertKey key value fields := by
  induction fields with
  | nil => simp [insertKey]
  | cons first rest ih =>
      obtain ⟨other, old⟩ := first
      by_cases before : key < other
      · simp [insertKey, before]
      · by_cases same : key = other
        · simp [insertKey, same]
        · simp [insertKey, before, same, ih]

theorem insertKey_of_lookup (sorted : Sorted fields)
    (found : fields.lookup key = some value) :
    insertKey key value fields = fields := by
  induction fields with
  | nil => cases found
  | cons first rest ih =>
      obtain ⟨other, old⟩ := first
      have parts := sorted_cons.mp sorted
      rw [lookup_cons] at found
      rw [insertKey]
      split at found
      · rename_i same
        cases found
        rw [same, if_neg (lt_irrefl _), if_pos rfl]
      · rename_i different
        have above := parts.1 _ (mem_of_lookup found)
        rw [if_neg (not_lt_of_gt above), if_neg different,
          ih parts.2 found]

end Lookups

/-! ## Keys -/

theorem nodup_keys (sorted : Sorted fields) :
    (fields.map Prod.fst).Nodup :=
  List.pairwise_map.mpr (sorted.imp fun before => ne_of_lt before)

theorem mem_keys_insertKey :
    other ∈ (insertKey key value fields).map Prod.fst ↔
      other = key ∨ other ∈ fields.map Prod.fst := by
  induction fields with
  | nil => simp [insertKey]
  | cons field rest ih =>
      obtain ⟨first, held⟩ := field
      rw [insertKey]
      split
      · simp
      · split
        · rename_i same
          simp [same]
        · rw [List.map_cons, List.mem_cons, ih,
            List.map_cons, List.mem_cons]
          exact or_left_comm

theorem mem_keys_eraseKey :
    other ∈ (eraseKey key fields).map Prod.fst ↔
      other ≠ key ∧ other ∈ fields.map Prod.fst := by
  simp [eraseKey, and_comm]

end KeyedList
