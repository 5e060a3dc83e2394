import Mathlib.Data.List.Basic
import Mathlib.Data.List.Nodup

/-!
# Tables with declared constraints

A `Schema` is what a relational store enforces on every statement: primary
keys, unique indexes, partial unique indexes and row checks.  A `Table` is a
list of rows, in insertion order, together with the proof that the declared
constraints hold, so that a table violating them cannot be built.  A statement
that would violate a constraint fails and has no effect.
-/

universe u v

/-- Constraints on the rows of a table.  Deleting rows never violates one. -/
structure Schema (ρ : Type u) where
  valid : List ρ → Prop
  decidable : DecidablePred valid
  ofEmpty : valid []
  ofSublist : ∀ {fewer rows : List ρ},
    fewer.Sublist rows → valid rows → valid fewer

namespace Schema

variable {ρ : Type u} {κ : Type v} [DecidableEq κ]

instance (schema : Schema ρ) : DecidablePred schema.valid :=
  schema.decidable

/-- A unique index over the rows that satisfy `covers`. -/
def uniqueWhere (covers : ρ → Bool) (key : ρ → κ) : Schema ρ where
  valid rows := ((rows.filter covers).map key).Nodup
  decidable _ := inferInstanceAs (Decidable (List.Nodup _))
  ofEmpty := List.nodup_nil
  ofSublist sublist nodup := nodup.sublist ((sublist.filter covers).map key)

/-- A primary key or a unique column. -/
def uniqueOn (key : ρ → κ) : Schema ρ where
  valid rows := (rows.map key).Nodup
  decidable _ := inferInstanceAs (Decidable (List.Nodup _))
  ofEmpty := List.nodup_nil
  ofSublist sublist nodup := nodup.sublist (sublist.map key)

/-- A check on every single row. -/
def check (holds : ρ → Bool) : Schema ρ where
  valid rows := ∀ row ∈ rows, holds row = true
  decidable rows := inferInstanceAs (Decidable (∀ row ∈ rows, holds row = true))
  ofEmpty := by simp
  ofSublist sublist all row member := all row (sublist.subset member)

/-- Two groups of constraints on one table. -/
protected def and (left right : Schema ρ) : Schema ρ where
  valid rows := left.valid rows ∧ right.valid rows
  decidable rows :=
    inferInstanceAs (Decidable (left.valid rows ∧ right.valid rows))
  ofEmpty := ⟨left.ofEmpty, right.ofEmpty⟩
  ofSublist sublist both :=
    ⟨left.ofSublist sublist both.1, right.ofSublist sublist both.2⟩

end Schema

/-- The rows of a table in insertion order, with its constraints. -/
structure Table {ρ : Type u} (schema : Schema ρ) where
  rows : List ρ
  valid : schema.valid rows

namespace Table

variable {ρ : Type u} {schema : Schema ρ}

@[ext]
theorem ext {left right : Table schema}
    (sameRows : left.rows = right.rows) : left = right := by
  cases left
  cases right
  cases sameRows
  rfl

/-- The table without rows. -/
def empty : Table schema := ⟨[], schema.ofEmpty⟩

/-- Replace the rows, or fail when a constraint is violated. -/
def write (_table : Table schema) (rows : List ρ) : Option (Table schema) :=
  if valid : schema.valid rows then some ⟨rows, valid⟩ else none

/-- `INSERT INTO`. -/
def insert (table : Table schema) (row : ρ) : Option (Table schema) :=
  table.write (table.rows ++ [row])

/-- `UPDATE ... WHERE`. -/
def update (table : Table schema)
    (selects : ρ → Bool) (change : ρ → ρ) : Option (Table schema) :=
  table.write
    (table.rows.map fun row => if selects row then change row else row)

/-- `DELETE ... WHERE`. -/
def delete (table : Table schema) (selects : ρ → Bool) : Table schema :=
  ⟨table.rows.filter fun row => !selects row,
    schema.ofSublist List.filter_sublist table.valid⟩

@[simp]
theorem rows_empty : (empty : Table schema).rows = [] := rfl

@[simp]
theorem rows_delete (table : Table schema) (selects : ρ → Bool) :
    (table.delete selects).rows =
      table.rows.filter fun row => !selects row := rfl

theorem write_eq_some_iff
    {table written : Table schema} {rows : List ρ} :
    table.write rows = some written ↔ written.rows = rows := by
  unfold write
  constructor
  · intro performed
    split at performed
    · cases performed
      rfl
    · cases performed
  · intro same
    have valid : schema.valid rows := same ▸ written.valid
    rw [dif_pos valid]
    exact congrArg some (ext same.symm)

theorem write_isSome_iff {table : Table schema} {rows : List ρ} :
    (table.write rows).isSome ↔ schema.valid rows := by
  unfold write
  split <;> simp [*]

theorem rows_of_insert {table written : Table schema} {row : ρ}
    (performed : table.insert row = some written) :
    written.rows = table.rows ++ [row] :=
  write_eq_some_iff.mp performed

theorem rows_of_update
    {table written : Table schema} {selects : ρ → Bool} {change : ρ → ρ}
    (performed : table.update selects change = some written) :
    written.rows =
      table.rows.map fun row => if selects row then change row else row :=
  write_eq_some_iff.mp performed

end Table

/-! ## Rows outside a statement -/

namespace Frame

variable {ρ : Type u}

/-- A filter that drops the rewritten rows, before and after, does not see the
update. -/
theorem filter_update
    {rows : List ρ} {keep selects : ρ → Bool} {change : ρ → ρ}
    (outside : ∀ row ∈ rows, selects row = true →
      keep row = false ∧ keep (change row) = false) :
    (rows.map fun row =>
      if selects row then change row else row).filter keep =
      rows.filter keep := by
  induction rows with
  | nil => rfl
  | cons head tail ih =>
      have tailSame := ih fun row member =>
        outside row (List.mem_cons_of_mem head member)
      rw [List.map_cons, List.filter_cons, List.filter_cons, tailSame]
      by_cases selected : selects head = true
      · obtain ⟨dropped, droppedAfter⟩ :=
          outside head List.mem_cons_self selected
        simp [selected, dropped, droppedAfter]
      · simp [selected]

theorem filter_delete
    {rows : List ρ} {keep selects : ρ → Bool}
    (outside : ∀ row ∈ rows, selects row = true → keep row = false) :
    (rows.filter fun row => !selects row).filter keep =
      rows.filter keep := by
  rw [List.filter_filter]
  apply List.filter_congr
  intro row member
  cases selected : selects row with
  | false => simp
  | true => simp [outside row member selected]

theorem filter_insert
    {rows : List ρ} {keep : ρ → Bool} {row : ρ}
    (outside : keep row = false) :
    (rows ++ [row]).filter keep = rows.filter keep := by
  simp [outside]

theorem find?_filter
    {rows : List ρ} {keep wanted : ρ → Bool}
    (weaker : ∀ row, wanted row = true → keep row = true) :
    (rows.filter keep).find? wanted = rows.find? wanted := by
  rw [List.find?_filter]
  congr 1
  funext row
  cases isWanted : wanted row with
  | false => simp
  | true => simp [weaker row isWanted]

end Frame

/-! ## Unique keys -/

namespace UniqueKey

variable {ρ : Type u} {κ : Type v} {key : ρ → κ}

theorem eq_of_key_eq {rows : List ρ} (nodup : (rows.map key).Nodup)
    {left right : ρ} (leftMember : left ∈ rows) (rightMember : right ∈ rows)
    (sameKey : key left = key right) : left = right :=
  List.inj_on_of_nodup_map nodup leftMember rightMember sameKey

theorem find?_eq_some_iff [DecidableEq κ] {rows : List ρ}
    (nodup : (rows.map key).Nodup) {wanted : κ} {row : ρ} :
    rows.find? (fun candidate => decide (key candidate = wanted)) = some row ↔
      row ∈ rows ∧ key row = wanted := by
  constructor
  · intro found
    exact ⟨List.mem_of_find?_eq_some found, by
      simpa using List.find?_some found⟩
  · rintro ⟨member, rowKey⟩
    cases found : rows.find? fun candidate =>
        decide (key candidate = wanted) with
    | none =>
        have missing := List.find?_eq_none.mp found row member
        simp [rowKey] at missing
    | some other =>
        have otherMember := List.mem_of_find?_eq_some found
        have otherKey : key other = wanted := by
          simpa using List.find?_some found
        exact congrArg some <|
          eq_of_key_eq nodup otherMember member
            (otherKey.trans rowKey.symm)

theorem length_filter_le_one [DecidableEq κ] {rows : List ρ}
    (nodup : (rows.map key).Nodup) (wanted : κ) :
    (rows.filter fun row => decide (key row = wanted)).length ≤ 1 := by
  induction rows with
  | nil => exact Nat.zero_le 1
  | cons head tail ih =>
      rw [List.map_cons, List.nodup_cons] at nodup
      obtain ⟨headAbsent, tailNodup⟩ := nodup
      by_cases headKey : key head = wanted
      · have noneLeft :
            tail.filter (fun row => decide (key row = wanted)) = [] := by
          rw [List.filter_eq_nil_iff]
          intro row member carried
          apply headAbsent
          rw [headKey, ← of_decide_eq_true carried]
          exact List.mem_map_of_mem member
        simp [headKey, noneLeft]
      · simpa [headKey] using ih tailNodup

theorem nodup_update {rows : List ρ} {selects : ρ → Bool} {change : ρ → ρ}
    (nodup : (rows.map key).Nodup)
    (sameKey : ∀ row, key (change row) = key row) :
    ((rows.map fun row =>
      if selects row then change row else row).map key).Nodup := by
  rw [List.map_map]
  have same : (key ∘ fun row => if selects row then change row else row) =
      key := by
    funext row
    simp only [Function.comp_def]
    split
    · exact sameKey row
    · rfl
  rw [same]
  exact nodup

/-- An update that keeps the keys and takes no new row into a partial index
keeps the index unique. -/
theorem filter_update_sublist {rows : List ρ} {covers selects : ρ → Bool}
    {change : ρ → ρ}
    (sameKey : ∀ row ∈ rows, selects row = true →
      key (change row) = key row)
    (covered : ∀ row ∈ rows, selects row = true →
      covers (change row) = true → covers row = true) :
    (((rows.map fun row =>
      if selects row then change row else row).filter covers).map key).Sublist
      ((rows.filter covers).map key) := by
  induction rows with
  | nil => exact List.Sublist.refl _
  | cons head tail ih =>
      have tailSublist := ih
        (fun row member => sameKey row (List.mem_cons_of_mem head member))
        (fun row member => covered row (List.mem_cons_of_mem head member))
      have headKey := sameKey head List.mem_cons_self
      have headCovered := covered head List.mem_cons_self
      rw [List.map_cons, List.filter_cons, List.filter_cons]
      cases selected : selects head with
      | false =>
          cases coversHead : covers head with
          | false => simpa [coversHead] using tailSublist
          | true =>
              simpa [coversHead] using tailSublist.cons_cons (key head)
      | true =>
          cases coversAfter : covers (change head) with
          | false =>
              cases covers head with
              | false => simpa [coversAfter] using tailSublist
              | true =>
                  simpa [coversAfter] using tailSublist.cons (key head)
          | true =>
              have coversBefore := headCovered selected coversAfter
              have same := headKey selected
              simpa [coversAfter, coversBefore, same] using
                tailSublist.cons_cons (key head)

theorem nodup_append_singleton {rows : List ρ} {row : ρ}
    (nodup : (rows.map key).Nodup)
    (fresh : ∀ other ∈ rows, key other ≠ key row) :
    ((rows ++ [row]).map key).Nodup := by
  rw [List.map_append, List.map_singleton]
  refine List.nodup_append.mpr ⟨nodup, List.nodup_singleton _, ?_⟩
  intro left leftMember right rightMember
  obtain ⟨other, otherMember, rfl⟩ := List.mem_map.mp leftMember
  rw [List.mem_singleton.mp rightMember]
  exact fresh other otherMember

end UniqueKey
