import Mathlib.Data.String.Basic
import Vzctl.Json
import Vzctl.Lib.KeyedList

/-!
# Kubernetes objects as values

`serde_json::Value` with its sorted maps: indexing, assignment through an
index, and the order of their fields.
-/

namespace Vzctl

namespace JSONValue

def asObject? : JSONValue → Option (List (String × JSONValue))
  | .object fields => some fields
  | _ => none

/-- `as_object().map(Map::is_empty)`. -/
def isEmpty? (value : JSONValue) : Option Bool :=
  value.asObject?.map List.isEmpty

def isObject (value : JSONValue) : Bool := value.asObject?.isSome

/-- `value[key]` as a place to read: nothing is found as `null`. -/
def index (value : JSONValue) (key : String) : JSONValue :=
  (value.field? key).getD .null

/-- `value[key] = member`; `null` becomes an object first.  The program panics
on any other value, which is left alone here. -/
def setIndex (value : JSONValue) (key : String) (member : JSONValue) :
    JSONValue :=
  match value with
  | .object fields => .object (KeyedList.insertKey key member fields)
  | .null => .object [(key, member)]
  | other => other

/-! ## Sorted maps -/

mutual

/-- Every object lists its fields in the order of their keys. -/
def isCanonical : JSONValue → Bool
  | .array items => areCanonical items
  | .object fields =>
      decide (fields.Pairwise fun left right => left.1 < right.1) &&
        fieldsCanonical fields
  | _ => true

def areCanonical : List JSONValue → Bool
  | [] => true
  | item :: rest => isCanonical item && areCanonical rest

def fieldsCanonical : List (String × JSONValue) → Bool
  | [] => true
  | (_, value) :: rest => isCanonical value && fieldsCanonical rest

end

def Canonical (value : JSONValue) : Prop := value.isCanonical = true

instance (value : JSONValue) : Decidable value.Canonical :=
  inferInstanceAs (Decidable (value.isCanonical = true))

@[simp]
theorem areCanonical_cons (item : JSONValue) (rest : List JSONValue) :
    areCanonical (item :: rest) = (isCanonical item && areCanonical rest) :=
  rfl

@[simp]
theorem fieldsCanonical_cons (field : String × JSONValue)
    (rest : List (String × JSONValue)) :
    fieldsCanonical (field :: rest) =
      (isCanonical field.2 && fieldsCanonical rest) := rfl

theorem isCanonical_object (fields : List (String × JSONValue)) :
    (object fields).isCanonical =
      (decide (fields.Pairwise fun left right => left.1 < right.1) &&
        fieldsCanonical fields) := rfl

theorem areCanonical_iff {items : List JSONValue} :
    areCanonical items = true ↔ ∀ item ∈ items, item.Canonical := by
  induction items with
  | nil => exact iff_of_true rfl (List.forall_mem_nil _)
  | cons item rest ih =>
      simp [ih, Canonical]

theorem fieldsCanonical_iff {fields : List (String × JSONValue)} :
    fieldsCanonical fields = true ↔
      ∀ field ∈ fields, field.2.Canonical := by
  induction fields with
  | nil => exact iff_of_true rfl (List.forall_mem_nil _)
  | cons field rest ih =>
      simp [ih, Canonical]

theorem canonical_array_iff {items : List JSONValue} :
    (array items).Canonical ↔ ∀ item ∈ items, item.Canonical :=
  areCanonical_iff

theorem canonical_object_iff {fields : List (String × JSONValue)} :
    (object fields).Canonical ↔
      KeyedList.Sorted fields ∧ ∀ field ∈ fields, field.2.Canonical := by
  rw [Canonical, isCanonical_object, Bool.and_eq_true, decide_eq_true_eq,
    fieldsCanonical_iff, KeyedList.Sorted]

theorem canonical_empty : (object []).Canonical := rfl

theorem canonical_of_lookup {fields : List (String × JSONValue)}
    {key : String} {value : JSONValue}
    (canonical : (object fields).Canonical)
    (found : fields.lookup key = some value) : value.Canonical :=
  (canonical_object_iff.mp canonical).2 _ (KeyedList.mem_of_lookup found)

theorem canonical_insertKey {fields : List (String × JSONValue)}
    {key : String} {value : JSONValue}
    (canonical : (object fields).Canonical) (valueCanonical : value.Canonical) :
    (object (KeyedList.insertKey key value fields)).Canonical := by
  have parts := canonical_object_iff.mp canonical
  refine canonical_object_iff.mpr
    ⟨KeyedList.sorted_insertKey key value parts.1, ?_⟩
  intro field member
  rcases KeyedList.mem_insertKey member with equal | within
  · rw [equal]
    exact valueCanonical
  · exact parts.2 field within

theorem canonical_eraseKey {fields : List (String × JSONValue)} {key : String}
    (canonical : (object fields).Canonical) :
    (object (KeyedList.eraseKey key fields)).Canonical := by
  have parts := canonical_object_iff.mp canonical
  refine canonical_object_iff.mpr
    ⟨KeyedList.sorted_eraseKey key parts.1, ?_⟩
  intro field member
  exact parts.2 field (List.mem_of_mem_filter member)

/-- A value as `serde_json` holds it. -/
structure Document where
  value : JSONValue
  canonical : value.Canonical

/-! ## Indexing -/

@[simp]
theorem field?_object (fields : List (String × JSONValue)) (key : String) :
    (object fields).field? key = fields.lookup key := rfl

theorem eq_object_of_field? {value member : JSONValue} {key : String}
    (found : value.field? key = some member) :
    ∃ fields, value = .object fields ∧ fields.lookup key = some member := by
  cases value with
  | object fields => exact ⟨fields, rfl, found⟩
  | _ => cases found

end JSONValue

end Vzctl
