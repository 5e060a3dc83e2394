import Mathlib.Data.Rat.Defs

/-!
# JSON values

The values that travel between the command line, the supervisor and the
`payload` column of the journal.  JSON text is represented by the value it
denotes; encoding and decoding are the libraries' own and keep the value.
-/

namespace Vzctl

inductive JSONValue where
  | null
  | bool (value : Bool)
  | number (value : Rat)
  | string (value : String)
  | array (items : List JSONValue)
  | object (fields : List (String × JSONValue))

namespace JSONValue

/-! ## Equality -/

mutual

/-- Both values are written the same. -/
def same : JSONValue → JSONValue → Bool
  | .null, .null => true
  | .bool left, .bool right => left == right
  | .number left, .number right => decide (left = right)
  | .string left, .string right => left == right
  | .array left, .array right => sameItems left right
  | .object left, .object right => sameFields left right
  | _, _ => false

def sameItems : List JSONValue → List JSONValue → Bool
  | [], [] => true
  | left :: lefts, right :: rights => left.same right && sameItems lefts rights
  | _, _ => false

def sameFields :
    List (String × JSONValue) → List (String × JSONValue) → Bool
  | [], [] => true
  | (key, left) :: lefts, (other, right) :: rights =>
      key == other && left.same right && sameFields lefts rights
  | _, _ => false

end

mutual

theorem eq_of_same : {left right : JSONValue} → left.same right = true →
    left = right
  | .null, right, equal => by
      cases right <;> first | rfl | cases equal
  | .bool _, right, equal => by
      cases right <;> first | cases equal | skip
      exact congrArg bool (eq_of_beq equal)
  | .number _, right, equal => by
      cases right <;> first | cases equal | skip
      exact congrArg number (of_decide_eq_true equal)
  | .string _, right, equal => by
      cases right <;> first | cases equal | skip
      exact congrArg string (eq_of_beq equal)
  | .array _, right, equal => by
      cases right <;> first | cases equal | skip
      exact congrArg array (eq_of_sameItems equal)
  | .object _, right, equal => by
      cases right <;> first | cases equal | skip
      exact congrArg object (eq_of_sameFields equal)

theorem eq_of_sameItems : {left right : List JSONValue} →
    sameItems left right = true → left = right
  | [], right, equal => by
      cases right with
      | nil => rfl
      | cons => cases equal
  | _ :: _, right, equal => by
      cases right with
      | nil => cases equal
      | cons =>
          rw [sameItems, Bool.and_eq_true] at equal
          rw [eq_of_same equal.1, eq_of_sameItems equal.2]

theorem eq_of_sameFields : {left right : List (String × JSONValue)} →
    sameFields left right = true → left = right
  | [], right, equal => by
      cases right with
      | nil => rfl
      | cons => cases equal
  | (_, _) :: _, right, equal => by
      cases right with
      | nil => cases equal
      | cons =>
          rw [sameFields, Bool.and_eq_true, Bool.and_eq_true] at equal
          rw [eq_of_beq equal.1.1, eq_of_same equal.1.2,
            eq_of_sameFields equal.2]

end

mutual

theorem same_self : (value : JSONValue) → value.same value = true
  | .null => rfl
  | .bool _ => beq_self_eq_true _
  | .number _ => decide_eq_true rfl
  | .string _ => beq_self_eq_true _
  | .array items => sameItems_self items
  | .object fields => sameFields_self fields

theorem sameItems_self :
    (items : List JSONValue) → sameItems items items = true
  | [] => rfl
  | item :: rest => by
      rw [sameItems, same_self item, sameItems_self rest]
      rfl

theorem sameFields_self :
    (fields : List (String × JSONValue)) → sameFields fields fields = true
  | [] => rfl
  | (key, value) :: rest => by
      rw [sameFields, beq_self_eq_true, same_self value, sameFields_self rest]
      rfl

end

instance : DecidableEq JSONValue := fun left right =>
  decidable_of_iff (left.same right = true)
    ⟨eq_of_same, fun equal => equal ▸ same_self left⟩

/-! ## Access -/

/-- Member access; anything but an object has no members. -/
def field? : JSONValue → String → Option JSONValue
  | .object fields, key => fields.lookup key
  | _, _ => none

def asString? : JSONValue → Option String
  | .string value => some value
  | _ => none

def asBool? : JSONValue → Option Bool
  | .bool value => some value
  | _ => none

def asArray? : JSONValue → Option (List JSONValue)
  | .array items => some items
  | _ => none

end JSONValue

end Vzctl
