import Mathlib.Data.List.Forall2
import Mathlib.Logic.Relation
import Vzctl.Kubernetes.ObjectValue

/-!
# Declared against observed objects

`matches_desired`: every declared field is there, and the API server may have
added fields to any object.
-/

namespace Vzctl

namespace Manifests

open JSONValue KeyedList

mutual

def matchesDesired : JSONValue → JSONValue → Bool
  | .object fields, actual => matchesFields fields actual
  | .array items, .array observed =>
      items.length = observed.length && matchesItems items observed
  | .array _, _ => false
  | .null, actual => actual = .null
  | .bool value, actual => actual = .bool value
  | .number value, actual => actual = .number value
  | .string value, actual => actual = .string value

def matchesFields : List (String × JSONValue) → JSONValue → Bool
  | [], _ => true
  | (key, value) :: rest, actual =>
      (match actual.field? key with
        | some observed => matchesDesired value observed
        | none => false) &&
        matchesFields rest actual

/-- The items beside each other, as far as both lists go. -/
def matchesItems : List JSONValue → List JSONValue → Bool
  | value :: rest, observed :: others =>
      matchesDesired value observed && matchesItems rest others
  | _, _ => true

end

/-! ## Matching -/

theorem matchesFields_iff {fields : List (String × JSONValue)} {actual : JSONValue} :
    matchesFields fields actual = true ↔
      ∀ field ∈ fields, ∃ observed, actual.field? field.1 = some observed ∧
        matchesDesired field.2 observed = true := by
  induction fields with
  | nil => simp [matchesFields]
  | cons field rest ih =>
      obtain ⟨key, value⟩ := field
      rw [matchesFields, Bool.and_eq_true, ih,
        List.forall_mem_cons]
      refine and_congr_left' ?_
      cases actual.field? key <;> simp

theorem matchesItems_iff {items observed : List JSONValue} :
    (items.length = observed.length ∧ matchesItems items observed = true) ↔
      List.Forall₂ (fun value found => matchesDesired value found = true)
        items observed := by
  induction items generalizing observed with
  | nil =>
      cases observed with
      | nil => simp [matchesItems]
      | cons => simp
  | cons item rest ih =>
      cases observed with
      | nil => simp
      | cons found others =>
          rw [List.forall₂_cons, ← ih, matchesItems,
            Bool.and_eq_true, List.length_cons, List.length_cons,
            Nat.add_right_cancel_iff]
          exact and_left_comm

theorem matches_object {fields : List (String × JSONValue)} {actual : JSONValue} :
    matchesDesired (.object fields) actual = true ↔
      ∀ field ∈ fields, ∃ observed, actual.field? field.1 = some observed ∧
        matchesDesired field.2 observed = true := by
  rw [matchesDesired]
  exact matchesFields_iff

theorem matches_array {items : List JSONValue} {actual : JSONValue} :
    matchesDesired (.array items) actual = true ↔
      ∃ observed, actual = .array observed ∧
        List.Forall₂ (fun value found => matchesDesired value found = true)
          items observed := by
  cases actual with
  | array observed =>
      rw [matchesDesired, Bool.and_eq_true, decide_eq_true_iff,
        matchesItems_iff]
      simp
  | _ => simp [matchesDesired]

mutual

theorem matches_self :
    (value : JSONValue) → value.Canonical → matchesDesired value value = true
  | .null, _ => by
      rw [matchesDesired]
      exact decide_eq_true rfl
  | .bool _, _ => decide_eq_true rfl
  | .number _, _ => decide_eq_true rfl
  | .string _, _ => decide_eq_true rfl
  | .array items, canonical =>
      matches_array.mpr ⟨items, rfl,
        itemsMatch_self items (canonical_array_iff.mp canonical)⟩
  | .object fields, canonical => by
      have parts := canonical_object_iff.mp canonical
      refine matches_object.mpr fun field member => ?_
      exact ⟨field.2, lookup_of_mem parts.1 member,
        fieldsMatch_self fields parts.2 field member⟩

theorem itemsMatch_self : (items : List JSONValue) →
    (∀ item ∈ items, item.Canonical) →
    List.Forall₂ (fun value found => matchesDesired value found = true)
      items items
  | [], _ => .nil
  | item :: rest, canonical =>
      .cons (matches_self item (List.forall_mem_cons.mp canonical).1)
        (itemsMatch_self rest (List.forall_mem_cons.mp canonical).2)

theorem fieldsMatch_self : (fields : List (String × JSONValue)) →
    (∀ field ∈ fields, field.2.Canonical) →
    ∀ field ∈ fields, matchesDesired field.2 field.2 = true
  | [], _ => List.forall_mem_nil _
  | (_, value) :: rest, canonical =>
      List.forall_mem_cons.mpr
        ⟨matches_self value (List.forall_mem_cons.mp canonical).1,
          fieldsMatch_self rest (List.forall_mem_cons.mp canonical).2⟩

end

mutual

theorem matches_trans : (first : JSONValue) → ∀ {second third : JSONValue},
    matchesDesired first second = true → matchesDesired second third = true →
    matchesDesired first third = true
  | .null, _, _, one, two => by
      rw [of_decide_eq_true one] at two
      exact two
  | .bool _, _, _, one, two => by
      rw [of_decide_eq_true one] at two
      exact two
  | .number _, _, _, one, two => by
      rw [of_decide_eq_true one] at two
      exact two
  | .string _, _, _, one, two => by
      rw [of_decide_eq_true one] at two
      exact two
  | .array items, _, _, one, two => by
      obtain ⟨observed, rfl, found⟩ := matches_array.mp one
      obtain ⟨others, rfl, foundAgain⟩ := matches_array.mp two
      exact matches_array.mpr
        ⟨others, rfl, itemsMatch_trans items found foundAgain⟩
  | .object fields, second, third, one, two => by
      refine matches_object.mpr fun field member => ?_
      obtain ⟨observed, found, fits⟩ := matches_object.mp one field member
      obtain ⟨others, rfl, foundHere⟩ := eq_object_of_field? found
      obtain ⟨last, foundLast, fitsLast⟩ :=
        matches_object.mp two _ (mem_of_lookup foundHere)
      exact ⟨last, foundLast,
        fieldsMatch_trans fields field member fits fitsLast⟩

theorem itemsMatch_trans : (items : List JSONValue) →
    ∀ {observed others : List JSONValue},
    List.Forall₂ (fun value found => matchesDesired value found = true)
      items observed →
    List.Forall₂ (fun value found => matchesDesired value found = true)
      observed others →
    List.Forall₂ (fun value found => matchesDesired value found = true)
      items others
  | [], _, _, .nil, .nil => .nil
  | item :: rest, _, _, .cons one more, .cons two others =>
      .cons (matches_trans item one two) (itemsMatch_trans rest more others)

theorem fieldsMatch_trans : (fields : List (String × JSONValue)) →
    ∀ field ∈ fields, ∀ {second third : JSONValue},
      matchesDesired field.2 second = true →
      matchesDesired second third = true →
      matchesDesired field.2 third = true
  | (_, value) :: rest, field, member, _, _, one, two => by
      rcases List.mem_cons.mp member with rfl | later
      · exact matches_trans value one two
      · exact fieldsMatch_trans rest field later one two

end

/-- One object gains one field, at any depth. -/
inductive Gains : JSONValue → JSONValue → Prop
  | here {fields : List (String × JSONValue)} {key : String} {member : JSONValue}
      (absent : fields.lookup key = none) (canonical : member.Canonical) :
      Gains (.object fields) (.object (insertKey key member fields))
  | field {fields : List (String × JSONValue)} {key : String} {before after : JSONValue}
      (found : fields.lookup key = some before) (gains : Gains before after) :
      Gains (.object fields) (.object (insertKey key after fields))
  | item {front back : List JSONValue} {before after : JSONValue}
      (gains : Gains before after) :
      Gains (.array (front ++ before :: back))
        (.array (front ++ after :: back))

theorem Gains.canonical {before after : JSONValue} (gains : Gains before after)
    (canonical : before.Canonical) : after.Canonical := by
  induction gains with
  | here _ member => exact canonical_insertKey canonical member
  | field found _ ih =>
      exact canonical_insertKey canonical
        (ih (canonical_of_lookup canonical found))
  | item _ ih =>
      rw [canonical_array_iff, List.forall_mem_append,
        List.forall_mem_cons] at canonical ⊢
      exact ⟨canonical.1, ih canonical.2.1, canonical.2.2⟩

theorem Gains.matches {before after : JSONValue} (gains : Gains before after)
    (canonical : before.Canonical) : matchesDesired before after = true := by
  induction gains with
  | @here fields key member absent _ =>
      have sorted := (canonical_object_iff.mp canonical).1
      refine matches_object.mpr fun field listed => ?_
      have found := lookup_of_mem sorted listed
      have different : field.1 ≠ key := by
        intro same
        rw [same, absent] at found
        cases found
      exact ⟨field.2, (lookup_insertKey_ne _ _ different).trans found,
        matches_self _ (canonical_of_lookup canonical found)⟩
  | @field fields key before after held _ ih =>
      have sorted := (canonical_object_iff.mp canonical).1
      refine matches_object.mpr fun field listed => ?_
      have found := lookup_of_mem sorted listed
      by_cases same : field.1 = key
      · rw [same, held] at found
        rw [same, ← Option.some.inj found]
        exact ⟨after, lookup_insertKey_self _ _ _,
          ih (canonical_of_lookup canonical held)⟩
      · exact ⟨field.2, (lookup_insertKey_ne _ _ same).trans found,
          matches_self _ (canonical_of_lookup canonical found)⟩
  | @item front back before after _ ih =>
      rw [canonical_array_iff, List.forall_mem_append,
        List.forall_mem_cons] at canonical
      refine matches_array.mpr ⟨_, rfl, ?_⟩
      exact List.rel_append (itemsMatch_self front canonical.1)
        (.cons (ih canonical.2.1)
          (itemsMatch_self back canonical.2.2))

theorem matches_of_gains {before after : JSONValue}
    (canonical : before.Canonical)
    (gains : Relation.ReflTransGen Gains before after) :
    after.Canonical ∧ matchesDesired before after = true := by
  induction gains with
  | refl => exact ⟨canonical, matches_self _ canonical⟩
  | tail _ last ih =>
      exact ⟨last.canonical ih.1,
        matches_trans _ ih.2
          (last.matches ih.1)⟩

end Manifests

end Vzctl
