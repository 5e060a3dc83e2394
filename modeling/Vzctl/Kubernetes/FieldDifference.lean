import Vzctl.Kubernetes.FieldPaths

/-!
# Differences of field sets
-/

namespace Vzctl

namespace ManagedFields

open JSONValue KeyedList

variable {fields removed result : Fields}

/-- What a difference keeps of a field. -/
def remainingValue (value : JSONValue) : Option JSONValue :=
  if value.isEmpty? = some true then none else some value

/-- The field of a difference. -/
inductive DifferenceAt : Option JSONValue → Option JSONValue →
    Option JSONValue → Prop
  | keep (held : Option JSONValue) : DifferenceAt held none held
  | absent (child : JSONValue) : DifferenceAt none (some child) none
  | both {current child value : JSONValue} {empty : Bool}
      (currentKind : current.isEmpty? = some empty)
      (childKind : child.isEmpty? = some empty)
      (below : fieldDifference current child = .ok value) :
      DifferenceAt (some current) (some child) (remainingValue value)

theorem DifferenceAt.kept {held outcome : Option JSONValue}
    (field : DifferenceAt held none outcome) : outcome = held := by
  cases field with
  | keep => rfl

theorem DifferenceAt.met {current child : JSONValue}
    {outcome : Option JSONValue}
    (field : DifferenceAt (some current) (some child) outcome) :
    ∃ value empty, current.isEmpty? = some empty ∧
      child.isEmpty? = some empty ∧
      fieldDifference current child = .ok value ∧
      outcome = remainingValue value := by
  cases field with
  | both currentKind childKind below =>
      exact ⟨_, _, currentKind, childKind, below, rfl⟩

/-- Put a value in its place, or take the field away. -/
def settleKey (key : String) (outcome : Option JSONValue) (fields : Fields) :
    Fields :=
  match outcome with
  | some value => insertKey key value fields
  | none => eraseKey key fields

theorem lookup_settleKey (key other : String) (outcome : Option JSONValue)
    (fields : Fields) :
    (settleKey key outcome fields).lookup other =
      if other = key then outcome else fields.lookup other := by
  cases outcome with
  | some value => exact lookup_insertKey key other value fields
  | none => exact lookup_eraseKey key other fields

theorem differenceLoop_both {key : String} {current child : JSONValue}
    {rest : Fields} (found : fields.lookup key = some current)
    (succeeded : differenceLoop fields ((key, child) :: rest) =
      .ok result) :
    ∃ value empty, current.isEmpty? = some empty ∧
      child.isEmpty? = some empty ∧
      fieldDifference current child = .ok value ∧
      differenceLoop (settleKey key (remainingValue value) fields) rest =
        .ok result := by
  rw [differenceLoop] at succeeded
  simp only [found] at succeeded
  split at succeeded
  · rename_i empty currentEmpty childKind currentKind
    split at succeeded
    · cases succeeded
    · rename_i kinds
      obtain ⟨value, below, continued⟩ :=
        Outcome.bind_eq_ok_iff.mp succeeded
      have sameKind : empty = currentEmpty := not_not.mp kinds
      refine ⟨value, empty, sameKind ▸ currentKind, childKind, below, ?_⟩
      rw [remainingValue]
      split at continued
      · rename_i isEmpty
        rw [if_pos isEmpty]
        exact continued
      · rename_i nonempty
        rw [if_neg nonempty]
        exact continued
  · cases succeeded

theorem lookup_differenceLoop (sorted : Sorted removed)
    (succeeded : differenceLoop fields removed = .ok result)
    (key : String) :
    DifferenceAt (fields.lookup key) (removed.lookup key)
      (result.lookup key) := by
  induction removed generalizing fields with
  | nil =>
      rw [differenceLoop] at succeeded
      rw [← Except.ok.inj succeeded]
      exact .keep _
  | cons field rest ih =>
      obtain ⟨first, child⟩ := field
      have parts := sorted_cons.mp sorted
      have absent : rest.lookup first = none :=
        lookup_eq_none_of_lt parts.1
      cases found : fields.lookup first with
      | none =>
          rw [differenceLoop] at succeeded
          simp only [found] at succeeded
          have later := ih parts.2 succeeded
          rw [lookup_cons]
          split
          · rename_i same
            subst same
            rw [absent] at later
            rw [later.kept, found]
            exact .absent child
          · exact later
      | some current =>
          obtain ⟨value, empty, currentKind, childKind, below, continued⟩ :=
            differenceLoop_both found succeeded
          have later := ih parts.2 continued
          rw [lookup_settleKey] at later
          rw [lookup_cons]
          split
          · rename_i same
            subst same
            rw [absent, if_pos rfl] at later
            rw [later.kept, found]
            exact .both currentKind childKind below
          · rename_i different
            rw [if_neg different] at later
            exact later

theorem objects_of_fieldDifference {whole part rest : JSONValue}
    (succeeded : fieldDifference whole part = .ok rest) :
    ∃ fields removed result, whole = .object fields ∧
      part = .object removed ∧ rest = .object result ∧
      differenceLoop fields removed = .ok result := by
  unfold fieldDifference at succeeded
  split at succeeded
  · rename_i fields removed
    obtain ⟨result, looped, same⟩ := Outcome.map_eq_ok_iff.mp succeeded
    exact ⟨fields, removed, result, rfl, rfl, same.symm, looped⟩
  · cases succeeded

theorem canonical_settleKey {key : String} {value : JSONValue}
    (canonical : (object fields).Canonical)
    (valueCanonical : value.Canonical) :
    (object (settleKey key (remainingValue value) fields)).Canonical := by
  rw [remainingValue]
  split
  · exact canonical_eraseKey canonical
  · exact canonical_insertKey canonical valueCanonical

theorem canonical_differenceLoop (canonical : (object fields).Canonical)
    (below : ∀ field ∈ removed, ∀ current value, current.Canonical →
      fieldDifference current field.2 = .ok value → value.Canonical)
    (succeeded : differenceLoop fields removed = .ok result) :
    (object result).Canonical := by
  induction removed generalizing fields with
  | nil =>
      rw [differenceLoop] at succeeded
      rw [← Except.ok.inj succeeded]
      exact canonical
  | cons field rest ih =>
      obtain ⟨key, child⟩ := field
      have restBelow := fun field member =>
        below field (List.mem_cons_of_mem _ member)
      cases found : fields.lookup key with
      | none =>
          rw [differenceLoop] at succeeded
          simp only [found] at succeeded
          exact ih canonical restBelow succeeded
      | some current =>
          obtain ⟨value, empty, _, _, inner, continued⟩ :=
            differenceLoop_both found succeeded
          have valueCanonical := below (key, child) List.mem_cons_self
            current value (canonical_of_lookup canonical found) inner
          exact ih
            (canonical_settleKey canonical valueCanonical) restBelow continued

theorem canonical_fieldDifference (part : JSONValue) :
    ∀ whole rest, whole.Canonical → part.Canonical →
      fieldDifference whole part = .ok rest → rest.Canonical := by
  induction part using memberInduction with
  | _ part ih =>
      intro whole rest canonical partCanonical succeeded
      obtain ⟨fields, removed, result, rfl, rfl, rfl, looped⟩ :=
        objects_of_fieldDifference succeeded
      have parts := canonical_object_iff.mp partCanonical
      refine canonical_differenceLoop canonical ?_ looped
      intro field member current value currentCanonical below
      exact ih field.1 field.2
        (lookup_of_mem parts.1 member) current value currentCanonical
        (parts.2 field member) below

/-- A field of a difference is a field of the whole: untouched, or what is
left of it. -/
theorem source_of_lookup_difference {key : String} {value : JSONValue}
    (field : DifferenceAt (fields.lookup key) (removed.lookup key)
      (some value)) :
    (fields.lookup key = some value ∧ removed.lookup key = none) ∨
      ∃ current child, fields.lookup key = some current ∧
        removed.lookup key = some child ∧
        fieldDifference current child = .ok value ∧
        label value = .node ∧ label current = .node := by
  cases foundChild : removed.lookup key with
  | none =>
      rw [foundChild] at field
      exact .inl ⟨field.kept.symm, rfl⟩
  | some child =>
      cases found : fields.lookup key with
      | none =>
          rw [found, foundChild] at field
          cases field
      | some current =>
          rw [found, foundChild] at field
          obtain ⟨inner, empty, currentKind, childKind, below, outcome⟩ :=
            field.met
          unfold remainingValue at outcome
          split at outcome
          · cases outcome
          · rename_i nonempty
            have same := Option.some.inj outcome
            subst same
            refine .inr ⟨current, child, rfl, rfl, below, ?_⟩
            obtain ⟨wholeFields, removedFields, result, rfl, rfl, rfl,
              looped⟩ := objects_of_fieldDifference below
            cases result with
            | nil => exact absurd rfl nonempty
            | cons first rest =>
                refine ⟨rfl, label_eq_node_iff.mpr ?_⟩
                cases empty with
                | false => exact currentKind
                | true =>
                    have noWhole := isEmpty?_eq_true_iff.mp currentKind
                    have noRemoved := isEmpty?_eq_true_iff.mp childKind
                    rw [noFields, object.injEq] at noWhole noRemoved
                    subst noWhole noRemoved
                    rw [differenceLoop] at looped
                    cases looped

theorem within_of_fieldDifference (part : JSONValue) :
    ∀ whole rest, part.Canonical → fieldDifference whole part = .ok rest →
      Within rest whole := by
  induction part using memberInduction with
  | _ part ih =>
      intro whole rest canonical succeeded
      obtain ⟨fields, removed, result, rfl, rfl, rfl, looped⟩ :=
        objects_of_fieldDifference succeeded
      refine Within.of_members fun key value foundValue => ?_
      have field := lookup_differenceLoop (canonical_object_iff.mp canonical).1
        looped key
      rw [field?_object] at foundValue
      rw [foundValue] at field
      rcases source_of_lookup_difference field with
        ⟨held, _⟩ |
          ⟨current, child, held, foundChild, below, valueNode, currentNode⟩
      · exact ⟨value, held, rfl, Within.refl value⟩
      · exact ⟨current, held, valueNode.trans currentNode.symm,
          ih key child foundChild current value
            (canonical_of_lookup canonical foundChild) below⟩

theorem leaf_not_removed {whole part rest : JSONValue}
    (canonical : part.Canonical)
    (succeeded : fieldDifference whole part = .ok rest) {key : String}
    {path : List String} {held : JSONValue}
    (leaf : labelAt rest (key :: path) = some (.leaf held))
    (other : JSONValue) :
    labelAt part (key :: path) ≠ some (.leaf other) := by
  intro removedLeaf
  induction path generalizing key whole part rest with
  | nil =>
      obtain ⟨fields, removed, result, rfl, rfl, rfl, looped⟩ :=
        objects_of_fieldDifference succeeded
      obtain ⟨value, foundValue, marked⟩ := labelAt_cons_iff.mp leaf
      obtain ⟨child, foundChild, _⟩ := labelAt_cons_iff.mp removedLeaf
      have field := lookup_differenceLoop (canonical_object_iff.mp canonical).1
        looped key
      rw [field?_object] at foundValue foundChild
      rw [foundValue] at field
      rcases source_of_lookup_difference field with
        ⟨_, notRemoved⟩ | ⟨_, _, _, _, _, valueNode, _⟩
      · rw [foundChild] at notRemoved
        cases notRemoved
      · rw [labelAt, valueNode] at marked
        cases marked
  | cons next path ih =>
      obtain ⟨fields, removed, result, rfl, rfl, rfl, looped⟩ :=
        objects_of_fieldDifference succeeded
      obtain ⟨value, foundValue, marked⟩ := labelAt_cons_iff.mp leaf
      obtain ⟨child, foundChild, childMarked⟩ :=
        labelAt_cons_iff.mp removedLeaf
      have field := lookup_differenceLoop (canonical_object_iff.mp canonical).1
        looped key
      rw [field?_object] at foundValue foundChild
      rw [foundValue] at field
      rcases source_of_lookup_difference field with
        ⟨_, notRemoved⟩ | ⟨current, other', _, foundOther, below, _, _⟩
      · rw [foundChild] at notRemoved
        cases notRemoved
      · rw [foundChild] at foundOther
        cases foundOther
        exact ih (canonical_of_lookup canonical foundChild)
          below marked childMarked

theorem leaf_kept {whole part rest : JSONValue} (canonical : part.Canonical)
    (succeeded : fieldDifference whole part = .ok rest) {key : String}
    {path : List String} {held : JSONValue}
    (leaf : labelAt whole (key :: path) = some (.leaf held))
    (absent : labelAt part (key :: path) = none) :
    labelAt rest (key :: path) = some (.leaf held) := by
  induction path generalizing key whole part rest with
  | nil =>
      obtain ⟨fields, removed, result, rfl, rfl, rfl, looped⟩ :=
        objects_of_fieldDifference succeeded
      have field := lookup_differenceLoop (canonical_object_iff.mp canonical).1
        looped key
      cases foundChild : removed.lookup key with
      | none =>
          rw [foundChild] at field
          rw [labelAt_object, field.kept]
          exact leaf
      | some child =>
          rw [labelAt_object, foundChild] at absent
          cases absent
  | cons next path ih =>
      obtain ⟨fields, removed, result, rfl, rfl, rfl, looped⟩ :=
        objects_of_fieldDifference succeeded
      have field := lookup_differenceLoop (canonical_object_iff.mp canonical).1
        looped key
      cases foundChild : removed.lookup key with
      | none =>
          rw [foundChild] at field
          rw [labelAt_object, field.kept]
          exact leaf
      | some child =>
          obtain ⟨current, found, marked⟩ := labelAt_cons_iff.mp leaf
          rw [field?_object] at found
          rw [found, foundChild] at field
          obtain ⟨value, empty, _, _, below, outcome⟩ := field.met
          rw [labelAt_object, foundChild] at absent
          have inner := ih (canonical_of_lookup canonical foundChild) below
            marked absent
          refine labelAt_cons_iff.mpr ⟨value, ?_, inner⟩
          have nonempty : value.isEmpty? ≠ some true := by
            rw [isEmpty?_of_labelAt inner]
            exact nofun
          rw [field?_object, outcome, remainingValue, if_neg nonempty]

theorem compatible_of_fieldDifference (part : JSONValue) :
    ∀ whole rest, part.Canonical → fieldDifference whole part = .ok rest →
      Compatible whole part := by
  induction part using memberInduction with
  | _ part ih =>
      intro whole rest canonical succeeded
      obtain ⟨fields, removed, result, rfl, rfl, rfl, looped⟩ :=
        objects_of_fieldDifference succeeded
      refine Compatible.of_members fun key current child found foundChild => ?_
      have field := lookup_differenceLoop (canonical_object_iff.mp canonical).1
        looped key
      rw [field?_object] at found foundChild
      rw [found, foundChild] at field
      obtain ⟨value, empty, currentKind, childKind, below, _⟩ := field.met
      exact ⟨⟨empty, currentKind, childKind⟩, ih key child foundChild current
        value (canonical_of_lookup canonical foundChild) below⟩

theorem differenceLoop_succeeds (sorted : Sorted removed)
    (members : ∀ key current child, fields.lookup key = some current →
      removed.lookup key = some child →
      (∃ empty, current.isEmpty? = some empty ∧
        child.isEmpty? = some empty) ∧
        ∃ value, fieldDifference current child = .ok value) :
    ∃ result, differenceLoop fields removed = .ok result := by
  induction removed generalizing fields with
  | nil => exact ⟨fields, by rw [differenceLoop]⟩
  | cons field rest ih =>
      obtain ⟨first, child⟩ := field
      have parts := sorted_cons.mp sorted
      have later : ∀ key child', rest.lookup key = some child' →
          key ≠ first ∧
            ((first, child) :: rest).lookup key = some child' := by
        intro key child' found
        have different : key ≠ first :=
          ne_of_gt (parts.1 _ (mem_of_lookup found))
        exact ⟨different, by rw [lookup_cons, if_neg different, found]⟩
      rw [differenceLoop]
      cases found : fields.lookup first with
      | none =>
          refine ih parts.2 fun key current child' held foundChild => ?_
          exact members key current child' held (later key child' foundChild).2
      | some current =>
          obtain ⟨⟨empty, currentKind, childKind⟩, value, below⟩ :=
            members first current child found (by rw [lookup_cons, if_pos rfl])
          have continued : ∃ result, differenceLoop
              (settleKey first (remainingValue value) fields) rest =
                .ok result := by
            refine ih parts.2 fun key current child' held foundChild => ?_
            obtain ⟨different, listed⟩ := later key child' foundChild
            rw [lookup_settleKey, if_neg different] at held
            exact members key current child' held listed
          simp only [currentKind, childKind, ne_eq, not_true, if_false, below,
            bind, Except.bind]
          rw [remainingValue] at continued
          by_cases isEmpty : value.isEmpty? = some true
          · rw [if_pos isEmpty] at continued ⊢
            exact continued
          · rw [if_neg isEmpty] at continued ⊢
            exact continued

theorem fieldDifference_succeeds (part : JSONValue) :
    ∀ whole, part.Canonical → whole.isObject = true →
      part.isObject = true → Compatible whole part →
      ∃ rest, fieldDifference whole part = .ok rest := by
  induction part using memberInduction with
  | _ part ih =>
      intro whole canonical wholeObject partObject compatible
      cases whole with
      | object fields =>
          cases part with
          | object removed =>
              obtain ⟨result, looped⟩ : ∃ result,
                  differenceLoop fields removed = .ok result := by
                refine differenceLoop_succeeds
                  (canonical_object_iff.mp canonical).1
                  fun key current child found foundChild => ?_
                obtain ⟨⟨empty, currentKind, childKind⟩, inner⟩ :=
                  compatible.member found foundChild
                obtain ⟨currentFields, rfl⟩ :=
                  eq_object_of_isEmpty? currentKind
                obtain ⟨childFields, rfl⟩ := eq_object_of_isEmpty? childKind
                exact ⟨⟨empty, currentKind, childKind⟩,
                  ih key _ foundChild _
                    (canonical_of_lookup canonical foundChild) rfl rfl inner⟩
              refine ⟨.object result, ?_⟩
              rw [fieldDifference, looped]
              rfl
          | _ => cases partObject
      | _ => cases wholeObject

end ManagedFields

end Vzctl
