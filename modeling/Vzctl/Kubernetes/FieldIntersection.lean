import Vzctl.Kubernetes.FieldPaths

/-!
# Intersections of field sets
-/

namespace Vzctl

namespace ManagedFields

open JSONValue KeyedList

variable {left right result start : Fields}

/-- What an intersection keeps of a field that both sides have. -/
def keptValue (child value : JSONValue) : Option JSONValue :=
  if child.isEmpty? = some true ∨ value.isEmpty? = some false then
    some value
  else
    none

/-- The field of an intersection. -/
inductive IntersectedAt : Option JSONValue → Option JSONValue →
    Option JSONValue → Prop
  | absent (other : Option JSONValue) : IntersectedAt none other none
  | alone (child : JSONValue) : IntersectedAt (some child) none none
  | both {child other value : JSONValue} {empty : Bool}
      (childKind : child.isEmpty? = some empty)
      (otherKind : other.isEmpty? = some empty)
      (below : fieldIntersection child other = .ok value) :
      IntersectedAt (some child) (some other) (keptValue child value)

theorem IntersectedAt.eq_none {other outcome : Option JSONValue}
    (field : IntersectedAt none other outcome) : outcome = none := by
  cases field with
  | absent => rfl

theorem IntersectedAt.met {child other : JSONValue}
    {outcome : Option JSONValue}
    (field : IntersectedAt (some child) (some other) outcome) :
    ∃ value empty, child.isEmpty? = some empty ∧
      other.isEmpty? = some empty ∧
      fieldIntersection child other = .ok value ∧
      outcome = keptValue child value := by
  cases field with
  | both childKind otherKind below =>
      exact ⟨_, _, childKind, otherKind, below, rfl⟩

@[simp]
theorem intersectionLoop_nil (right start : Fields) :
    intersectionLoop right [] start = .ok start := rfl

theorem intersectionLoop_none {key : String} {child : JSONValue}
    {rest : Fields} (missing : right.lookup key = none) :
    intersectionLoop right ((key, child) :: rest) start =
      intersectionLoop right rest start := by
  simp only [intersectionLoop, missing]

theorem intersectionLoop_both {key : String} {child other : JSONValue}
    {rest : Fields} (found : right.lookup key = some other)
    (succeeded : intersectionLoop right ((key, child) :: rest) start =
      .ok result) :
    ∃ value empty, child.isEmpty? = some empty ∧
      other.isEmpty? = some empty ∧
      fieldIntersection child other = .ok value ∧
      intersectionLoop right rest
        (match keptValue child value with
          | some kept => insertKey key kept start
          | none => start) = .ok result := by
  rw [intersectionLoop] at succeeded
  simp only [found] at succeeded
  split at succeeded
  · rename_i empty otherEmpty childKind otherKind
    split at succeeded
    · cases succeeded
    · rename_i kinds
      obtain ⟨value, below, continued⟩ :=
        Outcome.bind_eq_ok_iff.mp succeeded
      have sameKind : empty = otherEmpty := not_not.mp kinds
      refine ⟨value, empty, childKind, sameKind ▸ otherKind, below, ?_⟩
      have condition : (empty || decide (value.isEmpty? = some false)) = true ↔
          child.isEmpty? = some true ∨ value.isEmpty? = some false := by
        rw [childKind, Bool.or_eq_true, decide_eq_true_eq,
          Option.some.injEq]
      split at continued
      · rename_i keeps
        rw [keptValue, if_pos (condition.mp keeps)]
        exact continued
      · rename_i drops
        rw [keptValue, if_neg fun keeps => drops (condition.mpr keeps)]
        exact continued
  · cases succeeded

theorem lookup_intersectionLoop (sorted : Sorted left)
    (succeeded : intersectionLoop right left start = .ok result)
    (key : String) :
    ∃ outcome, IntersectedAt (left.lookup key) (right.lookup key) outcome ∧
      result.lookup key = outcome.or (start.lookup key) := by
  induction left generalizing start with
  | nil =>
      rw [intersectionLoop_nil] at succeeded
      rw [← Except.ok.inj succeeded]
      exact ⟨none, .absent _, by rw [Option.none_or]⟩
  | cons field rest ih =>
      obtain ⟨first, child⟩ := field
      have parts := sorted_cons.mp sorted
      have absent : rest.lookup first = none :=
        lookup_eq_none_of_lt parts.1
      cases found : right.lookup first with
      | none =>
          rw [intersectionLoop_none found] at succeeded
          obtain ⟨outcome, field, looked⟩ :=
            ih parts.2 succeeded
          rw [lookup_cons]
          split
          · rename_i same
            subst same
            rw [absent] at field
            rw [field.eq_none] at looked
            rw [found]
            exact ⟨none, .alone child, looked⟩
          · exact ⟨outcome, field, looked⟩
      | some other =>
          obtain ⟨value, empty, childKind, otherKind, below, continued⟩ :=
            intersectionLoop_both found succeeded
          obtain ⟨outcome, field, looked⟩ :=
            ih parts.2 continued
          rw [lookup_cons]
          split
          · rename_i same
            subst same
            rw [absent] at field
            rw [field.eq_none, Option.none_or] at looked
            rw [found]
            refine ⟨_, .both childKind otherKind below, ?_⟩
            rw [looked]
            cases keptValue child value with
            | none => rfl
            | some kept => exact lookup_insertKey_self key kept start
          · rename_i different
            refine ⟨outcome, field, looked.trans ?_⟩
            cases keptValue child value with
            | none => rfl
            | some kept =>
                exact congrArg _ (lookup_insertKey_ne kept start different)

theorem objects_of_fieldIntersection {one other common : JSONValue}
    (succeeded : fieldIntersection one other = .ok common) :
    ∃ left right result, one = .object left ∧ other = .object right ∧
      common = .object result ∧
      intersectionLoop right left [] = .ok result := by
  unfold fieldIntersection at succeeded
  split at succeeded
  · rename_i left right
    obtain ⟨result, looped, same⟩ := Outcome.map_eq_ok_iff.mp succeeded
    exact ⟨left, right, result, rfl, rfl, same.symm, looped⟩
  · cases succeeded

theorem lookup_fieldIntersection (canonical : (object left).Canonical)
    (succeeded : intersectionLoop right left [] = .ok result)
    (key : String) :
    IntersectedAt (left.lookup key) (right.lookup key)
      (result.lookup key) := by
  obtain ⟨outcome, field, looked⟩ := lookup_intersectionLoop
    (canonical_object_iff.mp canonical).1 succeeded key
  rw [looked, List.lookup_nil, Option.or_none]
  exact field

theorem sources_of_lookup_intersection {key : String} {value : JSONValue}
    (field : IntersectedAt (left.lookup key) (right.lookup key)
      (some value)) :
    ∃ child other empty, left.lookup key = some child ∧
      right.lookup key = some other ∧ child.isEmpty? = some empty ∧
      other.isEmpty? = some empty ∧
      fieldIntersection child other = .ok value ∧
      (empty = true ∨ value.isEmpty? = some false) := by
  cases foundChild : left.lookup key with
  | none =>
      rw [foundChild] at field
      cases field.eq_none
  | some child =>
      cases foundOther : right.lookup key with
      | none =>
          rw [foundChild, foundOther] at field
          cases field
      | some other =>
          rw [foundChild, foundOther] at field
          obtain ⟨inner, empty, childKind, otherKind, below, kept⟩ := field.met
          unfold keptValue at kept
          split at kept
          · rename_i keeps
            rw [Option.some.inj kept]
            refine ⟨child, other, empty, rfl, rfl, childKind, otherKind,
              below, ?_⟩
            rcases keeps with isEmpty | nonempty
            · rw [childKind] at isEmpty
              exact .inl (Option.some.inj isEmpty)
            · exact .inr nonempty
          · cases kept

theorem fieldIntersection_noFields {common : JSONValue}
    (succeeded : fieldIntersection noFields noFields = .ok common) :
    common = noFields := by
  rw [noFields, fieldIntersection, intersectionLoop] at succeeded
  exact (Except.ok.inj succeeded).symm

theorem label_of_kept {child other value : JSONValue} {empty : Bool}
    (childKind : child.isEmpty? = some empty)
    (otherKind : other.isEmpty? = some empty)
    (below : fieldIntersection child other = .ok value)
    (kept : empty = true ∨ value.isEmpty? = some false) :
    label value = label child ∧ label value = label other := by
  have same := label_of_isEmpty? childKind otherKind
  rw [← same, and_self]
  cases empty with
  | false =>
      rcases kept with impossible | nonempty
      · cases impossible
      · exact label_of_isEmpty? nonempty childKind
  | true =>
      rw [isEmpty?_eq_true_iff.mp childKind,
        isEmpty?_eq_true_iff.mp otherKind] at below
      rw [fieldIntersection_noFields below,
        isEmpty?_eq_true_iff.mp childKind]

theorem within_of_fieldIntersection (one : JSONValue) :
    ∀ other common, one.Canonical →
      fieldIntersection one other = .ok common →
      Within common one ∧ Within common other := by
  induction one using memberInduction with
  | _ one ih =>
      intro other common canonical succeeded
      obtain ⟨left, right, result, rfl, rfl, rfl, looped⟩ :=
        objects_of_fieldIntersection succeeded
      have sources : ∀ key value, result.lookup key = some value →
          ∃ child match', left.lookup key = some child ∧
            right.lookup key = some match' ∧
            (label value = label child ∧ label value = label match') ∧
            Within value child ∧ Within value match' := by
        intro key value foundValue
        have field := lookup_fieldIntersection canonical looped key
        rw [foundValue] at field
        obtain ⟨child, match', empty, foundChild, foundOther, childKind,
          otherKind, below, kept⟩ := sources_of_lookup_intersection field
        exact ⟨child, match', foundChild, foundOther,
          label_of_kept childKind otherKind below kept,
          ih key child foundChild match' value
            (canonical_of_lookup canonical foundChild) below⟩
      constructor
      · refine Within.of_members fun key value foundValue => ?_
        obtain ⟨child, _, foundChild, _, labels, inner, _⟩ :=
          sources key value foundValue
        exact ⟨child, foundChild, labels.1, inner⟩
      · refine Within.of_members fun key value foundValue => ?_
        obtain ⟨_, match', _, foundOther, labels, _, inner⟩ :=
          sources key value foundValue
        exact ⟨match', foundOther, labels.2, inner⟩

theorem leaf_of_fieldIntersection {one other common : JSONValue}
    (canonical : one.Canonical)
    (succeeded : fieldIntersection one other = .ok common) {key : String}
    {path : List String}
    (leaf : labelAt one (key :: path) = some (.leaf noFields))
    (otherLeaf : labelAt other (key :: path) = some (.leaf noFields)) :
    labelAt common (key :: path) = some (.leaf noFields) := by
  induction path generalizing key one other common with
  | nil =>
      obtain ⟨left, right, result, rfl, rfl, rfl, looped⟩ :=
        objects_of_fieldIntersection succeeded
      obtain ⟨child, foundChild, marked⟩ := labelAt_cons_iff.mp leaf
      obtain ⟨match', foundOther, otherMarked⟩ :=
        labelAt_cons_iff.mp otherLeaf
      have field := lookup_fieldIntersection canonical looped key
      rw [field?_object] at foundChild foundOther
      rw [foundChild, foundOther] at field
      obtain ⟨value, empty, childKind, otherKind, below, kept⟩ := field.met
      rw [labelAt, Option.some.injEq, label_eq_marker_iff] at marked
      rw [labelAt, Option.some.injEq, label_eq_marker_iff] at otherMarked
      subst marked otherMarked
      have nothing := fieldIntersection_noFields below
      subst nothing
      refine labelAt_cons_iff.mpr ⟨noFields, ?_, rfl⟩
      rw [field?_object, kept, keptValue, if_pos (.inl isEmpty?_noFields)]
  | cons next path ih =>
      obtain ⟨left, right, result, rfl, rfl, rfl, looped⟩ :=
        objects_of_fieldIntersection succeeded
      obtain ⟨child, foundChild, marked⟩ := labelAt_cons_iff.mp leaf
      obtain ⟨match', foundOther, otherMarked⟩ :=
        labelAt_cons_iff.mp otherLeaf
      have field := lookup_fieldIntersection canonical looped key
      rw [field?_object] at foundChild foundOther
      rw [foundChild, foundOther] at field
      obtain ⟨value, empty, _, _, below, kept⟩ := field.met
      have inner := ih
        (canonical_of_lookup canonical foundChild) below marked otherMarked
      refine labelAt_cons_iff.mpr ⟨value, ?_, inner⟩
      have nonempty := isEmpty?_of_labelAt inner
      rw [field?_object, kept, keptValue, if_pos (.inr nonempty)]

theorem canonical_intersectionLoop (canonical : (object start).Canonical)
    (below : ∀ field ∈ left, ∀ other value,
      fieldIntersection field.2 other = .ok value → value.Canonical)
    (succeeded : intersectionLoop right left start = .ok result) :
    (object result).Canonical := by
  induction left generalizing start with
  | nil =>
      rw [intersectionLoop_nil] at succeeded
      rw [← Except.ok.inj succeeded]
      exact canonical
  | cons field rest ih =>
      obtain ⟨key, child⟩ := field
      have restBelow := fun field member =>
        below field (List.mem_cons_of_mem _ member)
      cases found : right.lookup key with
      | none =>
          rw [intersectionLoop_none found] at succeeded
          exact ih canonical restBelow succeeded
      | some other =>
          obtain ⟨value, empty, _, _, inner, continued⟩ :=
            intersectionLoop_both found succeeded
          have valueCanonical := below (key, child) List.mem_cons_self
            other value inner
          refine ih ?_ restBelow continued
          by_cases keeps : child.isEmpty? = some true ∨
              value.isEmpty? = some false
          · rw [keptValue, if_pos keeps]
            exact canonical_insertKey canonical valueCanonical
          · rw [keptValue, if_neg keeps]
            exact canonical

theorem canonical_fieldIntersection (one : JSONValue) :
    ∀ other common, one.Canonical →
      fieldIntersection one other = .ok common → common.Canonical := by
  induction one using memberInduction with
  | _ one ih =>
      intro other common canonical succeeded
      obtain ⟨left, right, result, rfl, rfl, rfl, looped⟩ :=
        objects_of_fieldIntersection succeeded
      have parts := canonical_object_iff.mp canonical
      refine canonical_intersectionLoop canonical_empty ?_ looped
      intro field member match' value below
      exact ih field.1 field.2
        (lookup_of_mem parts.1 member) match' value (parts.2 field member)
        below

theorem compatible_of_fieldIntersection (one : JSONValue) :
    ∀ other common, one.Canonical →
      fieldIntersection one other = .ok common → Compatible one other := by
  induction one using memberInduction with
  | _ one ih =>
      intro other common canonical succeeded
      obtain ⟨left, right, result, rfl, rfl, rfl, looped⟩ :=
        objects_of_fieldIntersection succeeded
      refine Compatible.of_members fun key child member found foundOther => ?_
      have field := lookup_fieldIntersection canonical looped key
      have foundChild := found
      rw [field?_object] at foundChild foundOther
      rw [foundChild, foundOther] at field
      obtain ⟨value, empty, childKind, otherKind, below, _⟩ := field.met
      exact ⟨⟨empty, childKind, otherKind⟩, ih key child found
        member value (canonical_of_lookup canonical foundChild) below⟩

theorem intersectionLoop_succeeds
    (fields : ∀ field ∈ left, ∀ other, right.lookup field.1 = some other →
      (∃ empty, field.2.isEmpty? = some empty ∧
        other.isEmpty? = some empty) ∧
        ∃ common, fieldIntersection field.2 other = .ok common) :
    ∃ result, intersectionLoop right left start = .ok result := by
  induction left generalizing start with
  | nil => exact ⟨start, intersectionLoop_nil right start⟩
  | cons field rest ih =>
      obtain ⟨key, child⟩ := field
      have others : ∀ start, ∃ result,
          intersectionLoop right rest start = .ok result := fun start =>
        ih
          fun field member => fields field (List.mem_cons_of_mem _ member)
      rw [intersectionLoop]
      cases found : right.lookup key with
      | none => exact others start
      | some other =>
          obtain ⟨⟨empty, childKind, otherKind⟩, common, below⟩ :=
            fields (key, child) List.mem_cons_self other found
          simp only [childKind, otherKind, ne_eq, not_true, if_false, below,
            bind, Except.bind]
          split
          · exact others (insertKey key common start)
          · exact others start

theorem fieldIntersection_succeeds (one : JSONValue) :
    ∀ other, one.Canonical → one.isObject = true → other.isObject = true →
      Compatible one other →
      ∃ common, fieldIntersection one other = .ok common := by
  induction one using memberInduction with
  | _ one ih =>
      intro other canonical oneObject otherObject compatible
      cases one with
      | object left =>
          cases other with
          | object right =>
              have looped : ∃ result,
                  intersectionLoop right left [] = .ok result :=
                intersectionLoop_succeeds
                fun field member match' foundOther => by
                  have found := lookup_of_mem
                    (canonical_object_iff.mp canonical).1 member
                  obtain ⟨⟨empty, childKind, otherKind⟩, inner⟩ :=
                    compatible.member found foundOther
                  obtain ⟨childFields, childIs⟩ :=
                    eq_object_of_isEmpty? childKind
                  obtain ⟨otherFields, otherIs⟩ :=
                    eq_object_of_isEmpty? otherKind
                  exact ⟨⟨empty, childKind, otherKind⟩,
                    ih field.1 _ found _
                      (canonical_of_lookup canonical found)
                      (by rw [childIs]; rfl) (by rw [otherIs]; rfl) inner⟩
              obtain ⟨result, looped⟩ := looped
              refine ⟨.object result, ?_⟩
              rw [fieldIntersection, looped]
              rfl
          | _ => cases otherObject
      | _ => cases oneObject

end ManagedFields

end Vzctl
