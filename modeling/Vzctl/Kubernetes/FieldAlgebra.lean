import Mathlib.Data.Set.Basic
import Vzctl.Kubernetes.FieldDifference
import Vzctl.Kubernetes.FieldIntersection
import Vzctl.Kubernetes.FieldMerge

/-!
# The algebra of field sets

The leaves of field sets are sets of paths, and merging, intersection and
difference are the operations on these sets.
-/

namespace Vzctl

namespace ManagedFields

open JSONValue KeyedList

/-- Objects in objects; a leaf is an object without fields. -/
structure FieldSet extends Document where
  isObject : value.isObject = true
  tree : ∀ key path mark, labelAt value (key :: path) = some mark →
    mark = .node ∨ mark = .leaf noFields

/-- The leaves below the root. -/
def leaves (value : JSONValue) : Set (List String) :=
  {place | place ≠ [] ∧ labelAt value place = some (.leaf noFields)}

/-- A leaf of the one is an inner node of the other. -/
def Conflict (left right : JSONValue) : Prop :=
  ∃ place, (place ∈ leaves left ∧ labelAt right place = some .node) ∨
    (place ∈ leaves right ∧ labelAt left place = some .node)

/-- Two objects whose common fields are of one kind: both have fields, or both
are objects without. -/
def Agreeing (left right : JSONValue) : Prop :=
  left.isObject = true ∧ right.isObject = true ∧ Compatible left right

/-! ## Success -/

theorem fieldIntersection_succeeds_iff (left right : Document) :
    (∃ common, fieldIntersection left.value right.value = .ok common) ↔
      Agreeing left.value right.value := by
  constructor
  · rintro ⟨common, succeeded⟩
    have compatible := compatible_of_fieldIntersection _ _ _ left.canonical
      succeeded
    obtain ⟨_, _, _, one, other, _⟩ := objects_of_fieldIntersection succeeded
    exact ⟨by rw [one]; rfl, by rw [other]; rfl, compatible⟩
  · rintro ⟨one, other, compatible⟩
    exact fieldIntersection_succeeds _ _ left.canonical one other compatible

theorem fieldDifference_succeeds_iff (left right : Document) :
    (∃ rest, fieldDifference left.value right.value = .ok rest) ↔
      Agreeing left.value right.value := by
  constructor
  · rintro ⟨rest, succeeded⟩
    have compatible := compatible_of_fieldDifference _ _ _ right.canonical
      succeeded
    obtain ⟨_, _, _, one, other, _⟩ := objects_of_fieldDifference succeeded
    exact ⟨by rw [one]; rfl, by rw [other]; rfl, compatible⟩
  · rintro ⟨one, other, compatible⟩
    exact fieldDifference_succeeds _ _ right.canonical one other compatible

theorem mergeFields_succeeds_iff (left right : Document) :
    (∃ merged, mergeFields left.value right.value = .ok merged) ↔
      Agreeing left.value right.value := by
  constructor
  · rintro ⟨merged, succeeded⟩
    have compatible := compatible_of_mergeFields _ _ _ right.canonical
      succeeded
    obtain ⟨_, _, _, one, other, _⟩ := objects_of_mergeFields succeeded
    exact ⟨by rw [one]; rfl, by rw [other]; rfl, compatible⟩
  · rintro ⟨one, other, compatible⟩
    exact mergeFields_succeeds _ _ right.canonical one other compatible

theorem agreeing_iff (left right : FieldSet) :
    Agreeing left.value right.value ↔ ¬ Conflict left.value right.value := by
  constructor
  · rintro ⟨_, _, compatible⟩ ⟨place, conflict⟩
    cases place with
    | nil =>
        rcases conflict with ⟨⟨impossible, _⟩, _⟩ | ⟨⟨impossible, _⟩, _⟩
        · exact impossible rfl
        · exact impossible rfl
    | cons key path =>
        rcases conflict with ⟨⟨_, leaf⟩, node⟩ | ⟨⟨_, leaf⟩, node⟩
        · cases (compatible key path _ _ leaf node).1
        · cases (compatible key path _ _ node leaf).1
  · intro free
    refine ⟨left.isObject, right.isObject, ?_⟩
    intro key path mark other found foundOther
    rcases left.tree key path mark found with rfl | rfl
    · rcases right.tree key path other foundOther with rfl | rfl
      · exact ⟨rfl, .inl rfl⟩
      · exact absurd ⟨key :: path, .inr ⟨⟨nofun, foundOther⟩, found⟩⟩ free
    · rcases right.tree key path other foundOther with rfl | rfl
      · exact absurd ⟨key :: path, .inl ⟨⟨nofun, found⟩, foundOther⟩⟩ free
      · exact ⟨rfl, .inr rfl⟩

/-! ## Leaves -/

section Leaves

variable {left right common rest merged : JSONValue}

theorem leaves_fieldIntersection (canonical : left.Canonical)
    (succeeded : fieldIntersection left right = .ok common) :
    leaves common = leaves left ∩ leaves right := by
  obtain ⟨inLeft, inRight⟩ :=
    within_of_fieldIntersection _ _ _ canonical succeeded
  ext place
  cases place with
  | nil => simp [leaves]
  | cons key path =>
      constructor
      · rintro ⟨_, leaf⟩
        exact ⟨⟨nofun, inLeft key path _ leaf⟩,
          ⟨nofun, inRight key path _ leaf⟩⟩
      · rintro ⟨⟨_, leaf⟩, ⟨_, otherLeaf⟩⟩
        exact ⟨nofun, leaf_of_fieldIntersection canonical succeeded leaf
          otherLeaf⟩

theorem labelAt_eq_none (compatible : Compatible left right) {key : String}
    {path : List String} {held : JSONValue}
    (leaf : labelAt left (key :: path) = some (.leaf held))
    (other : labelAt right (key :: path) ≠ some (.leaf noFields)) :
    labelAt right (key :: path) = none := by
  cases found : labelAt right (key :: path) with
  | none => rfl
  | some mark =>
      obtain ⟨rfl, isNode | isMarker⟩ := compatible key path _ _ leaf found
      · cases isNode
      · exact absurd (found.trans (congrArg some isMarker)) other

theorem leaves_fieldDifference (canonical : right.Canonical)
    (succeeded : fieldDifference left right = .ok rest) :
    leaves rest = leaves left \ leaves right := by
  have compatible := compatible_of_fieldDifference _ _ _ canonical succeeded
  have within := within_of_fieldDifference _ _ _ canonical succeeded
  ext place
  cases place with
  | nil => simp [leaves]
  | cons key path =>
      constructor
      · rintro ⟨_, leaf⟩
        refine ⟨⟨nofun, within key path _ leaf⟩, ?_⟩
        rintro ⟨_, removed⟩
        exact leaf_not_removed canonical succeeded leaf _ removed
      · rintro ⟨⟨_, leaf⟩, absent⟩
        have other : labelAt right (key :: path) ≠ some (.leaf noFields) :=
          fun removed => absent ⟨nofun, removed⟩
        exact ⟨nofun, leaf_kept canonical succeeded leaf
          (labelAt_eq_none compatible leaf other)⟩

theorem leaves_mergeFields (canonical : right.Canonical)
    (succeeded : mergeFields left right = .ok merged) :
    leaves merged = leaves left ∪ leaves right := by
  have compatible := compatible_of_mergeFields _ _ _ canonical succeeded
  ext place
  cases place with
  | nil => simp [leaves]
  | cons key path =>
      have label := labelAt_mergeFields canonical succeeded key path
      constructor
      · rintro ⟨_, leaf⟩
        rw [label, Option.or_eq_some_iff] at leaf
        rcases leaf with leaf | ⟨_, leaf⟩
        · exact .inl ⟨nofun, leaf⟩
        · exact .inr ⟨nofun, leaf⟩
      · rintro (⟨_, leaf⟩ | ⟨_, leaf⟩)
        · exact ⟨nofun, by rw [label, leaf]; rfl⟩
        · refine ⟨nofun, ?_⟩
          rw [label]
          cases found : labelAt left (key :: path) with
          | none => exact leaf
          | some mark =>
              rw [(compatible key path _ _ found leaf).1]
              rfl

end Leaves

/-! ## Putting the parts together -/

theorem labelAt_of_append {value : JSONValue} {path more : List String}
    {mark : Label} (found : labelAt value (path ++ more) = some mark) :
    ∃ above, labelAt value path = some above := by
  induction path generalizing value with
  | nil => exact ⟨_, rfl⟩
  | cons key path ih =>
      obtain ⟨member, foundMember, below⟩ := labelAt_cons_iff.mp found
      obtain ⟨above, marked⟩ := ih below
      exact ⟨above, labelAt_cons_iff.mpr ⟨member, foundMember, marked⟩⟩

theorem exists_leaf_below {value : JSONValue} {path : List String}
    (node : labelAt value path = some .node) :
    ∃ more held, labelAt value (path ++ more) = some (.leaf held) := by
  induction path generalizing value with
  | nil =>
      obtain ⟨key, more, held, leaf⟩ :=
        exists_leaf value (label_eq_node_iff.mp (Option.some.inj node))
      exact ⟨key :: more, held, leaf⟩
  | cons key path ih =>
      obtain ⟨member, foundMember, below⟩ := labelAt_cons_iff.mp node
      obtain ⟨more, held, leaf⟩ := ih below
      exact ⟨more, held, labelAt_cons_iff.mpr ⟨member, foundMember, leaf⟩⟩

theorem eq_of_labelAt (one : JSONValue) : ∀ other : JSONValue,
    one.Canonical → other.Canonical → one.isObject = true →
    other.isObject = true →
    (∀ key path, labelAt one (key :: path) = labelAt other (key :: path)) →
    one = other := by
  induction one using memberInduction with
  | _ one ih =>
      intro other canonical otherCanonical oneObject otherObject same
      cases one with
      | object fields =>
          cases other with
          | object others =>
              refine congrArg object (eq_of_lookup
                (canonical_object_iff.mp canonical).1
                (canonical_object_iff.mp otherCanonical).1 fun key => ?_)
              have here := same key []
              rw [labelAt_object, labelAt_object] at here
              cases found : fields.lookup key with
              | none =>
                  cases foundOther : others.lookup key with
                  | none => rfl
                  | some member =>
                      rw [found, foundOther] at here
                      cases here
              | some child =>
                  cases foundOther : others.lookup key with
                  | none =>
                      rw [found, foundOther] at here
                      cases here
                  | some member =>
                      rw [found, foundOther] at here
                      have labels : label child = label member :=
                        Option.some.inj here
                      refine congrArg some ?_
                      cases marked : label child with
                      | leaf held =>
                          rw [eq_of_label_leaf marked,
                            eq_of_label_leaf (labels.symm.trans marked)]
                      | node =>
                          have childKind := label_eq_node_iff.mp marked
                          have memberKind :=
                            label_eq_node_iff.mp (labels.symm.trans marked)
                          obtain ⟨_, childIs⟩ := eq_object_of_isEmpty? childKind
                          obtain ⟨_, memberIs⟩ :=
                            eq_object_of_isEmpty? memberKind
                          refine ih key child found member
                            (canonical_of_lookup canonical found)
                            (canonical_of_lookup otherCanonical foundOther)
                            (by rw [childIs]; rfl) (by rw [memberIs]; rfl)
                            fun next path => ?_
                          have below := same key (next :: path)
                          rw [labelAt_object, labelAt_object, found,
                            foundOther] at below
                          exact below
          | _ => cases otherObject
      | _ => cases oneObject

section Parts

variable {left right common rest : JSONValue}

theorem leaf_in_parts (leftCanonical : left.Canonical)
    (rightCanonical : right.Canonical)
    (intersected : fieldIntersection left right = .ok common)
    (subtracted : fieldDifference left right = .ok rest) {key : String}
    {path : List String} {held : JSONValue}
    (leaf : labelAt left (key :: path) = some (.leaf held)) :
    labelAt common (key :: path) = some (.leaf held) ∨
      labelAt rest (key :: path) = some (.leaf held) := by
  have compatible :=
    compatible_of_fieldDifference _ _ _ rightCanonical subtracted
  by_cases other : labelAt right (key :: path) = some (.leaf noFields)
  · have same := (compatible key path _ _ leaf other).1
    rw [same] at leaf ⊢
    exact .inl (leaf_of_fieldIntersection leftCanonical intersected leaf other)
  · exact .inr (leaf_kept rightCanonical subtracted leaf
      (labelAt_eq_none compatible leaf other))

theorem labelAt_parts (leftCanonical : left.Canonical)
    (rightCanonical : right.Canonical)
    (intersected : fieldIntersection left right = .ok common)
    (subtracted : fieldDifference left right = .ok rest) (key : String)
    (path : List String) :
    (labelAt common (key :: path)).or (labelAt rest (key :: path)) =
      labelAt left (key :: path) := by
  have inLeft := (within_of_fieldIntersection _ _ _ leftCanonical
    intersected).1
  have within := within_of_fieldDifference _ _ _ rightCanonical subtracted
  cases inCommon : labelAt common (key :: path) with
  | some mark => exact (inLeft key path mark inCommon).symm
  | none =>
      cases inRest : labelAt rest (key :: path) with
      | some mark => exact (within key path mark inRest).symm
      | none =>
          cases found : labelAt left (key :: path) with
          | none => rfl
          | some mark =>
              -- a leaf at the place or below it is in one of the parts
              obtain ⟨more, held, leaf⟩ : ∃ more held,
                  labelAt left (key :: path ++ more) =
                    some (.leaf held) := by
                cases mark with
                | node => exact exists_leaf_below found
                | leaf held => exact ⟨[], held, by rw [List.append_nil, found]⟩
              rcases leaf_in_parts leftCanonical rightCanonical intersected
                subtracted leaf with inside | inside
              · obtain ⟨above, marked⟩ :
                    ∃ above, labelAt common (key :: path) = some above :=
                  labelAt_of_append inside
                rw [inCommon] at marked
                cases marked
              · obtain ⟨above, marked⟩ :
                    ∃ above, labelAt rest (key :: path) = some above :=
                  labelAt_of_append inside
                rw [inRest] at marked
                cases marked

theorem mergeFields_parts (leftCanonical : left.Canonical)
    (rightCanonical : right.Canonical)
    (intersected : fieldIntersection left right = .ok common)
    (subtracted : fieldDifference left right = .ok rest) :
    mergeFields common rest = .ok left := by
  have commonCanonical :=
    canonical_fieldIntersection _ _ _ leftCanonical intersected
  have restCanonical :=
    canonical_fieldDifference _ _ _ leftCanonical rightCanonical subtracted
  have compatible : Compatible common rest :=
    (compatible_of_fieldDifference _ _ _ rightCanonical subtracted).symm.mono
      (within_of_fieldIntersection _ _ _ leftCanonical intersected).2
      (within_of_fieldDifference _ _ _ rightCanonical subtracted)
  obtain ⟨_, _, _, leftIs, _, commonIs, _⟩ :=
    objects_of_fieldIntersection intersected
  obtain ⟨_, _, _, _, _, restIs, _⟩ := objects_of_fieldDifference subtracted
  obtain ⟨merged, succeeded⟩ := mergeFields_succeeds rest common restCanonical
    (by rw [commonIs]; rfl) (by rw [restIs]; rfl) compatible
  obtain ⟨_, _, _, _, _, mergedIs, _⟩ := objects_of_mergeFields succeeded
  rw [succeeded]
  refine congrArg Except.ok (eq_of_labelAt merged left
    (canonical_mergeFields _ _ _ commonCanonical restCanonical succeeded)
    leftCanonical (by rw [mergedIs]; rfl) (by rw [leftIs]; rfl)
    fun key path => ?_)
  rw [labelAt_mergeFields restCanonical succeeded]
  exact labelAt_parts leftCanonical rightCanonical intersected subtracted key
    path

end Parts

/-! ## All three operations -/

/-- What the results of the three operations are for two field sets. -/
structure Algebra (left right common rest merged : JSONValue) : Prop where
  intersection : leaves common = leaves left ∩ leaves right
  difference : leaves rest = leaves left \ leaves right
  union : leaves merged = leaves left ∪ leaves right
  /-- Nothing becomes a leaf that had fields, or gets fields. -/
  nodes : ∀ result ∈ [common, rest, merged], ∀ key path mark,
    labelAt result (key :: path) = some mark →
      labelAt left (key :: path) = some mark ∨
        labelAt right (key :: path) = some mark
  parts : mergeFields common rest = .ok left

/-- The three operations succeed for the same values, and are the operations
on the leaves. -/
theorem field_set_algebra :
    (∀ left right : Document,
      ((∃ common, fieldIntersection left.value right.value = .ok common) ↔
        Agreeing left.value right.value) ∧
      ((∃ rest, fieldDifference left.value right.value = .ok rest) ↔
        Agreeing left.value right.value) ∧
      ((∃ merged, mergeFields left.value right.value = .ok merged) ↔
        Agreeing left.value right.value)) ∧
    ∀ left right : FieldSet,
      (Agreeing left.value right.value ↔
        ¬ Conflict left.value right.value) ∧
      ∀ common rest merged,
        fieldIntersection left.value right.value = .ok common →
        fieldDifference left.value right.value = .ok rest →
        mergeFields left.value right.value = .ok merged →
        Algebra left.value right.value common rest merged := by
  constructor
  · intro left right
    exact ⟨fieldIntersection_succeeds_iff left right,
      fieldDifference_succeeds_iff left right,
      mergeFields_succeeds_iff left right⟩
  · intro left right
    refine ⟨agreeing_iff left right, ?_⟩
    intro common rest merged intersected subtracted united
    refine ⟨leaves_fieldIntersection left.canonical intersected,
      leaves_fieldDifference right.canonical subtracted,
      leaves_mergeFields right.canonical united, ?_,
      mergeFields_parts left.canonical right.canonical intersected
        subtracted⟩
    intro result listed key path mark found
    simp only [List.mem_cons, List.not_mem_nil, or_false] at listed
    rcases listed with rfl | rfl | rfl
    · exact .inl ((within_of_fieldIntersection _ _ _ left.canonical
        intersected).1 key path mark found)
    · exact .inl (within_of_fieldDifference _ _ _ right.canonical subtracted
        key path mark found)
    · rw [labelAt_mergeFields right.canonical united,
        Option.or_eq_some_iff] at found
      exact found.imp_right And.right

end ManagedFields

end Vzctl
