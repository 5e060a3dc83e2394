import Vzctl.Kubernetes.ManagedFields
import Vzctl.Lib.Outcome

/-!
# Field sets as sets of paths

What stands at the end of a path of a field set, and what merging,
intersection and difference do to it.
-/

namespace Vzctl

namespace JSONValue

theorem memberInduction {motive : JSONValue → Prop}
    (step : ∀ value, (∀ key member, value.field? key = some member →
      motive member) → motive value) (value : JSONValue) : motive value := by
  suffices bounded : ∀ bound value, sizeOf value ≤ bound → motive value from
    bounded _ value (Nat.le_refl _)
  intro bound
  induction bound with
  | zero =>
      intro value small
      cases value <;> simp at small
  | succ bound ih =>
      intro value small
      refine step value fun key member found =>
        ih member ?_
      obtain ⟨fields, rfl, lookedUp⟩ := eq_object_of_field? found
      have inside := List.sizeOf_lt_of_mem (KeyedList.mem_of_lookup lookedUp)
      simp only [Prod.mk.sizeOf_spec] at inside
      simp only [object.sizeOf_spec] at small
      omega

end JSONValue

namespace ManagedFields

open JSONValue

/-- What stands at a place: fields below it, or a value without any. -/
inductive Label where
  | node
  | leaf (value : JSONValue)

def label : JSONValue → Label
  | .object (_ :: _) => .node
  | value => .leaf value

def labelAt : JSONValue → List String → Option Label
  | value, [] => some (label value)
  | value, key :: path =>
      (value.field? key).bind fun member => labelAt member path

/-- Every place of the one is a place of the other, with the same label. -/
def Within (small big : JSONValue) : Prop :=
  ∀ key path mark, labelAt small (key :: path) = some mark →
    labelAt big (key :: path) = some mark

/-- The common places carry the same label: a field set or a marker. -/
def Compatible (left right : JSONValue) : Prop :=
  ∀ key path mark other, labelAt left (key :: path) = some mark →
    labelAt right (key :: path) = some other →
    mark = other ∧ (mark = .node ∨ mark = .leaf noFields)

/-! ## Places -/

theorem labelAt_cons (value : JSONValue) (key : String)
    (path : List String) :
    labelAt value (key :: path) =
      (value.field? key).bind fun member => labelAt member path := rfl

theorem labelAt_object (fields : Fields) (key : String)
    (path : List String) :
    labelAt (.object fields) (key :: path) =
      (fields.lookup key).bind fun member => labelAt member path := rfl

theorem labelAt_cons_iff {value : JSONValue} {key : String}
    {path : List String} {mark : Label} :
    labelAt value (key :: path) = some mark ↔
      ∃ member, value.field? key = some member ∧
        labelAt member path = some mark := by
  rw [labelAt_cons, Option.bind_eq_some_iff]

theorem labelAt_of_field? {value member : JSONValue} {key : String}
    (found : value.field? key = some member) (path : List String) :
    labelAt value (key :: path) = labelAt member path := by
  rw [labelAt_cons, found]
  rfl

theorem label_eq_node_iff {value : JSONValue} :
    label value = .node ↔ value.isEmpty? = some false := by
  cases value with
  | object fields =>
      cases fields <;> simp [label, isEmpty?, asObject?]
  | _ => simp [label, isEmpty?, asObject?]

theorem label_eq_marker_iff {value : JSONValue} :
    label value = .leaf noFields ↔ value = noFields := by
  cases value with
  | object fields =>
      cases fields <;> simp [label, noFields]
  | _ => simp [label, noFields]

theorem isEmpty?_eq_true_iff {value : JSONValue} :
    value.isEmpty? = some true ↔ value = noFields := by
  cases value with
  | object fields =>
      cases fields <;> simp [isEmpty?, asObject?, noFields]
  | _ => simp [isEmpty?, asObject?, noFields]

theorem isEmpty?_noFields : noFields.isEmpty? = some true := rfl

theorem eq_object_of_isEmpty? {value : JSONValue} {empty : Bool}
    (isObject : value.isEmpty? = some empty) :
    ∃ fields, value = .object fields := by
  cases value with
  | object fields => exact ⟨fields, rfl⟩
  | _ => cases isObject

theorem label_of_isEmpty? {value other : JSONValue} {empty : Bool}
    (left : value.isEmpty? = some empty)
    (right : other.isEmpty? = some empty) : label value = label other := by
  cases empty with
  | false =>
      rw [label_eq_node_iff.mpr left, label_eq_node_iff.mpr right]
  | true =>
      rw [isEmpty?_eq_true_iff.mp left, isEmpty?_eq_true_iff.mp right]

theorem eq_of_label_leaf {value held : JSONValue}
    (marked : label value = .leaf held) : value = held := by
  unfold label at marked
  split at marked
  · cases marked
  · exact Label.leaf.inj marked

theorem isEmpty?_of_labelAt {value : JSONValue} {key : String}
    {path : List String} {mark : Label}
    (found : labelAt value (key :: path) = some mark) :
    value.isEmpty? = some false := by
  obtain ⟨member, foundMember, _⟩ := labelAt_cons_iff.mp found
  obtain ⟨fields, rfl, lookedUp⟩ := eq_object_of_field? foundMember
  cases fields with
  | nil => cases lookedUp
  | cons => rfl

theorem exists_leaf (value : JSONValue) :
    value.isEmpty? = some false →
      ∃ key path held, labelAt value (key :: path) = some (.leaf held) := by
  induction value using memberInduction with
  | _ value ih =>
      intro nonempty
      cases value with
      | object fields =>
          cases fields with
          | nil => cases nonempty
          | cons field rest =>
              obtain ⟨key, member⟩ := field
              have found : (object ((key, member) :: rest)).field? key =
                  some member := by
                rw [field?_object, KeyedList.lookup_cons, if_pos rfl]
              cases marked : label member with
              | leaf held =>
                  refine ⟨key, [], held, ?_⟩
                  rw [labelAt_of_field? found, labelAt, marked]
              | node =>
                  obtain ⟨next, path, held, leaf⟩ :=
                    ih key member found
                      (label_eq_node_iff.mp marked)
                  refine ⟨key, next :: path, held, ?_⟩
                  rw [labelAt_of_field? found, leaf]
      | _ => cases nonempty

/-! ## Inclusion -/

namespace Within

variable {small middle big : JSONValue}

theorem refl (value : JSONValue) : Within value value :=
  fun _ _ _ found => found

theorem of_members
    (members : ∀ key child, small.field? key = some child →
      ∃ other, big.field? key = some other ∧ label child = label other ∧
        Within child other) : Within small big := by
  intro key path mark found
  obtain ⟨child, foundChild, below⟩ := labelAt_cons_iff.mp found
  obtain ⟨other, foundOther, sameLabel, inner⟩ :=
    members key child foundChild
  rw [labelAt_of_field? foundOther]
  cases path with
  | nil =>
      rw [labelAt, ← sameLabel]
      exact below
  | cons next path => exact inner next path mark below

end Within

namespace Compatible

variable {left right : JSONValue}

theorem symm (compatible : Compatible left right) :
    Compatible right left := by
  intro key path mark other found foundOther
  obtain ⟨same, kind⟩ := compatible key path other mark foundOther found
  exact ⟨same.symm, same ▸ kind⟩

theorem mono {smallLeft smallRight : JSONValue}
    (compatible : Compatible left right)
    (leftWithin : Within smallLeft left)
    (rightWithin : Within smallRight right) :
    Compatible smallLeft smallRight :=
  fun key path mark other found foundOther =>
    compatible key path mark other (leftWithin key path mark found)
      (rightWithin key path other foundOther)

theorem member (compatible : Compatible left right) {key : String}
    {child other : JSONValue} (found : left.field? key = some child)
    (foundOther : right.field? key = some other) :
    (∃ empty, child.isEmpty? = some empty ∧ other.isEmpty? = some empty) ∧
      Compatible child other := by
  constructor
  · obtain ⟨same, kind⟩ := compatible key [] (label child) (label other)
      (labelAt_of_field? found []) (labelAt_of_field? foundOther [])
    rcases kind with isNode | isMarker
    · exact ⟨false, label_eq_node_iff.mp isNode,
        label_eq_node_iff.mp (same.symm.trans isNode)⟩
    · rw [label_eq_marker_iff.mp isMarker,
        label_eq_marker_iff.mp (same.symm.trans isMarker)]
      exact ⟨true, rfl, rfl⟩
  · intro next path mark otherMark below belowOther
    exact compatible key (next :: path) mark otherMark
      (by rw [labelAt_of_field? found, below])
      (by rw [labelAt_of_field? foundOther, belowOther])

theorem of_members
    (members : ∀ key child other, left.field? key = some child →
      right.field? key = some other →
      (∃ empty, child.isEmpty? = some empty ∧
        other.isEmpty? = some empty) ∧ Compatible child other) :
    Compatible left right := by
  intro key path mark otherMark found foundOther
  obtain ⟨child, foundChild, below⟩ := labelAt_cons_iff.mp found
  obtain ⟨other, foundMember, belowOther⟩ := labelAt_cons_iff.mp foundOther
  obtain ⟨⟨empty, childKind, otherKind⟩, inner⟩ :=
    members key child other foundChild foundMember
  cases path with
  | nil =>
      have same := label_of_isEmpty? childKind otherKind
      rw [labelAt] at below belowOther
      rw [← Option.some.inj below, ← Option.some.inj belowOther]
      refine ⟨same, ?_⟩
      cases empty with
      | false => exact .inl (label_eq_node_iff.mpr childKind)
      | true =>
          exact .inr (label_eq_marker_iff.mpr
            (isEmpty?_eq_true_iff.mp childKind))
  | cons next path =>
      exact inner next path mark otherMark below belowOther

end Compatible

end ManagedFields

end Vzctl
