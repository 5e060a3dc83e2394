import Vzctl.Kubernetes.FieldPaths

/-!
# Merging field sets

The loop is described field by field, the operation then path by path.
-/

namespace Vzctl

namespace ManagedFields

open JSONValue KeyedList

variable {target source result : Fields}

/-- What a field becomes when a field set is merged into another. -/
inductive MergedAt : Option JSONValue → Option JSONValue →
    Option JSONValue → Prop
  | keep (held : Option JSONValue) : MergedAt held none held
  | add (value : JSONValue) : MergedAt none (some value) (some value)
  | both {current value merged : JSONValue}
      (sameKind : current.isEmpty? = value.isEmpty?)
      (mergedBelow : mergeFields current value = .ok merged) :
      MergedAt (some current) (some value) (some merged)

theorem MergedAt.absent {held outcome : Option JSONValue}
    (field : MergedAt held none outcome) : outcome = held := by
  cases field with
  | keep => rfl

theorem MergedAt.added {value : JSONValue} {outcome : Option JSONValue}
    (field : MergedAt none (some value) outcome) : outcome = some value := by
  cases field with
  | add => rfl

theorem MergedAt.met {current value : JSONValue} {outcome : Option JSONValue}
    (field : MergedAt (some current) (some value) outcome) :
    current.isEmpty? = value.isEmpty? ∧
      ∃ merged, mergeFields current value = .ok merged ∧
        outcome = some merged := by
  cases field with
  | both sameKind mergedBelow => exact ⟨sameKind, _, mergedBelow, rfl⟩

theorem lookup_mergeLoop (sorted : Sorted source)
    (merged : mergeLoop target source = .ok result) (key : String) :
    MergedAt (target.lookup key) (source.lookup key) (result.lookup key) := by
  induction source generalizing target with
  | nil =>
      rw [mergeLoop] at merged
      rw [← Except.ok.inj merged]
      exact .keep _
  | cons field rest ih =>
      obtain ⟨first, value⟩ := field
      have parts := sorted_cons.mp sorted
      have absent : rest.lookup first = none :=
        lookup_eq_none_of_lt parts.1
      rw [mergeLoop] at merged
      cases held : target.lookup first with
      | none =>
          simp only [held] at merged
          have later := ih parts.2 merged
          rw [lookup_insertKey] at later
          rw [lookup_cons]
          split at later
          · rename_i same
            rw [if_pos same]
            subst same
            rw [absent] at later
            rw [held, later.absent]
            exact .add value
          · rename_i different
            rw [if_neg different]
            exact later
      | some current =>
          simp only [held] at merged
          split at merged
          · cases merged
          · rename_i kinds
            obtain ⟨inner, mergedBelow, continued⟩ :=
              Outcome.bind_eq_ok_iff.mp merged
            have later := ih parts.2 continued
            rw [lookup_insertKey] at later
            rw [lookup_cons]
            split at later
            · rename_i same
              rw [if_pos same]
              subst same
              rw [absent] at later
              rw [held, later.absent]
              exact .both (not_not.mp kinds) mergedBelow
            · rename_i different
              rw [if_neg different]
              exact later

theorem objects_of_mergeFields {into from' merged : JSONValue}
    (succeeded : mergeFields into from' = .ok merged) :
    ∃ target source result, into = .object target ∧
      from' = .object source ∧ merged = .object result ∧
      mergeLoop target source = .ok result := by
  unfold mergeFields at succeeded
  split at succeeded
  · rename_i target source
    obtain ⟨result, looped, same⟩ := Outcome.map_eq_ok_iff.mp succeeded
    exact ⟨target, source, result, rfl, rfl, same.symm, looped⟩
  · cases succeeded

theorem canonical_of_mergeLoop (targetCanonical : (object target).Canonical)
    (sourceCanonical : (object source).Canonical)
    (below : ∀ key value, source.lookup key = some value →
      ∀ current merged, current.Canonical →
        mergeFields current value = .ok merged → merged.Canonical)
    (merged : mergeLoop target source = .ok result) :
    (object result).Canonical := by
  induction source generalizing target with
  | nil =>
      rw [mergeLoop] at merged
      rw [← Except.ok.inj merged]
      exact targetCanonical
  | cons field rest ih =>
      obtain ⟨first, value⟩ := field
      have parts := canonical_object_iff.mp sourceCanonical
      have order := sorted_cons.mp parts.1
      have restCanonical : (object rest).Canonical :=
        canonical_object_iff.mpr ⟨order.2, fun field member =>
          parts.2 field (List.mem_cons_of_mem _ member)⟩
      have valueCanonical : value.Canonical := parts.2 _ List.mem_cons_self
      have restBelow : ∀ key value, rest.lookup key = some value →
          ∀ current merged, current.Canonical →
            mergeFields current value = .ok merged → merged.Canonical := by
        intro key value found
        refine below key value ?_
        rw [lookup_cons, if_neg]
        · exact found
        · have above := order.1 _ (mem_of_lookup found)
          exact ne_of_gt above
      rw [mergeLoop] at merged
      cases held : target.lookup first with
      | none =>
          simp only [held] at merged
          exact ih
            (canonical_insertKey targetCanonical valueCanonical)
            restCanonical restBelow merged
      | some current =>
          simp only [held] at merged
          split at merged
          · cases merged
          · obtain ⟨inner, mergedBelow, continued⟩ :=
              Outcome.bind_eq_ok_iff.mp merged
            have innerCanonical := below first value
              (by rw [lookup_cons, if_pos rfl]) current inner
              (canonical_of_lookup targetCanonical held) mergedBelow
            exact ih
              (canonical_insertKey targetCanonical innerCanonical)
              restCanonical restBelow continued

theorem canonical_mergeFields (from' : JSONValue) :
    ∀ into merged, into.Canonical → from'.Canonical →
      mergeFields into from' = .ok merged → merged.Canonical := by
  induction from' using memberInduction with
  | _ from' ih =>
      intro into merged intoCanonical fromCanonical succeeded
      obtain ⟨target, source, result, rfl, rfl, rfl, looped⟩ :=
        objects_of_mergeFields succeeded
      refine canonical_of_mergeLoop intoCanonical fromCanonical ?_ looped
      intro key value found current merged currentCanonical mergedBelow
      exact ih key value found current merged
        currentCanonical (canonical_of_lookup fromCanonical found) mergedBelow

theorem isEmpty?_mergeFields {current value merged : JSONValue}
    (canonical : value.Canonical)
    (sameKind : current.isEmpty? = value.isEmpty?)
    (succeeded : mergeFields current value = .ok merged) :
    ∃ empty, current.isEmpty? = some empty ∧ value.isEmpty? = some empty ∧
      merged.isEmpty? = some empty := by
  obtain ⟨target, source, result, rfl, rfl, rfl, looped⟩ :=
    objects_of_mergeFields succeeded
  cases target with
  | nil =>
      cases source with
      | nil =>
          rw [mergeLoop] at looped
          rw [← Except.ok.inj looped]
          exact ⟨true, rfl, rfl, rfl⟩
      | cons => cases sameKind
  | cons field rest =>
      obtain ⟨key, held⟩ := field
      refine ⟨false, rfl, sameKind.symm, ?_⟩
      have merged := lookup_mergeLoop (canonical_object_iff.mp canonical).1
        looped key
      rw [lookup_cons, if_pos rfl] at merged
      cases result with
      | nil =>
          generalize source.lookup key = added at merged
          cases merged
      | cons => rfl

theorem labelAt_mergeFields_step {into from' merged : JSONValue}
    (canonical : from'.Canonical)
    (succeeded : mergeFields into from' = .ok merged) (key : String)
    (path : List String)
    (below : ∀ current value inner : JSONValue, value.Canonical →
      current.isEmpty? = value.isEmpty? →
      mergeFields current value = .ok inner →
      labelAt inner path = (labelAt current path).or (labelAt value path)) :
    labelAt merged (key :: path) =
      (labelAt into (key :: path)).or (labelAt from' (key :: path)) := by
  obtain ⟨target, source, result, rfl, rfl, rfl, looped⟩ :=
    objects_of_mergeFields succeeded
  have field := lookup_mergeLoop (canonical_object_iff.mp canonical).1
    looped key
  rw [labelAt_object, labelAt_object, labelAt_object]
  cases foundValue : source.lookup key with
  | none =>
      rw [foundValue] at field
      rw [field.absent, Option.bind_none, Option.or_none]
  | some value =>
      have valueCanonical := canonical_of_lookup canonical foundValue
      cases found : target.lookup key with
      | none =>
          rw [found, foundValue] at field
          rw [field.added]
          rfl
      | some current =>
          rw [found, foundValue] at field
          obtain ⟨sameKind, inner, mergedBelow, outcome⟩ := field.met
          rw [outcome]
          exact below current value inner valueCanonical sameKind mergedBelow

theorem labelAt_mergeFields {into from' merged : JSONValue}
    (canonical : from'.Canonical)
    (succeeded : mergeFields into from' = .ok merged) (key : String)
    (path : List String) :
    labelAt merged (key :: path) =
      (labelAt into (key :: path)).or (labelAt from' (key :: path)) := by
  induction path generalizing key into from' merged with
  | nil =>
      refine labelAt_mergeFields_step canonical succeeded key [] ?_
      intro current value inner valueCanonical sameKind mergedBelow
      obtain ⟨empty, currentKind, _, innerKind⟩ :=
        isEmpty?_mergeFields valueCanonical sameKind mergedBelow
      rw [labelAt, labelAt, labelAt, Option.some_or,
        label_of_isEmpty? innerKind currentKind]
  | cons next path ih =>
      refine labelAt_mergeFields_step canonical succeeded key _ ?_
      intro current value inner valueCanonical _ mergedBelow
      exact ih valueCanonical mergedBelow next

theorem compatible_of_mergeFields (from' : JSONValue) :
    ∀ into merged, from'.Canonical → mergeFields into from' = .ok merged →
      Compatible into from' := by
  induction from' using memberInduction with
  | _ from' ih =>
      intro into merged canonical succeeded
      obtain ⟨target, source, result, rfl, rfl, rfl, looped⟩ :=
        objects_of_mergeFields succeeded
      refine Compatible.of_members fun key child other found foundOther => ?_
      have field := lookup_mergeLoop (canonical_object_iff.mp canonical).1
        looped key
      rw [field?_object] at found foundOther
      rw [found, foundOther] at field
      obtain ⟨sameKind, inner, mergedBelow, _⟩ := field.met
      have otherCanonical := canonical_of_lookup canonical foundOther
      obtain ⟨empty, childKind, otherKind, _⟩ :=
        isEmpty?_mergeFields otherCanonical sameKind mergedBelow
      exact ⟨⟨empty, childKind, otherKind⟩,
        ih key other foundOther child inner otherCanonical
          mergedBelow⟩

theorem mergeLoop_succeeds (sorted : Sorted source)
    (fields : ∀ key current value, target.lookup key = some current →
      source.lookup key = some value →
      current.isEmpty? = value.isEmpty? ∧
        ∃ merged, mergeFields current value = .ok merged) :
    ∃ result, mergeLoop target source = .ok result := by
  induction source generalizing target with
  | nil => exact ⟨target, by rw [mergeLoop]⟩
  | cons field rest ih =>
      obtain ⟨first, value⟩ := field
      have parts := sorted_cons.mp sorted
      have others : ∀ added key current value,
          (insertKey first added target).lookup key = some current →
          rest.lookup key = some value →
          current.isEmpty? = value.isEmpty? ∧
            ∃ merged, mergeFields current value = .ok merged := by
        intro added key current value found foundValue
        have different : key ≠ first :=
          ne_of_gt (parts.1 _ (mem_of_lookup foundValue))
        rw [lookup_insertKey_ne _ _ different] at found
        exact fields key current value found <| by
          rw [lookup_cons, if_neg different, foundValue]
      rw [mergeLoop]
      cases held : target.lookup first with
      | none => exact ih parts.2 (others value)
      | some current =>
          obtain ⟨sameKind, merged, mergedBelow⟩ :=
            fields first current value held
              (by rw [lookup_cons, if_pos rfl])
          obtain ⟨result, looped⟩ :=
            ih parts.2 (others merged)
          refine ⟨result, ?_⟩
          simp only [sameKind, ne_eq, not_true, if_false]
          exact Outcome.bind_eq_ok_iff.mpr ⟨merged, mergedBelow, looped⟩

theorem mergeFields_succeeds (from' : JSONValue) :
    ∀ into, from'.Canonical → into.isObject = true →
      from'.isObject = true → Compatible into from' →
      ∃ merged, mergeFields into from' = .ok merged := by
  induction from' using memberInduction with
  | _ from' ih =>
      intro into canonical intoObject fromObject compatible
      cases into with
      | object target =>
          cases from' with
          | object source =>
              have looped : ∃ result, mergeLoop target source = .ok result :=
                mergeLoop_succeeds (canonical_object_iff.mp canonical).1
                fun key current value found foundValue => by
                  obtain ⟨⟨empty, currentKind, valueKind⟩, inner⟩ :=
                    compatible.member found foundValue
                  obtain ⟨currentFields, rfl⟩ :=
                    eq_object_of_isEmpty? currentKind
                  obtain ⟨valueFields, rfl⟩ :=
                    eq_object_of_isEmpty? valueKind
                  exact ⟨currentKind.trans valueKind.symm,
                    ih key _ foundValue _
                      (canonical_of_lookup canonical foundValue) rfl rfl inner⟩
              obtain ⟨result, looped⟩ := looped
              refine ⟨.object result, ?_⟩
              rw [mergeFields, looped]
              rfl
          | _ => cases fromObject
      | _ => cases intoObject

end ManagedFields

end Vzctl
