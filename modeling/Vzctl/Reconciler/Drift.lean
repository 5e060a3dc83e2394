import Vzctl.Reconciler.Plan

/-!
# Drift

A run plans against the recorded resources and commits its own final set.  A
difference between the two sets that had no action in the plan disappears from
the record.  `drift_kept_iff` says for which inputs that never happens.
-/

namespace Vzctl

open Std

/-! ## Differences -/

/-- The key is added, has another spec, or is removed between two sets. -/
inductive Drift (recorded committed : List Resource)
    (key : ResourceKey) : Prop where
  | added (wanted : Resource)
      (found : (byKey committed)[key]? = some wanted)
      (missing : (byKey recorded)[key]? = none)
  | changed (wanted current : Resource)
      (found : (byKey committed)[key]? = some wanted)
      (recordedFound : (byKey recorded)[key]? = some current)
      (different : wanted.spec ≠ current.spec)
  | removed (current : Resource)
      (missing : (byKey committed)[key]? = none)
      (recordedFound : (byKey recorded)[key]? = some current)

/-- What a completed run commits for its desired and recorded resources. -/
structure DriftKept (plan nextApply : Plan)
    (desired recorded committed : List Resource) : Prop where
  covered : ∀ key, Drift recorded committed key → HasAction plan key
  visible : ∀ key, Drift recorded desired key → ¬ HasAction plan key →
    HasAction nextApply key

/-- The inputs for which the plan of a mode covers what its run commits. -/
def DriftCovered (mode : Mode) (purge : Bool)
    (desired recorded : List Resource) : Prop :=
  match mode with
  | .up =>
      ∀ (key : ResourceKey) (current : Resource),
        (byKey recorded)[key]? = some current →
        ∃ wanted : Resource, (byKey desired)[key]? = some wanted ∧
          (wanted.spec = current.spec ∨
            wanted.kind = "vm" ∧ current.state = "stopped")
  | .down =>
      ∀ (key : ResourceKey) (current : Resource),
        (byKey recorded)[key]? = some current →
        ∃ wanted : Resource, (byKey desired)[key]? = some wanted ∧
          (purge = true →
            wanted.kind = "vm" ∨ wanted.spec ≠ current.spec)
  | _ => True

/-! ## The final set -/

section Final

variable {mode : Mode} {purge : Bool} {plan : Plan}

theorem finalResources_of_ne_down (notDown : mode ≠ .down) :
    finalResources mode purge plan = plan.desired := by
  simp [finalResources, notDown]

theorem finalResources_purge :
    finalResources .down true plan = [] := by
  simp [finalResources]

theorem byKey_finalResources_down (plan : Plan) (key : ResourceKey) :
    (byKey (finalResources .down false plan))[key]? =
      (byKey plan.desired)[key]?.map fun resource =>
        if resource.kind = "vm" then { resource with state := "stopped" }
        else resource := by
  have final : finalResources .down false plan =
      plan.desired.map fun resource =>
        if resource.kind = "vm" then { resource with state := "stopped" }
        else resource := by
    simp [finalResources]
  rw [final]
  refine byKey_map _ ?_ _ _
  intro resource
  split <;> rfl

theorem spec_stopped (resource : Resource) :
    (if resource.kind = "vm" then { resource with state := "stopped" }
      else resource : Resource).spec = resource.spec := by
  split <;> rfl

end Final

/-! ## Actions, difference by difference -/

section Differences

variable {κ ρ : Type} [DecidableEq κ] [DecidableEq ρ]
  {readVmConfig : String → Option (VmConfig κ ρ)}
  {mode : Mode} {desired recorded : List Resource} {key : ResourceKey}

theorem hasAction_of_added {wanted : Resource}
    (found : (byKey desired)[key]? = some wanted)
    (missing : (byKey recorded)[key]? = none) :
    HasAction (buildPlan readVmConfig mode desired recorded) key := by
  rw [hasAction_buildPlan_iff]
  refine Or.inl ⟨wanted, found, Or.inl ?_⟩
  rw [desiredAction_isSome_iff, (of_byKey found).2, missing]
  intro current impossible
  cases impossible

theorem hasAction_iff_of_found {wanted current : Resource}
    (found : (byKey desired)[key]? = some wanted)
    (recordedFound : (byKey recorded)[key]? = some current) :
    HasAction (buildPlan readVmConfig mode desired recorded) key ↔
      (current.spec ≠ wanted.spec ∧ mode ≠ .up ∨
        wanted.kind = "vm" ∧ current.state = "stopped" ∧ mode ≠ .down) ∨
      mode = .down ∧ wanted.kind = "vm" := by
  rw [hasAction_buildPlan_iff]
  simp [found, desiredAction_isSome_iff, (of_byKey found).2, recordedFound]

theorem hasAction_iff_of_removed {current : Resource}
    (missing : (byKey desired)[key]? = none)
    (recordedFound : (byKey recorded)[key]? = some current) :
    HasAction (buildPlan readVmConfig mode desired recorded) key ↔
      mode ≠ .up ∧ mode ≠ .down := by
  rw [hasAction_buildPlan_iff]
  simp [missing, recordedFound]

theorem hasAction_of_drift (notUp : mode ≠ .up) (notDown : mode ≠ .down)
    (drift : Drift recorded desired key) :
    HasAction (buildPlan readVmConfig mode desired recorded) key := by
  cases drift with
  | added wanted found missing => exact hasAction_of_added found missing
  | changed wanted current found recordedFound different =>
      exact (hasAction_iff_of_found found recordedFound).mpr <|
        Or.inl <| Or.inl ⟨different.symm, notUp⟩
  | removed current missing recordedFound =>
      exact (hasAction_iff_of_removed missing recordedFound).mpr
        ⟨notUp, notDown⟩

/-- `up` ignores a change of anything but a stopped machine, and every
removal. -/
theorem covered_up_iff :
    (∀ key, Drift recorded desired key →
      HasAction (buildPlan readVmConfig .up desired recorded) key) ↔
      DriftCovered .up false desired recorded := by
  constructor
  · intro covered key current recordedFound
    cases found : (byKey desired)[key]? with
    | none =>
        have planned := covered key (.removed current found recordedFound)
        rw [hasAction_iff_of_removed found recordedFound] at planned
        exact absurd rfl planned.1
    | some wanted =>
        refine ⟨wanted, rfl, ?_⟩
        by_cases same : wanted.spec = current.spec
        · exact Or.inl same
        · have planned := covered key
            (.changed wanted current found recordedFound same)
          rw [hasAction_iff_of_found found recordedFound] at planned
          simpa [same] using planned
  · intro condition key drift
    cases drift with
    | added wanted found missing => exact hasAction_of_added found missing
    | changed wanted current found recordedFound different =>
        obtain ⟨other, otherFound, kept⟩ :=
          condition key current recordedFound
        rw [found] at otherFound
        cases otherFound
        obtain ⟨isVM, isStopped⟩ := kept.resolve_left different
        exact (hasAction_iff_of_found found recordedFound).mpr <|
          Or.inl <| Or.inr ⟨isVM, isStopped, by decide⟩
    | removed current missing recordedFound =>
        obtain ⟨wanted, found, _⟩ := condition key current recordedFound
        rw [missing] at found
        cases found

theorem covered_down_iff :
    (∀ key, Drift recorded desired key →
      HasAction (buildPlan readVmConfig .down desired recorded) key) ↔
      DriftCovered .down false desired recorded := by
  constructor
  · intro covered key current recordedFound
    cases found : (byKey desired)[key]? with
    | none =>
        have planned := covered key (.removed current found recordedFound)
        rw [hasAction_iff_of_removed found recordedFound] at planned
        exact absurd rfl planned.2
    | some wanted =>
        exact ⟨wanted, rfl, fun impossible => nomatch impossible⟩
  · intro condition key drift
    cases drift with
    | added wanted found missing => exact hasAction_of_added found missing
    | changed wanted current found recordedFound different =>
        exact (hasAction_iff_of_found found recordedFound).mpr <|
          Or.inl <| Or.inl ⟨different.symm, by decide⟩
    | removed current missing recordedFound =>
        obtain ⟨wanted, found, _⟩ := condition key current recordedFound
        rw [missing] at found
        cases found

theorem covered_purge_iff :
    (∀ key, Drift recorded [] key →
      HasAction (buildPlan readVmConfig .down desired recorded) key) ↔
      DriftCovered .down true desired recorded := by
  have nothing : ∀ key : ResourceKey,
      (byKey ([] : List Resource))[key]? = none := by
    intro key
    exact byKey_eq_none_iff.mpr fun _ member => absurd member (by simp)
  constructor
  · intro covered key current recordedFound
    have planned := covered key (.removed current (nothing key) recordedFound)
    cases found : (byKey desired)[key]? with
    | none =>
        rw [hasAction_iff_of_removed found recordedFound] at planned
        exact absurd rfl planned.2
    | some wanted =>
        rw [hasAction_iff_of_found found recordedFound] at planned
        refine ⟨wanted, rfl, fun _ => ?_⟩
        rcases planned with (⟨different, _⟩ | ⟨_, _, notDown⟩) | ⟨_, isVM⟩
        · exact Or.inr different.symm
        · exact absurd rfl notDown
        · exact Or.inl isVM
  · intro condition key drift
    cases drift with
    | added wanted found missing =>
        rw [nothing key] at found
        cases found
    | changed wanted current found recordedFound different =>
        rw [nothing key] at found
        cases found
    | removed current missing recordedFound =>
        obtain ⟨wanted, found, covered⟩ :=
          condition key current recordedFound
        refine (hasAction_iff_of_found found recordedFound).mpr ?_
        rcases covered rfl with isVM | different
        · exact Or.inr ⟨rfl, isVM⟩
        · exact Or.inl <| Or.inl ⟨different.symm, by decide⟩

end Differences

/-! ## Differences to the final set -/

section FinalDrift

variable {κ ρ : Type} [DecidableEq κ] [DecidableEq ρ]
  {recorded : List Resource} {key : ResourceKey}

theorem drift_final_down_iff {plan : Plan} :
    Drift recorded (finalResources .down false plan) key ↔
      Drift recorded plan.desired key := by
  have final := byKey_finalResources_down plan key
  constructor
  · intro drift
    cases drift with
    | added wanted found missing =>
        rw [final] at found
        obtain ⟨original, originalFound, _⟩ := Option.map_eq_some_iff.mp found
        exact .added original originalFound missing
    | changed wanted current found recordedFound different =>
        rw [final] at found
        obtain ⟨original, originalFound, rfl⟩ :=
          Option.map_eq_some_iff.mp found
        rw [spec_stopped] at different
        exact .changed original current originalFound recordedFound different
    | removed current missing recordedFound =>
        rw [final, Option.map_eq_none_iff] at missing
        exact .removed current missing recordedFound
  · intro drift
    cases drift with
    | added wanted found missing =>
        rw [found] at final
        exact .added _ final missing
    | changed wanted current found recordedFound different =>
        rw [found] at final
        refine .changed _ current final recordedFound ?_
        rw [spec_stopped]
        exact different
    | removed current missing recordedFound =>
        refine .removed current ?_ recordedFound
        rw [final, missing]
        rfl

/-- Whatever differs from the desired set and is not new differs from the
final set. -/
theorem drift_final_of_drift {mode : Mode} {purge : Bool} {plan : Plan}
    (drift : Drift recorded plan.desired key) :
    (∃ wanted, (byKey plan.desired)[key]? = some wanted ∧
      (byKey recorded)[key]? = none) ∨
      Drift recorded (finalResources mode purge plan) key := by
  by_cases isDown : mode = .down
  · subst isDown
    cases purge with
    | false => exact Or.inr (drift_final_down_iff.mpr drift)
    | true =>
        rw [finalResources_purge]
        have nothing : (byKey ([] : List Resource))[key]? = none :=
          byKey_eq_none_iff.mpr fun _ member => absurd member (by simp)
        cases drift with
        | added wanted found missing => exact Or.inl ⟨wanted, found, missing⟩
        | changed wanted current found recordedFound different =>
            exact Or.inr (.removed current nothing recordedFound)
        | removed current missing recordedFound =>
            exact Or.inr (.removed current nothing recordedFound)
  · rw [finalResources_of_ne_down isDown]
    exact Or.inr drift

theorem covered_iff (readVmConfig : String → Option (VmConfig κ ρ))
    (mode : Mode) (purge : Bool) (desired recorded : List Resource) :
    (∀ key, Drift recorded
        (finalResources mode purge
          (buildPlan readVmConfig mode desired recorded)) key →
      HasAction (buildPlan readVmConfig mode desired recorded) key) ↔
      DriftCovered mode purge desired recorded := by
  by_cases isUp : mode = .up
  · subst isUp
    rw [finalResources_of_ne_down (by decide)]
    exact covered_up_iff
  · by_cases isDown : mode = .down
    · subst isDown
      cases purge with
      | false =>
          simp only [drift_final_down_iff]
          exact covered_down_iff
      | true =>
          rw [finalResources_purge]
          exact covered_purge_iff
    · rw [finalResources_of_ne_down isDown]
      have always : DriftCovered mode purge desired recorded := by
        cases mode <;> trivial
      exact iff_of_true (fun key drift =>
        hasAction_of_drift isUp isDown drift) always

end FinalDrift

/-! ## What `stack.finish` records -/

/-- A committed resource as the stack reads it back. -/
def asRecorded (stackID : String) (resource : Resource) : Resource :=
  { resource with labels := resource.labels.set "stack_id" stackID }

@[simp]
theorem key_asRecorded (stackID : String) (resource : Resource) :
    (asRecorded stackID resource).key = resource.key := rfl

@[simp]
theorem spec_asRecorded (stackID : String) (resource : Resource) :
    (asRecorded stackID resource).spec = resource.spec := by
  have different : "spec" ≠ "stack_id" := by decide
  exact Labels.lookup_set_of_ne resource.labels stackID different

section Commit

variable {database after : StateDatabase} {env : CallEnv}
  {id stackID holder : String} {committed : List Resource}

theorem rows_of_finishApply
    (finished : database.finishApply env id stackID holder
      (some committed) = (.ok (), after)) :
    after.resources.rows =
      (database.resources.rows.filter fun row =>
        !decide (row.stackID = some stackID)) ++
      committed.map (StateDatabase.recordedRow env stackID) := by
  obtain ⟨_, sent, cleared, recorded, done, same, clearing, recording,
    rewriting, releasing⟩ := StateDatabase.finishApply_cases finished
  cases same
  cases StateDatabase.deleteLease_cases releasing
  obtain ⟨_, rfl, _⟩ := StateDatabase.updateJournal_cases rewriting
  obtain ⟨table, rfl, rows⟩ := StateDatabase.insertResources_cases recording
  cases StateDatabase.deleteResources_cases clearing
  exact rows

theorem resourcesOf_perm_of_finishApply
    (finished : database.finishApply env id stackID holder
      (some committed) = (.ok (), after)) :
    (after.resourcesOf stackID).Perm
      (committed.map (asRecorded stackID)) := by
  unfold StateDatabase.resourcesOf
  refine (List.perm_insertionSort _ _).trans (List.Perm.of_eq ?_)
  have others : (database.resources.rows.filter fun row =>
      !decide (row.stackID = some stackID)).filter
        (fun row => decide (row.stackID = some stackID)) = [] := by
    rw [List.filter_filter, List.filter_eq_nil_iff]
    simp
  have own : (committed.map
      (StateDatabase.recordedRow env stackID)).filter
        (fun row => decide (row.stackID = some stackID)) =
      committed.map (StateDatabase.recordedRow env stackID) := by
    rw [List.filter_eq_self]
    intro row member
    obtain ⟨resource, _, rfl⟩ := List.mem_map.mp member
    simp
  rw [rows_of_finishApply finished, List.filter_append, others, own,
    List.nil_append, List.map_map]
  rfl

theorem nodup_keys_of_finishApply
    (finished : database.finishApply env id stackID holder
      (some committed) = (.ok (), after)) :
    (committed.map StackResourceRecord.key).Nodup := by
  have valid : (after.resources.rows.map ResourceRow.id).Nodup :=
    after.resources.valid
  rw [rows_of_finishApply finished, List.map_append, List.map_map] at valid
  have ids := (List.nodup_append.mp valid).2.1
  refine List.Nodup.of_map
    (fun key => stackID ++ ":" ++ key.kind ++ ":" ++ key.name) ?_
  rw [List.map_map]
  exact ids

theorem byKey_eq_some_iff {resources : List Resource} {key : ResourceKey}
    {resource : Resource}
    (nodup : (resources.map StackResourceRecord.key).Nodup) :
    (byKey resources)[key]? = some resource ↔
      resource ∈ resources ∧ resource.key = key := by
  constructor
  · exact of_byKey
  · rintro ⟨member, sameKey⟩
    cases found : (byKey resources)[key]? with
    | none =>
        exact absurd sameKey (byKey_eq_none_iff.mp found resource member)
    | some other =>
        obtain ⟨otherMember, otherKey⟩ := of_byKey found
        exact congrArg some <|
          UniqueKey.eq_of_key_eq nodup otherMember member
            (otherKey.trans sameKey.symm)

theorem byKey_resourcesOf_of_finishApply
    (finished : database.finishApply env id stackID holder
      (some committed) = (.ok (), after)) (key : ResourceKey) :
    (byKey (after.resourcesOf stackID))[key]? =
      (byKey committed)[key]?.map (asRecorded stackID) := by
  have perm := resourcesOf_perm_of_finishApply finished
  have labelledNodup : ((committed.map (asRecorded stackID)).map
      StackResourceRecord.key).Nodup := by
    rw [List.map_map]
    exact nodup_keys_of_finishApply finished
  have readNodup :
      ((after.resourcesOf stackID).map StackResourceRecord.key).Nodup :=
    (perm.map _).nodup_iff.mpr labelledNodup
  rw [← byKey_map _ (key_asRecorded stackID)]
  ext resource
  rw [byKey_eq_some_iff readNodup, byKey_eq_some_iff labelledNodup,
    perm.mem_iff]

theorem drift_resourcesOf_iff
    (finished : database.finishApply env id stackID holder
      (some committed) = (.ok (), after))
    (recorded : List Resource) (key : ResourceKey) :
    Drift recorded (after.resourcesOf stackID) key ↔
      Drift recorded committed key := by
  have readBack := byKey_resourcesOf_of_finishApply finished key
  constructor
  · intro drift
    cases drift with
    | added wanted found missing =>
        rw [readBack] at found
        obtain ⟨original, originalFound, _⟩ := Option.map_eq_some_iff.mp found
        exact .added original originalFound missing
    | changed wanted current found recordedFound different =>
        rw [readBack] at found
        obtain ⟨original, originalFound, rfl⟩ :=
          Option.map_eq_some_iff.mp found
        rw [spec_asRecorded] at different
        exact .changed original current originalFound recordedFound different
    | removed current missing recordedFound =>
        rw [readBack, Option.map_eq_none_iff] at missing
        exact .removed current missing recordedFound
  · intro drift
    cases drift with
    | added wanted found missing =>
        rw [found] at readBack
        exact .added _ readBack missing
    | changed wanted current found recordedFound different =>
        rw [found] at readBack
        refine .changed _ current readBack recordedFound ?_
        rw [spec_asRecorded]
        exact different
    | removed current missing recordedFound =>
        rw [missing] at readBack
        exact .removed current readBack recordedFound

end Commit

/-- A run that commits through `stack.finish` keeps every difference visible
exactly when the plan of its mode covers the differences. -/
theorem drift_kept_iff
    {κ ρ : Type} [DecidableEq κ] [DecidableEq ρ]
    (readVmConfig : String → Option (VmConfig κ ρ))
    (mode : Mode) (purge : Bool) (desired recorded : List Resource)
    {database after : StateDatabase} {env : CallEnv}
    {id stackID holder : String}
    (finished : database.finishApply env id stackID holder
      (some (finalResources mode purge
        (buildPlan readVmConfig mode desired recorded))) = (.ok (), after)) :
    DriftKept (buildPlan readVmConfig mode desired recorded)
        (buildPlan readVmConfig .apply desired (after.resourcesOf stackID))
        desired recorded (after.resourcesOf stackID) ↔
      DriftCovered mode purge desired recorded := by
  rw [← covered_iff readVmConfig]
  constructor
  · intro kept key drift
    exact kept.covered key <|
      (drift_resourcesOf_iff finished recorded key).mpr drift
  · intro covered
    refine ⟨?_, ?_⟩
    · intro key drift
      exact covered key <|
        (drift_resourcesOf_iff finished recorded key).mp drift
    · intro key drift unplanned
      have planned : Drift recorded
          (buildPlan readVmConfig mode desired recorded).desired key := drift
      rcases drift_final_of_drift planned with
        ⟨wanted, found, missing⟩ | final
      · exact absurd (hasAction_of_added found missing) unplanned
      · exact absurd (covered key final) unplanned

/-! ## A changed zone -/

def zone (spec : String) : Resource where
  kind := "dns"
  name := "shop.internal"
  labels := [("spec", spec)]
  state := "active"

/-- The supervisor recorded `zone "old"`, and a further run has begun. -/
def changedZone (mode : Mode) : StateDatabase :=
  [(calmEnv 1000 "a", ApplyCall.beginApply "shop" "host:1" "h"
      (beginPayload "h" "apply" false) false),
   (calmEnv 2000 "b",
    .finishApply "a" "shop" "host:1" (some [zone "old"])),
   (calmEnv 3000 "c", .beginApply "shop" "host:1" "i"
      (beginPayload "i" mode.command false) false)].foldl
    ApplyCall.after (StateDatabase.fresh 300000)

/-- No machine specification is read in these runs. -/
def noVmConfig : String → Option (VmConfig Unit Unit) := fun _ => none

def changedZonePlan (mode : Mode) : Plan :=
  buildPlan noVmConfig mode [zone "new"]
    ((changedZone mode).resourcesOf "shop")

def changedZoneFinished (mode : Mode) :
    Except ReconcileDatabaseError Unit × StateDatabase :=
  (changedZone mode).finishApply (calmEnv 4000 "d") "c" "shop" "host:1"
    (some (finalResources mode false (changedZonePlan mode)))

theorem drift_kept_of_apply :
    DriftKept (changedZonePlan .apply)
      (buildPlan noVmConfig .apply [zone "new"]
        ((changedZoneFinished .apply).2.resourcesOf "shop"))
      [zone "new"] ((changedZone .apply).resourcesOf "shop")
      ((changedZoneFinished .apply).2.resourcesOf "shop") := by
  have finished : (changedZone .apply).finishApply (calmEnv 4000 "d") "c"
      "shop" "host:1" (some (finalResources .apply false
        (buildPlan noVmConfig .apply [zone "new"]
          ((changedZone .apply).resourcesOf "shop")))) =
      (.ok (), (changedZoneFinished .apply).2) :=
    Prod.ext rfl rfl
  exact (drift_kept_iff noVmConfig .apply false [zone "new"]
    ((changedZone .apply).resourcesOf "shop") finished).mpr trivial

/-- `up` commits the new zone without an action for it, and the next apply has
none either. -/
theorem changed_zone_lost_by_up :
    (changedZoneFinished .up).1 = .ok () ∧
      Drift ((changedZone .up).resourcesOf "shop")
        ((changedZoneFinished .up).2.resourcesOf "shop")
        (zone "new").key ∧
      (changedZonePlan .up).actions = [] ∧
      (buildPlan noVmConfig .apply [zone "new"]
        ((changedZoneFinished .up).2.resourcesOf "shop")).actions = [] := by
  have recorded : (changedZone .up).resourcesOf "shop" =
      [asRecorded "shop" (zone "old")] := by
    decide
  have committed : (changedZoneFinished .up).2.resourcesOf "shop" =
      [asRecorded "shop" (zone "new")] := by
    decide
  refine ⟨rfl, ?_, ?_, ?_⟩
  · rw [recorded, committed]
    exact .changed (asRecorded "shop" (zone "new"))
      (asRecorded "shop" (zone "old")) rfl rfl (by decide)
  · rw [changedZonePlan, recorded]
    decide
  · rw [committed]
    decide

end Vzctl
