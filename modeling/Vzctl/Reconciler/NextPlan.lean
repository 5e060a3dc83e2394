import Vzctl.Reconciler.Drift

/-!
# The plan after a run

The next apply of a configuration starts what the last run stopped, creates
what it purged, and plans nothing else, whatever the runs of other stacks have
done in between.
-/

namespace Vzctl

open Std

/-- What a run leaves of a desired resource. -/
def settled (mode : Mode) (wanted : Resource) : Resource :=
  if mode = .down ∧ wanted.kind = "vm" then
    { wanted with state := "stopped" }
  else wanted

/-- What a run leaves to do for a desired resource. -/
def actionAfter (mode : Mode) (purge : Bool) (wanted : Resource) :
    Option PlanAction :=
  if mode = .down ∧ purge = true then
    some ⟨"create", wanted.kind, wanted.name, false,
      "missing from actual state"⟩
  else if wanted.kind = "vm" ∧ (settled mode wanted).state = "stopped" then
    some ⟨"start", wanted.kind, wanted.name, false, "VM is stopped"⟩
  else none

def actionsAfter (mode : Mode) (purge : Bool) (desired : List Resource) :
    List PlanAction :=
  (byKey desired).toList.filterMap fun entry => actionAfter mode purge entry.2

section Next

variable {κ ρ : Type} (readVmConfig : String → Option (VmConfig κ ρ))
  {mode : Mode} {purge : Bool} {desired recorded : List Resource}
  (stackID : String)

theorem byKey_finalResources (plan : Plan) (key : ResourceKey) :
    (byKey (finalResources mode purge plan))[key]? =
      if mode = .down ∧ purge = true then none
      else (byKey plan.desired)[key]?.map (settled mode) := by
  by_cases isDown : mode = .down
  · subst isDown
    cases purge with
    | true => simp [finalResources_purge, byKey]
    | false =>
        have same : settled .down = fun resource : Resource =>
            if resource.kind = "vm" then { resource with state := "stopped" }
            else resource := by
          funext resource
          simp [settled]
        simp [byKey_finalResources_down, same]
  · have same : settled mode = id := by
      funext wanted
      simp [settled, isDown]
    rw [finalResources_of_ne_down isDown]
    simp [same, isDown]

theorem bindingConsumerMayExist_nil (binding : Resource) :
    bindingConsumerMayExist readVmConfig binding [] = false := by
  rw [bindingConsumerMayExist]
  split <;> rfl

variable [DecidableEq κ] [DecidableEq ρ]
  (readBack : ∀ key : ResourceKey, (byKey recorded)[key]? =
    if mode = .down ∧ purge = true then none
    else (byKey desired)[key]?.map (asRecorded stackID ∘ settled mode))

include readBack

theorem desiredAction_readBack {wanted : Resource}
    (found : (byKey desired)[wanted.key]? = some wanted) :
    desiredAction readVmConfig .apply recorded wanted =
      actionAfter mode purge wanted := by
  rw [desiredAction, readBack, found, actionAfter]
  by_cases purged : mode = .down ∧ purge = true
  · have nothing : recorded = [] := by
      rw [List.eq_nil_iff_forall_not_mem]
      intro resource member
      have missing := readBack resource.key
      rw [if_pos purged] at missing
      exact byKey_eq_none_iff.mp missing resource member rfl
    simp [purged, nothing, bindingConsumerMayExist_nil]
  · have spec : (asRecorded stackID (settled mode wanted)).spec =
        wanted.spec := by
      rw [spec_asRecorded, settled]
      split <;> rfl
    have state : (asRecorded stackID (settled mode wanted)).state =
        (settled mode wanted).state := rfl
    simp [purged, spec, state]

theorem planActions_readBack :
    planActions readVmConfig .apply desired recorded =
      actionsAfter mode purge desired := by
  have planned : ((byKey desired).toList.filterMap fun entry =>
      desiredAction readVmConfig .apply recorded entry.2) =
        actionsAfter mode purge desired := by
    apply List.filterMap_congr
    intro entry member
    have found := TreeMap.mem_toList_iff_getElem?_eq_some.mp member
    have same := (of_byKey found).2
    exact desiredAction_readBack readVmConfig stackID readBack (same ▸ found)
  have kept : ((byKey recorded).toList.filter fun entry =>
      decide (¬ entry.1 ∈ byKey desired)) = [] := by
    rw [List.filter_eq_nil_iff]
    intro entry member removed
    have found := TreeMap.mem_toList_iff_getElem?_eq_some.mp member
    rw [readBack, TreeMap.getElem?_eq_none (of_decide_eq_true removed)]
      at found
    simp at found
  rw [planActions, planned, kept]
  simp

end Next

/-- A call for another stack. -/
def Foreign (stackID : String) (_ : StateDatabase)
    (label : CallEnv × ApplyCall) : Prop :=
  label.2.stackID ≠ stackID

theorem StateDatabase.resourcesOf_of_runs {stackID : String}
    {reached later : StateDatabase}
    (run : Transitions.Runs
      (Transitions.guarded (Foreign stackID) ApplyCall.step) reached later) :
    later.resourcesOf stackID = reached.resourcesOf stackID := by
  refine Transitions.invariant_of_runs (fun database =>
    database.resourcesOf stackID = reached.resourcesOf stackID) ?_ rfl run
  rintro database ⟨env, call⟩ _ kept ⟨foreign, rfl⟩
  have same := (call.perform_change database env).2.resources
  have narrower (rows : List ResourceRow) :
      rows.filter (fun row => row.stackID = some stackID) =
        (rows.filter fun row => row.stackID ≠ some call.stackID).filter
          fun row => row.stackID = some stackID := by
    rw [List.filter_filter]
    apply List.filter_congr
    intro row _
    by_cases own : row.stackID = some stackID
    · simp [own, Ne.symm foreign]
    · simp [own]
  rw [← kept, resourcesOf, narrower, ApplyCall.after, same, ← narrower]
  rfl

/-- After a run that completes, and any calls for other stacks, the actions of
the next apply are what the run left to do. -/
theorem buildPlan_of_finishApply {κ ρ : Type} [DecidableEq κ] [DecidableEq ρ]
    (readVmConfig : String → Option (VmConfig κ ρ)) (mode planMode : Mode)
    (purge : Bool) (desired actual : List Resource)
    {database reached later : StateDatabase} {env : CallEnv}
    {id stackID holder : String}
    (finished : database.finishApply env id stackID holder
      (some (finalResources mode purge
        (buildPlan readVmConfig planMode desired actual))) =
          (.ok (), reached))
    (run : Transitions.Runs
      (Transitions.guarded (Foreign stackID) ApplyCall.step) reached later) :
    (buildPlan readVmConfig .apply desired
        (later.resourcesOf stackID)).actions =
      (actionsAfter mode purge desired).insertionSort actionLE := by
  rw [StateDatabase.resourcesOf_of_runs run, buildPlan,
    planActions_readBack readVmConfig stackID]
  intro key
  rw [byKey_resourcesOf_of_finishApply finished, byKey_finalResources]
  split
  · rfl
  · rw [Option.map_map]
    rfl

theorem buildPlan_of_stoppedZone :
    (buildPlan noVmConfig .apply [zone "new"]
        ((ApplyCall.after (changedZoneFinished .down).2 (calmEnv 5000 "e",
          .abortApply "blog" "host:2")).resourcesOf "shop")).actions =
      (actionsAfter .down false [zone "new"]).insertionSort actionLE := by
  have finished : (changedZone .down).finishApply (calmEnv 4000 "d") "c"
      "shop" "host:1" (some (finalResources .down false
        (buildPlan noVmConfig .down [zone "new"]
          ((changedZone .down).resourcesOf "shop")))) =
      (.ok (), (changedZoneFinished .down).2) :=
    Prod.ext rfl rfl
  exact buildPlan_of_finishApply noVmConfig .down .down false [zone "new"]
    ((changedZone .down).resourcesOf "shop") finished
    ((Transitions.Runs.refl _).guarded_snoc (calmEnv 5000 "e",
      .abortApply "blog" "host:2") (by simp [Foreign, ApplyCall.stackID]) rfl)

end Vzctl
