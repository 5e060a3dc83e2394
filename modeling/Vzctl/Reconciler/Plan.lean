import Mathlib.Data.List.Induction
import Mathlib.Data.List.Sort
import Vzctl.Reconciler.Journal

/-!
# The plan of a run

`build_plan` compares the desired with the recorded resources, and a run that
completes commits resources built from the desired ones alone.  The results
below say which keys have an action in the plan, and when every difference
between the recorded and the committed resources had one.
-/

namespace Vzctl

open Std

/-! ## Resources by key -/

/-- The command line reads and sends the records of the supervisor. -/
abbrev Resource := StackResourceRecord

/-- The key of the maps in `build_plan`. -/
structure ResourceKey where
  kind : String
  name : String
  deriving DecidableEq, Repr

instance : Ord ResourceKey :=
  ⟨compareLex (compareOn ResourceKey.kind) (compareOn ResourceKey.name)⟩

instance : TransOrd ResourceKey :=
  inferInstanceAs <| TransCmp <|
    compareLex (compareOn ResourceKey.kind) (compareOn ResourceKey.name)

instance : LawfulEqOrd ResourceKey where
  eq_of_compare {left right} same := by
    have both : (compare left.kind right.kind).then
        (compare left.name right.name) = .eq := same
    rw [Ordering.then_eq_eq] at both
    obtain ⟨sameKind, sameName⟩ := both
    cases left
    cases right
    simp_all

namespace StackResourceRecord

def key (resource : Resource) : ResourceKey :=
  ⟨resource.kind, resource.name⟩

def label (resource : Resource) (name : String) : Option String :=
  resource.labels.lookup name

def spec (resource : Resource) : Option String :=
  resource.label "spec"

end StackResourceRecord

/-- Collected into a `BTreeMap`, where the last of two equal keys wins. -/
def byKey (resources : List Resource) : TreeMap ResourceKey Resource :=
  resources.foldl (fun map resource => map.insert resource.key resource) ∅

/-! ## Virtual machine specifications -/

/-- What the plan reads of a `VmConfig`; `rest` is everything else. -/
structure VmConfig (κ ρ : Type) where
  containers : TreeMap String κ
  composeFiles : List String
  rest : ρ

/-- `split_once` at a character. -/
def splitOnce (separator : Char) (text : String) :
    Option (String × String) :=
  match text.toList.span (· ≠ separator) with
  | (_, []) => none
  | (before, _ :: after) => some (String.ofList before, String.ofList after)

structure PlanAction where
  action : String
  kind : String
  name : String
  breaking : Bool
  reason : String
  deriving DecidableEq, Repr

def PlanAction.key (action : PlanAction) : ResourceKey :=
  ⟨action.kind, action.name⟩

structure Plan where
  actions : List PlanAction
  desired : List Resource

section BuildPlan

variable {κ ρ : Type} [DecidableEq κ] [DecidableEq ρ]
  (readVmConfig : String → Option (VmConfig κ ρ))

def onlyNewContainersAdded (current wanted : Resource) : Bool :=
  match current.spec.bind readVmConfig, wanted.spec.bind readVmConfig with
  | some before, some after =>
      if after.containers.size ≤ before.containers.size ∨
          ¬ before.containers.toList.all fun entry =>
            after.containers[entry.1]? = some entry.2 then
        false
      else
        before.composeFiles = after.composeFiles ∧ before.rest = after.rest
  | _, _ => false

def bindingConsumerMayExist (binding : Resource) (actual : List Resource) :
    Bool :=
  match splitOnce '/' binding.name, binding.label "project" with
  | some (vm, container), some project =>
      let runtimeID := project ++ "/" ++ vm
      let previousVM := actual.find? fun resource =>
        resource.kind = "vm" ∧
          (resource.name = runtimeID ∨
            resource.name = vm ∧
              (resource.label "project").all (· = project))
      match previousVM with
      | none => false
      | some previousVM =>
          match previousVM.spec.bind readVmConfig with
          | none => true
          | some previous =>
              previous.containers.contains container ||
                !previous.composeFiles.isEmpty
  | _, _ => actual.any (·.kind = "vm")

/-- The action for one desired resource. -/
def desiredAction (mode : Mode) (actual : List Resource)
    (wanted : Resource) : Option PlanAction :=
  match (byKey actual)[wanted.key]? with
  | none =>
      let recreate := wanted.kind = "container_binding" &&
        bindingConsumerMayExist readVmConfig wanted actual
      some {
        action := if recreate then "recreate" else "create"
        kind := wanted.kind
        name := wanted.name
        breaking := recreate
        reason :=
          if recreate then
            "managed binding mount required; existing consumer containers are recreated"
          else
            "missing from actual state" }
  | some current =>
      if current.spec ≠ wanted.spec ∧ mode ≠ .up then
        let addedContainers := wanted.kind = "vm" &&
          onlyNewContainersAdded readVmConfig current wanted
        some {
          action :=
            if wanted.kind = "container_binding" then "recreate"
            else "update"
          kind := wanted.kind
          name := wanted.name
          breaking := wanted.kind ∈ ["network", "container_binding"] ||
            (wanted.kind = "vm" && !addedContainers)
          reason :=
            if wanted.kind = "container_binding" then
              "binding mounts changed; consumer container must be recreated"
            else if addedContainers then
              "new containers added; existing containers and VM configuration are unchanged"
            else
              "desired spec differs from actual state" }
      else if wanted.kind = "vm" ∧ current.state = "stopped" ∧
          mode ≠ .down then
        some {
          action := "start"
          kind := wanted.kind
          name := wanted.name
          breaking := false
          reason := "VM is stopped" }
      else
        none

/-- The action for a recorded resource that is no longer desired. -/
def removedAction (current : Resource) : PlanAction where
  action :=
    if current.kind ∈ ["kubernetes", "service_claim", "service_provider"]
    then "retain"
    else if current.kind = "container_binding" then "recreate"
    else "delete"
  kind := current.kind
  name := current.name
  breaking :=
    current.kind ∉ ["kubernetes", "service_claim", "service_provider"]
  reason :=
    if current.kind = "kubernetes" then
      "Kubernetes declaration removed; existing cluster and objects are retained (no implicit prune)"
    else if current.kind = "container_binding" then
      "binding mounts removed; consumer container must be recreated"
    else if current.kind ∈ ["service_claim", "service_provider"] then
      "service declaration removed; external service resources are retained"
    else
      "managed resource absent from desired state"

def stopAction (vm : Resource) : PlanAction where
  action := "stop"
  kind := "vm"
  name := vm.name
  breaking := false
  reason := "down stops VMs in reverse dependency order"

/-- `(kind, name, action)` in lexicographic order. -/
def actionLE (left right : PlanAction) : Prop :=
  left.kind < right.kind ∨ left.kind = right.kind ∧
    (left.name < right.name ∨ left.name = right.name ∧
      left.action ≤ right.action)

instance : DecidableRel actionLE := fun left right =>
  inferInstanceAs <| Decidable <|
    left.kind < right.kind ∨ left.kind = right.kind ∧
      (left.name < right.name ∨ left.name = right.name ∧
        left.action ≤ right.action)

/-- The actions before they are sorted. -/
def planActions (mode : Mode) (desired actual : List Resource) :
    List PlanAction :=
  ((byKey desired).toList.filterMap fun entry =>
      desiredAction readVmConfig mode actual entry.2) ++
    (if mode = .up ∨ mode = .down then []
      else ((byKey actual).toList.filter fun entry =>
        ¬ entry.1 ∈ byKey desired).map fun entry => removedAction entry.2) ++
    (if mode = .down then
      (desired.filter (·.kind = "vm")).map stopAction
    else [])

def buildPlan (mode : Mode) (desired actual : List Resource) : Plan where
  actions :=
    (planActions readVmConfig mode desired actual).insertionSort actionLE
  desired := desired

end BuildPlan

/-- The resources `run` sends with `stack.finish`. -/
def finalResources (effectiveMode : Mode) (effectivePurge : Bool)
    (plan : Plan) : List Resource :=
  if effectiveMode = .down ∧ effectivePurge = true then
    []
  else if effectiveMode = .down then
    plan.desired.map fun resource =>
      if resource.kind = "vm" then { resource with state := "stopped" }
      else resource
  else
    plan.desired

/-! ## Looking up a key -/

section Lookup

variable {resources : List Resource} {resource : Resource}
  {key : ResourceKey}

theorem byKey_append (resources : List Resource) (resource : Resource) :
    byKey (resources ++ [resource]) =
      (byKey resources).insert resource.key resource := by
  simp [byKey]

theorem byKey_getElem? (resources : List Resource) (key : ResourceKey) :
    (byKey resources)[key]? =
      resources.reverse.find? fun resource => resource.key = key := by
  induction resources using List.reverseRecOn with
  | nil => simp [byKey]
  | append_singleton initial last ih =>
      rw [byKey_append, TreeMap.getElem?_insert, ih,
        List.reverse_append, List.reverse_singleton, List.singleton_append,
        List.find?_cons]
      by_cases sameKey : last.key = key
      · simp [sameKey]
      · have different : compare last.key key ≠ .eq := fun same =>
          sameKey (LawfulEqOrd.eq_of_compare same)
        simp [sameKey, different]

theorem of_byKey (found : (byKey resources)[key]? = some resource) :
    resource ∈ resources ∧ resource.key = key := by
  rw [byKey_getElem?] at found
  exact ⟨List.mem_reverse.mp (List.mem_of_find?_eq_some found), by
    simpa using List.find?_some found⟩

theorem byKey_eq_none_iff :
    (byKey resources)[key]? = none ↔
      ∀ resource ∈ resources, resource.key ≠ key := by
  rw [byKey_getElem?, List.find?_eq_none]
  simp

theorem byKey_map (change : Resource → Resource)
    (sameKey : ∀ resource, (change resource).key = resource.key)
    (resources : List Resource) (key : ResourceKey) :
    (byKey (resources.map change))[key]? =
      (byKey resources)[key]?.map change := by
  rw [byKey_getElem?, byKey_getElem?, ← List.map_reverse, List.find?_map]
  congr 2
  funext resource
  simp [sameKey]

end Lookup

/-! ## Which keys have an action -/

def HasAction (plan : Plan) (key : ResourceKey) : Prop :=
  ∃ action ∈ plan.actions, action.key = key

section Actions

variable {κ ρ : Type} [DecidableEq κ] [DecidableEq ρ]
  (readVmConfig : String → Option (VmConfig κ ρ))

theorem desiredAction_key {mode : Mode} {actual : List Resource}
    {wanted : Resource} {action : PlanAction}
    (planned :
      desiredAction readVmConfig mode actual wanted = some action) :
    action.key = wanted.key := by
  unfold desiredAction at planned
  split at planned
  · cases planned
    rfl
  · split at planned
    · cases planned
      rfl
    · split at planned
      · cases planned
        rfl
      · cases planned

theorem desiredAction_isSome_iff (mode : Mode) (actual : List Resource)
    (wanted : Resource) :
    (desiredAction readVmConfig mode actual wanted).isSome = true ↔
      ∀ current, (byKey actual)[wanted.key]? = some current →
        current.spec ≠ wanted.spec ∧ mode ≠ .up ∨
          wanted.kind = "vm" ∧ current.state = "stopped" ∧
            mode ≠ .down := by
  unfold desiredAction
  split
  · rename_i missing
    simp [missing]
  · rename_i current found
    by_cases changed : current.spec ≠ wanted.spec ∧ mode ≠ .up
    · simp [found, changed]
    · by_cases stopped : wanted.kind = "vm" ∧ current.state = "stopped" ∧
        mode ≠ .down
      · simp [found, changed, stopped]
      · simp only [found, changed, stopped, if_false, Option.isSome_none,
          Bool.false_eq_true, Option.some.injEq, forall_eq', or_self]

theorem exists_desiredAction_iff (mode : Mode)
    (desired actual : List Resource) (key : ResourceKey) :
    (∃ action ∈ (byKey desired).toList.filterMap
        (fun entry => desiredAction readVmConfig mode actual entry.2),
      action.key = key) ↔
      ∃ wanted, (byKey desired)[key]? = some wanted ∧
        (desiredAction readVmConfig mode actual wanted).isSome = true := by
  constructor
  · rintro ⟨action, member, sameKey⟩
    obtain ⟨⟨entryKey, wanted⟩, entryMember, planned⟩ :=
      List.mem_filterMap.mp member
    have found := TreeMap.mem_toList_iff_getElem?_eq_some.mp entryMember
    have entrySame : entryKey = key := by
      rw [← (of_byKey found).2, ← sameKey]
      exact (desiredAction_key readVmConfig planned).symm
    exact ⟨wanted, entrySame ▸ found,
      Option.isSome_iff_exists.mpr ⟨action, planned⟩⟩
  · rintro ⟨wanted, found, isPlanned⟩
    obtain ⟨action, planned⟩ := Option.isSome_iff_exists.mp isPlanned
    refine ⟨action, List.mem_filterMap.mpr ⟨(key, wanted), ?_, planned⟩, ?_⟩
    · exact TreeMap.mem_toList_iff_getElem?_eq_some.mpr found
    · exact (desiredAction_key readVmConfig planned).trans (of_byKey found).2

theorem exists_removedAction_iff (desired actual : List Resource)
    (key : ResourceKey) :
    (∃ action ∈ ((byKey actual).toList.filter fun entry =>
        decide (¬ entry.1 ∈ byKey desired)).map
          (fun entry => removedAction entry.2),
      action.key = key) ↔
      (byKey desired)[key]? = none ∧
        ∃ current, (byKey actual)[key]? = some current := by
  constructor
  · rintro ⟨action, member, sameKey⟩
    obtain ⟨⟨entryKey, current⟩, entryMember, rfl⟩ := List.mem_map.mp member
    obtain ⟨recorded, removed⟩ := List.mem_filter.mp entryMember
    have found := TreeMap.mem_toList_iff_getElem?_eq_some.mp recorded
    have entrySame : entryKey = key := (of_byKey found).2.symm.trans sameKey
    subst entrySame
    exact ⟨TreeMap.getElem?_eq_none (of_decide_eq_true removed),
      current, found⟩
  · rintro ⟨missing, current, found⟩
    have absent : ¬ key ∈ byKey desired := by
      rw [TreeMap.mem_iff_isSome_getElem?, missing]
      simp
    refine ⟨removedAction current, List.mem_map.mpr
      ⟨(key, current), List.mem_filter.mpr ⟨?_, ?_⟩, rfl⟩, ?_⟩
    · exact TreeMap.mem_toList_iff_getElem?_eq_some.mpr found
    · exact decide_eq_true absent
    · exact (of_byKey found).2

theorem exists_stopAction_iff (desired : List Resource)
    (key : ResourceKey) :
    (∃ action ∈ (desired.filter fun resource =>
        decide (resource.kind = "vm")).map stopAction, action.key = key) ↔
      ∃ wanted, (byKey desired)[key]? = some wanted ∧
        wanted.kind = "vm" := by
  constructor
  · rintro ⟨action, member, sameKey⟩
    obtain ⟨vm, vmMember, rfl⟩ := List.mem_map.mp member
    obtain ⟨inDesired, isVM⟩ := List.mem_filter.mp vmMember
    have vmKind : vm.kind = "vm" := of_decide_eq_true isVM
    have vmKey : vm.key = key := by
      rw [← sameKey]
      simp [StackResourceRecord.key, PlanAction.key, stopAction, vmKind]
    cases found : (byKey desired)[key]? with
    | none => exact absurd vmKey (byKey_eq_none_iff.mp found vm inDesired)
    | some wanted =>
        have sameKind := congrArg ResourceKey.kind
          ((of_byKey found).2.trans vmKey.symm)
        exact ⟨wanted, rfl, sameKind.trans vmKind⟩
  · rintro ⟨wanted, found, isVM⟩
    obtain ⟨member, wantedKey⟩ := of_byKey found
    refine ⟨stopAction wanted, List.mem_map.mpr
      ⟨wanted, List.mem_filter.mpr ⟨member, by simp [isVM]⟩, rfl⟩, ?_⟩
    rw [← wantedKey]
    simp [StackResourceRecord.key, PlanAction.key, stopAction, isVM]

theorem hasAction_buildPlan_iff (mode : Mode)
    (desired actual : List Resource) (key : ResourceKey) :
    HasAction (buildPlan readVmConfig mode desired actual) key ↔
      (∃ wanted, (byKey desired)[key]? = some wanted ∧
        ((desiredAction readVmConfig mode actual wanted).isSome = true ∨
          mode = .down ∧ wanted.kind = "vm")) ∨
      (mode ≠ .up ∧ mode ≠ .down ∧ (byKey desired)[key]? = none ∧
        ∃ current, (byKey actual)[key]? = some current) := by
  have sorted : HasAction (buildPlan readVmConfig mode desired actual) key ↔
      ∃ action ∈ planActions readVmConfig mode desired actual,
        action.key = key := by
    simp only [HasAction, buildPlan, List.mem_insertionSort]
  have parts : ∀ left right : List PlanAction,
      (∃ action ∈ left ++ right, action.key = key) ↔
        (∃ action ∈ left, action.key = key) ∨
          ∃ action ∈ right, action.key = key := by
    intro left right
    simp only [List.mem_append, or_and_right, exists_or]
  rw [sorted, planActions, parts, parts, exists_desiredAction_iff]
  by_cases isUp : mode = .up
  · subst isUp
    simp
  · by_cases isDown : mode = .down
    · subst isDown
      have stops := exists_stopAction_iff desired key
      simp only [or_true, if_true, List.not_mem_nil, false_and, exists_false,
        or_false, true_and, ne_eq, not_true_eq_false, and_false] at stops ⊢
      rw [stops, ← exists_or]
      exact exists_congr fun wanted => and_or_left.symm
    · simp only [isUp, isDown, or_self, if_false, List.not_mem_nil,
        false_and, exists_false, or_false, not_false_eq_true, ne_eq,
        true_and]
      rw [exists_removedAction_iff]

end Actions

end Vzctl
