import Vzctl.Reconciler.Drift

/-!
# The plan is a sound and complete diff

`Change` says what an action is for, in terms of the desired and the recorded
resources.  The actions of a plan are those of the changes that its mode calls
for, each of them once, and the breaking ones are the changes that can destroy
something.
-/

namespace Vzctl

open Std

/-! ## Changes -/

/-- What can happen to a resource. -/
inductive Change where
  | add (wanted : Resource)
  | update (current wanted : Resource)
  | start (wanted : Resource)
  | remove (current : Resource)
  | stop (wanted : Resource)

/-- Some resource of the list has the key. -/
def Lists (resources : List Resource) (key : ResourceKey) : Prop :=
  ∃ resource ∈ resources, resource.key = key

/-- A desired and a recorded resource of the same key. -/
structure Pairs (desired actual : List Resource)
    (current wanted : Resource) : Prop where
  isDesired : wanted ∈ desired
  isRecorded : current ∈ actual
  sameKey : current.key = wanted.key

/-- A VM that is recorded as stopped. -/
def IsStoppedVM (current wanted : Resource) : Prop :=
  wanted.kind = "vm" ∧ current.state = "stopped"

namespace Change

def key : Change → ResourceKey
  | add wanted => wanted.key
  | update _ wanted => wanted.key
  | start wanted => wanted.key
  | remove current => current.key
  | stop wanted => wanted.key

/-- The changes that a mode calls for. -/
def Called (mode : Mode) (desired actual : List Resource) : Change → Prop
  | add wanted => wanted ∈ desired ∧ ¬ Lists actual wanted.key
  | update current wanted =>
      mode ≠ .up ∧ Pairs desired actual current wanted ∧
        current.spec ≠ wanted.spec
  | start wanted =>
      mode ≠ .down ∧ ∃ current, Pairs desired actual current wanted ∧
        IsStoppedVM current wanted ∧
          (current.spec = wanted.spec ∨ mode = .up)
  | remove current =>
      mode ≠ .up ∧ mode ≠ .down ∧ current ∈ actual ∧
        ¬ Lists desired current.key
  | stop wanted => mode = .down ∧ wanted ∈ desired ∧ wanted.kind = "vm"

end Change

section Breaking

variable {κ ρ : Type} [DecidableEq κ] [DecidableEq ρ]
  (readVmConfig : String → Option (VmConfig κ ρ))

/-- The only difference of two VM specifications is that the new one has more
containers. -/
def AddsContainers (current wanted : Resource) : Prop :=
  ∃ before after, current.spec.bind readVmConfig = some before ∧
    wanted.spec.bind readVmConfig = some after ∧
    (∀ (name : String) config, before.containers[name]? = some config →
      after.containers[name]? = some config) ∧
    (∃ name, name ∈ after.containers ∧ name ∉ before.containers) ∧
    before.composeFiles = after.composeFiles ∧ before.rest = after.rest

/-- The recorded VM in which a binding is mounted. -/
def ConsumerVM (project vm : String) (recorded : Resource) : Prop :=
  recorded.kind = "vm" ∧
    (recorded.name = project ++ "/" ++ vm ∨
      recorded.name = vm ∧
        ∀ owner, recorded.label "project" = some owner → owner = project)

/-- The consumer container of a binding may exist: the first record of its VM
has the container, lists Compose files or cannot be read; a binding that does
not say where it belongs may be in any VM. -/
def ConsumerMayExist (binding : Resource) (actual : List Resource) : Prop :=
  match splitOnce '/' binding.name, binding.label "project" with
  | some (vm, container), some project =>
      ∃ earlier recorded later, actual = earlier ++ recorded :: later ∧
        (∀ other ∈ earlier, ¬ ConsumerVM project vm other) ∧
        ConsumerVM project vm recorded ∧
        ∀ config, recorded.spec.bind readVmConfig = some config →
          container ∈ config.containers ∨ config.composeFiles ≠ []
  | _, _ => ∃ recorded ∈ actual, recorded.kind = "vm"

/-- The changes that need a confirmation. -/
def Change.Breaking (actual : List Resource) : Change → Prop
  | add wanted => wanted.kind = "container_binding" ∧
      ConsumerMayExist readVmConfig wanted actual
  | update current wanted =>
      wanted.kind = "network" ∨ wanted.kind = "container_binding" ∨
        wanted.kind = "vm" ∧ ¬ AddsContainers readVmConfig current wanted
  | remove current =>
      current.kind ∉ ["kubernetes", "service_claim", "service_provider"]
  | start _ => False
  | stop _ => False

end Breaking

/-- The action is for the change. -/
structure Change.Describes (change : Change) (action : PlanAction) : Prop where
  key : action.key = change.key
  action : action.action ∈ match change with
    | .add _ => ["create", "recreate"]
    | .update _ _ => ["update", "recreate"]
    | .start _ => ["start"]
    | .remove _ => ["delete", "recreate", "retain"]
    | .stop _ => ["stop"]

/-- An apply has something to do for the key. -/
def Differs (desired actual : List Resource) (key : ResourceKey) : Prop :=
  (Lists desired key ∧ ¬ Lists actual key) ∨
    (∃ current wanted, Pairs desired actual current wanted ∧
      wanted.key = key ∧
        (current.spec ≠ wanted.spec ∨ IsStoppedVM current wanted)) ∨
    (Lists actual key ∧ ¬ Lists desired key)

/-- The recorded resources are the desired ones, and no VM is stopped. -/
structure Matches (desired actual : List Resource) : Prop where
  keys : ∀ key, Lists desired key ↔ Lists actual key
  specs : ∀ current wanted, Pairs desired actual current wanted →
    current.spec = wanted.spec
  running : ∀ current wanted, Pairs desired actual current wanted →
    ¬ IsStoppedVM current wanted

theorem matches_iff {desired actual : List Resource} :
    Matches desired actual ↔ ∀ key, ¬ Differs desired actual key := by
  constructor
  · intro held key differs
    rcases differs with added | changed | removed
    · exact added.2 ((held.keys key).mp added.1)
    · obtain ⟨current, wanted, pair, _, reason⟩ := changed
      rcases reason with spec | stopped
      · exact spec (held.specs current wanted pair)
      · exact held.running current wanted pair stopped
    · exact removed.2 ((held.keys key).mpr removed.1)
  · intro none
    constructor
    · intro key
      constructor
      · intro desiredHas
        by_contra absent
        exact none key (.inl ⟨desiredHas, absent⟩)
      · intro actualHas
        by_contra absent
        exact none key (.inr (.inr ⟨actualHas, absent⟩))
    · intro current wanted pair
      by_contra spec
      exact none wanted.key
        (.inr (.inl ⟨current, wanted, pair, rfl, .inl spec⟩))
    · intro current wanted pair stopped
      exact none wanted.key
        (.inr (.inl ⟨current, wanted, pair, rfl, .inr stopped⟩))

/-! ## Looking up unique keys -/

section Unique

variable {desired actual : List Resource} {resource : Resource}
  {key : ResourceKey}

theorem byKey_eq_none_iff_lists :
    (byKey desired)[key]? = none ↔ ¬ Lists desired key := by
  rw [byKey_eq_none_iff]
  simp [Lists]

theorem exists_byKey_iff_lists :
    (∃ resource, (byKey desired)[key]? = some resource) ↔
      Lists desired key := by
  rw [← not_iff_not, ← byKey_eq_none_iff_lists,
    ← Option.isSome_iff_exists, Option.not_isSome_iff_eq_none]

end Unique

/-! ## What the predicates of the plan decide -/

theorem size_lt_iff_exists_new {κ : Type}
    {before after : TreeMap String κ}
    (kept : ∀ (name : String) config, before[name]? = some config →
      after[name]? = some config) :
    before.size < after.size ↔
      ∃ name, name ∈ after ∧ name ∉ before := by
  have sub : ∀ name ∈ before, name ∈ after := by
    intro name member
    rw [TreeMap.mem_iff_isSome_getElem?,
      Option.isSome_iff_exists] at member ⊢
    obtain ⟨config, found⟩ := member
    exact ⟨config, kept name config found⟩
  rw [← TreeMap.length_keys, ← TreeMap.length_keys]
  constructor
  · intro shorter
    by_contra noNew
    push Not at noNew
    have within : after.keys ⊆ before.keys := by
      intro name member
      rw [TreeMap.mem_keys] at member ⊢
      exact noNew name member
    have := (List.subperm_of_subset after.nodup_keys within).length_le
    omega
  · intro hasNew
    obtain ⟨name, inAfter, notBefore⟩ := hasNew
    have distinct : (name :: before.keys).Nodup :=
      List.nodup_cons.mpr
        ⟨by rwa [TreeMap.mem_keys], before.nodup_keys⟩
    have within : name :: before.keys ⊆ after.keys := by
      intro other member
      rw [TreeMap.mem_keys]
      cases List.mem_cons.mp member with
      | inl isName => rwa [isName]
      | inr old => exact sub other (TreeMap.mem_keys.mp old)
    have := (List.subperm_of_subset distinct within).length_le
    rw [List.length_cons] at this
    omega

theorem exists_first_iff {α : Type} {list : List α} {found : α → Bool}
    {P Q : α → Prop} (decides : ∀ item, found item = true ↔ P item) :
    (∃ earlier item later, list = earlier ++ item :: later ∧
      (∀ other ∈ earlier, ¬ P other) ∧ P item ∧ Q item) ↔
      ∃ item, list.find? found = some item ∧ Q item := by
  have first : ∀ item, list.find? found = some item ↔
      P item ∧ ∃ earlier later, list = earlier ++ item :: later ∧
        ∀ other ∈ earlier, ¬ P other := by
    intro item
    rw [List.find?_eq_some_iff_append, decides]
    simp [← decides]
  simp only [first]
  constructor
  · intro split
    obtain ⟨earlier, item, later, parts, before, has, then_⟩ := split
    exact ⟨item, ⟨has, earlier, later, parts, before⟩, then_⟩
  · intro split
    obtain ⟨item, ⟨has, earlier, later, parts, before⟩, then_⟩ := split
    exact ⟨earlier, item, later, parts, before, has, then_⟩

section Decisions

variable {κ ρ : Type}
  {readVmConfig : String → Option (VmConfig κ ρ)}
  {actual : List Resource} {current wanted : Resource}

theorem bindingConsumerMayExist_iff {binding : Resource} :
    bindingConsumerMayExist readVmConfig binding actual = true ↔
      ConsumerMayExist readVmConfig binding actual := by
  unfold bindingConsumerMayExist ConsumerMayExist
  cases splitOnce '/' binding.name with
  | none => simp
  | some names =>
      obtain ⟨vm, container⟩ := names
      cases binding.label "project" with
      | none => simp
      | some project =>
          have decides : ∀ recorded : Resource,
              decide (recorded.kind = "vm" ∧
                (recorded.name = project ++ "/" ++ vm ∨ recorded.name = vm ∧
                  (recorded.label "project").all (· = project) = true)) =
                  true ↔
                ConsumerVM project vm recorded := by
            intro recorded
            rw [decide_eq_true_eq]
            simp [ConsumerVM, Option.all_eq_true]
          simp only []
          rw [exists_first_iff decides]
          split
          · rename_i missing
            rw [missing]
            simp
          · rename_i recorded found
            rw [found]
            cases readBefore : recorded.spec.bind readVmConfig with
            | none => simp [readBefore]
            | some before => simp [readBefore, TreeMap.contains_iff_mem]

variable [DecidableEq κ] [DecidableEq ρ]

theorem onlyNewContainersAdded_iff :
    onlyNewContainersAdded readVmConfig current wanted = true ↔
      AddsContainers readVmConfig current wanted := by
  unfold onlyNewContainersAdded AddsContainers
  cases readBefore : current.spec.bind readVmConfig with
  | none => simp
  | some before =>
      cases readAfter : wanted.spec.bind readVmConfig with
      | none => simp
      | some after =>
          have kept : (before.containers.toList.all fun entry =>
              decide (after.containers[entry.1]? = some entry.2)) = true ↔
              ∀ (name : String) config,
                before.containers[name]? = some config →
                  after.containers[name]? = some config := by
            simp only [List.all_eq_true, decide_eq_true_eq, Prod.forall,
              TreeMap.mem_toList_iff_getElem?_eq_some]
          by_cases keepsAll : ∀ (name : String) config,
              before.containers[name]? = some config →
                after.containers[name]? = some config
          · have grows := size_lt_iff_exists_new keepsAll
            by_cases longer :
                before.containers.size < after.containers.size
            · have fewer : ¬ after.containers.size ≤
                  before.containers.size := by omega
              have isNew := grows.mp longer
              simp [fewer, isNew]
            · have fewer : after.containers.size ≤
                  before.containers.size := by omega
              have noNew := mt grows.mpr longer
              simp [fewer, noNew]
          · simp [mt kept.mp keepsAll, keepsAll]

end Decisions

/-! ## Every action is for a change -/

section Sound

variable {κ ρ : Type}
  {readVmConfig : String → Option (VmConfig κ ρ)}
  {mode : Mode} {desired actual : List Resource} {wanted : Resource}
  {action : PlanAction}

/-- The action is for a change that the mode calls for, and is breaking when
the change is. -/
def IsSound (readVmConfig : String → Option (VmConfig κ ρ)) (mode : Mode)
    (desired actual : List Resource) (action : PlanAction) : Prop :=
  ∃ change : Change, change.Called mode desired actual ∧
    change.Describes action ∧
      (action.breaking = true ↔ change.Breaking readVmConfig actual)

theorem isSound_removedAction {current : Resource} (notUp : mode ≠ .up)
    (notDown : mode ≠ .down) (member : current ∈ actual)
    (missing : ¬ Lists desired current.key) :
    IsSound readVmConfig mode desired actual (removedAction current) := by
  refine ⟨.remove current, ⟨notUp, notDown, member, missing⟩, ⟨rfl, ?_⟩, ?_⟩
  · dsimp only [removedAction]
    split
    · simp
    · split <;> simp
  · simp [removedAction, Change.Breaking]

theorem isSound_stopAction (isDown : mode = .down)
    (member : wanted ∈ desired) (isVM : wanted.kind = "vm") :
    IsSound readVmConfig mode desired actual (stopAction wanted) := by
  refine ⟨.stop wanted, ⟨isDown, member, isVM⟩, ⟨?_, ?_⟩, ?_⟩
  · simp [PlanAction.key, stopAction, Change.key, StackResourceRecord.key,
      isVM]
  · simp [stopAction]
  · simp [stopAction, Change.Breaking]

variable [DecidableEq κ] [DecidableEq ρ]

theorem isSound_desiredAction (member : wanted ∈ desired)
    (planned :
      desiredAction readVmConfig mode actual wanted = some action) :
    IsSound readVmConfig mode desired actual action := by
  have sameKey := desiredAction_key readVmConfig planned
  unfold desiredAction at planned
  split at planned
  · rename_i missing
    refine ⟨.add wanted, ⟨member, byKey_eq_none_iff_lists.mp missing⟩, ?_, ?_⟩
    · refine ⟨sameKey, ?_⟩
      cases planned
      dsimp only
      split <;> simp
    · cases planned
      simp [Change.Breaking, bindingConsumerMayExist_iff]
  · rename_i current found
    have pair : Pairs desired actual current wanted :=
      ⟨member, (of_byKey found).1, (of_byKey found).2⟩
    by_cases changed : current.spec ≠ wanted.spec ∧ mode ≠ .up
    · rw [if_pos changed] at planned
      refine ⟨.update current wanted,
        ⟨changed.2, pair, changed.1⟩, ⟨sameKey, ?_⟩, ?_⟩
      · cases planned
        dsimp only
        split <;> simp
      · cases planned
        simp only [Change.Breaking, ← onlyNewContainersAdded_iff]
        by_cases isVM : wanted.kind = "vm"
        · simp [isVM]
        · simp [isVM]
    · rw [if_neg changed] at planned
      by_cases stopped : wanted.kind = "vm" ∧ current.state = "stopped" ∧
          mode ≠ .down
      · rw [if_pos stopped] at planned
        have kept : current.spec = wanted.spec ∨ mode = .up := by
          by_contra neither
          push Not at neither
          exact changed neither
        refine ⟨.start wanted, ⟨stopped.2.2, current, pair,
          ⟨stopped.1, stopped.2.1⟩, kept⟩, ⟨sameKey, ?_⟩, ?_⟩
        · cases planned
          simp
        · cases planned
          simp [Change.Breaking]
      · rw [if_neg stopped] at planned
        cases planned

theorem mem_buildPlan_iff :
    action ∈ (buildPlan readVmConfig mode desired actual).actions ↔
      action ∈ planActions readVmConfig mode desired actual := by
  simp only [buildPlan, List.mem_insertionSort]

theorem isSound_of_mem
    (member : action ∈
      (buildPlan readVmConfig mode desired actual).actions) :
    IsSound readVmConfig mode desired actual action := by
  rw [mem_buildPlan_iff, planActions, List.mem_append,
    List.mem_append] at member
  rcases member with (fromDesired | fromActual) | fromStop
  · obtain ⟨entry, entryMember, planned⟩ :=
      List.mem_filterMap.mp fromDesired
    have found := TreeMap.mem_toList_iff_getElem?_eq_some.mp entryMember
    exact isSound_desiredAction (of_byKey found).1 planned
  · by_cases stays : mode = .up ∨ mode = .down
    · simp [stays] at fromActual
    · rw [if_neg stays] at fromActual
      obtain ⟨entry, entryMember, isRemoved⟩ := List.mem_map.mp fromActual
      obtain ⟨recorded, removed⟩ := List.mem_filter.mp entryMember
      have found := TreeMap.mem_toList_iff_getElem?_eq_some.mp recorded
      have missing := TreeMap.getElem?_eq_none (of_decide_eq_true removed)
      rw [← (of_byKey found).2] at missing
      rw [← isRemoved]
      exact isSound_removedAction (fun isUp => stays (.inl isUp))
        (fun isDown => stays (.inr isDown)) (of_byKey found).1
        (byKey_eq_none_iff_lists.mp missing)
  · by_cases isDown : mode = .down
    · rw [if_pos isDown] at fromStop
      obtain ⟨vm, vmMember, isStop⟩ := List.mem_map.mp fromStop
      obtain ⟨inDesired, isVM⟩ := List.mem_filter.mp vmMember
      rw [← isStop]
      exact isSound_stopAction isDown inDesired (of_decide_eq_true isVM)
    · simp [isDown] at fromStop

end Sound

/-! ## A change is known from its action -/

section Known

variable {mode : Mode} {desired actual : List Resource}
  {resource other : Resource} {action : PlanAction}

theorem eq_of_sameKey {resources : List Resource}
    (unique : (resources.map StackResourceRecord.key).Nodup)
    (member : resource ∈ resources) (otherMember : other ∈ resources)
    (sameKey : resource.key = other.key) : resource = other :=
  UniqueKey.eq_of_key_eq unique member otherMember sameKey

theorem Change.eq_of_describes
    (desiredUnique : (desired.map StackResourceRecord.key).Nodup)
    (actualUnique : (actual.map StackResourceRecord.key).Nodup)
    {left right : Change} (leftCalled : left.Called mode desired actual)
    (rightCalled : right.Called mode desired actual)
    (leftDescribes : left.Describes action)
    (rightDescribes : right.Describes action) : left = right := by
  have sameKey : left.key = right.key :=
    leftDescribes.key.symm.trans rightDescribes.key
  have leftText := leftDescribes.action
  have rightText := rightDescribes.action
  cases left with
  | add wanted =>
      cases right with
      | add other =>
          rw [eq_of_sameKey desiredUnique leftCalled.1 rightCalled.1 sameKey]
      | update current other =>
          have pair := rightCalled.2.1
          exact absurd ⟨current, pair.isRecorded,
            pair.sameKey.trans sameKey.symm⟩ leftCalled.2
      | remove current =>
          exact absurd ⟨current, rightCalled.2.2.1, sameKey.symm⟩ leftCalled.2
      | start _ | stop _ => simp_all
  | update current wanted =>
      have pair := leftCalled.2.1
      cases right with
      | add other =>
          exact absurd ⟨current, pair.isRecorded, pair.sameKey.trans sameKey⟩
            rightCalled.2
      | update recorded other =>
          have otherPair := rightCalled.2.1
          rw [eq_of_sameKey desiredUnique pair.isDesired otherPair.isDesired
            sameKey, eq_of_sameKey actualUnique pair.isRecorded
            otherPair.isRecorded (pair.sameKey.trans
              (sameKey.trans otherPair.sameKey.symm))]
      | remove recorded =>
          exact absurd ⟨wanted, pair.isDesired, sameKey⟩ rightCalled.2.2.2
      | start _ | stop _ => simp_all
  | start wanted =>
      cases right with
      | start other =>
          obtain ⟨_, _, pair, _⟩ := leftCalled
          obtain ⟨_, _, otherPair, _⟩ := rightCalled
          rw [eq_of_sameKey desiredUnique pair.isDesired otherPair.isDesired
            sameKey]
      | add _ | update _ _ | remove _ | stop _ => simp_all
  | remove current =>
      cases right with
      | add other =>
          exact absurd ⟨current, leftCalled.2.2.1, sameKey⟩ rightCalled.2
      | update recorded other =>
          exact absurd ⟨other, rightCalled.2.1.isDesired, sameKey.symm⟩
            leftCalled.2.2.2
      | remove recorded =>
          rw [eq_of_sameKey actualUnique leftCalled.2.2.1
            rightCalled.2.2.1 sameKey]
      | start _ | stop _ => simp_all
  | stop wanted =>
      cases right with
      | stop other =>
          rw [eq_of_sameKey desiredUnique leftCalled.2.1 rightCalled.2.1
            sameKey]
      | add _ | update _ _ | start _ | remove _ => simp_all

end Known

/-! ## How many actions a key has -/

section Counts

variable {κ ρ : Type} [DecidableEq κ] [DecidableEq ρ]
  {readVmConfig : String → Option (VmConfig κ ρ)}
  {mode : Mode} {desired actual : List Resource} {key : ResourceKey}

theorem map_filterMap_sublist {α β γ : Type} {change : α → Option β}
    {before : α → γ} {after : β → γ} (list : List α)
    (sameKey : ∀ item ∈ list, ∀ result, change item = some result →
      after result = before item) :
    ((list.filterMap change).map after).Sublist (list.map before) := by
  induction list with
  | nil => simp
  | cons item rest ih =>
      have fromRest := ih fun other member =>
        sameKey other (List.mem_cons_of_mem item member)
      cases changed : change item with
      | none =>
          rw [List.filterMap_cons_none changed, List.map_cons]
          exact fromRest.cons _
      | some result =>
          rw [List.filterMap_cons_some changed, List.map_cons,
            List.map_cons, sameKey item List.mem_cons_self result changed]
          exact fromRest.cons_cons _

theorem nodup_keys_byKey (resources : List Resource) :
    ((byKey resources).toList.map Prod.fst).Nodup := by
  rw [TreeMap.map_fst_toList_eq_keys]
  exact TreeMap.nodup_keys

theorem nodup_keys_planActions (notDown : mode ≠ .down) :
    ((planActions readVmConfig mode desired actual).map
      PlanAction.key).Nodup := by
  have fromDesired : (((byKey desired).toList.filterMap fun entry =>
      desiredAction readVmConfig mode actual entry.2).map
        PlanAction.key).Nodup := by
    refine (map_filterMap_sublist _ ?_).nodup (nodup_keys_byKey desired)
    intro entry member result planned
    have found := TreeMap.mem_toList_iff_getElem?_eq_some.mp member
    rw [desiredAction_key readVmConfig planned, (of_byKey found).2]
  have fromActual : ((((byKey actual).toList.filter fun entry =>
      decide (¬ entry.1 ∈ byKey desired)).map fun entry =>
        removedAction entry.2).map PlanAction.key).Nodup := by
    have sameKeys : (((byKey actual).toList.filter fun entry =>
        decide (¬ entry.1 ∈ byKey desired)).map fun entry =>
          removedAction entry.2).map PlanAction.key =
        ((byKey actual).toList.filter fun entry =>
          decide (¬ entry.1 ∈ byKey desired)).map Prod.fst := by
      rw [List.map_map]
      apply List.map_congr_left
      intro entry member
      have found := TreeMap.mem_toList_iff_getElem?_eq_some.mp
        (List.mem_filter.mp member).1
      exact (of_byKey found).2
    rw [sameKeys]
    exact (List.filter_sublist.map _).nodup (nodup_keys_byKey actual)
  rw [planActions, if_neg notDown, List.append_nil]
  by_cases isUp : mode = .up
  · simpa [isUp] using isUp ▸ fromDesired
  · have removes : ¬ (mode = .up ∨ mode = .down) := by
      simp [isUp, notDown]
    rw [if_neg removes, List.map_append, List.nodup_append]
    refine ⟨fromDesired, fromActual, ?_⟩
    intro left leftMember right rightMember sameKey
    rw [sameKey] at leftMember
    obtain ⟨wanted, found, _⟩ :=
      (exists_desiredAction_iff readVmConfig mode desired actual right).mp
        (List.mem_map.mp leftMember)
    obtain ⟨missing, _⟩ :=
      (exists_removedAction_iff desired actual right).mp
        (List.mem_map.mp rightMember)
    rw [found] at missing
    cases missing

theorem countP_key_eq (actions : List PlanAction) (key : ResourceKey) :
    actions.countP (·.key = key) = (actions.map PlanAction.key).count key := by
  rw [List.count_eq_countP, List.countP_map]
  apply List.countP_congr
  intro action _
  simp

theorem perm_buildPlan :
    (buildPlan readVmConfig mode desired actual).actions.Perm
      (planActions readVmConfig mode desired actual) :=
  List.perm_insertionSort _ _

theorem countP_buildPlan (notDown : mode ≠ .down) :
    (buildPlan readVmConfig mode desired actual).actions.countP
        (·.key = key) =
      if ∃ action ∈ (buildPlan readVmConfig mode desired actual).actions,
          action.key = key then 1 else 0 := by
  rw [countP_key_eq, (perm_buildPlan.map _).count_eq,
    (nodup_keys_planActions notDown).count]
  simp only [List.mem_map, mem_buildPlan_iff]

theorem desiredAction_ne_stop {wanted : Resource} {action : PlanAction}
    (planned :
      desiredAction readVmConfig mode actual wanted = some action) :
    action.action ≠ "stop" := by
  unfold desiredAction at planned
  split at planned
  · cases planned
    dsimp only
    split <;> simp
  · split at planned
    · cases planned
      dsimp only
      split <;> simp
    · split at planned
      · cases planned
        simp
      · cases planned

theorem countP_stops
    (unique : (desired.map StackResourceRecord.key).Nodup) :
    (buildPlan readVmConfig .down desired actual).actions.countP
        (fun action => action.key = key ∧ action.action = "stop") =
      if ∃ vm ∈ desired, vm.kind = "vm" ∧ vm.key = key then 1 else 0 := by
  have noStop : ((byKey desired).toList.filterMap fun entry =>
      desiredAction readVmConfig .down actual entry.2).countP
        (fun action => action.key = key ∧ action.action = "stop") = 0 := by
    rw [List.countP_eq_zero]
    intro action member isStop
    obtain ⟨entry, _, planned⟩ := List.mem_filterMap.mp member
    exact desiredAction_ne_stop planned (of_decide_eq_true isStop).2
  have sameKeys : ((desired.filter (·.kind = "vm")).map stopAction).map
      PlanAction.key =
        (desired.filter (·.kind = "vm")).map StackResourceRecord.key := by
    rw [List.map_map]
    apply List.map_congr_left
    intro vm member
    have isVM : vm.kind = "vm" := by simpa using (List.mem_filter.mp member).2
    simp [PlanAction.key, stopAction, StackResourceRecord.key, isVM]
  have onlyStops : ((desired.filter (·.kind = "vm")).map stopAction).countP
      (fun action => action.key = key ∧ action.action = "stop") =
        ((desired.filter (·.kind = "vm")).map
          StackResourceRecord.key).count key := by
    rw [← sameKeys, ← countP_key_eq]
    apply List.countP_congr
    intro action member
    obtain ⟨vm, _, isStop⟩ := List.mem_map.mp member
    simp [← isStop, stopAction]
  have distinct : ((desired.filter (·.kind = "vm")).map
      StackResourceRecord.key).Nodup :=
    (List.filter_sublist.map _).nodup unique
  rw [perm_buildPlan.countP_eq, planActions]
  simp only [or_true, if_true, List.append_nil, List.countP_append, noStop,
    onlyStops, distinct.count]
  simp [and_assoc]

end Counts

/-! ## The diff -/

section Diff

variable {κ ρ : Type} [DecidableEq κ] [DecidableEq ρ]
  {readVmConfig : String → Option (VmConfig κ ρ)}
  {desired actual : List Resource} {key : ResourceKey}

theorem pairs_iff {current wanted : Resource}
    (desiredUnique : (desired.map StackResourceRecord.key).Nodup)
    (actualUnique : (actual.map StackResourceRecord.key).Nodup) :
    Pairs desired actual current wanted ∧ wanted.key = key ↔
      (byKey desired)[key]? = some wanted ∧
        (byKey actual)[key]? = some current := by
  rw [byKey_eq_some_iff desiredUnique, byKey_eq_some_iff actualUnique]
  constructor
  · intro both
    obtain ⟨pair, sameKey⟩ := both
    exact ⟨⟨pair.isDesired, sameKey⟩, pair.isRecorded,
      pair.sameKey.trans sameKey⟩
  · intro both
    obtain ⟨⟨isDesired, wantedKey⟩, isRecorded, currentKey⟩ := both
    exact ⟨⟨isDesired, isRecorded, currentKey.trans wantedKey.symm⟩,
      wantedKey⟩

theorem hasAction_apply_iff
    (desiredUnique : (desired.map StackResourceRecord.key).Nodup)
    (actualUnique : (actual.map StackResourceRecord.key).Nodup) :
    HasAction (buildPlan readVmConfig .apply desired actual) key ↔
      Differs desired actual key := by
  have changed : (∃ current wanted, Pairs desired actual current wanted ∧
      wanted.key = key ∧
        (current.spec ≠ wanted.spec ∨ IsStoppedVM current wanted)) ↔
      ∃ current wanted, ((byKey desired)[key]? = some wanted ∧
        (byKey actual)[key]? = some current) ∧
          (current.spec ≠ wanted.spec ∨ IsStoppedVM current wanted) := by
    simp only [← and_assoc, pairs_iff desiredUnique actualUnique]
  rw [hasAction_buildPlan_iff, Differs, changed,
    ← exists_byKey_iff_lists, ← byKey_eq_none_iff_lists,
    ← exists_byKey_iff_lists]
  cases isDesired : (byKey desired)[key]? with
  | none => simp
  | some wanted =>
      rw [← (of_byKey isDesired).2] at *
      cases isRecorded : (byKey actual)[wanted.key]? with
      | none => simp [desiredAction_isSome_iff, isRecorded]
      | some current =>
          simp [desiredAction_isSome_iff, isRecorded, IsStoppedVM]

/-- What a plan says about the resources. -/
structure CompleteDiff (readVmConfig : String → Option (VmConfig κ ρ))
    (desired actual : List Resource) : Prop where
  once : ∀ key,
    (buildPlan readVmConfig .apply desired actual).actions.countP
      (·.key = key) = 1 ↔ Differs desired actual key
  otherwiseNone : ∀ key,
    (buildPlan readVmConfig .apply desired actual).actions.countP
      (·.key = key) = 0 ↔ ¬ Differs desired actual key
  empty : (buildPlan readVmConfig .apply desired actual).actions = [] ↔
    Matches desired actual
  up : ∀ action ∈ (buildPlan readVmConfig .up desired actual).actions,
    action.action ∉ ["update", "delete", "retain"]
  stops : ∀ key,
    (buildPlan readVmConfig .down desired actual).actions.countP
      (fun action => action.key = key ∧ action.action = "stop") =
        if ∃ vm ∈ desired, vm.kind = "vm" ∧ vm.key = key then 1 else 0
  breaking : ∀ mode, ∀ action ∈
      (buildPlan readVmConfig mode desired actual).actions,
    (action.breaking = true ↔ ∃ change : Change,
      change.Called mode desired actual ∧ change.Describes action ∧
        change.Breaking readVmConfig actual)

theorem breaking_iff {mode : Mode} {action : PlanAction}
    (desiredUnique : (desired.map StackResourceRecord.key).Nodup)
    (actualUnique : (actual.map StackResourceRecord.key).Nodup)
    (member : action ∈
      (buildPlan readVmConfig mode desired actual).actions) :
    action.breaking = true ↔ ∃ change : Change,
      change.Called mode desired actual ∧ change.Describes action ∧
        change.Breaking readVmConfig actual := by
  obtain ⟨change, called, describes, breaking⟩ := isSound_of_mem member
  rw [breaking]
  constructor
  · intro isBreaking
    exact ⟨change, called, describes, isBreaking⟩
  · intro isBreaking
    obtain ⟨other, otherCalled, otherDescribes, otherBreaking⟩ := isBreaking
    rwa [Change.eq_of_describes desiredUnique actualUnique called otherCalled
      describes otherDescribes]

theorem up_only_adds {action : PlanAction}
    (member : action ∈
      (buildPlan readVmConfig .up desired actual).actions) :
    action.action ∉ ["update", "delete", "retain"] := by
  obtain ⟨change, called, describes, _⟩ := isSound_of_mem member
  have text := describes.action
  cases change with
  | add wanted =>
      rcases List.mem_pair.mp text with isCreate | isRecreate
      · simp [isCreate]
      · simp [isRecreate]
  | start wanted => simp [List.mem_singleton.mp text]
  | update current wanted => exact absurd rfl called.1
  | remove current => exact absurd rfl called.1
  | stop wanted => cases called.1

theorem countP_apply (readVmConfig : String → Option (VmConfig κ ρ))
    (key : ResourceKey)
    (desiredUnique : (desired.map StackResourceRecord.key).Nodup)
    (actualUnique : (actual.map StackResourceRecord.key).Nodup) :
    Differs desired actual key ∧
        (buildPlan readVmConfig .apply desired actual).actions.countP
          (·.key = key) = 1 ∨
      ¬ Differs desired actual key ∧
        (buildPlan readVmConfig .apply desired actual).actions.countP
          (·.key = key) = 0 := by
  have acts :
      HasAction (buildPlan readVmConfig .apply desired actual) key ↔
        Differs desired actual key :=
    hasAction_apply_iff desiredUnique actualUnique
  rw [countP_buildPlan (by decide), ← acts]
  by_cases has :
      HasAction (buildPlan readVmConfig .apply desired actual) key
  · exact .inl ⟨has, if_pos has⟩
  · exact .inr ⟨has, if_neg has⟩

/-- In every mode the plan is a sound and complete diff. -/
theorem buildPlan_completeDiff
    (desiredUnique : (desired.map StackResourceRecord.key).Nodup)
    (actualUnique : (actual.map StackResourceRecord.key).Nodup) :
    CompleteDiff readVmConfig desired actual where
  once := by
    intro key
    rcases countP_apply readVmConfig key desiredUnique actualUnique
      with differs | same
    · simp [differs]
    · simp [same]
  otherwiseNone := by
    intro key
    rcases countP_apply readVmConfig key desiredUnique actualUnique
      with differs | same
    · simp [differs]
    · simp [same]
  empty := by
    have acts : ∀ key,
        HasAction (buildPlan readVmConfig .apply desired actual) key ↔
          Differs desired actual key := fun key =>
      hasAction_apply_iff desiredUnique actualUnique
    simp only [matches_iff, ← acts, HasAction]
    rw [List.eq_nil_iff_forall_not_mem]
    simp
  up := fun action member => up_only_adds member
  stops := fun key => countP_stops desiredUnique
  breaking := fun mode action member =>
    breaking_iff desiredUnique actualUnique member

end Diff

/-- A zone with another specification. -/
theorem buildPlan_completeDiff_changedZone :
    (([zone "new"] : List Resource).map StackResourceRecord.key).Nodup ∧
      CompleteDiff noVmConfig [zone "new"] [zone "old"] :=
  ⟨by decide, buildPlan_completeDiff (by decide) (by decide)⟩

end Vzctl
