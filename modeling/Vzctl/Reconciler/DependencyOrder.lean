import Vzctl.Ingress.Render
import Vzctl.Lib.DependencyGraph
import Vzctl.Lib.Outcome

/-!
# Start order of virtual machines

The `dependsOn` checks of `validate_references`, `detect_dependency_cycles` and
`dependency_order`: two traversals of the same graph, of which the second
relies on what the first has rejected.
-/

namespace Vzctl

namespace Dependencies

open DependencyGraph
open Ingress (ValidationIssue)

/-! ## The source -/

/-- `environment.spec.vms` with the field `depends_on`, in the order of the
map. -/
structure VMs where
  dependsOn : List (String × List String)
  distinct : (dependsOn.map Prod.fst).Nodup

namespace VMs

variable (vms : VMs)

def names : List String := vms.dependsOn.map Prod.fst

def get (name : String) : Option (List String) :=
  vms.dependsOn.lookup name

/-- What a VM depends on; nothing depends on an undeclared one. -/
def dependencies (name : String) : List String :=
  (vms.get name).getD []

/-- The dependencies that are VMs. -/
def declaredDependencies (name : String) : List String :=
  (vms.dependencies name).filter fun dependency =>
    (vms.get dependency).isSome

end VMs

/-- `debug` is the `{:?}` of a text, `json` its JSON text. -/
structure Library where
  debug : String → String
  json : String → String

def jsonPathKey (library : Library) (base key : String) : String :=
  if key.toList.zipIdx.all (fun (character, index) =>
      character.isAlphanum || (index > 0 && character = '_')) then
    base ++ "." ++ key
  else
    base ++ "[" ++ library.json key ++ "]"

/-- The dependencies of one VM; `seen` is the set of the valid ones before. -/
def dependsOnIssues (library : Library) (vms : VMs) (vmName : String)
    (seen : List String) (index : Nat) :
    List String → List ValidationIssue
  | [] => []
  | dependency :: rest =>
      let path := jsonPathKey library "$.spec.vms" vmName ++ ".dependsOn[" ++
        Nat.repr index ++ "]"
      if dependency = vmName then
        ⟨path, "VM cannot depend on itself", "semantic"⟩ ::
          dependsOnIssues library vms vmName seen (index + 1) rest
      else if (vms.get dependency).isNone then
        ⟨path, "unknown VM dependency " ++ library.debug dependency,
          "semantic"⟩ ::
          dependsOnIssues library vms vmName seen (index + 1) rest
      else if dependency ∈ seen then
        ⟨path, "duplicate VM dependency " ++ library.debug dependency,
          "semantic"⟩ ::
          dependsOnIssues library vms vmName seen (index + 1) rest
      else
        dependsOnIssues library vms vmName (dependency :: seen) (index + 1)
          rest

/-- The `dependsOn` section of `validate_references`. -/
def validateDependsOn (library : Library) (vms : VMs) :
    List ValidationIssue :=
  vms.dependsOn.flatMap fun (name, dependencies) =>
    dependsOnIssues library vms name [] 0 dependencies

inductive TraversalFailure where
  /-- `Failure::new(EXIT_INVALID, "VM dependency cycle")`. -/
  | cycle
  /-- Indexing the map with a name that it does not have panics. -/
  | panic
  | outOfFuel
  deriving DecidableEq

/-! ### Detection of cycles -/

/-- The sets are lists in the order of insertion. -/
structure DetectState where
  visiting : List String
  visited : List String
  issues : List ValidationIssue

/-- The issue of a VM that is visited while it is being visited. -/
def cycleIssue (library : Library) (visiting : List String) (vm : String) :
    ValidationIssue where
  path := jsonPathKey library "$.spec.vms" vm ++ ".dependsOn"
  message := "dependency cycle: " ++
    String.intercalate " -> " (visiting.dropWhile (· ≠ vm) ++ [vm])
  kind := "semantic"

/-- `visit` of `detect_dependency_cycles`, nested at most `fuel` deep. -/
def detectVisit (library : Library) (vms : VMs) :
    Nat → DetectState → String → Except TraversalFailure DetectState
  | 0, _, _ => .error .outOfFuel
  | fuel + 1, state, vm =>
      if vm ∈ state.visited then
        .ok state
      else if vm ∈ state.visiting then
        .ok { state with
          issues := state.issues ++ [cycleIssue library state.visiting vm] }
      else do
        let opened := { state with visiting := state.visiting ++ [vm] }
        let walked ← (vms.declaredDependencies vm).foldlM
          (detectVisit library vms fuel) opened
        return {
          visiting := walked.visiting.dropLast
          visited := walked.visited ++ [vm]
          issues := walked.issues }

/-- `detect_dependency_cycles`, where every root begins with an empty path. -/
def detectDependencyCycles (library : Library) (vms : VMs) :
    Except TraversalFailure (List ValidationIssue) :=
  (vms.names.foldlM (fun (state : DetectState) vm =>
    detectVisit library vms (vms.names.length + 1)
      { state with visiting := [] } vm) ⟨[], [], []⟩).map
    DetectState.issues

/-! ### The order -/

structure OrderState where
  visiting : List String
  visited : List String
  result : List String

/-- `visit` of `dependency_order`, nested at most `fuel` deep. -/
def visit (vms : VMs) :
    Nat → OrderState → String → Except TraversalFailure OrderState
  | 0, _, _ => .error .outOfFuel
  | fuel + 1, state, name =>
      if name ∈ state.visited then
        .ok state
      else if name ∈ state.visiting then
        .error .cycle
      else
        match vms.get name with
        | none => .error .panic
        | some dependsOn => do
            let opened := { state with visiting := state.visiting ++ [name] }
            let walked ← dependsOn.foldlM (visit vms fuel) opened
            return {
              visiting := walked.visiting.filter (· ≠ name)
              visited := walked.visited ++ [name]
              result := walked.result ++ [name] }

def dependencyOrder (vms : VMs) : Except TraversalFailure (List String) :=
  (vms.names.foldlM (visit vms (vms.names.length + 1)) ⟨[], [], []⟩).map
    OrderState.result

/-! ## The checks of `dependsOn` -/

theorem VMs.get_isSome_iff {vms : VMs} {name : String} :
    (vms.get name).isSome = true ↔ name ∈ vms.names := by
  unfold VMs.get VMs.names
  rw [List.lookup_isSome_iff, List.mem_map]
  simp only [beq_iff_eq, @eq_comm _ name]

theorem declared_of_dependsOnIssues {library : Library} {vms : VMs}
    {vmName : String} {seen : List String} {index : Nat}
    {dependencies : List String}
    (accepted :
      dependsOnIssues library vms vmName seen index dependencies = []) :
    ∀ dependency ∈ dependencies, dependency ∈ vms.names := by
  induction dependencies generalizing seen index with
  | nil => simp
  | cons dependency rest ih =>
      unfold dependsOnIssues at accepted
      by_cases itself : dependency = vmName
      · simp [itself] at accepted
      · by_cases unknown : (vms.get dependency).isNone
        · simp [itself, unknown] at accepted
        · by_cases again : dependency ∈ seen
          · simp [itself, unknown, again] at accepted
          · simp only [itself, unknown, again, if_false,
              Bool.false_eq_true] at accepted
            have declared : dependency ∈ vms.names := by
              rw [← VMs.get_isSome_iff, Option.isSome_iff_ne_none]
              simpa using unknown
            exact List.forall_mem_cons.mpr
              ⟨declared, ih accepted⟩

theorem declared_of_validateDependsOn {library : Library} {vms : VMs}
    (accepted : validateDependsOn library vms = []) {name : String}
    {dependency : String} (edge : Edge vms.dependencies name dependency) :
    dependency ∈ vms.names := by
  unfold Edge VMs.dependencies at edge
  cases found : vms.get name with
  | none => simp [found] at edge
  | some dependencies =>
      rw [found, Option.getD_some] at edge
      have entry : (name, dependencies) ∈ vms.dependsOn :=
        KeyedList.mem_of_lookup found
      have none := List.flatMap_eq_nil_iff.mp accepted _ entry
      exact declared_of_dependsOnIssues none dependency edge

theorem declared_of_ne_nil {vms : VMs} {name : String}
    (depends : vms.dependencies name ≠ []) : name ∈ vms.names := by
  rw [← VMs.get_isSome_iff, Option.isSome_iff_ne_none]
  intro missing
  exact depends (by simp [VMs.dependencies, missing])

/-! ## Open VMs -/

/-- The VMs that are being visited: declared ones, each of them once. -/
structure OpenPath (vms : VMs) (visiting : List String) : Prop where
  declared : ∀ name ∈ visiting, name ∈ vms.names
  distinct : visiting.Nodup

namespace OpenPath

variable {vms : VMs} {visiting : List String} {name : String}

theorem nil : OpenPath vms [] where
  declared := by simp
  distinct := List.nodup_nil

theorem snoc (path : OpenPath vms visiting) (isDeclared : name ∈ vms.names)
    (isNew : name ∉ visiting) : OpenPath vms (visiting ++ [name]) where
  declared := by
    intro other member
    rcases List.mem_append.mp member with old | last
    · exact path.declared other old
    · rwa [List.mem_singleton.mp last]
  distinct := by
    refine List.nodup_append.mpr ⟨path.distinct, List.nodup_singleton name, ?_⟩
    intro old member last isLast same
    rw [List.mem_singleton.mp isLast] at same
    exact isNew (same ▸ member)

theorem length_le (path : OpenPath vms visiting) :
    visiting.length ≤ vms.names.length :=
  (List.subperm_of_subset path.distinct path.declared).length_le

theorem fuel_snoc {fuel : Nat}
    (enough : vms.names.length + 1 ≤ fuel + 1 + visiting.length) :
    vms.names.length + 1 ≤ fuel + (visiting ++ [name]).length := by
  rw [List.length_append, List.length_singleton]
  omega

end OpenPath

/-! ## Detection -/

section Detection

variable {library : Library} {vms : VMs}

/-- Without an issue the visited VMs are in order; an issue is a cycle. -/
structure Detecting (vms : VMs) (state : DetectState) : Prop where
  ordered : state.issues = [] →
    Ordered vms.declaredDependencies state.visited
  cyclic : state.issues ≠ [] → Cyclic vms.declaredDependencies

/-- Nothing that was found is lost. -/
structure Detected (state after : DetectState) : Prop where
  issues : after.issues = [] → state.issues = []
  visited : ∀ name ∈ state.visited, name ∈ after.visited

theorem Detected.refl (state : DetectState) : Detected state state :=
  ⟨id, fun _ member => member⟩

theorem Detected.trans {first second third : DetectState}
    (left : Detected first second) (right : Detected second third) :
    Detected first third where
  issues none := left.issues (right.issues none)
  visited name member := right.visited name (left.visited name member)

/-- A VM that was visited without an issue is among the visited ones. -/
def Finished (name : String) (state : DetectState) : Prop :=
  state.issues = [] → name ∈ state.visited

theorem Finished.mono {name : String} {state after : DetectState}
    (detected : Detected state after) (finished : Finished name state) :
    Finished name after :=
  fun none => detected.visited name (finished (detected.issues none))

theorem detectVisit_spec {fuel : Nat} {state : DetectState} {vm : String}
    (path : OpenPath vms state.visiting) (isDeclared : vm ∈ vms.names)
    (lead : LeadTo vms.declaredDependencies state.visiting vm)
    (enough : vms.names.length + 1 ≤ fuel + state.visiting.length)
    (detecting : Detecting vms state) :
    ∃ after, detectVisit library vms fuel state vm = .ok after ∧
      (Detecting vms after ∧ after.visiting = state.visiting) ∧
        Detected state after ∧ Finished vm after := by
  induction fuel generalizing state vm with
  | zero =>
      have := path.length_le
      omega
  | succ fuel ih =>
      unfold detectVisit
      by_cases visited : vm ∈ state.visited
      · rw [if_pos visited]
        exact ⟨state, rfl, ⟨detecting, rfl⟩, .refl state, fun _ => visited⟩
      · rw [if_neg visited]
        by_cases visiting : vm ∈ state.visiting
        · rw [if_pos visiting]
          have cycle := lead.cyclic visiting
          refine ⟨_, rfl, ⟨⟨?_, fun _ => cycle⟩, rfl⟩, ⟨?_, ?_⟩, ?_⟩
          · simp
          · simp
          · exact fun _ member => member
          · simp [Finished]
        · rw [if_neg visiting]
          have opened := path.snoc isDeclared visiting
          have each : ∀ dependency ∈ vms.declaredDependencies vm, ∀ middle,
              Detecting vms middle ∧
                middle.visiting = state.visiting ++ [vm] →
              ∃ after, detectVisit library vms fuel middle dependency =
                  .ok after ∧
                (Detecting vms after ∧
                  after.visiting = state.visiting ++ [vm]) ∧
                Detected middle after ∧ Finished dependency after := by
            intro dependency member middle good
            obtain ⟨middleDetecting, middleVisiting⟩ := good
            rw [← middleVisiting] at opened ⊢
            refine ih opened ?_ ?_ ?_ middleDetecting
            · exact VMs.get_isSome_iff.mp (List.mem_filter.mp member).2
            · rw [middleVisiting]
              exact lead.step member (by simp [or_comm])
            · rw [middleVisiting]
              exact OpenPath.fuel_snoc enough
          obtain ⟨walked, folded, good, detected, finished⟩ :=
            Outcome.foldlM_progress each Detected.refl Detected.trans
              Finished.mono
              (show Detecting vms { state with
                  visiting := state.visiting ++ [vm] } ∧ _ from
                ⟨⟨detecting.ordered, detecting.cyclic⟩, rfl⟩)
          obtain ⟨walkedDetecting, walkedVisiting⟩ := good
          refine ⟨_, Outcome.bind_eq_ok_iff.mpr ⟨walked, folded, rfl⟩,
            ⟨⟨?_, walkedDetecting.cyclic⟩, ?_⟩, ⟨detected.issues, ?_⟩, ?_⟩
          · intro none
            exact (walkedDetecting.ordered none).snoc fun dependency member =>
              finished dependency member none
          · simp [walkedVisiting]
          · intro name member
            exact List.mem_append_left _ (detected.visited name member)
          · simp [Finished]

theorem detectDependencyCycles_spec (library : Library) (vms : VMs) :
    ∃ issues, detectDependencyCycles library vms = .ok issues ∧
      (issues = [] ↔ ¬ Cyclic vms.dependencies) := by
  have declared : ∀ name, vms.dependencies name ≠ [] →
      (vms.get name).isSome = true := fun name depends =>
    VMs.get_isSome_iff.mpr (declared_of_ne_nil depends)
  have each : ∀ vm ∈ vms.names, ∀ state, Detecting vms state →
      ∃ after, detectVisit library vms (vms.names.length + 1)
          { state with visiting := [] } vm = .ok after ∧
        Detecting vms after ∧ Detected state after ∧ Finished vm after := by
    intro vm isDeclared state detecting
    obtain ⟨after, visited, good, detected, finished⟩ :=
      @detectVisit_spec library vms (vms.names.length + 1)
        { state with visiting := [] } vm .nil isDeclared
        (by simp [LeadTo]) (by simp)
        ⟨detecting.ordered, detecting.cyclic⟩
    exact ⟨after, visited, good.1, ⟨detected.issues, detected.visited⟩,
      finished⟩
  obtain ⟨final, folded, detecting, _, finished⟩ :=
    Outcome.foldlM_progress each Detected.refl Detected.trans Finished.mono
      (show Detecting vms ⟨[], [], []⟩ from ⟨fun _ => ordered_nil, by simp⟩)
  refine ⟨final.issues, ?_, ?_⟩
  · rw [detectDependencyCycles, folded]
    rfl
  · rw [← cyclic_filter_iff declared]
    constructor
    · intro none
      refine (detecting.ordered none).not_cyclic fun name depends => ?_
      have someDependency : vms.dependencies name ≠ [] := by
        intro nothing
        exact depends (by simp [VMs.declaredDependencies, nothing])
      exact finished name (declared_of_ne_nil someDependency) none
    · intro acyclic
      by_contra some
      exact acyclic (detecting.cyclic some)

end Detection

/-! ## The order of an accepted configuration -/

section Order

variable {vms : VMs}

/-- The result so far is in order; open VMs are not in it. -/
structure OrderedSoFar (vms : VMs) (state : OrderState) : Prop where
  ordered : Ordered vms.dependencies state.result
  distinct : state.result.Nodup
  declared : ∀ name ∈ state.result, name ∈ vms.names
  visited : ∀ name, name ∈ state.visited ↔ name ∈ state.result
  closed : ∀ name ∈ state.visiting, name ∉ state.result

theorem OrderedSoFar.close {state : OrderState} {visiting : List String}
    {name : String} (ordering : OrderedSoFar vms state)
    (isOpen : state.visiting = visiting ++ [name])
    (isDeclared : name ∈ vms.names)
    (ready : ∀ dependency ∈ vms.dependencies name,
      dependency ∈ state.result) :
    OrderedSoFar vms {
      visiting := state.visiting.filter (· ≠ name)
      visited := state.visited ++ [name]
      result := state.result ++ [name] } where
  ordered := ordering.ordered.snoc ready
  distinct := by
    have fresh := ordering.closed name (by simp [isOpen])
    refine List.nodup_append.mpr
      ⟨ordering.distinct, List.nodup_singleton name, ?_⟩
    intro old member last isLast same
    rw [List.mem_singleton.mp isLast] at same
    exact fresh (same ▸ member)
  declared := by
    intro other member
    rcases List.mem_append.mp member with old | last
    · exact ordering.declared other old
    · rwa [List.mem_singleton.mp last]
  visited := by
    intro other
    simp only [List.mem_append, ordering.visited]
  closed := by
    intro other member
    obtain ⟨inside, different⟩ := List.mem_filter.mp member
    have other_ne : other ≠ name := of_decide_eq_true different
    simp [ordering.closed other inside, other_ne]

theorem visit_spec (acyclic : ¬ Cyclic vms.dependencies)
    (accepted : ∀ name, ∀ dependency ∈ vms.dependencies name,
      dependency ∈ vms.names)
    {fuel : Nat} {state : OrderState} {name : String}
    (path : OpenPath vms state.visiting) (isDeclared : name ∈ vms.names)
    (lead : LeadTo vms.dependencies state.visiting name)
    (enough : vms.names.length + 1 ≤ fuel + state.visiting.length)
    (ordering : OrderedSoFar vms state) :
    ∃ after, visit vms fuel state name = .ok after ∧
      (OrderedSoFar vms after ∧ after.visiting = state.visiting) ∧
        state.result ⊆ after.result ∧ name ∈ after.result := by
  induction fuel generalizing state name with
  | zero =>
      have := path.length_le
      omega
  | succ fuel ih =>
      unfold visit
      by_cases visited : name ∈ state.visited
      · rw [if_pos visited]
        exact ⟨state, rfl, ⟨ordering, rfl⟩, List.Subset.refl _,
          (ordering.visited name).mp visited⟩
      · have isNew : name ∉ state.visiting := fun inside =>
          acyclic (lead.cyclic inside)
        rw [if_neg visited, if_neg isNew]
        obtain ⟨dependsOn, found⟩ := Option.isSome_iff_exists.mp
          (VMs.get_isSome_iff.mpr isDeclared)
        have same : vms.dependencies name = dependsOn := by
          simp [VMs.dependencies, found]
        rw [found, ← same]
        have opened := path.snoc isDeclared isNew
        have each : ∀ dependency ∈ vms.dependencies name, ∀ middle,
            OrderedSoFar vms middle ∧
              middle.visiting = state.visiting ++ [name] →
            ∃ after, visit vms fuel middle dependency = .ok after ∧
              (OrderedSoFar vms after ∧
                after.visiting = state.visiting ++ [name]) ∧
              middle.result ⊆ after.result ∧ dependency ∈ after.result := by
          intro dependency member middle good
          obtain ⟨middleOrdering, middleVisiting⟩ := good
          rw [← middleVisiting] at opened ⊢
          refine ih opened
            (accepted name dependency member) ?_ ?_ middleOrdering
          · rw [middleVisiting]
            exact lead.step member (by simp [or_comm])
          · rw [middleVisiting]
            exact OpenPath.fuel_snoc enough
        have start : OrderedSoFar vms { state with
            visiting := state.visiting ++ [name] } ∧
              state.visiting ++ [name] = state.visiting ++ [name] := by
          refine ⟨{ ordering with closed := ?_ }, rfl⟩
          intro other member
          rcases List.mem_append.mp member with old | last
          · exact ordering.closed other old
          · rw [List.mem_singleton.mp last, ← ordering.visited]
            exact visited
        obtain ⟨walked, folded, good, kept, ready⟩ :=
          Outcome.foldlM_progress each (fun _ => List.Subset.refl _)
            List.Subset.trans (fun kept member => kept member) start
        obtain ⟨walkedOrdering, walkedVisiting⟩ := good
        refine ⟨_, Outcome.bind_eq_ok_iff.mpr ⟨walked, folded, rfl⟩,
          ⟨walkedOrdering.close walkedVisiting isDeclared ready, ?_⟩,
          ?_, ?_⟩
        · have others : state.visiting.filter (· ≠ name) = state.visiting :=
            List.filter_eq_self.mpr fun other member =>
              decide_eq_true fun same => isNew (same ▸ member)
          change walked.visiting.filter (· ≠ name) = state.visiting
          rw [walkedVisiting, List.filter_append, others]
          simp
        · exact fun other member => List.mem_append_left _ (kept member)
        · simp

/-- Every VM once, behind its dependencies; backwards the order is one for
stopping them. -/
structure IsStartOrder (vms : VMs) (order : List String) : Prop where
  complete : order.Perm vms.names
  ordered : Ordered vms.dependencies order
  reversed : StopOrdered vms.dependencies order.reverse

theorem dependencyOrder_spec (acyclic : ¬ Cyclic vms.dependencies)
    (accepted : ∀ name, ∀ dependency ∈ vms.dependencies name,
      dependency ∈ vms.names) :
    ∃ order, dependencyOrder vms = .ok order ∧ IsStartOrder vms order := by
  have each : ∀ name ∈ vms.names, ∀ state,
      OrderedSoFar vms state ∧ state.visiting = [] →
      ∃ after, visit vms (vms.names.length + 1) state name = .ok after ∧
        (OrderedSoFar vms after ∧ after.visiting = []) ∧
          state.result ⊆ after.result ∧ name ∈ after.result := by
    intro name isDeclared state good
    obtain ⟨ordering, noneOpen⟩ := good
    rw [← noneOpen]
    refine visit_spec acyclic accepted ?_ isDeclared ?_ ?_ ordering
    · rw [noneOpen]
      exact .nil
    · simp [LeadTo, noneOpen]
    · simp
  have start : OrderedSoFar vms ⟨[], [], []⟩ :=
    ⟨ordered_nil, List.nodup_nil, by simp, by simp, by simp⟩
  obtain ⟨final, folded, good, _, complete⟩ :=
    Outcome.foldlM_progress each (fun _ => List.Subset.refl _)
      List.Subset.trans (fun kept member => kept member) ⟨start, rfl⟩
  obtain ⟨ordering, _⟩ := good
  refine ⟨final.result, ?_, ?_, ordering.ordered,
    ordering.ordered.reverse ordering.distinct⟩
  · rw [dependencyOrder, folded]
    rfl
  · exact (List.perm_ext_iff_of_nodup ordering.distinct vms.distinct).mpr
      fun name => ⟨ordering.declared name, complete name⟩

/-- The detection rejects exactly the cyclic graphs, and what validation
accepts has a start order. -/
theorem startOrder_of_validation (library : Library) (vms : VMs) :
    (∃ issues, detectDependencyCycles library vms = .ok issues ∧
      (issues = [] ↔ ¬ Cyclic vms.dependencies)) ∧
    (validateDependsOn library vms = [] →
      detectDependencyCycles library vms = .ok [] →
        ∃ order, dependencyOrder vms = .ok order ∧
          IsStartOrder vms order) := by
  have detection := detectDependencyCycles_spec library vms
  refine ⟨detection, ?_⟩
  intro accepted noCycle
  obtain ⟨issues, detected, issues_iff⟩ := detection
  rw [noCycle] at detected
  have none : issues = [] := (Except.ok.inj detected).symm
  exact dependencyOrder_spec (issues_iff.mp none)
    fun name dependency edge => declared_of_validateDependsOn accepted edge

end Order

/-! ## A diamond -/

def plainLibrary : Library := ⟨id, id⟩

/-- Two VMs between a front end and its database. -/
def diamond : VMs where
  dependsOn := [("app", ["db"]), ("db", []), ("jobs", ["db"]),
    ("web", ["app", "jobs"])]
  distinct := by decide

example : dependencyOrder diamond = .ok ["db", "app", "jobs", "web"] := by
  rfl

theorem startOrder_diamond :
    validateDependsOn plainLibrary diamond = [] ∧
      ∃ order, dependencyOrder diamond = .ok order ∧
        IsStartOrder diamond order := by
  have accepted : validateDependsOn plainLibrary diamond = [] := by
    rfl
  have noCycle : detectDependencyCycles plainLibrary diamond = .ok [] := by
    rfl
  exact ⟨accepted,
    (startOrder_of_validation plainLibrary diamond).2 accepted noCycle⟩

end Dependencies

end Vzctl
