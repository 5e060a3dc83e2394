import Vzctl.Lib.RoundRobin
import Vzctl.Supervisor.WorkerResults

/-!
# Every waiting project has its turn

`tick` starts the worker of one project at a time.  A project that is
registered and due at every tick is chosen before another one is chosen twice,
whatever is registered and removed meanwhile.
-/

namespace Vzctl

namespace Controllers

open Transitions

namespace ControllerReconciler

variable {state before after : ControllerReconciler}
  {rules : TextRules} {env : ReconcilerEnv} {project waiting : String}

/-- The project whose worker was started between two states. -/
def startedProject (before after : ControllerReconciler) : Option String :=
  if after.started = before.started then
    none
  else
    after.active.map (·.registration.project)

/-- The projects whose workers are started along some steps. -/
def selections (rules : TextRules) :
    ControllerReconciler → List (ReconcilerEnv × ReconcilerAction) →
      List String
  | _, [] => []
  | state, label :: rest =>
      (startedProject state (state.perform rules label)).toList ++
        selections rules (state.perform rules label) rest

/-- If the step is a tick, the project is registered and due. -/
def Waits (waiting : String) (state : ControllerReconciler) :
    ReconcilerEnv × ReconcilerAction → Prop
  | (env, .tick) => waiting ∈ state.registrations ∧
      ∃ due ∈ state.eligibleAt.lookup waiting, due ≤ env.now
  | _ => True

instance (waiting : String) (state : ControllerReconciler)
    (label : ReconcilerEnv × ReconcilerAction) :
    Decidable (Waits waiting state label) :=
  match label with
  | (_, .tick) => inferInstanceAs (Decidable (_ ∧ _))
  | (_, .register _) | (_, .unregister ..) | (_, .unregisterPath ..)
  | (_, .proceed ..) | (_, .stop) | (_, .work ..) =>
      inferInstanceAs (Decidable True)

/-- The registry files every registration under its project. -/
def Keyed (state : ControllerReconciler) : Prop :=
  ∀ project record, state.registrations.lookup project = some record →
    record.project = project

/-! ## Every other step leaves the turn alone -/

structure KeepsTurn (before after : ControllerReconciler) : Prop where
  lastProject : after.lastProject = before.lastProject
  started : after.started = before.started
  keyed : before.Keyed → after.Keyed

theorem keepsTurn_of_same (last : after.lastProject = before.lastProject)
    (started : after.started = before.started)
    (registrations : after.registrations = before.registrations) :
    KeepsTurn before after where
  lastProject := last
  started := started
  keyed keyed project record found := by
    rw [registrations] at found
    exact keyed project record found

theorem keepsTurn_register (env : ReconcilerEnv) (project : String)
    (state : ControllerReconciler) :
    KeepsTurn state (register env project state).2 := by
  obtain ⟨file, failed | ⟨record, _, _, done⟩⟩ :=
    register_cases env project state
  · rw [failed]
    exact keepsTurn_of_same rfl rfl rfl
  · rw [done, registered, persistStatuses_eq]
    refine ⟨rfl, rfl, ?_⟩
    intro keyed other current found
    by_cases same : other = record.project
    · subst same
      rw [forget, AList.lookup_insert] at found
      rw [← Option.some.inj found]
    · rw [forget, AList.lookup_insert_ne same] at found
      exact keyed other current found

theorem keepsTurn_removed (env : ReconcilerEnv) (project : String)
    (state : ControllerReconciler) (file : Dictionary Registration) :
    KeepsTurn state
      (removed env { state with registryFile := file } project) := by
  rw [removed, persistStatuses_eq]
  refine ⟨rfl, rfl, ?_⟩
  intro keyed other record found
  exact keyed other record (Dictionary.lookup_of_lookup_erase found)

theorem keepsTurn_unregisterStep (env : ReconcilerEnv)
    (state : ControllerReconciler) (call : Nat) (timedOut : Bool) :
    KeepsTurn state (state.unregisterStep env call timedOut) := by
  rw [unregisterStep]
  split
  · exact keepsTurn_of_same rfl rfl rfl
  · exact keepsTurn_of_same rfl rfl rfl
  · rename_i project rest found
    obtain ⟨file, removes | ⟨failure, refused⟩⟩ :=
      unregisterLocked_cases env project state
    · rw [removes]
      have keeps := keepsTurn_removed env project state file
      rcases state.activeCompletion project with _ | number
      · exact ⟨keeps.lastProject, keeps.started, keeps.keyed⟩
      · exact ⟨keeps.lastProject, keeps.started, keeps.keyed⟩
    · rw [refused]
      exact keepsTurn_of_same rfl rfl rfl
  · split
    · exact keepsTurn_of_same rfl rfl rfl
    · split
      · exact keepsTurn_of_same rfl rfl rfl
      · exact keepsTurn_of_same rfl rfl rfl

theorem keepsTurn_record (env : ReconcilerEnv)
    (state : ControllerReconciler) (registration : Registration)
    (summary : JSONValue) :
    KeepsTurn state (state.record env registration summary).1 := by
  rw [record]
  split
  · exact keepsTurn_of_same rfl rfl rfl
  · simp only []
    rw [persistStatuses_eq]
    exact keepsTurn_of_same rfl rfl rfl

theorem keepsTurn_workerStep (env : ReconcilerEnv)
    (state : ControllerReconciler) (rules : TextRules)
    (result : WorkerResult) (number : Nat) :
    KeepsTurn state (state.workerStep env rules result number) := by
  have same : KeepsTurn state state := keepsTurn_of_same rfl rfl rfl
  rw [workerStep]
  rcases state.tasks number with _ | task
  · exact same
  · rcases point : task.point with _ | _ | summary | summary | _
    · simp only [point]
      exact ⟨rfl, rfl, same.keyed⟩
    · simp only [point]
      exact ⟨rfl, rfl, same.keyed⟩
    · simp only [point]
      have keeps :=
        keepsTurn_record env state task.active.registration summary
      exact ⟨keeps.lastProject, keeps.started, keeps.keyed⟩
    · simp only [point]
      exact ⟨rfl, rfl, same.keyed⟩
    · simp only [point]
      exact ⟨rfl, rfl, same.keyed⟩

theorem keepsTurn_perform (rules : TextRules)
    (label : ReconcilerEnv × ReconcilerAction) (other : label.2 ≠ .tick) :
    KeepsTurn state (state.perform rules label) := by
  obtain ⟨env, action⟩ := label
  cases action with
  | register project => exact keepsTurn_register env project state
  | unregister call project =>
      rw [perform]
      split
      · exact keepsTurn_of_same rfl rfl rfl
      · exact keepsTurn_of_same rfl rfl rfl
  | unregisterPath call path =>
      rw [perform]
      split
      · exact keepsTurn_of_same rfl rfl rfl
      · exact keepsTurn_of_same rfl rfl rfl
  | proceed call timedOut =>
      exact keepsTurn_unregisterStep env state call timedOut
  | stop => exact keepsTurn_of_same rfl rfl rfl
  | tick => exact absurd rfl other
  | work number result =>
      exact keepsTurn_workerStep env state rules result number

/-! ## A tick takes the next turn -/

theorem candidate_of_waits (keyed : state.Keyed)
    (waits : Waits waiting state (env, .tick)) :
    ∃ record ∈ state.candidates env, record.project = waiting := by
  obtain ⟨isRegistered, due, eligible, reached⟩ := waits
  obtain ⟨record, found⟩ :=
    Option.isSome_iff_exists.mp (AList.lookup_isSome.mpr isRegistered)
  have named := keyed waiting record found
  refine ⟨record, ?_, named⟩
  rw [candidates, SortedBy.mem_sortedBy, List.mem_filter]
  constructor
  · exact List.mem_map.mpr
      ⟨⟨waiting, record⟩, AList.mem_lookup_iff.mp found, rfl⟩
  · rw [named, Option.mem_def.mp eligible]
    exact decide_eq_true reached

/-- What a tick does to the turn. -/
structure TakesTurn (waiting : String)
    (before after : ControllerReconciler) : Prop where
  started : startedProject before after = some after.lastProject
  turns : RoundRobin.Turns waiting before.lastProject after.lastProject
  keyed : before.Keyed → after.Keyed

theorem keepsTurn_or_takesTurn_tick (keyed : state.Keyed)
    (waits : Waits waiting state (env, .tick)) :
    KeepsTurn state (state.tick env) ∨
      TakesTurn waiting state (state.tick env) := by
  obtain ⟨record, isCandidate, rfl⟩ := candidate_of_waits keyed waits
  rw [tick]
  split
  · exact .inl (keepsTurn_of_same rfl rfl rfl)
  · rcases chosen : state.selected env with _ | registration
    · exact .inl (keepsTurn_of_same rfl rfl rfl)
    · refine .inr ⟨?_, ?_, fun keyed => keyed⟩
      · simp [startedProject]
      · exact RoundRobin.turns_of_next SortedBy.pairwise_sortedBy
          isCandidate chosen

theorem keepsTurn_or_takesTurn (rules : TextRules)
    (label : ReconcilerEnv × ReconcilerAction) (keyed : state.Keyed)
    (waits : Waits waiting state label) :
    KeepsTurn state (state.perform rules label) ∨
      TakesTurn waiting state (state.perform rules label) := by
  by_cases isTick : label.2 = .tick
  · obtain ⟨env, action⟩ := label
    subst isTick
    exact keepsTurn_or_takesTurn_tick keyed waits
  · exact .inl (keepsTurn_perform rules label isTick)

theorem keyed_perform (rules : TextRules)
    (label : ReconcilerEnv × ReconcilerAction) (keyed : state.Keyed) :
    (state.perform rules label).Keyed := by
  by_cases isTick : label.2 = .tick
  · obtain ⟨env, action⟩ := label
    subst isTick
    rcases tick_cases env state with same | ⟨worker, _, _, starts⟩
    · rw [perform, same]
      exact keyed
    · intro project record found
      rw [perform, starts.registrations] at found
      exact keyed project record found
  · exact (keepsTurn_perform rules label isTick).keyed keyed

/-! ## Runs -/

theorem keyed_of_runs {isUUID : String → Bool} {now interval : Nat}
    {registry : RegistryFile} {statuses : Dictionary JSONValue}
    (run : Runs (ofFunction (perform rules))
      (loaded isUUID now interval registry statuses) state) :
    state.Keyed := by
  refine invariant_of_runs Keyed ?_ ?_ run
  · rintro source label _ keyed rfl
    exact keyed_perform rules label keyed
  · intro project record found
    have fenced := fenced_loaded isUUID now interval registry statuses
    exact (fenced.keyed project record found).1

theorem turns_of_along {labels : List (ReconcilerEnv × ReconcilerAction)}
    (keyed : state.Keyed)
    (waits : Along (Waits waiting) (perform rules) state labels) :
    (state.lastProject :: selections rules state labels).IsChain
      (RoundRobin.Turns waiting) := by
  induction labels generalizing state with
  | nil => simp [selections]
  | cons label rest ih =>
      obtain ⟨first, later⟩ := waits
      have turns := ih (keyed_perform rules label keyed) later
      rw [selections]
      rcases keepsTurn_or_takesTurn rules label keyed first with keeps | takes
      · rw [startedProject, if_pos keeps.started]
        rw [keeps.lastProject] at turns
        simpa using turns
      · rw [takes.started]
        simp only [Option.toList_some, List.singleton_append]
        rw [List.isChain_cons_cons]
        exact ⟨takes.turns, turns⟩

/-- A project that is registered and due at every tick is chosen between two
choices of another one. -/
theorem fair_of_runs {isUUID : String → Bool} {now interval : Nat}
    {registry : RegistryFile} {statuses : Dictionary JSONValue}
    {labels : List (ReconcilerEnv × ReconcilerAction)} {other : String}
    {earlier between later : List String}
    (run : Runs (ofFunction (perform rules))
      (loaded isUUID now interval registry statuses) state)
    (waits : Along (Waits waiting) (perform rules) state labels)
    (differs : other ≠ waiting)
    (twice : selections rules state labels =
      earlier ++ other :: (between ++ other :: later)) :
    waiting ∈ between := by
  have turns := turns_of_along (keyed_of_runs run) waits
  rw [twice] at turns
  have split : state.lastProject ::
      (earlier ++ other :: (between ++ other :: later)) =
        (state.lastProject :: earlier) ++
          (other :: (between ++ [other])) ++ later := by
    simp
  rw [split, List.append_assoc] at turns
  have window := turns.right_of_append.left_of_append
  exact RoundRobin.mem_between window differs

/-- `api` and `web` are registered, and every worker ends at once. -/
def twoProjects : List (ReconcilerEnv × ReconcilerAction) :=
  [({ file := some "/srv/api.yaml", uuid := "first" }, .register "api"),
    ({ file := some "/srv/web.yaml", uuid := "second" }, .register "web")]

def threeTicks : List (ReconcilerEnv × ReconcilerAction) :=
  let worker (number : Nat) : List (ReconcilerEnv × ReconcilerAction) :=
    List.replicate 5 ({ now := 40 }, .work number .failed)
  [({ now := 40 }, .tick)] ++ worker 0 ++
    [({ now := 80 }, .tick)] ++ worker 1 ++ [({ now := 120 }, .tick)]

/-- What `twoProjects` leads to. -/
def twoRegistered : ControllerReconciler :=
  twoProjects.foldl (perform lowercasedNothing)
    (loaded (fun _ => true) 0 30 .missing ∅)

theorem fair_of_threeTicks :
    ∃ between, selections lowercasedNothing twoRegistered threeTicks =
      [] ++ "api" :: (between ++ "api" :: []) ∧ "web" ∈ between := by
  have chosen : selections lowercasedNothing twoRegistered threeTicks =
      [] ++ "api" :: (["web"] ++ "api" :: []) := by
    decide +kernel
  have waits : Along (Waits "web") (perform lowercasedNothing) twoRegistered
      threeTicks := by
    decide +kernel
  have run := Runs.ofFunction_foldl (perform lowercasedNothing) twoProjects
    (loaded (fun _ => true) 0 30 .missing ∅)
  exact ⟨["web"], chosen, fair_of_runs run waits (by decide) chosen⟩

end ControllerReconciler

end Controllers

end Vzctl
