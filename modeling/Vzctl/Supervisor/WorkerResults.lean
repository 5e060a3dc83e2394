import Vzctl.Supervisor.WorkerFencing

/-!
# What a controller worker leaves behind

The summary of a worker is recorded, and its event announced, for the
registration that the worker was started for.
-/

namespace Vzctl

namespace Controllers

open Transitions

namespace ControllerReconciler

variable {state before after : ControllerReconciler}
  {rules : TextRules} {project : String}

/-- The action is the end of a worker that was chosen under the present
registration of the project. -/
def RecordedBy (state : ControllerReconciler) (action : ReconcilerAction)
    (project : String) (summary : JSONValue) : Prop :=
  ∃ number result task, action = .work number result ∧
    state.tasks number = some task ∧ task.point = .recording summary ∧
    task.active.registration.project = project ∧
    task.registered = state.registerCount project

/-- The event is that of a worker, under the generation it was started with,
which no later registration has. -/
def AnnouncedBy (state : ControllerReconciler) (action : ReconcilerAction)
    (event : ControllerEvent) : Prop :=
  ∃ number result task, action = .work number result ∧
    state.tasks number = some task ∧
    task.point = .announcing event.status ∧ event.worker = task.active ∧
    event.project = task.active.registration.project ∧
    event.generation = task.active.registration.generation ∧
    (task.registered < state.registerCount event.project →
      ∀ current, state.registrations.lookup event.project = some current →
        current.generation ≠ event.generation)

/-- What an action records and announces, it does for the registration that a
project has. -/
structure RecordsOwn (before : ControllerReconciler)
    (action : ReconcilerAction) (after : ControllerReconciler) : Prop where
  summary : ∀ project summary,
    after.lastSummary.lookup project = some summary →
      before.lastSummary.lookup project = some summary ∨
      before.RecordedBy action project summary
  attempt : ∀ project attempt,
    after.lastAttemptAt.lookup project = some attempt →
      before.lastAttemptAt.lookup project = some attempt ∨
      ∃ summary, before.RecordedBy action project summary
  events : ∀ event ∈ after.events,
    event ∈ before.events ∨ before.AnnouncedBy action event

/-- Summaries are only forgotten in between. -/
structure OnlyForgets (before after : ControllerReconciler) : Prop where
  summary : ∀ project summary,
    after.lastSummary.lookup project = some summary →
      before.lastSummary.lookup project = some summary
  attempt : ∀ project attempt,
    after.lastAttemptAt.lookup project = some attempt →
      before.lastAttemptAt.lookup project = some attempt
  events : after.events = before.events

theorem onlyForgets_of_same
    (summaries : after.lastSummary = before.lastSummary)
    (attempts : after.lastAttemptAt = before.lastAttemptAt)
    (events : after.events = before.events) : OnlyForgets before after where
  summary project summary found := by
    rw [summaries] at found
    exact found
  attempt project attempt found := by
    rw [attempts] at found
    exact found
  events := events

theorem OnlyForgets.recordsOwn (forgets : OnlyForgets before after)
    (action : ReconcilerAction) : RecordsOwn before action after where
  summary project summary found := .inl (forgets.summary project summary found)
  attempt project attempt found := .inl (forgets.attempt project attempt found)
  events event member := by
    rw [forgets.events] at member
    exact .inl member

theorem onlyForgets_removed (env : ReconcilerEnv) (project : String)
    (state : ControllerReconciler) (file : Dictionary Registration) :
    OnlyForgets state
      (removed env { state with registryFile := file } project) := by
  rw [removed, persistStatuses_eq]
  constructor
  · intro other summary found
    exact Dictionary.lookup_of_lookup_erase found
  · intro other attempt found
    exact Dictionary.lookup_of_lookup_erase found
  · rfl

theorem onlyForgets_registered (env : ReconcilerEnv)
    (state : ControllerReconciler) (file : Dictionary Registration)
    (record : Registration) : OnlyForgets state
      (registered env { state with registryFile := file } record) := by
  rw [registered, persistStatuses_eq]
  constructor
  · intro other summary found
    exact Dictionary.lookup_of_lookup_erase found
  · intro other attempt found
    exact Dictionary.lookup_of_lookup_erase found
  · rfl

theorem onlyForgets_register (env : ReconcilerEnv) (project : String)
    (state : ControllerReconciler) :
    OnlyForgets state (register env project state).2 := by
  obtain ⟨file, failed | ⟨record, _, _, done⟩⟩ :=
    register_cases env project state
  · rw [failed]
    exact onlyForgets_of_same rfl rfl rfl
  · rw [done]
    exact onlyForgets_registered env state file record

theorem onlyForgets_unregisterStep (env : ReconcilerEnv)
    (state : ControllerReconciler) (call : Nat) (timedOut : Bool) :
    OnlyForgets state (state.unregisterStep env call timedOut) := by
  have same : OnlyForgets state state := onlyForgets_of_same rfl rfl rfl
  rw [unregisterStep]
  split
  · exact same
  · exact ⟨same.summary, same.attempt, rfl⟩
  · rename_i project rest found
    obtain ⟨file, removes | ⟨failure, refused⟩⟩ :=
      unregisterLocked_cases env project state
    · rw [removes]
      have forgets := onlyForgets_removed env project state file
      rcases state.activeCompletion project with _ | number
      · exact ⟨forgets.summary, forgets.attempt, forgets.events⟩
      · exact ⟨forgets.summary, forgets.attempt, forgets.events⟩
    · rw [refused]
      exact ⟨same.summary, same.attempt, rfl⟩
  · split
    · exact ⟨same.summary, same.attempt, rfl⟩
    · split
      · exact ⟨same.summary, same.attempt, rfl⟩
      · exact same

theorem onlyForgets_tick (env : ReconcilerEnv)
    (state : ControllerReconciler) : OnlyForgets state (state.tick env) := by
  rw [tick]
  split
  · exact onlyForgets_of_same rfl rfl rfl
  · split
    · exact onlyForgets_of_same rfl rfl rfl
    · exact onlyForgets_of_same rfl rfl rfl

theorem record_lookup (env : ReconcilerEnv) (state : ControllerReconciler)
    (registration : Registration) (summary : JSONValue) :
    (state.record env registration summary).1.events = state.events ∧
    (∀ project value,
      (state.record env registration summary).1.lastSummary.lookup project =
          some value →
        state.lastSummary.lookup project = some value ∨
        registration.project = project ∧ summary = value ∧
          state.isCurrent registration = true) ∧
    ∀ project attempt,
      (state.record env registration summary).1.lastAttemptAt.lookup project =
          some attempt →
        state.lastAttemptAt.lookup project = some attempt ∨
        registration.project = project ∧
          state.isCurrent registration = true := by
  rw [record]
  split
  · exact ⟨rfl, fun _ _ found => .inl found, fun _ _ found => .inl found⟩
  · rename_i ready
    have current : state.isCurrent registration = true := by
      by_contra other
      exact ready (.inr (Bool.eq_false_of_not_eq_true other))
    simp only []
    rw [persistStatuses_eq]
    refine ⟨rfl, fun project value found => ?_, fun project attempt found => ?_⟩
    · rcases Dictionary.eq_of_lookup_insert found with old | ⟨named, same⟩
      · exact .inl old
      · exact .inr ⟨named, same, current⟩
    · rcases Dictionary.eq_of_lookup_insert found with old | ⟨named, _⟩
      · exact .inl old
      · exact .inr ⟨named, current⟩

theorem TaskFenced.count_of_isCurrent {number : Nat} {task : WorkerTask}
    (fenced : state.TaskFenced number task)
    (current : state.isCurrent task.active.registration = true) :
    task.registered =
      state.registerCount task.active.registration.project := by
  rw [isCurrent, decide_eq_true_eq, Option.map_eq_some_iff] at current
  obtain ⟨record, found, same⟩ := current
  rcases Nat.lt_or_eq_of_le fenced.counted with isOlder | same'
  · exact absurd same (fenced.older isOlder record found)
  · exact same'

theorem Fenced.recordsOwn_workerStep (fenced : state.Fenced)
    (rules : TextRules) (env : ReconcilerEnv) (number : Nat)
    (result : WorkerResult) :
    RecordsOwn state (.work number result)
      (state.workerStep env rules result number) := by
  have sameTables : ∀ tasks, RecordsOwn state (.work number result)
      { state with tasks := tasks } := by
    intro tasks
    apply OnlyForgets.recordsOwn
    exact onlyForgets_of_same rfl rfl rfl
  rw [workerStep]
  rcases found : state.tasks number with _ | task
  · exact sameTables state.tasks
  · have known := fenced.tasks number task found
    rcases point : task.point with _ | _ | summary | summary | _
    · simp only [point]
      exact sameTables _
    · simp only [point]
      exact sameTables _
    · simp only [point]
      obtain ⟨events, summaries, attempts⟩ :=
        record_lookup env state task.active.registration summary
      constructor
      · intro project value valueFound
        rcases summaries project value valueFound with
          old | ⟨named, same, current⟩
        · exact .inl old
        · refine .inr ⟨number, result, task, rfl, found, ?_, named, ?_⟩
          · rw [point, same]
          · rw [← named]
            exact known.count_of_isCurrent current
      · intro project attempt attemptFound
        rcases attempts project attempt attemptFound with
          old | ⟨named, current⟩
        · exact .inl old
        · refine .inr ⟨summary, number, result, task, rfl, found, point,
            named, ?_⟩
          rw [← named]
          exact known.count_of_isCurrent current
      · intro event member
        rw [moveTask, events] at member
        exact .inl member
    · simp only [point]
      constructor
      · intro project value valueFound
        exact .inl valueFound
      · intro project attempt attemptFound
        exact .inl attemptFound
      · intro event member
        rcases List.mem_append.mp member with old | new
        · exact .inl old
        · rw [List.mem_singleton] at new
          subst new
          exact .inr ⟨number, result, task, rfl, found, point, rfl, rfl,
            rfl, known.older⟩
    · simp only [point]
      exact sameTables _

theorem Fenced.recordsOwn_perform (fenced : state.Fenced)
    (rules : TextRules) (env : ReconcilerEnv) (action : ReconcilerAction) :
    RecordsOwn state action (state.perform rules (env, action)) := by
  cases action with
  | register project =>
      exact (onlyForgets_register env project state).recordsOwn _
  | unregister call project =>
      rw [perform]
      apply OnlyForgets.recordsOwn
      split
      · exact onlyForgets_of_same rfl rfl rfl
      · exact onlyForgets_of_same rfl rfl rfl
  | unregisterPath call path =>
      rw [perform]
      apply OnlyForgets.recordsOwn
      split
      · exact onlyForgets_of_same rfl rfl rfl
      · exact onlyForgets_of_same rfl rfl rfl
  | proceed call timedOut =>
      exact (onlyForgets_unregisterStep env state call timedOut).recordsOwn _
  | stop =>
      apply OnlyForgets.recordsOwn
      exact onlyForgets_of_same rfl rfl rfl
  | tick => exact (onlyForgets_tick env state).recordsOwn _
  | work number result =>
      exact fenced.recordsOwn_workerStep rules env number result

/-- At most one worker at a time; none for a project whose removal has
returned, until it is registered again; and no result of an earlier
registration is recorded or announced for a later one. -/
theorem workers_fenced_of_runs {isUUID : String → Bool} {now interval : Nat}
    {registry : RegistryFile} {statuses : Dictionary JSONValue}
    (run : Runs (guarded FreshGeneration (ofFunction (perform rules)))
      (loaded isUUID now interval registry statuses) state) :
    (∀ first second project other, state.Works first project →
      state.Works second other → first = second) ∧
    (∀ project count, (project, count) ∈ state.unregistered →
      count ≤ state.registerCount project ∧
      (state.registerCount project = count → state.Retired project)) ∧
    ∀ env action,
      RecordsOwn state action (state.perform rules (env, action)) := by
  have fenced := fenced_of_runs run
  refine ⟨?_, fenced.unregistered, fun env action =>
    fenced.recordsOwn_perform rules env action⟩
  rintro first second project other ⟨task, found, active, _⟩
    ⟨task', found', active', _⟩
  have known := fenced.tasks first task found
  have known' := fenced.tasks second task' found'
  have both := (known.active active).symm.trans (known'.active active')
  have numbers := congrArg (Option.map (·.completion)) both
  simp only [Option.map_some, known.completion, known'.completion,
    Option.some.injEq] at numbers
  exact numbers

/-- `web` is registered, its worker is started and runs, `web` is
unregistered meanwhile, and the worker ends. -/
def removedWhileRunning : List (ReconcilerEnv × ReconcilerAction) :=
  [({ file := some "/srv/web.yaml", uuid := "first" }, .register "web"),
    ({ now := 30, uuid := "tick" }, .tick),
    ({}, .work 0 .failed),
    ({}, .unregister 0 "web"),
    ({}, .proceed 0 false),
    ({}, .work 0 .cancelled),
    ({}, .work 0 .failed),
    ({}, .work 0 .failed),
    ({}, .proceed 0 false)]

def lowercasedNothing : TextRules where
  lowercased text := text
  contains _ _ := false
  printable text := [text]

theorem workers_fenced_of_removedWhileRunning :
    (removedWhileRunning.foldl (perform lowercasedNothing)
      (loaded (fun _ => true) 0 30 .missing ∅)).Retired "web" := by
  have along : Along FreshGeneration (perform lowercasedNothing)
      (loaded (fun _ => true) 0 30 .missing ∅) removedWhileRunning := by
    exact ⟨List.not_mem_nil, trivial, trivial, trivial, trivial, trivial, trivial,
      trivial, trivial, trivial⟩
  exact ((workers_fenced_of_runs (Runs.guarded_foldl along)).2.1 "web" 1
    (by decide +kernel)).2 (by decide +kernel)

end ControllerReconciler

end Controllers

end Vzctl
