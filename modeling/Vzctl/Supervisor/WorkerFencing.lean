import Vzctl.Supervisor.ControllerReconciler

/-!
# Workers are fenced by the registration they were started for

`active` names the only block whose worker has not been noted as ended.  A
project that was removed has no such block any more when `unregister` returns,
and a worker of an earlier registration finds another generation when its end
is noted.
-/

namespace Vzctl

namespace Controllers

open Transitions

namespace ControllerReconciler

variable {state before after : ControllerReconciler}
  {rules : TextRules} {env : ReconcilerEnv} {project : String}

/-- A worker of a project runs or is going to run. -/
def Works (state : ControllerReconciler) (number : Nat) (project : String) :
    Prop :=
  ∃ task, state.tasks number = some task ∧ task.point.isActive = true ∧
    task.active.registration.project = project

/-- No worker of a project runs or can be started. -/
def Retired (state : ControllerReconciler) (project : String) : Prop :=
  state.registrations.lookup project = none ∧
    ∀ number, ¬ state.Works number project

/-- No worker of a project but one runs or can be started. -/
def Retiring (state : ControllerReconciler) (project : String)
    (completion : Nat) : Prop :=
  state.registrations.lookup project = none ∧
    ∀ number, state.Works number project → number = completion

/-- What is known about a block on the queue. -/
structure TaskFenced (state : ControllerReconciler) (number : Nat)
    (task : WorkerTask) : Prop where
  completion : task.active.completion = number
  bounded : number < state.started
  active : task.point.isActive = true → state.active = some task.active
  known : task.active.registration.generation ∈ state.generations
  counted :
    task.registered ≤ state.registerCount task.active.registration.project
  /-- A later registration has another generation. -/
  older : task.registered <
      state.registerCount task.active.registration.project →
    ∀ current, state.registrations.lookup
        task.active.registration.project = some current →
      current.generation ≠ task.active.registration.generation

structure Fenced (state : ControllerReconciler) : Prop where
  keyed : ∀ project record,
    state.registrations.lookup project = some record →
      record.project = project ∧ record.generation ∈ state.generations
  tasks : ∀ number task, state.tasks number = some task →
    state.TaskFenced number task
  waiting : ∀ call project rest completion count,
    state.calls call = some ⟨project :: rest, some (completion, count)⟩ →
      count ≤ state.registerCount project ∧
      (state.registerCount project = count →
        state.Retiring project completion)
  unregistered : ∀ project count,
    (project, count) ∈ state.unregistered →
      count ≤ state.registerCount project ∧
      (state.registerCount project = count → state.Retired project)

/-! ## Steps that neither register nor start -/

/-- Nothing is registered and no worker is started in between. -/
structure Calmer (before after : ControllerReconciler) : Prop where
  started : after.started = before.started
  generations : after.generations = before.generations
  registerCount : after.registerCount = before.registerCount
  registrations : ∀ project record,
    after.registrations.lookup project = some record →
      before.registrations.lookup project = some record
  works : ∀ number project,
    after.Works number project → before.Works number project

namespace Calmer

theorem lookup_eq_none (calmer : Calmer before after)
    (absent : before.registrations.lookup project = none) :
    after.registrations.lookup project = none := by
  rcases found : after.registrations.lookup project with _ | record
  · rfl
  · rw [calmer.registrations project record found] at absent
    cases absent

theorem retired (calmer : Calmer before after)
    (wasRetired : before.Retired project) :
    after.Retired project := by
  constructor
  · exact calmer.lookup_eq_none wasRetired.1
  · intro number works
    exact wasRetired.2 number (calmer.works number project works)

theorem retiring {completion : Nat} (calmer : Calmer before after)
    (wasRetiring : before.Retiring project completion) :
    after.Retiring project completion := by
  constructor
  · exact calmer.lookup_eq_none wasRetiring.1
  · intro number works
    exact wasRetiring.2 number (calmer.works number project works)

theorem keyed (calmer : Calmer before after)
    (fenced : before.Fenced) (record : Registration)
    (found : after.registrations.lookup project = some record) :
    record.project = project ∧ record.generation ∈ after.generations := by
  rw [calmer.generations]
  exact fenced.keyed project record (calmer.registrations project record found)

theorem taskFenced {number : Nat} {task moved : WorkerTask}
    (calmer : Calmer before after)
    (fenced : before.TaskFenced number task)
    (sameWorker : moved.active = task.active)
    (sameCount : moved.registered = task.registered)
    (active : moved.point.isActive = true → after.active = some moved.active) :
    after.TaskFenced number moved where
  completion := by
    rw [sameWorker]
    exact fenced.completion
  bounded := by
    rw [calmer.started]
    exact fenced.bounded
  active := active
  known := by
    rw [sameWorker, calmer.generations]
    exact fenced.known
  counted := by
    rw [sameWorker, sameCount, calmer.registerCount]
    exact fenced.counted
  older := by
    rw [sameWorker, sameCount, calmer.registerCount]
    intro isOlder current found
    exact fenced.older isOlder current (calmer.registrations _ current found)

theorem fenced (calmer : Calmer before after) (fenced : before.Fenced)
    (tasks : ∀ number task, after.tasks number = some task →
      after.TaskFenced number task)
    (waiting : ∀ call project rest completion count,
      after.calls call = some ⟨project :: rest, some (completion, count)⟩ →
        before.calls call =
          some ⟨project :: rest, some (completion, count)⟩ ∨
        (count = before.registerCount project ∧
          after.Retiring project completion))
    (unregistered : ∀ project count,
      (project, count) ∈ after.unregistered →
        (project, count) ∈ before.unregistered ∨
        (count ≤ before.registerCount project ∧
          (before.registerCount project = count → after.Retired project))) :
    after.Fenced where
  keyed project record found := calmer.keyed fenced record found
  tasks := tasks
  waiting call project rest completion count found := by
    rw [calmer.registerCount]
    rcases waiting call project rest completion count found with old | new
    · have known := fenced.waiting call project rest completion count old
      exact ⟨known.1, fun same => calmer.retiring (known.2 same)⟩
    · exact ⟨new.1.le, fun _ => new.2⟩
  unregistered project count member := by
    rw [calmer.registerCount]
    rcases unregistered project count member with old | new
    · have known := fenced.unregistered project count old
      exact ⟨known.1, fun same => calmer.retired (known.2 same)⟩
    · exact new

end Calmer

theorem persistStatuses_eq (env : ReconcilerEnv)
    (state : ControllerReconciler) :
    persistStatuses env state =
      { state with statusFile := (persistStatuses env state).statusFile } := by
  rw [persistStatuses]
  split
  · rfl
  · rfl

theorem calmer_refl (state : ControllerReconciler) : Calmer state state where
  started := rfl
  generations := rfl
  registerCount := rfl
  registrations _ _ found := found
  works _ _ works := works

theorem Calmer.trans {middle : ControllerReconciler}
    (first : Calmer before middle) (second : Calmer middle after) :
    Calmer before after where
  started := second.started.trans first.started
  generations := second.generations.trans first.generations
  registerCount := second.registerCount.trans first.registerCount
  registrations project record found :=
    first.registrations project record
      (second.registrations project record found)
  works number project works :=
    first.works number project (second.works number project works)

/-! ## What the two calls come to -/

theorem persist_cases (env : ReconcilerEnv)
    (values : Dictionary Registration) (state : ControllerReconciler) :
    ∃ file, persist env values state =
        (.ok (), { state with registryFile := file }) ∨
      ∃ failure, persist env values state =
        (.error failure, { state with registryFile := file }) := by
  rw [persist]
  cases env.registryWrite with
  | written => exact ⟨values, .inl rfl⟩
  | failed => exact ⟨state.registryFile, .inr ⟨_, rfl⟩⟩
  | unprotected => exact ⟨values, .inr ⟨_, rfl⟩⟩

theorem register_cases (env : ReconcilerEnv) (project : String)
    (state : ControllerReconciler) :
    ∃ file, (register env project state).2 =
        { state with registryFile := file } ∨
      ∃ record : Registration, record.project = project ∧
        record.generation = env.uuid ∧
        (register env project state).2 =
          registered env { state with registryFile := file } record := by
  have ends : (register env project).Ends
      (fun _ reached => ∃ file, ∃ record : Registration,
        record.project = project ∧ record.generation = env.uuid ∧
          reached = registered env { state with registryFile := file } record)
      (fun _ reached => ∃ file, reached = { state with registryFile := file })
      state := by
    apply Procedure.Ends.of_require_bind ⟨_, rfl⟩
    intro _
    apply Procedure.Ends.of_reading_bind (fun _ => ⟨_, rfl⟩)
    intro path _
    apply Procedure.Ends.of_require_bind ⟨_, rfl⟩
    intro _
    apply Procedure.Ends.of_reading_bind (fun _ => ⟨_, rfl⟩)
    intro _ _
    apply Procedure.Ends.of_reading_bind (fun _ => ⟨_, rfl⟩)
    intro values _
    apply Procedure.Ends.of_require_bind ⟨_, rfl⟩
    intro _
    let record : Registration := ⟨project, path, env.uuid⟩
    obtain ⟨file, written | ⟨failure, refused⟩⟩ :=
      persist_cases env (values.insert project record) state
    · apply Procedure.Ends.of_bind
      rw [Procedure.Ends, written]
      exact ⟨file, record, rfl, rfl, rfl⟩
    · apply Procedure.Ends.of_bind
      rw [Procedure.Ends, refused]
      exact ⟨file, rfl⟩
  rcases performed : register env project state with ⟨outcome, reached⟩
  cases outcome with
  | ok value =>
      obtain ⟨file, record, named, fresh, same⟩ := ends.of_returned performed
      exact ⟨file, .inr ⟨record, named, fresh, same⟩⟩
  | error failure =>
      obtain ⟨file, same⟩ := ends.of_failed performed
      exact ⟨file, .inl same⟩

theorem unregisterLocked_cases (env : ReconcilerEnv) (project : String)
    (state : ControllerReconciler) :
    ∃ file, unregisterLocked env project state =
        (.ok (state.activeCompletion project),
          removed env { state with registryFile := file } project) ∨
      ∃ failure, unregisterLocked env project state =
        (.error failure, { state with registryFile := file }) := by
  have ends : (unregisterLocked env project).Ends
      (fun completion reached => ∃ file,
        completion = state.activeCompletion project ∧
        reached = removed env { state with registryFile := file } project)
      (fun _ reached => ∃ file, reached = { state with registryFile := file })
      state := by
    apply Procedure.Ends.of_reading_bind (fun _ => ⟨_, rfl⟩)
    intro _ _
    apply Procedure.Ends.of_reading_bind (fun _ => ⟨_, rfl⟩)
    intro values _
    apply Procedure.Ends.of_bind
    obtain ⟨file, written | ⟨failure, refused⟩⟩ :=
      persist_cases env (values.erase project) state
    · rw [Procedure.Ends, written]
      apply Procedure.Ends.bind_writing_ok
      refine ⟨file, ?_, rfl⟩
      rw [removed, persistStatuses_eq]
      rfl
    · rw [Procedure.Ends, refused]
      exact ⟨file, rfl⟩
  rcases performed : unregisterLocked env project state with
    ⟨outcome, reached⟩
  cases outcome with
  | ok completion =>
      obtain ⟨file, rfl, rfl⟩ := ends.of_returned performed
      exact ⟨file, .inl rfl⟩
  | error failure =>
      obtain ⟨file, rfl⟩ := ends.of_failed performed
      exact ⟨file, .inr ⟨failure, rfl⟩⟩

/-! ## Every step keeps the fence -/

theorem Calmer.sameTasks (calmer : Calmer before after)
    (fenced : before.Fenced) (tasks : after.tasks = before.tasks)
    (active : after.active = before.active) (number : Nat)
    (task : WorkerTask) (found : after.tasks number = some task) :
    after.TaskFenced number task := by
  rw [tasks] at found
  have known := fenced.tasks number task found
  apply calmer.taskFenced known rfl rfl
  rw [active]
  exact known.active

theorem calmer_registryFile (state : ControllerReconciler)
    (file : Dictionary Registration) :
    Calmer state { state with registryFile := file } where
  started := rfl
  generations := rfl
  registerCount := rfl
  registrations _ _ found := found
  works _ _ works := works

theorem fenced_registryFile (fenced : state.Fenced)
    (file : Dictionary Registration) :
    Fenced { state with registryFile := file } := by
  have calmer := calmer_registryFile state file
  apply calmer.fenced fenced
  · exact calmer.sameTasks fenced rfl rfl
  · intro call project rest completion count found
    exact .inl found
  · intro project count member
    exact .inl member

theorem calmer_setCall (state : ControllerReconciler) (call : Nat)
    (next : Option UnregisterCall) : Calmer state (state.setCall call next)
    where
  started := rfl
  generations := rfl
  registerCount := rfl
  registrations _ _ found := found
  works _ _ works := works

theorem fenced_setCall (fenced : state.Fenced) (call : Nat)
    {next : Option UnregisterCall}
    (waits : ∀ project rest completion count,
      next = some ⟨project :: rest, some (completion, count)⟩ →
        count = state.registerCount project ∧
        state.Retiring project completion) :
    (state.setCall call next).Fenced := by
  have calmer := calmer_setCall state call next
  apply calmer.fenced fenced
  · exact calmer.sameTasks fenced rfl rfl
  · intro other project rest completion count found
    change Function.update state.calls call next other = _ at found
    by_cases same : other = call
    · subst same
      rw [Function.update_self] at found
      have known := waits project rest completion count found
      exact .inr ⟨known.1, calmer.retiring known.2⟩
    · rw [Function.update_of_ne same] at found
      exact .inl found
  · intro project count member
    exact .inl member

theorem fenced_unregisterReturned (fenced : state.Fenced) (call : Nat)
    {count : Nat} {rest : List String}
    (bounded : count ≤ state.registerCount project)
    (retired : state.registerCount project = count →
      state.Retired project) :
    (state.unregisterReturned call project count rest).Fenced := by
  have noted : Fenced
      { state with unregistered := state.unregistered ++ [(project, count)] }
      := by
    have calmer : Calmer state
        { state with
          unregistered := state.unregistered ++ [(project, count)] } := {
      started := rfl
      generations := rfl
      registerCount := rfl
      registrations := fun _ _ found => found
      works := fun _ _ works => works }
    apply calmer.fenced fenced
    · exact calmer.sameTasks fenced rfl rfl
    · intro call other rest completion count found
      exact .inl found
    · intro other otherCount member
      rcases List.mem_append.mp member with old | new
      · exact .inl old
      · cases List.mem_singleton.mp new
        exact .inr ⟨bounded, fun same => calmer.retired (retired same)⟩
  rw [unregisterReturned]
  apply fenced_setCall noted
  intro other rest completion count waits
  cases waits

theorem calmer_removed (env : ReconcilerEnv) (project : String)
    (state : ControllerReconciler) (file : Dictionary Registration) :
    Calmer state
      (removed env { state with registryFile := file } project) := by
  rw [removed, persistStatuses_eq]
  constructor
  · rfl
  · rfl
  · rfl
  · intro other record found
    change (state.registrations.erase project).lookup other = some record
      at found
    by_cases same : other = project
    · rw [same, AList.lookup_erase] at found
      cases found
    · rw [AList.lookup_erase_ne same] at found
      exact found
  · intro number other works
    exact works

theorem fenced_removed (fenced : state.Fenced) (env : ReconcilerEnv)
    (project : String) (file : Dictionary Registration) :
    (removed env { state with registryFile := file } project).Fenced := by
  have calmer := calmer_removed env project state file
  rw [removed, persistStatuses_eq] at calmer ⊢
  apply calmer.fenced fenced
  · exact calmer.sameTasks fenced rfl rfl
  · intro call other rest completion count found
    exact .inl found
  · intro other count member
    exact .inl member

theorem Fenced.activeCompletion_of_works (fenced : state.Fenced)
    {number : Nat} (works : state.Works number project) :
    state.activeCompletion project = some number := by
  obtain ⟨task, found, active, named⟩ := works
  have known := fenced.tasks number task found
  rw [activeCompletion, known.active active, Option.filter_some]
  simp [named, known.completion]

theorem lookup_removed (env : ReconcilerEnv) (project : String)
    (state : ControllerReconciler) (file : Dictionary Registration) :
    (removed env { state with registryFile := file } project
      ).registrations.lookup project = none := by
  rw [removed, persistStatuses_eq]
  exact AList.lookup_erase _ _

theorem fenced_unregisterStep (fenced : state.Fenced) (env : ReconcilerEnv)
    (call : Nat) (timedOut : Bool) :
    (state.unregisterStep env call timedOut).Fenced := by
  have noCall : ∀ project rest completion count,
      (none : Option UnregisterCall) =
        some ⟨project :: rest, some (completion, count)⟩ →
      count = state.registerCount project ∧
        state.Retiring project completion := by
    intro project rest completion count waits
    cases waits
  rw [unregisterStep]
  split
  · exact fenced
  · exact fenced_setCall fenced call noCall
  · rename_i project rest found
    obtain ⟨file, removes | ⟨failure, refused⟩⟩ :=
      unregisterLocked_cases env project state
    · rw [removes]
      have calmer := calmer_removed env project state file
      have kept := fenced_removed fenced env project file
      have absent := lookup_removed env project state file
      rcases completion : state.activeCompletion project with _ | number
      · apply fenced_unregisterReturned kept call (Nat.le_refl _)
        intro _
        refine ⟨absent, fun number works => ?_⟩
        rw [fenced.activeCompletion_of_works
          (calmer.works number project works)] at completion
        cases completion
      · apply fenced_setCall kept call
        intro other otherRest otherCompletion count waits
        cases waits
        refine ⟨rfl, absent, fun number works => ?_⟩
        rw [fenced.activeCompletion_of_works
          (calmer.works number project works)] at completion
        exact Option.some.inj completion
    · rw [refused]
      apply fenced_setCall (fenced_registryFile fenced file) call
      intro other otherRest completion count waits
      cases waits
  · rename_i project rest completion count found
    have known := fenced.waiting call project rest completion count found
    split
    · rename_i ended
      apply fenced_unregisterReturned fenced call known.1
      intro same
      have retiring := known.2 same
      refine ⟨retiring.1, fun number works => ?_⟩
      obtain ⟨task, running, _⟩ := works
      have sameNumber := retiring.2 number ⟨task, running, ‹_›⟩
      rw [← sameNumber, running] at ended
      cases ended
    · split
      · exact fenced_setCall fenced call noCall
      · exact fenced

/-- What `register` does to the state, behind `persist`. -/
structure Registers (before after : ControllerReconciler)
    (record : Registration) : Prop where
  started : after.started = before.started
  active : after.active = before.active
  tasks : after.tasks = before.tasks
  calls : after.calls = before.calls
  unregistered : after.unregistered = before.unregistered
  generations :
    after.generations = before.generations ++ [record.generation]
  counts : after.registerCount = Function.update before.registerCount
    record.project (before.registerCount record.project + 1)
  registrations :
    after.registrations = before.registrations.insert record.project record

theorem registers_registered (env : ReconcilerEnv)
    (state : ControllerReconciler) (file : Dictionary Registration)
    (record : Registration) :
    Registers state
      (registered env { state with registryFile := file } record) record := by
  rw [registered, persistStatuses_eq]
  exact ⟨rfl, rfl, rfl, rfl, rfl, rfl, rfl, rfl⟩

namespace Registers

variable {record : Registration}

theorem mem_generations (registers : Registers before after record)
    {generation : String} (member : generation ∈ before.generations) :
    generation ∈ after.generations := by
  rw [registers.generations]
  exact List.mem_append_left _ member

theorem count_self (registers : Registers before after record)
    (same : project = record.project) :
    after.registerCount project = before.registerCount project + 1 := by
  rw [registers.counts, same, Function.update_self]

theorem count_of_ne (registers : Registers before after record)
    (different : project ≠ record.project) :
    after.registerCount project = before.registerCount project := by
  rw [registers.counts, Function.update_of_ne different]

theorem lookup_self (registers : Registers before after record)
    (same : project = record.project) :
    after.registrations.lookup project = some record := by
  rw [registers.registrations, same, AList.lookup_insert]

theorem lookup_of_ne (registers : Registers before after record)
    (different : project ≠ record.project) :
    after.registrations.lookup project =
      before.registrations.lookup project := by
  rw [registers.registrations, AList.lookup_insert_ne different]

theorem works (registers : Registers before after record) {number : Nat}
    (working : after.Works number project) : before.Works number project := by
  rw [Works, registers.tasks] at working
  exact working

theorem taskFenced (registers : Registers before after record)
    (fresh : record.generation ∉ before.generations)
    {number : Nat} {task : WorkerTask}
    (fenced : before.TaskFenced number task) :
    after.TaskFenced number task where
  completion := fenced.completion
  bounded := by
    rw [registers.started]
    exact fenced.bounded
  active := by
    rw [registers.active]
    exact fenced.active
  known := registers.mem_generations fenced.known
  counted := by
    by_cases same : task.active.registration.project = record.project
    · rw [registers.count_self same]
      exact Nat.le_succ_of_le fenced.counted
    · rw [registers.count_of_ne same]
      exact fenced.counted
  older := by
    intro isOlder current found
    by_cases same : task.active.registration.project = record.project
    · rw [registers.lookup_self same] at found
      cases found
      intro equal
      exact fresh (equal ▸ fenced.known)
    · rw [registers.count_of_ne same] at isOlder
      rw [registers.lookup_of_ne same] at found
      exact fenced.older isOlder current found

theorem fenced (registers : Registers before after record)
    (fresh : record.generation ∉ before.generations)
    (fenced : before.Fenced) : after.Fenced := by
  constructor
  · intro project current found
    by_cases same : project = record.project
    · rw [registers.lookup_self same] at found
      cases found
      refine ⟨same.symm, ?_⟩
      rw [registers.generations]
      exact List.mem_append_right _ List.mem_cons_self
    · rw [registers.lookup_of_ne same] at found
      have keyed := fenced.keyed project current found
      exact ⟨keyed.1, registers.mem_generations keyed.2⟩
  · intro number task found
    rw [registers.tasks] at found
    exact registers.taskFenced fresh (fenced.tasks number task found)
  · intro call project rest completion count found
    rw [registers.calls] at found
    have known := fenced.waiting call project rest completion count found
    by_cases same : project = record.project
    · rw [registers.count_self same]
      exact ⟨Nat.le_succ_of_le known.1, by omega⟩
    · rw [registers.count_of_ne same, Retiring, registers.lookup_of_ne same]
      refine ⟨known.1, fun sameCount => ?_⟩
      have retiring := known.2 sameCount
      exact ⟨retiring.1, fun number working =>
        retiring.2 number (registers.works working)⟩
  · intro project count member
    rw [registers.unregistered] at member
    have known := fenced.unregistered project count member
    by_cases same : project = record.project
    · rw [registers.count_self same]
      exact ⟨Nat.le_succ_of_le known.1, by omega⟩
    · rw [registers.count_of_ne same, Retired, registers.lookup_of_ne same]
      refine ⟨known.1, fun sameCount => ?_⟩
      have retired := known.2 sameCount
      exact ⟨retired.1, fun number working =>
        retired.2 number (registers.works working)⟩

end Registers

theorem fenced_register (fenced : state.Fenced) (env : ReconcilerEnv)
    (project : String) (fresh : env.uuid ∉ state.generations) :
    (register env project state).2.Fenced := by
  obtain ⟨file, failed | ⟨record, _, isFresh, done⟩⟩ :=
    register_cases env project state
  · rw [failed]
    exact fenced_registryFile fenced file
  · rw [done]
    rw [← isFresh] at fresh
    exact (registers_registered env state file record).fenced fresh fenced

theorem selected_registered (fenced : state.Fenced) {env : ReconcilerEnv}
    {registration : Registration}
    (chosen : state.selected env = some registration) :
    state.registrations.lookup registration.project = some registration := by
  have candidate : registration ∈ state.candidates env := by
    rw [selected] at chosen
    rcases Option.or_eq_some_iff.mp chosen with next | ⟨_, first⟩
    · exact List.mem_of_find?_eq_some next
    · exact List.mem_of_mem_head? first
  rw [candidates, SortedBy.mem_sortedBy, List.mem_filter, List.mem_map] at candidate
  obtain ⟨⟨⟨project, record⟩, member, rfl⟩, _⟩ := candidate
  have found := AList.mem_lookup_iff.mpr member
  have keyed := fenced.keyed project record found
  rw [keyed.1]
  exact found

theorem Fenced.not_active_of_idle (fenced : state.Fenced)
    (idle : state.active = none) {number : Nat} {task : WorkerTask}
    (found : state.tasks number = some task) :
    task.point.isActive = false := by
  by_contra active
  have same := (fenced.tasks number task found).active
    (Bool.eq_true_of_not_eq_false active)
  rw [idle] at same
  cases same

/-- What `tick` does when it starts a worker. -/
structure Starts (before after : ControllerReconciler)
    (worker : ActiveWorker) : Prop where
  started : after.started = before.started + 1
  active : after.active = some worker
  tasks : after.tasks = Function.update before.tasks before.started
    (some ⟨worker, .queued,
      before.registerCount worker.registration.project⟩)
  completion : worker.completion = before.started
  calls : after.calls = before.calls
  unregistered : after.unregistered = before.unregistered
  generations : after.generations = before.generations
  registerCount : after.registerCount = before.registerCount
  registrations : after.registrations = before.registrations

theorem tick_cases (env : ReconcilerEnv) (state : ControllerReconciler) :
    state.tick env = state ∨
      ∃ worker, state.active = none ∧
        state.selected env = some worker.registration ∧
        Starts state (state.tick env) worker := by
  rw [tick]
  split
  · exact .inl rfl
  · rename_i ready
    have idle : state.active = none := by
      rcases active : state.active with _ | worker
      · rfl
      · simp [active] at ready
    rcases chosen : state.selected env with _ | registration
    · exact .inl rfl
    · refine .inr ⟨⟨registration, state.started, env.uuid⟩, idle, rfl, ?_⟩
      exact ⟨rfl, rfl, rfl, rfl, rfl, rfl, rfl, rfl, rfl⟩

namespace Starts

variable {worker : ActiveWorker}

theorem task_cases (starts : Starts before after worker) {number : Nat}
    {task : WorkerTask} (found : after.tasks number = some task) :
    number = before.started ∧ task = ⟨worker, .queued,
        before.registerCount worker.registration.project⟩ ∨
      before.tasks number = some task := by
  rw [starts.tasks] at found
  by_cases same : number = before.started
  · rw [same, Function.update_self] at found
    exact .inl ⟨same, (Option.some.inj found).symm⟩
  · rw [Function.update_of_ne same] at found
    exact .inr found

theorem works (starts : Starts before after worker)
    (chosen : before.registrations.lookup worker.registration.project =
      some worker.registration)
    (absent : before.registrations.lookup project = none) {number : Nat}
    (working : after.Works number project) : before.Works number project := by
  obtain ⟨task, found, active, named⟩ := working
  rcases starts.task_cases found with ⟨_, new⟩ | old
  · rw [← named, new, chosen] at absent
    cases absent
  · exact ⟨task, old, active, named⟩

theorem taskFenced (starts : Starts before after worker)
    (idle : before.active = none)
    (chosen : before.registrations.lookup worker.registration.project =
      some worker.registration)
    (fenced : before.Fenced) {number : Nat} {task : WorkerTask}
    (found : after.tasks number = some task) :
    after.TaskFenced number task := by
  rcases starts.task_cases found with ⟨sameNumber, new⟩ | old
  · subst new
    constructor
    · exact starts.completion.trans sameNumber.symm
    · rw [starts.started, sameNumber]
      exact Nat.lt_succ_self _
    · intro _
      exact starts.active
    · rw [starts.generations]
      exact (fenced.keyed _ _ chosen).2
    · rw [starts.registerCount]
    · rw [starts.registerCount]
      intro isOlder
      exact absurd isOlder (Nat.lt_irrefl _)
  · have known := fenced.tasks number task old
    constructor
    · exact known.completion
    · rw [starts.started]
      exact Nat.lt_succ_of_lt known.bounded
    · intro active
      rw [fenced.not_active_of_idle idle old] at active
      cases active
    · rw [starts.generations]
      exact known.known
    · rw [starts.registerCount]
      exact known.counted
    · rw [starts.registerCount, starts.registrations]
      exact known.older

theorem fenced (starts : Starts before after worker)
    (idle : before.active = none)
    (chosen : before.registrations.lookup worker.registration.project =
      some worker.registration)
    (fenced : before.Fenced) : after.Fenced := by
  constructor
  · rw [starts.registrations, starts.generations]
    exact fenced.keyed
  · intro number task found
    exact starts.taskFenced idle chosen fenced found
  · intro call project rest completion count found
    rw [starts.calls] at found
    have known := fenced.waiting call project rest completion count found
    rw [starts.registerCount, Retiring, starts.registrations]
    refine ⟨known.1, fun same => ?_⟩
    have retiring := known.2 same
    exact ⟨retiring.1, fun number working =>
      retiring.2 number (starts.works chosen retiring.1 working)⟩
  · intro project count member
    rw [starts.unregistered] at member
    have known := fenced.unregistered project count member
    rw [starts.registerCount, Retired, starts.registrations]
    refine ⟨known.1, fun same => ?_⟩
    have retired := known.2 same
    exact ⟨retired.1, fun number working =>
      retired.2 number (starts.works chosen retired.1 working)⟩

end Starts

theorem fenced_tick (fenced : state.Fenced) (env : ReconcilerEnv) :
    (state.tick env).Fenced := by
  rcases tick_cases env state with kept | ⟨worker, idle, chosen, starts⟩
  · rw [kept]
    exact fenced
  · exact starts.fenced idle (selected_registered fenced chosen) fenced

/-! ## The block of a worker -/

theorem calmer_moveTask {number : Nat} {task : WorkerTask}
    {point : WorkerPoint} (found : state.tasks number = some task)
    (passes : point.isActive = true → task.point.isActive = true) :
    Calmer state (state.moveTask number task point) where
  started := rfl
  generations := rfl
  registerCount := rfl
  registrations _ _ found := found
  works := by
    rintro other project ⟨moved, movedFound, active, named⟩
    rw [moveTask] at movedFound
    by_cases same : other = number
    · subst same
      simp only [Function.update_self] at movedFound
      cases movedFound
      exact ⟨task, found, passes active, named⟩
    · simp only [Function.update_of_ne same] at movedFound
      exact ⟨moved, movedFound, active, named⟩

theorem fenced_moveTask {number : Nat} {task : WorkerTask}
    {point : WorkerPoint} (fenced : before.Fenced)
    (calmer : Calmer before after) (tasks : after.tasks = before.tasks)
    (calls : after.calls = before.calls)
    (unregistered : after.unregistered = before.unregistered)
    (found : before.tasks number = some task)
    (passes : point.isActive = true → task.point.isActive = true)
    (active : after.active = before.active ∨
      task.point.isActive = true ∧ point.isActive = false) :
    (after.moveTask number task point).Fenced := by
  have foundAfter : after.tasks number = some task := by
    rw [tasks, found]
  have moved : Calmer before (after.moveTask number task point) :=
    calmer.trans (calmer_moveTask foundAfter passes)
  have known := fenced.tasks number task found
  apply moved.fenced fenced
  · intro other present presentFound
    rw [moveTask] at presentFound
    by_cases same : other = number
    · subst same
      simp only [Function.update_self] at presentFound
      cases presentFound
      refine moved.taskFenced known ?_ ?_ ?_
      · rfl
      · rfl
      intro isActive
      rcases active with kept | ⟨_, ended⟩
      · exact kept.trans (known.active (passes isActive))
      · rw [ended] at isActive
        cases isActive
    · simp only [Function.update_of_ne same, tasks] at presentFound
      have others := fenced.tasks other present presentFound
      apply moved.taskFenced others rfl rfl
      intro isActive
      rcases active with kept | ⟨wasActive, _⟩
      · exact kept.trans (others.active isActive)
      · -- Two blocks with a worker are one block.
        have both := (others.active isActive).symm.trans
          (known.active wasActive)
        have numbers := congrArg (Option.map (·.completion)) both
        simp only [Option.map_some, others.completion, known.completion,
          Option.some.injEq] at numbers
        exact absurd numbers same
  · intro call project rest completion count waits
    rw [moveTask] at waits
    simp only [calls] at waits
    exact .inl waits
  · intro project count member
    rw [moveTask] at member
    simp only [unregistered] at member
    exact .inl member

theorem record_cases (env : ReconcilerEnv) (state : ControllerReconciler)
    (registration : Registration) (summary : JSONValue) :
    Calmer state (state.record env registration summary).1 ∧
      (state.record env registration summary).1.tasks = state.tasks ∧
      (state.record env registration summary).1.calls = state.calls ∧
      (state.record env registration summary).1.unregistered =
        state.unregistered := by
  rw [record]
  split
  · exact ⟨⟨rfl, rfl, rfl, fun _ _ found => found, fun _ _ works => works⟩,
      rfl, rfl, rfl⟩
  · simp only []
    rw [persistStatuses_eq]
    exact ⟨⟨rfl, rfl, rfl, fun _ _ found => found, fun _ _ works => works⟩,
      rfl, rfl, rfl⟩

theorem fenced_workerStep (fenced : state.Fenced) (env : ReconcilerEnv)
    (rules : TextRules) (result : WorkerResult) (number : Nat) :
    (state.workerStep env rules result number).Fenced := by
  rw [workerStep]
  rcases found : state.tasks number with _ | task
  · exact fenced
  · rcases point : task.point with _ | _ | summary | summary | _
    · simp only [point]
      apply fenced_moveTask fenced (calmer_refl state) rfl rfl rfl found
      · intro _
        rw [point]
        rfl
      · exact .inl rfl
    · simp only [point]
      apply fenced_moveTask fenced (calmer_refl state) rfl rfl rfl found
      · intro _
        rw [point]
        rfl
      · exact .inl rfl
    · simp only [point]
      obtain ⟨calmer, tasks, calls, unregistered⟩ :=
        record_cases env state task.active.registration summary
      apply fenced_moveTask fenced calmer tasks calls unregistered found
      · intro _
        rw [point]
        rfl
      · refine .inr ⟨by rw [point]; rfl, ?_⟩
        split
        · rfl
        · rfl
    · simp only [point]
      have calmer : Calmer state (state.announce task.active summary) :=
        ⟨rfl, rfl, rfl, fun _ _ found => found, fun _ _ works => works⟩
      apply fenced_moveTask fenced calmer rfl rfl rfl found
      · intro isActive
        cases isActive
      · exact .inl rfl
    · simp only [point]
      have remains : ∀ other present,
          Function.update state.tasks number none other = some present →
            state.tasks other = some present := by
        intro other present remains
        by_cases same : other = number
        · rw [same, Function.update_self] at remains
          cases remains
        · rw [Function.update_of_ne same] at remains
          exact remains
      have calmer : Calmer state
          { state with tasks := Function.update state.tasks number none } := {
        started := rfl
        generations := rfl
        registerCount := rfl
        registrations := fun _ _ found => found
        works := by
          rintro other project ⟨present, presentFound, working⟩
          exact ⟨present, remains other present presentFound, working⟩ }
      apply calmer.fenced fenced
      · intro other present presentFound
        have known :=
          fenced.tasks other present (remains other present presentFound)
        exact calmer.taskFenced known rfl rfl known.active
      · intro call project rest completion count waits
        exact .inl waits
      · intro project count member
        exact .inl member

/-! ## Runs -/

/-- `UUID()` has not handed out this generation before. -/
def FreshGeneration (state : ControllerReconciler) :
    ReconcilerEnv × ReconcilerAction → Prop
  | (env, .register _) => env.uuid ∉ state.generations
  | _ => True

theorem fenced_perform (rules : TextRules)
    (label : ReconcilerEnv × ReconcilerAction) (fenced : state.Fenced)
    (fresh : state.FreshGeneration label) :
    (state.perform rules label).Fenced := by
  obtain ⟨env, action⟩ := label
  cases action with
  | register project => exact fenced_register fenced env project fresh
  | unregister call project =>
      rw [perform]
      split
      · exact fenced
      · apply fenced_setCall fenced call
        intro other rest completion count waits
        cases waits
  | unregisterPath call path =>
      rw [perform]
      split
      · exact fenced
      · apply fenced_setCall fenced call
        intro other rest completion count waits
        simp only [Option.some.injEq, UnregisterCall.mk.injEq] at waits
        cases waits.2
  | proceed call timedOut =>
      exact fenced_unregisterStep fenced env call timedOut
  | stop =>
      have calmer : Calmer state { state with stopped := true } :=
        ⟨rfl, rfl, rfl, fun _ _ found => found, fun _ _ works => works⟩
      apply calmer.fenced fenced
      · exact calmer.sameTasks fenced rfl rfl
      · intro call project rest completion count found
        exact .inl found
      · intro project count member
        exact .inl member
  | tick => exact fenced_tick fenced env
  | work number result => exact fenced_workerStep fenced env rules result number

theorem fenced_loaded (isUUID : String → Bool) (now interval : Nat)
    (registry : RegistryFile) (statuses : Dictionary JSONValue) :
    (loaded isUUID now interval registry statuses).Fenced := by
  have valid : ∀ project record,
      (loaded isUUID now interval registry statuses).registrations.lookup
        project = some record → record.project = project := by
    intro project record found
    have read : ∃ values, registry = .contents values ∧
        validRegistry isUUID values = true ∧
        values.lookup project = some record := by
      change ((readRegistry isUUID registry).getD ∅).lookup project = _
        at found
      cases registry with
      | missing => cases found
      | unsafeFile => cases found
      | contents values =>
          rw [readRegistry] at found
          split at found
          · rename_i isValid
            exact ⟨values, rfl, isValid, found⟩
          · cases found
    obtain ⟨values, _, isValid, found⟩ := read
    rw [validRegistry, Bool.and_eq_true, List.all_eq_true] at isValid
    have entry := isValid.2 ⟨project, record⟩ (AList.mem_lookup_iff.mp found)
    simp only [Bool.and_eq_true, decide_eq_true_eq] at entry
    exact entry.1.1.1.1.symm
  constructor
  · intro project record found
    refine ⟨valid project record found, ?_⟩
    exact List.mem_map.mpr
      ⟨⟨project, record⟩, AList.mem_lookup_iff.mp found, rfl⟩
  · intro number task found
    cases found
  · intro call project rest completion count found
    cases found
  · intro project count member
    cases member

theorem fenced_of_runs {isUUID : String → Bool} {now interval : Nat}
    {registry : RegistryFile} {statuses : Dictionary JSONValue}
    (run : Runs (guarded FreshGeneration (ofFunction (perform rules)))
      (loaded isUUID now interval registry statuses) state) :
    state.Fenced := by
  refine invariant_of_runs Fenced ?_
    (fenced_loaded isUUID now interval registry statuses) run
  rintro source label _ fenced ⟨fresh, rfl⟩
  exact fenced_perform rules label fenced fresh

end ControllerReconciler

end Controllers

end Vzctl
