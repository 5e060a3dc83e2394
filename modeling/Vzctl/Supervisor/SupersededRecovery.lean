import Vzctl.Supervisor.NetworkResilience

/-!
# A superseded recovery is inert

A recovery asks for its generation only at its guards: at the top of the loop
and after each sleep.  Between a guard and the next one it emits, probes,
publishes and schedules without asking again.  A recovery that is superseded
while it stands at a guard does nothing any more; one that is superseded in
between carries on.
-/

namespace Vzctl

open Transitions

namespace NetworkResilienceController

/-! ## What superseded recoveries must not do -/

/-- A recovery that waits for its turn or runs, with its retries. -/
def InFlight (controller : NetworkResilienceController)
    (recovery : Recovery) : Prop :=
  (∃ notice ∈ controller.notices, notice.recovery = some recovery) ∨
    (∃ timer ∈ controller.timers, timer.recovery = recovery) ∨
    ∃ running, controller.worker = some running ∧
      running.recovery = recovery

/-- The controller was stopped, or the generation has changed since the
recovery was asked for. -/
def Superseded (controller : NetworkResilienceController)
    (recovery : Recovery) : Prop :=
  controller.stopped = true ∨
    recovery.started < controller.generationChanges

/-- Nothing was published, emitted or scheduled, and the fallback was not
called. -/
structure Inert (before after : NetworkResilienceController) : Prop where
  status : after.status = before.status
  events : after.events = before.events
  timers : after.timers = before.timers
  fallbackCalls : after.fallbackCalls = before.fallbackCalls

end NetworkResilienceController

open NetworkResilienceController

/-- The action starts a new generation. -/
def ResilienceAction.Changes (action : ResilienceAction)
    (controller : NetworkResilienceController) : Prop :=
  match action with
  | .receive _ _ _ fingerprint _ => controller.acceptsPath fingerprint = true
  | .willSleep _ | .didWake _ | .stop => True
  | .notice _ | .fire _ | .work _ => False

/-- A new generation starts only while the recovery on `worker`, if there is
one, stands at a guard, and does not reuse the number of a recovery that is
still in flight. -/
def Undisturbed (controller : NetworkResilienceController)
    (action : ResilienceAction) : Prop :=
  action.Changes controller →
    (∀ running, controller.worker = some running →
      running.point.isGuard = true) ∧
    ∀ recovery, controller.InFlight recovery →
      recovery.generation ≠ .ofNat (controller.generationChanges + 1)

/-- The steps of the controller. -/
abbrev ResilienceStep : NetworkResilienceController → ResilienceAction →
    NetworkResilienceController → Prop :=
  ofFunction perform

namespace NetworkResilienceController

variable {controller before after : NetworkResilienceController}
  {running : RunningRecovery} {recovery : Recovery}

/-! ## One step of a recovery -/

/-- What a step of the recovery on `worker` leads to. -/
structure RecoveryMoves (running : RunningRecovery)
    (before after : NetworkResilienceController) : Prop where
  generationChanges : after.generationChanges = before.generationChanges
  stopped : after.stopped = before.stopped
  notices : after.notices = before.notices
  timers : ∀ timer ∈ after.timers,
    timer ∈ before.timers ∨ timer.recovery = running.recovery
  recovery : ∀ next, after.worker = some next →
    next.recovery = running.recovery
  /-- Only a guard that is passed leads from a guard to the points between. -/
  point : ∀ next, after.worker = some next →
    next.point.isGuard = false → running.point.isGuard = true →
      before.isActive running.recovery = true

theorem recoveryMoves_leave :
    RecoveryMoves running controller controller.leave where
  generationChanges := rfl
  stopped := rfl
  notices := rfl
  timers _ member := .inl member
  recovery _ found := by cases found
  point _ found := by cases found

theorem recoveryMoves_passGuard (point : RecoveryPoint) :
    RecoveryMoves running controller (controller.passGuard running point) := by
  by_cases active : controller.isActive running.recovery = true
  · have moved : controller.passGuard running point =
        controller.moveTo running point := if_pos active
    rw [moved]
    exact {
      generationChanges := rfl
      stopped := rfl
      notices := rfl
      timers := fun _ member => .inl member
      recovery := fun next found => by
        rw [← Option.some.inj found]
      point := fun _ _ _ _ => active }
  · have left : controller.passGuard running point = controller.leave :=
      if_neg active
    rw [left]
    exact recoveryMoves_leave

theorem recoveryMoves_between (between : running.point.isGuard = false)
    (generationChanges :
      after.generationChanges = before.generationChanges)
    (stopped : after.stopped = before.stopped)
    (notices : after.notices = before.notices)
    (timers : ∀ timer ∈ after.timers,
      timer ∈ before.timers ∨ timer.recovery = running.recovery)
    (recovery : ∀ next, after.worker = some next →
      next.recovery = running.recovery) :
    RecoveryMoves running before after where
  generationChanges := generationChanges
  stopped := stopped
  notices := notices
  timers := timers
  recovery := recovery
  point _ _ _ guarded := by
    rw [between] at guarded
    cases guarded

theorem afterPublish_recovery (result : NetworkRecoveryResult)
    (budget : BudgetReading) :
    (afterPublish running result budget).recovery = running.recovery := by
  unfold afterPublish
  split <;> rfl

theorem recoveryMoves_recoveryStep (env : RecoverySurroundings) :
    RecoveryMoves running controller
      (controller.recoveryStep env running) := by
  unfold recoveryStep
  cases here : running.point with
  | retry => exact recoveryMoves_passGuard _
  | loop => exact recoveryMoves_passGuard _
  | slept => exact recoveryMoves_passGuard _
  | deadline result => exact recoveryMoves_passGuard _
  | begin =>
      exact recoveryMoves_between (by rw [here]; rfl) rfl rfl rfl
        (fun _ member => .inl member)
        (fun _ found => by rw [← Option.some.inj found])
  | announce =>
      exact recoveryMoves_between (by rw [here]; rfl) rfl rfl rfl
        (fun _ member => .inl member)
        (fun _ found => by rw [← Option.some.inj found])
  | probe =>
      exact recoveryMoves_between (by rw [here]; rfl) rfl rfl rfl
        (fun _ member => .inl member)
        (fun _ found => by rw [← Option.some.inj found])
  | publish result =>
      refine recoveryMoves_between (by rw [here]; rfl) rfl rfl rfl
        (fun _ member => .inl member) ?_
      intro next found
      rw [← Option.some.inj found]
      exact afterPublish_recovery result env.budget
  | report event retries =>
      cases retries with
      | true =>
          exact recoveryMoves_between (by rw [here]; rfl) rfl rfl rfl
            (fun _ member => .inl member)
            (fun _ found => by rw [← Option.some.inj found])
      | false =>
          exact recoveryMoves_between (by rw [here]; rfl) rfl rfl rfl
            (fun _ member => .inl member) (fun _ found => by cases found)
  | schedule =>
      refine recoveryMoves_between (by rw [here]; rfl) rfl rfl rfl ?_
        (fun _ found => by cases found)
      intro timer member
      rcases List.mem_append.mp member with old | new
      · exact .inl old
      · exact .inr (by rw [List.mem_singleton.mp new])
  | finishDegraded result =>
      dsimp only
      split
      · exact recoveryMoves_between (by rw [here]; rfl) rfl rfl rfl
          (fun _ member => .inl member)
          (fun _ found => by rw [← Option.some.inj found])
      · exact recoveryMoves_between (by rw [here]; rfl) rfl rfl rfl
          (fun _ member => .inl member)
          (fun _ found => by rw [← Option.some.inj found])
  | fallback result =>
      exact recoveryMoves_between (by rw [here]; rfl) rfl rfl rfl
        (fun _ member => .inl member)
        (fun _ found => by rw [← Option.some.inj found])
  | probeAgain result =>
      exact recoveryMoves_between (by rw [here]; rfl) rfl rfl rfl
        (fun _ member => .inl member)
        (fun _ found => by rw [← Option.some.inj found])
  | publishAgain result recovered =>
      exact recoveryMoves_between (by rw [here]; rfl) rfl rfl rfl
        (fun _ member => .inl member)
        (fun _ found => by rw [← Option.some.inj found])

theorem recoveryStep_of_not_active (env : RecoverySurroundings)
    (guarded : running.point.isGuard = true)
    (inactive : controller.isActive running.recovery = false) :
    controller.recoveryStep env running = controller.leave := by
  have notActive : ¬ controller.isActive running.recovery = true := by
    rw [inactive]
    exact Bool.false_ne_true
  unfold recoveryStep
  cases here : running.point with
  | retry => exact if_neg notActive
  | loop => exact if_neg notActive
  | slept => exact if_neg notActive
  | deadline result => exact if_neg notActive
  | begin | announce | probe | publish | report | schedule
  | finishDegraded | fallback | probeAgain | publishAgain =>
      rw [here] at guarded
      cases guarded

theorem inert_leave : Inert controller controller.leave where
  status := rfl
  events := rfl
  timers := rfl
  fallbackCalls := rfl

/-! ## The invariant -/

/-- In-flight recoveries are known by the number of their generation, and the
one between two guards is current. -/
structure Settled (controller : NetworkResilienceController) : Prop where
  earlier : ∀ recovery, controller.InFlight recovery →
    recovery.started ≤ controller.generationChanges
  named : ∀ recovery, controller.InFlight recovery →
    controller.generation = recovery.generation →
      recovery.started = controller.generationChanges
  current : ∀ running, controller.worker = some running →
    running.point.isGuard = false →
      ¬ controller.Superseded running.recovery

theorem settled_started (now : String) : Settled (started now) where
  earlier recovery inFlight := by
    rcases inFlight with ⟨_, member, _⟩ | ⟨_, member, _⟩ | ⟨_, found, _⟩
    · cases member
    · cases member
    · cases found
  named recovery inFlight := by
    rcases inFlight with ⟨_, member, _⟩ | ⟨_, member, _⟩ | ⟨_, found, _⟩
    · cases member
    · cases member
    · cases found
  current running found := by cases found

theorem Settled.not_superseded (settled : Settled controller)
    (inFlight : controller.InFlight recovery)
    (active : controller.isActive recovery = true) :
    ¬ controller.Superseded recovery := by
  simp only [isActive, Bool.and_eq_true, Bool.not_eq_true',
    beq_iff_eq] at active
  have same := settled.named recovery inFlight active.1.2
  intro superseded
  rcases superseded with stopped | later
  · rw [active.1.1] at stopped
    cases stopped
  · omega

theorem inFlight_running (found : controller.worker = some running) :
    controller.InFlight running.recovery :=
  .inr (.inr ⟨running, found, rfl⟩)

theorem Settled.of_kept (settled : Settled before)
    (generationChanges :
      after.generationChanges = before.generationChanges)
    (inFlight : ∀ recovery, after.InFlight recovery →
      before.InFlight recovery)
    (current : ∀ running, after.worker = some running →
      running.point.isGuard = false →
        ¬ after.Superseded running.recovery) :
    Settled after where
  earlier recovery flying := by
    rw [generationChanges]
    exact settled.earlier recovery (inFlight recovery flying)
  named recovery flying same := by
    have sameGeneration : after.generation = before.generation := by
      rw [generation, generation, generationChanges]
    rw [generationChanges]
    rw [sameGeneration] at same
    exact settled.named recovery (inFlight recovery flying) same
  current := current

/-- A new generation supersedes everything in flight, which keeps waiting at
its guards. -/
theorem Settled.of_changed (settled : Settled before)
    (generationChanges :
      after.generationChanges = before.generationChanges + 1)
    (inFlight : ∀ recovery, after.InFlight recovery →
      before.InFlight recovery ∨ recovery = before.scheduled)
    (worker : after.worker = before.worker)
    (guards : ∀ running, before.worker = some running →
      running.point.isGuard = true)
    (fresh : ∀ recovery, before.InFlight recovery →
      recovery.generation ≠ .ofNat (before.generationChanges + 1)) :
    Settled after where
  earlier recovery flying := by
    rw [generationChanges]
    rcases inFlight recovery flying with old | new
    · have bound := settled.earlier recovery old
      omega
    · rw [new]
      exact Nat.le_refl _
  named recovery flying same := by
    rw [generation, generationChanges] at same
    rw [generationChanges]
    rcases inFlight recovery flying with old | new
    · exact absurd same.symm (fresh recovery old)
    · rw [new]
      rfl
  current running found between := by
    rw [worker] at found
    have guarded := guards running found
    rw [between] at guarded
    cases guarded

/-! ## One step of the controller -/

theorem superseded_of_same
    (generationChanges :
      after.generationChanges = before.generationChanges)
    (stopped : after.stopped = before.stopped) :
    after.Superseded recovery ↔ before.Superseded recovery := by
  rw [Superseded, Superseded, generationChanges, stopped]

theorem inFlight_of_announced {event : ResilienceEvent}
    {asked : Option Recovery} (flying : after.InFlight recovery)
    (notices : after.notices = before.notices ++ [.announce event asked])
    (timers : after.timers = before.timers)
    (worker : after.worker = before.worker)
    (scheduled : ∀ recovery, asked = some recovery →
      recovery = before.scheduled) :
    before.InFlight recovery ∨ recovery = before.scheduled := by
  rw [InFlight, notices, timers, worker] at flying
  rcases flying with ⟨notice, member, asks⟩ | waiting
  · rcases List.mem_append.mp member with old | new
    · exact .inl (.inl ⟨notice, old, asks⟩)
    · rw [List.mem_singleton.mp new] at asks
      exact .inr (scheduled recovery asks)
  · exact .inl (.inr waiting)

theorem settled_receive {satisfied : Bool} {interfaces : List String}
    {reason fingerprint now : String} (settled : Settled before)
    (undisturbed : Undisturbed before
      (.receive satisfied interfaces reason fingerprint now)) :
    Settled
      (before.receive satisfied interfaces reason fingerprint now) := by
  unfold receive
  split
  · rename_i accepted
    obtain ⟨guards, fresh⟩ := undisturbed accepted
    refine settled.of_changed rfl ?_ rfl guards fresh
    intro recovery flying
    refine inFlight_of_announced flying rfl rfl rfl ?_
    intro asked same
    split at same
    · exact (Option.some.inj same).symm
    · cases same
  · exact settled

theorem settled_willSleep {now : String} (settled : Settled before)
    (undisturbed : Undisturbed before (.willSleep now)) :
    Settled (before.willSleep now) := by
  obtain ⟨guards, fresh⟩ := undisturbed trivial
  refine settled.of_changed rfl ?_ rfl guards fresh
  intro recovery flying
  exact inFlight_of_announced flying rfl rfl rfl
    (fun _ same => by cases same)

theorem settled_didWake {now : String} (settled : Settled before)
    (undisturbed : Undisturbed before (.didWake now)) :
    Settled (before.didWake now) := by
  obtain ⟨guards, fresh⟩ := undisturbed trivial
  refine settled.of_changed rfl ?_ rfl guards fresh
  intro recovery flying
  refine inFlight_of_announced flying rfl rfl rfl ?_
  intro asked same
  split at same
  · exact (Option.some.inj same).symm
  · cases same

theorem settled_stop (settled : Settled before)
    (undisturbed : Undisturbed before .stop) : Settled before.stop := by
  obtain ⟨guards, fresh⟩ := undisturbed trivial
  exact settled.of_changed rfl (fun _ flying => .inl flying) rfl guards fresh

theorem inFlight_noticeStep {index : Nat}
    (flying : (before.noticeStep index).InFlight recovery) :
    before.InFlight recovery := by
  unfold noticeStep at flying
  split at flying
  · exact flying
  · rcases flying with ⟨notice, member, asks⟩ | waiting
    · exact .inl ⟨notice, List.mem_of_mem_eraseIdx member, asks⟩
    · exact .inr waiting
  · rename_i event asked found
    have listed := List.mem_of_getElem? found
    rcases flying with ⟨notice, member, asks⟩ | waiting
    · rcases List.mem_or_eq_of_mem_set member with old | new
      · exact .inl ⟨notice, old, asks⟩
      · rw [new] at asks
        exact .inl ⟨_, listed, asks⟩
    · exact .inr waiting
  · rename_i asked found
    have listed := List.mem_of_getElem? found
    rcases flying with ⟨notice, member, asks⟩ | ⟨timer, member, asks⟩ | runs
    · exact .inl ⟨notice, List.mem_of_mem_eraseIdx member, asks⟩
    · rcases List.mem_append.mp member with old | new
      · exact .inr (.inl ⟨timer, old, asks⟩)
      · rw [List.mem_singleton.mp new] at asks
        exact .inl ⟨_, listed, congrArg some asks⟩
    · exact .inr (.inr runs)

theorem settled_noticeStep (index : Nat) (settled : Settled before) :
    Settled (before.noticeStep index) := by
  have changes : (before.noticeStep index).generationChanges =
      before.generationChanges := by
    unfold noticeStep
    split <;> rfl
  have stopped : (before.noticeStep index).stopped = before.stopped := by
    unfold noticeStep
    split <;> rfl
  have worker : (before.noticeStep index).worker = before.worker := by
    unfold noticeStep
    split <;> rfl
  refine settled.of_kept changes (fun _ => inFlight_noticeStep) ?_
  intro running found between
  rw [superseded_of_same changes stopped]
  exact settled.current running (worker ▸ found) between

theorem settled_fire (index : Nat) (settled : Settled before) :
    Settled (before.fire index) := by
  unfold fire
  split
  · rename_i timer idle found
    have listed := List.mem_of_getElem? found
    refine settled.of_kept rfl ?_ ?_
    · intro recovery flying
      rcases flying with asks | ⟨other, member, asks⟩ | ⟨other, same, asks⟩
      · exact .inl asks
      · exact .inr (.inl ⟨other, List.mem_of_mem_eraseIdx member, asks⟩)
      · rw [← Option.some.inj same] at asks
        exact .inr (.inl ⟨timer, listed, asks⟩)
    · intro running same between
      rw [← Option.some.inj same] at between
      cases retries : timer.passiveRetry with
      | true =>
          rw [retries] at between
          cases between
      | false =>
          rw [retries] at between
          cases between
  · exact settled

theorem settled_workerStep (env : RecoverySurroundings)
    (settled : Settled before) : Settled (before.workerStep env) := by
  unfold workerStep
  cases works : before.worker with
  | none => exact settled
  | some running =>
      have moves : RecoveryMoves running before
          (before.recoveryStep env running) := recoveryMoves_recoveryStep env
      have runs := inFlight_running works
      refine settled.of_kept moves.generationChanges ?_ ?_
      · intro recovery flying
        rcases flying with ⟨notice, member, asks⟩ | ⟨timer, member, asks⟩ |
          ⟨next, found, asks⟩
        · rw [moves.notices] at member
          exact .inl ⟨notice, member, asks⟩
        · rcases moves.timers timer member with old | own
          · exact .inr (.inl ⟨timer, old, asks⟩)
          · rw [← asks, own]
            exact runs
        · rw [← asks, moves.recovery next found]
          exact runs
      · intro next found between
        rw [superseded_of_same moves.generationChanges moves.stopped,
          moves.recovery next found]
        by_cases guarded : running.point.isGuard = true
        · exact settled.not_superseded runs
            (moves.point next found between guarded)
        · exact settled.current running works
            (Bool.eq_false_iff.mpr guarded)

theorem settled_perform {action : ResilienceAction}
    (settled : Settled before) (undisturbed : Undisturbed before action) :
    Settled (before.perform action) := by
  cases action with
  | receive => exact settled_receive settled undisturbed
  | willSleep => exact settled_willSleep settled undisturbed
  | didWake => exact settled_didWake settled undisturbed
  | stop => exact settled_stop settled undisturbed
  | notice index => exact settled_noticeStep index settled
  | fire index => exact settled_fire index settled
  | work env => exact settled_workerStep env settled

theorem superseded_perform {action : ResilienceAction}
    (superseded : before.Superseded recovery) :
    (before.perform action).Superseded recovery := by
  have changed {next : NetworkResilienceController}
      (stopped : next.stopped = before.stopped)
      (generationChanges :
        next.generationChanges = before.generationChanges + 1) :
      next.Superseded recovery := by
    rw [Superseded, stopped, generationChanges]
    rcases superseded with ended | later
    · exact .inl ended
    · exact .inr (Nat.lt_succ_of_lt later)
  cases action with
  | receive satisfied interfaces reason fingerprint now =>
      simp only [perform, receive]
      split
      · exact changed rfl rfl
      · exact superseded
  | willSleep now => exact changed rfl rfl
  | didWake now => exact changed rfl rfl
  | stop => exact .inl rfl
  | notice index =>
      simp only [perform, noticeStep]
      split <;> exact superseded
  | fire index =>
      simp only [perform, fire]
      split <;> exact superseded
  | work env =>
      simp only [perform, workerStep]
      cases works : before.worker with
      | none => exact superseded
      | some running =>
          have moves : RecoveryMoves running before
              (before.recoveryStep env running) :=
            recoveryMoves_recoveryStep env
          rw [superseded_of_same moves.generationChanges moves.stopped]
          exact superseded

/-! ## Runs -/

theorem settled_of_runs {now : String}
    (run : Runs (guarded Undisturbed ResilienceStep) (started now)
      controller) :
    Settled controller := by
  refine invariant_of_runs Settled ?_ (settled_started now) run
  intro before action after settled step
  obtain ⟨undisturbed, performed⟩ := step
  rw [← performed]
  exact settled_perform settled undisturbed

theorem superseded_of_runs
    (superseded : before.Superseded recovery)
    (run : Runs ResilienceStep before after) :
    after.Superseded recovery := by
  refine invariant_of_runs (fun state => state.Superseded recovery) ?_
    superseded run
  intro earlier action later superseded performed
  rw [← performed]
  exact superseded_perform superseded

/-- Every new generation supersedes the recoveries in flight: path changes,
sleep, wake and `stop` alike. -/
theorem Settled.superseded_of_changes {action : ResilienceAction}
    (settled : Settled before) (changes : action.Changes before)
    (flying : before.InFlight recovery) :
    (before.perform action).Superseded recovery := by
  have bound := settled.earlier recovery flying
  cases action with
  | receive satisfied interfaces reason fingerprint now =>
      have accepted : before.receive satisfied interfaces reason fingerprint
          now = _ := if_pos changes
      rw [perform, accepted]
      exact .inr (Nat.lt_succ_of_le bound)
  | willSleep now => exact .inr (Nat.lt_succ_of_le bound)
  | didWake now => exact .inr (Nat.lt_succ_of_le bound)
  | stop => exact .inl rfl
  | notice | fire | work => exact changes.elim

theorem Settled.inert (settled : Settled controller)
    (works : controller.worker = some running)
    (superseded : controller.Superseded running.recovery)
    (env : RecoverySurroundings) :
    Inert controller (controller.perform (.work env)) := by
  have guarded : running.point.isGuard = true := by
    by_contra between
    exact settled.current running works (Bool.eq_false_iff.mpr between)
      superseded
  have inactive : controller.isActive running.recovery = false := by
    by_contra active
    exact settled.not_superseded (inFlight_running works)
      (eq_true_of_ne_false active) superseded
  have ends : controller.perform (.work env) = controller.leave := by
    rw [perform, workerStep, works]
    exact recoveryStep_of_not_active env guarded inactive
  rw [ends]
  exact inert_leave

end NetworkResilienceController

/-- In every run whose new generations start while `worker` is idle or at a
guard, a path change, sleep, wake or `stop` supersedes the recoveries in
flight, and from then on no step of a superseded recovery, or of one of its
retries, does anything. -/
theorem superseded_recovery_inert_of_runs {now : String}
    {middle : NetworkResilienceController}
    (run : Runs (guarded Undisturbed ResilienceStep)
      (NetworkResilienceController.started now) middle) :
    (∀ action recovery, action.Changes middle → middle.InFlight recovery →
      (middle.perform action).Superseded recovery) ∧
    ∀ recovery later running, middle.Superseded recovery →
      Runs (guarded Undisturbed ResilienceStep) middle later →
      later.worker = some running → running.recovery = recovery →
      ∀ env, Inert later (later.perform (.work env)) := by
  have settled := settled_of_runs run
  constructor
  · intro action recovery changes flying
    exact settled.superseded_of_changes changes flying
  · intro recovery later running superseded rest works same env
    have laterSettled := settled_of_runs (run.trans rest)
    have laterSuperseded : later.Superseded running.recovery := by
      rw [same]
      exact superseded_of_runs superseded rest.of_guarded
    exact laterSettled.inert works laterSuperseded env

/-! ## Runs on fixed inputs -/

namespace NetworkResilienceController

/-- A usable path, whose recovery has just been taken by `worker`. -/
def pathThenFire : List ResilienceAction :=
  [.receive true ["wifi"] "path" "wifi" "10:00", .notice 0, .notice 0,
    .fire 0]

def waitingController : NetworkResilienceController :=
  pathThenFire.foldl perform (started "09:00")

def waitingRecovery : RunningRecovery where
  recovery := ⟨1, 1, 1⟩
  point := .loop

theorem waitingController_worker :
    waitingController.worker = some waitingRecovery := rfl

theorem waitingController_inFlight {recovery : Recovery}
    (flying : waitingController.InFlight recovery) :
    recovery = ⟨1, 1, 1⟩ := by
  rcases flying with ⟨_, member, _⟩ | ⟨_, member, _⟩ | ⟨_, found, same⟩
  · cases member
  · cases member
  · rw [waitingController_worker] at found
    rw [← same, ← Option.some.inj found]
    rfl

theorem waitingController_reachable :
    Runs (guarded Undisturbed ResilienceStep) (started "09:00")
      waitingController := by
  apply Runs.guarded_foldl
  refine ⟨?_, fun changes => changes.elim, fun changes => changes.elim,
    fun changes => changes.elim, trivial⟩
  intro _
  constructor
  · intro running found
    cases found
  · intro recovery flying
    rcases flying with ⟨_, member, _⟩ | ⟨_, member, _⟩ | ⟨_, found, _⟩
    · cases member
    · cases member
    · cases found

theorem waitingController_sleeps :
    Undisturbed waitingController (.willSleep "10:01") := by
  intro _
  constructor
  · intro running found
    rw [waitingController_worker] at found
    rw [← Option.some.inj found]
    rfl
  · intro recovery flying
    rw [waitingController_inFlight flying]
    decide

/-- A probe that has found everything healthy. -/
def healthySurroundings : RecoverySurroundings where
  now := "10:02"
  probed := {
    internalOK := true
    hostEgress := { NetworkEgressResult.unknown with
      classification := "online" }
    networkEgress := []
    conflicts := []
    error := none }
  fellBack := false
  budget := .longer

/-- A recovery that is put to sleep at its guard ends there. -/
theorem superseded_recovery_inert_of_sleep :
    Inert (waitingController.willSleep "10:01")
      ((waitingController.willSleep "10:01").perform
        (.work healthySurroundings)) := by
  have superseded :=
    (superseded_recovery_inert_of_runs waitingController_reachable).1
      (.willSleep "10:01") waitingRecovery.recovery trivial
      (inFlight_running waitingController_worker)
  have asleep : Runs (guarded Undisturbed ResilienceStep) waitingController
      (waitingController.willSleep "10:01") :=
    Relation.ReflTransGen.single
      ⟨.willSleep "10:01", waitingController_sleeps, rfl⟩
  have reached := waitingController_reachable.trans asleep
  exact (superseded_recovery_inert_of_runs reached).2
    waitingRecovery.recovery _ waitingRecovery superseded (Runs.refl _) rfl
    rfl healthySurroundings

/-- The host goes to sleep while a probe is under way. -/
def sleepDuringProbe : List ResilienceAction :=
  pathThenFire ++ [.work healthySurroundings, .work healthySurroundings,
    .work healthySurroundings, .willSleep "10:01",
    .work healthySurroundings]

def probedController : NetworkResilienceController :=
  sleepDuringProbe.foldl perform (started "09:00")

def probedRecovery : RunningRecovery where
  recovery := ⟨1, 1, 1⟩
  point := .publish healthySurroundings.probed
  attempt := 1

/-- The probe of a superseded recovery replaces the state `suspended` of the
sleeping host by `healthy`. -/
theorem sleep_during_probe_is_overwritten :
    ¬ ∀ now controller running,
      Runs ResilienceStep (started now) controller →
      controller.worker = some running →
      controller.Superseded running.recovery →
      ∀ env, Inert controller (controller.perform (.work env)) := by
  intro inert
  have reached : Runs ResilienceStep (started "09:00") probedController :=
    Runs.ofFunction_foldl perform sleepDuringProbe (started "09:00")
  have superseded : probedController.Superseded ⟨1, 1, 1⟩ :=
    .inr (by decide)
  have kept := (inert "09:00" probedController probedRecovery reached rfl
    superseded healthySurroundings).status
  have suspended : probedController.status.state = .suspended := rfl
  have healthy : (probedController.perform
      (.work healthySurroundings)).status.state = .healthy := by decide
  rw [kept, suspended] at healthy
  cases healthy

end NetworkResilienceController

end Vzctl
