import Vzctl.Edge.EdgeAgreement
import Vzctl.Supervisor.EdgeRPC

/-!
# Generations between the supervisor and vz-edge

The supervisor draws a generation for every reconcile.  Calls can fail, be cut
off, come late, in another order or more than once, or never arrive; vz-edge
still knows of no generation that was not drawn, so that it never holds the
next one for outdated.
-/

namespace Vzctl

open Procedure Transitions

namespace EdgeServer

variable {Desired : Type} {empty : Desired} {world : World Desired}
  {drawn : Int} {call : EdgeManifest Desired} {stop : Option SubStep}
  {rollback : Option ApplyStep}

/-! ## Known generations -/

/-- Neither memory nor disk has a generation that was not drawn. -/
structure World.Within (drawn : Int) (world : World Desired) : Prop where
  notNegative : 0 ≤ drawn
  memory : world.memory.generation ≤ drawn
  manifest : ∀ manifest ∈ world.disk.manifest, manifest.generation ≤ drawn
  temporary : ∀ manifest ∈ world.disk.temporary, manifest.generation ≤ drawn

theorem keeps_perform {Step : Type} [DecidableEq Step] (stop : Option Step)
    (step : Step) {effect : World Desired → World Desired}
    (kept : ∀ world, world.Within drawn → (effect world).Within drawn) :
    Keeps (World.Within drawn) (perform stop step effect) :=
  (keeps_require _ _).bind fun _ => keeps_writing kept

theorem keeps_apply (stop : Option ApplyStep) (desired : Desired) :
    Keeps (World.Within drawn) (apply stop desired) := by
  intro world within
  refine (ends_apply stop desired world).mono ?_ ?_
  · rintro _ reached ⟨_, rfl⟩
    exact { within with }
  · rintro _ reached ⟨_, applied, rfl⟩
    exact { within with }

theorem keeps_persist (known : call.generation ≤ drawn) :
    Keeps (World.Within drawn) (persist stop call) := by
  have written : ∀ manifest ∈ some call, manifest.generation ≤ drawn := by
    rintro _ ⟨⟩
    exact known
  have moves : Keeps (World.Within drawn)
      (perform stop SubStep.move fun world : World Desired =>
        { world with
          disk := { manifest := world.disk.temporary, temporary := none }
          accepted := some call }) :=
    keeps_perform stop _ fun _ within =>
      { within with manifest := within.temporary, temporary := by simp }
  refine (keeps_perform stop _ fun _ within => within).bind fun _ => ?_
  refine Keeps.bind (keeps_perform stop _ fun _ within =>
    { within with temporary := written }) fun _ => ?_
  refine (keeps_reading _).bind fun standing => ?_
  dsimp only
  split
  · exact Keeps.bind (keeps_perform stop _ fun _ within =>
      { within with manifest := by simp }) fun _ => moves
  · exact moves

theorem keeps_record (known : call.generation ≤ drawn) :
    Keeps (World.Within drawn) (record call) :=
  keeps_writing fun _ within => { within with memory := known }

theorem keeps_note (failure : Failure) :
    Keeps (@World.Within Desired drawn) (note failure) :=
  keeps_writing fun _ within => { within with }

theorem keeps_advance (known : call.generation ≤ drawn) :
    Keeps (World.Within drawn) (advance stop call) :=
  (keeps_apply _ _).bind fun _ => keeps_persist known

theorem keeps_reconcile (known : call.generation ≤ drawn) :
    Keeps (World.Within drawn) (reconcile call stop rollback) := by
  refine (keeps_reading _).bind fun current =>
    (keeps_require _ _).bind fun _ => ?_
  split
  · exact keeps_require _ _
  · refine (keeps_require _ _).bind fun _ => Keeps.orElse
      ((keeps_advance known).bind fun _ => keeps_record known) fun failure =>
        (keeps_note failure).bind fun _ => ?_
    dsimp only
    split
    · refine Keeps.bind (Keeps.orElse (keeps_apply _ _) fun _ _ kept => ?_)
        fun _ _ kept => ?_
      · exact kept
      · exact kept
    · exact fun _ within => within

theorem keeps_restoreManifest (restore : Option RestoreStep) :
    Keeps (@World.Within Desired drawn) (restoreManifest restore) := by
  intro world within
  refine Ends.of_bind (Ends.of_reading (fun found same => ?_)
    fun _ impossible => by cases impossible)
  cases same
  split
  · exact within
  · next standing isStanding =>
      exact Keeps.orElse ((keeps_require _ _).bind fun _ =>
        (keeps_apply _ _).bind fun _ =>
          keeps_record (within.manifest standing isStanding))
        (fun _ => keeps_note _) world within

def Event.manifest : Event Desired → EdgeManifest Desired
  | .call manifest _ _ | .crash manifest _ _ => manifest

theorem within_step (within : world.Within drawn)
    {event : Event Desired} (known : event.manifest.generation ≤ drawn) :
    (world.step empty event).Within drawn := by
  cases event with
  | call manifest stop rollback =>
      exact (keeps_reconcile known world within).reached
  | crash manifest point restore =>
      have left : (world.cutOff manifest point).Within drawn := by
        rw [World.cutOff]
        split
        · exact (keeps_advance known world within).reached
        · exact within
      have restarted :
          ((world.cutOff manifest point).restarted empty).Within drawn :=
        { left with memory := left.notNegative }
      exact (keeps_restoreManifest restore _ restarted).reached

/-! ## Both sides -/

/-- The supervisor changes what it has stored, or draws a generation, or a
call arrives. -/
inductive Exchange (Desired : Type) where
  | stored (tables : EdgeDatabase)
  | drawn
  | arrival (event : Event Desired)

def exchange (empty : Desired) (state : EdgeDatabase × World Desired) :
    Exchange Desired → EdgeDatabase × World Desired
  | .stored tables =>
      ({ tables with generation := state.1.generation }, state.2)
  | .drawn => (state.1.nextEdgeGeneration, state.2)
  | .arrival event => (state.1, state.2.step empty event)

/-- A call that arrives has been sent, at any time before. -/
def Sent (state : EdgeDatabase × World Desired) :
    Exchange Desired → Prop
  | .arrival event => event.manifest.generation ≤ state.1.generation
  | _ => True

/-- The call that the supervisor makes next. -/
def nextCall (database : EdgeDatabase) (digest : String) (desired : Desired) :
    EdgeManifest Desired :=
  ⟨database.nextEdgeGeneration.generation, digest, desired⟩

/-- vz-edge knows of no generation that the supervisor has not drawn. -/
def Fenced (state : EdgeDatabase × World Desired) : Prop :=
  state.2.Within state.1.generation

theorem fenced_exchange {state : EdgeDatabase × World Desired}
    (fenced : Fenced state) {event : Exchange Desired}
    (sent : Sent state event) : Fenced (exchange empty state event) := by
  cases event with
  | stored tables => exact fenced
  | drawn =>
      have later : state.1.generation ≤ state.1.generation + 1 := by omega
      exact ⟨fenced.notNegative.trans later, fenced.memory.trans later,
        fun manifest found => (fenced.manifest manifest found).trans later,
        fun manifest found => (fenced.temporary manifest found).trans later⟩
  | arrival event => exact within_step fenced sent

/-- Whatever calls arrived, failed or were cut off before, the next call passes
the fence.  It is accepted, with the host, the disk and the memory as it asks,
unless one of its own sub-steps fails. -/
theorem nextCall_advances_of_runs {state : EdgeDatabase × World Desired}
    (run : Runs (guarded Sent (ofFunction (exchange empty)))
      (EdgeDatabase.empty, World.start empty) state)
    {digest : String} (hashed : digest ≠ "") (desired : Desired)
    (stop : Option SubStep) (rollback : Option ApplyStep) :
    (nextCall state.1 digest desired).Advances state.2.memory ∧
      Ends (reconcile (nextCall state.1 digest desired) stop rollback)
        (fun _ reached => reached.memory = nextCall state.1 digest desired ∧
          reached.disk.manifest = some (nextCall state.1 digest desired) ∧
          reached.applied = fun _ => some desired)
        (fun _ _ => stop ≠ none) state.2 := by
  have fenced : Fenced state := by
    refine invariant_of_runs Fenced ?_
      ⟨le_refl _, le_refl _, by simp [World.start], by simp [World.start]⟩ run
    rintro source event _ known ⟨sent, rfl⟩
    exact fenced_exchange known sent
  have newer : state.2.memory.generation <
      (nextCall state.1 digest desired).generation :=
    Int.lt_add_one_of_le fenced.memory
  refine ⟨⟨newer, hashed⟩, ?_⟩
  rw [reconcile]
  refine Ends.of_bind (Ends.of_reading (fun current same => ?_)
    fun _ impossible => by cases impossible)
  cases same
  refine Ends.of_bind (Ends.of_require (fun _ => ?_)
    fun stale => absurd newer.not_gt stale)
  rw [if_neg newer.ne']
  refine Ends.of_bind (Ends.of_require (fun _ => ?_)
    fun blank => absurd hashed blank)
  refine Ends.of_orElse (Ends.of_bind ((ends_advance stop _ _).mono ?_ ?_))
  · rintro _ reached ⟨_, rfl⟩
    exact ⟨rfl, rfl, rfl⟩
  · rintro failure reached ⟨stops, _⟩
    refine (ends_recover _ failure reached).mono ?_ fun _ _ _ => stops
    exact fun _ _ impossible => impossible.elim

theorem nextCall_advances_of_lost :
    (nextCall EdgeDatabase.empty.nextEdgeGeneration "two"
      "second").Advances (World.start "").memory :=
  (@nextCall_advances_of_runs String ""
    (EdgeDatabase.empty.nextEdgeGeneration, World.start "")
    ((Runs.refl _).guarded_snoc .drawn trivial rfl) "two" (by decide) "second"
    none none).1

end EdgeServer

end Vzctl
