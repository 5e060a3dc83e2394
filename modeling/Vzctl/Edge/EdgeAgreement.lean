import Vzctl.Edge.EdgeReconcile

/-!
# Memory, manifest and host agree

In a run in which no process ends, and no move fails, between the removal of
a manifest and the move of the next one, and in which every return to an
accepted desired state succeeds, memory, manifest and host always stand at
the call that was accepted last.
-/

namespace Vzctl

open Procedure Transitions

namespace EdgeServer

variable {Desired : Type} {empty : Desired} {world next : World Desired}
  {call : EdgeManifest Desired} {stop : Option SubStep}
  {rollback : Option ApplyStep}

/-! ## Sub-steps -/

def World.withApplied (world : World Desired)
    (applied : Part → Option Desired) : World Desired :=
  { world with applied := applied }

theorem ends_perform {Step : Type} [DecidableEq Step] {stop : Option Step}
    {step : Step} {effect : World Desired → World Desired}
    {returns : PUnit → World Desired → Prop}
    {fails : Failure → World Desired → Prop}
    (performed : stop ≠ some step → returns ⟨⟩ (effect world))
    (stopped : stop = some step → fails .failed world) :
    Ends (perform stop step effect) returns fails world := by
  rw [perform]
  apply Ends.of_bind
  refine Ends.of_require ?_ ?_
  · intro runs
    exact Ends.of_writing
      (fun changed done => Except.ok.inj done ▸ performed runs)
      fun failure impossible => by cases impossible
  · intro stops
    exact stopped (not_not.mp stops)

theorem ends_install {stop : Option ApplyStep} {step : ApplyStep}
    {part : Part} {desired : Desired}
    {returns : PUnit → World Desired → Prop}
    {fails : Failure → World Desired → Prop}
    (performed : stop ≠ some step → returns ⟨⟩ (world.set part (some desired)))
    (stopped : stop = some step → fails .failed (world.set part none)) :
    Ends (install stop step part desired) returns fails world := by
  rw [install]
  apply Ends.bind_writing_ok
  refine ends_perform ?_ stopped
  intro runs
  have twice : (world.set part none).set part (some desired) =
      world.set part (some desired) := by
    rw [World.set, World.set, World.set, Function.update_idem]
  rw [twice]
  exact performed runs

/-- `apply` changes nothing but the host, and leaves every part of it as the
desired state asks when no sub-step fails. -/
theorem ends_apply (stop : Option ApplyStep) (desired : Desired)
    (world : World Desired) :
    Ends (apply stop desired)
      (fun _ reached => stop = none ∧
        reached = world.withApplied fun _ => some desired)
      (fun _ reached => stop ≠ none ∧
        ∃ applied, reached = world.withApplied applied) world := by
  have failing : ∀ {step : ApplyStep} {reached : World Desired}
      {applied : Part → Option Desired}, stop = some step →
      reached = world.withApplied applied →
      stop ≠ none ∧ ∃ applied, reached = world.withApplied applied := by
    intro step reached applied stops same
    exact ⟨by rw [stops]; exact Option.some_ne_none step, applied, same⟩
  rw [apply]
  refine Ends.of_bind (ends_perform (fun parsed => ?_) fun stops =>
    failing stops rfl)
  apply Ends.bind_writing_ok
  refine Ends.of_bind (ends_perform (fun prepared => ?_) fun stops =>
    failing stops rfl)
  refine Ends.of_bind (ends_install (fun processes => ?_) fun stops =>
    failing stops rfl)
  refine Ends.of_bind (ends_install (fun portForwards => ?_) fun stops =>
    failing stops rfl)
  refine Ends.of_bind (ends_install (fun gateways => ?_) fun stops =>
    failing stops rfl)
  refine Ends.of_bind (ends_install (fun dns => ?_) fun stops =>
    failing stops rfl)
  refine ends_perform (fun finished => ?_) fun stops => failing stops rfl
  constructor
  · cases stop with
    | none => rfl
    | some step => cases step <;> contradiction
  · refine congrArg world.withApplied (funext fun part => ?_)
    cases part <;> rfl

theorem ends_persist (stop : Option SubStep) (call : EdgeManifest Desired)
    (world : World Desired) :
    Ends (persist stop call)
      (fun _ reached => (stop ≠ some .encode ∧ stop ≠ some .write ∧
          stop ≠ some .move) ∧ reached =
        { world with
          disk := { manifest := some call, temporary := none }
          accepted := some call })
      (fun _ reached => stop ≠ none ∧
        ∃ disk, reached = { world with disk := disk } ∧
          (disk.manifest = world.disk.manifest ∨
            stop = some .move ∧ world.disk.manifest ≠ none)) world := by
  have failing : ∀ {step : SubStep} {disk : Disk Desired},
      stop = some step →
      disk.manifest = world.disk.manifest ∨
        stop = some .move ∧ world.disk.manifest ≠ none →
      stop ≠ none ∧ ∃ other, { world with disk := disk } =
        { world with disk := other } ∧
          (other.manifest = world.disk.manifest ∨
            stop = some .move ∧ world.disk.manifest ≠ none) := by
    intro step disk stops same
    exact ⟨by rw [stops]; exact Option.some_ne_none step, disk, rfl, same⟩
  rw [persist]
  refine Ends.of_bind (ends_perform (fun encoded => ?_) fun stops =>
    failing stops (.inl rfl))
  refine Ends.of_bind (ends_perform (fun written => ?_) fun stops =>
    failing stops (.inl rfl))
  refine Ends.of_bind (Ends.of_reading ?_ fun failure impossible => by
    cases impossible)
  intro standing found
  cases found
  have moved : ∀ disk : Disk Desired, disk.temporary = some call →
      disk.manifest = world.disk.manifest ∨ world.disk.manifest ≠ none →
      Ends (perform stop SubStep.move fun reached : World Desired =>
          { reached with
            disk := { manifest := reached.disk.temporary, temporary := none }
            accepted := some call })
        (fun _ reached => (stop ≠ some .encode ∧ stop ≠ some .write ∧
            stop ≠ some .move) ∧ reached =
          { world with
            disk := { manifest := some call, temporary := none }
            accepted := some call })
        (fun _ reached => stop ≠ none ∧
          ∃ disk, reached = { world with disk := disk } ∧
            (disk.manifest = world.disk.manifest ∨
              stop = some .move ∧ world.disk.manifest ≠ none))
        { world with disk := disk } := by
    intro disk temporary kept
    refine ends_perform (fun runs => ?_) fun stops =>
      failing stops (kept.imp_right fun stood => ⟨stops, stood⟩)
    refine ⟨⟨encoded, written, runs⟩, ?_⟩
    rw [← temporary]
  dsimp only
  split
  · rename_i stood
    refine Ends.of_bind (ends_perform (fun removed => ?_) fun stops =>
      failing stops (.inl rfl))
    exact moved _ rfl (.inr (Option.isSome_iff_ne_none.mp stood))
  · exact moved _ rfl (.inl rfl)

theorem ends_advance (stop : Option SubStep) (call : EdgeManifest Desired)
    (world : World Desired) :
    Ends (advance stop call)
      (fun _ reached => (stop = none ∨ stop = some .remove) ∧ reached =
        { world with
          applied := fun _ => some call.desired
          disk := { manifest := some call, temporary := none }
          accepted := some call })
      (fun _ reached => stop ≠ none ∧
        ∃ applied disk, reached =
            { world with applied := applied, disk := disk } ∧
          (disk.manifest = world.disk.manifest ∨
            stop = some .move ∧ world.disk.manifest ≠ none)) world := by
  rw [advance]
  refine Ends.of_bind ((ends_apply _ call.desired world).mono ?_ ?_)
  · rintro _ reached ⟨applies, rfl⟩
    refine (ends_persist stop call _).mono ?_ ?_
    · rintro _ reached ⟨⟨encodes, writes, moves⟩, rfl⟩
      refine ⟨?_, rfl⟩
      cases stop with
      | none => exact .inl rfl
      | some step =>
          cases step with
          | apply => cases applies
          | encode => exact absurd rfl encodes
          | write => exact absurd rfl writes
          | remove => exact .inr rfl
          | move => exact absurd rfl moves
    · rintro _ reached ⟨stops, disk, rfl, kept⟩
      exact ⟨stops, _, disk, rfl, kept⟩
  · rintro _ reached ⟨stops, applied, rfl⟩
    refine ⟨?_, applied, world.disk, rfl, .inl rfl⟩
    rintro rfl
    exact stops rfl

theorem ends_recover (current : EdgeManifest Desired)
    (failure : Failure) (world : World Desired) :
    Ends (recover current rollback failure) (fun _ _ => False)
      (fun _ reached => ∃ lastError applied,
        reached = { world with lastError := lastError, applied := applied } ∧
          (0 < current.generation → rollback = none →
            applied = fun _ => some current.desired)) world := by
  rw [recover]
  apply Ends.bind_writing_ok
  dsimp only
  split
  · rename_i positive
    apply Ends.of_bind
    apply Ends.of_attempt
    refine (ends_apply rollback current.desired _).mono ?_ ?_
    · rintro _ reached ⟨_, rfl⟩
      exact ⟨_, _, rfl, fun _ _ => rfl⟩
    · rintro _ reached ⟨stops, applied, rfl⟩
      exact ⟨_, applied, rfl, fun _ reliable => absurd reliable stops⟩
  · rename_i unaccepted
    exact ⟨_, world.applied, rfl, fun positive => absurd positive unaccepted⟩

/-! ## Conditions -/

/-- A repeated call repeats an accepted one.  No move fails, and no process
ends before one, when the manifest that stood has been removed.  A return to
an accepted desired state succeeds. -/
def Event.Sound (world : World Desired) : Event Desired → Prop
  | .call manifest stop rollback =>
      (manifest.generation = world.memory.generation →
        manifest.digest = world.memory.digest →
          manifest.desired = world.memory.desired ∧
            0 < manifest.generation) ∧
        (manifest.Advances world.memory → stop = some .move →
          world.disk.manifest = none) ∧
        (manifest.Advances world.memory → stop ≠ none →
          0 < world.memory.generation → rollback = none)
  | .crash manifest point restore =>
      (manifest.Advances world.memory → point = some .move →
        world.disk.manifest = none) ∧
      (restore = none ∨ world.disk.manifest = none ∧
        (manifest.Advances world.memory →
          point ≠ none ∧ point ≠ some .remove))

structure World.Consistent (empty : Desired) (world : World Desired) :
    Prop where
  manifest : world.disk.manifest = world.accepted
  unaccepted : world.accepted = none → world.memory = blank empty
  memory : ∀ manifest, world.accepted = some manifest →
    world.memory = manifest
  positive : ∀ manifest, world.accepted = some manifest →
    0 < manifest.generation
  applied : ∀ manifest, world.accepted = some manifest →
    world.applied = fun _ => some manifest.desired

theorem start_consistent (empty : Desired) :
    (World.start empty).Consistent empty where
  manifest := rfl
  unaccepted _ := rfl
  memory _ impossible := by cases impossible
  positive _ impossible := by cases impossible
  applied _ impossible := by cases impossible

theorem World.Consistent.accepted_of_positive
    (consistent : world.Consistent empty)
    (positive : 0 < world.memory.generation) :
    world.accepted = some world.memory := by
  cases found : world.accepted with
  | none =>
      rw [consistent.unaccepted found] at positive
      exact absurd positive (Int.lt_irrefl 0)
  | some manifest => rw [consistent.memory manifest found]

theorem World.Consistent.generation_nonneg
    (consistent : world.Consistent empty) : 0 ≤ world.memory.generation := by
  cases found : world.accepted with
  | none =>
      rw [consistent.unaccepted found]
      exact Int.le_refl 0
  | some manifest =>
      rw [consistent.memory manifest found]
      exact Int.le_of_lt (consistent.positive manifest found)

theorem consistent_of_accepted (lastError : Option Failure)
    (positive : 0 < call.generation) :
    World.Consistent empty
      { memory := call, lastError := lastError
        applied := fun _ => some call.desired
        disk := { manifest := some call, temporary := none }
        accepted := some call } where
  manifest := rfl
  unaccepted impossible := by cases impossible
  memory _ same := Option.some.inj same
  positive _ same := Option.some.inj same ▸ positive
  applied _ same := Option.some.inj same ▸ rfl

/-! ## Calls -/

theorem reconcile_of_fenced (stop : Option SubStep)
    (rollback : Option ApplyStep)
    (fenced : call.generation < world.memory.generation ∨
      call.generation = world.memory.generation ∧
        call.digest ≠ world.memory.digest) :
    reconcile call stop rollback world = (.error .conflict, world) := by
  rw [reconcile, bind_run, reading_run]
  dsimp only
  rcases fenced with stale | ⟨same, other⟩
  · rw [require_bind_run_of_not _ (not_not_intro stale)]
  · rw [require_bind_run _ (by omega), if_pos same, Procedure.require,
      if_neg other]
    rfl

theorem ends_reconcile (consistent : world.Consistent empty)
    (sound : (Event.call call stop rollback).Sound world) :
    Ends (reconcile call stop rollback)
      (fun _ reached => reached.Consistent empty ∧
        reached.memory = call ∧ reached.disk.manifest = some call ∧
          world.memory.generation ≤ call.generation)
      (fun _ reached => reached.Consistent empty ∧
        reached.memory = world.memory ∧
          reached.disk.manifest = world.disk.manifest ∧
            reached.accepted = world.accepted) world := by
  obtain ⟨repeats, moves, rolledBack⟩ := sound
  rw [reconcile]
  refine Ends.of_bind (Ends.of_reading ?_ fun failure impossible => by
    cases impossible)
  intro current found
  cases found
  refine Ends.of_require_bind ⟨consistent, rfl, rfl, rfl⟩ fun current => ?_
  split
  · rename_i same
    refine Ends.of_require ?_ fun _ => ⟨consistent, rfl, rfl, rfl⟩
    intro sameDigest
    obtain ⟨sameDesired, positive⟩ := repeats same sameDigest
    have recorded : world.memory = call := by
      cases call
      cases memory : world.memory
      rw [memory] at same sameDigest sameDesired
      cases same
      cases sameDigest
      cases sameDesired
      rfl
    have accepted := consistent.accepted_of_positive (same ▸ positive)
    rw [recorded] at accepted
    exact ⟨consistent, recorded, consistent.manifest.trans accepted,
      Int.le_of_eq same.symm⟩
  · rename_i other
    refine Ends.of_require_bind ⟨consistent, rfl, rfl, rfl⟩
      fun nonempty => ?_
    have advances : call.Advances world.memory := ⟨by omega, nonempty⟩
    have natural := consistent.generation_nonneg
    have positive : 0 < call.generation := by omega
    apply Ends.of_orElse
    refine Ends.of_bind ((ends_advance stop call world).mono ?_ ?_)
    · rintro _ reached ⟨_, rfl⟩
      refine Ends.of_writing (fun changed done => ?_)
        fun failure impossible => by cases impossible
      cases done
      exact ⟨consistent_of_accepted none positive, rfl, rfl, by omega⟩
    · rintro failure reached ⟨stops, broken, disk, rfl, kept⟩
      have standing : disk.manifest = world.disk.manifest := by
        rcases kept with same | unmoved
        · exact same
        · exact absurd (moves advances unmoved.1) unmoved.2
      refine (ends_recover world.memory failure _).mono
        (fun _ _ impossible => impossible.elim) ?_
      rintro _ reached ⟨lastError, applied, rfl, returned⟩
      have returnedTo : ∀ manifest, world.accepted = some manifest →
          applied = fun _ => some manifest.desired := by
        intro manifest accepted
        have recorded := consistent.memory manifest accepted
        have running : 0 < world.memory.generation := by
          rw [recorded]
          exact consistent.positive manifest accepted
        rw [returned running (rolledBack advances stops running), recorded]
      refine ⟨?_, rfl, standing, rfl⟩
      exact
        { manifest := standing.trans consistent.manifest
          unaccepted := consistent.unaccepted
          memory := consistent.memory
          positive := consistent.positive
          applied := returnedTo }

/-! ## Ends of processes -/

variable {point : Option SubStep} {restore : Option RestoreStep}

theorem cutOff_manifest (consistent : world.Consistent empty)
    (sound : (Event.crash call point restore).Sound world) :
    (world.cutOff call point).disk.manifest =
        (world.cutOff call point).accepted ∧
      ((world.cutOff call point).accepted = world.accepted ∨
        (world.cutOff call point).accepted = some call ∧
          call.Advances world.memory ∧
            (point = none ∨ point = some .remove)) := by
  rw [World.cutOff]
  split
  · rename_i advances
    let holdsIn : World Desired → Prop := fun reached =>
      reached.disk.manifest = reached.accepted ∧
        (reached.accepted = world.accepted ∨
          reached.accepted = some call ∧ call.Advances world.memory ∧
            (point = none ∨ point = some .remove))
    have ended : Ends (advance point call) (fun _ => holdsIn)
        (fun _ => holdsIn) world := by
      refine (ends_advance point call world).mono ?_ ?_
      · rintro _ reached ⟨completed, rfl⟩
        exact ⟨rfl, .inr ⟨rfl, advances, completed⟩⟩
      rintro failure reached ⟨stops, applied, disk, rfl, kept⟩
      refine ⟨?_, .inl rfl⟩
      rcases kept with same | unmoved
      · exact same.trans consistent.manifest
      · exact absurd (sound.1 advances unmoved.1) unmoved.2
    exact ended.reached
  · exact ⟨consistent.manifest, .inl rfl⟩

theorem restoreManifest_of_some {manifest : EdgeManifest Desired}
    (found : world.disk.manifest = some manifest) :
    (restoreManifest none (world.restarted empty)).2 =
      { memory := manifest, lastError := none
        applied := fun _ => some manifest.desired
        disk := world.disk, accepted := world.accepted } := by
  have ended : Ends (restoreManifest none)
      (fun _ reached => reached =
        { memory := manifest, lastError := none
          applied := fun _ => some manifest.desired
          disk := world.disk, accepted := world.accepted })
      (fun _ reached => reached =
        { memory := manifest, lastError := none
          applied := fun _ => some manifest.desired
          disk := world.disk, accepted := world.accepted })
      (world.restarted empty) := by
    rw [restoreManifest]
    refine Ends.of_bind (Ends.of_reading ?_ fun failure impossible => by
      cases impossible)
    intro standing same
    have recorded : standing = some manifest :=
      (Except.ok.inj same).symm.trans found
    rw [recorded]
    apply Ends.of_orElse
    refine Ends.of_bind (Ends.of_require ?_ fun read =>
      absurd (Option.some_ne_none _).symm read)
    intro _
    refine Ends.of_bind ((ends_apply _ manifest.desired _).mono ?_ ?_)
    · rintro _ reached ⟨_, rfl⟩
      refine Ends.of_writing (fun changed done => ?_)
        fun failure impossible => by cases impossible
      cases done
      rfl
    · rintro _ reached ⟨stops, _⟩
      exact absurd rfl stops
  exact ended.reached

theorem restoreManifest_of_none (absent : world.disk.manifest = none) :
    (restoreManifest restore (world.restarted empty)).2 =
      world.restarted empty := by
  rw [restoreManifest, bind_run, reading_run]
  have blankDisk : (world.restarted empty).disk.manifest = none := absent
  rw [blankDisk]
  rfl

theorem crash_consistent (consistent : world.Consistent empty)
    (sound : (Event.crash call point restore).Sound world) :
    (world.step empty (.crash call point restore)).Consistent empty ∧
      world.memory.generation ≤
        (world.step empty (.crash call point restore)).memory.generation ∧
      ((world.step empty (.crash call point restore)).accepted =
          world.accepted ∨
        (world.step empty (.crash call point restore)).accepted =
          some call) := by
  obtain ⟨left, standing⟩ := cutOff_manifest consistent sound
  rw [World.step]
  cases found : (world.cutOff call point).disk.manifest with
  | none =>
      rw [restoreManifest_of_none found]
      have nothing := left.symm.trans found
      have before : world.accepted = none := by
        rcases standing with same | ⟨own, _⟩
        · rw [← same]
          exact nothing
        · rw [nothing] at own
          cases own
      refine ⟨?_, ?_, standing.imp_right And.left⟩
      · exact
          { manifest := left
            unaccepted := fun _ => rfl
            memory := fun manifest accepted => by
              rw [World.restarted, nothing] at accepted
              cases accepted
            positive := fun manifest accepted => by
              rw [World.restarted, nothing] at accepted
              cases accepted
            applied := fun manifest accepted => by
              rw [World.restarted, nothing] at accepted
              cases accepted }
      · rw [consistent.unaccepted before]
        exact Int.le_refl 0
  | some manifest =>
      have accepted := left.symm.trans found
      have reliable : restore = none := by
        rcases sound.2 with reliable | ⟨absent, unfinished⟩
        · exact reliable
        · rcases standing with same | ⟨_, advances, completed⟩
          · rw [accepted, ← consistent.manifest, absent] at same
            cases same
          · have early := unfinished advances
            rcases completed with done | done
            · exact absurd done early.1
            · exact absurd done early.2
      have grown : world.memory.generation ≤ manifest.generation ∧
          0 < manifest.generation := by
        rcases standing with same | ⟨own, advances, _⟩
        · rw [accepted] at same
          rw [consistent.memory manifest same.symm]
          exact ⟨Int.le_refl _, consistent.positive manifest same.symm⟩
        · rw [accepted] at own
          rw [Option.some.inj own]
          have natural := consistent.generation_nonneg
          have later := advances.1
          exact ⟨by omega, by omega⟩
      rw [reliable, restoreManifest_of_some found]
      refine ⟨?_, grown.1, standing.imp_right And.left⟩
      exact
        { manifest := left
          unaccepted := fun nothing => by
            rw [accepted] at nothing
            cases nothing
          memory := fun other same => by
            rw [accepted] at same
            exact Option.some.inj same
          positive := fun other same => by
            rw [accepted] at same
            rw [← Option.some.inj same]
            exact grown.2
          applied := fun other same => by
            rw [accepted] at same
            rw [← Option.some.inj same] }

/-! ## Runs -/

theorem consistent_of_step (consistent : world.Consistent empty)
    {event : Event Desired} (sound : event.Sound world) :
    (world.step empty event).Consistent empty := by
  cases event with
  | call manifest stop rollback =>
      have ended := ends_reconcile consistent sound
      exact Ends.reached
        (ended.mono (fun _ _ accepted => accepted.1) fun _ _ kept => kept.1)
  | crash manifest point restore => exact (crash_consistent consistent sound).1

theorem consistent_of_runs
    (run : Runs (guarded Event.Sound (ofFunction (World.step empty)))
      (World.start empty) world) : world.Consistent empty := by
  refine invariant_of_runs (World.Consistent empty) ?_ (start_consistent empty)
    run
  rintro source event target consistent ⟨sound, rfl⟩
  exact consistent_of_step consistent sound

/-- What an event does to the memory and the manifest. -/
def Event.Answered (empty : Desired) (world : World Desired) :
    Event Desired → Prop
  | .call manifest stop rollback =>
      Ends (reconcile manifest stop rollback)
        (fun _ reached => reached.memory = manifest ∧
          reached.disk.manifest = some manifest ∧
            world.memory.generation ≤ manifest.generation)
        (fun _ reached => reached.memory = world.memory ∧
          reached.disk.manifest = world.disk.manifest ∧
            reached.accepted = world.accepted) world
  | .crash manifest point restore =>
      let next := world.step empty (.crash manifest point restore)
      world.memory.generation ≤ next.memory.generation ∧
        (next.accepted = world.accepted ∨ next.accepted = some manifest)

/-- A fenced call changes nothing.  In every run of sound events memory,
manifest and host stand at the call that was accepted last, a call that
returns is that call, one that fails changes neither memory nor manifest, and
no generation is lower than an earlier one. -/
theorem reconcile_fenced {Desired : Type} (empty : Desired) :
    (∀ (world : World Desired) (call : EdgeManifest Desired)
        (stop : Option SubStep) (rollback : Option ApplyStep),
      call.generation < world.memory.generation ∨
          call.generation = world.memory.generation ∧
            call.digest ≠ world.memory.digest →
        reconcile call stop rollback world = (.error .conflict, world)) ∧
      ∀ world, Runs (guarded Event.Sound (ofFunction (World.step empty)))
          (World.start empty) world →
        world.Consistent empty ∧
          ∀ event : Event Desired, event.Sound world →
            event.Answered empty world := by
  constructor
  · intro world call stop rollback fenced
    exact reconcile_of_fenced stop rollback fenced
  intro world run
  have consistent := consistent_of_runs run
  refine ⟨consistent, fun event sound => ?_⟩
  cases event with
  | call manifest stop rollback =>
      exact (ends_reconcile consistent sound).mono
        (fun _ _ accepted => accepted.2) fun _ _ kept => kept.2
  | crash manifest point restore =>
      exact (crash_consistent consistent sound).2

def firstCall : EdgeManifest String where
  generation := 1
  digest := "one"
  desired := "first"

def secondCall : EdgeManifest String where
  generation := 2
  digest := "two"
  desired := "second"

theorem reconcile_fenced_secondCall :
    (World.step "" (World.start "") (.call firstCall none none)).Consistent
        "" ∧
      (Event.call secondCall (some .write) none).Answered ""
        (World.step "" (World.start "") (.call firstCall none none)) := by
  have sound : (Event.call firstCall none none).Sound (World.start "") := by
    refine ⟨by decide, fun _ impossible => ?_, fun _ impossible => ?_⟩
    · cases impossible
    · exact absurd rfl impossible
  have reached := (reconcile_fenced "").2 _
    ((Runs.refl (World.start "")).snoc (⟨sound, rfl⟩ :
      guarded Event.Sound (ofFunction (World.step "")) (World.start "")
        (.call firstCall none none) _))
  refine ⟨reached.1, reached.2 _ ⟨by decide, fun _ impossible => ?_,
    fun _ _ _ => rfl⟩⟩
  cases impossible

/-- A move that fails after the removal, and a process that ends between the
two, leave no manifest although a call has been accepted; the next process
starts at generation 0. -/
theorem reconcile_not_fenced :
    ¬ (∀ world : World String,
      Runs (ofFunction (World.step "")) (World.start "") world →
        world.Consistent "") ∧
      ∃ world : World String,
        Runs (ofFunction (World.step "")) (World.start "") world ∧
          world.memory.generation = 1 ∧
          (world.step "" (.crash secondCall (some .move) none)).memory =
            blank "" := by
  have run : Runs (ofFunction (World.step "")) (World.start "")
      (World.step "" (World.start "") (.call firstCall none none)) :=
    (Runs.refl _).snoc rfl
  constructor
  · intro consistent
    have removed := (consistent _ (run.snoc (rfl :
      ofFunction (World.step "") _
        (.call secondCall (some .move) none) _))).manifest
    have absent : (World.step ""
        (World.step "" (World.start "") (.call firstCall none none))
        (.call secondCall (some .move) none)).disk.manifest = none := by
      decide
    have accepted : (World.step ""
        (World.step "" (World.start "") (.call firstCall none none))
        (.call secondCall (some .move) none)).accepted = some firstCall := by
      decide
    rw [absent, accepted] at removed
    cases removed
  · exact ⟨_, run, by decide, by decide⟩

end EdgeServer

end Vzctl
