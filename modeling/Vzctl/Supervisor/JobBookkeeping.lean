import Vzctl.Lib.Transition
import Vzctl.Supervisor.RestJobs

/-!
# The bookkeeping of REST jobs

What the table, the order and the marks have in common after any interleaving,
and what becomes of a job that has ended or that `cancel` has marked.
-/

namespace Vzctl

namespace RestJobRunner

variable {limits : JobLimits} {runner pruned : RestJobRunner} {id : String}
  {job : RestJob}

/-! ## The table and the order -/

/-- The order lists the jobs of the table, each once. -/
structure Filed (runner : RestJobRunner) : Prop where
  nodup : runner.order.Nodup
  same : ∀ id, id ∈ runner.order ↔ id ∈ runner.jobs

theorem keys_perm_order (filed : runner.Filed) :
    runner.jobs.keys.Perm runner.order := by
  rw [List.perm_ext_iff_of_nodup runner.jobs.keys_nodup filed.nodup]
  intro id
  rw [filed.same, AList.mem_keys]

theorem length_entries (filed : runner.Filed) :
    runner.jobs.entries.length = runner.order.length := by
  have sameKeys := (keys_perm_order filed).length_eq
  rw [AList.keys, List.keys, List.length_map] at sameKeys
  exact sameKeys

theorem isActive_eq (id : String) :
    runner.isActive id =
      (runner.jobs.lookup id).any fun job => job.status.isActive := by
  rw [isActive, statusOf]
  cases runner.jobs.lookup id with
  | none => rfl
  | some job => rfl

theorem activeCount_eq (filed : runner.Filed) :
    runner.activeCount = (runner.order.filter runner.isActive).length := by
  have meets : runner.isActive = fun id =>
      (runner.jobs.lookup id).any fun job => job.status.isActive :=
    funext fun id => isActive_eq id
  have counted := Dictionary.length_filter_values runner.jobs
    fun job => job.status.isActive
  rw [activeCount, counted, meets]
  exact ((keys_perm_order filed).filter _).length_eq

theorem statusOf_eq_none_iff (filed : runner.Filed) :
    runner.statusOf id = none ↔ id ∉ runner.order := by
  rw [filed.same, statusOf, Option.map_eq_none_iff, ← AList.lookup_isSome,
    Option.not_isSome_iff_eq_none]

/-! ## Pruning -/

/-- Some jobs that have ended are gone, and nothing else has changed. -/
structure Pruned (runner pruned : RestJobRunner) : Prop where
  filed : pruned.Filed
  order : pruned.order.Sublist runner.order
  statusOf : ∀ id ∈ pruned.order, pruned.statusOf id = runner.statusOf id
  dropped : ∀ id ∈ runner.order, id ∉ pruned.order →
    runner.isTerminal id = true
  marks : ∀ id ∈ pruned.cancelledJobs, id ∈ runner.cancelledJobs
  kept : ∀ id ∈ pruned.order, id ∈ runner.cancelledJobs →
    id ∈ pruned.cancelledJobs

theorem Pruned.refl (filed : runner.Filed) : Pruned runner runner where
  filed := filed
  order := List.Sublist.refl _
  statusOf _ _ := rfl
  dropped _ member absent := absurd member absent
  marks _ marked := marked
  kept _ _ marked := marked

theorem Pruned.isTerminal (gone : Pruned runner pruned)
    (member : id ∈ pruned.order) :
    pruned.isTerminal id = runner.isTerminal id := by
  rw [RestJobRunner.isTerminal, RestJobRunner.isTerminal,
    gone.statusOf id member]

theorem Pruned.isActive (gone : Pruned runner pruned)
    (member : id ∈ pruned.order) :
    pruned.isActive id = runner.isActive id := by
  rw [RestJobRunner.isActive, RestJobRunner.isActive,
    gone.statusOf id member]

theorem Pruned.trans {middle : RestJobRunner} (first : Pruned runner middle)
    (second : Pruned middle pruned) : Pruned runner pruned where
  filed := second.filed
  order := second.order.trans first.order
  statusOf id member := by
    rw [second.statusOf id member,
      first.statusOf id (second.order.subset member)]
  dropped id member absent := by
    by_cases stays : id ∈ middle.order
    · rw [← first.isTerminal stays]
      exact second.dropped id stays absent
    · exact first.dropped id member stays
  marks id marked := first.marks id (second.marks id marked)
  kept id member marked :=
    second.kept id member (first.kept id (second.order.subset member) marked)

theorem pruned_of_pruneOne (filed : runner.Filed)
    (removed : runner.pruneOne = some pruned) :
    Pruned runner pruned ∧
      pruned.order.length + 1 = runner.order.length := by
  obtain ⟨id, found, rfl⟩ := Option.map_eq_some_iff.mp removed
  obtain ⟨terminal, before, after, parts, earlier⟩ :=
    List.find?_eq_some_iff_append.mp found
  have passed : ∀ other ∈ before, ¬ runner.isTerminal other = true := by
    intro other member
    simpa using earlier other member
  have rest : runner.order.eraseP runner.isTerminal = before ++ after := by
    rw [parts, List.eraseP_append_right _ passed,
      List.eraseP_cons_of_pos terminal]
  have nodup := filed.nodup
  rw [parts, List.nodup_middle, List.nodup_cons] at nodup
  have member : ∀ other, other ∈ before ++ after ↔
      other ∈ runner.order ∧ other ≠ id := by
    intro other
    rw [parts]
    constructor
    · intro inside
      refine ⟨by simp at inside ⊢; tauto, ?_⟩
      rintro rfl
      exact nodup.1 inside
    · simp
      tauto
  have size : (before ++ after).length + 1 = runner.order.length := by
    simp [parts]
    omega
  simp only [rest]
  refine ⟨?_, size⟩
  have sameStatus : ∀ other ∈ before ++ after,
      (runner.jobs.erase id).lookup other = runner.jobs.lookup other :=
    fun other inside => AList.lookup_erase_ne ((member other).mp inside).2
  exact {
    filed := {
      nodup := nodup.2
      same := by
        intro other
        rw [member, filed.same, AList.mem_erase, and_comm] }
    order := by
      rw [parts]
      exact (List.sublist_cons_self id after).append_left before
    statusOf := by
      intro other inside
      rw [RestJobRunner.statusOf, sameStatus other inside,
        RestJobRunner.statusOf]
    dropped := by
      intro other inside absent
      by_cases same : other = id
      · rw [same]
        exact terminal
      · exact absurd ((member other).mpr ⟨inside, same⟩) absent
    marks := fun other marked => (List.mem_filter.mp marked).1
    kept := by
      intro other inside marked
      exact List.mem_filter.mpr
        ⟨marked, by simpa using ((member other).mp inside).2⟩ }

/-- The loop ends with few enough jobs, or when none is left that has
ended. -/
theorem pruned_pruneRounds (rounds : Nat) (filed : runner.Filed)
    (enough : runner.order.length ≤ rounds) :
    Pruned runner (pruneRounds limits rounds runner) ∧
      (((pruneRounds limits rounds runner).jobs.entries.length : Int) ≤
          max 1 limits.retainedJobs ∨
        ∀ id ∈ (pruneRounds limits rounds runner).order,
          (pruneRounds limits rounds runner).isTerminal id = false) := by
  induction rounds generalizing runner with
  | zero =>
      have none : runner.order = [] :=
        List.length_eq_zero_iff.mp (Nat.le_zero.mp enough)
      refine ⟨Pruned.refl filed, .inr ?_⟩
      simp [pruneRounds, none]
  | succ rounds ih =>
      rw [pruneRounds]
      by_cases many : max 1 limits.retainedJobs <
          (runner.jobs.entries.length : Int)
      · rw [if_pos many]
        cases removed : runner.pruneOne with
        | none =>
            refine ⟨Pruned.refl filed, .inr ?_⟩
            have nothing := Option.map_eq_none_iff.mp removed
            simpa using List.find?_eq_none.mp nothing
        | some pruned =>
            obtain ⟨gone, shorter⟩ := pruned_of_pruneOne filed removed
            obtain ⟨later, ends⟩ :=
              ih gone.filed (by omega)
            exact ⟨gone.trans later, ends⟩
      · rw [if_neg many]
        exact ⟨Pruned.refl filed, .inl (by omega)⟩

theorem pruned_pruneLocked (filed : runner.Filed) :
    Pruned runner (runner.pruneLocked limits) :=
  (pruned_pruneRounds _ filed (Nat.le_refl _)).1

theorem activeCount_le_of_pruned (filed : runner.Filed)
    (gone : Pruned runner pruned) :
    pruned.activeCount ≤ runner.activeCount := by
  have same : pruned.order.filter pruned.isActive =
      pruned.order.filter runner.isActive :=
    List.filter_congr fun id member => gone.isActive member
  rw [activeCount_eq filed, activeCount_eq gone.filed, same]
  exact (gone.order.filter _).length_le

theorem pruneLocked_ends (filed : runner.Filed) :
    ((runner.pruneLocked limits).jobs.entries.length : Int) ≤
        max 1 limits.retainedJobs ∨
      ∀ id ∈ (runner.pruneLocked limits).order,
        (runner.pruneLocked limits).isTerminal id = false :=
  (pruned_pruneRounds _ filed (Nat.le_refl _)).2

theorem isActive_of_not_isTerminal (filed : runner.Filed)
    (member : id ∈ runner.order) (going : runner.isTerminal id = false) :
    runner.isActive id = true := by
  have known : runner.statusOf id ≠ none := by
    rw [ne_eq, statusOf_eq_none_iff filed, not_not]
    exact member
  obtain ⟨status, isStatus⟩ := Option.ne_none_iff_exists'.mp known
  rw [isTerminal, isStatus, Option.any_some, JobStatus.isTerminal,
    Bool.not_eq_false'] at going
  rw [isActive, isStatus, Option.any_some]
  exact going

theorem length_pruneLocked (filed : runner.Filed)
    (few : (runner.activeCount : Int) ≤
      max 1 (min limits.activeJobs limits.retainedJobs)) :
    ((runner.pruneLocked limits).jobs.entries.length : Int) ≤
      max 1 limits.retainedJobs := by
  have gone : Pruned runner (runner.pruneLocked limits) :=
    pruned_pruneLocked filed
  have fewer := activeCount_le_of_pruned filed gone
  rcases pruneLocked_ends filed with short | noneLeft
  · exact short
  · have everyone : (runner.pruneLocked limits).order.filter
        (runner.pruneLocked limits).isActive =
          (runner.pruneLocked limits).order := by
      rw [List.filter_eq_self]
      intro id member
      exact isActive_of_not_isTerminal gone.filed member (noneLeft id member)
    have counted := activeCount_eq gone.filed
    rw [everyone, ← length_entries gone.filed] at counted
    omega

/-! ## What always holds of a runner -/

structure Sound (limits : JobLimits) (runner : RestJobRunner) : Prop where
  filed : runner.Filed
  active : (runner.activeCount : Int) ≤
    max 1 (min limits.activeJobs limits.retainedJobs)
  bounded : (runner.jobs.entries.length : Int) ≤ max 1 limits.retainedJobs
  marked : ∀ id ∈ runner.cancelledJobs, runner.isActive id = true

theorem mem_order_of_isActive (filed : runner.Filed)
    (active : runner.isActive id = true) : id ∈ runner.order := by
  by_contra absent
  have missing := (statusOf_eq_none_iff filed).mpr absent
  rw [isActive, missing] at active
  cases active

theorem not_isTerminal_of_isActive (active : runner.isActive id = true) :
    runner.isTerminal id = false := by
  rw [isActive] at active
  rw [isTerminal]
  cases status : runner.statusOf id with
  | none => rfl
  | some found =>
      rw [status] at active
      simpa [JobStatus.isTerminal] using active

theorem Pruned.mem_order_of_isActive (filed : runner.Filed)
    (gone : Pruned runner pruned) (active : runner.isActive id = true) :
    id ∈ pruned.order := by
  by_contra absent
  have ended := gone.dropped id
    (RestJobRunner.mem_order_of_isActive filed active) absent
  rw [not_isTerminal_of_isActive active] at ended
  cases ended

theorem Pruned.statusOf_eq (filed : runner.Filed)
    (gone : Pruned runner pruned) (id : String) :
    pruned.statusOf id = runner.statusOf id ∨
      pruned.statusOf id = none ∧ runner.isTerminal id = true := by
  by_cases stays : id ∈ pruned.order
  · exact .inl (gone.statusOf id stays)
  · have missing := (statusOf_eq_none_iff gone.filed).mpr stays
    by_cases listed : id ∈ runner.order
    · exact .inr ⟨missing, gone.dropped id listed stays⟩
    · rw [missing, (statusOf_eq_none_iff filed).mpr listed]
      exact .inl rfl

theorem sound_pruneLocked (filed : runner.Filed)
    (active : (runner.activeCount : Int) ≤
      max 1 (min limits.activeJobs limits.retainedJobs))
    (marked : ∀ id ∈ runner.cancelledJobs, runner.isActive id = true) :
    Sound limits (runner.pruneLocked limits) := by
  have gone : Pruned runner (runner.pruneLocked limits) :=
    pruned_pruneLocked filed
  have fewer := activeCount_le_of_pruned filed gone
  exact {
    filed := gone.filed
    active := by omega
    bounded := length_pruneLocked filed active
    marked := by
      intro id marks
      have before := marked id (gone.marks id marks)
      rw [gone.isActive (gone.mem_order_of_isActive filed before)]
      exact before }

theorem pruneLocked_eq_self
    (short : (runner.jobs.entries.length : Int) ≤
      max 1 limits.retainedJobs) : runner.pruneLocked limits = runner := by
  rw [pruneLocked]
  cases runner.order.length with
  | zero => rfl
  | succ rounds => rw [pruneRounds, if_neg (by omega)]

/-! ## A job is stored -/

/-- The runner with a new value for a job. -/
def stored (runner : RestJobRunner) (id : String) (job : RestJob) :
    RestJobRunner :=
  { runner with
    jobs := runner.jobs.insert id job
    cancelledJobs :=
      if job.status.isTerminal then runner.cancelledJobs.filter (· ≠ id)
      else runner.cancelledJobs }

theorem update_of_missing {mutate : RestJob → RestJob}
    (missing : runner.jobs.lookup id = none) :
    runner.update limits id mutate = runner := by
  rw [update, missing]

theorem statusOf_stored (other : String) :
    (runner.stored id job).statusOf other =
      if other = id then some job.status else runner.statusOf other := by
  rw [statusOf, stored]
  by_cases same : other = id
  · rw [if_pos same, same, AList.lookup_insert]
    rfl
  · rw [if_neg same, AList.lookup_insert_ne same]
    rfl

theorem filed_stored {held : RestJob} (filed : runner.Filed)
    (found : runner.jobs.lookup id = some held) :
    (runner.stored id job).Filed where
  nodup := filed.nodup
  same := by
    have present : id ∈ runner.jobs := by
      rw [← AList.lookup_isSome, found]
      rfl
    intro other
    rw [stored, AList.mem_insert, ← filed.same]
    constructor
    · intro inside
      exact .inr inside
    · rintro (same | inside)
      · rw [same]
        exact (filed.same id).mpr present
      · exact inside

theorem statusOf_of_lookup (found : runner.jobs.lookup id = some job) :
    runner.statusOf id = some job.status := by
  rw [statusOf, found]
  rfl

variable (limits) in
theorem update_eq_stored (mutate : RestJob → RestJob)
    (sound : Sound limits runner) (found : runner.jobs.lookup id = some job) :
    runner.update limits id mutate = runner.stored id (mutate job) := by
  have filed : (runner.stored id (mutate job)).Filed :=
    filed_stored sound.filed found
  have short := sound.bounded
  rw [length_entries sound.filed] at short
  rw [update, found]
  apply pruneLocked_eq_self
  rw [← stored, length_entries filed]
  exact short

theorem sound_update {mutate : RestJob → RestJob}
    (sound : Sound limits runner)
    (calm : ∀ job, (mutate job).status.isActive = true →
      runner.jobs.lookup id = some job → job.status.isActive = true) :
    Sound limits (runner.update limits id mutate) := by
  cases found : runner.jobs.lookup id with
  | none =>
      rw [update_of_missing found]
      exact sound
  | some job =>
      have filed : (runner.stored id (mutate job)).Filed :=
        filed_stored sound.filed found
      have stays : ∀ other,
          (runner.stored id (mutate job)).isActive other = true →
            runner.isActive other = true := by
        intro other
        rw [isActive, statusOf_stored]
        split
        · rename_i same
          intro active
          rw [same, isActive, statusOf_of_lookup found]
          exact calm job active found
        · intro active
          exact active
      have fewer : (runner.stored id (mutate job)).activeCount ≤
          runner.activeCount := by
        rw [activeCount_eq filed, activeCount_eq sound.filed]
        exact (List.monotone_filter_right _ stays).length_le
      have active := sound.active
      have bounded := sound.bounded
      rw [update_eq_stored limits mutate sound found]
      refine { filed := filed, active := by omega, bounded := ?_, marked := ?_ }
      · rw [length_entries filed]
        rw [length_entries sound.filed] at bounded
        exact bounded
      · intro other marks
        rw [isActive, statusOf_stored]
        by_cases ended : (mutate job).status.isTerminal = true
        · rw [stored, if_pos ended] at marks
          have parts := List.mem_filter.mp marks
          rw [if_neg (by simpa using parts.2)]
          exact sound.marked other parts.1
        · rw [stored, if_neg ended] at marks
          split
          · simpa [JobStatus.isTerminal] using ended
          · exact sound.marked other marks

variable (limits) in
theorem statusOf_update (mutate : RestJob → RestJob)
    (sound : Sound limits runner) (found : runner.jobs.lookup id = some job)
    (other : String) :
    (runner.update limits id mutate).statusOf other =
      if other = id then some (mutate job).status
      else runner.statusOf other := by
  rw [update_eq_stored limits mutate sound found, statusOf_stored]

theorem marked_update {mutate : RestJob → RestJob}
    (sound : Sound limits runner) {other : String}
    (marks : other ∈ runner.cancelledJobs)
    (active : (runner.update limits id mutate).isActive other = true) :
    other ∈ (runner.update limits id mutate).cancelledJobs := by
  cases found : runner.jobs.lookup id with
  | none =>
      rw [update_of_missing found]
      exact marks
  | some job =>
      rw [isActive, statusOf_update limits mutate sound found] at active
      rw [update_eq_stored limits mutate sound found, stored]
      by_cases ended : (mutate job).status.isTerminal = true
      · rw [if_pos ended]
        refine List.mem_filter.mpr ⟨marks, ?_⟩
        by_cases same : other = id
        · rw [if_pos same, Option.any_some] at active
          rw [JobStatus.isTerminal, active] at ended
          cases ended
        · simpa using same
      · rw [if_neg ended]
        exact marks

/-! ## A job is added -/

/-- The runner with a new job, before it is pruned. -/
def appended (runner : RestJobRunner) (id : String) (job : RestJob) :
    RestJobRunner :=
  { runner with
    jobs := runner.jobs.insert id job
    order := runner.order ++ [id] }

theorem statusOf_appended (other : String) :
    (runner.appended id job).statusOf other =
      if other = id then some job.status else runner.statusOf other := by
  rw [statusOf, appended]
  by_cases same : other = id
  · rw [if_pos same, same, AList.lookup_insert]
    rfl
  · rw [if_neg same, AList.lookup_insert_ne same]
    rfl

theorem filed_appended (filed : runner.Filed) (absent : id ∉ runner.order) :
    (runner.appended id job).Filed where
  nodup := by
    rw [appended, List.nodup_append_comm]
    exact List.nodup_cons.mpr ⟨by simpa using absent, by
      simpa using filed.nodup⟩
  same := by
    intro other
    rw [appended, AList.mem_insert, ← filed.same, List.mem_append,
      List.mem_singleton, or_comm]

theorem start_eq_ok {kind now : String} {started : RestJobRunner}
    (accepted : runner.start limits id kind now = .ok started) :
    (runner.activeCount : Int) <
        max 1 (min limits.activeJobs limits.retainedJobs) ∧
      ∃ job : RestJob, job.status = .queued ∧
        started = (runner.appended id job).pruneLocked limits := by
  rw [start] at accepted
  split at accepted
  · rename_i room
    exact ⟨room, _, rfl, (Except.ok.inj accepted).symm⟩
  · cases accepted

theorem statusOf_start {kind now : String} {started : RestJobRunner}
    (filed : runner.Filed) (absent : id ∉ runner.order)
    (accepted : runner.start limits id kind now = .ok started)
    (other : String) :
    started.statusOf other =
        (if other = id then some .queued else runner.statusOf other) ∨
      started.statusOf other = none ∧
        (if other = id then some .queued
        else runner.statusOf other).any JobStatus.isTerminal = true := by
  obtain ⟨_, job, queued, rfl⟩ := start_eq_ok accepted
  have filedAppended : (runner.appended id job).Filed :=
    filed_appended filed absent
  have gone : Pruned (runner.appended id job)
      ((runner.appended id job).pruneLocked limits) :=
    pruned_pruneLocked filedAppended
  rw [← queued, ← statusOf_appended]
  exact gone.statusOf_eq filedAppended other

theorem marked_start {kind now : String} {started : RestJobRunner}
    {other : String} (filed : runner.Filed) (absent : id ∉ runner.order)
    (accepted : runner.start limits id kind now = .ok started)
    (marks : other ∈ runner.cancelledJobs)
    (active : started.isActive other = true) :
    other ∈ started.cancelledJobs := by
  obtain ⟨_, job, queued, rfl⟩ := start_eq_ok accepted
  have gone : Pruned (runner.appended id job)
      ((runner.appended id job).pruneLocked limits) :=
    pruned_pruneLocked (filed_appended filed absent)
  exact gone.kept other
    (mem_order_of_isActive gone.filed active) marks

theorem activeCount_appended (filed : runner.Filed)
    (absent : id ∉ runner.order) :
    (runner.appended id job).activeCount ≤ runner.activeCount + 1 := by
  have same : runner.order.filter (runner.appended id job).isActive =
      runner.order.filter runner.isActive := by
    apply List.filter_congr
    intro other member
    have different : other ≠ id := by
      rintro rfl
      exact absent member
    rw [isActive, statusOf_appended, if_neg different, isActive]
  rw [activeCount_eq (filed_appended filed absent), activeCount_eq filed]
  have last := List.length_filter_le (runner.appended id job).isActive [id]
  have parts : ((runner.appended id job).order.filter
      (runner.appended id job).isActive).length =
      (runner.order.filter (runner.appended id job).isActive).length +
        ([id].filter (runner.appended id job).isActive).length := by
    rw [← List.length_append, ← List.filter_append]
    rfl
  rw [parts, same]
  simp only [List.length_singleton] at last
  omega

theorem sound_start {kind now : String} {started : RestJobRunner}
    (sound : Sound limits runner) (absent : id ∉ runner.order)
    (accepted : runner.start limits id kind now = .ok started) :
    Sound limits started := by
  obtain ⟨room, job, queued, rfl⟩ := start_eq_ok accepted
  have counted : (runner.appended id job).activeCount ≤ _ :=
    activeCount_appended sound.filed absent
  apply sound_pruneLocked (filed_appended sound.filed absent) (by omega)
  intro other marks
  rw [isActive, statusOf_appended]
  split
  · rw [queued]
    rfl
  · exact sound.marked other marks

theorem sound_cancel (sound : Sound limits runner) (id : String) :
    Sound limits (runner.cancel id).2 := by
  rw [cancel]
  split
  · rename_i active
    exact {
      filed := ⟨sound.filed.nodup, sound.filed.same⟩
      active := sound.active
      bounded := sound.bounded
      marked := by
        intro other marks
        rcases List.mem_insert_iff.mp marks with same | before
        · rw [same]
          exact active
        · exact sound.marked other before }
  · exact sound

theorem statusOf_cancel (id other : String) :
    (runner.cancel id).2.statusOf other = runner.statusOf other := by
  rw [cancel]
  split
  · rfl
  · rfl

/-! ## What becomes of one job -/

/-- The job has a certain status, or it is gone. -/
def Keeps (id : String) (status : JobStatus) (runner : RestJobRunner) :
    Prop :=
  ∀ found, runner.statusOf id = some found → found = status

/-- The job has failed or is gone, or it goes on with a mark. -/
def Fails (id : String) (runner : RestJobRunner) : Prop :=
  ∀ found, runner.statusOf id = some found →
    found = .failed ∨ found.isActive = true ∧ id ∈ runner.cancelledJobs

theorem keeps_start {status : JobStatus} {other kind now : String}
    {started : RestJobRunner} (filed : runner.Filed)
    (absent : other ∉ runner.order) (different : id ≠ other)
    (accepted : runner.start limits other kind now = .ok started)
    (keeps : runner.Keeps id status) : started.Keeps id status := by
  intro found isFound
  have left := statusOf_start filed absent accepted id
  rw [if_neg different, isFound] at left
  rcases left with kept | gone
  · exact keeps found kept.symm
  · cases gone.1

theorem fails_start {other kind now : String} {started : RestJobRunner}
    (filed : runner.Filed) (absent : other ∉ runner.order)
    (different : id ≠ other)
    (accepted : runner.start limits other kind now = .ok started)
    (fails : runner.Fails id) : started.Fails id := by
  intro found isFound
  have left := statusOf_start filed absent accepted id
  rw [if_neg different, isFound] at left
  rcases left with kept | gone
  · rcases fails found kept.symm with failed | ⟨active, marks⟩
    · exact .inl failed
    · refine .inr ⟨active, marked_start filed absent accepted marks ?_⟩
      rw [isActive, isFound, Option.any_some]
      exact active
  · cases gone.1

theorem fails_cancel (fails : runner.Fails id) (other : String) :
    (runner.cancel other).2.Fails id := by
  intro found isFound
  rw [statusOf_cancel] at isFound
  rcases fails found isFound with failed | ⟨active, marks⟩
  · exact .inl failed
  · refine .inr ⟨active, ?_⟩
    rw [cancel]
    split
    · exact List.mem_insert_of_mem marks
    · exact marks

theorem fails_of_cancel (cancelled : (runner.cancel id).1 = true) :
    runner.isActive id = true ∧ (runner.cancel id).2.Fails id := by
  rw [cancel] at cancelled ⊢
  by_cases active : runner.isActive id = true
  · rw [if_pos active]
    refine ⟨active, ?_⟩
    intro found isFound
    have status : runner.statusOf id = some found := isFound
    rw [isActive, status, Option.any_some] at active
    exact .inr ⟨active, List.mem_insert_self⟩
  · rw [if_neg active] at cancelled
    cases cancelled

theorem keeps_update {status : JobStatus} {other : String}
    {mutate : RestJob → RestJob} (sound : Sound limits runner)
    (ended : ∀ job, runner.jobs.lookup other = some job →
      job.status = status → (mutate job).status = status)
    (keeps : runner.Keeps id status) :
    (runner.update limits other mutate).Keeps id status := by
  intro found isFound
  cases held : runner.jobs.lookup other with
  | none =>
      rw [update_of_missing held] at isFound
      exact keeps found isFound
  | some job =>
      rw [statusOf_update limits mutate sound held] at isFound
      by_cases same : id = other
      · rw [if_pos same] at isFound
        have before : job.status = status := by
          apply keeps
          rw [same]
          exact statusOf_of_lookup held
        exact (Option.some.inj isFound).symm.trans (ended job held before)
      · rw [if_neg same] at isFound
        exact keeps found isFound

theorem fails_update {other : String} {mutate : RestJob → RestJob}
    (sound : Sound limits runner)
    (ended : ∀ job, runner.jobs.lookup other = some job →
      job.status = .failed → (mutate job).status = .failed)
    (honest : ∀ job, runner.jobs.lookup other = some job →
      other ∈ runner.cancelledJobs → job.status.isActive = true →
        (mutate job).status ≠ .succeeded)
    (fails : runner.Fails id) :
    (runner.update limits other mutate).Fails id := by
  intro found isFound
  have going : found.isActive = true → id ∈ runner.cancelledJobs →
      found = .failed ∨ found.isActive = true ∧
        id ∈ (runner.update limits other mutate).cancelledJobs := by
    intro active marks
    refine .inr ⟨active, marked_update sound marks ?_⟩
    rw [isActive, isFound, Option.any_some]
    exact active
  cases held : runner.jobs.lookup other with
  | none =>
      rw [update_of_missing held] at isFound ⊢
      exact fails found isFound
  | some job =>
      rw [statusOf_update limits mutate sound held] at isFound
      by_cases same : id = other
      · rw [if_pos same] at isFound
        have status : found = (mutate job).status :=
          (Option.some.inj isFound).symm
        have before := fails job.status
          (by rw [same]; exact statusOf_of_lookup held)
        rcases before with failed | ⟨active, marks⟩
        · exact .inl (status.trans (ended job held failed))
        · have unsuccessful := honest job held (same ▸ marks) active
          rw [← status] at unsuccessful
          cases found with
          | queued => exact going rfl marks
          | running => exact going rfl marks
          | succeeded => exact absurd rfl unsuccessful
          | failed => exact .inl rfl
      · rw [if_neg same] at isFound
        rcases fails found isFound with failed | ⟨active, marks⟩
        · exact .inl failed
        · exact going active marks

end RestJobRunner

/-! ## Statuses of single updates -/

theorem status_logAppended (texts : JobTexts) (lines : List String)
    (now : String) (job : RestJob) :
    (logAppended texts lines now job).status = job.status := by
  rw [logAppended]
  induction lines generalizing job with
  | nil => rfl
  | cons line rest ih =>
      rw [List.foldl_cons]
      refine (ih _).trans ?_
      rw [ingestLogLine]
      split
      · rfl
      · rfl

theorem status_finished (texts : JobTexts) (isCancelled : Bool)
    (outcome : Except String ProcessResult) (now : String) (job : RestJob) :
    (finished texts isCancelled outcome now job).status = .failed ∨
      isCancelled = false ∧
        (finished texts isCancelled outcome now job).status = .succeeded := by
  cases outcome with
  | error failure => exact .inl rfl
  | ok result =>
      unfold finished
      simp only []
      split
      · exact .inl rfl
      · rename_i unmarked
        split
        · exact .inr ⟨by simpa using unmarked, rfl⟩
        · exact .inl rfl

/-! ## Interleavings -/

namespace RestJobSystem

variable {limits : JobLimits} {texts : JobTexts} {system : RestJobSystem}
  {id : String}

/-- Where `run` of a job stands, and the status it has given to the job. -/
def Tracks : Option RunPoint → Option JobStatus → Prop
  | some .dispatched, status => status = some .queued
  | some .streaming, status => status = some .running
  | none, status => status.all JobStatus.isTerminal = true

structure Sound (limits : JobLimits) (system : RestJobSystem) : Prop where
  runner : RestJobRunner.Sound limits system.runner
  issued : ∀ id, id ∉ system.issued →
    system.runner.statusOf id = none ∧ system.runs id = none
  tracked : ∀ id, Tracks (system.runs id) (system.runner.statusOf id)

theorem sound_initial : Sound limits {} where
  runner := {
    filed := ⟨List.nodup_nil, fun id => by
      simp only [List.not_mem_nil, false_iff]
      exact AList.notMem_empty id⟩
    active := by
      show (0 : Int) ≤ _
      omega
    bounded := by
      show (0 : Int) ≤ _
      omega
    marked := by
      intro id marks
      cases marks }
  issued _ _ := ⟨rfl, rfl⟩
  tracked _ := rfl

theorem tracks_of_pruned {point : Option RunPoint}
    {status after : Option JobStatus} (tracks : Tracks point status)
    (left : after = status ∨ after = none ∧
      status.any JobStatus.isTerminal = true) : Tracks point after := by
  rcases left with same | ⟨gone, ended⟩
  · rw [same]
    exact tracks
  · rw [gone]
    rcases point with _ | (_ | _)
    · rfl
    · rw [Tracks] at tracks
      rw [tracks] at ended
      cases ended
    · rw [Tracks] at tracks
      rw [tracks] at ended
      cases ended

/-- What an update of a job may do to its status while `run` moves to
`point`. -/
structure Advances (system : RestJobSystem) (id : String)
    (mutate : RestJob → RestJob) (point : Option RunPoint) : Prop where
  tracks : ∀ job, system.runner.jobs.lookup id = some job →
    Tracks point (some (mutate job).status)
  absent : system.runs id = none → point = none
  ended : ∀ job, system.runner.jobs.lookup id = some job →
    job.status.isTerminal = true → (mutate job).status = job.status
  honest : ∀ job, system.runner.jobs.lookup id = some job →
    id ∈ system.runner.cancelledJobs →
      (mutate job).status = .succeeded → job.status = .succeeded

theorem status_of_tracked {job : RestJob} {point : RunPoint}
    (sound : Sound limits system) (isPoint : system.runs id = some point)
    (found : system.runner.jobs.lookup id = some job) :
    job.status =
      match point with
      | .dispatched => .queued
      | .streaming => .running := by
  have tracked := sound.tracked id
  rw [isPoint, RestJobRunner.statusOf_of_lookup found] at tracked
  cases point with
  | dispatched => exact Option.some.inj tracked
  | streaming => exact Option.some.inj tracked

variable (texts) in
theorem advances_logAppended (sound : Sound limits system) (id : String)
    (lines : List String) (now : String) :
    Advances system id (logAppended texts lines now) (system.runs id) where
  tracks job found := by
    have tracked := sound.tracked id
    rw [RestJobRunner.statusOf_of_lookup found] at tracked
    rw [status_logAppended]
    exact tracked
  absent none := none
  ended job _ _ := status_logAppended ..
  honest job _ _ succeeded := by
    rw [status_logAppended] at succeeded
    exact succeeded

theorem advances_begun (sound : Sound limits system)
    (point : system.runs id = some .dispatched) (now : String) :
    Advances system id (begun now) (some .streaming) where
  tracks job _ := rfl
  absent none := by
    rw [point] at none
    cases none
  ended job found ended := by
    rw [status_of_tracked sound point found] at ended
    cases ended
  honest job _ _ impossible := by cases impossible

variable (texts) in
theorem advances_finished (sound : Sound limits system)
    (point : system.runs id = some .streaming)
    (outcome : Except String ProcessResult) (now : String) :
    Advances system id (finished texts
      (system.runner.cancelledJobs.contains id) outcome now) none where
  tracks job _ := by
    rcases status_finished texts _ outcome now job with
      failed | ⟨_, succeeded⟩
    · rw [failed]
      rfl
    · rw [succeeded]
      rfl
  absent _ := rfl
  ended job found ended := by
    rw [status_of_tracked sound point found] at ended
    cases ended
  honest job _ marks succeeded := by
    rcases status_finished texts _ outcome now job with
      failed | ⟨unmarked, _⟩
    · rw [failed] at succeeded
      cases succeeded
    · rw [List.contains_eq_mem, decide_eq_false_iff_not] at unmarked
      exact absurd marks unmarked

variable (texts) in
theorem perform_cases (sound : Sound limits system) (action : RestJobAction)
    (fresh : system.Fresh action) :
    system.perform limits texts action = system ∨
    (∃ id, system.perform limits texts action =
      { system with issued := id :: system.issued }) ∨
    (∃ id kind now started, id ∉ system.issued ∧
      system.runner.start limits id kind now = .ok started ∧
      system.perform limits texts action =
        { system with issued := id :: system.issued
                      runner := started }.setRun id (some .dispatched)) ∨
    (∃ id, system.perform limits texts action =
      { system with runner := (system.runner.cancel id).2 }) ∨
    ∃ id mutate point, Advances system id mutate point ∧
      system.perform limits texts action =
        { system with
          runner := system.runner.update limits id mutate }.setRun id
            point := by
  cases action with
  | start id kind now =>
      cases accepted : system.runner.start limits id kind now with
      | error failure =>
          refine .inr (.inl ⟨id, ?_⟩)
          simp only [perform, accepted]
      | ok started =>
          refine .inr (.inr (.inl ⟨id, kind, now, started, fresh, accepted,
            ?_⟩))
          simp only [perform, accepted]
  | cancel id => exact .inr (.inr (.inr (.inl ⟨id, rfl⟩)))
  | appendLog id lines now =>
      by_cases blank : lines.filter (· ≠ "") = []
      · left
        simp only [perform, RestJobRunner.appendLog, blank, if_true]
      · refine .inr (.inr (.inr (.inr ⟨id, _, _,
          advances_logAppended texts sound id (lines.filter (· ≠ "")) now,
          ?_⟩)))
        simp only [perform, RestJobRunner.appendLog, blank, if_false,
          setRun, Function.update_eq_self]
  | begin id now =>
      cases point : system.runs id with
      | none =>
          left
          simp only [perform, point]
      | some reached =>
          cases reached with
          | streaming =>
              left
              simp only [perform, point]
          | dispatched =>
              refine .inr (.inr (.inr (.inr ⟨id, _, _,
                advances_begun sound point now, ?_⟩)))
              simp only [perform, point]
  | finish id outcome now =>
      cases point : system.runs id with
      | none =>
          left
          simp only [perform, point]
      | some reached =>
          cases reached with
          | dispatched =>
              left
              simp only [perform, point]
          | streaming =>
              refine .inr (.inr (.inr (.inr ⟨id, _, _,
                advances_finished texts sound point outcome now, ?_⟩)))
              simp only [perform, point]

/-! ## Every step -/

theorem sound_advances {mutate : RestJob → RestJob} {point : Option RunPoint}
    (sound : Sound limits system) (advances : Advances system id mutate point) :
    Sound limits ({ system with
      runner := system.runner.update limits id mutate }.setRun id point) := by
  have tracked : ∀ other, Tracks
      (Function.update system.runs id point other)
      ((system.runner.update limits id mutate).statusOf other) := by
    intro other
    cases found : system.runner.jobs.lookup id with
    | none =>
        rw [RestJobRunner.update_of_missing found]
        by_cases same : other = id
        · have before := sound.tracked id
          have status : system.runner.statusOf id = none := by
            rw [RestJobRunner.statusOf, found]
            rfl
          rw [status] at before
          have idle : system.runs id = none := by
            cases running : system.runs id with
            | none => rfl
            | some reached =>
                rw [running] at before
                cases reached with
                | dispatched => cases before
                | streaming => cases before
          rw [same, Function.update_self, advances.absent idle, status]
          rfl
        · rw [Function.update_of_ne same]
          exact sound.tracked other
    | some job =>
        rw [RestJobRunner.statusOf_update limits mutate sound.runner found]
        by_cases same : other = id
        · rw [if_pos same, same, Function.update_self]
          exact advances.tracks job found
        · rw [if_neg same, Function.update_of_ne same]
          exact sound.tracked other
  refine { runner := ?_, issued := ?_, tracked := tracked }
  · apply RestJobRunner.sound_update sound.runner
    intro job active found
    by_cases ended : job.status.isTerminal = true
    · rw [← advances.ended job found ended]
      exact active
    · simpa [JobStatus.isTerminal] using ended
  · intro other unknown
    have before := sound.issued other unknown
    cases found : system.runner.jobs.lookup id with
    | none =>
        rw [setRun, RestJobRunner.update_of_missing found]
        refine ⟨before.1, ?_⟩
        by_cases same : other = id
        · simp only [same, Function.update_self]
          exact advances.absent (same ▸ before.2)
        · simp only [Function.update_of_ne same]
          exact before.2
    | some job =>
        have different : other ≠ id := by
          rintro rfl
          rw [RestJobRunner.statusOf_of_lookup found] at before
          cases before.1
        simp only [setRun, Function.update_of_ne different]
        refine ⟨?_, before.2⟩
        rw [RestJobRunner.statusOf_update limits mutate sound.runner found,
          if_neg different]
        exact before.1

theorem sound_issue (sound : Sound limits system) (id : String) :
    Sound limits { system with issued := id :: system.issued } where
  runner := sound.runner
  issued other unknown :=
    sound.issued other fun known => unknown (List.mem_cons_of_mem id known)
  tracked := sound.tracked

theorem sound_started {kind now : String} {started : RestJobRunner}
    (sound : Sound limits system) (fresh : id ∉ system.issued)
    (accepted : system.runner.start limits id kind now = .ok started) :
    Sound limits ({ system with
      issued := id :: system.issued
      runner := started }.setRun id (some .dispatched)) := by
  have missing := (sound.issued id fresh).1
  have absent : id ∉ system.runner.order :=
    (RestJobRunner.statusOf_eq_none_iff sound.runner.filed).mp missing
  have left := RestJobRunner.statusOf_start sound.runner.filed absent accepted
  refine {
    runner := RestJobRunner.sound_start sound.runner absent accepted
    issued := ?_
    tracked := ?_ }
  · intro other unknown
    have parts : other ≠ id ∧ other ∉ system.issued := by
      simpa [setRun] using unknown
    have before := sound.issued other parts.2
    have status := left other
    rw [if_neg parts.1, before.1] at status
    refine ⟨?_, ?_⟩
    · rcases status with same | gone
      · exact same
      · exact gone.1
    · exact (Function.update_of_ne parts.1 _ _).trans before.2
  · intro other
    refine tracks_of_pruned ?_ (left other)
    simp only [setRun]
    by_cases same : other = id
    · rw [if_pos same, same, Function.update_self]
      rfl
    · rw [if_neg same, Function.update_of_ne same]
      exact sound.tracked other

theorem sound_cancel (sound : Sound limits system) (id : String) :
    Sound limits { system with runner := (system.runner.cancel id).2 } where
  runner := RestJobRunner.sound_cancel sound.runner id
  issued other unknown := by
    simp only [RestJobRunner.statusOf_cancel]
    exact sound.issued other unknown
  tracked other := by
    simp only [RestJobRunner.statusOf_cancel]
    exact sound.tracked other

theorem sound_perform (sound : Sound limits system) (action : RestJobAction)
    (fresh : system.Fresh action) :
    Sound limits (system.perform limits texts action) := by
  rcases perform_cases texts sound action fresh with
    same | ⟨id, same⟩ | ⟨id, kind, now, started, unused, accepted, same⟩ |
    ⟨id, same⟩ | ⟨id, mutate, point, advances, same⟩
  · rw [same]
    exact sound
  · rw [same]
    exact sound_issue sound id
  · rw [same]
    exact sound_started sound unused accepted
  · rw [same]
    exact sound_cancel sound id
  · rw [same]
    exact sound_advances sound advances

/-! ## What becomes of one job -/

theorem ne_of_issued {other : String} (issued : id ∈ system.issued)
    (unused : other ∉ system.issued) : id ≠ other := by
  rintro rfl
  exact unused issued

theorem absent_of_unused (sound : Sound limits system)
    (unused : id ∉ system.issued) : id ∉ system.runner.order :=
  (RestJobRunner.statusOf_eq_none_iff sound.runner.filed).mp
    (sound.issued id unused).1

theorem issued_perform (issued : id ∈ system.issued)
    (sound : Sound limits system) (action : RestJobAction)
    (fresh : system.Fresh action) :
    id ∈ (system.perform limits texts action).issued := by
  rcases perform_cases texts sound action fresh with
    same | ⟨other, same⟩ | ⟨other, _, _, _, _, _, same⟩ | ⟨_, same⟩ |
    ⟨_, _, _, _, same⟩
  · rw [same]
    exact issued
  · rw [same]
    exact List.mem_cons_of_mem other issued
  · rw [same]
    exact List.mem_cons_of_mem other issued
  · rw [same]
    exact issued
  · rw [same]
    exact issued

theorem keeps_perform {status : JobStatus}
    (ended : status.isTerminal = true) (sound : Sound limits system)
    (issued : id ∈ system.issued) (keeps : system.runner.Keeps id status)
    (action : RestJobAction) (fresh : system.Fresh action) :
    (system.perform limits texts action).runner.Keeps id status := by
  rcases perform_cases texts sound action fresh with
    same | ⟨other, same⟩ | ⟨other, _, _, _, unused, accepted, same⟩ |
    ⟨other, same⟩ | ⟨other, mutate, _, advances, same⟩
  · rw [same]
    exact keeps
  · rw [same]
    exact keeps
  · rw [same]
    exact RestJobRunner.keeps_start sound.runner.filed
      (absent_of_unused sound unused) (ne_of_issued issued unused) accepted
      keeps
  · rw [same]
    intro found isFound
    rw [RestJobRunner.statusOf_cancel] at isFound
    exact keeps found isFound
  · rw [same]
    refine RestJobRunner.keeps_update sound.runner ?_ keeps
    intro job held isStatus
    rw [← isStatus] at ended
    rw [advances.ended job held ended, isStatus]

theorem fails_perform (sound : Sound limits system)
    (issued : id ∈ system.issued) (fails : system.runner.Fails id)
    (action : RestJobAction) (fresh : system.Fresh action) :
    (system.perform limits texts action).runner.Fails id := by
  rcases perform_cases texts sound action fresh with
    same | ⟨other, same⟩ | ⟨other, _, _, _, unused, accepted, same⟩ |
    ⟨other, same⟩ | ⟨other, mutate, _, advances, same⟩
  · rw [same]
    exact fails
  · rw [same]
    exact fails
  · rw [same]
    exact RestJobRunner.fails_start sound.runner.filed
      (absent_of_unused sound unused) (ne_of_issued issued unused) accepted
      fails
  · rw [same]
    exact RestJobRunner.fails_cancel fails other
  · rw [same]
    refine RestJobRunner.fails_update sound.runner ?_ ?_ fails
    · intro job held failed
      rw [advances.ended job held (by rw [failed]; rfl), failed]
    · intro job held marks active succeeded
      rw [advances.honest job held marks succeeded] at active
      cases active

theorem statusOf_perform_ne_none (sound : Sound limits system)
    (active : system.runner.isActive id = true) (action : RestJobAction)
    (fresh : system.Fresh action) :
    (system.perform limits texts action).runner.statusOf id ≠ none := by
  have known : system.runner.statusOf id ≠ none := by
    intro missing
    rw [RestJobRunner.isActive, missing] at active
    cases active
  rcases perform_cases texts sound action fresh with
    same | ⟨other, same⟩ | ⟨other, _, _, _, unused, accepted, same⟩ |
    ⟨other, same⟩ | ⟨other, mutate, _, advances, same⟩
  · rw [same]
    exact known
  · rw [same]
    exact known
  · rw [same]
    have different : id ≠ other := by
      rintro rfl
      exact known (sound.issued id unused).1
    have left := RestJobRunner.statusOf_start sound.runner.filed
      (absent_of_unused sound unused) accepted id
    rw [if_neg different] at left
    rcases left with kept | gone
    · exact fun missing => known (kept.symm.trans missing)
    · have calm := RestJobRunner.not_isTerminal_of_isActive active
      rw [RestJobRunner.isTerminal, gone.2] at calm
      cases calm
  · rw [same]
    simp only [RestJobRunner.statusOf_cancel]
    exact known
  · rw [same]
    simp only [setRun]
    cases held : system.runner.jobs.lookup other with
    | none =>
        rw [RestJobRunner.update_of_missing held]
        exact known
    | some job =>
        rw [RestJobRunner.statusOf_update limits mutate sound.runner held]
        split
        · exact Option.some_ne_none _
        · exact known

/-! ## Whole runs -/

abbrev JobRuns (limits : JobLimits) (texts : JobTexts) :
    RestJobSystem → RestJobSystem → Prop :=
  Transitions.Runs (Transitions.guarded Fresh
    (Transitions.ofFunction (perform limits texts)))

theorem sound_of_runs {source target : RestJobSystem}
    (sound : Sound limits source) (run : JobRuns limits texts source target) :
    Sound limits target := by
  refine Transitions.invariant_of_runs (Sound limits) ?_ sound run
  rintro before action _ isSound ⟨fresh, rfl⟩
  exact sound_perform isSound action fresh

theorem keeps_of_runs {source target : RestJobSystem} {status : JobStatus}
    (ended : status.isTerminal = true) (sound : Sound limits source)
    (issued : id ∈ source.issued) (keeps : source.runner.Keeps id status)
    (run : JobRuns limits texts source target) :
    target.runner.Keeps id status := by
  have always := Transitions.invariant_of_runs
    (fun system => Sound limits system ∧ id ∈ system.issued ∧
      system.runner.Keeps id status) ?_ ⟨sound, issued, keeps⟩ run
  · exact always.2.2
  · rintro before action _ ⟨isSound, isIssued, keepsNow⟩ ⟨fresh, rfl⟩
    exact ⟨sound_perform isSound action fresh,
      issued_perform isIssued isSound action fresh,
      keeps_perform ended isSound isIssued keepsNow action fresh⟩

theorem fails_of_runs {source target : RestJobSystem}
    (sound : Sound limits source) (issued : id ∈ source.issued)
    (fails : source.runner.Fails id)
    (run : JobRuns limits texts source target) : target.runner.Fails id := by
  have always := Transitions.invariant_of_runs
    (fun system => Sound limits system ∧ id ∈ system.issued ∧
      system.runner.Fails id) ?_ ⟨sound, issued, fails⟩ run
  · exact always.2.2
  · rintro before action _ ⟨isSound, isIssued, failsNow⟩ ⟨fresh, rfl⟩
    exact ⟨sound_perform isSound action fresh,
      issued_perform isIssued isSound action fresh,
      fails_perform isSound isIssued failsNow action fresh⟩

theorem issued_of_statusOf {status : JobStatus} (sound : Sound limits system)
    (isStatus : system.runner.statusOf id = some status) :
    id ∈ system.issued := by
  by_contra unused
  rw [(sound.issued id unused).1] at isStatus
  cases isStatus

/-- The bookkeeping after any interleaving, what no step does to a job that
goes on, and how the jobs end that have ended or were cancelled. -/
theorem bookkeeping_of_runs (limits : JobLimits) (texts : JobTexts)
    {reached : RestJobSystem} (run : JobRuns limits texts {} reached) :
    RestJobRunner.Sound limits reached.runner ∧
    (∀ id action, reached.Fresh action →
      reached.runner.isActive id = true →
      (reached.perform limits texts action).runner.statusOf id ≠ none) ∧
    (∀ id status, reached.runner.statusOf id = some status →
      status.isTerminal = true →
      ∀ later, JobRuns limits texts reached later →
        ∀ found, later.runner.statusOf id = some found → found = status) ∧
    ∀ id, (reached.runner.cancel id).1 = true →
      ∀ later, JobRuns limits texts
          (reached.perform limits texts (.cancel id)) later →
        ∀ found, later.runner.statusOf id = some found →
          found.isTerminal = true → found = .failed := by
  have sound : Sound limits reached := sound_of_runs sound_initial run
  refine ⟨sound.runner, ?_, ?_, ?_⟩
  · intro id action fresh active
    exact statusOf_perform_ne_none sound active action fresh
  · intro id status isStatus ended later continued
    refine keeps_of_runs ended sound (issued_of_statusOf sound isStatus) ?_
      continued
    intro found isFound
    rw [isStatus] at isFound
    exact (Option.some.inj isFound).symm
  · intro id cancelled later continued found isFound ended
    obtain ⟨active, fails⟩ := RestJobRunner.fails_of_cancel cancelled
    have known : id ∈ reached.issued := by
      cases status : reached.runner.statusOf id with
      | none =>
          rw [RestJobRunner.isActive, status] at active
          cases active
      | some held => exact issued_of_statusOf sound status
    have later := fails_of_runs (sound_cancel sound id) known fails continued
    rcases later found isFound with failed | ⟨going, _⟩
    · exact failed
    · rw [JobStatus.isTerminal, going] at ended
      cases ended

/-! ## A cancelled job -/

def plainTexts : JobTexts where
  decoder := .latin
  trimmed text := text
  decode _ := none
  braced _ := none
  percentMatch _ := none
  progressLabel line := line

/-- A job that is cancelled while its process runs. -/
def cancelledRun : List RestJobAction :=
  [.start "a" "apply" "", .begin "a" "", .appendLog "a" ["pulling"] "",
    .cancel "a", .finish "a" (.ok ⟨0, "{}", ""⟩) ""]

theorem cancelledRun_bookkeeping :
    RestJobRunner.Sound {} (cancelledRun.foldl (perform {} plainTexts)
      {}).runner := by
  refine (bookkeeping_of_runs {} plainTexts
    (Transitions.Runs.guarded_foldl ?_)).1
  exact ⟨List.not_mem_nil, trivial, trivial, trivial, trivial, trivial⟩

example : (cancelledRun.foldl (perform {} plainTexts) {}).runner.statusOf
    "a" = some .failed := by
  decide

end RestJobSystem

end Vzctl
