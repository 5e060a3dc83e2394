import Vzctl.Reconciler.Run

/-!
# Resumed runs skip nothing

What a journal row and a process know about the trace of their row is an
invariant of every run whose resumes meet `ResumesInList`.
-/

namespace Vzctl

open Transitions Checkpoint StateDatabase

/-! ## What a row and a process know -/

/-- The trace of a row is in order, the checkpointed step of an incomplete row
is reached, and a finished row has executed its whole list. -/
structure RowSound (trace : List (Execution String))
    (record : JournalRecord) : Prop where
  ordered : InOrder (journalSteps record) trace
  resumable : record.isIncomplete = true →
    record.step = "validate" ∨
      record.step ∈ journalSteps record ∧
        Reached (journalSteps record) trace record.step
  finished : record.status = "done" →
    ∀ step ∈ journalSteps record, .completed step ∈ trace

/-- The process works on a row whose recorded mode has its step list. -/
def OnRow (rows : List JournalRecord) (journalID : String)
    (mode : Mode) : Prop :=
  ∃ record ∈ rows, record.id = journalID ∧
    journalSteps record = stepsOf mode

def ProcessSound (rows : List JournalRecord)
    (executions : String → List (Execution String))
    (process : RunProcess) : Prop :=
  match process.phase with
  | .inspected =>
      process.options.resume = false →
        process.effectiveMode = process.options.mode
  | .looping journalID remaining =>
      OnRow rows journalID process.effectiveMode ∧
        Remaining (stepsOf process.effectiveMode) (executions journalID)
          remaining
  | .executing journalID step rest =>
      OnRow rows journalID process.effectiveMode ∧
        Remaining (stepsOf process.effectiveMode) (executions journalID)
          (step :: rest)
  | .failing journalID step =>
      OnRow rows journalID process.effectiveMode ∧
        step ∈ stepsOf process.effectiveMode ∧
        Reached (stepsOf process.effectiveMode) (executions journalID) step
  | .executed journalID step rest =>
      OnRow rows journalID process.effectiveMode ∧
        Remaining (stepsOf process.effectiveMode) (executions journalID)
          (step :: rest) ∧
        .completed step ∈ executions journalID

structure RunSound (system : RunSystem) : Prop where
  rows : ∀ record ∈ system.database.journal.rows,
    RowSound (system.executions record.id) record
  unused : ∀ journalID,
    (∀ record ∈ system.database.journal.rows, record.id ≠ journalID) →
      system.executions journalID = []
  processes : ∀ holder process,
    system.processes holder = some process →
      ProcessSound system.database.journal.rows system.executions process

/-! ## Steps lists and rows -/

theorem journalSteps_of_payload {left right : JournalRecord}
    (same : left.payload = right.payload) :
    journalSteps left = journalSteps right := by
  unfold journalSteps JournalRecord.operationMode JournalRecord.payloadValue
  rw [same]

theorem journalSteps_opened (id stackID : String) (generation : Nat)
    (desiredHash : String) (mode : Mode) (purge : Bool) (now : String) :
    journalSteps (.opened id stackID generation
      (beginPayload desiredHash mode.command purge) now) = stepsOf mode := by
  cases mode <;> rfl

theorem reached_validate (trace : List (Execution String)) :
    Reached applySteps trace "validate" :=
  (remaining_all applySteps trace).reached (by decide)

namespace RowSound

variable {trace : List (Execution String)} {record : JournalRecord}

theorem opened (id stackID : String) (generation : Nat)
    (payload : JSONValue) (now : String) :
    RowSound [] (.opened id stackID generation payload now) where
  ordered := inOrder_nil _
  resumable _ := Or.inl rfl
  finished isDone := absurd isDone (by simp [JournalRecord.opened])

theorem rewrite (sound : RowSound trace record) {step status : String}
    (error : Option String) (updatedAt : String)
    (reached : (step = record.step ∧ record.isIncomplete = true) ∨
      step ∈ journalSteps record ∧
        Reached (journalSteps record) trace step)
    (notDone : status ≠ "done") :
    RowSound trace (record.rewrite step status error updatedAt) where
  ordered := sound.ordered
  resumable _ := by
    rcases reached with ⟨rfl, isIncomplete⟩ | reached
    · exact sound.resumable isIncomplete
    · exact Or.inr reached
  finished isDone := absurd isDone notDone

theorem done (sound : RowSound trace record) (error : Option String)
    (updatedAt : String)
    (completed : ∀ step ∈ journalSteps record, .completed step ∈ trace) :
    RowSound trace (record.rewrite "done" "done" error updatedAt) where
  ordered := sound.ordered
  resumable isIncomplete := absurd isIncomplete (by
    simp [JournalRecord.isIncomplete])
  finished _ := completed

theorem aborted (sound : RowSound trace record) (step : String)
    (error : Option String) (updatedAt : String) :
    RowSound trace (record.rewrite step "aborted" error updatedAt) where
  ordered := sound.ordered
  resumable isIncomplete := absurd isIncomplete (by
    simp [JournalRecord.isIncomplete])
  finished isDone := absurd isDone (by simp)

theorem append (sound : RowSound trace record)
    {execution : Execution String}
    (reached : Reached (journalSteps record) trace execution.step) :
    RowSound (trace ++ [execution]) record where
  ordered := sound.ordered.snoc reached
  resumable isIncomplete := by
    rcases sound.resumable isIncomplete with isFresh | ⟨member, old⟩
    · exact Or.inl isFresh
    · exact Or.inr ⟨member, old.mono (List.subset_append_left _ _)⟩
  finished isDone step member :=
    List.mem_append_left _ (sound.finished isDone step member)

end RowSound

/-! ## Frames -/

theorem OnRow.mono {earlier later : List JournalRecord}
    (extended : JournalExtends earlier later)
    {journalID : String} {mode : Mode}
    (onRow : OnRow earlier journalID mode) :
    OnRow later journalID mode := by
  obtain ⟨record, member, sameID, sameSteps⟩ := onRow
  have kept : record.identity ∈ later.map JournalRecord.identity :=
    extended.identities.subset (List.mem_map_of_mem member)
  obtain ⟨current, currentMember, sameIdentity⟩ := List.mem_map.mp kept
  simp only [JournalRecord.identity, Prod.mk.injEq] at sameIdentity
  exact ⟨current, currentMember, sameIdentity.1.trans sameID,
    (journalSteps_of_payload sameIdentity.2.2.2).trans sameSteps⟩

theorem ProcessSound.mono {earlier later : List JournalRecord}
    {before after : String → List (Execution String)}
    {process : RunProcess}
    (extended : JournalExtends earlier later)
    (grown : ∀ journalID, before journalID ⊆ after journalID)
    (sound : ProcessSound earlier before process) :
    ProcessSound later after process := by
  unfold ProcessSound at sound ⊢
  cases phase : process.phase with
  | inspected => simpa only [phase] using sound
  | looping journalID remaining =>
      simp only [phase] at sound ⊢
      exact ⟨sound.1.mono extended, sound.2.mono (grown journalID)⟩
  | executing journalID step rest =>
      simp only [phase] at sound ⊢
      exact ⟨sound.1.mono extended, sound.2.mono (grown journalID)⟩
  | failing journalID step =>
      simp only [phase] at sound ⊢
      exact ⟨sound.1.mono extended, sound.2.1,
        sound.2.2.mono (grown journalID)⟩
  | executed journalID step rest =>
      simp only [phase] at sound ⊢
      exact ⟨sound.1.mono extended, sound.2.1.mono (grown journalID),
        grown journalID sound.2.2⟩

namespace RunSound

variable {system : RunSystem}

theorem setDatabase {database : StateDatabase} (sound : RunSound system)
    (extended : JournalExtends system.database.journal.rows
      database.journal.rows)
    (rows : ∀ record ∈ database.journal.rows,
      RowSound (system.executions record.id) record) :
    RunSound (system.setDatabase database) where
  rows := rows
  unused journalID absent := by
    apply sound.unused journalID
    intro record member
    have kept : record.identity ∈
        database.journal.rows.map JournalRecord.identity :=
      extended.identities.subset (List.mem_map_of_mem member)
    obtain ⟨current, currentMember, sameIdentity⟩ := List.mem_map.mp kept
    simp only [JournalRecord.identity, Prod.mk.injEq] at sameIdentity
    exact sameIdentity.1 ▸ absent current currentMember
  processes holder process running :=
    (sound.processes holder process running).mono extended
      fun _ => List.Subset.refl _

theorem setProcess (sound : RunSound system) (holder : String)
    {process : Option RunProcess}
    (processSound : ∀ running, process = some running →
      ProcessSound system.database.journal.rows system.executions running) :
    RunSound (system.setProcess holder process) where
  rows := sound.rows
  unused := sound.unused
  processes other running found := by
    by_cases same : other = holder
    · subst same
      simp only [RunSystem.setProcess, Function.update_self] at found
      exact processSound running found
    · simp only [RunSystem.setProcess, Function.update_of_ne same] at found
      exact sound.processes other running found

theorem stop (sound : RunSound system) (holder : String) :
    RunSound (system.setProcess holder none) :=
  sound.setProcess holder fun _ impossible => absurd impossible (by simp)

theorem appendExecution (sound : RunSound system) {journalID : String}
    {mode : Mode} {execution : Execution String}
    (onRow : OnRow system.database.journal.rows journalID mode)
    (reached : Reached (stepsOf mode) (system.executions journalID)
      execution.step) :
    RunSound (system.appendExecution journalID execution) := by
  obtain ⟨owner, ownerMember, rfl, sameSteps⟩ := onRow
  have grown : ∀ other, system.executions other ⊆
      (system.appendExecution owner.id execution).executions other := by
    intro other
    by_cases same : other = owner.id
    · subst same
      simp only [RunSystem.appendExecution, Function.update_self]
      exact List.subset_append_left _ _
    · simp only [RunSystem.appendExecution, Function.update_of_ne same]
      exact List.Subset.refl _
  constructor
  · intro record member
    by_cases same : record.id = owner.id
    · have sameRecord : record = owner :=
        system.database.journal_id_unique member ownerMember same
      subst sameRecord
      simp only [RunSystem.appendExecution, Function.update_self]
      exact (sound.rows record member).append (sameSteps ▸ reached)
    · simp only [RunSystem.appendExecution, Function.update_of_ne same]
      exact sound.rows record member
  · intro other absent
    have different : other ≠ owner.id := by
      rintro rfl
      exact absent owner ownerMember rfl
    simp only [RunSystem.appendExecution, Function.update_of_ne different]
    exact sound.unused other absent
  · intro holder process running
    exact (sound.processes holder process running).mono (.refl _) grown

/-! ## Calls -/

theorem rows_of_rewrite {database after : StateDatabase}
    {executions : String → List (Execution String)}
    (sound : ∀ record ∈ database.journal.rows,
      RowSound (executions record.id) record)
    {current : JournalRecord} {step status : String} {error : Option String}
    {updatedAt : String}
    (member : current ∈ database.journal.rows)
    (rows : after.journal.rows = database.journal.rows.map fun record =>
      if decide (record.id = current.id) then
        record.rewrite step status error updatedAt
      else record)
    (changed : RowSound (executions current.id)
      (current.rewrite step status error updatedAt)) :
    ∀ record ∈ after.journal.rows,
      RowSound (executions record.id) record := by
  intro record recordMember
  rw [rows] at recordMember
  obtain ⟨old, oldMember, rfl⟩ := List.mem_map.mp recordMember
  by_cases sameID : old.id = current.id
  · have same : old = current :=
      database.journal_id_unique oldMember member sameID
    subst same
    simpa using changed
  · simpa [sameID] using sound old oldMember

theorem heartbeat (sound : RunSound system) (env : CallEnv)
    (journalID stackID holder : String) :
    RunSound (system.setDatabase
      (system.database.heartbeatApply env journalID stackID holder).2) := by
  rcases performed : system.database.heartbeatApply env journalID stackID
    holder with ⟨outcome, after⟩
  refine sound.setDatabase
    (heartbeatApply_change performed).1.extends_journal ?_
  rcases heartbeatApply_cases performed with
    ⟨_, rfl⟩ | ⟨_, _, renewing⟩
  · exact sound.rows
  · rw [upsertLease_journal renewing]
    exact sound.rows

theorem journalSteps_of_onRow {journalID : String} {mode : Mode}
    {current : JournalRecord}
    (onRow : OnRow system.database.journal.rows journalID mode)
    (member : current ∈ system.database.journal.rows)
    (sameID : current.id = journalID) :
    journalSteps current = stepsOf mode := by
  obtain ⟨record, recordMember, recordID, sameSteps⟩ := onRow
  have same : current = record :=
    system.database.journal_id_unique member recordMember
      (sameID.trans recordID.symm)
  exact same ▸ sameSteps

theorem advance (sound : RunSound system) {env : CallEnv}
    {journalID stackID holder step status : String} {error : Option String}
    {mode : Mode} {after : StateDatabase}
    {outcome : Except ReconcileDatabaseError JournalRecord}
    (performed : system.database.advanceApply env journalID stackID holder
      step status error = (outcome, after))
    (onRow : OnRow system.database.journal.rows journalID mode)
    (inList : step ∈ stepsOf mode)
    (reached : Reached (stepsOf mode) (system.executions journalID) step)
    (notDone : status ≠ "done") :
    RunSound (system.setDatabase after) := by
  refine sound.setDatabase
    (advanceApply_change performed).1.extends_journal ?_
  rcases advanceApply_cases performed with
    ⟨_, rfl⟩ | ⟨required, renewed, renewing, ⟨_, rfl⟩ | ⟨rewriting, _⟩⟩
  · exact sound.rows
  · rw [upsertLease_journal renewing]
    exact sound.rows
  · obtain ⟨⟨current, found, rfl⟩, _⟩ :=
      requireApplyLease_eq_ok_iff.mp required
    obtain ⟨member, _, _⟩ := incompleteJournal_some found
    have rows := updateJournal_rows rewriting
    rw [upsertLease_journal renewing] at rows
    have sameSteps := journalSteps_of_onRow onRow member rfl
    refine rows_of_rewrite sound.rows member rows ?_
    refine (sound.rows current member).rewrite error env.timestamp
      (Or.inr ?_) notDone
    exact ⟨sameSteps ▸ inList, sameSteps ▸ reached⟩

theorem finish (sound : RunSound system) {env : CallEnv}
    {journalID stackID holder : String}
    {resources : Option (List StackResourceRecord)} {mode : Mode}
    (onRow : OnRow system.database.journal.rows journalID mode)
    (nothingLeft :
      Remaining (stepsOf mode) (system.executions journalID) []) :
    RunSound (system.setDatabase
      (system.database.finishApply env journalID stackID holder
        resources).2) := by
  rcases performed : system.database.finishApply env journalID stackID holder
    resources with ⟨outcome, after⟩
  refine sound.setDatabase
    (finishApply_change performed).1.extends_journal ?_
  cases outcome with
  | error failure =>
      cases finishApply_error performed
      exact sound.rows
  | ok result =>
      obtain ⟨required, committed, cleared, recorded, done, _, clearing,
        recording, rewriting, releasing⟩ := finishApply_cases performed
      obtain ⟨⟨current, found, rfl⟩, _⟩ :=
        requireApplyLease_eq_ok_iff.mp required
      obtain ⟨member, _, _⟩ := incompleteJournal_some found
      have rows := updateJournal_rows rewriting
      have sameJournal : recorded.journal = system.database.journal := by
        obtain ⟨_, rfl, _⟩ := insertResources_cases recording
        cases deleteResources_cases clearing
        rfl
      rw [sameJournal] at rows
      have sameSteps := journalSteps_of_onRow onRow member rfl
      have doneSound := rows_of_rewrite sound.rows member rows
        ((sound.rows current member).done none env.timestamp
          fun step inList =>
            nothingLeft.completed_of_nil (sameSteps ▸ inList))
      cases deleteLease_cases releasing
      exact doneSound

theorem abort (sound : RunSound system) (env : CallEnv)
    (stackID holder : String) :
    RunSound (system.setDatabase
      (system.database.abortApply env stackID holder).2) := by
  rcases performed : system.database.abortApply env stackID holder with
    ⟨outcome, after⟩
  refine sound.setDatabase
    (abortApply_change performed).1.extends_journal ?_
  rcases abortApply_cases performed with
    ⟨_, rfl⟩ | ⟨current, aborted, found, _, rewriting, ending⟩
  · exact sound.rows
  · obtain ⟨member, _, _⟩ := incompleteJournal_some found
    have abortedSound := rows_of_rewrite sound.rows member
      (updateJournal_rows rewriting)
      ((sound.rows current member).aborted current.step none env.timestamp)
    rcases ending with ⟨_, rfl⟩ | ⟨releasing, _⟩
    · exact abortedSound
    · cases deleteLease_cases releasing
      exact abortedSound

end RunSound

/-! ## Beginning -/

/-- A begin that resumes and that no foreign lease refuses works on a row of
the inspected step list, and for `down` not before the first checkpoint of
the row. -/
def ResumesInList (system : RunSystem) : RunEvent → Prop
  | .begin holder env =>
      ∀ process, system.processes holder = some process →
        process.phase = .inspected → process.options.resume = true →
          ¬ system.database.HeldByOther env process.options.stackID holder →
            match system.database.incompleteJournal
                process.options.stackID with
            | none => process.effectiveMode ≠ .down
            | some current =>
                current.desiredHash = some process.options.desiredHash →
                  journalSteps current = stepsOf process.effectiveMode ∧
                    (process.effectiveMode = .down →
                      current.step ≠ "validate")
  | _ => True

theorem mem_of_journalForced {database : StateDatabase} {id : String}
    {record : JournalRecord}
    (reading : database.journalForced id = .ok record) :
    record ∈ database.journal.rows ∧ record.id = id := by
  unfold journalForced at reading
  split at reading
  · rename_i other found
    cases reading
    exact (UniqueKey.find?_eq_some_iff database.journal.valid.1).mp found
  · cases reading

theorem ne_id_of_append {database : StateDatabase} {record : JournalRecord}
    {rows : List JournalRecord}
    (appended : database.journal.rows = rows ++ [record]) :
    ∀ other ∈ rows, other.id ≠ record.id := by
  have nodup : (database.journal.rows.map JournalRecord.id).Nodup :=
    database.journal.valid.1
  rw [appended, List.map_append] at nodup
  intro other member
  exact (List.nodup_append.mp nodup).2.2 other.id
    (List.mem_map_of_mem member) record.id List.mem_cons_self

section Begin

variable {system : RunSystem} {env : CallEnv}
  {stackID holder desiredHash : String} {payload : JSONValue}
  {resume : Bool} {record : JournalRecord} {after : StateDatabase}

/-- The row a successful begin returns: the incomplete row, reopened, or a
new row whose trace is empty. -/
theorem RunSound.begin_row (sound : RunSound system)
    (performed : system.database.beginApply env stackID holder desiredHash
      payload resume = (.ok record, after)) :
    RunSound (system.setDatabase after) ∧
      record ∈ after.journal.rows ∧
      ((∃ current,
          system.database.incompleteJournal stackID = some current ∧
          resume = true ∧ current.desiredHash = some desiredHash ∧
          record = current.rewrite current.step "running" none
            env.timestamp) ∨
        (∃ generation, system.database.incompleteJournal stackID = none ∧
          record = .opened env.uuid stackID generation payload
            env.timestamp ∧
          system.executions record.id = [])) := by
  have extended := (beginApply_change performed).1.extends_journal
  obtain ⟨_, leased, leasing, reopening | opening⟩ :=
    beginApply_cases performed
  · obtain ⟨current, found, resuming, sameHash, rewriting, reading⟩ :=
      reopening
    obtain ⟨member, _, isIncomplete⟩ := incompleteJournal_some found
    have leasedMember : current ∈ leased.journal.rows :=
      upsertLease_journal leasing ▸ member
    have rows := updateJournal_rows rewriting
    rw [upsertLease_journal leasing] at rows
    have afterSound := sound.setDatabase extended <|
      RunSound.rows_of_rewrite sound.rows member rows <|
        (sound.rows current member).rewrite none env.timestamp
          (Or.inl ⟨rfl, isIncomplete⟩) (by decide)
    have sameRecord := journalForced_succeeds
      (mem_of_updateJournal leasedMember rewriting)
    rw [JournalRecord.rewrite_id, reading] at sameRecord
    cases sameRecord
    exact ⟨afterSound, (mem_of_journalForced reading).1,
      Or.inl ⟨current, found, resuming, sameHash, rfl⟩⟩
  · obtain ⟨missing, inserting, reading⟩ := opening
    have rows := insertJournal_rows inserting
    rw [upsertLease_journal leasing] at rows
    have unused : system.executions env.uuid = [] :=
      sound.unused env.uuid (ne_id_of_append rows)
    have newMember : JournalRecord.opened env.uuid stackID
        (leased.nextGeneration stackID) payload env.timestamp ∈
          after.journal.rows := by
      rw [rows]
      exact List.mem_append_right _ List.mem_cons_self
    have afterSound := sound.setDatabase extended (by
      intro other otherMember
      rw [rows] at otherMember
      rcases List.mem_append.mp otherMember with oldMember | isNew
      · exact sound.rows other oldMember
      · cases List.mem_singleton.mp isNew
        exact unused ▸ RowSound.opened _ _ _ _ _)
    have sameRecord := journalForced_succeeds newMember
    rw [show (JournalRecord.opened env.uuid stackID
      (leased.nextGeneration stackID) payload env.timestamp).id = env.uuid
        from rfl, reading] at sameRecord
    cases sameRecord
    exact ⟨afterSound, newMember, Or.inr ⟨_, missing, rfl, unused⟩⟩

end Begin

theorem RunSound.resumed_step {system : RunSystem} (sound : RunSound system)
    {current : JournalRecord} {mode : Mode}
    (member : current ∈ system.database.journal.rows)
    (isIncomplete : current.isIncomplete = true)
    (sameSteps : journalSteps current = stepsOf mode)
    (checkpointed : mode = .down → current.step ≠ "validate") :
    current.step ∈ stepsOf mode ∧
      Reached (stepsOf mode) (system.executions current.id)
        current.step := by
  rcases (sound.rows current member).resumable isIncomplete with
    isFresh | reached
  · have notDown : mode ≠ .down := fun isDown =>
      checkpointed isDown isFresh
    have steps : stepsOf mode = applySteps := by
      simp [stepsOf, notDown]
    rw [steps, isFresh]
    exact ⟨by decide, reached_validate _⟩
  · exact sameSteps ▸ reached

theorem RunSound.begin {system : RunSystem} (sound : RunSound system)
    {holder : String} {env : CallEnv} {process : RunProcess}
    (running : system.processes holder = some process)
    (isInspected : process.phase = .inspected)
    (allowed : ResumesInList system (.begin holder env)) :
    RunSound (system.begin holder env process) := by
  have processSound := sound.processes holder process running
  simp only [ProcessSound, isInspected] at processSound
  unfold RunSystem.begin
  dsimp only
  rcases performed : system.database.beginApply env process.options.stackID
    holder process.options.desiredHash
    (beginPayload process.options.desiredHash
      (if process.options.resume = true then "resume"
        else process.options.mode.command) process.options.purge)
    process.options.resume with ⟨outcome, after⟩
  cases outcome with
  | error failure =>
      cases beginApply_error performed
      exact RunSound.stop (sound.setDatabase (.refl _) sound.rows) holder
  | ok record =>
      obtain ⟨afterSound, member, fromRow⟩ := sound.begin_row performed
      have unblocked : ¬ system.database.HeldByOther env
          process.options.stackID holder :=
        refuseForeignLease_eq_ok_iff.mp (beginApply_cases performed).1
      refine afterSound.setProcess holder ?_
      intro looping isLooping
      cases isLooping
      suffices placed : journalSteps record =
          stepsOf process.effectiveMode ∧
          Remaining (stepsOf process.effectiveMode)
            (system.executions record.id)
            (skipTo
              (if process.options.resume = true then some record.step
                else none)
              (if process.options.resume = true then some record.step
                else none).isNone
              (stepsOf process.effectiveMode)) from
        ⟨⟨record, member, rfl, placed.1⟩, placed.2⟩
      cases resuming : process.options.resume with
      | false =>
          simp only [resuming] at fromRow ⊢
          rcases fromRow with ⟨_, _, impossible, _⟩ | ⟨_, _, rfl, _⟩
          · cases impossible
          · rw [processSound resuming]
            constructor
            · exact journalSteps_opened _ _ _ _ _ _ _
            · simp only [Bool.false_eq_true, if_false, Option.isNone_none,
                skipTo_true]
              exact remaining_all _ _
      | true =>
          have condition := allowed process running isInspected resuming
            unblocked
          simp only [if_true, Option.isNone_some]
          rcases fromRow with
            ⟨current, found, _, sameHash, rfl⟩ | ⟨_, missing, rfl, _⟩
          · simp only [found] at condition
            obtain ⟨sameSteps, checkpointed⟩ := condition sameHash
            obtain ⟨currentMember, _, isIncomplete⟩ :=
              incompleteJournal_some found
            obtain ⟨inList, reached⟩ := sound.resumed_step currentMember
              isIncomplete sameSteps checkpointed
            exact ⟨sameSteps, remaining_skipTo inList reached⟩
          · simp only [missing] at condition
            have steps : stepsOf process.effectiveMode = applySteps := by
              simp [stepsOf, condition]
            rw [steps]
            constructor
            · simp only [resuming]
              rfl
            · have inList : "validate" ∈ applySteps := by decide
              exact remaining_skipTo inList (reached_validate _)

/-! ## Every event -/

namespace RunSound

variable {system : RunSystem}

theorem inspect (sound : RunSound system) (holder : String)
    (options : RunOptions) : RunSound (system.inspect holder options) := by
  unfold RunSystem.inspect
  split
  · exact sound
  · dsimp only
    split
    · exact sound
    · rename_i effectiveMode effectivePurge context
      refine sound.setProcess holder ?_
      intro running started
      cases started
      intro notResuming
      have fresh : options.resume = false := notResuming
      rw [fresh] at context
      cases context
      rfl

theorem mem_of_remaining {mode : Mode} {executions : List (Execution String)}
    {step : String} {rest : List String}
    (left : Remaining (stepsOf mode) executions (step :: rest)) :
    step ∈ stepsOf mode := by
  obtain ⟨done, split, _⟩ := left
  rw [split]
  exact List.mem_append_right _ List.mem_cons_self

theorem startStep (sound : RunSound system) {holder : String}
    {env : CallEnv} {process : RunProcess} {journalID step : String}
    {rest : List String}
    (onRow : OnRow system.database.journal.rows journalID
      process.effectiveMode)
    (left : Remaining (stepsOf process.effectiveMode)
      (system.executions journalID) (step :: rest)) :
    RunSound (system.startStep holder env process journalID step rest) := by
  have reached := left.reached (stepsOf_nodup process.effectiveMode)
  have inList := mem_of_remaining left
  unfold RunSystem.startStep
  rcases performed : system.database.advanceApply env journalID
    process.options.stackID holder step "running" none with ⟨outcome, after⟩
  have afterSound :=
    sound.advance performed onRow inList reached (by decide)
  have afterRow : OnRow after.journal.rows journalID process.effectiveMode :=
    onRow.mono (advanceApply_change performed).1.extends_journal
  cases outcome with
  | error failure => exact afterSound.stop holder
  | ok record =>
      have startedSound : RunSound ((system.setDatabase
          after).appendExecution journalID (.started step)) :=
        afterSound.appendExecution afterRow reached
      refine startedSound.setProcess holder ?_
      intro running started
      cases started
      refine ⟨afterRow, left.mono ?_⟩
      simp only [RunSystem.appendExecution, RunSystem.setDatabase,
        Function.update_self]
      exact List.subset_append_left _ _

theorem checkpoint (sound : RunSound system) {holder : String}
    {env : CallEnv} {process : RunProcess} {journalID step status : String}
    {error : Option String} {next : Option RunPhase}
    (onRow : OnRow system.database.journal.rows journalID
      process.effectiveMode)
    (inList : step ∈ stepsOf process.effectiveMode)
    (reached : Reached (stepsOf process.effectiveMode)
      (system.executions journalID) step)
    (notDone : status ≠ "done")
    (nextSound : ∀ phase, next = some phase →
      ProcessSound system.database.journal.rows system.executions
        { process with phase := phase }) :
    RunSound (system.checkpoint holder env process journalID step status
      error next) := by
  unfold RunSystem.checkpoint
  rcases performed : system.database.advanceApply env journalID
    process.options.stackID holder step status error with ⟨outcome, after⟩
  have afterSound := sound.advance performed onRow inList reached notDone
  have extended := (advanceApply_change performed).1.extends_journal
  cases outcome with
  | error failure => exact afterSound.stop holder
  | ok record =>
      refine afterSound.setProcess holder ?_
      intro running continued
      obtain ⟨phase, isNext, rfl⟩ := Option.map_eq_some_iff.mp continued
      exact (nextSound phase isNext).mono extended
        fun _ => List.Subset.refl _

theorem execute (sound : RunSound system) {holder : String}
    {process : RunProcess} {journalID step : String} {rest : List String}
    {execution : Execution String} {phase : RunPhase}
    (onRow : OnRow system.database.journal.rows journalID
      process.effectiveMode)
    (left : Remaining (stepsOf process.effectiveMode)
      (system.executions journalID) (step :: rest))
    (sameStep : execution.step = step)
    (nextSound : ProcessSound system.database.journal.rows
      (system.appendExecution journalID execution).executions
      { process with phase := phase }) :
    RunSound ((system.appendExecution journalID execution).setProcess holder
      (some { process with phase := phase })) := by
  have reached := left.reached (stepsOf_nodup process.effectiveMode)
  refine (sound.appendExecution onRow (sameStep ▸ reached)).setProcess holder
    ?_
  intro running continued
  cases continued
  exact nextSound

theorem next_checkpointRunning (sound : RunSound system) (holder : String)
    (env : CallEnv) :
    RunSound (system.next (.checkpointRunning holder env)) := by
  simp only [RunSystem.next]
  split
  · rename_i process running
    split
    · rename_i journalID step rest atHead
      have processSound := sound.processes holder process running
      simp only [ProcessSound, atHead] at processSound
      exact sound.startStep processSound.1 processSound.2
    · exact sound
  · exact sound

theorem next_execute (sound : RunSound system) (holder : String)
    (succeeds : Bool) :
    RunSound (system.next (.execute holder succeeds)) := by
  simp only [RunSystem.next]
  split
  · rename_i process running
    split
    · rename_i journalID step rest isExecuting
      have processSound := sound.processes holder process running
      simp only [ProcessSound, isExecuting] at processSound
      obtain ⟨onRow, left⟩ := processSound
      have grown : ∀ execution, system.executions journalID ⊆
          system.executions journalID ++ [execution] :=
        fun _ => List.subset_append_left _ _
      split
      · refine sound.execute onRow left rfl ?_
        simp only [ProcessSound, RunSystem.appendExecution,
          Function.update_self]
        exact ⟨onRow, left.mono (grown _),
          List.mem_append_right _ List.mem_cons_self⟩
      · refine sound.execute onRow left rfl ?_
        simp only [ProcessSound, RunSystem.appendExecution,
          Function.update_self]
        exact ⟨onRow, mem_of_remaining left,
          (left.reached (stepsOf_nodup _)).mono (grown _)⟩
    · exact sound
  · exact sound

theorem next_checkpointFailed (sound : RunSound system) (holder : String)
    (env : CallEnv) (message : String) :
    RunSound (system.next (.checkpointFailed holder env message)) := by
  simp only [RunSystem.next]
  split
  · rename_i process running
    split
    · rename_i journalID step isFailing
      have processSound := sound.processes holder process running
      simp only [ProcessSound, isFailing] at processSound
      obtain ⟨onRow, inList, reached⟩ := processSound
      exact sound.checkpoint onRow inList reached (by decide)
        fun _ impossible => absurd impossible (by simp)
    · exact sound
  · exact sound

theorem next_checkpointCompleted (sound : RunSound system) (holder : String)
    (env : CallEnv) :
    RunSound (system.next (.checkpointCompleted holder env)) := by
  simp only [RunSystem.next]
  split
  · rename_i process running
    split
    · rename_i journalID step rest isExecuted
      have processSound := sound.processes holder process running
      simp only [ProcessSound, isExecuted] at processSound
      obtain ⟨onRow, left, completed⟩ := processSound
      refine sound.checkpoint onRow (mem_of_remaining left)
        (left.reached (stepsOf_nodup _)) (by decide) ?_
      intro phase isNext
      cases isNext
      exact ⟨onRow, left.advance completed⟩
    · exact sound
  · exact sound

theorem next_finish (sound : RunSound system) (holder : String)
    (env : CallEnv) (resources : Option (List StackResourceRecord)) :
    RunSound (system.next (.finish holder env resources)) := by
  simp only [RunSystem.next]
  split
  · rename_i process running
    split
    · rename_i journalID isFinished
      have processSound := sound.processes holder process running
      simp only [ProcessSound, isFinished] at processSound
      exact (sound.finish processSound.1 processSound.2).stop holder
    · exact sound
  · exact sound

theorem step (sound : RunSound system) {event : RunEvent}
    (allowed : ResumesInList system event) :
    RunSound (system.next event) := by
  cases event with
  | inspect holder options => exact sound.inspect holder options
  | begin holder env =>
      simp only [RunSystem.next]
      split
      · rename_i process running
        split
        · rename_i isInspected
          exact sound.begin running isInspected allowed
        · exact sound
      · exact sound
  | heartbeat holder env =>
      simp only [RunSystem.next]
      split
      · split
        · exact sound
        · exact sound.heartbeat env _ _ holder
        · exact sound.heartbeat env _ _ holder
        · exact sound.heartbeat env _ _ holder
        · exact sound.heartbeat env _ _ holder
      · exact sound
  | checkpointRunning holder env =>
      exact sound.next_checkpointRunning holder env
  | execute holder succeeds => exact sound.next_execute holder succeeds
  | checkpointFailed holder env message =>
      exact sound.next_checkpointFailed holder env message
  | checkpointCompleted holder env =>
      exact sound.next_checkpointCompleted holder env
  | finish holder env resources => exact sound.next_finish holder env resources
  | abort stackID holder env => exact sound.abort env stackID holder
  | stop holder => exact sound.stop holder

theorem fresh (leaseDuration : Nat) :
    RunSound (RunSystem.fresh leaseDuration) where
  rows _ member := absurd member List.not_mem_nil
  unused _ _ := rfl
  processes _ _ impossible := absurd impossible (by
    simp [RunSystem.fresh])

end RunSound

theorem runSound_of_runs {before after : RunSystem}
    (run : Runs (guarded ResumesInList RunSystem.step) before after)
    (sound : RunSound before) : RunSound after := by
  refine invariant_of_runs RunSound ?_ sound run
  rintro system event _ current ⟨allowed, rfl⟩
  exact current.step allowed

/-- In every run whose resumes meet `ResumesInList`, with any interleaving of
processes, crashes and failures: executions of a row are in list order, a
finished row has executed its whole list, and a process in the step loop, so
also one that has just resumed, has only completed steps behind it. -/
theorem resume_never_skips_of_runs
    {leaseDuration : Nat} {system : RunSystem}
    (run : Runs (guarded ResumesInList RunSystem.step)
      (RunSystem.fresh leaseDuration) system) :
    (∀ record ∈ system.database.journal.rows,
        InOrder (journalSteps record) (system.executions record.id)) ∧
      (∀ record ∈ system.database.journal.rows, record.status = "done" →
        ∀ step ∈ journalSteps record,
          .completed step ∈ system.executions record.id) ∧
      ∀ holder process journalID remaining,
        system.processes holder = some process →
          process.phase = .looping journalID remaining →
            ∃ record ∈ system.database.journal.rows,
              record.id = journalID ∧
              journalSteps record = stepsOf process.effectiveMode ∧
              ∃ done, journalSteps record = done ++ remaining ∧
                ∀ step ∈ done,
                  .completed step ∈ system.executions journalID := by
  have sound := runSound_of_runs run (RunSound.fresh leaseDuration)
  refine ⟨?_, ?_, ?_⟩
  · intro record member
    exact (sound.rows record member).ordered
  · intro record member isDone
    exact (sound.rows record member).finished isDone
  · intro holder process journalID remaining running atHead
    have processSound := sound.processes holder process running
    simp only [ProcessSound, atHead] at processSound
    obtain ⟨⟨record, member, sameID, sameSteps⟩, left⟩ := processSound
    refine ⟨record, member, sameID, sameSteps, ?_⟩
    rw [sameSteps]
    exact left

/-- The options of a run on the stack `shop`. -/
def shopOptions (mode : Mode) (resume purge : Bool) : RunOptions where
  stackID := "shop"
  desiredHash := "h"
  mode := mode
  resume := resume
  purge := purge

/-- An apply run that crashes in its first step and is resumed after its lease
ran out. -/
def crashedApply : List RunEvent :=
  [.inspect "host:1" (shopOptions .apply false false),
   .begin "host:1" (calmEnv 1000 "a"),
   .checkpointRunning "host:1" (calmEnv 2000 "b"),
   .stop "host:1",
   .inspect "host:2" (shopOptions .apply true false),
   .begin "host:2" (calmEnv 400000 "c")]

theorem resume_never_skips_of_crashedApply :
    InOrder applySteps
      ((crashedApply.foldl RunSystem.next
        (RunSystem.fresh 300000)).executions "a") := by
  have allowed : Along ResumesInList RunSystem.next (RunSystem.fresh 300000)
      crashedApply := by
    refine ⟨trivial, ?_, trivial, trivial, trivial, ?_, trivial⟩
    · intro process running _ resuming
      cases running
      cases resuming
    · intro process running _ _ _
      cases running
      intro _
      exact ⟨rfl, fun isDown => absurd isDown (by decide)⟩
  exact (resume_never_skips_of_runs (Runs.guarded_foldl allowed)).1 _
    List.mem_cons_self

/-- A `down --purge` that crashes before its first checkpoint, is resumed and
finishes. -/
def crashedDown : List RunEvent :=
  [.inspect "host:1" (shopOptions .down false true),
   .begin "host:1" (calmEnv 1000 "a"),
   .stop "host:1",
   .inspect "host:2" (shopOptions .apply true false),
   .begin "host:2" (calmEnv 400000 "b"),
   .finish "host:2" (calmEnv 401000 "c") (some [])]

/-- The resumed `down` commits without having executed a step. -/
theorem crashedDown_finishes_without_step :
    ∃ record,
      (crashedDown.foldl RunSystem.next
        (RunSystem.fresh 300000)).database.journal.rows = [record] ∧
      record.status = "done" ∧
      journalContext (some record) = .ok (.down, true) ∧
      (crashedDown.foldl RunSystem.next
        (RunSystem.fresh 300000)).executions record.id = [] :=
  ⟨_, rfl, rfl, rfl, rfl⟩

end Vzctl
