import Vzctl.Apply.BoundTexts
import Vzctl.Lib.Transaction
import Vzctl.Reconciler.Drift

/-!
# The transaction of `finishApply`

`finishApply` as the statements it sends on the connection, with any texts.
Every one of them can fail, with or without SQLite rolling the transaction
back, and so can the `ROLLBACK` whose error is dropped.
-/

namespace Vzctl

open Texts Transaction

/-- The surroundings of a call, with what happens to each statement. -/
structure SqlEnv where
  call : CallEnv
  beginFails : Bool
  leaseFault : Option Fault
  faults : SqlStatement → Option Fault
  rollbackFails : Bool

/-- The surroundings of statements that do not fail by themselves. -/
def SqlEnv.calm (env : SqlEnv) : CallEnv :=
  { env.call with faults := fun _ => false }

namespace StateDatabase

section Statements

variable (equal : String → String → Bool) (env : SqlEnv)
  (id stackID holder : String)

/-- The `INSERT` of one resource. -/
def insertStatement (entry : StackResourceRecord × Nat) :
    Procedure (Connection StateDatabase) ReconcileDatabaseError PUnit :=
  Transaction.statement .database (env.faults (.insertResource entry.2))
    fun database => BoundTexts.insertResource database env.calm stackID entry

/-- The body of the transaction. -/
def finishStatements (resources : Option (List StackResourceRecord)) :
    Procedure (Connection StateDatabase) ReconcileDatabaseError PUnit := do
  query .database env.leaseFault fun database =>
    BoundTexts.requireApplyLease equal database env.calm id stackID holder
  match resources with
  | none => Procedure.fail .undecodable
  | some sent => do
      Transaction.statement .database (env.faults .deleteResources)
        fun database => database.deleteResources env.calm (cString stackID)
      Procedure.forEach sent.zipIdx (insertStatement env stackID)
      Transaction.statement .database (env.faults .updateJournal)
        fun database =>
          database.updateJournal env.calm (cString id) "done" "done" none
      Transaction.statement .database (env.faults .deleteLease)
        fun database => database.deleteLease env.calm (cString stackID)
          (some (cString holder))

/-- `finishApply`, statement by statement. -/
def finishApplyOn (resources : Option (List StackResourceRecord)) :
    Procedure (Connection StateDatabase) ReconcileDatabaseError PUnit :=
  transact .database ⟨env.beginFails, env.faults .commit, env.rollbackFails⟩
    (finishStatements equal env id stackID holder resources)

end Statements

/-! ## What the statements do to the tables -/

section Effect

variable {equal : String → String → Bool} {env : SqlEnv}
  {id stackID holder : String}

theorem transaction_calm {database changed : StateDatabase}
    {body : Except ReconcileDatabaseError (Unit × StateDatabase)}
    (performed : body = .ok ((), changed)) :
    transaction env.calm database body = (.ok (), changed) := by
  unfold transaction
  rw [performed]
  rfl

theorem finishStatements_performs
    (resources : Option (List StackResourceRecord)) :
    ∃ run, Performs (finishStatements equal env id stackID holder resources) run ∧
      ∀ database changed, run database = .ok changed →
        BoundTexts.finishApply equal database env.calm id stackID holder resources =
          (.ok (), changed) := by
  cases resources with
  | none =>
      refine ⟨_, Performs.of_query.andThen .of_fail, ?_⟩
      intro database changed performed
      obtain ⟨_, _, impossible⟩ := Outcome.bind_eq_ok_iff.mp performed
      cases impossible
  | some sent =>
      refine ⟨_, Performs.of_query.andThen (Performs.of_statement.andThen
        ((Performs.forEach fun _ => Performs.of_statement).andThen
          (Performs.of_statement.andThen Performs.of_statement))), ?_⟩
      intro database changed performed
      obtain ⟨_, checked, performed⟩ := Outcome.bind_eq_ok_iff.mp performed
      obtain ⟨_, required, same⟩ := Outcome.map_eq_ok_iff.mp checked
      rw [← same] at performed
      obtain ⟨cleared, clearing, performed⟩ :=
        Outcome.bind_eq_ok_iff.mp performed
      obtain ⟨recorded, recording, performed⟩ :=
        Outcome.bind_eq_ok_iff.mp performed
      obtain ⟨done, rewriting, releasing⟩ :=
        Outcome.bind_eq_ok_iff.mp performed
      apply transaction_calm
      refine Outcome.bind_eq_ok_iff.mpr ⟨(), required, ?_⟩
      refine Outcome.bind_eq_ok_iff.mpr ⟨sent, rfl, ?_⟩
      refine Outcome.bind_eq_ok_iff.mpr ⟨cleared, clearing, ?_⟩
      refine Outcome.bind_eq_ok_iff.mpr ⟨recorded, recording, ?_⟩
      refine Outcome.bind_eq_ok_iff.mpr ⟨done, rewriting, ?_⟩
      exact Outcome.bind_eq_ok_iff.mpr ⟨changed, releasing, rfl⟩

/-- Every call leaves the connection as it was, or commits what `finishApply`
returns. -/
theorem finishApplyOn_cases (resources : Option (List StackResourceRecord))
    (connection : Connection StateDatabase) :
    Procedure.Ends (finishApplyOn equal env id stackID holder resources)
      (fun _ reached => ∃ changed, connection.pending = none ∧
        BoundTexts.finishApply equal connection.committed env.calm id stackID holder
          resources = (.ok (), changed) ∧ reached = ⟨changed, none⟩)
      (fun _ reached => reached = connection) connection := by
  obtain ⟨run, performs, isFinish⟩ := finishStatements_performs resources
  refine (transact_cases performs connection).mono ?_ fun _ _ same => same
  intro _ reached ended
  obtain ⟨changed, idle, performed, isReached⟩ := ended
  exact ⟨changed, idle, isFinish _ _ performed, isReached⟩

end Effect

/-! ## A finished apply -/

/-- The stack has exactly the given resources, its journal row is done and its
lease is gone; everything else is as before. -/
structure FinishedApply (env : CallEnv) (id stackID : String)
    (committed : List StackResourceRecord)
    (before after : StateDatabase) : Prop where
  own : (after.resources.rows.filter fun row =>
    row.stackID = some stackID) = committed.map (recordedRow env stackID)
  otherResources : (after.resources.rows.filter fun row =>
    ¬ row.stackID = some stackID) =
      before.resources.rows.filter fun row => ¬ row.stackID = some stackID
  journal : ∃ current, before.incompleteJournal stackID = some current ∧
    current.id = id ∧ after.journalByID id =
      some (current.rewrite "done" "done" none env.timestamp)
  otherJournal : (after.journal.rows.filter fun row => ¬ row.id = id) =
    before.journal.rows.filter fun row => ¬ row.id = id
  lease : after.lease stackID = none
  otherLeases : (after.locks.rows.filter fun row =>
    ¬ row.stackID = stackID) =
      before.locks.rows.filter fun row => ¬ row.stackID = stackID

section Finished

variable {env : CallEnv} {id stackID holder : String}
  {committed : List StackResourceRecord} {before after : StateDatabase}

theorem own_of_finishApply
    (finished : before.finishApply env id stackID holder (some committed) =
      (.ok (), after)) :
    (after.resources.rows.filter fun row => row.stackID = some stackID) =
      committed.map (recordedRow env stackID) := by
  rw [rows_of_finishApply finished, List.filter_append, List.filter_filter]
  have none : (before.resources.rows.filter fun row =>
      decide (row.stackID = some stackID) &&
        !decide (row.stackID = some stackID)) = [] := by
    simp
  have all : (committed.map (recordedRow env stackID)).filter
      (fun row => decide (row.stackID = some stackID)) =
        committed.map (recordedRow env stackID) := by
    rw [List.filter_eq_self]
    intro row member
    obtain ⟨resource, _, isRow⟩ := List.mem_map.mp member
    simp [← isRow]
  rw [none, all, List.nil_append]

theorem otherResources_of_finishApply
    (finished : before.finishApply env id stackID holder (some committed) =
      (.ok (), after)) :
    (after.resources.rows.filter fun row => ¬ row.stackID = some stackID) =
      before.resources.rows.filter fun row =>
        ¬ row.stackID = some stackID := by
  rw [rows_of_finishApply finished, List.filter_append, List.filter_filter]
  have none : (committed.map (recordedRow env stackID)).filter
      (fun row => decide (¬ row.stackID = some stackID)) = [] := by
    rw [List.filter_eq_nil_iff]
    intro row member
    obtain ⟨resource, _, isRow⟩ := List.mem_map.mp member
    simp [← isRow]
  rw [none, List.append_nil]
  apply List.filter_congr
  intro row _
  simp

theorem journal_of_rewrite {journal : Table journalSchema}
    {current : JournalRecord} {timestamp : String}
    (found : before.incompleteJournal stackID = some current)
    (rows : journal.rows = before.journal.rows.map fun record =>
      if decide (record.id = current.id) then
        record.rewrite "done" "done" none timestamp
      else record) :
    (journal.rows.find? fun record => record.id = current.id) =
        some (current.rewrite "done" "done" none timestamp) ∧
      (journal.rows.filter fun row => ¬ row.id = current.id) =
        before.journal.rows.filter fun row => ¬ row.id = current.id := by
  obtain ⟨member, _, _⟩ := incompleteJournal_some found
  have byID : before.journal.rows.find? (fun record =>
      record.id = current.id) = some current :=
    (UniqueKey.find?_eq_some_iff before.journal.valid.1).mpr ⟨member, rfl⟩
  constructor
  · have sameID : ((fun record : JournalRecord =>
        decide (record.id = current.id)) ∘ fun record =>
          if decide (record.id = current.id) then
            record.rewrite "done" "done" none timestamp
          else record) = fun record => decide (record.id = current.id) := by
      funext record
      by_cases same : record.id = current.id
      · simp [same]
      · simp [same]
    rw [rows, List.find?_map, sameID, byID]
    simp
  · rw [rows]
    apply Frame.filter_update
    intro row _ selected
    have sameID : row.id = current.id := of_decide_eq_true selected
    simp [sameID]

theorem holder_of_lease {row : LockRow} {lease : LeaseRecord}
    (isLease : before.lease stackID = some lease)
    (member : row ∈ before.locks.rows) (ofStack : row.stackID = stackID) :
    row.holder = lease.holder := by
  unfold StateDatabase.lease at isLease
  obtain ⟨other, found, isOther⟩ := Option.map_eq_some_iff.mp isLease
  have otherMember := List.mem_of_find?_eq_some found
  have otherStack : other.stackID = stackID := by
    simpa using List.find?_some found
  have same : row = other := UniqueKey.eq_of_key_eq before.locks.valid member
    otherMember (ofStack.trans otherStack.symm)
  rw [same, ← isOther]

theorem locks_of_delete {lease : LeaseRecord} {locks : Table lockSchema}
    (isLease : before.lease stackID = some lease)
    (sameHolder : lease.holder = holder)
    (rows : locks.rows = before.locks.rows.filter fun row =>
      !decide (row.stackID = stackID ∧
        (some holder).all (fun wanted => decide (wanted = row.holder)) =
          true)) :
    (locks.rows.find? fun row => row.stackID = stackID) = none ∧
      (locks.rows.filter fun row => ¬ row.stackID = stackID) =
        before.locks.rows.filter fun row => ¬ row.stackID = stackID := by
  constructor
  · rw [rows, List.find?_eq_none]
    intro row member ofStack
    obtain ⟨inside, kept⟩ := List.mem_filter.mp member
    have stack : row.stackID = stackID := of_decide_eq_true ofStack
    have isHolder := holder_of_lease isLease inside stack
    simp [stack, isHolder, sameHolder] at kept
  · rw [rows]
    apply Frame.filter_delete
    intro row _ selected
    have both : row.stackID = stackID ∧ _ := of_decide_eq_true selected
    simp [both.1]

theorem finishedApply_of_finishApply
    (finished : before.finishApply env id stackID holder (some committed) =
      (.ok (), after)) :
    FinishedApply env id stackID committed before after := by
  have own := own_of_finishApply finished
  have others := otherResources_of_finishApply finished
  obtain ⟨required, sent, cleared, recorded, done, same, clearing, recording,
    rewriting, releasing⟩ := finishApply_cases finished
  obtain ⟨hasJournal, hasLease⟩ := requireApplyLease_eq_ok_iff.mp required
  obtain ⟨current, found, sameID⟩ := hasJournal
  obtain ⟨lease, isLease, sameHolder, _⟩ := hasLease
  have released := deleteLease_cases releasing
  obtain ⟨journal, isDone, journalRows⟩ := updateJournal_cases rewriting
  obtain ⟨table, isRecorded, _⟩ := insertResources_cases recording
  have isCleared := deleteResources_cases clearing
  rw [isCleared] at isRecorded
  rw [isRecorded] at isDone journalRows
  rw [isDone] at released
  rw [← sameID] at journalRows
  have rewritten := journal_of_rewrite found journalRows
  rw [sameID] at rewritten
  have deleted : (after.locks.rows.find? fun row =>
        row.stackID = stackID) = none ∧ _ :=
    locks_of_delete isLease sameHolder (by rw [released]; rfl)
  exact {
    own := own
    otherResources := others
    journal := ⟨current, found, sameID, by
      rw [released]
      exact rewritten.1⟩
    otherJournal := by
      rw [released]
      exact rewritten.2
    lease := by
      rw [StateDatabase.lease, deleted.1]
      rfl
    otherLeases := deleted.2 }

end Finished

/-! ## Texts that are not plain -/

/-- The texts of the database were bound: none holds a NUL. -/
def Bound (database : StateDatabase) : Prop :=
  ∀ record ∈ database.journal.rows,
    '\x00' ∉ record.id.toList ∧ '\x00' ∉ record.stackID.toList

section Bound

variable {equal : String → String → Bool} {before after : StateDatabase}
  {env : CallEnv} {id stackID holder : String}

theorem not_mem_cString (text : String) :
    '\x00' ∉ (cString text).toList := by
  rw [cString, String.toList_ofList]
  intro member
  simpa using List.mem_takeWhile_imp member

theorem Bound.of_journal (bound : before.Bound)
    (same : after.journal = before.journal) : after.Bound := by
  intro record member
  rw [same] at member
  exact bound record member

theorem Bound.updateJournal {step status : String} {error : Option String}
    (bound : before.Bound)
    (rewriting : before.updateJournal env id step status error = .ok after) :
    after.Bound := by
  obtain ⟨_, rfl, rows⟩ := updateJournal_cases rewriting
  intro record member
  rw [rows] at member
  obtain ⟨earlier, inside, isRow⟩ := List.mem_map.mp member
  have kept := bound earlier inside
  rw [← isRow]
  split
  · exact kept
  · exact kept

theorem Bound.opened {generation : Nat} {payload : JSONValue}
    {now : String} (bound : before.Bound)
    (uuid : '\x00' ∉ env.uuid.toList)
    (inserting : before.insertJournal env (.opened env.uuid (cString stackID)
      generation payload now) = .ok after) : after.Bound := by
  obtain ⟨_, rfl, rows⟩ := insertJournal_cases inserting
  intro record member
  rw [rows] at member
  rcases List.mem_append.mp member with earlier | new
  · exact bound record earlier
  · rw [List.mem_singleton.mp new]
    exact ⟨uuid, not_mem_cString stackID⟩

theorem Bound.transaction {α : Type}
    {body : Except ReconcileDatabaseError (α × StateDatabase)}
    (bound : before.Bound)
    (inside : ∀ result changed, body = .ok (result, changed) →
      changed.Bound) : (transaction env before body).2.Bound := by
  unfold StateDatabase.transaction
  split
  · exact bound
  · split
    · exact bound
    · split
      · exact bound
      · exact inside _ _ rfl

theorem Bound.beginApply {desiredHash : String} {payload : JSONValue}
    {resume : Bool} (bound : before.Bound)
    (uuid : '\x00' ∉ env.uuid.toList) :
    (BoundTexts.beginApply equal before env stackID holder desiredHash payload
      resume).2.Bound := by
  apply bound.transaction
  intro result changed performed
  split at performed
  · obtain ⟨_, _, performed⟩ := Outcome.bind_eq_ok_iff.mp performed
    split at performed
    · cases performed
    · split at performed
      · cases performed
      · obtain ⟨leased, leasing, performed⟩ :=
          Outcome.bind_eq_ok_iff.mp performed
        obtain ⟨reopened, reopening, performed⟩ :=
          Outcome.bind_eq_ok_iff.mp performed
        obtain ⟨_, _, performed⟩ := Outcome.bind_eq_ok_iff.mp performed
        cases performed
        exact (bound.of_journal (upsertLease_journal leasing)).updateJournal
          reopening
  · obtain ⟨_, _, performed⟩ := Outcome.bind_eq_ok_iff.mp performed
    obtain ⟨leased, leasing, performed⟩ :=
      Outcome.bind_eq_ok_iff.mp performed
    obtain ⟨inserted, inserting, performed⟩ :=
      Outcome.bind_eq_ok_iff.mp performed
    obtain ⟨_, _, performed⟩ := Outcome.bind_eq_ok_iff.mp performed
    cases performed
    exact (bound.of_journal (upsertLease_journal leasing)).opened uuid
      inserting

theorem Bound.heartbeatApply (bound : before.Bound) :
    (BoundTexts.heartbeatApply equal before env id stackID holder).2.Bound := by
  unfold BoundTexts.heartbeatApply
  split
  · exact bound
  · split
    · exact bound
    · rename_i renewing
      exact bound.of_journal (upsertLease_journal renewing)

theorem Bound.advanceApply {step status : String} {error : Option String}
    (bound : before.Bound) :
    (BoundTexts.advanceApply equal before env id stackID holder step status
      error).2.Bound := by
  unfold BoundTexts.advanceApply
  split
  · exact bound
  · split
    · exact bound
    · rename_i renewing
      have renewed := bound.of_journal (upsertLease_journal renewing)
      split
      · exact renewed
      · rename_i rewriting
        exact renewed.updateJournal rewriting

theorem Bound.abortApply (bound : before.Bound) :
    (BoundTexts.abortApply equal before env stackID holder).2.Bound := by
  unfold BoundTexts.abortApply
  split
  · exact bound
  · split
    · exact bound
    · split
      · exact bound
      · rename_i rewriting
        have aborted := bound.updateJournal rewriting
        split
        · exact aborted
        · rename_i releasing
          rw [deleteLease_cases releasing]
          exact aborted

end Bound

/-- The stack and the resources are recorded as given, and the row and the
lease of the stack are those that the caller names. -/
structure PlainFinish (database : StateDatabase) (id stackID holder : String)
    (committed : List StackResourceRecord) : Prop where
  stack : '\x00' ∉ stackID.toList
  resources : ∀ resource ∈ committed, '\x00' ∉ resource.kind.toList ∧
    '\x00' ∉ resource.name.toList ∧ '\x00' ∉ resource.state.toList
  row : ∀ current, database.incompleteJournal stackID = some current →
    current.id = id
  holder : ∀ lease, database.lease stackID = some lease →
    lease.holder = cString holder

section Plain

variable {equal : String → String → Bool} {env : CallEnv}
  {id stackID holder : String} {committed : List StackResourceRecord}
  {before after : StateDatabase}

theorem not_mem_of_cString {text : String} (whole : cString text = text) :
    '\x00' ∉ text.toList :=
  whole ▸ not_mem_cString text

theorem requireApplyLease_cases
    (required : BoundTexts.requireApplyLease equal before env id stackID holder =
      .ok ()) :
    (∃ current, before.incompleteJournal (cString stackID) = some current ∧
      equal current.id id = true) ∧
      ∃ lease, before.lease (cString stackID) = some lease ∧
        env.now < lease.expiresAt := by
  rw [BoundTexts.requireApplyLease] at required
  split at required
  · cases required
  · rename_i current found
    split at required
    · cases required
    · rename_i same
      split at required
      · cases required
      · rename_i lease held
        split at required
        · rename_i both
          exact ⟨⟨current, found, Bool.not_eq_false _ ▸ same⟩, lease, held,
            both.2⟩
        · cases required

theorem foldlM_insertResource_cases {index : Nat}
    (recording : (committed.zipIdx index).foldlM (fun current entry =>
      BoundTexts.insertResource current env stackID entry) before = .ok after) :
    ∃ table : Table resourceSchema,
      after = { before with resources := table } ∧
        table.rows = before.resources.rows ++
          committed.map (BoundTexts.storedRow env stackID) := by
  induction committed generalizing index before with
  | nil =>
      cases recording
      exact ⟨_, rfl, by simp⟩
  | cons resource rest ih =>
      rw [List.zipIdx_cons, List.foldlM_cons] at recording
      obtain ⟨inserted, first, remaining⟩ :=
        Outcome.bind_eq_ok_iff.mp recording
      obtain ⟨table, written, result⟩ := Outcome.bind_eq_ok_iff.mp first
      have firstRows := Table.rows_of_insert (of_statement written)
      obtain rfl := Outcome.pure_eq_ok_iff.mp result
      obtain ⟨whole, rfl, rows⟩ := ih remaining
      refine ⟨whole, rfl, ?_⟩
      rw [rows]
      simp [firstRows]

/-- What a `finishApply` that returns has done. -/
theorem finishApply_returned
    (finished : BoundTexts.finishApply equal before env id stackID holder
      (some committed) = (.ok (), after)) :
    BoundTexts.requireApplyLease equal before env id stackID holder = .ok () ∧
      ∃ cleared recorded done,
        before.deleteResources env (cString stackID) = .ok cleared ∧
        committed.zipIdx.foldlM (fun current entry =>
          BoundTexts.insertResource current env stackID entry) cleared = .ok recorded ∧
        recorded.updateJournal env (cString id) "done" "done" none =
          .ok done ∧
        done.deleteLease env (cString stackID) (some (cString holder)) =
          .ok after := by
  have body := of_transaction_ok finished
  obtain ⟨_, required, body⟩ := Outcome.bind_eq_ok_iff.mp body
  obtain ⟨sent, decoding, body⟩ := Outcome.bind_eq_ok_iff.mp body
  cases decoding
  obtain ⟨cleared, clearing, body⟩ := Outcome.bind_eq_ok_iff.mp body
  obtain ⟨recorded, recording, body⟩ := Outcome.bind_eq_ok_iff.mp body
  obtain ⟨done, rewriting, body⟩ := Outcome.bind_eq_ok_iff.mp body
  obtain ⟨released, releasing, body⟩ := Outcome.bind_eq_ok_iff.mp body
  cases body
  exact ⟨required, cleared, recorded, done, clearing, recording, rewriting,
    releasing⟩

theorem exactly_of_plain
    (finished : BoundTexts.finishApply equal before env id stackID holder
      (some committed) = (.ok (), after))
    (bound : before.Bound)
    (plain : PlainFinish before id stackID holder committed) :
    before.finishApply env id stackID (cString holder) (some committed) =
      (.ok (), after) := by
  have required := (finishApply_returned finished).1
  have found := requireApplyLease_cases required
  rw [cString_of_not_mem plain.stack] at found
  obtain ⟨⟨current, isCurrent, _⟩, lease, held, unexpired⟩ := found
  have sameID := plain.row current isCurrent
  have idNoNul := (bound current (incompleteJournal_some isCurrent).1).1
  rw [sameID] at idNoNul
  have exactRequired : before.requireApplyLease env id stackID
      (cString holder) = .ok () :=
    requireApplyLease_eq_ok_iff.mpr ⟨⟨current, isCurrent, sameID⟩, lease, held,
      plain.holder lease held, unexpired⟩
  rw [BoundTexts.finishApply, required, cString_of_not_mem plain.stack,
    cString_of_not_mem idNoNul] at finished
  rw [StateDatabase.finishApply, exactRequired, ← finished]
  change transaction env before (before.deleteResources env stackID >>=
      fun cleared => insertResources env stackID 0 committed cleared >>= _) =
    transaction env before (before.deleteResources env stackID >>=
      fun cleared => committed.zipIdx.foldlM (fun current entry =>
        BoundTexts.insertResource current env stackID entry) cleared >>= _)
  simp only [BoundTexts.foldlM_insertResource plain.stack plain.resources]

theorem rows_of_finished
    (finished : BoundTexts.finishApply equal before env id stackID holder
      (some committed) = (.ok (), after)) :
    after.resources.rows =
        (before.resources.rows.filter fun row =>
          !decide (row.stackID = some (cString stackID))) ++
            committed.map (BoundTexts.storedRow env stackID) ∧
      after.locks.rows = before.locks.rows.filter fun row =>
        !decide (row.stackID = cString stackID ∧
          (some (cString holder)).all (fun wanted =>
            decide (wanted = row.holder)) = true) := by
  obtain ⟨_, cleared, recorded, done, clearing, recording, rewriting,
    releasing⟩ := finishApply_returned finished
  rw [deleteLease_cases releasing]
  obtain ⟨_, rfl, _⟩ := updateJournal_cases rewriting
  obtain ⟨table, rfl, rows⟩ := foldlM_insertResource_cases recording
  rw [deleteResources_cases clearing] at rows
  rw [deleteResources_cases clearing]
  exact ⟨rows, rfl⟩

theorem plain_of_finished
    (finished : BoundTexts.finishApply equal before env id stackID holder
      (some committed) = (.ok (), after))
    (bound : before.Bound)
    (apply : FinishedApply env id stackID committed before after) :
    PlainFinish before id stackID holder committed := by
  obtain ⟨current, isCurrent, sameID, _⟩ := apply.journal
  have ofStack := incompleteJournal_some isCurrent
  have stack := (bound current ofStack.1).2
  rw [ofStack.2.1] at stack
  obtain ⟨rows, locks⟩ := rows_of_finished finished
  rw [cString_of_not_mem stack] at rows locks
  refine ⟨stack, ?_, ?_, ?_⟩
  · have own := apply.own
    rw [rows, List.filter_append, List.filter_filter] at own
    have others : (before.resources.rows.filter fun row =>
        decide (row.stackID = some stackID) &&
          !decide (row.stackID = some stackID)) = [] := by
      simp
    have all : (committed.map (BoundTexts.storedRow env stackID)).filter
        (fun row => decide (row.stackID = some stackID)) =
          committed.map (BoundTexts.storedRow env stackID) := by
      rw [List.filter_eq_self]
      intro row member
      obtain ⟨resource, _, isRow⟩ := List.mem_map.mp member
      rw [← isRow]
      exact decide_eq_true (recordedRow_stackID env stackID resource)
    rw [others, all, List.nil_append, List.map_inj_left] at own
    intro resource member
    have same := own resource member
    exact ⟨not_mem_of_cString (congrArg ResourceRow.kind same),
      not_mem_of_cString (congrArg ResourceRow.name same),
      not_mem_of_cString (congrArg ResourceRow.state same)⟩
  · intro other isOther
    rw [isCurrent] at isOther
    rw [← Option.some.inj isOther]
    exact sameID
  · intro lease held
    by_contra different
    have member := lease_eq_some_iff.mp held
    have kept : after.lease stackID = some lease := by
      rw [lease_eq_some_iff, locks]
      refine List.mem_filter.mpr ⟨member, ?_⟩
      simp [Ne.symm different]
    rw [apply.lease] at kept
    cases kept

theorem Bound.finishApply {resources : Option (List StackResourceRecord)}
    (bound : before.Bound) :
    (BoundTexts.finishApply equal before env id stackID holder
      resources).2.Bound := by
  apply bound.transaction
  intro _ changed performed
  obtain ⟨_, _, performed⟩ := Outcome.bind_eq_ok_iff.mp performed
  obtain ⟨sent, _, performed⟩ := Outcome.bind_eq_ok_iff.mp performed
  obtain ⟨cleared, clearing, performed⟩ := Outcome.bind_eq_ok_iff.mp performed
  obtain ⟨recorded, recording, performed⟩ :=
    Outcome.bind_eq_ok_iff.mp performed
  obtain ⟨done, rewriting, performed⟩ := Outcome.bind_eq_ok_iff.mp performed
  obtain ⟨released, releasing, performed⟩ :=
    Outcome.bind_eq_ok_iff.mp performed
  cases performed
  obtain ⟨_, isRecorded, _⟩ := foldlM_insertResource_cases recording
  have recordedBound : recorded.Bound :=
    bound.of_journal (by rw [isRecorded, deleteResources_cases clearing])
  rw [deleteLease_cases releasing]
  exact (recordedBound.updateJournal rewriting).of_journal rfl

/-- The texts of every database that is reached are bound: the row ids are
UUIDs. -/
theorem bound_of_runs (equal : String → String → Bool) {leaseDuration : Nat}
    {database : StateDatabase}
    (run : Transitions.Runs (Transitions.guarded
      (fun _ label => '\x00' ∉ label.1.uuid.toList) (BoundTexts.step equal))
      (fresh leaseDuration) database) : database.Bound := by
  refine Transitions.invariant_of_runs Bound ?_ ?_ run
  · rintro source ⟨env, call⟩ _ bound ⟨uuid, rfl⟩
    cases call with
    | beginApply => exact bound.beginApply uuid
    | heartbeatApply => exact bound.heartbeatApply
    | advanceApply => exact bound.advanceApply
    | finishApply => exact bound.finishApply
    | abortApply => exact bound.abortApply
  · intro record member
    cases member

end Plain

/-- Whatever fails, the connection is as before and has no open transaction of
its own; a call that returns has finished the apply exactly where the texts are
recorded as they were given and the row and the lease are those named. -/
theorem finishApply_atomic (equal : String → String → Bool) (env : SqlEnv)
    (id stackID holder : String)
    (resources : Option (List StackResourceRecord))
    (connection : Connection StateDatabase)
    (bound : connection.committed.Bound) :
    Procedure.Ends (finishApplyOn equal env id stackID holder resources)
      (fun _ reached => connection.pending = none ∧ reached.pending = none ∧
        ∃ committed, resources = some committed ∧
          (FinishedApply env.calm id stackID committed connection.committed
              reached.committed ↔
            PlainFinish connection.committed id stackID holder committed))
      (fun _ reached => reached = connection) connection := by
  refine (finishApplyOn_cases resources connection).mono ?_
    fun _ _ same => same
  intro _ reached ended
  obtain ⟨changed, idle, finished, isReached⟩ := ended
  rw [isReached]
  cases resources with
  | none =>
      obtain ⟨_, _, body⟩ :=
        Outcome.bind_eq_ok_iff.mp (of_transaction_ok finished)
      obtain ⟨_, impossible, _⟩ := Outcome.bind_eq_ok_iff.mp body
      cases impossible
  | some committed =>
      refine ⟨idle, rfl, committed, rfl, plain_of_finished finished bound, ?_⟩
      intro plain
      exact finishedApply_of_finishApply
        (exactly_of_plain finished bound plain)

/-- The surroundings in which no statement fails. -/
def quietEnv : SqlEnv where
  call := calmEnv 2000 "b"
  beginFails := false
  leaseFault := none
  faults _ := none
  rollbackFails := false

/-- The begun apply of `shop`, on a connection without transaction. -/
def begunConnection : Connection StateDatabase :=
  ⟨BoundTexts.begunDatabase, none⟩

def namedVM (name : String) : StackResourceRecord :=
  ⟨"vm", name, [], "running"⟩

theorem finishApply_atomic_begun :
    Procedure.Ends
      (finishApplyOn exactly quietEnv "a" "shop" "host:1"
        (some [namedVM "web"]))
      (fun _ reached => begunConnection.pending = none ∧
        reached.pending = none ∧
        ∃ committed, some [namedVM "web"] = some committed ∧
          (FinishedApply quietEnv.calm "a" "shop" committed
              begunConnection.committed reached.committed ↔
            PlainFinish begunConnection.committed "a" "shop" "host:1"
              committed))
      (fun _ reached => reached = begunConnection) begunConnection := by
  apply finishApply_atomic
  refine bound_of_runs exactly ((Transitions.Runs.refl _).guarded_snoc
    (calmEnv 1000 "a", .beginApply "shop" "host:1" "h" .null false) ?_ rfl)
  decide

/-- A resource whose name holds a NUL is recorded under another name. -/
theorem nul_name_recorded :
    Procedure.Ends
      (finishApplyOn exactly quietEnv "a" "shop" "host:1"
        (some [namedVM "a\x00b"]))
      (fun _ reached => ¬ FinishedApply quietEnv.calm "a" "shop"
        [namedVM "a\x00b"] begunConnection.committed reached.committed)
      (fun _ _ => False) begunConnection := by
  change ¬ FinishedApply _ _ _ _ _ _
  intro finished
  have names := congrArg (List.map ResourceRow.name) finished.own
  revert names
  decide +kernel

end StateDatabase

end Vzctl
