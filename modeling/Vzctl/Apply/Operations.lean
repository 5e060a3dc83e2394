import Vzctl.Apply.StateDatabase
import Vzctl.Lib.Outcome

/-!
# What one database operation does

One inversion for each statement and each operation of `StateDatabase`.  The
results on histories and leases use these and never unfold an operation.
-/

namespace Vzctl

namespace StateDatabase

/-! ## Rows of the other stacks -/

/-- No resource, journal or lease row of another stack differs. -/
structure SameElsewhere (stackID : String)
    (before after : StateDatabase) : Prop where
  resources :
    after.resources.rows.filter (fun row => row.stackID ≠ some stackID) =
      before.resources.rows.filter fun row => row.stackID ≠ some stackID
  journal :
    after.journal.rows.filter (fun record => record.stackID ≠ stackID) =
      before.journal.rows.filter fun record => record.stackID ≠ stackID
  locks :
    after.locks.rows.filter (fun row => row.stackID ≠ stackID) =
      before.locks.rows.filter fun row => row.stackID ≠ stackID

namespace SameElsewhere

theorem refl (stackID : String) (database : StateDatabase) :
    SameElsewhere stackID database database :=
  ⟨rfl, rfl, rfl⟩

theorem trans {stackID : String} {first second third : StateDatabase}
    (earlier : SameElsewhere stackID first second)
    (later : SameElsewhere stackID second third) :
    SameElsewhere stackID first third :=
  ⟨later.resources.trans earlier.resources,
    later.journal.trans earlier.journal,
    later.locks.trans earlier.locks⟩

theorem lease {stackID other : String} {before after : StateDatabase}
    (same : SameElsewhere stackID before after)
    (different : other ≠ stackID) :
    after.lease other = before.lease other := by
  have weaker : ∀ row : LockRow, decide (row.stackID = other) = true →
      decide (row.stackID ≠ stackID) = true := by
    intro row sameStack
    simp only [decide_eq_true_eq] at sameStack ⊢
    exact sameStack ▸ different
  unfold StateDatabase.lease
  rw [← Frame.find?_filter weaker, same.locks, Frame.find?_filter weaker]

end SameElsewhere

/-! ## Journal rows -/

theorem mem_of_newest {rows : List JournalRecord} {record : JournalRecord}
    (found : newest rows = some record) : record ∈ rows := by
  induction rows with
  | nil => cases found
  | cons head tail ih =>
      unfold newest at found
      split at found
      · cases found
        exact List.mem_cons_self
      · rename_i other tailNewest
        split at found
        · cases found
          exact List.mem_cons_self
        · cases found
          exact List.mem_cons_of_mem head <|
            ih tailNewest

theorem newest_eq_none_iff {rows : List JournalRecord} :
    newest rows = none ↔ rows = [] := by
  cases rows with
  | nil => simp [newest]
  | cons head tail =>
      unfold newest
      cases newest tail with
      | none => simp
      | some other =>
          simp only [reduceCtorEq, iff_false]
          split <;> simp

theorem incompleteJournal_some {database : StateDatabase}
    {stackID : String} {current : JournalRecord}
    (found : database.incompleteJournal stackID = some current) :
    current ∈ database.journal.rows ∧ current.stackID = stackID ∧
      current.isIncomplete = true := by
  simpa using mem_of_newest found

theorem incompleteJournal_eq_none_iff {database : StateDatabase}
    {stackID : String} :
    database.incompleteJournal stackID = none ↔
      ∀ record ∈ database.journal.rows, record.stackID = stackID →
        record.isIncomplete = false := by
  rw [incompleteJournal, newest_eq_none_iff, List.filter_eq_nil_iff]
  simp

theorem incomplete_unique (database : StateDatabase)
    {left right : JournalRecord}
    (leftMember : left ∈ database.journal.rows)
    (rightMember : right ∈ database.journal.rows)
    (leftIncomplete : left.isIncomplete = true)
    (rightIncomplete : right.isIncomplete = true)
    (sameStack : left.stackID = right.stackID) : left = right :=
  UniqueKey.eq_of_key_eq database.journal.valid.2
    (List.mem_filter.mpr ⟨leftMember, leftIncomplete⟩)
    (List.mem_filter.mpr ⟨rightMember, rightIncomplete⟩) sameStack

theorem journal_id_unique (database : StateDatabase)
    {left right : JournalRecord}
    (leftMember : left ∈ database.journal.rows)
    (rightMember : right ∈ database.journal.rows)
    (sameID : left.id = right.id) : left = right :=
  UniqueKey.eq_of_key_eq database.journal.valid.1
    leftMember rightMember sameID

theorem incompleteJournal_eq_some_iff {database : StateDatabase}
    {stackID : String} {current : JournalRecord} :
    database.incompleteJournal stackID = some current ↔
      current ∈ database.journal.rows ∧ current.stackID = stackID ∧
        current.isIncomplete = true := by
  constructor
  · exact incompleteJournal_some
  · rintro ⟨member, sameStack, isIncomplete⟩
    cases found : database.incompleteJournal stackID with
    | none =>
        have complete :=
          incompleteJournal_eq_none_iff.mp found current member sameStack
        rw [isIncomplete] at complete
        cases complete
    | some other =>
        obtain ⟨otherMember, otherStack, otherIncomplete⟩ :=
          incompleteJournal_some found
        exact congrArg some <|
          database.incomplete_unique otherMember member otherIncomplete
            isIncomplete (otherStack.trans sameStack.symm)

theorem lt_nextGeneration {database : StateDatabase}
    {record : JournalRecord} (member : record ∈ database.journal.rows) :
    record.generation < database.nextGeneration record.stackID := by
  have bounded : ∀ (values : List Nat) (value : Nat), value ∈ values →
      value ≤ values.foldr max 0 := by
    intro values value valueMember
    induction values with
    | nil => cases valueMember
    | cons head tail ih =>
        rw [List.foldr_cons]
        rcases List.mem_cons.mp valueMember with rfl | tailMember
        · exact Nat.le_max_left _ _
        · exact (ih tailMember).trans
            (Nat.le_max_right _ _)
  exact Nat.lt_succ_of_le <| bounded _ _ <| List.mem_map.mpr
    ⟨record, by simpa using member, rfl⟩

/-! ## Statements -/

theorem of_statement {env : CallEnv} {name : SqlStatement} {α : Type}
    {effect : Option α} {result : α}
    (performed : statement env name effect = .ok result) :
    effect = some result := by
  unfold statement at performed
  split at performed
  · cases performed
  · split at performed
    · cases performed
      rfl
    · cases performed

section UpsertLease

variable {database leased : StateDatabase} {env : CallEnv}
  {stackID holder : String}

theorem upsertLease_cases
    (performed : database.upsertLease env stackID holder = .ok leased) :
    ∃ locks : Table lockSchema,
      leased = { database with locks := locks } ∧
      ((∃ row ∈ database.locks.rows, row.stackID = stackID) ∧
          locks.rows = database.locks.rows.map (fun row =>
            if decide (row.stackID = stackID) then
              { row with
                holder := holder
                expiresAt := database.leaseExpiry env }
            else row) ∨
        (∀ row ∈ database.locks.rows, row.stackID ≠ stackID) ∧
          locks.rows = database.locks.rows ++
            [⟨stackID, holder, database.leaseExpiry env⟩]) := by
  obtain ⟨locks, written, result⟩ := Outcome.bind_eq_ok_iff.mp performed
  refine ⟨locks, (Outcome.pure_eq_ok_iff.mp result).symm, ?_⟩
  have effect := of_statement written
  split at effect
  · rename_i present
    exact Or.inl ⟨by simpa using present, Table.rows_of_update effect⟩
  · rename_i absent
    exact Or.inr ⟨by simpa using absent, Table.rows_of_insert effect⟩

theorem upsertLease_journal
    (performed : database.upsertLease env stackID holder = .ok leased) :
    leased.journal = database.journal := by
  obtain ⟨_, rfl, _⟩ := upsertLease_cases performed
  rfl

theorem upsertLease_lease
    (performed : database.upsertLease env stackID holder = .ok leased) :
    leased.lease stackID =
      some ⟨holder, database.leaseExpiry env⟩ := by
  obtain ⟨locks, rfl, ⟨present, rows⟩ | ⟨absent, rows⟩⟩ :=
    upsertLease_cases performed
  · obtain ⟨row, member, sameStack⟩ := present
    have sameKey : ∀ other : LockRow,
        (if decide (other.stackID = stackID) then
          { other with
            holder := holder
            expiresAt := database.leaseExpiry env }
        else other).stackID = other.stackID := by
      intro other
      split <;> rfl
    have found : ∃ other, database.locks.rows.find?
        (fun other => decide (other.stackID = stackID)) = some other := by
      rw [← Option.isSome_iff_exists, List.find?_isSome]
      exact ⟨row, member, by simpa using sameStack⟩
    obtain ⟨other, found⟩ := found
    have otherStack : other.stackID = stackID := by
      simpa using List.find?_some found
    simp only [lease, rows, List.find?_map, Function.comp_def, sameKey,
      found, Option.map_some, otherStack, decide_true, if_true]
  · have missing : database.locks.rows.find?
        (fun other => decide (other.stackID = stackID)) = none := by
      simpa using absent
    simp [lease, rows, List.find?_append, missing]

theorem upsertLease_elsewhere
    (performed : database.upsertLease env stackID holder = .ok leased) :
    SameElsewhere stackID database leased := by
  obtain ⟨locks, rfl, ⟨_, rows⟩ | ⟨_, rows⟩⟩ :=
    upsertLease_cases performed
  · refine ⟨rfl, rfl, ?_⟩
    rw [rows]
    apply Frame.filter_update
    intro row _ selected
    simpa using selected
  · refine ⟨rfl, rfl, ?_⟩
    rw [rows]
    apply Frame.filter_insert
    simp

theorem upsertLease_nextGeneration
    (performed : database.upsertLease env stackID holder = .ok leased)
    (other : String) :
    leased.nextGeneration other = database.nextGeneration other := by
  unfold nextGeneration
  rw [upsertLease_journal performed]

end UpsertLease

section DeleteLease

variable {database released : StateDatabase} {env : CallEnv}
  {stackID : String} {holder : Option String}

theorem deleteLease_cases
    (performed : database.deleteLease env stackID holder = .ok released) :
    released =
      { database with
        locks := database.locks.delete fun row =>
          decide (row.stackID = stackID ∧
            holder.all (fun wanted => decide (wanted = row.holder)) =
              true) } := by
  obtain ⟨locks, deleted, result⟩ := Outcome.bind_eq_ok_iff.mp performed
  cases of_statement deleted
  exact (Outcome.pure_eq_ok_iff.mp result).symm

theorem deleteLease_elsewhere
    (performed : database.deleteLease env stackID holder = .ok released) :
    SameElsewhere stackID database released := by
  cases deleteLease_cases performed
  refine ⟨rfl, rfl, ?_⟩
  apply Frame.filter_delete
  intro row _ selected
  have both : row.stackID = stackID ∧ _ := of_decide_eq_true selected
  simp [both.1]

end DeleteLease

section UpdateJournal

variable {database updated : StateDatabase} {env : CallEnv}
  {id step status : String} {error : Option String}

theorem updateJournal_cases
    (performed :
      database.updateJournal env id step status error = .ok updated) :
    ∃ journal : Table journalSchema,
      updated = { database with journal := journal } ∧
      journal.rows = database.journal.rows.map fun record =>
        if decide (record.id = id) then
          record.rewrite step status error env.timestamp
        else record := by
  obtain ⟨journal, written, result⟩ := Outcome.bind_eq_ok_iff.mp performed
  exact ⟨journal, (Outcome.pure_eq_ok_iff.mp result).symm,
    Table.rows_of_update (of_statement written)⟩

theorem updateJournal_rows
    (performed :
      database.updateJournal env id step status error = .ok updated) :
    updated.journal.rows = database.journal.rows.map fun record =>
      if decide (record.id = id) then
        record.rewrite step status error env.timestamp
      else record := by
  obtain ⟨_, rfl, rows⟩ := updateJournal_cases performed
  exact rows

theorem updateJournal_elsewhere {current : JournalRecord}
    (member : current ∈ database.journal.rows)
    (performed :
      database.updateJournal env current.id step status error =
        .ok updated) :
    SameElsewhere current.stackID database updated := by
  obtain ⟨journal, rfl, rows⟩ := updateJournal_cases performed
  refine ⟨rfl, ?_, rfl⟩
  rw [rows]
  apply Frame.filter_update
  intro record recordMember selected
  have sameID : record.id = current.id := by simpa using selected
  have same : record = current :=
    database.journal_id_unique recordMember member sameID
  subst same
  simp

theorem updateJournal_lease
    (performed :
      database.updateJournal env id step status error = .ok updated)
    (stackID : String) :
    updated.lease stackID = database.lease stackID := by
  obtain ⟨_, rfl, _⟩ := updateJournal_cases performed
  rfl

end UpdateJournal

section InsertJournal

variable {database inserted : StateDatabase} {env : CallEnv}
  {record : JournalRecord}

theorem insertJournal_cases
    (performed : database.insertJournal env record = .ok inserted) :
    ∃ journal : Table journalSchema,
      inserted = { database with journal := journal } ∧
      journal.rows = database.journal.rows ++ [record] := by
  obtain ⟨journal, written, result⟩ := Outcome.bind_eq_ok_iff.mp performed
  exact ⟨journal, (Outcome.pure_eq_ok_iff.mp result).symm,
    Table.rows_of_insert (of_statement written)⟩

theorem insertJournal_rows
    (performed : database.insertJournal env record = .ok inserted) :
    inserted.journal.rows = database.journal.rows ++ [record] := by
  obtain ⟨_, rfl, rows⟩ := insertJournal_cases performed
  exact rows

theorem insertJournal_elsewhere
    (performed : database.insertJournal env record = .ok inserted) :
    SameElsewhere record.stackID database inserted := by
  obtain ⟨journal, rfl, rows⟩ := insertJournal_cases performed
  refine ⟨rfl, ?_, rfl⟩
  rw [rows]
  exact Frame.filter_insert (by simp)

end InsertJournal

section Resources

variable {database changed : StateDatabase} {env : CallEnv}
  {stackID : String}

theorem deleteResources_cases
    (performed : database.deleteResources env stackID = .ok changed) :
    changed =
      { database with
        resources := database.resources.delete fun row =>
          decide (row.stackID = some stackID) } := by
  obtain ⟨resources, deleted, result⟩ :=
    Outcome.bind_eq_ok_iff.mp performed
  cases of_statement deleted
  exact (Outcome.pure_eq_ok_iff.mp result).symm

theorem deleteResources_elsewhere
    (performed : database.deleteResources env stackID = .ok changed) :
    SameElsewhere stackID database changed := by
  cases deleteResources_cases performed
  refine ⟨?_, rfl, rfl⟩
  apply Frame.filter_delete
  intro row _ selected
  simpa using selected

/-- The row `finishApply` writes for one resource. -/
def recordedRow (env : CallEnv) (stackID : String)
    (resource : StackResourceRecord) : ResourceRow where
  id := stackID ++ ":" ++ resource.kind ++ ":" ++ resource.name
  kind := resource.kind
  name := resource.name
  labels := resource.labels.set "stack_id" stackID
  state := resource.state
  updatedAt := env.timestamp

@[simp]
theorem recordedRow_stackID (env : CallEnv) (stackID : String)
    (resource : StackResourceRecord) :
    (recordedRow env stackID resource).stackID = some stackID := by
  simp [recordedRow, ResourceRow.stackID]

theorem insertResource_cases {index : Nat}
    {resource : StackResourceRecord}
    (performed :
      database.insertResource env stackID index resource = .ok changed) :
    ∃ resources : Table resourceSchema,
      changed = { database with resources := resources } ∧
      resources.rows =
        database.resources.rows ++ [recordedRow env stackID resource] := by
  obtain ⟨resources, written, result⟩ :=
    Outcome.bind_eq_ok_iff.mp performed
  exact ⟨resources, (Outcome.pure_eq_ok_iff.mp result).symm,
    Table.rows_of_insert (of_statement written)⟩

theorem insertResources_cases {index : Nat}
    {resources : List StackResourceRecord}
    (performed :
      insertResources env stackID index resources database = .ok changed) :
    ∃ table : Table resourceSchema,
      changed = { database with resources := table } ∧
      table.rows =
        database.resources.rows ++
          resources.map (recordedRow env stackID) := by
  induction resources generalizing index database with
  | nil =>
      cases performed
      exact ⟨_, rfl, by simp⟩
  | cons resource rest ih =>
      obtain ⟨inserted, first, remaining⟩ :=
        Outcome.bind_eq_ok_iff.mp performed
      obtain ⟨firstTable, rfl, firstRows⟩ := insertResource_cases first
      obtain ⟨table, rfl, rows⟩ := ih remaining
      refine ⟨table, rfl, ?_⟩
      rw [rows, firstRows]
      simp

theorem insertResources_elsewhere {index : Nat}
    {resources : List StackResourceRecord}
    (performed :
      insertResources env stackID index resources database = .ok changed) :
    SameElsewhere stackID database changed := by
  obtain ⟨table, rfl, rows⟩ := insertResources_cases performed
  refine ⟨?_, rfl, rfl⟩
  rw [rows, List.filter_append]
  have dropped : (resources.map (recordedRow env stackID)).filter
      (fun row => decide (row.stackID ≠ some stackID)) = [] := by
    rw [List.filter_eq_nil_iff]
    intro row member
    obtain ⟨resource, _, rfl⟩ := List.mem_map.mp member
    simp
  rw [dropped, List.append_nil]

end Resources

/-! ## Operations -/

theorem of_transaction_ok {env : CallEnv}
    {database after : StateDatabase} {α : Type} {result : α}
    {body : Except ReconcileDatabaseError (α × StateDatabase)}
    (performed : transaction env database body = (.ok result, after)) :
    body = .ok (result, after) := by
  unfold transaction at performed
  split at performed
  · cases performed
  · split at performed
    · cases performed
    · split at performed
      · cases performed
      · cases performed
        rfl

theorem of_transaction_error {env : CallEnv}
    {database after : StateDatabase} {α : Type}
    {failure : ReconcileDatabaseError}
    {body : Except ReconcileDatabaseError (α × StateDatabase)}
    (performed : transaction env database body = (.error failure, after)) :
    after = database := by
  unfold transaction at performed
  split at performed
  · cases performed
    rfl
  · split at performed
    · cases performed
      rfl
    · split at performed <;> cases performed
      rfl

theorem beginApply_error
    {database after : StateDatabase} {env : CallEnv}
    {stackID holder desiredHash : String} {payload : JSONValue}
    {resume : Bool} {failure : ReconcileDatabaseError}
    (performed :
      database.beginApply env stackID holder desiredHash payload resume =
        (.error failure, after)) :
    after = database :=
  of_transaction_error performed

/-- A successful `beginApply` writes the lease and then reopens the incomplete
row of the stack or, when there is none, inserts a new one. -/
theorem beginApply_cases
    {database after : StateDatabase} {env : CallEnv}
    {stackID holder desiredHash : String} {payload : JSONValue}
    {resume : Bool} {record : JournalRecord}
    (performed :
      database.beginApply env stackID holder desiredHash payload resume =
        (.ok record, after)) :
    database.refuseForeignLease env stackID holder = .ok () ∧
      ∃ leased, database.upsertLease env stackID holder = .ok leased ∧
        ((∃ current, database.incompleteJournal stackID = some current ∧
            resume = true ∧ current.desiredHash = some desiredHash ∧
            leased.updateJournal env current.id current.step "running"
              none = .ok after ∧
            after.journalForced current.id = .ok record) ∨
          (database.incompleteJournal stackID = none ∧
            leased.insertJournal env (.opened env.uuid stackID
              (leased.nextGeneration stackID) payload env.timestamp) =
                .ok after ∧
            after.journalForced env.uuid = .ok record)) := by
  have body := of_transaction_ok performed
  split at body
  · rename_i current found
    obtain ⟨_, unblocked, body⟩ := Outcome.bind_eq_ok_iff.mp body
    split at body
    · cases body
    · rename_i resuming
      split at body
      · cases body
      · rename_i sameHash
        obtain ⟨leased, leasing, body⟩ := Outcome.bind_eq_ok_iff.mp body
        obtain ⟨reopened, rewriting, body⟩ :=
          Outcome.bind_eq_ok_iff.mp body
        obtain ⟨result, reading, body⟩ := Outcome.bind_eq_ok_iff.mp body
        cases body
        exact ⟨unblocked, leased, leasing, Or.inl
          ⟨current, found, Bool.not_eq_false _ ▸ resuming,
            not_not.mp sameHash, rewriting, reading⟩⟩
  · rename_i missing
    obtain ⟨_, unblocked, body⟩ := Outcome.bind_eq_ok_iff.mp body
    obtain ⟨leased, leasing, body⟩ := Outcome.bind_eq_ok_iff.mp body
    obtain ⟨inserted, inserting, body⟩ := Outcome.bind_eq_ok_iff.mp body
    obtain ⟨result, reading, body⟩ := Outcome.bind_eq_ok_iff.mp body
    cases body
    exact ⟨unblocked, leased, leasing, Or.inr
      ⟨missing, inserting, reading⟩⟩

theorem requireApplyLease_eq_ok_iff
    {database : StateDatabase} {env : CallEnv}
    {id stackID holder : String} :
    database.requireApplyLease env id stackID holder = .ok () ↔
      (∃ current, database.incompleteJournal stackID = some current ∧
        current.id = id) ∧
      ∃ currentLease, database.lease stackID = some currentLease ∧
        currentLease.holder = holder ∧ env.now < currentLease.expiresAt := by
  unfold requireApplyLease
  cases database.incompleteJournal stackID with
  | none => simp
  | some current =>
      by_cases sameID : current.id = id
      · cases database.lease stackID with
        | none => simp [sameID]
        | some currentLease => simp [sameID]
      · simp [sameID]

theorem heartbeatApply_cases
    {database after : StateDatabase} {env : CallEnv}
    {id stackID holder : String}
    {outcome : Except ReconcileDatabaseError Unit}
    (performed :
      database.heartbeatApply env id stackID holder = (outcome, after)) :
    (∃ failure, outcome = .error failure) ∧ after = database ∨
      outcome = .ok () ∧
        database.requireApplyLease env id stackID holder = .ok () ∧
        database.upsertLease env stackID holder = .ok after := by
  unfold heartbeatApply at performed
  split at performed
  · cases performed
    exact Or.inl ⟨⟨_, rfl⟩, rfl⟩
  · rename_i required
    split at performed
    · cases performed
      exact Or.inl ⟨⟨_, rfl⟩, rfl⟩
    · rename_i renewed renewing
      cases performed
      exact Or.inr ⟨rfl, required, renewing⟩

/-- `advanceApply` fails without effect, fails after the renewal of the lease,
or renews the lease and rewrites the row. -/
theorem advanceApply_cases
    {database after : StateDatabase} {env : CallEnv}
    {id stackID holder step status : String} {error : Option String}
    {outcome : Except ReconcileDatabaseError JournalRecord}
    (performed :
      database.advanceApply env id stackID holder step status error =
        (outcome, after)) :
    (∃ failure, outcome = .error failure) ∧ after = database ∨
      database.requireApplyLease env id stackID holder = .ok () ∧
        ∃ renewed, database.upsertLease env stackID holder = .ok renewed ∧
          ((∃ failure, outcome = .error failure) ∧ after = renewed ∨
            renewed.updateJournal env id step status error = .ok after ∧
              outcome = after.journalForced id) := by
  unfold advanceApply at performed
  split at performed
  · cases performed
    exact Or.inl ⟨⟨_, rfl⟩, rfl⟩
  · rename_i required
    split at performed
    · cases performed
      exact Or.inl ⟨⟨_, rfl⟩, rfl⟩
    · rename_i renewed renewing
      split at performed
      · cases performed
        exact Or.inr ⟨required, _, renewing, Or.inl ⟨⟨_, rfl⟩, rfl⟩⟩
      · rename_i advanced rewriting
        cases performed
        exact Or.inr ⟨required, renewed, renewing, Or.inr ⟨rewriting, rfl⟩⟩

theorem finishApply_error
    {database after : StateDatabase} {env : CallEnv}
    {id stackID holder : String}
    {resources : Option (List StackResourceRecord)}
    {failure : ReconcileDatabaseError}
    (performed :
      database.finishApply env id stackID holder resources =
        (.error failure, after)) :
    after = database :=
  of_transaction_error performed

theorem finishApply_cases
    {database after : StateDatabase} {env : CallEnv}
    {id stackID holder : String}
    {resources : Option (List StackResourceRecord)}
    (performed :
      database.finishApply env id stackID holder resources =
        (.ok (), after)) :
    database.requireApplyLease env id stackID holder = .ok () ∧
      ∃ committed cleared recorded done, resources = some committed ∧
        database.deleteResources env stackID = .ok cleared ∧
        insertResources env stackID 0 committed cleared = .ok recorded ∧
        recorded.updateJournal env id "done" "done" none = .ok done ∧
        done.deleteLease env stackID (some holder) = .ok after := by
  have body := of_transaction_ok performed
  obtain ⟨_, required, body⟩ := Outcome.bind_eq_ok_iff.mp body
  obtain ⟨committed, decoding, body⟩ := Outcome.bind_eq_ok_iff.mp body
  obtain ⟨cleared, clearing, body⟩ := Outcome.bind_eq_ok_iff.mp body
  obtain ⟨recorded, recording, body⟩ := Outcome.bind_eq_ok_iff.mp body
  obtain ⟨done, rewriting, body⟩ := Outcome.bind_eq_ok_iff.mp body
  obtain ⟨released, releasing, body⟩ := Outcome.bind_eq_ok_iff.mp body
  cases body
  cases resources with
  | none => cases decoding
  | some sent =>
      cases decoding
      exact ⟨required, _, cleared, recorded, done, rfl,
        clearing, recording, rewriting, releasing⟩

/-- `abortApply` fails without effect, fails after the row was rewritten, or
rewrites the row and deletes the lease. -/
theorem abortApply_cases
    {database after : StateDatabase} {env : CallEnv}
    {stackID holder : String}
    {outcome : Except ReconcileDatabaseError JournalRecord}
    (performed :
      database.abortApply env stackID holder = (outcome, after)) :
    (∃ failure, outcome = .error failure) ∧ after = database ∨
      ∃ current aborted,
        database.incompleteJournal stackID = some current ∧
        database.refuseForeignLease env stackID holder = .ok () ∧
        database.updateJournal env current.id current.step "aborted" none =
          .ok aborted ∧
        ((∃ failure, outcome = .error failure) ∧ after = aborted ∨
          aborted.deleteLease env stackID none = .ok after ∧
            outcome = after.journalForced current.id) := by
  unfold abortApply at performed
  split at performed
  · cases performed
    exact Or.inl ⟨⟨_, rfl⟩, rfl⟩
  · rename_i current found
    split at performed
    · cases performed
      exact Or.inl ⟨⟨_, rfl⟩, rfl⟩
    · rename_i unblocked
      split at performed
      · cases performed
        exact Or.inl ⟨⟨_, rfl⟩, rfl⟩
      · rename_i aborted rewriting
        split at performed
        · cases performed
          exact Or.inr ⟨current, _, found, unblocked, rewriting,
            Or.inl ⟨⟨_, rfl⟩, rfl⟩⟩
        · rename_i released releasing
          cases performed
          exact Or.inr ⟨current, aborted, found, unblocked, rewriting,
            Or.inr ⟨releasing, rfl⟩⟩

/-! ## Operations that succeed -/

section Calm

variable {database : StateDatabase} {env : CallEnv}
  {stackID holder : String}

theorem statement_some {name : SqlStatement} {α : Type} {effect : Option α}
    {result : α} (calm : env.faults name = false)
    (performed : effect = some result) :
    statement env name effect = .ok result := by
  simp [statement, calm, performed]

theorem upsertLease_succeeds (calm : env.faults .upsertLease = false) :
    ∃ leased, database.upsertLease env stackID holder = .ok leased := by
  suffices effect : ∃ locks, (if database.locks.rows.any
      (fun row => decide (row.stackID = stackID)) then
        database.locks.update (fun row => decide (row.stackID = stackID))
          fun row => { row with
            holder := holder
            expiresAt := database.leaseExpiry env }
      else
        database.locks.insert
          ⟨stackID, holder, database.leaseExpiry env⟩) = some locks by
    obtain ⟨locks, written⟩ := effect
    exact ⟨_, Outcome.bind_eq_ok_iff.mpr
      ⟨locks, statement_some calm written, rfl⟩⟩
  rw [← Option.isSome_iff_exists]
  split
  · exact Table.write_isSome_iff.mpr <|
      UniqueKey.nodup_update database.locks.valid fun _ => rfl
  · rename_i absent
    refine Table.write_isSome_iff.mpr ?_
    refine UniqueKey.nodup_append_singleton database.locks.valid ?_
    intro other member sameKey
    exact absent <| List.any_eq_true.mpr
      ⟨other, member, decide_eq_true sameKey⟩

theorem updateJournal_succeeds {current : JournalRecord}
    {step status : String} {error : Option String}
    (calm : env.faults .updateJournal = false)
    (member : current ∈ database.journal.rows)
    (isIncomplete : current.isIncomplete = true) :
    ∃ updated, database.updateJournal env current.id step status error =
      .ok updated := by
  suffices valid : (database.journal.update
      (fun record => decide (record.id = current.id))
      (·.rewrite step status error env.timestamp)).isSome by
    obtain ⟨journal, written⟩ := Option.isSome_iff_exists.mp valid
    exact ⟨_, Outcome.bind_eq_ok_iff.mpr
      ⟨journal, statement_some calm written, rfl⟩⟩
  refine Table.write_isSome_iff.mpr ⟨?_, ?_⟩
  · exact UniqueKey.nodup_update database.journal.valid.1 fun _ => rfl
  · refine database.journal.valid.2.sublist
      (UniqueKey.filter_update_sublist (fun _ _ _ => rfl) ?_)
    intro record recordMember selected _
    have same : record = current :=
      database.journal_id_unique recordMember member
        (of_decide_eq_true selected)
    exact same ▸ isIncomplete

theorem journalForced_succeeds {record : JournalRecord}
    (member : record ∈ database.journal.rows) :
    database.journalForced record.id = .ok record := by
  have found : database.journalByID record.id = some record :=
    (UniqueKey.find?_eq_some_iff database.journal.valid.1).mpr
      ⟨member, rfl⟩
  simp [journalForced, found]

theorem mem_of_updateJournal {updated : StateDatabase}
    {current : JournalRecord} {step status : String} {error : Option String}
    (member : current ∈ database.journal.rows)
    (performed :
      database.updateJournal env current.id step status error =
        .ok updated) :
    current.rewrite step status error env.timestamp ∈
      updated.journal.rows := by
  rw [updateJournal_rows performed]
  exact List.mem_map.mpr ⟨current, member, by simp⟩

/-- Whoever the lease does not block can reopen the incomplete row with its
own hash. -/
theorem beginApply_reopens {current : JournalRecord} {desiredHash : String}
    (calm : ∀ name, env.faults name = false)
    (found : database.incompleteJournal stackID = some current)
    (sameHash : current.desiredHash = some desiredHash)
    (payload : JSONValue)
    (unblocked : database.refuseForeignLease env stackID holder = .ok ()) :
    ∃ after,
      database.beginApply env stackID holder desiredHash payload true =
        (.ok (current.rewrite current.step "running" none env.timestamp),
          after) := by
  obtain ⟨member, _, isIncomplete⟩ := incompleteJournal_some found
  obtain ⟨leased, leasing⟩ :
      ∃ leased, database.upsertLease env stackID holder = .ok leased :=
    upsertLease_succeeds (calm .upsertLease)
  have leasedMember : current ∈ leased.journal.rows :=
    upsertLease_journal leasing ▸ member
  obtain ⟨reopened, rewriting⟩ : ∃ reopened,
      leased.updateJournal env current.id current.step "running" none =
        .ok reopened :=
    updateJournal_succeeds (calm .updateJournal) leasedMember isIncomplete
  have reading := journalForced_succeeds
    (mem_of_updateJournal leasedMember rewriting)
  rw [JournalRecord.rewrite_id] at reading
  refine ⟨reopened, ?_⟩
  simp [beginApply, transaction, calm, found, unblocked, sameHash, leasing,
    rewriting, reading, bind, Except.bind, pure, Except.pure]

theorem abortApply_succeeds {current : JournalRecord}
    (calm : ∀ name, env.faults name = false)
    (found : database.incompleteJournal stackID = some current)
    (unblocked : database.refuseForeignLease env stackID holder = .ok ()) :
    ∃ after, database.abortApply env stackID holder =
      (.ok (current.rewrite current.step "aborted" none env.timestamp),
        after) := by
  obtain ⟨member, _, isIncomplete⟩ := incompleteJournal_some found
  obtain ⟨aborted, rewriting⟩ : ∃ aborted,
      database.updateJournal env current.id current.step "aborted" none =
        .ok aborted :=
    updateJournal_succeeds (calm .updateJournal) member isIncomplete
  have abortedMember := mem_of_updateJournal member rewriting
  obtain ⟨released, releasing⟩ : ∃ released,
      aborted.deleteLease env stackID none = .ok released :=
    ⟨_, Outcome.bind_eq_ok_iff.mpr
      ⟨_, statement_some (calm .deleteLease) rfl, rfl⟩⟩
  have sameJournal : released.journal = aborted.journal := by
    cases deleteLease_cases releasing
    rfl
  rw [← sameJournal] at abortedMember
  have reading := journalForced_succeeds abortedMember
  rw [JournalRecord.rewrite_id] at reading
  refine ⟨released, ?_⟩
  simp only [abortApply, found, unblocked, rewriting, releasing, reading]

end Calm

end StateDatabase

end Vzctl
