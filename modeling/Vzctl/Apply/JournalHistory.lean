import Vzctl.Apply.Operations
import Vzctl.Lib.Transition

/-!
# The history of the apply journal

Calls of any holders against any stacks form one transition system.  Every
call changes the journal in one of three ways (`JournalChange`), and the
history of the journal follows from these three ways alone.
-/

namespace Vzctl

open Transitions

/-! ## Calls -/

inductive ApplyCall where
  | beginApply (stackID holder desiredHash : String)
      (payload : JSONValue) (resume : Bool)
  | heartbeatApply (id stackID holder : String)
  | advanceApply (id stackID holder step status : String)
      (error : Option String)
  | finishApply (id stackID holder : String)
      (resources : Option (List StackResourceRecord))
  | abortApply (stackID holder : String)

namespace ApplyCall

def stackID : ApplyCall → String
  | .beginApply stackID _ _ _ _ => stackID
  | .heartbeatApply _ stackID _ => stackID
  | .advanceApply _ stackID _ _ _ _ => stackID
  | .finishApply _ stackID _ _ => stackID
  | .abortApply stackID _ => stackID

def holder : ApplyCall → String
  | .beginApply _ holder _ _ _ => holder
  | .heartbeatApply _ _ holder => holder
  | .advanceApply _ _ holder _ _ _ => holder
  | .finishApply _ _ holder _ => holder
  | .abortApply _ holder => holder

/-- The outcome of a call, with the journal row it returns, and the database
it leaves behind. -/
def perform (database : StateDatabase) (env : CallEnv) :
    ApplyCall →
      Except ReconcileDatabaseError (Option JournalRecord) × StateDatabase
  | .beginApply stackID holder desiredHash payload resume =>
      (database.beginApply env stackID holder desiredHash payload resume).map
        (·.map some) (·)
  | .heartbeatApply id stackID holder =>
      (database.heartbeatApply env id stackID holder).map
        (·.map fun _ => none) (·)
  | .advanceApply id stackID holder step status error =>
      (database.advanceApply env id stackID holder step status error).map
        (·.map some) (·)
  | .finishApply id stackID holder resources =>
      (database.finishApply env id stackID holder resources).map
        (·.map fun _ => none) (·)
  | .abortApply stackID holder =>
      (database.abortApply env stackID holder).map (·.map some) (·)

def after (database : StateDatabase) (label : CallEnv × ApplyCall) :
    StateDatabase :=
  (label.2.perform database label.1).2

/-- One call, in any surroundings, successful or failed. -/
def step : StateDatabase → CallEnv × ApplyCall → StateDatabase → Prop :=
  ofFunction after

end ApplyCall

/-! ## What one call does to the journal -/

/-- The journal is kept, the incomplete row of the stack is rewritten, or a
begin appends a row of the next generation to a stack without incomplete
row. -/
inductive JournalChange (call : ApplyCall)
    (before after : StateDatabase) : Prop where
  | kept (rows : after.journal.rows = before.journal.rows)
  | rewritten (current : JournalRecord)
      (step status : String) (error : Option String) (updatedAt : String)
      (found : before.incompleteJournal call.stackID = some current)
      (rows : after.journal.rows = before.journal.rows.map fun record =>
        if decide (record.id = current.id) then
          record.rewrite step status error updatedAt
        else record)
  | opened (stackID holder desiredHash : String) (payload : JSONValue)
      (resume : Bool) (id now : String)
      (begins :
        call = .beginApply stackID holder desiredHash payload resume)
      (missing : before.incompleteJournal stackID = none)
      (rows : after.journal.rows = before.journal.rows ++
        [.opened id stackID (before.nextGeneration stackID) payload now])

namespace StateDatabase

variable {database after : StateDatabase} {env : CallEnv}
  {id stackID holder : String}

theorem beginApply_change {desiredHash : String} {payload : JSONValue}
    {resume : Bool} {outcome : Except ReconcileDatabaseError JournalRecord}
    (performed :
      database.beginApply env stackID holder desiredHash payload resume =
        (outcome, after)) :
    JournalChange (.beginApply stackID holder desiredHash payload resume)
        database after ∧
      SameElsewhere stackID database after := by
  cases outcome with
  | error failure =>
      cases beginApply_error performed
      exact ⟨.kept rfl, .refl _ _⟩
  | ok record =>
      obtain ⟨_, leased, leasing, reopening | opening⟩ :=
        beginApply_cases performed
      · obtain ⟨current, found, _, _, rewriting, _⟩ := reopening
        have rows := updateJournal_rows rewriting
        obtain ⟨member, sameStack, _⟩ := incompleteJournal_some found
        rw [upsertLease_journal leasing] at rows
        subst sameStack
        constructor
        · exact .rewritten current _ _ _ _ found rows
        · exact (upsertLease_elsewhere leasing).trans
            (updateJournal_elsewhere
              (upsertLease_journal leasing ▸ member) rewriting)
      · obtain ⟨missing, inserting, _⟩ := opening
        have rows := insertJournal_rows inserting
        rw [upsertLease_journal leasing,
          upsertLease_nextGeneration leasing] at rows
        constructor
        · exact .opened _ _ _ _ _ _ _ rfl missing rows
        · exact (upsertLease_elsewhere leasing).trans
            (insertJournal_elsewhere inserting)

theorem heartbeatApply_change
    {outcome : Except ReconcileDatabaseError Unit}
    (performed :
      database.heartbeatApply env id stackID holder = (outcome, after)) :
    JournalChange (.heartbeatApply id stackID holder) database after ∧
      SameElsewhere stackID database after := by
  rcases heartbeatApply_cases performed with
    ⟨_, rfl⟩ | ⟨_, _, renewing⟩
  · exact ⟨.kept rfl, .refl _ _⟩
  · exact ⟨.kept (by rw [upsertLease_journal renewing]),
      upsertLease_elsewhere renewing⟩

theorem advanceApply_change {step status : String} {error : Option String}
    {outcome : Except ReconcileDatabaseError JournalRecord}
    (performed :
      database.advanceApply env id stackID holder step status error =
        (outcome, after)) :
    JournalChange (.advanceApply id stackID holder step status error)
        database after ∧
      SameElsewhere stackID database after := by
  rcases advanceApply_cases performed with
    ⟨_, rfl⟩ | ⟨required, renewed, renewing, ⟨_, rfl⟩ | ⟨rewriting, _⟩⟩
  · exact ⟨.kept rfl, .refl _ _⟩
  · exact ⟨.kept (by rw [upsertLease_journal renewing]),
      upsertLease_elsewhere renewing⟩
  · obtain ⟨⟨current, found, rfl⟩, _⟩ :=
      requireApplyLease_eq_ok_iff.mp required
    have rows := updateJournal_rows rewriting
    obtain ⟨member, sameStack, _⟩ := incompleteJournal_some found
    rw [upsertLease_journal renewing] at rows
    subst sameStack
    constructor
    · exact .rewritten current _ _ _ _ found rows
    · exact (upsertLease_elsewhere renewing).trans
        (updateJournal_elsewhere
          (upsertLease_journal renewing ▸ member) rewriting)

theorem finishApply_change
    {resources : Option (List StackResourceRecord)}
    {outcome : Except ReconcileDatabaseError Unit}
    (performed :
      database.finishApply env id stackID holder resources =
        (outcome, after)) :
    JournalChange (.finishApply id stackID holder resources)
        database after ∧
      SameElsewhere stackID database after := by
  cases outcome with
  | error failure =>
      cases finishApply_error performed
      exact ⟨.kept rfl, .refl _ _⟩
  | ok result =>
      obtain ⟨required, committed, cleared, recorded, done, _, clearing,
        recording, rewriting, releasing⟩ := finishApply_cases performed
      obtain ⟨⟨current, found, rfl⟩, _⟩ :=
        requireApplyLease_eq_ok_iff.mp required
      obtain ⟨member, sameStack, _⟩ := incompleteJournal_some found
      have sameJournal : recorded.journal = database.journal := by
        obtain ⟨_, rfl, _⟩ := insertResources_cases recording
        cases deleteResources_cases clearing
        rfl
      have rows := updateJournal_rows rewriting
      rw [sameJournal] at rows
      subst sameStack
      constructor
      · cases deleteLease_cases releasing
        exact .rewritten current _ _ _ _ found rows
      · exact (deleteResources_elsewhere clearing).trans <|
          (insertResources_elsewhere recording).trans <|
          (updateJournal_elsewhere (sameJournal ▸ member) rewriting).trans
            (deleteLease_elsewhere releasing)

theorem abortApply_change
    {outcome : Except ReconcileDatabaseError JournalRecord}
    (performed :
      database.abortApply env stackID holder = (outcome, after)) :
    JournalChange (.abortApply stackID holder) database after ∧
      SameElsewhere stackID database after := by
  rcases abortApply_cases performed with
    ⟨_, rfl⟩ | ⟨current, aborted, found, _, rewriting, ending⟩
  · exact ⟨.kept rfl, .refl _ _⟩
  · obtain ⟨member, sameStack, _⟩ := incompleteJournal_some found
    have rows := updateJournal_rows rewriting
    subst sameStack
    have rowChange : JournalChange (.abortApply current.stackID holder)
        database aborted :=
      .rewritten current _ _ _ _ found rows
    have rowFrame : SameElsewhere current.stackID database aborted :=
      updateJournal_elsewhere member rewriting
    rcases ending with ⟨_, rfl⟩ | ⟨releasing, _⟩
    · exact ⟨rowChange, rowFrame⟩
    · constructor
      · cases deleteLease_cases releasing
        exact .rewritten current _ _ _ _ found rows
      · exact rowFrame.trans (deleteLease_elsewhere releasing)

end StateDatabase

namespace ApplyCall

/-- Every call changes the journal in one of the three ways, and only rows of
its own stack. -/
theorem perform_change (call : ApplyCall) (database : StateDatabase)
    (env : CallEnv) :
    JournalChange call database (call.perform database env).2 ∧
      StateDatabase.SameElsewhere call.stackID database
        (call.perform database env).2 := by
  cases call with
  | beginApply stackID holder desiredHash payload resume =>
      exact StateDatabase.beginApply_change rfl
  | heartbeatApply id stackID holder =>
      exact StateDatabase.heartbeatApply_change rfl
  | advanceApply id stackID holder step status error =>
      exact StateDatabase.advanceApply_change rfl
  | finishApply id stackID holder resources =>
      exact StateDatabase.finishApply_change rfl
  | abortApply stackID holder =>
      exact StateDatabase.abortApply_change rfl

end ApplyCall

/-! ## History -/

namespace JournalRecord

/-- What no call ever changes in a row. -/
def identity (record : JournalRecord) : String × String × Nat × JSONValue :=
  (record.id, record.stackID, record.generation, record.payload)

theorem identity_rewrite_if (record : JournalRecord) (condition : Bool)
    (step status : String) (error : Option String) (updatedAt : String) :
    (if condition then record.rewrite step status error updatedAt
      else record).identity = record.identity := by
  cases condition <;> rfl

end JournalRecord

/-- The rows are in creation order; in each stack the generations increase. -/
def Chronological (rows : List JournalRecord) : Prop :=
  rows.Pairwise fun earlier later =>
    earlier.stackID = later.stackID → earlier.generation < later.generation

/-- The later journal keeps the rows of the earlier one in their places, and
the completed rows as they are. -/
structure JournalExtends (earlier later : List JournalRecord) : Prop where
  identities :
    earlier.map JournalRecord.identity <+: later.map JournalRecord.identity
  completed :
    ∀ record ∈ earlier, record.isIncomplete = false → record ∈ later

namespace JournalExtends

theorem refl (rows : List JournalRecord) : JournalExtends rows rows :=
  ⟨List.prefix_rfl, fun _ member _ => member⟩

theorem trans {first second third : List JournalRecord}
    (earlier : JournalExtends first second)
    (later : JournalExtends second third) :
    JournalExtends first third where
  identities := earlier.identities.trans later.identities
  completed record member isComplete :=
    later.completed record (earlier.completed record member isComplete)
      isComplete

end JournalExtends

namespace JournalChange

variable {call : ApplyCall} {before after : StateDatabase}

theorem chronological
    (change : JournalChange call before after)
    (ordered : Chronological before.journal.rows) :
    Chronological after.journal.rows := by
  cases change with
  | kept rows => exact rows ▸ ordered
  | rewritten current step status error updatedAt found rows =>
      rw [rows]
      refine List.pairwise_map.mpr (ordered.imp ?_)
      intro earlier later increasing sameStack
      have earlierSame := JournalRecord.identity_rewrite_if earlier
        (decide (earlier.id = current.id)) step status error updatedAt
      have laterSame := JournalRecord.identity_rewrite_if later
        (decide (later.id = current.id)) step status error updatedAt
      simp only [JournalRecord.identity, Prod.mk.injEq]
        at earlierSame laterSame
      rw [earlierSame.2.1, laterSame.2.1] at sameStack
      rw [earlierSame.2.2.1, laterSame.2.2.1]
      exact increasing sameStack
  | opened stackID holder desiredHash payload resume id now begins missing
      rows =>
      rw [rows]
      refine List.pairwise_append.mpr
        ⟨ordered, List.pairwise_singleton _ _, ?_⟩
      intro earlier member later laterMember sameStack
      cases List.mem_singleton.mp laterMember
      have earlierStack : earlier.stackID = stackID := sameStack
      subst earlierStack
      exact StateDatabase.lt_nextGeneration member

theorem extends_journal
    (change : JournalChange call before after) :
    JournalExtends before.journal.rows after.journal.rows := by
  cases change with
  | kept rows => exact rows ▸ .refl _
  | rewritten current step status error updatedAt found rows =>
      rw [rows]
      constructor
      · rw [List.map_map]
        have same : before.journal.rows.map JournalRecord.identity =
            before.journal.rows.map (JournalRecord.identity ∘ fun record =>
              if decide (record.id = current.id) then
                record.rewrite step status error updatedAt
              else record) :=
          List.map_congr_left fun record _ =>
            (record.identity_rewrite_if _ _ _ _ _).symm
        exact same ▸ List.prefix_rfl
      · intro record member isComplete
        obtain ⟨currentMember, _, isIncomplete⟩ :=
          StateDatabase.incompleteJournal_some found
        have different : record.id ≠ current.id := by
          intro sameID
          have same : record = current :=
            before.journal_id_unique member currentMember sameID
          rw [same, isIncomplete] at isComplete
          cases isComplete
        exact List.mem_map.mpr ⟨record, member, by simp [different]⟩
  | opened stackID holder desiredHash payload resume id now begins missing
      rows =>
      rw [rows]
      constructor
      · rw [List.map_append]
        exact List.prefix_append _ _
      · intro record member _
        exact List.mem_append_left _ member

end JournalChange

theorem chronological_of_runs {before after : StateDatabase}
    (run : Runs ApplyCall.step before after)
    (ordered : Chronological before.journal.rows) :
    Chronological after.journal.rows := by
  refine invariant_of_runs
    (fun database => Chronological database.journal.rows) ?_ ordered run
  rintro database ⟨env, call⟩ _ current rfl
  exact (call.perform_change database env).1.chronological current

theorem journalExtends_of_runs {before after : StateDatabase}
    (run : Runs ApplyCall.step before after) :
    JournalExtends before.journal.rows after.journal.rows := by
  refine relation_of_runs (fun _ => True)
    (fun earlier later =>
      JournalExtends earlier.journal.rows later.journal.rows)
    (fun _ => .refl _) (fun _ _ _ => .trans)
    (fun _ _ _ _ _ => trivial) ?_ trivial run
  rintro database ⟨env, call⟩ _ _ rfl
  exact (call.perform_change database env).1.extends_journal

theorem Chronological.eq_of_generation_eq {rows : List JournalRecord}
    (ordered : Chronological rows) {left right : JournalRecord}
    (leftMember : left ∈ rows) (rightMember : right ∈ rows)
    (sameStack : left.stackID = right.stackID)
    (sameGeneration : left.generation = right.generation) :
    left = right := by
  induction rows with
  | nil => cases leftMember
  | cons head tail ih =>
      obtain ⟨headBefore, tailOrdered⟩ := List.pairwise_cons.mp ordered
      rcases List.mem_cons.mp leftMember with rfl | leftTail
      · rcases List.mem_cons.mp rightMember with rfl | rightTail
        · rfl
        · have increasing := headBefore right rightTail sameStack
          omega
      · rcases List.mem_cons.mp rightMember with rfl | rightTail
        · have increasing := headBefore left leftTail sameStack.symm
          omega
        · exact ih tailOrdered leftTail rightTail

theorem JournalExtends.identity_eq_of_generation_eq
    {earlier later : List JournalRecord}
    (extended : JournalExtends earlier later)
    (ordered : Chronological later)
    {old record : JournalRecord}
    (oldMember : old ∈ earlier) (member : record ∈ later)
    (sameStack : old.stackID = record.stackID)
    (sameGeneration : old.generation = record.generation) :
    old.identity = record.identity := by
  have kept : old.identity ∈ later.map JournalRecord.identity :=
    extended.identities.subset (List.mem_map_of_mem oldMember)
  obtain ⟨current, currentMember, sameIdentity⟩ := List.mem_map.mp kept
  have parts := sameIdentity
  simp only [JournalRecord.identity, Prod.mk.injEq] at parts
  obtain ⟨_, currentStack, currentGeneration, _⟩ := parts
  have same : current = record :=
    ordered.eq_of_generation_eq currentMember member
      (currentStack.trans sameStack)
      (currentGeneration.trans sameGeneration)
  exact same ▸ sameIdentity.symm

theorem StateDatabase.length_incomplete_le_one (database : StateDatabase)
    (stackID : String) :
    (database.journal.rows.filter fun record =>
      record.stackID = stackID ∧ record.isIncomplete).length ≤ 1 := by
  have selected : database.journal.rows.filter (fun record =>
        decide (record.stackID = stackID ∧ record.isIncomplete = true)) =
      (database.journal.rows.filter JournalRecord.isIncomplete).filter
        fun record => decide (record.stackID = stackID) := by
    rw [List.filter_filter]
    apply List.filter_congr
    intro record _
    cases record.isIncomplete <;> simp
  rw [selected]
  exact UniqueKey.length_filter_le_one database.journal.valid.2 stackID

theorem StateDatabase.journalByID_eq_some (database : StateDatabase)
    {record : JournalRecord} (member : record ∈ database.journal.rows) :
    database.journalByID record.id = some record :=
  (UniqueKey.find?_eq_some_iff database.journal.valid.1).mpr
    ⟨member, rfl⟩

/-- Surroundings in which every statement succeeds. -/
def calmEnv (now : Nat) (uuid : String) : CallEnv where
  now := now
  processIsAlive := fun _ => true
  uuid := uuid
  timestamp := "2026-01-01T00:00:00Z"

end Vzctl
