import Vzctl.Apply.JournalHistory

/-!
# The apply lease

The lease of a stack fences its holder: the calls that change a running
operation demand the recorded, unexpired lease, and the lease row itself moves
only as `LeaseChange` says.  A holder that lost the lease therefore stays
without effect until it begins again.
-/

namespace Vzctl

open Transitions

namespace StateDatabase

/-- `holder` is the recorded holder of an unexpired lease of the stack. -/
def HoldsLease (database : StateDatabase) (now : Nat)
    (stackID holder : String) : Prop :=
  ∃ lease, database.lease stackID = some lease ∧
    lease.holder = holder ∧ now < lease.expiresAt

/-- Another holder has an unexpired lease and its process is alive. -/
def HeldByOther (database : StateDatabase) (env : CallEnv)
    (stackID holder : String) : Prop :=
  ∃ lease, database.lease stackID = some lease ∧
    lease.holder ≠ holder ∧ env.now < lease.expiresAt ∧
    holderIsAlive env lease.holder = true

/-- The lease of the stack, if any, is another holder's. -/
def Superseded (database : StateDatabase)
    (stackID holder : String) : Prop :=
  ∀ lease, database.lease stackID = some lease → lease.holder ≠ holder

variable {database after : StateDatabase} {env : CallEnv}
  {id stackID holder : String}

theorem lease_eq_some_iff {lease : LeaseRecord} :
    database.lease stackID = some lease ↔
      ⟨stackID, lease.holder, lease.expiresAt⟩ ∈ database.locks.rows := by
  have lookup : ∀ row : LockRow, database.locks.rows.find?
      (fun row => decide (row.stackID = stackID)) = some row ↔
        row ∈ database.locks.rows ∧ row.stackID = stackID :=
    fun row => UniqueKey.find?_eq_some_iff database.locks.valid
  constructor
  · intro found
    obtain ⟨row, rowFound, rfl⟩ := Option.map_eq_some_iff.mp found
    obtain ⟨member, rfl⟩ := (lookup row).mp rowFound
    exact member
  · intro member
    exact Option.map_eq_some_iff.mpr
      ⟨_, (lookup _).mpr ⟨member, rfl⟩, rfl⟩

theorem refuseForeignLease_eq_ok_iff :
    database.refuseForeignLease env stackID holder = .ok () ↔
      ¬ database.HeldByOther env stackID holder := by
  unfold refuseForeignLease HeldByOther
  cases database.lease stackID with
  | none => simp
  | some current =>
      by_cases blocks : leaseBlocks env current holder = true
      · have parts := blocks
        simp only [leaseBlocks, Bool.and_eq_true, decide_eq_true_eq,
          and_assoc] at parts
        simpa [blocks] using parts
      · have parts := blocks
        simp only [leaseBlocks, Bool.and_eq_true, decide_eq_true_eq,
          and_assoc] at parts
        simpa [blocks] using parts

theorem holdsLease_of_requireApplyLease
    (required :
      database.requireApplyLease env id stackID holder = .ok ()) :
    database.HoldsLease env.now stackID holder :=
  (requireApplyLease_eq_ok_iff.mp required).2

theorem HoldsLease.not_superseded {now : Nat}
    (held : database.HoldsLease now stackID holder) :
    ¬ database.Superseded stackID holder := by
  intro superseded
  obtain ⟨lease, found, sameHolder, _⟩ := held
  exact superseded lease found sameHolder

end StateDatabase

/-! ## What one call does to the lease of its stack -/

namespace ApplyCall

/-- The journal row that a call names. -/
def namedRow : ApplyCall → Option String
  | .heartbeatApply id _ _ => some id
  | .advanceApply id _ _ _ _ _ => some id
  | .finishApply id _ _ _ => some id
  | .beginApply _ _ _ _ _ => none
  | .abortApply _ _ => none

def isBegin : ApplyCall → Bool
  | .beginApply _ _ _ _ _ => true
  | _ => false

def Succeeds (call : ApplyCall) (database : StateDatabase)
    (env : CallEnv) : Prop :=
  ∃ result, (call.perform database env).1 = .ok result

/-- The call fails and leaves every row as it was. -/
def Refused (call : ApplyCall) (database : StateDatabase)
    (env : CallEnv) : Prop :=
  (∃ failure, (call.perform database env).1 = .error failure) ∧
    (call.perform database env).2 = database

end ApplyCall

/-- The lease is kept or dropped, taken by a begin that no other holder
blocks, or renewed by the holder that has it. -/
inductive LeaseChange (call : ApplyCall) (env : CallEnv)
    (before after : StateDatabase) : Prop where
  | shrunk (kept : ∀ lease, after.lease call.stackID = some lease →
      before.lease call.stackID = some lease)
  | taken (isBegin : call.isBegin = true)
      (free : ¬ before.HeldByOther env call.stackID call.holder)
      (lease : after.lease call.stackID =
        some ⟨call.holder, before.leaseExpiry env⟩)
  | renewed (held : before.HoldsLease env.now call.stackID call.holder)
      (lease : after.lease call.stackID =
        some ⟨call.holder, before.leaseExpiry env⟩)

namespace StateDatabase

variable {database after : StateDatabase} {env : CallEnv}
  {id stackID holder : String}

theorem lease_of_deleteLease {released : Option String}
    (performed : database.deleteLease env stackID released = .ok after)
    {other : String} {lease : LeaseRecord}
    (found : after.lease other = some lease) :
    database.lease other = some lease := by
  cases deleteLease_cases performed
  rw [lease_eq_some_iff] at found ⊢
  exact (List.mem_filter.mp found).1

theorem beginApply_lease {desiredHash : String} {payload : JSONValue}
    {resume : Bool} {record : JournalRecord}
    (performed :
      database.beginApply env stackID holder desiredHash payload resume =
        (.ok record, after)) :
    after.lease stackID = some ⟨holder, database.leaseExpiry env⟩ := by
  obtain ⟨_, leased, leasing, change⟩ := beginApply_cases performed
  rw [← upsertLease_lease leasing]
  rcases change with ⟨_, _, _, _, rewriting, _⟩ | ⟨_, inserting, _⟩
  · exact updateJournal_lease rewriting stackID
  · obtain ⟨_, rfl, _⟩ := insertJournal_cases inserting
    rfl

theorem beginApply_leaseChange {desiredHash : String}
    {payload : JSONValue} {resume : Bool}
    {outcome : Except ReconcileDatabaseError JournalRecord}
    (performed :
      database.beginApply env stackID holder desiredHash payload resume =
        (outcome, after)) :
    LeaseChange (.beginApply stackID holder desiredHash payload resume)
      env database after := by
  cases outcome with
  | error failure =>
      cases beginApply_error performed
      exact .shrunk fun _ found => found
  | ok record =>
      have unblocked := (beginApply_cases performed).1
      exact .taken rfl (refuseForeignLease_eq_ok_iff.mp unblocked)
        (beginApply_lease performed)

theorem heartbeatApply_leaseChange
    {outcome : Except ReconcileDatabaseError Unit}
    (performed :
      database.heartbeatApply env id stackID holder = (outcome, after)) :
    LeaseChange (.heartbeatApply id stackID holder) env database after := by
  rcases heartbeatApply_cases performed with
    ⟨_, rfl⟩ | ⟨_, required, renewing⟩
  · exact .shrunk fun _ found => found
  · exact .renewed (holdsLease_of_requireApplyLease required)
      (upsertLease_lease renewing)

theorem advanceApply_leaseChange
    {step status : String} {error : Option String}
    {outcome : Except ReconcileDatabaseError JournalRecord}
    (performed :
      database.advanceApply env id stackID holder step status error =
        (outcome, after)) :
    LeaseChange (.advanceApply id stackID holder step status error)
      env database after := by
  rcases advanceApply_cases performed with
    ⟨_, rfl⟩ | ⟨required, renewed, renewing, ⟨_, rfl⟩ | ⟨rewriting, _⟩⟩
  · exact .shrunk fun _ found => found
  · exact .renewed (holdsLease_of_requireApplyLease required)
      (upsertLease_lease renewing)
  · exact .renewed (holdsLease_of_requireApplyLease required)
      ((updateJournal_lease rewriting stackID).trans
        (upsertLease_lease renewing))

theorem finishApply_leaseChange
    {resources : Option (List StackResourceRecord)}
    {outcome : Except ReconcileDatabaseError Unit}
    (performed :
      database.finishApply env id stackID holder resources =
        (outcome, after)) :
    LeaseChange (.finishApply id stackID holder resources)
      env database after := by
  cases outcome with
  | error failure =>
      cases finishApply_error performed
      exact .shrunk fun _ found => found
  | ok result =>
      obtain ⟨_, committed, cleared, recorded, done, _, clearing,
        recording, rewriting, releasing⟩ := finishApply_cases performed
      refine .shrunk fun lease found => ?_
      have beforeRelease := lease_of_deleteLease releasing found
      obtain ⟨_, rfl, _⟩ := updateJournal_cases rewriting
      obtain ⟨_, rfl, _⟩ := insertResources_cases recording
      cases deleteResources_cases clearing
      exact beforeRelease

theorem abortApply_leaseChange
    {outcome : Except ReconcileDatabaseError JournalRecord}
    (performed :
      database.abortApply env stackID holder = (outcome, after)) :
    LeaseChange (.abortApply stackID holder) env database after := by
  rcases abortApply_cases performed with
    ⟨_, rfl⟩ | ⟨current, aborted, _, _, rewriting, ending⟩
  · exact .shrunk fun _ found => found
  · obtain ⟨_, rfl, _⟩ := updateJournal_cases rewriting
    rcases ending with ⟨_, rfl⟩ | ⟨releasing, _⟩
    · exact .shrunk fun _ found => found
    · exact .shrunk fun _ found => lease_of_deleteLease releasing found

end StateDatabase

namespace ApplyCall

open StateDatabase

theorem perform_leaseChange (call : ApplyCall) (database : StateDatabase)
    (env : CallEnv) :
    LeaseChange call env database (call.perform database env).2 := by
  cases call with
  | beginApply stackID holder desiredHash payload resume =>
      exact beginApply_leaseChange rfl
  | heartbeatApply id stackID holder =>
      exact heartbeatApply_leaseChange rfl
  | advanceApply id stackID holder step status error =>
      exact advanceApply_leaseChange rfl
  | finishApply id stackID holder resources =>
      exact finishApply_leaseChange rfl
  | abortApply stackID holder =>
      exact abortApply_leaseChange rfl

theorem superseded_step (call : ApplyCall) {database : StateDatabase}
    (env : CallEnv) {stackID holder : String}
    (superseded : database.Superseded stackID holder)
    (notAgain : ¬ (call.isBegin = true ∧ call.stackID = stackID ∧
      call.holder = holder)) :
    (call.perform database env).2.Superseded stackID holder := by
  by_cases sameStack : call.stackID = stackID
  · subst sameStack
    cases call.perform_leaseChange database env with
    | shrunk kept =>
        intro lease found
        exact superseded lease (kept lease found)
    | taken isBegin free written =>
        intro lease found
        rw [written] at found
        cases found
        exact fun sameHolder => notAgain ⟨isBegin, rfl, sameHolder⟩
    | renewed held written =>
        intro lease found
        rw [written] at found
        cases found
        intro sameHolder
        have same : call.holder = holder := sameHolder
        exact held.not_superseded (same ▸ superseded)
  · have same := (call.perform_change database env).2.lease
      (Ne.symm sameStack)
    intro lease found
    exact superseded lease (same ▸ found)

theorem superseded_of_runs {before after : StateDatabase}
    {stackID holder : String}
    (run : Runs (guarded (fun _ label => ¬ (label.2.isBegin = true ∧
      label.2.stackID = stackID ∧ label.2.holder = holder)) step)
      before after)
    (superseded : before.Superseded stackID holder) :
    after.Superseded stackID holder := by
  refine invariant_of_runs
    (fun database => database.Superseded stackID holder) ?_ superseded run
  rintro database ⟨env, call⟩ _ current ⟨notAgain, rfl⟩
  exact call.superseded_step env current notAgain

/-! ## Which calls succeed -/

variable {database : StateDatabase} {env : CallEnv} {call : ApplyCall}

/-- A call that names a row succeeds only for the holder of the lease, and
only on the incomplete row of the stack. -/
theorem holdsLease_of_succeeds {id : String}
    (named : call.namedRow = some id)
    (succeeds : call.Succeeds database env) :
    database.HoldsLease env.now call.stackID call.holder ∧
      ∃ current, database.incompleteJournal call.stackID = some current ∧
        current.id = id := by
  obtain ⟨result, succeeds⟩ := succeeds
  suffices required : database.requireApplyLease env id call.stackID
      call.holder = .ok () from
    (requireApplyLease_eq_ok_iff.mp required).symm
  cases call with
  | beginApply stackID holder desiredHash payload resume => cases named
  | abortApply stackID holder => cases named
  | heartbeatApply row stackID holder =>
      cases named
      rcases performed : database.heartbeatApply env id stackID holder with
        ⟨outcome, after⟩
      rcases heartbeatApply_cases performed with
        ⟨⟨failure, rfl⟩, _⟩ | ⟨_, required, _⟩
      · simp [perform, performed, Except.map] at succeeds
      · exact required
  | advanceApply row stackID holder step status error =>
      cases named
      rcases performed : database.advanceApply env id stackID holder step
        status error with ⟨outcome, after⟩
      rcases advanceApply_cases performed with
        ⟨⟨failure, rfl⟩, _⟩ | ⟨required, _⟩
      · simp [perform, performed, Except.map] at succeeds
      · exact required
  | finishApply row stackID holder resources =>
      cases named
      rcases performed : database.finishApply env id stackID holder
        resources with ⟨outcome, after⟩
      cases outcome with
      | error failure => simp [perform, performed, Except.map] at succeeds
      | ok done => exact (finishApply_cases performed).1

theorem refused_of_not_holdsLease {id : String}
    (named : call.namedRow = some id)
    (notHeld : ¬ database.HoldsLease env.now call.stackID call.holder) :
    call.Refused database env := by
  cases call with
  | beginApply stackID holder desiredHash payload resume => cases named
  | abortApply stackID holder => cases named
  | heartbeatApply row stackID holder =>
      rcases performed : database.heartbeatApply env row stackID holder with
        ⟨outcome, after⟩
      rcases heartbeatApply_cases performed with
        ⟨⟨failure, rfl⟩, rfl⟩ | ⟨_, required, _⟩
      · simp [Refused, perform, performed, Except.map]
      · exact absurd (holdsLease_of_requireApplyLease required) notHeld
  | advanceApply row stackID holder step status error =>
      rcases performed : database.advanceApply env row stackID holder step
        status error with ⟨outcome, after⟩
      rcases advanceApply_cases performed with
        ⟨⟨failure, rfl⟩, rfl⟩ | ⟨required, _⟩
      · simp [Refused, perform, performed, Except.map]
      · exact absurd (holdsLease_of_requireApplyLease required) notHeld
  | finishApply row stackID holder resources =>
      rcases performed : database.finishApply env row stackID holder
        resources with ⟨outcome, after⟩
      cases outcome with
      | error failure =>
          cases finishApply_error performed
          simp [Refused, perform, performed, Except.map]
      | ok done =>
          have required := (finishApply_cases performed).1
          exact absurd (holdsLease_of_requireApplyLease required) notHeld

/-- No call succeeds, or changes a row, against the unexpired lease of
another living holder. -/
theorem refused_of_heldByOther
    (heldByOther :
      database.HeldByOther env call.stackID call.holder) :
    call.Refused database env := by
  have notHeld : ¬ database.HoldsLease env.now call.stackID call.holder := by
    rintro ⟨lease, found, sameHolder, _⟩
    obtain ⟨other, otherFound, different, _⟩ := heldByOther
    rw [found] at otherFound
    cases otherFound
    exact different sameHolder
  cases call with
  | heartbeatApply row stackID holder =>
      exact refused_of_not_holdsLease rfl notHeld
  | advanceApply row stackID holder step status error =>
      exact refused_of_not_holdsLease rfl notHeld
  | finishApply row stackID holder resources =>
      exact refused_of_not_holdsLease rfl notHeld
  | beginApply stackID holder desiredHash payload resume =>
      rcases performed : database.beginApply env stackID holder desiredHash
        payload resume with ⟨outcome, after⟩
      cases outcome with
      | error failure =>
          cases beginApply_error performed
          simp [Refused, perform, performed, Except.map]
      | ok record =>
          have unblocked := (beginApply_cases performed).1
          exact absurd heldByOther
            (refuseForeignLease_eq_ok_iff.mp unblocked)
  | abortApply stackID holder =>
      rcases performed : database.abortApply env stackID holder with
        ⟨outcome, after⟩
      rcases abortApply_cases performed with
        ⟨⟨failure, rfl⟩, rfl⟩ | ⟨_, _, _, unblocked, _⟩
      · simp [Refused, perform, performed, Except.map]
      · exact absurd heldByOther
          (refuseForeignLease_eq_ok_iff.mp unblocked)

theorem Refused.not_succeeds (refused : call.Refused database env) :
    ¬ call.Succeeds database env := by
  obtain ⟨⟨failure, failed⟩, _⟩ := refused
  rintro ⟨result, succeeded⟩
  rw [failed] at succeeded
  cases succeeded

theorem not_heldByOther_of_succeeds
    (succeeds : call.Succeeds database env) :
    ¬ database.HeldByOther env call.stackID call.holder :=
  fun heldByOther => (refused_of_heldByOther heldByOther).not_succeeds succeeds

theorem incomplete_of_abort {stackID holder : String}
    (succeeds : (abortApply stackID holder).Succeeds database env) :
    ∃ current, database.incompleteJournal stackID = some current := by
  obtain ⟨result, succeeds⟩ := succeeds
  rcases performed : database.abortApply env stackID holder with
    ⟨outcome, after⟩
  rcases abortApply_cases performed with
    ⟨⟨failure, rfl⟩, rfl⟩ | ⟨current, _, found, _⟩
  · simp [perform, performed, Except.map] at succeeds
  · exact ⟨current, found⟩

theorem superseded_of_begin (isBegin : call.isBegin = true)
    (succeeds : call.Succeeds database env) {holder : String}
    (different : call.holder ≠ holder) :
    (call.perform database env).2.Superseded call.stackID holder := by
  obtain ⟨result, succeeds⟩ := succeeds
  cases call with
  | beginApply stackID beginner desiredHash payload resume =>
      rcases performed : database.beginApply env stackID beginner desiredHash
        payload resume with ⟨outcome, after⟩
      cases outcome with
      | error failure => simp [perform, performed, Except.map] at succeeds
      | ok record =>
          intro lease found
          simp only [perform, performed, Prod.map_snd] at found
          have taken : after.lease stackID = _ := beginApply_lease performed
          rw [show after.lease stackID = some lease from found] at taken
          cases taken
          exact different
  | heartbeatApply id stackID other => cases isBegin
  | advanceApply id stackID other step status error => cases isBegin
  | finishApply id stackID other resources => cases isBegin
  | abortApply stackID other => cases isBegin

end ApplyCall

end Vzctl
