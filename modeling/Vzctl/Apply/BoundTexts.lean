import Vzctl.Apply.Lease
import Vzctl.Lib.Texts
import Vzctl.Network.InetAddress

/-!
# Texts of an apply call

`sqlite3_bind_text` reads a text up to its first NUL, and `==` of Swift takes
canonically equivalent texts for equal; the labels of a resource are bound as
JSON, which keeps a NUL.  The operations of `StateDatabase` on any texts, and
the calls for which they are those on exact texts.
-/

namespace Vzctl

open Texts Transitions

namespace BoundTexts

section Operations

variable (equal : String → String → Bool) (database : StateDatabase)
  (env : CallEnv)

/-- The lease check of `beginApply` and `abortApply`, with `leaseBlocks`. -/
def refuseForeignLease (stackID holder : String) :
    Except ReconcileDatabaseError Unit :=
  match database.lease (cString stackID) with
  | some current =>
      if equal current.holder holder = false ∧ env.now < current.expiresAt ∧
          holderIsAlive env current.holder = true then
        .error (.leaseHeld current)
      else
        .ok ()
  | none => .ok ()

def beginApply (stackID holder desiredHash : String) (payload : JSONValue)
    (resume : Bool) :
    Except ReconcileDatabaseError JournalRecord × StateDatabase :=
  StateDatabase.transaction env database <|
    match database.incompleteJournal (cString stackID) with
    | some current => do
        refuseForeignLease equal database env stackID holder
        if resume = false then
          .error (.incomplete current)
        else if current.desiredHash.any (equal · desiredHash) = false then
          .error .generationChanged
        else
          let leased ←
            database.upsertLease env (cString stackID) (cString holder)
          let reopened ←
            leased.updateJournal env current.id current.step "running" none
          let record ← reopened.journalForced current.id
          return (record, reopened)
    | none => do
        refuseForeignLease equal database env stackID holder
        let leased ←
          database.upsertLease env (cString stackID) (cString holder)
        let inserted ← leased.insertJournal env <|
          .opened env.uuid (cString stackID)
            (leased.nextGeneration (cString stackID)) payload env.timestamp
        let record ← inserted.journalForced env.uuid
        return (record, inserted)

def requireApplyLease (id stackID holder : String) :
    Except ReconcileDatabaseError Unit :=
  match database.incompleteJournal (cString stackID) with
  | none => .error .noIncomplete
  | some current =>
      if equal current.id id = false then
        .error .noIncomplete
      else
        match database.lease (cString stackID) with
        | none => .error .leaseLost
        | some currentLease =>
            if equal currentLease.holder holder = true ∧
                env.now < currentLease.expiresAt then
              .ok ()
            else
              .error .leaseLost

def heartbeatApply (id stackID holder : String) :
    Except ReconcileDatabaseError Unit × StateDatabase :=
  match requireApplyLease equal database env id stackID holder with
  | .error failure => (.error failure, database)
  | .ok () =>
      match database.upsertLease env (cString stackID) (cString holder) with
      | .error failure => (.error failure, database)
      | .ok renewed => (.ok (), renewed)

def advanceApply (id stackID holder step status : String)
    (error : Option String) :
    Except ReconcileDatabaseError JournalRecord × StateDatabase :=
  match requireApplyLease equal database env id stackID holder with
  | .error failure => (.error failure, database)
  | .ok () =>
      match database.upsertLease env (cString stackID) (cString holder) with
      | .error failure => (.error failure, database)
      | .ok renewed =>
          match renewed.updateJournal env (cString id) (cString step)
              (cString status) (error.map cString) with
          | .error failure => (.error failure, renewed)
          | .ok advanced =>
              (advanced.journalForced (cString id), advanced)

/-- The row that is written for a resource; the labels keep the stack as it was
given. -/
def storedRow (stackID : String) (resource : StackResourceRecord) :
    ResourceRow :=
  let row := StateDatabase.recordedRow env stackID resource
  { row with
    id := cString row.id
    kind := cString row.kind
    name := cString row.name
    state := cString row.state }

def insertResource (stackID : String)
    (entry : StackResourceRecord × Nat) :
    Except ReconcileDatabaseError StateDatabase := do
  let resources ← StateDatabase.statement env (.insertResource entry.2) <|
    database.resources.insert (storedRow env stackID entry.1)
  return { database with resources := resources }

def finishApply (id stackID holder : String)
    (resources : Option (List StackResourceRecord)) :
    Except ReconcileDatabaseError Unit × StateDatabase :=
  StateDatabase.transaction env database do
    requireApplyLease equal database env id stackID holder
    let resources ← resources.elim (.error .undecodable) .ok
    let cleared ← database.deleteResources env (cString stackID)
    let recorded ← resources.zipIdx.foldlM
      (fun current entry => insertResource current env stackID entry) cleared
    let done ← recorded.updateJournal env (cString id) "done" "done" none
    let released ←
      done.deleteLease env (cString stackID) (some (cString holder))
    return ((), released)

def abortApply (stackID holder : String) :
    Except ReconcileDatabaseError JournalRecord × StateDatabase :=
  match database.incompleteJournal (cString stackID) with
  | none => (.error .noIncomplete, database)
  | some current =>
      match refuseForeignLease equal database env stackID holder with
      | .error failure => (.error failure, database)
      | .ok () =>
          match database.updateJournal env current.id current.step
              "aborted" none with
          | .error failure => (.error failure, database)
          | .ok aborted =>
              match aborted.deleteLease env (cString stackID) none with
              | .error failure => (.error failure, aborted)
              | .ok released => (released.journalForced current.id, released)

def perform :
    ApplyCall →
      Except ReconcileDatabaseError (Option JournalRecord) × StateDatabase
  | .beginApply stackID holder desiredHash payload resume =>
      (beginApply equal database env stackID holder desiredHash payload
        resume).map (·.map some) (·)
  | .heartbeatApply id stackID holder =>
      (heartbeatApply equal database env id stackID holder).map
        (·.map fun _ => none) (·)
  | .advanceApply id stackID holder step status error =>
      (advanceApply equal database env id stackID holder step status
        error).map (·.map some) (·)
  | .finishApply id stackID holder resources =>
      (finishApply equal database env id stackID holder resources).map
        (·.map fun _ => none) (·)
  | .abortApply stackID holder =>
      (abortApply equal database env stackID holder).map (·.map some) (·)

end Operations

def step (equal : String → String → Bool) :
    StateDatabase → CallEnv × ApplyCall → StateDatabase → Prop :=
  ofFunction fun database label => (perform equal database label.1 label.2).2

/-! ## Plain calls -/

/-- The texts that a call binds, other than the payload, which is JSON. -/
def texts : ApplyCall → List String
  | .beginApply stackID holder _ _ _ => [stackID, holder]
  | .heartbeatApply id stackID holder => [id, stackID, holder]
  | .advanceApply id stackID holder step status error =>
      [id, stackID, holder, step, status] ++ error.toList
  | .finishApply id stackID holder resources =>
      [id, stackID, holder] ++ (resources.getD []).flatMap
        fun resource => [resource.kind, resource.name, resource.state]
  | .abortApply stackID holder => [stackID, holder]

def desiredHash : ApplyCall → Option String
  | .beginApply _ _ desiredHash _ _ => some desiredHash
  | _ => none

/-- No text of the call holds a NUL, and no stored text that it is compared
with is another spelling of it. -/
structure Plain (equal : String → String → Bool) (database : StateDatabase)
    (call : ApplyCall) : Prop where
  noNul : ∀ text ∈ texts call, '\x00' ∉ text.toList
  holder : ∀ lease, database.lease call.stackID = some lease →
    (equal lease.holder call.holder = true ↔ lease.holder = call.holder)
  row : ∀ current, database.incompleteJournal call.stackID = some current →
    ∀ id ∈ call.namedRow, equal current.id id = true ↔ current.id = id
  hash : ∀ current, database.incompleteJournal call.stackID = some current →
    ∀ hash ∈ current.desiredHash, ∀ desired ∈ desiredHash call,
      equal hash desired = true ↔ hash = desired

section Plain

variable {equal : String → String → Bool} {database : StateDatabase}
  {env : CallEnv} {id stackID holder : String}

theorem refuseForeignLease_eq (noNul : '\x00' ∉ stackID.toList)
    (exactly : ∀ lease, database.lease stackID = some lease →
      (equal lease.holder holder = true ↔ lease.holder = holder)) :
    refuseForeignLease equal database env stackID holder =
      database.refuseForeignLease env stackID holder := by
  rw [refuseForeignLease, StateDatabase.refuseForeignLease,
    cString_of_not_mem noNul]
  cases found : database.lease stackID with
  | none => rfl
  | some lease =>
      have same := exactly lease found
      simp only [leaseBlocks, Bool.and_eq_true, decide_eq_true_eq, and_assoc,
        ← Bool.not_eq_true, same, ne_eq]

theorem requireApplyLease_eq (noNul : '\x00' ∉ stackID.toList)
    (exactly : ∀ lease, database.lease stackID = some lease →
      (equal lease.holder holder = true ↔ lease.holder = holder))
    (sameRow : ∀ current, database.incompleteJournal stackID = some current →
      (equal current.id id = true ↔ current.id = id)) :
    requireApplyLease equal database env id stackID holder =
      database.requireApplyLease env id stackID holder := by
  rw [requireApplyLease, StateDatabase.requireApplyLease,
    cString_of_not_mem noNul]
  cases found : database.incompleteJournal stackID with
  | none => rfl
  | some current =>
      simp only [← Bool.not_eq_true, sameRow current found, ne_eq]
      cases held : database.lease stackID with
      | none => rfl
      | some lease => simp only [exactly lease held]

theorem beginApply_eq {desiredHash : String} {payload : JSONValue}
    {resume : Bool}
    (plain : Plain equal database
      (.beginApply stackID holder desiredHash payload resume)) :
    beginApply equal database env stackID holder desiredHash payload resume =
      database.beginApply env stackID holder desiredHash payload resume := by
  have noNul := plain.noNul stackID (by simp [texts])
  have holderNoNul := plain.noNul holder (by simp [texts])
  have checked : refuseForeignLease equal database env stackID holder =
      database.refuseForeignLease env stackID holder :=
    refuseForeignLease_eq noNul plain.holder
  rw [beginApply, StateDatabase.beginApply, checked, cString_of_not_mem noNul,
    cString_of_not_mem holderNoNul]
  cases found : database.incompleteJournal stackID with
  | none => rfl
  | some current =>
      have changed : current.desiredHash.any (equal · desiredHash) = false ↔
          current.desiredHash ≠ some desiredHash := by
        cases recorded : current.desiredHash with
        | none => simp
        | some hash =>
            have same := plain.hash current found hash recorded desiredHash rfl
            simp [← Bool.not_eq_true, same]
      simp only [changed]

theorem insertResource_eq (index : Nat) {resource : StackResourceRecord}
    (noNul : '\x00' ∉ stackID.toList ∧ '\x00' ∉ resource.kind.toList ∧
      '\x00' ∉ resource.name.toList ∧ '\x00' ∉ resource.state.toList) :
    insertResource database env stackID (resource, index) =
      database.insertResource env stackID index resource := by
  have whole : storedRow env stackID resource =
      StateDatabase.recordedRow env stackID resource := by
    obtain ⟨stack, kind, name, state⟩ := noNul
    have key : '\x00' ∉ (stackID ++ ":" ++ resource.kind ++ ":" ++
        resource.name).toList := by
      simp [stack, kind, name]
    simp only [storedRow, StateDatabase.recordedRow,
      cString_of_not_mem key, cString_of_not_mem kind,
      cString_of_not_mem name, cString_of_not_mem state]
  rw [insertResource, whole]
  rfl

theorem foldlM_insertResource {sent : List StackResourceRecord}
    (stack : '\x00' ∉ stackID.toList)
    (noNul : ∀ resource ∈ sent, '\x00' ∉ resource.kind.toList ∧
      '\x00' ∉ resource.name.toList ∧ '\x00' ∉ resource.state.toList)
    (index : Nat) (database : StateDatabase) :
    (sent.zipIdx index).foldlM (fun current entry =>
        insertResource current env stackID entry) database =
      StateDatabase.insertResources env stackID index sent database := by
  induction sent generalizing index database with
  | nil => rfl
  | cons resource rest ih =>
      have inside := List.forall_mem_cons.mp noNul
      rw [List.zipIdx_cons, List.foldlM_cons, StateDatabase.insertResources,
        insertResource_eq index ⟨stack, inside.1⟩]
      exact bind_congr fun inserted => ih inside.2 (index + 1) inserted

theorem finishApply_eq {resources : Option (List StackResourceRecord)}
    (plain : Plain equal database
      (.finishApply id stackID holder resources)) :
    finishApply equal database env id stackID holder resources =
      database.finishApply env id stackID holder resources := by
  have noNul := plain.noNul stackID (by simp [texts])
  have holderNoNul := plain.noNul holder (by simp [texts])
  have idNoNul := plain.noNul id (by simp [texts])
  have required : requireApplyLease equal database env id stackID holder =
      database.requireApplyLease env id stackID holder :=
    requireApplyLease_eq noNul plain.holder
      fun current found => plain.row current found id rfl
  rw [finishApply, StateDatabase.finishApply, required,
    cString_of_not_mem noNul, cString_of_not_mem holderNoNul,
    cString_of_not_mem idNoNul]
  cases resources with
  | none => rfl
  | some sent =>
      have inside : ∀ resource ∈ sent, '\x00' ∉ resource.kind.toList ∧
          '\x00' ∉ resource.name.toList ∧
            '\x00' ∉ resource.state.toList := by
        intro resource member
        have held : ∀ text ∈ [resource.kind, resource.name, resource.state],
            '\x00' ∉ text.toList := by
          intro text isText
          apply plain.noNul
          exact List.mem_append_right _
            (List.mem_flatMap.mpr ⟨resource, member, isText⟩)
        exact ⟨held _ (by simp), held _ (by simp), held _ (by simp)⟩
      refine congrArg (StateDatabase.transaction env database) ?_
      refine bind_congr fun _ => ?_
      change (database.deleteResources env stackID >>= fun cleared =>
          sent.zipIdx.foldlM (fun current entry =>
            insertResource current env stackID entry) cleared >>= _) = _
      simp only [foldlM_insertResource noNul inside]
      rfl

theorem heartbeatApply_eq
    (plain : Plain equal database (.heartbeatApply id stackID holder)) :
    heartbeatApply equal database env id stackID holder =
      database.heartbeatApply env id stackID holder := by
  have noNul := plain.noNul stackID (by simp [texts])
  have holderNoNul := plain.noNul holder (by simp [texts])
  have required : requireApplyLease equal database env id stackID holder =
      database.requireApplyLease env id stackID holder :=
    requireApplyLease_eq noNul plain.holder
      fun current found => plain.row current found id rfl
  rewrite [heartbeatApply, StateDatabase.heartbeatApply, required,
    cString_of_not_mem noNul, cString_of_not_mem holderNoNul]
  rfl

theorem advanceApply_eq {step status : String} {error : Option String}
    (plain : Plain equal database
      (.advanceApply id stackID holder step status error)) :
    advanceApply equal database env id stackID holder step status error =
      database.advanceApply env id stackID holder step status error := by
  have noNul := plain.noNul stackID (by simp [texts])
  have whole : ∀ text ∈ [id, holder, step, status], cString text = text := by
    intro text member
    apply cString_of_not_mem
    apply plain.noNul
    simp only [List.mem_cons, List.not_mem_nil, or_false] at member
    simp only [texts, List.mem_append, List.mem_cons]
    tauto
  have wholeError : error.map cString = error := by
    cases error with
    | none => rfl
    | some text =>
        have errorNoNul := plain.noNul text (by simp [texts])
        rw [Option.map_some, cString_of_not_mem errorNoNul]
  have required : requireApplyLease equal database env id stackID holder =
      database.requireApplyLease env id stackID holder :=
    requireApplyLease_eq noNul plain.holder
      fun current found => plain.row current found id rfl
  rewrite [advanceApply, StateDatabase.advanceApply, required,
    cString_of_not_mem noNul, wholeError, whole id (by simp),
    whole holder (by simp), whole step (by simp), whole status (by simp)]
  rfl

theorem abortApply_eq
    (plain : Plain equal database (.abortApply stackID holder)) :
    abortApply equal database env stackID holder =
      database.abortApply env stackID holder := by
  have noNul := plain.noNul stackID (by simp [texts])
  have checked : refuseForeignLease equal database env stackID holder =
      database.refuseForeignLease env stackID holder :=
    refuseForeignLease_eq noNul plain.holder
  rewrite [abortApply, StateDatabase.abortApply, checked,
    cString_of_not_mem noNul]
  rfl

/-- A plain call does what it does with exact texts. -/
theorem perform_eq {call : ApplyCall} (plain : Plain equal database call) :
    perform equal database env call = call.perform database env := by
  cases call with
  | beginApply stackID holder desiredHash payload resume =>
      rw [perform, ApplyCall.perform, beginApply_eq plain]
  | heartbeatApply id stackID holder =>
      rw [perform, ApplyCall.perform, heartbeatApply_eq plain]
  | advanceApply id stackID holder step status error =>
      rw [perform, ApplyCall.perform, advanceApply_eq plain]
  | finishApply id stackID holder resources =>
      rw [perform, ApplyCall.perform, finishApply_eq plain]
  | abortApply stackID holder =>
      rw [perform, ApplyCall.perform, abortApply_eq plain]

theorem plain_exactly {call : ApplyCall}
    (noNul : ∀ text ∈ texts call, '\x00' ∉ text.toList) :
    Plain exactly database call where
  noNul := noNul
  holder _ _ := exactly_iff
  row _ _ _ _ := exactly_iff
  hash _ _ _ _ _ _ := exactly_iff

/-- A step of a plain call. -/
def plainStep (equal : String → String → Bool) :
    StateDatabase → CallEnv × ApplyCall → StateDatabase → Prop :=
  guarded (fun database label => Plain equal database label.2) (step equal)

theorem step_of_plain {label : CallEnv × ApplyCall} {after : StateDatabase}
    (moved : plainStep equal database label after) :
    ApplyCall.step database label after := by
  obtain ⟨plain, rfl⟩ := moved
  exact congrArg Prod.snd (perform_eq plain).symm

/-- A run of plain calls is a run with exact texts. -/
theorem runs_of_plain {source target : StateDatabase}
    (run : Runs (plainStep equal) source target) :
    Runs ApplyCall.step source target := by
  refine Relation.ReflTransGen.mono ?_ _ _ run
  rintro before after ⟨label, moved⟩
  exact ⟨label, step_of_plain moved⟩

theorem runs_of_guarded {source target : StateDatabase}
    {allowed : StateDatabase → CallEnv × ApplyCall → Prop}
    (run : Runs (guarded allowed (plainStep equal)) source target) :
    Runs (guarded allowed ApplyCall.step) source target := by
  refine Relation.ReflTransGen.mono ?_ _ _ run
  rintro before after ⟨label, meets, moved⟩
  exact ⟨label, meets, step_of_plain moved⟩

end Plain

/-! ## The history of the journal -/

/-- The journal in every state that plain calls reach and after every further
run of them: one incomplete row for each stack, generations in creation order
and never reused, completed rows kept, and no effect on the rows of another
stack. -/
theorem journal_history_of_runs (equal : String → String → Bool)
    {leaseDuration : Nat} {database : StateDatabase}
    (reached :
      Runs (plainStep equal) (StateDatabase.fresh leaseDuration) database) :
    (∀ stackID, (database.journal.rows.filter fun record =>
        record.stackID = stackID ∧ record.isIncomplete).length ≤ 1) ∧
      Chronological database.journal.rows ∧
      (∀ later, Runs (plainStep equal) database later →
        database.journal.rows.map JournalRecord.identity <+:
            later.journal.rows.map JournalRecord.identity ∧
          (∀ old ∈ database.journal.rows, ∀ record ∈ later.journal.rows,
            old.stackID = record.stackID →
              old.generation = record.generation →
                old.identity = record.identity) ∧
          ∀ record ∈ database.journal.rows,
            record.status = "done" ∨ record.status = "aborted" →
              later.journalByID record.id = some record) ∧
      ∀ (call : ApplyCall) (env : CallEnv), Plain equal database call →
        StateDatabase.SameElsewhere call.stackID database
          (perform equal database env call).2 := by
  have ordered : Chronological database.journal.rows :=
    chronological_of_runs (runs_of_plain reached) List.Pairwise.nil
  refine ⟨database.length_incomplete_le_one, ordered, ?_, ?_⟩
  · intro later run
    have extended := journalExtends_of_runs (runs_of_plain run)
    refine ⟨extended.identities, ?_, ?_⟩
    · intro old oldMember record member
      exact extended.identity_eq_of_generation_eq
        (chronological_of_runs (runs_of_plain run) ordered) oldMember member
    · intro record member terminal
      have isComplete : record.isIncomplete = false := by
        unfold JournalRecord.isIncomplete
        rcases terminal with isDone | isAborted
        · rw [isDone]
          decide
        · rw [isAborted]
          decide
      exact later.journalByID_eq_some <|
        extended.completed record member isComplete
  · intro call env plain
    rw [perform_eq plain]
    exact (call.perform_change database env).2

def begunDatabase : StateDatabase :=
  (perform exactly (StateDatabase.fresh 300000) (calmEnv 1000 "a")
    (.beginApply "shop" "host:1" "h" .null false)).2

theorem begunDatabase_reached :
    Runs (plainStep exactly) (StateDatabase.fresh 300000) begunDatabase :=
  (Runs.refl _).guarded_snoc
    (calmEnv 1000 "a", .beginApply "shop" "host:1" "h" .null false)
    (plain_exactly (by decide)) rfl

theorem journal_history_of_begun :
    Chronological begunDatabase.journal.rows ∧
      StateDatabase.SameElsewhere "bar" begunDatabase
        (perform exactly begunDatabase (calmEnv 2000 "b")
          (.beginApply "bar" "host:2" "h" .null false)).2 := by
  have history := journal_history_of_runs exactly begunDatabase_reached
  exact ⟨history.2.1, history.2.2.2
    (.beginApply "bar" "host:2" "h" .null false) (calmEnv 2000 "b")
      (plain_exactly (by decide))⟩

/-- An `abort` for another name acts on the stack that the name is cut to. -/
theorem nul_abort_reaches_shop :
    Runs (step exactly) (StateDatabase.fresh 300000) begunDatabase ∧
      ¬ StateDatabase.SameElsewhere "shop\x00x" begunDatabase
        (perform exactly begunDatabase (calmEnv 2000 "b")
          (.abortApply "shop\x00x" "host:1")).2 := by
  refine ⟨begunDatabase_reached.of_guarded, fun same => ?_⟩
  have statuses := congrArg (List.map JournalRecord.status) same.journal
  revert statuses
  decide +revert

/-! ## Fencing -/

/-- A call that returns. -/
def Succeeds (equal : String → String → Bool) (call : ApplyCall)
    (database : StateDatabase) (env : CallEnv) : Prop :=
  ∃ result, (perform equal database env call).1 = .ok result

/-- A call that fails and leaves every row as it was. -/
def Refused (equal : String → String → Bool) (call : ApplyCall)
    (database : StateDatabase) (env : CallEnv) : Prop :=
  (∃ failure, (perform equal database env call).1 = .error failure) ∧
    (perform equal database env call).2 = database

section Fencing

variable {equal : String → String → Bool} {database : StateDatabase}
  {env : CallEnv} {call : ApplyCall}

theorem succeeds_iff (plain : Plain equal database call) :
    Succeeds equal call database env ↔ call.Succeeds database env := by
  rw [Succeeds, perform_eq plain, ApplyCall.Succeeds]

theorem refused_iff (plain : Plain equal database call) :
    Refused equal call database env ↔ call.Refused database env := by
  rw [Refused, perform_eq plain, ApplyCall.Refused]

/-- Fencing, in every database and so in every reachable one, for plain calls
in any order and at any times.  The last part follows a holder from the begin
that superseded it through every run in which it does not begin again. -/
theorem lease_fencing (equal : String → String → Bool)
    (database : StateDatabase) :
    (∀ (env : CallEnv) (call : ApplyCall) (id : String),
      Plain equal database call → call.namedRow = some id →
        Succeeds equal call database env →
          database.HoldsLease env.now call.stackID call.holder ∧
            ∃ current,
              database.incompleteJournal call.stackID = some current ∧
                current.id = id) ∧
      (∀ (env : CallEnv) (stackID holder : String),
        Plain equal database (.abortApply stackID holder) →
          Succeeds equal (.abortApply stackID holder) database env →
            (∃ current,
              database.incompleteJournal stackID = some current) ∧
              ¬ database.HeldByOther env stackID holder) ∧
      (∀ (env : CallEnv) (call : ApplyCall) (lease : LeaseRecord),
        Plain equal database call → call.isBegin = true →
          Succeeds equal call database env →
            database.lease call.stackID = some lease →
              lease.holder ≠ call.holder →
                lease.expiresAt ≤ env.now ∨
                  holderIsAlive env lease.holder = false) ∧
      (∀ (env : CallEnv) (id stackID holder : String),
        Plain equal database (.heartbeatApply id stackID holder) →
          ¬ database.HoldsLease env.now stackID holder →
            Refused equal (.heartbeatApply id stackID holder) database env) ∧
      ∀ (env : CallEnv) (call : ApplyCall) (superseded : String),
        Plain equal database call → call.isBegin = true →
          Succeeds equal call database env → call.holder ≠ superseded →
            ∀ later, Runs (guarded (fun _ label =>
                ¬ (label.2.isBegin = true ∧
                  label.2.stackID = call.stackID ∧
                  label.2.holder = superseded)) (plainStep equal))
                (perform equal database env call).2 later →
              ∀ (laterEnv : CallEnv) (laterCall : ApplyCall),
                Plain equal later laterCall →
                  laterCall.stackID = call.stackID →
                    laterCall.holder = superseded →
                      (laterCall.namedRow.isSome = true →
                        Refused equal laterCall later laterEnv) ∧
                      (later.HeldByOther laterEnv call.stackID superseded →
                        Refused equal laterCall later laterEnv) := by
  refine ⟨?_, ?_, ?_, ?_, ?_⟩
  · intro env call id plain named succeeds
    rw [succeeds_iff plain] at succeeds
    exact ApplyCall.holdsLease_of_succeeds named succeeds
  · intro env stackID holder plain succeeds
    rw [succeeds_iff plain] at succeeds
    exact ⟨ApplyCall.incomplete_of_abort succeeds,
      ApplyCall.not_heldByOther_of_succeeds succeeds⟩
  · intro env call lease plain _ succeeds found foreign
    rw [succeeds_iff plain] at succeeds
    have unblocked := ApplyCall.not_heldByOther_of_succeeds succeeds
    by_cases expired : lease.expiresAt ≤ env.now
    · exact Or.inl expired
    · right
      cases alive : holderIsAlive env lease.holder with
      | false => rfl
      | true =>
          exact absurd ⟨lease, found, foreign, by omega, alive⟩ unblocked
  · intro env id stackID holder plain notHeld
    rw [refused_iff plain]
    exact ApplyCall.refused_of_not_holdsLease rfl notHeld
  · intro env call superseded plain isBegin succeeds different later run
      laterEnv laterCall laterPlain sameStack isSuperseded
    rw [succeeds_iff plain] at succeeds
    rw [perform_eq plain] at run
    rw [refused_iff laterPlain]
    have still : later.Superseded call.stackID superseded :=
      ApplyCall.superseded_of_runs (runs_of_guarded run)
        (ApplyCall.superseded_of_begin isBegin succeeds different)
    rw [← sameStack, ← isSuperseded] at still ⊢
    constructor
    · intro named
      obtain ⟨id, named⟩ := Option.isSome_iff_exists.mp named
      exact ApplyCall.refused_of_not_holdsLease named fun held =>
        held.not_superseded still
    · exact ApplyCall.refused_of_heldByOther

/-- The lease of the first holder runs out and a second one takes it over. -/
def takeover : ApplyCall := .beginApply "shop" "host:2" "h" .null true

def leasedDatabase : StateDatabase :=
  (perform exactly (StateDatabase.fresh 300000) (calmEnv 1000 "a")
    (.beginApply "shop" "host:1" "h"
      (.object [("desired_hash", .string "h")]) false)).2

def takenOverDatabase : StateDatabase :=
  (perform exactly leasedDatabase (calmEnv 400000 "b") takeover).2

theorem lease_fencing_takenOver :
    Refused exactly (.advanceApply "a" "shop" "host:1" "vms" "running" none)
      takenOverDatabase (calmEnv 500000 "c") :=
  ((lease_fencing exactly leasedDatabase).2.2.2.2
    (calmEnv 400000 "b") takeover "host:1" (plain_exactly (by decide)) rfl
    ⟨_, rfl⟩ (by decide) takenOverDatabase (.refl _)
    (calmEnv 500000 "c")
    (.advanceApply "a" "shop" "host:1" "vms" "running" none)
    (plain_exactly (by decide)) rfl rfl).1 rfl

/-- After the lease of the second holder ran out too, the superseded first
holder begins again and a third one, without any lease, aborts. -/
theorem abort_without_lease_and_begin_after_takeover :
    Succeeds exactly (.abortApply "shop" "host:3") takenOverDatabase
        (calmEnv 800000 "c") ∧
      ¬ takenOverDatabase.HoldsLease 800000 "shop" "host:3" ∧
      takenOverDatabase.Superseded "shop" "host:1" ∧
      Succeeds exactly (.beginApply "shop" "host:1" "h" .null true)
        takenOverDatabase (calmEnv 800000 "c") := by
  have recorded : takenOverDatabase.lease "shop" =
      some ⟨"host:2", 700000⟩ := by
    decide
  refine ⟨⟨_, rfl⟩, ?_, ?_, ⟨_, rfl⟩⟩
  · rintro ⟨lease, found, sameHolder, _⟩
    rw [recorded] at found
    cases found
    revert sameHolder
    decide
  · intro lease found
    rw [recorded] at found
    cases found
    decide

end Fencing

end BoundTexts

end Vzctl
