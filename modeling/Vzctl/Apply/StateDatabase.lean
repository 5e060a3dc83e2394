import Mathlib.Algebra.Group.Nat.Defs
import Mathlib.Data.List.Sort
import Vzctl.Json
import Vzctl.Lib.Table

/-!
# The apply tables of the supervisor database

`StateDatabase.swift` keeps the recorded resources, the apply journal and the
apply leases in three SQLite tables.  Every operation below runs under the
reconcile lock and is therefore one atomic step; a statement inside it can
fail, by a violated constraint or because SQLite reports an error.

Operations return the outcome together with the database they leave behind,
since an operation that is not a transaction can fail half-way.

The texts are exact here, as for texts without NUL; `Vzctl.Apply.BoundTexts`
has the operations on any texts, with the cut at the first NUL and `==`.
-/

namespace Vzctl

/-- `[String: String]` and `BTreeMap<String, String>`. -/
abbrev Labels := List (String × String)

namespace Labels

def set (labels : Labels) (key value : String) : Labels :=
  (key, value) :: labels.filter fun entry => entry.1 ≠ key

@[simp]
theorem lookup_set_self (labels : Labels) (key value : String) :
    (labels.set key value).lookup key = some value := by
  simp [set]

theorem lookup_set_of_ne (labels : Labels) {key other : String}
    (value : String) (different : other ≠ key) :
    (labels.set key value).lookup other = labels.lookup other := by
  have headSkipped : (other == key) = false :=
    beq_eq_false_iff_ne.mpr different
  have kept : ∀ entries : List (String × String),
      (entries.filter fun entry => decide (entry.1 ≠ key)).lookup other =
        entries.lookup other := by
    intro entries
    induction entries with
    | nil => rfl
    | cons entry rest ih =>
        obtain ⟨name, text⟩ := entry
        rw [List.lookup_cons, ← ih, List.filter_cons]
        by_cases dropped : name = key
        · simp [dropped, headSkipped]
        · simp [dropped, List.lookup_cons]
  rw [set, List.lookup_cons, headSkipped]
  exact kept labels

end Labels

structure JournalRecord where
  id : String
  stackID : String
  generation : Nat
  step : String
  status : String
  payload : JSONValue
  error : Option String
  createdAt : String
  updatedAt : String

namespace JournalRecord

def payloadValue (record : JournalRecord) (key : String) : Option String :=
  (record.payload.field? key).bind JSONValue.asString?

def desiredHash (record : JournalRecord) : Option String :=
  record.payloadValue "desired_hash"

def operationMode (record : JournalRecord) : Option String :=
  record.payloadValue "mode"

/-- `status IN ('pending', 'running', 'failed')`. -/
def isIncomplete (record : JournalRecord) : Bool :=
  record.status ∈ ["pending", "running", "failed"]

/-- The row `beginApply` inserts. -/
def opened (id stackID : String) (generation : Nat) (payload : JSONValue)
    (now : String) : JournalRecord where
  id := id
  stackID := stackID
  generation := generation
  step := "validate"
  status := "running"
  payload := payload
  error := none
  createdAt := now
  updatedAt := now

/-- `SET step = ?, status = ?, error = ?, updated_at = ?`. -/
def rewrite (record : JournalRecord)
    (step status : String) (error : Option String) (updatedAt : String) :
    JournalRecord :=
  { record with
    step := step
    status := status
    error := error
    updatedAt := updatedAt }

section Rewrite

variable (record : JournalRecord) (step status : String)
  (error : Option String) (updatedAt : String)

@[simp]
theorem rewrite_id :
    (record.rewrite step status error updatedAt).id = record.id := rfl

@[simp]
theorem rewrite_stackID :
    (record.rewrite step status error updatedAt).stackID =
      record.stackID := rfl

@[simp]
theorem rewrite_generation :
    (record.rewrite step status error updatedAt).generation =
      record.generation := rfl

@[simp]
theorem rewrite_step :
    (record.rewrite step status error updatedAt).step = step := rfl

@[simp]
theorem rewrite_status :
    (record.rewrite step status error updatedAt).status = status := rfl

@[simp]
theorem rewrite_payload :
    (record.rewrite step status error updatedAt).payload =
      record.payload := rfl

end Rewrite

end JournalRecord

structure StackResourceRecord where
  kind : String
  name : String
  labels : Labels
  state : String
  deriving DecidableEq, Repr

/-- A row of `resources`. -/
structure ResourceRow where
  id : String
  kind : String
  name : String
  labels : Labels
  state : String
  updatedAt : String
  deriving DecidableEq, Repr

namespace ResourceRow

/-- `json_extract(labels_json, '$.stack_id')`. -/
def stackID (row : ResourceRow) : Option String :=
  row.labels.lookup "stack_id"

def record (row : ResourceRow) : StackResourceRecord where
  kind := row.kind
  name := row.name
  labels := row.labels
  state := row.state

end ResourceRow

/-- A row of `locks`. -/
structure LockRow where
  stackID : String
  holder : String
  expiresAt : Nat
  deriving DecidableEq, Repr

structure LeaseRecord where
  holder : String
  expiresAt : Nat
  deriving DecidableEq, Repr

def resourceSchema : Schema ResourceRow :=
  .uniqueOn ResourceRow.id

/-- The primary key and the index `one_incomplete_journal_per_stack`. -/
def journalSchema : Schema JournalRecord :=
  .and (.uniqueOn JournalRecord.id)
    (.uniqueWhere JournalRecord.isIncomplete JournalRecord.stackID)

def lockSchema : Schema LockRow :=
  .uniqueOn LockRow.stackID

/-- The three apply tables.  Times are milliseconds. -/
structure StateDatabase where
  leaseDuration : Nat
  resources : Table resourceSchema
  journal : Table journalSchema
  locks : Table lockSchema

inductive ReconcileDatabaseError where
  | incomplete (current : JournalRecord)
  | leaseHeld (lease : LeaseRecord)
  | generationChanged
  | noIncomplete
  | leaseLost
  /-- `SupervisorError.database`: a statement failed. -/
  | database
  /-- `DecodingError` of the resources sent with `stack.finish`. -/
  | undecodable
  /-- The trap of a forced unwrap. -/
  | unexpectedNil

/-- The statements that can fail inside one operation. -/
inductive SqlStatement where
  | begin
  | upsertLease
  | updateJournal
  | insertJournal
  | deleteResources
  | insertResource (index : Nat)
  | deleteLease
  | commit
  deriving DecidableEq, Repr

/-- What one call reads from its surroundings: the lease clock, the process
table, a fresh UUID, a timestamp, and which statements SQLite fails. -/
structure CallEnv where
  now : Nat
  processIsAlive : Nat → Bool
  uuid : String
  timestamp : String
  faults : SqlStatement → Bool := fun _ => false

/-! ## Holders -/

/-- `Int32(text)` for a positive result. -/
def parsePositiveInt32 (text : List Char) : Option Nat :=
  let digits := if text.head? = some '+' then text.tail else text
  if digits ≠ [] ∧ digits.all Char.isDigit then
    let value := digits.foldl (fun total digit => total * 10 + (digit.toNat - 48)) 0
    if 0 < value ∧ value < 2 ^ 31 then some value else none
  else
    none

/-- The process id at the end of `host:pid`. -/
def holderPID (holder : String) : Option Nat :=
  ((holder.toList.splitOn ':').filter (· ≠ [])).getLast?.bind
    parsePositiveInt32

def holderIsAlive (env : CallEnv) (holder : String) : Bool :=
  match holderPID holder with
  | none => true
  | some pid => env.processIsAlive pid

/-- A foreign lease blocks only while it is unexpired and its holder's process
is alive. -/
def leaseBlocks (env : CallEnv) (lease : LeaseRecord) (holder : String) :
    Bool :=
  lease.holder ≠ holder && env.now < lease.expiresAt &&
    holderIsAlive env lease.holder

namespace StateDatabase

/-- A database without rows. -/
def fresh (leaseDuration : Nat) : StateDatabase where
  leaseDuration := leaseDuration
  resources := Table.empty
  journal := Table.empty
  locks := Table.empty

/-! ## Reading -/

/-- `ORDER BY generation DESC LIMIT 1`. -/
def newest : List JournalRecord → Option JournalRecord
  | [] => none
  | record :: rest =>
      match newest rest with
      | none => some record
      | some other =>
          if other.generation ≤ record.generation then
            some record
          else
            some other

def incompleteJournal (database : StateDatabase) (stackID : String) :
    Option JournalRecord :=
  newest <| database.journal.rows.filter fun record =>
    record.stackID = stackID ∧ record.isIncomplete

def journalByID (database : StateDatabase) (id : String) :
    Option JournalRecord :=
  database.journal.rows.find? fun record => record.id = id

/-- `journal(id:)!`. -/
def journalForced (database : StateDatabase) (id : String) :
    Except ReconcileDatabaseError JournalRecord :=
  match database.journalByID id with
  | some record => .ok record
  | none => .error .unexpectedNil

def lease (database : StateDatabase) (stackID : String) :
    Option LeaseRecord :=
  (database.locks.rows.find? fun row => row.stackID = stackID).map
    fun row => ⟨row.holder, row.expiresAt⟩

/-- `COALESCE(MAX(generation), 0) + 1`. -/
def nextGeneration (database : StateDatabase) (stackID : String) : Nat :=
  ((database.journal.rows.filter fun record =>
    record.stackID = stackID).map JournalRecord.generation).foldr max 0 + 1

/-- `resources(stackID:)`, `ORDER BY kind, name`. -/
def resourcesOf (database : StateDatabase) (stackID : String) :
    List StackResourceRecord :=
  ((database.resources.rows.filter fun row =>
    row.stackID = some stackID).map ResourceRow.record).insertionSort
      fun left right =>
        left.kind < right.kind ∨
          left.kind = right.kind ∧ left.name ≤ right.name

/-! ## Writing -/

/-- The effect of one statement, unless SQLite reports an error for it. -/
def statement (env : CallEnv) (name : SqlStatement) {α : Type}
    (effect : Option α) : Except ReconcileDatabaseError α :=
  if env.faults name then
    .error .database
  else
    match effect with
    | some result => .ok result
    | none => .error .database

/-- When a lease written now runs out.  The formatter keeps whole seconds. -/
def leaseExpiry (database : StateDatabase) (env : CallEnv) : Nat :=
  (env.now + database.leaseDuration) / 1000 * 1000

/-- `INSERT INTO locks ... ON CONFLICT(stack_id) DO UPDATE`. -/
def upsertLease (database : StateDatabase) (env : CallEnv)
    (stackID holder : String) :
    Except ReconcileDatabaseError StateDatabase := do
  let expiresAt := database.leaseExpiry env
  let locks ← statement env .upsertLease <|
    if database.locks.rows.any (·.stackID = stackID) then
      database.locks.update (·.stackID = stackID) fun row =>
        { row with holder := holder, expiresAt := expiresAt }
    else
      database.locks.insert ⟨stackID, holder, expiresAt⟩
  return { database with locks := locks }

/-- `DELETE FROM locks`, of one holder only when a holder is given. -/
def deleteLease (database : StateDatabase) (env : CallEnv)
    (stackID : String) (holder : Option String) :
    Except ReconcileDatabaseError StateDatabase := do
  let locks ← statement env .deleteLease <| some <|
    database.locks.delete fun row =>
      row.stackID = stackID ∧ holder.all (· = row.holder)
  return { database with locks := locks }

def updateJournal (database : StateDatabase) (env : CallEnv)
    (id step status : String) (error : Option String) :
    Except ReconcileDatabaseError StateDatabase := do
  let journal ← statement env .updateJournal <|
    database.journal.update (·.id = id)
      (·.rewrite step status error env.timestamp)
  return { database with journal := journal }

def insertJournal (database : StateDatabase) (env : CallEnv)
    (record : JournalRecord) :
    Except ReconcileDatabaseError StateDatabase := do
  let journal ← statement env .insertJournal <|
    database.journal.insert record
  return { database with journal := journal }

/-- `BEGIN IMMEDIATE`, the body, then `COMMIT` or `ROLLBACK`. -/
def transaction (env : CallEnv) (database : StateDatabase) {α : Type}
    (body : Except ReconcileDatabaseError (α × StateDatabase)) :
    Except ReconcileDatabaseError α × StateDatabase :=
  if env.faults .begin then
    (.error .database, database)
  else
    match body with
    | .error failure => (.error failure, database)
    | .ok (result, changed) =>
        if env.faults .commit then
          (.error .database, database)
        else
          (.ok result, changed)

/-! ## Operations -/

/-- The lease check of `beginApply` and `abortApply`. -/
def refuseForeignLease (database : StateDatabase) (env : CallEnv)
    (stackID holder : String) : Except ReconcileDatabaseError Unit :=
  match database.lease stackID with
  | some current =>
      if leaseBlocks env current holder then
        .error (.leaseHeld current)
      else
        .ok ()
  | none => .ok ()

def beginApply (database : StateDatabase) (env : CallEnv)
    (stackID holder desiredHash : String) (payload : JSONValue)
    (resume : Bool) :
    Except ReconcileDatabaseError JournalRecord × StateDatabase :=
  transaction env database <|
    match database.incompleteJournal stackID with
    | some current => do
        database.refuseForeignLease env stackID holder
        if resume = false then
          .error (.incomplete current)
        else if current.desiredHash ≠ some desiredHash then
          .error .generationChanged
        else
          let leased ← database.upsertLease env stackID holder
          let reopened ←
            leased.updateJournal env current.id current.step "running" none
          let record ← reopened.journalForced current.id
          return (record, reopened)
    | none => do
        database.refuseForeignLease env stackID holder
        let leased ← database.upsertLease env stackID holder
        let inserted ← leased.insertJournal env <|
          .opened env.uuid stackID (leased.nextGeneration stackID) payload
            env.timestamp
        let record ← inserted.journalForced env.uuid
        return (record, inserted)

def requireApplyLease (database : StateDatabase) (env : CallEnv)
    (id stackID holder : String) : Except ReconcileDatabaseError Unit :=
  match database.incompleteJournal stackID with
  | none => .error .noIncomplete
  | some current =>
      if current.id ≠ id then
        .error .noIncomplete
      else
        match database.lease stackID with
        | none => .error .leaseLost
        | some currentLease =>
            if currentLease.holder = holder ∧ env.now < currentLease.expiresAt
            then
              .ok ()
            else
              .error .leaseLost

/-- Renew only the current journal owner's unexpired lease; never revive a
lost lease. -/
def heartbeatApply (database : StateDatabase) (env : CallEnv)
    (id stackID holder : String) :
    Except ReconcileDatabaseError Unit × StateDatabase :=
  match database.requireApplyLease env id stackID holder with
  | .error failure => (.error failure, database)
  | .ok () =>
      match database.upsertLease env stackID holder with
      | .error failure => (.error failure, database)
      | .ok renewed => (.ok (), renewed)

/-- Not a transaction: the lease stays renewed when the checkpoint fails. -/
def advanceApply (database : StateDatabase) (env : CallEnv)
    (id stackID holder step status : String) (error : Option String) :
    Except ReconcileDatabaseError JournalRecord × StateDatabase :=
  match database.requireApplyLease env id stackID holder with
  | .error failure => (.error failure, database)
  | .ok () =>
      match database.upsertLease env stackID holder with
      | .error failure => (.error failure, database)
      | .ok renewed =>
          match renewed.updateJournal env id step status error with
          | .error failure => (.error failure, renewed)
          | .ok advanced => (advanced.journalForced id, advanced)

/-- One `INSERT INTO resources` of `finishApply`. -/
def insertResource (database : StateDatabase) (env : CallEnv)
    (stackID : String) (index : Nat) (resource : StackResourceRecord) :
    Except ReconcileDatabaseError StateDatabase := do
  let resources ← statement env (.insertResource index) <|
    database.resources.insert {
      id := stackID ++ ":" ++ resource.kind ++ ":" ++ resource.name
      kind := resource.kind
      name := resource.name
      labels := resource.labels.set "stack_id" stackID
      state := resource.state
      updatedAt := env.timestamp }
  return { database with resources := resources }

/-- The loop over the resources sent with `stack.finish`. -/
def insertResources (env : CallEnv) (stackID : String) :
    Nat → List StackResourceRecord → StateDatabase →
      Except ReconcileDatabaseError StateDatabase
  | _, [], database => .ok database
  | index, resource :: rest, database => do
      let inserted ← database.insertResource env stackID index resource
      insertResources env stackID (index + 1) rest inserted

def deleteResources (database : StateDatabase) (env : CallEnv)
    (stackID : String) : Except ReconcileDatabaseError StateDatabase := do
  let resources ← statement env .deleteResources <| some <|
    database.resources.delete fun row => row.stackID = some stackID
  return { database with resources := resources }

/-- `resources` is `none` when the text sent does not decode. -/
def finishApply (database : StateDatabase) (env : CallEnv)
    (id stackID holder : String)
    (resources : Option (List StackResourceRecord)) :
    Except ReconcileDatabaseError Unit × StateDatabase :=
  transaction env database do
    database.requireApplyLease env id stackID holder
    let resources ← resources.elim (.error .undecodable) .ok
    let cleared ← database.deleteResources env stackID
    let recorded ← insertResources env stackID 0 resources cleared
    let done ← recorded.updateJournal env id "done" "done" none
    let released ← done.deleteLease env stackID (some holder)
    return ((), released)

/-- Not a transaction: the lease row stays when its deletion fails. -/
def abortApply (database : StateDatabase) (env : CallEnv)
    (stackID holder : String) :
    Except ReconcileDatabaseError JournalRecord × StateDatabase :=
  match database.incompleteJournal stackID with
  | none => (.error .noIncomplete, database)
  | some current =>
      match database.refuseForeignLease env stackID holder with
      | .error failure => (.error failure, database)
      | .ok () =>
          match database.updateJournal env current.id current.step
              "aborted" none with
          | .error failure => (.error failure, database)
          | .ok aborted =>
              match aborted.deleteLease env stackID none with
              | .error failure => (.error failure, aborted)
              | .ok released => (released.journalForced current.id, released)

end StateDatabase

end Vzctl
