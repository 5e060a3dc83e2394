import Vzctl.Apply.Rpc

/-!
# Reading a journal back

`journal_context` of the command line turns the payload of an incomplete row
back into the mode and the purge flag of the run to resume.  The results below
say which payloads the supervisor records.
-/

namespace Vzctl

open Transitions

inductive Mode where
  | plan
  | diff
  | up
  | apply
  | down
  | adopt
  deriving DecidableEq, Repr

def Mode.command : Mode → String
  | .plan => "plan"
  | .diff => "diff"
  | .up => "up"
  | .apply => "apply"
  | .down => "down"
  | .adopt => "adopt"

structure Failure where
  code : Nat
  message : String
  deriving DecidableEq, Repr

def exitIncomplete : Nat := 5

/-- `journal_context`, on the `journal` member of the inspected state. -/
def journalContext (journal : Option JournalRecord) :
    Except Failure (Mode × Bool) :=
  match journal with
  | none =>
      .error ⟨exitIncomplete, "incomplete journal has no payload"⟩
  | some record =>
      let purge :=
        ((record.payload.field? "purge").bind JSONValue.asBool?).getD false
      match (record.payload.field? "mode").bind JSONValue.asString? with
      | some "up" => .ok (.up, purge)
      | some "apply" => .ok (.apply, purge)
      | some "down" => .ok (.down, purge)
      | some other =>
          .error ⟨exitIncomplete, "cannot resume journal mode " ++ other⟩
      | none => .error ⟨exitIncomplete, "incomplete journal has no mode"⟩

/-! ## Recorded payloads -/

/-- The payload of a begin that is not a resume. -/
def RecordsMode (record : JournalRecord) : Prop :=
  ∃ desiredHash mode purge,
    record.payload = beginPayload desiredHash mode purge ∧
    mode ∈ ["up", "apply", "down"] ∧ desiredHash ≠ "" ∧
    record.stackID ≠ ""

namespace RecordsMode

variable {record : JournalRecord}

theorem journalContext_eq (recorded : RecordsMode record) :
    ∃ mode purge, mode ∈ [Mode.up, Mode.apply, Mode.down] ∧
      journalContext (some record) = .ok (mode, purge) := by
  obtain ⟨desiredHash, mode, purge, payload, accepted, _⟩ := recorded
  have modeField : (record.payload.field? "mode").bind
      JSONValue.asString? = some mode := by
    rw [payload]
    rfl
  have purgeField : ((record.payload.field? "purge").bind
      JSONValue.asBool?).getD false = purge := by
    rw [payload]
    rfl
  simp only [List.mem_cons, List.not_mem_nil, or_false] at accepted
  rcases accepted with rfl | rfl | rfl
  · exact ⟨.up, purge, by decide, by
      simp only [journalContext, modeField, purgeField]⟩
  · exact ⟨.apply, purge, by decide, by
      simp only [journalContext, modeField, purgeField]⟩
  · exact ⟨.down, purge, by decide, by
      simp only [journalContext, modeField, purgeField]⟩

theorem desiredHash_eq (recorded : RecordsMode record) :
    ∃ desiredHash, record.desiredHash = some desiredHash ∧
      desiredHash ≠ "" := by
  obtain ⟨desiredHash, mode, purge, payload, _, nonempty, _⟩ := recorded
  refine ⟨desiredHash, ?_, nonempty⟩
  rw [JournalRecord.desiredHash, JournalRecord.payloadValue, payload]
  rfl

theorem rewrite_if (recorded : RecordsMode record) (condition : Bool)
    (step status : String) (error : Option String) (updatedAt : String) :
    RecordsMode (if condition then
      record.rewrite step status error updatedAt else record) := by
  cases condition with
  | false => exact recorded
  | true => exact recorded

end RecordsMode

/-- A request that resumes is sent only while its stack has an incomplete
row. -/
def ResumesOpenJournal (database : StateDatabase)
    (label : CallEnv × JSONRPCRequest) : Prop :=
  ∀ stackID holder desiredHash payload,
    decodeApplyRPC label.2 = some (.ok
      (.beginApply stackID holder desiredHash payload true)) →
      database.incompleteJournal stackID ≠ none

theorem recordsMode_step {database : StateDatabase}
    {label : CallEnv × JSONRPCRequest}
    (recorded : ∀ record ∈ database.journal.rows, RecordsMode record)
    (allowed : ResumesOpenJournal database label) :
    ∀ record ∈ (handleApplyRPC database label.1 label.2).2.journal.rows,
      RecordsMode record := by
  rcases handleApplyRPC_after database label.1 label.2 with
    same | ⟨call, decoded, same⟩
  · rw [same]
    exact recorded
  · rw [same]
    intro record member
    cases (call.perform_change database label.1).1 with
    | kept rows =>
        rw [rows] at member
        exact recorded record member
    | rewritten current step status error updatedAt found rows =>
        rw [rows] at member
        obtain ⟨old, oldMember, rfl⟩ := List.mem_map.mp member
        exact (recorded old oldMember).rewrite_if _ _ _ _ _
    | opened stackID holder desiredHash payload resume id now begins missing
        rows =>
        rw [rows] at member
        rcases List.mem_append.mp member with oldMember | newMember
        · exact recorded record oldMember
        · cases List.mem_singleton.mp newMember
          subst begins
          obtain ⟨mode, purge, stackNonempty, hashNonempty, accepted,
            rfl, isResume⟩ := begin_of_decodeApplyRPC decoded
          cases resume with
          | true =>
              exact absurd missing
                (allowed stackID holder desiredHash _ decoded)
          | false =>
              have notResume : mode ≠ "resume" := by
                simpa using isResume.symm
              refine ⟨desiredHash, mode, purge, rfl, ?_, hashNonempty,
                stackNonempty⟩
              simpa [notResume] using accepted

theorem recordsMode_of_runs {before after : StateDatabase}
    (run : Runs (guarded ResumesOpenJournal rpcStep) before after)
    (recorded : ∀ record ∈ before.journal.rows, RecordsMode record) :
    ∀ record ∈ after.journal.rows, RecordsMode record := by
  refine invariant_of_runs (fun database =>
    ∀ record ∈ database.journal.rows, RecordsMode record) ?_ recorded run
  rintro database label _ current ⟨allowed, rfl⟩
  exact recordsMode_step current allowed

/-! ## Resuming and aborting -/

/-- The parameters of the `stack.begin` that `run` sends. -/
def beginParams (stackID holder desiredHash mode : String) (purge : Bool) :
    Params :=
  [("stack_id", .string stackID),
   ("holder", .string holder),
   ("desired_hash", .string desiredHash),
   ("mode", .string mode),
   ("purge", .bool purge)]

def resumeRequest (stackID holder desiredHash : String) : JSONRPCRequest where
  method := "stack.begin"
  params := some <| .object <|
    beginParams stackID holder desiredHash "resume" false

def abortParams (stackID holder : String) : Params :=
  [("stack_id", .string stackID), ("holder", .string holder)]

def abortRequest (stackID holder : String) : JSONRPCRequest where
  method := "stack.abort"
  params := some <| .object <| abortParams stackID holder

section Requests

variable {database : StateDatabase} {env : CallEnv}
  {stackID holder desiredHash : String}

theorem decode_resumeRequest (stackNonempty : stackID ≠ "")
    (holderNonempty : holder ≠ "") (hashNonempty : desiredHash ≠ "") :
    decodeApplyRPC (resumeRequest stackID holder desiredHash) =
      some (.ok (.beginApply stackID holder desiredHash
        (beginPayload desiredHash "resume" false) true)) := by
  have field : ∀ key value : String,
      (beginParams stackID holder desiredHash "resume" false).lookup key =
        some (.string value) → value ≠ "" →
        requiredReconcileString key
          (beginParams stackID holder desiredHash "resume" false) =
          .ok value :=
    fun _ _ found nonempty => requiredReconcileString_of_lookup found nonempty
  have stackField := field "stack_id" stackID rfl stackNonempty
  have holderField := field "holder" holder rfl holderNonempty
  have hashField := field "desired_hash" desiredHash rfl hashNonempty
  have modeField := field "mode" "resume" rfl (by decide)
  simp only [decodeApplyRPC, resumeRequest, stackBegin, objectParams, bind,
    Except.bind, stackField, holderField, hashField, modeField]
  rfl

theorem decode_abortRequest (stackNonempty : stackID ≠ "")
    (holderNonempty : holder ≠ "") :
    decodeApplyRPC (abortRequest stackID holder) =
      some (.ok (.abortApply stackID holder)) := by
  have stackField : requiredReconcileString "stack_id"
      (abortParams stackID holder) = .ok stackID :=
    requiredReconcileString_of_lookup rfl stackNonempty
  have holderField : requiredReconcileString "holder"
      (abortParams stackID holder) = .ok holder :=
    requiredReconcileString_of_lookup rfl holderNonempty
  simp only [decodeApplyRPC, abortRequest, stackAbort, objectParams, bind,
    Except.bind, stackField, holderField]
  rfl

/-- An incomplete row with a recorded mode is reopened by anyone whom no
foreign lease blocks. -/
theorem resume_reopens {record : JournalRecord}
    (recorded : RecordsMode record)
    (found : database.incompleteJournal record.stackID = some record)
    (sameHash : record.desiredHash = some desiredHash)
    (holderNonempty : holder ≠ "")
    (calm : ∀ name, env.faults name = false)
    (unblocked : ¬ database.HeldByOther env record.stackID holder) :
    ∃ reopened after,
      handleApplyRPC database env
          (resumeRequest record.stackID holder desiredHash) =
        (some (.ok (some reopened)), after) ∧
      reopened.identity = record.identity := by
  obtain ⟨hash, recordedHash, hashNonempty⟩ := recorded.desiredHash_eq
  rw [sameHash] at recordedHash
  cases recordedHash
  obtain ⟨_, _, _, _, _, _, stackNonempty⟩ := recorded
  obtain ⟨after, performed⟩ := StateDatabase.beginApply_reopens calm found
    sameHash (beginPayload desiredHash "resume" false)
    (StateDatabase.refuseForeignLease_eq_ok_iff.mpr unblocked)
  refine ⟨record.rewrite record.step "running" none env.timestamp, after,
    ?_, rfl⟩
  simp only [handleApplyRPC,
    decode_resumeRequest stackNonempty holderNonempty hashNonempty,
    ApplyCall.perform, performed]
  rfl

theorem abort_succeeds {record : JournalRecord}
    (recorded : RecordsMode record)
    (found : database.incompleteJournal record.stackID = some record)
    (holderNonempty : holder ≠ "")
    (calm : ∀ name, env.faults name = false)
    (unblocked : ¬ database.HeldByOther env record.stackID holder) :
    ∃ aborted after,
      handleApplyRPC database env (abortRequest record.stackID holder) =
        (some (.ok (some aborted)), after) ∧
      aborted.identity = record.identity ∧ aborted.status = "aborted" := by
  obtain ⟨_, _, _, _, _, _, stackNonempty⟩ := recorded
  obtain ⟨after, performed⟩ := StateDatabase.abortApply_succeeds calm found
    (StateDatabase.refuseForeignLease_eq_ok_iff.mpr unblocked)
  refine ⟨record.rewrite record.step "aborted" none env.timestamp, after,
    ?_, rfl, rfl⟩
  simp only [handleApplyRPC, decode_abortRequest stackNonempty holderNonempty,
    ApplyCall.perform, performed]
  rfl

end Requests

theorem resume_keeps_identities {database : StateDatabase}
    {label : CallEnv × JSONRPCRequest}
    {stackID holder desiredHash : String} {payload : JSONValue}
    (decoded : decodeApplyRPC label.2 = some (.ok
      (.beginApply stackID holder desiredHash payload true)))
    (allowed : ResumesOpenJournal database label) :
    (handleApplyRPC database label.1 label.2).2.journal.rows.map
        JournalRecord.identity =
      database.journal.rows.map JournalRecord.identity := by
  have isOpen := allowed _ _ _ _ decoded
  rcases handleApplyRPC_after database label.1 label.2 with
    same | ⟨call, sameDecoded, same⟩
  · rw [same]
  · rw [same]
    rw [decoded] at sameDecoded
    cases sameDecoded
    cases (ApplyCall.perform_change (.beginApply stackID holder desiredHash
      payload true) database label.1).1 with
    | kept rows => rw [rows]
    | rewritten current step status error updatedAt found rows =>
        rw [rows, List.map_map]
        exact List.map_congr_left fun record _ =>
          record.identity_rewrite_if _ _ _ _ _
    | opened otherStack otherHolder otherHash otherPayload resume id now
        begins missing rows =>
        cases begins
        exact absurd missing isOpen

/-- In every run whose resumes find an incomplete row, every incomplete row
can be turned back into an up, apply or down run, no resume opens a row, and
whoever the lease does not block can resume or abort it. -/
theorem journal_resumable_of_runs
    {leaseDuration : Nat} {database : StateDatabase}
    (run : Runs (guarded ResumesOpenJournal rpcStep)
      (StateDatabase.fresh leaseDuration) database) :
    (∀ record ∈ database.journal.rows, record.isIncomplete = true →
        ∃ mode purge, mode ∈ [Mode.up, Mode.apply, Mode.down] ∧
          journalContext (some record) = .ok (mode, purge)) ∧
      (∀ (label : CallEnv × JSONRPCRequest)
          (stackID holder desiredHash : String) (payload : JSONValue),
        decodeApplyRPC label.2 = some (.ok
          (.beginApply stackID holder desiredHash payload true)) →
        ResumesOpenJournal database label →
        (handleApplyRPC database label.1 label.2).2.journal.rows.map
            JournalRecord.identity =
          database.journal.rows.map JournalRecord.identity) ∧
      ∀ record ∈ database.journal.rows, record.isIncomplete = true →
        ∃ desiredHash, record.desiredHash = some desiredHash ∧
          ∀ (env : CallEnv) (holder : String), holder ≠ "" →
            (∀ name, env.faults name = false) →
            ¬ database.HeldByOther env record.stackID holder →
            (∃ reopened after,
              handleApplyRPC database env
                  (resumeRequest record.stackID holder desiredHash) =
                (some (.ok (some reopened)), after) ∧
              reopened.identity = record.identity) ∧
            ∃ aborted after,
              handleApplyRPC database env
                  (abortRequest record.stackID holder) =
                (some (.ok (some aborted)), after) ∧
              aborted.identity = record.identity ∧
              aborted.status = "aborted" := by
  have recorded : ∀ record ∈ database.journal.rows, RecordsMode record :=
    recordsMode_of_runs run fun _ member => absurd member List.not_mem_nil
  refine ⟨?_, ?_, ?_⟩
  · intro record member _
    exact (recorded record member).journalContext_eq
  · intro label stackID holder desiredHash payload decoded allowed
    exact resume_keeps_identities decoded allowed
  · intro record member isIncomplete
    have found : database.incompleteJournal record.stackID = some record :=
      StateDatabase.incompleteJournal_eq_some_iff.mpr
        ⟨member, rfl, isIncomplete⟩
    obtain ⟨desiredHash, sameHash, _⟩ :=
      (recorded record member).desiredHash_eq
    refine ⟨desiredHash, sameHash, ?_⟩
    intro env holder holderNonempty calm unblocked
    exact ⟨resume_reopens (recorded record member) found sameHash
        holderNonempty calm unblocked,
      abort_succeeds (recorded record member) found holderNonempty calm
        unblocked⟩

def applyRequest : JSONRPCRequest where
  method := "stack.begin"
  params := some <| .object <| beginParams "shop" "host:1" "h" "apply" false

theorem journal_resumable_of_applyRequest :
    (handleApplyRPC (StateDatabase.fresh 300000) (calmEnv 1000 "a")
        applyRequest).2.journal.rows ≠ [] ∧
      ∀ record ∈ (handleApplyRPC (StateDatabase.fresh 300000)
          (calmEnv 1000 "a") applyRequest).2.journal.rows,
        record.isIncomplete = true →
          ∃ mode purge, mode ∈ [Mode.up, Mode.apply, Mode.down] ∧
            journalContext (some record) = .ok (mode, purge) := by
  have allowed : ResumesOpenJournal (StateDatabase.fresh 300000)
      (calmEnv 1000 "a", applyRequest) := by
    intro stackID holder desiredHash payload decoded
    cases decoded
  exact ⟨List.cons_ne_nil _ _, (journal_resumable_of_runs
    ((Runs.refl (StateDatabase.fresh 300000)).snoc ⟨allowed, rfl⟩)).1⟩

/-- Without an incomplete row a resume opens a row that cannot be resumed. -/
theorem resume_without_incomplete_opens :
    ∃ record,
      (handleApplyRPC (StateDatabase.fresh 300000) (calmEnv 1000 "a")
        (resumeRequest "shop" "host:1" "h")).2.journal.rows = [record] ∧
      record.isIncomplete = true ∧
      journalContext (some record) =
        .error ⟨exitIncomplete, "cannot resume journal mode resume"⟩ :=
  ⟨_, rfl, rfl, rfl⟩

end Vzctl
