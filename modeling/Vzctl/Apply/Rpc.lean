import Vzctl.Apply.Lease

/-!
# The apply methods of the supervisor

`handleApplyRPC` decodes the parameters of a `stack.*` method into one
database operation.  A request whose parameters do not decode reaches no
table.
-/

namespace Vzctl

inductive RpcError where
  | invalid (message : String)
  | reconcile (failure : ReconcileDatabaseError)

/-! ## Parameters -/

abbrev Params := List (String × JSONValue)

def objectParams (value : Option JSONValue) (context : String) :
    Except RpcError Params :=
  match value with
  | some (.object params) => .ok params
  | _ => .error (.invalid (context ++ " params must be an object"))

def requiredReconcileString (key : String) (params : Params) :
    Except RpcError String :=
  match params.lookup key with
  | some (.string value) =>
      if value.isEmpty then
        .error (.invalid ("missing or invalid " ++ key))
      else
        .ok value
  | _ => .error (.invalid ("missing or invalid " ++ key))

def optionalReconcileString (key : String) (params : Params) :
    Option String :=
  (params.lookup key).bind JSONValue.asString?

def optionalBool (key : String) (params : Params) : Option Bool :=
  (params.lookup key).bind JSONValue.asBool?

/-- `JSONDecoder` on `[String: String]`. -/
def decodeLabels : List (String × JSONValue) → Option Labels
  | [] => some []
  | (key, .string value) :: rest =>
      (decodeLabels rest).map ((key, value) :: ·)
  | _ => none

/-- `JSONDecoder` on one `StackResourceRecord`. -/
def decodeResource (value : JSONValue) : Option StackResourceRecord := do
  let kind ← (← value.field? "kind").asString?
  let name ← (← value.field? "name").asString?
  let labels ←
    match ← value.field? "labels" with
    | .object fields => decodeLabels fields
    | _ => none
  let state ← (← value.field? "state").asString?
  return { kind := kind, name := name, labels := labels, state := state }

def decodeResources : List JSONValue → Option (List StackResourceRecord)
  | [] => some []
  | value :: rest => do
      let resource ← decodeResource value
      let resources ← decodeResources rest
      return resource :: resources

/-- The payload `stack.begin` records. -/
def beginPayload (desiredHash mode : String) (purge : Bool) : JSONValue :=
  .object [
    ("desired_hash", .string desiredHash),
    ("mode", .string mode),
    ("purge", .bool purge)]

/-! ## Methods -/

def stackBegin (params : Option JSONValue) : Except RpcError ApplyCall := do
  let params ← objectParams params "stack.begin"
  let stackID ← requiredReconcileString "stack_id" params
  let holder ← requiredReconcileString "holder" params
  let desiredHash ← requiredReconcileString "desired_hash" params
  let mode ← requiredReconcileString "mode" params
  if mode ∈ ["up", "apply", "down", "resume"] then
    let purge := (optionalBool "purge" params).getD false
    return .beginApply stackID holder desiredHash
      (beginPayload desiredHash mode purge) (mode = "resume")
  else
    .error (.invalid "invalid reconcile mode")

def stackHeartbeat (params : Option JSONValue) :
    Except RpcError ApplyCall := do
  let params ← objectParams params "stack.heartbeat"
  let id ← requiredReconcileString "id" params
  let stackID ← requiredReconcileString "stack_id" params
  let holder ← requiredReconcileString "holder" params
  return .heartbeatApply id stackID holder

def stackStep (params : Option JSONValue) : Except RpcError ApplyCall := do
  let params ← objectParams params "stack.step"
  let requestedStatus ← requiredReconcileString "status" params
  if requestedStatus ∈ ["running", "completed", "failed"] then
    let id ← requiredReconcileString "id" params
    let stackID ← requiredReconcileString "stack_id" params
    let holder ← requiredReconcileString "holder" params
    let step ← requiredReconcileString "step" params
    return .advanceApply id stackID holder step
      (if requestedStatus = "completed" then "running" else requestedStatus)
      (optionalReconcileString "error" params)
  else
    .error (.invalid "invalid journal step status")

def stackFinish (params : Option JSONValue) : Except RpcError ApplyCall := do
  let params ← objectParams params "stack.finish"
  let id ← requiredReconcileString "id" params
  let stackID ← requiredReconcileString "stack_id" params
  let holder ← requiredReconcileString "holder" params
  match params.lookup "resources" with
  | none => .error (.invalid "missing resources")
  | some (.array items) =>
      return .finishApply id stackID holder (decodeResources items)
  | some _ => return .finishApply id stackID holder none

def stackAbort (params : Option JSONValue) : Except RpcError ApplyCall := do
  let params ← objectParams params "stack.abort"
  let stackID ← requiredReconcileString "stack_id" params
  let holder ← requiredReconcileString "holder" params
  return .abortApply stackID holder

structure JSONRPCRequest where
  method : String
  params : Option JSONValue

/-- The operation a request asks for; `none` for the other methods. -/
def decodeApplyRPC (request : JSONRPCRequest) :
    Option (Except RpcError ApplyCall) :=
  match request.method with
  | "stack.begin" => some (stackBegin request.params)
  | "stack.heartbeat" => some (stackHeartbeat request.params)
  | "stack.step" => some (stackStep request.params)
  | "stack.finish" => some (stackFinish request.params)
  | "stack.abort" => some (stackAbort request.params)
  | _ => none

def handleApplyRPC (database : StateDatabase) (env : CallEnv)
    (request : JSONRPCRequest) :
    Option (Except RpcError (Option JournalRecord)) × StateDatabase :=
  match decodeApplyRPC request with
  | none => (none, database)
  | some (.error failure) => (some (.error failure), database)
  | some (.ok call) =>
      (call.perform database env).map (some ∘ Except.mapError .reconcile) (·)

/-- One request, answered by the supervisor. -/
def rpcStep :
    StateDatabase → CallEnv × JSONRPCRequest → StateDatabase → Prop :=
  Transitions.ofFunction fun database label =>
    (handleApplyRPC database label.1 label.2).2

/-! ## What a request can ask for -/

theorem nonempty_of_requiredReconcileString {key value : String}
    {params : Params}
    (decoded : requiredReconcileString key params = .ok value) :
    value ≠ "" := by
  unfold requiredReconcileString at decoded
  split at decoded
  · split at decoded
    · cases decoded
    · rename_i nonempty
      cases decoded
      rintro rfl
      exact nonempty rfl
  · cases decoded

theorem requiredReconcileString_of_lookup {key value : String}
    {params : Params} (found : params.lookup key = some (.string value))
    (nonempty : value ≠ "") :
    requiredReconcileString key params = .ok value := by
  have notEmpty : value.isEmpty = false := by
    rw [← Bool.not_eq_true]
    exact fun isEmpty => nonempty (String.isEmpty_iff.mp isEmpty)
  simp [requiredReconcileString, found, notEmpty]

theorem stackBegin_cases {params : Option JSONValue} {call : ApplyCall}
    (decoded : stackBegin params = .ok call) :
    ∃ stackID holder desiredHash mode purge,
      stackID ≠ "" ∧ desiredHash ≠ "" ∧
      mode ∈ ["up", "apply", "down", "resume"] ∧
      call = .beginApply stackID holder desiredHash
        (beginPayload desiredHash mode purge) (decide (mode = "resume")) := by
  obtain ⟨fields, _, decoded⟩ := Outcome.bind_eq_ok_iff.mp decoded
  obtain ⟨stackID, stackDecoded, decoded⟩ :=
    Outcome.bind_eq_ok_iff.mp decoded
  obtain ⟨holder, _, decoded⟩ := Outcome.bind_eq_ok_iff.mp decoded
  obtain ⟨desiredHash, hashDecoded, decoded⟩ :=
    Outcome.bind_eq_ok_iff.mp decoded
  obtain ⟨mode, _, decoded⟩ := Outcome.bind_eq_ok_iff.mp decoded
  split at decoded
  · rename_i accepted
    cases decoded
    exact ⟨stackID, holder, desiredHash, mode, _,
      nonempty_of_requiredReconcileString stackDecoded,
      nonempty_of_requiredReconcileString hashDecoded, accepted, rfl⟩
  · cases decoded

theorem stackHeartbeat_cases {params : Option JSONValue} {call : ApplyCall}
    (decoded : stackHeartbeat params = .ok call) :
    ∃ id stackID holder, call = .heartbeatApply id stackID holder := by
  obtain ⟨fields, _, decoded⟩ := Outcome.bind_eq_ok_iff.mp decoded
  obtain ⟨id, _, decoded⟩ := Outcome.bind_eq_ok_iff.mp decoded
  obtain ⟨stackID, _, decoded⟩ := Outcome.bind_eq_ok_iff.mp decoded
  obtain ⟨holder, _, decoded⟩ := Outcome.bind_eq_ok_iff.mp decoded
  cases decoded
  exact ⟨id, stackID, holder, rfl⟩

theorem stackStep_cases {params : Option JSONValue} {call : ApplyCall}
    (decoded : stackStep params = .ok call) :
    ∃ id stackID holder step status error,
      status ∈ ["running", "failed"] ∧
      call = .advanceApply id stackID holder step status error := by
  obtain ⟨fields, _, decoded⟩ := Outcome.bind_eq_ok_iff.mp decoded
  obtain ⟨requested, _, decoded⟩ := Outcome.bind_eq_ok_iff.mp decoded
  split at decoded
  · rename_i accepted
    obtain ⟨id, _, decoded⟩ := Outcome.bind_eq_ok_iff.mp decoded
    obtain ⟨stackID, _, decoded⟩ := Outcome.bind_eq_ok_iff.mp decoded
    obtain ⟨holder, _, decoded⟩ := Outcome.bind_eq_ok_iff.mp decoded
    obtain ⟨step, _, decoded⟩ := Outcome.bind_eq_ok_iff.mp decoded
    cases decoded
    refine ⟨id, stackID, holder, step, _, _, ?_, rfl⟩
    simp only [List.mem_cons, List.not_mem_nil, or_false] at accepted
    rcases accepted with rfl | rfl | rfl
    · decide
    · decide
    · decide
  · cases decoded

theorem stackFinish_cases {params : Option JSONValue} {call : ApplyCall}
    (decoded : stackFinish params = .ok call) :
    ∃ id stackID holder resources,
      call = .finishApply id stackID holder resources := by
  obtain ⟨fields, _, decoded⟩ := Outcome.bind_eq_ok_iff.mp decoded
  obtain ⟨id, _, decoded⟩ := Outcome.bind_eq_ok_iff.mp decoded
  obtain ⟨stackID, _, decoded⟩ := Outcome.bind_eq_ok_iff.mp decoded
  obtain ⟨holder, _, decoded⟩ := Outcome.bind_eq_ok_iff.mp decoded
  split at decoded
  · cases decoded
  · cases decoded
    exact ⟨id, stackID, holder, _, rfl⟩
  · cases decoded
    exact ⟨id, stackID, holder, none, rfl⟩

theorem stackAbort_cases {params : Option JSONValue} {call : ApplyCall}
    (decoded : stackAbort params = .ok call) :
    ∃ stackID holder, call = .abortApply stackID holder := by
  obtain ⟨fields, _, decoded⟩ := Outcome.bind_eq_ok_iff.mp decoded
  obtain ⟨stackID, _, decoded⟩ := Outcome.bind_eq_ok_iff.mp decoded
  obtain ⟨holder, _, decoded⟩ := Outcome.bind_eq_ok_iff.mp decoded
  cases decoded
  exact ⟨stackID, holder, rfl⟩

theorem begin_of_decodeApplyRPC {request : JSONRPCRequest}
    {stackID holder desiredHash : String} {payload : JSONValue}
    {resume : Bool}
    (decoded : decodeApplyRPC request = some (.ok
      (.beginApply stackID holder desiredHash payload resume))) :
    ∃ mode purge, stackID ≠ "" ∧ desiredHash ≠ "" ∧
      mode ∈ ["up", "apply", "down", "resume"] ∧
      payload = beginPayload desiredHash mode purge ∧
      resume = decide (mode = "resume") := by
  unfold decodeApplyRPC at decoded
  split at decoded
  · obtain ⟨_, _, _, mode, purge, stackNonempty, hashNonempty, accepted,
      same⟩ := stackBegin_cases (Option.some.inj decoded)
    cases same
    exact ⟨mode, purge, stackNonempty, hashNonempty, accepted, rfl, rfl⟩
  · obtain ⟨_, _, _, same⟩ := stackHeartbeat_cases (Option.some.inj decoded)
    cases same
  · obtain ⟨_, _, _, _, _, _, _, same⟩ :=
      stackStep_cases (Option.some.inj decoded)
    cases same
  · obtain ⟨_, _, _, _, same⟩ := stackFinish_cases (Option.some.inj decoded)
    cases same
  · obtain ⟨_, _, same⟩ := stackAbort_cases (Option.some.inj decoded)
    cases same
  · cases decoded

theorem handleApplyRPC_after (database : StateDatabase) (env : CallEnv)
    (request : JSONRPCRequest) :
    (handleApplyRPC database env request).2 = database ∨
      ∃ call, decodeApplyRPC request = some (.ok call) ∧
        (handleApplyRPC database env request).2 =
          (call.perform database env).2 := by
  unfold handleApplyRPC
  split
  · exact Or.inl rfl
  · exact Or.inl rfl
  · rename_i call decoded
    exact Or.inr ⟨call, decoded, rfl⟩

end Vzctl
