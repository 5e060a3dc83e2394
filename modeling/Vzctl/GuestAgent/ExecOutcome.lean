import Vzctl.GuestAgent.ResponseText

/-!
# Outcomes of a command

`runExec` of the agent without a terminal, and what `GuestAgentClient.exec`
makes of its response.  The text of a response is that of `json.Marshal`;
`JSONSerialization` reads the values back, except that bytes which are not
UTF-8 have become U+FFFD.
-/

namespace Vzctl

namespace GuestAgent

/-! ## The agent -/

def maxExecStream : Nat := 256 * 1024

/-- A `cappedBuffer` for the output of a command. -/
structure CappedBuffer where
  buffer : List UInt8
  truncated : Bool

namespace CappedBuffer

def empty : CappedBuffer := ⟨[], false⟩

def write (target : CappedBuffer) (payload : List UInt8) : CappedBuffer where
  buffer :=
    target.buffer ++ payload.take (maxExecStream - target.buffer.length)
  truncated :=
    target.truncated ||
      decide (maxExecStream - target.buffer.length < payload.length)

/-- What is collected of a stream that is written piece by piece. -/
def collect (pieces : List (List UInt8)) : CappedBuffer :=
  pieces.foldl write empty

/-- The collected bytes are the first of the stream, and the mark says whether
there were more. -/
theorem collect_append {pieces : List (List UInt8)} {target : CappedBuffer}
    {stream : List UInt8}
    (first : target.buffer = stream.take maxExecStream)
    (marked : target.truncated = decide (maxExecStream < stream.length)) :
    (pieces.foldl write target).buffer =
        (stream ++ pieces.flatten).take maxExecStream ∧
      (pieces.foldl write target).truncated =
        decide (maxExecStream < (stream ++ pieces.flatten).length) := by
  induction pieces generalizing target stream with
  | nil =>
      rw [List.flatten_nil, List.append_nil]
      exact ⟨first, marked⟩
  | cons payload rest ih =>
      have room : maxExecStream - target.buffer.length =
          maxExecStream - stream.length := by
        rw [first, List.length_take]
        omega
      rw [List.foldl_cons, List.flatten_cons, ← List.append_assoc]
      refine ih ?_ ?_
      · simp only [write]
        rw [room, first, List.take_append]
      · simp only [write]
        rw [room, marked, ← Bool.decide_or, decide_eq_decide,
          List.length_append]
        omega

theorem collect_spec (pieces : List (List UInt8)) :
    (collect pieces).buffer = pieces.flatten.take maxExecStream ∧
      (collect pieces).truncated =
        decide (maxExecStream < pieces.flatten.length) := by
  have nothing : empty.buffer = ([] : List UInt8).take maxExecStream := rfl
  exact collect_append nothing rfl

end CappedBuffer

/-- How a command ends, or that it does not: it is not started, it is killed
because of its deadline or of a `cancel`, or `Wait` returns.  The texts are
those of `err.Error()`. -/
inductive ExecEnd where
  | notStarted (error : List UInt8)
  | exited (status : UInt8) (copyError : Option (List UInt8))
  | signaled (signal : Nat) (error : List UInt8)
  | cancelled
  deriving DecidableEq

def exitError (status : UInt8) : List UInt8 :=
  bytesOf "exit status " ++ bytesOf (toString status.toNat)

def execFailure (id : String) (exit signal : Option Int)
    (stdout stderr : CappedBuffer) (message : List UInt8) : Response :=
  errorResponse id
    { code := "exec_failed"
      message := message
      details :=
        [("stdout", .string stdout.buffer), ("stderr", .string stderr.buffer),
          ("truncated", .bool (stdout.truncated || stderr.truncated)),
          ("exit",
            match exit with
            | none => .null
            | some exit => .int exit)] ++
          match signal with
          | none => []
          | some signal => [("signal", .int signal)] }

def execSuccess (id : String) (stdout stderr : CappedBuffer) : Response :=
  successResponse id
    [("exit", .int 0), ("stdout", .string stdout.buffer),
      ("stderr", .string stderr.buffer),
      ("truncated", .bool (stdout.truncated || stderr.truncated))]

def execCancelled (id : String) : Response :=
  errorResponse id
    (wireError "timeout" "request cancelled or deadline exceeded"
      [("reason", .ofString "cancelled")])

/-- `runExec` with valid parameters; the streams are given by what was
collected of them. -/
def runExec (id : String) (stdout stderr : CappedBuffer) : ExecEnd → Response
  | .notStarted error => execFailure id none none .empty .empty error
  | .exited status copyError =>
      if status ≠ 0 then
        execFailure id (some status.toNat) none stdout stderr
          (exitError status)
      else
        match copyError with
        | none => execSuccess id stdout stderr
        | some error => execFailure id (some 0) none stdout stderr error
  | .signaled signal error =>
      execFailure id none (some signal) stdout stderr error
  | .cancelled => execCancelled id

/-! ## Values on the other side -/

/-- The UTF-8 text of a rune. -/
def Rune.text : Rune → List UInt8
  | .ascii byte => [byte]
  | .separator low => [0xe2, 0x80, 0xa0 ||| low]
  | .encoded bytes => bytes
  | .invalid => [0xef, 0xbf, 0xbd]

/-- A Go string after its way through JSON. -/
def textOf (bytes : List UInt8) : List UInt8 :=
  (runes bytes).flatMap Rune.text

/-- A value that `JSONSerialization` has read. -/
inductive Received where
  | null
  | bool (value : Bool)
  | number (value : Int)
  | decimal (text : String)
  | string (text : List UInt8)
  | array (items : List Received)
  | dictionary (entries : List (String × Received))

mutual

def received : GoValue → Received
  | .null => .null
  | .bool value => .bool value
  | .int value => .number value
  | .float text => .decimal text
  | .string bytes => .string (textOf bytes)
  | .array items => .array (receivedItems items)
  | .map fields => .dictionary (receivedFields fields)

def receivedItems : List GoValue → List Received
  | [] => []
  | item :: items => received item :: receivedItems items

def receivedFields :
    List (String × GoValue) → List (String × Received)
  | [] => []
  | (key, value) :: fields => (key, received value) :: receivedFields fields

end

def WireError.received (error : WireError) : Received :=
  .dictionary <|
    [("code", .string (bytesOf error.code)),
      ("message", .string (textOf error.message))] ++
    if error.details.isEmpty then []
    else [("details", .dictionary (receivedFields error.details))]

/-- The dictionary of a response. -/
def Response.received (response : Response) : List (String × Received) :=
  [("v", .number response.v), ("id", .string (bytesOf response.id))] ++
    match response.outcome with
    | .ok result =>
        [("ok", .bool true), ("result", .dictionary (receivedFields result))]
    | .error error => [("ok", .bool false), ("error", error.received)]

namespace Received

/-- `as? Int`; the number of a boolean is 0 or 1. -/
def asInt : Received → Option Int
  | number value => some value
  | bool value => some (if value then 1 else 0)
  | _ => none

/-- `as? Bool`. -/
def asBool : Received → Option Bool
  | bool value => some value
  | number 0 => some false
  | number 1 => some true
  | _ => none

def asString : Received → Option (List UInt8)
  | string text => some text
  | _ => none

def asDictionary : Received → Option (List (String × Received))
  | dictionary entries => some entries
  | _ => none

end Received

/-! ## The client -/

open Received (asInt asBool asString asDictionary)

inductive GuestAgentError where
  | protocolViolation (message : String)
  | remote (code message : List UInt8) (details : List (String × Received))

structure AgentExecResult where
  exit : Int
  stdout : List UInt8
  stderr : List UInt8
  truncated : Bool
  deriving DecidableEq

def guestAgentMaxFrame : Nat := 1048576

/-- A member of a dictionary, cast to a type. -/
def castMember {α : Type} (convert : Received → Option α) (key : String)
    (entries : List (String × Received)) : Option α :=
  (entries.lookup key).bind convert

def decodeResponse (response : List (String × Received))
    (expectedID : String) :
    Except GuestAgentError (List (String × Received)) :=
  if castMember asInt "v" response ≠ some 1 ∨
      castMember asString "id" response ≠ some (bytesOf expectedID) then
    .error (.protocolViolation "response envelope mismatch")
  else if castMember asBool "ok" response = some true then
    match response.lookup "error", castMember asDictionary "result" response with
    | none, some result => .ok result
    | _, _ => .error (.protocolViolation "invalid success response")
  else
    match response.lookup "result",
        castMember asDictionary "error" response with
    | none, some error =>
        match castMember asString "code" error,
            castMember asString "message" error with
        | some code, some message =>
            .error (.remote code message
              ((castMember asDictionary "details" error).getD []))
        | _, _ => .error (.protocolViolation "invalid error response")
    | _, _ => .error (.protocolViolation "invalid error response")

/-- `readFrame` and `decodeResponse` on the frame of a response. -/
def receiveResponse (id : String) (response : Response) :
    Except GuestAgentError (List (String × Received)) :=
  let length := response.marshal.length
  if 0 < length ∧ length ≤ guestAgentMaxFrame then
    decodeResponse response.received id
  else
    .error (.protocolViolation "response frame size is invalid")

/-- What `exec` makes of the details of `exec_failed`. -/
def failedResult (code message : List UInt8)
    (details : List (String × Received)) :
    Except GuestAgentError AgentExecResult :=
  let exit := (castMember asInt "exit" details).getD 1
  let stdout := (castMember asString "stdout" details).getD []
  let stderr := (castMember asString "stderr" details).getD []
  let truncated := (castMember asBool "truncated" details).getD false
  if (details.lookup "exit").isNone ∧ (details.lookup "signal").isSome then
    .error (.remote code message details)
  else
    .ok
      { exit := exit
        stdout := stdout
        stderr := if stderr.isEmpty then message else stderr
        truncated := truncated }

/-- `exec`, by the response it is given. -/
def clientExec (id : String) (response : Response) :
    Except GuestAgentError AgentExecResult :=
  match receiveResponse id response with
  | .error (.remote code message details) =>
      if code = bytesOf "exec_failed" then failedResult code message details
      else .error (.remote code message details)
  | .error error => .error error
  | .ok result =>
      match castMember asInt "exit" result, castMember asString "stdout" result,
          castMember asString "stderr" result,
          castMember asBool "truncated" result with
      | some exit, some stdout, some stderr, some truncated =>
          .ok ⟨exit, stdout, stderr, truncated⟩
      | _, _, _, _ => .error (.protocolViolation "invalid exec result")

/-! ## Texts -/

theorem text_runeAt {first : UInt8} {rest : List UInt8}
    (valid : (runeAt first rest).1 ≠ .invalid) :
    (runeAt first rest).1.text = first :: rest.take (runeAt first rest).2 := by
  unfold runeAt at valid ⊢
  by_cases isASCII : first < 0x80
  · rw [if_pos isASCII]
    rfl
  · rw [if_neg isASCII] at valid ⊢
    cases taken : Utf8.continuation first rest with
    | none =>
        rw [taken] at valid
        exact absurd rfl valid
    | some tail =>
        have read := Utf8.take_of_continuation taken
        dsimp only
        by_cases line : first :: tail = [0xe2, 0x80, 0xa8]
        · rw [if_pos line]
          cases line
          rw [show rest.take 2 = [0x80, 0xa8] from read]
          rfl
        · rw [if_neg line]
          by_cases paragraph : first :: tail = [0xe2, 0x80, 0xa9]
          · rw [if_pos paragraph]
            cases paragraph
            rw [show rest.take 2 = [0x80, 0xa9] from read]
            rfl
          · rw [if_neg paragraph, read]
            rfl

theorem text_runesFrom {skip : Nat} {bytes : List UInt8}
    (valid : Rune.invalid ∉ runesFrom skip bytes) :
    (runesFrom skip bytes).flatMap Rune.text = bytes.drop skip := by
  induction bytes generalizing skip with
  | nil =>
      rw [List.drop_nil]
      cases skip <;> rfl
  | cons first rest ih =>
      cases skip with
      | succ skip => exact ih valid
      | zero =>
          simp only [runesFrom, List.mem_cons, not_or] at valid
          have single := text_runeAt (Ne.symm valid.1)
          rw [runesFrom, List.flatMap_cons, single,
            ih valid.2, List.cons_append,
            List.take_append_drop]
          rfl

theorem textOf_of_valid {bytes : List UInt8}
    (valid : Rune.invalid ∉ runes bytes) : textOf bytes = bytes :=
  text_runesFrom valid

/-! ## Responses to a command -/

theorem receiveResponse_of_fits {id : String} {response : Response}
    (fits : response.marshal.length ≤ guestAgentMaxFrame) :
    receiveResponse id response = decodeResponse response.received id := by
  have nonempty : 0 < response.marshal.length := by
    rw [response.length_marshal]
    exact response.size_pos
  unfold receiveResponse
  exact if_pos ⟨nonempty, fits⟩

theorem decodeResponse_success {id : String}
    {result : List (String × GoValue)} :
    decodeResponse (successResponse id result).received id =
      .ok (receivedFields result) := by
  simp [decodeResponse, Response.received, successResponse, castMember,
    asInt, asString, asBool, asDictionary, List.lookup_cons, protocolVersion]

theorem decodeResponse_failure {id : String} {error : WireError} :
    decodeResponse (errorResponse id error).received id =
      .error (.remote (bytesOf error.code) (textOf error.message)
        (receivedFields error.details)) := by
  rcases error with ⟨code, message, details⟩
  cases details with
  | nil =>
      simp [decodeResponse, Response.received, errorResponse, castMember,
        asInt, asString, asBool, asDictionary, List.lookup_cons,
        protocolVersion, WireError.received, receivedFields]
  | cons detail details =>
      simp [decodeResponse, Response.received, errorResponse, castMember,
        asInt, asString, asBool, asDictionary, List.lookup_cons,
        protocolVersion, WireError.received]

/-! ## Outcomes -/

theorem clientExec_execFailure {id : String} {exit : Option Int}
    {stdout stderr : CappedBuffer} {message : List UInt8}
    (fits : (execFailure id exit none stdout stderr message).marshal.length ≤
      guestAgentMaxFrame) :
    clientExec id (execFailure id exit none stdout stderr message) =
      .ok
        { exit := exit.getD 1
          stdout := textOf stdout.buffer
          stderr :=
            if (textOf stderr.buffer).isEmpty then textOf message
            else textOf stderr.buffer
          truncated := stdout.truncated || stderr.truncated } := by
  unfold clientExec
  rw [receiveResponse_of_fits fits]
  unfold execFailure
  rw [decodeResponse_failure]
  cases exit with
  | none =>
      simp [failedResult, receivedFields, received, castMember, asInt,
        asString, asBool, List.lookup_cons]
  | some exit =>
      simp [failedResult, receivedFields, received, castMember, asInt,
        asString, asBool, List.lookup_cons]

theorem clientExec_execSuccess {id : String} {stdout stderr : CappedBuffer}
    (fits : (execSuccess id stdout stderr).marshal.length ≤
      guestAgentMaxFrame) :
    clientExec id (execSuccess id stdout stderr) =
      .ok
        { exit := 0
          stdout := textOf stdout.buffer
          stderr := textOf stderr.buffer
          truncated := stdout.truncated || stderr.truncated } := by
  unfold clientExec
  rw [receiveResponse_of_fits fits]
  unfold execSuccess
  rw [decodeResponse_success]
  simp [receivedFields, received, castMember, asInt, asString, asBool,
    List.lookup_cons]

theorem clientExec_errorResponse {id : String} {error : WireError}
    (other : bytesOf error.code ≠ bytesOf "exec_failed")
    (fits : (errorResponse id error).marshal.length ≤ guestAgentMaxFrame) :
    clientExec id (errorResponse id error) =
      .error (.remote (bytesOf error.code) (textOf error.message)
        (receivedFields error.details)) := by
  unfold clientExec
  rw [receiveResponse_of_fits fits, decodeResponse_failure]
  exact if_neg other

/-- The text of the error that `Wait` returns. -/
def waitError (status : UInt8) (copyError : Option (List UInt8)) :
    Option (List UInt8) :=
  if status ≠ 0 then some (exitError status) else copyError

/-- An empty stderr is replaced by the text of the error. -/
def shownStderr (error : Option (List UInt8)) (collected : List UInt8) :
    List UInt8 :=
  match error with
  | none => collected
  | some message => if collected.isEmpty then textOf message else collected

/-- What `exec` gives for the end of a command, whose output comes in
pieces. -/
def ExecEnd.Matched (stdout stderr : List (List UInt8))
    (result : Except GuestAgentError AgentExecResult) : ExecEnd → Prop
  | .notStarted error => result = .ok ⟨1, [], textOf error, false⟩
  | .exited status copyError =>
      result =
        .ok
          { exit := status.toNat
            stdout := textOf (stdout.flatten.take maxExecStream)
            stderr :=
              shownStderr (waitError status copyError)
                (textOf (stderr.flatten.take maxExecStream))
            truncated :=
              decide (maxExecStream < stdout.flatten.length) ||
                decide (maxExecStream < stderr.flatten.length) }
  | .signaled _ _ => True
  | .cancelled =>
      ∃ message details,
        result = .error (.remote (bytesOf "timeout") message details)

/-- The response of `runExec` to a command whose output comes in pieces. -/
def execResponse (id : String) (stdout stderr : List (List UInt8))
    (ending : ExecEnd) : Response :=
  runExec id (CappedBuffer.collect stdout) (CappedBuffer.collect stderr)
    ending

theorem matched_exited {id : String} {stdout stderr : List (List UInt8)}
    {status : UInt8} {copyError : Option (List UInt8)}
    (fits : (execResponse id stdout stderr
      (.exited status copyError)).marshal.length ≤ guestAgentMaxFrame) :
    (ExecEnd.exited status copyError).Matched stdout stderr
      (clientExec id
        (execResponse id stdout stderr (.exited status copyError))) := by
  have out := CappedBuffer.collect_spec stdout
  have err := CappedBuffer.collect_spec stderr
  unfold ExecEnd.Matched waitError shownStderr
  rw [← out.1, ← out.2, ← err.1, ← err.2]
  unfold execResponse runExec at fits ⊢
  by_cases failed : status ≠ 0
  · simp only [if_pos failed] at fits ⊢
    exact clientExec_execFailure fits
  · simp only [if_neg failed] at fits ⊢
    rw [Decidable.not_not.mp failed]
    cases copyError with
    | none => exact clientExec_execSuccess fits
    | some error => exact clientExec_execFailure fits

/-- Where its response fits a frame, the end of a command that no signal
killed is what `exec` gives; texts that are UTF-8 arrive unchanged. -/
theorem exec_outcomes {id : String} {stdout stderr : List (List UInt8)}
    {ending : ExecEnd}
    (fits : (execResponse id stdout stderr ending).marshal.length ≤
      guestAgentMaxFrame) :
    ending.Matched stdout stderr
        (clientExec id (execResponse id stdout stderr ending)) ∧
      ∀ bytes, Rune.invalid ∉ runes bytes → textOf bytes = bytes := by
  refine ⟨?_, fun bytes valid => textOf_of_valid valid⟩
  cases ending with
  | exited status copyError => exact matched_exited fits
  | signaled signal error => trivial
  | notStarted error => exact clientExec_execFailure fits
  | cancelled =>
      exact ⟨_, _, clientExec_errorResponse (by decide) fits⟩

/-- A shell that writes to both streams and exits with 7. -/
theorem exec_outcomes_shell :
    clientExec "helper-1"
        (execResponse "helper-1" [bytesOf "out"] [bytesOf "err"]
          (.exited 7 none)) =
      .ok ⟨7, textOf (bytesOf "out"), textOf (bytesOf "err"), false⟩ := by
  have small : (execResponse "helper-1" [bytesOf "out"] [bytesOf "err"]
      (.exited 7 none)).marshal.length ≤ guestAgentMaxFrame := by
    rw [Response.length_marshal]
    decide
  exact (exec_outcomes small).1

/-- A command that fails without a word is shown with one on stderr. -/
theorem exec_stderr_not_collected :
    ∃ result,
      clientExec "helper-1"
          (execResponse "helper-1" [] [] (.exited 3 none)) = .ok result ∧
        result.stderr ≠ textOf (CappedBuffer.collect []).buffer := by
  have small : (execResponse "helper-1" [] []
      (.exited 3 none)).marshal.length ≤ guestAgentMaxFrame := by
    rw [Response.length_marshal]
    decide
  refine ⟨_, matched_exited small, ?_⟩
  decide

end GuestAgent

end Vzctl
