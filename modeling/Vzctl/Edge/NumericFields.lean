import Mathlib.Data.Rat.Floor
import Mathlib.Tactic.NormNum
import Vzctl.Edge.PortForwardProxy
import Vzctl.Router.PlanOnTheWire

/-!
# Numbers in requests

The readers of JSON numbers in vz-edge and in the helper.  A number is a
rational here; a conversion to an integer type drops its fraction and ends the
process where the rest is outside the type.
-/

namespace Vzctl

namespace NumericFields

inductive ParseError where
  | invalid (message : String)
  | trap
  deriving DecidableEq, Repr

abbrev Parsed (α : Type) := Except ParseError α

def invalid {α : Type} (message : String) : Parsed α :=
  .error (.invalid message)

abbrev Fields := List (String × JSONValue)

/-! ## Conversions -/

def truncated (value : Rat) : Int := value.num.tdiv value.den

/-- `Int64(value)` and `Int(value)`. -/
def toInt64 (value : Rat) : Parsed Int :=
  if -2 ^ 63 ≤ truncated value ∧ truncated value < 2 ^ 63 then
    .ok (truncated value)
  else .error .trap

/-- `UInt16(value)`. -/
def toUInt16 (value : Rat) : Parsed UInt16 :=
  if 0 ≤ truncated value ∧ truncated value < 2 ^ 16 then
    .ok (UInt16.ofNat (truncated value).toNat)
  else .error .trap

/-- `value.rounded() == value`. -/
def isWhole (value : Rat) : Bool := value.den == 1

/-! ## vz-edge -/

namespace EdgeServer

def object (value : Option JSONValue) : Parsed Fields :=
  match value with
  | some (.object fields) => .ok fields
  | _ => invalid "object required"

def string (key : String) (fields : Fields) : Parsed String :=
  match fields.lookup key with
  | some (.string value) =>
      if value = "" then invalid (key ++ " is required") else .ok value
  | _ => invalid (key ++ " is required")

def optionalString (key : String) (fields : Fields) :
    Parsed (Option String) :=
  match fields.lookup key with
  | none => .ok none
  | some .null => .ok none
  | some (.string value) => .ok (some value)
  | some _ => invalid (key ++ " must be string")

def port (key : String) (fields : Fields) (fallback : Option UInt16) :
    Parsed UInt16 :=
  match fields.lookup key with
  | none =>
      match fallback with
      | some value => .ok value
      | none => invalid (key ++ " is required")
  | some (.number number) =>
      if 1 ≤ number ∧ number ≤ 65535 then toUInt16 number
      else invalid ("invalid " ++ key)
  | some _ => invalid ("invalid " ++ key)

def int64 (key : String) (fields : Fields) : Parsed Int :=
  match fields.lookup key with
  | some (.number value) =>
      if 0 ≤ value then toInt64 value else invalid ("invalid " ++ key)
  | _ => invalid ("invalid " ++ key)

structure ReconcileParams where
  generation : Int
  digest : String
  desired : JSONValue

/-- The parameters of `edge.reconcile`. -/
def reconcileParams (params : Option JSONValue) : Parsed ReconcileParams := do
  let fields ← object params
  let generation ← int64 "generation" fields
  let digest ← string "digest" fields
  match fields.lookup "desired" with
  | some desired => .ok ⟨generation, digest, desired⟩
  | none => invalid "desired is required"

def parsePort (raw : JSONValue) :
    Parsed PortForwardProxy.PortForwardRecord := do
  let item ← object (some raw)
  let bind ← string "bind" item
  let hostPort ← port "host_port" item none
  let guestIP ← string "guest_ip" item
  let guestPort ← port "guest_port" item none
  let vmID ← string "vm_id" item
  let source ← string "source" item
  let project ← string "project" item
  let stack ← string "stack" item
  let state ← optionalString "state" item
  let updatedAt ← optionalString "updated_at" item
  .ok {
    bind := bind
    hostPort := hostPort
    guestIP := guestIP
    guestPort := guestPort
    vmID := vmID
    source := source
    project := project
    stack := stack
    state := state.getD "active"
    updatedAt := updatedAt.getD "" }

structure IngressPorts where
  http : UInt16
  https : UInt16
  backendHTTP : UInt16
  backendHTTPS : UInt16

/-- The ports of an entry of `ingress`, in the order of `apply`. -/
def ingressPorts (params : Fields) : Parsed IngressPorts := do
  let fallback ← port "http_port" params (some 80)
  let backendHTTP ← port "backend_http_port" params (some fallback)
  let http ← port "http_port" params (some 80)
  let https ← port "https_port" params (some 443)
  let backendHTTPS ← port "backend_https_port" params (some https)
  .ok ⟨http, https, backendHTTP, backendHTTPS⟩

end EdgeServer

/-! ## The helper -/

namespace HelperAgentRequest

structure ExecHead where
  cmd : List String
  cwd : Option String
  env : List (String × String)

structure ExecParams extends ExecHead where
  timeoutMilliseconds : Int
  stdin : Option (List UInt8)

structure ExecTTYParams extends ExecHead where
  cols : Int
  rows : Int

inductive Forwarded where
  | text (value : String)
  | number (value : Int)

structure SystemdEventsParams where
  since : Option String
  limit : Int

def strings (message : String) (items : List JSONValue) :
    Parsed (List String) :=
  items.mapM fun item =>
    match item with
    | .string value => .ok value
    | _ => invalid message

def environment (fields : Fields) : Parsed (List (String × String)) :=
  fields.mapM fun field =>
    match field.2 with
    | .string value => .ok (field.1, value)
    | _ => invalid "agent.exec env values must be strings"

/-- A field that may be missing or null, with a number otherwise. -/
def optionalNumber (key : String) (fits : Rat → Bool)
    (unfit other : String) (fallback : Int) (fields : Fields) : Parsed Int :=
  match fields.lookup key with
  | some (.number value) =>
      if isWhole value && fits value then toInt64 value else invalid unfit
  | none => .ok fallback
  | some .null => .ok fallback
  | some _ => invalid other

def commandItems (params : Fields) : Parsed (List JSONValue) :=
  match params.lookup "cmd" with
  | some (.array (first :: rest)) => .ok (first :: rest)
  | _ => invalid "agent.exec requires non-empty cmd[]"

def workingDirectory (params : Fields) : Parsed (Option String) :=
  match params.lookup "cwd" with
  | some (.string value) => .ok (some value)
  | none => .ok none
  | some .null => .ok none
  | some _ => invalid "agent.exec cwd must be a string"

def execEnvironment (params : Fields) : Parsed (List (String × String)) :=
  match params.lookup "env" with
  | some (.object rawEnv) => environment rawEnv
  | none => .ok []
  | some .null => .ok []
  | some _ => invalid "agent.exec env must be an object"

/-- What `parseExec` reads before the number. -/
def execHead (params : Fields) : Parsed ExecHead := do
  let rawCmd ← commandItems params
  let cmd ← strings "agent.exec cmd entries must be strings" rawCmd
  let cwd ← workingDirectory params
  let env ← execEnvironment params
  .ok ⟨cmd, cwd, env⟩

def timeoutMilliseconds (params : Fields) : Parsed Int :=
  optionalNumber "timeout_ms"
    (fun value => 0 < value && value ≤ 2 ^ 63)
    "agent.exec timeout_ms must be a positive integer"
    "agent.exec timeout_ms must be a number" 30000 params

section Stdin

-- `Data(base64Encoded:)`.
variable (base64Decoded : String → Option (List UInt8))

def stdin (params : Fields) : Parsed (Option (List UInt8)) :=
  match params.lookup "stdin_b64" with
  | some (.string encoded) =>
      match base64Decoded encoded with
      | some data => .ok (some data)
      | none => invalid "agent.exec stdin_b64 is not valid base64"
  | none => .ok none
  | some .null => .ok none
  | some _ => invalid "agent.exec stdin_b64 must be a string"

def parseExec (value : Option JSONValue) : Parsed ExecParams :=
  match value with
  | some (.object params) => do
      let head ← execHead params
      let timeout ← timeoutMilliseconds params
      let input ← stdin base64Decoded params
      .ok ⟨head, timeout, input⟩
  | _ => invalid "agent.exec params must be an object"

def terminalSize (key : String) (fallback : Int) (params : Fields) :
    Parsed Int :=
  optionalNumber key (fun value => 1 ≤ value && value ≤ 65535)
    ("agent.exec_tty " ++ key ++ " must be 1...65535")
    ("agent.exec_tty " ++ key ++ " must be a number") fallback params

def parseExecTTY (value : Option JSONValue) : Parsed ExecTTYParams := do
  let base ← parseExec base64Decoded value
  match value with
  | some (.object params) =>
      if base.stdin.isSome then
        invalid "agent.exec_tty does not accept stdin_b64"
      else do
        let cols ← terminalSize "cols" 80 params
        let rows ← terminalSize "rows" 24 params
        .ok ⟨base.toExecHead, cols, rows⟩
  | _ => invalid "agent.exec_tty params must be an object"

end Stdin

/-- A member that is a non-empty text. -/
def filled (key : String) (params : Fields) : Option String :=
  match params.lookup key with
  | some (.string value) => if value = "" then none else some value
  | _ => none

def probeVia (params : Fields) : Parsed (Option String) :=
  match params.lookup "via" with
  | some (.string via) =>
      if via ∈ ["dns", "ip", "both"] then .ok (some via)
      else invalid "agent.network_probe via must be dns, ip, or both"
  | _ => .ok none

def probeTimeout (params : Fields) : Parsed Int :=
  match params.lookup "timeout_ms" with
  | some (.number raw) =>
      if isWhole raw && (100 ≤ raw && raw ≤ 30000) then toInt64 raw
      else invalid "agent.network_probe timeout_ms must be 100...30000"
  | _ => .ok 5000

def parseNetworkProbe (value : Option JSONValue) :
    Parsed (List (String × Forwarded)) :=
  match value with
  | some (.object params) =>
      let url := filled "url" params
      let target := filled "target" params
      if url.isSome ∧ target.isSome then
        invalid "agent.network_probe cannot set both url and target"
      else if url = none ∧ target = none then
        invalid "agent.network_probe requires url or target"
      else do
        let via ← probeVia params
        let timeout ← probeTimeout params
        .ok ((url.map fun text => ("url", .text text)).toList ++
          (target.map fun text => ("target", .text text)).toList ++
          (via.map fun text => ("via", .text text)).toList ++
          ((filled "connect_ip" params).map fun text =>
            ("connect_ip", .text text)).toList ++
          [("timeout_ms", .number timeout)])
  | _ => invalid "agent.network_probe params must be an object"

def eventsSince (params : Fields) : Parsed (Option String) :=
  match params.lookup "since" with
  | some (.string raw) =>
      if raw = "" then invalid "agent.systemd.events since must be a string"
      else .ok (some raw)
  | none => .ok none
  | some .null => .ok none
  | some _ => invalid "agent.systemd.events since must be a string"

def eventsLimit (params : Fields) : Parsed Int :=
  optionalNumber "limit" (fun raw => 0 < raw && raw ≤ 512)
    "agent.systemd.events limit must be 1...512"
    "agent.systemd.events limit must be a number" 100 params

def parseSystemdEvents (value : Option JSONValue) :
    Parsed SystemdEventsParams :=
  match value with
  | some (.object params) => do
      let since ← eventsSince params
      let limit ← eventsLimit params
      .ok ⟨since, limit⟩
  | _ => invalid "agent.systemd.events params must be an object"

end HelperAgentRequest

/-- The parts of a route plan, before the initializer checks them. -/
def decodedPlan (value : JSONValue) :
    Except PlanError (String × List RouterNetwork × List ForwardPolicy) :=
  match (value.field? "vm_id").bind JSONValue.asString?,
      (value.field? "networks").bind JSONValue.asArray? with
  | some vmID, some rawNetworks => do
      let networks ← rawNetworks.mapM HelperControlServer.decodeNetwork
      let policies ← (HelperControlServer.itemsOf value "policies").mapM
        HelperControlServer.decodePolicy
      .ok (vmID, networks, policies)
  | _, _ => .error (.invalid "invalid route plan")

/-! ## Numbers that are read exactly -/

/-- No conversion ends the process, and what is returned is exact. -/
structure Sound {α ε : Type} (stops : ε) (isExact : α → Prop)
    (outcome : Except ε α) : Prop where
  runs : outcome ≠ .error stops
  exact : ∀ result, outcome = .ok result → isExact result

/-- The number under a key, should there be one, is this value. -/
def Reads (params : Fields) (key : String) (value : Int) : Prop :=
  ∀ number, params.lookup key = some (.number number) → (value : Rat) = number

/-- The number under a key, should there be one, is an integer. -/
def Whole (params : Fields) (key : String) : Prop :=
  ∀ number, params.lookup key = some (.number number) →
    isWhole number = true

/-- A request with numbers, as the code that reads it sees it. -/
inductive Request where
  | reconcile (params : Option JSONValue)
  | portForward (raw : JSONValue)
  | ingress (params : Fields)
  | exec (params : Option JSONValue)
  | execTTY (params : Option JSONValue)
  | networkProbe (params : Option JSONValue)
  | systemdEvents (params : Option JSONValue)
  | routePlan (value : JSONValue)

/-- Every port of a decoded plan is the number of the request. -/
def SamePorts (value : JSONValue) (policies : List ForwardPolicy) : Prop :=
  policies.map (fun policy =>
      policy.allow.map fun allow => allow.ports.map portJSON) =
    (HelperControlServer.itemsOf value "policies").map fun item =>
      (HelperControlServer.itemsOf item "allow").map fun raw =>
        HelperControlServer.itemsOf raw "ports"

/-- Reading the request is sound. -/
def Request.Sound (base64Decoded : String → Option (List UInt8)) :
    Request → Prop
  | .reconcile params =>
      NumericFields.Sound .trap
        (fun result => ∀ fields, params = some (.object fields) →
          Reads fields "generation" result.generation)
        (EdgeServer.reconcileParams params)
  | .portForward raw =>
      NumericFields.Sound .trap
        (fun result => ∀ fields, raw = .object fields →
          Reads fields "host_port" result.hostPort.toNat ∧
            Reads fields "guest_port" result.guestPort.toNat)
        (EdgeServer.parsePort raw)
  | .ingress params =>
      NumericFields.Sound .trap
        (fun result => Reads params "http_port" result.http.toNat ∧
          Reads params "https_port" result.https.toNat ∧
          Reads params "backend_http_port" result.backendHTTP.toNat ∧
          Reads params "backend_https_port" result.backendHTTPS.toNat)
        (EdgeServer.ingressPorts params)
  | .exec params =>
      NumericFields.Sound .trap
        (fun result => ∀ fields, params = some (.object fields) →
          Reads fields "timeout_ms" result.timeoutMilliseconds)
        (HelperAgentRequest.parseExec base64Decoded params)
  | .execTTY params =>
      NumericFields.Sound .trap
        (fun result => ∀ fields, params = some (.object fields) →
          Reads fields "cols" result.cols ∧ Reads fields "rows" result.rows)
        (HelperAgentRequest.parseExecTTY base64Decoded params)
  | .networkProbe params =>
      NumericFields.Sound .trap
        (fun result => ∀ fields, params = some (.object fields) →
          ∃ timeout, ("timeout_ms", .number timeout) ∈ result ∧
            Reads fields "timeout_ms" timeout)
        (HelperAgentRequest.parseNetworkProbe params)
  | .systemdEvents params =>
      NumericFields.Sound .trap
        (fun result => ∀ fields, params = some (.object fields) →
          Reads fields "limit" result.limit)
        (HelperAgentRequest.parseSystemdEvents params)
  | .routePlan value =>
      NumericFields.Sound (.trap .overflow)
        (fun result => SamePorts value result.2.2) (decodedPlan value)

/-! ## The conditions -/

/-- The first item that is not accepted has a property. -/
def First {α : Type} (accepted bad : α → Prop) (items : List α) : Prop :=
  ∃ front item back, items = front ++ item :: back ∧
    (∀ earlier ∈ front, accepted earlier) ∧ bad item

/-- A port that is an integer outside the target type, with everything before
it well formed. -/
def ReachesOverflow (value : JSONValue) : Prop :=
  ∃ vmID rawNetworks,
    (value.field? "vm_id").bind JSONValue.asString? = some vmID ∧
      (value.field? "networks").bind JSONValue.asArray? = some rawNetworks ∧
      (∀ item ∈ rawNetworks,
        (HelperControlServer.decodeNetwork item).isOk = true) ∧
      First (fun item => (HelperControlServer.decodePolicy item).isOk = true)
        (fun item => ∃ name network forward,
          (item.field? "name").bind JSONValue.asString? = some name ∧
            (item.field? "network").bind JSONValue.asString? = some network ∧
            (item.field? "forward").bind JSONValue.asString? = some forward ∧
            First (fun raw =>
                (HelperControlServer.decodeAllow name raw).isOk = true)
              (fun raw => ∃ target proto,
                (raw.field? "to").bind JSONValue.asString? = some target ∧
                  (raw.field? "proto").bind JSONValue.asString? =
                    some proto ∧
                  First (fun port =>
                      (HelperControlServer.decodePort name port).isOk = true)
                    (fun port => ∃ number, port = .number number ∧
                      isWhole number = true ∧
                        (number < -2 ^ 63 ∨ 2 ^ 63 ≤ number))
                    (HelperControlServer.itemsOf raw "ports"))
              (HelperControlServer.itemsOf item "allow"))
        (HelperControlServer.itemsOf value "policies")

/-- The other fields of a port forward, and the ranges of its ports. -/
def PortForwardAccepted (fields : Fields) : Prop :=
  (∀ key ∈ ["bind", "guest_ip", "vm_id", "source", "project", "stack"],
      (EdgeServer.string key fields).isOk = true) ∧
    (∀ key ∈ ["host_port", "guest_port"],
      (EdgeServer.port key fields none).isOk = true) ∧
    ∀ key ∈ ["state", "updated_at"],
      (EdgeServer.optionalString key fields).isOk = true

def ingressKeys : List String :=
  ["http_port", "https_port", "backend_http_port", "backend_https_port"]

/-- The numbers that reach a conversion fit, and those that are returned are
integers. -/
def Request.Fits : Request → Prop
  | .reconcile params => ∀ fields number, params = some (.object fields) →
      fields.lookup "generation" = some (.number number) → 0 ≤ number →
        number < 2 ^ 63 ∧
          ((EdgeServer.string "digest" fields).isOk = true →
            (fields.lookup "desired").isSome = true →
              isWhole number = true)
  | .portForward raw => ∀ fields, raw = .object fields →
      PortForwardAccepted fields →
        Whole fields "host_port" ∧ Whole fields "guest_port"
  | .ingress params =>
      (∀ key ∈ ingressKeys,
        (EdgeServer.port key params (some 80)).isOk = true) →
          ∀ key ∈ ingressKeys, Whole params key
  | .exec params => ∀ fields, params = some (.object fields) →
      (HelperAgentRequest.execHead fields).isOk = true →
        fields.lookup "timeout_ms" ≠ some (.number (2 ^ 63))
  | .execTTY params => ∀ fields, params = some (.object fields) →
      (HelperAgentRequest.execHead fields).isOk = true →
        fields.lookup "timeout_ms" ≠ some (.number (2 ^ 63))
  | .networkProbe _ => True
  | .systemdEvents _ => True
  | .routePlan value => ¬ ReachesOverflow value

/-! ## Converted numbers -/

theorem truncated_of_nonneg {value : Rat} (natural : 0 ≤ value) :
    truncated value = ⌊value⌋ := by
  have numerator : 0 ≤ value.num := Rat.num_nonneg.mpr natural
  rw [truncated, Int.tdiv_eq_ediv_of_nonneg numerator]
  exact (Rat.floor_def value).symm

theorem truncated_of_whole {value : Rat} (whole : isWhole value = true) :
    (truncated value : Rat) = value := by
  have single : value.den = 1 := eq_of_beq whole
  rw [truncated, single]
  simpa using (Rat.den_eq_one_iff value).mp single

theorem truncated_eq_iff {value : Rat} :
    (truncated value : Rat) = value ↔ isWhole value = true := by
  constructor
  · intro kept
    rw [isWhole, ← kept, Rat.den_intCast]
    rfl
  · exact truncated_of_whole

theorem toInt64_of_nonneg {value : Rat} (natural : 0 ≤ value) :
    toInt64 value =
      if value < 2 ^ 63 then .ok (truncated value) else .error .trap := by
  have low : -2 ^ 63 ≤ truncated value := by
    have floor : 0 ≤ ⌊value⌋ := Int.floor_nonneg.mpr natural
    rw [truncated_of_nonneg natural]
    omega
  have high : truncated value < 2 ^ 63 ↔ value < 2 ^ 63 := by
    rw [truncated_of_nonneg natural, Int.floor_lt]
    norm_num
  simp only [toInt64, low, high, true_and]

theorem toInt64_of_whole {value : Rat} (whole : isWhole value = true) :
    toInt64 value =
      if -2 ^ 63 ≤ value ∧ value < 2 ^ 63 then .ok (truncated value)
      else .error .trap := by
  have kept := truncated_of_whole whole
  have same : (-2 ^ 63 ≤ truncated value ∧ truncated value < 2 ^ 63) ↔
      (-2 ^ 63 ≤ value ∧ value < 2 ^ 63) := by
    generalize truncated value = integer at kept
    rw [← kept]
    norm_cast
  simp only [toInt64, same]

theorem toUInt16_of_port {value : Rat} (low : 1 ≤ value)
    (high : value ≤ 65535) :
    ∃ result, toUInt16 value = .ok result ∧
      (result.toNat : Int) = truncated value := by
  have natural : (0 : Rat) ≤ value := le_trans (by norm_num) low
  have floorLow : 0 ≤ truncated value := by
    rw [truncated_of_nonneg natural]
    exact Int.floor_nonneg.mpr natural
  have floorHigh : truncated value < 2 ^ 16 := by
    rw [truncated_of_nonneg natural, Int.floor_lt]
    exact lt_of_le_of_lt high (by norm_num)
  refine ⟨_, if_pos ⟨floorLow, floorHigh⟩, ?_⟩
  rw [UInt16.toNat_ofNat']
  omega

/-! ## Readers -/

def Runs {α : Type} (outcome : Parsed α) : Prop := outcome ≠ .error .trap

theorem runs_ok {α : Type} (value : α) : Runs (.ok value : Parsed α) := by
  intro impossible
  cases impossible

theorem runs_invalid {α : Type} (message : String) :
    Runs (invalid message : Parsed α) := by
  intro impossible
  cases impossible

theorem runs_bind {α β : Type} {first : Parsed α} {next : α → Parsed β}
    (runs : Runs first)
    (continues : ∀ value, first = .ok value → Runs (next value)) :
    Runs (first >>= next) := by
  cases performed : first with
  | error failure =>
      intro trapped
      rw [performed] at runs
      exact runs (congrArg Except.error (Except.error.inj trapped))
  | ok value => exact continues value performed

theorem runs_bind_iff {α β : Type} {first : Parsed α} {next : α → Parsed β}
    (continues : ∀ value, Runs (next value)) :
    Runs (first >>= next) ↔ Runs first := by
  constructor
  · intro runs trapped
    apply runs
    rw [trapped]
    rfl
  · intro runs
    exact runs_bind runs fun value _ => continues value

theorem runs_mapM {α β : Type} {perform : α → Parsed β} (items : List α)
    (runs : ∀ item, Runs (perform item)) : Runs (items.mapM perform) := by
  induction items with
  | nil => exact runs_ok []
  | cons item rest ih =>
      rw [List.mapM_cons]
      refine runs_bind (runs item) fun result _ => ?_
      exact runs_bind ih fun results _ => runs_ok _

namespace EdgeServer

theorem runs_object (value : Option JSONValue) : Runs (object value) := by
  unfold object
  split
  · exact runs_ok _
  · exact runs_invalid _

theorem runs_string (key : String) (fields : Fields) :
    Runs (string key fields) := by
  unfold string
  split
  · split
    · exact runs_invalid _
    · exact runs_ok _
  · exact runs_invalid _

theorem runs_optionalString (key : String) (fields : Fields) :
    Runs (optionalString key fields) := by
  unfold optionalString
  split
  · exact runs_ok _
  · exact runs_ok _
  · exact runs_ok _
  · exact runs_invalid _

theorem runs_port (key : String) (fields : Fields)
    (fallback : Option UInt16) : Runs (port key fields fallback) := by
  unfold port
  split
  · split
    · exact runs_ok _
    · exact runs_invalid _
  · split
    · rename_i range
      obtain ⟨result, converted, _⟩ := toUInt16_of_port range.1 range.2
      rw [converted]
      exact runs_ok result
    · exact runs_invalid _
  · exact runs_invalid _

theorem truncated_of_port {key : String} {fields : Fields}
    {fallback : Option UInt16} {result : UInt16}
    (read : port key fields fallback = .ok result) {number : Rat}
    (found : fields.lookup key = some (.number number)) :
    (result.toNat : Int) = truncated number := by
  unfold port at read
  rw [found] at read
  simp only at read
  split at read
  · rename_i range
    obtain ⟨other, converted, same⟩ := toUInt16_of_port range.1 range.2
    rw [converted] at read
    rw [← Except.ok.inj read, same]
  · cases read

theorem reads_port_iff {key : String} {fields : Fields}
    {fallback : Option UInt16} {result : UInt16}
    (read : port key fields fallback = .ok result) :
    Reads fields key result.toNat ↔ Whole fields key := by
  constructor
  · intro exact number found
    have same := exact number found
    rwa [truncated_of_port read found, truncated_eq_iff] at same
  · intro whole number found
    rw [truncated_of_port read found]
    exact truncated_of_whole (whole number found)

theorem isOk_port_iff {key : String} {fields : Fields}
    (first second : UInt16) :
    (port key fields (some first)).isOk = true ↔
      (port key fields (some second)).isOk = true := by
  unfold port
  cases fields.lookup key with
  | none => exact Iff.rfl
  | some value =>
      cases value <;> exact Iff.rfl

/-! ### Requests of vz-edge -/

section Reconcile

variable {base64Decoded : String → Option (List UInt8)} {fields : Fields}
  {number : Rat}

/-- What `reconcileParams` reads behind the generation. -/
def afterGeneration (fields : Fields) (generation : Int) :
    Parsed ReconcileParams :=
  string "digest" fields >>= fun digest =>
    match fields.lookup "desired" with
    | some desired => .ok ⟨generation, digest, desired⟩
    | none => invalid "desired is required"

theorem reconcileParams_object (fields : Fields) :
    reconcileParams (some (.object fields)) =
      int64 "generation" fields >>= afterGeneration fields := rfl

theorem runs_afterGeneration (generation : Int) :
    Runs (afterGeneration fields generation) := by
  refine runs_bind (runs_string _ _) fun digest _ => ?_
  cases fields.lookup "desired" with
  | none => exact runs_invalid _
  | some desired => exact runs_ok _

theorem afterGeneration_cases {generation : Int} {result : ReconcileParams}
    (accepted : afterGeneration fields generation = .ok result) :
    (string "digest" fields).isOk = true ∧
      (fields.lookup "desired").isSome = true ∧
        result.generation = generation := by
  obtain ⟨digest, ofDigest, accepted⟩ := Outcome.bind_eq_ok_iff.mp accepted
  rw [ofDigest]
  cases ofDesired : fields.lookup "desired" with
  | none =>
      rw [ofDesired] at accepted
      cases accepted
  | some desired =>
      rw [ofDesired] at accepted
      rw [← Except.ok.inj accepted]
      exact ⟨rfl, rfl, rfl⟩

theorem exists_afterGeneration (generation : Int)
    (named : (string "digest" fields).isOk = true)
    (wanted : (fields.lookup "desired").isSome = true) :
    ∃ result, afterGeneration fields generation = .ok result ∧
      result.generation = generation := by
  obtain ⟨digest, ofDigest⟩ := Outcome.exists_of_isOk named
  obtain ⟨desired, ofDesired⟩ := Option.isSome_iff_exists.mp wanted
  refine ⟨⟨generation, digest, desired⟩, ?_, rfl⟩
  rw [afterGeneration, ofDigest]
  change (match fields.lookup "desired" with | some _ => _ | none => _) = _
  rw [ofDesired]

theorem int64_of_nonneg {key : String}
    (found : fields.lookup key = some (.number number))
    (natural : 0 ≤ number) :
    int64 key fields =
      if number < 2 ^ 63 then .ok (truncated number) else .error .trap := by
  unfold int64
  rw [found]
  simp only [natural, if_true, toInt64_of_nonneg natural]

/-- A request without a natural number as its generation is refused. -/
theorem reconcile_sound_iff_of_refused {params : Option JSONValue}
    {message : String} (refused : reconcileParams params = invalid message)
    (without : ∀ fields number, params = some (.object fields) →
      fields.lookup "generation" = some (.number number) → ¬ 0 ≤ number) :
    (Request.reconcile params).Sound base64Decoded ↔
      (Request.reconcile params).Fits := by
  constructor
  · intro _ fields number isFields found natural
    exact absurd natural (without fields number isFields found)
  · intro _
    constructor
    · rw [refused]
      exact runs_invalid _
    · intro result accepted
      rw [refused] at accepted
      cases accepted

/-- The generation is a natural number that fits. -/
theorem reconcile_sound_iff_of_small
    (found : fields.lookup "generation" = some (.number number))
    (natural : 0 ≤ number) (small : number < 2 ^ 63) :
    (Request.reconcile (some (.object fields))).Sound base64Decoded ↔
      (Request.reconcile (some (.object fields))).Fits := by
  have read : reconcileParams (some (.object fields)) =
      afterGeneration fields (truncated number) := by
    rw [reconcileParams_object, int64_of_nonneg found natural, if_pos small]
    rfl
  constructor
  · rintro sound others other ⟨⟩ isGeneration _
    rw [found] at isGeneration
    cases isGeneration
    refine ⟨small, fun named wanted => ?_⟩
    obtain ⟨result, accepted, isNumber⟩ :=
      exists_afterGeneration (truncated number) named wanted
    have exact := sound.exact result (read.trans accepted) fields rfl number
      found
    rw [isNumber] at exact
    exact truncated_eq_iff.mp exact
  · intro fits
    have fit := (fits fields number rfl found natural).2
    constructor
    · change reconcileParams (some (.object fields)) ≠ _
      rw [read]
      exact runs_afterGeneration _
    · rintro result accepted others ⟨⟩ other isGeneration
      rw [found] at isGeneration
      cases isGeneration
      obtain ⟨named, wanted, isNumber⟩ :=
        afterGeneration_cases (read.symm.trans accepted)
      rw [isNumber]
      exact truncated_of_whole (fit named wanted)

theorem reconcile_sound_iff_of_large
    (found : fields.lookup "generation" = some (.number number))
    (natural : 0 ≤ number) (large : ¬ number < 2 ^ 63) :
    (Request.reconcile (some (.object fields))).Sound base64Decoded ↔
      (Request.reconcile (some (.object fields))).Fits := by
  have trapped : reconcileParams (some (.object fields)) = .error .trap := by
    rw [reconcileParams_object, int64_of_nonneg found natural, if_neg large]
    rfl
  constructor
  · intro sound
    exact absurd trapped sound.runs
  · intro fits
    exact absurd (fits fields number rfl found natural).1 large

theorem reconcile_sound_iff
    (base64Decoded : String → Option (List UInt8))
    (params : Option JSONValue) :
    (Request.reconcile params).Sound base64Decoded ↔
      (Request.reconcile params).Fits := by
  by_cases isObject : ∃ fields, params = some (.object fields)
  · obtain ⟨fields, rfl⟩ := isObject
    by_cases isNumber : ∃ number,
        fields.lookup "generation" = some (.number number) ∧ 0 ≤ number
    · obtain ⟨number, found, natural⟩ := isNumber
      by_cases small : number < 2 ^ 63
      · exact reconcile_sound_iff_of_small found natural small
      · exact reconcile_sound_iff_of_large found natural small
    · have refused : int64 "generation" fields =
          invalid "invalid generation" := by
        unfold int64
        split
        · rename_i number found
          split
          · rename_i natural
            exact absurd ⟨number, found, natural⟩ isNumber
          · rfl
        · rfl
      have failed : reconcileParams (some (.object fields)) =
          invalid "invalid generation" := by
        rw [reconcileParams_object, refused]
        rfl
      refine reconcile_sound_iff_of_refused failed ?_
      rintro others number ⟨⟩ found natural
      exact isNumber ⟨number, found, natural⟩
  · have refused : object params = invalid "object required" := by
      unfold object
      split
      · rename_i fields
        exact absurd ⟨fields, rfl⟩ isObject
      · rfl
    have failed : reconcileParams params = invalid "object required" := by
      rw [reconcileParams, refused]
      rfl
    refine reconcile_sound_iff_of_refused failed ?_
    exact fun fields number isFields => absurd ⟨fields, isFields⟩ isObject

end Reconcile

theorem runs_parsePort (raw : JSONValue) : Runs (parsePort raw) := by
  refine runs_bind (runs_object _) fun item _ => ?_
  refine runs_bind (runs_string _ _) fun bind _ => ?_
  refine runs_bind (runs_port _ _ _) fun hostPort _ => ?_
  refine runs_bind (runs_string _ _) fun guestIP _ => ?_
  refine runs_bind (runs_port _ _ _) fun guestPort _ => ?_
  refine runs_bind (runs_string _ _) fun vmID _ => ?_
  refine runs_bind (runs_string _ _) fun source _ => ?_
  refine runs_bind (runs_string _ _) fun project _ => ?_
  refine runs_bind (runs_string _ _) fun stack _ => ?_
  refine runs_bind (runs_optionalString _ _) fun state _ => ?_
  exact runs_bind (runs_optionalString _ _) fun updatedAt _ => runs_ok _

theorem isOk_of_eq {α : Type} {outcome : Parsed α} {value : α}
    (performed : outcome = .ok value) : outcome.isOk = true := by
  rw [performed]
  rfl

theorem parsePort_ok {fields : Fields}
    {record : PortForwardProxy.PortForwardRecord}
    (accepted : parsePort (.object fields) = .ok record) :
    PortForwardAccepted fields ∧
      port "host_port" fields none = .ok record.hostPort ∧
      port "guest_port" fields none = .ok record.guestPort := by
  rw [parsePort, Outcome.bind_eq_ok_iff] at accepted
  obtain ⟨item, isItem, accepted⟩ := accepted
  have same : item = fields := by simpa [object] using isItem.symm
  rw [same] at accepted
  obtain ⟨bind, ofBind, accepted⟩ := Outcome.bind_eq_ok_iff.mp accepted
  obtain ⟨hostPort, ofHostPort, accepted⟩ :=
    Outcome.bind_eq_ok_iff.mp accepted
  obtain ⟨guestIP, ofGuestIP, accepted⟩ := Outcome.bind_eq_ok_iff.mp accepted
  obtain ⟨guestPort, ofGuestPort, accepted⟩ :=
    Outcome.bind_eq_ok_iff.mp accepted
  obtain ⟨vmID, ofVmID, accepted⟩ := Outcome.bind_eq_ok_iff.mp accepted
  obtain ⟨source, ofSource, accepted⟩ := Outcome.bind_eq_ok_iff.mp accepted
  obtain ⟨project, ofProject, accepted⟩ := Outcome.bind_eq_ok_iff.mp accepted
  obtain ⟨stack, ofStack, accepted⟩ := Outcome.bind_eq_ok_iff.mp accepted
  obtain ⟨state, ofState, accepted⟩ := Outcome.bind_eq_ok_iff.mp accepted
  obtain ⟨updatedAt, ofUpdatedAt, accepted⟩ :=
    Outcome.bind_eq_ok_iff.mp accepted
  rw [← Except.ok.inj accepted]
  refine ⟨⟨?_, ?_, ?_⟩, ofHostPort, ofGuestPort⟩
  · simp [isOk_of_eq ofBind, isOk_of_eq ofGuestIP, isOk_of_eq ofVmID,
      isOk_of_eq ofSource, isOk_of_eq ofProject, isOk_of_eq ofStack]
  · simp [isOk_of_eq ofHostPort, isOk_of_eq ofGuestPort]
  · simp [isOk_of_eq ofState, isOk_of_eq ofUpdatedAt]

theorem parsePort_of_accepted {fields : Fields}
    (accepted : PortForwardAccepted fields) :
    ∃ record, parsePort (.object fields) = .ok record := by
  obtain ⟨texts, ports, options⟩ := accepted
  obtain ⟨address, ofBind⟩ := Outcome.exists_of_isOk (texts "bind" (by simp))
  obtain ⟨guestIP, ofGuestIP⟩ :=
    Outcome.exists_of_isOk (texts "guest_ip" (by simp))
  obtain ⟨vmID, ofVmID⟩ := Outcome.exists_of_isOk (texts "vm_id" (by simp))
  obtain ⟨source, ofSource⟩ :=
    Outcome.exists_of_isOk (texts "source" (by simp))
  obtain ⟨project, ofProject⟩ :=
    Outcome.exists_of_isOk (texts "project" (by simp))
  obtain ⟨stack, ofStack⟩ := Outcome.exists_of_isOk (texts "stack" (by simp))
  obtain ⟨hostPort, ofHostPort⟩ :=
    Outcome.exists_of_isOk (ports "host_port" (by simp))
  obtain ⟨guestPort, ofGuestPort⟩ :=
    Outcome.exists_of_isOk (ports "guest_port" (by simp))
  obtain ⟨state, ofState⟩ :=
    Outcome.exists_of_isOk (options "state" (by simp))
  obtain ⟨updatedAt, ofUpdatedAt⟩ :=
    Outcome.exists_of_isOk (options "updated_at" (by simp))
  refine ⟨⟨address, hostPort, guestIP, guestPort, vmID, source, project, stack,
    state.getD "active", updatedAt.getD ""⟩, ?_⟩
  rw [parsePort, object]
  simp only [bind, Except.bind, ofBind, ofHostPort, ofGuestIP, ofGuestPort,
    ofVmID, ofSource, ofProject, ofStack, ofState, ofUpdatedAt]

theorem portForward_sound_iff
    (base64Decoded : String → Option (List UInt8)) (raw : JSONValue) :
    (Request.portForward raw).Sound base64Decoded ↔
      (Request.portForward raw).Fits := by
  constructor
  · intro sound fields same accepted
    obtain ⟨record, parsed⟩ := parsePort_of_accepted accepted
    obtain ⟨_, ofHostPort, ofGuestPort⟩ := parsePort_ok parsed
    rw [← same] at parsed
    have exact := sound.exact record parsed fields same
    exact ⟨(reads_port_iff ofHostPort).mp exact.1,
      (reads_port_iff ofGuestPort).mp exact.2⟩
  · intro fits
    constructor
    · exact runs_parsePort raw
    · intro record parsed fields same
      rw [same] at parsed
      obtain ⟨accepted, ofHostPort, ofGuestPort⟩ := parsePort_ok parsed
      have whole := fits fields same accepted
      exact ⟨(reads_port_iff ofHostPort).mpr whole.1,
        (reads_port_iff ofGuestPort).mpr whole.2⟩

theorem runs_ingressPorts (params : Fields) : Runs (ingressPorts params) := by
  refine runs_bind (runs_port _ _ _) fun fallback _ => ?_
  refine runs_bind (runs_port _ _ _) fun backendHTTP _ => ?_
  refine runs_bind (runs_port _ _ _) fun http _ => ?_
  refine runs_bind (runs_port _ _ _) fun https _ => ?_
  exact runs_bind (runs_port _ _ _) fun backendHTTPS _ => runs_ok _

theorem ingressPorts_ok {params : Fields} {ports : IngressPorts}
    (accepted : ingressPorts params = .ok ports) :
    (∃ fallback, port "backend_http_port" params (some fallback) =
        .ok ports.backendHTTP) ∧
      port "http_port" params (some 80) = .ok ports.http ∧
      port "https_port" params (some 443) = .ok ports.https ∧
      port "backend_https_port" params (some ports.https) =
        .ok ports.backendHTTPS := by
  rw [ingressPorts, Outcome.bind_eq_ok_iff] at accepted
  obtain ⟨fallback, _, accepted⟩ := accepted
  obtain ⟨backendHTTP, ofBackendHTTP, accepted⟩ :=
    Outcome.bind_eq_ok_iff.mp accepted
  obtain ⟨http, ofHTTP, accepted⟩ := Outcome.bind_eq_ok_iff.mp accepted
  obtain ⟨https, ofHTTPS, accepted⟩ := Outcome.bind_eq_ok_iff.mp accepted
  obtain ⟨backendHTTPS, ofBackendHTTPS, accepted⟩ :=
    Outcome.bind_eq_ok_iff.mp accepted
  rw [← Except.ok.inj accepted]
  exact ⟨⟨fallback, ofBackendHTTP⟩, ofHTTP, ofHTTPS, ofBackendHTTPS⟩

theorem ingressPorts_of_accepted {params : Fields}
    (accepted : ∀ key ∈ ingressKeys,
      (port key params (some 80)).isOk = true) :
    ∃ ports, ingressPorts params = .ok ports := by
  have found : ∀ key ∈ ingressKeys, ∀ fallback,
      ∃ value, port key params (some fallback) = .ok value := by
    intro key member fallback
    exact Outcome.exists_of_isOk
      ((isOk_port_iff 80 fallback).mp (accepted key member))
  obtain ⟨http, ofHTTP⟩ := found "http_port" (by simp [ingressKeys]) 80
  obtain ⟨backendHTTP, ofBackendHTTP⟩ :=
    found "backend_http_port" (by simp [ingressKeys]) http
  obtain ⟨https, ofHTTPS⟩ := found "https_port" (by simp [ingressKeys]) 443
  obtain ⟨backendHTTPS, ofBackendHTTPS⟩ :=
    found "backend_https_port" (by simp [ingressKeys]) https
  refine ⟨⟨http, https, backendHTTP, backendHTTPS⟩, ?_⟩
  rw [ingressPorts]
  simp only [bind, Except.bind, ofHTTP, ofBackendHTTP, ofHTTPS,
    ofBackendHTTPS]

theorem ingress_sound_iff
    (base64Decoded : String → Option (List UInt8)) (params : Fields) :
    (Request.ingress params).Sound base64Decoded ↔
      (Request.ingress params).Fits := by
  constructor
  · intro sound accepted
    obtain ⟨ports, parsed⟩ := ingressPorts_of_accepted accepted
    obtain ⟨⟨fallback, ofBackendHTTP⟩, ofHTTP, ofHTTPS, ofBackendHTTPS⟩ :=
      ingressPorts_ok parsed
    obtain ⟨http, https, backendHTTP, backendHTTPS⟩ :=
      sound.exact ports parsed
    intro key member
    simp only [ingressKeys, List.mem_cons, List.not_mem_nil, or_false]
      at member
    rcases member with same | same | same | same
    · rw [same]
      exact (reads_port_iff ofHTTP).mp http
    · rw [same]
      exact (reads_port_iff ofHTTPS).mp https
    · rw [same]
      exact (reads_port_iff ofBackendHTTP).mp backendHTTP
    · rw [same]
      exact (reads_port_iff ofBackendHTTPS).mp backendHTTPS
  · intro fits
    constructor
    · exact runs_ingressPorts params
    · intro ports parsed
      obtain ⟨⟨fallback, ofBackendHTTP⟩, ofHTTP, ofHTTPS, ofBackendHTTPS⟩ :=
        ingressPorts_ok parsed
      have accepted : ∀ key ∈ ingressKeys,
          (port key params (some 80)).isOk = true := by
        intro key member
        simp only [ingressKeys, List.mem_cons, List.not_mem_nil, or_false]
          at member
        rcases member with same | same | same | same
        · rw [same]
          exact isOk_of_eq ofHTTP
        · rw [same]
          exact (isOk_port_iff 443 80).mp (isOk_of_eq ofHTTPS)
        · rw [same]
          exact (isOk_port_iff fallback 80).mp (isOk_of_eq ofBackendHTTP)
        · rw [same]
          exact (isOk_port_iff ports.https 80).mp (isOk_of_eq ofBackendHTTPS)
      have whole := fits accepted
      exact ⟨(reads_port_iff ofHTTP).mpr
          (whole "http_port" (by simp [ingressKeys])),
        (reads_port_iff ofHTTPS).mpr
          (whole "https_port" (by simp [ingressKeys])),
        (reads_port_iff ofBackendHTTP).mpr
          (whole "backend_http_port" (by simp [ingressKeys])),
        (reads_port_iff ofBackendHTTPS).mpr
          (whole "backend_https_port" (by simp [ingressKeys]))⟩

end EdgeServer

/-! ### Requests of the helper -/

namespace HelperAgentRequest

section OptionalNumber

variable {key : String} {fits : Rat → Bool} {unfit other : String}
  {fallback : Int} {params : Fields}

theorem reads_optionalNumber {result : Int}
    (read : optionalNumber key fits unfit other fallback params =
      .ok result) : Reads params key result := by
  intro number found
  unfold optionalNumber at read
  rw [found] at read
  simp only at read
  split at read
  · rename_i accepted
    have whole := (Bool.and_eq_true_iff.mp accepted).1
    rw [toInt64_of_whole whole] at read
    split at read
    · rw [← Except.ok.inj read]
      exact truncated_of_whole whole
    · cases read
  · cases read

theorem runs_optionalNumber_iff :
    Runs (optionalNumber key fits unfit other fallback params) ↔
      ∀ number, params.lookup key = some (.number number) →
        isWhole number = true → fits number = true →
          -2 ^ 63 ≤ number ∧ number < 2 ^ 63 := by
  unfold optionalNumber
  split
  · rename_i number found
    by_cases accepted : (isWhole number && fits number) = true
    · have parts := Bool.and_eq_true_iff.mp accepted
      rw [if_pos accepted, toInt64_of_whole parts.1]
      constructor
      · intro runs another same _ _
        have sameNumber : number = another := by simpa [found] using same
        rw [← sameNumber]
        by_contra outside
        rw [if_neg outside] at runs
        exact runs rfl
      · intro inside
        rw [if_pos (inside number found parts.1 parts.2)]
        exact runs_ok _
    · rw [if_neg accepted]
      refine iff_of_true (runs_invalid _) ?_
      intro another same whole fit
      have sameNumber : number = another := by simpa [found] using same
      rw [sameNumber, whole, fit] at accepted
      exact absurd rfl accepted
  · rename_i found
    refine iff_of_true (runs_ok _) ?_
    intro another same
    rw [found] at same
    cases same
  · rename_i found
    refine iff_of_true (runs_ok _) ?_
    intro another same
    rw [found] at same
    cases same
  · rename_i value _ notNumber _ found
    refine iff_of_true (runs_invalid _) ?_
    intro another same
    rw [found] at same
    exact absurd (Option.some.inj same) (notNumber another)

theorem runs_optionalNumber
    (small : ∀ number, fits number = true → 0 ≤ number ∧ number ≤ 65535) :
    Runs (optionalNumber key fits unfit other fallback params) := by
  rw [runs_optionalNumber_iff]
  intro number _ _ fit
  have range := small number fit
  constructor
  · exact le_trans (by norm_num) range.1
  · exact lt_of_le_of_lt range.2 (by norm_num)

end OptionalNumber

theorem runs_strings (message : String) (items : List JSONValue) :
    Runs (strings message items) := by
  refine runs_mapM items fun item => ?_
  split
  · exact runs_ok _
  · exact runs_invalid _

theorem runs_environment (fields : Fields) : Runs (environment fields) := by
  refine runs_mapM fields fun field => ?_
  split
  · exact runs_ok _
  · exact runs_invalid _

theorem runs_execHead (params : Fields) : Runs (execHead params) := by
  have command : Runs (commandItems params) := by
    unfold commandItems
    split
    · exact runs_ok _
    · exact runs_invalid _
  have directory : Runs (workingDirectory params) := by
    unfold workingDirectory
    split
    · exact runs_ok _
    · exact runs_ok _
    · exact runs_ok _
    · exact runs_invalid _
  have settings : Runs (execEnvironment params) := by
    unfold execEnvironment
    split
    · exact runs_environment _
    · exact runs_ok _
    · exact runs_ok _
    · exact runs_invalid _
  refine runs_bind command fun rawCmd _ => ?_
  refine runs_bind (runs_strings _ _) fun cmd _ => ?_
  refine runs_bind directory fun cwd _ => ?_
  exact runs_bind settings fun env _ => runs_ok _

theorem runs_stdin (base64Decoded : String → Option (List UInt8))
    (params : Fields) : Runs (stdin base64Decoded params) := by
  unfold stdin
  split
  · split
    · exact runs_ok _
    · exact runs_invalid _
  · exact runs_ok _
  · exact runs_ok _
  · exact runs_invalid _

theorem runs_timeoutMilliseconds_iff (params : Fields) :
    Runs (timeoutMilliseconds params) ↔
      params.lookup "timeout_ms" ≠ some (.number (2 ^ 63)) := by
  rw [timeoutMilliseconds, runs_optionalNumber_iff]
  constructor
  · intro inside found
    have range := inside (2 ^ 63) found (by rfl)
      (by norm_num)
    exact absurd range.2 (lt_irrefl _)
  · intro other number found _ fit
    simp only [Bool.and_eq_true, decide_eq_true_eq] at fit
    constructor
    · exact le_trans (by norm_num) fit.1.le
    · refine lt_of_le_of_ne fit.2 ?_
      intro same
      rw [same] at found
      exact other found

variable (base64Decoded : String → Option (List UInt8))

theorem runs_parseExec_iff (params : Option JSONValue) :
    Runs (parseExec base64Decoded params) ↔
      ∀ fields, params = some (.object fields) →
        (execHead fields).isOk = true →
          fields.lookup "timeout_ms" ≠ some (.number (2 ^ 63)) := by
  unfold parseExec
  split
  · rename_i fields
    cases performed : execHead fields with
    | error failure =>
        constructor
        · intro _ others same accepted
          have sameFields : fields = others := by simpa using same
          rw [← sameFields, performed] at accepted
          cases accepted
        · intro _
          have runs := runs_execHead fields
          rw [performed] at runs
          intro trapped
          exact runs (congrArg Except.error (Except.error.inj trapped))
    | ok head =>
        change Runs (timeoutMilliseconds fields >>= fun timeout =>
          stdin base64Decoded fields >>= fun input =>
            (.ok ⟨head, timeout, input⟩ : Parsed ExecParams)) ↔ _
        rw [runs_bind_iff fun timeout => runs_bind
          (runs_stdin base64Decoded fields) fun input _ => runs_ok _,
          runs_timeoutMilliseconds_iff]
        constructor
        · intro other others same _
          have sameFields : fields = others := by simpa using same
          rwa [← sameFields]
        · intro all
          exact all fields rfl (by rw [performed]; rfl)
  · rename_i notObject
    refine iff_of_true (runs_invalid _) ?_
    intro fields same
    exact absurd same (notObject fields)

theorem exec_sound_iff (params : Option JSONValue) :
    (Request.exec params).Sound base64Decoded ↔
      (Request.exec params).Fits := by
  constructor
  · intro sound
    exact (runs_parseExec_iff base64Decoded params).mp sound.runs
  · intro fits
    refine ⟨(runs_parseExec_iff base64Decoded params).mpr fits, ?_⟩
    intro result accepted fields same
    rw [same, parseExec, Outcome.bind_eq_ok_iff] at accepted
    obtain ⟨head, _, accepted⟩ := accepted
    obtain ⟨timeout, ofTimeout, accepted⟩ :=
      Outcome.bind_eq_ok_iff.mp accepted
    obtain ⟨input, _, accepted⟩ := Outcome.bind_eq_ok_iff.mp accepted
    rw [← Except.ok.inj accepted]
    exact reads_optionalNumber ofTimeout

theorem runs_terminalSize (key : String) (fallback : Int)
    (params : Fields) : Runs (terminalSize key fallback params) := by
  apply runs_optionalNumber
  intro number fit
  simp only [Bool.and_eq_true, decide_eq_true_eq] at fit
  exact ⟨le_trans (by norm_num) fit.1, fit.2⟩

theorem runs_parseExecTTY_iff (params : Option JSONValue) :
    Runs (parseExecTTY base64Decoded params) ↔
      Runs (parseExec base64Decoded params) := by
  apply runs_bind_iff
  intro base
  split
  · split
    · exact runs_invalid _
    · refine runs_bind (runs_terminalSize _ _ _) fun cols _ => ?_
      exact runs_bind (runs_terminalSize _ _ _) fun rows _ => runs_ok _
  · exact runs_invalid _

theorem execTTY_sound_iff (params : Option JSONValue) :
    (Request.execTTY params).Sound base64Decoded ↔
      (Request.execTTY params).Fits := by
  have runs_iff := (runs_parseExecTTY_iff base64Decoded params).trans
    (runs_parseExec_iff base64Decoded params)
  constructor
  · intro sound
    exact runs_iff.mp sound.runs
  · intro fits
    refine ⟨runs_iff.mpr fits, ?_⟩
    intro result accepted fields same
    rw [parseExecTTY, Outcome.bind_eq_ok_iff] at accepted
    obtain ⟨base, _, accepted⟩ := accepted
    rw [same] at accepted
    simp only at accepted
    split at accepted
    · cases accepted
    · obtain ⟨cols, ofCols, accepted⟩ := Outcome.bind_eq_ok_iff.mp accepted
      obtain ⟨rows, ofRows, accepted⟩ := Outcome.bind_eq_ok_iff.mp accepted
      rw [← Except.ok.inj accepted]
      exact ⟨reads_optionalNumber ofCols, reads_optionalNumber ofRows⟩

theorem networkProbe_sound (params : Option JSONValue) :
    (Request.networkProbe params).Sound base64Decoded := by
  have via : ∀ fields, Runs (probeVia fields) := by
    intro fields
    unfold probeVia
    split
    · split
      · exact runs_ok _
      · exact runs_invalid _
    · exact runs_ok _
  have timeout : ∀ fields, Runs (probeTimeout fields) := by
    intro fields
    unfold probeTimeout
    split
    · split
      · rename_i number _ accepted
        simp only [Bool.and_eq_true, decide_eq_true_eq] at accepted
        have inside : -2 ^ 63 ≤ number ∧ number < 2 ^ 63 :=
          ⟨le_trans (by norm_num) accepted.2.1,
            lt_of_le_of_lt accepted.2.2 (by norm_num)⟩
        rw [toInt64_of_whole accepted.1, if_pos inside]
        exact runs_ok _
      · exact runs_invalid _
    · exact runs_ok _
  have reads : ∀ fields result, probeTimeout fields = .ok result →
      Reads fields "timeout_ms" result := by
    intro fields result read number found
    unfold probeTimeout at read
    rw [found] at read
    simp only at read
    split at read
    · rename_i accepted
      have whole := (Bool.and_eq_true_iff.mp accepted).1
      rw [toInt64_of_whole whole] at read
      split at read
      · rw [← Except.ok.inj read]
        exact truncated_of_whole whole
      · cases read
    · cases read
  constructor
  · unfold parseNetworkProbe
    split
    · simp only
      split
      · exact runs_invalid _
      · split
        · exact runs_invalid _
        · refine runs_bind (via _) fun way _ => ?_
          exact runs_bind (timeout _) fun limit _ => runs_ok _
    · exact runs_invalid _
  · intro result accepted fields same
    rw [same, parseNetworkProbe] at accepted
    split at accepted
    · cases accepted
    · split at accepted
      · cases accepted
      · obtain ⟨way, _, accepted⟩ := Outcome.bind_eq_ok_iff.mp accepted
        obtain ⟨limit, ofLimit, accepted⟩ :=
          Outcome.bind_eq_ok_iff.mp accepted
        rw [← Except.ok.inj accepted]
        exact ⟨limit, List.mem_append_right _ List.mem_cons_self,
          reads fields limit ofLimit⟩

theorem systemdEvents_sound (params : Option JSONValue) :
    (Request.systemdEvents params).Sound base64Decoded := by
  have since : ∀ fields, Runs (eventsSince fields) := by
    intro fields
    unfold eventsSince
    split
    · split
      · exact runs_invalid _
      · exact runs_ok _
    · exact runs_ok _
    · exact runs_ok _
    · exact runs_invalid _
  have limit : ∀ fields, Runs (eventsLimit fields) := by
    intro fields
    apply runs_optionalNumber
    intro number fit
    simp only [Bool.and_eq_true, decide_eq_true_eq] at fit
    exact ⟨fit.1.le, le_trans fit.2 (by norm_num)⟩
  constructor
  · unfold parseSystemdEvents
    split
    · refine runs_bind (since _) fun start _ => ?_
      exact runs_bind (limit _) fun number _ => runs_ok _
    · exact runs_invalid _
  · intro result accepted fields same
    rw [same, parseSystemdEvents, Outcome.bind_eq_ok_iff] at accepted
    obtain ⟨start, _, accepted⟩ := accepted
    obtain ⟨number, ofNumber, accepted⟩ := Outcome.bind_eq_ok_iff.mp accepted
    rw [← Except.ok.inj accepted]
    exact reads_optionalNumber ofNumber

end HelperAgentRequest

/-! ### Route plans -/

section RoutePlan

open HelperControlServer

theorem decodePort_traps_iff {policy : String} {item : JSONValue} :
    decodePort policy item = .error (.trap .overflow) ↔
      ∃ number, item = .number number ∧ isWhole number = true ∧
        (number < -2 ^ 63 ∨ 2 ^ 63 ≤ number) := by
  unfold decodePort
  split
  · rename_i number
    by_cases whole : number.den = 1
    · have kept : (number.num : Rat) = number :=
        (Rat.den_eq_one_iff number).mp whole
      have inside_iff : (-2 ^ 63 ≤ number.num ∧ number.num < 2 ^ 63) ↔
          ¬ (number < -2 ^ 63 ∨ 2 ^ 63 ≤ number) := by
        generalize number.num = integer at kept
        rw [← kept, not_or, not_lt, not_le]
        norm_cast
      rw [if_pos whole, swiftIntOfDouble]
      by_cases outside : number < -2 ^ 63 ∨ 2 ^ 63 ≤ number
      · rw [if_neg fun inside => inside_iff.mp inside outside]
        exact iff_of_true rfl ⟨number, rfl, beq_iff_eq.mpr whole, outside⟩
      · rw [if_pos (inside_iff.mpr outside)]
        constructor
        · intro impossible
          cases impossible
        · intro found
          obtain ⟨other, same, _, far⟩ := found
          rw [← JSONValue.number.inj same] at far
          exact absurd far outside
    · rw [if_neg whole]
      constructor
      · intro impossible
        cases impossible
      · intro found
        obtain ⟨other, same, integral, _⟩ := found
        rw [← JSONValue.number.inj same] at integral
        exact absurd (eq_of_beq integral) whole
  · rename_i notNumber
    constructor
    · intro impossible
      cases impossible
    · intro found
      obtain ⟨other, same, _⟩ := found
      exact absurd same (notNumber other)

theorem portJSON_of_decodePort {policy : String} {item : JSONValue}
    {port : Int} (read : decodePort policy item = .ok port) :
    portJSON port = item := by
  unfold decodePort at read
  split at read
  · rename_i number
    split at read
    · rename_i whole
      unfold swiftIntOfDouble at read
      split at read
      · rw [portJSON, ← Except.ok.inj read]
        exact congrArg JSONValue.number ((Rat.den_eq_one_iff number).mp whole)
      · cases read
    · cases read
  · cases read

theorem mapM_bind_traps_iff {α β γ : Type} {perform : α → Except PlanError β}
    {items : List α} (wrap : List β → γ) {failure : PlanError} :
    (items.mapM perform >>= fun results =>
        (.ok (wrap results) : Except PlanError γ)) = .error failure ↔
      First (fun item => (perform item).isOk = true)
        (fun item => perform item = .error failure) items := by
  rw [First, ← Outcome.mapM_eq_error_iff]
  cases items.mapM perform with
  | error other =>
      exact ⟨fun failed => congrArg Except.error (Except.error.inj failed),
        fun failed => congrArg Except.error (Except.error.inj failed)⟩
  | ok results =>
      constructor
      · intro impossible
        cases impossible
      · intro impossible
        cases impossible

theorem First.congr {α : Type} {accepted bad other : α → Prop}
    {items : List α} (same : ∀ item, bad item ↔ other item) :
    First accepted bad items ↔ First accepted other items := by
  have equal : bad = other := funext fun item => propext (same item)
  rw [equal]

theorem decodeAllow_traps_iff {policy : String} {raw : JSONValue} :
    decodeAllow policy raw = .error (.trap .overflow) ↔
      ∃ target proto,
        (raw.field? "to").bind JSONValue.asString? = some target ∧
          (raw.field? "proto").bind JSONValue.asString? = some proto ∧
          First (fun port => (decodePort policy port).isOk = true)
            (fun port => ∃ number, port = .number number ∧
              isWhole number = true ∧
                (number < -2 ^ 63 ∨ 2 ^ 63 ≤ number))
            (itemsOf raw "ports") := by
  unfold decodeAllow
  split
  · rename_i target proto isTarget isProto
    rw [isTarget, isProto]
    refine (mapM_bind_traps_iff fun ports =>
      (⟨target, proto, ports⟩ : PolicyAllow)).trans ?_
    rw [First.congr fun port => decodePort_traps_iff]
    constructor
    · intro found
      exact ⟨target, proto, rfl, rfl, found⟩
    · intro found
      obtain ⟨_, _, _, _, found⟩ := found
      exact found
  · rename_i missing
    constructor
    · intro impossible
      cases impossible
    · intro found
      obtain ⟨target, proto, isTarget, isProto, _⟩ := found
      exact absurd isProto (missing target proto isTarget)

theorem decodePolicy_traps_iff {item : JSONValue} :
    decodePolicy item = .error (.trap .overflow) ↔
      ∃ name network forward,
        (item.field? "name").bind JSONValue.asString? = some name ∧
          (item.field? "network").bind JSONValue.asString? = some network ∧
          (item.field? "forward").bind JSONValue.asString? = some forward ∧
          First (fun raw => (decodeAllow name raw).isOk = true)
            (fun raw => decodeAllow name raw = .error (.trap .overflow))
            (itemsOf item "allow") := by
  unfold decodePolicy
  split
  · rename_i name network forward isName isNetwork isForward
    rw [isName, isNetwork, isForward]
    refine (mapM_bind_traps_iff fun allow => ({
      name := name
      network := network
      forward := forward
      allow := allow
      via := (item.field? "via").bind JSONValue.asString? } :
        ForwardPolicy)).trans ?_
    constructor
    · intro found
      exact ⟨name, network, forward, rfl, rfl, rfl, found⟩
    · intro found
      obtain ⟨other, _, _, sameName, _, _, found⟩ := found
      rwa [← Option.some.inj sameName] at found
  · rename_i missing
    constructor
    · intro impossible
      cases impossible
    · intro found
      obtain ⟨name, network, forward, isName, isNetwork, isForward, _⟩ := found
      exact absurd isForward (missing name network forward isName isNetwork)

theorem decodeNetwork_ne_trap (item : JSONValue) (trap : Trap) :
    decodeNetwork item ≠ .error (.trap trap) := by
  intro trapped
  unfold decodeNetwork at trapped
  split at trapped
  · cases trapped
  · cases trapped

theorem decodedPlan_traps_iff (value : JSONValue) :
    decodedPlan value = .error (.trap .overflow) ↔ ReachesOverflow value := by
  simp only [ReachesOverflow, ← decodeAllow_traps_iff,
    ← decodePolicy_traps_iff]
  unfold decodedPlan
  split
  · rename_i vmID rawNetworks isVM isNetworks
    rw [isVM, isNetworks]
    cases decoded : rawNetworks.mapM decodeNetwork with
    | error failure =>
        obtain ⟨front, item, back, parts, _, failed⟩ :=
          Outcome.mapM_eq_error_iff.mp decoded
        constructor
        · intro trapped
          have same : failure = .trap .overflow := Except.error.inj trapped
          rw [same] at failed
          exact absurd failed (decodeNetwork_ne_trap item .overflow)
        · intro found
          obtain ⟨_, others, _, sameNetworks, accepted, _⟩ := found
          have member : item ∈ others := by
            rw [← Option.some.inj sameNetworks, parts]
            exact List.mem_append_right _ List.mem_cons_self
          have ok := accepted item member
          rw [failed] at ok
          cases ok
    | ok networks =>
        refine (mapM_bind_traps_iff fun policies =>
          (vmID, networks, policies)).trans ?_
        constructor
        · intro found
          refine ⟨vmID, rawNetworks, rfl, rfl, ?_, found⟩
          intro item member
          obtain ⟨network, _, read⟩ := (Outcome.mem_of_mapM decoded).2 item
            member
          rw [read]
          rfl
        · intro found
          obtain ⟨_, _, _, _, _, found⟩ := found
          exact found
  · rename_i missing
    constructor
    · intro impossible
      cases impossible
    · intro found
      obtain ⟨vmID, rawNetworks, isVM, isNetworks, _⟩ := found
      exact absurd isNetworks (missing vmID rawNetworks isVM)

theorem samePorts_decodedPlan {value : JSONValue}
    {parts : String × List RouterNetwork × List ForwardPolicy}
    (decoded : decodedPlan value = .ok parts) :
    SamePorts value parts.2.2 := by
  have ofAllow : ∀ name raw allow, decodeAllow name raw = .ok allow →
      allow.ports.map portJSON = itemsOf raw "ports" := by
    intro name raw allow read
    unfold decodeAllow at read
    split at read
    · obtain ⟨ports, ofPorts, built⟩ := Outcome.bind_eq_ok_iff.mp read
      rw [← Except.ok.inj built]
      have kept := Outcome.map_eq_of_mapM
        (fun item _ port isPort => portJSON_of_decodePort isPort) ofPorts
      exact kept.trans (List.map_id' _)
    · cases read
  have ofPolicy : ∀ item policy, decodePolicy item = .ok policy →
      policy.allow.map (fun allow => allow.ports.map portJSON) =
        (itemsOf item "allow").map fun raw => itemsOf raw "ports" := by
    intro item policy read
    unfold decodePolicy at read
    split at read
    · rename_i name _ _ _ _ _
      obtain ⟨allows, ofAllows, built⟩ := Outcome.bind_eq_ok_iff.mp read
      rw [← Except.ok.inj built]
      exact Outcome.map_eq_of_mapM (fun raw _ => ofAllow name raw) ofAllows
    · cases read
  unfold decodedPlan at decoded
  split at decoded
  · obtain ⟨networks, _, decoded⟩ := Outcome.bind_eq_ok_iff.mp decoded
    obtain ⟨policies, ofPolicies, built⟩ :=
      Outcome.bind_eq_ok_iff.mp decoded
    rw [← Except.ok.inj built]
    exact Outcome.map_eq_of_mapM (fun item _ => ofPolicy item) ofPolicies
  · cases decoded

end RoutePlan

/-- A request is read soundly exactly where its numbers fit. -/
theorem request_sound_iff (base64Decoded : String → Option (List UInt8))
    (request : Request) : request.Sound base64Decoded ↔ request.Fits := by
  cases request with
  | reconcile params => exact EdgeServer.reconcile_sound_iff _ params
  | portForward raw => exact EdgeServer.portForward_sound_iff _ raw
  | ingress params => exact EdgeServer.ingress_sound_iff _ params
  | exec params => exact HelperAgentRequest.exec_sound_iff _ params
  | execTTY params => exact HelperAgentRequest.execTTY_sound_iff _ params
  | networkProbe params =>
      exact iff_of_true (HelperAgentRequest.networkProbe_sound _ params)
        trivial
  | systemdEvents params =>
      exact iff_of_true (HelperAgentRequest.systemdEvents_sound _ params)
        trivial
  | routePlan value =>
      constructor
      · intro sound reaches
        exact sound.runs ((decodedPlan_traps_iff value).mpr reaches)
      · intro fits
        exact ⟨fun trapped => fits ((decodedPlan_traps_iff value).mp trapped),
          fun parts decoded => samePorts_decodedPlan decoded⟩

def largeGeneration : Fields := [("generation", .number (2 ^ 63))]

/-- The generation 2^63 ends vz-edge. -/
theorem large_generation_traps :
    ¬ ∀ (base64Decoded : String → Option (List UInt8)) (request : Request),
        request.Sound base64Decoded := by
  intro sound
  have fits := (EdgeServer.reconcile_sound_iff (fun _ => none)
    (some (.object largeGeneration))).mp (sound _ _)
  have small := (fits largeGeneration (2 ^ 63) rfl rfl (by norm_num)).1
  exact lt_irrefl _ small

end NumericFields

end Vzctl
