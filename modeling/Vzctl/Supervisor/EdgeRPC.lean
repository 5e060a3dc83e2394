import Mathlib.Data.Prod.Lex
import Mathlib.Data.String.Basic
import Vzctl.Json
import Vzctl.Lib.KeyedList
import Vzctl.Lib.Procedure
import Vzctl.Network.InetAddress
import Vzctl.Supervisor.RestHTTP

/-!
# Edge calls of the supervisor

`SupervisorRPCEdge`: a call stores what its project asks for in the tables
`edge_projects` and `port_forwards` of `StateDatabase`, and then has vz-edge
reconcile what all projects ask for.  A text is bound up to its first NUL.  The
two array columns are written from arrays only, so they are lists here.  Time
stamps of rows are left out.
-/

namespace Vzctl

/-! ## Stored edge intents -/

/-- `params` is answered as it is; `invalid` and `runtime` are errors of the
network registry. -/
inductive RPCFailure where
  | params (message : String)
  | invalid (message : String)
  | runtime (message : String)
  deriving DecidableEq, Repr

structure EdgeProject where
  hostServices : List JSONValue
  dnsRecords : List JSONValue
  ingress : Option JSONValue
  oidc : Option JSONValue
  deriving DecidableEq

/-- A row with the defaults of its columns. -/
def EdgeProject.inserted : EdgeProject where
  hostServices := []
  dnsRecords := []
  ingress := none
  oidc := none

structure PortForwardRecord where
  bind : String
  hostPort : Nat
  guestIP : String
  guestPort : Nat
  vmID : String
  source : String
  project : String
  stack : String
  deriving DecidableEq, Repr

/-- The texts as they are bound. -/
def PortForwardRecord.bound (record : PortForwardRecord) :
    PortForwardRecord :=
  { record with
    bind := cString record.bind
    guestIP := cString record.guestIP
    vmID := cString record.vmID
    source := cString record.source
    project := cString record.project
    stack := cString record.stack }

/-- The primary key, in the order of the listing. -/
abbrev PortKey := Nat ×ₗ String

/-- The row that is written. -/
def PortForwardRecord.row (record : PortForwardRecord) :
    PortKey × PortForwardRecord :=
  (toLex (record.hostPort, record.bound.bind), record.bound)

def PortForwardRecord.json (record : PortForwardRecord) : JSONValue :=
  .object [("bind", .string record.bind),
    ("guest_ip", .string record.guestIP),
    ("guest_port", .number record.guestPort),
    ("host_port", .number record.hostPort),
    ("project", .string record.project),
    ("source", .string record.source),
    ("stack", .string record.stack),
    ("state", .string "active"),
    ("vm_id", .string record.vmID)]

structure EdgeDatabase where
  projects : List (String × EdgeProject)
  projectsSorted : KeyedList.Sorted projects
  ports : List (PortKey × PortForwardRecord)
  portsSorted : KeyedList.Sorted ports
  generation : Int

/-- The desired state that vz-edge is asked for. -/
structure EdgeDesired where
  networkSnapshot : JSONValue
  hostServices : List JSONValue
  dnsRecords : List JSONValue
  portForwards : List JSONValue
  ingress : List JSONValue
  oidc : List JSONValue

namespace EdgeDatabase

def empty : EdgeDatabase where
  projects := []
  projectsSorted := KeyedList.sorted_nil
  ports := []
  portsSorted := KeyedList.sorted_nil
  generation := 0

/-- The row of a project; a project without a row has asked for nothing. -/
def edgeProject (database : EdgeDatabase) (project : String) : EdgeProject :=
  (database.projects.lookup project).getD .inserted

/-- Insert the row when it is missing, then change it. -/
def upsertEdgeProject (database : EdgeDatabase) (project : String)
    (change : EdgeProject → EdgeProject) : EdgeDatabase :=
  let key := cString project
  { database with
    projects := KeyedList.insertKey key
      (change (database.edgeProject key)) database.projects
    projectsSorted :=
      KeyedList.sorted_insertKey key _ database.projectsSorted }

def setEdgeHostServices (database : EdgeDatabase) (project : String)
    (hosts : List JSONValue) : EdgeDatabase :=
  database.upsertEdgeProject project
    fun row => { row with hostServices := hosts }

def setEdgeDNSRecords (database : EdgeDatabase) (project : String)
    (records : List JSONValue) : EdgeDatabase :=
  database.upsertEdgeProject project
    fun row => { row with dnsRecords := records }

def setEdgeIngress (database : EdgeDatabase) (project : String)
    (value : Option JSONValue) : EdgeDatabase :=
  database.upsertEdgeProject project fun row => { row with ingress := value }

def setEdgeOIDC (database : EdgeDatabase) (project : String)
    (value : Option JSONValue) : EdgeDatabase :=
  database.upsertEdgeProject project fun row => { row with oidc := value }

def ofStack (project stack : String)
    (row : PortKey × PortForwardRecord) : Bool :=
  row.2.project = cString project && row.2.stack = cString stack

def deletePortForwards (database : EdgeDatabase) (project stack : String) :
    EdgeDatabase :=
  { database with
    ports := database.ports.filter fun row => !ofStack project stack row
    portsSorted := database.portsSorted.filter _ }

def insertPortForward (database : EdgeDatabase)
    (record : PortForwardRecord) : Except RPCFailure EdgeDatabase :=
  if (database.ports.lookup record.row.1).isSome then
    .error (.runtime
      "UNIQUE constraint failed: port_forwards.bind, port_forwards.host_port")
  else
    .ok
      { database with
        ports := KeyedList.insertKey record.row.1 record.row.2 database.ports
        portsSorted := KeyedList.sorted_insertKey _ _ database.portsSorted }

/-- A transaction: a row that cannot be inserted leaves the table as it
was. -/
def replacePortForwards (database : EdgeDatabase) (project stack : String)
    (records : List PortForwardRecord) : Except RPCFailure EdgeDatabase :=
  records.foldlM insertPortForward (database.deletePortForwards project stack)

def nextEdgeGeneration (database : EdgeDatabase) : EdgeDatabase :=
  { database with generation := database.generation + 1 }

def desired (database : EdgeDatabase) (snapshot : JSONValue) : EdgeDesired :=
  let rows := database.projects.map Prod.snd
  { networkSnapshot := snapshot
    hostServices := rows.flatMap EdgeProject.hostServices
    dnsRecords := rows.flatMap EdgeProject.dnsRecords
    portForwards := database.ports.map fun row => row.2.json
    ingress := rows.filterMap EdgeProject.ingress
    oidc := rows.filterMap EdgeProject.oidc }

end EdgeDatabase

open Procedure

namespace EdgeRPC

abbrev Fields := List (String × JSONValue)

/-! ## Parameters -/

def networkParams : JSONValue → Except RPCFailure Fields
  | .object fields => .ok fields
  | _ => .error (.invalid "network params must be an object")

def requiredString (key : String) (fields : Fields) :
    Except RPCFailure String :=
  match fields.lookup key with
  | some (.string value) =>
      if value = "" then .error (.invalid s!"missing or invalid {key}")
      else .ok value
  | _ => .error (.invalid s!"missing or invalid {key}")

def optionalString (key : String) (fields : Fields) :
    Except RPCFailure (Option String) :=
  match fields.lookup key with
  | none | some .null => .ok none
  | some (.string value) =>
      if value = "" then .error (.invalid s!"invalid {key}")
      else .ok (some value)
  | some _ => .error (.invalid s!"invalid {key}")

def requiredPort (key : String) (fields : Fields) : Except RPCFailure Nat :=
  match fields.lookup key with
  | none => .error (.invalid s!"missing {key}")
  | some (.number value) =>
      if 1 ≤ value ∧ value ≤ 65535 ∧ value.den = 1 then .ok value.num.toNat
      else .error (.invalid s!"invalid {key}")
  | some (.string value) =>
      match RestHTTP.parseInteger 10 0 65535 value with
      | some parsed =>
          if 0 < parsed then .ok parsed.toNat
          else .error (.invalid s!"invalid {key}")
      | none => .error (.invalid s!"invalid {key}")
  | some _ => .error (.invalid s!"invalid {key}")

/-- An array parameter, which is empty when it is missing. -/
def arrayParam (key : String) (fields : Fields) :
    Except RPCFailure (List JSONValue) :=
  match (fields.lookup key).getD (.array []) with
  | .array items => .ok items
  | _ => .error (.params s!"{key} must be an array")

/-! ## What a call stores -/

inductive Change where
  | replacePortForwards (project stack : String)
      (records : List PortForwardRecord)
  | deletePortForwards (project stack : String)
  | setDNSRecords (project : String) (records : List JSONValue)
  | purgeDNSRecords (project : String)
  | setHostServices (project : String) (hosts : List JSONValue)
  | setIngress (project : String) (value : JSONValue)
      (hosts : Option (List JSONValue))
  | purgeIngress (project : String)
  | setOIDC (project : String) (value : JSONValue)
  | purgeOIDC (project : String)

def portRecord (project stack : String) (fields : Fields) :
    Except RPCFailure PortForwardRecord := do
  let bind ← requiredString "bind" fields
  let hostPort ← requiredPort "host_port" fields
  let guestIP ← requiredString "guest_ip" fields
  let guestPort ← requiredPort "guest_port" fields
  let vmID ← requiredString "vm_id" fields
  let source ← optionalString "source" fields
  pure
    { bind := bind, hostPort := hostPort, guestIP := guestIP
      guestPort := guestPort, vmID := vmID
      source := source.getD s!"{bind}:{hostPort}"
      project := project, stack := stack }

/-- Items that are not objects are passed over. -/
def portRecords (project stack : String) (items : List JSONValue) :
    Except RPCFailure (List PortForwardRecord) :=
  (items.filterMap fun item =>
    match item with
    | .object fields => some fields
    | _ => none).mapM (portRecord project stack)

def readPortEnsure (params : JSONValue) : Except RPCFailure Change := do
  let fields ← networkParams params
  let project ← requiredString "project" fields
  let stack ← requiredString "stack" fields
  let items ← arrayParam "ports" fields
  let records ← portRecords project stack items
  pure (.replacePortForwards project stack records)

def readPortPurge (params : JSONValue) : Except RPCFailure Change := do
  let fields ← networkParams params
  let project ← requiredString "project" fields
  let stack ← requiredString "stack" fields
  pure (.deletePortForwards project stack)

def readDNSRecordsEnsure (params : JSONValue) : Except RPCFailure Change := do
  let fields ← networkParams params
  let project ← requiredString "project" fields
  let records ← arrayParam "records" fields
  pure (.setDNSRecords project records)

def readHostServicesEnsure (params : JSONValue) :
    Except RPCFailure Change := do
  let fields ← networkParams params
  let project ← requiredString "project" fields
  let hosts ← arrayParam "hosts" fields
  pure (.setHostServices project hosts)

/-- A missing member is added. -/
def withDefault (key : String) (value : JSONValue) (fields : Fields) :
    Fields :=
  match fields.lookup key with
  | some _ => fields
  | none => KeyedList.insertKey key value fields

def readIngressEnsure (stateDirectory : String) (params : JSONValue) :
    Except RPCFailure Change := do
  let fields ← networkParams params
  let project ← requiredString "project" fields
  let _ ← requiredString "caddyfile" fields
  let stored := withDefault "binary"
    (.string (stateDirectory ++ "/bin/caddy")) fields
  match stored.lookup "hosts" with
  | none => pure (.setIngress project (.object stored) none)
  | some (.array hosts) =>
      pure (.setIngress project
        (.object (KeyedList.eraseKey "hosts" stored)) (some hosts))
  | some _ => .error (.params "hosts must be an array")

def readOIDCEnsure (stateDirectory : String) (params : JSONValue) :
    Except RPCFailure Change := do
  let fields ← networkParams params
  let project ← requiredString "project" fields
  let _ ← requiredString "config" fields
  let stored := withDefault "processName" (.string s!"dex-{project}")
    (withDefault "binary" (.string (stateDirectory ++ "/bin/dex")) fields)
  pure (.setOIDC project (.object stored))

/-- The three purges that name nothing but a project. -/
def readPurge (change : String → Change) (params : JSONValue) :
    Except RPCFailure Change := do
  let fields ← networkParams params
  let project ← requiredString "project" fields
  pure (change project)

def Change.store (database : EdgeDatabase) :
    Change → Except RPCFailure EdgeDatabase
  | .replacePortForwards project stack records =>
      database.replacePortForwards project stack records
  | .deletePortForwards project stack =>
      .ok (database.deletePortForwards project stack)
  | .setDNSRecords project records =>
      .ok (database.setEdgeDNSRecords project records)
  | .purgeDNSRecords project => .ok (database.setEdgeDNSRecords project [])
  | .setHostServices project hosts =>
      .ok (database.setEdgeHostServices project hosts)
  | .setIngress project value hosts =>
      let hosted :=
        match hosts with
        | some hosts => database.setEdgeHostServices project hosts
        | none => database
      .ok (hosted.setEdgeIngress project (some value))
  | .purgeIngress project =>
      .ok ((database.setEdgeIngress project none).setEdgeHostServices
        project [])
  | .setOIDC project value => .ok (database.setEdgeOIDC project (some value))
  | .purgeOIDC project => .ok (database.setEdgeOIDC project none)

/-! ## Calls -/

inductive Method where
  | portEnsure
  | portPurge
  | dnsRecordsEnsure
  | dnsRecordsPurge
  | hostServicesEnsure
  | ingressEnsure
  | ingressPurge
  | oidcEnsure
  | oidcPurge
  deriving DecidableEq, Repr

/-- A call, the network snapshot of its reconcile and the one after a
rejection, and what vz-edge answers to a desired state in each. -/
structure Call where
  method : Method
  params : JSONValue
  snapshot : JSONValue
  reply : EdgeDesired → Except String JSONValue
  rollbackSnapshot : JSONValue
  rollbackReply : EdgeDesired → Except String JSONValue

def read (stateDirectory : String) (call : Call) :
    Except RPCFailure Change :=
  match call.method with
  | .portEnsure => readPortEnsure call.params
  | .portPurge => readPortPurge call.params
  | .dnsRecordsEnsure => readDNSRecordsEnsure call.params
  | .dnsRecordsPurge => readPurge .purgeDNSRecords call.params
  | .hostServicesEnsure => readHostServicesEnsure call.params
  | .ingressEnsure => readIngressEnsure stateDirectory call.params
  | .ingressPurge => readPurge .purgeIngress call.params
  | .oidcEnsure => readOIDCEnsure stateDirectory call.params
  | .oidcPurge => readPurge .purgeOIDC call.params

abbrev Action (α : Type) := Procedure EdgeDatabase RPCFailure α

def reconcileEdgeThrowing (snapshot : JSONValue)
    (reply : EdgeDesired → Except String JSONValue) : Action JSONValue := do
  let desired ← reading fun database => .ok (database.desired snapshot)
  writing fun database => .ok database.nextEdgeGeneration
  reading fun _ => (reply desired).mapError .runtime

structure EdgeProjectMutationSnapshot where
  ingress : Option JSONValue
  hostServices : List JSONValue

-- `==` of Swift, for which canonically equivalent texts are equal.
variable (equal : String → String → Bool)

/-- The first row whose project is equal to the whole name of the call. -/
def edgeProjectMutationSnapshot (database : EdgeDatabase)
    (project : String) : EdgeProjectMutationSnapshot :=
  match database.projects.find? fun row => equal row.1 project with
  | none => ⟨none, []⟩
  | some row => ⟨row.2.ingress, row.2.hostServices⟩

def restoreEdgeProjectMutation (project : String)
    (snapshot : EdgeProjectMutationSnapshot) : Action PUnit :=
  writing fun database =>
    .ok ((database.setEdgeIngress project snapshot.ingress).setEdgeHostServices
      project snapshot.hostServices)

def edgeDNS (status : JSONValue) : JSONValue :=
  (status.field? "dns").getD .null

/-- What the caller gets once vz-edge has answered. -/
def result (edge : JSONValue) : Change → Except RPCFailure JSONValue
  | .replacePortForwards _ _ records =>
      .ok (.object [("ports",
        .array (records.map PortForwardRecord.json))])
  | .deletePortForwards project stack =>
      .ok (.object [("project", .string project), ("purged", .bool true),
        ("stack", .string stack)])
  | .setDNSRecords project records =>
      .ok (.object [("dns", edgeDNS edge), ("project", .string project),
        ("records", .array records)])
  | .setHostServices project hosts =>
      .ok (.object [("dns", edgeDNS edge), ("hosts", .array hosts),
        ("project", .string project)])
  | .setIngress project _ _ =>
      .ok (.object [("edge", edge), ("project", .string project)])
  | .setOIDC project value => do
      let fields ← networkParams value
      let processName ← requiredString "processName" fields
      pure (.object [("edge", edge), ("process", .string processName),
        ("project", .string project)])
  | .purgeDNSRecords project | .purgeIngress project
  | .purgeOIDC project =>
      .ok (.object [("project", .string project), ("purged", .bool true)])

/-- Only `ingress.ensure` takes back what it has stored. -/
def reconcileStored (call : Call) (before : EdgeDatabase) :
    Change → Action JSONValue
  | .setIngress project _ _ =>
      orElse (reconcileEdgeThrowing call.snapshot call.reply)
        fun failure => do
          restoreEdgeProjectMutation project
            (edgeProjectMutationSnapshot equal before project)
          attempt (do
            let _ ← reconcileEdgeThrowing call.rollbackSnapshot
              call.rollbackReply
            pure ⟨⟩)
          Procedure.fail failure
  | _ => reconcileEdgeThrowing call.snapshot call.reply

def handleEdgeRPC (stateDirectory : String) (call : Call) :
    Action JSONValue := do
  let change ← reading fun _ => read stateDirectory call
  let before ← reading fun database => .ok database
  writing fun database => change.store database
  let edge ← reconcileStored equal call before change
  reading fun _ => result edge change

end EdgeRPC

end Vzctl
