import Vzctl.Apply.Rpc
import Vzctl.Network.RecordedNetworks
import Vzctl.Supervisor.EdgeRPC
import Vzctl.Supervisor.NetworkFallback

/-!
# Network calls of the supervisor

The calls of `SupervisorRPCNetwork` that create, detach, delete and list
networks, with the JSON of `NetworkTypes` they answer with.
-/

namespace Vzctl

/-! ## Answers -/

namespace NetworkTypes

/-- `value.map(JSONValue.string) ?? .null`. -/
def optional (value : Option String) : JSONValue :=
  value.elim .null .string

/-- `.object(labels.mapValues(JSONValue.string))`. -/
def labels (values : Labels) : JSONValue :=
  .object (values.map fun label => (label.1, .string label.2))

end NetworkTypes

namespace NetworkRecord

variable (record : NetworkRecord)

/-- Guest default gateway: host `.0` with NAT, router `.2` without NAT. -/
def guestGateway : String :=
  if record.natEgress then IPv4CIDR.gateway record.cidr
  else IPv4CIDR.router record.cidr

def json : JSONValue :=
  .object [
    ("id", .string record.id),
    ("name", .string record.name),
    ("cidr", .string record.cidr),
    ("mode", .string record.mode),
    ("nat_egress", .bool record.natEgress),
    ("backend", .string record.backend),
    ("gateway", .string record.guestGateway),
    ("dns", .string (IPv4CIDR.gateway record.cidr)),
    ("host_gateway", .string (IPv4CIDR.gateway record.cidr)),
    ("router", .string (IPv4CIDR.router record.cidr)),
    ("guest_range", .string ".10+"),
    ("labels", NetworkTypes.labels record.labels),
    ("project", NetworkTypes.optional record.project),
    ("stack", NetworkTypes.optional record.stack),
    ("runtime_state", .string record.runtimeState),
    ("last_error", NetworkTypes.optional record.lastError),
    ("updated_at", .string record.updatedAt)]

end NetworkRecord

def NetworkAttachmentRecord.json (record : NetworkAttachmentRecord) :
    JSONValue :=
  .object [
    ("vm_id", .string record.vmID),
    ("network_id", .string record.networkID),
    ("network", .string record.networkName),
    ("ip", .string record.ip),
    ("labels", NetworkTypes.labels record.labels),
    ("project", NetworkTypes.optional record.project),
    ("stack", NetworkTypes.optional record.stack),
    ("updated_at", .string record.updatedAt)]

def NetworkSnapshot.json (snapshot : NetworkSnapshot) : JSONValue :=
  .object [
    ("networks", .array (snapshot.networks.map NetworkRecord.json)),
    ("attachments",
      .array (snapshot.attachments.map NetworkAttachmentRecord.json))]

def NetworkRegistry.snapshot (registry : NetworkRegistry) :
    NetworkSnapshot where
  networks := registry.database.networks
  attachments := registry.database.attachments

/-! ## Calls -/

namespace EdgeRPC

theorem requiredString_eq_ok_iff {key text value : String} {fields : Fields}
    (found : fields.lookup key = some (.string text)) :
    requiredString key fields = .ok value ↔ text ≠ "" ∧ text = value := by
  rw [requiredString, found]
  by_cases isEmpty : text = ""
  · simp [isEmpty]
  · simp [isEmpty]

theorem optionalString_eq_ok_iff {key text : String} {value : Option String}
    {fields : Fields} (found : fields.lookup key = some (.string text)) :
    optionalString key fields = .ok value ↔ text ≠ "" ∧ some text = value := by
  rw [optionalString, found]
  by_cases isEmpty : text = ""
  · simp [isEmpty]
  · simp [isEmpty]

end EdgeRPC

namespace NetworkRPC

abbrev Fields := EdgeRPC.Fields

/-- `labels(from:)`. -/
def labels (fields : Fields) : Except RPCFailure Labels :=
  match fields.lookup "labels" with
  | none | some .null => .ok []
  | some (.object values) =>
      values.mapM fun entry =>
        match entry.2 with
        | .string value => .ok (entry.1, value)
        | _ => .error (.invalid s!"label {entry.1} must be a string")
  | some _ => .error (.invalid "labels must be an object")

/-- What the reading of parameters throws. -/
def thrown : RPCFailure → NetworkRegistryError
  | .params message => .invalid message
  | .invalid message => .invalid message
  | .runtime message => .runtime message

def ofParams {α : Type} (outcome : Except RPCFailure α) : RegistryM α :=
  NetworkRegistry.ofExcept (outcome.mapError thrown)

def createRequest (params : JSONValue) : Except RPCFailure CreateRequest := do
  let fields ← EdgeRPC.networkParams params
  let natEgress := (optionalBool "nat_egress" fields).getD true
  let backend ← EdgeRPC.optionalString "backend" fields
  let name ← EdgeRPC.requiredString "name" fields
  let cidr ← EdgeRPC.requiredString "cidr" fields
  let mode ← EdgeRPC.optionalString "mode" fields
  let labels ← labels fields
  let project ← EdgeRPC.optionalString "project" fields
  let stack ← EdgeRPC.optionalString "stack" fields
  pure {
    name := name
    cidr := cidr
    mode := mode.getD "shared"
    natEgress := natEgress
    backend := backend.getD NetworkRecord.backendVmnet
    labels := labels
    project := project
    stack := stack }

/-- The VM, the network and the project of a `net.detach`. -/
def detachRequest (params : JSONValue) :
    Except RPCFailure (String × String × Option String) := do
  let fields ← EdgeRPC.networkParams params
  let vmID ← EdgeRPC.requiredString "vm_id" fields
  let network ← EdgeRPC.requiredString "network" fields
  let project ← EdgeRPC.optionalString "project" fields
  pure (vmID, network, project)

/-- The network and the project of a `net.delete`. -/
def deleteRequest (params : JSONValue) :
    Except RPCFailure (String × Option String) := do
  let fields ← EdgeRPC.networkParams params
  let name ← EdgeRPC.requiredString "name" fields
  let project ← EdgeRPC.optionalString "project" fields
  pure (name, project)

section

variable (foundation : Foundation) (env : RegistryEnv)
  (vmIsStopped : String → Bool)

def create (params : JSONValue) : RegistryM JSONValue := do
  let request ← ofParams (createRequest params)
  let record ← NetworkRegistry.create foundation env request
  return record.json

def detach (params : JSONValue) : RegistryM JSONValue := do
  let (vmID, network, project) ← ofParams (detachRequest params)
  NetworkRegistry.detach env vmID network project (vmIsStopped vmID)
  return .object [
    ("vm_id", .string vmID),
    ("network", .string network),
    ("detached", .bool true)]

def delete (params : JSONValue) : RegistryM JSONValue := do
  let (name, project) ← ofParams (deleteRequest params)
  NetworkRegistry.delete env name project
  return .object [("name", .string name), ("deleted", .bool true)]

def list : RegistryM JSONValue :=
  .reading fun registry => .ok registry.snapshot.json

/-- `handleNetworkRPC`, on these methods. -/
def handle (method : String) (params : JSONValue) :
    Option (RegistryM JSONValue) :=
  match method with
  | "net.create" => some (create foundation env params)
  | "net.detach" => some (detach env vmIsStopped params)
  | "net.delete" => some (delete env params)
  | "net.list" => some list
  | _ => none

end

/-! ## Calls that succeed -/

section Returns

open Procedure

variable {foundation : Foundation} {env : RegistryEnv}
  {vmIsStopped : String → Bool} {registry : NetworkRegistry}
  {params : JSONValue}

theorem ends_ofParams_bind {α β : Type} {outcome : Except RPCFailure α}
    {next : α → RegistryM β} {returns : β → NetworkRegistry → Prop}
    (ends : ∀ value, outcome = .ok value →
      Ends (next value) returns (fun _ _ => True) registry) :
    Ends (ofParams outcome >>= next) returns (fun _ _ => True) registry := by
  apply Ends.of_reading_bind (fun _ => trivial)
  intro value read
  exact ends value (Outcome.mapError_eq_ok_iff.mp read)

theorem create_returns :
    Ends (create foundation env params)
      (fun _ reached => ∃ request cidr, createRequest params = .ok request ∧
        NetworkRegistry.checkCreate foundation request = .ok cidr ∧
        reached.database.networkTable.rows =
          registry.database.networkTable.rows ++
            [NetworkRegistry.newRecord env request cidr])
      (fun _ _ => True) registry := by
  apply ends_ofParams_bind
  intro request read
  apply Ends.of_bind
  apply NetworkRegistry.create_returns.mono
  · intro record reached created
    obtain ⟨cidr, checked, same, rows⟩ := created
    rw [same] at rows
    exact Ends.of_pure ⟨request, cidr, read, checked, rows⟩
  · intros
    trivial

theorem detach_returns :
    Ends (detach env vmIsStopped params)
      (fun _ reached => reached.database.networkTable.rows =
        registry.database.networkTable.rows)
      (fun _ _ => True) registry := by
  apply ends_ofParams_bind
  intro request _
  apply Ends.of_bind
  apply NetworkRegistry.detach_returns.mono
  · intro _ _ rows
    exact Ends.of_pure rows
  · intros
    trivial

theorem delete_returns {name project : String}
    (read : ∀ request, deleteRequest params = .ok request →
      request = (name, some project)) :
    Ends (delete env params)
      (fun _ reached => ∃ network ∈ registry.database.networkTable.rows,
        (∀ other ∈ registry.database.networkTable.rows,
          other.id = name ∨ other.name = name →
            other.project = some project → other = network) ∧
          reached.database.networkTable.rows =
            registry.database.networkTable.rows.filter (·.id ≠ network.id))
      (fun _ _ => True) registry := by
  apply ends_ofParams_bind
  intro request isRequest
  rw [read request isRequest]
  apply Ends.of_bind
  apply NetworkRegistry.delete_returns.mono
  · intro _ _ deleted
    exact Ends.of_pure deleted
  · intros
    trivial

end Returns

end NetworkRPC

end Vzctl
