import Vzctl.Lib.Transition
import Vzctl.Network.NetworkRegistry

/-!
# The operations of the network registry

`create`, `attach`, `ensureVMNetwork` and the other operations of
`NetworkRegistry.swift`, and one step of the registry.
-/

namespace Vzctl

/-- The arguments of `create`. -/
structure CreateRequest where
  name : String
  cidr : String
  mode : String := "shared"
  natEgress : Bool := true
  backend : String := NetworkRecord.backendVmnet
  labels : Labels := []
  project : Option String := none
  stack : Option String := none
  deriving DecidableEq, Repr

/-- The arguments of `attach`. -/
structure AttachRequest where
  vmID : String
  networkName : String
  ip : String
  labels : Labels := []
  project : Option String := none
  stack : Option String := none
  vmIsStopped : Bool := true
  deriving DecidableEq, Repr

namespace NetworkRegistry

variable (foundation : Foundation) (env : RegistryEnv)

/-! ## Creating networks -/

/-- The checks of `createLocked` that look at the request only. -/
def checkCreate (request : CreateRequest) :
    Except NetworkRegistryError IPv4CIDR := do
  validateName foundation request.name "network"
  if request.project.all (fun project =>
      matchesProject project && !foundation.containsSlash request.name) = false
  then
    throw (.invalid "project networks require an unqualified short name")
  if request.mode ≠ "shared" then
    throw (.invalid
      "bridged mode is unsupported in v0.1; use --mode shared")
  if request.backend ∉ ["", NetworkRecord.backendVmnet,
      NetworkRecord.backendDocker] then
    throw (.invalid ("unsupported network backend " ++ request.backend ++
      "; use vmnet or docker"))
  if request.backend = NetworkRecord.backendDocker ∧ request.natEgress then
    throw (.invalid "docker backend networks must set nat_egress=false")
  validateMetadata foundation request.labels request.project request.stack
  (IPv4CIDR.parse request.cidr).mapError fun failure =>
    .invalid failure.description

/-- The identity of the network a request names. -/
def CreateRequest.identity (request : CreateRequest) : String :=
  match request.project with
  | some project => project ++ "/" ++ request.name
  | none => request.name

/-- The record of a new network. -/
def newRecord (request : CreateRequest) (cidr : IPv4CIDR) :
    NetworkRecord where
  id := CreateRequest.identity request
  name := request.name
  cidr := cidr.canonical
  mode := request.mode
  natEgress := request.natEgress
  backend :=
    if request.backend = "" then
      NetworkRecord.backendVmnet
    else
      request.backend
  labels := request.labels
  project := request.project
  stack := request.stack
  runtimeState := "active"
  lastError := none
  updatedAt := env.timestamp

/-- The checks of `createLocked` against the networks that exist. -/
def checkNew (record : NetworkRecord) (existing : List NetworkRecord) :
    Except NetworkRegistryError Unit := do
  if existing.any fun other =>
      other.name = record.name ∧ other.project = record.project then
    throw (.conflict ("network already exists: " ++ record.name))
  if existing.any fun other => other.id = record.id then
    throw (.conflict ("network identity already reserved: " ++ record.id))
  if existing.any fun other => other.cidr = record.cidr then
    throw (.conflict ("CIDR already reserved: " ++ record.cidr))

def persistFailure (name : String) (failure : NetworkRegistryError) :
    NetworkRegistryError :=
  .conflict ("cannot persist network " ++ name ++ ": " ++
    failure.description)

def createLocked (request : CreateRequest) : RegistryM NetworkRecord := do
  let cidr ← ofExcept (checkCreate foundation request)
  let existing ← query env .createNetworks NetworkDatabase.networks
  let record := newRecord env request cidr
  ofExcept (checkNew record existing)
  let insertNetwork := statement env .createInsert (·.insertNetwork record)
  if record.isDockerBackend then
    insertNetwork.orElse fun failure =>
      .fail (persistFailure request.name failure)
    return record
  else
    reserve env record
    insertNetwork.orElse fun failure => do
      (release env record.id).attempt
      .fail (persistFailure request.name failure)
    setHandle record.id
    return record

def create (request : CreateRequest) : RegistryM NetworkRecord := do
  requireRunning
  createLocked foundation env request

/-! ## The default network -/

/-- The configured default, or one inferred from a sole shared network or from
the name `default`. -/
def resolveDefaultNetworkRecord : RegistryM DefaultNetworkRecord := do
  let configured ← query env .resolveDefaultCurrent NetworkDatabase.defaultRow
  match configured with
  | some record => return record
  | none =>
      let all ← query env .resolveDefaultNetworks NetworkDatabase.networks
      let shared := all.filter fun network =>
        network.mode = "shared" ∧ network.project = none
      let inferred :=
        match shared with
        | [network] => some network
        | _ => shared.find? (·.name = "default")
      match inferred with
      | none => .fail (.notFound ("default network is not configured; " ++
          "run vzctl net default set <name> --cidr <CIDR>"))
      | some network =>
          let record : DefaultNetworkRecord := {
            name := network.name
            cidr := network.cidr
            updatedAt := env.timestamp }
          statement env .resolveDefaultWrite
            fun database => some (database.setDefaultNetwork record)
          return record

/-- `network \(name) is not active: ...`. -/
def notActive (name : String) (network : NetworkRecord) :
    NetworkRegistryError :=
  .runtime ("network " ++ name ++ " is not active: " ++
    network.lastError.getD "rebuild failed")

def requireHandle (name : String) (network : NetworkRecord) :
    RegistryM Unit :=
  .reading fun registry =>
    if network.id ∈ registry.handles then
      .ok ()
    else
      .error (notActive name network)

/-- The request for a default network that does not exist yet. -/
def defaultRequest (name cidr : String) : CreateRequest where
  name := name
  cidr := cidr

def ensureDefaultNetworkLocked (name cidr : String) :
    RegistryM NetworkRecord := do
  let all ← query env .ensureDefaultNetworks NetworkDatabase.networks
  match all.find? fun network =>
      network.name = name ∧ network.project = none with
  | some existing =>
      .require (existing.cidr = cidr ∧ existing.mode = "shared")
        (.conflict ("network " ++ name ++ " exists with " ++ existing.cidr ++
          ", expected " ++ cidr))
      requireHandle name existing
      return existing
  | none => createLocked foundation env (defaultRequest name cidr)

def setDefault (name rawCIDR : String) :
    RegistryM DefaultNetworkRecord := do
  requireRunning
  ofExcept (validateName foundation name "network")
  let cidr ← ofExcept <| (IPv4CIDR.parse rawCIDR).mapError fun failure =>
    .invalid failure.description
  let _ ← ensureDefaultNetworkLocked foundation env name cidr.canonical
  let current ← query env .setDefaultCurrent NetworkDatabase.defaultRow
  match current.filter fun record =>
      record.name = name ∧ record.cidr = cidr.canonical with
  | some record => return record
  | none =>
      let record : DefaultNetworkRecord := {
        name := name
        cidr := cidr.canonical
        updatedAt := env.timestamp }
      statement env .setDefaultWrite
        fun database => some (database.setDefaultNetwork record)
      return record

/-! ## Attachments -/

def requireStopped (vmIsStopped : Bool) (vmID : String) :
    RegistryM Unit :=
  .require (vmIsStopped = true) (.conflict ("VM " ++ vmID ++
    " must be stopped before changing network attachments"))

/-- Delete the attachments of a list, one by one. -/
def deleteOld (call : String → DatabaseCall)
    (old : List NetworkAttachmentRecord) : RegistryM Unit :=
  .forEach old fun attachment =>
    statement env (call attachment.networkID)
      (·.deleteAttachment attachment.vmID attachment.networkID)

/-- The row `attach` writes. -/
def attachRecord (request : AttachRequest) (network : NetworkRecord) :
    NetworkAttachmentRecord where
  vmID := request.vmID
  networkID := network.id
  networkName := network.name
  ip := request.ip
  labels := request.labels
  project := request.project.or network.project
  stack := request.stack.or network.stack
  updatedAt := env.timestamp

/-- The address check of `attach`. -/
def checkAddress (network : NetworkRecord) (ip : String) :
    RegistryM Unit := do
  let cidr ← ofExcept ((IPv4CIDR.parse network.cidr).mapError .validation)
  let isContained ← ofTrap (cidr.containsAttachment ip)
  .require (isContained = true)
    (.invalid (NetworkValidationError.invalidIP ip network.cidr).description)

/-- The writes of `attach`, which are not a transaction. -/
def writeAttachment (record : NetworkAttachmentRecord) :
    RegistryM Unit := do
  let all ← query env .attachCurrent NetworkDatabase.attachments
  let current := all.filter (·.vmID = record.vmID)
  if current.any (·.networkID = record.networkID) then
    statement env .attachUpdate (·.updateAttachment record)
  else
    statement env .attachInsert (·.insertAttachment record)
  deleteOld env .attachDeleteOld <| current.filter fun old =>
    isAutomatic old.labels && old.networkID ≠ record.networkID

def attach (request : AttachRequest) :
    RegistryM NetworkAttachmentRecord := do
  requireRunning
  ofExcept (validateName foundation request.vmID "VM")
  ofExcept (validateName foundation request.networkName "network")
  ofExcept (validateMetadata foundation request.labels request.project
    request.stack)
  requireStopped request.vmIsStopped request.vmID
  let project ← ofTrap (projectOrVMProject request.project request.vmID)
  let network ← resolveNetwork env request.networkName project
  if network.isDockerBackend = false then
    requireHandle request.networkName network
  checkAddress network request.ip
  let record := attachRecord env request network
  (writeAttachment env record).orElse fun _ =>
    .fail (.conflict ("cannot attach " ++ request.vmID ++ " to " ++
      request.networkName ++ ": VM/network or IP already attached"))
  return record

/-- What `ensureVMNetwork` settles on before it allocates. -/
inductive SelectedNetwork where
  /-- An explicit attachment that exists. -/
  | attached (selection : VMNetworkSelection)
  | network (network : NetworkRecord) (automatic : Bool)

/-- The selection for an explicit attachment whose network is found. -/
def selectExisting (existing : Option NetworkAttachmentRecord) :
    RegistryM (Option VMNetworkSelection) :=
  match existing with
  | none => pure none
  | some attachment => do
      let all ← query env .ensureSelected NetworkDatabase.networks
      return (all.find? (·.id = attachment.networkID)).map fun network => {
        network := network
        attachment := attachment
        automatic := false
        created := false }

/-- The network a VM asks for by name. -/
def selectRequested (vmID requestedNetwork : String)
    (explicit : List NetworkAttachmentRecord) :
    RegistryM SelectedNetwork := do
  ofExcept (validateName foundation requestedNetwork "network")
  let sameNetwork := explicit.filter fun attachment =>
    attachment.networkID = requestedNetwork ∨
      attachment.networkName = requestedNetwork
  .require (sameNetwork.length ≤ 1) (.conflict
    ("ambiguous attached network " ++ requestedNetwork ++
      "; specify qualified identity"))
  let selection ← selectExisting env sameNetwork.head?
  match selection with
  | some selection => return .attached selection
  | none =>
      .require (explicit = []) (.conflict ("VM " ++ vmID ++
        " already has explicit network attachments"))
      let project ← ofTrap (vmProject vmID)
      let network ← resolveNetwork env requestedNetwork project true
      return .network network false

/-- The network of a VM that asks for none. -/
def selectDefault (explicit : List NetworkAttachmentRecord) :
    RegistryM SelectedNetwork := do
  let selection ← selectExisting env explicit.head?
  match selection with
  | some selection => return .attached selection
  | none =>
      let configured ← resolveDefaultNetworkRecord env
      let network ← ensureDefaultNetworkLocked foundation env
        configured.name configured.cidr
      return .network network true

def selectNetwork (vmID : String) (requestedNetwork : Option String)
    (current : List NetworkAttachmentRecord) : RegistryM SelectedNetwork :=
  let explicit := current.filter fun attachment =>
    !isAutomatic attachment.labels
  match requestedNetwork with
  | some requested => selectRequested foundation env vmID requested explicit
  | none => selectDefault foundation env explicit

/-- An explicit request turns an automatic attachment into an explicit one. -/
def promoteAttachment (existing : NetworkAttachmentRecord) :
    NetworkAttachmentRecord :=
  { existing with
    labels := existing.labels.filter (·.1 ≠ automaticLabel)
    updatedAt := env.timestamp }

/-- The attachment the VM has on the selected network. -/
def reuseAttachment (network : NetworkRecord) (automatic : Bool)
    (existing : NetworkAttachmentRecord) : RegistryM VMNetworkSelection :=
  if automatic = false ∧ isAutomatic existing.labels then do
    let promoted := promoteAttachment env existing
    statement env .ensurePromote (·.updateAttachment promoted)
    return ⟨network, promoted, false, false⟩
  else
    return ⟨network, existing, automatic, false⟩

/-- The row an allocation writes. -/
def allocatedRecord (vmID : String) (network : NetworkRecord)
    (automatic : Bool) (ip : String) : NetworkAttachmentRecord where
  vmID := vmID
  networkID := network.id
  networkName := network.name
  ip := ip
  labels := if automatic then [(automaticLabel, "true")] else []
  project := network.project
  stack := network.stack
  updatedAt := env.timestamp

/-- Allocate the lowest free guest address of a network. -/
def allocateAddress (network : NetworkRecord) : RegistryM String := do
  let all ← query env .ensureUsed NetworkDatabase.attachments
  let used := (all.filter (·.networkID = network.id)).map (·.ip)
  let cidr ← ofExcept ((IPv4CIDR.parse network.cidr).mapError .validation)
  let found ← ofTrap (cidr.freeGuestAddress used)
  match found with
  | some ip => return ip
  | none => .fail (.conflict
      ("no free guest IP in network " ++ network.name))

/-- The writes of an allocation, which are not a transaction. -/
def writeAllocation (record : NetworkAttachmentRecord)
    (current : List NetworkAttachmentRecord) : RegistryM Unit := do
  statement env .ensureInsert (·.insertAttachment record)
  deleteOld env .ensureDeleteOld <| current.filter fun old =>
    isAutomatic old.labels

def allocateAttachment (vmID : String) (network : NetworkRecord)
    (automatic : Bool) (current : List NetworkAttachmentRecord) :
    RegistryM VMNetworkSelection := do
  let ip ← allocateAddress env network
  let record := allocatedRecord env vmID network automatic ip
  (writeAllocation env record current).orElse fun failure =>
    .fail (.conflict ("cannot allocate network for " ++ vmID ++ ": " ++
      failure.description))
  return ⟨network, record, automatic, true⟩

def ensureVMNetwork (vmID : String) (requestedNetwork : Option String)
    (vmIsStopped : Bool) : RegistryM VMNetworkSelection := do
  requireRunning
  ofExcept (validateName foundation vmID "VM")
  requireStopped vmIsStopped vmID
  let all ← query env .ensureCurrent NetworkDatabase.attachments
  let current := all.filter (·.vmID = vmID)
  let selected ← selectNetwork foundation env vmID requestedNetwork current
  match selected with
  | .attached selection => return selection
  | .network network automatic =>
      match current.find? (·.networkID = network.id) with
      | some existing => reuseAttachment env network automatic existing
      | none => allocateAttachment env vmID network automatic current

/-- The attachments `detach` may mean. -/
def detachCandidates (vmID networkName : String) (project : Option String)
    (all : List NetworkAttachmentRecord) : List NetworkAttachmentRecord :=
  all.filter fun attachment =>
    attachment.vmID = vmID ∧
      (attachment.networkID = networkName ∨
        attachment.networkName = networkName) ∧
      (project = none ∨ attachment.project = project)

def detach (vmID networkName : String) (project : Option String)
    (vmIsStopped : Bool) : RegistryM Unit := do
  requireRunning
  requireStopped vmIsStopped vmID
  let all ← query env .detachAttachments NetworkDatabase.attachments
  match detachCandidates vmID networkName project all with
  | [attachment] =>
      (statement env .detachDelete
        (·.deleteAttachment vmID attachment.networkID)).orElse fun _ =>
          .fail (.notFound ("attachment not found: " ++ vmID ++ " on " ++
            networkName))
  | _ => .fail (.conflict ("attachment missing or ambiguous: " ++ vmID ++
      " on " ++ networkName))

/-- Detach every network of a VM. -/
def detachAll (vmID : String) (vmIsStopped : Bool) :
    RegistryM (List String) := do
  requireRunning
  requireStopped vmIsStopped vmID
  let all ← query env .detachAllAttachments NetworkDatabase.attachments
  let names := (all.filter (·.vmID = vmID)).map (·.networkID)
  statement env .detachAllDelete
    fun database => some (database.deleteAttachments vmID)
  return names.insertionSort (· ≤ ·)

/-! ## Deleting and recreating networks -/

/-- Drop the handle of a deleted network and release its reservation. -/
def releaseHandle (id : String) : RegistryM Unit := do
  let held ← Procedure.reading fun registry =>
    .ok (decide (id ∈ registry.handles))
  if held then
    removeHandle id
    release env id

def delete (name : String) (project : Option String) :
    RegistryM Unit := do
  requireRunning
  let network ← resolveNetwork env name project
  let all ← query env .deleteAttachments NetworkDatabase.attachments
  let attachments := all.filter (·.networkID = network.id)
  let vms := (attachments.map (·.vmID)).insertionSort (· ≤ ·)
  .require (attachments = []) (.conflict ("network " ++ name ++
    " still has attached VMs: " ++ ", ".intercalate vms))
  (statement env .deleteNetwork (·.deleteNetwork network.id)).orElse
    fun failure => .fail (.conflict ("cannot delete network " ++ name ++
      ": " ++ failure.description))
  releaseHandle env network.id

/-- Write the runtime state of a network. -/
def updateRuntime (call : DatabaseCall) (id state : String)
    (error : Option String) : RegistryM Unit :=
  statement env call (·.updateNetworkRuntime id state error env.timestamp)

def recreateRuntime (name : String) (project : Option String) :
    RegistryM Unit := do
  requireRunning
  let network ← resolveNetwork env name project
  .require (network.isDockerBackend = false)
    (.invalid "docker backend has no vmnet runtime")
  let held ← Procedure.reading fun registry =>
    .ok (decide (network.id ∈ registry.handles))
  .require (held = true)
    (.runtime ("network " ++ name ++ " has no live handle"))
  removeHandle network.id
  let replace : RegistryM Unit := do
    release env network.id
    reserve env network
    setHandle network.id
    updateRuntime env .recreateActive network.id "active" none
  replace.orElse fun failure => do
    (updateRuntime env .recreateOrphaned network.id "orphaned"
      (some failure.description)).attempt
    .fail (.runtime ("cannot recreate network " ++ name ++ ": " ++
      failure.description))

/-! ## Start and stop -/

/-- One round of `rebuild`. -/
def rebuildNetwork (network : NetworkRecord) : RegistryM Unit :=
  let activate := updateRuntime env (.rebuildActive network.id) network.id
    "active" none
  if network.isDockerBackend then
    activate
  else
    let acquire : RegistryM Unit := do
      reserve env network
      activate
      setHandle network.id
    acquire.orElse fun failure =>
      updateRuntime env (.rebuildOrphaned network.id) network.id "orphaned"
        (some failure.description)

def rebuild : RegistryM Unit := do
  let all ← query env .rebuildNetworks NetworkDatabase.networks
  .forEach all (rebuildNetwork env)

/-- `init`: the registry of a new control plane over the same database and the
same vz-net. -/
def start : RegistryM Unit := do
  .writing fun registry =>
    .ok { registry with handles := ∅, stopped := false }
  (rebuild env).orElse fun failure => do
    .writing fun registry =>
      .ok { registry with handles := ∅, stopped := true }
    .fail failure

/-- The reservations of vz-net outlive the control plane. -/
def shutdown : RegistryM Unit :=
  .writing fun registry =>
    .ok { registry with handles := ∅, stopped := true }

end NetworkRegistry

/-! ## Steps -/

/-- One call of the registry. -/
inductive RegistryCall where
  | create (request : CreateRequest)
  | attach (request : AttachRequest)
  | setDefault (name cidr : String)
  | ensureVMNetwork (vmID : String) (requestedNetwork : Option String)
      (vmIsStopped : Bool)
  | detach (vmID networkName : String) (project : Option String)
      (vmIsStopped : Bool)
  | detachAll (vmID : String) (vmIsStopped : Bool)
  | delete (name : String) (project : Option String)
  | recreateRuntime (name : String) (project : Option String)
  | start
  | shutdown

namespace RegistryCall

/-- What a call does, without its result. -/
def procedure (foundation : Foundation) (env : RegistryEnv) :
    RegistryCall → RegistryM Unit
  | .create request => do
      let _ ← NetworkRegistry.create foundation env request
  | .attach request => do
      let _ ← NetworkRegistry.attach foundation env request
  | .setDefault name cidr => do
      let _ ← NetworkRegistry.setDefault foundation env name cidr
  | .ensureVMNetwork vmID requestedNetwork vmIsStopped => do
      let _ ← NetworkRegistry.ensureVMNetwork foundation env vmID
        requestedNetwork vmIsStopped
  | .detach vmID networkName project vmIsStopped =>
      NetworkRegistry.detach env vmID networkName project vmIsStopped
  | .detachAll vmID vmIsStopped => do
      let _ ← NetworkRegistry.detachAll env vmID vmIsStopped
  | .delete name project => NetworkRegistry.delete env name project
  | .recreateRuntime name project =>
      NetworkRegistry.recreateRuntime env name project
  | .start => NetworkRegistry.start env
  | .shutdown => NetworkRegistry.shutdown

/-- The registry after a call, successful or failed. -/
def perform (foundation : Foundation) (registry : NetworkRegistry)
    (label : RegistryEnv × RegistryCall) : NetworkRegistry :=
  (label.2.procedure foundation label.1 registry).2

end RegistryCall

/-- The steps of the registry, with any behaviour of SQLite and of vz-net. -/
def registryStep (foundation : Foundation) :
    NetworkRegistry → RegistryEnv × RegistryCall → NetworkRegistry → Prop :=
  Transitions.ofFunction (RegistryCall.perform foundation)

end Vzctl
