import Mathlib.Data.List.Infix
import Vzctl.Network.NetRuntimeStore
import Vzctl.Network.NetworkDatabase

/-!
# The network registry of the supervisor

`NetworkRegistry.swift`.  Every operation runs under the registry lock and is
one step.  It updates three stores one after the other: the network tables, the
runtime handles of this process, and the reservations of vz-net.  A database
statement can fail, and a request to vz-net can fail before or after it took
effect.  Nothing is rolled back unless the code says so.
-/

namespace Vzctl

inductive NetworkRegistryError where
  | invalid (message : String)
  | conflict (message : String)
  | notFound (message : String)
  | runtime (message : String)
  /-- `SupervisorError.database`, passed on. -/
  | database (message : String)
  /-- `NetworkValidationError`, passed on. -/
  | validation (error : NetworkValidationError)
  /-- The process traps. -/
  | trap (trap : Trap)
  deriving DecidableEq, Repr

def NetworkRegistryError.description : NetworkRegistryError → String
  | .invalid message => message
  | .conflict message => message
  | .notFound message => message
  | .runtime message => message
  | .database message => message
  | .validation error => error.description
  | .trap _ => ""

/-- The database calls, by the place they are made from. -/
inductive DatabaseCall where
  | createNetworks
  | createInsert
  | resolveNetworks
  | attachCurrent
  | attachUpdate
  | attachInsert
  | attachDeleteOld (networkID : String)
  | setDefaultCurrent
  | setDefaultWrite
  | ensureCurrent
  | ensureSelected
  | ensurePromote
  | ensureUsed
  | ensureInsert
  | ensureDeleteOld (networkID : String)
  | resolveDefaultCurrent
  | resolveDefaultNetworks
  | resolveDefaultWrite
  | ensureDefaultNetworks
  | detachAttachments
  | detachDelete
  | detachAllAttachments
  | detachAllDelete
  | deleteAttachments
  | deleteNetwork
  | recreateActive
  | recreateOrphaned
  | rebuildNetworks
  | rebuildActive (id : String)
  | rebuildOrphaned (id : String)
  deriving DecidableEq, Repr

/-- How a request to vz-net fares. -/
inductive CallFate where
  | answered
  /-- It fails before vz-net sees it. -/
  | undelivered
  /-- vz-net serves it and the answer is lost. -/
  | unanswered
  deriving DecidableEq, Repr

/-- What one call reads from its surroundings.  `native` tells which native
reservations fail. -/
structure RegistryEnv where
  timestamp : String := ""
  faults : DatabaseCall → Bool := fun _ => false
  message : DatabaseCall → String := fun _ => ""
  acquire : String → CallFate := fun _ => .answered
  release : String → CallFate := fun _ => .answered
  native : String → Option String := fun _ => none
  transport : String := ""

/-- What the code uses of Foundation's character data. -/
structure Foundation where
  /-- `CharacterSet.alphanumerics`. -/
  alphanumeric : Char → Bool
  /-- `String.count`, the number of grapheme clusters. -/
  characterCount : String → Nat
  /-- `value.contains("..")`. -/
  containsDoubleDot : String → Bool
  /-- `value.contains("/")`: a slash that is a character of its own, with no
  combining mark behind it. -/
  containsSlash : String → Bool

/-- Foundation on ASCII text without line breaks. -/
def Foundation.ascii : Foundation where
  alphanumeric scalar := scalar.isAlpha || scalar.isDigit
  characterCount value := value.length
  containsDoubleDot value := decide (['.', '.'] <:+: value.toList)
  containsSlash value := value.toList.contains '/'

/-- The registry of one control plane, with the vz-net process it talks to. -/
structure NetworkRegistry where
  database : NetworkDatabase
  handles : Finset String
  stopped : Bool
  runtime : NetRuntimeStore

abbrev RegistryM (α : Type) :=
  Procedure NetworkRegistry NetworkRegistryError α

structure VMNetworkSelection where
  network : NetworkRecord
  attachment : NetworkAttachmentRecord
  automatic : Bool
  created : Bool
  deriving DecidableEq, Repr

namespace NetworkRegistry

/-- A registry without networks. -/
def fresh : NetworkRegistry where
  database := .fresh
  handles := ∅
  stopped := false
  runtime := .fresh

def automaticLabel : String := "vzctl.dev/default-attachment"

/-- `labels[automaticLabel] == "true"`. -/
def isAutomatic (labels : Labels) : Bool :=
  labels.lookup automaticLabel = some "true"

/-! ## Access to the stores -/

def ofExcept {α : Type} (outcome : Except NetworkRegistryError α) :
    RegistryM α :=
  .reading fun _ => outcome

def ofTrap {α : Type} (outcome : Except Trap α) : RegistryM α :=
  ofExcept (outcome.mapError .trap)

/-- A query. -/
def query {α : Type} (env : RegistryEnv) (call : DatabaseCall)
    (look : NetworkDatabase → α) : RegistryM α :=
  .reading fun registry =>
    if env.faults call then
      .error (.database (env.message call))
    else
      .ok (look registry.database)

/-- A statement that SQLite may refuse. -/
def statement (env : RegistryEnv) (call : DatabaseCall)
    (change : NetworkDatabase → Option NetworkDatabase) :
    RegistryM Unit :=
  .writing fun registry =>
    if env.faults call then
      .error (.database (env.message call))
    else
      match change registry.database with
      | none => .error (.database (env.message call))
      | some database => .ok { registry with database := database }

def setHandle (id : String) : RegistryM Unit :=
  .writing fun registry =>
    .ok { registry with handles := insert id registry.handles }

def removeHandle (id : String) : RegistryM Unit :=
  .writing fun registry =>
    .ok { registry with handles := registry.handles.erase id }

/-- One request to vz-net. -/
def callRuntime {α : Type} (env : RegistryEnv) (fate : CallFate)
    (served : Procedure NetRuntimeStore NetRuntimeError α) :
    RegistryM Unit :=
  fun registry =>
    match fate with
    | .undelivered => (.error (.runtime env.transport), registry)
    | .unanswered =>
        (.error (.runtime env.transport),
          { registry with runtime := (served registry.runtime).2 })
    | .answered =>
        match served registry.runtime with
        | (.ok _, runtime) =>
            (.ok (), { registry with runtime := runtime })
        | (.error failure, runtime) =>
            (.error (.runtime failure.description),
              { registry with runtime := runtime })

/-- `RemoteVzNetBackend.reserve`. -/
def reserve (env : RegistryEnv) (network : NetworkRecord) :
    RegistryM Unit :=
  callRuntime env (env.acquire network.id) <|
    NetRuntimeStore.acquire (env.native network.id) network.id network.cidr
      network.mode network.natEgress

/-- `RemoteVzNetBackend.release`. -/
def release (env : RegistryEnv) (id : String) : RegistryM Unit :=
  callRuntime env (env.release id) (NetRuntimeStore.release id)

/-! ## Checks -/

def requireRunning : RegistryM Unit :=
  .reading fun registry =>
    if registry.stopped then
      .error (.runtime "network registry is stopping")
    else
      .ok ()

def validName (foundation : Foundation) (value : String) : Bool :=
  value ≠ "" ∧ foundation.characterCount value ≤ 128 ∧
    value.toList.all (fun scalar =>
      foundation.alphanumeric scalar || "-_./".toList.contains scalar) ∧
    value ≠ "." ∧ value ≠ ".." ∧ foundation.containsDoubleDot value = false

def validateName (foundation : Foundation) (value kind : String) :
    Except NetworkRegistryError Unit :=
  if validName foundation value then
    .ok ()
  else
    .error (.invalid ("invalid " ++ kind ++ " name: " ++ value))

def validMetadata (foundation : Foundation) (labels : Labels)
    (project stack : Option String) : Bool :=
  let short (value : String) : Bool :=
    value ≠ "" ∧ foundation.characterCount value ≤ 128
  labels.length ≤ 64 ∧
    labels.all (fun label =>
      short label.1 ∧ foundation.characterCount label.2 ≤ 256) ∧
    project.all short ∧ stack.all short

def validateMetadata (foundation : Foundation) (labels : Labels)
    (project stack : Option String) : Except NetworkRegistryError Unit :=
  if validMetadata foundation labels project stack then
    .ok ()
  else
    .error (.invalid "invalid labels/project/stack metadata")

/-- The line terminators before which `$` matches at the end of a text. -/
def lineTerminators : List (List Char) :=
  [['\r', '\n'], ['\n'], ['\x0b'], ['\x0c'], ['\r'], ['\u0085'], ['\u2028'],
    ['\u2029']]

def isAsciiAlphanumeric (scalar : Char) : Bool :=
  scalar.isAlpha || scalar.isDigit

/-- `[A-Za-z0-9][A-Za-z0-9._-]*`. -/
def isProjectText (text : List Char) : Bool :=
  match text with
  | [] => false
  | first :: rest =>
      isAsciiAlphanumeric first &&
        rest.all fun scalar =>
          isAsciiAlphanumeric scalar || "._-".toList.contains scalar

/-- `^[A-Za-z0-9][A-Za-z0-9._-]*$`. -/
def matchesProject (project : String) : Bool :=
  isProjectText project.toList ||
    lineTerminators.any fun terminator =>
      terminator.isSuffixOf project.toList &&
        isProjectText
          (project.toList.take (project.toList.length - terminator.length))

/-- The first component of a qualified VM id, at a slash without a combining
mark behind it. -/
def vmProject (vmID : String) : Except Trap (Option String) :=
  if '/' ∈ vmID.toList then
    match (vmID.toList.splitOn '/').filter (· ≠ []) with
    | [] => .error .indexOutOfRange
    | first :: _ => .ok (some (String.ofList first))
  else
    .ok none

/-- `project ?? vmProject(vmID)`. -/
def projectOrVMProject (project : Option String) (vmID : String) :
    Except Trap (Option String) :=
  match project with
  | some project => .ok (some project)
  | none => vmProject vmID

/-! ## Resolving names -/

/-- The networks a name may mean. -/
def candidatesFor (name : String) (project : Option String)
    (allowGlobal : Bool) (all : List NetworkRecord) : List NetworkRecord :=
  let candidates := all.filter fun network =>
    network.id = name ∨ network.name = name
  match project with
  | none => candidates
  | some project =>
      let owned := candidates.filter (·.project = some project)
      if owned ≠ [] ∨ allowGlobal = false then
        owned
      else
        candidates.filter (·.project = none)

/-- Unqualified ambiguous names never choose an owner. -/
def resolveAmong (name : String) (project : Option String)
    (allowGlobal : Bool) (all : List NetworkRecord) :
    Except NetworkRegistryError NetworkRecord :=
  match candidatesFor name project allowGlobal all with
  | [network] => .ok network
  | [] => .error (.notFound
      ("network not found for requested project: " ++ name))
  | _ => .error (.conflict ("ambiguous network " ++ name ++
      "; specify project or qualified identity"))

def resolveNetwork (env : RegistryEnv) (name : String)
    (project : Option String) (allowGlobal : Bool := false) :
    RegistryM NetworkRecord := do
  let all ← query env .resolveNetworks NetworkDatabase.networks
  ofExcept (resolveAmong name project allowGlobal all)

end NetworkRegistry

end Vzctl
