import Vzctl.Lib.SortedBy
import Vzctl.Reconciler.CompletePlan
import Vzctl.Reconciler.EnsureNetworks

/-!
# Virtual machines of a stack

`ensure_vms` of `vm.rs`: the bundles of VMs that are no longer desired are
removed, those of a breaking update are replaced, and missing ones are created.
-/

namespace Vzctl

namespace Reconciler

open Dependencies (VMs TraversalFailure dependencyOrder)
open Inputs (member)

/-! ## Calls of the host -/

/-- What happens to the bundle of a VM. -/
inductive BundleCall where
  /-- `bundle.join("vm.json").is_file()`. -/
  | isFile (vm : String)
  /-- `vm.json` is read and parsed. -/
  | readManifest (vm : String)
  /-- `fs::remove_dir_all(&bundle)`. -/
  | remove (vm : String)
  /-- The arguments of `vm create` are put together, and it runs. -/
  | create (vm : String)
  deriving DecidableEq

abbrev VMStep (α : Type) := Step BundleCall α

def Reply.step : Reply → Except Failure JSONValue
  | .result value => .ok value
  | .rejected _ message => .error ⟨exitStep, message.getD ""⟩
  | .broken message => .error ⟨exitStep, message⟩

def hostCall (call : BundleCall) : VMStep JSONValue :=
  .request (.host call) Reply.step

def isFile (vm : String) : VMStep Bool :=
  .request (.host (.isFile vm)) fun reply =>
    .ok (reply = .result (.bool true))

/-! ## Stopping -/

def vmParams (vm : String) : JSONValue := .object [("vm_id", .string vm)]

def stopOne (vm : String) : VMStep Unit := do
  let _ ← rpc "vm.stop" (vmParams vm)

/-- A record of a VM that is starting or running. -/
def isActive (vm : String) (record : JSONValue) : Bool :=
  member record "vm_id" = .string vm &&
    (member record "state" = .string "starting" ||
      member record "state" = .string "running")

/-- `wait_stopped`, where the deadline comes after so many rounds. -/
def waitStopped (vm : String) : Nat → VMStep Unit
  | 0 => do
      let records ← rpc "vm.list" (.object [])
      if (items records).any (isActive vm) then
        .lift (.error ⟨exitStep,
          "VM " ++ vm ++ " did not stop before timeout"⟩)
      else
        pure ()
  | rounds + 1 => do
      let records ← rpc "vm.list" (.object [])
      if (items records).any (isActive vm) then
        waitStopped vm rounds
      else
        pure ()

/-! ## Bundles -/

def removeManagedVM (vm : String) : VMStep Unit := do
  let present ← isFile vm
  if present then
    let value ← hostCall (.readManifest vm)
    if member value "managed-by" ≠ .string "vzctl" then
      .lift (.error ⟨exitStep,
        "refusing to purge unmanaged VM bundle " ++ vm⟩)
    else
      let _ ← hostCall (.remove vm)
      pure ()
  else
    pure ()

/-- What `bundle_matches_vm` reads of a configured VM. -/
structure DesiredVM where
  disk : String
  roles : List String
  addresses : List String

def diskGiB (value : String) : Except Failure Nat :=
  let digits := value.toList.takeWhile Char.isDigit
  let number := Nat.ofDigitChars 10 digits 0
  match value.toList.dropWhile Char.isDigit with
  | [] => .error ⟨exitInvalid, "invalid disk: " ++ value⟩
  | unit =>
      if digits = [] ∨ 2 ^ 64 ≤ number then
        .error ⟨exitInvalid, "invalid disk: " ++ value⟩
      else if String.ofList (unit.map Char.toLower) ∈
          ["g", "gb", "gib"] then
        .ok number
      else if String.ofList (unit.map Char.toLower) ∈
          ["t", "tb", "tib"] then
        if number * 1024 < 2 ^ 64 then .ok (number * 1024)
        else .error ⟨exitInvalid, "disk is too large"⟩
      else
        .error ⟨exitInvalid,
          "disk must use GiB/TiB for VM creation: " ++ value⟩

/-- The texts of an array. -/
def texts (value : JSONValue) : List String :=
  (items value).filterMap (·.asString?)

/-- The comparison of a manifest with a configured VM. -/
def manifestMatches (value : JSONValue) (vm : DesiredVM) :
    Except Failure Bool := do
  let size ← diskGiB vm.disk
  let addresses := (items (member (member value "identity") "nics")).filterMap
    fun nic => (member nic "address").asString?
  if member (member (member value "disks") "root") "size_gib" ≠
      .number size then
    return false
  else if sortedBy id (texts (member value "roles")) ≠
      sortedBy id vm.roles then
    return false
  else if ¬ ∀ address ∈ addresses, address ∈ vm.addresses then
    return false
  else
    return vm.addresses = [] || addresses ≠ []

def bundleMatchesVM (id : String) (vm : DesiredVM) : VMStep Bool := do
  let present ← isFile id
  if present then
    let value ← hostCall (.readManifest id)
    .lift (manifestMatches value vm)
  else
    pure false

/-! ## The step -/

/-- What the step reads of a configuration; `polls` is how often a VM that
does not stop is asked about. -/
structure VMStack where
  project : String
  vms : VMs
  desired : String → DesiredVM
  polls : String → Nat

/-- `vm_runtime_id`. -/
def VMStack.runtimeID (stack : VMStack) (name : String) : String :=
  stack.project ++ "/" ++ name

/-- Only a cycle is an error of the program; a validated configuration has
none of the three. -/
def orderFailure : TraversalFailure → Failure
  | .cycle => ⟨exitInvalid, "VM dependency cycle"⟩
  | .panic => ⟨exitStep, "panic"⟩
  | .outOfFuel => ⟨exitStep, "out of fuel"⟩

/-- A VM is stopped, and its bundle is removed. -/
def purgeVM (stack : VMStack) (id : String) : VMStep Unit := do
  stopOne id
  waitStopped id (stack.polls id)
  removeManagedVM id

/-- The actions of `options_apply_deletes`. -/
def vmDeletes (plan : Plan) : List PlanAction :=
  plan.actions.filter fun action =>
    action.action = "delete" && action.kind = "vm"

def recreateVMRequired : Failure :=
  ⟨exitInvalid, "VM recreate requires --force"⟩

/-- Some action replaces the VM. -/
def replaces (plan : Plan) (id : String) : Bool :=
  (plan.actions.find? fun action =>
    action.kind = "vm" && action.name = id).any fun action =>
      action.action = "update" && action.breaking

/-- The end of a round: a missing bundle is made. -/
def createMissing (id : String) : VMStep Unit := do
  let present ← isFile id
  if present then
    pure ()
  else
    let _ ← hostCall (.create id)
    pure ()

/-- One round of the loop over the VMs. -/
def ensureVM (stack : VMStack) (plan : Plan) (name : String) :
    VMStep Unit := do
  let id := stack.runtimeID name
  if replaces plan id then
    let forced ← force
    if forced then
      let unchanged ← bundleMatchesVM id (stack.desired name)
      if unchanged then
        pure ()
      else
        purgeVM stack id
        createMissing id
    else
      .lift (.error recreateVMRequired)
  else
    createMissing id

def ensureVMs (stack : VMStack) (plan : Plan) : VMStep Unit := do
  forM (vmDeletes plan) fun action => purgeVM stack action.name
  let order ← .lift ((dependencyOrder stack.vms).mapError orderFailure)
  forM order (ensureVM stack plan)

end Reconciler

end Vzctl
