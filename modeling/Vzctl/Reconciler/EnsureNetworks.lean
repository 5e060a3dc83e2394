import Vzctl.Config.AttachmentChecks
import Vzctl.Lib.Dialogue
import Vzctl.Reconciler.Inputs
import Vzctl.Reconciler.Journal

/-!
# Networks of a stack

The part of `network.rs` that brings the networks of the supervisor in line
with those of a configuration.  A step of a run is a dialogue with everything
outside the process; `options.force` is asked for where the code looks at it.
-/

namespace Vzctl

namespace Reconciler

open Config
open Inputs (member)

/-! ## Dialogues of a run -/

def exitInvalid : Nat := 3
def exitLease : Nat := 6
def exitSupervisor : Nat := 10
def exitStep : Nat := 24

/-- A request to the supervisor, a look at `options.force`, or a call of the
host. -/
inductive Command (η : Type) where
  | rpc (method : String) (params : JSONValue)
  | force
  | host (call : η)
  deriving DecidableEq

inductive Reply where
  | result (value : JSONValue)
  /-- The supervisor answers with an error. -/
  | rejected (code : Option Int) (message : Option String)
  /-- There is no answer. -/
  | broken (message : String)
  deriving DecidableEq

/-- The outcome of `rpc`. -/
def Reply.outcome : Reply → Except Failure JSONValue
  | .result value => .ok value
  | .rejected code message =>
      let exit :=
        match code with
        | some 5 => exitIncomplete
        | some 6 => exitLease
        | _ => exitStep
      .error ⟨exit, message.getD "supervisor error"⟩
  | .broken message => .error ⟨exitSupervisor, message⟩

abbrev Step (η : Type) (α : Type) := Dialogue (Command η) Reply Failure α

section

variable {η : Type}

def rpc (method : String) (params : JSONValue) : Step η JSONValue :=
  .request (.rpc method params) Reply.outcome

/-- Whether `options.force` is set. -/
def force : Step η Bool :=
  .request .force fun reply => .ok (reply = .result (.bool true))

end

/-! ## Networks that exist -/

/-- What a run reads of its configuration. -/
structure Stack extends Config.Environment where
  project : String
  name : String

/-- `stack_id`. -/
def Stack.id (stack : Stack) : String := stack.project ++ ":" ++ stack.name

/-- `value.as_array().into_iter().flatten()`. -/
def items (value : JSONValue) : List JSONValue := value.asArray?.getD []

def networkChanged (actual : JSONValue) (desired : NetworkConfig) : Bool :=
  member actual "cidr" ≠ .string desired.cidr ||
    member actual "mode" ≠ .string desired.mode.text ||
    (member actual "nat_egress").asBool?.getD true ≠ desired.natEgress ||
    (member actual "backend").asString?.getD "vmnet" ≠ desired.backend.text

/-- `network.get("id").unwrap_or(&network["name"])`. -/
def identity (network : JSONValue) : JSONValue :=
  (network.field? "id").getD (member network "name")

/-- Old servers had globally unique names. -/
def networkAttachments (snapshot network : JSONValue) : List JSONValue :=
  (items (member snapshot "attachments")).filter fun attachment =>
    match (member attachment "network_id").asString? with
    | some id => some id = (identity network).asString?
    | none => member attachment "network" = member network "name"

section Ownership

variable (library : Library) (stack : Stack)

def isOwn (name : String) (actual : JSONValue) : Bool :=
  member actual "name" = .string name &&
    member actual "project" = .string stack.project

/-- The checks of a network of this project. -/
def checkOwned (snapshot : JSONValue) (name : String)
    (desired : NetworkConfig) (actual : JSONValue) : Except Failure Unit :=
  if member actual "stack" ≠ .string stack.id then
    .error ⟨exitInvalid, "network " ++ name ++
      " belongs to another stack; explicit adoption is required"⟩
  else if networkChanged actual desired then
    forM (networkAttachments snapshot actual) fun attachment =>
      if member attachment "project" ≠ .string stack.project ∨
          member attachment "stack" ≠ .string stack.id then
        .error ⟨exitInvalid, "network " ++ name ++
          " has foreign or unowned attachments; --force cannot detach them"⟩
      else
        .ok ()
  else
    .ok ()

/-- `text.parse::<ipnet::Ipv4Net>().ok()`. -/
def netOf (value : JSONValue) : Option Ipv4Net :=
  value.asString?.bind fun text => (library.parseNet text).toOption

def overlap (left right : Ipv4Net) : Bool :=
  left.contains right.network || right.contains left.network

/-- The check of any other network. -/
def checkForeign (name : String) (desired : NetworkConfig)
    (desiredCidr : Ipv4Net) (actual : JSONValue) : Except Failure Unit :=
  match netOf library (member actual "cidr") with
  | some cidr =>
      if overlap desiredCidr cidr then
        .error ⟨exitInvalid, "network " ++ name ++ " CIDR " ++ desired.cidr ++
          " overlaps existing network " ++
          (member actual "project").asString?.getD "<global>" ++ "/" ++
          (member actual "name").asString?.getD "<unknown>" ++ " (" ++
          cidr.text ++ "); --force cannot change another owner"⟩
      else
        .ok ()
  | none => .ok ()

def checkNetwork (snapshot : JSONValue) (name : String)
    (desired : NetworkConfig) : Except Failure Unit := do
  let desiredCidr ← (library.parseNet desired.cidr).mapError fun message =>
    (⟨exitInvalid, message⟩ : Failure)
  forM (items (member snapshot "networks")) fun actual =>
    if isOwn stack name actual then
      checkOwned stack snapshot name desired actual
    else
      checkForeign library name desired desiredCidr actual

def validateNetworkOwnership (snapshot : JSONValue) : Except Failure Unit :=
  forM (inOrder stack.networks) fun entry =>
    checkNetwork library stack snapshot entry.1 entry.2

end Ownership

/-! ## The step -/

section Ensure

variable {η : Type} (library : Library) (stack : Stack)

def createParams (name : String) (network : NetworkConfig) : JSONValue :=
  .object [
    ("name", .string name),
    ("cidr", .string network.cidr),
    ("mode", .string "shared"),
    ("nat_egress", .bool network.natEgress),
    ("backend", .string network.backend.text),
    ("labels", .object [("managed-by", .string "vzctl")]),
    ("project", .string stack.project),
    ("stack", .string stack.id)]

def detachParams (existing attachment : JSONValue) : JSONValue :=
  .object [
    ("vm_id", member attachment "vm_id"),
    ("network", identity existing),
    ("project", .string stack.project)]

def deleteParams (existing : JSONValue) : JSONValue :=
  .object [
    ("name", identity existing),
    ("project", .string stack.project)]

def createNetwork (name : String) (network : NetworkConfig) : Step η Unit := do
  let _ ← rpc "net.create" (createParams stack name network)

/-- Detach what is attached to a network, and delete it. -/
def removeNetwork (snapshot existing : JSONValue) : Step η Unit := do
  forM (networkAttachments snapshot existing) fun attachment => do
    let _ ← rpc "net.detach" (detachParams stack existing attachment)
  let _ ← rpc "net.delete" (deleteParams stack existing)

def recreateRequired (name : String) : Failure :=
  ⟨exitInvalid, "network " ++ name ++ " requires recreate; use --force"⟩

/-- One round of `ensure_networks`. -/
def ensureNetwork (snapshot : JSONValue) (name : String)
    (network : NetworkConfig) : Step η Unit :=
  match (items (member snapshot "networks")).find? (isOwn stack name) with
  | some existing =>
      if networkChanged existing network then do
        let forced ← force
        if forced then do
          removeNetwork stack snapshot existing
          createNetwork stack name network
        else
          .lift (.error (recreateRequired name))
      else
        pure ()
  | none => createNetwork stack name network

def ensureNetworks : Step η Unit := do
  let snapshot ← rpc "net.list" (.object [])
  .lift (validateNetworkOwnership library stack snapshot)
  forM (inOrder stack.networks) fun entry =>
    ensureNetwork stack snapshot entry.1 entry.2

end Ensure

end Reconciler

end Vzctl
