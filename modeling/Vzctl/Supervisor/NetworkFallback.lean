import Mathlib.Data.String.Basic
import Vzctl.Lib.Attempts
import Vzctl.Lib.SortedBy
import Vzctl.Supervisor.HelperProcesses
import Vzctl.Supervisor.NetworkResilience

/-!
# The disruptive fallback

`attemptNetworkFallback` stops the VMs of the networks whose egress is stuck,
recreates the runtime networks and starts the VMs again.  The replies of the
RPCs it dispatches, the state of the helpers and the registry at the time of
each call are inputs: other requests are served meanwhile.
-/

namespace Vzctl

structure NetworkResiliencePolicyRecord where
  project : String
  stack : String
  probeEnabled : Bool
  probeURL : String
  restartVMs : Bool
  updatedAt : String
  deriving DecidableEq, Repr

structure NetworkSnapshot where
  networks : List NetworkRecord
  attachments : List NetworkAttachmentRecord

def NetworkSnapshot.attachmentsOf (snapshot : NetworkSnapshot)
    (networkID : String) : List NetworkAttachmentRecord :=
  snapshot.attachments.filter (·.networkID = networkID)

def networkFallbackPolicyAllows (names : List String)
    (snapshot : NetworkSnapshot)
    (policies : List NetworkResiliencePolicyRecord) : Bool :=
  names.all fun name =>
    match snapshot.networks.find? (·.id = name) with
    | none => false
    | some network =>
        match network.project, network.stack with
        | some project, some stack =>
            let attachments := snapshot.attachmentsOf name
            policies.any (fun policy =>
              policy.project = project ∧ policy.stack = stack ∧
                policy.restartVMs) &&
              !attachments.isEmpty &&
              attachments.all fun attachment =>
                attachment.project = some project ∧
                  attachment.stack = some stack
        | _, _ => false

/-- What the fallback is told by the database, the registry and the RPCs it
dispatches, which it does at most once for each VM and each network. -/
structure FallbackEnv where
  /-- Nothing when the read throws. -/
  snapshot : Option NetworkSnapshot
  policies : Option (List NetworkResiliencePolicyRecord)
  /-- `helpers` when the attachments of a network are visited. -/
  helpers : String → String → Option HelperRecord
  /-- `vm.stop` answers without an error. -/
  stops : String → Bool
  /-- A helper of one of the VMs still runs after the wait. -/
  stillActive : Bool
  /-- The registry in front of a `recreateRuntime`. -/
  registry : String → NetworkRegistry
  runtime : String → RegistryEnv
  /-- `vm.start` answers without an error. -/
  starts : String → Bool
  /-- All VMs were seen running before the start deadline. -/
  ready : Bool

/-- The calls of one fallback. -/
inductive FallbackCall where
  | restarting (networks vms : List String)
  | stop (vmID : String)
  | recreateRuntime (name : String)
  | degraded (error : String)
  | start (vmID bundle : String)
  deriving DecidableEq, Repr

/-- An error is a `return false`; a failed `recreateRuntime` is told to the
`catch`. -/
abbrev FallbackM (α : Type) :=
  Procedure (List FallbackCall) (Option NetworkRegistryError) α

def NetworkRecoveryResult.failedNetworks (result : NetworkRecoveryResult) :
    List String :=
  sortedBy id <|
    (result.networkEgress.filter fun entry =>
      entry.2.classification = "offline").map (·.1)

/-- VM ids with their bundles. -/
abbrev RunningVMs := AList fun _ : String => String

def RunningVMs.sortedKeys (running : RunningVMs) : List String :=
  sortedBy id running.keys

namespace FallbackEnv

variable (env : FallbackEnv)

/-- One round of the loop that collects the running VMs. -/
def collect (snapshot : NetworkSnapshot) (running : RunningVMs)
    (name : String) : RunningVMs :=
  (snapshot.attachmentsOf name).foldl (fun found attachment =>
    match env.helpers name attachment.vmID with
    | some record =>
        if record.state = .running then
          found.insert record.vmID record.bundle
        else
          found
    | none => found) running

/-- The networks and VMs the fallback is going to restart, if it may. -/
def plan (result : NetworkRecoveryResult) :
    Option (List String × RunningVMs) :=
  let names := result.failedNetworks
  if ¬ (result.internalOK ∧ result.hostEgress.classification = "online" ∧
      result.conflicts.isEmpty) ∨ names.isEmpty then
    none
  else
    match env.snapshot, env.policies with
    | some snapshot, some policies =>
        if networkFallbackPolicyAllows names snapshot policies then
          let running := names.foldl (env.collect snapshot) ∅
          if running.keys.isEmpty then none else some (names, running)
        else
          none
    | _, _ => none

def record (call : FallbackCall) : FallbackM Unit :=
  .writing fun log => .ok (log ++ [call])

/-- `guard … else { return false }`. -/
def orReturn (accepted : Bool) : Except (Option NetworkRegistryError) Unit :=
  if accepted then .ok () else .error none

def stopOutcome (vmID : String) : Except (Option NetworkRegistryError) Unit :=
  orReturn (env.stops vmID)

def startOutcome (vmID : String) :
    Except (Option NetworkRegistryError) Unit :=
  orReturn (env.starts vmID)

def stopVMs (running : RunningVMs) : FallbackM Unit :=
  Attempts.visit running.sortedKeys.reverse .stop env.stopOutcome

/-- The result of `recreateRuntime(name:)`. -/
def recreated (name : String) : Except (Option NetworkRegistryError) Unit :=
  (NetworkRegistry.recreateRuntime (env.runtime name) name none
    (env.registry name)).1.mapError some

def recreateNetworks (names : List String) : FallbackM Unit :=
  (Attempts.visit names .recreateRuntime env.recreated).orElse
    fun failure => do
      record (.degraded ("fallback network recreate failed: " ++
        (failure.map (·.description)).getD ""))
      .fail failure

def startVMs (running : RunningVMs) : FallbackM Unit :=
  .forEach running.sortedKeys fun vmID =>
    match running.lookup vmID with
    | none => pure ()
    | some bundle => do
        record (.start vmID bundle)
        .reading fun _ => env.startOutcome vmID

/-- `attemptNetworkFallback`. -/
def attempt (result : NetworkRecoveryResult) : FallbackM Bool :=
  match env.plan result with
  | none => .fail none
  | some (names, running) => do
      record (.restarting names running.sortedKeys)
      env.stopVMs running
      .reading fun _ => orReturn (!env.stillActive)
      env.recreateNetworks names
      env.startVMs running
      return env.ready

/-- The calls it has made when it returns. -/
def calls (result : NetworkRecoveryResult) : List FallbackCall :=
  (env.attempt result []).2

end FallbackEnv

/-! ## What a fallback takes down -/

namespace NetworkRegistry

/-- `recreateRuntime` up to the request that gives the reference back. -/
def releaseCurrent (env : RegistryEnv) (name : String)
    (project : Option String) : RegistryM NetworkRecord := do
  requireRunning
  let network ← resolveNetwork env name project
  .require (network.isDockerBackend = false)
    (.invalid "docker backend has no vmnet runtime")
  let held ← Procedure.reading fun registry =>
    .ok (decide (network.id ∈ registry.handles))
  .require (held = true)
    (.runtime ("network " ++ name ++ " has no live handle"))
  removeHandle network.id
  release env network.id
  return network

end NetworkRegistry

namespace FallbackEnv

variable (env : FallbackEnv)

/-- What `recreateRuntime` has come to when the release is over. -/
def released (name : String) :
    Except NetworkRegistryError NetworkRecord × NetworkRegistry :=
  NetworkRegistry.releaseCurrent (env.runtime name) name none
    (env.registry name)

/-- The call gave up a reservation of vz-net. -/
def TakesDown (name : String) : Prop :=
  ∃ id, (env.registry name).runtime.Reserves id ∧
    ¬ (env.released name).2.runtime.Reserves id

/-- The release returned, so the next request reserves the network again. -/
def Reserves (name : String) : Prop :=
  ∃ network, (env.released name).1 = .ok network

/-- Every VM that was stopped had a start attempted, and every runtime network
that was taken down had a reservation attempted. -/
structure Restores (calls : List FallbackCall) : Prop where
  vms : ∀ vmID, .stop vmID ∈ calls → env.stops vmID = true →
    ∃ bundle, .start vmID bundle ∈ calls
  networks : ∀ name, .recreateRuntime name ∈ calls → env.TakesDown name →
    env.Reserves name

/-- Nothing fails after the first VM was stopped, except for the start of the
last one. -/
structure Completes (names : List String) (running : RunningVMs) : Prop where
  stops : ∀ vmID ∈ running.sortedKeys, env.stops vmID = true
  exits : env.stillActive = false
  recreates : ∀ name ∈ names, env.recreated name = .ok ()
  starts : ∀ vmID ∈ running.sortedKeys.dropLast, env.starts vmID = true

/-- The first `vm.stop`, of the VM with the greatest id, fails. -/
def RefusedAtOnce (running : RunningVMs) : Prop :=
  ∀ vmID, running.sortedKeys.getLast? = some vmID → env.stops vmID = false

end FallbackEnv

end Vzctl
