import Mathlib.Logic.Function.Basic
import Vzctl.Lib.Procedure
import Vzctl.Lib.Transition

/-!
# The fenced reconcile of vz-edge

`EdgeServer` keeps the accepted desired state in memory and in a manifest
file.  Every sub-step of a call can fail, and vz-edge can end between any two
of them; a new process reads the manifest again.
-/

namespace Vzctl

open Procedure

namespace EdgeServer

variable {Desired : Type}

structure EdgeManifest (Desired : Type) where
  generation : Int
  digest : String
  desired : Desired
  deriving DecidableEq

/-! ## Sub-steps -/

/-- The sub-steps of `apply`, in their order. -/
inductive ApplyStep where
  | parse
  | prepare
  | processes
  | portForwards
  | gateways
  | dns
  | finish
  deriving DecidableEq, Repr

inductive SubStep where
  | apply (step : ApplyStep)
  | encode
  | write
  | remove
  | move
  deriving DecidableEq, Repr

inductive RestoreStep where
  | read
  | apply (step : ApplyStep)
  deriving DecidableEq, Repr

def SubStep.applyStep : SubStep → Option ApplyStep
  | .apply step => some step
  | _ => none

def RestoreStep.applyStep : RestoreStep → Option ApplyStep
  | .apply step => some step
  | .read => none

inductive Failure where
  | conflict
  | invalid
  | failed
  | recovery
  deriving DecidableEq, Repr

/-! ## State -/

/-- The parts of the host that `apply` changes. -/
inductive Part where
  | hostNetwork
  | processes
  | portForwards
  | gateways
  | dns
  deriving DecidableEq, Repr

structure Disk (Desired : Type) where
  manifest : Option (EdgeManifest Desired)
  temporary : Option (EdgeManifest Desired)
  deriving DecidableEq

/-- A part of the host stands as some desired state asks, or is unknown.
`accepted` is history: the call whose manifest was moved into place last. -/
structure World (Desired : Type) where
  memory : EdgeManifest Desired
  lastError : Option Failure
  applied : Part → Option Desired
  disk : Disk Desired
  accepted : Option (EdgeManifest Desired)

/-- The memory of a new process; `empty` is the desired state without
entries. -/
def blank (empty : Desired) : EdgeManifest Desired where
  generation := 0
  digest := ""
  desired := empty

def World.start (empty : Desired) : World Desired where
  memory := blank empty
  lastError := none
  applied _ := none
  disk :=
    { manifest := none, temporary := none }
  accepted := none

def World.set (world : World Desired) (part : Part)
    (desired : Option Desired) : World Desired :=
  { world with applied := Function.update world.applied part desired }

abbrev Action (Desired α : Type) := Procedure (World Desired) Failure α

/-! ## Source -/

/-- One sub-step, which fails without effect where it is the one to stop
at. -/
def perform {Step : Type} [DecidableEq Step] (stop : Option Step)
    (step : Step) (effect : World Desired → World Desired) :
    Action Desired PUnit := do
  require (stop ≠ some step) Failure.failed
  writing fun world => .ok (effect world)

/-- A failed change of a part leaves it unknown. -/
def install (stop : Option ApplyStep) (step : ApplyStep) (part : Part)
    (desired : Desired) : Action Desired PUnit := do
  writing fun world => .ok (world.set part none)
  perform stop step fun world => world.set part (some desired)

def apply (stop : Option ApplyStep) (desired : Desired) :
    Action Desired PUnit := do
  perform stop .parse id
  writing fun world => .ok (world.set .hostNetwork none)
  perform stop .prepare id
  install stop .processes .processes desired
  install stop .portForwards .portForwards desired
  install stop .gateways .gateways desired
  install stop .dns .dns desired
  perform stop .finish fun world => world.set .hostNetwork (some desired)

def persist (stop : Option SubStep) (manifest : EdgeManifest Desired) :
    Action Desired PUnit := do
  perform stop .encode id
  perform stop .write fun world =>
    { world with disk := { world.disk with temporary := some manifest } }
  let standing ← reading fun world => .ok world.disk.manifest
  if standing.isSome then
    perform stop .remove fun world =>
      { world with disk := { world.disk with manifest := none } }
  else pure ⟨⟩
  perform stop .move fun world =>
    { world with
      disk := { manifest := world.disk.temporary, temporary := none }
      accepted := some manifest }

def note (failure : Failure) : Action Desired PUnit :=
  writing fun world => .ok { world with lastError := some failure }

def record (manifest : EdgeManifest Desired) : Action Desired PUnit :=
  writing fun world =>
    .ok { world with memory := manifest, lastError := none }

/-- What a call does before its result is in memory. -/
def advance (stop : Option SubStep) (call : EdgeManifest Desired) :
    Action Desired PUnit := do
  apply (stop.bind SubStep.applyStep) call.desired
  persist stop call

/-- `rollback` is the sub-step at which the second `apply` fails. -/
def recover (current : EdgeManifest Desired) (rollback : Option ApplyStep)
    (failure : Failure) : Action Desired PUnit := do
  note failure
  if 0 < current.generation then
    attempt (apply rollback current.desired)
  else pure ⟨⟩
  Procedure.fail failure

def reconcile (call : EdgeManifest Desired) (stop : Option SubStep)
    (rollback : Option ApplyStep) : Action Desired PUnit := do
  let current ← reading fun world => .ok world.memory
  require (¬ call.generation < current.generation) Failure.conflict
  if call.generation = current.generation then
    require (call.digest = current.digest) Failure.conflict
  else do
    require (call.digest ≠ "") Failure.invalid
    orElse (do
        advance stop call
        record call)
      (recover current rollback)

def restoreManifest (stop : Option RestoreStep) : Action Desired PUnit := do
  let found ← reading fun world => .ok world.disk.manifest
  match found with
  | none => pure ⟨⟩
  | some manifest =>
      orElse (do
          require (stop ≠ some .read) Failure.recovery
          apply (stop.bind RestoreStep.applyStep) manifest.desired
          record manifest)
        fun _ => note .recovery

/-! ## Runs -/

/-- The call passes the fence with a new generation. -/
def EdgeManifest.Advances (call current : EdgeManifest Desired) : Prop :=
  current.generation < call.generation ∧ call.digest ≠ ""

instance (call current : EdgeManifest Desired) :
    Decidable (call.Advances current) :=
  inferInstanceAs (Decidable (_ ∧ _))

/-- A call, or a call that is cut off before the sub-step `point` (after the
last one for `none`) and the start of the next process. -/
inductive Event (Desired : Type) where
  | call (manifest : EdgeManifest Desired) (stop : Option SubStep)
      (rollback : Option ApplyStep)
  | crash (manifest : EdgeManifest Desired) (point : Option SubStep)
      (restore : Option RestoreStep)

/-- The state in which a call is cut off. -/
def World.cutOff (world : World Desired) (call : EdgeManifest Desired)
    (point : Option SubStep) : World Desired :=
  if call.Advances world.memory then (advance point call world).2 else world

/-- A new process finds the disk as the last one left it. -/
def World.restarted (empty : Desired) (world : World Desired) :
    World Desired :=
  { World.start empty with disk := world.disk, accepted := world.accepted }

def World.step (empty : Desired) (world : World Desired) :
    Event Desired → World Desired
  | .call manifest stop rollback => (reconcile manifest stop rollback world).2
  | .crash manifest point restore =>
      (restoreManifest restore
        ((world.cutOff manifest point).restarted empty)).2

end EdgeServer

end Vzctl
