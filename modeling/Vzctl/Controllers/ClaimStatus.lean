import Mathlib.Logic.Function.Basic
import Vzctl.Controllers.ClaimDiscovery
import Vzctl.Lib.CarryOver
import Vzctl.Lib.Transition

/-!
# Status of service claims

`reconcile_guarded` writes a status record for each claim and a snapshot of
all of them; `status` reports both without a reconcile.  A claim that is no
longer declared stays in the snapshot, since its data and credentials are
kept.  The file of a record is named by a digest of the claim's name, and the
name stands for the digest here.  What the guest, the providers and the file
system answer are inputs of a run.
-/

namespace Vzctl

namespace ClaimStatus

open ClaimDiscovery
open EdgeClaims (ControllerError ServiceKind RegistrationReply
  checkRegistration isConflict)

/-! ## Records -/

inductive ClaimState where
  | ready
  | conflict
  | degraded
  | retained
  | pending
  deriving DecidableEq

/-- A condition of the type `Ready`. -/
structure Condition where
  status : String
  reason : String
  message : Option String
  deriving DecidableEq

abbrev PublicBinding := List (String × String)

/-- What a provider made for a claim; nothing yet is `null`. -/
structure Provisioned where
  resource : JSONValue
  binding : Option PublicBinding
  deriving DecidableEq

def nothing : Provisioned := ⟨.null, none⟩

structure SourceObject where
  cluster : String
  namespaceName : String
  name : String
  uid : String
  deriving DecidableEq

/-- A field that a record lacks is `null` or `none`. -/
structure ClaimRecord extends Provisioned where
  name : String
  kind : Option ServiceKind
  desiredHash : Option String
  observedGeneration : Nat
  observedAt : Option Nat
  lastSuccess : Option Nat
  state : ClaimState
  changed : Option Bool
  source : Option SourceObject
  conditions : List Condition
  deriving DecidableEq

def ClaimRecord.setState (record : ClaimRecord) (state : ClaimState)
    (status reason : String) (message : Option String) : ClaimRecord :=
  { record with
    state := state
    conditions := [⟨status, reason, message⟩] }

structure Snapshot where
  project : String
  stackHash : String
  claims : List ClaimRecord
  warnings : List ListingWarning
  observedAt : Nat
  deriving DecidableEq

/-- The directory of the controllers.  `recorded` is history: what successful
reconciles recorded for claims, the last one first. -/
structure Project where
  records : String → Option ClaimRecord
  snapshot : Option Snapshot
  recorded : List (String × Provisioned)

namespace Project

def empty : Project := ⟨fun _ => none, none, []⟩

def claims (project : Project) : List ClaimRecord :=
  match project.snapshot with
  | none => []
  | some snapshot => snapshot.claims

def claimNames (project : Project) : List String :=
  project.claims.map ClaimRecord.name

/-- What the record of a claim says was provisioned. -/
def provisioned (project : Project) (name : String) : Provisioned :=
  match project.records name with
  | none => nothing
  | some record => record.toProvisioned

/-- What was last recorded for a claim. -/
def lastRecorded (project : Project) (name : String) : Provisioned :=
  (project.recorded.lookup name).getD nothing

def writeRecord (project : Project) (record : ClaimRecord) : Project where
  records := Function.update project.records record.name (some record)
  snapshot := project.snapshot
  recorded :=
    if record.state = .ready then
      (record.name, record.toProvisioned) :: project.recorded
    else project.recorded

def publish (project : Project) (snapshot : Snapshot) : Project :=
  { project with snapshot := some snapshot }

end Project

/-! ## Runs -/

structure ReconcileResult where
  changed : Bool
  binding : PublicBinding
  resource : JSONValue

/-- What a run is answered for one claim.  `edge` is the result of an edge
claim, `provided` that of a provider; `delivered` stands for the private
binding and its delivery. -/
structure ClaimAnswers where
  registration : RegistrationReply
  recordRead : Except ControllerError Unit
  edge : Option (Except ControllerError ReconcileResult)
  provided : Except ControllerError ReconcileResult
  delivered : Except ControllerError Unit
  observed : Nat
  statusUpdated : Except ControllerError Unit
  recordWritten : Except ControllerError Unit

/-- What a run is answered for a rejected source. -/
structure RejectionAnswers where
  observed : Nat
  statusUpdated : Except ControllerError Unit

/-- A run with its configuration and all the answers it gets. -/
structure Run where
  environment : Environment
  opened : Except ControllerError Unit
  registration : RegistrationReply
  listings : Listings
  registrationAfter : RegistrationReply
  edgeWarnings : List ListingWarning
  answers : String → ClaimAnswers
  rejections : Source → RejectionAnswers
  snapshotRead : Except ControllerError Unit
  snapshotWritten : Except ControllerError Unit
  observed : Nat

/-- The hashes of a stack and of a claim with what it depends on. -/
structure Hashes where
  stackHash : Environment → String
  desiredHash : Environment → ClaimConfig → String

/-! ## One claim -/

section OneClaim

variable (hashes : Hashes) (environment : Environment)

/-- `provider`. -/
def selectProvider (claim : ClaimConfig) :
    Except ControllerError ProviderConfig :=
  match claim.provider with
  | some name =>
      match (environment.serviceProviders.lookup name).filter fun provider =>
          provider.kind = claim.kind with
      | some provider => .ok provider
      | none =>
          .error ⟨"InvalidProvider", "provider missing or incompatible"⟩
  | none =>
      match environment.serviceProviders.filter fun entry =>
          entry.2.kind = claim.kind with
      | [] => .error ⟨"InvalidProvider", "no compatible provider"⟩
      | [only] => .ok only.2
      | _ => .error ⟨"AmbiguousProvider", "multiple compatible providers"⟩

def serviceResult (claim : ClaimConfig) (answers : ClaimAnswers) :
    Except ControllerError ReconcileResult :=
  match claim.kind with
  | .ingress | .oidc =>
      answers.edge.getD
        (.error ⟨"InvalidClaim", "edge claim result missing"⟩)
  | .postgres | .s3 => do
      let _ ← selectProvider environment claim
      answers.provided

def deliveredResult (claim : ClaimConfig) (answers : ClaimAnswers) :
    Except ControllerError ReconcileResult := do
  let result ← serviceResult environment claim answers
  answers.delivered
  .ok result

def sourceObject (source : Source) : SourceObject :=
  ⟨source.cluster, source.namespaceName, source.name, source.uid⟩

def nextGeneration (previous : Option ClaimRecord) (desired : String) :
    Option Source → Nat
  | some source => source.generation
  | none =>
      (previous.map ClaimRecord.observedGeneration).getD 0 +
        if previous.bind ClaimRecord.desiredHash = some desired then 0 else 1

/-- The record of a claim after its reconcile; one that failed keeps what was
provisioned before. -/
def claimRecord (name : String) (claim : ClaimConfig)
    (source : Option Source) (previous : Option ClaimRecord)
    (desired : String) (observed : Nat)
    (result : Except ControllerError ReconcileResult) : ClaimRecord :=
  let base : ClaimRecord :=
    { toProvisioned :=
        (previous.map ClaimRecord.toProvisioned).getD nothing
      name := name
      kind := some claim.kind
      desiredHash := some desired
      observedGeneration := nextGeneration previous desired source
      observedAt := some observed
      lastSuccess := previous.bind ClaimRecord.lastSuccess
      state := .degraded
      changed := none
      source := source.map sourceObject
      conditions := [] }
  match result with
  | .ok result =>
      { base with
        resource := result.resource
        binding := some result.binding
        state := .ready
        lastSuccess := some observed
        changed :=
          some (result.changed ||
            previous.bind ClaimRecord.desiredHash ≠ some desired)
        conditions := [⟨"True", "Reconciled", none⟩] }
  | .error error =>
      base.setState (if isConflict error.code then .conflict else .degraded)
        "False" error.code (some error.message)

def statusWarnings (name : String) :
    Except ControllerError Unit → List ListingWarning
  | .ok _ => []
  | .error error => [⟨name, error.code, error.message⟩]

/-- Only a file that is there is read. -/
def readIfPresent {α : Type} (file : Option α)
    (read : Except ControllerError Unit) : Except ControllerError Unit :=
  if file.isSome then read else .ok ⟨⟩

/-- The record that a run writes for a claim, with its warnings. -/
def reconcileClaim (sources : List Source) (name : String)
    (claim : ClaimConfig) (previous : Option ClaimRecord)
    (answers : ClaimAnswers) :
    Except ControllerError (ClaimRecord × List ListingWarning) := do
  checkRegistration answers.registration
  readIfPresent previous answers.recordRead
  let source := sources.find? fun source => source.claimName = name
  let record := claimRecord name claim source previous
    (hashes.desiredHash environment claim) answers.observed
    (deliveredResult environment claim answers)
  let warnings :=
    if source.isSome then statusWarnings name answers.statusUpdated else []
  answers.recordWritten
  .ok (record, warnings)

end OneClaim

/-! ## All claims -/

/-- Where a run stands among its claims. -/
structure Progress where
  project : Project
  claims : List ClaimRecord
  warnings : List ListingWarning

section Reconcile

variable (imports : Import) (hashes : Hashes) (run : Run)

/-- What the run discovers when it gets there. -/
def Run.discovered : Discovery :=
  ClaimDiscovery.discovered imports run.environment run.listings

/-- The claims in their order, up to the first that stops the run. -/
def reconcileClaims (found : Discovery) :
    List (String × ClaimConfig) → Progress →
      Progress × Option ControllerError
  | [], progress => (progress, none)
  | (name, claim) :: rest, progress =>
      match reconcileClaim hashes found.projected found.sources name claim
          (progress.project.records name) (run.answers name) with
      | .error error => (progress, some error)
      | .ok (record, warnings) =>
          reconcileClaims found rest
            ⟨progress.project.writeRecord record,
              progress.claims ++ [record], progress.warnings ++ warnings⟩

/-- The record of a source that is rejected. -/
def rejectedRecord (source : Source) : Option ClaimRecord :=
  source.validationError.map fun reason =>
    { toProvisioned := nothing
      name := source.claimName
      kind := none
      desiredHash := none
      observedGeneration := source.generation
      observedAt := some (run.rejections source).observed
      lastSuccess := none
      state := .degraded
      changed := none
      source := some (sourceObject source)
      conditions := [⟨"False", reason.1, some reason.2⟩] }

def rejectionWarnings (sources : List Source) : List ListingWarning :=
  (sources.filter fun source => source.validationError.isSome).flatMap
    fun source =>
      statusWarnings source.claimName (run.rejections source).statusUpdated

/-- A record of the last snapshot whose claim is no longer there. -/
def retain (warnings : List ListingWarning) (old : ClaimRecord) :
    ClaimRecord :=
  if warnings = [] ∨ old.source = none then
    old.setState .retained "False" "ClaimRemoved"
      (some "provisioned data and credentials retained")
  else
    old.setState .degraded "Unknown" "DiscoveryUnavailable" none

/-- How many records of the last snapshot are looked at. -/
def snapshotLimit : Nat := 512

/-- The records of a new snapshot. -/
def mergeClaims (project : Project) (fresh : List ClaimRecord)
    (warnings : List ListingWarning) : List ClaimRecord :=
  CarryOver.carryOver ClaimRecord.name (retain warnings) fresh
    (project.claims.take snapshotLimit)

def newSnapshot (found : Discovery) (progress : Progress) : Snapshot :=
  let fresh :=
    progress.claims ++ found.sources.filterMap (rejectedRecord run)
  let warnings :=
    progress.warnings ++ rejectionWarnings run found.sources
  { project := found.projected.project
    stackHash := hashes.stackHash run.environment
    claims := mergeClaims progress.project fresh warnings
    warnings := warnings
    observedAt := run.observed }

/-- The end of a run, after its claims. -/
def publish (found : Discovery) (progress : Progress) :
    Project × Except ControllerError Snapshot :=
  let project := progress.project
  let written : Except ControllerError Unit := do
    readIfPresent project.snapshot run.snapshotRead
    run.snapshotWritten
  match written with
  | .error error => (project, .error error)
  | .ok _ =>
      let snapshot := newSnapshot hashes run found progress
      (project.publish snapshot, .ok snapshot)

/-- What a run does before its claims. -/
def prepare : Except ControllerError Discovery := do
  run.opened
  checkRegistration run.registration
  let found ← discover imports run.environment run.listings
  checkRegistration run.registrationAfter
  .ok found

/-- `reconcile_guarded`. -/
def reconcileGuarded (project : Project) :
    Project × Except ControllerError Snapshot :=
  match prepare imports run with
  | .error error => (project, .error error)
  | .ok found =>
      match reconcileClaims hashes run found found.projected.serviceClaims
          ⟨project, [], found.warnings ++ run.edgeWarnings⟩ with
      | (progress, some error) => (progress.project, .error error)
      | (progress, none) => publish hashes run found progress

end Reconcile

/-! ## Reporting -/

/-- What reading the files yields. -/
structure Reads where
  record : String → Except ControllerError Unit
  snapshot : Except ControllerError Unit

structure Report where
  project : String
  claims : List ClaimRecord
  warnings : List ListingWarning
  observedAt : Option Nat

section Status

variable (hashes : Hashes) (environment : Environment) (reads : Reads)
  (project : Project)

def pendingRecord (name : String) (claim : ClaimConfig) : ClaimRecord where
  toProvisioned := nothing
  name := name
  kind := some claim.kind
  desiredHash := none
  observedGeneration := 0
  observedAt := none
  lastSuccess := none
  state := .pending
  changed := none
  source := none
  conditions := []

/-- The record of a declared claim. -/
def declaredRecord (entry : String × ClaimConfig) :
    Except ControllerError ClaimRecord :=
  match project.records entry.1 with
  | none => .ok (pendingRecord entry.1 entry.2)
  | some record => do
      reads.record entry.1
      if record.desiredHash =
          some (hashes.desiredHash environment entry.2) then
        .ok record
      else
        .ok (record.setState .pending "False" "DesiredStateChanged"
          (some "configuration changed since last reconcile"))

/-- A record of the snapshot whose claim is not declared. -/
def reportOther (stackHash : Option String) (old : ClaimRecord) :
    ClaimRecord :=
  if old.source = none then
    old.setState .retained "False" "ClaimRemoved" none
  else if stackHash ≠ some (hashes.stackHash environment) ∧
      old.state ≠ .retained then
    old.setState .pending "False" "DesiredStateChanged"
      (some "stack provider or cluster configuration changed since last reconcile")
  else old

/-- `status`. -/
def status : Except ControllerError Report := do
  let declared ← environment.serviceClaims.mapM
    (declaredRecord hashes environment reads project)
  readIfPresent project.snapshot reads.snapshot
  let claims := CarryOver.carryOver ClaimRecord.name
    (reportOther hashes environment
      (project.snapshot.map Snapshot.stackHash))
    declared (project.claims.take snapshotLimit)
  .ok
    { project := environment.project
      claims := claims
      warnings := (project.snapshot.map Snapshot.warnings).getD []
      observedAt := project.snapshot.map Snapshot.observedAt }

end Status

end ClaimStatus

end Vzctl
