import Mathlib.Data.String.Basic
import Vzctl.Controllers.EdgeClaims

/-!
# Discovery of Kubernetes claims

`discover` projects the claims that the clusters of a stack declare into its
configuration.  Each listed object becomes a source: its claim is added to
those of the stack, or the source is rejected with the reason.  Checking a
configuration (`validate_config`) and reading one object (`import`) are
parameters.
-/

namespace Vzctl

namespace ClaimDiscovery

open EdgeClaims (Cluster ControllerError ServiceKind member)

/-! ## Configuration -/

structure ProviderConfig where
  kind : ServiceKind
  via : Option String
  endpoint : Option String
  deriving DecidableEq

structure KubernetesTarget where
  cluster : String
  namespaceName : String
  secret : String
  deriving DecidableEq

inductive Consumer where
  | vm (vm : String)
  | container (container : String)
  | kubernetes (target : KubernetesTarget)
  deriving DecidableEq

structure ClaimConfig where
  kind : ServiceKind
  provider : Option String
  database : Option String
  bucket : Option String
  clientID : Option String
  host : Option String
  consumers : List Consumer
  deriving DecidableEq

/-- `serviceClaims` is a sorted map.  `vms` holds the networks of each VM. -/
structure Environment where
  project : String
  vms : List (String × List String)
  clusters : List (String × Cluster)
  serviceProviders : List (String × ProviderConfig)
  serviceClaims : List (String × ClaimConfig)
  sorted : KeyedList.Sorted serviceClaims

namespace Environment

variable (environment : Environment)

def claimNames : List String := environment.serviceClaims.map Prod.fst

def insertClaim (name : String) (claim : ClaimConfig) : Environment where
  __ := environment
  serviceClaims := KeyedList.insertKey name claim environment.serviceClaims
  sorted := KeyedList.sorted_insertKey name claim environment.sorted

def removeClaim (name : String) : Environment where
  __ := environment
  serviceClaims := KeyedList.eraseKey name environment.serviceClaims
  sorted := KeyedList.sorted_eraseKey name environment.sorted

theorem nodup_claimNames : environment.claimNames.Nodup :=
  KeyedList.nodup_keys environment.sorted

end Environment

/-! ## Sources -/

structure ListingWarning where
  subject : String
  code : String
  message : String
  deriving DecidableEq

/-- The object of the cluster that declares a claim. -/
structure Source where
  claimName : String
  cluster : String
  namespaceName : String
  name : String
  uid : String
  generation : Nat
  plural : String
  validationError : Option (String × String)
  deriving DecidableEq

def Source.reject (source : Source) (code message : String) : Source :=
  { source with validationError := some (code, message) }

/-- The first source with a name is rejected as a duplicate. -/
def rejectFirst (name : String) : List Source → List Source
  | [] => []
  | source :: rest =>
      if source.claimName = name then
        source.reject "DuplicateClaim"
          "Kubernetes claim identity is duplicated" :: rest
      else source :: rejectFirst name rest

/-! ## Conflicts -/

/-- What two claims must not share: a resource of a provider, or the target of
a binding. -/
inductive ConflictKey where
  | resource (kind : ServiceKind) (via endpoint resource : String)
  | binding (target : KubernetesTarget)
  deriving DecidableEq

section ConflictKeys

variable (environment : Environment) (claim : ClaimConfig)

def chosenProvider : Option ProviderConfig :=
  match claim.provider with
  | some name => environment.serviceProviders.lookup name
  | none =>
      match environment.serviceProviders.filter fun entry =>
          entry.2.kind = claim.kind with
      | [only] => some only.2
      | _ => none

def ClaimConfig.resource : Option String :=
  match claim.kind with
  | .postgres => claim.database
  | .s3 => claim.bucket
  | .oidc => claim.clientID
  | .ingress => claim.host

def Consumer.conflictKey? : Consumer → Option ConflictKey
  | .kubernetes target => some (.binding target)
  | _ => none

def conflictKeys : List ConflictKey :=
  let provider := chosenProvider environment claim
  (match claim.resource with
    | some resource =>
        [.resource claim.kind
          ((provider.bind ProviderConfig.via).getD "stack-edge")
          ((provider.bind ProviderConfig.endpoint).getD "stack-edge")
          resource]
    | none => []) ++
    claim.consumers.filterMap Consumer.conflictKey?

end ConflictKeys

/-! ## Discovery -/

/-- `listed` is the answer of a cluster to the listing of a kind. -/
abbrev Listings := String → ServiceKind → Except ControllerError JSONValue

/-- `owners` are the claims that were found valid beside those of the stack
alone, by the keys they hold. -/
structure Discovery where
  projected : Environment
  sources : List Source
  owners : List (ConflictKey × String)
  warnings : List ListingWarning

def Discovery.warn (found : Discovery) (cluster code message : String) :
    Discovery :=
  { found with warnings := found.warnings ++ [⟨cluster, code, message⟩] }

def kinds : List ServiceKind := [.ingress, .oidc, .postgres, .s3]

def maxClaims : Nat := 256

/-- `validateConfig` finds nothing to object to; `importObject` reads an
object that a cluster lists under a kind. -/
structure Import where
  validateConfig : Environment → Bool
  importObject : Environment → String → ServiceKind → JSONValue →
    Source × Except ControllerError ClaimConfig

section Discover

variable (imports : Import) (environment : Environment)

/-- An imported claim is projected when it is valid beside those before. -/
def projectClaim (source : Source) (claim : ClaimConfig)
    (found : Discovery) : Discovery :=
  let name := source.claimName
  let standalone := environment.insertClaim name claim
  let candidate := found.projected.insertClaim name claim
  let owners :=
    if imports.validateConfig standalone then
      found.owners ++
        (conflictKeys environment claim).map fun key => (key, name)
    else found.owners
  if imports.validateConfig candidate then
    { found with
      projected := candidate
      sources := found.sources ++ [source]
      owners := owners }
  else
    { found with
      sources := found.sources ++ [source.reject "InvalidKubernetesClaim"
        "claim conflicts with the stack or references an invalid provider/backend"]
      owners := owners }

/-- A claim whose name is taken is rejected, and so is the source before. -/
def rejectTaken (source : Source) (found : Discovery) : Discovery :=
  let name := source.claimName
  let rejected := source.reject "DuplicateClaim"
    "Kubernetes claim identity collides with another declaration"
  if found.sources.any fun other => other.claimName = name then
    { found with
      projected := found.projected.removeClaim name
      sources := rejectFirst name found.sources ++ [rejected] }
  else { found with sources := found.sources ++ [rejected] }

def discoverObject (cluster : String) (kind : ServiceKind)
    (found : Discovery) (object : JSONValue) : Discovery :=
  if member (member object "metadata") "deletionTimestamp" ≠ .null then
    found
  else
    let (source, imported) :=
      imports.importObject environment cluster kind object
    if source.claimName = "" then
      found.warn cluster "InvalidResponse"
        "claim metadata is invalid; status cannot be safely addressed"
    else if source.claimName ∈ found.projected.claimNames ∨
        source.claimName ∈ found.sources.map Source.claimName then
      rejectTaken source found
    else
      match imported with
      | .ok claim => projectClaim imports environment source claim found
      | .error error =>
          { found with
            sources :=
              found.sources ++ [source.reject error.code error.message] }

variable (listings : Listings)

/-- The kinds of a cluster, up to the first that cannot be listed. -/
def discoverKinds (cluster : String) :
    List ServiceKind → Discovery → Discovery
  | [], found => found
  | kind :: rest, found =>
      match listings cluster kind with
      | .error error => found.warn cluster error.code error.message
      | .ok result =>
          match (member result "items").asArray? with
          | none =>
              found.warn cluster "InvalidResponse"
                "claim list has no items array"
          | some items =>
              if maxClaims < found.sources.length + items.length then
                found.warn cluster "TooManyClaims"
                  "Kubernetes claim discovery exceeds 256 resources"
              else
                discoverKinds cluster rest
                  (items.foldl
                    (discoverObject imports environment cluster kind) found)

def discoverCluster (found : Discovery) (entry : String × Cluster) :
    Discovery :=
  if ((environment.vms.lookup entry.2.server).getD []).contains
      entry.2.network then
    discoverKinds imports environment listings entry.1 kinds found
  else
    found.warn entry.1 "InvalidCluster"
      "claim discovery requires a Kubernetes server network"

def discoverClusters : Discovery :=
  environment.clusters.foldl (discoverCluster imports environment listings)
    ⟨environment, [], [], []⟩

/-- The claims that hold a key together with another claim. -/
def Discovery.duplicates (found : Discovery) : List String :=
  (found.owners.filter fun owner =>
    found.owners.any fun other =>
      other.1 = owner.1 ∧ other.2 ≠ owner.2).map Prod.snd

def rejectDuplicate (duplicates : List String)
    (found : Discovery) (source : Source) : Discovery :=
  if source.claimName ∈ duplicates then
    { found with
      projected := found.projected.removeClaim source.claimName
      sources := found.sources ++ [source.reject "DuplicateClaim"
        "Kubernetes claims declare the same provider resource or binding target"] }
  else { found with sources := found.sources ++ [source] }

def rejectDuplicates (found : Discovery) : Discovery :=
  found.sources.foldl (rejectDuplicate found.duplicates)
    { found with sources := [] }

/-- What `discover` finds for a stack that it accepts. -/
def discovered : Discovery :=
  rejectDuplicates (discoverClusters imports environment listings)

def discover : Except ControllerError Discovery :=
  if imports.validateConfig environment then
    .ok (discovered imports environment listings)
  else
    .error ⟨"InvalidConfig",
      "YAML service declarations must be valid before importing Kubernetes claims"⟩

end Discover

/-! ## Declared claims -/

def rejectedNames (sources : List Source) : List String :=
  (sources.filter fun source => source.validationError.isSome).map
    Source.claimName

theorem rejectedNames_append (left right : List Source) :
    rejectedNames (left ++ right) =
      rejectedNames left ++ rejectedNames right := by
  simp [rejectedNames]

theorem rejectedNames_reject (source : Source) (code message : String) :
    rejectedNames [source.reject code message] = [source.claimName] := rfl

theorem mem_rejectedNames_cons {name code message : String}
    {source : Source} {rest : List Source}
    (member : name ∈ rejectedNames (source :: rest)) :
    name ∈ rejectedNames ([source.reject code message] ++ rest) := by
  rw [rejectedNames, List.filter_cons] at member
  rw [rejectedNames_append, rejectedNames_reject]
  split at member
  · exact member
  · exact List.mem_cons_of_mem _ member

theorem mem_rejectedNames_rejectFirst {name other : String}
    {sources : List Source} (member : other ∈ rejectedNames sources) :
    other ∈ rejectedNames (rejectFirst name sources) := by
  induction sources with
  | nil => exact member
  | cons source rest ih =>
      rw [rejectFirst]
      split
      · exact mem_rejectedNames_cons member
      · rw [← List.singleton_append, rejectedNames_append,
          List.mem_append] at member ⊢
        exact member.imp id ih

/-- Every claim of the stack is still projected, or a source has its name and
is rejected. -/
def Covers (names : List String) (projected : Environment)
    (sources : List Source) : Prop :=
  ∀ name ∈ names,
    name ∈ projected.claimNames ∨ name ∈ rejectedNames sources

section Covers

variable {imports : Import} {environment projected : Environment}
  {names : List String} {sources : List Source} {found : Discovery}

theorem Covers.append (covers : Covers names projected sources)
    (more : List Source) : Covers names projected (sources ++ more) := by
  intro name member
  rw [rejectedNames_append, List.mem_append]
  exact (covers name member).imp id .inl

theorem Covers.insertClaim (covers : Covers names projected sources)
    (name : String) (claim : ClaimConfig) :
    Covers names (projected.insertClaim name claim) sources := by
  intro other member
  refine (covers other member).imp ?_ id
  intro there
  exact KeyedList.mem_keys_insertKey.mpr (.inr there)

theorem Covers.removeClaim (covers : Covers names projected sources)
    {name : String} (rejected : name ∈ rejectedNames sources) :
    Covers names (projected.removeClaim name) sources := by
  intro other member
  by_cases same : other = name
  · exact .inr (same ▸ rejected)
  · refine (covers other member).imp ?_ id
    intro there
    exact KeyedList.mem_keys_eraseKey.mpr ⟨same, there⟩

theorem covers_projectClaim (covers : Covers names found.projected
      found.sources) (source : Source) (claim : ClaimConfig) :
    Covers names
      (projectClaim imports environment source claim found).projected
      (projectClaim imports environment source claim found).sources := by
  rw [projectClaim]
  split
  · exact (covers.insertClaim _ _).append _
  · exact covers.append _

theorem covers_rejectTaken (covers : Covers names found.projected
      found.sources) (source : Source) :
    Covers names (rejectTaken source found).projected
      (rejectTaken source found).sources := by
  rw [rejectTaken]
  split
  · have marked : Covers names found.projected
        (rejectFirst source.claimName found.sources) := by
      intro name member
      exact (covers name member).imp id mem_rejectedNames_rejectFirst
    refine (marked.append _).removeClaim ?_
    rw [rejectedNames_append, rejectedNames_reject]
    exact List.mem_append_right _ List.mem_cons_self
  · exact covers.append _

theorem covers_discoverObject (covers : Covers names found.projected
      found.sources) (cluster : String) (kind : ServiceKind)
    (object : JSONValue) :
    Covers names
      (discoverObject imports environment cluster kind found object).projected
      (discoverObject imports environment cluster kind found
        object).sources := by
  rw [discoverObject]
  split
  · exact covers
  · dsimp only
    split
    · exact covers
    · split
      · exact covers_rejectTaken covers _
      · split
        · exact covers_projectClaim covers _ _
        · exact covers.append _

theorem covers_discoverKinds {listings : Listings} {cluster : String}
    {kinds : List ServiceKind}
    (covers : Covers names found.projected found.sources) :
    Covers names
      (discoverKinds imports environment listings cluster kinds
        found).projected
      (discoverKinds imports environment listings cluster kinds
        found).sources := by
  induction kinds generalizing found with
  | nil => exact covers
  | cons kind rest ih =>
      rw [discoverKinds]
      split
      · exact covers
      · split
        · exact covers
        · split
          · exact covers
          · rename_i items _ _
            refine ih ?_
            exact List.foldlRecOn items _
              (motive := fun found : Discovery =>
                Covers names found.projected found.sources) covers
              fun found covers object _ =>
                covers_discoverObject covers cluster kind object

theorem covers_discoverClusters {listings : Listings} :
    Covers environment.claimNames
      (discoverClusters imports environment listings).projected
      (discoverClusters imports environment listings).sources := by
  have start : Covers environment.claimNames environment [] :=
    fun _ member => .inl member
  refine List.foldlRecOn environment.clusters _
    (motive := fun found : Discovery =>
      Covers environment.claimNames found.projected found.sources) start ?_
  intro found covers entry _
  rw [discoverCluster]
  split
  · exact covers_discoverKinds covers
  · exact covers

theorem covers_rejectDuplicate {duplicates : List String}
    {rest : List Source} (covers : Covers names found.projected
      (found.sources ++ rest)) :
    Covers names
      (rest.foldl (rejectDuplicate duplicates) found).projected
      (rest.foldl (rejectDuplicate duplicates) found).sources := by
  induction rest generalizing found with
  | nil =>
      rw [List.append_nil] at covers
      exact covers
  | cons source rest ih =>
      refine ih ?_
      rw [rejectDuplicate]
      split
      · refine Covers.removeClaim ?_ ?_
        · intro name member
          refine (covers name member).imp id ?_
          rw [List.append_assoc, rejectedNames_append, rejectedNames_append,
            List.mem_append, List.mem_append]
          exact Or.imp id mem_rejectedNames_cons
        · rw [rejectedNames_append, rejectedNames_append,
            rejectedNames_reject]
          simp
      · rw [List.append_assoc, List.singleton_append]
        exact covers

theorem covers_discovered {listings : Listings} :
    Covers environment.claimNames
      (discovered imports environment listings).projected
      (discovered imports environment listings).sources :=
  covers_rejectDuplicate covers_discoverClusters

end Covers

end ClaimDiscovery

end Vzctl
