import Vzctl.Kubernetes.JSONPatch
import Vzctl.Lib.Dialogue
import Vzctl.Lib.Texts

/-!
# The rollout of the resolver

`rollout` of `kubernetes/resolver.rs`: the Deployment of CoreDNS, which belongs
to the Addon of K3s, is marked with the resolver it was started with.  The
program is a dialogue with `kubectl`.
-/

namespace Vzctl

namespace ResolverRollout

open JSONPatch

/-- `ANNOTATION`. -/
def annotation : String := "vzctl.dev/k3s-resolver"

/-! ## Patches -/

inductive Operation where
  | test (path : String) (value : JSONValue)
  | add (path : String) (value : JSONValue)
  deriving DecidableEq

def Operation.apply (document : JSONValue) : Operation → Option JSONValue
  | .test path value => PatchOperation.apply document (.test path value)
  | .add path value => do
      let tokens ← pointerTokens path
      editAt (addChild value) tokens document

/-- What the API server makes of an object. -/
def applyOperations (patch : List Operation) (document : JSONValue) :
    Option JSONValue :=
  patch.foldlM Operation.apply document

/-! ## Calls of `kubectl` -/

/-- The arguments, the patch on the standard input, and the time limit. -/
structure Kubectl where
  arguments : List String
  input : List Operation
  seconds : Nat
  deriving DecidableEq

def getDeployment : Kubectl where
  arguments := ["get", "deployment", "coredns", "-n", "kube-system", "-o",
    "json", "--ignore-not-found"]
  input := []
  seconds := 30

def getAddon : Kubectl where
  arguments := ["get", "addons.k3s.cattle.io", "coredns", "-n",
    "kube-system", "-o", "json"]
  input := []
  seconds := 30

def waitForDeployment : Kubectl where
  arguments := ["wait", "--for=create", "deployment/coredns", "-n",
    "kube-system", "--timeout=60s"]
  input := []
  seconds := 70

def patchDeployment (patch : List Operation) : Kubectl where
  arguments := ["patch", "deployment", "coredns", "-n", "kube-system",
    "--type=json", "--patch-file=/dev/stdin"]
  input := patch
  seconds := 30

def rolloutStatus : Kubectl where
  arguments := ["rollout", "status", "deployment/coredns", "-n",
    "kube-system", "--timeout=120s"]
  input := []
  seconds := 130

/-- The call changes an object. -/
def Kubectl.patches (call : Kubectl) : Bool :=
  call.arguments.head? = some "patch"

abbrev Rollout (α : Type) := Dialogue Kubectl (Except String String) String α

def kubectl (call : Kubectl) : Rollout String := .request call id

/-! ## Objects -/

/-- `serde_json::from_str` and SHA-256. -/
structure Library where
  fromStr : String → Option JSONValue
  sha256 : String → Vector UInt8 32

def metadata (object : JSONValue) (key : String) : JSONValue :=
  (object.index "metadata").index key

/-- The annotations of the pods. -/
def annotations (deployment : JSONValue) : JSONValue :=
  (((deployment.index "spec").index "template").index "metadata").index
    "annotations"

/-- The two objects are not the Addon of K3s and its Deployment. -/
def foreign (addon deployment : JSONValue) : Bool :=
  let owner (key : String) : JSONValue :=
    (metadata deployment "annotations").index key
  let spec := ((deployment.index "spec").index "template").index "spec"
  addon.index "apiVersion" ≠ .string "k3s.cattle.io/v1" ||
    addon.index "kind" ≠ .string "Addon" ||
    metadata addon "name" ≠ .string "coredns" ||
    metadata addon "namespace" ≠ .string "kube-system" ||
    (addon.index "spec").index "source" ≠
      .string "/var/lib/rancher/k3s/server/manifests/coredns.yaml" ||
    deployment.index "apiVersion" ≠ .string "apps/v1" ||
    deployment.index "kind" ≠ .string "Deployment" ||
    metadata deployment "name" ≠ .string "coredns" ||
    metadata deployment "namespace" ≠ .string "kube-system" ||
    owner "objectset.rio.cattle.io/owner-gvk" ≠
      .string "k3s.cattle.io/v1, Kind=Addon" ||
    owner "objectset.rio.cattle.io/owner-name" ≠ .string "coredns" ||
    owner "objectset.rio.cattle.io/owner-namespace" ≠
      .string "kube-system" ||
    (metadata deployment "labels").index "k8s-app" ≠ .string "kube-dns" ||
    (metadata deployment "labels").index "kubernetes.io/name" ≠
      .string "CoreDNS" ||
    spec.index "dnsPolicy" ≠ .string "Default" ||
    spec.index "serviceAccountName" ≠ .string "coredns" ||
    (match (spec.index "containers").asArray? with
    | some [container] => decide (container.index "name" ≠ .string "coredns")
    | _ => true) ||
    (match (deployment.index "metadata").field? "ownerReferences" with
    | some references => decide (references.asArray? ≠ some [])
    | none => false)

/-- `as_str().is_none_or(str::is_empty)`. -/
def missing (value : JSONValue) : Bool :=
  match value.asString? with
  | some text => text = ""
  | none => true

def identity (addon deployment : JSONValue) : Except String Unit :=
  if foreign addon deployment then
    .error "K3s CoreDNS Addon ownership conflict"
  else if [addon, deployment].any fun object =>
      ["uid", "resourceVersion"].any fun key =>
        missing (metadata object key) then
    .error "K3s CoreDNS identity missing"
  else
    .ok ()

variable (library : Library)

def digest (value : String) : String :=
  Texts.hexadecimal (library.sha256 value).toList

/-- The start of the markers of a cluster. -/
def markerPrefix (project cluster : String) : String :=
  "v1:" ++ digest library (project ++ "/" ++ cluster) ++ ":"

def marker (project cluster : String) (upstream : Option String) : String :=
  markerPrefix library project cluster ++
    digest library (upstream.getD "disabled")

def isHexDigit (character : Char) : Bool :=
  character.isDigit || ('a' ≤ character && character ≤ 'f') ||
    ('A' ≤ character && character ≤ 'F')

/-- The check of a marker that is there. -/
def checkMarker (project cluster : String) :
    Option JSONValue → Except String Unit
  | none => .ok ()
  | some (.string old) =>
      let start := markerPrefix library project cluster
      if ¬ start.toList <+: old.toList ∨
          old.utf8ByteSize ≠ start.utf8ByteSize + 64 ∨
          (old.toList.drop start.toList.length).all isHexDigit = false then
        .error "K3s CoreDNS resolver marker ownership conflict"
      else
        .ok ()
  | some _ => .error "K3s CoreDNS resolver marker invalid"

def parse (raw : String) : Except String JSONValue :=
  match library.fromStr raw with
  | some value => .ok value
  | none => .error "K3s CoreDNS inventory invalid"

/-- The patch of a Deployment that was read. -/
def markerPatch (deployment : JSONValue) (wanted : String) :
    List Operation :=
  [.test "/metadata/uid" (metadata deployment "uid"),
    .test "/metadata/resourceVersion" (metadata deployment "resourceVersion"),
    .add "/spec/template/metadata/annotations"
      (.object (KeyedList.insertKey annotation (.string wanted)
        ((annotations deployment).asObject?.getD [])))]

/-! ## The program -/

/-- The text of the Deployment; `none`: there is nothing to do. -/
def findDeployment (upstream : Option String) : Rollout (Option String) := do
  let raw ← kubectl getDeployment
  if Texts.blank raw then
    if upstream.isNone then
      return none
    else
      let _ ← kubectl waitForDeployment
      let raw ← kubectl getDeployment
      return some raw
  else
    return some raw

def readAddon : Rollout JSONValue := do
  let raw ← kubectl getAddon
  .lift (parse library raw)

/-- The Addon is read again, and the Deployment is patched. -/
def writeMarker (wanted : String) (addon deployment : JSONValue) :
    Rollout Unit := do
  let fresh ← readAddon library
  if metadata fresh "uid" ≠ metadata addon "uid" ∨
      metadata fresh "resourceVersion" ≠ metadata addon "resourceVersion" then
    .lift (.error "K3s CoreDNS Addon changed before rollout")
  else
    .lift (identity fresh deployment)
    let _ ← kubectl (patchDeployment (markerPatch deployment wanted))
    return ()

/-- Both objects are read once more, behind the rollout. -/
def confirm (wanted : String) (addon deployment : JSONValue) :
    Rollout Unit := do
  let _ ← kubectl rolloutStatus
  let raw ← kubectl getDeployment
  let after ← .lift (parse library raw)
  let afterAddon ← readAddon library
  .lift (identity afterAddon after)
  if metadata afterAddon "uid" ≠ metadata addon "uid" ∨
      metadata after "uid" ≠ metadata deployment "uid" ∨
      (annotations after).index annotation ≠ .string wanted then
    .lift (.error "K3s CoreDNS identity changed during rollout")
  else
    return ()

/-- What follows once the Deployment has been read. -/
def rolloutDeployment (project cluster : String) (upstream : Option String)
    (deployment : JSONValue) : Rollout Unit := do
  let old := (annotations deployment).field? annotation
  if upstream.isNone ∧ old.isNone then
    return ()
  else
    let wanted := marker library project cluster upstream
    .lift (checkMarker library project cluster old)
    let addon ← readAddon library
    .lift (identity addon deployment)
    if old.bind (·.asString?) ≠ some wanted then
      writeMarker library wanted addon deployment
    confirm library wanted addon deployment

def rollout (project cluster : String) (upstream : Option String) :
    Rollout Unit := do
  match ← findDeployment upstream with
  | none => return ()
  | some raw =>
      let deployment ← .lift (parse library raw)
      rolloutDeployment library project cluster upstream deployment

end ResolverRollout

end Vzctl
