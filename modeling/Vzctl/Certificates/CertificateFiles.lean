import Vzctl.Json
import Vzctl.Lib.Interleaving
import Vzctl.Lib.Texts

/-!
# Certificate files

`ensure_ca` and `mint_leaf` on the files of a state directory.  Any number of
processes call them; one action is one look at a file, one atomic replacement
or one operation on keys and certificates.  A crash, or a file operation that
fails, stops a call between two actions.
-/

namespace Vzctl

namespace Certificates

open Texts

/-! ## Files -/

inductive Path where
  | rootCert
  | rootKey
  | fingerprint
  | trust
  | leafCert (file : String)
  | leafKey (file : String)
  | leafMeta (file : String)
  deriving DecidableEq, Repr

/-- A directory entry; a text is missing where the bytes are not UTF-8. -/
structure Entry where
  isRegular : Bool
  size : Nat
  isRestricted : Bool
  text : Option String
  deriving DecidableEq, Repr

abbrev Files := Path → Option Entry

def written (text : String) (isRestricted : Bool) : Entry :=
  ⟨true, text.utf8ByteSize, isRestricted, some text⟩

def textAt (files : Files) (path : Path) : Option String :=
  (files path).bind Entry.text

/-! ## Keys and certificates -/

/-- `CertificateParams::new` takes ASCII names. -/
def isHostName (name : String) : Bool :=
  name.toList.all fun character => character.toNat < 128

/-- The libraries for keys, certificates, SHA-256 and JSON, and the name under
which the file system keeps the leaf of a host.  What has been generated and
signed is verified. -/
structure Crypto where
  generate : Nat → String
  selfSign : Int → String → String
  sign : Int → String → String → String → List String → String
  caPair : Int → String → String → Bool
  leafPair : Int → String → String → String → Bool → Bool
  isKey : String → Bool
  isAuthority : String → Bool
  covers : Int → String → List String → Bool
  digest : String → List UInt8
  encode : JSONValue → String
  decode : String → Option JSONValue
  leafFile : String → String
  generated : ∀ seed, isKey (generate seed) = true
  selfSigned : ∀ now seed,
    caPair now (selfSign now (generate seed)) (generate seed) = true
  parsed : ∀ now cert key, caPair now cert key = true →
    isKey key = true ∧ isAuthority cert = true
  leafKey : ∀ now cert key root strict,
    leafPair now cert key root strict = true → isKey key = true
  signed : ∀ now earlier root rootKey key names,
    caPair earlier root rootKey = true → isKey key = true →
    names.all isHostName = true →
    leafPair now (sign now root rootKey key names) key root true = true

/-- `fingerprint_pem`. -/
def Crypto.fingerprint (crypto : Crypto) (cert : String) : String :=
  hexadecimal (crypto.digest cert)

/-! ## Calls -/

inductive Call where
  | ensureCa (force : Bool)
  | mintLeaf (primary : String) (extraSans : List String)
  deriving DecidableEq, Repr

inductive Reply where
  | authority (created : Bool) (fingerprint : String)
  | leaf (san : String) (sans : List String) (fingerprint : String)
      (reused : Bool)
  deriving DecidableEq, Repr

/-- Clocks and random numbers. -/
structure Outside where
  now : Int
  seed : Nat
  deriving DecidableEq, Repr

abbrev Work := Process Files Outside String

/-! ## Single actions -/

def maxBytes : Nat := 1024 * 1024

/-- Whether a path of a pair is present. -/
def inspect (path : Path) : Work Bool :=
  .look fun files =>
    match files path with
    | none => .ok false
    | some entry =>
        if entry.isRegular = true ∧ entry.size ≤ maxBytes then .ok true
        else .error
          "certificate/key path must be a regular file, not a symlink"

def checkRestricted (path : Path) : Work PUnit :=
  .look fun files =>
    match files path with
    | none => .error "No such file or directory"
    | some entry =>
        if entry.isRestricted = true then .ok ⟨⟩
        else .error "private certificate key must not be group/world accessible"

def readText (path : Path) (failure : String) : Work String :=
  .look fun files =>
    match textAt files path with
    | none => .error failure
    | some text => .ok text

/-- What `atomic_write` leaves. -/
def replaced (path : Path) (text : String) (isRestricted : Bool)
    (files : Files) : Except String Files :=
  if (files path).all Entry.isRegular then
    .ok (Function.update files path (some (written text isRestricted)))
  else .error "refusing non-regular certificate destination"

def atomicWrite (path : Path) (text : String) (isRestricted : Bool) :
    Work PUnit :=
  .atomically fun _ => Procedure.writing (replaced path text isRestricted)

/-- A new key is written, a key that was read stays. -/
def writeNew (isNew : Bool) (path : Path) (key : String) : Work PUnit :=
  if isNew then atomicWrite path key true else pure ⟨⟩

def readPair (cert key : Path) : Work (Option (String × String)) := do
  let certPresent ← inspect cert
  let keyPresent ← inspect key
  match certPresent, keyPresent with
  | false, false => pure none
  | true, true =>
      checkRestricted key
      let certText ← readText cert "read certificate failed"
      let keyText ← readText key "read private key failed"
      pure (some (certText, keyText))
  | _, _ =>
      .fail "incomplete certificate/key pair; refusing automatic recreation"

/-! ## The root -/

section

variable (crypto : Crypto)

/-- The last part of `ensure_ca`: a new root. -/
def createCa : Work Reply := do
  let (key, cert) ← .ask fun outside =>
    let key := crypto.generate outside.seed
    let cert := crypto.selfSign outside.now key
    if crypto.caPair outside.now cert key then .ok (key, cert)
    else .error "CA profile"
  atomicWrite .rootKey key true
  atomicWrite .rootCert cert false
  atomicWrite .fingerprint (crypto.fingerprint cert) false
  atomicWrite .trust cert false
  pure (.authority true (crypto.fingerprint cert))

/-- The first part of `ensure_ca`: the root is there. -/
def verifyCa (cert key : String) : Work Reply := do
  let _ ← .ask fun outside =>
    if crypto.caPair outside.now cert key then .ok outside.now
    else .error "CA profile"
  let raw ← readText .fingerprint
    "CA not initialized; run vzctl certs ca init"
  let trusted ← .look fun files => .ok (textAt files .trust)
  .require (trim raw = crypto.fingerprint cert ∧ trusted = some cert)
    "CA fingerprint/trust copy is inconsistent; inspect state and complete an explicit reviewed rollout"
  pure (.authority false (trim raw))

def ensureCa (force : Bool) : Work Reply := do
  let existing ← readPair .rootCert .rootKey
  match existing, force with
  | some (cert, key), false => verifyCa crypto cert key
  | _, _ => createCa crypto

/-! ## Leaves -/

/-- The names of a leaf, each once. -/
def allNames (primary : String) (extraSans : List String) : List String :=
  extraSans.foldl
    (fun names san => if san ∈ names then names else names ++ [san]) [primary]

/-- The value of `meta.json`. -/
def leafMetadata (primary : String) (names : List String)
    (fingerprint : String) (now : Int) : JSONValue :=
  .object
    [("san", .string primary),
      ("sans", .array (names.map .string)),
      ("fingerprint", .string fingerprint),
      ("not_after_unix", .number (now + 825 * 24 * 60 * 60)),
      ("issued_unix", .number now)]

/-- The last part of `mint_leaf`: a new certificate for a key. -/
def issueLeaf (root rootKey key primary : String) (names : List String)
    (isNew : Bool) : Work Reply := do
  let (cert, now) ← .ask fun outside =>
    let cert := crypto.sign outside.now root rootKey key names
    if crypto.leafPair outside.now cert key root true then
      .ok (cert, outside.now)
    else .error "leaf profile"
  let fingerprint := crypto.fingerprint cert
  writeNew isNew (.leafKey (crypto.leafFile primary)) key
  atomicWrite (.leafCert (crypto.leafFile primary)) cert false
  atomicWrite (.leafMeta (crypto.leafFile primary))
    (crypto.encode (leafMetadata primary names fingerprint now)) false
  pure (.leaf primary names fingerprint false)

/-- Whether the metadata of a leaf is about this certificate. -/
def describes (text : Option String) (cert : String) : Bool :=
  ((text.bind crypto.decode).bind fun value => value.field? "fingerprint") =
    some (.string (crypto.fingerprint cert))

/-- The middle of `mint_leaf`: the pair is there. -/
def renewLeaf (root rootKey primary : String) (names : List String)
    (cert key : String) : Work Reply := do
  let now ← .ask fun outside =>
    if crypto.leafPair outside.now cert key root false then .ok outside.now
    else .error "leaf profile"
  let metadata ← .look fun files =>
    .ok (textAt files (.leafMeta (crypto.leafFile primary)))
  if crypto.covers now cert names = true ∧
      crypto.leafPair now cert key root true = true ∧
      describes crypto metadata cert = true then
    pure (.leaf primary names (crypto.fingerprint cert) true)
  else
    .require (crypto.isKey key = true) "invalid existing leaf private key"
    issueLeaf crypto root rootKey key primary names false

def mintLeaf (primary : String) (extraSans : List String) : Work Reply := do
  let _ ← ensureCa crypto false
  let root ← readText .rootCert "read CA cert"
  let rootKey ← readText .rootKey "read CA key"
  .require (crypto.isKey rootKey = true) "parse CA key"
  .require (crypto.isAuthority root = true) "parse CA cert"
  let names := allNames primary extraSans
  .require (names.all isHostName = true) "leaf params"
  let existing ← readPair (.leafCert (crypto.leafFile primary))
    (.leafKey (crypto.leafFile primary))
  match existing with
  | some (cert, key) => renewLeaf crypto root rootKey primary names cert key
  | none =>
      let key ← .ask fun outside => .ok (crypto.generate outside.seed)
      issueLeaf crypto root rootKey key primary names true

def work : Call → Work Reply
  | .ensureCa force => ensureCa crypto force
  | .mintLeaf primary extraSans => mintLeaf crypto primary extraSans

/-- All callers share the files; nothing else remains of a call. -/
def system : Interleaving.System Files Outside String Reply Call where
  code _ := work crypto
  leave _ := id

end

end Certificates

end Vzctl
