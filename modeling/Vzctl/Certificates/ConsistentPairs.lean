import Vzctl.Certificates.CertificateFiles

/-!
# Consistent certificate pairs

A call that no other call disturbs leaves consistent files where it returns,
and keeps the private keys that it finds.
-/

namespace Vzctl

namespace Certificates

open Texts Transitions Interleaving

/-! ## What calls use -/

/-- The files of a leaf, under the name that the host has there. -/
def Call.leafFile (crypto : Crypto) : Call → Option String
  | .ensureCa _ => none
  | .mintLeaf primary _ => some (crypto.leafFile primary)

/-- The files that a call looks at or replaces. -/
def Uses (crypto : Crypto) (call : Call) : Path → Prop
  | .rootCert => True
  | .rootKey => True
  | .fingerprint => True
  | .trust => True
  | .leafCert file => call.leafFile crypto = some file
  | .leafKey file => call.leafFile crypto = some file
  | .leafMeta file => call.leafFile crypto = some file

/-- Both directories have the same files, as far as a call is concerned. -/
def Agree (crypto : Crypto) (call : Call) (first second : Files) : Prop :=
  ∀ path, Uses crypto call path → second path = first path

def Path.isKey : Path → Bool
  | .rootKey => true
  | .leafKey _ => true
  | _ => false

def Path.isLeaf : Path → Bool
  | .leafCert _ => true
  | .leafKey _ => true
  | .leafMeta _ => true
  | _ => false

/-- There is a root, with a certificate and a key. -/
def Rooted (files : Files) : Prop :=
  files .rootCert ≠ none ∧ files .rootKey ≠ none

/-- What an action of a call may do. -/
inductive Allowed (crypto : Crypto) (call : Call) : Files → Files → Prop
  | look {files : Files} : Allowed crypto call files files
  | replace {files next : Files} {path : Path} {text : String}
      {isRestricted : Bool} :
      replaced path text isRestricted files = .ok next →
      Uses crypto call path →
      (path.isKey = true → files path = none ∨
        path = .rootKey ∧ call = .ensureCa true) →
      (path.isLeaf = true → Rooted files) →
      Allowed crypto call files next

/-! ## Consistency -/

variable (crypto : Crypto)

/-- The root certificate matches the root key, the trust copy and the
fingerprint. -/
def RootConsistent (files : Files) : Prop :=
  ∃ cert key, textAt files .rootCert = some cert ∧
    textAt files .rootKey = some key ∧
    (∃ now, crypto.caPair now cert key = true) ∧
    textAt files .trust = some cert ∧
    (textAt files .fingerprint).map trim = some (crypto.fingerprint cert)

/-- The leaf certificate matches the leaf key and is signed by the root. -/
def LeafConsistent (file : String) (files : Files) : Prop :=
  ∃ root cert key, textAt files .rootCert = some root ∧
    textAt files (.leafCert file) = some cert ∧
    textAt files (.leafKey file) = some key ∧
    ∃ now strict, crypto.leafPair now cert key root strict = true

/-- All files are regular, and no leaf is older than the root. -/
structure Orderly (files : Files) : Prop where
  regular : ∀ path entry, files path = some entry → entry.isRegular = true
  rooted : ∀ path, path.isLeaf = true → files path ≠ none → Rooted files

def HostNames : Call → Prop
  | .ensureCa _ => True
  | .mintLeaf primary extraSans =>
      isHostName primary = true ∧ extraSans.all isHostName = true

/-- What holds where a call ends that began with these files. -/
def Ended (call : Call) (start : Files) (outcome : Except String Reply)
    (files : Files) : Prop :=
  match outcome with
  | .ok _ =>
      RootConsistent crypto files ∧
        ∀ file, call.leafFile crypto = some file →
          LeafConsistent crypto file files
  | .error _ =>
      Orderly start → HostNames call → Agree crypto call start files

variable {crypto} {call : Call}

theorem Agree.refl (files : Files) : Agree crypto call files files :=
  fun _ _ => rfl

theorem Agree.trans (first second third : Files)
    (left : Agree crypto call first second)
    (right : Agree crypto call second third) :
    Agree crypto call first third :=
  fun path used => (right path used).trans (left path used)

theorem Agree.textAt {first second : Files}
    (agree : Agree crypto call first second)
    (path : Path) (used : Uses crypto call path) :
    textAt second path = textAt first path := by
  rw [Certificates.textAt, agree path used]
  rfl

theorem textAt_update (files : Files) (path : Path) (text : String)
    (isRestricted : Bool) :
    Certificates.textAt (Function.update files path
      (some (written text isRestricted))) path = some text := by
  rw [Certificates.textAt, Function.update_self]
  rfl

theorem textAt_update_of_ne {path other : Path} (different : other ≠ path)
    (files : Files) (entry : Option Entry) :
    Certificates.textAt (Function.update files path entry) other =
      Certificates.textAt files other := by
  rw [Certificates.textAt, Function.update_of_ne different]
  rfl

theorem RootConsistent.of_agree {first second : Files}
    (consistent : RootConsistent crypto first)
    (agree : Agree crypto call first second) :
    RootConsistent crypto second := by
  obtain ⟨cert, key, atCert, atKey, pair, trusted, recorded⟩ := consistent
  refine ⟨cert, key, ?_, ?_, pair, ?_, ?_⟩
  · exact (agree.textAt .rootCert trivial).trans atCert
  · exact (agree.textAt .rootKey trivial).trans atKey
  · exact (agree.textAt .trust trivial).trans trusted
  · rw [agree.textAt .fingerprint trivial]
    exact recorded

theorem LeafConsistent.of_agree {file : String} {first second : Files}
    (consistent : LeafConsistent crypto file first)
    (agree : Agree crypto call first second)
    (ofHost : call.leafFile crypto = some file) :
    LeafConsistent crypto file second := by
  obtain ⟨root, cert, key, atRoot, atCert, atKey, pair⟩ := consistent
  refine ⟨root, cert, key, ?_, ?_, ?_, pair⟩
  · exact (agree.textAt .rootCert trivial).trans atRoot
  · exact (agree.textAt (.leafCert file) ofHost).trans atCert
  · exact (agree.textAt (.leafKey file) ofHost).trans atKey

theorem Ended.of_agree {start first second : Files}
    {outcome : Except String Reply}
    (ended : Ended crypto call start outcome first)
    (agree : Agree crypto call first second) :
    Ended crypto call start outcome second := by
  cases outcome with
  | error failure =>
      intro orderly names
      exact (ended orderly names).trans _ _ _ agree
  | ok reply =>
      refine ⟨ended.1.of_agree agree, fun file ofHost => ?_⟩
      exact (ended.2 file ofHost).of_agree agree ofHost

/-! ## Single actions -/

section Actions

variable {β : Type} {post : Except String β → Files → Prop} {files : Files}

/-- A process of a call, with all files that it uses as they are here. -/
abbrev SafeAt (crypto : Crypto) (call : Call)
    (post : Except String β → Files → Prop) (process : Work β)
    (files : Files) : Prop :=
  Process.Safe Process.always (Agree crypto call) (Allowed crypto call) post
    process files

/-- A failure here is one that the postcondition accounts for. -/
def Failing (crypto : Crypto) (call : Call)
    (post : Except String β → Files → Prop) (files : Files) : Prop :=
  ∀ failure later, Agree crypto call files later →
    post (.error failure) later

theorem safe_inspect {path : Path} {next : Bool → Work β}
    (used : Uses crypto call path) (failing : Failing crypto call post files)
    (found : ∀ entry, files path = some entry → entry.isRegular = true →
      SafeAt crypto call post (next true) files)
    (missing : files path = none →
      SafeAt crypto call post (next false) files) :
    SafeAt crypto call post (inspect path >>= next) files := by
  refine Process.Safe.of_look_framed Agree.trans ?_ (fun _ => .look) ?_ ?_
  · intro later agree
    rw [agree path used]
  · intro isPresent seen
    split at seen
    · rename_i nothing
      cases seen
      exact missing nothing
    · rename_i entry present
      split at seen
      · rename_i usable
        cases seen
        exact found entry present usable.1
      · cases seen
  · intro failure _ later agree
    exact failing failure later agree

theorem safe_checkRestricted {path : Path} {next : PUnit → Work β}
    (used : Uses crypto call path) (failing : Failing crypto call post files)
    (safe : SafeAt crypto call post (next ⟨⟩) files) :
    SafeAt crypto call post (checkRestricted path >>= next) files := by
  refine Process.Safe.of_look_framed Agree.trans ?_ (fun _ => .look) ?_ ?_
  · intro later agree
    rw [agree path used]
  · intro _ _
    exact safe
  · intro failure _ later agree
    exact failing failure later agree

theorem safe_readText {path : Path} {failure : String}
    {next : String → Work β} (used : Uses crypto call path)
    (failing : Failing crypto call post files)
    (safe : ∀ text, textAt files path = some text →
      SafeAt crypto call post (next text) files) :
    SafeAt crypto call post (readText path failure >>= next) files := by
  refine Process.Safe.of_look_framed Agree.trans ?_ (fun _ => .look) ?_ ?_
  · intro later agree
    rw [agree.textAt path used]
  · intro text seen
    split at seen
    · cases seen
    · cases seen
      exact safe text (by assumption)
  · intro failure _ later agree
    exact failing failure later agree

theorem safe_lookText {path : Path} {next : Option String → Work β}
    (used : Uses crypto call path)
    (safe : SafeAt crypto call post (next (textAt files path)) files) :
    SafeAt crypto call post
      (Process.look (fun files => .ok (textAt files path)) >>= next)
      files := by
  refine Process.Safe.of_look_framed Agree.trans ?_ (fun _ => .look) ?_ ?_
  · intro later agree
    rw [agree.textAt path used]
  · intro text seen
    cases seen
    exact safe
  · intro failure impossible
    cases impossible

theorem safe_atomicWrite {path : Path} {text : String} {isRestricted : Bool}
    {next : PUnit → Work β} (used : Uses crypto call path)
    (irregular : (files path).all Entry.isRegular = false →
      Failing crypto call post files)
    (kept : path.isKey = true → files path = none ∨
      path = .rootKey ∧ call = .ensureCa true)
    (rooted : path.isLeaf = true → Rooted files)
    (safe : SafeAt crypto call post (next ⟨⟩)
      (Function.update files path (some (written text isRestricted)))) :
    SafeAt crypto call post (atomicWrite path text isRestricted >>= next)
      files := by
  refine Process.Safe.of_write_framed Agree.trans (fun _ => .look) ?_ ?_
  · intro changed done
    unfold replaced at done
    split at done
    · rename_i regular
      cases done
      refine ⟨safe, fun later agree => ?_⟩
      have performed : replaced path text isRestricted later =
          .ok (Function.update later path
            (some (written text isRestricted))) := by
        rw [replaced, agree path used, if_pos regular]
      refine ⟨_, performed, .replace performed used ?_ ?_, ?_⟩
      · intro isKey
        rw [agree path used]
        exact kept isKey
      · intro isLeaf
        rw [Rooted, agree .rootCert trivial, agree .rootKey trivial]
        exact rooted isLeaf
      · intro other usedOther
        by_cases same : other = path
        · rw [same, Function.update_self, Function.update_self]
        · rw [Function.update_of_ne same, Function.update_of_ne same]
          exact agree other usedOther
    · cases done
  · intro failure refused later agree
    unfold replaced at refused ⊢
    rw [agree path used]
    split at refused
    · cases refused
    · rename_i other
      rw [if_neg other]
      cases refused
      exact ⟨rfl, irregular (Bool.eq_false_iff.mpr other) _ later agree⟩

/-- What `read_pair` finds. -/
def PairAt (files : Files) (cert key : Path) :
    Option (String × String) → Prop
  | none => files cert = none ∧ files key = none
  | some (certText, keyText) =>
      textAt files cert = some certText ∧ textAt files key = some keyText

theorem safe_readPair {cert key : Path}
    {next : Option (String × String) → Work β}
    (usedCert : Uses crypto call cert) (usedKey : Uses crypto call key)
    (failing : Failing crypto call post files)
    (safe : ∀ pair, PairAt files cert key pair →
      SafeAt crypto call post (next pair) files) :
    SafeAt crypto call post (readPair cert key >>= next) files := by
  refine Process.Safe.of_bind Agree.refl ?_
  have passing : ∀ pair, PairAt files cert key pair → ∀ later,
      Agree crypto call files later →
      SafeAt crypto call post (next pair) later :=
    fun pair found later agree => (safe pair found).later Agree.trans agree
  unfold readPair
  refine safe_inspect usedCert failing ?_ ?_
  · intro entry _ _
    refine safe_inspect usedKey failing ?_ ?_
    · intro entry _ _
      refine safe_checkRestricted usedKey failing ?_
      refine safe_readText usedCert failing fun certText atCert => ?_
      refine safe_readText usedKey failing fun keyText atKey => ?_
      exact Process.Safe.of_pure (passing (some _) ⟨atCert, atKey⟩)
    · intro _
      exact Process.Safe.of_fail fun later agree => failing _ later agree
  · intro noCert
    refine safe_inspect usedKey failing ?_ ?_
    · intro entry _ _
      exact Process.Safe.of_fail fun later agree => failing _ later agree
    · intro noKey
      exact Process.Safe.of_pure (passing none ⟨noCert, noKey⟩)

theorem safe_readText_of {path : Path} {failure text : String}
    {next : String → Work β} (used : Uses crypto call path)
    (known : textAt files path = some text)
    (safe : SafeAt crypto call post (next text) files) :
    SafeAt crypto call post (readText path failure >>= next) files := by
  refine Process.Safe.of_look_framed Agree.trans ?_ (fun _ => .look) ?_ ?_
  · intro later agree
    rw [agree.textAt path used]
  · intro other seen
    rw [known] at seen
    cases seen
    exact safe
  · intro failure missed
    rw [known] at missed
    cases missed

theorem safe_inspect_of_none {path : Path} {next : Bool → Work β}
    (used : Uses crypto call path) (missing : files path = none)
    (safe : SafeAt crypto call post (next false) files) :
    SafeAt crypto call post (inspect path >>= next) files := by
  refine Process.Safe.of_look_framed Agree.trans ?_ (fun _ => .look) ?_ ?_
  · intro later agree
    rw [agree path used]
  · intro isPresent seen
    rw [missing] at seen
    cases seen
    exact safe
  · intro failure missed
    rw [missing] at missed
    cases missed

theorem safe_readPair_of_none {cert key : Path}
    {next : Option (String × String) → Work β}
    (usedCert : Uses crypto call cert) (usedKey : Uses crypto call key)
    (noCert : files cert = none) (noKey : files key = none)
    (safe : SafeAt crypto call post (next none) files) :
    SafeAt crypto call post (readPair cert key >>= next) files := by
  refine Process.Safe.of_bind Agree.refl ?_
  refine safe_inspect_of_none usedCert noCert ?_
  refine safe_inspect_of_none usedKey noKey ?_
  exact Process.Safe.of_pure fun later agree => safe.later Agree.trans agree

end Actions

/-! ## The root -/

/-- What a postcondition leaves to failures: they change nothing, or the files
or the names were not in order from the start. -/
structure Accounts (crypto : Crypto) {β : Type} (call : Call) (start : Files)
    (post : Except String β → Files → Prop) : Prop where
  unchanged : ∀ failure later, Agree crypto call start later →
    post (.error failure) later
  excused : ∀ failure later, ¬ (Orderly start ∧ HostNames call) →
    post (.error failure) later

def Regular (files : Files) : Prop :=
  ∀ path entry, files path = some entry → entry.isRegular = true

theorem Regular.update {files : Files} (regular : Regular files)
    (path : Path) (text : String) (isRestricted : Bool) :
    Regular (Function.update files path
      (some (written text isRestricted))) := by
  intro other entry found
  by_cases same : other = path
  · rw [same, Function.update_self] at found
    cases found
    rfl
  · rw [Function.update_of_ne same] at found
    exact regular other entry found

theorem accounts_ended (start : Files) :
    Accounts crypto call start (Ended crypto call start) := by
  constructor
  · intro failure later agree _ _
    exact agree
  · intro failure later disorder orderly names
    exact absurd ⟨orderly, names⟩ disorder

section Calls

variable {β : Type} {post : Except String β → Files → Prop}
  {start files : Files}

theorem Accounts.failing (accounts : Accounts crypto call start post)
    (unchanged : Agree crypto call start files) :
    Failing crypto call post files :=
  fun failure later agree =>
    accounts.unchanged failure later (unchanged.trans _ _ _ agree)

theorem Accounts.irregular (accounts : Accounts crypto call start post)
    (regular : Orderly start → Regular files) {path : Path}
    (other : (files path).all Entry.isRegular = false) :
    Failing crypto call post files := by
  refine fun failure later _ => accounts.excused failure later ?_
  rintro ⟨orderly, _⟩
  cases found : files path with
  | none =>
      rw [found] at other
      cases other
  | some entry =>
      rw [found] at other
      exact Bool.false_ne_true
        (other.symm.trans (regular orderly path entry found))

end Calls

section Root

variable {post : Except String Reply → Files → Prop} {start files : Files}

/-- What the files are after a root is there. -/
structure HasRoot (crypto : Crypto) (start files reached : Files) : Prop where
  consistent : RootConsistent crypto reached
  leaves : ∀ path, path.isLeaf = true → reached path = files path
  regular : Orderly start → Regular reached

theorem safe_createCa (accounts : Accounts crypto call start post)
    (unchanged : Agree crypto call start files)
    (regular : Orderly start → Regular files)
    (fresh : files .rootKey = none ∨ call = .ensureCa true)
    (returns : ∀ reply reached, HasRoot crypto start files reached →
      ∀ later, Agree crypto call reached later → post (.ok reply) later) :
    SafeAt crypto call post (createCa crypto) files := by
  refine Process.Safe.of_ask Agree.trans (fun _ => .look) ?_ ?_
  · rintro outside ⟨key, cert⟩ generated
    dsimp only at generated
    split at generated
    · rename_i pair
      obtain ⟨rfl, rfl⟩ := Prod.mk.inj (Except.ok.inj generated)
      refine safe_atomicWrite trivial (accounts.irregular regular)
        (fun _ => fresh.imp id fun force => ⟨rfl, force⟩)
        (fun isLeaf => nomatch isLeaf) ?_
      have withKey := fun orderly => (regular orderly).update .rootKey
        (crypto.generate outside.seed) true
      refine safe_atomicWrite trivial (accounts.irregular withKey)
        (fun isKey => nomatch isKey) (fun isLeaf => nomatch isLeaf) ?_
      have withCert := fun orderly => (withKey orderly).update .rootCert
        (crypto.selfSign outside.now (crypto.generate outside.seed)) false
      refine safe_atomicWrite trivial (accounts.irregular withCert)
        (fun isKey => nomatch isKey) (fun isLeaf => nomatch isLeaf) ?_
      have recorded := fun orderly => (withCert orderly).update .fingerprint
        (crypto.fingerprint
          (crypto.selfSign outside.now (crypto.generate outside.seed))) false
      refine safe_atomicWrite trivial (accounts.irregular recorded)
        (fun isKey => nomatch isKey) (fun isLeaf => nomatch isLeaf) ?_
      refine Process.Safe.of_pure (returns _ _ ⟨?_, ?_, ?_⟩)
      · refine ⟨_, _, rfl, rfl, ⟨outside.now, pair⟩, rfl, ?_⟩
        exact congrArg some (trim_hexadecimal _)
      · intro path isLeaf
        cases path with
        | leafCert file => rfl
        | leafKey file => rfl
        | leafMeta file => rfl
        | _ => cases isLeaf
      · exact fun orderly => (recorded orderly).update .trust _ false
    · cases generated
  · intro outside failure _ later agree
    exact accounts.failing unchanged failure later agree

theorem safe_verifyCa {cert key : String}
    (accounts : Accounts crypto call start post)
    (unchanged : Agree crypto call start files)
    (regular : Orderly start → Regular files)
    (found : PairAt files .rootCert .rootKey (some (cert, key)))
    (returns : ∀ reply, HasRoot crypto start files files →
      ∀ later, Agree crypto call files later → post (.ok reply) later) :
    SafeAt crypto call post (verifyCa crypto cert key) files := by
  have failing := accounts.failing unchanged
  refine Process.Safe.of_ask Agree.trans (fun _ => .look) ?_ ?_
  · intro outside now verified
    split at verified
    · rename_i pair
      refine safe_readText trivial failing fun raw atFingerprint => ?_
      refine safe_lookText trivial ?_
      refine Process.Safe.of_require ?_ ?_
      · rintro ⟨recorded, trusted⟩
        refine Process.Safe.of_pure (returns _ ⟨?_, fun _ _ => rfl, regular⟩)
        refine ⟨cert, key, found.1, found.2, ⟨outside.now, pair⟩, trusted, ?_⟩
        rw [atFingerprint]
        exact congrArg some recorded
      · intro _ later agree
        exact failing _ later agree
    · cases verified
  · intro outside failure _ later agree
    exact failing failure later agree

theorem safe_ensureCa {force : Bool}
    (accounts : Accounts crypto call start post)
    (unchanged : Agree crypto call start files)
    (regular : Orderly start → Regular files)
    (forced : force = true → call = .ensureCa true)
    (returns : ∀ reply reached, HasRoot crypto start files reached →
      reached = files ∨ files .rootCert = none ∨ force = true →
      ∀ later, Agree crypto call reached later → post (.ok reply) later) :
    SafeAt crypto call post (ensureCa crypto force) files := by
  refine safe_readPair trivial trivial (accounts.failing unchanged) ?_
  intro pair found
  cases pair with
  | none =>
      refine safe_createCa accounts unchanged regular (.inl found.2) ?_
      intro reply reached hasRoot
      exact returns reply reached hasRoot (.inr (.inl found.1))
  | some pair =>
      obtain ⟨cert, key⟩ := pair
      cases force with
      | true =>
          refine safe_createCa accounts unchanged regular
            (.inr (forced rfl)) ?_
          intro reply reached hasRoot
          exact returns reply reached hasRoot (.inr (.inr rfl))
      | false =>
          refine safe_verifyCa accounts unchanged regular found ?_
          intro reply hasRoot
          exact returns reply files hasRoot (.inl rfl)

end Root

/-! ## Leaves -/

section Leaves

variable {primary root rootKey key : String} {names extraSans : List String}
  {start files : Files}

/-- Where a leaf is issued: the root was verified, or made. -/
structure Issues (crypto : Crypto) (call : Call) (primary root rootKey : String)
    (start files : Files) : Prop where
  file : call.leafFile crypto = some (crypto.leafFile primary)
  consistent : RootConsistent crypto files
  atRoot : textAt files .rootCert = some root
  atKey : textAt files .rootKey = some rootKey
  regular : Orderly start → Regular files

theorem Issues.rooted (issues : Issues crypto call primary root rootKey start
    files) : Rooted files := by
  constructor
  · intro missing
    have found := issues.atRoot
    rw [textAt, missing] at found
    cases found
  · intro missing
    have found := issues.atKey
    rw [textAt, missing] at found
    cases found

theorem Issues.pair (issues : Issues crypto call primary root rootKey start
    files) : ∃ now, crypto.caPair now root rootKey = true := by
  obtain ⟨cert, key, atCert, atKey, pair, _⟩ := issues.consistent
  cases atCert.symm.trans issues.atRoot
  cases atKey.symm.trans issues.atKey
  exact pair

theorem safe_writeLeaf {cert fingerprint metadata : String}
    {earlier : Int}
    (issues : Issues crypto call primary root rootKey start files)
    (pair : crypto.leafPair earlier cert key root true = true)
    (atKey : textAt files (.leafKey (crypto.leafFile primary)) = some key) :
    SafeAt crypto call (Ended crypto call start)
      (do
        atomicWrite (.leafCert (crypto.leafFile primary)) cert false
        atomicWrite (.leafMeta (crypto.leafFile primary)) metadata false
        pure (.leaf primary names fingerprint false)) files := by
  have accounts : Accounts crypto call start (Ended crypto call start) :=
    accounts_ended start
  refine safe_atomicWrite issues.file (accounts.irregular issues.regular)
    (fun isKey => nomatch isKey) (fun _ => issues.rooted) ?_
  have withCert := fun orderly => (issues.regular orderly).update
    (.leafCert (crypto.leafFile primary)) cert false
  refine safe_atomicWrite issues.file (accounts.irregular withCert)
    (fun isKey => nomatch isKey) (fun _ => issues.rooted) ?_
  refine Process.Safe.of_pure fun later agree => Ended.of_agree ?_ agree
  refine ⟨issues.consistent, fun file ofHost => ?_⟩
  cases Option.some.inj (ofHost.symm.trans issues.file)
  refine ⟨root, cert, key, issues.atRoot, ?_, ?_, earlier, true, pair⟩
  · rw [textAt_update_of_ne Path.noConfusion, textAt_update]
  · rw [textAt_update_of_ne Path.noConfusion,
      textAt_update_of_ne Path.noConfusion, atKey]

theorem safe_issueLeaf {isNew : Bool}
    (issues : Issues crypto call primary root rootKey start files)
    (isKey : crypto.isKey key = true)
    (hostNames : names.all isHostName = true)
    (atLeaf : if isNew = true then
        files (.leafKey (crypto.leafFile primary)) = none
      else textAt files (.leafKey (crypto.leafFile primary)) = some key) :
    SafeAt crypto call (Ended crypto call start)
      (issueLeaf crypto root rootKey key primary names isNew) files := by
  obtain ⟨earlier, pair⟩ := issues.pair
  refine Process.Safe.of_ask Agree.trans (fun _ => .look) ?_ ?_
  · rintro outside ⟨cert, now⟩ signed
    dsimp only at signed
    split at signed
    · rename_i verified
      obtain ⟨rfl, rfl⟩ := Prod.mk.inj (Except.ok.inj signed)
      cases isNew with
      | false => exact safe_writeLeaf issues verified atLeaf
      | true =>
          refine safe_atomicWrite issues.file
            ((accounts_ended start).irregular issues.regular)
            (fun _ => .inl atLeaf) (fun _ => issues.rooted) ?_
          have issued : Issues crypto call primary root rootKey start
              (Function.update files (.leafKey (crypto.leafFile primary))
                (some (written key true))) :=
            { issues with
              regular := fun orderly =>
                (issues.regular orderly).update _ _ _ }
          exact safe_writeLeaf issued verified (textAt_update _ _ _ _)
    · cases signed
  · intro outside failure refused
    rw [if_pos (crypto.signed _ _ _ _ _ _ pair isKey hostNames)] at refused
    cases refused

theorem safe_renewLeaf {cert : String}
    (issues : Issues crypto call primary root rootKey start files)
    (failing : Failing crypto call (Ended crypto call start) files)
    (hostNames : names.all isHostName = true)
    (found : PairAt files (.leafCert (crypto.leafFile primary))
      (.leafKey (crypto.leafFile primary)) (some (cert, key))) :
    SafeAt crypto call (Ended crypto call start)
      (renewLeaf crypto root rootKey primary names cert key) files := by
  refine Process.Safe.of_ask Agree.trans (fun _ => .look) ?_ ?_
  · intro outside now verified
    split at verified
    · rename_i pair
      refine safe_lookText issues.file ?_
      split
      · refine Process.Safe.of_pure fun later agree =>
          Ended.of_agree ⟨issues.consistent, fun file ofHost => ?_⟩ agree
        cases Option.some.inj (ofHost.symm.trans issues.file)
        exact ⟨root, cert, key, issues.atRoot, found.1, found.2,
          outside.now, false, pair⟩
      · refine Process.Safe.of_require (fun isKey => ?_) ?_
        · exact safe_issueLeaf issues isKey hostNames found.2
        · intro _ later agree
          exact failing _ later agree
    · cases verified
  · intro outside failure _ later agree
    exact failing failure later agree

theorem all_allNames (valid : isHostName primary = true)
    (extraValid : extraSans.all isHostName = true) :
    (allNames primary extraSans).all isHostName = true := by
  have grows : ∀ names : List String, names.all isHostName = true →
      (extraSans.foldl (fun names san =>
        if san ∈ names then names else names ++ [san]) names).all
          isHostName = true := by
    induction extraSans with
    | nil => exact fun names valid => valid
    | cons san rest ih =>
        rw [List.all_cons, Bool.and_eq_true] at extraValid
        intro names validNames
        refine ih extraValid.2 _ ?_
        dsimp only
        split
        · exact validNames
        · rw [List.all_append, validNames, List.all_cons, extraValid.1]
          rfl
  refine grows [primary] ?_
  rw [List.all_cons, valid]
  rfl

end Leaves

/-! ## Calls -/

section Calls

variable {primary : String} {extraSans : List String} {start files : Files}

/-- Where the root is there, a failure changes nothing, or no leaf can be
there. -/
theorem settled_of_hasRoot (hasRoot : HasRoot crypto start start files)
    (origin : files = start ∨ start .rootCert = none) :
    Failing crypto call (Ended crypto call start) files ∨
      HostNames call ∧ ∀ path, path.isLeaf = true → files path = none := by
  by_cases inOrder : Orderly start ∧ HostNames call
  · rcases origin with rfl | noRoot
    · exact .inl ((accounts_ended files).failing (Agree.refl files))
    · refine .inr ⟨inOrder.2, fun path isLeaf => ?_⟩
      rw [hasRoot.leaves path isLeaf]
      by_contra present
      exact (inOrder.1.rooted path isLeaf present).1 noRoot
  · exact .inl fun failure later _ =>
      (accounts_ended start).excused failure later inOrder

theorem safe_afterRoot
    (hasRoot : HasRoot crypto start start files)
    (origin : files = start ∨ start .rootCert = none) :
    SafeAt crypto (.mintLeaf primary extraSans)
      (Ended crypto (.mintLeaf primary extraSans) start)
      (do
        let root ← readText .rootCert "read CA cert"
        let rootKey ← readText .rootKey "read CA key"
        .require (crypto.isKey rootKey = true) "parse CA key"
        .require (crypto.isAuthority root = true) "parse CA cert"
        let names := allNames primary extraSans
        .require (names.all isHostName = true) "leaf params"
        let existing ← readPair (.leafCert (crypto.leafFile primary))
          (.leafKey (crypto.leafFile primary))
        match existing with
        | some (cert, key) =>
            renewLeaf crypto root rootKey primary names cert key
        | none =>
            let key ← .ask fun outside => .ok (crypto.generate outside.seed)
            issueLeaf crypto root rootKey key primary names true) files := by
  obtain ⟨root, rootKey, atRoot, atKey, ⟨earlier, pair⟩, _⟩ :=
    hasRoot.consistent
  have settled : Failing crypto (.mintLeaf primary extraSans) _ files ∨ _ :=
    settled_of_hasRoot hasRoot origin
  have parsed := crypto.parsed earlier root rootKey pair
  have issues : Issues crypto (.mintLeaf primary extraSans) primary root
      rootKey start files :=
    ⟨rfl, hasRoot.consistent, atRoot, atKey, hasRoot.regular⟩
  refine safe_readText_of trivial atRoot ?_
  refine safe_readText_of trivial atKey ?_
  refine Process.Safe.of_require (fun _ => ?_)
    fun refused => absurd parsed.1 refused
  refine Process.Safe.of_require (fun _ => ?_)
    fun refused => absurd parsed.2 refused
  refine Process.Safe.of_require (fun hostNames => ?_) ?_
  · have issued : ∀ key, crypto.isKey key = true →
        files (.leafKey (crypto.leafFile primary)) = none →
        SafeAt crypto (.mintLeaf primary extraSans)
          (Ended crypto (.mintLeaf primary extraSans) start)
          (issueLeaf crypto root rootKey key primary
            (allNames primary extraSans) true) files :=
      fun key isKey noKey => safe_issueLeaf issues isKey hostNames noKey
    have made : files (.leafKey (crypto.leafFile primary)) = none →
        SafeAt crypto (.mintLeaf primary extraSans)
          (Ended crypto (.mintLeaf primary extraSans) start)
          (do
            let key ← .ask fun outside =>
              .ok (crypto.generate outside.seed)
            issueLeaf crypto root rootKey key primary
              (allNames primary extraSans) true) files := by
      intro noKey
      refine Process.Safe.of_ask Agree.trans (fun _ => .look) ?_ ?_
      · intro outside key generated
        cases generated
        exact issued _ (crypto.generated outside.seed) noKey
      · intro outside failure impossible
        cases impossible
    rcases settled with failing | ⟨_, absent⟩
    · refine safe_readPair rfl rfl failing fun existing found => ?_
      cases existing with
      | none => exact made found.2
      | some pair => exact safe_renewLeaf issues failing hostNames found
    · exact safe_readPair_of_none rfl rfl (absent _ rfl) (absent _ rfl)
        (made (absent _ rfl))
  · intro refused later agree
    rcases settled with failing | ⟨names, _⟩
    · exact failing _ later agree
    · exact absurd (all_allNames names.1 names.2) refused

theorem safe_mintLeaf (start : Files) :
    SafeAt crypto (.mintLeaf primary extraSans)
      (Ended crypto (.mintLeaf primary extraSans) start)
      (mintLeaf crypto primary extraSans) start := by
  refine Process.Safe.of_bind Agree.refl ?_
  refine safe_ensureCa ⟨?_, ?_⟩ (Agree.refl start) (fun orderly =>
    orderly.regular) (fun impossible => nomatch impossible) ?_
  · intro failure later agree
    exact (accounts_ended start).unchanged failure later agree
  · intro failure later disorder
    exact (accounts_ended start).excused failure later disorder
  · intro reply files hasRoot origin later agree
    refine Process.Safe.later Agree.trans (safe_afterRoot hasRoot ?_) agree
    rcases origin with same | noRoot | impossible
    · exact .inl same
    · exact .inr noRoot
    · cases impossible

theorem safe_work (call : Call) (start : Files) :
    SafeAt crypto call (Ended crypto call start) (work crypto call) start := by
  cases call with
  | mintLeaf primary extraSans => exact safe_mintLeaf start
  | ensureCa force =>
      refine safe_ensureCa (accounts_ended start) (Agree.refl start)
        (fun orderly => orderly.regular) (fun forced => by rw [forced]) ?_
      intro reply files hasRoot _ later agree
      refine Ended.of_agree ⟨hasRoot.consistent, fun san impossible => ?_⟩
        agree
      cases impossible

end Calls

end Certificates

end Vzctl
