import Vzctl.Controllers.AutoClients
import Vzctl.Controllers.StoredCredentials

/-!
# Delivered credentials

From one moment of a run to any later one: the value that a call has
returned is the value of its key, and the value that is read back.
-/

namespace Vzctl

namespace SecretStorage

open Transitions

variable {digest : Digest} {initial : Files}

/-! ## Runs -/

theorem consistent_of_runs {store : Store}
    (run : Runs (Step digest) (.fresh initial) store) :
    Consistent digest initial store :=
  invariant_of_runs (Consistent digest initial)
    (fun _ _ _ consistent step => consistent.step step) consistent_fresh run

theorem Consistent.rebase {store : Store}
    (consistent : Consistent digest initial store) :
    Consistent digest store.files store := by
  constructor
  · exact consistent.exclusive
  · exact consistent.sound
  · intro key entry found
    exact found
  · intro key missing
    exact .inl missing

theorem Consistent.of_runs {store later : Store}
    (consistent : Consistent digest initial store)
    (more : Runs (Step digest) store later) :
    Consistent digest initial later :=
  invariant_of_runs (Consistent digest initial)
    (fun _ _ _ before step => before.step step) consistent more

theorem Consistent.unchanged {store later : Store}
    (consistent : Consistent digest initial store)
    (more : Runs (Step digest) store later) {key : String} {entry : Entry}
    (found : store.files (digest.filename key) = some entry) :
    later.files (digest.filename key) = some entry :=
  (consistent.rebase.of_runs more).kept key entry found

theorem Consistent.returned {store : Store} {number : Nat} {call : Call}
    {secret : String} (consistent : Consistent digest initial store)
    (known : store.calls number = some call)
    (returns : call.point = .returned (.ok secret)) :
    Kept store.files (digest.filename call.key) call.existing secret := by
  have sound := consistent.sound number call known
  rw [returns] at sound
  exact sound

theorem eq_of_privateFile {first second : String}
    (same : some (privateFile first.toByteArray) =
      some (privateFile second.toByteArray)) : first = second := by
  have bytes := congrArg Entry.bytes (Option.some.inj same)
  exact String.toByteArray_inj.mp bytes

/-! ## Refused files -/

/-- The call has not looked at the file of its secret yet. -/
def Point.unread : Point → Prop
  | .opening => True
  | .locking => True
  | .reading => True
  | _ => False

/-- The call returns no value, as long as its file is refused. -/
def Point.Refusing : Point → Prop
  | .opening => True
  | .locking => True
  | .reading => True
  | .releasing (.error _) => True
  | .returned (.error _) => True
  | .crashed => True
  | _ => False

theorem refusing_of_unread {point : Point} (unread : point.unread) :
    point.Refusing := by
  cases point with
  | opening => trivial
  | locking => trivial
  | reading => trivial
  | _ => exact unread.elim

theorem Prepares.refusing {files next : Files} {point after : Point}
    (prepares : Prepares files point next after) : after.Refusing := by
  cases prepares with
  | _ => trivial

theorem Acts.refusing {filename : String} {existing : Option String}
    {files next : Files} {point after : Point}
    (acts : Acts filename existing files point next after)
    (refused : storedSecret (files filename) = .error ())
    (refusing : point.Refusing) : after.Refusing := by
  cases acts with
  | read =>
      unfold afterRead
      rw [refused]
      trivial
  | readFails => trivial
  | _ => exact refusing.elim

/-- A call with this number and key returns no value. -/
def Refuses (key : String) (number : Nat) (store : Store) : Prop :=
  ∀ call, store.calls number = some call → call.key = key →
    call.point.Refusing

theorem Refuses.moved {key : String} {number other : Nat} {store : Store}
    {call : Call} {point : Point} {files : Files} {holder : Option Nat}
    (refuses : Refuses key number store)
    (known : store.calls other = some call)
    (refusing : call.key = key → call.point.Refusing → point.Refusing) :
    Refuses key number
      { files := files
        holder := holder
        calls := store.moved other call point } := by
  intro found after ofKey
  rcases calls_moved after with ⟨rfl, rfl⟩ | ⟨_, before⟩
  · exact refusing ofKey (refuses call known ofKey)
  · exact refuses found before ofKey

theorem Refuses.step {key : String} {number label : Nat}
    {store next : Store} (refuses : Refuses key number store)
    (refused : storedSecret (store.files (digest.filename key)) = .error ())
    (step : Step digest store label next) : Refuses key number next := by
  cases step with
  | begin fresh =>
      intro call after ofKey
      rcases calls_begun after with rfl | before
      · trivial
      · exact refuses call before ofKey
  | prepare known prepares =>
      exact refuses.moved known fun _ _ => prepares.refusing
  | lock known waiting free => exact refuses.moved known fun _ _ => trivial
  | act known acts =>
      refine refuses.moved known fun ofKey refusing => ?_
      rw [ofKey] at acts
      exact acts.refusing refused refusing
  | release known releasing =>
      rename_i call result
      refine refuses.moved known fun _ refusing => ?_
      rw [releasing] at refusing
      cases result with
      | error failure => trivial
      | ok secret => exact refusing.elim
  | crash known unfinished => exact refuses.moved known fun _ _ => trivial

theorem Refuses.of_runs {key : String} {number : Nat} {entry : Entry}
    {store later : Store} (consistent : Consistent digest initial store)
    (found : store.files (digest.filename key) = some entry)
    (refused : storedSecret (some entry) = .error ())
    (refuses : Refuses key number store)
    (more : Runs (Step digest) store later) : Refuses key number later := by
  refine (invariant_of_runs
    (fun state => Consistent digest store.files state ∧
      Refuses key number state) ?_ ⟨consistent.rebase, refuses⟩ more).2
  rintro source label target ⟨before, refusing⟩ step
  refine ⟨before.step step, refusing.step ?_ step⟩
  rw [before.kept key entry found]
  exact refused

/-! ## Stability -/

/-- What callers rely on, from one store of a run to a later one. -/
structure Stable (digest : Digest) (reader : ClientsReader)
    (initial : Files) (store later : Store) : Prop where
  same : ∀ number call value other found second,
    store.calls number = some call →
    call.point = .returned (.ok value) →
    later.calls other = some found →
    found.point = .returned (.ok second) →
    found.key = call.key → second = value
  own : ∀ number call value, store.calls number = some call →
    call.point = .returned (.ok value) →
    store.files (digest.filename call.key) =
        some (privateFile value.toByteArray) ∧
      later.files (digest.filename call.key) =
        some (privateFile value.toByteArray)
  apart : ∀ key other, key ≠ other →
    digest.filename key ≠ digest.filename other
  unchanged : ∀ key entry, store.files (digest.filename key) = some entry →
    later.files (digest.filename key) = some entry
  refused : ∀ key entry number,
    store.files (digest.filename key) = some entry →
    storedSecret (some entry) = .error () →
    (∀ call, store.calls number = some call → call.point.unread) →
    ∀ call value, later.calls number = some call → call.key = key →
      call.point ≠ .returned (.ok value)
  complete : ∀ key entry, store.files (digest.filename key) = some entry →
    initial (digest.filename key) = some entry ∨
      ∃ number call value, store.calls number = some call ∧
        call.key = key ∧ Chosen call.existing value ∧
        entry = privateFile value.toByteArray
  delivered : ∀ number call value, store.calls number = some call →
    call.point = .returned (.ok value) →
    Consumer reader { call with point := .opening } →
    storedSecret (later.files (digest.filename call.key)) =
      .ok (some value)

/-- However calls interleave and crash, a secret has one value. -/
theorem stored_credentials_of_runs (digest : Digest) (reader : ClientsReader)
    (initial : Files) {store later : Store}
    (run : Runs (Step digest) (.fresh initial) store)
    (more : Runs (Step digest) store later) :
    Stable digest reader initial store later := by
  have consistent := consistent_of_runs run
  have consistentLater := consistent.of_runs more
  have own : ∀ number call value, store.calls number = some call →
      call.point = .returned (.ok value) →
      Holds store.files (digest.filename call.key) value ∧
        Holds later.files (digest.filename call.key) value := by
    intro number call value known returns
    have holds := (consistent.returned known returns).1
    exact ⟨holds, consistent.unchanged more holds⟩
  constructor
  · intro number call value other found second known returns knownLater
      returnsLater sameKey
    have holds := (own number call value known returns).2
    have holdsLater :=
      (consistentLater.returned knownLater returnsLater).1
    rw [sameKey] at holdsLater
    exact eq_of_privateFile (holdsLater.symm.trans holds)
  · exact own
  · intro key other different same
    exact different (digest.filename_injective same)
  · intro key entry found
    exact consistent.unchanged more found
  · intro key entry number found refused unread call value known ofKey
      returns
    have refuses : Refuses key number store := fun call known _ =>
      refusing_of_unread (unread call known)
    have refusing :=
      refuses.of_runs consistent found refused more call known ofKey
    rw [returns] at refusing
    exact refusing
  · intro key entry found
    cases start : initial (digest.filename key) with
    | some before =>
        exact .inl ((consistent.kept key before start).symm.trans found)
    | none =>
        rcases consistent.complete key start with
          missing | ⟨number, call, value, known, ofKey, chosen, holds⟩
        · cases missing.symm.trans found
        · exact .inr ⟨number, call, value, known, ofKey, chosen,
            Option.some.inj (found.symm.trans holds)⟩
  · intro number call value known returns consumer
    obtain ⟨_, visible, small⟩ := consistent.returned known returns
    refine storedSecret_of_holds (own number call value known returns).2
      visible ?_
    rcases small with small | imports
    · exact small
    · exact size_of_consumer consumer imports

/-! ## One secret for two processes -/

/-- SHA-256 of the key of the tests. -/
def webHex : String :=
  "934a1b72d22a85bc8a845ef375e067908968b794914923fbcb77303f25f148cc"

def webDigest : Digest where
  hex key := if key = "client/web" then webHex else "f" ++ key
  injective := by
    have apart : ∀ key : String, webHex ≠ "f" ++ key := by
      intro key same
      have heads := congrArg (fun text => text.toList.head?) same
      simp only [String.toList_append] at heads
      cases heads
    intro first second same
    dsimp only at same
    split at same
    · rename_i isWeb
      split at same
      · rename_i alsoWeb
        exact isWeb.trans alsoWeb.symm
      · exact absurd same (apart second)
    · split at same
      · exact absurd same.symm (apart first)
      · have texts := congrArg String.toList same
        rw [String.toList_append, String.toList_append] at texts
        exact String.toList_injective (List.append_cancel_left texts)
  plain := by
    intro key
    split
    · rfl
    · rw [String.toList_append]
      rfl

/-- Reads the one document without clients. -/
def noClients : ClientsReader where
  decode bytes :=
    if bytes.data = "[]".toByteArray.data then .ok (.array []) else .error ()
  short := by
    intro bytes value text decoded inside
    split at decoded
    · cases decoded
      cases inside
    · cases decoded

/-- In an empty directory, a first call can get to a point. -/
def Reached (digest : Digest) (key : String) (files : Files)
    (point : Point) : Prop :=
  ∃ store, Runs (Step digest) (.fresh fun _ => none) store ∧
    store.files = files ∧ store.calls 0 = some ⟨key, none, point⟩

theorem Reached.acts {key : String} {files next : Files}
    {point after : Point} (reached : Reached digest key files point)
    (acts : Acts (digest.filename key) none files point next after) :
    Reached digest key next after := by
  obtain ⟨store, run, rfl, known⟩ := reached
  exact ⟨_, run.snoc (.act known acts), rfl, rfl⟩

def lockFile : Files :=
  Function.update (fun _ => none) ".lock"
    (some (privateFile ByteArray.empty))

theorem reached_reading (key : String) :
    Reached digest key lockFile .reading := by
  let call : Call := ⟨key, none, .opening⟩
  have begun : Step digest (.fresh fun _ => none) 0
      ⟨fun _ => none, none, Function.update (fun _ => none) 0 call⟩ :=
    .begin rfl
  have opening : Prepares (fun _ => none) call.point lockFile .locking :=
    .createLock rfl
  have known : Function.update (fun _ => none) 0 (some call) 0 = some call :=
    Function.update_self _ _ _
  have opened := ((Runs.refl _).snoc begun).snoc
    (show Step digest _ 0 _ from .prepare known opening)
  have waiting : Function.update
      (Function.update (fun _ => none) 0 (some call)) 0
      (some { call with point := .locking }) 0 =
        some ⟨key, none, .locking⟩ :=
    rfl
  exact ⟨_, opened.snoc (show Step digest _ 0 _ from .lock waiting rfl rfl),
    rfl, rfl⟩

theorem exists_returned (digest : Digest) (key : String)
    (bytes temporary : Drawn) :
    ∃ store, Runs (Step digest) (.fresh fun _ => none) store ∧
      store.calls 0 =
        some ⟨key, none, .returned (.ok (randomSecret bytes))⟩ := by
  have apart : digest.filename key ≠ temporaryName temporary :=
    filename_ne_temporaryName key temporary
  have nothing : lockFile (digest.filename key) = none :=
    Function.update_of_ne (filename_ne_lock key) _ _
  have free : lockFile (temporaryName temporary) = none :=
    Function.update_of_ne (temporaryName_ne_lock temporary) _ _
  have choosing : Reached digest key lockFile .choosing := by
    have reading : Reached digest key lockFile .reading := reached_reading key
    have read := reading.acts .read
    rwa [nothing] at read
  have full : 0 < (randomSecret bytes).toByteArray.size := by
    rw [size_randomSecret]
    decide
  have written := ((choosing.acts (.draw rfl)).acts
    (.create free)).acts (.write full (Nat.le_refl _))
  have renamed := ((written.acts (.written rfl)).acts .sync).acts .rename
  obtain ⟨store, run, _, known⟩ := renamed.acts .syncDirectory
  exact ⟨_, run.snoc (.release known rfl), rfl⟩

theorem stored_credentials_of_web :
    ∃ store call, store.calls 0 = some call ∧
      call.point = .returned (.ok (randomSecret fun _ => 0)) ∧
      Stable webDigest noClients (fun _ => none) store store := by
  obtain ⟨store, run, known⟩ :=
    exists_returned webDigest "client/web" (fun _ => 0) fun _ => 1
  exact ⟨store, _, known, rfl,
    stored_credentials_of_runs webDigest noClients _ run (.refl store)⟩

end SecretStorage

end Vzctl
