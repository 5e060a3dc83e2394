import Mathlib.Logic.Function.Basic
import Vzctl.Lib.Texts
import Vzctl.Lib.Transition

/-!
# Secret storage

`FileSecretStore`: one private directory with a file for each secret, which
any number of processes read or create under the lock on `.lock`.  One step is
one file operation; any of them may fail, and a process may crash before any
of them.  Random bytes are inputs of the steps that draw them.
-/

namespace Vzctl

namespace SecretStorage

open Texts

/-! ## Files -/

/-- A directory entry.  `isPrivate` says that it is a regular file of the
effective user, without rights for others and with one link. -/
structure Entry where
  isPrivate : Bool
  bytes : ByteArray

abbrev Files := String → Option Entry

def privateFile (bytes : ByteArray) : Entry := ⟨true, bytes⟩

def maxSecretBytes : Nat := 1024 * 1024

/-- What `PrivateDirectory::read` finds, unless it fails before. -/
def readPrivate (entry : Option Entry) : Except Unit (Option ByteArray) :=
  match entry with
  | none => .ok none
  | some entry =>
      if entry.isPrivate = true ∧ entry.bytes.size ≤ maxSecretBytes then
        .ok (some entry.bytes)
      else .error ()

/-! ## Secrets -/

/-- The bytes that are drawn for a secret. -/
abbrev Drawn := Fin 32 → UInt8

/-- `random_secret`. -/
def randomSecret (bytes : Drawn) : String := hexadecimal (List.ofFn bytes)

def temporaryName (bytes : Drawn) : String := ".new-" ++ randomSecret bytes

/-- The secret of a file that was found. -/
def secretOf (bytes : ByteArray) : Except Unit String :=
  match String.fromUTF8? bytes with
  | none => .error ()
  | some secret => if blank secret then .error () else .ok secret

/-- What a call finds under the name of its secret. -/
def storedSecret (entry : Option Entry) : Except Unit (Option String) :=
  match readPrivate entry with
  | .error failure => .error failure
  | .ok none => .ok none
  | .ok (some bytes) => (secretOf bytes).map some

/-- SHA-256 in hexadecimal, without collisions. -/
structure Digest where
  hex : String → String
  injective : Function.Injective hex
  plain : ∀ key, (hex key).toList.head?.any Char.isAlphanum = true

def Digest.filename (digest : Digest) (key : String) : String :=
  digest.hex key ++ ".secret"

/-! ## Calls -/

/-- Where a call stands; it holds the lock from `reading` to `releasing`. -/
inductive Point where
  | opening
  | locking
  | reading
  | choosing
  | creating (secret : String)
  | writing (temporary : Drawn) (secret : String) (written : Nat)
  | syncing (temporary : Drawn) (secret : String)
  | renaming (temporary : Drawn) (secret : String)
  | syncingDirectory (temporary : Drawn) (secret : String)
  | removing (temporary : Drawn)
  | releasing (result : Except Unit String)
  | returned (result : Except Unit String)
  | crashed

def Point.holdsLock : Point → Bool
  | opening => false
  | locking => false
  | returned _ => false
  | crashed => false
  | _ => true

/-- A call of `get_or_import`; `get_or_create` imports nothing. -/
structure Call where
  key : String
  existing : Option String
  point : Point

structure Store where
  files : Files
  holder : Option Nat
  calls : Nat → Option Call

/-- A directory that no call has used yet. -/
def Store.fresh (files : Files) : Store := ⟨files, none, fun _ => none⟩

/-! ## Steps -/

/-- Steps of a call without the lock: `.lock` is opened, or created; opening
or locking it may fail. -/
inductive Prepares : Files → Point → Files → Point → Prop
  | openLock {files : Files} {entry : Entry} :
      files ".lock" = some entry → entry.isPrivate = true →
      Prepares files .opening files .locking
  | createLock {files : Files} {entry : Entry} :
      files ".lock" = none →
      Prepares files .opening
        (Function.update files ".lock" (some entry)) .locking
  | openFails {files : Files} :
      Prepares files .opening files (.returned (.error ()))
  | lockFails {files : Files} :
      Prepares files .locking files (.returned (.error ()))

/-- The point of a call after it has read the file of its secret. -/
def afterRead (entry : Option Entry) : Point :=
  match storedSecret entry with
  | .error failure => .releasing (.error failure)
  | .ok (some secret) => .releasing (.ok secret)
  | .ok none => .choosing

/-- Steps of a call with the lock, for the file of its secret and the value it
imports. -/
inductive Acts (filename : String) (existing : Option String) :
    Files → Point → Files → Point → Prop
  | read {files : Files} :
      Acts filename existing files .reading files
        (afterRead (files filename))
  | readFails {files : Files} :
      Acts filename existing files .reading files (.releasing (.error ()))
  | import {files : Files} {secret : String} :
      existing = some secret → blank secret = false →
      Acts filename existing files .choosing files (.creating secret)
  | refuse {files : Files} {secret : String} :
      existing = some secret → blank secret = true →
      Acts filename existing files .choosing files (.releasing (.error ()))
  | draw {files : Files} {bytes : Drawn} :
      existing = none →
      Acts filename existing files .choosing files
        (.creating (randomSecret bytes))
  | drawFails {files : Files} :
      existing = none →
      Acts filename existing files .choosing files (.releasing (.error ()))
  | create {files : Files} {secret : String} {temporary : Drawn} :
      files (temporaryName temporary) = none →
      Acts filename existing files (.creating secret)
        (Function.update files (temporaryName temporary)
          (some (privateFile ByteArray.empty)))
        (.writing temporary secret 0)
  | createFails {files : Files} {secret : String} :
      Acts filename existing files (.creating secret) files
        (.releasing (.error ()))
  | createUnsafe {files : Files} {secret : String} {temporary : Drawn}
      {entry : Entry} :
      files (temporaryName temporary) = none →
      Acts filename existing files (.creating secret)
        (Function.update files (temporaryName temporary) (some entry))
        (.releasing (.error ()))
  | write {files : Files} {secret : String} {temporary : Drawn}
      {written next : Nat} :
      written < next → next ≤ secret.toByteArray.size →
      Acts filename existing files (.writing temporary secret written)
        (Function.update files (temporaryName temporary)
          (some (privateFile (secret.toByteArray.extract 0 next))))
        (.writing temporary secret next)
  | written {files : Files} {secret : String} {temporary : Drawn}
      {written : Nat} :
      written = secret.toByteArray.size →
      Acts filename existing files (.writing temporary secret written) files
        (.syncing temporary secret)
  | writeFails {files : Files} {secret : String} {temporary : Drawn}
      {written : Nat} :
      Acts filename existing files (.writing temporary secret written) files
        (.removing temporary)
  | sync {files : Files} {secret : String} {temporary : Drawn} :
      Acts filename existing files (.syncing temporary secret) files
        (.renaming temporary secret)
  | syncFails {files : Files} {secret : String} {temporary : Drawn} :
      Acts filename existing files (.syncing temporary secret) files
        (.removing temporary)
  | rename {files : Files} {secret : String} {temporary : Drawn} :
      Acts filename existing files (.renaming temporary secret)
        (Function.update
          (Function.update files filename (files (temporaryName temporary)))
          (temporaryName temporary) none)
        (.syncingDirectory temporary secret)
  | renameFails {files : Files} {secret : String} {temporary : Drawn} :
      Acts filename existing files (.renaming temporary secret) files
        (.removing temporary)
  | syncDirectory {files : Files} {secret : String} {temporary : Drawn} :
      Acts filename existing files (.syncingDirectory temporary secret) files
        (.releasing (.ok secret))
  | syncDirectoryFails {files : Files} {secret : String}
      {temporary : Drawn} :
      Acts filename existing files (.syncingDirectory temporary secret) files
        (.removing temporary)
  | remove {files : Files} {temporary : Drawn} :
      Acts filename existing files (.removing temporary)
        (Function.update files (temporaryName temporary) none)
        (.releasing (.error ()))
  | removeFails {files : Files} {temporary : Drawn} :
      Acts filename existing files (.removing temporary) files
        (.releasing (.error ()))

namespace Store

variable (store : Store)

/-- The call with a number gets to a point. -/
def moved (number : Nat) (call : Call) (point : Point) : Nat → Option Call :=
  Function.update store.calls number (some { call with point := point })

end Store

/-- One step of the call with a number. -/
inductive Step (digest : Digest) : Store → Nat → Store → Prop
  | begin {store : Store} {number : Nat} {key : String}
      {existing : Option String} :
      store.calls number = none →
      Step digest store number
        { store with
          calls := Function.update store.calls number
            (some ⟨key, existing, .opening⟩) }
  | prepare {store : Store} {number : Nat} {call : Call} {files : Files}
      {point : Point} :
      store.calls number = some call →
      Prepares store.files call.point files point →
      Step digest store number
        { store with
          files := files
          calls := store.moved number call point }
  | lock {store : Store} {number : Nat} {call : Call} :
      store.calls number = some call → call.point = .locking →
      store.holder = none →
      Step digest store number
        { store with
          holder := some number
          calls := store.moved number call .reading }
  | act {store : Store} {number : Nat} {call : Call} {files : Files}
      {point : Point} :
      store.calls number = some call →
      Acts (digest.filename call.key) call.existing store.files call.point
        files point →
      Step digest store number
        { store with
          files := files
          calls := store.moved number call point }
  | release {store : Store} {number : Nat} {call : Call}
      {result : Except Unit String} :
      store.calls number = some call → call.point = .releasing result →
      Step digest store number
        { store with
          holder := none
          calls := store.moved number call (.returned result) }
  | crash {store : Store} {number : Nat} {call : Call} :
      store.calls number = some call →
      (∀ result, call.point ≠ .returned result) →
      Step digest store number
        { store with
          holder :=
            if store.holder = some number then none else store.holder
          calls := store.moved number call .crashed }

end SecretStorage

end Vzctl
