import Mathlib.Data.Finset.Basic
import Mathlib.Data.List.AList
import Vzctl.Lib.Procedure
import Vzctl.Network.IPv4CIDR

/-!
# The reservations of vz-net

`NetRuntimeStore.swift`: the process that owns the native network references.
A reservation is a record together with a live native handle.
-/

namespace Vzctl

structure RuntimeNetwork where
  name : String
  cidr : String
  mode : String
  natEgress : Bool
  deriving DecidableEq, Repr

/-- `matches(cidr:mode:natEgress:)`. -/
def RuntimeNetwork.isSame (network : RuntimeNetwork)
    (cidr mode : String) (natEgress : Bool) : Bool :=
  network.cidr = cidr ∧ network.mode = mode ∧ network.natEgress = natEgress

inductive NetRuntimeError where
  | invalid (message : String)
  | conflict (message : String)
  | notFound (message : String)
  | runtime (message : String)
  deriving DecidableEq, Repr

namespace NetRuntimeError

def description : NetRuntimeError → String
  | .invalid message => message
  | .conflict message => message
  | .notFound message => message
  | .runtime message => message

end NetRuntimeError

structure NetRuntimeStore where
  records : AList fun _ : String => RuntimeNetwork
  handles : Finset String
  stopped : Bool

namespace NetRuntimeStore

/-- A store that has just started. -/
def fresh : NetRuntimeStore where
  records := ∅
  handles := ∅
  stopped := false

/-- The store holds the native reservation of a network. -/
def Reserves (store : NetRuntimeStore) (name : String) : Prop :=
  name ∈ store.records ∧ name ∈ store.handles

instance (store : NetRuntimeStore) (name : String) :
    Decidable (store.Reserves name) :=
  inferInstanceAs (Decidable (_ ∧ _))

def requireRunning : Procedure NetRuntimeStore NetRuntimeError Unit :=
  .reading fun store =>
    if store.stopped then
      .error (.runtime "vz-net is shutting down")
    else
      .ok ()

/-- `NativeVmnetRuntime.reserve`, which reports a text when it fails. -/
def reserveNative (failure : Option String) :
    Procedure NetRuntimeStore NetRuntimeError Unit :=
  match failure with
  | none => pure ⟨⟩
  | some message => .fail (.runtime message)

def acquire (nativeFailure : Option String)
    (name rawCIDR mode : String) (natEgress : Bool) :
    Procedure NetRuntimeStore NetRuntimeError RuntimeNetwork := do
  requireRunning
  let cidr ← Procedure.reading fun _ =>
    (IPv4CIDR.parse rawCIDR).mapError fun failure =>
      .invalid failure.description
  .require (mode = "shared")
    (.invalid "bridged mode is unsupported in v0.1; use --mode shared")
  let known ← Procedure.reading fun store => .ok (store.records.lookup name)
  match known with
  | some existing =>
      .require (existing.isSame cidr.canonical mode natEgress)
        (.conflict ("network " ++ name ++ " exists with different config"))
      .reading fun store =>
        if name ∈ store.handles then
          .ok existing
        else
          .error (.runtime
            ("network " ++ name ++ " is recorded but has no live handle"))
  | none =>
      let taken ← Procedure.reading fun store =>
        .ok (store.records.entries.find? fun entry =>
          entry.2.cidr = cidr.canonical)
      match taken with
      | some conflict =>
          .fail (.conflict ("CIDR already reserved: " ++ cidr.canonical ++
            " by " ++ conflict.2.name))
      | none =>
          reserveNative nativeFailure
          let record : RuntimeNetwork := {
            name := name
            cidr := cidr.canonical
            mode := mode
            natEgress := natEgress }
          .writing fun store => .ok {
            store with
            records := store.records.insert name record
            handles := insert name store.handles }
          return record

def release (name : String) :
    Procedure NetRuntimeStore NetRuntimeError RuntimeNetwork := do
  requireRunning
  let known ← Procedure.reading fun store => .ok (store.records.lookup name)
  match known with
  | none => .fail (.notFound ("network not found: " ++ name))
  | some record =>
      .writing fun store => .ok {
        store with
        records := store.records.erase name
        handles := store.handles.erase name }
      return record

/-! ## What a request does -/

/-- The store runs and has a handle for every record. -/
structure Live (store : NetRuntimeStore) : Prop where
  running : store.stopped = false
  handled : ∀ name, name ∈ store.records ↔ name ∈ store.handles

theorem live_fresh : fresh.Live where
  running := rfl
  handled := by simp [fresh]

section Requests

variable {store : NetRuntimeStore} {name : String}

theorem Live.not_mem_records (live : store.Live)
    (free : ¬ store.Reserves name) : name ∉ store.records := by
  intro recorded
  exact free ⟨recorded, (live.handled name).mp recorded⟩

/-- A network that is not reserved gets a reservation, unless the native one
fails; an error changes nothing. -/
theorem acquire_ends {nativeFailure : Option String}
    {rawCIDR mode : String} {natEgress : Bool}
    (live : store.Live) (free : ¬ store.Reserves name) :
    Procedure.Ends (acquire nativeFailure name rawCIDR mode natEgress)
      (fun _ reached => nativeFailure = none ∧ reached.Live ∧
        ∀ other, reached.Reserves other ↔
          other = name ∨ store.Reserves other)
      (fun _ reached => reached = store) store := by
  have unknown : store.records.lookup name = none :=
    AList.lookup_eq_none.mpr (live.not_mem_records free)
  refine Procedure.Ends.of_reading_bind (fun _ => rfl) ?_
  intro _ _
  refine Procedure.Ends.of_reading_bind (fun _ => rfl) ?_
  intro cidr _
  refine Procedure.Ends.of_require_bind rfl ?_
  intro _
  refine Procedure.Ends.of_reading_bind (fun _ => rfl) ?_
  intro known found
  rw [unknown] at found
  cases found
  refine Procedure.Ends.of_reading_bind (fun _ => rfl) ?_
  intro taken _
  cases taken with
  | some conflict => exact Procedure.Ends.of_fail rfl
  | none =>
      apply Procedure.Ends.of_bind
      cases nativeFailure with
      | some message => exact Procedure.Ends.of_fail rfl
      | none =>
          apply Procedure.Ends.of_pure
          apply Procedure.Ends.of_bind
          apply Procedure.Ends.of_writing
          · intro changed done
            cases done
            apply Procedure.Ends.of_pure
            refine ⟨rfl, ⟨live.running, ?_⟩, ?_⟩
            · intro other
              simp [AList.mem_insert, live.handled other]
            · intro other
              simp only [Reserves, AList.mem_insert, Finset.mem_insert]
              tauto
          · intro failure refused
            cases refused

theorem release_ends (live : store.Live) (reserved : store.Reserves name) :
    Procedure.Ends (release name)
      (fun _ reached => reached.Live ∧
        ∀ other, reached.Reserves other ↔
          other ≠ name ∧ store.Reserves other)
      (fun _ _ => False) store := by
  apply Procedure.Ends.of_bind
  apply Procedure.Ends.of_reading
  · intro _ _
    apply Procedure.Ends.of_bind
    apply Procedure.Ends.of_reading
    · intro known found
      cases known with
      | none =>
          have missing := AList.lookup_eq_none.mp (Except.ok.inj found)
          exact absurd reserved.1 missing
      | some record =>
          apply Procedure.Ends.of_bind
          apply Procedure.Ends.of_writing
          · intro changed done
            cases done
            apply Procedure.Ends.of_pure
            refine ⟨⟨live.running, ?_⟩, ?_⟩
            · intro other
              simp [AList.mem_erase, live.handled other]
            · intro other
              simp only [Reserves, AList.mem_erase, Finset.mem_erase]
              tauto
          · intro failure refused
            cases refused
    · intro failure missed
      cases missed
  · intro failure stopping
    rw [live.running] at stopping
    cases stopping

end Requests

end NetRuntimeStore

end Vzctl
