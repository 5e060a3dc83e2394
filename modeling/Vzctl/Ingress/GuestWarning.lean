import Vzctl.Ingress.ServedIngress
import Vzctl.Json

/-!
# The guest ingress warning

The ingress part of `EdgeServer.reconcile`: what a call leaves in
`ingressGuestWarning`, what `status` reports until the next call, and when the
supervisor repairs the listeners.
-/

namespace Vzctl

namespace Ingress

open Outcome

/-! ## Source -/

/-- The part of the desired state that the listeners depend on. -/
structure Desired where
  activeCIDRs : List String
  intents : List IngressIntent

structure EdgeServer where
  generation : Int
  digest : String
  desired : Desired
  ingressGuestWarning : Option String
  listeners : Dictionary Binding
  cachedBindings : List Binding

/-- `apply` up to the port forwards. -/
def started (host : Host) (desired : Desired) : Except String Collected := do
  let collected ←
    desired.intents.foldlM (collect host desired.activeCIDRs) .start
  host.prepares
  host.starts (children collected.intents)
  .ok collected

/-- A call, what the host does during `apply` and, should that or the manifest
fail, during `apply` of the state before. -/
structure ReconcileCall where
  generation : Int
  digest : String
  desired : Desired
  host : Host
  persists : Except String Unit
  again : Host

namespace EdgeServer

def apply (host : Host) (desired : Desired) (server : EdgeServer) :
    Except String Unit × EdgeServer :=
  match started host desired with
  | .error failure => (.error failure, server)
  | .ok collected =>
      let bindings := uniqueBindings collected.bindings
      let ensured := ensureWithProbe host bindings server.listeners
      let opened := { server with
        listeners := ensured.2, cachedBindings := bindings }
      match guestWarning collected bindings ensured.1 with
      | .error failure => (.error failure, opened)
      | .ok warning =>
          (host.finishes, { opened with ingressGuestWarning := warning })

/-- `applied` is the state that the failed attempt has left. -/
def recover (server : EdgeServer) (call : ReconcileCall) (failure : String)
    (applied : EdgeServer) : Except String Unit × EdgeServer :=
  if 0 < server.generation then
    (.error failure, (applied.apply call.again server.desired).2)
  else (.error failure, applied)

def reconcile (server : EdgeServer) (call : ReconcileCall) :
    Except String Unit × EdgeServer :=
  if call.generation < server.generation then
    (.error ("stale edge generation " ++ toString call.generation), server)
  else if call.generation = server.generation then
    if call.digest = server.digest then (.ok ⟨⟩, server)
    else (.error "edge generation digest conflict", server)
  else if call.digest = "" then (.error "digest is required", server)
  else
    match server.apply call.host call.desired with
    | (.error failure, applied) => server.recover call failure applied
    | (.ok _, applied) =>
        match call.persists with
        | .error failure => server.recover call failure applied
        | .ok _ =>
            (.ok ⟨⟩, { applied with
              generation := call.generation
              digest := call.digest
              desired := call.desired
              ingressGuestWarning := none })

/-- `repairLoopbackIfNeeded`, once every 30 seconds. -/
def repairLoopback (server : EdgeServer)
    (repair : Bool × (Binding → Option String)) : EdgeServer :=
  if server.cachedBindings = [] ∨ repair.1 = true then server
  else
    { server with
      listeners := (ensure repair.2 true server.cachedBindings
        server.listeners).2 }

def repaired (server : EdgeServer)
    (repairs : List (Bool × (Binding → Option String))) : EdgeServer :=
  repairs.foldl repairLoopback server

def loopbackHealthy (server : EdgeServer) (reachable : Bool) : Bool :=
  server.cachedBindings.isEmpty || reachable

/-- The fields of `status` that the listeners decide. -/
def status (server : EdgeServer) (reachable : Bool) : JSONValue :=
  .object [
    ("digest", .string server.digest),
    ("generation", .number server.generation),
    ("ingress_bindings", .number server.listeners.keys.length),
    ("ingress_guest_warning",
      match server.ingressGuestWarning with
      | some warning => .string warning
      | none => .null),
    ("ingress_loopback_ok", .bool (server.loopbackHealthy reachable))]

end EdgeServer

def isNull : JSONValue → Bool
  | .null => true
  | _ => false

def isFalse : JSONValue → Bool
  | .bool false => true
  | _ => false

/-- Whether the supervisor reconciles on this report.  `elapsed` are the
seconds since it did last. -/
def maybeRepairIngressFromEdgeHealth (health : JSONValue) (elapsed : Rat) :
    Bool :=
  match health with
  | .object values =>
      let loopbackBroken :=
        ((values.lookup "ingress_loopback_ok").map isFalse).getD false
      let guestWarning :=
        ((values.lookup "ingress_guest_warning").map (!isNull ·)).getD false
      (loopbackBroken || guestWarning) && decide (60 ≤ elapsed)
  | _ => false

/-! ## What should be visible -/

def reportsWarning : JSONValue → Bool
  | .object values =>
      ((values.lookup "ingress_guest_warning").map (!isNull ·)).getD false
  | _ => false

def Desired.bindings (desired : Desired) : List Binding :=
  uniqueBindings (gatewayBindings desired.intents)

def Binding.guest (binding : Binding) : Bool := !isLoopback binding.gatewayIP

namespace EdgeServer

variable (server : EdgeServer) (call : ReconcileCall)

/-- The listeners after the retries of the call. -/
def ensured : EnsureResult × Dictionary Binding :=
  ensureWithProbe call.host call.desired.bindings server.listeners

/-- The guest bindings that the call skips.  A repeated call opens nothing. -/
def skippedBy : List Binding :=
  if server.generation < call.generation then
    ((server.ensured call).1.skipped.map Prod.fst).filter Binding.guest
  else []

/-- The report and the trigger tell of skipped bindings, whatever the watchdog
does in between. -/
structure Visible (skipped : List Binding) (served : EdgeServer) : Prop where
  reported : ∀ repairs reachable,
    reportsWarning ((served.repaired repairs).status reachable) =
      true ↔ skipped ≠ []
  fires : ∀ repairs reachable elapsed, 60 ≤ elapsed →
    (served.repaired repairs).loopbackHealthy reachable = true →
    (maybeRepairIngressFromEdgeHealth
      ((served.repaired repairs).status reachable) elapsed =
        true ↔ skipped ≠ [])

/-- The call is new, and nothing fails before the listeners are opened. -/
def Reaches : Prop :=
  server.generation < call.generation ∧ call.digest ≠ "" ∧
    ∃ collected, started call.host call.desired = .ok collected

def LoopbackActive : Prop :=
  ∀ binding ∈ call.desired.bindings, binding.guest = false →
    binding ∈ (server.ensured call).1.active

/-- The call fails, where a gateway that a project asks for has no listener on
the ports of the last project. -/
def FailsForOthers : Prop :=
  (∃ failure, (server.reconcile call).1 = .error failure) ∧
    ∃ intent ∈ call.desired.intents, ∃ gateway ∈ intent.gateways,
      isLoopback gateway = true ∧
        ∃ last, call.desired.intents.getLast? = some last ∧
          ∃ front, (checkLoopback (server.ensured call).1
            (addressKey gateway (last.port front)) : Except String Unit) ≠
              .ok ⟨⟩

end EdgeServer

/-! ## The conditions -/

/-- The attempt after which `ensureWithProbe` stops. -/
def lastAttempt (host : Host) (attempt : Nat) : Nat → Nat
  | 0 => attempt
  | retries + 1 =>
      if host.reachable attempt then attempt
      else lastAttempt host (attempt + 1) retries

/-- The last attempt finds the binding open or opens it. -/
def Opens (host : Host) (listeners : Dictionary Binding)
    (binding : Binding) : Prop :=
  (lastAttempt host 0 2 = 0 ∧
      listeners.lookup binding.key = some binding) ∨
    host.opens (lastAttempt host 0 2) binding = none

/-- A new call opens every guest binding, and a repeated one finds no warning
of an earlier start. -/
def EdgeServer.GuestsOpen (server : EdgeServer) (call : ReconcileCall) :
    Prop :=
  if server.generation < call.generation then
    ∀ binding ∈ call.desired.bindings, binding.guest = true →
      Opens call.host server.listeners binding
  else server.ingressGuestWarning = none

/-- Each loopback gateway has bindings on the two ports of the last
project. -/
def Desired.OnePairOfPorts (desired : Desired) : Prop :=
  ∀ intent ∈ desired.intents, ∀ gateway ∈ intent.gateways,
    isLoopback gateway = true →
      ∀ last, desired.intents.getLast? = some last → ∀ front,
        ∃ other ∈ desired.intents, gateway ∈ other.gateways ∧
          ∃ otherFront, other.port otherFront = last.port front

/-! ## Skipped bindings -/

section Skipped

variable (opens : Binding → Option String) (forceReopen : Bool)

def isSkipped (skipped : List (Binding × String)) (binding : Binding) :
    Prop :=
  ∃ failure, (binding, failure) ∈ skipped

theorem isSkipped_ensureOne (state : Ensuring) (binding other : Binding) :
    isSkipped (ensureOne opens forceReopen state binding).skipped other ↔
      isSkipped state.skipped other ∨ other = binding ∧
        ¬ (forceReopen = false ∧
          state.listeners.lookup binding.key = some binding) ∧
        opens binding ≠ none := by
  by_cases held : forceReopen = false ∧
      state.listeners.lookup binding.key = some binding
  · rw [ensureOne, if_pos held]
    simp [held]
  · rw [ensureOne, if_neg held]
    cases opened : opens binding with
    | none => simp
    | some failure =>
        simp only [isSkipped, List.mem_append, List.mem_singleton,
          Prod.mk.injEq, held, not_false_eq_true, ne_eq, reduceCtorEq,
          and_true, exists_or]
        constructor
        · intro skipped
          rcases skipped with early | late
          · exact .inl early
          · obtain ⟨_, same, _⟩ := late
            exact .inr same
        · intro skipped
          rcases skipped with early | late
          · exact .inl early
          · exact .inr ⟨failure, late, rfl⟩

theorem isSkipped_foldl {desired : List Binding}
    (apart : (desired.map Binding.key).Nodup) (state : Ensuring)
    (binding : Binding) :
    isSkipped (desired.foldl (ensureOne opens forceReopen) state).skipped
        binding ↔
      isSkipped state.skipped binding ∨ binding ∈ desired ∧
        ¬ (forceReopen = false ∧
          state.listeners.lookup binding.key = some binding) ∧
        opens binding ≠ none := by
  induction desired generalizing state with
  | nil => simp
  | cons first rest ih =>
      rw [List.map_cons, List.nodup_cons] at apart
      obtain ⟨_, same, _⟩ := settled_ensureOne opens forceReopen state first
      rw [List.foldl_cons, ih apart.2, isSkipped_ensureOne,
        List.mem_cons]
      by_cases here : binding = first
      · have gone : binding ∉ rest := by
          intro member
          rw [here] at member
          exact apart.1 (List.mem_map_of_mem member)
        rw [here] at gone ⊢
        simp [gone]
      · by_cases later : binding ∈ rest
        · have different : binding.key ≠ first.key := by
            intro clash
            apply apart.1
            rw [← clash]
            exact List.mem_map_of_mem later
          rw [same binding.key different]
          simp [here]
        · simp [here, later]

theorem isSkipped_ensure {desired : List Binding}
    (apart : (desired.map Binding.key).Nodup)
    (listeners : Dictionary Binding) (binding : Binding) :
    isSkipped (ensure opens forceReopen desired listeners).1.skipped binding ↔
      binding ∈ desired ∧
        ¬ (forceReopen = false ∧
          listeners.lookup binding.key = some binding) ∧
        opens binding ≠ none := by
  have sorted : isSkipped
      (ensure opens forceReopen desired listeners).1.skipped binding ↔
        isSkipped (desired.foldl (ensureOne opens forceReopen) ⟨[], [],
          listeners.mapValues fun key held =>
            if key ∈ desired.map Binding.key then some held else none⟩).skipped
          binding := by
    simp only [isSkipped, ensure, SortedBy.mem_sortedBy]
  rw [sorted, isSkipped_foldl opens forceReopen apart]
  by_cases member : binding ∈ desired
  · have kept : ((listeners.mapValues fun key held =>
        if key ∈ desired.map Binding.key then some held
        else none).lookup binding.key) = listeners.lookup binding.key := by
      rw [Dictionary.lookup_mapValues]
      cases listeners.lookup binding.key with
      | none => rfl
      | some held =>
          exact if_pos (List.mem_map_of_mem member)
    rw [kept]
    simp [isSkipped]
  · simp [isSkipped, member]

end Skipped

/-! ## The last attempt -/

section LastAttempt

variable (host : Host) {desired : List Binding}

theorem le_lastAttempt (attempt retries : Nat) :
    attempt ≤ lastAttempt host attempt retries := by
  induction retries generalizing attempt with
  | zero => simp [lastAttempt]
  | succ retries ih =>
      have later := ih (attempt + 1)
      rw [lastAttempt]
      split
      · exact Nat.le_refl attempt
      · omega

theorem isSkipped_retryEnsure (apart : (desired.map Binding.key).Nodup)
    (attempt retries : Nat) (state : EnsureResult × Dictionary Binding)
    (binding : Binding) :
    isSkipped (retryEnsure host desired attempt retries state).1.skipped
        binding ↔
      if lastAttempt host attempt retries = attempt then
        isSkipped state.1.skipped binding
      else binding ∈ desired ∧
        host.opens (lastAttempt host attempt retries) binding ≠ none := by
  induction retries generalizing attempt state with
  | zero => simp [retryEnsure, lastAttempt]
  | succ retries ih =>
      by_cases reached : host.reachable attempt = true
      · simp [retryEnsure, lastAttempt, reached]
      · have more := le_lastAttempt host (attempt + 1) retries
        have different : lastAttempt host (attempt + 1) retries ≠ attempt := by
          omega
        rw [retryEnsure, if_neg reached, ih, lastAttempt,
          if_neg reached, if_neg different,
          isSkipped_ensure (host.opens (attempt + 1)) true apart]
        split
        · rename_i same
          rw [same]
          simp
        · rfl

theorem isSkipped_ensureWithProbe (apart : (desired.map Binding.key).Nodup)
    (listeners : Dictionary Binding) (binding : Binding) :
    isSkipped (ensureWithProbe host desired listeners).1.skipped binding ↔
      binding ∈ desired ∧ ¬ Opens host listeners binding := by
  rw [ensureWithProbe, isSkipped_retryEnsure host apart,
    isSkipped_ensure (host.opens 0) false apart, Opens, not_or]
  split
  · rename_i first
    rw [first]
    simp
  · rename_i later
    simp [later]

end LastAttempt

namespace EdgeServer

variable {server : EdgeServer} {call : ReconcileCall}

theorem skippedBy_eq_nil_iff :
    server.skippedBy call = [] ↔
      (server.generation < call.generation →
        ∀ binding ∈ call.desired.bindings, binding.guest = true →
          Opens call.host server.listeners binding) := by
  by_cases new : server.generation < call.generation
  · have skipped_iff := isSkipped_ensureWithProbe call.host
      (nodup_uniqueBindings (gatewayBindings call.desired.intents))
      server.listeners
    rw [skippedBy, if_pos new, List.filter_eq_nil_iff]
    constructor
    · intro none _ binding member guest
      by_contra closed
      obtain ⟨failure, skipped⟩ := (skipped_iff binding).mpr ⟨member, closed⟩
      exact none binding (List.mem_map.mpr ⟨_, skipped, rfl⟩) guest
    · intro opened binding member guest
      obtain ⟨skip, skipped, same⟩ := List.mem_map.mp member
      have closed := (skipped_iff binding).mp ⟨skip.2, by rwa [← same]⟩
      exact closed.2 (opened new binding closed.1 guest)
  · rw [skippedBy, if_neg new]
    simp [new]

/-! ## Reports -/

theorem warning_repaired
    (repairs : List (Bool × (Binding → Option String))) :
    (server.repaired repairs).ingressGuestWarning =
      server.ingressGuestWarning := by
  rw [repaired]
  induction repairs generalizing server with
  | nil => rfl
  | cons repair rest ih =>
      rw [List.foldl_cons, ih, repairLoopback]
      split
      · rfl
      · rfl

theorem reportsWarning_status (reachable : Bool) :
    reportsWarning (server.status reachable) = true ↔
      server.ingressGuestWarning ≠ none := by
  cases warning : server.ingressGuestWarning with
  | none => simp [reportsWarning, status, warning, List.lookup_cons, isNull]
  | some text => simp [reportsWarning, status, warning, List.lookup_cons, isNull]

theorem maybeRepair_status (reachable : Bool) {elapsed : Rat}
    (late : 60 ≤ elapsed)
    (healthy : server.loopbackHealthy reachable = true) :
    maybeRepairIngressFromEdgeHealth (server.status reachable) elapsed =
        true ↔
      server.ingressGuestWarning ≠ none := by
  cases warning : server.ingressGuestWarning with
  | none =>
      simp [maybeRepairIngressFromEdgeHealth, status, warning, List.lookup_cons,
        isNull, isFalse, healthy]
  | some text =>
      simp [maybeRepairIngressFromEdgeHealth, status, warning, List.lookup_cons,
        isNull, late]

theorem visible_iff {skipped : List Binding} {served : EdgeServer} :
    Visible skipped served ↔
      (served.ingressGuestWarning ≠ none ↔ skipped ≠ []) := by
  constructor
  · intro visible
    have here := visible.reported [] true
    rwa [reportsWarning_status, warning_repaired] at here
  · intro same
    constructor
    · intro repairs reachable
      rw [reportsWarning_status, warning_repaired, same]
    · intro repairs reachable elapsed late healthy
      rw [maybeRepair_status reachable late healthy, warning_repaired, same]

theorem warning_of_reconcile {served : EdgeServer}
    (performed : server.reconcile call = (.ok ⟨⟩, served)) :
    served.ingressGuestWarning =
      if server.generation < call.generation then none
      else server.ingressGuestWarning := by
  rw [reconcile] at performed
  split at performed
  · cases performed
  · rename_i notOld
    split at performed
    · rename_i repeated
      split at performed
      · obtain ⟨_, same⟩ := Prod.mk.inj performed
        rw [if_neg (by omega), same]
      · cases performed
    · rename_i different
      rw [if_pos (by omega)]
      split at performed
      · cases performed
      · have failed : ∀ failure applied,
            server.recover call failure applied ≠ (.ok ⟨⟩, served) := by
          intro failure applied impossible
          rw [recover] at impossible
          split at impossible
          · cases impossible
          · cases impossible
        split at performed
        · exact absurd performed (failed _ _)
        · split at performed
          · exact absurd performed (failed _ _)
          · obtain ⟨_, same⟩ := Prod.mk.inj performed
            rw [← same]

theorem visible_iff_guestsOpen {served : EdgeServer}
    (performed : server.reconcile call = (.ok ⟨⟩, served)) :
    Visible (server.skippedBy call) served ↔ server.GuestsOpen call := by
  rw [visible_iff, warning_of_reconcile performed, GuestsOpen]
  by_cases new : server.generation < call.generation
  · rw [if_pos new, if_pos new, Ne, Ne, skippedBy_eq_nil_iff]
    simp [new]
  · rw [if_neg new, if_neg new]
    simp [skippedBy, new]

/-! ## Loopback checks -/

theorem checkLoopback_eq_ok_iff {result : EnsureResult} {key : String} :
    (checkLoopback result key : Except String Unit) = .ok ⟨⟩ ↔
      (∀ skip ∈ result.skipped, skip.1.key ≠ key) ∧
        ∃ binding ∈ result.active, binding.key = key := by
  rw [checkLoopback]
  split
  · rename_i failure found
    have tested := List.find?_some found
    have same : failure.1.key = key := of_decide_eq_true tested
    have member := List.mem_of_find?_eq_some found
    constructor
    · intro impossible
      cases impossible
    · intro parts
      exact absurd same (parts.1 failure member)
  · rename_i absent
    have others : ∀ skip ∈ result.skipped, skip.1.key ≠ key := by
      intro skip member same
      exact List.find?_eq_none.mp absent skip member (decide_eq_true same)
    split
    · rename_i listed
      obtain ⟨binding, member, same⟩ := List.any_eq_true.mp listed
      exact iff_of_true rfl
        ⟨others, binding, member, of_decide_eq_true same⟩
    · rename_i missing
      constructor
      · intro impossible
        cases impossible
      · intro parts
        obtain ⟨_, binding, member, same⟩ := parts
        exact absurd (List.any_eq_true.mpr
          ⟨binding, member, decide_eq_true same⟩) missing

theorem mem_bindings {desired : Desired} {binding : Binding}
    (member : binding ∈ desired.bindings) :
    binding ∈ gatewayBindings desired.intents := by
  have kept : ofKey binding.key desired.bindings = some binding := by
    obtain ⟨found, same⟩ := Option.isSome_iff_exists.mp
      (ofKey_isSome_iff.mpr (List.mem_map.mpr ⟨binding, member, rfl⟩))
    obtain ⟨inside, sameKey⟩ := of_ofKey same
    have one : found = binding := List.inj_on_of_nodup_map
      (nodup_uniqueBindings (gatewayBindings desired.intents)) inside member
      sameKey
    rw [same, one]
  rw [Desired.bindings, ofKey_uniqueBindings] at kept
  exact (of_ofKey kept).1

theorem exists_of_mem_keys {desired : Desired} {key : String}
    (member : key ∈ (gatewayBindings desired.intents).map Binding.key) :
    ∃ binding ∈ desired.bindings, binding.key = key := by
  obtain ⟨binding, found⟩ :=
    Option.isSome_iff_exists.mp (ofKey_isSome_iff.mpr member)
  rw [← ofKey_uniqueBindings] at found
  exact ⟨binding, of_ofKey found⟩

/-- With all loopback listeners active, an address passes where it is the one
of a binding. -/
theorem checkLoopback_iff (active : server.LoopbackActive call)
    {gateway : String} (loops : isLoopback gateway = true) (port : UInt16) :
    (checkLoopback (server.ensured call).1 (addressKey gateway port) :
        Except String Unit) = .ok ⟨⟩ ↔
      ∃ other ∈ call.desired.intents, gateway ∈ other.gateways ∧
        ∃ front, other.port front = port := by
  have nodup := nodup_uniqueBindings (gatewayBindings call.desired.intents)
  have perm := perm_ensureWithProbe call.host call.desired.bindings
    server.listeners
  rw [checkLoopback_eq_ok_iff]
  constructor
  · intro passes
    obtain ⟨_, binding, listed, same⟩ := passes
    have member := mem_bindings
      (perm.subset (List.mem_append_left _ listed))
    obtain ⟨other, inside, named, asked, front, made⟩ :=
      exists_of_mem_gatewayBindings member
    rw [made, binding_key] at same
    obtain ⟨sameGateway, samePort⟩ := addressKey_injective same
    rw [← sameGateway]
    exact ⟨other, inside, asked, front, samePort⟩
  · intro wanted
    obtain ⟨other, inside, asked, front, samePort⟩ := wanted
    have keyed : addressKey gateway port ∈
        (gatewayBindings call.desired.intents).map Binding.key := by
      rw [← samePort, ← binding_key]
      exact List.mem_map_of_mem (mem_gatewayBindings inside asked front)
    obtain ⟨binding, member, same⟩ := exists_of_mem_keys keyed
    obtain ⟨sameGateway, _⟩ := addressKey_injective same
    have listed := active binding member (by
      rw [Binding.guest, sameGateway, loops]
      rfl)
    refine ⟨?_, binding, listed, same⟩
    intro skip skipped clash
    have skippedMember : skip.1 ∈ call.desired.bindings :=
      perm.subset (List.mem_append_right _
        (List.mem_map.mpr ⟨skip, skipped, rfl⟩))
    have one : skip.1 = binding := List.inj_on_of_nodup_map nodup
      skippedMember member (clash.trans same.symm)
    have unique := perm.nodup_iff.mpr (List.Nodup.of_map Binding.key nodup)
    have both : skip.1 ∈ (server.ensured call).1.skipped.map Prod.fst :=
      List.mem_map.mpr ⟨skip, skipped, rfl⟩
    rw [one] at both
    exact (List.nodup_append'.mp unique).2.2 listed both

theorem of_started {host : Host} {desired : Desired} {collected : Collected}
    (begun : started host desired = .ok collected) :
    collected.bindings = gatewayBindings desired.intents ∧
      (∀ intent ∈ desired.intents, ∀ gateway ∈ intent.gateways,
        isLoopback gateway = true →
          gateway ∈ collected.loopbackGateways) ∧
      ∀ last, desired.intents.getLast? = some last →
        collected.httpPort = last.port .http ∧
          collected.httpsPort = last.port .https := by
  rw [started] at begun
  obtain ⟨gathered, folded, begun⟩ := bind_eq_ok_iff.mp begun
  obtain ⟨_, _, begun⟩ := bind_eq_ok_iff.mp begun
  obtain ⟨_, _, same⟩ := bind_eq_ok_iff.mp begun
  rw [← Except.ok.inj same]
  obtain ⟨_, bindings, gateways, ports⟩ := of_foldlM_collect folded
  refine ⟨bindings, ?_, ports⟩
  intro intent inside gateway asked loops
  rw [gateways]
  exact List.mem_append_right _ (List.mem_flatMap.mpr
    ⟨intent, inside, List.mem_filter.mpr ⟨asked, loops⟩⟩)

theorem reconcile_fails (reaches : server.Reaches call)
    {intent : IngressIntent} (inside : intent ∈ call.desired.intents)
    {gateway : String} (asked : gateway ∈ intent.gateways)
    (loops : isLoopback gateway = true) {last : IngressIntent}
    (isLast : call.desired.intents.getLast? = some last) {front : Front}
    (failed : (checkLoopback (server.ensured call).1
      (addressKey gateway (last.port front)) : Except String Unit) ≠ .ok ⟨⟩) :
    ∃ failure, (server.reconcile call).1 = .error failure := by
  obtain ⟨new, named, collected, begun⟩ := reaches
  obtain ⟨bindings, gateways, ports⟩ := of_started begun
  have ensuredHere : ensureWithProbe call.host
      (uniqueBindings collected.bindings) server.listeners =
        server.ensured call := by
    rw [bindings]
    rfl
  have someBindings : uniqueBindings collected.bindings ≠ [] := by
    have keyed : (intent.binding gateway .http).key ∈
        (gatewayBindings call.desired.intents).map Binding.key :=
      List.mem_map_of_mem (mem_gatewayBindings inside asked .http)
    obtain ⟨binding, member, _⟩ := exists_of_mem_keys keyed
    rw [bindings]
    exact List.ne_nil_of_mem member
  have evaluated : ∃ failure, guestWarning collected
      (uniqueBindings collected.bindings) (server.ensured call).1 =
        .error failure := by
    rw [guestWarning, if_neg someBindings]
    cases checked : evaluateIngressGatewayEnsure (server.ensured call).1
        collected.loopbackGateways collected.httpPort
        collected.httpsPort with
    | error failure => exact ⟨failure, rfl⟩
    | ok warning =>
        rw [evaluateIngressGatewayEnsure, bind_eq_ok_iff] at checked
        obtain ⟨_, checks, _⟩ := checked
        refine absurd (forM_eq_ok_iff.mp checks _ ?_) failed
        refine List.mem_flatMap.mpr
          ⟨gateway, gateways intent inside gateway asked loops, ?_⟩
        apply List.mem_map_of_mem
        rw [(ports last isLast).1, (ports last isLast).2]
        cases front with
        | http => exact List.mem_cons_self
        | https => exact List.mem_cons_of_mem _ List.mem_cons_self
  obtain ⟨failure, evaluated⟩ := evaluated
  have applied : (server.apply call.host call.desired).1 =
      .error failure := by
    rw [apply, begun]
    simp only [ensuredHere, evaluated]
  refine ⟨failure, ?_⟩
  rw [reconcile, if_neg (by omega), if_neg (by omega), if_neg named]
  generalize server.apply call.host call.desired = outcome at applied
  obtain ⟨result, state⟩ := outcome
  rw [show result = .error failure from applied]
  change (server.recover call failure state).1 = _
  rw [recover]
  split
  · rfl
  · rfl

theorem failsForOthers_iff (reaches : server.Reaches call)
    (active : server.LoopbackActive call) :
    ¬ server.FailsForOthers call ↔ call.desired.OnePairOfPorts := by
  constructor
  · intro passes intent inside gateway asked loops last isLast front
    rw [← checkLoopback_iff active loops]
    by_contra failed
    exact passes ⟨reconcile_fails reaches inside asked loops isLast failed,
      intent, inside, gateway, asked, loops, last, isLast, front, failed⟩
  · intro pairs fails
    obtain ⟨_, intent, inside, gateway, asked, loops, last, isLast, front,
      failed⟩ := fails
    exact failed ((checkLoopback_iff active loops _).mpr
      (pairs intent inside gateway asked loops last isLast front))

/-- After a successful call a skipped guest listener is reported exactly where
there is none to report, and a call whose loopback listeners are active fails
for the ports of another project exactly where not all loopback gateways have
the ports of the last one. -/
theorem guest_warning_visible_iff (server : EdgeServer)
    (call : ReconcileCall) :
    (∀ served, server.reconcile call = (.ok ⟨⟩, served) →
        (Visible (server.skippedBy call) served ↔
          server.GuestsOpen call)) ∧
      (server.Reaches call → server.LoopbackActive call →
        (¬ server.FailsForOthers call ↔ call.desired.OnePairOfPorts)) :=
  ⟨fun _ performed => visible_iff_guestsOpen performed,
    failsForOthers_iff⟩

/-! ### A guest listener that does not open -/

/-- One project on a loopback address and on the gateway of its network. -/
def shop : IngressIntent where
  project := "shop"
  caddyfile := []
  binary := "/opt/vzctl/caddy"
  gateways := ["127.0.0.1", "192.168.64.1"]
  httpPort := none
  httpsPort := none
  backendHTTPPort := some 8080
  backendHTTPSPort := some 8443
  bindingCIDRs := []

def fresh : EdgeServer where
  generation := 0
  digest := ""
  desired := ⟨[], []⟩
  ingressGuestWarning := none
  listeners := ∅
  cachedBindings := []

def hostOpening (opens : Binding → Option String) : Host where
  writes _ := .ok "Caddyfile"
  prepares := .ok ⟨⟩
  starts _ := .ok ⟨⟩
  opens _ := opens
  reachable _ := true
  finishes := .ok ⟨⟩

def firstCall (opens : Binding → Option String) : ReconcileCall where
  generation := 1
  digest := "1"
  desired := ⟨[], [shop]⟩
  host := hostOpening opens
  persists := .ok ⟨⟩
  again := hostOpening opens

def refusesGuests (binding : Binding) : Option String :=
  if binding.guest then some "denied" else none

theorem reconcile_firstCall {opens : Binding → Option String}
    (succeeds : (fresh.reconcile (firstCall opens)).1.isOk = true) :
    fresh.reconcile (firstCall opens) =
      (.ok ⟨⟩, (fresh.reconcile (firstCall opens)).2) := by
  obtain ⟨result, performed⟩ := exists_of_isOk succeeds
  rw [← performed]

theorem refused_guest_unreported :
    ¬ ∀ (server : EdgeServer) (call : ReconcileCall) (served : EdgeServer),
        server.reconcile call = (.ok ⟨⟩, served) →
          Visible (server.skippedBy call) served := by
  intro reported
  have visible := reported _ _ _
    (@reconcile_firstCall refusesGuests (by rfl))
  have skipped : fresh.skippedBy (firstCall refusesGuests) ≠ [] := by
    decide
  have warned := (visible.reported [] true).mpr skipped
  rw [reportsWarning_status, warning_repaired, warning_of_reconcile
    (@reconcile_firstCall refusesGuests (by rfl))] at warned
  exact warned rfl

/-- Nothing is skipped, nothing is reported, and no check fails. -/
theorem guest_warning_visible_iff_opened :
    Visible (fresh.skippedBy (firstCall fun _ => none))
        (fresh.reconcile (firstCall fun _ => none)).2 ∧
      ¬ fresh.FailsForOthers (firstCall fun _ => none) := by
  obtain ⟨visible, fails⟩ :=
    guest_warning_visible_iff fresh (firstCall fun _ => none)
  constructor
  · refine (visible _ (@reconcile_firstCall (fun _ => none)
      (by rfl))).mpr ?_
    rw [GuestsOpen, if_pos (by decide)]
    intro binding _ _
    exact .inr rfl
  · refine (fails ⟨by decide, by decide, ?_⟩ ?_).mpr ?_
    · exact exists_of_isOk (by rfl)
    · have listed : ((firstCall fun _ => none).desired.bindings.all
          fun binding => binding.guest || decide (binding ∈
            (fresh.ensured (firstCall fun _ => none)).1.active)) = true := by
        rfl
      intro binding member looped
      have inside := List.all_eq_true.mp listed binding member
      rw [looped, Bool.false_or] at inside
      exact of_decide_eq_true inside
    · intro intent inside gateway asked loops last isLast front
      have isShop : last = shop := (Option.some.inj isLast).symm
      rw [List.mem_singleton.mp inside] at asked
      exact ⟨shop, List.mem_cons_self, asked, front, by rw [isShop]⟩

end EdgeServer

end Ingress

end Vzctl
