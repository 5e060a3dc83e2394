import Vzctl.Ingress.GatewayListeners

/-!
# Served ingress

Where the listener of each gateway address forwards to, and which Caddy child
runs the sites of a project.
-/

namespace Vzctl

namespace Ingress

open Outcome

/-! ## Addresses -/

theorem colon_not_mem_toDigits (value : Nat) :
    ':' ∉ Nat.toDigits 10 value := by
  intro member
  have digit := Nat.isDigit_of_mem_toDigits (by decide) (by decide) member
  cases digit

theorem append_separator_inj {separator : Char}
    {left right leftBack rightBack : List Char}
    (leftPlain : separator ∉ leftBack) (rightPlain : separator ∉ rightBack)
    (same : left ++ separator :: leftBack = right ++ separator :: rightBack) :
    left = right ∧ leftBack = rightBack := by
  rcases List.append_eq_append_iff.mp same with
    ⟨middle, rfl, shifted⟩ | ⟨middle, rfl, shifted⟩
  · cases middle with
    | nil =>
        rw [List.nil_append] at shifted
        exact ⟨(List.append_nil left).symm, (List.cons.inj shifted).2⟩
    | cons first rest =>
        rw [List.cons_append] at shifted
        exact absurd ((List.cons.inj shifted).2 ▸
          List.mem_append_right rest List.mem_cons_self) leftPlain
  · cases middle with
    | nil =>
        rw [List.nil_append] at shifted
        exact ⟨List.append_nil right, (List.cons.inj shifted).2.symm⟩
    | cons first rest =>
        rw [List.cons_append] at shifted
        exact absurd ((List.cons.inj shifted).2 ▸
          List.mem_append_right rest List.mem_cons_self) rightPlain

theorem addressKey_injective {left right : String} {port other : UInt16}
    (same : addressKey left port = addressKey right other) :
    left = right ∧ port = other := by
  have texts := congrArg String.toList same
  simp only [addressKey, String.toList_append, String.toList_ofList,
    List.append_assoc] at texts
  have parts := append_separator_inj (colon_not_mem_toDigits port.toNat)
    (colon_not_mem_toDigits other.toNat) texts
  exact ⟨String.toList_injective parts.1,
    UInt16.toNat_inj.mp (Decimal.toDigits_injective parts.2)⟩

/-! ## First bindings -/

def keepFirst (state : List String × List Binding) (binding : Binding) :
    List String × List Binding :=
  if binding.key ∈ state.1 then state
  else (binding.key :: state.1, state.2 ++ [binding])

def ofKey (key : String) (bindings : List Binding) : Option Binding :=
  bindings.find? fun binding => binding.key = key

theorem ofKey_isSome_iff {key : String} {bindings : List Binding} :
    (ofKey key bindings).isSome ↔ key ∈ bindings.map Binding.key := by
  rw [ofKey, List.find?_isSome]
  constructor
  · rintro ⟨binding, member, same⟩
    exact List.mem_map.mpr ⟨binding, member, of_decide_eq_true same⟩
  · intro member
    obtain ⟨binding, inside, same⟩ := List.mem_map.mp member
    exact ⟨binding, inside, decide_eq_true same⟩

theorem of_ofKey {key : String} {bindings : List Binding} {binding : Binding}
    (found : ofKey key bindings = some binding) :
    binding ∈ bindings ∧ binding.key = key := by
  rw [ofKey] at found
  have same := List.find?_some found
  exact ⟨List.mem_of_find?_eq_some found, of_decide_eq_true same⟩

theorem ofKey_append (key : String) (front back : List Binding) :
    ofKey key (front ++ back) = (ofKey key front).or (ofKey key back) :=
  List.find?_append

theorem foldl_keepFirst (bindings : List Binding)
    (state : List String × List Binding)
    (seen : ∀ key, key ∈ state.1 ↔ key ∈ state.2.map Binding.key)
    (apart : (state.2.map Binding.key).Nodup) :
    ((bindings.foldl keepFirst state).2.map Binding.key).Nodup ∧
      ∀ key, ofKey key (bindings.foldl keepFirst state).2 =
        ofKey key (state.2 ++ bindings) := by
  induction bindings generalizing state with
  | nil =>
      rw [List.foldl_nil, List.append_nil]
      exact ⟨apart, fun _ => rfl⟩
  | cons binding others ih =>
      rw [List.foldl_cons]
      by_cases known : binding.key ∈ state.1
      · have here : keepFirst state binding = state := if_pos known
        have later := ih state seen apart
        rw [here]
        refine ⟨later.1, fun key => ?_⟩
        rw [later.2, ofKey_append, ofKey_append]
        have first : (ofKey binding.key state.2).isSome :=
          ofKey_isSome_iff.mpr ((seen _).mp known)
        by_cases same : binding.key = key
        · obtain ⟨held, found⟩ := Option.isSome_iff_exists.mp first
          rw [← same, found, Option.some_or, Option.some_or]
        · have skipped : ofKey key (binding :: others) = ofKey key others :=
            List.find?_cons_of_neg (by simpa using same)
          rw [skipped]
      · have here : keepFirst state binding =
            (binding.key :: state.1, state.2 ++ [binding]) := if_neg known
        have fresh : binding.key ∉ state.2.map Binding.key := fun member =>
          known ((seen _).mpr member)
        have later := ih
          (binding.key :: state.1, state.2 ++ [binding]) (by
            intro key
            rw [List.map_append, List.mem_append, List.mem_cons, seen key]
            simp [or_comm]) (by
            rw [List.map_append]
            exact List.nodup_append'.mpr ⟨apart, List.nodup_singleton _,
              fun key old new => fresh (List.mem_singleton.mp new ▸ old)⟩)
        rw [here]
        refine ⟨later.1, fun key => ?_⟩
        rw [later.2, List.append_assoc, List.singleton_append]

theorem nodup_uniqueBindings (bindings : List Binding) :
    ((uniqueBindings bindings).map Binding.key).Nodup :=
  (foldl_keepFirst bindings ([], []) (fun _ => by simp) List.nodup_nil).1

theorem ofKey_uniqueBindings (bindings : List Binding) (key : String) :
    ofKey key (uniqueBindings bindings) = ofKey key bindings :=
  (foldl_keepFirst bindings ([], []) (fun _ => by simp) List.nodup_nil).2 key

/-! ## Opened bindings -/

section Ensure

variable (opens : Binding → Option String)

/-- The binding is open under its key, or it could not be opened. -/
def Settled (active : List Binding) (skipped : List (Binding × String))
    (listeners : Dictionary Binding) (binding : Binding) : Prop :=
  binding ∈ active ∧ listeners.lookup binding.key = some binding ∨
    (∃ failure, (binding, failure) ∈ skipped ∧
      opens binding = some failure) ∧
      listeners.lookup binding.key = none

theorem settled_ensureOne (forceReopen : Bool) (state : Ensuring)
    (binding : Binding) :
    let next := ensureOne opens forceReopen state binding
    Settled opens next.active next.skipped next.listeners binding ∧
      (∀ key, key ≠ binding.key →
        next.listeners.lookup key = state.listeners.lookup key) ∧
      state.active ⊆ next.active ∧ state.skipped ⊆ next.skipped := by
  intro next
  by_cases held : forceReopen = false ∧
      state.listeners.lookup binding.key = some binding
  · have here : next =
        { state with active := state.active ++ [binding] } := if_pos held
    rw [here]
    exact ⟨.inl ⟨List.mem_append_right _ List.mem_cons_self, held.2⟩,
      fun _ _ => rfl, List.subset_append_left _ _, List.Subset.refl _⟩
  · cases opened : opens binding with
    | none =>
        have here : next = { state with
            active := state.active ++ [binding]
            listeners := (state.listeners.erase binding.key).insert
              binding.key binding } := by
          simp only [next, ensureOne, if_neg held, opened]
        rw [here]
        refine ⟨.inl ⟨List.mem_append_right _ List.mem_cons_self,
          AList.lookup_insert _⟩, ?_, List.subset_append_left _ _,
          List.Subset.refl _⟩
        intro key other
        rw [AList.lookup_insert_ne other, AList.lookup_erase_ne other]
    | some failure =>
        have here : next = { state with
            skipped := state.skipped ++ [(binding, failure)]
            listeners := state.listeners.erase binding.key } := by
          simp only [next, ensureOne, if_neg held, opened]
        rw [here]
        refine ⟨.inr ⟨⟨failure, List.mem_append_right _ List.mem_cons_self,
          opened⟩, AList.lookup_erase _ _⟩, ?_,
          List.Subset.refl _, List.subset_append_left _ _⟩
        intro key other
        exact AList.lookup_erase_ne other

theorem Settled.mono {active others : List Binding}
    {skipped more : List (Binding × String)}
    {listeners changed : Dictionary Binding} {binding : Binding}
    (settled : Settled opens active skipped listeners binding)
    (opened : active ⊆ others) (failed : skipped ⊆ more)
    (same : changed.lookup binding.key = listeners.lookup binding.key) :
    Settled opens others more changed binding := by
  rcases settled with ⟨member, held⟩ | ⟨⟨failure, member, reason⟩, absent⟩
  · exact .inl ⟨opened member, same.trans held⟩
  · exact .inr ⟨⟨failure, failed member, reason⟩, same.trans absent⟩

theorem foldl_ensureOne (forceReopen : Bool) (desired : List Binding)
    (apart : (desired.map Binding.key).Nodup) (state : Ensuring) :
    let reached := desired.foldl (ensureOne opens forceReopen) state
    (∀ binding ∈ desired,
      Settled opens reached.active reached.skipped reached.listeners
        binding) ∧
      (∀ key, key ∉ desired.map Binding.key →
        reached.listeners.lookup key = state.listeners.lookup key) ∧
      state.active ⊆ reached.active ∧ state.skipped ⊆ reached.skipped := by
  induction desired generalizing state with
  | nil =>
      refine ⟨fun _ impossible => ?_, fun _ _ => rfl,
        List.Subset.refl _, List.Subset.refl _⟩
      cases impossible
  | cons binding others ih =>
      rw [List.map_cons, List.nodup_cons] at apart
      obtain ⟨settled, sameHere, opened, failed⟩ :=
        settled_ensureOne opens forceReopen state binding
      obtain ⟨settledLater, sameLater, openedLater, failedLater⟩ :=
        ih apart.2
          (ensureOne opens forceReopen state binding)
      refine ⟨?_, ?_, fun _ inside => openedLater (opened inside),
        fun _ inside => failedLater (failed inside)⟩
      · intro other member
        rcases List.mem_cons.mp member with rfl | inside
        · exact settled.mono opens openedLater failedLater
            (sameLater _ apart.1)
        · exact settledLater other inside
      · intro key absent
        rw [List.map_cons, List.mem_cons, not_or] at absent
        rw [List.foldl_cons, sameLater key absent.2, sameHere key absent.1]

/-- Every desired binding is settled, and nothing else is open. -/
structure Ensured (desired : List Binding)
    (reached : EnsureResult × Dictionary Binding) : Prop where
  settled : ∀ binding ∈ desired,
    Settled opens reached.1.active reached.1.skipped reached.2 binding
  closed : ∀ key, key ∉ desired.map Binding.key → reached.2.lookup key = none

theorem ensured_ensure (forceReopen : Bool) {desired : List Binding}
    (apart : (desired.map Binding.key).Nodup)
    (listeners : Dictionary Binding) :
    Ensured opens desired (ensure opens forceReopen desired listeners) := by
  obtain ⟨settled, same, _⟩ := foldl_ensureOne opens forceReopen
    desired apart ⟨[], [], listeners.mapValues fun key held =>
      if key ∈ desired.map Binding.key then some held else none⟩
  constructor
  · intro binding member
    refine (settled binding member).mono opens ?_ ?_ rfl
    · intro other inside
      exact SortedBy.mem_sortedBy.mpr inside
    · intro other inside
      exact SortedBy.mem_sortedBy.mpr inside
  · intro key absent
    refine (same key absent).trans ?_
    rw [Dictionary.lookup_mapValues]
    cases listeners.lookup key with
    | none => rfl
    | some held => exact if_neg absent

theorem perm_foldl (forceReopen : Bool) (desired : List Binding)
    (state : Ensuring) :
    let after := desired.foldl (ensureOne opens forceReopen) state
    (after.active ++ after.skipped.map Prod.fst).Perm
      (state.active ++ state.skipped.map Prod.fst ++ desired) := by
  induction desired generalizing state with
  | nil => simp
  | cons binding rest ih =>
      have later := ih
        (ensureOne opens forceReopen state binding)
      refine later.trans ?_
      have opened : (state.active ++ [binding] ++
          state.skipped.map Prod.fst).Perm
            (state.active ++ state.skipped.map Prod.fst ++ [binding]) := by
        rw [List.append_assoc, List.append_assoc]
        exact List.perm_append_comm.append_left state.active
      have moved : ((ensureOne opens forceReopen state binding).active ++
          (ensureOne opens forceReopen state binding).skipped.map
            Prod.fst).Perm
              (state.active ++ state.skipped.map Prod.fst ++ [binding]) := by
        rw [ensureOne]
        split
        · exact opened
        · split
          · exact opened
          · simp
      have all := moved.append_right rest
      rwa [List.append_assoc _ [binding], List.singleton_append] at all

theorem perm_ensure (forceReopen : Bool) (desired : List Binding)
    (listeners : Dictionary Binding) :
    ((ensure opens forceReopen desired listeners).1.active ++
      (ensure opens forceReopen desired listeners).1.skipped.map
        Prod.fst).Perm desired := by
  refine (SortedBy.perm_sortedBy.append
    (SortedBy.perm_sortedBy.map Prod.fst)).trans ?_
  exact perm_foldl opens forceReopen desired ⟨[], [], _⟩

end Ensure

section Probe

variable (host : Host)

theorem retryEnsure_induction {desired : List Binding}
    {holds : EnsureResult × Dictionary Binding → Prop}
    (attempted : ∀ opens listeners,
      holds (ensure opens true desired listeners))
    (attempt retries : Nat) {state : EnsureResult × Dictionary Binding}
    (held : holds state) :
    holds (retryEnsure host desired attempt retries state) := by
  induction retries generalizing attempt state with
  | zero => exact held
  | succ retries ih =>
      rw [retryEnsure]
      split
      · exact held
      · exact ih (attempt + 1) (attempted _ _)

theorem perm_ensureWithProbe (desired : List Binding)
    (listeners : Dictionary Binding) :
    ((ensureWithProbe host desired listeners).1.active ++
      (ensureWithProbe host desired listeners).1.skipped.map
        Prod.fst).Perm desired :=
  @retryEnsure_induction host desired
    (fun state => (state.1.active ++ state.1.skipped.map Prod.fst).Perm
      desired)
    (fun opens => perm_ensure opens true desired) 0 2 _
    (perm_ensure (host.opens 0) false desired listeners)

theorem ensured_retryEnsure {desired : List Binding}
    (apart : (desired.map Binding.key).Nodup) (attempt retries : Nat)
    {state : EnsureResult × Dictionary Binding}
    (ensured : ∃ earlier, Ensured (host.opens earlier) desired state) :
    ∃ last, Ensured (host.opens last) desired
      (retryEnsure host desired attempt retries state) := by
  induction retries generalizing attempt state with
  | zero => exact ensured
  | succ retries ih =>
      rw [retryEnsure]
      split
      · exact ensured
      · exact ih (attempt + 1)
          ⟨attempt + 1, ensured_ensure _ true apart _⟩

theorem ensured_ensureWithProbe {desired : List Binding}
    (apart : (desired.map Binding.key).Nodup)
    (listeners : Dictionary Binding) :
    ∃ last, Ensured (host.opens last) desired
      (ensureWithProbe host desired listeners) :=
  ensured_retryEnsure host apart 0 2
    ⟨0, ensured_ensure _ false apart listeners⟩

end Probe

/-! ## Collected intents -/

section Collect

variable (host : Host) (activeCIDRs : List String)

def caddyIntents (intents : List IngressIntent) : List CaddyIntent :=
  intents.map fun intent =>
    intent.caddyIntent ((host.writes intent).toOption.getD "")

/-- The bindings of all intents, in their order. -/
def gatewayBindings (intents : List IngressIntent) : List Binding :=
  intents.flatMap intentBindings

variable {host activeCIDRs}

theorem of_collect {soFar next : Collected} {intent : IngressIntent}
    (collected : collect host activeCIDRs soFar intent = .ok next) :
    next = {
      intents := soFar.intents ++ caddyIntents host [intent]
      bindings := soFar.bindings ++ intentBindings intent
      loopbackGateways :=
        soFar.loopbackGateways ++ intent.gateways.filter isLoopback
      httpPort := intent.port .http
      httpsPort := intent.port .https } := by
  rw [collect, bind_eq_ok_iff] at collected
  obtain ⟨_, _, collected⟩ := collected
  obtain ⟨configPath, written, collected⟩ := bind_eq_ok_iff.mp collected
  obtain ⟨_, _, whole⟩ := bind_eq_ok_iff.mp collected
  rw [← Except.ok.inj whole]
  simp only [caddyIntents, List.map_cons, List.map_nil, written,
    Except.toOption, Option.getD_some]

theorem of_foldlM_collect {intents : List IngressIntent}
    {soFar collected : Collected}
    (folded : intents.foldlM (collect host activeCIDRs) soFar =
      .ok collected) :
    collected.intents = soFar.intents ++ caddyIntents host intents ∧
      collected.bindings = soFar.bindings ++ gatewayBindings intents ∧
      collected.loopbackGateways = soFar.loopbackGateways ++
        intents.flatMap (fun intent => intent.gateways.filter isLoopback) ∧
      ∀ last, intents.getLast? = some last →
        collected.httpPort = last.port .http ∧
          collected.httpsPort = last.port .https := by
  induction intents generalizing soFar with
  | nil =>
      rw [List.foldlM_nil, pure_eq_ok_iff] at folded
      rw [← folded]
      refine ⟨(List.append_nil _).symm, (List.append_nil _).symm,
        (List.append_nil _).symm, fun last impossible => ?_⟩
      cases impossible
  | cons intent others ih =>
      rw [List.foldlM_cons] at folded
      obtain ⟨next, first, rest⟩ := bind_eq_ok_iff.mp folded
      have here := of_collect first
      obtain ⟨intents, bindings, gateways, ports⟩ := ih rest
      refine ⟨?_, ?_, ?_, ?_⟩
      · rw [intents, here, List.append_assoc]
        rfl
      · rw [bindings, here, List.append_assoc]
        rfl
      · rw [gateways, here, List.append_assoc]
        rfl
      · intro last found
        cases others with
        | nil =>
            rw [List.foldlM_nil, pure_eq_ok_iff] at rest
            rw [List.getLast?_singleton] at found
            rw [← rest, here, Option.some.inj found]
            exact ⟨rfl, rfl⟩
        | cons second more =>
            rw [List.getLast?_cons_cons] at found
            exact ports last found

end Collect

/-! ## Loopback listeners -/

theorem of_evaluate {result : EnsureResult} {gateways : List String}
    {httpPort httpsPort : UInt16} {warning : Option String}
    (evaluated : evaluateIngressGatewayEnsure result gateways httpPort
      httpsPort = .ok warning) {gateway : String}
    (member : gateway ∈ gateways) {port : UInt16}
    (probed : port = httpPort ∨ port = httpsPort) :
    ∀ skip ∈ result.skipped, skip.1.key ≠ addressKey gateway port := by
  rw [evaluateIngressGatewayEnsure, bind_eq_ok_iff] at evaluated
  obtain ⟨_, checks, _⟩ := evaluated
  have listed : addressKey gateway port ∈ gateways.flatMap fun gateway =>
      [httpPort, httpsPort].map (addressKey gateway) := by
    refine List.mem_flatMap.mpr ⟨gateway, member, ?_⟩
    refine List.mem_map_of_mem ?_
    rcases probed with rfl | rfl
    · exact List.mem_cons_self
    · exact List.mem_cons_of_mem _ List.mem_cons_self
  have checked := forM_eq_ok_iff.mp checks _ listed
  rw [checkLoopback] at checked
  split at checked
  · cases checked
  · rename_i opened
    intro skip inside same
    exact List.find?_eq_none.mp opened skip inside (decide_eq_true same)

/-! ## Children -/

/-- A planned child runs the sites of an intent on its backend ports.  A child
that is shared runs on one pair of ports. -/
structure Serves (intents : List CaddyIntent) (child : Child)
    (intent : CaddyIntent) : Prop where
  planned : child ∈ children intents
  sites : sitePart (trimmed intent.caddyfile) <:+: child.caddyfile
  http : child.backendHTTP = intent.backendHTTP
  https : child.shared = true →
    ∀ other ∈ intents, other.backendHTTPS = intent.backendHTTPS

theorem exists_serves {intents : List CaddyIntent} {intent : CaddyIntent}
    (member : intent ∈ intents) : ∃ child, Serves intents child intent := by
  cases intents with
  | nil => cases member
  | cons first others =>
      by_cases shares : canShare first (first :: others) = true
      · have equal : ∀ other ∈ first :: others,
            other.backendHTTP = first.backendHTTP ∧
              other.backendHTTPS = first.backendHTTPS := by
          intro other inside
          have same := List.all_eq_true.mp shares other inside
          simp only [Bool.and_eq_true, beq_iff_eq] at same
          exact ⟨same.1.2, same.2⟩
        have planned : children (first :: others) = [_] := if_pos shares
        refine ⟨_, planned ▸ List.mem_cons_self, ?_, ?_, ?_⟩
        · exact infix_merge (List.mem_map_of_mem member)
        · exact (equal intent member).1.symm
        · intro _ other inside
          exact (equal other inside).2.trans (equal intent member).2.symm
      · have planned : children (first :: others) = List.map _ _ :=
          if_neg shares
        refine ⟨_, planned ▸ List.mem_map_of_mem member, ?_, rfl, ?_⟩
        · exact (infix_sitePart _).trans (infix_trimmed _)
        · intro impossible
          cases impossible

/-! ## Served projects -/

theorem exists_of_mem_gatewayBindings {intents : List IngressIntent}
    {binding : Binding} (member : binding ∈ gatewayBindings intents) :
    ∃ intent ∈ intents, ∃ gateway ∈ intent.gateways, ∃ front,
      binding = intent.binding gateway front := by
  obtain ⟨intent, inside, ofIntent⟩ := List.mem_flatMap.mp member
  obtain ⟨gateway, listed, ofGateway⟩ := List.mem_flatMap.mp ofIntent
  rcases List.mem_cons.mp ofGateway with rfl | second
  · exact ⟨intent, inside, gateway, listed, .http, rfl⟩
  · exact ⟨intent, inside, gateway, listed, .https,
      List.mem_singleton.mp second⟩

theorem mem_gatewayBindings {intents : List IngressIntent}
    {intent : IngressIntent} (member : intent ∈ intents) {gateway : String}
    (listed : gateway ∈ intent.gateways) (front : Front) :
    intent.binding gateway front ∈ gatewayBindings intents := by
  refine List.mem_flatMap.mpr ⟨intent, member, ?_⟩
  refine List.mem_flatMap.mpr ⟨gateway, listed, ?_⟩
  cases front with
  | http => exact List.mem_cons_self
  | https => exact List.mem_cons_of_mem _ List.mem_cons_self

theorem binding_key (intent : IngressIntent) (gateway : String)
    (front : Front) :
    (intent.binding gateway front).key =
      addressKey gateway (intent.port front) := rfl

/-- The listener of an address of a project is the one of the first intent
that names the address. -/
structure Listening (host : Host) (intents : List IngressIntent)
    (installed : Dictionary Binding) (gateway : String) (port : UInt16)
    (winner : IngressIntent) (front : Front) : Prop where
  member : winner ∈ intents
  listed : gateway ∈ winner.gateways
  port_eq : winner.port front = port
  first : (gatewayBindings intents).find? (fun binding =>
    binding.key = addressKey gateway port) =
      some (winner.binding gateway front)
  forwards : installed.lookup (addressKey gateway port) =
      some (winner.binding gateway front) ∨
    installed.lookup (addressKey gateway port) = none ∧
      ∃ attempt, (host.opens attempt (winner.binding gateway front)).isSome
  loopback : isLoopback gateway = true →
    ∀ last, intents.getLast? = some last →
      port = last.port .http ∨ port = last.port .https →
        installed.lookup (addressKey gateway port) ≠ none

theorem exists_listening {host : Host} {activeCIDRs : List String}
    {intents : List IngressIntent} {listeners installed : Dictionary Binding}
    {warning : Option String}
    (applied : apply host activeCIDRs intents listeners =
      (.ok warning, installed))
    {intent : IngressIntent} (member : intent ∈ intents) {gateway : String}
    (listed : gateway ∈ intent.gateways) (front : Front) :
    ∃ winner winningFront,
      Listening host intents installed gateway (intent.port front) winner
        winningFront := by
  simp only [apply] at applied
  split at applied
  · cases applied
  · rename_i collected started
    obtain ⟨gathered, folded, started⟩ := bind_eq_ok_iff.mp started
    obtain ⟨_, _, started⟩ := bind_eq_ok_iff.mp started
    obtain ⟨_, _, same⟩ := bind_eq_ok_iff.mp started
    cases Except.ok.inj same
    obtain ⟨finished, rfl⟩ := Prod.mk.inj applied
    obtain ⟨_, bindings, gateways, ports⟩ := of_foldlM_collect folded
    have found : (ofKey (addressKey gateway (intent.port front))
        (gatewayBindings intents)).isSome :=
      ofKey_isSome_iff.mpr (binding_key intent gateway front ▸
        List.mem_map_of_mem (mem_gatewayBindings member listed front))
    obtain ⟨first, ofFirst⟩ := Option.isSome_iff_exists.mp found
    obtain ⟨firstMember, firstKey⟩ := of_ofKey ofFirst
    obtain ⟨winner, winnerMember, winningGateway, winnerListed,
      winningFront, rfl⟩ := exists_of_mem_gatewayBindings firstMember
    obtain ⟨rfl, samePort⟩ := addressKey_injective firstKey
    have portEq : winner.port winningFront = intent.port front := samePort
    have kept : ofKey (addressKey winningGateway (intent.port front))
        (uniqueBindings collected.bindings) =
          some (winner.binding winningGateway winningFront) := by
      rw [ofKey_uniqueBindings, bindings]
      exact ofFirst
    obtain ⟨last, ensured⟩ := ensured_ensureWithProbe host
      (nodup_uniqueBindings collected.bindings) listeners
    have settled := ensured.settled _ (of_ofKey kept).1
    rw [Settled, binding_key, portEq] at settled
    refine ⟨winner, winningFront, winnerMember, winnerListed, portEq, ofFirst,
      ?_, ?_⟩
    · rcases settled with ⟨_, held⟩ | ⟨⟨failure, _, failed⟩, absent⟩
      · exact .inl held
      · exact .inr ⟨absent, last, failed ▸ rfl⟩
    · intro loops final isFinal probed
      have nonempty : uniqueBindings collected.bindings ≠ [] :=
        List.ne_nil_of_mem (of_ofKey kept).1
      obtain ⟨warned, evaluated, _⟩ := bind_eq_ok_iff.mp finished
      rw [guestWarning, if_neg nonempty] at evaluated
      have inside : winningGateway ∈ collected.loopbackGateways := by
        rw [gateways]
        refine List.mem_append_right _ (List.mem_flatMap.mpr
          ⟨winner, winnerMember, List.mem_filter.mpr ⟨winnerListed, loops⟩⟩)
      have probe : intent.port front = collected.httpPort ∨
          intent.port front = collected.httpsPort := by
        rw [(ports final isFinal).1, (ports final isFinal).2]
        exact probed
      have opened := of_evaluate evaluated inside probe
      rcases settled with ⟨_, held⟩ | ⟨⟨failure, skipped, _⟩, _⟩
      · intro absent
        exact Option.some_ne_none _ (held.symm.trans absent)
      · exact absurd firstKey (opened _ skipped)

/-- The address of a project is the listener of the first intent that names
it, unless it could not be opened; loopback addresses on the ports of the last
intent are always open.  A child runs the project's sites on its backend
ports, and the listener forwards there when the first intent has the same
backend port. -/
theorem ingress_served {host : Host} {activeCIDRs : List String}
    {intents : List IngressIntent} {listeners installed : Dictionary Binding}
    {warning : Option String}
    (applied : apply host activeCIDRs intents listeners =
      (.ok warning, installed))
    {intent : IngressIntent} (member : intent ∈ intents) {gateway : String}
    (listed : gateway ∈ intent.gateways) (front : Front) :
    ∃ winner winningFront,
      Listening host intents installed gateway (intent.port front) winner
          winningFront ∧
        ∃ child,
          Serves (caddyIntents host intents) child
              (intent.caddyIntent ((host.writes intent).toOption.getD "")) ∧
            (winner.backend winningFront = intent.backend front →
              ∀ binding, installed.lookup
                  (addressKey gateway (intent.port front)) = some binding →
                binding.backendHost = "127.0.0.1" ∧
                  binding.backendPort = intent.backend front) := by
  obtain ⟨winner, winningFront, listening⟩ :=
    exists_listening applied member listed front
  have planned : intent.caddyIntent ((host.writes intent).toOption.getD "") ∈
      caddyIntents host intents :=
    List.mem_map.mpr ⟨intent, member, rfl⟩
  obtain ⟨child, serves⟩ := exists_serves planned
  refine ⟨winner, winningFront, listening, child, serves, ?_⟩
  intro same binding held
  rcases listening.forwards with first | ⟨absent, _⟩
  · rw [first] at held
    cases Option.some.inj held
    exact ⟨rfl, same⟩
  · rw [absent] at held
    cases held

/-! ## Two projects on one address -/

/-- A host on which everything succeeds. -/
def openHost : Host where
  writes intent := .ok ("/state/" ++ intent.workDir ++ "/Caddyfile")
  prepares := .ok ⟨⟩
  starts _ := .ok ⟨⟩
  opens _ _ := none
  reachable _ := true
  finishes := .ok ⟨⟩

def loopbackIntent (project : String) (httpBackend httpsBackend : UInt16) :
    IngressIntent where
  project := project
  caddyfile := ("http://" ++ project).toList
  binary := "/state/bin/caddy"
  gateways := ["127.0.0.1"]
  httpPort := none
  httpsPort := none
  backendHTTPPort := some httpBackend
  backendHTTPSPort := some httpsBackend
  bindingCIDRs := []

def bothIntents : List IngressIntent :=
  [loopbackIntent "demo" 18080 18443, loopbackIntent "shop" 19080 19443]

theorem ingress_served_demo :
    ∃ winner winningFront,
      Listening openHost bothIntents
          (apply openHost [] bothIntents ∅).2 "127.0.0.1" 80 winner
          winningFront ∧
        ∃ child,
          Serves (caddyIntents openHost bothIntents) child
              ((loopbackIntent "demo" 18080 18443).caddyIntent
                "/state/ingress/demo/Caddyfile") ∧
            (winner.backend winningFront = 18080 →
              ∀ binding,
                (apply openHost [] bothIntents ∅).2.lookup
                  (addressKey "127.0.0.1" 80) = some binding →
                binding.backendHost = "127.0.0.1" ∧
                  binding.backendPort = 18080) := by
  have applied : apply openHost [] bothIntents ∅ =
      (.ok none, (apply openHost [] bothIntents ∅).2) := by rfl
  exact ingress_served applied List.mem_cons_self List.mem_cons_self .http

/-- The second project is accepted, and its address forwards to the child of
the first. -/
theorem second_project_shadowed :
    ∃ installed forwarded,
      apply openHost [] bothIntents ∅ = (.ok none, installed) ∧
        installed.lookup (addressKey "127.0.0.1" 80) = some forwarded ∧
        ∀ child ∈ children (caddyIntents openHost bothIntents),
          child.backendHTTP = forwarded.backendPort →
            ¬ sitePart (trimmed
              (loopbackIntent "shop" 19080 19443).caddyfile) <:+:
                child.caddyfile := by
  refine ⟨(apply openHost [] bothIntents ∅).2,
    (loopbackIntent "demo" 18080 18443).binding "127.0.0.1" .http, by rfl,
    by rfl, ?_⟩
  decide +kernel

end Ingress

end Vzctl
