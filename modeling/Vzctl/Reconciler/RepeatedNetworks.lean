import Vzctl.Config.SuggestedAddress
import Vzctl.Reconciler.NetworkRuns

/-!
# Repeating `ensure_networks`

A second run of the step on the registry that a first one left.  It does
nothing when the registry stores every network as the configuration gives it.
-/

namespace Vzctl

namespace Reconciler

open Config Dialogue
open Inputs (member)

/-! ## Runs without changes -/

/-- `net.list` is the only request of the step that changes nothing. -/
def mutates : Command Empty → Bool
  | .rpc method _ => method ≠ "net.list"
  | .force => false
  | .host call => nomatch call

/-- A supervisor that reports its networks and does nothing else. -/
def reports (registry : NetworkRegistry) (permitted : Bool) :
    List (Command Empty) → Command Empty → Reply :=
  fun _ command =>
    match command with
    | .rpc "net.list" _ => .result registry.snapshot.json
    | .force => .result (.bool permitted)
    | _ => .broken ""

section Quiet

variable {answer : List (Command Empty) → Command Empty → Reply}
  {α β : Type}

/-- A play without mutating calls that ends well. -/
def Quiet (answer : List (Command Empty) → Command Empty → Reply)
    (program : Step Empty α) (value : α) (past : List (Command Empty)) :
    Prop :=
  (∀ command ∈ (play answer program past).1, mutates command = false) ∧
    (play answer program past).2 = .ok value

theorem quiet_pure (value : α) (past : List (Command Empty)) :
    Quiet answer (pure value) value past :=
  ⟨by simp, rfl⟩

theorem quiet_bind_iff {program : Step Empty α} {next : α → Step Empty β}
    {value : β} {past : List (Command Empty)} :
    Quiet answer (program >>= next) value past ↔
      ∃ middle, Quiet answer program middle past ∧
        Quiet answer (next middle) value
          (past ++ (play answer program past).1) := by
  rw [Quiet, play_bind]
  simp only [Quiet]
  rcases play answer program past with ⟨commands, outcome⟩
  cases outcome with
  | error failure => simp
  | ok middle =>
      simp only [List.mem_append, Except.ok.injEq]
      constructor
      · intro both
        obtain ⟨silent, ended⟩ := both
        refine ⟨middle, ⟨?_, rfl⟩, ?_, ended⟩
        · intro command inFirst
          exact silent command (.inl inFirst)
        · intro command inSecond
          exact silent command (.inr inSecond)
      · intro found
        obtain ⟨other, ⟨first, same⟩, second, ended⟩ := found
        rw [← same] at second ended
        refine ⟨?_, ended⟩
        intro command either
        rcases either with inFirst | inSecond
        · exact first command inFirst
        · exact second command inSecond

theorem quiet_forM_iff {items : List α} {body : α → Step Empty Unit}
    {isQuiet : α → Prop}
    (round : ∀ item ∈ items, ∀ past,
      Quiet answer (body item) () past ↔ isQuiet item)
    (past : List (Command Empty)) :
    Quiet answer (forM items body) () past ↔ ∀ item ∈ items, isQuiet item := by
  induction items generalizing past with
  | nil =>
      have quiet : Quiet answer (pure ()) () past :=
        quiet_pure () past
      simpa using quiet
  | cons item rest ih =>
      have first := round item List.mem_cons_self past
      have others := ih fun other member =>
        round other (List.mem_cons_of_mem item member)
      change Quiet answer (body item >>= fun _ => forM rest body) () past ↔ _
      rw [quiet_bind_iff, List.forall_mem_cons, ← first]
      simp only [others]
      constructor
      · intro found
        obtain ⟨_, quiet, all⟩ := found
        exact ⟨quiet, all⟩
      · intro both
        exact ⟨(), both⟩

theorem not_quiet_rpc {method : String} (changes : method ≠ "net.list")
    {params : JSONValue} {next : JSONValue → Step Empty α} {value : α}
    {past : List (Command Empty)} :
    ¬ Quiet answer (rpc method params >>= next) value past := by
  intro quiet
  obtain ⟨middle, first, _⟩ := quiet_bind_iff.mp quiet
  have silent := first.1 (.rpc method params) (by simp [rpc, request, play])
  simp [mutates, changes] at silent

end Quiet

/-! ## The second run -/

section Second

variable {library : Library} {stack : Stack} {registry : NetworkRegistry}
  {permitted : Bool} {name : String} {network : NetworkConfig}

/-- The network that the step finds is as the configuration wants it. -/
def Settled (stack : Stack) (snapshot : JSONValue) (name : String)
    (network : NetworkConfig) : Prop :=
  ∃ existing,
    (items (member snapshot "networks")).find? (isOwn stack name) =
      some existing ∧
    networkChanged existing network = false

theorem quiet_ensureNetwork_iff {snapshot : JSONValue}
    (past : List (Command Empty)) :
    Quiet (reports registry permitted)
        (ensureNetwork stack snapshot name network) () past ↔
      Settled stack snapshot name network := by
  have noCreate : ∀ past, ¬ Quiet (reports registry permitted)
      (createNetwork stack name network) () past := fun past =>
    not_quiet_rpc (by decide)
  rw [ensureNetwork, Settled]
  cases (items (member snapshot "networks")).find? (isOwn stack name) with
  | none => simpa using noCreate past
  | some existing =>
      cases changed : networkChanged existing network with
      | false => simpa [changed] using quiet_pure () past
      | true =>
          simp only [if_true, Option.some.injEq, exists_eq_left', changed,
            Bool.true_eq_false, iff_false]
          intro quiet
          obtain ⟨forced, _, second⟩ := quiet_bind_iff.mp quiet
          cases forced with
          | false => cases second.2
          | true =>
              obtain ⟨_, _, created⟩ := quiet_bind_iff.mp second
              exact noCreate _ created

theorem quiet_ensureNetworks_iff :
    Quiet (reports registry permitted) (ensureNetworks library stack) () [] ↔
      validateNetworkOwnership library stack registry.snapshot.json =
          .ok () ∧
        ∀ entry ∈ inOrder stack.networks,
          Settled stack registry.snapshot.json entry.1 entry.2 := by
  have listed : ∀ value, Quiet (reports registry permitted)
      (rpc "net.list" (.object [])) value [] ↔
        value = registry.snapshot.json := by
    intro value
    have played : play (reports registry permitted)
        (rpc "net.list" (.object []) : Step Empty JSONValue) [] =
          ([.rpc "net.list" (.object [])], .ok registry.snapshot.json) := rfl
    rw [Quiet, played]
    constructor
    · intro both
      exact (Except.ok.inj both.2).symm
    · intro same
      rw [same]
      simp [mutates]
  have loop : ∀ past, Quiet (reports registry permitted)
      (forM (inOrder stack.networks) fun entry =>
        ensureNetwork stack registry.snapshot.json entry.1 entry.2)
      () past ↔ ∀ entry ∈ inOrder stack.networks,
        Settled stack registry.snapshot.json entry.1 entry.2 :=
    quiet_forM_iff fun entry _ past => quiet_ensureNetwork_iff past
  rw [ensureNetworks, quiet_bind_iff]
  simp only [listed, exists_eq_left]
  rw [quiet_bind_iff]
  simp only [loop]
  constructor
  · intro found
    obtain ⟨_, passed, settled⟩ := found
    exact ⟨passed.2, settled⟩
  · intro both
    exact ⟨(), ⟨by simp [lift], both.1⟩, both.2⟩

end Second

/-! ## Networks as they are stored -/

section Stored

variable {library : Library} {stack : Stack} {registry : NetworkRegistry}
  {name : String} {network : NetworkConfig} {record : NetworkRecord}

/-- The supervisor stores the network as the configuration gives it. -/
def StoredAsGiven (network : NetworkConfig) : Prop :=
  network.mode = .shared ∧
    ∃ cidr, IPv4CIDR.parse network.cidr = .ok cidr ∧
      cidr.canonical = network.cidr

theorem networkChanged_json_iff :
    networkChanged record.json network = false ↔
      record.cidr = network.cidr ∧ record.mode = network.mode.text ∧
        record.natEgress = network.natEgress ∧
        record.backend = network.backend.text := by
  have cidrs : member record.json "cidr" = .string record.cidr := rfl
  have modes : member record.json "mode" = .string record.mode := rfl
  have egress : (member record.json "nat_egress").asBool?.getD true =
      record.natEgress := rfl
  have backends : (member record.json "backend").asString?.getD "vmnet" =
      record.backend := rfl
  rw [networkChanged, cidrs, modes, egress, backends]
  simp [and_assoc]

theorem settled_iff
    (recorded : record ∈ registry.database.networkTable.rows)
    (isOwned : record.name = name ∧ record.project = some stack.project) :
    Settled stack registry.snapshot.json name network ↔
      networkChanged record.json network = false := by
  have isFound : (items (member registry.snapshot.json "networks")).find?
      (isOwn stack name) = some record.json := by
    cases found : (items (member registry.snapshot.json "networks")).find?
        (isOwn stack name) with
    | none =>
        rw [networks_snapshot, List.find?_eq_none] at found
        have notOwned := found record.json
          (List.mem_map_of_mem (NetworkDatabase.mem_networks.mpr recorded))
        exact absurd (isOwn_json_iff.mpr isOwned) notOwned
    | some existing =>
        obtain ⟨other, isRecord, same, otherOwned⟩ := exists_of_find found
        have isSame : other = record :=
          NetworkDatabase.eq_of_name_eq isRecord recorded
            (otherOwned.2.trans isOwned.2.symm)
            (otherOwned.1.trans isOwned.1.symm)
        rw [← same, isSame]
  rw [Settled, isFound]
  simp

theorem MadeFor.unchanged_iff {foundation : Foundation}
    (made : MadeFor foundation stack name network record) :
    networkChanged record.json network = false ↔ StoredAsGiven network := by
  obtain ⟨env, cidr, checked, same⟩ := made
  have parsed : IPv4CIDR.parse network.cidr = .ok cidr :=
    (NetworkRegistry.checkCreate_eq_ok_iff.mp checked).2.2.2.2.2.2
  have backend : (if network.backend.text = "" then NetworkRecord.backendVmnet
      else network.backend.text) = network.backend.text := by
    cases network.backend <;> rfl
  have mode : "shared" = network.mode.text ↔ network.mode = .shared := by
    cases network.mode <;> decide
  rw [same, networkChanged_json_iff]
  change cidr.canonical = network.cidr ∧ "shared" = network.mode.text ∧
    network.natEgress = network.natEgress ∧
    (if network.backend.text = "" then NetworkRecord.backendVmnet
      else network.backend.text) = network.backend.text ↔ _
  rw [mode, StoredAsGiven, parsed]
  constructor
  · intro unchanged
    exact ⟨unchanged.2.1, cidr, rfl, unchanged.1⟩
  · intro stored
    obtain ⟨isShared, other, sameCidr, canonical⟩ := stored
    rw [← Except.ok.inj sameCidr] at canonical
    exact ⟨canonical, isShared, rfl, backend⟩

theorem storedAsGiven_of_unchanged (wellFormed : record.WellFormed)
    (unchanged : networkChanged record.json network = false) :
    StoredAsGiven network := by
  obtain ⟨cidr, mode, _⟩ := networkChanged_json_iff.mp unchanged
  obtain ⟨canonical, isCanonical⟩ := wellFormed.canonical
  constructor
  · have isShared := mode.symm.trans wellFormed.shared
    cases isMode : network.mode with
    | shared => rfl
    | host =>
        rw [isMode] at isShared
        exact absurd isShared (by decide)
  · refine ⟨canonical, ?_, isCanonical.symm.trans cidr⟩
    rw [← cidr, isCanonical, IPv4CIDR.parse_canonical]

/-- No network of the configuration meets another. -/
def Apart (library : Library) (networks : Dictionary NetworkConfig) : Prop :=
  ∀ name network otherName other,
    networks.lookup name = some network →
    networks.lookup otherName = some other → name ≠ otherName →
    ∀ cidr otherCidr, library.parseNet network.cidr = .ok cidr →
      library.parseNet other.cidr = .ok otherCidr →
        overlap cidr otherCidr = false

/-- A configuration that a second run leaves alone. -/
structure Repeatable (library : Library)
    (networks : Dictionary NetworkConfig) : Prop where
  asStored : ∀ name network, networks.lookup name = some network →
    StoredAsGiven network
  apart : Apart library networks

theorem mem_inOrder_iff {networks : Dictionary NetworkConfig} :
    (⟨name, network⟩ : Entry) ∈ inOrder networks ↔
      networks.lookup name = some network := by
  rw [inOrder, SortedBy.mem_sortedBy, ← AList.mem_lookup_iff, Option.mem_def]

theorem checkForeign_eq_ok_iff {desiredCidr : Ipv4Net} :
    checkForeign library name network desiredCidr record.json = .ok () ↔
      ∀ cidr, library.parseNet record.cidr = .ok cidr →
        overlap desiredCidr cidr = false := by
  have text : netOf library (member record.json "cidr") =
      (library.parseNet record.cidr).toOption := rfl
  rw [checkForeign, text]
  cases library.parseNet record.cidr with
  | error message => simp [Except.toOption]
  | ok cidr =>
      cases meets : overlap desiredCidr cidr with
      | false => simp [Except.toOption, meets]
      | true => simp [Except.toOption, meets]

theorem checkNetwork_eq_ok_iff :
    checkNetwork library stack registry.snapshot.json name network =
        .ok () ↔
      ∃ desiredCidr, library.parseNet network.cidr = .ok desiredCidr ∧
        ∀ record ∈ registry.database.networkTable.rows,
          if record.name = name ∧ record.project = some stack.project then
            checkOwned stack registry.snapshot.json name network record.json =
              .ok ()
          else
            checkForeign library name network desiredCidr record.json =
              .ok () := by
  rw [checkNetwork, Outcome.bind_eq_ok_iff]
  simp only [Outcome.mapError_eq_ok_iff, Outcome.forM_eq_ok_iff,
    networks_snapshot, List.forall_mem_map, NetworkDatabase.mem_networks]
  refine exists_congr fun desiredCidr => and_congr_right fun _ => ?_
  refine forall₂_congr fun record _ => ?_
  by_cases isOwned : record.name = name ∧ record.project = some stack.project
  · have owned := isOwn_json_iff.mpr isOwned
    simp only [if_pos isOwned, owned, if_true]
  · have notOwned : isOwn stack name record.json = false := by
      rw [Bool.eq_false_iff, ne_eq, isOwn_json_iff]
      exact isOwned
    simp only [if_neg isOwned, notOwned, Bool.false_eq_true, if_false]

theorem checkOwned_of_unchanged {snapshot actual : JSONValue}
    (unchanged : networkChanged actual network = false) :
    checkOwned stack snapshot name network actual = .ok () ↔
      member actual "stack" = .string stack.id := by
  by_cases own : member actual "stack" = .string stack.id
  · simp [checkOwned, own, unchanged]
  · simp [checkOwned, own]

end Stored

/-! ## A run after a run -/

section Again

variable {foundation : Foundation} {library : Library} {stack : Stack}
  {start final : NetworkRegistry} {name : String} {network : NetworkConfig}

theorem settled_iff_storedAsGiven
    (initialFormed : ∀ record ∈ start.database.networkTable.rows,
      record.WellFormed)
    (brought : Brought foundation stack start (inOrder stack.networks) final)
    (found : stack.networks.lookup name = some network) :
    Settled stack final.snapshot.json name network ↔ StoredAsGiven network := by
  obtain ⟨record, recorded, isOwned, origin⟩ :=
    brought.present ⟨name, network⟩ (mem_inOrder_iff.mpr found)
  rw [settled_iff recorded isOwned]
  rcases origin with old | made
  · have stored :=
      storedAsGiven_of_unchanged (initialFormed record old.1) old.2
    exact iff_of_true old.2 stored
  · exact made.unchanged_iff

/-- The ranges of the networks that are there are those of the
configuration. -/
theorem validate_iff_apart
    (initialFormed : ∀ record ∈ start.database.networkTable.rows,
      record.WellFormed)
    (passed : validateNetworkOwnership library stack start.snapshot.json =
      .ok ())
    (brought : Brought foundation stack start (inOrder stack.networks) final)
    (stored : ∀ name network, stack.networks.lookup name = some network →
      StoredAsGiven network) :
    validateNetworkOwnership library stack final.snapshot.json = .ok () ↔
      Apart library stack.networks := by
  have unchanged : ∀ name network record,
      stack.networks.lookup name = some network →
      record ∈ final.database.networkTable.rows →
      record.name = name ∧ record.project = some stack.project →
        networkChanged record.json network = false := by
    intro name network record found recorded isOwned
    rw [← settled_iff recorded isOwned,
      settled_iff_storedAsGiven initialFormed brought found]
    exact stored name network found
  rw [validateNetworkOwnership, Outcome.forM_eq_ok_iff] at passed
  rw [validateNetworkOwnership, Outcome.forM_eq_ok_iff]
  constructor
  · intro all name network otherName other found otherFound different cidr
      otherCidr parsed otherParsed
    obtain ⟨desiredCidr, desiredParsed, checks⟩ := checkNetwork_eq_ok_iff.mp
      (all ⟨name, network⟩ (mem_inOrder_iff.mpr found))
    have sameCidr : desiredCidr = cidr :=
      Except.ok.inj (desiredParsed.symm.trans parsed)
    obtain ⟨record, recorded, isOwned, _⟩ :=
      brought.present ⟨otherName, other⟩ (mem_inOrder_iff.mpr otherFound)
    have text := (networkChanged_json_iff.mp
      (unchanged otherName other record otherFound recorded isOwned)).1
    have check := checks record recorded
    have notOwned : ¬ (record.name = name ∧
        record.project = some stack.project) := by
      intro owned
      exact different (owned.1.symm.trans isOwned.1)
    rw [if_neg notOwned, checkForeign_eq_ok_iff, text] at check
    rw [← sameCidr]
    exact check otherCidr otherParsed
  · intro apart entry member
    have found := mem_inOrder_iff.mp member
    obtain ⟨desiredCidr, desiredParsed, checks⟩ :=
      checkNetwork_eq_ok_iff.mp (passed entry member)
    refine checkNetwork_eq_ok_iff.mpr ⟨desiredCidr, desiredParsed, ?_⟩
    intro record recorded
    split
    · rename_i isOwned
      have isUnchanged :=
        unchanged entry.1 entry.2 record found recorded isOwned
      rw [checkOwned_of_unchanged isUnchanged]
      rcases brought.origin record recorded with old | new
      · have check := checks record old
        rw [if_pos isOwned, checkOwned_of_unchanged isUnchanged] at check
        exact check
      · obtain ⟨source, _, env, cidr, _, same⟩ := new
        rw [same]
        rfl
    · rename_i notOwned
      rw [checkForeign_eq_ok_iff]
      rcases brought.origin record recorded with old | new
      · have check := checks record old
        rw [if_neg notOwned, checkForeign_eq_ok_iff] at check
        exact check
      · obtain ⟨source, isSource, made⟩ := new
        have sourceFound := mem_inOrder_iff.mp isSource
        have text := (networkChanged_json_iff.mp (unchanged source.1 source.2
          record sourceFound recorded made.isOwned)).1
        intro cidr parsed
        rw [text] at parsed
        refine apart entry.1 entry.2 source.1 source.2 found sourceFound ?_
          desiredCidr cidr desiredParsed parsed
        intro sameName
        exact notOwned ⟨made.isOwned.1.trans sameName.symm, made.isOwned.2⟩

theorem quiet_iff_repeatable {permitted : Bool}
    (initialFormed : ∀ record ∈ start.database.networkTable.rows,
      record.WellFormed)
    (passed : validateNetworkOwnership library stack start.snapshot.json =
      .ok ())
    (brought : Brought foundation stack start (inOrder stack.networks) final) :
    Quiet (reports final permitted) (ensureNetworks library stack) () [] ↔
      Repeatable library stack.networks := by
  rw [quiet_ensureNetworks_iff]
  constructor
  · intro both
    have stored : ∀ name network,
        stack.networks.lookup name = some network →
          StoredAsGiven network := by
      intro name network found
      rw [← settled_iff_storedAsGiven initialFormed brought found]
      exact both.2 ⟨name, network⟩ (mem_inOrder_iff.mpr found)
    exact ⟨stored,
      (validate_iff_apart initialFormed passed brought stored).mp both.1⟩
  · intro repeatable
    constructor
    · rw [validate_iff_apart initialFormed passed brought repeatable.asStored]
      exact repeatable.apart
    · intro entry member
      have found := mem_inOrder_iff.mp member
      rw [settled_iff_storedAsGiven initialFormed brought found]
      exact repeatable.asStored entry.1 entry.2 found

/-- After a run that succeeded, with or without force, a second run has
nothing to do and succeeds, with or without force, exactly when every network
is stored as the configuration gives it and no two of them overlap. -/
theorem ensureNetworks_repeats_iff (foundation : Foundation)
    (library : Library) (stack : Stack) (start : NetworkRegistry)
    (reachable : Transitions.Runs (registryStep foundation)
      NetworkRegistry.fresh start)
    (forced again : Bool)
    (history : History NetworkRegistry (Command Empty) Reply)
    (first : Dialogue.Runs (Supervised foundation forced start)
      (ensureNetworks library stack : Step Empty Unit) [] history
      (some (.ok ()))) :
    Quiet (reports (now start history) again) (ensureNetworks library stack)
        () [] ↔
      Repeatable library stack.networks := by
  have initialFormed := NetworkRegistry.wellFormed_of_runs reachable
  obtain ⟨passed, brought⟩ := brought_of_run first
  exact quiet_iff_repeatable initialFormed passed brought

end Again

/-! ## A network of each mode -/

def lan (mode : NetworkMode) : NetworkConfig :=
  ⟨"10.80.0.0/28", mode, false, true, .vmnet⟩

/-- One network, without VMs. -/
def lanStack (mode : NetworkMode) : Stack where
  networks := AList.singleton "lan" (lan mode)
  vms := ∅
  project := "demo"
  name := "edge"

/-- The range of the network. -/
def lanCidr : IPv4CIDR where
  network := 0x0A500000
  prefixLength := 28
  prefixRange := by decide
  isNetwork := by decide

def lanParams (mode : NetworkMode) : JSONValue :=
  createParams (lanStack mode) "lan" (lan mode)

def lanAnswer (mode : NetworkMode) : JSONValue :=
  (NetworkRegistry.newRecord {} (requestFor (lanStack mode) "lan" (lan mode))
    lanCidr).json

def lanListing : Exchange NetworkRegistry (Command Empty) Reply where
  before := .fresh
  command := .rpc "net.list" (.object [])
  reply := .result NetworkRegistry.fresh.snapshot.json
  after := .fresh

def lanCreation (mode : NetworkMode) :
    Exchange NetworkRegistry (Command Empty) Reply where
  before := .fresh
  command := .rpc "net.create" (lanParams mode)
  reply := .result (lanAnswer mode)
  after := (NetworkRPC.create .ascii {} (lanParams mode) .fresh).2

theorem lan_runs (mode : NetworkMode) (forced : Bool) :
    Dialogue.Runs (Supervised .ascii forced .fresh)
      (ensureNetworks smallLibrary (lanStack mode) : Step Empty Unit) []
      [lanCreation mode, lanListing] (some (.ok ())) := by
  have answered : (NetworkRPC.create .ascii {} (lanParams mode) .fresh).1 =
      .ok (lanAnswer mode) := by
    cases mode <;> rfl
  have passed : validateNetworkOwnership smallLibrary (lanStack mode)
      NetworkRegistry.fresh.snapshot.json = .ok () := by
    cases mode <;> rfl
  have listed : Dialogue.Runs (Supervised .ascii forced .fresh)
      (rpc "net.list" (.object []) : Step Empty JSONValue) [] [lanListing]
      (some (.ok NetworkRegistry.fresh.snapshot.json)) :=
    .ask lanListing ⟨⟨{}, fun _ => true, _, rfl, rfl⟩, rfl⟩ .done
  have created : Dialogue.Runs (Supervised .ascii forced .fresh)
      (createNetwork (lanStack mode) "lan" (lan mode) : Step Empty Unit)
      [lanListing] [lanCreation mode, lanListing] (some (.ok ())) :=
    .ask (lanCreation mode)
      ⟨⟨{}, fun _ => true, _, rfl, Prod.ext answered rfl⟩, rfl⟩ .done
  have checked : Dialogue.Runs (Supervised .ascii forced .fresh)
      (lift (validateNetworkOwnership smallLibrary (lanStack mode)
        NetworkRegistry.fresh.snapshot.json) : Step Empty Unit)
      [lanListing] [lanListing] (some (.ok ())) := by
    rw [passed]
    exact .done
  exact listed.bind (checked.bind (created.bind .done))

/-- The mode `shared` is stored as it is given. -/
theorem sharedLan_repeats :
    Quiet (reports (now .fresh [lanCreation .shared, lanListing]) false)
      (ensureNetworks smallLibrary (lanStack .shared)) () [] := by
  refine (ensureNetworks_repeats_iff .ascii smallLibrary (lanStack .shared)
    .fresh (Transitions.Runs.refl _) false false
    [lanCreation .shared, lanListing] (lan_runs .shared false)).mpr ?_
  have only : ∀ name network,
      (lanStack .shared).networks.lookup name = some network →
        name = "lan" ∧ network = lan .shared := by
    intro name network found
    have member := mem_inOrder_iff.mpr found
    have single : inOrder (lanStack .shared).networks =
        [⟨"lan", lan .shared⟩] := rfl
    rw [single, List.mem_singleton] at member
    cases member
    exact ⟨rfl, rfl⟩
  constructor
  · intro name network found
    rw [(only name network found).2]
    exact ⟨rfl, lanCidr, by rfl, by rfl⟩
  · intro name network otherName other found otherFound different
    exact absurd ((only name network found).1.trans
      (only otherName other otherFound).1.symm) different

/-- A network with the mode `host` is accepted and created as `shared`; a
second run wants it changed. -/
theorem hostLan_is_changed :
    Accepted smallLibrary (lanStack .host).toEnvironment ∧
      Dialogue.Runs (Supervised .ascii false .fresh)
        (ensureNetworks smallLibrary (lanStack .host) : Step Empty Unit) []
        [lanCreation .host, lanListing] (some (.ok ())) ∧
      (play (reports (now .fresh [lanCreation .host, lanListing]) false)
        (ensureNetworks smallLibrary (lanStack .host)) []).2 =
          .error (recreateRequired "lan") ∧
      ∀ again,
        ¬ Quiet (reports (now .fresh [lanCreation .host, lanListing]) again)
          (ensureNetworks smallLibrary (lanStack .host)) () [] := by
  refine ⟨⟨by rfl, by rfl, by rfl⟩,
    lan_runs .host false, by decide +kernel, ?_⟩
  intro again quiet
  have settled := (quiet_ensureNetworks_iff.mp quiet).2 ⟨"lan", lan .host⟩
    (by decide)
  obtain ⟨passed, brought⟩ := brought_of_run (lan_runs .host false)
  rw [settled_iff_storedAsGiven (by simp [NetworkRegistry.fresh,
    NetworkDatabase.fresh]) brought rfl] at settled
  cases settled.1

end Reconciler

end Vzctl
