import Vzctl.Reconciler.EnsureNetworks
import Vzctl.Supervisor.NetworkRPC

/-!
# What `ensure_networks` leaves

The step runs against the supervisor that serves its requests.  A run that
succeeds leaves the networks that it found, apart from those it replaced, and
one for each network of the configuration.
-/

namespace Vzctl

namespace Reconciler

open Config Dialogue Procedure
open Inputs (member)
open NetworkRegistry (newRecord checkCreate)

/-! ## The supervisor -/

section Supervisor

variable (foundation : Foundation) (permitted : Bool)

/-- A request with a result has been served; one without may have been. -/
def Serves (method : String) (params : JSONValue) (before : NetworkRegistry)
    (reply : Reply) (after : NetworkRegistry) : Prop :=
  match reply with
  | .result value => ∃ env vmIsStopped procedure,
      NetworkRPC.handle foundation env vmIsStopped method params =
        some procedure ∧
      procedure before = (.ok value, after)
  | _ => after = before ∨ ∃ env vmIsStopped procedure,
      NetworkRPC.handle foundation env vmIsStopped method params =
        some procedure ∧
      after = (procedure before).2

/-- The exchanges of a run whose `options.force` is `permitted`. -/
def Lawful (exchange : Exchange NetworkRegistry (Command Empty) Reply) :
    Prop :=
  match exchange.command with
  | .rpc method params =>
      Serves foundation method params exchange.before exchange.reply
        exchange.after
  | .force =>
      exchange.reply = .result (.bool permitted) ∧
        exchange.after = exchange.before
  | .host call => nomatch call

/-- What the step finds after some exchanges, and nobody else changes. -/
abbrev Supervised (start : NetworkRegistry) :
    Condition NetworkRegistry (Command Empty) Reply :=
  undisturbed start (Lawful foundation permitted)

variable {foundation permitted} {start : NetworkRegistry}
  {past : History NetworkRegistry (Command Empty) Reply}

theorem returns_rpc_bind {β : Type}
    {post : β → History NetworkRegistry (Command Empty) Reply → Prop}
    {method : String} {params : JSONValue} {next : JSONValue → Step Empty β}
    (succeeds : ∀ value (exchange :
        Exchange NetworkRegistry (Command Empty) Reply),
      Serves foundation method params (now start past) (.result value)
          exchange.after →
        Returns (Supervised foundation permitted start) post (next value)
          (exchange :: past)) :
    Returns (Supervised foundation permitted start) post
      (rpc method params >>= next) past := by
  apply Returns.request_bind
  intro exchange lawful asked value answered
  obtain ⟨isLawful, follows⟩ := lawful
  rw [Lawful, asked] at isLawful
  apply succeeds
  rw [← follows]
  cases replied : exchange.reply with
  | result other =>
      rw [replied] at answered isLawful
      rw [← Except.ok.inj answered]
      exact isLawful
  | rejected code message =>
      rw [replied] at answered
      cases answered
  | broken message =>
      rw [replied] at answered
      cases answered

theorem returns_force_bind {β : Type}
    {post : β → History NetworkRegistry (Command Empty) Reply → Prop}
    {next : Bool → Step Empty β}
    (succeeds : ∀ exchange : Exchange NetworkRegistry (Command Empty) Reply,
      exchange.after = now start past →
        Returns (Supervised foundation permitted start) post (next permitted)
          (exchange :: past)) :
    Returns (Supervised foundation permitted start) post (force >>= next)
      past := by
  apply Returns.request_bind
  intro exchange lawful asked value answered
  obtain ⟨isLawful, follows⟩ := lawful
  rw [Lawful, asked] at isLawful
  have isPermitted : value = permitted := by
    rw [isLawful.1] at answered
    cases permitted <;> cases answered <;> rfl
  rw [isPermitted]
  apply succeeds
  rw [isLawful.2, follows]

end Supervisor

/-! ## Requests that succeed -/

section Requests

variable {foundation : Foundation} {before after : NetworkRegistry}
  {stack : Stack} {name : String} {network : NetworkConfig}
  {params value : JSONValue}

/-- The request that the supervisor reads from the parameters. -/
def requestFor (stack : Stack) (name : String) (network : NetworkConfig) :
    CreateRequest where
  name := name
  cidr := network.cidr
  mode := "shared"
  natEgress := network.natEgress
  backend := network.backend.text
  labels := [("managed-by", "vzctl")]
  project := some stack.project
  stack := some stack.id

theorem createRequest_createParams {request : CreateRequest}
    (read : NetworkRPC.createRequest (createParams stack name network) =
      .ok request) :
    request = requestFor stack name network := by
  simp only [NetworkRPC.createRequest, createParams, EdgeRPC.networkParams,
    Outcome.bind_eq_ok_iff, Except.ok.injEq, exists_eq_left'] at read
  obtain ⟨backend, isBackend, named, isNamed, cidr, isCidr, mode, isMode,
    labels, isLabels, project, isProject, stackID, isStack, made⟩ := read
  have backendSame :=
    ((EdgeRPC.optionalString_eq_ok_iff rfl).mp isBackend).2
  have nameSame := ((EdgeRPC.requiredString_eq_ok_iff rfl).mp isNamed).2
  have cidrSame := ((EdgeRPC.requiredString_eq_ok_iff rfl).mp isCidr).2
  have modeSame := ((EdgeRPC.optionalString_eq_ok_iff rfl).mp isMode).2
  have projectSame :=
    ((EdgeRPC.optionalString_eq_ok_iff rfl).mp isProject).2
  have stackSame := ((EdgeRPC.optionalString_eq_ok_iff rfl).mp isStack).2
  have labelsSame : [("managed-by", "vzctl")] = labels :=
    Except.ok.inj isLabels
  rw [← Except.ok.inj made, ← backendSame, ← nameSame, ← cidrSame,
    ← modeSame, ← projectSame, ← stackSame, ← labelsSame]
  rfl

theorem deleteRequest_deleteParams {existing : JSONValue} {id : String}
    {request : String × Option String}
    (isId : identity existing = .string id)
    (read : NetworkRPC.deleteRequest (deleteParams stack existing) =
      .ok request) :
    request = (id, some stack.project) := by
  rw [deleteParams, isId] at read
  simp only [NetworkRPC.deleteRequest, EdgeRPC.networkParams,
    Outcome.bind_eq_ok_iff, Except.ok.injEq, exists_eq_left'] at read
  obtain ⟨named, isNamed, project, isProject, made⟩ := read
  have nameSame := ((EdgeRPC.requiredString_eq_ok_iff rfl).mp isNamed).2
  have projectSame :=
    ((EdgeRPC.optionalString_eq_ok_iff rfl).mp isProject).2
  rw [← Except.ok.inj made, ← nameSame, ← projectSame]

theorem registry_of_list
    (served : Serves foundation "net.list" params before (.result value)
      after) :
    value = before.snapshot.json ∧ after = before := by
  obtain ⟨env, vmIsStopped, procedure, isProcedure, ran⟩ := served
  rw [← Option.some.inj isProcedure] at ran
  have sameValue := congrArg Prod.fst ran
  have sameRegistry := congrArg Prod.snd ran
  exact ⟨(Except.ok.inj sameValue).symm, sameRegistry.symm⟩

/-- The record that the supervisor makes for a network of the
configuration. -/
def MadeFor (foundation : Foundation) (stack : Stack) (name : String)
    (network : NetworkConfig) (record : NetworkRecord) : Prop :=
  ∃ env cidr,
    checkCreate foundation (requestFor stack name network) = .ok cidr ∧
      record = newRecord env (requestFor stack name network) cidr

theorem networks_of_create
    (served : Serves foundation "net.create"
      (createParams stack name network) before (.result value) after) :
    ∃ record, MadeFor foundation stack name network record ∧
      after.database.networkTable.rows =
        before.database.networkTable.rows ++ [record] := by
  obtain ⟨env, vmIsStopped, procedure, isProcedure, ran⟩ := served
  rw [← Option.some.inj isProcedure] at ran
  obtain ⟨request, cidr, read, checked, rows⟩ :=
    NetworkRPC.create_returns.of_returned ran
  rw [createRequest_createParams read] at checked rows
  exact ⟨_, ⟨env, cidr, checked, rfl⟩, rows⟩

theorem networks_of_detach
    (served : Serves foundation "net.detach" params before (.result value)
      after) :
    after.database.networkTable.rows =
      before.database.networkTable.rows := by
  obtain ⟨env, vmIsStopped, procedure, isProcedure, ran⟩ := served
  rw [← Option.some.inj isProcedure] at ran
  exact NetworkRPC.detach_returns.of_returned ran

theorem networks_of_delete {existing : JSONValue} {id : String}
    (isId : identity existing = .string id)
    (served : Serves foundation "net.delete" (deleteParams stack existing)
      before (.result value) after) :
    ∃ network ∈ before.database.networkTable.rows,
      (∀ other ∈ before.database.networkTable.rows,
        other.id = id ∨ other.name = id →
          other.project = some stack.project → other = network) ∧
        after.database.networkTable.rows =
          before.database.networkTable.rows.filter (·.id ≠ network.id) := by
  obtain ⟨env, vmIsStopped, procedure, isProcedure, ran⟩ := served
  rw [← Option.some.inj isProcedure] at ran
  have read : ∀ request,
      NetworkRPC.deleteRequest (deleteParams stack existing) = .ok request →
        request = (id, some stack.project) := by
    intro request isRequest
    exact deleteRequest_deleteParams isId isRequest
  exact (NetworkRPC.delete_returns read).of_returned ran

end Requests

/-! ## Networks of the registry -/

section Registry

variable {stack : Stack} {name : String} {registry : NetworkRegistry}
  {record : NetworkRecord}

theorem isOwn_json_iff :
    isOwn stack name record.json = true ↔
      record.name = name ∧ record.project = some stack.project := by
  have texts : member record.json "name" = .string record.name := rfl
  have projects : member record.json "project" =
      NetworkTypes.optional record.project := rfl
  rw [isOwn, texts, projects, Bool.and_eq_true, decide_eq_true_eq,
    decide_eq_true_eq, JSONValue.string.injEq]
  refine and_congr_right fun _ => ?_
  cases record.project with
  | none => simp [NetworkTypes.optional]
  | some project => simp [NetworkTypes.optional]

theorem networks_snapshot :
    items (member registry.snapshot.json "networks") =
      registry.database.networks.map NetworkRecord.json :=
  rfl

theorem identity_json : identity record.json = .string record.id := rfl

theorem exists_of_find {existing : JSONValue}
    (found : (items (member registry.snapshot.json "networks")).find?
      (isOwn stack name) = some existing) :
    ∃ record ∈ registry.database.networkTable.rows, record.json = existing ∧
      record.name = name ∧ record.project = some stack.project := by
  have isOwned := List.find?_some found
  have member := List.mem_of_find?_eq_some found
  rw [networks_snapshot] at member
  obtain ⟨record, isRecord, same⟩ := List.mem_map.mp member
  rw [← same, isOwn_json_iff] at isOwned
  exact ⟨record, NetworkDatabase.mem_networks.mp isRecord, same, isOwned⟩

theorem MadeFor.isOwned {foundation : Foundation} {network : NetworkConfig}
    (made : MadeFor foundation stack name network record) :
    record.name = name ∧ record.project = some stack.project := by
  obtain ⟨env, cidr, _, same⟩ := made
  rw [same]
  exact ⟨rfl, rfl⟩

end Registry

/-! ## A run of the step -/

abbrev Entry := Sigma fun _ : String => NetworkConfig

/-- The registry behind some rounds of the loop. -/
structure Brought (foundation : Foundation) (stack : Stack)
    (initial : NetworkRegistry) (entries : List Entry)
    (registry : NetworkRegistry) : Prop where
  origin : ∀ record ∈ registry.database.networkTable.rows,
    record ∈ initial.database.networkTable.rows ∨
      ∃ entry ∈ entries, MadeFor foundation stack entry.1 entry.2 record
  present : ∀ entry ∈ entries,
    ∃ record ∈ registry.database.networkTable.rows,
      (record.name = entry.1 ∧ record.project = some stack.project) ∧
        (record ∈ initial.database.networkTable.rows ∧
            networkChanged record.json entry.2 = false ∨
          MadeFor foundation stack entry.1 entry.2 record)
  kept : ∀ record ∈ initial.database.networkTable.rows,
    (∀ entry ∈ entries,
      ¬ (record.name = entry.1 ∧ record.project = some stack.project)) →
    record ∈ registry.database.networkTable.rows

namespace Brought

variable {foundation : Foundation} {stack : Stack}
  {initial before after : NetworkRegistry} {entries : List Entry}
  {entry : Entry} {record : NetworkRecord}

theorem nil : Brought foundation stack initial [] initial where
  origin := fun _ member => .inl member
  present := by simp
  kept := fun _ member _ => member

theorem of_same (brought : Brought foundation stack initial entries before)
    (same : after.database.networkTable.rows =
      before.database.networkTable.rows) :
    Brought foundation stack initial entries after := by
  obtain ⟨origin, present, kept⟩ := brought
  rw [← same] at origin kept
  refine ⟨origin, ?_, kept⟩
  intro entry member
  obtain ⟨record, isRecord, rest⟩ := present entry member
  rw [← same] at isRecord
  exact ⟨record, isRecord, rest⟩

theorem unchanged (brought : Brought foundation stack initial entries before)
    (fresh : ∀ other ∈ entries, other.1 ≠ entry.1)
    (recorded : record ∈ initial.database.networkTable.rows)
    (isOwned : record.name = entry.1 ∧ record.project = some stack.project)
    (same : networkChanged record.json entry.2 = false) :
    Brought foundation stack initial (entries ++ [entry]) before where
  origin other member := by
    refine (brought.origin other member).imp_right ?_
    intro made
    obtain ⟨source, inEntries, isMade⟩ := made
    exact ⟨source, List.mem_append_left _ inEntries, isMade⟩
  present other member := by
    rcases List.mem_append.mp member with old | new
    · exact brought.present other old
    · rw [List.mem_singleton.mp new]
      refine ⟨record, ?_, isOwned, .inl ⟨recorded, same⟩⟩
      apply brought.kept record recorded
      intro other inEntries named
      exact fresh other inEntries (named.1.symm.trans isOwned.1)
  kept other member distinct := by
    apply brought.kept other member
    intro source inEntries
    exact distinct source (List.mem_append_left _ inEntries)

theorem replaced (brought : Brought foundation stack initial entries before)
    (fresh : ∀ other ∈ entries, other.1 ≠ entry.1)
    (made : MadeFor foundation stack entry.1 entry.2 record)
    (added : record ∈ after.database.networkTable.rows)
    (subset : ∀ other ∈ after.database.networkTable.rows,
      other ∈ before.database.networkTable.rows ∨ other = record)
    (others : ∀ other ∈ before.database.networkTable.rows,
      ¬ (other.name = entry.1 ∧ other.project = some stack.project) →
        other ∈ after.database.networkTable.rows) :
    Brought foundation stack initial (entries ++ [entry]) after where
  origin other member := by
    rcases subset other member with old | new
    · refine (brought.origin other old).imp_right ?_
      intro isMade
      obtain ⟨source, inEntries, madeFor⟩ := isMade
      exact ⟨source, List.mem_append_left _ inEntries, madeFor⟩
    · rw [new]
      exact .inr ⟨entry, List.mem_append_right _ List.mem_cons_self, made⟩
  present other member := by
    rcases List.mem_append.mp member with old | new
    · obtain ⟨found, isFound, named, rest⟩ := brought.present other old
      refine ⟨found, others found isFound ?_, named, rest⟩
      intro sameName
      exact fresh other old (named.1.symm.trans sameName.1)
    · rw [List.mem_singleton.mp new]
      exact ⟨record, added, made.isOwned, .inr made⟩
  kept other member distinct := by
    refine others other (brought.kept other member ?_) ?_
    · intro source inEntries
      exact distinct source (List.mem_append_left _ inEntries)
    · exact distinct entry (List.mem_append_right _ List.mem_cons_self)

end Brought

section Round

variable {foundation : Foundation} {permitted : Bool} {stack : Stack}
  {start : NetworkRegistry} {entries : List Entry} {entry : Entry}
  {past : History NetworkRegistry (Command Empty) Reply}

theorem returns_removeNetwork {snapshot existing : JSONValue} {id : String}
    {networks : List NetworkRecord}
    (isId : identity existing = .string id)
    (found : (now start past).database.networkTable.rows = networks) :
    Returns (Supervised foundation permitted start)
      (fun _ history => ∃ network ∈ networks,
        (∀ other ∈ networks, other.id = id ∨ other.name = id →
          other.project = some stack.project → other = network) ∧
          (now start history).database.networkTable.rows =
            networks.filter (·.id ≠ network.id))
      (removeNetwork stack snapshot existing : Step Empty Unit) past := by
  apply Returns.bind
  have round : ∀ (attachment : JSONValue)
      (reached : History NetworkRegistry (Command Empty) Reply),
      (now start reached).database.networkTable.rows = networks →
        Returns (Supervised foundation permitted start)
          (fun _ history =>
            (now start history).database.networkTable.rows = networks)
          (rpc "net.detach" (detachParams stack existing attachment) >>=
            fun _ => pure () : Step Empty Unit) reached := by
    intro attachment reached rows
    apply returns_rpc_bind
    intro value exchange served
    apply Returns.of_pure
    exact (networks_of_detach served).trans rows
  refine (Returns.forM (fun _ history =>
    (now start history).database.networkTable.rows = networks)
    (fun _ attachment _ _ => round attachment) found).mono ?_
  intro _ history rows
  apply returns_rpc_bind
  intro value exchange served
  apply Returns.of_pure
  rw [← rows]
  exact networks_of_delete isId served

theorem returns_createNetwork {networks : List NetworkRecord}
    (found : (now start past).database.networkTable.rows = networks) :
    Returns (Supervised foundation permitted start)
      (fun _ history => ∃ record,
        MadeFor foundation stack entry.1 entry.2 record ∧
          (now start history).database.networkTable.rows =
            networks ++ [record])
      (createNetwork stack entry.1 entry.2 : Step Empty Unit) past := by
  apply returns_rpc_bind
  intro value exchange served
  apply Returns.of_pure
  rw [← found]
  exact networks_of_create served

theorem returns_ensureNetwork
    (fresh : ∀ other ∈ entries, other.1 ≠ entry.1)
    (brought : Brought foundation stack start entries (now start past)) :
    Returns (Supervised foundation permitted start)
      (fun _ history =>
        Brought foundation stack start (entries ++ [entry])
          (now start history))
      (ensureNetwork stack start.snapshot.json entry.1 entry.2 :
        Step Empty Unit) past := by
  rw [ensureNetwork]
  split
  · rename_i existing isFound
    obtain ⟨record, recorded, isRecord, isOwned⟩ := exists_of_find isFound
    rw [← isRecord]
    split
    · apply returns_force_bind
      intro looked sameRegistry
      have rows : (now start (looked :: past)).database.networkTable.rows =
          (now start past).database.networkTable.rows :=
        congrArg (fun registry : NetworkRegistry =>
          registry.database.networkTable.rows) sameRegistry
      cases permitted with
      | false => exact Returns.of_error
      | true =>
          apply Returns.bind
          refine (returns_removeNetwork identity_json rows).mono ?_
          intro _ removed deleted
          obtain ⟨gone, isGone, unique, remaining⟩ := deleted
          refine (returns_createNetwork remaining).mono ?_
          intro _ history created
          obtain ⟨new, made, added⟩ := created
          have present : record ∈
              (now start past).database.networkTable.rows := by
            apply brought.kept record recorded
            intro other inEntries named
            exact fresh other inEntries (named.1.symm.trans isOwned.1)
          have isIt := unique record present (.inl rfl) isOwned.2
          apply brought.replaced fresh made
          · rw [added]
            exact List.mem_append_right _ List.mem_cons_self
          · intro other member
            rw [added, List.mem_append, List.mem_singleton] at member
            exact member.imp_left List.mem_of_mem_filter
          · intro other member notOwned
            rw [added, List.mem_append, List.mem_filter, decide_eq_true_eq]
            refine .inl ⟨member, ?_⟩
            intro sameId
            apply notOwned
            rw [NetworkDatabase.eq_of_id_eq member isGone sameId, ← isIt]
            exact isOwned
    · rename_i same
      apply Returns.of_pure
      exact brought.unchanged fresh recorded isOwned
        (Bool.eq_false_iff.mpr same)
  · refine (returns_createNetwork rfl).mono ?_
    intro _ history created
    obtain ⟨new, made, added⟩ := created
    apply brought.replaced fresh made
    · rw [added]
      exact List.mem_append_right _ List.mem_cons_self
    · intro other member
      rw [added, List.mem_append, List.mem_singleton] at member
      exact member
    · intro other member _
      rw [added]
      exact List.mem_append_left _ member

end Round

section Run

variable {foundation : Foundation} {permitted : Bool} {library : Library}
  {stack : Stack} {start : NetworkRegistry}
  {history : History NetworkRegistry (Command Empty) Reply}

theorem nodup_names (networks : Dictionary NetworkConfig) :
    ((inOrder networks).map Sigma.fst).Nodup := by
  have permuted : (inOrder networks).Perm networks.entries :=
    SortedBy.perm_sortedBy
  exact (permuted.map Sigma.fst).nodup_iff.mpr networks.nodupKeys

/-- A run that succeeds has passed the checks of the ownership and leaves a
network for each of the configuration. -/
theorem brought_of_run
    (run : Dialogue.Runs (Supervised foundation permitted start)
      (ensureNetworks library stack : Step Empty Unit) [] history
      (some (.ok ()))) :
    validateNetworkOwnership library stack start.snapshot.json = .ok () ∧
      Brought foundation stack start (inOrder stack.networks)
        (now start history) := by
  have round : ∀ finished entry rest,
      inOrder stack.networks = finished ++ entry :: rest →
      ∀ reached, Brought foundation stack start finished (now start reached) →
        Returns (Supervised foundation permitted start)
          (fun _ history => Brought foundation stack start
            (finished ++ [entry]) (now start history))
          (ensureNetwork stack start.snapshot.json entry.1 entry.2) reached := by
    intro finished entry rest split reached brought
    have distinct := nodup_names stack.networks
    rw [split, List.map_append, List.nodup_append] at distinct
    apply returns_ensureNetwork _ brought
    intro other isFinished
    exact distinct.2.2 other.1 (List.mem_map_of_mem isFinished) entry.1
      List.mem_cons_self
  have returns : Returns (Supervised foundation permitted start)
      (fun _ history =>
        validateNetworkOwnership library stack start.snapshot.json = .ok () ∧
          Brought foundation stack start (inOrder stack.networks)
            (now start history))
      (ensureNetworks library stack) [] := by
    apply returns_rpc_bind
    intro value exchange served
    obtain ⟨isSnapshot, sameRegistry⟩ := registry_of_list served
    rw [isSnapshot]
    apply Returns.lift_bind
    intro _ passed
    have listed : Brought foundation stack start []
        (now start [exchange]) := by
      apply Brought.nil.of_same
      rw [now, sameRegistry]
      rfl
    exact (Returns.forM (fun entries history => Brought foundation stack start
      entries (now start history)) round listed).mono
        fun _ _ brought => ⟨passed, brought⟩
  exact run.of_returns returns

end Run

end Reconciler

end Vzctl
