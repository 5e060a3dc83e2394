import Vzctl.Supervisor.NetworkFallback

/-!
# When the fallback restores what it stops

Every failure leads to an early return.  Nothing is undone on the way out, so a
failure behind the first stopped VM leaves that VM down, unless it is the
failure of the very last start.
-/

namespace Vzctl

namespace NetworkRegistry

variable {registry : NetworkRegistry} {env : RegistryEnv} {name : String}
  {project : Option String}

theorem releaseCurrent_of_recreateRuntime
    (recreated : (recreateRuntime env name project registry).1 = .ok ()) :
    ∃ network, (releaseCurrent env name project registry).1 =
      .ok network := by
  have performed : recreateRuntime env name project registry =
      (.ok (), (recreateRuntime env name project registry).2) := by
    rw [← recreated]
  obtain ⟨_, first, isRunning, performed⟩ :=
    Procedure.exists_of_bind_run performed
  obtain ⟨network, second, resolved, performed⟩ :=
    Procedure.exists_of_bind_run performed
  obtain ⟨_, third, isVmnet, performed⟩ :=
    Procedure.exists_of_bind_run performed
  obtain ⟨held, fourth, looked, performed⟩ :=
    Procedure.exists_of_bind_run performed
  obtain ⟨_, fifth, isHeld, performed⟩ :=
    Procedure.exists_of_bind_run performed
  obtain ⟨_, sixth, removed, performed⟩ :=
    Procedure.exists_of_bind_run performed
  have releases : ∃ reached, release env network.id sixth =
      (.ok (), reached) := by
    cases released : release env network.id sixth with
    | mk outcome reached =>
        cases outcome with
        | ok _ => exact ⟨reached, rfl⟩
        | error failure =>
            -- the `catch` of `recreateRuntime` always throws
            simp only [Procedure.orElse, Procedure.bind_run, released]
              at performed
            obtain ⟨_, _, _, failed⟩ :=
              Procedure.exists_of_bind_run performed
            cases failed
  obtain ⟨reached, released⟩ := releases
  refine ⟨network, ?_⟩
  rw [releaseCurrent, Procedure.bind_run_of_ok isRunning,
    Procedure.bind_run_of_ok resolved, Procedure.bind_run_of_ok isVmnet,
    Procedure.bind_run_of_ok looked, Procedure.bind_run_of_ok isHeld,
    Procedure.bind_run_of_ok removed, Procedure.bind_run_of_ok released]
  rfl

end NetworkRegistry

namespace FallbackEnv

variable {env : FallbackEnv} {result : NetworkRecoveryResult}
  {names : List String} {running : RunningVMs} {vmID name : String}

/-! ## The calls of the loops -/

theorem nodup_sortedKeys : running.sortedKeys.Nodup :=
  SortedBy.perm_sortedBy.nodup_iff.mpr running.nodupKeys

theorem orReturn_eq_ok_iff {accepted : Bool} :
    orReturn accepted = .ok () ↔ accepted = true := by
  cases accepted with
  | true => exact Iff.intro (fun _ => rfl) (fun _ => rfl)
  | false =>
      constructor
      · intro same
        cases same
      · intro same
        cases same

/-- The VMs that `vm.stop` is called for, from the last to the first. -/
def stopped (env : FallbackEnv) (running : RunningVMs) : List String :=
  Attempts.reached env.stopOutcome running.sortedKeys.reverse

/-- The VMs that `vm.start` is called for. -/
def restarted (env : FallbackEnv) (running : RunningVMs) : List String :=
  Attempts.reached env.startOutcome running.sortedKeys

/-- The networks that `recreateRuntime` is called for. -/
def visited (env : FallbackEnv) (names : List String) : List String :=
  Attempts.reached env.recreated names

def startCall (running : RunningVMs) (vmID : String) : FallbackCall :=
  .start vmID ((running.lookup vmID).getD "")

theorem stopVMs_run (log : List FallbackCall) :
    env.stopVMs running log =
      (Attempts.verdict env.stopOutcome running.sortedKeys.reverse,
        log ++ (stopped env running).map .stop) := by
  rw [stopVMs, Attempts.visit_run]
  rfl

theorem startVMs_eq_visit :
    env.startVMs running =
      Attempts.visit running.sortedKeys (startCall running)
        env.startOutcome := by
  rw [startVMs, Attempts.visit]
  apply Procedure.forEach_congr
  intro vmID member
  have listed : vmID ∈ running := SortedBy.mem_sortedBy.mp member
  obtain ⟨bundle, found⟩ :=
    Option.isSome_iff_exists.mp (AList.lookup_isSome.mpr listed)
  simp only [startCall, found, Option.getD_some]
  rfl

theorem startVMs_run (log : List FallbackCall) :
    env.startVMs running log =
      (Attempts.verdict env.startOutcome running.sortedKeys,
        log ++ (restarted env running).map (startCall running)) := by
  rw [startVMs_eq_visit, Attempts.visit_run]
  rfl

/-- What the fallback has called for when `recreateRuntime` is over, if no
call failed. -/
def recreateCalls (env : FallbackEnv) (names : List String) :
    List FallbackCall :=
  (visited env names).map .recreateRuntime

theorem recreateNetworks_of_ok (log : List FallbackCall)
    (recreates : ∀ name ∈ names, env.recreated name = .ok ()) :
    env.recreateNetworks names log =
      (.ok (), log ++ recreateCalls env names) := by
  rw [recreateNetworks, Procedure.orElse, Attempts.visit_run,
    Attempts.verdict_eq_ok_iff.mpr recreates]
  rfl

theorem recreateNetworks_of_error (log : List FallbackCall)
    (fails : ¬ ∀ name ∈ names, env.recreated name = .ok ()) :
    ∃ failure message, env.recreateNetworks names log =
      (.error failure,
        log ++ recreateCalls env names ++ [.degraded message]) := by
  cases called : Attempts.verdict env.recreated names with
  | ok _ => exact absurd (Attempts.verdict_eq_ok_iff.mp called) fails
  | error failure =>
      refine ⟨failure, "fallback network recreate failed: " ++
        (failure.map (·.description)).getD "", ?_⟩
      rw [recreateNetworks, Procedure.orElse, Attempts.visit_run, called]
      rfl

/-! ## The whole fallback -/

/-- The calls up to the last `vm.stop`. -/
def stopCalls (env : FallbackEnv) (names : List String)
    (running : RunningVMs) : List FallbackCall :=
  .restarting names running.sortedKeys :: (stopped env running).map .stop

/-- All VMs were stopped and their helpers have ended. -/
def AllDown (env : FallbackEnv) (running : RunningVMs) : Prop :=
  (∀ vmID ∈ running.sortedKeys, env.stops vmID = true) ∧
    env.stillActive = false

theorem stops_iff :
    Attempts.verdict env.stopOutcome running.sortedKeys.reverse = .ok () ↔
      ∀ vmID ∈ running.sortedKeys, env.stops vmID = true := by
  rw [Attempts.verdict_eq_ok_iff]
  simp only [List.mem_reverse]
  constructor
  · intro succeeds vmID member
    exact orReturn_eq_ok_iff.mp (succeeds vmID member)
  · intro succeeds vmID member
    exact orReturn_eq_ok_iff.mpr (succeeds vmID member)

theorem calls_of_no_plan (unplanned : env.plan result = none) :
    env.calls result = [] := by
  rw [calls, attempt, unplanned]
  rfl

theorem attempt_of_plan (planned : env.plan result = some (names, running)) :
    env.attempt result [] =
      (do
        env.stopVMs running
        .reading fun _ => orReturn (!env.stillActive)
        env.recreateNetworks names
        env.startVMs running
        return env.ready : FallbackM Bool)
        [.restarting names running.sortedKeys] := by
  rw [attempt, planned]
  rfl

theorem calls_of_not_allDown
    (planned : env.plan result = some (names, running))
    (notDown : ¬ AllDown env running) :
    env.calls result = stopCalls env names running := by
  rw [calls, attempt_of_plan planned, Procedure.bind_run, stopVMs_run]
  cases called : Attempts.verdict env.stopOutcome
      running.sortedKeys.reverse with
  | error failure => rfl
  | ok _ =>
      have stops := stops_iff.mp called
      have active : env.stillActive = true := by
        by_contra exits
        exact notDown ⟨stops, Bool.eq_false_iff.mpr exits⟩
      simp only [Procedure.bind_run, Procedure.reading_run, active]
      rfl

theorem attempt_of_allDown
    (planned : env.plan result = some (names, running))
    (down : AllDown env running) :
    env.attempt result [] =
      (do
        env.recreateNetworks names
        env.startVMs running
        return env.ready : FallbackM Bool)
        (stopCalls env names running) := by
  obtain ⟨stops, exits⟩ := down
  have stopsRun : env.stopVMs running
      [.restarting names running.sortedKeys] =
        (.ok (), stopCalls env names running) := by
    rw [stopVMs_run, stops_iff.mpr stops]
    rfl
  rw [attempt_of_plan planned, Procedure.bind_run_of_ok stopsRun, exits]
  rfl

theorem calls_of_not_recreated
    (planned : env.plan result = some (names, running))
    (down : AllDown env running)
    (fails : ¬ ∀ name ∈ names, env.recreated name = .ok ()) :
    ∃ message, env.calls result =
      stopCalls env names running ++ recreateCalls env names ++
        [.degraded message] := by
  obtain ⟨failure, message, ran⟩ :=
    recreateNetworks_of_error (stopCalls env names running) fails
  refine ⟨message, ?_⟩
  rw [calls, attempt_of_allDown planned down, Procedure.bind_run, ran]

theorem calls_of_recreated
    (planned : env.plan result = some (names, running))
    (down : AllDown env running)
    (recreates : ∀ name ∈ names, env.recreated name = .ok ()) :
    env.calls result =
      stopCalls env names running ++ recreateCalls env names ++
        (restarted env running).map (startCall running) := by
  have ran := recreateNetworks_of_ok (stopCalls env names running) recreates
  rw [calls, attempt_of_allDown planned down, Procedure.bind_run_of_ok ran,
    Procedure.bind_run, startVMs_run]
  cases Attempts.verdict env.startOutcome running.sortedKeys with
  | ok _ => rfl
  | error failure => rfl

theorem calls_cases (planned : env.plan result = some (names, running)) :
    (¬ AllDown env running ∧
      env.calls result = stopCalls env names running) ∨
    (AllDown env running ∧
      (¬ ∀ name ∈ names, env.recreated name = .ok ()) ∧
      ∃ message, env.calls result = stopCalls env names running ++
        recreateCalls env names ++ [.degraded message]) ∨
    (AllDown env running ∧
      (∀ name ∈ names, env.recreated name = .ok ()) ∧
      env.calls result = stopCalls env names running ++
        recreateCalls env names ++
        (restarted env running).map (startCall running)) := by
  by_cases down : AllDown env running
  · by_cases recreates : ∀ name ∈ names, env.recreated name = .ok ()
    · exact .inr (.inr ⟨down, recreates,
        calls_of_recreated planned down recreates⟩)
    · exact .inr (.inl ⟨down, recreates,
        calls_of_not_recreated planned down recreates⟩)
  · exact .inl ⟨down, calls_of_not_allDown planned down⟩

theorem stop_mem_calls_iff
    (planned : env.plan result = some (names, running)) :
    .stop vmID ∈ env.calls result ↔ vmID ∈ stopped env running := by
  rcases calls_cases planned with ⟨_, made⟩ | ⟨_, _, message, made⟩ |
    ⟨_, _, made⟩
  · rw [made]
    simp [stopCalls]
  · rw [made]
    simp [stopCalls, recreateCalls]
  · rw [made]
    simp [stopCalls, recreateCalls, startCall]

theorem of_start_mem_calls {bundle : String}
    (planned : env.plan result = some (names, running))
    (member : .start vmID bundle ∈ env.calls result) :
    AllDown env running ∧ (∀ name ∈ names, env.recreated name = .ok ()) ∧
      vmID ∈ restarted env running := by
  rcases calls_cases planned with ⟨_, made⟩ | ⟨_, _, message, made⟩ |
    ⟨down, recreates, made⟩
  · rw [made] at member
    simp [stopCalls] at member
  · rw [made] at member
    simp [stopCalls, recreateCalls] at member
  · rw [made] at member
    simp only [stopCalls, recreateCalls, startCall, List.cons_append,
      List.mem_cons, List.mem_append, List.mem_map, reduceCtorEq,
      and_false, exists_false, false_or, FallbackCall.start.injEq] at member
    obtain ⟨started, listed, same, _⟩ := member
    exact ⟨down, recreates, same ▸ listed⟩

theorem start_mem_calls (planned : env.plan result = some (names, running))
    (down : AllDown env running)
    (recreates : ∀ name ∈ names, env.recreated name = .ok ())
    (member : vmID ∈ restarted env running) :
    startCall running vmID ∈ env.calls result := by
  rw [calls_of_recreated planned down recreates]
  exact List.mem_append_right _ (List.mem_map_of_mem member)

theorem of_recreate_mem_calls
    (planned : env.plan result = some (names, running))
    (member : .recreateRuntime name ∈ env.calls result) :
    AllDown env running ∧ name ∈ names := by
  have inVisited (listed : name ∈ visited env names) : name ∈ names :=
    Attempts.mem_of_mem_reached listed
  rcases calls_cases planned with ⟨_, made⟩ | ⟨down, _, message, made⟩ |
    ⟨down, _, made⟩
  · rw [made] at member
    simp [stopCalls] at member
  · rw [made] at member
    refine ⟨down, inVisited ?_⟩
    simpa [stopCalls, recreateCalls] using member
  · rw [made] at member
    refine ⟨down, inVisited ?_⟩
    simpa [stopCalls, recreateCalls, startCall] using member

/-! ## Restoring -/

theorem sortedKeys_reverse_eq (last : String) (front : List String)
    (split : running.sortedKeys = front ++ [last]) :
    running.sortedKeys.reverse = last :: front.reverse := by
  rw [split, List.reverse_append]
  rfl

theorem keys_of_plan (planned : env.plan result = some (names, running)) :
    running.keys ≠ [] := by
  unfold plan at planned
  dsimp only at planned
  split at planned
  · cases planned
  · split at planned
    · split at planned
      · split at planned
        · cases planned
        · rename_i nonempty
          rw [← (Prod.mk.inj (Option.some.inj planned)).2]
          intro empty
          exact nonempty (by rw [empty]; rfl)
      · cases planned
    · cases planned

theorem exists_last (planned : env.plan result = some (names, running)) :
    ∃ front last, running.sortedKeys = front ++ [last] := by
  have nonempty : running.sortedKeys ≠ [] := by
    intro empty
    have noKeys : running.keys = [] := by
      have length := congrArg List.length empty
      rw [RunningVMs.sortedKeys, SortedBy.length_sortedBy] at length
      exact List.length_eq_zero_iff.mp length
    exact keys_of_plan planned noKeys
  exact ⟨running.sortedKeys.dropLast, running.sortedKeys.getLast nonempty,
    (List.dropLast_concat_getLast nonempty).symm⟩

theorem completes_of_restores
    (planned : env.plan result = some (names, running))
    (restores : env.Restores (env.calls result)) :
    env.RefusedAtOnce running ∨ env.Completes names running := by
  obtain ⟨front, last, split⟩ := exists_last planned
  by_cases stops : env.stops last = true
  · right
    have first : last ∈ stopped env running := by
      rw [stopped, sortedKeys_reverse_eq last front split]
      exact Attempts.head_mem_reached
    obtain ⟨bundle, starts⟩ :=
      restores.vms last ((stop_mem_calls_iff planned).mpr first) stops
    obtain ⟨down, recreates, reached⟩ := of_start_mem_calls planned starts
    have fresh : last ∉ front := by
      have nodup : running.sortedKeys.Nodup := nodup_sortedKeys
      rw [split, List.nodup_append] at nodup
      intro member
      exact nodup.2.2 last member last List.mem_cons_self rfl
    rw [restarted, split] at reached
    have earlier := Attempts.succeeds_of_reached reached fresh
    refine ⟨down.1, down.2, recreates, ?_⟩
    intro vmID member
    rw [split, List.dropLast_concat] at member
    exact orReturn_eq_ok_iff.mp (earlier vmID member)
  · left
    intro vmID isLast
    rw [split, List.getLast?_concat] at isLast
    rw [← Option.some.inj isLast]
    exact Bool.eq_false_iff.mpr stops

theorem restores_of_refused
    (planned : env.plan result = some (names, running))
    (refused : env.RefusedAtOnce running) :
    env.Restores (env.calls result) := by
  obtain ⟨front, last, split⟩ := exists_last planned
  have lastRefuses : env.stops last = false :=
    refused last (by rw [split, List.getLast?_concat])
  have fails : env.stopOutcome last =
      .error none := by
    rw [stopOutcome, lastRefuses]
    rfl
  constructor
  · intro vmID member succeeds
    have listed := (stop_mem_calls_iff planned).mp member
    rw [stopped, sortedKeys_reverse_eq last front split,
      Attempts.reached_cons_of_error fails] at listed
    rw [List.mem_singleton.mp listed, lastRefuses] at succeeds
    cases succeeds
  · intro name member
    obtain ⟨down, _⟩ := of_recreate_mem_calls planned member
    have succeeds := down.1 last (by rw [split]; simp)
    rw [lastRefuses] at succeeds
    cases succeeds

theorem restores_of_completes
    (planned : env.plan result = some (names, running))
    (completes : env.Completes names running) :
    env.Restores (env.calls result) := by
  have all : restarted env running = running.sortedKeys := by
    apply Attempts.reached_eq_self
    intro vmID member
    exact orReturn_eq_ok_iff.mpr (completes.starts vmID member)
  constructor
  · intro vmID member _
    have listed := Attempts.mem_of_mem_reached
      ((stop_mem_calls_iff planned).mp member)
    have reached : vmID ∈ restarted env running := by
      rw [all]
      exact List.mem_reverse.mp listed
    exact ⟨_, start_mem_calls planned ⟨completes.stops, completes.exits⟩
      completes.recreates reached⟩
  · intro name member _
    obtain ⟨_, listed⟩ := of_recreate_mem_calls planned member
    have recreates := completes.recreates name listed
    exact NetworkRegistry.releaseCurrent_of_recreateRuntime
      (Outcome.mapError_eq_ok_iff.mp recreates)

end FallbackEnv

/-- The fallback restores what it stops exactly when it stops nothing, when
the very first `vm.stop` fails, or when nothing fails before the last
`vm.start`. -/
theorem fallback_restores_iff (env : FallbackEnv)
    (result : NetworkRecoveryResult) :
    env.Restores (env.calls result) ↔
      ∀ names running, env.plan result = some (names, running) →
        env.RefusedAtOnce running ∨ env.Completes names running := by
  constructor
  · intro restores names running planned
    exact FallbackEnv.completes_of_restores planned restores
  · intro completes
    cases planned : env.plan result with
    | none =>
        rw [FallbackEnv.calls_of_no_plan planned]
        constructor
        · intro vmID member
          cases member
        · intro name member
          cases member
    | some plan =>
        rcases completes plan.1 plan.2 planned with refused | completes
        · exact FallbackEnv.restores_of_refused planned refused
        · exact FallbackEnv.restores_of_completes planned completes

/-! ## A VM that stays down -/

/-- The network `lan` of the stack `shop`, reserved in vz-net. -/
def shopLanRegistry : NetworkRegistry :=
  RegistryCall.perform .ascii .fresh ({}, .create {
    name := "lan"
    cidr := "10.80.0.0/24"
    project := some "shop"
    stack := some "shop" })

def shopLanAttachment : NetworkAttachmentRecord where
  vmID := "shop/web"
  networkID := "shop/lan"
  networkName := "lan"
  ip := "10.80.0.10"
  labels := []
  project := some "shop"
  stack := some "shop"
  updatedAt := ""

def stuckWebHelper : HelperRecord where
  vmID := "shop/web"
  state := .running
  pid := 100
  bundle := "/vms/web"
  lastError := none
  updatedAt := ""

/-- vz-net does not answer the release of the network. -/
def unreachableEnv : FallbackEnv where
  snapshot := some {
    networks := shopLanRegistry.database.networks
    attachments := [shopLanAttachment] }
  policies := some [{
    project := "shop"
    stack := "shop"
    probeEnabled := true
    probeURL := "https://captive.apple.com/"
    restartVMs := true
    updatedAt := "" }]
  helpers _ _ := some stuckWebHelper
  stops _ := true
  stillActive := false
  registry _ := shopLanRegistry
  runtime _ := {
    release := fun _ => .undelivered
    transport := "vz-net is unreachable" }
  starts _ := true
  ready := true

def stuckEgress : NetworkRecoveryResult where
  internalOK := true
  hostEgress := { NetworkEgressResult.unknown with
    classification := "online" }
  networkEgress := [("shop/lan", { NetworkEgressResult.unknown with
    classification := "offline" })]
  conflicts := []
  error := none

theorem failed_recreate_leaves_vm_down :
    unreachableEnv.calls stuckEgress =
        [.restarting ["shop/lan"] ["shop/web"], .stop "shop/web",
          .recreateRuntime "shop/lan",
          .degraded ("fallback network recreate failed: " ++
            "cannot recreate network shop/lan: vz-net is unreachable")] ∧
      ¬ ∀ env result, FallbackEnv.Restores env (env.calls result) := by
  have made : unreachableEnv.calls stuckEgress =
      [.restarting ["shop/lan"] ["shop/web"], .stop "shop/web",
        .recreateRuntime "shop/lan",
        .degraded ("fallback network recreate failed: " ++
          "cannot recreate network shop/lan: vz-net is unreachable")] := by
    rfl
  constructor
  · exact made
  · intro restores
    obtain ⟨bundle, started⟩ := (restores unreachableEnv stuckEgress).vms
      "shop/web" (by rw [made]; simp) rfl
    rw [made] at started
    simp at started

end Vzctl
