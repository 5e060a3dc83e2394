import Vzctl.Router.FailClosed

/-!
# What runs of `router-apply` leave behind

One run of each kind, any sequence of runs with any failures, and a second
application of the same plan.
-/

namespace Vzctl

open Procedure Script Transitions

theorem RouterPlan.nftables_starts (plan : RouterPlan) :
    ∃ rest, plan.nftables = "table inet vzctl \x7b" ++ rest := by
  have header : ("table " ++ "inet" ++ " " ++ "vzctl" ++ " \x7b" : String) =
      "table inet vzctl \x7b" := by
    rfl
  obtain ⟨rest, starts⟩ := plan.ruleset.render_starts
  rw [plan.nftables_eq_render, starts, ← header]
  exact ⟨rest, rfl⟩

namespace RouterApply

variable {τ : Type} {programs : Programs τ} {reliable : Prop}
  {tools : Tools} {before state : State τ}

theorem nftables_ne {plan : RouterPlan} {argument : String}
    (other : argument.toList.head? ≠ some 't') : plan.nftables ≠ argument := by
  obtain ⟨rest, starts⟩ := plan.nftables_starts
  have first : ("table inet vzctl \x7b" : String).toList.head? = some 't' := by
    rfl
  intro same
  apply other
  rw [← same, starts, String.toList_append, List.head?_append, first]
  rfl

/-- What a run may load. -/
def MayLoad (programs : Programs τ) (invocation : Invocation)
    (before : State τ) (table : Option τ) : Prop :=
  match invocation with
  | .bootstrap => programs.nft before.table denyText = some table
  | .apply plan => Loads programs (planPayload programs plan).nftText table
  | .restore => ∃ saved, before.vzctlNft = some saved ∧
      Loads programs (restoredText saved.content) table

/-! ## The three kinds of runs -/

theorem ensureTable_meets (documented : programs.Documented)
    (savedDeclares : SavedDeclares programs before) :
    Meets reliable (ensureTable programs)
      (fun _ now => Within programs (MayLoad programs .bootstrap before)
        before now ∧ now.table.isSome = true)
      (Within programs (MayLoad programs .bootstrap before) before)
      before := by
  have untouched : Within programs (MayLoad programs .bootstrap before)
      before before := Within.refl savedDeclares
  apply Meets.of_bind
  apply Meets.of_test
  apply Meets.of_onlyIf
  · intro _
    have closed : Within programs (MayLoad programs .bootstrap before)
        before { before with forwarding := false } :=
      ⟨.inl rfl, fun same => same, nofun,
        savedDeclares⟩
    apply Meets.of_bind
    refine Meets.of_command (fun _ => untouched) (fun _ => untouched) ?_
    intro now written
    cases written
    refine Meets.of_command (fun _ => closed) (fun _ => closed) ?_
    intro now performed
    obtain ⟨table, loaded, rfl⟩ := Option.map_eq_some_iff.mp performed
    have present := documented.declaresDeny before.table table loaded
    exact ⟨⟨.inr loaded, fun _ => present, nofun,
      savedDeclares⟩, present⟩
  · intro present
    exact ⟨untouched, Bool.eq_true_of_not_eq_false present⟩

theorem bootstrap_meets (documented : programs.Documented)
    (savedDeclares : SavedDeclares programs before) :
    Meets reliable (bootstrap programs tools)
      (fun _ now => Within programs (MayLoad programs .bootstrap before)
        before now)
      (Within programs (MayLoad programs .bootstrap before) before)
      before := by
  have untouched : Within programs (MayLoad programs .bootstrap before)
      before before := Within.refl savedDeclares
  refine Meets.andThen (fun _ now => now = before) ?_ ?_
  · refine Meets.of_onlyIf ?_ fun _ => rfl
    intro _
    apply Meets.of_bind
    refine Meets.of_command (fun _ => untouched) (fun _ => untouched) ?_
    intro now written
    cases written
    exact Meets.of_exit
      ⟨.inl rfl, fun same => same, nofun,
        savedDeclares⟩
  rintro _ before rfl
  refine Meets.andThen _ (ensureTable_meets documented savedDeclares) ?_
  rintro _ now ⟨within, present⟩
  refine Meets.of_command (fun _ => within) (fun _ => within) ?_
  intro opened written
  cases written
  exact ⟨within.table, within.present, fun _ => .inr present,
    within.declares⟩

theorem requireSaved_meets {path : String}
    {file : State τ → Option SavedFile} :
    Meets reliable (requireSaved path file)
      (fun content now => now = state ∧ ∃ saved, file state = some saved ∧
        saved.content = content)
      (fun now => now = state) state := by
  apply Meets.of_bind
  apply Meets.of_test
  cases found : file state with
  | none => exact Meets.of_exit rfl
  | some saved =>
      dsimp only
      split
      · exact Meets.of_exit rfl
      · exact Meets.of_pure ⟨rfl, saved, rfl, rfl⟩

theorem savedPayload_meets :
    Meets reliable savedPayload
      (fun payload now => now = state ∧ ∃ saved,
        state.vzctlNft = some saved ∧
          payload.nftText = restoredText saved.content)
      (fun now => now = state) state := by
  refine Meets.andThen _ requireSaved_meets ?_
  rintro rules state ⟨rfl, saved, found, rfl⟩
  refine Meets.andThen _ requireSaved_meets ?_
  rintro routes state ⟨rfl, _⟩
  apply Meets.of_bind
  refine Meets.of_effectless (fun _ => rfl) ?_
  exact Meets.of_pure ⟨rfl, saved, found, rfl⟩

theorem bootstrap_run_meets (documented : programs.Documented)
    (savedDeclares : SavedDeclares programs before) :
    Meets reliable (Invocation.bootstrap.script programs tools)
      (fun _ now => Within programs (MayLoad programs .bootstrap before)
        before now)
      (Within programs (MayLoad programs .bootstrap before) before)
      before := by
  have sameBefore : ∀ now,
      Within programs
        (MayLoad programs .bootstrap { before with changed := false })
        { before with changed := false } now →
      Within programs (MayLoad programs .bootstrap before) before now :=
    fun now within =>
      ⟨within.table, within.present, within.forwarding, within.declares⟩
  apply Meets.of_bind
  apply Meets.of_assign
  rw [if_pos rfl]
  have savedReset : SavedDeclares programs
      { before with changed := false } := savedDeclares
  refine Meets.andThen _ ((bootstrap_meets documented savedReset).mono
    (fun _ => sameBefore) sameBefore) ?_
  intro _ now within
  exact Meets.of_pure within

theorem restore_meets (savedDeclares : SavedDeclares programs before) :
    Meets reliable (Invocation.restore.script programs tools)
      (fun _ now => Within programs (MayLoad programs .restore before)
        before now)
      (Within programs (MayLoad programs .restore before) before)
      before := by
  have untouched : Within programs (MayLoad programs .restore before)
      before before := Within.refl savedDeclares
  have reset := bootProgress_changed before false
  have resetWithin := untouched.of_progress reset
  apply Meets.of_bind
  apply Meets.of_assign
  rw [if_neg (by decide), if_neg (by decide)]
  apply Meets.of_bind
  refine Meets.of_effectless (fun _ => resetWithin) ?_
  rw [if_pos rfl]
  refine Meets.andThen _ (savedPayload_meets.mono (fun _ _ same => same) ?_) ?_
  · rintro _ rfl
    exact resetWithin
  rintro payload state ⟨rfl, saved, found, text⟩
  have declares : Declares programs payload.nftText := by
    rw [text]
    exact savedDeclares saved found
  have widen : ∀ now,
      Within programs (Loads programs payload.nftText) before now →
      Within programs (MayLoad programs .restore before) before now := by
    intro now within
    refine ⟨within.table.imp id ?_, within.present, within.forwarding,
      within.declares⟩
    intro loaded
    exact ⟨saved, found, text ▸ loaded⟩
  refine (install_meets savedDeclares reset declares
    (fun isApply => by cases isApply)).mono ?_ widen
  rintro _ now ⟨_, within⟩
  exact widen now within

theorem apply_meets (documented : programs.Documented)
    (savedDeclares : SavedDeclares programs before) (plan : RouterPlan) :
    Meets reliable ((Invocation.apply plan).script programs tools)
      (fun _ now =>
        Finished programs reliable tools false (planPayload programs plan)
          before now ∧
        Within programs (MayLoad programs (.apply plan) before) before now)
      (Within programs (MayLoad programs (.apply plan) before) before)
      before := by
  have untouched : Within programs (MayLoad programs (.apply plan) before)
      before before := Within.refl savedDeclares
  have reset := bootProgress_changed before false
  apply Meets.of_bind
  apply Meets.of_assign
  rw [if_neg (nftables_ne (by decide)), if_neg (nftables_ne (by decide))]
  apply Meets.of_bind
  refine Meets.of_effectless (fun _ => untouched.of_progress reset) ?_
  rw [if_neg (nftables_ne (by decide))]
  exact install_meets savedDeclares reset (declares_plan documented plan)
    fun _ => declares_restored_plan documented plan

theorem within_perform (documented : programs.Documented)
    (savedDeclares : SavedDeclares programs before) (call : Call) :
    Within programs (MayLoad programs call.invocation before) before
      (perform programs before call) := by
  obtain ⟨tools, invocation, failures⟩ := call
  have unreliable : False → Quiet failures := False.elim
  cases invocation with
  | bootstrap =>
      exact (bootstrap_run_meets documented savedDeclares).of_ended
        unreliable
  | restore => exact (restore_meets savedDeclares).of_ended unreliable
  | apply plan =>
      refine Meets.of_ended
        ((apply_meets documented savedDeclares plan).mono ?_
          fun _ failed => failed) unreliable
      rintro _ now ⟨_, within⟩
      exact within

/-! ## The same plan again -/

/-- A guest that a run for the payload finds as it would leave it. -/
structure Settled (tools : Tools) (payload : Payload) (state : State τ) :
    Prop where
  nft : tools.nft = true
  python3 : tools.python3 = true
  supported : Supported tools
  setUp : SetUp tools state
  legacy : state.legacy = .absent
  routesJSON : Saved state.routesJSON payload.routes
  vzctlNft : Saved state.vzctlNft payload.nftText
  table : state.table.isSome = true
  forwarding : state.forwarding = true

theorem Finished.settled {payload : Payload} {now : State τ}
    (finished : Finished programs reliable tools false payload before now) :
    Settled tools payload now where
  nft := finished.nft
  python3 := finished.python3
  supported := (finished.setUp rfl).1
  setUp := (finished.setUp rfl).2
  legacy := finished.rules.legacy
  routesJSON := (finished.rules.saved rfl).1
  vzctlNft := (finished.rules.saved rfl).2
  table := finished.rules.table
  forwarding := finished.forwarding

variable {payload : Payload}

theorem legacyCheck_settled (settled : Settled tools payload state) :
    Meets reliable (legacyCheck tools)
      (fun deletesLegacy now => now = state ∧ deletesLegacy = false)
      (fun _ => ¬ reliable) state := by
  apply Meets.of_bind
  refine Meets.of_check ?_ fun missing => absurd settled.nft missing
  intro _
  apply Meets.of_bind
  refine Meets.of_check ?_ fun missing => absurd settled.python3 missing
  intro _
  apply Meets.of_bind
  refine Meets.of_effectless (fun unreliable => unreliable) ?_
  apply Meets.of_bind
  apply Meets.of_test
  apply Meets.of_bind
  refine Meets.of_check ?_ ?_
  · intro _
    apply Meets.of_bind
    refine Meets.of_effectless (fun unreliable => unreliable) ?_
    exact Meets.of_pure ⟨rfl, by simp [settled.legacy]⟩
  · intro unowned
    exact absurd (by simp [settled.legacy]) unowned

theorem applyRules_settled (settled : Settled tools payload state) :
    Leaves reliable (applyRules programs false false payload) state := by
  have upToDate : mustLoad false false payload state = false := by
    have present := settled.table
    simp [mustLoad, settled.routesJSON, settled.vzctlNft,
      Option.isSome_iff_ne_none.mp present]
  apply Meets.of_bind
  apply Meets.of_test
  refine Meets.of_onlyIf ?_ fun _ => rfl
  simp [upToDate]

theorem enableForwarding_settled (settled : Settled tools payload state) :
    Leaves reliable enableForwarding state := by
  apply Meets.of_bind
  apply Meets.of_test
  refine Meets.andThen (fun _ now => now = state) ?_ ?_
  · refine Meets.of_onlyIf ?_ fun _ => rfl
    simp [settled.forwarding]
  rintro _ state rfl
  refine Meets.of_command (fun unreliable => unreliable) nofun ?_
  intro now written
  cases written
  rw [← settled.forwarding]

/-- In a settled guest a run reports no change, and only the failure of a
command can stop it. -/
theorem install_settled (settled : Settled tools payload state)
    (unchanged : state.changed = false) :
    Meets reliable (install programs tools false payload)
      (fun changed _ => changed = false) (fun _ => ¬ reliable) state := by
  apply Meets.of_bind
  refine Meets.of_effectless (fun unreliable => unreliable) ?_
  refine Meets.andThen _ (legacyCheck_settled settled) ?_
  rintro _ state ⟨rfl, rfl⟩
  refine Meets.andThen (fun _ now => now = state)
    (Meets.of_onlyIf
      (fun _ => checkBootFiles_leaves settled.supported settled.setUp)
      fun _ => rfl) ?_
  rintro _ state rfl
  refine Meets.andThen (fun _ now => now = state)
    (installIfChanged_leaves settled.setUp.sysctlConf) ?_
  rintro _ state rfl
  refine Meets.andThen (fun _ now => now = state)
    (Meets.of_onlyIf
      (fun _ => installGuards_leaves settled.supported settled.setUp)
      fun _ => rfl) ?_
  rintro _ state rfl
  refine Meets.andThen (fun _ now => now = state)
    (applyRules_settled settled) ?_
  rintro _ state rfl
  refine Meets.andThen (fun _ now => now = state)
    (enableForwarding_settled settled) ?_
  rintro _ state rfl
  refine Meets.andThen (fun _ now => now = state)
    (Meets.of_onlyIf
      (fun _ => installUnit_leaves settled.supported settled.setUp)
      fun _ => rfl) ?_
  rintro _ state rfl
  refine Meets.andThen _ (installRoutes_meets settled.python3) ?_
  rintro _ _ ⟨routes, _, rfl⟩
  exact Meets.of_test unchanged

theorem apply_settled {plan : RouterPlan}
    (settled : Settled tools (planPayload programs plan) state) :
    Meets reliable ((Invocation.apply plan).script programs tools)
      (fun changed _ => changed = false) (fun _ => ¬ reliable) state := by
  have resetSettled : Settled tools (planPayload programs plan)
      { state with changed := false } :=
    { settled with setUp := { settled.setUp with } }
  apply Meets.of_bind
  apply Meets.of_assign
  rw [if_neg (nftables_ne (by decide)), if_neg (nftables_ne (by decide))]
  apply Meets.of_bind
  refine Meets.of_effectless (fun unreliable => unreliable) ?_
  rw [if_neg (nftables_ne (by decide))]
  exact install_settled resetSettled rfl

/-! ## All runs -/

theorem savedDeclares_of_runs (documented : programs.Documented)
    {start reached : State τ}
    (savedDeclares : SavedDeclares programs start)
    (run : Runs (ofFunction (perform programs)) start reached) :
    SavedDeclares programs reached := by
  refine invariant_of_runs (SavedDeclares programs) ?_ savedDeclares run
  rintro source call _ sourceDeclares rfl
  exact (within_perform documented sourceDeclares call).declares

/-- What an application of a plan that succeeds leaves behind. -/
structure AppliedPlan (programs : Programs τ) (call : Call)
    (plan : RouterPlan) (before after : State τ) : Prop where
  forwarding : after.forwarding = true
  present : after.table.isSome = true
  savedRoutes : Saved after.routesJSON (programs.encode plan.json)
  savedRules : Saved after.vzctlNft (plan.nftables ++ "\n")
  loaded :
    mustLoad (before.legacy = .owned) false (planPayload programs plan)
      before = true →
    Loads programs (plan.nftables ++ "\n") after.table
  stays : Loads programs (plan.nftables ++ "\n") before.table →
    Loads programs (plan.nftables ++ "\n") after.table
  routes : RoutesInstalled programs (Quiet call.failures)
    (planPayload programs plan) before.routes after.routes

/-- After an application that succeeded, the same application reports no
change, and only the failure of a command can stop it. -/
def ReportsNoChange (programs : Programs τ) (tools : Tools)
    (plan : RouterPlan) (state : State τ) : Prop :=
  ∀ failures,
    (∀ changed after,
      outcome programs state ⟨tools, .apply plan, failures⟩ =
        (.ok changed, after) → changed = false) ∧
    (Quiet failures → ∃ after,
      outcome programs state ⟨tools, .apply plan, failures⟩ =
        (.ok false, after))

/-- A table that is the payload's stays so, loaded anew or not. -/
theorem RulesInPlace.stays {restore : Bool} {now : State τ}
    (inPlace : RulesInPlace programs restore payload before now)
    (isLoaded : Loads programs payload.nftText before.table) :
    Loads programs payload.nftText now.table := by
  cases must : mustLoad (before.legacy = .owned) restore payload before with
  | true => exact inPlace.loaded must
  | false =>
      rw [inPlace.kept must]
      exact isLoaded

theorem reportsNoChange_of_settled {plan : RouterPlan}
    (settled : Settled tools (planPayload programs plan) state) :
    ReportsNoChange programs tools plan state := by
  intro failures
  have meets : Meets (Quiet failures)
      ((Invocation.apply plan).script programs tools)
      (fun changed _ => changed = false) (fun _ => ¬ Quiet failures) state :=
    apply_settled settled
  refine ⟨fun changed after performed => meets.of_returned id performed, ?_⟩
  intro quiet
  cases result : outcome programs state ⟨tools, .apply plan, failures⟩ with
  | mk ended after =>
      cases ended with
      | ok changed =>
          rw [meets.of_returned id result]
          exact ⟨after, rfl⟩
      | error stop => exact absurd quiet (meets.of_failed id result)

/-- What every run leaves behind that follows any runs of the script. -/
theorem router_apply_of_runs (programs : Programs τ)
    (documented : programs.Documented) (start reached : State τ)
    (savedDeclares : SavedDeclares programs start)
    (run : Runs (ofFunction (perform programs)) start reached) (call : Call) :
    ((perform programs reached call).forwarding = true →
      reached.forwarding = true ∨
        (perform programs reached call).table.isSome = true) ∧
    (reached.table.isSome = true →
      (perform programs reached call).table.isSome = true) ∧
    (∀ stop after, outcome programs reached call = (.error stop, after) →
      after.table = reached.table ∨
        MayLoad programs call.invocation reached after.table) ∧
    ∀ plan changed after, call.invocation = .apply plan →
      outcome programs reached call = (.ok changed, after) →
      AppliedPlan programs call plan reached after ∧
        ReportsNoChange programs call.tools plan after := by
  have declares := savedDeclares_of_runs documented savedDeclares run
  have within := within_perform documented declares call
  refine ⟨within.forwarding, within.present, ?_, ?_⟩
  · intro stop after failed
    have same : after = perform programs reached call := by
      rw [perform, failed]
    rw [same]
    exact within.table
  · intro plan changed after isApply succeeded
    obtain ⟨tools, invocation, failures⟩ := call
    cases isApply
    have meets : Meets (Quiet failures)
        ((Invocation.apply plan).script programs tools) _ _ reached :=
      apply_meets documented declares plan
    obtain ⟨finished, _⟩ := meets.of_returned id succeeded
    refine ⟨?_, reportsNoChange_of_settled finished.settled⟩
    exact {
      forwarding := finished.forwarding
      present := finished.rules.table
      savedRoutes := (finished.rules.saved rfl).1
      savedRules := (finished.rules.saved rfl).2
      loaded := finished.rules.loaded
      stays := finished.rules.stays
      routes := finished.routes }

/-! ## Examples of runs -/

/-- The text declares the table `inet vzctl` at its start. -/
def declaresTable (text : String) : Bool :=
  "table inet vzctl".toList.isPrefixOf text.toList

/-- `nft` on texts that declare the table at their start or not at all; a
declaration extends what is loaded. -/
def examplePrograms : Programs String where
  nft table text :=
    if declaresTable text then
      some (some (table.getD "" ++ catSubstitution text))
    else
      some table
  encode json :=
    match (json.field? "static_routes").bind JSONValue.asArray? with
    | some [] => "none"
    | _ => "one"
  staticRoutes text :=
    if text = "one" then [⟨"10.23.0.0/24", "10.90.0.10"⟩] else []

theorem catSubstitution_append_newline (text : String) :
    catSubstitution (text ++ "\n") = catSubstitution text := by
  have newline : ("\n" : String).toList = ['\n'] := by
    rfl
  simp [catSubstitution, newline]

theorem declaresTable_render {rules : Nftables.Table}
    (family : rules.family = "inet") (name : rules.name = "vzctl")
    (rest : String) : declaresTable (rules.render ++ rest) = true := by
  have header : ("table " ++ "inet" ++ " " ++ "vzctl" ++ " \x7b" : String) =
      "table inet vzctl" ++ " \x7b" := by
    rfl
  obtain ⟨body, starts⟩ := rules.render_starts
  rw [family, name, header] at starts
  rw [declaresTable, starts, List.isPrefixOf_iff_prefix]
  simp only [String.toList_append, List.append_assoc]
  exact List.prefix_append _ _

theorem documented_examplePrograms : examplePrograms.Documented where
  declaresDeny table after accepted := by
    cases accepted
    rfl
  declares rules family name table after accepted := by
    have declared := declaresTable_render family name ""
    rw [String.append_empty] at declared
    simp only [examplePrograms, declared, if_true] at accepted
    cases accepted
    rfl
  blankLine rules family name table := by
    have declared := declaresTable_render family name ""
    rw [String.append_empty] at declared
    simp only [examplePrograms, declared, declaresTable_render family name,
      catSubstitution_append_newline]

def systemdTools : Tools where
  nft := true
  python3 := true
  init := some .systemd
  runlevelOverride _ := none

/-- A guest that was never configured. -/
def freshGuest : State String where
  forwarding := false
  table := none
  legacy := .absent
  routes := []
  routesJSON := none
  vzctlNft := none
  bootFiles _ := .absent
  serviceEnabled := false
  changed := false

/-- A plan for two networks without policies. -/
def planWith (routes : List StaticRoute) : Except PlanError RouterPlan :=
  RouterPlan.ofNetworks "router"
    [⟨"lan", "10.90.0.0/24", "10.90.0.2", true⟩,
      ⟨"dmz", "10.80.0.0/24", "10.80.0.2", true⟩] [] routes

def exampleRoute : StaticRoute := ⟨"10.23.0.0/24", "10.90.0.10"⟩

def applyCall (plan : RouterPlan) (failures : List Bool) : Call where
  tools := systemdTools
  invocation := .apply plan
  failures := failures

/-- The application of a plan to a guest that was never configured. -/
theorem router_apply_of_fresh :
    ∃ plan, planWith [exampleRoute] = .ok plan ∧
      (perform examplePrograms freshGuest (applyCall plan [])).table.isSome =
        true := by
  have accepted : (planWith [exampleRoute]).isOk = true := by
    rfl
  obtain ⟨plan, built⟩ := Outcome.exists_of_isOk accepted
  have opened : ∀ plan, planWith [exampleRoute] = .ok plan →
      (perform examplePrograms freshGuest
        (applyCall plan [])).forwarding = true := by
    decide +kernel
  have savedDeclares : SavedDeclares examplePrograms freshGuest := nofun
  have ends := router_apply_of_runs examplePrograms
    documented_examplePrograms freshGuest freshGuest savedDeclares
    (Runs.refl freshGuest) (applyCall plan [])
  exact ⟨plan, built, (ends.1 (opened plan built)).resolve_left (by decide)⟩

/-- The guest after a reboot: the kernel state is gone. -/
def rebooted (state : State τ) : State τ :=
  { state with
    forwarding := false
    table := none
    routes := [] }

def bootstrapCall : Call where
  tools := systemdTools
  invocation := .bootstrap
  failures := []

/-- The second plan is applied after the first. -/
def afterFirst (first second : RouterPlan) : Except Exit Bool × State String :=
  outcome examplePrograms
    (perform examplePrograms freshGuest (applyCall first []))
    (applyCall second [])

/-- The plan is applied again after a reboot and the bootstrap. -/
def afterReboot (plan : RouterPlan) : Except Exit Bool × State String :=
  outcome examplePrograms
    (perform examplePrograms
      (rebooted (perform examplePrograms freshGuest (applyCall plan [])))
      bootstrapCall)
    (applyCall plan [])

/-- A guest whose saved rules do not mention the table. -/
def emptyRulesGuest : State String :=
  { freshGuest with
    routesJSON := some ⟨"none", false⟩
    vzctlNft := some ⟨"# no rules\n", false⟩ }

def restoreCall : Call where
  tools := systemdTools
  invocation := .restore
  failures := []

/-- Saved rules without the table let a restore turn forwarding on, a run that
fails while it saves has loaded its rules before, the route of an earlier plan
stays, and saved rules are not loaded again in place of the table of the
bootstrap. -/
theorem runs_leave_earlier_state :
    ((perform examplePrograms emptyRulesGuest restoreCall).forwarding = true ∧
      (perform examplePrograms emptyRulesGuest restoreCall).table = none) ∧
    ∃ first second,
      planWith [exampleRoute] = .ok first ∧ planWith [] = .ok second ∧
      ((outcome examplePrograms freshGuest
        (applyCall second (List.replicate 13 false ++ [true]))).1 =
          .error .command ∧
        (perform examplePrograms freshGuest
          (applyCall second (List.replicate 13 false ++ [true]))).table ≠
            freshGuest.table) ∧
      ((afterFirst first second).1 = .ok true ∧
        (afterFirst first second).2.routes = [exampleRoute] ∧
        (perform examplePrograms freshGuest
          (applyCall second [])).routes = []) ∧
      (afterReboot second).1 = .ok false ∧
      (afterReboot second).2.table ≠
        (perform examplePrograms freshGuest (applyCall second [])).table := by
  have firstAccepted : (planWith [exampleRoute]).isOk = true := by
    decide
  have secondAccepted : (planWith []).isOk = true := by
    rfl
  obtain ⟨first, firstBuilt⟩ := Outcome.exists_of_isOk firstAccepted
  obtain ⟨second, secondBuilt⟩ := Outcome.exists_of_isOk secondAccepted
  have failing : ∀ second, planWith [] = .ok second →
      (outcome examplePrograms freshGuest
        (applyCall second (List.replicate 13 false ++ [true]))).1 =
          .error .command ∧
        (perform examplePrograms freshGuest
          (applyCall second (List.replicate 13 false ++ [true]))).table ≠
            freshGuest.table := by
    decide +kernel
  have stale : ∀ first, planWith [exampleRoute] = .ok first →
      ∀ second, planWith [] = .ok second →
      (afterFirst first second).1 = .ok true ∧
        (afterFirst first second).2.routes = [exampleRoute] ∧
        (perform examplePrograms freshGuest
          (applyCall second [])).routes = [] := by
    decide +kernel
  have denied : ∀ second, planWith [] = .ok second →
      (afterReboot second).1 = .ok false ∧
      (afterReboot second).2.table ≠
        (perform examplePrograms freshGuest
          (applyCall second [])).table := by
    decide +kernel
  exact ⟨by decide +kernel, first, second, firstBuilt, secondBuilt,
    failing second secondBuilt,
    stale first firstBuilt second secondBuilt, denied second secondBuilt⟩

end RouterApply

end Vzctl
