import Vzctl.Lib.Transition
import Vzctl.Router.BootSetup
import Vzctl.Router.ForwardVerdicts

/-!
# A router that fails closed

Whatever commands fail, `router-apply` turns forwarding on only with the table
`inet vzctl` in place, and a table is replaced as a whole or not at all.
-/

namespace Vzctl

open Procedure Script

namespace RouterApply

variable {τ : Type}

/-- What `nft` is documented to do: a text that declares the table leaves it
there, and a blank line at the end means nothing. -/
structure Programs.Documented (programs : Programs τ) : Prop where
  declaresDeny : ∀ table after,
    programs.nft table denyText = some after → after.isSome = true
  declares : ∀ rules : Nftables.Table,
    rules.family = "inet" → rules.name = "vzctl" → ∀ table after,
      programs.nft table rules.render = some after → after.isSome = true
  blankLine : ∀ rules : Nftables.Table,
    rules.family = "inet" → rules.name = "vzctl" → ∀ table,
      programs.nft table (rules.render ++ "\n") =
        programs.nft table rules.render

variable (programs : Programs τ)

/-- The loaded table is that of a text. -/
def Loads (text : String) (table : Option τ) : Prop :=
  programs.nft none text = some table

/-- A text leaves the table there, when `nft` accepts it. -/
def Declares (text : String) : Prop :=
  ∀ table, Loads programs text table → table.isSome = true

/-- The text that `--restore` loads for the content of the saved rules. -/
def restoredText (content : String) : String :=
  catSubstitution content ++ "\n"

/-- The saved rules leave the table there, when `nft` accepts them. -/
def SavedDeclares (state : State τ) : Prop :=
  ∀ saved, state.vzctlNft = some saved →
    Declares programs (restoredText saved.content)

/-- What holds at every moment of a run: the table is the old one or one that
the run loads, and forwarding is not turned on without it. -/
structure Within (loads : Option τ → Prop) (before now : State τ) : Prop where
  table : now.table = before.table ∨ loads now.table
  present : before.table.isSome = true → now.table.isSome = true
  forwarding : now.forwarding = true →
    before.forwarding = true ∨ now.table.isSome = true
  declares : SavedDeclares programs now

/-! ## Texts of plans -/

section Texts

theorem catSubstitution_newline (body : String) :
    catSubstitution (body ++ "\x7d\n\n") = body ++ "\x7d" := by
  have last : ("\x7d\n\n" : String).toList = ['\x7d', '\n', '\n'] := by
    rfl
  unfold catSubstitution
  rw [String.toList_append, last]
  apply String.toList_inj.mp
  simp

theorem restoredText_render (rules : Nftables.Table) :
    restoredText (rules.render ++ "\n") = rules.render := by
  have both : ("\x7d\n\n" : String) = "\x7d\n" ++ "\n" := by
    rfl
  have one : ("\x7d\n" : String) = "\x7d" ++ "\n" := by
    rfl
  obtain ⟨body, ends⟩ := rules.render_ends
  rw [ends, restoredText, String.append_assoc, ← both,
    catSubstitution_newline, String.append_assoc, ← one]

variable {programs}

theorem declares_plan (documented : programs.Documented)
    (plan : RouterPlan) :
    Declares programs (planPayload programs plan).nftText := by
  intro table loads
  unfold Loads at loads
  rw [Payload.nftText, planPayload, plan.nftables_eq_render,
    documented.blankLine plan.ruleset rfl rfl] at loads
  exact documented.declares plan.ruleset rfl rfl none table loads

theorem declares_restored_plan (documented : programs.Documented)
    (plan : RouterPlan) :
    Declares programs
      (restoredText (planPayload programs plan).nftText) := by
  intro table loads
  unfold Loads at loads
  rw [Payload.nftText, planPayload, plan.nftables_eq_render,
    restoredText_render] at loads
  exact documented.declares plan.ruleset rfl rfl none table loads

end Texts

/-! ## Parts of a run -/

section Parts

variable {programs} {reliable : Prop} {tools : Tools}
  {loads : Option τ → Prop} {payload : Payload} {restore : Bool}
  {before state : State τ}

theorem Within.refl (declares : SavedDeclares programs before) :
    Within programs loads before before where
  table := .inl rfl
  present same := same
  forwarding same := .inl same
  declares := declares

theorem Within.of_same {now : State τ}
    (within : Within programs loads before state)
    (table : now.table = state.table)
    (forwarding : now.forwarding = state.forwarding)
    (vzctlNft : now.vzctlNft = state.vzctlNft) :
    Within programs loads before now where
  table := by
    rw [table]
    exact within.table
  present := by
    rw [table]
    exact within.present
  forwarding := by
    rw [table, forwarding]
    exact within.forwarding
  declares := by
    unfold SavedDeclares
    rw [vzctlNft]
    exact within.declares

theorem Within.of_progress {now : State τ}
    (within : Within programs loads before state)
    (progress : BootProgress state now) :
    Within programs loads before now :=
  within.of_same progress.table progress.forwarding progress.vzctlNft

theorem legacyCheck_meets (progress : BootProgress before state) :
    Meets reliable (legacyCheck tools)
      (fun deletesLegacy now => now = state ∧
        deletesLegacy = decide (state.legacy = .owned) ∧
        state.legacy ≠ .unowned ∧ tools.nft = true ∧
        tools.python3 = true)
      (BootProgress before) state := by
  apply Meets.of_bind
  refine Meets.of_check ?_ fun _ => progress
  intro nft
  apply Meets.of_bind
  refine Meets.of_check ?_ fun _ => progress
  intro python3
  apply Meets.of_bind
  refine Meets.of_effectless (fun _ => progress) ?_
  apply Meets.of_bind
  apply Meets.of_test
  apply Meets.of_bind
  refine Meets.of_check ?_ fun _ => progress
  intro passed
  apply Meets.of_bind
  refine Meets.of_effectless (fun _ => progress) ?_
  exact Meets.of_pure ⟨rfl, rfl, passed, nft, python3⟩

/-- What holds once the rules are in place. -/
structure RulesInPlace (programs : Programs τ) (restore : Bool) (payload : Payload)
    (before now : State τ) : Prop where
  table : now.table.isSome = true
  loaded : mustLoad (before.legacy = .owned) restore payload before = true →
    Loads programs payload.nftText now.table
  kept : mustLoad (before.legacy = .owned) restore payload before = false →
    now.table = before.table
  legacy : now.legacy = .absent
  saved : restore = false →
    Saved now.routesJSON payload.routes ∧
      Saved now.vzctlNft payload.nftText

theorem mustLoad_of_progress {deletesLegacy : Bool}
    (progress : BootProgress before state) :
    mustLoad deletesLegacy restore payload state =
      mustLoad deletesLegacy restore payload before := by
  unfold mustLoad
  rw [progress.routesJSON, progress.vzctlNft, progress.table]

/-- The state after the transaction. -/
def loadedState (state : State τ) (table : Option τ) : State τ :=
  { state with
    table := table
    legacy := if state.legacy = .owned then .absent else state.legacy }

theorem within_loadedState {table : Option τ}
    (savedDeclares : SavedDeclares programs before)
    (progress : BootProgress before state)
    (declares : Declares programs payload.nftText)
    (loaded : Loads programs payload.nftText table) :
    Within programs (Loads programs payload.nftText) before
      (loadedState state table) where
  table := .inr loaded
  present _ := declares table loaded
  forwarding _ := .inr (declares table loaded)
  declares := by
    unfold SavedDeclares loadedState
    rw [progress.vzctlNft]
    exact savedDeclares

theorem loadRules_meets
    (savedDeclares : SavedDeclares programs before)
    (progress : BootProgress before state) :
    Meets reliable
      (loadRules programs (state.legacy = .owned) restore payload)
      (fun _ now => ∃ table, Loads programs payload.nftText table ∧
        now = loadedState state table)
      (Within programs (Loads programs payload.nftText) before) state := by
  have untouched : Within programs (Loads programs payload.nftText) before
      state := (Within.refl savedDeclares).of_progress progress
  have reported : Meets reliable
      (exit ("router firewall transaction failed; boot_guards_installed=" ++
        (if restore then "false" else "true") ++
        ", closed boot default retained; existing firewall and saved rules "
        ++ "unchanged"))
      (fun (_ : PUnit) now => ∃ table,
        Loads programs payload.nftText table ∧ now = loadedState state table)
      (Within programs (Loads programs payload.nftText) before) state :=
    Meets.of_exit untouched
  refine Meets.of_orElse (Meets.of_command (fun _ => reported)
    (fun _ => reported) ?_)
  intro changed performed
  obtain ⟨table, loaded, rfl⟩ := Option.map_eq_some_iff.mp performed
  refine ⟨table, loaded, ?_⟩
  simp [loadedState]

theorem savePayload_meets {now : State τ}
    (afterSave : Declares programs (restoredText payload.nftText))
    (within : Within programs loads before now) :
    Meets reliable (do saveRoutes payload; saveRules payload)
      (fun _ reached => Within programs loads before reached ∧
        reached = { now with
          routesJSON := some ⟨payload.routes, false⟩
          vzctlNft := some ⟨payload.nftText, false⟩ })
      (Within programs loads before) now := by
  apply Meets.of_bind
  refine Meets.of_command (fun _ => within) (fun _ => within) ?_
  intro first saved
  cases saved
  have withinFirst : Within programs loads before
      { now with routesJSON := some ⟨payload.routes, false⟩ } :=
    within.of_same rfl rfl rfl
  refine Meets.of_command (fun _ => withinFirst) (fun _ => withinFirst) ?_
  intro second saved
  cases saved
  refine ⟨⟨within.table, within.present, within.forwarding, ?_⟩, rfl⟩
  intro other same
  cases same
  exact afterSave

/-- The files that belong to boot are those of another state. -/
def SameBoot (state now : State τ) : Prop :=
  now.bootFiles = state.bootFiles ∧
    now.serviceEnabled = state.serviceEnabled

theorem facts_of_upToDate
    (upToDate : mustLoad (before.legacy = .owned) restore payload before =
      false) :
    before.legacy ≠ .owned ∧ restore = false ∧
      Saved before.routesJSON payload.routes ∧
      Saved before.vzctlNft payload.nftText ∧
      before.table.isSome = true := by
  unfold mustLoad at upToDate
  simp only [decide_eq_true_eq, decide_eq_false_iff_not, not_or,
    not_not] at upToDate
  obtain ⟨notOwned, notRestore, routesSaved, rulesSaved, present⟩ := upToDate
  exact ⟨notOwned, Bool.eq_false_of_not_eq_true notRestore, routesSaved,
    rulesSaved, Option.isSome_iff_ne_none.mpr present⟩

theorem legacy_loadedState {table : Option τ}
    (notUnowned : state.legacy ≠ .unowned) :
    (loadedState state table).legacy = .absent := by
  unfold loadedState
  cases legacy : state.legacy with
  | absent => rfl
  | owned => rfl
  | unowned => exact absurd legacy notUnowned

theorem applyRules_meets (savedDeclares : SavedDeclares programs before)
    (progress : BootProgress before state)
    (notUnowned : before.legacy ≠ .unowned)
    (declares : Declares programs payload.nftText)
    (afterSave : restore = false →
      Declares programs (restoredText payload.nftText)) :
    Meets reliable
      (applyRules programs (before.legacy = .owned) restore payload)
      (fun _ now => RulesInPlace programs restore payload before now ∧
        Within programs (Loads programs payload.nftText) before now ∧
        now.forwarding = before.forwarding ∧ now.routes = before.routes ∧
        SameBoot state now)
      (Within programs (Loads programs payload.nftText) before) state := by
  have untouched : Within programs (Loads programs payload.nftText) before
      state := (Within.refl savedDeclares).of_progress progress
  apply Meets.of_bind
  apply Meets.of_test
  rw [mustLoad_of_progress progress]
  apply Meets.of_onlyIf
  · intro mustLoad
    apply Meets.of_bind
    refine Meets.of_effectless (fun _ => untouched) ?_
    rw [← progress.legacy]
    refine Meets.andThen _ (loadRules_meets savedDeclares progress) ?_
    rintro _ _ ⟨table, loaded, rfl⟩
    have within := within_loadedState savedDeclares progress declares loaded
    have isAbsent : (loadedState state table).legacy = .absent :=
      legacy_loadedState (progress.legacy ▸ notUnowned)
    refine Meets.andThen
      (fun _ now =>
        Within programs (Loads programs payload.nftText) before now ∧
        now.table = table ∧ now.legacy = .absent ∧
        now.forwarding = state.forwarding ∧ now.routes = state.routes ∧
        SameBoot state now ∧
        (restore = false → Saved now.routesJSON payload.routes ∧
          Saved now.vzctlNft payload.nftText)) ?_ ?_
    · apply Meets.of_onlyIf
      · intro isApply
        refine (savePayload_meets (afterSave isApply) within).mono ?_
          (fun _ failed => failed)
        rintro _ _ ⟨kept, rfl⟩
        exact ⟨kept, rfl, isAbsent, rfl, rfl, ⟨rfl, rfl⟩,
          fun _ => ⟨rfl, rfl⟩⟩
      · intro isRestore
        exact ⟨within, rfl, isAbsent, rfl, rfl, ⟨rfl, rfl⟩,
          fun isApply => absurd isApply isRestore⟩
    · rintro _ now ⟨kept, isTable, legacy, forwarding, routes, boot, saved⟩
      apply Meets.of_assign
      refine ⟨⟨?_, ?_, ?_, legacy, saved⟩, kept.of_same rfl rfl rfl,
        forwarding.trans progress.forwarding, routes.trans progress.routes,
        boot⟩
      · exact isTable ▸ declares table loaded
      · intro _
        exact isTable ▸ loaded
      · intro upToDate
        rw [mustLoad] at upToDate
        cases upToDate
  · intro upToDate
    have facts := facts_of_upToDate (Bool.eq_false_of_not_eq_true upToDate)
    obtain ⟨notOwned, notRestore, routesSaved, rulesSaved, present⟩ := facts
    have isAbsent : before.legacy = .absent := by
      cases legacy : before.legacy with
      | absent => rfl
      | owned => exact absurd legacy notOwned
      | unowned => exact absurd legacy notUnowned
    refine ⟨⟨?_, ?_, ?_, ?_, ?_⟩, untouched, progress.forwarding,
      progress.routes, rfl, rfl⟩
    · rw [progress.table]
      exact present
    · intro mustLoad
      exact absurd mustLoad upToDate
    · intro _
      exact progress.table
    · rw [progress.legacy]
      exact isAbsent
    · intro _
      rw [progress.routesJSON, progress.vzctlNft]
      exact ⟨routesSaved, rulesSaved⟩

theorem enableForwarding_meets
    (within : Within programs loads before state)
    (present : state.table.isSome = true) :
    Meets reliable enableForwarding
      (fun _ now => Within programs loads before now ∧
        ∃ changed, now = { state with
          forwarding := true
          changed := changed })
      (Within programs loads before) state := by
  apply Meets.of_bind
  apply Meets.of_test
  refine Meets.andThen
    (fun _ now => ∃ changed, now = { state with changed := changed })
    ?_ ?_
  · apply Meets.of_onlyIf
    · intro _
      exact Meets.of_assign ⟨true, rfl⟩
    · intro _
      exact ⟨state.changed, rfl⟩
  · rintro _ _ ⟨changed, rfl⟩
    have kept : Within programs loads before
        { state with changed := changed } :=
      within.of_same rfl rfl rfl
    refine Meets.of_command (fun _ => kept) (fun _ => kept) ?_
    intro now written
    cases written
    exact ⟨⟨kept.table, kept.present, fun _ => .inr present, kept.declares⟩,
      changed, rfl⟩

/-- The routes after some of the requested ones were installed. -/
def RoutesInstalled (programs : Programs τ) (reliable : Prop)
    (payload : Payload) (before after : List StaticRoute) : Prop :=
  ∃ performed : List StaticRoute,
    performed.Sublist (requestedRoutes programs payload) ∧
      (reliable → performed = requestedRoutes programs payload) ∧
      after = performed.foldl replaceRoute before

theorem installRoutes_meets {fails : State τ → Prop}
    (python3 : tools.python3 = true) :
    Meets reliable (installRoutes programs tools payload)
      (fun _ now => ∃ routes,
        RoutesInstalled programs reliable payload state.routes routes ∧
          now = { state with routes := routes }) fails state := by
  refine Meets.of_onlyIf ?_ fun missing => absurd python3 missing
  intro _
  apply Meets.of_attempt
  refine Meets.mono
    (Meets.of_forEach
      (fun rest now => ∃ passed performed : List StaticRoute,
        requestedRoutes programs payload = passed ++ rest ∧
          performed.Sublist passed ∧ (reliable → performed = passed) ∧
          now = { state with
            routes := performed.foldl replaceRoute state.routes })
      ?_ ⟨[], [], rfl, List.Sublist.refl [], fun _ => rfl, rfl⟩)
    ?_ (fun _ failed => failed)
  · rintro route rest _ ⟨passed, performed, requested, some, all, rfl⟩
    apply Meets.of_attempt
    refine Meets.of_command ?_ ?_ ?_
    · intro unreliable
      refine ⟨passed ++ [route], performed, by simp [requested], ?_,
        fun isReliable => absurd isReliable unreliable, rfl⟩
      exact some.trans (List.sublist_append_left passed [route])
    · intro impossible
      cases impossible
    · intro now replaced
      cases replaced
      refine ⟨passed ++ [route], performed ++ [route], by simp [requested],
        some.append (List.Sublist.refl [route]), ?_, ?_⟩
      · intro isReliable
        rw [all isReliable]
      · simp [List.foldl_append]
  · rintro _ now ⟨passed, performed, requested, some, all, rfl⟩
    rw [List.append_nil] at requested
    subst requested
    exact ⟨_, ⟨performed, some, all, rfl⟩, rfl⟩

theorem RulesInPlace.of_same {now : State τ}
    (inPlace : RulesInPlace programs restore payload before state)
    (table : now.table = state.table) (legacy : now.legacy = state.legacy)
    (routesJSON : now.routesJSON = state.routesJSON)
    (vzctlNft : now.vzctlNft = state.vzctlNft) :
    RulesInPlace programs restore payload before now where
  table := table ▸ inPlace.table
  loaded := table ▸ inPlace.loaded
  kept := table ▸ inPlace.kept
  legacy := legacy ▸ inPlace.legacy
  saved := routesJSON ▸ vzctlNft ▸ inPlace.saved

/-- What holds after a run that succeeds. -/
structure Finished (programs : Programs τ) (reliable : Prop) (tools : Tools)
    (restore : Bool) (payload : Payload) (before now : State τ) : Prop where
  rules : RulesInPlace programs restore payload before now
  forwarding : now.forwarding = true
  routes : RoutesInstalled programs reliable payload before.routes now.routes
  nft : tools.nft = true
  python3 : tools.python3 = true
  setUp : restore = false → Supported tools ∧ SetUp tools now

theorem install_meets (savedDeclares : SavedDeclares programs before)
    (progress : BootProgress before state)
    (declares : Declares programs payload.nftText)
    (afterSave : restore = false →
      Declares programs (restoredText payload.nftText)) :
    Meets reliable (install programs tools restore payload)
      (fun _ now =>
        Finished programs reliable tools restore payload before now ∧
        Within programs (Loads programs payload.nftText) before now)
      (Within programs (Loads programs payload.nftText) before) state := by
  have early : ∀ now, BootProgress before now →
      Within programs (Loads programs payload.nftText) before now :=
    fun _ now => (Within.refl savedDeclares).of_progress now
  apply Meets.of_bind
  refine Meets.of_effectless (fun _ => early state progress) ?_
  refine Meets.andThen _
    ((legacyCheck_meets progress).mono (fun _ _ same => same) early) ?_
  rintro _ state ⟨rfl, rfl, notUnowned, nft, python3⟩
  rw [progress.legacy] at notUnowned ⊢
  refine Meets.andThen
    (fun _ now => now = state ∧ (restore = false → Supported tools)) ?_ ?_
  · apply Meets.of_onlyIf
    · intro _
      refine (checkBootFiles_meets progress).mono ?_ early
      rintro _ now ⟨same, supported⟩
      exact ⟨same, fun _ => supported⟩
    · intro isRestore
      exact ⟨rfl, fun isApply => absurd isApply isRestore⟩
  rintro _ state ⟨rfl, supported⟩
  refine Meets.andThen _
    ((installIfChanged_meets .sysctlConf progress).mono
      (fun _ _ same => same) early) ?_
  rintro _ state ⟨progress, sysctlConf, _⟩
  refine Meets.andThen
    (fun _ now => BootProgress before now ∧
      now.bootFiles .sysctlConf = .current ∧
      (restore = false → Guarded tools now)) ?_ ?_
  · apply Meets.of_onlyIf
    · intro isApply
      refine (installGuards_meets (supported isApply) progress).mono ?_ early
      rintro _ now ⟨fromBefore, fromState, guarded⟩
      exact ⟨fromBefore, fromState.bootFiles _ sysctlConf, fun _ => guarded⟩
    · intro isRestore
      exact ⟨progress, sysctlConf, fun isApply => absurd isApply isRestore⟩
  rintro _ state ⟨progress, sysctlConf, guarded⟩
  refine Meets.andThen _ (applyRules_meets savedDeclares progress notUnowned
    declares afterSave) ?_
  rintro _ applied ⟨inPlace, within, _, routes, bootFiles, _⟩
  refine Meets.andThen _ (enableForwarding_meets within inPlace.table) ?_
  rintro _ enabled ⟨within, changed, isEnabled⟩
  have enabledRules :
      RulesInPlace programs restore payload before enabled := by
    subst isEnabled
    exact inPlace.of_same rfl rfl rfl rfl
  have forwarding : enabled.forwarding = true := by
    rw [isEnabled]
  have sameRoutes : enabled.routes = before.routes := by
    rw [isEnabled]
    exact routes
  have sameFiles : enabled.bootFiles = state.bootFiles := by
    rw [isEnabled]
    exact bootFiles
  refine Meets.andThen
    (fun _ now => Within programs (Loads programs payload.nftText) before now ∧
      RulesInPlace programs restore payload before now ∧
      now.forwarding = true ∧ now.routes = before.routes ∧
      (restore = false → Supported tools ∧ SetUp tools now)) ?_ ?_
  · apply Meets.of_onlyIf
    · intro isApply
      have isSupported := supported isApply
      have isGuarded : Guarded tools enabled :=
        ⟨fun service => sameFiles ▸ (guarded isApply).guards service,
          fun openrc => sameFiles ▸ (guarded isApply).bootstrapUnit openrc⟩
      refine (installUnit_meets isSupported
        (BootProgress.refl enabled)).mono ?_ fun _ => within.of_progress
      rintro _ now ⟨moved, _, unit, serviceEnabled⟩
      refine ⟨within.of_progress moved,
        enabledRules.of_same moved.table moved.legacy moved.routesJSON
          moved.vzctlNft,
        moved.forwarding.trans forwarding, moved.routes.trans sameRoutes, ?_⟩
      intro _
      exact ⟨isSupported, isGuarded.of_progress moved,
        moved.bootFiles _ (sameFiles ▸ sysctlConf), unit, serviceEnabled⟩
    · intro isRestore
      exact ⟨within, enabledRules, forwarding, sameRoutes,
        fun isApply => absurd isApply isRestore⟩
  rintro _ served ⟨within, rules, forwarding, sameRoutes, setUp⟩
  refine Meets.andThen _ (installRoutes_meets python3) ?_
  rintro _ _ ⟨installed, requested, rfl⟩
  rw [sameRoutes] at requested
  apply Meets.of_test
  refine ⟨⟨rules.of_same rfl rfl rfl rfl, forwarding, requested, nft, python3,
    ?_⟩, within.of_same rfl rfl rfl⟩
  intro isApply
  obtain ⟨isSupported, isSetUp⟩ := setUp isApply
  exact ⟨isSupported, ⟨isSetUp.guards, isSetUp.bootstrapUnit⟩,
    isSetUp.sysctlConf, isSetUp.unit, isSetUp.serviceEnabled⟩

end Parts

end RouterApply

end Vzctl
