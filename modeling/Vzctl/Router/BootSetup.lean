import Vzctl.Router.RouterApply

/-!
# The boot setup of a router

The parts of `router-apply` that check and install the files of the boot
service leave the kernel and the saved plan alone.
-/

namespace Vzctl

open Procedure Script

namespace RouterApply

variable {τ : Type} {reliable : Prop} {tools : Tools}

/-- Only boot files, the boot service and `changed` differ, and nothing that
was in place is undone. -/
structure BootProgress (before now : State τ) : Prop where
  forwarding : now.forwarding = before.forwarding
  table : now.table = before.table
  legacy : now.legacy = before.legacy
  routes : now.routes = before.routes
  routesJSON : now.routesJSON = before.routesJSON
  vzctlNft : now.vzctlNft = before.vzctlNft
  bootFiles : ∀ file, before.bootFiles file = .current →
    now.bootFiles file = .current
  serviceEnabled : before.serviceEnabled = true → now.serviceEnabled = true

namespace BootProgress

variable {first second third : State τ}

theorem refl (state : State τ) : BootProgress state state where
  forwarding := rfl
  table := rfl
  legacy := rfl
  routes := rfl
  routesJSON := rfl
  vzctlNft := rfl
  bootFiles _ same := same
  serviceEnabled same := same

theorem trans (left : BootProgress first second)
    (right : BootProgress second third) : BootProgress first third where
  forwarding := right.forwarding.trans left.forwarding
  table := right.table.trans left.table
  legacy := right.legacy.trans left.legacy
  routes := right.routes.trans left.routes
  routesJSON := right.routesJSON.trans left.routesJSON
  vzctlNft := right.vzctlNft.trans left.vzctlNft
  bootFiles file same := right.bootFiles file (left.bootFiles file same)
  serviceEnabled same := right.serviceEnabled (left.serviceEnabled same)

end BootProgress

/-- The state after a boot file is installed. -/
def withFile (state : State τ) (file : BootFile) : State τ :=
  { state with bootFiles := Function.update state.bootFiles file .current }

theorem bootProgress_withFile (state : State τ) (file : BootFile) :
    BootProgress state (withFile state file) where
  forwarding := rfl
  table := rfl
  legacy := rfl
  routes := rfl
  routesJSON := rfl
  vzctlNft := rfl
  bootFiles other same := by
    unfold withFile
    by_cases isFile : other = file
    · simp [isFile]
    · simp [isFile, same]
  serviceEnabled same := same

theorem bootProgress_changed (state : State τ) (changed : Bool) :
    BootProgress state { state with changed := changed } where
  forwarding := rfl
  table := rfl
  legacy := rfl
  routes := rfl
  routesJSON := rfl
  vzctlNft := rfl
  bootFiles _ same := same
  serviceEnabled same := same

section Phases

variable {before state : State τ}

theorem installIfChanged_meets (file : BootFile)
    (progress : BootProgress before state) :
    Meets reliable (installIfChanged file)
      (fun _ now => BootProgress before now ∧
        now.bootFiles file = .current ∧ BootProgress state now)
      (BootProgress before) state := by
  apply Meets.of_bind
  apply Meets.of_test
  apply Meets.of_onlyIf
  · intro _
    apply Meets.of_bind
    refine Meets.of_command (fun _ => progress) (fun _ => progress) ?_
    intro changed written
    cases written
    apply Meets.of_assign
    have installed : BootProgress state
        { withFile state file with changed := true } :=
      (bootProgress_withFile state file).trans
        (bootProgress_changed (withFile state file) true)
    refine ⟨progress.trans installed, ?_, installed⟩
    exact Function.update_self file .current state.bootFiles
  · intro isCurrent
    exact ⟨progress, not_not.mp isCurrent, BootProgress.refl state⟩

theorem managedUnitCheck_meets (init : Init) (file : BootFile)
    (progress : BootProgress before state) :
    Meets reliable (managedUnitCheck init file)
      (fun _ now => now = state) (BootProgress before) state := by
  apply Meets.of_bind
  apply Meets.of_test
  exact Meets.of_check (fun _ => rfl) fun _ => progress

/-- The init system is supported, and no override bypasses the guards. -/
structure Supported (tools : Tools) : Prop where
  init : tools.init ≠ none
  overrides : tools.init = some .openrc →
    ∀ service, tools.runlevelOverride service = none

theorem mem_services (service : Service) : service ∈ services := by
  cases service
  · exact List.mem_cons_self
  · exact List.mem_cons_of_mem _ List.mem_cons_self

theorem checkBootFiles_meets (progress : BootProgress before state) :
    Meets reliable (checkBootFiles tools)
      (fun _ now => now = state ∧ Supported tools) (BootProgress before)
      state := by
  unfold checkBootFiles
  cases init : tools.init with
  | none => exact Meets.of_exit progress
  | some system =>
      cases system with
      | systemd =>
          have supported : Supported tools :=
            ⟨by simp [init], by simp [init]⟩
          refine Meets.andThen (fun _ now => now = state)
            (managedUnitCheck_meets .systemd .unit progress) ?_
          rintro _ state rfl
          refine Meets.andThen (fun _ now => now = state)
            (Meets.of_forEach (fun _ now => now = state) ?_ rfl) ?_
          · rintro service _ state rfl
            exact managedUnitCheck_meets .systemd (.guard service) progress
          · rintro _ state rfl
            exact Meets.of_effectless (fun _ => progress) ⟨rfl, supported⟩
      | openrc =>
          refine Meets.andThen (fun _ now => now = state)
            (managedUnitCheck_meets .openrc .unit progress) ?_
          rintro _ state rfl
          refine Meets.andThen (fun _ now => now = state)
            (managedUnitCheck_meets .openrc .bootstrapUnit progress) ?_
          rintro _ state rfl
          refine Meets.andThen
            (fun _ now => now = state ∧
              ∀ service, service ∉ ([] : List Service) →
                tools.runlevelOverride service = none)
            (Meets.of_forEach
              (fun rest now => now = state ∧ ∀ service, service ∉ rest →
                tools.runlevelOverride service = none) ?_ ?_) ?_
          · rintro service rest state ⟨rfl, passed⟩
            refine Meets.andThen (fun _ now => now = state)
              (managedUnitCheck_meets .openrc (.guard service) progress) ?_
            rintro _ state rfl
            cases override : tools.runlevelOverride service with
            | some file => exact Meets.of_exit progress
            | none =>
                refine Meets.of_pure ⟨rfl, ?_⟩
                intro other notLater
                by_cases isThis : other = service
                · rw [isThis]
                  exact override
                · exact passed other (by simp [isThis, notLater])
          · exact ⟨rfl, fun service notLater =>
              absurd (mem_services service) notLater⟩
          · rintro _ state ⟨rfl, passed⟩
            refine Meets.of_effectless (fun _ => progress) ⟨rfl, ?_⟩
            exact ⟨by simp [init], fun _ service =>
              passed service List.not_mem_nil⟩

/-- The boot files that guard the services are in place. -/
structure Guarded (tools : Tools) (state : State τ) : Prop where
  guards : ∀ service, state.bootFiles (.guard service) = .current
  bootstrapUnit : tools.init = some .openrc →
    state.bootFiles .bootstrapUnit = .current

theorem Guarded.of_progress {now : State τ} (guarded : Guarded tools state)
    (progress : BootProgress state now) : Guarded tools now where
  guards service := progress.bootFiles _ (guarded.guards service)
  bootstrapUnit openrc := progress.bootFiles _ (guarded.bootstrapUnit openrc)

theorem guards_meet {body : Service → Script (State τ) PUnit}
    (round : ∀ service now, BootProgress before now →
      Meets reliable (body service)
        (fun _ reached => BootProgress before reached ∧
          reached.bootFiles (.guard service) = .current ∧
          BootProgress now reached)
        (BootProgress before) now)
    (progress : BootProgress before state) :
    Meets reliable (forEach services body)
      (fun _ now => BootProgress before now ∧ BootProgress state now ∧
        ∀ service, now.bootFiles (.guard service) = .current)
      (BootProgress before) state := by
  refine Meets.mono
    (Meets.of_forEach
      (fun rest now => BootProgress before now ∧ BootProgress state now ∧
        ∀ service, service ∉ rest →
          now.bootFiles (.guard service) = .current)
      ?_ ?_) ?_ (fun _ failed => failed)
  · rintro service rest now ⟨fromBefore, fromState, installed⟩
    refine (round service now fromBefore).mono ?_ (fun _ failed => failed)
    rintro _ reached ⟨reachedBefore, isCurrent, more⟩
    refine ⟨reachedBefore, fromState.trans more, ?_⟩
    intro other notLater
    by_cases isThis : other = service
    · rw [isThis]
      exact isCurrent
    · exact more.bootFiles _ (installed other (by simp [isThis, notLater]))
  · exact ⟨progress, BootProgress.refl state, fun service notLater =>
      absurd (mem_services service) notLater⟩
  · rintro _ now ⟨fromBefore, fromState, installed⟩
    exact ⟨fromBefore, fromState, fun service =>
      installed service List.not_mem_nil⟩

theorem installGuards_meets (supported : Supported tools)
    (progress : BootProgress before state) :
    Meets reliable (installGuards tools)
      (fun _ now => BootProgress before now ∧ BootProgress state now ∧
        Guarded tools now) (BootProgress before) state := by
  unfold installGuards
  cases init : tools.init with
  | none => exact absurd init supported.init
  | some system =>
      cases system with
      | systemd =>
          refine Meets.andThen _ (guards_meet ?_ progress) ?_
          · intro service now fromBefore
            apply Meets.of_bind
            exact Meets.of_effectless (fun _ => fromBefore)
              (installIfChanged_meets (.guard service) fromBefore)
          · rintro _ now ⟨fromBefore, fromState, guards⟩
            refine Meets.of_effectless (fun _ => fromBefore)
              ⟨fromBefore, fromState, guards, ?_⟩
            simp [init]
      | openrc =>
          apply Meets.of_bind
          refine Meets.of_effectless (fun _ => progress) ?_
          refine Meets.andThen _
            (installIfChanged_meets .bootstrapUnit progress) ?_
          rintro _ middle ⟨fromBefore, isCurrent, fromState⟩
          refine Meets.mono (guards_meet ?_ fromBefore) ?_
            (fun _ failed => failed)
          · intro service now fromBefore
            exact installIfChanged_meets (.guard service) fromBefore
          · rintro _ now ⟨reachedBefore, more, guards⟩
            exact ⟨reachedBefore, fromState.trans more, guards,
              fun _ => more.bootFiles _ isCurrent⟩

theorem enableService_meets (progress : BootProgress before state) :
    Meets reliable enableService
      (fun _ now => BootProgress before now ∧ BootProgress state now ∧
        now.serviceEnabled = true) (BootProgress before) state := by
  apply Meets.of_bind
  apply Meets.of_test
  apply Meets.of_onlyIf
  · intro _
    apply Meets.of_bind
    refine Meets.of_command (fun _ => progress) (fun _ => progress) ?_
    intro changed written
    cases written
    apply Meets.of_assign
    have fromState : BootProgress state
        { state with
          serviceEnabled := true
          changed := true } :=
      ⟨rfl, rfl, rfl, rfl, rfl, rfl, fun _ same => same, fun _ => rfl⟩
    exact ⟨progress.trans fromState, fromState, rfl⟩
  · intro enabled
    exact ⟨progress, BootProgress.refl state,
      Bool.eq_true_of_not_eq_false enabled⟩

theorem installSystemdUnit_meets (progress : BootProgress before state) :
    Meets reliable installSystemdUnit
      (fun _ now => BootProgress before now ∧
        now.bootFiles .unit = .current ∧ BootProgress state now)
      (BootProgress before) state := by
  apply Meets.of_bind
  apply Meets.of_test
  apply Meets.of_onlyIf
  · intro _
    apply Meets.of_bind
    refine Meets.of_command (fun _ => progress) (fun _ => progress) ?_
    intro changed written
    cases written
    have installed := bootProgress_withFile state .unit
    apply Meets.of_bind
    refine Meets.of_effectless (fun _ => progress.trans installed) ?_
    apply Meets.of_assign
    have marked := installed.trans
      (bootProgress_changed (withFile state .unit) true)
    refine ⟨progress.trans marked, ?_, marked⟩
    exact Function.update_self BootFile.unit .current state.bootFiles
  · intro isCurrent
    exact ⟨progress, not_not.mp isCurrent, BootProgress.refl state⟩

theorem installUnit_meets (supported : Supported tools)
    (progress : BootProgress before state) :
    Meets reliable (installUnit tools)
      (fun _ now => BootProgress before now ∧ BootProgress state now ∧
        now.bootFiles .unit = .current ∧ now.serviceEnabled = true)
      (BootProgress before) state := by
  have enabling : ∀ middle, BootProgress before middle →
      BootProgress state middle → middle.bootFiles .unit = .current →
      Meets reliable enableService
        (fun _ now => BootProgress before now ∧ BootProgress state now ∧
          now.bootFiles .unit = .current ∧ now.serviceEnabled = true)
        (BootProgress before) middle := by
    intro middle fromBefore fromState isCurrent
    refine (enableService_meets fromBefore).mono ?_ (fun _ failed => failed)
    rintro _ now ⟨reachedBefore, more, enabled⟩
    exact ⟨reachedBefore, fromState.trans more, more.bootFiles _ isCurrent,
      enabled⟩
  unfold installUnit
  cases init : tools.init with
  | none => exact absurd init supported.init
  | some system =>
      cases system with
      | systemd =>
          refine Meets.andThen _ (installSystemdUnit_meets progress) ?_
          rintro _ middle ⟨fromBefore, isCurrent, fromState⟩
          exact enabling middle fromBefore fromState isCurrent
      | openrc =>
          refine Meets.andThen _ (installIfChanged_meets .unit progress) ?_
          rintro _ middle ⟨fromBefore, isCurrent, fromState⟩
          exact enabling middle fromBefore fromState isCurrent

/-! ## A guest that is set up -/

/-- All boot files and the boot service are in place. -/
structure SetUp (tools : Tools) (state : State τ) : Prop extends
    Guarded tools state where
  sysctlConf : state.bootFiles .sysctlConf = .current
  unit : state.bootFiles .unit = .current
  serviceEnabled : state.serviceEnabled = true

/-- A part of the script leaves the state as it is, and fails only through
the failure of a command. -/
def Leaves (reliable : Prop) (script : Script (State τ) PUnit)
    (state : State τ) : Prop :=
  Meets reliable script (fun _ now => now = state) (fun _ => ¬ reliable)
    state

theorem Leaves.of_bind {first second : Script (State τ) PUnit}
    (firstLeaves : Leaves reliable first state)
    (secondLeaves : Leaves reliable second state) :
    Leaves reliable (first >>= fun _ => second) state := by
  refine Meets.andThen _ firstLeaves ?_
  rintro _ _ rfl
  exact secondLeaves

theorem Leaves.of_forEach {items : List Service}
    {body : Service → Script (State τ) PUnit}
    (round : ∀ item, Leaves reliable (body item) state) :
    Leaves reliable (forEach items body) state := by
  refine Meets.of_forEach (fun _ now => now = state) ?_ rfl
  rintro item _ _ rfl
  exact round item

theorem effectless_leaves : Leaves reliable effectless state :=
  Meets.of_effectless (fun unreliable => unreliable) rfl

theorem installIfChanged_leaves {file : BootFile}
    (isCurrent : state.bootFiles file = .current) :
    Leaves reliable (installIfChanged file) state := by
  apply Meets.of_bind
  apply Meets.of_test
  exact Meets.of_onlyIf (fun outdated => absurd isCurrent outdated)
    fun _ => rfl

theorem managedUnitCheck_leaves {init : Init} {file : BootFile}
    (isCurrent : state.bootFiles file = .current) :
    Leaves reliable (managedUnitCheck init file) state := by
  apply Meets.of_bind
  apply Meets.of_test
  refine Meets.of_check (fun _ => rfl) ?_
  simp [isCurrent]

theorem checkBootFiles_leaves (supported : Supported tools)
    (setUp : SetUp tools state) :
    Leaves reliable (checkBootFiles tools) state := by
  unfold checkBootFiles
  cases init : tools.init with
  | none => exact absurd init supported.init
  | some system =>
      cases system with
      | systemd =>
          refine Leaves.of_bind (managedUnitCheck_leaves setUp.unit)
            (Leaves.of_bind (Leaves.of_forEach ?_) effectless_leaves)
          intro service
          exact managedUnitCheck_leaves (setUp.guards service)
      | openrc =>
          refine Leaves.of_bind (managedUnitCheck_leaves setUp.unit)
            (Leaves.of_bind
              (managedUnitCheck_leaves (setUp.bootstrapUnit init))
              (Leaves.of_bind (Leaves.of_forEach ?_) effectless_leaves))
          intro service
          refine Leaves.of_bind
            (managedUnitCheck_leaves (setUp.guards service)) ?_
          rw [supported.overrides init service]
          exact Meets.of_pure rfl

theorem installGuards_leaves (supported : Supported tools)
    (setUp : SetUp tools state) :
    Leaves reliable (installGuards tools) state := by
  unfold installGuards
  cases init : tools.init with
  | none => exact absurd init supported.init
  | some system =>
      cases system with
      | systemd =>
          refine Leaves.of_bind (Leaves.of_forEach ?_) effectless_leaves
          intro service
          exact Leaves.of_bind effectless_leaves
            (installIfChanged_leaves (setUp.guards service))
      | openrc =>
          refine Leaves.of_bind effectless_leaves
            (Leaves.of_bind
              (installIfChanged_leaves (setUp.bootstrapUnit init))
              (Leaves.of_forEach ?_))
          intro service
          exact installIfChanged_leaves (setUp.guards service)

theorem installUnit_leaves (supported : Supported tools)
    (setUp : SetUp tools state) :
    Leaves reliable (installUnit tools) state := by
  have enabling : Leaves reliable enableService state := by
    apply Meets.of_bind
    apply Meets.of_test
    refine Meets.of_onlyIf ?_ fun _ => rfl
    simp [setUp.serviceEnabled]
  have unitFile : Leaves reliable installSystemdUnit state := by
    apply Meets.of_bind
    apply Meets.of_test
    exact Meets.of_onlyIf (fun outdated => absurd setUp.unit outdated)
      fun _ => rfl
  unfold installUnit
  cases init : tools.init with
  | none => exact absurd init supported.init
  | some system =>
      cases system with
      | systemd => exact Leaves.of_bind unitFile enabling
      | openrc =>
          exact Leaves.of_bind (installIfChanged_leaves setUp.unit) enabling

end Phases

end RouterApply

end Vzctl
