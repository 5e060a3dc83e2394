import Mathlib.Data.Finset.Sort
import Vzctl.Edge.DnsBind
import Vzctl.Lib.Dictionary
import Vzctl.Lib.Script
import Vzctl.Lib.Transition

/-!
# Host aliases and their block rules

`HostNetworkReconciler` of vz-edge: the addresses of vz-edge on the host and
the firewall rules that keep guests off them, changed one client call at a
time.  A client call that fails leaves the host as it was.
-/

namespace Vzctl

open DnsBind Script

abbrev FirewallRules := Dictionary FirewallBinding

namespace FirewallRules

/-- `values.sorted { $0.cidr < $1.cidr }`. -/
def bindings (rules : FirewallRules) : List FirewallBinding :=
  sortedBy FirewallBinding.cidr (rules.entries.map fun entry => entry.2)

/-- Every rule stands under its own CIDR. -/
def Keyed (rules : FirewallRules) : Prop :=
  ∀ cidr binding, rules.lookup cidr = some binding → binding.cidr = cidr

end FirewallRules

namespace HostNetwork

/-- The addresses that a call asks for, each with a rule of its own. -/
structure Target where
  cidrs : Finset String
  firewall : FirewallRules
  keyed : firewall.Keyed
  covered : ∀ cidr ∈ cidrs, ∃ binding, firewall.lookup cidr = some binding

/-- The host at one moment, and what the reconciler has recorded of it. -/
structure Moment where
  present : Finset String
  installed : List FirewallBinding
  aliases : Finset String
  firewall : FirewallRules

/-- `moments` are the moments after the client calls, the latest first. -/
structure World where
  now : Moment
  moments : List Moment

def World.start : World where
  now :=
    { present := ∅, installed := [], aliases := ∅, firewall := ∅ }
  moments := []

/-! ## Client calls -/

def clientCall (effect : Moment → Moment) : Script World PUnit :=
  command fun world => some { world with now := effect world.now }

/-- What the reconciler notes when a client call has returned. -/
def record (change : Moment → Moment) : Script World PUnit :=
  assign fun world =>
    { now := change world.now
      moments := change world.now :: world.moments }

def reconcileFirewall (rules : FirewallRules) : Script World PUnit := do
  clientCall fun host => { host with installed := rules.bindings }
  record fun host => { host with firewall := rules }

def ensureAlias (cidr : String) : Script World PUnit := do
  clientCall fun host => { host with present := insert cidr host.present }
  record fun host => { host with aliases := insert cidr host.aliases }

def removeAlias (cidr : String) : Script World PUnit := do
  clientCall fun host => { host with present := host.present.erase cidr }
  record fun host => { host with aliases := host.aliases.erase cidr }

/-! ## The reconciler -/

/-- Protect new addresses before adding them.  Existing protection remains
active until `finish` has removed stale aliases. -/
def prepare (target : Target) : Script World PUnit := do
  let current ← test fun world => world.now
  let protection := target.firewall ∪ current.firewall
  onlyIf (protection.entries ≠ []) (reconcileFirewall protection)
  Procedure.forEach ((target.cidrs \ current.aliases).sort (· ≤ ·)) ensureAlias

/-- Remove stale aliases while their block rules are still installed, then
publish only the final ruleset. -/
def finish (target : Target) : Script World PUnit := do
  let current ← test fun world => world.now.aliases
  Procedure.forEach ((current \ target.cidrs).sort (· ≤ ·)).reverse removeAlias
  let recorded ← test fun world => world.now.firewall
  onlyIf (target.firewall.entries ≠ [] ∨ recorded.entries ≠ [])
    (clientCall fun host =>
      { host with installed := target.firewall.bindings })
  record fun host => { host with firewall := target.firewall }

/-- A call with the client calls of it that fail. -/
inductive Call where
  | prepare (target : Target) (pending : List Bool)
  | finish (target : Target) (pending : List Bool)

def World.step (world : World) : Call → World
  | .prepare target pending => ((prepare target).run world pending).2
  | .finish target pending => ((finish target).run world pending).2

/-! ## Rules -/

theorem mem_bindings_iff {rules : FirewallRules} {binding : FirewallBinding} :
    binding ∈ rules.bindings ↔
      ∃ cidr, rules.lookup cidr = some binding := by
  rw [FirewallRules.bindings, SortedBy.mem_sortedBy, List.mem_map]
  constructor
  · rintro ⟨entry, member, rfl⟩
    obtain ⟨cidr, held⟩ := entry
    exact ⟨cidr, AList.mem_lookup_iff.mpr member⟩
  · rintro ⟨cidr, found⟩
    exact ⟨⟨cidr, binding⟩, AList.mem_lookup_iff.mp found, rfl⟩

theorem bindings_of_entries_nil {rules : FirewallRules}
    (empty : rules.entries = []) : rules.bindings = [] := by
  rw [FirewallRules.bindings, empty]
  rfl

theorem eq_empty_of_entries_nil {rules : FirewallRules}
    (empty : rules.entries = []) : rules = ∅ :=
  AList.ext empty

theorem lookup_union (front back : FirewallRules) (cidr : String) :
    (front ∪ back).lookup cidr =
      (front.lookup cidr).or (back.lookup cidr) := by
  cases found : front.lookup cidr with
  | some binding =>
      have member : cidr ∈ front := AList.lookup_isSome.mp (by rw [found]; rfl)
      rw [AList.lookup_union_left member, found, Option.some_or]
  | none =>
      have absent : cidr ∉ front := AList.lookup_eq_none.mp found
      rw [AList.lookup_union_right absent, Option.none_or]

/-! ## The invariant -/

/-- Every alias on the host is blocked, and the host is as recorded. -/
structure Moment.Guarded (host : Moment) : Prop where
  covered : ∀ cidr ∈ host.present,
    ∃ binding ∈ host.installed, binding.cidr = cidr
  aliasesRecorded : host.aliases = host.present
  rulesRecorded : host.installed = host.firewall.bindings

/-- The same in terms of what is recorded, with a rule for each alias. -/
structure Moment.Sound (host : Moment) : Prop where
  aliasesRecorded : host.aliases = host.present
  rulesRecorded : host.installed = host.firewall.bindings
  keyed : host.firewall.Keyed
  protects : ∀ cidr ∈ host.aliases,
    ∃ binding, host.firewall.lookup cidr = some binding

theorem Moment.Sound.guarded {host : Moment} (sound : host.Sound) :
    host.Guarded where
  covered := by
    intro cidr isPresent
    rw [← sound.aliasesRecorded] at isPresent
    obtain ⟨binding, found⟩ := sound.protects cidr isPresent
    refine ⟨binding, ?_, sound.keyed cidr binding found⟩
    rw [sound.rulesRecorded]
    exact mem_bindings_iff.mpr ⟨cidr, found⟩
  aliasesRecorded := sound.aliasesRecorded
  rulesRecorded := sound.rulesRecorded

structure World.Sound (world : World) : Prop where
  now : world.now.Sound
  moments : ∀ host ∈ world.moments, host.Guarded

theorem World.start_sound : World.start.Sound where
  now :=
    { aliasesRecorded := rfl
      rulesRecorded := rfl
      keyed := by
        intro cidr binding found
        cases found
      protects := by
        intro cidr isAlias
        cases isAlias }
  moments := by
    intro host member
    cases member

theorem World.Sound.after {world : World} (sound : world.Sound)
    {host : Moment} (again : host.Sound) :
    World.Sound ⟨host, host :: world.moments⟩ where
  now := again
  moments := by
    intro moment member
    rcases List.mem_cons.mp member with same | earlier
    · rw [same]
      exact again.guarded
    · exact sound.moments moment earlier

/-! ## Steps -/

theorem meets_call {world : World} {effect change : Moment → Moment}
    {returns : PUnit → World → Prop} (sound : world.Sound)
    (performed : returns ⟨⟩
      ⟨change (effect world.now),
        change (effect world.now) :: world.moments⟩) :
    Meets False (do clientCall effect; record change) returns World.Sound
      world := by
  apply Meets.of_bind
  refine Meets.of_command (fun _ => sound) (fun impossible => ?_) ?_
  · cases impossible
  · intro changed same
    cases same
    exact Meets.of_assign performed

theorem meets_reconcileFirewall {world : World} {rules : FirewallRules}
    (sound : world.Sound) (keyed : rules.Keyed)
    (protects : ∀ cidr ∈ world.now.aliases,
      ∃ binding, rules.lookup cidr = some binding) :
    Meets False (reconcileFirewall rules)
      (fun _ reached => reached.Sound ∧
        reached.now.firewall = rules ∧
        reached.now.aliases = world.now.aliases)
      World.Sound world := by
  refine meets_call sound ⟨?_, rfl, rfl⟩
  exact sound.after
    { aliasesRecorded := sound.now.aliasesRecorded
      rulesRecorded := rfl
      keyed := keyed
      protects := protects }

theorem meets_ensureAlias {world : World} {cidr : String}
    (sound : world.Sound)
    (isProtected : ∃ binding, world.now.firewall.lookup cidr = some binding) :
    Meets False (ensureAlias cidr)
      (fun _ reached => reached.Sound ∧
        reached.now.firewall = world.now.firewall ∧
        reached.now.aliases = insert cidr world.now.aliases)
      World.Sound world := by
  refine meets_call sound ⟨?_, rfl, rfl⟩
  refine sound.after
    { aliasesRecorded := by
        simp only [sound.now.aliasesRecorded]
      rulesRecorded := sound.now.rulesRecorded
      keyed := sound.now.keyed
      protects := ?_ }
  intro other isAlias
  rcases Finset.mem_insert.mp isAlias with same | before
  · rw [same]
    exact isProtected
  · exact sound.now.protects other before

theorem meets_removeAlias {world : World} {cidr : String}
    (sound : world.Sound) :
    Meets False (removeAlias cidr)
      (fun _ reached => reached.Sound ∧
        reached.now.firewall = world.now.firewall ∧
        reached.now.aliases = world.now.aliases.erase cidr)
      World.Sound world := by
  refine meets_call sound ⟨?_, rfl, rfl⟩
  refine sound.after
    { aliasesRecorded := by
        simp only [sound.now.aliasesRecorded]
      rulesRecorded := sound.now.rulesRecorded
      keyed := sound.now.keyed
      protects := ?_ }
  intro other isAlias
  exact sound.now.protects other (Finset.mem_of_mem_erase isAlias)

/-! ## Calls -/

theorem meets_ensureAliases {world : World} (cidrs : List String)
    (sound : world.Sound)
    (areProtected : ∀ cidr ∈ cidrs,
      ∃ binding, world.now.firewall.lookup cidr = some binding) :
    Meets False (Procedure.forEach cidrs ensureAlias)
      (fun _ reached => reached.Sound ∧
        reached.now.aliases = world.now.aliases ∪ cidrs.toFinset)
      World.Sound world := by
  have looped : Meets False (Procedure.forEach cidrs ensureAlias)
      (fun _ state => state.Sound ∧
        state.now.firewall = world.now.firewall ∧
        (∀ cidr ∈ ([] : List String), cidr ∈ cidrs) ∧
        state.now.aliases ∪ [].toFinset =
          world.now.aliases ∪ cidrs.toFinset)
      World.Sound world := by
    refine Meets.of_forEach (fun remaining (state : World) => state.Sound ∧
      state.now.firewall = world.now.firewall ∧
      (∀ cidr ∈ remaining, cidr ∈ cidrs) ∧
      state.now.aliases ∪ remaining.toFinset =
        world.now.aliases ∪ cidrs.toFinset) ?_ ⟨sound, rfl, ?_, rfl⟩
    · intro cidr rest state invariant
      obtain ⟨stateSound, rules, among, union⟩ := invariant
      refine (meets_ensureAlias stateSound ?_).mono ?_ fun _ failed => failed
      · rw [rules]
        exact areProtected cidr (among cidr List.mem_cons_self)
      · intro _ next facts
        obtain ⟨nextSound, sameRules, added⟩ := facts
        refine ⟨nextSound, sameRules.trans rules, ?_, ?_⟩
        · intro other member
          exact among other (List.mem_cons_of_mem _ member)
        · rw [added, ← union, List.toFinset_cons, Finset.insert_union,
            Finset.union_insert]
    · intro cidr member
      exact member
  refine looped.mono ?_ fun _ failed => failed
  intro _ state facts
  obtain ⟨stateSound, _, _, union⟩ := facts
  rw [List.toFinset_nil, Finset.union_empty] at union
  exact ⟨stateSound, union⟩

theorem meets_removeAliases {world : World} (cidrs : List String)
    (sound : world.Sound) :
    Meets False (Procedure.forEach cidrs removeAlias)
      (fun _ reached => reached.Sound ∧
        reached.now.aliases = world.now.aliases \ cidrs.toFinset)
      World.Sound world := by
  have looped : Meets False (Procedure.forEach cidrs removeAlias)
      (fun _ state => state.Sound ∧
        state.now.aliases \ [].toFinset =
          world.now.aliases \ cidrs.toFinset)
      World.Sound world := by
    refine Meets.of_forEach (fun remaining (state : World) => state.Sound ∧
      state.now.aliases \ remaining.toFinset =
        world.now.aliases \ cidrs.toFinset) ?_ ⟨sound, rfl⟩
    intro cidr rest state invariant
    obtain ⟨stateSound, left⟩ := invariant
    refine (meets_removeAlias stateSound).mono ?_ fun _ failed => failed
    intro _ next facts
    obtain ⟨nextSound, _, removed⟩ := facts
    refine ⟨nextSound, ?_⟩
    rw [removed, ← left, List.toFinset_cons]
    ext other
    simp only [Finset.mem_sdiff, Finset.mem_erase, Finset.mem_insert]
    tauto
  refine looped.mono ?_ fun _ failed => failed
  intro _ state facts
  obtain ⟨stateSound, left⟩ := facts
  rw [List.toFinset_nil, Finset.sdiff_empty] at left
  exact ⟨stateSound, left⟩

theorem meets_prepare {world : World} (target : Target)
    (sound : world.Sound) :
    Meets False (prepare target)
      (fun _ reached => reached.Sound ∧
        reached.now.aliases = world.now.aliases ∪ target.cidrs)
      World.Sound world := by
  have found := lookup_union target.firewall world.now.firewall
  have keyed : (target.firewall ∪ world.now.firewall).Keyed := by
    intro cidr binding lookedUp
    rw [found, Option.or_eq_some_iff] at lookedUp
    rcases lookedUp with inTarget | ⟨_, before⟩
    · exact target.keyed cidr binding inTarget
    · exact sound.now.keyed cidr binding before
  have protectsBefore : ∀ cidr ∈ world.now.aliases, ∃ binding,
      (target.firewall ∪ world.now.firewall).lookup cidr =
        some binding := by
    intro cidr isAlias
    obtain ⟨binding, before⟩ := sound.now.protects cidr isAlias
    rw [found, before]
    cases target.firewall.lookup cidr with
    | none => exact ⟨binding, rfl⟩
    | some other => exact ⟨other, rfl⟩
  have protectsTarget : ∀ cidr ∈ target.cidrs, ∃ binding,
      (target.firewall ∪ world.now.firewall).lookup cidr =
        some binding := by
    intro cidr isTarget
    obtain ⟨binding, inTarget⟩ := target.covered cidr isTarget
    exact ⟨binding, by rw [found, inTarget, Option.some_or]⟩
  apply Meets.of_bind
  apply Meets.of_test
  refine Meets.andThen
    (fun _ reached => reached.Sound ∧
      reached.now.firewall = target.firewall ∪ world.now.firewall ∧
      reached.now.aliases = world.now.aliases) ?_ ?_
  · refine Meets.of_onlyIf
      (fun _ => meets_reconcileFirewall sound keyed protectsBefore) ?_
    intro nothing
    have noRules := not_not.mp nothing
    have noTarget : target.firewall ∪ world.now.firewall =
        world.now.firewall := by
      have noFront : target.firewall = ∅ := by
        apply eq_empty_of_entries_nil
        cases entries : target.firewall.entries with
        | nil => rfl
        | cons entry rest =>
            have held : target.firewall.lookup entry.1 = some entry.2 :=
              AList.mem_lookup_iff.mpr
                (by rw [entries]; exact List.mem_cons_self)
            have joined := found entry.1
            rw [held, eq_empty_of_entries_nil noRules, Option.some_or]
              at joined
            cases joined
      rw [noFront, AList.empty_union]
    exact ⟨sound, noTarget.symm, rfl⟩
  · intro _ reached facts
    obtain ⟨reachedSound, rules, aliases⟩ := facts
    have areProtected : ∀ cidr ∈
        (target.cidrs \ world.now.aliases).sort (· ≤ ·),
        ∃ binding, reached.now.firewall.lookup cidr = some binding := by
      intro cidr member
      rw [Finset.mem_sort, Finset.mem_sdiff] at member
      rw [rules]
      exact protectsTarget cidr member.1
    refine (meets_ensureAliases _ reachedSound areProtected).mono ?_
      fun _ failed => failed
    intro _ state facts
    obtain ⟨stateSound, added⟩ := facts
    refine ⟨stateSound, ?_⟩
    rw [added, aliases, Finset.sort_toFinset,
      Finset.union_sdiff_self_eq_union]

theorem meets_finish {world : World} (target : Target)
    (sound : world.Sound) :
    Meets False (finish target)
      (fun _ reached => reached.Sound ∧
        reached.now.aliases = world.now.aliases ∩ target.cidrs ∧
        reached.now.installed = target.firewall.bindings)
      World.Sound world := by
  apply Meets.of_bind
  apply Meets.of_test
  refine Meets.andThen
    (fun _ reached => reached.Sound ∧
      reached.now.aliases = world.now.aliases ∩ target.cidrs) ?_ ?_
  · refine (meets_removeAliases _ sound).mono ?_ fun _ failed => failed
    intro _ state facts
    obtain ⟨stateSound, left⟩ := facts
    refine ⟨stateSound, ?_⟩
    rw [left, List.toFinset_reverse, Finset.sort_toFinset,
      Finset.sdiff_sdiff_self_left]
  · intro _ reached facts
    obtain ⟨reachedSound, aliases⟩ := facts
    have again : ∀ installed, installed = target.firewall.bindings →
        Moment.Sound
          { reached.now with
            installed := installed, firewall := target.firewall } := by
      intro installed same
      exact
        { aliasesRecorded := reachedSound.now.aliasesRecorded
          rulesRecorded := same
          keyed := target.keyed
          protects := by
            intro cidr isAlias
            change cidr ∈ reached.now.aliases at isAlias
            rw [aliases] at isAlias
            exact target.covered cidr (Finset.mem_inter.mp isAlias).2 }
    apply Meets.of_bind
    apply Meets.of_test
    apply Meets.of_bind
    refine Meets.of_onlyIf (fun _ => ?_) (fun nothing => ?_)
    · refine Meets.of_command (fun _ => reachedSound)
        (fun impossible => ?_) ?_
      · cases impossible
      · intro changed same
        cases same
        exact Meets.of_assign
          ⟨reachedSound.after (again _ rfl), aliases, rfl⟩
    · have noTarget := not_not.mp (not_or.mp nothing).1
      have noRules := not_not.mp (not_or.mp nothing).2
      have bare : reached.now.installed = target.firewall.bindings := by
        rw [reachedSound.now.rulesRecorded, bindings_of_entries_nil noRules,
          bindings_of_entries_nil noTarget]
      exact Meets.of_assign
        ⟨reachedSound.after (again _ bare), aliases, bare⟩

/-! ## Runs -/

theorem sound_of_step {world : World} (sound : world.Sound) (call : Call) :
    (world.step call).Sound := by
  cases call with
  | prepare target pending =>
      have meets := (meets_prepare target sound).mono
        (fun _ _ facts => facts.1) fun _ failed => failed
      exact meets.of_ended False.elim
  | finish target pending =>
      have meets := (meets_finish target sound).mono
        (fun _ _ facts => facts.1) fun _ failed => failed
      exact meets.of_ended False.elim

/-- After every client call of every run each alias on the host has its block
rule and the host is as recorded; a target that is prepared and finished is
what is left. -/
theorem aliases_guarded_of_runs {world : World}
    (run : Transitions.Runs (Transitions.ofFunction World.step) World.start
      world) :
    (∀ moment ∈ world.now :: world.moments, moment.Guarded) ∧
      ∀ (target : Target) (first second : List Bool) (middle last : World),
        (prepare target).run world first = (.ok ⟨⟩, middle) →
        (finish target).run middle second = (.ok ⟨⟩, last) →
        last.now.present = target.cidrs ∧
          last.now.installed = target.firewall.bindings := by
  have sound : world.Sound := by
    refine Transitions.invariant_of_runs World.Sound ?_ World.start_sound run
    intro source call reached sourceSound performed
    rw [← performed]
    exact sound_of_step sourceSound call
  constructor
  · intro moment member
    rcases List.mem_cons.mp member with same | earlier
    · rw [same]
      exact sound.now.guarded
    · exact sound.moments moment earlier
  · intro target first second middle last prepared finished
    obtain ⟨middleSound, added⟩ :=
      (meets_prepare target sound).of_returned False.elim prepared
    obtain ⟨lastSound, left, installed⟩ :=
      (meets_finish target middleSound).of_returned False.elim finished
    refine ⟨?_, installed⟩
    rw [← lastSound.now.aliasesRecorded, left, added]
    exact Finset.union_inter_cancel_right

/-! ## One network comes up -/

def labRules : FirewallRules :=
  (∅ : FirewallRules).insert "10.8.0.0/24"
    { cidr := "10.8.0.0/24", allowedSources := ["10.8.0.0/24"], tcpPorts := []
      dnsPort := some 53, dnsBackendPort := some 5353 }

def labTarget : Target where
  cidrs := {"10.8.0.0/24"}
  firewall := labRules
  keyed := by
    intro cidr binding found
    rcases Dictionary.eq_of_lookup_insert found with before | ⟨same, added⟩
    · cases before
    · rw [← same, ← added]
  covered := by
    intro cidr isTarget
    rw [Finset.mem_singleton.mp isTarget]
    exact ⟨_, AList.lookup_insert _⟩

def labWorld : World := World.start.step (.prepare labTarget [])

theorem aliases_guarded_labWorld :
    (∀ moment ∈ labWorld.now :: labWorld.moments, moment.Guarded) ∧
      labWorld.now.present = {"10.8.0.0/24"} :=
  ⟨(aliases_guarded_of_runs
      ((Transitions.Runs.refl World.start).snoc
        (show Transitions.ofFunction World.step World.start
          (.prepare labTarget []) labWorld from rfl))).1,
    by decide +kernel⟩

end HostNetwork

end Vzctl
