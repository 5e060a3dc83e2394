import Mathlib.Logic.Relation

/-!
# Runs of labelled transition systems

A system is a relation `step : σ → ℓ → σ → Prop`.  A run is a finite chain of
steps with arbitrary labels, so every result about runs ranges over all
sequences of calls and all their interleavings.

* `invariant_of_runs` turns a step lemma into a run lemma;
* `relation_of_runs` does the same for a reflexive and transitive relation
  between an earlier and a later state (history and frame conditions);
* `guarded` keeps only the steps that meet a condition on the state before
  the step and on the label.
-/

namespace Transitions

universe u v

variable {σ : Type u} {ℓ : Type v}

/-- One step with some label. -/
def Moves (step : σ → ℓ → σ → Prop) (source target : σ) : Prop :=
  ∃ label, step source label target

/-- A finite sequence of steps leads from the first state to the second. -/
def Runs (step : σ → ℓ → σ → Prop) : σ → σ → Prop :=
  Relation.ReflTransGen (Moves step)

/-- The steps whose source state and label meet `allowed`. -/
def guarded
    (allowed : σ → ℓ → Prop) (step : σ → ℓ → σ → Prop) :
    σ → ℓ → σ → Prop :=
  fun source label target =>
    allowed source label ∧ step source label target

/-- The graph of a total step function. -/
def ofFunction (apply : σ → ℓ → σ) : σ → ℓ → σ → Prop :=
  fun source label target => apply source label = target

/-- Every label of a list meets `allowed` where a step function arrives at
it. -/
def Along (allowed : σ → ℓ → Prop) (apply : σ → ℓ → σ) :
    σ → List ℓ → Prop
  | _, [] => True
  | state, label :: rest =>
      allowed state label ∧ Along allowed apply (apply state label) rest

instance decidableAlong (allowed : σ → ℓ → Prop)
    [∀ state label, Decidable (allowed state label)] (apply : σ → ℓ → σ) :
    ∀ state labels, Decidable (Along allowed apply state labels)
  | _, [] => .isTrue trivial
  | state, label :: rest =>
      have := decidableAlong allowed apply (apply state label) rest
      inferInstanceAs (Decidable (_ ∧ _))

namespace Runs

variable {step : σ → ℓ → σ → Prop}

theorem refl (state : σ) : Runs step state state :=
  Relation.ReflTransGen.refl

theorem snoc {source middle target : σ} {label : ℓ}
    (run : Runs step source middle)
    (last : step middle label target) :
    Runs step source target :=
  Relation.ReflTransGen.tail run ⟨label, last⟩

theorem trans {source middle target : σ}
    (first : Runs step source middle)
    (second : Runs step middle target) :
    Runs step source target :=
  Relation.ReflTransGen.trans first second

/-- The run of a step function along a list of labels. -/
theorem ofFunction_foldl
    (apply : σ → ℓ → σ) (labels : List ℓ) (start : σ) :
    Runs (ofFunction apply) start (labels.foldl apply start) := by
  induction labels generalizing start with
  | nil => exact refl start
  | cons label rest ih =>
      have first : Runs (ofFunction apply) start (apply start label) :=
        Relation.ReflTransGen.single ⟨label, rfl⟩
      exact first.trans (ih (apply start label))

/-- The run along a list of labels that all meet a condition. -/
theorem guarded_foldl {allowed : σ → ℓ → Prop} {apply : σ → ℓ → σ}
    {labels : List ℓ} {start : σ}
    (along : Along allowed apply start labels) :
    Runs (guarded allowed (ofFunction apply)) start
      (labels.foldl apply start) := by
  induction labels generalizing start with
  | nil => exact refl start
  | cons label rest ih =>
      obtain ⟨meets, restAlong⟩ := along
      have first : Runs (guarded allowed (ofFunction apply)) start
          (apply start label) :=
        Relation.ReflTransGen.single ⟨label, meets, rfl⟩
      exact first.trans (ih restAlong)

/-- The run of a partial step function along a list of labels that all meet a
condition. -/
theorem guarded_foldlM {allowed : σ → ℓ → Prop}
    [∀ state label, Decidable (allowed state label)]
    {apply : σ → ℓ → Option σ} {labels : List ℓ} {start final : σ}
    (folded : labels.foldlM (fun state label =>
      if allowed state label then apply state label else none) start =
        some final) :
    Runs (guarded allowed fun source label target =>
      apply source label = some target) start final := by
  induction labels generalizing start with
  | nil =>
      rw [← Option.some.inj folded]
      exact refl start
  | cons label rest ih =>
      rw [List.foldlM_cons] at folded
      obtain ⟨middle, moved, remaining⟩ := Option.bind_eq_some_iff.mp folded
      by_cases meets : allowed start label
      · rw [if_pos meets] at moved
        have first : Moves (guarded allowed fun source label target =>
            apply source label = some target) start middle :=
          ⟨label, meets, moved⟩
        exact (Relation.ReflTransGen.single first).trans
          (ih remaining)
      · rw [if_neg meets] at moved
        cases moved

/-- One more step with a label that meets a condition. -/
theorem guarded_snoc {allowed : σ → ℓ → Prop} {source middle target : σ}
    (run : Runs (guarded allowed step) source middle) (label : ℓ)
    (meets : allowed middle label) (last : step middle label target) :
    Runs (guarded allowed step) source target :=
  run.snoc ⟨meets, last⟩

/-- A run of the steps that meet two conditions. -/
theorem guarded_both {first second : σ → ℓ → Prop} {source target : σ}
    (run : Runs (guarded (fun state label =>
      first state label ∧ second state label) step) source target) :
    Runs (guarded first (guarded second step)) source target := by
  refine Relation.ReflTransGen.mono ?_ _ _ run
  rintro before after ⟨label, ⟨meetsFirst, meetsSecond⟩, performed⟩
  exact ⟨label, meetsFirst, meetsSecond, performed⟩

/-- A run of the steps that meet a condition is a run. -/
theorem of_guarded {allowed : σ → ℓ → Prop} {source target : σ}
    (run : Runs (guarded allowed step) source target) :
    Runs step source target := by
  refine Relation.ReflTransGen.mono ?_ _ _ run
  rintro first second ⟨label, _, performed⟩
  exact ⟨label, performed⟩

end Runs

/-- A property that every step preserves holds at the end of every run. -/
theorem invariant_of_runs
    {step : σ → ℓ → σ → Prop} (invariant : σ → Prop)
    (preserved : ∀ source label target,
      invariant source → step source label target → invariant target)
    {source target : σ}
    (initial : invariant source)
    (run : Runs step source target) :
    invariant target := by
  induction run with
  | refl => exact initial
  | tail _ move ih =>
      obtain ⟨label, performed⟩ := move
      exact preserved _ label _ ih performed

/-- A reflexive and transitive relation that every step from an invariant
state respects relates the two ends of every run. -/
theorem relation_of_runs
    {step : σ → ℓ → σ → Prop} (invariant : σ → Prop)
    (relation : σ → σ → Prop)
    (reflexive : ∀ state, relation state state)
    (transitive : ∀ first second third,
      relation first second → relation second third →
        relation first third)
    (preserved : ∀ source label target,
      invariant source → step source label target → invariant target)
    (respected : ∀ source label target,
      invariant source → step source label target →
        relation source target)
    {source target : σ}
    (initial : invariant source)
    (run : Runs step source target) :
    relation source target := by
  induction run with
  | refl => exact reflexive source
  | @tail middle last earlier move ih =>
      obtain ⟨label, performed⟩ := move
      have middleInvariant : invariant middle :=
        invariant_of_runs invariant preserved initial earlier
      exact transitive source middle last ih
        (respected middle label last middleInvariant performed)

end Transitions
