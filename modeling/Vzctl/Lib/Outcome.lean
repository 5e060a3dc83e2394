import Vzctl.Lib.InStep

/-!
# Fallible computations

Inversion of the sequencing of `Except` computations: what a computation that
succeeds has done before.
-/

namespace Outcome

universe u v w

variable {ε : Type u} {α : Type v} {β : Type v}

theorem bind_eq_ok_iff
    {first : Except ε α} {next : α → Except ε β} {result : β} :
    (first >>= next) = .ok result ↔
      ∃ value, first = .ok value ∧ next value = .ok result := by
  cases first with
  | error failure =>
      constructor
      · intro impossible
        cases impossible
      · rintro ⟨value, impossible, _⟩
        cases impossible
  | ok value =>
      constructor
      · intro performed
        exact ⟨value, rfl, performed⟩
      · rintro ⟨other, same, performed⟩
        cases same
        exact performed

theorem map_eq_ok_iff {outcome : Except ε α} {wrap : α → β} {result : β} :
    outcome.map wrap = .ok result ↔
      ∃ value, outcome = .ok value ∧ wrap value = result := by
  cases outcome with
  | error failure =>
      constructor
      · intro impossible
        cases impossible
      · rintro ⟨value, impossible, _⟩
        cases impossible
  | ok value =>
      constructor
      · intro same
        exact ⟨value, rfl, Except.ok.inj same⟩
      · rintro ⟨other, same, wrapped⟩
        rw [Except.ok.inj same, Except.map, wrapped]

theorem pure_eq_ok_iff {value result : α} :
    (pure value : Except ε α) = .ok result ↔ value = result :=
  Except.ok.injEq value result ▸ Iff.rfl

theorem mapError_eq_ok_iff {δ : Type w} {outcome : Except ε α}
    {rename : ε → δ} {result : α} :
    outcome.mapError rename = .ok result ↔ outcome = .ok result := by
  cases outcome with
  | ok value =>
      constructor
      · intro same
        exact congrArg Except.ok (Except.ok.inj same)
      · intro same
        exact congrArg Except.ok (Except.ok.inj same)
  | error failure =>
      constructor
      · intro impossible
        cases impossible
      · intro impossible
        cases impossible

theorem forM_eq_ok_iff {check : α → Except ε PUnit} {items : List α} :
    forM items check = .ok ⟨⟩ ↔ ∀ item ∈ items, check item = .ok ⟨⟩ := by
  induction items with
  | nil => simp [pure, Except.pure]
  | cons item rest ih =>
      rw [List.forM_cons, bind_eq_ok_iff, List.forall_mem_cons,
        ih]
      constructor
      · rintro ⟨_, checked, others⟩
        exact ⟨checked, others⟩
      · rintro ⟨checked, others⟩
        exact ⟨⟨⟩, checked, others⟩

theorem map_eq_of_mapM {perform : α → Except ε β} {items : List α}
    {results : List β} {γ : Type w} {ofItem : α → γ} {ofResult : β → γ}
    (kept : ∀ item ∈ items, ∀ result, perform item = .ok result →
      ofResult result = ofItem item)
    (performed : items.mapM perform = .ok results) :
    results.map ofResult = items.map ofItem := by
  induction items generalizing results with
  | nil =>
      rw [List.mapM_nil, pure_eq_ok_iff] at performed
      rw [← performed]
      rfl
  | cons item rest ih =>
      rw [List.mapM_cons, bind_eq_ok_iff] at performed
      obtain ⟨first, ofFirst, performed⟩ := performed
      obtain ⟨others, ofOthers, ends⟩ := bind_eq_ok_iff.mp performed
      rw [← pure_eq_ok_iff.mp ends, List.map_cons, List.map_cons,
        kept item List.mem_cons_self first ofFirst,
        ih (fun other member => kept other (List.mem_cons_of_mem item member))
          ofOthers]

theorem mapM_cons_eq_error_iff {perform : α → Except ε β} {first : α}
    {rest : List α} {failure : ε} :
    (first :: rest).mapM perform = .error failure ↔
      perform first = .error failure ∨
        (perform first).isOk = true ∧ rest.mapM perform = .error failure := by
  rw [List.mapM_cons]
  cases performed : perform first with
  | error other => simp [bind, Except.bind, Except.isOk, Except.toBool]
  | ok result =>
      cases mapped : rest.mapM perform <;>
        simp [bind, Except.bind, pure, Except.pure, Except.isOk, Except.toBool]

theorem mapM_eq_error_iff {perform : α → Except ε β} {items : List α}
    {failure : ε} :
    items.mapM perform = .error failure ↔
      ∃ front item back, items = front ++ item :: back ∧
        (∀ earlier ∈ front, (perform earlier).isOk = true) ∧
          perform item = .error failure := by
  induction items with
  | nil =>
      rw [List.mapM_nil]
      constructor
      · intro impossible
        cases impossible
      · rintro ⟨front, item, back, parts, _⟩
        cases front with
        | nil => cases parts
        | cons first rest => cases parts
  | cons first rest ih =>
      rw [mapM_cons_eq_error_iff, ih]
      constructor
      · rintro (failed | ⟨accepted, front, item, back, rfl, others, failed⟩)
        · exact ⟨[], first, rest, rfl, by simp, failed⟩
        · exact ⟨first :: front, item, back, rfl,
            List.forall_mem_cons.mpr ⟨accepted, others⟩, failed⟩
      · rintro ⟨front, item, back, parts, accepted, failed⟩
        cases front with
        | nil =>
            obtain ⟨rfl, _⟩ := List.cons.inj parts
            exact .inl failed
        | cons earlier others =>
            obtain ⟨rfl, later⟩ := List.cons.inj parts
            have both := List.forall_mem_cons.mp accepted
            exact .inr ⟨both.1, others, item, back, later, both.2, failed⟩

theorem forall₂_of_mapM {perform : α → Except ε β} {items : List α}
    {results : List β} (performed : items.mapM perform = .ok results) :
    List.Forall₂ (fun item result => perform item = .ok result) items
      results := by
  induction items generalizing results with
  | nil =>
      rw [List.mapM_nil, pure_eq_ok_iff] at performed
      exact performed ▸ .nil
  | cons item rest ih =>
      rw [List.mapM_cons, bind_eq_ok_iff] at performed
      obtain ⟨result, first, performed⟩ := performed
      rw [bind_eq_ok_iff] at performed
      obtain ⟨others, later, whole⟩ := performed
      rw [pure_eq_ok_iff] at whole
      exact whole ▸ .cons first (ih later)

theorem mem_of_mapM {perform : α → Except ε β} {items : List α}
    {results : List β} (performed : items.mapM perform = .ok results) :
    (∀ result ∈ results, ∃ item ∈ items, perform item = .ok result) ∧
      ∀ item ∈ items, ∃ result ∈ results, perform item = .ok result := by
  obtain ⟨ofItem, ofResult⟩ :=
    InStep.exists_of_forall₂ (forall₂_of_mapM performed)
  exact ⟨ofResult, ofItem⟩

theorem mapM_map_eq_ok {γ : Type w} {encode : γ → α}
    {decode : α → Except ε β} {items : List γ} {result : γ → β}
    (decodes : ∀ item ∈ items, decode (encode item) = .ok (result item)) :
    (items.map encode).mapM decode = .ok (items.map result) := by
  induction items with
  | nil => rfl
  | cons item rest ih =>
      have ofRest := ih fun other member =>
        decodes other (List.mem_cons_of_mem item member)
      rw [List.map_cons, List.mapM_cons, decodes item List.mem_cons_self,
        ofRest]
      rfl

/-- A fold whose steps keep an invariant, lose nothing and each do their work
does all of it. -/
theorem foldlM_progress {σ : Type v} {step : σ → α → Except ε σ}
    {good : σ → Prop} {kept : σ → σ → Prop} {done : α → σ → Prop}
    {items : List α}
    (each : ∀ item ∈ items, ∀ state, good state →
      ∃ after, step state item = .ok after ∧ good after ∧
        kept state after ∧ done item after)
    (refl : ∀ state, kept state state)
    (trans : ∀ {first second third}, kept first second →
      kept second third → kept first third)
    (mono : ∀ {item first second}, kept first second → done item first →
      done item second)
    {state : σ} (start : good state) :
    ∃ after, items.foldlM step state = .ok after ∧ good after ∧
      kept state after ∧ ∀ item ∈ items, done item after := by
  induction items generalizing state with
  | nil => exact ⟨state, rfl, start, refl state, by simp⟩
  | cons item rest ih =>
      obtain ⟨middle, stepped, isGood, first, isDone⟩ :=
        each item List.mem_cons_self state start
      obtain ⟨after, folded, afterGood, second, restDone⟩ :=
        ih
          (fun other member => each other (List.mem_cons_of_mem item member))
          isGood
      refine ⟨after, ?_, afterGood, trans first second, ?_⟩
      · rw [List.foldlM_cons, stepped]
        exact folded
      · exact List.forall_mem_cons.mpr ⟨mono second isDone, restDone⟩

theorem eq_ok_get {outcome : Except ε α}
    (succeeds : outcome.toOption.isSome = true) :
    outcome = .ok (outcome.toOption.get succeeds) := by
  cases outcome with
  | ok value => rfl
  | error failure => cases succeeds

theorem exists_of_isOk {outcome : Except ε α}
    (succeeds : outcome.isOk = true) : ∃ value, outcome = .ok value := by
  cases outcome with
  | ok value => exact ⟨value, rfl⟩
  | error failure => cases succeeds

/-- A condition on the result of a computation that succeeds. -/
instance decidableOnSuccess {outcome : Except ε α} {holds : α → Prop}
    [DecidablePred holds] :
    Decidable (∀ value, outcome = .ok value → holds value) :=
  match outcome with
  | .ok value => decidable_of_iff (holds value) (by simp)
  | .error _ => .isTrue (by simp)

end Outcome
