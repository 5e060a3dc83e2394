import Vzctl.Lib.Dictionary

/-!
# Open listeners

Listeners under keys, together with what was closed and opened on the way.
One desired item keeps the listener under its key or renews it.
-/

namespace OpenListeners

variable {α ε : Type}

inductive Event (α : Type) where
  | closed (item : α)
  | opened (item : α)
  deriving DecidableEq, Repr

def Event.item : Event α → α
  | .closed item => item
  | .opened item => item

structure Listening (α : Type) where
  listeners : Dictionary α
  events : List (Event α)

def start (listeners : Dictionary α) : Listening α where
  listeners := listeners
  events := []

/-! ## Operations -/

namespace Listening

variable (state : Listening α)

def lookup (key : String) : Option α := state.listeners.lookup key

/-- `listeners.removeValue(forKey: key)?.close()`. -/
def remove (key : String) : Listening α :=
  match state.lookup key with
  | none => state
  | some held =>
      { listeners := state.listeners.erase key
        events := state.events ++ [.closed held] }

def install (key : String) (item : α) : Listening α where
  listeners := state.listeners.insert key item
  events := state.events ++ [.opened item]

def removeAll (keys : List String) : Listening α :=
  keys.foldl remove state

/-- Close what stands under other keys than the desired ones. -/
def retain (desired : List String) : Listening α :=
  state.removeAll (state.listeners.keys.filter (· ∉ desired))

end Listening

/-- The listener under the key of the item serves the item as well. -/
def Kept (key : α → String) (same : α → α → Bool) (listeners : Dictionary α)
    (item : α) : Prop :=
  ∃ held, listeners.lookup (key item) = some held ∧ same held item = true

instance (key : α → String) (same : α → α → Bool) (listeners : Dictionary α)
    (item : α) : Decidable (Kept key same listeners item) :=
  match found : listeners.lookup (key item) with
  | none => .isFalse fun kept => by
      obtain ⟨held, standing, _⟩ := kept
      rw [found] at standing
      cases standing
  | some held =>
      decidable_of_iff (same held item = true) (by
        constructor
        · intro equal
          exact ⟨held, found, equal⟩
        · intro kept
          obtain ⟨other, standing, equal⟩ := kept
          rw [found] at standing
          rwa [Option.some.inj standing])

/-- Keep the listener of an item, or close what stands under its key and try
to open the item. -/
def settle (key : α → String) (same : α → α → Bool) (opens : α → Option ε)
    (item : α) (state : Listening α) : Option ε × Listening α :=
  if Kept key same state.listeners item then (none, state)
  else
    let removed := state.remove (key item)
    match opens item with
    | some failure => (some failure, removed)
    | none => (none, removed.install (key item) item)

/-! ## Listeners under a key -/

section Lookup

variable {state : Listening α} {key other : String} {item : α}

theorem lookup_remove_self : (state.remove key).lookup key = none := by
  rw [Listening.remove]
  split
  · rename_i absent
    exact absent
  · exact AList.lookup_erase _ _

theorem lookup_remove_ne (different : other ≠ key) :
    (state.remove key).lookup other = state.lookup other := by
  rw [Listening.remove]
  split
  · rfl
  · exact AList.lookup_erase_ne different

theorem lookup_install_self : (state.install key item).lookup key = some item :=
  AList.lookup_insert _

theorem lookup_install_ne (different : other ≠ key) :
    (state.install key item).lookup other = state.lookup other :=
  AList.lookup_insert_ne different

theorem lookup_removeAll (keys : List String) :
    (state.removeAll keys).lookup other =
      if other ∈ keys then none else state.lookup other := by
  rw [Listening.removeAll]
  induction keys generalizing state with
  | nil => simp
  | cons first rest ih =>
      rw [List.foldl_cons, ih]
      by_cases later : other ∈ rest
      · simp [later]
      · by_cases here : other = first
        · rw [here, lookup_remove_self]
          simp
        · rw [lookup_remove_ne here]
          simp [later, here]

theorem lookup_retain (desired : List String) :
    (state.retain desired).lookup other =
      if other ∈ desired then state.lookup other else none := by
  rw [Listening.retain, lookup_removeAll]
  by_cases wanted : other ∈ desired
  · simp [wanted]
  · rw [if_neg wanted]
    split
    · rfl
    · rename_i absent
      simp only [List.mem_filter, wanted, not_false_eq_true, decide_true,
        and_true] at absent
      exact AList.lookup_eq_none.mpr absent

end Lookup

/-! ## What changes -/

/-- Only listeners under some keys are closed, opened or replaced. -/
structure Touches (key : α → String) (keys : Set String)
    (before after : Listening α) : Prop where
  events : ∃ added, after.events = before.events ++ added ∧
    ∀ event ∈ added, key event.item ∈ keys
  same : ∀ other, other ∉ keys → after.lookup other = before.lookup other

/-- Every listener stands under its own key. -/
def Keyed (key : α → String) (listeners : Dictionary α) : Prop :=
  ∀ name held, listeners.lookup name = some held → key held = name

section Changes

variable {key : α → String} {keys others : Set String}
  {before middle after state : Listening α} {item : α}

theorem Touches.refl : Touches key keys state state where
  events := ⟨[], by simp, by simp⟩
  same _ _ := rfl

theorem Touches.trans (first : Touches key keys before middle)
    (second : Touches key keys middle after) :
    Touches key keys before after := by
  obtain ⟨early, earlier, inEarly⟩ := first.events
  obtain ⟨late, later, inLate⟩ := second.events
  constructor
  · refine ⟨early ++ late, ?_, ?_⟩
    · rw [later, earlier, List.append_assoc]
    · intro event member
      rcases List.mem_append.mp member with inside | inside
      · exact inEarly event inside
      · exact inLate event inside
  · intro other outside
    rw [second.same other outside, first.same other outside]

theorem Touches.mono (touches : Touches key keys before after)
    (more : keys ⊆ others) : Touches key others before after := by
  obtain ⟨added, written, inside⟩ := touches.events
  constructor
  · exact ⟨added, written, fun event member => more (inside event member)⟩
  · intro other outside
    exact touches.same other fun member => outside (more member)

theorem touches_remove (keyed : Keyed key state.listeners) (name : String) :
    Touches key {name} state (state.remove name) := by
  constructor
  · rw [Listening.remove]
    split
    · exact ⟨[], by simp, by simp⟩
    · rename_i held found
      refine ⟨[.closed held], rfl, ?_⟩
      intro event member
      rw [List.mem_singleton.mp member]
      exact keyed name held found
  · intro other different
    exact lookup_remove_ne different

theorem touches_install (item : α) :
    Touches key {key item} state (state.install (key item) item) := by
  constructor
  · refine ⟨[.opened item], rfl, ?_⟩
    intro event member
    rw [List.mem_singleton.mp member]
    rfl
  · intro other different
    exact lookup_install_ne different

theorem keyed_remove (keyed : Keyed key state.listeners) (name : String) :
    Keyed key (state.remove name).listeners := by
  intro other held found
  by_cases same : other = name
  · rw [same] at found
    have absent := @lookup_remove_self _ state name
    rw [Listening.lookup, found] at absent
    cases absent
  · have unchanged := @lookup_remove_ne _ state name other same
    rw [Listening.lookup, Listening.lookup, found] at unchanged
    exact keyed other held unchanged.symm

theorem keyed_install (keyed : Keyed key state.listeners) (item : α) :
    Keyed key (state.install (key item) item).listeners := by
  intro other held found
  by_cases same : other = key item
  · rw [same] at found ⊢
    have standing := @lookup_install_self _ state (key item) item
    rw [Listening.lookup, found] at standing
    rw [Option.some.inj standing]
  · have unchanged := @lookup_install_ne _ state (key item) other item same
    rw [Listening.lookup, Listening.lookup, found] at unchanged
    exact keyed other held unchanged.symm

theorem removeAll_spec (keyed : Keyed key state.listeners)
    (names : List String) :
    Touches key {name | name ∈ names} state (state.removeAll names) ∧
      Keyed key (state.removeAll names).listeners := by
  rw [Listening.removeAll]
  induction names generalizing state with
  | nil => exact ⟨.refl, keyed⟩
  | cons name rest ih =>
      have later := ih (keyed_remove keyed name)
      have first := touches_remove keyed name
      refine ⟨?_, later.2⟩
      refine (first.mono ?_).trans (later.1.mono ?_)
      · intro other member
        have here : other = name := member
        rw [here]
        exact List.mem_cons_self
      · intro other member
        exact List.mem_cons_of_mem _ member

theorem touches_retain (keyed : Keyed key state.listeners)
    (desired : List String) :
    Touches key {name | name ∉ desired} state (state.retain desired) := by
  refine (removeAll_spec keyed _).1.mono ?_
  intro name member
  have outside := (List.mem_filter.mp member).2
  have undesired : name ∉ desired := by simpa using outside
  exact undesired

theorem keyed_retain (keyed : Keyed key state.listeners)
    (desired : List String) : Keyed key (state.retain desired).listeners :=
  (removeAll_spec keyed _).2

end Changes

/-! ## Settled items -/

section Settle

variable {key : α → String} {same : α → α → Bool} {opens : α → Option ε}
  {state : Listening α} {item : α}

theorem settle_of_kept (kept : Kept key same state.listeners item) :
    settle key same opens item state = (none, state) :=
  if_pos kept

theorem settle_of_opened (changed : ¬ Kept key same state.listeners item)
    (opened : opens item = none) :
    settle key same opens item state =
      (none, (state.remove (key item)).install (key item) item) := by
  rw [settle, if_neg changed, opened]

theorem settle_of_failed (changed : ¬ Kept key same state.listeners item)
    {failure : ε} (failed : opens item = some failure) :
    settle key same opens item state =
      (some failure, state.remove (key item)) := by
  rw [settle, if_neg changed, failed]

theorem settle_spec (keyed : Keyed key state.listeners) :
    Touches key
        {name | name = key item ∧ ¬ Kept key same state.listeners item} state
        (settle key same opens item state).2 ∧
      Keyed key (settle key same opens item state).2.listeners := by
  by_cases kept : Kept key same state.listeners item
  · rw [settle_of_kept kept]
    exact ⟨.refl, keyed⟩
  · have removed : Touches key
        {name | name = key item ∧ ¬ Kept key same state.listeners item} state
        (state.remove (key item)) := by
      refine (touches_remove keyed (key item)).mono ?_
      intro name member
      exact ⟨member, kept⟩
    have keyedThen := keyed_remove keyed (key item)
    cases opened : opens item with
    | some failure =>
        rw [settle_of_failed kept opened]
        exact ⟨removed, keyedThen⟩
    | none =>
        rw [settle_of_opened kept opened]
        refine ⟨removed.trans ((touches_install item).mono ?_),
          keyed_install keyedThen item⟩
        intro name member
        exact ⟨member, kept⟩

theorem kept_congr {before after : Dictionary α}
    (unchanged : after.lookup (key item) = before.lookup (key item)) :
    Kept key same after item ↔ Kept key same before item := by
  rw [Kept, Kept, unchanged]

end Settle

end OpenListeners
