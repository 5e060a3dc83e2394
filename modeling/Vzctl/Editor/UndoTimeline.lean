import Vzctl.Editor.EditorStore
import Vzctl.Lib.Timeline
import Vzctl.Lib.Transition

/-!
# Undo and redo

The store represents a timeline of snapshots: a successful mutation records
the next one, undo and redo go back and forward, and what fails changes
nothing.  Only an auto layout moves the present without a record.
-/

namespace Vzctl

namespace Editor

namespace EditorStore

variable {ε ι : Type} {services : Services ε ι} {state : EditorStore ε ι}
  {timeline : Timeline (EditorSnapshot ε)}

/-- What undo and redo have to restore. -/
def content (state : EditorStore ε ι) : Option ε × DiagramState × List ι :=
  (state.env, state.diagram, state.validation)

/-! ## The timeline of a store -/

structure Represents (services : Services ε ι) (state : EditorStore ε ι)
    (timeline : Timeline (EditorSnapshot ε)) : Prop where
  env : state.env = some timeline.present.env
  diagram : state.diagram = timeline.present.diagram
  past : state.past = timeline.past.reverse
  future : state.future = timeline.future
  validation : state.validation =
    services.revalidate timeline.present.env

theorem represents_load (path : String) (env : ε) (diagram : DiagramState) :
    Represents services (load services path env diagram)
      ⟨[], ⟨env, (load services path env diagram).diagram⟩, []⟩ :=
  ⟨rfl, rfl, rfl, rfl, rfl⟩

namespace Represents

theorem content_eq (represents : Represents services state timeline) :
    state.content = (some timeline.present.env, timeline.present.diagram,
      services.revalidate timeline.present.env) := by
  rw [content, represents.env, represents.diagram, represents.validation]

theorem content_congr {other : EditorStore ε ι}
    {otherTimeline : Timeline (EditorSnapshot ε)}
    (represents : Represents services state timeline)
    (otherRepresents : Represents services other otherTimeline)
    (same : otherTimeline.present = timeline.present) :
    other.content = state.content := by
  rw [represents.content_eq, otherRepresents.content_eq, same]

theorem lastItems_reverse {α : Type} (count : Nat) (items : List α)
    (item : α) :
    lastItems count (items.reverse ++ [item]) =
      ((item :: items).take count).reverse := by
  rw [← List.reverse_cons, lastItems, List.reverse_take,
    List.length_reverse]

theorem applyMutation_ok (represents : Represents services state timeline)
    {mutation : Mutation ε} {next : EditorSnapshot ε}
    (succeeded : mutation timeline.present = .ok next) :
    Represents services (applyMutation services mutation state)
      (timeline.record historyLimit next) := by
  have here : (⟨timeline.present.env, state.diagram⟩ : EditorSnapshot ε) =
      timeline.present := by
    rw [represents.diagram]
  rw [applyMutation, represents.env]
  dsimp only
  rw [here, succeeded]
  refine ⟨rfl, rfl, ?_, rfl, rfl⟩
  rw [represents.past, lastItems_reverse]
  rfl

theorem applyMutation_error (represents : Represents services state timeline)
    {mutation : Mutation ε} {message : String}
    (failed : mutation timeline.present = .error message) :
    applyMutation services mutation state =
      { state with ui := { state.ui with lastError := some message } } := by
  have here : (⟨timeline.present.env, state.diagram⟩ : EditorSnapshot ε) =
      timeline.present := by
    rw [represents.diagram]
  rw [applyMutation, represents.env]
  dsimp only
  rw [here, failed]

theorem undo (represents : Represents services state timeline) :
    Represents services (EditorStore.undo services state) timeline.back := by
  obtain ⟨past, present, future⟩ := timeline
  have ofPast := represents.past
  rw [EditorStore.undo, represents.env]
  cases past with
  | nil =>
      rw [ofPast]
      exact represents
  | cons previous earlier =>
      rw [ofPast, List.reverse_cons, List.getLast?_concat,
        List.dropLast_concat]
      refine ⟨rfl, rfl, rfl, ?_, rfl⟩
      rw [represents.diagram, represents.future]
      rfl

theorem redo (represents : Represents services state timeline) :
    Represents services (EditorStore.redo services state)
      timeline.forward := by
  obtain ⟨past, present, future⟩ := timeline
  have ofFuture := represents.future
  rw [EditorStore.redo, represents.env]
  cases future with
  | nil =>
      rw [ofFuture]
      exact represents
  | cons next later =>
      rw [ofFuture]
      refine ⟨rfl, rfl, ?_, rfl, rfl⟩
      rw [represents.past, represents.diagram]
      exact (List.reverse_cons ..).symm

theorem iterate_undo (represents : Represents services state timeline)
    (count : Nat) :
    Represents services ((EditorStore.undo services)^[count] state)
      (Timeline.back^[count] timeline) := by
  induction count generalizing state timeline with
  | zero => exact represents
  | succ count ih => exact ih represents.undo

theorem iterate_redo (represents : Represents services state timeline)
    (count : Nat) :
    Represents services ((EditorStore.redo services)^[count] state)
      (Timeline.forward^[count] timeline) := by
  induction count generalizing state timeline with
  | zero => exact represents
  | succ count ih => exact ih represents.redo

end Represents

/-! ## Several mutations -/

/-- The snapshots that successive mutations lead to. -/
def outcomes : List (Mutation ε) → EditorSnapshot ε →
    List (EditorSnapshot ε)
  | [], _ => []
  | mutation :: rest, snap =>
      match mutation snap with
      | .ok next => next :: outcomes rest next
      | .error _ => outcomes rest snap

theorem Represents.setUi (represents : Represents services state timeline)
    (ui : EditorUiState) :
    Represents services { state with ui := ui } timeline :=
  ⟨represents.env, represents.diagram, represents.past, represents.future,
    represents.validation⟩

theorem Represents.select (represents : Represents services state timeline)
    (selection : SelectionState) :
    Represents services { state with selection := selection } timeline :=
  ⟨represents.env, represents.diagram, represents.past, represents.future,
    represents.validation⟩

theorem Represents.applyMutations {mutations : List (Mutation ε)}
    (represents : Represents services state timeline) :
    Represents services (applyMutations services mutations state)
      (timeline.recordAll historyLimit
        (outcomes mutations timeline.present)) := by
  induction mutations generalizing state timeline with
  | nil => exact represents
  | cons mutation rest ih =>
      rw [EditorStore.applyMutations, List.foldl_cons,
        ← EditorStore.applyMutations, outcomes]
      cases outcome : mutation timeline.present with
      | ok next =>
          exact ih (represents.applyMutation_ok outcome)
      | error message =>
          rw [represents.applyMutation_error outcome]
          exact ih (represents.setUi _)

/-! ## Edits -/

/-- An auto layout leaves the diagram as it is. -/
def Unmoved (services : Services ε ι) (state : EditorStore ε ι) :
    Edit ε → Prop
  | .autoLayout => (autoLayout services state).diagram = state.diagram
  | _ => True

/-- How many edits an action puts on the stack. -/
def recorded (services : Services ε ι) (state : EditorStore ε ι) :
    Edit ε → Nat
  | .mutate mutation =>
      match state.env with
      | none => 0
      | some env => (outcomes [mutation] ⟨env, state.diagram⟩).length
  | .deleteSelection =>
      match state.env with
      | none => 0
      | some env =>
          (outcomes (deletions services state.selection)
            ⟨env, state.diagram⟩).length
  | .redo => if state.future = [] then 0 else 1
  | _ => 0

theorem Represents.autoLayout
    (represents : Represents services state timeline)
    (unmoved : Unmoved services state .autoLayout) :
    Represents services (autoLayout services state) timeline := by
  have diagram : (EditorStore.autoLayout services state).diagram =
      timeline.present.diagram := unmoved.trans represents.diagram
  rw [EditorStore.autoLayout, represents.env] at diagram ⊢
  exact ⟨represents.env, diagram, represents.past, represents.future,
    represents.validation⟩

theorem Represents.edit (represents : Represents services state timeline)
    {action : Edit ε} (unmoved : Unmoved services state action) :
    ∃ next, Represents services (edit services state action) next := by
  cases action with
  | mutate mutation =>
      have mutated : Represents services
          (EditorStore.applyMutations services [mutation] state) _ :=
        represents.applyMutations
      exact ⟨_, mutated⟩
  | deleteSelection => exact ⟨_, represents.applyMutations.select _⟩
  | autoLayout => exact ⟨_, represents.autoLayout unmoved⟩
  | undo => exact ⟨_, represents.undo⟩
  | redo => exact ⟨_, represents.redo⟩
  | setSelection selection => exact ⟨_, represents.select selection⟩

/-! ## Undoing -/

theorem Represents.undo_edit (represents : Represents services state timeline)
    {action : Edit ε} (unmoved : Unmoved services state action)
    (notUndo : action ≠ .undo)
    (fits : state.past.length + recorded services state action ≤
      historyLimit) :
    ((EditorStore.undo services)^[recorded services state action]
      (EditorStore.edit services state action)).content =
        state.content := by
  have length : state.past.length = timeline.past.length := by
    rw [represents.past, List.length_reverse]
  have here : (⟨timeline.present.env, state.diagram⟩ : EditorSnapshot ε) =
      timeline.present := by
    rw [represents.diagram]
  rw [length] at fits
  cases action with
  | mutate mutation =>
      simp only [recorded, represents.env, here] at fits ⊢
      have mutated : Represents services
          (EditorStore.applyMutations services [mutation] state) _ :=
        represents.applyMutations
      exact represents.content_congr (mutated.iterate_undo _)
        (Timeline.back_recordAll fits).2
  | deleteSelection =>
      simp only [recorded, represents.env, here] at fits ⊢
      exact represents.content_congr
        ((represents.applyMutations.select _).iterate_undo _)
        (Timeline.back_recordAll fits).2
  | autoLayout =>
      exact represents.content_congr (represents.autoLayout unmoved) rfl
  | undo => exact (notUndo rfl).elim
  | redo =>
      simp only [recorded]
      split
      · rename_i nothing
        rw [Function.iterate_zero, id, EditorStore.edit, EditorStore.redo,
          nothing]
      · rename_i something
        refine represents.content_congr represents.redo.undo ?_
        rw [represents.future] at something
        rw [Timeline.back_forward something]
  | setSelection selection => rfl

/-- What undo and redo do at a state. -/
structure Undoable (services : Services ε ι) (state : EditorStore ε ι) :
    Prop where
  failed : ∀ env, state.env = some env → ∀ (mutation : Mutation ε) message,
    mutation ⟨env, state.diagram⟩ = .error message →
    let after := applyMutation services mutation state
    after.content = state.content ∧ after.past = state.past ∧
      after.future = state.future ∧ after.ui.dirty = state.ui.dirty
  undone : ∀ env, state.env = some env → ∀ (mutation : Mutation ε) next,
    mutation ⟨env, state.diagram⟩ = .ok next →
    let after := applyMutation services mutation state
    (undo services after).content = state.content ∧
      (redo services (undo services after)).content = after.content ∧
      after.past =
        lastItems historyLimit (state.past ++ [⟨env, state.diagram⟩])
  walked : ∀ count ≤ state.past.length,
    ((redo services)^[count] ((undo services)^[count] state)).content =
      state.content
  taken : ∀ action : Edit ε, action ≠ .undo →
    Unmoved services state action →
    state.past.length + recorded services state action ≤ historyLimit →
    ((undo services)^[recorded services state action]
      (edit services state action)).content = state.content

theorem Represents.undoable (represents : Represents services state timeline) :
    Undoable services state where
  failed := by
    intro env loaded mutation message fails
    rw [represents.env] at loaded
    obtain rfl := Option.some.inj loaded
    rw [represents.diagram] at fails
    rw [represents.applyMutation_error fails]
    exact ⟨rfl, rfl, rfl, rfl⟩
  undone := by
    intro env loaded mutation next succeeds
    rw [represents.env] at loaded
    obtain rfl := Option.some.inj loaded
    rw [represents.diagram] at succeeds
    have mutated := represents.applyMutation_ok succeeds
    have room : 0 < historyLimit := by decide
    refine ⟨represents.content_congr mutated.undo ?_,
      mutated.content_congr mutated.undo.redo ?_, ?_⟩
    · rw [Timeline.back_record next room]
    · rw [Timeline.forward_back_record next room]
    · rw [mutated.past, represents.past, represents.diagram,
        lastItems_reverse]
      rfl
  walked := by
    intro count reachable
    rw [represents.past, List.length_reverse] at reachable
    refine represents.content_congr
      ((represents.iterate_undo count).iterate_redo count) ?_
    rw [Timeline.forward_back_iterate reachable]
  taken := fun _ notUndo unmoved fits =>
    represents.undo_edit unmoved notUndo fits

/-! ## All runs -/

/-- The stores that edits lead to after a load. -/
def EditedFrom (services : Services ε ι) (start : EditorStore ε ι) :
    EditorStore ε ι → Prop :=
  Transitions.Runs
    (Transitions.guarded (Unmoved services)
      (Transitions.ofFunction (edit services))) start

/-- After every sequence of edits in which no auto layout moves anything, undo
and redo are inverse and whatever an edit does can be undone. -/
theorem undoable_of_runs (path : String) (env : ε) (diagram : DiagramState)
    (edited : EditedFrom services (load services path env diagram) state) :
    Undoable services state := by
  have represented : ∃ timeline, Represents services state timeline := by
    refine Transitions.invariant_of_runs
      (fun state => ∃ timeline, Represents services state timeline) ?_
      ⟨_, represents_load path env diagram⟩ edited
    rintro before action after ⟨timeline, represents⟩ ⟨unmoved, rfl⟩
    exact represents.edit unmoved
  obtain ⟨timeline, represents⟩ := represented
  exact represents.undoable

/-! ## Samples -/

/-- A stack whose network was placed by hand, and moved again. -/
def sampleStore : EditorStore String String :=
  let loaded := load sampleServices "/lab" "lan"
    { emptyDiagramState with
      nodes := [("net:lan", ⟨1200, 800, some 600, some 500, none⟩)] }
  edit sampleServices loaded (.mutate (applyMoveNode "net:lan" 10 20))

theorem undoable_sampleStore : Undoable sampleServices sampleStore := by
  have moved : Transitions.guarded (Unmoved sampleServices)
      (Transitions.ofFunction (edit sampleServices))
      (load sampleServices "/lab" "lan"
        { emptyDiagramState with
          nodes := [("net:lan", ⟨1200, 800, some 600, some 500, none⟩)] })
      (.mutate (applyMoveNode "net:lan" 10 20)) sampleStore :=
    ⟨trivial, rfl⟩
  exact undoable_of_runs "/lab" "lan" _
    ((Transitions.Runs.refl _).snoc moved)

/-- The move and the layout after it are undone together. -/
theorem autoLayout_not_undone :
    let laidOut := edit sampleServices sampleStore .autoLayout
    laidOut.diagram ≠ sampleStore.diagram ∧
      (undo sampleServices laidOut).diagram ≠ sampleStore.diagram := by
  decide

end EditorStore

end Editor

end Vzctl
