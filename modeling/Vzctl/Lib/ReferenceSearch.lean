import Mathlib.Data.List.Basic
import Mathlib.Logic.Relation
import Vzctl.Lib.Transition

/-!
# Searching references

A search works on an agenda of tasks: a path is only recorded, or it is also
expanded into the tasks that its content asks for.  One set of paths is both
the result and the mark of what has been expanded, so a path that was only
recorded is not expanded any more when it is met again.  `mem_paths_iff` says
that a search records exactly what can be reached without these paths.
-/

namespace ReferenceSearch

open Transitions

universe u v

inductive Request (π : Type u) where
  | record (path : π)
  | expand (path : π)
  deriving DecidableEq

/-- `references` is `none` for a path without readable content. -/
structure Graph (π : Type u) where
  resolve : π → π
  references : π → Option (List (Request π))

variable {π : Type u} (graph : Graph π)

/-! ## What can be reached -/

/-- The tasks that follow from the given ones. -/
inductive Reached (tasks : List (Request π)) : Request π → Prop where
  | given {task : Request π} (member : task ∈ tasks) : Reached tasks task
  | follow {path : π} {found : List (Request π)} {task : Request π}
      (source : Reached tasks (.expand path))
      (read : graph.references (graph.resolve path) = some found)
      (member : task ∈ found) : Reached tasks task

/-- The path of a task, as it is recorded. -/
def Request.target (task : Request π) : π :=
  match task with
  | record path => path
  | expand path => graph.resolve path

/-- The least closure of the given tasks. -/
def Closure (tasks : List (Request π)) (path : π) : Prop :=
  ∃ task, Reached graph tasks task ∧ task.target graph = path

theorem Closure.of_same {graph other : Graph π} {tasks others : List (Request π)}
    (sameResolve : graph.resolve = other.resolve)
    (sameTasks : ∀ task, task ∈ tasks → task ∈ others)
    (sameReferences : ∀ path found, graph.references path = some found →
      ∃ again, other.references path = some again ∧
        ∀ task, task ∈ found → task ∈ again)
    {path : π} (closed : Closure graph tasks path) :
    Closure other others path := by
  obtain ⟨task, reached, isTarget⟩ := closed
  refine ⟨task, ?_, ?_⟩
  · clear isTarget
    induction reached with
    | given member => exact .given (sameTasks _ member)
    | follow source read member ih =>
        rw [sameResolve] at read
        obtain ⟨again, readAgain, same⟩ := sameReferences _ _ read
        exact .follow ih readAgain (same _ member)
  · rw [← isTarget]
    cases task with
    | record path => rfl
    | expand path => exact congrFun sameResolve.symm path

/-- Some path that has to be expanded cannot be read. -/
def Unreadable (tasks : List (Request π)) : Prop :=
  ∃ path, Reached graph tasks (.expand path) ∧
    graph.references (graph.resolve path) = none

open Classical in
/-- The same paths, of which some refer to nothing. -/
noncomputable def Graph.without (skipped : π → Prop) : Graph π where
  resolve := graph.resolve
  references path := if skipped path then some [] else graph.references path

section Without

variable {graph} {skipped : π → Prop}

@[simp]
theorem resolve_without (path : π) :
    (graph.without skipped).resolve path = graph.resolve path := rfl

theorem without_of_skipped {path : π} (isSkipped : skipped path) :
    (graph.without skipped).references path = some [] :=
  if_pos isSkipped

theorem without_of_not_skipped {path : π} (notSkipped : ¬ skipped path) :
    (graph.without skipped).references path = graph.references path :=
  if_neg notSkipped

theorem Reached.of_without {tasks : List (Request π)} {task : Request π}
    (reached : Reached (graph.without skipped) tasks task) :
    Reached graph tasks task := by
  induction reached with
  | given member => exact .given member
  | @follow path found task source read member ih =>
      by_cases isSkipped : skipped (graph.resolve path)
      · rw [resolve_without, without_of_skipped isSkipped] at read
        cases read
        cases member
      · rw [resolve_without, without_of_not_skipped isSkipped] at read
        exact .follow ih read member

theorem target_without (task : Request π) :
    task.target (graph.without skipped) = task.target graph := by
  cases task with
  | record path => rfl
  | expand path => rfl

theorem Closure.of_without {tasks : List (Request π)} {path : π}
    (closed : Closure (graph.without skipped) tasks path) :
    Closure graph tasks path := by
  obtain ⟨task, reached, isTarget⟩ := closed
  exact ⟨task, reached.of_without, by rwa [target_without] at isTarget⟩

theorem Unreadable.of_without {tasks : List (Request π)}
    (unreadable : Unreadable (graph.without skipped) tasks) :
    Unreadable graph tasks := by
  obtain ⟨path, reached, missing⟩ := unreadable
  refine ⟨path, reached.of_without, ?_⟩
  by_cases isSkipped : skipped (graph.resolve path)
  · rw [resolve_without, without_of_skipped isSkipped] at missing
    cases missing
  · rwa [resolve_without, without_of_not_skipped isSkipped] at missing

end Without

/-! ## The search -/

/-- `expanded` remembers which paths were expanded; the search does not look
at it. -/
structure State (π : Type u) where
  agenda : List (Request π)
  paths : List π
  expanded : List π

def start (tasks : List (Request π)) : State π := ⟨tasks, [], []⟩

variable [DecidableEq π]

/-- One task is done. -/
inductive Step : State π → Unit → State π → Prop where
  | record (path : π) (rest : List (Request π)) (paths expanded : List π) :
      Step ⟨.record path :: rest, paths, expanded⟩ ()
        ⟨rest, paths.insert path, expanded⟩
  | skip (path : π) (rest : List (Request π)) (paths expanded : List π)
      (present : graph.resolve path ∈ paths) :
      Step ⟨.expand path :: rest, paths, expanded⟩ ()
        ⟨rest, paths, expanded⟩
  | expand (path : π) (rest found : List (Request π))
      (paths expanded : List π) (isNew : graph.resolve path ∉ paths)
      (read : graph.references (graph.resolve path) = some found) :
      Step ⟨.expand path :: rest, paths, expanded⟩ ()
        ⟨found ++ rest, paths.insert (graph.resolve path),
          graph.resolve path :: expanded⟩

/-- The state is about to skip a path that was recorded but not expanded. -/
def Skips (state : State π) (path : π) : Prop :=
  ∃ other rest, state.agenda = .expand other :: rest ∧
    graph.resolve other = path ∧ path ∈ state.paths ∧ path ∉ state.expanded

/-- The paths that the search skips without having expanded them. -/
def Skipped (tasks : List (Request π)) (path : π) : Prop :=
  ∃ state, Runs (Step graph) (start tasks) state ∧ Skips graph state path

variable {graph} {tasks : List (Request π)} {state : State π}

/-! ## Runs -/

theorem step_rightUnique :
    Relator.RightUnique (Moves (Step graph)) := by
  intro state left right leftMove rightMove
  obtain ⟨_, leftStep⟩ := leftMove
  obtain ⟨_, rightStep⟩ := rightMove
  cases leftStep with
  | record path rest paths expanded => cases rightStep; rfl
  | skip path rest paths expanded present =>
      cases rightStep with
      | skip => rfl
      | expand _ _ found _ _ isNew read => exact absurd present isNew
  | expand path rest found paths expanded isNew read =>
      cases rightStep with
      | skip _ _ _ _ present => exact absurd present isNew
      | expand _ _ other _ _ _ readAgain =>
          rw [read] at readAgain
          cases readAgain
          rfl

/-- Nothing is forgotten. -/
structure Extends (before after : State π) : Prop where
  paths : ∀ path ∈ before.paths, path ∈ after.paths
  expanded : ∀ path ∈ before.expanded, path ∈ after.expanded

omit [DecidableEq π] in
theorem Extends.refl (state : State π) : Extends state state :=
  ⟨fun _ member => member, fun _ member => member⟩

omit [DecidableEq π] in
theorem Extends.trans {first second third : State π}
    (left : Extends first second) (right : Extends second third) :
    Extends first third where
  paths path member := right.paths path (left.paths path member)
  expanded path member := right.expanded path (left.expanded path member)

theorem Step.extends {before after : State π} {label : Unit}
    (performed : Step graph before label after) : Extends before after := by
  cases performed with
  | record path rest paths expanded =>
      exact ⟨fun _ member => List.mem_insert_of_mem member,
        fun _ member => member⟩
  | skip path rest paths expanded present =>
      exact ⟨fun _ member => member, fun _ member => member⟩
  | expand path rest found paths expanded isNew read =>
      exact ⟨fun _ member => List.mem_insert_of_mem member,
        fun _ member => List.mem_cons_of_mem _ member⟩

theorem extends_of_runs {before after : State π}
    (run : Runs (Step graph) before after) : Extends before after := by
  induction run with
  | refl => exact .refl _
  | tail _ move ih =>
      obtain ⟨label, performed⟩ := move
      exact ih.trans performed.extends

/-- A path that is still new is never skipped: neither before, when it was not
recorded, nor later, when it will have been expanded. -/
theorem not_skipped_of_new {path : π} {rest : List (Request π)}
    (run : Runs (Step graph) (start tasks) state)
    (next : state.agenda = .expand path :: rest)
    (isNew : graph.resolve path ∉ state.paths) :
    ¬ Skipped graph tasks (graph.resolve path) := by
  intro skipped
  obtain ⟨other, otherRun, _, _, _, _, present, notExpanded⟩ := skipped
  rcases Relation.ReflTransGen.total_of_right_unique step_rightUnique
    otherRun run with before | later
  · exact isNew ((extends_of_runs before).paths _ present)
  · cases Relation.ReflTransGen.cases_head later with
    | inl same => exact isNew (same ▸ present)
    | inr first =>
        obtain ⟨middle, move, remaining⟩ := first
        obtain ⟨label, performed⟩ := move
        obtain ⟨agenda, paths, expanded⟩ := state
        cases next
        cases performed with
        | skip _ _ _ _ inside => exact isNew inside
        | expand _ _ found _ _ _ read =>
            exact notExpanded <| (extends_of_runs remaining).expanded _
              List.mem_cons_self

/-! ## Nothing else is recorded -/

/-- The agenda and the recorded paths come from the given tasks, without what
the skipped paths refer to. -/
structure Sound (graph : Graph π) (tasks : List (Request π))
    (state : State π) : Prop where
  agenda : ∀ task ∈ state.agenda,
    Reached (graph.without (Skipped graph tasks)) tasks task
  paths : ∀ path ∈ state.paths,
    Closure (graph.without (Skipped graph tasks)) tasks path

theorem closure_insert {within : Graph π} {task : Request π} {paths : List π}
    (reached : Reached within tasks task)
    (closed : ∀ path ∈ paths, Closure within tasks path) :
    ∀ path ∈ paths.insert (task.target within),
      Closure within tasks path := by
  intro path member
  cases List.mem_insert_iff.mp member with
  | inl isTarget => exact ⟨task, reached, isTarget.symm⟩
  | inr old => exact closed path old

theorem Sound.step {after : State π}
    (run : Runs (Step graph) (start tasks) state)
    (sound : Sound graph tasks state) {label : Unit}
    (performed : Step graph state label after) :
    Sound graph tasks after := by
  cases performed with
  | record path rest paths expanded =>
      have reached := sound.agenda _ List.mem_cons_self
      exact ⟨fun task member =>
        sound.agenda task (List.mem_cons_of_mem _ member),
          closure_insert reached sound.paths⟩
  | skip path rest paths expanded present =>
      exact ⟨fun task member =>
        sound.agenda task (List.mem_cons_of_mem _ member), sound.paths⟩
  | expand path rest found paths expanded isNew read =>
      have reached := sound.agenda _ List.mem_cons_self
      refine ⟨?_, closure_insert reached sound.paths⟩
      intro task member
      rcases List.mem_append.mp member with isFound | isRest
      · have notSkipped := not_skipped_of_new run rfl isNew
        refine .follow reached ?_ isFound
        exact (without_of_not_skipped notSkipped).trans read
      · exact sound.agenda task (List.mem_cons_of_mem _ isRest)

/-! ## Nothing is missed -/

/-- The task has nothing left to do. -/
def Done (graph : Graph π) (tasks : List (Request π)) (state : State π) :
    Request π → Prop
  | .record path => path ∈ state.paths
  | .expand path => graph.resolve path ∈ state.paths ∧
      (graph.resolve path ∈ state.expanded ∨
        Skipped graph tasks (graph.resolve path))

/-- The task is done or still on the agenda. -/
def Kept (graph : Graph π) (tasks : List (Request π)) (state : State π)
    (task : Request π) : Prop :=
  Done graph tasks state task ∨ task ∈ state.agenda

/-- No task is lost: neither a given one nor one of an expanded path. -/
structure Complete (graph : Graph π) (tasks : List (Request π))
    (state : State π) : Prop where
  given : ∀ task ∈ tasks, Kept graph tasks state task
  expanded : ∀ path ∈ state.expanded, ∃ found,
    graph.references path = some found ∧
      ∀ task ∈ found, Kept graph tasks state task

theorem Kept.step {after : State π} {first task : Request π}
    {rest : List (Request π)} (kept : Kept graph tasks state task)
    (agenda : state.agenda = first :: rest)
    (finished : Done graph tasks after first)
    (grows : Extends state after)
    (others : ∀ other ∈ rest, other ∈ after.agenda) :
    Kept graph tasks after task := by
  rcases kept with done | waiting
  · left
    cases task with
    | record path => exact grows.paths path done
    | expand path =>
        exact ⟨grows.paths _ done.1, done.2.imp_left (grows.expanded _)⟩
  · rw [agenda] at waiting
    cases List.mem_cons.mp waiting with
    | inl isFirst =>
        left
        rwa [isFirst]
    | inr later => exact .inr (others task later)

theorem Complete.mono {after : State π}
    (complete : Complete graph tasks state)
    (keeps : ∀ {task}, Kept graph tasks state task →
      Kept graph tasks after task)
    (expansions : ∀ path ∈ after.expanded, path ∈ state.expanded ∨
      ∃ found, graph.references path = some found ∧
        ∀ task ∈ found, Kept graph tasks after task) :
    Complete graph tasks after where
  given task member := keeps (complete.given task member)
  expanded path member := by
    rcases expansions path member with old | isNew
    · obtain ⟨found, read, all⟩ := complete.expanded path old
      exact ⟨found, read, fun task inside => keeps (all task inside)⟩
    · exact isNew

theorem Complete.step {after : State π}
    (run : Runs (Step graph) (start tasks) state)
    (complete : Complete graph tasks state) {label : Unit}
    (performed : Step graph state label after) :
    Complete graph tasks after := by
  have grows := performed.extends
  cases performed with
  | record path rest paths expanded =>
      refine complete.mono (fun kept => kept.step rfl ?_ grows ?_) ?_
      · exact List.mem_insert_self
      · exact fun _ member => member
      · exact fun _ member => .inl member
  | skip path rest paths expanded present =>
      refine complete.mono (fun kept => kept.step rfl ?_ grows ?_) ?_
      · refine ⟨present, ?_⟩
        by_cases isExpanded : graph.resolve path ∈ expanded
        · exact .inl isExpanded
        · exact .inr ⟨_, run, path, rest, rfl, rfl, present, isExpanded⟩
      · exact fun _ member => member
      · exact fun _ member => .inl member
  | expand path rest found paths expanded isNew read =>
      refine complete.mono (fun kept => kept.step rfl ?_ grows ?_) ?_
      · exact ⟨List.mem_insert_self, .inl List.mem_cons_self⟩
      · exact fun _ member => List.mem_append_right _ member
      · intro other member
        cases List.mem_cons.mp member with
        | inl isPath =>
            rw [isPath]
            exact .inr ⟨found, read, fun task inside =>
              .inr (List.mem_append_left _ inside)⟩
        | inr old => exact .inl old

/-- At the end every task that can be reached without the skipped paths is
done. -/
theorem Complete.done (complete : Complete graph tasks state)
    (finished : state.agenda = []) {task : Request π}
    (reached :
      Reached (graph.without (Skipped graph tasks)) tasks task) :
    Done graph tasks state task := by
  have done : ∀ {other}, Kept graph tasks state other →
      Done graph tasks state other := by
    intro other kept
    rcases kept with isDone | waiting
    · exact isDone
    · rw [finished] at waiting
      cases waiting
  induction reached with
  | given member => exact done (complete.given _ member)
  | @follow path found task source read member ih =>
      by_cases isSkipped : Skipped graph tasks (graph.resolve path)
      · rw [resolve_without, without_of_skipped isSkipped] at read
        cases read
        cases member
      · rw [resolve_without, without_of_not_skipped isSkipped] at read
        have isExpanded := ih.2.resolve_right isSkipped
        obtain ⟨others, readBefore, all⟩ := complete.expanded _ isExpanded
        rw [read] at readBefore
        rw [← Option.some.inj readBefore] at all
        exact done (all _ member)

/-! ## The end of a search -/

theorem invariant_of_start
    (run : Runs (Step graph) (start tasks) state) :
    Sound graph tasks state ∧ Complete graph tasks state := by
  induction run with
  | refl =>
      exact ⟨⟨fun task member => .given member, by simp [start]⟩,
        fun task member => .inr member, by simp [start]⟩
  | tail before move ih =>
      obtain ⟨label, performed⟩ := move
      exact ⟨ih.1.step before performed,
        ih.2.step before performed⟩

theorem mem_paths_iff (run : Runs (Step graph) (start tasks) state)
    (finished : state.agenda = []) (path : π) :
    path ∈ state.paths ↔
      Closure (graph.without (Skipped graph tasks)) tasks path := by
  obtain ⟨sound, complete⟩ := invariant_of_start run
  constructor
  · exact sound.paths path
  · intro closed
    obtain ⟨task, reached, isTarget⟩ := closed
    have done := complete.done finished reached
    rw [target_without] at isTarget
    cases task with
    | record other => exact isTarget ▸ done
    | expand other => exact isTarget ▸ done.1

theorem readable_of_finished
    (run : Runs (Step graph) (start tasks) state)
    (finished : state.agenda = []) :
    ¬ Unreadable (graph.without (Skipped graph tasks)) tasks := by
  intro unreadable
  obtain ⟨path, reached, missing⟩ := unreadable
  obtain ⟨_, complete⟩ := invariant_of_start run
  by_cases isSkipped : Skipped graph tasks (graph.resolve path)
  · rw [resolve_without, without_of_skipped isSkipped] at missing
    cases missing
  · have done := complete.done finished reached
    obtain ⟨found, read, _⟩ :=
      complete.expanded _ (done.2.resolve_right isSkipped)
    rw [resolve_without, without_of_not_skipped isSkipped, read] at missing
    cases missing

theorem unreadable_of_stuck {path : π} {rest : List (Request π)}
    (run : Runs (Step graph) (start tasks) state)
    (next : state.agenda = .expand path :: rest)
    (isNew : graph.resolve path ∉ state.paths)
    (missing : graph.references (graph.resolve path) = none) :
    Unreadable (graph.without (Skipped graph tasks)) tasks := by
  have notSkipped := not_skipped_of_new run next isNew
  refine ⟨path, (invariant_of_start run).1.agenda _ ?_, ?_⟩
  · rw [next]
    exact List.mem_cons_self
  · exact (without_of_not_skipped notSkipped).trans missing

end ReferenceSearch
