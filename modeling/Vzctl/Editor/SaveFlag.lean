import Vzctl.Editor.EditorStore
import Vzctl.Lib.Transition

/-!
# Saving

`onSave` reads the store, writes the configuration and the diagram of its
project, and then marks the store as saved.  In between come edits, loads,
other saves and failures.  A store that is not dirty holds what was last
loaded from or written to its project, as long as a save still finds what it
has read.
-/

namespace Vzctl

namespace Editor

namespace EditorStore

variable {ε ι : Type}

/-! ## Sessions -/

inductive SaveStage where
  | started
  | configWritten
  | written
  deriving DecidableEq

/-- A save in flight.  It is overtaken when its project is loaded or written
again after its own writes. -/
structure Save (ε : Type) where
  path : String
  snapshot : EditorSnapshot ε
  stage : SaveStage
  overtaken : Bool

/-- `synced` is history: what was last loaded from the files of a project, as
`load` completes it, or written to them. -/
structure Session (ε ι : Type) where
  store : EditorStore ε ι
  saves : List (Save ε)
  synced : String → Option (EditorSnapshot ε)

def Session.initial : Session ε ι := ⟨EditorStore.initial, [], fun _ => none⟩

/-- What happens in a session; a save is named by its place among those in
flight.  The page that saves may already be that of another project. -/
inductive Event (ε : Type) where
  | load (path : String) (env : ε) (diagram : DiagramState)
  | reset
  | edit (action : Edit ε)
  | startSave (page : String)
  | configWritten (index : Nat)
  | diagramWritten (index : Nat)
  | saveFailed (index : Nat) (message : String)
  | marked (index : Nat)

namespace Session

variable (services : Services ε ι) (session : Session ε ι)

def sync (path : String) (snapshot : EditorSnapshot ε) : Session ε ι where
  store := session.store
  saves := session.saves.map fun save =>
    if save.path = path then { save with overtaken := true } else save
  synced := Function.update session.synced path (some snapshot)

/-- A save whose stage is as given. -/
def saveAt (stage : SaveStage) (index : Nat) : Option (Save ε) :=
  session.saves[index]?.filter fun save => save.stage = stage

def load (path : String) (env : ε) (diagram : DiagramState) :
    Session ε ι :=
  let loaded := EditorStore.load services path env diagram
  { session.sync path ⟨env, loaded.diagram⟩ with store := loaded }

def startSave (page : String) : Session ε ι :=
  match session.store.env with
  | none => session
  | some env =>
      { session with
        saves := session.saves ++
          [⟨page, ⟨env, session.store.diagram⟩, .started, false⟩] }

def configWritten (index : Nat) : Session ε ι :=
  match session.saveAt .started index with
  | none => session
  | some save =>
      { session with
        saves := session.saves.set index { save with stage := .configWritten } }

def diagramWritten (index : Nat) : Session ε ι :=
  match session.saveAt .configWritten index with
  | none => session
  | some save =>
      let synced := session.sync save.path save.snapshot
      { synced with
        saves := synced.saves.set index
          { save with stage := .written, overtaken := false } }

def saveFailed (index : Nat) (message : String) : Session ε ι :=
  match session.saves[index]? with
  | none => session
  | some save =>
      if save.stage = .written then session
      else
        { session with
          store := session.store.setLastError (some message)
          saves := session.saves.eraseIdx index }

def marked (index : Nat) : Session ε ι :=
  match session.saveAt .written index with
  | none => session
  | some _ =>
      { session with
        store := session.store.markSaved
        saves := session.saves.eraseIdx index }

def step : Event ε → Session ε ι
  | .load path env diagram => session.load services path env diagram
  | .reset => { session with store := EditorStore.initial }
  | .edit action =>
      { session with store := session.store.edit services action }
  | .startSave page => session.startSave page
  | .configWritten index => session.configWritten index
  | .diagramWritten index => session.diagramWritten index
  | .saveFailed index message => session.saveFailed index message
  | .marked index => session.marked index

end Session

/-! ## Truth of the flag -/

/-- The store holds a snapshot of a project. -/
def Holds (store : EditorStore ε ι) (path : String)
    (snapshot : EditorSnapshot ε) : Prop :=
  store.projectPath = some path ∧ store.env = some snapshot.env ∧
    store.diagram = snapshot.diagram

/-- A store that is not dirty holds what was last loaded or written. -/
def Truthful (session : Session ε ι) : Prop :=
  session.store.env.isSome → session.store.ui.dirty = false →
    ∃ path snapshot, session.store.Holds path snapshot ∧
      session.synced path = some snapshot

/-- A save finds its project and its snapshot in the store when it matters:
its writes end while the store shows no other content of the project as
saved, and the store is marked only if it still holds what was written. -/
def FindsItsOwn (session : Session ε ι) : Event ε → Prop
  | .diagramWritten index =>
      ∀ save, session.saveAt .configWritten index = some save →
        session.store.projectPath = some save.path →
        session.store.ui.dirty = false →
        session.store.Holds save.path save.snapshot
  | .marked index =>
      ∀ save, session.saveAt .written index = some save →
        session.store.env.isSome → session.store.ui.dirty = true →
        session.store.Holds save.path save.snapshot ∧
          save.overtaken = false
  | _ => True

/-- Of a save that is written and not overtaken, the snapshot is what was
written last. -/
def Written (session : Session ε ι) : Prop :=
  ∀ save ∈ session.saves, save.stage = .written → save.overtaken = false →
    session.synced save.path = some save.snapshot

/-! ## Edits -/

/-- A store that an action left alone, or made dirty. -/
structure Touched (before after : EditorStore ε ι) : Prop where
  path : after.projectPath = before.projectPath
  dirty : after.ui.dirty = true ∨
    after.env = before.env ∧ after.diagram = before.diagram ∧
      after.ui.dirty = before.ui.dirty

variable {services : Services ε ι} {session : Session ε ι}

theorem Touched.refl (store : EditorStore ε ι) : Touched store store :=
  ⟨rfl, .inr ⟨rfl, rfl, rfl⟩⟩

theorem Touched.trans {first second third : EditorStore ε ι}
    (earlier : Touched first second) (later : Touched second third) :
    Touched first third := by
  refine ⟨later.path.trans earlier.path, ?_⟩
  rcases later.dirty with dirty | ⟨env, diagram, same⟩
  · exact .inl dirty
  · rw [env, diagram, same]
    exact earlier.dirty

theorem touched_applyMutation (mutation : Mutation ε)
    (store : EditorStore ε ι) :
    Touched store (applyMutation services mutation store) := by
  rw [applyMutation]
  split
  · exact Touched.refl store
  · dsimp only
    split
    · exact ⟨rfl, .inl rfl⟩
    · exact ⟨rfl, .inr ⟨rfl, rfl, rfl⟩⟩

theorem touched_edit (action : Edit ε) (store : EditorStore ε ι) :
    Touched store (edit services store action) := by
  cases action with
  | mutate mutation => exact touched_applyMutation mutation store
  | deleteSelection =>
      have folded : Touched store (applyMutations services
          (deletions services store.selection) store) :=
        List.foldlRecOn _ _ (Touched.refl store) fun after touched mutation _ =>
          touched.trans (touched_applyMutation mutation after)
      exact ⟨folded.path, folded.dirty⟩
  | autoLayout =>
      rw [edit, autoLayout]
      split
      · exact Touched.refl store
      · exact ⟨rfl, .inl rfl⟩
  | undo =>
      rw [edit, undo]
      split
      · exact ⟨rfl, .inl rfl⟩
      · exact Touched.refl store
  | redo =>
      rw [edit, redo]
      split
      · exact ⟨rfl, .inl rfl⟩
      · exact Touched.refl store
  | setSelection selection => exact ⟨rfl, .inr ⟨rfl, rfl, rfl⟩⟩

/-! ## One step -/

theorem Holds.congr {before after : EditorStore ε ι} {path : String}
    {snapshot : EditorSnapshot ε} (holds : before.Holds path snapshot)
    (projectPath : after.projectPath = before.projectPath)
    (env : after.env = before.env)
    (diagram : after.diagram = before.diagram) :
    after.Holds path snapshot :=
  ⟨projectPath.trans holds.1, env.trans holds.2.1,
    diagram.trans holds.2.2⟩

theorem Truthful.touched {store : EditorStore ε ι}
    (truthful : Truthful session) (touched : Touched session.store store)
    (saves : List (Save ε)) :
    Truthful ⟨store, saves, session.synced⟩ := by
  intro loaded clean
  rcases touched.dirty with dirty | ⟨env, diagram, same⟩
  · exact nomatch clean.symm.trans dirty
  · obtain ⟨path, snapshot, holds, synced⟩ :=
      truthful (env ▸ loaded) (same ▸ clean)
    exact ⟨path, snapshot, holds.congr touched.path env diagram, synced⟩

theorem truthful_diagramWritten (truthful : Truthful session) {index : Nat}
    (finds : FindsItsOwn session (.diagramWritten index)) :
    Truthful (session.diagramWritten index) := by
  rw [Session.diagramWritten]
  split
  · exact truthful
  · rename_i save found
    intro loaded clean
    by_cases same : session.store.projectPath = some save.path
    · exact ⟨save.path, save.snapshot, finds save found same clean,
        Function.update_self ..⟩
    · obtain ⟨path, snapshot, holds, synced⟩ := truthful loaded clean
      have different : path ≠ save.path := fun equal =>
        same (equal ▸ holds.1)
      exact ⟨path, snapshot, holds,
        (Function.update_of_ne different ..).trans synced⟩

theorem truthful_marked (truthful : Truthful session)
    (written : Written session) {index : Nat}
    (finds : FindsItsOwn session (.marked index)) :
    Truthful (session.marked index) := by
  rw [Session.marked]
  split
  · exact truthful
  · rename_i save found
    intro loaded _
    cases dirty : session.store.ui.dirty with
    | false => exact truthful loaded dirty
    | true =>
        obtain ⟨holds, current⟩ := finds save found loaded dirty
        obtain ⟨inFlight, stage⟩ := Option.filter_eq_some_iff.mp found
        exact ⟨save.path, save.snapshot, holds,
          written save (List.mem_of_getElem? inFlight)
            (of_decide_eq_true stage) current⟩

theorem truthful_step (truthful : Truthful session)
    (written : Written session) {event : Event ε}
    (finds : FindsItsOwn session event) :
    Truthful (session.step services event) := by
  cases event with
  | load path env diagram =>
      intro _ _
      exact ⟨path, _, ⟨rfl, rfl, rfl⟩, Function.update_self ..⟩
  | reset => exact fun loaded _ => nomatch loaded
  | edit action => exact truthful.touched (touched_edit action _) _
  | startSave page =>
      rw [Session.step, Session.startSave]
      split
      · exact truthful
      · exact truthful.touched (Touched.refl _) _
  | configWritten index =>
      rw [Session.step, Session.configWritten]
      split
      · exact truthful
      · exact truthful.touched (Touched.refl _) _
  | diagramWritten index => exact truthful_diagramWritten truthful finds
  | saveFailed index message =>
      rw [Session.step, Session.saveFailed]
      split
      · exact truthful
      · split
        · exact truthful
        · exact truthful.touched ⟨rfl, .inr ⟨rfl, rfl, rfl⟩⟩ _
  | marked index => exact truthful_marked truthful written finds

theorem Written.sync (written : Written session) (path : String)
    (snapshot : EditorSnapshot ε) :
    Written (session.sync path snapshot) := by
  intro save member stage current
  obtain ⟨earlier, there, rfl⟩ := List.mem_map.mp member
  by_cases same : earlier.path = path
  · rw [if_pos same] at current
    cases current
  · rw [if_neg same] at stage current ⊢
    exact (Function.update_of_ne same ..).trans
      (written earlier there stage current)

theorem Written.saves (written : Written session) {saves : List (Save ε)}
    (known : ∀ save ∈ saves, save ∈ session.saves ∨
      save.stage ≠ .written ∨
        session.synced save.path = some save.snapshot)
    (store : EditorStore ε ι) :
    Written ⟨store, saves, session.synced⟩ := by
  intro save member stage current
  rcases known save member with there | unwritten | synced
  · exact written save there stage current
  · exact (unwritten stage).elim
  · exact synced

theorem written_step (written : Written session) (event : Event ε) :
    Written (session.step services event) := by
  have same (store : EditorStore ε ι) :
      Written ⟨store, session.saves, session.synced⟩ := written
  have erased (store : EditorStore ε ι) (index : Nat) :
      Written ⟨store, session.saves.eraseIdx index, session.synced⟩ :=
    written.saves (fun _ member => .inl (List.mem_of_mem_eraseIdx member))
      store
  cases event with
  | load path env diagram => exact written.sync path _
  | reset => exact same _
  | edit action => exact same _
  | startSave page =>
      rw [Session.step, Session.startSave]
      split
      · exact written
      · refine written.saves ?_ _
        intro save member
        rcases List.mem_append.mp member with there | new
        · exact .inl there
        · rw [List.mem_singleton.mp new]
          exact .inr (.inl nofun)
  | configWritten index =>
      rw [Session.step, Session.configWritten]
      split
      · exact written
      · refine written.saves ?_ _
        intro save member
        rcases List.mem_or_eq_of_mem_set member with there | rfl
        · exact .inl there
        · exact .inr (.inl nofun)
  | diagramWritten index =>
      rw [Session.step, Session.diagramWritten]
      split
      · exact written
      · rename_i own _
        refine (written.sync own.path own.snapshot).saves ?_ _
        intro save member
        rcases List.mem_or_eq_of_mem_set member with there | rfl
        · exact .inl there
        · exact .inr (.inr (Function.update_self ..))
  | saveFailed index message =>
      rw [Session.step, Session.saveFailed]
      split
      · exact written
      · split
        · exact written
        · exact erased _ index
  | marked index =>
      rw [Session.step, Session.marked]
      split
      · exact written
      · exact erased _ index

/-! ## All runs -/

/-- The sessions that events lead to. -/
def Reached (services : Services ε ι) : Session ε ι → Prop :=
  Transitions.Runs
    (Transitions.guarded FindsItsOwn
      (Transitions.ofFunction fun session event =>
        session.step services event))
    Session.initial

/-- In every run in which each save finds its own, a store that is not dirty
holds what was last loaded from or written to its project. -/
theorem truthful_of_runs (reached : Reached services session) :
    Truthful session := by
  have start : Truthful (Session.initial : Session ε ι) ∧
      Written (Session.initial : Session ε ι) := by
    constructor
    · intro loaded
      cases loaded
    · intro save member
      cases member
  have both : Truthful session ∧ Written session := by
    refine Transitions.invariant_of_runs
      (fun session => Truthful session ∧ Written session) ?_ start reached
    rintro before event after ⟨truthful, written⟩ ⟨finds, rfl⟩
    exact ⟨truthful_step truthful written finds, written_step written event⟩
  exact both.1

/-! ## Samples -/

/-- An edit, a save, and no edit until it ends. -/
def quietSave : List (Event String) :=
  [.load "/lab" "lan" emptyDiagramState,
    .edit (.mutate (applyMoveNode "net:lan" 10 20)),
    .startSave "/lab", .configWritten 0, .diagramWritten 0, .marked 0]

/-- The same with an edit while the save is in flight. -/
def busySave : List (Event String) :=
  [.load "/lab" "lan" emptyDiagramState,
    .edit (.mutate (applyMoveNode "net:lan" 10 20)),
    .startSave "/lab", .configWritten 0,
    .edit (.mutate (applyMoveNode "net:lan" 30 40)),
    .diagramWritten 0, .marked 0]

def play (events : List (Event String)) : Session String String :=
  events.foldl (fun session event => session.step sampleServices event)
    Session.initial

theorem truthful_quietSave : Truthful (play quietSave) := by
  refine truthful_of_runs (Transitions.Runs.guarded_foldl ?_)
  refine ⟨trivial, trivial, trivial, trivial, ?_, ?_, trivial⟩
  · rintro save found _ dirty
    cases dirty
  · rintro save found _ _
    cases found
    exact ⟨⟨rfl, rfl, rfl⟩, rfl⟩

/-- The later edit counts as saved, and was written nowhere. -/
theorem busySave_not_truthful : ¬ Truthful (play busySave) := by
  intro truthful
  obtain ⟨path, snapshot, ⟨project, env, diagram⟩, synced⟩ :=
    truthful rfl rfl
  cases project
  cases synced
  revert diagram
  decide

end EditorStore

end Editor

end Vzctl
