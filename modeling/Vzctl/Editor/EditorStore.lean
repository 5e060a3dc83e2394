import Mathlib.Data.Rat.Defs
import Mathlib.Logic.Function.Iterate

/-!
# The store of the topology editor

The state of the editor and its actions.  Objects are values here: what
changes an environment or a diagram changes a clone it has made itself, and
history and state share only what nobody writes to.  Checking and laying out
an environment are parameters, as are the mutations of environments.
-/

namespace Vzctl

namespace Editor

/-! ## Diagrams -/

structure NodePosition where
  x : Rat
  y : Rat
  width : Option Rat
  height : Option Rat
  zIndex : Option Rat
  deriving DecidableEq

structure Viewport where
  sx : Rat
  sy : Rat
  ox : Rat
  oy : Rat
  deriving DecidableEq

abbrev Nodes := List (String × NodePosition)

structure DiagramState where
  nodes : Nodes
  edges : List (String × List (Rat × Rat))
  viewport : Viewport
  deriving DecidableEq

def emptyDiagramState : DiagramState := ⟨[], [], ⟨1, 1, 0, 0⟩⟩

/-- `nodes[id] = position`. -/
def setNode (id : String) (position : NodePosition) : Nodes → Nodes
  | [] => [(id, position)]
  | (other, held) :: rest =>
      if other = id then (id, position) :: rest
      else (other, held) :: setNode id position rest

/-- `{ ...nodes, ...more }`. -/
def spreadNodes (nodes more : Nodes) : Nodes :=
  more.foldl (fun nodes node => setNode node.1 node.2 nodes) nodes

/-! ## Snapshots and mutations -/

section Snapshots

variable (ε : Type)

structure EditorSnapshot where
  env : ε
  diagram : DiagramState

/-- A mutation fails with a message. -/
abbrev Mutation := EditorSnapshot ε → Except String (EditorSnapshot ε)

variable {ε}

def moveTo (nodes : Nodes) (nodeId : String) (x y : Rat) : Nodes :=
  let previous := (nodes.lookup nodeId).getD ⟨x, y, none, none, none⟩
  setNode nodeId { previous with x := x, y := y } nodes

def applyMoveNode (nodeId : String) (x y : Rat) : Mutation ε := fun snap =>
  .ok { snap with
    diagram :=
      { snap.diagram with nodes := moveTo snap.diagram.nodes nodeId x y } }

def applyMoveNodes (positions : List (String × Rat × Rat)) : Mutation ε :=
  fun snap =>
    .ok { snap with
      diagram :=
        { snap.diagram with
          nodes := positions.foldl (fun nodes position =>
            moveTo nodes position.1 position.2.1 position.2.2)
            snap.diagram.nodes } }

def applyResizeNode (nodeId : String) (width height : Rat) : Mutation ε :=
  fun snap =>
    let previous := (snap.diagram.nodes.lookup nodeId).getD
      ⟨0, 0, some width, some height, none⟩
    .ok { snap with
      diagram :=
        { snap.diagram with
          nodes := setNode nodeId
            { previous with width := some width, height := some height }
            snap.diagram.nodes } }

end Snapshots

/-! ## The store -/

structure SelectionState where
  nodeIds : List String
  edgeIds : List String

def noSelection : SelectionState := ⟨[], []⟩

structure ConnectionHint where
  key : String
  params : List (String × String)

structure EditorUiState where
  dirty : Bool
  projecting : Bool
  paletteFilter : String
  lastError : Option String
  connectionHint : Option ConnectionHint

def defaultUi : EditorUiState := ⟨false, false, "", none, none⟩

/-- `ε` are the environments and `ι` the issues found in them. -/
structure EditorStore (ε ι : Type) where
  projectPath : Option String
  env : Option ε
  diagram : DiagramState
  selection : SelectionState
  validation : List ι
  ui : EditorUiState
  past : List (EditorSnapshot ε)
  future : List (EditorSnapshot ε)

/-- What the store uses of the rest of the editor. -/
structure Services (ε ι : Type) where
  revalidate : ε → List ι
  layoutByNetwork : ε → Nodes
  applyDetachNic : String → String → Mutation ε
  applyDeleteRoute : String → Mutation ε
  applyDeleteNodes : List String → Mutation ε

def historyLimit : Nat := 80

/-- `items.slice(-count)`. -/
def lastItems {α : Type} (count : Nat) (items : List α) : List α :=
  items.drop (items.length - count)

namespace EditorStore

variable {ε ι : Type} (services : Services ε ι)

def initial : EditorStore ε ι where
  projectPath := none
  env := none
  diagram := emptyDiagramState
  selection := noSelection
  validation := []
  ui := defaultUi
  past := []
  future := []

def load (path : String) (env : ε) (diagram : DiagramState) :
    EditorStore ε ι where
  projectPath := some path
  env := some env
  -- Saved placement is kept; the layout only fills in new nodes.
  diagram :=
    { diagram with
      nodes := spreadNodes (services.layoutByNetwork env) diagram.nodes }
  selection := noSelection
  validation := services.revalidate env
  ui := defaultUi
  past := []
  future := []

def applyMutation (mutate : Mutation ε) (state : EditorStore ε ι) :
    EditorStore ε ι :=
  match state.env with
  | none => state
  | some env =>
      let before : EditorSnapshot ε := ⟨env, state.diagram⟩
      match mutate before with
      | .ok next =>
          { state with
            env := some next.env
            diagram := next.diagram
            validation := services.revalidate next.env
            past := lastItems historyLimit (state.past ++ [before])
            future := []
            ui := { state.ui with dirty := true, lastError := none } }
      | .error message =>
          { state with ui := { state.ui with lastError := some message } }

def undo (state : EditorStore ε ι) : EditorStore ε ι :=
  match state.past.getLast?, state.env with
  | some previous, some env =>
      { state with
        env := some previous.env
        diagram := previous.diagram
        validation := services.revalidate previous.env
        past := state.past.dropLast
        future := ⟨env, state.diagram⟩ :: state.future
        ui := { state.ui with dirty := true } }
  | _, _ => state

def redo (state : EditorStore ε ι) : EditorStore ε ι :=
  match state.future, state.env with
  | next :: later, some env =>
      { state with
        env := some next.env
        diagram := next.diagram
        validation := services.revalidate next.env
        past := state.past ++ [⟨env, state.diagram⟩]
        future := later
        ui := { state.ui with dirty := true } }
  | _, _ => state

/-- What deleting an edge of the diagram does. -/
def edgeMutation (edgeId : String) : Option (Mutation ε) :=
  if edgeId.startsWith "attach:" then
    match edgeId.splitOn ":" with
    | _ :: vmName :: networkName :: _ =>
        if vmName ≠ "" ∧ networkName ≠ "" then
          some (services.applyDetachNic vmName networkName)
        else none
    | _ => none
  else if edgeId.startsWith "route:" then
    some (services.applyDeleteRoute (String.ofList (edgeId.toList.drop 6)))
  else none

/-- The mutations of `deleteSelection`, one after the other. -/
def deletions (selection : SelectionState) : List (Mutation ε) :=
  selection.edgeIds.filterMap (edgeMutation services) ++
    if selection.nodeIds = [] then []
    else [services.applyDeleteNodes selection.nodeIds]

def applyMutations (mutations : List (Mutation ε))
    (state : EditorStore ε ι) : EditorStore ε ι :=
  mutations.foldl (fun state mutate => applyMutation services mutate state)
    state

def deleteSelection (state : EditorStore ε ι) : EditorStore ε ι :=
  { applyMutations services (deletions services state.selection) state with
    selection := noSelection }

def replaceDiagram (diagram : DiagramState) (state : EditorStore ε ι) :
    EditorStore ε ι :=
  { state with
    diagram := diagram
    ui := { state.ui with dirty := true } }

def setSelection (selection : SelectionState) (state : EditorStore ε ι) :
    EditorStore ε ι :=
  { state with selection := selection }

def setLastError (error : Option String) (state : EditorStore ε ι) :
    EditorStore ε ι :=
  { state with ui := { state.ui with lastError := error } }

def markSaved (state : EditorStore ε ι) : EditorStore ε ι :=
  { state with ui := { state.ui with dirty := false } }

/-- `onAutoLayout`: the layout goes over the positions there are. -/
def autoLayout (state : EditorStore ε ι) : EditorStore ε ι :=
  match state.env with
  | none => state
  | some env =>
      replaceDiagram
        { state.diagram with
          nodes := spreadNodes state.diagram.nodes
            (services.layoutByNetwork env) } state

/-! ## Edits -/

/-- The edits of a user; the mutations stand for all of those of the
editor. -/
inductive Edit (ε : Type) where
  | mutate (mutation : Mutation ε)
  | deleteSelection
  | autoLayout
  | undo
  | redo
  | setSelection (selection : SelectionState)

def edit (state : EditorStore ε ι) : Edit ε → EditorStore ε ι
  | .mutate mutation => applyMutation services mutation state
  | .deleteSelection => deleteSelection services state
  | .autoLayout => autoLayout services state
  | .undo => undo services state
  | .redo => redo services state
  | .setSelection selection => setSelection selection state

/-! ## A sample -/

/-- Environments with one network; there is nothing to object to. -/
def sampleServices : Services String String where
  revalidate := fun _ => []
  layoutByNetwork := fun network =>
    [("net:" ++ network, ⟨60, 80, some 320, some 200, none⟩)]
  applyDetachNic := fun _ _ _ => .error "vmMissing"
  applyDeleteRoute := fun _ snap => .ok snap
  applyDeleteNodes := fun _ snap => .ok snap

end EditorStore

end Editor

end Vzctl
