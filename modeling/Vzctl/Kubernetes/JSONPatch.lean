import Vzctl.Kubernetes.ObjectValue
import Vzctl.Lib.Decimal

/-!
# JSON patches

The operations `test`, `remove` and `replace` of a JSON patch and what the API
server does with them.  A patch that fails at one operation changes nothing.
-/

namespace Vzctl

namespace JSONPatch

/-! ## Pointers -/

/-- The parts between the slashes. -/
def splitTokens : List Char → List (List Char)
  | [] => [[]]
  | '/' :: rest => [] :: splitTokens rest
  | scalar :: rest =>
      match splitTokens rest with
      | [] => [[scalar]]
      | token :: tokens => (scalar :: token) :: tokens

def unescape : List Char → List Char
  | '~' :: '1' :: rest => '/' :: unescape rest
  | '~' :: '0' :: rest => '~' :: unescape rest
  | scalar :: rest => scalar :: unescape rest
  | [] => []

/-- The reference tokens of a pointer. -/
def pointerTokens (pointer : String) : Option (List String) :=
  match pointer.toList with
  | [] => some []
  | '/' :: rest =>
      some ((splitTokens rest).map fun token => String.ofList (unescape token))
  | _ => none

/-! ## Places in a document -/

def child? (token : String) : JSONValue → Option JSONValue
  | .object fields => fields.lookup token
  | .array items => do
      let index ← Decimal.parse token.toList
      items[index]?
  | _ => none

def valueAt : List String → JSONValue → Option JSONValue
  | [], value => some value
  | token :: tokens, value => do
      let child ← child? token value
      valueAt tokens child

/-- Put a value where there is one. -/
def replaceChild (value : JSONValue) (token : String) :
    JSONValue → Option JSONValue
  | .object fields => do
      let _ ← fields.lookup token
      some (.object (KeyedList.insertKey token value fields))
  | .array items => do
      let index ← Decimal.parse token.toList
      let _ ← items[index]?
      some (.array (items.set index value))
  | _ => none

def removeChild (token : String) : JSONValue → Option JSONValue
  | .object fields => do
      let _ ← fields.lookup token
      some (.object (KeyedList.eraseKey token fields))
  | .array items => do
      let index ← Decimal.parse token.toList
      let _ ← items[index]?
      some (.array (items.eraseIdx index))
  | _ => none

/-- Put a value over another one or in a new place. -/
def addChild (value : JSONValue) (token : String) :
    JSONValue → Option JSONValue
  | .object fields => some (.object (KeyedList.insertKey token value fields))
  | .array items =>
      if token = "-" then
        some (.array (items ++ [value]))
      else do
        let index ← Decimal.parse token.toList
        if index ≤ items.length then
          some (.array (items.insertIdx index value))
        else
          none
  | _ => none

/-- Change the value that holds the last token. -/
def editAt (change : String → JSONValue → Option JSONValue) :
    List String → JSONValue → Option JSONValue
  | [], _ => none
  | [token], value => change token value
  | token :: next :: tokens, value => do
      let child ← child? token value
      let changed ← editAt change (next :: tokens) child
      replaceChild changed token value

end JSONPatch

inductive PatchOperation where
  | test (path : String) (value : JSONValue)
  | remove (path : String)
  | replace (path : String) (value : JSONValue)
  deriving DecidableEq

namespace PatchOperation

open JSONPatch

def apply (document : JSONValue) : PatchOperation → Option JSONValue
  | .test path value => do
      let tokens ← pointerTokens path
      let found ← valueAt tokens document
      if found = value then some document else none
  | .remove path => do
      let tokens ← pointerTokens path
      editAt removeChild tokens document
  | .replace path value => do
      let tokens ← pointerTokens path
      if tokens = [] then
        some value
      else
        editAt (replaceChild value) tokens document

end PatchOperation

namespace JSONPatch

/-! ## What an addition leaves alone -/

/-- A token that is no position in an array. -/
def Named (token : String) : Prop :=
  token ≠ "-" ∧ Decimal.parse token.toList = none

instance (token : String) : Decidable (Named token) :=
  inferInstanceAs (Decidable (_ ∧ _))

/-- Neither path leads through the end of the other. -/
def Apart (tokens other : List String) : Prop :=
  ¬ tokens <+: other ∧ ¬ other <+: tokens

theorem apart_cons {token : String} {tokens other : List String}
    (apart : Apart (token :: tokens) (token :: other)) :
    Apart tokens other := by
  constructor
  · intro within
    exact apart.1 (List.cons_prefix_cons.mpr ⟨rfl, within⟩)
  · intro within
    exact apart.2 (List.cons_prefix_cons.mpr ⟨rfl, within⟩)

theorem object_of_child? {token : String} {document child : JSONValue}
    (named : Named token) (found : child? token document = some child) :
    ∃ fields, document = .object fields ∧
      fields.lookup token = some child := by
  cases document with
  | object fields => exact ⟨fields, rfl, found⟩
  | array items =>
      rw [child?, named.2] at found
      cases found
  | null => cases found
  | bool value => cases found
  | number value => cases found
  | string value => cases found

theorem object_of_addChild {token : String}
    {value document changed : JSONValue} (named : Named token)
    (added : addChild value token document = some changed) :
    ∃ fields, document = .object fields ∧
      changed = .object (KeyedList.insertKey token value fields) := by
  cases document with
  | object fields => exact ⟨fields, rfl, (Option.some.inj added).symm⟩
  | array items =>
      rw [addChild, if_neg named.1, named.2] at added
      cases added
  | null => cases added
  | bool value => cases added
  | number value => cases added
  | string value => cases added

theorem valueAt_nil (value : JSONValue) :
    valueAt [] value = some value := rfl

theorem valueAt_cons (token : String) (tokens : List String)
    (value : JSONValue) :
    valueAt (token :: tokens) value =
      (child? token value).bind (valueAt tokens) := rfl

theorem editAt_cons_cons (change : String → JSONValue → Option JSONValue)
    (token next : String) (tokens : List String) (value : JSONValue) :
    editAt change (token :: next :: tokens) value =
      (child? token value).bind fun child =>
        (editAt change (next :: tokens) child).bind fun changed =>
          replaceChild changed token value := rfl

theorem object_of_addAt {token next : String} {tokens : List String}
    {value document changed : JSONValue} (named : Named token)
    (added : editAt (addChild value) (token :: next :: tokens) document =
      some changed) :
    ∃ fields child edited, document = .object fields ∧
      fields.lookup token = some child ∧
      editAt (addChild value) (next :: tokens) child = some edited ∧
      changed = .object (KeyedList.insertKey token edited fields) := by
  rw [editAt_cons_cons, Option.bind_eq_some_iff] at added
  obtain ⟨child, found, added⟩ := added
  obtain ⟨edited, isEdited, replaced⟩ := Option.bind_eq_some_iff.mp added
  obtain ⟨fields, rfl, inside⟩ := object_of_child? named found
  simp only [replaceChild, inside, Option.bind_eq_bind, Option.bind_some,
    Option.some.injEq] at replaced
  exact ⟨fields, child, edited, rfl, inside, isEdited, replaced.symm⟩

theorem valueAt_addAt {value : JSONValue} {tokens : List String}
    {document changed : JSONValue} (named : ∀ token ∈ tokens, Named token)
    (added : editAt (addChild value) tokens document = some changed) :
    valueAt tokens changed = some value := by
  induction tokens generalizing document changed with
  | nil => cases added
  | cons token tokens ih =>
      have first := (List.forall_mem_cons.mp named).1
      have later := (List.forall_mem_cons.mp named).2
      cases tokens with
      | nil =>
          obtain ⟨fields, rfl, rfl⟩ := object_of_addChild first added
          simp [valueAt_cons, child?, KeyedList.lookup_insertKey, valueAt_nil]
      | cons next tokens =>
          obtain ⟨fields, child, edited, rfl, _, isEdited, rfl⟩ :=
            object_of_addAt first added
          have below := ih later isEdited
          rw [valueAt_cons]
          simpa [child?, KeyedList.lookup_insertKey] using below

theorem valueAt_addAt_of_apart {value : JSONValue} {tokens : List String}
    {document changed : JSONValue} {other : List String}
    (named : ∀ token ∈ tokens, Named token)
    (added : editAt (addChild value) tokens document = some changed)
    (apart : Apart tokens other) :
    valueAt other changed = valueAt other document := by
  induction tokens generalizing document changed other with
  | nil => cases added
  | cons token tokens ih =>
      have first := (List.forall_mem_cons.mp named).1
      have later := (List.forall_mem_cons.mp named).2
      cases other with
      | nil => exact absurd (List.nil_prefix) apart.2
      | cons step rest =>
          cases tokens with
          | nil =>
              obtain ⟨fields, rfl, rfl⟩ := object_of_addChild first added
              have differs : step ≠ token := by
                rintro rfl
                exact apart.1 (by simp)
              simp [valueAt_cons, child?, KeyedList.lookup_insertKey, differs]
          | cons next tokens =>
              obtain ⟨fields, child, edited, rfl, inside, isEdited, rfl⟩ :=
                object_of_addAt first added
              rw [valueAt_cons, valueAt_cons]
              by_cases same : step = token
              · subst same
                have below :=
                  ih later isEdited (apart_cons apart)
                simpa [child?, KeyedList.lookup_insertKey, inside] using below
              · simp [child?, KeyedList.lookup_insertKey, same]

end JSONPatch

end Vzctl
