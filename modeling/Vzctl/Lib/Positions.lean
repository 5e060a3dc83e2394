import Vzctl.Lib.Outcome

/-!
# Checked positions

The operations of a list that have a precondition on a position or a length,
and the computations that violate none.  `List.splitting` cuts a list at its
separators.
-/

namespace Positions

variable {α β : Type}

/-- A precondition that does not hold ends the program. -/
inductive Violation where
  | indexOutOfBounds
  | negativeLength
  deriving DecidableEq, Repr

def Returns (outcome : Except Violation α) : Prop :=
  ∃ result, outcome = .ok result

def violation : Except Violation α → Option Violation
  | .ok _ => none
  | .error trap => some trap

/-! ## Operations -/

def element (elements : List α) (index : Nat) : Except Violation α :=
  match elements[index]? with
  | some found => .ok found
  | none => .error .indexOutOfBounds

def indexAfter (elements : List α) (index : Nat) : Except Violation Nat :=
  if index < elements.length then .ok (index + 1)
  else .error .indexOutOfBounds

def indexOffset (elements : List α) (index distance : Nat) :
    Except Violation Nat :=
  if index + distance ≤ elements.length then .ok (index + distance)
  else .error .indexOutOfBounds

/-- The end position itself is within the limit. -/
def indexLimited (elements : List α) (index distance : Nat) : Option Nat :=
  if index + distance ≤ elements.length then some (index + distance)
  else none

/-- The elements from `lower` up to, but not including, `upper`. -/
def slice (elements : List α) (lower upper : Nat) : Except Violation (List α) :=
  if lower ≤ upper ∧ upper ≤ elements.length then
    .ok ((elements.take upper).drop lower)
  else .error .indexOutOfBounds

/-- The elements from `lower` up to and including `upper`, which has to be
the position of an element. -/
def closedSlice (elements : List α) (lower upper : Nat) :
    Except Violation (List α) := do
  let past ← indexAfter elements upper
  slice elements lower past

/-- At most the first `length` elements. -/
def firstElements (elements : List α) (length : Int) :
    Except Violation (List α) :=
  if 0 ≤ length then .ok (elements.take length.toNat)
  else .error .negativeLength

/-- The stretches between separators.  At most `remaining` cuts are made where
that number is given, and `omitting` leaves empty stretches out, which then do
not count as cuts. -/
def splitting (isSeparator : α → Bool) (omitting : Bool) :
    Option Nat → List α → List α → List (List α)
  | _, current, [] =>
      if omitting && current.isEmpty then [] else [current]
  | remaining, current, tested :: rest =>
      if isSeparator tested then
        if omitting && current.isEmpty then
          splitting isSeparator omitting remaining [] rest
        else if remaining = some 1 then
          if omitting && rest.isEmpty then [current] else [current, rest]
        else
          current :: splitting isSeparator omitting
            (remaining.map (· - 1)) [] rest
      else
        splitting isSeparator omitting remaining (current ++ [tested]) rest

/-- `split(separator:maxSplits:omittingEmptySubsequences:)`. -/
def split (isSeparator : α → Bool) (maxSplits : Option Nat)
    (omitting : Bool) (elements : List α) : List (List α) :=
  splitting isSeparator omitting maxSplits [] elements

/-! ## Computations without a violation -/

theorem bind_ok (value : α) (next : α → Except Violation β) :
    ((.ok value : Except Violation α) >>= next) = next value := rfl

theorem returns_ok (value : α) : Returns (.ok value : Except Violation α) :=
  ⟨value, rfl⟩

theorem not_returns_error (trap : Violation) :
    ¬ Returns (.error trap : Except Violation α) := by
  rintro ⟨result, impossible⟩
  cases impossible

theorem not_returns_of_violation {outcome : Except Violation α} {trap : Violation}
    (violated : violation outcome = some trap) : ¬ Returns outcome := by
  rintro ⟨result, performed⟩
  rw [performed] at violated
  cases violated

theorem returns_bind_iff
    {first : Except Violation α} {next : α → Except Violation β} :
    Returns (first >>= next) ↔
      ∃ value, first = .ok value ∧ Returns (next value) := by
  constructor
  · rintro ⟨result, performed⟩
    obtain ⟨value, begun, ended⟩ := Outcome.bind_eq_ok_iff.mp performed
    exact ⟨value, begun, result, ended⟩
  · rintro ⟨value, begun, result, ended⟩
    exact ⟨result, Outcome.bind_eq_ok_iff.mpr ⟨value, begun, ended⟩⟩

/-- Where what follows never violates a precondition, only the first part
matters. -/
theorem returns_bind_iff_of_forall
    {first : Except Violation α} {next : α → Except Violation β}
    (continues : ∀ value, Returns (next value)) :
    Returns (first >>= next) ↔ Returns first := by
  rw [returns_bind_iff]
  constructor
  · rintro ⟨value, begun, _⟩
    exact ⟨value, begun⟩
  · rintro ⟨value, begun⟩
    exact ⟨value, begun, continues value⟩

theorem returns_bind_iff_and {holds : Prop}
    {first : Except Violation α} {next : α → Except Violation β}
    (continues : ∀ value, Returns (next value) ↔ holds) :
    Returns (first >>= next) ↔ Returns first ∧ holds := by
  rw [returns_bind_iff]
  constructor
  · rintro ⟨value, begun, ended⟩
    exact ⟨⟨value, begun⟩, (continues value).mp ended⟩
  · rintro ⟨⟨value, begun⟩, held⟩
    exact ⟨value, begun, (continues value).mpr held⟩

theorem returns_foldlM_iff {step : β → α → Except Violation β} {good : α → Prop}
    (stepReturns : ∀ state item, Returns (step state item) ↔ good item)
    (state : β) (items : List α) :
    Returns (items.foldlM step state) ↔ ∀ item ∈ items, good item := by
  induction items generalizing state with
  | nil =>
      constructor
      · intro _ item impossible
        cases impossible
      · intro _
        exact returns_ok state
  | cons item rest ih =>
      rw [List.foldlM_cons, returns_bind_iff_and fun value =>
        ih value, stepReturns, List.forall_mem_cons]

theorem returns_mapM_iff {perform : α → Except Violation β} {good : α → Prop}
    (performReturns : ∀ item, Returns (perform item) ↔ good item)
    (items : List α) :
    Returns (items.mapM perform) ↔ ∀ item ∈ items, good item := by
  induction items with
  | nil =>
      constructor
      · intro _ item impossible
        cases impossible
      · intro _
        exact returns_ok []
  | cons item rest ih =>
      rw [List.mapM_cons, List.forall_mem_cons, ← performReturns,
        ← ih]
      refine returns_bind_iff_and fun value => ?_
      exact returns_bind_iff_of_forall fun values => returns_ok _

/-! ## Positions within bounds -/

theorem element_of_lt {elements : List α} {index : Nat}
    (within : index < elements.length) :
    element elements index = .ok elements[index] := by
  rw [element, List.getElem?_eq_getElem within]

theorem indexAfter_of_lt {elements : List α} {index : Nat}
    (within : index < elements.length) :
    indexAfter elements index = .ok (index + 1) :=
  if_pos within

theorem indexOffset_of_le {elements : List α} {index distance : Nat}
    (within : index + distance ≤ elements.length) :
    indexOffset elements index distance = .ok (index + distance) :=
  if_pos within

theorem slice_of_le {elements : List α} {lower upper : Nat}
    (ordered : lower ≤ upper) (within : upper ≤ elements.length) :
    slice elements lower upper = .ok ((elements.take upper).drop lower) :=
  if_pos ⟨ordered, within⟩

theorem slice_to_end {elements : List α} {lower : Nat}
    (within : lower ≤ elements.length) :
    slice elements lower elements.length = .ok (elements.drop lower) := by
  rw [slice_of_le within (Nat.le_refl _), List.take_length]

theorem closedSlice_of_lt {elements : List α} {lower upper : Nat}
    (ordered : lower ≤ upper) (within : upper < elements.length) :
    closedSlice elements lower upper =
      .ok ((elements.take (upper + 1)).drop lower) := by
  rw [closedSlice, indexAfter_of_lt within]
  exact slice_of_le (by omega) within

theorem closedSlice_of_length {elements : List α} {lower upper : Nat}
    (atEnd : upper = elements.length) :
    closedSlice elements lower upper = .error .indexOutOfBounds := by
  rw [closedSlice, indexAfter, if_neg (by omega)]
  rfl

theorem returns_firstElements_iff {elements : List α} {length : Int} :
    Returns (firstElements elements length) ↔ 0 ≤ length := by
  rw [firstElements]
  split
  · rename_i natural
    exact iff_of_true (returns_ok _) natural
  · rename_i negative
    exact iff_of_false (not_returns_error _) negative

/-! ## Stretches -/

theorem splitting_nil (isSeparator : α → Bool) (omitting : Bool)
    (remaining : Option Nat) (current : List α) :
    splitting isSeparator omitting remaining current [] =
      if omitting && current.isEmpty then [] else [current] := rfl

theorem splitting_inside {isSeparator : α → Bool} {omitting : Bool}
    {remaining : Option Nat} {current rest : List α} {tested : α}
    (inside : ¬ isSeparator tested = true) :
    splitting isSeparator omitting remaining current (tested :: rest) =
      splitting isSeparator omitting remaining (current ++ [tested]) rest :=
  if_neg inside

theorem splitting_eq_nil_iff {isSeparator : α → Bool}
    {remaining : Option Nat} {current elements : List α} :
    splitting isSeparator true remaining current elements = [] ↔
      current = [] ∧ ∀ tested ∈ elements, isSeparator tested = true := by
  induction elements generalizing current with
  | nil =>
      simp only [splitting_nil, Bool.true_and, List.isEmpty_iff]
      constructor
      · intro nothing
        split at nothing
        · rename_i empty
          exact ⟨empty, fun tested impossible => by cases impossible⟩
        · cases nothing
      · rintro ⟨empty, _⟩
        rw [if_pos empty]
  | cons tested rest ih =>
      simp only [splitting, Bool.true_and, List.isEmpty_iff,
        List.forall_mem_cons]
      split
      · rename_i separates
        split
        · rename_i empty
          rw [ih]
          exact ⟨fun ⟨_, others⟩ => ⟨empty, separates, others⟩,
            fun ⟨_, _, others⟩ => ⟨rfl, others⟩⟩
        · rename_i nonempty
          refine iff_of_false ?_ fun held => nonempty held.1
          split
          · split
            · exact List.cons_ne_nil _ _
            · exact List.cons_ne_nil _ _
          · exact List.cons_ne_nil _ _
      · rename_i separates
        rw [ih]
        refine iff_of_false ?_ fun held => separates held.2.1
        intro held
        exact List.cons_ne_nil _ _ (List.append_eq_nil_iff.mp held.1).2

theorem length_splitting_one_le {isSeparator : α → Bool} {omitting : Bool}
    {current elements : List α} :
    (splitting isSeparator omitting (some 1) current elements).length ≤
      2 := by
  induction elements generalizing current with
  | nil =>
      rw [splitting_nil]
      split
      · exact Nat.zero_le 2
      · exact Nat.le_succ 1
  | cons tested rest ih =>
      rw [splitting]
      split
      · split
        · exact ih
        · rw [if_pos rfl]
          split
          · exact Nat.le_succ 1
          · exact Nat.le_refl 2
      · exact ih

/-! ## Joined stretches -/

theorem splitting_append {isSeparator : α → Bool} {omitting : Bool}
    {remaining : Option Nat} {current block rest : List α}
    (whole : ∀ tested ∈ block, isSeparator tested = false) :
    splitting isSeparator omitting remaining current (block ++ rest) =
      splitting isSeparator omitting remaining (current ++ block) rest := by
  induction block generalizing current with
  | nil => simp
  | cons tested others ih =>
      have inside := List.forall_mem_cons.mp whole
      have apart : ¬ isSeparator tested = true := by simp [inside.1]
      rw [List.cons_append, splitting_inside apart,
        ih inside.2]
      simp

theorem split_intercalate {isSeparator : α → Bool} {separator : α}
    (separates : isSeparator separator = true) {blocks : List (List α)}
    (nonempty : ∀ block ∈ blocks, block ≠ [])
    (whole : ∀ block ∈ blocks, ∀ tested ∈ block, isSeparator tested = false) :
    split isSeparator none true ([separator].intercalate blocks) = blocks := by
  induction blocks with
  | nil => rfl
  | cons block others ih =>
      have blockNonempty := (List.forall_mem_cons.mp nonempty).1
      have blockWhole := (List.forall_mem_cons.mp whole).1
      have continued := ih
        (List.forall_mem_cons.mp nonempty).2 (List.forall_mem_cons.mp whole).2
      cases others with
      | nil =>
          rw [List.intercalate_singleton, split, ← List.append_nil block,
            splitting_append blockWhole]
          simp [splitting_nil, blockNonempty]
      | cons next rest =>
          rw [List.intercalate_cons_cons, List.append_assoc, split,
            splitting_append blockWhole, List.nil_append, List.singleton_append,
            splitting, if_pos separates]
          rw [split] at continued
          simp [blockNonempty, continued]

theorem split_once {isSeparator : α → Bool} {separator : α}
    (separates : isSeparator separator = true) {front : List α}
    (nonempty : front ≠ [])
    (whole : ∀ tested ∈ front, isSeparator tested = false) (back : List α) :
    split isSeparator (some 1) true (front ++ separator :: back) =
      if back = [] then [front] else [front, back] := by
  rw [split, splitting_append whole, List.nil_append, splitting,
    if_pos separates]
  simp [nonempty]

end Positions
