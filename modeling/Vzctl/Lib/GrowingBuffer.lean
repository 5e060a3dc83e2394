import Mathlib.Data.List.Basic

/-!
# Readers of a growing buffer

A reader that appends every chunk it receives to a buffer and parses the whole
buffer again, until the parser has an answer or the buffer is too long.  The
answer may depend on the stream alone, or on the way it was cut into chunks.
-/

namespace GrowingBuffer

variable {α β ε : Type}

/-- The chunks of a stream are never empty, and none exceeds the buffer that
one read fills. -/
structure IsCut (capacity : Nat) (stream : List α) (chunks : List (List α)) :
    Prop where
  flatten : chunks.flatten = stream
  sizes : ∀ chunk ∈ chunks, 0 < chunk.length ∧ chunk.length ≤ capacity

section Feed

variable (parse : List α → Except ε (Option β)) (limit : Nat)

/-- The reader, which has `pending` already. -/
def feed (pending : List α) : List (List α) → Except ε (Option β)
  | [] => .ok none
  | chunk :: later =>
      match parse (pending ++ chunk) with
      | .error failure => .error failure
      | .ok (some answer) => .ok (some answer)
      | .ok none =>
          if limit < (pending ++ chunk).length then .ok none
          else feed (pending ++ chunk) later

end Feed

variable {parse : List α → Except ε (Option β)} {limit capacity : Nat}
  {stream pending chunk : List α} {chunks later : List (List α)}
  {answered : Except ε (Option β)}

theorem feed_of_answer (answers : parse (pending ++ chunk) = answered)
    (isAnswer : answered ≠ .ok none) :
    feed parse limit pending (chunk :: later) = answered := by
  rw [feed, answers]
  match answered with
  | .error failure => rfl
  | .ok (some answer) => rfl
  | .ok none => exact absurd rfl isAnswer

theorem feed_of_quiet (quiet : parse (pending ++ chunk) = .ok none)
    (within : (pending ++ chunk).length ≤ limit) :
    feed parse limit pending (chunk :: later) =
      feed parse limit (pending ++ chunk) later := by
  rw [feed, quiet]
  exact if_neg (by omega)

theorem feed_of_overlong (quiet : parse (pending ++ chunk) = .ok none)
    (beyond : limit < (pending ++ chunk).length) :
    feed parse limit pending (chunk :: later) = .ok none := by
  rw [feed, quiet]
  exact if_pos beyond

/-! ## Answers that no cut changes -/

/-- The parser is silent as long as the buffer is shorter than `needed`. -/
def QuietBelow (parse : List α → Except ε (Option β)) (stream : List α)
    (needed : Nat) : Prop :=
  ∀ front back, front ++ back = stream → front.length < needed →
    parse front = .ok none

/-- A stream that ends too early, or whose end is beyond what the limit and one
more chunk can reach, gets no answer. -/
theorem feed_eq_none {needed : Nat} (quiet : QuietBelow parse stream needed)
    (unreachable : stream.length < needed ∨ limit + capacity < needed)
    (started : pending.length ≤ limit)
    (sizes : ∀ chunk ∈ chunks, 0 < chunk.length ∧ chunk.length ≤ capacity)
    (whole : pending ++ chunks.flatten = stream) :
    feed parse limit pending chunks = .ok none := by
  induction chunks generalizing pending with
  | nil => rfl
  | cons chunk later ih =>
      have size := sizes chunk List.mem_cons_self
      have regrouped : (pending ++ chunk) ++ later.flatten = stream := by
        rw [← whole, List.flatten_cons, List.append_assoc]
      have total := congrArg List.length regrouped
      have silent : parse (pending ++ chunk) = .ok none := by
        apply quiet _ _ regrouped
        simp only [List.length_append] at total ⊢
        omega
      by_cases within : (pending ++ chunk).length ≤ limit
      · rw [feed_of_quiet silent within]
        exact ih within
          (fun other member => sizes other (List.mem_cons_of_mem _ member))
          regrouped
      · exact feed_of_overlong silent (by omega)

/-- Where the answer comes before the limit can stop the reader, and is the
same for every longer buffer, it is the same for every cut. -/
theorem feed_eq_answer {needed : Nat} (quiet : QuietBelow parse stream needed)
    (settled : ∀ front back, front ++ back = stream →
      needed ≤ front.length → parse front = answered)
    (isAnswer : answered ≠ .ok none) (early : needed ≤ limit + 1)
    (reached : needed ≤ stream.length) (open' : pending.length < needed)
    (whole : pending ++ chunks.flatten = stream) :
    feed parse limit pending chunks = answered := by
  induction chunks generalizing pending with
  | nil =>
      have total := congrArg List.length whole
      simp at total
      omega
  | cons chunk later ih =>
      have regrouped : (pending ++ chunk) ++ later.flatten = stream := by
        rw [← whole, List.flatten_cons, List.append_assoc]
      by_cases enough : needed ≤ (pending ++ chunk).length
      · exact feed_of_answer (settled _ _ regrouped enough) isAnswer
      · have silent := quiet _ _ regrouped (by omega)
        rw [feed_of_quiet silent (by omega)]
        exact ih (by omega) regrouped

/-! ## Cuts -/

/-- One element at a time. -/
def singly (elements : List α) : List (List α) :=
  elements.map fun element => [element]

theorem flatten_singly (elements : List α) :
    (singly elements).flatten = elements := by
  induction elements with
  | nil => rfl
  | cons element rest ih =>
      simpa [singly] using ih

theorem sizes_singly (positive : 0 < capacity) (elements : List α) :
    ∀ chunk ∈ singly elements, 0 < chunk.length ∧ chunk.length ≤ capacity := by
  intro chunk member
  obtain ⟨element, _, rfl⟩ := List.mem_map.mp member
  simp
  omega

theorem exists_middle {start size : Nat} (within : start + size ≤ stream.length) :
    ∃ front middle back, front ++ middle ++ back = stream ∧
      front.length = start ∧ middle.length = size := by
  refine ⟨stream.take start, (stream.drop start).take size,
    (stream.drop start).drop size, ?_, ?_, ?_⟩
  · rw [List.append_assoc, List.take_append_drop, List.take_append_drop]
  · rw [List.length_take]
    omega
  · rw [List.length_take, List.length_drop]
    omega

/-- The stream one element at a time, but for one chunk in the middle. -/
theorem isCut_around {front middle back : List α} (nonempty : middle ≠ [])
    (small : middle.length ≤ capacity) :
    IsCut capacity (front ++ middle ++ back)
      (singly front ++ middle :: singly back) := by
  have positive := List.length_pos_of_ne_nil nonempty
  constructor
  · simp [flatten_singly]
  · intro chunk member
    simp only [List.mem_append, List.mem_cons] at member
    rcases member with early | rfl | late
    · exact sizes_singly (by omega) front chunk early
    · exact ⟨positive, small⟩
    · exact sizes_singly (by omega) back chunk late

/-- The reader takes a quiet part of the stream one element at a time. -/
theorem feed_singly {needed : Nat} {front back : List α}
    (quiet : QuietBelow parse stream needed)
    (whole : pending ++ front ++ back = stream)
    (short : (pending ++ front).length < needed)
    (within : (pending ++ front).length ≤ limit) :
    feed parse limit pending (singly front ++ later) =
      feed parse limit (pending ++ front) later := by
  induction front generalizing pending with
  | nil => simp [singly]
  | cons element rest ih =>
      have regrouped : pending ++ [element] ++ (rest ++ back) = stream := by
        simpa using whole
      have silent : parse (pending ++ [element]) = .ok none := by
        apply quiet _ _ regrouped
        simp at short ⊢
        omega
      have step := @feed_of_quiet α β ε parse limit pending [element]
        (singly rest ++ later) silent (by simp at within ⊢; omega)
      have rested := @ih (pending ++ [element])
        (by simpa using whole) (by simpa using short) (by simpa using within)
      have split : singly (element :: rest) ++ later =
          [element] :: (singly rest ++ later) := rfl
      rw [split, step, rested, List.append_assoc, List.singleton_append]

/-- A chunk in the middle that brings the answer. -/
theorem feed_around {needed : Nat} {front middle back : List α}
    (quiet : QuietBelow parse (front ++ middle ++ back) needed)
    (short : front.length < needed) (within : front.length ≤ limit)
    (answers : parse (front ++ middle) = answered)
    (isAnswer : answered ≠ .ok none) :
    feed parse limit [] (singly front ++ middle :: singly back) = answered := by
  have taken := @feed_singly α β ε parse limit (front ++ middle ++ back) []
    (middle :: singly back) needed front (middle ++ back) quiet
    (by simp) short within
  rw [taken, List.nil_append]
  exact feed_of_answer answers isAnswer

/-- One element at a time the reader stops behind the limit. -/
theorem feed_singly_eq_none {needed : Nat}
    (quiet : QuietBelow parse stream needed) (late : limit + 1 < needed)
    (long : limit < stream.length) :
    feed parse limit [] (singly stream) = .ok none := by
  obtain ⟨front, back, whole, size⟩ : ∃ front back, stream = front ++ back ∧
      front.length = limit :=
    ⟨stream.take limit, stream.drop limit, by simp, by simp; omega⟩
  cases back with
  | nil =>
      rw [whole] at long
      simp at long
      omega
  | cons element rest =>
      have split : singly stream = singly front ++ [element] :: singly rest := by
        rw [whole]
        simp [singly]
      have taken := @feed_singly α β ε parse limit stream []
        ([element] :: singly rest) needed front (element :: rest) quiet
        (by simp [whole]) (by simp; omega) (by simp; omega)
      have silent : parse (front ++ [element]) = .ok none := by
        apply quiet _ rest
        · simp [whole]
        · simp
          omega
      rw [split, taken, List.nil_append]
      exact feed_of_overlong silent (by simp; omega)

end GrowingBuffer
