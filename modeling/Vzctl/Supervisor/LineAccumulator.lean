import Mathlib.Data.List.Basic

/-!
# Log lines of a process

`LineAccumulator`: pipe chunks become lines.  A line feed ends a log line and a
carriage return ends a progress line, and of the progress lines that follow
each other too closely only the last one is kept.
-/

namespace Vzctl

/-- `String(decoding:as: UTF8.self)`, which repairs what is not UTF-8. -/
structure TextDecoder where
  decoding : List UInt8 → String
  decoding_eq_empty_iff : ∀ bytes, decoding bytes = "" ↔ bytes = []

/-- Every byte as the character of its number. -/
def TextDecoder.latin : TextDecoder where
  decoding bytes := String.ofList (bytes.map fun byte => Char.ofNat byte.toNat)
  decoding_eq_empty_iff bytes := by
    rw [← String.toList_inj, String.toList_ofList]
    simp

def lineFeed : UInt8 := 10

def carriageReturn : UInt8 := 13

/-- `RestJobRunner.maxLineBytes`. -/
def maxLineBytes : Nat := 4096

def truncationMarker : String := " [line truncated]"

/-- The accumulator over clock readings `τ`.  `onLine` appends to `emitted`. -/
structure LineAccumulator (τ : Type) where
  partialLine : List UInt8 := []
  lineTruncated : Bool := false
  lastProgressAt : Option τ := none
  pendingProgress : Option String := none
  /-- How often `Date()` was called. -/
  readings : Nat := 0
  emitted : List String := []

namespace LineAccumulator

section Code

variable {τ : Type} (decoder : TextDecoder)
  /- `now.timeIntervalSince(last) < progressMinInterval`. -/
  (tooSoon : τ → τ → Bool) (clock : Nat → τ) (state : LineAccumulator τ)

def onLine (line : String) : LineAccumulator τ :=
  { state with emitted := state.emitted ++ [line] }

/-- The line that `takeLineLocked` returns. -/
def takenLine : String :=
  let marker := if state.lineTruncated then truncationMarker else ""
  decoder.decoding
    (state.partialLine.take (maxLineBytes - marker.utf8ByteSize)) ++ marker

def lineTaken : LineAccumulator τ :=
  { state with partialLine := [], lineTruncated := false }

def emitProgress (line : String) : LineAccumulator τ :=
  let now := clock state.readings
  let state := { state with readings := state.readings + 1 }
  if state.lastProgressAt.any fun last => tooSoon now last then
    { state with pendingProgress := some line }
  else
    { state with
      pendingProgress := none
      lastProgressAt := some now }.onLine line

def emitPendingProgress : LineAccumulator τ :=
  match state.pendingProgress with
  | none => state
  | some pending =>
      { state with
        pendingProgress := none
        lastProgressAt := some (clock state.readings)
        readings := state.readings + 1 }.onLine pending

/-- One round of the loop of `append`. -/
def appendByte (byte : UInt8) : LineAccumulator τ :=
  if byte = lineFeed ∨ byte = carriageReturn then
    let line := state.takenLine decoder
    let state := state.lineTaken
    if byte = carriageReturn then
      if line ≠ "" then state.emitProgress tooSoon clock line else state
    else
      let state := state.emitPendingProgress clock
      if line ≠ "" then state.onLine line else state
  else if state.partialLine.length < maxLineBytes then
    { state with partialLine := state.partialLine ++ [byte] }
  else
    { state with lineTruncated := true }

def append (data : List UInt8) : LineAccumulator τ :=
  data.foldl (appendByte decoder tooSoon clock) state

def flush : LineAccumulator τ :=
  let state := state.emitPendingProgress clock
  let line := state.takenLine decoder
  let state := state.lineTaken
  if line ≠ "" then state.onLine line else state

/-- The lines that a stream in chunks makes, with the final flush. -/
def emittedLines (chunks : List (List UInt8)) : List String :=
  ((chunks.foldl (append decoder tooSoon clock) {}).flush decoder
    clock).emitted

end Code

/-! ## The lines of a stream -/

/-- The progress lines in front of a line feed or of the end, and the line
there. -/
structure Block where
  progress : List (List UInt8)
  line : List UInt8
  deriving DecidableEq, Repr

def Block.bytes (block : Block) : List UInt8 :=
  (block.progress.flatMap fun line => line ++ [carriageReturn]) ++ block.line

/-- No line has a terminator inside. -/
def Block.Separated (block : Block) : Prop :=
  ∀ line ∈ block.progress ++ [block.line],
    lineFeed ∉ line ∧ carriageReturn ∉ line

/-- The blocks of a stream, of which the last one has no line feed. -/
structure BlocksOf (stream : List UInt8) (blocks : List Block) : Prop where
  nonempty : blocks ≠ []
  separated : ∀ block ∈ blocks, block.Separated
  bytes : [lineFeed].intercalate (blocks.map Block.bytes) = stream

/-- The text of a line; an over-long one is cut to make place for the
marker. -/
def lineText (decoder : TextDecoder) (line : List UInt8) : String :=
  if line.length ≤ maxLineBytes then
    decoder.decoding line
  else
    decoder.decoding
      (line.take (maxLineBytes - truncationMarker.utf8ByteSize)) ++
        truncationMarker

def nonempty (lines : List (List UInt8)) : List (List UInt8) :=
  lines.filter (· ≠ [])

/-- What may become of a block: some of its progress lines in their order, the
last one among them, and then the line itself. -/
def Reported (decoder : TextDecoder) (block : Block) (lines : List String) :
    Prop :=
  ∃ kept, kept.Sublist (nonempty block.progress) ∧
    kept.getLast? = (nonempty block.progress).getLast? ∧
    lines = (kept ++ nonempty [block.line]).map (lineText decoder)

/-! ## Blocks -/

/-- The blocks of a stream behind a part of the first one. -/
def blocksFrom (progress : List (List UInt8)) (content : List UInt8) :
    List UInt8 → List Block
  | [] => [⟨progress, content⟩]
  | byte :: rest =>
      if byte = lineFeed then
        ⟨progress, content⟩ :: blocksFrom [] [] rest
      else if byte = carriageReturn then
        blocksFrom (progress ++ [content]) [] rest
      else
        blocksFrom progress (content ++ [byte]) rest

theorem blocksFrom_ne_nil (progress : List (List UInt8))
    (content stream : List UInt8) :
    blocksFrom progress content stream ≠ [] := by
  induction stream generalizing progress content with
  | nil => simp [blocksFrom]
  | cons byte rest ih =>
      rw [blocksFrom]
      split
      · simp
      · split
        · exact ih _ _
        · exact ih _ _

theorem bytes_blocksFrom (progress : List (List UInt8))
    (content stream : List UInt8) :
    [lineFeed].intercalate
        ((blocksFrom progress content stream).map Block.bytes) =
      Block.bytes ⟨progress, content⟩ ++ stream := by
  induction stream generalizing progress content with
  | nil => simp [blocksFrom]
  | cons byte rest ih =>
      rw [blocksFrom]
      split
      · rename_i feeds
        obtain ⟨first, others, more⟩ :=
          List.exists_cons_of_ne_nil (blocksFrom_ne_nil [] [] rest)
        have later := ih [] []
        rw [more, List.map_cons] at later
        rw [more, List.map_cons, List.map_cons, List.intercalate_cons_cons,
          later, feeds]
        simp [Block.bytes]
      · split
        · rename_i returns
          rw [ih, returns]
          simp [Block.bytes]
        · rw [ih]
          simp [Block.bytes]

theorem separated_of_mem_blocksFrom {progress : List (List UInt8)}
    {content stream : List UInt8} {block : Block}
    (separated : Block.Separated ⟨progress, content⟩)
    (member : block ∈ blocksFrom progress content stream) :
    block.Separated := by
  have empty : Block.Separated ⟨[], []⟩ := by
    intro line inside
    simp_all
  induction stream generalizing progress content with
  | nil =>
      rw [blocksFrom, List.mem_singleton] at member
      rw [member]
      exact separated
  | cons byte rest ih =>
      rw [blocksFrom] at member
      split at member
      · rcases List.mem_cons.mp member with same | later
        · rw [same]
          exact separated
        · exact ih empty later
      · rename_i noFeed
        split at member
        · refine ih ?_ member
          intro line inside
          have cases : line ∈ progress ++ [content] ∨ line = [] := by
            simpa [or_assoc] using inside
          rcases cases with before | blank
          · exact separated line before
          · simp [blank]
        · rename_i noReturn
          refine ih ?_ member
          intro line inside
          rcases List.mem_append.mp inside with before | last
          · exact separated line (List.mem_append_left _ before)
          · have old := separated content (by simp)
            rw [List.mem_singleton.mp last]
            simp [old.1, old.2, Ne.symm noFeed, Ne.symm noReturn]

theorem blocksOf_blocksFrom (stream : List UInt8) :
    BlocksOf stream (blocksFrom [] [] stream) where
  nonempty := blocksFrom_ne_nil [] [] stream
  separated block member := by
    refine separated_of_mem_blocksFrom ?_ member
    intro line inside
    simp_all
  bytes := by
    rw [bytes_blocksFrom]
    rfl

/-! ## One block -/

section Reports

variable {τ : Type} {decoder : TextDecoder} {tooSoon : τ → τ → Bool}
  {clock : Nat → τ} {state : LineAccumulator τ}
  {seen kept : List (List UInt8)} {waiting : Option (List UInt8)}
  {content : List UInt8} {front : List String}

theorem nonempty_append_singleton {line : List UInt8} (visible : line ≠ []) :
    nonempty (seen ++ [line]) = nonempty seen ++ [line] := by
  simp [nonempty, visible]

theorem lineText_eq_empty_iff :
    lineText decoder content = "" ↔ content = [] := by
  rw [lineText]
  split
  · exact decoder.decoding_eq_empty_iff content
  · rename_i long
    constructor
    · intro blank
      have marked := (String.append_eq_empty_iff.mp blank).2
      exact absurd marked (by decide)
    · intro blank
      rw [blank] at long
      exact absurd (Nat.zero_le _) long

/-- Where the accumulator stands in a block: `seen` are the progress lines so
far, of which `kept` are emitted and `waiting` is pending, and `content` is the
line up to here. -/
structure Within (decoder : TextDecoder) (seen kept : List (List UInt8))
    (waiting : Option (List UInt8)) (content : List UInt8)
    (front : List String) (state : LineAccumulator τ) : Prop where
  partialLine : state.partialLine = content.take maxLineBytes
  truncated : state.lineTruncated = decide (maxLineBytes < content.length)
  pending : state.pendingProgress = waiting.map (lineText decoder)
  emitted : state.emitted = front ++ kept.map (lineText decoder)
  inOrder : (kept ++ waiting.toList).Sublist (nonempty seen)
  lastKept : (kept ++ waiting.toList).getLast? = (nonempty seen).getLast?

theorem takenLine_eq (within : Within decoder seen kept waiting content front
    state) : state.takenLine decoder = lineText decoder content := by
  rw [takenLine, lineText, within.partialLine, within.truncated]
  by_cases short : content.length ≤ maxLineBytes
  · have fits : ¬ maxLineBytes < content.length := by omega
    simp [short, fits, List.take_of_length_le short]
  · have long : maxLineBytes < content.length := by omega
    have cut : (content.take maxLineBytes).take
          (maxLineBytes - truncationMarker.utf8ByteSize) =
        content.take (maxLineBytes - truncationMarker.utf8ByteSize) := by
      rw [List.take_take, Nat.min_eq_left (Nat.sub_le _ _)]
    simp only [long, decide_true, if_true, cut, short, if_false]

theorem within_lineTaken (within : Within decoder seen kept waiting content
    front state) :
    Within decoder seen kept waiting [] front state.lineTaken where
  partialLine := rfl
  truncated := rfl
  pending := within.pending
  emitted := within.emitted
  inOrder := within.inOrder
  lastKept := within.lastKept

variable (clock) in
theorem within_emitPendingProgress (within : Within decoder seen kept waiting
    content front state) :
    Within decoder seen (kept ++ waiting.toList) none content front
      (state.emitPendingProgress clock) := by
  rw [emitPendingProgress, within.pending]
  cases waiting with
  | none => simpa using within
  | some line =>
      exact {
        partialLine := within.partialLine
        truncated := within.truncated
        pending := rfl
        emitted := by
          simp [onLine, within.emitted]
        inOrder := by simpa using within.inOrder
        lastKept := by simpa using within.lastKept }

theorem within_emitProgress (visible : content ≠ [])
    (within : Within decoder seen kept waiting [] front state) :
    ∃ kept waiting, Within decoder (seen ++ [content]) kept waiting [] front
      (state.emitProgress tooSoon clock (lineText decoder content)) := by
  have shorter : kept.Sublist (nonempty seen) :=
    (List.sublist_append_left kept _).trans within.inOrder
  have longer : (kept ++ [content]).Sublist (nonempty (seen ++ [content])) := by
    rw [nonempty_append_singleton visible]
    exact shorter.append (List.Sublist.refl _)
  have last : (kept ++ [content]).getLast? =
      (nonempty (seen ++ [content])).getLast? := by
    rw [nonempty_append_singleton visible]
    simp
  rw [emitProgress]
  split
  · refine ⟨kept, some content, ?_⟩
    exact {
      partialLine := within.partialLine
      truncated := within.truncated
      pending := rfl
      emitted := within.emitted
      inOrder := longer
      lastKept := last }
  · refine ⟨kept ++ [content], none, ?_⟩
    exact {
      partialLine := within.partialLine
      truncated := within.truncated
      pending := rfl
      emitted := by simp [onLine, within.emitted]
      inOrder := by simpa using longer
      lastKept := by simpa using last }

theorem reported_of_within (within : Within decoder seen kept waiting content
    front state) :
    Reported decoder ⟨seen, content⟩
      ((kept ++ waiting.toList ++ nonempty [content]).map
        (lineText decoder)) :=
  ⟨kept ++ waiting.toList, within.inOrder, within.lastKept, rfl⟩

theorem emitted_line (content : List UInt8)
    (within : Within decoder seen kept none [] front state) :
    (if lineText decoder content ≠ "" then
        state.onLine (lineText decoder content) else state).emitted =
      front ++ (kept ++ nonempty [content]).map (lineText decoder) := by
  by_cases blank : content = []
  · have silent : lineText decoder content = "" :=
      lineText_eq_empty_iff.mpr blank
    rw [if_neg (not_not.mpr silent), within.emitted, blank]
    simp [nonempty]
  · have visible : lineText decoder content ≠ "" :=
      mt lineText_eq_empty_iff.mp blank
    rw [if_pos visible, onLine]
    simp [within.emitted, nonempty, blank]

/-! ## Whole streams -/

variable (tooSoon clock) in
theorem within_lineFeed (within : Within decoder seen kept waiting content
    front state) :
    Within decoder [] [] none []
      (front ++ (kept ++ waiting.toList ++ nonempty [content]).map
        (lineText decoder))
      (state.appendByte decoder tooSoon clock lineFeed) := by
  have taken := takenLine_eq within
  have idle := within_emitPendingProgress clock
    (within_lineTaken within)
  have reported := emitted_line content idle
  have step : state.appendByte decoder tooSoon clock lineFeed =
      if lineText decoder content ≠ "" then
        (state.lineTaken.emitPendingProgress clock).onLine
          (lineText decoder content)
      else
        state.lineTaken.emitPendingProgress clock := by
    rw [appendByte, if_pos (.inl rfl), if_neg (by decide), taken]
  rw [step]
  exact {
    partialLine := by split <;> exact idle.partialLine
    truncated := by split <;> exact idle.truncated
    pending := by split <;> exact idle.pending
    emitted := by simpa using reported
    inOrder := List.Sublist.refl _
    lastKept := rfl }

variable (tooSoon clock) in
theorem within_carriageReturn (within : Within decoder seen kept waiting
    content front state) :
    ∃ kept waiting, Within decoder (seen ++ [content]) kept waiting [] front
      (state.appendByte decoder tooSoon clock carriageReturn) := by
  have taken := takenLine_eq within
  have idle := within_lineTaken within
  have step : state.appendByte decoder tooSoon clock carriageReturn =
      if lineText decoder content ≠ "" then
        state.lineTaken.emitProgress tooSoon clock (lineText decoder content)
      else
        state.lineTaken := by
    rw [appendByte, if_pos (.inr rfl), if_pos rfl, taken]
  rw [step]
  by_cases blank : content = []
  · have same : nonempty (seen ++ [content]) = nonempty seen := by
      simp [nonempty, blank]
    rw [if_neg (not_not.mpr (lineText_eq_empty_iff.mpr blank))]
    exact ⟨kept, waiting, {
      partialLine := idle.partialLine
      truncated := idle.truncated
      pending := idle.pending
      emitted := idle.emitted
      inOrder := same ▸ idle.inOrder
      lastKept := same ▸ idle.lastKept }⟩
  · rw [if_pos (mt lineText_eq_empty_iff.mp blank)]
    exact within_emitProgress blank idle

theorem within_byte {byte : UInt8} (noFeed : byte ≠ lineFeed)
    (noReturn : byte ≠ carriageReturn)
    (within : Within decoder seen kept waiting content front state) :
    Within decoder seen kept waiting (content ++ [byte]) front
      (state.appendByte decoder tooSoon clock byte) := by
  have size : state.partialLine.length =
      min maxLineBytes content.length := by
    rw [within.partialLine, List.length_take]
  rw [appendByte, if_neg (by simp [noFeed, noReturn])]
  split
  · rename_i room
    have short : content.length < maxLineBytes := by omega
    exact {
      partialLine := by
        rw [within.partialLine, List.take_of_length_le (by omega),
          List.take_of_length_le (by simp; omega)]
      truncated := by
        rw [within.truncated]
        simp only [List.length_append, List.length_singleton]
        exact decide_eq_decide.mpr (by omega)
      pending := within.pending
      emitted := within.emitted
      inOrder := within.inOrder
      lastKept := within.lastKept }
  · rename_i full
    have long : maxLineBytes ≤ content.length := by omega
    exact {
      partialLine := by
        rw [within.partialLine, List.take_append_of_le_length long]
      truncated := by simp; omega
      pending := within.pending
      emitted := within.emitted
      inOrder := within.inOrder
      lastKept := within.lastKept }

theorem emitted_flush (within : Within decoder seen kept waiting content
    front state) :
    (state.flush decoder clock).emitted =
      front ++ (kept ++ waiting.toList ++ nonempty [content]).map
        (lineText decoder) := by
  have idle := within_emitPendingProgress clock within
  have reported := emitted_line content (within_lineTaken idle)
  have step : state.flush decoder clock =
      if lineText decoder content ≠ "" then
        (state.emitPendingProgress clock).lineTaken.onLine
          (lineText decoder content)
      else
        (state.emitPendingProgress clock).lineTaken := by
    rw [flush, takenLine_eq idle]
  rw [step, reported]

/-- From anywhere in a block, the rest of the stream reports this block and
all later ones. -/
theorem reports_of_within (stream : List UInt8)
    (within : Within decoder seen kept waiting content front state) :
    ∃ reports,
      List.Forall₂ (Reported decoder) (blocksFrom seen content stream)
        reports ∧
      ((state.append decoder tooSoon clock stream).flush decoder
        clock).emitted = front ++ reports.flatten := by
  induction stream generalizing state seen kept waiting content front with
  | nil =>
      refine ⟨[_], List.Forall₂.cons (reported_of_within within) .nil, ?_⟩
      rw [append, List.foldl_nil, emitted_flush within, List.flatten_singleton]
  | cons byte rest ih =>
      rw [append, List.foldl_cons, blocksFrom]
      by_cases feeds : byte = lineFeed
      · obtain ⟨reports, later, emitted⟩ := ih
          (within_lineFeed tooSoon clock within)
        rw [if_pos feeds, feeds]
        refine ⟨_ :: reports, .cons (reported_of_within within) later, ?_⟩
        rw [List.flatten_cons, ← List.append_assoc]
        exact emitted
      · rw [if_neg feeds]
        by_cases returns : byte = carriageReturn
        · obtain ⟨kept, waiting, next⟩ := within_carriageReturn
            tooSoon clock within
          rw [if_pos returns, returns]
          exact ih next
        · rw [if_neg returns]
          exact ih (within_byte feeds returns within)

theorem append_append (state : LineAccumulator τ) (front back : List UInt8) :
    (state.append decoder tooSoon clock front).append decoder tooSoon clock
        back =
      state.append decoder tooSoon clock (front ++ back) := by
  simp only [append, List.foldl_append]

theorem foldl_append (state : LineAccumulator τ)
    (chunks : List (List UInt8)) :
    chunks.foldl (append decoder tooSoon clock) state =
      state.append decoder tooSoon clock chunks.flatten := by
  induction chunks generalizing state with
  | nil => rfl
  | cons chunk rest ih =>
      rw [List.foldl_cons, ih, append_append,
        List.flatten_cons]

end Reports

/-- Every block of the stream is reported, whatever the chunks and the clock
readings are. -/
theorem emittedLines_reported {τ : Type} (decoder : TextDecoder)
    (tooSoon : τ → τ → Bool) (clock : Nat → τ)
    (chunks : List (List UInt8)) :
    (∃ blocks reports, BlocksOf chunks.flatten blocks ∧
      List.Forall₂ (Reported decoder) blocks reports ∧
      emittedLines decoder tooSoon clock chunks = reports.flatten) ∧
    emittedLines decoder tooSoon clock chunks =
      emittedLines decoder tooSoon clock [chunks.flatten] := by
  have start : Within decoder [] [] none [] []
      ({} : LineAccumulator τ) := {
    partialLine := rfl
    truncated := rfl
    pending := rfl
    emitted := rfl
    inOrder := List.Sublist.refl _
    lastKept := rfl }
  constructor
  · rw [emittedLines, foldl_append]
    exact ⟨_, _, blocksOf_blocksFrom _,
      (reports_of_within chunks.flatten start).choose_spec⟩
  · rw [emittedLines, emittedLines, foldl_append, foldl_append,
      List.flatten_singleton]

end LineAccumulator

end Vzctl
