import Vzctl.Supervisor.RestHTTP

/-!
# Which requests end the supervisor

The parser slices by hand.  Every slice is within bounds but three: an escape
with one Character after its percent sign, a query pair of equals signs alone,
and a negative announced length.
-/

namespace Vzctl

open Positions

namespace RestHTTP

variable {unicode : Unicode}

/-! ## Conditions -/

/-- The last percent sign is followed by exactly one Character. -/
def CutEscape (value : Text) : Prop :=
  ∃ front last, value = front ++ ["%", last]

def PairReads (pair : Text) : Prop :=
  (∃ tested ∈ pair, tested ≠ "=") ∧
    ∀ piece ∈ pairPieces pair, ¬ CutEscape piece

def TargetReads (target : Text) : Prop :=
  ∀ q, target.findIdx? (· = "?") = some q →
    ∀ pair ∈ queryPairs (target.drop (q + 1)), PairReads pair

def withHeader (unicode : Unicode) (headers : Dictionary String)
    (line : Text) : Dictionary String :=
  match line.findIdx? (· = ":") with
  | none => headers
  | some colon =>
      headers.insert
        (unicode.canonical
          (unicode.lowercased (unicode.trimmed (String.join (line.take colon)))))
        (unicode.trimmed (String.join (line.drop (colon + 1))))

def headerFields (unicode : Unicode) (fields : List Text) :
    Dictionary String :=
  fields.foldl (withHeader unicode) ∅

/-- The first place of an empty line. -/
def HeaderEnds (data : List UInt8) (i : Nat) : Prop :=
  [0x0D, 0x0A, 0x0D, 0x0A] <+: data.drop i ∧
    ∀ earlier < i, ¬ [0x0D, 0x0A, 0x0D, 0x0A] <+: data.drop earlier

def MessageReads (unicode : Unicode) (lines : List Text) : Prop :=
  ∀ requestLine fields target, lines = requestLine :: fields →
    (split (· = " ") none true requestLine)[1]? = some target →
    TargetReads target ∧
      ∀ length, contentLength (headerFields unicode fields) = some length →
        0 ≤ length

def RequestReads (unicode : Unicode) (data : List UInt8) : Prop :=
  ∀ headerEnd headerText, HeaderEnds data headerEnd →
    unicode.decoded (data.take headerEnd) = some headerText →
    MessageReads unicode (headerLines headerText)

/-! ## Escapes -/

theorem parseDigits_of_percent {radix : Nat} {digits : List Char}
    (small : radix ≤ 36) (member : '%' ∈ digits) :
    parseDigits radix digits = none := by
  have undigit : digitValue '%' = 36 := by decide
  rw [parseDigits]
  split
  · rfl
  · refine if_neg fun valid => ?_
    have below := of_decide_eq_true (List.all_eq_true.mp valid _ member)
    omega

theorem parseByte_of_percent {hex : Text}
    (member : '%' ∈ (String.join hex).toList) : parseByte hex = none := by
  rw [parseByte, parseInteger]
  generalize (String.join hex).toList = digits at member
  have parsed : ∀ rest : List Char, '%' ∈ rest →
      parseDigits 16 rest = none :=
    fun rest held => parseDigits_of_percent (by decide) held
  split
  · rename_i rest
    rw [parsed rest ((List.mem_cons.mp member).resolve_left (by decide))]
    rfl
  · rename_i rest
    rw [parsed rest ((List.mem_cons.mp member).resolve_left (by decide))]
    rfl
  · rw [parsed _ member]
    rfl

theorem toList_join_pair (first second : String) :
    (String.join [first, second]).toList = first.toList ++ second.toList := by
  simp [String.join]

theorem escape_slice {value : Text} {i : Nat} (within : i + 2 < value.length) :
    (value.take (i + 2 + 1)).drop (i + 1) =
      [value[i + 1], value[i + 2]] := by
  refine List.ext_getElem ?_ ?_
  · rw [List.length_drop, List.length_take, List.length_cons,
      List.length_singleton]
    omega
  · intro position before _
    rw [List.getElem_drop, List.getElem_take]
    match position with
    | 0 => rfl
    | 1 => rfl
    | position + 2 =>
        rw [List.length_drop, List.length_take] at before
        omega

theorem escapeAt_cases {value : Text} {i : Nat} (inside : i < value.length) :
    (escapeAt value value[i] i = .error .indexOutOfBounds ∧
        value[i] = "%" ∧ i + 2 = value.length) ∨
      (∃ byte, escapeAt value value[i] i = .ok (some byte) ∧
        ∃ within : i + 2 < value.length,
          value[i + 1] ≠ "%" ∧ value[i + 2] ≠ "%") ∨
      (escapeAt value value[i] i = .ok none ∧
        ¬ (value[i] = "%" ∧ i + 2 = value.length)) := by
  by_cases starts : value[i] = "%" ∧ i + 2 ≤ value.length
  · have limited : (indexLimited value i 2).isSome = true := by
      rw [indexLimited, if_pos starts.2]
      rfl
    have unfolded : escapeAt value value[i] i =
        (closedSlice value (i + 1) (i + 2) >>= fun hex =>
          (parseByte hex).elim (pure none) fun byte =>
            indexOffset value i 3 >>= fun _ => pure (some byte)) := by
      rw [escapeAt, if_pos ⟨starts.1, limited⟩, indexAfter_of_lt inside,
        indexOffset_of_le starts.2]
      refine congrArg (closedSlice value (i + 1) (i + 2) >>= ·)
        (funext fun hex => ?_)
      cases parseByte hex <;> rfl
    rcases Nat.lt_or_eq_of_le starts.2 with within | atEnd
    · right
      rw [closedSlice_of_lt (by omega) within, escape_slice within] at unfolded
      cases parsed : parseByte [value[i + 1], value[i + 2]] with
      | none =>
          right
          refine ⟨?_, by omega⟩
          rw [unfolded]
          simp only [Bind.bind, Except.bind, parsed]
          rfl
      | some byte =>
          left
          have offset : indexOffset value i 3 = .ok (i + 3) :=
            indexOffset_of_le (by omega)
          refine ⟨byte, ?_, within, ?_, ?_⟩
          · rw [unfolded]
            simp only [Bind.bind, Except.bind, parsed, offset]
            rfl
          · intro percent
            rw [percent, parseByte_of_percent (by
              rw [toList_join_pair]
              exact List.mem_append_left _ (by decide))] at parsed
            cases parsed
          · intro percent
            rw [percent, parseByte_of_percent (by
              rw [toList_join_pair]
              exact List.mem_append_right _ (by decide))] at parsed
            cases parsed
    · left
      refine ⟨?_, starts.1, atEnd⟩
      rw [unfolded, closedSlice_of_length atEnd]
      rfl
  · right
    right
    constructor
    · rw [escapeAt]
      refine if_neg fun both => starts ⟨both.1, ?_⟩
      have limited := both.2
      rw [indexLimited] at limited
      split at limited
      · assumption
      · cases limited
    · rintro ⟨percent, atEnd⟩
      exact starts ⟨percent, by omega⟩

/-- A cut escape starts at `i` or later. -/
def CutFrom (value : Text) (i : Nat) : Prop :=
  i + 2 ≤ value.length ∧ value[value.length - 2]? = some "%"

theorem cutFrom_zero_iff {value : Text} :
    CutFrom value 0 ↔ CutEscape value := by
  constructor
  · rintro ⟨long, percent⟩
    obtain ⟨inside, found⟩ := List.getElem?_eq_some_iff.mp percent
    refine ⟨value.take (value.length - 2), value[value.length - 1], ?_⟩
    have back : value.drop (value.length - 2) =
        ["%", value[value.length - 1]] := by
      refine List.ext_getElem ?_ ?_
      · rw [List.length_drop, List.length_cons, List.length_singleton]
        omega
      · intro position before _
        rw [List.getElem_drop]
        match position with
        | 0 => exact found
        | 1 =>
            have next : value.length - 2 + 1 = value.length - 1 := by omega
            exact getElem_congr_idx next
        | position + 2 =>
            rw [List.length_drop] at before
            omega
    rw [← back, List.take_append_drop]
  · rintro ⟨front, last, rfl⟩
    have long : (front ++ ["%", last]).length = front.length + 2 := by
      rw [List.length_append, List.length_cons, List.length_singleton]
    refine ⟨by omega, ?_⟩
    rw [long, Nat.add_sub_cancel, List.getElem?_append_right (Nat.le_refl _),
      Nat.sub_self]
    rfl

theorem cutFrom_step {value : Text} {i : Nat} (width : Nat)
    (inside : i < value.length)
    (clear : ∀ position, i ≤ position → position < i + width →
      ∀ here : position < value.length,
        ¬ (value[position] = "%" ∧ position + 2 = value.length)) :
    CutFrom value (i + width) ↔ CutFrom value i := by
  constructor
  · rintro ⟨long, percent⟩
    exact ⟨by omega, percent⟩
  · rintro ⟨long, percent⟩
    refine ⟨?_, percent⟩
    by_contra short
    obtain ⟨here, found⟩ := List.getElem?_eq_some_iff.mp percent
    exact clear (value.length - 2) (by omega) (by omega) here
      ⟨found, by omega⟩

theorem returns_percentDecodeFrom_iff (value : Text) (result : String)
    (i : Nat) :
    Returns (percentDecodeFrom value result i) ↔ ¬ CutFrom value i := by
  rw [percentDecodeFrom]
  split
  · rename_i inside
    rw [element_of_lt inside]
    change Returns (escapeAt value value[i] i >>= _) ↔ _
    rcases escapeAt_cases inside with
      ⟨escaped, percent, atEnd⟩ | ⟨byte, escaped, within, first, second⟩ |
      ⟨escaped, plain⟩
    · rw [escaped]
      refine iff_of_false (not_returns_error _) fun uncut => uncut ?_
      refine ⟨by omega, ?_⟩
      have same : value.length - 2 = i := by omega
      rw [same, List.getElem?_eq_getElem inside, percent]
    · rw [escaped, ← cutFrom_step 3 inside]
      · exact returns_percentDecodeFrom_iff value _ (i + 3)
      · intro position after before here
        rintro ⟨percent, atEnd⟩
        have cases : position = i ∨ position = i + 1 ∨ position = i + 2 := by
          omega
        rcases cases with rfl | rfl | rfl
        · omega
        · exact first percent
        · exact second percent
    · rw [escaped, ← cutFrom_step 1 inside]
      · change Returns (indexAfter value i >>= _) ↔ _
        rw [indexAfter_of_lt inside]
        exact returns_percentDecodeFrom_iff value _ (i + 1)
      · intro position after before here
        have same : position = i := by omega
        subst same
        exact plain
  · rename_i outside
    refine iff_of_true (returns_ok _) fun cut => outside ?_
    have long := cut.1
    omega
termination_by value.length - i

theorem returns_percentDecode_iff (value : Text) :
    Returns (percentDecode value) ↔ ¬ CutEscape value := by
  rw [percentDecode, returns_percentDecodeFrom_iff, cutFrom_zero_iff]

theorem returns_pathSegments_iff (path : Text) :
    Returns (pathSegments path) ↔
      ∀ segment ∈ split (· = "/") none true path, ¬ CutEscape segment :=
  returns_mapM_iff returns_percentDecode_iff _

/-! ## Targets -/

theorem pairPieces_eq_nil_iff {pair : Text} :
    pairPieces pair = [] ↔ ∀ tested ∈ pair, tested = "=" := by
  rw [pairPieces, split, splitting_eq_nil_iff]
  constructor
  · rintro ⟨_, separators⟩ tested member
    exact of_decide_eq_true (separators tested member)
  · intro separators
    exact ⟨rfl, fun tested member => decide_eq_true (separators tested member)⟩

theorem returns_readPair_iff (query : Dictionary String) (pair : Text) :
    Returns (readPair unicode query pair) ↔ PairReads pair := by
  have some_iff : (∃ tested ∈ pair, tested ≠ "=") ↔ pairPieces pair ≠ [] := by
    rw [Ne, pairPieces_eq_nil_iff]
    push Not
    rfl
  have few : (pairPieces pair).length ≤ 2 := length_splitting_one_le
  rw [PairReads, some_iff, readPair]
  match pieces : pairPieces pair with
  | [] =>
      exact iff_of_false (not_returns_error _) fun held => held.1 rfl
  | [only] =>
      change Returns (percentDecode only >>= fun _ => .ok _) ↔ _
      rw [returns_bind_iff_of_forall fun key => returns_ok _,
        returns_percentDecode_iff, List.forall_mem_singleton]
      exact ⟨fun uncut => ⟨List.cons_ne_nil _ _, uncut⟩, fun held => held.2⟩
  | [first, second] =>
      change Returns (percentDecode first >>= fun _ =>
        percentDecode second >>= fun _ => .ok _) ↔ _
      rw [returns_bind_iff_and fun key => returns_bind_iff_of_forall
          fun value => returns_ok _,
        returns_percentDecode_iff, returns_percentDecode_iff,
        List.forall_mem_cons, List.forall_mem_singleton]
      exact ⟨fun uncut => ⟨List.cons_ne_nil _ _, uncut⟩, fun held => held.2⟩
  | first :: second :: third :: rest =>
      rw [pieces, List.length_cons, List.length_cons, List.length_cons] at few
      omega

theorem lt_of_findIdx? {text : Text} {tested : String → Bool} {index : Nat}
    (found : text.findIdx? tested = some index) : index < text.length :=
  (List.findIdx?_eq_some_iff_getElem.mp found).1

theorem returns_splitTarget_iff (target : Text) :
    Returns (splitTarget unicode target) ↔ TargetReads target := by
  rw [splitTarget, TargetReads]
  cases found : target.findIdx? (· = "?") with
  | none =>
      refine iff_of_true (returns_ok _) fun q impossible => ?_
      cases impossible
  | some q =>
      have inside := lt_of_findIdx? found
      change Returns (slice target 0 q >>= fun path => _) ↔ _
      rw [slice_of_le (Nat.zero_le q) (by omega)]
      change Returns (indexAfter target q >>= _) ↔ _
      rw [indexAfter_of_lt inside]
      change Returns (slice target (q + 1) target.length >>= _) ↔ _
      rw [slice_to_end inside]
      change Returns ((queryPairs (target.drop (q + 1))).foldlM
        (readPair unicode) ∅ >>= fun query => .ok _) ↔ _
      rw [returns_bind_iff_of_forall fun query => returns_ok _,
        returns_foldlM_iff returns_readPair_iff]
      constructor
      · intro read other same
        rw [← Option.some.inj same]
        exact read
      · intro read
        exact read q rfl

/-! ## Messages -/

theorem readHeader_eq (headers : Dictionary String) (line : Text) :
    readHeader unicode headers line = .ok (withHeader unicode headers line) := by
  rw [readHeader, withHeader]
  cases found : line.findIdx? (· = ":") with
  | none => rfl
  | some colon =>
      have inside := lt_of_findIdx? found
      change (slice line 0 colon >>= fun name => _) = _
      rw [slice_of_le (Nat.zero_le colon) (by omega)]
      change (indexAfter line colon >>= _) = _
      rw [indexAfter_of_lt inside]
      change (slice line (colon + 1) line.length >>= _) = _
      rw [slice_to_end inside]
      rfl

theorem foldlM_readHeader (fields : List Text)
    (headers : Dictionary String) :
    fields.foldlM (readHeader unicode) headers =
      .ok (fields.foldl (withHeader unicode) headers) := by
  induction fields generalizing headers with
  | nil => rfl
  | cons line rest ih =>
      rw [List.foldlM_cons, readHeader_eq]
      exact ih _

theorem returns_readBody_iff (headers : Dictionary String)
    (body : List UInt8) :
    Returns (readBody headers body) ↔
      ∀ length, contentLength headers = some length → 0 ≤ length := by
  rw [readBody]
  cases announced : contentLength headers with
  | none =>
      refine iff_of_true (returns_ok _) fun length impossible => ?_
      cases impossible
  | some length =>
      have natural_iff : (∀ other, some length = some other → 0 ≤ other) ↔
          0 ≤ length :=
        ⟨fun held => held length rfl,
          fun held other same => Option.some.inj same ▸ held⟩
      rw [natural_iff]
      change Returns (if length < body.length then
        firstElements body length >>= fun bodyData => .ok _
        else .ok _) ↔ _
      split
      · rw [returns_bind_iff_of_forall fun bodyData => returns_ok _]
        exact returns_firstElements_iff
      · rename_i long
        refine iff_of_true (returns_ok _) ?_
        omega

theorem returns_readMessage_iff (lines : List Text) (body : List UInt8) :
    Returns (readMessage unicode lines body) ↔ MessageReads unicode lines := by
  rw [MessageReads]
  match lines with
  | [] =>
      refine iff_of_true (returns_ok _) ?_
      intro requestLine fields target impossible
      cases impossible
  | requestLine :: fields =>
      rw [readMessage]
      match parts : split (· = " ") none true requestLine with
      | [] | [_] =>
          refine iff_of_true (returns_ok _) ?_
          intro otherLine otherFields target same found
          cases same
          rw [parts] at found
          cases found
      | method :: target :: rest =>
          rw [if_neg (by
            rw [List.length_cons, List.length_cons]
            omega)]
          change Returns (splitTarget unicode target >>= fun split =>
            fields.foldlM (readHeader unicode) ∅ >>= fun headers =>
              readBody headers body >>= fun bodyData => .ok _) ↔ _
          rw [foldlM_readHeader]
          change Returns (splitTarget unicode target >>= fun split =>
            readBody (headerFields unicode fields) body >>=
              fun bodyData => .ok _) ↔ _
          rw [returns_bind_iff_and fun split =>
            (returns_bind_iff_of_forall fun bodyData => returns_ok _).trans
              (returns_readBody_iff (headerFields unicode fields) body),
            returns_splitTarget_iff]
          constructor
          · intro held otherLine otherFields other same found
            cases same
            rw [parts] at found
            cases found
            exact held
          · intro held
            exact held requestLine fields target rfl (by rw [parts]; rfl)

/-! ## The end of the header -/

def EmptyLineAt (data : List UInt8) (i : Nat) : Prop :=
  [0x0D, 0x0A, 0x0D, 0x0A] <+: data.drop i

theorem lt_of_emptyLineAt {data : List UInt8} {i : Nat}
    (stands : EmptyLineAt data i) : i + 3 < data.length := by
  have long := stands.length_le
  rw [List.length_drop, List.length_cons, List.length_cons, List.length_cons,
    List.length_singleton] at long
  omega

theorem emptyLineAt_iff {data : List UInt8} {i : Nat}
    (within : i + 3 < data.length) :
    EmptyLineAt data i ↔ data[i] = 0x0D ∧ data[i + 1] = 0x0A ∧
      data[i + 2] = 0x0D ∧ data[i + 3] = 0x0A := by
  rw [EmptyLineAt, List.drop_eq_getElem_cons (by omega),
    List.drop_eq_getElem_cons (by omega),
    List.drop_eq_getElem_cons (by omega),
    List.drop_eq_getElem_cons (by omega), List.cons_prefix_cons,
    List.cons_prefix_cons, List.cons_prefix_cons, List.cons_prefix_cons]
  constructor
  · rintro ⟨first, second, third, fourth, _⟩
    exact ⟨first.symm, second.symm, third.symm, fourth.symm⟩
  · rintro ⟨first, second, third, fourth⟩
    exact ⟨first.symm, second.symm, third.symm, fourth.symm,
      List.nil_prefix⟩

theorem patternAt_eq (data : List UInt8) (i : Nat)
    (within : i + 3 < data.length) :
    ∃ stands, patternAt data i = .ok stands ∧
      (stands = true ↔ EmptyLineAt data i) := by
  rw [patternAt, element_of_lt (by omega), emptyLineAt_iff within]
  by_cases first : data[i] = 0x0D
  · by_cases second : data[i + 1] = 0x0A
    · by_cases third : data[i + 2] = 0x0D
      · refine ⟨decide (data[i + 3] = 0x0A), ?_, ?_⟩
        · change (if data[i] ≠ 0x0D then _ else _) = _
          rw [if_neg (not_not_intro first), element_of_lt (by omega)]
          change (if data[i + 1] ≠ 0x0A then _ else _) = _
          rw [if_neg (not_not_intro second), element_of_lt (by omega)]
          change (if data[i + 2] ≠ 0x0D then _ else _) = _
          rw [if_neg (not_not_intro third), element_of_lt within]
          rfl
        · rw [decide_eq_true_iff]
          exact ⟨fun fourth => ⟨first, second, third, fourth⟩,
            fun held => held.2.2.2⟩
      · refine ⟨false, ?_, iff_of_false Bool.false_ne_true
          fun held => third held.2.2.1⟩
        change (if data[i] ≠ 0x0D then _ else _) = _
        rw [if_neg (not_not_intro first), element_of_lt (by omega)]
        change (if data[i + 1] ≠ 0x0A then _ else _) = _
        rw [if_neg (not_not_intro second), element_of_lt (by omega)]
        exact if_pos third
    · refine ⟨false, ?_, iff_of_false Bool.false_ne_true
        fun held => second held.2.1⟩
      change (if data[i] ≠ 0x0D then _ else _) = _
      rw [if_neg (not_not_intro first), element_of_lt (by omega)]
      exact if_pos second
  · exact ⟨false, if_pos first, iff_of_false Bool.false_ne_true
      fun held => first held.1⟩

theorem findHeaderEndFrom_eq (data : List UInt8) (i remaining : Nat)
    (within : i + remaining + 3 ≤ data.length) :
    ∃ found, findHeaderEndFrom data i remaining = .ok found ∧
      ∀ place, found = some place ↔
        i ≤ place ∧ place < i + remaining ∧ EmptyLineAt data place ∧
          ∀ earlier < place, i ≤ earlier → ¬ EmptyLineAt data earlier := by
  induction remaining generalizing i with
  | zero =>
      refine ⟨none, rfl, fun place => iff_of_false (by simp) ?_⟩
      rintro ⟨after, before, _⟩
      omega
  | succ remaining ih =>
      obtain ⟨stands, tested, stands_iff⟩ :=
        patternAt_eq data i (by omega)
      rw [findHeaderEndFrom, tested]
      cases stands with
      | true =>
          have here := stands_iff.mp rfl
          refine ⟨some i, rfl, fun place => ?_⟩
          constructor
          · intro same
            cases same
            exact ⟨Nat.le_refl _, by omega, here, fun earlier before after => by
              omega⟩
          · rintro ⟨after, before, _, first⟩
            rcases Nat.lt_or_eq_of_le after with later | same
            · exact absurd here (first i later (Nat.le_refl _))
            · rw [same]
      | false =>
          have absent : ¬ EmptyLineAt data i :=
            fun here => Bool.false_ne_true (stands_iff.mpr here)
          obtain ⟨found, performed, found_iff⟩ :=
            ih (i + 1) (by omega)
          refine ⟨found, performed, fun place => ?_⟩
          rw [found_iff]
          constructor
          · rintro ⟨after, before, here, first⟩
            refine ⟨by omega, by omega, here, fun earlier sooner later => ?_⟩
            rcases Nat.lt_or_eq_of_le later with next | same
            · exact first earlier sooner next
            · rw [← same]
              exact absent
          · rintro ⟨after, before, here, first⟩
            have other : i ≠ place := fun same => absent (same ▸ here)
            exact ⟨by omega, by omega, here,
              fun earlier sooner later => first earlier sooner (by omega)⟩

theorem findHeaderEnd_eq (data : List UInt8) :
    ∃ found, findHeaderEnd data = .ok found ∧
      ∀ place, found = some place ↔ HeaderEnds data place := by
  rw [findHeaderEnd]
  split
  · rename_i short
    refine ⟨none, rfl, fun place => iff_of_false (by simp) fun ends => ?_⟩
    have long := lt_of_emptyLineAt ends.1
    omega
  · obtain ⟨found, performed, found_iff⟩ :=
      findHeaderEndFrom_eq data 0 (data.length - 3) (by omega)
    refine ⟨found, performed, fun place => ?_⟩
    rw [found_iff]
    constructor
    · rintro ⟨_, _, here, first⟩
      exact ⟨here, fun earlier sooner => first earlier sooner (Nat.zero_le _)⟩
    · rintro ⟨here, first⟩
      have inside := lt_of_emptyLineAt here
      exact ⟨Nat.zero_le _, by omega, here,
        fun earlier sooner _ => first earlier sooner⟩

theorem returns_parseRequest_iff (data : List UInt8) :
    Returns (parseRequest unicode data) ↔ RequestReads unicode data := by
  obtain ⟨found, performed, found_iff⟩ := findHeaderEnd_eq data
  rw [parseRequest, performed]
  cases found with
  | none =>
      refine iff_of_true (returns_ok _) ?_
      intro headerEnd headerText ends
      cases (found_iff headerEnd).mpr ends
  | some headerEnd =>
      have ends := (found_iff headerEnd).mp rfl
      have inside := lt_of_emptyLineAt ends.1
      change Returns (slice data 0 headerEnd >>= fun headerData => _) ↔ _
      rw [slice_of_le (Nat.zero_le headerEnd) (by omega)]
      have reads_iff : RequestReads unicode data ↔ ∀ headerText,
          unicode.decoded (data.take headerEnd) = some headerText →
            MessageReads unicode (headerLines headerText) := by
        constructor
        · intro reads headerText decoded
          exact reads headerEnd headerText ends decoded
        · intro reads other headerText otherEnds
          rw [Option.some.inj ((found_iff other).mpr otherEnds)] at reads
          exact reads headerText
      rw [reads_iff]
      cases decoded : unicode.decoded (data.take headerEnd) with
      | none =>
          refine iff_of_true ?_ fun headerText impossible => ?_
          · split
            · rw [slice_to_end (by omega)]
              simp only [Bind.bind, Except.bind, List.drop_zero, decoded]
              exact returns_ok _
            · simp only [Bind.bind, Except.bind, List.drop_zero, decoded]
              exact returns_ok _
          · cases impossible
      | some headerText =>
          have this_iff : MessageReads unicode (headerLines headerText) ↔
              ∀ other, some headerText = some other →
                MessageReads unicode (headerLines other) := by
            constructor
            · intro reads other same
              rw [← Option.some.inj same]
              exact reads
            · intro reads
              exact reads headerText rfl
          rw [← this_iff]
          split
          · rw [slice_to_end (by omega)]
            simp only [Bind.bind, Except.bind, List.drop_zero, decoded]
            exact returns_readMessage_iff _ _
          · simp only [Bind.bind, Except.bind, List.drop_zero, decoded]
            exact returns_readMessage_iff _ _

/-! ## The parser as a whole -/

/-- Each function returns exactly where its input has none of the three
shapes. -/
theorem parser_returns_iff (unicode : Unicode) :
    (∀ data, Returns (parseRequest unicode data) ↔
        RequestReads unicode data) ∧
      (∀ target, Returns (splitTarget unicode target) ↔
        TargetReads target) ∧
      (∀ value, Returns (percentDecode value) ↔ ¬ CutEscape value) ∧
      ∀ path, Returns (pathSegments path) ↔
        ∀ segment ∈ split (· = "/") none true path, ¬ CutEscape segment :=
  ⟨returns_parseRequest_iff, returns_splitTarget_iff,
    returns_percentDecode_iff, returns_pathSegments_iff⟩

/-! ## Three requests that end the supervisor -/

/-- The Characters of an ASCII text. -/
def asciiCharacters : List UInt8 → Text
  | 0x0D :: 0x0A :: rest => "\r\n" :: asciiCharacters rest
  | byte :: rest => (Char.ofNat byte.toNat).toString :: asciiCharacters rest
  | [] => []

def ascii : Unicode where
  decoded bytes :=
    if bytes.all (· < 0x80) then some (asciiCharacters bytes) else none
  trimmed text :=
    String.ofList ((text.toList.dropWhile (· = ' ')).reverse.dropWhile
      (· = ' ')).reverse
  lowercased text := String.ofList (text.toList.map Char.toLower)
  uppercased text := String.ofList (text.toList.map Char.toUpper)
  canonical text := text

def asciiBytes (text : String) : List UInt8 :=
  text.toList.map fun character => UInt8.ofNat character.toNat

def negativeLengthRequest : List UInt8 :=
  asciiBytes "GET / HTTP/1.1\r\nContent-Length: -1\r\n\r\n"

def emptyPairRequest : List UInt8 :=
  asciiBytes "GET /?= HTTP/1.1\r\n\r\n"

def cutEscapeRequest : List UInt8 :=
  asciiBytes "GET /?name=%4 HTTP/1.1\r\n\r\n"

theorem parser_traps :
    ¬ Returns (parseRequest ascii negativeLengthRequest) ∧
      ¬ Returns (parseRequest ascii emptyPairRequest) ∧
      ¬ Returns (parseRequest ascii cutEscapeRequest) ∧
      ¬ Returns (pathSegments ["/", "a", "%", "4"]) := by
  refine ⟨?_, ?_, ?_, ?_⟩
  · have violated : violation (parseRequest ascii negativeLengthRequest) =
        some .negativeLength := by rfl
    exact not_returns_of_violation violated
  · have violated : violation (parseRequest ascii emptyPairRequest) =
        some .indexOutOfBounds := by rfl
    exact not_returns_of_violation violated
  · have violated : violation (parseRequest ascii cutEscapeRequest) =
        some .indexOutOfBounds := by decide +kernel
    exact not_returns_of_violation violated
  · rw [returns_pathSegments_iff]
    intro uncut
    exact uncut ["a", "%", "4"] (by decide) ⟨["a"], "4", rfl⟩

end RestHTTP

end Vzctl
