import Vzctl.DNS.EchoedResponse
import Vzctl.Lib.Positions

/-!
# Names in DNS messages

The loop of `decodeName` with its variables and its checked reads.  It ends
after fewer rounds than the message has bytes, reads no byte outside of the
message, and gives back the name that `encodeDNSName` has written.
-/

namespace Vzctl

namespace DNS

open Positions

variable {decode : UTF8Decoder} {message : Bytes}

/-! ## The loop -/

/-- The variables of `decodeName`. -/
structure NameReader where
  labels : List String
  cursor : Nat
  jumped : Bool
  offset : Nat
  visited : List Nat

inductive NameRound where
  | returned (name : Option String) (offset : Nat)
  | continued (reader : NameReader)

namespace NameReader

/-- The variables before the first round. -/
def start (offset : Nat) : NameReader where
  labels := []
  cursor := offset
  jumped := false
  offset := offset
  visited := []

/-- The loop jumps to the target of a pointer. -/
def jump (reader : NameReader) (pointer : Nat) : NameReader :=
  { reader with
    cursor := pointer
    jumped := true
    offset := if reader.jumped then reader.offset else reader.cursor + 2
    visited := reader.cursor :: reader.visited }

/-- The loop appends a label and goes on behind it. -/
def append (reader : NameReader) (label : String) (length : Nat) :
    NameReader :=
  { reader with
    labels := reader.labels ++ [label]
    cursor := reader.cursor + 1 + length
    offset :=
      if reader.jumped then reader.offset else reader.cursor + 1 + length
    visited := reader.cursor :: reader.visited }

/-- One round of the `while` loop, and what stands behind the loop. -/
def round (decode : UTF8Decoder) (message : Bytes) (reader : NameReader) :
    Except Violation NameRound :=
  if reader.cursor < message.length then
    if reader.cursor ∈ reader.visited then
      .ok (.returned none reader.offset)
    else do
      let length ← element message reader.cursor
      if length = 0 then
        .ok (.returned (some (joined reader.labels))
          (if reader.jumped then reader.offset else reader.cursor + 1))
      else if isPointer length then
        if reader.cursor + 1 < message.length then do
          let low ← element message (reader.cursor + 1)
          let pointer := pointerTarget length low
          if pointer < message.length then
            .ok (.continued (reader.jump pointer))
          else
            .ok (.returned none reader.offset)
        else
          .ok (.returned none reader.offset)
      else if length.toNat ≤ 63 ∧
          reader.cursor + 1 + length.toNat ≤ message.length then do
        let bytes ← slice message (reader.cursor + 1)
          (reader.cursor + 1 + length.toNat)
        match decode bytes with
        | none => .ok (.returned none reader.offset)
        | some label =>
            .ok (.continued (reader.append label length.toNat))
      else
        .ok (.returned none reader.offset)
  else
    .ok (.returned none reader.offset)

/-- At most so many rounds; `none`: the loop has not ended. -/
def rounds (decode : UTF8Decoder) (message : Bytes) :
    Nat → NameReader → Except Violation (Option (Option String × Nat))
  | 0, _ => .ok none
  | count + 1, reader => do
      match ← reader.round decode message with
      | .returned name offset => .ok (some (name, offset))
      | .continued next => rounds decode message count next

/-- `offset`, once it is fixed. -/
def behind (reader : NameReader) : Option Nat :=
  if reader.jumped then some reader.offset else none

theorem getD_behind (reader : NameReader) (offset : Nat) :
    reader.behind.getD offset =
      if reader.jumped then reader.offset else offset := by
  rw [behind]
  cases reader.jumped with
  | false => rfl
  | true => rfl

theorem behind_jump (reader : NameReader) (pointer : Nat) :
    (reader.jump pointer).behind =
      some (reader.behind.getD (reader.cursor + 2)) := by
  rw [getD_behind]
  rfl

theorem behind_append (reader : NameReader) (label : String)
    (length : Nat) : (reader.append label length).behind = reader.behind := by
  by_cases jumped : reader.jumped = true
  · simp [behind, append, jumped]
  · simp [behind, append, jumped]

/-! ## The loop ends -/

/-- The cursors of the earlier rounds are different bytes of the message. -/
structure Advancing (message : Bytes) (reader : NameReader) : Prop where
  distinct : reader.visited.Nodup
  inside : ∀ cursor ∈ reader.visited, cursor < message.length

theorem Advancing.length_le {reader : NameReader}
    (advancing : Advancing message reader) :
    reader.visited.length ≤ message.length := by
  have subset : reader.visited ⊆ List.range message.length := by
    intro cursor member
    exact List.mem_range.mpr (advancing.inside cursor member)
  have bounded := (List.subperm_of_subset advancing.distinct subset).length_le
  rw [List.length_range] at bounded
  exact bounded

theorem Advancing.next {reader next : NameReader}
    (advancing : Advancing message reader)
    (visited : next.visited = reader.cursor :: reader.visited)
    (fresh : reader.cursor ∉ reader.visited)
    (within : reader.cursor < message.length) : Advancing message next where
  distinct := by
    rw [visited]
    exact List.nodup_cons.mpr ⟨fresh, advancing.distinct⟩
  inside := by
    rw [visited]
    intro cursor member
    rcases List.mem_cons.mp member with rfl | earlier
    · exact within
    · exact advancing.inside cursor earlier

/-- What `decodeLabels` finds, behind the labels that are known already. -/
def remaining (decode : UTF8Decoder) (message : Bytes) (count : Nat)
    (reader : NameReader) : Option (String × Nat) :=
  (decodeLabels decode message count reader.cursor reader.visited
    reader.behind).map fun found =>
      (joined (reader.labels ++ found.1), found.2)

/-- A round ends the loop, or it is one of a loop that goes on. -/
inductive RoundSpec (decode : UTF8Decoder) (message : Bytes)
    (reader : NameReader) : NameRound → Prop where
  | returned (name : Option String) (offset : Nat)
      (same : ∀ count, reader.remaining decode message (count + 1) =
        name.map fun name => (name, offset)) :
      RoundSpec decode message reader (.returned name offset)
  | continued (next : NameReader)
      (visited : next.visited = reader.cursor :: reader.visited)
      (fresh : reader.cursor ∉ reader.visited)
      (within : reader.cursor < message.length)
      (same : ∀ count, reader.remaining decode message (count + 1) =
        next.remaining decode message count) :
      RoundSpec decode message reader (.continued next)

theorem round_spec (decode : UTF8Decoder) (message : Bytes)
    (reader : NameReader) :
    ∃ outcome, reader.round decode message = .ok outcome ∧
      RoundSpec decode message reader outcome := by
  rw [round]
  by_cases within : reader.cursor < message.length
  · rw [if_pos within]
    have byte := List.getElem?_eq_getElem within
    by_cases visited : reader.cursor ∈ reader.visited
    · rw [if_pos visited]
      refine ⟨_, rfl, .returned none reader.offset fun count => ?_⟩
      simp [remaining, decodeLabels, byte, visited]
    · rw [if_neg visited, element_of_lt within, bind_ok]
      generalize message[reader.cursor] = length at byte
      by_cases root : length = 0
      · rw [if_pos root]
        refine ⟨_, rfl, .returned _ _ fun count => ?_⟩
        simp [remaining, decodeLabels, byte, visited, root, getD_behind]
      · rw [if_neg root]
        by_cases isPointer : isPointer length = true
        · rw [if_pos isPointer]
          by_cases more : reader.cursor + 1 < message.length
          · rw [if_pos more, element_of_lt more, bind_ok]
            have lowByte := List.getElem?_eq_getElem more
            generalize message[reader.cursor + 1] = low at lowByte
            by_cases inside : pointerTarget length low < message.length
            · rw [if_pos inside]
              refine ⟨_, rfl, ?_⟩
              refine .continued _ rfl visited within fun count => ?_
              rw [remaining, remaining, decodeLabels, behind_jump]
              simp [byte, visited, root, isPointer, lowByte, inside, jump]
            · rw [if_neg inside]
              refine ⟨_, rfl, .returned none reader.offset fun count => ?_⟩
              simp [remaining, decodeLabels, byte, visited, root, isPointer,
                lowByte, inside]
          · rw [if_neg more]
            have lowByte := List.getElem?_eq_none (Nat.le_of_not_lt more)
            refine ⟨_, rfl, .returned none reader.offset fun count => ?_⟩
            simp [remaining, decodeLabels, byte, visited, root, isPointer,
              lowByte]
        · rw [if_neg isPointer]
          by_cases fits : length.toNat ≤ 63 ∧
              reader.cursor + 1 + length.toNat ≤ message.length
          · rw [if_pos fits, slice_of_le (Nat.le_add_right _ _) fits.2,
              bind_ok, List.drop_take, Nat.add_sub_cancel_left]
            rcases text : decode ((message.drop (reader.cursor + 1)).take
              length.toNat) with _ | label
            · refine ⟨_, rfl, .returned none reader.offset fun count => ?_⟩
              simp [remaining, decodeLabels, byte, visited, root, isPointer,
                fits, text]
            · refine ⟨_, rfl, ?_⟩
              refine .continued _ rfl visited within fun count => ?_
              rw [remaining, remaining, decodeLabels, behind_append]
              simp [byte, visited, root, isPointer, fits, text, append,
                Function.comp_def]
          · rw [if_neg fits]
            refine ⟨_, rfl, .returned none reader.offset fun count => ?_⟩
            simp [remaining, decodeLabels, byte, visited, root, isPointer,
              fits]
  · rw [if_neg within]
    have byte := List.getElem?_eq_none (Nat.le_of_not_lt within)
    refine ⟨_, rfl, .returned none reader.offset fun count => ?_⟩
    simp [remaining, decodeLabels, byte]

/-- Every run of the loop ends within the message, and with what
`decodeLabels` finds. -/
theorem rounds_ends (decode : UTF8Decoder) {reader : NameReader}
    {count : Nat}
    (advancing : Advancing message reader)
    (enough : message.length < count + reader.visited.length) :
    ∃ name offset, reader.rounds decode message count =
        .ok (some (name, offset)) ∧
      reader.remaining decode message count =
        name.map fun name => (name, offset) := by
  induction count generalizing reader with
  | zero =>
      have bounded := advancing.length_le
      omega
  | succ count ih =>
      obtain ⟨outcome, performed, spec⟩ :=
        round_spec decode message reader
      rw [rounds, performed, bind_ok]
      cases spec with
      | returned name offset same => exact ⟨name, offset, rfl, same count⟩
      | continued next visited fresh within same =>
          rw [same]
          apply ih (advancing.next visited fresh within)
          rw [visited, List.length_cons]
          omega

theorem advancing_start (message : Bytes) (offset : Nat) :
    Advancing message (start offset) where
  distinct := List.nodup_nil
  inside _ member := by cases member

end NameReader

/-! ## Reading what was written -/

/-- The wire form of one label. -/
def wireLabel (label : String) : Bytes :=
  UInt8.ofNat label.utf8ByteSize :: utf8 label

theorem length_wireLabel (label : String) :
    (wireLabel label).length = label.utf8ByteSize + 1 := by
  rw [wireLabel, List.length_cons, length_utf8]

theorem wireLabels_cons (label : String) (rest : List String) :
    wireLabels ((label :: rest).map utf8) =
      wireLabel label ++ wireLabels (rest.map utf8) := rfl

theorem decodeLabels_wireLabel {label : String} {front tail : Bytes}
    {rounds : Nat} {visited : List Nat} {found : List String × Nat}
    (size : 0 < label.utf8ByteSize ∧ label.utf8ByteSize ≤ 63)
    (decodes : decode (utf8 label) = some label)
    (fresh : front.length ∉ visited)
    (rest : decodeLabels decode (front ++ (wireLabel label ++ tail)) rounds
      (front.length + 1 + label.utf8ByteSize) (front.length :: visited)
        none = some found) :
    decodeLabels decode (front ++ (wireLabel label ++ tail)) (rounds + 1)
      front.length visited none = some (label :: found.1, found.2) := by
  have number :
      (UInt8.ofNat label.utf8ByteSize).toNat = label.utf8ByteSize := by
    rw [UInt8.toNat_ofNat']
    omega
  have block := length_wireLabel label
  apply decodeLabels_succ_iff.mpr
  apply DecodeRound.label (UInt8.ofNat label.utf8ByteSize) label found
  · rw [List.getElem?_append_right (Nat.le_refl _), Nat.sub_self]
    rfl
  · exact fresh
  · intro root
    rw [root] at number
    simp at number
    omega
  · exact isPointer_of_le _ (by omega)
  · omega
  · rw [number]
    simp only [List.length_append, block]
    omega
  · have behindLength : (front ++ (wireLabel label ++ tail)).drop
        (front.length + 1) = utf8 label ++ tail := by
      rw [List.drop_append, List.drop_of_length_le (by omega),
        Nat.add_sub_cancel_left]
      rfl
    rw [behindLength, number, ← length_utf8, List.take_left]
    exact decodes
  · rw [number]
    exact rest
  · rfl

theorem decodeLabels_wireLabels {labels : List String}
    {front back : Bytes} {rounds : Nat} {visited : List Nat}
    (sizes : ∀ label ∈ labels,
      0 < label.utf8ByteSize ∧ label.utf8ByteSize ≤ 63)
    (decodes : ∀ label ∈ labels, decode (utf8 label) = some label)
    (earlier : ∀ cursor ∈ visited, cursor < front.length)
    (enough : labels.length < rounds) :
    decodeLabels decode
        (front ++ (wireLabels (labels.map utf8) ++ 0 :: back)) rounds
        front.length visited none =
      some (labels,
        front.length + (wireLabels (labels.map utf8)).length + 1) := by
  have fresh : front.length ∉ visited := fun member =>
    Nat.lt_irrefl _ (earlier front.length member)
  induction labels generalizing front rounds visited with
  | nil =>
      obtain ⟨fewer, rfl⟩ := Nat.exists_eq_succ_of_ne_zero
        (Nat.ne_of_gt enough)
      apply decodeLabels_succ_iff.mpr
      apply DecodeRound.root
      · rw [List.getElem?_append_right (Nat.le_refl _), Nat.sub_self]
        rfl
      · exact fresh
      · simp [wireLabels]
  | cons label rest ih =>
      obtain ⟨fewer, rfl⟩ := Nat.exists_eq_succ_of_ne_zero
        (Nat.ne_of_gt (Nat.lt_trans (Nat.succ_pos _) enough))
      have block := length_wireLabel label
      have moved : (front ++ wireLabel label).length =
          front.length + 1 + label.utf8ByteSize := by
        rw [List.length_append, block]
        omega
      have later : ∀ cursor ∈ front.length :: visited,
          cursor < (front ++ wireLabel label).length := by
        intro cursor member
        rw [moved]
        rcases List.mem_cons.mp member with rfl | before
        · omega
        · have := earlier cursor before
          omega
      have tail := ih
        (List.forall_mem_cons.mp sizes).2 (List.forall_mem_cons.mp decodes).2
        later (Nat.lt_of_succ_lt_succ enough)
        (fun member => Nat.lt_irrefl _ (later _ member))
      rw [moved, List.append_assoc] at tail
      rw [wireLabels_cons, List.append_assoc]
      rw [decodeLabels_wireLabel (List.forall_mem_cons.mp sizes).1
        (List.forall_mem_cons.mp decodes).1 fresh tail]
      simp only [List.length_append, block]
      congr 2
      omega

theorem parts_joined {labels : List String}
    (nonempty : ∀ label ∈ labels, 0 < label.utf8ByteSize)
    (whole : ∀ label ∈ labels, '.' ∉ label.toList) :
    parts (joined labels) = labels := by
  cases labels with
  | nil => rfl
  | cons first rest =>
      have scalars : (joined (first :: rest)).toList =
          ['.'].intercalate ((first :: rest).map String.toList) := by
        rw [joined, String.toList_intercalate]
        rfl
      have apart : ∀ scalars ∈ (first :: rest).map String.toList,
          '.' ∉ scalars := by
        intro scalars member
        obtain ⟨label, isLabel, rfl⟩ := List.mem_map.mp member
        exact whole label isLabel
      rw [parts, scalars, List.splitOn_intercalate '.' apart (by simp),
        List.filter_eq_self.mpr, List.map_map]
      · simp [Function.comp_def]
      · intro scalars member
        obtain ⟨label, isLabel, rfl⟩ := List.mem_map.mp member
        have size := nonempty label isLabel
        rw [decide_eq_true_eq]
        intro empty
        rw [String.toList_eq_nil_iff.mp empty] at size
        exact Nat.lt_irrefl 0 size

theorem encodeDNSName_of_small {rules : TextRules} {name : String}
    (canonical : canonicalName rules name = name)
    (small : ∀ label ∈ rules.labels name, label.utf8ByteSize ≤ 63) :
    encodeDNSName rules name =
      some (wireLabels ((rules.labels name).map utf8) ++ [0]) := by
  rw [encodeDNSName, canonical, if_pos]
  · rw [wireLabels, List.flatMap_map]
    rfl
  · rw [List.all_eq_true]
    intro label member
    exact decide_eq_true (small label member)

open NameReader in
/-- From any offset of any message `decodeName` ends and reads only bytes of
the message, and it reads back every name that `encodeDNSName` writes: each
canonical name that its labels give when they are joined, and whose labels have
at most 63 bytes (`split` leaves out the empty ones). -/
theorem decodeName_codec (rules : TextRules) (decode : UTF8Decoder) :
    (∀ (message : Bytes) (offset count : Nat), message.length < count →
      ∃ name behind, (start offset).rounds decode message count =
        .ok (some (name, behind))) ∧
    ∀ name, canonicalName rules name = name →
      joined (rules.labels name) = name →
      (∀ label ∈ rules.labels name, label.utf8ByteSize ≤ 63) →
      (∀ label ∈ rules.labels name, decode (utf8 label) = some label) →
      ∃ encoded, encodeDNSName rules name = some encoded ∧
        ∀ front back count, (front ++ (encoded ++ back)).length < count →
          (start front.length).rounds decode
              (front ++ (encoded ++ back)) count =
            .ok (some (some name, front.length + encoded.length)) := by
  constructor
  · intro message offset count enough
    obtain ⟨name, behind, performed, _⟩ :=
      rounds_ends decode (advancing_start message offset) enough
    exact ⟨name, behind, performed⟩
  · intro name canonical isJoined small decodes
    refine ⟨_, encodeDNSName_of_small canonical small, ?_⟩
    have sizes : ∀ label ∈ rules.labels name,
        0 < label.utf8ByteSize ∧ label.utf8ByteSize ≤ 63 := by
      intro label member
      refine ⟨Nat.pos_of_ne_zero ?_, small label member⟩
      intro zero
      exact rules.labels_nonempty name label member
        (String.utf8ByteSize_eq_zero_iff.mp zero)
    generalize rules.labels name = labels at isJoined sizes decodes ⊢
    intro front back count enough
    obtain ⟨read, behind, performed, same⟩ :=
      rounds_ends decode (advancing_start _ front.length) enough
    have bounded := length_le_wireLabels (labels.map utf8)
    rw [List.length_map] at bounded
    have more : labels.length < count := by
      simp only [List.length_append] at enough
      omega
    have earlier : ∀ cursor ∈ ([] : List Nat), cursor < front.length := by
      simp
    have written := @decodeLabels_wireLabels decode labels front back count []
      sizes decodes earlier more
    rw [List.append_assoc] at same performed ⊢
    change (decodeLabels decode (front ++ (wireLabels (labels.map utf8) ++
      0 :: back)) count front.length [] none).map _ = _ at same
    rw [written] at same
    obtain ⟨text, rfl, pair⟩ := Option.map_eq_some_iff.mp same.symm
    rw [performed]
    cases pair
    simp [start, Nat.add_assoc, isJoined]

open NameReader in
theorem decodeName_codec_zone :
    ∃ encoded, encodeDNSName asciiRules "vz.test" = some encoded ∧
      ∀ front back count, (front ++ (encoded ++ back)).length < count →
        (start front.length).rounds asciiDecoder
            (front ++ (encoded ++ back)) count =
          .ok (some (some "vz.test", front.length + encoded.length)) := by
  apply (decodeName_codec asciiRules asciiDecoder).2 "vz.test"
  · rfl
  · decide
  · decide
  · decide

end DNS

end Vzctl
