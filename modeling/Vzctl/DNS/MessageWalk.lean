import Vzctl.DNS.Message

/-!
# Walking a message

A decoder that goes from record to record, and what it finds in a message that
consists of a header, a question and a list of records.
-/

namespace Vzctl

namespace DNS

/-! ## Records -/

/-- The offset behind a name: its labels up to the root or to a pointer to an
earlier offset. -/
def skipLabels (message : Bytes) : Nat → Nat → Option Nat
  | 0, _ => none
  | rounds + 1, offset =>
      match message[offset]? with
      | none => none
      | some byte =>
          if byte = 0 then
            some (offset + 1)
          else if isPointer byte then
            match message[offset + 1]? with
            | none => none
            | some low =>
                if pointerTarget byte low < offset then some (offset + 2)
                else none
          else if byte.toNat ≤ 63 ∧
              offset + 1 + byte.toNat ≤ message.length then
            skipLabels message rounds (offset + 1 + byte.toNat)
          else
            none

def skipName (message : Bytes) (offset : Nat) : Option Nat :=
  skipLabels message (message.length + 1) offset

/-- The data of an A, PTR or SOA record is of its form. -/
def wellFormedData (message : Bytes) (type : UInt16) (start stop : Nat) :
    Bool :=
  if type = 1 then
    stop = start + 4
  else if type = 12 then
    skipName message start = some stop
  else if type = 6 then
    ((skipName message start).bind (skipName message)).map (· + 20) =
      some stop
  else
    true

/-- The offset behind a well-formed record. -/
def skipRecord (message : Bytes) (offset : Nat) : Option Nat := do
  let fields ← skipName message offset
  let type ← readUInt16 message fields
  let length ← readUInt16 message (fields + 8)
  let stop := fields + 10 + length.toNat
  guard (stop ≤ message.length ∧
    wellFormedData message type (fields + 10) stop = true)
  return stop

def skipRecords (message : Bytes) : Nat → Nat → Option Nat
  | 0, offset => some offset
  | count + 1, offset =>
      (skipRecord message offset).bind (skipRecords message count)

/-! ## Reading what was written -/

theorem readUInt16_append {front back : Bytes} {offset : Nat}
    (value : UInt16) (atEnd : front.length = offset) :
    readUInt16 (front ++ (bytes16 value ++ back)) offset = some value := by
  subst atEnd
  have bound := value.toNat_lt
  rw [readUInt16, bytes16, List.getElem?_append_right (Nat.le_refl _),
    List.getElem?_append_right (Nat.le_add_right _ _), Nat.sub_self,
    Nat.add_sub_cancel_left]
  simp only [List.cons_append, List.getElem?_cons_zero,
    List.getElem?_cons_succ, UInt8.toNat_ofNat']
  congr 1
  apply UInt16.toNat_inj.mp
  rw [UInt16.toNat_ofNat']
  omega

theorem getElem?_between {front middle back : Bytes} {index : Nat}
    (inside : index < middle.length) :
    (front ++ (middle ++ back))[front.length + index]? = middle[index]? := by
  rw [List.getElem?_append_right (Nat.le_add_right _ _),
    Nat.add_sub_cancel_left, List.getElem?_append_left inside]

theorem readUInt16_between {front middle back : Bytes} {index : Nat}
    (inside : index + 1 < middle.length) :
    readUInt16 (front ++ (middle ++ back)) (front.length + index) =
      readUInt16 middle index := by
  rw [readUInt16, readUInt16, getElem?_between (by omega), Nat.add_assoc,
    getElem?_between inside]

/-! ## Names -/

/-- The labels of a name that has no pointer. -/
def wireLabels (labels : List Bytes) : Bytes :=
  labels.flatMap fun label => UInt8.ofNat label.length :: label

theorem isPointer_of_le (byte : UInt8) (small : byte.toNat ≤ 63) :
    isPointer byte = false := by
  rw [isPointer, decide_eq_false_iff_not]
  intro same
  have numbers := congrArg UInt8.toNat same
  rw [UInt8.toNat_and] at numbers
  have low : byte.toNat &&& 0xC0 ≤ byte.toNat := Nat.and_le_left
  have high : (0xC0 : UInt8).toNat = 192 := rfl
  rw [high] at numbers
  change byte.toNat &&& 192 = 192 at numbers
  omega

theorem skipLabels_wireLabels {labels : List Bytes} {front back : Bytes}
    {rounds : Nat}
    (sizes : ∀ label ∈ labels, 0 < label.length ∧ label.length ≤ 63)
    (enough : labels.length < rounds) :
    skipLabels (front ++ (wireLabels labels ++ 0 :: back)) rounds
        front.length =
      some (front.length + (wireLabels labels).length + 1) := by
  induction labels generalizing front rounds with
  | nil =>
      obtain ⟨fewer, rfl⟩ := Nat.exists_eq_succ_of_ne_zero
        (Nat.ne_of_gt enough)
      rw [skipLabels, List.getElem?_append_right (Nat.le_refl _),
        Nat.sub_self]
      simp [wireLabels]
  | cons label rest ih =>
      obtain ⟨fewer, rfl⟩ := Nat.exists_eq_succ_of_ne_zero
        (Nat.ne_of_gt (Nat.lt_trans (Nat.succ_pos _) enough))
      have size := sizes label List.mem_cons_self
      have first : (front ++ (wireLabels (label :: rest) ++ 0 :: back))[
          front.length]? = some (UInt8.ofNat label.length) := by
        rw [List.getElem?_append_right (Nat.le_refl _), Nat.sub_self]
        rfl
      have number : (UInt8.ofNat label.length).toNat = label.length := by
        rw [UInt8.toNat_ofNat']
        omega
      have notZero : UInt8.ofNat label.length ≠ 0 := by
        intro zero
        rw [zero] at number
        simp at number
        omega
      have regrouped : front ++ (wireLabels (label :: rest) ++ 0 :: back) =
          (front ++ (UInt8.ofNat label.length :: label)) ++
            (wireLabels rest ++ 0 :: back) := by
        simp [wireLabels]
      have tail : skipLabels ((front ++ (UInt8.ofNat label.length :: label)) ++
          (wireLabels rest ++ 0 :: back)) fewer
            (front ++ (UInt8.ofNat label.length :: label)).length = _ :=
        ih
          (fun other member => sizes other (List.mem_cons_of_mem _ member))
          (Nat.lt_of_succ_lt_succ enough)
      rw [skipLabels, first]
      simp only [notZero, if_false, isPointer_of_le _ (by omega : (UInt8.ofNat
        label.length).toNat ≤ 63), number, Bool.false_eq_true]
      rw [if_pos ⟨size.2, by simp [wireLabels]; omega⟩, regrouped]
      have moved : front.length + 1 + label.length =
          (front ++ (UInt8.ofNat label.length :: label)).length := by
        simp
        omega
      rw [moved, tail]
      simp [wireLabels]
      omega

theorem length_utf8 (text : String) :
    (utf8 text).length = text.utf8ByteSize := rfl

theorem encodeDNSName_eq_some {rules : TextRules} {name : String}
    {encoded : Bytes} (isEncoded : encodeDNSName rules name = some encoded) :
    ∃ labels, encoded = wireLabels labels ++ [0] ∧
      ∀ label ∈ labels, 0 < label.length ∧ label.length ≤ 63 := by
  rw [encodeDNSName] at isEncoded
  split at isEncoded
  · rename_i small
    rw [List.all_eq_true] at small
    refine ⟨(rules.labels (canonicalName rules name)).map utf8, ?_, ?_⟩
    · rw [← Option.some.inj isEncoded, wireLabels, List.flatMap_map]
      rfl
    · intro bytes member
      obtain ⟨label, isPart, rfl⟩ := List.mem_map.mp member
      rw [length_utf8]
      constructor
      · apply Nat.pos_of_ne_zero
        intro zero
        exact rules.labels_nonempty _ label isPart
          (String.utf8ByteSize_eq_zero_iff.mp zero)
      · exact of_decide_eq_true (small label isPart)
  · cases isEncoded

theorem length_le_wireLabels (labels : List Bytes) :
    labels.length ≤ (wireLabels labels).length := by
  induction labels with
  | nil => exact Nat.zero_le _
  | cons label rest ih =>
      simp only [wireLabels, List.flatMap_cons, List.length_cons,
        List.length_append] at *
      omega

theorem skipName_encoded {rules : TextRules} {name : String}
    {encoded : Bytes} (isEncoded : encodeDNSName rules name = some encoded)
    (front back : Bytes) :
    skipName (front ++ (encoded ++ back)) front.length =
      some (front.length + encoded.length) := by
  obtain ⟨labels, rfl, sizes⟩ := encodeDNSName_eq_some isEncoded
  have bounded := length_le_wireLabels labels
  rw [skipName, List.append_assoc]
  change skipLabels (front ++ (wireLabels labels ++ 0 :: back)) _ _ = _
  rw [skipLabels_wireLabels sizes (by simp; omega)]
  simp [Nat.add_assoc]

/-! ## Records -/

/-- Behind a header and a question the bytes are one well-formed record. -/
def IsRecord (block : Bytes) : Prop :=
  ∀ front back : Bytes, dnsHeaderLength < front.length →
    skipRecord (front ++ (block ++ back)) front.length =
      some (front.length + block.length)

theorem skipName_pointer (front back : Bytes)
    (behind : dnsHeaderLength < front.length) :
    skipName (front ++ (bytes16 0xC00C ++ back)) front.length =
      some (front.length + 2) := by
  have first : (front ++ (bytes16 0xC00C ++ back))[front.length]? =
      some 0xC0 := by
    rw [List.getElem?_append_right (Nat.le_refl _), Nat.sub_self]
    rfl
  have second : (front ++ (bytes16 0xC00C ++ back))[front.length + 1]? =
      some 0x0C := by
    rw [List.getElem?_append_right (Nat.le_add_right _ _),
      Nat.add_sub_cancel_left]
    rfl
  have target : pointerTarget 0xC0 0x0C = dnsHeaderLength := by decide
  rw [skipName, skipLabels, first]
  simp only []
  rw [if_neg (by decide), if_pos (by decide), second]
  simp only []
  rw [target, if_pos behind]

theorem skipRecord_of_fields {front owner rdata back : Bytes}
    {type : UInt16} {ttl : UInt32}
    (message : Bytes)
    (isMessage : message = front ++ (owner ++ (bytes16 type ++ (bytes16 1 ++
      (bytes32 ttl ++ (bytes16 (UInt16.ofNat rdata.length) ++
        (rdata ++ back)))))))
    (named : skipName message front.length =
      some (front.length + owner.length))
    (small : rdata.length < 2 ^ 16)
    (wellFormed : wellFormedData message type
      (front.length + owner.length + 10)
      (front.length + owner.length + 10 + rdata.length) = true) :
    skipRecord message front.length =
      some (front.length + owner.length + 10 + rdata.length) := by
  have typeRead : readUInt16 message (front.length + owner.length) =
      some type := by
    rw [isMessage, ← List.append_assoc]
    exact readUInt16_append type (by simp)
  have lengthRead : readUInt16 message (front.length + owner.length + 8) =
      some (UInt16.ofNat rdata.length) := by
    have regrouped : message = (front ++ owner ++ bytes16 type ++ bytes16 1 ++
        bytes32 ttl) ++ (bytes16 (UInt16.ofNat rdata.length) ++
          (rdata ++ back)) := by
      rw [isMessage]
      simp only [List.append_assoc]
    rw [regrouped]
    apply readUInt16_append
    simp [bytes16, bytes32]
    omega
  have number : (UInt16.ofNat rdata.length).toNat = rdata.length := by
    rw [UInt16.toNat_ofNat']
    exact Nat.mod_eq_of_lt small
  have fits : front.length + owner.length + 10 + rdata.length ≤
      message.length := by
    rw [isMessage]
    simp [bytes16, bytes32]
    omega
  rw [skipRecord, named]
  simp only [Option.bind_eq_bind, Option.bind_some, typeRead, lengthRead,
    number]
  rw [guard, if_pos ⟨fits, wellFormed⟩]
  rfl

theorem isRecord_answerRecord {type : UInt16} {ttl : UInt32}
    {rdata : Bytes} (small : rdata.length < 2 ^ 16)
    (wellFormed : ∀ front back : Bytes,
      wellFormedData (front ++ (rdata ++ back)) type front.length
        (front.length + rdata.length) = true) :
    IsRecord (answerRecord type ttl rdata) := by
  intro front back behind
  have whole : front ++ (answerRecord type ttl rdata ++ back) =
      front ++ (bytes16 0xC00C ++ (bytes16 type ++ (bytes16 1 ++
        (bytes32 ttl ++ (bytes16 (UInt16.ofNat rdata.length) ++
          (rdata ++ back)))))) := by
    simp only [answerRecord, List.append_assoc]
  have grouped : front ++ (answerRecord type ttl rdata ++ back) =
      (front ++ (bytes16 0xC00C ++ bytes16 type ++ bytes16 1 ++ bytes32 ttl ++
        bytes16 (UInt16.ofNat rdata.length))) ++ (rdata ++ back) := by
    simp only [answerRecord, List.append_assoc]
  have named : skipName (front ++ (answerRecord type ttl rdata ++ back))
      front.length = some (front.length + 2) := by
    rw [whole]
    exact skipName_pointer _ _ behind
  have data := wellFormed (front ++ (bytes16 0xC00C ++ bytes16 type ++
    bytes16 1 ++ bytes32 ttl ++ bytes16 (UInt16.ofNat rdata.length))) back
  have start : (front ++ (bytes16 0xC00C ++ bytes16 type ++ bytes16 1 ++
      bytes32 ttl ++ bytes16 (UInt16.ofNat rdata.length))).length =
        front.length + 2 + 10 := by
    simp [bytes16, bytes32]
  rw [← grouped, start] at data
  rw [skipRecord_of_fields _ whole named small data]
  simp [answerRecord, bytes16, bytes32]
  omega

theorem isRecord_address {address : String} {bytes : Bytes} (ttl : UInt32)
    (isAddress : ipv4Bytes address = some bytes) :
    IsRecord (answerRecord 1 ttl bytes) := by
  have four : bytes.length = 4 := by
    rw [ipv4Bytes, Option.map_eq_some_iff] at isAddress
    obtain ⟨number, _, same⟩ := isAddress
    rw [← same]
    rfl
  apply isRecord_answerRecord (by omega)
  intro front back
  rw [wellFormedData, if_pos rfl, four]
  exact decide_eq_true rfl

theorem isRecord_name {rules : TextRules} {name : String} {encoded : Bytes}
    (ttl : UInt32) (isEncoded : encodeDNSName rules name = some encoded)
    (small : encoded.length < 2 ^ 16) :
    IsRecord (answerRecord 12 ttl encoded) := by
  apply isRecord_answerRecord small
  intro front back
  rw [wellFormedData, if_neg (by decide), if_pos rfl,
    skipName_encoded isEncoded]
  exact decide_eq_true rfl

theorem isRecord_soaRecord {rules : TextRules} {zone : String} {ttl : UInt32}
    {soa : Bytes} (isSOA : soaRecord rules zone ttl = some (some soa)) :
    IsRecord soa := by
  rw [soaRecord] at isSOA
  split at isSOA
  · rename_i owner primary contact ownerEncoded primaryEncoded contactEncoded
    simp only [] at isSOA
    split at isSOA
    · rename_i small
      have same := Option.some.inj (Option.some.inj isSOA)
      generalize isData : primary ++ contact ++ bytes32 1 ++ bytes32 ttl ++
        bytes32 ttl ++ bytes32 86400 ++ bytes32 ttl = rdata at *
      intro front back _
      have whole : front ++ (soa ++ back) = front ++ (owner ++ (bytes16 6 ++
          (bytes16 1 ++ (bytes32 ttl ++ (bytes16 (UInt16.ofNat rdata.length)
            ++ (rdata ++ back)))))) := by
        simp only [← same, List.append_assoc]
      have named : skipName (front ++ (soa ++ back)) front.length =
          some (front.length + owner.length) := by
        rw [whole]
        exact skipName_encoded ownerEncoded front _
      have first : skipName (front ++ (soa ++ back))
          (front.length + owner.length + 10) =
            some (front.length + owner.length + 10 + primary.length) := by
        have grouped : front ++ (soa ++ back) = (front ++ owner ++ bytes16 6 ++
            bytes16 1 ++ bytes32 ttl ++ bytes16 (UInt16.ofNat rdata.length))
              ++ (primary ++ (contact ++ (bytes32 1 ++ bytes32 ttl ++
                bytes32 ttl ++ bytes32 86400 ++ bytes32 ttl ++ back))) := by
          simp only [← same, ← isData, List.append_assoc]
        have found := skipName_encoded primaryEncoded (front ++ owner ++
          bytes16 6 ++ bytes16 1 ++ bytes32 ttl ++
            bytes16 (UInt16.ofNat rdata.length)) (contact ++ (bytes32 1 ++
              bytes32 ttl ++ bytes32 ttl ++ bytes32 86400 ++ bytes32 ttl ++
                back))
        have start : (front ++ owner ++ bytes16 6 ++ bytes16 1 ++ bytes32 ttl
            ++ bytes16 (UInt16.ofNat rdata.length)).length =
              front.length + owner.length + 10 := by
          simp [bytes16, bytes32]
          omega
        rw [← grouped, start] at found
        exact found
      have second : skipName (front ++ (soa ++ back))
          (front.length + owner.length + 10 + primary.length) =
            some (front.length + owner.length + 10 + primary.length +
              contact.length) := by
        have grouped : front ++ (soa ++ back) = (front ++ owner ++ bytes16 6 ++
            bytes16 1 ++ bytes32 ttl ++ bytes16 (UInt16.ofNat rdata.length)
              ++ primary) ++ (contact ++ (bytes32 1 ++ bytes32 ttl ++
                bytes32 ttl ++ bytes32 86400 ++ bytes32 ttl ++ back)) := by
          simp only [← same, ← isData, List.append_assoc]
        have found := skipName_encoded contactEncoded (front ++ owner ++
          bytes16 6 ++ bytes16 1 ++ bytes32 ttl ++
            bytes16 (UInt16.ofNat rdata.length) ++ primary) (bytes32 1 ++
              bytes32 ttl ++ bytes32 ttl ++ bytes32 86400 ++ bytes32 ttl ++
                back)
        have start : (front ++ owner ++ bytes16 6 ++ bytes16 1 ++ bytes32 ttl
            ++ bytes16 (UInt16.ofNat rdata.length) ++ primary).length =
              front.length + owner.length + 10 + primary.length := by
          simp [bytes16, bytes32]
          omega
        rw [← grouped, start] at found
        exact found
      have data : wellFormedData (front ++ (soa ++ back)) 6
          (front.length + owner.length + 10)
          (front.length + owner.length + 10 + rdata.length) = true := by
        rw [wellFormedData, if_neg (by decide), if_neg (by decide),
          if_pos rfl, first, Option.bind_some, second, ← isData]
        simp [bytes32]
        omega
      rw [skipRecord_of_fields _ whole named small data]
      simp [← same, bytes16, bytes32]
      omega
    · cases isSOA
  · cases isSOA

/-! ## Lists of records -/

theorem skipRecords_flatten {blocks : List Bytes} {front back : Bytes}
    (records : ∀ block ∈ blocks, IsRecord block)
    (behind : dnsHeaderLength < front.length) :
    skipRecords (front ++ (blocks.flatten ++ back)) blocks.length
        front.length =
      some (front.length + blocks.flatten.length) := by
  induction blocks generalizing front with
  | nil => rfl
  | cons block rest ih =>
      have first := records block List.mem_cons_self front
        (rest.flatten ++ back) behind
      have tail : skipRecords ((front ++ block) ++ (rest.flatten ++ back))
          rest.length (front ++ block).length = _ :=
        ih
          (fun other member => records other (List.mem_cons_of_mem _ member))
          (by simp; omega)
      rw [List.append_assoc, List.length_append] at tail
      rw [List.flatten_cons, List.append_assoc, List.length_cons, skipRecords,
        first, Option.bind_some, tail]
      simp [Nat.add_assoc]

theorem skipRecords_add (message : Bytes) (first second offset : Nat) :
    skipRecords message (first + second) offset =
      (skipRecords message first offset).bind
        (skipRecords message second) := by
  induction first generalizing offset with
  | zero => rw [Nat.zero_add, skipRecords, Option.bind_some]
  | succ first ih =>
      rw [Nat.succ_add, skipRecords, skipRecords]
      cases skipRecord message offset with
      | none => rfl
      | some reached =>
          rw [Option.bind_some, Option.bind_some, ih]

theorem skipRecords_atEnd (message : Bytes) (count : Nat) :
    skipRecords message (count + 1) message.length = none := by
  have noName : skipName message message.length = none := by
    rw [skipName, skipLabels, List.getElem?_eq_none (Nat.le_refl _)]
  rw [skipRecords, skipRecord, noName]
  rfl

end DNS

end Vzctl
