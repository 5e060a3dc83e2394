import Vzctl.DNS.MessageWalk

/-!
# What a response says about its question

A response echoes its question and counts its records, when the name of the
question is complete within the copied bytes and every record it counts can be
written.
-/

namespace Vzctl

namespace DNS

variable {rules : TextRules} {decode : UTF8Decoder}

/-! ## One round of the decoder -/

/-- What a round that succeeds has seen. -/
inductive DecodeRound (decode : UTF8Decoder) (message : Bytes)
    (rounds cursor : Nat) (visited : List Nat) (behind : Option Nat)
    (found : List String × Nat) : Prop where
  | root (byteFound : message[cursor]? = some 0) (fresh : cursor ∉ visited)
      (result : found = ([], behind.getD (cursor + 1)))
  | pointer (byte low : UInt8) (byteFound : message[cursor]? = some byte)
      (fresh : cursor ∉ visited) (notRoot : byte ≠ 0)
      (isPointer : isPointer byte = true)
      (lowFound : message[cursor + 1]? = some low)
      (inside : pointerTarget byte low < message.length)
      (rest : decodeLabels decode message rounds (pointerTarget byte low)
        (cursor :: visited) (some (behind.getD (cursor + 2))) = some found)
  | label (byte : UInt8) (text : String) (tail : List String × Nat)
      (byteFound : message[cursor]? = some byte) (fresh : cursor ∉ visited)
      (notRoot : byte ≠ 0) (noPointer : isPointer byte = false)
      (small : byte.toNat ≤ 63)
      (inside : cursor + 1 + byte.toNat ≤ message.length)
      (decoded : decode ((message.drop (cursor + 1)).take byte.toNat) =
        some text)
      (rest : decodeLabels decode message rounds (cursor + 1 + byte.toNat)
        (cursor :: visited) behind = some tail)
      (result : found = (text :: tail.1, tail.2))

theorem decodeLabels_succ_iff {message : Bytes} {rounds cursor : Nat}
    {visited : List Nat} {behind : Option Nat}
    {found : List String × Nat} :
    decodeLabels decode message (rounds + 1) cursor visited behind =
        some found ↔
      DecodeRound decode message rounds cursor visited behind found := by
  rw [decodeLabels]
  constructor
  · intro decoded
    split at decoded
    · cases decoded
    · rename_i byte byteFound
      split at decoded
      · cases decoded
      · rename_i fresh
        split at decoded
        · rename_i root
          rw [root] at byteFound
          exact .root byteFound fresh (Option.some.inj decoded).symm
        · rename_i notRoot
          split at decoded
          · rename_i isPointer
            split at decoded
            · cases decoded
            · rename_i low lowFound
              split at decoded
              · rename_i inside
                exact .pointer byte low byteFound fresh notRoot isPointer
                  lowFound inside decoded
              · cases decoded
          · rename_i noPointer
            split at decoded
            · rename_i inside
              split at decoded
              · cases decoded
              · rename_i text isText
                obtain ⟨tail, isTail, same⟩ :=
                  Option.map_eq_some_iff.mp decoded
                exact .label byte text tail byteFound fresh notRoot
                  (Bool.eq_false_of_not_eq_true noPointer) inside.1 inside.2
                  isText isTail same.symm
            · cases decoded
  · intro round
    cases round with
    | root byteFound fresh result =>
        simp [byteFound, fresh, result]
    | pointer byte low byteFound fresh notRoot isPointer lowFound inside
        rest =>
        simp [byteFound, fresh, notRoot, isPointer, lowFound, inside, rest]
    | label byte text tail byteFound fresh notRoot noPointer small inside
        decoded rest result =>
        simp [byteFound, fresh, notRoot, noPointer, small, inside, decoded,
          rest, result]

/-! ## Names within the copied bytes -/

theorem decodeLabels_more {message : Bytes} {rounds more cursor : Nat}
    {visited : List Nat} {behind : Option Nat} {found : List String × Nat}
    (enough : rounds ≤ more)
    (decoded : decodeLabels decode message rounds cursor visited behind =
      some found) :
    decodeLabels decode message more cursor visited behind = some found := by
  induction rounds generalizing more cursor visited behind found with
  | zero => cases decoded
  | succ rounds ih =>
      obtain ⟨fewer, rfl⟩ := Nat.exists_eq_succ_of_ne_zero
        (Nat.ne_of_gt (Nat.lt_of_lt_of_le (Nat.succ_pos _) enough))
      have fits := Nat.le_of_succ_le_succ enough
      rw [decodeLabels_succ_iff] at decoded
      apply decodeLabels_succ_iff.mpr
      cases decoded with
      | root byteFound fresh result => exact .root byteFound fresh result
      | pointer byte low byteFound fresh notRoot isPointer lowFound inside
          rest =>
          exact .pointer byte low byteFound fresh notRoot isPointer lowFound
            inside (ih fits rest)
      | label byte text tail byteFound fresh notRoot noPointer small inside
          decoded rest result =>
          exact .label byte text tail byteFound fresh notRoot noPointer small
            inside decoded (ih fits rest) result

/-- The offset behind a name is fixed by the first pointer, else it is behind
the root. -/
theorem decodeLabels_offset {message : Bytes} {rounds cursor : Nat}
    {visited : List Nat} {behind : Option Nat} {found : List String × Nat}
    (decoded : decodeLabels decode message rounds cursor visited behind =
      some found) :
    (∀ offset, behind = some offset → found.2 = offset) ∧
      (behind = none → cursor < found.2) := by
  induction rounds generalizing cursor visited behind found with
  | zero => cases decoded
  | succ rounds ih =>
      rw [decodeLabels_succ_iff] at decoded
      cases decoded with
      | root byteFound fresh result =>
          subst result
          constructor
          · rintro offset rfl
            rfl
          · rintro rfl
            exact Nat.lt_succ_self cursor
      | pointer byte low byteFound fresh notRoot isPointer lowFound inside
          rest =>
          have stop := (ih rest).1 _ rfl
          constructor
          · rintro offset rfl
            exact stop
          · rintro rfl
            rw [stop]
            exact Nat.lt_add_of_pos_right (by omega)
      | label byte text tail byteFound fresh notRoot noPointer small inside
          decoded rest result =>
          have known := ih rest
          subst result
          constructor
          · exact known.1
          · intro isNone
            have further := known.2 isNone
            simp only []
            omega

/-- No name starts in this header. -/
def blankHeader : Bytes := List.replicate dnsHeaderLength 0x40

/-- A question alone: nothing before it to point to, nothing behind it. -/
def questionAlone (asked : Bytes) : Bytes := blankHeader ++ asked

theorem getElem?_header {header asked : Bytes}
    (length : header.length = dnsHeaderLength) {index : Nat}
    (behind : dnsHeaderLength ≤ index) :
    (header ++ asked)[index]? = asked[index - dnsHeaderLength]? := by
  rw [List.getElem?_append_right (by omega), length]

/-- A name that the question alone completes is read in every message with
this question. -/
theorem decodeLabels_within {header asked back : Bytes}
    (length : header.length = dnsHeaderLength) {rounds cursor : Nat}
    {visited : List Nat} {behind : Option Nat} {found : List String × Nat}
    (decoded : decodeLabels decode (questionAlone asked) rounds cursor visited
      behind = some found) :
    decodeLabels decode (header ++ (asked ++ back)) rounds cursor visited
      behind = some found := by
  have blankLength : blankHeader.length = dnsHeaderLength := rfl
  have behindHeader : ∀ (index : Nat) (byte : UInt8), byte ≠ 0x40 →
      (questionAlone asked)[index]? = some byte →
        dnsHeaderLength ≤ index ∧
          index < dnsHeaderLength + asked.length ∧
          (header ++ (asked ++ back))[index]? = some byte := by
    intro index byte notBlank byteFound
    have start : dnsHeaderLength ≤ index := by
      by_contra inHeader
      rw [questionAlone, List.getElem?_append_left (by omega), blankHeader,
        List.getElem?_replicate] at byteFound
      rw [if_pos (by omega)] at byteFound
      exact notBlank (Option.some.inj byteFound).symm
    rw [questionAlone, getElem?_header blankLength start] at byteFound
    have inside := (List.getElem?_eq_some_iff.mp byteFound).1
    refine ⟨start, by omega, ?_⟩
    rw [getElem?_header length start, List.getElem?_append_left inside]
    exact byteFound
  have aloneLength :
      (questionAlone asked).length = dnsHeaderLength + asked.length := by
    rw [questionAlone, List.length_append, blankLength]
  have longer : (questionAlone asked).length ≤
      (header ++ (asked ++ back)).length := by
    rw [aloneLength, List.length_append, List.length_append, length]
    omega
  induction rounds generalizing cursor visited behind found with
  | zero => cases decoded
  | succ rounds ih =>
      rw [decodeLabels_succ_iff] at decoded
      apply decodeLabels_succ_iff.mpr
      cases decoded with
      | root byteFound fresh result =>
          exact .root (behindHeader cursor 0 (by decide) byteFound).2.2 fresh
            result
      | pointer byte low byteFound fresh notRoot isPointer lowFound inside
          rest =>
          have notBlank : byte ≠ 0x40 := by
            rintro rfl
            exact absurd isPointer (by decide)
          have known := behindHeader cursor byte notBlank byteFound
          have lowKnown : (header ++ (asked ++ back))[cursor + 1]? =
              some low := by
            rw [questionAlone, getElem?_header blankLength (by omega)]
              at lowFound
            have lowInside := (List.getElem?_eq_some_iff.mp lowFound).1
            rw [getElem?_header length (by omega),
              List.getElem?_append_left lowInside]
            exact lowFound
          exact .pointer byte low known.2.2 fresh notRoot isPointer lowKnown
            (Nat.lt_of_lt_of_le inside longer) (ih rest)
      | label byte text tail byteFound fresh notRoot noPointer small inside
          decoded rest result =>
          have notBlank : byte ≠ 0x40 := by
            rintro rfl
            exact absurd small (by decide)
          have known := behindHeader cursor byte notBlank byteFound
          have sameText :
              ((header ++ (asked ++ back)).drop (cursor + 1)).take
                  byte.toNat =
                ((questionAlone asked).drop (cursor + 1)).take
                  byte.toNat := by
            obtain ⟨past, pastEq⟩ := Nat.exists_eq_add_of_le
              (Nat.le_succ_of_le known.1)
            rw [questionAlone, ← Nat.succ_eq_add_one, pastEq]
            rw [← List.drop_drop, ← List.drop_drop,
              List.drop_left' length, List.drop_left' blankLength,
              List.drop_append_of_le_length (by omega),
              List.take_append_of_le_length]
            rw [List.length_drop]
            omega
          refine .label byte text tail known.2.2 fresh notRoot noPointer small
            (Nat.le_trans inside longer) ?_ (ih rest) result
          rw [sameText]
          exact decoded

theorem decodeLabels_sameOffset {header asked back other back' : Bytes}
    (length : header.length = dnsHeaderLength)
    (otherLength : other.length = dnsHeaderLength)
    {rounds rounds' cursor : Nat} {visited visited' : List Nat}
    {found found' : List String × Nat}
    (start : dnsHeaderLength ≤ cursor)
    (inside : found.2 ≤ dnsHeaderLength + asked.length)
    (decoded : decodeLabels decode (header ++ (asked ++ back)) rounds cursor
      visited none = some found)
    (decoded' : decodeLabels decode (other ++ (asked ++ back')) rounds' cursor
      visited' none = some found') :
    found'.2 = found.2 := by
  induction rounds generalizing rounds' cursor visited visited' found found'
    with
  | zero => cases decoded
  | succ rounds ih =>
      cases rounds' with
      | zero => cases decoded'
      | succ rounds' =>
          have further := (decodeLabels_offset decoded).2 rfl
          have sameByte : (other ++ (asked ++ back'))[cursor]? =
              (header ++ (asked ++ back))[cursor]? := by
            rw [getElem?_header length start, getElem?_header otherLength start,
              List.getElem?_append_left (by omega),
              List.getElem?_append_left (by omega)]
          rw [decodeLabels_succ_iff] at decoded decoded'
          cases decoded with
          | root byteFound fresh result =>
              rw [byteFound] at sameByte
              cases decoded' with
              | root byteFound' fresh' result' => rw [result, result']
              | pointer byte low byteFound' fresh' notRoot =>
                  rw [sameByte] at byteFound'
                  exact absurd (Option.some.inj byteFound').symm notRoot
              | label byte text tail byteFound' fresh' notRoot =>
                  rw [sameByte] at byteFound'
                  exact absurd (Option.some.inj byteFound').symm notRoot
          | pointer byte low byteFound fresh notRoot isPointer lowFound inside
              rest =>
              rw [byteFound] at sameByte
              have stop := (decodeLabels_offset rest).1 _ rfl
              cases decoded' with
              | root byteFound' =>
                  rw [sameByte] at byteFound'
                  exact absurd (Option.some.inj byteFound') notRoot
              | pointer byte' low' byteFound' fresh' notRoot' isPointer'
                  lowFound' inside' rest' =>
                  rw [stop, (decodeLabels_offset rest').1 _ rfl]
              | label byte' text tail byteFound' fresh' notRoot' noPointer =>
                  rw [sameByte] at byteFound'
                  rw [← Option.some.inj byteFound', isPointer] at noPointer
                  cases noPointer
          | label byte text tail byteFound fresh notRoot noPointer small fits
              decodedText rest result =>
              rw [byteFound] at sameByte
              cases decoded' with
              | root byteFound' =>
                  rw [sameByte] at byteFound'
                  exact absurd (Option.some.inj byteFound') notRoot
              | pointer byte' low' byteFound' fresh' notRoot' isPointer =>
                  rw [sameByte] at byteFound'
                  rw [← Option.some.inj byteFound', noPointer] at isPointer
                  cases isPointer
              | label byte' text' tail' byteFound' fresh' notRoot' noPointer'
                  small' fits' decodedText' rest' result' =>
                  rw [sameByte] at byteFound'
                  cases Option.some.inj byteFound'
                  rw [result, result']
                  rw [result] at inside
                  have later : dnsHeaderLength ≤ cursor + 1 + byte.toNat := by
                    omega
                  have same : tail'.2 = tail.2 :=
                    ih later inside rest rest'
                  exact same

/-! ## The question of a response -/

theorem parseQuestion_eq_some_iff {message : Bytes}
    {question : DNSQuestion} :
    parseQuestion rules decode message = some question ↔
      dnsHeaderLength ≤ message.length ∧ readUInt16 message 4 = some 1 ∧
      ∃ name offset,
        decodeName decode message dnsHeaderLength = some (name, offset) ∧
        offset + 4 ≤ message.length ∧
        readUInt16 message offset = some question.type ∧
        readUInt16 message (offset + 2) = some question.dnsClass ∧
        question.name = canonicalName rules name ∧
        question.endOffset = offset + 4 := by
  rw [parseQuestion]
  constructor
  · intro parsed
    simp only [Option.bind_eq_bind, Option.bind_eq_some_iff,
      Option.guard_eq_some'] at parsed
    obtain ⟨_, ⟨long, one⟩, ⟨name, offset⟩, decoded, _, fits, type, typeRead,
      dnsClass, classRead, same⟩ := parsed
    cases same
    exact ⟨long, one, name, offset, decoded, fits, typeRead, classRead, rfl,
      rfl⟩
  · rintro ⟨long, one, name, offset, decoded, fits, typeRead, classRead,
      sameName, sameEnd⟩
    simp only [Option.bind_eq_bind, Option.bind_eq_some_iff,
      Option.guard_eq_some']
    refine ⟨(), ⟨long, one⟩, (name, offset), decoded, (), fits, question.type,
      typeRead, question.dnsClass, classRead, ?_⟩
    rw [← sameName, ← sameEnd]
    rfl

/-- The name of the question is complete within its own bytes. -/
def SelfContained (decode : UTF8Decoder) (request : Bytes)
    (question : DNSQuestion) : Prop :=
  (decodeName decode (questionAlone (questionBytes request question))
    dnsHeaderLength).isSome = true

section Parsed

variable {request : Bytes} {question : DNSQuestion}

theorem question_bounds
    (parsed : parseQuestion rules decode request = some question) :
    dnsHeaderLength + 4 < question.endOffset ∧
      question.endOffset ≤ request.length := by
  obtain ⟨_, _, name, offset, decoded, fits, _, _, _, sameEnd⟩ :=
    parseQuestion_eq_some_iff.mp parsed
  rw [decodeName, Option.map_eq_some_iff] at decoded
  obtain ⟨found, isFound, same⟩ := decoded
  have further := (decodeLabels_offset isFound).2 rfl
  have sameOffset : found.2 = offset := congrArg Prod.snd same
  omega

theorem length_questionBytes
    (parsed : parseQuestion rules decode request = some question) :
    dnsHeaderLength + (questionBytes request question).length =
      question.endOffset := by
  have bounds := question_bounds parsed
  rw [questionBytes, List.length_take, List.length_drop]
  omega

theorem request_eq
    (parsed : parseQuestion rules decode request = some question) :
    request = request.take dnsHeaderLength ++
      (questionBytes request question ++
        request.drop question.endOffset) := by
  have bounds := question_bounds parsed
  obtain ⟨size, sizeEq⟩ := Nat.exists_eq_add_of_lt
    (Nat.lt_of_le_of_lt (Nat.le_add_right _ _) bounds.1)
  have sizeIs : question.endOffset - dnsHeaderLength = size + 1 := by
    omega
  have rest : request.drop question.endOffset =
      (request.drop dnsHeaderLength).drop (size + 1) := by
    rw [List.drop_drop]
    congr 1
  rw [questionBytes, sizeIs, rest, List.take_append_drop,
    List.take_append_drop]

theorem length_requestHeader
    (parsed : parseQuestion rules decode request = some question) :
    (request.take dnsHeaderLength).length = dnsHeaderLength := by
  have bounds := question_bounds parsed
  rw [List.length_take]
  omega

theorem decodeName_within {header asked back : Bytes}
    (length : header.length = dnsHeaderLength) {found : String × Nat}
    (decoded : decodeName decode (questionAlone asked) dnsHeaderLength =
      some found) :
    decodeName decode (header ++ (asked ++ back)) dnsHeaderLength =
      some found := by
  rw [decodeName, Option.map_eq_some_iff] at decoded ⊢
  obtain ⟨labels, isLabels, same⟩ := decoded
  refine ⟨labels, ?_, same⟩
  apply decodeLabels_more _ (decodeLabels_within length isLabels)
  have aloneLength :
      (questionAlone asked).length = dnsHeaderLength + asked.length := by
    rw [questionAlone, List.length_append]
    rfl
  rw [aloneLength, List.length_append, List.length_append, length]
  omega

variable {header back : Bytes}

theorem parseQuestion_echo
    (parsed : parseQuestion rules decode request = some question)
    (selfContained : SelfContained decode request question)
    (length : header.length = dnsHeaderLength)
    (one : readUInt16 (header ++ (questionBytes request question ++ back)) 4 =
      some 1) :
    parseQuestion rules decode
        (header ++ (questionBytes request question ++ back)) =
      some question := by
  have bounds := question_bounds parsed
  have askedLength := length_questionBytes parsed
  have whole := request_eq parsed
  have headerLength := length_requestHeader parsed
  obtain ⟨alone, isAlone⟩ := Option.isSome_iff_exists.mp selfContained
  obtain ⟨_, _, name, offset, decoded, fits, typeRead, classRead, sameName,
    sameEnd⟩ := parseQuestion_eq_some_iff.mp parsed
  have sameFound : alone = (name, offset) := by
    have inRequest : decodeName decode (request.take dnsHeaderLength ++
        (questionBytes request question ++ request.drop question.endOffset))
          dnsHeaderLength = some alone :=
      decodeName_within headerLength isAlone
    rw [← whole, decoded] at inRequest
    exact (Option.some.inj inRequest).symm
  subst sameFound
  -- Both messages hold type and class at the end of the question bytes.
  have sameNumber : ∀ index, index + 1 <
      (questionBytes request question).length →
      readUInt16 (header ++ (questionBytes request question ++ back))
          (dnsHeaderLength + index) =
        readUInt16 request (dnsHeaderLength + index) := by
    intro index inside
    have inRequest : readUInt16 (request.take dnsHeaderLength ++
        (questionBytes request question ++ request.drop question.endOffset))
          ((request.take dnsHeaderLength).length + index) = _ :=
      readUInt16_between inside
    rw [headerLength, ← whole] at inRequest
    rw [inRequest, ← length, readUInt16_between inside]
  have start : dnsHeaderLength ≤ offset := by omega
  obtain ⟨index, rfl⟩ := Nat.exists_eq_add_of_le start
  apply parseQuestion_eq_some_iff.mpr
  refine ⟨?_, one, name, dnsHeaderLength + index,
    decodeName_within length isAlone, ?_, ?_, ?_, sameName, sameEnd⟩
  · rw [List.length_append, length]
    omega
  · rw [List.length_append, List.length_append, length]
    omega
  · rw [sameNumber index (by omega)]
    exact typeRead
  · rw [Nat.add_assoc, sameNumber (index + 2) (by omega), ← Nat.add_assoc]
    exact classRead

theorem endOffset_echo {echoed : DNSQuestion}
    (parsed : parseQuestion rules decode request = some question)
    (length : header.length = dnsHeaderLength)
    (echo : parseQuestion rules decode
      (header ++ (questionBytes request question ++ back)) = some echoed) :
    echoed.endOffset = question.endOffset := by
  have askedLength := length_questionBytes parsed
  have whole := request_eq parsed
  have headerLength := length_requestHeader parsed
  obtain ⟨_, _, name, offset, decoded, _, _, _, _, sameEnd⟩ :=
    parseQuestion_eq_some_iff.mp parsed
  obtain ⟨_, _, name', offset', decoded', _, _, _, _, sameEnd'⟩ :=
    parseQuestion_eq_some_iff.mp echo
  rw [decodeName, Option.map_eq_some_iff] at decoded decoded'
  obtain ⟨found, isFound, same⟩ := decoded
  obtain ⟨found', isFound', same'⟩ := decoded'
  have sameOffset : found.2 = offset := congrArg Prod.snd same
  have sameOffset' : found'.2 = offset' := congrArg Prod.snd same'
  rw [whole] at isFound
  have equal := decodeLabels_sameOffset headerLength length (Nat.le_refl _)
    (by omega) isFound isFound'
  omega

end Parsed

/-! ## Headers -/

section Headers

variable {start rest : Bytes} {questions answers authorities : UInt16}

theorem readUInt16_sections (length : start.length = 4) :
    readUInt16 (start ++ sectionCounts questions answers authorities ++ rest)
        4 = some questions ∧
      readUInt16 (start ++ sectionCounts questions answers authorities ++ rest)
        6 = some answers ∧
      readUInt16 (start ++ sectionCounts questions answers authorities ++ rest)
        8 = some authorities ∧
      readUInt16 (start ++ sectionCounts questions answers authorities ++ rest)
        10 = some 0 := by
  have two : ∀ value, (bytes16 value).length = 2 := fun _ => rfl
  simp only [sectionCounts, List.append_assoc]
  refine ⟨readUInt16_append _ length, ?_, ?_, ?_⟩
  · rw [← List.append_assoc start]
    apply readUInt16_append
    rw [List.length_append, length, two]
  · rw [← List.append_assoc start, ← List.append_assoc (start ++ _)]
    apply readUInt16_append
    simp only [List.length_append, length, two]
  · rw [← List.append_assoc start, ← List.append_assoc (start ++ _),
      ← List.append_assoc (start ++ _ ++ _)]
    apply readUInt16_append
    simp only [List.length_append, length, two]

end Headers

end DNS

end Vzctl
