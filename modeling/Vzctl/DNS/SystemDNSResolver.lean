import Mathlib.Data.Nat.Bitwise
import Vzctl.DNS.EchoedResponse

/-!
# Answers of the system resolver

`SystemDNSResolver` forwards a question to the resolver of the host and packs
the records it delivers.  Their owners arrive as escaped presentation names.
-/

namespace Vzctl

namespace DNS

structure SystemDNSRecord where
  name : String
  type : UInt16
  dnsClass : UInt16
  ttl : UInt32
  rdata : Bytes

namespace SystemDNSResolver

/-! ## Owners -/

def isDigit (byte : UInt8) : Bool := 48 ≤ byte && byte ≤ 57

/-- The number that three digits write. -/
def decimalValue (first second third : UInt8) : Nat :=
  (first - 48).toNat * 100 + (second - 48).toNat * 10 + (third - 48).toNat

/-- What stands behind a backslash: the escaped byte, and the bytes after the
escape. -/
def escapedByte : Bytes → Option (UInt8 × Bytes)
  | [] => none
  | first :: second :: third :: rest =>
      if isDigit first && isDigit second && isDigit third &&
          decimalValue first second third ≤ 255 then
        some (UInt8.ofNat (decimalValue first second third), rest)
      else some (first, second :: third :: rest)
  | first :: rest => some (first, rest)

def closeLabel (wire label : Bytes) : Bytes :=
  wire ++ UInt8.ofNat label.length :: label

/-- The guard at the end of every round. -/
def fits (wire label : Bytes) : Bool :=
  label.length ≤ 63 && wire.length + label.length ≤ 254

/-- The rounds of the loop over the bytes of the name, of which there are no
more than bytes. -/
def encodeFrom : Nat → Bytes → Bytes → Bytes → Option Bytes
  | _, wire, label, [] =>
      let closed := if label = [] then wire else closeLabel wire label
      if (closed ++ [0]).length ≤ 255 then some (closed ++ [0]) else none
  | 0, _, _, _ :: _ => none
  | rounds + 1, wire, label, byte :: rest =>
      if byte = 46 then
        if label = [] then none
        else if fits (closeLabel wire label) [] then
          encodeFrom rounds (closeLabel wire label) [] rest
        else none
      else if byte = 92 then
        match escapedByte rest with
        | none => none
        | some (escaped, behind) =>
            if fits wire (label ++ [escaped]) then
              encodeFrom rounds wire (label ++ [escaped]) behind
            else none
      else if byte = 0 then none
      else if fits wire (label ++ [byte]) then
        encodeFrom rounds wire (label ++ [byte]) rest
      else none

def encodeOwner (name : String) : Option Bytes :=
  if name = "." then some [0]
  else if utf8 name = [] then none
  else encodeFrom (utf8 name).length [] [] (utf8 name)

/-! ## Responses -/

def answer (record : SystemDNSRecord) (owner : Bytes) : Bytes :=
  owner ++ bytes16 record.type ++ bytes16 record.dnsClass ++
    bytes32 record.ttl ++ bytes16 (UInt16.ofNat record.rdata.length) ++
      record.rdata

def packet (request : Bytes) (question : DNSQuestion)
    (records : List SystemDNSRecord) (owners : List Bytes) : Bytes :=
  responseStart request 0x8080 0 ++
    sectionCounts 1 (UInt16.ofNat records.length) 0 ++
    (if question.endOffset ≤ request.length then
      questionBytes request question else []) ++
    (records.zipWith answer owners).flatten

/-- The packet without records, as SERVFAIL. -/
def failureResponse (request : Bytes) (question : DNSQuestion) : Bytes :=
  (packet request question [] []).modify 3 (· ||| 2)

def ownerOf (record : SystemDNSRecord) : Option Bytes :=
  (encodeOwner record.name).filter fun _ => record.rdata.length < 2 ^ 16

def response (request : Bytes) (question : DNSQuestion)
    (records : List SystemDNSRecord) : Bytes :=
  match records.mapM ownerOf with
  | none => failureResponse request question
  | some owners =>
      if records.length < 2 ^ 16 then packet request question records owners
      else failureResponse request question

/-! ## Well-formed names -/

/-- The labels are not empty, and their lengths fit. -/
def SizedLabels (labels : List Bytes) : Prop :=
  (∀ label ∈ labels, 0 < label.length ∧ label.length ≤ 63) ∧
    (wireLabels labels ++ [0]).length ≤ 255

def WireName (owner : Bytes) : Prop :=
  ∃ labels, SizedLabels labels ∧ owner = wireLabels labels ++ [0]

theorem wireLabels_snoc (labels : List Bytes) (label : Bytes) :
    wireLabels (labels ++ [label]) = closeLabel (wireLabels labels) label := by
  simp [wireLabels, closeLabel]

theorem sized_snoc {labels : List Bytes} {label : Bytes}
    (sized : ∀ other ∈ labels, 0 < other.length ∧ other.length ≤ 63)
    (nonempty : label ≠ []) (short : label.length ≤ 63) :
    ∀ other ∈ labels ++ [label], 0 < other.length ∧ other.length ≤ 63 := by
  intro other member
  simp only [List.mem_append, List.mem_singleton] at member
  rcases member with earlier | rfl
  · exact sized other earlier
  · exact ⟨List.length_pos_of_ne_nil nonempty, short⟩

theorem wireName_of_finished {rounds : Nat} {labels : List Bytes}
    {label owner : Bytes}
    (sized : ∀ other ∈ labels, 0 < other.length ∧ other.length ≤ 63)
    (short : label.length ≤ 63)
    (encoded : encodeFrom rounds (wireLabels labels) label [] = some owner) :
    WireName owner := by
  by_cases empty : label = []
  · have finished : (wireLabels labels ++ [0]).length ≤ 255 ∧
        wireLabels labels ++ [0] = owner := by
      simpa [encodeFrom, empty] using encoded
    exact ⟨labels, ⟨sized, finished.1⟩, finished.2.symm⟩
  · have finished : (closeLabel (wireLabels labels) label ++ [0]).length ≤ 255 ∧
        closeLabel (wireLabels labels) label ++ [0] = owner := by
      simpa [encodeFrom, empty] using encoded
    rw [← wireLabels_snoc] at finished
    exact ⟨labels ++ [label], ⟨sized_snoc sized empty short, finished.1⟩,
      finished.2.symm⟩

theorem wireName_of_encodeFrom {rounds : Nat} {labels : List Bytes}
    {label text owner : Bytes}
    (sized : ∀ other ∈ labels, 0 < other.length ∧ other.length ≤ 63)
    (short : label.length ≤ 63)
    (encoded : encodeFrom rounds (wireLabels labels) label text = some owner) :
    WireName owner := by
  induction rounds generalizing labels label text with
  | zero =>
      cases text with
      | nil => exact wireName_of_finished sized short encoded
      | cons byte rest => simp [encodeFrom] at encoded
  | succ rounds ih =>
      cases text with
      | nil => exact wireName_of_finished sized short encoded
      | cons byte rest =>
          have grown : ∀ {added : UInt8} {behind : Bytes},
              (if fits (wireLabels labels) (label ++ [added]) then
                encodeFrom rounds (wireLabels labels) (label ++ [added]) behind
              else none) = some owner → WireName owner := by
            intro added behind appended
            by_cases fitting : fits (wireLabels labels) (label ++ [added])
            · have within : (label ++ [added]).length ≤ 63 := by
                simp only [fits, Bool.and_eq_true, decide_eq_true_eq] at fitting
                exact fitting.1
              rw [if_pos fitting] at appended
              exact ih sized within appended
            · simp [fitting] at appended
          rw [encodeFrom] at encoded
          by_cases separator : byte = 46
          · rw [if_pos separator] at encoded
            by_cases empty : label = []
            · simp [empty] at encoded
            · rw [if_neg empty] at encoded
              by_cases fitting : fits (closeLabel (wireLabels labels) label) []
              · rw [if_pos fitting, ← wireLabels_snoc] at encoded
                exact ih (sized_snoc sized empty short)
                  (by simp) encoded
              · simp [fitting] at encoded
          · rw [if_neg separator] at encoded
            by_cases escape : byte = 92
            · rw [if_pos escape] at encoded
              cases found : escapedByte rest with
              | none => simp [found] at encoded
              | some escaped =>
                  simp only [found] at encoded
                  exact grown encoded
            · rw [if_neg escape] at encoded
              by_cases null : byte = 0
              · simp [null] at encoded
              · rw [if_neg null] at encoded
                exact grown encoded

theorem wireName_of_encodeOwner {name : String} {owner : Bytes}
    (encoded : encodeOwner name = some owner) : WireName owner := by
  rw [encodeOwner] at encoded
  by_cases root : name = "."
  · rw [if_pos root] at encoded
    have same : [0] = owner := by simpa using encoded
    exact ⟨[], ⟨by simp, by decide⟩, same.symm⟩
  · rw [if_neg root] at encoded
    by_cases empty : utf8 name = []
    · simp [empty] at encoded
    · rw [if_neg empty] at encoded
      have noLabel : ∀ other ∈ ([] : List Bytes),
          0 < other.length ∧ other.length ≤ 63 := by simp
      exact @wireName_of_encodeFrom _ [] _ _ _ noLabel (Nat.zero_le _) encoded

/-! ## Presentation names -/

/-- The digits of a byte. -/
def decimalDigits (byte : UInt8) : Bytes :=
  [UInt8.ofNat (48 + byte.toNat / 100),
    UInt8.ofNat (48 + byte.toNat / 10 % 10), UInt8.ofNat (48 + byte.toNat % 10)]

/-- The ways to write the bytes of a label.  Dots and backslashes are escaped
by a backslash or, like every other byte, by their number. -/
inductive Escapes : Bytes → Bytes → Prop
  | nil : Escapes [] []
  | plain {byte : UInt8} {label text : Bytes} :
      byte ≠ 46 → byte ≠ 92 → byte ≠ 0 → Escapes label text →
      Escapes (byte :: label) (byte :: text)
  | quoted {byte : UInt8} {label text : Bytes} :
      byte = 46 ∨ byte = 92 → Escapes label text →
      Escapes (byte :: label) (92 :: byte :: text)
  | decimal (byte : UInt8) {label text : Bytes} :
      Escapes label text →
      Escapes (byte :: label) (92 :: (decimalDigits byte ++ text))

/-- The presentation names of labels: the root is a dot, and any other name
may have a final dot. -/
inductive Presents : List Bytes → Bytes → Prop
  | root : Presents [] [46]
  | last {label text : Bytes} : Escapes label text → Presents [label] text
  | closed {label text : Bytes} :
      Escapes label text → Presents [label] (text ++ [46])
  | more {label next text behind : Bytes} {others : List Bytes} :
      Escapes label text → Presents (next :: others) behind →
      Presents (label :: next :: others) (text ++ 46 :: behind)

theorem digit_ofNat (digit : Nat) (small : digit < 10) :
    isDigit (UInt8.ofNat (48 + digit)) = true ∧
      (UInt8.ofNat (48 + digit) - 48).toNat = digit := by
  have checked : ∀ tested < 10, isDigit (UInt8.ofNat (48 + tested)) = true ∧
      (UInt8.ofNat (48 + tested) - 48).toNat = tested := by decide
  exact checked digit small

theorem escapedByte_decimal (byte : UInt8) (rest : Bytes) :
    escapedByte (decimalDigits byte ++ rest) = some (byte, rest) := by
  have size := byte.toNat_lt
  have hundreds := digit_ofNat (byte.toNat / 100) (by omega)
  have tens := digit_ofNat (byte.toNat / 10 % 10) (by omega)
  have ones := digit_ofNat (byte.toNat % 10) (by omega)
  have value : decimalValue (UInt8.ofNat (48 + byte.toNat / 100))
      (UInt8.ofNat (48 + byte.toNat / 10 % 10))
      (UInt8.ofNat (48 + byte.toNat % 10)) = byte.toNat := by
    rw [decimalValue, hundreds.2, tens.2, ones.2]
    omega
  have small : byte.toNat ≤ 255 := by omega
  rw [decimalDigits, List.cons_append, List.cons_append, List.cons_append,
    List.nil_append, escapedByte, hundreds.1, tens.1, ones.1, value]
  simp [small]

theorem escapedByte_quoted {byte : UInt8} (quotable : byte = 46 ∨ byte = 92)
    (rest : Bytes) : escapedByte (byte :: rest) = some (byte, rest) := by
  have noDigit : isDigit byte = false := by
    rcases quotable with rfl | rfl <;> decide
  match rest with
  | [] => rfl
  | [_] => rfl
  | second :: third :: behind => simp [escapedByte, noDigit]

theorem fits_of_le {wire label : Bytes} (short : label.length ≤ 63)
    (within : wire.length + label.length ≤ 254) : fits wire label = true := by
  simp [fits, short, within]

theorem encodeFrom_escape {byte : UInt8} {written behind wire read : Bytes}
    {rounds : Nat} (escaped : escapedByte written = some (byte, behind))
    (short : (read ++ [byte]).length ≤ 63)
    (within : wire.length + (read ++ [byte]).length ≤ 254) :
    encodeFrom (rounds + 1) wire read (92 :: written) =
      encodeFrom rounds wire (read ++ [byte]) behind := by
  rw [encodeFrom, if_neg (by decide), if_pos rfl, escaped]
  exact if_pos (fits_of_le short within)

theorem encodeFrom_plain {byte : UInt8} {behind wire read : Bytes}
    {rounds : Nat} (notDot : byte ≠ 46) (notBackslash : byte ≠ 92)
    (notNull : byte ≠ 0) (short : (read ++ [byte]).length ≤ 63)
    (within : wire.length + (read ++ [byte]).length ≤ 254) :
    encodeFrom (rounds + 1) wire read (byte :: behind) =
      encodeFrom rounds wire (read ++ [byte]) behind := by
  rw [encodeFrom, if_neg notDot, if_neg notBackslash, if_neg notNull]
  exact if_pos (fits_of_le short within)

theorem encodeFrom_escapes {label text behind wire read : Bytes} {rounds : Nat}
    (escapes : Escapes label text)
    (enough : (text ++ behind).length ≤ rounds)
    (short : (read ++ label).length ≤ 63)
    (within : wire.length + (read ++ label).length ≤ 254) :
    ∃ fewer, behind.length ≤ fewer ∧
      encodeFrom rounds wire read (text ++ behind) =
        encodeFrom fewer wire (read ++ label) behind := by
  induction escapes generalizing read rounds with
  | nil => exact ⟨rounds, by simpa using enough, by simp⟩
  | @plain byte label text notDot notBackslash notNull escapes
      ih =>
      simp only [List.length_append, List.length_cons] at enough short within
      obtain ⟨fewer, rfl⟩ : ∃ fewer, rounds = fewer + 1 :=
        ⟨rounds - 1, by omega⟩
      have rest := @ih (read ++ [byte]) fewer
        (by simp; omega) (by simp; omega) (by simp; omega)
      rw [List.cons_append, encodeFrom_plain notDot notBackslash notNull
        (by simp; omega) (by simp; omega)]
      simpa using rest
  | @quoted byte label text quotable escapes ih =>
      simp only [List.length_append, List.length_cons] at enough short within
      obtain ⟨fewer, rfl⟩ : ∃ fewer, rounds = fewer + 1 :=
        ⟨rounds - 1, by omega⟩
      have rest := @ih (read ++ [byte]) fewer
        (by simp; omega) (by simp; omega) (by simp; omega)
      rw [List.cons_append, List.cons_append,
        encodeFrom_escape (escapedByte_quoted quotable _)
          (by simp; omega) (by simp; omega)]
      simpa using rest
  | @decimal byte label text escapes ih =>
      simp only [List.length_append, List.length_cons] at enough short within
      obtain ⟨fewer, rfl⟩ : ∃ fewer, rounds = fewer + 1 :=
        ⟨rounds - 1, by omega⟩
      have rest := @ih (read ++ [byte]) fewer
        (by simp; omega) (by simp; omega) (by simp; omega)
      rw [List.cons_append, List.append_assoc,
        encodeFrom_escape (escapedByte_decimal byte _)
          (by simp; omega) (by simp; omega)]
      simpa using rest

theorem ne_nil_of_escapes {label text : Bytes} (escapes : Escapes label text)
    (nonempty : label ≠ []) : text ≠ [] := by
  cases escapes with
  | nil => exact absurd rfl nonempty
  | plain => simp
  | quoted => simp
  | decimal => simp

theorem encodeFrom_presents {labels : List Bytes} {text wire : Bytes}
    {rounds : Nat} (presents : Presents labels text) (notRoot : labels ≠ [])
    (sized : ∀ label ∈ labels, 0 < label.length ∧ label.length ≤ 63)
    (within : (wire ++ wireLabels labels ++ [0]).length ≤ 255)
    (enough : text.length ≤ rounds) :
    encodeFrom rounds wire [] text = some (wire ++ wireLabels labels ++ [0]) := by
  induction presents generalizing wire rounds with
  | root => exact absurd rfl notRoot
  | @last label text escapes =>
      have size := sized label (by simp)
      have filled : label ≠ [] := List.ne_nil_of_length_pos size.1
      have total : (wire ++ wireLabels [label] ++ [0]).length =
          wire.length + label.length + 2 := by
        simp [wireLabels]
        omega
      obtain ⟨fewer, _, read⟩ := @encodeFrom_escapes label text [] wire []
        rounds escapes (by simpa using enough) (by simpa using size.2)
        (by simp only [List.nil_append]; omega)
      rw [List.append_nil, List.nil_append] at read
      rw [read]
      have same : closeLabel wire label = wire ++ wireLabels [label] := by
        simp [closeLabel, wireLabels]
      have finished : (if (wire ++ wireLabels [label] ++ [0]).length ≤ 255 then
          some (wire ++ wireLabels [label] ++ [0]) else none) =
            some (wire ++ wireLabels [label] ++ [0]) := if_pos within
      cases fewer <;> simpa only [encodeFrom, if_neg filled, same] using finished
  | @closed label text escapes =>
      have size := sized label (by simp)
      have filled : label ≠ [] := List.ne_nil_of_length_pos size.1
      have total : (wire ++ wireLabels [label] ++ [0]).length =
          wire.length + label.length + 2 := by
        simp [wireLabels]
        omega
      obtain ⟨fewer, some_left, read⟩ := @encodeFrom_escapes label text [46]
        wire [] rounds escapes enough (by simpa using size.2)
        (by simp only [List.nil_append]; omega)
      obtain ⟨last, rfl⟩ : ∃ last, fewer = last + 1 :=
        ⟨fewer - 1, by simp at some_left; omega⟩
      have same : closeLabel wire label = wire ++ wireLabels [label] := by
        simp [closeLabel, wireLabels]
      have fitting : fits (wire ++ wireLabels [label]) [] = true :=
        fits_of_le (by simp) (by simp at within ⊢; omega)
      rw [read, List.nil_append, encodeFrom, if_pos rfl, if_neg filled, same,
        if_pos fitting]
      have finished : (if (wire ++ wireLabels [label] ++ [0]).length ≤ 255 then
          some (wire ++ wireLabels [label] ++ [0]) else none) =
            some (wire ++ wireLabels [label] ++ [0]) := if_pos within
      cases last <;> simpa only [encodeFrom, if_true] using finished
  | @more label next text behind others escapes presents ih =>
      have size := sized label (by simp)
      have filled : label ≠ [] := List.ne_nil_of_length_pos size.1
      have split : wire ++ wireLabels (label :: next :: others) ++ [0] =
          closeLabel wire label ++ wireLabels (next :: others) ++ [0] := by
        simp [closeLabel, wireLabels]
      rw [split] at within ⊢
      have total : wire.length + label.length + 2 ≤ 255 := by
        simp [closeLabel] at within
        omega
      obtain ⟨fewer, left, read⟩ := @encodeFrom_escapes label text
        (46 :: behind) wire [] rounds escapes enough (by simpa using size.2)
        (by simp only [List.nil_append]; omega)
      obtain ⟨last, rfl⟩ : ∃ last, fewer = last + 1 :=
        ⟨fewer - 1, by simp at left; omega⟩
      have fitting : fits (closeLabel wire label) [] = true :=
        fits_of_le (by simp) (by simp [closeLabel]; omega)
      rw [read, List.nil_append, encodeFrom, if_pos rfl, if_neg filled,
        if_pos fitting]
      exact ih (by simp)
        (fun other member => sized other (List.mem_cons_of_mem _ member))
        within (by simp at left; omega)

theorem eq_root_of_utf8 {name : String} (dot : utf8 name = [46]) :
    name = "." := by
  have same : name.toUTF8 = ".".toUTF8 := by
    apply ByteArray.ext
    apply Array.toList_inj.mp
    exact dot
  exact String.toByteArray_inj.mp same

theorem encodeOwner_presents {labels : List Bytes} {name : String}
    (sized : SizedLabels labels) (presents : Presents labels (utf8 name)) :
    encodeOwner name = some (wireLabels labels ++ [0]) := by
  by_cases root : labels = []
  · subst root
    have dot : utf8 name = [46] := by
      generalize utf8 name = text at presents
      cases presents
      rfl
    simp [encodeOwner, eq_root_of_utf8 dot, wireLabels]
  · have encoded : encodeFrom (utf8 name).length [] [] (utf8 name) =
        some ([] ++ wireLabels labels ++ [0]) :=
      encodeFrom_presents presents root sized.1 (by simpa using sized.2)
        (Nat.le_refl _)
    have notDot : name ≠ "." := by
      rintro rfl
      have stopped : encodeFrom (utf8 ".").length [] [] (utf8 ".") = none := by
        decide
      simp [stopped] at encoded
    have notEmpty : utf8 name ≠ [] := by
      intro empty
      rw [empty] at presents
      generalize sameText : ([] : Bytes) = text at presents
      cases presents with
      | root => simp at sameText
      | last escapes =>
          have size := sized.1 _ (List.mem_singleton_self _)
          exact ne_nil_of_escapes escapes
            (List.ne_nil_of_length_pos size.1) sameText.symm
      | closed escapes => simp at sameText
      | more escapes presents => simp at sameText
    rw [encodeOwner, if_neg notDot, if_neg notEmpty, encoded, List.nil_append]

/-! ## Messages -/

def responseCodeOf (message : Bytes) : Option UInt8 :=
  message[3]?.map (· &&& 0x0F)

/-- SERVFAIL, and nothing behind the question. -/
structure Failed (question : DNSQuestion) (message : Bytes) : Prop where
  servfail : responseCodeOf message = some 2
  noAnswers : readUInt16 message 6 = some 0
  noRecords : message.length = question.endOffset

/-- Every record is behind the question, under its own owner. -/
structure Answered (question : DNSQuestion)
    (records : List SystemDNSRecord) (message : Bytes) : Prop where
  noError : responseCodeOf message = some 0
  few : records.length < 2 ^ 16
  counted : readUInt16 message 6 = some (UInt16.ofNat records.length)
  appended : ∃ owners,
    List.Forall₂ (fun record owner => encodeOwner record.name = some owner ∧
      WireName owner ∧ record.rdata.length < 2 ^ 16) records owners ∧
    message.drop question.endOffset = (records.zipWith answer owners).flatten

theorem flags_and_recursion (flags : UInt16) :
    flags &&& 0x0100 = 0 ∨ flags &&& 0x0100 = 0x0100 := by
  have number : (flags &&& 0x0100).toNat = (flags.toNat.testBit 8).toNat * 256 := by
    rw [UInt16.toNat_and]
    exact Nat.and_two_pow flags.toNat 8
  cases bit : flags.toNat.testBit 8 with
  | false =>
      left
      apply UInt16.toNat_inj.mp
      simp [number, bit]
  | true =>
      right
      apply UInt16.toNat_inj.mp
      simp [number, bit]

section Packets

variable {rules : TextRules} {decode : UTF8Decoder} {request : Bytes}
  {question : DNSQuestion} {records : List SystemDNSRecord}
  {owners : List Bytes}

theorem packet_eq (parsed : parseQuestion rules decode request = some question) :
    packet request question records owners =
      responseStart request 0x8080 0 ++
        sectionCounts 1 (UInt16.ofNat records.length) 0 ++
        (questionBytes request question ++
          (records.zipWith answer owners).flatten) := by
  have bounds := question_bounds parsed
  rw [packet, if_pos bounds.2, List.append_assoc]

theorem length_packet (parsed : parseQuestion rules decode request = some question) :
    (packet request question records owners).length =
      question.endOffset + (records.zipWith answer owners).flatten.length := by
  have asked := length_questionBytes parsed
  have header : dnsHeaderLength = 12 := rfl
  rw [packet_eq parsed]
  simp only [List.length_append, responseStart, sectionCounts, bytes16,
    List.length_cons, List.length_nil]
  omega

theorem flagByte_packet :
    (packet request question records owners)[3]? = some 0x80 := by
  have low : (packet request question records owners)[3]? =
      some (UInt8.ofNat (0x8080 ||| ((readUInt16 request 2).getD 0 &&& 0x0100) |||
        0).toNat) := rfl
  rcases flags_and_recursion ((readUInt16 request 2).getD 0) with none | wanted
  · rw [low, none]
    rfl
  · rw [low, wanted]
    rfl

theorem counts_packet
    (parsed : parseQuestion rules decode request = some question) :
    readUInt16 (packet request question records owners) 6 =
      some (UInt16.ofNat records.length) := by
  rw [packet_eq parsed]
  exact (readUInt16_sections rfl).2.1

theorem drop_packet
    (parsed : parseQuestion rules decode request = some question) :
    (packet request question records owners).drop question.endOffset =
      (records.zipWith answer owners).flatten := by
  have asked := length_questionBytes parsed
  have front : (responseStart request 0x8080 0 ++
      sectionCounts 1 (UInt16.ofNat records.length) 0 ++
      questionBytes request question).length = question.endOffset := by
    rw [List.length_append, ← asked]
    rfl
  rw [packet_eq parsed, ← List.append_assoc, ← front, List.drop_left]

theorem failed_failureResponse
    (parsed : parseQuestion rules decode request = some question) :
    Failed question (failureResponse request question) := by
  constructor
  · have flagged : (failureResponse request question)[3]? =
        some (0x80 ||| 2) := by
      rw [failureResponse, List.getElem?_modify, flagByte_packet]
      rfl
    rw [responseCodeOf, flagged]
    rfl
  · have counted := @counts_packet rules decode request question [] [] parsed
    have same : ∀ index, index ≠ 3 →
        (failureResponse request question)[index]? =
          (packet request question [] [])[index]? := by
      intro index other
      have different : 3 ≠ index := Ne.symm other
      simp [failureResponse, different]
    rw [readUInt16, same 6 (by decide), same 7 (by decide)]
    exact counted
  · rw [failureResponse, List.length_modify, length_packet parsed]
    simp

theorem ownerOf_eq_some_iff {record : SystemDNSRecord} {owner : Bytes} :
    ownerOf record = some owner ↔ encodeOwner record.name = some owner ∧
      record.rdata.length < 2 ^ 16 := by
  simp [ownerOf, Option.filter_eq_some_iff]

theorem owners_of_mapM (encoded : records.mapM ownerOf = some owners) :
    List.Forall₂ (fun record owner => encodeOwner record.name = some owner ∧
      WireName owner ∧ record.rdata.length < 2 ^ 16) records owners := by
  induction records generalizing owners with
  | nil =>
      have same : owners = [] := by simpa using encoded.symm
      simp [same]
  | cons record rest ih =>
      rw [List.mapM_cons] at encoded
      obtain ⟨owner, first, encoded⟩ := Option.bind_eq_some_iff.mp encoded
      obtain ⟨others, remaining, encoded⟩ := Option.bind_eq_some_iff.mp encoded
      have same : owner :: others = owners := Option.some.inj encoded
      have found := ownerOf_eq_some_iff.mp first
      rw [← same]
      exact List.Forall₂.cons
        ⟨found.1, wireName_of_encodeOwner found.1, found.2⟩
        (ih remaining)

theorem failed_or_answered
    (parsed : parseQuestion rules decode request = some question)
    (records : List SystemDNSRecord) :
    Failed question (response request question records) ∨
      Answered question records (response request question records) := by
  rw [response]
  cases encoded : records.mapM ownerOf with
  | none => exact Or.inl (failed_failureResponse parsed)
  | some owners =>
      by_cases few : records.length < 2 ^ 16
      · right
        simp only [if_pos few]
        refine ⟨?_, few, counts_packet parsed, owners,
          owners_of_mapM encoded, drop_packet parsed⟩
        rw [responseCodeOf, flagByte_packet]
        rfl
      · simp only [if_neg few]
        exact Or.inl (failed_failureResponse parsed)

end Packets

/-! ## The resolver as a whole -/

theorem system_answers_and_owners (rules : TextRules) (decode : UTF8Decoder) :
    (∀ request question records,
      parseQuestion rules decode request = some question →
        Failed question (response request question records) ∨
          Answered question records (response request question records)) ∧
      ∀ labels name, SizedLabels labels → Presents labels (utf8 name) →
        encodeOwner name = some (wireLabels labels ++ [0]) :=
  ⟨fun _ _ records parsed => failed_or_answered parsed records,
    fun _ _ sized presents => encodeOwner_presents sized presents⟩

def addressRecord : SystemDNSRecord where
  name := "vz.test."
  type := 1
  dnsClass := 1
  ttl := 30
  rdata := [10, 0, 0, 1]

/-- A label of the bytes 255, dot and backslash, in front of another one. -/
theorem system_answers_and_owners_zoneName :
    (Failed ⟨"vz.test", 1, 1, 25⟩
        (response zoneNameQuery ⟨"vz.test", 1, 1, 25⟩ [addressRecord]) ∨
      Answered ⟨"vz.test", 1, 1, 25⟩ [addressRecord]
        (response zoneNameQuery ⟨"vz.test", 1, 1, 25⟩ [addressRecord])) ∧
      encodeOwner "\\255\\.\\\\.vz." = some [3, 255, 46, 92, 2, 118, 122, 0] := by
  have whole := system_answers_and_owners asciiRules asciiDecoder
  have parsed : parseQuestion asciiRules asciiDecoder zoneNameQuery =
      some ⟨"vz.test", 1, 1, 25⟩ := by
    rfl
  have sized : SizedLabels [[255, 46, 92], [118, 122]] := by
    constructor
    · decide
    · decide
  have first : Escapes [255, 46, 92] [92, 50, 53, 53, 92, 46, 92, 92] :=
    Escapes.decimal 255 (Escapes.quoted (Or.inl rfl)
      (Escapes.quoted (Or.inr rfl) Escapes.nil))
  have second : Escapes [118, 122] [118, 122] :=
    Escapes.plain (by decide) (by decide) (by decide)
      (Escapes.plain (by decide) (by decide) (by decide) Escapes.nil)
  have presents : Presents [[255, 46, 92], [118, 122]]
      (utf8 "\\255\\.\\\\.vz.") :=
    Presents.more first (Presents.closed second)
  exact ⟨whole.1 _ _ _ parsed, whole.2 _ _ sized presents⟩

end SystemDNSResolver

end DNS

end Vzctl
