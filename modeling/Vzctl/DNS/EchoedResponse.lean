import Vzctl.DNS.EchoedQuestion

/-!
# Responses that echo their question and count their records
-/

namespace Vzctl

namespace DNS

/-! ## What a response owes its request -/

/-- The offset behind the last record that the header counts. -/
def messageEnd (rules : TextRules) (decode : UTF8Decoder) (message : Bytes) :
    Option Nat := do
  let question ← parseQuestion rules decode message
  let answers ← readUInt16 message 6
  let authorities ← readUInt16 message 8
  let additional ← readUInt16 message 10
  skipRecords message
    (answers.toNat + authorities.toNat + additional.toNat)
    question.endOffset

structure Echoes (rules : TextRules) (decode : UTF8Decoder)
    (request : Bytes) (question : DNSQuestion) (message : Bytes) : Prop where
  question : ∃ echoed, parseQuestion rules decode message = some echoed ∧
    echoed.name = question.name ∧ echoed.type = question.type ∧
    echoed.dnsClass = question.dnsClass
  id : readUInt16 message 0 = readUInt16 request 0
  records : messageEnd rules decode message = some message.length

/-- A response that the server builds itself echoes the question. -/
def EchoesQuestion (rules : TextRules) (decode : UTF8Decoder)
    (request : Bytes) (question : DNSQuestion) : Response → Prop
  | .built message => Echoes rules decode request question message
  | .relayed _ => True
  | .trap => False

/-- Every address and name of the answer can be written, and 16 bits count
them. -/
structure AnswerFits (rules : TextRules) (zone : DNSZone)
    (horizon : DNSHorizon) (question : DNSQuestion) : Prop where
  addresses : question.type = 1 → question.dnsClass = 1 →
    ∀ addresses, zone.addresses rules question.name horizon = some addresses →
      addresses.length < 2 ^ 16 ∧
      ∀ address ∈ addresses, (ipv4Bytes address).isSome = true
  names : question.type = 12 → question.dnsClass = 1 →
    ∀ names, zone.ptrNames rules question.name = some names →
      names.length < 2 ^ 16 ∧
      ∀ name ∈ names, ∃ encoded, encodeDNSName rules name = some encoded ∧
        encoded.length < 2 ^ 16

/-- The zone answers with records that fit, or the upstream answers. -/
def Answerable (rules : TextRules)
    (upstream : Bytes → DNSQuestion → Option Bytes) (zone : DNSZone)
    (horizon : DNSHorizon) (request : Bytes) (question : DNSQuestion) :
    Prop :=
  if zone.isAuthoritative rules question.name horizon then
    AnswerFits rules zone horizon question
  else
    (upstream request question).isSome = true

variable {rules : TextRules} {decode : UTF8Decoder} {request : Bytes}
  {question : DNSQuestion}

/-! ## Messages of a header, a question and records -/

/-- The walk ends at the last byte exactly if the records are as many as the
header counts. -/
theorem messageEnd_eq_length_iff {message header : Bytes}
    {blocks : List Bytes} {echoed : DNSQuestion} {answers authorities : UInt16}
    (isMessage : message =
      header ++ (questionBytes request question ++ blocks.flatten))
    (length : header.length = dnsHeaderLength)
    (parsed : parseQuestion rules decode request = some question)
    (echo : parseQuestion rules decode message = some echoed)
    (answersRead : readUInt16 message 6 = some answers)
    (authoritiesRead : readUInt16 message 8 = some authorities)
    (additionalRead : readUInt16 message 10 = some 0)
    (records : ∀ block ∈ blocks, IsRecord block)
    (bounded : blocks.length ≤ answers.toNat + authorities.toNat) :
    messageEnd rules decode message = some message.length ↔
      answers.toNat + authorities.toNat = blocks.length := by
  have bounds := question_bounds parsed
  have askedLength := length_questionBytes parsed
  have sameEnd : echoed.endOffset = question.endOffset := by
    rw [isMessage] at echo
    exact endOffset_echo parsed length echo
  have front : (header ++ questionBytes request question).length =
      question.endOffset := by
    rw [List.length_append, length]
    exact askedLength
  have grouped : message =
      (header ++ questionBytes request question) ++
        (blocks.flatten ++ []) := by
    rw [isMessage, List.append_nil, List.append_assoc]
  have walked : skipRecords message blocks.length question.endOffset =
      some message.length := by
    have steps : skipRecords ((header ++ questionBytes request question) ++
        (blocks.flatten ++ [])) blocks.length
          (header ++ questionBytes request question).length = _ :=
      skipRecords_flatten records (by omega)
    rw [← grouped, front] at steps
    rw [steps, grouped, List.length_append, front, List.append_nil]
  rw [messageEnd]
  simp only [Option.bind_eq_bind, echo, answersRead, authoritiesRead,
    additionalRead, Option.bind_some, sameEnd]
  obtain ⟨missing, counted⟩ := Nat.exists_eq_add_of_le bounded
  have total : answers.toNat + authorities.toNat + UInt16.toNat 0 =
      blocks.length + missing := by
    rw [counted]
    rfl
  rw [total, counted, skipRecords_add, walked, Option.bind_some]
  cases missing with
  | zero => simp [skipRecords]
  | succ missing =>
      rw [skipRecords_atEnd]
      constructor
      · intro ends
        cases ends
      · intro equal
        omega

theorem length_responseStart (flags code : UInt16) :
    (responseStart request flags code).length = 4 := rfl

/-- A response with such a header echoes its question exactly if its records
are as many as the header counts, as far as the question can be read. -/
theorem echoes_built (flags code : UInt16) {message : Bytes}
    {answers authorities : UInt16} {blocks : List Bytes}
    (isMessage : message = responseStart request flags code ++
      sectionCounts 1 answers authorities ++
        (questionBytes request question ++ blocks.flatten))
    (parsed : parseQuestion rules decode request = some question)
    (records : ∀ block ∈ blocks, IsRecord block)
    (bounded : blocks.length ≤ answers.toNat + authorities.toNat) :
    (Echoes rules decode request question message →
      answers.toNat + authorities.toNat = blocks.length) ∧
    (SelfContained decode request question →
      answers.toNat + authorities.toNat = blocks.length →
        Echoes rules decode request question message) := by
  have length : (responseStart request flags code ++
      sectionCounts 1 answers authorities).length = dnsHeaderLength := rfl
  have reads : readUInt16 message 4 = some 1 ∧
      readUInt16 message 6 = some answers ∧
      readUInt16 message 8 = some authorities ∧
      readUInt16 message 10 = some 0 := by
    rw [isMessage]
    exact readUInt16_sections (length_responseStart flags code)
  have identifier : readUInt16 message 0 = readUInt16 request 0 := by
    have known : ∃ number, readUInt16 request 0 = some number := by
      obtain ⟨long, _⟩ := parseQuestion_eq_some_iff.mp parsed
      have first : 0 < request.length := by
        exact Nat.lt_of_lt_of_le (by decide) long
      have second : 1 < request.length := by
        exact Nat.lt_of_lt_of_le (by decide) long
      rw [readUInt16, List.getElem?_eq_getElem first,
        List.getElem?_eq_getElem second]
      exact ⟨_, rfl⟩
    obtain ⟨number, isNumber⟩ := known
    rw [isMessage, responseStart, isNumber, Option.getD_some]
    simp only [List.append_assoc]
    have first : readUInt16 ([] ++ (bytes16 number ++ (bytes16 (flags |||
        ((readUInt16 request 2).getD 0 &&& 0x0100) ||| code) ++
          (sectionCounts 1 answers authorities ++
            (questionBytes request question ++ blocks.flatten))))) 0 = _ :=
      readUInt16_append number rfl
    exact first
  have walk : ∀ echoed, parseQuestion rules decode message = some echoed →
      (messageEnd rules decode message = some message.length ↔
        answers.toNat + authorities.toNat = blocks.length) := by
    intro echoed echo
    exact messageEnd_eq_length_iff isMessage length parsed echo reads.2.1
      reads.2.2.1 reads.2.2.2 records bounded
  constructor
  · intro echoes
    obtain ⟨echoed, echo, _⟩ := echoes.question
    exact (walk echoed echo).mp echoes.records
  · intro selfContained counted
    have echo : parseQuestion rules decode message = some question := by
      rw [isMessage] at reads ⊢
      exact parseQuestion_echo parsed selfContained length reads.1
    exact ⟨⟨question, echo, rfl, rfl, rfl⟩, identifier,
      (walk question echo).mpr counted⟩

/-! ## The responses of a zone -/

theorem soaRecord_isSome (rules : TextRules) (zone : String) (ttl : UInt32) :
    ∃ soa, soaRecord rules zone ttl = some soa := by
  have primary : canonicalName rules "dns.vz.test" = "dns.vz.test" := by
    rw [canonicalName, rules.lowercased_of_plain _ (by decide)]
    decide
  have contact : canonicalName rules "hostmaster.vz.test" =
      "hostmaster.vz.test" := by
    rw [canonicalName, rules.lowercased_of_plain _ (by decide)]
    decide
  have primaryEncoded : encodeDNSName rules "dns.vz.test" = some
      [3, 100, 110, 115, 2, 118, 122, 4, 116, 101, 115, 116, 0] := by
    rw [encodeDNSName, primary, rules.labels_of_plain _ (.inl (by decide))]
    rfl
  have contactEncoded : encodeDNSName rules "hostmaster.vz.test" = some
      [10, 104, 111, 115, 116, 109, 97, 115, 116, 101, 114, 2, 118, 122, 4,
        116, 101, 115, 116, 0] := by
    rw [encodeDNSName, contact, rules.labels_of_plain _ (.inl (by decide))]
    rfl
  rw [soaRecord, primaryEncoded, contactEncoded]
  cases encodeDNSName rules zone with
  | none => exact ⟨none, rfl⟩
  | some owner =>
      simp only []
      rw [if_pos (by simp [bytes32])]
      exact ⟨_, rfl⟩

section Zone

variable (rules) (ttl : UInt32)

theorem echoes_addresses (addresses : List String)
    (parsed : parseQuestion rules decode request = some question) :
    (EchoesQuestion rules decode request question (.ofTrapping
        (authoritativeResponse rules request question addresses ttl 0 none)) →
      addresses.length < 2 ^ 16 ∧
      ∀ address ∈ addresses, (ipv4Bytes address).isSome = true) ∧
    (SelfContained decode request question →
      (addresses.length < 2 ^ 16 ∧
        ∀ address ∈ addresses, (ipv4Bytes address).isSome = true) →
      EchoesQuestion rules decode request question (.ofTrapping
        (authoritativeResponse rules request question addresses ttl 0
          none))) := by
  by_cases fits : addresses.length < 2 ^ 16
  · let blocks := addresses.filterMap fun address =>
      (ipv4Bytes address).map (answerRecord 1 ttl)
    have same : authoritativeResponse rules request question addresses ttl 0
        none = some (responseStart request 0x8480 0 ++
          sectionCounts 1 (UInt16.ofNat addresses.length) 0 ++
            (questionBytes request question ++ blocks.flatten)) := by
      rw [authoritativeResponse]
      simp only [guard, fits]
      simp [blocks]
    have records : ∀ block ∈ blocks, IsRecord block := by
      intro block member
      obtain ⟨address, _, written⟩ := List.mem_filterMap.mp member
      obtain ⟨bytes, isAddress, rfl⟩ := Option.map_eq_some_iff.mp written
      exact isRecord_address ttl isAddress
    have number : (UInt16.ofNat addresses.length).toNat =
        addresses.length := by
      rw [UInt16.toNat_ofNat']
      exact Nat.mod_eq_of_lt fits
    have bounded : blocks.length ≤
        (UInt16.ofNat addresses.length).toNat + UInt16.toNat 0 := by
      rw [number]
      exact List.length_filterMap_le _ _
    have counted : (UInt16.ofNat addresses.length).toNat + UInt16.toNat 0 =
        blocks.length ↔
          ∀ address ∈ addresses, (ipv4Bytes address).isSome = true := by
      rw [number]
      have all : blocks.length = addresses.length ↔ ∀ address ∈ addresses,
          ((ipv4Bytes address).map (answerRecord 1 ttl)).isSome = true :=
        List.filterMap_length_eq_length
      simp only [Option.isSome_map] at all
      rw [← all]
      exact eq_comm
    have both := echoes_built 0x8480 0 rfl parsed records bounded
    rw [same]
    constructor
    · intro echoes
      exact ⟨fits, counted.mp (both.1 echoes)⟩
    · intro selfContained known
      exact both.2 selfContained (counted.mpr known.2)
  · have same : authoritativeResponse rules request question addresses ttl 0
        none = none := by
      rw [authoritativeResponse]
      simp only [guard, fits]
      rfl
    rw [same]
    constructor
    · intro trapped
      exact trapped.elim
    · intro _ known
      exact absurd known.1 fits

theorem echoes_names (names : List String)
    (parsed : parseQuestion rules decode request = some question) :
    (EchoesQuestion rules decode request question (.ofTrapping
        (authoritativePTRResponse rules request question names ttl)) →
      names.length < 2 ^ 16 ∧
      ∀ name ∈ names, ∃ encoded, encodeDNSName rules name = some encoded ∧
        encoded.length < 2 ^ 16) ∧
    (SelfContained decode request question →
      (names.length < 2 ^ 16 ∧
        ∀ name ∈ names, ∃ encoded, encodeDNSName rules name = some encoded ∧
          encoded.length < 2 ^ 16) →
      EchoesQuestion rules decode request question (.ofTrapping
        (authoritativePTRResponse rules request question names ttl))) := by
  by_cases fits : names.length < 2 ^ 16 ∧
      (names.filterMap (encodeDNSName rules)).all
        (fun name => name.length < 2 ^ 16) = true
  · let blocks :=
      (names.filterMap (encodeDNSName rules)).map (answerRecord 12 ttl)
    have small : ∀ encoded ∈ names.filterMap (encodeDNSName rules),
        encoded.length < 2 ^ 16 := by
      intro encoded member
      exact of_decide_eq_true (List.all_eq_true.mp fits.2 encoded member)
    have same : authoritativePTRResponse rules request question names ttl =
        some (responseStart request 0x8480 0 ++
          sectionCounts 1 (UInt16.ofNat names.length) 0 ++
            (questionBytes request question ++ blocks.flatten)) := by
      rw [authoritativePTRResponse]
      simp only [guard, fits.1, fits.2]
      simp [blocks]
    have records : ∀ block ∈ blocks, IsRecord block := by
      intro block member
      obtain ⟨encoded, isEncoded, rfl⟩ := List.mem_map.mp member
      obtain ⟨name, _, isName⟩ := List.mem_filterMap.mp isEncoded
      exact isRecord_name ttl isName (small encoded isEncoded)
    have number : (UInt16.ofNat names.length).toNat = names.length := by
      rw [UInt16.toNat_ofNat']
      exact Nat.mod_eq_of_lt fits.1
    have blocksLength : blocks.length =
        (names.filterMap (encodeDNSName rules)).length := List.length_map _
    have bounded : blocks.length ≤
        (UInt16.ofNat names.length).toNat + UInt16.toNat 0 := by
      rw [number, blocksLength]
      exact List.length_filterMap_le _ _
    have counted : (UInt16.ofNat names.length).toNat + UInt16.toNat 0 =
        blocks.length ↔
          ∀ name ∈ names, (encodeDNSName rules name).isSome = true := by
      rw [number, blocksLength, ← List.filterMap_length_eq_length]
      exact eq_comm
    have both := echoes_built 0x8480 0 rfl parsed records bounded
    rw [same]
    constructor
    · intro echoes
      refine ⟨fits.1, fun name member => ?_⟩
      obtain ⟨encoded, isEncoded⟩ := Option.isSome_iff_exists.mp
        (counted.mp (both.1 echoes) name member)
      exact ⟨encoded, isEncoded,
        small encoded (List.mem_filterMap.mpr ⟨name, member, isEncoded⟩)⟩
    · intro selfContained known
      apply both.2 selfContained
      apply counted.mpr
      intro name member
      obtain ⟨encoded, isEncoded, _⟩ := known.2 name member
      rw [isEncoded]
      rfl
  · have same : authoritativePTRResponse rules request question names ttl =
        none := by
      rw [authoritativePTRResponse]
      by_cases few : names.length < 2 ^ 16
      · have long : ¬ (names.filterMap (encodeDNSName rules)).all
            (fun name => name.length < 2 ^ 16) = true :=
          fun all => fits ⟨few, all⟩
        simp only [guard, few, long]
        rfl
      · simp only [guard, few]
        rfl
    rw [same]
    constructor
    · intro trapped
      exact trapped.elim
    · intro _ known
      apply absurd _ fits
      refine ⟨known.1, List.all_eq_true.mpr ?_⟩
      intro encoded member
      obtain ⟨name, isName, isEncoded⟩ := List.mem_filterMap.mp member
      obtain ⟨other, isOther, small⟩ := known.2 name isName
      rw [isEncoded] at isOther
      cases isOther
      exact decide_eq_true small

theorem echoes_negative (code : UInt16) (zone : String)
    (parsed : parseQuestion rules decode request = some question)
    (selfContained : SelfContained decode request question) :
    EchoesQuestion rules decode request question (.ofTrapping
      (authoritativeResponse rules request question [] ttl code
        (some zone))) := by
  obtain ⟨soa, isSOA⟩ := soaRecord_isSome rules zone ttl
  cases soa with
  | none =>
      have same : authoritativeResponse rules request question [] ttl code
          (some zone) = some (responseStart request 0x8480 code ++
            sectionCounts 1 0 0 ++
              (questionBytes request question ++
                ([] : List Bytes).flatten)) := by
        simp [authoritativeResponse, isSOA, guard]
      have counted : UInt16.toNat 0 + UInt16.toNat 0 =
          ([] : List Bytes).length := rfl
      have both := echoes_built 0x8480 code rfl parsed
        (fun _ member => absurd member List.not_mem_nil) counted.ge
      rw [same]
      exact both.2 selfContained counted
  | some record =>
      have same : authoritativeResponse rules request question [] ttl code
          (some zone) = some (responseStart request 0x8480 code ++
            sectionCounts 1 0 1 ++
              (questionBytes request question ++ [record].flatten)) := by
        simp [authoritativeResponse, isSOA, guard]
      have records : ∀ block ∈ [record], IsRecord block := by
        intro block member
        rw [List.mem_singleton.mp member]
        exact isRecord_soaRecord isSOA
      have counted : UInt16.toNat 0 + UInt16.toNat 1 = [record].length := rfl
      have both := echoes_built 0x8480 code rfl parsed records counted.ge
      rw [same]
      exact both.2 selfContained counted

end Zone

/-! ## The responses of the server -/

section Server

variable {upstream : Bytes → DNSQuestion → Option Bytes} {zone : DNSZone}
  {horizon : DNSHorizon}

theorem echoes_zoneResponse
    (parsed : parseQuestion rules decode request = some question) :
    (EchoesQuestion rules decode request question
        (zoneResponse rules zone horizon request question) →
      AnswerFits rules zone horizon question) ∧
    (SelfContained decode request question →
      AnswerFits rules zone horizon question →
        EchoesQuestion rules decode request question
          (zoneResponse rules zone horizon request question)) := by
  rw [zoneResponse]
  by_cases forAddress : question.type = 1 ∧ question.dnsClass = 1
  · have notName : ¬ (question.type = 12 ∧ question.dnsClass = 1) := by
      rintro ⟨isName, _⟩
      rw [forAddress.1] at isName
      exact absurd isName (by decide)
    have noNames : ∀ fits : Prop, question.type = 12 →
        question.dnsClass = 1 → fits :=
      fun _ isName isClass => absurd ⟨isName, isClass⟩ notName
    rw [if_pos forAddress, if_neg notName]
    cases answered : zone.addresses rules question.name horizon with
    | some addresses =>
        have both := echoes_addresses rules zone.ttl addresses parsed
        constructor
        · intro echoes
          constructor
          · intro _ _ others isOthers
            rw [answered] at isOthers
            cases isOthers
            exact both.1 echoes
          · exact noNames _
        · intro selfContained fits
          exact both.2 selfContained
            (fits.addresses forAddress.1 forAddress.2 addresses answered)
    | none =>
        constructor
        · intro _
          constructor
          · intro _ _ others isOthers
            rw [answered] at isOthers
            cases isOthers
          · exact noNames _
        · intro selfContained _
          exact echoes_negative rules zone.ttl _ _ parsed selfContained
  · have noAddresses : ∀ fits : Prop, question.type = 1 →
        question.dnsClass = 1 → fits :=
      fun _ isAddress isClass => absurd ⟨isAddress, isClass⟩ forAddress
    rw [if_neg forAddress]
    by_cases forName : question.type = 12 ∧ question.dnsClass = 1
    · rw [if_pos forName]
      cases answered : zone.ptrNames rules question.name with
      | some names =>
          have both := echoes_names rules zone.ttl names parsed
          constructor
          · intro echoes
            constructor
            · exact noAddresses _
            · intro _ _ others isOthers
              rw [answered] at isOthers
              cases isOthers
              exact both.1 echoes
          · intro selfContained fits
            exact both.2 selfContained
              (fits.names forName.1 forName.2 names answered)
      | none =>
          constructor
          · intro _
            constructor
            · exact noAddresses _
            · intro _ _ others isOthers
              rw [answered] at isOthers
              cases isOthers
          · intro selfContained _
            exact echoes_negative rules zone.ttl _ _ parsed selfContained
    · have noNames : ∀ fits : Prop, question.type = 12 →
          question.dnsClass = 1 → fits :=
        fun _ isName isClass => absurd ⟨isName, isClass⟩ forName
      rw [if_neg forName]
      constructor
      · intro _
        exact ⟨noAddresses _, noNames _⟩
      · intro selfContained _
        exact echoes_negative rules zone.ttl _ _ parsed selfContained

theorem not_echoes_errorResponse (code : UInt16) :
    ¬ EchoesQuestion rules decode request question
      (.built (errorResponse request code)) := by
  intro echoes
  obtain ⟨echoed, echo, _⟩ := echoes.question
  obtain ⟨long, one, _⟩ := parseQuestion_eq_some_iff.mp echo
  rw [errorResponse] at long one
  split at one
  · cases one
  · rw [← List.append_nil (responseStart request 0x8080 code ++ _),
      (readUInt16_sections (length_responseStart 0x8080 code)).1] at one
    cases one

/-- A response echoes an accepted question and counts its records when it can
be answered and, where the zone answers, is complete in itself; and only a
question that can be answered is echoed. -/
theorem response_echoes
    (parsed : parseQuestion rules decode request = some question) :
    ((zone.isAuthoritative rules question.name horizon = true →
        SelfContained decode request question) →
      Answerable rules upstream zone horizon request question →
        EchoesQuestion rules decode request question
          (response rules decode upstream zone horizon request)) ∧
    (EchoesQuestion rules decode request question
        (response rules decode upstream zone horizon request) →
      Answerable rules upstream zone horizon request question) := by
  have both : (EchoesQuestion rules decode request question
        (zoneResponse rules zone horizon request question) → _) ∧ _ :=
    echoes_zoneResponse parsed
  rw [response, parsed, Answerable]
  simp only []
  split
  · rename_i authoritative
    exact ⟨fun complete => both.2 (complete authoritative), both.1⟩
  · cases answered : upstream request question with
    | some message => exact ⟨fun _ _ => trivial, fun _ => rfl⟩
    | none =>
        constructor
        · intro _ known
          cases known
        · intro echoes
          exact absurd echoes (not_echoes_errorResponse 2)

end Server

def asciiDecoder : UTF8Decoder := fun bytes =>
  if bytes.all (· < 0x80) then
    some (String.ofList (bytes.map fun byte => Char.ofNat byte.toNat))
  else
    none

/-- A zone without records. -/
def emptyZone : DNSZone where
  records := ∅
  wildcardRecords := ∅
  shortRecords := ∅
  ptrRecords := ∅
  hostRecords := ∅
  ingressGuestAddresses := ∅
  ingressProjects := ∅
  reverseZones := []
  zones := []
  ttl := 30

def queryHeader : Bytes :=
  [0x12, 0x34, 0x01, 0x00, 0x00, 0x01, 0, 0, 0, 0, 0, 0]

/-- `vz.test` on the wire. -/
def zoneNameBytes : Bytes := [2, 118, 122, 4, 116, 101, 115, 116, 0]

/-- A query for `vz.test`. -/
def zoneNameQuery : Bytes := queryHeader ++ zoneNameBytes ++ [0, 1, 0, 1]

theorem response_echoes_zoneName :
    EchoesQuestion asciiRules asciiDecoder zoneNameQuery
      ⟨"vz.test", 1, 1, 25⟩
      (response asciiRules asciiDecoder (fun _ _ => none) emptyZone .host
        zoneNameQuery) := by
  have parsed : parseQuestion asciiRules asciiDecoder zoneNameQuery =
      some ⟨"vz.test", 1, 1, 25⟩ := by
    rfl
  have selfContained : SelfContained asciiDecoder zoneNameQuery
      ⟨"vz.test", 1, 1, 25⟩ := by
    rw [SelfContained]
    rfl
  have answerable : Answerable asciiRules (fun _ _ => none) emptyZone .host
      zoneNameQuery ⟨"vz.test", 1, 1, 25⟩ := by
    rw [Answerable, if_pos (by rfl)]
    constructor
    · intro _ _ addresses found
      have absent : emptyZone.addresses asciiRules "vz.test" .host = none := by
        rfl
      rw [absent] at found
      cases found
    · intro isName
      exact absurd isName (by decide)
  have both := @response_echoes asciiRules asciiDecoder zoneNameQuery
    ⟨"vz.test", 1, 1, 25⟩ (fun _ _ => none) emptyZone .host parsed
  generalize response asciiRules asciiDecoder (fun _ _ => none) emptyZone .host
    zoneNameQuery = answered at both ⊢
  exact both.1 (fun _ => selfContained) answerable

/-- A query whose name is a pointer to bytes behind the question. -/
def compressedQuery : Bytes :=
  queryHeader ++ [0xC0, 0x12, 0, 1, 0, 1] ++ 1 :: 120 :: zoneNameBytes

/-- The response does not have these bytes: there the name is `vz.test`. -/
theorem compressed_question_is_not_echoed :
    parseQuestion asciiRules asciiDecoder compressedQuery =
      some ⟨"x.vz.test", 1, 1, 18⟩ ∧
    ¬ EchoesQuestion asciiRules asciiDecoder compressedQuery
      ⟨"x.vz.test", 1, 1, 18⟩
      (response asciiRules asciiDecoder (fun _ _ => none) emptyZone .host
        compressedQuery) := by
  refine ⟨by rfl, ?_⟩
  have answered : ∃ message, response asciiRules asciiDecoder
      (fun _ _ => none) emptyZone .host compressedQuery = .built message ∧
      (parseQuestion asciiRules asciiDecoder message).map (·.name) =
        some "vz.test" := by
    refine ⟨[0x12, 0x34, 0x85, 0x83, 0, 1, 0, 0, 0, 1, 0, 0, 0xC0, 0x12, 0, 1,
      0, 1] ++ zoneNameBytes ++ [0, 6, 0, 1, 0, 0, 0, 30, 0, 53] ++
        [3, 100, 110, 115] ++ zoneNameBytes ++
        [10, 104, 111, 115, 116, 109, 97, 115, 116, 101, 114] ++
        zoneNameBytes ++ [0, 0, 0, 1, 0, 0, 0, 30, 0, 0, 0, 30, 0, 1, 0x51,
          0x80, 0, 0, 0, 30], ?_, ?_⟩
    · decide +kernel
    · decide
  obtain ⟨message, isMessage, named⟩ := answered
  rw [isMessage]
  intro echoes
  obtain ⟨echoed, echo, sameName, _⟩ := echoes.question
  rw [echo, Option.map_some, sameName] at named
  exact absurd (Option.some.inj named) (by decide)

end DNS

end Vzctl
