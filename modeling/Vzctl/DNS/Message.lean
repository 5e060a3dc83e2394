import Vzctl.DNS.Zone

/-!
# Queries and responses of the DNS server

`parseQuestion`, and the responses that `DNSServer.response` builds itself:
addresses, names, negative answers with their SOA, and errors.
-/

namespace Vzctl

namespace DNS

abbrev Bytes := List UInt8

def dnsHeaderLength : Nat := 12

/-- `String(bytes:encoding: .utf8)`. -/
abbrev UTF8Decoder := Bytes → Option String

def utf8 (text : String) : Bytes := text.toUTF8.data.toList

/-! ## Numbers -/

def readUInt16 (data : Bytes) (offset : Nat) : Option UInt16 :=
  match data[offset]?, data[offset + 1]? with
  | some high, some low =>
      some (UInt16.ofNat (high.toNat * 256 + low.toNat))
  | _, _ => none

/-- What `appendUInt16` appends. -/
def bytes16 (value : UInt16) : Bytes :=
  [UInt8.ofNat (value.toNat / 256), UInt8.ofNat value.toNat]

/-- What `appendUInt32` appends. -/
def bytes32 (value : UInt32) : Bytes :=
  [UInt8.ofNat (value.toNat / 2 ^ 24), UInt8.ofNat (value.toNat / 2 ^ 16),
    UInt8.ofNat (value.toNat / 2 ^ 8), UInt8.ofNat value.toNat]

/-! ## Questions -/

structure DNSQuestion where
  name : String
  type : UInt16
  dnsClass : UInt16
  endOffset : Nat
  deriving DecidableEq, Repr

def isPointer (byte : UInt8) : Bool := byte &&& 0xC0 = 0xC0

/-- The offset that the two bytes of a compression pointer name. -/
def pointerTarget (byte low : UInt8) : Nat :=
  (byte &&& 0x3F).toNat * 256 + low.toNat

/-- The loop of `decodeName`: the labels from the cursor on, and the offset
behind the name.  `behind` is set once a pointer has been followed.  The
cursors are all different, so that there are fewer than `message.count + 1`
rounds. -/
def decodeLabels (decode : UTF8Decoder) (message : Bytes) :
    Nat → Nat → List Nat → Option Nat → Option (List String × Nat)
  | 0, _, _, _ => none
  | rounds + 1, cursor, visited, behind =>
      match message[cursor]? with
      | none => none
      | some byte =>
          if cursor ∈ visited then
            none
          else if byte = 0 then
            some ([], behind.getD (cursor + 1))
          else if isPointer byte then
            match message[cursor + 1]? with
            | none => none
            | some low =>
                if pointerTarget byte low < message.length then
                  decodeLabels decode message rounds (pointerTarget byte low)
                    (cursor :: visited) (some (behind.getD (cursor + 2)))
                else
                  none
          else if byte.toNat ≤ 63 ∧
              cursor + 1 + byte.toNat ≤ message.length then
            match decode ((message.drop (cursor + 1)).take byte.toNat) with
            | none => none
            | some label =>
                (decodeLabels decode message rounds
                  (cursor + 1 + byte.toNat) (cursor :: visited) behind).map
                    fun rest => (label :: rest.1, rest.2)
          else
            none

/-- `decodeName`, with the new offset. -/
def decodeName (decode : UTF8Decoder) (message : Bytes) (offset : Nat) :
    Option (String × Nat) :=
  (decodeLabels decode message (message.length + 1) offset [] none).map
    fun found => (joined found.1, found.2)

def parseQuestion (rules : TextRules) (decode : UTF8Decoder)
    (message : Bytes) : Option DNSQuestion := do
  guard (dnsHeaderLength ≤ message.length ∧ readUInt16 message 4 = some 1)
  let (name, offset) ← decodeName decode message dnsHeaderLength
  guard (offset + 4 ≤ message.length)
  let type ← readUInt16 message offset
  let dnsClass ← readUInt16 message (offset + 2)
  return {
    name := canonicalName rules name
    type := type
    dnsClass := dnsClass
    endOffset := offset + 4 }

/-! ## Responses -/

def encodeDNSName (rules : TextRules) (name : String) : Option Bytes :=
  let labels := rules.labels (canonicalName rules name)
  if labels.all fun label => label.utf8ByteSize ≤ 63 then
    some (labels.flatMap (fun label =>
      UInt8.ofNat label.utf8ByteSize :: utf8 label) ++ [0])
  else
    none

/-- The header of a response, without the identifier and the flags. -/
def sectionCounts (questions answers authorities : UInt16) : Bytes :=
  bytes16 questions ++ bytes16 answers ++ bytes16 authorities ++ bytes16 0

/-- A record whose owner is the name of the question. -/
def answerRecord (type : UInt16) (ttl : UInt32) (rdata : Bytes) : Bytes :=
  bytes16 0xC00C ++ bytes16 type ++ bytes16 1 ++ bytes32 ttl ++
    bytes16 (UInt16.ofNat rdata.length) ++ rdata

/-- `none`: the length of the data does not fit into 16 bits. -/
@[irreducible]
def soaRecord (rules : TextRules) (zone : String) (ttl : UInt32) :
    Option (Option Bytes) :=
  match encodeDNSName rules zone, encodeDNSName rules "dns.vz.test",
      encodeDNSName rules "hostmaster.vz.test" with
  | some owner, some primary, some contact =>
      let rdata := primary ++ contact ++ bytes32 1 ++ bytes32 ttl ++
        bytes32 ttl ++ bytes32 86400 ++ bytes32 ttl
      if rdata.length < 2 ^ 16 then
        some (some (owner ++ bytes16 6 ++ bytes16 1 ++ bytes32 ttl ++
          bytes16 (UInt16.ofNat rdata.length) ++ rdata))
      else
        none
  | _, _, _ => some none

/-- The identifier of a request and the flags of its response. -/
def responseStart (request : Bytes) (flags responseCode : UInt16) : Bytes :=
  bytes16 ((readUInt16 request 0).getD 0) ++
    bytes16 (flags ||| ((readUInt16 request 2).getD 0 &&& 0x0100) |||
      responseCode)

/-- `request[dnsHeaderLength..<question.endOffset]`. -/
def questionBytes (request : Bytes) (question : DNSQuestion) : Bytes :=
  (request.drop dnsHeaderLength).take (question.endOffset - dnsHeaderLength)

variable (rules : TextRules)

/-- `authoritativeResponse`; `none` where a conversion to 16 bits traps. -/
def authoritativeResponse (request : Bytes) (question : DNSQuestion)
    (addresses : List String) (ttl : UInt32) (responseCode : UInt16)
    (authorityZone : Option String) : Option Bytes := do
  let soa ← match authorityZone with
    | some zone => soaRecord rules zone ttl
    | none => some none
  guard (addresses.length < 2 ^ 16)
  return responseStart request 0x8480 responseCode ++
    sectionCounts 1 (UInt16.ofNat addresses.length)
      (if soa = none then 0 else 1) ++
    questionBytes request question ++
    (addresses.filterMap fun address =>
      (ipv4Bytes address).map (answerRecord 1 ttl)).flatten ++
    soa.getD []

/-- `authoritativePTRResponse`; `none` where a conversion traps. -/
def authoritativePTRResponse (request : Bytes) (question : DNSQuestion)
    (names : List String) (ttl : UInt32) : Option Bytes := do
  guard (names.length < 2 ^ 16)
  let encoded := names.filterMap (encodeDNSName rules)
  guard (encoded.all fun name => name.length < 2 ^ 16)
  return responseStart request 0x8480 0 ++
    sectionCounts 1 (UInt16.ofNat names.length) 0 ++
    questionBytes request question ++
    (encoded.map (answerRecord 12 ttl)).flatten

def errorResponse (request : Bytes) (responseCode : UInt16) : Bytes :=
  if request.length < dnsHeaderLength then
    []
  else
    responseStart request 0x8080 responseCode ++ sectionCounts 0 0 0

inductive Response where
  /-- An authoritative or error response. -/
  | built (message : Bytes)
  /-- What the upstream resolver says. -/
  | relayed (message : Bytes)
  | trap
  deriving DecidableEq, Repr

def Response.ofTrapping : Option Bytes → Response
  | some message => .built message
  | none => .trap

/-- The authoritative answer of a zone. -/
def zoneResponse (zone : DNSZone) (horizon : DNSHorizon) (request : Bytes)
    (question : DNSQuestion) : Response :=
  let addresses :=
    if question.type = 1 ∧ question.dnsClass = 1 then
      zone.addresses rules question.name horizon
    else
      none
  let names :=
    if question.type = 12 ∧ question.dnsClass = 1 then
      zone.ptrNames rules question.name
    else
      none
  match addresses, names with
  | some addresses, _ =>
      .ofTrapping
        (authoritativeResponse rules request question addresses zone.ttl 0
          none)
  | none, some names =>
      .ofTrapping
        (authoritativePTRResponse rules request question names zone.ttl)
  | none, none =>
      let exists' := (zone.addresses rules question.name horizon).isSome ||
        (zone.ptrNames rules question.name).isSome
      .ofTrapping
        (authoritativeResponse rules request question [] zone.ttl
          (if exists' then 0 else 3)
          (some (zone.authorityZone rules question.name)))

/-- `DNSServer.response`, over what the upstream resolver answers. -/
def response (decode : UTF8Decoder)
    (upstream : Bytes → DNSQuestion → Option Bytes) (zone : DNSZone)
    (horizon : DNSHorizon) (request : Bytes) : Response :=
  match parseQuestion rules decode request with
  | none => .built (errorResponse request 1)
  | some question =>
      if zone.isAuthoritative rules question.name horizon then
        zoneResponse rules zone horizon request question
      else
        match upstream request question with
        | some message => .relayed message
        | none => .built (errorResponse request 2)

end DNS

end Vzctl
