import Vzctl.GuestAgent.ServiceRegistry

/-!
# Requests to published services

`services.http` and `services.stream` of the guest agent, with what the HTTP
client sends: the request itself and one more for each redirect it follows.
-/

namespace Vzctl

namespace PublishedServices

open NetURL

structure ServicesHTTPParams where
  name : Text
  method : Text
  path : Text
  headers : List (Text × Text)
  bodyB64 : Text
  deriving DecidableEq, Repr

/-! ## Units of the journal -/

section Units

-- `unicode.IsLetter`
variable (isLetter : Nat → Bool)

def isUnitStart (rune : Nat) : Bool := isLetter rune || isDigitRune rune

def isUnitChar (rune : Nat) : Bool :=
  isLetter rune || isDigitRune rune ||
    ("@._-\\".toList.map Char.toNat).contains rune

def validUnit (unit : Text) : Bool :=
  unit ≠ [] && unit.length ≤ 256 &&
    (match runes unit with
      | [] => false
      | first :: rest =>
          isUnitStart isLetter first && rest.all (isUnitChar isLetter)) &&
    unit.contains (byte '.')

end Units

/-! ## The first request -/

/-- What an error says; the last two are errors of `net/http` and `net/url`. -/
inductive Message where
  | plain (message : String)
  | invalidMethod (method : Text)
  | unparsed (url : Text) (failure : Failure)
  deriving DecidableEq, Repr

structure ErrorResponse where
  code : String
  message : Message
  name : Option Text
  deriving DecidableEq, Repr

def errorResponse (code message : String) : ErrorResponse :=
  ⟨code, .plain message, none⟩

def validateServicePath (raw : Text) : Except String Unit :=
  if raw = [] ∨ ¬ (text "/").isPrefixOf raw ∨ (text "//").isPrefixOf raw then
    .error "path must be a root-relative URL path"
  else
    match parse raw with
    | .error _ => .error "path must not include a host"
    | .ok parsed =>
        if parsed.scheme ≠ [] ∨ parsed.host ≠ [] then
          .error "path must not include a host"
        else .ok ()

/-- Where a request goes: to a service, or to the journal of a unit. -/
inductive Target where
  | service (service : PublishedService)
  | journald (unit : Text)
  deriving DecidableEq, Repr

/-- What the handlers ask: the tables of Unicode, the processes, and the
journal, whose handler sends no request. -/
structure Surroundings where
  isLetter : Nat → Bool
  alive : Int → Bool
  serveHTTP : Text → Text → Text → Option (Nat × List (Text × Text) × Text)
  openSSE : Text → Text → Except String Text

/-- Parameters that cannot be decoded are `none`, and so is the registry of an
agent that has none. -/
def parseServiceHTTP (surroundings : Surroundings)
    (registry : Option Registry) (params : Option ServicesHTTPParams) :
    Except ErrorResponse (ServicesHTTPParams × Target) :=
  match params with
  | none => .error (errorResponse "proto" "invalid services.http parameters")
  | some params =>
      let notFound : ErrorResponse :=
        ⟨"not_found", .plain "service not found", some params.name⟩
      let accepted (target : Target) :=
        match validateServicePath params.path with
        | .error message => .error (errorResponse "proto" message)
        | .ok () =>
            .ok ({ params with method :=
              if params.method = [] then text "GET" else params.method },
              target)
      match registry with
      | none => .error notFound
      | some registry =>
          match registry.get surroundings.alive params.name with
          | some service => accepted (.service service)
          | none =>
              if validUnit surroundings.isLetter params.name then
                accepted (.journald params.name)
              else .error notFound

/-- The bytes of a token, as names of methods and headers are. -/
def isToken (letter : UInt8) : Bool :=
  isAlpha letter || isDigit letter || letter = 0x60 ||
    (text "!#$%&'*+-.^_|~").contains letter

structure Request where
  method : Text
  url : URL
  headers : List (Text × Text)
  body : Option Text
  deriving DecidableEq, Repr

/-- A colon at the end of a host goes. -/
def removeEmptyPort (host : Text) : Text :=
  if host.getLast? = some (byte ':') then host.dropLast else host

def newRequest (method url : Text) (body : Option Text) :
    Except Message Request :=
  let method := if method = [] then text "GET" else method
  if method.all isToken = false then .error (.invalidMethod method)
  else
    match parse url with
    | .error failure => .error (.unparsed url failure)
    | .ok parsed => .ok {
        method := method
        url := { parsed with host := removeEmptyPort parsed.host }
        headers := []
        body := body }

/-- The value of a letter of the standard alphabet of base64. -/
def sextet (letter : UInt8) : Option Nat :=
  if byte 'A' ≤ letter ∧ letter ≤ byte 'Z' then
    some (letter.toNat - 65)
  else if byte 'a' ≤ letter ∧ letter ≤ byte 'z' then
    some (letter.toNat - 97 + 26)
  else if isDigit letter then some (letter.toNat - 48 + 52)
  else if letter = byte '+' then some 62
  else if letter = byte '/' then some 63
  else none

/-- Padding stands only at the end, and fills the last group of four. -/
def decodeGroups : Text → Option Text
  | [] => some []
  | first :: second :: third :: fourth :: rest => do
      let one ← sextet first
      let two ← sextet second
      let high := UInt8.ofNat (one * 4 + two / 16)
      if third = byte '=' then
        guard (fourth = byte '=' ∧ rest = [])
        return [high]
      else
        let three ← sextet third
        let middle := UInt8.ofNat (two % 16 * 16 + three / 4)
        if fourth = byte '=' then
          guard (rest = [])
          return [high, middle]
        else
          let four ← sextet fourth
          let later ← decodeGroups rest
          return high :: middle ::
            UInt8.ofNat (three % 4 * 64 + four) :: later
  | _ => none

/-- `base64.StdEncoding.DecodeString`, which skips the ends of lines. -/
def decodeString (encoded : Text) : Option Text :=
  decodeGroups (encoded.filter fun letter => letter ≠ 10 && letter ≠ 13)

/-- Capital letters at the beginning and after hyphens. -/
def canonicalLetters (upper : Bool) : Text → Text
  | [] => []
  | letter :: rest =>
      (if upper && (byte 'a' ≤ letter && letter ≤ byte 'z') then letter - 32
        else if upper then letter
        else lowerByte letter) ::
        canonicalLetters (letter = byte '-') rest

def canonicalHeaderKey (key : Text) : Text :=
  if key.all isToken then canonicalLetters true key else key

/-- `Header.Set`. -/
def setHeader (headers : List (Text × Text)) (item : Text × Text) :
    List (Text × Text) :=
  headers.filter (·.1 ≠ canonicalHeaderKey item.1) ++
    [(canonicalHeaderKey item.1, item.2)]

def requestBody (bodyB64 : Text) : Except Message (Option Text) :=
  if bodyB64 = [] then .ok none
  else
    match decodeString bodyB64 with
    | none => .error (.plain "invalid body_b64")
    | some decoded => .ok (some decoded)

def buildServiceRequest (origin : Text) (params : ServicesHTTPParams) :
    Except Message Request :=
  match parse origin with
  | .error _ => .error (.plain "invalid origin")
  | .ok target =>
      match parse params.path with
      | .error _ => .error (.plain "invalid path")
      | .ok relative =>
          let resolved := target.resolveReference relative
          match validateLoopbackURL resolved.string with
          | .error message => .error (.plain message)
          | .ok () => do
              let body ← requestBody params.bodyB64
              let request ← newRequest params.method resolved.string body
              return { request with
                headers := params.headers.foldl setHeader request.headers }

/-! ## The client -/

/-- A reply; `complete` says that its body does not break off. -/
structure Reply where
  status : Nat
  headers : List (Text × List Text)
  body : Text
  complete : Bool
  deriving DecidableEq, Repr

/-- `Header.Get`. -/
def Reply.header (reply : Reply) (key : Text) : Text :=
  match reply.headers.lookup key with
  | some (first :: _) => first
  | _ => []

/-- The location that the client goes to next. -/
def Reply.redirection (reply : Reply) : Option Text :=
  let location := reply.header (text "Location")
  if reply.status ∈ [301, 302, 303, 307, 308] ∧ location ≠ [] then
    some location
  else none

/-- The transport takes a request for such a URL. -/
def Sendable (url : URL) : Prop := HTTPScheme url.scheme ∧ url.host ≠ []

instance (url : URL) : Decidable (Sendable url) :=
  inferInstanceAs (Decidable (_ ∧ _))

/-- The requests that the client sends, at most `remaining` of them, and the
reply it ends with.  A missing reply is a request that failed. -/
def exchange : Nat → URL → List Reply → List URL × Option Reply
  | 0, _, _ => ([], none)
  | remaining + 1, url, replies =>
      if ¬ Sendable url then ([], none)
      else
        match replies with
        | [] => ([url], none)
        | reply :: replies =>
            match reply.redirection with
            | none => ([url], some reply)
            | some location =>
                match parse location with
                | .error _ => ([url], none)
                | .ok reference =>
                    let later := exchange remaining
                      (url.resolveReference reference) replies
                    (url :: later.1, later.2)

/-- The transport sends no header with a control character. -/
def validHeader (item : Text × Text) : Bool :=
  item.1 ≠ [] && item.1.all isToken &&
    item.2.all fun letter => letter = 9 || (32 ≤ letter && letter ≠ 127)

/-- `Client.Do`.  The requests for redirects carry no headers besides those of
the first request and the URL they come from. -/
def clientDo (request : Request) (replies : List Reply) :
    List URL × Option Reply :=
  if request.headers.all validHeader then exchange 10 request.url replies
  else ([], none)

/-! ## The handlers -/

def maxServiceHTTPBytes : Nat := 256 * 1024

def flattenHeaders (headers : List (Text × List Text)) : List (Text × Text) :=
  headers.filterMap fun item => item.2.head?.map (item.1, ·)

def readCapped (reply : Reply) (limit : Nat) : Option (Text × Bool) :=
  if limit < reply.body.length then some (reply.body.take limit, true)
  else if reply.complete then some (reply.body, false)
  else none

structure ServiceResult where
  status : Nat
  headers : List (Text × Text)
  body : Text
  truncated : Bool
  name : Text
  kind : Text
  deriving DecidableEq, Repr

/-- The URLs of the requests that are sent, and the answer. -/
def handleServicesHTTP (surroundings : Surroundings)
    (registry : Option Registry) (params : Option ServicesHTTPParams)
    (replies : List Reply) : List URL × Except ErrorResponse ServiceResult :=
  match parseServiceHTTP surroundings registry params with
  | .error response => ([], .error response)
  | .ok (params, .journald unit) =>
      match surroundings.serveHTTP unit params.method params.path with
      | none => ([], .error (errorResponse "internal"
          "journald request failed"))
      | some (status, headers, body) =>
          ([], .ok ⟨status, headers, body, false, unit, text "journald"⟩)
  | .ok (params, .service service) =>
      match buildServiceRequest service.url params with
      | .error message => ([], .error ⟨"proto", message, none⟩)
      | .ok request =>
          let (sent, reply) := clientDo request replies
          match reply with
          | none => (sent, .error (errorResponse "internal"
              "upstream request failed"))
          | some reply =>
              match readCapped reply maxServiceHTTPBytes with
              | none => (sent, .error (errorResponse "internal"
                  "upstream read failed"))
              | some (body, truncated) =>
                  (sent, .ok ⟨reply.status, flattenHeaders reply.headers, body,
                    truncated, service.name, service.kind⟩)

structure StreamResult where
  status : Nat
  contentType : Text
  name : Text
  kind : Text
  stream : Text
  deriving DecidableEq, Repr

def prepareServiceStream (surroundings : Surroundings)
    (registry : Option Registry) (params : Option ServicesHTTPParams)
    (replies : List Reply) : List URL × Except ErrorResponse StreamResult :=
  match parseServiceHTTP surroundings registry params with
  | .error response => ([], .error response)
  | .ok (params, .journald unit) =>
      match surroundings.openSSE unit params.path with
      | .error message => ([], .error (errorResponse "internal" message))
      | .ok stream => ([], .ok ⟨200, text "text/event-stream", unit,
          text "journald", stream⟩)
  | .ok (params, .service service) =>
      match buildServiceRequest service.url params with
      | .error message => ([], .error ⟨"proto", message, none⟩)
      | .ok request =>
          let (sent, reply) := clientDo request replies
          match reply with
          | none => (sent, .error (errorResponse "internal"
              "upstream request failed"))
          | some reply =>
              (sent, .ok ⟨reply.status, reply.header (text "Content-Type"),
                service.name, service.kind, reply.body⟩)

/-- The two requests that go to services. -/
inductive ServiceMethod where
  | http
  | stream
  deriving DecidableEq, Repr

/-- The URLs of the requests that the agent sends. -/
def sentRequests (method : ServiceMethod) (surroundings : Surroundings)
    (registry : Option Registry) (params : Option ServicesHTTPParams)
    (replies : List Reply) : List URL :=
  match method with
  | .http => (handleServicesHTTP surroundings registry params replies).1
  | .stream => (prepareServiceStream surroundings registry params replies).1

end PublishedServices

end Vzctl
