import Vzctl.Lib.Dictionary
import Vzctl.Lib.Positions

/-!
# Requests of the REST listener

`RestHTTP` of vz-supervisor.  A text is the list of its Characters, which are
short strings.  The tables of Unicode stay outside: `Unicode` names what the
parser asks of them.
-/

namespace Vzctl

open Positions

abbrev Text := List String

/-- `decoded` is `String(data:encoding: .utf8)`, `canonical` the form under
which two texts are compared as keys of a dictionary. -/
structure Unicode where
  decoded : List UInt8 → Option Text
  trimmed : String → String
  lowercased : String → String
  uppercased : String → String
  canonical : String → String

structure RestHTTPRequest where
  method : String
  path : Text
  query : Dictionary String
  headers : Dictionary String
  body : List UInt8

namespace RestHTTP

variable (unicode : Unicode)

/-! ## Integers -/

def digitValue (digit : Char) : Nat :=
  if '0' ≤ digit ∧ digit ≤ '9' then digit.toNat - '0'.toNat
  else if 'a' ≤ digit ∧ digit ≤ 'z' then digit.toNat - 'a'.toNat + 10
  else if 'A' ≤ digit ∧ digit ≤ 'Z' then digit.toNat - 'A'.toNat + 10
  else 36

def parseDigits (radix : Nat) (digits : List Char) : Option Nat :=
  if digits = [] then none
  else if digits.all fun digit => digitValue digit < radix then
    some (digits.foldl
      (fun value digit => value * radix + digitValue digit) 0)
  else none

/-- `FixedWidthInteger.init?(_:radix:)`: a sign is optional, and a value out
of range is none. -/
def parseInteger (radix : Nat) (least greatest : Int) (text : String) :
    Option Int :=
  let signed :=
    match text.toList with
    | '-' :: digits =>
        (parseDigits radix digits).map fun value => - Int.ofNat value
    | '+' :: digits => (parseDigits radix digits).map Int.ofNat
    | digits => (parseDigits radix digits).map Int.ofNat
  signed.filter fun value => least ≤ value && value ≤ greatest

/-- `Int(text)`. -/
def parseInt (text : String) : Option Int :=
  parseInteger 10 (-9223372036854775808) 9223372036854775807 text

/-- `UInt8(hex, radix: 16)`. -/
def parseByte (hex : Text) : Option Int :=
  parseInteger 16 0 255 (String.join hex)

/-! ## Targets -/

/-- The byte of the escape at `i`, where there is one.  The position after it
is taken here as well. -/
def escapeAt (value : Text) (ch : String) (i : Nat) :
    Except Violation (Option Int) :=
  if ch = "%" ∧ (indexLimited value i 2).isSome then do
    let lower ← indexAfter value i
    let upper ← indexOffset value i 2
    let hex ← closedSlice value lower upper
    match parseByte hex with
    | some byte => do
        let _ ← indexOffset value i 3
        pure (some byte)
    | none => pure none
  else pure none

def percentDecodeFrom (value : Text) (result : String) (i : Nat) :
    Except Violation String :=
  if i < value.length then do
    let ch ← element value i
    match ← escapeAt value ch i with
    | some byte =>
        percentDecodeFrom value (result.push (Char.ofNat byte.toNat)) (i + 3)
    | none => do
        let _ ← indexAfter value i
        percentDecodeFrom value
          (result ++ if ch = "+" then " " else ch) (i + 1)
  else pure result
termination_by value.length - i

def percentDecode (value : Text) : Except Violation String :=
  percentDecodeFrom value "" 0

def pathSegments (path : Text) : Except Violation (List String) :=
  (split (· = "/") none true path).mapM percentDecode

def queryPairs (queryString : Text) : List Text :=
  split (· = "&") none true queryString

def pairPieces (pair : Text) : List Text :=
  split (· = "=") (some 1) true pair

def readPair (query : Dictionary String) (pair : Text) :
    Except Violation (Dictionary String) := do
  let pieces := pairPieces pair
  let first ← element pieces 0
  let key ← percentDecode first
  let value ←
    if 1 < pieces.length then do
      let second ← element pieces 1
      percentDecode second
    else pure ""
  pure (query.insert (unicode.canonical key) value)

def splitTarget (target : Text) :
    Except Violation (Text × Dictionary String) :=
  match target.findIdx? (· = "?") with
  | none => pure (target, ∅)
  | some q => do
      let path ← slice target 0 q
      let queryStart ← indexAfter target q
      let queryString ← slice target queryStart target.length
      let query ← (queryPairs queryString).foldlM (readPair unicode) ∅
      pure (path, query)

/-! ## Messages -/

def patternAt (data : List UInt8) (i : Nat) : Except Violation Bool := do
  let first ← element data i
  if first ≠ 0x0D then pure false else
  let second ← element data (i + 1)
  if second ≠ 0x0A then pure false else
  let third ← element data (i + 2)
  if third ≠ 0x0D then pure false else
  let fourth ← element data (i + 3)
  pure (fourth = 0x0A)

/-- The loop over the positions from `i` on, of which `remaining` are left. -/
def findHeaderEndFrom (data : List UInt8) (i : Nat) :
    Nat → Except Violation (Option Nat)
  | 0 => pure none
  | remaining + 1 => do
      if ← patternAt data i then pure (some i)
      else findHeaderEndFrom data (i + 1) remaining

def findHeaderEnd (data : List UInt8) : Except Violation (Option Nat) :=
  if data.length < 4 then pure none
  else findHeaderEndFrom data 0 (data.length - 3)

def readHeader (headers : Dictionary String) (line : Text) :
    Except Violation (Dictionary String) :=
  match line.findIdx? (· = ":") with
  | none => pure headers
  | some colon => do
      let name ← slice line 0 colon
      let valueStart ← indexAfter line colon
      let value ← slice line valueStart line.length
      pure (headers.insert
        (unicode.canonical
          (unicode.lowercased (unicode.trimmed (String.join name))))
        (unicode.trimmed (String.join value)))

def contentLength (headers : Dictionary String) : Option Int :=
  (headers.lookup "content-length").bind parseInt

/-- The body, cut to its announced length; none when bytes are missing. -/
def readBody (headers : Dictionary String) (body : List UInt8) :
    Except Violation (Option (List UInt8)) :=
  match contentLength headers with
  | none => pure (some body)
  | some length => do
      let bodyData ←
        if length < body.length then firstElements body length
        else pure body
      pure (if bodyData.length < length then none else some bodyData)

/-- The request that a complete header and the bytes after it make. -/
def readMessage (lines : List Text) (body : List UInt8) :
    Except Violation (Option RestHTTPRequest) :=
  match lines with
  | [] => pure none
  | requestLine :: fields => do
      let parts := split (· = " ") none true requestLine
      if parts.length < 2 then pure none else
      let method ← element parts 0
      let rawTarget ← element parts 1
      let (path, query) ← splitTarget unicode rawTarget
      let headers ← fields.foldlM (readHeader unicode) ∅
      let bodyData ← readBody headers body
      pure (bodyData.map fun sent =>
        { method := unicode.uppercased (String.join method)
          path := path
          query := query
          headers := headers
          body := sent })

def headerLines (headerText : Text) : List Text :=
  split (· = "\r\n") none false headerText

def parseRequest (data : List UInt8) :
    Except Violation (Option RestHTTPRequest) := do
  match ← findHeaderEnd data with
  | none => pure none
  | some headerEnd => do
      let headerData ← slice data 0 headerEnd
      let bodyStart := headerEnd + 4
      let body ←
        if bodyStart < data.length then slice data bodyStart data.length
        else pure []
      match unicode.decoded headerData with
      | none => pure none
      | some headerText =>
          readMessage unicode (headerLines headerText) body

end RestHTTP

end Vzctl
