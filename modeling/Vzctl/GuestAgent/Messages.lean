import Vzctl.Json

/-!
# Messages of the guest agent

Requests and responses of `vzctl-agent`, with the answers that the connection
gives by itself.  What a method does inside the guest is left to the outcome
that it reports.
-/

namespace Vzctl

/-- What a Go `any` holds in a response.  A Go string is any sequence of
bytes; a floating-point number is given by its JSON text. -/
inductive GoValue where
  | null
  | bool (value : Bool)
  | int (value : Int)
  | float (text : String)
  | string (bytes : List UInt8)
  | array (items : List GoValue)
  | map (fields : List (String × GoValue))

def GoValue.ofString (text : String) : GoValue :=
  .string text.toUTF8.data.toList

namespace GuestAgent

def protocolVersion : Int := 1

/-! ## Responses -/

structure WireError where
  code : String
  message : List UInt8
  details : List (String × GoValue)

/-- `response`; a result is a map. -/
structure Response where
  v : Int
  id : String
  outcome : Except WireError (List (String × GoValue))

def successResponse (id : String) (result : List (String × GoValue)) :
    Response where
  v := protocolVersion
  id := id
  outcome := .ok result

def wireError (code message : String)
    (details : List (String × GoValue) := []) : WireError where
  code := code
  message := message.toUTF8.data.toList
  details := details

def errorResponse (id : String) (error : WireError) : Response where
  v := protocolVersion
  id := id
  outcome := .error error

end GuestAgent

end Vzctl
