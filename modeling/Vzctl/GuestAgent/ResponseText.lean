import Vzctl.GuestAgent.Messages
import Vzctl.Lib.JSONText
import Vzctl.Lib.SortedBy
import Vzctl.Lib.Utf8

/-!
# The text of a response

`json.Marshal` of a `response`.  A Go string holds any bytes: those that are
not UTF-8, the control characters and the three characters that HTML gives a
meaning to are written with six bytes each, so text may grow sixfold.
-/

namespace Vzctl

def bytesOf (text : String) : List UInt8 := text.toUTF8.data.toList

namespace GuestAgent

open JSONText Utf8

/-! ## Runes -/

/-- What `appendString` tells apart in the bytes of a string. -/
inductive Rune where
  | ascii (byte : UInt8)
  /-- U+2028 or U+2029, by its last four bits. -/
  | separator (low : UInt8)
  | encoded (bytes : List UInt8)
  /-- A byte that no rune starts with. -/
  | invalid

/-- The rune that starts with a byte, and the number of bytes to skip. -/
def runeAt (first : UInt8) (rest : List UInt8) : Rune × Nat :=
  if first < 0x80 then
    (.ascii first, 0)
  else
    match continuation first rest with
    | none => (.invalid, 0)
    | some tail =>
        if first :: tail = [0xe2, 0x80, 0xa8] then (.separator 0x8, 2)
        else if first :: tail = [0xe2, 0x80, 0xa9] then (.separator 0x9, 2)
        else (.encoded (first :: tail), tail.length)

/-- The runes of the bytes behind the next `skip`. -/
def runesFrom : Nat → List UInt8 → List Rune
  | _, [] => []
  | skip + 1, _ :: rest => runesFrom skip rest
  | 0, first :: rest =>
      (runeAt first rest).1 :: runesFrom (runeAt first rest).2 rest

def runes (bytes : List UInt8) : List Rune := runesFrom 0 bytes

/-! ## Strings -/

def hex (nibble : UInt8) : UInt8 :=
  if nibble < 10 then 0x30 + nibble else 0x57 + nibble

/-- `appendString`, for one rune. -/
def Rune.escaped : Rune → List UInt8
  | .ascii byte =>
      if byte = 0x22 ∨ byte = 0x5c then [0x5c, byte]
      else if byte = 0x08 then bytesOf "\\b"
      else if byte = 0x0c then bytesOf "\\f"
      else if byte = 0x0a then bytesOf "\\n"
      else if byte = 0x0d then bytesOf "\\r"
      else if byte = 0x09 then bytesOf "\\t"
      else if byte < 0x20 ∨ byte = 0x3c ∨ byte = 0x3e ∨ byte = 0x26 then
        bytesOf "\\u00" ++ [hex (byte >>> 4), hex (byte &&& 0xf)]
      else [byte]
  | .separator low => bytesOf "\\u202" ++ [hex low]
  | .encoded bytes => bytes
  | .invalid => bytesOf "\\ufffd"

def appendString (bytes : List UInt8) : List UInt8 :=
  0x22 :: (runes bytes).flatMap Rune.escaped ++ [0x22]

/-- The bytes that a rune takes in the text. -/
def Rune.weight : Rune → Nat
  | .ascii byte =>
      if byte = 0x22 ∨ byte = 0x5c ∨ byte = 0x08 ∨ byte = 0x0c ∨
          byte = 0x0a ∨ byte = 0x0d ∨ byte = 0x09 then 2
      else if byte < 0x20 ∨ byte = 0x3c ∨ byte = 0x3e ∨ byte = 0x26 then 6
      else 1
  | .separator _ => 6
  | .encoded bytes => bytes.length
  | .invalid => 6

/-- The bytes that a string takes between its quotes. -/
def weight (bytes : List UInt8) : Nat :=
  ((runes bytes).map Rune.weight).sum

theorem Rune.length_escaped (rune : Rune) :
    rune.escaped.length = rune.weight := by
  cases rune with
  | ascii byte =>
      simp only [Rune.escaped, Rune.weight]
      by_cases quoted : byte = 0x22 ∨ byte = 0x5c
      · rw [if_pos quoted, if_pos (by tauto)]
        rfl
      · rw [if_neg quoted]
        by_cases short : byte = 0x08 ∨ byte = 0x0c ∨ byte = 0x0a ∨
            byte = 0x0d ∨ byte = 0x09
        · rcases short with rfl | rfl | rfl | rfl | rfl <;> decide
        · have notSpecial : ¬ (byte = 0x22 ∨ byte = 0x5c ∨ byte = 0x08 ∨
              byte = 0x0c ∨ byte = 0x0a ∨ byte = 0x0d ∨ byte = 0x09) := by
            tauto
          simp only [not_or] at short
          rw [if_neg notSpecial, if_neg short.1, if_neg short.2.1,
            if_neg short.2.2.1, if_neg short.2.2.2.1, if_neg short.2.2.2.2]
          split
          · rfl
          · rfl
  | separator low => rfl
  | encoded bytes => rfl
  | invalid => rfl

theorem length_appendString (bytes : List UInt8) :
    (appendString bytes).length = weight bytes + 2 := by
  have inside : ((runes bytes).flatMap Rune.escaped).length =
      weight bytes := by
    rw [List.length_flatMap, weight]
    congr 1
    exact List.map_congr_left fun rune _ => rune.length_escaped
  simp only [appendString, List.length_append, List.length_cons, inside,
    List.length_nil]

/-! ## Values and responses -/

mutual

def valueTree : GoValue → JSONText.Tree (List UInt8)
  | .null => .literal (bytesOf "null")
  | .bool value => .literal (bytesOf (toString value))
  | .int value => .literal (bytesOf (toString value))
  | .float text => .literal (bytesOf text)
  | .string bytes => .string bytes
  | .array items => .array (valueTrees items)
  | .map fields => .object (fieldTrees fields)

def valueTrees : List GoValue → List (JSONText.Tree (List UInt8))
  | [] => []
  | value :: values => valueTree value :: valueTrees values

def fieldTrees :
    List (String × GoValue) → List (List UInt8 × JSONText.Tree (List UInt8))
  | [] => []
  | (key, value) :: fields => (bytesOf key, valueTree value) :: fieldTrees fields

end

def WireError.tree (error : WireError) : JSONText.Tree (List UInt8) :=
  .record <|
    [(bytesOf "code", .string (bytesOf error.code)),
      (bytesOf "message", .string error.message)] ++
    if error.details.isEmpty then []
    else [(bytesOf "details", .object (fieldTrees error.details))]

def Response.tree (response : Response) : JSONText.Tree (List UInt8) :=
  .record <|
    [(bytesOf "v", .literal (bytesOf (toString response.v))),
      (bytesOf "id", .string (bytesOf response.id))] ++
    match response.outcome with
    | .ok result =>
        [(bytesOf "ok", .literal (bytesOf "true")),
          (bytesOf "result", .object (fieldTrees result))]
    | .error error =>
        [(bytesOf "ok", .literal (bytesOf "false")),
          (bytesOf "error", error.tree)]

/-- `encoding/json` sorts the keys of a map by their bytes. -/
def goWriter : Writer (List UInt8) where
  quote := appendString
  order := sortedBy fun member => member.1.map UInt8.toNat
  order_perm _ := SortedBy.perm_sortedBy

/-- `json.Marshal`. -/
def Response.marshal (response : Response) : List UInt8 :=
  encode goWriter response.tree

/-- The size of a response, counted rune by rune. -/
def Response.size (response : Response) : Nat :=
  JSONText.size (fun bytes => weight bytes + 2) response.tree

theorem Response.length_marshal (response : Response) :
    response.marshal.length = response.size :=
  length_encode length_appendString response.tree

theorem Response.size_pos (response : Response) : 0 < response.size := by
  simp only [Response.size, Response.tree, JSONText.size, enclosed]
  omega

end GuestAgent

end Vzctl
