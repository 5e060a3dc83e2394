/-!
# Runes in UTF-8

Which bytes make a rune of two bytes or more, as the decoder of Go reads them:
no form that is longer than it has to be, no surrogate, and nothing above the
last code point.
-/

namespace Utf8

/-- The bytes that follow a first byte, and the range of the second. -/
def following (first : UInt8) : Option (Nat × UInt8 × UInt8) :=
  if 0xc2 ≤ first ∧ first ≤ 0xdf then some (1, 0x80, 0xbf)
  else if first = 0xe0 then some (2, 0xa0, 0xbf)
  else if first = 0xed then some (2, 0x80, 0x9f)
  else if 0xe1 ≤ first ∧ first ≤ 0xef then some (2, 0x80, 0xbf)
  else if first = 0xf0 then some (3, 0x90, 0xbf)
  else if 0xf1 ≤ first ∧ first ≤ 0xf3 then some (3, 0x80, 0xbf)
  else if first = 0xf4 then some (3, 0x80, 0x8f)
  else none

def isContinuation (byte : UInt8) : Bool :=
  0x80 ≤ byte && byte ≤ 0xbf

/-- The bytes that `DecodeRuneInString` takes with a first byte, where they
make a rune. -/
def continuation (first : UInt8) (rest : List UInt8) : Option (List UInt8) :=
  match following first, rest with
  | some (count, low, high), second :: others =>
      let tail := others.take (count - 1)
      if low ≤ second ∧ second ≤ high ∧ tail.length = count - 1 ∧
          tail.all isContinuation then
        some (second :: tail)
      else
        none
  | _, _ => none

/-- The code point of a rune of two bytes or more. -/
def codePoint (first : UInt8) (tail : List UInt8) : Nat :=
  let lead :=
    if tail.length = 1 then 0xc0 else if tail.length = 2 then 0xe0 else 0xf0
  tail.foldl (fun rune byte => rune * 64 + (byte.toNat - 0x80))
    (first.toNat - lead)

theorem take_of_continuation {first : UInt8} {rest tail : List UInt8}
    (taken : continuation first rest = some tail) :
    rest.take tail.length = tail := by
  unfold continuation at taken
  split at taken
  · rename_i count low high second others _
    dsimp only at taken
    split at taken
    · rename_i accepted
      cases taken
      rw [List.length_cons, accepted.2.2.1, List.take_succ_cons]
    · cases taken
  · cases taken

end Utf8
