import Mathlib.Data.List.Basic
import Mathlib.Data.List.DropRight
import Mathlib.Data.List.TakeWhile

/-!
# Texts

White space as Rust sees it, hexadecimal digits, and sizes of texts in UTF-8.
-/

namespace Texts

/-- `char::is_whitespace`. -/
def isWhitespace (character : Char) : Bool :=
  let code := character.toNat
  (0x9 ≤ code && code ≤ 0xd) || code == 0x20 || code == 0x85 ||
    code == 0xa0 || code == 0x1680 || (0x2000 ≤ code && code ≤ 0x200a) ||
    code == 0x2028 || code == 0x2029 || code == 0x202f || code == 0x205f ||
    code == 0x3000

/-- `trim().is_empty()`. -/
def blank (text : String) : Bool := text.toList.all isWhitespace

/-- `trim`. -/
def trim (text : String) : String :=
  String.ofList
    ((text.toList.dropWhile isWhitespace).rdropWhile isWhitespace)

/-- `format!("{byte:02x}")` for all bytes. -/
def hexadecimal (bytes : List UInt8) : String :=
  String.ofList <| bytes.flatMap fun byte =>
    [Nat.digitChar (byte.toNat / 16), Nat.digitChar (byte.toNat % 16)]

/-- `==` of Swift on texts that are no other spelling of each other. -/
def exactly (text other : String) : Bool := text = other

theorem exactly_iff {text other : String} :
    exactly text other = true ↔ text = other := decide_eq_true_iff

theorem isWhitespace_digitChar :
    ∀ digit < 16, isWhitespace (Nat.digitChar digit) = false := by
  decide

theorem utf8Size_digitChar :
    ∀ digit < 16, (Nat.digitChar digit).utf8Size = 1 := by
  decide

theorem size_utf8Encode {characters : List Char}
    (single : ∀ character ∈ characters, character.utf8Size = 1) :
    characters.utf8Encode.size = characters.length := by
  induction characters with
  | nil => rfl
  | cons character rest ih =>
      have inside := List.forall_mem_cons.mp single
      rw [List.utf8Encode_cons, ByteArray.size_append,
        ih inside.2, List.length_cons,
        List.utf8Encode_singleton, List.size_toByteArray,
        String.length_utf8EncodeChar, inside.1, Nat.add_comm]

theorem trim_of_visible {text : String}
    (visible : ∀ character ∈ text.toList, isWhitespace character = false) :
    trim text = text := by
  have front : text.toList.dropWhile isWhitespace = text.toList := by
    rw [List.dropWhile_eq_self_iff]
    intro nonempty
    rw [visible _ (List.getElem_mem nonempty)]
    exact Bool.false_ne_true
  have back : text.toList.rdropWhile isWhitespace = text.toList := by
    rw [List.rdropWhile_eq_self_iff]
    intro nonempty
    rw [visible _ (List.getLast_mem nonempty)]
    exact Bool.false_ne_true
  rw [trim, front, back, String.ofList_toList]

theorem trim_hexadecimal (bytes : List UInt8) :
    trim (hexadecimal bytes) = hexadecimal bytes := by
  apply trim_of_visible
  intro character member
  rw [hexadecimal, String.toList_ofList] at member
  obtain ⟨byte, _, member⟩ := List.mem_flatMap.mp member
  have small := byte.toNat_lt
  rcases List.mem_pair.mp member with rfl | rfl
  · exact isWhitespace_digitChar _ (by omega)
  · exact isWhitespace_digitChar _ (by omega)

end Texts
