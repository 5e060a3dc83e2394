import Mathlib.Algebra.Group.Int.Defs
import Mathlib.Algebra.Group.Nat.Defs
import Mathlib.Data.List.TakeWhile
import Vzctl.Lib.Decimal

/-!
# IPv4 addresses as text

`inet_pton` and `inet_ntop` on 32-bit numbers in host order, and the reading of
integers.  Every address has exactly one text that is read as it.
-/

namespace Vzctl

/-- What a C function reads of a Swift string. -/
def cString (value : String) : String :=
  String.ofList (value.toList.takeWhile (· ≠ '\x00'))

/-- One part of a dotted quad. -/
def parseOctet (text : List Char) : Option Nat :=
  (Decimal.parse text).filter (· ≤ 255)

/-- The address whose dotted quad has these octets. -/
def addressOfOctets (first second third fourth : Nat) : UInt32 :=
  UInt32.ofNat (((first * 256 + second) * 256 + third) * 256 + fourth)

/-- `inet_pton(AF_INET, value)`: four octets without leading zeros. -/
def inetPton (value : String) : Option UInt32 :=
  match (cString value).toList.splitOn '.' with
  | [first, second, third, fourth] => do
      let first ← parseOctet first
      let second ← parseOctet second
      let third ← parseOctet third
      let fourth ← parseOctet fourth
      return addressOfOctets first second third fourth
  | _ => none

def octetsOf (address : UInt32) : List Nat :=
  [address.toNat / 2 ^ 24, address.toNat / 2 ^ 16 % 256,
    address.toNat / 2 ^ 8 % 256, address.toNat % 256]

/-- `inet_ntop(AF_INET, address)`. -/
def inetNtop (address : UInt32) : String :=
  String.ofList (['.'].intercalate ((octetsOf address).map (Nat.toDigits 10)))

/-- `Int(text)`. -/
def swiftInt (text : List Char) : Option Int :=
  let sign : Int := if text.head? = some '-' then -1 else 1
  let digits :=
    if text.head? = some '-' ∨ text.head? = some '+' then text.tail else text
  if digits ≠ [] ∧ digits.all Char.isDigit = true then
    let value := sign * (Nat.ofDigitChars 10 digits 0 : Int)
    if -2 ^ 63 ≤ value ∧ value < 2 ^ 63 then some value else none
  else
    none

theorem parseOctet_eq_some_iff {text : List Char} {value : Nat} :
    parseOctet text = some value ↔
      text = Nat.toDigits 10 value ∧ value ≤ 255 := by
  rw [parseOctet, Option.filter_eq_some_iff, Decimal.parse_eq_some_iff,
    decide_eq_true_eq]

theorem not_mem_toDigits {character : Char}
    (noDigit : character.isDigit = false) (value : Nat) :
    character ∉ Nat.toDigits 10 value := by
  intro member
  have isDigit := Nat.isDigit_of_mem_toDigits (by omega) (by omega) member
  rw [noDigit] at isDigit
  cases isDigit

theorem not_mem_inetNtop {character : Char}
    (noDigit : character.isDigit = false) (noDot : character ≠ '.')
    (address : UInt32) : character ∉ (inetNtop address).toList := by
  intro member
  simp only [inetNtop, octetsOf, List.map_cons, List.map_nil,
    String.toList_ofList, List.intercalate, List.intersperse,
    List.flatten_cons, List.flatten_nil, List.append_nil, List.mem_append,
    List.mem_singleton, noDot, not_mem_toDigits noDigit, false_or] at member

theorem cString_of_not_mem {value : String}
    (noNul : '\x00' ∉ value.toList) : cString value = value := by
  have whole : value.toList.takeWhile (· ≠ '\x00') = value.toList := by
    rw [List.takeWhile_eq_self_iff]
    intro character member
    simp only [ne_eq, decide_not, Bool.not_eq_true', decide_eq_false_iff_not]
    rintro rfl
    exact noNul member
  rw [cString, whole, String.ofList_toList]

@[simp]
theorem cString_inetNtop (address : UInt32) :
    cString (inetNtop address) = inetNtop address :=
  cString_of_not_mem (not_mem_inetNtop (by decide) (by decide) address)

@[simp]
theorem cString_cString (value : String) :
    cString (cString value) = cString value := by
  apply cString_of_not_mem
  intro member
  rw [cString, String.toList_ofList] at member
  have kept := List.mem_takeWhile_imp member
  simp at kept

theorem inetPton_cString (value : String) :
    inetPton (cString value) = inetPton value := by
  rw [inetPton, cString_cString, ← inetPton]

private theorem addressOfOctets_octets (address : UInt32) :
    addressOfOctets (address.toNat / 2 ^ 24) (address.toNat / 2 ^ 16 % 256)
      (address.toNat / 2 ^ 8 % 256) (address.toNat % 256) = address := by
  have bound := address.toNat_lt
  have whole : ((address.toNat / 2 ^ 24 * 256 +
      address.toNat / 2 ^ 16 % 256) * 256 +
      address.toNat / 2 ^ 8 % 256) * 256 + address.toNat % 256 =
      address.toNat := by
    omega
  rw [addressOfOctets, whole, UInt32.ofNat_toNat]

theorem inetPton_inetNtop (address : UInt32) :
    inetPton (inetNtop address) = some address := by
  have bound := address.toNat_lt
  have octet : ∀ value ≤ 255,
      parseOctet (Nat.toDigits 10 value) = some value := by
    intro value small
    exact parseOctet_eq_some_iff.mpr ⟨rfl, small⟩
  have parts : (inetNtop address).toList.splitOn '.' =
      (octetsOf address).map (Nat.toDigits 10) := by
    rw [inetNtop, String.toList_ofList]
    apply List.splitOn_intercalate
    · intro part member
      obtain ⟨value, _, rfl⟩ := List.mem_map.mp member
      exact not_mem_toDigits (by decide) value
    · simp [octetsOf]
  rw [inetPton, cString_inetNtop, parts]
  simp only [octetsOf, List.map_cons, List.map_nil]
  rw [octet _ (by omega), octet _ (by omega), octet _ (by omega),
    octet _ (by omega)]
  exact congrArg some (addressOfOctets_octets address)

theorem eq_inetNtop_of_inetPton {value : String} {address : UInt32}
    (accepted : inetPton value = some address) :
    cString value = inetNtop address := by
  unfold inetPton at accepted
  split at accepted
  · rename_i first second third fourth parts
    simp only [Option.bind_eq_bind, Option.bind_eq_some_iff,
      Option.pure_def, Option.some.injEq, parseOctet_eq_some_iff] at accepted
    obtain ⟨a, ⟨rfl, aSmall⟩, b, ⟨rfl, bSmall⟩, c, ⟨rfl, cSmall⟩, d,
      ⟨rfl, dSmall⟩, rfl⟩ := accepted
    have number : (addressOfOctets a b c d).toNat =
        ((a * 256 + b) * 256 + c) * 256 + d := by
      rw [addressOfOctets]
      exact UInt32.toNat_ofNat_of_lt' (by
        change _ < 2 ^ 32
        omega)
    have octets : octetsOf (addressOfOctets a b c d) = [a, b, c, d] := by
      rw [octetsOf, number]
      simp only [List.cons.injEq, and_true]
      omega
    have joined : ['.'].intercalate ((cString value).toList.splitOn '.') =
        (cString value).toList := List.intercalate_splitOn '.'
    rw [← String.toList_inj, inetNtop, octets, String.toList_ofList,
      ← joined, parts]
    rfl
  · cases accepted

theorem swiftInt_toDigits {value : Nat} (small : value < 2 ^ 63) :
    swiftInt (Nat.toDigits 10 value) = some (value : Int) := by
  have plain : ∀ character ∈ Nat.toDigits 10 value,
      character.isDigit = true := by
    intro character member
    exact Nat.isDigit_of_mem_toDigits (by omega) (by omega) member
  have noSign : ∀ sign : Char, sign.isDigit = false →
      (Nat.toDigits 10 value).head? ≠ some sign := by
    intro sign noDigit head
    have isDigit := plain sign (List.mem_of_mem_head? head)
    rw [noDigit] at isDigit
    cases isDigit
  have noMinus := noSign '-' (by decide)
  have noPlus := noSign '+' (by decide)
  have digits : Nat.toDigits 10 value ≠ [] ∧
      (Nat.toDigits 10 value).all Char.isDigit = true :=
    ⟨Nat.toDigits_ne_nil, List.all_eq_true.mpr plain⟩
  simp only [swiftInt, noMinus, noPlus, or_self, if_false, Int.one_mul]
  rw [if_pos digits, Nat.ofDigitChars_ten_toDigits, if_pos (by omega)]

end Vzctl
