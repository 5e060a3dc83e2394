import Vzctl.DNS.ZoneBuilder
import Vzctl.Lib.Splitting
import Vzctl.Lib.Texts

/-!
# Reverse scopes of the host

`reverse_zones_for_cidr` of `dns.rs`, which decides for which reverse zones
`vzctl` installs resolver files.  The edge answers the zones of
`reverseZonesFor`.
-/

namespace Vzctl

namespace DNS

namespace ReverseScopes

/-! ## Source -/

structure Failure where
  code : Nat
  message : String
  deriving DecidableEq

def exitInvalid : Nat := 3

def legacyReverseResolverDomain : String := "in-addr.arpa"

/-- `str::parse` of an unsigned integer below a limit. -/
def parseUnsigned (limit : Nat) (text : List Char) : Option Nat :=
  let digits := if text.head? = some '+' then text.tail else text
  if digits ≠ [] ∧ digits.all Char.isDigit = true ∧
      Nat.ofDigitChars 10 digits 0 < limit then
    some (Nat.ofDigitChars 10 digits 0)
  else
    none

/-- The four parts of an address as `u8` each, put together. -/
def parseOctets (address : List Char) : Option UInt32 :=
  match address.splitOn '.' with
  | [first, second, third, fourth] => do
      let first ← parseUnsigned 256 first
      let second ← parseUnsigned 256 second
      let third ← parseUnsigned 256 third
      let fourth ← parseUnsigned 256 fourth
      return addressOfOctets first second third fourth
  | _ => none

/-- The zones of a network address and a prefix. -/
def reverseZoneNames (network : UInt32) (length : Nat) : List String :=
  let zoneOctets := min ((length + 7) / 8) 3
  let zoneBits := zoneOctets * 8
  let count := if zoneBits ≤ length then 1 else 2 ^ (zoneBits - length)
  let stride := 2 ^ (32 - zoneBits)
  (List.range count).map fun index =>
    let bytes := octetsOf (network + UInt32.ofNat (index * stride))
    joined ((bytes.take zoneOctets).reverse.map toString) ++ "." ++
      legacyReverseResolverDomain

def reverseZonesForCidr (cidr : String) : Except Failure (List String) :=
  let invalid : Failure := ⟨exitInvalid,
    "invalid IPv4 CIDR " ++ cidr ++ "; prefix must be /8 through /30"⟩
  match cidr.toList.dropWhile (· ≠ '/') with
  | [] => .error invalid
  | _ :: lengthText =>
      match parseUnsigned (2 ^ 32) lengthText with
      | none => .error invalid
      | some length =>
          if 8 ≤ length ∧ length ≤ 30 then
            match parseOctets (cidr.toList.takeWhile (· ≠ '/')) with
            | none => .error invalid
            | some network =>
                if network &&& AddressMask.clearing (32 - length) ≠
                    network then
                  .error ⟨exitInvalid,
                    "CIDR must use its network address: " ++ cidr⟩
                else
                  .ok (reverseZoneNames network length)
          else
            .error invalid

/-! ## Numbers -/

variable {text : List Char}

theorem parseUnsigned_toDigits {limit value : Nat} (small : value < limit) :
    parseUnsigned limit (Nat.toDigits 10 value) = some value := by
  have plain : ∀ character ∈ Nat.toDigits 10 value,
      character.isDigit = true := by
    intro character member
    exact Nat.isDigit_of_mem_toDigits (by omega) (by omega) member
  have noSign : (Nat.toDigits 10 value).head? ≠ some '+' := by
    intro head
    have digit := plain '+' (List.mem_of_mem_head? head)
    cases digit
  have read : Nat.toDigits 10 value ≠ [] ∧
      (Nat.toDigits 10 value).all Char.isDigit = true ∧
      Nat.ofDigitChars 10 (Nat.toDigits 10 value) 0 < limit := by
    refine ⟨Nat.toDigits_ne_nil, List.all_eq_true.mpr plain, ?_⟩
    rwa [Nat.ofDigitChars_ten_toDigits]
  simp only [parseUnsigned, noSign, if_false]
  rw [if_pos read, Nat.ofDigitChars_ten_toDigits]

theorem mem_of_parseUnsigned {limit value : Nat}
    (parsed : parseUnsigned limit text = some value) :
    ∀ character ∈ text, character = '+' ∨ character.isDigit = true := by
  intro character member
  simp only [parseUnsigned] at parsed
  by_cases signed : text.head? = some '+'
  · rw [if_pos signed] at parsed
    split at parsed
    · rename_i read
      cases text with
      | nil => cases member
      | cons first rest =>
          rcases List.mem_cons.mp member with same | behind
          · exact .inl (same.trans (Option.some.inj signed))
          · exact .inr (List.all_eq_true.mp read.2.1 character behind)
    · cases parsed
  · rw [if_neg signed] at parsed
    split at parsed
    · rename_i read
      exact .inr (List.all_eq_true.mp read.2.1 character member)
    · cases parsed

theorem swiftInt_eq_some_iff {length : Nat}
    (range : 8 ≤ length ∧ length ≤ 30) :
    swiftInt text = some (length : Int) ↔
      parseUnsigned (2 ^ 32) text = some length := by
  by_cases minus : text.head? = some '-'
  · have noPlus : text.head? ≠ some '+' := by
      rw [minus]
      decide
    have noDigits : text.all Char.isDigit = false := by
      cases text with
      | nil => cases minus
      | cons first rest =>
          rw [Option.some.inj minus]
          rfl
    constructor
    · intro parsed
      simp only [swiftInt, minus, if_true, true_or] at parsed
      split at parsed
      · split at parsed
        · have value := Option.some.inj parsed
          omega
        · cases parsed
      · cases parsed
    · intro parsed
      simp [parseUnsigned, noPlus, noDigits] at parsed
  · simp only [swiftInt, parseUnsigned, minus, if_false, false_or,
      Int.one_mul]
    generalize (if text.head? = some '+' then text.tail else text) = digits
    by_cases read : digits ≠ [] ∧ digits.all Char.isDigit = true
    · rw [if_pos read]
      constructor
      · intro parsed
        split at parsed
        · have value := Option.some.inj parsed
          rw [if_pos ⟨read.1, read.2, by omega⟩]
          exact congrArg some (by omega)
        · cases parsed
      · intro parsed
        split at parsed
        · have value := Option.some.inj parsed
          rw [if_pos (by omega), value]
        · cases parsed
    · have unread : ¬ (digits ≠ [] ∧ digits.all Char.isDigit = true ∧
          Nat.ofDigitChars 10 digits 0 < 2 ^ 32) := by
        intro parts
        exact read ⟨parts.1, parts.2.1⟩
      rw [if_neg read, if_neg unread]
      constructor
      · intro impossible
        cases impossible
      · intro impossible
        cases impossible

/-! ## Addresses -/

variable {address : UInt32}

theorem mem_of_parseOctets (parsed : parseOctets text = some address) :
    ∀ character ∈ text, character = '.' ∨ character = '+' ∨
      character.isDigit = true := by
  have whole : ['.'].intercalate (text.splitOn '.') = text :=
    List.intercalate_splitOn '.'
  unfold parseOctets at parsed
  split at parsed
  · rename_i first second third fourth parts
    simp only [Option.bind_eq_bind, Option.bind_eq_some_iff] at parsed
    obtain ⟨a, ofFirst, b, ofSecond, c, ofThird, d, ofFourth, _⟩ := parsed
    intro character member
    rw [← whole, parts] at member
    simp only [List.intercalate, List.intersperse, List.flatten_cons,
      List.flatten_nil, List.append_nil, List.mem_append,
      List.mem_singleton] at member
    rcases member with inFirst | dot | inSecond | dot | inThird | dot |
      inFourth
    · exact .inr (mem_of_parseUnsigned ofFirst character inFirst)
    · exact .inl dot
    · exact .inr (mem_of_parseUnsigned ofSecond character inSecond)
    · exact .inl dot
    · exact .inr (mem_of_parseUnsigned ofThird character inThird)
    · exact .inl dot
    · exact .inr (mem_of_parseUnsigned ofFourth character inFourth)
  · cases parsed

theorem nul_not_mem_of_parseOctets
    (parsed : parseOctets text = some address) : '\x00' ∉ text := by
  intro member
  have allowed := mem_of_parseOctets parsed '\x00' member
  revert allowed
  decide

theorem parseOctets_of_inetPton {value : String}
    (parsed : inetPton value = some address) :
    parseOctets (cString value).toList = some address := by
  unfold inetPton at parsed
  split at parsed
  · rename_i first second third fourth parts
    simp only [Option.bind_eq_bind, Option.bind_eq_some_iff,
      parseOctet_eq_some_iff] at parsed
    obtain ⟨a, ⟨ofFirst, aSmall⟩, b, ⟨ofSecond, bSmall⟩, c,
      ⟨ofThird, cSmall⟩, d, ⟨ofFourth, dSmall⟩, same⟩ := parsed
    rw [parseOctets, parts, ofFirst, ofSecond, ofThird, ofFourth]
    simp only [parseUnsigned_toDigits (Nat.lt_succ_of_le aSmall),
      parseUnsigned_toDigits (Nat.lt_succ_of_le bSmall),
      parseUnsigned_toDigits (Nat.lt_succ_of_le cSmall),
      parseUnsigned_toDigits (Nat.lt_succ_of_le dSmall)]
    exact same
  · cases parsed

theorem parseOctets_inetNtop (address : UInt32) :
    parseOctets (inetNtop address).toList = some address := by
  have parsed := parseOctets_of_inetPton (inetPton_inetNtop address)
  rwa [cString_inetNtop] at parsed

/-! ## Accepted texts -/

variable {cidr : String}

/-- An address part, a slash and a prefix of /8 through /30. -/
def Written (cidr : String) (front : List Char) (length : Nat) : Prop :=
  ∃ back, cidr.toList = front ++ '/' :: back ∧ '/' ∉ front ∧
    parseUnsigned (2 ^ 32) back = some length ∧ 8 ≤ length ∧ length ≤ 30

theorem written_iff {length : Nat} {front : List Char} :
    Written cidr front length ↔
      cidr.toList.takeWhile (· ≠ '/') = front ∧
        ∃ back, cidr.toList.dropWhile (· ≠ '/') = '/' :: back ∧
          parseUnsigned (2 ^ 32) back = some length ∧
            8 ≤ length ∧ length ≤ 30 := by
  constructor
  · intro written
    obtain ⟨back, parts, plain, parsed⟩ := written
    obtain ⟨before, behind⟩ :=
      Splitting.first_separator_iff.mpr ⟨parts, plain⟩
    exact ⟨before, back, behind, parsed⟩
  · intro found
    obtain ⟨before, back, behind, parsed⟩ := found
    obtain ⟨parts, plain⟩ :=
      Splitting.first_separator_iff.mp ⟨before, behind⟩
    exact ⟨back, parts, plain, parsed⟩

theorem Written.unique {front other : List Char} {length size : Nat}
    (written : Written cidr front length) (again : Written cidr other size) :
    front = other ∧ length = size := by
  obtain ⟨here, back, behind, parsed, _⟩ := written_iff.mp written
  obtain ⟨there, rest, later, read, _⟩ := written_iff.mp again
  have same : back = rest := (List.cons.inj (behind.symm.trans later)).2
  rw [same, read] at parsed
  exact ⟨here.symm.trans there, (Option.some.inj parsed).symm⟩

theorem reverseZonesForCidr_eq_ok_iff {zones : List String} :
    reverseZonesForCidr cidr = .ok zones ↔
      ∃ front length network, Written cidr front length ∧
        parseOctets front = some network ∧
          network &&& AddressMask.clearing (32 - length) = network ∧
            zones = reverseZoneNames network length := by
  constructor
  · intro accepted
    unfold reverseZonesForCidr at accepted
    simp only at accepted
    split at accepted
    · cases accepted
    · rename_i slash back behind
      have isSlash : slash = '/' := Splitting.head_of_dropWhile behind
      split at accepted
      · cases accepted
      · rename_i length parsed
        split at accepted
        · rename_i range
          split at accepted
          · cases accepted
          · rename_i network read
            split at accepted
            · cases accepted
            · rename_i same
              exact ⟨_, length, network,
                written_iff.mpr ⟨rfl, back, isSlash ▸ behind, parsed, range⟩,
                read, not_not.mp same, (Except.ok.inj accepted).symm⟩
        · cases accepted
  · intro found
    obtain ⟨front, length, network, written, read, same, equal⟩ := found
    obtain ⟨isFront, back, behind, parsed, range⟩ := written_iff.mp written
    unfold reverseZonesForCidr
    simp only [behind, parsed, isFront, read]
    rw [if_pos range, if_neg (not_not.mpr same), equal]

theorem slash_not_mem_of_parseUnsigned {limit length : Nat}
    {back : List Char} (parsed : parseUnsigned limit back = some length) :
    '/' ∉ back := by
  intro member
  have allowed := mem_of_parseUnsigned parsed '/' member
  revert allowed
  decide

theorem parse_eq_ok_iff {parsed : IPv4CIDR} :
    IPv4CIDR.parse cidr = .ok parsed ↔
      ∃ front, Written cidr front parsed.prefixLength ∧
        inetPton (String.ofList front) = some parsed.network := by
  constructor
  · intro accepted
    unfold IPv4CIDR.parse at accepted
    split at accepted
    · rename_i front back parts
      obtain ⟨same, before, _⟩ := Splitting.splitOn_eq_pair_iff.mp parts
      split at accepted
      · cases accepted
      · rename_i length read
        split at accepted
        · rename_i range
          split at accepted
          · cases accepted
          · rename_i address isAddress
            split at accepted
            · cases accepted
              have small : 8 ≤ length.toNat ∧ length.toNat ≤ 30 := by omega
              have asNat : swiftInt back = some (length.toNat : Int) := by
                rw [Int.toNat_of_nonneg (by omega)]
                exact read
              exact ⟨front, ⟨back, same, before,
                (swiftInt_eq_some_iff small).mp asNat, small⟩, isAddress⟩
            · cases accepted
        · cases accepted
    · cases accepted
  · intro found
    obtain ⟨front, ⟨back, same, before, read, range⟩, isAddress⟩ := found
    have parts : cidr.toList.splitOn '/' = [front, back] :=
      Splitting.splitOn_eq_pair_iff.mpr
        ⟨same, before, slash_not_mem_of_parseUnsigned read⟩
    have length := (swiftInt_eq_some_iff range).mpr read
    have wide : 8 ≤ (parsed.prefixLength : Int) ∧
        (parsed.prefixLength : Int) ≤ 30 := by
      omega
    simp only [IPv4CIDR.parse, parts, length, isAddress]
    rw [dif_pos wide]
    have masked := parsed.isNetwork
    simp only [Int.toNat_natCast]
    rw [dif_pos masked]

end ReverseScopes

end DNS

end Vzctl
