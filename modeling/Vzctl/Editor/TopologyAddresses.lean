import Mathlib.Data.List.DropRight
import Vzctl.Lib.AlignedBlock
import Vzctl.Lib.NearestEven
import Vzctl.Network.InetAddress

/-!
# Addresses in the topology editor

The IPv4 functions of `topology.ts` and `hostOffsetIp` of `mutations.ts`.
Bitwise operators give signed 32-bit numbers, `>>> 0` gives unsigned ones, and
sums are doubles, so that one address has two spellings from 128.0.0.0 on.
-/

namespace Vzctl

namespace TopologyAddresses

/-! ## Numbers of JavaScript -/

/-- A finite number; NaN and the infinities are `none`, since the functions
below treat them alike. -/
abbrev JSNumber := Option ℚ

/-- The double next to an exact result. -/
def toDouble (exact : ℚ) : JSNumber :=
  let rounded :=
    if |exact| < (2 ^ 1022)⁻¹ then
      (NearestEven.nearestInt (|exact| * 2 ^ 1074) : ℚ) / 2 ^ 1074
    else NearestEven.nearest 53 |exact|
  if rounded < 2 ^ 1024 then some (if exact < 0 then -rounded else rounded)
  else none

def plus (left right : JSNumber) : JSNumber := do
  toDouble ((← left) + (← right))

def minus (left right : JSNumber) : JSNumber := do
  toDouble ((← left) - (← right))

/-- The operand of a bitwise operator. -/
def toUint32 : JSNumber → UInt32
  | some value => UInt32.ofInt (value.num.tdiv value.den)
  | none => 0

/-- The result of a bitwise operator other than `>>>`. -/
def signed (word : UInt32) : Int :=
  if word.toNat < 2 ^ 31 then word.toNat else word.toNat - 2 ^ 32

def isWhitespace (character : Char) : Bool :=
  character.toNat ∈ [0x9, 0xA, 0xB, 0xC, 0xD, 0x20, 0xA0, 0x1680, 0x2028,
      0x2029, 0x202F, 0x205F, 0x3000, 0xFEFF] ||
    (0x2000 ≤ character.toNat && character.toNat ≤ 0x200A)

def digitValue (character : Char) : Nat :=
  if character.isDigit then character.toNat - 48
  else if character.isLower then character.toNat - 87
  else if character.isUpper then character.toNat - 55
  else 36

def radixLiteral (radix : Nat) (digits : List Char) : JSNumber :=
  if digits ≠ [] ∧ digits.all (digitValue · < radix) = true then
    toDouble ↑(digits.foldl
      (fun value digit => value * radix + digitValue digit) 0)
  else none

/-- The sign in front of a text and the text without it. -/
def signOf : List Char → Int × List Char
  | '-' :: rest => (-1, rest)
  | '+' :: rest => (1, rest)
  | text => (1, text)

def exponentPart (text : List Char) : Option Int :=
  match text with
  | [] => some 0
  | mark :: rest =>
      let (sign, digits) := signOf rest
      if (mark = 'e' ∨ mark = 'E') ∧ digits ≠ [] ∧
          digits.all Char.isDigit = true then
        some (sign * (Nat.ofDigitChars 10 digits 0 : Int))
      else none

/-- `Infinity` has no digits here and is `none` as well. -/
def decimalLiteral (text : List Char) : JSNumber :=
  let (sign, unsignedText) := signOf text
  let whole := unsignedText.takeWhile Char.isDigit
  let (fraction, rest) :=
    match unsignedText.dropWhile Char.isDigit with
    | '.' :: tail => (tail.takeWhile Char.isDigit, tail.dropWhile Char.isDigit)
    | rest => ([], rest)
  if whole = [] ∧ fraction = [] then none
  else
    match exponentPart rest with
    | some exponent =>
        toDouble (sign * Nat.ofDigitChars 10 (whole ++ fraction) 0 *
          10 ^ (exponent - fraction.length))
    | none => none

/-- `Number(text)`. -/
def number (text : List Char) : JSNumber :=
  match (text.dropWhile isWhitespace).rdropWhile isWhitespace with
  | [] => some 0
  | '0' :: 'x' :: digits => radixLiteral 16 digits
  | '0' :: 'X' :: digits => radixLiteral 16 digits
  | '0' :: 'o' :: digits => radixLiteral 8 digits
  | '0' :: 'O' :: digits => radixLiteral 8 digits
  | '0' :: 'b' :: digits => radixLiteral 2 digits
  | '0' :: 'B' :: digits => radixLiteral 2 digits
  | literal => decimalLiteral literal

/-! ## `topology.ts` -/

/-- `Number.isInteger(n)`, not negative and at most `bound`. -/
def isIntegerUpTo (bound : Nat) : JSNumber → Bool
  | some value => value.den = 1 ∧ 0 ≤ value ∧ value ≤ bound
  | none => false

def parseIpv4 (ip : List Char) : Option (List JSNumber) :=
  let nums := (ip.splitOn '.').map number
  if nums.length ≠ 4 then none
  else if nums.all (isIntegerUpTo 255) then some nums
  else none

def ipv4ToInt (parts : List JSNumber) : JSNumber :=
  let part (index : Nat) := toUint32 (parts.getD index none)
  plus (plus (plus (some (part 0 <<< 24).toNat) (some (signed (part 1 <<< 16))))
    (some (signed (part 2 <<< 8)))) (parts.getD 3 none)

/-- The mask is unsigned and the network signed. -/
structure ParsedCidr where
  network : Int
  mask : UInt32
  prefixLength : Nat
  deriving DecidableEq

def parseCidr (cidr : List Char) : Option ParsedCidr :=
  match cidr.splitOn '/' with
  | ip :: prefixRaw :: _ =>
      if ip = [] then none
      else
        let prefixNumber := number prefixRaw
        if isIntegerUpTo 32 prefixNumber then do
          let parts ← parseIpv4 ip
          let prefixLength := (toUint32 prefixNumber).toNat
          let mask : UInt32 :=
            if prefixLength = 0 then 0
            else 0xFFFFFFFF <<< UInt32.ofNat (32 - prefixLength)
          return {
            network := signed (toUint32 (ipv4ToInt parts) &&& mask)
            mask
            prefixLength
          }
        else none
  | _ => none

def ipInCidr (ip cidr : List Char) : Bool :=
  match parseCidr cidr, parseIpv4 ip with
  | some parsed, some parts =>
      signed (toUint32 (ipv4ToInt parts) &&& parsed.mask) = parsed.network
  | _, _ => false

def isReservedHostOffset (ip cidr : List Char) : Bool :=
  match parseCidr cidr, parseIpv4 ip with
  | some parsed, some parts =>
      let addr := ipv4ToInt parts
      let network : JSNumber := some parsed.network
      let broadcast : JSNumber :=
        some (signed (toUint32 network ||| ~~~parsed.mask))
      let host := minus addr network
      addr = network || addr = broadcast || host = some 0 || host = some 1
  | _, _ => false

def cidrsOverlap (a b : List Char) : Bool :=
  match parseCidr a, parseCidr b with
  | some left, some right =>
      signed (UInt32.ofInt left.network &&& right.mask) = right.network ||
        signed (UInt32.ofInt right.network &&& left.mask) = left.network
  | _, _ => false

/-- `validateEnvironment` reports `DOCKER_BACKEND_BIP`. -/
def flagsDockerBip (ip cidr : List Char) : Bool :=
  match parseCidr cidr with
  | some parsed =>
      let parts := (ip.splitOn '.').map number
      parts.length = 4 ∧
        minus (ipv4ToInt parts) (some parsed.network) ≠ some 2
  | none => false

/-- `hostOffsetIp` of `mutations.ts`. -/
def hostOffsetIp (cidr : List Char) (host : Nat) : Option (List Char) := do
  let parsed ← parseCidr cidr
  let ipNum := toUint32 (plus (some parsed.network) (some host))
  return ['.'].intercalate
    ([ipNum >>> 24 &&& 255, ipNum >>> 16 &&& 255, ipNum >>> 8 &&& 255,
      ipNum &&& 255].map (Nat.toDigits 10 ·.toNat))

/-! ## What the texts stand for -/

def addressOf (ip : List Char) : Nat :=
  ((ip.splitOn '.').map number).foldl
    (fun value part => value * 256 + (part.getD 0).num.toNat) 0

/-- The block of a CIDR text: its address and all that share the prefix. -/
def blockOf (cidr : List Char) : AlignedBlock :=
  match cidr.splitOn '/' with
  | ip :: prefixRaw :: _ =>
      let width := 32 - ((number prefixRaw).getD 0).num.toNat
      ⟨addressOf ip / 2 ^ width * 2 ^ width, width, Nat.dvd_mul_left _ _⟩
  | _ => .single 0

/-- The address is at this offset in the block. -/
def AtOffset (block : AlignedBlock) (offset address : Nat) : Prop :=
  address = block.base + offset ∧ address ∈ block

instance (block : AlignedBlock) (offset address : Nat) :
    Decidable (AtOffset block offset address) :=
  inferInstanceAs (Decidable (_ ∧ _))

/-- Network address, first host address and broadcast address. -/
def Reserved (block : AlignedBlock) (address : Nat) : Prop :=
  AtOffset block 0 address ∨ AtOffset block 1 address ∨ address = block.last

instance (block : AlignedBlock) (address : Nat) :
    Decidable (Reserved block address) :=
  inferInstanceAs (Decidable (_ ∨ _))

structure Exact (ip cidr : List Char) : Prop where
  inside : ipInCidr ip cidr = true ↔ addressOf ip ∈ blockOf cidr
  reserved : isReservedHostOffset ip cidr = true ↔
    Reserved (blockOf cidr) (addressOf ip)
  overlap : ∀ other, (parseCidr other).isSome →
    (cidrsOverlap cidr other = true ↔
      ∃ address, address ∈ blockOf cidr ∧ address ∈ blockOf other)
  dockerBip : flagsDockerBip ip cidr = true ↔
    ¬ AtOffset (blockOf cidr) 2 (addressOf ip)
  offsets : ∀ host, (blockOf cidr).base + host ∈ blockOf cidr →
    hostOffsetIp cidr host =
      some (inetNtop (UInt32.ofNat ((blockOf cidr).base + host))).toList

/-- Below 128.0.0.0 the differences are right but for the broadcast address of
/0 and the next addresses of /31 and /32; above, an address must not be one of
those that the checks look for, nor one that follows the last network. -/
def Plain (block : AlignedBlock) (address : Nat) : Prop :=
  (block.base < 2 ^ 31 →
    ¬ (block.width = 32 ∧ address = block.last) ∧
      (address ∉ block →
        address ≠ block.base + 1 ∧ address ≠ block.base + 2)) ∧
  (2 ^ 31 ≤ block.base →
    ¬ Reserved block address ∧ ¬ AtOffset block 2 address ∧
      address + 2 ^ 32 ≠ block.base + 1 ∧ address + 2 ^ 32 ≠ block.base + 2)

instance (block : AlignedBlock) (address : Nat) :
    Decidable (Plain block address) :=
  inferInstanceAs (Decidable (_ ∧ _))

/-! ## Exact integers -/

theorem toDouble_intCast {value : Int} (small : value.natAbs < 2 ^ 53) :
    toDouble value = some (value : ℚ) := by
  have size : |(value : ℚ)| = (value.natAbs : ℚ) := by
    rw [← Int.cast_abs, Int.abs_eq_natAbs, Int.cast_natCast]
  have rounded : (if |(value : ℚ)| < (2 ^ 1022)⁻¹ then
      (NearestEven.nearestInt (|(value : ℚ)| * 2 ^ 1074) : ℚ) / 2 ^ 1074
      else NearestEven.nearest 53 |(value : ℚ)|) = value.natAbs := by
    rw [size]
    rcases Nat.eq_zero_or_pos value.natAbs with zero | positive
    · have none := NearestEven.nearestInt_intCast (n := 0)
      rw [Int.cast_zero] at none
      rw [zero, Nat.cast_zero, if_pos (by positivity), zero_mul, none,
        Int.cast_zero, zero_div]
    · have large : (1 : ℚ) ≤ value.natAbs := by exact_mod_cast positive
      have tiny : ((2 : ℚ) ^ 1022)⁻¹ ≤ 1 :=
        inv_le_one_of_one_le₀ (one_le_pow₀ one_le_two)
      rw [if_neg (not_lt.mpr (tiny.trans large))]
      exact NearestEven.nearest_of_representable
        (NearestEven.representable_natCast small)
  have bound : (value.natAbs : ℚ) < 2 ^ 1024 := by
    have less : (value.natAbs : ℚ) < 2 ^ 53 := by exact_mod_cast small
    exact less.trans (pow_lt_pow_right₀ one_lt_two (by decide))
  unfold toDouble
  simp only
  rw [rounded, if_pos bound]
  congr 1
  split
  · next negative =>
    have below : value < 0 := by exact_mod_cast negative
    rw [← Int.cast_natCast, ← Int.cast_neg]
    congr 1
    omega
  · next notNegative =>
    have above : 0 ≤ value := by exact_mod_cast not_lt.mp notNegative
    rw [← Int.cast_natCast]
    congr 1
    omega

theorem plus_intCast {left right : Int} (small : (left + right).natAbs < 2 ^ 53) :
    plus (some left) (some right) = some ((left + right : Int) : ℚ) := by
  have sum := toDouble_intCast small
  rw [Int.cast_add] at sum
  rw [Int.cast_add]
  exact sum

theorem minus_intCast {left right : Int}
    (small : (left - right).natAbs < 2 ^ 53) :
    minus (some left) (some right) = some ((left - right : Int) : ℚ) := by
  have difference := toDouble_intCast small
  rw [Int.cast_sub] at difference
  rw [Int.cast_sub]
  exact difference

theorem toUint32_intCast (value : Int) :
    toUint32 (some (value : ℚ)) = UInt32.ofInt value := by
  rw [toUint32, Rat.num_intCast, Rat.den_intCast, Nat.cast_one, Int.tdiv_one]

theorem ofInt_signed (word : UInt32) : UInt32.ofInt (signed word) = word := by
  have bound := word.toNat_lt
  apply UInt32.toNat_inj.mp
  rw [UInt32.ofInt, UInt32.toNat_ofNat', signed]
  split <;> omega

theorem signed_injective : Function.Injective signed :=
  Function.LeftInverse.injective ofInt_signed

theorem natAbs_signed_le (word : UInt32) : (signed word).natAbs ≤ 2 ^ 31 := by
  have bound := word.toNat_lt
  rw [signed]
  split <;> omega

theorem isIntegerUpTo_iff {bound : Nat} {value : JSNumber} :
    isIntegerUpTo bound value = true ↔
      ∃ n : Nat, n ≤ bound ∧ value = some ((n : Int) : ℚ) := by
  constructor
  · intro accepted
    rcases value with _ | value
    · cases accepted
    · obtain ⟨whole, nonneg, small⟩ := of_decide_eq_true accepted
      have numerator : (value.num : ℚ) = value := Rat.coe_int_num_of_den_eq_one whole
      have above : 0 ≤ value.num := Rat.num_nonneg.mpr nonneg
      obtain ⟨n, same⟩ := Int.eq_ofNat_of_zero_le above
      rw [same] at numerator
      refine ⟨n, ?_, by rw [numerator]⟩
      rw [← numerator] at small
      exact_mod_cast small
  · rintro ⟨n, small, rfl⟩
    apply decide_eq_true
    refine ⟨Rat.den_intCast _, by exact_mod_cast Nat.zero_le n, ?_⟩
    exact_mod_cast small

/-! ## Addresses and blocks that are read -/

section Reading

variable {ip cidr : List Char}

theorem toNat_ofInt_natCast {n : Nat} (small : n < 2 ^ 32) :
    (UInt32.ofInt n).toNat = n := by
  rw [UInt32.ofInt, UInt32.toNat_ofNat']
  omega

theorem toNat_shiftLeft_octet {n : Nat} (shift : UInt32) (octet : n ≤ 255)
    (byte : shift.toNat ≤ 24) :
    (toUint32 (some ((n : Int) : ℚ)) <<< shift).toNat = n * 2 ^ shift.toNat := by
  have power : 2 ^ shift.toNat ≤ 2 ^ 24 := Nat.pow_le_pow_right (by decide) byte
  have product : n * 2 ^ shift.toNat ≤ 255 * 2 ^ 24 := Nat.mul_le_mul octet power
  have amount : shift.toNat % 32 = shift.toNat := Nat.mod_eq_of_lt (by omega)
  rw [toUint32_intCast, UInt32.toNat_shiftLeft, toNat_ofInt_natCast (by omega),
    amount, Nat.shiftLeft_eq, Nat.mod_eq_of_lt (by omega)]

theorem ipv4ToInt_octets {a b c d : Nat} (first : a ≤ 255) (second : b ≤ 255)
    (third : c ≤ 255) (fourth : d ≤ 255) :
    ipv4ToInt [some ((a : Int) : ℚ), some ((b : Int) : ℚ), some ((c : Int) : ℚ),
      some ((d : Int) : ℚ)] =
      some (((((a * 256 + b) * 256 + c) * 256 + d : Nat) : Int) : ℚ) := by
  have high := toNat_shiftLeft_octet 24 first (by decide)
  have middle := toNat_shiftLeft_octet 16 second (by decide)
  have low := toNat_shiftLeft_octet 8 third (by decide)
  change _ = a * 2 ^ 24 at high
  change _ = b * 2 ^ 16 at middle
  change _ = c * 2 ^ 8 at low
  unfold ipv4ToInt
  simp only [List.getD_cons_zero, List.getD_cons_succ, signed]
  rw [high, middle, low, if_pos (by omega), if_pos (by omega)]
  have sum : (a * 2 ^ 24 : Nat) + ((b * 2 ^ 16 : Nat) : Int) + (c * 2 ^ 8 : Nat) +
      (d : Int) = (((a * 256 + b) * 256 + c) * 256 + d : Nat) := by
    push_cast
    ring
  rw [← sum]
  have start : ((a * 2 ^ 24 : Nat) : ℚ) = (((a * 2 ^ 24 : Nat) : Int) : ℚ) :=
    (Int.cast_natCast _).symm
  rw [start, plus_intCast (by omega), plus_intCast (by omega),
    plus_intCast (by omega)]

theorem parseIpv4_reads {parts : List JSNumber}
    (accepted : parseIpv4 ip = some parts) :
    parts = (ip.splitOn '.').map number ∧ parts.length = 4 ∧
      addressOf ip < 2 ^ 32 ∧
      ipv4ToInt parts = some ((addressOf ip : Int) : ℚ) := by
  simp only [parseIpv4] at accepted
  split at accepted
  · cases accepted
  · next four =>
    split at accepted
    · next octets =>
      rw [Option.some.injEq] at accepted
      rw [addressOf, accepted]
      rw [accepted] at octets four
      obtain ⟨first, second, third, fourth, same⟩ :=
        List.length_eq_four.mp (not_not.mp four)
      subst same
      simp only [List.all_cons, List.all_nil, Bool.and_true, Bool.and_eq_true,
        isIntegerUpTo_iff] at octets
      obtain ⟨⟨a, smallA, rfl⟩, ⟨b, smallB, rfl⟩, ⟨c, smallC, rfl⟩,
        d, smallD, rfl⟩ := octets
      refine ⟨rfl, rfl, ?_⟩
      rw [ipv4ToInt_octets smallA smallB smallC smallD]
      simp only [List.foldl_cons, List.foldl_nil, Option.getD_some,
        Rat.num_intCast, Int.toNat_natCast, Nat.zero_mul, Nat.zero_add]
      exact ⟨by omega, trivial⟩
    · cases accepted

/-- What `parseCidr` returns, in terms of the block. -/
structure Represents (parsed : ParsedCidr) (block : AlignedBlock) : Prop where
  width : block.width ≤ 32
  last : block.last < 2 ^ 32
  network : parsed.network = signed (UInt32.ofNat block.base)
  masked : ∀ address < 2 ^ 32, (UInt32.ofNat address &&& parsed.mask).toNat =
    address / 2 ^ block.width * 2 ^ block.width
  broadcast : (UInt32.ofNat block.base ||| ~~~parsed.mask).toNat = block.last

theorem represents_of_length {address length : Nat} {mask : UInt32}
    (inRange : address < 2 ^ 32) (small : length ≤ 32)
    (shifted : (if length = 0 then 0
      else 0xFFFFFFFF <<< UInt32.ofNat (32 - length) : UInt32) = mask) :
    Represents ⟨signed (UInt32.ofNat address &&& mask), mask, length⟩
      ⟨address / 2 ^ (32 - length) * 2 ^ (32 - length), 32 - length,
        Nat.dvd_mul_left _ _⟩ := by
  by_cases all : length = 0
  · subst all
    rw [if_pos rfl] at shifted
    subst shifted
    have base : address / 2 ^ (32 - 0) * 2 ^ (32 - 0) = 0 := by omega
    simp only [base]
    refine ⟨le_refl _, ?_, by rw [UInt32.and_zero]; rfl, ?_, ?_⟩
    · change 0 + (2 ^ 32 - 1) < 2 ^ 32
      decide
    · intro other inside
      rw [UInt32.and_zero]
      change 0 = other / 2 ^ (32 - 0) * 2 ^ (32 - 0)
      omega
    · change (UInt32.ofNat 0 ||| ~~~0).toNat = 0 + (2 ^ 32 - 1)
      decide
  · rw [if_neg all] at shifted
    have clears : AddressMask.clearing (32 - length) = mask := shifted
    subst clears
    have width : 32 - length < 32 := by omega
    have masked : ∀ other < 2 ^ 32,
        (UInt32.ofNat other &&& AddressMask.clearing (32 - length)).toNat =
          other / 2 ^ (32 - length) * 2 ^ (32 - length) := by
      intro other inside
      rw [AddressMask.toNat_and_clearing _ width,
        UInt32.toNat_ofNat_of_lt' inside]
    have below := Nat.div_mul_le_self address (2 ^ (32 - length))
    have base : (UInt32.ofNat (address / 2 ^ (32 - length) *
        2 ^ (32 - length))).toNat =
          address / 2 ^ (32 - length) * 2 ^ (32 - length) :=
      UInt32.toNat_ofNat_of_lt' (below.trans_lt inRange)
    have last := AddressMask.toNat_or_not_clearing width
      (base ▸ Nat.dvd_mul_left _ _)
    rw [base] at last
    have start : UInt32.ofNat address &&& AddressMask.clearing (32 - length) =
        UInt32.ofNat (address / 2 ^ (32 - length) * 2 ^ (32 - length)) := by
      apply UInt32.toNat_inj.mp
      rw [masked address inRange, base]
    exact ⟨width.le, last.symm.trans_lt (UInt32.toNat_lt _),
      congrArg signed start, masked, last⟩

theorem parseCidr_represents {parsed : ParsedCidr}
    (accepted : parseCidr cidr = some parsed) :
    Represents parsed (blockOf cidr) := by
  rw [blockOf]
  simp only [parseCidr] at accepted
  split at accepted
  · next ip prefixRaw rest parts =>
    split at accepted
    · cases accepted
    · split at accepted
      · next whole =>
        obtain ⟨length, small, read⟩ := isIntegerUpTo_iff.mp whole
        obtain ⟨octets, dotted, same⟩ := Option.bind_eq_some_iff.mp accepted
        obtain ⟨-, -, inRange, value⟩ := parseIpv4_reads dotted
        rw [read, value, toUint32_intCast, toUint32_intCast,
          toNat_ofInt_natCast (by omega)] at same
        have word : UInt32.ofInt (addressOf ip : Int) =
            UInt32.ofNat (addressOf ip) := by
          apply UInt32.toNat_inj.mp
          rw [toNat_ofInt_natCast inRange, UInt32.toNat_ofNat_of_lt' inRange]
        rw [word] at same
        cases same
        simp only [read, Option.getD_some, Rat.num_intCast, Int.toNat_natCast]
        exact represents_of_length inRange small rfl
      · cases accepted
  · cases accepted

theorem ofInt_natCast {n : Nat} (small : n < 2 ^ 32) :
    UInt32.ofInt n = UInt32.ofNat n := by
  apply UInt32.toNat_inj.mp
  rw [toNat_ofInt_natCast small, UInt32.toNat_ofNat_of_lt' small]

namespace Represents

variable {parsed : ParsedCidr} {block : AlignedBlock}

theorem base_lt (held : Represents parsed block) : block.base < 2 ^ 32 :=
  block.base_le_last.trans_lt held.last

theorem signed_masked_iff (held : Represents parsed block) {address : Nat}
    (inRange : address < 2 ^ 32) :
    signed (UInt32.ofNat address &&& parsed.mask) = parsed.network ↔
      address ∈ block := by
  rw [held.network, signed_injective.eq_iff, ← UInt32.toNat_inj,
    held.masked address inRange, UInt32.toNat_ofNat_of_lt' held.base_lt,
    AlignedBlock.mem_iff_div_eq]
  have start := Nat.div_mul_cancel block.aligned
  constructor
  · intro same
    rw [← same, Nat.mul_div_cancel _ (Nat.two_pow_pos _)]
  · intro same
    rw [same, start]

theorem network_eq (held : Represents parsed block) :
    parsed.network =
      if block.base < 2 ^ 31 then (block.base : Int)
      else block.base - 2 ^ 32 := by
  rw [held.network, signed, UInt32.toNat_ofNat_of_lt' held.base_lt]

theorem ofInt_network (held : Represents parsed block) :
    UInt32.ofInt parsed.network = UInt32.ofNat block.base := by
  rw [held.network, ofInt_signed]

end Represents

variable {parsed : ParsedCidr} {parts : List JSNumber}

theorem ipInCidr_iff (accepted : parseCidr cidr = some parsed)
    (dotted : parseIpv4 ip = some parts) :
    ipInCidr ip cidr = true ↔ addressOf ip ∈ blockOf cidr := by
  obtain ⟨-, -, inRange, value⟩ := parseIpv4_reads dotted
  rw [ipInCidr, accepted, dotted]
  simp only [decide_eq_true_eq]
  rw [value, toUint32_intCast, ofInt_natCast inRange]
  exact (parseCidr_represents accepted).signed_masked_iff inRange

theorem minus_network (accepted : parseCidr cidr = some parsed)
    (inRange : addressOf ip < 2 ^ 32) :
    minus (some ((addressOf ip : Int) : ℚ)) (some parsed.network) =
      some ((addressOf ip - parsed.network : Int) : ℚ) := by
  have held := parseCidr_represents accepted
  have bound := natAbs_signed_le (UInt32.ofNat (blockOf cidr).base)
  rw [← held.network] at bound
  exact minus_intCast (by omega)

theorem isReservedHostOffset_iff (accepted : parseCidr cidr = some parsed)
    (dotted : parseIpv4 ip = some parts) :
    isReservedHostOffset ip cidr = true ↔
      (addressOf ip : Int) = parsed.network ∨
        (addressOf ip : Int) = signed (UInt32.ofNat (blockOf cidr).last) ∨
        (addressOf ip : Int) = parsed.network + 1 := by
  have held := parseCidr_represents accepted
  obtain ⟨-, -, inRange, value⟩ := parseIpv4_reads dotted
  have broadcast : UInt32.ofInt parsed.network ||| ~~~parsed.mask =
      UInt32.ofNat (blockOf cidr).last := by
    apply UInt32.toNat_inj.mp
    rw [held.ofInt_network, held.broadcast,
      UInt32.toNat_ofNat_of_lt' held.last]
  rw [isReservedHostOffset, accepted, dotted]
  simp only [Bool.or_eq_true, decide_eq_true_eq]
  rw [value, minus_network accepted inRange, toUint32_intCast, broadcast]
  simp only [Option.some.injEq]
  norm_cast
  omega

theorem flagsDockerBip_iff (accepted : parseCidr cidr = some parsed)
    (dotted : parseIpv4 ip = some parts) :
    flagsDockerBip ip cidr = true ↔
      (addressOf ip : Int) ≠ parsed.network + 2 := by
  obtain ⟨same, four, inRange, value⟩ := parseIpv4_reads dotted
  rw [flagsDockerBip, accepted]
  simp only [decide_eq_true_eq]
  rw [← same, value, minus_network accepted inRange, and_iff_right four]
  simp only [ne_eq, Option.some.injEq]
  norm_cast
  omega

theorem cidrsOverlap_iff {other : List Char} {otherParsed : ParsedCidr}
    (accepted : parseCidr cidr = some parsed)
    (otherAccepted : parseCidr other = some otherParsed) :
    cidrsOverlap cidr other = true ↔
      ∃ address, address ∈ blockOf cidr ∧ address ∈ blockOf other := by
  have left := parseCidr_represents accepted
  have right := parseCidr_represents otherAccepted
  rw [cidrsOverlap, accepted, otherAccepted]
  simp only [Bool.or_eq_true, decide_eq_true_eq]
  rw [left.ofInt_network, right.ofInt_network,
    right.signed_masked_iff left.base_lt, left.signed_masked_iff right.base_lt,
    ← AlignedBlock.overlaps_iff_exists_mem, AlignedBlock.mem_iff,
    AlignedBlock.mem_iff, AlignedBlock.Overlaps]
  have leftNonempty := (blockOf cidr).base_le_last
  have rightNonempty := (blockOf other).base_le_last
  omega

theorem octetsOf_eq_map (word : UInt32) :
    [word >>> 24 &&& 255, word >>> 16 &&& 255, word >>> 8 &&& 255,
      word &&& 255].map UInt32.toNat = octetsOf word := by
  have masked (n : Nat) : n &&& 255 = n % 256 :=
    Nat.and_two_pow_sub_one_eq_mod n 8
  have bound := word.toNat_lt
  simp only [List.map_cons, List.map_nil, UInt32.toNat_and,
    UInt32.toNat_shiftRight, UInt32.toNat_ofNat, Nat.shiftRight_eq_div_pow,
    Nat.reduceMod, Nat.reducePow, masked, octetsOf]
  congr 1
  omega

theorem hostOffsetIp_eq (accepted : parseCidr cidr = some parsed) {host : Nat}
    (inside : (blockOf cidr).base + host ∈ blockOf cidr) :
    hostOffsetIp cidr host =
      some (inetNtop (UInt32.ofNat ((blockOf cidr).base + host))).toList := by
  have held := parseCidr_represents accepted
  have inRange := inside.2.trans_lt held.last
  have bound := natAbs_signed_le (UInt32.ofNat (blockOf cidr).base)
  rw [← held.network] at bound
  have sum : toUint32 (plus (some parsed.network) (some host)) =
      UInt32.ofNat ((blockOf cidr).base + host) := by
    have exact := @plus_intCast parsed.network host (by omega)
    rw [Int.cast_natCast] at exact
    rw [exact, toUint32_intCast, UInt32.ofInt_add, held.ofInt_network,
      ofInt_natCast (by omega), ← UInt32.ofNat_add]
  rw [hostOffsetIp, accepted, inetNtop, String.toList_ofList]
  simp only [Option.bind_eq_bind, Option.bind_some, sum]
  rw [← octetsOf_eq_map, List.map_map]
  rfl

end Reading

theorem last_lt_of_base_lt {block : AlignedBlock} (low : block.base < 2 ^ 31)
    (width : block.width ≤ 31) : block.last < 2 ^ 31 := by
  obtain ⟨index, base⟩ := block.aligned
  have power : (2 : Nat) ^ 31 = 2 ^ block.width * 2 ^ (31 - block.width) := by
    rw [← Nat.pow_add, Nat.add_sub_cancel' width]
  rw [base, power] at low
  have next := Nat.mul_le_mul_left (2 ^ block.width)
    (Nat.lt_of_mul_lt_mul_left low)
  rw [← power, Nat.mul_succ] at next
  have positive := Nat.two_pow_pos block.width
  rw [AlignedBlock.last, base]
  omega

theorem base_of_width {block : AlignedBlock} (whole : block.width = 32)
    (inRange : block.base < 2 ^ 32) :
    block.base = 0 ∧ block.last = 2 ^ 32 - 1 := by
  obtain ⟨index, base⟩ := block.aligned
  rw [whole] at base
  have zero : block.base = 0 := by omega
  rw [AlignedBlock.last, zero, whole]
  exact ⟨rfl, rfl⟩

theorem plain_of_differences {parsed : ParsedCidr} {block : AlignedBlock}
    {address : Nat} (held : Represents parsed block)
    (inRange : address < 2 ^ 32) :
    ((((address : Int) = parsed.network ∨
        (address : Int) = signed (UInt32.ofNat block.last) ∨
        (address : Int) = parsed.network + 1) ↔ Reserved block address) ∧
      ((address : Int) ≠ parsed.network + 2 ↔ ¬ AtOffset block 2 address)) ↔
      Plain block address := by
  have last := held.last
  have first := block.base_le_last
  rw [held.network_eq, signed, UInt32.toNat_ofNat_of_lt' last]
  simp only [Plain, Reserved, AtOffset, AlignedBlock.mem_iff]
  by_cases low : block.base < 2 ^ 31
  · rw [if_pos low]
    by_cases whole : block.width = 32
    · obtain ⟨zero, full⟩ := base_of_width whole held.base_lt
      rw [if_neg (by omega)]
      omega
    · have width := held.width
      rw [if_pos (last_lt_of_base_lt low (by omega))]
      omega
  · rw [if_neg low, if_neg (by omega)]
    omega

/-- The editor's arithmetic is exact for an address and a network exactly if
they are plain. -/
theorem address_arithmetic_iff {ip cidr : List Char}
    (dotted : (parseIpv4 ip).isSome) (accepted : (parseCidr cidr).isSome) :
    Exact ip cidr ↔ Plain (blockOf cidr) (addressOf ip) := by
  obtain ⟨parts, dotted⟩ := Option.isSome_iff_exists.mp dotted
  obtain ⟨parsed, accepted⟩ := Option.isSome_iff_exists.mp accepted
  obtain ⟨-, -, inRange, -⟩ := parseIpv4_reads dotted
  have held := parseCidr_represents accepted
  rw [← plain_of_differences held inRange,
    ← isReservedHostOffset_iff accepted dotted,
    ← flagsDockerBip_iff accepted dotted]
  constructor
  · intro exact
    exact ⟨exact.reserved, exact.dockerBip⟩
  · rintro ⟨reserved, dockerBip⟩
    refine ⟨ipInCidr_iff accepted dotted, reserved, ?_, dockerBip,
      fun host inside => hostOffsetIp_eq accepted inside⟩
    intro other otherAccepted
    obtain ⟨otherParsed, otherAccepted⟩ :=
      Option.isSome_iff_exists.mp otherAccepted
    exact cidrsOverlap_iff accepted otherAccepted

theorem address_arithmetic_of_lowerNetwork :
    Exact "10.80.0.10".toList "10.80.0.0/24".toList :=
  (address_arithmetic_iff (by decide +kernel) (by decide +kernel)).mpr
    (by decide +kernel)

/-! ## A network in the upper half -/

def upperNetwork : List Char := "192.168.64.0/24".toList

def upperAddress : List Char := "192.168.64.0".toList

theorem upperAddress_not_reserved :
    (parseIpv4 upperAddress).isSome ∧ (parseCidr upperNetwork).isSome ∧
      isReservedHostOffset upperAddress upperNetwork = false ∧
      flagsDockerBip "192.168.64.2".toList upperNetwork = true ∧
      ¬ Exact upperAddress upperNetwork := by
  have missed : isReservedHostOffset upperAddress upperNetwork = false := by
    decide +kernel
  refine ⟨by decide +kernel, by decide +kernel, missed, by decide +kernel, ?_⟩
  intro exact
  have flagged := exact.reserved.mpr (by decide +kernel)
  rw [missed] at flagged
  cases flagged

end TopologyAddresses

end Vzctl
