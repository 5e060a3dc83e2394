import Vzctl.DNS.NameCodec
import Vzctl.DNS.ReverseScopes

/-!
# Installed and served reverse zones

The zones of a network cover its addresses once.  The host installs resolver
files for the zones that the edge answers exactly when the address part of the
CIDR is a plain dotted quad.
-/

namespace Vzctl

namespace DNS

namespace ReverseScopes

/-! ## Zones -/

/-- The labels of the reverse name of an address. -/
def reverseLabels (address : UInt32) : List String :=
  (octetsOf address).reverse.map toString ++ ["in-addr", "arpa"]

/-- The reverse name of the address is in the zone. -/
def InZone (zone : String) (address : UInt32) : Prop :=
  ∃ labels, labels <:+ reverseLabels address ∧ zone = joined labels

theorem joined_append_arpa {labels : List String} (some_ : labels ≠ []) :
    joined (labels ++ ["in-addr", "arpa"]) =
      joined labels ++ ".in-addr.arpa" := by
  rw [joined, String.intercalate_append_of_ne_nil some_ (by simp),
    String.append_assoc]
  rfl

/-- The labels of the zone of the leading octets. -/
def zoneLabels (base : UInt32) (zoneOctets : Nat) : List String :=
  ((octetsOf base).take zoneOctets).reverse.map toString ++
    ["in-addr", "arpa"]

theorem plain_of_octet (octet : Nat) :
    0 < (toString octet).utf8ByteSize ∧ '.' ∉ (toString octet).toList := by
  have digits : (toString octet).toList = Nat.toDigits 10 octet :=
    Nat.toList_repr
  constructor
  · rw [Nat.pos_iff_ne_zero]
    intro empty
    rw [String.utf8ByteSize_eq_zero_iff.mp empty] at digits
    exact Nat.toDigits_ne_nil digits.symm
  · rw [digits]
    exact not_mem_toDigits (by decide) octet

theorem toString_injective : Function.Injective (toString : Nat → String) := by
  intro first second same
  apply Decimal.toDigits_injective
  calc
    Nat.toDigits 10 first = (toString first).toList := Nat.toList_repr.symm
    _ = (toString second).toList := by rw [same]
    _ = Nat.toDigits 10 second := Nat.toList_repr

theorem plain_zoneLabels (base : UInt32) (zoneOctets : Nat) :
    ∀ label ∈ zoneLabels base zoneOctets,
      0 < label.utf8ByteSize ∧ '.' ∉ label.toList := by
  intro label member
  rcases List.mem_append.mp member with isOctet | isArpa
  · obtain ⟨octet, _, same⟩ := List.mem_map.mp isOctet
    exact same ▸ plain_of_octet octet
  · simp only [List.mem_cons, List.not_mem_nil, or_false] at isArpa
    rcases isArpa with same | same
    · exact same ▸ by decide
    · exact same ▸ by decide

theorem zoneLabels_suffix (address : UInt32) (zoneOctets : Nat) :
    zoneLabels address zoneOctets <:+ reverseLabels address := by
  have octets := List.take_append_drop zoneOctets (octetsOf address)
  refine ⟨((octetsOf address).drop zoneOctets).reverse.map toString, ?_⟩
  rw [zoneLabels, reverseLabels, ← List.append_assoc, ← List.map_append,
    ← List.reverse_append, octets]

theorem plain_reverseLabels (address : UInt32) :
    ∀ label ∈ reverseLabels address,
      0 < label.utf8ByteSize ∧ '.' ∉ label.toList :=
  plain_zoneLabels address 4

theorem length_zoneLabels (address : UInt32) (zoneOctets : Nat) :
    (zoneLabels address zoneOctets).length = min zoneOctets 4 + 2 := by
  simp [zoneLabels, octetsOf]

theorem inZone_iff {base address : UInt32} {zoneOctets : Nat} :
    InZone (joined (zoneLabels base zoneOctets)) address ↔
      (octetsOf address).take zoneOctets =
        (octetsOf base).take zoneOctets := by
  constructor
  · intro found
    obtain ⟨labels, suffix, same⟩ := found
    have plain := plain_zoneLabels base zoneOctets
    have within : ∀ label ∈ labels,
        0 < label.utf8ByteSize ∧ '.' ∉ label.toList := by
      intro label member
      exact plain_reverseLabels address label (suffix.mem member)
    have equal := congrArg parts same
    rw [parts_joined (fun label member => (plain label member).1)
        (fun label member => (plain label member).2),
      parts_joined (fun label member => (within label member).1)
        (fun label member => (within label member).2)] at equal
    rw [← equal] at suffix
    have lengths : (zoneLabels base zoneOctets).length =
        (zoneLabels address zoneOctets).length := by
      rw [length_zoneLabels, length_zoneLabels]
    have both := List.suffix_of_suffix_length_le suffix
      (zoneLabels_suffix address zoneOctets) lengths.le
    have whole := List.append_cancel_right (both.eq_of_length lengths)
    have reversed :=
      List.map_injective_iff.mpr toString_injective whole
    exact (List.reverse_injective reversed).symm
  · intro same
    refine ⟨_, zoneLabels_suffix address zoneOctets, ?_⟩
    rw [zoneLabels, zoneLabels, same]

theorem take_octetsOf_iff {first second : UInt32} {zoneOctets : Nat}
    (range : 1 ≤ zoneOctets ∧ zoneOctets ≤ 3) :
    (octetsOf first).take zoneOctets = (octetsOf second).take zoneOctets ↔
      first.toNat / 2 ^ (32 - zoneOctets * 8) =
        second.toNat / 2 ^ (32 - zoneOctets * 8) := by
  have firstSmall := first.toNat_lt
  have secondSmall := second.toNat_lt
  have cases : zoneOctets = 1 ∨ zoneOctets = 2 ∨ zoneOctets = 3 := by omega
  rcases cases with rfl | rfl | rfl
  · simp [octetsOf]
  · simp [octetsOf]
    omega
  · simp [octetsOf]
    omega

/-! ## The zones of a network -/

def zoneOctets (length : Nat) : Nat := min ((length + 7) / 8) 3

/-- The number of addresses of a zone, as a power of two. -/
def zoneWidth (length : Nat) : Nat := 32 - zoneOctets length * 8

def zoneCount (length : Nat) : Nat :=
  2 ^ (zoneOctets length * 8 - length)

def zoneBase (network : UInt32) (length index : Nat) : UInt32 :=
  network + UInt32.ofNat (index * 2 ^ zoneWidth length)

def scopeName (network : UInt32) (length index : Nat) : String :=
  joined (zoneLabels (zoneBase network length index) (zoneOctets length))

theorem zoneOctets_range {length : Nat} (range : 8 ≤ length ∧ length ≤ 30) :
    1 ≤ zoneOctets length ∧ zoneOctets length ≤ 3 := by
  rw [zoneOctets]
  omega

theorem scopeName_eq (network : UInt32) {length : Nat} (index : Nat)
    (range : 8 ≤ length ∧ length ≤ 30) :
    scopeName network length index =
      joined (((octetsOf (zoneBase network length index)).take
        (zoneOctets length)).reverse.map toString) ++ ".in-addr.arpa" := by
  have some_ : ((octetsOf (zoneBase network length index)).take
      (zoneOctets length)).reverse.map toString ≠ [] := by
    have octets := zoneOctets_range range
    intro empty
    have lengths := congrArg List.length empty
    rw [List.length_map, List.length_reverse, List.length_take] at lengths
    simp only [octetsOf, List.length_cons, List.length_nil] at lengths
    omega
  rw [scopeName, zoneLabels, joined_append_arpa some_]

theorem reverseZoneNames_eq (network : UInt32) {length : Nat}
    (range : 8 ≤ length ∧ length ≤ 30) :
    reverseZoneNames network length =
      (List.range (zoneCount length)).map (scopeName network length) := by
  have count : (if zoneOctets length * 8 ≤ length then 1
      else 2 ^ (zoneOctets length * 8 - length)) = zoneCount length := by
    rw [zoneCount]
    split
    · rename_i wide
      rw [Nat.sub_eq_zero_of_le wide]
      rfl
    · rfl
  have names : reverseZoneNames network length =
      (List.range (if zoneOctets length * 8 ≤ length then 1
        else 2 ^ (zoneOctets length * 8 - length))).map fun index =>
          joined (((octetsOf (zoneBase network length index)).take
            (zoneOctets length)).reverse.map toString) ++ "." ++
              legacyReverseResolverDomain := rfl
  rw [names, count]
  apply List.map_congr_left
  intro index _
  rw [scopeName_eq network index range, String.append_assoc]
  rfl

theorem reverseZonesFor_eq {cidr : String} {parsed : IPv4CIDR}
    (accepted : IPv4CIDR.parse cidr = .ok parsed) :
    reverseZonesFor cidr =
      (List.range (zoneCount parsed.prefixLength)).map
        (scopeName parsed.network parsed.prefixLength) := by
  have octets : min 3 ((parsed.prefixLength + 7) / 8) =
      zoneOctets parsed.prefixLength := Nat.min_comm _ _
  simp only [reverseZonesFor, accepted, octets]
  apply List.map_congr_left
  intro index _
  have base : UInt32.ofNat ((parsed.network.toNat +
      index * 2 ^ zoneWidth parsed.prefixLength) % 2 ^ 32) =
        zoneBase parsed.network parsed.prefixLength index := by
    apply UInt32.toNat_inj.mp
    rw [zoneBase, UInt32.toNat_add, UInt32.toNat_ofNat', UInt32.toNat_ofNat']
    omega
  rw [scopeName_eq parsed.network index parsed.prefixRange]
  exact congrArg (fun address => joined (((octetsOf address).take
    (zoneOctets parsed.prefixLength)).reverse.map toString) ++
      ".in-addr.arpa") base

/-! ## Cover -/

section Cover

variable (cidr : IPv4CIDR)

/-- The addresses of a network. -/
def Holds (address : UInt32) : Prop := address &&& cidr.mask = cidr.network

theorem holds_iff {address : UInt32} :
    Holds cidr address ↔
      address.toNat / 2 ^ (32 - cidr.prefixLength) *
        2 ^ (32 - cidr.prefixLength) = cidr.network.toNat := by
  have range := cidr.prefixRange
  rw [Holds, ← UInt32.toNat_inj, IPv4CIDR.mask,
    AddressMask.toNat_and_clearing address (by omega)]

theorem zoneCount_mul (wide : zoneWidth cidr.prefixLength ≤
      32 - cidr.prefixLength) :
    zoneCount cidr.prefixLength * 2 ^ zoneWidth cidr.prefixLength =
      2 ^ (32 - cidr.prefixLength) := by
  have octets := zoneOctets_range cidr.prefixRange
  rw [zoneWidth] at wide ⊢
  rw [zoneCount, ← Nat.pow_add]
  congr 1
  omega

theorem zoneCount_eq_one (narrow : 32 - cidr.prefixLength <
      zoneWidth cidr.prefixLength) : zoneCount cidr.prefixLength = 1 := by
  have octets := zoneOctets_range cidr.prefixRange
  rw [zoneWidth] at narrow
  have within : zoneOctets cidr.prefixLength * 8 - cidr.prefixLength = 0 := by
    omega
  rw [zoneCount, within, Nat.pow_zero]

theorem toNat_zoneBase {index : Nat}
    (inside : index < zoneCount cidr.prefixLength) :
    (zoneBase cidr.network cidr.prefixLength index).toNat =
      cidr.network.toNat + index * 2 ^ zoneWidth cidr.prefixLength := by
  have bound : cidr.network.toNat + 2 ^ (32 - cidr.prefixLength) ≤ 2 ^ 32 :=
    cidr.network_add_size_le
  have small : cidr.network.toNat +
      index * 2 ^ zoneWidth cidr.prefixLength < 2 ^ 32 := by
    rcases Nat.lt_or_ge (32 - cidr.prefixLength)
      (zoneWidth cidr.prefixLength) with narrow | wide
    · rw [zoneCount_eq_one cidr narrow] at inside
      have first : index = 0 := by omega
      have positive := Nat.two_pow_pos (32 - cidr.prefixLength)
      rw [first]
      omega
    · have more : (index + 1) * 2 ^ zoneWidth cidr.prefixLength ≤
          2 ^ (32 - cidr.prefixLength) := by
        rw [← zoneCount_mul cidr wide]
        exact Nat.mul_le_mul_right _ inside
      have positive := Nat.two_pow_pos (zoneWidth cidr.prefixLength)
      rw [Nat.add_mul, Nat.one_mul] at more
      omega
  rw [zoneBase, UInt32.toNat_add, UInt32.toNat_ofNat']
  omega

theorem inZone_scopeName_iff {index : Nat} {address : UInt32}
    (inside : index < zoneCount cidr.prefixLength) :
    InZone (scopeName cidr.network cidr.prefixLength index) address ↔
      address.toNat / 2 ^ zoneWidth cidr.prefixLength =
        cidr.network.toNat / 2 ^ zoneWidth cidr.prefixLength + index := by
  rw [scopeName, inZone_iff, take_octetsOf_iff
    (zoneOctets_range cidr.prefixRange)]
  have base : (zoneBase cidr.network cidr.prefixLength index).toNat /
      2 ^ zoneWidth cidr.prefixLength =
        cidr.network.toNat / 2 ^ zoneWidth cidr.prefixLength + index := by
    rw [toNat_zoneBase cidr inside,
      Nat.add_mul_div_right _ _ (Nat.two_pow_pos _)]
  rw [← base]
  rfl

theorem exists_inZone {address : UInt32} (member : Holds cidr address) :
    ∃ index < zoneCount cidr.prefixLength,
      InZone (scopeName cidr.network cidr.prefixLength index) address := by
  rw [holds_iff] at member
  rcases Nat.lt_or_ge (32 - cidr.prefixLength)
    (zoneWidth cidr.prefixLength) with narrow | wide
  · have one := zoneCount_eq_one cidr narrow
    refine ⟨0, by omega, (inZone_scopeName_iff cidr (by omega)).mpr ?_⟩
    have coarser : ∀ number : Nat,
        number / 2 ^ zoneWidth cidr.prefixLength =
          number / 2 ^ (32 - cidr.prefixLength) /
            2 ^ (zoneWidth cidr.prefixLength - (32 - cidr.prefixLength)) := by
      intro number
      rw [Nat.div_div_eq_div_mul, ← Nat.pow_add,
        Nat.add_sub_cancel' narrow.le]
    have leading : cidr.network.toNat / 2 ^ (32 - cidr.prefixLength) =
        address.toNat / 2 ^ (32 - cidr.prefixLength) := by
      rw [← member, Nat.mul_div_cancel _ (Nat.two_pow_pos _)]
    rw [coarser, coarser cidr.network.toNat, leading, Nat.add_zero]
  · have size := zoneCount_mul cidr wide
    have positive := Nat.two_pow_pos (zoneWidth cidr.prefixLength)
    have divides : 2 ^ zoneWidth cidr.prefixLength ∣ cidr.network.toNat := by
      rw [← member]
      exact dvd_mul_of_dvd_right (pow_dvd_pow 2 wide) _
    have start : cidr.network.toNat ≤ address.toNat := by
      rw [← member]
      exact Nat.div_mul_le_self _ _
    have finish : address.toNat < cidr.network.toNat +
        zoneCount cidr.prefixLength *
          2 ^ zoneWidth cidr.prefixLength := by
      rw [size, ← member]
      exact Nat.lt_div_mul_add (Nat.two_pow_pos _)
    have lower : cidr.network.toNat / 2 ^ zoneWidth cidr.prefixLength ≤
        address.toNat / 2 ^ zoneWidth cidr.prefixLength :=
      Nat.div_le_div_right start
    have upper : address.toNat / 2 ^ zoneWidth cidr.prefixLength <
        cidr.network.toNat / 2 ^ zoneWidth cidr.prefixLength +
          zoneCount cidr.prefixLength := by
      rw [Nat.div_lt_iff_lt_mul positive, Nat.add_mul,
        Nat.div_mul_cancel divides]
      exact finish
    refine ⟨address.toNat / 2 ^ zoneWidth cidr.prefixLength -
        cidr.network.toNat / 2 ^ zoneWidth cidr.prefixLength, by omega,
      (inZone_scopeName_iff cidr (by omega)).mpr (by omega)⟩

theorem scopes_apart :
    ((List.range (zoneCount cidr.prefixLength)).map
      (scopeName cidr.network cidr.prefixLength)).Pairwise
        fun zone other => ∀ address,
          ¬ (InZone zone address ∧ InZone other address) := by
  rw [List.pairwise_map]
  refine List.pairwise_lt_range.imp_of_mem ?_
  intro first second isFirst isSecond earlier address both
  have inFirst := (inZone_scopeName_iff cidr
    (List.mem_range.mp isFirst)).mp both.1
  have inSecond := (inZone_scopeName_iff cidr
    (List.mem_range.mp isSecond)).mp both.2
  omega

end Cover

/-! ## Agreement -/

/-- The host and the edge accept a text alike and have the same zones for it,
which cover the network and do not overlap. -/
structure Agrees (cidr : String) : Prop where
  accepted : (reverseZonesForCidr cidr).isOk = (IPv4CIDR.parse cidr).isOk
  same : ∀ zones, reverseZonesForCidr cidr = .ok zones →
    ∀ zone, zone ∈ zones ↔ zone ∈ reverseZonesFor cidr
  cover : ∀ parsed, IPv4CIDR.parse cidr = .ok parsed →
    ∀ address, Holds parsed address →
      ∃ zone ∈ reverseZonesFor cidr, InZone zone address
  apart : (reverseZonesFor cidr).Pairwise fun zone other =>
    ∀ address, ¬ (InZone zone address ∧ InZone other address)

/-- How the host or the edge may read an address: four numbers, or a dotted
quad that a NUL ends. -/
inductive Spelling (text : List Char) (address : UInt32) : Prop
  | numbers (read : parseOctets text = some address)
  | ended (rest : List Char)
      (same : text = (inetNtop address).toList ++ '\x00' :: rest)

/-- The network address is written as a plain dotted quad. -/
def PlainlySpelled (cidr : String) : Prop :=
  ∀ front length address, Written cidr front length →
    address &&& AddressMask.clearing (32 - length) = address →
      Spelling front address → front = (inetNtop address).toList

variable {cidr : String}

theorem spelling_of_inetPton {front : List Char} {address : UInt32}
    (read : inetPton (String.ofList front) = some address) :
    Spelling front address := by
  have quad := eq_inetNtop_of_inetPton read
  by_cases ends : '\x00' ∈ front
  · obtain ⟨before, after, same, plain⟩ := List.eq_append_cons_of_mem ends
    have parts := Splitting.first_separator_iff.mpr ⟨same, plain⟩
    rw [cString, String.toList_ofList, parts.1] at quad
    refine .ended after ?_
    rw [← quad, String.toList_ofList]
    exact same
  · have whole : cString (String.ofList front) = String.ofList front :=
      cString_of_not_mem (by rwa [String.toList_ofList])
    have numbers := parseOctets_of_inetPton read
    rw [whole, String.toList_ofList] at numbers
    exact .numbers numbers

theorem inetPton_of_ended {front rest : List Char} {address : UInt32}
    (same : front = (inetNtop address).toList ++ '\x00' :: rest) :
    inetPton (String.ofList front) = some address := by
  have plain : '\x00' ∉ (inetNtop address).toList :=
    not_mem_inetNtop (by decide) (by decide) address
  have parts := Splitting.first_separator_iff.mpr ⟨same, plain⟩
  rw [← inetPton_cString, cString, String.toList_ofList, parts.1,
    String.ofList_toList]
  exact inetPton_inetNtop address

theorem plainlySpelled_of_accepted
    (accepted : (reverseZonesForCidr cidr).isOk =
      (IPv4CIDR.parse cidr).isOk) : PlainlySpelled cidr := by
  intro front length address written network spelling
  cases spelling with
  | numbers read =>
      have installed := reverseZonesForCidr_eq_ok_iff.mpr
        ⟨front, length, address, written, read, network, rfl⟩
      have served : (IPv4CIDR.parse cidr).isOk = true := by
        rw [← accepted, installed]
        rfl
      obtain ⟨parsed, isParsed⟩ := Outcome.exists_of_isOk served
      obtain ⟨other, again, isAddress⟩ := parse_eq_ok_iff.mp isParsed
      rw [← (written.unique again).1] at isAddress
      have whole : cString (String.ofList front) = String.ofList front :=
        cString_of_not_mem
          (by rw [String.toList_ofList]
              exact nul_not_mem_of_parseOctets read)
      have quad := eq_inetNtop_of_inetPton isAddress
      rw [whole] at quad
      have same : front = (inetNtop parsed.network).toList := by
        rw [← quad, String.toList_ofList]
      rw [same, parseOctets_inetNtop] at read
      rw [same, Option.some.inj read]
  | ended rest same =>
      have range : 8 ≤ length ∧ length ≤ 30 := by
        obtain ⟨_, _, _, _, range⟩ := written
        exact range
      have served : IPv4CIDR.parse cidr =
          .ok ⟨address, length, range, network⟩ :=
        parse_eq_ok_iff.mpr ⟨front, written, inetPton_of_ended same⟩
      have installed : (reverseZonesForCidr cidr).isOk = true := by
        rw [accepted, served]
        rfl
      obtain ⟨zones, isInstalled⟩ := Outcome.exists_of_isOk installed
      obtain ⟨other, _, _, again, read, _⟩ :=
        reverseZonesForCidr_eq_ok_iff.mp isInstalled
      rw [← (written.unique again).1] at read
      refine absurd ?_ (nul_not_mem_of_parseOctets read)
      simp [same]

theorem installed_iff_served (plain : PlainlySpelled cidr)
    {zones : List String} :
    reverseZonesForCidr cidr = .ok zones ↔
      (IPv4CIDR.parse cidr).isOk = true ∧ zones = reverseZonesFor cidr := by
  constructor
  · intro installed
    obtain ⟨front, length, address, written, read, network, same⟩ :=
      reverseZonesForCidr_eq_ok_iff.mp installed
    have range : 8 ≤ length ∧ length ≤ 30 := by
      obtain ⟨_, _, _, _, range⟩ := written
      exact range
    have quad := plain front length address written network (.numbers read)
    have isAddress : inetPton (String.ofList front) = some address := by
      rw [quad, String.ofList_toList]
      exact inetPton_inetNtop address
    have served : IPv4CIDR.parse cidr =
        .ok ⟨address, length, range, network⟩ :=
      parse_eq_ok_iff.mpr ⟨front, written, isAddress⟩
    constructor
    · rw [served]
      rfl
    · rw [same, reverseZonesFor_eq served, reverseZoneNames_eq address range]
  · intro found
    obtain ⟨parsed, served⟩ := Outcome.exists_of_isOk found.1
    obtain ⟨front, written, isAddress⟩ := parse_eq_ok_iff.mp served
    have quad := plain front parsed.prefixLength parsed.network written
      parsed.isNetwork (spelling_of_inetPton isAddress)
    refine reverseZonesForCidr_eq_ok_iff.mpr ⟨front, parsed.prefixLength,
      parsed.network, written, ?_, parsed.isNetwork, ?_⟩
    · rw [quad, parseOctets_inetNtop]
    · rw [found.2, reverseZonesFor_eq served,
        reverseZoneNames_eq parsed.network parsed.prefixRange]

/-- Installed and served zones agree for a text, and cover its network once,
exactly when its address part is a plain dotted quad. -/
theorem agrees_iff (cidr : String) : Agrees cidr ↔ PlainlySpelled cidr := by
  constructor
  · intro agrees
    exact plainlySpelled_of_accepted agrees.accepted
  · intro plain
    refine ⟨?_, ?_, ?_, ?_⟩
    · rw [Bool.eq_iff_iff]
      constructor
      · intro installed
        obtain ⟨zones, isInstalled⟩ := Outcome.exists_of_isOk installed
        exact ((installed_iff_served plain).mp isInstalled).1
      · intro served
        rw [(installed_iff_served plain).mpr ⟨served, rfl⟩]
        rfl
    · intro zones installed zone
      rw [((installed_iff_served plain).mp installed).2]
    · intro parsed served address member
      obtain ⟨index, inside, inZone⟩ := exists_inZone parsed member
      rw [reverseZonesFor_eq served]
      exact ⟨_, List.mem_map_of_mem (List.mem_range.mpr inside), inZone⟩
    · cases served : IPv4CIDR.parse cidr with
      | ok parsed =>
          rw [reverseZonesFor_eq served]
          exact scopes_apart parsed
      | error failure =>
          simp only [reverseZonesFor, served]
          exact List.Pairwise.nil

/-- An octet with a leading zero is read by the host only. -/
theorem paddedOctet_not_agrees : ¬ Agrees "10.0.080.0/24" := by
  intro agrees
  have accepted := agrees.accepted
  revert accepted
  decide

end ReverseScopes

end DNS

end Vzctl
