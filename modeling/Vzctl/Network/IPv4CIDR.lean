import Vzctl.Lib.AlignedBlock
import Vzctl.Lib.FirstFree
import Vzctl.Lib.Outcome
import Vzctl.Network.InetAddress

/-!
# IPv4 networks of the daemon

The network type of `NetworkTypes.swift`.  `+` on addresses traps on overflow,
which the functions below report as an error of their own.
-/

namespace Vzctl

/-- What makes the process trap. -/
inductive Trap where
  | overflow
  | indexOutOfRange
  deriving DecidableEq, Repr

/-- `left + right`. -/
def trappingAdd (left right : UInt32) : Except Trap UInt32 :=
  if left.toNat + right.toNat < 2 ^ 32 then
    .ok (left + right)
  else
    .error .overflow

inductive NetworkValidationError where
  | invalidCIDR (value : String)
  | nonCanonicalCIDR (value : String)
  | invalidIP (value cidr : String)
  deriving DecidableEq, Repr

def NetworkValidationError.description : NetworkValidationError → String
  | .invalidCIDR value =>
      "invalid IPv4 CIDR " ++ value ++ "; prefix must be /8 through /30"
  | .nonCanonicalCIDR value =>
      "CIDR must use its network address: " ++ value
  | .invalidIP value cidr =>
      "IP " ++ value ++
        " must be router offset .2 or a guest offset .10 or later in " ++ cidr

/-- A network of /8 through /30 given by its network address. -/
structure IPv4CIDR where
  network : UInt32
  prefixLength : Nat
  prefixRange : 8 ≤ prefixLength ∧ prefixLength ≤ 30
  isNetwork :
    network &&& AddressMask.clearing (32 - prefixLength) = network
  deriving DecidableEq

namespace IPv4CIDR

/-- `init(_ value: String) throws`. -/
def parse (value : String) : Except NetworkValidationError IPv4CIDR :=
  match value.toList.splitOn '/' with
  | [addressText, lengthText] =>
      match swiftInt lengthText with
      | none => .error (.invalidCIDR value)
      | some length =>
          if range : 8 ≤ length ∧ length ≤ 30 then
            match inetPton (String.ofList addressText) with
            | none => .error (.invalidCIDR value)
            | some hostAddress =>
                if same : hostAddress &&&
                    AddressMask.clearing (32 - length.toNat) =
                    hostAddress then
                  .ok {
                    network := hostAddress
                    prefixLength := length.toNat
                    prefixRange := by omega
                    isNetwork := same }
                else
                  .error (.nonCanonicalCIDR value)
          else
            .error (.invalidCIDR value)
  | _ => .error (.invalidCIDR value)

variable (cidr : IPv4CIDR)

def mask : UInt32 := AddressMask.clearing (32 - cidr.prefixLength)

def canonical : String :=
  inetNtop cidr.network ++ "/" ++ Nat.repr cidr.prefixLength

def broadcast : UInt32 := cidr.network ||| ~~~cidr.mask

def containsGuest (value : String) : Except Trap Bool :=
  match inetPton value with
  | none => .ok false
  | some address => do
      let firstGuest ← trappingAdd cidr.network 10
      return firstGuest ≤ address ∧ address < cidr.broadcast

def containsAttachment (value : String) : Except Trap Bool :=
  match inetPton value with
  | none => .ok false
  | some address => do
      let router ← trappingAdd cidr.network 2
      if address = router then
        return true
      else
        cidr.containsGuest value

def guestAddress (offset : UInt32) : Except Trap (Option String) := do
  let address ← trappingAdd cidr.network offset
  if 10 ≤ offset ∧ address < cidr.broadcast then
    return some (inetNtop address)
  else
    return none

def overlaps (other : IPv4CIDR) : Bool :=
  cidr.network ≤ other.broadcast ∧ other.network ≤ cidr.broadcast

def contains (value : String) : Bool :=
  match inetPton value with
  | none => false
  | some address => address &&& cidr.mask = cidr.network

/-- Host bridge address used for UDP DNS and as gateway (network `.0`). -/
def gateway (cidr : String) : String :=
  match parse cidr with
  | .ok parsed => inetNtop parsed.network
  | .error _ => ""

/-- Host TCP service address for guest ingress (network `.1`). -/
def hostService (cidr : String) : String :=
  match parse cidr with
  | .ok parsed => inetNtop (parsed.network + 1)
  | .error _ => ""

def router (cidr : String) : String :=
  match parse cidr with
  | .ok parsed => inetNtop (parsed.network + 2)
  | .error _ => ""

/-! ## The canonical text -/

theorem parse_canonical : parse cidr.canonical = .ok cidr := by
  obtain ⟨network, prefixLength, prefixRange, isNetwork⟩ := cidr
  have parts : (canonical ⟨network, prefixLength, prefixRange,
      isNetwork⟩).toList.splitOn '/' =
      [(inetNtop network).toList, Nat.toDigits 10 prefixLength] := by
    have joined : (canonical ⟨network, prefixLength, prefixRange,
        isNetwork⟩).toList = ['/'].intercalate
          [(inetNtop network).toList, Nat.toDigits 10 prefixLength] := by
      simp [canonical, List.intercalate]
    rw [joined]
    apply List.splitOn_intercalate
    · intro part member
      rcases List.mem_cons.mp member with rfl | member
      · exact not_mem_inetNtop (by decide) (by decide) network
      · rw [List.mem_singleton.mp member]
        exact not_mem_toDigits (by decide) prefixLength
    · simp
  have range : (8 : Int) ≤ prefixLength ∧ (prefixLength : Int) ≤ 30 := by
    omega
  have natLength : (prefixLength : Int).toNat = prefixLength := by omega
  have lengthRead : swiftInt (Nat.toDigits 10 prefixLength) =
      some (prefixLength : Int) := swiftInt_toDigits (by omega)
  unfold parse
  rw [parts]
  simp only [lengthRead, String.ofList_toList, inetPton_inetNtop]
  rw [dif_pos range]
  simp only [natLength]
  rw [dif_pos isNetwork]

theorem canonical_injective : Function.Injective canonical := by
  intro left right same
  have read : (.ok left : Except NetworkValidationError IPv4CIDR) =
      .ok right := by
    rw [← parse_canonical left, same, parse_canonical]
  exact Except.ok.inj read

/-! ## The addresses of a network -/

theorem network_aligned :
    2 ^ (32 - cidr.prefixLength) ∣ cidr.network.toNat := by
  have range := cidr.prefixRange
  have masked := congrArg UInt32.toNat cidr.isNetwork
  rw [AddressMask.toNat_and_clearing _ (by omega)] at masked
  exact ⟨cidr.network.toNat / 2 ^ (32 - cidr.prefixLength), by
    rw [Nat.mul_comm]; exact masked.symm⟩

/-- The addresses of the network. -/
def block : AlignedBlock where
  base := cidr.network.toNat
  width := 32 - cidr.prefixLength
  aligned := cidr.network_aligned

/-- The number of addresses. -/
def size : Nat := 2 ^ (32 - cidr.prefixLength)

theorem four_le_size : 4 ≤ cidr.size := by
  have range := cidr.prefixRange
  calc
    4 = 2 ^ 2 := rfl
    _ ≤ 2 ^ (32 - cidr.prefixLength) :=
      Nat.pow_le_pow_right (by omega) (by omega)

theorem network_add_size_le : cidr.network.toNat + cidr.size ≤ 2 ^ 32 :=
  cidr.block.base_add_size_le (Nat.sub_le _ _) cidr.network.toNat_lt

theorem toNat_broadcast :
    cidr.broadcast.toNat = cidr.network.toNat + (cidr.size - 1) := by
  have range := cidr.prefixRange
  rw [broadcast, mask, size]
  exact AddressMask.toNat_or_not_clearing (by omega) cidr.network_aligned

theorem last_block : cidr.block.last = cidr.broadcast.toNat := by
  rw [toNat_broadcast]
  rfl

theorem overlaps_iff (left right : IPv4CIDR) :
    left.overlaps right = true ↔ left.block.Overlaps right.block := by
  rw [AlignedBlock.Overlaps, last_block, last_block, overlaps,
    decide_eq_true_eq, UInt32.le_iff_toNat_le, UInt32.le_iff_toNat_le]
  rfl

theorem contains_iff (value : String) :
    cidr.contains value = true ↔
      ∃ address, inetPton value = some address ∧
        address.toNat ∈ cidr.block := by
  have range := cidr.prefixRange
  have aligned := cidr.network_aligned
  unfold contains
  cases accepted : inetPton value with
  | none => simp
  | some address =>
      simp only [decide_eq_true_eq, Option.some.injEq, exists_eq_left']
      rw [AlignedBlock.mem_iff_div_eq, ← UInt32.toNat_inj, mask,
        AddressMask.toNat_and_clearing _ (by omega)]
      change _ ↔ address.toNat / 2 ^ (32 - cidr.prefixLength) =
        cidr.network.toNat / 2 ^ (32 - cidr.prefixLength)
      obtain ⟨index, start⟩ := aligned
      have positive : 0 < 2 ^ (32 - cidr.prefixLength) := Nat.two_pow_pos _
      rw [start, Nat.mul_div_cancel_left index positive, Nat.mul_comm _ index]
      exact Nat.mul_left_inj positive.ne'

/-- The address at an offset of the network. -/
def addressAt (offset : Nat) : UInt32 :=
  UInt32.ofNat (cidr.network.toNat + offset)

theorem toNat_addressAt {offset : Nat} (inside : offset < cidr.size) :
    (cidr.addressAt offset).toNat = cidr.network.toNat + offset :=
  cidr.block.toNat_ofNat_base_add (Nat.sub_le _ _) cidr.network.toNat_lt inside

theorem addressAt_mem_block {offset : Nat} (inside : offset < cidr.size) :
    (cidr.addressAt offset).toNat ∈ cidr.block := by
  rw [AlignedBlock.mem_iff, cidr.toNat_addressAt inside, last_block,
    toNat_broadcast]
  change cidr.network.toNat ≤ _ ∧ _
  omega

/-- Offset 2 is for the router; guests start at offset 10 and stop before the
broadcast address. -/
def AttachmentOffset (offset : Nat) : Prop :=
  offset = 2 ∨ 10 ≤ offset ∧ offset < cidr.size - 1

theorem AttachmentOffset.lt_size {cidr : IPv4CIDR} {offset : Nat}
    (isAttachment : cidr.AttachmentOffset offset) : offset < cidr.size := by
  have atLeast := cidr.four_le_size
  rcases isAttachment with rfl | ⟨_, below⟩ <;> omega

theorem trappingAdd_inside {offset : UInt32}
    (inside : offset.toNat < cidr.size) :
    trappingAdd cidr.network offset =
      .ok (cidr.addressAt offset.toNat) := by
  have bound := cidr.network_add_size_le
  rw [trappingAdd, if_pos (by omega)]
  apply congrArg Except.ok
  rw [← UInt32.toNat_inj, UInt32.toNat_add, cidr.toNat_addressAt inside]
  exact Nat.mod_eq_of_lt (by omega)

theorem trappingAdd_outside {offset address : UInt32}
    (outside : cidr.size ≤ offset.toNat)
    (added : trappingAdd cidr.network offset = .ok address) :
    cidr.network.toNat + cidr.size ≤ address.toNat := by
  unfold trappingAdd at added
  split at added
  · rename_i noOverflow
    cases added
    rw [UInt32.toNat_add, Nat.mod_eq_of_lt noOverflow]
    omega
  · cases added

theorem addressAt_sub {address : UInt32}
    (notBefore : cidr.network.toNat ≤ address.toNat) :
    cidr.addressAt (address.toNat - cidr.network.toNat) = address := by
  rw [addressAt, Nat.add_sub_cancel' notBefore, UInt32.ofNat_toNat]

theorem containsGuest_eq_true_iff (value : String) :
    cidr.containsGuest value = .ok true ↔
      ∃ offset, 10 ≤ offset ∧ offset < cidr.size - 1 ∧
        inetPton value = some (cidr.addressAt offset) := by
  have last := cidr.toNat_broadcast
  have ten : (10 : UInt32).toNat = 10 := rfl
  unfold containsGuest
  constructor
  · intro accepted
    split at accepted
    · cases accepted
    · rename_i address parsed
      obtain ⟨firstGuest, added, inRange⟩ :=
        Outcome.bind_eq_ok_iff.mp accepted
      rw [Outcome.pure_eq_ok_iff, decide_eq_true_eq,
        UInt32.le_iff_toNat_le, UInt32.lt_iff_toNat_lt, last] at inRange
      by_cases inside : 10 < cidr.size
      · rw [cidr.trappingAdd_inside (ten ▸ inside)] at added
        cases added
        rw [ten, cidr.toNat_addressAt inside] at inRange
        refine ⟨address.toNat - cidr.network.toNat, by omega, by omega, ?_⟩
        rw [parsed, cidr.addressAt_sub (by omega)]
      · have beyond := cidr.trappingAdd_outside (by omega) added
        omega
  · rintro ⟨offset, fromTen, belowLast, parsed⟩
    rw [parsed]
    dsimp only
    rw [cidr.trappingAdd_inside (by omega)]
    apply Outcome.bind_eq_ok_iff.mpr
    refine ⟨_, rfl, ?_⟩
    rw [Outcome.pure_eq_ok_iff, decide_eq_true_eq,
      UInt32.le_iff_toNat_le, UInt32.lt_iff_toNat_lt, last, ten,
      cidr.toNat_addressAt (by omega), cidr.toNat_addressAt (by omega)]
    omega

theorem containsAttachment_eq_true_iff (value : String) :
    cidr.containsAttachment value = .ok true ↔
      ∃ offset, cidr.AttachmentOffset offset ∧
        inetPton value = some (cidr.addressAt offset) := by
  have atLeast := cidr.four_le_size
  have two : (2 : UInt32).toNat = 2 := rfl
  unfold containsAttachment
  constructor
  · intro accepted
    split at accepted
    · cases accepted
    · rename_i address parsed
      rw [cidr.trappingAdd_inside (by omega)] at accepted
      by_cases isRouter : address = cidr.addressAt 2
      · exact ⟨2, .inl rfl, isRouter ▸ parsed⟩
      · have guest : cidr.containsGuest value = .ok true := by
          simpa [bind, Except.bind, two, isRouter] using accepted
        obtain ⟨offset, fromTen, belowLast, same⟩ :=
          (cidr.containsGuest_eq_true_iff value).mp guest
        exact ⟨offset, .inr ⟨fromTen, belowLast⟩, parsed ▸ same⟩
  · rintro ⟨offset, isAttachment, parsed⟩
    rw [parsed]
    dsimp only
    rw [cidr.trappingAdd_inside (by omega)]
    apply Outcome.bind_eq_ok_iff.mpr
    refine ⟨_, rfl, ?_⟩
    rw [two]
    split
    · rfl
    · rename_i notRouter
      rcases isAttachment with rfl | ⟨fromTen, belowLast⟩
      · exact absurd rfl notRouter
      · exact (cidr.containsGuest_eq_true_iff value).mpr
          ⟨offset, fromTen, belowLast, parsed⟩

/-! ## Guest addresses by offset -/

theorem guestAddress_of_guest {offset : Nat} (fromTen : 10 ≤ offset)
    (belowLast : offset < cidr.size - 1) :
    cidr.guestAddress (UInt32.ofNat offset) =
      .ok (some (inetNtop (cidr.addressAt offset))) := by
  have bound := cidr.network_add_size_le
  have last := cidr.toNat_broadcast
  have ten : (10 : UInt32).toNat = 10 := rfl
  have number : (UInt32.ofNat offset).toNat = offset :=
    UInt32.toNat_ofNat_of_lt' (by change _ < 2 ^ 32; omega)
  have inRange : 10 ≤ UInt32.ofNat offset ∧
      cidr.addressAt (UInt32.ofNat offset).toNat < cidr.broadcast := by
    rw [UInt32.le_iff_toNat_le, UInt32.lt_iff_toNat_lt, number, ten, last,
      cidr.toNat_addressAt (by omega)]
    omega
  unfold guestAddress
  rw [cidr.trappingAdd_inside (by omega)]
  apply Outcome.bind_eq_ok_iff.mpr
  refine ⟨_, rfl, ?_⟩
  rw [if_pos inRange, number]
  rfl

theorem guest_of_guestAddress {offset : Nat} {text : String}
    (small : offset < 2 ^ 32)
    (found : cidr.guestAddress (UInt32.ofNat offset) = .ok (some text)) :
    10 ≤ offset ∧ offset < cidr.size - 1 := by
  have last := cidr.toNat_broadcast
  have number : (UInt32.ofNat offset).toNat = offset :=
    UInt32.toNat_ofNat_of_lt' small
  obtain ⟨address, added, inRange⟩ := Outcome.bind_eq_ok_iff.mp found
  split at inRange
  · rename_i guest
    obtain ⟨fromTen, belowLast⟩ := guest
    rw [UInt32.le_iff_toNat_le, number] at fromTen
    rw [UInt32.lt_iff_toNat_lt, last] at belowLast
    by_cases inside : offset < cidr.size
    · rw [cidr.trappingAdd_inside (number.symm ▸ inside)] at added
      cases added
      rw [number, cidr.toNat_addressAt inside] at belowLast
      exact ⟨fromTen, by omega⟩
    · have beyond := cidr.trappingAdd_outside
        (by rw [number]; omega) added
      omega
  · cases inRange

/-- The loop of `ensureVMNetwork` over the guest offsets. -/
def freeGuestAddress (used : List String) : Except Trap (Option String) :=
  FirstFree.scan (fun offset => cidr.guestAddress (UInt32.ofNat offset))
    (fun candidate => used.contains candidate) cidr.size 10

/-- Every guest address is in use. -/
def Full (used : List String) : Prop :=
  ∀ offset, 10 ≤ offset → offset < cidr.size - 1 →
    inetNtop (cidr.addressAt offset) ∈ used

/-- The lowest guest offset whose address is not in use. -/
structure IsLowestFree (used : List String) (offset : Nat) : Prop where
  fromTen : 10 ≤ offset
  belowLast : offset < cidr.size - 1
  free : inetNtop (cidr.addressAt offset) ∉ used
  usedBefore : ∀ earlier, 10 ≤ earlier → earlier < offset →
    inetNtop (cidr.addressAt earlier) ∈ used

variable {cidr} in
theorem Full.of_same {used other : List String} (full : cidr.Full used)
    (same : ∀ text, text ∈ used ↔ text ∈ other) : cidr.Full other :=
  fun offset fromTen belowLast =>
    (same _).mp (full offset fromTen belowLast)

variable {cidr} in
theorem IsLowestFree.of_same {used other : List String} {offset : Nat}
    (lowest : cidr.IsLowestFree used offset)
    (same : ∀ text, text ∈ used ↔ text ∈ other) :
    cidr.IsLowestFree other offset where
  fromTen := lowest.fromTen
  belowLast := lowest.belowLast
  free member := lowest.free ((same _).mpr member)
  usedBefore earlier fromTen before :=
    (same _).mp (lowest.usedBefore earlier fromTen before)

theorem size_le : cidr.size ≤ 2 ^ 32 := by
  have bound := cidr.network_add_size_le
  omega

theorem position_le_of_candidates {position : Nat}
    (candidates : ∀ earlier, 10 ≤ earlier → earlier < position →
      ∃ text, cidr.guestAddress (UInt32.ofNat earlier) = .ok (some text)) :
    position ≤ max 10 (cidr.size - 1) := by
  have small := cidr.size_le
  by_contra beyond
  obtain ⟨text, isGuest⟩ := candidates (max 10 (cidr.size - 1))
    (Nat.le_max_left _ _) (by omega)
  have guest := cidr.guest_of_guestAddress (by omega) isGuest
  omega

/-- The loop finds the lowest free guest address, and fails only in a full
network. -/
theorem freeGuestAddress_cases (used : List String) :
    (∃ offset, cidr.IsLowestFree used offset ∧
      cidr.freeGuestAddress used =
        .ok (some (inetNtop (cidr.addressAt offset)))) ∨
    cidr.Full used ∧
      (cidr.freeGuestAddress used = .ok none ∨
        ∃ trap, cidr.freeGuestAddress used = .error trap) := by
  have small := cidr.size_le
  have atLeast := cidr.four_le_size
  have guestText : ∀ {offset : Nat}, 10 ≤ offset → offset < cidr.size - 1 →
      ∃ text, cidr.guestAddress (UInt32.ofNat offset) = .ok (some text) :=
    fun fromTen belowLast =>
      ⟨_, cidr.guestAddress_of_guest fromTen belowLast⟩
  cases result : cidr.freeGuestAddress used with
  | ok found =>
      cases found with
      | some text =>
          left
          obtain ⟨offset, _, isFirst⟩ := FirstFree.isFirst_of_scan result
          have notBeyond := cidr.position_le_of_candidates
            fun earlier fromTen before =>
              (isFirst.takenBefore earlier fromTen before).imp
                fun _ both => both.1
          obtain ⟨fromTen, belowLast⟩ :=
            cidr.guest_of_guestAddress (by omega) isFirst.isCandidate
          have isCandidate := isFirst.isCandidate
          rw [cidr.guestAddress_of_guest fromTen belowLast] at isCandidate
          cases isCandidate
          refine ⟨offset, ⟨fromTen, belowLast, ?_, ?_⟩, rfl⟩
          · have free := isFirst.free
            simpa using free
          · intro earlier earlierFromTen before
            obtain ⟨other, otherCandidate, taken⟩ :=
              isFirst.takenBefore earlier earlierFromTen before
            rw [cidr.guestAddress_of_guest earlierFromTen (by omega)]
              at otherCandidate
            cases otherCandidate
            simpa using taken
      | none =>
          right
          refine ⟨?_, .inl rfl⟩
          intro offset fromTen belowLast
          have taken := FirstFree.taken_of_scan_none (by omega)
            (fun position fromStart beforeStop =>
              guestText fromStart beforeStop)
            result fromTen belowLast
            (cidr.guestAddress_of_guest fromTen belowLast)
          simpa using taken
  | error failure =>
      right
      refine ⟨?_, .inr ⟨failure, rfl⟩⟩
      intro offset fromTen belowLast
      obtain ⟨position, _, _, fails, before⟩ :=
        FirstFree.failed_of_scan_error result
      have notBeyond := cidr.position_le_of_candidates
        fun earlier fromTen earlierBefore =>
          (before earlier fromTen earlierBefore).imp fun _ both => both.1
      have number : (UInt32.ofNat position).toNat = position :=
        UInt32.toNat_ofNat_of_lt' (by change _ < 2 ^ 32; omega)
      have inside : (UInt32.ofNat position).toNat < cidr.size := by omega
      unfold guestAddress at fails
      rw [cidr.trappingAdd_inside inside] at fails
      change (if _ then _ else _) = _ at fails
      split at fails <;> cases fails

end IPv4CIDR

end Vzctl
