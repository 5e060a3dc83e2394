import Vzctl.Network.IPv4CIDR

/-!
# Overflow in the addresses of a network

Every function of `IPv4CIDR` adds a fixed offset to the network address before
it looks at the range.  The first guest offset is 10, which is more than the
small networks at the end of the address space have room for.
-/

namespace Vzctl

theorem trappingAdd_eq_ok_iff {left right sum : UInt32} :
    trappingAdd left right = .ok sum ↔
      left.toNat + right.toNat < 2 ^ 32 ∧ sum = left + right := by
  unfold trappingAdd
  by_cases fits : left.toNat + right.toNat < 2 ^ 32
  · rw [if_pos fits, Except.ok.injEq]
    exact ⟨fun same => ⟨fits, same.symm⟩, fun both => both.2.symm⟩
  · rw [if_neg fits]
    simp only [reduceCtorEq, fits, false_and]

namespace IPv4CIDR

/-! ## The addresses that a text stands for -/

/-- `gateway`, `hostService` and `router` with the addition that traps. -/
def reservedAddress (offset : UInt32) (cidr : String) : Except Trap String :=
  match parse cidr with
  | .ok parsed => (trappingAdd parsed.network offset).map inetNtop
  | .error _ => .ok ""

variable (cidr : IPv4CIDR)

/-- The offsets that the loop of `ensureVMNetwork` can come to. -/
def LoopReaches (offset : Nat) : Prop :=
  10 ≤ offset ∧ ∀ earlier, 10 ≤ earlier → earlier < offset →
    ∃ text, cidr.guestAddress (UInt32.ofNat earlier) = .ok (some text)

/-- No addition overflows, and the results are addresses of the network. -/
structure ComputesInside : Prop where
  guest : ∀ value, ∃ answer, cidr.containsGuest value = .ok answer
  attachment : ∀ value, ∃ answer, cidr.containsAttachment value = .ok answer
  address : ∀ offset, cidr.LoopReaches offset →
    ∃ found, cidr.guestAddress (UInt32.ofNat offset) = .ok found ∧
      ∀ text, found = some text → cidr.contains text = true
  loop : ∀ used, ∃ found, cidr.freeGuestAddress used = .ok found ∧
    ∀ text, found = some text → cidr.contains text = true
  reserved : ∀ value, parse value = .ok cidr → ∀ offset ∈ [0, 1, 2],
    ∃ text, reservedAddress offset value = .ok text ∧
      cidr.contains text = true

/-! ## Addresses of the network -/

theorem contains_addressAt {offset : Nat} (inside : offset < cidr.size) :
    cidr.contains (inetNtop (cidr.addressAt offset)) = true :=
  (cidr.contains_iff _).mpr
    ⟨_, inetPton_inetNtop _, cidr.addressAt_mem_block inside⟩

theorem reservedAddress_inside {value : String}
    (accepted : parse value = .ok cidr) {offset : UInt32}
    (isReserved : offset.toNat < 3) :
    ∃ text, reservedAddress offset value = .ok text ∧
      cidr.contains text = true := by
  have atLeast := cidr.four_le_size
  have inside : offset.toNat < cidr.size := by omega
  refine ⟨_, ?_, cidr.contains_addressAt inside⟩
  rw [reservedAddress, accepted]
  dsimp only
  rw [cidr.trappingAdd_inside inside]
  rfl

theorem trappingAdd_small (parsed : IPv4CIDR) {offset : UInt32}
    (small : offset.toNat < 3) :
    trappingAdd parsed.network offset = .ok (parsed.network + offset) := by
  have atLeast := parsed.four_le_size
  have bound := parsed.network_add_size_le
  exact trappingAdd_eq_ok_iff.mpr ⟨by omega, rfl⟩

/-! ## Where the first guest offset fits -/

section Fits

variable (fits : cidr.network.toNat + 10 < 2 ^ 32)
include fits

theorem containsGuest_computes (value : String) :
    ∃ answer, cidr.containsGuest value = .ok answer := by
  unfold containsGuest
  cases inetPton value with
  | none => exact ⟨false, rfl⟩
  | some address =>
      have added : trappingAdd cidr.network 10 = .ok (cidr.network + 10) :=
        trappingAdd_eq_ok_iff.mpr ⟨fits, rfl⟩
      dsimp only
      rw [added]
      exact ⟨_, rfl⟩

theorem containsAttachment_computes (value : String) :
    ∃ answer, cidr.containsAttachment value = .ok answer := by
  unfold containsAttachment
  cases inetPton value with
  | none => exact ⟨false, rfl⟩
  | some address =>
      dsimp only
      rw [trappingAdd_small cidr (by decide)]
      by_cases isRouter : address = cidr.network + 2
      · exact ⟨true, by simp [bind, Except.bind, isRouter, pure, Except.pure]⟩
      · obtain ⟨answer, computed⟩ := cidr.containsGuest_computes fits value
        exact ⟨answer, by simp [bind, Except.bind, isRouter, computed]⟩

theorem guestAddress_computes {offset : Nat}
    (reached : cidr.LoopReaches offset) :
    ∃ found, cidr.guestAddress (UInt32.ofNat offset) = .ok found ∧
      ∀ text, found = some text → cidr.contains text = true := by
  have bound := cidr.network_add_size_le
  have notBeyond := cidr.position_le_of_candidates reached.2
  have number : (UInt32.ofNat offset).toNat = offset :=
    UInt32.toNat_ofNat_of_lt' (by change _ < 2 ^ 32; omega)
  have added : trappingAdd cidr.network (UInt32.ofNat offset) =
      .ok (cidr.network + UInt32.ofNat offset) :=
    trappingAdd_eq_ok_iff.mpr ⟨by rw [number]; omega, rfl⟩
  have computes : ∃ found,
      cidr.guestAddress (UInt32.ofNat offset) = .ok found := by
    unfold guestAddress
    rw [added]
    by_cases isGuest : 10 ≤ UInt32.ofNat offset ∧
        cidr.network + UInt32.ofNat offset < cidr.broadcast
    · exact ⟨some _, if_pos isGuest⟩
    · exact ⟨none, if_neg isGuest⟩
  obtain ⟨found, isFound⟩ := computes
  refine ⟨found, isFound, ?_⟩
  intro text isText
  rw [isText] at isFound
  obtain ⟨fromTen, belowLast⟩ :=
    cidr.guest_of_guestAddress (by omega) isFound
  rw [cidr.guestAddress_of_guest fromTen belowLast] at isFound
  cases isFound
  exact cidr.contains_addressAt (by omega)

theorem freeGuestAddress_computes (used : List String) :
    ∃ found, cidr.freeGuestAddress used = .ok found ∧
      ∀ text, found = some text → cidr.contains text = true := by
  rcases cidr.freeGuestAddress_cases used with isFree | full
  · obtain ⟨offset, lowest, found⟩ := isFree
    refine ⟨_, found, ?_⟩
    intro text isText
    have below := lowest.belowLast
    cases isText
    exact cidr.contains_addressAt (by omega)
  · rcases full.2 with nothing | trapped
    · exact ⟨none, nothing, by simp⟩
    · obtain ⟨trap, failed⟩ := trapped
      obtain ⟨position, fromTen, _, fails, before⟩ :=
        FirstFree.failed_of_scan_error failed
      obtain ⟨found, computed, _⟩ :=
        cidr.guestAddress_computes fits ⟨fromTen,
          fun earlier earlierFromTen earlierBefore =>
            (before earlier earlierFromTen earlierBefore).imp
              fun _ both => both.1⟩
      rw [computed] at fails
      cases fails

end Fits

/-- The arithmetic of a network is safe exactly when the first guest offset
fits into 32 bits. -/
theorem computesInside_iff :
    cidr.ComputesInside ↔ cidr.network.toNat + 10 < 2 ^ 32 := by
  constructor
  · intro inside
    obtain ⟨found, computed, _⟩ := inside.address 10
      ⟨Nat.le_refl 10, by omega⟩
    obtain ⟨address, added, _⟩ := Outcome.bind_eq_ok_iff.mp computed
    exact (trappingAdd_eq_ok_iff.mp added).1
  · intro fits
    exact {
      guest := cidr.containsGuest_computes fits
      attachment := cidr.containsAttachment_computes fits
      address := fun _ reached => cidr.guestAddress_computes fits reached
      loop := cidr.freeGuestAddress_computes fits
      reserved := by
        intro value accepted offset isReserved
        refine cidr.reservedAddress_inside accepted ?_
        simp only [List.mem_cons, List.not_mem_nil, or_false] at isReserved
        rcases isReserved with isZero | isOne | isTwo
        · simp [isZero]
        · simp [isOne]
        · simp [isTwo] }

/-! ## The last network -/

/-- The last network of the address space. -/
def lastNetwork : IPv4CIDR where
  network := 4294967292
  prefixLength := 30
  prefixRange := by decide
  isNetwork := by decide

theorem lastNetwork_containsAttachment :
    lastNetwork.containsAttachment "255.255.255.253" = .error .overflow := by
  decide

/-- The initializer accepts the last network; asking whether an address can be
attached to it traps, and so does looking for a free address. -/
theorem lastNetwork_traps :
    parse "255.255.255.252/30" = .ok lastNetwork ∧
      lastNetwork.freeGuestAddress [] = .error .overflow ∧
      ¬ lastNetwork.ComputesInside := by
  refine ⟨by rfl, by rfl, ?_⟩
  intro inside
  obtain ⟨answer, computed⟩ := inside.attachment "255.255.255.253"
  rw [lastNetwork_containsAttachment] at computed
  cases computed

end IPv4CIDR

end Vzctl
