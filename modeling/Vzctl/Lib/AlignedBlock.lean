import Mathlib.Algebra.Order.Ring.Nat
import Mathlib.Data.Nat.Bitwise

/-!
# Blocks of addresses aligned to their size

A block holds `2 ^ width` consecutive numbers and starts at a multiple of its
size.  Two such blocks are disjoint or nested.  The second part connects blocks
of 32-bit addresses to the bit masks that programs compute with.
-/

structure AlignedBlock where
  base : Nat
  width : Nat
  aligned : 2 ^ width ∣ base

namespace AlignedBlock

variable {left right block : AlignedBlock} {address : Nat}

/-- The largest address of a block. -/
def last (block : AlignedBlock) : Nat :=
  block.base + (2 ^ block.width - 1)

instance : Membership Nat AlignedBlock where
  mem block address := block.base ≤ address ∧ address ≤ block.last

theorem mem_iff :
    address ∈ block ↔ block.base ≤ address ∧ address ≤ block.last := Iff.rfl

instance (address : Nat) (block : AlignedBlock) :
    Decidable (address ∈ block) :=
  inferInstanceAs (Decidable (_ ∧ _))

/-- The block of one address. -/
def single (address : Nat) : AlignedBlock where
  base := address
  width := 0
  aligned := ⟨address, by omega⟩

theorem mem_single_iff {other : Nat} :
    other ∈ single address ↔ other = address := by
  rw [mem_iff]
  change address ≤ other ∧ other ≤ address + (2 ^ 0 - 1) ↔ _
  omega

/-- The ranges meet. -/
def Overlaps (left right : AlignedBlock) : Prop :=
  left.base ≤ right.last ∧ right.base ≤ left.last

theorem base_le_last (block : AlignedBlock) : block.base ≤ block.last :=
  Nat.le_add_right _ _

theorem Overlaps.symm (meets : left.Overlaps right) : right.Overlaps left :=
  ⟨meets.2, meets.1⟩

theorem overlaps_iff_exists_mem :
    left.Overlaps right ↔ ∃ address, address ∈ left ∧ address ∈ right := by
  constructor
  · intro meets
    rcases Nat.le_total left.base right.base with leftFirst | rightFirst
    · exact ⟨right.base, ⟨leftFirst, meets.2⟩, le_refl _, base_le_last right⟩
    · exact ⟨left.base, ⟨le_refl _, base_le_last left⟩, rightFirst, meets.1⟩
  · rintro ⟨address, inLeft, inRight⟩
    exact ⟨inLeft.1.trans inRight.2, inRight.1.trans inLeft.2⟩

theorem mem_iff_div_eq :
    address ∈ block ↔
      address / 2 ^ block.width = block.base / 2 ^ block.width := by
  have positive : 0 < 2 ^ block.width := Nat.two_pow_pos block.width
  obtain ⟨index, base⟩ := block.aligned
  rw [mem_iff, last, base, Nat.mul_div_cancel_left index positive,
    Nat.div_eq_iff positive]
  have commuted : 2 ^ block.width * index = index * 2 ^ block.width :=
    Nat.mul_comm _ _
  omega

/-- A block of 32-bit addresses ends before `2 ^ 32`. -/
theorem base_add_size_le (block : AlignedBlock) (narrow : block.width ≤ 32)
    (inside : block.base < 2 ^ 32) :
    block.base + 2 ^ block.width ≤ 2 ^ 32 := by
  obtain ⟨index, start⟩ := block.aligned
  have whole : (2 : Nat) ^ 32 = 2 ^ block.width * 2 ^ (32 - block.width) := by
    rw [← Nat.pow_add, Nat.add_sub_cancel' narrow]
  rw [start, whole] at inside ⊢
  have below : index < 2 ^ (32 - block.width) :=
    Nat.lt_of_mul_lt_mul_left inside
  calc
    2 ^ block.width * index + 2 ^ block.width =
        2 ^ block.width * (index + 1) := (Nat.mul_succ _ _).symm
    _ ≤ 2 ^ block.width * 2 ^ (32 - block.width) :=
      Nat.mul_le_mul_left _ below

theorem toNat_ofNat_base_add (block : AlignedBlock) (narrow : block.width ≤ 32)
    (inside : block.base < 2 ^ 32) {offset : Nat}
    (below : offset < 2 ^ block.width) :
    (UInt32.ofNat (block.base + offset)).toNat = block.base + offset := by
  have bound := block.base_add_size_le narrow inside
  exact UInt32.toNat_ofNat_of_lt' (by change _ < 2 ^ 32; omega)

end AlignedBlock

/-! ## Bit masks -/

namespace AddressMask

variable {width : Nat}

/-- The mask that clears the low `width` bits. -/
def clearing (width : Nat) : UInt32 :=
  0xFFFFFFFF <<< UInt32.ofNat width

theorem toNat_clearing (small : width < 32) :
    (clearing width).toNat = (2 ^ (32 - width) - 1) * 2 ^ width := by
  have sum : (2 : Nat) ^ 32 = 2 ^ (32 - width) * 2 ^ width := by
    rw [← Nat.pow_add, Nat.sub_add_cancel small.le]
  have amount : (UInt32.ofNat width).toNat = width :=
    UInt32.toNat_ofNat_of_lt' (small.trans (by decide))
  have positive : 0 < 2 ^ width := Nat.two_pow_pos width
  have large : 2 ^ width ≤ 2 ^ 32 := Nat.pow_le_pow_right (by omega) small.le
  rw [clearing, UInt32.toNat_shiftLeft, amount, Nat.mod_eq_of_lt small,
    Nat.shiftLeft_eq, Nat.sub_mul, Nat.one_mul, ← sum]
  have value : (0xFFFFFFFF : UInt32).toNat = 2 ^ 32 - 1 := rfl
  have split : (2 ^ 32 - 1) * 2 ^ width =
      2 ^ 32 * (2 ^ width - 1) + (2 ^ 32 - 2 ^ width) := by
    rw [Nat.sub_mul, Nat.mul_sub, Nat.one_mul, Nat.mul_one]
    have more : 2 ^ 32 ≤ 2 ^ 32 * 2 ^ width := Nat.le_mul_of_pos_right _ positive
    omega
  rw [value, split, Nat.mul_add_mod]
  exact Nat.mod_eq_of_lt (by omega)

theorem toNat_and_clearing (address : UInt32) (small : width < 32) :
    (address &&& clearing width).toNat =
      address.toNat / 2 ^ width * 2 ^ width := by
  rw [UInt32.toNat_and, toNat_clearing small]
  apply Nat.eq_of_testBit_eq
  intro bit
  rw [Nat.testBit_and, Nat.testBit_mul_two_pow, Nat.testBit_mul_two_pow,
    Nat.testBit_two_pow_sub_one, Nat.testBit_div_two_pow]
  by_cases low : bit < width
  · have notHigh : ¬ width ≤ bit := by omega
    simp [notHigh]
  · have high : width ≤ bit := by omega
    rw [Nat.sub_add_cancel high]
    by_cases inside : bit < 32
    · have shifted : bit - width < 32 - width := by omega
      simp [high, shifted]
    · have bound : address.toNat < 2 ^ bit :=
        address.toNat_lt.trans_le (Nat.pow_le_pow_right (by omega) (by omega))
      simp [Nat.testBit_lt_two_pow bound]

theorem toNat_or_not_clearing {address : UInt32} (small : width < 32)
    (aligned : 2 ^ width ∣ address.toNat) :
    (address ||| ~~~clearing width).toNat =
      address.toNat + (2 ^ width - 1) := by
  have sum : (2 : Nat) ^ 32 = 2 ^ (32 - width) * 2 ^ width := by
    rw [← Nat.pow_add, Nat.sub_add_cancel small.le]
  have low : (~~~clearing width).toNat = 2 ^ width - 1 := by
    have large : 2 ^ width ≤ 2 ^ 32 :=
      Nat.pow_le_pow_right (by omega) small.le
    have size : UInt32.size = 2 ^ 32 := rfl
    rw [UInt32.toNat_not, toNat_clearing small, Nat.sub_mul, ← sum, size]
    omega
  obtain ⟨index, start⟩ := aligned
  have below : 2 ^ width - 1 < 2 ^ width :=
    Nat.sub_lt (Nat.two_pow_pos width) Nat.one_pos
  rw [UInt32.toNat_or, low, start, ← Nat.two_pow_add_eq_or_of_lt below]

end AddressMask
