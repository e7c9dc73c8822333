import Mathlib.Logic.Basic
import Provisioning.Proofs.Network.Hosts

/-!
# Masks and intervals

The addresses of a block are those that agree with its lowest one in the bits of a mask. They are also
an interval, as long as a power of two and starting at a multiple of it. The two views are taken of
words of 32 bits and of numbers.

The mask of a shorter prefix clears whatever that of a longer one does, so two blocks with an address in
common are nested.

## Main definitions

* `Address.bits`: an address as a word
* `Block.mask`: the word of the bits that are shared
* `Block.Spans`: what the block of an address and a prefix length is in both views
* `Block.Encloses`, `Block.Apart`: two blocks are nested, or have no address in common

## Main results

* `Block.toNat_mask`: the number of a mask
* `Block.eq_containing_iff`: an address lies in one block of each prefix length only
* `Block.spans_containing`: the views agree
* `Block.nested_or_apart`: two blocks are nested or apart, and the lowest address tells which
-/

namespace Provisioning

/-- An address as a word of 32 bits. -/
def Address.bits (x : Address) : BitVec 32 := BitVec.ofNat 32 x.toNat

@[simp] theorem Address.toNat_bits (x : Address) : x.bits.toNat = x.toNat :=
  Nat.mod_eq_of_lt x.toNat_lt

namespace Block

variable {b c : Block} {x y : Address} {p q : Nat}

/-! ## Masks -/

/-- The word whose first `p` bits are set: all bits, shifted by the number of those that are not shared.
Of a prefix of no bits nothing is left. -/
def mask (p : Nat) : BitVec 32 := BitVec.allOnes 32 <<< (32 - p)

theorem capacity_pos (p : Nat) : 0 < capacity p := Nat.two_pow_pos _

theorem capacity_le (p : Nat) : capacity p ≤ 2 ^ 32 := Nat.pow_le_pow_right (by decide) (Nat.sub_le _ _)

theorem toNat_mask (p : Nat) : (mask p).toNat = maskBits p := by
  have hpos := capacity_pos p
  have hle := capacity_le p
  have hshift : (2 ^ 32 - 1) * capacity p = (capacity p - 1) * 2 ^ 32 + (2 ^ 32 - capacity p) := by
    rw [Nat.sub_mul, Nat.sub_mul, Nat.mul_comm (capacity p)]
    omega
  -- All that is shifted out of the word is a multiple of `2^32`.
  calc (mask p).toNat = (2 ^ 32 - 1) * capacity p % 2 ^ 32 := by
        rw [mask, BitVec.toNat_shiftLeft, BitVec.toNat_allOnes, Nat.shiftLeft_eq]
        rfl
    _ = 2 ^ 32 - capacity p := by
        rw [hshift, Nat.mul_add_mod_self_right, Nat.mod_eq_of_lt (by omega)]

theorem getLsbD_mask (p i : Nat) : (mask p).getLsbD i = decide (i < 32 ∧ 32 - p ≤ i) := by
  rw [mask, BitVec.getLsbD_shiftLeft, BitVec.getLsbD_allOnes]
  by_cases hi : 32 - p ≤ i
  · have hlt : i < 32 → i - (32 - p) < 32 := Nat.lt_of_le_of_lt (Nat.sub_le _ _)
    simpa [hi, Nat.not_lt.2 hi] using hlt
  · simp [hi, Nat.lt_of_not_le hi]

/-- A longer prefix shares all the bits that a shorter one does. -/
theorem mask_and_mask (h : p ≤ q) : mask q &&& mask p = mask p := by
  apply BitVec.eq_of_getLsbD_eq
  intro i hi
  rw [BitVec.getLsbD_and, getLsbD_mask, getLsbD_mask, ← Bool.decide_and, decide_eq_decide]
  omega

theorem toNat_bits_and_mask (x : Address) (p : Nat) :
    (x.bits &&& mask p).toNat = x.toNat &&& maskBits p := by
  rw [BitVec.toNat_and, Address.toNat_bits, toNat_mask]

theorem contains_iff_bits : b.contains x = true ↔ x.bits &&& mask b.prefixLength = b.network.bits := by
  rw [contains, beq_iff_eq, ← BitVec.toNat_inj, toNat_bits_and_mask, Address.toNat_bits]

theorem bits_broadcast (b : Block) :
    b.broadcast.bits = b.network.bits ||| ~~~mask b.prefixLength := by
  apply BitVec.eq_of_toNat_eq
  rw [BitVec.toNat_or, BitVec.toNat_not, toNat_mask, Address.toNat_bits, Address.toNat_bits]
  exact b.toNat_broadcast_eq_or

/-! ## The block of an address -/

theorem contains_network (b : Block) : b.contains b.network = true := by
  rw [contains_iff, Address.le_def, Address.le_def, toNat_broadcast]
  omega

theorem toNat_network_containing (x : Address) (p : Nat) :
    (containing x p).network.toNat = x.toNat &&& maskBits (min p 32) := by
  have hle : x.toNat / capacity (min p 32) * capacity (min p 32) ≤ x.toNat := Nat.div_mul_le_self _ _
  rw [and_maskBits (Nat.min_le_right _ _) x.toNat_lt]
  exact (Address.toNat_ofNat _).trans (Nat.mod_eq_of_lt (Nat.lt_of_le_of_lt hle x.toNat_lt))

theorem contains_containing (x : Address) (p : Nat) : (containing x p).contains x = true := by
  rw [contains, toNat_network_containing]
  exact beq_self_eq_true _

/-- An address and a prefix length determine a block. -/
theorem eq_of_contains (hlength : b.prefixLength = c.prefixLength) (hb : b.contains x = true)
    (hc : c.contains x = true) : b = c := by
  have hnetwork : b.network = c.network := by
    rw [contains, beq_iff_eq] at hb hc
    apply Address.toNat_inj
    rw [← hb, ← hc, hlength]
  cases b
  cases c
  cases hlength
  cases hnetwork
  rfl

theorem eq_containing_iff :
    b = containing x p ↔ b.contains x = true ∧ b.prefixLength = min p 32 := by
  constructor
  · rintro rfl
    exact ⟨contains_containing x p, rfl⟩
  · rintro ⟨hx, hlength⟩
    exact eq_of_contains hlength hx (contains_containing x p)

/-- What the block of an address and a prefix length is, as a mask of words and as an interval of
numbers. -/
structure Spans (b : Block) (x : Address) (p : Nat) : Prop where
  prefixLength_eq : b.prefixLength = min p 32
  network_bits : b.network.bits = x.bits &&& mask b.prefixLength
  broadcast_bits : b.broadcast.bits = b.network.bits ||| ~~~mask b.prefixLength
  contains_iff_bits : ∀ y, b.contains y = true ↔ y.bits &&& mask b.prefixLength = b.network.bits
  network_le : b.network.toNat ≤ x.toNat
  le_broadcast : x.toNat ≤ b.broadcast.toNat
  contains_iff : ∀ y, b.contains y = true ↔
    b.network.toNat ≤ y.toNat ∧ y.toNat ≤ b.broadcast.toNat
  size_eq : b.broadcast.toNat - b.network.toNat + 1 = b.size
  size_dvd : b.size ∣ b.network.toNat
  /-- Any of its addresses has the same block. -/
  containing_eq : ∀ y, b.contains y = true → containing y p = b

/-- **The masks and the interval of a block agree**, whatever the address and the prefix length. -/
theorem spans_containing (x : Address) (p : Nat) : (containing x p).Spans x p := by
  have hx := contains_containing x p
  obtain ⟨hnetwork, hbroadcast⟩ := contains_iff.1 hx
  have hsize := (containing x p).size_pos
  refine ⟨rfl, (contains_iff_bits.1 hx).symm, bits_broadcast _, fun y => contains_iff_bits, hnetwork,
    hbroadcast, fun y => contains_iff, ?_, Nat.dvd_of_mod_eq_zero (containing x p).aligned,
    fun y hy => ?_⟩
  · rw [toNat_broadcast]
    omega
  · exact (eq_containing_iff.2 ⟨hy, rfl⟩).symm

/-! ## Two blocks -/

/-- The first block has every address that the second has. -/
def Encloses (b c : Block) : Prop := ∀ x, c.contains x = true → b.contains x = true

/-- The blocks have no address in common. -/
def Apart (b c : Block) : Prop := ∀ x, ¬ (b.contains x = true ∧ c.contains x = true)

theorem encloses_of_contains (h : b.prefixLength ≤ c.prefixLength) (hb : b.contains x = true)
    (hc : c.contains x = true) : b.Encloses c := by
  intro y hy
  rw [contains_iff_bits] at hb hc hy ⊢
  -- The address agrees with the common one in the bits of the longer mask, so in those of the shorter.
  calc y.bits &&& mask b.prefixLength
      = y.bits &&& mask c.prefixLength &&& mask b.prefixLength := by
        rw [BitVec.and_assoc, mask_and_mask h]
    _ = x.bits &&& mask c.prefixLength &&& mask b.prefixLength := by rw [hy, hc]
    _ = x.bits &&& mask b.prefixLength := by rw [BitVec.and_assoc, mask_and_mask h]
    _ = b.network.bits := hb

theorem encloses_iff (h : b.prefixLength ≤ c.prefixLength) :
    b.Encloses c ↔ b.contains c.network = true :=
  ⟨fun hbc => hbc _ c.contains_network, fun hb => encloses_of_contains h hb c.contains_network⟩

theorem apart_iff (h : b.prefixLength ≤ c.prefixLength) : b.Apart c ↔ ¬ b.Encloses c := by
  constructor
  · intro hapart hbc
    exact hapart c.network ⟨hbc _ c.contains_network, c.contains_network⟩
  · intro hbc x hx
    exact hbc (encloses_of_contains h hx.1 hx.2)

/-- **Two blocks are nested or apart**, never both, and the lowest address of the one with the longer
prefix tells which. Blocks of one prefix length are equal or apart. -/
theorem nested_or_apart (h : b.prefixLength ≤ c.prefixLength) :
    (b.Encloses c ∨ b.Apart c) ∧ ¬ (b.Encloses c ∧ b.Apart c) ∧
      (b.Encloses c ↔ b.contains c.network = true) ∧
      (b.prefixLength = c.prefixLength →
        ∀ x, b.contains x = true → c.contains x = true → b = c) := by
  refine ⟨?_, ?_, encloses_iff h, fun hlength x hb hc => eq_of_contains hlength hb hc⟩
  · rw [apart_iff h]
    exact Classical.em _
  · rw [apart_iff h]
    exact fun hboth => hboth.2 hboth.1

/-- The block of all addresses encloses a single address, and the two halves of a block are apart. -/
theorem nested_or_apart_halves :
    ((containing ⟨0, 0, 0, 0⟩ 0).prefixLength ≤ (containing ⟨192, 0, 2, 1⟩ 32).prefixLength ∧
      (containing ⟨0, 0, 0, 0⟩ 0).Encloses (containing ⟨192, 0, 2, 1⟩ 32)) ∧
    (containing ⟨10, 0, 0, 0⟩ 9).prefixLength ≤ (containing ⟨10, 128, 0, 0⟩ 9).prefixLength ∧
      (containing ⟨10, 0, 0, 0⟩ 9).Apart (containing ⟨10, 128, 0, 0⟩ 9) := by
  refine ⟨⟨by decide, ?_⟩, by decide, ?_⟩
  · exact (nested_or_apart (by decide)).2.2.1.2 (by decide)
  · obtain ⟨hnested | hapart, -, hiff, -⟩ := nested_or_apart
      (show (containing ⟨10, 0, 0, 0⟩ 9).prefixLength ≤ (containing ⟨10, 128, 0, 0⟩ 9).prefixLength by
        decide)
    · exact absurd (hiff.1 hnested) (by decide)
    · exact hapart

end Block

end Provisioning
