import Mathlib.Data.Nat.Bitwise
import Provisioning.Network.Block

/-!
# The hosts of a block

A block holds the addresses from its lowest to its highest one, so the host range is the block less
these two, or all of it for a link or a single address.

## Main definitions

* `Block.HasHosts`: a range is the host range of a block

## Main results

* `Block.and_maskBits`: a mask clears the bits that are not shared
* `Block.contains_iff`: the addresses of a block lie between its lowest and its highest
* `Block.toNat_broadcast_eq_or`: the highest has all the bits set that are not shared
* `Block.contains_hostRange`: the addresses of a block that hosts can use
* `Block.hasHosts_hostRange`: the host range of every block
-/

namespace Provisioning.Block

variable {b : Block} {x : Address}

theorem size_pos (b : Block) : 0 < b.size := Nat.two_pow_pos _

theorem maskBits_eq {p : Nat} (hp : p ≤ 32) : maskBits p = 2 ^ (32 - p) * (2 ^ p - 1) := by
  have hpow : 2 ^ (32 - p) * 2 ^ p = 2 ^ 32 := by rw [← Nat.pow_add, Nat.sub_add_cancel hp]
  rw [Nat.mul_sub, Nat.mul_one, hpow]
  rfl

/-- A mask clears the bits that are not shared. -/
theorem and_maskBits {p n : Nat} (hp : p ≤ 32) (hn : n < 2 ^ 32) :
    n &&& maskBits p = n / capacity p * capacity p := by
  have hcapacity : capacity p = 2 ^ (32 - p) := rfl
  rw [maskBits_eq hp, hcapacity]
  apply Nat.eq_of_testBit_eq
  intro i
  rw [Nat.testBit_and, Nat.testBit_two_pow_mul, Nat.testBit_two_pow_sub_one,
    Nat.testBit_mul_two_pow, Nat.testBit_div_two_pow]
  by_cases hi : 32 - p ≤ i
  · rw [Nat.sub_add_cancel hi]
    -- A shared bit is kept, and there is none above the highest of them.
    by_cases hbit : i - (32 - p) < p
    · simp [hi, hbit]
    · have hhigh : n.testBit i = false :=
        Nat.testBit_lt_two_pow (Nat.lt_of_lt_of_le hn (Nat.pow_le_pow_right (by decide) (by omega)))
      simp [hhigh]
  · simp [hi]

/-- A block holds the addresses from its lowest to its highest one. -/
theorem contains_iff : b.contains x = true ↔ b.network ≤ x ∧ x ≤ b.broadcast := by
  have hsize := b.size_pos
  obtain ⟨k, hk⟩ := Nat.dvd_of_mod_eq_zero b.aligned
  change b.network.toNat = b.size * k at hk
  have hmask : x.toNat &&& maskBits b.prefixLength = x.toNat / b.size * b.size :=
    and_maskBits b.prefixLength_le x.toNat_lt
  rw [contains, beq_iff_eq, hmask, Address.le_def, Address.le_def, toNat_broadcast, hk,
    Nat.mul_comm b.size k, Nat.mul_left_inj (Nat.ne_of_gt hsize), Nat.div_eq_iff hsize,
    Nat.add_sub_assoc hsize]

/-- The highest address has all the bits set that are not shared. -/
theorem toNat_broadcast_eq_or (b : Block) :
    b.broadcast.toNat = b.network.toNat ||| (0xFFFFFFFF - maskBits b.prefixLength) := by
  have hsize := b.size_pos
  have hle : b.size ≤ 2 ^ 32 := Nat.pow_le_pow_right (by decide) (Nat.sub_le _ _)
  have hunshared : 0xFFFFFFFF - maskBits b.prefixLength = b.size - 1 := by
    rw [maskBits, ← size]
    omega
  obtain ⟨k, hk⟩ := Nat.dvd_of_mod_eq_zero b.aligned
  change b.network.toNat = 2 ^ (32 - b.prefixLength) * k at hk
  -- The shared bits lie above the others, so setting these adds them.
  rw [toNat_broadcast, hunshared, hk]
  exact Nat.two_pow_add_eq_or_of_lt (Nat.sub_lt hsize Nat.one_pos) k

/-- A range is the host range of a block. Up to a prefix of 30 bits, hosts can use neither the lowest
nor the highest address of the block, and the range is two addresses shorter. -/
structure HasHosts (b : Block) (r : AddressRange) : Prop where
  first_le_last : r.first ≤ r.last
  contains_iff : ∀ x, r.contains x = true ↔
    b.contains x = true ∧ (b.prefixLength ≤ 30 → x ≠ b.network ∧ x ≠ b.broadcast)
  /-- The highest address is the lowest with all the bits set that are not shared. -/
  broadcast_eq : b.broadcast.toNat = b.network.toNat ||| (0xFFFFFFFF - maskBits b.prefixLength)
  length_short : b.prefixLength ≤ 30 → r.length + 2 = b.size
  length_full : 30 < b.prefixLength → r.length = b.size
  /-- The first address is one above the lowest, without a carry out of its 32 bits. -/
  first_above : b.prefixLength ≤ 30 →
    b.network.toNat + 1 < 0x100000000 ∧ r.first.toNat = b.network.toNat + 1
  /-- The last address is one below the highest, without a borrow. -/
  last_below : b.prefixLength ≤ 30 →
    1 ≤ b.broadcast.toNat ∧ r.last.toNat = b.broadcast.toNat - 1

theorem hostRange_short (h : b.prefixLength ≤ 30) :
    b.hostRange.first.toNat = b.network.toNat + 1 ∧ b.hostRange.last.toNat + 1 = b.broadcast.toNat := by
  have h4 := four_le_size h
  have hle := b.network_add_size_le
  have hbroadcast := b.toNat_broadcast
  rw [hostRange, dif_pos h, Address.toNat_ofNat, Address.toNat_ofNat, Nat.mod_eq_of_lt (by omega),
    Nat.mod_eq_of_lt (by omega)]
  omega

theorem hostRange_full (h : ¬ b.prefixLength ≤ 30) :
    b.hostRange.first = b.network ∧ b.hostRange.last = b.broadcast := by
  rw [hostRange, dif_neg h]
  exact ⟨rfl, rfl⟩

theorem contains_hostRange (b : Block) (x : Address) : b.hostRange.contains x = true ↔
    b.contains x = true ∧ (b.prefixLength ≤ 30 → x ≠ b.network ∧ x ≠ b.broadcast) := by
  by_cases h : b.prefixLength ≤ 30
  · obtain ⟨hfirst, hlast⟩ := hostRange_short h
    have hne : ∀ y : Address, x ≠ y ↔ x.toNat ≠ y.toNat := by
      intro y
      exact not_congr ⟨congrArg Address.toNat, Address.toNat_inj⟩
    rw [AddressRange.contains_iff, contains_iff, hne, hne]
    simp only [Address.le_def, h, forall_const]
    omega
  · obtain ⟨hfirst, hlast⟩ := hostRange_full h
    rw [AddressRange.contains_iff, hfirst, hlast, contains_iff]
    exact ⟨fun hx => ⟨hx, fun hp => absurd hp h⟩, fun hx => hx.1⟩

theorem length_hostRange_short (h : b.prefixLength ≤ 30) : b.hostRange.length + 2 = b.size := by
  obtain ⟨hfirst, hlast⟩ := hostRange_short h
  have h4 := four_le_size h
  have hbroadcast := b.toNat_broadcast
  rw [AddressRange.length]
  omega

theorem length_hostRange_full (h : ¬ b.prefixLength ≤ 30) : b.hostRange.length = b.size := by
  obtain ⟨hfirst, hlast⟩ := hostRange_full h
  have hsize := b.size_pos
  rw [AddressRange.length, hfirst, hlast, toNat_broadcast]
  omega

/-- **The host range of a block holds the addresses that hosts can use**, whatever the block is. -/
theorem hasHosts_hostRange (b : Block) : b.HasHosts b.hostRange := by
  refine ⟨b.hostRange.first_le_last, b.contains_hostRange, b.toNat_broadcast_eq_or,
    length_hostRange_short, fun h => length_hostRange_full (Nat.not_le_of_gt h), fun h => ?_,
    fun h => ?_⟩
  · obtain ⟨hfirst, -⟩ := hostRange_short h
    -- The sum is itself the number of an address.
    have hlt := b.hostRange.first.toNat_lt
    omega
  · obtain ⟨-, hlast⟩ := hostRange_short h
    omega

-- The whole address space, less its two ends.
example : (containing ⟨10, 0, 0, 1⟩ 0).hostRange.length = 0xFFFFFFFE := by decide

end Provisioning.Block
