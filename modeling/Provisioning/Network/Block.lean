import Provisioning.Log.Entry
import Provisioning.Network.Range

/-!
# Address blocks

Blocks of addresses that share a prefix. A block is kept with its lowest address, so two blocks are
equal if they hold the same addresses.

## Main definitions

* `Block`: a lowest address and a prefix length, aligned
* `Block.containing`: the block of a prefix length that an address lies in
* `Block.netmask`, `Block.broadcast`, `Block.size`, `Block.contains`: its parts
* `Block.hostRange`: the addresses that hosts can use
-/

namespace Provisioning

open Log

/-- The number of addresses that share a prefix of a given length. -/
def Block.capacity (prefixLength : Nat) : Nat := Nat.pow 2 (32 - prefixLength)

/-- The addresses that share their first `prefixLength` bits with `network`. -/
structure Block where
  /-- The lowest address. -/
  network : Address
  /-- The number of shared bits. -/
  prefixLength : Nat
  /-- There are 32 bits to share. -/
  prefixLength_le : prefixLength ≤ 32
  /-- The bits that are not shared are clear. -/
  aligned : network.toNat % Block.capacity prefixLength = 0
deriving DecidableEq

namespace Block

/-- The number of addresses, the lowest and the highest included. -/
def size (b : Block) : Nat := capacity b.prefixLength

/-- The number whose first `prefixLength` bits are set. -/
def maskBits (prefixLength : Nat) : Nat := 0x100000000 - capacity prefixLength

/-- The address whose shared bits are set. -/
def netmask (b : Block) : Address := Address.ofNat (maskBits b.prefixLength)

/-- The highest address. -/
def broadcast (b : Block) : Address := Address.ofNat (b.network.toNat + (b.size - 1))

/-- Whether an address has the shared bits of the block. -/
def contains (b : Block) (x : Address) : Bool :=
  x.toNat &&& maskBits b.prefixLength == b.network.toNat

/-- The block of a prefix length, at most 32, that an address lies in. -/
def containing (x : Address) (prefixLength : Nat) : Block :=
  let p := min prefixLength 32
  { network := Address.ofNat (x.toNat / capacity p * capacity p)
    prefixLength := p
    prefixLength_le := Nat.min_le_right _ _
    aligned := by
      have hle : x.toNat / capacity p * capacity p ≤ x.toNat := Nat.div_mul_le_self _ _
      rw [Address.toNat_ofNat, Nat.mod_eq_of_lt (Nat.lt_of_le_of_lt hle x.toNat_lt),
        Nat.mul_mod_left] }

theorem network_add_size_le (b : Block) : b.network.toNat + b.size ≤ 0x100000000 := by
  have hdvd : b.size ∣ 0x100000000 := Nat.pow_dvd_pow 2 (Nat.sub_le 32 _)
  obtain ⟨k, hk⟩ := Nat.dvd_of_mod_eq_zero b.aligned
  obtain ⟨m, hm⟩ := hdvd
  have hlt := b.network.toNat_lt
  have hsize : 0 < b.size := Nat.two_pow_pos _
  change b.network.toNat = b.size * k at hk
  rw [hk, hm] at hlt
  have hkm : k < m := Nat.lt_of_mul_lt_mul_left hlt
  calc b.network.toNat + b.size = b.size * (k + 1) := by rw [hk, Nat.mul_add, Nat.mul_one]
    _ ≤ b.size * m := Nat.mul_le_mul_left _ hkm
    _ = 0x100000000 := hm.symm

theorem toNat_broadcast (b : Block) : b.broadcast.toNat = b.network.toNat + (b.size - 1) := by
  have h := b.network_add_size_le
  have hsize : 0 < b.size := Nat.two_pow_pos _
  rw [broadcast, Address.toNat_ofNat, Nat.mod_eq_of_lt (by omega)]

theorem four_le_size {b : Block} (h : b.prefixLength ≤ 30) : 4 ≤ b.size :=
  Nat.pow_le_pow_right (n := 2) (by decide) (by omega : 2 ≤ 32 - b.prefixLength)

/-- The addresses that hosts can use: all but the lowest and the highest. The two addresses of a
link and a single address are all usable. -/
def hostRange (b : Block) : AddressRange :=
  if h : b.prefixLength ≤ 30 then
    { first := Address.ofNat (b.network.toNat + 1)
      last := Address.ofNat (b.broadcast.toNat - 1)
      first_le_last := by
        have h4 := four_le_size h
        have hle := b.network_add_size_le
        rw [Address.le_def, b.toNat_broadcast, Address.toNat_ofNat, Address.toNat_ofNat,
          Nat.mod_eq_of_lt (by omega), Nat.mod_eq_of_lt (by omega)]
        omega }
  else
    { first := b.network
      last := b.broadcast
      first_le_last := by rw [Address.le_def, b.toNat_broadcast]; omega }

/-- The text of a block: its lowest address, a slash and the prefix length. -/
def text (b : Block) : String := b.network.text ++ "/" ++ toString b.prefixLength

/-- The host range, with an entry that reports it. -/
def hostRangeLogged (b : Block) : Logged AddressRange := do
  let range := b.hostRange
  Logged.note ⟨.trace, "host range of " ++ b.text ++ ": " ++ range.first.text ++ " - " ++
    range.last.text⟩
  pure range

end Block

end Provisioning
