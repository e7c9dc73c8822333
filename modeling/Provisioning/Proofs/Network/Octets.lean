import Mathlib.Order.Bounds.Basic
import Provisioning.Proofs.Network.Masks

/-!
# Octets and numbers

The number of an address is what its octets write in base 256. So addresses compare octet by octet, from
the left, as their numbers do. The address after another is the lowest one above it, except that the
highest address is followed by the lowest.

## Main definitions

* `Address.octets`: the octets, from the left
* `Address.withOctets`: a number with octets written after it
* `Address.NumberedInOrder`: what ties addresses to the numbers of 32 bits

## Main results

* `Address.compare_withOctets`: numbers with as many octets after them compare octet by octet
* `Address.compare_octets`: addresses compare as their numbers do
* `Address.bits_next`, `Address.bits_previous`: the neighbours of an address, as words
* `Address.isLeast_next`: the following address is the lowest one above
* `Address.numberedInOrder`: addresses and the numbers of 32 bits are the same order
-/

namespace Provisioning.Address

variable {x y : Address}

/-! ## Octet by octet -/

/-- The octets of an address, from the left. -/
def octets (x : Address) : List UInt8 := [x.a, x.b, x.c, x.d]

/-- A number with octets written after it, as its further digits in base 256. -/
def withOctets (n : Nat) (l : List UInt8) : Nat := l.foldl (fun n o => n * 256 + o.toNat) n

theorem toNat_eq_withOctets (x : Address) : x.toNat = withOctets 0 x.octets := by
  simp [octets, withOctets, toNat]

/-- One more octet decides between numbers that are equal without it. -/
theorem compare_octet (m n : Nat) (o p : UInt8) :
    compare (m * 256 + o.toNat) (n * 256 + p.toNat) = (compare m n).then (compare o p) := by
  have ho := o.toNat_lt
  have hp := p.toNat_lt
  rcases Nat.lt_trichotomy m n with h | rfl | h
  · rw [Nat.compare_eq_lt.2 h, Nat.compare_eq_lt.2 (by omega)]
    rfl
  · rw [Nat.compare_eq_eq.2 rfl, UInt8.compare_eq_toNat_compare_toNat, Nat.compare_eq_ite_lt,
      Nat.compare_eq_ite_lt]
    simp
  · rw [Nat.compare_eq_gt.2 h, Nat.compare_eq_gt.2 (by omega)]
    rfl

/-- Numbers with as many octets after them compare octet by octet, from the left. -/
theorem compare_withOctets {m n : Nat} {k l : List UInt8} (h : k.length = l.length) :
    compare (withOctets m k) (withOctets n l) = (compare m n).then (compare k l) := by
  -- The octets are taken from the left, so the numbers before them are general.
  induction k generalizing m n l with
  | nil =>
    obtain rfl : l = [] := List.eq_nil_of_length_eq_zero h.symm
    exact Ordering.then_eq.symm
  | cons o k ih =>
    obtain ⟨p, l, rfl⟩ := List.exists_cons_of_length_eq_add_one h.symm
    calc compare (withOctets m (o :: k)) (withOctets n (p :: l))
        = (compare (m * 256 + o.toNat) (n * 256 + p.toNat)).then (compare k l) :=
          ih (Nat.succ.inj h)
      _ = (compare m n).then ((compare o p).then (compare k l)) := by
          rw [compare_octet, Ordering.then_assoc]
      _ = (compare m n).then (compare (o :: k) (p :: l)) := by rw [List.compare_cons_cons]

/-- Addresses compare octet by octet as their numbers do. -/
theorem compare_octets (x y : Address) : compare x.octets y.octets = compare x.toNat y.toNat := by
  have hlength : x.octets.length = y.octets.length := rfl
  rw [toNat_eq_withOctets x, toNat_eq_withOctets y, compare_withOctets hlength]
  rfl

theorem isLE_compare_octets : (compare x.octets y.octets).isLE = true ↔ x ≤ y := by
  rw [compare_octets, Nat.isLE_compare, le_def]

theorem octetsLt_iff_compare : x.octetsLt y = true ↔ compare x.octets y.octets = .lt := by
  simp [octetsLt, octets, List.compare_cons_cons, Ordering.then_eq_lt, Std.compare_eq_lt]

theorem octetsLt_iff : x.octetsLt y = true ↔ x < y := by
  rw [octetsLt_iff_compare, compare_octets, Nat.compare_eq_lt, lt_def]

/-! ## Neighbours -/

theorem bits_inj (h : x.bits = y.bits) : x = y := by
  apply toNat_inj
  rw [← toNat_bits, ← toNat_bits, h]

/-- The following address, as a word. -/
theorem bits_next (x : Address) : x.next.bits = x.bits + 1 := by
  apply BitVec.eq_of_toNat_eq
  rw [toNat_bits, next, toNat_ofNat, BitVec.toNat_add, toNat_bits]
  rfl

/-- The preceding address, as a word. -/
theorem bits_previous (x : Address) : x.previous.bits = x.bits - 1 := by
  apply BitVec.eq_of_toNat_eq
  rw [toNat_bits, previous, toNat_ofNat, BitVec.toNat_sub, toNat_bits, Nat.add_comm]
  rfl

theorem previous_next (x : Address) : x.next.previous = x := by
  apply bits_inj
  rw [bits_previous, bits_next, BitVec.add_sub_cancel]

theorem next_previous (x : Address) : x.previous.next = x := by
  apply bits_inj
  rw [bits_next, bits_previous, BitVec.sub_add_cancel]

theorem le_highest (x : Address) : x ≤ ⟨255, 255, 255, 255⟩ := Nat.le_of_lt_succ x.toNat_lt

/-- The following address is the lowest one above, if there is any. -/
theorem isLeast_next (h : x ≠ ⟨255, 255, 255, 255⟩) : IsLeast {y | x < y} x.next := by
  -- Below the highest address, the next number is still one of 32 bits.
  have hlt : x < ⟨255, 255, 255, 255⟩ := lt_of_le_of_ne x.le_highest h
  constructor
  · rw [Set.mem_ofPred_eq, lt_def, toNat_next hlt]
    exact Nat.lt_succ_self x.toNat
  · intro y hy
    exact next_le hy

/-- Only the highest address is followed by the lowest. -/
theorem next_eq_lowest_iff : x.next = ⟨0, 0, 0, 0⟩ ↔ x = ⟨255, 255, 255, 255⟩ := by
  constructor
  · intro h
    by_contra hne
    -- The lowest address would be above another.
    have hlt : x.toNat < x.next.toNat := (isLeast_next hne).1
    rw [h] at hlt
    exact absurd hlt (Nat.not_lt_zero x.toNat)
  · rintro rfl
    rfl

/-! ## The order -/

/-- What ties addresses to the numbers of 32 bits: each is the number of one address, and the order of
the octets from the left, the neighbours and the order of the numbers agree. -/
structure NumberedInOrder : Prop where
  toNat_lt : ∀ x : Address, x.toNat < 2 ^ 32
  toNat_ofNat : ∀ w : BitVec 32, (ofNat w.toNat).toNat = w.toNat
  ofNat_toNat : ∀ x : Address, ofNat x.toNat = x
  compare_octets : ∀ x y : Address, compare x.octets y.octets = compare x.toNat y.toNat
  octetsLt_iff : ∀ x y : Address, x.octetsLt y = true ↔ x.toNat < y.toNat
  previous_next : ∀ x : Address, x.next.previous = x
  next_previous : ∀ x : Address, x.previous.next = x
  isLeast_next : ∀ x : Address, x ≠ ⟨255, 255, 255, 255⟩ → IsLeast {y | x < y} x.next
  /-- Of all addresses, only the highest has none above it to be followed by. -/
  next_eq_lowest_iff : ∀ x : Address, x.next = ⟨0, 0, 0, 0⟩ ↔ x = ⟨255, 255, 255, 255⟩

/-- **Addresses and the numbers of 32 bits are the same order**, from the lowest to the highest, and the
neighbours of an address are its neighbours in that order. -/
theorem numberedInOrder : NumberedInOrder where
  toNat_lt := toNat_lt
  toNat_ofNat w := by rw [Address.toNat_ofNat, Nat.mod_eq_of_lt w.isLt]
  ofNat_toNat := ofNat_toNat
  compare_octets := compare_octets
  octetsLt_iff _ _ := octetsLt_iff
  previous_next := previous_next
  next_previous := next_previous
  isLeast_next _ := isLeast_next
  next_eq_lowest_iff _ := next_eq_lowest_iff

-- A carry through two octets.
example : next ⟨10, 0, 255, 255⟩ = ⟨10, 1, 0, 0⟩ := by decide

end Provisioning.Address
