import Mathlib.Data.List.Basic
import Provisioning.Proofs.Network.Octets
import Provisioning.Proofs.Network.Order

/-!
# Walks through ranges

A walk through a range steps from each address to the following one and ends with the last address of
the range, also where that is the highest of all. It passes as many addresses as the range counts, in
ascending order, and just those that lie in the range.

## Main definitions

* `AddressRange.IsEnumerated`: a range is counted, tested and walked through alike
* `AddressRange.FromEnds`: what becomes of two addresses that are to be the ends of a range

## Main results

* `AddressRange.map_toNat_walk`: the numbers of the addresses that a walk passes
* `AddressRange.take_eq`: a walk ends by itself
* `AddressRange.isEnumerated`: the count, the test and the walk of every range agree
* `AddressRange.fromEnds_and_isEnumerated`: so they do for two ends, which have to be in order, and for
  the hosts of a block
-/

namespace Provisioning.AddressRange

variable {r : AddressRange} {first last x : Address}

/-! ## Walks -/

/-- A walk passes addresses with consecutive numbers, and none after the last one. -/
theorem map_toNat_walk {n : Nat} (h : x ≤ last) :
    (walk n x last).map Address.toNat =
      List.range' x.toNat (min n (last.toNat - x.toNat + 1)) := by
  -- By induction on the number of addresses asked for, as the walk goes up from `x`.
  induction n generalizing x with
  | zero =>
    rw [Nat.zero_min]
    rfl
  | succ n ih =>
    rw [walk]
    split
    · next heq =>
      have hcount : min (n + 1) (last.toNat - last.toNat + 1) = 1 := by omega
      rw [heq, hcount]
      rfl
    · next hne =>
      -- The walk goes on below the last address, so the following one is a step up.
      have hlt := lt_of_le_of_ne h hne
      have hnext := Address.toNat_next hlt
      have hcount : min (n + 1) (last.toNat - x.toNat + 1) =
          min n (last.toNat - x.next.toNat + 1) + 1 := by
        have := Address.lt_def.1 hlt
        omega
      rw [List.map_cons, ih (Address.next_le hlt), hcount, List.range'_succ, hnext]

theorem map_toNat_take (r : AddressRange) (n : Nat) :
    (r.take n).map Address.toNat = List.range' r.first.toNat (min n r.length) :=
  map_toNat_walk r.first_le_last

theorem map_toNat_addresses (r : AddressRange) :
    r.addresses.map Address.toNat = List.range' r.first.toNat r.length := by
  rw [addresses, map_toNat_take, Nat.min_self]

/-- Asked for more addresses than the range has, a walk ends by itself; asked for fewer, it passes the
first ones. -/
theorem take_eq (r : AddressRange) (n : Nat) : r.take n = r.addresses.take n := by
  apply List.map_injective_iff.2 Address.toNat_injective
  -- Both sides are the same run of numbers, cut at the smaller of the two counts.
  rw [List.map_take, map_toNat_addresses, map_toNat_take, List.take_eq_take_min, List.length_range',
    List.take_range'_of_length_ge (Nat.min_le_right n r.length)]

theorem length_addresses (r : AddressRange) : r.addresses.length = r.length := by
  rw [← List.length_map Address.toNat, map_toNat_addresses, List.length_range']

theorem ascending_addresses (r : AddressRange) : r.addresses.Pairwise (· < ·) := by
  have h : (r.addresses.map Address.toNat).Pairwise (· < ·) := by
    rw [map_toNat_addresses]
    exact List.pairwise_lt_range' 1
  rwa [List.pairwise_map] at h

theorem head?_addresses (r : AddressRange) : r.addresses.head? = some r.first := rfl

theorem getLast?_addresses (r : AddressRange) : r.addresses.getLast? = some r.last := by
  have hle := Address.le_def.1 r.first_le_last
  apply Option.map_injective Address.toNat_injective
  rw [← List.getLast?_map, map_toNat_addresses, List.getLast?_range', length,
    if_neg (Nat.succ_ne_zero _), Option.map_some, Option.some.injEq]
  omega

theorem mem_addresses : x ∈ r.addresses ↔ r.contains x = true := by
  have hle := Address.le_def.1 r.first_le_last
  rw [← List.mem_map_of_injective Address.toNat_injective, map_toNat_addresses, List.mem_range'_1,
    contains_iff, Address.le_def, Address.le_def, length]
  omega

/-- The count, the test and the walk of a range agree. -/
structure IsEnumerated (r : AddressRange) : Prop where
  /-- The walk ends by itself: it passes no others, however many are asked for. -/
  take_eq : ∀ n, r.take n = r.addresses.take n
  length_eq : r.addresses.length = r.length
  ascending : r.addresses.Pairwise (· < ·)
  head?_eq : r.addresses.head? = some r.first
  getLast?_eq : r.addresses.getLast? = some r.last
  mem_iff : ∀ x, x ∈ r.addresses ↔ r.contains x = true

theorem isEnumerated (r : AddressRange) : r.IsEnumerated :=
  ⟨r.take_eq, r.length_addresses, r.ascending_addresses, r.head?_addresses, r.getLast?_addresses,
    fun _ => mem_addresses⟩

/-! ## Ranges of two ends -/

theorem ofEnds_eq_ok_iff : ofEnds first last = .ok r ↔ r.first = first ∧ r.last = last := by
  constructor
  · intro h
    rw [ofEnds] at h
    split at h
    · cases h
      exact ⟨rfl, rfl⟩
    · cases h
  · rintro ⟨rfl, rfl⟩
    exact dif_pos r.first_le_last

theorem ofEnds_eq_error_iff {e : AddressError} :
    ofEnds first last = .error e ↔ last < first ∧ e = .inverted first last := by
  rw [ofEnds]
  split
  · next hle => simp [not_lt_of_ge hle]
  · next hlt => simp [lt_of_not_ge hlt, eq_comm]

/-- What becomes of two addresses that are to be the ends of a range: a range if they are in order,
octet by octet, and else a refusal that names them. -/
structure FromEnds (first last : Address) (answer : Except AddressError AddressRange) : Prop where
  made_iff : (∃ r, answer = .ok r) ↔ (compare first.octets last.octets).isLE = true
  enumerated : ∀ r, answer = .ok r → r.first = first ∧ r.last = last ∧ r.IsEnumerated
  refused : ∀ e, answer = .error e → e = .inverted first last

theorem fromEnds_ofEnds (first last : Address) : FromEnds first last (ofEnds first last) := by
  constructor
  case made_iff =>
    rw [Address.isLE_compare_octets]
    constructor
    · rintro ⟨r, h⟩
      obtain ⟨rfl, rfl⟩ := ofEnds_eq_ok_iff.1 h
      exact r.first_le_last
    · intro hle
      exact ⟨⟨first, last, hle⟩, ofEnds_eq_ok_iff.2 ⟨rfl, rfl⟩⟩
  case enumerated =>
    intro r h
    obtain ⟨hfirst, hlast⟩ := ofEnds_eq_ok_iff.1 h
    exact ⟨hfirst, hlast, r.isEnumerated⟩
  case refused => exact fun e h => (ofEnds_eq_error_iff.1 h).2

/-- **The count, the test and the walk of a range agree**, for a range of two ends, which have to be in
order, as for the hosts of a block. -/
theorem fromEnds_and_isEnumerated (first last : Address) (b : Block) :
    FromEnds first last (ofEnds first last) ∧ b.hostRange.IsEnumerated :=
  ⟨fromEnds_ofEnds first last, b.hostRange.isEnumerated⟩

-- A walk to the highest of all addresses ends there.
example : (ofEnds ⟨255, 255, 255, 254⟩ ⟨255, 255, 255, 255⟩).map (take 5) =
    .ok [⟨255, 255, 255, 254⟩, ⟨255, 255, 255, 255⟩] := by decide

end Provisioning.AddressRange
