import Provisioning.Network.Address
import Provisioning.Network.Error

/-!
# Address ranges

Ranges of addresses with both ends, counted, tested and walked through.

## Main definitions

* `AddressRange`: a first and a last address, in order
* `AddressRange.ofEnds`: the range of two ends, if they are in order
* `AddressRange.length`, `AddressRange.contains`: the count of its addresses, and membership
* `AddressRange.take`: its addresses from the first on, walking by `Address.next`
-/

namespace Provisioning

/-- The addresses from a first to a last one, both included. -/
structure AddressRange where
  /-- The lowest address. -/
  first : Address
  /-- The highest address. -/
  last : Address
  /-- The ends are in order. -/
  first_le_last : first ≤ last

namespace AddressRange

/-- The range of two ends, if the first is not after the last. -/
def ofEnds (first last : Address) : Except AddressError AddressRange :=
  if h : first ≤ last then .ok ⟨first, last, h⟩ else .error (.inverted first last)

/-- The number of addresses. -/
def length (r : AddressRange) : Nat := r.last.toNat - r.first.toNat + 1

/-- A range holds at least its first address. -/
def isEmpty (_ : AddressRange) : Bool := false

/-- Whether an address lies in the range. -/
def contains (r : AddressRange) (x : Address) : Bool := r.first ≤ x && x ≤ r.last

theorem contains_iff {r : AddressRange} {x : Address} :
    r.contains x = true ↔ r.first ≤ x ∧ x ≤ r.last := by
  simp [contains]

/-- At most `n` addresses from `current` on, up to `last`. -/
def walk : Nat → Address → Address → List Address
  | 0, _, _ => []
  | n + 1, current, last =>
    current :: if current = last then [] else walk n current.next last

/-- The first `n` addresses, or all if there are fewer. -/
def take (n : Nat) (r : AddressRange) : List Address := walk n r.first r.last

/-- All addresses, in ascending order. -/
def addresses (r : AddressRange) : List Address := r.take r.length

end AddressRange

end Provisioning
