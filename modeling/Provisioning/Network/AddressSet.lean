import Provisioning.Network.Address

/-!
# Sets of addresses

Finite sets of addresses as strictly ascending lists, so that two sets with the same members are
equal.

## Main definitions

* `AddressSet`: a strictly ascending list
* `AddressSet.insert`, `AddressSet.erase`: the set with, and without, an address
* `AddressSet.size`: the number of members

## Main results

* `AddressSet.mem_insert`, `AddressSet.mem_erase`: the members after each operation
-/

namespace Provisioning

namespace Ascending

/-- An address put into an ascending list at its place, unless it is there. -/
def insert (x : Address) : List Address → List Address
  | [] => [x]
  | y :: rest => if x < y then x :: y :: rest else if x = y then y :: rest else y :: insert x rest

theorem mem_insert {x z : Address} {l : List Address} : z ∈ insert x l ↔ z = x ∨ z ∈ l := by
  induction l with
  | nil => simp [insert]
  | cons y rest ih =>
    rw [insert]
    split
    · simp
    · split
      · next h => simp [h]
      · simp only [List.mem_cons, ih]
        constructor
        · rintro (h | h | h) <;> simp [h]
        · rintro (h | h | h) <;> simp [h]

theorem insert_ascending {x : Address} {l : List Address} (h : l.Pairwise (· < ·)) :
    (insert x l).Pairwise (· < ·) := by
  induction l with
  | nil => simp [insert]
  | cons y rest ih =>
    rw [List.pairwise_cons] at h
    rw [insert]
    split
    · next hxy =>
      rw [List.pairwise_cons]
      refine ⟨fun z hz => ?_, List.pairwise_cons.2 h⟩
      rcases List.mem_cons.1 hz with rfl | hz
      · exact hxy
      · exact Nat.lt_trans hxy (h.1 z hz)
    · next hxy =>
      split
      · exact List.pairwise_cons.2 h
      · next hne =>
        rw [List.pairwise_cons]
        refine ⟨fun z hz => ?_, ih h.2⟩
        rcases mem_insert.1 hz with rfl | hz
        · rw [Address.lt_def] at hxy ⊢
          have : z.toNat ≠ y.toNat := fun e => hne (Address.toNat_inj e)
          omega
        · exact h.1 z hz

end Ascending

/-- A finite set of addresses. -/
structure AddressSet where
  /-- The members in ascending order. -/
  toList : List Address
  /-- Each member is less than the next. -/
  ascending : toList.Pairwise (· < ·)

namespace AddressSet

instance : DecidableEq AddressSet := fun s t =>
  if h : s.toList = t.toList then isTrue (by cases s; cases t; cases h; rfl)
  else isFalse fun e => h (congrArg toList e)

instance : Membership Address AddressSet := ⟨fun s x => x ∈ s.toList⟩

instance (x : Address) (s : AddressSet) : Decidable (x ∈ s) :=
  inferInstanceAs (Decidable (x ∈ s.toList))

theorem mem_def {x : Address} {s : AddressSet} : x ∈ s ↔ x ∈ s.toList := Iff.rfl

/-- The set without members. -/
def empty : AddressSet := ⟨[], List.Pairwise.nil⟩

/-- The set with one address more. -/
def insert (s : AddressSet) (x : Address) : AddressSet :=
  ⟨Ascending.insert x s.toList, Ascending.insert_ascending s.ascending⟩

/-- The set without an address. -/
def erase (s : AddressSet) (x : Address) : AddressSet :=
  ⟨s.toList.filter (· ≠ x), s.ascending.sublist List.filter_sublist⟩

/-- The number of members. -/
def size (s : AddressSet) : Nat := s.toList.length

@[simp] theorem not_mem_empty (x : Address) : x ∉ empty := List.not_mem_nil

@[simp] theorem mem_insert {s : AddressSet} {x y : Address} : y ∈ s.insert x ↔ y = x ∨ y ∈ s :=
  Ascending.mem_insert

@[simp] theorem mem_erase {s : AddressSet} {x y : Address} : y ∈ s.erase x ↔ y ∈ s ∧ y ≠ x := by
  simp [mem_def, erase]

end AddressSet

end Provisioning
