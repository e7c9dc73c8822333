import Provisioning.Proofs.Network.Order

/-!
# The lowest free address

The search for a gap in what a pool holds finds the lowest free address if there is one, and it never
steps past the end of the address space.

## Main definitions

* `Pool.vacant`: the addresses of a pool that it does not hold
* `Address.next?`, `Pool.firstGap?`: a step that fails after the last address of all, and the search by
  such steps
* `Pool.HandsOutLowest`: how a pool answers a request for its lowest free address

## Main results

* `Pool.available_eq`: the free addresses are counted right
* `Pool.exists_firstGap_le`: the search finds a gap no higher than any free address
* `Pool.firstGap?_eq`: no step of the search fails
* `Pool.allocate_eq_ok_iff`: the answer is the lowest of the free addresses
* `Pool.handsOutLowest`: every pool answers so
-/

namespace Provisioning

/-- The following address; none after the last one of all. -/
def Address.next? (x : Address) : Option Address :=
  if x.toNat + 1 < 0x100000000 then some x.next else none

theorem Address.next?_eq_some {x y : Address} (h : x < y) : x.next? = some x.next := by
  have hx := Address.lt_def.1 h
  have hy := y.toNat_lt
  exact if_pos (by omega)

namespace Pool

/-- The addresses of a pool that are free. -/
def vacant (pool : Pool) : Set Address := {x | pool.range.contains x = true ∧ x ∉ pool.held}

variable {pool : Pool} {x : Address}

theorem mem_vacant : x ∈ pool.vacant ↔ pool.range.contains x = true ∧ x ∉ pool.held := Iff.rfl

theorem vacant_hold (h : pool.range.contains x) : (pool.hold x h).vacant = pool.vacant \ {x} := by
  ext y
  rw [mem_vacant, range_hold, mem_held_hold, not_or, Set.mem_sdiff, mem_vacant,
    Set.mem_singleton_iff, and_assoc, and_comm (a := y ∉ pool.held)]

/-- The free addresses are counted right. -/
theorem available_eq (pool : Pool) : pool.available = pool.vacant.ncard := by
  have hvacant : pool.vacant = {x | pool.range.contains x = true} \ {x | x ∈ pool.held} := rfl
  have hheld : {x | x ∈ pool.held} ⊆ {x | pool.range.contains x = true} := pool.held_in_range
  rw [hvacant, Set.ncard_sdiff hheld, AddressRange.ncard_eq, AddressSet.ncard_eq, available]

/-! ## The search for a gap -/

/-- The gap that is found is no higher than any address that is missing. -/
theorem exists_firstGap_le {candidate last y : Address} {l : List Address}
    (hcandidate : candidate ≤ y) (hlast : y ≤ last) (hy : y ∉ l) :
    ∃ x, firstGap candidate last l = some x ∧ x ≤ y := by
  induction l generalizing candidate with
  | nil => exact ⟨candidate, rfl, hcandidate⟩
  | cons z rest ih =>
    rw [List.mem_cons, not_or] at hy
    rw [firstGap]
    split
    · exact ⟨candidate, rfl, hcandidate⟩
    next heq =>
    obtain rfl : z = candidate := Classical.not_not.1 heq
    -- The candidate is in the list, so the missing address lies above it.
    have hlt : z < y := lt_of_le_of_ne hcandidate (Ne.symm hy.1)
    split
    · next hend =>
      rw [hend] at hlt
      exact absurd hlast (not_le_of_gt hlt)
    · exact ih (Address.next_le hlt) hy.2

/-- The search of `firstGap` by steps that fail after the last address of all: none if one fails. -/
def firstGap? (candidate last : Address) : List Address → Option (Option Address)
  | [] => some (some candidate)
  | x :: rest =>
    if x ≠ candidate then some (some candidate)
    else if candidate = last then some none
    else candidate.next?.bind fun following => firstGap? following last rest

/-- No step of the search fails, as it stops at the last address of the range. -/
theorem firstGap?_eq {candidate last : Address} (l : List Address) (h : candidate ≤ last) :
    firstGap? candidate last l = some (firstGap candidate last l) := by
  induction l generalizing candidate with
  | nil => rfl
  | cons x rest ih =>
    rw [firstGap?, firstGap]
    split
    · rfl
    · split
      · rfl
      · next hne =>
        have hlt : candidate < last := lt_of_le_of_ne h hne
        rw [Address.next?_eq_some hlt, Option.bind_some, ih (Address.next_le hlt)]

-- At the end of the address space the search stops before it would step on.
example : firstGap? ⟨255, 255, 255, 254⟩ ⟨255, 255, 255, 255⟩
    [⟨255, 255, 255, 254⟩, ⟨255, 255, 255, 255⟩] = some none := by decide

theorem isLeast_of_lowestFree? (h : pool.lowestFree? = some x) : IsLeast pool.vacant x := by
  constructor
  · exact ⟨contains_of_lowestFree? h, notMem_of_lowestFree? h⟩
  · intro y hy
    obtain ⟨hfirst, hlast⟩ := AddressRange.contains_iff.1 hy.1
    obtain ⟨z, hz, hle⟩ := exists_firstGap_le hfirst hlast hy.2
    -- The search has one result.
    obtain rfl : x = z := Option.some.inj (h.symm.trans hz)
    exact hle

theorem vacant_of_lowestFree?_eq_none (h : pool.lowestFree? = none) : pool.vacant = ∅ := by
  apply Set.eq_empty_of_forall_notMem
  intro y hy
  obtain ⟨hfirst, hlast⟩ := AddressRange.contains_iff.1 hy.1
  obtain ⟨z, hz, -⟩ := exists_firstGap_le hfirst hlast hy.2
  exact Option.some_ne_none z (hz.symm.trans h)

/-! ## The answer -/

theorem exists_isLeast_or_empty (pool : Pool) :
    (∃ x, IsLeast pool.vacant x) ∨ pool.vacant = ∅ := by
  cases h : pool.lowestFree? with
  | none => exact .inr (vacant_of_lowestFree?_eq_none h)
  | some x => exact .inl ⟨x, isLeast_of_lowestFree? h⟩

theorem allocate_of_isLeast (h : IsLeast pool.vacant x) :
    pool.allocate = (.ok x, pool.hold x h.1.1) := by
  rcases pool.allocate_cases with ⟨hnone, -⟩ | ⟨y, hy, hsome, -, he⟩
  · have hempty := vacant_of_lowestFree?_eq_none hnone
    exact absurd (hempty ▸ h.1) (Set.notMem_empty x)
  · obtain rfl : y = x := (isLeast_of_lowestFree? hsome).unique h
    exact he

theorem allocate_of_empty (h : pool.vacant = ∅) : pool.allocate = (.error .exhausted, pool) := by
  rcases pool.allocate_cases with ⟨-, he⟩ | ⟨y, -, hsome, -, -⟩
  · exact he
  · have hleast := isLeast_of_lowestFree? hsome
    exact absurd (h ▸ hleast.1) (Set.notMem_empty y)

/-- The answer is the lowest of the free addresses. -/
theorem allocate_eq_ok_iff : pool.allocate.1 = .ok x ↔ IsLeast pool.vacant x := by
  constructor
  · intro h
    rcases pool.exists_isLeast_or_empty with ⟨y, hy⟩ | hempty
    · rw [allocate_of_isLeast hy] at h
      obtain rfl := Except.ok.inj h
      exact hy
    · rw [allocate_of_empty hempty] at h
      cases h
  · intro h
    rw [allocate_of_isLeast h]

/-- How a pool answers a request for its lowest free address: it hands that address out and holds it
from then on, with those from before. If no address is free it is exhausted, and stays as it is. -/
structure HandsOutLowest (pool : Pool) : Prop where
  granted_iff : (∃ x, pool.allocate.1 = .ok x) ↔ ∃ x, x ∈ pool.vacant
  isLeast : ∀ x, pool.allocate.1 = .ok x → IsLeast pool.vacant x
  held : ∀ x, pool.allocate.1 = .ok x → pool.allocate.2.range = pool.range ∧
    ∀ y, pool.allocate.2.isHeld y = true ↔ y = x ∨ pool.isHeld y = true
  exhausted : (¬ ∃ x, x ∈ pool.vacant) → pool.allocate = (.error .exhausted, pool)
  /-- The search comes to the same by steps that fail after the last address of all. -/
  steps : firstGap? pool.range.first pool.range.last pool.held.toList = some pool.lowestFree?

/-- **A pool hands out its lowest free address**, or none if there is none. The search for it stays
within the address space, also for a range that ends with it. -/
theorem handsOutLowest (pool : Pool) : pool.HandsOutLowest := by
  constructor
  case granted_iff =>
    constructor
    · rintro ⟨x, hx⟩
      exact ⟨x, (allocate_eq_ok_iff.1 hx).1⟩
    · rintro ⟨y, hy⟩
      rcases pool.exists_isLeast_or_empty with ⟨x, hx⟩ | hempty
      · exact ⟨x, allocate_eq_ok_iff.2 hx⟩
      · exact absurd (hempty ▸ hy) (Set.notMem_empty y)
  case isLeast => exact fun x hx => allocate_eq_ok_iff.1 hx
  case held =>
    intro x hx
    rw [allocate_of_isLeast (allocate_eq_ok_iff.1 hx)]
    refine ⟨rfl, fun y => ?_⟩
    rw [isHeld_iff, isHeld_iff, mem_held_hold]
  case exhausted =>
    intro hnone
    apply allocate_of_empty
    exact Set.eq_empty_of_forall_notMem fun x hx => hnone ⟨x, hx⟩
  case steps => exact firstGap?_eq _ pool.range.first_le_last

end Pool

end Provisioning
