import Provisioning.Network.Pool

/-!
# Requests to a pool

What each request does to a pool, and with which answer.

## Main results

* `firstGap_notMem`, `notMem_of_lowestFree?`: the lowest free address is not in use
* `Pool.allocate_cases`, `Pool.reserve_cases`, `Pool.release_cases`: the answers, and the pool after
  each of them
-/

namespace Provisioning

namespace Pool

theorem firstGap_notMem {candidate last x : Address} {l : List Address}
    (hl : l.Pairwise (· < ·)) (hfirst : ∀ y ∈ l, candidate ≤ y) (h : candidate ≤ last)
    (hx : firstGap candidate last l = some x) : x ∉ l := by
  induction l generalizing candidate with
  | nil => exact List.not_mem_nil
  | cons y rest ih =>
    rw [List.pairwise_cons] at hl
    rw [List.forall_mem_cons] at hfirst
    rw [firstGap] at hx
    split at hx
    · -- The candidate is below the head, so it is below all of the list.
      next hne =>
      obtain rfl : candidate = x := Option.some.inj hx
      have hlt := Address.lt_of_le_of_ne hfirst.1 (Ne.symm hne)
      intro hmem
      rcases List.mem_cons.1 hmem with rfl | hmem
      · exact Nat.lt_irrefl _ hlt
      · exact Nat.lt_asymm hlt (hl.1 candidate hmem)
    next heq =>
    obtain rfl : y = candidate := Classical.not_not.1 heq
    split at hx
    · cases hx
    next hne =>
    -- The gap is in the rest of the list, above the head.
    have hlt := Address.lt_of_le_of_ne h hne
    have hrest := ih hl.2 (fun z hz => Address.next_le (hl.1 z hz)) (Address.next_le hlt) hx
    intro hmem
    rcases List.mem_cons.1 hmem with rfl | hmem
    · have hle := Address.le_def.1 (firstGap_bounds (Address.next_le hlt) hx).1
      rw [Address.toNat_next hlt] at hle
      exact Nat.lt_irrefl _ hle
    · exact hrest hmem

variable {pool : Pool} {x : Address}

theorem bounds_of_mem (h : x ∈ pool.held) : pool.range.first ≤ x ∧ x ≤ pool.range.last :=
  AddressRange.contains_iff.1 (pool.held_in_range x h)

theorem notMem_of_lowestFree? (h : pool.lowestFree? = some x) : x ∉ pool.held :=
  firstGap_notMem pool.held.ascending (fun _ hy => (bounds_of_mem hy).1) pool.range.first_le_last h

/-! ## Answers -/

theorem isHeld_iff : pool.isHeld x = true ↔ x ∈ pool.held := decide_eq_true_iff

theorem allocate_cases (pool : Pool) :
    (pool.lowestFree? = none ∧ pool.allocate = (.error .exhausted, pool)) ∨
      ∃ x h, pool.lowestFree? = some x ∧ x ∉ pool.held ∧
        pool.allocate = (.ok x, pool.hold x h) := by
  rw [allocate]
  split
  · next h => exact .inl ⟨h, rfl⟩
  · next x h => exact .inr ⟨x, contains_of_lowestFree? h, h, notMem_of_lowestFree? h, rfl⟩

theorem reserve_cases (pool : Pool) (x : Address) :
    (pool.range.contains x = false ∧ pool.reserve x = (.error (.outOfRange x), pool)) ∨
      (x ∈ pool.held ∧ pool.reserve x = (.error (.alreadyHeld x), pool)) ∨
      ∃ h, x ∉ pool.held ∧ pool.reserve x = (.ok (), pool.hold x h) := by
  rw [reserve]
  split
  · next hc =>
    split
    · next hmem => exact .inr (.inl ⟨hmem, rfl⟩)
    · next hmem => exact .inr (.inr ⟨hc, hmem, rfl⟩)
  · next hc => exact .inl ⟨Bool.eq_false_iff.2 hc, rfl⟩

theorem release_cases (pool : Pool) (x : Address) :
    (x ∉ pool.held ∧ pool.release x = (.error (.notHeld x), pool)) ∨
      (x ∈ pool.held ∧ pool.release x = (.ok (), pool.free x)) := by
  rw [release]
  split
  · next hmem => exact .inr ⟨hmem, rfl⟩
  · next hmem => exact .inl ⟨hmem, rfl⟩

end Pool

end Provisioning
