import Provisioning.Proofs.Data.Except
import Provisioning.Proofs.Network.Lowest
import Provisioning.Proofs.Network.Reservations

/-!
# Many requests

A pool reserves given addresses one after another if they are free and different. Asked for its lowest
free address again and again, it hands out the lowest ones in ascending order, as many as are free.

## Main definitions

* `ListsLowest s n xs`: `xs` are the `n` lowest members of `s`, in ascending order
* `Pool.AlsoHolds`: a later pool holds some addresses besides those held before

## Main results

* `listsLowest_succ_iff`: the lowest member comes first, then the lowest of the others
* `Pool.reserveAll_eq_ok_iff`: what becomes of a pool whose addresses are reserved
* `Pool.reserveAll_held`: every pool is reached by reservations
* `Pool.allocateMany_eq_ok_iff`: what many requests for the lowest free address are answered
* `Pool.exists_allocateMany`: they are granted if enough addresses are free
-/

namespace Provisioning

/-- Addresses in ascending order that are the `n` lowest members of a set. -/
structure ListsLowest (s : Set Address) (n : Nat) (xs : List Address) : Prop where
  length_eq : xs.length = n
  ascending : xs.Pairwise (· < ·)
  mem : ∀ x ∈ xs, x ∈ s
  /-- No other member is below one of them. -/
  mem_of_le : ∀ x ∈ xs, ∀ y ∈ s, y ≤ x → y ∈ xs

namespace ListsLowest

variable {s : Set Address} {n : Nat} {x : Address} {xs ys : List Address}

theorem zero_iff : ListsLowest s 0 xs ↔ xs = [] := by
  constructor
  · intro h
    exact List.length_eq_zero_iff.1 h.length_eq
  · rintro rfl
    exact ⟨rfl, .nil, by simp, by simp⟩

theorem isLeast_head (h : ListsLowest s (n + 1) (x :: xs)) : IsLeast s x := by
  refine ⟨h.mem x List.mem_cons_self, fun y hy => ?_⟩
  by_contra hlt
  -- A lower member would stand after the head.
  have hmem := h.mem_of_le x List.mem_cons_self y hy (le_of_not_ge hlt)
  rcases List.mem_cons.1 hmem with rfl | hmem
  · exact hlt le_rfl
  · exact hlt (le_of_lt ((List.pairwise_cons.1 h.ascending).1 y hmem))

theorem tail (h : ListsLowest s (n + 1) (x :: xs)) : ListsLowest (s \ {x}) n xs := by
  obtain ⟨hlt, hascending⟩ := List.pairwise_cons.1 h.ascending
  refine ⟨Nat.succ.inj h.length_eq, hascending, fun y hy => ?_, fun y hy z hz hle => ?_⟩
  · exact ⟨h.mem y (List.mem_cons_of_mem x hy), (hlt y hy).ne'⟩
  · have hmem := h.mem_of_le y (List.mem_cons_of_mem x hy) z hz.1 hle
    exact (List.mem_cons.1 hmem).resolve_left hz.2

theorem cons (hx : IsLeast s x) (h : ListsLowest (s \ {x}) n xs) :
    ListsLowest s (n + 1) (x :: xs) := by
  constructor
  case length_eq => rw [List.length_cons, h.length_eq]
  case ascending =>
    rw [List.pairwise_cons]
    refine ⟨fun y hy => ?_, h.ascending⟩
    obtain ⟨hmem, hne⟩ := h.mem y hy
    exact lt_of_le_of_ne (hx.2 hmem) (Ne.symm hne)
  case mem =>
    rw [List.forall_mem_cons]
    exact ⟨hx.1, fun y hy => (h.mem y hy).1⟩
  case mem_of_le =>
    intro y hy z hz hle
    rcases eq_or_ne z x with rfl | hne
    · exact List.mem_cons_self
    rcases List.mem_cons.1 hy with rfl | hy
    · exact absurd (le_antisymm hle (hx.2 hz)) hne
    · exact List.mem_cons_of_mem x (h.mem_of_le y hy z ⟨hz, hne⟩ hle)

end ListsLowest

/-- The lowest member comes first, then the lowest of the others. -/
theorem listsLowest_succ_iff {s : Set Address} {n : Nat} {xs : List Address} :
    ListsLowest s (n + 1) xs ↔
      ∃ x ys, xs = x :: ys ∧ IsLeast s x ∧ ListsLowest (s \ {x}) n ys := by
  constructor
  · intro h
    obtain ⟨x, ys, rfl⟩ := List.exists_cons_of_length_eq_add_one h.length_eq
    exact ⟨x, ys, rfl, h.isLeast_head, h.tail⟩
  · rintro ⟨x, ys, rfl, hx, hys⟩
    exact hys.cons hx

namespace Pool

/-- A later pool holds some addresses besides those held before. -/
structure AlsoHolds (pool : Pool) (xs : List Address) (later : Pool) : Prop where
  range_eq : later.range = pool.range
  mem_iff : ∀ x, x ∈ later.held ↔ x ∈ xs ∨ x ∈ pool.held

variable {pool later : Pool} {x : Address} {xs : List Address}

theorem alsoHolds_nil_iff : pool.AlsoHolds [] later ↔ later = pool := by
  constructor
  · intro h
    exact Pool.ext h.range_eq fun x => by simp [h.mem_iff]
  · rintro rfl
    exact ⟨rfl, by simp⟩

theorem alsoHolds_cons_iff (h : pool.range.contains x = true) :
    pool.AlsoHolds (x :: xs) later ↔ (pool.hold x h).AlsoHolds xs later := by
  have hmem : ∀ y, y ∈ x :: xs ∨ y ∈ pool.held ↔ y ∈ xs ∨ y ∈ (pool.hold x h).held := by
    intro y
    rw [mem_held_hold, List.mem_cons]
    tauto
  constructor
  · intro hlater
    exact ⟨hlater.range_eq, fun y => (hlater.mem_iff y).trans (hmem y)⟩
  · intro hlater
    exact ⟨hlater.range_eq, fun y => (hlater.mem_iff y).trans (hmem y).symm⟩

theorem exists_alsoHolds (pool : Pool) (h : ∀ x ∈ xs, pool.range.contains x = true) :
    ∃ later, pool.AlsoHolds xs later := by
  induction xs generalizing pool with
  | nil => exact ⟨pool, alsoHolds_nil_iff.2 rfl⟩
  | cons x rest ih =>
    rw [List.forall_mem_cons] at h
    obtain ⟨later, hlater⟩ := ih (pool.hold x h.1) h.2
    exact ⟨later, (alsoHolds_cons_iff h.1).2 hlater⟩

theorem AlsoHolds.vacant_eq (h : pool.AlsoHolds xs later) :
    later.vacant = pool.vacant \ {x | x ∈ xs} := by
  ext x
  rw [mem_vacant, h.range_eq, h.mem_iff, Set.mem_sdiff, mem_vacant, Set.mem_ofPred_eq]
  tauto

/-! ## Reservations -/

theorem exists_reserve_error (h : x ∉ pool.vacant) : ∃ e, pool.reserve x = (.error e, pool) := by
  rcases pool.reserve_cases x with ⟨-, he⟩ | ⟨-, he⟩ | ⟨hc, hmem, -⟩
  · exact ⟨_, he⟩
  · exact ⟨_, he⟩
  · exact absurd ⟨hc, hmem⟩ h

/-- Addresses are reserved one after another if they are free and different. -/
theorem reserveAll_eq_ok_iff : pool.reserveAll xs = .ok later ↔
    xs.Nodup ∧ (∀ x ∈ xs, x ∈ pool.vacant) ∧ pool.AlsoHolds xs later := by
  induction xs generalizing pool with
  | nil =>
    rw [reserveAll, alsoHolds_nil_iff, Except.ok.injEq, eq_comm]
    simp
  | cons x rest ih =>
    rw [reserveAll, List.nodup_cons, List.forall_mem_cons]
    by_cases hx : x ∈ pool.vacant
    · -- With the first one held, the others are free if they are different from it.
      have hrest : (∀ y ∈ rest, y ∈ (pool.hold x hx.1).vacant) ↔
          x ∉ rest ∧ ∀ y ∈ rest, y ∈ pool.vacant := by
        rw [vacant_hold]
        constructor
        · intro h
          exact ⟨fun hmem => (h x hmem).2 rfl, fun y hy => (h y hy).1⟩
        · rintro ⟨hnot, h⟩ y hy
          exact ⟨h y hy, fun e => hnot (e ▸ hy)⟩
      rw [reserve_of_notMem hx.1 hx.2]
      simp only
      rw [ih, hrest, alsoHolds_cons_iff hx.1]
      tauto
    · obtain ⟨e, he⟩ := exists_reserve_error hx
      rw [he]
      simp [hx]

/-- Every pool is reached from one that holds nothing, by reserving what it holds. -/
theorem reserveAll_held (pool : Pool) :
    (ofRange pool.range).reserveAll pool.held.toList = .ok pool := by
  rw [reserveAll_eq_ok_iff]
  refine ⟨pool.held.ascending.nodup, fun x hx => ?_, rfl, fun x => ?_⟩
  · exact ⟨pool.held_in_range x hx, AddressSet.not_mem_empty x⟩
  · rw [← AddressSet.mem_def]
    simp [ofRange]

/-! ## Requests for the lowest free address -/

theorem allocateMany_succ_of_isLeast (n : Nat) (h : IsLeast pool.vacant x) :
    pool.allocateMany (n + 1) =
      ((pool.hold x h.1.1).allocateMany n).map fun (xs, later) => (x :: xs, later) := by
  rw [allocateMany, allocate_of_isLeast h]

theorem allocateMany_succ_of_empty (n : Nat) (h : pool.vacant = ∅) :
    pool.allocateMany (n + 1) = .error .exhausted := by
  rw [allocateMany, allocate_of_empty h]

/-- Many requests for the lowest free address are answered with the lowest ones in ascending order,
and these are held from then on. -/
theorem allocateMany_eq_ok_iff {n : Nat} : pool.allocateMany n = .ok (xs, later) ↔
    ListsLowest pool.vacant n xs ∧ pool.AlsoHolds xs later := by
  induction n generalizing pool xs with
  | zero =>
    rw [allocateMany, ListsLowest.zero_iff, Except.ok.injEq, Prod.mk.injEq]
    constructor
    · rintro ⟨rfl, rfl⟩
      exact ⟨rfl, alsoHolds_nil_iff.2 rfl⟩
    · rintro ⟨rfl, h⟩
      exact ⟨rfl, (alsoHolds_nil_iff.1 h).symm⟩
  | succ n ih =>
    rw [listsLowest_succ_iff]
    rcases pool.exists_isLeast_or_empty with ⟨x, hx⟩ | hempty
    · rw [allocateMany_succ_of_isLeast n hx, map_eq_ok]
      constructor
      · rintro ⟨⟨ys, last⟩, h, he⟩
        cases he
        obtain ⟨hys, hlater⟩ := ih.1 h
        rw [vacant_hold] at hys
        exact ⟨⟨x, ys, rfl, hx, hys⟩, (alsoHolds_cons_iff hx.1.1).2 hlater⟩
      · rintro ⟨⟨y, ys, rfl, hy, hys⟩, hlater⟩
        obtain rfl := hy.unique hx
        refine ⟨(ys, later), ih.2 ⟨?_, (alsoHolds_cons_iff hx.1.1).1 hlater⟩, rfl⟩
        rwa [vacant_hold]
    · rw [allocateMany_succ_of_empty n hempty]
      constructor
      · intro h
        cases h
      · rintro ⟨⟨x, ys, -, hx, -⟩, -⟩
        exact absurd (hempty ▸ hx.1) (Set.notMem_empty x)

/-- As many addresses are handed out as are free. -/
theorem exists_allocateMany {n : Nat} (h : n ≤ pool.available) :
    ∃ result, pool.allocateMany n = .ok result := by
  induction n generalizing pool with
  | zero => exact ⟨([], pool), rfl⟩
  | succ n ih =>
    rw [available_eq] at h
    rcases pool.exists_isLeast_or_empty with ⟨x, hx⟩ | hempty
    · have hless : n ≤ (pool.hold x hx.1.1).available := by
        have hcount := Set.ncard_sdiff_singleton_add_one hx.1
        rw [available_eq, vacant_hold]
        omega
      obtain ⟨⟨ys, later⟩, hrest⟩ := ih hless
      exact ⟨(x :: ys, later), by rw [allocateMany_succ_of_isLeast n hx, hrest]; rfl⟩
    · rw [hempty, Set.ncard_empty] at h
      exact absurd h (Nat.not_succ_le_zero n)

end Pool

end Provisioning
