import Provisioning.Command.Pool
import Provisioning.Proofs.Network.Series

/-!
# What an allocation grants

The arguments of an allocation are granted exactly if the text is that of a block, the reserved
addresses are different hosts of it, and enough hosts remain. The remaining hosts with the lowest
numbers are allocated, whatever the order of the reservations is.

## Main definitions

* `PoolArguments.remaining`: the hosts of a block that are not reserved
* `PoolArguments.Fits`: a block has what the arguments ask for
* `PoolArguments.Grants`: an allocation gives it
* `PoolArguments.AllocatesExactly`: when an allocation is made, and which one

## Main results

* `PoolArguments.allocation_eq_ok_iff`: the allocations that are made
* `PoolArguments.exists_allocation`: one is made if a block fits
* `PoolArguments.allocatesExactly`: both, and that the order of the reservations does not matter
-/

namespace Provisioning.PoolArguments

open Log

/-- The hosts of a block that are not reserved. -/
def remaining (a : PoolArguments) (block : Block) : Set Address :=
  {x | block.hostRange.contains x = true ∧ x ∉ a.reserved}

/-- A block has what arguments ask for: it is the one of the text, the reserved addresses are different
hosts of it, and enough hosts remain. -/
structure Fits (a : PoolArguments) (block : Block) : Prop where
  read : Block.read a.block = .ok block
  distinct : a.reserved.Nodup
  hosts : ∀ x ∈ a.reserved, block.hostRange.contains x = true
  enough : a.count ≤ (a.remaining block).ncard

/-- An allocation gives what arguments ask for of a block: the lowest hosts that remain, in ascending
order, and a pool of the hosts that holds what is reserved and what is allocated. -/
structure Grants (a : PoolArguments) (block : Block) (allocated : List Address) (pool : Pool) :
    Prop where
  lowest : ListsLowest (a.remaining block) a.count allocated
  range_eq : pool.range = block.hostRange
  isHeld_iff : ∀ x, pool.isHeld x = true ↔ x ∈ a.reserved ∨ x ∈ allocated

/-- When an allocation is made, and which one. -/
structure AllocatesExactly (a : PoolArguments) : Prop where
  granted_iff : (∃ result, a.allocation.value = .ok result) ↔ ∃ block, a.Fits block
  result_iff : ∀ allocated pool, a.allocation.value = .ok (allocated, pool) ↔
    ∃ block, a.Fits block ∧ a.Grants block allocated pool
  /-- The order of the reservations does not matter. -/
  perm : ∀ reserved, reserved.Perm a.reserved → ∀ result,
    { a with reserved := reserved }.allocation.value = .ok result ↔ a.allocation.value = .ok result
  /-- Once the count is found to be available, no request for an address is refused. -/
  never_refused : ∀ block pool, Block.read a.block = .ok block →
    (Pool.ofRange block.hostRange).reserveAll a.reserved = .ok pool → a.count ≤ pool.available →
      ∃ result, pool.allocateMany a.count = .ok result

variable {a : PoolArguments} {block : Block} {allocated : List Address} {pool later : Pool}

/-! ## The steps of an allocation -/

theorem value_allocation_of_error {e : AddressError} (h : Block.read a.block = .error e) :
    a.allocation.value = .error (.address e) := by
  have hpool : (Pool.ofCidr a.block).value = .error e := by
    simp only [Pool.ofCidr, hostRangeOf, h]
    rfl
  rw [allocation, Logged.value_bind, hpool]
  rfl

theorem value_allocation_of_read (h : Block.read a.block = .ok block) :
    a.allocation.value = a.allocateFrom (Pool.ofRange block.hostRange) := by
  have hpool : (Pool.ofCidr a.block).value = .ok (Pool.ofRange block.hostRange) := by
    simp only [Pool.ofCidr, hostRangeOf, h]
    rfl
  rw [allocation, Logged.value_bind, hpool]
  cases hresult : a.allocateFrom (Pool.ofRange block.hostRange) with
  | error e => simp only [hresult, Logged.value_pure]
  | ok result => simp only [hresult, Logged.value_bind, Logged.value_pure]

theorem allocateFrom_eq_ok_iff : a.allocateFrom pool = .ok (allocated, later) ↔
    ∃ reserved, pool.reserveAll a.reserved = .ok reserved ∧ a.count ≤ reserved.available ∧
      reserved.allocateMany a.count = .ok (allocated, later) := by
  rw [allocateFrom]
  cases hreserved : pool.reserveAll a.reserved with
  | error e => simp
  | ok reserved =>
    simp only [Except.ok.injEq, exists_eq_left']
    split
    · next hless => simp [Nat.not_le_of_gt hless]
    · next hless =>
      have henough := Nat.le_of_not_lt hless
      cases hresult : reserved.allocateMany a.count with
      | error e => simp
      | ok result => simp [henough]

theorem vacant_ofRange (block : Block) :
    (Pool.ofRange block.hostRange).vacant = {x | block.hostRange.contains x = true} := by
  ext x
  simp [Pool.mem_vacant, Pool.ofRange]

theorem vacant_of_alsoHolds (h : (Pool.ofRange block.hostRange).AlsoHolds a.reserved pool) :
    pool.vacant = a.remaining block := by
  rw [h.vacant_eq, vacant_ofRange]
  rfl

/-! ## The whole allocation -/

/-- The pool that holds what is reserved and what is allocated is determined. -/
theorem grants_iff (hreserved : (Pool.ofRange block.hostRange).AlsoHolds a.reserved pool) :
    a.Grants block allocated later ↔
      ListsLowest pool.vacant a.count allocated ∧ pool.AlsoHolds allocated later := by
  have hheld : ∀ x, (x ∈ allocated ∨ x ∈ pool.held) ↔ x ∈ a.reserved ∨ x ∈ allocated := by
    intro x
    rw [hreserved.mem_iff, or_comm]
    simp [Pool.ofRange]
  rw [vacant_of_alsoHolds hreserved]
  constructor
  · intro h
    refine ⟨h.lowest, h.range_eq.trans hreserved.range_eq.symm, fun x => ?_⟩
    rw [hheld, ← h.isHeld_iff, Pool.isHeld_iff]
  · rintro ⟨hlowest, hlater⟩
    refine ⟨hlowest, hlater.range_eq.trans hreserved.range_eq, fun x => ?_⟩
    rw [Pool.isHeld_iff, hlater.mem_iff, hheld]

theorem enough_iff (hreserved : (Pool.ofRange block.hostRange).AlsoHolds a.reserved pool) :
    a.count ≤ pool.available ↔ a.count ≤ (a.remaining block).ncard := by
  rw [Pool.available_eq, vacant_of_alsoHolds hreserved]

theorem reserveAll_hosts_eq_ok_iff :
    (Pool.ofRange block.hostRange).reserveAll a.reserved = .ok pool ↔
      a.reserved.Nodup ∧ (∀ x ∈ a.reserved, block.hostRange.contains x = true) ∧
        (Pool.ofRange block.hostRange).AlsoHolds a.reserved pool := by
  rw [Pool.reserveAll_eq_ok_iff, vacant_ofRange]
  rfl

theorem Fits.exists_reserveAll (h : a.Fits block) :
    ∃ pool, (Pool.ofRange block.hostRange).reserveAll a.reserved = .ok pool ∧
      a.count ≤ pool.available := by
  obtain ⟨pool, hpool⟩ := Pool.exists_alsoHolds (Pool.ofRange block.hostRange) h.hosts
  exact ⟨pool, reserveAll_hosts_eq_ok_iff.2 ⟨h.distinct, h.hosts, hpool⟩,
    (enough_iff hpool).2 h.enough⟩

/-- The allocations that are made are those that a block grants. -/
theorem allocation_eq_ok_iff : a.allocation.value = .ok (allocated, later) ↔
    ∃ block, a.Fits block ∧ a.Grants block allocated later := by
  constructor
  · intro h
    cases hread : Block.read a.block with
    | error e =>
      rw [value_allocation_of_error hread] at h
      cases h
    | ok block =>
      rw [value_allocation_of_read hread, allocateFrom_eq_ok_iff] at h
      obtain ⟨pool, hreserved, henough, hresult⟩ := h
      obtain ⟨hdistinct, hhosts, hpool⟩ := reserveAll_hosts_eq_ok_iff.1 hreserved
      exact ⟨block, ⟨hread, hdistinct, hhosts, (enough_iff hpool).1 henough⟩,
        (grants_iff hpool).2 (Pool.allocateMany_eq_ok_iff.1 hresult)⟩
  · rintro ⟨block, hfits, hgrants⟩
    obtain ⟨pool, hreserved, henough⟩ := hfits.exists_reserveAll
    obtain ⟨-, -, hpool⟩ := reserveAll_hosts_eq_ok_iff.1 hreserved
    rw [value_allocation_of_read hfits.read, allocateFrom_eq_ok_iff]
    exact ⟨pool, hreserved, henough,
      Pool.allocateMany_eq_ok_iff.2 ((grants_iff hpool).1 hgrants)⟩

theorem exists_allocation (h : a.Fits block) : ∃ result, a.allocation.value = .ok result := by
  obtain ⟨pool, hreserved, henough⟩ := h.exists_reserveAll
  obtain ⟨⟨allocated, later⟩, hresult⟩ := Pool.exists_allocateMany henough
  refine ⟨(allocated, later), ?_⟩
  rw [value_allocation_of_read h.read, allocateFrom_eq_ok_iff]
  exact ⟨pool, hreserved, henough, hresult⟩

/-- What a block grants depends on the reservations only as a set. -/
theorem fits_grants_of_perm {reserved : List Address} (h : reserved.Perm a.reserved)
    (hfits : a.Fits block) (hgrants : a.Grants block allocated later) :
    { a with reserved := reserved }.Fits block ∧
      { a with reserved := reserved }.Grants block allocated later := by
  have hremaining : { a with reserved := reserved }.remaining block = a.remaining block := by
    ext x
    rw [remaining, remaining, Set.mem_ofPred_eq, Set.mem_ofPred_eq, h.mem_iff]
  constructor
  · refine ⟨hfits.read, h.nodup_iff.2 hfits.distinct, fun x hx => ?_, ?_⟩
    · exact hfits.hosts x (h.mem_iff.1 hx)
    · rw [hremaining]
      exact hfits.enough
  · refine ⟨?_, hgrants.range_eq, fun x => ?_⟩
    · rw [hremaining]
      exact hgrants.lowest
    · rw [hgrants.isHeld_iff, h.mem_iff]

/-- **An allocation is exact**: it is made exactly if a block has what the arguments ask for, it is
the one that the block grants, and the order of the reservations does not matter. -/
theorem allocatesExactly (a : PoolArguments) : a.AllocatesExactly := by
  constructor
  case granted_iff =>
    constructor
    · rintro ⟨⟨allocated, later⟩, h⟩
      obtain ⟨block, hfits, -⟩ := allocation_eq_ok_iff.1 h
      exact ⟨block, hfits⟩
    · rintro ⟨block, hfits⟩
      exact exists_allocation hfits
  case result_iff => exact fun _ _ => allocation_eq_ok_iff
  case perm =>
    rintro reserved hperm ⟨allocated, later⟩
    rw [allocation_eq_ok_iff, allocation_eq_ok_iff]
    constructor
    · rintro ⟨block, hfits, hgrants⟩
      exact ⟨block, fits_grants_of_perm (a := { a with reserved := reserved }) hperm.symm hfits hgrants⟩
    · rintro ⟨block, hfits, hgrants⟩
      exact ⟨block, fits_grants_of_perm hperm hfits hgrants⟩
  case never_refused => exact fun _ _ _ _ henough => Pool.exists_allocateMany henough

-- Two hosts around the reserved ones.
example : (PoolArguments.mk "10.0.0.0/29" [⟨10, 0, 0, 3⟩, ⟨10, 0, 0, 1⟩] 2).allocation.value.toOption.map
    Prod.fst = some [⟨10, 0, 0, 2⟩, ⟨10, 0, 0, 4⟩] := by decide +kernel

end Provisioning.PoolArguments
