import Provisioning.Network.AddressSet
import Provisioning.Network.Cidr
import Provisioning.Network.Error

/-!
# Address pools

A pool hands out the addresses of a range: the lowest free one, or a given one. Held addresses lie
in the range, by the type of a pool.

## Main definitions

* `Pool`: a range and the set of held addresses
* `Pool.hold`, `Pool.free`: the pool with an address in use, or no longer in use
* `Pool.allocate`, `Pool.reserve`, `Pool.release`: the requests; a refused one leaves the pool as it
  is
* `Pool.available`: the number of free addresses
* `Pool.allocateMany`: several requests for the lowest free address
-/

namespace Provisioning

open Log

/-- A range of addresses and those of them that are held. -/
structure Pool where
  /-- The addresses that the pool hands out. -/
  range : AddressRange
  /-- The addresses in use. -/
  held : AddressSet
  /-- Addresses in use are the pool's. -/
  held_in_range : ∀ x ∈ held, range.contains x

namespace Pool

/-- The pool of a range, with all its addresses free. -/
def ofRange (range : AddressRange) : Pool where
  range
  held := .empty
  held_in_range := by simp

/-- The pool of a block's host range. -/
def ofCidr (raw : String) : Logged (Except AddressError Pool) := do
  return (← hostRangeOf raw).map ofRange

/-- The lowest address from `candidate` to `last` that is not in an ascending list of addresses, of
which none is below the candidate. -/
def firstGap (candidate last : Address) : List Address → Option Address
  | [] => some candidate
  | x :: rest =>
    if x ≠ candidate then some candidate
    else if candidate = last then none
    else firstGap candidate.next last rest

theorem firstGap_bounds {candidate last x : Address} {l : List Address} (h : candidate ≤ last)
    (hx : firstGap candidate last l = some x) : candidate ≤ x ∧ x ≤ last := by
  induction l generalizing candidate with
  | nil =>
    obtain rfl : candidate = x := Option.some.inj hx
    exact ⟨Nat.le_refl _, h⟩
  | cons y rest ih =>
    rw [firstGap] at hx
    split at hx
    · obtain rfl : candidate = x := Option.some.inj hx
      exact ⟨Nat.le_refl _, h⟩
    · split at hx
      · cases hx
      · next hne =>
        have hlt := Address.lt_of_le_of_ne h hne
        obtain ⟨hle, hlast⟩ := ih (Address.next_le hlt) hx
        rw [Address.le_def, Address.toNat_next hlt] at hle
        exact ⟨Nat.le_of_succ_le hle, hlast⟩

/-- The lowest free address. -/
def lowestFree? (pool : Pool) : Option Address :=
  firstGap pool.range.first pool.range.last pool.held.toList

theorem contains_of_lowestFree? {pool : Pool} {x : Address} (h : pool.lowestFree? = some x) :
    pool.range.contains x :=
  AddressRange.contains_iff.2 (firstGap_bounds pool.range.first_le_last h)

/-- The pool with one more address of its range held. -/
def hold (pool : Pool) (x : Address) (h : pool.range.contains x) : Pool where
  range := pool.range
  held := pool.held.insert x
  held_in_range := by
    intro y hy
    rcases AddressSet.mem_insert.1 hy with rfl | hy
    · exact h
    · exact pool.held_in_range y hy

/-- The pool with an address free. -/
def free (pool : Pool) (x : Address) : Pool where
  range := pool.range
  held := pool.held.erase x
  held_in_range y hy := pool.held_in_range y (AddressSet.mem_erase.1 hy).1

@[simp] theorem range_hold (pool : Pool) (x : Address) (h : pool.range.contains x) :
    (pool.hold x h).range = pool.range := rfl

@[simp] theorem mem_held_hold {pool : Pool} {x y : Address} {h : pool.range.contains x} :
    y ∈ (pool.hold x h).held ↔ y = x ∨ y ∈ pool.held :=
  AddressSet.mem_insert

@[simp] theorem range_free (pool : Pool) (x : Address) : (pool.free x).range = pool.range := rfl

@[simp] theorem mem_held_free {pool : Pool} {x y : Address} :
    y ∈ (pool.free x).held ↔ y ∈ pool.held ∧ y ≠ x :=
  AddressSet.mem_erase

/-- Hands out the lowest free address. -/
def allocate (pool : Pool) : Except PoolError Address × Pool :=
  match h : pool.lowestFree? with
  | none => (.error .exhausted, pool)
  | some x => (.ok x, pool.hold x (contains_of_lowestFree? h))

/-- Hands out a given address. -/
def reserve (pool : Pool) (x : Address) : Except PoolError Unit × Pool :=
  if h : pool.range.contains x then
    if x ∈ pool.held then (.error (.alreadyHeld x), pool) else (.ok (), pool.hold x h)
  else (.error (.outOfRange x), pool)

/-- Takes an address back. -/
def release (pool : Pool) (x : Address) : Except PoolError Unit × Pool :=
  if x ∈ pool.held then (.ok (), pool.free x) else (.error (.notHeld x), pool)

/-- Whether an address is in use. -/
def isHeld (pool : Pool) (x : Address) : Bool := x ∈ pool.held

/-- The number of free addresses. -/
def available (pool : Pool) : Nat := pool.range.length - pool.held.size

/-- Hands out given addresses, up to the first that is refused. -/
def reserveAll (pool : Pool) : List Address → Except PoolError Pool
  | [] => .ok pool
  | x :: rest =>
    match pool.reserve x with
    | (.ok _, pool) => pool.reserveAll rest
    | (.error e, _) => .error e

/-- Hands out the lowest free address `n` times, up to the first refusal. -/
def allocateMany (pool : Pool) : Nat → Except PoolError (List Address × Pool)
  | 0 => .ok ([], pool)
  | n + 1 =>
    match pool.allocate with
    | (.ok x, pool) => (pool.allocateMany n).map fun (xs, pool) => (x :: xs, pool)
    | (.error e, _) => .error e

end Pool

end Provisioning
