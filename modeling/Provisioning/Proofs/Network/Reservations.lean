import Provisioning.Proofs.Network.Ledger

/-!
# Reserving and releasing

What a pool answers about an address depends only on whether the address is in its range and held, and
changes only that. So a reservation and a release of one address undo each other, and requests about
two addresses can change places.

## Main definitions

* `Pool.Request.address?`: the address that a request is about
* `Pool.ReservesExactly`: how a pool reserves and releases

## Main results

* `Pool.release_reserve`, `Pool.reserve_release`: a request takes the other one back
* `Pool.serve_congr`: pools that agree on an address answer alike about it
* `Pool.mem_held_serve_of_ne`: a request leaves other addresses as they are
* `Pool.serveAll_swap`: requests about different addresses change places
* `Pool.reservesExactly`: every pool reserves and releases so
-/

namespace Provisioning.Pool

/-- The address that a request is about. -/
def Request.address? : Request → Option Address
  | .allocate => none
  | .reserve x => some x
  | .release x => some x

/-- How a pool reserves and releases addresses: a request is refused for what is wrong with it, and
then leaves the pool as it is. A reservation and a release of one address undo each other. -/
structure ReservesExactly (pool : Pool) : Prop where
  outOfRange_iff : ∀ x, (pool.reserve x).1 = .error (.outOfRange x) ↔ pool.range.contains x = false
  alreadyHeld_iff : ∀ x, (pool.reserve x).1 = .error (.alreadyHeld x) ↔
    pool.range.contains x = true ∧ pool.isHeld x = true
  reserved_iff : ∀ x, (pool.reserve x).1 = .ok () ↔
    pool.range.contains x = true ∧ pool.isHeld x = false
  notHeld_iff : ∀ x, (pool.release x).1 = .error (.notHeld x) ↔ pool.isHeld x = false
  released_iff : ∀ x, (pool.release x).1 = .ok () ↔ pool.isHeld x = true
  reserve_error : ∀ x e, (pool.reserve x).1 = .error e → (pool.reserve x).2 = pool
  release_error : ∀ x e, (pool.release x).1 = .error e → (pool.release x).2 = pool
  release_reserve : ∀ x, (pool.reserve x).1 = .ok () → (pool.reserve x).2.release x = (.ok (), pool)
  reserve_release : ∀ x, (pool.release x).1 = .ok () → (pool.release x).2.reserve x = (.ok (), pool)
  /-- Requests about different addresses can change places: they are answered alike, and the pool is
  the same in the end. -/
  swap : ∀ first second x y, first.address? = some x → second.address? = some y → x ≠ y →
    pool.serveAll [second, first] =
      ((pool.serveAll [first, second]).1.reverse, (pool.serveAll [first, second]).2)

variable {pool other : Pool} {request first second : Request} {x y : Address}

/-! ## One address -/

theorem isHeld_eq_false_iff : pool.isHeld x = false ↔ x ∉ pool.held := by
  rw [Bool.eq_false_iff, ne_eq, isHeld_iff]

theorem reserve_of_not_contains (h : pool.range.contains x = false) :
    pool.reserve x = (.error (.outOfRange x), pool) :=
  dif_neg (Bool.eq_false_iff.1 h)

theorem reserve_of_mem (h : x ∈ pool.held) : pool.reserve x = (.error (.alreadyHeld x), pool) := by
  rw [reserve, dif_pos (pool.held_in_range x h), if_pos h]

theorem reserve_of_notMem (hrange : pool.range.contains x = true) (h : x ∉ pool.held) :
    pool.reserve x = (.ok (), pool.hold x hrange) := by
  rw [reserve, dif_pos hrange, if_neg h]

theorem release_of_mem (h : x ∈ pool.held) : pool.release x = (.ok (), pool.free x) := if_pos h

theorem release_of_notMem (h : x ∉ pool.held) : pool.release x = (.error (.notHeld x), pool) :=
  if_neg h

theorem reserve_eq_outOfRange_iff (pool : Pool) (x : Address) :
    (pool.reserve x).1 = .error (.outOfRange x) ↔ pool.range.contains x = false := by
  rcases pool.reserve_cases x with ⟨hc, h⟩ | ⟨hmem, h⟩ | ⟨hc, -, h⟩
  · simp [h, hc]
  · simp [h, pool.held_in_range x hmem]
  · simp [h, hc]

theorem reserve_eq_alreadyHeld_iff (pool : Pool) (x : Address) :
    (pool.reserve x).1 = .error (.alreadyHeld x) ↔
      pool.range.contains x = true ∧ pool.isHeld x = true := by
  rw [isHeld_iff]
  rcases pool.reserve_cases x with ⟨hc, h⟩ | ⟨hmem, h⟩ | ⟨_, hmem, h⟩
  · simp [h, hc]
  · simp [h, hmem, pool.held_in_range x hmem]
  · simp [h, hmem]

theorem reserve_eq_ok_iff (pool : Pool) (x : Address) :
    (pool.reserve x).1 = .ok () ↔ pool.range.contains x = true ∧ pool.isHeld x = false := by
  rw [isHeld_eq_false_iff]
  rcases pool.reserve_cases x with ⟨hc, h⟩ | ⟨hmem, h⟩ | ⟨hc, hmem, h⟩
  · simp [h, hc]
  · simp [h, hmem]
  · simp [h, hc, hmem]

theorem release_eq_notHeld_iff (pool : Pool) (x : Address) :
    (pool.release x).1 = .error (.notHeld x) ↔ pool.isHeld x = false := by
  rw [isHeld_eq_false_iff]
  rcases pool.release_cases x with ⟨hmem, h⟩ | ⟨hmem, h⟩
  · simp [h, hmem]
  · simp [h, hmem]

theorem release_eq_ok_iff (pool : Pool) (x : Address) :
    (pool.release x).1 = .ok () ↔ pool.isHeld x = true := by
  rw [isHeld_iff]
  rcases pool.release_cases x with ⟨hmem, h⟩ | ⟨hmem, h⟩
  · simp [h, hmem]
  · simp [h, hmem]

theorem reserve_snd_of_error {e : PoolError} (h : (pool.reserve x).1 = .error e) :
    (pool.reserve x).2 = pool := by
  rcases pool.reserve_cases x with ⟨-, hr⟩ | ⟨-, hr⟩ | ⟨_, -, hr⟩
  · rw [hr]
  · rw [hr]
  · rw [hr] at h
    cases h

theorem release_snd_of_error {e : PoolError} (h : (pool.release x).1 = .error e) :
    (pool.release x).2 = pool := by
  rcases pool.release_cases x with ⟨-, hr⟩ | ⟨-, hr⟩
  · rw [hr]
  · rw [hr] at h
    cases h

theorem free_hold (hrange : pool.range.contains x = true) (h : x ∉ pool.held) :
    (pool.hold x hrange).free x = pool := by
  refine Pool.ext rfl fun y => ?_
  rw [mem_held_free, mem_held_hold]
  constructor
  · rintro ⟨hy | hy, hne⟩
    · exact absurd hy hne
    · exact hy
  · intro hy
    exact ⟨.inr hy, fun e => h (e ▸ hy)⟩

theorem hold_free (hrange : (pool.free x).range.contains x = true) (h : x ∈ pool.held) :
    (pool.free x).hold x hrange = pool := by
  refine Pool.ext rfl fun y => ?_
  rw [mem_held_hold, mem_held_free]
  constructor
  · rintro (rfl | ⟨hy, -⟩)
    · exact h
    · exact hy
  · intro hy
    rcases eq_or_ne y x with rfl | hne
    · exact .inl rfl
    · exact .inr ⟨hy, hne⟩

/-- A release takes a reservation back. -/
theorem release_reserve (h : (pool.reserve x).1 = .ok ()) :
    (pool.reserve x).2.release x = (.ok (), pool) := by
  obtain ⟨hrange, hnot⟩ := (pool.reserve_eq_ok_iff x).1 h
  rw [isHeld_eq_false_iff] at hnot
  rw [reserve_of_notMem hrange hnot, release_of_mem (mem_held_hold.2 (.inl rfl)),
    free_hold hrange hnot]

/-- A reservation takes a release back. -/
theorem reserve_release (h : (pool.release x).1 = .ok ()) :
    (pool.release x).2.reserve x = (.ok (), pool) := by
  have hmem := isHeld_iff.1 ((pool.release_eq_ok_iff x).1 h)
  have hrange : (pool.free x).range.contains x = true := pool.held_in_range x hmem
  have hnot : x ∉ (pool.free x).held := fun hx => (mem_held_free.1 hx).2 rfl
  rw [release_of_mem hmem, reserve_of_notMem hrange hnot, hold_free hrange hmem]

/-! ## Requests about different addresses -/

/-- Pools that agree on an address answer alike about it. -/
theorem serve_congr (hrequest : request.address? = some x) (hrange : pool.range = other.range)
    (hheld : x ∈ pool.held ↔ x ∈ other.held) :
    (pool.serve request).1 = (other.serve request).1 := by
  cases request with
  | allocate => cases hrequest
  | reserve z =>
    obtain rfl : z = x := Option.some.inj hrequest
    cases hc : pool.range.contains z with
    | false =>
      simp only [serve, reserve_of_not_contains hc, reserve_of_not_contains (hrange ▸ hc)]
    | true =>
      by_cases hmem : z ∈ pool.held
      · simp only [serve, reserve_of_mem hmem, reserve_of_mem (hheld.1 hmem)]
      · simp only [serve, reserve_of_notMem hc hmem,
          reserve_of_notMem (hrange ▸ hc) (fun h => hmem (hheld.2 h))]
  | release z =>
    obtain rfl : z = x := Option.some.inj hrequest
    by_cases hmem : z ∈ pool.held
    · simp only [serve, release_of_mem hmem, release_of_mem (hheld.1 hmem)]
    · simp only [serve, release_of_notMem hmem, release_of_notMem (fun h => hmem (hheld.2 h))]

theorem mem_held_serve_congr (hrequest : request.address? = some x)
    (hrange : pool.range = other.range) (hheld : x ∈ pool.held ↔ x ∈ other.held) :
    x ∈ (pool.serve request).2.held ↔ x ∈ (other.serve request).2.held := by
  rw [mem_held_serve, mem_held_serve, serve_congr hrequest hrange hheld, hheld]

theorem mem_held_serve_of_ne (hrequest : request.address? = some x) (hne : y ≠ x) :
    y ∈ (pool.serve request).2.held ↔ y ∈ pool.held := by
  cases request with
  | allocate => cases hrequest
  | reserve z =>
    obtain rfl : z = x := Option.some.inj hrequest
    rcases pool.reserve_cases z with ⟨-, h⟩ | ⟨-, h⟩ | ⟨_, -, h⟩
    · simp only [serve, h]
    · simp only [serve, h]
    · simp only [serve, h, mem_held_hold, hne, false_or]
  | release z =>
    obtain rfl : z = x := Option.some.inj hrequest
    rcases pool.release_cases z with ⟨-, h⟩ | ⟨-, h⟩
    · simp only [serve, h]
    · simp only [serve, h, mem_held_free, ne_eq, hne, not_false_eq_true, and_true]

/-- Another request before it changes neither the answer to a request nor what is held afterwards of
the address that it is about. -/
theorem serve_serve_of_ne (hfirst : first.address? = some x) (hsecond : second.address? = some y)
    (hne : x ≠ y) : ((pool.serve second).2.serve first).1 = (pool.serve first).1 :=
  serve_congr hfirst (pool.range_serve second) (mem_held_serve_of_ne hsecond hne)

theorem held_serve_swap (hfirst : first.address? = some x) (hsecond : second.address? = some y)
    (hne : x ≠ y) :
    ((pool.serve second).2.serve first).2 = ((pool.serve first).2.serve second).2 := by
  refine Pool.ext (by simp only [range_serve]) fun z => ?_
  -- An address is the first one, the second one, or left alone by both requests.
  by_cases hx : z = x
  · subst hx
    rw [mem_held_serve_of_ne hsecond hne]
    exact mem_held_serve_congr hfirst (pool.range_serve second) (mem_held_serve_of_ne hsecond hne)
  · rw [mem_held_serve_of_ne hfirst hx]
    by_cases hy : z = y
    · subst hy
      exact mem_held_serve_congr hsecond (pool.range_serve first).symm
        (mem_held_serve_of_ne hfirst hx).symm
    · rw [mem_held_serve_of_ne hsecond hy, mem_held_serve_of_ne hsecond hy,
        mem_held_serve_of_ne hfirst hx]

theorem serveAll_swap (hfirst : first.address? = some x) (hsecond : second.address? = some y)
    (hne : x ≠ y) : pool.serveAll [second, first] =
      ((pool.serveAll [first, second]).1.reverse, (pool.serveAll [first, second]).2) := by
  simp only [serveAll, List.reverse_cons, List.reverse_nil, List.nil_append, List.cons_append]
  rw [serve_serve_of_ne hfirst hsecond hne, serve_serve_of_ne hsecond hfirst hne.symm,
    held_serve_swap hfirst hsecond hne]

/-! ## Every pool -/

/-- **Reserving and releasing are exact**: a request is refused for what is wrong with it and leaves
the pool as it is, reserving and releasing undo each other, and requests about different addresses can
change places. -/
theorem reservesExactly (pool : Pool) : pool.ReservesExactly where
  outOfRange_iff := pool.reserve_eq_outOfRange_iff
  alreadyHeld_iff := pool.reserve_eq_alreadyHeld_iff
  reserved_iff := pool.reserve_eq_ok_iff
  notHeld_iff := pool.release_eq_notHeld_iff
  released_iff := pool.release_eq_ok_iff
  reserve_error _ _ := reserve_snd_of_error
  release_error _ _ := release_snd_of_error
  release_reserve _ := Pool.release_reserve
  reserve_release _ := Pool.reserve_release
  swap _ _ _ _ := serveAll_swap

end Provisioning.Pool
