import Provisioning.Proofs.Network.Order

/-!
# The ledger of a pool

Requests to a pool in any order and number, with the answers to them. What a pool holds can be read
off the answers alone: an address is outstanding from the answer that hands it out to the next answer
that takes it back. Refused requests leave no trace.

## Main definitions

* `Request`, `Exchange`: a request, and a request with its answer
* `serve`, `serveAll`: the pool answers one request, or one after another
* `Outstanding log x`: `x` was handed out and has not been taken back since
* `Consistent`: the pool agrees with its ledger

## Main results

* `mem_held_serve`, `notMem_of_handedOut?`: what one request does
* `Tracks.serve`, `Tracks.serveAll`: a pool that holds what is outstanding goes on to do so
* `consistent_serveAll`: a pool agrees with its ledger, whatever the requests
-/

namespace Provisioning

namespace Pool

/-- A request to a pool. -/
inductive Request where
  /-- The lowest free address is asked for. -/
  | allocate
  /-- A given address is asked for. -/
  | reserve (x : Address)
  /-- An address is given back. -/
  | release (x : Address)
deriving DecidableEq

/-- A request with its answer. -/
inductive Exchange where
  /-- The lowest free address was asked for. -/
  | allocated (answer : Except PoolError Address)
  /-- A given address was asked for. -/
  | reserved (x : Address) (answer : Except PoolError Unit)
  /-- An address was given back. -/
  | released (x : Address) (answer : Except PoolError Unit)

namespace Exchange

/-- The address that was handed out, if the request was not refused. -/
@[simp] def handedOut? : Exchange → Option Address
  | allocated (.ok x) => some x
  | reserved x (.ok _) => some x
  | _ => none

/-- The address that was taken back, if the request was not refused. -/
@[simp] def takenBack? : Exchange → Option Address
  | released x (.ok _) => some x
  | _ => none

end Exchange

/-- The pool answers a request. -/
def serve (pool : Pool) : Request → Exchange × Pool
  | .allocate =>
    let (answer, pool) := pool.allocate
    (.allocated answer, pool)
  | .reserve x =>
    let (answer, pool) := pool.reserve x
    (.reserved x answer, pool)
  | .release x =>
    let (answer, pool) := pool.release x
    (.released x answer, pool)

/-- The pool answers requests, one after another. -/
def serveAll (pool : Pool) : List Request → List Exchange × Pool
  | [] => ([], pool)
  | request :: rest =>
    let (exchange, pool) := pool.serve request
    let (log, pool) := pool.serveAll rest
    (exchange :: log, pool)

/-- In a ledger an address was handed out, and has not been taken back since. -/
def Outstanding (log : List Exchange) (x : Address) : Prop :=
  ∃ before exchange after, log = before ++ exchange :: after ∧ exchange.handedOut? = some x ∧
    ∀ later ∈ after, later.takenBack? ≠ some x

/-- A pool agrees with its ledger since it was made of a range. -/
structure Consistent (range : AddressRange) (log : List Exchange) (pool : Pool) : Prop where
  /-- The pool is still one of that range. -/
  range_eq : pool.range = range
  /-- The addresses in use are those outstanding. -/
  isHeld_iff : ∀ x, pool.isHeld x = true ↔ Outstanding log x
  /-- They lie in the range. -/
  in_range : ∀ x, Outstanding log x → range.contains x = true
  /-- No request is answered with one of them. -/
  fresh : ∀ request x, (pool.serve request).1.handedOut? = some x → ¬ Outstanding log x
  /-- The pool counts them right. -/
  size_eq : pool.held.size = {x | Outstanding log x}.ncard
  /-- They are no more than the range has. -/
  size_le : pool.held.size ≤ range.length
  /-- The free addresses are the others of the range. -/
  available_eq : pool.available = range.length - {x | Outstanding log x}.ncard

/-! ## Ledgers -/

theorem not_outstanding_nil (x : Address) : ¬ Outstanding [] x := by
  rintro ⟨before, exchange, after, hlog, -, -⟩
  exact List.append_ne_nil_of_right_ne_nil _ (List.cons_ne_nil _ _) hlog.symm

theorem outstanding_snoc {log : List Exchange} {exchange : Exchange} {x : Address} :
    Outstanding (log ++ [exchange]) x ↔
      exchange.handedOut? = some x ∨ Outstanding log x ∧ exchange.takenBack? ≠ some x := by
  constructor
  · rintro ⟨before, given, after, hlog, hout, hkept⟩
    -- The address was handed out in the last exchange, or in an earlier one.
    rcases List.eq_nil_or_concat after with rfl | ⟨after, last, rfl⟩
    · obtain ⟨-, he⟩ := List.append_inj' hlog rfl
      obtain rfl := (List.cons.inj he).1
      exact .inl hout
    · rw [List.concat_eq_append, ← List.cons_append, ← List.append_assoc] at hlog
      obtain ⟨rfl, he⟩ := List.append_inj' hlog rfl
      obtain rfl := (List.cons.inj he).1
      rw [List.concat_eq_append] at hkept
      refine .inr ⟨⟨before, given, after, rfl, hout, fun later hl => ?_⟩, ?_⟩
      · exact hkept later (List.mem_append_left _ hl)
      · exact hkept exchange (List.mem_append_right _ (List.mem_singleton_self _))
  · rintro (hout | ⟨⟨before, given, after, rfl, hout, hkept⟩, hnot⟩)
    · exact ⟨log, exchange, [], rfl, hout, fun later hl => absurd hl List.not_mem_nil⟩
    · refine ⟨before, given, after ++ [exchange], by simp, hout, fun later hl => ?_⟩
      rcases List.mem_append.1 hl with hl | hl
      · exact hkept later hl
      · obtain rfl := List.mem_singleton.1 hl
        exact hnot

/-! ## One request -/

theorem range_serve (pool : Pool) (request : Request) :
    (pool.serve request).2.range = pool.range := by
  cases request with
  | allocate =>
    rcases pool.allocate_cases with ⟨-, h⟩ | ⟨x, hx, -, -, h⟩ <;> simp [serve, h]
  | reserve x =>
    rcases pool.reserve_cases x with ⟨-, h⟩ | ⟨-, h⟩ | ⟨hx, -, h⟩ <;> simp [serve, h]
  | release x =>
    rcases pool.release_cases x with ⟨-, h⟩ | ⟨-, h⟩ <;> simp [serve, h]

/-- After a request the pool holds the address that was handed out, and those from before that were
not taken back. -/
theorem mem_held_serve (pool : Pool) (request : Request) (x : Address) :
    x ∈ (pool.serve request).2.held ↔
      (pool.serve request).1.handedOut? = some x ∨
        x ∈ pool.held ∧ (pool.serve request).1.takenBack? ≠ some x := by
  cases request with
  | allocate =>
    rcases pool.allocate_cases with ⟨-, h⟩ | ⟨y, hy, -, -, h⟩
    · simp [serve, h]
    · simp [serve, h, eq_comm]
  | reserve y =>
    rcases pool.reserve_cases y with ⟨-, h⟩ | ⟨-, h⟩ | ⟨hy, -, h⟩
    · simp [serve, h]
    · simp [serve, h]
    · simp [serve, h, eq_comm]
  | release y =>
    rcases pool.release_cases y with ⟨-, h⟩ | ⟨-, h⟩
    · simp [serve, h]
    · simp [serve, h, eq_comm]

/-- **A pool never hands out an address that it holds.** -/
theorem notMem_of_handedOut? {pool : Pool} {request : Request} {x : Address}
    (h : (pool.serve request).1.handedOut? = some x) : x ∉ pool.held := by
  cases request with
  | allocate =>
    rcases pool.allocate_cases with ⟨-, he⟩ | ⟨y, _, -, hmem, he⟩
    · simp [serve, he] at h
    · obtain rfl : y = x := by simpa [serve, he] using h
      exact hmem
  | reserve y =>
    rcases pool.reserve_cases y with ⟨-, he⟩ | ⟨-, he⟩ | ⟨_, hmem, he⟩
    · simp [serve, he] at h
    · simp [serve, he] at h
    · obtain rfl : y = x := by simpa [serve, he] using h
      exact hmem
  | release y => cases h

/-! ## One request after another -/

/-- A pool of a range holds what is outstanding in its ledger. -/
structure Tracks (range : AddressRange) (log : List Exchange) (pool : Pool) : Prop where
  /-- It is a pool of the range. -/
  range_eq : pool.range = range
  /-- It holds what is outstanding. -/
  mem_iff : ∀ x, x ∈ pool.held ↔ Outstanding log x

namespace Tracks

variable {range : AddressRange} {log : List Exchange} {pool : Pool}

theorem ofRange (range : AddressRange) : Tracks range [] (Pool.ofRange range) where
  range_eq := rfl
  mem_iff x := iff_of_false (AddressSet.not_mem_empty x) (not_outstanding_nil x)

theorem serve (h : Tracks range log pool) (request : Request) :
    Tracks range (log ++ [(pool.serve request).1]) (pool.serve request).2 where
  range_eq := (pool.range_serve request).trans h.range_eq
  mem_iff x := by rw [Pool.mem_held_serve, outstanding_snoc, h.mem_iff]

theorem serveAll (h : Tracks range log pool) (requests : List Request) :
    Tracks range (log ++ (pool.serveAll requests).1) (pool.serveAll requests).2 := by
  -- The ledger grows at its end, so it stays general.
  induction requests generalizing log pool with
  | nil => simpa [Pool.serveAll] using h
  | cons request rest ih =>
    have hrest := ih (h.serve request)
    rwa [List.append_assoc] at hrest

theorem consistent (h : Tracks range log pool) : Consistent range log pool := by
  have hsize : pool.held.size = {x | Outstanding log x}.ncard := by
    rw [← AddressSet.ncard_eq]
    congr 1
    ext x
    exact h.mem_iff x
  have hle : pool.held.size ≤ range.length := h.range_eq ▸ pool.size_le
  refine ⟨h.range_eq, fun x => ?_, fun x hx => ?_, fun request x hx => ?_, hsize, hle, ?_⟩
  · rw [Pool.isHeld_iff, h.mem_iff]
  · rw [← h.range_eq]
    exact pool.held_in_range x ((h.mem_iff x).2 hx)
  · rw [← h.mem_iff]
    exact Pool.notMem_of_handedOut? hx
  · rw [Pool.available, h.range_eq, hsize]

end Tracks

/-- **A pool agrees with its ledger**: what it holds is what it handed out and did not take back, it
never hands out an address that it holds, and its count of the free addresses is right, whatever the
requests. -/
theorem consistent_serveAll (range : AddressRange) (requests : List Request) :
    Consistent range ((ofRange range).serveAll requests).1
      ((ofRange range).serveAll requests).2 :=
  ((Tracks.ofRange range).serveAll requests).consistent

end Pool

end Provisioning
