import Provisioning.Proofs.Poll.Bounded
import Provisioning.Proofs.Poll.Rounds

/-!
# Timed polls are cut off at their deadline

A timed poll ends by its deadline, rounded up to a whole tick, and starts no attempt after it,
whatever its attempts do and whenever it is cancelled. The policy may be faulty; only with an
interval of no length a poll may go on forever, and then it does so before the deadline. Timers round
up to ticks, so what is due by the deadline in nanoseconds is due by it in ticks.

## Main results

* `add_timerTicks_le`: another attempt that is due starts by the deadline
* `Reached.tick_le`, `Path.endTick_le`, `Path.started_le`: nothing happens after the deadline
* `Next.spare_lt`: every round uses up an interval
* `cut_off_at_deadline`: all this for a poll from its start
-/

namespace Provisioning.Poll

variable {ε α : Type}

namespace Scene

variable {scene : Scene ε α} {accepts : Except ε α → Bool} {policy : Policy} {p : Progress ε α}
  {t : Timed ε α} {e wake : Nat}

/-! ## Time up to the deadline -/

theorem not_late_iff (hp : policy.timeout ≤ .ofSeconds 946080000) :
    ¬ Late policy e ↔
      e * Span.nanosPerMilli + policy.interval.nanos ≤ policy.timeout.nanos := by
  have hd : policy.timeout < Span.longest := Nat.lt_of_le_of_lt hp (by decide +kernel)
  rw [not_lt_add_iff hd, Span.nanos_ofMillis]
  rw [Span.lt_def] at hd
  omega

theorem interval_le (hp : policy.timeout ≤ .ofSeconds 946080000) (due : ¬ Late policy e) :
    policy.interval ≤ .ofSeconds 946080000 := by
  have hdue := (not_late_iff hp).1 due
  exact Nat.le_trans (by omega) hp

/-- An attempt that is due an interval after a tick starts by the deadline. -/
theorem add_timerTicks_le (hp : policy.timeout ≤ .ofSeconds 946080000) (due : ¬ Late policy e) :
    e + timerTicks policy.interval ≤ timerTicks policy.timeout := by
  have hdue := (not_late_iff hp).1 due
  -- The tick is whole, so rounding up the interval after it rounds up the sum.
  rw [timerTicks_eq_millisUp hp, timerTicks_eq_millisUp (interval_le hp due)]
  show e + (policy.interval.nanos + 999999) / 1000000 ≤ (policy.timeout.nanos + 999999) / 1000000
  have hdue : e * 1000000 + policy.interval.nanos ≤ policy.timeout.nanos := hdue
  omega

/-- An attempt is complete by the deadline, if it started by then. -/
theorem completed_le (wait : scene.waitAt policy p = .completed e)
    (hs : p.tick ≤ timerTicks policy.timeout) : e ≤ timerTicks policy.timeout := by
  obtain ⟨n, -, rfl, rfl | ⟨hle, -⟩⟩ := await_eq_completed wait
  · exact hs
  · exact hle

theorem Next.wake_le (next : scene.Next accepts policy p e wake)
    (hp : policy.timeout ≤ .ofSeconds 946080000) : wake ≤ timerTicks policy.timeout := by
  obtain ⟨rfl, -⟩ := rest_eq_ok next.rest
  exact add_timerTicks_le hp next.due

/-- A timer rounds up, so a sleep lasts at least its interval. -/
theorem Next.add_interval_le (next : scene.Next accepts policy p e wake)
    (hp : policy.timeout ≤ .ofSeconds 946080000) :
    e * Span.nanosPerMilli + policy.interval.nanos ≤ wake * Span.nanosPerMilli := by
  obtain ⟨rfl, -⟩ := rest_eq_ok next.rest
  rw [timerTicks_eq_millisUp (interval_le hp next.due), Span.millisUp, Nat.add_mul]
  have hround : ∀ n, n ≤ (n + 999999) / 1000000 * 1000000 := by omega
  exact Nat.add_le_add_left (hround policy.interval.nanos) _

/-- Every round uses up an interval. -/
theorem Next.spare_lt (next : scene.Next accepts policy p e wake)
    (hp : policy.timeout ≤ .ofSeconds 946080000) (hi : .zero < policy.interval) :
    spare policy policy.timeout (.ofMillis wake) <
      spare policy policy.timeout (.ofMillis p.tick) := by
  have hi : 0 < policy.interval.nanos := hi
  obtain ⟨n, -, he, -⟩ := await_eq_completed next.wait
  have hdue := (not_late_iff hp).1 next.due
  have hstart : (Span.ofMillis p.tick).nanos ≤ e * Span.nanosPerMilli :=
    Nat.le_trans (Nat.min_le_left _ _) (Nat.mul_le_mul_right _ (he ▸ Nat.le_add_right p.tick n))
  -- The sum is due by the deadline, so it is not cut at the longest span.
  have hwake : e * Span.nanosPerMilli + policy.interval.nanos ≤ (Span.ofMillis wake).nanos :=
    Nat.le_min.2 ⟨next.add_interval_le hp, Nat.le_trans hdue policy.timeout.nanos_le_longest⟩
  rw [spare, spare, ← Nat.add_one_le_iff, ← Nat.add_div_right _ hi]
  exact Nat.div_le_div_right (by omega)

/-! ## Nothing happens after the deadline -/

theorem Reached.tick_le (h : scene.Reached accepts policy p)
    (hp : policy.timeout ≤ .ofSeconds 946080000) : p.tick ≤ timerTicks policy.timeout := by
  cases h with
  | origin => exact Nat.zero_le _
  | next _ next => exact next.wake_le hp

namespace Path

theorem started_le (h : scene.Path accepts policy p t)
    (hp : policy.timeout ≤ .ofSeconds 946080000) (hs : p.tick ≤ timerTicks policy.timeout) :
    ∀ a ∈ t.started, a.1 ≤ timerTicks policy.timeout :=
  h.forall_started (I := fun p => p.tick ≤ timerTicks policy.timeout)
    (fun _ _ _ next _ => next.wake_le hp) (fun _ hs => hs) hs

theorem endTick_le (h : scene.Path accepts policy p t)
    (hp : policy.timeout ≤ .ofSeconds 946080000) (hs : p.tick ≤ timerTicks policy.timeout) :
    t.endTick ≤ timerTicks policy.timeout := by
  induction h with
  | cutByDeadline wait =>
    obtain ⟨rfl, -, -⟩ := await_eq_deadline wait
    exact Nat.max_le.2 ⟨hs, Nat.le_refl _⟩
  | cutByCancel wait => exact Nat.le_of_lt (await_eq_cancelled wait).2.1
  | converged wait => exact completed_le wait hs
  | timedOut wait => exact completed_le wait hs
  | cancelled wait _ due rest =>
    -- A cancellation ends the sleep before its time, and the sleep would end by the deadline.
    exact Nat.le_trans (rest_eq_error rest).2 (add_timerTicks_le hp due)
  | again next _ ih => exact ih (next.wake_le hp)

end Path

/-! ## The poll -/

/-- **A timed poll is cut off at its deadline**, rounded up to a whole tick. By then every poll that
ends has ended, and no poll starts an attempt later. With a positive interval a poll does end, after
at most one attempt for each interval of the timeout and one more. -/
theorem cut_off_at_deadline (scene : Scene ε α) (accepts : Except ε α → Bool)
    (hp : policy.timeout ≤ .ofSeconds 946080000) :
    (∀ limit t, scene.poll accepts policy limit = some t →
      t.outcome.elapsed.nanos ≤ policy.timeout.millisUp * Span.nanosPerMilli ∧
        ∀ a ∈ t.started, a.1 ≤ policy.timeout.millisUp) ∧
    (∀ p, scene.Reached accepts policy p → p.tick ≤ policy.timeout.millisUp) ∧
    (.zero < policy.interval → ∃ t,
      t.started.length ≤ policy.timeout.nanos / policy.interval.nanos + 1 ∧
      ∀ limit, policy.timeout.nanos / policy.interval.nanos + 1 ≤ limit →
        scene.poll accepts policy limit = some t) := by
  rw [← timerTicks_eq_millisUp hp]
  refine ⟨fun limit t h => ?_, fun p h => h.tick_le hp, fun hi => ?_⟩
  · have hpath : scene.Path accepts policy scene.origin t := exists_path h
    refine ⟨?_, hpath.started_le hp (Nat.zero_le _)⟩
    rw [hpath.elapsed_eq, Span.nanos_ofMillis]
    exact Nat.le_trans (Nat.min_le_left _ _)
      (Nat.mul_le_mul_right _ (hpath.endTick_le hp (Nat.zero_le _)))
  · obtain ⟨t, hpath, hlength⟩ : ∃ t, scene.Path accepts policy scene.origin t ∧
        t.started.length ≤ spare policy policy.timeout (.ofMillis 0) + 1 :=
      exists_path_of_lt (m := fun p => spare policy policy.timeout (.ofMillis p.tick))
        (fun _ _ _ next => next.spare_lt hp hi) scene.origin
    rw [Span.ofMillis_zero] at hlength
    exact ⟨t, hlength, fun limit hl => hpath.pollFrom_eq (Nat.le_trans hlength hl)⟩

/-- A poll of a millisecond and a half with an attempt every 400 microseconds, of which each hangs
but the first: the timers round up to whole milliseconds. -/
theorem cut_off_at_deadline_rounded :
    let scene : Scene Unit Unit := { step := fun n => { result := .error (), hangs := n != 0 } }
    let policy : Policy := { timeout := .ofNanos 1500000, interval := .ofNanos 400000 }
    ∃ t, scene.poll (fun _ => false) policy 4 = some t ∧ t.outcome.elapsed = .ofMillis 2 ∧
      t.outcome.elapsed.nanos ≤ 2 * Span.nanosPerMilli ∧ t.started.length ≤ 4 := by
  intro scene policy
  have hp : policy.timeout ≤ .ofSeconds 946080000 := by decide +kernel
  have hfour : policy.timeout.nanos / policy.interval.nanos + 1 = 4 := by decide +kernel
  have htwo : policy.timeout.millisUp = 2 := by decide +kernel
  obtain ⟨hended, -, hends⟩ := cut_off_at_deadline scene (fun _ => false) hp
  obtain ⟨t, hlength, hrun⟩ := hends (by decide +kernel)
  have hrun := hrun 4 (Nat.le_of_eq hfour)
  have helapsed : (scene.poll (fun _ => false) policy 4).map (·.outcome.elapsed) =
      some (.ofMillis 2) := by
    decide +kernel
  rw [hrun] at helapsed
  have hle : t.outcome.elapsed.nanos ≤ 2 * Span.nanosPerMilli :=
    htwo ▸ (hended 4 t hrun).1
  exact ⟨t, hrun, Option.some.inj helapsed, hle, Nat.le_trans hlength (Nat.le_of_eq hfour)⟩

end Scene

end Provisioning.Poll
