import Provisioning.Proofs.Poll.Carried

/-!
# A cancellation stops a timed poll at once

A timed poll that is cancelled from outside while it goes on ends at the tick of the cancellation,
whether an attempt or a sleep is going on, and keeps the result that it has. A poll that is cancelled
before it starts makes one attempt, and only an attempt that is ready at once counts. Whatever the
attempts do, the poll comes to the cancellation, since every round advances it by a tick.

## Main definitions

* `Timed.NoTimerAt`: no timer of a poll goes off at a tick
* `Timed.StoppedAt`: a cancellation has ended a poll at a tick
* `CancelledAtStart`, `stateAtStart`: a poll is cancelled at its start, and how it ends

## Main results

* `Next.wake_le_cancelTick`: no attempt starts after the cancellation
* `Path.endTick_lt_or`: a poll ends before the cancellation or by it
* `exists_path_cancelled`, `CancelledAtStart.path_of_ready`: a poll that is cancelled ends
* `stops_when_cancelled`: what a cancelled poll comes to
-/

namespace Provisioning.Poll

variable {ε α : Type}

/-! ## Stopped at a tick

At the tick of a timer, a cancellation may come before the timer or after it. At any other tick there
is only one order. -/

namespace Timed

/-- No timer of a poll goes off at a tick. -/
structure NoTimerAt (policy : Policy) (c : Nat) (t : Timed ε α) : Prop where
  /-- The deadline is at another tick. -/
  deadline_ne : timerTicks policy.timeout ≠ c
  /-- No attempt that takes time would end at the tick. -/
  ended_ne : ∀ a ∈ t.started, ∀ n, a.2.ticks? = some n → 0 < n → a.1 + n ≠ c
  /-- No sleep ends at the tick, and so no attempt after the first starts at it. -/
  began_ne : ∀ a ∈ t.started, 0 < a.1 → a.1 ≠ c

/-- A cancellation at a tick has ended a poll at once. -/
structure StoppedAt (c : Nat) (t : Timed ε α) : Prop where
  /-- The poll counts as cancelled. -/
  state_eq : t.outcome.state = .cancelled
  /-- It ended at the tick. -/
  endTick_eq : t.endTick = c
  /-- The time that it took is that up to the tick. -/
  elapsed_eq : t.outcome.elapsed = .ofMillis c
  /-- It has started no attempt after the tick. -/
  started_le : ∀ a ∈ t.started, a.1 ≤ c
  /-- The attempts that count were complete by the tick. -/
  ended_le : ∀ a ∈ t.completed, a.ended ≤ c
  /-- An attempt that does not count was going on then. -/
  running : t.completed.length < t.started.length → t.RunningAtEnd
  /-- The result is that of the last attempt that counts. -/
  result_eq : t.outcome.result = t.results.getLast?

section NoTimerAt

variable {scene : Scene ε α} {policy : Policy} {p : Progress ε α} {t : Timed ε α} {c e : Nat}

theorem NoTimerAt.of_withAttempt (h : (scene.withAttempt p e t).NoTimerAt policy c) :
    t.NoTimerAt policy c where
  deadline_ne := h.deadline_ne
  ended_ne a ha := h.ended_ne a (List.mem_cons_of_mem _ ha)
  began_ne a ha := h.began_ne a (List.mem_cons_of_mem _ ha)

theorem NoTimerAt.attempt_ne (h : (scene.withAttempt p e t).NoTimerAt policy c) :
    ∀ n, (scene.step p.made).ticks? = some n → 0 < n → p.tick + n ≠ c :=
  h.ended_ne (p.tick, scene.step p.made) List.mem_cons_self

end NoTimerAt

end Timed

namespace Scene

variable {scene : Scene ε α} {accepts : Except ε α → Bool} {policy : Policy} {p : Progress ε α}
  {t : Timed ε α} {c e wake : Nat}

/-! ## The rounds before a cancellation -/

section Interrupted

variable (hcan : scene.cancellable = true) (hc : scene.cancelTick = some c)

include hcan hc

theorem noticeTick?_eq (now : Nat) (cancelled : Bool) :
    scene.noticeTick? now cancelled = some (if cancelled then now else max now c) := by
  cases cancelled
  · simp [noticeTick?, hcan, hc]
  · rfl

/-- What comes before the notice of a cancellation comes before the cancellation. -/
theorem le_of_unnoticed {now : Nat} {cancelled : Bool}
    (h : ∀ n, scene.noticeTick? now cancelled = some n → e ≤ n) : e ≤ max now c := by
  have hle := h _ (noticeTick?_eq hcan hc now cancelled)
  split at hle
  · exact Nat.le_trans hle (Nat.le_max_left now c)
  · exact hle

/-- No attempt starts after the cancellation. -/
theorem Next.wake_le_cancelTick (next : scene.Next accepts policy p e wake)
    (hi : .zero < policy.interval) : wake ≤ c := by
  obtain ⟨rfl, hnotice⟩ := rest_eq_ok next.rest
  have hle := le_of_unnoticed hcan hc hnotice
  have hpos := timerTicks_pos hi
  omega

/-- An attempt that starts by the cancellation and is completed is complete by it. -/
theorem completed_le_cancelTick (wait : scene.waitAt policy p = .completed e) (hs : p.tick ≤ c) :
    e ≤ c := by
  obtain ⟨n, -, rfl, rfl | ⟨-, hnotice⟩⟩ := await_eq_completed wait
  · exact hs
  · exact Nat.max_eq_right hs ▸ le_of_unnoticed hcan hc hnotice

/-- An attempt that starts before the cancellation and is completed is complete before it, unless it
would end at its very tick. -/
theorem completed_lt (wait : scene.waitAt policy p = .completed e) (hs : p.tick < c)
    (hne : ∀ n, (scene.step p.made).ticks? = some n → 0 < n → p.tick + n ≠ c) : e < c := by
  have hle := completed_le_cancelTick hcan hc wait (Nat.le_of_lt hs)
  obtain ⟨n, hn, rfl, -⟩ := await_eq_completed wait
  have hne := hne n hn
  omega

/-- What a poll notices is the cancellation, or one before it. -/
theorem lt_or_eq_of_noticed {now : Nat} {cancelled : Bool}
    (h : scene.noticeTick? now cancelled = some e) (hnow : now < c) : e < c ∨ e = c := by
  rw [noticeTick?_eq hcan hc] at h
  obtain rfl := Option.some.inj h
  split
  · exact .inl hnow
  · exact .inr (Nat.max_eq_right (Nat.le_of_lt hnow))

/-! ## Along every way to the end -/

variable (hi : .zero < policy.interval)

include hi

/-- A sleep that ends before the cancellation ends at an earlier tick. -/
theorem Next.wake_lt_cancelTick (next : scene.Next accepts policy p e wake)
    (path : scene.Path accepts policy (scene.pointAfter p wake) t) (hfree : t.NoTimerAt policy c) :
    wake < c :=
  Nat.lt_of_le_of_ne (next.wake_le_cancelTick hcan hc hi)
    (hfree.began_ne _ path.mem_started (Nat.zero_lt_of_lt (next.lt_wake hi)))

namespace Path

theorem started_le_cancelTick (h : scene.Path accepts policy p t) (hs : p.tick ≤ c) :
    ∀ a ∈ t.started, a.1 ≤ c :=
  h.forall_started (I := fun p => p.tick ≤ c)
    (fun _ _ _ next _ => next.wake_le_cancelTick hcan hc hi) (fun _ hs => hs) hs

theorem ended_le_cancelTick (h : scene.Path accepts policy p t) (hs : p.tick ≤ c) :
    ∀ a ∈ t.completed, a.ended ≤ c :=
  h.forall_completed (I := fun p => p.tick ≤ c)
    (fun _ _ _ next _ => next.wake_le_cancelTick hcan hc hi)
    (fun _ _ wait hs => completed_le_cancelTick hcan hc wait hs) hs

/-- **A poll ends before the cancellation, or by it.** -/
theorem endTick_lt_or (h : scene.Path accepts policy p t) (hs : p.tick < c)
    (hfree : t.NoTimerAt policy c) :
    t.endTick < c ∨ t.endTick = c ∧ t.outcome.state = .cancelled := by
  induction h with
  | @cutByDeadline p e wait =>
    obtain ⟨rfl, -, hdeadline⟩ := await_eq_deadline wait
    -- The deadline comes first, and by assumption not at the same tick.
    have hle : timerTicks policy.timeout ≤ c := by
      obtain hle | hnotice := hdeadline
      · exact Nat.le_trans hle (Nat.le_of_lt hs)
      · exact Nat.max_eq_right (Nat.le_of_lt hs) ▸ le_of_unnoticed hcan hc hnotice
    exact .inl (Nat.max_lt.2 ⟨hs, Nat.lt_of_le_of_ne hle hfree.deadline_ne⟩)
  | cutByCancel wait =>
    obtain ⟨hnotice, -, -⟩ := await_eq_cancelled wait
    exact (lt_or_eq_of_noticed hcan hc hnotice hs).imp_right fun he => ⟨he, rfl⟩
  | converged wait => exact .inl (completed_lt hcan hc wait hs hfree.attempt_ne)
  | timedOut wait => exact .inl (completed_lt hcan hc wait hs hfree.attempt_ne)
  | cancelled wait _ _ rest =>
    -- The sleep starts before the cancellation, so it ends by it.
    have hlt := completed_lt hcan hc wait hs hfree.attempt_ne
    exact (lt_or_eq_of_noticed hcan hc (rest_eq_error rest).1 hlt).imp_right fun he => ⟨he, rfl⟩
  | again next path ih =>
    have hrest := hfree.of_withAttempt
    exact ih (next.wake_lt_cancelTick hcan hc hi path hrest) hrest

end Path

/-- A poll comes to a cancellation from outside, unless it ends before: every round takes a tick. -/
theorem exists_path_cancelled (accepts : Except ε α → Bool) :
    ∃ t, scene.Path accepts policy scene.origin t ∧ t.started.length ≤ c + 1 := by
  -- No round wakes after the cancellation, so the ticks that are left until then go down.
  refine exists_path_of_lt (m := fun p => c - p.tick) (fun p e wake next => ?_) scene.origin
  have hlt := next.lt_wake hi
  have hle := next.wake_le_cancelTick hcan hc hi
  rw [tick_pointAfter]
  omega

end Interrupted

/-! ## Cancelled at the start -/

/-- The poll is cancelled before it starts, or at its very start. -/
def CancelledAtStart (scene : Scene ε α) : Prop :=
  scene.cancellable = true ∧ (scene.cancelledFirst = true ∨ scene.cancelTick = some 0)

theorem late_zero_iff : Late policy 0 ↔ policy.timeout < policy.interval := by
  rw [Late, Span.ofMillis_zero, Span.zero_add]

namespace CancelledAtStart

variable (hstart : scene.CancelledAtStart)

include hstart

theorem noticeTick?_eq (cancelled : Bool) :
    scene.noticeTick? 0 (scene.origin.cancelled || cancelled) = some 0 := by
  obtain ⟨hcan, hfirst | hc⟩ := hstart
  · simp [noticeTick?, origin, hcan, hfirst]
  · rw [Scene.noticeTick?_eq hcan hc]
    simp

/-- An attempt that is not ready at once is cut off. -/
theorem waitAt_eq_cancelled (ht : .zero < policy.timeout)
    (hticks : (scene.step 0).ticks? ≠ some 0) : scene.waitAt policy scene.origin = .cancelled 0 := by
  have hnotice := hstart.noticeTick?_eq false
  rw [Bool.or_false] at hnotice
  have hpos := timerTicks_pos ht
  cases hwait : scene.waitAt policy scene.origin with
  | completed e =>
    -- Only an attempt that is ready comes before a cancellation that is there from the first.
    obtain ⟨n, hn, rfl, rfl | ⟨-, hle⟩⟩ := await_eq_completed hwait
    · exact absurd hn hticks
    · obtain rfl : n = 0 := by simpa [origin] using hle 0 hnotice
      exact absurd hn hticks
  | deadline e =>
    obtain ⟨-, -, hle | hle⟩ := await_eq_deadline hwait
    · exact absurd hle (Nat.not_le_of_lt hpos)
    · exact absurd (hle 0 hnotice) (Nat.not_le_of_lt hpos)
  | cancelled e =>
    rw [← Option.some.inj ((await_eq_cancelled hwait).1.symm.trans hnotice)]

/-- There is no sleep. -/
theorem restAt_eq_error (hi : .zero < policy.interval) :
    scene.restAt policy scene.origin 0 = .error 0 := by
  have hnotice := hstart.noticeTick?_eq (scene.cancellable && (scene.step 0).cancels)
  have hpos := timerTicks_pos hi
  cases hrest : scene.restAt policy scene.origin 0 with
  | error e => rw [← Option.some.inj ((rest_eq_error hrest).1.symm.trans hnotice)]
  | ok wake =>
    obtain ⟨rfl, hle⟩ := rest_eq_ok hrest
    have := hle 0 hnotice
    omega

end CancelledAtStart

/-- How a poll that is cancelled at its start ends, if its first attempt is ready at once. -/
def stateAtStart (accepts : Except ε α → Bool) (policy : Policy) (r : Except ε α) : State :=
  if accepts r then .converged
  else if policy.timeout < policy.interval then .timedOut
  else .cancelled

theorem CancelledAtStart.path_of_ready (hstart : scene.CancelledAtStart)
    (hi : .zero < policy.interval) (accepts : Except ε α → Bool)
    (hready : (scene.step 0).ticks? = some 0) :
    scene.Path accepts policy scene.origin (scene.withAttempt scene.origin 0
      (scene.endAt scene.origin (stateAtStart accepts policy (scene.step 0).result) 0)) := by
  have wait : scene.waitAt policy scene.origin = .completed 0 := if_pos hready
  rw [stateAtStart]
  split
  · next accepted => exact .converged wait accepted
  next rejected =>
  have rejected := Bool.eq_false_iff.2 rejected
  split
  · next late => exact .timedOut wait rejected (late_zero_iff.2 late)
  · next due =>
    exact .cancelled wait rejected (mt late_zero_iff.1 due) (hstart.restAt_eq_error hi)

/-! ## The poll -/

/-- **A cancellation stops a timed poll at once.** A poll that has not ended before the tick of a
cancellation ends at it, with the result of its last completed attempt, and starts no attempt later.
A poll that is cancelled at its start makes one attempt. If that is not ready at once it does not
count; otherwise its result decides, then the time left, and the poll does not sleep. -/
theorem stops_when_cancelled (scene : Scene ε α) (accepts : Except ε α → Bool)
    (hcan : scene.cancellable = true) (hi : .zero < policy.interval) (ht : .zero < policy.timeout) :
    (∀ c, 0 < c → scene.cancelTick = some c → ∃ t,
      (∀ limit, c < limit → scene.poll accepts policy limit = some t) ∧
      (t.NoTimerAt policy c → c ≤ t.endTick → t.StoppedAt c)) ∧
    (scene.cancelledFirst = true ∨ scene.cancelTick = some 0 → ∃ t,
      (∀ limit, 0 < limit → scene.poll accepts policy limit = some t) ∧
      t.started = [(0, scene.step 0)] ∧ t.endTick = 0 ∧
      ((scene.step 0).ticks? ≠ some 0 → t.outcome = ⟨none, .cancelled, .zero, 1⟩) ∧
      ((scene.step 0).ticks? = some 0 →
        t.outcome =
          ⟨some (scene.step 0).result, stateAtStart accepts policy (scene.step 0).result,
            .zero, 1⟩)) := by
  refine ⟨fun c hpos hc => ?_, fun hstart => ?_⟩
  · obtain ⟨t, hpath, hlength⟩ := exists_path_cancelled hcan hc hi accepts
    refine ⟨t, fun limit hl => hpath.pollFrom_eq (Nat.le_trans hlength hl), fun hfree hlast => ?_⟩
    obtain hlt | ⟨hend, hstate⟩ := hpath.endTick_lt_or hcan hc hi hpos hfree
    · exact absurd hlast (Nat.not_le_of_lt hlt)
    refine ⟨hstate, hend, hend ▸ hpath.elapsed_eq,
      hpath.started_le_cancelTick hcan hc hi (Nat.zero_le c),
      hpath.ended_le_cancelTick hcan hc hi (Nat.zero_le c), fun hcut => (hpath.cut_off hcut).1, ?_⟩
    rw [hpath.result_eq, origin, Option.or_none]
  · have hstart : scene.CancelledAtStart := ⟨hcan, hstart⟩
    by_cases hready : (scene.step 0).ticks? = some 0
    · have hpath := hstart.path_of_ready hi accepts hready
      refine ⟨_, fun limit hl => hpath.pollFrom_eq hl, rfl, rfl, fun h => absurd hready h,
        fun _ => ?_⟩
      rw [outcome_withAttempt, outcome_endAt, Span.ofMillis_zero]
      rfl
    · have hpath : scene.Path accepts policy scene.origin _ :=
        .cutByCancel (hstart.waitAt_eq_cancelled ht hready)
      refine ⟨_, fun limit hl => hpath.pollFrom_eq hl, rfl, rfl, fun _ => ?_,
        fun h => absurd h hready⟩
      show (⟨none, .cancelled, .ofMillis 0, counted 1⟩ : Outcome ε α) = _
      rw [Span.ofMillis_zero]
      rfl

/-- A poll of 300 ms with an attempt every 10 ms, cancelled after 25 ms, in its third sleep. -/
theorem stops_when_cancelled_asleep :
    let scene : Scene Unit Unit := { step := fun _ => { result := .ok () }, cancelTick := some 25 }
    let policy : Policy := { timeout := .ofMillis 300, interval := .ofMillis 10 }
    ∃ t, scene.poll (fun _ => false) policy 26 = some t ∧ t.NoTimerAt policy 25 ∧
      25 ≤ t.endTick ∧ t.outcome.attempts = 3 ∧ t.StoppedAt 25 := by
  intro scene policy
  obtain ⟨t, hlimit, hstopped⟩ := (stops_when_cancelled scene (fun _ => false) rfl
    (show .zero < policy.interval by decide +kernel) (by decide +kernel)).1 25 (by decide) rfl
  have hrun := hlimit 26 (by decide)
  have hshape : (scene.poll (fun _ => false) policy 26).map (fun t =>
      (t.endTick, t.outcome.attempts, t.started.map fun a => (a.1, a.2.ticks?))) =
        some (25, 3, [(0, some 0), (10, some 0), (20, some 0)]) := by
    decide +kernel
  rw [hrun] at hshape
  obtain ⟨hend, hrest⟩ := Prod.mk.inj (Option.some.inj hshape)
  obtain ⟨hattempts, hstarted⟩ := Prod.mk.inj hrest
  have hmem : ∀ a ∈ t.started, a.2.ticks? = some 0 ∧ a.1 ≠ 25 := by
    intro a ha
    have hmap := List.mem_map_of_mem (f := fun a => (a.1, a.2.ticks?)) ha
    rw [hstarted] at hmap
    grind
  have hfree : t.NoTimerAt policy 25 := by
    refine ⟨by decide +kernel, fun a ha n hn hpos => ?_, fun a ha _ => (hmem a ha).2⟩
    rw [(hmem a ha).1] at hn
    exact absurd (Option.some.inj hn) (Nat.ne_of_lt hpos)
  exact ⟨t, hrun, hfree, Nat.le_of_eq hend.symm, hattempts, hstopped hfree (Nat.le_of_eq hend.symm)⟩

end Scene

end Provisioning.Poll
