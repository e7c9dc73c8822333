import Mathlib.Logic.Function.Iterate
import Provisioning.Poll.Timed

/-!
# The rounds of a timed poll

A timed poll goes from attempt to attempt. This module says once what one round can do: how the wait
for its attempt ends, how the sleep after it ends, and by which exit the poll leaves. All that holds
of whole polls follows by induction on the ways to the end.

## Main definitions

* `Completed`, `Timed.completed`, `Timed.results`: the attempts that a poll has completed
* `Timed.endTick`: the tick at which it ended
* `Scene.waitAt`, `Scene.restAt`: the wait and the sleep of the round at a point of a poll
* `Scene.round`: one round, followed by the rest of the poll
* `Scene.Next`: a round after which the poll goes on
* `Scene.Path`: the ways from a point to the end of a poll, one round after another
* `Scene.Reached`: the points that a poll comes to, whether it ends or not

## Main results

* `Scene.await_eq_completed`, `Scene.await_eq_deadline`, `Scene.await_eq_cancelled`,
  `Scene.rest_eq_error`, `Scene.rest_eq_ok`: what the end of a wait and of a sleep tells
* `Scene.pollFrom_succ`, `Scene.pollFrom_add`: a poll is made of its rounds
* `Scene.round_cases`: a round goes on to the rest from the next point, or it ends the poll
* `Scene.reached_iff`, `Scene.Reached.poll_eq`: the points reached are those from which a poll goes
  on after some rounds
* `Scene.exists_path`, `Scene.Path.pollFrom_eq`: a poll ends if and only if it goes such a way
* `Scene.Path.forall_started`, `Scene.Path.forall_completed`: what an invariant of the rounds says
  about the attempts
* `Scene.exists_path_of_lt`: a poll ends if a measure goes down from round to round
-/

namespace Provisioning.Poll

variable {ε α : Type}

/-! ## What a poll has completed -/

/-- An attempt that was completed. -/
structure Completed (ε α : Type) where
  /-- The tick at which it started. -/
  began : Nat
  /-- The attempt. -/
  step : Step ε α
  /-- The tick at which it was complete. -/
  ended : Nat

namespace Timed

/-- The tick of an event, if an attempt was completed. -/
def completion? : Nat × Event → Option Nat
  | (tick, .attempted _ _) => some tick
  | _ => none

/-- The tick of an event, if the poll ended. -/
def finish? : Nat × Event → Option Nat
  | (tick, .finished _ _ _) => some tick
  | _ => none

/-- The attempts that a poll has completed, in order. -/
def completed (t : Timed ε α) : List (Completed ε α) :=
  List.zipWith (fun (began, step) ended => { began, step, ended }) t.started
    (t.events.filterMap completion?)

/-- The results of these attempts. -/
def results (t : Timed ε α) : List (Except ε α) := t.completed.map (·.step.result)

/-- The tick at which a poll ended. -/
def endTick (t : Timed ε α) : Nat := (t.events.findSome? finish?).getD 0

end Timed

namespace Scene

/-! ## Waits and sleeps

What a wait or a sleep came to says when it ended and what cannot have come before. The proofs about
polls use only this, and not in which order a wait looks at its exits. -/

section Waits

variable {scene : Scene ε α} {deadline now e made : Nat} {cancelled : Bool} {ticks : Option Nat}
  {interval : Span}

/-- What a poll notices is an earlier cancellation, or the one from outside. -/
theorem noticeTick?_cases (h : scene.noticeTick? now cancelled = some e) :
    cancelled = true ∧ e = now ∨
      cancelled = false ∧ scene.cancellable = true ∧
        ∃ c, scene.cancelTick = some c ∧ e = max now c := by
  rw [noticeTick?] at h
  split at h
  · next hc => exact .inl ⟨hc, (Option.some.inj h).symm⟩
  next hc =>
  split at h
  · next hcan =>
    obtain ⟨c, htick, rfl⟩ := Option.map_eq_some_iff.1 h
    exact .inr ⟨Bool.eq_false_iff.2 hc, hcan, c, htick, rfl⟩
  · cases h

/-- An attempt is complete at once, or in time and before a cancellation is noticed. -/
theorem await_eq_completed (h : scene.await deadline now cancelled ticks = .completed e) :
    ∃ n, ticks = some n ∧ e = now + n ∧
      (n = 0 ∨ e ≤ deadline ∧ ∀ c, scene.noticeTick? now cancelled = some c → e ≤ c) := by
  -- Of the exits of the wait, only the first and that of an attempt in time complete it.
  unfold await at h
  grind

/-- The deadline cuts off an attempt that goes on, before a cancellation is noticed or because it was
there from the first. -/
theorem await_eq_deadline (h : scene.await deadline now cancelled ticks = .deadline e) :
    e = max now deadline ∧ (∀ n, ticks = some n → e < now + n) ∧
      (deadline ≤ now ∨ ∀ c, scene.noticeTick? now cancelled = some c → deadline ≤ c) := by
  unfold await at h
  grind

/-- A cancellation cuts off an attempt that goes on, as soon as it is noticed and before the
deadline. -/
theorem await_eq_cancelled (h : scene.await deadline now cancelled ticks = .cancelled e) :
    scene.noticeTick? now cancelled = some e ∧ e < deadline ∧
      ∀ n, ticks = some n → e < now + n := by
  unfold await at h
  grind

/-- A cancellation ends a sleep as soon as it is noticed. -/
theorem rest_eq_error (h : scene.rest interval made now cancelled = .error e) :
    scene.noticeTick? now cancelled = some e ∧ e ≤ now + timerTicks interval := by
  rw [rest] at h
  grind

/-- A sleep ends after its time, before a cancellation is noticed or just when it is. -/
theorem rest_eq_ok (h : scene.rest interval made now cancelled = .ok e) :
    e = now + timerTicks interval ∧ ∀ c, scene.noticeTick? now cancelled = some c → e ≤ c := by
  rw [rest] at h
  grind

end Waits

/-! ## The ways to the end of a poll

A round waits for its attempt and sleeps, unless the attempt ends the poll. What these two come to
tells the exits of a round apart. -/

section Path

variable (scene : Scene ε α) (accepts : Except ε α → Bool) (policy : Policy)

/-- How the wait for the attempt at a point ends. -/
def waitAt (p : Progress ε α) : Wait :=
  scene.await (timerTicks policy.timeout) p.tick p.cancelled (scene.step p.made).ticks?

/-- Whether the poll has been cancelled, as far as it can tell after its attempt at a point. -/
def cancelledAfter (p : Progress ε α) : Bool :=
  p.cancelled || (scene.cancellable && (scene.step p.made).cancels)

/-- How the sleep after the attempt at a point ends, which is complete at a tick. -/
def restAt (p : Progress ε α) (e : Nat) : Except Nat Nat :=
  scene.rest policy.interval p.made e (scene.cancelledAfter p)

/-- The point after the attempt at a point and a sleep until a tick. -/
def pointAfter (p : Progress ε α) (wake : Nat) : Progress ε α where
  tick := wake
  made := p.made + 1
  last := some (scene.step p.made).result
  cancelled := scene.cancelledAfter p

@[simp] theorem tick_pointAfter (p : Progress ε α) (wake : Nat) :
    (scene.pointAfter p wake).tick = wake := rfl

@[simp] theorem made_pointAfter (p : Progress ε α) (wake : Nat) :
    (scene.pointAfter p wake).made = p.made + 1 := rfl

@[simp] theorem last_pointAfter (p : Progress ε α) (wake : Nat) :
    (scene.pointAfter p wake).last = some (scene.step p.made).result := rfl

@[simp] theorem cancelled_pointAfter (p : Progress ε α) (wake : Nat) :
    (scene.pointAfter p wake).cancelled = scene.cancelledAfter p := rfl

/-- A poll from a point on, by what comes after its attempt, which is complete at a tick. -/
def withAttempt (p : Progress ε α) (e : Nat) (t : Timed ε α) : Timed ε α :=
  (t.after e (.attempted (counted (p.made + 1)) (.ofMillis e))).start p.tick (scene.step p.made)

/-- The end of a poll whose attempt at a point is complete. -/
def endAt (p : Progress ε α) (state : State) (e : Nat) : Timed ε α :=
  Timed.finish (some (scene.step p.made).result) state e (counted (p.made + 1))

/-- A poll whose attempt at a point is cut off at a tick. -/
def cutAt (p : Progress ε α) (state : State) (event : Nat → Event) (e : Nat) : Timed ε α :=
  ((Timed.finish p.last state e (counted (p.made + 1))).after e (event (counted (p.made + 1)))).start
    p.tick (scene.step p.made)

section Projections

variable (p : Progress ε α) (e : Nat) (state : State) (t : Timed ε α)

@[simp] theorem outcome_withAttempt : (scene.withAttempt p e t).outcome = t.outcome := rfl

@[simp] theorem started_withAttempt :
    (scene.withAttempt p e t).started = (p.tick, scene.step p.made) :: t.started := rfl

@[simp] theorem completed_withAttempt :
    (scene.withAttempt p e t).completed = ⟨p.tick, scene.step p.made, e⟩ :: t.completed := rfl

@[simp] theorem results_withAttempt :
    (scene.withAttempt p e t).results = (scene.step p.made).result :: t.results := rfl

@[simp] theorem endTick_withAttempt : (scene.withAttempt p e t).endTick = t.endTick := rfl

@[simp] theorem outcome_endAt :
    (scene.endAt p state e).outcome =
      ⟨some (scene.step p.made).result, state, .ofMillis e, counted (p.made + 1)⟩ := rfl

@[simp] theorem started_endAt : (scene.endAt p state e).started = [] := rfl

@[simp] theorem completed_endAt : (scene.endAt p state e).completed = [] := rfl

@[simp] theorem results_endAt : (scene.endAt p state e).results = [] := rfl

@[simp] theorem endTick_endAt : (scene.endAt p state e).endTick = e := rfl

end Projections

/-- No attempt would start by the deadline after one that is complete at a tick. -/
abbrev Late (e : Nat) : Prop := policy.timeout < .ofMillis e + policy.interval

/-- The round at a point, by its exits in their order. A poll that goes on does so with `rest`, from
the next point. -/
def round (rest : Progress ε α → Option (Timed ε α)) (p : Progress ε α) : Option (Timed ε α) :=
  match scene.waitAt policy p with
  | .deadline e => some (scene.cutAt p .timedOut .cutByDeadline e)
  | .cancelled e => some (scene.cutAt p .cancelled .cutByCancel e)
  | .completed e =>
    Option.map (scene.withAttempt p e)
      (if accepts (scene.step p.made).result then some (scene.endAt p .converged e)
      else if Late policy e then some (scene.endAt p .timedOut e)
      else
        match scene.restAt policy p e with
        | .error c => some (scene.endAt p .cancelled c)
        | .ok wake => rest (scene.pointAfter p wake))

/-- The attempt at a point is complete at tick `e`, and the poll goes on with another at tick
`wake`. -/
structure Next (p : Progress ε α) (e wake : Nat) : Prop where
  /-- The attempt is complete. -/
  wait : scene.waitAt policy p = .completed e
  /-- Its result is rejected. -/
  rejected : accepts (scene.step p.made).result = false
  /-- There is time for another. -/
  due : ¬ Late policy e
  /-- Nothing ends the sleep early. -/
  rest : scene.restAt policy p e = .ok wake

/-- The ways from a point to the end of a poll. -/
inductive Path : Progress ε α → Timed ε α → Prop where
  /-- The deadline cuts the attempt off. -/
  | cutByDeadline {p : Progress ε α} {e : Nat} (wait : scene.waitAt policy p = .deadline e) :
      Path p (scene.cutAt p .timedOut .cutByDeadline e)
  /-- A cancellation cuts the attempt off. -/
  | cutByCancel {p : Progress ε α} {e : Nat} (wait : scene.waitAt policy p = .cancelled e) :
      Path p (scene.cutAt p .cancelled .cutByCancel e)
  /-- The result is accepted. -/
  | converged {p : Progress ε α} {e : Nat} (wait : scene.waitAt policy p = .completed e)
      (accepted : accepts (scene.step p.made).result = true) :
      Path p (scene.withAttempt p e (scene.endAt p .converged e))
  /-- The next attempt would start after the deadline. -/
  | timedOut {p : Progress ε α} {e : Nat} (wait : scene.waitAt policy p = .completed e)
      (rejected : accepts (scene.step p.made).result = false) (late : Late policy e) :
      Path p (scene.withAttempt p e (scene.endAt p .timedOut e))
  /-- A cancellation ends the sleep. -/
  | cancelled {p : Progress ε α} {e c : Nat} (wait : scene.waitAt policy p = .completed e)
      (rejected : accepts (scene.step p.made).result = false) (due : ¬ Late policy e)
      (rest : scene.restAt policy p e = .error c) :
      Path p (scene.withAttempt p e (scene.endAt p .cancelled c))
  /-- The poll goes on. -/
  | again {p : Progress ε α} {e wake : Nat} {t : Timed ε α}
      (next : scene.Next accepts policy p e wake) (path : Path (scene.pointAfter p wake) t) :
      Path p (scene.withAttempt p e t)

/-- The point from which a poll starts. -/
def origin : Progress ε α where
  cancelled := scene.cancellable && scene.cancelledFirst

/-- The points that a poll comes to; `reached_iff` tells them by its rounds. -/
inductive Reached : Progress ε α → Prop where
  /-- It starts. -/
  | origin : Reached scene.origin
  /-- It goes on after a round. -/
  | next {p : Progress ε α} {e wake : Nat} (reached : Reached p)
      (next : scene.Next accepts policy p e wake) : Reached (scene.pointAfter p wake)

variable {scene accepts policy}

/-- A poll is a round, and then the poll from the next point. -/
theorem pollFrom_succ (limit : Nat) (p : Progress ε α) :
    scene.pollFrom accepts policy (limit + 1) p =
      scene.round accepts policy (scene.pollFrom accepts policy limit) p := by
  have hwait : scene.await (timerTicks policy.timeout) p.tick p.cancelled
      (scene.step p.made).ticks? = scene.waitAt policy p := rfl
  simp only [pollFrom, round, hwait]
  cases scene.waitAt policy p with
  | deadline e => rfl
  | cancelled e => rfl
  | completed e => rw [Option.map_map]; rfl

/-- The first rounds of a poll come before the poll from the point that they lead to. -/
theorem pollFrom_add (limit n : Nat) :
    scene.pollFrom accepts policy (limit + n) =
      (scene.round accepts policy)^[n] (scene.pollFrom accepts policy limit) := by
  induction n with
  | zero => rfl
  | succ n ih =>
    rw [Function.iterate_succ_apply', ← ih]
    exact funext (pollFrom_succ (limit + n))

section Exits

variable {p : Progress ε α} {e c wake : Nat} (rest : Progress ε α → Option (Timed ε α))

theorem round_cutByDeadline (wait : scene.waitAt policy p = .deadline e) :
    scene.round accepts policy rest p = some (scene.cutAt p .timedOut .cutByDeadline e) := by
  simp only [round, wait]

theorem round_cutByCancel (wait : scene.waitAt policy p = .cancelled e) :
    scene.round accepts policy rest p = some (scene.cutAt p .cancelled .cutByCancel e) := by
  simp only [round, wait]

theorem round_converged (wait : scene.waitAt policy p = .completed e)
    (accepted : accepts (scene.step p.made).result = true) :
    scene.round accepts policy rest p =
      some (scene.withAttempt p e (scene.endAt p .converged e)) := by
  simp [round, wait, accepted]

theorem round_timedOut (wait : scene.waitAt policy p = .completed e)
    (rejected : accepts (scene.step p.made).result = false) (late : Late policy e) :
    scene.round accepts policy rest p =
      some (scene.withAttempt p e (scene.endAt p .timedOut e)) := by
  simp [round, wait, rejected, late]

theorem round_cancelled (wait : scene.waitAt policy p = .completed e)
    (rejected : accepts (scene.step p.made).result = false) (due : ¬ Late policy e)
    (sleep : scene.restAt policy p e = .error c) :
    scene.round accepts policy rest p =
      some (scene.withAttempt p e (scene.endAt p .cancelled c)) := by
  simp [round, wait, rejected, due, sleep]

theorem Next.round_eq (next : scene.Next accepts policy p e wake) :
    scene.round accepts policy rest p =
      (rest (scene.pointAfter p wake)).map (scene.withAttempt p e) := by
  simp [round, next.wait, next.rejected, next.due, next.rest]

end Exits

variable (scene accepts policy) in
/-- A round goes on to the rest from the next point, or it ends the poll whatever the rest is. -/
theorem round_cases (p : Progress ε α) :
    (∃ e wake, scene.Next accepts policy p e wake) ∨
      ∃ t, scene.Path accepts policy p t ∧ t.started.length = 1 ∧
        ∀ rest, scene.round accepts policy rest p = some t := by
  cases wait : scene.waitAt policy p with
  | deadline e => exact .inr ⟨_, .cutByDeadline wait, rfl, (round_cutByDeadline · wait)⟩
  | cancelled e => exact .inr ⟨_, .cutByCancel wait, rfl, (round_cutByCancel · wait)⟩
  | completed e =>
    cases rejected : accepts (scene.step p.made).result with
    | true =>
      exact .inr ⟨_, .converged wait rejected, rfl, (round_converged · wait rejected)⟩
    | false =>
      by_cases late : Late policy e
      · exact .inr ⟨_, .timedOut wait rejected late, rfl, (round_timedOut · wait rejected late)⟩
      cases sleep : scene.restAt policy p e with
      | error c =>
        exact .inr ⟨_, .cancelled wait rejected late sleep, rfl,
          (round_cancelled · wait rejected late sleep)⟩
      | ok wake => exact .inl ⟨e, wake, wait, rejected, late, sleep⟩

variable (scene accepts policy) in
/-- The first rounds of a poll lead to a point that it reaches, or the poll is over after them. -/
theorem iterate_round_cases (n : Nat) :
    (∃ q f, scene.Reached accepts policy q ∧
        ∀ rest, (scene.round accepts policy)^[n] rest scene.origin = (rest q).map f) ∨
      ∃ t, ∀ rest, (scene.round accepts policy)^[n] rest scene.origin = some t := by
  induction n with
  | zero => exact .inl ⟨scene.origin, id, .origin, fun rest => Option.map_id_apply.symm⟩
  | succ n ih =>
    simp only [Function.iterate_succ_apply]
    obtain ⟨q, f, reached, hrest⟩ | ⟨t, hover⟩ := ih
    · obtain ⟨e, wake, next⟩ | ⟨t, -, -, hround⟩ := scene.round_cases accepts policy q
      · refine .inl ⟨_, f ∘ scene.withAttempt q e, .next reached next, fun rest => ?_⟩
        rw [hrest, next.round_eq, Option.map_map]
      · exact .inr ⟨f t, fun rest => by rw [hrest, hround, Option.map_some]⟩
    · exact .inr ⟨t, fun rest => hover _⟩

/-- **A poll reaches just the points from which it goes on after some rounds**: these rounds add to
the rest of the poll from that point, and look at it from no other. -/
theorem reached_iff {p : Progress ε α} :
    scene.Reached accepts policy p ↔
      ∃ n f, ∀ rest, (scene.round accepts policy)^[n] rest scene.origin = (rest p).map f := by
  constructor
  · intro h
    induction h with
    | origin => exact ⟨0, id, fun rest => Option.map_id_apply.symm⟩
    | @next p e wake _ next ih =>
      obtain ⟨n, f, hrest⟩ := ih
      refine ⟨n + 1, f ∘ scene.withAttempt p e, fun rest => ?_⟩
      rw [Function.iterate_succ_apply, hrest, next.round_eq, Option.map_map]
  · classical
    rintro ⟨n, f, hp⟩
    obtain ⟨q, g, reached, hq⟩ | ⟨t, hover⟩ := scene.iterate_round_cases accepts policy n
    · -- A rest that ends from every point but the one reached tells the two apart.
      let rest : Progress ε α → Option (Timed ε α) := fun x =>
        if x = q then none else some (scene.endAt p .converged 0)
      have hrest : (rest p).map f = (rest q).map g := (hp rest).symm.trans (hq rest)
      by_cases heq : p = q
      · exact heq ▸ reached
      · simp [rest, heq] at hrest
    · cases (hover fun _ => none).symm.trans (hp fun _ => none)

/-- From a point that it reaches, a poll goes on as a poll from there, with what has been before. -/
theorem Reached.poll_eq {p : Progress ε α} (h : scene.Reached accepts policy p) :
    ∃ n f, ∀ limit, scene.poll accepts policy (limit + n) =
      (scene.pollFrom accepts policy limit p).map f := by
  obtain ⟨n, f, hrest⟩ := reached_iff.1 h
  refine ⟨n, f, fun limit => ?_⟩
  show scene.pollFrom accepts policy (limit + n) scene.origin = _
  rw [pollFrom_add, hrest]

/-- **A poll that ends has gone such a way.** -/
theorem exists_path {limit : Nat} {p : Progress ε α} {t : Timed ε α}
    (h : scene.pollFrom accepts policy limit p = some t) :
    scene.Path accepts policy p t := by
  -- By induction on the limit; a round goes on to the rest, or it is the last one.
  induction limit generalizing p t with
  | zero => cases h
  | succ limit ih =>
    rw [pollFrom_succ] at h
    obtain ⟨e, wake, next⟩ | ⟨t', path, -, hround⟩ := scene.round_cases accepts policy p
    · rw [next.round_eq] at h
      obtain ⟨t, ht, rfl⟩ := Option.map_eq_some_iff.1 h
      exact .again next (ih ht)
    · obtain rfl := Option.some.inj ((hround _).symm.trans h)
      exact path

namespace Path

variable {p : Progress ε α} {t : Timed ε α}

theorem mem_started (h : scene.Path accepts policy p t) :
    (p.tick, scene.step p.made) ∈ t.started := by
  cases h <;> exact List.mem_cons_self

theorem length_started_pos (h : scene.Path accepts policy p t) : 1 ≤ t.started.length :=
  List.length_pos_of_mem h.mem_started

section Invariant

variable {I : Progress ε α → Prop}
  (hnext : ∀ p e wake, scene.Next accepts policy p e wake → I p → I (scene.pointAfter p wake))

include hnext

/-- What holds at every point that keeps an invariant of the rounds holds of every attempt. -/
theorem forall_started {Q : Nat × Step ε α → Prop}
    (hQ : ∀ p, I p → Q (p.tick, scene.step p.made)) (h : scene.Path accepts policy p t) (hp : I p) :
    ∀ a ∈ t.started, Q a := by
  induction h with
  | cutByDeadline => exact List.forall_mem_singleton.2 (hQ _ hp)
  | cutByCancel => exact List.forall_mem_singleton.2 (hQ _ hp)
  | converged => exact List.forall_mem_singleton.2 (hQ _ hp)
  | timedOut => exact List.forall_mem_singleton.2 (hQ _ hp)
  | cancelled => exact List.forall_mem_singleton.2 (hQ _ hp)
  | again next _ ih => exact List.forall_mem_cons.2 ⟨hQ _ hp, ih (hnext _ _ _ next hp)⟩

/-- What holds wherever an attempt is complete, at a point that keeps an invariant of the rounds,
holds of every attempt that was completed. -/
theorem forall_completed {Q : Completed ε α → Prop}
    (hQ : ∀ p e, scene.waitAt policy p = .completed e → I p → Q ⟨p.tick, scene.step p.made, e⟩)
    (h : scene.Path accepts policy p t) (hp : I p) : ∀ a ∈ t.completed, Q a := by
  induction h with
  | cutByDeadline => exact List.forall_mem_nil _
  | cutByCancel => exact List.forall_mem_nil _
  | converged wait => exact List.forall_mem_singleton.2 (hQ _ _ wait hp)
  | timedOut wait => exact List.forall_mem_singleton.2 (hQ _ _ wait hp)
  | cancelled wait => exact List.forall_mem_singleton.2 (hQ _ _ wait hp)
  | again next _ ih =>
    exact List.forall_mem_cons.2 ⟨hQ _ _ next.wait hp, ih (hnext _ _ _ next hp)⟩

end Invariant

theorem pollFrom_eq (h : scene.Path accepts policy p t) {limit : Nat}
    (hl : t.started.length ≤ limit) : scene.pollFrom accepts policy limit p = some t := by
  -- Every round uses up one attempt of the limit.
  induction limit generalizing p t with
  | zero => exact absurd h.length_started_pos (Nat.not_lt.2 hl)
  | succ limit ih =>
    rw [pollFrom_succ]
    cases h with
    | cutByDeadline wait => exact round_cutByDeadline _ wait
    | cutByCancel wait => exact round_cutByCancel _ wait
    | converged wait accepted => exact round_converged _ wait accepted
    | timedOut wait rejected late => exact round_timedOut _ wait rejected late
    | cancelled wait rejected due rest => exact round_cancelled _ wait rejected due rest
    | again next path => rw [next.round_eq, ih path (Nat.le_of_succ_le_succ hl), Option.map_some]

end Path

/-- A round takes a tick, if the interval is positive. -/
theorem Next.lt_wake {p : Progress ε α} {e wake : Nat} (next : scene.Next accepts policy p e wake)
    (hi : .zero < policy.interval) : p.tick < wake := by
  obtain ⟨n, -, rfl, -⟩ := await_eq_completed next.wait
  obtain ⟨rfl, -⟩ := rest_eq_ok next.rest
  have hpos := timerTicks_pos hi
  omega

theorem Path.elapsed_eq {p : Progress ε α} {t : Timed ε α} (h : scene.Path accepts policy p t) :
    t.outcome.elapsed = .ofMillis t.endTick := by
  induction h with
  | cutByDeadline => rfl
  | cutByCancel => rfl
  | converged => rfl
  | timedOut => rfl
  | cancelled => rfl
  | again _ _ ih => exact ih

/-- **A poll ends if a measure goes down from round to round**, after no more rounds than the measure
allows. -/
theorem exists_path_of_lt {m : Progress ε α → Nat}
    (h : ∀ p e wake, scene.Next accepts policy p e wake → m (scene.pointAfter p wake) < m p)
    (p : Progress ε α) : ∃ t, scene.Path accepts policy p t ∧ t.started.length ≤ m p + 1 := by
  -- Either a round is the last one, or the measure of the point after it is smaller.
  induction hm : m p using Nat.strongRecOn generalizing p with
  | ind n ih =>
    subst hm
    obtain ⟨e, wake, next⟩ | ⟨t, path, hlength, -⟩ := scene.round_cases accepts policy p
    · obtain ⟨t, path, hl⟩ := ih _ (h p e wake next) _ rfl
      exact ⟨_, .again next path, Nat.succ_le_succ (Nat.le_trans hl (h p e wake next))⟩
    · exact ⟨t, path, hlength.symm ▸ Nat.le_add_left 1 _⟩

end Path

end Scene

end Provisioning.Poll
