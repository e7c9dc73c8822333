import Provisioning.Proofs.Poll.Rounds
import Provisioning.Proofs.Poll.Truthful

/-!
# The outcome of a timed poll carries the last completed result

The outcome that a timed poll returns, against the attempts that it has started and completed. An
attempt that is cut off counts as an attempt, but leaves the result as it was. Nothing is asked of
the policy, of the attempts or of the cancellation.

## Main definitions

* `Timed.RunningAtEnd`: the last attempt was going on when the poll ended
* `Scene.CancelledDuring`: the poll was cancelled while it went on
* `Scene.Carries`: the outcome agrees with the attempts

## Main results

* `Path.attempts_eq`, `Path.result_eq`, `Path.rejected`, `Path.converged_iff`, `Path.cut_off`: what
  holds along every way to the end of a poll
* `carries_last_completed`: the outcome of a poll that ends agrees with its attempts
-/

namespace Provisioning.Poll

variable {ε α : Type}

namespace Timed

/-- The last attempt was going on when the poll ended. -/
def RunningAtEnd (t : Timed ε α) : Prop :=
  ∃ began step, t.started.getLast? = some (began, step) ∧
    ∀ n, step.ticks? = some n → t.endTick < began + n

end Timed

namespace Scene

/-- A poll was cancelled while it went on: by an attempt that it completed, or from outside. -/
def CancelledDuring (scene : Scene ε α) (t : Timed ε α) : Prop :=
  scene.cancellable = true ∧
    ((∃ a ∈ t.completed, a.step.cancels = true) ∨ ∃ c, scene.cancelTick = some c ∧ c ≤ t.endTick)

/-- The outcome of a poll agrees with the attempts that it has started and completed. -/
structure Carries (scene : Scene ε α) (accepts : Except ε α → Bool) (policy : Policy)
    (t : Timed ε α) : Prop where
  /-- The attempts started are counted. -/
  attempts_eq : t.outcome.attempts = t.started.length
  /-- The attempts completed are the first ones of those started. -/
  completed_prefix : t.completed.map (fun a => (a.began, a.step)) <+: t.started
  /-- They are all of them, but possibly the last. -/
  length_le : t.started.length ≤ t.completed.length + 1
  /-- An attempt is complete after its time. -/
  ended_eq : ∀ a ∈ t.completed, ∃ n, a.step.ticks? = some n ∧ a.ended = a.began + n
  /-- The result is that of the last attempt completed. -/
  result_eq : t.outcome.result = t.results.getLast?
  /-- There is none exactly if no attempt was completed. -/
  result_none : t.outcome.result = none ↔ t.completed = []
  /-- Then there was only one attempt. -/
  attempts_of_none : t.outcome.result = none → t.outcome.attempts = 1
  /-- All results before the last one were rejected. -/
  rejected : ∀ r ∈ t.results.dropLast, accepts r = false
  /-- The poll converged exactly if the last attempt was completed and its result is accepted. -/
  converged_iff : t.outcome.state = .converged ↔
    t.completed.length = t.started.length ∧ ∃ r, t.results.getLast? = some r ∧ accepts r = true
  /-- A poll whose last attempt was not completed has timed out if the deadline was there, and was
  cancelled otherwise. -/
  cut_off : t.completed.length < t.started.length → t.RunningAtEnd ∧
    (timerTicks policy.timeout ≤ t.endTick ∧ t.outcome.state = .timedOut ∨
      t.endTick < timerTicks policy.timeout ∧
        (scene.cancellable = true ∧ scene.cancelledFirst = true ∨ scene.CancelledDuring t) ∧
        t.outcome.state = .cancelled)
  /-- A poll that converged comes to its last result, unchanged. -/
  toResult_converged : t.outcome.state = .converged →
    ∀ onStopped, t.results.getLast? = some (t.outcome.toResult onStopped)
  /-- Any other poll comes to the caller's error, whatever result it carries. -/
  toResult_stopped : t.outcome.state ≠ .converged →
    ∀ onStopped, t.outcome.toResult onStopped =
      .error (onStopped t.outcome.elapsed t.outcome.attempts)

/-! ## Along every way to the end -/

variable {scene : Scene ε α} {accepts : Except ε α → Bool} {policy : Policy} {p : Progress ε α}
  {t : Timed ε α}

namespace Path

theorem attempts_eq (h : scene.Path accepts policy p t) :
    t.outcome.attempts = counted (p.made + t.started.length) := by
  induction h with
  | cutByDeadline => rfl
  | cutByCancel => rfl
  | converged => rfl
  | timedOut => rfl
  | cancelled => rfl
  | again _ _ ih =>
    rw [outcome_withAttempt, ih, started_withAttempt, List.length_cons, made_pointAfter]
    congr 1
    omega

theorem completed_prefix (h : scene.Path accepts policy p t) :
    t.completed.map (fun a => (a.began, a.step)) <+: t.started := by
  induction h with
  | cutByDeadline => exact List.nil_prefix
  | cutByCancel => exact List.nil_prefix
  | converged => exact List.prefix_rfl
  | timedOut => exact List.prefix_rfl
  | cancelled => exact List.prefix_rfl
  | again _ _ ih => exact List.cons_prefix_cons.2 ⟨rfl, ih⟩

theorem length_le (h : scene.Path accepts policy p t) :
    t.started.length ≤ t.completed.length + 1 := by
  induction h with
  | cutByDeadline => exact Nat.le_refl 1
  | cutByCancel => exact Nat.le_refl 1
  | converged => exact Nat.le_succ 1
  | timedOut => exact Nat.le_succ 1
  | cancelled => exact Nat.le_succ 1
  | again _ _ ih => exact Nat.succ_le_succ ih

theorem ended_eq (h : scene.Path accepts policy p t) :
    ∀ a ∈ t.completed, ∃ n, a.step.ticks? = some n ∧ a.ended = a.began + n := by
  refine h.forall_completed (I := fun _ => True) (fun _ _ _ _ => id) (fun p e wait _ => ?_) trivial
  obtain ⟨n, hn, he, -⟩ := await_eq_completed wait
  exact ⟨n, hn, he⟩

theorem result_eq (h : scene.Path accepts policy p t) :
    t.outcome.result = t.results.getLast?.or p.last := by
  induction h with
  | cutByDeadline => rfl
  | cutByCancel => rfl
  | converged => rfl
  | timedOut => rfl
  | cancelled => rfl
  | @again p e wake t _ _ ih =>
    -- The rest of the poll carries this result on, until it completes an attempt itself.
    rw [outcome_withAttempt, ih, results_withAttempt, List.getLast?_cons, Option.some_or,
      last_pointAfter]
    cases t.results.getLast? <;> rfl

theorem rejected (h : scene.Path accepts policy p t) :
    ∀ r ∈ t.results.dropLast, accepts r = false := by
  induction h with
  | cutByDeadline => exact List.forall_mem_nil _
  | cutByCancel => exact List.forall_mem_nil _
  | converged => exact List.forall_mem_nil _
  | timedOut => exact List.forall_mem_nil _
  | cancelled => exact List.forall_mem_nil _
  | @again p e wake t next _ ih =>
    rw [results_withAttempt]
    -- If no attempt is completed later, the result of this one is the last and may be either.
    by_cases hnil : t.results = []
    · rw [hnil]
      exact List.forall_mem_nil _
    · rw [List.dropLast_cons_of_ne_nil hnil]
      exact List.forall_mem_cons.2 ⟨next.rejected, ih⟩

theorem converged_iff (h : scene.Path accepts policy p t) :
    t.outcome.state = .converged ↔
      t.completed.length = t.started.length ∧
        ∃ r, t.results.getLast? = some r ∧ accepts r = true := by
  induction h with
  | cutByDeadline => exact iff_of_false nofun nofun
  | cutByCancel => exact iff_of_false nofun nofun
  | converged _ accepted => simp [accepted]
  | timedOut _ rejected => simp [rejected]
  | cancelled _ rejected => simp [rejected]
  | @again p e wake t next path ih =>
    rw [outcome_withAttempt, ih, completed_withAttempt, started_withAttempt, results_withAttempt,
      List.length_cons, List.length_cons, Nat.add_right_cancel_iff]
    refine and_congr_right fun hl => ?_
    -- The rest starts an attempt; if it completes all that it starts, it has a last result.
    have hne : t.results ≠ [] := by
      have hpos := path.length_started_pos
      rw [Timed.results, Ne, List.map_eq_nil_iff, ← List.length_eq_zero_iff]
      omega
    rw [List.getLast?_cons_of_ne_nil hne]

theorem cut_off (h : scene.Path accepts policy p t)
    (hcut : t.completed.length < t.started.length) : t.RunningAtEnd ∧
      (timerTicks policy.timeout ≤ t.endTick ∧ t.outcome.state = .timedOut ∨
        t.endTick < timerTicks policy.timeout ∧
          (p.cancelled = true ∨ scene.CancelledDuring t) ∧
          t.outcome.state = .cancelled) := by
  induction h with
  | @cutByDeadline p e wait =>
    -- An attempt that starts at the deadline or later is cut off where it starts.
    obtain ⟨rfl, hrunning, -⟩ := await_eq_deadline wait
    exact ⟨⟨_, _, rfl, hrunning⟩, .inl ⟨Nat.le_max_right _ _, rfl⟩⟩
  | @cutByCancel p e wait =>
    obtain ⟨hnotice, hlt, hrunning⟩ := await_eq_cancelled wait
    refine ⟨⟨_, _, rfl, hrunning⟩, .inr ⟨hlt, ?_, rfl⟩⟩
    obtain ⟨hc, -⟩ | ⟨-, hcan, c, htick, rfl⟩ := noticeTick?_cases hnotice
    · exact .inl hc
    · exact .inr ⟨hcan, .inr ⟨c, htick, Nat.le_max_right _ _⟩⟩
  | converged => exact absurd hcut (Nat.lt_irrefl 1)
  | timedOut => exact absurd hcut (Nat.lt_irrefl 1)
  | cancelled => exact absurd hcut (Nat.lt_irrefl 1)
  | @again p e wake t next path ih =>
    obtain ⟨⟨began, step, hlast, hrunning⟩, hcause⟩ := ih (Nat.lt_of_succ_lt_succ hcut)
    refine ⟨⟨began, step, ?_, hrunning⟩, hcause.imp_right ?_⟩
    · have hne : t.started ≠ [] := List.length_pos_iff.1 path.length_started_pos
      rw [started_withAttempt, List.getLast?_cons_of_ne_nil hne, hlast]
    rintro ⟨hlt, hc, hstate⟩
    refine ⟨hlt, ?_, hstate⟩
    obtain hc | ⟨hcan, ⟨a, ha, hc⟩ | hc⟩ := hc
    · -- The attempt of this round has cancelled the poll, if an earlier one has not.
      rw [cancelled_pointAfter, cancelledAfter, Bool.or_eq_true, Bool.and_eq_true] at hc
      exact hc.imp_right fun ⟨hcan, hc⟩ => ⟨hcan, .inl ⟨_, List.mem_cons_self, hc⟩⟩
    · exact .inr ⟨hcan, .inl ⟨a, List.mem_cons_of_mem _ ha, hc⟩⟩
    · exact .inr ⟨hcan, .inr hc⟩

end Path

/-! ## The outcome -/

/-- **The outcome of a timed poll carries the last completed result**, whenever the poll ends after
fewer than `2 ^ 32` attempts. -/
theorem carries_last_completed {limit : Nat} (h : scene.poll accepts policy limit = some t)
    (hcount : t.started.length < 0x100000000) : scene.Carries accepts policy t := by
  have hp : scene.Path accepts policy scene.origin t := exists_path h
  have hattempts : t.outcome.attempts = t.started.length := by
    rw [hp.attempts_eq, origin, Nat.zero_add, counted_of_lt hcount]
  have hresult : t.outcome.result = t.results.getLast? := by
    rw [hp.result_eq, origin, Option.or_none]
  have hnone : t.outcome.result = none ↔ t.completed = [] := by
    rw [hresult, List.getLast?_eq_none_iff, Timed.results, List.map_eq_nil_iff]
  refine ⟨hattempts, hp.completed_prefix, hp.length_le, hp.ended_eq, hresult, hnone, fun hn => ?_,
    hp.rejected, hp.converged_iff, fun hcut => ?_, fun hs onStopped => ?_,
    fun hs => Outcome.toResult_of_not_converged hs⟩
  · have hle := hp.length_le
    rw [hnone.1 hn] at hle
    rw [hattempts]
    exact Nat.le_antisymm hle hp.length_started_pos
  · obtain ⟨hrunning, hcause⟩ := hp.cut_off hcut
    refine ⟨hrunning, hcause.imp_right fun ⟨hlt, hc, hstate⟩ => ⟨hlt, ?_, hstate⟩⟩
    exact hc.imp_left Bool.and_eq_true_iff.1
  · obtain ⟨-, r, hr, -⟩ := hp.converged_iff.1 hs
    rw [hr, Outcome.toResult_of_converged hs (hresult.trans hr)]

/-- A poll of three seconds whose second attempt hangs: it times out and carries the result of the
first. -/
theorem carries_last_completed_hung :
    let scene : Scene String Unit :=
      { step := fun n => { result := .error "pending", hangs := n == 1 } }
    let policy : Policy := { timeout := .ofSeconds 3, interval := .ofSeconds 1 }
    ∃ t, scene.poll Except.isOk policy 2 = some t ∧ t.outcome.error? = some "pending" ∧
      t.started.length = 2 ∧ t.completed.length = 1 ∧ scene.Carries Except.isOk policy t := by
  intro scene policy
  have hrun : (scene.poll Except.isOk policy 2).map (fun t =>
      (t.outcome.error?, t.started.length, t.completed.length)) = some (some "pending", 2, 1) := by
    decide +kernel
  obtain ⟨t, h, ht⟩ := Option.map_eq_some_iff.1 hrun
  obtain ⟨herror, hlengths⟩ := Prod.mk.inj ht
  obtain ⟨hstarted, hcompleted⟩ := Prod.mk.inj hlengths
  exact ⟨t, h, herror, hstarted, hcompleted, carries_last_completed h (by omega)⟩

end Scene

end Provisioning.Poll
