import Provisioning.Command.Session

/-!
# Runs of sessions

What a run over a state comes to, apart from what it prints and reports: step by step, up to the
first failure. A run without a failure is told with all that it prints and reports.

## Main definitions

* `Session.Yields`: a run from a state comes to a result and another state
* `Session.Finishes`: a run from a transcript and a state comes to a value, another transcript and
  another state

## Main results

* `Session.Yields.bind`, `Session.Yields.bind_error`: the runs of two steps in a row
* `Session.Yields.exists_transcript`: such a run has a transcript
* `Session.finishes_bind_iff`: a run without a failure has none in any step
-/

namespace Provisioning.Session

open Log Terminal

variable {σ α β ε : Type} {x : Session (StateM σ) α} {f : α → Session (StateM σ) β}
  {before between after : σ} {a : α} {e : CommandError}

/-- A run from a state comes to a result and another state, whatever was printed and reported so
far. -/
def Yields (x : Session (StateM σ) α) (before : σ) (result : Except CommandError α) (after : σ) :
    Prop :=
  ∀ t, ∃ t', (ExceptT.run x).run t before = ((result, t'), after)

/-- The next step runs from what the first one leaves, unless that failed. -/
theorem run_bind (x : Session (StateM σ) α) (f : α → Session (StateM σ) β) (t : Transcript)
    (before : σ) :
    (ExceptT.run (x >>= f)).run t before =
      match (ExceptT.run x).run t before with
      | ((.ok a, t'), between) => (ExceptT.run (f a)).run t' between
      | ((.error e, t'), between) => ((.error e, t'), between) := by
  change (match (ExceptT.run x).run t before with
    | ((r, t'), between) => (ExceptT.bindCont f r).run t' between) = _
  rcases (ExceptT.run x).run t before with ⟨⟨- | a, t'⟩, between⟩ <;> rfl

/-- After a step that does not fail the next one runs. -/
theorem Yields.bind {result : Except CommandError β} (hx : Yields x before (.ok a) between)
    (hf : Yields (f a) between result after) : Yields (x >>= f) before result after := by
  intro t
  obtain ⟨t', hx⟩ := hx t
  obtain ⟨t'', hf⟩ := hf t'
  refine ⟨t'', ?_⟩
  rw [run_bind, hx]
  exact hf

/-- After a failure nothing else runs. -/
theorem Yields.bind_error (hx : Yields x before (.error e) after) :
    Yields (x >>= f) before (.error e) after := by
  intro t
  obtain ⟨t', hx⟩ := hx t
  exact ⟨t', by rw [run_bind, hx]⟩

theorem yields_pure (a : α) (before : σ) : Yields (pure a) before (.ok a) before :=
  fun t => ⟨t, rfl⟩

theorem yields_perform (x : StateM σ α) (before : σ) :
    Yields (perform x) before (.ok (x before).1) (x before).2 :=
  fun t => ⟨t, rfl⟩

theorem yields_print (text : String) (before : σ) : Yields (print text) before (.ok ()) before :=
  fun _ => ⟨_, rfl⟩

theorem yields_notice (styled : Bool) (kind : Notice) (message : String) (before : σ) :
    Yields (notice styled kind message) before (.ok ()) before :=
  yields_print _ before

theorem yields_note (entry : Entry) (before : σ) : Yields (note entry) before (.ok ()) before :=
  fun _ => ⟨_, rfl⟩

theorem yields_require_ok {r : Except ε α} (cause : ε → CommandError) (h : r = .ok a) (before : σ) :
    Yields (require cause r) before (.ok a) before := by
  subst h
  exact yields_pure a before

theorem yields_require_error {r : Except ε α} {fault : ε} (cause : ε → CommandError)
    (h : r = .error fault) (before : σ) :
    Yields (require cause r) before (.error (cause fault)) before := by
  subst h
  exact fun t => ⟨t, rfl⟩

/-- A run that comes to a result has a transcript. -/
theorem Yields.exists_transcript {result : Except CommandError α}
    (h : Yields x before result after) : ∃ t, transcript x before = ((result, t), after) :=
  h {}

/-! ## Runs without a failure -/

/-- A run from a transcript and a state comes to a value, another transcript and another state. -/
def Finishes (x : Session (StateM σ) α) (t : Transcript) (before : σ) (a : α) (t' : Transcript)
    (after : σ) : Prop :=
  (ExceptT.run x).run t before = ((.ok a, t'), after)

variable {t t' : Transcript} {b : β}

/-- **A run finishes if and only if its first step does, and the next one from there.** -/
theorem finishes_bind_iff : Finishes (x >>= f) t before b t' after ↔
    ∃ a u between, Finishes x t before a u between ∧ Finishes (f a) u between b t' after := by
  unfold Finishes
  rw [run_bind]
  constructor
  · intro h
    rcases hx : (ExceptT.run x).run t before with ⟨⟨e | a, u⟩, between⟩
    · rw [hx] at h
      cases h
    · rw [hx] at h
      exact ⟨a, u, between, rfl, h⟩
  · rintro ⟨a, u, between, hx, hf⟩
    rw [hx]
    exact hf

theorem finishes_require_iff {r : Except ε α} {cause : ε → CommandError} :
    Finishes (require cause r) t before a t' after ↔ r = .ok a ∧ t' = t ∧ after = before := by
  constructor
  · intro h
    cases r with
    | error fault => cases h
    | ok value =>
      cases h
      exact ⟨rfl, rfl, rfl⟩
  · rintro ⟨rfl, rfl, rfl⟩
    rfl

theorem finishes_perform_iff {y : StateM σ α} :
    Finishes (perform y) t before a t' after ↔ y before = (a, after) ∧ t' = t := by
  constructor
  · intro h
    cases h
    exact ⟨rfl, rfl⟩
  · rintro ⟨hy, rfl⟩
    change ((Except.ok (y before).1, t'), (y before).2) = _
    rw [hy]

theorem finishes_logged_iff {y : Logged α} : Finishes (logged y) t before a t' after ↔
    a = y.value ∧ t' = { t with entries := t.entries ++ y.entries } ∧ after = before := by
  constructor
  · intro h
    cases h
    exact ⟨rfl, rfl, rfl⟩
  · rintro ⟨rfl, rfl, rfl⟩
    rfl

theorem finishes_print_iff {text : String} {u : Unit} : Finishes (print text) t before u t' after ↔
    t' = { t with printed := t.printed ++ text } ∧ after = before := by
  constructor
  · intro h
    cases h
    exact ⟨rfl, rfl⟩
  · rintro ⟨rfl, rfl⟩
    rfl

theorem finishes_of_transcript (h : (transcript x before).1.1 = .ok a) :
    Finishes x {} before a (transcript x before).1.2 (transcript x before).2 :=
  Prod.ext (Prod.ext h rfl) rfl

end Provisioning.Session
