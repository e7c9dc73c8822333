import Provisioning.Proofs.Poll.Wakeups

/-!
# What cancel tokens tell

Tokens are made, copied, used to cancel and asked, and waiters for them are made and polled, in any
order and number. The answers can be read off the earlier operations alone: a token is cancelled once
it or a token of its family was used to cancel, and a waiter is resolved at its first poll from then
on, wherever the cancellation fell.

## Main definitions

* `Request`, `Exchange`: an operation, and an operation with its answer
* `Desk.serve`, `Desk.serveAll`: the answer to one operation, and to one after another
* `SameFamily log t u`: one of the tokens comes from the other, through any number of copies
* `CancelledIn log t`: a token of the family of `t` was used to cancel
* `Heeded log`: the answers of a log are those that its cancellations call for, each token and each
  waiter having a number of its own

## Main results

* `Desk.Tracks.serve`: a desk that agrees with its log goes on to do so
* `Desk.heeded_serveAll`: the answers to any operations are the right ones
-/

namespace Provisioning.Poll

/-- An operation on tokens and waiters, by their numbers. -/
inductive Request where
  /-- A token of a new family is made. -/
  | create
  /-- A token is copied. -/
  | copy (token : Nat)
  /-- A token is used to cancel. -/
  | cancel (token : Nat)
  /-- A token is asked whether it is cancelled. -/
  | ask (token : Nat)
  /-- A waiter for a token is made. -/
  | await (token : Nat)
  /-- A waiter is polled. -/
  | poll (waiter : Nat)
deriving DecidableEq

/-- An operation with its answer. -/
inductive Exchange where
  /-- A token of a new family was made. -/
  | created (token : Nat)
  /-- A token was copied. -/
  | copied (token made : Nat)
  /-- A token was used to cancel. -/
  | cancelled (token : Nat)
  /-- A token was asked whether it is cancelled. -/
  | asked (token : Nat) (answer : Bool)
  /-- A waiter for a token was made. -/
  | awaited (token waiter : Nat)
  /-- A waiter was polled. -/
  | polled (waiter : Nat) (resolved : Bool)
deriving DecidableEq

namespace Exchange

/-- The token that was made. -/
def token? : Exchange → Option Nat
  | .created t | .copied _ t => some t
  | _ => none

/-- The waiter that was made. -/
def waiter? : Exchange → Option Nat
  | .awaited _ w => some w
  | _ => none

end Exchange

namespace Desk

/-- Whether the token or the waiter of an operation was made. -/
def Knows (d : Desk) : Request → Prop
  | .create => True
  | .copy t | .cancel t | .ask t | .await t => t < d.tokens.length
  | .poll w => w < d.waiters.length

instance (d : Desk) : (request : Request) → Decidable (d.Knows request)
  | .create => inferInstanceAs (Decidable True)
  | .copy t | .cancel t | .ask t | .await t => inferInstanceAs (Decidable (t < d.tokens.length))
  | .poll w => inferInstanceAs (Decidable (w < d.waiters.length))

/-- An operation with its answer, and the desk after it. -/
def serve (d : Desk) : Request → Exchange × Desk
  | .create => (.created d.create.1, d.create.2)
  | .copy t => (.copied t (d.copy t).1, (d.copy t).2)
  | .cancel t => (.cancelled t, d.cancel t)
  | .ask t => (.asked t (d.isCancelled t), d)
  | .await t => (.awaited t (d.await t).1, (d.await t).2)
  | .poll w => (.polled w (d.pollWaiter w).1, (d.pollWaiter w).2)

/-- Operations with their answers, one after another. An operation on a token or a waiter that was
not made yet is none. -/
def serveAll (d : Desk) : List Request → List Exchange × Desk
  | [] => ([], d)
  | request :: rest =>
    if d.Knows request then
      let (exchange, d) := d.serve request
      let (log, d) := d.serveAll rest
      (exchange :: log, d)
    else d.serveAll rest

end Desk

/-- One of two tokens comes from the other, or both from a third, through any number of copies. -/
def SameFamily (log : List Exchange) : Nat → Nat → Prop :=
  Relation.EqvGen fun t u => .copied t u ∈ log

/-- A token, or another of its family, was used to cancel. -/
def CancelledIn (log : List Exchange) (t : Nat) : Prop :=
  ∃ u, SameFamily log u t ∧ .cancelled u ∈ log

/-- The answers of a log are those that its cancellations call for. -/
structure Heeded (log : List Exchange) : Prop where
  /-- Each token that was made has a number of its own. -/
  tokens : (log.filterMap Exchange.token?).Nodup
  /-- So has each waiter. -/
  waiters : (log.filterMap Exchange.waiter?).Nodup
  /-- A token is cancelled exactly if it or another of its family was used to cancel before. -/
  asked_iff : ∀ before t answer after, log = before ++ .asked t answer :: after →
    (answer = true ↔ CancelledIn before t)
  /-- It stays so. -/
  stays : ∀ before t between answer after,
    log = before ++ .asked t true :: (between ++ .asked t answer :: after) → answer = true
  /-- A waiter is one for a token. -/
  exists_awaited : ∀ before w resolved after, log = before ++ .polled w resolved :: after →
    ∃ t, .awaited t w ∈ before
  /-- A poll of a waiter that is not resolved yet resolves it exactly if a token of the family was
  used to cancel before, be it before the waiter was made, before it was polled, or since. -/
  polled_iff : ∀ before w resolved after, log = before ++ .polled w resolved :: after →
    .polled w true ∉ before → ∀ t, .awaited t w ∈ before →
      (resolved = true ↔ CancelledIn before t)

/-! ## Logs -/

section Logs

variable {log : List Exchange} {e : Exchange} {t u : Nat}

theorem SameFamily.mono {log' : List Exchange} (hsub : log ⊆ log') (h : SameFamily log t u) :
    SameFamily log' t u :=
  Relation.EqvGen.mono (fun _ _ hc => hsub hc) _ _ h

theorem CancelledIn.mono {log' : List Exchange} (hsub : log ⊆ log') (h : CancelledIn log t) :
    CancelledIn log' t := by
  obtain ⟨u, hu, hc⟩ := h
  exact ⟨u, hu.mono hsub, hsub hc⟩

/-- An exchange that answers as the log before it calls for. -/
def Exchange.Right (before : List Exchange) : Exchange → Prop
  | .asked t answer => answer = true ↔ CancelledIn before t
  | .polled w resolved =>
    (∃ t, .awaited t w ∈ before) ∧
      (.polled w true ∉ before → ∀ t, .awaited t w ∈ before →
        (resolved = true ↔ CancelledIn before t))
  | _ => True

/-- Each exchange of a log answers as those before it call for. -/
def AllRight (log : List Exchange) : Prop :=
  ∀ before e after, log = before ++ e :: after → e.Right before

theorem AllRight.snoc (h : AllRight log) (he : e.Right log) : AllRight (log ++ [e]) := by
  intro before last after hlog
  rcases List.eq_nil_or_concat after with rfl | ⟨after, final, rfl⟩
  · obtain ⟨rfl, hlast⟩ := List.append_inj' hlog rfl
    obtain rfl := (List.cons.inj hlast).1
    exact he
  · rw [List.concat_eq_append, ← List.cons_append, ← List.append_assoc] at hlog
    exact h before last after (List.append_inj' hlog rfl).1

theorem AllRight.heeded (h : AllRight log) (htokens : (log.filterMap Exchange.token?).Nodup)
    (hwaiters : (log.filterMap Exchange.waiter?).Nodup) : Heeded log where
  tokens := htokens
  waiters := hwaiters
  asked_iff before t answer after hlog := h before _ after hlog
  stays := by
    intro before t between answer after hlog
    have hfirst : CancelledIn before t := (h before _ _ hlog).1 rfl
    rw [← List.cons_append, ← List.append_assoc] at hlog
    exact (h _ _ after hlog).2 (hfirst.mono (List.subset_append_left _ _))
  exists_awaited before w resolved after hlog := (h before _ after hlog).1
  polled_iff before w resolved after hlog := (h before _ after hlog).2

end Logs

/-! ## A desk and its log -/

namespace Desk

variable {d d' : Desk} {log : List Exchange} {e : Exchange}

/-- The tokens of a desk are those that its log tells of. -/
structure TracksTokens (log : List Exchange) (d : Desk) : Prop where
  /-- A copy is of the family of the token that it comes from. -/
  copied : ∀ {t u : Nat}, .copied t u ∈ log →
    ∃ i, d.familyOf? t = some i ∧ d.familyOf? u = some i
  /-- Tokens of one family come from one another. -/
  sameFamily : ∀ {t u i : Nat}, d.familyOf? t = some i → d.familyOf? u = some i →
    SameFamily log t u
  /-- Only tokens that were made were used to cancel. -/
  made : ∀ {t : Nat}, .cancelled t ∈ log → t < d.tokens.length
  /-- The flag of a family tells whether one of its tokens was used to cancel. -/
  cancelled_iff : ∀ i, (d.family i).cancelled = true ↔
    ∃ t, d.familyOf? t = some i ∧ .cancelled t ∈ log

/-- The waiters of a desk are those that its log tells of. -/
structure TracksWaiters (log : List Exchange) (d : Desk) : Prop where
  /-- A waiter is one of the family of the token that it was made for. -/
  awaited : ∀ {t w : Nat}, .awaited t w ∈ log →
    ∃ x, d.waiters[w]? = some x ∧ d.familyOf? t = some x.family
  /-- Each waiter was made for a token. -/
  exists_awaited : ∀ {w : Nat}, w < d.waiters.length → ∃ t, .awaited t w ∈ log
  /-- Only waiters that were made were polled. -/
  made : ∀ {w : Nat}, .polled w true ∈ log → w < d.waiters.length
  /-- A waiter is resolved if it said so. -/
  resolved_iff : ∀ {w : Nat} {x : Waiter}, d.waiters[w]? = some x →
    (x.phase = .resolved ↔ .polled w true ∈ log)
  /-- No waiter is between the halves of a poll. -/
  settled : ∀ {w : Nat} {x : Waiter}, d.waiters[w]? = some x → ∀ n, x.phase ≠ .armed n

/-- A desk on which what its log tells has happened. -/
structure Tracks (log : List Exchange) (d : Desk) : Prop where
  /-- Its numbers make sense. -/
  sound : Sound d
  /-- Its tokens are those of the log. -/
  tokens : TracksTokens log d
  /-- Its waiters are those of the log. -/
  waiters : TracksWaiters log d
  /-- No waiter sleeps after a cancellation. -/
  woken : ∀ {i : Nat}, (d.family i).cancelled = true → Woken d i

theorem tracks_empty : Tracks [] {} where
  sound := sound_empty
  tokens :=
    { copied := fun h => absurd h List.not_mem_nil
      sameFamily := fun h => by simp [familyOf?] at h
      made := fun h => absurd h List.not_mem_nil
      cancelled_iff := fun i => by simp [family] }
  waiters :=
    { awaited := fun h => absurd h List.not_mem_nil
      exists_awaited := fun h => absurd h (Nat.not_lt_zero _)
      made := fun h => absurd h List.not_mem_nil
      resolved_iff := fun h => by simp at h
      settled := fun h => by simp at h }
  woken h := by simp [family] at h

theorem TracksTokens.familyOf?_eq (h : TracksTokens log d) {t u : Nat}
    (hf : SameFamily log t u) : d.familyOf? t = d.familyOf? u := by
  induction hf with
  | rel _ _ hc =>
    obtain ⟨i, ht, hu⟩ := h.copied hc
    exact ht.trans hu.symm
  | refl => rfl
  | symm _ _ _ ih => exact ih.symm
  | trans _ _ _ _ _ ih₁ ih₂ => exact ih₁.trans ih₂

/-- The flag of a token's family tells whether a token of the family was used to cancel. -/
theorem TracksTokens.cancelledIn_iff (h : TracksTokens log d) {t i : Nat}
    (ht : d.familyOf? t = some i) : CancelledIn log t ↔ (d.family i).cancelled = true := by
  rw [h.cancelled_iff]
  constructor
  · rintro ⟨u, hu, hc⟩
    exact ⟨u, (h.familyOf?_eq hu).trans ht, hc⟩
  · rintro ⟨u, hu, hc⟩
    exact ⟨u, h.sameFamily hu ht, hc⟩

/-! ## Operations on tokens -/

/-- An operation on tokens leaves the waiters what they are. -/
theorem TracksWaiters.of_tokens (h : TracksWaiters log d) (hw : d'.waiters = d.waiters)
    (hf : ∀ {t i : Nat}, d.familyOf? t = some i → d'.familyOf? t = some i)
    (he : ∀ t w, e ≠ .awaited t w) (he' : ∀ w, e ≠ .polled w true) :
    TracksWaiters (log ++ [e]) d' where
  awaited := by
    intro t w hmem
    rcases List.mem_append.1 hmem with hmem | hmem
    · obtain ⟨x, hx, ht⟩ := h.awaited hmem
      exact ⟨x, hw ▸ hx, hf ht⟩
    · exact absurd (List.mem_singleton.1 hmem).symm (he t w)
  exists_awaited := by
    intro w hlt
    obtain ⟨t, ht⟩ := h.exists_awaited (hw ▸ hlt)
    exact ⟨t, List.mem_append_left _ ht⟩
  made := by
    intro w hmem
    rcases List.mem_append.1 hmem with hmem | hmem
    · exact hw ▸ h.made hmem
    · exact absurd (List.mem_singleton.1 hmem).symm (he' w)
  resolved_iff := by
    intro w x hx
    rw [h.resolved_iff (hw ▸ hx), List.mem_append, List.mem_singleton]
    exact (or_iff_left fun heq => he' w heq.symm).symm
  settled hx := h.settled (hw ▸ hx)

theorem getElem?_snoc {α : Type} {l : List α} {t : Nat} {a i : α} :
    (l ++ [a])[t]? = some i ↔ l[t]? = some i ∨ t = l.length ∧ i = a := by
  rcases Nat.lt_trichotomy t l.length with h | rfl | h
  · simp [List.getElem?_append_left h, Nat.ne_of_lt h]
  · simp [eq_comm]
  · have hlength : (l ++ [a]).length ≤ t := by
      rw [List.length_append]
      exact h
    rw [List.getElem?_eq_none hlength, List.getElem?_eq_none (Nat.le_of_lt h)]
    simp [Nat.ne_of_gt h]

/-- One more token of a family, new or not, is a copy of each token of it. -/
theorem TracksTokens.of_snoc (h : TracksTokens log d) {j : Nat}
    (htokens : d'.tokens = d.tokens ++ [j]) (hf : ∀ i, d'.family i = d.family i)
    (he : ∀ t, e ≠ .cancelled t)
    (hcopied : ∀ t u, e = .copied t u → d.familyOf? t = some j ∧ u = d.tokens.length)
    (hnew : ∀ t, d.familyOf? t = some j → SameFamily (log ++ [e]) t d.tokens.length) :
    TracksTokens (log ++ [e]) d' := by
  have hfamily : ∀ {t i : Nat},
      d'.familyOf? t = some i ↔ d.familyOf? t = some i ∨ t = d.tokens.length ∧ i = j := by
    intro t i
    rw [familyOf?, htokens]
    exact getElem?_snoc
  have hmade : ∀ {t : Nat}, .cancelled t ∈ log ++ [e] ↔ .cancelled t ∈ log := by
    intro t
    rw [List.mem_append, List.mem_singleton]
    exact or_iff_left fun heq => he t heq.symm
  constructor
  · intro t u hmem
    rcases List.mem_append.1 hmem with hmem | hmem
    · obtain ⟨i, ht, hu⟩ := h.copied hmem
      exact ⟨i, hfamily.2 (.inl ht), hfamily.2 (.inl hu)⟩
    · obtain ⟨ht, rfl⟩ := hcopied t u (List.mem_singleton.1 hmem).symm
      exact ⟨j, hfamily.2 (.inl ht), hfamily.2 (.inr ⟨rfl, rfl⟩)⟩
  · intro t u i ht hu
    rcases hfamily.1 ht with ht | ⟨rfl, rfl⟩
    · rcases hfamily.1 hu with hu | ⟨rfl, rfl⟩
      · exact (h.sameFamily ht hu).mono (List.subset_append_left _ _)
      · exact hnew t ht
    · rcases hfamily.1 hu with hu | ⟨rfl, -⟩
      · exact .symm _ _ (hnew u hu)
      · exact .refl _
  · intro t hmem
    rw [htokens, List.length_append]
    exact Nat.lt_add_right _ (h.made (hmade.1 hmem))
  · intro i
    rw [hf, h.cancelled_iff]
    constructor
    · rintro ⟨t, ht, hmem⟩
      exact ⟨t, hfamily.2 (.inl ht), hmade.2 hmem⟩
    · rintro ⟨t, ht, hmem⟩
      have hmem := hmade.1 hmem
      rcases hfamily.1 ht with ht | ⟨rfl, -⟩
      · exact ⟨t, ht, hmem⟩
      · exact absurd (h.made hmem) (Nat.lt_irrefl _)

theorem Tracks.create (h : Tracks log d) : Tracks (log ++ [.created d.create.1]) d.create.2 where
  sound := h.sound.of_moves (.create d)
  tokens := by
    refine h.tokens.of_snoc (j := d.families.length) rfl (family_create d) (by simp) (by simp) ?_
    intro t ht
    -- The new family has no other token.
    exact absurd (h.sound.tokens_lt _ (List.mem_of_getElem? ht)) (Nat.lt_irrefl _)
  waiters := h.waiters.of_tokens rfl (Moves.create d).familyOf?_eq (by simp) (by simp)
  woken hc := by
    rw [family_create] at hc
    exact (h.woken hc).of_moves (.create d)

theorem Tracks.copy (h : Tracks log d) {s : Nat} (hs : s < d.tokens.length) :
    Tracks (log ++ [.copied s (d.copy s).1]) (d.copy s).2 where
  sound := h.sound.of_moves (.copy d s)
  tokens := by
    obtain ⟨j, hj⟩ : ∃ j, d.familyOf? s = some j := ⟨_, List.getElem?_eq_getElem hs⟩
    have heq : d.copy s = (d.tokens.length, { d with tokens := d.tokens ++ [j] }) := by
      rw [Desk.copy, hj]
    refine h.tokens.of_snoc (j := j) (by rw [heq]) (family_copy d s) (by simp) ?_ ?_
    · rintro t u ⟨rfl, rfl⟩
      exact ⟨hj, by rw [heq]⟩
    · intro t ht
      rw [heq]
      refine .trans _ s _ ((h.tokens.sameFamily ht hj).mono (List.subset_append_left _ _)) ?_
      exact .rel _ _ (by simp)
  waiters := h.waiters.of_tokens (waiters_copy d s) (Moves.copy d s).familyOf?_eq (by simp) (by simp)
  woken hc := by
    rw [family_copy] at hc
    exact (h.woken hc).of_moves (.copy d s)

theorem Tracks.cancel (h : Tracks log d) {s : Nat} (hs : s < d.tokens.length) :
    Tracks (log ++ [.cancelled s]) (d.cancel s) := by
  obtain ⟨j, hj⟩ : ∃ j, d.familyOf? s = some j := ⟨_, List.getElem?_eq_getElem hs⟩
  have hlt : j < d.families.length := h.sound.tokens_lt j (List.mem_of_getElem? hj)
  have hraise : Moves d (d.raise s) := .raise d s
  have hnotify : Moves (d.raise s) (d.cancel s) := .notify _ s
  have hset : ((d.raise s).family j).cancelled = true := by
    rw [raise, family_alterFamily hlt, if_pos hj]
  have hother : ∀ {i}, i ≠ j → (d.cancel s).family i = d.family i := by
    intro i hi
    have hne : d.familyOf? s ≠ some i := fun heq => hi (Option.some.inj (heq.symm.trans hj))
    have hne' : (d.raise s).familyOf? s ≠ some i := fun heq =>
      hi (Option.some.inj (heq.symm.trans (hraise.familyOf?_eq hj)))
    rw [Desk.cancel, notify, family_alterFamily_of_ne hne', raise, family_alterFamily_of_ne hne]
  have hcancelled : ∀ i, ((d.cancel s).family i).cancelled = true ↔
      i = j ∨ (d.family i).cancelled = true := by
    intro i
    by_cases hi : i = j
    · subst hi
      exact iff_of_true (hnotify.cancelled hset) (.inl rfl)
    · rw [hother hi]
      exact (or_iff_right hi).symm
  have hfamilyOf? : ∀ t, (d.cancel s).familyOf? t = d.familyOf? t := by
    intro t
    simp [familyOf?, Desk.cancel, raise, notify]
  refine ⟨(h.sound.of_moves hraise).of_moves hnotify, ⟨?_, ?_, ?_, ?_⟩, ?_, ?_⟩
  · intro t u hmem
    simpa only [hfamilyOf?] using h.tokens.copied (by simpa using hmem)
  · intro t u i ht hu
    rw [hfamilyOf?] at ht hu
    exact (h.tokens.sameFamily ht hu).mono (List.subset_append_left _ _)
  · intro t hmem
    have hlength : (d.cancel s).tokens.length = d.tokens.length := by
      simp [Desk.cancel, raise, notify]
    rw [hlength]
    rcases List.mem_append.1 hmem with hmem | hmem
    · exact h.tokens.made hmem
    · obtain ⟨rfl⟩ := List.mem_singleton.1 hmem
      exact hs
  · intro i
    rw [hcancelled, h.tokens.cancelled_iff]
    simp only [hfamilyOf?, List.mem_append, List.mem_singleton, Exchange.cancelled.injEq]
    constructor
    · rintro (rfl | ⟨t, ht, hmem⟩)
      · exact ⟨s, hj, .inr rfl⟩
      · exact ⟨t, ht, .inl hmem⟩
    · rintro ⟨t, ht, hmem | rfl⟩
      · exact .inr ⟨t, ht, hmem⟩
      · exact .inl (Option.some.inj (ht.symm.trans hj))
  · exact h.waiters.of_tokens (by simp [Desk.cancel, raise, notify])
      (fun ht => (hfamilyOf? _).trans ht) (by simp) (by simp)
  · intro i hc
    rcases (hcancelled i).1 hc with rfl | hc
    · exact (h.sound.of_moves hraise).woken_notify (hraise.familyOf?_eq hj) hset
    · exact ((h.woken hc).of_moves hraise).of_moves hnotify

/-! ## Operations on waiters -/

/-- An operation on waiters leaves the tokens what they are. -/
theorem TracksTokens.of_waiters (h : TracksTokens log d) (ht : d'.tokens = d.tokens)
    (hf : ∀ i, d'.family i = d.family i) (he : ∀ t u, e ≠ .copied t u)
    (he' : ∀ t, e ≠ .cancelled t) : TracksTokens (log ++ [e]) d' := by
  have hfamilyOf? : ∀ t, d'.familyOf? t = d.familyOf? t := fun t => by rw [familyOf?, ht, familyOf?]
  have hcopied : ∀ {t u : Nat}, .copied t u ∈ log ++ [e] ↔ .copied t u ∈ log := by
    intro t u
    rw [List.mem_append, List.mem_singleton]
    exact or_iff_left fun heq => he t u heq.symm
  have hmade : ∀ {t : Nat}, .cancelled t ∈ log ++ [e] ↔ .cancelled t ∈ log := by
    intro t
    rw [List.mem_append, List.mem_singleton]
    exact or_iff_left fun heq => he' t heq.symm
  constructor
  · intro t u hmem
    simpa only [hfamilyOf?] using h.copied (hcopied.1 hmem)
  · intro t u i ht hu
    rw [hfamilyOf?] at ht hu
    exact (h.sameFamily ht hu).mono (List.subset_append_left _ _)
  · intro t hmem
    exact ht ▸ h.made (hmade.1 hmem)
  · intro i
    simp only [hf, h.cancelled_iff, hfamilyOf?, hmade]

theorem Tracks.await (h : Tracks log d) {s : Nat} (hs : s < d.tokens.length) :
    Tracks (log ++ [.awaited s (d.await s).1]) (d.await s).2 := by
  obtain ⟨j, hj⟩ : ∃ j, d.familyOf? s = some j := ⟨_, List.getElem?_eq_getElem hs⟩
  have heq : d.await s =
      (d.waiters.length, { d with waiters := d.waiters ++ [{ family := j }] }) := by
    rw [Desk.await, hj]
  have hwaiter : ∀ {w : Nat} {x : Waiter}, (d.await s).2.waiters[w]? = some x ↔
      d.waiters[w]? = some x ∨ w = d.waiters.length ∧ x = { family := j } := by
    intro w x
    rw [heq]
    exact getElem?_snoc
  have hsubset : log ⊆ log ++ [.awaited s d.waiters.length] := List.subset_append_left _ _
  refine ⟨h.sound.of_moves (.await d s), ?_, ⟨?_, ?_, ?_, ?_, ?_⟩, ?_⟩
  · exact h.tokens.of_waiters (by rw [heq]) (family_await d s) (by simp) (by simp)
  · intro t w hmem
    rw [heq, List.mem_append, List.mem_singleton] at hmem
    rcases hmem with hmem | hnew
    · obtain ⟨x, hx, ht⟩ := h.waiters.awaited hmem
      exact ⟨x, hwaiter.2 (.inl hx), (Moves.await d s).familyOf?_eq ht⟩
    · obtain ⟨rfl, rfl⟩ := Exchange.awaited.inj hnew
      exact ⟨_, hwaiter.2 (.inr ⟨rfl, rfl⟩), (Moves.await d t).familyOf?_eq hj⟩
  · intro w hlt
    obtain ⟨x, hx⟩ : ∃ x, (d.await s).2.waiters[w]? = some x := ⟨_, List.getElem?_eq_getElem hlt⟩
    rw [heq]
    rcases hwaiter.1 hx with hx | ⟨rfl, -⟩
    · obtain ⟨t, ht⟩ := h.waiters.exists_awaited (List.getElem?_eq_some_iff.1 hx).1
      exact ⟨t, hsubset ht⟩
    · exact ⟨s, by simp⟩
  · intro w hmem
    rw [heq] at hmem ⊢
    rw [List.length_append]
    exact Nat.lt_add_right _ (h.waiters.made (by simpa using hmem))
  · intro w x hx
    have hlog : .polled w true ∈ log ++ [.awaited s (d.await s).1] ↔ .polled w true ∈ log := by simp
    rw [hlog]
    rcases hwaiter.1 hx with hx | ⟨rfl, rfl⟩
    · exact h.waiters.resolved_iff hx
    · exact iff_of_false (by simp) fun hmem => Nat.lt_irrefl _ (h.waiters.made hmem)
  · intro w x hx n
    rcases hwaiter.1 hx with hx | ⟨-, rfl⟩
    · exact h.waiters.settled hx n
    · simp
  · intro i hc
    rw [family_await] at hc
    exact (h.woken hc).of_moves (.await d s)

/-- What a poll of a waiter leaves. -/
theorem getElem?_waiters_pollWaiter {v w : Nat} :
    (d.pollWaiter w).2.waiters[v]? = d.waiters[v]?.map fun x =>
      if w = v then
        { x with phase := (x.phase.arm (d.family x.family)).look (d.family x.family) }
      else x := by
  rw [pollWaiter, look, getElem?_waiters_advance, arm, getElem?_waiters_advance, Option.map_map]
  congr 1
  funext x
  by_cases h : w = v <;> simp [h]

theorem getElem?_waiters_pollWaiter_self {w : Nat} {x : Waiter} (hx : d.waiters[w]? = some x) :
    (d.pollWaiter w).2.waiters[w]? = some
      { x with phase := (x.phase.arm (d.family x.family)).look (d.family x.family) } := by
  rw [getElem?_waiters_pollWaiter, hx]
  simp

theorem getElem?_waiters_pollWaiter_ne {v w : Nat} (h : w ≠ v) :
    (d.pollWaiter w).2.waiters[v]? = d.waiters[v]? := by
  rw [getElem?_waiters_pollWaiter]
  simp [h]

theorem pollWaiter_fst {w : Nat} {x : Waiter} (hx : d.waiters[w]? = some x) :
    (d.pollWaiter w).1 =
      ((x.phase.arm (d.family x.family)).look (d.family x.family) == .resolved) :=
  isResolved_eq (getElem?_waiters_pollWaiter_self hx)

/-- A poll resolves a waiter of a cancelled family that does not sleep, and leaves one resolved. -/
theorem pollWaiter_eq_true_iff {w : Nat} {x : Waiter} (hx : d.waiters[w]? = some x)
    (hwoken : (d.family x.family).cancelled = true → Woken d x.family) :
    (d.pollWaiter w).1 = true ↔ x.phase = .resolved ∨ (d.family x.family).cancelled = true := by
  rw [pollWaiter_fst hx, beq_iff_eq, Phase.look_eq_resolved_iff, Phase.arm_eq_resolved_iff,
    Phase.exists_arm_eq_armed_iff]
  constructor
  · exact Or.imp id And.right
  · rintro (hresolved | hc)
    · exact .inl hresolved
    · by_cases hresolved : x.phase = .resolved
      · exact .inl hresolved
      · refine .inr ⟨⟨hresolved, fun hasleep => ?_⟩, hc⟩
        exact Nat.lt_irrefl _ ((hwoken hc).notified hx rfl _ hasleep)

theorem Tracks.poll (h : Tracks log d) {w : Nat} (hw : w < d.waiters.length) :
    Tracks (log ++ [.polled w (d.pollWaiter w).1]) (d.pollWaiter w).2 := by
  obtain ⟨x, hx⟩ : ∃ x, d.waiters[w]? = some x := ⟨_, List.getElem?_eq_getElem hw⟩
  have hx' := getElem?_waiters_pollWaiter_self hx
  have harm : Moves d (d.arm w) := .arm d w
  have hlook : Moves (d.arm w) (d.pollWaiter w).2 := .look _ w
  have hlength : (d.pollWaiter w).2.waiters.length = d.waiters.length := by
    simp [pollWaiter, look, arm, advance]
  have hresolved : ∀ v, .polled v true ∈ log ++ [.polled w (d.pollWaiter w).1] ↔
      .polled v true ∈ log ∨ v = w ∧ (d.pollWaiter w).1 = true := by
    intro v
    rw [List.mem_append, List.mem_singleton, Exchange.polled.injEq]
    exact or_congr_right (and_congr_right fun _ => eq_comm)
  refine ⟨(h.sound.of_moves harm).of_moves hlook, ?_, ⟨?_, ?_, ?_, ?_, ?_⟩, ?_⟩
  · exact h.tokens.of_waiters rfl (fun _ => rfl) (by simp) (by simp)
  · intro t v hmem
    obtain ⟨y, hy, ht⟩ := h.waiters.awaited (t := t) (w := v) (by simpa using hmem)
    by_cases hv : w = v
    · subst hv
      obtain rfl := Option.some.inj (hx.symm.trans hy)
      exact ⟨_, hx', ht⟩
    · exact ⟨y, (getElem?_waiters_pollWaiter_ne hv).trans hy, ht⟩
  · intro v hlt
    obtain ⟨t, ht⟩ := h.waiters.exists_awaited (hlength ▸ hlt)
    exact ⟨t, List.mem_append_left _ ht⟩
  · intro v hmem
    rw [hlength]
    rcases (hresolved v).1 hmem with hmem | ⟨rfl, -⟩
    · exact h.waiters.made hmem
    · exact hw
  · intro v y hy
    rw [hresolved]
    by_cases hv : w = v
    · subst hv
      obtain rfl := Option.some.inj (hx'.symm.trans hy)
      have hanswer := pollWaiter_fst hx
      -- A waiter that was resolved before says so again.
      have hstays : .polled w true ∈ log → (d.pollWaiter w).1 = true := fun hmem =>
        (pollWaiter_eq_true_iff hx h.woken).2 (.inl ((h.waiters.resolved_iff hx).2 hmem))
      rw [← beq_iff_eq, ← hanswer]
      exact ⟨fun hb => .inr ⟨rfl, hb⟩, fun hor => hor.elim hstays And.right⟩
    · rw [getElem?_waiters_pollWaiter_ne hv] at hy
      rw [h.waiters.resolved_iff hy]
      exact (or_iff_left fun he => hv he.1.symm).symm
  · intro v y hy n
    by_cases hv : w = v
    · subst hv
      obtain rfl := Option.some.inj (hx'.symm.trans hy)
      exact Phase.look_ne_armed
    · rw [getElem?_waiters_pollWaiter_ne hv] at hy
      exact h.waiters.settled hy n
  · intro i hc
    exact ((h.woken hc).of_moves harm).of_moves hlook

/-- A question changes nothing. -/
theorem Tracks.ask (h : Tracks log d) (t : Nat) (answer : Bool) :
    Tracks (log ++ [.asked t answer]) d where
  sound := h.sound
  tokens := h.tokens.of_waiters rfl (fun _ => rfl) (by simp) (by simp)
  waiters := h.waiters.of_tokens rfl (fun ht => ht) (by simp) (by simp)
  woken := h.woken

/-! ## All operations -/

theorem Tracks.isCancelled_iff (h : Tracks log d) {t : Nat} (ht : t < d.tokens.length) :
    d.isCancelled t = true ↔ CancelledIn log t := by
  obtain ⟨i, hi⟩ : ∃ i, d.familyOf? t = some i := ⟨_, List.getElem?_eq_getElem ht⟩
  rw [h.tokens.cancelledIn_iff hi, isCancelled, hi]

theorem Tracks.polled_right (h : Tracks log d) {w : Nat} (hw : w < d.waiters.length) :
    (Exchange.polled w (d.pollWaiter w).1).Right log := by
  obtain ⟨x, hx⟩ : ∃ x, d.waiters[w]? = some x := ⟨_, List.getElem?_eq_getElem hw⟩
  refine ⟨h.waiters.exists_awaited hw, fun hnot t ht => ?_⟩
  obtain ⟨y, hy, hfamily⟩ := h.waiters.awaited ht
  obtain rfl := Option.some.inj (hx.symm.trans hy)
  rw [pollWaiter_eq_true_iff hx h.woken, h.tokens.cancelledIn_iff hfamily]
  exact or_iff_right fun hresolved => hnot ((h.waiters.resolved_iff hx).1 hresolved)

/-- An operation is answered right, and afterwards the desk agrees with its log. -/
theorem Tracks.serve (h : Tracks log d) {request : Request} (hknown : d.Knows request) :
    Tracks (log ++ [(d.serve request).1]) (d.serve request).2 ∧
      (d.serve request).1.Right log := by
  cases request with
  | create => exact ⟨h.create, trivial⟩
  | copy t => exact ⟨h.copy hknown, trivial⟩
  | cancel t => exact ⟨h.cancel hknown, trivial⟩
  | ask t => exact ⟨h.ask t _, h.isCancelled_iff hknown⟩
  | await t => exact ⟨h.await hknown, trivial⟩
  | poll w => exact ⟨h.poll hknown, h.polled_right hknown⟩

theorem Tracks.serveAll (h : Tracks log d) (hright : AllRight log) (requests : List Request) :
    AllRight (log ++ (d.serveAll requests).1) := by
  -- The log grows at its end, so it stays general.
  induction requests generalizing log d with
  | nil => simpa [Desk.serveAll] using hright
  | cons request rest ih =>
    rw [Desk.serveAll]
    by_cases hknown : d.Knows request
    · obtain ⟨htracks, he⟩ := h.serve hknown
      simp only [if_pos hknown]
      rw [List.append_cons]
      exact ih htracks (hright.snoc he)
    · simpa only [if_neg hknown] using ih h hright

/-- A token that is made takes the next number. -/
theorem token?_serve {request : Request} (hknown : d.Knows request) :
    (d.serve request).1.token? = none ∧
        (d.serve request).2.tokens.length = d.tokens.length ∨
      (d.serve request).1.token? = some d.tokens.length ∧
        (d.serve request).2.tokens.length = d.tokens.length + 1 := by
  cases request with
  | create => exact .inr ⟨rfl, List.length_append⟩
  | copy t =>
    obtain ⟨j, hj⟩ : ∃ j, d.familyOf? t = some j := ⟨_, List.getElem?_eq_getElem hknown⟩
    simp [serve, copy, hj, Exchange.token?]
  | await t =>
    obtain ⟨j, hj⟩ : ∃ j, d.familyOf? t = some j := ⟨_, List.getElem?_eq_getElem hknown⟩
    simp [serve, await, hj, Exchange.token?]
  | cancel t => simp [serve, cancel, raise, notify, Exchange.token?]
  | ask | poll => exact .inl ⟨rfl, rfl⟩

/-- So does a waiter. -/
theorem waiter?_serve {request : Request} (hknown : d.Knows request) :
    (d.serve request).1.waiter? = none ∧
        (d.serve request).2.waiters.length = d.waiters.length ∨
      (d.serve request).1.waiter? = some d.waiters.length ∧
        (d.serve request).2.waiters.length = d.waiters.length + 1 := by
  cases request with
  | create | ask => exact .inl ⟨rfl, rfl⟩
  | copy t => simp [serve, Exchange.waiter?]
  | await t =>
    obtain ⟨j, hj⟩ : ∃ j, d.familyOf? t = some j := ⟨_, List.getElem?_eq_getElem hknown⟩
    simp [serve, await, hj, Exchange.waiter?]
  | cancel t => simp [serve, cancel, raise, notify, Exchange.waiter?]
  | poll w => simp [serve, pollWaiter, look, arm, advance, Exchange.waiter?]

/-- What takes the next number each time it is made has numbers in a row. -/
theorem numbers_serveAll (number : Exchange → Option Nat) (count : Desk → Nat)
    (hstep : ∀ {d : Desk} {request : Request}, d.Knows request →
      number (d.serve request).1 = none ∧ count (d.serve request).2 = count d ∨
        number (d.serve request).1 = some (count d) ∧ count (d.serve request).2 = count d + 1)
    (d : Desk) (requests : List Request) :
    ∃ n, (d.serveAll requests).1.filterMap number = List.range' (count d) n := by
  induction requests generalizing d with
  | nil => exact ⟨0, rfl⟩
  | cons request rest ih =>
    rw [Desk.serveAll]
    by_cases hknown : d.Knows request
    · simp only [if_pos hknown]
      obtain ⟨n, hn⟩ := ih (d.serve request).2
      rcases hstep hknown with ⟨hnumber, hcount⟩ | ⟨hnumber, hcount⟩
      · exact ⟨n, by rw [List.filterMap_cons_none hnumber, hn, hcount]⟩
      · refine ⟨n + 1, ?_⟩
        rw [List.filterMap_cons_some hnumber, hn, hcount, List.range'_succ]
    · simpa only [if_neg hknown] using ih d

/-- **Tokens and waiters tell of every cancellation, and of no other.** Whatever the operations, a
token is cancelled from the first cancellation by a token of its family on, and a waiter is resolved
by its first poll from then on. -/
theorem heeded_serveAll (requests : List Request) : Heeded (serveAll {} requests).1 := by
  have hnone : AllRight [] := fun before e after h =>
    absurd h.symm (List.append_ne_nil_of_right_ne_nil _ (List.cons_ne_nil _ _))
  have hright : AllRight (serveAll {} requests).1 := tracks_empty.serveAll hnone requests
  obtain ⟨n, hn⟩ :=
    numbers_serveAll Exchange.token? (fun d => d.tokens.length) token?_serve {} requests
  obtain ⟨m, hm⟩ :=
    numbers_serveAll Exchange.waiter? (fun d => d.waiters.length) waiter?_serve {} requests
  refine hright.heeded ?_ ?_
  · rw [hn]
    exact List.nodup_range'
  · rw [hm]
    exact List.nodup_range'

/-- A waiter that was polled in vain is resolved after a cancellation by a copy, and the token of
another family is not cancelled. -/
example :
    (serveAll {} [.create, .await 0, .poll 0, .copy 0, .create, .cancel 1, .poll 0, .ask 2]).1 =
      [.created 0, .awaited 0 0, .polled 0 false, .copied 0 1, .created 2, .cancelled 1,
        .polled 0 true, .asked 2 false] := by
  decide

end Desk

end Provisioning.Poll
