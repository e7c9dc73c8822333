import Mathlib.Logic.Relation
import Provisioning.Poll.Token

/-!
# Wakeups by cancel tokens

Operations on cancel tokens may overlap. They then come apart into their halves: a cancellation sets
the flag and then notifies the waiters, a poll notes the notifications and then looks at the flag.
Whatever happens between the halves, once a cancellation is complete no waiter of the family sleeps.

## Main definitions

* `Desk.Moves`, `Desk.Leads`: one operation or one half of one, and any number of them
* `Desk.Sound`: tokens have families, and waiters have noted nothing that did not happen
* `Desk.Woken`: a cancelled family, none of whose waiters sleeps

## Main results

* `Desk.Moves.waiter_cases`, `Desk.Moves.phase_of_new`: what an operation does to the waiters
* `Desk.isResolved_of_overlapping`: no order of the halves loses a wakeup
-/

namespace Provisioning.Poll

namespace Phase

/-- The notifications that a waiter has noted. -/
def seen? : Phase → Option Nat
  | .armed seen | .waiting seen => some seen
  | _ => none

variable {family : Family} {phase : Phase} {n : Nat}

theorem arm_eq_waiting_iff :
    phase.arm family = .waiting n ↔ phase = .waiting n ∧ family.notifications = n := by
  cases phase <;> grind [arm]

theorem look_eq_waiting_iff :
    phase.look family = .waiting n ↔
      phase = .waiting n ∨ phase = .armed n ∧ family.cancelled = false := by
  cases phase <;> grind [look]

theorem look_eq_resolved_iff :
    phase.look family = .resolved ↔
      phase = .resolved ∨ (∃ n, phase = .armed n) ∧ family.cancelled = true := by
  cases phase <;> grind [look]

theorem arm_eq_resolved_iff : phase.arm family = .resolved ↔ phase = .resolved := by
  cases phase <;> grind [arm]

theorem exists_arm_eq_armed_iff :
    (∃ n, phase.arm family = .armed n) ↔
      phase ≠ .resolved ∧ phase ≠ .waiting family.notifications := by
  cases phase with
  | created | armed | resolved => simp [arm]
  | waiting seen =>
    rw [arm]
    split
    · next h => simp [h]
    · next h => simpa using fun he => h he.symm

theorem look_ne_armed : phase.look family ≠ .armed n := by
  cases phase <;> grind [look]

/-- A waiter notes no more notifications than there were. -/
theorem seen_arm (h : n ∈ (phase.arm family).seen?) :
    n = family.notifications ∨ n ∈ phase.seen? := by
  cases phase <;> grind [arm, seen?]

theorem seen_look (h : n ∈ (phase.look family).seen?) : n ∈ phase.seen? := by
  cases phase <;> grind [look, seen?]

end Phase

namespace Desk

variable {d d' : Desk} {i t u w : Nat} {x : Waiter}

/-! ## Families and waiters after an operation -/

@[simp] theorem family_create (d : Desk) (i : Nat) : d.create.2.family i = d.family i := by
  unfold family create
  rcases Nat.lt_trichotomy i d.families.length with h | rfl | h
  · simp [List.getElem?_append_left h]
  · simp
  · rw [List.getElem?_eq_none (by simpa using Nat.succ_le_of_lt h),
      List.getElem?_eq_none (Nat.le_of_lt h)]

@[simp] theorem family_copy (d : Desk) (t i : Nat) : (d.copy t).2.family i = d.family i := by
  unfold copy
  split
  · rfl
  · exact d.family_create i

@[simp] theorem family_await (d : Desk) (t i : Nat) : (d.await t).2.family i = d.family i := by
  unfold await
  split <;> rfl

theorem family_alterFamily {f : Family → Family} (hi : i < d.families.length) :
    (d.alterFamily f t).family i =
      if d.familyOf? t = some i then f (d.family i) else d.family i := by
  unfold alterFamily family
  cases d.familyOf? t with
  | none => simp
  | some j =>
    by_cases h : j = i
    · subst h
      simp [hi]
    · simp [h]

theorem family_alterFamily_of_ne {f : Family → Family} (hi : d.familyOf? t ≠ some i) :
    (d.alterFamily f t).family i = d.family i := by
  unfold alterFamily family
  cases h : d.familyOf? t with
  | none => rfl
  | some j =>
    have hne : j ≠ i := fun he => hi (h.trans (congrArg some he))
    simp [hne]

theorem family_alterFamily_of_le {f : Family → Family} (hi : d.families.length ≤ i) :
    (d.alterFamily f t).family i = d.family i := by
  unfold alterFamily family
  cases d.familyOf? t with
  | none => rfl
  | some j =>
    have hmodify : (d.families.modify j f)[i]? = none := List.getElem?_eq_none (by simpa using hi)
    simp only [hmodify, List.getElem?_eq_none hi]

@[simp] theorem tokens_alterFamily {f : Family → Family} :
    (d.alterFamily f t).tokens = d.tokens := by
  unfold alterFamily
  split <;> rfl

@[simp] theorem waiters_alterFamily {f : Family → Family} :
    (d.alterFamily f t).waiters = d.waiters := by
  unfold alterFamily
  split <;> rfl

@[simp] theorem length_families_alterFamily {f : Family → Family} :
    (d.alterFamily f t).families.length = d.families.length := by
  unfold alterFamily
  split <;> simp

@[simp] theorem family_advance {step : Family → Phase → Phase} :
    (d.advance step w).family i = d.family i := rfl

theorem getElem?_waiters_advance {step : Family → Phase → Phase} {v : Nat} :
    (d.advance step w).waiters[v]? =
      d.waiters[v]?.map fun x =>
        if w = v then { x with phase := step (d.family x.family) x.phase } else x := by
  rw [advance, List.getElem?_modify]
  split <;> simp

@[simp] theorem waiters_create (d : Desk) : d.create.2.waiters = d.waiters := rfl

@[simp] theorem waiters_copy (d : Desk) (t : Nat) : (d.copy t).2.waiters = d.waiters := by
  unfold copy
  split <;> rfl

/-! ## One operation, or one half of one -/

/-- One operation on tokens and waiters; a cancellation and a poll come in two halves. -/
inductive Moves : Desk → Desk → Prop
  | create (d : Desk) : Moves d d.create.2
  | copy (d : Desk) (token : Nat) : Moves d (d.copy token).2
  | raise (d : Desk) (token : Nat) : Moves d (d.raise token)
  | notify (d : Desk) (token : Nat) : Moves d (d.notify token)
  | await (d : Desk) (token : Nat) : Moves d (d.await token).2
  | arm (d : Desk) (waiter : Nat) : Moves d (d.arm waiter)
  | look (d : Desk) (waiter : Nat) : Moves d (d.look waiter)

namespace Moves

/-- A flag that is set stays set. -/
theorem cancelled (h : Moves d d') (hc : (d.family i).cancelled = true) :
    (d'.family i).cancelled = true := by
  cases h with
  | create | copy | await => simpa using hc
  | raise t | notify t =>
    rcases Nat.lt_or_ge i d.families.length with hi | hi
    · simp only [Desk.raise, Desk.notify, family_alterFamily hi]
      split <;> simp [hc]
    · simpa only [Desk.raise, Desk.notify, family_alterFamily_of_le hi] using hc
  | arm | look => exact hc

/-- Notifications are not taken back. -/
theorem notifications_le (h : Moves d d') (i : Nat) :
    (d.family i).notifications ≤ (d'.family i).notifications := by
  cases h with
  | create | copy | await => simp
  | raise t | notify t =>
    rcases Nat.lt_or_ge i d.families.length with hi | hi
    · simp only [Desk.raise, Desk.notify, family_alterFamily hi]
      split <;> simp
    · simp only [Desk.raise, Desk.notify, family_alterFamily_of_le hi, Nat.le_refl]
  | arm | look => exact Nat.le_refl _

/-- What an operation can do to a waiter that there is: nothing, or the half of a poll. -/
theorem waiter_cases (h : Moves d d') (hx : d.waiters[w]? = some x) :
    ∃ phase, d'.waiters[w]? = some { x with phase } ∧
      (phase = x.phase ∨ phase = x.phase.arm (d.family x.family) ∨
        phase = x.phase.look (d.family x.family)) := by
  cases h with
  | create | copy => exact ⟨x.phase, by simpa using hx, .inl rfl⟩
  | raise | notify => exact ⟨x.phase, by simpa [Desk.raise, Desk.notify] using hx, .inl rfl⟩
  | await t =>
    refine ⟨x.phase, ?_, .inl rfl⟩
    unfold Desk.await
    split
    · simpa [List.getElem?_append_left (List.getElem?_eq_some_iff.1 hx).1] using hx
    · exact hx
  | arm v =>
    rw [Desk.arm, getElem?_waiters_advance, hx]
    by_cases hv : v = w
    · exact ⟨_, by simp [hv], .inr (.inl rfl)⟩
    · exact ⟨_, by simp [hv], .inl rfl⟩
  | look v =>
    rw [Desk.look, getElem?_waiters_advance, hx]
    by_cases hv : v = w
    · exact ⟨_, by simp [hv], .inr (.inr rfl)⟩
    · exact ⟨_, by simp [hv], .inl rfl⟩

/-- A waiter that there was not before the operation has not been polled. -/
theorem phase_of_new (h : Moves d d') (hnone : d.waiters[w]? = none)
    (hx : d'.waiters[w]? = some x) : x.phase = .created := by
  cases h with
  | create | copy => simp [hnone] at hx
  | raise | notify => simp [Desk.raise, Desk.notify, hnone] at hx
  | await t =>
    unfold Desk.await at hx
    split at hx
    · rw [List.getElem?_append_right (List.getElem?_eq_none_iff.1 hnone)] at hx
      obtain rfl := List.mem_singleton.1 (List.mem_of_getElem? hx)
      rfl
    · simp [hnone] at hx
  | arm v | look v => simp [Desk.arm, Desk.look, getElem?_waiters_advance, hnone] at hx

/-- An operation leaves a token in its family. -/
theorem familyOf?_eq (h : Moves d d') (ht : d.familyOf? t = some i) : d'.familyOf? t = some i := by
  have hlt : t < d.tokens.length := (List.getElem?_eq_some_iff.1 ht).1
  cases h with
  | create => exact (List.getElem?_append_left hlt).trans ht
  | copy s =>
    unfold Desk.copy
    split <;> exact (List.getElem?_append_left hlt).trans ht
  | await s =>
    unfold Desk.await
    split <;> exact ht
  | raise s | notify s => simpa [Desk.familyOf?, Desk.raise, Desk.notify] using ht
  | arm | look => exact ht

end Moves

/-- Any number of operations, one after another. -/
abbrev Leads : Desk → Desk → Prop := Relation.ReflTransGen Moves

/-- What each operation keeps, any number of them keeps. -/
theorem Leads.keeps {P : Desk → Prop} (h : Leads d d')
    (hstep : ∀ {d d' : Desk}, P d → Moves d d' → P d') (hP : P d) : P d' := by
  induction h with
  | refl => exact hP
  | tail _ hlast ih => exact hstep ih hlast

/-! ## Operations that overlap -/

/-- A desk on which all numbers make sense: tokens have families, and no waiter has noted
notifications that did not come or a cancellation that was none. -/
structure Sound (d : Desk) : Prop where
  /-- Each token has a family. -/
  tokens_lt : ∀ i ∈ d.tokens, i < d.families.length
  /-- What a waiter has noted has come. -/
  seen_le : ∀ {w : Nat} {x : Waiter}, d.waiters[w]? = some x →
    ∀ n ∈ x.phase.seen?, n ≤ (d.family x.family).notifications
  /-- Only a cancellation resolves a waiter. -/
  cancelled : ∀ {w : Nat} {x : Waiter}, d.waiters[w]? = some x →
    x.phase = .resolved → (d.family x.family).cancelled = true

/-- A family is cancelled, and each of its waiters will note the cancellation: none waits for a
notification after the last. -/
structure Woken (d : Desk) (i : Nat) : Prop where
  /-- The flag is set. -/
  cancelled : (d.family i).cancelled = true
  /-- A waiter that waits has been notified since. -/
  notified : ∀ {w : Nat} {x : Waiter}, d.waiters[w]? = some x → x.family = i →
    ∀ seen, x.phase = .waiting seen → seen < (d.family i).notifications

/-- A waiter of a cancelled family that need only look at the flag. -/
structure Ready (d : Desk) (w : Nat) (x : Waiter) : Prop where
  /-- It is one of the desk's. -/
  getElem? : d.waiters[w]? = some x
  /-- The flag is set. -/
  cancelled : (d.family x.family).cancelled = true
  /-- It looks at the flag next, or has done so. -/
  phase : x.phase = .resolved ∨ ∃ n, x.phase = .armed n

theorem sound_empty : Sound {} := ⟨by simp, by simp, by simp⟩

theorem Sound.tokens_lt_of_moves (hs : Sound d) (h : Moves d d') :
    ∀ i ∈ d'.tokens, i < d'.families.length := by
  intro i hi
  cases h with
  | create =>
    simp only [create, List.mem_append, List.mem_singleton, List.length_append] at hi ⊢
    rcases hi with hi | rfl
    · exact Nat.lt_succ_of_lt (hs.tokens_lt i hi)
    · exact Nat.lt_succ_self _
  | copy t =>
    unfold copy at hi ⊢
    split at hi
    · next f hf =>
      simp only [List.mem_append, List.mem_singleton] at hi
      rcases hi with hi | rfl
      · exact hs.tokens_lt i hi
      · exact hs.tokens_lt i (List.mem_of_getElem? hf)
    · simp only [create, List.mem_append, List.mem_singleton, List.length_append] at hi ⊢
      rcases hi with hi | rfl
      · exact Nat.lt_succ_of_lt (hs.tokens_lt i hi)
      · exact Nat.lt_succ_self _
  | await t =>
    unfold await at hi ⊢
    split at hi <;> exact hs.tokens_lt i hi
  | raise t | notify t =>
    simp only [raise, notify, tokens_alterFamily, length_families_alterFamily] at hi ⊢
    exact hs.tokens_lt i hi
  | arm | look => exact hs.tokens_lt i hi

theorem Sound.of_moves (hs : Sound d) (h : Moves d d') : Sound d' where
  tokens_lt := hs.tokens_lt_of_moves h
  seen_le := by
    intro w x hx n hn
    cases hold : d.waiters[w]? with
    | none => simp [h.phase_of_new hold hx, Phase.seen?] at hn
    | some y =>
      obtain ⟨phase, hy, hphase⟩ := h.waiter_cases hold
      obtain rfl := Option.some.inj (hx.symm.trans hy)
      refine Nat.le_trans ?_ (h.notifications_le y.family)
      rcases hphase with rfl | rfl | rfl
      · exact hs.seen_le hold n hn
      · rcases Phase.seen_arm hn with rfl | hn
        · exact Nat.le_refl _
        · exact hs.seen_le hold n hn
      · exact hs.seen_le hold n (Phase.seen_look hn)
  cancelled := by
    intro w x hx hresolved
    cases hold : d.waiters[w]? with
    | none => simp [h.phase_of_new hold hx] at hresolved
    | some y =>
      obtain ⟨phase, hy, hphase⟩ := h.waiter_cases hold
      obtain rfl := Option.some.inj (hx.symm.trans hy)
      refine h.cancelled (i := y.family) ?_
      rcases hphase with rfl | rfl | rfl
      · exact hs.cancelled hold hresolved
      · exact hs.cancelled hold (Phase.arm_eq_resolved_iff.1 hresolved)
      · rcases Phase.look_eq_resolved_iff.1 hresolved with hy | ⟨-, hc⟩
        · exact hs.cancelled hold hy
        · exact hc

theorem Woken.of_moves (hw : Woken d i) (h : Moves d d') : Woken d' i where
  cancelled := h.cancelled hw.cancelled
  notified := by
    intro w x hx hi seen hseen
    cases hold : d.waiters[w]? with
    | none => simp [h.phase_of_new hold hx] at hseen
    | some y =>
      obtain ⟨phase, hy, hphase⟩ := h.waiter_cases hold
      obtain rfl := Option.some.inj (hx.symm.trans hy)
      obtain rfl : y.family = i := hi
      refine Nat.lt_of_lt_of_le ?_ (h.notifications_le y.family)
      rcases hphase with rfl | rfl | rfl
      · exact hw.notified hold rfl seen hseen
      · exact hw.notified hold rfl seen (Phase.arm_eq_waiting_iff.1 hseen).1
      · -- Who looks at the flag now finds it set, and does not come to wait.
        rcases Phase.look_eq_waiting_iff.1 hseen with hseen | ⟨-, hunset⟩
        · exact hw.notified hold rfl seen hseen
        · exact absurd hw.cancelled (by simp [hunset])

/-- The notification after the flag is set wakes every waiter of the family. -/
theorem Sound.woken_notify (hs : Sound d) (ht : d.familyOf? t = some i)
    (hc : (d.family i).cancelled = true) : Woken (d.notify t) i where
  cancelled := (Moves.notify d t).cancelled hc
  notified := by
    intro w x hx hi seen hseen
    have hlt : i < d.families.length := hs.tokens_lt i (List.mem_of_getElem? ht)
    simp only [notify, waiters_alterFamily] at hx
    have hle := hs.seen_le hx seen (by simp [hseen, Phase.seen?])
    rw [notify, family_alterFamily hlt, if_pos ht]
    exact Nat.lt_succ_of_le (hi ▸ hle)

/-- A waiter of a woken family that notes the notifications does not go back to sleep. -/
theorem Woken.ready_arm (hw : Woken d i) (hx : d.waiters[w]? = some x) (hi : x.family = i) :
    Ready (d.arm w) w { x with phase := x.phase.arm (d.family i) } where
  getElem? := by rw [arm, getElem?_waiters_advance, hx]; simp [hi]
  cancelled := hi ▸ hw.cancelled
  phase := by
    by_cases hresolved : x.phase = .resolved
    · exact .inl (Phase.arm_eq_resolved_iff.2 hresolved)
    · refine .inr (Phase.exists_arm_eq_armed_iff.2 ⟨hresolved, fun hasleep => ?_⟩)
      exact Nat.lt_irrefl _ (hw.notified hx hi _ hasleep)

theorem Ready.of_moves (hr : Ready d w x) (h : Moves d d') :
    ∃ phase, Ready d' w { x with phase } := by
  obtain ⟨phase, hx, hphase⟩ := h.waiter_cases hr.getElem?
  refine ⟨phase, hx, h.cancelled hr.cancelled, ?_⟩
  rcases hphase with rfl | rfl | rfl
  · exact hr.phase
  · rcases hr.phase with hp | ⟨n, hp⟩ <;> simp [hp, Phase.arm]
  · rcases hr.phase with hp | ⟨n, hp⟩ <;> simp [hp, Phase.look, hr.cancelled]

theorem isResolved_eq (hx : d.waiters[w]? = some x) :
    d.isResolved w = (x.phase == .resolved) := by
  simp [isResolved, hx]

theorem Ready.isResolved_look (hr : Ready d w x) : (d.look w).isResolved w = true := by
  have hx : (d.look w).waiters[w]? = some { x with phase := x.phase.look (d.family x.family) } := by
    rw [look, getElem?_waiters_advance, hr.getElem?]
    simp
  rw [isResolved_eq hx, beq_iff_eq]
  refine Phase.look_eq_resolved_iff.2 (hr.phase.imp id fun h => ⟨h, hr.cancelled⟩)

/-- **No order of the halves loses a wakeup.** Once a token's flag was set and its waiters were
notified, a waiter of the family that goes on to note the notifications and to look at the flag is
resolved, whatever happens in between, and wherever it stood before. -/
theorem isResolved_of_overlapping {d₀ d₁ d₂ d₃ : Desk} (h₀ : Leads {} d₀)
    (ht : d₀.familyOf? t = some i) (h₁ : Leads (d₀.raise t) d₁) (h₂ : Leads (d₁.notify t) d₂)
    (hx : d₂.waiters[w]? = some x) (hi : x.family = i) (h₃ : Leads (d₂.arm w) d₃) :
    (d₃.look w).isResolved w = true := by
  have hraised : Moves d₀ (d₀.raise t) := .raise d₀ t
  have hsound₀ : Sound d₀ := h₀.keeps Sound.of_moves sound_empty
  have hsound₁ : Sound d₁ := h₁.keeps Sound.of_moves (hsound₀.of_moves hraised)
  have htoken : d₁.familyOf? t = some i :=
    h₁.keeps (P := fun d => d.familyOf? t = some i) (fun ht h => h.familyOf?_eq ht)
      (hraised.familyOf?_eq ht)
  have hset : ((d₀.raise t).family i).cancelled = true := by
    rw [raise, family_alterFamily (hsound₀.tokens_lt i (List.mem_of_getElem? ht)), if_pos ht]
  have hcancelled : (d₁.family i).cancelled = true :=
    h₁.keeps (P := fun d => (d.family i).cancelled = true) (fun hc h => h.cancelled hc) hset
  have hwoken : Woken d₂ i :=
    h₂.keeps (P := fun d => Woken d i) (fun hw h => hw.of_moves h)
      (hsound₁.woken_notify htoken hcancelled)
  obtain ⟨phase, hready⟩ : ∃ phase, Ready d₃ w { x with phase } :=
    h₃.keeps (P := fun d => ∃ phase, Ready d w { x with phase })
      (fun ⟨_, hr⟩ h => hr.of_moves h) ⟨_, hwoken.ready_arm hx hi⟩
  exact hready.isResolved_look

end Desk

end Provisioning.Poll
