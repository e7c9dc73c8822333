import Provisioning.Proofs.Settings.Checks

/-!
# Settings that were written

Settings are written one at a time, by their keys and as texts; some writes are refused. What the
settings hold afterwards can be read off the writes that were not: for each setting, the value of the
last text. Whatever the writes, the settings stay fit for use.

## Main definitions

* `SettingValue`, `SettingKey.valueOf?`, `Settings.stored?`: the values of settings, the one that a
  text stands for, and the one that is stored
* `Settings.Updated`: settings with a value for one setting, and nothing else, changed
* `Settings.writeAll`: writes one after another, with those that were not refused
* `latest? log k`: the last text that was written for a setting
* `IsLatest`: a value is that of the last text, or the default one
* `InUse log s`: each value in use is the latest, and fit for use

## Main results

* `Settings.write_cases`: what a write does
* `Settings.Reflects.writeAll`: settings that hold the last values go on to do so
* `Settings.inUse_writeAll`: after any writes the values in use are the last ones, and fit for use
-/

namespace Provisioning

open Text

/-! ## The values of settings -/

/-- A value of a setting. -/
inductive SettingValue where
  /-- A number of seconds. -/
  | seconds (n : UInt64)
  /-- A number of months. -/
  | months (n : UInt32)
  /-- A number of hours or a weight. -/
  | number (x : Binary64)
deriving DecidableEq

namespace SettingKey

/-- The value that a text stands for, if it is one for the setting. -/
def valueOf? (text : String) : SettingKey → Option SettingValue
  | .timeout => (Settings.readSeconds? text).map .seconds
  | .interval => ((Settings.readSeconds? text).filter (0 < ·)).map .seconds
  | .hours => ((readNumber? text).filter isHours).map .number
  | .commitment => ((Settings.readMonths? text).filter (0 < ·)).map .months
  | .weight _ => ((readNumber? text).filter isWeight).map .number

end SettingKey

namespace Settings

variable {s t : Settings} {text key value : String} {k k' : SettingKey}

/-- The value of a setting that is stored. -/
def stored? (s : Settings) : SettingKey → Option SettingValue
  | .timeout => (s.poll.bind PollSection.timeoutSecs).map .seconds
  | .interval => (s.poll.bind PollSection.intervalSecs).map .seconds
  | .hours => (s.pricing.bind PricingSection.hoursPerMonth).map .number
  | .commitment => (s.pricing.bind PricingSection.commitmentMonths).map .months
  | .weight d => (s.weights.bind fun weights => weights.get? d.key).map .number

/-- An assignment stores the value of the text. -/
theorem exists_stored?_assign (h : s.assign? text k = some t) :
    ∃ v, k.valueOf? text = some v ∧ t.stored? k = some v := by
  cases k with
  | timeout | interval | hours | commitment =>
    obtain ⟨v, hv, rfl⟩ := Option.map_eq_some_iff.1 h
    exact ⟨_, Option.map_eq_some_iff.2 ⟨v, hv, rfl⟩, rfl⟩
  | weight d =>
    obtain ⟨x, hx, rfl⟩ := Option.map_eq_some_iff.1 h
    refine ⟨_, Option.map_eq_some_iff.2 ⟨x, hx, rfl⟩, ?_⟩
    rw [stored?, Option.bind_some, SortedMap.get?_insert, if_pos rfl, Option.map_some]

/-- An assignment to one setting leaves the others. -/
theorem stored?_assign_of_ne (h : s.assign? text k = some t) (hne : k' ≠ k) :
    t.stored? k' = s.stored? k' := by
  cases k with
  | timeout | interval | hours | commitment =>
    obtain ⟨v, -, rfl⟩ := Option.map_eq_some_iff.1 h
    cases k' with
    | timeout | interval =>
      cases hp : s.poll <;> simp [stored?, hp] at hne ⊢
    | hours | commitment =>
      cases hp : s.pricing <;> simp [stored?, hp] at hne ⊢
    | weight d => rfl
  | weight d =>
    obtain ⟨x, -, rfl⟩ := Option.map_eq_some_iff.1 h
    cases k' with
    | timeout | interval | hours | commitment => rfl
    | weight e =>
      have hkey : e.key ≠ d.key := fun he => hne (congrArg _ (Dimension.key_injective he))
      cases hw : s.weights <;> simp [stored?, hw, SortedMap.get?_insert, hkey]

/-! ## One write -/

theorem policy_congr (h : t.poll = s.poll) : t.policy = s.policy := by
  unfold policy
  rw [h]

/-- An assignment to a setting that polls do not know leaves their section. -/
theorem poll_assign (h : s.assign? text k = some t) (hk : ¬ isPollKey k) : t.poll = s.poll := by
  cases k with
  | timeout | interval => exact absurd rfl hk
  | hours | commitment | weight d =>
    obtain ⟨v, -, rfl⟩ := Option.map_eq_some_iff.1 h
    rfl

/-- An assignment to a setting of polls changes their section only. -/
theorem putBack_poll (h : s.assign? text k = some t) (hk : isPollKey k) :
    { t with poll := s.poll } = s := by
  cases k with
  | timeout | interval =>
    obtain ⟨v, -, rfl⟩ := Option.map_eq_some_iff.1 h
    rfl
  | hours | commitment | weight d => cases hk

/-- What a write does: it is refused and changes nothing, or it assigns the value of the text. -/
theorem write_cases (s : Settings) (key value : String) :
    (∃ e, s.write key value = (.error e, s)) ∨
      ∃ k t, SettingKey.read? key = some k ∧ s.assign? (trim value) k = some t ∧
        (isPollKey k → ∃ p, t.policy = .ok p) ∧ s.write key value = (.ok (), t) := by
  unfold write
  split
  · exact .inl ⟨_, rfl⟩
  next k hk =>
  split
  · exact .inl ⟨_, rfl⟩
  next t ht =>
  split
  · next hpoll =>
    split
    · next p hp => exact .inr ⟨k, t, hk, ht, fun _ => ⟨p, hp⟩, rfl⟩
    · next e he => exact .inl ⟨e, by rw [putBack_poll ht hpoll]⟩
  · next hpoll => exact .inr ⟨k, t, hk, ht, fun h => absurd h hpoll, rfl⟩

/-- A write leaves a policy if there was one. -/
theorem exists_policy_write (h : ∃ p, s.policy = .ok p) (key value : String) :
    ∃ p, (s.write key value).2.policy = .ok p := by
  rcases s.write_cases key value with ⟨e, he⟩ | ⟨k, t, -, hassign, hpolicy, heq⟩
  · rw [he]
    exact h
  · rw [heq]
    by_cases hpoll : isPollKey k
    · exact hpolicy hpoll
    · rw [policy_congr (poll_assign hassign hpoll)]
      exact h

/-- Settings `t` are settings `s` with the value `v` for the setting `k`. -/
structure Updated (k : SettingKey) (v : SettingValue) (s t : Settings) : Prop where
  /-- The setting has the value. -/
  stored : t.stored? k = some v
  /-- The other settings are as before. -/
  others : ∀ k', k' ≠ k → t.stored? k' = s.stored? k'
  /-- So are the weights of other names, also of names that are no keys. -/
  names : ∀ name, (∀ d, k = .weight d → name ≠ d.key) →
    (t.weights.bind fun weights => weights.get? name) =
      s.weights.bind fun weights => weights.get? name
  /-- So are the sections that the setting is not in. -/
  poll : isPollKey k = false → t.poll = s.poll
  pricing : k ≠ .hours → k ≠ .commitment → t.pricing = s.pricing
  weights : (∀ d, k ≠ .weight d) → t.weights = s.weights

/-- An assignment updates its setting only. -/
theorem updated_of_assign (h : s.assign? text k = some t) :
    ∃ v, k.valueOf? text = some v ∧ Updated k v s t := by
  obtain ⟨v, hv, hstored⟩ := exists_stored?_assign h
  refine ⟨v, hv, hstored, fun k' hne => stored?_assign_of_ne h hne, ?_, ?_, ?_, ?_⟩
  · intro name hname
    cases k with
    | timeout | interval | hours | commitment =>
      obtain ⟨v, -, rfl⟩ := Option.map_eq_some_iff.1 h
      rfl
    | weight d =>
      obtain ⟨x, -, rfl⟩ := Option.map_eq_some_iff.1 h
      have hkey : name ≠ d.key := hname d rfl
      cases hw : s.weights <;> simp [SortedMap.get?_insert, hkey]
  · exact fun hk => poll_assign h (Bool.eq_false_iff.1 hk)
  · intro hhours hcommitment
    cases k with
    | hours => exact absurd rfl hhours
    | commitment => exact absurd rfl hcommitment
    | timeout | interval | weight d =>
      obtain ⟨v, -, rfl⟩ := Option.map_eq_some_iff.1 h
      rfl
  · intro hweight
    cases k with
    | weight d => exact absurd rfl (hweight d)
    | timeout | interval | hours | commitment =>
      obtain ⟨v, -, rfl⟩ := Option.map_eq_some_iff.1 h
      rfl

theorem set_eq_ok_iff : s.set key value = .ok t ↔ s.write key value = (.ok (), t) := by
  unfold set
  rcases s.write key value with ⟨- | -, u⟩
  · simp [Except.map]
  · simp [Except.map]

/-- Settings that are set are updated to the value of the text, blanks around it aside. -/
theorem updated_of_set (h : s.set key value = .ok t) :
    ∃ k v, SettingKey.read? key = some k ∧ k.valueOf? (trim value) = some v ∧ Updated k v s t := by
  have hw : s.write key value = (.ok (), t) := set_eq_ok_iff.1 h
  rcases s.write_cases key value with ⟨e, he⟩ | ⟨k, t', hk, hassign, -, heq⟩
  · cases he.symm.trans hw
  · obtain rfl : t' = t := (Prod.mk.inj (heq.symm.trans hw)).2
    obtain ⟨v, hv, hupdated⟩ := updated_of_assign hassign
    exact ⟨k, v, hk, hv, hupdated⟩

/-- Writes one after another: those that were not refused, and the settings after all. -/
def writeAll (s : Settings) : List (String × String) → List (String × String) × Settings
  | [] => ([], s)
  | (key, value) :: rest =>
    let (answer, t) := s.write key value
    let (log, u) := t.writeAll rest
    match answer with
    | .ok _ => ((key, value) :: log, u)
    | .error _ => (log, u)

end Settings

/-! ## Writes one after another -/

/-- The last text that was written for a setting. -/
def latest? (log : List (String × String)) (k : SettingKey) : Option String :=
  (log.reverse.find? fun w => SettingKey.read? w.1 = some k).map Prod.snd

/-- A value is the one that the last text of a setting stands for, blanks around it aside, or the
default one if nothing was written. -/
def IsLatest {α : Type} (log : List (String × String)) (k : SettingKey)
    (read : String → Option α) (default value : α) : Prop :=
  match latest? log k with
  | none => value = default
  | some text => read (trim text) = some value

/-- The values in use are those that were written last, and are fit for use. -/
structure InUse (log : List (String × String)) (s : Settings) : Prop where
  /-- There is a policy of the last seconds. The interval is not zero and no longer than the
  timeout. -/
  policy : ∃ p, s.policy = .ok p ∧ Span.zero < p.interval ∧ p.interval ≤ p.timeout ∧
    IsLatest log .timeout (fun text => (Settings.readSeconds? text).map Span.ofSeconds)
      Poll.Policy.default.timeout p.timeout ∧
    IsLatest log .interval (fun text => (Settings.readSeconds? text).map Span.ofSeconds)
      Poll.Policy.default.interval p.interval
  /-- The hours of a month are finite and positive. -/
  hours : ∃ x, s.hoursPerMonth = .ok x ∧ x.isFinite = true ∧ Binary64.zero.lt x = true ∧
    IsLatest log .hours readNumber? hoursPerMonth x
  /-- A commitment is one of at least a month. -/
  commitment : ∃ months, s.commitment = .ok months ∧ (∀ n ∈ months, 1 ≤ n) ∧
    IsLatest log .commitment (fun text => (Settings.readMonths? text).map some) none months
  /-- Each weight is finite and not negative. -/
  weights : ∃ w, s.scoreWeights = .ok w ∧ ∀ d, (w.get d).isFinite = true ∧
    Binary64.zero.le (w.get d) = true ∧
    IsLatest log (.weight d) readNumber? (Weights.default.get d) (w.get d)

theorem latest?_snoc (log : List (String × String)) (w : String × String) (k : SettingKey) :
    latest? (log ++ [w]) k = if SettingKey.read? w.1 = some k then some w.2 else latest? log k := by
  unfold latest?
  rw [List.reverse_append, List.reverse_singleton, List.singleton_append, List.find?_cons]
  by_cases h : SettingKey.read? w.1 = some k <;> simp [h]

namespace Settings

variable {s t : Settings} {log : List (String × String)} {key value : String} {k : SettingKey}

/-- Settings that hold what was written last, and whose policy and names are sound. -/
structure Reflects (log : List (String × String)) (s : Settings) : Prop where
  /-- What is stored is the value of the last text. -/
  latest : ∀ k, (latest? log k).map (fun text => k.valueOf? (trim text)) = (s.stored? k).map some
  /-- Weights are stored under the names of dimensions. -/
  names : ∀ weights ∈ s.weights, ∀ e ∈ weights.toList, ∃ d : Dimension, e.1 = d.key
  /-- Timeout and interval go together. -/
  policy : ∃ p, s.policy = .ok p

theorem reflects_empty : Reflects [] {} where
  latest k := by cases k <;> rfl
  names := by simp
  policy := ⟨Poll.Policy.default, rfl⟩

theorem names_assign {text : String} (h : s.assign? text k = some t)
    (hnames : ∀ weights ∈ s.weights, ∀ e ∈ weights.toList, ∃ d : Dimension, e.1 = d.key) :
    ∀ weights ∈ t.weights, ∀ e ∈ weights.toList, ∃ d : Dimension, e.1 = d.key := by
  cases k with
  | timeout | interval | hours | commitment =>
    obtain ⟨v, -, rfl⟩ := Option.map_eq_some_iff.1 h
    exact hnames
  | weight d =>
    obtain ⟨x, -, rfl⟩ := Option.map_eq_some_iff.1 h
    intro weights hw e he
    obtain rfl := Option.mem_some.1 hw
    rcases Entries.mem_insert he with rfl | he
    · exact ⟨d, rfl⟩
    · cases hs : s.weights with
      | none => simp [hs, SortedMap.empty] at he
      | some old => exact hnames old hs e (by simpa [hs] using he)

theorem Reflects.write (h : Reflects log s) (hw : s.write key value = (.ok (), t)) :
    Reflects (log ++ [(key, value)]) t := by
  have hpolicy : ∃ p, t.policy = .ok p := by simpa [hw] using exists_policy_write h.policy key value
  rcases s.write_cases key value with ⟨e, he⟩ | ⟨k, t', hk, hassign, -, heq⟩
  · simp [he] at hw
  obtain rfl : t' = t := (Prod.mk.inj (heq.symm.trans hw)).2
  refine ⟨fun k' => ?_, names_assign hassign h.names, hpolicy⟩
  rw [latest?_snoc]
  by_cases hk' : k' = k
  · subst hk'
    obtain ⟨v, hv, hstored⟩ := exists_stored?_assign hassign
    simp [hk, hv, hstored]
  · have hne : SettingKey.read? key ≠ some k' := fun he =>
      hk' (Option.some.inj (he.symm.trans hk))
    rw [if_neg hne, h.latest, stored?_assign_of_ne hassign hk']

theorem Reflects.writeAll (h : Reflects log s) (writes : List (String × String)) :
    Reflects (log ++ (s.writeAll writes).1) (s.writeAll writes).2 := by
  -- The log grows at its end, so it stays general.
  induction writes generalizing log s with
  | nil => simpa [Settings.writeAll] using h
  | cons w rest ih =>
    obtain ⟨key, value⟩ := w
    rcases s.write_cases key value with ⟨e, he⟩ | ⟨k, t, -, -, -, heq⟩
    · simpa [Settings.writeAll, he] using ih h
    · simpa [Settings.writeAll, heq] using ih (h.write heq)

/-! ## The values in use -/

/-- A setting is read from texts and stored as values of one type, those that are fit for it. -/
structure IsKept {α : Type} (k : SettingKey) (wrap : α → SettingValue) (read : String → Option α)
    (fit : α → Bool) (stored : Settings → Option α) : Prop where
  /-- Values of the type can be told apart. -/
  injective : ∀ {a b}, wrap a = wrap b → a = b
  /-- A text stands for the value that is read from it, if that is fit. -/
  valueOf?_eq : ∀ text, k.valueOf? text = ((read text).filter fit).map wrap
  /-- The value is stored as it is. -/
  stored?_eq : ∀ s : Settings, s.stored? k = (stored s).map wrap

theorem isKept_timeout : IsKept .timeout .seconds readSeconds? (fun _ => true)
    fun s => s.poll.bind PollSection.timeoutSecs where
  injective := SettingValue.seconds.inj
  valueOf?_eq text := by
    have hall : (readSeconds? text).filter (fun _ => true) = readSeconds? text := by
      cases readSeconds? text <;> rfl
    rw [hall]
    rfl
  stored?_eq _ := rfl

theorem isKept_interval : IsKept .interval .seconds readSeconds? (0 < ·)
    fun s => s.poll.bind PollSection.intervalSecs where
  injective := SettingValue.seconds.inj
  valueOf?_eq _ := rfl
  stored?_eq _ := rfl

theorem isKept_hours : IsKept .hours .number readNumber? isHours
    fun s => s.pricing.bind PricingSection.hoursPerMonth where
  injective := SettingValue.number.inj
  valueOf?_eq _ := rfl
  stored?_eq _ := rfl

theorem isKept_commitment : IsKept .commitment .months readMonths? (0 < ·)
    fun s => s.pricing.bind PricingSection.commitmentMonths where
  injective := SettingValue.months.inj
  valueOf?_eq _ := rfl
  stored?_eq _ := rfl

theorem isKept_weight (d : Dimension) : IsKept (.weight d) .number readNumber? isWeight
    fun s => s.weights.bind fun weights => weights.get? d.key where
  injective := SettingValue.number.inj
  valueOf?_eq _ := rfl
  stored?_eq _ := rfl

section Kept

variable {α β : Type} {wrap : α → SettingValue} {read : String → Option α} {fit : α → Bool}
  {stored : Settings → Option α}

/-- What is stored is what was read from the last text, and is fit for the setting. -/
theorem Reflects.stored_cases (h : Reflects log s) (hk : IsKept k wrap read fit stored) :
    (latest? log k = none ∧ stored s = none) ∨
      ∃ text x, latest? log k = some text ∧ read (trim text) = some x ∧ fit x = true ∧
        stored s = some x := by
  have hlatest := h.latest k
  rw [hk.stored?_eq] at hlatest
  cases hl : latest? log k with
  | none =>
    rw [hl] at hlatest
    exact .inl ⟨rfl, by simpa using hlatest.symm⟩
  | some text =>
    rw [hl, Option.map_some, hk.valueOf?_eq] at hlatest
    obtain ⟨v, hv, hstored⟩ := Option.map_eq_some_iff.1 hlatest.symm
    obtain ⟨x, hx, rfl⟩ := Option.map_eq_some_iff.1 hv
    obtain ⟨y, hy, hyx⟩ := Option.map_eq_some_iff.1 hstored.symm
    obtain rfl := hk.injective hyx
    obtain ⟨hread, hfit⟩ := Option.filter_eq_some_iff.1 hy
    exact .inr ⟨text, y, rfl, hread, hfit, hx⟩

theorem Reflects.isLatest (h : Reflects log s) (hk : IsKept k wrap read fit stored) (f : α → β)
    (default : β) :
    IsLatest log k (fun text => (read text).map f) default ((stored s).elim default f) := by
  unfold IsLatest
  rcases h.stored_cases hk with ⟨hl, hs⟩ | ⟨text, x, hl, hread, -, hs⟩
  · rw [hl, hs]
    rfl
  · simp [hl, hs, hread]

/-- What is in use is what is stored, or a default value. -/
theorem Reflects.isLatest_getD (h : Reflects log s) (hk : IsKept k wrap read fit stored)
    (default : α) : IsLatest log k read default ((stored s).getD default) := by
  have hlatest := h.isLatest hk id default
  have hvalue : (stored s).elim default id = (stored s).getD default := by cases stored s <;> rfl
  rw [Option.map_id_fun, hvalue] at hlatest
  exact hlatest

theorem Reflects.fit_of_stored (h : Reflects log s) (hk : IsKept k wrap read fit stored) {x : α}
    (hx : stored s = some x) : fit x = true := by
  rcases h.stored_cases hk with ⟨-, hs⟩ | ⟨text, y, -, -, hfit, hs⟩
  · simp [hs] at hx
  · obtain rfl := Option.some.inj (hs.symm.trans hx)
    exact hfit

end Kept

/-- Entries under the names of dimensions, each a weight, are all applied. -/
theorem exists_applyWeights {entries : List (String × Binary64)}
    (hnames : ∀ e ∈ entries, ∃ d : Dimension, e.1 = d.key)
    (hfit : ∀ e ∈ entries, isWeight e.2 = true)
    (hascending : entries.Pairwise fun x y => x.1 < y.1) (weights : Weights) :
    ∃ w, applyWeights weights entries = .ok w ∧
      ∀ d, w.get d = (Entries.get? d.key entries).getD (weights.get d) := by
  induction entries generalizing weights with
  | nil => exact ⟨weights, rfl, fun d => rfl⟩
  | cons e rest ih =>
    obtain ⟨name, x⟩ := e
    obtain ⟨d, rfl⟩ : ∃ d : Dimension, name = d.key := hnames _ List.mem_cons_self
    have hx : isWeight x = true := hfit _ List.mem_cons_self
    rw [List.pairwise_cons] at hascending
    obtain ⟨w, hw, hget⟩ := ih (fun e he => hnames e (List.mem_cons_of_mem _ he))
      (fun e he => hfit e (List.mem_cons_of_mem _ he)) hascending.2 (weights.set d x)
    refine ⟨w, ?_, fun d' => ?_⟩
    · simp only [applyWeights, Dimension.read?_key, hx, if_true]
      exact hw
    · rw [hget, Weights.get_set, Entries.get?]
      by_cases hd : d' = d
      · -- No later entry has the name of this one.
        subst hd
        rw [Entries.get?_eq_none hascending.1, if_pos rfl, if_pos rfl]
        rfl
      · rw [if_neg hd, if_neg fun he => hd (Dimension.key_injective he)]

theorem Reflects.policy_inUse (h : Reflects log s) :
    ∃ p, s.policy = .ok p ∧ Span.zero < p.interval ∧ p.interval ≤ p.timeout ∧
      IsLatest log .timeout (fun text => (readSeconds? text).map Span.ofSeconds)
        Poll.Policy.default.timeout p.timeout ∧
      IsLatest log .interval (fun text => (readSeconds? text).map Span.ofSeconds)
        Poll.Policy.default.interval p.interval := by
  obtain ⟨p, hp⟩ := h.policy
  obtain ⟨htimeout, hinterval, hpos, hle⟩ := policy_eq_ok_iff.1 hp
  refine ⟨p, hp, hpos, hle, ?_, ?_⟩
  · rw [htimeout]
    exact h.isLatest isKept_timeout _ _
  · rw [hinterval]
    exact h.isLatest isKept_interval _ _

theorem Reflects.hours_inUse (h : Reflects log s) :
    ∃ x, s.hoursPerMonth = .ok x ∧ isHours x = true ∧
      IsLatest log .hours readNumber? Provisioning.hoursPerMonth x := by
  have hfit : isHours ((s.pricing.bind PricingSection.hoursPerMonth).getD
      Provisioning.hoursPerMonth) = true := by
    cases hs : s.pricing.bind PricingSection.hoursPerMonth with
    | none => decide +kernel
    | some x => exact h.fit_of_stored isKept_hours hs
  exact ⟨_, hoursPerMonth_eq_ok_iff.2 ⟨rfl, hfit⟩, hfit, h.isLatest_getD isKept_hours _⟩

theorem Reflects.commitment_inUse (h : Reflects log s) :
    ∃ months, s.commitment = .ok months ∧ (∀ n ∈ months, 1 ≤ n) ∧
      IsLatest log .commitment (fun text => (readMonths? text).map some) none months := by
  have hlatest := h.isLatest isKept_commitment some none
  have hfit : ∀ n ∈ s.pricing.bind PricingSection.commitmentMonths, 1 ≤ n := by
    intro n hn
    have hpos : 0 < n := of_decide_eq_true (h.fit_of_stored isKept_commitment (Option.mem_def.1 hn))
    exact Nat.succ_le_of_lt hpos
  have hvalue (o : Option UInt32) : o.elim none some = o := by cases o <;> rfl
  rw [hvalue] at hlatest
  exact ⟨_, commitment_eq_ok_iff.2 ⟨rfl, hfit⟩, hfit, hlatest⟩

theorem Reflects.weights_inUse (h : Reflects log s) :
    ∃ w, s.scoreWeights = .ok w ∧ ∀ d, isWeight (w.get d) = true ∧
      IsLatest log (.weight d) readNumber? (Weights.default.get d) (w.get d) := by
  have hnames : ∀ e ∈ s.storedWeights, ∃ d : Dimension, e.1 = d.key := by
    unfold storedWeights
    cases hs : s.weights with
    | none => simp
    | some weights => exact h.names weights hs
  have hfit : ∀ e ∈ s.storedWeights, isWeight e.2 = true := by
    intro e he
    obtain ⟨d, hd⟩ := hnames e he
    have hget := Entries.get?_of_mem s.ascending_storedWeights he
    rw [hd, get?_storedWeights] at hget
    exact h.fit_of_stored (isKept_weight d) hget
  obtain ⟨w, hw, hget⟩ := exists_applyWeights hnames hfit s.ascending_storedWeights Weights.default
  refine ⟨w, hw, fun d => ⟨isWeight_of_scoreWeights hw d, ?_⟩⟩
  rw [hget, get?_storedWeights]
  exact h.isLatest_getD (isKept_weight d) _

/-- **Settings that were written are fit for use, and are what was written last**, whatever the
writes and however many were refused. -/
theorem inUse_writeAll (writes : List (String × String)) :
    InUse (writeAll {} writes).1 (writeAll {} writes).2 := by
  have h : Reflects (writeAll {} writes).1 (writeAll {} writes).2 := by
    simpa using reflects_empty.writeAll writes
  obtain ⟨x, hx, hfit, hlatest⟩ := h.hours_inUse
  obtain ⟨w, hw, hweights⟩ := h.weights_inUse
  refine ⟨h.policy_inUse, ⟨x, hx, ?_, ?_, hlatest⟩, h.commitment_inUse, ⟨w, hw, fun d => ?_⟩⟩
  · exact (Bool.and_eq_true_iff.1 hfit).1
  · exact (Bool.and_eq_true_iff.1 hfit).2
  · obtain ⟨hfit, hlatest⟩ := hweights d
    exact ⟨(Bool.and_eq_true_iff.1 hfit).1, (Bool.and_eq_true_iff.1 hfit).2, hlatest⟩

/-- An interval longer than the timeout is refused, and so is one of no time. -/
example : (writeAll {} [("poll.timeout_secs", " 60 "), ("poll.interval_secs", "61"),
      ("poll.interval_secs", "0"), ("poll.interval_secs", "60")]).1 =
    [("poll.timeout_secs", " 60 "), ("poll.interval_secs", "60")] := by
  decide +kernel

end Settings

end Provisioning
