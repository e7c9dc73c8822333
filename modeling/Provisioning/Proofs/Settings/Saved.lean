import Provisioning.Proofs.Settings.Writes
import Provisioning.Proofs.Toml.Documents
import Provisioning.Settings.Document

/-!
# Saved settings are read back

The document of settings has a section for each part of them that is stored, and a section has an entry
for each setting that is. What is read under a name is then what was stored: it stands there once, or
not at all. Only seconds can be too large for a document.

## Main definitions

* `Keeps key read o l`: a list of entries has what is stored under a key, and nothing else
* `Settings.HoldsNumbers`: settings that hold no NaN
* `Settings.canonical`, `Settings.IsCanonical`: settings with all NaNs taken for one
* `Settings.WrittenAs`: the sections of a document say what settings hold
* `Settings.SecondsFit`: the seconds that are stored fit a document

## Main results

* `Settings.exists_writtenAs`: the document of settings is made of such sections
* `Settings.ofText?_of_toText?`: settings that are written are read back
* `Settings.ofText?_eq_canonical`: so are those with NaNs, up to these
* `Settings.exists_toText?_iff`: settings can be written if their seconds fit
* `Settings.saved_writeAll`: so are those that any writes lead to, and then they are read back
-/

namespace Provisioning

open Toml

variable {α β : Type} {key name : String} {o : Option α} {read : Value → Option α}

/-! ## What entries keep -/

/-- A list of entries has what is stored under a key, and nothing else. -/
structure Keeps (key : String) (read : Value → Option α) (o : Option α)
    (l : List (String × Value)) : Prop where
  keys : ∀ e ∈ l, e.1 = key
  nodup : (l.map Prod.fst).Nodup
  read_eq : Settings.optional? read (lookup key l) = some o

theorem keeps_none : Keeps key read none [] where
  keys := by simp
  nodup := List.nodup_nil
  read_eq := rfl

theorem keeps_some {a : α} {v : Value} (h : read v = some a) :
    Keeps key read (some a) [(key, v)] where
  keys := by simp
  nodup := List.nodup_singleton _
  read_eq := by simp [lookup, Settings.optional?, h]

theorem Keeps.ne {l : List (String × Value)} (h : Keeps key read o l) {other : String}
    (hne : key ≠ other) : ∀ e ∈ l, e.1 ≠ other :=
  fun e he heq => hne ((h.keys e he).symm.trans heq)

/-- Among entries of other keys the same is read. -/
theorem Keeps.read_append {l : List (String × Value)} (h : Keeps key read o l)
    {before after : List (String × Value)} (hbefore : ∀ e ∈ before, e.1 ≠ key)
    (hafter : ∀ e ∈ after, e.1 ≠ key) :
    Settings.optional? read (lookup key (before ++ (l ++ after))) = some o := by
  have hnone {l : List (String × Value)} (hl : ∀ e ∈ l, e.1 ≠ key) : lookup key l = none := by
    refine lookup_eq_none fun hmem => ?_
    obtain ⟨e, he, heq⟩ := List.mem_map.1 hmem
    exact hl e he heq
  rw [lookup_append, lookup_append, hnone hbefore, hnone hafter, Option.none_or, Option.or_none]
  exact h.read_eq

theorem Keeps.nodup_append {l after : List (String × Value)} (h : Keeps key read o l)
    (hafter : ∀ e ∈ after, e.1 ≠ key) (hnodup : (after.map Prod.fst).Nodup) :
    ((l ++ after).map Prod.fst).Nodup := by
  rw [List.map_append]
  refine List.nodup_append.2 ⟨h.nodup, hnodup, ?_⟩
  rintro k hk k' hk' rfl
  obtain ⟨e, he, rfl⟩ := List.mem_map.1 hk
  obtain ⟨e', he', heq⟩ := List.mem_map.1 hk'
  exact hafter e' he' (heq.trans (h.keys e he))

/-! ## Entries -/

/-- The entry of a setting that is stored, with its value. -/
theorem exists_entries {text : α → Option String} {texts : List (String × String)}
    (htext : ∀ a ∈ o, ∀ t, text a = some t → ∃ v, IsTextOf t v ∧ read v = some a)
    (h : Settings.entry key text o = some texts) :
    ∃ es : List WrittenEntry, texts = es.map (fun e => (e.key, e.text)) ∧
      Keeps key read o (es.map fun e => (e.key, e.value)) := by
  cases o with
  | none =>
    obtain rfl := Option.some.inj h
    exact ⟨[], rfl, keeps_none⟩
  | some a =>
    obtain ⟨t, ht, rfl⟩ := Option.map_eq_some_iff.1 h
    obtain ⟨v, hv, hread⟩ := htext a rfl t ht
    exact ⟨[⟨key, t, v, hv⟩], rfl, keeps_some hread⟩

/-- The section of a pair of settings. -/
theorem exists_pairSection (name : String) {first second : String} (hne : first ≠ second) {o' : Option β}
    {read' : Value → Option β} {text : α → Option String} {text' : β → Option String}
    {texts texts' : List (String × String)}
    (htext : ∀ a ∈ o, ∀ t, text a = some t → ∃ v, IsTextOf t v ∧ read v = some a)
    (htext' : ∀ a ∈ o', ∀ t, text' a = some t → ∃ v, IsTextOf t v ∧ read' v = some a)
    (h : Settings.entry first text o = some texts) (h' : Settings.entry second text' o' = some texts') :
    ∃ x : WrittenSection, x.name = name ∧ x.text = sectionText name (texts ++ texts') ∧
      ∀ {γ : Type} (make : Option α → Option β → γ),
        Settings.pair? first second read read' make x.content.2 = some (make o o') := by
  obtain ⟨es, rfl, hes⟩ := exists_entries htext h
  obtain ⟨es', rfl, hes'⟩ := exists_entries htext' h'
  have hdistinct : ((es ++ es').map WrittenEntry.key).Nodup := by
    have hnodup := hes.nodup_append (hes'.ne hne.symm) hes'.nodup
    simpa [List.map_map, Function.comp_def] using hnodup
  refine ⟨⟨name, es ++ es', hdistinct⟩, rfl, ?_, fun make => ?_⟩
  · unfold WrittenSection.text
    rw [List.map_append]
  · have hread := hes.read_append (List.forall_mem_nil _) (hes'.ne hne.symm)
    have hread' := hes'.read_append (hes.ne hne) (List.forall_mem_nil _)
    rw [List.nil_append] at hread
    rw [List.append_nil] at hread'
    unfold WrittenSection.content Settings.pair?
    simp only [List.map_append, hread, hread']
    rfl

/-- The map with its values changed. -/
def SortedMap.mapValues {κ ν ν' : Type} [KeyOrder κ] (f : ν → ν') (m : SortedMap κ ν) :
    SortedMap κ ν' where
  toList := m.toList.map fun e => (e.1, f e.2)
  ascending := List.pairwise_map.2 m.ascending

/-- The section with all NaNs taken for one. -/
def PricingSection.canonical (p : PricingSection) : PricingSection :=
  { p with hoursPerMonth := p.hoursPerMonth.map Binary64.canonical }

namespace Settings

variable {s : Settings} {t : String}

/-! ## Sections -/

theorem of_secondsText? {n : UInt64} (h : secondsText? n = some t) :
    ∃ v, IsTextOf t v ∧ seconds? v = some n := by
  unfold secondsText? at h
  split at h
  · next hn =>
    obtain rfl := Option.some.inj h
    exact ⟨_, isTextOf_toString hn, by simp [seconds?]⟩
  · cases h

theorem isTextOf_months (n : UInt32) :
    ∃ v, IsTextOf (toString n.toNat) v ∧ months? v = some n := by
  have hlt := n.toNat_lt
  have hn : n.toNat < integerLimit := by
    unfold integerLimit
    omega
  exact ⟨_, isTextOf_toString hn, by simp [months?]; omega⟩

theorem exists_pollSection {p : PollSection} (h : pollText? p = some t) :
    ∃ x : WrittenSection, x.name = "poll" ∧ x.text = t ∧ poll? x.content.2 = some p := by
  unfold pollText? at h
  simp only [Option.bind_eq_bind, Option.bind_eq_some_iff, Option.pure_def, Option.some.injEq] at h
  obtain ⟨texts, htexts, texts', htexts', rfl⟩ := h
  obtain ⟨x, hname, htext, hread⟩ := exists_pairSection "poll" (by decide)
    (fun _ _ _ => of_secondsText?) (fun _ _ _ => of_secondsText?) htexts htexts'
  exact ⟨x, hname, htext, hread _⟩

theorem exists_pricingSection {p : PricingSection} (hp : ∀ x ∈ p.hoursPerMonth, x.canonical = x)
    (h : pricingText? p = some t) :
    ∃ x : WrittenSection, x.name = "pricing" ∧ x.text = t ∧ pricing? x.content.2 = some p := by
  unfold pricingText? at h
  simp only [Option.bind_eq_bind, Option.bind_eq_some_iff, Option.pure_def, Option.some.injEq] at h
  obtain ⟨texts, htexts, texts', htexts', rfl⟩ := h
  have hhours : ∀ x ∈ p.hoursPerMonth, ∀ t, some (numberText x) = some t →
      ∃ v, IsTextOf t v ∧ number? v = some x := by
    intro x hx t ht
    obtain rfl := Option.some.inj ht
    exact ⟨_, isTextOf_numberText x, congrArg some (hp x hx)⟩
  have hmonths : ∀ n ∈ p.commitmentMonths, ∀ t, some (toString n.toNat) = some t →
      ∃ v, IsTextOf t v ∧ months? v = some n := by
    rintro n - t ht
    obtain rfl := Option.some.inj ht
    exact isTextOf_months n
  obtain ⟨x, hname, htext, hread⟩ := exists_pairSection "pricing" (by decide)
    hhours hmonths htexts htexts'
  exact ⟨x, hname, htext, hread _⟩

theorem mapM_number? (entries : List (String × Binary64)) :
    (entries.map fun e => (e.1, Value.float e.2)).mapM
      (fun entry => (number? entry.2).map fun x => (entry.1, x)) = some entries := by
  induction entries with
  | nil => rfl
  | cons e rest ih =>
    rw [List.map_cons, List.mapM_cons, ih]
    rfl

/-- The entry of a weight. -/
def weightEntry (e : String × Binary64) : WrittenEntry where
  key := e.1
  text := numberText e.2
  value := .float e.2.canonical
  isTextOf := isTextOf_numberText e.2

theorem exists_weightsSection {w : SortedMap String Binary64}
    (hw : ∀ e ∈ w.toList, e.2.canonical = e.2) (h : weightsText? w = some t) :
    ∃ x : WrittenSection, x.name = "weights" ∧ x.text = t ∧ weights? x.content.2 = some w := by
  unfold weightsText? at h
  obtain rfl := Option.some.inj h
  have hdistinct : ((w.toList.map weightEntry).map WrittenEntry.key).Nodup := by
    rw [List.map_map]
    exact w.nodup_keys
  have hvalues : (w.toList.map weightEntry).map (fun e => (e.key, e.value)) =
      w.toList.map fun e => (e.1, Value.float e.2) := by
    rw [List.map_map]
    exact List.map_congr_left fun e he => congrArg (fun x => (e.1, Value.float x)) (hw e he)
  refine ⟨⟨"weights", w.toList.map weightEntry, hdistinct⟩, rfl, ?_, ?_⟩
  · unfold WrittenSection.text
    rw [List.map_map]
    rfl
  · unfold WrittenSection.content weights?
    simp only [hvalues, mapM_number?, Option.map_some, SortedMap.ofList_toList]

/-! ## Documents -/

/-- The section that is stored, with what it says. -/
theorem exists_sections {text : α → Option String} {texts : List String}
    (htext : ∀ a ∈ o, ∀ t, text a = some t →
      ∃ x : WrittenSection, x.name = name ∧ x.text = t ∧ read x.content.2 = some a)
    (h : sectionOf? text o = some texts) :
    ∃ xs : List WrittenSection, texts = xs.map WrittenSection.text ∧
      Keeps name read o (xs.map WrittenSection.content) := by
  cases o with
  | none =>
    obtain rfl := Option.some.inj h
    exact ⟨[], rfl, keeps_none⟩
  | some a =>
    obtain ⟨t, ht, rfl⟩ := Option.map_eq_some_iff.1 h
    obtain ⟨x, rfl, rfl, hread⟩ := htext a rfl t ht
    exact ⟨[x], rfl, keeps_some hread⟩

theorem sectionOf?_map (text : β → Option String) (f : α → β) :
    sectionOf? text (o.map f) = sectionOf? (text ∘ f) o := by
  cases o <;> rfl

/-- Settings that hold no NaN. -/
structure HoldsNumbers (s : Settings) : Prop where
  hours : ∀ p ∈ s.pricing, ∀ x ∈ p.hoursPerMonth, x.isNaN = false
  weights : ∀ w ∈ s.weights, ∀ e ∈ w.toList, e.2.isNaN = false

/-- Settings with all NaNs taken for one. -/
def canonical (s : Settings) : Settings :=
  { s with
    pricing := s.pricing.map PricingSection.canonical
    weights := s.weights.map (SortedMap.mapValues Binary64.canonical) }

/-- Settings that hold no NaN but the canonical one. -/
structure IsCanonical (s : Settings) : Prop where
  hours : ∀ p ∈ s.pricing, ∀ x ∈ p.hoursPerMonth, x.canonical = x
  weights : ∀ w ∈ s.weights, ∀ e ∈ w.toList, e.2.canonical = e.2

theorem HoldsNumbers.isCanonical (h : s.HoldsNumbers) : s.IsCanonical where
  hours p hp x hx := Binary64.canonical_eq (h.hours p hp x hx)
  weights w hw e he := Binary64.canonical_eq (h.weights w hw e he)

theorem isCanonical_canonical (s : Settings) : s.canonical.IsCanonical where
  hours p hp x hx := by
    obtain ⟨p, -, rfl⟩ := Option.map_eq_some_iff.1 hp
    obtain ⟨x, -, rfl⟩ := Option.map_eq_some_iff.1 hx
    exact x.canonical_canonical
  weights w hw e he := by
    obtain ⟨w, -, rfl⟩ := Option.map_eq_some_iff.1 hw
    obtain ⟨e, -, rfl⟩ := List.mem_map.1 he
    exact e.2.canonical_canonical

/-- All NaNs are written alike. -/
theorem toText?_canonical (s : Settings) : s.canonical.toText? = s.toText? := by
  have hpricing : pricingText? ∘ PricingSection.canonical = pricingText? := by
    funext p
    rcases p with ⟨- | x, months⟩
    · rfl
    · simp [pricingText?, PricingSection.canonical, entry, numberText_canonical]
  have hweights : weightsText? ∘ SortedMap.mapValues Binary64.canonical = weightsText? := by
    funext w
    simp [weightsText?, SortedMap.mapValues, Function.comp_def, numberText_canonical]
  unfold toText? canonical
  rw [sectionOf?_map, sectionOf?_map, hpricing, hweights]

/-- The sections of a document say what settings hold. -/
structure WrittenAs (s : Settings) (sections : List WrittenSection) : Prop where
  names : (sections.map WrittenSection.name).Nodup
  read_eq : ofEntries? (sections.map WrittenSection.content) = some s

/-- Sections that keep the three parts of settings, in their order, say what the settings hold. -/
theorem writtenAs_append {ps qs ws : List WrittenSection}
    (hps : Keeps "poll" poll? s.poll (ps.map WrittenSection.content))
    (hqs : Keeps "pricing" pricing? s.pricing (qs.map WrittenSection.content))
    (hws : Keeps "weights" weights? s.weights (ws.map WrittenSection.content)) :
    s.WrittenAs (ps ++ (qs ++ ws)) where
  names := by
    have hnodup := hps.nodup_append
      (List.forall_mem_append.2 ⟨hqs.ne (by decide), hws.ne (by decide)⟩)
      (hqs.nodup_append (hws.ne (by decide)) hws.nodup)
    simpa [List.map_map, Function.comp_def, WrittenSection.content] using hnodup
  read_eq := by
    have hpoll := hps.read_append (List.forall_mem_nil _)
      (List.forall_mem_append.2 ⟨hqs.ne (by decide), hws.ne (by decide)⟩)
    have hpricing := hqs.read_append (hps.ne (by decide)) (hws.ne (by decide))
    have hweights := hws.read_append
      (List.forall_mem_append.2 ⟨hps.ne (by decide), hqs.ne (by decide)⟩) (List.forall_mem_nil _)
    rw [List.nil_append] at hpoll
    rw [List.append_nil, List.append_assoc] at hweights
    unfold ofEntries?
    simp only [List.map_append, hpoll, hpricing, hweights]
    rfl

/-- The document of canonical settings is made of sections that say what they hold. -/
theorem IsCanonical.exists_writtenAs (hs : s.IsCanonical) (h : s.toText? = some t) :
    ∃ sections, s.WrittenAs sections ∧ documentText sections = t := by
  unfold toText? at h
  simp only [Option.bind_eq_bind, Option.bind_eq_some_iff, Option.pure_def, Option.some.injEq] at h
  obtain ⟨polls, hpolls, prices, hprices, weights, hweights, rfl⟩ := h
  obtain ⟨ps, rfl, hps⟩ := exists_sections (fun _ _ _ => exists_pollSection) hpolls
  obtain ⟨qs, rfl, hqs⟩ := exists_sections
    (fun p hp _ => exists_pricingSection (hs.hours p hp)) hprices
  obtain ⟨ws, rfl, hws⟩ := exists_sections
    (fun w hw _ => exists_weightsSection (hs.weights w hw)) hweights
  refine ⟨_, writtenAs_append hps hqs hws, ?_⟩
  unfold documentText
  rw [List.map_append, List.map_append, List.append_assoc]

/-- The document of settings without NaNs is made of sections that say what they hold. -/
theorem exists_writtenAs (hnan : s.HoldsNumbers) (h : s.toText? = some t) :
    ∃ sections, s.WrittenAs sections ∧ documentText sections = t :=
  hnan.isCanonical.exists_writtenAs h

theorem WrittenAs.ofText?_documentText {sections : List WrittenSection} (h : s.WrittenAs sections) :
    ofText? (documentText sections) = some s := by
  unfold ofText?
  rw [readDocument?_documentText h.names]
  exact h.read_eq

/-- **Settings that are written are read back**, each bit of them, if they hold no NaN: whatever
sections are missing, empty or filled in part, and whatever the names of weights. -/
theorem ofText?_of_toText? (hnan : s.HoldsNumbers) (h : s.toText? = some t) :
    ofText? t = some s := by
  obtain ⟨sections, hwritten, rfl⟩ := exists_writtenAs hnan h
  exact hwritten.ofText?_documentText

/-- What is written is read back up to NaNs, which are all read as the canonical one. -/
theorem ofText?_eq_canonical (h : s.toText? = some t) : ofText? t = some s.canonical := by
  rw [← s.toText?_canonical] at h
  obtain ⟨sections, hwritten, rfl⟩ := s.isCanonical_canonical.exists_writtenAs h
  exact hwritten.ofText?_documentText

/-- Weights of names that need quotes and escapes, an empty section and a missing one. -/
def unusual : Settings where
  poll := some {}
  weights := some
    { toList := [("", ⟨0x3FB999999999999A⟩), ("\x01\n", Binary64.negZero), ("a.b", Binary64.infinity),
        ("it's \"quoted\"", ⟨0x4024000000000000⟩), ("é\\", ⟨0xBFF8000000000000⟩)]
      ascending := by decide +kernel }

theorem ofText?_of_toText?_unusual :
    unusual.HoldsNumbers ∧
      unusual.toText? = some ("[poll]\n\n[weights]\n\"\" = 0.1\n\"\\u0001\\n\" = -0.0\n" ++
        "\"a.b\" = inf\n\"it's \\\"quoted\\\"\" = 10.0\n'é\\' = -1.5\n") ∧
      ofText? ("[poll]\n\n[weights]\n\"\" = 0.1\n\"\\u0001\\n\" = -0.0\n" ++
        "\"a.b\" = inf\n\"it's \\\"quoted\\\"\" = 10.0\n'é\\' = -1.5\n") = some unusual := by
  have hnan : unusual.HoldsNumbers := ⟨by simp [unusual], by decide +kernel⟩
  have htext : unusual.toText? =
      some ("[poll]\n\n[weights]\n\"\" = 0.1\n\"\\u0001\\n\" = -0.0\n" ++
        "\"a.b\" = inf\n\"it's \\\"quoted\\\"\" = 10.0\n'é\\' = -1.5\n") := by
    decide +kernel
  exact ⟨hnan, htext, ofText?_of_toText? hnan htext⟩

/-! ## Settings that can be written -/

theorem exists_secondsText?_iff {n : UInt64} :
    (∃ t, secondsText? n = some t) ↔ n.toNat < integerLimit := by
  unfold secondsText?
  by_cases h : n.toNat < integerLimit <;> simp [h]

/-- A setting can be written if its value can. -/
theorem exists_entry_iff {text : α → Option String} :
    (∃ texts, entry key text o = some texts) ↔ ∀ a ∈ o, ∃ t, text a = some t := by
  cases o with
  | none => simp [entry]
  | some a => simp [entry]

theorem exists_sectionOf?_iff {text : α → Option String} :
    (∃ texts, sectionOf? text o = some texts) ↔ ∀ a ∈ o, ∃ t, text a = some t := by
  cases o with
  | none => simp [sectionOf?]
  | some a => simp [sectionOf?]

theorem exists_pollText?_iff {p : PollSection} :
    (∃ t, pollText? p = some t) ↔
      (∀ n ∈ p.timeoutSecs, n.toNat < integerLimit) ∧
        ∀ n ∈ p.intervalSecs, n.toNat < integerLimit := by
  have hfield (key : String) (o : Option UInt64) :
      (∃ texts, entry key secondsText? o = some texts) ↔ ∀ n ∈ o, n.toNat < integerLimit := by
    rw [exists_entry_iff]
    simp only [exists_secondsText?_iff]
  rw [← hfield "timeout_secs", ← hfield "interval_secs"]
  unfold pollText?
  simp only [Option.bind_eq_bind, Option.bind_eq_some_iff, Option.pure_def, Option.some.injEq]
  constructor
  · rintro ⟨t, texts, h, texts', h', -⟩
    exact ⟨⟨texts, h⟩, texts', h'⟩
  · rintro ⟨⟨texts, h⟩, texts', h'⟩
    exact ⟨_, texts, h, texts', h', rfl⟩

theorem exists_pricingText? (p : PricingSection) : ∃ t, pricingText? p = some t := by
  rcases p with ⟨- | x, - | n⟩ <;> exact ⟨_, rfl⟩

/-- The seconds that are stored fit a document. -/
def SecondsFit (s : Settings) : Prop :=
  ∀ k n, s.stored? k = some (.seconds n) → n.toNat < integerLimit

theorem of_map_seconds {o : Option UInt64} {n : UInt64}
    (h : o.map SettingValue.seconds = some (.seconds n)) : o = some n := by
  obtain ⟨m, hm, heq⟩ := Option.map_eq_some_iff.1 h
  exact SettingValue.seconds.inj heq ▸ hm

theorem secondsFit_iff :
    s.SecondsFit ↔ ∀ p ∈ s.poll, (∀ n ∈ p.timeoutSecs, n.toNat < integerLimit) ∧
      ∀ n ∈ p.intervalSecs, n.toNat < integerLimit := by
  constructor
  · intro h p hp
    refine ⟨fun n hn => h .timeout n ?_, fun n hn => h .interval n ?_⟩
    · simp [stored?, Option.mem_def.1 hp, Option.mem_def.1 hn]
    · simp [stored?, Option.mem_def.1 hp, Option.mem_def.1 hn]
  · intro h k n hn
    cases k with
    | timeout =>
      obtain ⟨p, hp, hp'⟩ := Option.bind_eq_some_iff.1 (of_map_seconds hn)
      exact (h p hp).1 n hp'
    | interval =>
      obtain ⟨p, hp, hp'⟩ := Option.bind_eq_some_iff.1 (of_map_seconds hn)
      exact (h p hp).2 n hp'
    | hours | commitment | weight d =>
      obtain ⟨v, -, heq⟩ := Option.map_eq_some_iff.1 hn
      cases heq

/-- Settings can be written if their seconds fit a document. -/
theorem exists_toText?_iff : (∃ t, s.toText? = some t) ↔ s.SecondsFit := by
  rw [secondsFit_iff]
  simp only [← exists_pollText?_iff, ← exists_sectionOf?_iff]
  unfold toText?
  simp only [Option.bind_eq_bind, Option.bind_eq_some_iff, Option.pure_def, Option.some.injEq]
  constructor
  · rintro ⟨t, polls, h, -⟩
    exact ⟨polls, h⟩
  · -- The other two sections can always be written.
    rintro ⟨polls, h⟩
    obtain ⟨prices, hprices⟩ : ∃ prices, sectionOf? pricingText? s.pricing = some prices :=
      exists_sectionOf?_iff.2 fun p _ => exists_pricingText? p
    obtain ⟨weights, hweights⟩ : ∃ weights, sectionOf? weightsText? s.weights = some weights :=
      exists_sectionOf?_iff.2 fun w _ => ⟨_, rfl⟩
    exact ⟨_, polls, h, prices, hprices, weights, hweights, rfl⟩

/-- Settings that were written hold no NaN. -/
theorem Reflects.holdsNumbers {log : List (String × String)} (h : Reflects log s) :
    s.HoldsNumbers where
  hours p hp x hx := by
    have hfit : isHours x = true := h.fit_of_stored isKept_hours (by
      rw [Option.mem_def.1 hp]
      exact hx)
    exact Binary64.isNaN_of_isFinite (Bool.and_eq_true_iff.1 hfit).1
  weights w hw e he := by
    obtain ⟨d, hd⟩ := h.names w hw e he
    have hget : w.get? d.key = some e.2 := hd ▸ Entries.get?_of_mem w.ascending he
    have hfit : isWeight e.2 = true := h.fit_of_stored (isKept_weight d) (by
      rw [Option.mem_def.1 hw]
      exact hget)
    exact Binary64.isNaN_of_isFinite (Bool.and_eq_true_iff.1 hfit).1

/-- **Settings that were written can be saved and are read back**, whatever the writes, if and only if
all seconds among them fit a document. -/
theorem saved_writeAll (writes : List (String × String)) :
    (∃ t, (writeAll {} writes).2.toText? = some t ∧ ofText? t = some (writeAll {} writes).2) ↔
      (writeAll {} writes).2.SecondsFit := by
  have h : Reflects (writeAll {} writes).1 (writeAll {} writes).2 := by
    simpa using reflects_empty.writeAll writes
  rw [← exists_toText?_iff]
  constructor
  · rintro ⟨t, ht, -⟩
    exact ⟨t, ht⟩
  · rintro ⟨t, ht⟩
    obtain ⟨sections, hwritten, rfl⟩ := exists_writtenAs h.holdsNumbers ht
    exact ⟨_, ht, hwritten.ofText?_documentText⟩

/-- A timeout of `2 ^ 63` seconds is written, and the settings cannot be saved then. -/
theorem not_saved_two_pow_63_seconds :
    (writeAll {} [("poll.timeout_secs", "9223372036854775808")]).1 =
        [("poll.timeout_secs", "9223372036854775808")] ∧
      ¬ ∃ t, (writeAll {} [("poll.timeout_secs", "9223372036854775808")]).2.toText? = some t := by
  have hnone : (writeAll {} [("poll.timeout_secs", "9223372036854775808")]).2.toText? = none := by
    decide +kernel
  refine ⟨by decide +kernel, ?_⟩
  rintro ⟨t, ht⟩
  rw [hnone] at ht
  cases ht

end Settings

end Provisioning
