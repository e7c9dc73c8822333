import Provisioning.Proofs.Quantity.Units
import Provisioning.Proofs.Quantity.Values

/-!
# The grammars of sizes and durations

Which texts are sizes and durations, which of these have no value, and what a text may be changed in
without another reading. The two readers differ in their units and in what they make of a number only, so
they are taken as one reader with parameters.

## Main definitions

* `QuantityKind`: what sizes and durations differ in; `QuantityKind.sizes`, `QuantityKind.durations`
* `QuantityKind.HasForm`, `QuantityKind.HasFault`, `QuantityKind.HasValue`: the form of a text, why it has
  no value, and which value it has
* `SameReading`: the same value, or errors of one kind
* `QuantityKind.Classifies`: a reader tells the forms and the faults, and reads respelled texts alike

## Main results

* `QuantityKind.Lawful.classifies`: a reader of such a kind does so
* `classifies_quantities`: the readers of sizes and of durations do so
-/

namespace Provisioning

open Text

variable {υ α : Type}

/-- What sizes and durations differ in. -/
structure QuantityKind (υ α : Type) where
  /-- The texts for a unit. -/
  Names : υ → List Char → Prop
  /-- The character outside ASCII that counts as a letter of a unit. -/
  special : Char
  /-- A number of units in the one that values are given in. -/
  convert : Binary64 → υ → Binary64
  /-- A number of these is too great for a value. -/
  TooGreat : Binary64 → Prop
  /-- The value of such a number. -/
  value? : Binary64 → Option α
  /-- The error for a text without the form. -/
  malformed : String → QuantityError

/-- Two readings give the same value, or errors of the same kind. -/
inductive SameReading : Except QuantityError α → Except QuantityError α → Prop
  | value (x : α) : SameReading (.ok x) (.ok x)
  | malformedSize (raw raw' : String) :
      SameReading (.error (.malformedSize raw)) (.error (.malformedSize raw'))
  | malformedDuration (raw raw' : String) :
      SameReading (.error (.malformedDuration raw)) (.error (.malformedDuration raw'))
  | unusable (raw raw' : String) : SameReading (.error (.unusable raw)) (.error (.unusable raw'))

namespace QuantityKind

/-- Sizes are given in gigabytes. No number of them is too great. -/
def sizes : QuantityKind SizeUnit Binary64 where
  Names := SizeUnit.Names
  special := '\u212A'
  convert := SizeUnit.toGigabytes
  TooGreat _ := False
  value? := some
  malformed := .malformedSize

/-- Durations are given in seconds, as the span nearest to these. -/
def durations : QuantityKind DurationUnit Span where
  Names := DurationUnit.Names
  special := '\u017F'
  convert := DurationUnit.toSeconds
  TooGreat seconds := (Binary64.ofNat (2 ^ 64)).le seconds = true
  value? := Span.ofSeconds?
  malformed := .malformedDuration

/-- A text has the form: a number, and a unit after it. -/
def HasForm (k : QuantityKind υ α) (s : List Char) : Prop :=
  ∃ q : Quantity, q.Spells s ∧ ∃ unit, k.Names unit q.unit

/-- A text of the form counts a number, in double precision: the number that is read, in its unit. -/
def Counts (k : QuantityKind υ α) (s : List Char) (x : Binary64) : Prop :=
  ∃ (q : Quantity) (unit : υ) (n : Binary64), q.Spells s ∧ k.Names unit q.unit ∧
    readNumber? (String.ofList q.number) = some n ∧ x = k.convert n unit

/-- Why a text of the form has no value: it holds a digit of another script or the special character, or
the number is too great. -/
inductive HasFault (k : QuantityKind υ α) (s : List Char) : Prop
  | digit (h : HasForeignDigit s)
  | special (h : k.special ∈ s)
  | tooGreat {x : Binary64} (hx : k.Counts s x) (h : k.TooGreat x)

/-- The value of a text of the form. -/
def HasValue (k : QuantityKind υ α) (s : List Char) (v : α) : Prop :=
  ∃ x, k.Counts s x ∧ k.value? x = some v

/-- A reader tells texts of the form from others, and those with a fault from those with a value. Texts
that are respelled it reads alike. -/
structure Classifies (k : QuantityKind υ α) (read : String → Except QuantityError α) : Prop where
  malformed_iff : ∀ raw, read raw = .error (k.malformed raw) ↔ ¬ k.HasForm raw.toList
  unusable_iff : ∀ raw, read raw = .error (.unusable raw) ↔
    k.HasForm raw.toList ∧ k.HasFault raw.toList
  ok_iff : ∀ raw, (∃ v, read raw = .ok v) ↔ k.HasForm raw.toList ∧ ¬ k.HasFault raw.toList
  value : ∀ raw v, read raw = .ok v → k.HasValue raw.toList v
  respelled : ∀ raw raw', Respelled raw.toList raw'.toList → SameReading (read raw) (read raw')

end QuantityKind

/-! ## Parts of a text -/

variable {q : Quantity} {s : List Char} {c : Char}

/-- What is no blank stands in the number or in the unit. -/
theorem Quantity.Spells.mem_iff (h : q.Spells s) (hc : isBlank c = false) :
    c ∈ s ↔ c ∈ q.number ∨ c ∈ q.unit := by
  obtain ⟨-, before, between, after, hbefore, hbetween, hafter, rfl⟩ := h
  have hnot {blanks : List Char} (hblanks : AllBlank blanks) : c ∉ blanks := by
    intro hmem
    rw [hblanks c hmem] at hc
    cases hc
  simp only [List.mem_append, hnot hbefore, hnot hbetween, hnot hafter, false_or, or_false]

theorem Quantity.Spells.hasForeignDigit_iff (h : q.Spells s) (hunit : ∀ c ∈ q.unit, IsPlain c) :
    HasForeignDigit s ↔ HasForeignDigit q.number := by
  constructor
  · rintro ⟨c, hc, hdigit, hforeign⟩
    have hblank : isBlank c = false := by
      rw [Bool.eq_false_iff]
      intro hblank
      rw [isDecimalDigit_of_isBlank hblank] at hdigit
      cases hdigit
    rcases (h.mem_iff hblank).1 hc with hc | hc
    · exact ⟨c, hc, hdigit, hforeign⟩
    · rw [(hunit c hc).isDecimalDigit] at hdigit
      cases hdigit
  · rintro ⟨c, hc, hdigit, hforeign⟩
    obtain ⟨-, before, between, after, -, -, -, rfl⟩ := h
    exact ⟨c, by simp [hc], hdigit, hforeign⟩

/-- A plain character stands in the unit only. -/
theorem Quantity.Spells.mem_iff_of_isPlain (h : q.Spells s) (hc : IsPlain c) :
    c ∈ s ↔ c ∈ q.unit := by
  refine (h.mem_iff hc.isBlank).trans (or_iff_right fun hmem => ?_)
  rcases h.1.of_mem hmem with hdigit | hpoint
  · rw [hc.isDecimalDigit] at hdigit
    cases hdigit
  · exact hc.ne_point hpoint

/-! ## One reader for both kinds -/

namespace QuantityKind

variable {k : QuantityKind υ α} {fold : Char → Char} {ofFolded? : List Char → Option υ}
  {raw raw' : String}

/-- The reader that folds the unit of a text and looks it up. -/
def read (k : QuantityKind υ α) (fold : Char → Char) (ofFolded? : List Char → Option υ)
    (raw : String) : Except QuantityError α :=
  match Quantity.ofChars? raw.toList with
  | none => .error (k.malformed raw)
  | some q =>
    match ofFolded? (q.unit.map fold) with
    | none => .error (k.malformed raw)
    | some unit =>
      match readNumber? (String.ofList q.number) with
      | some n =>
        if q.unit.contains k.special then .error (.unusable raw)
        else
          match k.value? (k.convert n unit) with
          | some v => .ok v
          | none => .error (.unusable raw)
      | none => .error (.unusable raw)

/-- What the reader relies on. -/
structure Lawful (k : QuantityKind υ α) (fold : Char → Char) (ofFolded? : List Char → Option υ) :
    Prop where
  fold_asciiLower : ∀ c, fold (asciiLower c) = fold c
  ofFolded?_iff : ∀ u unit, ofFolded? (u.map fold) = some unit ↔ k.Names unit u
  isPlain : ∀ u unit, k.Names unit u → ∀ c ∈ u, IsPlain c
  isPlain_special : IsPlain k.special
  lt_special : 122 < k.special.toNat
  value?_eq_none_iff : ∀ n, n.IsUnsigned → ∀ unit,
    k.value? (k.convert n unit) = none ↔ k.TooGreat (k.convert n unit)
  malformed_ne : ∀ raw, k.malformed raw ≠ .unusable raw
  sameReading_malformed : ∀ raw raw',
    SameReading (α := α) (.error (k.malformed raw)) (.error (k.malformed raw'))

namespace Lawful

theorem read_of_not_hasForm (hk : k.Lawful fold ofFolded?) (h : ¬ k.HasForm raw.toList) :
    k.read fold ofFolded? raw = .error (k.malformed raw) := by
  unfold read
  split
  · rfl
  next q hq =>
  split
  · rfl
  next unit hunit =>
  exact absurd ⟨q, Quantity.spells_of_ofChars? hq, unit, (hk.ofFolded?_iff _ _).1 hunit⟩ h

/-- A text counts one number at most. -/
theorem eq_of_counts (hk : k.Lawful fold ofFolded?) {s : List Char} {x n : Binary64} {q : Quantity}
    {unit : υ} (h : k.Counts s x) (hq : q.Spells s) (hunit : k.Names unit q.unit)
    (hn : readNumber? (String.ofList q.number) = some n) : x = k.convert n unit := by
  obtain ⟨q', unit', n', hq', hunit', hn', rfl⟩ := h
  have hsame := (Quantity.ofChars?_eq_some_iff (hk.isPlain _ _ hunit)).2 hq
  rw [(Quantity.ofChars?_eq_some_iff (hk.isPlain _ _ hunit')).2 hq'] at hsame
  obtain rfl := Option.some.inj hsame
  rw [← hk.ofFolded?_iff] at hunit hunit'
  obtain rfl := Option.some.inj (hunit.symm.trans hunit')
  obtain rfl := Option.some.inj (hn.symm.trans hn')
  rfl

theorem read_of_hasForm (hk : k.Lawful fold ofFolded?) (h : k.HasForm raw.toList) :
    k.HasFault raw.toList ∧ k.read fold ofFolded? raw = .error (.unusable raw) ∨
      ¬ k.HasFault raw.toList ∧ ∃ v, k.read fold ofFolded? raw = .ok v ∧ k.HasValue raw.toList v := by
  obtain ⟨q, hq, unit, hunit⟩ := h
  have hplain := hk.isPlain _ _ hunit
  have hdigit := hq.hasForeignDigit_iff hplain
  have hspecial := hq.mem_iff_of_isPlain hk.isPlain_special
  -- The text has one number and one unit, so the reader meets these.
  unfold read
  rw [(Quantity.ofChars?_eq_some_iff hplain).2 hq]
  simp only [(hk.ofFolded?_iff _ _).2 hunit]
  cases hn : readNumber? (String.ofList q.number) with
  | none => exact .inl ⟨.digit (hdigit.2 ((readNumber?_eq_none_iff hq.1).1 hn)), rfl⟩
  | some n =>
    have hascii := not_hasForeignDigit_of_readNumber? hq.1 hn
    have hcounts : k.Counts raw.toList (k.convert n unit) := ⟨q, unit, n, hq, hunit, hn, rfl⟩
    have hgreat := hk.value?_eq_none_iff n (isUnsigned_of_readNumber? hq.1 hn) unit
    dsimp only
    split
    · next hcontains =>
      exact .inl ⟨.special (hspecial.2 (List.contains_iff_mem.1 hcontains)), rfl⟩
    next hcontains =>
    cases hv : k.value? (k.convert n unit) with
    | none => exact .inl ⟨.tooGreat hcounts (hgreat.1 hv), rfl⟩
    | some v =>
      refine .inr ⟨?_, v, rfl, _, hcounts, hv⟩
      rintro (h | h | ⟨hx, h⟩)
      · exact hascii (hdigit.1 h)
      · exact hcontains (List.contains_iff_mem.2 (hspecial.1 h))
      · rw [hk.eq_of_counts hx hq hunit hn, ← hgreat, hv] at h
        cases h

theorem sameReading (hk : k.Lawful fold ofFolded?) (h : Respelled raw.toList raw'.toList) :
    SameReading (k.read fold ofFolded? raw) (k.read fold ofFolded? raw') := by
  unfold read
  rcases h.ofChars?_cases with ⟨hq, hq'⟩ | ⟨q, q', hq, hq', hnumber, hunit⟩
  · rw [hq, hq']
    exact hk.sameReading_malformed raw raw'
  · have hfold := map_eq_of_map_asciiLower_eq hk.fold_asciiLower hunit
    have hspecial := contains_eq_of_map_asciiLower_eq hk.lt_special hunit
    rw [hq, hq']
    simp only [hnumber, hfold, hspecial]
    split
    · exact hk.sameReading_malformed raw raw'
    split
    · split
      · exact .unusable raw raw'
      split
      · exact .value _
      · exact .unusable raw raw'
    · exact .unusable raw raw'

/-- **The reader classifies texts.** Its three cases exclude each other. -/
theorem classifies (hk : k.Lawful fold ofFolded?) : k.Classifies (k.read fold ofFolded?) where
  malformed_iff raw := by
    refine ⟨fun h hf => ?_, hk.read_of_not_hasForm⟩
    rcases hk.read_of_hasForm hf with ⟨-, hread⟩ | ⟨-, v, hread, -⟩
    · exact hk.malformed_ne raw (Except.error.inj (h.symm.trans hread))
    · cases h.symm.trans hread
  unusable_iff raw := by
    by_cases hf : k.HasForm raw.toList
    · rw [and_iff_right hf]
      rcases hk.read_of_hasForm hf with ⟨hfault, hread⟩ | ⟨hfault, v, hread, -⟩
      · exact iff_of_true hread hfault
      · exact iff_of_false (fun h => nomatch h.symm.trans hread) hfault
    · refine iff_of_false (fun h => ?_) fun h => hf h.1
      exact hk.malformed_ne raw (Except.error.inj ((hk.read_of_not_hasForm hf).symm.trans h))
  ok_iff raw := by
    by_cases hf : k.HasForm raw.toList
    · rw [and_iff_right hf]
      rcases hk.read_of_hasForm hf with ⟨hfault, hread⟩ | ⟨hfault, v, hread, -⟩
      · exact iff_of_false (fun ⟨v, h⟩ => nomatch h.symm.trans hread) (not_not.2 hfault)
      · exact iff_of_true ⟨v, hread⟩ hfault
    · exact iff_of_false (fun ⟨v, h⟩ => nomatch h.symm.trans (hk.read_of_not_hasForm hf))
        fun h => hf h.1
  value raw v h := by
    by_cases hf : k.HasForm raw.toList
    · rcases hk.read_of_hasForm hf with ⟨-, hread⟩ | ⟨-, w, hread, hw⟩
      · cases h.symm.trans hread
      · obtain rfl := Except.ok.inj (h.symm.trans hread)
        exact hw
    · cases h.symm.trans (hk.read_of_not_hasForm hf)
  respelled _ _ := hk.sameReading

end Lawful

/-! ## Sizes and durations -/

theorem lawful_sizes : sizes.Lawful SizeUnit.foldCase SizeUnit.ofFolded? where
  fold_asciiLower := SizeUnit.foldCase_asciiLower
  ofFolded?_iff _ _ := SizeUnit.ofFolded?_map_iff
  isPlain _ _ := SizeUnit.Names.isPlain
  isPlain_special := ⟨by decide, by decide, by decide⟩
  lt_special := by decide
  value?_eq_none_iff _ _ _ := iff_of_false (Option.some_ne_none _) not_false
  malformed_ne _ := by intro h; cases h
  sameReading_malformed := .malformedSize

theorem lawful_durations : durations.Lawful DurationUnit.foldCase DurationUnit.ofFolded? where
  fold_asciiLower := DurationUnit.foldCase_asciiLower
  ofFolded?_iff _ _ := DurationUnit.ofFolded?_map_iff
  isPlain _ _ := DurationUnit.Names.isPlain
  isPlain_special := ⟨by decide, by decide, by decide⟩
  lt_special := by decide
  value?_eq_none_iff _ hn unit := Span.ofSeconds?_eq_none_iff (unit.isUnsigned_toSeconds hn)
  malformed_ne _ := by intro h; cases h
  sameReading_malformed := .malformedDuration

theorem read_sizes : sizes.read SizeUnit.foldCase SizeUnit.ofFolded? = readSize := by
  funext raw
  unfold read readSize sizes
  cases Quantity.ofChars? raw.toList with
  | none => rfl
  | some q =>
    dsimp only
    cases SizeUnit.ofFolded? (q.unit.map SizeUnit.foldCase) with
    | none => rfl
    | some unit => cases readNumber? (String.ofList q.number) <;> rfl

theorem read_durations :
    durations.read DurationUnit.foldCase DurationUnit.ofFolded? = readDuration := by
  funext raw
  unfold read readDuration durations
  cases Quantity.ofChars? raw.toList with
  | none => rfl
  | some q =>
    dsimp only
    cases DurationUnit.ofFolded? (q.unit.map DurationUnit.foldCase) with
    | none => rfl
    | some unit =>
      cases readNumber? (String.ofList q.number) with
      | none => rfl
      | some n =>
        dsimp only
        cases Span.ofSeconds? (unit.toSeconds n) <;> rfl

end QuantityKind

/-- **Sizes and durations are read by their grammars**: what has not the form is malformed, what has it
and a fault is unusable, everything else has a value, and neither case nor blanks matter. -/
theorem classifies_quantities : QuantityKind.sizes.Classifies readSize ∧
    QuantityKind.durations.Classifies readDuration := by
  constructor
  · rw [← QuantityKind.read_sizes]
    exact QuantityKind.lawful_sizes.classifies
  · rw [← QuantityKind.read_durations]
    exact QuantityKind.lawful_durations.classifies

/-- A Kelvin sign makes a size that has no value. -/
example : readSize "1 \u212AB" = .error (.unusable "1 \u212AB") := by rfl

end Provisioning
