import Mathlib.Data.List.Forall2
import Provisioning.Proofs.Text.Classes
import Provisioning.Quantity.Duration
import Provisioning.Quantity.Size

/-!
# Words for units

The words that name units, and the texts that count as such a word: each letter may be a capital, and
two letters have a third form outside ASCII. A reader folds a text and compares it with the words.

## Main definitions

* `CountsAs`: a character in place of a small letter
* `SizeUnit.IsWord`, `DurationUnit.IsWord`: the words for units
* `SizeUnit.Names`, `DurationUnit.Names`: the texts that count as such words

## Main results

* `SizeUnit.ofFolded?_map_iff`, `DurationUnit.ofFolded?_map_iff`: what folding and comparing finds
-/

namespace Provisioning

open Text

/-- A character counts as a small letter, case aside: the small letter itself, its capital, the Kelvin
sign for `k`, the long s for `s`. -/
inductive CountsAs : Char → Char → Prop
  | small (letter : Char) : CountsAs letter letter
  | capital (letter : Char) : CountsAs letter letter.toUpper
  | kelvin : CountsAs 'k' '\u212A'
  | longS : CountsAs 's' '\u017F'

/-- The letters for the units of sizes. No letter stands for gigabytes. -/
inductive SizeUnit.IsLetter : SizeUnit → List Char → Prop
  | unnamed : IsLetter .giga []
  | kilo : IsLetter .kilo ['k']
  | mega : IsLetter .mega ['m']
  | giga : IsLetter .giga ['g']
  | tera : IsLetter .tera ['t']
  | peta : IsLetter .peta ['p']

/-- What may follow the letter. -/
def byteMarks : List (List Char) := [[], ['b'], ['i', 'b']]

/-- The words for the units of sizes. -/
inductive SizeUnit.IsWord : SizeUnit → List Char → Prop
  | mk {unit : SizeUnit} {letter mark : List Char} (hletter : unit.IsLetter letter)
      (hmark : mark ∈ byteMarks) : IsWord unit (letter ++ mark)

/-- The words for the units of durations. No word stands for seconds. -/
inductive DurationUnit.IsWord : DurationUnit → List Char → Prop
  | unnamed : IsWord .second []
  | millisecond : IsWord .millisecond ['m', 's']
  | second : IsWord .second ['s']
  | minute : IsWord .minute ['m']
  | hour : IsWord .hour ['h']

/-- The texts for a unit of sizes. -/
def SizeUnit.Names (unit : SizeUnit) (u : List Char) : Prop :=
  ∃ word, unit.IsWord word ∧ List.Forall₂ CountsAs word u

/-- The texts for a unit of durations. -/
def DurationUnit.Names (unit : DurationUnit) (u : List Char) : Prop :=
  ∃ word, unit.IsWord word ∧ List.Forall₂ CountsAs word u

/-! ## Letters -/

/-- The letters of all these words. -/
def unitLetters : List Char := ['k', 'm', 'g', 't', 'p', 'b', 'i', 's', 'h']

variable {letter c : Char} {word u : List Char}

theorem unitLetters_spec : ∀ letter ∈ unitLetters, 'a' ≤ letter ∧ letter ≤ 'z' ∧
    letter.toUpper.toNat + 32 = letter.toNat := by
  have hall : unitLetters.all (fun letter => 'a' ≤ letter ∧ letter ≤ 'z' ∧
      letter.toUpper.toNat + 32 = letter.toNat) = true := by
    decide
  simpa only [List.all_eq_true, decide_eq_true_eq] using hall

theorem asciiLower_eq_letter (h : letter ∈ unitLetters) :
    asciiLower c = letter ↔ c = letter ∨ c = letter.toUpper := by
  obtain ⟨hfirst, hlast, hupper⟩ := unitLetters_spec letter h
  rw [asciiLower_eq_iff hfirst hlast, ← hupper, Nat.add_right_cancel_iff, Char.toNat_inj]

theorem countsAs_iff (h : letter ∈ unitLetters) : CountsAs letter c ↔
    asciiLower c = letter ∨ c = '\u212A' ∧ letter = 'k' ∨ c = '\u017F' ∧ letter = 's' := by
  rw [asciiLower_eq_letter h]
  constructor
  · rintro (- | - | - | -)
    · exact .inl (.inl rfl)
    · exact .inl (.inr rfl)
    · exact .inr (.inl ⟨rfl, rfl⟩)
    · exact .inr (.inr ⟨rfl, rfl⟩)
  · rintro ((rfl | rfl) | ⟨rfl, rfl⟩ | ⟨rfl, rfl⟩)
    · exact .small c
    · exact .capital letter
    · exact .kelvin
    · exact .longS

theorem CountsAs.isPlain (h : CountsAs letter c) (hletter : letter ∈ unitLetters) : IsPlain c := by
  rcases (countsAs_iff hletter).1 h with hc | ⟨rfl, -⟩ | ⟨rfl, -⟩
  · obtain ⟨hfirst, hlast, -⟩ := unitLetters_spec letter hletter
    have hfirst : 97 ≤ letter.toNat := hfirst
    rw [← isPlain_asciiLower, hc]
    exact isPlain_of_toNat (by omega) hlast
  · exact ⟨by decide, by decide, by decide⟩
  · exact ⟨by decide, by decide, by decide⟩

/-- Folding that takes one more character to a letter. -/
theorem ite_eq_letter {special small : Char} (hletter : letter ∈ unitLetters)
    (hspecial : asciiLower special ∉ unitLetters) :
    (if c = special then small else asciiLower c) = letter ↔
      asciiLower c = letter ∨ c = special ∧ letter = small := by
  split
  · next hc =>
    subst hc
    have hne : asciiLower c ≠ letter := fun h => hspecial (h ▸ hletter)
    rw [or_iff_right hne, and_iff_right rfl, eq_comm]
  · next hc => rw [or_iff_left fun h => hc h.1]

theorem ite_asciiLower {special small : Char} (h : 122 < special.toNat) (c : Char) :
    (if asciiLower c = special then small else asciiLower (asciiLower c)) =
      if c = special then small else asciiLower c := by
  simp only [asciiLower_eq_iff_of_lt h, asciiLower_asciiLower]

/-- A text folds to a word if its characters count as the letters of the word. -/
theorem map_eq_iff_forall₂ {fold : Char → Char}
    (hfold : ∀ letter ∈ word, ∀ c, fold c = letter ↔ CountsAs letter c) :
    u.map fold = word ↔ List.Forall₂ CountsAs word u := by
  -- The word leads, as it is its letters that the characters are compared with.
  induction word generalizing u with
  | nil => rw [List.map_eq_nil_iff, List.forall₂_nil_left_iff]
  | cons letter word ih =>
    have hletter := hfold letter List.mem_cons_self
    have hword := fun {u} => ih (u := u) fun l hl => hfold l (List.mem_cons_of_mem letter hl)
    cases u with
    | nil => exact iff_of_false (List.cons_ne_nil letter word).symm (fun h => nomatch h)
    | cons c u => rw [List.map_cons, List.cons.injEq, List.forall₂_cons, hletter, hword]

/-- A text folds to one of some words if it counts as one of them. -/
theorem map_iff_exists_forall₂ {fold : Char → Char} {IsWord : List Char → Prop}
    (hfold : ∀ word, IsWord word → ∀ letter ∈ word, ∀ c, fold c = letter ↔ CountsAs letter c) :
    IsWord (u.map fold) ↔ ∃ word, IsWord word ∧ List.Forall₂ CountsAs word u := by
  constructor
  · exact fun h => ⟨_, h, (map_eq_iff_forall₂ (hfold _ h)).1 rfl⟩
  · rintro ⟨word, hword, hu⟩
    rwa [(map_eq_iff_forall₂ (hfold word hword)).2 hu]

/-- The characters of a text that counts as a word are plain if the letters are those of units. -/
theorem isPlain_of_forall₂ (h : List.Forall₂ CountsAs word u) (hword : word ⊆ unitLetters) :
    ∀ c ∈ u, IsPlain c := by
  induction h with
  | nil => exact List.forall_mem_nil _
  | cons hc _ ih =>
    obtain ⟨hletter, hword⟩ := List.cons_subset.1 hword
    exact List.forall_mem_cons.2 ⟨hc.isPlain hletter, ih hword⟩

/-! ## Sizes -/

namespace SizeUnit

variable {unit : SizeUnit}

theorem IsWord.letters (h : unit.IsWord word) : word ⊆ unitLetters ∧ 's' ∉ word := by
  obtain ⟨hletter, hmark⟩ := h
  simp only [byteMarks, List.mem_cons, List.not_mem_nil, or_false] at hmark
  rcases hmark with rfl | rfl | rfl <;> cases hletter <;> decide

theorem Names.isPlain (h : unit.Names u) : ∀ c ∈ u, IsPlain c := by
  obtain ⟨word, hword, hu⟩ := h
  exact isPlain_of_forall₂ hu hword.letters.1

theorem foldCase_eq_iff (hletter : letter ∈ unitLetters) (hs : letter ≠ 's') :
    foldCase c = letter ↔ CountsAs letter c := by
  unfold foldCase
  rw [ite_eq_letter hletter (by decide), countsAs_iff hletter]
  exact or_congr_right (or_iff_left fun h => hs h.2).symm

theorem foldCase_asciiLower (c : Char) : foldCase (asciiLower c) = foldCase c :=
  ite_asciiLower (by decide) c

theorem isByteMark_iff : isByteMark u = true ↔ u ∈ byteMarks := by
  simp [isByteMark, byteMarks, or_assoc]

theorem isLetter_of_ofLetter? (h : ofLetter? c = some unit) : unit.IsLetter [c] := by
  unfold ofLetter? at h
  split at h
  all_goals cases h
  · exact .kilo
  · exact .mega
  · exact .giga
  · exact .tera
  · exact .peta

/-- The folded texts that are units of sizes. -/
theorem ofFolded?_eq_some_iff : ofFolded? word = some unit ↔ unit.IsWord word := by
  constructor
  · intro h
    unfold ofFolded? at h
    split at h
    · next hmark =>
      cases h
      exact .mk .unnamed (isByteMark_iff.1 hmark)
    · split at h
      · cases h
      · next c mark _ =>
        split at h
        · next hmark => exact .mk (isLetter_of_ofLetter? h) (isByteMark_iff.1 hmark)
        · cases h
  · rintro ⟨hletter, hmark⟩
    simp only [byteMarks, List.mem_cons, List.not_mem_nil, or_false] at hmark
    rcases hmark with rfl | rfl | rfl <;> cases hletter <;> rfl

theorem ofFolded?_map_iff : ofFolded? (u.map foldCase) = some unit ↔ unit.Names u := by
  rw [ofFolded?_eq_some_iff]
  exact map_iff_exists_forall₂ fun word hword l hl c =>
    foldCase_eq_iff (hword.letters.1 hl) (ne_of_mem_of_not_mem hl hword.letters.2)

end SizeUnit

/-! ## Durations -/

namespace DurationUnit

variable {unit : DurationUnit}

theorem IsWord.letters (h : unit.IsWord word) : word ⊆ unitLetters ∧ 'k' ∉ word := by
  cases h <;> decide

theorem Names.isPlain (h : unit.Names u) : ∀ c ∈ u, IsPlain c := by
  obtain ⟨word, hword, hu⟩ := h
  exact isPlain_of_forall₂ hu hword.letters.1

theorem foldCase_eq_iff (hletter : letter ∈ unitLetters) (hk : letter ≠ 'k') :
    foldCase c = letter ↔ CountsAs letter c := by
  unfold foldCase
  rw [ite_eq_letter hletter (by decide), countsAs_iff hletter]
  exact or_congr_right (or_iff_right fun h => hk h.2).symm

theorem foldCase_asciiLower (c : Char) : foldCase (asciiLower c) = foldCase c :=
  ite_asciiLower (by decide) c

/-- The folded texts that are units of durations. -/
theorem ofFolded?_eq_some_iff : ofFolded? word = some unit ↔ unit.IsWord word := by
  constructor
  · intro h
    unfold ofFolded? at h
    split at h
    all_goals cases h
    · exact .unnamed
    · exact .second
    · exact .minute
    · exact .hour
    · exact .millisecond
  · intro h
    cases h <;> rfl

theorem ofFolded?_map_iff : ofFolded? (u.map foldCase) = some unit ↔ unit.Names u := by
  rw [ofFolded?_eq_some_iff]
  exact map_iff_exists_forall₂ fun word hword l hl c =>
    foldCase_eq_iff (hword.letters.1 hl) (ne_of_mem_of_not_mem hl hword.letters.2)

end DurationUnit

end Provisioning
