import Mathlib.Data.List.TakeWhile
import Provisioning.Proofs.Text.Digits
import Provisioning.Proofs.Text.LowerCase
import Provisioning.Proofs.Text.Scanning

/-!
# Classes of characters

No character is both a blank and a digit, of whatever script, and the letters of ASCII are neither. So
the ASCII case of a text does not move the places where a scanner of blanks and digits stops.

## Main results

* `isDecimalDigit_of_isBlank`: a blank is no digit
* `isBlank_asciiLower`, `isDecimalDigit_asciiLower`: ASCII case is of no account to either class
* `asciiLower_eq_iff`: the two characters with a given lower-case form
* `toLower_eq_of_map_asciiLower_eq`: texts that differ in ASCII case are the same in lower case
* `takeWhile_append_of_head?`, `dropWhile_append_of_head?`: a run of a class ends at a character that is
  not of it
-/

namespace Provisioning.Text

variable {c letter : Char}

/-! ## ASCII case -/

theorem asciiLower_cases (c : Char) : asciiLower c = c ∧ ¬ (65 ≤ c.toNat ∧ c.toNat ≤ 90) ∨
    (asciiLower c).toNat = c.toNat + 32 ∧ 65 ≤ c.toNat ∧ c.toNat ≤ 90 := by
  have hcapital : ('A' ≤ c && c ≤ 'Z') = true ↔ 65 ≤ c.toNat ∧ c.toNat ≤ 90 := by
    simp only [Bool.and_eq_true, decide_eq_true_eq]
    exact Iff.rfl
  unfold asciiLower
  split
  · next h =>
    obtain ⟨hfirst, hlast⟩ := hcapital.1 h
    refine .inr ⟨?_, hfirst, hlast⟩
    exact toNat_ofNat (.inl (by omega))
  · next h => exact .inl ⟨rfl, mt hcapital.2 h⟩

/-- A small letter is the lower-case form of itself and of its capital. -/
theorem asciiLower_eq_iff (hfirst : 'a' ≤ letter) (hlast : letter ≤ 'z') :
    asciiLower c = letter ↔ c = letter ∨ c.toNat + 32 = letter.toNat := by
  have hfirst : 97 ≤ letter.toNat := hfirst
  have hlast : letter.toNat ≤ 122 := hlast
  rcases asciiLower_cases c with ⟨hkept, hcapital⟩ | ⟨hlower, hcapital⟩
  · rw [hkept]
    constructor
    · exact .inl
    · rintro (h | h)
      · exact h
      · omega
  · rw [← Char.toNat_inj, hlower]
    constructor
    · exact .inr
    · rintro (rfl | h)
      · omega
      · exact h

theorem asciiLower_asciiLower (c : Char) : asciiLower (asciiLower c) = asciiLower c := by
  rcases asciiLower_cases c with ⟨hkept, -⟩ | ⟨hlower, hcapital⟩
  · rw [hkept, hkept]
  · rcases asciiLower_cases (asciiLower c) with ⟨hkept, -⟩ | ⟨-, hcapital'⟩
    · exact hkept
    · omega

/-- A character beyond ASCII is the lower-case form of itself only. -/
theorem asciiLower_eq_iff_of_lt {d : Char} (h : 122 < d.toNat) : asciiLower c = d ↔ c = d := by
  rcases asciiLower_cases c with ⟨hkept, -⟩ | ⟨hlower, hcapital⟩
  · rw [hkept]
  · rw [← Char.toNat_inj, ← Char.toNat_inj]
    omega

/-- A function that takes a letter and its capital to the same does not tell texts apart by case. -/
theorem map_eq_of_map_asciiLower_eq {β : Type} {f : Char → β} {u u' : List Char}
    (hf : ∀ c, f (asciiLower c) = f c) (h : u.map asciiLower = u'.map asciiLower) :
    u.map f = u'.map f := by
  have hmap (u : List Char) : (u.map asciiLower).map f = u.map f := by
    rw [List.map_map]
    exact List.map_congr_left fun c _ => hf c
  rw [← hmap u, h, hmap u']

theorem contains_eq_of_map_asciiLower_eq {d : Char} {u u' : List Char} (hd : 122 < d.toNat)
    (h : u.map asciiLower = u'.map asciiLower) : u.contains d = u'.contains d := by
  have hmem (u : List Char) : d ∈ u.map asciiLower ↔ d ∈ u := by
    simp only [List.mem_map, asciiLower_eq_iff_of_lt hd, exists_eq_right]
  rw [Bool.eq_iff_iff, List.contains_iff_mem, List.contains_iff_mem, ← hmem u, h, hmem u']

/-! ## Blanks and digits -/

theorem decimalDigitRanges_apart : ∀ run ∈ decimalDigitRanges, 33 ≤ run.1 ∧ run.2 ≤ 64 ∨
    0xA1 ≤ run.1 ∧ run.2 < 0x1680 ∨ 0x1681 ≤ run.1 ∧ run.2 < 0x2000 ∨ 0x3001 ≤ run.1 := by
  decide

/-- The digits lie in intervals of code points that hold neither blanks nor letters of ASCII. -/
theorem toNat_of_isDecimalDigit (h : isDecimalDigit c = true) : 33 ≤ c.toNat ∧ c.toNat ≤ 64 ∨
    0xA1 ≤ c.toNat ∧ c.toNat < 0x1680 ∨ 0x1681 ≤ c.toNat ∧ c.toNat < 0x2000 ∨
    0x3001 ≤ c.toNat := by
  unfold isDecimalDigit at h
  obtain ⟨run, hrun, hin⟩ := List.any_eq_true.1 h
  simp only [Bool.and_eq_true, decide_eq_true_eq] at hin
  have hapart := decimalDigitRanges_apart run hrun
  omega

theorem toNat_of_isBlank (h : isBlank c = true) : c.toNat ≤ 32 ∨ c.toNat = 0x85 ∨ c.toNat = 0xA0 ∨
    c.toNat = 0x1680 ∨ 0x2000 ≤ c.toNat ∧ c.toNat ≤ 0x3000 := by
  simp only [isBlank, Bool.or_eq_true, Bool.and_eq_true, decide_eq_true_eq, beq_iff_eq] at h
  omega

theorem isDecimalDigit_of_isBlank (h : isBlank c = true) : isDecimalDigit c = false := by
  rw [Bool.eq_false_iff]
  intro hdigit
  have hblank := toNat_of_isBlank h
  have hrange := toNat_of_isDecimalDigit hdigit
  omega

theorem ne_point_of_isBlank (h : isBlank c = true) : c ≠ '.' := by
  rintro rfl
  cases h

/-- Neither a blank nor a character of a number. -/
structure IsPlain (c : Char) : Prop where
  isBlank : isBlank c = false
  isDecimalDigit : isDecimalDigit c = false
  ne_point : c ≠ '.'

/-- The letters of ASCII are plain, and so are the characters between the capitals and the others. -/
theorem isPlain_of_toNat (hfirst : 65 ≤ c.toNat) (hlast : c.toNat ≤ 122) : IsPlain c where
  isBlank := by
    rw [Bool.eq_false_iff]
    intro h
    have hblank := toNat_of_isBlank h
    omega
  isDecimalDigit := by
    rw [Bool.eq_false_iff]
    intro h
    have hrange := toNat_of_isDecimalDigit h
    omega
  ne_point := by
    rintro rfl
    revert hfirst
    decide

theorem isPlain_asciiLower_or (c : Char) :
    asciiLower c = c ∨ IsPlain c ∧ IsPlain (asciiLower c) := by
  rcases asciiLower_cases c with ⟨hkept, -⟩ | ⟨hlower, hfirst, hlast⟩
  · exact .inl hkept
  · exact .inr ⟨isPlain_of_toNat hfirst (by omega), isPlain_of_toNat (by omega) (by omega)⟩

@[simp] theorem isBlank_asciiLower (c : Char) : isBlank (asciiLower c) = isBlank c := by
  rcases isPlain_asciiLower_or c with h | ⟨h, hlower⟩
  · rw [h]
  · rw [h.isBlank, hlower.isBlank]

@[simp] theorem isDecimalDigit_asciiLower (c : Char) :
    isDecimalDigit (asciiLower c) = isDecimalDigit c := by
  rcases isPlain_asciiLower_or c with h | ⟨h, hlower⟩
  · rw [h]
  · rw [h.isDecimalDigit, hlower.isDecimalDigit]

theorem asciiLower_eq_point : asciiLower c = '.' ↔ c = '.' := by
  rcases isPlain_asciiLower_or c with h | ⟨h, hlower⟩
  · rw [h]
  · exact iff_of_false hlower.ne_point h.ne_point

theorem isPlain_asciiLower : IsPlain (asciiLower c) ↔ IsPlain c := by
  rcases isPlain_asciiLower_or c with h | ⟨h, hlower⟩
  · rw [h]
  · exact iff_of_true hlower h

theorem trimChars_map (s : List Char) :
    trimChars (s.map asciiLower) = (trimChars s).map asciiLower := by
  have hblank : isBlank ∘ asciiLower = isBlank := funext isBlank_asciiLower
  unfold trimChars dropBlankEnd
  rw [List.dropWhile_map, hblank, ← List.map_reverse, List.dropWhile_map, hblank, ← List.map_reverse]

theorem asciiLower_of_isDecimalDigit (h : isDecimalDigit c = true) : asciiLower c = c := by
  rcases isPlain_asciiLower_or c with hkept | ⟨hplain, -⟩
  · exact hkept
  · rw [hplain.isDecimalDigit] at h
    cases h

/-! ## Lower case -/

/-- What does not tell the letters of ASCII from their capitals does not notice a change of case. -/
theorem apply_asciiLower {β : Type} {f : Char → β}
    (h : ∀ n < 26, f (Char.ofNat (97 + n)) = f (Char.ofNat (65 + n))) (c : Char) :
    f (asciiLower c) = f c := by
  rcases asciiLower_cases c with ⟨hkept, -⟩ | ⟨hlower, hfirst, hlast⟩
  · rw [hkept]
  · have hletter := h (c.toNat - 65) (by omega)
    have hsmall : 97 + (c.toNat - 65) = (asciiLower c).toNat := by omega
    have hcapital : 65 + (c.toNat - 65) = c.toNat := by omega
    rwa [hsmall, hcapital, Char.ofNat_toNat, Char.ofNat_toNat] at hletter

theorem lowerChar_asciiLower (c : Char) : lowerChar (asciiLower c) = lowerChar c :=
  apply_asciiLower (by decide +kernel) c

theorem isCased_asciiLower (c : Char) : isCased (asciiLower c) = isCased c :=
  apply_asciiLower (by decide +kernel) c

theorem isCaseIgnorable_asciiLower (c : Char) :
    isCaseIgnorable (asciiLower c) = isCaseIgnorable c :=
  apply_asciiLower (by decide +kernel) c

theorem startsCased_map (s : List Char) : startsCased (s.map asciiLower) = startsCased s := by
  have hignorable : isCaseIgnorable ∘ asciiLower = isCaseIgnorable :=
    funext isCaseIgnorable_asciiLower
  unfold startsCased
  rw [List.dropWhile_map, hignorable]
  cases s.dropWhile isCaseIgnorable with
  | nil => rfl
  | cons c t => exact isCased_asciiLower c

/-- The place of a sigma in its word does not depend on ASCII case either. -/
theorem lowerAfter_map (before s : List Char) :
    lowerAfter (before.map asciiLower) (s.map asciiLower) = lowerAfter before s := by
  induction s generalizing before with
  | nil => rfl
  | cons c s ih =>
    have hsigma : asciiLower c = 'Σ' ↔ c = 'Σ' := asciiLower_eq_iff_of_lt (by decide)
    have hfinal : isFinalSigma (before.map asciiLower) (s.map asciiLower) = isFinalSigma before s := by
      rw [isFinalSigma, startsCased_map, startsCased_map, isFinalSigma]
    rw [List.map_cons, lowerAfter, lowerAfter, ← List.map_cons, ih, hfinal, lowerChar_asciiLower]
    simp only [hsigma]

/-- **Texts that differ in ASCII case are the same in lower case.** -/
theorem toLower_eq_of_map_asciiLower_eq {s t : String}
    (h : s.toList.map asciiLower = t.toList.map asciiLower) : toLower s = toLower t := by
  have hlower (s : String) : lowerAfter [] (s.toList.map asciiLower) = lowerAfter [] s.toList :=
    lowerAfter_map [] s.toList
  unfold toLower
  rw [← hlower s, h, hlower t]

/-! ## Runs of a class -/

variable {p : Char → Bool} {s : List Char}

/-- Characters of a class are not taken beyond one that is not of it. -/
theorem takeWhile_append_of_head? (cs : List Char) (hs : ∀ c ∈ s.head?, p c = false) :
    (cs ++ s).takeWhile p = cs.takeWhile p := by
  induction cs with
  | nil =>
    cases s with
    | nil => rfl
    | cons c s =>
      rw [List.nil_append, List.takeWhile_cons, hs c rfl, if_neg Bool.false_ne_true]
      rfl
  | cons d cs ih => rw [List.cons_append, List.takeWhile_cons, List.takeWhile_cons, ih]

theorem dropWhile_append_of_head? (cs : List Char) (hs : ∀ c ∈ s.head?, p c = false) :
    (cs ++ s).dropWhile p = cs.dropWhile p ++ s := by
  induction cs with
  | nil => exact Scanner.dropWhile_of_head? hs
  | cons d cs ih =>
    rw [List.cons_append, List.dropWhile_cons, List.dropWhile_cons, ih]
    split <;> rfl

end Provisioning.Text
