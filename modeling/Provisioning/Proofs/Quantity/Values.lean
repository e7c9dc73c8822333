import Provisioning.Proofs.Decimal.Positional
import Provisioning.Proofs.Number.Arithmetic
import Provisioning.Proofs.Quantity.Spelling
import Provisioning.Quantity.Duration

/-!
# Values of quantities

The number in a quantity is read if its digits are those of ASCII, and it has no sign then. Seconds
without a sign make a span just when they are fewer than `2 ^ 64`.

## Main definitions

* `Binary64.IsUnsigned`: a number, perhaps infinite, without its sign bit
* `HasForeignDigit`: a text with a digit outside ASCII

## Main results

* `readNumber?_eq_none_iff`: when a number is not read
* `Span.ofSeconds?_eq_none_iff`: when seconds are too many for a span
-/

namespace Provisioning

open Text

/-! ## Numbers without sign -/

namespace Binary64

/-- A number, perhaps infinite, without its sign bit. -/
structure IsUnsigned (x : Binary64) : Prop where
  isNegative : x.isNegative = false
  isNaN : x.isNaN = false

variable {x y : Binary64} {m : Nat}

theorem isUnsigned_ofMagnitude (h : m ≤ infiniteMagnitude) : (ofMagnitude false m).IsUnsigned := by
  have hm : m < signBit := Nat.lt_of_le_of_lt h (by decide)
  refine ⟨isNegative_ofMagnitude hm, ?_⟩
  rw [isNaN, magnitude_ofMagnitude hm]
  exact decide_eq_false (Nat.not_lt.2 h)

theorem isUnsigned_ofScaled (digits : Nat) (exponent : Int) :
    (ofScaled false digits exponent).IsUnsigned := by
  unfold ofScaled
  split
  · exact isUnsigned_ofMagnitude (Nat.zero_le _)
  dsimp only
  split
  · exact isUnsigned_ofMagnitude (Nat.le_refl _)
  split
  · exact isUnsigned_ofMagnitude (Nat.zero_le _)
  · exact isUnsigned_ofMagnitude (nearest_le _ _)

theorem isUnsigned_ofNat (n : Nat) : (ofNat n).IsUnsigned := isUnsigned_ofMagnitude (nearest_le _ _)

theorem IsUnsigned.mul (hx : x.IsUnsigned) (hy : y.IsUnsigned) (hfinite : y.isInfinite = false)
    (hzero : y.isZero = false) : (x * y).IsUnsigned := by
  change (Binary64.mul x y).IsUnsigned
  unfold Binary64.mul
  simp only [hx.isNaN, hy.isNaN, hx.isNegative, hy.isNegative, hfinite, hzero, Bool.false_eq_true,
    if_false, Bool.or_false, bne_self_eq_false]
  split
  · next hinfinite =>
    have hx0 : x.isZero = false := by
      rw [isInfinite, beq_iff_eq] at hinfinite
      rw [isZero, hinfinite]
      rfl
    rw [hx0, if_neg Bool.false_ne_true]
    exact isUnsigned_ofMagnitude (Nat.le_refl _)
  · exact isUnsigned_ofMagnitude (nearest_le _ _)

theorem IsUnsigned.div (hx : x.IsUnsigned) (hy : y.IsUnsigned) (hfinite : y.isInfinite = false)
    (hzero : y.isZero = false) : (x / y).IsUnsigned := by
  change (Binary64.div x y).IsUnsigned
  unfold Binary64.div
  simp only [hx.isNaN, hy.isNaN, hx.isNegative, hy.isNegative, hfinite, hzero, Bool.false_eq_true,
    if_false, bne_self_eq_false]
  split
  · exact isUnsigned_ofMagnitude (Nat.le_refl _)
  · exact isUnsigned_ofMagnitude (nearest_le _ _)

end Binary64

/-- The number of seconds that a duration names has no sign. -/
theorem DurationUnit.isUnsigned_toSeconds {x : Binary64} (h : x.IsUnsigned) (unit : DurationUnit) :
    (unit.toSeconds x).IsUnsigned := by
  have hunit (n : Nat) := Binary64.isUnsigned_ofNat n
  cases unit with
  | millisecond => exact h.div (hunit 1000) (by decide +kernel) (by decide +kernel)
  | second => exact h
  | minute => exact h.mul (hunit 60) (by decide +kernel) (by decide +kernel)
  | hour => exact h.mul (hunit 3600) (by decide +kernel) (by decide +kernel)

/-! ## Reading -/

/-- A text with a digit of another script than ASCII. -/
def HasForeignDigit (s : List Char) : Prop := ∃ c ∈ s, isDecimalDigit c = true ∧ isAsciiDigit c = false

variable {number s : List Char} {c : Char}

theorem IsDigits.isAsciiDigit {ds : List Char} (h : IsDigits ds) (hs : ¬ HasForeignDigit s)
    (hsub : ∀ c ∈ ds, c ∈ s) : ∀ c ∈ ds, isAsciiDigit c = true := by
  intro c hc
  by_contra hforeign
  exact hs ⟨c, hsub c hc, h.2 c hc, Bool.eq_false_iff.2 hforeign⟩

/-- A number in ASCII digits is written as the reader of numbers has it. -/
theorem IsNumeral.exists_pointText (h : IsNumeral number) (hs : ¬ HasForeignDigit number) :
    ∃ whole fraction, number = Numeral.pointText ⟨whole, fraction, 0⟩ ∧ whole ≠ [] ∧
      ∀ c ∈ whole ++ fraction, isAsciiDigit c = true := by
  cases h with
  | whole hds =>
    refine ⟨number, [], (List.append_nil _).symm, hds.1, ?_⟩
    rw [List.append_nil]
    exact hds.isAsciiDigit hs fun c hc => hc
  | @point ds es hds hes =>
    refine ⟨ds, es, ?_, hds.1, List.forall_mem_append.2 ⟨?_, ?_⟩⟩
    · rw [Numeral.pointText, if_neg hes.1]
    · exact hds.isAsciiDigit hs fun c hc => List.mem_append_left _ hc
    · exact hes.isAsciiDigit hs fun c hc => List.mem_append_right _ (List.mem_cons_of_mem _ hc)

/-- A text that is read as a number and has no exponent holds ASCII digits and points only. -/
theorem Numeral.of_mem_of_ofChars? {n : Numeral} (h : Numeral.ofChars? s = some n)
    (hs : ∀ c ∈ s, c ≠ 'e' ∧ c ≠ 'E') : ∀ c ∈ s, isAsciiDigit c = true ∨ c = '.' := by
  -- What comes after the digits would have to start with the mark of an exponent.
  have hrest {b : Bool} {f : Int → Numeral} {rest : List Char} (hsub : rest <:+ s)
      (h : (if b then none else (exponentPart? rest).map f) = some n) : rest = [] := by
    cases rest with
    | nil => rfl
    | cons c rest =>
      obtain ⟨hsmall, hcapital⟩ := hs c (hsub.subset List.mem_cons_self)
      rw [exponentPart?, if_neg (not_or.2 ⟨hsmall, hcapital⟩), Option.map_none, ite_self] at h
      cases h
  have hdigits (t : List Char) : ∀ c ∈ t.takeWhile isAsciiDigit, isAsciiDigit c = true ∨ c = '.' :=
    fun c hc => .inl (List.mem_takeWhile_imp hc)
  unfold Numeral.ofChars? at h
  dsimp only at h
  rw [← List.takeWhile_append_dropWhile (p := isAsciiDigit) (l := s)]
  split at h
  · next rest hdrop =>
    have hsub : rest <:+ s := (List.suffix_cons '.' rest).trans (hdrop ▸ List.dropWhile_suffix _)
    have hnil := hrest ((List.dropWhile_suffix _).trans hsub) h
    rw [hdrop, ← List.takeWhile_append_dropWhile (p := isAsciiDigit) (l := rest), hnil, List.append_nil]
    exact List.forall_mem_append.2 ⟨hdigits s, List.forall_mem_cons.2 ⟨.inr rfl, hdigits rest⟩⟩
  · have hnil := hrest (List.dropWhile_suffix _) h
    rw [hnil, List.append_nil]
    exact hdigits s

theorem Numeral.ofChars?_eq_none_iff (h : IsNumeral number) :
    Numeral.ofChars? number = none ↔ HasForeignDigit number := by
  constructor
  · intro hnone
    by_contra hs
    obtain ⟨whole, fraction, rfl, hne, hdigit⟩ := h.exists_pointText hs
    rw [Numeral.ofChars?_pointText hne hdigit] at hnone
    cases hnone
  · rintro ⟨c, hc, hdigit, hforeign⟩
    by_contra hsome
    obtain ⟨n, hn⟩ := Option.ne_none_iff_exists'.1 hsome
    -- Neither mark of an exponent is a digit in any script.
    have hmark : ∀ c ∈ number, c ≠ 'e' ∧ c ≠ 'E' := by
      intro c hc
      constructor
      all_goals
        rintro rfl
        rcases h.of_mem hc with hc | hc
        · exact absurd hc (by decide)
        · cases hc
    rcases Numeral.of_mem_of_ofChars? hn hmark c hc with hascii | rfl
    · rw [hforeign] at hascii
      cases hascii
    · exact absurd hdigit (by decide)

/-- A number is read by its digits: it has no sign, and it is none of the words for numbers. -/
theorem readNumber?_of_isNumeral (h : IsNumeral number) :
    readNumber? (String.ofList number) = (Numeral.ofChars? number).map (Numeral.value false) := by
  obtain ⟨c, rest, rfl⟩ := List.exists_cons_of_ne_nil h.ne_nil
  have hc := h.head_isDecimalDigit c rfl
  have hunsigned : readNumber? (String.ofList (c :: rest)) = readUnsigned? false (c :: rest) := by
    unfold readNumber?
    rw [String.toList_ofList]
    split
    · next heq =>
      obtain rfl := (List.cons.inj heq).1
      exact absurd hc (by decide)
    · next heq =>
      obtain rfl := (List.cons.inj heq).1
      exact absurd hc (by decide)
    · rfl
  -- A word would start with a letter, and in lower case a digit is still one.
  have hword (word : String) {d : Char} (hhead : word.toList.head? = some d)
      (hd : isDecimalDigit d = false) : String.ofList ((c :: rest).map asciiLower) ≠ word := by
    rintro rfl
    rw [String.toList_ofList] at hhead
    obtain rfl := Option.some.inj hhead
    rw [isDecimalDigit_asciiLower, hc] at hd
    cases hd
  have hinf := hword "inf" rfl (by decide)
  have hinfinity := hword "infinity" rfl (by decide)
  have hnan := hword "nan" rfl (by decide)
  rw [hunsigned]
  unfold readUnsigned?
  cases Numeral.ofChars? (c :: rest) with
  | some n => rfl
  | none =>
    simp only [Option.map_none]
    rw [if_neg (not_or.2 ⟨hinf, hinfinity⟩), if_neg hnan]

/-- **A number is read if all its digits are ASCII digits.** -/
theorem readNumber?_eq_none_iff (h : IsNumeral number) :
    readNumber? (String.ofList number) = none ↔ HasForeignDigit number := by
  rw [readNumber?_of_isNumeral h, Option.map_eq_none_iff, Numeral.ofChars?_eq_none_iff h]

theorem not_hasForeignDigit_of_readNumber? {x : Binary64} (h : IsNumeral number)
    (hx : readNumber? (String.ofList number) = some x) : ¬ HasForeignDigit number := by
  rw [← readNumber?_eq_none_iff h, hx]
  exact Option.some_ne_none x

theorem isUnsigned_of_readNumber? {x : Binary64} (h : IsNumeral number)
    (hx : readNumber? (String.ofList number) = some x) : x.IsUnsigned := by
  rw [readNumber?_of_isNumeral h] at hx
  obtain ⟨n, -, rfl⟩ := Option.map_eq_some_iff.1 hx
  exact Binary64.isUnsigned_ofScaled _ _

/-! ## Spans -/

namespace Binary64

/-- The magnitude of `2 ^ 64`. -/
def tooManySeconds : Nat := 0x43F0000000000000

theorem unitsOf_tooManySeconds : unitsOf tooManySeconds = 2 ^ 64 * unitsPerOne := by
  decide +kernel

/-- The greatest number of seconds below `2 ^ 64` is 2048 less. -/
theorem unitsOf_pred_tooManySeconds :
    unitsOf (tooManySeconds - 1) = (2 ^ 64 - 2048) * unitsPerOne := by
  decide +kernel

theorem ofNat_two_pow_64 : ofNat (2 ^ 64) = ofMagnitude false tooManySeconds := by
  rw [ofNat, ← unitsOf_tooManySeconds, nearest_unitsOf (by decide)]

theorem le_iff_tooManySeconds {x : Binary64} (h : x.IsUnsigned) :
    (ofNat (2 ^ 64)).le x = true ↔ tooManySeconds ≤ x.magnitude := by
  have hm : tooManySeconds < signBit := by decide
  have hunsigned := isUnsigned_ofNat (2 ^ 64)
  rw [le_iff, and_iff_right hunsigned.isNaN, and_iff_right h.isNaN,
    ordinal_of_positive hunsigned.isNegative, ordinal_of_positive h.isNegative, ofNat_two_pow_64,
    magnitude_ofMagnitude hm, Int.ofNat_le]

end Binary64

namespace Span

open Binary64

/-- A whole number of seconds rounds to its nanoseconds. -/
theorem roundHalfEven_seconds (n : Nat) :
    roundHalfEven (n * unitsPerOne * nanosPerSecond) unitsPerOne = n * nanosPerSecond := by
  rw [Nat.mul_right_comm]
  exact roundHalfEven_mul unitsPerOne_pos _

theorem roundHalfEven_lt_limit {m : Nat} (hm : m < infiniteMagnitude) :
    roundHalfEven (unitsOf m * nanosPerSecond) unitsPerOne < limit ↔ m < tooManySeconds := by
  have hmono {k k' : Nat} (h : unitsOf k ≤ unitsOf k') :
      roundHalfEven (unitsOf k * nanosPerSecond) unitsPerOne ≤
        roundHalfEven (unitsOf k' * nanosPerSecond) unitsPerOne :=
    roundHalfEven_mono (Nat.mul_le_mul_right _ h)
  constructor
  · intro hlt
    by_contra hle
    have hnanos := hmono (unitsOf_mono hm (Nat.not_lt.1 hle))
    rw [unitsOf_tooManySeconds, roundHalfEven_seconds] at hnanos
    exact absurd hlt (Nat.not_lt.2 hnanos)
  · intro hlt
    have hmax : tooManySeconds - 1 < infiniteMagnitude := by decide
    have hnanos := hmono (unitsOf_mono hmax (Nat.le_sub_one_of_lt hlt))
    rw [unitsOf_pred_tooManySeconds, roundHalfEven_seconds] at hnanos
    exact Nat.lt_of_le_of_lt hnanos (by decide)

/-- **Seconds without sign make a span just when they are fewer than `2 ^ 64`.** -/
theorem ofSeconds?_eq_none_iff {x : Binary64} (h : x.IsUnsigned) :
    ofSeconds? x = none ↔ (Binary64.ofNat (2 ^ 64)).le x = true := by
  rw [le_iff_tooManySeconds h]
  unfold ofSeconds?
  rw [h.isNegative, Bool.false_and, Bool.or_false]
  cases hfinite : x.isFinite with
  | false =>
    have hge : ¬ x.magnitude < infiniteMagnitude := of_decide_eq_false hfinite
    have hlarge : tooManySeconds ≤ infiniteMagnitude := by decide
    exact iff_of_true rfl (by omega)
  | true =>
    have hlimit := roundHalfEven_lt_limit (isFinite_iff.1 hfinite)
    rw [if_neg (by decide)]
    dsimp only
    split
    · next hlt => exact iff_of_false (fun h => nomatch h) (Nat.not_le.2 (hlimit.1 hlt))
    · next hge => exact iff_of_true rfl (Nat.not_lt.1 (mt hlimit.2 hge))

end Span

end Provisioning
