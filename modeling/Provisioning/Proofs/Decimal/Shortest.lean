import Provisioning.Decimal.Reading
import Provisioning.Proofs.Number.Rounding
import Mathlib.Algebra.Order.Field.Power
import Mathlib.Data.Rat.Cast.Order
import Mathlib.Tactic.FieldSimp
import Mathlib.Tactic.NormNum
import Mathlib.Tactic.Positivity

/-!
# Shortest decimals read back

The shortest decimal of a number lies in the interval of the number, and every decimal of the
interval is read as the number. The first holds because the grid of 17 digits is finer than any
interval is wide, so that a grid with a point is found; the second because reading rounds by the same
interval.

## Main definitions

* `Interval.Contains`: the interval as one of rational numbers
* `Decimal.value`: the rational number that a decimal stands for
* `RoundsTo m x`: a rational number rounds to a magnitude

## Main results

* `Decimal.roundsTo_shortest`: the shortest decimal rounds to the number
* `Binary64.ofScaled_eq`: a decimal that rounds to a number is read as it
-/

namespace Provisioning

/-! ## Intervals of rational numbers -/

namespace Interval

variable {i : Interval} {scale point : Nat}

/-- Whether a rational number, in quarters of a unit, lies in the interval. -/
def Contains (i : Interval) (x : ℚ) : Prop :=
  if i.closed then (i.low : ℚ) ≤ x ∧ x ≤ i.high else (i.low : ℚ) < x ∧ x < i.high

theorem contains_div_iff (hscale : 0 < scale) :
    i.Contains (point / scale) ↔ i.holds scale point = true := by
  have hpos : (0 : ℚ) < scale := by exact_mod_cast hscale
  unfold Contains holds
  split <;> simp only [le_div_iff₀ hpos, div_le_iff₀ hpos, lt_div_iff₀ hpos, div_lt_iff₀ hpos,
    Bool.and_eq_true, decide_eq_true_eq]
  · exact_mod_cast Iff.rfl
  · exact_mod_cast Iff.rfl

/-- A point strictly between the ends is one of the interval. -/
theorem holds_of_lt (hlow : i.low * scale < point) (hhigh : point < i.high * scale) :
    i.holds scale point = true := by
  unfold holds
  split <;> simp [hlow, hhigh, hlow.le, hhigh.le]

theorem Contains.low_le {x : ℚ} (h : i.Contains x) : (i.low : ℚ) ≤ x := by
  unfold Contains at h
  split at h
  · exact h.1
  · exact h.1.le

theorem Contains.le_high {x : ℚ} (h : i.Contains x) : x ≤ i.high := by
  unfold Contains at h
  split at h
  · exact h.2
  · exact h.2.le

end Interval

/-- A power of ten as a quotient of natural numbers. -/
theorem ten_zpow_eq_div (e : ℤ) :
    (10 : ℚ) ^ e = ((10 ^ e.toNat : ℕ) : ℚ) / ((10 ^ (-e).toNat : ℕ) : ℚ) := by
  rcases Int.le_total 0 e with h | h
  · obtain ⟨n, rfl⟩ := Int.eq_ofNat_of_zero_le h
    simp
  · obtain ⟨n, hn⟩ := Int.eq_ofNat_of_zero_le (Int.neg_nonneg_of_nonpos h)
    obtain rfl : e = -(n : ℤ) := by omega
    simp

/-- A rational number rounds to a magnitude: it lies in the magnitude's interval. -/
def RoundsTo (m : Nat) (x : ℚ) : Prop :=
  (Interval.ofMagnitude m).Contains (x * Decimal.quartersPerOne)

namespace Decimal

/-- The number that a decimal stands for. -/
def value (d : Decimal) : ℚ := d.digits * 10 ^ d.exponent

/-! ## The point of a grid -/

variable {tie : Tie} {i : Interval} {e : ℤ} {d : Decimal}

/-- A multiple of a power of ten, in quarters of a unit, as a quotient of natural numbers. -/
theorem value_mul_quarters (digits : Nat) (e : ℤ) :
    (⟨digits, e⟩ : Decimal).value * quartersPerOne =
      ((digits * (10 ^ e.toNat * quartersPerOne) : ℕ) : ℚ) / ((10 ^ (-e).toNat : ℕ) : ℚ) := by
  unfold value
  rw [ten_zpow_eq_div]
  push_cast
  ring

/-- What is found on a grid is a positive number of the interval. -/
theorem of_onGrid (h : onGrid tie i e = some d) :
    d.digits ≠ 0 ∧ i.Contains (d.value * quartersPerOne) := by
  have hpoint {k : Nat} (hk : i.holds (Nat.pow 10 (-e).toNat)
      (k * (Nat.pow 10 e.toNat * quartersPerOne)) = true) :
      i.Contains ((⟨k, e⟩ : Decimal).value * quartersPerOne) := by
    rw [value_mul_quarters]
    exact (Interval.contains_div_iff (by positivity)).2 hk
  unfold onGrid at h
  dsimp only at h
  split at h
  · next hbelow habove =>
    obtain ⟨hbelow, hne⟩ := Bool.and_eq_true_iff.1 hbelow
    split at h
    · obtain rfl := Option.some.inj h
      exact ⟨bne_iff_ne.1 hne, hpoint hbelow⟩
    · obtain rfl := Option.some.inj h
      exact ⟨Nat.succ_ne_zero _, hpoint habove⟩
  · next hbelow habove =>
    obtain ⟨hbelow, hne⟩ := Bool.and_eq_true_iff.1 hbelow
    obtain rfl := Option.some.inj h
    exact ⟨bne_iff_ne.1 hne, hpoint hbelow⟩
  · next hbelow habove =>
    obtain rfl := Option.some.inj h
    exact ⟨Nat.succ_ne_zero _, hpoint habove⟩
  · cases h

/-- A grid that is finer than the interval is wide has a point in it. -/
theorem onGrid_ne_none (hlow : i.low < i.center) (hhigh : i.center < i.high)
    (hfine : i.low * 10 ^ (-e).toNat + 10 ^ e.toNat * quartersPerOne < i.high * 10 ^ (-e).toNat) :
    onGrid tie i e ≠ none := by
  have hscale : 0 < Nat.pow 10 (-e).toNat := Nat.pow_pos (by omega)
  have hstep : 0 < Nat.pow 10 e.toNat * quartersPerOne :=
    Nat.mul_pos (Nat.pow_pos (by omega)) quartersPerOne_pos
  intro h
  unfold onGrid at h
  dsimp only at h
  split at h
  · split at h <;> cases h
  · cases h
  · cases h
  next hbelow habove =>
  have hfine : i.low * Nat.pow 10 (-e).toNat + Nat.pow 10 e.toNat * quartersPerOne <
    i.high * Nat.pow 10 (-e).toNat := hfine
  generalize Nat.pow 10 (-e).toNat = scale at *
  generalize Nat.pow 10 e.toNat * quartersPerOne = step at *
  have hle : i.center * scale / step * step ≤ i.center * scale := Nat.div_mul_le_self _ _
  have hlt : i.center * scale < (i.center * scale / step + 1) * step := by
    rw [Nat.mul_comm (_ + 1)]
    exact Nat.lt_mul_div_succ _ hstep
  generalize i.center * scale / step = k at *
  have hcenter : i.center * scale < i.high * scale := Nat.mul_lt_mul_of_pos_right hhigh hscale
  by_cases hin : i.low * scale < k * step
  · -- The neighbour below the centre lies above the lower end.
    have hne : k ≠ 0 := by
      rintro rfl
      omega
    rw [Interval.holds_of_lt hin (Nat.lt_of_le_of_lt hle hcenter)] at hbelow
    simp [hne] at hbelow
  · -- It does not, so the step beyond it ends before the upper end.
    have hover : (k + 1) * step < i.high * scale := by
      rw [Nat.add_mul, Nat.one_mul]
      omega
    have hlow : i.low * scale < (k + 1) * step :=
      Nat.lt_of_le_of_lt (Nat.mul_le_mul_right scale hlow.le) hlt
    rw [Interval.holds_of_lt hlow hover] at habove
    cases habove

/-! ## The grid of 17 digits -/

theorem pow_digitCount_le {n : Nat} (hn : n ≠ 0) : 10 ^ (digitCount n - 1) ≤ n := by
  unfold digitCount digitChars
  by_cases h : (Nat.toDigits 10 n).length = 1
  · rw [h]
    exact Nat.one_le_iff_ne_zero.2 hn
  · have hpos := Nat.length_toDigits_pos (b := 10) (n := n)
    have hnot := (Nat.length_toDigits_le_iff (b := 10) (n := n)
      (k := (Nat.toDigits 10 n).length - 1) (by omega) (by omega)).not.1 (by omega)
    omega

theorem lt_pow_digitCount (n : Nat) : n < 10 ^ digitCount n :=
  (Nat.length_toDigits_le_iff (by omega) Nat.length_toDigits_pos).1 le_rfl

theorem digitCount_pos (n : Nat) : 0 < digitCount n := Nat.length_toDigits_pos

/-- A number has a digit at its point. -/
theorem ten_zpow_pointOf_le {quarters : Nat} (h : 0 < quarters) :
    (10 : ℚ) ^ (pointOf quarters - 1) * quartersPerOne ≤ quarters := by
  have hQ := quartersPerOne_pos
  unfold pointOf
  generalize quartersPerOne = q at *
  split
  · next hle =>
    have hne : quarters / q ≠ 0 := (Nat.div_pos hle hQ).ne'
    have hcast : ((digitCount (quarters / q) : ℤ) - 1) = ((digitCount (quarters / q) - 1 : ℕ) : ℤ) := by
      have := digitCount_pos (quarters / q)
      omega
    rw [hcast, zpow_natCast]
    have hmul : 10 ^ (digitCount (quarters / q) - 1) * q ≤ quarters :=
      (Nat.mul_le_mul_right q (pow_digitCount_le hne)).trans (Nat.div_mul_le_self _ _)
    exact_mod_cast hmul
  · have hexp : (1 : ℤ) - (digitCount (q / quarters) : ℤ) - 1 = -(digitCount (q / quarters) : ℤ) := by
      omega
    rw [hexp, zpow_neg, zpow_natCast, inv_mul_le_iff₀ (by positivity)]
    have hlt : q < 10 ^ digitCount (q / quarters) * quarters :=
      (Nat.div_lt_iff_lt_mul h).1 (lt_pow_digitCount _)
    exact_mod_cast hlt.le

section Ends

open Binary64

variable {m : Nat}

theorem center_ofMagnitude (m : Nat) :
    (Interval.ofMagnitude m).center = 4 * (significandOf m * 2 ^ shiftOf m) :=
  Nat.mul_assoc _ _ _

theorem low_ofMagnitude (m : Nat) :
    (Interval.ofMagnitude m).low = (Interval.ofMagnitude m).center - halfBelow m := rfl

theorem high_ofMagnitude (m : Nat) :
    (Interval.ofMagnitude m).high = (Interval.ofMagnitude m).center + 2 * 2 ^ shiftOf m := rfl

theorem two_pow_le_significand (hm : 0 < m) : 2 ^ shiftOf m ≤ significandOf m * 2 ^ shiftOf m :=
  Nat.le_mul_of_pos_left _ (significandOf_pos hm)

/-- The interval of a positive number has positive numbers only. -/
theorem low_pos (hm : 0 < m) : 0 < (Interval.ofMagnitude m).low := by
  have hpos : 0 < 2 ^ shiftOf m := by positivity
  have hle := two_pow_le_significand hm
  have hbelow := halfBelow_le m
  rw [low_ofMagnitude, center_ofMagnitude]
  omega

/-- A positive number lies within its interval. -/
theorem center_within (hm : 0 < m) :
    (Interval.ofMagnitude m).low < (Interval.ofMagnitude m).center ∧
      (Interval.ofMagnitude m).center < (Interval.ofMagnitude m).high := by
  have hpos : 0 < 2 ^ shiftOf m := by positivity
  have hle := two_pow_le_significand hm
  rw [high_ofMagnitude, low_ofMagnitude, center_ofMagnitude]
  unfold halfBelow
  split <;> omega

/-- The interval of a positive number is wider than the number's last place among 17 digits. -/
theorem center_lt_width (hm : 0 < m) :
    (Interval.ofMagnitude m).low * 10 ^ 16 + (Interval.ofMagnitude m).center <
      (Interval.ofMagnitude m).high * 10 ^ 16 := by
  have hle := two_pow_le_significand hm
  rw [high_ofMagnitude, low_ofMagnitude, center_ofMagnitude]
  unfold halfBelow
  split
  · next hg =>
    have hpos : 0 < 2 ^ shiftOf m := by positivity
    rw [hg.1] at hle ⊢
    unfold leadingBit at *
    omega
  · have hlt : significandOf m * 2 ^ shiftOf m < 2 * leadingBit * 2 ^ shiftOf m :=
      Nat.mul_lt_mul_of_pos_right (significandOf_lt m) (by positivity)
    unfold leadingBit at *
    generalize significandOf m * 2 ^ shiftOf m = g at *
    omega

/-- The interval of a finite number ends far below the numbers of 310 digits. -/
theorem high_lt (hm : m < infiniteMagnitude) :
    (Interval.ofMagnitude m).high < 10 ^ 309 * quartersPerOne := by
  have hshift : shiftOf m ≤ 2045 := by
    unfold shiftOf leadingBit
    unfold infiniteMagnitude at hm
    omega
  have hpow : 2 ^ shiftOf m ≤ 2 ^ 2045 := pow_le_pow_right₀ (by omega) hshift
  have hlt : significandOf m * 2 ^ shiftOf m < 2 * leadingBit * 2 ^ shiftOf m :=
    Nat.mul_lt_mul_of_pos_right (significandOf_lt m) (by positivity)
  have hhigh : (Interval.ofMagnitude m).high ≤ 9 * leadingBit * 2 ^ shiftOf m := by
    rw [high_ofMagnitude, center_ofMagnitude]
    unfold leadingBit at *
    generalize significandOf m * 2 ^ shiftOf m = g at *
    omega
  calc (Interval.ofMagnitude m).high ≤ 9 * leadingBit * 2 ^ shiftOf m := hhigh
    _ ≤ 9 * leadingBit * 2 ^ 2045 := Nat.mul_le_mul_left _ hpow
    _ < 10 ^ 309 * quartersPerOne := by decide +kernel

end Ends

/-- The grid of 17 digits has a point in the interval. -/
theorem onGrid_seventeen_ne_none {m : Nat} (hm : 0 < m) :
    onGrid tie (Interval.ofMagnitude m) (pointOf (Interval.ofMagnitude m).center - 17) ≠ none := by
  obtain ⟨hlow, hhigh⟩ := center_within hm
  have hwide := center_lt_width hm
  generalize Interval.ofMagnitude m = i at *
  refine onGrid_ne_none hlow hhigh ?_
  have hpoint := ten_zpow_pointOf_le (Nat.zero_lt_of_lt hlow)
  obtain ⟨e, he⟩ : ∃ e, pointOf i.center - 17 = e := ⟨_, rfl⟩
  -- A step of the grid is the place of the leading digit over `10 ^ 16`.
  rw [show pointOf i.center - 1 = e + 16 by omega, zpow_add₀ (by norm_num), ten_zpow_eq_div] at hpoint
  rw [he]
  have hscale : (0 : ℚ) < (10 ^ (-e).toNat : ℕ) := by positivity
  have hwide : (i.low : ℚ) * 10 ^ 16 + i.center < i.high * 10 ^ 16 := by exact_mod_cast hwide
  generalize 10 ^ (-e).toNat = scale at *
  generalize 10 ^ e.toNat = step at *
  generalize quartersPerOne = q at *
  have hstep : (step : ℚ) * q < (i.high - i.low) * scale := by
    have hle : (step : ℚ) / scale * q < i.high - i.low := by
      norm_num at hpoint
      linarith
    rwa [div_mul_eq_mul_div, div_lt_iff₀ hscale] at hle
  have hfine : (i.low : ℚ) * scale + step * q < i.high * scale := by linarith
  exact_mod_cast hfine

/-! ## The shortest decimal -/

/-- Final zeros may be moved into the exponent. -/
theorem value_dropZeros (fuel : Nat) (d : Decimal) : (dropZeros fuel d).value = d.value := by
  induction fuel generalizing d with
  | zero => rfl
  | succ fuel ih =>
    rw [dropZeros]
    split
    · next h =>
      rw [ih]
      have hten : (d.digits : ℚ) = (d.digits / 10 : ℕ) * 10 := by
        exact_mod_cast (Nat.div_mul_cancel (Nat.dvd_of_mod_eq_zero h.1)).symm
      unfold value
      rw [zpow_add₀ (by norm_num), hten]
      ring
    · rfl

theorem dropZeros_digits_ne_zero (fuel : Nat) (h : d.digits ≠ 0) :
    (dropZeros fuel d).digits ≠ 0 := by
  induction fuel generalizing d with
  | zero => exact h
  | succ fuel ih =>
    rw [dropZeros]
    split
    · exact ih (by dsimp only; omega)
    · exact h

theorem search_ne_none (tie : Tie) {m : Nat} (hm : 0 < m) :
    search tie (Interval.ofMagnitude m) ≠ none := by
  intro hnone
  have hlast := List.findSome?_eq_none_iff.1 hnone 16 (List.mem_range.2 (by omega))
  have hseventeen : ((16 : ℕ) : ℤ) + 1 = 17 := by norm_num
  rw [hseventeen] at hlast
  exact onGrid_seventeen_ne_none hm hlast

/-- The shortest decimal of a number is a point of some grid, its final zeros dropped. -/
theorem exists_onGrid_shortest (tie : Tie) {m : Nat} (hm : 0 < m) :
    ∃ e d, onGrid tie (Interval.ofMagnitude m) e = some d ∧ shortest tie m = d.normalize := by
  obtain ⟨d, hd⟩ := Option.ne_none_iff_exists'.1 (search_ne_none tie hm)
  obtain ⟨n, -, hn⟩ := List.exists_of_findSome?_eq_some hd
  refine ⟨_, d, hn, ?_⟩
  unfold shortest
  rw [hd]
  rfl

theorem shortest_digits_ne_zero (tie : Tie) {m : Nat} (hm : 0 < m) :
    (shortest tie m).digits ≠ 0 := by
  obtain ⟨e, d, hd, heq⟩ := exists_onGrid_shortest tie hm
  rw [heq]
  exact dropZeros_digits_ne_zero _ (of_onGrid hd).1

/-- **The shortest decimal of a number rounds to it.** -/
theorem roundsTo_shortest (tie : Tie) {m : Nat} (hm : 0 < m) :
    RoundsTo m (shortest tie m).value := by
  obtain ⟨e, d, hd, heq⟩ := exists_onGrid_shortest tie hm
  rw [heq]
  unfold normalize RoundsTo
  rw [value_dropZeros]
  exact (of_onGrid hd).2

end Decimal

namespace Binary64

/-! ## Reading -/

variable {m digits : Nat} {exponent : ℤ}

/-- A rational number that rounds to a positive number is not too small to be read. -/
theorem lt_of_roundsTo {x : ℚ} (hm : 0 < m) (h : RoundsTo m x) :
    (10 : ℚ) ^ (-330 : ℤ) < x := by
  have hlow : 1 ≤ (Interval.ofMagnitude m).low := Decimal.low_pos hm
  have hone : (1 : ℚ) ≤ x * Decimal.quartersPerOne :=
    le_trans (by exact_mod_cast hlow) (Interval.Contains.low_le h)
  have hQ : (0 : ℚ) < Decimal.quartersPerOne := by exact_mod_cast Decimal.quartersPerOne_pos
  have hsmall : (Decimal.quartersPerOne : ℚ) < 10 ^ (330 : ℤ) := by
    exact_mod_cast (by decide +kernel : Decimal.quartersPerOne < 10 ^ 330)
  calc (10 : ℚ) ^ (-330 : ℤ) = (10 ^ (330 : ℤ))⁻¹ := zpow_neg 10 330
    _ < (Decimal.quartersPerOne : ℚ)⁻¹ := inv_strictAnti₀ hQ hsmall
    _ ≤ x := (inv_le_iff_one_le_mul₀ hQ).2 hone

/-- A rational number that rounds to a finite number is not too large to be read. -/
theorem lt_of_roundsTo_finite {x : ℚ} (hm : m < infiniteMagnitude) (h : RoundsTo m x) :
    x < (10 : ℚ) ^ (309 : ℤ) := by
  have hhigh : ((Interval.ofMagnitude m).high : ℚ) < 10 ^ 309 * Decimal.quartersPerOne := by
    exact_mod_cast Decimal.high_lt hm
  have hpos : (0 : ℚ) < Decimal.quartersPerOne := by exact_mod_cast Decimal.quartersPerOne_pos
  exact lt_of_mul_lt_mul_right ((Interval.Contains.le_high h).trans_lt hhigh) hpos.le

/-- A positive decimal lies between the powers of ten around its leading digit. -/
theorem value_bounds (exponent : ℤ) (hdigits : digits ≠ 0) :
    (10 : ℚ) ^ (Decimal.digitCount digits + exponent - 1) ≤ (⟨digits, exponent⟩ : Decimal).value ∧
      (⟨digits, exponent⟩ : Decimal).value < 10 ^ (Decimal.digitCount digits + exponent) := by
  have hten : (10 : ℚ) ≠ 0 := by norm_num
  have hexp : (0 : ℚ) < 10 ^ exponent := by positivity
  constructor
  · have hle : ((10 : ℚ) ^ (Decimal.digitCount digits - 1)) ≤ digits := by
      exact_mod_cast Decimal.pow_digitCount_le hdigits
    have hcast : (Decimal.digitCount digits + exponent - 1 : ℤ) =
        ((Decimal.digitCount digits - 1 : ℕ) : ℤ) + exponent := by
      have hpos := Decimal.digitCount_pos digits
      omega
    rw [hcast, zpow_add₀ hten, zpow_natCast]
    exact mul_le_mul_of_nonneg_right hle hexp.le
  · have hlt : (digits : ℚ) < 10 ^ Decimal.digitCount digits := by
      exact_mod_cast Decimal.lt_pow_digitCount digits
    rw [zpow_add₀ hten, zpow_natCast]
    exact mul_lt_mul_of_pos_right hlt hexp

/-- **A decimal that rounds to a number is read as it.** -/
theorem ofScaled_eq (negative : Bool) (hpos : 0 < m) (hm : m < infiniteMagnitude)
    (hdigits : digits ≠ 0) (h : RoundsTo m (⟨digits, exponent⟩ : Decimal).value) :
    ofScaled negative digits exponent = ofMagnitude negative m := by
  obtain ⟨hlow, hhigh⟩ := value_bounds exponent hdigits
  have hbase : (1 : ℚ) < 10 := by norm_num
  -- The leading digit stands within the range in which the value is worked out.
  have hover : ¬ overflowPoint < (Nat.toDigits 10 digits).length + exponent := by
    have hlt := (zpow_lt_zpow_iff_right₀ hbase).1 (hlow.trans_lt (lt_of_roundsTo_finite hm h))
    unfold Decimal.digitCount Decimal.digitChars at hlt
    unfold overflowPoint
    omega
  have hunder : ¬ (Nat.toDigits 10 digits).length + exponent < underflowPoint := by
    have hlt := (zpow_lt_zpow_iff_right₀ hbase).1 ((lt_of_roundsTo hpos h).trans hhigh)
    unfold Decimal.digitCount Decimal.digitChars at hlt
    unfold underflowPoint
    omega
  unfold ofScaled
  dsimp only
  rw [if_neg hdigits, if_neg hover, if_neg hunder]
  have hden : 0 < 10 ^ (-exponent).toNat := by positivity
  refine congrArg (ofMagnitude negative) (nearest_eq hden hm ?_)
  refine (Interval.contains_div_iff hden).1 ?_
  unfold RoundsTo at h
  rw [Decimal.value_mul_quarters] at h
  have hnum : digits * (10 ^ exponent.toNat * Decimal.quartersPerOne) =
      4 * (digits * Nat.pow 10 exponent.toNat * unitsPerOne) := by
    unfold Decimal.quartersPerOne
    change _ = 4 * (digits * 10 ^ exponent.toNat * unitsPerOne)
    ring
  rwa [hnum] at h

end Binary64

end Provisioning
