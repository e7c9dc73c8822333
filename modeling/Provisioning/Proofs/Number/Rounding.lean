import Provisioning.Decimal.Shortest
import Mathlib.Tactic.Ring
import Mathlib.Tactic.Linarith

/-!
# Rounding to the nearest number

A quotient that lies in the interval of a number rounds to this number: the interval that the
shortest decimal is searched in is the one that reading rounds by. A greater quotient does not round to
a lesser number.

## Main results

* `roundHalfEven_eq`: a quotient within half of a whole number rounds to it
* `Binary64.nearest_eq`: a quotient in the interval of a magnitude rounds to the magnitude
* `Binary64.nearest_mono`: rounding keeps the order of quotients
* `Binary64.nearest_unitsOf`: a finite number rounds to itself
-/

namespace Provisioning

variable {num num' den n : Nat}

/-- A quotient within half of a whole number rounds to it; at a half the number must be even. -/
theorem roundHalfEven_eq (hden : 0 < den) (hlow : 2 * n * den ≤ 2 * num + den)
    (hhigh : 2 * num ≤ (2 * n + 1) * den)
    (hodd : n % 2 = 1 → 2 * n * den < 2 * num + den ∧ 2 * num < (2 * n + 1) * den) :
    roundHalfEven num den = n := by
  have hsplit : den * (num / den) + num % den = num := Nat.div_add_mod num den
  have hr : num % den < den := Nat.mod_lt num hden
  unfold roundHalfEven
  dsimp only
  generalize num / den = q at *
  generalize num % den = r at *
  -- The number is one of the two next to the quotient; which one, the remainder says.
  have hle : n ≤ q + 1 := by
    by_contra h
    have hmul : (q + 2) * den ≤ n * den := Nat.mul_le_mul_right den (by omega)
    nlinarith
  have hge : q ≤ n := by
    by_contra h
    have hmul : (n + 1) * den ≤ q * den := Nat.mul_le_mul_right den (by omega)
    nlinarith
  obtain rfl | rfl : n = q ∨ n = q + 1 := by omega
  · have hhalf : 2 * r ≤ den := by nlinarith
    have hne : n % 2 = 1 → 2 * r < den := fun h => by nlinarith [hodd h]
    rw [if_neg (by omega)]
  · have hhalf : den ≤ 2 * r := by nlinarith
    have hne : (q + 1) % 2 = 1 → den < 2 * r := fun h => by nlinarith [hodd h]
    rw [if_pos (by omega)]

theorem roundHalfEven_mul (hden : 0 < den) (n : Nat) : roundHalfEven (n * den) den = n :=
  roundHalfEven_eq hden (by nlinarith) (by nlinarith) fun _ => ⟨by nlinarith, by nlinarith⟩

theorem roundHalfEven_mono (h : num ≤ num') : roundHalfEven num den ≤ roundHalfEven num' den := by
  have hq : num / den ≤ num' / den := Nat.div_le_div_right h
  unfold roundHalfEven
  dsimp only
  rcases Nat.eq_or_lt_of_le hq with hq | hq
  · -- Of two quotients with one whole part the greater has the greater remainder.
    have hr : num % den ≤ num' % den := by
      have hsplit := Nat.div_add_mod num den
      have hsplit' := Nat.div_add_mod num' den
      rw [hq] at hsplit
      omega
    rw [hq]
    split <;> split <;> omega
  · split <;> split <;> omega

namespace Binary64

variable {m m' : Nat}

/-- The unit of a magnitude's significand, with a quotient's denominator. -/
def step (den m : Nat) : Nat := den * 2 ^ shiftOf m

/-- The distance from a magnitude to the lower end of its interval, in quarters of a unit. -/
def halfBelow (m : Nat) : Nat :=
  if significandOf m = leadingBit ∧ shiftOf m ≠ 0 then 2 ^ shiftOf m else 2 * 2 ^ shiftOf m

theorem halfBelow_le (m : Nat) : halfBelow m ≤ 2 * 2 ^ shiftOf m := by
  unfold halfBelow
  split <;> omega

theorem halfBelow_mul_le (den m : Nat) : halfBelow m * den ≤ 2 * step den m :=
  calc halfBelow m * den ≤ 2 * 2 ^ shiftOf m * den := Nat.mul_le_mul_right den (halfBelow_le m)
    _ = 2 * step den m := by unfold step; ring

/-- Below a power of two the interval is shorter. -/
theorem halfBelow_mul_of_leadingBit (den : Nat) (hg : significandOf m = leadingBit)
    (hs : shiftOf m ≠ 0) : halfBelow m * den = step den m := by
  unfold halfBelow
  rw [if_pos ⟨hg, hs⟩]
  exact Nat.mul_comm _ _

/-- A quotient in the interval of a magnitude lies between the ends, and on one of them only if the
significand is even. -/
theorem bounds_of_holds (h : (Interval.ofMagnitude m).holds den (4 * num) = true) :
    4 * significandOf m * step den m ≤ 4 * num + halfBelow m * den ∧
    4 * num ≤ (4 * significandOf m + 2) * step den m ∧
    (significandOf m % 2 = 1 →
      4 * significandOf m * step den m < 4 * num + halfBelow m * den ∧
        4 * num < (4 * significandOf m + 2) * step den m) := by
  have hlow : 4 * significandOf m * step den m ≤
      (Interval.ofMagnitude m).low * den + halfBelow m * den :=
    calc 4 * significandOf m * step den m = 4 * significandOf m * 2 ^ shiftOf m * den := by
          unfold step; ring
      _ ≤ ((Interval.ofMagnitude m).low + halfBelow m) * den :=
          Nat.mul_le_mul_right den le_tsub_add
      _ = _ := Nat.add_mul _ _ _
  have hhigh : (Interval.ofMagnitude m).high * den = (4 * significandOf m + 2) * step den m :=
    calc (Interval.ofMagnitude m).high * den
        = (4 * significandOf m * 2 ^ shiftOf m + 2 * 2 ^ shiftOf m) * den := rfl
      _ = (4 * significandOf m + 2) * step den m := by unfold step; ring
  have hclosed : (Interval.ofMagnitude m).closed = (significandOf m % 2 == 0) := rfl
  unfold Interval.holds at h
  rw [hhigh, hclosed] at h
  split at h
  · next heven =>
    have hpar : significandOf m % 2 = 0 := beq_iff_eq.1 heven
    simp only [Bool.and_eq_true, decide_eq_true_eq] at h
    exact ⟨by omega, h.2, by omega⟩
  · simp only [Bool.and_eq_true, decide_eq_true_eq] at h
    exact ⟨by omega, h.2.le, fun _ => ⟨by omega, h.2⟩⟩

/-- The shift of a quotient whose whole part has 53 bits and some more. -/
theorem log2_sub_eq {k : Nat} (hden : 0 < den) (hlow : leadingBit * (den * 2 ^ k) ≤ num)
    (hhigh : num < 2 * leadingBit * (den * 2 ^ k)) : (num / den).log2 - 52 = k := by
  have hle : 2 ^ (52 + k) ≤ num / den := by
    rw [Nat.le_div_iff_mul_le hden]
    calc 2 ^ (52 + k) * den = leadingBit * (den * 2 ^ k) := by rw [Nat.pow_add]; ring
      _ ≤ num := hlow
  have hlt : num / den < 2 ^ (53 + k) := by
    rw [Nat.div_lt_iff_lt_mul hden]
    calc num < 2 * leadingBit * (den * 2 ^ k) := hhigh
      _ = 2 ^ (53 + k) * den := by rw [Nat.pow_add]; ring
  have hne : num / den ≠ 0 := (Nat.lt_of_lt_of_le (by positivity) hle).ne'
  have h1 := (Nat.le_log2 hne).2 hle
  have h2 := (Nat.log2_lt hne).2 hlt
  omega

/-- A quotient whose whole part has at most 53 bits has no shift. -/
theorem log2_sub_eq_zero (hden : 0 < den) (hhigh : num < 2 * leadingBit * den) :
    (num / den).log2 - 52 = 0 := by
  have hlt : num / den < 2 ^ 53 := (Nat.div_lt_iff_lt_mul hden).2 hhigh
  by_cases hne : num / den = 0
  · rw [hne]
    rfl
  · have h2 := (Nat.log2_lt hne).2 hlt
    omega

theorem nearest_eq_of_shift {k : Nat} (hshift : (num / den).log2 - 52 = k)
    (hm : m < infiniteMagnitude)
    (hround : k * leadingBit + roundHalfEven num (den * 2 ^ k) = m) : nearest num den = m := by
  unfold nearest
  dsimp only
  rw [hshift]
  change min infiniteMagnitude (k * leadingBit + roundHalfEven num (den * 2 ^ k)) = m
  rw [hround]
  exact Nat.min_eq_right hm.le

/-- Below a power of two the numbers lie twice as dense, and a quotient that is near enough is
rounded up to the power. -/
theorem nearest_eq_of_lt_power (hden : 0 < den) (hm : m < infiniteMagnitude)
    (h : (Interval.ofMagnitude m).holds den (4 * num) = true) (hs : shiftOf m ≠ 0)
    (hlt : num < leadingBit * step den m) : nearest num den = m := by
  obtain ⟨hlow, -, -⟩ := bounds_of_holds h
  have hg : significandOf m = leadingBit := by
    by_contra hne
    have hsucc : leadingBit + 1 ≤ significandOf m := by
      have hle := leadingBit_le_significandOf hs
      omega
    have hmul := Nat.mul_le_mul_right (step den m) hsucc
    have hbelow := halfBelow_mul_le den m
    nlinarith
  rw [halfBelow_mul_of_leadingBit den hg hs, hg] at hlow
  -- The quotient is rounded in the unit below, half of the magnitude's.
  obtain ⟨k, hk⟩ := Nat.exists_eq_succ_of_ne_zero hs
  have hstep : step den m = 2 * (den * 2 ^ k) := by
    unfold step
    rw [hk, Nat.pow_succ]
    ring
  rw [hstep] at hlow hlt
  have hpos : 0 < den * 2 ^ k := Nat.mul_pos hden (by positivity)
  generalize hv : den * 2 ^ k = v at hlow hlt hpos
  have hshift : (num / den).log2 - 52 = k := by
    refine log2_sub_eq hden ?_ ?_
    · rw [hv]
      unfold leadingBit at *
      omega
    · rw [hv]
      unfold leadingBit at *
      omega
  have hround : roundHalfEven num (den * 2 ^ k) = 2 * leadingBit := by
    rw [hv]
    refine roundHalfEven_eq hpos ?_ ?_ fun hodd => ?_
    · unfold leadingBit at *
      omega
    · unfold leadingBit at *
      omega
    · simp at hodd
  refine nearest_eq_of_shift hshift hm ?_
  have hsplit := shiftOf_mul_add m
  rw [hk, hg] at hsplit
  calc k * leadingBit + roundHalfEven num (den * 2 ^ k)
      = k * leadingBit + 2 * leadingBit := by rw [hround]
    _ = (k + 1) * leadingBit + leadingBit := by ring
    _ = m := hsplit

/-- **A quotient in the interval of a number rounds to this number.** -/
theorem nearest_eq (hden : 0 < den) (hm : m < infiniteMagnitude)
    (h : (Interval.ofMagnitude m).holds den (4 * num) = true) : nearest num den = m := by
  by_cases hs : shiftOf m ≠ 0 ∧ num < leadingBit * step den m
  · exact nearest_eq_of_lt_power hden hm h hs.1 hs.2
  -- Otherwise the quotient has the shift of the magnitude, and what is rounded is the significand.
  obtain ⟨hlow, hhigh, hodd⟩ := bounds_of_holds h
  have hpos : 0 < step den m := Nat.mul_pos hden (by positivity)
  have hbelow := halfBelow_mul_le den m
  have hlt : num < 2 * leadingBit * step den m := by
    have hmul := Nat.mul_le_mul_right (step den m) (Nat.succ_le_of_lt (significandOf_lt m))
    nlinarith
  have hshift : (num / den).log2 - 52 = shiftOf m := by
    by_cases hs0 : shiftOf m = 0
    · rw [hs0]
      refine log2_sub_eq_zero hden ?_
      simpa [step, hs0] using hlt
    · exact log2_sub_eq hden (Nat.not_lt.1 fun h => hs ⟨hs0, h⟩) hlt
  have hround : roundHalfEven num (step den m) = significandOf m := by
    refine roundHalfEven_eq hpos (by nlinarith) (by nlinarith) fun h => ?_
    obtain ⟨h1, h2⟩ := hodd h
    exact ⟨by nlinarith, by nlinarith⟩
  refine nearest_eq_of_shift hshift hm ?_
  calc shiftOf m * leadingBit + roundHalfEven num (den * 2 ^ shiftOf m)
      = shiftOf m * leadingBit + roundHalfEven num (step den m) := rfl
    _ = shiftOf m * leadingBit + significandOf m := by rw [hround]
    _ = m := shiftOf_mul_add m

/-! ## Order -/

theorem nearest_le (num den : Nat) : nearest num den ≤ infiniteMagnitude := Nat.min_le_left _ _

theorem nearest_zero (den : Nat) : nearest 0 den = 0 := by simp [nearest, roundHalfEven]

/-- The shift of a quotient leaves a whole part of at most 53 bits. -/
theorem lt_of_shift (num : Nat) (hden : 0 < den) :
    num < 2 * leadingBit * (den * 2 ^ ((num / den).log2 - 52)) := by
  have hlt : num / den < 2 ^ (53 + ((num / den).log2 - 52)) := by
    refine Nat.lt_of_lt_of_le Nat.lt_log2_self (Nat.pow_le_pow_right (by omega) ?_)
    omega
  calc num < 2 ^ (53 + ((num / den).log2 - 52)) * den := (Nat.div_lt_iff_lt_mul hden).1 hlt
    _ = 2 * leadingBit * (den * 2 ^ ((num / den).log2 - 52)) := by rw [Nat.pow_add]; ring

/-- If there is a shift, the whole part that it leaves has 53 bits. -/
theorem le_of_shift (num : Nat) (hden : 0 < den) (hshift : (num / den).log2 - 52 ≠ 0) :
    leadingBit * (den * 2 ^ ((num / den).log2 - 52)) ≤ num := by
  have hne : num / den ≠ 0 := by
    intro h
    rw [h] at hshift
    exact hshift rfl
  have hle : 2 ^ (52 + ((num / den).log2 - 52)) ≤ num / den := by
    refine Nat.le_trans (Nat.pow_le_pow_right (by omega) ?_) (Nat.log2_self_le hne)
    omega
  calc leadingBit * (den * 2 ^ ((num / den).log2 - 52))
      = 2 ^ (52 + ((num / den).log2 - 52)) * den := by rw [Nat.pow_add]; ring
    _ ≤ num := (Nat.le_div_iff_mul_le hden).1 hle

/-- **A greater quotient does not round to a lesser number.** -/
theorem nearest_mono (hden : 0 < den) (h : num ≤ num') : nearest num den ≤ nearest num' den := by
  have hlog : (num / den).log2 - 52 ≤ (num' / den).log2 - 52 := by
    by_cases hne : num / den = 0
    · simp [hne]
    · have hq : num / den ≤ num' / den := Nat.div_le_div_right h
      have hne' : num' / den ≠ 0 := fun h0 => hne (Nat.le_zero.1 (h0 ▸ hq))
      exact Nat.sub_le_sub_right ((Nat.le_log2 hne').2 ((Nat.log2_self_le hne).trans hq)) 52
  have hlt := lt_of_shift num hden
  have hle := le_of_shift num' hden
  unfold nearest
  dsimp only
  change min infiniteMagnitude (_ + roundHalfEven num (den * 2 ^ _)) ≤
    min infiniteMagnitude (_ + roundHalfEven num' (den * 2 ^ _))
  generalize (num / den).log2 - 52 = k at *
  generalize (num' / den).log2 - 52 = k' at *
  refine min_le_min_left infiniteMagnitude ?_
  rcases Nat.eq_or_lt_of_le hlog with rfl | hlog
  · exact Nat.add_le_add_left (roundHalfEven_mono h) _
  · -- A power of two lies between the two, and it rounds to itself.
    have hpos : 0 < den * 2 ^ k := Nat.mul_pos hden (by positivity)
    have hpos' : 0 < den * 2 ^ k' := Nat.mul_pos hden (by positivity)
    have hround : roundHalfEven num (den * 2 ^ k) ≤ 2 * leadingBit :=
      roundHalfEven_mul hpos (2 * leadingBit) ▸ roundHalfEven_mono hlt.le
    have hround' : leadingBit ≤ roundHalfEven num' (den * 2 ^ k') :=
      roundHalfEven_mul hpos' leadingBit ▸ roundHalfEven_mono (hle (by omega))
    have hmul : (k + 1) * leadingBit ≤ k' * leadingBit := Nat.mul_le_mul_right _ hlog
    rw [Nat.add_mul] at hmul
    omega

/-- A finite number rounds to itself. -/
theorem nearest_unitsOf (hm : m < infiniteMagnitude) : nearest (unitsOf m) 1 = m := by
  have hunits : unitsOf m = significandOf m * (1 * 2 ^ shiftOf m) := by
    rw [Nat.one_mul]
    rfl
  have hpos : 0 < 1 * 2 ^ shiftOf m := by positivity
  have hlt : unitsOf m < 2 * leadingBit * (1 * 2 ^ shiftOf m) :=
    hunits ▸ Nat.mul_lt_mul_of_pos_right (significandOf_lt m) hpos
  have hshift : (unitsOf m / 1).log2 - 52 = shiftOf m := by
    by_cases hs : shiftOf m = 0
    · rw [hs] at hlt ⊢
      exact log2_sub_eq_zero Nat.one_pos (by simpa using hlt)
    · refine log2_sub_eq Nat.one_pos ?_ hlt
      exact hunits ▸ Nat.mul_le_mul_right _ (leadingBit_le_significandOf hs)
  refine nearest_eq_of_shift hshift hm ?_
  rw [hunits, roundHalfEven_mul hpos, shiftOf_mul_add]

theorem unitsOf_mono (hm' : m' < infiniteMagnitude) (h : m ≤ m') : unitsOf m ≤ unitsOf m' := by
  -- Otherwise the greater number would round to the lesser one.
  by_contra hlt
  have hle := nearest_mono Nat.one_pos (Nat.le_of_not_le hlt)
  rw [nearest_unitsOf hm', nearest_unitsOf (Nat.lt_of_le_of_lt h hm')] at hle
  exact hlt (Nat.le_antisymm h hle ▸ Nat.le_refl _)

end Binary64

end Provisioning
