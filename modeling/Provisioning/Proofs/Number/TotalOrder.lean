import Provisioning.Number.Binary64

/-!
# The total order of binary64 numbers

The order by `Binary64.rank` against the order that the standard for floating-point numbers asks
for: the numerical order, with the zeros apart and the NaNs at both ends.

## Main definitions

* `Binary64.Before`: one number comes before another in the total order

## Main results

* `Binary64.rank_injective`: numbers of equal rank have the same bits
* `Binary64.before_iff`, `Binary64.totalLe_iff`: the rank decides the order
* `Binary64.le_of_totalLe`: among numbers the total order refines the numerical one
-/

namespace Provisioning.Binary64

variable {x y : Binary64}

/-- One number comes before another in the total order of all binary64 numbers. -/
inductive Before : Binary64 → Binary64 → Prop where
  /-- A number comes before a numerically greater one. -/
  | less {x y : Binary64} (h : x.lt y = true) : Before x y
  /-- Negative zero comes before positive zero. -/
  | zeros : Before negZero zero
  /-- A NaN with its sign set comes before all but such NaNs. -/
  | negative {x y : Binary64} (hx : x.isNaN = true) (hs : x.isNegative = true)
      (hy : ¬ (y.isNaN = true ∧ y.isNegative = true)) : Before x y
  /-- A NaN without its sign set comes after all but such NaNs. -/
  | positive {x y : Binary64} (hy : y.isNaN = true) (hs : y.isNegative = false)
      (hx : ¬ (x.isNaN = true ∧ x.isNegative = false)) : Before x y
  /-- Of two NaNs with their signs set, the greater payload comes first. -/
  | negativePayload {x y : Binary64} (hx : x.isNaN = true) (hy : y.isNaN = true)
      (hsx : x.isNegative = true) (hsy : y.isNegative = true) (h : y.magnitude < x.magnitude) :
      Before x y
  /-- Of two NaNs without, the lesser payload comes first. -/
  | positivePayload {x y : Binary64} (hx : x.isNaN = true) (hy : y.isNaN = true)
      (hsx : x.isNegative = false) (hsy : y.isNegative = false) (h : x.magnitude < y.magnitude) :
      Before x y

/-! ## Signs and magnitudes -/

theorem isNaN_iff : x.isNaN = true ↔ infiniteMagnitude < x.magnitude := decide_eq_true_iff

theorem rank_of_negative (h : x.isNegative = true) : x.rank = -1 - (x.magnitude : Int) := if_pos h

theorem rank_of_positive (h : x.isNegative = false) : x.rank = x.magnitude :=
  if_neg (Bool.eq_false_iff.1 h)

theorem ordinal_of_negative (h : x.isNegative = true) : x.ordinal = -(x.magnitude : Int) := if_pos h

theorem ordinal_of_positive (h : x.isNegative = false) : x.ordinal = x.magnitude :=
  if_neg (Bool.eq_false_iff.1 h)

theorem lt_iff : x.lt y = true ↔ x.isNaN = false ∧ y.isNaN = false ∧ x.ordinal < y.ordinal := by
  simp [lt, and_assoc]

theorem le_iff : x.le y = true ↔ x.isNaN = false ∧ y.isNaN = false ∧ x.ordinal ≤ y.ordinal := by
  simp [le, and_assoc]

/-- Of two numbers, the first is either less than the second or not less. -/
theorem lt_eq_not_le (hx : x.isNaN = false) (hy : y.isNaN = false) : x.lt y = !y.le x := by
  rw [Bool.eq_iff_iff, Bool.not_eq_true', ← Bool.not_eq_true, lt_iff, le_iff]
  simp [hx, hy]

protected theorem le_of_lt (h : x.lt y = true) : x.le y = true := by
  obtain ⟨hx, hy, hlt⟩ := lt_iff.1 h
  exact le_iff.2 ⟨hx, hy, Int.le_of_lt hlt⟩

theorem isFinite_iff : x.isFinite = true ↔ x.magnitude < infiniteMagnitude := decide_eq_true_iff

theorem isInfinite_of_isFinite (h : x.isFinite = true) : x.isInfinite = false :=
  beq_eq_false_iff_ne.2 (Nat.ne_of_lt (isFinite_iff.1 h))

theorem natAbs_ordinal (x : Binary64) : x.ordinal.natAbs = x.magnitude := by
  unfold ordinal
  split <;> omega

/-- The sign and the magnitude make the bits. -/
theorem ext_magnitude (hs : x.isNegative = y.isNegative) (hm : x.magnitude = y.magnitude) :
    x = y := by
  have hx := x.bits.toNat_lt
  have hy := y.bits.toNat_lt
  have hbits : x.bits.toNat = y.bits.toNat := by
    simp only [isNegative, magnitude, signBit, decide_eq_decide] at hs hm
    omega
  cases x
  cases y
  exact congrArg mk (UInt64.toNat_inj.1 hbits)

/-- Numbers of equal rank have the same bits. -/
theorem rank_injective (h : x.rank = y.rank) : x = y := by
  cases hx : x.isNegative <;> cases hy : y.isNegative <;>
    simp only [rank, hx, hy, if_true, if_false, Bool.false_eq_true] at h
  · exact ext_magnitude (hx.trans hy.symm) (by omega)
  · omega
  · omega
  · exact ext_magnitude (hx.trans hy.symm) (by omega)

/-- The NaNs with their signs set are the numbers of least rank. -/
theorem negative_isNaN_iff :
    x.isNaN = true ∧ x.isNegative = true ↔ x.rank < -1 - (infiniteMagnitude : Int) := by
  rw [isNaN_iff]
  cases hs : x.isNegative with
  | true =>
    rw [rank_of_negative hs, and_iff_left rfl]
    omega
  | false =>
    rw [rank_of_positive hs]
    simp only [Bool.false_eq_true, and_false, false_iff]
    omega

/-- The NaNs without are those of greatest rank. -/
theorem positive_isNaN_iff :
    x.isNaN = true ∧ x.isNegative = false ↔ (infiniteMagnitude : Int) < x.rank := by
  rw [isNaN_iff]
  cases hs : x.isNegative with
  | true =>
    rw [rank_of_negative hs]
    simp only [Bool.true_eq_false, and_false, false_iff]
    omega
  | false =>
    rw [rank_of_positive hs, and_iff_left rfl]
    omega

theorem isNaN_eq_false (h₁ : -1 - (infiniteMagnitude : Int) ≤ x.rank)
    (h₂ : x.rank ≤ infiniteMagnitude) : x.isNaN = false := by
  rw [Bool.eq_false_iff]
  intro hx
  cases hs : x.isNegative with
  | true => exact absurd (negative_isNaN_iff.1 ⟨hx, hs⟩) (Int.not_lt.2 h₁)
  | false => exact absurd (positive_isNaN_iff.1 ⟨hx, hs⟩) (Int.not_lt.2 h₂)

/-! ## The order -/

theorem rank_lt_of_lt (h : x.lt y = true) : x.rank < y.rank := by
  obtain ⟨-, -, h⟩ := lt_iff.1 h
  cases hx : x.isNegative <;> cases hy : y.isNegative <;>
    simp only [rank, ordinal, hx, hy, if_true, if_false, Bool.false_eq_true] at h ⊢ <;> omega

theorem Before.rank_lt (h : x.Before y) : x.rank < y.rank := by
  cases h with
  | less h => exact rank_lt_of_lt h
  | zeros => decide
  | negative hx hs hy =>
    rw [negative_isNaN_iff] at hy
    have hx := negative_isNaN_iff.1 ⟨hx, hs⟩
    omega
  | positive hy hs hx =>
    rw [positive_isNaN_iff] at hx
    have hy := positive_isNaN_iff.1 ⟨hy, hs⟩
    omega
  | negativePayload hx hy hsx hsy h =>
    rw [rank_of_negative hsx, rank_of_negative hsy]
    omega
  | positivePayload hx hy hsx hsy h =>
    rw [rank_of_positive hsx, rank_of_positive hsy]
    omega

/-- Two numbers of different rank differ numerically, unless they are the zeros. -/
theorem before_of_numbers (hx : x.isNaN = false) (hy : y.isNaN = false) (h : x.rank < y.rank) :
    x.Before y := by
  have hless : x.ordinal < y.ordinal → x.Before y := fun hlt => .less (lt_iff.2 ⟨hx, hy, hlt⟩)
  cases hsx : x.isNegative with
  | true =>
    rw [ordinal_of_negative hsx] at hless
    rw [rank_of_negative hsx] at h
    cases hsy : y.isNegative with
    | true =>
      rw [ordinal_of_negative hsy] at hless
      rw [rank_of_negative hsy] at h
      exact hless (by omega)
    | false =>
      rw [ordinal_of_positive hsy] at hless
      -- The one case that the numerical order leaves open.
      by_cases hzeros : x.magnitude = 0 ∧ y.magnitude = 0
      · rw [ext_magnitude (x := x) (y := negZero) hsx hzeros.1,
          ext_magnitude (x := y) (y := zero) hsy hzeros.2]
        exact .zeros
      · exact hless (by omega)
  | false =>
    rw [ordinal_of_positive hsx] at hless
    rw [rank_of_positive hsx] at h
    cases hsy : y.isNegative with
    | true =>
      rw [rank_of_negative hsy] at h
      omega
    | false =>
      rw [ordinal_of_positive hsy] at hless
      rw [rank_of_positive hsy] at h
      exact hless h

theorem before_of_rank_lt (h : x.rank < y.rank) : x.Before y := by
  -- A NaN decides by its sign, whatever the other number is; two of one sign by their payloads.
  by_cases hnx : x.isNaN = true ∧ x.isNegative = true
  · by_cases hny : y.isNaN = true ∧ y.isNegative = true
    · rw [rank_of_negative hnx.2, rank_of_negative hny.2] at h
      exact .negativePayload hnx.1 hny.1 hnx.2 hny.2 (by omega)
    · exact .negative hnx.1 hnx.2 hny
  by_cases hpy : y.isNaN = true ∧ y.isNegative = false
  · by_cases hpx : x.isNaN = true ∧ x.isNegative = false
    · rw [rank_of_positive hpx.2, rank_of_positive hpy.2] at h
      exact .positivePayload hpx.1 hpy.1 hpx.2 hpy.2 (by omega)
    · exact .positive hpy.1 hpy.2 hpx
  -- Neither is a NaN, which would be at the wrong end of the order.
  rw [negative_isNaN_iff] at hnx
  rw [positive_isNaN_iff] at hpy
  refine before_of_numbers (isNaN_eq_false ?_ ?_) (isNaN_eq_false ?_ ?_) h <;> omega

/-- **The rank decides the total order.** -/
theorem before_iff : x.Before y ↔ x.rank < y.rank := ⟨Before.rank_lt, before_of_rank_lt⟩

theorem totalLe_iff : x.totalLe y = true ↔ x.Before y ∨ x = y := by
  rw [totalLe, decide_eq_true_iff, before_iff, Int.le_iff_lt_or_eq]
  exact or_congr_right ⟨rank_injective, congrArg rank⟩

theorem totalLe_refl (x : Binary64) : x.totalLe x = true := totalLe_iff.2 (.inr rfl)

theorem totalLe_trans {z : Binary64} (hxy : x.totalLe y = true) (hyz : y.totalLe z = true) :
    x.totalLe z = true :=
  decide_eq_true (Int.le_trans (of_decide_eq_true hxy) (of_decide_eq_true hyz))

theorem totalLe_total (x y : Binary64) : (x.totalLe y || y.totalLe x) = true := by
  rw [Bool.or_eq_true, totalLe, totalLe, decide_eq_true_iff, decide_eq_true_iff]
  exact Int.le_total _ _

theorem Before.asymm (h : x.Before y) : ¬ y.Before x := by
  rw [before_iff] at h ⊢
  exact Int.not_lt.2 (Int.le_of_lt h)

theorem Before.ne (h : x.Before y) : x ≠ y := by
  rintro rfl
  exact h.asymm h

/-! ## The numerical order -/

protected theorem le_refl (h : x.isNaN = false) : x.le x = true := le_iff.2 ⟨h, h, Int.le_refl _⟩

protected theorem le_trans {z : Binary64} (hxy : x.le y = true) (hyz : y.le z = true) :
    x.le z = true := by
  obtain ⟨hx, -, hxy⟩ := le_iff.1 hxy
  obtain ⟨-, hz, hyz⟩ := le_iff.1 hyz
  exact le_iff.2 ⟨hx, hz, Int.le_trans hxy hyz⟩

theorem eq_of_le_of_le (hxy : x.le y = true) (hyx : y.le x = true) : x.eq y = true := by
  obtain ⟨hx, hy, hxy⟩ := le_iff.1 hxy
  obtain ⟨-, -, hyx⟩ := le_iff.1 hyx
  simp [eq, hx, hy, Int.le_antisymm hxy hyx]

/-- Numbers in the total order are in the numerical order. -/
theorem le_of_totalLe (hx : x.isNaN = false) (hy : y.isNaN = false) (h : x.totalLe y = true) :
    x.le y = true := by
  have hrank : x.rank ≤ y.rank := of_decide_eq_true h
  cases hle : x.le y with
  | true => rfl
  | false =>
    have hlt : y.lt x = true := by rw [lt_eq_not_le hy hx, hle, Bool.not_false]
    exact absurd hrank (Int.not_le.2 (rank_lt_of_lt hlt))

theorem zero_le_iff : zero.le x = true ↔ x.isNaN = false ∧ 0 ≤ x.ordinal := by
  rw [le_iff]
  exact and_iff_right rfl

/-- No number is above the infinity. -/
theorem le_infinity (h : x.isNaN = false) : x.le infinity = true := by
  have hle : ¬ infiniteMagnitude < x.magnitude := of_decide_eq_false h
  have hinfinity : infinity.ordinal = infiniteMagnitude := rfl
  refine le_iff.2 ⟨h, rfl, ?_⟩
  rw [← natAbs_ordinal] at hle
  omega

/-- A number that is neither below zero nor above a finite one is finite. -/
theorem isFinite_of_le (hx : zero.le x = true) (hxy : x.le y = true) (hy : y.isFinite = true) :
    x.isFinite = true := by
  have hpos := (zero_le_iff.1 hx).2
  have hle := (le_iff.1 hxy).2.2
  rw [isFinite_iff, ← natAbs_ordinal] at hy ⊢
  omega

/-- A number that is not below zero is finite or the infinity. -/
theorem eq_infinity (hx : zero.le x = true) (h : x.isFinite = false) : x = infinity := by
  obtain ⟨hnan, hpos⟩ := zero_le_iff.1 hx
  have hle : ¬ infiniteMagnitude < x.magnitude := of_decide_eq_false hnan
  have hge : ¬ x.magnitude < infiniteMagnitude := of_decide_eq_false h
  have hmagnitude : x.magnitude = infiniteMagnitude := by omega
  cases hs : x.isNegative with
  | true =>
    rw [ordinal_of_negative hs, hmagnitude] at hpos
    exact absurd hpos (by decide)
  | false => exact ext_magnitude hs hmagnitude

end Provisioning.Binary64
