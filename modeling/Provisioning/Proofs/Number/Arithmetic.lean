import Provisioning.Proofs.Number.Rounding
import Provisioning.Proofs.Number.TotalOrder

/-!
# Arithmetic keeps the order

The operations round an exact value to the nearest number, and rounding keeps the order. So greater
terms do not give a lesser result; and numbers that are not below zero have sums and products that
are numbers not below zero, the infinity among them.

## Main definitions

* `Binary64.nearestOrdinal`: the ordinal of the number nearest to a signed quotient
* `Binary64.IsNearest`: a number is the one nearest to a signed quotient

## Main results

* `Binary64.IsNearest.le`: rounding keeps the order
* `Binary64.isNearest_add`, `Binary64.isNearest_sub`, `Binary64.isNearest_mul`: what the operations
  round
* `Binary64.add_le_add`, `Binary64.sub_le_sub_right`, `Binary64.mul_le_mul_left`: they keep the
  order
-/

namespace Provisioning.Binary64

variable {w x x' y y' : Binary64} {den m : Nat} {n n' : Int} {negative : Bool}

/-! ## Signs and magnitudes -/

theorem toNat_bits_ofMagnitude (hm : m < signBit) :
    (ofMagnitude negative m).bits.toNat = if negative then signBit + m else m := by
  unfold ofMagnitude
  unfold signBit at *
  refine UInt64.toNat_ofNat_of_lt' ?_
  unfold UInt64.size
  split <;> omega

theorem magnitude_ofMagnitude (hm : m < signBit) : (ofMagnitude negative m).magnitude = m := by
  rw [magnitude, toNat_bits_ofMagnitude hm]
  split
  · rw [Nat.add_mod_left, Nat.mod_eq_of_lt hm]
  · exact Nat.mod_eq_of_lt hm

theorem isNegative_ofMagnitude (hm : m < signBit) :
    (ofMagnitude negative m).isNegative = negative := by
  rw [isNegative, toNat_bits_ofMagnitude hm]
  cases negative with
  | true => exact decide_eq_true (Nat.le_add_right _ _)
  | false => exact decide_eq_false (Nat.not_le.2 hm)

theorem natAbs_signedUnits (x : Binary64) : x.signedUnits.natAbs = x.units := by
  unfold signedUnits
  split <;> omega

/-- The values of finite numbers are in the order of the numbers. -/
theorem signedUnits_mono (hx : x.isFinite = true) (hy : y.isFinite = true) (h : x.le y = true) :
    x.signedUnits ≤ y.signedUnits := by
  have hle := (le_iff.1 h).2.2
  rw [isFinite_iff] at hx hy
  unfold signedUnits units
  cases hsx : x.isNegative with
  | true =>
    rw [ordinal_of_negative hsx] at hle
    cases hsy : y.isNegative with
    | true =>
      rw [ordinal_of_negative hsy] at hle
      have hunits := unitsOf_mono hx (by omega : y.magnitude ≤ x.magnitude)
      simpa using hunits
    | false => simp
  | false =>
    rw [ordinal_of_positive hsx] at hle
    cases hsy : y.isNegative with
    | true =>
      -- Both are zeros.
      rw [ordinal_of_negative hsy] at hle
      rw [show x.magnitude = 0 by omega, show y.magnitude = 0 by omega]
      decide
    | false =>
      rw [ordinal_of_positive hsy] at hle
      have hunits := unitsOf_mono hy (by omega : x.magnitude ≤ y.magnitude)
      simpa using hunits

theorem zero_le_signedUnits (hx : x.isFinite = true) (h : zero.le x = true) : 0 ≤ x.signedUnits :=
  signedUnits_mono (x := zero) rfl hx h

theorem isFinite_neg (h : x.isFinite = true) : x.neg.isFinite = true := by
  rw [isFinite_iff] at *
  rwa [neg, magnitude_ofMagnitude (h.trans (by decide))]

theorem signedUnits_neg (h : x.isFinite = true) : x.neg.signedUnits = -x.signedUnits := by
  have hm : x.magnitude < signBit := (isFinite_iff.1 h).trans (by decide)
  unfold signedUnits units neg
  rw [magnitude_ofMagnitude hm, isNegative_ofMagnitude hm]
  cases x.isNegative <;> simp

/-! ## Rounding -/

/-- The ordinal of the number nearest to a signed quotient of units. -/
def nearestOrdinal (n : Int) (den : Nat) : Int :=
  if n < 0 then -(nearest n.natAbs den : Int) else nearest n.natAbs den

/-- A number is the one nearest to a signed quotient of units, up to the sign of a zero. -/
structure IsNearest (x : Binary64) (n : Int) (den : Nat) : Prop where
  isNaN : x.isNaN = false
  ordinal : x.ordinal = nearestOrdinal n den

theorem nearestOrdinal_mono (hden : 0 < den) (h : n ≤ n') :
    nearestOrdinal n den ≤ nearestOrdinal n' den := by
  unfold nearestOrdinal
  split
  · split
    · have hle : nearest n'.natAbs den ≤ nearest n.natAbs den := nearest_mono hden (by omega)
      omega
    · omega
  · have hle : nearest n.natAbs den ≤ nearest n'.natAbs den := nearest_mono hden (by omega)
    rw [if_neg (by omega)]
    omega

/-- **A greater quotient does not round to a lesser number**, whatever the signs are. -/
theorem IsNearest.le (hden : 0 < den) (hx : x.IsNearest n den) (hy : y.IsNearest n' den)
    (h : n ≤ n') : x.le y = true :=
  le_iff.2 ⟨hx.isNaN, hy.isNaN, hx.ordinal ▸ hy.ordinal ▸ nearestOrdinal_mono hden h⟩

theorem IsNearest.zero_le (hx : x.IsNearest n den) (h : 0 ≤ n) : zero.le x = true := by
  refine zero_le_iff.2 ⟨hx.isNaN, ?_⟩
  rw [hx.ordinal, nearestOrdinal, if_neg (Int.not_lt.2 h)]
  exact Int.natCast_nonneg _

theorem isNearest_ofMagnitude (hnegative : n < 0 → negative = true)
    (hpositive : 0 < n → negative = false) :
    (ofMagnitude negative (nearest n.natAbs den)).IsNearest n den where
  isNaN := by
    have hm : nearest n.natAbs den < signBit := (nearest_le _ _).trans_lt (by decide)
    rw [Binary64.isNaN, magnitude_ofMagnitude hm]
    exact decide_eq_false (Nat.not_lt.2 (nearest_le _ _))
  ordinal := by
    have hm : nearest n.natAbs den < signBit := (nearest_le _ _).trans_lt (by decide)
    rw [Binary64.ordinal, isNegative_ofMagnitude hm, magnitude_ofMagnitude hm, nearestOrdinal]
    rcases Int.lt_trichotomy n 0 with h | rfl | h
    · rw [hnegative h, if_pos rfl, if_pos h]
    · simp [nearest_zero]
    · rw [hpositive h, if_neg Bool.false_ne_true, if_neg (Int.not_lt.2 h.le)]

/-- A finite number is the one nearest to its value. -/
theorem isNearest_self (h : x.isFinite = true) : x.IsNearest x.signedUnits 1 := by
  have hsign : (x.signedUnits < 0 → x.isNegative = true) ∧
      (0 < x.signedUnits → x.isNegative = false) := by
    unfold signedUnits
    cases x.isNegative <;> simp
  have hx : (ofMagnitude x.isNegative (nearest x.signedUnits.natAbs 1)).IsNearest x.signedUnits 1 :=
    isNearest_ofMagnitude hsign.1 hsign.2
  rwa [natAbs_signedUnits, units, nearest_unitsOf (isFinite_iff.1 h), ofMagnitude_magnitude] at hx

/-! ## Operations on finite numbers -/

theorem isNearest_add (hx : x.isFinite = true) (hy : y.isFinite = true) :
    (x + y).IsNearest (x.signedUnits + y.signedUnits) 1 := by
  change (add x y).IsNearest _ 1
  unfold add
  rw [isNaN_of_isFinite hx, isNaN_of_isFinite hy, isInfinite_of_isFinite hx,
    isInfinite_of_isFinite hy]
  simp only [Bool.false_eq_true, if_false]
  generalize x.signedUnits + y.signedUnits = n
  split
  · next h =>
    rw [h, ← nearest_zero 1]
    exact isNearest_ofMagnitude (n := 0) (by simp) (by simp)
  · exact isNearest_ofMagnitude (by simp) (by simp; omega)

theorem isNearest_sub (hx : x.isFinite = true) (hy : y.isFinite = true) :
    (x - y).IsNearest (x.signedUnits - y.signedUnits) 1 := by
  have hsub : x - y = x + y.neg := by
    change sub x y = add x y.neg
    unfold sub
    rw [isNaN_of_isFinite hx, isNaN_of_isFinite hy]
    rfl
  rw [hsub, Int.sub_eq_add_neg, ← signedUnits_neg hy]
  exact isNearest_add hx (isFinite_neg hy)

theorem isNearest_mul (hx : x.isFinite = true) (hy : y.isFinite = true) :
    (x * y).IsNearest (x.signedUnits * y.signedUnits) unitsPerOne := by
  -- The signs decide the sign of the value, unless that is zero.
  have hsign : (x.signedUnits * y.signedUnits < 0 → (x.isNegative != y.isNegative) = true) ∧
      (0 < x.signedUnits * y.signedUnits → (x.isNegative != y.isNegative) = false) := by
    have hunits : (0 : Int) ≤ x.units * y.units := by positivity
    unfold signedUnits
    cases x.isNegative <;> cases y.isNegative <;> simp <;> omega
  change (mul x y).IsNearest _ _
  unfold mul
  rw [isNaN_of_isFinite hx, isNaN_of_isFinite hy, isInfinite_of_isFinite hx,
    isInfinite_of_isFinite hy, ← natAbs_signedUnits x, ← natAbs_signedUnits y, ← Int.natAbs_mul]
  exact isNearest_ofMagnitude hsign.1 hsign.2

protected theorem sub_le_sub_right (hx : x.isFinite = true) (hx' : x'.isFinite = true)
    (hy : y.isFinite = true) (h : x.le x' = true) : (x - y).le (x' - y) = true :=
  (isNearest_sub hx hy).le Nat.one_pos (isNearest_sub hx' hy)
    (Int.sub_le_sub_right (signedUnits_mono hx hx' h) _)

theorem zero_le_sub (hx : x.isFinite = true) (hy : y.isFinite = true) (h : y.le x = true) :
    zero.le (x - y) = true :=
  (isNearest_sub hx hy).zero_le (Int.sub_nonneg_of_le (signedUnits_mono hy hx h))

protected theorem sub_le_self (hx : x.isFinite = true) (hy : y.isFinite = true)
    (h : zero.le y = true) : (x - y).le x = true :=
  (isNearest_sub hx hy).le Nat.one_pos (isNearest_self hx)
    (Int.sub_le_self _ (zero_le_signedUnits hy h))

protected theorem mul_le_mul_left (hw : w.isFinite = true) (hw0 : zero.le w = true)
    (hx : x.isFinite = true) (hx' : x'.isFinite = true) (h : x.le x' = true) :
    (w * x).le (w * x') = true :=
  (isNearest_mul hw hx).le unitsPerOne_pos (isNearest_mul hw hx')
    (Int.mul_le_mul_of_nonneg_left (signedUnits_mono hx hx' h) (zero_le_signedUnits hw hw0))

theorem zero_le_mul (hx : x.isFinite = true) (hx0 : zero.le x = true) (hy : y.isFinite = true)
    (hy0 : zero.le y = true) : zero.le (x * y) = true :=
  (isNearest_mul hx hy).zero_le
    (Int.mul_nonneg (zero_le_signedUnits hx hx0) (zero_le_signedUnits hy hy0))

/-! ## Sums that may be infinite -/

/-- A sum of numbers that are not below zero has finite terms or is the infinity. -/
theorem isFinite_or_add_eq (hx : zero.le x = true) (hy : zero.le y = true) :
    x.isFinite = true ∧ y.isFinite = true ∨ x + y = infinity := by
  change _ ∨ add x y = infinity
  unfold add
  rw [(zero_le_iff.1 hx).1, (zero_le_iff.1 hy).1]
  cases hfx : x.isFinite with
  | true =>
    cases hfy : y.isFinite with
    | true => exact .inl ⟨rfl, rfl⟩
    | false =>
      obtain rfl := eq_infinity hy hfy
      rw [isInfinite_of_isFinite hfx]
      exact .inr rfl
  | false =>
    obtain rfl := eq_infinity hx hfx
    cases hfy : y.isFinite with
    | true =>
      rw [isInfinite_of_isFinite hfy]
      exact .inr rfl
    | false =>
      -- Both have the same sign, so that the sum is not invalid.
      obtain rfl := eq_infinity hy hfy
      exact .inr rfl

theorem zero_le_add (hx : zero.le x = true) (hy : zero.le y = true) : zero.le (x + y) = true := by
  rcases isFinite_or_add_eq hx hy with ⟨hfx, hfy⟩ | h
  · exact (isNearest_add hfx hfy).zero_le
      (Int.add_nonneg (zero_le_signedUnits hfx hx) (zero_le_signedUnits hfy hy))
  · rw [h]
    rfl

protected theorem add_le_add (hx : zero.le x = true) (hy : zero.le y = true) (hxx' : x.le x' = true)
    (hyy' : y.le y' = true) : (x + y).le (x' + y') = true := by
  have hx' : zero.le x' = true := Binary64.le_trans hx hxx'
  have hy' : zero.le y' = true := Binary64.le_trans hy hyy'
  rcases isFinite_or_add_eq hx' hy' with ⟨hfx', hfy'⟩ | h
  · -- The lesser terms are finite as well.
    have hfx : x.isFinite = true := isFinite_of_le hx hxx' hfx'
    have hfy : y.isFinite = true := isFinite_of_le hy hyy' hfy'
    exact (isNearest_add hfx hfy).le Nat.one_pos (isNearest_add hfx' hfy')
      (Int.add_le_add (signedUnits_mono hfx hfx' hxx') (signedUnits_mono hfy hfy' hyy'))
  · rw [h]
    exact le_infinity (zero_le_iff.1 (zero_le_add hx hy)).1

end Provisioning.Binary64
