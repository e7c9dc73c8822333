import Provisioning.Decimal.Notation
import Provisioning.Proofs.Decimal.Shortest
import Provisioning.Proofs.Text.Trimming
import Mathlib.Data.List.TakeDrop
import Mathlib.Data.List.TakeWhile

/-!
# Decimals in positional notation

A decimal that is written without an exponent part has digits before a point and digits after it. They
are read as the number that the decimal stands for.

## Main definitions

* `Numeral.rational`: the rational number that a written number stands for
* `Numeral.pointText`: the digits with a point between them
* `Decimal.numeral`: the digits of a decimal before and after its point

## Main results

* `Decimal.toList_positionalText`: the text of a decimal has these digits
* `Decimal.rational_numeral`: they stand for the decimal
* `Numeral.value_shortest`: the digits of a number's shortest decimal are read as the number
* `NumberStyle.exists_magnitudeText`: a finite number is written with such digits
* `readNumber?_text`, `Binary64.trim_text`: the text of a finite number in messages is read back, and
  has no blanks
-/

namespace Provisioning

open Text

namespace Numeral

/-- The rational number that a written number stands for. -/
def rational (n : Numeral) : ℚ :=
  (⟨naturalOf (n.whole ++ n.fraction), n.exponent - n.fraction.length⟩ : Decimal).value

/-- The digits of a written number, with a point if any stand after it. -/
def pointText (n : Numeral) : List Char :=
  n.whole ++ if n.fraction = [] then [] else '.' :: n.fraction

end Numeral

namespace Decimal

variable {d : Decimal}

/-- The digits of a decimal before and after its point. -/
def numeral (marksWhole : Bool) (d : Decimal) : Numeral :=
  let digits := digitChars d.digits
  let point := digits.length + d.exponent
  if 0 ≤ d.exponent then
    { whole := digits ++ List.replicate d.exponent.toNat '0'
      fraction := if marksWhole then ['0'] else []
      exponent := 0 }
  else if 0 < point then
    { whole := digits.take point.toNat, fraction := digits.drop point.toNat, exponent := 0 }
  else
    { whole := ['0'], fraction := List.replicate (-point).toNat '0' ++ digits, exponent := 0 }

/-- The three layouts of a decimal. -/
theorem numeral_cases (marksWhole : Bool) (d : Decimal) :
    (∃ n k : Nat, d.exponent = n ∧ (marksWhole = true → k ≠ 0) ∧ d.numeral marksWhole =
      ⟨digitChars d.digits ++ List.replicate n '0', List.replicate k '0', 0⟩) ∨
    (∃ ds es : List Char, digitChars d.digits = ds ++ es ∧ ds ≠ [] ∧ es ≠ [] ∧
      d.exponent = -(es.length : ℤ) ∧ d.numeral marksWhole = ⟨ds, es, 0⟩) ∨
    (∃ n : Nat, d.exponent = -(n + (digitChars d.digits).length : ℤ) ∧ d.numeral marksWhole =
      ⟨['0'], List.replicate n '0' ++ digitChars d.digits, 0⟩) := by
  unfold numeral
  dsimp only
  split
  · next h =>
    obtain ⟨n, hn⟩ := Int.eq_ofNat_of_zero_le h
    rw [hn]
    cases marksWhole with
    | true => exact .inl ⟨n, 1, rfl, fun _ => Nat.one_ne_zero, rfl⟩
    | false => exact .inl ⟨n, 0, rfl, Bool.noConfusion, rfl⟩
  split
  · next hneg hpoint =>
    obtain ⟨k, hk⟩ : ∃ k : Nat, ((digitChars d.digits).length + d.exponent).toNat = k := ⟨_, rfl⟩
    have hdrop : ((digitChars d.digits).drop k).length = (digitChars d.digits).length - k :=
      List.length_drop
    rw [hk]
    refine .inr (.inl ⟨_, _, (List.take_append_drop k _).symm, ?_, ?_, ?_, rfl⟩)
    · refine List.ne_nil_of_length_pos ?_
      rw [List.length_take]
      omega
    · refine List.ne_nil_of_length_pos ?_
      omega
    · omega
  · next hneg hpoint =>
    refine .inr (.inr ⟨(-((digitChars d.digits).length + d.exponent)).toNat, ?_, rfl⟩)
    omega

theorem exponent_numeral (marksWhole : Bool) (d : Decimal) : (d.numeral marksWhole).exponent = 0 := by
  rcases numeral_cases marksWhole d with ⟨n, k, -, -, heq⟩ | ⟨ds, es, -, -, -, -, heq⟩ | ⟨n, -, heq⟩ <;>
    rw [heq]

theorem toList_positionalText (marksWhole : Bool) (d : Decimal) :
    (d.positionalText marksWhole).toList = (d.numeral marksWhole).pointText := by
  unfold positionalText numeral Numeral.pointText
  dsimp only
  split
  · cases marksWhole <;> simp [repeated]
  split
  · next hneg hpoint =>
    have hne : (digitChars d.digits).drop
        ((digitChars d.digits).length + d.exponent).toNat ≠ [] := by
      refine List.ne_nil_of_length_pos ?_
      rw [List.length_drop]
      omega
    simp [hne]
  · have hne : digitChars d.digits ≠ [] := Nat.toDigits_ne_nil
    simp [repeated, hne]

/-- The digits of a decimal are ASCII digits. -/
theorem isAsciiDigit_of_mem_numeral (marksWhole : Bool) (d : Decimal) :
    ∀ c ∈ (d.numeral marksWhole).whole ++ (d.numeral marksWhole).fraction, isAsciiDigit c = true := by
  intro c h
  have hdigits {c : Char} (h : c ∈ digitChars d.digits) : isAsciiDigit c = true :=
    isAsciiDigit_of_mem_toDigits h
  have hzero {n : Nat} {c : Char} (h : c ∈ List.replicate n '0') : isAsciiDigit c = true := by
    rw [List.eq_of_mem_replicate h]
    rfl
  rcases numeral_cases marksWhole d with ⟨n, k, -, -, heq⟩ | ⟨ds, es, heq', -, -, -, heq⟩ | ⟨n, -, heq⟩
  · rw [heq] at h
    rcases List.mem_append.1 h with h | h
    · rcases List.mem_append.1 h with h | h
      · exact hdigits h
      · exact hzero h
    · exact hzero h
  · rw [heq] at h
    exact hdigits (heq' ▸ h)
  · rw [heq] at h
    rcases List.mem_append.1 h with h | h
    · exact hzero (n := 1) h
    · rcases List.mem_append.1 h with h | h
      · exact hzero h
      · exact hdigits h

/-- A decimal that marks whole numbers always has digits after its point. -/
theorem fraction_numeral_ne_nil (d : Decimal) : (d.numeral true).fraction ≠ [] := by
  rcases numeral_cases true d with ⟨n, k, -, hk, heq⟩ | ⟨ds, es, -, -, hes, -, heq⟩ | ⟨n, -, heq⟩
  · rw [heq]
    exact mt (List.replicate_eq_nil_iff _).1 (hk rfl)
  · rw [heq]
    exact hes
  · rw [heq]
    exact List.append_ne_nil_of_right_ne_nil _ Nat.toDigits_ne_nil

/-- No zero stands before other digits. -/
theorem whole_numeral (marksWhole : Bool) (hd : d.digits ≠ 0) :
    (d.numeral marksWhole).whole ≠ [] ∧
      ((d.numeral marksWhole).whole = ['0'] ∨ (d.numeral marksWhole).whole.head? ≠ some '0') := by
  have hne : digitChars d.digits ≠ [] := Nat.toDigits_ne_nil
  have hhead : (digitChars d.digits).head? ≠ some '0' :=
    head?_toDigits_ne_zero (Nat.pos_of_ne_zero hd)
  rcases numeral_cases marksWhole d with ⟨n, k, -, -, heq⟩ | ⟨ds, es, heq', hds, -, -, heq⟩ | ⟨n, -, heq⟩
  · rw [heq]
    refine ⟨List.append_ne_nil_of_left_ne_nil hne _, .inr ?_⟩
    rwa [List.head?_append_of_ne_nil _ hne]
  · rw [heq]
    refine ⟨hds, .inr ?_⟩
    rwa [heq', List.head?_append_of_ne_nil _ hds] at hhead
  · rw [heq]
    exact ⟨List.cons_ne_nil _ _, .inl rfl⟩

theorem naturalOf_digitChars_append_zeros (digits n : Nat) :
    naturalOf (digitChars digits ++ List.replicate n '0') = 10 ^ n * digits := by
  unfold digitChars
  rw [naturalOf_append, naturalOf_replicate_zero, List.length_replicate, naturalOf_toDigits,
    Nat.add_zero]

theorem naturalOf_zeros_append_digitChars (n digits : Nat) :
    naturalOf (List.replicate n '0' ++ digitChars digits) = digits := by
  unfold digitChars
  rw [naturalOf_zeros_append, naturalOf_toDigits]

/-- The digits of a decimal stand for it. -/
theorem rational_numeral (marksWhole : Bool) (d : Decimal) :
    (d.numeral marksWhole).rational = d.value := by
  have hten : (10 : ℚ) ≠ 0 := by norm_num
  unfold Numeral.rational value
  rcases numeral_cases marksWhole d with
    ⟨n, k, hexp, -, heq⟩ | ⟨ds, es, heq', -, -, hexp, heq⟩ | ⟨n, hexp, heq⟩
  · rw [heq, hexp]
    dsimp only
    rw [List.append_assoc, List.replicate_append_replicate, naturalOf_digitChars_append_zeros,
      List.length_replicate, zero_sub, zpow_neg, zpow_natCast, zpow_natCast]
    push_cast
    field_simp
    ring
  · rw [heq, hexp]
    dsimp only
    rw [← heq', zero_sub]
    unfold digitChars
    rw [naturalOf_toDigits]
  · rw [heq, hexp]
    dsimp only
    rw [← List.append_assoc, ← List.replicate_one, List.replicate_append_replicate,
      naturalOf_zeros_append_digitChars, List.length_append, List.length_replicate, zero_sub]
    push_cast
    rfl

end Decimal

namespace Numeral

/-- A written number that stands for a number in the interval of a positive one is read as this. -/
theorem value_eq {n : Numeral} {m : Nat} (negative : Bool) (hpos : 0 < m)
    (hm : m < Binary64.infiniteMagnitude) (h : RoundsTo m n.rational) :
    n.value negative = Binary64.ofMagnitude negative m := by
  refine Binary64.ofScaled_eq negative hpos hm (fun hzero => ?_) h
  -- A number that is written with zeros only lies in no interval of a positive one.
  have hlt := Binary64.lt_of_roundsTo hpos h
  unfold rational Decimal.value at hlt
  rw [hzero, Nat.cast_zero, zero_mul] at hlt
  exact absurd hlt (not_lt.2 (by positivity))

/-- **The digits of a number's shortest decimal are read as the number.** -/
theorem value_shortest (tie : Tie) (marksWhole negative : Bool) {m : Nat} (hpos : 0 < m)
    (hm : m < Binary64.infiniteMagnitude) :
    ((Decimal.shortest tie m).numeral marksWhole).value negative =
      Binary64.ofMagnitude negative m := by
  refine value_eq negative hpos hm ?_
  rw [Decimal.rational_numeral]
  exact Decimal.roundsTo_shortest tie hpos

end Numeral

/-- **A finite number is written with digits that are read as it**, if its style has no exponent
parts. -/
theorem NumberStyle.exists_magnitudeText (style : NumberStyle) {x : Binary64}
    (hstyle : style.positional = none) (hfinite : x.isFinite = true) :
    ∃ whole fraction, (style.magnitudeText x).toList = Numeral.pointText ⟨whole, fraction, 0⟩ ∧
      whole ≠ [] ∧ (whole = ['0'] ∨ whole.head? ≠ some '0') ∧
      (∀ c ∈ whole ++ fraction, isAsciiDigit c = true) ∧
      (style.marksWhole = true → fraction ≠ []) ∧
      Numeral.value x.isNegative ⟨whole, fraction, 0⟩ = x := by
  unfold magnitudeText
  split
  · next hzero =>
    have hmagnitude : x.magnitude = 0 := beq_iff_eq.1 hzero
    refine ⟨['0'], if style.marksWhole then ['0'] else [], ?_, by simp, .inl rfl, ?_, ?_, ?_⟩
    · cases style.marksWhole <;> rfl
    · cases style.marksWhole <;> simp <;> rfl
    · intro h
      simp [h]
    · have hvalue : Numeral.value x.isNegative
          ⟨['0'], if style.marksWhole then ['0'] else [], 0⟩ =
          Binary64.ofMagnitude x.isNegative 0 := by
        cases style.marksWhole <;> rfl
      rw [hvalue, ← hmagnitude, Binary64.ofMagnitude_magnitude]
  · next hzero =>
    have hpos : 0 < x.magnitude := Nat.pos_of_ne_zero fun h => hzero (beq_iff_eq.2 h)
    have hlt : x.magnitude < Binary64.infiniteMagnitude := of_decide_eq_true hfinite
    have htext : style.decimalText (Decimal.shortest style.tie x.magnitude) =
        (Decimal.shortest style.tie x.magnitude).positionalText style.marksWhole := by
      unfold decimalText
      rw [hstyle]
    have hvalue := Numeral.value_shortest style.tie style.marksWhole x.isNegative hpos hlt
    have hfraction := Decimal.fraction_numeral_ne_nil (Decimal.shortest style.tie x.magnitude)
    have hwhole := Decimal.whole_numeral style.marksWhole
      (Decimal.shortest_digits_ne_zero style.tie hpos)
    have hdigit := Decimal.isAsciiDigit_of_mem_numeral style.marksWhole
      (Decimal.shortest style.tie x.magnitude)
    have hexp := Decimal.exponent_numeral style.marksWhole (Decimal.shortest style.tie x.magnitude)
    rw [htext, Decimal.toList_positionalText]
    obtain ⟨n, hn⟩ : ∃ n, (Decimal.shortest style.tie x.magnitude).numeral style.marksWhole = n :=
      ⟨_, rfl⟩
    rw [hn] at hvalue hwhole hdigit hexp ⊢
    obtain ⟨whole, fraction, exponent⟩ := n
    obtain rfl : exponent = 0 := hexp
    refine ⟨whole, fraction, rfl, hwhole.1, hwhole.2, hdigit, fun hmarks => ?_, ?_⟩
    · rw [← hmarks, hn] at hfraction
      exact hfraction
    · rw [hvalue, Binary64.ofMagnitude_magnitude]

/-! ## Numbers in messages -/

/-- Digits around a point are read as such. -/
theorem Numeral.ofChars?_pointText {whole fraction : List Char} (hne : whole ≠ [])
    (hdigit : ∀ c ∈ whole ++ fraction, isAsciiDigit c = true) :
    Numeral.ofChars? (Numeral.pointText ⟨whole, fraction, 0⟩) = some ⟨whole, fraction, 0⟩ := by
  have hwhole : ∀ c ∈ whole, isAsciiDigit c = true := fun c hc =>
    hdigit c (List.mem_append_left _ hc)
  have hfraction : ∀ c ∈ fraction, isAsciiDigit c = true := fun c hc =>
    hdigit c (List.mem_append_right _ hc)
  unfold Numeral.ofChars? Numeral.pointText
  by_cases hnil : fraction = []
  · subst hnil
    simp [List.takeWhile_eq_self_iff.2 hwhole, List.dropWhile_eq_nil_iff.2 hwhole, hne,
      Numeral.exponentPart?]
  · have hpoint : isAsciiDigit '.' = false := rfl
    simp [List.takeWhile_append_of_pos hwhole, List.dropWhile_append_of_pos hwhole, hpoint, hnil, hne,
      List.takeWhile_eq_self_iff.2 hfraction, List.dropWhile_eq_nil_iff.2 hfraction,
      Numeral.exponentPart?]

theorem Binary64.toList_text {x : Binary64} (hfinite : x.isFinite = true) : x.text.toList =
    (if x.isNegative then ['-'] else []) ++ (NumberStyle.plain.magnitudeText x).toList := by
  unfold Binary64.text NumberStyle.render
  rw [Binary64.isNaN_of_isFinite hfinite, hfinite]
  cases x.isNegative <;> simp

/-- The text of a finite number has no blanks around it. -/
theorem Binary64.trim_text {x : Binary64} (hfinite : x.isFinite = true) : trim x.text = x.text := by
  obtain ⟨whole, fraction, htext, -, -, hdigit, -, -⟩ :=
    NumberStyle.exists_magnitudeText .plain rfl hfinite
  refine trim_of_no_blank fun c hc => ?_
  rw [Binary64.toList_text hfinite, htext, Numeral.pointText] at hc
  -- There are digits, and perhaps a sign and a point.
  have hchar : c = '-' ∨ c = '.' ∨ c ∈ whole ++ fraction := by
    rcases List.mem_append.1 hc with hsign | hnumeral
    · split at hsign
      · exact .inl (List.mem_singleton.1 hsign)
      · cases hsign
    · rcases List.mem_append.1 hnumeral with hwhole | hrest
      · exact .inr (.inr (List.mem_append_left _ hwhole))
      · split at hrest
        · cases hrest
        · exact .inr ((List.mem_cons.1 hrest).imp_right (List.mem_append_right _))
  rcases hchar with rfl | rfl | hc
  · rfl
  · rfl
  · exact isBlank_of_isAsciiDigit (hdigit c hc)

/-- **The text of a finite number is read back** bit by bit. -/
theorem readNumber?_text {x : Binary64} (hfinite : x.isFinite = true) :
    readNumber? x.text = some x := by
  obtain ⟨whole, fraction, htext, hne, -, hdigit, -, hvalue⟩ :=
    NumberStyle.exists_magnitudeText .plain rfl hfinite
  have hunsigned : readUnsigned? x.isNegative (NumberStyle.plain.magnitudeText x).toList = some x := by
    unfold readUnsigned?
    rw [htext, Numeral.ofChars?_pointText hne hdigit, Option.map_some, hvalue]
  unfold readNumber?
  rw [Binary64.toList_text hfinite]
  cases hsign : x.isNegative with
  | true => rwa [hsign] at hunsigned
  | false =>
    rw [hsign] at hunsigned
    -- The text starts with a digit, which is no sign.
    obtain ⟨c, cs, hcs⟩ := List.exists_cons_of_ne_nil hne
    have hc : isAsciiDigit c = true := hdigit c (by simp [hcs])
    have hstart : ∃ rest, (NumberStyle.plain.magnitudeText x).toList = c :: rest := by
      rw [htext, Numeral.pointText, hcs]
      exact ⟨_, rfl⟩
    obtain ⟨rest, hrest⟩ := hstart
    rw [hrest] at hunsigned
    simp only [hrest, Bool.false_eq_true, if_false, List.nil_append]
    split
    · next heq =>
      obtain rfl := (List.cons.inj heq).1
      cases hc
    · next heq =>
      obtain rfl := (List.cons.inj heq).1
      cases hc
    · exact hunsigned

end Provisioning
