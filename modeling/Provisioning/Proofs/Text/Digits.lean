import Mathlib.Algebra.Group.Nat.Defs
import Provisioning.Text.DecimalDigit

/-!
# Digits and numbers

Digits without needless zeros before them are those of the number that they stand for. So two lists of
digits stand for one number if they differ in such zeros only.

## Main results

* `naturalOf_append`: digits after other digits
* `toDigits_naturalOf`: digits that do not start with a zero are those of their number
* `exists_eq_zeros_append_toDigits`: any digits are these, after some zeros
-/

namespace Provisioning.Text

variable {c : Char} {s : List Char}

theorem toNat_of_isAsciiDigit (h : isAsciiDigit c = true) : 48 ≤ c.toNat ∧ c.toNat ≤ 57 := by
  have hc : '0' ≤ c ∧ c ≤ '9' := by simpa [isAsciiDigit] using h
  exact hc

theorem digitValue_lt (h : isAsciiDigit c = true) : digitValue c < 10 := by
  have hc := toNat_of_isAsciiDigit h
  show c.toNat - 48 < 10
  omega

theorem digitChar_digitValue (h : isAsciiDigit c = true) : Nat.digitChar (digitValue c) = c := by
  apply Char.toNat_inj.1
  rw [Nat.toNat_digitChar_of_lt_ten (digitValue_lt h)]
  exact Nat.add_sub_cancel' (toNat_of_isAsciiDigit h).1

theorem toDigits_digitValue (h : isAsciiDigit c = true) : Nat.toDigits 10 (digitValue c) = [c] := by
  rw [Nat.toDigits_of_lt_base (digitValue_lt h), digitChar_digitValue h]

theorem naturalOf_append (ds es : List Char) :
    naturalOf (ds ++ es) = 10 ^ es.length * naturalOf ds + naturalOf es := by
  have h : naturalOf (ds ++ es) = Nat.ofDigitChars 10 es (naturalOf ds) :=
    Nat.ofDigitChars_append 0
  rw [h, Nat.ofDigitChars_eq_ofDigitChars_zero]
  rfl

theorem naturalOf_cons (c : Char) (s : List Char) :
    naturalOf (c :: s) = Nat.ofDigitChars 10 s (digitValue c) := by
  show Nat.ofDigitChars 10 s (10 * 0 + digitValue c) = _
  rw [Nat.mul_zero, Nat.zero_add]

theorem naturalOf_zeros_append (n : Nat) (s : List Char) :
    naturalOf (List.replicate n '0' ++ s) = naturalOf s := by
  rw [naturalOf_append, naturalOf_replicate_zero, Nat.mul_zero, Nat.zero_add]

/-- Digits after those of a positive number are digits of the number that they continue. -/
theorem toDigits_append {n : Nat} (hn : 0 < n) (hdigits : ∀ c ∈ s, isAsciiDigit c = true) :
    Nat.toDigits 10 n ++ s = Nat.toDigits 10 (Nat.ofDigitChars 10 s n) := by
  induction s generalizing n with
  | nil => exact List.append_nil _
  | cons c s ih =>
    obtain ⟨hc, hs⟩ := List.forall_mem_cons.1 hdigits
    have hlast : Nat.toDigits 10 n ++ [c] = Nat.toDigits 10 (10 * n + digitValue c) := by
      rw [← Nat.toDigits_append_toDigits (by decide) hn (digitValue_lt hc), toDigits_digitValue hc]
    rw [Nat.ofDigitChars_cons, List.append_cons, hlast]
    exact ih (by omega) hs

/-- Digits that do not start with a zero are those of the number that they stand for. -/
theorem toDigits_naturalOf (hne : s ≠ []) (hdigits : ∀ c ∈ s, isAsciiDigit c = true)
    (hleading : s.head? = some '0' → s = ['0']) : Nat.toDigits 10 (naturalOf s) = s := by
  obtain ⟨c, s, rfl⟩ := List.exists_cons_of_ne_nil hne
  obtain ⟨hc, hs⟩ := List.forall_mem_cons.1 hdigits
  -- A first digit that is not zero starts the digits of a positive number, and the others follow.
  rcases Nat.eq_zero_or_pos (digitValue c) with hzero | hpos
  · have hchar : c = '0' := by
      rw [← digitChar_digitValue hc, hzero]
      rfl
    rw [hleading (congrArg some hchar)]
    rfl
  · have h := toDigits_append hpos hs
    rw [toDigits_digitValue hc] at h
    rw [naturalOf_cons]
    exact h.symm

/-- Any digits are zeros, and then the digits of the number that they stand for. -/
theorem exists_eq_zeros_append_toDigits (hne : s ≠ []) (hdigits : ∀ c ∈ s, isAsciiDigit c = true) :
    ∃ n, s = List.replicate n '0' ++ Nat.toDigits 10 (naturalOf s) := by
  induction s with
  | nil => exact absurd rfl hne
  | cons c s ih =>
    by_cases hzero : c = '0' ∧ s ≠ []
    · obtain ⟨rfl, hs⟩ := hzero
      obtain ⟨n, hn⟩ := ih hs fun d hd => hdigits d (List.mem_cons_of_mem _ hd)
      refine ⟨n + 1, ?_⟩
      have hskip : naturalOf ('0' :: s) = naturalOf s := naturalOf_zeros_append 1 s
      rw [hskip, List.replicate_succ, List.cons_append, ← hn]
    · refine ⟨0, (toDigits_naturalOf hne hdigits fun hhead => ?_).symm⟩
      have hc : c = '0' := Option.some.inj hhead
      have hs : s = [] := Classical.not_not.1 fun hs => hzero ⟨hc, hs⟩
      rw [hc, hs]

end Provisioning.Text
