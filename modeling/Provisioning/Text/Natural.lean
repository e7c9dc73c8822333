import Provisioning.Text.DecimalDigit

/-!
# Natural numbers in text

The reading of an unsigned number of limited size: an optional plus sign and ASCII digits.

## Main definitions

* `readNatural?`: the number, if it is written so and does not exceed the limit
* `repeated`: a character a number of times

## Main results

* `readNatural?_eq_some_iff`: the texts of a number
* `readNatural?_toString`: its digits are one of them
-/

namespace Provisioning.Text

/-- The digits of an unsigned number: an optional plus sign before them is dropped. -/
def unsignedDigits : List Char → List Char
  | '+' :: digits => digits
  | digits => digits

/-- The number written by an optional plus sign and at least one ASCII digit, if it is at most
`limit`. -/
def readNatural? (limit : Nat) (s : String) : Option Nat :=
  let digits := unsignedDigits s.toList
  if digits.isEmpty || !digits.all isAsciiDigit then none
  else
    let n := naturalOf digits
    if n ≤ limit then some n else none

theorem unsignedDigits_of_digits {s : List Char} (h : ∀ c ∈ s, isAsciiDigit c = true) :
    unsignedDigits s = s := by
  unfold unsignedDigits
  split
  · exact absurd (h '+' List.mem_cons_self) (by decide)
  · rfl

theorem readNatural?_eq_some_iff {limit n : Nat} {s : String} :
    readNatural? limit s = some n ↔ unsignedDigits s.toList ≠ [] ∧
      (∀ c ∈ unsignedDigits s.toList, isAsciiDigit c = true) ∧
      naturalOf (unsignedDigits s.toList) = n ∧ n ≤ limit := by
  unfold readNatural?
  generalize unsignedDigits s.toList = digits
  simp only [Bool.or_eq_true, List.isEmpty_iff, Bool.not_eq_true', ← Bool.not_eq_true,
    List.all_eq_true]
  constructor
  · intro h
    split at h
    · cases h
    next hform =>
      obtain ⟨hne, hdigits⟩ := not_or.1 hform
      split at h
      · next hle =>
        obtain rfl := Option.some.inj h
        exact ⟨hne, Classical.not_not.1 hdigits, rfl, hle⟩
      · cases h
  · rintro ⟨hne, hdigits, rfl, hle⟩
    rw [if_neg (not_or.2 ⟨hne, not_not_intro hdigits⟩), if_pos hle]

/-- The digits of a number are read as it. -/
theorem readNatural?_toString {limit n : Nat} (h : n ≤ limit) :
    readNatural? limit (toString n) = some n := by
  have hdigits : ∀ c ∈ Nat.toDigits 10 n, isAsciiDigit c = true :=
    fun _ hc => isAsciiDigit_of_mem_toDigits hc
  rw [readNatural?_eq_some_iff, Nat.toString_eq_ofList_toDigits, String.toList_ofList,
    unsignedDigits_of_digits hdigits]
  exact ⟨Nat.toDigits_ne_nil, hdigits, naturalOf_toDigits n, h⟩

/-- A character, `n` times. -/
def repeated (n : Nat) (c : Char) : String :=
  String.ofList (List.replicate n c)

end Provisioning.Text
