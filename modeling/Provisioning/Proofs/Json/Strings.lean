import Mathlib.Data.Nat.Init
import Provisioning.Proofs.Json.Readers

/-!
# Written strings are read back

A character is written as it is or as an escape. Of either, the reader of a string takes exactly what
was written, and gives the character back.

## Main results

* `result_stringBody_escaped`: a written character is read back
* `result_name`, `result_string`: so is a whole string, as a name and as a value
-/

namespace Provisioning.Json

open Text

variable {s t r : List Char} {c : Char}

/-! ## Escapes -/

theorem result_stringBody_quote : Reader.result (stringBody true) ('"' :: t) = .ok ([], t) := by
  unfold Reader.result
  rw [stringBody]
  rfl

theorem result_stringBody_backslash (h : Reader.result (escapeSequence true) s = .ok (c, r)) :
    Reader.result (stringBody true) ('\\' :: s) =
      (Reader.result (stringBody true) r).map fun (cs, t) => (c :: cs, t) := by
  obtain ⟨hr, hescape⟩ := result_eq_ok.1 h
  unfold Reader.result
  rw [stringBody, hescape]
  dsimp only
  rcases stringBody true r with e | ⟨cs, final⟩ <;> rfl

theorem result_stringBody_of_ne (hquote : c ≠ '"') (hbackslash : c ≠ '\\') (hc : 32 ≤ c.toNat) :
    Reader.result (stringBody true) (c :: s) =
      (Reader.result (stringBody true) s).map fun (cs, t) => (c :: cs, t) := by
  unfold Reader.result
  rw [stringBody, if_neg (Nat.not_lt.2 hc)]
  · rcases stringBody true s with e | ⟨cs, final⟩ <;> rfl
  · exact hquote
  · exact hbackslash

/-- The two hexadecimal digits of a control character. -/
theorem hexValue?_hexDigit {n : Nat} (hn : n < 16) : hexValue? (hexDigit n) = some n := by
  revert n
  decide

/-- A control character is read from its code. -/
theorem result_escapeSequence_code (hc : c.toNat < 32) :
    Reader.result (escapeSequence true)
        ('u' :: '0' :: '0' :: hexDigit (c.toNat / 16) :: hexDigit (c.toNat % 16) :: t) =
      .ok (c, t) := by
  have hzero : hexValue? '0' = some 0 := rfl
  have hvalue : ((0 * 16 + 0) * 16 + c.toNat / 16) * 16 + c.toNat % 16 = c.toNat := by omega
  have hlow : isLowSurrogate c.toNat = false := by simp [isLowSurrogate]; omega
  have hhigh : isHighSurrogate c.toNat = false := by simp [isHighSurrogate]; omega
  have hquad : hexQuad ('0' :: '0' :: hexDigit (c.toNat / 16) :: hexDigit (c.toNat % 16) :: t) =
      .ok (c.toNat, (Rest.tail t).cons.cons.cons) := by
    rw [hexQuad, hzero, hexValue?_hexDigit (by omega), hexValue?_hexDigit (by omega)]
    dsimp only
    rw [hvalue]
  unfold Reader.result
  rw [escapeSequence]
  simp only [Char.reduceEq, if_false, if_true, unicodeEscape, hquad, hlow, hhigh, Bool.not_true,
    Bool.false_eq_true, Char.ofNat_toNat]
  rfl

/-- **A written character is read back.** -/
theorem result_stringBody_escaped (c : Char) (s : List Char) :
    Reader.result (stringBody true) (escaped c ++ s) =
      (Reader.result (stringBody true) s).map fun (cs, t) => (c :: cs, t) := by
  -- A character with a code of its own is that character.
  have hcode {n : Nat} (h : c.toNat = n) : c = Char.ofNat n := by rw [← h, Char.ofNat_toNat]
  unfold escaped
  split
  · next h =>
    rw [h]
    exact result_stringBody_backslash rfl
  split
  · next h =>
    rw [h]
    exact result_stringBody_backslash rfl
  iterate 5
    split
    · next h =>
      rw [hcode h]
      exact result_stringBody_backslash rfl
  split
  · next h => exact result_stringBody_backslash (result_escapeSequence_code h)
  · next hquote hbackslash _ _ _ _ _ hc =>
    exact result_stringBody_of_ne hquote hbackslash (Nat.le_of_not_lt hc)

/-! ## Strings -/

theorem result_quotedString (s : String) (t : List Char) :
    (quotedString true).result ((quoted s).toList ++ t) = .ok (s.toList, t) := by
  -- The induction is on the characters of the string, not on those that are written.
  have hbody (cs : List Char) :
      Reader.result (stringBody true) (cs.flatMap escaped ++ '"' :: t) = .ok (cs, t) := by
    induction cs with
    | nil => exact result_stringBody_quote
    | cons c cs ih =>
      rw [List.flatMap_cons, List.append_assoc, result_stringBody_escaped, ih]
      rfl
  have hcons : (quoted s).toList ++ t = '"' :: (s.toList.flatMap escaped ++ '"' :: t) := by
    simp [quoted]
  obtain ⟨hr, hread⟩ := result_eq_ok.1 (hbody s.toList)
  unfold Reader.result
  rw [hcons, quotedString, hread]
  rfl

/-- **A written string is read back as a name.** -/
theorem result_name (s : String) (t : List Char) :
    name.result ((quoted s).toList ++ t) = .ok (s, t) := by
  unfold name
  rw [result_map, result_quotedString]
  simp [Except.map]

theorem skipBlank_quoted (s : String) (t : List Char) :
    skipBlank ((quoted s).toList ++ t) = (quoted s).toList ++ t := by
  obtain ⟨r, hr⟩ := exists_quoted_eq_cons s
  rw [hr, List.cons_append, skipBlank_cons rfl]

/-- **A written string is read back as a value.** -/
theorem result_string (s : String) (t : List Char) :
    string.result ((compact (.string s)).toList ++ t) = .ok (s, t) := by
  have hhead : (skipBlank ((quoted s).toList ++ t)).head? = some '"' := by
    obtain ⟨r, hr⟩ := exists_quoted_eq_cons s
    rw [skipBlank_quoted, hr]
    rfl
  have hcompact : compact (.string s) = quoted s := by simp [compact, scalarText]
  unfold string
  rw [hcompact, result_startingWith hhead rfl, skipBlank_quoted, result_map, result_quotedString]
  simp [Except.map]

end Provisioning.Json
