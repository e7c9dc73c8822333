import Provisioning.Proofs.Text.Scanning
import Provisioning.Toml.Writing
import Mathlib.Tactic.SplitIfs

/-!
# Written keys are read back

A key is written bare, in single quotes, or in double quotes with escapes, as its characters demand.
Whatever they are, it is read back as it was.

## Main results

* `result_basicChar_escapedChar`: a character that is written with an escape if it needs one is read
  back
* `result_simpleKey_keyText`: a written key is read back
* `result_dottedKey_keyText`: and is a key of one part
-/

namespace Provisioning.Toml

open Text Text.Scanner

variable {c : Char} {s t : List Char}

/-! ## Escapes -/

/-- The hexadecimal digit of a number below 16, as it is written. -/
theorem toUpper_digitChar_spec :
    ∀ d < 16, isHexDigit (Nat.digitChar d).toUpper ∧ hexValue (Nat.digitChar d).toUpper = d := by
  decide

theorem fourHexDigits_eq {n : Nat} (hn : n < 0x100) : fourHexDigits n =
    ['0', '0', (Nat.digitChar (n / 16)).toUpper, (Nat.digitChar (n % 16)).toUpper] := by
  unfold fourHexDigits
  rcases Nat.lt_or_ge n 16 with h | h
  · rw [Nat.toDigits_of_lt_base h, Nat.div_eq_of_lt h, Nat.mod_eq_of_lt h]
    rfl
  · rw [Nat.toDigits_of_base_le (by omega) h, Nat.toDigits_of_lt_base (by omega)]
    rfl

/-- The four digits of a small code point stand for it. -/
theorem fourHexDigits_spec {n : Nat} (hn : n < 0x80) :
    (fourHexDigits n).length = 4 ∧ (∀ d ∈ fourHexDigits n, isHexDigit d = true) ∧
      charOfCode? ((fourHexDigits n).foldl (fun n d => 16 * n + hexValue d) 0) =
        some (Char.ofNat n) := by
  obtain ⟨hhigh, hhighValue⟩ := toUpper_digitChar_spec (n / 16) (by omega)
  obtain ⟨hlow, hlowValue⟩ := toUpper_digitChar_spec (n % 16) (by omega)
  have hzero : isHexDigit '0' ∧ hexValue '0' = 0 := by decide
  rw [fourHexDigits_eq (by omega)]
  refine ⟨rfl, by simp [hzero.1, hhigh, hlow], ?_⟩
  simp only [List.foldl_cons, List.foldl_nil, hzero.2, hhighValue, hlowValue]
  rw [show 16 * (16 * (16 * (16 * 0 + 0) + 0) + n / 16) + n % 16 = n by omega]
  exact if_pos (.inl (by omega))

theorem result_codePoint_fourHexDigits {n : Nat} (hn : n < 0x80) :
    (codePoint 3).result (fourHexDigits n ++ t) = some (Char.ofNat n, t) := by
  obtain ⟨hlength, hdigits, hchar⟩ := fourHexDigits_spec hn
  unfold codePoint
  rw [result_filterMap, result_times_char hlength hdigits, Option.bind_some]
  dsimp only
  rw [hchar]
  rfl

theorem result_basicChar_backslash :
    basicChar.result ('\\' :: s) = escapeSequence.result s := by
  unfold Scanner.result
  rw [basicChar]
  cases escapeSequence s <;> rfl

theorem result_basicChar_of_ne (hc : c ≠ '\\') :
    basicChar.result (c :: s) = if isPrintable c && c != '"' then some (c, s) else none := by
  rw [← result_char_cons (fun c => isPrintable c && c != '"')]
  unfold Scanner.result
  rw [basicChar]
  intro rest hrest
  exact hc (List.cons.inj hrest).1

theorem result_escapeSequence_u :
    escapeSequence.result ('u' :: s) = (codePoint 3).result s := by
  unfold Scanner.result
  change ((codePoint 3 s).map fun p => (p.1, p.2.cons)).map _ = _
  cases codePoint 3 s <;> rfl

/-- The characters that no quoted text shows as they are have small codes. -/
theorem needsCode_toNat_lt (h : needsCode c = true) : c.toNat < 0x80 := by
  unfold needsCode at h
  simp only [Bool.or_eq_true, Bool.and_eq_true, decide_eq_true_eq, beq_iff_eq] at h
  omega

theorem isPrintable_of_needsCode (h : needsCode c = false) : isPrintable c = true := by
  unfold needsCode at h
  unfold isPrintable
  simp only [Bool.or_eq_false_iff, Bool.and_eq_false_iff, decide_eq_false_iff_not, beq_eq_false_iff_ne,
    bne_eq_false_iff_eq, Bool.or_eq_true, Bool.and_eq_true, decide_eq_true_eq, beq_iff_eq,
    bne_iff_ne] at *
  rcases h with ⟨h | h, hne⟩
  · exact .inr ⟨by omega, hne⟩
  · exact .inl h

/-- A character that is written with an escape if it needs one is read back. -/
theorem result_basicChar_escapedChar (c : Char) (t : List Char) :
    basicChar.result (escapedChar c ++ t) = some (c, t) := by
  unfold escapedChar
  split_ifs with hb ht hn hf hr hquote hslash hcode
  -- The escapes of one letter are read by computation.
  · rw [hb]; rfl
  · rw [ht]; rfl
  · rw [hn]; rfl
  · rw [hf]; rfl
  · rw [hr]; rfl
  · rw [hquote]; rfl
  · rw [hslash]; rfl
  · rw [List.cons_append, List.cons_append, result_basicChar_backslash, result_escapeSequence_u,
      result_codePoint_fourHexDigits (needsCode_toNat_lt hcode), Char.ofNat_toNat]
  · have hprintable := isPrintable_of_needsCode (Bool.eq_false_iff.2 hcode)
    rw [List.singleton_append, result_basicChar_of_ne hslash, hprintable, Bool.true_and,
      if_pos (bne_iff_ne.2 hquote)]

/-! ## Quoted texts -/

/-- Characters between quotes are read if each is read where it is written, and the closing quote is
none of them. -/
theorem result_between (quote : Char) {content : Scanner Char} {write : Char → List Char}
    {cs : List Char}
    (hcontent : ∀ c ∈ cs, ∀ t, content.result (write c ++ t) = some (c, t))
    (hclose : ∀ t, content.result (quote :: t) = none) :
    (between quote content).result (quote :: (cs.flatMap write ++ quote :: t)) =
      some (String.ofList cs, t) := by
  have hmany := repeated_flatMap write id hcontent (hclose t)
  unfold between
  simp only [result_map, result_before, result_thenMany, result_exact_self, Option.map_some,
    Option.bind_some, hmany, List.map_id]

theorem result_between_of_head?_ne {quote : Char} {content : Scanner Char}
    (h : s.head? ≠ some quote) : (between quote content).result s = none := by
  unfold between
  simp only [result_map, result_before, result_thenMany, result_exact_of_head?_ne h,
    Option.map_none, Option.bind_none]

theorem result_basicString (cs : List Char) :
    basicString.result ('"' :: (cs.flatMap escapedChar ++ '"' :: t)) =
      some (String.ofList cs, t) :=
  result_between '"' (fun c _ t => result_basicChar_escapedChar c t) fun _ => rfl

theorem result_literalString {cs : List Char} (hcode : ∀ c ∈ cs, needsCode c = false)
    (hquote : '\'' ∉ cs) :
    literalString.result ('\'' :: (cs ++ '\'' :: t)) = some (String.ofList cs, t) := by
  have hcontent : ∀ c ∈ cs, ∀ t, (char fun c => isPrintable c && c != '\'').result ([c] ++ t) =
      some (c, t) := by
    intro c hc t
    have hne : c ≠ '\'' := fun heq => hquote (heq ▸ hc)
    rw [List.singleton_append, result_char_cons, isPrintable_of_needsCode (hcode c hc),
      Bool.true_and, if_pos (bne_iff_ne.2 hne)]
  have h := result_between '\'' (t := t) hcontent fun _ => rfl
  rwa [List.flatMap_singleton'] at h

/-! ## Keys -/

/-- How a key is written: bare, escaped, or in single quotes. -/
theorem keyText_cases (key : String) :
    (key.toList ≠ [] ∧ (∀ c ∈ key.toList, isBareKeyChar c = true) ∧ (keyText key).toList = key.toList) ∨
    (keyText key).toList = '"' :: (key.toList.flatMap escapedChar ++ ['"']) ∨
    ((∀ c ∈ key.toList, needsCode c = false) ∧ '\'' ∉ key.toList ∧
      (keyText key).toList = '\'' :: (key.toList ++ ['\''])) := by
  have hbasic : (basicText key.toList).toList = '"' :: (key.toList.flatMap escapedChar ++ ['"']) := by
    simp [basicText]
  unfold keyText
  dsimp only
  split_ifs with hbare hcode hplain hliteral
  · simp only [Bool.and_eq_true, Bool.not_eq_true', List.isEmpty_eq_false_iff, List.all_eq_true] at hbare
    exact .inl ⟨hbare.1, hbare.2, rfl⟩
  · exact .inr (.inl hbasic)
  · exact .inr (.inl hbasic)
  · refine .inr (.inr ⟨?_, ?_, by simp⟩)
    · simpa using hcode
    · simpa using hliteral
  · exact .inr (.inl hbasic)

/-- A part of a key: a text in quotes, or the characters that need none. -/
def keyPart : Scanner String :=
  (basicString.orElse literalString).orElse ((run isBareKeyChar).map String.ofList)

theorem result_simpleKey :
    simpleKey.result s =
      (keyPart.result (s.dropWhile isSpace)).map fun p => (p.1, p.2.dropWhile isSpace) := by
  have hskip : (skipping skipSpace keyPart).result s = keyPart.result (s.dropWhile isSpace) :=
    result_skipping skipSpace
  rw [← hskip]
  unfold keyPart simpleKey Scanner.result
  generalize (basicString.orElse literalString).orElse ((run isBareKeyChar).map String.ofList) = part
  dsimp only
  rcases skipping skipSpace part s with - | ⟨key, r, hr⟩ <;> rfl

/-- The characters that a written key may start with. -/
def StartsKey (c : Char) : Prop := isBareKeyChar c = true ∨ c = '"' ∨ c = '\''

theorem exists_keyText_eq_cons (key : String) :
    ∃ c rest, (keyText key).toList = c :: rest ∧ StartsKey c := by
  rcases keyText_cases key with ⟨hne, hbare, heq⟩ | heq | ⟨-, -, heq⟩
  · obtain ⟨c, rest, hcons⟩ := List.exists_cons_of_ne_nil hne
    exact ⟨c, rest, heq.trans hcons, .inl (hbare c (hcons ▸ List.mem_cons_self))⟩
  · exact ⟨_, _, heq, .inr (.inl rfl)⟩
  · exact ⟨_, _, heq, .inr (.inr rfl)⟩

theorem StartsKey.ne {d : Char} (hc : StartsKey c) (hd : isBareKeyChar d = false) (hq : d ≠ '"')
    (hl : d ≠ '\'') : c ≠ d := by
  rintro rfl
  rcases hc with h | h | h
  · exact Bool.false_ne_true (hd.symm.trans h)
  · exact hq h
  · exact hl h

theorem StartsKey.not_isSpace (hc : StartsKey c) : isSpace c = false := by
  have hspace : c ≠ ' ' := hc.ne rfl (by decide) (by decide)
  have htab : c ≠ '\t' := hc.ne rfl (by decide) (by decide)
  unfold isSpace
  simp [hspace, htab]

theorem result_keyPart_keyText (key : String) (ht : ∀ c ∈ t.head?, isBareKeyChar c = false) :
    keyPart.result ((keyText key).toList ++ t) = some (key, t) := by
  unfold keyPart
  rw [result_orElse, result_orElse]
  rcases keyText_cases key with ⟨hne, hbare, heq⟩ | heq | ⟨hcode, hquote, heq⟩
  · -- A bare key starts with none of the quotes, so the quoted texts are not read.
    have hstart {q : Char} (hq : isBareKeyChar q = false) : (key.toList ++ t).head? ≠ some q := by
      obtain ⟨c, rest, hcons⟩ := List.exists_cons_of_ne_nil hne
      have hc := hbare c (hcons ▸ List.mem_cons_self)
      rw [hcons, List.cons_append, List.head?_cons]
      intro hcq
      obtain rfl := Option.some.inj hcq
      exact Bool.false_ne_true (hq.symm.trans hc)
    have hbasic : basicString.result (key.toList ++ t) = none :=
      result_between_of_head?_ne (hstart rfl)
    have hliteral : literalString.result (key.toList ++ t) = none :=
      result_between_of_head?_ne (hstart rfl)
    rw [heq, hbasic, hliteral, result_map, result_run_append hne hbare ht]
    simp
  · rw [heq, List.cons_append, List.append_assoc, List.singleton_append, result_basicString]
    simp
  · have hbasic : basicString.result ('\'' :: (key.toList ++ '\'' :: t)) = none :=
      result_between_of_head?_ne (by simp)
    rw [heq, List.cons_append, List.append_assoc, List.singleton_append, hbasic,
      result_literalString hcode hquote]
    simp

/-- A written key is read back, with the blanks after it. -/
theorem result_simpleKey_keyText (key : String) (ht : ∀ c ∈ t.head?, isBareKeyChar c = false) :
    simpleKey.result ((keyText key).toList ++ t) = some (key, t.dropWhile isSpace) := by
  have hstart : ((keyText key).toList ++ t).dropWhile isSpace = (keyText key).toList ++ t := by
    obtain ⟨c, rest, heq, hc⟩ := exists_keyText_eq_cons key
    refine dropWhile_of_head? fun d hd => ?_
    rw [heq, List.cons_append, List.head?_cons] at hd
    obtain rfl := Option.some.inj hd
    exact hc.not_isSpace
  rw [result_simpleKey, hstart, result_keyPart_keyText key ht]
  rfl

/-- **A written key is read back**, as a key of one part if no dot follows it. -/
theorem result_dottedKey_keyText (key : String) (ht : ∀ c ∈ t.head?, isBareKeyChar c = false)
    (hdot : (t.dropWhile isSpace).head? ≠ some '.') :
    dottedKey.result ((keyText key).toList ++ t) = some ([key], t.dropWhile isSpace) := by
  have hnone : ((exact '.').andThen fun _ => simpleKey).result (t.dropWhile isSpace) = none := by
    rw [result_andThen, result_exact_of_head?_ne hdot, Option.bind_none]
  unfold dottedKey
  rw [result_filterMap, result_thenMany, result_simpleKey_keyText key ht]
  simp only [Option.map_some, Option.bind_some, repeated_of_none hnone]
  rfl

end Provisioning.Toml
