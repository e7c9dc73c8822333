import Provisioning.Proofs.Decimal.Positional
import Provisioning.Proofs.Text.Scanning
import Provisioning.Toml.Reading
import Provisioning.Toml.Writing

/-!
# Written numbers are read back

## Main results

* `result_valueWithin_numberText`: a written number is read back bit by bit, a NaN as the canonical one
* `result_valueWithin_natural`: a natural number that fits is read back
-/

namespace Provisioning

/-- A number with all NaNs taken for one. -/
def Binary64.canonical (x : Binary64) : Binary64 := if x.isNaN then nan else x

theorem Binary64.canonical_eq {x : Binary64} (h : x.isNaN = false) : x.canonical = x :=
  if_neg (Bool.eq_false_iff.1 h)

theorem Binary64.canonical_canonical (x : Binary64) : x.canonical.canonical = x.canonical := by
  unfold canonical
  cases h : x.isNaN with
  | true => rfl
  | false => simp [h]

namespace Toml

open Text Text.Scanner

variable {s t whole fraction : List Char} {depth : Nat}

/-! ## Dates and times -/

/-- A number of digits that a separator must follow is not read where another character does. -/
theorem result_fixedNumber_before_eq_none {sep : Char} (hsep : isAsciiDigit sep = false)
    (h : s.takeWhile isAsciiDigit ≠ [] → (s.dropWhile isAsciiDigit).head? ≠ some sep)
    (more low high : Nat) : ((fixedNumber more low high).before (exact sep)).result s = none := by
  -- However many digits are read, the text after them starts with another digit or ends them all.
  rw [result_before]
  cases hnumber : (fixedNumber more low high).result s with
  | none => rfl
  | some x =>
    obtain ⟨n, r⟩ := x
    unfold fixedNumber at hnumber
    rw [result_filterMap] at hnumber
    obtain ⟨⟨ds, r'⟩, hdigits, hmap⟩ := Option.bind_eq_some_iff.1 hnumber
    obtain ⟨_, -, heq⟩ := Option.map_eq_some_iff.1 hmap
    obtain rfl : r' = r := (Prod.mk.inj heq).2
    obtain ⟨rfl, hne, hall⟩ := of_result_times_char hdigits
    have hr : r'.head? ≠ some sep := by
      intro hr
      obtain ⟨r'', rfl⟩ : ∃ r'', r' = sep :: r'' := by
        cases r' with
        | nil => cases hr
        | cons c r'' => exact ⟨r'', by rw [Option.some.inj hr]⟩
      rw [List.takeWhile_append_of_pos hall, List.dropWhile_append_of_pos hall,
        List.dropWhile_cons, hsep] at h
      exact h (List.append_ne_nil_of_left_ne_nil hne _) rfl
    simp only [Option.bind_some, result_exact_of_head?_ne hr, Option.map_none]

/-- No date and no time stands where digits end at another character than their separators. -/
theorem result_momentLiteral_eq_none
    (h : s.takeWhile isAsciiDigit ≠ [] →
      (s.dropWhile isAsciiDigit).head? ≠ some '-' ∧ (s.dropWhile isAsciiDigit).head? ≠ some ':') :
    momentLiteral.result s = none := by
  have hdate : date.result s = none := by
    unfold date
    rw [result_filterMap, result_andThen,
      result_fixedNumber_before_eq_none rfl fun hne => (h hne).1]
    rfl
  have htime : timeOfDay.result s = none := by
    unfold timeOfDay
    rw [result_map, result_andOptionally, result_andThen,
      result_fixedNumber_before_eq_none rfl fun hne => (h hne).2]
    rfl
  unfold momentLiteral
  rw [result_orElse, result_map, result_map, result_andOptionally, hdate, htime]
  rfl

/-! ## Digits -/

/-- A text does not go on with the digits before it, nor makes a date, a time or a number in another
base of them. -/
def EndsDecimal (t : List Char) : Prop :=
  ∀ c ∈ t.head?, isAsciiDigit c = false ∧ c ∉ ['_', '-', ':', 'x', 'o', 'b']

theorem endsDecimal_newline (t : List Char) : EndsDecimal ('\n' :: t) := by
  intro c hc
  obtain rfl := Option.some.inj hc
  decide

theorem endsDecimal_point (t : List Char) : EndsDecimal ('.' :: t) := by
  intro c hc
  obtain rfl := Option.some.inj hc
  decide

theorem EndsDecimal.head?_ne (ht : EndsDecimal t) {c : Char}
    (hc : c ∈ ['_', '-', ':', 'x', 'o', 'b']) : t.head? ≠ some c :=
  fun heq => (ht c (Option.mem_def.2 heq)).2 hc

theorem EndsDecimal.dropWhile (ht : EndsDecimal t) : t.dropWhile isAsciiDigit = t :=
  dropWhile_of_head? fun c hc => (ht c hc).1

/-- Digits are read up to their end. -/
theorem result_digitGroups (hne : whole ≠ []) (hall : ∀ c ∈ whole, isAsciiDigit c = true)
    (ht : EndsDecimal t) : (digitGroups isAsciiDigit).result (whole ++ t) = some (whole, t) := by
  obtain ⟨c, cs, rfl⟩ := List.exists_cons_of_ne_nil hne
  have hdigit : (char isAsciiDigit).result t = none := by
    cases t with
    | nil => rfl
    | cons d t => rw [result_char_cons, (ht d rfl).1]; rfl
  have hunderscore : (exact '_').result t = none :=
    result_exact_of_head?_ne (ht.head?_ne (by simp))
  have hmore : ∀ d ∈ cs, ∀ t, ((char isAsciiDigit).orElse ((exact '_').andThen fun _ =>
      char isAsciiDigit)).result ([d] ++ t) = some (id d, t) := by
    intro d hd t
    rw [result_orElse, List.singleton_append, result_char_cons, hall d (List.mem_cons_of_mem c hd)]
    rfl
  have hend : ((char isAsciiDigit).orElse ((exact '_').andThen fun _ =>
      char isAsciiDigit)).result t = none := by
    rw [result_orElse, result_andThen, hdigit, hunderscore]
    rfl
  have hmany := repeated_flatMap (fun d => [d]) id hmore hend
  rw [List.flatMap_singleton', List.map_id] at hmany
  unfold digitGroups
  simp only [result_map, result_thenMany, List.cons_append, result_char_cons,
    hall c List.mem_cons_self, if_true, Option.map_some, hmany]

/-- The digits of a decimal integer: at least one, and no zero before others. -/
structure IsDecimal (whole : List Char) : Prop where
  ne_nil : whole ≠ []
  digits : ∀ c ∈ whole, isAsciiDigit c = true
  leading : whole = ['0'] ∨ whole.head? ≠ some '0'

theorem IsDecimal.result_decimalDigits (h : IsDecimal whole) (ht : EndsDecimal t) :
    decimalDigits.result (whole ++ t) = some (whole, t) := by
  rcases h.leading with rfl | hzero
  · rfl
  rw [← result_digitGroups h.ne_nil h.digits ht]
  obtain ⟨c, cs, rfl⟩ := List.exists_cons_of_ne_nil h.ne_nil
  unfold Scanner.result
  rw [List.cons_append, decimalDigits]
  intro rest hrest
  exact hzero (congrArg some (List.cons.inj hrest).1)

theorem isDecimal_toDigits (n : Nat) : IsDecimal (Nat.toDigits 10 n) where
  ne_nil := Nat.toDigits_ne_nil
  digits _ h := isAsciiDigit_of_mem_toDigits h
  leading := by
    by_cases hn : n = 0
    · exact .inl (by rw [hn, Nat.toDigits_zero])
    · exact .inr (head?_toDigits_ne_zero (Nat.pos_of_ne_zero hn))

/-- A number in another base starts with a zero and a mark. -/
theorem IsDecimal.result_basedInteger (h : IsDecimal whole) (ht : EndsDecimal t) {mark : Char}
    (hmark : mark ∈ ['x', 'o', 'b']) (base : Nat) (p : Char → Bool) :
    (basedInteger mark base p).result (whole ++ t) = none := by
  have hletters : (letters '0' [mark]).result (whole ++ t) = none := by
    rcases h.leading with rfl | hzero
    · rw [letters, result_andThen, List.singleton_append, result_exact_self, Option.bind_some]
      exact result_exact_of_head?_ne (ht.head?_ne (by simp_all))
    · refine result_letters_of_head?_ne _ ?_
      rwa [List.head?_append_of_ne_nil _ h.ne_nil]
  unfold basedInteger
  rw [result_filterMap, result_andThen, hletters]
  rfl

/-! ## Signs -/

/-- The sign of a number as it is written. -/
def signText (negative : Bool) : List Char := if negative then ['-'] else []

theorem result_signed {α : Type} (p : Bool → Scanner α) :
    (signed p).result s = (p (skipSign s).1).result (skipSign s).2.1 := by
  unfold Scanner.result signed
  rcases p (skipSign s).1 (skipSign s).2.1 with - | ⟨a, r⟩ <;> rfl

theorem result_signed_signText {α : Type} (p : Bool → Scanner α) (negative : Bool)
    (hminus : s.head? ≠ some '-') (hplus : s.head? ≠ some '+') :
    (signed p).result (signText negative ++ s) = (p negative).result s := by
  cases negative with
  | true => exact result_signed p
  | false =>
    rw [result_signed]
    have hskip : skipSign s = (false, Tail.whole s) := by
      unfold skipSign
      split
      · exact absurd rfl hminus
      · exact absurd rfl hplus
      · rfl
    change (p (skipSign s).1).result (skipSign s).2.1 = _
    rw [hskip]
    rfl

/-! ## Numbers with a fraction -/

theorem result_exponentValue_newline : exponentValue.result ('\n' :: t) = none := rfl

/-- Digits, a point and digits are read as the number that they stand for. -/
theorem IsDecimal.result_floatDigits (h : IsDecimal whole) (hne : fraction ≠ [])
    (hdigits : ∀ c ∈ fraction, isAsciiDigit c = true) {negative : Bool}
    (hfinite : (Numeral.value negative ⟨whole, fraction, 0⟩).isInfinite = false) :
    (floatDigits negative).result (whole ++ '.' :: (fraction ++ '\n' :: t)) =
      some (.float (Numeral.value negative ⟨whole, fraction, 0⟩), '\n' :: t) := by
  have hfraction : fractionDigits.result ('.' :: (fraction ++ '\n' :: t)) =
      some (fraction, '\n' :: t) := by
    unfold fractionDigits
    rw [result_andThen, result_exact_self, Option.bind_some]
    exact result_digitGroups hne hdigits (endsDecimal_newline t)
  unfold floatDigits
  simp only [result_andThen, h.result_decimalDigits (endsDecimal_point _), Option.bind_some,
    result_orElse, result_filterMap, result_andOptionally, hfraction, Option.map_some,
    result_exponentValue_newline, Option.getD_none, hfinite, Bool.false_and, Bool.false_eq_true,
    if_false, Option.some_or]

/-- Digits alone are no number with a fraction. -/
theorem IsDecimal.result_floatDigits_newline (h : IsDecimal whole) (negative : Bool) :
    (floatDigits negative).result (whole ++ '\n' :: t) = none := by
  have hfraction : fractionDigits.result ('\n' :: t) = none := rfl
  unfold floatDigits
  simp only [result_andThen, h.result_decimalDigits (endsDecimal_newline t), Option.bind_some,
    result_orElse, result_filterMap, result_andOptionally, hfraction, Option.map_none,
    result_exponentValue_newline, Option.bind_none, Option.none_or]

/-! ## Values -/

/-- The characters that a written number may start with. -/
def StartsNumber (c : Char) : Prop := isAsciiDigit c = true ∨ c ∈ ['-', 'i', 'n']

theorem startsNumber_minus : StartsNumber '-' := .inr (by simp)

theorem StartsNumber.ne {c d : Char} (hc : StartsNumber c) (hd : isAsciiDigit d = false)
    (hmem : d ∉ ['-', 'i', 'n']) : c ≠ d := by
  rintro rfl
  rcases hc with h | h
  · exact Bool.false_ne_true (hd.symm.trans h)
  · exact hmem h

/-- A value that starts like a number is a date, a time or a number. -/
theorem result_valueWithin {c : Char} (hc : StartsNumber c) :
    (valueWithin (depth + 1)).result (c :: s) =
      (momentLiteral.result (c :: s)).or (numberLiteral.result (c :: s)) := by
  have hquote : c ≠ '"' := hc.ne rfl (by decide)
  have hquote' : c ≠ '\'' := hc.ne rfl (by decide)
  have hbracket : c ≠ '[' := hc.ne rfl (by decide)
  have hbrace : c ≠ '\x7b' := hc.ne rfl (by decide)
  have ht : c ≠ 't' := hc.ne rfl (by decide)
  have hf : c ≠ 'f' := hc.ne rfl (by decide)
  rw [← result_orElse]
  unfold Scanner.result
  rw [valueWithin]
  simp only [List.head?_cons, hquote, hquote', hbracket, hbrace, ht, hf, or_self, if_false]

theorem result_numberLiteral
    (h : ∀ mark ∈ ['x', 'o', 'b'], ∀ base p, (basedInteger mark base p).result s = none) :
    numberLiteral.result s =
      ((signed floatDigits).result s).or
        (((signed specialFloat).result s).or ((signed decimalInteger).result s)) := by
  unfold numberLiteral
  simp only [result_orElse, h 'x' (by simp), h 'o' (by simp), h 'b' (by simp), Option.none_or]

/-- After a sign no number in another base stands. -/
theorem result_basedInteger_signText {negative : Bool} {mark : Char} {base : Nat} {p : Char → Bool}
    (h : (basedInteger mark base p).result s = none) :
    (basedInteger mark base p).result (signText negative ++ s) = none := by
  cases negative with
  | false => exact h
  | true =>
    have hletters : (letters '0' [mark]).result (signText true ++ s) = none :=
      result_letters_of_head?_ne _ (by simp [signText])
    unfold basedInteger
    rw [result_filterMap, result_andThen, hletters]
    rfl

/-- A date or time does not stand where digits end at another character, nor after a sign. -/
theorem IsDecimal.result_momentLiteral (h : IsDecimal whole) (ht : EndsDecimal t) (negative : Bool) :
    momentLiteral.result (signText negative ++ (whole ++ t)) = none := by
  refine result_momentLiteral_eq_none fun hne => ?_
  cases negative with
  | true => exact absurd rfl hne
  | false =>
    change ((whole ++ t).dropWhile isAsciiDigit).head? ≠ _ ∧
      ((whole ++ t).dropWhile isAsciiDigit).head? ≠ _
    rw [List.dropWhile_append_of_pos h.digits, ht.dropWhile]
    exact ⟨ht.head?_ne (by simp), ht.head?_ne (by simp)⟩

theorem IsDecimal.exists_eq_cons (h : IsDecimal whole) (negative : Bool) (t : List Char) :
    ∃ c rest, signText negative ++ (whole ++ t) = c :: rest ∧ StartsNumber c := by
  cases negative with
  | true => exact ⟨_, _, rfl, startsNumber_minus⟩
  | false =>
    obtain ⟨c, cs, rfl⟩ := List.exists_cons_of_ne_nil h.ne_nil
    exact ⟨c, cs ++ t, rfl, .inl (h.digits c List.mem_cons_self)⟩

theorem IsDecimal.head?_append_ne (h : IsDecimal whole) {d : Char} (hd : isAsciiDigit d = false) :
    (whole ++ t).head? ≠ some d := by
  obtain ⟨c, cs, rfl⟩ := List.exists_cons_of_ne_nil h.ne_nil
  intro heq
  obtain rfl := Option.some.inj heq
  exact Bool.false_ne_true (hd.symm.trans (h.digits c List.mem_cons_self))

/-- A value that starts with a sign and is no date, no time and in no other base is a number with a
fraction, an infinity or an integer. -/
theorem result_valueWithin_signText {c : Char} {r : List Char} (hs : s = c :: r)
    (hc : StartsNumber c) (hminus : c ≠ '-') (depth : Nat) {negative : Bool}
    (hmoment : momentLiteral.result (signText negative ++ s) = none)
    (hbased : ∀ mark ∈ ['x', 'o', 'b'], ∀ base p, (basedInteger mark base p).result s = none) :
    (valueWithin (depth + 1)).result (signText negative ++ s) =
      ((floatDigits negative).result s).or
        (((specialFloat negative).result s).or ((decimalInteger negative).result s)) := by
  have hplus : c ≠ '+' := hc.ne rfl (by decide)
  have hsigned {p : Bool → Scanner Value} :
      (signed p).result (signText negative ++ s) = (p negative).result s :=
    result_signed_signText p negative (by simpa [hs] using hminus) (by simpa [hs] using hplus)
  obtain ⟨d, rest, hcons, hd⟩ : ∃ d rest, signText negative ++ s = d :: rest ∧ StartsNumber d := by
    cases negative with
    | true => exact ⟨_, _, rfl, startsNumber_minus⟩
    | false => exact ⟨_, _, hs, hc⟩
  rw [hcons, result_valueWithin hd, ← hcons, hmoment, result_numberLiteral fun mark hmark base p =>
    result_basedInteger_signText (hbased mark hmark base p), hsigned, hsigned, hsigned, Option.none_or]

/-- A value that starts with a sign and digits is a number with a fraction, or an integer. -/
theorem IsDecimal.result_valueWithin (h : IsDecimal whole) (ht : EndsDecimal t) (depth : Nat)
    (negative : Bool) :
    (valueWithin (depth + 1)).result (signText negative ++ (whole ++ t)) =
      ((floatDigits negative).result (whole ++ t)).or
        ((decimalInteger negative).result (whole ++ t)) := by
  have hspecial : (specialFloat negative).result (whole ++ t) = none := by
    unfold specialFloat
    rw [result_orElse, result_map, result_map, result_letters_of_head?_ne _ (h.head?_append_ne rfl),
      result_letters_of_head?_ne _ (h.head?_append_ne rfl)]
    rfl
  have hminus : (whole ++ t).head? ≠ some '-' := h.head?_append_ne rfl
  obtain ⟨c, rest, hcons, hc⟩ : ∃ c rest, whole ++ t = c :: rest ∧ StartsNumber c :=
    h.exists_eq_cons false t
  rw [result_valueWithin_signText hcons hc (by simpa [hcons] using hminus) depth
    (h.result_momentLiteral ht negative) fun mark hmark => h.result_basedInteger ht hmark, hspecial,
    Option.none_or]

/-- A sign, digits, a point and digits are read as the number that they stand for. -/
theorem IsDecimal.result_valueWithin_point (h : IsDecimal whole) (hne : fraction ≠ [])
    (hdigits : ∀ c ∈ fraction, isAsciiDigit c = true) {negative : Bool}
    (hfinite : (Numeral.value negative ⟨whole, fraction, 0⟩).isInfinite = false) :
    (valueWithin (depth + 1)).result
        (signText negative ++ (whole ++ '.' :: (fraction ++ '\n' :: t))) =
      some (.float (Numeral.value negative ⟨whole, fraction, 0⟩), '\n' :: t) := by
  rw [h.result_valueWithin (endsDecimal_point _) depth, h.result_floatDigits hne hdigits hfinite,
    Option.some_or]

/-- **A natural number that fits a document is read back.** -/
theorem result_valueWithin_natural {n : Nat} (hn : n < integerLimit) :
    (valueWithin (depth + 1)).result ((toString n).toList ++ '\n' :: t) =
      some (.integer n, '\n' :: t) := by
  have h := isDecimal_toDigits n
  have hvalue := h.result_valueWithin (endsDecimal_newline t) depth false
  have hinteger : (decimalInteger false).result (Nat.toDigits 10 n ++ '\n' :: t) =
      some (.integer n, '\n' :: t) := by
    unfold decimalInteger integerOf?
    simp only [result_filterMap, h.result_decimalDigits (endsDecimal_newline t), Option.bind_some,
      naturalOf_toDigits, Bool.false_eq_true, if_false, if_pos hn, Option.map_some]
  rw [h.result_floatDigits_newline, Option.none_or, hinteger] at hvalue
  rw [Nat.toString_eq_ofList_toDigits, String.toList_ofList]
  exact hvalue

/-! ## Numbers with a fraction, infinities and NaNs -/

variable {x : Binary64}

theorem toList_numberText (x : Binary64) :
    (numberText x).toList =
      if x.isNaN then ['n', 'a', 'n']
      else signText x.isNegative ++
        if x.isFinite then (NumberStyle.toml.magnitudeText x).toList else ['i', 'n', 'f'] := by
  unfold numberText NumberStyle.render signText
  cases x.isNaN <;> cases x.isNegative <;> cases x.isFinite <;> simp [NumberStyle.toml]

/-- All NaNs are written alike. -/
theorem numberText_canonical (x : Binary64) : numberText x.canonical = numberText x := by
  cases h : x.isNaN with
  | true =>
    have hx : (numberText x).toList = ['n', 'a', 'n'] := by rw [toList_numberText, if_pos h]
    rw [Binary64.canonical, if_pos h, ← String.toList_inj, hx]
    rfl
  | false => rw [Binary64.canonical_eq h]

/-- A finite number is written with digits around a point, which are read as it. -/
theorem exists_magnitudeText (hfinite : x.isFinite = true) :
    ∃ whole fraction, (NumberStyle.toml.magnitudeText x).toList = whole ++ '.' :: fraction ∧
      IsDecimal whole ∧ fraction ≠ [] ∧ (∀ c ∈ fraction, isAsciiDigit c = true) ∧
      Numeral.value x.isNegative ⟨whole, fraction, 0⟩ = x := by
  obtain ⟨whole, fraction, htext, hne, hzero, hdigit, hmarks, hvalue⟩ :=
    NumberStyle.exists_magnitudeText .toml rfl hfinite
  have hfraction : fraction ≠ [] := hmarks rfl
  unfold Numeral.pointText at htext
  rw [if_neg hfraction] at htext
  exact ⟨whole, fraction, htext, ⟨hne, fun c hc => hdigit c (List.mem_append_left _ hc), hzero⟩,
    hfraction, fun c hc => hdigit c (List.mem_append_right _ hc), hvalue⟩

/-- A word that stands for an infinity or a NaN is read as it. -/
theorem result_valueWithin_word {first : Char} {word : List Char} (hfirst : first = 'i' ∨ first = 'n')
    {negative : Bool} (hspecial : (specialFloat negative).result (first :: (word ++ '\n' :: t)) =
      some (.float x, '\n' :: t)) :
    (valueWithin (depth + 1)).result (signText negative ++ first :: (word ++ '\n' :: t)) =
      some (.float x, '\n' :: t) := by
  have hdigit : isAsciiDigit first = false := by rcases hfirst with rfl | rfl <;> rfl
  have hzero : first ≠ '0' := by rcases hfirst with rfl | rfl <;> decide
  have hminus : first ≠ '-' := by rcases hfirst with rfl | rfl <;> decide
  have hstarts : StartsNumber first := .inr (by rcases hfirst with rfl | rfl <;> decide)
  have hbased : ∀ mark ∈ ['x', 'o', 'b'], ∀ base p,
      (basedInteger mark base p).result (first :: (word ++ '\n' :: t)) = none := by
    intro mark _ base p
    unfold basedInteger
    rw [result_filterMap, result_andThen, result_letters_of_head?_ne _ (by simpa using hzero)]
    rfl
  have hmoment : momentLiteral.result (signText negative ++ first :: (word ++ '\n' :: t)) = none := by
    refine result_momentLiteral_eq_none fun hne => absurd ?_ hne
    cases negative with
    | true => rfl
    | false => simp [signText, hdigit]
  have hfloat : (floatDigits negative).result (first :: (word ++ '\n' :: t)) = none := by
    rcases hfirst with rfl | rfl <;> rfl
  rw [result_valueWithin_signText rfl hstarts hminus depth hmoment hbased, hfloat, hspecial]
  rfl

/-- An infinity is read as itself. -/
theorem result_valueWithin_infinity (negative : Bool) :
    (valueWithin (depth + 1)).result (signText negative ++ (['i', 'n', 'f'] ++ '\n' :: t)) =
      some (.float (Binary64.ofMagnitude negative Binary64.infiniteMagnitude), '\n' :: t) := by
  refine result_valueWithin_word (.inl rfl) ?_
  have hletters : (letters 'i' ['n', 'f']).result ('i' :: (['n', 'f'] ++ '\n' :: t)) =
      some ((), '\n' :: t) := result_letters_append 'i' ['n', 'f']
  unfold specialFloat
  rw [result_orElse, result_map, hletters]
  rfl

/-- A NaN is read as the one without a sign. -/
theorem result_valueWithin_nan :
    (valueWithin (depth + 1)).result (['n', 'a', 'n'] ++ '\n' :: t) =
      some (.float Binary64.nan, '\n' :: t) := by
  change (valueWithin (depth + 1)).result (signText false ++ 'n' :: (['a', 'n'] ++ '\n' :: t)) = _
  refine result_valueWithin_word (.inr rfl) ?_
  have hletters : (letters 'n' ['a', 'n']).result ('n' :: (['a', 'n'] ++ '\n' :: t)) =
      some ((), '\n' :: t) := result_letters_append 'n' ['a', 'n']
  unfold specialFloat
  rw [result_orElse, result_map, result_map, result_letters_of_head?_ne _ (by simp), hletters]
  rfl

/-- **A written number is read back** bit by bit, and a NaN as the canonical one. -/
theorem result_valueWithin_numberText (x : Binary64) :
    (valueWithin (depth + 1)).result ((numberText x).toList ++ '\n' :: t) =
      some (.float x.canonical, '\n' :: t) := by
  rw [toList_numberText]
  cases hnan : x.isNaN with
  | true =>
    rw [if_pos rfl, result_valueWithin_nan, Binary64.canonical, if_pos hnan]
  | false =>
    rw [if_neg Bool.false_ne_true, Binary64.canonical_eq hnan, List.append_assoc]
    by_cases hfinite : x.isFinite = true
    · obtain ⟨whole, fraction, htext, hwhole, hne, hdigits, hvalue⟩ := exists_magnitudeText hfinite
      have hinfinite : (Numeral.value x.isNegative ⟨whole, fraction, 0⟩).isInfinite = false := by
        have hlt : x.magnitude < Binary64.infiniteMagnitude := of_decide_eq_true hfinite
        rw [hvalue]
        exact beq_eq_false_iff_ne.2 (Nat.ne_of_lt hlt)
      rw [if_pos hfinite, htext, List.append_assoc, List.cons_append,
        hwhole.result_valueWithin_point hne hdigits hinfinite, hvalue]
    · have hmagnitude : Binary64.infiniteMagnitude = x.magnitude := by
        have hle : ¬ Binary64.infiniteMagnitude < x.magnitude := of_decide_eq_false hnan
        have hge : ¬ x.magnitude < Binary64.infiniteMagnitude := fun h => hfinite (decide_eq_true h)
        omega
      rw [if_neg hfinite, result_valueWithin_infinity, hmagnitude, Binary64.ofMagnitude_magnitude]

/-- A written number starts with no blank. -/
theorem exists_numberText_eq_cons (x : Binary64) :
    ∃ c rest, (numberText x).toList = c :: rest ∧ StartsNumber c := by
  rw [toList_numberText]
  cases x.isNaN with
  | true => exact ⟨_, _, rfl, .inr (by simp)⟩
  | false =>
    rw [if_neg Bool.false_ne_true]
    by_cases hfinite : x.isFinite = true
    · obtain ⟨whole, fraction, htext, hwhole, -⟩ := exists_magnitudeText hfinite
      rw [if_pos hfinite, htext]
      exact hwhole.exists_eq_cons x.isNegative _
    · rw [if_neg hfinite]
      cases x.isNegative with
      | true => exact ⟨_, _, rfl, startsNumber_minus⟩
      | false => exact ⟨_, _, rfl, .inr (by simp)⟩

theorem exists_toString_eq_cons (n : Nat) :
    ∃ c rest, (toString n).toList = c :: rest ∧ StartsNumber c := by
  rw [Nat.toString_eq_ofList_toDigits, String.toList_ofList]
  obtain ⟨c, cs, heq⟩ := List.exists_cons_of_ne_nil (Nat.toDigits_ne_nil (b := 10) (n := n))
  exact ⟨c, cs, heq, .inl (isAsciiDigit_of_mem_toDigits (heq ▸ List.mem_cons_self))⟩

end Toml

end Provisioning
