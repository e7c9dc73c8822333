import Provisioning.Proofs.Data.Except
import Provisioning.Proofs.Decimal.Positional
import Provisioning.Proofs.Json.Readers
import Mathlib.Data.List.TakeWhile

/-!
# Numbers within a text

A number ends where the text does, or where a character follows that no number has. So what is read of
a number alone is also read of it among other values.

## Main definitions

* `EndsNumber t`: a text that may follow a number
* `ReadsLocally read`: what is read is a part of the text, whatever follows the text
* `StartsNumber s`: a text that starts as a number does
* `ReadsBack x`: a number is read back from its written form

## Main results

* `readsLocally_number`: numbers are read so
* `ReadsBack.exists_value`: a number that is read back alone is read back among other values
* `result_number_toDigits`: a natural number of 64 bits always is
-/

namespace Provisioning.Json

open Text

variable {α β : Type} {reader : Reader α} {s t r : List Char} {c : Char} {x : Binary64}

/-- A text that does not go on with the number before it. -/
def EndsNumber (t : List Char) : Prop :=
  ∀ c ∈ t.head?, isAsciiDigit c = false ∧ c ∉ ['.', 'e', 'E']

theorem EndsValue.endsNumber (ht : EndsValue t) : EndsNumber t := by
  intro c hc
  rcases ht c hc with rfl | rfl | rfl <;> decide

theorem endsNumber_nil : EndsNumber [] := by simp [EndsNumber]

theorem endsNumber_quote (t : List Char) : EndsNumber ('"' :: t) := by
  intro c hc
  obtain rfl := Option.some.inj hc
  decide

/-- What is read is a part of the text, and the same whatever follows the text, unless a number goes
on there. -/
def ReadsLocally (read : List Char → Except Fault (α × List Char)) : Prop :=
  ∀ ⦃s a r⦄, read s = .ok (a, r) → r <:+ s ∧ ∀ t, EndsNumber t → read (s ++ t) = .ok (a, r ++ t)

namespace ReadsLocally

variable {read : List Char → Except Fault (α × List Char)}

theorem andThen {next : α → List Char → Except Fault (β × List Char)} (h : ReadsLocally read)
    (hnext : ∀ a, ReadsLocally (next a)) :
    ReadsLocally fun s => (read s).bind fun (a, r) => next a r := by
  intro s b r hread
  obtain ⟨⟨a, r'⟩, hfirst, hsecond⟩ := bind_eq_ok.1 hread
  obtain ⟨hsuffix, hlocal⟩ := h hfirst
  obtain ⟨hsuffix', hlocal'⟩ := hnext a hsecond
  refine ⟨hsuffix'.trans hsuffix, fun t ht => ?_⟩
  exact bind_eq_ok.2 ⟨_, hlocal t ht, hlocal' t ht⟩

theorem filter (h : ReadsLocally read) (f : α → Except Fault β) :
    ReadsLocally fun s => (read s).bind fun (a, r) => (f a).map fun b => (b, r) := by
  have hnext (a : α) : ReadsLocally fun r => (f a).map fun b => (b, r) := by
    intro s b r hread
    obtain ⟨b', hb, heq⟩ := map_eq_ok.1 hread
    obtain ⟨rfl, rfl⟩ := Prod.mk.inj heq
    exact ⟨List.suffix_rfl, fun t _ => map_eq_ok.2 ⟨b', hb, rfl⟩⟩
  exact h.andThen hnext

theorem map (h : ReadsLocally read) (f : α → β) :
    ReadsLocally fun s => (read s).map fun (a, r) => (f a, r) := by
  intro s b r hread
  obtain ⟨⟨a, r'⟩, hfirst, heq⟩ := map_eq_ok.1 hread
  obtain ⟨rfl, rfl⟩ := Prod.mk.inj heq
  obtain ⟨hsuffix, hlocal⟩ := h hfirst
  exact ⟨hsuffix, fun t ht => map_eq_ok.2 ⟨_, hlocal t ht, rfl⟩⟩

theorem congr {read' : List Char → Except Fault (α × List Char)} (h : ReadsLocally read)
    (heq : ∀ s, read' s = read s) : ReadsLocally read' := by
  obtain rfl : read' = read := funext heq
  exact h

end ReadsLocally

/-! ## Tokens -/

/-- What a reader that may leave the whole text reads of it, and the rest. -/
def tailResult (part : (s : List Char) → Except Fault (α × Tail s)) (s : List Char) :
    Except Fault (α × List Char) :=
  (part s).map fun (a, r) => (a, r.1)

theorem span_append {p : Char → Bool} (s : List Char) (ht : ∀ c ∈ t.head?, p c = false) :
    (s ++ t).takeWhile p = s.takeWhile p ∧ (s ++ t).dropWhile p = s.dropWhile p ++ t := by
  induction s with
  | nil =>
    cases t with
    | nil => exact ⟨rfl, rfl⟩
    | cons c t => simp [ht c rfl]
  | cons c s ih =>
    by_cases hc : p c = true
    · simp [hc, ih]
    · simp [hc]

theorem result_digitRun_cons (hc : isAsciiDigit c = true) :
    Reader.result (digitRun true) (c :: s) =
      .ok (c :: s.takeWhile isAsciiDigit, s.dropWhile isAsciiDigit) := by
  unfold Reader.result
  rw [digitRun, if_pos hc]
  rfl

theorem readsLocally_digitRun : ReadsLocally (Reader.result (digitRun true)) := by
  intro s ds r hread
  cases s with
  | nil => cases hread
  | cons c s =>
    by_cases hc : isAsciiDigit c = true
    · rw [result_digitRun_cons hc] at hread
      obtain ⟨rfl, rfl⟩ := Prod.mk.inj (Except.ok.inj hread)
      refine ⟨(List.dropWhile_suffix _).trans (List.suffix_cons c s), fun t ht => ?_⟩
      obtain ⟨htake, hdrop⟩ := span_append s fun d hd => (ht d hd).1
      rw [List.cons_append, result_digitRun_cons hc, htake, hdrop]
    · unfold Reader.result at hread
      rw [digitRun, if_neg hc] at hread
      cases hread

/-- A zero stands before another digit. -/
def PaddedByZero (s : List Char) : Prop := ∃ c r, s = '0' :: c :: r ∧ isAsciiDigit c = true

theorem result_wholeDigits (h : ¬ PaddedByZero s) :
    Reader.result (wholeDigits true) s = Reader.result (digitRun true) s := by
  by_cases hzero : ∃ c r, s = '0' :: c :: r
  · obtain ⟨c, r, rfl⟩ := hzero
    have hc : isAsciiDigit c = false := Bool.eq_false_iff.2 fun hc => h ⟨c, r, rfl, hc⟩
    rw [result_digitRun_cons rfl]
    unfold Reader.result
    rw [wholeDigits, hc]
    simp [hc, Except.map, Rest.tail]
  · unfold Reader.result
    rw [wholeDigits]
    exact fun c r heq => hzero ⟨c, r, heq⟩

theorem not_paddedByZero_of_result {ds : List Char}
    (h : Reader.result (wholeDigits true) s = .ok (ds, r)) : ¬ PaddedByZero s := by
  rintro ⟨c, r', rfl, hc⟩
  unfold Reader.result at h
  rw [wholeDigits, if_pos hc] at h
  cases h

theorem readsLocally_wholeDigits : ReadsLocally (Reader.result (wholeDigits true)) := by
  intro s ds r hread
  have hpadded := not_paddedByZero_of_result hread
  rw [result_wholeDigits hpadded] at hread
  obtain ⟨hsuffix, hlocal⟩ := readsLocally_digitRun hread
  refine ⟨hsuffix, fun t ht => ?_⟩
  -- What follows is no digit, so a zero at the end is not before another digit.
  have hpadded' : ¬ PaddedByZero (s ++ t) := by
    rintro ⟨c, r', heq, hc⟩
    match s, hread, hpadded, heq with
    | [], hread, _, _ => cases hread
    | [d], _, _, heq =>
      obtain ⟨rfl, rfl⟩ := List.cons.inj heq
      exact Bool.false_ne_true ((ht c rfl).1.symm.trans hc)
    | d :: e :: s, _, hpadded, heq =>
      obtain ⟨hd, htail⟩ := List.cons.inj heq
      obtain ⟨he, -⟩ := List.cons.inj htail
      exact hpadded ⟨e, s, by rw [hd], he ▸ hc⟩
  rw [result_wholeDigits hpadded']
  exact hlocal t ht

/-! ## Fractions and exponents -/

theorem tailResult_fractionPart_point :
    tailResult (fractionPart true) ('.' :: s) =
      (Reader.result (digitRun true) s).map fun (ds, r) => (some ds, r) := by
  unfold tailResult Reader.result
  rw [fractionPart]
  rcases digitRun true s with e | ⟨ds, r⟩ <;> rfl

theorem tailResult_fractionPart_none (h : s.head? ≠ some '.') :
    tailResult (fractionPart true) s = .ok (none, s) := by
  unfold tailResult
  rw [fractionPart]
  · rfl
  · rintro r rfl
    exact h rfl

theorem readsLocally_fractionPart : ReadsLocally (tailResult (fractionPart true)) := by
  intro s fraction r hread
  by_cases hpoint : s.head? = some '.'
  · obtain ⟨s, rfl⟩ := List.head?_eq_some_iff.1 hpoint
    rw [tailResult_fractionPart_point] at hread
    obtain ⟨hsuffix, hlocal⟩ := readsLocally_digitRun.map some hread
    refine ⟨hsuffix.trans (List.suffix_cons _ _), fun t ht => ?_⟩
    rw [List.cons_append, tailResult_fractionPart_point]
    exact hlocal t ht
  · rw [tailResult_fractionPart_none hpoint] at hread
    obtain ⟨rfl, rfl⟩ := Prod.mk.inj (Except.ok.inj hread)
    refine ⟨List.suffix_rfl, fun t ht => tailResult_fractionPart_none ?_⟩
    cases s with
    | nil => exact fun heq => (ht '.' heq).2 (by simp)
    | cons c s => exact hpoint

theorem exponentSign_of_head?_ne (hminus : s.head? ≠ some '-') (hplus : s.head? ≠ some '+') :
    exponentSign s = (false, Tail.whole s) := by
  unfold exponentSign
  split
  · exact absurd rfl hminus
  · exact absurd rfl hplus
  · rfl

/-- A sign of an exponent is not looked for in what follows the text. -/
theorem exponentSign_append (hs : s ≠ []) (t : List Char) :
    (exponentSign (s ++ t)).1 = (exponentSign s).1 ∧
      (exponentSign (s ++ t)).2.1 = (exponentSign s).2.1 ++ t := by
  obtain ⟨c, s, rfl⟩ := List.exists_cons_of_ne_nil hs
  by_cases hminus : c = '-'
  · subst hminus
    exact ⟨rfl, rfl⟩
  by_cases hplus : c = '+'
  · subst hplus
    exact ⟨rfl, rfl⟩
  rw [exponentSign_of_head?_ne (by simpa using hminus) (by simpa using hplus),
    exponentSign_of_head?_ne (by simpa using hminus) (by simpa using hplus)]
  exact ⟨rfl, rfl⟩

theorem exponentSign_suffix (s : List Char) : (exponentSign s).2.1 <:+ s := by
  unfold exponentSign
  split
  · exact List.suffix_cons _ _
  · exact List.suffix_cons _ _
  · exact List.suffix_rfl

theorem tailResult_exponentPart_mark (hc : c = 'e' ∨ c = 'E') :
    tailResult (exponentPart true) (c :: s) =
      (Reader.result (digitRun true) (exponentSign s).2.1).map fun (ds, r) =>
        (some ((exponentSign s).1, ds), r) := by
  unfold tailResult Reader.result
  rw [exponentPart, if_pos hc]
  dsimp only
  rcases digitRun true (exponentSign s).2.1 with e | ⟨ds, r⟩ <;> rfl

theorem tailResult_exponentPart_none (h : ∀ c ∈ s.head?, c ≠ 'e' ∧ c ≠ 'E') :
    tailResult (exponentPart true) s = .ok (none, s) := by
  unfold tailResult
  cases s with
  | nil => rfl
  | cons c s =>
    obtain ⟨he, hE⟩ := h c rfl
    rw [exponentPart, if_neg (not_or.2 ⟨he, hE⟩)]
    rfl

theorem readsLocally_exponentPart : ReadsLocally (tailResult (exponentPart true)) := by
  intro s exponent r hread
  by_cases hmark : ∃ c u, s = c :: u ∧ (c = 'e' ∨ c = 'E')
  · obtain ⟨c, s, rfl, hc⟩ := hmark
    rw [tailResult_exponentPart_mark hc] at hread
    obtain ⟨⟨ds, r'⟩, hdigits, heq⟩ := map_eq_ok.1 hread
    obtain ⟨rfl, rfl⟩ := Prod.mk.inj heq
    obtain ⟨hsuffix, hlocal⟩ := readsLocally_digitRun hdigits
    -- There are digits behind the mark, so that the sign, if any, is within the text.
    have hs : s ≠ [] := by
      rintro rfl
      cases hdigits
    refine ⟨(hsuffix.trans (exponentSign_suffix s)).trans (List.suffix_cons _ _), fun t ht => ?_⟩
    obtain ⟨hsign, hrest⟩ := exponentSign_append hs t
    rw [List.cons_append, tailResult_exponentPart_mark hc, hsign, hrest, hlocal t ht]
    rfl
  · have hnone (t : List Char) (ht : EndsNumber t) : ∀ c ∈ (s ++ t).head?, c ≠ 'e' ∧ c ≠ 'E' := by
      intro c hc
      cases s with
      | nil => exact ⟨fun heq => (ht c hc).2 (by simp [heq]), fun heq => (ht c hc).2 (by simp [heq])⟩
      | cons d s =>
        obtain rfl := Option.some.inj hc
        exact not_or.1 fun hd => hmark ⟨_, _, rfl, hd⟩
    have hself : tailResult (exponentPart true) s = .ok (none, s) :=
      tailResult_exponentPart_none (by simpa using hnone [] endsNumber_nil)
    rw [hself] at hread
    obtain ⟨rfl, rfl⟩ := Prod.mk.inj (Except.ok.inj hread)
    exact ⟨List.suffix_rfl, fun t ht => tailResult_exponentPart_none (hnone t ht)⟩

/-! ## Numbers -/

theorem result_unsignedToken (negative : Bool) (s : List Char) :
    Reader.result (unsignedToken true negative) s =
      (Reader.result (wholeDigits true) s).bind fun (whole, r) =>
        (tailResult (fractionPart true) r).bind fun (fraction, r) =>
          (tailResult (exponentPart true) r).map fun (exponent, r) =>
            (NumberToken.mk negative whole fraction exponent, r) := by
  unfold Reader.result tailResult unsignedToken
  rcases wholeDigits true s with e | ⟨whole, r, hr⟩
  · rfl
  dsimp only [Except.map, Except.bind]
  rcases fractionPart true r with e | ⟨fraction, r2, hr2⟩
  · rfl
  dsimp only [Except.map, Except.bind]
  rcases exponentPart true r2 with e | ⟨exponent, r3, hr3⟩ <;> rfl

theorem readsLocally_unsignedToken (negative : Bool) :
    ReadsLocally (Reader.result (unsignedToken true negative)) := by
  -- Each part is read locally, and nothing but the rest is passed from one to the next.
  refine ReadsLocally.congr ?_ (result_unsignedToken negative)
  exact readsLocally_wholeDigits.andThen fun whole =>
    readsLocally_fractionPart.andThen fun fraction =>
      readsLocally_exponentPart.map fun exponent => NumberToken.mk negative whole fraction exponent

theorem result_numberToken_minus :
    Reader.result (numberToken true) ('-' :: s) = Reader.result (unsignedToken true true) s := by
  unfold Reader.result
  rw [numberToken]
  rcases unsignedToken true true s with e | ⟨token, r⟩ <;> rfl

theorem result_numberToken_of_head?_ne (h : s.head? ≠ some '-') :
    Reader.result (numberToken true) s = Reader.result (unsignedToken true false) s := by
  unfold Reader.result
  rw [numberToken]
  rintro r rfl
  exact h rfl

theorem readsLocally_numberToken : ReadsLocally (Reader.result (numberToken true)) := by
  intro s token r hread
  by_cases hminus : s.head? = some '-'
  · obtain ⟨s, rfl⟩ := List.head?_eq_some_iff.1 hminus
    rw [result_numberToken_minus] at hread
    obtain ⟨hsuffix, hlocal⟩ := readsLocally_unsignedToken true hread
    refine ⟨hsuffix.trans (List.suffix_cons _ _), fun t ht => ?_⟩
    rw [List.cons_append, result_numberToken_minus, hlocal t ht]
  · rw [result_numberToken_of_head?_ne hminus] at hread
    obtain ⟨hsuffix, hlocal⟩ := readsLocally_unsignedToken false hread
    refine ⟨hsuffix, fun t ht => ?_⟩
    have hminus' : (s ++ t).head? ≠ some '-' := by
      cases s with
      | nil => cases hread
      | cons c s => exact hminus
    rw [result_numberToken_of_head?_ne hminus', hlocal t ht]

/-- **A number is read the same, whatever follows it.** -/
theorem readsLocally_number : ReadsLocally number.result :=
  (readsLocally_numberToken.filter NumberToken.value).congr fun _ => result_bind _

/-! ## Numbers as values -/

/-- A character that may stand in a number. -/
def InNumber (c : Char) : Prop := isAsciiDigit c = true ∨ c ∈ ['-', '+', '.', 'e']

theorem InNumber.isJsonBlank (h : InNumber c) : isJsonBlank c = false := by
  rw [Bool.eq_false_iff]
  intro hblank
  simp only [Json.isJsonBlank, Bool.or_eq_true, beq_iff_eq] at hblank
  rcases hblank with ((rfl | rfl) | rfl) | rfl <;> simp [InNumber, isAsciiDigit] at h

/-- A text that starts as a number does. -/
def StartsNumber (s : List Char) : Prop := ∃ c, s.head? = some c ∧ startsNumber c = true

namespace StartsNumber

theorem append (hs : StartsNumber s) (t : List Char) : StartsNumber (s ++ t) := by
  obtain ⟨c, hhead, hc⟩ := hs
  obtain ⟨r, rfl⟩ := List.head?_eq_some_iff.1 hhead
  exact ⟨c, rfl, hc⟩

theorem head?_ne {d : Char} (hs : StartsNumber s) (hd : startsNumber d = false) :
    s.head? ≠ some d := by
  obtain ⟨c, hhead, hc⟩ := hs
  rw [hhead]
  rintro heq
  obtain rfl := Option.some.inj heq
  exact Bool.false_ne_true (hd.symm.trans hc)

theorem skipBlank_eq (hs : StartsNumber s) : skipBlank s = s := by
  obtain ⟨c, hhead, hc⟩ := hs
  obtain ⟨r, rfl⟩ := List.head?_eq_some_iff.1 hhead
  rw [startsNumber, Bool.or_eq_true, beq_iff_eq] at hc
  rcases hc with rfl | hc
  · exact skipBlank_cons rfl
  · exact skipBlank_cons (InNumber.isJsonBlank (.inl hc))

end StartsNumber

theorem result_numeric (hs : StartsNumber s) : numeric.result s = number.result s := by
  obtain ⟨c, hhead, hc⟩ := hs
  have hskip : skipBlank s = s := StartsNumber.skipBlank_eq ⟨c, hhead, hc⟩
  unfold numeric
  rw [result_startingWith (hskip.symm ▸ hhead) hc, hskip]

theorem result_anyValue_number (hs : StartsNumber s) (depth : Nat) :
    (anyValue (depth + 1)).result s = number.result s := by
  obtain ⟨c, hhead, hc⟩ := hs
  have hne {d : Char} (hd : startsNumber d = false) : c ≠ d := fun heq =>
    StartsNumber.head?_ne ⟨c, hhead, hc⟩ hd (hhead.trans (congrArg some heq))
  -- A word or a sign of another value is none that a number starts with.
  have hn : c ≠ 'n' := hne rfl
  have ht : c ≠ 't' := hne rfl
  have hf : c ≠ 'f' := hne rfl
  rw [anyValue, result_afterBlank, StartsNumber.skipBlank_eq ⟨c, hhead, hc⟩]
  unfold Reader.result
  simp only [hhead, hn, ht, hf, hc, if_false, if_true]

theorem result_optional_null :
    (optional reader).result ((compact .null).toList ++ t) = .ok (none, t) := by
  have hnull : (compact .null).toList ++ t = 'n' :: (['u', 'l', 'l'] ++ t) := by
    simp [compact, scalarText]
  unfold optional
  rw [hnull, result_afterBlank, skipBlank_cons rfl]
  exact result_wordThen ['u', 'l', 'l'] none

theorem result_optional_number (hs : StartsNumber s) :
    (optional reader).result s = (reader.result s).map fun (a, r) => (some a, r) := by
  have hn : s.head? ≠ some 'n' := hs.head?_ne rfl
  unfold optional
  rw [result_afterBlank, hs.skipBlank_eq, ← result_map]
  unfold Reader.result
  simp only [hn, if_false]

/-! ## Numbers that are read back -/

/-- A number is read back, bit by bit, from its written form. -/
def ReadsBack (x : Binary64) : Prop := readAll float (compact (.real x)) = .ok x

theorem inNumber_of_mem_toDigits {n : Nat} (h : c ∈ Nat.toDigits 10 n) : InNumber c :=
  .inl (isAsciiDigit_of_mem_toDigits h)

theorem inNumber_of_mem_positionalText {marksWhole : Bool} {d : Decimal}
    (h : c ∈ (d.positionalText marksWhole).toList) : InNumber c := by
  have hdigit := Decimal.isAsciiDigit_of_mem_numeral marksWhole d
  rw [Decimal.toList_positionalText, Numeral.pointText, List.mem_append] at h
  rcases h with h | h
  · exact .inl (hdigit c (List.mem_append_left _ h))
  · split at h
    · cases h
    · rcases List.mem_cons.1 h with rfl | h
      · exact .inr (by simp)
      · exact .inl (hdigit c (List.mem_append_right _ h))

theorem inNumber_of_mem_scientificText {d : Decimal} (h : c ∈ d.scientificText.toList) :
    InNumber c := by
  have hdigits : ∀ c ∈ Decimal.digitChars d.digits, InNumber c := fun c hc =>
    inNumber_of_mem_toDigits hc
  have hexponent : ∀ c ∈ (toString d.leadingExponent.natAbs).toList, InNumber c := by
    intro c hc
    rw [Nat.toString_eq_ofList_toDigits, String.toList_ofList] at hc
    exact inNumber_of_mem_toDigits hc
  have hmark : ∀ c ∈ (if d.leadingExponent < 0 then "e-" else "e+").toList, InNumber c := by
    intro c hc
    split at hc <;> exact .inr (by revert c; simp)
  rw [Decimal.scientificText, String.toList_append, String.toList_append, List.mem_append,
    List.mem_append] at h
  rcases h with (h | h) | h
  · -- The digits, with a point after the first if there are more.
    split at h
    · cases h
    · next first heq =>
      rw [heq] at hdigits
      exact hdigits c (by simpa using h)
    · next first ds _ heq =>
      rw [heq] at hdigits
      simp only [String.toList_append, String.toList_singleton, String.toList_ofList,
        List.mem_append] at h
      rcases h with (h | h) | h
      · exact hdigits c (List.mem_cons.2 (.inl (List.mem_singleton.1 h)))
      · exact .inr (by revert h; simp +contextual)
      · exact hdigits c (List.mem_cons_of_mem first h)
  · exact hmark c h
  · exact hexponent c h

theorem inNumber_of_mem_decimalText {style : NumberStyle} {d : Decimal}
    (h : c ∈ (style.decimalText d).toList) : InNumber c := by
  unfold NumberStyle.decimalText at h
  split at h
  · exact inNumber_of_mem_positionalText h
  · split at h
    · exact inNumber_of_mem_positionalText h
    · exact inNumber_of_mem_scientificText h

theorem inNumber_of_mem_render (hfinite : x.isFinite = true)
    (h : c ∈ (NumberStyle.json.render x).toList) : InNumber c := by
  rw [NumberStyle.render, Binary64.isNaN_of_isFinite hfinite, hfinite] at h
  simp only [Bool.false_eq_true, if_false, if_true, String.toList_append, List.mem_append] at h
  rcases h with h | h
  · refine .inr ?_
    split at h
    · simp_all
    · cases h
  · unfold NumberStyle.magnitudeText at h
    split at h
    · have hzero : c = '0' ∨ c = '.' ∨ c = '0' := by simpa [NumberStyle.json] using h
      rcases hzero with rfl | rfl | rfl
      · exact .inl rfl
      · exact .inr (by simp)
      · exact .inl rfl
    · exact inNumber_of_mem_decimalText h

/-- No blank stands in a written number. -/
theorem isJsonBlank_of_mem_compact (h : c ∈ (compact (.real x)).toList) :
    isJsonBlank c = false := by
  have hcompact : compact (.real x) = if x.isFinite then NumberStyle.json.render x else "null" := by
    simp [compact, scalarText]
  rw [hcompact] at h
  split at h
  · next hfinite => exact (inNumber_of_mem_render hfinite h).isJsonBlank
  · have hnull : c = 'n' ∨ c = 'u' ∨ c = 'l' := by simpa using h
    rcases hnull with rfl | rfl | rfl <;> rfl

/-- **A number that is read back alone is read back among other values.** -/
theorem ReadsBack.exists_value (h : ReadsBack x) :
    ∃ v, StartsNumber (compact (.real x)).toList ∧ v.float? = some x ∧
      ∀ t, EndsNumber t → number.result ((compact (.real x)).toList ++ t) = .ok (v, t) := by
  obtain ⟨r, hread, hr⟩ := readAll_eq_ok_iff.1 h
  have hskip (u : List Char) (hu : ∀ c ∈ u, c ∈ (compact (.real x)).toList) : skipBlank u = u := by
    cases u with
    | nil => rfl
    | cons c u => exact skipBlank_cons (isJsonBlank_of_mem_compact (hu c List.mem_cons_self))
  unfold float at hread
  rw [result_bind] at hread
  obtain ⟨⟨v, r'⟩, hnumber, hfloat⟩ := bind_eq_ok.1 hread
  obtain ⟨y, hy, heq⟩ := map_eq_ok.1 hfloat
  obtain ⟨rfl, rfl⟩ := Prod.mk.inj heq
  obtain ⟨c, hhead, hc⟩ := exists_head?_of_startingWith hnumber
  rw [hskip _ fun c hc => hc] at hhead
  have hstart : StartsNumber (compact (.real y)).toList := ⟨c, hhead, hc⟩
  rw [result_numeric hstart] at hnumber
  obtain ⟨hsuffix, hlocal⟩ := readsLocally_number hnumber
  -- What is left over is part of the text, so it has no blanks, and only blanks are left over.
  rw [hskip r' hsuffix.subset] at hr
  subst hr
  exact ⟨v, hstart, orMismatch_eq_ok_iff.1 hy, hlocal⟩

theorem ReadsBack.result_float (h : ReadsBack x) (ht : EndsNumber t) :
    float.result ((compact (.real x)).toList ++ t) = .ok (x, t) := by
  obtain ⟨v, hstart, hv, hread⟩ := h.exists_value
  exact result_bind_orMismatch ((result_numeric (hstart.append t)).trans (hread t ht)) hv

theorem ReadsBack.result_optional_float (h : ReadsBack x) (ht : EndsNumber t) :
    (optional float).result ((compact (.real x)).toList ++ t) = .ok (some x, t) := by
  obtain ⟨v, hstart, -, -⟩ := h.exists_value
  rw [result_optional_number (hstart.append t), h.result_float ht]
  rfl

/-- A written number is read as a value of any form, if it is read back. -/
theorem ReadsBack.exists_result_anyValue (h : ReadsBack x) (depth : Nat) :
    ∃ v, v.float? = some x ∧ ∀ t, EndsNumber t →
      (anyValue (depth + 1)).result ((compact (.real x)).toList ++ t) = .ok (v, t) := by
  obtain ⟨v, hstart, hv, hread⟩ := h.exists_value
  exact ⟨v, hv, fun t ht => (result_anyValue_number (hstart.append t) depth).trans (hread t ht)⟩

/-! ## Natural numbers -/

theorem startsNumber_toDigits (n : Nat) : StartsNumber (Nat.toDigits 10 n) := by
  obtain ⟨c, cs, hcs⟩ := List.exists_cons_of_ne_nil (Nat.toDigits_ne_nil (b := 10) (n := n))
  have hc : isAsciiDigit c = true := isAsciiDigit_of_mem_toDigits (hcs ▸ List.mem_cons_self)
  exact ⟨c, by rw [hcs]; rfl, by rw [startsNumber, hc, Bool.or_true]⟩

/-- **A natural number of 64 bits is read back.** -/
theorem result_number_toDigits {n : Nat} (hn : n ≤ wordLimit) (ht : EndsNumber t) :
    number.result (Nat.toDigits 10 n ++ t) = .ok (.integer n, t) := by
  obtain ⟨c, cs, hcs⟩ := List.exists_cons_of_ne_nil (Nat.toDigits_ne_nil (b := 10) (n := n))
  have hdigits : ∀ d ∈ c :: cs, isAsciiDigit d = true := fun d hd =>
    isAsciiDigit_of_mem_toDigits (hcs ▸ hd)
  -- The digits of a positive number start with no zero, and those of zero are one.
  have hpadded : ¬ PaddedByZero (Nat.toDigits 10 n) := by
    rintro ⟨d, r, heq, -⟩
    by_cases hzero : n = 0
    · rw [hzero, Nat.toDigits_zero] at heq
      cases heq
    · exact head?_toDigits_ne_zero (Nat.pos_of_ne_zero hzero) (by rw [heq]; rfl)
  have hwhole : Reader.result (wholeDigits true) (Nat.toDigits 10 n) = .ok (Nat.toDigits 10 n, []) := by
    rw [result_wholeDigits hpadded, hcs, result_digitRun_cons (hdigits c List.mem_cons_self),
      List.takeWhile_eq_self_iff.2 fun d hd => hdigits d (List.mem_cons_of_mem c hd),
      List.dropWhile_eq_nil_iff.2 fun d hd => hdigits d (List.mem_cons_of_mem c hd)]
  have hminus : (Nat.toDigits 10 n).head? ≠ some '-' := by
    rw [hcs]
    intro heq
    obtain rfl := Option.some.inj heq
    exact Bool.false_ne_true (hdigits _ List.mem_cons_self)
  have hself : number.result (Nat.toDigits 10 n) = .ok (.integer n, []) := by
    unfold number
    rw [result_bind, result_numberToken_of_head?_ne hminus, result_unsignedToken, hwhole]
    simp [tailResult, fractionPart, exponentPart, NumberToken.value, hn, Except.bind, Except.map,
      Tail.whole]
  exact (readsLocally_number hself).2 t ht

/-! ## Counts -/

theorem count?_toNat (n : UInt32) : (Value.integer n.toNat).count? = some n := by
  have hn := n.toNat_lt
  unfold Value.count?
  dsimp only
  rw [if_pos ⟨by omega, by omega⟩, Int.toNat_natCast, UInt32.ofNat_toNat]

theorem toNat_le_wordLimit (n : UInt32) : n.toNat ≤ wordLimit := by
  have hn := n.toNat_lt
  unfold wordLimit
  omega

theorem result_count (n : UInt32) (ht : EndsNumber t) :
    count.result (Nat.toDigits 10 n.toNat ++ t) = .ok (n, t) :=
  result_bind_orMismatch ((result_numeric ((startsNumber_toDigits n.toNat).append t)).trans
    (result_number_toDigits (toNat_le_wordLimit n) ht)) (count?_toNat n)

/-- A written count is read as a value of any form. -/
theorem result_anyValue_count (n : UInt32) (depth : Nat) (ht : EndsNumber t) :
    (anyValue (depth + 1)).result ((compact (.integer n.toNat)).toList ++ t) =
      .ok (.integer n.toNat, t) := by
  have hcompact : compact (.integer n.toNat) = toString n.toNat := by
    simp only [compact, scalarText]
    rfl
  rw [hcompact, Nat.toString_eq_ofList_toDigits, String.toList_ofList,
    result_anyValue_number ((startsNumber_toDigits n.toNat).append t),
    result_number_toDigits (toNat_le_wordLimit n) ht]

end Provisioning.Json
