import Provisioning.Proofs.Text.Classes
import Provisioning.Quantity.Scan

/-!
# Spellings of quantities

A quantity is spelled as its number and its unit, with blanks around the two. The scanner takes the
longest number that a text leads with. So neither more blanks nor the case of letters change where it
stops.

## Main definitions

* `IsNumeral`: the texts of numbers
* `Quantity.Spells`: the texts of a quantity
* `LeadsWith`: the longest number at the start of a text
* `Respelled`: texts that differ in ASCII case and in blanks around the number and the unit

## Main results

* `Quantity.ofChars?_eq_some_iff`: a quantity is scanned from its spellings
* `Quantity.ofChars?_of_leadsWith`: the scanner takes the longest number
* `Respelled.ofChars?_cases`: texts that are respelled are scanned alike
-/

namespace Provisioning

open Text

/-- Decimal digits of any script, at least one. -/
def IsDigits (s : List Char) : Prop := s ≠ [] ∧ ∀ c ∈ s, isDecimalDigit c = true

/-- The text of a number: digits, or digits with a point between two of them. -/
inductive IsNumeral : List Char → Prop
  | whole {ds : List Char} (hds : IsDigits ds) : IsNumeral ds
  | point {ds es : List Char} (hds : IsDigits ds) (hes : IsDigits es) : IsNumeral (ds ++ '.' :: es)

/-- Blanks, or nothing. -/
def AllBlank (s : List Char) : Prop := ∀ c ∈ s, isBlank c = true

/-- A text spells a quantity: its number and its unit, with blanks before, between and after the two. -/
def Quantity.Spells (q : Quantity) (s : List Char) : Prop :=
  IsNumeral q.number ∧ ∃ before between after, AllBlank before ∧ AllBlank between ∧ AllBlank after ∧
    s = before ++ (q.number ++ (between ++ (q.unit ++ after)))

/-- The longest number at the start of a text. -/
structure LeadsWith (s number : List Char) : Prop where
  isNumeral : IsNumeral number
  starts : number <+: s
  longest : ∀ n, IsNumeral n → n <+: s → n <+: number

/-- Texts that are turned into each other by changing the case of ASCII letters, and by adding blanks at
the ends or between the number and what follows it. -/
inductive Respelled : List Char → List Char → Prop
  | case {s t : List Char} (h : s.map asciiLower = t.map asciiLower) : Respelled s t
  | ends {before s after : List Char} (hbefore : AllBlank before) (hafter : AllBlank after) :
      Respelled s (before ++ (s ++ after))
  | between {before number blanks more rest : List Char} (hbefore : AllBlank before)
      (hnumber : LeadsWith (number ++ (blanks ++ rest)) number) (hblanks : AllBlank blanks)
      (hmore : AllBlank more) :
      Respelled (before ++ (number ++ (blanks ++ rest)))
        (before ++ (number ++ (blanks ++ (more ++ rest))))
  | symm {s t : List Char} (h : Respelled s t) : Respelled t s
  | trans {s t u : List Char} (hst : Respelled s t) (htu : Respelled t u) : Respelled s u

variable {s t number rest before after : List Char} {c : Char}

/-! ## Numbers -/

theorem IsNumeral.ne_nil (h : IsNumeral number) : number ≠ [] := by
  cases h with
  | whole hds => exact hds.1
  | point hds => exact List.append_ne_nil_of_left_ne_nil hds.1 _

theorem IsNumeral.of_mem (h : IsNumeral number) (hc : c ∈ number) :
    isDecimalDigit c = true ∨ c = '.' := by
  cases h with
  | whole hds => exact .inl (hds.2 c hc)
  | point hds hes =>
    rcases List.mem_append.1 hc with hc | hc
    · exact .inl (hds.2 c hc)
    · rcases List.mem_cons.1 hc with rfl | hc
      · exact .inr rfl
      · exact .inl (hes.2 c hc)

theorem IsNumeral.head_isDecimalDigit (h : IsNumeral number) :
    ∀ c ∈ number.head?, isDecimalDigit c = true := by
  intro c hc
  cases h with
  | whole hds => exact hds.2 c (List.mem_of_head? hc)
  | point hds =>
    rw [List.head?_append_of_ne_nil _ hds.1] at hc
    exact hds.2 c (List.mem_of_head? hc)

theorem IsDigits.concat {ds : List Char} (h : IsDigits ds) (hc : isDecimalDigit c = true) :
    IsDigits (ds ++ [c]) := by
  refine ⟨List.append_ne_nil_of_left_ne_nil h.1 _, fun d hd => ?_⟩
  rcases List.mem_append.1 hd with hd | hd
  · exact h.2 d hd
  · rw [List.mem_singleton.1 hd]
    exact hc

/-- No blank belongs to a number. -/
theorem AllBlank.of_mem (h : AllBlank s) (hc : c ∈ s) : isDecimalDigit c = false ∧ c ≠ '.' :=
  ⟨isDecimalDigit_of_isBlank (h c hc), ne_point_of_isBlank (h c hc)⟩

/-- A number is the longest one that a text leads with if no character of a number follows it. -/
theorem leadsWith_append (h : IsNumeral number)
    (hrest : ∀ c ∈ rest.head?, isDecimalDigit c = false ∧ c ≠ '.') :
    LeadsWith (number ++ rest) number where
  isNumeral := h
  starts := List.prefix_append _ _
  longest n hn hstarts := by
    rcases List.prefix_or_prefix_of_prefix hstarts (List.prefix_append number rest) with hle | hle
    · exact hle
    obtain ⟨more, rfl⟩ := hle
    cases more with
    | nil => exact ⟨[], by simp⟩
    | cons c more =>
      -- The next character of the longer number would be the one after the other.
      obtain ⟨t, rfl⟩ := (List.prefix_append_right_inj number).1 hstarts
      obtain ⟨hdigit, hpoint⟩ := hrest c rfl
      rcases hn.of_mem (List.mem_append_right number List.mem_cons_self) with hc | hc
      · rw [hdigit] at hc
        cases hc
      · exact absurd hc hpoint

/-- The longest number does not go on in the rest of the text. -/
theorem LeadsWith.not_isNumeral_append (h : LeadsWith (number ++ rest) number) {more : List Char}
    (hne : more ≠ []) (hmore : more <+: rest) : ¬ IsNumeral (number ++ more) := by
  intro hn
  have hle := (h.longest _ hn ((List.prefix_append_right_inj number).2 hmore)).length_le
  have hpos := List.length_pos_of_ne_nil hne
  rw [List.length_append] at hle
  omega

/-! ## Scanning -/

namespace Quantity

theorem splitFraction_point (s : List Char) : splitFraction ('.' :: s) =
    if (s.takeWhile isDecimalDigit).isEmpty then ([], '.' :: s)
    else ('.' :: s.takeWhile isDecimalDigit, s.dropWhile isDecimalDigit) := rfl

theorem splitFraction_of_head?_ne (h : s.head? ≠ some '.') : splitFraction s = ([], s) := by
  unfold splitFraction
  split
  · exact absurd rfl h
  · rfl

/-- A fraction ends at the first character that is no digit. -/
theorem splitFraction_digits {es : List Char} (hes : IsDigits es)
    (hrest : ∀ c ∈ rest.head?, isDecimalDigit c = false) :
    splitFraction ('.' :: (es ++ rest)) = ('.' :: es, rest) := by
  rw [splitFraction_point, takeWhile_append_of_head? es hrest, dropWhile_append_of_head? es hrest,
    List.takeWhile_eq_self_iff.2 hes.2, List.dropWhile_eq_nil_iff.2 hes.2,
    if_neg (mt List.isEmpty_iff.1 hes.1), List.nil_append]

theorem splitFraction_cases (s : List Char) : splitFraction s = ([], s) ∨
    ∃ es rest, IsDigits es ∧ s = '.' :: (es ++ rest) ∧ splitFraction s = ('.' :: es, rest) := by
  by_cases h : s.head? = some '.'
  · obtain ⟨t, rfl⟩ := List.head?_eq_some_iff.1 h
    rw [splitFraction_point]
    split
    · exact .inl rfl
    · next hne =>
      refine .inr ⟨t.takeWhile isDecimalDigit, t.dropWhile isDecimalDigit, ⟨?_, ?_⟩, ?_, rfl⟩
      · exact mt List.isEmpty_iff.2 hne
      · exact fun c hc => List.mem_takeWhile_imp hc
      · rw [List.takeWhile_append_dropWhile]
  · exact .inl (splitFraction_of_head?_ne h)

/-- The longest number that a text leads with, as the scanner cuts it. -/
theorem exists_of_leadsWith (h : LeadsWith (number ++ rest) number) : ∃ ds fraction, IsDigits ds ∧
    number = ds ++ fraction ∧ (∀ c ∈ (fraction ++ rest).head?, isDecimalDigit c = false) ∧
    splitFraction (fraction ++ rest) = (fraction, rest) := by
  -- No digit follows the number, or it would be longer by it.
  have hhead {c : Char} (hlonger : isDecimalDigit c = true → IsNumeral (number ++ [c]))
      (hc : c ∈ rest.head?) : isDecimalDigit c = false := by
    rw [Bool.eq_false_iff]
    intro hdigit
    obtain ⟨t, rfl⟩ := List.head?_eq_some_iff.1 hc
    exact h.not_isNumeral_append (List.cons_ne_nil c []) ⟨t, rfl⟩ (hlonger hdigit)
  have hnumber := h.isNumeral
  cases hnumber with
  | whole hds =>
    refine ⟨number, [], hds, (List.append_nil _).symm, ?_, ?_⟩
    · exact fun c => hhead fun hdigit => .whole (hds.concat hdigit)
    · rcases splitFraction_cases rest with heq | ⟨es, rest, hes, rfl, -⟩
      · exact heq
      · exact absurd (.point hds hes) (h.not_isNumeral_append (List.cons_ne_nil _ _) ⟨rest, rfl⟩)
  | @point ds es hds hes =>
    refine ⟨ds, '.' :: es, hds, rfl, ?_, splitFraction_digits hes fun c => hhead fun hdigit => ?_⟩
    · rintro c hc
      obtain rfl := Option.some.inj hc
      decide
    · rw [List.append_assoc, List.cons_append]
      exact .point hds (hes.concat hdigit)

/-- **The scanner takes the longest number**, and as unit what comes after it, without blanks around. -/
theorem ofChars?_of_leadsWith (hbefore : AllBlank before) (h : LeadsWith (number ++ rest) number) :
    ofChars? (before ++ (number ++ rest)) = some ⟨number, trimChars rest⟩ := by
  obtain ⟨ds, fraction, hds, rfl, hhead, hsplit⟩ := exists_of_leadsWith h
  have hstart : ∀ c ∈ (ds ++ (fraction ++ rest)).head?, isBlank c = false := by
    intro c hc
    rw [List.head?_append_of_ne_nil _ hds.1] at hc
    rw [Bool.eq_false_iff]
    intro hblank
    have hdigit := hds.2 c (List.mem_of_head? hc)
    rw [isDecimalDigit_of_isBlank hblank] at hdigit
    cases hdigit
  unfold ofChars?
  dsimp only
  rw [List.append_assoc, dropWhile_append_of_head? before hstart, List.dropWhile_eq_nil_iff.2 hbefore,
    List.nil_append, takeWhile_append_of_head? ds hhead, dropWhile_append_of_head? ds hhead,
    List.takeWhile_eq_self_iff.2 hds.2, List.dropWhile_eq_nil_iff.2 hds.2, List.nil_append, hsplit,
    if_neg (mt List.isEmpty_iff.1 hds.1)]

theorem spells_of_ofChars? {q : Quantity} (h : ofChars? s = some q) : q.Spells s := by
  unfold ofChars? at h
  dsimp only at h
  split at h
  · cases h
  next hne =>
  obtain rfl := Option.some.inj h
  generalize hu : s.dropWhile isBlank = u at hne ⊢
  have hds : IsDigits (u.takeWhile isDecimalDigit) :=
    ⟨mt List.isEmpty_iff.2 hne, fun c hc => List.mem_takeWhile_imp hc⟩
  have hs : s = s.takeWhile isBlank ++ (u.takeWhile isDecimalDigit ++ u.dropWhile isDecimalDigit) := by
    rw [List.takeWhile_append_dropWhile, ← hu, List.takeWhile_append_dropWhile]
  generalize u.takeWhile isDecimalDigit = ds at hds hs ⊢
  generalize u.dropWhile isDecimalDigit = t at hs ⊢
  have hbefore : AllBlank (s.takeWhile isBlank) := fun c hc => List.mem_takeWhile_imp hc
  rcases splitFraction_cases t with heq | ⟨es, rest, hes, rfl, heq⟩
  · obtain ⟨between, after, ht, hbetween, hafter⟩ := exists_eq_append_trimChars t
    rw [heq, List.append_nil]
    exact ⟨.whole hds, _, between, after, hbefore, hbetween, hafter, ht ▸ hs⟩
  · obtain ⟨between, after, hrest, hbetween, hafter⟩ := exists_eq_append_trimChars rest
    rw [heq]
    refine ⟨.point hds hes, _, between, after, hbefore, hbetween, hafter, ?_⟩
    rw [List.append_assoc, List.cons_append, ← hrest]
    exact hs

variable {q : Quantity}

/-- **A quantity is scanned from the texts that spell it**, if its unit is a word. -/
theorem ofChars?_eq_some_iff (hunit : ∀ c ∈ q.unit, IsPlain c) :
    ofChars? s = some q ↔ q.Spells s := by
  constructor
  · exact spells_of_ofChars?
  · rintro ⟨hnumber, before, between, after, hbefore, hbetween, hafter, rfl⟩
    -- A blank or a letter follows the number, so no longer number starts there.
    have hrest : ∀ c ∈ (between ++ (q.unit ++ after)).head?, isDecimalDigit c = false ∧ c ≠ '.' := by
      intro c hc
      rcases List.mem_append.1 (List.mem_of_head? hc) with hc | hc
      · exact hbetween.of_mem hc
      rcases List.mem_append.1 hc with hc | hc
      · exact ⟨(hunit c hc).isDecimalDigit, (hunit c hc).ne_point⟩
      · exact hafter.of_mem hc
    have htrimmed : IsTrimmed q.unit :=
      ⟨fun c hc => (hunit c (List.mem_of_head? hc)).isBlank,
        fun c hc => (hunit c (List.mem_of_getLast? hc)).isBlank⟩
    rw [ofChars?_of_leadsWith hbefore (leadsWith_append hnumber hrest),
      trimChars_append hbetween hafter, trimChars_of_isTrimmed htrimmed]

/-! ## Texts that are scanned alike -/

/-- A quantity with its unit in lower case. -/
def lowered (q : Quantity) : Quantity := { q with unit := q.unit.map asciiLower }

theorem takeWhile_map_digits (s : List Char) :
    (s.map asciiLower).takeWhile isDecimalDigit = s.takeWhile isDecimalDigit := by
  have hdigit : isDecimalDigit ∘ asciiLower = isDecimalDigit := funext isDecimalDigit_asciiLower
  rw [List.takeWhile_map, hdigit]
  refine (List.map_congr_left fun c hc => ?_).trans (List.map_id _)
  exact asciiLower_of_isDecimalDigit (List.mem_takeWhile_imp hc)

theorem dropWhile_map_digits (s : List Char) :
    (s.map asciiLower).dropWhile isDecimalDigit = (s.dropWhile isDecimalDigit).map asciiLower := by
  have hdigit : isDecimalDigit ∘ asciiLower = isDecimalDigit := funext isDecimalDigit_asciiLower
  rw [List.dropWhile_map, hdigit]

theorem splitFraction_map (s : List Char) : splitFraction (s.map asciiLower) =
    ((splitFraction s).1, (splitFraction s).2.map asciiLower) := by
  by_cases h : s.head? = some '.'
  · obtain ⟨t, rfl⟩ := List.head?_eq_some_iff.1 h
    have hpoint : asciiLower '.' = '.' := rfl
    rw [List.map_cons, hpoint, splitFraction_point, splitFraction_point, takeWhile_map_digits,
      dropWhile_map_digits]
    split <;> rfl
  · have h' : (s.map asciiLower).head? ≠ some '.' := by
      rw [List.head?_map]
      intro heq
      obtain ⟨c, hc, hlower⟩ := Option.map_eq_some_iff.1 heq
      exact h (asciiLower_eq_point.1 hlower ▸ hc)
    rw [splitFraction_of_head?_ne h, splitFraction_of_head?_ne h']

theorem ofChars?_map (s : List Char) : ofChars? (s.map asciiLower) = (ofChars? s).map lowered := by
  have hblank : isBlank ∘ asciiLower = isBlank := funext isBlank_asciiLower
  unfold ofChars?
  dsimp only
  rw [List.dropWhile_map, hblank, takeWhile_map_digits, dropWhile_map_digits, splitFraction_map,
    trimChars_map]
  split <;> rfl

theorem splitFraction_append (s : List Char) (hafter : AllBlank after) : splitFraction (s ++ after) =
    ((splitFraction s).1, (splitFraction s).2 ++ after) := by
  have hhead : ∀ c ∈ after.head?, isDecimalDigit c = false := fun c hc =>
    (hafter.of_mem (List.mem_of_head? hc)).1
  by_cases h : s.head? = some '.'
  · obtain ⟨t, rfl⟩ := List.head?_eq_some_iff.1 h
    rw [List.cons_append, splitFraction_point, splitFraction_point, takeWhile_append_of_head? t hhead,
      dropWhile_append_of_head? t hhead]
    split <;> rfl
  · have h' : (s ++ after).head? ≠ some '.' := by
      rw [List.head?_append]
      cases s with
      | nil => exact fun heq => (hafter.of_mem (List.mem_of_head? heq)).2 rfl
      | cons c s => exact h
    rw [splitFraction_of_head?_ne h, splitFraction_of_head?_ne h']

/-- Blanks at the ends of a text are not part of what is scanned. -/
theorem ofChars?_ends (s : List Char) (hbefore : AllBlank before) (hafter : AllBlank after) :
    ofChars? (before ++ (s ++ after)) = ofChars? s := by
  have hhead : ∀ c ∈ after.head?, isDecimalDigit c = false := fun c hc =>
    (hafter.of_mem (List.mem_of_head? hc)).1
  unfold ofChars?
  dsimp only
  rw [List.dropWhile_append_of_pos hbefore, List.dropWhile_append]
  split
  · next hempty =>
    -- Of a blank text nothing is left, with or without more blanks.
    rw [List.isEmpty_iff.1 hempty, List.dropWhile_eq_nil_iff.2 hafter]
  · have htrim : ∀ rest : List Char, trimChars (rest ++ after) = trimChars rest := fun rest =>
      trimChars_append (List.forall_mem_nil _) hafter
    rw [takeWhile_append_of_head? _ hhead, dropWhile_append_of_head? _ hhead,
      splitFraction_append _ hafter, htrim]

end Quantity

/-- More blanks after the longest number leave it the longest. -/
theorem LeadsWith.append_blanks {blanks more : List Char}
    (h : LeadsWith (number ++ (blanks ++ rest)) number) (hblanks : AllBlank blanks)
    (hmore : AllBlank more) : LeadsWith (number ++ (blanks ++ (more ++ rest))) number := by
  have hall : ∀ c ∈ blanks ++ more, isDecimalDigit c = false ∧ c ≠ '.' := by
    intro c hc
    rcases List.mem_append.1 hc with hc | hc
    · exact hblanks.of_mem hc
    · exact hmore.of_mem hc
  -- Without any blank nothing has changed; otherwise a blank follows the number.
  by_cases hnil : blanks ++ more = []
  · obtain ⟨rfl, rfl⟩ := List.append_eq_nil_iff.1 hnil
    exact h
  · rw [← List.append_assoc blanks]
    refine leadsWith_append h.isNumeral fun c hc => hall c (List.mem_of_head? ?_)
    rwa [List.head?_append_of_ne_nil _ hnil] at hc

theorem Respelled.ofChars?_eq (h : Respelled s t) :
    (Quantity.ofChars? s).map Quantity.lowered = (Quantity.ofChars? t).map Quantity.lowered := by
  induction h with
  | case h => rw [← Quantity.ofChars?_map, ← Quantity.ofChars?_map, h]
  | ends hbefore hafter => rw [Quantity.ofChars?_ends _ hbefore hafter]
  | @between before number blanks more rest hbefore hnumber hblanks hmore =>
    have htrim : ∀ more, AllBlank more → trimChars (more ++ rest) = trimChars rest := by
      intro more hmore
      have heq := trimChars_append (s := rest) hmore (List.forall_mem_nil (isBlank · = true))
      rwa [List.append_nil] at heq
    have hunit : trimChars (blanks ++ (more ++ rest)) = trimChars (blanks ++ rest) := by
      rw [← List.append_assoc, htrim, htrim blanks hblanks]
      exact List.forall_mem_append.2 ⟨hblanks, hmore⟩
    rw [Quantity.ofChars?_of_leadsWith hbefore hnumber,
      Quantity.ofChars?_of_leadsWith hbefore (hnumber.append_blanks hblanks hmore), hunit]

  | symm _ ih => exact ih.symm
  | trans _ _ ihst ihtu => exact ihst.trans ihtu

/-- **Texts that are respelled are scanned alike**, up to the case of the unit. -/
theorem Respelled.ofChars?_cases (h : Respelled s t) :
    Quantity.ofChars? s = none ∧ Quantity.ofChars? t = none ∨
      ∃ q q', Quantity.ofChars? s = some q ∧ Quantity.ofChars? t = some q' ∧ q.number = q'.number ∧
        q.unit.map asciiLower = q'.unit.map asciiLower := by
  have hscan := h.ofChars?_eq
  cases hs : Quantity.ofChars? s with
  | none =>
    rw [hs, Option.map_none, eq_comm, Option.map_eq_none_iff] at hscan
    exact .inl ⟨rfl, hscan⟩
  | some q =>
    rw [hs, Option.map_some, eq_comm, Option.map_eq_some_iff] at hscan
    obtain ⟨q', ht, hlowered⟩ := hscan
    obtain ⟨hnumber, hunit⟩ := Quantity.mk.inj hlowered
    exact .inr ⟨q, q', rfl, ht, hnumber.symm, hunit.symm⟩

end Provisioning
