import Mathlib.Data.List.DropRight
import Provisioning.Proofs.Text.Digits
import Provisioning.Text.Blank

/-!
# Trimmed texts

Trimming a text cuts it into blanks, a text whose ends are not blank, and blanks again. There is one
such cut only, so a text is what is left of it whatever blanks are put around it.

## Main results

* `isTrimmed_trimChars`, `trimChars_of_isTrimmed`: trimming leaves the trimmed texts
* `trimChars_eq_iff`: what trimming leaves, as a cut of the text
* `trim_of_no_blank`, `trim_toString`: a text without blanks is left alone, and so are digits
-/

namespace Provisioning.Text

variable {s t before after : List Char}

theorem isTrimmed_trimChars (s : List Char) : IsTrimmed (trimChars s) := by
  have hend : dropBlankEnd (s.dropWhile isBlank) = (s.dropWhile isBlank).rdropWhile isBlank := rfl
  refine ⟨fun c hc => ?_, fun c hc => ?_⟩
  · unfold trimChars at hc
    rw [hend] at hc
    -- The blanks at the end are cut off a text that starts with none.
    obtain ⟨t, ht⟩ := List.rdropWhile_prefix isBlank (s.dropWhile isBlank)
    have hhead : c ∈ (s.dropWhile isBlank).head? := by
      rw [← ht, List.head?_append, Option.mem_def.1 hc]
      rfl
    have hnot := List.head?_dropWhile_not isBlank s
    rw [Option.mem_def.1 hhead] at hnot
    exact hnot
  · unfold trimChars at hc
    rw [hend] at hc
    obtain ⟨hne, rfl⟩ := List.mem_getLast?_eq_getLast hc
    exact Bool.eq_false_iff.2 (List.rdropWhile_last_not _ _ hne)

theorem trimChars_of_isTrimmed (h : IsTrimmed s) : trimChars s = s := by
  have hstart : s.dropWhile isBlank = s := by
    cases s with
    | nil => rfl
    | cons c s => rw [List.dropWhile_cons, h.1 c rfl, if_neg Bool.false_ne_true]
  have hend : s.rdropWhile isBlank = s := by
    refine List.rdropWhile_eq_self_iff.2 fun hne => ?_
    exact Bool.eq_false_iff.1 (h.2 _ (List.getLast?_eq_some_getLast hne))
  unfold trimChars
  rw [hstart]
  exact hend

theorem trimChars_append (hbefore : ∀ c ∈ before, isBlank c = true)
    (hafter : ∀ c ∈ after, isBlank c = true) : trimChars (before ++ (s ++ after)) = trimChars s := by
  have hend : ∀ s : List Char, dropBlankEnd (s ++ after) = dropBlankEnd s := by
    intro s
    unfold dropBlankEnd
    rw [List.reverse_append, List.dropWhile_append_of_pos fun c hc => hafter c (List.mem_reverse.1 hc)]
  unfold trimChars
  rw [List.dropWhile_append_of_pos hbefore, List.dropWhile_append]
  split
  · next hempty =>
    -- A blank text goes altogether.
    rw [List.isEmpty_iff.1 hempty, List.dropWhile_eq_nil_iff.2 hafter]
  · exact hend _

theorem exists_eq_append_trimChars (s : List Char) : ∃ before after, s = before ++ (trimChars s ++ after) ∧
    (∀ c ∈ before, isBlank c = true) ∧ ∀ c ∈ after, isBlank c = true := by
  have hend : dropBlankEnd (s.dropWhile isBlank) ++ (s.dropWhile isBlank).rtakeWhile isBlank =
      s.dropWhile isBlank := by
    unfold dropBlankEnd List.rtakeWhile
    rw [← List.reverse_append, List.takeWhile_append_dropWhile, List.reverse_reverse]
  refine ⟨s.takeWhile isBlank, (s.dropWhile isBlank).rtakeWhile isBlank, ?_,
    fun c hc => List.mem_takeWhile_imp hc, fun c hc => List.mem_rtakeWhile_imp hc⟩
  unfold trimChars
  rw [hend, List.takeWhile_append_dropWhile]

/-- **Trimming a text leaves the one trimmed text that it is with blanks around it.** -/
theorem trimChars_eq_iff : trimChars s = t ↔ IsTrimmed t ∧ ∃ before after, s = before ++ (t ++ after) ∧
    (∀ c ∈ before, isBlank c = true) ∧ ∀ c ∈ after, isBlank c = true := by
  constructor
  · rintro rfl
    exact ⟨isTrimmed_trimChars s, exists_eq_append_trimChars s⟩
  · rintro ⟨ht, before, after, rfl, hbefore, hafter⟩
    rw [trimChars_append hbefore hafter, trimChars_of_isTrimmed ht]

/-! ## Texts without blanks -/

theorem isBlank_of_isAsciiDigit {c : Char} (h : isAsciiDigit c = true) : isBlank c = false := by
  have hc := toNat_of_isAsciiDigit h
  simp only [isBlank, Bool.or_eq_false_iff, Bool.and_eq_false_iff, decide_eq_false_iff_not,
    beq_eq_false_iff_ne]
  omega

theorem trim_of_no_blank {text : String} (h : ∀ c ∈ text.toList, isBlank c = false) :
    trim text = text := by
  have htrimmed : IsTrimmed text.toList :=
    ⟨fun c hc => h c (List.mem_of_mem_head? hc), fun c hc => h c (List.mem_of_mem_getLast? hc)⟩
  rw [trim, trimChars_of_isTrimmed htrimmed, String.ofList_toList]

theorem trim_toString (n : Nat) : trim (toString n) = toString n := by
  refine trim_of_no_blank fun c hc => ?_
  rw [Nat.toString_eq_ofList_toDigits, String.toList_ofList] at hc
  exact isBlank_of_isAsciiDigit (isAsciiDigit_of_mem_toDigits hc)

theorem isBlankText_ofList :
    isBlankText (String.ofList s) = true ↔ ∀ c ∈ s, isBlank c = true := by
  rw [isBlankText, String.toList_ofList, List.all_eq_true]

end Provisioning.Text
