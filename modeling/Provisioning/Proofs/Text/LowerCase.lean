import Provisioning.Proofs.Text.Trimming
import Provisioning.Text.LowerCase

/-!
# Lower-case texts

A text in lower case is left as it is when it is lower-cased again. A character is blank just when its
lower-case form is, so that a text without blanks at its ends stays one.

## Main definitions

* `IsLowered c`: lower-casing leaves the character
* `inRun`, `keepsOff`: a code point is in a run, and none of an arithmetic progression is

## Main results

* `toLower_toLower`: lower-casing twice is lower-casing once
* `trim_toLower_trim`: a trimmed text is trimmed in lower case too
-/

namespace Provisioning.Text

variable {before s : List Char} {c : Char}

/-! ## Single characters -/

/-- Lower-casing leaves the character, wherever it stands. -/
def IsLowered (c : Char) : Prop := c ≠ 'Σ' ∧ lowerChar c = [c]

/-- Whether a run holds a code point. -/
def inRun (run : Nat × Nat × Nat × Int) (n : Nat) : Bool :=
  run.1 ≤ n && n ≤ run.2.1 && (n - run.1) % run.2.2.1 == 0

/-- Runs that hold all blank characters. -/
def blankBounds : List (Nat × Nat × Nat × Int) :=
  [(0x9, 0x20, 1, 0), (0x85, 0xA0, 1, 0), (0x1680, 0x1680, 1, 0), (0x2000, 0x205F, 1, 0),
    (0x3000, 0x3000, 1, 0)]

/-- Whether none of the code points from `first` to `last`, `step` by `step`, is in a run: all lie on
one side of it, or between its own. -/
def keepsOff (first last step : Nat) (run : Nat × Nat × Nat × Int) : Bool :=
  Nat.blt last run.1 || Nat.blt run.2.1 first ||
    ((first == last || step % 2 == 0) && run.2.2.1 % 2 == 0 && first % 2 != run.1 % 2)

/-- Whether neither the letters of a run nor their lower-case forms are blank, and these are no capital
letters. -/
def isSettledRun (run : Nat × Nat × Nat × Int) : Bool :=
  let first := Int.toNat (run.1 + run.2.2.2)
  let last := Int.toNat (run.2.1 + run.2.2.2)
  decide (0 ≤ run.1 + run.2.2.2) &&
    (Nat.blt last 0xD800 || Nat.blt 0xDFFF first && Nat.blt last 0x110000) &&
    blankBounds.all (keepsOff run.1 run.2.1 run.2.2.1) &&
    blankBounds.all (keepsOff first last run.2.2.1) &&
    ((0x130, 0x130, 1, 0) :: lowerRuns).all (keepsOff first last run.2.2.1)

theorem isSettledRun_of_mem : ∀ run ∈ lowerRuns, isSettledRun run = true := by
  decide +kernel

theorem inRun_iff {run : Nat × Nat × Nat × Int} {n : Nat} : inRun run n = true ↔
    run.1 ≤ n ∧ n ≤ run.2.1 ∧ ∃ k, n = run.1 + k * run.2.2.1 := by
  unfold inRun
  simp only [Bool.and_eq_true, decide_eq_true_eq, beq_iff_eq, and_assoc]
  refine and_congr_right fun hfirst => and_congr_right fun _ => ⟨fun hstep => ?_, ?_⟩
  · refine ⟨(n - run.1) / run.2.2.1, ?_⟩
    rw [Nat.div_mul_cancel (Nat.dvd_of_mod_eq_zero hstep)]
    omega
  · rintro ⟨k, rfl⟩
    rw [Nat.add_sub_cancel_left, Nat.mul_mod_left]

/-- A code point of some that keep off a run is not in it. -/
theorem inRun_eq_false {first last step k : Nat} {run : Nat × Nat × Nat × Int}
    (h : keepsOff first last step run = true) (hlast : first + k * step ≤ last) :
    inRun run (first + k * step) = false := by
  rw [Bool.eq_false_iff]
  intro hin
  obtain ⟨hle, hge, j, hj⟩ := inRun_iff.1 hin
  unfold keepsOff at h
  simp only [Bool.or_eq_true, Bool.and_eq_true, Nat.blt_eq, beq_iff_eq, bne_iff_ne] at h
  rcases h with (h | h) | ⟨⟨hstep, hrun⟩, hparity⟩
  · omega
  · omega
  · -- The two sides of the equation are odd and even.
    have hjmod : j * run.2.2.1 % 2 = 0 := by rw [Nat.mul_mod, hrun, Nat.mul_zero]
    have hkmod : k * step % 2 = 0 ∨ k * step = 0 := by
      rcases hstep with heq | hstep
      · omega
      · left
        rw [Nat.mul_mod, hstep, Nat.mul_zero]
    omega

/-- A blank character is in one of the runs of blanks. -/
theorem exists_inRun_of_isBlank (h : isBlank c = true) :
    ∃ run ∈ blankBounds, inRun run c.toNat = true := by
  unfold isBlank at h
  unfold blankBounds inRun
  simp only [Bool.or_eq_true, Bool.and_eq_true, decide_eq_true_eq, beq_iff_eq] at h
  simp only [List.exists_mem_cons_iff, List.not_mem_nil, false_and, exists_false, or_false, Nat.mod_one,
    beq_self_eq_true, Bool.and_eq_true, decide_eq_true_eq, and_true]
  omega

theorem isBlank_eq_false (h : ∀ run ∈ blankBounds, inRun run c.toNat = false) : isBlank c = false := by
  rw [Bool.eq_false_iff]
  intro hblank
  obtain ⟨run, hrun, hin⟩ := exists_inRun_of_isBlank hblank
  exact Bool.false_ne_true ((h run hrun).symm.trans hin)

theorem toNat_ofNat {n : Nat} (h : n.isValidChar) : (Char.ofNat n).toNat = n := by
  unfold Char.ofNat
  rw [dif_pos h]
  rfl

/-- A character that no run of capital letters holds. -/
theorem isLowered_of_runs (hdotted : c.toNat ≠ 0x130)
    (hruns : ∀ run ∈ lowerRuns, inRun run c.toNat = false) : IsLowered c := by
  constructor
  · rintro rfl
    exact Bool.false_ne_true ((hruns (0x3A3, 0x3AB, 1, 32) (by decide)).symm.trans (by decide))
  · have hnone : lowerRuns.find? (inRun · c.toNat) = none :=
      List.find?_eq_none.2 fun run hrun => Bool.eq_false_iff.1 (hruns run hrun)
    unfold lowerChar
    rw [if_neg hdotted]
    split
    · next heq => cases hnone.symm.trans heq
    · rfl

/-- The lower-case form of a letter of a run is no capital letter, and neither of the two is blank. -/
theorem isLowered_shift {run : Nat × Nat × Nat × Int} (hrun : run ∈ lowerRuns)
    (hc : inRun run c.toNat = true) :
    isBlank c = false ∧ IsLowered (Char.ofNat (Int.toNat (c.toNat + run.2.2.2))) ∧
      isBlank (Char.ofNat (Int.toNat (c.toNat + run.2.2.2))) = false := by
  have h := isSettledRun_of_mem run hrun
  unfold isSettledRun at h
  simp only [Bool.and_eq_true, Bool.or_eq_true, decide_eq_true_eq, Nat.blt_eq, List.all_eq_true,
    List.forall_mem_cons] at h
  obtain ⟨⟨⟨⟨hpos, hvalid⟩, hblank⟩, hblank'⟩, hdotted, hruns⟩ := h
  obtain ⟨-, hlast, k, hk⟩ := inRun_iff.1 hc
  -- The forms of the letters of a run are a run themselves, with the same steps.
  have hform : Int.toNat (c.toNat + run.2.2.2) =
      Int.toNat (run.1 + run.2.2.2) + k * run.2.2.1 := by omega
  have hle : Int.toNat (run.1 + run.2.2.2) + k * run.2.2.1 ≤ Int.toNat (run.2.1 + run.2.2.2) := by
    omega
  have hn : (Char.ofNat (Int.toNat (c.toNat + run.2.2.2))).toNat =
      Int.toNat (run.1 + run.2.2.2) + k * run.2.2.1 := by
    rw [hform, toNat_ofNat]
    unfold Nat.isValidChar
    omega
  refine ⟨isBlank_eq_false fun r hr => ?_, isLowered_of_runs ?_ fun r hr => ?_,
    isBlank_eq_false fun r hr => ?_⟩
  · rw [hk]
    exact inRun_eq_false (hblank r hr) (by omega)
  · intro heq
    have hoff := inRun_eq_false hdotted hle
    rw [← hn, heq] at hoff
    cases hoff
  · rw [hn]
    exact inRun_eq_false (hruns r hr) hle
  · rw [hn]
    exact inRun_eq_false (hblank' r hr) hle

/-- The lower-case form of a character is made of such that lower-casing leaves, blank if it was. -/
theorem of_mem_lowerChar (c : Char) :
    ∀ d ∈ lowerChar c, IsLowered d ∧ isBlank d = isBlank c := by
  by_cases hdotted : c.toNat = 0x130
  · have hself : lowerChar c = ['i', Char.ofNat 0x307] := if_pos hdotted
    have hblank : isBlank c = false := by
      unfold isBlank
      rw [hdotted]
      rfl
    rw [hself, hblank]
    exact List.forall_mem_cons.2 ⟨⟨isLowered_of_runs (by decide) (by decide +kernel), rfl⟩,
      List.forall_mem_singleton.2 ⟨isLowered_of_runs (by decide) (by decide +kernel), rfl⟩⟩
  cases hfind : lowerRuns.find? (inRun · c.toNat) with
  | none =>
    have hlowered : IsLowered c := isLowered_of_runs hdotted fun run hrun =>
      Bool.eq_false_iff.2 (List.find?_eq_none.1 hfind run hrun)
    rw [hlowered.2]
    exact List.forall_mem_singleton.2 ⟨hlowered, rfl⟩
  | some run =>
    have hself : lowerChar c = [Char.ofNat (Int.toNat (c.toNat + run.2.2.2))] := by
      unfold lowerChar
      rw [if_neg hdotted]
      split
      · next heq =>
        cases hfind.symm.trans heq
        rfl
      · next heq => cases hfind.symm.trans heq
    have hin : inRun run c.toNat = true := by simpa using List.find?_some hfind
    obtain ⟨hblank, hlowered, hblank'⟩ := isLowered_shift (List.mem_of_find?_eq_some hfind) hin
    rw [hself, hblank]
    exact List.forall_mem_singleton.2 ⟨hlowered, hblank'⟩

theorem lowerChar_ne_nil (c : Char) : lowerChar c ≠ [] := by
  unfold lowerChar
  split
  · exact List.cons_ne_nil _ _
  · split <;> exact List.cons_ne_nil _ _

/-! ## Texts -/

/-- The first character of a text becomes at least one, each of which lower-casing leaves. -/
theorem exists_lowerAfter_cons (before : List Char) (c : Char) (s : List Char) :
    ∃ ds, ds ≠ [] ∧ lowerAfter before (c :: s) = ds ++ lowerAfter (c :: before) s ∧
      ∀ d ∈ ds, IsLowered d ∧ isBlank d = isBlank c := by
  rw [lowerAfter]
  -- Only a capital sigma depends on where it stands: both its forms are small letters.
  refine ⟨_, ?_, rfl, ?_⟩
  · split
    · exact List.cons_ne_nil _ _
    · exact lowerChar_ne_nil c
  · split
    · next hsigma =>
      have hblank : isBlank c = false := by rw [hsigma]; rfl
      rw [hblank]
      refine List.forall_mem_singleton.2 ?_
      split
      · exact ⟨isLowered_of_runs (by decide) (by decide +kernel), rfl⟩
      · exact ⟨isLowered_of_runs (by decide) (by decide +kernel), rfl⟩
    · exact of_mem_lowerChar c

theorem isLowered_of_mem_lowerAfter {d : Char} (hd : d ∈ lowerAfter before s) : IsLowered d := by
  induction s generalizing before with
  | nil => cases hd
  | cons c s ih =>
    obtain ⟨ds, -, heq, hds⟩ := exists_lowerAfter_cons before c s
    rw [heq, List.mem_append] at hd
    rcases hd with hd | hd
    · exact (hds d hd).1
    · exact ih hd

theorem lowerAfter_of_isLowered (h : ∀ c ∈ s, IsLowered c) : lowerAfter before s = s := by
  induction s generalizing before with
  | nil => rfl
  | cons c s ih =>
    obtain ⟨hsigma, hself⟩ := h c List.mem_cons_self
    rw [lowerAfter, if_neg hsigma, hself, ih fun d hd => h d (List.mem_cons_of_mem c hd),
      List.singleton_append]

/-- **Lower-casing twice is lower-casing once.** -/
theorem toLower_toLower (s : String) : toLower (toLower s) = toLower s := by
  unfold toLower
  rw [String.toList_ofList, lowerAfter_of_isLowered fun _ => isLowered_of_mem_lowerAfter]

/-! ## Blanks at the ends -/

theorem lowerAfter_ne_nil (hs : s ≠ []) : lowerAfter before s ≠ [] := by
  obtain ⟨c, s, rfl⟩ := List.exists_cons_of_ne_nil hs
  obtain ⟨ds, hne, heq, -⟩ := exists_lowerAfter_cons before c s
  rw [heq]
  exact List.append_ne_nil_of_left_ne_nil hne _

/-- The last character of a text in lower case comes from the last one of the text. -/
theorem exists_getLast?_of_lowerAfter {d : Char} (hd : d ∈ (lowerAfter before s).getLast?) :
    ∃ c ∈ s.getLast?, isBlank d = isBlank c := by
  induction s generalizing before with
  | nil => cases hd
  | cons c s ih =>
    obtain ⟨ds, -, heq, hds⟩ := exists_lowerAfter_cons before c s
    rw [heq] at hd
    -- The last character of the whole is that of the rest, unless nothing is left.
    rcases eq_or_ne s [] with rfl | hs
    · rw [lowerAfter, List.append_nil] at hd
      exact ⟨c, rfl, (hds d (List.mem_of_getLast? hd)).2⟩
    · rw [List.getLast?_append_of_ne_nil _ (lowerAfter_ne_nil hs)] at hd
      obtain ⟨c', hc', hblank⟩ := ih hd
      refine ⟨c', ?_, hblank⟩
      rwa [List.getLast?_cons_of_ne_nil hs]

theorem IsTrimmed.lowerAfter (h : IsTrimmed s) : IsTrimmed (lowerAfter before s) := by
  refine ⟨fun d hd => ?_, fun d hd => ?_⟩
  · cases s with
    | nil => cases hd
    | cons c s =>
      obtain ⟨ds, hne, heq, hds⟩ := exists_lowerAfter_cons before c s
      obtain ⟨e, ds, rfl⟩ := List.exists_cons_of_ne_nil hne
      rw [heq, List.cons_append, List.head?_cons] at hd
      obtain rfl := Option.some.inj hd
      rw [(hds e List.mem_cons_self).2]
      exact h.1 c rfl
  · obtain ⟨c, hc, hblank⟩ := exists_getLast?_of_lowerAfter hd
    rw [hblank]
    exact h.2 c hc

/-- **A trimmed text is trimmed in lower case too.** -/
theorem trim_toLower_trim (s : String) : trim (toLower (trim s)) = toLower (trim s) := by
  unfold trim toLower
  rw [String.toList_ofList, String.toList_ofList,
    trimChars_of_isTrimmed (isTrimmed_trimChars s.toList).lowerAfter]

end Provisioning.Text
