import Mathlib.Data.List.Basic
import Provisioning.Proofs.Template.Dominance

/-!
# What a template falls short of

The mismatches of a template against the question whether it qualifies. The two compare the amounts
the opposite ways round, so they can only disagree about amounts that cannot be compared.

## Main definitions

* `FallsShort`: a way in which a template does not meet a requirement
* `Mismatch.Precedes`: the order in which such ways are listed
* `ListsShortfalls`: a list of all of them, in this order

## Main results

* `listsShortfalls_mismatches`, `ListsShortfalls.eq_of_eq`: the mismatches are such a list, and there is
  one only
* `mismatches_tell`: what the mismatches say of a template, and whether it qualifies
-/

namespace Provisioning

open Binary64

/-- A template does not meet a requirement in the way that a mismatch says. -/
inductive FallsShort (c : Candidate) (r : Requirement) : Mismatch → Prop
  | architecture (hne : c.architecture ≠ r.architecture) :
      FallsShort c r (.architecture r.architecture c.architecture)
  | dimension {d : Dimension} (hlt : (c.resources.get d).lt (r.resources.get d) = true) :
      FallsShort c r (.dimension d (r.resources.get d) (c.resources.get d))

/-- The architecture comes before all dimensions, and these come in their order. -/
inductive Mismatch.Precedes : Mismatch → Mismatch → Prop
  | architecture (wanted offered : Architecture) (d : Dimension) (x y : Binary64) :
      Precedes (.architecture wanted offered) (.dimension d x y)
  | dimension {d e : Dimension} (x y x' y' : Binary64)
      (hlt : Dimension.all.idxOf d < Dimension.all.idxOf e) :
      Precedes (.dimension d x y) (.dimension e x' y')

/-- A list of all ways in which a template falls short, in their order. As the order is strict, each of
them is listed once. -/
structure ListsShortfalls (c : Candidate) (r : Requirement) (l : List Mismatch) : Prop where
  mem_iff : ∀ m, m ∈ l ↔ FallsShort c r m
  ordered : l.Pairwise Mismatch.Precedes

variable {c : Candidate} {r : Requirement} {l l' : List Mismatch} {m m' : Mismatch}

/-! ## The list -/

theorem Mismatch.Precedes.asymm (h : m.Precedes m') : ¬ m'.Precedes m := by
  intro h'
  cases h with
  | architecture => cases h'
  | dimension _ _ _ _ hlt =>
    cases h' with
    | dimension _ _ _ _ hlt' => exact Nat.lt_asymm hlt hlt'

theorem mem_mismatches : m ∈ mismatches c r ↔ FallsShort c r m := by
  simp only [mismatches, List.mem_append, List.mem_filterMap, Dimension.mem_all, true_and]
  constructor
  · rintro (h | ⟨d, h⟩)
    · split at h
      · cases h
      · next hne =>
        obtain rfl := List.mem_singleton.1 h
        exact .architecture hne
    · rw [mismatchIn?] at h
      split at h
      · next hlt =>
        obtain rfl := Option.some.inj h
        exact .dimension hlt
      · cases h
  · intro h
    cases h with
    | architecture hne => exact .inl (by simp [hne])
    | @dimension d hlt => exact .inr ⟨d, if_pos hlt⟩

theorem ordered_mismatches (c : Candidate) (r : Requirement) :
    (mismatches c r).Pairwise Mismatch.Precedes := by
  have hall : Dimension.all.Pairwise fun d e => Dimension.all.idxOf d < Dimension.all.idxOf e := by
    decide
  have hdimension : ∀ d m, mismatchIn? c r d = some m → ∃ x y, m = .dimension d x y := by
    intro d m h
    rw [mismatchIn?] at h
    split at h
    · exact ⟨_, _, (Option.some.inj h).symm⟩
    · cases h
  refine List.pairwise_append.2 ⟨?_, ?_, ?_⟩
  · split <;> simp
  · -- A dimension gives at most one mismatch, so these keep the order of the dimensions.
    refine List.pairwise_filterMap.2 (hall.imp ?_)
    intro d e hlt m hm m' hm'
    obtain ⟨x, y, rfl⟩ := hdimension d m hm
    obtain ⟨x', y', rfl⟩ := hdimension e m' hm'
    exact .dimension x y x' y' hlt
  · intro m hm m' hm'
    obtain ⟨d, -, hd⟩ := List.mem_filterMap.1 hm'
    obtain ⟨x, y, rfl⟩ := hdimension d m' hd
    split at hm
    · cases hm
    · obtain rfl := List.mem_singleton.1 hm
      exact .architecture _ _ d x y

theorem listsShortfalls_mismatches (c : Candidate) (r : Requirement) :
    ListsShortfalls c r (mismatches c r) :=
  ⟨fun _ => mem_mismatches, ordered_mismatches c r⟩

namespace ListsShortfalls

theorem nodup (h : ListsShortfalls c r l) : l.Nodup :=
  h.ordered.imp fun hm heq => (heq ▸ hm).asymm (heq ▸ hm)

/-- **There is one such list only.** -/
theorem eq_of_eq (h : ListsShortfalls c r l) (h' : ListsShortfalls c r l') : l = l' := by
  have hperm : l.Perm l' := by
    apply (List.perm_ext_iff_of_nodup h.nodup h'.nodup).2
    intro m
    rw [h.mem_iff, h'.mem_iff]
  exact hperm.eq_of_pairwise (fun _ _ _ _ hm hm' => absurd hm' hm.asymm) h.ordered h'.ordered

end ListsShortfalls

/-! ## The templates that qualify -/

/-- Amounts that are at least what is asked for are not less, also among numbers that cannot be
compared. -/
theorem mismatches_of_qualifies (hq : qualifies c r = true) : mismatches c r = [] := by
  obtain ⟨harchitecture, hle⟩ := qualifies_iff.1 hq
  rw [List.eq_nil_iff_forall_not_mem]
  intro m hm
  cases mem_mismatches.1 hm with
  | architecture hne => exact hne harchitecture
  | @dimension d hlt =>
    obtain ⟨-, -, hle⟩ := le_iff.1 (hle d)
    obtain ⟨-, -, hlt⟩ := lt_iff.1 hlt
    omega

theorem exists_isNaN (hnil : mismatches c r = []) (hq : qualifies c r = false) :
    ∃ d, (c.resources.get d).isNaN = true ∨ (r.resources.get d).isNaN = true := by
  by_contra hnone
  simp only [not_exists, not_or, Bool.not_eq_true] at hnone
  have hqualifies := (mismatches_eq_nil_iff (fun d => (hnone d).1) fun d => (hnone d).2).1 hnil
  rw [hq] at hqualifies
  cases hqualifies

/-- **The mismatches and the question whether a template qualifies tell one story.** The mismatches are
all ways in which the template falls short, in their order. There are none if it qualifies, and none
otherwise only if an amount is a NaN, which the checks of templates and requirements rule out. -/
theorem mismatches_tell (c : Candidate) (r : Requirement) :
    ListsShortfalls c r (mismatches c r) ∧
      (∀ l, ListsShortfalls c r l → l = mismatches c r) ∧
      (qualifies c r = true → mismatches c r = []) ∧
      (mismatches c r = [] → qualifies c r = false →
        ∃ d, (c.resources.get d).isNaN = true ∨ (r.resources.get d).isNaN = true) ∧
      (c.check = .ok () → r.check = .ok () → (qualifies c r = true ↔ mismatches c r = [])) := by
  have hlists := listsShortfalls_mismatches c r
  refine ⟨hlists, fun l hl => hl.eq_of_eq hlists, mismatches_of_qualifies, exists_isNaN, ?_⟩
  intro hc hr
  obtain ⟨-, hamounts, -⟩ := Candidate.check_eq_ok_iff.1 hc
  have hwanted := Requirement.check_eq_ok_iff.1 hr
  symm
  exact mismatches_eq_nil_iff (fun d => isNaN_of_isAmount (hamounts d))
    fun d => isNaN_of_isAmount (hwanted d)

/-- Much memory does not make up for a core. -/
theorem mismatches_tell_core_short :
    let c : Candidate := { id := "a", name := "A", resources := { cpuCores := 3, memory := .ofNat 512 } }
    let r : Requirement := { resources := { cpuCores := 4, memory := .ofNat 16 } }
    (c.check = .ok () ∧ r.check = .ok ()) ∧
      mismatches c r = [.dimension .cpuCores (.ofNat 4) (.ofNat 3)] ∧ qualifies c r = false := by
  intro c r
  have hc : c.check = .ok () := ok_of_toOption (by decide +kernel)
  have hr : r.check = .ok () := ok_of_toOption (by decide +kernel)
  have hmismatches : mismatches c r = [.dimension .cpuCores (.ofNat 4) (.ofNat 3)] := by
    decide +kernel
  obtain ⟨-, -, -, -, hiff⟩ := mismatches_tell c r
  refine ⟨⟨hc, hr⟩, hmismatches, Bool.eq_false_iff.2 fun hq => ?_⟩
  rw [(hiff hc hr).1 hq] at hmismatches
  cases hmismatches

-- Without the checks, a template may fail for no reason that is listed.
example :
    let c : Candidate := { id := "a", name := "A", resources := { memory := .nan } }
    qualifies c {} = false ∧ mismatches c {} = [] := by
  decide +kernel

end Provisioning
