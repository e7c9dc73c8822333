import Provisioning.Proofs.Data.Except
import Provisioning.Proofs.Number.TotalOrder
import Provisioning.Template.Mismatch
import Provisioning.Template.Reading

/-!
# What checks leave

A template or a requirement that is not refused has amounts only: numbers that are finite and not below
zero. Amounts can be compared, so a template that has not enough of a resource has less of it than is
asked for, and each template that does not qualify has a mismatch.

## Main results

* `Candidate.check_eq_ok_iff`, `Requirement.check_eq_ok_iff`: what is not refused
* `readCatalog_eq_ok_iff`: the catalogs that are read are those of which no template is refused
* `mismatches_eq_nil_iff`: templates without mismatches qualify, and no others
-/

namespace Provisioning

variable {c : Candidate} {r : Requirement} {catalog : List Candidate} {text : String}

theorem Binary64.isNaN_of_isAmount {x : Binary64} (h : x.isAmount = true) : x.isNaN = false :=
  isNaN_of_isFinite (Bool.and_eq_true_iff.1 h).1

/-- An amount is finite and not below zero. -/
theorem Binary64.isAmount_iff {x : Binary64} :
    x.isAmount = true ↔ x.isFinite = true ∧ zero.le x = true := by
  rw [isAmount, Bool.and_eq_true]
  refine and_congr_right fun h => ?_
  rw [lt_eq_not_le (isNaN_of_isFinite h) rfl, Bool.not_not]

/-! ## Checks -/

theorem Resources.fault?_eq_none_iff {r : Resources} :
    r.fault? = none ↔ ∀ d, (r.get d).isAmount = true := by
  rw [fault?, List.find?_eq_none]
  simp only [Dimension.mem_all, Bool.not_eq_true', Bool.not_eq_false, true_imp_iff]

theorem Requirement.check_eq_ok_iff :
    r.check = .ok () ↔ ∀ d, (r.resources.get d).isAmount = true := by
  -- Unfolded at a requirement, the check would be evaluated down to the powers of two of an amount.
  suffices h : ∀ f, f = check → (f r = .ok () ↔ r.resources.fault? = none) from
    (h check rfl).trans Resources.fault?_eq_none_iff
  delta check
  rintro _ rfl
  dsimp only
  cases r.resources.fault? <;> simp

/-- A template is not refused if its id is not blank and all that it has and costs are amounts. -/
theorem Candidate.check_eq_ok_iff :
    c.check = .ok () ↔ Text.trim c.id ≠ "" ∧ (∀ d, (c.resources.get d).isAmount = true) ∧
      ∀ price ∈ c.prices, price.isAmount = true := by
  have hprices : (c.prices.find? fun price => !price.isAmount) = none ↔
      ∀ price ∈ c.prices, price.isAmount = true := by
    rw [List.find?_eq_none]
    simp
  rw [check, ← Resources.fault?_eq_none_iff, ← hprices]
  split
  · next hid => simp [hid]
  · next hid =>
    cases c.resources.fault? with
    | some d => simp
    | none => cases c.prices.find? fun price => !price.isAmount <;> simp [hid]

theorem checkAll_eq_ok_iff : checkAll catalog = .ok () ↔ ∀ c ∈ catalog, c.check = .ok () := by
  induction catalog with
  | nil => simp [checkAll]
  | cons c catalog ih =>
    rw [checkAll, List.forall_mem_cons, ← ih]
    cases c.check <;> simp

/-- The catalogs that are read are those of which no template is refused. -/
theorem readCatalog_eq_ok_iff :
    readCatalog text = .ok catalog ↔
      Json.readAll (candidatesReader Json.depthLimit) text = .ok catalog ∧
        ∀ c ∈ catalog, c.check = .ok () := by
  rw [readCatalog]
  cases Json.readAll (candidatesReader Json.depthLimit) text with
  | error e => simp
  | ok found =>
    rw [Except.ok.injEq, map_eq_ok]
    constructor
    · rintro ⟨_, hcheck, rfl⟩
      exact ⟨rfl, checkAll_eq_ok_iff.1 hcheck⟩
    · rintro ⟨rfl, hcheck⟩
      exact ⟨(), checkAll_eq_ok_iff.2 hcheck, rfl⟩

/-! ## Mismatches -/

theorem mismatchIn?_eq_none_iff {d : Dimension} :
    mismatchIn? c r d = none ↔ (c.resources.get d).lt (r.resources.get d) = false := by
  rw [mismatchIn?]
  cases (c.resources.get d).lt (r.resources.get d) <;> simp

/-- **The templates without mismatches are those that qualify**, provided that all amounts can be
compared. -/
theorem mismatches_eq_nil_iff (hc : ∀ d, (c.resources.get d).isNaN = false)
    (hr : ∀ d, (r.resources.get d).isNaN = false) :
    mismatches c r = [] ↔ qualifies c r = true := by
  have harchitecture : (if c.architecture = r.architecture then []
      else [Mismatch.architecture r.architecture c.architecture]) = [] ↔
      (c.architecture == r.architecture) = true := by
    split <;> simp [*]
  -- Less is the contrary of at least only between numbers that can be compared.
  have hdimensions : Dimension.all.filterMap (mismatchIn? c r) = [] ↔
      (Dimension.all.all fun d => (r.resources.get d).le (c.resources.get d)) = true := by
    rw [List.filterMap_eq_nil_iff, List.all_eq_true]
    refine forall₂_congr fun d _ => ?_
    rw [mismatchIn?_eq_none_iff, Binary64.lt_eq_not_le (hc d) (hr d), Bool.not_eq_false']
  rw [mismatches, List.append_eq_nil_iff, harchitecture, hdimensions, qualifies, Bool.and_eq_true]

end Provisioning
