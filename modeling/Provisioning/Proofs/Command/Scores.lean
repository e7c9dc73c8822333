import Provisioning.Proofs.Command.Pricing
import Provisioning.Proofs.Command.Select
import Provisioning.Proofs.Template.Dominance
import Provisioning.Proofs.Template.Prices

/-!
# Scores of checked input

The checks of catalogs, requirements and settings are in different places, and no scorer checks
anything itself. Together they leave no score that is a NaN or below zero, by overage or by price, so
the total order of a ranking is the order of the numbers.

## Main results

* `SelectArguments.zero_le_of_mem_ranking`: the scores of a ranking are numbers and not negative
-/

namespace Provisioning

open Binary64

variable {c : Candidate} {p : Pricing} {r : Requirement} {s : Settings} {w : Weights}
  {x price : Binary64}

/-! ## Prices -/

/-- Hours and weights are amounts as well. -/
theorem isAmount_of_isHours (h : isHours x = true) : x.isAmount = true := by
  obtain ⟨hfinite, hpos⟩ := Bool.and_eq_true_iff.1 h
  exact isAmount_iff.2 ⟨hfinite, Binary64.le_of_lt hpos⟩

theorem isAmount_of_isWeight (h : isWeight x = true) : x.isAmount = true :=
  isAmount_iff.2 (Bool.and_eq_true_iff.1 h)

/-- A listed price is an amount, and the price of an hour times the hours of a month is not below
zero. -/
theorem Pricing.zero_le_of_effectivePrice (hprices : ∀ price ∈ c.prices, price.isAmount = true)
    (hhours : p.hoursPerMonth.isAmount = true) (h : p.effectivePrice c = some price) :
    zero.le price = true := by
  have hhourly (x : Binary64) (hx : c.hourlyPrice = some x) : x.isAmount = true :=
    hprices x (List.mem_append_left _ (Option.mem_toList.2 hx))
  have hmonthly (x : Binary64) (hx : x ∈ c.monthlyPrices.values) : zero.le x = true :=
    (isAmount_iff.1 (hprices x (List.mem_append_right _ hx))).2
  unfold effectivePrice at h
  split at h
  · exact (isAmount_iff.1 (hhourly price h)).2
  · split at h
    · next hlisted =>
      obtain rfl := Option.some.inj h
      exact hmonthly _ (List.mem_map_of_mem (Entries.mem_of_get? hlisted))
    · split at h
      · next hleast =>
        obtain rfl := Option.some.inj h
        exact hmonthly _ (mem_of_leastOf hleast)
      · obtain ⟨x, hx, rfl⟩ := Option.map_eq_some_iff.1 h
        obtain ⟨hfinite, hpos⟩ := isAmount_iff.1 (hhourly x hx)
        obtain ⟨hfinite', hpos'⟩ := isAmount_iff.1 hhours
        exact zero_le_mul hfinite hpos hfinite' hpos'

theorem Pricing.zero_le_scorer (hprices : ∀ price ∈ c.prices, price.isAmount = true)
    (hhours : p.hoursPerMonth.isAmount = true) : zero.le (p.scorer c r) = true := by
  unfold scorer
  cases h : p.effectivePrice c with
  | none => rfl
  | some price => exact zero_le_of_effectivePrice hprices hhours h

/-! ## Scores -/

namespace SelectArguments

variable {a : SelectArguments} {catalog : List Candidate} {score : Scorer} {text : String}

/-- The hours of a pricing are checked, whatever the commitment is. -/
theorem isHours_of_pricing (h : a.pricing s = .ok p) : isHours p.hoursPerMonth = true :=
  (pricing_eq_ok_iff.1 h).2.2.2

/-- **A ranking by checked settings, of a checked catalog for a checked requirement, has no score
that is a NaN or below zero.** It may have infinite ones. -/
theorem zero_le_of_mem_ranking (hcatalog : readCatalog text = .ok catalog) (hr : r.check = .ok ())
    (hscore : a.scorer? s = .ok score) :
    ∀ x ∈ ranking catalog r score, x.score.isNaN = false ∧ x.score.lt .zero = false := by
  intro x hx
  suffices hzero : zero.le x.score = true by
    obtain ⟨-, hnan, -⟩ := le_iff.1 hzero
    exact ⟨hnan, by rw [lt_eq_not_le hnan rfl, hzero, Bool.not_true]⟩
  obtain ⟨hmem, hq, hxscore⟩ := mem_ranking hx
  obtain ⟨-, hamounts, hprices⟩ :=
    Candidate.check_eq_ok_iff.1 ((readCatalog_eq_ok_iff.1 hcatalog).2 _ hmem)
  rw [hxscore]
  -- The need is only subtracted by the one scorer, and the hours are only asked for by the other.
  unfold scorer? at hscore
  split at hscore
  · obtain ⟨w, hw, rfl⟩ := map_eq_ok.1 hscore
    have hweights (d : Dimension) : (w.get d).isAmount = true :=
      isAmount_of_isWeight (Settings.isWeight_of_scoreWeights hw d)
    exact (overageScorer_le hweights (Requirement.check_eq_ok_iff.1 hr) hamounts hamounts
      (qualifies_iff.1 hq).2 (.refl hamounts)).1
  · obtain ⟨p, hp, rfl⟩ := map_eq_ok.1 hscore
    exact Pricing.zero_le_scorer hprices (isAmount_of_isHours (isHours_of_pricing hp))

/-- Much memory of much weight is an infinite overage. -/
theorem zero_le_of_mem_ranking_infinite :
    let c : Candidate := { id := "a", name := "A", resources := { memory := .ofNat (10 ^ 200) } }
    let r : Requirement := {}
    let s : Settings := { weights := some (.ofList [("memory_gb", .ofNat (10 ^ 200))]) }
    let score := overageScorer (Weights.default.set .memory (.ofNat (10 ^ 200)))
    (readCatalog "[\x7b\"id\":\"a\",\"name\":\"A\",\"memory_gb\":1e200\x7d]" = .ok [c] ∧
        r.check = .ok () ∧ coreArguments.scorer? s = .ok score) ∧
      ranking [c] r score = [⟨c, .infinity⟩] ∧
      Binary64.infinity.isNaN = false ∧ Binary64.infinity.lt .zero = false := by
  intro c r s score
  have hcatalog : readCatalog "[\x7b\"id\":\"a\",\"name\":\"A\",\"memory_gb\":1e200\x7d]" =
      .ok [c] := ok_of_toOption (by decide +kernel)
  have hr : r.check = .ok () := ok_of_toOption (by decide +kernel)
  have hweights : s.scoreWeights = .ok (Weights.default.set .memory (.ofNat (10 ^ 200))) :=
    ok_of_toOption (by decide +kernel)
  have hscore : coreArguments.scorer? s = .ok score := by
    have hscorer : coreArguments.scorer = .overage := rfl
    rw [scorer?, hscorer]
    exact map_eq_ok.2 ⟨_, hweights, rfl⟩
  have hranking : ranking [c] r score = [⟨c, .infinity⟩] := by decide +kernel
  have hmem : ⟨c, .infinity⟩ ∈ ranking [c] r score := by
    rw [hranking]
    exact List.mem_singleton_self _
  exact ⟨⟨hcatalog, hr, hscore⟩, hranking, zero_le_of_mem_ranking hcatalog hr hscore _ hmem⟩

end SelectArguments

end Provisioning
