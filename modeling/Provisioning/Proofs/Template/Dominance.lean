import Provisioning.Proofs.Number.Arithmetic
import Provisioning.Proofs.Template.Checks
import Provisioning.Proofs.Template.Order

/-!
# Amounts compared resource by resource

What asks for no more of any resource is met by no fewer templates, and what has no more of any
resource beyond the need scores no worse. Both are facts about the order of the amounts in each
dimension, which the comparisons, the arithmetic of the scores and the sort of the ranking keep.

## Main definitions

* `Resources.AtMost`: amounts are at most other amounts, in each dimension
* `Scorer.IgnoresRequirement`: a score depends on the template only

## Main results

* `qualifies_iff`: templates qualify that have at least what is asked for
* `ranking_of_atMost`: a requirement that asks for no more only adds templates to a ranking
* `overage_of_atMost`: a template that has no more of anything is not ranked behind by its overage
-/

namespace Provisioning

open Binary64

/-- Amounts are at most other amounts, in each dimension. -/
def Resources.AtMost (a b : Resources) : Prop := ∀ d, (a.get d).le (b.get d) = true

/-- A score depends on the template only. -/
def Scorer.IgnoresRequirement (score : Scorer) : Prop := ∀ c r r', score c r = score c r'

variable {catalog : List Candidate} {r r' : Requirement} {c c' : Candidate} {w : Weights}

theorem Resources.AtMost.refl {a : Resources} (h : ∀ d, (a.get d).isAmount = true) : a.AtMost a :=
  fun d => Binary64.le_refl (isNaN_of_isAmount (h d))

theorem Resources.AtMost.trans {a b e : Resources} (hab : a.AtMost b) (hbe : b.AtMost e) :
    a.AtMost e :=
  fun d => Binary64.le_trans (hab d) (hbe d)

/-- The templates that qualify have the architecture and at least what is asked for. -/
theorem qualifies_iff :
    qualifies c r = true ↔ c.architecture = r.architecture ∧ r.resources.AtMost c.resources := by
  rw [qualifies, Bool.and_eq_true, beq_iff_eq, List.all_eq_true]
  exact and_congr_right fun _ => ⟨fun h d => h d (Dimension.mem_all d), fun h d _ => h d⟩

/-! ## Requirements -/

theorem qualifies_of_atMost (harchitecture : r.architecture = r'.architecture)
    (hle : r'.resources.AtMost r.resources) (hq : qualifies c r = true) :
    qualifies c r' = true := by
  obtain ⟨h, hr⟩ := qualifies_iff.1 hq
  exact qualifies_iff.2 ⟨h.trans harchitecture, hle.trans hr⟩

/-- **A requirement that asks for no more is met by no fewer templates**, and a score that ignores
the requirement ranks those that met the first one as before, among themselves. The price is such a
score, whatever the commitment and the hours of a month are. -/
theorem ranking_of_atMost (harchitecture : r.architecture = r'.architecture)
    (hle : r'.resources.AtMost r.resources) :
    (∀ c, qualifies c r = true → qualifies c r' = true) ∧
      (∀ score : Scorer, score.IgnoresRequirement → ∀ catalog, ranking catalog r score =
        (ranking catalog r' score).filter fun x => qualifies x.candidate r) ∧
      ∀ p : Pricing, p.scorer.IgnoresRequirement := by
  have hqualifies (c : Candidate) : qualifies c r = true → qualifies c r' = true :=
    qualifies_of_atMost harchitecture hle
  refine ⟨hqualifies, fun score hscore catalog => ?_, fun _ _ _ _ => rfl⟩
  have hranked : (fun c => Ranked.mk c (score c r)) = fun c => Ranked.mk c (score c r') :=
    funext fun c => congrArg (Ranked.mk c) (hscore c r r')
  have hfilter : (catalog.filter fun c => qualifies c r && qualifies c r') =
      catalog.filter (qualifies · r) := by
    refine List.filter_congr fun c _ => ?_
    cases hq : qualifies c r with
    | true => rw [hqualifies c hq, Bool.and_true]
    | false => rw [Bool.false_and]
  rw [filter_ranking, hfilter, ranking, hranked]

/-- A core less and a zero of the other sign ask for no more. -/
theorem ranking_of_atMost_core_less :
    let r : Requirement := { resources := { cpuCores := 2 } }
    let r' : Requirement := { resources := { cpuCores := 1, memory := .negZero } }
    (r.architecture = r'.architecture ∧ r'.resources.AtMost r.resources) ∧
      ∀ catalog, ranking catalog r (Pricing.monthly 12).scorer =
        (ranking catalog r' (Pricing.monthly 12).scorer).filter fun x => qualifies x.candidate r := by
  intro r r'
  have hle : r'.resources.AtMost r.resources := by
    intro d
    cases d <;> decide +kernel
  have harchitecture : r.architecture = r'.architecture := rfl
  obtain ⟨-, hranking, hprice⟩ := ranking_of_atMost harchitecture hle
  exact ⟨⟨harchitecture, hle⟩, hranking _ (hprice _)⟩

/-! ## Overage -/

/-- What a template has beyond the need is an amount. -/
theorem isAmount_sub {x y : Binary64} (hx : x.isAmount = true) (hy : y.isAmount = true)
    (h : y.le x = true) : (x - y).isAmount = true := by
  obtain ⟨hfx, -⟩ := isAmount_iff.1 hx
  obtain ⟨hfy, hy0⟩ := isAmount_iff.1 hy
  have hpos : zero.le (x - y) = true := zero_le_sub hfx hfy h
  exact isAmount_iff.2 ⟨isFinite_of_le hpos (Binary64.sub_le_self hfx hfy hy0) hfx, hpos⟩

/-- A relation that one more dimension keeps holds of two weighted sums. -/
theorem weightedSum_rel {α : Type} [Add α] [Sub α] [Mul α] {R : α → α → Prop} {start start' : α}
    {weight weight' offered offered' wanted wanted' : Dimension → α} (hstart : R start start')
    (hstep : ∀ d sum sum', R sum sum' → R (sum + weight d * (offered d - wanted d))
      (sum' + weight' d * (offered' d - wanted' d))) :
    R (weightedSum start weight offered wanted) (weightedSum start' weight' offered' wanted') :=
  List.foldl_rel hstart fun d _ => hstep d

/-- The overage of a template that qualifies is no less than zero, and no more than that of a
template that has no less of anything. It may be infinite. -/
theorem overageScorer_le (hw : ∀ d, (w.get d).isAmount = true)
    (hr : ∀ d, (r.resources.get d).isAmount = true) (hc : ∀ d, (c.resources.get d).isAmount = true)
    (hc' : ∀ d, (c'.resources.get d).isAmount = true) (hrc : r.resources.AtMost c.resources)
    (hle : c.resources.AtMost c'.resources) :
    zero.le (overageScorer w c r) = true ∧
      (overageScorer w c r).le (overageScorer w c' r) = true := by
  have hstart : zero.le negZero = true ∧ negZero.le negZero = true := by decide
  -- The terms are not below zero, so both sums grow, and the first stays at most the second.
  refine weightedSum_rel (R := fun sum sum' => zero.le sum = true ∧ sum.le sum' = true) hstart
    fun d sum sum' hsum => ?_
  obtain ⟨hfw, hw0⟩ := isAmount_iff.1 (hw d)
  obtain ⟨hfo, ho0⟩ := isAmount_iff.1 (isAmount_sub (hc d) (hr d) (hrc d))
  obtain ⟨hfo', -⟩ := isAmount_iff.1 (isAmount_sub (hc' d) (hr d) (hrc.trans hle d))
  have hterm : zero.le (w.get d * (c.resources.get d - r.resources.get d)) = true :=
    zero_le_mul hfw hw0 hfo ho0
  have hterms : (w.get d * (c.resources.get d - r.resources.get d)).le
      (w.get d * (c'.resources.get d - r.resources.get d)) = true :=
    Binary64.mul_le_mul_left hfw hw0 hfo hfo'
      (Binary64.sub_le_sub_right (isAmount_iff.1 (hc d)).1 (isAmount_iff.1 (hc' d)).1
        (isAmount_iff.1 (hr d)).1 (hle d))
  exact ⟨zero_le_add hsum.1 hterm, Binary64.add_le_add hsum.1 hterm hsum.2 hterms⟩

/-- **A template that has no more of anything does not score worse by its overage**, so one that has
more is ranked ahead of it only by an equal score. -/
theorem overage_of_atMost (hw : ∀ d, (w.get d).isAmount = true)
    (hr : ∀ d, (r.resources.get d).isAmount = true) (hc : ∀ d, (c.resources.get d).isAmount = true)
    (hc' : ∀ d, (c'.resources.get d).isAmount = true) (hq : qualifies c r = true)
    (hle : c.resources.AtMost c'.resources) :
    (overageScorer w c r).le (overageScorer w c' r) = true ∧
      ∀ catalog x x', [x', x].Sublist (ranking catalog r (overageScorer w)) → x.candidate = c →
        x'.candidate = c' → x.score.eq x'.score = true := by
  obtain ⟨hzero, hscore⟩ := overageScorer_le hw hr hc hc' (qualifies_iff.1 hq).2 hle
  refine ⟨hscore, ?_⟩
  rintro catalog x x' hsub rfl rfl
  obtain ⟨-, -, hx⟩ := mem_ranking (hsub.subset (by simp) : x ∈ _)
  obtain ⟨-, -, hx'⟩ := mem_ranking (hsub.subset (by simp) : x' ∈ _)
  have hbefore : x'.score.totalLe x.score = true :=
    List.pairwise_iff_forall_sublist.1 (pairwise_ranking catalog r (overageScorer w)) hsub
  rw [hx, hx'] at hbefore ⊢
  obtain ⟨hnan, hnan', -⟩ := le_iff.1 hscore
  exact eq_of_le_of_le hscore (le_of_totalLe hnan' hnan hbefore)

/-- Twice the memory is twice the overage. -/
theorem overage_of_atMost_twice :
    let r : Requirement := {}
    let c : Candidate := { id := "a", name := "A", resources := { memory := .ofNat 1 } }
    let c' : Candidate := { id := "b", name := "B", resources := { memory := .ofNat 2 } }
    ((∀ d, (Weights.default.get d).isAmount = true) ∧
      (∀ d, (r.resources.get d).isAmount = true) ∧ (∀ d, (c.resources.get d).isAmount = true) ∧
      (∀ d, (c'.resources.get d).isAmount = true) ∧ qualifies c r = true ∧
      c.resources.AtMost c'.resources) ∧
    (overageScorer .default c r).le (overageScorer .default c' r) = true ∧
      overageScorer .default c r = .ofNat 1 ∧ overageScorer .default c' r = .ofNat 2 := by
  intro r c c'
  have hw : ∀ d, (Weights.default.get d).isAmount = true := by
    intro d
    cases d <;> decide +kernel
  have hr : ∀ d, (r.resources.get d).isAmount = true :=
    Resources.fault?_eq_none_iff.1 (by decide +kernel)
  have hc : ∀ d, (c.resources.get d).isAmount = true :=
    Resources.fault?_eq_none_iff.1 (by decide +kernel)
  have hc' : ∀ d, (c'.resources.get d).isAmount = true :=
    Resources.fault?_eq_none_iff.1 (by decide +kernel)
  have hq : qualifies c r = true := by decide +kernel
  have hle : c.resources.AtMost c'.resources := by
    intro d
    cases d <;> decide +kernel
  exact ⟨⟨hw, hr, hc, hc', hq, hle⟩, (overage_of_atMost hw hr hc hc' hq hle).1, by decide +kernel,
    by decide +kernel⟩

end Provisioning
