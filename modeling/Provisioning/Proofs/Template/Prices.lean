import Provisioning.Proofs.Template.Order

/-!
# Rankings by price

The price of a template comes from one of three sources, tried one after the other. A ranking by price
lists the finite prices upwards, and leaves the templates without a price behind them, in the order of
the catalog.

## Main definitions

* `Pricing.Charges`: the price of a template under a pricing, with the source that it comes from
* `Pricing.RanksByPrice`: a list of ranked templates is in the order of prices

## Main results

* `leastOf_eq_some_iff`: the least of some prices is one of them that no other comes before
* `Pricing.charges_iff`: each template has one price, by these sources
* `Pricing.ranksByPrice`: rankings are in the order of prices
-/

namespace Provisioning

open Binary64

variable {catalog : List Candidate} {c : Candidate} {p : Pricing} {r : Requirement}
  {prices : List Binary64} {price : Binary64}

/-! ## The least price -/

theorem mem_of_leastOf (h : leastOf prices = some price) : price ∈ prices := by
  cases prices with
  | nil => cases h
  | cons first rest =>
    obtain rfl := Option.some.inj h
    -- The least so far is always one of all of them.
    refine List.foldlRecOn rest _ List.mem_cons_self fun least hleast y hy => ?_
    split
    · exact hleast
    · exact List.mem_cons_of_mem first hy

theorem totalLe_of_leastOf (h : leastOf prices = some price) :
    ∀ x ∈ prices, price.totalLe x = true := by
  cases prices with
  | nil => cases h
  | cons first rest =>
    obtain rfl := Option.some.inj h
    -- The first price stays general: after a step it is the least one so far.
    induction rest generalizing first with
    | nil => simpa using totalLe_refl first
    | cons y rest ih =>
      rw [List.foldl_cons]
      have hbelow := ih (if first.totalLe y then first else y) rfl
      obtain ⟨hleast, hrest⟩ := List.forall_mem_cons.1 hbelow
      have hmin : (if first.totalLe y then first else y).totalLe first = true ∧
          (if first.totalLe y then first else y).totalLe y = true := by
        split
        · next hle => exact ⟨totalLe_refl first, hle⟩
        · next hle =>
          have htotal := totalLe_total first y
          simp only [hle, Bool.false_or] at htotal
          exact ⟨htotal, totalLe_refl y⟩
      exact List.forall_mem_cons.2 ⟨totalLe_trans hleast hmin.1,
        List.forall_mem_cons.2 ⟨totalLe_trans hleast hmin.2, hrest⟩⟩

/-- **The least of some prices is one of them that no other comes before.** -/
theorem leastOf_eq_some_iff :
    leastOf prices = some price ↔ price ∈ prices ∧ ∀ x ∈ prices, ¬ x.Before price := by
  constructor
  · intro h
    refine ⟨mem_of_leastOf h, fun x hx hbefore => ?_⟩
    obtain hprice | rfl := totalLe_iff.1 (totalLe_of_leastOf h x hx)
    · exact hprice.asymm hbefore
    · exact hbefore.ne rfl
  · rintro ⟨hmem, hleast⟩
    cases h : leastOf prices with
    | none =>
      cases prices with
      | nil => cases hmem
      | cons first rest => cases h
    | some x =>
      obtain hbefore | rfl := totalLe_iff.1 (totalLe_of_leastOf h price hmem)
      · exact absurd hbefore (hleast x (mem_of_leastOf h))
      · rfl

theorem leastOf_eq_none_iff : leastOf prices = none ↔ prices = [] := by
  cases prices <;> simp [leastOf]

/-! ## The price of a template -/

namespace Pricing

/-- The price that a template is ranked by, and where it comes from. -/
inductive Charges (p : Pricing) (c : Candidate) : Option Binary64 → Prop
  /-- Without a commitment, it is the price of an hour, if there is one. -/
  | hourly (hcommitment : p.commitment = none) : Charges p c c.hourlyPrice
  /-- With one, it is the price that is listed for it. -/
  | listed {months : UInt32} {price : Binary64} (hcommitment : p.commitment = some months)
      (hlisted : (months, price) ∈ c.monthlyPrices.toList) : Charges p c (some price)
  /-- If none is, it is the least price that is listed. -/
  | least {months : UInt32} {price : Binary64} (hcommitment : p.commitment = some months)
      (hunlisted : ∀ price, (months, price) ∉ c.monthlyPrices.toList)
      (hmem : price ∈ c.monthlyPrices.values)
      (hleast : ∀ x ∈ c.monthlyPrices.values, ¬ x.Before price) : Charges p c (some price)
  /-- If no price is listed at all, it is that of the hours of a month. -/
  | scaled {months : UInt32} {hour : Binary64} (hcommitment : p.commitment = some months)
      (hnone : c.monthlyPrices.toList = []) (hhour : c.hourlyPrice = some hour) :
      Charges p c (some (hour * p.hoursPerMonth))
  /-- Otherwise there is none. -/
  | unpriced {months : UInt32} (hcommitment : p.commitment = some months)
      (hnone : c.monthlyPrices.toList = []) (hhour : c.hourlyPrice = none) : Charges p c none

theorem get?_eq_some_iff {months : UInt32} :
    c.monthlyPrices.get? months = some price ↔ (months, price) ∈ c.monthlyPrices.toList :=
  ⟨Entries.mem_of_get?, Entries.get?_of_mem c.monthlyPrices.ascending⟩

theorem values_eq_nil_iff : c.monthlyPrices.values = [] ↔ c.monthlyPrices.toList = [] :=
  List.map_eq_nil_iff

/-- **Each template has one price**, from the first source that has one. -/
theorem charges_iff {answer : Option Binary64} :
    p.effectivePrice c = answer ↔ p.Charges c answer := by
  constructor
  · rintro rfl
    cases hcommitment : p.commitment with
    | none =>
      rw [effectivePrice, hcommitment]
      exact .hourly hcommitment
    | some months =>
      rw [effectivePrice, hcommitment]
      dsimp only
      split
      · next hlisted => exact .listed hcommitment (get?_eq_some_iff.1 hlisted)
      next hunlisted =>
      split
      · next hleast =>
        obtain ⟨hmem, hbefore⟩ := leastOf_eq_some_iff.1 hleast
        refine .least hcommitment (fun price hlisted => ?_) hmem hbefore
        rw [get?_eq_some_iff.2 hlisted] at hunlisted
        cases hunlisted
      · next hnone =>
        have hnone := values_eq_nil_iff.1 (leastOf_eq_none_iff.1 hnone)
        cases hhour : c.hourlyPrice with
        | none => exact .unpriced hcommitment hnone hhour
        | some hour => exact .scaled hcommitment hnone hhour
  · intro h
    -- Each constructor rules out the sources before its own.
    cases h with
    | hourly hcommitment => simp only [effectivePrice, hcommitment]
    | listed hcommitment hlisted =>
      simp only [effectivePrice, hcommitment, get?_eq_some_iff.2 hlisted]
    | @least months price hcommitment hunlisted hmem hleast =>
      have hget : c.monthlyPrices.get? months = none := by
        rw [Option.eq_none_iff_forall_ne_some]
        exact fun price hlisted => hunlisted price (get?_eq_some_iff.1 hlisted)
      simp only [effectivePrice, hcommitment, hget, leastOf_eq_some_iff.2 ⟨hmem, hleast⟩]
    | @scaled months hour hcommitment hnone hhour =>
      have hget : c.monthlyPrices.get? months = none := by rw [SortedMap.get?, hnone, Entries.get?]
      have hleast := leastOf_eq_none_iff.2 (values_eq_nil_iff.2 hnone)
      simp only [effectivePrice, hcommitment, hget, hleast, hhour, Option.map_some]
    | @unpriced months hcommitment hnone hhour =>
      have hget : c.monthlyPrices.get? months = none := by rw [SortedMap.get?, hnone, Entries.get?]
      have hleast := leastOf_eq_none_iff.2 (values_eq_nil_iff.2 hnone)
      simp only [effectivePrice, hcommitment, hget, hleast, hhour, Option.map_none]

-- A listed price, the least of other commitments, the hours of a month, and no price.
example :
    let listed : Candidate :=
      { id := "a", name := "A", monthlyPrices := .ofList [(12, .ofNat 50), (36, .ofNat 30)] }
    let other : Candidate :=
      { id := "b", name := "B", monthlyPrices := .ofList [(1, .ofNat 80), (6, .ofNat 70)] }
    let hourly : Candidate := { id := "c", name := "C", hourlyPrice := some (.ofNat 1) }
    let unpriced : Candidate := { id := "d", name := "D" }
    [listed, other, hourly, unpriced].map (monthly 12).effectivePrice =
      [some (.ofNat 50), some (.ofNat 70), some (.ofNat 730), none] := by
  decide +kernel

/-! ## The ranking -/

/-- A list of templates that meet a requirement is in the order of their prices. -/
structure RanksByPrice (p : Pricing) (catalog : List Candidate) (r : Requirement)
    (l : List Ranked) : Prop where
  /-- No template without a price comes before one of a finite price. -/
  unpriced_last : l.Pairwise fun x y => p.effectivePrice x.candidate = none →
    ∀ price, p.effectivePrice y.candidate = some price → price.isFinite = false
  /-- The templates without a price are those of the catalog, in its order. -/
  unpriced_eq : (l.map Ranked.candidate).filter (fun c => (p.effectivePrice c).isNone) =
    catalog.filter fun c => (p.effectivePrice c).isNone && qualifies c r
  /-- The finite prices go up. -/
  ascending : l.Pairwise fun x y => ∀ price price', p.effectivePrice x.candidate = some price →
    p.effectivePrice y.candidate = some price' → price.isFinite = true → price'.isFinite = true →
    price.le price' = true

theorem scorer_of_none (h : p.effectivePrice c = none) : p.scorer c r = infinity := by
  rw [scorer, h, Option.getD_none]

theorem scorer_of_some (h : p.effectivePrice c = some price) : p.scorer c r = price := by
  rw [scorer, h, Option.getD_some]

/-- The templates of a ranking without a price keep the order of the catalog. -/
theorem filter_ranking_unpriced (p : Pricing) (catalog : List Candidate) (r : Requirement) :
    (ranking catalog r p.scorer).filter (fun x => (p.effectivePrice x.candidate).isNone) =
      (catalog.filter fun c => (p.effectivePrice c).isNone && qualifies c r).map
        fun c => { candidate := c, score := p.scorer c r } := by
  rw [filter_ranking]
  -- They all have one score, so the stable sort leaves them as they are.
  apply List.mergeSort_of_pairwise
  rw [List.pairwise_map]
  refine List.pairwise_of_forall_mem_list fun c hc d hd => ?_
  have hnone : ∀ e ∈ catalog.filter fun c => (p.effectivePrice c).isNone && qualifies c r,
      p.scorer e r = infinity := by
    intro e he
    obtain ⟨-, he⟩ := List.mem_filter.1 he
    exact scorer_of_none (Option.isNone_iff_eq_none.1 (Bool.and_eq_true_iff.1 he).1)
  show (p.scorer c r).totalLe (p.scorer d r) = true
  rw [hnone c hc, hnone d hd]
  rfl

theorem ranksByPrice (p : Pricing) (catalog : List Candidate) (r : Requirement) :
    p.RanksByPrice catalog r (ranking catalog r p.scorer) := by
  have hscores := pairwise_ranking catalog r p.scorer
  refine ⟨hscores.imp_of_mem ?_, ?_, hscores.imp_of_mem ?_⟩
  · intro x y hx hy hle hnone price hprice
    rw [(mem_ranking hx).2.2, (mem_ranking hy).2.2, scorer_of_none hnone, scorer_of_some hprice] at hle
    rw [Bool.eq_false_iff]
    intro hfinite
    -- What is not below the infinity is not finite.
    have hinfinity := le_of_totalLe rfl (isNaN_of_isFinite hfinite) hle
    exact absurd (isFinite_of_le rfl hinfinity hfinite) (by decide)
  · have hmap := congrArg (List.map Ranked.candidate) (filter_ranking_unpriced p catalog r)
    rw [List.map_map, List.map_id''] at hmap
    · rw [← hmap, List.filter_map]
      rfl
    · intro c
      rfl
  · intro x y hx hy hle price price' hprice hprice' hfinite hfinite'
    rw [(mem_ranking hx).2.2, (mem_ranking hy).2.2, scorer_of_some hprice, scorer_of_some hprice'] at hle
    exact le_of_totalLe (isNaN_of_isFinite hfinite) (isNaN_of_isFinite hfinite') hle

/-- **The price of a template comes from the first source that has one, and rankings are in the order
of prices**, with the templates without a price behind all finite prices. -/
theorem ranking_by_price (p : Pricing) :
    (∀ c answer, p.effectivePrice c = answer ↔ p.Charges c answer) ∧
      ∀ catalog r, p.RanksByPrice catalog r (ranking catalog r p.scorer) :=
  ⟨fun _ _ => charges_iff, ranksByPrice p⟩

end Pricing

end Provisioning
