import Provisioning.Template.Candidate

/-!
# Scores

Scores of templates; the least is the best.

## Main definitions

* `Scorer`: the score of a template for a requirement
* `weightedSum`: a sum of weighted differences, over any arithmetic
* `overageScorer`: the weighted sum of what a template has beyond the requirement
* `Pricing`: a commitment and the hours of a month
* `Pricing.effectivePrice`, `Pricing.scorer`: the price that counts, and the score by it
* `priceText`: the text of a price
-/

namespace Provisioning

/-- A score of a template for a requirement. -/
abbrev Scorer := Candidate → Requirement → Binary64

/-- The sum over all dimensions, in their order, of a weight times a difference. -/
def weightedSum {α : Type} [Add α] [Sub α] [Mul α] (start : α)
    (weight offered wanted : Dimension → α) : α :=
  Dimension.all.foldl (fun sum d => sum + weight d * (offered d - wanted d)) start

/-- The weighted sum of what a template has beyond the requirement. -/
def overageScorer (weights : Weights) : Scorer := fun c r =>
  weightedSum .negZero weights.get c.resources.get r.resources.get

/-- The hours that a month counts. -/
def hoursPerMonth : Binary64 := .ofNat 730

/-- How prices are compared: by the hour, or by the month at a commitment. -/
structure Pricing where
  /-- The months of commitment; none for prices by the hour. -/
  commitment : Option UInt32 := none
  /-- The hours that a month counts. -/
  hoursPerMonth : Binary64 := Provisioning.hoursPerMonth
deriving DecidableEq

/-- The least of some numbers in the total order, the first one of equals. -/
def leastOf : List Binary64 → Option Binary64
  | [] => none
  | x :: rest => some (rest.foldl (fun least y => if least.totalLe y then least else y) x)

namespace Pricing

/-- Prices by the hour. -/
def hourly : Pricing := {}

/-- Prices by the month at a commitment. -/
def monthly (months : UInt32) : Pricing := { commitment := some months }

/-- The price that counts. Without a commitment it is the price of an hour. With one it is the price
listed for it, else the least listed price, else the price of an hour times the hours of a month. -/
def effectivePrice (p : Pricing) (c : Candidate) : Option Binary64 :=
  match p.commitment with
  | none => c.hourlyPrice
  | some months =>
    match c.monthlyPrices.get? months with
    | some price => some price
    | none =>
      match leastOf c.monthlyPrices.values with
      | some price => some price
      | none => c.hourlyPrice.map (· * p.hoursPerMonth)

/-- The score by price; a template without a price comes after all prices. -/
def scorer (p : Pricing) : Scorer := fun c _ => (p.effectivePrice c).getD .infinity

end Pricing

/-- The text of a price, to three places. -/
def priceText : Option Binary64 → String
  | some price => if price.isFinite then "$" ++ renderFixed 3 price else "N/A"
  | none => "N/A"

end Provisioning
