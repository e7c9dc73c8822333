import Provisioning.Json.Print
import Provisioning.Template.Ranking

/-!
# JSON of templates

The JSON forms of requirements, templates and weights, members in the order of the domain types.

## Main definitions

* `Requirement.toJson`, `Candidate.toJson`, `Weights.toJson`, `Ranked.toJson`
* `catalogText`: the JSON text of a catalog
-/

namespace Provisioning

open Json

/-- The JSON form of an amount: whole numbers for the counts. -/
def amountJson (r : Resources) (d : Dimension) : Value :=
  match d with
  | .cpuCores => .integer r.cpuCores.toNat
  | .gpuCount => .integer r.gpuCount.toNat
  | .gpuCores => .integer r.gpuCores.toNat
  | d => .real (r.get d)

/-- One member for each dimension. -/
def Resources.members (r : Resources) : List (String × Value) :=
  Dimension.all.map fun d => (d.key, amountJson r d)

/-- The JSON form of amounts. -/
def Resources.toJson (r : Resources) : Value := .object r.members

/-- The JSON form of an architecture is its name. -/
def Architecture.toJson (a : Architecture) : Value := .string a.text

/-- The JSON form of a requirement: its amounts stand beside the architecture. -/
def Requirement.toJson (r : Requirement) : Value :=
  .object (("architecture", r.architecture.toJson) :: r.resources.members)

/-- The JSON form of an optional number. -/
def optionalJson : Option Binary64 → Value
  | none => .null
  | some x => .real x

/-- The JSON form of a template: its amounts stand beside its other members. -/
def Candidate.toJson (c : Candidate) : Value :=
  .object ([("id", .string c.id), ("name", .string c.name),
      ("architecture", c.architecture.toJson)] ++ c.resources.members ++
    [("hourly_price", optionalJson c.hourlyPrice),
      ("monthly_prices",
        .object (c.monthlyPrices.toList.map fun (months, price) =>
          (toString months.toNat, .real price)))])

/-- The JSON form of weights. -/
def Weights.toJson (w : Weights) : Value :=
  .object (Dimension.all.map fun d => (d.key, .real (w.get d)))

/-- The JSON form of a ranked template. -/
def Ranked.toJson (r : Ranked) : Value :=
  .object [("candidate", r.candidate.toJson), ("score", .real r.score)]

/-- The JSON text of a catalog. -/
def catalogText (catalog : List Candidate) : String :=
  compact (.array (catalog.map Candidate.toJson))

end Provisioning
