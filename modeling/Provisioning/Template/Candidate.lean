import Provisioning.Data.SortedMap
import Provisioning.Template.Architecture
import Provisioning.Template.Error
import Provisioning.Template.Resources

/-!
# Templates and requirements

## Main definitions

* `Requirement`: an architecture and the least amounts
* `Candidate`: a machine template of a catalog, with its prices
* `Requirement.check`, `Candidate.check`: the first fault of one, if it has any
* `qualifies`: whether a template has the architecture and enough of everything
-/

namespace Provisioning

/-- What a machine must have. -/
structure Requirement where
  /-- The architecture. -/
  architecture : Architecture := .x86
  /-- The least amounts. -/
  resources : Resources := {}
deriving DecidableEq

/-- A machine template. -/
structure Candidate where
  /-- The name by which it is ordered. -/
  id : String
  /-- The name for a reader. -/
  name : String
  /-- The architecture. -/
  architecture : Architecture := .x86
  /-- The amounts that it has. -/
  resources : Resources := {}
  /-- The price of an hour. -/
  hourlyPrice : Option Binary64 := none
  /-- The prices of a month, by the months of commitment. -/
  monthlyPrices : SortedMap UInt32 Binary64 := .empty
deriving DecidableEq

/-- The architecture of a text. -/
def readArchitecture (raw : String) : Except TemplateError Architecture :=
  match Architecture.read? raw with
  | some a => .ok a
  | none => .error .emptyArchitecture

/-- The dimension of a text. -/
def readDimension (raw : String) : Except TemplateError Dimension :=
  match Dimension.read? raw with
  | some d => .ok d
  | none => .error (.unknownDimension raw)

/-- Refuses a requirement with an amount that is negative or not finite. -/
def Requirement.check (r : Requirement) : Except TemplateError Unit :=
  match r.resources.fault? with
  | some d => .error (.invalidAmount d (r.resources.get d))
  | none => .ok ()

namespace Candidate

/-- All prices: the one of an hour, then those of a month by commitment. -/
def prices (c : Candidate) : List Binary64 := c.hourlyPrice.toList ++ c.monthlyPrices.values

/-- Refuses a template with a blank id, or with an amount or a price that is negative or not
finite. -/
def check (c : Candidate) : Except TemplateError Unit :=
  if Text.trim c.id = "" then .error (.emptyId c.name)
  else
    match c.resources.fault? with
    | some d => .error (.invalidTemplate c.id d (c.resources.get d))
    | none =>
      match c.prices.find? fun price => !price.isAmount with
      | some price => .error (.invalidPrice c.id price)
      | none => .ok ()

end Candidate

/-- Whether a template has the architecture asked for and at least the amount of each resource. -/
def qualifies (c : Candidate) (r : Requirement) : Bool :=
  c.architecture == r.architecture &&
    Dimension.all.all fun d => (r.resources.get d).le (c.resources.get d)

end Provisioning
