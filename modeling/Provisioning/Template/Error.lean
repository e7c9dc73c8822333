import Provisioning.Decimal.Notation
import Provisioning.Json.Fault
import Provisioning.Template.Dimension

/-!
# Errors about templates

## Main definitions

* `TemplateError`: why a template, a requirement or a part of them is refused
-/

namespace Provisioning

/-- Why a template, a requirement or a part of them is refused. -/
inductive TemplateError where
  /-- The text of an architecture is blank. -/
  | emptyArchitecture
  /-- A text names no dimension. -/
  | unknownDimension (raw : String)
  /-- An amount is negative or not finite. -/
  | invalidAmount (dimension : Dimension) (amount : Binary64)
  /-- The id of a template is blank. -/
  | emptyId (name : String)
  /-- An amount of a template is negative or not finite. -/
  | invalidTemplate (id : String) (dimension : Dimension) (amount : Binary64)
  /-- A price of a template is negative or not finite. -/
  | invalidPrice (id : String) (price : Binary64)
  /-- A catalog cannot be read. -/
  | unreadable (fault : Json.Fault)

namespace TemplateError

/-- The wording about an amount. -/
def amountText (dimension : Dimension) (amount : Binary64) : String :=
  "Validation failed: " ++ dimension.key ++ " must be a non-negative number, got " ++ amount.text

/-- The wording of an error. -/
def message : TemplateError → String
  | .emptyArchitecture => "Invalid input: Architecture cannot be empty"
  | .unknownDimension raw => "Parse error: Unknown resource dimension: " ++ raw
  | .invalidAmount dimension amount => amountText dimension amount
  | .emptyId name => "Validation failed: Template '" ++ name ++ "' has an empty id"
  | .invalidTemplate id dimension amount =>
    "Validation failed: Template '" ++ id ++ "': " ++ amountText dimension amount
  | .invalidPrice id price =>
    "Validation failed: Template '" ++ id ++ "' has an invalid price: " ++ price.text
  | .unreadable fault => "Serialization error: " ++ fault.message

end TemplateError

end Provisioning
