/-!
# Faults of JSON text

## Main definitions

* `Fault`: the three kinds of faults
* `Fault.message`: their wording
-/

namespace Provisioning.Json

/-- Why a text does not give the value that is asked for. -/
inductive Fault where
  /-- The text is no JSON. -/
  | malformed
  /-- The text ends too early. -/
  | truncated
  /-- The text is JSON so far, and not of the form asked for. -/
  | mismatched
deriving DecidableEq

/-- The wording of a fault. -/
def Fault.message : Fault → String
  | .malformed => "malformed JSON"
  | .truncated => "unexpected end of JSON"
  | .mismatched => "unexpected JSON value"

end Provisioning.Json
