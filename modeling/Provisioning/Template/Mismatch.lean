import Provisioning.Json.Value
import Provisioning.Template.Candidate

/-!
# Mismatches

Why a template does not meet a requirement.

## Main definitions

* `Mismatch`: a wrong architecture, or a dimension with too little
* `mismatches`: all mismatches of a template, the architecture first
-/

namespace Provisioning

/-- A way in which a template falls short. -/
inductive Mismatch where
  /-- The architecture is another. -/
  | architecture (wanted offered : Architecture)
  /-- The amount of a dimension is too small. -/
  | dimension (dimension : Dimension) (wanted offered : Binary64)
deriving DecidableEq

namespace Mismatch

/-- The text of a mismatch. -/
def text : Mismatch → String
  | .architecture wanted offered => "architecture " ++ offered.text ++ " != " ++ wanted.text
  | .dimension d wanted offered => d.key ++ " " ++ offered.text ++ " < " ++ wanted.text

/-- The JSON form of a mismatch. -/
def toJson : Mismatch → Json.Value
  | .architecture wanted offered =>
    .object [("kind", .string "architecture"), ("wanted", .string wanted.text),
      ("offered", .string offered.text)]
  | .dimension d wanted offered =>
    .object [("kind", .string "dimension"), ("dimension", .string d.key),
      ("wanted", .real wanted), ("offered", .real offered)]

end Mismatch

/-- The mismatch in one dimension, if there is one. -/
def mismatchIn? (c : Candidate) (r : Requirement) (d : Dimension) : Option Mismatch :=
  if (c.resources.get d).lt (r.resources.get d) then
    some (.dimension d (r.resources.get d) (c.resources.get d))
  else none

/-- All mismatches of a template: the architecture, then the dimensions in their order. -/
def mismatches (c : Candidate) (r : Requirement) : List Mismatch :=
  (if c.architecture = r.architecture then []
    else [.architecture r.architecture c.architecture]) ++
    Dimension.all.filterMap (mismatchIn? c r)

end Provisioning
