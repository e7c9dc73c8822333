import Provisioning.Text.Blank
import Provisioning.Text.LowerCase

/-!
# Processor architectures

Architectures by name. The two common ones have several spellings; any other is its lower-case name.

## Main definitions

* `Architecture`: the architectures
* `Architecture.read?`: the architecture of a spelling, unless it is blank
* `Architecture.text`: the name
-/

namespace Provisioning

open Text

/-- A processor architecture. -/
inductive Architecture where
  /-- The 64-bit x86 family. -/
  | x86
  /-- The 64-bit ARM family. -/
  | arm
  /-- Any other, by its lower-case name. -/
  | other (name : String)
deriving DecidableEq

namespace Architecture

instance : Inhabited Architecture := ⟨.x86⟩

/-- The lower-case spelling without blanks around it. -/
def normalize (raw : String) : String := toLower (trim raw)

/-- The architecture of a normalized spelling. -/
def ofNormalized? (name : String) : Option Architecture :=
  if name = "" then none
  else if name ∈ ["x86_64", "x86-64", "x86", "x64", "amd64"] then some .x86
  else if name ∈ ["arm64", "aarch64", "arm"] then some .arm
  else some (.other name)

/-- The architecture of a spelling; a blank text has none. -/
def read? (raw : String) : Option Architecture := ofNormalized? (normalize raw)

/-- The name of an architecture. -/
def text : Architecture → String
  | .x86 => "x86_64"
  | .arm => "arm64"
  | .other name => name

end Architecture

end Provisioning
