import Provisioning.Proofs.Text.LowerCase
import Provisioning.Template.Architecture

/-!
# Names of architectures

The name of an architecture is one of its spellings.

## Main results

* `Architecture.normalize_normalize`: a normalized spelling is one in normal form
* `Architecture.read?_text`: the name of an architecture that was read is read as it
-/

namespace Provisioning.Architecture

open Text

variable {raw : String} {a : Architecture}

/-- A spelling is normalized once and for all. -/
theorem normalize_normalize (raw : String) : normalize (normalize raw) = normalize raw := by
  unfold normalize
  rw [trim_toLower_trim, toLower_toLower]

/-- What is read of a normalized spelling: one of the common architectures, or the one of that name. -/
theorem ofNormalized?_cases {name : String} (h : ofNormalized? name = some a) :
    a = .x86 ∨ a = .arm ∨ a = .other name := by
  unfold ofNormalized? at h
  split at h
  · cases h
  split at h
  · exact .inl (Option.some.inj h).symm
  split at h
  · exact .inr (.inl (Option.some.inj h).symm)
  · exact .inr (.inr (Option.some.inj h).symm)

/-- **The name of an architecture that was read is read as it.** -/
theorem read?_text (h : read? raw = some a) : read? a.text = some a := by
  rcases ofNormalized?_cases h with rfl | rfl | rfl
  · decide +kernel
  · decide +kernel
  · unfold read? at h ⊢
    change ofNormalized? (normalize (normalize raw)) = _
    rw [normalize_normalize]
    exact h

end Provisioning.Architecture
