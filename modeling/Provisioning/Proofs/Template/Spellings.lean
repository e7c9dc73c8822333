import Provisioning.Proofs.Template.Catalog
import Provisioning.Proofs.Text.Classes

/-!
# Spellings of architectures

A spelling is read by its normal form, which has no blanks at its ends and is in lower case. The name of
an architecture is a normal form already: normalizing it once more brings about no blank, no capital
letter and no other spelling of a common architecture. So the name stands for the architecture wherever
it is written, and the same architecture is the same name.

## Main definitions

* `Architecture.commonSpellings`: the normal forms that are read as the common architectures
* `Architecture.IsOtherName`: the names of the other ones
* `SpelledAlike`: texts that differ in blanks at their ends and in ASCII case only
* `Architecture.IsToldByName`: an architecture that was read is told by its name

## Main results

* `Architecture.ofNormalized?_eq_other_iff`: which normal forms are names of other architectures
* `Architecture.normalize_eq_of_spelledAlike`: texts that are spelled alike have one normal form
* `Architecture.isToldByName_of_read?`: every architecture that was read is told by its name
-/

namespace Provisioning

open Json Text

variable {raw raw' name : String}

/-! ## Texts that are spelled alike -/

/-- A text is another one with blanks around it. -/
def HasCore (s core : List Char) : Prop :=
  ∃ before after, s = before ++ (core ++ after) ∧ (∀ c ∈ before, isBlank c = true) ∧
    ∀ c ∈ after, isBlank c = true

/-- Two texts differ only in blanks at their ends and in the case of ASCII letters. -/
def SpelledAlike (raw raw' : String) : Prop :=
  ∃ core core', HasCore raw.toList core ∧ HasCore raw'.toList core' ∧
    core.map asciiLower = core'.map asciiLower

theorem HasCore.trimChars_eq {s core : List Char} (h : HasCore s core) :
    trimChars s = trimChars core := by
  obtain ⟨before, after, rfl, hbefore, hafter⟩ := h
  exact trimChars_append hbefore hafter

namespace Architecture

variable {a a' : Architecture}

/-- Texts that are spelled alike have one normal form. -/
theorem normalize_eq_of_spelledAlike (h : SpelledAlike raw raw') : normalize raw = normalize raw' := by
  obtain ⟨core, core', hcore, hcore', hcase⟩ := h
  -- Blanks have no case, so it does not matter that the texts are trimmed first.
  refine toLower_eq_of_map_asciiLower_eq ?_
  rw [trim, trim, String.toList_ofList, String.toList_ofList, hcore.trimChars_eq, hcore'.trimChars_eq,
    ← trimChars_map, hcase, trimChars_map]

/-! ## Names -/

/-- The normal forms of the spellings of the common architectures. -/
def commonSpellings : List String :=
  ["x86_64", "x86-64", "x86", "x64", "amd64", "arm64", "aarch64", "arm"]

/-- The name of an architecture that is not common: a normal form, but not the empty one, and not that
of a spelling of a common architecture. -/
structure IsOtherName (name : String) : Prop where
  ne_empty : name ≠ ""
  trimmed : trim name = name
  lowered : toLower name = name
  not_common : name ∉ commonSpellings

theorem mem_commonSpellings : name ∈ commonSpellings ↔
    name ∈ ["x86_64", "x86-64", "x86", "x64", "amd64"] ∨ name ∈ ["arm64", "aarch64", "arm"] :=
  List.mem_append (s := ["x86_64", "x86-64", "x86", "x64", "amd64"])

/-- A normal form is the name of another architecture if nothing else is read of it. -/
theorem ofNormalized?_eq_other_iff {normal : String} : ofNormalized? normal = some (.other name) ↔
    normal = name ∧ name ≠ "" ∧ name ∉ commonSpellings := by
  rw [mem_commonSpellings, not_or]
  unfold ofNormalized?
  constructor
  · -- What is left when no test of the definition applies.
    intro h
    split at h
    · cases h
    next hne =>
    split at h
    · cases h
    next hx86 =>
    split at h
    · cases h
    next harm =>
    obtain rfl := Architecture.other.inj (Option.some.inj h)
    exact ⟨rfl, hne, hx86, harm⟩
  · rintro ⟨rfl, hne, hx86, harm⟩
    rw [if_neg hne, if_neg hx86, if_neg harm]

theorem isOtherName_of_read? (h : read? raw = some (.other name)) : IsOtherName name := by
  obtain ⟨rfl, hne, hcommon⟩ := ofNormalized?_eq_other_iff.1 h
  refine ⟨hne, ?_, ?_, hcommon⟩
  · exact trim_toLower_trim raw
  · exact toLower_toLower (trim raw)

/-- An architecture that was read of a spelling is told by its name. -/
structure IsToldByName (raw : String) (a : Architecture) : Prop where
  /-- The name is read as the architecture. -/
  text : read? a.text = some a
  /-- So is the name as it is written in JSON. -/
  json : readAll architectureReader (compact a.toJson) = .ok a
  /-- So another spelling is one of the architecture if and only if the names are the same. -/
  eq_iff : ∀ raw' a', read? raw' = some a' → (a = a' ↔ a.text = a'.text)
  /-- The name of an architecture that is not common is one in normal form, and not a spelling of a common
  one. -/
  other : ∀ name, a = .other name → IsOtherName name
  /-- A text that is spelled alike is another spelling of it. -/
  alike : ∀ raw', SpelledAlike raw raw' → read? raw' = some a

/-- **An architecture that was read is told by its name**, whatever the spelling was. -/
theorem isToldByName_of_read? (h : read? raw = some a) : IsToldByName raw a where
  text := read?_text h
  json := readAll_eq_ok_iff.2 ⟨[], by simpa using result_architectureReader h [], rfl⟩
  eq_iff raw' a' h' := by
    constructor
    · exact fun heq => heq ▸ rfl
    · -- Both are read from their names, which are one text.
      intro heq
      exact Option.some.inj ((read?_text h).symm.trans (heq ▸ read?_text h'))
  other name heq := isOtherName_of_read? (heq ▸ h)
  alike raw' halike := by
    rw [read?, ← normalize_eq_of_spelledAlike halike]
    exact h

/-- Capital letters with a sigma at the end of the word, and a blank that is not one of ASCII. -/
theorem isToldByName_final_sigma :
    read? "\u00A0ΑRMΑΣ " = some (.other "αrmας") ∧ IsToldByName "\u00A0ΑRMΑΣ " (.other "αrmας") ∧
      read? "Αrmας" = some (.other "αrmας") ∧ read? "ARM" = some .arm := by
  have h : read? "\u00A0ΑRMΑΣ " = some (.other "αrmας") := by decide +kernel
  exact ⟨h, isToldByName_of_read? h, by decide +kernel, by decide +kernel⟩

end Architecture

end Provisioning
