import Provisioning.Network.Cidr
import Provisioning.Proofs.Network.Masks

/-!
# The notation of blocks

A text is the notation of a block if, blanks around it aside, it is an address, a slash and the length of
a prefix. Any other text is refused for the first of these parts that it lacks.

The grammar speaks of the parts of a text, and not of how they are read. A prefix length, say, is read as
a number of eight bits, which may have a plus sign but no larger value, and is checked once more after
that; in the grammar it is any digits of a number up to 32.

## Main definitions

* `IsOctet`, `Address.IsDotted`, `IsPrefixLength`: the texts of octets, addresses and prefix lengths
* `Block.ReadsAs`: what a trimmed text is read as

## Main results

* `octet?_eq_some_iff`, `Address.ofChars?_eq_some_iff`, `prefixLength?_eq_some_iff`: the readers accept
  these texts and no others
* `Block.read_eq_iff`: every text is read as the grammar says
-/

namespace Provisioning

open Text

variable {mark : Char} {s t before after : List Char}

/-! ## Cuts -/

theorem splitFirst_eq_none (h : mark ∉ s) : splitFirst mark s = none := by
  induction s with
  | nil => rfl
  | cons c s ih =>
    obtain ⟨hc, hs⟩ := not_or.1 (mt List.mem_cons.2 h)
    rw [splitFirst, if_neg (Ne.symm hc), ih hs]
    rfl

theorem splitFirst_append (h : mark ∉ before) (after : List Char) :
    splitFirst mark (before ++ mark :: after) = some (before, after) := by
  induction before with
  | nil => exact if_pos rfl
  | cons c before ih =>
    obtain ⟨hc, hbefore⟩ := not_or.1 (mt List.mem_cons.2 h)
    rw [List.cons_append, splitFirst, if_neg (Ne.symm hc), ih hbefore]
    rfl

theorem splitFirst_eq_some_iff :
    splitFirst mark s = some (before, after) ↔ mark ∉ before ∧ s = before ++ mark :: after := by
  constructor
  · intro h
    induction s generalizing before with
    | nil => cases h
    | cons c s ih =>
      rw [splitFirst] at h
      split at h
      · next hc =>
        cases h
        exact ⟨List.not_mem_nil, by rw [hc, List.nil_append]⟩
      · next hc =>
        obtain ⟨⟨before', after'⟩, hcut, heq⟩ := Option.map_eq_some_iff.1 h
        cases heq
        obtain ⟨hnot, rfl⟩ := ih hcut
        exact ⟨fun hmem => (List.mem_cons.1 hmem).elim (Ne.symm hc) hnot, rfl⟩
  · rintro ⟨hnot, rfl⟩
    exact splitFirst_append hnot after

theorem not_mem_of_digits (hdigits : ∀ c ∈ s, isAsciiDigit c = true)
    (hmark : isAsciiDigit mark = false) : mark ∉ s := by
  intro hmem
  rw [hdigits mark hmem] at hmark
  cases hmark

/-! ## Octets and addresses -/

/-- The texts of an octet: one to three digits, with no zero before others. -/
structure IsOctet (s : List Char) (o : UInt8) : Prop where
  ne_nil : s ≠ []
  length_le : s.length ≤ 3
  digits : ∀ c ∈ s, isAsciiDigit c = true
  leading : s.head? = some '0' → s = ['0']
  value : naturalOf s = o.toNat

theorem eq_singleton_of_head? (hhead : s.head? = some mark) (hlength : s.length ≤ 1) :
    s = [mark] := by
  obtain ⟨rest, rfl⟩ := List.head?_eq_some_iff.1 hhead
  rw [List.length_cons] at hlength
  rw [List.eq_nil_of_length_eq_zero (show rest.length = 0 by omega)]

theorem octet?_eq_some_iff {o : UInt8} : octet? s = some o ↔ IsOctet s o := by
  unfold octet?
  simp only [Bool.or_eq_true, List.isEmpty_iff, decide_eq_true_eq, Bool.not_eq_true',
    ← Bool.not_eq_true, List.all_eq_true, Bool.and_eq_true, beq_iff_eq]
  constructor
  · intro h
    split at h
    · cases h
    next hform =>
      simp only [not_or, not_not, not_and] at hform
      obtain ⟨⟨⟨hne, hlength⟩, hdigits⟩, hleading⟩ := hform
      split at h
      · next hle =>
        obtain rfl := Option.some.inj h
        have hvalue : naturalOf s = (UInt8.ofNat (naturalOf s)).toNat := by
          rw [UInt8.toNat_ofNat', Nat.mod_eq_of_lt (Nat.lt_succ_of_le hle)]
        exact ⟨hne, Nat.le_of_not_lt hlength, hdigits,
          fun hzero => eq_singleton_of_head? hzero (Nat.le_of_not_lt (hleading hzero)), hvalue⟩
      · cases h
  · intro h
    have hle : naturalOf s ≤ 255 := by
      rw [h.value]
      exact Nat.le_of_lt_succ o.toNat_lt
    rw [if_neg, if_pos hle, h.value, UInt8.ofNat_toNat]
    simp only [not_or, not_not, not_and]
    refine ⟨⟨⟨h.ne_nil, Nat.not_lt.2 h.length_le⟩, h.digits⟩, fun hzero => ?_⟩
    rw [h.leading hzero]
    decide

/-- The texts of an address: its four octets with dots between them. -/
def Address.IsDotted (x : Address) (s : List Char) : Prop :=
  ∃ a b c d, s = a ++ '.' :: (b ++ '.' :: (c ++ '.' :: d)) ∧
    IsOctet a x.a ∧ IsOctet b x.b ∧ IsOctet c x.c ∧ IsOctet d x.d

theorem Address.ofChars?_eq_some_iff {x : Address} : Address.ofChars? s = some x ↔ x.IsDotted s := by
  constructor
  · intro h
    unfold Address.ofChars? at h
    split at h
    · next a b c d hparts =>
      split at h
      · next ha hb hc hd =>
        obtain rfl := Option.some.inj h
        refine ⟨a, b, c, d, ?_, octet?_eq_some_iff.1 ha, octet?_eq_some_iff.1 hb,
          octet?_eq_some_iff.1 hc, octet?_eq_some_iff.1 hd⟩
        calc s = ['.'].intercalate (s.splitOn '.') := (List.intercalate_splitOn '.').symm
          _ = a ++ '.' :: (b ++ '.' :: (c ++ '.' :: d)) := by
            rw [hparts]
            simp [List.intercalate]
      · cases h
    · cases h
  · rintro ⟨a, b, c, d, rfl, ha, hb, hc, hd⟩
    -- No octet has a dot in it, so the text is cut at these three only.
    have hdot : ∀ {s o}, IsOctet s o → '.' ∉ s := fun h => not_mem_of_digits h.digits rfl
    have hparts : (a ++ '.' :: (b ++ '.' :: (c ++ '.' :: d))).splitOn '.' = [a, b, c, d] := by
      rw [List.splitOn_append_cons_self_of_not_mem (hdot ha),
        List.splitOn_append_cons_self_of_not_mem (hdot hb),
        List.splitOn_append_cons_self_of_not_mem (hdot hc), List.splitOn_eq_singleton (hdot hd)]
    unfold Address.ofChars?
    rw [hparts]
    dsimp only
    rw [octet?_eq_some_iff.2 ha, octet?_eq_some_iff.2 hb, octet?_eq_some_iff.2 hc,
      octet?_eq_some_iff.2 hd]

theorem Address.ofChars?_eq_none_iff : Address.ofChars? s = none ↔ ∀ x : Address, ¬ x.IsDotted s := by
  simp only [Option.eq_none_iff_forall_ne_some, ne_eq, Address.ofChars?_eq_some_iff]

/-! ## Prefix lengths -/

/-- The texts of a prefix length: any digits of a number up to 32. -/
structure IsPrefixLength (s : List Char) (p : Nat) : Prop where
  ne_nil : s ≠ []
  digits : ∀ c ∈ s, isAsciiDigit c = true
  value : naturalOf s = p
  le : p ≤ 32

theorem prefixLength?_eq_some_iff {p : Nat} : prefixLength? s = some p ↔ IsPrefixLength s p := by
  unfold prefixLength?
  rw [Option.filter_eq_some_iff, readNatural?_eq_some_iff, String.toList_ofList, Bool.and_eq_true,
    decide_eq_true_eq, List.all_eq_true]
  constructor
  · rintro ⟨⟨hne, -, hvalue, -⟩, hle, hdigits⟩
    -- A sign would be dropped from the number, but not from the text that is checked once more.
    rw [unsignedDigits_of_digits hdigits] at hne hvalue
    exact ⟨hne, hdigits, hvalue, hle⟩
  · intro h
    rw [unsignedDigits_of_digits h.digits]
    exact ⟨⟨h.ne_nil, h.digits, h.value, h.le.trans (by decide)⟩, h.le, h.digits⟩

theorem prefixLength?_eq_none_iff : prefixLength? s = none ↔ ∀ p, ¬ IsPrefixLength s p := by
  simp only [Option.eq_none_iff_forall_ne_some, ne_eq, prefixLength?_eq_some_iff]

-- A number of eight bits may be written so, a prefix length may not.
example : readNatural? 0xFF "+8" = some 8 ∧ prefixLength? ['+', '8'] = none := by decide

/-! ## Blocks -/

namespace Block

/-- What a text without blanks at its ends is read as. It is cut at its first slash; in the block, the
bits of the address beyond the prefix are cleared. -/
inductive ReadsAs (t : List Char) : Except AddressError Block → Prop
  | missingPrefix (hslash : '/' ∉ t) : ReadsAs t (.error (.missingPrefix (String.ofList t)))
  | invalidAddress {before after : List Char} (ht : t = before ++ '/' :: after)
      (hfirst : '/' ∉ before) (hbefore : ∀ x : Address, ¬ x.IsDotted before) :
      ReadsAs t (.error (.invalidAddress (String.ofList t)))
  | invalidPrefix {before after : List Char} {x : Address} (ht : t = before ++ '/' :: after)
      (hfirst : '/' ∉ before) (hbefore : x.IsDotted before) (hafter : ∀ p, ¬ IsPrefixLength after p) :
      ReadsAs t (.error (.invalidPrefix (String.ofList t)))
  | block {before after : List Char} {x : Address} {b : Block} (ht : t = before ++ '/' :: after)
      (hfirst : '/' ∉ before) (hbefore : x.IsDotted before)
      (hafter : IsPrefixLength after b.prefixLength)
      (hnetwork : b.network.bits = x.bits &&& mask b.prefixLength) : ReadsAs t (.ok b)

theorem read_of_no_slash {raw : String} (hslash : '/' ∉ trimChars raw.toList) :
    Block.read raw = .error (.missingPrefix (String.ofList (trimChars raw.toList))) := by
  unfold Block.read
  dsimp only
  rw [splitFirst_eq_none hslash]

theorem read_of_cut {raw : String} (ht : trimChars raw.toList = before ++ '/' :: after)
    (hfirst : '/' ∉ before) : Block.read raw =
      match Address.ofChars? before, prefixLength? after with
      | none, _ => .error (.invalidAddress (String.ofList (trimChars raw.toList)))
      | some _, none => .error (.invalidPrefix (String.ofList (trimChars raw.toList)))
      | some x, some p => .ok (containing x p) := by
  unfold Block.read
  dsimp only
  rw [ht, splitFirst_append hfirst]
  dsimp only
  cases Address.ofChars? before with
  | none => rfl
  | some x => cases prefixLength? after <;> rfl

theorem readsAs_read (raw : String) : ReadsAs (trimChars raw.toList) (Block.read raw) := by
  by_cases hslash : '/' ∈ trimChars raw.toList
  · obtain ⟨before, after, ht, hfirst⟩ := List.eq_append_cons_of_mem hslash
    rw [read_of_cut ht hfirst]
    -- The parts are looked at from the left, and the first that is none of its kind decides.
    cases hx : Address.ofChars? before with
    | none => exact .invalidAddress ht hfirst (Address.ofChars?_eq_none_iff.1 hx)
    | some x =>
      have hbefore := Address.ofChars?_eq_some_iff.1 hx
      cases hp : prefixLength? after with
      | none => exact .invalidPrefix ht hfirst hbefore (prefixLength?_eq_none_iff.1 hp)
      | some p =>
        have hafter := prefixLength?_eq_some_iff.1 hp
        have hlength : (containing x p).prefixLength = p := Nat.min_eq_left hafter.le
        apply ReadsAs.block ht hfirst hbefore
        · rwa [hlength]
        · exact (contains_iff_bits.1 (contains_containing x p)).symm
  · rw [read_of_no_slash hslash]
    exact .missingPrefix hslash

theorem containing_of_bits {b : Block} {x : Address}
    (h : b.network.bits = x.bits &&& mask b.prefixLength) : containing x b.prefixLength = b := by
  symm
  apply eq_containing_iff.2
  exact ⟨contains_iff_bits.2 h.symm, (Nat.min_eq_left b.prefixLength_le).symm⟩

theorem ReadsAs.read_eq {raw : String} {answer : Except AddressError Block}
    (h : ReadsAs (trimChars raw.toList) answer) : Block.read raw = answer := by
  cases h with
  | missingPrefix hslash => exact read_of_no_slash hslash
  | invalidAddress ht hfirst hbefore =>
    rw [read_of_cut ht hfirst, Address.ofChars?_eq_none_iff.2 hbefore]
  | invalidPrefix ht hfirst hbefore hafter =>
    rw [read_of_cut ht hfirst, Address.ofChars?_eq_some_iff.2 hbefore,
      prefixLength?_eq_none_iff.2 hafter]
  | block ht hfirst hbefore hafter hnetwork =>
    rw [read_of_cut ht hfirst, Address.ofChars?_eq_some_iff.2 hbefore,
      prefixLength?_eq_some_iff.2 hafter]
    show Except.ok (containing _ _) = _
    rw [containing_of_bits hnetwork]

/-- **Every text is read as the grammar says**, as a block or as the first fault that it has. -/
theorem read_eq_iff (raw : String) (answer : Except AddressError Block) :
    Block.read raw = answer ↔ ReadsAs (trimChars raw.toList) answer := by
  constructor
  · intro h
    rw [← h]
    exact readsAs_read raw
  · exact ReadsAs.read_eq

end Block

end Provisioning
