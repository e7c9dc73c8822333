import Provisioning.Proofs.Network.Notation
import Provisioning.Proofs.Text.Digits
import Provisioning.Proofs.Text.Trimming

/-!
# The text of a block

A block can be written in many ways: with any of its addresses, with zeros before the length of its
prefix, and with blanks around both. All are read as the block, and its own text is one of them. So that
text is the same however a block was written, and no other block has it.

## Main definitions

* `Block.IsSpelling`: the ways to write a block
* `Block.HasCanonicalText`: what the text of a block is to these

## Main results

* `Address.isDotted_iff`, `isPrefixLength_iff`: an address has one text, a prefix length one up to zeros
* `Block.read_eq_ok_iff`: the texts that are read as a block
* `Block.hasCanonicalText`: every block has such a text
-/

namespace Provisioning

open Text

variable {s t u : List Char} {p : Nat}

/-! ## Parts of a text -/

theorem isOctet_iff {o : UInt8} : IsOctet s o ↔ s = Nat.toDigits 10 o.toNat := by
  constructor
  · intro h
    rw [← h.value, toDigits_naturalOf h.ne_nil h.digits h.leading]
  · rintro rfl
    refine ⟨Nat.toDigits_ne_nil, ?_, fun _ hc => isAsciiDigit_of_mem_toDigits hc, fun hzero => ?_,
      naturalOf_toDigits _⟩
    · have hlt : o.toNat < 10 ^ 3 := o.toNat_lt.trans (by decide)
      exact (Nat.length_toDigits_le_iff (by decide) (by decide)).2 hlt
    · rcases Nat.eq_zero_or_pos o.toNat with heq | hpos
      · rw [heq]
        rfl
      · exact absurd hzero (head?_toDigits_ne_zero hpos)

theorem Address.toList_text (x : Address) :
    x.text.toList = Nat.toDigits 10 x.a.toNat ++ '.' :: (Nat.toDigits 10 x.b.toNat ++
      '.' :: (Nat.toDigits 10 x.c.toNat ++ '.' :: Nat.toDigits 10 x.d.toNat)) := by
  have hdot : ".".toList = ['.'] := rfl
  unfold Address.text
  simp only [String.toList_append, Nat.toString_eq_ofList_toDigits, String.toList_ofList, hdot,
    List.append_assoc, List.cons_append, List.nil_append]

/-- An address has one text. -/
theorem Address.isDotted_iff {x : Address} : x.IsDotted s ↔ s = x.text.toList := by
  rw [Address.toList_text]
  constructor
  · rintro ⟨a, b, c, d, rfl, ha, hb, hc, hd⟩
    rw [isOctet_iff.1 ha, isOctet_iff.1 hb, isOctet_iff.1 hc, isOctet_iff.1 hd]
  · intro hs
    exact ⟨_, _, _, _, hs, isOctet_iff.2 rfl, isOctet_iff.2 rfl, isOctet_iff.2 rfl, isOctet_iff.2 rfl⟩

/-- A prefix length has one text, up to zeros before it. -/
theorem isPrefixLength_iff :
    IsPrefixLength s p ↔ p ≤ 32 ∧ ∃ n, s = List.replicate n '0' ++ Nat.toDigits 10 p := by
  constructor
  · rintro ⟨hne, hdigits, rfl, hle⟩
    exact ⟨hle, exists_eq_zeros_append_toDigits hne hdigits⟩
  · rintro ⟨hle, n, rfl⟩
    refine ⟨List.append_ne_nil_of_right_ne_nil _ Nat.toDigits_ne_nil, fun c hc => ?_, ?_, hle⟩
    · rcases List.mem_append.1 hc with hzero | hdigit
      · rw [List.eq_of_mem_replicate hzero]
        rfl
      · exact isAsciiDigit_of_mem_toDigits hdigit
    · rw [naturalOf_zeros_append, naturalOf_toDigits]

/-- A text between digits has no blanks at its ends. -/
theorem isTrimmed_between_toDigits (m n : Nat) (s : List Char) :
    IsTrimmed (Nat.toDigits 10 m ++ (s ++ Nat.toDigits 10 n)) := by
  have hblank : ∀ {n c}, c ∈ Nat.toDigits 10 n → isBlank c = false := fun h =>
    isBlank_of_isAsciiDigit (isAsciiDigit_of_mem_toDigits h)
  constructor
  · intro c hc
    rw [List.head?_append_of_ne_nil _ Nat.toDigits_ne_nil] at hc
    exact hblank (List.mem_of_mem_head? hc)
  · intro c hc
    rw [List.getLast?_append_of_ne_nil _ (List.append_ne_nil_of_right_ne_nil _ Nat.toDigits_ne_nil),
      List.getLast?_append_of_ne_nil _ Nat.toDigits_ne_nil] at hc
    exact hblank (List.mem_of_mem_getLast? hc)

/-! ## Spellings -/

namespace Block

variable {b : Block} {raw : String}

/-- An address, a slash, zeros and the length of a prefix. -/
def spelled (x : Address) (zeros p : Nat) : String :=
  x.text ++ "/" ++ repeated zeros '0' ++ toString p

/-- A text is a way to write a block: with any of its addresses, any zeros before the length of the
prefix, and any blanks around these. -/
def IsSpelling (b : Block) (raw : String) : Prop :=
  ∃ (before after : String) (x : Address) (zeros : Nat),
    raw = before ++ spelled x zeros b.prefixLength ++ after ∧
      isBlankText before = true ∧ isBlankText after = true ∧ b.contains x = true

theorem toList_spelled (x : Address) (zeros p : Nat) : (spelled x zeros p).toList =
    x.text.toList ++ '/' :: (List.replicate zeros '0' ++ Nat.toDigits 10 p) := by
  have hslash : "/".toList = ['/'] := rfl
  unfold spelled repeated
  simp only [String.toList_append, Nat.toString_eq_ofList_toDigits, String.toList_ofList, hslash,
    List.append_assoc, List.cons_append, List.nil_append]

theorem isTrimmed_spelled (x : Address) (zeros p : Nat) : IsTrimmed (spelled x zeros p).toList := by
  -- It starts with the first octet and ends with the length of the prefix.
  have h := isTrimmed_between_toDigits x.a.toNat p ('.' :: (Nat.toDigits 10 x.b.toNat ++
    '.' :: (Nat.toDigits 10 x.c.toNat ++ '.' :: (Nat.toDigits 10 x.d.toNat ++
      '/' :: List.replicate zeros '0'))))
  rw [toList_spelled, Address.toList_text]
  simpa only [List.append_assoc, List.cons_append] using h

theorem slash_not_mem_text (x : Address) : '/' ∉ x.text.toList := by
  have hdigits : ∀ n, '/' ∉ Nat.toDigits 10 n := fun n =>
    not_mem_of_digits (fun _ => isAsciiDigit_of_mem_toDigits) rfl
  rw [Address.toList_text]
  simp [hdigits]

theorem read_of_isSpelling (h : b.IsSpelling raw) : Block.read raw = .ok b := by
  obtain ⟨before, after, x, zeros, rfl, hbefore, hafter, hx⟩ := h
  have htrimmed : trimChars (before ++ spelled x zeros b.prefixLength ++ after).toList =
      (spelled x zeros b.prefixLength).toList := by
    refine trimChars_eq_iff.2 ⟨isTrimmed_spelled x zeros _, before.toList, after.toList, ?_,
      List.all_eq_true.1 hbefore, List.all_eq_true.1 hafter⟩
    rw [String.toList_append, String.toList_append, List.append_assoc]
  apply ReadsAs.read_eq
  rw [htrimmed, toList_spelled]
  exact .block rfl (slash_not_mem_text x) (Address.isDotted_iff.2 rfl)
    (isPrefixLength_iff.2 ⟨b.prefixLength_le, zeros, rfl⟩) (contains_iff_bits.1 hx).symm

theorem isSpelling_of_read (h : Block.read raw = .ok b) : b.IsSpelling raw := by
  have hreads : ReadsAs (trimChars raw.toList) (.ok b) := h ▸ readsAs_read raw
  obtain ⟨before, after, hraw, hbefore, hafter⟩ := exists_eq_append_trimChars raw.toList
  cases hreads with
  | block ht hfirst haddress hlength hnetwork =>
    obtain ⟨-, zeros, hzeros⟩ := isPrefixLength_iff.1 hlength
    rw [Address.isDotted_iff] at haddress
    refine ⟨String.ofList before, String.ofList after, _, zeros, ?_, isBlankText_ofList.2 hbefore,
      isBlankText_ofList.2 hafter, contains_iff_bits.2 hnetwork.symm⟩
    rw [← String.toList_inj, String.toList_append, String.toList_append, toList_spelled,
      String.toList_ofList, String.toList_ofList, List.append_assoc, hraw, ht, haddress, hzeros]

/-- The texts that are read as a block are the ways to write it. -/
theorem read_eq_ok_iff : Block.read raw = .ok b ↔ b.IsSpelling raw :=
  ⟨isSpelling_of_read, read_of_isSpelling⟩

/-! ## The text of a block -/

theorem isSpelling_text {before after : String} (b : Block) (hbefore : isBlankText before = true)
    (hafter : isBlankText after = true) : b.IsSpelling (before ++ b.text ++ after) := by
  have htext : b.text = spelled b.network 0 b.prefixLength := by
    have hzeros : b.network.text ++ "/" ++ repeated 0 '0' = b.network.text ++ "/" :=
      String.append_empty
    rw [spelled, hzeros, text]
  exact ⟨before, after, b.network, 0, by rw [htext], hbefore, hafter, b.contains_network⟩

theorem read_text (b : Block) : Block.read b.text = .ok b := by
  have hempty : isBlankText "" = true := rfl
  have h := read_of_isSpelling (b.isSpelling_text hempty hempty)
  rwa [String.empty_append, String.append_empty] at h

/-- No two blocks have one text. -/
theorem eq_of_text_eq {c : Block} (h : c.text = b.text) : c = b := by
  have hread := c.read_text
  rw [h, b.read_text] at hread
  exact (Except.ok.inj hread).symm

/-- The text of a block stands for it, among all the texts that are read as blocks. -/
structure HasCanonicalText (b : Block) : Prop where
  /-- It is read as the block, whatever blanks stand around it. -/
  read_padded : ∀ before after, isBlankText before = true → isBlankText after = true →
    Block.read (before ++ b.text ++ after) = .ok b
  /-- So is every way to write the block, and nothing else. -/
  read_spelling : ∀ raw, Block.read raw = .ok b ↔ b.IsSpelling raw
  /-- A text that is read as some block has one that is read alike, and this is the text of `b` for the
  ways to write `b` only. -/
  text_eq_iff : ∀ raw c, Block.read raw = .ok c →
    Block.read c.text = .ok c ∧ (c.text = b.text ↔ b.IsSpelling raw)

/-- **Every block has a text of its own**, which is the same however the block is written. -/
theorem hasCanonicalText (b : Block) : b.HasCanonicalText := by
  refine ⟨?_, fun raw => read_eq_ok_iff, ?_⟩
  · intro before after hbefore hafter
    exact read_of_isSpelling (b.isSpelling_text hbefore hafter)
  · intro raw c hc
    refine ⟨c.read_text, fun htext => ?_, fun hraw => ?_⟩
    · rw [eq_of_text_eq htext] at hc
      exact isSpelling_of_read hc
    · rw [read_of_isSpelling hraw] at hc
      rw [Except.ok.inj hc]

-- The bits of the host, the zero and the blanks are no part of the block.
example : Block.read "\t10.1.2.3/08 " = .ok (containing ⟨10, 1, 2, 3⟩ 8) ∧
    (containing ⟨10, 1, 2, 3⟩ 8).text = "10.0.0.0/8" := by decide

end Block

end Provisioning
