/-!
# Addresses

Addresses of four octets, and their numbers: the first octet counts most. The address after the last
one is the first.

## Main definitions

* `Address`: four octets
* `Address.toNat`, `Address.ofNat`: its number, and the address of a number modulo `2^32`
* `Address.next`, `Address.previous`: the neighbours, cyclically
* `Address.text`: the dotted text

## Main results

* `Address.toNat_lt`: numbers have 32 bits
* `Address.ofNat_toNat`, `Address.toNat_ofNat`: the two views agree
* `Address.toNat_next`: the number of the following address
-/

namespace Provisioning

/-- An address of four octets. -/
structure Address where
  /-- The most significant octet. -/
  a : UInt8
  /-- The second octet. -/
  b : UInt8
  /-- The third octet. -/
  c : UInt8
  /-- The least significant octet. -/
  d : UInt8
deriving DecidableEq, Inhabited

namespace Address

/-- The number of an address. -/
def toNat (x : Address) : Nat :=
  ((x.a.toNat * 256 + x.b.toNat) * 256 + x.c.toNat) * 256 + x.d.toNat

/-- The address of a number modulo `2^32`. -/
def ofNat (n : Nat) : Address where
  a := UInt8.ofNat (n / 0x1000000)
  b := UInt8.ofNat (n / 0x10000)
  c := UInt8.ofNat (n / 0x100)
  d := UInt8.ofNat n

theorem toNat_lt (x : Address) : x.toNat < 0x100000000 := by
  have := x.a.toNat_lt
  have := x.b.toNat_lt
  have := x.c.toNat_lt
  have := x.d.toNat_lt
  simp only [toNat]
  omega

theorem toNat_ofNat (n : Nat) : (ofNat n).toNat = n % 0x100000000 := by
  simp only [toNat, ofNat, UInt8.toNat_ofNat']
  omega

@[simp] theorem ofNat_toNat (x : Address) : ofNat x.toNat = x := by
  have h : ∀ (o : UInt8) (n : Nat), n % 256 = o.toNat → UInt8.ofNat n = o := by
    intro o n hn
    apply UInt8.toNat_inj.1
    simp only [UInt8.toNat_ofNat']
    omega
  obtain ⟨a, b, c, d⟩ := x
  have ha := a.toNat_lt
  have hb := b.toNat_lt
  have hc := c.toNat_lt
  have hd := d.toNat_lt
  simp only [ofNat, toNat, Address.mk.injEq]
  exact ⟨h _ _ (by omega), h _ _ (by omega), h _ _ (by omega), h _ _ (by omega)⟩

theorem toNat_inj {x y : Address} (h : x.toNat = y.toNat) : x = y := by
  rw [← ofNat_toNat x, ← ofNat_toNat y, h]

instance : LE Address := ⟨fun x y => x.toNat ≤ y.toNat⟩
instance : LT Address := ⟨fun x y => x.toNat < y.toNat⟩
instance decidableLe (x y : Address) : Decidable (x ≤ y) :=
  inferInstanceAs (Decidable (x.toNat ≤ y.toNat))
instance decidableLt (x y : Address) : Decidable (x < y) :=
  inferInstanceAs (Decidable (x.toNat < y.toNat))

theorem le_def {x y : Address} : x ≤ y ↔ x.toNat ≤ y.toNat := Iff.rfl

theorem lt_def {x y : Address} : x < y ↔ x.toNat < y.toNat := Iff.rfl

/-- The order of the octets, from the left. -/
def octetsLt (x y : Address) : Bool :=
  x.a < y.a || x.a == y.a && (x.b < y.b || x.b == y.b && (x.c < y.c || x.c == y.c && x.d < y.d))

/-- The following address; the last one is followed by the first. -/
def next (x : Address) : Address := ofNat (x.toNat + 1)

theorem lt_of_le_of_ne {x y : Address} (h : x ≤ y) (hne : x ≠ y) : x < y :=
  Nat.lt_of_le_of_ne h fun e => hne (toNat_inj e)

theorem toNat_next {x y : Address} (h : x < y) : x.next.toNat = x.toNat + 1 := by
  have hx := lt_def.1 h
  have hy := y.toNat_lt
  rw [next, toNat_ofNat, Nat.mod_eq_of_lt (by omega)]

/-- An address below another is followed by one that is not above it. -/
theorem next_le {x y : Address} (h : x < y) : x.next ≤ y := by
  rw [le_def, toNat_next h]
  exact h

/-- The preceding address; the first one is preceded by the last. -/
def previous (x : Address) : Address := ofNat (x.toNat + 0xFFFFFFFF)

/-- The dotted text. -/
def text (x : Address) : String :=
  toString x.a.toNat ++ "." ++ toString x.b.toNat ++ "." ++ toString x.c.toNat ++ "." ++
    toString x.d.toNat

end Address

end Provisioning
