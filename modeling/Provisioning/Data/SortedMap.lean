/-!
# Sorted maps

Finite maps as association lists with strictly ascending keys, so that maps with the same entries are
equal and entries come in the order of their keys.

## Main definitions

* `KeyOrder`: the strict orders of keys
* `SortedMap κ ν`: the maps
* `SortedMap.insert`, `SortedMap.get?`: a map with one entry set, and the value at a key

## Main results

* `SortedMap.get?_insert`: what is found after an entry is set
-/

namespace Provisioning

/-- Strict orders in which any two keys can be compared. -/
class KeyOrder (κ : Type) extends LT κ where
  /-- Equality of keys can be decided. -/
  decEq : DecidableEq κ
  /-- The order can be decided. -/
  decLt : (a b : κ) → Decidable (a < b)
  /-- No key comes before itself. -/
  irrefl : ∀ a : κ, ¬ a < a
  /-- The order is transitive. -/
  trans : ∀ {a b c : κ}, a < b → b < c → a < c
  /-- Two keys that are not in order either way are equal. -/
  total : ∀ {a b : κ}, ¬ a < b → a ≠ b → b < a

instance (priority := low) KeyOrder.decidableEq {κ : Type} [KeyOrder κ] : DecidableEq κ :=
  KeyOrder.decEq

instance (priority := low) KeyOrder.decidableLt {κ : Type} [KeyOrder κ] (a b : κ) :
    Decidable (a < b) :=
  KeyOrder.decLt a b

instance : KeyOrder String where
  decEq := inferInstance
  decLt := fun _ _ => inferInstance
  irrefl := String.lt_irrefl
  trans := String.lt_trans
  total := fun h hne => String.not_le.1 fun hle => hne (String.le_antisymm hle (String.not_lt.1 h))

instance : KeyOrder UInt32 where
  decEq := inferInstance
  decLt := fun _ _ => inferInstance
  irrefl := UInt32.lt_irrefl
  trans := UInt32.lt_trans
  total := fun h hne =>
    UInt32.not_le.1 fun hle => hne (UInt32.le_antisymm hle (UInt32.not_lt.1 h))

variable {κ ν : Type} [KeyOrder κ]

namespace Entries

/-- An entry put into an ascending list at its place; an entry of the same key is replaced. -/
def insert (k : κ) (v : ν) : List (κ × ν) → List (κ × ν)
  | [] => [(k, v)]
  | (j, w) :: rest =>
    if k < j then (k, v) :: (j, w) :: rest
    else if k = j then (k, v) :: rest
    else (j, w) :: insert k v rest

/-- The value at a key. -/
def get? (k : κ) : List (κ × ν) → Option ν
  | [] => none
  | (j, w) :: rest => if k = j then some w else get? k rest

theorem mem_insert {k : κ} {v : ν} {e : κ × ν} {l : List (κ × ν)} (h : e ∈ insert k v l) :
    e = (k, v) ∨ e ∈ l := by
  induction l with
  | nil => simpa [insert] using h
  | cons x rest ih =>
    obtain ⟨j, w⟩ := x
    rw [insert] at h
    split at h
    · simpa using h
    · split at h
      · simp only [List.mem_cons] at h ⊢
        exact h.imp id Or.inr
      · simp only [List.mem_cons] at h ⊢
        rcases h with h | h
        · exact Or.inr (Or.inl h)
        · exact (ih h).imp id Or.inr

theorem insert_ascending {k : κ} {v : ν} {l : List (κ × ν)}
    (h : l.Pairwise fun x y => x.1 < y.1) : (insert k v l).Pairwise fun x y => x.1 < y.1 := by
  induction l with
  | nil => simp [insert]
  | cons x rest ih =>
    obtain ⟨j, w⟩ := x
    rw [List.pairwise_cons] at h
    rw [insert]
    split
    · next hkj =>
      refine List.pairwise_cons.2 ⟨fun e he => ?_, List.pairwise_cons.2 h⟩
      rcases List.mem_cons.1 he with rfl | he
      · exact hkj
      · exact KeyOrder.trans hkj (h.1 e he)
    · next hkj =>
      split
      · next heq =>
        subst heq
        exact List.pairwise_cons.2 ⟨h.1, h.2⟩
      · next hne =>
        refine List.pairwise_cons.2 ⟨fun e he => ?_, ih h.2⟩
        rcases mem_insert he with rfl | he
        · exact KeyOrder.total hkj hne
        · exact h.1 e he

theorem get?_insert {k k' : κ} {v : ν} {l : List (κ × ν)} :
    get? k' (insert k v l) = if k' = k then some v else get? k' l := by
  induction l with
  | nil => simp [insert, get?]
  | cons x rest ih =>
    obtain ⟨j, w⟩ := x
    rw [insert]
    split
    · simp [get?]
    · split
      · next heq => subst heq; by_cases h : k' = k <;> simp [get?, h]
      · next hne =>
        by_cases h : k' = j
        · subst h
          simp [get?, Ne.symm hne]
        · simp [get?, h, ih]

/-- An entry whose key comes last is put at the end. -/
theorem insert_of_forall_lt {k : κ} {v : ν} {l : List (κ × ν)} (h : ∀ e ∈ l, e.1 < k) :
    insert k v l = l ++ [(k, v)] := by
  induction l with
  | nil => rfl
  | cons x rest ih =>
    obtain ⟨j, w⟩ := x
    have hjk : j < k := h (j, w) List.mem_cons_self
    have hkj : ¬ k < j := fun hkj => KeyOrder.irrefl k (KeyOrder.trans hkj hjk)
    have hne : k ≠ j := fun heq => KeyOrder.irrefl k (heq ▸ hjk)
    rw [insert, if_neg hkj, if_neg hne, ih fun e he => h e (List.mem_cons_of_mem _ he)]
    rfl

theorem get?_eq_none {k : κ} {entries : List (κ × ν)}
    (h : ∀ e ∈ entries, k < e.1) : get? k entries = none := by
  induction entries with
  | nil => rfl
  | cons e rest ih =>
    have hne : k ≠ e.1 := fun he => KeyOrder.irrefl k (he ▸ h e List.mem_cons_self)
    rw [get?, if_neg hne]
    exact ih fun e he => h e (List.mem_cons_of_mem _ he)

/-- An entry of an ascending list is found under its key. -/
theorem get?_of_mem {e : κ × ν} {entries : List (κ × ν)}
    (hascending : entries.Pairwise fun x y => x.1 < y.1) (he : e ∈ entries) :
    get? e.1 entries = some e.2 := by
  induction entries with
  | nil => cases he
  | cons first rest ih =>
    rw [List.pairwise_cons] at hascending
    rcases List.mem_cons.1 he with rfl | he
    · rw [get?, if_pos rfl]
    · have hne : e.1 ≠ first.1 := fun heq => KeyOrder.irrefl e.1 (heq ▸ hascending.1 e he)
      rw [get?, if_neg hne]
      exact ih hascending.2 he

theorem mem_of_get? {k : κ} {v : ν} {entries : List (κ × ν)} (h : get? k entries = some v) :
    (k, v) ∈ entries := by
  induction entries with
  | nil => cases h
  | cons first rest ih =>
    rw [get?] at h
    split at h
    · next hk =>
      obtain rfl := Option.some.inj h
      exact hk ▸ List.mem_cons_self
    · exact List.mem_cons_of_mem _ (ih h)

/-- An entry that is there is put at its own place. -/
theorem insert_of_get? {k : κ} {v : ν} {entries : List (κ × ν)}
    (hascending : entries.Pairwise fun x y => x.1 < y.1) (h : get? k entries = some v) :
    insert k v entries = entries := by
  induction entries with
  | nil => cases h
  | cons first rest ih =>
    obtain ⟨j, w⟩ := first
    rw [List.pairwise_cons] at hascending
    rw [get?] at h
    split at h
    · next hk =>
      obtain rfl := Option.some.inj h
      rw [insert, if_neg (hk ▸ KeyOrder.irrefl k), if_pos hk, hk]
    · next hk =>
      have hjk : j < k := hascending.1 (k, v) (mem_of_get? h)
      have hkj : ¬ k < j := fun hkj => KeyOrder.irrefl k (KeyOrder.trans hkj hjk)
      rw [insert, if_neg hkj, if_neg hk, ih hascending.2 h]

end Entries

/-- A finite map with its entries in the order of their keys. -/
structure SortedMap (κ ν : Type) [KeyOrder κ] where
  /-- The entries. -/
  toList : List (κ × ν)
  /-- Each key comes before the next. -/
  ascending : toList.Pairwise fun x y => x.1 < y.1

namespace SortedMap

theorem ext {m n : SortedMap κ ν} (h : m.toList = n.toList) : m = n := by
  cases m; cases n; cases h; rfl

instance [DecidableEq ν] : DecidableEq (SortedMap κ ν) := fun m n =>
  if h : m.toList = n.toList then isTrue (ext h) else isFalse fun e => h (congrArg toList e)

/-- The map without entries. -/
def empty : SortedMap κ ν := ⟨[], List.Pairwise.nil⟩

instance : Inhabited (SortedMap κ ν) := ⟨empty⟩

/-- The map with the value at a key set. -/
def insert (m : SortedMap κ ν) (k : κ) (v : ν) : SortedMap κ ν :=
  ⟨Entries.insert k v m.toList, Entries.insert_ascending m.ascending⟩

/-- The value at a key. -/
def get? (m : SortedMap κ ν) (k : κ) : Option ν := Entries.get? k m.toList

/-- The map of a list of entries, of which the last one of a key counts. -/
def ofList (entries : List (κ × ν)) : SortedMap κ ν :=
  entries.foldl (fun m e => m.insert e.1 e.2) empty

/-- A map is that of its entries. -/
theorem ofList_toList (m : SortedMap κ ν) : ofList m.toList = m := by
  have hfold (l : List (κ × ν)) (n : SortedMap κ ν)
      (h : (n.toList ++ l).Pairwise fun x y => x.1 < y.1) :
      (l.foldl (fun m e => m.insert e.1 e.2) n).toList = n.toList ++ l := by
    -- The entries are put in one by one, each at the end.
    induction l generalizing n with
    | nil => simp
    | cons e l ih =>
      have hlast : (n.insert e.1 e.2).toList = n.toList ++ [e] :=
        Entries.insert_of_forall_lt fun x hx =>
          (List.pairwise_append.1 h).2.2 x hx e List.mem_cons_self
      rw [List.foldl_cons, ih (n.insert e.1 e.2) (by rw [hlast]; simpa using h), hlast]
      simp
  exact ext (hfold m.toList empty m.ascending)

/-- No key has two entries. -/
theorem nodup_keys (m : SortedMap κ ν) : (m.toList.map Prod.fst).Nodup := by
  refine List.pairwise_map.2 (m.ascending.imp ?_)
  intro e e' hlt heq
  exact KeyOrder.irrefl e'.1 (heq ▸ hlt)

/-- The values in the order of their keys. -/
def values (m : SortedMap κ ν) : List ν := m.toList.map Prod.snd

theorem get?_insert (m : SortedMap κ ν) (k k' : κ) (v : ν) :
    (m.insert k v).get? k' = if k' = k then some v else m.get? k' :=
  Entries.get?_insert

/-- To set what is there already changes nothing. -/
theorem insert_of_get? {m : SortedMap κ ν} {k : κ} {v : ν} (h : m.get? k = some v) :
    m.insert k v = m :=
  ext (Entries.insert_of_get? m.ascending h)

@[simp] theorem get?_empty (k : κ) : (empty : SortedMap κ ν).get? k = none := rfl

end SortedMap

end Provisioning
