import Provisioning.Json.Print
import Provisioning.Json.Read

/-!
# What readers read

A reader proves of its rest that it is shorter. Here the rest is taken as a plain text, and each reader
that is put together from others is described by what those read. A written array is then read item by
item, and a written object member by member.

## Main definitions

* `Reader.result reader s`: what a reader reads of a text, and the rest
* `EndsValue t`: a text that may follow a value within an array or an object
* `Takes key entry state members final`: the members of an object lead its reader from one state to
  another

## Main results

* `readAll_eq_ok_iff`: a whole text is read if only blanks are left
* `result_array`: the items of a written array are read one by one
* `Takes.result_object`: a written object is read if its members are
-/

namespace Provisioning.Json

open Text

variable {α β κ σ : Type} {reader : Reader α} {s t : List Char} {c : Char}

/-- What a reader reads of a text, and the rest. -/
def Reader.result (reader : Reader α) (s : List Char) : Except Fault (α × List Char) :=
  (reader s).map fun (a, r) => (a, r.1)

theorem result_eq_ok {a : α} :
    reader.result s = .ok (a, t) ↔ ∃ h : t.length < s.length, reader s = .ok (a, ⟨t, h⟩) := by
  unfold Reader.result
  rcases reader s with e | ⟨a', r, hr⟩
  · simp [Except.map]
  · simp only [Except.map, Except.ok.injEq, Prod.mk.injEq, Subtype.mk.injEq]
    constructor
    · rintro ⟨rfl, rfl⟩
      exact ⟨hr, rfl, rfl⟩
    · rintro ⟨-, rfl, rfl⟩
      exact ⟨rfl, rfl⟩

theorem readAll_eq_ok_iff {a : α} {text : String} :
    readAll reader text = .ok a ↔
      ∃ r, reader.result text.toList = .ok (a, r) ∧ skipBlank r = [] := by
  unfold readAll Reader.result
  rcases reader text.toList with e | ⟨b, r⟩
  · simp [Except.map]
  · simp only [Except.map, Except.ok.injEq, Prod.mk.injEq, List.isEmpty_iff]
    constructor
    · intro h
      split at h
      · next hr => exact ⟨r.1, ⟨Except.ok.inj h, rfl⟩, hr⟩
      · cases h
    · rintro ⟨_, ⟨rfl, rfl⟩, hr⟩
      rw [if_pos hr]

/-! ## Readers put together -/

theorem result_map (f : α → β) :
    (reader.map f).result s = (reader.result s).map fun (a, r) => (f a, r) := by
  unfold Reader.result Reader.map
  rcases reader s with e | ⟨a, r⟩ <;> rfl

theorem result_bind (f : α → Except Fault β) :
    (reader.bind f).result s = (reader.result s).bind fun (a, r) => (f a).map fun b => (b, r) := by
  unfold Reader.result Reader.bind
  rcases reader s with e | ⟨a, r⟩
  · rfl
  · cases h : f a <;> simp [h, Except.map, Except.bind]

theorem orMismatch_eq_ok_iff {o : Option α} {a : α} : orMismatch o = .ok a ↔ o = some a := by
  cases o <;> simp [orMismatch]

theorem result_bind_orMismatch {f : α → Option β} {a : α} {b : β}
    (hread : reader.result s = .ok (a, t)) (hf : f a = some b) :
    (reader.bind fun a => orMismatch (f a)).result s = .ok (b, t) := by
  rw [result_bind, hread]
  change ((orMismatch (f a)).map fun b => (b, t)) = _
  rw [orMismatch_eq_ok_iff.2 hf]
  rfl

theorem result_afterBlank : (afterBlank reader).result s = reader.result (skipBlank s) := by
  unfold Reader.result afterBlank
  rcases reader (skipBlank s) with e | ⟨a, r⟩ <;> rfl

theorem result_afterOpening : (afterOpening reader).result (c :: s) = reader.result s := by
  unfold Reader.result afterOpening
  rcases h : reader s with e | ⟨a, r⟩ <;> simp [h, Except.map, Rest.cons]

theorem skipBlank_cons (hc : isJsonBlank c = false) : skipBlank (c :: s) = c :: s := by
  unfold skipBlank
  rw [List.dropWhile_cons, hc, if_neg Bool.false_ne_true]

theorem result_startingWith {p : Char → Bool} (hs : (skipBlank s).head? = some c) (hc : p c = true) :
    (startingWith p reader).result s = reader.result (skipBlank s) := by
  unfold startingWith
  rw [result_afterBlank]
  unfold Reader.result
  simp only [hs, hc, if_true]

theorem exists_head?_of_startingWith {p : Char → Bool} {a : α}
    (h : (startingWith p reader).result s = .ok (a, t)) :
    ∃ c, (skipBlank s).head? = some c ∧ p c = true := by
  unfold startingWith at h
  rw [result_afterBlank] at h
  unfold Reader.result at h
  cases hhead : (skipBlank s).head? with
  | none =>
    simp only [hhead] at h
    cases h
  | some c =>
    simp only [hhead] at h
    by_cases hc : p c = true
    · exact ⟨c, rfl, hc⟩
    · rw [if_neg hc] at h
      cases h

theorem result_wordThen (letters : List Char) (a : α) :
    Reader.result (wordThen letters a) (c :: (letters ++ t)) = .ok (a, t) := by
  -- The induction is on the letters, which are in the proof that the rest is shorter: it is dropped.
  have hword : (word letters (letters ++ t)).map Subtype.val = .ok t := by
    induction letters with
    | nil => rfl
    | cons d letters ih =>
      rw [List.cons_append, word, if_pos rfl]
      rcases h : word letters (letters ++ t) with e | r
      · rw [h] at ih
        cases ih
      · rw [h] at ih
        exact ih
  unfold Reader.result wordThen
  rcases h : word letters (letters ++ t) with e | r
  · rw [h] at hword
    cases hword
  · rw [h] at hword
    simp only [h, Except.map, Tail.cons] at hword ⊢
    rw [Except.ok.inj hword]

/-! ## Arrays -/

/-- A text that may follow a value: its end, or what stands after an item or a member. -/
def EndsValue (t : List Char) : Prop := ∀ c ∈ t.head?, c = ',' ∨ c = ']' ∨ c = '\x7d'

/-- A text that starts with neither a blank nor a closing bracket. -/
def StartsItem (s : List Char) : Prop := ∃ c r, s = c :: r ∧ isJsonBlank c = false ∧ c ≠ ']'

theorem StartsItem.append (hs : StartsItem s) (t : List Char) : StartsItem (s ++ t) := by
  obtain ⟨c, r, rfl, hc⟩ := hs
  exact ⟨c, r ++ t, rfl, hc⟩

theorem nextItem_true (hs : StartsItem s) : nextItem true s = .ok (.more ⟨s, Nat.le_refl _⟩) := by
  obtain ⟨c, r, rfl, hblank, hne⟩ := hs
  have hskip : skipBlank (c :: r) = c :: r := skipBlank_cons hblank
  unfold nextItem
  split
  · next h => cases hskip.symm.trans h
  · next d rest h =>
    obtain ⟨rfl, rfl⟩ := List.cons.inj (hskip.symm.trans h)
    simp [hne]

theorem nextItem_false (hs : StartsItem s) :
    nextItem false (',' :: s) = .ok (.more ⟨s, Nat.le_succ _⟩) := by
  obtain ⟨c, r, rfl, hblank, hne⟩ := hs
  have hskip : skipBlank (',' :: c :: r) = ',' :: c :: r := skipBlank_cons rfl
  have hskip' : skipBlank (c :: r) = c :: r := skipBlank_cons hblank
  unfold nextItem
  split
  · next h => cases hskip.symm.trans h
  · next d rest h =>
    obtain ⟨rfl, rfl⟩ := List.cons.inj (hskip.symm.trans h)
    simp only [Bool.false_eq_true, if_false, if_true, Char.reduceEq]
    split
    · next h' => cases hskip'.symm.trans h'
    · next h' => exact absurd (List.cons.inj (hskip'.symm.trans h')).1 hne
    · next h' =>
      obtain ⟨rfl, rfl⟩ := List.cons.inj (hskip'.symm.trans h')
      rfl

theorem result_itemsThen_close (item : σ → Reader σ) (first : Bool) (state : σ) :
    Reader.result (itemsThen item first state) (']' :: t) = .ok (state, t) := by
  have hnext : nextItem first (']' :: t) = .ok (.done ⟨t, Nat.lt_succ_self _⟩) := rfl
  unfold Reader.result
  rw [itemsThen, hnext]
  rfl

theorem result_itemsThen {item : σ → Reader σ} {first : Bool} {state : σ} {r : List Char}
    {hr : r.length ≤ s.length} (h : nextItem first s = .ok (.more ⟨r, hr⟩)) :
    Reader.result (itemsThen item first state) s =
      ((item state).result r).bind fun (state, rest) =>
        Reader.result (itemsThen item false state) rest := by
  unfold Reader.result
  rw [itemsThen, h]
  dsimp only
  rcases item state r with e | ⟨next, rest, hrest⟩
  · rfl
  · dsimp only [Except.map, Except.bind]
    rcases itemsThen item false next rest with e | ⟨final, rest'⟩ <;> rfl

/-- The items of an array, with a comma before each of them. -/
def moreItems (items : List Value) : List Char := items.flatMap fun v => ',' :: (compact v).toList

theorem toList_compactItems (v : Value) (items : List Value) :
    (compactItems (v :: items)).toList = (compact v).toList ++ moreItems items := by
  induction items generalizing v with
  | nil => simp [compactItems, moreItems]
  | cons w items ih =>
    rw [compactItems, String.toList_append, String.toList_append, ih]
    · simp [moreItems]
    · simp

theorem endsValue_more (items : List Value) (t : List Char) :
    EndsValue (moreItems items ++ ']' :: t) := by
  cases items with
  | nil => simp [EndsValue, moreItems]
  | cons v items => simp [EndsValue, moreItems]

section Items

variable {item : σ → Reader σ} {step : σ → α → σ} {form : α → Value}

theorem result_itemsThen_moreItems {as : List α} (state : σ)
    (hstart : ∀ a ∈ as, StartsItem (compact (form a)).toList)
    (hitem : ∀ a ∈ as, ∀ state t, EndsValue t →
      (item state).result ((compact (form a)).toList ++ t) = .ok (step state a, t)) :
    Reader.result (itemsThen item false state) (moreItems (as.map form) ++ ']' :: t) =
      .ok (as.foldl step state, t) := by
  -- What has been read so far is in the state, and so it is any state.
  induction as generalizing state with
  | nil => exact result_itemsThen_close item false state
  | cons a as ih =>
    have hnext : StartsItem ((compact (form a)).toList ++ (moreItems (as.map form) ++ ']' :: t)) :=
      (hstart a List.mem_cons_self).append _
    have hcons : moreItems ((a :: as).map form) ++ ']' :: t =
        ',' :: ((compact (form a)).toList ++ (moreItems (as.map form) ++ ']' :: t)) := by
      simp [moreItems]
    rw [hcons, result_itemsThen (nextItem_false hnext),
      hitem a List.mem_cons_self state _ (endsValue_more (as.map form) t)]
    exact ih (step state a) (fun b hb => hstart b (List.mem_cons_of_mem a hb))
      fun b hb => hitem b (List.mem_cons_of_mem a hb)

/-- **The items of a written array are read one by one.** -/
theorem result_array {as : List α} (state : σ)
    (hstart : ∀ a ∈ as, StartsItem (compact (form a)).toList)
    (hitem : ∀ a ∈ as, ∀ state t, EndsValue t →
      (item state).result ((compact (form a)).toList ++ t) = .ok (step state a, t)) :
    (array item state).result ((compact (.array (as.map form))).toList ++ t) =
      .ok (as.foldl step state, t) := by
  have htext : (compact (.array (as.map form))).toList ++ t =
      '[' :: ((compactItems (as.map form)).toList ++ ']' :: t) := by
    simp [compact]
  unfold array
  rw [htext, result_startingWith (c := '[') (by rw [skipBlank_cons rfl]; rfl) rfl, skipBlank_cons rfl,
    result_afterOpening]
  -- Only the first item has no comma before it.
  cases as with
  | nil => exact result_itemsThen_close item true state
  | cons a as =>
    have hnext : StartsItem ((compact (form a)).toList ++ (moreItems (as.map form) ++ ']' :: t)) :=
      (hstart a List.mem_cons_self).append _
    rw [List.map_cons, toList_compactItems, List.append_assoc, result_itemsThen (nextItem_true hnext),
      hitem a List.mem_cons_self state _ (endsValue_more (as.map form) t)]
    exact result_itemsThen_moreItems (step state a) (fun b hb => hstart b (List.mem_cons_of_mem a hb))
      fun b hb => hitem b (List.mem_cons_of_mem a hb)

end Items

/-! ## Objects -/

theorem nextEntry_true : nextEntry true ('"' :: s) = .ok (.more ⟨'"' :: s, Nat.le_refl _⟩) := rfl

theorem nextEntry_false : nextEntry false (',' :: '"' :: s) =
    .ok (.more ⟨'"' :: s, Nat.le_succ _⟩) := rfl

theorem result_colon : colon.result (':' :: t) = .ok ((), t) := rfl

variable {key : Reader κ} {entry : σ → κ → Except Fault (Reader σ)}

theorem result_entriesThen_close (key : Reader κ) (entry : σ → κ → Except Fault (Reader σ))
    (first : Bool) (state : σ) :
    Reader.result (entriesThen key entry first state) ('\x7d' :: t) = .ok (state, t) := by
  have hnext : nextEntry first ('\x7d' :: t) = .ok (.done ⟨t, Nat.lt_succ_self _⟩) := rfl
  unfold Reader.result
  rw [entriesThen, hnext]
  rfl

/-- An entry is read if its name, its colon and its value are. -/
theorem result_entriesThen {first : Bool} {state next : σ} {k : κ} {value : Reader σ}
    {r u v : List Char} {hr : r.length ≤ s.length} (h : nextEntry first s = .ok (.more ⟨r, hr⟩))
    (hkey : key.result r = .ok (k, ':' :: u)) (hentry : entry state k = .ok value)
    (hvalue : value.result u = .ok (next, v)) :
    Reader.result (entriesThen key entry first state) s =
      Reader.result (entriesThen key entry false next) v := by
  obtain ⟨hkey', hkey⟩ := result_eq_ok.1 hkey
  obtain ⟨hcolon', hcolon⟩ := result_eq_ok.1 (result_colon (t := u))
  obtain ⟨hvalue', hvalue⟩ := result_eq_ok.1 hvalue
  unfold Reader.result
  rw [entriesThen, h]
  simp only [hkey, hentry, hcolon, hvalue]
  rcases entriesThen key entry false next v with e | ⟨final, rest⟩ <;> rfl

/-- A member as it is written. -/
def memberText (m : String × Value) : List Char :=
  (quoted m.1).toList ++ ':' :: (compact m.2).toList

/-- The members of an object, with a comma before each of them. -/
def moreMembers (members : List (String × Value)) : List Char :=
  members.flatMap fun m => ',' :: memberText m

theorem toList_compactMembers (m : String × Value) (members : List (String × Value)) :
    (compactMembers (m :: members)).toList = memberText m ++ moreMembers members := by
  induction members generalizing m with
  | nil => simp [compactMembers, moreMembers, memberText]
  | cons n members ih =>
    obtain ⟨name, v⟩ := m
    rw [compactMembers, String.toList_append, String.toList_append, ih]
    · simp [moreMembers, memberText]
    · simp

theorem endsValue_moreMembers (members : List (String × Value)) (t : List Char) :
    EndsValue (moreMembers members ++ '\x7d' :: t) := by
  cases members with
  | nil => simp [EndsValue, moreMembers]
  | cons m members => simp [EndsValue, moreMembers]

theorem exists_quoted_eq_cons (name : String) : ∃ r, (quoted name).toList = '"' :: r := by
  simp [quoted]

/-- The members of an object lead its reader from one state to another: of each of them, in turn, the
name is read and accepted, and the value is read up to what may follow it. -/
inductive Takes (key : Reader κ) (entry : σ → κ → Except Fault (Reader σ)) :
    σ → List (String × Value) → σ → Prop where
  | nil (state : σ) : Takes key entry state [] state
  | cons {state next final : σ} {name : String} {v : Value} {members : List (String × Value)} {k : κ}
      {value : Reader σ} (hkey : ∀ t, key.result ((quoted name).toList ++ ':' :: t) = .ok (k, ':' :: t))
      (hentry : entry state k = .ok value)
      (hvalue : ∀ t, EndsValue t → value.result ((compact v).toList ++ t) = .ok (next, t))
      (hrest : Takes key entry next members final) :
      Takes key entry state ((name, v) :: members) final

namespace Takes

variable {state next final : σ} {members : List (String × Value)}

theorem append {more : List (String × Value)} (h : Takes key entry state members next)
    (hmore : Takes key entry next more final) : Takes key entry state (members ++ more) final := by
  induction h with
  | nil => exact hmore
  | cons hkey hentry hvalue _ ih => exact .cons hkey hentry hvalue (ih hmore)

theorem result_moreMembers (h : Takes key entry state members final) :
    Reader.result (entriesThen key entry false state) (moreMembers members ++ '\x7d' :: t) =
      .ok (final, t) := by
  induction h with
  | nil state => exact result_entriesThen_close key entry false state
  | @cons state next final name v members k value hkey hentry hvalue _ ih =>
    obtain ⟨r, hr⟩ := exists_quoted_eq_cons name
    have hcons : moreMembers ((name, v) :: members) ++ '\x7d' :: t =
        ',' :: '"' :: (r ++ ':' :: ((compact v).toList ++ (moreMembers members ++ '\x7d' :: t))) := by
      simp [moreMembers, memberText, hr]
    -- The comma is skipped because a quote follows it, the first character of the name.
    have hname := hkey ((compact v).toList ++ (moreMembers members ++ '\x7d' :: t))
    rw [hr, List.cons_append] at hname
    rw [hcons, result_entriesThen nextEntry_false hname hentry
      (hvalue _ (endsValue_moreMembers members t)), ih]

/-- **A written object is read if its members are.** -/
theorem result_object (h : Takes key entry state members final) :
    (object key entry state).result ((compact (.object members)).toList ++ t) = .ok (final, t) := by
  have htext : (compact (.object members)).toList ++ t =
      '\x7b' :: ((compactMembers members).toList ++ '\x7d' :: t) := by
    simp [compact]
  unfold object
  rw [htext, result_startingWith (c := '\x7b') (by rw [skipBlank_cons rfl]; rfl) rfl,
    skipBlank_cons rfl, result_afterOpening]
  cases h with
  | nil => exact result_entriesThen_close key entry true state
  | @cons _ next _ name v members k value hkey hentry hvalue hrest =>
    obtain ⟨r, hr⟩ := exists_quoted_eq_cons name
    have hcons : (compactMembers ((name, v) :: members)).toList ++ '\x7d' :: t =
        '"' :: (r ++ ':' :: ((compact v).toList ++ (moreMembers members ++ '\x7d' :: t))) := by
      rw [toList_compactMembers]
      simp [memberText, hr]
    have hname := hkey ((compact v).toList ++ (moreMembers members ++ '\x7d' :: t))
    rw [hr, List.cons_append] at hname
    rw [hcons, result_entriesThen nextEntry_true hname hentry
      (hvalue _ (endsValue_moreMembers members t)), hrest.result_moreMembers]

end Takes

end Provisioning.Json
