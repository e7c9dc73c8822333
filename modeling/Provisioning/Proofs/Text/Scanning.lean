import Provisioning.Text.Rest

/-!
# What scanners read

A scanner proves of its rest that it is shorter. Here the rest is taken as a plain text, and each
scanner that is put together from others is described by what those read. Reading a text that is
written out piece by piece is then a matter of rewriting.

## Main definitions

* `Scanner.result p s`: what a scanner reads of a text, and the rest
* `Scanner.repeated p s`: what its repetition reads, and the rest

## Main results

* `Scanner.result_andThen`, `Scanner.result_orElse` and others: the scanners put together
* `Scanner.repeated_flatMap`: the repetition reads a text piece by piece
-/

namespace Provisioning.Text.Scanner

variable {α β : Type} {p : Scanner α} {s r : List Char} {c : Char}

/-- What a scanner reads of a text, and the rest. -/
def result (p : Scanner α) (s : List Char) : Option (α × List Char) :=
  (p s).map fun (a, r) => (a, r.1)

/-- What the repetition of a scanner reads of a text, and the rest. -/
def repeated (p : Scanner α) (s : List Char) : List α × List Char :=
  ((many p s).1, (many p s).2.1)

theorem result_eq_none : p.result s = none ↔ p s = none := by
  simp [result]

theorem result_eq_some {a : α} :
    p.result s = some (a, r) ↔ ∃ h : r.length < s.length, p s = some (a, ⟨r, h⟩) := by
  unfold result
  constructor
  · intro h
    obtain ⟨⟨a', r', hr⟩, hp, heq⟩ := Option.map_eq_some_iff.1 h
    obtain ⟨rfl, rfl⟩ := Prod.mk.inj heq
    exact ⟨hr, hp⟩
  · rintro ⟨hr, hp⟩
    rw [hp]
    rfl

/-! ## Scanners put together -/

theorem result_map (f : α → β) :
    (p.map f).result s = (p.result s).map fun (a, r) => (f a, r) := by
  unfold result map
  cases p s <;> rfl

theorem result_filterMap (f : α → Option β) :
    (p.filterMap f).result s = (p.result s).bind fun (a, r) => (f a).map fun b => (b, r) := by
  unfold result filterMap
  rcases p s with - | ⟨a, r⟩
  · rfl
  · cases h : f a <;> simp [h]

theorem result_andThen (q : α → Scanner β) :
    (p.andThen q).result s = (p.result s).bind fun (a, r) => (q a).result r := by
  unfold result andThen
  rcases p s with - | ⟨a, r, hr⟩
  · rfl
  · cases h : q a r <;> simp [h, Rest.of]

theorem result_before (q : Scanner β) :
    (p.before q).result s = (p.result s).bind fun (a, r) => (q.result r).map fun (_, t) => (a, t) := by
  unfold before
  simp only [result_andThen, result_map]

theorem result_orElse (q : Scanner α) :
    (p.orElse q).result s = (p.result s).or (q.result s) := by
  unfold result orElse
  cases p s <;> rfl

theorem result_skipping (cut : (s : List Char) → Tail s) :
    (skipping cut p).result s = p.result (cut s).1 := by
  unfold result skipping
  rcases p (cut s).1 with - | ⟨a, r⟩ <;> rfl

theorem result_andOptionally (q : Scanner β) :
    (p.andOptionally q).result s = (p.result s).map fun (a, r) =>
      match q.result r with
      | some (b, t) => ((a, some b), t)
      | none => ((a, none), r) := by
  unfold result andOptionally
  rcases p s with - | ⟨a, r, hr⟩
  · rfl
  · cases h : q r <;> simp [h, Rest.of]

/-! ## Characters -/

@[simp] theorem result_char_nil (p : Char → Bool) : (char p).result [] = none := rfl

theorem result_char_cons (p : Char → Bool) :
    (char p).result (c :: s) = if p c then some (c, s) else none := by
  unfold result char
  cases h : p c <;> simp [h, Rest.tail]

theorem of_result_char {p : Char → Bool} (h : (char p).result s = some (c, r)) :
    s = c :: r ∧ p c = true := by
  cases s with
  | nil => cases h
  | cons d s =>
    rw [result_char_cons] at h
    split at h
    · next hd =>
      obtain ⟨rfl, rfl⟩ := Prod.mk.inj (Option.some.inj h)
      exact ⟨rfl, hd⟩
    · cases h

@[simp] theorem result_exact_nil (c : Char) : (exact c).result [] = none := rfl

theorem result_exact_cons (c d : Char) :
    (exact c).result (d :: s) = if d = c then some ((), s) else none := by
  unfold exact
  rw [result_map, result_char_cons]
  by_cases h : d = c <;> simp [h]

@[simp] theorem result_exact_self (c : Char) : (exact c).result (c :: s) = some ((), s) := by
  rw [result_exact_cons, if_pos rfl]

/-- A given character is not read where another one stands. -/
theorem result_exact_of_head?_ne (h : s.head? ≠ some c) : (exact c).result s = none := by
  cases s with
  | nil => rfl
  | cons d s =>
    have hd : d ≠ c := fun hd => h (congrArg some hd)
    rw [result_exact_cons, if_neg hd]

theorem result_letters_append (c : Char) (more : List Char) :
    (letters c more).result (c :: (more ++ s)) = some ((), s) := by
  induction more generalizing c with
  | nil => exact result_exact_self c
  | cons d more ih =>
    rw [letters, result_andThen, result_exact_self]
    exact ih d

/-- A word is not read where another character than its first one stands. -/
theorem result_letters_of_head?_ne (more : List Char) (h : s.head? ≠ some c) :
    (letters c more).result s = none := by
  cases more with
  | nil => exact result_exact_of_head?_ne h
  | cons d more => rw [letters, result_andThen, result_exact_of_head?_ne h, Option.bind_none]

theorem result_run (p : Char → Bool) :
    (run p).result s =
      if s.takeWhile p = [] then none else some (s.takeWhile p, s.dropWhile p) := by
  unfold result run
  rcases s with - | ⟨c, s⟩
  · rfl
  · cases h : p c <;> simp [h, Tail.cons, Tail.dropWhile]

/-- Nothing is dropped from a text that starts with another character. -/
theorem dropWhile_of_head? {p : Char → Bool} (hs : ∀ c ∈ s.head?, p c = false) :
    s.dropWhile p = s := by
  cases s with
  | nil => rfl
  | cons c s => rw [List.dropWhile_cons, hs c rfl, if_neg Bool.false_ne_true]

/-- Characters of a class are read up to one that is not of it. -/
theorem result_run_append {p : Char → Bool} {cs : List Char} (hne : cs ≠ [])
    (hcs : ∀ c ∈ cs, p c = true) (hs : ∀ c ∈ s.head?, p c = false) :
    (run p).result (cs ++ s) = some (cs, s) := by
  have htake : s.takeWhile p = [] := by
    cases s with
    | nil => rfl
    | cons c s => rw [List.takeWhile_cons, hs c rfl, if_neg Bool.false_ne_true]
  rw [result_run, List.takeWhile_append_of_pos hcs, List.dropWhile_append_of_pos hcs, htake,
    dropWhile_of_head? hs, List.append_nil, if_neg hne]

/-! ## Repetitions -/

theorem repeated_of_none (h : p.result s = none) : repeated p s = ([], s) := by
  unfold repeated
  rw [many, result_eq_none.1 h]
  rfl

theorem repeated_of_some {a : α} (h : p.result s = some (a, r)) :
    repeated p s = (a :: (repeated p r).1, (repeated p r).2) := by
  obtain ⟨hr, hp⟩ := result_eq_some.1 h
  unfold repeated
  rw [many, hp]
  rfl

/-- A text whose pieces are read one by one, up to what is no piece. -/
theorem repeated_flatMap {γ : Type} (text : γ → List Char) (value : γ → α) {pieces : List γ}
    (hpieces : ∀ x ∈ pieces, ∀ t, p.result (text x ++ t) = some (value x, t))
    (hs : p.result s = none) :
    repeated p (pieces.flatMap text ++ s) = (pieces.map value, s) := by
  induction pieces with
  | nil => exact repeated_of_none hs
  | cons x pieces ih =>
    rw [List.flatMap_cons, List.append_assoc, repeated_of_some (hpieces x List.mem_cons_self _),
      ih fun y hy => hpieces y (List.mem_cons_of_mem x hy)]
    rfl

theorem result_thenMany (q : Scanner β) :
    (p.thenMany q).result s = (p.result s).map fun (a, r) =>
      ((a, (repeated q r).1), (repeated q r).2) := by
  unfold result thenMany repeated
  rcases p s with - | ⟨a, r, hr⟩ <;> rfl

theorem result_times_zero : (times p 0).result s = (p.result s).map fun (a, r) => ([a], r) :=
  result_map _

theorem result_times_succ (n : Nat) :
    (times p (n + 1)).result s = (p.result s).bind fun (a, r) =>
      ((times p n).result r).map fun (as, t) => (a :: as, t) := by
  rw [times, result_andThen]
  simp only [result_map]

/-- A number of characters of a class is read where so many stand. -/
theorem result_times_char {q : Char → Bool} {n : Nat} {cs : List Char} (hlength : cs.length = n + 1)
    (hcs : ∀ c ∈ cs, q c = true) : (times (char q) n).result (cs ++ s) = some (cs, s) := by
  induction n generalizing cs with
  | zero =>
    obtain ⟨c, rfl⟩ := List.length_eq_one_iff.1 hlength
    rw [result_times_zero, List.singleton_append, result_char_cons, if_pos (hcs c (by simp))]
    rfl
  | succ n ih =>
    obtain ⟨c, cs, rfl⟩ := List.exists_cons_of_length_eq_add_one hlength
    have hrest := ih (by simpa using hlength) fun d hd => hcs d (List.mem_cons_of_mem c hd)
    simp only [result_times_succ, List.cons_append, result_char_cons, hcs c List.mem_cons_self,
      if_true, Option.bind_some, hrest, Option.map_some]

/-- Where a number of characters of a class is read, so many stand. -/
theorem of_result_times_char {q : Char → Bool} {n : Nat} {cs : List Char}
    (h : (times (char q) n).result s = some (cs, r)) :
    s = cs ++ r ∧ cs ≠ [] ∧ ∀ c ∈ cs, q c = true := by
  induction n generalizing s cs with
  | zero =>
    rw [result_times_zero] at h
    obtain ⟨⟨c, t⟩, hc, heq⟩ := Option.map_eq_some_iff.1 h
    obtain ⟨rfl, rfl⟩ := Prod.mk.inj heq
    obtain ⟨rfl, hq⟩ := of_result_char hc
    exact ⟨rfl, List.cons_ne_nil _ _, List.forall_mem_singleton.2 hq⟩
  | succ n ih =>
    rw [result_times_succ] at h
    obtain ⟨⟨c, t⟩, hc, h⟩ := Option.bind_eq_some_iff.1 h
    obtain ⟨⟨ds, u⟩, hds, heq⟩ := Option.map_eq_some_iff.1 h
    obtain ⟨rfl, rfl⟩ := Prod.mk.inj heq
    obtain ⟨rfl, hq⟩ := of_result_char hc
    obtain ⟨rfl, -, hall⟩ := ih hds
    exact ⟨rfl, List.cons_ne_nil _ _, List.forall_mem_cons.2 ⟨hq, hall⟩⟩

end Provisioning.Text.Scanner
