/-!
# Rests of texts

A scanner returns what it read from the head of a text and the rest, which is shorter; so loops over
scanners come to an end.

## Main definitions

* `Rest s`, `Tail s`: the shorter rests of a text, and the rests that may be the text itself
* `Scanner α`: the scanners, with `map`, `andThen`, `orElse`
* `Scanner.char`, `Scanner.exact`, `Scanner.letters`: the scanners of single characters and of words
* `Scanner.many`: the repetition of a scanner
-/

namespace Provisioning.Text

/-- A rest of a text that is shorter than the text. -/
abbrev Rest (s : List Char) := { r : List Char // r.length < s.length }

/-- A rest of a text that may be the whole text. -/
abbrev Tail (s : List Char) := { r : List Char // r.length ≤ s.length }

namespace Rest

variable {c : Char} {s t : List Char}

/-- A rest of a rest. -/
def of (h : t.length ≤ s.length) (r : Rest t) : Rest s := ⟨r.1, Nat.lt_of_lt_of_le r.2 h⟩

/-- All but the first character. -/
def tail (s : List Char) : Rest (c :: s) := ⟨s, Nat.lt_succ_self _⟩

/-- A rest of all but the first character. -/
def cons (r : Rest s) : Rest (c :: s) := ⟨r.1, Nat.lt_succ_of_lt r.2⟩

/-- The rest as one that may be the whole text. -/
def toTail (r : Rest s) : Tail s := ⟨r.1, Nat.le_of_lt r.2⟩

end Rest

namespace Tail

variable {c : Char} {s t : List Char}

/-- The whole text. -/
def whole (s : List Char) : Tail s := ⟨s, Nat.le_refl _⟩

/-- A tail of all but the first character, which is shorter than the whole. -/
def cons (r : Tail s) : Rest (c :: s) := ⟨r.1, Nat.lt_succ_of_le r.2⟩

/-- A tail of a rest. -/
def within (h : t.length < s.length) (r : Tail t) : Rest s := ⟨r.1, Nat.lt_of_le_of_lt r.2 h⟩

end Tail

theorem length_dropWhile_le {α : Type} (p : α → Bool) (s : List α) :
    (s.dropWhile p).length ≤ s.length :=
  (List.dropWhile_suffix p).length_le

/-- The text without the characters of a class at its head. -/
def Tail.dropWhile (p : Char → Bool) (s : List Char) : Tail s :=
  ⟨s.dropWhile p, length_dropWhile_le p s⟩

/-- A scanner of values of one kind. -/
abbrev Scanner (α : Type) := (s : List Char) → Option (α × Rest s)

namespace Scanner

variable {α β : Type}

/-- The scanner with a function applied to what it reads. -/
def map (f : α → β) (p : Scanner α) : Scanner β := fun s =>
  (p s).map fun (a, r) => (f a, r)

/-- The scanner with a further test of what it reads. -/
def filterMap (f : α → Option β) (p : Scanner α) : Scanner β := fun s =>
  match p s with
  | some (a, r) => (f a).map fun b => (b, r)
  | none => none

/-- One scanner after the other; the second may depend on what the first reads. -/
def andThen (p : Scanner α) (q : α → Scanner β) : Scanner β := fun s =>
  match p s with
  | none => none
  | some (a, ⟨r, hr⟩) =>
    match q a r with
    | none => none
    | some (b, final) => some (b, final.of (Nat.le_of_lt hr))

/-- One scanner after the other; only what the first reads counts. -/
def before (p : Scanner α) (q : Scanner β) : Scanner α := p.andThen fun a => q.map fun _ => a

/-- The first scanner, or the second if the first fails. -/
def orElse (p q : Scanner α) : Scanner α := fun s =>
  match p s with
  | some x => some x
  | none => q s

/-- The scanner on the text that a cutting function leaves. -/
def skipping (cut : (s : List Char) → Tail s) (p : Scanner α) : Scanner α := fun s =>
  match p (cut s).1 with
  | some (a, r) => some (a, r.of (cut s).2)
  | none => none

/-- The scanner, and then perhaps another: what a function makes of both. -/
def andOptionally (p : Scanner α) (q : Scanner β) : Scanner (α × Option β) := fun s =>
  match p s with
  | none => none
  | some (a, ⟨r, hr⟩) =>
    match q r with
    | some (b, final) => some ((a, some b), final.of (Nat.le_of_lt hr))
    | none => some ((a, none), ⟨r, hr⟩)

/-- A character of a class. -/
def char (p : Char → Bool) : Scanner Char
  | [] => none
  | c :: rest => if p c then some (c, Rest.tail rest) else none

/-- A given character. -/
def exact (c : Char) : Scanner Unit := (char (· == c)).map fun _ => ()

/-- A given character, and the given letters after it. -/
def letters (c : Char) : List Char → Scanner Unit
  | [] => exact c
  | d :: more => (exact c).andThen fun _ => letters d more

/-- At least one character of a class. -/
def run (p : Char → Bool) : Scanner (List Char)
  | [] => none
  | c :: rest =>
    if p c then
      some (c :: rest.takeWhile p, (Tail.dropWhile p rest).cons)
    else none

/-- As many repetitions of a scanner as there are. -/
def many (p : Scanner α) (s : List Char) : List α × Tail s :=
  match p s with
  | none => ([], Tail.whole s)
  | some (a, ⟨r, hr⟩) =>
    let (as, final) := many p r
    (a :: as, (final.within hr).toTail)
termination_by s.length

/-- A given number of repetitions of a scanner, at least one. -/
def times (p : Scanner α) : Nat → Scanner (List α)
  | 0 => p.map ([·])
  | n + 1 => p.andThen fun a => (times p n).map (a :: ·)

/-- A first part, and as many repetitions of another as there are. -/
def thenMany (p : Scanner α) (q : Scanner β) : Scanner (α × List β) := fun s =>
  match p s with
  | none => none
  | some (a, ⟨r, hr⟩) =>
    let (bs, final) := many q r
    some ((a, bs), final.within hr)

end Scanner

end Provisioning.Text
