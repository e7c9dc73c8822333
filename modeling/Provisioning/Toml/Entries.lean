import Provisioning.Toml.Value

/-!
# Tables put together

A document gives its tables in parts: by headers, by dotted keys and by inline tables. These are the
rules for putting the parts together. A table that a header names may not be named again, one that
came about by the way may be named later, and one that came about by a dotted key may be extended by
dotted keys only.

## Main definitions

* `Inline`: the entries of an inline table
* `Inline.insert`: one more entry
* `Item`, `Origin`: the entries of a document, and how its tables came about
* `Item.insert`, `Item.openTable`, `Item.openElement`: an entry, a header, a header of an array's
  element
* `Item.toValue`: the value of the whole
-/

namespace Provisioning.Toml

/-- The list with the value of a key replaced. -/
def replace {α : Type} (key : String) (v : α) : List (String × α) → List (String × α)
  | [] => [(key, v)]
  | (k, w) :: rest => if k = key then (k, v) :: rest else (k, w) :: replace key v rest

theorem replace_append_singleton {α : Type} {key : String} {v w : α} {entries : List (String × α)}
    (h : key ∉ entries.map Prod.fst) :
    replace key v (entries ++ [(key, w)]) = entries ++ [(key, v)] := by
  induction entries with
  | nil => simp [replace]
  | cons e rest ih =>
    simp only [List.map_cons, List.mem_cons, not_or] at h
    rw [List.cons_append, replace, if_neg (Ne.symm h.1), ih h.2, List.cons_append]

/-! ## Inline tables -/

/-- An entry of an inline table: a value, or a table made by dotted keys. -/
inductive Inline where
  | leaf (v : Value)
  | dotted (entries : List (String × Inline))

namespace Inline

/-- The entries with one more, under a path and a key. A key may not stand twice, and only tables made
by dotted keys are extended. -/
def insert (v : Value) (key : String) :
    List String → List (String × Inline) → Option (List (String × Inline))
  | [], entries =>
    match lookup key entries with
    | none => some (entries ++ [(key, .leaf v)])
    | some _ => none
  | part :: path, entries =>
    match lookup part entries with
    | none => (insert v key path []).map fun inner => entries ++ [(part, .dotted inner)]
    | some (.dotted inner) =>
      (insert v key path inner).map fun inner => replace part (.dotted inner) entries
    | some (.leaf _) => none

mutual

/-- The value of an entry. -/
def toValue : Inline → Value
  | .leaf v => v
  | .dotted entries => .table (toEntries entries)

/-- The values of entries. -/
def toEntries : List (String × Inline) → List (String × Value)
  | [] => []
  | (k, x) :: rest => (k, toValue x) :: toEntries rest

end

end Inline

/-! ## Documents -/

/-- How a table of a document came about. -/
inductive Origin where
  /-- A header names it. -/
  | header
  /-- A header names a table within it. -/
  | implied
  /-- A dotted key names something within it. -/
  | dotted
deriving DecidableEq

/-- An entry of a document's table. -/
inductive Item where
  | value (v : Value)
  | table (origin : Origin) (entries : List (String × Item))
  /-- The elements of an array of tables, the latest last. -/
  | elements (tables : List (List (String × Item)))

namespace Item

/-- The list with its last element changed. -/
def alterLast {α : Type} (f : α → Option α) : List α → Option (List α)
  | [] => none
  | [a] => (f a).map ([·])
  | a :: rest => (alterLast f rest).map (a :: ·)

/-- The entries with those at a header's path changed. Tables that are missing on the way are
implied; of an array of tables, the last element is meant. -/
def alter (f : List (String × Item) → Option (List (String × Item))) :
    List String → List (String × Item) → Option (List (String × Item))
  | [], entries => f entries
  | part :: path, entries =>
    match lookup part entries with
    | none => (alter f path []).map fun inner => entries ++ [(part, .table .implied inner)]
    | some (.value _) => none
    | some (.table origin inner) =>
      (alter f path inner).map fun inner => replace part (.table origin inner) entries
    | some (.elements tables) =>
      (alterLast (alter f path) tables).map fun tables => replace part (.elements tables) entries

/-- The entries with one more, under a path of a dotted key. `permitted` says whether the entries at
hand may get an entry of their own. -/
def insertIn (v : Value) (key : String) :
    List String → Bool → List (String × Item) → Option (List (String × Item))
  | [], permitted, entries =>
    match lookup key entries with
    | none => if permitted then some (entries ++ [(key, .value v)]) else none
    | some _ => none
  | part :: path, _, entries =>
    match lookup part entries with
    | none => (insertIn v key path true []).map fun inner => entries ++ [(part, .table .dotted inner)]
    | some (.value _) => none
    -- Dotted keys do not reach into a table that a header names.
    | some (.table .header _) => none
    | some (.table origin inner) =>
      (insertIn v key path (origin == .dotted) inner).map fun inner =>
        replace part (.table origin inner) entries
    | some (.elements tables) =>
      (alterLast (insertIn v key path false) tables).map fun tables =>
        replace part (.elements tables) entries

/-- An entry of the table that the last header opened. -/
def insert (header path : List String) (key : String) (v : Value)
    (document : List (String × Item)) : Option (List (String × Item)) :=
  alter (insertIn v key path true) header document

/-- A table opened by a header. -/
def openTable (path : List String) (key : String) (document : List (String × Item)) :
    Option (List (String × Item)) :=
  alter (fun entries =>
    match lookup key entries with
    | none => some (entries ++ [(key, .table .header [])])
    | some (.table .implied inner) => some (replace key (.table .header inner) entries)
    | some _ => none) path document

/-- An element of an array of tables opened by a header. -/
def openElement (path : List String) (key : String) (document : List (String × Item)) :
    Option (List (String × Item)) :=
  alter (fun entries =>
    match lookup key entries with
    | none => some (entries ++ [(key, .elements [[]])])
    | some (.elements tables) => some (replace key (.elements (tables ++ [[]])) entries)
    | some _ => none) path document

mutual

/-- The value of an item. -/
def toValue : Item → Value
  | .value v => v
  | .table _ entries => .table (toEntries entries)
  | .elements tables => .array (toTables tables)

/-- The values of entries. -/
def toEntries : List (String × Item) → List (String × Value)
  | [] => []
  | (k, x) :: rest => (k, toValue x) :: toEntries rest

/-- The values of tables. -/
def toTables : List (List (String × Item)) → List Value
  | [] => []
  | entries :: rest => .table (toEntries entries) :: toTables rest

end

end Item

end Provisioning.Toml
