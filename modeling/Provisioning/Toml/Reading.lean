import Provisioning.Toml.Entries
import Provisioning.Toml.Numbers

/-!
# Reading of TOML

## Main definitions

* `valueWithin`: a value, up to a depth of nesting
* `Statement`, `statement`: the lines of a document
* `readDocument?`: the entries of a document's text
-/

namespace Provisioning.Toml

open Text

/-! ## Values -/

/-- The depth of nesting from which on a value is refused. -/
def depthLimit : Nat := 80

/-- A comment up to the end of its line. -/
def skipComment (s : List Char) : Tail s :=
  match s with
  | '#' :: rest => (Tail.dropWhile isPrintable rest).cons.toTail
  | s => Tail.whole s

/-- The text after blanks, line breaks and comments. -/
def skipTrivia (s : List Char) : Tail s :=
  let spaces := skipSpace s
  let comment := skipComment spaces.1
  match lineBreak comment.1 with
  | none => spaces
  | some (_, ⟨r, hr⟩) =>
    have h : r.length < s.length :=
      Nat.lt_of_lt_of_le hr (Nat.le_trans comment.2 spaces.2)
    ((skipTrivia r).within h).toTail
termination_by s.length

/-- The items of an array after its opening bracket or after a comma, and the closing bracket. -/
def arrayItems (item : Scanner Value) (s : List Char) : Option (List Value × Rest s) :=
  let start := skipTrivia s
  match Scanner.exact ']' start.1 with
  | some (_, r) => some ([], r.of start.2)
  | none =>
    match item start.1 with
    | none => none
    | some (v, ⟨r, hr⟩) =>
      have hr : r.length < s.length := Nat.lt_of_lt_of_le hr start.2
      let next := skipTrivia r
      match Scanner.exact ']' next.1 with
      | some (_, final) => some ([v], final.of (Nat.le_trans next.2 (Nat.le_of_lt hr)))
      | none =>
        match Scanner.exact ',' next.1 with
        | none => none
        | some (_, ⟨r2, hr2⟩) =>
          have hr2 : r2.length < s.length :=
            Nat.lt_of_lt_of_le hr2 (Nat.le_trans next.2 (Nat.le_of_lt hr))
          match arrayItems item r2 with
          | none => none
          | some (vs, final) => some (v :: vs, final.of (Nat.le_of_lt hr2))
termination_by s.length

/-- A key, an equals sign and a value, with blanks around the value. -/
def inlineEntry (value : Scanner Value) : Scanner (List String × Value) := fun s =>
  let entry :=
    (dottedKey.before (Scanner.exact '=')).andThen fun key =>
      (Scanner.skipping skipSpace value).map fun v => (key, v)
  match entry s with
  | none => none
  | some (e, ⟨r, hr⟩) => some (e, (skipSpace r).within hr)

/-- The entries of an inline table after its opening brace: none, or some with commas between them. -/
def inlineEntries (value : Scanner Value) : Scanner (List (List String × Value)) :=
  let close := Scanner.exact '\x7d'
  let entry := inlineEntry value
  let some? := ((entry.thenMany ((Scanner.exact ',').andThen fun _ => entry)).before close).map
    fun (e, es) => e :: es
  (Scanner.skipping skipSpace (close.map fun _ => [])).orElse some?

/-- The path and the last part of a key. -/
def splitKey (key : List String) : List String × String := (key.dropLast, key.getLast?.getD "")

/-- The entries of an inline table put together. -/
def inlineTable? (entries : List (List String × Value)) : Option Value :=
  (entries.foldlM (fun table (key, v) =>
    let (path, last) := splitKey key
    Inline.insert v last path table) []).map fun table => .table (Inline.toEntries table)

/-- Any value. Within `depth` levels, arrays and inline tables may be nested `depth - 1` deep. -/
def valueWithin : Nat → Scanner Value
  | 0 => fun _ => none
  | depth + 1 => fun s =>
    match s.head? with
    | none => none
    | some c =>
      if c = '"' ∨ c = '\'' then stringLiteral.map Value.string s
      else if c = '[' then
        if depth = 0 then none
        else
          ((Scanner.exact '[').andThen fun _ => arrayItems (valueWithin depth)).map Value.array s
      else if c = '\x7b' then
        if depth = 0 then none
        else
          ((Scanner.exact '\x7b').andThen fun _ =>
            inlineEntries (valueWithin depth)).filterMap inlineTable? s
      else if c = 't' then (Scanner.letters 't' ['r', 'u', 'e']).map (fun _ => Value.boolean true) s
      else if c = 'f' then
        (Scanner.letters 'f' ['a', 'l', 's', 'e']).map (fun _ => Value.boolean false) s
      else momentLiteral.orElse numberLiteral s

/-! ## Documents -/

/-- A line of a document that holds more than blanks and a comment. -/
inductive Statement where
  /-- An entry. -/
  | entry (key : List String) (v : Value)
  /-- The header of a table. -/
  | table (key : List String)
  /-- The header of an element of an array of tables. -/
  | element (key : List String)

/-- The end of a line: blanks and a comment, then a line break or the end of the text. -/
def lineEnd? (s : List Char) : Option (Tail s) :=
  let spaces := skipSpace s
  let comment := skipComment spaces.1
  match lineBreak comment.1 with
  | some (_, r) => some ⟨r.1, Nat.le_trans (Nat.le_of_lt r.2) (Nat.le_trans comment.2 spaces.2)⟩
  | none => if comment.1.isEmpty then some ⟨[], Nat.zero_le _⟩ else none

/-- A header or an entry, up to the end of its line. -/
def statement : Scanner Statement :=
  let element := ((Scanner.letters '[' ['[']).andThen fun _ => dottedKey).before
    (Scanner.letters ']' [']'])
  let table := ((Scanner.exact '[').andThen fun _ => dottedKey).before (Scanner.exact ']')
  let entry := (dottedKey.before (Scanner.exact '=')).andThen fun key =>
    (Scanner.skipping skipSpace (valueWithin depthLimit)).map fun v => Statement.entry key v
  ((element.map Statement.element).orElse (table.map Statement.table)).orElse entry

/-- The statements of a text, one on a line. -/
def statements (s : List Char) : Option (List Statement) :=
  if s.isEmpty then some []
  else
    match lineEnd? s with
    -- The end of the text is an end of a line as well, but leaves no shorter rest.
    | some ⟨r, _⟩ => if _h : r.length < s.length then statements r else some []
    | none =>
      match Scanner.skipping skipSpace statement s with
      | none => none
      | some (x, ⟨r, hr⟩) =>
        match lineEnd? r with
        | none => none
        | some ⟨final, hfinal⟩ =>
          have _h : final.length < s.length := Nat.lt_of_le_of_lt hfinal hr
          (statements final).map (x :: ·)
termination_by s.length

/-- A document under way: the header that was opened last, and the entries so far. -/
structure Draft where
  /-- The path of the table that entries go to. -/
  header : List String := []
  /-- The entries of the document. -/
  document : List (String × Item) := []

/-- The document with one more statement. -/
def Draft.add (draft : Draft) : Statement → Option Draft
  | .entry key v =>
    let (path, last) := splitKey key
    (Item.insert draft.header path last v draft.document).map fun document =>
      { draft with document }
  | .table key =>
    let (path, last) := splitKey key
    (Item.openTable path last draft.document).map fun document => { header := key, document }
  | .element key =>
    let (path, last) := splitKey key
    (Item.openElement path last draft.document).map fun document => { header := key, document }

/-- The text without a byte order mark before it. -/
def dropMark : List Char → List Char
  | '\uFEFF' :: rest => rest
  | s => s

/-- The entries of a document's text. -/
def readDocument? (text : String) : Option (List (String × Value)) := do
  let lines ← statements (dropMark text.toList)
  let draft ← lines.foldlM Draft.add {}
  return Item.toEntries draft.document

end Provisioning.Toml
