import Provisioning.Proofs.Toml.Keys
import Provisioning.Proofs.Toml.Numbers
import Provisioning.Toml.Reading

/-!
# Written documents are read back

A document that is written section by section, each a table under a header with an entry on a line,
is read as these tables, in their order.

## Main definitions

* `IsTextOf text v`: a text is read as a value, up to the end of its line
* `WrittenEntry`, `WrittenSection`: the entries and sections of a document, with their texts
* `WrittenSection.text`, `WrittenSection.content`: the text of a section, and what it says
* `documentText`: the text of sections

## Main results

* `statements_text`: a section is read line by line
* `foldlM_add`: the lines of sections are put together
* `readDocument?_documentText`: a document is read as its sections
-/

namespace Provisioning.Toml

open Text Text.Scanner

/-- A text is read as a value, up to the end of its line. -/
def IsTextOf (text : String) (v : Value) : Prop :=
  ∀ t, (skipping skipSpace (valueWithin depthLimit)).result (' ' :: (text.toList ++ '\n' :: t)) =
    some (v, '\n' :: t)

theorem isTextOf_of_startsNumber {text : String} {v : Value} {c : Char} {rest : List Char}
    (htext : text.toList = c :: rest) (hc : StartsNumber c)
    (h : ∀ t, (valueWithin depthLimit).result (text.toList ++ '\n' :: t) = some (v, '\n' :: t)) :
    IsTextOf text v := by
  intro t
  have hspace : c ≠ ' ' := hc.ne rfl (by decide)
  have htab : c ≠ '\t' := hc.ne rfl (by decide)
  have hskip : (skipSpace (' ' :: (text.toList ++ '\n' :: t))).1 = text.toList ++ '\n' :: t := by
    change (' ' :: (text.toList ++ '\n' :: t)).dropWhile isSpace = _
    simp [htext, isSpace, hspace, htab]
  rw [result_skipping, hskip, h]

/-- The text of a number is a text of it, or of the canonical NaN. -/
theorem isTextOf_numberText (x : Binary64) : IsTextOf (numberText x) (.float x.canonical) := by
  obtain ⟨c, rest, htext, hc⟩ := exists_numberText_eq_cons x
  exact isTextOf_of_startsNumber htext hc fun t => result_valueWithin_numberText x

/-- The digits of a natural number that fits a document are a text of it. -/
theorem isTextOf_toString {n : Nat} (hn : n < integerLimit) :
    IsTextOf (toString n) (.integer n) := by
  obtain ⟨c, rest, htext, hc⟩ := exists_toString_eq_cons n
  exact isTextOf_of_startsNumber htext hc fun t => result_valueWithin_natural hn

/-- An entry, with the text of its value. -/
structure WrittenEntry where
  /-- The key. -/
  key : String
  /-- The text of the value. -/
  text : String
  /-- The value. -/
  value : Value
  /-- The text is that of the value. -/
  isTextOf : IsTextOf text value

/-- A section, with the texts of its entries. -/
structure WrittenSection where
  /-- The name in the header. -/
  name : String
  /-- The entries. -/
  entries : List WrittenEntry
  /-- No key stands twice. -/
  distinct : (entries.map WrittenEntry.key).Nodup

namespace WrittenSection

/-- The text of a section. -/
def text (x : WrittenSection) : String :=
  sectionText x.name (x.entries.map fun e => (e.key, e.text))

/-- The entry of a document that a section makes. -/
def content (x : WrittenSection) : String × Value :=
  (x.name, .table (x.entries.map fun e => (e.key, e.value)))

/-- The lines of a section. -/
def lines (x : WrittenSection) : List Statement :=
  .table [x.name] :: x.entries.map fun e => .entry [e.key] e.value

end WrittenSection

variable {s t r : List Char} {c : Char}

/-! ## Lines -/

/-- The characters that a line with a statement may start with. -/
def StartsLine (c : Char) : Prop := StartsKey c ∨ c = '['

theorem StartsLine.ne {d : Char} (hc : StartsLine c) (hd : isBareKeyChar d = false) (hq : d ≠ '"')
    (hl : d ≠ '\'') (hb : d ≠ '[') : c ≠ d := by
  rcases hc with h | rfl
  · exact h.ne hd hq hl
  · exact hb.symm

theorem StartsLine.not_isSpace (hc : StartsLine c) : isSpace c = false := by
  rcases hc with h | rfl
  · exact h.not_isSpace
  · rfl

theorem lineEnd?_newline (t : List Char) :
    lineEnd? ('\n' :: t) = some ⟨t, Nat.le_succ _⟩ := rfl

theorem lineEnd?_eq_none (hbreak : lineBreak.result (skipComment (skipSpace s).1).1 = none)
    (hne : (skipComment (skipSpace s).1).1 ≠ []) : lineEnd? s = none := by
  unfold lineEnd?
  dsimp only
  split
  · next heq =>
    rw [result_eq_none.1 hbreak] at heq
    cases heq
  · rw [if_neg (by simpa using hne)]

/-- No blank stands where a statement starts. -/
theorem skipSpace_of_startsLine (hc : StartsLine c) : (skipSpace (c :: s)).1 = c :: s := by
  refine dropWhile_of_head? fun d hd => ?_
  obtain rfl := Option.some.inj hd
  exact hc.not_isSpace

/-- No line ends where a statement starts. -/
theorem lineEnd?_of_startsLine (hc : StartsLine c) : lineEnd? (c :: s) = none := by
  have hhash : c ≠ '#' := hc.ne rfl (by decide) (by decide) (by decide)
  have hnewline : c ≠ '\n' := hc.ne rfl (by decide) (by decide) (by decide)
  have hreturn : c ≠ '\r' := hc.ne rfl (by decide) (by decide) (by decide)
  have hspace := skipSpace_of_startsLine (s := s) hc
  have hcomment : (skipComment (c :: s)).1 = c :: s := by
    rw [skipComment]
    · rfl
    · exact fun _ heq => hhash (List.cons.inj heq).1
  have hbreak : lineBreak (c :: s) = none := by
    rw [lineBreak]
    · exact fun _ heq => hnewline (List.cons.inj heq).1
    · exact fun _ heq => hreturn (List.cons.inj heq).1
  refine lineEnd?_eq_none ?_ ?_
  · rw [hspace, hcomment]
    exact result_eq_none.2 hbreak
  · rw [hspace, hcomment]
    exact List.cons_ne_nil _ _

theorem statements_nil : statements [] = some [] := by
  rw [statements]
  rfl

/-- An empty line says nothing. -/
theorem statements_newline : statements ('\n' :: t) = statements t := by
  rw [statements]
  simp [lineEnd?_newline]

/-- A line that is read as a statement. -/
theorem statements_line {x : Statement} (hc : StartsLine c)
    (h : statement.result (c :: s) = some (x, '\n' :: t)) :
    statements (c :: s) = (statements t).map (x :: ·) := by
  have hskip : (skipping skipSpace statement).result (c :: s) = some (x, '\n' :: t) := by
    rw [result_skipping, skipSpace_of_startsLine hc, h]
  obtain ⟨hr, hread⟩ := result_eq_some.1 hskip
  rw [statements]
  simp [lineEnd?_of_startsLine hc, hread, lineEnd?_newline]

/-! ## Headers and entries -/

theorem result_statement_header (name : String) (t : List Char) :
    statement.result ('[' :: ((keyText name).toList ++ ']' :: '\n' :: t)) =
      some (.table [name], '\n' :: t) := by
  have hkey : dottedKey.result ((keyText name).toList ++ ']' :: '\n' :: t) =
      some ([name], ']' :: '\n' :: t) :=
    result_dottedKey_keyText name (by simp; rfl)
      (by simp [isSpace])
  have helement : (letters '[' ['[']).result
      ('[' :: ((keyText name).toList ++ ']' :: '\n' :: t)) = none := by
    obtain ⟨c, rest, heq, hc⟩ := exists_keyText_eq_cons name
    have hne : c ≠ '[' := hc.ne rfl (by decide) (by decide)
    simp only [letters, result_andThen, result_exact_self, Option.bind_some, heq,
      List.cons_append, result_exact_cons, if_neg hne]
  unfold statement
  simp only [result_orElse, result_map, result_before, result_andThen, helement, Option.bind_none,
    Option.map_none, Option.none_or, result_exact_self, Option.bind_some, hkey, Option.map_some,
    Option.some_or]

theorem result_statement_entry (e : WrittenEntry) (t : List Char) :
    statement.result ((entryText e.key e.text).toList ++ t) =
      some (.entry [e.key] e.value, '\n' :: t) := by
  -- The brackets of a header are tried first.
  obtain ⟨c, rest, heq, hc⟩ := exists_keyText_eq_cons e.key
  have hbracket : ((entryText e.key e.text).toList ++ t).head? ≠ some '[' := by
    have hne : c ≠ '[' := hc.ne rfl (by decide) (by decide)
    simp [entryText, heq, hne]
  have htext : (entryText e.key e.text).toList ++ t =
      (keyText e.key).toList ++ ' ' :: '=' :: ' ' :: (e.text.toList ++ '\n' :: t) := by
    simp [entryText]
  have hkey : dottedKey.result ((entryText e.key e.text).toList ++ t) =
      some ([e.key], '=' :: ' ' :: (e.text.toList ++ '\n' :: t)) := by
    rw [htext]
    exact result_dottedKey_keyText e.key (by simp; rfl)
      (by simp [isSpace])
  unfold statement
  simp only [result_orElse, result_map, result_before, result_andThen,
    result_letters_of_head?_ne _ hbracket, result_exact_of_head?_ne hbracket, Option.bind_none,
    Option.map_none, Option.none_or, hkey, Option.bind_some, result_exact_self, Option.map_some,
    e.isTextOf t]

/-! ## Sections -/

theorem statements_header (name : String) (t : List Char) :
    statements ('[' :: ((keyText name).toList ++ ']' :: '\n' :: t)) =
      (statements t).map (.table [name] :: ·) :=
  statements_line (.inr rfl) (result_statement_header name t)

theorem statements_entry (e : WrittenEntry) (t : List Char) :
    statements ((entryText e.key e.text).toList ++ t) =
      (statements t).map (.entry [e.key] e.value :: ·) := by
  obtain ⟨c, rest, heq, hc⟩ := exists_keyText_eq_cons e.key
  have hread := result_statement_entry e t
  obtain ⟨rest', hcons⟩ : ∃ rest', (entryText e.key e.text).toList ++ t = c :: rest' := by
    simp [entryText, heq]
  rw [hcons] at hread ⊢
  exact statements_line (.inl hc) hread

/-- A section is read line by line. -/
theorem statements_text (x : WrittenSection) (t : List Char) :
    statements (x.text.toList ++ t) = (statements t).map (x.lines ++ ·) := by
  have hentries (es : List WrittenEntry) :
      statements (es.flatMap (fun e => (entryText e.key e.text).toList) ++ t) =
        (statements t).map ((es.map fun e => .entry [e.key] e.value) ++ ·) := by
    induction es with
    | nil => simp
    | cons e es ih =>
      rw [List.flatMap_cons, List.append_assoc, statements_entry, ih, Option.map_map]
      rfl
  have htext : x.text.toList ++ t = '[' :: ((keyText x.name).toList ++ ']' :: '\n' ::
      (x.entries.flatMap (fun e => (entryText e.key e.text).toList) ++ t)) := by
    simp [WrittenSection.text, sectionText, String.toList_join, List.flatMap_map]
  rw [htext, statements_header, hentries, Option.map_map]
  rfl

/-- The text of a document: the sections, with empty lines between them. -/
def documentText (sections : List WrittenSection) : String :=
  String.intercalate "\n" (sections.map WrittenSection.text)

theorem toList_documentText_cons_cons (x y : WrittenSection) (rest : List WrittenSection) :
    (documentText (x :: y :: rest)).toList =
      x.text.toList ++ '\n' :: (documentText (y :: rest)).toList := by
  simp [documentText, String.intercalate_cons_cons]

theorem exists_toList_documentText (x : WrittenSection) (rest : List WrittenSection) :
    ∃ t, (documentText (x :: rest)).toList = '[' :: t := by
  cases rest with
  | nil => simp [documentText, WrittenSection.text, sectionText]
  | cons y rest =>
    rw [toList_documentText_cons_cons]
    simp [WrittenSection.text, sectionText]

/-- The sections of a document are read one after the other. -/
theorem statements_documentText (sections : List WrittenSection) :
    statements (documentText sections).toList =
      some (sections.flatMap WrittenSection.lines) := by
  induction sections with
  | nil => exact statements_nil
  | cons x rest ih =>
    cases rest with
    | nil =>
      have h := statements_text x []
      rw [List.append_nil, statements_nil] at h
      simpa [documentText] using h
    | cons y rest =>
      rw [toList_documentText_cons_cons, statements_text, statements_newline, ih]
      rfl

/-! ## Sections put together -/

variable {name key : String} {v : Value} {header : List String} {document : List (String × Item)}
  {entries : List (String × Item)}

/-- A header of a new name opens a table. -/
theorem add_table (h : name ∉ document.map Prod.fst) :
    Draft.add { header, document } (.table [name]) =
      some { header := [name], document := document ++ [(name, .table .header [])] } := by
  have hopen : Item.openTable [] name document =
      some (document ++ [(name, .table .header [])]) := by
    unfold Item.openTable
    rw [Item.alter, lookup_eq_none h]
  change (Item.openTable [] name document).map _ = _
  rw [hopen]
  rfl

/-- An entry of a new key goes into the table that was opened last. -/
theorem add_entry (hname : name ∉ document.map Prod.fst) (hkey : key ∉ entries.map Prod.fst) :
    Draft.add { header := [name], document := document ++ [(name, .table .header entries)] }
        (.entry [key] v) =
      some { header := [name],
             document := document ++ [(name, .table .header (entries ++ [(key, .value v)]))] } := by
  have hinsert : Item.insert [name] [] key v (document ++ [(name, .table .header entries)]) =
      some (document ++ [(name, .table .header (entries ++ [(key, .value v)]))]) := by
    unfold Item.insert
    rw [Item.alter, lookup_append_singleton hname]
    dsimp only
    rw [Item.alter, Item.insertIn, lookup_eq_none hkey]
    simp [replace_append_singleton hname]
  change (Item.insert [name] [] key v _).map _ = _
  rw [hinsert]
  rfl

/-- The entries of a section go into its table. -/
theorem foldlM_add_entries (hname : name ∉ document.map Prod.fst) {es : List WrittenEntry}
    (hdistinct : (entries.map Prod.fst ++ es.map WrittenEntry.key).Nodup) :
    (es.map fun e => Statement.entry [e.key] e.value).foldlM Draft.add
        { header := [name], document := document ++ [(name, .table .header entries)] } =
      some { header := [name],
             document := document ++
               [(name, .table .header (entries ++ es.map fun e => (e.key, .value e.value)))] } := by
  -- The table grows at its end, so it stays general.
  induction es generalizing entries with
  | nil => simp
  | cons e es ih =>
    have hkey : e.key ∉ entries.map Prod.fst := by
      intro hmem
      exact (List.nodup_append.1 hdistinct).2.2 _ hmem _ List.mem_cons_self rfl
    have hrest : ((entries ++ [(e.key, Item.value e.value)]).map Prod.fst ++
        es.map WrittenEntry.key).Nodup := by
      simpa using hdistinct
    rw [List.map_cons, List.foldlM_cons, add_entry hname hkey, Option.bind_eq_bind,
      Option.bind_some, ih hrest]
    simp

namespace WrittenSection

/-- The item of a document that a section makes. -/
def item (x : WrittenSection) : String × Item :=
  (x.name, .table .header (x.entries.map fun e => (e.key, .value e.value)))

end WrittenSection

theorem foldlM_add_lines (x : WrittenSection) (h : x.name ∉ document.map Prod.fst) :
    x.lines.foldlM Draft.add { header, document } =
      some { header := [x.name], document := document ++ [x.item] } := by
  unfold WrittenSection.lines
  rw [List.foldlM_cons, add_table h, Option.bind_eq_bind, Option.bind_some,
    foldlM_add_entries h (by simpa using x.distinct)]
  rfl

/-- The lines of sections are put together to the tables of the sections. -/
theorem foldlM_add {sections : List WrittenSection} (header : List String)
    (document : List (String × Item))
    (h : (document.map Prod.fst ++ sections.map WrittenSection.name).Nodup) :
    ∃ header', (sections.flatMap WrittenSection.lines).foldlM Draft.add { header, document } =
      some { header := header', document := document ++ sections.map WrittenSection.item } := by
  -- Each section is added behind those before it and leaves its header open.
  induction sections generalizing header document with
  | nil => exact ⟨header, by simp⟩
  | cons x rest ih =>
    have hname : x.name ∉ document.map Prod.fst := fun hmem =>
      (List.nodup_append.1 h).2.2 _ hmem _ List.mem_cons_self rfl
    have hrest : ((document ++ [x.item]).map Prod.fst ++ rest.map WrittenSection.name).Nodup := by
      simpa [WrittenSection.item] using h
    obtain ⟨header', hfold⟩ := ih [x.name] _ hrest
    refine ⟨header', ?_⟩
    rw [List.flatMap_cons, List.foldlM_append, foldlM_add_lines x hname, Option.bind_eq_bind,
      Option.bind_some, hfold]
    simp

theorem toEntries_map_value (es : List WrittenEntry) :
    Item.toEntries (es.map fun e => (e.key, .value e.value)) = es.map fun e => (e.key, e.value) := by
  induction es with
  | nil => rfl
  | cons e es ih => rw [List.map_cons, Item.toEntries, Item.toValue, ih, List.map_cons]

theorem toEntries_map_item (sections : List WrittenSection) :
    Item.toEntries (sections.map WrittenSection.item) = sections.map WrittenSection.content := by
  induction sections with
  | nil => rfl
  | cons x rest ih =>
    rw [List.map_cons, WrittenSection.item, Item.toEntries, Item.toValue, toEntries_map_value, ih]
    rfl

/-- **A document that is written section by section is read as its sections.** -/
theorem readDocument?_documentText {sections : List WrittenSection}
    (h : (sections.map WrittenSection.name).Nodup) :
    readDocument? (documentText sections) = some (sections.map WrittenSection.content) := by
  have hmark : dropMark (documentText sections).toList = (documentText sections).toList := by
    cases sections with
    | nil => rfl
    | cons x rest =>
      obtain ⟨t, ht⟩ := exists_toList_documentText x rest
      rw [ht]
      rfl
  obtain ⟨header', hfold⟩ := foldlM_add [] [] (by simpa using h)
  unfold readDocument?
  rw [hmark, statements_documentText]
  simp only [Option.bind_eq_bind, Option.bind_some]
  rw [hfold]
  simp [toEntries_map_item]

end Provisioning.Toml
