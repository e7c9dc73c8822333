import Mathlib.Algebra.GroupWithZero.Nat
import Mathlib.Data.List.Forall2
import Mathlib.Order.Bounds.Basic
import Provisioning.Terminal.Table

/-!
# Aligned tables

The lines of a table are filled up on their own: the frame knows no cells, and a row knows no other row.
They agree because they share the widths of the columns. A row that is added widens each column to the
length of its cell if that is longer, and so no cell is ever longer than its column is wide.

Lengths count characters, whatever room a terminal gives them.

## Main definitions

* `HasWidths`: the widths are the lengths of the longest cells
* `StandsIn`: a text stands whole in a column of a line
* `Table.IsRegular`: a table has a column for each cell, and no cell breaks a line
* `Table.IsAligned`: what is printed of a table is aligned and complete

## Main results

* `HasWidths.widen`, `HasWidths.foldl_widen`: one row that is added, and any number of them
* `Fits.length_rowLine`, `length_frameLine`: the lengths of both kinds of lines
* `Table.isAligned`: regular tables are aligned and complete
-/

namespace Provisioning.Terminal

open Table

variable {rows more : List (List String)} {row : List String} {widths : List Nat} {text : String}
  {i w : Nat}

/-! ## Widths -/

/-- The lengths of the cells in a column of some rows. -/
def cellLengths (rows : List (List String)) (i : Nat) : Set Nat :=
  {n | ∃ row ∈ rows, ∃ cell ∈ row[i]?, cell.length = n}

/-- Every row has a cell for each width, and the width is the length of the longest cell of its
column. -/
structure HasWidths (rows : List (List String)) (widths : List Nat) : Prop where
  length_eq : ∀ row ∈ rows, row.length = widths.length
  isGreatest : ∀ i, ∀ w ∈ widths[i]?, IsGreatest (cellLengths rows i) w

theorem cellLengths_concat (hcell : text ∈ row[i]?) :
    cellLengths (rows ++ [row]) i = insert text.length (cellLengths rows i) := by
  ext n
  simp only [cellLengths, Set.mem_insert_iff, Set.mem_ofPred_eq, List.mem_append, List.mem_singleton]
  constructor
  · rintro ⟨r, hr | rfl, cell, hcell', rfl⟩
    · exact .inr ⟨r, hr, cell, hcell', rfl⟩
    · obtain rfl := Option.mem_unique hcell hcell'
      exact .inl rfl
  · rintro (rfl | ⟨r, hr, cell, hcell', rfl⟩)
    · exact ⟨row, .inr rfl, text, hcell, rfl⟩
    · exact ⟨r, .inl hr, cell, hcell', rfl⟩

theorem widen_eq_zipWith (h : row.length = widths.length) :
    widen widths row = List.zipWith (fun w cell => max w cell.length) widths row := by
  induction widths generalizing row with
  | nil => rfl
  | cons w widths ih =>
    obtain ⟨cell, row, rfl⟩ := List.exists_cons_of_length_eq_add_one h
    rw [widen, List.zipWith_cons_cons, ih (Nat.succ.inj h)]

/-- The headings alone are as long as their columns are wide. -/
theorem hasWidths_headings (headings : List String) :
    HasWidths [headings] (headings.map String.length) where
  length_eq row hrow := by rw [List.mem_singleton.1 hrow, List.length_map]
  isGreatest i w hw := by
    rw [List.getElem?_map] at hw
    obtain ⟨heading, hheading, rfl⟩ := Option.map_eq_some_iff.1 hw
    refine ⟨⟨headings, List.mem_singleton_self _, heading, hheading, rfl⟩, ?_⟩
    rintro n ⟨row, hrow, cell, hcell, rfl⟩
    obtain rfl := List.mem_singleton.1 hrow
    rw [Option.mem_unique hcell hheading]

/-- **A row that is added widens the columns to its cells.** -/
theorem HasWidths.widen (h : HasWidths rows widths) (hrow : row.length = widths.length) :
    HasWidths (rows ++ [row]) (widen widths row) := by
  rw [widen_eq_zipWith hrow]
  constructor
  · intro r hr
    rw [List.length_zipWith, hrow, Nat.min_self]
    rcases List.mem_append.1 hr with hr | hr
    · exact h.length_eq r hr
    · rw [List.mem_singleton.1 hr, hrow]
  · intro i w hw
    obtain ⟨w, cell, hwidth, hcell, rfl⟩ := List.getElem?_zipWith_eq_some.1 hw
    rw [cellLengths_concat hcell, max_comm]
    exact (h.isGreatest i w hwidth).insert _

theorem length_widen (h : row.length = widths.length) : (widen widths row).length = widths.length := by
  rw [widen_eq_zipWith h, List.length_zipWith, h, Nat.min_self]

/-- Any number of rows may be added. -/
theorem HasWidths.foldl_widen (h : HasWidths rows widths)
    (hmore : ∀ row ∈ more, row.length = widths.length) :
    HasWidths (rows ++ more) (more.foldl Table.widen widths) := by
  -- The invariant is about all rows so far, so these grow with each step.
  induction more generalizing rows widths with
  | nil => rwa [List.append_nil]
  | cons row more ih =>
    obtain ⟨hrow, hmore⟩ := List.forall_mem_cons.1 hmore
    rw [List.append_cons, List.foldl_cons]
    refine ih (h.widen hrow) fun r hr => ?_
    rw [length_widen hrow, hmore r hr]

/-- The cells of a row are no longer than the columns are wide. -/
def Fits (widths : List Nat) (row : List String) : Prop :=
  List.Forall₂ (fun w cell => cell.length ≤ w) widths row

theorem HasWidths.fits (h : HasWidths rows widths) (hrow : row ∈ rows) : Fits widths row := by
  refine List.forall₂_iff_get.2 ⟨(h.length_eq row hrow).symm, fun i hi hi' => ?_⟩
  exact (h.isGreatest i _ (List.getElem?_eq_getElem hi)).2
    ⟨row, hrow, _, List.getElem?_eq_getElem hi', rfl⟩

/-! ## Lines -/

/-- The length of a line between the columns of some widths: two spaces and a bar for each column, and
the first bar. -/
def lineLength (widths : List Nat) : Nat := 1 + (widths.map (· + 3)).sum

/-- Where a column starts in a line: behind the columns before it, a bar and a space. -/
def columnStart (widths : List Nat) (i : Nat) : Nat := lineLength (widths.take i) + 1

/-- A text stands whole in a column of a line, with spaces behind it up to the width of the column. -/
def StandsIn (widths : List Nat) (i : Nat) (text line : String) : Prop :=
  ∃ w ∈ widths[i]?, text.length ≤ w ∧ (line.toList.drop (columnStart widths i)).take w =
    text.toList ++ List.replicate (w - text.length) ' '

theorem toList_padded (w : Nat) (text : String) :
    (padded w text).toList = text.toList ++ List.replicate (w - text.length) ' ' := by
  rw [padded, Text.repeated, String.toList_append, String.toList_ofList]

theorem length_toList_padded (h : text.length ≤ w) : (padded w text).toList.length = w := by
  rw [toList_padded, List.length_append, List.length_replicate, String.length_toList]
  omega

theorem toList_cellsText_cons (w : Nat) (widths : List Nat) (cell : String) (row : List String) :
    (cellsText padded (w :: widths) (cell :: row)).toList =
      (' ' :: ((padded w cell).toList ++ [' ', '│'])) ++ (cellsText padded widths row).toList := by
  simp [cellsText]

theorem Fits.length_cellsText (h : Fits widths row) :
    (cellsText padded widths row).toList.length = (widths.map (· + 3)).sum := by
  induction h with
  | nil => rfl
  | cons hcell _ ih =>
    rw [toList_cellsText_cons, List.length_append, ih, List.length_cons, List.length_append,
      length_toList_padded hcell, List.map_cons, List.sum_cons]
    rfl

/-- **The line of a row is as long as the widths say.** -/
theorem Fits.length_rowLine (h : Fits widths row) :
    (rowLine widths row).length = lineLength widths := by
  rw [rowLine, String.length_append, ← String.length_toList, ← String.length_toList, h.length_cellsText,
    lineLength]
  rfl

/-- The dashes of each column but the first stand behind a crossing. -/
theorem toList_frameLine_cons (left crossing right : String) (w : Nat) (widths : List Nat) :
    (frameLine left crossing right (w :: widths)).toList =
      left.toList ++ (List.replicate (w + 2) '─' ++
        (widths.flatMap fun w => crossing.toList ++ List.replicate (w + 2) '─') ++ right.toList) := by
  have hinner : (String.intercalate crossing
      ((w :: widths).map fun w => Text.repeated (w + 2) '─')).toList = List.replicate (w + 2) '─' ++
        widths.flatMap fun w => crossing.toList ++ List.replicate (w + 2) '─' := by
    -- Crossings stand between the columns, so the first column is apart in each step.
    induction widths generalizing w with
    | nil => simp [Text.repeated]
    | cons w' widths ih =>
      have hrest := ih w'
      rw [List.map_cons] at hrest
      rw [List.map_cons, List.map_cons, String.intercalate_cons_cons, String.toList_append, hrest,
        List.flatMap_cons]
      simp [Text.repeated]
  rw [frameLine, String.toList_append, String.toList_append, hinner, List.append_assoc]

/-- **A line of the frame is as long as the widths say**, if there is a column at all: without one there
is still an end on the right. -/
theorem length_frameLine {left crossing right : String} (hleft : left.length = 1)
    (hcrossing : crossing.length = 1) (hright : right.length = 1) (hwidths : widths ≠ []) :
    (frameLine left crossing right widths).length = lineLength widths := by
  obtain ⟨w, widths, rfl⟩ := List.exists_cons_of_ne_nil hwidths
  have hcolumn (w : Nat) : (crossing.toList ++ List.replicate (w + 2) '─').length = w + 3 := by
    rw [List.length_append, String.length_toList, hcrossing, List.length_replicate]
    omega
  rw [← String.length_toList, toList_frameLine_cons]
  simp only [List.length_append, List.length_flatMap, hcolumn, String.length_toList, hleft, hright,
    List.length_replicate, lineLength, List.map_cons, List.sum_cons]
  omega

/-- A cell stands whole in its column. -/
theorem Fits.standsIn (h : Fits widths row) (htext : text ∈ row[i]?) :
    StandsIn widths i text (rowLine widths row) := by
  have hcells : ∃ w ∈ widths[i]?, text.length ≤ w ∧
      ((cellsText padded widths row).toList.drop (columnStart widths i - 1)).take w =
        (padded w text).toList := by
    -- The column is found from the left: each one before it takes up its width and a fixed margin.
    induction h generalizing i with
    | nil => cases htext
    | @cons w cell widths row hcell _ ih =>
      cases i with
      | zero =>
        obtain rfl := Option.some.inj htext
        refine ⟨w, rfl, hcell, ?_⟩
        rw [toList_cellsText_cons]
        exact (List.take_append_of_le_length (by simp [length_toList_padded hcell])).trans
          (List.take_left' (length_toList_padded hcell))
      | succ i =>
        obtain ⟨w', hw', hle, hdrop⟩ := ih htext
        refine ⟨w', hw', hle, ?_⟩
        have hstart : columnStart (w :: widths) (i + 1) - 1 =
            (' ' :: ((padded w cell).toList ++ [' ', '│'])).length + (columnStart widths i - 1) := by
          rw [List.length_cons, List.length_append, length_toList_padded hcell]
          simp only [columnStart, lineLength, List.take_succ_cons, List.map_cons, List.sum_cons,
            List.length_cons, List.length_nil]
          omega
        rw [toList_cellsText_cons, hstart, List.drop_length_add_append, hdrop]
  obtain ⟨w, hw, hle, hdrop⟩ := hcells
  refine ⟨w, hw, hle, ?_⟩
  rw [← toList_padded, ← hdrop, rowLine, String.toList_append]
  rfl

/-! ## Lines without breaks -/

theorem newline_notMem_cellsText (hrow : ∀ cell ∈ row, '\n' ∉ cell.toList) :
    '\n' ∉ (cellsText padded widths row).toList := by
  induction row generalizing widths with
  | nil => cases widths <;> simp [cellsText]
  | cons cell row ih =>
    obtain ⟨hcell, hrow⟩ := List.forall_mem_cons.1 hrow
    have hpadded (w : Nat) : '\n' ∉ (padded w cell).toList := by
      rw [toList_padded, List.mem_append, not_or]
      exact ⟨hcell, fun hmem => absurd (List.eq_of_mem_replicate hmem) (by decide)⟩
    cases widths with
    | nil => simp [cellsText, hpadded, ih hrow]
    | cons w widths => simp [cellsText, hpadded, ih hrow]

theorem newline_notMem_frameLine {left crossing right : String} (hleft : '\n' ∉ left.toList)
    (hcrossing : '\n' ∉ crossing.toList) (hright : '\n' ∉ right.toList) (widths : List Nat) :
    '\n' ∉ (frameLine left crossing right widths).toList := by
  cases widths with
  | nil => simp [frameLine, hleft, hright]
  | cons w widths => simp [toList_frameLine_cons, hleft, hcrossing, hright]

/-- Lines without breaks are found again in their text, each of them ended by a break. -/
theorem splitOn_join_lines {lines : List String} (h : ∀ line ∈ lines, '\n' ∉ line.toList) :
    (String.join (lines.map fun line => line ++ "\n")).toList.splitOn '\n' =
      lines.map String.toList ++ [[]] := by
  induction lines with
  | nil => rfl
  | cons line lines ih =>
    obtain ⟨hline, hlines⟩ := List.forall_mem_cons.1 h
    have htext : (String.join ((line :: lines).map fun line => line ++ "\n")).toList =
        line.toList ++ '\n' :: (String.join (lines.map fun line => line ++ "\n")).toList := by
      simp [String.join_cons]
    rw [htext, List.splitOn_append_cons_self_of_not_mem hline, ih hlines]
    rfl

/-! ## Tables -/

namespace Table

variable {t : Table}

/-- A table has at least one column, and a cell for each heading in each row. No heading and no cell
breaks a line. -/
structure IsRegular (t : Table) : Prop where
  headings_ne_nil : t.headings ≠ []
  length_eq : ∀ row ∈ t.rows, row.length = t.headings.length
  unbroken : ∀ row ∈ t.headings :: t.rows, ∀ cell ∈ row, '\n' ∉ cell.toList

/-- What is printed of a table without styles is aligned and complete. -/
structure IsAligned (t : Table) : Prop where
  /-- The lines that are printed, each ended by a break. -/
  printed : (t.text false).toList.splitOn '\n' = (t.lines false).map String.toList ++ [[]]
  /-- There is one for the headings, one for each row, and three for the frame. -/
  length_lines : (t.lines false).length = t.rows.length + 4
  /-- The columns are as wide as their longest heading or cell. -/
  widths : HasWidths (t.headings :: t.rows) t.widths
  /-- All lines have one length. -/
  length_line : ∀ line ∈ t.lines false, line.length = 1 + (t.widths.map (· + 3)).sum
  /-- All headings stand whole in the second line. -/
  heading : ∀ i, ∀ text ∈ t.headings[i]?, ∃ line ∈ (t.lines false)[1]?, StandsIn t.widths i text line
  /-- All cells stand whole in the line of their row, below the headings. -/
  cell : ∀ k, ∀ row ∈ t.rows[k]?, ∀ i, ∀ text ∈ row[i]?,
    ∃ line ∈ (t.lines false)[k + 3]?, StandsIn t.widths i text line

/-- Headings without a style are a row as others are. -/
theorem headingLine_false (widths : List Nat) (headings : List String) :
    headingLine false widths headings = rowLine widths headings := rfl

theorem hasWidths_widths (h : ∀ row ∈ t.rows, row.length = t.headings.length) :
    HasWidths (t.headings :: t.rows) t.widths := by
  have hstart := hasWidths_headings t.headings
  exact hstart.foldl_widen fun row hrow => by rw [h row hrow, List.length_map]

/-- What holds of all lines of a table: of the frame, and of the headings and rows. -/
theorem forall_mem_lines {P : String → Prop} (htop : P (frameLine "┌" "┬" "┐" t.widths))
    (hmiddle : P (frameLine "├" "┼" "┤" t.widths)) (hbottom : P (frameLine "└" "┴" "┘" t.widths))
    (hrows : ∀ row ∈ t.headings :: t.rows, P (rowLine t.widths row)) :
    ∀ line ∈ t.lines false, P line := by
  obtain ⟨hheadings, hrows⟩ := List.forall_mem_cons.1 hrows
  intro line hline
  simp only [lines, headingLine_false, List.mem_append, List.mem_cons, List.mem_map,
    List.not_mem_nil, or_false] at hline
  rcases hline with ((rfl | rfl | rfl) | ⟨row, hrow, rfl⟩) | rfl
  · exact htop
  · exact hheadings
  · exact hmiddle
  · exact hrows row hrow
  · exact hbottom

theorem getElem?_lines (k : Nat) (row : List String) (hrow : t.rows[k]? = some row) :
    (t.lines false)[k + 3]? = some (rowLine t.widths row) := by
  have hk : k < t.rows.length := (List.getElem?_eq_some_iff.1 hrow).1
  -- Behind three lines for the headings and in front of the last line of the frame.
  rw [lines, List.append_assoc, List.getElem?_append_right (by simp)]
  rw [List.getElem?_append_left (by simpa using hk), List.getElem?_map]
  simp [hrow]

/-- **Regular tables are printed aligned and complete.** -/
theorem isAligned (h : t.IsRegular) : t.IsAligned := by
  have hwidths := hasWidths_widths h.length_eq
  -- Without a column the lines of the frame would be longer than the rows.
  have hne : t.widths ≠ [] := by
    have hlength := hwidths.length_eq _ List.mem_cons_self
    intro hnil
    rw [hnil] at hlength
    exact h.headings_ne_nil (List.length_eq_zero_iff.1 hlength)
  have hunbroken : ∀ line ∈ t.lines false, '\n' ∉ line.toList := by
    refine forall_mem_lines ?_ ?_ ?_ fun row hrow => ?_
    · exact newline_notMem_frameLine (by decide) (by decide) (by decide) _
    · exact newline_notMem_frameLine (by decide) (by decide) (by decide) _
    · exact newline_notMem_frameLine (by decide) (by decide) (by decide) _
    · rw [rowLine, String.toList_append, List.mem_append, not_or]
      exact ⟨by decide, newline_notMem_cellsText (h.unbroken row hrow)⟩
  constructor
  case printed => exact splitOn_join_lines hunbroken
  case length_lines => simp [lines]
  case widths => exact hwidths
  case length_line =>
    refine forall_mem_lines ?_ ?_ ?_ fun row hrow => (hwidths.fits hrow).length_rowLine
    · exact length_frameLine rfl rfl rfl hne
    · exact length_frameLine rfl rfl rfl hne
    · exact length_frameLine rfl rfl rfl hne
  case heading =>
    exact fun i text htext => ⟨_, rfl, (hwidths.fits List.mem_cons_self).standsIn htext⟩
  case cell =>
    intro k row hrow i text htext
    have hfits := hwidths.fits (List.mem_cons_of_mem _ (List.mem_of_getElem? hrow))
    exact ⟨_, getElem?_lines k row hrow, hfits.standsIn htext⟩

/-- Cells that are empty, longer than their heading, beyond ASCII, or drawn like the frame. -/
def unusualTable : Table where
  headings := ["Ä", "Name"]
  rows := [["日本", ""], ["", "│ x │ y"]]

theorem isAligned_unusual : unusualTable.IsRegular ∧ unusualTable.IsAligned ∧
    unusualTable.lines false = ["┌────┬─────────┐", "│ Ä  │ Name    │", "├────┼─────────┤",
      "│ 日本 │         │", "│    │ │ x │ y │", "└────┴─────────┘"] := by
  have h : unusualTable.IsRegular := ⟨by decide, by decide, by decide +kernel⟩
  exact ⟨h, isAligned h, by decide +kernel⟩

end Table

end Provisioning.Terminal
