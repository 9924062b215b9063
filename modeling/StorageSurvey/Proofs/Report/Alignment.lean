import Mathlib.Data.Int.Order.Basic
import Mathlib.Data.Nat.Basic
import Mathlib.Order.Lattice
import StorageSurvey.Proofs.Text.Columns
import StorageSurvey.Report.Format

/-!
# Tables in aligned columns

A table has a row for its header and one for each item, and a row has as many lines as its highest
cell.  A layout gives every column a width; a line of a row is then what its columns have in that
line, filled up to these widths.  `LaidOut` says that a text has these lines and no others, and that
what stands before a column takes the same display width in each of them.

The program makes the header of a table and its rows on their own.  They are in step with a list of
columns if the header has the headers of these and each row has their cells (`InStep`).  A table of
which this can be said is laid out with the width that each column needs for itself
(`laidOut_tableOf`), so that a column can be left out without a change to the others.
-/

namespace StorageSurvey.Report

open StorageSurvey.Text

variable {α : Type}

/-! ## Columns -/

/-- What a table shows of an item in one column. -/
structure Column (α : Type) where
  header : String
  cell : α → String

/-- Whether a header and the rows of a table have a text for each of the columns, in their order. -/
structure InStep (columns : List (Column α)) (header : List String) (row : α → List String) :
    Prop where
  header_eq : header = columns.map (·.header)
  row_eq : ∀ item, row item = columns.map (·.cell item)

/-- The rows of a table: the header, and one for each item. -/
def rowsOf (items : List α) : List (Option α) :=
  none :: items.map some

/-- What a column shows in a row. -/
def Column.shows (column : Column α) : Option α → String
  | none => column.header
  | some item => column.cell item

/-- What a column shows in a row, line by line. -/
def Column.lines (column : Column α) (row : Option α) : List (List Char) :=
  Text.lines (column.shows row).toList

/-- The width that a column needs for its widest line. -/
def Column.width (column : Column α) (items : List α) : Int :=
  (((rowsOf items).flatMap column.lines).map Text.width).foldl max 0

/-! ## Layouts -/

/-- Columns with their widths. -/
abbrev Layout (α : Type) := List (Column α × Int)

namespace Layout

/-- The columns with the widths that they need. -/
def ofItems (columns : List (Column α)) (items : List α) : Layout α :=
  columns.map fun column => (column, column.width items)

/-- The number of lines of a row. -/
def height (layout : Layout α) (row : Option α) : Nat :=
  (layout.map fun entry => (entry.1.lines row).length).foldl max 0

/-- A text with a blank before it and one after it, filled up with blanks to a width. -/
def filled (width : Int) (text : List Char) : List Char :=
  [' '] ++ text ++ List.replicate (width - Text.width text).toNat ' ' ++ [' ']

/-- One line of a row.  A cell that has not so many lines is empty there. -/
def line (layout : Layout α) (row : Option α) (index : Nat) : List Char :=
  layout.flatMap fun entry => filled entry.2 ((entry.1.lines row).getD index [])

def lines (layout : Layout α) (row : Option α) : List (List Char) :=
  (List.range (layout.height row)).map (layout.line row)

/-- The display width of a line: that of each column and the blanks around it. -/
def width : Layout α → Int
  | [] => 0
  | entry :: layout => entry.2 + 2 + width layout

end Layout

/-- Whether a text is a table with this layout.  The first columns of a line, up to any of them or
all, take the width that the layout gives them, so that the next one begins at the same place in
every line. -/
structure LaidOut (layout : Layout α) (items : List α) (text : String) : Prop where
  lines_eq : lines text.toList = (rowsOf items).flatMap layout.lines
  width_take : ∀ row ∈ rowsOf items, ∀ index count,
    Text.width (Layout.line (layout.take count) row index) = Layout.width (layout.take count)

/-! ## Widths -/

theorem le_foldl_max {β : Type} [LinearOrder β] (values : List β) (first : β) :
    first ≤ values.foldl max first ∧ ∀ value ∈ values, value ≤ values.foldl max first := by
  induction values generalizing first with
  | nil => exact ⟨le_refl first, fun value hvalue => absurd hvalue List.not_mem_nil⟩
  | cons value values ih =>
      obtain ⟨hfirst, hvalues⟩ := ih (max first value)
      refine ⟨le_trans (le_max_left first value) hfirst, fun other hother => ?_⟩
      rcases List.mem_cons.mp hother with rfl | hother
      · exact le_trans (le_max_right first other) hfirst
      · exact hvalues other hother

/-- The greatest value so far is part of the greatest value of all. -/
theorem foldl_max_eq (values : List Int) {first : Int} (h : 0 ≤ first) :
    values.foldl max first = max first (values.foldl max 0) := by
  induction values generalizing first with
  | nil => exact (Int.max_eq_left h).symm
  | cons value values ih =>
      rw [List.foldl_cons, List.foldl_cons, ih (by omega : 0 ≤ max first value),
        ih (by omega : 0 ≤ max 0 value)]
      have hrest := (le_foldl_max values 0).1
      omega

/-- The widest line of several cells is the widest line of the widest cell. -/
theorem foldl_max_flatMap {β : Type} (cells : List β) (widths : β → List Int) {first : Int}
    (h : 0 ≤ first) :
    (cells.flatMap widths).foldl max first =
      (cells.map fun cell => (widths cell).foldl max 0).foldl max first := by
  induction cells generalizing first with
  | nil => rfl
  | cons cell cells ih =>
      rw [List.flatMap_cons, List.foldl_append, List.map_cons, List.foldl_cons,
        ← foldl_max_eq _ h]
      exact ih (Int.le_trans h (le_foldl_max _ _).1)

theorem Column.width_eq (column : Column α) (items : List α) :
    column.width items =
      (items.map fun item => Columns.cellWidth (column.cell item)).foldl max
        (Columns.cellWidth column.header) := by
  have hheader : 0 ≤ Columns.cellWidth column.header := (le_foldl_max _ 0).1
  rw [width, List.map_flatMap, foldl_max_flatMap _ _ (Int.le_refl 0), rowsOf, List.map_cons,
    List.map_map, List.foldl_cons]
  change (items.map fun item => Columns.cellWidth (column.cell item)).foldl max
    (max 0 (Columns.cellWidth column.header)) = _
  rw [Int.max_eq_right hheader]

/-- What a column has in a line of a row is one of its own lines, unless it has not so many. -/
theorem Column.getD_lines (column : Column α) (row : Option α) (index : Nat) :
    (column.lines row).getD index [] = [] ∨
      (column.lines row).getD index [] ∈ column.lines row := by
  rw [List.getD_eq_getElem?_getD]
  cases hline : (column.lines row)[index]? with
  | none => exact .inl rfl
  | some line => exact .inr (List.mem_of_getElem? hline)

/-- A column has room for what it has in a line. -/
theorem Column.width_getD_lines_le (column : Column α) {items : List α} {row : Option α}
    (hrow : row ∈ rowsOf items) (index : Nat) :
    Text.width ((column.lines row).getD index []) ≤ column.width items := by
  obtain ⟨hzero, hlines⟩ :=
    le_foldl_max (((rowsOf items).flatMap column.lines).map Text.width) 0
  rcases column.getD_lines row index with hnone | hmem
  · rw [hnone]
    exact hzero
  · exact hlines _ (List.mem_map_of_mem (List.mem_flatMap.mpr ⟨row, hrow, hmem⟩))

/-- Where every column has room for what it has in a line, the line has the width of the layout. -/
theorem Layout.width_line {layout : Layout α} {row : Option α} {index : Nat}
    (h : ∀ entry ∈ layout, Text.width ((entry.1.lines row).getD index []) ≤ entry.2) :
    Text.width (layout.line row index) = layout.width := by
  induction layout with
  | nil => rfl
  | cons entry layout ih =>
      have hentry := h entry List.mem_cons_self
      have hrest := ih fun other hother => h other (List.mem_cons_of_mem entry hother)
      calc Text.width (Layout.line (entry :: layout) row index)
          = entry.2 + 2 + Text.width (Layout.line layout row index) :=
            Columns.width_paddedCell_append hentry _
        _ = entry.2 + 2 + Layout.width layout := by rw [hrest]
        _ = Layout.width (entry :: layout) := rfl

/-! ## Lines -/

theorem Layout.lineFeed_notMem_line (layout : Layout α) (row : Option α) (index : Nat) :
    '\n' ∉ layout.line row index := by
  intro hmem
  obtain ⟨entry, -, hcell⟩ := List.mem_flatMap.mp hmem
  have hshown : '\n' ∉ (entry.1.lines row).getD index [] := by
    rcases entry.1.getD_lines row index with hnone | hline
    · rw [hnone]
      exact List.not_mem_nil
    · exact lineFeed_notMem_of_mem_lines hline
  rw [filled, List.mem_append, List.mem_append, List.mem_append, List.mem_replicate] at hcell
  rcases hcell with ((hblank | hline) | hfill) | hblank
  · exact absurd hblank (by decide)
  · exact hshown hline
  · exact absurd hfill.2 (by decide)
  · exact absurd hblank (by decide)

/-- A row has at least one line. -/
theorem Layout.lines_ne_nil {layout : Layout α} (h : layout ≠ []) (row : Option α) :
    layout.lines row ≠ [] := by
  obtain ⟨entry, others, rfl⟩ := List.exists_cons_of_ne_nil h
  have hentry : 0 < (entry.1.lines row).length :=
    List.length_pos_iff.mpr (Text.lines_ne_nil _)
  have hpos : 0 < Layout.height (entry :: others) row :=
    Nat.lt_of_lt_of_le hentry ((le_foldl_max _ 0).2 _ List.mem_cons_self)
  rw [lines, Ne, List.map_eq_nil_iff, List.range_eq_nil]
  omega

/-- A row is one line if nothing that it shows has a line break. -/
theorem Layout.lines_of_unbroken {columns : List (Column α)} {items : List α} {row : Option α}
    (hcolumns : columns ≠ []) (h : ∀ column ∈ columns, Unbroken (column.shows row)) :
    (ofItems columns items).lines row = [(ofItems columns items).line row 0] := by
  have hlengths : ((ofItems columns items).map fun entry => (entry.1.lines row).length) =
      List.replicate columns.length 1 := by
    rw [ofItems, List.map_map, List.eq_replicate_iff]
    refine ⟨List.length_map _, fun length hlength => ?_⟩
    obtain ⟨column, hcolumn, rfl⟩ := List.mem_map.mp hlength
    rw [Function.comp_apply, Column.lines, Text.lines_of_unbroken (h column hcolumn),
      List.length_singleton]
  have hmax : ∀ count : Nat, (List.replicate count 1).foldl max 1 = 1 := by
    intro count
    induction count with
    | zero => rfl
    | succ count ih => exact ih
  have hheight : (ofItems columns items).height row = 1 := by
    rw [height, hlengths]
    obtain ⟨first, others, rfl⟩ := List.exists_cons_of_ne_nil hcolumns
    exact hmax others.length
  rw [lines, hheight]
  rfl

/-! ## Tables whose header and rows are in step -/

section

variable {columns : List (Column α)} {header : List String} {row : α → List String}

theorem InStep.header_cons_rows (h : InStep columns header row) (items : List α) :
    (tableOf header row items).header :: (tableOf header row items).rows =
      (rowsOf items).map fun entry => columns.map (·.shows entry) := by
  rw [rowsOf, List.map_cons, List.map_map, tableOf, h.header_eq, funext h.row_eq]
  rfl

theorem InStep.widths_tableOf (h : InStep columns header row) (items : List α) :
    (tableOf header row items).widths = columns.map (·.width items) := by
  have hcells : ((rowsOf items).map fun entry => columns.map (·.shows entry)).map
      (List.map Columns.cellWidth) =
        columns.map (fun column => Columns.cellWidth column.header) ::
          items.map fun item => columns.map fun column => Columns.cellWidth (column.cell item) := by
    simp [rowsOf, Column.shows]
  rw [Columns.widths, h.header_cons_rows, hcells, List.foldl_cons, Columns.widen,
    Columns.foldl_widen_map columns (fun column item => Columns.cellWidth (column.cell item))]
  exact List.map_congr_left fun column _ => (column.width_eq items).symm

/-- The lines of a row in the layout that the items need. -/
theorem rowLines_eq_lines (columns : List (Column α)) (items : List α) (entry : Option α) :
    Columns.rowLines (columns.map (·.width items)) (columns.map (·.shows entry)) =
      (Layout.ofItems columns items).lines entry := by
  unfold Columns.rowLines Layout.lines Layout.height Layout.line Layout.ofItems
  simp only [List.map_map, List.zipWith_map, List.zipWith_self, List.flatMap_map,
    ← List.flatMap_def]
  rfl

/-- A table is laid out with the widths that its columns need. -/
theorem laidOut_tableOf (h : InStep columns header row) (hcolumns : columns ≠ [])
    (items : List α) :
    LaidOut (.ofItems columns items) items (tableOf header row items).text where
  lines_eq := by
    have hlayout : Layout.ofItems columns items ≠ [] := by
      simpa [Layout.ofItems] using hcolumns
    have htext : (tableOf header row items).text.toList =
        List.intercalate ['\n'] ((rowsOf items).flatMap (Layout.ofItems columns items).lines) := by
      rw [Columns.text, String.toList_ofList, h.header_cons_rows, h.widths_tableOf,
        List.flatMap_map, funext (rowLines_eq_lines columns items)]
    rw [htext]
    refine lines_intercalate (fun line hline => ?_) ?_
    · obtain ⟨entry, -, hline⟩ := List.mem_flatMap.mp hline
      obtain ⟨index, -, rfl⟩ := List.mem_map.mp hline
      exact Layout.lineFeed_notMem_line _ entry index
    · rw [rowsOf, List.flatMap_cons]
      exact List.append_ne_nil_of_left_ne_nil (Layout.lines_ne_nil hlayout none) _
  width_take entry hentry index count := by
    refine Layout.width_line fun placed hplaced => ?_
    obtain ⟨column, -, rfl⟩ := List.mem_map.mp (List.mem_of_mem_take hplaced)
    exact column.width_getD_lines_le hentry index

end

end StorageSurvey.Report
