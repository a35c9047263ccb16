import Worksheet.Proofs.Address.Labels
import Worksheet.Proofs.Session.Consistency

namespace Worksheet

open Address (cellId cellId_inj makeCellId makeCellId_eq_ok)
open Session (editedGrid)

/-!
# The shape of the grids of a session

* `nodup_cellIds`, `keys_blank` — a blank grid has one cell for each row and column, row by row;
* `Grid.Shaped` — the grids of that form, of a size within the limits; blank ones are, and edits
  keep it;
* `Grid.Shaped.displayRows?_eq` — such a grid can be shown as a rectangle;
* `raw_editedGrid` — an edit writes into one cell;
* `Session.Reachable.shape` — so it is with the grids of every session that can be reached.
-/

variable {g g' : Grid} {id : CellId} {rows columns row column : Nat}

/-! ### Names of cells -/

/-- The names on a sheet are different from each other. -/
theorem nodup_cellIds (rows columns : Nat) : (Grid.cellIds rows columns).Nodup := by
  refine List.nodup_flatMap.2 ⟨fun row _ => ?_, ?_⟩
  · exact List.nodup_range.map fun column column' h => (cellId_inj.1 h).2
  · -- two rows have no name in common
    refine List.nodup_range.imp fun {row row'} hne id hid hid' => ?_
    obtain ⟨column, -, rfl⟩ := List.mem_map.1 hid
    obtain ⟨column', -, heq⟩ := List.mem_map.1 hid'
    have hrows := (cellId_inj.1 heq).1
    omega

theorem keys_blank (rows columns : Nat) :
    (Grid.blank rows columns).cells.keys = Grid.cellIds rows columns := by
  have hnames : ((Grid.cellIds rows columns).map (·, Cell.blank)).map Prod.fst
      = Grid.cellIds rows columns := by
    rw [List.map_map]
    exact List.map_id _
  rw [Grid.blank, Table.keys_ofList, hnames]
  rw [hnames]
  exact nodup_cellIds rows columns

theorem mem_cellIds : id ∈ Grid.cellIds rows columns ↔
    ∃ row < rows, ∃ column < columns, cellId (row + 1) column = id := by
  simp only [Grid.cellIds, List.mem_flatMap, List.mem_map, List.mem_range]

/-- The rows of a sheet have numbers of few digits. -/
theorem makeCellId_of_lt (hrow : row < Grid.maxRows) (column : Nat) :
    makeCellId (row + 1) column = .ok (cellId (row + 1) column) := by
  have hlt : row + 1 < 10 ^ 3 := by
    have hmax : Grid.maxRows = 100 := rfl
    omega
  have hshort : (Nat.toDigits 10 (row + 1)).length ≤ 3 :=
    (Nat.length_toDigits_le_iff (by decide) (by decide)).2 hlt
  exact makeCellId_eq_ok (Nat.succ_pos row) (hshort.trans (by decide))

/-! ### Grids with a cell for each row and column -/

/-- Whether the grid has a size within the limits, and a cell for each row and column of it, row by
row. -/
structure Grid.Shaped (g : Grid) : Prop where
  rows : Grid.minRows ≤ g.rows ∧ g.rows ≤ Grid.maxRows
  columns : Grid.minColumns ≤ g.columns ∧ g.columns ≤ Grid.maxColumns
  keys : g.cells.keys = Grid.cellIds g.rows g.columns

theorem shaped_create {rows columns : Int} (h : Grid.create rows columns = .ok g) : g.Shaped := by
  obtain ⟨hrows, hcolumns, rfl⟩ := Grid.create_eq_ok h
  refine ⟨?_, ?_, keys_blank _ _⟩
  · show Grid.minRows ≤ rows.toNat ∧ rows.toNat ≤ Grid.maxRows
    omega
  · show Grid.minColumns ≤ columns.toNat ∧ columns.toNat ≤ Grid.maxColumns
    omega

theorem Grid.Shaped.edited (hg : g.Shaped) {moment : Nat} {raw : String}
    (h : editedGrid g moment id raw = .ok (some g')) : g'.Shaped := by
  obtain ⟨hrows, hcolumns, hkeys⟩ := shape_editedGrid h
  constructor
  · rw [hrows]
    exact hg.rows
  · rw [hcolumns]
    exact hg.columns
  · rw [hkeys, hrows, hcolumns]
    exact hg.keys

/-- The cells are those for which the address functions have names. -/
theorem Grid.Shaped.map_ok_keys (hg : g.Shaped) :
    g.cells.keys.map Except.ok = (List.range g.rows).flatMap fun row : Nat =>
      (List.range g.columns).map fun column : Nat => makeCellId (row + 1) column := by
  rw [hg.keys, Grid.cellIds, List.map_flatMap]
  refine List.flatMap_congr fun row hrow => ?_
  rw [List.map_map]
  refine List.map_congr_left fun column _ => ?_
  exact (makeCellId_of_lt ((List.mem_range.1 hrow).trans_le hg.rows.2) column).symm

/-! ### What they show -/

/-- What is shown in a place; nothing is where the grid has no cell. -/
def Grid.shownAt (g : Grid) (id : CellId) : Value := ((g.get? id).getD Cell.blank).display

theorem Grid.Shaped.displayAt?_eq (hg : g.Shaped) (hrow : row < g.rows)
    (hcolumn : column < g.columns) :
    g.displayAt? row column = some (g.shownAt (cellId (row + 1) column)) := by
  have hmem : cellId (row + 1) column ∈ g.cells.keys := by
    rw [hg.keys]
    exact mem_cellIds.2 ⟨row, hrow, column, hcolumn, rfl⟩
  obtain ⟨c, hc⟩ := Table.exists_of_mem_keys hmem
  have hget : g.get? (cellId (row + 1) column) = some c := hc
  have hname := makeCellId_of_lt (hrow.trans_le hg.rows.2) column
  simp only [Grid.displayAt?, Grid.shownAt, hname, Except.toOption, Option.bind_eq_bind,
    Option.bind_some, hget, Option.map_some, Option.getD_some]

/-- A grid with all its cells can be shown row by row. -/
theorem Grid.Shaped.displayRows?_eq (hg : g.Shaped) :
    g.displayRows? = some ((List.range g.rows).map fun row =>
      (List.range g.columns).map fun column => g.shownAt (cellId (row + 1) column)) := by
  refine List.mapM_eq_pure_map fun row hrow => List.mapM_eq_pure_map fun column hcolumn => ?_
  exact hg.displayAt?_eq (List.mem_range.1 hrow) (List.mem_range.1 hcolumn)

/-- One row after the other is what the cells show, in their order on the grid. -/
theorem Grid.Shaped.flatten_rows (hg : g.Shaped) :
    ((List.range g.rows).map fun row =>
      (List.range g.columns).map fun column => g.shownAt (cellId (row + 1) column)).flatten
      = g.cells.toList.map fun (_, c) => c.display := by
  have hcells : g.cells.toList.map (fun (_, c) => c.display) = g.cells.keys.map g.shownAt :=
    g.cells.map_toList Cell.display Cell.blank
  rw [hcells, hg.keys, Grid.cellIds, List.map_flatMap, List.flatMap_def]
  simp only [List.map_map, Function.comp_def]

/-! ### Edits -/

/-- After an edit, its text is in the cell it names, and every other cell has the text it had. -/
theorem raw_editedGrid {moment : Nat} {raw : String}
    (h : editedGrid g moment id raw = .ok (some g')) (a : CellId) :
    (g'.get? a).map Cell.raw = if a = id then some raw else (g.get? a).map Cell.raw := by
  obtain ⟨c, r, -, hr, rfl⟩ := editedGrid_eq_ok h
  rw [(recalculates_of_eq_ok hr).raw a]
  by_cases ha : a = id
  · rw [if_pos ha, ha, get?_withRaw_self]
    rfl
  · rw [if_neg ha, get?_withRaw_of_ne ha]

/-! ### Sessions -/

namespace Session

variable {s : Session}

theorem Reachable.shaped (hs : s.Reachable) : ∀ g ∈ s.grids, g.Shaped :=
  hs.forall_grids (fun _ _ _ hcreate => shaped_create hcreate)
    fun _ _ _ _ _ hg hedit => hg.edited hedit

/-- An edit changes nothing, or no raw text but that of the cell it names. -/
theorem raw_after_edit (s : Session) (name raw : String) (recorded : Bool) (a : CellId) :
    ((s.after (.edit name raw recorded)).grid.get? a).map Cell.raw
      = if s.changes (.edit name raw recorded) = true ∧ a = Text.upper name then some raw
        else (s.grid.get? a).map Cell.raw := by
  rcases s.after_eq_or_step (.edit name raw recorded) with ⟨hsame, hafter⟩ | ⟨hchanges, hstep⟩
  · rw [hafter, hsame, if_neg (by simp)]
  · rw [hchanges]
    generalize s.after (.edit name raw recorded) = t at hstep
    cases hstep with
    | edit recorded hedited =>
      rw [raw_editedGrid hedited a]
      simp only [true_and]

/-- In every session that can be reached, the grids have a size within the limits, and exactly the
cells that there are names for on a sheet of that size, row by row.  So each can be shown row by
row, and the rows, one after the other, are what its cells show.  An edit writes into the cell it
names if it changes anything, and into no other. -/
theorem Reachable.shape (hs : s.Reachable) :
    (∀ g ∈ s.grids,
      (5 ≤ g.rows ∧ g.rows ≤ 100) ∧ (5 ≤ g.columns ∧ g.columns ≤ 52) ∧
        g.cells.keys.map Except.ok = ((List.range g.rows).flatMap fun row : Nat =>
          (List.range g.columns).map fun column : Nat => makeCellId (row + 1) column) ∧
        g.cells.keys.Nodup ∧
        ∃ rows, g.displayRows? = some rows ∧ rows.length = g.rows ∧
          (∀ row ∈ rows, row.length = g.columns) ∧
          rows.flatten = g.cells.toList.map fun (_, c) => c.display) ∧
      ∀ name raw recorded,
        (∀ a, a ≠ Text.upper name →
          ((s.after (.edit name raw recorded)).grid.get? a).map Cell.raw
            = (s.grid.get? a).map Cell.raw) ∧
        (s.changes (.edit name raw recorded) = true →
          ((s.after (.edit name raw recorded)).grid.get? (Text.upper name)).map Cell.raw
            = some raw) := by
  refine ⟨fun g hg => ?_, fun name raw recorded => ⟨fun a ha => ?_, fun hchanges => ?_⟩⟩
  · have hshaped := hs.shaped g hg
    refine ⟨hshaped.rows, hshaped.columns, hshaped.map_ok_keys, g.cells.nodup_keys, _,
      hshaped.displayRows?_eq, by simp, ?_, hshaped.flatten_rows⟩
    intro row hrow
    obtain ⟨index, -, rfl⟩ := List.mem_map.1 hrow
    simp
  · rw [raw_after_edit, if_neg fun hand => ha hand.2]
  · rw [raw_after_edit, if_pos ⟨hchanges, rfl⟩]

/-- A cycle changes what all its cells show, and the raw text of the edited one only. -/
theorem shape_readerFirst :
    ∃ rows, readerFirst.grid.displayRows? = some rows ∧ rows.length = 5 ∧
      ((readerFirst.after (.edit "b1" "=a1" true)).grid.get? "A1").map Cell.raw
        = some "=b1+1" := by
  have hreachable : readerFirst.Reachable := reachable_small _
  have hsheet : readerFirst.grid.rows = 5 ∧ Text.upper "b1" = "B1" ∧
      (readerFirst.grid.get? "A1").map Cell.raw = some "=b1+1" := by decide +kernel
  obtain ⟨hrows, hname, hraw⟩ := hsheet
  obtain ⟨hgrids, hedits⟩ := hreachable.shape
  obtain ⟨-, -, -, -, rows, hdisplay, hlength, -⟩ := hgrids _ List.mem_cons_self
  refine ⟨rows, hdisplay, hlength.trans hrows, ?_⟩
  rw [(hedits "b1" "=a1" true).1 "A1" (by rw [hname]; decide), hraw]

end Session

end Worksheet
