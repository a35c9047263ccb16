import Worksheet.Cell
import Worksheet.Table

namespace Worksheet

/-!
# Grids

* `Grid` — the cells of a sheet of fixed size, row by row;
* `Grid.create` — the blank grid of a size, within the limits of `SizeError`;
* `Grid.replace` — a grid with other cells in some of its places;
* `Grid.displayRows?`, `Grid.summary` — what a grid shows;
* `Grid.changesFrom` — the cells in which a grid differs from an earlier one.
-/

/-- The cells of a sheet with `rows` rows and `columns` columns. -/
structure Grid where
  rows : Nat
  columns : Nat
  cells : Table Cell

namespace Grid

open Number (messageWith)

/-! ### Sizes -/

/-- The fewest rows that a sheet has. -/
def minRows : Nat := 5

/-- The most rows that a sheet has. -/
def maxRows : Nat := 100

/-- The rows of a sheet of no given size. -/
def defaultRows : Nat := 20

/-- The fewest columns that a sheet has. -/
def minColumns : Nat := 5

/-- The most columns that a sheet has; their labels end with `AZ`. -/
def maxColumns : Nat := 52

/-- The columns of a sheet of no given size. -/
def defaultColumns : Nat := 20

/-- A size outside the limits. -/
inductive SizeError
  | rows (n : Int)
  | columns (n : Int)
  deriving DecidableEq, Repr

/-- The message that a size is outside the limits. -/
def SizeError.message : SizeError → String
  | .rows n => messageWith n (s!"rows must be in [{minRows}, {maxRows}], got " ++ ·)
  | .columns n => messageWith n (s!"cols must be in [{minColumns}, {maxColumns}], got " ++ ·)

/-- The size within the limits that is nearest to the given one. -/
def clampSize (rows columns : Int) : Int × Int :=
  (max minRows (min maxRows rows), max minColumns (min maxColumns columns))

/-! ### Creation -/

/-- The cells of a sheet of the given size, row by row. -/
def cellIds (rows columns : Nat) : List CellId :=
  (List.range rows).flatMap fun row =>
    (List.range columns).map fun column => Address.cellId (row + 1) column

/-- The blank grid of a size that is within the limits. -/
def blank (rows columns : Nat) : Grid where
  rows := rows
  columns := columns
  cells := Table.ofList ((cellIds rows columns).map (·, Cell.blank))

/-- The blank grid of a size. -/
def create (rows columns : Int) : Except SizeError Grid :=
  if rows < minRows ∨ maxRows < rows then .error (.rows rows)
  else if columns < minColumns ∨ maxColumns < columns then .error (.columns columns)
  else .ok (blank rows.toNat columns.toNat)

/-! ### Cells of a grid -/

/-- The cell of that name. -/
def get? (g : Grid) (id : CellId) : Option Cell := g.cells.get? id

/-- A cell that the grid does not have. -/
structure Outside where
  cell : CellId
  rows : Nat
  columns : Nat
  deriving DecidableEq, Repr

/-- The message that a cell is not on the grid. -/
def Outside.message (o : Outside) : String :=
  s!"Cell '{o.cell}' is outside the {o.rows}x{o.columns} grid"

/-- The grid with other cells in the named places, which must all be on it. -/
def replace (g : Grid) (updates : List (CellId × Cell)) : Except Outside Grid :=
  match updates.find? fun (id, _) => !g.cells.contains id with
  | some (id, _) => .error ⟨id, g.rows, g.columns⟩
  | none => .ok { g with cells := updates.foldl (fun t (id, c) => t.set id c) g.cells }

/-! ### What a grid shows -/

/-- The labels of the columns. -/
def columnLabels (g : Grid) : List String :=
  (List.range g.columns).map fun column => String.ofList (Address.columnLetters column)

/-- What the cell in a row, counted from zero, and a column shows; there is an answer if there is a
name for such a cell, and a cell of that name. -/
def displayAt? (g : Grid) (row column : Nat) : Option Value := do
  let id ← (Address.makeCellId (row + 1) column).toOption
  (g.get? id).map Cell.display

/-- What the cells show, row by row; there is an answer if there is one for every cell. -/
def displayRows? (g : Grid) : Option (List (List Value)) :=
  (List.range g.rows).mapM fun row => (List.range g.columns).mapM (g.displayAt? row)

/-- The size of the grid and the number of cells in which something is written. -/
def summary (g : Grid) : String :=
  let filled := g.cells.toList.countP fun (_, c) => !c.raw.isEmpty
  s!"<Grid {g.rows}x{g.columns} filled={filled}>"

/-- The cells that are not blank. -/
def written (g : Grid) : List (CellId × Cell) := g.cells.toList.filter (·.2 ≠ Cell.blank)

/-! ### Comparison -/

/-- The cells of `g` that are written otherwise in the grid `before`; what was not there was
blank. -/
def changesFrom (g before : Grid) : List (CellId × Cell) :=
  g.cells.toList.filter fun (id, c) =>
    c.withoutOrigin ≠ ((before.get? id).getD Cell.blank).withoutOrigin

/-- Whether two grids are of one size and have the same names with cells that agree. -/
def agrees (g h : Grid) : Bool :=
  g.rows == h.rows && g.columns == h.columns && g.cells.size == h.cells.size &&
    g.cells.toList.all fun (id, c) => (h.get? id).any c.agrees

end Grid

end Worksheet
