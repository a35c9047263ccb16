import Worksheet.Dependency.Cycles
import Worksheet.Dependency.Readers
import Worksheet.Formula.Evaluation
import Worksheet.Grid

namespace Worksheet

open Formula (Failure)

/-!
# Recalculation

* `Grid.graph` — which cells of a grid read which;
* `Recalculation.compute` — a cell with the value of its raw text;
* `Grid.recalculate` — the grid after a change of one cell, with the cells recomputed in order, the
  cyclic cells, and a `Delta` for every cell that now shows something else.

Only the changed cell and its direct and indirect readers are recomputed, each after the cells that
it reads.  A cell that reaches a cycle is in error instead.
-/

/-- A change in what one cell shows. -/
structure Delta where
  cell : CellId
  old : Value
  new : Value
  raw : String
  deriving DecidableEq, Repr

/-- What follows from a change of one cell. -/
structure Recalculation where
  grid : Grid
  changed : CellId
  order : List CellId
  cyclic : Std.TreeSet String
  deltas : List Delta

namespace Recalculation

/-- Whether the changed cell reaches a cycle. -/
def circular (r : Recalculation) : Bool := r.cyclic.contains r.changed

/-- The number of cells that show something else. -/
def propagated (r : Recalculation) : Nat := r.deltas.length

/-- Why there is no result. -/
inductive Error
  | notOnGrid (cell : CellId)
  | failed (failure : Failure)
  deriving DecidableEq, Repr

/-- The message that there is no result. -/
def Error.message : Error → String
  | .notOnGrid cell => s!"Cell '{cell}' is not in the grid"
  | .failed failure => failure.message

/-! ### One cell -/

/-- The value that a reference finds: the error of a cell in error, and zero where nothing is. -/
def valueAt (cells : Table Cell) (id : CellId) : Value :=
  match cells.get? id with
  | none => .int 0
  | some c => match c.error with
    | some code => .error code
    | none => if c.value.agrees (.text "") then .int 0 else c.value

/-- The cell with the value of its raw text, or with the error of its formula.  A not-a-number that
arises here is of the given origin; one that is only copied from another cell has its own. -/
def compute (cells : Table Cell) (origin : Number.Origin) (c : Cell) : Except Failure Cell :=
  match (Formula.evaluate (valueAt cells) c.raw).outcome with
  | .ok value => .ok (c.withValue (value.withOrigin origin))
  | .error (.fault f) => .ok (c.withError f.code)
  | .error failure => .error failure

/-- The cells with one of them in error for reaching a cycle. -/
def markCircular (cells : Table Cell) (id : CellId) : Table Cell :=
  match cells.get? id with
  | none => cells
  | some c => cells.set id (c.withError .circular)

/-- The cells with one of them computed from the others at some moment. -/
def update (cyclic : Std.TreeSet String) (moment : Nat) (cells : Table Cell) (id : CellId) :
    Except Failure (Table Cell) :=
  match cells.get? id with
  | none => .ok cells
  | some c =>
    if cyclic.contains id then .ok (markCircular cells id)
    else do return cells.set id (← compute cells ⟨moment, id⟩ c)

/-! ### What is new -/

/-- The recomputed cell `id`, before and after, if that brings something new. -/
def revision? (before after : Table Cell) (id : CellId) : Option (CellId × Cell × Cell) := do
  let old ← before.get? id
  let new ← after.get? id
  if old.settledBy new then none else some (id, old, new)

/-- The change in what a revised cell shows, if there is one. -/
def delta? : CellId × Cell × Cell → Option Delta
  | (id, old, new) =>
    if new.display.agrees old.display then none
    else some { cell := id, old := old.display, new := new.display, raw := new.raw }

end Recalculation

open Recalculation

/-- Which cells of the grid read which. -/
def Grid.graph (g : Grid) : Dependency.Graph := Dependency.graphOf Cell.raw g.cells

/-- The cells of `affected` in an order in which each comes after those that it reads, and the
cells of the grid after their computation in this order. -/
def Grid.recomputeInOrder (g : Grid) (graph : Dependency.Graph) (cyclic : Std.TreeSet String)
    (moment : Nat) (affected : List CellId) : Except Failure (List CellId × Table Cell) := do
  let order := graph.evaluationOrder affected
  return (order, ← order.foldlM (update cyclic moment) g.cells)

/-- What follows if the cells of a grid have been recomputed in some order: what is new replaces
what was there. -/
def Grid.conclude (g : Grid) (changed : CellId) (cyclic : Std.TreeSet String)
    (order : List CellId) (cells : Table Cell) : Recalculation :=
  let revisions := order.filterMap (revision? g.cells cells)
  { grid := { g with cells := revisions.foldl (fun t (id, _, new) => t.set id new) g.cells }
    changed, order, cyclic
    deltas := revisions.filterMap delta? }

/-- What follows from a change of one cell: that cell and all that read it are recomputed.  If it
reaches a cycle then so do all of them, and they need no order.  The `moment` dates the
not-a-numbers that arise, and no two recalculations should have the same. -/
def Grid.recalculate (g : Grid) (moment : Nat) (changed : CellId) : Except Error Recalculation :=
  if g.cells.contains changed then
    let graph := g.graph
    let cyclic := graph.cyclic
    let affected := graph.inverse.affectedBy changed
    if cyclic.contains changed then
      .ok (g.conclude changed cyclic affected (affected.foldl markCircular g.cells))
    else match g.recomputeInOrder graph cyclic moment affected with
      | .ok (order, cells) => .ok (g.conclude changed cyclic order cells)
      | .error failure => .error (.failed failure)
  else .error (.notOnGrid changed)

end Worksheet
