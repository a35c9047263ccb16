import Worksheet.History
import Worksheet.Recalculation

namespace Worksheet

/-!
# Sessions

* `Session` — the grid that is shown, and the history of the grids that were recorded;
* `Session.create` — a session on a blank grid;
* `Session.edit`, `undo?`, `redo?`, `resize` — what can be done in a session;
* `Action`, `Session.perform` — the same as data.

What would leave the session as it is gives `none`.
-/

/-- Something to do in a session. -/
inductive Action
  | edit (cell raw : String) (recorded : Bool)
  | undo
  | redo
  | resize (rows columns : Int)
  deriving DecidableEq, Repr

/-- A sheet at work.  The clock counts the edits and dates what they compute; it never goes back. -/
structure Session where
  grid : Grid
  history : History Grid
  clock : Nat

namespace Session

/-- Why something cannot be done. -/
inductive Error
  | outside (cell : Grid.Outside)
  | recalculation (error : Recalculation.Error)
  | size (error : Grid.SizeError)
  | history (error : History.Error)
  deriving DecidableEq, Repr

/-- The message that something cannot be done. -/
def Error.message : Error → String
  | .outside cell => cell.message
  | .recalculation error => error.message
  | .size error => error.message
  | .history error => error.message

/-- A session on a blank grid of the given size, with a history of the given limit. -/
def create (rows columns limit : Int) : Except Error Session := do
  let grid ← (Grid.create rows columns).mapError .size
  let history ← (History.start grid limit).mapError .history
  return { grid, history, clock := 0 }

/-- The grid after a cell gets another raw text at some moment, recalculated; `none` if it has that
text. -/
def editedGrid (g : Grid) (moment : Nat) (id : CellId) (raw : String) :
    Except Error (Option Grid) := do
  match g.get? id with
  | none => .error (.outside ⟨id, g.rows, g.columns⟩)
  | some c =>
    if c.raw = raw then return none
    else
      let edited := { g with cells := g.cells.set id (c.withRaw raw) }
      let result ← (edited.recalculate moment id).mapError .recalculation
      return some result.grid

/-- The session after an edit of the cell that `name` names in either case.  The new grid goes into
the history if it is to be `recorded`. -/
def edit (s : Session) (name raw : String) (recorded : Bool) : Except Error (Option Session) := do
  match ← editedGrid s.grid s.clock (Text.upper name) raw with
  | none => return none
  | some grid =>
    return some {
      grid
      history := if recorded then s.history.record grid else s.history
      clock := s.clock + 1 }

/-- The session with another history, of which it shows the current snapshot. -/
def showing (s : Session) (history : History Grid) : Session :=
  { s with grid := history.current, history }

/-- The session one snapshot back. -/
def undo? (s : Session) : Option Session := s.history.undo?.map s.showing

/-- The session one snapshot forth. -/
def redo? (s : Session) : Option Session := s.history.redo?.map s.showing

/-- A fresh session on a blank grid of another size, with a history of the same limit. -/
def resize (s : Session) (rows columns : Int) : Except Error (Option Session) := do
  if rows = s.grid.rows ∧ columns = s.grid.columns then return none
  else return some { ← create rows columns s.history.limit with clock := s.clock }

/-- The session after an action. -/
def perform (s : Session) : Action → Except Error (Option Session)
  | .edit cell raw recorded => s.edit cell raw recorded
  | .undo => .ok s.undo?
  | .redo => .ok s.redo?
  | .resize rows columns => s.resize rows columns

/-- The session back in an earlier state of it, with the clock going on. -/
def backTo (s earlier : Session) : Session := { earlier with clock := max s.clock earlier.clock }

/-- The cell that `name` names in either case. -/
def cell? (s : Session) (name : String) : Option Cell := s.grid.get? (Text.upper name)

/-- Whether two sessions show and remember the same, with the cursor on the same place. -/
def agrees (s t : Session) : Bool :=
  s.grid.agrees t.grid && s.history.agreesBy Grid.agrees t.history

/-- The size of the sheet and the place in its history. -/
def summary (s : Session) : String :=
  s!"<Spreadsheet {s.grid.rows}x{s.grid.columns} " ++
    s!"history={s.history.cursor + 1}/{s.history.snapshots.length}>"

end Session

end Worksheet
