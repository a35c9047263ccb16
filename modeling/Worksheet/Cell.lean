import Worksheet.Formula.Token

namespace Worksheet

/-!
# Cells

* `Cell` — the raw text of a cell, the value computed from it and the error code, if any;
* `Cell.withRaw`, `withValue`, `withError` — a cell after a change of one of the three;
* `Cell.display` — what the cell shows;
* `Cell.agrees`, `Cell.settledBy` — equality of cells by number, and whether a computed cell brings
  nothing new.
-/

/-- One place of a sheet.  A cell in error holds the text of its code as its value. -/
structure Cell where
  raw : String
  value : Value
  error : Option ErrorCode
  deriving DecidableEq, Repr, Inhabited

namespace Cell

/-- The cell in which nothing has been written. -/
def blank : Cell := ⟨"", .text "", none⟩

/-- What the cell shows: the error code, or else the value. -/
def display (c : Cell) : Value :=
  match c.error with
  | some code => .text code.text
  | none => c.value

/-- Whether the raw text is a formula. -/
def isFormula (c : Cell) : Bool := Formula.isFormula c.raw

/-- The cell with another raw text; its value waits for the next computation. -/
def withRaw (c : Cell) (raw : String) : Cell := { c with raw, error := none }

/-- The cell with a computed value. -/
def withValue (c : Cell) (value : Value) : Cell := { c with value, error := none }

/-- The cell in error. -/
def withError (c : Cell) (code : ErrorCode) : Cell :=
  { c with value := .text code.text, error := some code }

/-- The cell as it is written, where all not-a-numbers are alike. -/
def withoutOrigin (c : Cell) : Cell := { c with value := c.value.withoutOrigin }

/-- Equality by number: the same raw text and error code, and values that agree or are the same.  A
not-a-number is the same only as itself, by its origin. -/
def agrees (c d : Cell) : Bool :=
  c.raw == d.raw && (c.value == d.value || c.value.agrees d.value) && c.error == d.error

/-- Whether the computed cell `new` brings nothing new to the cell `old`: they agree, and their
values are of one form. -/
def settledBy (old new : Cell) : Bool := new.agrees old && new.value.sameForm old.value

end Cell

end Worksheet
