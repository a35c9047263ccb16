import Worksheet.Address
import Worksheet.Value

namespace Worksheet.Formula

open Worksheet.Text (quoted)

/-!
# Faults of formulas

* `Fault` — what is wrong with a formula, with a code for the cell and a message;
* `Category`, `Report` — the kinds of fault, and a fault as it is reported;
* `Failure` — why there is no value: a fault, or a condition that no error code stands for.
-/

/-- What is wrong with a formula. -/
inductive Fault
  /-- A character that no formula contains, or letters that are no reference. -/
  | unknownCharacter (text : String) (position : Int)
  /-- A decimal point without digits. -/
  | barePoint (position : Int)
  /-- A closing parenthesis without its opening one. -/
  | unmatchedClosing (position : Int)
  /-- An opening parenthesis without its closing one. -/
  | unmatchedOpening (position : Int)
  /-- A number token that does not write a number. -/
  | badLiteral (text : String)
  /-- An operator with fewer than two values before it. -/
  | missingOperand (operator : String) (position : Int)
  /-- Not exactly one value at the end. -/
  | leftover (count : Nat)
  /-- A zero divisor. -/
  | divisionByZero
  /-- A reference to something that is not a number. -/
  | notNumeric (cell : CellId) (value : Value)
  /-- A reference to a cell in error. -/
  | carried (cell : CellId) (code : ErrorCode)
  /-- A result beyond the range of doubles. -/
  | outOfRange (operator : String) (cause : Number.Overflow)
  deriving DecidableEq, Repr

/-- The kinds of fault. -/
inductive Category
  | general
  | character
  | malformed
  | divisionByZero
  | notNumeric
  | carried
  | outOfRange
  deriving DecidableEq, Repr

/-- The code of a fault of this kind, unless the fault has one of its own. -/
def Category.code : Category → ErrorCode
  | .divisionByZero => .divisionByZero
  | .notNumeric => .value
  | _ => .general

/-! ### Messages -/

/-- Which value exceeds every double, in words. -/
def overflowText : Number.Overflow → String
  | .operand => "int too large to convert to float"
  | .quotient => "integer division result too large for a float"

/-- A value as a message shows it: a text in quotes, anything else plain. -/
def shown : Value → String
  | .text s => quoted s
  | v => v.text?.getD Number.digitLimitMessage

namespace Fault

/-- The kind of a fault. -/
def category : Fault → Category
  | .unknownCharacter .. => .character
  | .barePoint _ | .unmatchedClosing _ | .unmatchedOpening _ | .badLiteral _ | .missingOperand ..
  | .leftover _ => .malformed
  | .divisionByZero => .divisionByZero
  | .notNumeric .. => .notNumeric
  | .carried .. => .carried
  | .outOfRange .. => .outOfRange

/-- The code of the cell with the formula; the code of a referenced cell is carried over. -/
def code : Fault → ErrorCode
  | .carried _ code => code
  | f => f.category.code

/-- The message about a fault. -/
def message : Fault → String
  | .unknownCharacter text position => s!"Invalid character {quoted text} at position {position}"
  | .barePoint position => s!"Bare decimal point at position {position}"
  | .unmatchedClosing position => s!"Unbalanced ')' at position {position}"
  | .unmatchedOpening position => s!"Unbalanced '(' at position {position}"
  | .badLiteral text => s!"Invalid number {quoted text}"
  | .missingOperand operator position =>
    s!"Operator {quoted operator} at position {position} is missing an operand"
  | .leftover count => s!"Expression left {count} values on the stack"
  | .divisionByZero => "Division by zero"
  | .notNumeric cell value => s!"{cell} holds non-numeric value {shown value}"
  | .carried cell code => s!"{cell} holds {code.text}"
  | .outOfRange operator cause =>
    s!"Result of {quoted operator} is out of range: {overflowText cause}"

end Fault

/-! ### Reports -/

/-- A fault as it is reported. -/
structure Report where
  category : Category
  message : String
  code : ErrorCode
  cell : Option CellId
  deriving DecidableEq, Repr

namespace Report

/-- The report of a fault. -/
def ofFault (f : Fault) : Report where
  category := f.category
  message := f.message
  code := f.code
  cell := match f with
    | .carried cell _ => some cell
    | _ => none

/-- A report in words of one's own.  Without words the code speaks for itself, and without a code
the kind decides. -/
def make (category : Category) (message : String) (code : Option ErrorCode) : Report where
  category := category
  message := if message.isEmpty then (code.getD category.code).text else message
  code := code.getD category.code
  cell := none

/-- The report that a cell is in error. -/
def makeCarried (cell : CellId) (code : Option ErrorCode) : Report where
  category := .carried
  message := cell ++ " holds " ++ (code.map (·.text)).getD "None"
  code := code.getD Category.carried.code
  cell := some cell

end Report

/-! ### Failures -/

/-- Why there is no value. -/
inductive Failure
  | fault (fault : Fault)
  | unreadable (text : Number.Unreadable)
  | unknownOperator (text : String)
  deriving DecidableEq, Repr

/-- The message that there is no value. -/
def Failure.message : Failure → String
  | .fault f => f.message
  | .unreadable text => text.message
  | .unknownOperator text => text

end Worksheet.Formula
