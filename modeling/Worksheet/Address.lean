import Worksheet.Number.Shortest
import Worksheet.Text.Letter
import Worksheet.Text.Uppercase

namespace Worksheet

open Text (isLetter upper quoted digitValue? decimalValue)
open Number (messageWith digitLimit digitLimitMessage)

/-!
# Addresses

* `columnLetters`, `columnNumber` — column `0, 1, …, 25, 26, …` is labelled `A, B, …, Z, AA, …`;
* `cellId` — a cell is known by the label of its column and the number of its row;
* `columnLabel`, `columnIndex`, `makeCellId`, `splitCellId` — the same between arbitrary numbers and
  texts, with the reasons why there is no answer.

Labels are the bijective numerals of base 26: there is no digit zero, and every non-empty string of
letters labels one column.
-/

/-- The name of a cell, such as `B3`. -/
abbrev CellId := String

namespace Address

/-- Why a number or a text is not an address. -/
inductive Error
  | negativeColumn (index : Int)
  | noColumn (label : String)
  | rowBelowOne (row : Int)
  | noCell (text : String)
  | longRow
  deriving DecidableEq, Repr

/-- The message that something is not an address. -/
def Error.message : Error → String
  | .negativeColumn index => messageWith index ("Column index must be >= 0, got " ++ ·)
  | .noColumn label => "Invalid column label: " ++ quoted label
  | .rowBelowOne row => messageWith row ("Row must be >= 1, got " ++ ·)
  | .noCell text => "Invalid cell id: " ++ quoted text
  | .longRow => digitLimitMessage

/-! ### Columns -/

/-- The letter that stands for one of the digits `0` to `25`. -/
def letter (digit : Nat) : Char := Char.ofNat ('A'.toNat + digit)

/-- The numeral of a positive number in the bijective base 26, and nothing for zero. -/
def bijectiveDigits : Nat → List Char
  | 0 => []
  | n + 1 => bijectiveDigits (n / 26) ++ [letter (n % 26)]
termination_by n => n

/-- The label of a column, counted from zero. -/
def columnLetters (index : Nat) : List Char := bijectiveDigits (index + 1)

/-- The column that a string of letters labels, from the value of the letters, `A` being one. -/
def columnNumber (letters : List Char) : Int :=
  letters.foldl (fun n c => n * 26 + ((c.toNat : Int) - 'A'.toNat + 1)) 0 - 1

/-- The label of a column. -/
def columnLabel (index : Int) : Except Error String :=
  if index < 0 then .error (.negativeColumn index)
  else .ok (String.ofList (columnLetters index.toNat))

/-- The column of a label in either case.  A label is a non-empty string of letters. -/
def columnIndex (label : String) : Except Error Int :=
  if !label.toList.isEmpty && label.toList.all isLetter then
    .ok (columnNumber (upper label).toList)
  else .error (.noColumn label)

/-! ### Cells -/

/-- The cell in a row, counted from one, and a column, counted from zero. -/
def cellId (row column : Nat) : CellId :=
  String.ofList (columnLetters column ++ Nat.toDigits 10 row)

/-- The text without the line feed at its end, if it ends in one. -/
def withoutLineFeed (cs : List Char) : List Char :=
  if cs.getLast? = some '\n' then cs.dropLast else cs

/-- The letters and the digits of a cell's name: capital letters from `A` to `Z`, then a decimal
number that does not begin with a zero, then possibly a line feed. -/
def nameParts? (cs : List Char) : Option (List Char × List Char) :=
  let letters := cs.takeWhile Char.isUpper
  match withoutLineFeed (cs.dropWhile Char.isUpper) with
  | [] => none
  | d :: ds =>
    if !letters.isEmpty && '1' ≤ d && d ≤ '9' && ds.all (digitValue? · |>.isSome) then
      some (letters, d :: ds)
    else none

/-- Whether the text names a cell, on a sheet of any size. -/
def isCellId (text : String) : Bool := (nameParts? text.toList).isSome

/-- The row and the column of a cell's name in either case. -/
def splitCellId (id : String) : Except Error (Nat × Int) :=
  match nameParts? (upper id).toList with
  | none => .error (.noCell id)
  | some (letters, digits) =>
    if digits.length ≤ digitLimit then .ok (decimalValue digits, columnNumber letters)
    else .error .longRow

/-- The name of the cell in a row and a column. -/
def makeCellId (row column : Int) : Except Error CellId :=
  if row < 1 then .error (.rowBelowOne row)
  else if column < 0 then .error (.negativeColumn column)
  else if (Nat.toDigits 10 row.toNat).length ≤ digitLimit then
    .ok (cellId row.toNat column.toNat)
  else .error .longRow

end Address

end Worksheet
