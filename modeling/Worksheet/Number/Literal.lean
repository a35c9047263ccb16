import Worksheet.Number.Basic
import Worksheet.Text.Blank
import Worksheet.Text.Digit
import Worksheet.Text.Quoted

namespace Worksheet.Number

open Worksheet.Text

/-!
# Written numbers

* `Literal` — the parts of a written number: sign, digits, fraction, exponent;
* `Literal.ofChars?` — the parts of a text in the form `±12.5e±3`;
* `Literal.value` — the number that they write;
* `read?` — the number in a text with blanks around it, and `Unreadable` for a text that is
  written like a number but stands between information separators.

A number without fraction and exponent is whole as long as it has no more than `digitLimit` digits.
-/

/-- A whole number with more digits than this is neither read nor written as such. -/
def digitLimit : Nat := 4300

/-- The parts of a written number. -/
structure Literal where
  negative : Bool
  whole : List Char
  fraction : Option (List Char)
  exponent : Option (Bool × List Char)
  deriving DecidableEq, Repr

/-- Whether the text begins with a minus sign, and what follows the sign of either kind. -/
def splitSign : List Char → Bool × List Char
  | '-' :: cs => (true, cs)
  | '+' :: cs => (false, cs)
  | cs => (false, cs)

/-- The digits after a point, if there is a point, and what follows them. -/
def splitFraction : List Char → Option (List Char) × List Char
  | '.' :: cs => (some (cs.takeWhile Char.isDigit), cs.dropWhile Char.isDigit)
  | cs => (none, cs)

namespace Literal

/-- The parts of a number written without blanks.  There is a digit before the point or after it,
and an exponent has a digit. -/
def ofChars? (cs : List Char) : Option Literal :=
  let (negative, cs) := splitSign cs
  let whole := cs.takeWhile Char.isDigit
  let (fraction, cs) := splitFraction (cs.dropWhile Char.isDigit)
  if whole.isEmpty && (fraction.getD []).isEmpty then none
  else match cs with
    | [] => some { negative, whole, fraction, exponent := none }
    | e :: cs =>
      let (low, digits) := splitSign cs
      if (e == 'e' || e == 'E') && !digits.isEmpty && digits.all Char.isDigit then
        some { negative, whole, fraction, exponent := some (low, digits) }
      else none

/-- Whether the literal writes a whole number. -/
def isWhole (l : Literal) : Bool :=
  l.fraction.isNone && l.exponent.isNone && l.whole.length ≤ digitLimit

/-- The power of ten of the exponent part. -/
def power (l : Literal) : Int :=
  match l.exponent with
  | none => 0
  | some (low, digits) => if low then -(decimalValue digits : Int) else decimalValue digits

/-- The number that the literal writes. -/
def value (l : Literal) : Number :=
  if l.isWhole then
    let n := decimalValue l.whole
    .int (if l.negative then -(n : Int) else n)
  else
    let fraction := l.fraction.getD []
    .float (Binary64.ofDecimal l.negative (decimalValue (l.whole ++ fraction))
      (l.power - fraction.length))

end Literal

/-! ### Reading a text -/

/-- A text that is written like a number but has an information separator beside it. -/
structure Unreadable where
  text : String
  deriving DecidableEq, Repr

/-- The message that a text is unreadable. -/
def Unreadable.message (u : Unreadable) : String :=
  "could not convert string to float: " ++ quoted u.text

/-- The number in a text, `none` if the text is not a number with blanks around it. -/
def read? (text : String) : Except Unreadable (Option Number) :=
  match Literal.ofChars? (trimBlanks text.toList) with
  | none => .ok none
  | some l => if text.toList.any isSeparator then .error ⟨text⟩ else .ok (some l.value)

end Worksheet.Number
