import Worksheet.Text.Uppercase

namespace Worksheet

/-!
# Error codes

* `ErrorCode` — the code of a cell in error, such as `#DIV/0!`;
* `ErrorCode.of` — the code that a text in either case spells;
* `ErrorCode.agreesText` — equality with a text, whatever the case of the text.
-/

/-- The code that a cell in error shows in place of a value. -/
structure ErrorCode where
  text : String
  deriving DecidableEq, Repr, Inhabited

namespace ErrorCode

/-- The code that `text` spells; codes are in upper case. -/
def of (text : String) : ErrorCode := ⟨Text.upper text⟩

/-- Whether `text` spells the code. -/
def agreesText (code : ErrorCode) (text : String) : Bool := code.text == Text.upper text

/-- The cell depends on itself. -/
def circular : ErrorCode := ⟨"#CIRCULAR"⟩

/-- The formula divides by zero. -/
def divisionByZero : ErrorCode := ⟨"#DIV/0!"⟩

/-- The formula needs a number and finds something else. -/
def value : ErrorCode := ⟨"#VALUE!"⟩

/-- The formula cannot be read, or its result cannot be written. -/
def general : ErrorCode := ⟨"#ERROR"⟩

end ErrorCode

end Worksheet
