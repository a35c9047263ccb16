import Worksheet.ErrorCode
import Worksheet.Number.Shortest

namespace Worksheet

/-!
# Values

* `Value` — what a cell holds or a reference yields;
* `Value.agrees` — equality of values, by number and not by form;
* `Value.withOrigin`, `withoutOrigin` — a value where the origin of a not-a-number is set or left
  out;
* `Value.sameForm` — whether two values are of one form, a whole number and a double being two;
* `Value.ofText` — the value that a plain text stands for, `Value.text?` — a value in writing.
-/

/-- What a cell holds, or what is found where a formula refers to. -/
inductive Value
  | number (n : Number)
  | text (s : String)
  | error (code : ErrorCode)
  | truth (b : Bool)
  | nothing
  deriving DecidableEq, Repr, Inhabited

namespace Value

/-- The whole number `n` as a value. -/
def int (n : Int) : Value := .number (.int n)

/-- A truth value counts as one or zero beside numbers. -/
def ofTruth (b : Bool) : Number := .int (if b then 1 else 0)

/-- Equality of values: numbers by their exact value, an error code and a text by the code that the
text spells.  Not-a-number agrees with no value. -/
def agrees : Value → Value → Bool
  | .number m, .number n => m.agrees n
  | .number m, .truth b => m.agrees (ofTruth b)
  | .truth b, .number n => (ofTruth b).agrees n
  | .truth a, .truth b => a == b
  | .text s, .text t => s == t
  | .error c, .error d => c == d
  | .error c, .text s | .text s, .error c => c.agreesText s
  | .nothing, .nothing => true
  | _, _ => false

/-- The value with the given origin, if it is a not-a-number that has none. -/
def withOrigin (o : Number.Origin) : Value → Value
  | .number n => .number (n.withOrigin o)
  | v => v

/-- The value without its origin, if it is a not-a-number. -/
def withoutOrigin : Value → Value
  | .number n => .number n.withoutOrigin
  | v => v

@[simp] theorem withoutOrigin_withOrigin (o : Number.Origin) (v : Value) :
    (v.withOrigin o).withoutOrigin = v.withoutOrigin := by
  cases v with
  | number n => simp [withOrigin, withoutOrigin]
  | _ => rfl

/-- Whether two values are of the same form. -/
def sameForm : Value → Value → Bool
  | .number (.int _), .number (.int _) => true
  | .number (.float _), .number (.float _) => true
  | .text _, .text _ => true
  | .error _, .error _ => true
  | .truth _, .truth _ => true
  | .nothing, .nothing => true
  | _, _ => false

/-- The value of a text that is not a formula: its number if it writes one, otherwise the text. -/
def ofText (s : String) : Except Number.Unreadable Value := do
  match ← Number.read? s with
  | some n => return .number n
  | none => return .text s

/-- A truth value in writing. -/
def truthText (b : Bool) : String := if b then "True" else "False"

/-- The value in writing, `none` if it is a whole number of too many digits. -/
def text? : Value → Option String
  | .number n => n.text?
  | .text s => some s
  | .error c => some c.text
  | .truth b => some (truthText b)
  | .nothing => some "None"

end Value

end Worksheet
