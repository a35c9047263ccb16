import Worksheet.Formula.Fault
import Worksheet.Text.Blank

namespace Worksheet.Formula

open Worksheet.Text (isBlank upperOf)

/-!
# Tokens of a formula

* `body?` — a text that begins with `=` is a formula, and its body is the rest;
* `Token` — a piece of a body with its place in the body;
* `scan` — the tokens of a body in upper case, with every unknown character as a token of its own;
* `tokenize` — the tokens of a body, or the first fault among them;
* `references` — the cells that a text refers to.

A token is as long as it can be: a number takes all the digits up to its point and after it, a
reference all letters and then all digits, and letters without digits are one unknown token.
-/

/-- The text after the `=` of a formula. -/
def body? (text : String) : Option (List Char) :=
  match text.toList with
  | '=' :: cs => some cs
  | _ => none

/-- Whether the text is a formula. -/
def isFormula (text : String) : Bool := (body? text).isSome

/-- The kinds of token. -/
inductive Kind
  | number
  | reference
  | operator
  | opening
  | closing
  | unknown
  deriving DecidableEq, Repr

/-- A piece of a body; positions count characters from the start of the body. -/
structure Token where
  kind : Kind
  text : String
  position : Int
  deriving DecidableEq, Repr

/-- How tightly an operator binds. -/
def precedence? (operator : String) : Option Nat :=
  if operator = "+" ∨ operator = "-" then some 1
  else if operator = "*" ∨ operator = "/" then some 2
  else none

/-! ### Scanning -/

/-- The rest of a number that begins with a digit: more digits, and digits after a point. -/
def numberTail (cs : List Char) : List Char :=
  cs.takeWhile Char.isDigit ++
    match cs.dropWhile Char.isDigit with
    | '.' :: ds => '.' :: ds.takeWhile Char.isDigit
    | _ => []

/-- The kind and the rest of a token that begins with a letter: more letters, and digits if it is a
reference. -/
def letterTail (cs : List Char) : Kind × List Char :=
  let letters := cs.takeWhile Char.isUpper
  let digits := (cs.dropWhile Char.isUpper).takeWhile Char.isDigit
  if digits = [] then (.unknown, letters) else (.reference, letters ++ digits)

/-- The kind of the token that begins with `c`, and its characters after `c`. -/
def leading (c : Char) (cs : List Char) : Kind × List Char :=
  if c = '+' ∨ c = '-' ∨ c = '*' ∨ c = '/' then (.operator, [])
  else if c = '(' then (.opening, [])
  else if c = ')' then (.closing, [])
  else if c.isDigit then (.number, numberTail cs)
  else if c = '.' then (.number, cs.takeWhile Char.isDigit)
  else if c.isUpper then letterTail cs
  else (.unknown, [])

/-- The tokens of a body in upper case that begins at `position`. -/
def scan (position : Nat) : List Char → List Token
  | [] => []
  | c :: cs =>
    if isBlank c then scan (position + 1) cs
    else
      let (kind, more) := leading c cs
      ⟨kind, String.ofList (c :: more), position⟩ ::
        scan (position + 1 + more.length) (cs.drop more.length)
termination_by cs => cs.length
decreasing_by all_goals (simp only [List.length_cons, List.length_drop]; omega)

/-- The token itself unless there is a fault in it. -/
def Token.check (t : Token) : Except Fault Token :=
  if t.kind = .unknown then .error (.unknownCharacter t.text t.position)
  else if t.kind = .number ∧ t.text = "." then .error (.barePoint t.position)
  else .ok t

/-- The tokens of a body in either case, or the first fault among them. -/
def tokenize (body : List Char) : Except Fault (List Token) :=
  (scan 0 (body.flatMap upperOf)).mapM Token.check

/-! ### References -/

/-- The cells that a text refers to, in the order of the text and as often as it names them.  A
text that is not a formula refers to none. -/
def references (text : String) : List CellId :=
  match body? text with
  | none => []
  | some body =>
    ((scan 0 (body.flatMap upperOf)).filter (·.kind = .reference)).map (·.text)

end Worksheet.Formula
