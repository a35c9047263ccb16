import Worksheet.Formula.Token

namespace Worksheet.Formula

/-!
# Reverse Polish order

* `reversePolish` — the tokens of a formula with every operator after its operands and without
  parentheses.

Operators wait until their right operand is complete.  A waiting operator is released by an
operator that binds no tighter, by the closing parenthesis around it, and by the end of the
formula; so operators that bind equally tight group to the left.
-/

/-- How tightly an operator binds, or a failure if there is no such operator. -/
def precedence (operator : String) : Except Failure Nat :=
  match precedence? operator with
  | some p => .ok p
  | none => .error (.unknownOperator operator)

/-- The waiting tokens that the next operator releases, and the others. -/
def release (operator : String) : List Token → Except Failure (List Token × List Token)
  | [] => .ok ([], [])
  | t :: ts =>
    if t.kind = .operator then do
      let waiting ← precedence t.text
      let next ← precedence operator
      if next ≤ waiting then
        let (released, rest) ← release operator ts
        return (t :: released, rest)
      else return ([], t :: ts)
    else .ok ([], t :: ts)

/-- The waiting tokens at the end of the formula; none of them may be a parenthesis. -/
def releaseAll : List Token → Except Failure (List Token)
  | [] => .ok []
  | t :: ts =>
    if t.kind = .opening then .error (.fault (.unmatchedOpening t.position))
    else do return t :: (← releaseAll ts)

/-- The tokens in reverse Polish order, with the `waiting` ones, the latest first, in their
places. -/
def arrange : List Token → List Token → Except Failure (List Token)
  | [], waiting => releaseAll waiting
  | t :: ts, waiting =>
    match t.kind with
    | .number | .reference => do return t :: (← arrange ts waiting)
    | .opening => arrange ts (t :: waiting)
    | .closing =>
      match waiting.dropWhile (·.kind ≠ .opening) with
      | [] => .error (.fault (.unmatchedClosing t.position))
      | _ :: rest => do return waiting.takeWhile (·.kind ≠ .opening) ++ (← arrange ts rest)
    | .operator | .unknown => do
      let (released, rest) ← release t.text waiting
      return released ++ (← arrange ts (t :: rest))

/-- The tokens in reverse Polish order. -/
def reversePolish (tokens : List Token) : Except Failure (List Token) := arrange tokens []

end Worksheet.Formula
