import Worksheet.Number.Binary64

namespace Worksheet

open Number (Binary64)

/-!
# Numbers

* `Number` — a whole number of any size, or a double;
* `Number.agrees` — numerical equality, exact across the two forms;
* `Number.combine` — the four operations of arithmetic, with the cases in which there is no result.

Whole numbers stay whole under `+`, `-` and `*`.  A quotient is a double, and so is the result of an
operation with one double in it.
-/

/-- A number. -/
inductive Number
  | int (value : Int)
  | float (value : Binary64)
  deriving DecidableEq, Repr, Inhabited

namespace Number

/-- Numerical equality. -/
def agrees : Number → Number → Bool
  | .int m, .int n => m == n
  | .int n, .float x | .float x, .int n => x.agreesInt n
  | .float x, .float y => x.agrees y

/-- Whether the number is a zero of any form. -/
def isZero : Number → Bool
  | .int n => n == 0
  | .float x => x.isZero

/-- The number with the given origin, if it is a not-a-number that has none. -/
def withOrigin (o : Origin) : Number → Number
  | .float x => .float (x.withOrigin o)
  | n => n

/-- The number without its origin, if it is a not-a-number. -/
def withoutOrigin : Number → Number
  | .float x => .float x.withoutOrigin
  | n => n

@[simp] theorem withoutOrigin_withOrigin (o : Origin) (n : Number) :
    (n.withOrigin o).withoutOrigin = n.withoutOrigin := by
  cases n with
  | int => rfl
  | float x => simp [withOrigin, withoutOrigin]

/-! ### Arithmetic -/

/-- An operation of arithmetic. -/
inductive Operation
  | add
  | sub
  | mul
  | div
  deriving DecidableEq, Repr

/-- Which value exceeds every double. -/
inductive Overflow
  /-- A whole number beside a double. -/
  | operand
  /-- The quotient of two whole numbers. -/
  | quotient
  deriving DecidableEq, Repr

/-- Why an operation has no result. -/
inductive Obstacle
  | zeroDivisor
  | overflow (cause : Overflow)
  deriving DecidableEq, Repr

/-- The double that takes the place of the number in an operation on doubles. -/
def toBinary64 : Number → Except Obstacle Binary64
  | .float x => .ok x
  | .int n => match Binary64.ofInt n with
    | .finite s r => .ok (.finite s r)
    | _ => .error (.overflow .operand)

/-- The operation on doubles. -/
def Operation.onBinary64 : Operation → Binary64 → Binary64 → Binary64
  | .add => Binary64.add
  | .sub => Binary64.sub
  | .mul => Binary64.mul
  | .div => Binary64.div

/-- The quotient of two whole numbers, rounded once; it is negative if one of the two is. -/
def intQuotient (m n : Int) : Except Obstacle Number :=
  match Binary64.ofQuotient (decide (m < 0) ^^ decide (n < 0)) m.natAbs n.natAbs with
  | .finite s r => .ok (.float (.finite s r))
  | _ => .error (.overflow .quotient)

/-- The operation on whole numbers. -/
def Operation.onInts : Operation → Int → Int → Except Obstacle Number
  | .add, m, n => .ok (.int (m + n))
  | .sub, m, n => .ok (.int (m - n))
  | .mul, m, n => .ok (.int (m * n))
  | .div, m, n => intQuotient m n

/-- The result of an operation, or what stands in its way.  Beside a double, a whole number is
converted first, and the left one before the right. -/
def combine (op : Operation) (a b : Number) : Except Obstacle Number :=
  if op = .div ∧ b.isZero then .error .zeroDivisor
  else match a, b with
    | .int m, .int n => op.onInts m n
    | a, b => do
      let x ← a.toBinary64
      let y ← b.toBinary64
      return .float (op.onBinary64 x y)

end Number

end Worksheet
