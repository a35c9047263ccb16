import Worksheet.Number.Rounding

namespace Worksheet.Number

/-!
# Double precision

* `Binary64` — the numbers of IEEE 754's format of 64 bits;
* `Origin`, `Binary64.withOrigin` — what tells one not-a-number from another;
* `Binary64.add`, `sub`, `mul`, `div` — the exact result, rounded once;
* `Binary64.ofQuotient`, `ofInt`, `ofDecimal` — the double nearest to a quotient, a whole number
  or a decimal;
* `Binary64.agrees` — numerical equality;
* `Binary64.toBits`, `ofBits` — the interchange format.

A finite number is a sign and a rank: the unit is the least positive double, `2 ^ -1074`, and the
doubles of one sign in order of magnitude have the ranks `0, 1, 2, …`.

The payload of a not-a-number is its origin.  An operation gives a not-a-number without origin,
whatever its operands are; it gets one where it is stored, and keeps it when it is copied.
-/

/-- There are this many finite doubles of each sign. -/
def rankBound : Nat := 2047 * binade

/-- When and where a not-a-number was first stored. -/
structure Origin where
  moment : Nat
  place : String
  deriving DecidableEq, Repr, Inhabited

/-- A double-precision number. -/
inductive Binary64
  | nan (origin : Option Origin)
  | infinite (negative : Bool)
  | finite (negative : Bool) (rank : Fin rankBound)
  deriving DecidableEq, Repr, Inhabited

namespace Binary64

/-! ### From exact values -/

/-- The number of units in one. -/
def one : Nat := 1 <<< 1074

/-- The number of this sign and rank, infinite beyond the last rank. -/
def ofRank (negative : Bool) (rank : Nat) : Binary64 :=
  if h : rank < rankBound then .finite negative ⟨rank, h⟩ else .infinite negative

/-- The double nearest to `num / den` in magnitude. -/
def ofQuotient (negative : Bool) (num den : Nat) : Binary64 :=
  ofRank negative (roundSignificant (num * one) den)

/-- The double nearest to `n`. -/
def ofInt (n : Int) : Binary64 := ofQuotient (n < 0) n.natAbs 1

/-- The double nearest to `digits * 10 ^ exponent` in magnitude.  A number of more than 310 digits
before the point exceeds the format, one with over 330 zeros after it rounds to zero, and neither
needs its power of ten. -/
def ofDecimal (negative : Bool) (digits : Nat) (exponent : Int) : Binary64 :=
  let scale := exponent + (Nat.toDigits 10 digits).length
  if digits = 0 ∨ scale < -330 then ofRank negative 0
  else if 310 < scale then .infinite negative
  else ofQuotient negative (digits * Nat.pow 10 exponent.toNat) (Nat.pow 10 (-exponent).toNat)

/-- Zero of either sign. -/
def zero (negative : Bool) : Binary64 := .finite negative ⟨0, by decide⟩

/-! ### Exact values -/

/-- The finite number of this sign and rank as a whole number of units. -/
def units (negative : Bool) (rank : Nat) : Int :=
  if negative then -(unitsOfRank rank : Int) else unitsOfRank rank

/-- Whether `x` is a zero of either sign. -/
def isZero : Binary64 → Bool
  | .finite _ r => r.val == 0
  | _ => false

/-- The number with the given origin, if it is a not-a-number that has none. -/
def withOrigin (o : Origin) : Binary64 → Binary64
  | .nan none => .nan (some o)
  | x => x

/-- The number without its origin, if it is a not-a-number. -/
def withoutOrigin : Binary64 → Binary64
  | .nan _ => .nan none
  | x => x

@[simp] theorem withoutOrigin_withOrigin (o : Origin) (x : Binary64) :
    (x.withOrigin o).withoutOrigin = x.withoutOrigin := by
  rcases x with (_ | _) | _ | _ <;> rfl

/-- Numerical equality: the two zeros agree, and not-a-number agrees with nothing, not even with
itself. -/
def agrees : Binary64 → Binary64 → Bool
  | .infinite s, .infinite t => s == t
  | .finite s a, .finite t b => units s a == units t b
  | _, _ => false

/-- Equality with a whole number, without rounding it. -/
def agreesInt : Binary64 → Int → Bool
  | .finite s a, n => units s a == n * (one : Int)
  | _, _ => false

/-! ### Arithmetic -/

/-- The number with the other sign. -/
def neg : Binary64 → Binary64
  | .nan o => .nan o
  | .infinite s => .infinite (!s)
  | .finite s a => .finite (!s) a

/-- The sum.  A sum of zero is negative only if both operands are. -/
def add : Binary64 → Binary64 → Binary64
  | .nan _, _ | _, .nan _ => .nan none
  | .infinite s, .infinite t => if s = t then .infinite s else .nan none
  | .infinite s, .finite .. | .finite .., .infinite s => .infinite s
  | .finite s a, .finite t b =>
    let total := units s a + units t b
    ofRank (if total = 0 then s && t else total < 0) (roundSignificant total.natAbs 1)

/-- The difference. -/
def sub (x y : Binary64) : Binary64 := add x (neg y)

/-- The product. -/
def mul : Binary64 → Binary64 → Binary64
  | .nan _, _ | _, .nan _ => .nan none
  | .infinite s, .infinite t => .infinite (s ^^ t)
  | .infinite s, .finite t a | .finite t a, .infinite s =>
    if a.val = 0 then .nan none else .infinite (s ^^ t)
  | .finite s a, .finite t b =>
    ofRank (s ^^ t) (roundSignificant (unitsOfRank a * unitsOfRank b) one)

/-- The quotient. -/
def div : Binary64 → Binary64 → Binary64
  | .nan _, _ | _, .nan _ => .nan none
  | .infinite _, .infinite _ => .nan none
  | .infinite s, .finite t _ => .infinite (s ^^ t)
  | .finite s _, .infinite t => zero (s ^^ t)
  | .finite s a, .finite t b =>
    if b.val = 0 then if a.val = 0 then .nan none else .infinite (s ^^ t)
    else ofQuotient (s ^^ t) (unitsOfRank a) (unitsOfRank b)

/-! ### The interchange format -/

/-- The topmost of 64 bits, set if the number is negative. -/
def signBit (negative : Bool) : Nat := if negative then 2048 * binade else 0

/-- The sign bit and the 63 bits below it, which are the rank of a finite number.  Every not-a-number
has the same bits. -/
def toBits : Binary64 → Nat
  | .nan _ => rankBound + binade / 2
  | .infinite s => signBit s + rankBound
  | .finite s r => signBit s + r

/-- The number that 64 bits stand for. -/
def ofBits (bits : Nat) : Binary64 :=
  let negative := signBit true ≤ bits
  let rank := bits % signBit true
  if rank ≤ rankBound then ofRank negative rank else .nan none

end Binary64

end Worksheet.Number
