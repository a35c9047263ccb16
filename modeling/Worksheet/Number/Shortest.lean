import Worksheet.Number.Literal

namespace Worksheet.Number

/-!
# Numbers as text

* `Decimal` — a whole number of digits times a power of ten;
* `Binary64.shortest` — the decimal with the fewest digits that reads back as the same double, and
  of several the nearest;
* `Binary64.text`, `text?` — numbers in writing.

A double is written positionally from `0.0001` up to sixteen digits before the point, and otherwise
with an exponent of at least two digits.
-/

/-- The number `digits * 10 ^ exponent`. -/
structure Decimal where
  digits : Nat
  exponent : Int
  deriving DecidableEq, Repr

namespace Decimal

/-- Whether the decimal, read as a double, has the given rank. -/
def readsBack (d : Decimal) (rank : Fin rankBound) : Bool :=
  Binary64.ofDecimal false d.digits d.exponent == .finite false rank

end Decimal

namespace Binary64

/-! ### Choice of digits -/

/-- Decimals are compared after multiplication by this power of ten: the least double then has
eighteen digits before the point. -/
def decimalShift : Nat := 341

/-- The number of the given rank times `10 ^ decimalShift`, as a multiple of `1 / one`. -/
def shifted (rank : Nat) : Nat := unitsOfRank rank * Nat.pow 10 decimalShift

/-- The decimal of `count` digits that reads back with the given rank: the neighbour below or the
one above.  If both do, the nearer is taken, and the even one at the same distance. -/
def decimalOf? (rank : Fin rankBound) (count : Nat) : Option Decimal :=
  let width := (Nat.toDigits 10 (shifted rank / one)).length
  let exponent : Int := width - count - decimalShift
  let grid := one * Nat.pow 10 (width - count)
  let low := shifted rank / grid
  let below : Decimal := ⟨low, exponent⟩
  let above : Decimal := ⟨low + 1, exponent⟩
  let middle := (2 * low + 1) * grid
  match below.readsBack rank, above.readsBack rank with
  | false, false => none
  | true, false => some below
  | false, true => some above
  | true, true =>
    if 2 * shifted rank < middle then some below
    else if middle < 2 * shifted rank then some above
    else some (if low % 2 = 0 then below else above)

/-- The decimal with the fewest digits that reads back with the given rank.  Without one of up to
seventeen digits it is the exact value. -/
def shortest (rank : Fin rankBound) : Decimal :=
  ((List.range 17).findSome? fun n => decimalOf? rank (n + 1)).getD
    ⟨unitsOfRank rank * Nat.pow 5 1074, -1074⟩

/-! ### Layout -/

/-- `n` with at least two digits. -/
def exponentText (n : Nat) : List Char :=
  if n < 10 then '0' :: Nat.toDigits 10 n else Nat.toDigits 10 n

/-- A positive decimal in writing. -/
def layout (d : Decimal) : List Char :=
  let all := Nat.toDigits 10 d.digits
  let digits := (all.reverse.dropWhile (· == '0')).reverse
  let leading : Int := d.exponent + all.length - 1
  if -4 ≤ leading ∧ leading < 0 then
    '0' :: '.' :: List.replicate (-leading - 1).toNat '0' ++ digits
  else if 0 ≤ leading ∧ leading < 16 then
    let count := leading.toNat + 1
    let fraction := digits.drop count
    digits.take count ++ List.replicate (count - digits.length) '0' ++
      '.' :: (if fraction.isEmpty then ['0'] else fraction)
  else
    let fraction := digits.drop 1
    digits.take 1 ++ (if fraction.isEmpty then [] else '.' :: fraction) ++
      'e' :: (if leading < 0 then '-' else '+') :: exponentText leading.natAbs

/-- The double in writing. -/
def text : Binary64 → String
  | .nan _ => "nan"
  | .infinite s => if s then "-inf" else "inf"
  | .finite s r =>
    let magnitude := if r.val = 0 then ['0', '.', '0'] else layout (shortest r)
    String.ofList (if s then '-' :: magnitude else magnitude)

end Binary64

/-! ### Whole numbers -/

/-- A whole number in writing, `none` if it has more than `digitLimit` digits. -/
def intText? (n : Int) : Option String :=
  let digits := Nat.toDigits 10 n.natAbs
  if digits.length ≤ digitLimit then
    some (String.ofList (if n < 0 then '-' :: digits else digits))
  else none

/-- What is said when a whole number with too many digits would have to be read or written. -/
def digitLimitMessage : String := "int digit limit"

/-- A message with a whole number in it. -/
def messageWith (n : Int) (message : String → String) : String :=
  match intText? n with
  | some text => message text
  | none => digitLimitMessage

/-- The number in writing, `none` if it is a whole number of too many digits. -/
def text? : Number → Option String
  | .int n => intText? n
  | .float x => some x.text

end Worksheet.Number
