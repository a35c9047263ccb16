namespace Worksheet.Text

/-!
# Sets of characters given by ranges of code points

* `CodePoints` — a list of closed intervals `(first, last)`;
* `CodePoints.has` — membership of a character.

The character classes of this folder are tables of this form, with their intervals in increasing
order.
-/

/-- A set of characters, as closed intervals of code points. -/
abbrev CodePoints := List (Nat × Nat)

/-- Whether the code point of `c` lies in one of the intervals. -/
def CodePoints.has (s : CodePoints) (c : Char) : Bool :=
  s.any fun (first, last) => first ≤ c.toNat && c.toNat ≤ last

theorem CodePoints.has_iff {s : CodePoints} {c : Char} :
    s.has c = true ↔ ∃ r ∈ s, r.1 ≤ c.toNat ∧ c.toNat ≤ r.2 := by
  simp [CodePoints.has]

end Worksheet.Text
