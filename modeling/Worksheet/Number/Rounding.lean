namespace Worksheet.Number

/-!
# Rounding of quotients

* `roundHalfEven` — the whole number nearest to a quotient, a half going to the even neighbour;
* `roundSignificant` — the same with 53 significant bits instead of whole numbers.

The second is the rounding of double precision: a rounded number is known by its *rank*, its place
among the non-negative numbers that have 53 significant bits and no bit below the unit.
-/

/-- The whole number nearest to `num / den`; the even one of two at the same distance. -/
def roundHalfEven (num den : Nat) : Nat :=
  let quotient := num / den
  let twice := 2 * (num % den)
  if twice < den then quotient
  else if den < twice then quotient + 1
  else quotient + quotient % 2

/-- Twice the distance between a quotient and its rounding is at most one. -/
theorem roundHalfEven_near (num : Nat) {den : Nat} (h : 0 < den) :
    2 * (roundHalfEven num den * den) ≤ 2 * num + den ∧
      2 * num ≤ 2 * (roundHalfEven num den * den) + den := by
  have hdiv := Nat.div_add_mod num den
  have hlt := Nat.mod_lt num h
  have hcomm : den * (num / den) = num / den * den := Nat.mul_comm ..
  unfold roundHalfEven
  dsimp only
  split
  · omega
  split
  · rw [Nat.add_mul]; omega
  · rcases Nat.mod_two_eq_zero_or_one (num / den) with h2 | h2
    · rw [h2, Nat.add_zero]; omega
    · rw [h2, Nat.add_mul]; omega

/-! ### Ranks -/

/-- The number of ranks from a power of two to the next: `2 ^ 52`. -/
def binade : Nat := 0x10000000000000

/-- The number of the given rank, in units.  In the first two binades it is the rank itself; from
then on the step doubles with every binade. -/
def unitsOfRank (rank : Nat) : Nat :=
  if rank < binade then rank else (binade + rank % binade) <<< (rank / binade - 1)

/-- The rank of the number nearest to `num / den` units; of two at the same distance the one with
an even significand. -/
def roundSignificant (num den : Nat) : Nat :=
  let shift := (num / den).log2 - 52
  shift * binade + roundHalfEven num (den <<< shift)

end Worksheet.Number
