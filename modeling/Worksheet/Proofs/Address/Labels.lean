import Worksheet.Address
import Worksheet.Proofs.Text.Characters

namespace Worksheet.Address

open Text (isDigit_iff isUpper_iff toNat_ofNat)

/-!
# Labels of columns and names of cells

* `isUpper_of_mem_columnLetters` — the label of a column is a string of the letters `A` to `Z`;
* `columnNumber_columnLetters` — which labels no other column;
* `cellId_inj` — and the name of a cell belongs to no other row and column;
* `makeCellId_eq_ok` — there is a name for every cell of a row with few digits.
-/

/-! ### Columns -/

theorem toNat_letter {digit : Nat} (h : digit < 26) : (letter digit).toNat = 0x41 + digit := by
  have hbase : 'A'.toNat = 0x41 := rfl
  rw [letter, hbase, toNat_ofNat (.inl (by omega))]

theorem isUpper_of_mem_bijectiveDigits {n : Nat} {c : Char} (h : c ∈ bijectiveDigits n) :
    c.isUpper = true := by
  fun_induction bijectiveDigits n with
  | case1 => exact absurd h List.not_mem_nil
  | case2 n ih =>
    rcases List.mem_append.1 h with h | h
    · exact ih h
    · have hdigit : n % 26 < 26 := Nat.mod_lt _ (by omega)
      rw [List.mem_singleton.1 h, isUpper_iff, toNat_letter hdigit]
      omega

theorem isUpper_of_mem_columnLetters {index : Nat} {c : Char} (h : c ∈ columnLetters index) :
    c.isUpper = true := isUpper_of_mem_bijectiveDigits h

/-- Horner's rule reads the digits back: each one counts from one on, as the encoder takes one off
before each division. -/
theorem foldl_bijectiveDigits (n : Nat) :
    (bijectiveDigits n).foldl (fun n c => n * 26 + ((c.toNat : Int) - 'A'.toNat + 1)) 0 = n := by
  fun_induction bijectiveDigits n with
  | case1 => rfl
  | case2 n ih =>
    have hbase : 'A'.toNat = 0x41 := rfl
    rw [List.foldl_append, ih, List.foldl_cons, List.foldl_nil, hbase,
      toNat_letter (Nat.mod_lt _ (by omega))]
    omega

/-- The number of a label is that of its column. -/
theorem columnNumber_columnLetters (index : Nat) : columnNumber (columnLetters index) = index := by
  rw [columnNumber, columnLetters, foldl_bijectiveDigits]
  omega

theorem columnLetters_inj {m n : Nat} : columnLetters m = columnLetters n ↔ m = n := by
  refine ⟨fun h => ?_, fun h => by rw [h]⟩
  have hnumber := congrArg columnNumber h
  rw [columnNumber_columnLetters, columnNumber_columnLetters] at hnumber
  exact Int.ofNat_inj.1 hnumber

/-! ### Cells -/

theorem toDigits_inj {m n : Nat} : Nat.toDigits 10 m = Nat.toDigits 10 n ↔ m = n := by
  refine ⟨fun h => ?_, fun h => by rw [h]⟩
  have hvalue := congrArg (Nat.ofDigitChars 10 · 0) h
  simpa using hvalue

/-- The digits of a row are no letters. -/
theorem isUpper_eq_false_of_mem_toDigits {row : Nat} {c : Char} (h : c ∈ Nat.toDigits 10 row) :
    c.isUpper = false :=
  Text.isUpper_eq_false_of_isDigit (Nat.isDigit_of_mem_toDigits (by omega) (by omega) h)

/-- The letters of a cell's name end where its digits begin. -/
theorem takeWhile_cellId (row column : Nat) :
    (columnLetters column ++ Nat.toDigits 10 row).takeWhile Char.isUpper
      = columnLetters column := by
  rw [List.takeWhile_append_of_pos fun c hc => isUpper_of_mem_columnLetters hc]
  cases hdigits : Nat.toDigits 10 row with
  | nil => rw [List.takeWhile_nil, List.append_nil]
  | cons d ds =>
    have hd : d ∈ Nat.toDigits 10 row := by
      rw [hdigits]
      exact List.mem_cons_self
    have hnot : ¬ d.isUpper = true := by simp [isUpper_eq_false_of_mem_toDigits hd]
    rw [List.takeWhile_cons_of_neg hnot, List.append_nil]

/-- Different cells have different names. -/
theorem cellId_inj {row row' column column' : Nat} :
    cellId row column = cellId row' column' ↔ row = row' ∧ column = column' := by
  constructor
  · intro h
    have hchars := String.ofList_injective h
    have hletters := congrArg (List.takeWhile Char.isUpper) hchars
    rw [takeWhile_cellId, takeWhile_cellId] at hletters
    rw [hletters, List.append_cancel_left_eq] at hchars
    exact ⟨toDigits_inj.1 hchars, columnLetters_inj.1 hletters⟩
  · rintro ⟨rfl, rfl⟩
    rfl

/-- There is a name for every cell, if the number of its row can be written. -/
theorem makeCellId_eq_ok {row column : Nat} (hrow : 0 < row)
    (hdigits : (Nat.toDigits 10 row).length ≤ Number.digitLimit) :
    makeCellId row column = .ok (cellId row column) := by
  rw [makeCellId, if_neg (by omega), if_neg (by omega), Int.toNat_natCast, Int.toNat_natCast,
    if_pos hdigits]

end Worksheet.Address
