import Mathlib.Data.List.Induction
import Mathlib.Data.List.Shortlex
import Worksheet.Proofs.Address.Labels
import Worksheet.Proofs.Text.Uppercase

namespace Worksheet.Address

open Text

/-!
# Columns and their labels

* `exists_columnLetters` — every non-empty string of the letters `A` to `Z` is the label of a
  column, so labels and columns determine each other;
* `shortlex_columnLetters_iff` — columns are in the order of their labels, shorter labels first and
  those of one length in alphabetical order;
* `columnNumber_nonneg` — no string of characters from `A` on stands for a negative column;
* `columnIndex_eq_ok_iff`, `columnIndex_eq_error_iff` — the texts that are read as a column;
* `columnIndex_of_upper` — those that are a label in upper case are read as the column it labels,
  in particular the ASCII letters in either case: `columnIndex_of_isAlpha`;
* `columnIndex_labels` — and these are the only ones that are read as the column they label.
-/

/-! ### Labels are read back -/

theorem letter_toNat_sub {c : Char} (h : c.isUpper = true) : letter (c.toNat - 0x41) = c := by
  have hrange := isUpper_iff.1 h
  have hbase : 'A'.toNat = 0x41 := rfl
  rw [letter, hbase, Nat.add_sub_cancel' hrange.1, Char.ofNat_toNat]

/-- Every string of the letters is a numeral.  The last letter is the last digit, counted from one
on, so the encoder takes it off again. -/
theorem exists_bijectiveDigits {cs : List Char} (h : ∀ c ∈ cs, c.isUpper = true) :
    ∃ n, bijectiveDigits n = cs := by
  induction cs using List.reverseRecOn with
  | nil => exact ⟨0, by rw [bijectiveDigits]⟩
  | append_singleton cs c ih =>
    obtain ⟨n, hn⟩ := ih fun d hd => h d (List.mem_append_left [c] hd)
    have hc : c.isUpper = true := h c (by simp)
    have hrange := isUpper_iff.1 hc
    refine ⟨26 * n + (c.toNat - 0x41) + 1, ?_⟩
    have hdiv : (26 * n + (c.toNat - 0x41)) / 26 = n := by omega
    have hmod : (26 * n + (c.toNat - 0x41)) % 26 = c.toNat - 0x41 := by omega
    rw [bijectiveDigits, hdiv, hmod, hn, letter_toNat_sub hc]

/-- Every non-empty string of the letters labels a column. -/
theorem exists_columnLetters {cs : List Char} (hne : cs ≠ [])
    (h : ∀ c ∈ cs, c.isUpper = true) : ∃ index, columnLetters index = cs := by
  obtain ⟨n, hn⟩ := exists_bijectiveDigits h
  cases n with
  | zero =>
    rw [bijectiveDigits] at hn
    exact absurd hn.symm hne
  | succ index => exact ⟨index, hn⟩

theorem columnLetters_ne_nil (index : Nat) : columnLetters index ≠ [] := by
  rw [columnLetters, bijectiveDigits]
  simp

/-! ### The order of labels -/

/-- Letters stand in the order of their digits. -/
theorem letter_lt {m n : Nat} (hmn : m < n) (hn : n < 26) : letter m < letter n := by
  have htoNat : (letter m).toNat < (letter n).toNat := by
    rw [toNat_letter (by omega), toNat_letter hn]
    omega
  exact Char.lt_def.2 htoNat

/-- The order of two different strings is not changed by one more letter at the end of each. -/
theorem shortlex_concat {cs ds : List Char} (h : List.Shortlex (· < ·) cs ds) (c d : Char) :
    List.Shortlex (· < ·) (cs ++ [c]) (ds ++ [d]) := by
  rcases List.shortlex_def.1 h with hlength | ⟨hlength, hlex⟩
  · exact .of_length_lt (by simpa using hlength)
  · refine .of_lex (by simpa using hlength) ?_
    clear h
    induction hlex with
    | nil => simp at hlength
    | cons _ ih => exact .cons (ih (by simpa using hlength))
    | rel hlt => exact .rel hlt

theorem shortlex_bijectiveDigits {m n : Nat} (h : m < n) :
    List.Shortlex (· < ·) (bijectiveDigits m) (bijectiveDigits n) := by
  induction n using Nat.strongRecOn generalizing m with
  | ind n ih =>
    obtain ⟨n, rfl⟩ := Nat.exists_eq_succ_of_ne_zero (Nat.ne_of_gt (Nat.zero_lt_of_lt h))
    cases m with
    | zero => exact .of_length_lt (by simp [bijectiveDigits])
    | succ m =>
      rw [bijectiveDigits, bijectiveDigits]
      -- the quotients decide, and the last letters where the quotients are the same
      rcases Nat.lt_or_ge (m / 26) (n / 26) with hdiv | hdiv
      · exact shortlex_concat (ih (n / 26) (by omega) hdiv) _ _
      · have hdiv : m / 26 = n / 26 := by omega
        have hletter : letter (m % 26) < letter (n % 26) := letter_lt (by omega) (by omega)
        rw [hdiv]
        exact .append_left (List.shortlex_singleton_iff _ _ |>.2 hletter) _

/-- Columns are in the order of their labels. -/
theorem shortlex_columnLetters_iff {m n : Nat} :
    List.Shortlex (· < ·) (columnLetters m) (columnLetters n) ↔ m < n := by
  refine ⟨fun h => ?_, fun h => shortlex_bijectiveDigits (Nat.succ_lt_succ h)⟩
  rcases Nat.lt_trichotomy m n with hlt | rfl | hgt
  · exact hlt
  · exact absurd h (Std.Asymm.asymm _ _ h)
  · exact absurd h (Std.Asymm.asymm _ _ (shortlex_bijectiveDigits (Nat.succ_lt_succ hgt)))

/-! ### Texts -/

theorem columnNumber_concat (cs : List Char) (c : Char) :
    columnNumber (cs ++ [c]) = (columnNumber cs + 1) * 26 + ((c.toNat : Int) - 'A'.toNat) := by
  rw [columnNumber, columnNumber, List.foldl_append, List.foldl_cons, List.foldl_nil]
  omega

/-- A string of characters from `A` on, however far, stands for a column. -/
theorem columnNumber_nonneg {cs : List Char} (hne : cs ≠ []) (h : ∀ c ∈ cs, 0x41 ≤ c.toNat) :
    0 ≤ columnNumber cs := by
  induction cs using List.reverseRecOn with
  | nil => exact absurd rfl hne
  | append_singleton cs c ih =>
    have hbase : 'A'.toNat = 0x41 := rfl
    have hc : 0x41 ≤ c.toNat := h c (by simp)
    -- nothing before the last character counts as minus one
    have hcs : -1 ≤ columnNumber cs := by
      cases cs with
      | nil => decide
      | cons d ds =>
        have := ih (List.cons_ne_nil d ds) fun e he => h e (List.mem_append_left [c] he)
        omega
    rw [columnNumber_concat, hbase]
    omega

theorem columnLabel_natCast (index : Nat) :
    columnLabel index = .ok (String.ofList (columnLetters index)) := by
  rw [columnLabel, if_neg (by omega), Int.toNat_natCast]

theorem columnLabel_eq_ok_iff {n : Int} {label : String} :
    columnLabel n = .ok label ↔
      ∃ index : Nat, n = index ∧ label = String.ofList (columnLetters index) := by
  constructor
  · intro h
    rw [columnLabel] at h
    split_ifs at h with hn
    cases h
    exact ⟨n.toNat, by omega, rfl⟩
  · rintro ⟨index, rfl, rfl⟩
    exact columnLabel_natCast index

/-- What is asked of a text before it is read as a column. -/
theorem all_isLetter_iff {text : String} :
    (!text.toList.isEmpty && text.toList.all isLetter) = true ↔
      text ≠ "" ∧ ∀ c ∈ text.toList, isLetter c = true := by
  simp

theorem columnIndex_eq_ok_iff {text : String} {n : Int} :
    columnIndex text = .ok n ↔ (text ≠ "" ∧ ∀ c ∈ text.toList, isLetter c = true) ∧
      n = columnNumber (upper text).toList := by
  unfold columnIndex
  rw [← all_isLetter_iff]
  split
  case isTrue h => rw [Except.ok.injEq, eq_comm, and_iff_right h]
  case isFalse h => exact iff_of_false (fun hn => nomatch hn) fun hn => h hn.1

/-- The only texts that are not read as a column are the empty one and those with a character that
is no letter of any script. -/
theorem columnIndex_eq_error_iff {text : String} {e : Error} :
    columnIndex text = .error e ↔
      e = .noColumn text ∧ (text = "" ∨ ∃ c ∈ text.toList, isLetter c = false) := by
  have hnot : (text = "" ∨ ∃ c ∈ text.toList, isLetter c = false) ↔
      ¬ (text ≠ "" ∧ ∀ c ∈ text.toList, isLetter c = true) := by
    simp [or_iff_not_imp_left]
  unfold columnIndex
  rw [hnot, ← all_isLetter_iff]
  split
  case isTrue h => exact iff_of_false (fun he => nomatch he) fun he => he.2 h
  case isFalse h => rw [Except.error.injEq, eq_comm, and_iff_left h]

/-- A text that is a label in upper case is read as the column it labels. -/
theorem columnIndex_of_upper {text : String} (hne : text ≠ "")
    (h : ∀ c ∈ (upper text).toList, c.isUpper = true) :
    ∃ index : Nat, columnIndex text = .ok (index : Int) ∧
      columnLetters index = (upper text).toList := by
  obtain ⟨index, hindex⟩ := exists_columnLetters (mt toList_upper_eq_nil_iff.1 hne) h
  refine ⟨index, columnIndex_eq_ok_iff.2 ⟨⟨hne, isLetter_of_upper h⟩, ?_⟩, hindex⟩
  rw [← hindex, columnNumber_columnLetters]

/-- A text of ASCII letters, in either case, labels a column. -/
theorem columnIndex_of_isAlpha {label : String} (hne : label ≠ "")
    (h : ∀ c ∈ label.toList, c.isAlpha = true) :
    ∃ index : Nat, columnIndex label = .ok (index : Int) ∧
      columnLetters index = (upper label).toList := by
  refine columnIndex_of_upper hne fun c hc => ?_
  rw [toList_upper_of_isAlpha h] at hc
  obtain ⟨d, hd, rfl⟩ := List.mem_map.1 hc
  exact isUpper_toUpper (h d hd)

/-- A column is read back from its label. -/
theorem columnIndex_columnLetters (index : Nat) :
    columnIndex (String.ofList (columnLetters index)) = .ok (index : Int) := by
  have hupper : ∀ c ∈ (String.ofList (columnLetters index)).toList, c.isUpper = true := by
    intro c hc
    rw [String.toList_ofList] at hc
    exact isUpper_of_mem_columnLetters hc
  have hne : String.ofList (columnLetters index) ≠ "" := by simp [columnLetters_ne_nil]
  obtain ⟨index', hindex, hletters⟩ :=
    columnIndex_of_upper hne (by rwa [upper_of_isUpper hupper])
  rw [upper_of_isUpper hupper, String.toList_ofList, columnLetters_inj] at hletters
  rw [hindex, hletters]

/-- The index of a text belongs to some column, and so it is that of the label of this column. -/
theorem exists_columnLabel_of_columnIndex {text : String} {n : Int}
    (h : columnIndex text = .ok n) :
    0 ≤ n ∧ ∃ label, columnLabel n = .ok label ∧ columnIndex label = .ok n := by
  obtain ⟨⟨hne, hletters⟩, rfl⟩ := columnIndex_eq_ok_iff.1 h
  have hnonneg : 0 ≤ columnNumber (upper text).toList :=
    columnNumber_nonneg (mt toList_upper_eq_nil_iff.1 hne) fun c hc => toNat_mem_upper hletters hc
  obtain ⟨index, hindex⟩ := Int.eq_ofNat_of_zero_le hnonneg
  rw [hindex]
  exact ⟨by omega, _, columnLabel_natCast index, columnIndex_columnLetters index⟩

/-- A text is the label of a column in some case exactly if it is read as this column and written
with the letters `A` to `Z` in upper case. -/
theorem columnLabel_eq_upper_iff {text : String} {n : Int} :
    columnLabel n = .ok (upper text) ↔
      columnIndex text = .ok n ∧ ∀ c ∈ (upper text).toList, c.isUpper = true := by
  constructor
  · intro h
    obtain ⟨index, rfl, hlabel⟩ := columnLabel_eq_ok_iff.1 h
    have hupper : ∀ c ∈ (upper text).toList, c.isUpper = true := by
      intro c hc
      rw [hlabel, String.toList_ofList] at hc
      exact isUpper_of_mem_columnLetters hc
    have hne : text ≠ "" := by
      rintro rfl
      exact columnLetters_ne_nil index (String.ofList_injective hlabel.symm)
    obtain ⟨index', hindex, hletters⟩ := columnIndex_of_upper hne hupper
    rw [hlabel, String.toList_ofList, columnLetters_inj] at hletters
    rw [hletters] at hindex
    exact ⟨hindex, hupper⟩
  · rintro ⟨hn, hupper⟩
    obtain ⟨⟨hne, -⟩, -⟩ := columnIndex_eq_ok_iff.1 hn
    obtain ⟨index, hindex, hletters⟩ := columnIndex_of_upper hne hupper
    rw [hn] at hindex
    cases hindex
    rw [columnLabel_natCast, hletters, String.ofList_toList]

/-- Every non-empty text of letters, of any script, is read as a column, and no other text is.  A
text is the label of its column in some case exactly if it is written with the letters `A` to `Z`
in upper case; any other one is read as a column with another label. -/
theorem columnIndex_labels (text : String) :
    (∀ e, columnIndex text = .error e ↔
      e = .noColumn text ∧ (text = "" ∨ ∃ c ∈ text.toList, isLetter c = false)) ∧
    (∀ n, columnIndex text = .ok n →
      0 ≤ n ∧ ∃ label, columnLabel n = .ok label ∧ columnIndex label = .ok n) ∧
    ∀ n, columnLabel n = .ok (upper text) ↔
      columnIndex text = .ok n ∧ ∀ c ∈ (upper text).toList, c.isUpper = true :=
  ⟨fun _ => columnIndex_eq_error_iff, fun _ h => exists_columnLabel_of_columnIndex h,
    fun _ => columnLabel_eq_upper_iff⟩

theorem columnIndex_labels_sharpS :
    (columnIndex "ß" = .ok 512 ∧ upper "ß" = "SS" ∧ columnLabel 512 = .ok (upper "ß")) ∧
    ((0 : Int) ≤ 512 ∧ ∃ label, columnLabel 512 = .ok label ∧ columnIndex label = .ok 512) ∧
    columnIndex "S1" = .error (.noColumn "S1") := by
  have hindex : columnIndex "ß" = .ok 512 := rfl
  have hupper : upper "ß" = "SS" := rfl
  have hletters : ∀ c ∈ (upper "ß").toList, c.isUpper = true := by
    rw [hupper]
    exact List.all_eq_true.1 (by decide)
  have hdigit : isLetter '1' = false := by decide +kernel
  obtain ⟨-, hcolumn, hlabel⟩ := columnIndex_labels "ß"
  exact ⟨⟨hindex, hupper, (hlabel 512).2 ⟨hindex, hletters⟩⟩, hcolumn 512 hindex,
    ((columnIndex_labels "S1").1 _).2 ⟨rfl, .inr ⟨'1', by decide, hdigit⟩⟩⟩

/-- An accented letter labels no column, but it is read as the column of another label. -/
theorem columnIndex_accented :
    columnIndex "É" = .ok 136 ∧ columnLabel 136 = .ok "EG" ∧ columnIndex "EG" = .ok 136 ∧
      upper "É" = "É" ∧ ¬ ∃ n, columnLabel n = .ok (upper "É") := by
  have heg : columnLetters 136 = ['E', 'G'] := by simp [columnLetters, bijectiveDigits, letter]
  refine ⟨rfl, (columnLabel_natCast 136).trans (by rw [heg]), rfl, rfl, ?_⟩
  rintro ⟨n, hn⟩
  obtain ⟨index, -, hlabel⟩ := columnLabel_eq_ok_iff.1 hn
  have hupper : 'É' ∈ columnLetters index := by
    rw [← String.toList_ofList (l := columnLetters index), ← hlabel]
    decide
  exact absurd (isUpper_of_mem_columnLetters hupper) (by decide)

end Worksheet.Address
