import Mathlib.Data.List.Basic
import Worksheet.Text.Digit
import Worksheet.Proofs.Text.Characters

namespace Worksheet.Text

/-!
# Decimal digits

* `digitValue?_of_isDigit`, `digitValue?_digitChar` — the values of the ASCII digits;
* `decimalValue_eq_ofDigitChars` — the number that ASCII digits write, and `decimalValue_toDigits`
  that a number is read back from its digits;
* `decimalValue_congr` — digits of other scripts write the same number if their values are the same;
* `map_digitValue?_toDigits` — digits of any script have the values of those of the number that
  they write, if they begin with no zero;
* `exists_toDigits_eq_cons` — the digits of a positive number begin with no zero.
-/

/-! ### Values of digits -/

theorem digitValue?_of_isDigit {c : Char} (h : c.isDigit = true) :
    digitValue? c = some (c.toNat - 0x30) := by
  have hrange := isDigit_iff.1 h
  have hzero : (decide (0x30 ≤ c.toNat) && decide (c.toNat ≤ 0x30 + 9)) = true := by
    simp only [Bool.and_eq_true, decide_eq_true_eq]
    omega
  have hfind : zeros.find? (fun z => z ≤ c.toNat && c.toNat ≤ z + 9) = some 0x30 :=
    List.find?_cons_of_pos hzero
  rw [digitValue?, hfind, Option.map_some]

theorem digitValue?_lt {c : Char} {d : Nat} (h : digitValue? c = some d) : d < 10 := by
  obtain ⟨z, hz, rfl⟩ := Option.map_eq_some_iff.1 h
  have hrange := List.find?_some hz
  simp only [Bool.and_eq_true, decide_eq_true_eq] at hrange
  omega

theorem digitValue?_digitChar {d : Nat} (h : d < 10) : digitValue? (Nat.digitChar d) = some d := by
  have hall : ∀ d < 10, digitValue? (Nat.digitChar d) = some d := by decide
  exact hall d h

/-- An ASCII character with a value is an ASCII digit. -/
theorem isDigit_of_digitValue? {c : Char} (hc : c.toNat < 0x80)
    (h : (digitValue? c).isSome = true) : c.isDigit = true := by
  obtain ⟨v, hv⟩ := Option.isSome_iff_exists.1 h
  obtain ⟨z, hz, -⟩ := Option.map_eq_some_iff.1 hv
  have hrange := List.find?_some hz
  simp only [Bool.and_eq_true, decide_eq_true_eq] at hrange
  have hall : ∀ z ∈ zeros, z = 0x30 ∨ 0x80 ≤ z := by decide
  rw [isDigit_iff]
  have := hall z (List.mem_of_find?_eq_some hz)
  omega

/-! ### Numbers in writing -/

theorem decimalValue_eq_ofDigitChars {ds : List Char} (h : ∀ d ∈ ds, d.isDigit = true) :
    decimalValue ds = Nat.ofDigitChars 10 ds 0 := by
  refine List.foldl_ext _ _ 0 fun n d hd => ?_
  rw [digitValue?_of_isDigit (h d hd)]
  rfl

theorem isDigit_of_mem_toDigits {n : Nat} {d : Char} (h : d ∈ Nat.toDigits 10 n) :
    d.isDigit = true := Nat.isDigit_of_mem_toDigits (by omega) (by omega) h

/-- A number is read back from its digits. -/
@[simp] theorem decimalValue_toDigits (n : Nat) : decimalValue (Nat.toDigits 10 n) = n := by
  rw [decimalValue_eq_ofDigitChars fun _ => isDigit_of_mem_toDigits,
    Nat.ofDigitChars_toDigits (by omega) (by omega)]

/-- Only the values of the digits matter. -/
theorem decimalValue_congr {ds es : List Char} (h : ds.map digitValue? = es.map digitValue?) :
    decimalValue ds = decimalValue es := by
  have hvalues (ds : List Char) :
      decimalValue ds = (ds.map digitValue?).foldl (fun n v => 10 * n + v.getD 0) 0 := by
    rw [List.foldl_map]
    rfl
  rw [hvalues, hvalues, h]

theorem digitChar_digitValue? {c : Char} (h : c.isDigit = true) :
    Nat.digitChar ((digitValue? c).getD 0) = c := by
  have hrange := isDigit_iff.1 h
  rw [digitValue?_of_isDigit h, Option.getD_some, ← Char.toNat_inj,
    Nat.toNat_digitChar_of_lt_ten (by omega)]
  omega

/-- ASCII digits are known by their values. -/
theorem eq_of_map_digitValue?_eq {ds es : List Char} (hds : ∀ d ∈ ds, d.isDigit = true)
    (hes : ∀ e ∈ es, e.isDigit = true) (h : ds.map digitValue? = es.map digitValue?) : ds = es := by
  have hread : ∀ cs : List Char, (∀ c ∈ cs, c.isDigit = true) →
      (cs.map digitValue?).map (fun v => Nat.digitChar (v.getD 0)) = cs := by
    intro cs hcs
    have hid : ∀ c ∈ cs, Nat.digitChar ((digitValue? c).getD 0) = id c :=
      fun c hc => digitChar_digitValue? (hcs c hc)
    rw [List.map_map]
    exact (List.map_congr_left hid).trans (List.map_id cs)
  rw [← hread ds hds, ← hread es hes, h]

/-- The digits of a number, one by one. -/
theorem toDigits_step {n d : Nat} (hn : 0 < n) (hd : d < 10) :
    Nat.toDigits 10 (10 * n + d) = Nat.toDigits 10 n ++ [Nat.digitChar d] := by
  rw [← Nat.toDigits_append_toDigits (by omega) hn hd, Nat.toDigits_of_lt_base hd]

/-- More digits behind a positive number stand behind its own. -/
theorem map_digitValue?_foldl {n : Nat} {ds : List Char} (hn : 0 < n)
    (hds : ∀ d ∈ ds, (digitValue? d).isSome = true) :
    (Nat.toDigits 10 (ds.foldl (fun n c => 10 * n + (digitValue? c).getD 0) n)).map digitValue?
      = (Nat.toDigits 10 n).map digitValue? ++ ds.map digitValue? := by
  induction ds generalizing n with
  | nil => rw [List.foldl_nil, List.map_nil, List.append_nil]
  | cons d ds ih =>
    obtain ⟨v, hv⟩ := Option.isSome_iff_exists.1 (hds d List.mem_cons_self)
    have hlt := digitValue?_lt hv
    rw [List.foldl_cons, hv, Option.getD_some,
      ih (by omega) fun e he => hds e (List.mem_cons_of_mem d he), toDigits_step hn hlt]
    simp [digitValue?_digitChar hlt, hv]

/-- Digits that begin with no zero are, by their values, those of the number that they write. -/
theorem map_digitValue?_toDigits {d : Char} {ds : List Char} {v : Nat} (hd : digitValue? d = some v)
    (hv : 0 < v) (hds : ∀ d ∈ ds, (digitValue? d).isSome = true) :
    (Nat.toDigits 10 (decimalValue (d :: ds))).map digitValue? = (d :: ds).map digitValue? := by
  have hlt := digitValue?_lt hd
  rw [decimalValue, List.foldl_cons, Nat.mul_zero, Nat.zero_add, hd, Option.getD_some,
    map_digitValue?_foldl hv hds, Nat.toDigits_of_lt_base hlt]
  simp [digitValue?_digitChar hlt, hd]

/-- The digits of a positive number begin with no zero. -/
theorem exists_toDigits_eq_cons {n : Nat} (h : 0 < n) :
    ∃ d ds, Nat.toDigits 10 n = d :: ds ∧ 0x31 ≤ d.toNat ∧ d.toNat ≤ 0x39 := by
  induction n using Nat.strongRecOn with
  | ind n ih =>
    by_cases hlt : n < 10
    case pos =>
      rw [Nat.toDigits_of_lt_base hlt]
      refine ⟨_, [], rfl, ?_⟩
      rw [Nat.toNat_digitChar_of_lt_ten hlt]
      omega
    case neg =>
      obtain ⟨d, ds, hdigits, hrange⟩ := ih (n / 10) (by omega) (by omega)
      have hstep := @toDigits_step (n / 10) (n % 10) (by omega) (by omega)
      rw [Nat.div_add_mod, hdigits, List.cons_append] at hstep
      exact ⟨d, _, hstep, hrange⟩

end Worksheet.Text
