import Mathlib.Data.List.TakeWhile
import Worksheet.Text.Blank
import Worksheet.Text.Letter
import Worksheet.Text.Uppercase

namespace Worksheet.Text

/-!
# Digits, letters and blanks

* `forall_ascii` — what is decided of the first characters one by one;
* `isDigit_iff`, `isUpper_iff`, `isLower_iff` — the ASCII digits and letters by their code points;
* `isBlank_of_isDigit`, `isBlank_of_isUpper` — none of them is a blank;
* `isUpper_eq_false_of_isDigit`, `isDigit_eq_false_of_isUpper` — no letter is a digit;
* `isLetter_of_isAlpha` — the ASCII letters are letters;
* `upperOf_of_isBlank`, `upperOf_of_isDigit`, `upperOf_of_isAlpha` — the upper-case forms of these
  characters are single characters, and `flatMap_upperOf` that of a text of them;
* `forall_head?_cons`, `forall_head?_append` — what a text begins with;
* `exists_run`, `takeWhile_dropWhile` — where the characters of one class end;
* `exists_eq_trimBlanks`, `trimBlanks_append` — what is left of a text without the blanks at its
  ends.
-/

/-- What holds of the first characters one by one holds of every ASCII character. -/
theorem forall_ascii {P : Char → Prop} (h : ∀ n < 0x80, P (Char.ofNat n)) {c : Char}
    (hc : c.toNat < 0x80) : P c := by
  have hn := h c.toNat hc
  rwa [Char.ofNat_toNat] at hn

theorem toNat_ofNat {n : Nat} (h : n < 0xd800 ∨ 0xdfff < n ∧ n < 0x110000) :
    (Char.ofNat n).toNat = n := by
  rw [Char.ofNat, dif_pos h]
  rfl

theorem isDigit_iff {c : Char} : c.isDigit = true ↔ 0x30 ≤ c.toNat ∧ c.toNat ≤ 0x39 :=
  Char.isDigit_iff_toNat

theorem isUpper_iff {c : Char} : c.isUpper = true ↔ 0x41 ≤ c.toNat ∧ c.toNat ≤ 0x5a := by
  show decide (c.val ≥ 'A'.val ∧ c.val ≤ 'Z'.val) = true ↔ _
  simp [UInt32.le_iff_toNat_le, ← Char.toNat_val]

theorem isLower_iff {c : Char} : c.isLower = true ↔ 0x61 ≤ c.toNat ∧ c.toNat ≤ 0x7a := by
  show (c.val ≥ 'a'.val && c.val ≤ 'z'.val) = true ↔ _
  simp [UInt32.le_iff_toNat_le, ← Char.toNat_val]

theorem toNat_lt_of_isAlpha {c : Char} (h : c.isAlpha = true) : c.toNat < 0x80 := by
  have h : (c.isUpper || c.isLower) = true := h
  rw [Bool.or_eq_true, isUpper_iff, isLower_iff] at h
  omega

theorem isUpper_eq_false_of_isDigit {c : Char} (h : c.isDigit = true) : c.isUpper = false := by
  have := isDigit_iff.1 h
  rw [← Bool.not_eq_true, isUpper_iff]
  omega

theorem isDigit_eq_false_of_isUpper {c : Char} (h : c.isUpper = true) : c.isDigit = false := by
  have := isUpper_iff.1 h
  rw [← Bool.not_eq_true, isDigit_iff]
  omega

/-- The printable characters below U+007F are visible, except for the space. -/
theorem isBlank_eq_false {c : Char} (hlow : 0x21 ≤ c.toNat) (hhigh : c.toNat ≤ 0x7e) :
    isBlank c = false := by
  rw [← Bool.not_eq_true]
  intro h
  obtain ⟨r, hr, hfirst, hlast⟩ := CodePoints.has_iff.1 h
  -- no run of blanks touches the visible characters
  have hout : ∀ r ∈ blanks, r.2 < 0x21 ∨ 0x7e < r.1 := by decide
  have := hout r hr
  omega

theorem isBlank_of_isDigit {c : Char} (h : c.isDigit = true) : isBlank c = false := by
  have := isDigit_iff.1 h
  exact isBlank_eq_false (by omega) (by omega)

theorem isBlank_of_isUpper {c : Char} (h : c.isUpper = true) : isBlank c = false := by
  have := isUpper_iff.1 h
  exact isBlank_eq_false (by omega) (by omega)

theorem isLetter_of_isAlpha {c : Char} (h : c.isAlpha = true) : isLetter c = true := by
  have h : (c.isUpper || c.isLower) = true := h
  rw [Bool.or_eq_true, isUpper_iff, isLower_iff] at h
  rcases h with h | h
  · exact CodePoints.has_iff.2 ⟨(0x41, 0x5a), List.mem_cons_self, h⟩
  · exact CodePoints.has_iff.2 ⟨(0x61, 0x7a), List.mem_cons_of_mem _ List.mem_cons_self, h⟩

/-- Blanks have no upper-case form. -/
theorem upperOf_of_isBlank {c : Char} (h : isBlank c = true) : upperOf c = [c] := by
  obtain ⟨r, hr, hfirst, hlast⟩ := CodePoints.has_iff.1 h
  -- there are few blanks, so each can be looked up
  have hall : ∀ r ∈ blanks, ∀ k < r.2 + 1 - r.1,
      upperOf (Char.ofNat (r.1 + k)) = [Char.ofNat (r.1 + k)] := by
    decide +kernel
  have hk := hall r hr (c.toNat - r.1) (by omega)
  rwa [Nat.add_sub_cancel' hfirst, Char.ofNat_toNat] at hk

theorem upperOf_of_isDigit {c : Char} (h : c.isDigit = true) : upperOf c = [c] := by
  have hrange := isDigit_iff.1 h
  have hall : ∀ n < 0x80, (Char.ofNat n).isDigit = true →
      upperOf (Char.ofNat n) = [Char.ofNat n] := by
    decide
  exact forall_ascii (P := fun c => c.isDigit = true → upperOf c = [c]) hall (by omega) h

theorem upperOf_of_isAlpha {c : Char} (h : c.isAlpha = true) : upperOf c = [c.toUpper] :=
  if_pos (toNat_lt_of_isAlpha h)

theorem isUpper_toUpper {c : Char} (h : c.isAlpha = true) : c.toUpper.isUpper = true := by
  have hall : ∀ n < 0x80, (Char.ofNat n).isAlpha = true →
      (Char.ofNat n).toUpper.isUpper = true := by
    decide
  exact forall_ascii (P := fun c => c.isAlpha = true → c.toUpper.isUpper = true) hall
    (toNat_lt_of_isAlpha h) h

/-- A text of characters that change one by one changes as a whole. -/
theorem flatMap_upperOf {f : Char → Char} {cs : List Char} (h : ∀ c ∈ cs, upperOf c = [f c]) :
    cs.flatMap upperOf = cs.map f := by
  induction cs with
  | nil => rfl
  | cons c cs ih =>
    rw [List.flatMap_cons, h c List.mem_cons_self, ih fun d hd => h d (List.mem_cons_of_mem c hd)]
    rfl

theorem toList_upper_of_isAlpha {s : String} (h : ∀ c ∈ s.toList, c.isAlpha = true) :
    (upper s).toList = s.toList.map Char.toUpper := by
  rw [upper, String.toList_ofList, flatMap_upperOf fun c hc => upperOf_of_isAlpha (h c hc)]

theorem upper_of_isUpper {s : String} (h : ∀ c ∈ s.toList, c.isUpper = true) : upper s = s := by
  have hall : ∀ n < 0x80, (Char.ofNat n).isUpper = true →
      (Char.ofNat n).toUpper = Char.ofNat n := by
    decide
  have hupper : ∀ c ∈ s.toList, upperOf c = [c] := by
    intro c hc
    have hlt : c.toNat < 0x80 := by
      have := isUpper_iff.1 (h c hc)
      omega
    have hkeep := forall_ascii (P := fun c => c.isUpper = true → c.toUpper = c) hall hlt
    rw [upperOf, if_pos hlt, hkeep (h c hc)]
  rw [upper, flatMap_upperOf hupper, List.map_id', String.ofList_toList]

/-- If the ASCII upper-case form of a text is ASCII, there is no other. -/
theorem upper_eq_toUpper {s : String} (h : ∀ c ∈ s.toUpper.toList, c.toNat < 0x80) :
    upper s = s.toUpper := by
  have hmap : s.toUpper.toList = s.toList.map Char.toUpper := String.toList_map
  have hascii : ∀ c ∈ s.toList, c.toNat < 0x80 := by
    intro c hc
    have hlt := h c.toUpper (by rw [hmap]; exact List.mem_map_of_mem hc)
    unfold Char.toUpper at hlt
    split at hlt
    case isTrue hlower =>
      have hlast : c.toNat ≤ 0x7a := hlower.2
      omega
    case isFalse => exact hlt
  rw [upper, flatMap_upperOf fun c hc => if_pos (hascii c hc), ← hmap, String.ofList_toList]

/-! ### The beginning of a text -/

/-- A text begins with its first character. -/
theorem forall_head?_cons {P : Char → Prop} {c : Char} {cs : List Char} (h : P c) :
    ∀ d ∈ (c :: cs).head?, P d := by
  intro d hd
  rwa [← Option.mem_some_iff.1 hd]

/-- A text that begins with some characters begins with one of them. -/
theorem forall_head?_append {P : Char → Prop} {cs rest : List Char} (hne : cs ≠ [])
    (h : ∀ c ∈ cs, P c) : ∀ c ∈ (cs ++ rest).head?, P c := by
  obtain ⟨c, cs, rfl⟩ := List.exists_cons_of_ne_nil hne
  exact forall_head?_cons (h c List.mem_cons_self)

/-- A text begins with a run of characters of one class, which may be empty. -/
theorem exists_run (p : Char → Bool) (cs : List Char) :
    ∃ run rest, cs = run ++ rest ∧ (∀ c ∈ run, p c = true) ∧ ∀ c ∈ rest.head?, p c = false := by
  refine ⟨cs.takeWhile p, cs.dropWhile p, List.takeWhile_append_dropWhile.symm,
    fun c hc => List.mem_takeWhile_imp hc, fun c hc => ?_⟩
  rw [← List.find?_not_eq_head?_dropWhile, Option.mem_def] at hc
  simpa using List.find?_some hc

/-- The longest beginning of characters of one class ends where that class ends. -/
theorem takeWhile_dropWhile {p : Char → Bool} {cs rest : List Char} (hcs : ∀ c ∈ cs, p c = true)
    (hrest : ∀ c ∈ rest.head?, p c = false) :
    (cs ++ rest).takeWhile p = cs ∧ (cs ++ rest).dropWhile p = rest := by
  rw [List.takeWhile_append_of_pos hcs, List.dropWhile_append_of_pos hcs]
  cases rest with
  | nil => simp
  | cons c rest =>
    have hc : p c = false := hrest c rfl
    simp [hc]

/-! ### Blanks at the ends of a text -/

/-- What is trimmed off a text is blank. -/
theorem exists_eq_trimBlanks (cs : List Char) :
    ∃ before after, (∀ c ∈ before, isBlank c = true) ∧ (∀ c ∈ after, isBlank c = true) ∧
      cs = before ++ trimBlanks cs ++ after := by
  refine ⟨cs.takeWhile isBlank, ((cs.dropWhile isBlank).reverse.takeWhile isBlank).reverse,
    fun c hc => List.mem_takeWhile_imp hc,
    fun c hc => List.mem_takeWhile_imp (List.mem_reverse.1 hc), ?_⟩
  rw [trimBlanks, List.append_assoc, ← List.reverse_append, List.takeWhile_append_dropWhile,
    List.reverse_reverse, List.takeWhile_append_dropWhile]

/-- A text without blanks is what remains between blanks. -/
theorem trimBlanks_append {before cs after : List Char} (hbefore : ∀ c ∈ before, isBlank c = true)
    (hcs : ∀ c ∈ cs, isBlank c = false) (hafter : ∀ c ∈ after, isBlank c = true) :
    trimBlanks (before ++ cs ++ after) = cs := by
  have hlast : ∀ c ∈ cs.reverse.head?, isBlank c = false :=
    fun c hc => hcs c (List.mem_reverse.1 (List.mem_of_head? hc))
  have hdrop : (after.reverse ++ cs.reverse).dropWhile isBlank = cs.reverse :=
    (takeWhile_dropWhile (fun c hc => hafter c (List.mem_reverse.1 hc)) hlast).2
  cases cs with
  | nil =>
    have hblank : (before ++ [] ++ after).dropWhile isBlank = [] := by
      rw [List.dropWhile_eq_nil_iff]
      intro c hc
      rcases List.mem_append.1 hc with hc | hc
      · exact hbefore c (by simpa using hc)
      · exact hafter c hc
    rw [trimBlanks, hblank]
    rfl
  | cons c cs =>
    have hfirst : ∀ d ∈ (c :: cs ++ after).head?, isBlank d = false :=
      forall_head?_append (List.cons_ne_nil c cs) hcs
    rw [trimBlanks, List.append_assoc, (takeWhile_dropWhile hbefore hfirst).2, List.reverse_append,
      hdrop, List.reverse_reverse]

end Worksheet.Text
