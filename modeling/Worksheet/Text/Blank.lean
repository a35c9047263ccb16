import Worksheet.Text.CodePoints

namespace Worksheet.Text

/-!
# Blanks

* `isBlank` — the characters that count as white space;
* `isSeparator` — the four of them that are information separators;
* `trimBlanks` — a text without the blanks at its two ends.
-/

/-- The code points of the blanks: those of bidirectional type B, S or WS, and the spaces (Zs). -/
def blanks : CodePoints :=
  [(0x9, 0xd), (0x1c, 0x20), (0x85, 0x85), (0xa0, 0xa0), (0x1680, 0x1680), (0x2000, 0x200a),
   (0x2028, 0x2029), (0x202f, 0x202f), (0x205f, 0x205f), (0x3000, 0x3000)]

/-- Whether `c` is white space. -/
def isBlank (c : Char) : Bool := blanks.has c

/-- Whether `c` is one of the information separators U+001C to U+001F. -/
def isSeparator (c : Char) : Bool := 0x1c ≤ c.toNat && c.toNat ≤ 0x1f

theorem isBlank_of_isSeparator {c : Char} (h : isSeparator c = true) : isBlank c = true := by
  simp only [isSeparator, Bool.and_eq_true, decide_eq_true_eq] at h
  exact CodePoints.has_iff.2 ⟨(0x1c, 0x20), by simp [blanks], h.1, by omega⟩

/-- The text without its leading and trailing blanks. -/
def trimBlanks (cs : List Char) : List Char :=
  ((cs.dropWhile isBlank).reverse.dropWhile isBlank).reverse

end Worksheet.Text
