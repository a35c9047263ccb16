import Worksheet.Proofs.Address.Columns
import Worksheet.Proofs.Text.Digits

namespace Worksheet.Address

open Number (digitLimit)
open Text

/-!
# Names of cells

* `Writes`, `Names` — the texts that are recognised as the name of a cell: the digits of its row may
  be of any script but for the first, and a line feed may follow them;
* `nameParts?_of_writes`, `exists_of_nameParts?` — the letters and the digits are found in exactly
  these texts;
* `splitCellId_eq_ok_iff` — and the row and the column are those that the text names;
* `Plain`, `Names.eq_cellId` — a text with ASCII digits only and without a line feed names no cell
  but the one whose name it is;
* `names_readBack` — columns and cells are read back from their labels and names;
* `isCellId_iff_names` — what is recognised, and where it is not the name itself.
-/

/-! ### Digits of a row -/

/-- The digits write the number: they have the values of its own digits, one by one, and the first
one is ASCII. -/
structure Writes (digits : List Char) (n : Nat) : Prop where
  values : digits.map digitValue? = (Nat.toDigits 10 n).map digitValue?
  head : digits.head? = (Nat.toDigits 10 n).head?

namespace Writes

variable {digits : List Char} {n : Nat}

theorem toDigits (n : Nat) : Writes (Nat.toDigits 10 n) n := ⟨rfl, rfl⟩

theorem decimalValue_eq (h : Writes digits n) : decimalValue digits = n := by
  rw [decimalValue_congr h.values, decimalValue_toDigits]

theorem length_eq (h : Writes digits n) : digits.length = (Nat.toDigits 10 n).length := by
  simpa using congrArg List.length h.values

theorem isSome_of_mem (h : Writes digits n) {d : Char} (hd : d ∈ digits) :
    (digitValue? d).isSome = true := by
  have hmem : digitValue? d ∈ digits.map digitValue? := List.mem_map_of_mem hd
  rw [h.values] at hmem
  obtain ⟨e, he, heq⟩ := List.mem_map.1 hmem
  rw [← heq, digitValue?_of_isDigit (isDigit_of_mem_toDigits he), Option.isSome_some]

/-- The first digit of a positive number is one of `1` to `9`. -/
theorem exists_eq_cons (h : Writes digits n) (hn : 0 < n) :
    ∃ d ds, digits = d :: ds ∧ 0x31 ≤ d.toNat ∧ d.toNat ≤ 0x39 := by
  obtain ⟨d, ds, hdigits, hrange⟩ := exists_toDigits_eq_cons hn
  have hhead := h.head
  rw [hdigits, List.head?_cons, List.head?_eq_some_iff] at hhead
  obtain ⟨es, hes⟩ := hhead
  exact ⟨d, es, hes, hrange⟩

/-- ASCII digits that write a number are its digits. -/
theorem eq_toDigits (h : Writes digits n) (hdigits : ∀ d ∈ digits, d.isDigit = true) :
    digits = Nat.toDigits 10 n :=
  eq_of_map_digitValue?_eq hdigits (fun _ => isDigit_of_mem_toDigits) h.values

end Writes

/-- Digits that begin with one of `1` to `9` write a positive number. -/
theorem exists_writes {d : Char} {ds : List Char} (hlow : 0x31 ≤ d.toNat) (hhigh : d.toNat ≤ 0x39)
    (hds : ∀ d ∈ ds, (digitValue? d).isSome = true) : ∃ n, 0 < n ∧ Writes (d :: ds) n := by
  have hd : d.isDigit = true := isDigit_iff.2 ⟨by omega, hhigh⟩
  have hvalue := digitValue?_of_isDigit hd
  have hvalues := map_digitValue?_toDigits hvalue (by omega) hds
  have hpos : 0 < decimalValue (d :: ds) := by
    refine Nat.pos_of_ne_zero fun hzero => ?_
    rw [hzero] at hvalues
    have hhead : digitValue? '0' = digitValue? d := (List.cons.inj hvalues).1
    have hd0 : d = '0' := by
      rw [← digitChar_digitValue? hd, ← hhead]
      rfl
    rw [hd0] at hlow
    exact absurd hlow (by decide)
  obtain ⟨e, es, hdigits, hlow', hhigh'⟩ := exists_toDigits_eq_cons hpos
  refine ⟨decimalValue (d :: ds), hpos, hvalues.symm, ?_⟩
  -- of two ASCII digits with one value
  have he : e.isDigit = true := isDigit_iff.2 ⟨by omega, hhigh'⟩
  rw [hdigits] at hvalues ⊢
  have hhead : digitValue? e = digitValue? d := (List.cons.inj hvalues).1
  rw [List.head?_cons, List.head?_cons, ← digitChar_digitValue? hd, ← digitChar_digitValue? he,
    hhead]

/-! ### Letters and digits -/

theorem withoutLineFeed_append {cs ending : List Char} (hcs : ∀ c ∈ cs, c ≠ '\n')
    (hending : ending = [] ∨ ending = ['\n']) : withoutLineFeed (cs ++ ending) = cs := by
  rcases hending with rfl | rfl
  · have hlast : cs.getLast? ≠ some '\n' := fun h => hcs _ (List.mem_of_getLast? h) rfl
    rw [List.append_nil, withoutLineFeed, if_neg hlast]
  · rw [withoutLineFeed, if_pos (by simp), List.dropLast_concat]

theorem exists_eq_withoutLineFeed_append (cs : List Char) :
    ∃ ending, cs = withoutLineFeed cs ++ ending ∧ (ending = [] ∨ ending = ['\n']) := by
  unfold withoutLineFeed
  split
  case isTrue h => exact ⟨['\n'], (List.dropLast_append_getLast? _ h).symm, .inr rfl⟩
  case isFalse => exact ⟨[], (List.append_nil cs).symm, .inl rfl⟩

/-- The letters of a name end where its digits begin, and the digits where the text ends. -/
theorem nameParts?_of_writes {digits ending : List Char} {row : Nat} (column : Nat) (hrow : 0 < row)
    (hdigits : Writes digits row) (hending : ending = [] ∨ ending = ['\n']) :
    nameParts? (columnLetters column ++ digits ++ ending)
      = some (columnLetters column, digits) := by
  obtain ⟨d, ds, rfl, hlow, hhigh⟩ := hdigits.exists_eq_cons hrow
  have hupper : d.isUpper = false := by
    rw [← Bool.not_eq_true, isUpper_iff]
    omega
  obtain ⟨htake, hdrop⟩ := @takeWhile_dropWhile Char.isUpper (columnLetters column)
    (d :: ds ++ ending) (fun c hc => isUpper_of_mem_columnLetters hc) (by simpa using hupper)
  have hline : ∀ c ∈ d :: ds, c ≠ '\n' := by
    rintro c hc rfl
    exact absurd (hdigits.isSome_of_mem hc) (by decide)
  have hds : ds.all (digitValue? · |>.isSome) = true :=
    List.all_eq_true.2 fun c hc => hdigits.isSome_of_mem (List.mem_cons_of_mem d hc)
  have hfirst : '1' ≤ d ∧ d ≤ '9' := ⟨hlow, hhigh⟩
  rw [List.append_assoc, nameParts?, htake, hdrop, withoutLineFeed_append hline hending]
  simp [columnLetters_ne_nil, hfirst.1, hfirst.2, hds]

/-- A text with letters and digits names a cell. -/
theorem exists_of_nameParts? {cs letters digits : List Char}
    (h : nameParts? cs = some (letters, digits)) :
    ∃ row column ending, 0 < row ∧ letters = columnLetters column ∧ Writes digits row ∧
      (ending = [] ∨ ending = ['\n']) ∧ cs = letters ++ digits ++ ending := by
  obtain ⟨ending, hrest, hending⟩ := exists_eq_withoutLineFeed_append (cs.dropWhile Char.isUpper)
  rw [nameParts?] at h
  split at h
  case h_1 => cases h
  case h_2 d ds hdigits =>
    split at h
    case isFalse => cases h
    case isTrue hcheck =>
      simp only [Bool.and_eq_true, decide_eq_true_eq, List.all_eq_true, Bool.not_eq_true',
        List.isEmpty_eq_false_iff] at hcheck
      obtain ⟨⟨⟨hne, hlow⟩, hhigh⟩, hds⟩ := hcheck
      cases h
      obtain ⟨row, hrow, hwrites⟩ := exists_writes hlow hhigh hds
      obtain ⟨column, hcolumn⟩ := exists_columnLetters hne fun c hc =>
        List.mem_takeWhile_imp hc
      refine ⟨row, column, ending, hrow, hcolumn.symm, hwrites, hending, ?_⟩
      rw [List.append_assoc, ← hdigits, ← hrest, List.takeWhile_append_dropWhile]

/-! ### Names -/

/-- The text names the cell in the row and the column: the label of the column, digits that write
the row, and possibly a line feed. -/
def Names (cs : List Char) (row column : Nat) : Prop :=
  0 < row ∧ ∃ digits ending, Writes digits row ∧ (ending = [] ∨ ending = ['\n']) ∧
    cs = columnLetters column ++ digits ++ ending

theorem isUpper_or_isDigit_of_mem_cellId {row column : Nat} {c : Char}
    (hc : c ∈ (cellId row column).toList) : c.isUpper = true ∨ c.isDigit = true := by
  rw [cellId, String.toList_ofList] at hc
  rcases List.mem_append.1 hc with hc | hc
  · exact .inl (isUpper_of_mem_columnLetters hc)
  · exact .inr (isDigit_of_mem_toDigits hc)

theorem names_cellId {row : Nat} (column : Nat) (hrow : 0 < row) :
    Names (cellId row column).toList row column :=
  ⟨hrow, Nat.toDigits 10 row, [], .toDigits row, .inl rfl, by simp [cellId]⟩

/-- Exactly the texts that name a cell are recognised. -/
theorem isCellId_iff {text : String} :
    isCellId text = true ↔ ∃ row column, Names text.toList row column := by
  rw [isCellId, Option.isSome_iff_exists]
  constructor
  · rintro ⟨⟨letters, digits⟩, h⟩
    obtain ⟨row, column, ending, hrow, rfl, hdigits, hending, hcs⟩ := exists_of_nameParts? h
    exact ⟨row, column, hrow, digits, ending, hdigits, hending, hcs⟩
  · rintro ⟨row, column, hrow, digits, ending, hdigits, hending, hcs⟩
    exact ⟨_, by rw [hcs]; exact nameParts?_of_writes column hrow hdigits hending⟩

/-- A text is read as the cell that it names, if the digits of the row are few. -/
theorem splitCellId_eq_ok_iff {id : String} {row : Nat} {column : Int} :
    splitCellId id = .ok (row, column) ↔ ∃ index : Nat, column = index ∧
      (Nat.toDigits 10 row).length ≤ digitLimit ∧ Names (upper id).toList row index := by
  constructor
  · intro h
    rw [splitCellId] at h
    split at h
    case h_1 => cases h
    case h_2 letters digits hparts =>
      obtain ⟨row', index, ending, hrow, rfl, hdigits, hending, hcs⟩ := exists_of_nameParts? hparts
      rw [hdigits.length_eq, hdigits.decimalValue_eq, columnNumber_columnLetters] at h
      split at h
      case isFalse => cases h
      case isTrue hlimit =>
        cases h
        exact ⟨index, rfl, hlimit, hrow, digits, ending, hdigits, hending, hcs⟩
  · rintro ⟨index, rfl, hlimit, hrow, digits, ending, hdigits, hending, hcs⟩
    rw [splitCellId, hcs, nameParts?_of_writes index hrow hdigits hending]
    show (if digits.length ≤ digitLimit then _ else _) = _
    rw [hdigits.length_eq, if_pos hlimit, hdigits.decimalValue_eq, columnNumber_columnLetters]

theorem makeCellId_eq_ok_iff {row column : Int} {id : CellId} :
    makeCellId row column = .ok id ↔ ∃ r c : Nat, row = r ∧ column = c ∧ 0 < r ∧
      (Nat.toDigits 10 r).length ≤ digitLimit ∧ id = cellId r c := by
  constructor
  · intro h
    rw [makeCellId] at h
    split_ifs at h with hrow hcolumn hlimit
    cases h
    exact ⟨row.toNat, column.toNat, by omega, by omega, by omega, hlimit, rfl⟩
  · rintro ⟨r, c, rfl, rfl, hrow, hlimit, rfl⟩
    exact makeCellId_eq_ok hrow hlimit

/-! ### Plain texts -/

/-- Whether the decimal digits of a text are ASCII digits and it does not end in a line feed. -/
def Plain (cs : List Char) : Prop :=
  (∀ c ∈ cs, (digitValue? c).isSome = true → c.isDigit = true) ∧ cs.getLast? ≠ some '\n'

theorem plain_cellId (row column : Nat) : Plain (cellId row column).toList := by
  constructor
  · intro c hc hvalue
    rcases isUpper_or_isDigit_of_mem_cellId hc with hupper | hdigit
    · have hrange := isUpper_iff.1 hupper
      exact isDigit_of_digitValue? (by omega) hvalue
    · exact hdigit
  · intro hlast
    exact absurd (isUpper_or_isDigit_of_mem_cellId (List.mem_of_getLast? hlast)) (by decide)

/-- A plain text names no cell but the one whose name it is. -/
theorem Names.eq_cellId {cs : List Char} {row column : Nat} (h : Names cs row column)
    (hplain : Plain cs) : cs = (cellId row column).toList := by
  obtain ⟨-, digits, ending, hdigits, rfl | rfl, rfl⟩ := h
  · have hall : ∀ d ∈ digits, d.isDigit = true := fun d hd =>
      hplain.1 d (by simp [hd]) (hdigits.isSome_of_mem hd)
    rw [hdigits.eq_toDigits hall, List.append_nil, cellId, String.toList_ofList]
  · exact absurd (by simp) hplain.2

/-! ### Reading back -/

/-- A cell is read back from its name in either case. -/
theorem splitCellId_of_toUpper {name : String} {row column : Nat} (hrow : 0 < row)
    (hdigits : (Nat.toDigits 10 row).length ≤ digitLimit)
    (hname : name.toUpper = cellId row column) :
    splitCellId name = .ok (row, (column : Int)) := by
  refine splitCellId_eq_ok_iff.2 ⟨column, rfl, hdigits, ?_⟩
  have hascii : ∀ c ∈ name.toUpper.toList, c.toNat < 0x80 := by
    intro c hc
    rw [hname] at hc
    rcases isUpper_or_isDigit_of_mem_cellId hc with hupper | hdigit
    · have := isUpper_iff.1 hupper
      omega
    · have := isDigit_iff.1 hdigit
      omega
  rw [upper_eq_toUpper hascii, hname]
  exact names_cellId column hrow

/-- Columns and their labels determine each other, and columns are in the order of their labels,
shorter labels first.  A cell is read back from its name in either case, so no name belongs to two
cells. -/
theorem names_readBack :
    (∀ index : Nat, ∃ label, columnLabel index = .ok label ∧ label ≠ "" ∧
      (∀ c ∈ label.toList, c.isUpper = true) ∧ columnIndex label = .ok (index : Int)) ∧
    (∀ label : String, label ≠ "" → (∀ c ∈ label.toList, c.isAlpha = true) →
      ∃ index : Nat, columnIndex label = .ok (index : Int) ∧
        columnLabel index = .ok (upper label)) ∧
    (∀ (m n : Nat) (a b : String), columnLabel m = .ok a → columnLabel n = .ok b →
      (m < n ↔ a.length < b.length ∨ a.length = b.length ∧ a < b)) ∧
    ∀ row column : Nat, 0 < row → (Nat.toDigits 10 row).length ≤ digitLimit →
      ∃ id, makeCellId row column = .ok id ∧ isCellId id = true ∧
        (∀ name : String, name.toUpper = id → splitCellId name = .ok (row, (column : Int))) ∧
        ∀ row' column' : Int, makeCellId row' column' = .ok id → row' = row ∧ column' = column := by
  refine ⟨fun index => ?_, fun label hne halpha => ?_, fun m n a b ha hb => ?_,
    fun row column hrow hdigits => ?_⟩
  case refine_1 =>
    refine ⟨_, columnLabel_natCast index, by simp [columnLetters_ne_nil], fun c hc => ?_,
      columnIndex_columnLetters index⟩
    rw [String.toList_ofList] at hc
    exact isUpper_of_mem_columnLetters hc
  case refine_2 =>
    obtain ⟨index, hindex, hletters⟩ := columnIndex_of_isAlpha hne halpha
    refine ⟨index, hindex, ?_⟩
    rw [columnLabel_natCast, hletters, String.ofList_toList]
  case refine_3 =>
    rw [columnLabel_natCast] at ha hb
    cases ha
    cases hb
    rw [← shortlex_columnLetters_iff, List.shortlex_def, String.length_ofList,
      String.length_ofList, String.lt_iff, String.toList_ofList, String.toList_ofList]
    rfl
  case refine_4 =>
    refine ⟨cellId row column, makeCellId_eq_ok hrow hdigits,
      isCellId_iff.2 ⟨row, column, names_cellId column hrow⟩,
      fun name hname => splitCellId_of_toUpper hrow hdigits hname, fun row' column' h => ?_⟩
    obtain ⟨r, c, rfl, rfl, -, -, hid⟩ := makeCellId_eq_ok_iff.1 h
    obtain ⟨rfl, rfl⟩ := cellId_inj.1 hid
    exact ⟨rfl, rfl⟩

theorem names_readBack_aZ52 :
    (columnLabel 25 = .ok "Z" ∧ columnLabel 51 = .ok "AZ" ∧
      (25 < 51 ↔ "Z".length < "AZ".length ∨ "Z".length = "AZ".length ∧ "Z" < "AZ")) ∧
    (∃ index : Nat, columnIndex "aZ" = .ok (index : Int) ∧ columnLabel index = .ok (upper "aZ")) ∧
    0 < 52 ∧ (Nat.toDigits 10 52).length ≤ digitLimit ∧ makeCellId 52 51 = .ok "AZ52" ∧
    "aZ52".toUpper = "AZ52" ∧ splitCellId "aZ52" = .ok (52, 51) := by
  have hz : columnLetters 25 = ['Z'] := by simp [columnLetters, bijectiveDigits, letter]
  have haz : columnLetters 51 = ['A', 'Z'] := by simp [columnLetters, bijectiveDigits, letter]
  have hlabelz : columnLabel 25 = .ok "Z" :=
    (columnLabel_natCast 25).trans (by rw [hz])
  have hlabelaz : columnLabel 51 = .ok "AZ" :=
    (columnLabel_natCast 51).trans (by rw [haz])
  have hid : makeCellId 52 51 = .ok "AZ52" :=
    (@makeCellId_eq_ok 52 51 (by decide) (by decide)).trans (by rw [cellId, haz]; rfl)
  have hupper : "aZ52".toUpper = "AZ52" :=
    String.toList_injective (by rw [String.toUpper, String.toList_map]; decide)
  obtain ⟨id, hmake, -, hread, -⟩ := names_readBack.2.2.2 52 51 (by decide) (by decide)
  have hname : id = "AZ52" := Except.ok.inj (hmake.symm.trans hid)
  exact ⟨⟨hlabelz, hlabelaz, names_readBack.2.2.1 25 51 "Z" "AZ" hlabelz hlabelaz⟩,
    names_readBack.2.1 "aZ" (by decide) (List.all_eq_true.1 (by decide)), by decide, by decide,
    hid, hupper, hread "aZ52" (hupper.trans hname.symm)⟩

/-! ### Recognition -/

/-- The cell that a text is read as has a name, which is the text in upper case if that is plain. -/
theorem makeCellId_of_splitCellId {text : String} {row : Nat} {column : Int}
    (h : splitCellId text = .ok (row, column)) :
    ∃ id, makeCellId row column = .ok id ∧ (id = upper text ↔ Plain (upper text).toList) := by
  obtain ⟨index, rfl, hdigits, hnames⟩ := splitCellId_eq_ok_iff.1 h
  refine ⟨cellId row index, makeCellId_eq_ok hnames.1 hdigits, ?_, fun hplain => ?_⟩
  · intro heq
    rw [← heq]
    exact plain_cellId row index
  · exact String.toList_injective (hnames.eq_cellId hplain).symm

/-- The recognised texts are those that name a cell.  The plain ones are the names themselves, and
these are written again from the row and the column that they are read as, so different plain texts
in upper case are read as different cells. -/
theorem isCellId_iff_names (text : String) :
    (isCellId text = true ↔ ∃ row column, Names text.toList row column) ∧
    (isCellId text = true ∧ Plain text.toList ↔ ∃ row column : Nat, 0 < row ∧
      text = cellId row column ∧
      ((Nat.toDigits 10 row).length ≤ digitLimit → makeCellId row column = .ok text)) ∧
    (∀ (row : Nat) (column : Int), splitCellId text = .ok (row, column) →
      ∃ id, makeCellId row column = .ok id ∧ (id = upper text ↔ Plain (upper text).toList)) ∧
    ∀ (other : String) (cell : Nat × Int), splitCellId text = .ok cell →
      splitCellId other = .ok cell → Plain (upper text).toList → Plain (upper other).toList →
        upper text = upper other := by
  refine ⟨isCellId_iff, ⟨?_, ?_⟩, fun row column h => makeCellId_of_splitCellId h, ?_⟩
  case refine_1 =>
    rintro ⟨htext, hplain⟩
    obtain ⟨row, column, hnames⟩ := isCellId_iff.1 htext
    have hid : text = cellId row column := String.toList_injective (hnames.eq_cellId hplain)
    refine ⟨row, column, hnames.1, hid, fun hdigits => ?_⟩
    rw [makeCellId_eq_ok hnames.1 hdigits, hid]
  case refine_2 =>
    rintro ⟨row, column, hrow, rfl, -⟩
    exact ⟨isCellId_iff.2 ⟨row, column, names_cellId column hrow⟩, plain_cellId row column⟩
  case refine_3 =>
    rintro other ⟨row, column⟩ htext hother hplain hplain'
    obtain ⟨id, hid, hiff⟩ := makeCellId_of_splitCellId htext
    obtain ⟨id', hid', hiff'⟩ := makeCellId_of_splitCellId hother
    rw [← hiff.2 hplain, ← hiff'.2 hplain', Except.ok.inj (hid.symm.trans hid')]

theorem isCellId_iff_names_b3 :
    (isCellId "B3" = true ∧ Plain "B3".toList ∧ ∃ row column, Names "B3".toList row column) ∧
    splitCellId "b3" = .ok (3, 1) ∧ splitCellId "B3" = .ok (3, 1) ∧ Plain (upper "b3").toList ∧
      upper "b3" = upper "B3" := by
  have hletter : digitValue? 'B' = none := by decide
  have hb3 : Plain "B3".toList := ⟨by simp [hletter], by decide⟩
  have hupper : upper "b3" = "B3" := rfl
  have hupper' : upper "B3" = "B3" := rfl
  have hplain : Plain (upper "b3").toList := by rwa [hupper]
  have hplain' : Plain (upper "B3").toList := by rwa [hupper']
  exact ⟨⟨by decide, hb3, (isCellId_iff_names "B3").1.1 (by decide)⟩, rfl, rfl, hplain,
    (isCellId_iff_names "b3").2.2.2 "B3" (3, 1) rfl rfl hplain hplain'⟩

/-- A name with a line feed behind it, or with a digit of another script, is recognised and read as
a cell, but it is not what is made from that cell, nor from any other one. -/
theorem isCellId_lineFeed :
    (isCellId "A1\n" = true ∧ ¬ ∃ row column, makeCellId row column = .ok "A1\n") ∧
    (splitCellId "A1\n" = .ok (1, 0) ∧ makeCellId 1 0 = .ok "A1") ∧
    isCellId "A1\u0663" = true ∧ splitCellId "A1\u0663" = .ok (13, 0) ∧
      makeCellId 13 0 = .ok "A13" := by
  have ha : columnLetters 0 = ['A'] := by simp [columnLetters, bijectiveDigits, letter]
  refine ⟨⟨by decide, ?_⟩, ⟨rfl, ?_⟩, by decide, rfl, ?_⟩
  · rintro ⟨row, column, h⟩
    obtain ⟨r, c, -, -, -, -, hid⟩ := makeCellId_eq_ok_iff.1 h
    have hplain := plain_cellId r c
    rw [← hid] at hplain
    exact absurd rfl hplain.2
  · exact (@makeCellId_eq_ok 1 0 (by decide) (by decide)).trans (by rw [cellId, ha]; rfl)
  · exact (@makeCellId_eq_ok 13 0 (by decide) (by decide)).trans (by rw [cellId, ha]; rfl)

end Worksheet.Address
