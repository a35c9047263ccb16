import Worksheet.Proofs.Formula.Evaluation
import Worksheet.Proofs.Formula.Lexemes

namespace Worksheet.Formula

open Number (Operation)
open Text

/-!
# Written formulas

* `Numeral` — the texts that write a number;
* `Written` — the texts that write a tree, in either case, with blanks between any two tokens and
  with parentheses around any part;
* `Scans`, `Written.scans` — the scanner finds the tokens of the tree in such a text;
* `evaluate_written` — such a text after `=` has the value of the tree.
-/

/-! ### Texts -/

/-- The texts that write a number: digits with an optional point and more digits, or a point and
digits. -/
inductive Numeral : List Char → Prop
  | whole {ds : List Char} : ds ≠ [] → (∀ d ∈ ds, d.isDigit = true) → Numeral ds
  | decimal {ds fs : List Char} : ds ≠ [] → (∀ d ∈ ds, d.isDigit = true) →
    (∀ d ∈ fs, d.isDigit = true) → Numeral (ds ++ '.' :: fs)
  | fraction {fs : List Char} : fs ≠ [] → (∀ d ∈ fs, d.isDigit = true) → Numeral ('.' :: fs)

/-- The text writes the tree at a level of the grammar. -/
inductive Written : Level → Expr → List Char → Prop
  | number {cs : List Char} : Numeral cs → Written .factor (.number (String.ofList cs)) cs
  | reference {letters digits : List Char} : letters ≠ [] → (∀ c ∈ letters, c.isAlpha = true) →
    digits ≠ [] → (∀ d ∈ digits, d.isDigit = true) →
    Written .factor (.reference (String.ofList (letters.map Char.toUpper ++ digits)))
      (letters ++ digits)
  | parentheses {e : Expr} {cs : List Char} : Written .expr e cs →
    Written .factor e ('(' :: cs ++ [')'])
  | loosen {ℓ : Level} {e : Expr} {cs : List Char} : Written ℓ.tighter e cs → Written ℓ e cs
  | binary {op : Operation} {l r : Expr} {ls rs : List Char} : Written (level op) l ls →
    Written (level op).tighter r rs →
    Written (level op) (.binary op l r) (ls ++ op.symbol.toList ++ rs)
  | spaced {ℓ : Level} {e : Expr} {cs before after : List Char} :
    (∀ c ∈ before, isBlank c = true) → (∀ c ∈ after, isBlank c = true) → Written ℓ e cs →
    Written ℓ e (before ++ cs ++ after)

/-! ### Scanning -/

/-- Whether no number or reference goes on into the text. -/
def Stops (rest : List Char) : Prop :=
  ∀ c ∈ rest.head?, c.isDigit = false ∧ c ≠ '.' ∧ c.isUpper = false

theorem stops_cons {c : Char} (cs : List Char)
    (h : c.isDigit = false ∧ c ≠ '.' ∧ c.isUpper = false) : Stops (c :: cs) :=
  forall_head?_cons h

theorem Stops.append_blanks {bs rest : List Char} (hbs : ∀ b ∈ bs, isBlank b = true)
    (hrest : Stops rest) : Stops (bs ++ rest) := by
  cases bs with
  | nil => exact hrest
  | cons b bs =>
    have hb : isBlank b = true := hbs b List.mem_cons_self
    refine stops_cons _ ⟨?_, ?_, ?_⟩
    · rw [← Bool.not_eq_true]
      intro h
      rw [isBlank_of_isDigit h] at hb
      exact Bool.false_ne_true hb
    · rintro rfl
      exact absurd hb (by decide)
    · rw [← Bool.not_eq_true]
      intro h
      rw [isBlank_of_isUpper h] at hb
      exact Bool.false_ne_true hb

theorem scan_blanks {bs : List Char} (h : ∀ b ∈ bs, isBlank b = true) (position : Nat)
    (rest : List Char) : scan position (bs ++ rest) = scan (position + bs.length) rest := by
  induction bs generalizing position with
  | nil => rfl
  | cons b bs ih =>
    rw [List.cons_append, scan, if_pos (h b List.mem_cons_self),
      ih fun c hc => h c (List.mem_cons_of_mem b hc), List.length_cons]
    congr 1
    omega

theorem Numeral.form {cs : List Char} (h : Numeral cs) : Form .number cs := by
  cases h with
  | whole hne hds => exact .whole hne hds
  | decimal _ hds hfs => exact .decimal hds hfs
  | fraction _ hfs => exact @Form.decimal [] _ (by simp) hfs

/-- A numeral is one token. -/
theorem scan_numeral {cs rest : List Char} (h : Numeral cs) (hrest : Stops rest) (position : Nat) :
    ∃ next, scan position (cs ++ rest)
      = ⟨.number, String.ofList cs, position⟩ :: scan next rest := by
  have hnext : ∀ c ∈ rest.head?, ¬ Form .number (cs ++ [c]) := by
    intro c hc hform
    obtain ⟨hdigit, hpoint, -⟩ := hrest c hc
    rcases hform.digit_or_point c (by simp) with h | h
    · rw [hdigit] at h
      exact Bool.false_ne_true h
    · exact hpoint h
  exact ⟨_, scan_lexeme (@Lexeme.number [] rest cs h.form hnext) position⟩

theorem check_numeral {cs : List Char} (h : Numeral cs) (position : Int) :
    (⟨.number, String.ofList cs, position⟩ : Token).check
      = .ok ⟨.number, String.ofList cs, position⟩ := by
  -- the check refuses a number token without a digit, and nothing else
  have hne : String.ofList cs ≠ "." := by
    intro heq
    have hcs : cs = ['.'] := by rw [← String.toList_ofList (l := cs), heq]; rfl
    cases h with
    | whole _ hds =>
      rw [hcs] at hds
      exact absurd (hds '.' (by simp)) (by decide)
    | decimal hds => exact hds (by simpa [List.append_eq_singleton_iff] using hcs : _ ∧ _).1
    | fraction hfs => exact hfs (by simpa using hcs)
  simp [Token.check, hne]

/-- Letters and digits are one token. -/
theorem scan_reference {letters digits rest : List Char} (hletters : letters ≠ [])
    (hupper : ∀ c ∈ letters, c.isUpper = true) (hdigits : digits ≠ [])
    (hdigit : ∀ d ∈ digits, d.isDigit = true) (hrest : Stops rest) (position : Nat) :
    ∃ next, scan position (letters ++ digits ++ rest)
      = ⟨.reference, String.ofList (letters ++ digits), position⟩ :: scan next rest := by
  -- the letters end where the digits begin
  have hnone : ∀ d ∈ (digits ++ rest).head?, d.isUpper = false :=
    forall_head?_append hdigits fun d hd => isUpper_eq_false_of_isDigit (hdigit d hd)
  have hleft : ∀ c ∈ ([] ++ letters).getLast?, c.isDigit = false := fun c hc =>
    isDigit_eq_false_of_isUpper (hupper c (List.mem_of_getLast? hc))
  have hlexeme : Lexeme [] rest .reference (letters ++ digits) :=
    .reference ⟨hletters, hupper, by simp, hnone⟩
      ⟨hdigits, hdigit, hleft, fun d hd => (hrest d hd).1⟩
  exact ⟨_, scan_lexeme hlexeme position⟩

/-- An operator or a parenthesis is one token. -/
theorem scan_symbol {kind : Kind} {c : Char} {rest : List Char} (h : Lexeme [] rest kind [c])
    (position : Nat) :
    scan position (c :: rest) = ⟨kind, String.singleton c, position⟩ :: scan (position + 1) rest :=
  scan_lexeme h position

theorem upperOf_numeral {cs : List Char} (h : Numeral cs) : cs.flatMap upperOf = cs := by
  have hpoint : upperOf '.' = ['.'] := by decide
  have hdigits : ∀ {ds : List Char}, (∀ d ∈ ds, d.isDigit = true) → ds.flatMap upperOf = ds := by
    intro ds hds
    rw [flatMap_upperOf fun d hd => upperOf_of_isDigit (hds d hd), List.map_id']
  cases h with
  | whole _ hds => exact hdigits hds
  | decimal _ hds hfs =>
    rw [List.flatMap_append, List.flatMap_cons, hpoint, hdigits hds, hdigits hfs]
    rfl
  | fraction _ hfs =>
    rw [List.flatMap_cons, hpoint, hdigits hfs]
    rfl

/-- The operator of an operation is one character, and a token of its own. -/
theorem exists_symbol (op : Operation) :
    ∃ c, op.symbol.toList.flatMap upperOf = [c] ∧
      (c.isDigit = false ∧ c ≠ '.' ∧ c.isUpper = false) ∧
      ∀ rest position, scan position (c :: rest)
        = ⟨.operator, op.symbol, position⟩ :: scan (position + 1) rest := by
  cases op with
  | add => exact ⟨'+', by decide, by decide, fun rest => scan_symbol (.operator (by decide))⟩
  | sub => exact ⟨'-', by decide, by decide, fun rest => scan_symbol (.operator (by decide))⟩
  | mul => exact ⟨'*', by decide, by decide, fun rest => scan_symbol (.operator (by decide))⟩
  | div => exact ⟨'/', by decide, by decide, fun rest => scan_symbol (.operator (by decide))⟩

/-! ### Scanning a tree -/

/-- Whether the scanner finds tokens in the text that write the tree, without a fault, and goes on
behind them. -/
def Scans (ℓ : Level) (e : Expr) (cs : List Char) : Prop :=
  ∀ (rest : List Char) (position : Nat), Stops rest → ∃ ts next, Infix ℓ e ts ∧
    (∀ t ∈ ts, t.check = .ok t) ∧
    scan position (cs.flatMap upperOf ++ rest) = ts ++ scan next rest

theorem scans_number {cs : List Char} (h : Numeral cs) :
    Scans .factor (.number (String.ofList cs)) cs := by
  intro rest position hrest
  obtain ⟨next, hscan⟩ := scan_numeral h hrest position
  refine ⟨_, next, @Infix.number ⟨.number, String.ofList cs, position⟩ rfl, ?_, ?_⟩
  · simpa using check_numeral h position
  · rw [upperOf_numeral h, hscan]
    rfl

theorem scans_reference {letters digits : List Char} (hletters : letters ≠ [])
    (halpha : ∀ c ∈ letters, c.isAlpha = true) (hdigits : digits ≠ [])
    (hdigit : ∀ d ∈ digits, d.isDigit = true) :
    Scans .factor (.reference (String.ofList (letters.map Char.toUpper ++ digits)))
      (letters ++ digits) := by
  intro rest position hrest
  have hupper : ∀ c ∈ letters.map Char.toUpper, c.isUpper = true := by
    intro c hc
    obtain ⟨d, hd, rfl⟩ := List.mem_map.1 hc
    exact isUpper_toUpper (halpha d hd)
  obtain ⟨next, hscan⟩ :=
    scan_reference (by simpa using hletters) hupper hdigits hdigit hrest position
  refine ⟨_, next, @Infix.reference
    ⟨.reference, String.ofList (letters.map Char.toUpper ++ digits), position⟩ rfl, ?_, ?_⟩
  · simp [Token.check]
  · rw [List.flatMap_append, flatMap_upperOf fun c hc => upperOf_of_isAlpha (halpha c hc),
      flatMap_upperOf fun d hd => upperOf_of_isDigit (hdigit d hd), List.map_id', hscan]
    rfl

theorem Scans.parentheses {e : Expr} {cs : List Char} (h : Scans .expr e cs) :
    Scans .factor e ('(' :: cs ++ [')']) := by
  intro rest position _
  have hstops : Stops (')' :: rest) := stops_cons rest (by decide)
  obtain ⟨ts, next, hwrites, hcheck, hscan⟩ := h (')' :: rest) (position + 1) hstops
  refine ⟨⟨.opening, "(", position⟩ :: ts ++ [⟨.closing, ")", next⟩], next + 1,
    .parentheses rfl rfl hwrites, ?_, ?_⟩
  · intro t ht
    rcases List.mem_append.1 ht with ht | ht
    · rcases List.mem_cons.1 ht with rfl | ht
      · simp [Token.check]
      · exact hcheck t ht
    · rw [List.mem_singleton.1 ht]
      simp [Token.check]
  · have hup : ('(' :: cs ++ [')']).flatMap upperOf = '(' :: (cs.flatMap upperOf ++ [')']) := by
      simp [show upperOf '(' = ['('] by decide, show upperOf ')' = [')'] by decide]
    rw [hup, List.cons_append, scan_symbol .opening, List.append_assoc, List.singleton_append, hscan,
      scan_symbol .closing]
    simp

theorem Scans.binary {op : Operation} {l r : Expr} {ls rs : List Char}
    (hl : Scans (level op) l ls) (hr : Scans (level op).tighter r rs) :
    Scans (level op) (.binary op l r) (ls ++ op.symbol.toList ++ rs) := by
  intro rest position hrest
  obtain ⟨c, hsymbol, hstops, hc⟩ := exists_symbol op
  -- the left operand ends at the operator, which is one token, and the right one begins behind it
  obtain ⟨ts, next, hwrites, hcheck, hscan⟩ :=
    hl (c :: (rs.flatMap upperOf ++ rest)) position (stops_cons _ hstops)
  obtain ⟨ts', next', hwrites', hcheck', hscan'⟩ := hr rest (next + 1) hrest
  refine ⟨ts ++ ⟨.operator, op.symbol, next⟩ :: ts', next', .binary hwrites ⟨rfl, rfl⟩ hwrites',
    ?_, ?_⟩
  · intro t ht
    rcases List.mem_append.1 ht with ht | ht
    · exact hcheck t ht
    rcases List.mem_cons.1 ht with rfl | ht
    · simp [Token.check]
    · exact hcheck' t ht
  · rw [List.flatMap_append, List.flatMap_append, hsymbol]
    simp [hscan, hc, hscan']

theorem Scans.spaced {ℓ : Level} {e : Expr} {cs before after : List Char}
    (hbefore : ∀ c ∈ before, isBlank c = true) (hafter : ∀ c ∈ after, isBlank c = true)
    (h : Scans ℓ e cs) : Scans ℓ e (before ++ cs ++ after) := by
  intro rest position hrest
  obtain ⟨ts, next, hwrites, hcheck, hscan⟩ :=
    h (after ++ rest) (position + before.length) (hrest.append_blanks hafter)
  refine ⟨ts, next + after.length, hwrites, hcheck, ?_⟩
  rw [List.flatMap_append, List.flatMap_append,
    flatMap_upperOf fun c hc => upperOf_of_isBlank (hbefore c hc),
    flatMap_upperOf fun c hc => upperOf_of_isBlank (hafter c hc), List.map_id', List.map_id',
    List.append_assoc, List.append_assoc, scan_blanks hbefore, hscan, scan_blanks hafter]

/-- The tokens of a written tree write the tree. -/
theorem Written.scans {ℓ : Level} {e : Expr} {cs : List Char} (h : Written ℓ e cs) :
    Scans ℓ e cs := by
  induction h with
  | number h => exact scans_number h
  | reference hletters halpha hdigits hdigit =>
    exact scans_reference hletters halpha hdigits hdigit
  | parentheses _ ih => exact ih.parentheses
  | loosen _ ih =>
    intro rest position hrest
    obtain ⟨ts, next, hwrites, hcheck, hscan⟩ := ih rest position hrest
    exact ⟨ts, next, .loosen hwrites, hcheck, hscan⟩
  | binary _ _ ihl ihr => exact ihl.binary ihr
  | spaced hbefore hafter _ ih => exact ih.spaced hbefore hafter

/-! ### Values -/

/-- The tokens of a text that writes a tree write the tree. -/
theorem tokenize_written {e : Expr} {cs : List Char} (h : Written .expr e cs) :
    ∃ ts, tokenize cs = .ok ts ∧ Infix .expr e ts := by
  have hend : Stops [] := by
    intro c hc
    simp at hc
  obtain ⟨ts, next, hwrites, hcheck, hscan⟩ := Written.scans h [] 0 hend
  rw [List.append_nil, scan, List.append_nil] at hscan
  refine ⟨ts, ?_, hwrites⟩
  rw [tokenize, hscan, mapM_check hcheck]

/-- A formula that writes a tree has the value of the tree: the operands are evaluated from left to
right, and operators of equal precedence group to the left.  It asks for the same cells in the same
order, and where the tree has no value, the first failure is the same. -/
theorem evaluate_written (value : CellId → Value) {e : Expr} {cs : List Char}
    (h : Written .expr e cs) :
    evaluate value (String.ofList ('=' :: cs)) = Value.number <$> e.evaluate value := by
  obtain ⟨ts, hts, hwrites⟩ := tokenize_written h
  have hbody : body? (String.ofList ('=' :: cs)) = some cs := by
    rw [body?, String.toList_ofList]
    rfl
  exact Infix.evaluate_eq hbody hts hwrites

/-- The tree of `1- 2*(a1)-.5`, where the first difference is the left operand of the second. -/
def twoDifferences : Expr :=
  .binary .sub (.binary .sub (.number "1") (.binary .mul (.number "2") (.reference "A1")))
    (.number ".5")

theorem written_twoDifferences : Written .expr twoDifferences
    ['1', '-', ' ', '2', '*', '(', 'a', '1', ')', '-', '.', '5'] := by
  have hone : Written .factor (.number "1") ['1'] := .number (.whole (by simp) (by simp))
  have htwo : Written .factor (.number "2") ['2'] := .number (.whole (by simp) (by simp))
  have hcell : Written .factor (.reference "A1") ['a', '1'] :=
    @Written.reference ['a'] ['1'] (by simp) (by simp) (by simp) (by simp)
  have hhalf : Written .factor (.number ".5") ['.', '5'] :=
    .number (.fraction (by simp) (by simp))
  have hproduct : Written .term _ _ :=
    @Written.binary .mul _ _ _ _ (.loosen htwo) (.parentheses (.loosen (.loosen hcell)))
  have hblank : ∀ c ∈ [' '], isBlank c = true := by
    intro c hc
    rw [List.mem_singleton.1 hc]
    decide
  have hspaced : Written .term _ _ := @Written.spaced _ _ _ [' '] [] hblank (by simp) hproduct
  have hfirst : Written .expr _ _ :=
    @Written.binary .sub _ _ _ _ (.loosen (.loosen hone)) hspaced
  exact @Written.binary .sub _ _ _ _ hfirst (.loosen hhalf)

theorem evaluate_written_twoDifferences :
    Written .expr twoDifferences ['1', '-', ' ', '2', '*', '(', 'a', '1', ')', '-', '.', '5'] ∧
      evaluate (fun _ => .nothing) "=1- 2*(a1)-.5"
        = Value.number <$> twoDifferences.evaluate fun _ => .nothing :=
  ⟨written_twoDifferences, evaluate_written _ written_twoDifferences⟩

end Worksheet.Formula
