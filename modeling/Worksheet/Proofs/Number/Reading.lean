import Worksheet.Number.Shortest
import Worksheet.Proofs.Text.Digits

namespace Worksheet.Number

open Text

/-!
# Written numbers are read

* `Sign`, `Mantissa`, `Exponent`, `Literal.Spelled` — the grammar of written numbers,
  `[+-]? (D+ [. D*] | . D+) ([eE] [+-]? D+)?` with an ASCII digit `D`;
* `Literal.spelled_of_ofChars?`, `Literal.Spelled.ofChars?_eq` — a text without blanks has a literal
  exactly if the grammar has it, and the grammar has no text in two ways;
* `Literal.SpelledIn` — the same with blanks around the number;
* `read?_of_spelledIn`, `read?_eq_ok_none_iff` — what becomes of a text that is a number, and of
  another one;
* `read?_grammar` — the four outcomes, and that a whole number is read back.
-/

/-! ### Grammar -/

/-- How a sign is written, and whether it makes the number negative. -/
inductive Sign : Bool → List Char → Prop
  | none : Sign false []
  | plus : Sign false ['+']
  | minus : Sign true ['-']

/-- How the digits before the point and the digits after it are written.  One of the two groups has
a digit, and without a point there is no second group. -/
inductive Mantissa : List Char → Option (List Char) → List Char → Prop
  | whole {ds : List Char} : ds ≠ [] → (∀ d ∈ ds, d.isDigit = true) → Mantissa ds none ds
  | decimal {ds fs : List Char} : ds ≠ [] → (∀ d ∈ ds, d.isDigit = true) →
    (∀ d ∈ fs, d.isDigit = true) → Mantissa ds (some fs) (ds ++ '.' :: fs)
  | fraction {fs : List Char} : fs ≠ [] → (∀ d ∈ fs, d.isDigit = true) →
    Mantissa [] (some fs) ('.' :: fs)

/-- How an exponent is written, if there is one: its mark, its sign and its digits. -/
inductive Exponent : Option (Bool × List Char) → List Char → Prop
  | none : Exponent none []
  | some {mark : Char} {low : Bool} {sign ds : List Char} : mark = 'e' ∨ mark = 'E' →
    Sign low sign → ds ≠ [] → (∀ d ∈ ds, d.isDigit = true) →
    Exponent (some (low, ds)) (mark :: (sign ++ ds))

/-- The text writes the literal. -/
inductive Literal.Spelled (l : Literal) : List Char → Prop
  | intro {sign mantissa exponent : List Char} : Sign l.negative sign →
    Mantissa l.whole l.fraction mantissa → Exponent l.exponent exponent →
    Spelled l (sign ++ mantissa ++ exponent)

/-! ### Signs -/

/-- The sign of a text, and the text behind it. -/
theorem exists_sign (cs : List Char) :
    ∃ sign, Sign (splitSign cs).1 sign ∧ cs = sign ++ (splitSign cs).2 := by
  unfold splitSign
  split
  case h_1 => exact ⟨['-'], .minus, rfl⟩
  case h_2 => exact ⟨['+'], .plus, rfl⟩
  case h_3 => exact ⟨[], .none, rfl⟩

theorem splitSign_of_ne {cs : List Char} (h : ∀ c ∈ cs.head?, c ≠ '-' ∧ c ≠ '+') :
    splitSign cs = (false, cs) := by
  unfold splitSign
  split
  case h_1 => exact absurd rfl (h '-' rfl).1
  case h_2 => exact absurd rfl (h '+' rfl).2
  case h_3 => rfl

/-- A sign ends where a text without a sign begins. -/
theorem Sign.splitSign_append {negative : Bool} {sign rest : List Char} (h : Sign negative sign)
    (hrest : ∀ c ∈ rest.head?, c ≠ '-' ∧ c ≠ '+') :
    splitSign (sign ++ rest) = (negative, rest) := by
  cases h with
  | none => exact splitSign_of_ne hrest
  | plus => rfl
  | minus => rfl

theorem ne_sign_of_isDigit {c : Char} (h : c.isDigit = true) : c ≠ '-' ∧ c ≠ '+' := by
  constructor <;> rintro rfl <;> exact absurd h (by decide)

/-! ### Digits and point -/

/-- The digits of a text that has some, and the text behind them. -/
theorem exists_mantissa {cs rest : List Char} {fraction : Option (List Char)}
    (h : splitFraction (cs.dropWhile Char.isDigit) = (fraction, rest))
    (hdigit : cs.takeWhile Char.isDigit ≠ [] ∨ fraction.getD [] ≠ []) :
    ∃ mantissa, Mantissa (cs.takeWhile Char.isDigit) fraction mantissa ∧ cs = mantissa ++ rest := by
  have hsplit : cs.takeWhile Char.isDigit ++ cs.dropWhile Char.isDigit = cs :=
    List.takeWhile_append_dropWhile
  have hwhole : ∀ d ∈ cs.takeWhile Char.isDigit, d.isDigit = true :=
    fun d hd => List.mem_takeWhile_imp hd
  unfold splitFraction at h
  split at h
  case h_1 ds hds =>
    cases h
    have hfraction : ∀ d ∈ ds.takeWhile Char.isDigit, d.isDigit = true :=
      fun d hd => List.mem_takeWhile_imp hd
    have hcs : cs = cs.takeWhile Char.isDigit ++ '.' :: ds.takeWhile Char.isDigit
        ++ ds.dropWhile Char.isDigit := by
      rw [List.append_assoc, List.cons_append, List.takeWhile_append_dropWhile, ← hds, hsplit]
    refine ⟨_, ?_, hcs⟩
    by_cases hnil : cs.takeWhile Char.isDigit = []
    · rw [hnil] at hdigit ⊢
      exact .fraction (hdigit.resolve_left (absurd rfl)) hfraction
    · exact .decimal hnil hwhole hfraction
  case h_2 =>
    cases h
    exact ⟨_, .whole (hdigit.resolve_right (absurd rfl)) hwhole, hsplit.symm⟩

/-- The digits end where a text begins that has no digit and no point. -/
theorem Mantissa.split_append {whole mantissa rest : List Char} {fraction : Option (List Char)}
    (h : Mantissa whole fraction mantissa)
    (hrest : ∀ c ∈ rest.head?, c.isDigit = false ∧ c ≠ '.') :
    (mantissa ++ rest).takeWhile Char.isDigit = whole ∧
      splitFraction ((mantissa ++ rest).dropWhile Char.isDigit) = (fraction, rest) := by
  cases h with
  | whole _ hds =>
    obtain ⟨htake, hdrop⟩ := takeWhile_dropWhile hds fun c hc => (hrest c hc).1
    refine ⟨htake, ?_⟩
    rw [hdrop]
    unfold splitFraction
    split
    case h_1 => exact absurd rfl (hrest '.' rfl).2
    case h_2 => rfl
  | @decimal _ fs _ hds hfs =>
    have hpoint : ∀ c ∈ ('.' :: (fs ++ rest)).head?, c.isDigit = false :=
      forall_head?_cons (by decide)
    obtain ⟨htake, hdrop⟩ := takeWhile_dropWhile hds hpoint
    obtain ⟨htake', hdrop'⟩ := takeWhile_dropWhile hfs fun c hc => (hrest c hc).1
    rw [List.append_assoc, List.cons_append, htake, hdrop]
    exact ⟨rfl, by rw [splitFraction, htake', hdrop']⟩
  | @fraction fs _ hfs =>
    obtain ⟨htake, hdrop⟩ := takeWhile_dropWhile hfs fun c hc => (hrest c hc).1
    exact ⟨rfl, by
      show splitFraction ('.' :: (fs ++ rest)) = _
      rw [splitFraction, htake, hdrop]⟩

theorem Mantissa.not_isEmpty {whole mantissa : List Char} {fraction : Option (List Char)}
    (h : Mantissa whole fraction mantissa) :
    ¬ (whole.isEmpty && (fraction.getD []).isEmpty) = true := by
  cases h with
  | whole hne => simp [hne]
  | decimal hne => simp [hne]
  | fraction hne => simp [hne]

theorem Mantissa.head {whole mantissa : List Char} {fraction : Option (List Char)}
    (h : Mantissa whole fraction mantissa) (rest : List Char) :
    ∀ c ∈ (mantissa ++ rest).head?, c ≠ '-' ∧ c ≠ '+' := by
  have hsign : ∀ {ds : List Char}, (∀ d ∈ ds, d.isDigit = true) → ∀ d ∈ ds, d ≠ '-' ∧ d ≠ '+' :=
    fun hds d hd => ne_sign_of_isDigit (hds d hd)
  cases h with
  | whole hne hds => exact forall_head?_append hne (hsign hds)
  | decimal hne hds =>
    rw [List.append_assoc]
    exact forall_head?_append hne (hsign hds)
  | fraction => exact forall_head?_cons (by decide)

/-! ### Exponents -/

theorem Exponent.head {exponent : Option (Bool × List Char)} {cs : List Char}
    (h : Exponent exponent cs) : ∀ c ∈ cs.head?, c.isDigit = false ∧ c ≠ '.' := by
  cases h with
  | none => simp
  | some hmark => exact forall_head?_cons (by rcases hmark with rfl | rfl <;> decide)

/-! ### Visible characters -/

theorem Sign.isBlank_eq_false {negative : Bool} {cs : List Char} (h : Sign negative cs) {c : Char}
    (hc : c ∈ cs) : isBlank c = false := by
  cases h with
  | none => simp at hc
  | plus => rw [List.mem_singleton.1 hc]; decide
  | minus => rw [List.mem_singleton.1 hc]; decide

theorem Mantissa.isBlank_eq_false {whole mantissa : List Char} {fraction : Option (List Char)}
    (h : Mantissa whole fraction mantissa) {c : Char} (hc : c ∈ mantissa) : isBlank c = false := by
  have hpoint : isBlank '.' = false := by decide
  cases h with
  | whole _ hds => exact isBlank_of_isDigit (hds c hc)
  | decimal _ hds hfs =>
    rcases List.mem_append.1 hc with hc | hc
    · exact isBlank_of_isDigit (hds c hc)
    · rcases List.mem_cons.1 hc with rfl | hc
      · exact hpoint
      · exact isBlank_of_isDigit (hfs c hc)
  | fraction _ hfs =>
    rcases List.mem_cons.1 hc with rfl | hc
    · exact hpoint
    · exact isBlank_of_isDigit (hfs c hc)

theorem Exponent.isBlank_eq_false {exponent : Option (Bool × List Char)} {cs : List Char}
    (h : Exponent exponent cs) {c : Char} (hc : c ∈ cs) : isBlank c = false := by
  cases h with
  | none => simp at hc
  | some hmark hsign _ hds =>
    rcases List.mem_cons.1 hc with rfl | hc
    · rcases hmark with rfl | rfl <;> decide
    · rcases List.mem_append.1 hc with hc | hc
      · exact hsign.isBlank_eq_false hc
      · exact isBlank_of_isDigit (hds c hc)

/-! ### Literals -/

namespace Literal

variable {l : Literal} {cs : List Char}

/-- A text with a literal is one of the grammar. -/
theorem spelled_of_ofChars? (h : ofChars? cs = some l) : l.Spelled cs := by
  obtain ⟨sign, hsign, hcs⟩ := exists_sign cs
  rw [ofChars?] at h
  dsimp only at h
  generalize splitSign cs = signed at hsign hcs h
  obtain ⟨negative, rest⟩ := signed
  generalize hfraction : splitFraction (rest.dropWhile Char.isDigit) = point at h
  obtain ⟨fraction, tail⟩ := point
  split at h
  case isTrue => cases h
  case isFalse hempty =>
    have hdigit : rest.takeWhile Char.isDigit ≠ [] ∨ fraction.getD [] ≠ [] := by
      rw [Bool.and_eq_true, List.isEmpty_iff, List.isEmpty_iff] at hempty
      exact Classical.not_and_iff_not_or_not.1 hempty
    obtain ⟨mantissa, hmantissa, hrest⟩ := exists_mantissa hfraction hdigit
    rw [hcs]
    dsimp only at hrest h ⊢
    rw [hrest]
    split at h
    case h_1 =>
      cases h
      rw [← List.append_assoc]
      exact .intro hsign hmantissa .none
    case h_2 mark ds =>
      obtain ⟨sign', hsign', hds⟩ := exists_sign ds
      generalize splitSign ds = signed' at hsign' hds h
      obtain ⟨low, digits⟩ := signed'
      dsimp only at hds h
      split at h
      case isFalse => cases h
      case isTrue hcheck =>
        cases h
        simp only [Bool.and_eq_true, Bool.or_eq_true, beq_iff_eq, Bool.not_eq_true',
          List.isEmpty_eq_false_iff, List.all_eq_true] at hcheck
        obtain ⟨⟨hmark, hne⟩, hdigits⟩ := hcheck
        rw [hds, ← List.append_assoc]
        exact .intro hsign hmantissa (.some hmark hsign' hne hdigits)

/-- A text of the grammar has the literal that it writes. -/
theorem Spelled.ofChars?_eq (h : l.Spelled cs) : ofChars? cs = some l := by
  obtain ⟨negative, whole, fraction, exponent⟩ := l
  obtain ⟨hsign, hmantissa, hexponent⟩ := h
  obtain ⟨htake, hsplit⟩ := hmantissa.split_append hexponent.head
  rw [ofChars?, List.append_assoc, hsign.splitSign_append (hmantissa.head _)]
  dsimp only
  rw [htake, hsplit]
  dsimp only
  rw [if_neg hmantissa.not_isEmpty]
  cases hexponent with
  | none => rfl
  | @some mark low sign ds hmark hsign' hne hds =>
    have hhead : ∀ d ∈ ds.head?, d ≠ '-' ∧ d ≠ '+' :=
      fun d hd => ne_sign_of_isDigit (hds d (List.mem_of_head? hd))
    have hall : ds.all Char.isDigit = true := List.all_eq_true.2 hds
    dsimp only
    rw [hsign'.splitSign_append hhead]
    rcases hmark with rfl | rfl <;> simp [hall, hne]

/-- No character of a number is a blank. -/
theorem Spelled.isBlank_eq_false (h : l.Spelled cs) {c : Char} (hc : c ∈ cs) :
    isBlank c = false := by
  obtain ⟨hsign, hmantissa, hexponent⟩ := h
  rcases List.mem_append.1 hc with hc | hc
  · rcases List.mem_append.1 hc with hc | hc
    · exact hsign.isBlank_eq_false hc
    · exact hmantissa.isBlank_eq_false hc
  · exact hexponent.isBlank_eq_false hc

end Literal

/-! ### Blanks around a number -/

/-- The text writes the literal between blanks, which are the margin. -/
def Literal.SpelledIn (l : Literal) (text : String) (margin : List Char) : Prop :=
  ∃ before cs after, (∀ c ∈ before, isBlank c = true) ∧ (∀ c ∈ after, isBlank c = true) ∧
    l.Spelled cs ∧ text.toList = before ++ cs ++ after ∧ margin = before ++ after

theorem exists_spelledIn {text : String} {l : Literal}
    (h : Literal.ofChars? (trimBlanks text.toList) = some l) :
    ∃ margin, l.SpelledIn text margin := by
  obtain ⟨before, after, hbefore, hafter, htext⟩ := exists_eq_trimBlanks text.toList
  exact ⟨before ++ after, before, _, after, hbefore, hafter, Literal.spelled_of_ofChars? h, htext,
    rfl⟩

/-- A text that writes a number between blanks is read as that number, unless an information
separator is among the blanks. -/
theorem read?_of_spelledIn {text : String} {l : Literal} {margin : List Char}
    (h : l.SpelledIn text margin) :
    read? text = if margin.any isSeparator then .error ⟨text⟩ else .ok (some l.value) := by
  obtain ⟨before, cs, after, hbefore, hafter, hspelled, htext, rfl⟩ := h
  have hvisible : ∀ c ∈ cs, isBlank c = false := fun c hc => hspelled.isBlank_eq_false hc
  have hseparator : cs.any isSeparator = false := by
    rw [List.any_eq_false]
    intro c hc hsep
    exact absurd (isBlank_of_isSeparator hsep) (by simp [hvisible c hc])
  have hany : text.toList.any isSeparator = (before ++ after).any isSeparator := by
    rw [htext, List.any_append, List.any_append, hseparator, Bool.or_false, List.any_append]
  rw [read?, hany, htext, trimBlanks_append hbefore hvisible hafter, hspelled.ofChars?_eq]

theorem read?_eq_ok_none_iff {text : String} :
    read? text = .ok none ↔ ∀ l margin, ¬ Literal.SpelledIn l text margin := by
  constructor
  · intro h l margin hspelled
    rw [read?_of_spelledIn hspelled] at h
    split at h <;> cases h
  · intro h
    cases hchars : Literal.ofChars? (trimBlanks text.toList) with
    | none => rw [read?, hchars]
    | some l =>
      obtain ⟨margin, hspelled⟩ := exists_spelledIn hchars
      exact absurd hspelled (h l margin)

/-- Only a text that writes a number has another outcome. -/
theorem exists_spelledIn_of_ne {text : String} (h : read? text ≠ .ok none) :
    ∃ (l : Literal) (margin : List Char), l.SpelledIn text margin := by
  by_contra hnone
  exact h (read?_eq_ok_none_iff.2 fun l margin hspelled => hnone ⟨l, margin, hspelled⟩)

theorem read?_eq_error_iff {text : String} {u : Unreadable} :
    read? text = .error u ↔ u = ⟨text⟩ ∧ ∃ (l : Literal) (margin : List Char),
      l.SpelledIn text margin ∧ ∃ c ∈ margin, isSeparator c = true := by
  constructor
  · intro h
    have hne : read? text ≠ .ok none := by simp [h]
    obtain ⟨l, margin, hspelled⟩ := exists_spelledIn_of_ne hne
    rw [read?_of_spelledIn hspelled] at h
    split at h
    case isFalse => cases h
    case isTrue hany =>
      cases h
      exact ⟨rfl, l, margin, hspelled, List.any_eq_true.1 hany⟩
  · rintro ⟨rfl, l, margin, hspelled, hseparator⟩
    rw [read?_of_spelledIn hspelled, if_pos (List.any_eq_true.2 hseparator)]

theorem read?_eq_ok_some_iff {text : String} {n : Number} :
    read? text = .ok (some n) ↔ ∃ (l : Literal) (margin : List Char),
      l.SpelledIn text margin ∧ (∀ c ∈ margin, isSeparator c = false) ∧ n = l.value := by
  constructor
  · intro h
    have hne : read? text ≠ .ok none := by simp [h]
    obtain ⟨l, margin, hspelled⟩ := exists_spelledIn_of_ne hne
    rw [read?_of_spelledIn hspelled] at h
    split at h
    case isTrue => cases h
    case isFalse hany =>
      cases h
      refine ⟨l, margin, hspelled, ?_, rfl⟩
      simpa [List.any_eq_true] using hany
  · rintro ⟨l, margin, hspelled, hseparator, rfl⟩
    have hany : ¬ margin.any isSeparator = true := by simpa [List.any_eq_true] using hseparator
    rw [read?_of_spelledIn hspelled, if_neg hany]

/-! ### Whole numbers -/

/-- Whether the literal has neither a point nor an exponent, and few digits. -/
def Literal.Whole (l : Literal) : Prop :=
  l.fraction = none ∧ l.exponent = none ∧ l.whole.length ≤ digitLimit

/-- The whole number that the sign and the digits of the literal write. -/
def Literal.signed (l : Literal) : Int :=
  if l.negative then -(Nat.ofDigitChars 10 l.whole 0 : Int) else Nat.ofDigitChars 10 l.whole 0

theorem Literal.isWhole_iff {l : Literal} : l.isWhole = true ↔ l.Whole := by
  simp [isWhole, Whole, and_assoc]

theorem Mantissa.isDigit_of_mem_whole {whole mantissa : List Char} {fraction : Option (List Char)}
    (h : Mantissa whole fraction mantissa) {d : Char} (hd : d ∈ whole) : d.isDigit = true := by
  cases h with
  | whole _ hds => exact hds d hd
  | decimal _ hds _ => exact hds d hd
  | fraction => simp at hd

theorem Literal.SpelledIn.isDigit_of_mem_whole {l : Literal} {text : String} {margin : List Char}
    (h : l.SpelledIn text margin) {d : Char} (hd : d ∈ l.whole) : d.isDigit = true := by
  obtain ⟨-, -, -, -, -, ⟨-, hmantissa, -⟩, -, -⟩ := h
  exact hmantissa.isDigit_of_mem_whole hd

/-- A literal that is whole stands for a whole number, and another one for a double. -/
theorem Literal.SpelledIn.value_eq {l : Literal} {text : String} {margin : List Char}
    (h : l.SpelledIn text margin) :
    (l.Whole → l.value = .int l.signed) ∧ (¬ l.Whole → ∃ x, l.value = .float x) := by
  constructor
  · intro hwhole
    rw [value, if_pos (isWhole_iff.2 hwhole),
      decimalValue_eq_ofDigitChars fun d hd => h.isDigit_of_mem_whole hd]
    rfl
  · intro hwhole
    rw [value, if_neg (mt isWhole_iff.1 hwhole)]
    exact ⟨_, rfl⟩

/-- The literal of a whole number. -/
def Literal.ofInt (n : Int) : Literal where
  negative := n < 0
  whole := Nat.toDigits 10 n.natAbs
  fraction := none
  exponent := none

theorem Literal.signed_ofInt (n : Int) : (ofInt n).signed = n := by
  have hdigits : Nat.ofDigitChars 10 (Nat.toDigits 10 n.natAbs) 0 = n.natAbs :=
    Nat.ofDigitChars_toDigits (by omega) (by omega)
  rw [signed, ofInt, hdigits]
  simp only [decide_eq_true_eq]
  omega

/-- A whole number with few digits can be written, as a literal of its own. -/
theorem exists_intText? {n : Int} (h : (Nat.toDigits 10 n.natAbs).length ≤ digitLimit) :
    ∃ s, intText? n = some s ∧ (Literal.ofInt n).SpelledIn s [] := by
  have hmantissa : Mantissa (Nat.toDigits 10 n.natAbs) none (Nat.toDigits 10 n.natAbs) :=
    .whole Nat.toDigits_ne_nil fun d hd => isDigit_of_mem_toDigits hd
  have hspelled : (Literal.ofInt n).Spelled
      (if n < 0 then '-' :: Nat.toDigits 10 n.natAbs else Nat.toDigits 10 n.natAbs) := by
    split
    case isTrue hneg =>
      have hsign : Sign (Literal.ofInt n).negative ['-'] := by
        simp [Literal.ofInt, hneg, Sign.minus]
      simpa using Literal.Spelled.intro hsign hmantissa .none
    case isFalse hneg =>
      have hsign : Sign (Literal.ofInt n).negative [] := by simp [Literal.ofInt, hneg, Sign.none]
      simpa using Literal.Spelled.intro hsign hmantissa .none
  refine ⟨_, by rw [intText?]; exact if_pos h, [], _, [], by simp, by simp, hspelled, ?_, rfl⟩
  rw [String.toList_ofList, List.append_nil, List.nil_append]

/-! ### The outcomes -/

/-- A text that is no number between blanks is none, one with an information separator among the
blanks is unreadable, and of the others those with neither a point nor an exponent and with few
digits are whole numbers, with the value of their digits.  So whole numbers are read back. -/
theorem read?_grammar (text : String) :
    (read? text = .ok none ↔ ∀ l margin, ¬ Literal.SpelledIn l text margin) ∧
    (∀ u, read? text = .error u ↔ u = ⟨text⟩ ∧ ∃ (l : Literal) (margin : List Char),
      l.SpelledIn text margin ∧ ∃ c ∈ margin, isSeparator c = true) ∧
    (∀ n, read? text = .ok (some (.int n)) ↔ ∃ (l : Literal) (margin : List Char),
      l.SpelledIn text margin ∧ (∀ c ∈ margin, isSeparator c = false) ∧ l.Whole ∧ n = l.signed) ∧
    ((∃ x, read? text = .ok (some (.float x))) ↔ ∃ (l : Literal) (margin : List Char),
      l.SpelledIn text margin ∧ (∀ c ∈ margin, isSeparator c = false) ∧ ¬ l.Whole) ∧
    ∀ n : Int, (Nat.toDigits 10 n.natAbs).length ≤ digitLimit →
      ∃ s, intText? n = some s ∧ read? s = .ok (some (.int n)) := by
  refine ⟨read?_eq_ok_none_iff, fun u => read?_eq_error_iff, fun n => ⟨?_, ?_⟩, ⟨?_, ?_⟩,
    fun n hn => ?_⟩
  case refine_1 =>
    intro h
    obtain ⟨l, margin, hspelled, hseparator, hvalue⟩ := read?_eq_ok_some_iff.1 h
    by_cases hwhole : l.Whole
    · rw [hspelled.value_eq.1 hwhole] at hvalue
      cases hvalue
      exact ⟨l, margin, hspelled, hseparator, hwhole, rfl⟩
    · obtain ⟨x, hx⟩ := hspelled.value_eq.2 hwhole
      rw [hx] at hvalue
      cases hvalue
  case refine_2 =>
    rintro ⟨l, margin, hspelled, hseparator, hwhole, rfl⟩
    exact read?_eq_ok_some_iff.2
      ⟨l, margin, hspelled, hseparator, (hspelled.value_eq.1 hwhole).symm⟩
  case refine_3 =>
    rintro ⟨x, h⟩
    obtain ⟨l, margin, hspelled, hseparator, hvalue⟩ := read?_eq_ok_some_iff.1 h
    refine ⟨l, margin, hspelled, hseparator, fun hwhole => ?_⟩
    rw [hspelled.value_eq.1 hwhole] at hvalue
    cases hvalue
  case refine_4 =>
    rintro ⟨l, margin, hspelled, hseparator, hwhole⟩
    obtain ⟨x, hx⟩ := hspelled.value_eq.2 hwhole
    exact ⟨x, read?_eq_ok_some_iff.2 ⟨l, margin, hspelled, hseparator, hx.symm⟩⟩
  case refine_5 =>
    obtain ⟨s, hs, hspelled⟩ := exists_intText? hn
    refine ⟨s, hs, read?_eq_ok_some_iff.2 ⟨_, _, hspelled, by simp, ?_⟩⟩
    rw [hspelled.value_eq.1 ⟨rfl, rfl, hn⟩, Literal.signed_ofInt]

theorem read?_grammar_outcomes :
    (∀ l margin, ¬ Literal.SpelledIn l "1.2.3" margin) ∧
    (∃ (l : Literal) (margin : List Char), l.SpelledIn "\u001c5" margin ∧
      ∃ c ∈ margin, isSeparator c = true) ∧
    (∃ (l : Literal) (margin : List Char), l.SpelledIn " -012" margin ∧
      (∀ c ∈ margin, isSeparator c = false) ∧ l.Whole ∧ -12 = l.signed) ∧
    (∃ (l : Literal) (margin : List Char), l.SpelledIn "0." margin ∧
      (∀ c ∈ margin, isSeparator c = false) ∧ ¬ l.Whole) ∧
    (Nat.toDigits 10 (-12 : Int).natAbs).length ≤ digitLimit ∧
      ∃ s, intText? (-12) = some s ∧ read? s = .ok (some (.int (-12))) := by
  have hnone : read? "1.2.3" = .ok none := rfl
  have herror : read? "\u001c5" = .error ⟨"\u001c5"⟩ := rfl
  have hint : read? " -012" = .ok (some (.int (-12))) := rfl
  have hfloat : ∃ x, read? "0." = .ok (some (.float x)) := ⟨_, rfl⟩
  have hdigits : (Nat.toDigits 10 (-12 : Int).natAbs).length ≤ digitLimit := by decide
  exact ⟨(read?_grammar _).1.1 hnone, (((read?_grammar _).2.1 _).1 herror).2,
    ((read?_grammar _).2.2.1 _).1 hint, (read?_grammar _).2.2.2.1.1 hfloat, hdigits,
    (read?_grammar "").2.2.2.2 (-12) hdigits⟩

end Worksheet.Number
