import Worksheet.Proofs.Formula.Tokens
import Worksheet.Proofs.Text.Characters

namespace Worksheet.Formula

open Text

/-!
# Lexemes

* `Form` — the texts that a token of a known kind can have;
* `Lexeme` — the texts that are one token where they stand, as they cannot be made longer there;
* `Lexeme.leading_eq`, `exists_lexeme` — the scanner takes a lexeme, and there is one wherever a
  text goes on behind another;
* `Token.StandsIn`, `Divides` — tokens that are lexemes of a text, stand apart in it and cover all
  of it but the blanks;
* `divides_blank_iff`, `divides_lexeme_iff` — what becomes of them behind a blank and behind a
  lexeme;
* `divides_iff_eq_scan` — the tokens of the scan are the only ones that do;
* `scan_divides_tokenize` — so a body has tokens unless one of them is unknown or a bare point.
-/

/-! ### Forms -/

/-- The texts that a token of a known kind can have, whatever is around it. -/
inductive Form : Kind → List Char → Prop
  | operator {c : Char} : c ∈ ['+', '-', '*', '/'] → Form .operator [c]
  | opening : Form .opening ['(']
  | closing : Form .closing [')']
  | whole {ds : List Char} : ds ≠ [] → (∀ d ∈ ds, d.isDigit = true) → Form .number ds
  | decimal {ds fs : List Char} : (∀ d ∈ ds, d.isDigit = true) → (∀ d ∈ fs, d.isDigit = true) →
    Form .number (ds ++ '.' :: fs)
  | reference {letters digits : List Char} : letters ≠ [] → (∀ c ∈ letters, c.isUpper = true) →
    digits ≠ [] → (∀ d ∈ digits, d.isDigit = true) → Form .reference (letters ++ digits)

theorem Form.digit_or_point {cs : List Char} (h : Form .number cs) :
    ∀ c ∈ cs, c.isDigit = true ∨ c = '.' := by
  intro c hc
  cases h with
  | whole _ hds => exact .inl (hds c hc)
  | decimal hds hfs =>
    rcases List.mem_append.1 hc with hc | hc
    · exact .inl (hds c hc)
    rcases List.mem_cons.1 hc with hc | hc
    · exact .inr hc
    · exact .inl (hfs c hc)

theorem count_point_eq_zero {ds : List Char} (h : ∀ d ∈ ds, d.isDigit = true) :
    ds.count '.' = 0 :=
  List.count_eq_zero.2 fun hpoint => absurd (h '.' hpoint) (by decide)

theorem Form.count_point_le {cs : List Char} (h : Form .number cs) : cs.count '.' ≤ 1 := by
  cases h with
  | whole _ hds => rw [count_point_eq_zero hds]; exact Nat.zero_le 1
  | decimal hds hfs =>
    rw [List.count_append, List.count_cons_self, count_point_eq_zero hds, count_point_eq_zero hfs]

/-- Digits go on with a digit or with a point. -/
theorem form_whole_snoc_iff {ds : List Char} {c : Char} (hds : ∀ d ∈ ds, d.isDigit = true) :
    Form .number (ds ++ [c]) ↔ c.isDigit = true ∨ c = '.' := by
  refine ⟨fun h => h.digit_or_point c (by simp), ?_⟩
  rintro (hc | rfl)
  · refine .whole (by simp) fun d hd => ?_
    rcases List.mem_append.1 hd with hd | hd
    · exact hds d hd
    · rwa [List.mem_singleton.1 hd]
  · exact .decimal hds (by simp)

/-- Digits behind a point go on with a digit. -/
theorem form_decimal_snoc_iff {ds fs : List Char} {c : Char} (hds : ∀ d ∈ ds, d.isDigit = true)
    (hfs : ∀ d ∈ fs, d.isDigit = true) :
    Form .number (ds ++ '.' :: fs ++ [c]) ↔ c.isDigit = true := by
  constructor
  case mp =>
    intro h
    refine (h.digit_or_point c (by simp)).resolve_right ?_
    rintro rfl
    have hcount := h.count_point_le
    rw [List.count_append, List.count_append, List.count_cons_self] at hcount
    simp at hcount
  case mpr =>
    intro hc
    rw [List.append_assoc, List.cons_append]
    refine .decimal hds fun d hd => ?_
    rcases List.mem_append.1 hd with hd | hd
    · exact hfs d hd
    · rwa [List.mem_singleton.1 hd]

/-! ### Lexemes -/

/-- A run of characters of one class that goes on neither before nor after it. -/
structure Run (p : Char → Bool) (before run after : List Char) : Prop where
  ne_nil : run ≠ []
  all : ∀ c ∈ run, p c = true
  left : ∀ c ∈ before.getLast?, p c = false
  right : ∀ c ∈ after.head?, p c = false

/-- The texts of a kind that are one token between two others. -/
inductive Lexeme (before after : List Char) : Kind → List Char → Prop
  | operator {c : Char} : c ∈ ['+', '-', '*', '/'] → Lexeme before after .operator [c]
  | opening : Lexeme before after .opening ['(']
  | closing : Lexeme before after .closing [')']
  /-- A number that the next character does not go on with. -/
  | number {cs : List Char} : Form .number cs → (∀ c ∈ after.head?, ¬ Form .number (cs ++ [c])) →
    Lexeme before after .number cs
  /-- All letters in a row, and all digits behind them. -/
  | reference {letters digits : List Char} :
    Run Char.isUpper before letters (digits ++ after) →
    Run Char.isDigit (before ++ letters) digits after →
    Lexeme before after .reference (letters ++ digits)
  /-- All letters in a row, with no digit behind them. -/
  | letters {run : List Char} : Run Char.isUpper before run after →
    (∀ c ∈ after.head?, c.isDigit = false) → Lexeme before after .unknown run
  /-- A character that no other token begins with. -/
  | stray {c : Char} : isBlank c = false → (∀ kind more, ¬ Form kind (c :: more)) →
    Lexeme before after .unknown [c]

variable {before after : List Char} {kind : Kind} {c : Char} {cs more : List Char}

theorem Lexeme.ne_nil (h : Lexeme before after kind cs) : cs ≠ [] := by
  cases h with
  | operator | opening | closing | stray => exact List.cons_ne_nil _ _
  | number h =>
    cases h with
    | whole hne => exact hne
    | decimal => simp
  | reference hletters => simp [hletters.ne_nil]
  | letters h => exact h.ne_nil

/-- There is no blank in a token. -/
theorem Lexeme.not_blank (h : Lexeme before after kind cs) : ∀ c ∈ cs, isBlank c = false := by
  intro c hc
  cases h with
  | operator hop =>
    rw [List.mem_singleton.1 hc]
    simp only [List.mem_cons, List.not_mem_nil, or_false] at hop
    rcases hop with rfl | rfl | rfl | rfl <;> decide
  | opening | closing =>
    rw [List.mem_singleton.1 hc]
    decide
  | number h =>
    rcases h.digit_or_point c hc with hc | rfl
    · exact isBlank_of_isDigit hc
    · decide
  | reference hletters hdigits =>
    rcases List.mem_append.1 hc with hc | hc
    · exact isBlank_of_isUpper (hletters.all c hc)
    · exact isBlank_of_isDigit (hdigits.all c hc)
  | letters h => exact isBlank_of_isUpper (h.all c hc)
  | stray hblank =>
    rw [List.mem_singleton.1 hc]
    exact hblank

/-- Whether no letters go on from one text into the other. -/
def Breaks (before after : List Char) : Prop :=
  ∀ b ∈ before.getLast?, ∀ a ∈ after.head?, ¬ (b.isUpper = true ∧ a.isUpper = true)

/-- The letters of a token do not go on behind it. -/
theorem Lexeme.breaks (h : Lexeme before after kind cs) : Breaks (before ++ cs) after := by
  rintro b hb a ha ⟨hb', ha'⟩
  have hlast : b ∈ cs.getLast? := by rwa [List.getLast?_append_of_ne_nil _ h.ne_nil] at hb
  have hmem : b ∈ cs := List.mem_of_getLast? hlast
  cases h with
  | operator hop =>
    rw [List.mem_singleton.1 hmem] at hb'
    simp only [List.mem_cons, List.not_mem_nil, or_false] at hop
    rcases hop with rfl | rfl | rfl | rfl <;> exact absurd hb' (by decide)
  | opening | closing =>
    rw [List.mem_singleton.1 hmem] at hb'
    exact absurd hb' (by decide)
  | number h =>
    rcases h.digit_or_point b hmem with hdigit | rfl
    · rw [isUpper_eq_false_of_isDigit hdigit] at hb'
      exact Bool.false_ne_true hb'
    · exact absurd hb' (by decide)
  | reference _ hdigits =>
    rw [List.getLast?_append_of_ne_nil _ hdigits.ne_nil] at hlast
    rw [isUpper_eq_false_of_isDigit (hdigits.all b (List.mem_of_getLast? hlast))] at hb'
    exact Bool.false_ne_true hb'
  | letters h =>
    rw [h.right a ha] at ha'
    exact Bool.false_ne_true ha'
  | stray _ hform =>
    rw [List.mem_singleton.1 hmem] at hb'
    exact hform .reference ['0']
      (@Form.reference [_] ['0'] (by simp) (by simpa using hb') (by simp) (by simp))

/-! ### The scanner takes lexemes -/

theorem leading_digit (h : c.isDigit = true) (cs : List Char) :
    leading c cs = (.number, numberTail cs) := by
  have hne : ∀ d : Char, d.isDigit = false → c ≠ d := by
    rintro d hd rfl
    rw [h] at hd
    exact Bool.false_ne_true hd.symm
  simp [leading, h, hne '+' (by decide), hne '-' (by decide), hne '*' (by decide),
    hne '/' (by decide), hne '(' (by decide), hne ')' (by decide)]

theorem leading_upper (h : c.isUpper = true) (cs : List Char) : leading c cs = letterTail cs := by
  have hne : ∀ d : Char, d.isUpper = false → c ≠ d := by
    rintro d hd rfl
    rw [h] at hd
    exact Bool.false_ne_true hd.symm
  have hdigit : c.isDigit = false := isDigit_eq_false_of_isUpper h
  simp [leading, h, hdigit, hne '+' (by decide), hne '-' (by decide), hne '*' (by decide),
    hne '/' (by decide), hne '(' (by decide), hne ')' (by decide), hne '.' (by decide)]

theorem numberTail_whole {ds rest : List Char} (hds : ∀ d ∈ ds, d.isDigit = true)
    (hrest : ∀ c ∈ rest.head?, c.isDigit = false ∧ c ≠ '.') : numberTail (ds ++ rest) = ds := by
  obtain ⟨htake, hdrop⟩ := takeWhile_dropWhile hds fun c hc => (hrest c hc).1
  rw [numberTail, htake, hdrop]
  split
  case h_1 fs => exact absurd rfl (hrest '.' rfl).2
  case h_2 => rw [List.append_nil]

theorem numberTail_decimal {ds fs rest : List Char} (hds : ∀ d ∈ ds, d.isDigit = true)
    (hfs : ∀ d ∈ fs, d.isDigit = true) (hrest : ∀ c ∈ rest.head?, c.isDigit = false) :
    numberTail (ds ++ '.' :: fs ++ rest) = ds ++ '.' :: fs := by
  have hpoint : ∀ c ∈ ('.' :: fs ++ rest).head?, c.isDigit = false :=
    forall_head?_cons (by decide)
  obtain ⟨htake, hdrop⟩ := takeWhile_dropWhile hds hpoint
  obtain ⟨htake', -⟩ := takeWhile_dropWhile hfs hrest
  rw [List.append_assoc, numberTail, htake, hdrop, List.cons_append]
  simp only [htake']

theorem leading_number_eq (hform : Form .number (c :: more))
    (hnext : ∀ d ∈ after.head?, ¬ Form .number (c :: more ++ [d])) :
    leading c (more ++ after) = (.number, more) := by
  generalize hcs : c :: more = cs at hform hnext
  cases hform with
  | whole _ hds =>
    subst hcs
    obtain ⟨hc, hmore⟩ := List.forall_mem_cons.1 hds
    have hrest : ∀ d ∈ after.head?, d.isDigit = false ∧ d ≠ '.' := by
      intro d hd
      have hnot := hnext d hd
      rw [form_whole_snoc_iff hds, not_or, Bool.not_eq_true] at hnot
      exact hnot
    rw [leading_digit hc, numberTail_whole hmore hrest]
  | @decimal ds fs hds hfs =>
    have hrest : ∀ d ∈ after.head?, d.isDigit = false := by
      intro d hd
      have hnot := hnext d hd
      rwa [form_decimal_snoc_iff hds hfs, Bool.not_eq_true] at hnot
    cases ds with
    | nil =>
      obtain ⟨rfl, rfl⟩ := List.cons.inj hcs
      obtain ⟨htake, -⟩ := takeWhile_dropWhile hfs hrest
      simp [leading, htake]
    | cons d ds =>
      rw [List.cons_append] at hcs
      obtain ⟨rfl, rfl⟩ := List.cons.inj hcs
      obtain ⟨hc, hmore⟩ := List.forall_mem_cons.1 hds
      rw [leading_digit hc, numberTail_decimal hmore hfs hrest]

/-- The first character of a lexeme leads all of it. -/
theorem Lexeme.leading_eq (h : Lexeme before after kind (c :: more)) :
    leading c (more ++ after) = (kind, more) := by
  generalize hcs : c :: more = cs at h
  cases h with
  | operator hop =>
    obtain ⟨rfl, rfl⟩ := List.cons.inj hcs
    rw [leading, if_pos (by simpa using hop)]
  | opening | closing =>
    obtain ⟨rfl, rfl⟩ := List.cons.inj hcs
    simp [leading]
  | number hform hnext =>
    subst hcs
    exact leading_number_eq hform hnext
  | @reference letters digits hletters hdigits =>
    obtain ⟨d, ds, rfl⟩ := List.exists_cons_of_ne_nil hletters.ne_nil
    rw [List.cons_append] at hcs
    obtain ⟨rfl, rfl⟩ := List.cons.inj hcs
    obtain ⟨hc, hds⟩ := List.forall_mem_cons.1 hletters.all
    obtain ⟨htake, hdrop⟩ := takeWhile_dropWhile hds hletters.right
    obtain ⟨htake', -⟩ := takeWhile_dropWhile hdigits.all hdigits.right
    rw [leading_upper hc, letterTail, List.append_assoc, htake, hdrop, htake',
      if_neg hdigits.ne_nil]
  | letters hrun hnext =>
    subst hcs
    obtain ⟨hc, hmore⟩ := List.forall_mem_cons.1 hrun.all
    obtain ⟨htake, hdrop⟩ := takeWhile_dropWhile hmore hrun.right
    obtain ⟨htake', -⟩ := @takeWhile_dropWhile Char.isDigit [] after (by simp) hnext
    rw [List.nil_append] at htake'
    rw [leading_upper hc, letterTail, htake, hdrop, htake', if_pos rfl]
  | stray _ hform =>
    obtain ⟨rfl, rfl⟩ := List.cons.inj hcs
    have hop : ¬ (c = '+' ∨ c = '-' ∨ c = '*' ∨ c = '/') :=
      fun h => hform .operator [] (.operator (by simpa using h))
    have hopening : c ≠ '(' := by
      rintro rfl
      exact hform .opening [] .opening
    have hclosing : c ≠ ')' := by
      rintro rfl
      exact hform .closing [] .closing
    have hdigit : ¬ c.isDigit = true :=
      fun h => hform .number [] (.whole (by simp) (by simpa using h))
    have hpoint : c ≠ '.' := by
      rintro rfl
      exact hform .number [] (@Form.decimal [] [] (by simp) (by simp))
    have hupper : ¬ c.isUpper = true := fun h =>
      hform .reference ['0'] (@Form.reference [c] ['0'] (by simp) (by simpa using h) (by simp)
        (by simp))
    rw [leading, if_neg hop, if_neg hopening, if_neg hclosing, if_neg hdigit, if_neg hpoint,
      if_neg hupper]

theorem scan_lexeme (h : Lexeme before after kind cs) (position : Nat) :
    scan position (cs ++ after)
      = ⟨kind, String.ofList cs, position⟩ :: scan (position + cs.length) after := by
  obtain ⟨c, more, rfl⟩ := List.exists_cons_of_ne_nil h.ne_nil
  have hblank : ¬ isBlank c = true := by simp [h.not_blank c List.mem_cons_self]
  rw [List.cons_append, scan, if_neg hblank]
  simp only [h.leading_eq, List.drop_left]
  rw [List.length_cons, Nat.add_assoc, Nat.add_comm 1]

/-! ### There is a lexeme -/

theorem exists_lexeme_of_isDigit (before cs : List Char) (hc : c.isDigit = true) :
    ∃ more after, cs = more ++ after ∧ Lexeme before after .number (c :: more) := by
  obtain ⟨ds, rest, rfl, hds, hrest⟩ := exists_run Char.isDigit cs
  have hall : ∀ d ∈ c :: ds, d.isDigit = true := List.forall_mem_cons.2 ⟨hc, hds⟩
  by_cases hpoint : ∃ cs, rest = '.' :: cs
  case pos =>
    obtain ⟨cs, rfl⟩ := hpoint
    obtain ⟨fs, rest, rfl, hfs, hrest⟩ := exists_run Char.isDigit cs
    refine ⟨ds ++ '.' :: fs, rest, by simp, .number (.decimal hall hfs) fun d hd => ?_⟩
    rw [← List.cons_append, form_decimal_snoc_iff hall hfs, hrest d hd]
    exact Bool.false_ne_true
  case neg =>
    refine ⟨ds, rest, rfl, .number (.whole (by simp) hall) fun d hd => ?_⟩
    rw [form_whole_snoc_iff hall, hrest d hd]
    rintro (h | rfl)
    · exact Bool.false_ne_true h
    · exact hpoint ⟨rest.tail, List.eq_cons_of_mem_head? hd⟩

theorem exists_lexeme_point (before cs : List Char) :
    ∃ more after, cs = more ++ after ∧ Lexeme before after .number ('.' :: more) := by
  obtain ⟨fs, rest, rfl, hfs, hrest⟩ := exists_run Char.isDigit cs
  refine ⟨fs, rest, rfl, .number (@Form.decimal [] fs (by simp) hfs) fun d hd => ?_⟩
  rw [← List.nil_append ('.' :: fs), form_decimal_snoc_iff (by simp) hfs, hrest d hd]
  exact Bool.false_ne_true

theorem exists_lexeme_of_isUpper (cs : List Char) (hc : c.isUpper = true)
    (hbreaks : Breaks before (c :: cs)) :
    ∃ kind more after, cs = more ++ after ∧ Lexeme before after kind (c :: more) := by
  obtain ⟨ls, rest, rfl, hls, hrest⟩ := exists_run Char.isUpper cs
  have hrun : Run Char.isUpper before (c :: ls) rest := by
    refine ⟨by simp, List.forall_mem_cons.2 ⟨hc, hls⟩, fun b hb => ?_, hrest⟩
    rw [← Bool.not_eq_true]
    exact fun h => hbreaks b hb c rfl ⟨h, hc⟩
  obtain ⟨ds, rest, rfl, hds, hnext⟩ := exists_run Char.isDigit rest
  by_cases hnil : ds = []
  case pos =>
    subst hnil
    exact ⟨.unknown, ls, rest, rfl, .letters hrun hnext⟩
  case neg =>
    have hleft : ∀ b ∈ (before ++ c :: ls).getLast?, b.isDigit = false := by
      intro b hb
      rw [List.getLast?_append_of_ne_nil _ (by simp)] at hb
      exact isDigit_eq_false_of_isUpper (hrun.all b (List.mem_of_getLast? hb))
    exact ⟨.reference, ls ++ ds, rest, by simp, .reference hrun ⟨hnil, hds, hleft, hnext⟩⟩

/-- A token that does not begin with a digit, a point or a letter is a single character. -/
theorem Form.lexeme (h : Form kind (c :: more)) (before after : List Char) :
    c.isDigit = true ∨ c = '.' ∨ c.isUpper = true ∨ Lexeme before after kind [c] := by
  generalize htext : c :: more = text at h
  cases h with
  | operator hop =>
    obtain ⟨rfl, rfl⟩ := List.cons.inj htext
    exact .inr (.inr (.inr (.operator hop)))
  | opening =>
    obtain ⟨rfl, rfl⟩ := List.cons.inj htext
    exact .inr (.inr (.inr .opening))
  | closing =>
    obtain ⟨rfl, rfl⟩ := List.cons.inj htext
    exact .inr (.inr (.inr .closing))
  | whole _ hds =>
    subst htext
    exact .inl (hds c List.mem_cons_self)
  | @decimal ds _ hds =>
    cases ds with
    | nil => exact .inr (.inl (List.cons.inj htext).1)
    | cons d ds =>
      rw [List.cons_append] at htext
      obtain ⟨rfl, -⟩ := List.cons.inj htext
      exact .inl (hds c List.mem_cons_self)
  | reference hne hletters =>
    obtain ⟨d, ds, rfl⟩ := List.exists_cons_of_ne_nil hne
    rw [List.cons_append] at htext
    obtain ⟨rfl, -⟩ := List.cons.inj htext
    exact .inr (.inr (.inl (hletters c List.mem_cons_self)))

/-- A text goes on with a lexeme wherever it goes on with anything but a blank, unless letters go on
there. -/
theorem exists_lexeme (cs : List Char) (hblank : isBlank c = false)
    (hbreaks : Breaks before (c :: cs)) :
    ∃ kind more after, cs = more ++ after ∧ Lexeme before after kind (c :: more) := by
  by_cases hdigit : c.isDigit = true
  case pos => exact ⟨.number, exists_lexeme_of_isDigit before cs hdigit⟩
  by_cases hpoint : c = '.'
  case pos => exact ⟨.number, hpoint ▸ exists_lexeme_point before cs⟩
  by_cases hupper : c.isUpper = true
  case pos => exact exists_lexeme_of_isUpper cs hupper hbreaks
  by_cases hform : ∃ kind more, Form kind (c :: more)
  case pos =>
    obtain ⟨kind, more, hform⟩ := hform
    have hlexeme : Lexeme before cs kind [c] := by
      simpa [hdigit, hpoint, hupper] using hform.lexeme before cs
    exact ⟨kind, [], cs, rfl, hlexeme⟩
  case neg =>
    exact ⟨.unknown, [], cs, rfl, .stray hblank fun kind more h => hform ⟨kind, more, h⟩⟩

/-! ### Tokens in a text -/

/-- The place behind the last character of the token. -/
def Token.stop (t : Token) : Int := t.position + t.text.length

/-- The token is a lexeme of the text, where its position says. -/
def Token.StandsIn (t : Token) (s : List Char) : Prop :=
  ∃ before after, s = before ++ t.text.toList ++ after ∧ t.position = before.length ∧
    Lexeme before after t.kind t.text.toList

variable {start stop : Nat} {s rest : List Char} {t : Token} {ts : List Token}

theorem Token.stop_ofList (kind : Kind) (cs : List Char) (position : Int) :
    (⟨kind, String.ofList cs, position⟩ : Token).stop = position + cs.length := by
  simp [Token.stop]

namespace Token.StandsIn

theorem ne_empty (h : t.StandsIn s) : t.text ≠ "" := by
  obtain ⟨before, after, -, -, hlexeme⟩ := h
  simpa using hlexeme.ne_nil

theorem position_lt_stop (h : t.StandsIn s) : t.position < t.stop := by
  have hne : t.text.length ≠ 0 := by simpa using h.ne_empty
  unfold Token.stop
  omega

theorem stop_le (h : t.StandsIn s) : t.stop ≤ s.length := by
  obtain ⟨before, after, hs, hposition, -⟩ := h
  rw [Token.stop, hposition, hs, ← String.length_toList]
  simp only [List.length_append]
  omega

theorem not_blank {i : Nat} (h : t.StandsIn s) (hc : s[i]? = some c) (hlow : t.position ≤ i)
    (hhigh : i < t.stop) : isBlank c = false := by
  obtain ⟨before, after, rfl, hposition, hlexeme⟩ := h
  rw [Token.stop, hposition, ← String.length_toList] at hhigh
  rw [List.append_assoc, List.getElem?_append_right (by omega),
    List.getElem?_append_left (by omega)] at hc
  exact hlexeme.not_blank c (List.mem_of_getElem? hc)

/-- Where two tokens begin at one place, they are the same. -/
theorem eq_of_lexeme (h : t.StandsIn (before ++ cs ++ after)) (hcs : Lexeme before after kind cs)
    (hposition : t.position = before.length) : t = ⟨kind, String.ofList cs, before.length⟩ := by
  obtain ⟨before', after', hs, hposition', hlexeme⟩ := h
  have hlength : before.length = before'.length := by omega
  rw [List.append_assoc, List.append_assoc] at hs
  obtain ⟨rfl, happend⟩ := List.append_inj hs hlength
  obtain ⟨c, more, rfl⟩ := List.exists_cons_of_ne_nil hcs.ne_nil
  obtain ⟨c', more', htext⟩ := List.exists_cons_of_ne_nil hlexeme.ne_nil
  rw [htext] at happend hlexeme
  rw [List.cons_append, List.cons_append] at happend
  obtain ⟨rfl, hmore⟩ := List.cons.inj happend
  -- one character leads both
  have hleading := hcs.leading_eq
  rw [hmore, hlexeme.leading_eq] at hleading
  obtain ⟨rfl, rfl⟩ := Prod.mk.inj hleading
  rw [← htext, String.ofList_toList, ← hposition]

end Token.StandsIn

/-! ### Tokens that divide a text -/

/-- The tokens stand in the text, one behind the other from `start` on, and together they cover all
of it but the blanks. -/
structure Divides (start : Nat) (s : List Char) (ts : List Token) : Prop where
  ne_empty : ∀ t ∈ ts, t.text ≠ ""
  standsIn : ∀ t ∈ ts, t.StandsIn s
  start_le : ∀ t ∈ ts, start ≤ t.position
  apart : ts.Pairwise fun t u => t.position < u.position ∧ t.stop ≤ u.position
  covers : ∀ (i : Nat) (c : Char), start ≤ i → s[i]? = some c →
    (isBlank c = false ↔ ∃ t ∈ ts, t.position ≤ i ∧ i < t.stop)

/-- There are no tokens behind the end of a text. -/
theorem divides_length_iff : Divides s.length s ts ↔ ts = [] := by
  constructor
  case mp =>
    intro h
    rw [List.eq_nil_iff_forall_not_mem]
    intro t ht
    have hstart := h.start_le t ht
    have hlt := (h.standsIn t ht).position_lt_stop
    have hle := (h.standsIn t ht).stop_le
    omega
  case mpr =>
    rintro rfl
    refine ⟨by simp, by simp, by simp, .nil, fun i c hi hc => ?_⟩
    rw [List.getElem?_eq_none hi] at hc
    cases hc

/-- No token begins with a blank. -/
theorem divides_blank_iff (hget : s[start]? = some c) (hc : isBlank c = true) :
    Divides start s ts ↔ Divides (start + 1) s ts := by
  constructor
  case mp =>
    intro h
    refine ⟨h.ne_empty, h.standsIn, fun t ht => ?_, h.apart, fun i d hi => h.covers i d (by omega)⟩
    have hne : t.position ≠ start := by
      intro heq
      have hlt := (h.standsIn t ht).position_lt_stop
      have hblank := (h.standsIn t ht).not_blank hget (by omega) (by omega)
      rw [hc] at hblank
      exact Bool.false_ne_true hblank.symm
    have hstart := h.start_le t ht
    omega
  case mpr =>
    intro h
    refine ⟨h.ne_empty, h.standsIn, fun t ht => ?_, h.apart, fun i d hi hd => ?_⟩
    · have hstart := h.start_le t ht
      omega
    rcases hi.eq_or_lt with rfl | hi
    · obtain rfl : c = d := by simpa [hget] using hd
      refine iff_of_false (by simp [hc]) ?_
      rintro ⟨t, ht, hposition, -⟩
      have hstart := h.start_le t ht
      omega
    · exact h.covers i d hi hd

/-- A token covers nothing behind it. -/
theorem exists_mem_cons_covers_iff {i : Nat} (hstop : t.stop ≤ i) :
    (∃ u ∈ t :: ts, u.position ≤ i ∧ i < u.stop) ↔ ∃ u ∈ ts, u.position ≤ i ∧ i < u.stop := by
  rw [List.exists_mem_cons_iff, or_iff_right]
  rintro ⟨-, hlt⟩
  omega

theorem Divides.tail (h : Divides start s (t :: ts)) (hstop : t.stop = stop) :
    Divides stop s ts := by
  obtain ⟨hfirst, hapart⟩ := List.pairwise_cons.1 h.apart
  obtain ⟨-, hne⟩ := List.forall_mem_cons.1 h.ne_empty
  obtain ⟨hstands, hstandsIn⟩ := List.forall_mem_cons.1 h.standsIn
  refine ⟨hne, hstandsIn, fun u hu => hstop ▸ (hfirst u hu).2, hapart, fun i c hi hc => ?_⟩
  have hstart := h.start_le t List.mem_cons_self
  have hlt := hstands.position_lt_stop
  rw [h.covers i c (by omega) hc, exists_mem_cons_covers_iff (by omega)]

theorem Divides.cons (h : Divides stop s ts) (ht : t.StandsIn s) (hposition : t.position = start)
    (hstop : t.stop = stop) : Divides start s (t :: ts) := by
  have hlt := ht.position_lt_stop
  refine ⟨List.forall_mem_cons.2 ⟨ht.ne_empty, h.ne_empty⟩,
    List.forall_mem_cons.2 ⟨ht, h.standsIn⟩, List.forall_mem_cons.2 ⟨by omega, fun u hu => ?_⟩,
    List.pairwise_cons.2 ⟨fun u hu => ?_, h.apart⟩, fun i c hi hc => ?_⟩
  · have hstart := h.start_le u hu
    omega
  · have hstart := h.start_le u hu
    omega
  by_cases hin : i < t.stop
  case pos =>
    exact iff_of_true (ht.not_blank hc (by omega) hin) ⟨t, List.mem_cons_self, by omega, hin⟩
  case neg =>
    rw [exists_mem_cons_covers_iff (by omega)]
    exact h.covers i c (by omega) hc

/-- The first token is the lexeme at the beginning, and the others divide the rest of the text. -/
theorem divides_lexeme_iff (hcs : Lexeme before after kind cs) :
    Divides before.length (before ++ cs ++ after) ts ↔
      ∃ ts', ts = ⟨kind, String.ofList cs, before.length⟩ :: ts' ∧
        Divides (before ++ cs).length (before ++ cs ++ after) ts' := by
  have hstop : (⟨kind, String.ofList cs, before.length⟩ : Token).stop = (before ++ cs).length := by
    rw [Token.stop_ofList, List.length_append, Int.natCast_add]
  constructor
  case mp =>
    intro h
    obtain ⟨c, more, rfl⟩ := List.exists_cons_of_ne_nil hcs.ne_nil
    have hget : (before ++ c :: more ++ after)[before.length]? = some c := by simp
    have hblank : isBlank c = false := hcs.not_blank c List.mem_cons_self
    -- a token covers the first character, and none begins before
    obtain ⟨t, ht, hle, -⟩ := (h.covers before.length c le_rfl hget).1 hblank
    have hstart := h.start_le t ht
    have heq := (h.standsIn t ht).eq_of_lexeme hcs (by omega)
    cases ts with
    | nil => simp at ht
    | cons u us =>
      rcases List.mem_cons.1 ht with rfl | hmem
      · rw [← heq] at hstop ⊢
        exact ⟨us, rfl, h.tail hstop⟩
      · have hlt := ((List.pairwise_cons.1 h.apart).1 t hmem).1
        have hfirst := h.start_le u List.mem_cons_self
        omega
  case mpr =>
    rintro ⟨ts', rfl, h⟩
    exact h.cons ⟨before, after, by simp, rfl, by simpa using hcs⟩ rfl hstop

/-! ### The scan -/

/-- The scan of what is left of a text finds the tokens that divide it, and no others do. -/
theorem divides_iff_eq_scan_of_breaks (hbreaks : Breaks before rest) :
    Divides before.length (before ++ rest) ts ↔ ts = scan before.length rest := by
  generalize hposition : before.length = position
  fun_induction scan position rest generalizing before ts with
  | case1 position =>
    subst hposition
    rw [List.append_nil, divides_length_iff]
  | case2 position c cs hblank ih =>
    subst hposition
    have hbreaks' : Breaks (before ++ [c]) cs := by
      rintro b hb a - ⟨hb', -⟩
      rw [List.getLast?_concat, Option.mem_some_iff] at hb
      subst hb
      rw [isBlank_of_isUpper hb'] at hblank
      exact Bool.false_ne_true hblank
    have hrest := @ih (before ++ [c]) ts hbreaks' (by simp)
    rwa [List.append_assoc, List.singleton_append,
      ← divides_blank_iff (by simp : (before ++ c :: cs)[before.length]? = some c) hblank] at hrest
  | case3 position c cs hblank kind more hleading ih =>
    subst hposition
    obtain ⟨kind', more', after, rfl, hlexeme⟩ :=
      exists_lexeme cs (by simpa using hblank) hbreaks
    rw [hlexeme.leading_eq] at hleading
    obtain ⟨rfl, rfl⟩ := Prod.mk.inj hleading
    rw [List.drop_left] at ih ⊢
    have hlength : (before ++ c :: more').length = before.length + 1 + more'.length := by
      rw [List.length_append, List.length_cons]
      omega
    rw [← List.cons_append, ← List.append_assoc, divides_lexeme_iff hlexeme, hlength]
    simp only [ih hlexeme.breaks hlength, exists_eq_right]

theorem divides_iff_eq_scan : Divides 0 s ts ↔ ts = scan 0 s :=
  @divides_iff_eq_scan_of_breaks [] s ts (by simp [Breaks])

/-! ### Bodies without a fault -/

/-- A point without a digit is a number all the same. -/
theorem Lexeme.number_of_point (h : Lexeme before after kind ['.']) : kind = .number := by
  have hleading := h.leading_eq
  have hpoint : leading '.' ([] ++ after) = (.number, after.takeWhile Char.isDigit) := by
    simp [leading]
  rw [hpoint] at hleading
  exact (Prod.mk.inj hleading).1.symm

theorem Divides.check_eq_ok_iff (h : Divides start s ts) (ht : t ∈ ts) :
    t.check = .ok t ↔ t.kind ≠ .unknown ∧ t.text ≠ "." := by
  have hnumber : t.text = "." → t.kind = .number := by
    intro htext
    obtain ⟨before, after, -, -, hlexeme⟩ := h.standsIn t ht
    rw [htext] at hlexeme
    exact hlexeme.number_of_point
  rw [Formula.check_eq_ok_iff]
  constructor
  · rintro ⟨-, hkind, hpoint⟩
    exact ⟨hkind, fun htext => hpoint ⟨hnumber htext, htext⟩⟩
  · rintro ⟨hkind, htext⟩
    exact ⟨rfl, hkind, fun hpoint => htext hpoint.2⟩

theorem tokenize_eq_ok_iff {body : List Char} :
    tokenize body = .ok ts ↔
      ts = scan 0 (body.flatMap upperOf) ∧ ∀ t ∈ ts, t.kind ≠ .unknown ∧ t.text ≠ "." := by
  rw [tokenize, mapM_check_eq_ok_iff]
  refine and_congr_right ?_
  rintro rfl
  exact forall₂_congr fun t ht => (divides_iff_eq_scan.2 rfl).check_eq_ok_iff ht

/-- The scan loses nothing and takes each token as long as it can be: its tokens divide the text,
and there is no other way to divide it.  A body has exactly these tokens, unless one of them is
unknown or a bare point. -/
theorem scan_divides_tokenize (s body : List Char) (ts : List Token) :
    (Divides 0 s ts ↔ ts = scan 0 s) ∧
      (tokenize body = .ok ts ↔
        ts = scan 0 (body.flatMap upperOf) ∧ ∀ t ∈ ts, t.kind ≠ .unknown ∧ t.text ≠ ".") :=
  ⟨divides_iff_eq_scan, tokenize_eq_ok_iff⟩

end Worksheet.Formula
