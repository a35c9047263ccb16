import Worksheet.Proofs.Formula.Evaluation

namespace Worksheet.Formula

/-!
# Why a formula has no value

* `Failure.Own`, `Failure.From` — the failures that a formula has by itself, and those that come from
  the cells that it refers to;
* `reversePolish_eq_error` — no reverse Polish order is a fault, and no operator is unknown;
* `from_of_evaluate` — where the failure of a formula comes from;
* `evaluate_eq_error` — a formula without a value has a fault, or a cell that it refers to holds an
  unreadable text.
-/

variable {t : Token} {ts waiting : List Token} {value : CellId → Value} {failure : Failure}

/-! ### Where failures come from -/

/-- Whether the failure is a fault, and no error that is carried over from another cell. -/
def Failure.Own (failure : Failure) : Prop :=
  ∃ f, failure = .fault f ∧ ∀ cell code, f ≠ .carried cell code

/-- Whether the failure is a fault of the formula, or comes from one of the `cells` that is in error
or holds an unreadable text. -/
inductive Failure.From (value : CellId → Value) (cells : List CellId) : Failure → Prop
  | own {failure : Failure} : failure.Own → From value cells failure
  | carried {id : CellId} {code : ErrorCode} : id ∈ cells → value id = .error code →
    From value cells (.fault (.carried id code))
  | unreadable {id : CellId} {s : String} {u : Number.Unreadable} : id ∈ cells →
    value id = .text s → Number.read? s = .error u → From value cells (.unreadable u)

theorem Failure.From.mono {cells cells' : List CellId} (h : failure.From value cells)
    (hcells : ∀ id ∈ cells, id ∈ cells') : failure.From value cells' := by
  cases h with
  | own hown => exact .own hown
  | carried hid hvalue => exact .carried (hcells _ hid) hvalue
  | unreadable hid hvalue hu => exact .unreadable (hcells _ hid) hvalue hu

/-- Whether the failure is a fault, or comes from the text of one of the `cells`. -/
def Failure.Explained (value : CellId → Value) (cells : List CellId) (failure : Failure) : Prop :=
  (∃ f, failure = .fault f) ∨
    ∃ id ∈ cells, ∃ s u, value id = .text s ∧ Number.read? s = .error u ∧ failure = .unreadable u

theorem Failure.From.explained {cells : List CellId} (h : failure.From value cells) :
    failure.Explained value cells := by
  cases h with
  | own hown =>
    obtain ⟨f, hf, -⟩ := hown
    exact .inl ⟨f, hf⟩
  | carried => exact .inl ⟨_, rfl⟩
  | unreadable hid hvalue hu => exact .inr ⟨_, hid, _, _, hvalue, hu, rfl⟩

/-! ### Reverse Polish order -/

theorem Token.Proper.precedence? (h : t.Proper) (hkind : t.kind = .operator) :
    ∃ p, Formula.precedence? t.text = some p := by
  obtain ⟨op, hop⟩ := h.operator hkind
  exact ⟨_, hop.precedence?⟩

theorem releaseAll_eq_error (h : releaseAll waiting = .error failure) : failure.Own := by
  induction waiting with
  | nil => simp [releaseAll] at h
  | cons t ts ih =>
    rw [releaseAll] at h
    by_cases hkind : t.kind = .opening
    case pos =>
      rw [if_pos hkind] at h
      exact ⟨_, (Except.error.inj h).symm, by simp⟩
    case neg =>
      rw [if_neg hkind] at h
      rcases Except.bind_eq_error.1 h with h | ⟨out, -, h⟩
      · exact ih h
      · cases h

/-- Tokens without a reverse Polish order have a fault. -/
theorem arrange_eq_error (h : arrange ts waiting = .error failure) (hts : ∀ t ∈ ts, t.Proper)
    (hwaiting : ∀ t ∈ waiting, t.Proper) : failure.Own := by
  induction ts generalizing waiting with
  | nil => exact releaseAll_eq_error h
  | cons t ts ih =>
    have ht : t.Proper := hts t List.mem_cons_self
    have ih : ∀ {waiting : List Token}, arrange ts waiting = .error failure →
        (∀ t ∈ waiting, t.Proper) → failure.Own :=
      fun h hwaiting => ih h (fun u hu => hts u (List.mem_cons_of_mem t hu)) hwaiting
    cases hkind : t.kind with
    | number | reference =>
      rw [arrange_operand (by simp [hkind]), Except.map_eq_error] at h
      exact ih h hwaiting
    | opening =>
      rw [arrange_opening hkind] at h
      exact ih h (List.forall_mem_cons.2 ⟨ht, hwaiting⟩)
    | closing =>
      rcases exists_opening waiting with hnone | ⟨held, opening, rest, rfl, hheld, hopening⟩
      · rw [arrange_closing_of_none hkind hnone] at h
        exact ⟨_, (Except.error.inj h).symm, by simp⟩
      · rw [arrange_closing hkind hopening hheld, Except.map_eq_error] at h
        refine ih h fun u hu => hwaiting u ?_
        exact List.mem_append_right held (List.mem_cons_of_mem opening hu)
    | operator =>
      -- the release itself cannot fail, because all operators are known
      obtain ⟨p, hp⟩ := ht.precedence? hkind
      obtain ⟨released, rest, hrelease⟩ := exists_release hp fun u hu => (hwaiting u hu).precedence?
      rw [arrange_release (.inl hkind), hrelease] at h
      have h : arrange ts (t :: rest) = .error failure := Except.map_eq_error.1 h
      refine ih h (List.forall_mem_cons.2 ⟨ht, fun u hu => hwaiting u ?_⟩)
      rw [← (append_of_release hrelease).1]
      exact List.mem_append_right released hu
    | unknown => exact absurd hkind ht.known

theorem reversePolish_eq_error (h : reversePolish ts = .error failure)
    (hts : ∀ t ∈ ts, t.Proper) : failure.Own :=
  arrange_eq_error h hts (by simp)

/-! ### Evaluation -/

/-- Only a text with a separator is unreadable. -/
theorem isSeparator_of_read? {text : String} {u : Number.Unreadable}
    (h : Number.read? text = .error u) : ∃ c ∈ text.toList, Text.isSeparator c = true := by
  unfold Number.read? at h
  split at h
  case h_1 => simp at h
  case h_2 =>
    split at h
    case isTrue hany => simpa using hany
    case isFalse => simp at h

theorem literal_eq_error {text : String} (h : literal text = .error failure)
    (htext : ∀ c ∈ text.toList, c.isDigit = true ∨ c = '.') : failure.Own := by
  unfold literal at h
  split at h
  case h_1 => simp at h
  case h_2 => exact ⟨_, (Except.error.inj h).symm, by simp⟩
  case h_3 u hu =>
    -- neither a digit nor a point is a separator
    obtain ⟨c, hc, hseparator⟩ := isSeparator_of_read? hu
    have hnone : Text.isSeparator c = false := by
      rcases htext c hc with hdigit | rfl
      · have hrange := Char.isDigit_iff_toNat.1 hdigit
        have hzero : '0'.toNat = 0x30 := rfl
        rw [← Bool.not_eq_true, Text.isSeparator, Bool.and_eq_true, decide_eq_true_eq,
          decide_eq_true_eq]
        omega
      · decide
    rw [hnone] at hseparator
    exact absurd hseparator (by decide)

theorem operand_eq_error {cell : CellId} (h : operand cell (value cell) = .error failure) :
    failure.From value [cell] := by
  have hcell : cell ∈ [cell] := List.mem_singleton_self cell
  cases hvalue : value cell with
  | number n => simp [operand, hvalue] at h
  | text s =>
    simp only [operand, hvalue] at h
    split at h
    case h_1 => simp at h
    case h_2 => exact .own ⟨_, (Except.error.inj h).symm, by simp⟩
    case h_3 u hu =>
      obtain rfl : Failure.unreadable u = failure := Except.error.inj h
      exact .unreadable hcell hvalue hu
  | error code =>
    simp only [operand, hvalue] at h
    obtain rfl : Failure.fault (.carried cell code) = failure := Except.error.inj h
    exact .carried hcell hvalue
  | truth | nothing =>
    simp only [operand, hvalue] at h
    exact .own ⟨_, (Except.error.inj h).symm, by simp⟩

theorem apply_eq_error {operator : String} {a b : Number}
    (h : apply operator a b = .error failure) : failure.Own := by
  unfold apply at h
  split at h
  case h_1 => simp at h
  case h_2 => exact ⟨_, (Except.error.inj h).symm, by simp⟩
  case h_3 => exact ⟨_, (Except.error.inj h).symm, by simp⟩

theorem step_eq_error {stack : List Number} (h : (step value stack t).outcome = .error failure)
    (ht : t.Proper) : failure.Own ∨ t.kind = .reference ∧ failure.From value [t.text] := by
  unfold step at h
  split at h
  case h_1 hkind =>
    rw [← map_eq_pure_bind, Reading.outcome_map] at h
    exact .inl (literal_eq_error (Except.map_eq_error.1 h) (ht.number hkind))
  case h_2 hkind =>
    rw [← map_eq_pure_bind, Reading.outcome_map] at h
    exact .inr ⟨hkind, operand_eq_error (Except.map_eq_error.1 h)⟩
  case h_3 =>
    split at h
    case h_1 =>
      rw [← map_eq_pure_bind, Reading.outcome_map] at h
      exact .inl (apply_eq_error (Except.map_eq_error.1 h))
    case h_2 => exact .inl ⟨_, (Except.error.inj h).symm, by simp⟩

theorem foldlM_eq_error {ps : List Token} {stack : List Number} {cells : List CellId}
    (h : (ps.foldlM (step value) stack).outcome = .error failure) (hps : ∀ t ∈ ps, t.Proper)
    (hcells : ∀ t ∈ ps, t.kind = .reference → t.text ∈ cells) : failure.From value cells := by
  induction ps generalizing stack with
  | nil => cases h
  | cons t ps ih =>
    rw [List.foldlM_cons, Reading.outcome_bind] at h
    rcases Except.bind_eq_error.1 h with h | ⟨stack', -, h⟩
    · rcases step_eq_error h (hps t List.mem_cons_self) with hown | ⟨hkind, hfrom⟩
      · exact .own hown
      · apply hfrom.mono
        intro id hid
        rw [List.mem_singleton.1 hid]
        exact hcells t List.mem_cons_self hkind
    · exact ih h (fun u hu => hps u (List.mem_cons_of_mem t hu))
        fun u hu => hcells u (List.mem_cons_of_mem t hu)

theorem evaluateTokens_eq_error {ps : List Token} {cells : List CellId}
    (h : (evaluateTokens value ps).outcome = .error failure) (hps : ∀ t ∈ ps, t.Proper)
    (hcells : ∀ t ∈ ps, t.kind = .reference → t.text ∈ cells) : failure.From value cells := by
  rw [evaluateTokens, Reading.outcome_bind] at h
  rcases Except.bind_eq_error.1 h with h | ⟨stack, -, h⟩
  · exact foldlM_eq_error h hps hcells
  · split at h
    case h_1 => cases h
    case h_2 => exact .own ⟨_, (Except.error.inj h).symm, by simp⟩

theorem own_of_tokenize {body : List Char} {f : Fault} (h : tokenize body = .error f) :
    (Failure.fault f).Own := by
  obtain ⟨t, -, hcheck⟩ := mapM_check_eq_error h
  unfold Token.check at hcheck
  split at hcheck
  case isTrue => exact ⟨f, rfl, by simp [← Except.error.inj hcheck]⟩
  case isFalse =>
    split at hcheck
    case isTrue => exact ⟨f, rfl, by simp [← Except.error.inj hcheck]⟩
    case isFalse => cases hcheck

/-- Where a formula has no value, it has a fault itself, or a cell that it refers to is in error or
holds an unreadable text. -/
theorem from_of_evaluate {text : String} {body : List Char} (hbody : body? text = some body)
    (h : (evaluate value text).outcome = .error failure) : failure.From value (references text) := by
  cases hts : tokenize body with
  | error f =>
    rw [evaluate_of_tokenize_error hbody hts] at h
    rw [← Except.error.inj h]
    exact .own (own_of_tokenize hts)
  | ok ts =>
    have hproper : ∀ t ∈ ts, t.Proper := fun t ht => proper_of_tokenize hts ht
    rw [evaluate_of_tokenize hbody hts, Reading.outcome_bind] at h
    rcases Except.bind_eq_error.1 h with h | ⟨ps, hps, h⟩
    · exact .own (reversePolish_eq_error h hproper)
    · rw [Reading.outcome_map, Except.map_eq_error] at h
      refine evaluateTokens_eq_error h (fun t ht => ?_) fun t ht hkind => ?_
      · exact hproper t (mem_of_mem_reversePolish hps ht)
      · exact mem_references hbody hts (mem_of_mem_reversePolish hps ht) hkind

/-- Where a formula has no value there is a fault, or a cell that it refers to holds an unreadable
text. -/
theorem evaluate_eq_error {text : String} {body : List Char} (hbody : body? text = some body)
    (h : (evaluate value text).outcome = .error failure) :
    failure.Explained value (references text) :=
  (from_of_evaluate hbody h).explained

end Worksheet.Formula
