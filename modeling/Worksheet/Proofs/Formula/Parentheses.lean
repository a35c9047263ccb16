import Worksheet.Proofs.Formula.ReversePolish

namespace Worksheet.Formula

open scoped List

/-!
# Parentheses in reverse Polish order

* `Matched` — tokens whose parentheses match each other;
* `EndsOpen`, `ClosedIn` — whether an opening parenthesis is open at the end of tokens, and whether
  tokens close the one before them;
* `FirstUnopened`, `LastUnclosed`, `Unbalanced` — the parenthesis for which tokens are at fault;
* `Matched.endsOpen`, `Matched.closedIn`, `Matched.not_endsOpen` — in matched tokens each parenthesis
  has its partner, and none is open at the end;
* `Pending` — tokens with some parentheses still open;
* `judges_arrange` — those are the parentheses that wait, so the arrangement finds the fault;
* `reversePolish_parentheses` — there is a reverse Polish order exactly if the parentheses match.
-/

variable {t opening : Token} {ts us before after waiting opens : List Token} {fault : Fault}

/-! ### Matching parentheses -/

/-- Whether the parentheses among the tokens match each other. -/
inductive Matched : List Token → Prop
  | nil : Matched []
  | other {t : Token} {ts : List Token} : t.isParenthesis = false → Matched ts → Matched (t :: ts)
  | pair {opening closing : Token} {inner rest : List Token} : opening.kind = .opening →
    Matched inner → closing.kind = .closing → Matched rest →
    Matched (opening :: (inner ++ closing :: rest))

/-- Whether an opening parenthesis is open at the end of the tokens. -/
def EndsOpen (ts : List Token) : Prop :=
  ∃ outer opening inner, ts = outer ++ opening :: inner ∧ opening.kind = .opening ∧ Matched inner

/-- Whether the tokens close an opening parenthesis before them. -/
def ClosedIn (ts : List Token) : Prop :=
  ∃ inner closing rest, ts = inner ++ closing :: rest ∧ closing.kind = .closing ∧ Matched inner

/-- Whether `t` is the first closing parenthesis with no open one before it. -/
def FirstUnopened (ts : List Token) (t : Token) : Prop :=
  ∃ before after, ts = before ++ t :: after ∧ t.kind = .closing ∧ ¬ EndsOpen before ∧
    ∀ us closing vs, before = us ++ closing :: vs → closing.kind = .closing → EndsOpen us

/-- Whether `t` is the last opening parenthesis that is never closed. -/
def LastUnclosed (ts : List Token) (t : Token) : Prop :=
  ∃ before after, ts = before ++ t :: after ∧ t.kind = .opening ∧ ¬ ClosedIn after ∧
    ∀ us opening vs, after = us ++ opening :: vs → opening.kind = .opening → ClosedIn vs

/-- The fault of tokens whose parentheses do not match. -/
inductive Unbalanced (ts : List Token) : Fault → Prop
  | closing {t : Token} : FirstUnopened ts t → Unbalanced ts (.unmatchedClosing t.position)
  | opening {t : Token} : (∀ u, ¬ FirstUnopened ts u) → LastUnclosed ts t →
    Unbalanced ts (.unmatchedOpening t.position)

theorem Unbalanced.category (h : Unbalanced ts fault) : fault.category = .malformed := by
  cases h <;> rfl

theorem Matched.append (h : Matched ts) (h' : Matched us) : Matched (ts ++ us) := by
  induction h with
  | nil => exact h'
  | other ht _ ih => exact .other ht ih
  | @pair opening closing inner rest hopening hinner hclosing _ _ ih =>
    rw [List.cons_append, List.append_assoc, List.cons_append]
    exact .pair hopening hinner hclosing ih

theorem EndsOpen.append (h : EndsOpen ts) (us : List Token) : EndsOpen (us ++ ts) := by
  obtain ⟨outer, opening, inner, rfl, hopening, hinner⟩ := h
  exact ⟨us ++ outer, opening, inner, by rw [List.append_assoc], hopening, hinner⟩

theorem ClosedIn.append (h : ClosedIn ts) (us : List Token) : ClosedIn (ts ++ us) := by
  obtain ⟨inner, closing, rest, rfl, hclosing, hinner⟩ := h
  exact ⟨inner, closing, rest ++ us, by rw [List.append_assoc]; rfl, hclosing, hinner⟩

/-! ### Partners -/

/-- A token in `ts ++ u :: us` is in front of `u`, is `u`, or is behind it. -/
theorem split_cons {u : Token} (h : ts ++ u :: us = before ++ t :: after) :
    (∃ vs, ts = before ++ t :: vs ∧ after = vs ++ u :: us) ∨ (before = ts ∧ t = u ∧ after = us) ∨
      ∃ vs, before = ts ++ u :: vs ∧ us = vs ++ t :: after := by
  rcases List.append_eq_append_iff.1 h with ⟨vs, hbefore, htail⟩ | ⟨vs, hts, htail⟩
  · cases vs with
    | nil =>
      obtain ⟨rfl, rfl⟩ := List.cons.inj htail
      exact .inr (.inl ⟨by simpa using hbefore, rfl, rfl⟩)
    | cons v vs =>
      obtain ⟨rfl, rfl⟩ := List.cons.inj htail
      exact .inr (.inr ⟨vs, hbefore, rfl⟩)
  · cases vs with
    | nil =>
      obtain ⟨rfl, rfl⟩ := List.cons.inj htail
      exact .inr (.inl ⟨by simpa using hts.symm, rfl, rfl⟩)
    | cons v vs =>
      obtain ⟨rfl, rfl⟩ := List.cons.inj htail
      exact .inl ⟨vs, hts, rfl⟩

/-- In matched tokens, each closing parenthesis has an open one before it. -/
theorem Matched.endsOpen (h : Matched ts) (hsplit : ts = before ++ t :: after)
    (ht : t.kind = .closing) : EndsOpen before := by
  induction h generalizing before after with
  | nil => simp at hsplit
  | @other u ts hu _ ih =>
    cases before with
    | nil =>
      obtain ⟨rfl, -⟩ := List.cons.inj hsplit
      simp [Token.isParenthesis, ht] at hu
    | cons v before =>
      obtain ⟨rfl, htail⟩ := List.cons.inj hsplit
      exact (ih htail).append [u]
  | @pair opening closing inner rest hopening hinner hclosing _ ihinner ihrest =>
    cases before with
    | nil =>
      obtain ⟨rfl, -⟩ := List.cons.inj hsplit
      rw [hopening] at ht
      cases ht
    | cons v before =>
      obtain ⟨rfl, htail⟩ := List.cons.inj hsplit
      rcases split_cons htail with ⟨vs, hfront, -⟩ | ⟨rfl, -, -⟩ | ⟨vs, rfl, hbehind⟩
      · exact (ihinner hfront).append [opening]
      · exact ⟨[], opening, before, rfl, hopening, hinner⟩
      · rw [List.append_cons, ← List.cons_append]
        exact (ihrest hbehind).append _

/-- In matched tokens, each opening parenthesis is closed behind it. -/
theorem Matched.closedIn (h : Matched ts) (hsplit : ts = before ++ t :: after)
    (ht : t.kind = .opening) : ClosedIn after := by
  induction h generalizing before after with
  | nil => simp at hsplit
  | @other u ts hu _ ih =>
    cases before with
    | nil =>
      obtain ⟨rfl, -⟩ := List.cons.inj hsplit
      simp [Token.isParenthesis, ht] at hu
    | cons v before => exact ih (List.cons.inj hsplit).2
  | @pair opening closing inner rest hopening hinner hclosing _ ihinner ihrest =>
    cases before with
    | nil =>
      obtain ⟨-, rfl⟩ := List.cons.inj hsplit
      exact ⟨inner, closing, rest, rfl, hclosing, hinner⟩
    | cons v before =>
      obtain ⟨rfl, htail⟩ := List.cons.inj hsplit
      rcases split_cons htail with ⟨vs, hfront, rfl⟩ | ⟨-, rfl, -⟩ | ⟨vs, -, hbehind⟩
      · exact (ihinner hfront).append _
      · rw [hclosing] at ht
        cases ht
      · exact ihrest hbehind

/-- An opening parenthesis at the end of matched tokens would be closed by one of them, which closes
another one already; that one is open at the end of fewer tokens. -/
theorem Matched.not_endsOpen (h : Matched ts) : ¬ EndsOpen ts := by
  induction hlength : ts.length using Nat.strong_induction_on generalizing ts with
  | _ n ih =>
    rintro ⟨outer, opening, inner, rfl, hopening, hinner⟩
    obtain ⟨innermost, closing, rest, rfl, hclosing, hinnermost⟩ := h.closedIn rfl hopening
    refine ih innermost.length ?_ hinnermost rfl (hinner.endsOpen rfl hclosing)
    rw [← hlength]
    simp only [List.length_append, List.length_cons]
    omega

theorem Matched.not_closedIn (h : Matched ts) : ¬ ClosedIn ts := by
  rintro ⟨inner, closing, rest, rfl, hclosing, hinner⟩
  exact hinner.not_endsOpen (h.endsOpen rfl hclosing)

theorem Unbalanced.not_matched (h : Unbalanced ts fault) : ¬ Matched ts := by
  intro hmatched
  cases h with
  | closing hfirst =>
    obtain ⟨before, after, hsplit, ht, hnot, -⟩ := hfirst
    exact hnot (hmatched.endsOpen hsplit ht)
  | opening _ hlast =>
    obtain ⟨before, after, hsplit, ht, hnot, -⟩ := hlast
    exact hnot (hmatched.closedIn hsplit ht)

/-! ### Open parentheses -/

/-- Whether the parentheses among the tokens match but for some that are open at the end, the latest
first. -/
inductive Pending : List Token → List Token → Prop
  | matched {ts : List Token} : Matched ts → Pending [] ts
  | opened {opening : Token} {opens ts inner : List Token} : Pending opens ts →
    opening.kind = .opening → Matched inner → Pending (opening :: opens) (ts ++ opening :: inner)

namespace Pending

theorem append (h : Pending opens ts) (hus : Matched us) : Pending opens (ts ++ us) := by
  cases h with
  | matched hts => exact .matched (hts.append hus)
  | opened h hopening hinner =>
    rw [List.append_assoc, List.cons_append]
    exact .opened h hopening (hinner.append hus)

theorem other (h : Pending opens ts) (ht : t.isParenthesis = false) : Pending opens (ts ++ [t]) :=
  h.append (.other ht .nil)

theorem push (h : Pending opens ts) (ht : t.kind = .opening) : Pending (t :: opens) (ts ++ [t]) :=
  .opened h ht .nil

/-- A closing parenthesis closes the latest one that is open. -/
theorem pop (h : Pending (opening :: opens) ts) (ht : t.kind = .closing) :
    Pending opens (ts ++ [t]) := by
  cases h with
  | opened h hopening hinner =>
    rw [List.append_assoc]
    exact h.append (.pair hopening hinner ht .nil)

theorem endsOpen (h : Pending opens ts) (hsplit : ts = before ++ t :: after)
    (ht : t.kind = .closing) : EndsOpen before := by
  induction h generalizing before after with
  | matched hts => exact hts.endsOpen hsplit ht
  | @opened opening opens ts inner h hopening hinner ih =>
    rcases split_cons hsplit with ⟨vs, hfront, -⟩ | ⟨-, rfl, -⟩ | ⟨vs, rfl, hbehind⟩
    · exact ih hfront
    · rw [hopening] at ht
      cases ht
    · rw [List.append_cons]
      exact (hinner.endsOpen hbehind ht).append _

/-- A closing parenthesis behind matched tokens is the first one without an open one before it. -/
theorem unbalanced_closing (h : Pending [] before) (ht : t.kind = .closing) :
    Unbalanced (before ++ t :: after) (.unmatchedClosing t.position) := by
  cases h with
  | matched hbefore =>
    exact .closing ⟨before, after, rfl, ht, hbefore.not_endsOpen,
      fun us closing vs hsplit hclosing => hbefore.endsOpen hsplit hclosing⟩

/-- At the end of the tokens, the latest parenthesis that is open is the last one never closed. -/
theorem unbalanced_opening (h : Pending (opening :: opens) ts) :
    Unbalanced ts (.unmatchedOpening opening.position) := by
  refine .opening (fun u hu => ?_) ?_
  · obtain ⟨before, after, hsplit, hclosing, hnot, -⟩ := hu
    exact hnot (h.endsOpen hsplit hclosing)
  · cases h with
    | @opened _ _ ts inner h hopening hinner =>
      exact ⟨ts, inner, rfl, hopening, hinner.not_closedIn,
        fun us opening vs hsplit hopening => hinner.closedIn hsplit hopening⟩

end Pending

/-! ### Arrangement -/

/-- Whether an outcome is right about the parentheses among the tokens. -/
def Judges (ts : List Token) : Except Failure (List Token) → Prop
  | .ok _ => Matched ts
  | .error (.fault fault) => Unbalanced ts fault
  | .error _ => False

theorem Judges.map {outcome : Except Failure (List Token)} (h : Judges ts outcome)
    (f : List Token → List Token) : Judges ts (f <$> outcome) := by
  cases outcome <;> exact h

theorem releaseAll_of_opening {held rest : List Token} (hheld : ∀ u ∈ held, u.kind ≠ .opening)
    (hopening : opening.kind = .opening) :
    releaseAll (held ++ opening :: rest) = .error (.fault (.unmatchedOpening opening.position)) := by
  induction held with
  | nil => rw [List.nil_append, releaseAll, if_pos hopening]
  | cons u held ih =>
    rw [List.cons_append, releaseAll, if_neg (hheld u List.mem_cons_self),
      ih fun v hv => hheld v (List.mem_cons_of_mem u hv)]
    rfl

/-- Whether the operators among the tokens are known. -/
def KnownOperators (ts : List Token) : Prop :=
  ∀ t ∈ ts, t.kind = .operator → ∃ p, precedence? t.text = some p

/-- The opening parentheses among the waiting tokens are those that are open, so the arrangement
judges the tokens before and those still to come. -/
theorem judges_arrange {done : List Token}
    (hts : ∀ t ∈ ts, t.kind ≠ .unknown ∧ (t.kind = .operator → ∃ op, t.Writes op))
    (hwaiting : KnownOperators waiting)
    (h : Pending (waiting.filter (·.kind = .opening)) done) :
    Judges (done ++ ts) (arrange ts waiting) := by
  induction ts generalizing waiting done with
  | nil =>
    rw [arrange, List.append_nil]
    rcases exists_opening waiting with hnone | ⟨held, opening, rest, rfl, hheld, hopening⟩
    · rw [releaseAll_eq_ok.2 ⟨rfl, hnone⟩]
      rw [List.filter_eq_nil_iff.2 (by simpa using hnone)] at h
      cases h with
      | matched hdone => exact hdone
    · rw [releaseAll_of_opening hheld hopening]
      rw [List.filter_append, List.filter_eq_nil_iff.2 (by simpa using hheld),
        List.filter_cons_of_pos (by simpa using hopening)] at h
      exact h.unbalanced_opening
  | cons t ts ih =>
    obtain ⟨hknown, hoperator⟩ := hts t List.mem_cons_self
    have ih : ∀ {waiting : List Token}, KnownOperators waiting →
        Pending (waiting.filter (·.kind = .opening)) (done ++ [t]) →
        Judges (done ++ t :: ts) (arrange ts waiting) := by
      intro waiting hwaiting h
      rw [List.append_cons]
      exact ih (fun u hu => hts u (List.mem_cons_of_mem t hu)) hwaiting h
    cases hkind : t.kind with
    | number | reference =>
      rw [arrange_operand (by simp [hkind])]
      exact (ih hwaiting (h.other (by simp [Token.isParenthesis, hkind]))).map _
    | opening =>
      rw [arrange_opening hkind]
      refine ih (List.forall_mem_cons.2 ⟨by simp [hkind], hwaiting⟩) ?_
      rw [List.filter_cons_of_pos (by simpa using hkind)]
      exact h.push hkind
    | closing =>
      -- it closes the latest open parenthesis, which is the first one below the operators
      rcases exists_opening waiting with hnone | ⟨held, opening, rest, rfl, hheld, hopening⟩
      · rw [arrange_closing_of_none hkind hnone]
        rw [List.filter_eq_nil_iff.2 (by simpa using hnone)] at h
        exact h.unbalanced_closing hkind
      · rw [arrange_closing hkind hopening hheld]
        rw [List.filter_append, List.filter_eq_nil_iff.2 (by simpa using hheld),
          List.filter_cons_of_pos (by simpa using hopening)] at h
        refine (ih (fun u hu => hwaiting u ?_) (h.pop hkind)).map _
        exact List.mem_append_right held (List.mem_cons_of_mem opening hu)
    | operator =>
      -- no parenthesis is released, and the operator that waits is none either
      obtain ⟨op, hop⟩ := hoperator hkind
      obtain ⟨released, rest, hrelease⟩ := exists_release hop.precedence? hwaiting
      rw [arrange_release (.inl hkind), hrelease]
      obtain ⟨rfl, hreleased⟩ := append_of_release hrelease
      have hnone : released.filter (·.kind = .opening) = [] :=
        List.filter_eq_nil_iff.2 fun u hu => by simp [hreleased u hu]
      rw [List.filter_append, hnone] at h
      refine (ih (List.forall_mem_cons.2 ⟨fun _ => ⟨_, hop.precedence?⟩, fun u hu => ?_⟩) ?_).map _
      · exact hwaiting u (List.mem_append_right released hu)
      · rw [List.filter_cons_of_neg (by simp [hkind])]
        exact h.other (by simp [Token.isParenthesis, hkind])
    | unknown => exact absurd hkind hknown

/-- What reverse Polish order makes of parentheses, for operands, known operators and parentheses in
any order.  If the parentheses match, then it keeps all the other tokens, as often as they are there,
and the operands in their order.  Otherwise there is none, and the fault is the first closing
parenthesis with no open one before it, or else the last opening one that is never closed. -/
theorem reversePolish_parentheses
    (hts : ∀ t ∈ ts, t.kind ≠ .unknown ∧ (t.kind = .operator → ∃ op, t.Writes op)) :
    (Matched ts ∧ ∃ ps, reversePolish ts = .ok ps ∧ ps ~ ts.filter (!·.isParenthesis) ∧
        ps.filter Token.isOperand = ts.filter Token.isOperand) ∨
      (¬ Matched ts ∧ ∃ fault, Unbalanced ts fault ∧ fault.category = .malformed ∧
        reversePolish ts = .error (.fault fault)) := by
  have hnone : KnownOperators [] := fun t ht => absurd ht List.not_mem_nil
  have hjudges : Judges ([] ++ ts) (reversePolish ts) := judges_arrange hts hnone (.matched .nil)
  rw [List.nil_append] at hjudges
  cases hps : reversePolish ts with
  | ok ps =>
    rw [hps] at hjudges
    exact .inl ⟨hjudges, ps, rfl, perm_reversePolish hps, operands_reversePolish hps⟩
  | error failure =>
    rw [hps] at hjudges
    cases failure with
    | fault fault =>
      have hunbalanced : Unbalanced ts fault := hjudges
      exact .inr ⟨hunbalanced.not_matched, fault, hunbalanced, hunbalanced.category, rfl⟩
    | unreadable => exact hjudges.elim
    | unknownOperator => exact hjudges.elim

/-- Matching parentheses in tokens that are no formula. -/
def tangled : List Token :=
  [⟨.opening, "(", 0⟩, ⟨.reference, "A1", 1⟩, ⟨.operator, "*", 3⟩, ⟨.closing, ")", 4⟩,
    ⟨.number, "2", 5⟩]

theorem reversePolish_parentheses_tangled :
    (∃ ps, reversePolish tangled = .ok ps ∧ ps ~ tangled.filter (!·.isParenthesis)) ∧
      Unbalanced tangled.tail (.unmatchedClosing 4) := by
  have hknown : ∀ t ∈ tangled, t.kind ≠ .unknown ∧ (t.kind = .operator → ∃ op, t.Writes op) := by
    intro t ht
    simp only [tangled, List.mem_cons, List.not_mem_nil, or_false] at ht
    rcases ht with rfl | rfl | rfl | rfl | rfl
    case inr.inr.inl => exact ⟨by decide, fun _ => ⟨.mul, rfl, rfl⟩⟩
    all_goals exact ⟨by decide, by simp⟩
  constructor
  · rcases reversePolish_parentheses hknown with ⟨-, ps, hps, hperm, -⟩ | ⟨-, fault, -, -, herror⟩
    · exact ⟨ps, hps, hperm⟩
    · cases herror
  · rcases reversePolish_parentheses fun t ht => hknown t (List.mem_of_mem_tail ht) with
      ⟨-, ps, hps, -⟩ | ⟨-, fault, hunbalanced, -, herror⟩
    · cases hps
    · obtain rfl : Fault.unmatchedClosing 4 = fault :=
        Failure.fault.inj (Except.error.inj herror)
      exact hunbalanced

end Worksheet.Formula
