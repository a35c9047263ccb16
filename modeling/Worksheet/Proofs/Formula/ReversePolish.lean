import Mathlib.Data.List.Perm.Basic
import Mathlib.Data.List.TakeWhile
import Worksheet.Proofs.Except
import Worksheet.Proofs.Formula.Grammar

namespace Worksheet.Formula

open Number (Operation)
open scoped List

/-!
# Reverse Polish order follows the grammar

* `Token.Binds`, `Below` — what the waiting operators look like between two parts of a formula;
* `Infix.arrange_append` — the tokens of a part of a formula, arranged with any tokens before and
  after it;
* `Infix.reversePolish_eq` — the tokens of a tree in reverse Polish order write the same tree;
* `perm_reversePolish` — reverse Polish order moves the tokens and only leaves out parentheses;
* `operands_reversePolish` — and the operands stay in their order.
-/

variable {n : Nat} {t : Token} {ts waiting held : List Token}

/-! ### Waiting operators -/

/-- Whether the token is an operator that binds at least as tightly as `n`. -/
def Token.Binds (n : Nat) (t : Token) : Prop :=
  t.kind = .operator ∧ ∃ p, precedence? t.text = some p ∧ n ≤ p

/-- Whether the latest of the `waiting` tokens is no operator that binds as tightly as `n`. -/
def Below (n : Nat) (waiting : List Token) : Prop :=
  ∀ t ∈ waiting.head?, t.kind = .operator → ∃ p, precedence? t.text = some p ∧ p < n

theorem Token.Binds.mono {m : Nat} (h : t.Binds n) (hm : m ≤ n) : t.Binds m := by
  obtain ⟨hkind, p, hp, hle⟩ := h
  exact ⟨hkind, p, hp, Nat.le_trans hm hle⟩

theorem Token.Binds.ne_opening (h : t.Binds n) : t.kind ≠ .opening := by
  rw [h.1]
  decide

theorem Token.Writes.precedence? {op : Operation} (h : t.Writes op) :
    Formula.precedence? t.text = some (level op).rank := by
  rw [h.text, precedence?_symbol]

theorem Token.Writes.binds {op : Operation} (h : t.Writes op) : t.Binds (level op).rank :=
  ⟨h.kind, (level op).rank, h.precedence?, Nat.le_refl _⟩

theorem Below.mono {m : Nat} (h : Below n waiting) (hm : n ≤ m) : Below m waiting := by
  intro t ht hkind
  obtain ⟨p, hp, hlt⟩ := h t ht hkind
  exact ⟨p, hp, Nat.lt_of_lt_of_le hlt hm⟩

theorem below_nil (n : Nat) : Below n [] := by
  intro t ht
  simp at ht

theorem below_opening (n : Nat) (h : t.kind = .opening) : Below n (t :: waiting) := by
  intro u hu hkind
  rw [List.head?_cons, Option.mem_some_iff] at hu
  rw [← hu, h] at hkind
  exact absurd hkind (by decide)

/-- Behind an operator, its right operand begins as behind a parenthesis. -/
theorem Token.Writes.below {op : Operation} (h : t.Writes op) :
    Below (level op).tighter.rank (t :: waiting) := by
  intro u hu _
  rw [List.head?_cons, Option.mem_some_iff] at hu
  rw [← hu]
  exact ⟨(level op).rank, h.precedence?, rank_level_lt op⟩

/-! ### Release -/

theorem precedence_of_eq_some {s : String} {p : Nat} (h : precedence? s = some p) :
    precedence s = .ok p := by
  rw [precedence, h]

/-- An operator releases exactly the operators that bind as tightly as it does. -/
theorem release_append {s : String} (hs : precedence? s = some n) (hheld : ∀ t ∈ held, t.Binds n)
    (hwaiting : Below n waiting) : release s (held ++ waiting) = .ok (held, waiting) := by
  induction held with
  | nil =>
    cases waiting with
    | nil => rfl
    | cons t ts =>
      rw [List.nil_append, release]
      by_cases hkind : t.kind = .operator
      case neg => rw [if_neg hkind]
      case pos =>
        -- the first operator that does not bind as tightly stops the release
        obtain ⟨p, hp, hlt⟩ := hwaiting t (by simp) hkind
        rw [if_pos hkind, precedence_of_eq_some hp, precedence_of_eq_some hs]
        show (if n ≤ p then _ else _) = _
        rw [if_neg (by omega)]
        rfl
  | cons t ts ih =>
    obtain ⟨hkind, p, hp, hle⟩ := hheld t List.mem_cons_self
    have htail : release s (ts ++ waiting) = .ok (ts, waiting) :=
      ih fun u hu => hheld u (List.mem_cons_of_mem t hu)
    rw [List.cons_append, release, if_pos hkind, precedence_of_eq_some hp,
      precedence_of_eq_some hs, htail]
    show (if n ≤ p then _ else _) = _
    rw [if_pos hle]
    rfl

/-- A release succeeds where all operators are known. -/
theorem exists_release {s : String} (hs : precedence? s = some n)
    (hwaiting : ∀ t ∈ waiting, t.kind = .operator → ∃ p, precedence? t.text = some p) :
    ∃ released rest, release s waiting = .ok (released, rest) := by
  induction waiting with
  | nil => exact ⟨[], [], rfl⟩
  | cons t ts ih =>
    rw [release]
    by_cases hkind : t.kind = .operator
    case neg => exact ⟨[], t :: ts, if_neg hkind⟩
    case pos =>
      obtain ⟨p, hp⟩ := hwaiting t List.mem_cons_self hkind
      obtain ⟨released, rest, hrest⟩ := ih fun u hu => hwaiting u (List.mem_cons_of_mem t hu)
      rw [if_pos hkind, precedence_of_eq_some hs, precedence_of_eq_some hp, hrest]
      show ∃ released' rest', (if n ≤ p then _ else _) = Except.ok (released', rest')
      by_cases hle : n ≤ p
      · exact ⟨t :: released, rest, if_pos hle⟩
      · exact ⟨[], t :: ts, if_neg hle⟩

/-- A release splits the waiting tokens behind some operators. -/
theorem append_of_release {s : String} {released rest : List Token}
    (h : release s waiting = .ok (released, rest)) :
    released ++ rest = waiting ∧ ∀ t ∈ released, t.kind = .operator := by
  induction waiting generalizing released rest with
  | nil =>
    simp only [release, Except.ok.injEq, Prod.mk.injEq] at h
    simp [← h.1, ← h.2]
  | cons t ts ih =>
    rw [release] at h
    by_cases hkind : t.kind = .operator
    case neg =>
      simp only [if_neg hkind, Except.ok.injEq, Prod.mk.injEq] at h
      simp [← h.1, ← h.2]
    case pos =>
      rw [if_pos hkind] at h
      obtain ⟨p, -, h⟩ := Except.bind_eq_ok.1 h
      obtain ⟨q, -, h⟩ := Except.bind_eq_ok.1 h
      by_cases hle : q ≤ p
      case pos =>
        rw [if_pos hle] at h
        obtain ⟨⟨released', rest'⟩, htail, h⟩ := Except.bind_eq_ok.1 h
        obtain ⟨rfl, rfl⟩ := Prod.mk.inj (Except.pure_eq_ok.1 h)
        obtain ⟨happend, hall⟩ := ih htail
        refine ⟨by rw [List.cons_append, happend], ?_⟩
        simpa [hkind] using hall
      case neg =>
        rw [if_neg hle] at h
        obtain ⟨rfl, rfl⟩ := Prod.mk.inj (Except.pure_eq_ok.1 h)
        simp

/-- At the end all waiting tokens are released, and there is no parenthesis among them. -/
theorem releaseAll_eq_ok {out : List Token} :
    releaseAll waiting = .ok out ↔ out = waiting ∧ ∀ t ∈ waiting, t.kind ≠ .opening := by
  induction waiting generalizing out with
  | nil => simp [releaseAll, eq_comm]
  | cons t ts ih =>
    rw [releaseAll]
    by_cases hkind : t.kind = .opening
    case pos => simp [hkind]
    case neg =>
      rw [if_neg hkind, Except.bind_eq_ok]
      constructor
      · rintro ⟨out', htail, h⟩
        obtain ⟨rfl, hall⟩ := ih.1 htail
        refine ⟨(Except.pure_eq_ok.1 h).symm, ?_⟩
        simpa [hkind] using hall
      · rintro ⟨rfl, hall⟩
        exact ⟨ts, ih.2 ⟨rfl, fun u hu => hall u (List.mem_cons_of_mem t hu)⟩, rfl⟩

/-! ### One token -/

/-- Whether the token is an operand. -/
def Token.isOperand (t : Token) : Bool := t.kind = .number ∨ t.kind = .reference

theorem arrange_operand (h : t.kind = .number ∨ t.kind = .reference) :
    arrange (t :: ts) waiting = (t :: ·) <$> arrange ts waiting := by
  rw [map_eq_pure_bind]
  rcases h with h | h <;> simp only [arrange, h]

theorem arrange_opening (h : t.kind = .opening) :
    arrange (t :: ts) waiting = arrange ts (t :: waiting) := by
  simp only [arrange, h]

/-- A closing parenthesis releases everything down to the opening one. -/
theorem arrange_closing {opening : Token} (h : t.kind = .closing)
    (hopening : opening.kind = .opening) (hheld : ∀ u ∈ held, u.kind ≠ .opening) :
    arrange (t :: ts) (held ++ opening :: waiting) = (held ++ ·) <$> arrange ts waiting := by
  have htake : (held ++ opening :: waiting).takeWhile (·.kind ≠ .opening) = held := by
    rw [List.takeWhile_append_of_pos (by simpa using hheld)]
    simp [hopening]
  have hdrop : (held ++ opening :: waiting).dropWhile (·.kind ≠ .opening)
      = opening :: waiting := by
    rw [List.dropWhile_append_of_pos (by simpa using hheld)]
    simp [hopening]
  rw [map_eq_pure_bind]
  simp only [arrange, h]
  rw [hdrop, htake]

theorem arrange_closing_of_none (h : t.kind = .closing) (hnone : ∀ u ∈ waiting, u.kind ≠ .opening) :
    arrange (t :: ts) waiting = .error (.fault (.unmatchedClosing t.position)) := by
  have hdrop : waiting.dropWhile (·.kind ≠ .opening) = [] :=
    List.dropWhile_eq_nil_iff.2 (by simpa using hnone)
  simp only [arrange, h]
  rw [hdrop]

/-- Either no opening parenthesis is waiting, or there is a latest one. -/
theorem exists_opening (waiting : List Token) :
    (∀ u ∈ waiting, u.kind ≠ .opening) ∨ ∃ held opening rest,
      waiting = held ++ opening :: rest ∧ (∀ u ∈ held, u.kind ≠ .opening) ∧
        opening.kind = .opening := by
  induction waiting with
  | nil =>
    left
    simp
  | cons u waiting ih =>
    by_cases hu : u.kind = .opening
    · exact .inr ⟨[], u, waiting, rfl, by simp, hu⟩
    · rcases ih with hnone | ⟨held, opening, rest, rfl, hheld, hopening⟩
      · left
        simpa [hu] using hnone
      · exact .inr ⟨u :: held, opening, rest, rfl, by simpa [hu] using hheld, hopening⟩

/-- A closing parenthesis finds its opening one among the waiting tokens, if the tokens have a
reverse Polish order. -/
theorem arrange_closing_eq_ok {ps : List Token} (h : t.kind = .closing)
    (harrange : arrange (t :: ts) waiting = .ok ps) :
    ∃ held opening rest out, waiting = held ++ opening :: rest ∧
      (∀ u ∈ held, u.kind ≠ .opening) ∧ opening.kind = .opening ∧
      arrange ts rest = .ok out ∧ ps = held ++ out := by
  rcases exists_opening waiting with hnone | ⟨held, opening, rest, rfl, hheld, hopening⟩
  · rw [arrange_closing_of_none h hnone] at harrange
    cases harrange
  · rw [arrange_closing h hopening hheld] at harrange
    obtain ⟨out, hout, hps⟩ := Except.map_eq_ok.1 harrange
    exact ⟨held, opening, rest, out, rfl, hheld, hopening, hout, hps.symm⟩

theorem arrange_release (h : t.kind = .operator ∨ t.kind = .unknown) :
    arrange (t :: ts) waiting
      = release t.text waiting >>= fun split => (split.1 ++ ·) <$> arrange ts (t :: split.2) := by
  simp only [map_eq_pure_bind]
  rcases h with h | h
  · simp only [arrange, h]
  · simp only [arrange, h]

/-- An operator waits in place of the operators that it releases. -/
theorem arrange_operator {op : Operation} (h : t.Writes op)
    (hheld : ∀ u ∈ held, u.Binds (level op).rank) (hwaiting : Below (level op).rank waiting) :
    arrange (t :: ts) (held ++ waiting) = (held ++ ·) <$> arrange ts (t :: waiting) := by
  have hrelease : release t.text (held ++ waiting) = .ok (held, waiting) :=
    release_append h.precedence? hheld hwaiting
  rw [arrange_release (.inl h.kind), hrelease]
  rfl

/-- An operator releases some operators, if the tokens have a reverse Polish order. -/
theorem arrange_operator_eq_ok {ps : List Token} (h : t.kind = .operator ∨ t.kind = .unknown)
    (harrange : arrange (t :: ts) waiting = .ok ps) :
    ∃ held rest out, waiting = held ++ rest ∧ (∀ u ∈ held, u.kind = .operator) ∧
      arrange ts (t :: rest) = .ok out ∧ ps = held ++ out := by
  rw [arrange_release h] at harrange
  obtain ⟨⟨held, rest⟩, hrelease, hrest⟩ := Except.bind_eq_ok.1 harrange
  obtain ⟨out, hout, hps⟩ := Except.map_eq_ok.1 hrest
  obtain ⟨happend, hall⟩ := append_of_release hrelease
  exact ⟨held, rest, out, happend.symm, hall, hout, hps.symm⟩

/-! ### A part of a formula -/

/-- The tokens of an expression are put out in reverse Polish order, except that the operators at
its level or at tighter ones that still lack the end of their right operand keep waiting. -/
theorem Infix.arrange_append {ℓ : Level} {e : Expr} (h : Infix ℓ e ts) (rest : List Token)
    (hwaiting : Below ℓ.rank waiting) :
    ∃ out held, (∀ t ∈ held, t.Binds ℓ.rank) ∧ Postfix e (out ++ held) ∧
      arrange (ts ++ rest) waiting = (out ++ ·) <$> arrange rest (held ++ waiting) := by
  induction h generalizing rest waiting with
  | @number t hkind =>
    exact ⟨[t], [], by simp, .number hkind, arrange_operand (.inl hkind)⟩
  | @reference t hkind =>
    exact ⟨[t], [], by simp, .reference hkind, arrange_operand (.inr hkind)⟩
  | @parentheses e ts opening closing hopening hclosing h ih =>
    -- what the inner tokens leave waiting, the closing parenthesis puts out
    obtain ⟨out, held, hheld, hpost, harrange⟩ :=
      ih (closing :: rest) (below_opening _ hopening : Below _ (opening :: waiting))
    refine ⟨out ++ held, [], by simp, by rwa [List.append_nil], ?_⟩
    have hopen : opening :: ts ++ [closing] ++ rest = opening :: (ts ++ closing :: rest) := by simp
    rw [hopen, arrange_opening hopening, harrange,
      arrange_closing hclosing hopening fun u hu => (hheld u hu).ne_opening]
    simp
  | @loosen ℓ e ts h ih =>
    have hle := ℓ.rank_le_rank_tighter
    obtain ⟨out, held, hheld, hpost, harrange⟩ := ih rest (hwaiting.mono hle)
    exact ⟨out, held, fun t ht => (hheld t ht).mono hle, hpost, harrange⟩
  | @binary op l r ls rs t hl ht hr ihl ihr =>
    obtain ⟨outl, heldl, hheldl, hpostl, harrangel⟩ := ihl (t :: (rs ++ rest)) hwaiting
    obtain ⟨outr, heldr, hheldr, hpostr, harranger⟩ := ihr rest (ht.below : Below _ (t :: waiting))
    have hle := (level op).rank_le_rank_tighter
    -- the operator puts out what the left operand left waiting, and waits itself
    refine ⟨outl ++ heldl ++ outr, heldr ++ [t], ?_, ?_, ?_⟩
    · intro u hu
      rcases List.mem_append.1 hu with hu | hu
      · exact (hheldr u hu).mono hle
      · rw [List.mem_singleton.1 hu]
        exact ht.binds
    · have hpost := Postfix.binary hpostl hpostr ht
      simpa using hpost
    · rw [List.append_assoc, List.cons_append, harrangel, arrange_operator ht hheldl hwaiting,
        harranger]
      simp

/-- The tokens of an expression have a reverse Polish order, and it writes the same tree. -/
theorem Infix.reversePolish_eq {e : Expr} (h : Infix .expr e ts) :
    ∃ ps, reversePolish ts = .ok ps ∧ Postfix e ps := by
  obtain ⟨out, held, hheld, hpost, harrange⟩ := Infix.arrange_append h [] (below_nil _)
  have hrelease : releaseAll held = .ok held :=
    releaseAll_eq_ok.2 ⟨rfl, fun t ht => (hheld t ht).ne_opening⟩
  refine ⟨out ++ held, ?_, hpost⟩
  rw [reversePolish, ← List.append_nil ts, harrange, arrange, List.append_nil, hrelease]
  rfl

/-! ### Nothing but parentheses is lost -/

/-- Whether the token is a parenthesis. -/
def Token.isParenthesis (t : Token) : Bool := t.kind = .opening ∨ t.kind = .closing

theorem filter_ne_opening (h : ∀ t ∈ held, t.kind ≠ .opening) :
    held.filter (·.kind ≠ .opening) = held := by
  rw [List.filter_eq_self]
  simpa using h

/-- What comes out are the tokens and the waiting ones in some order, without the parentheses. -/
theorem perm_arrange {ps : List Token} (h : arrange ts waiting = .ok ps) :
    ps ~ ts.filter (!·.isParenthesis) ++ waiting.filter (·.kind ≠ .opening) := by
  induction ts generalizing waiting ps with
  | nil =>
    rw [arrange] at h
    obtain ⟨rfl, hall⟩ := releaseAll_eq_ok.1 h
    rw [filter_ne_opening hall]
    rfl
  | cons t ts ih =>
    cases hkind : t.kind with
    | number | reference =>
      rw [arrange_operand (by simp [hkind]), Except.map_eq_ok] at h
      obtain ⟨out, hout, rfl⟩ := h
      simpa [Token.isParenthesis, hkind] using ih hout
    | opening =>
      rw [arrange_opening hkind] at h
      simpa [Token.isParenthesis, hkind] using ih h
    | closing =>
      obtain ⟨held, opening, rest, out, rfl, hheld, hopening, hout, rfl⟩ :=
        arrange_closing_eq_ok hkind h
      rw [List.filter_append, filter_ne_opening hheld,
        List.filter_cons_of_neg (by simp [Token.isParenthesis, hkind]),
        List.filter_cons_of_neg (by simp [hopening])]
      calc held ++ out
          _ ~ held ++ (ts.filter (!·.isParenthesis) ++ rest.filter (·.kind ≠ .opening)) :=
            (ih hout).append_left held
          _ ~ ts.filter (!·.isParenthesis) ++ (held ++ rest.filter (·.kind ≠ .opening)) :=
            List.perm_append_comm_assoc _ _ _
    | operator | unknown =>
      obtain ⟨held, rest, out, rfl, hheld, hout, rfl⟩ := arrange_operator_eq_ok (by simp [hkind]) h
      have hne : ∀ u ∈ held, u.kind ≠ .opening := by
        intro u hu
        simp [hheld u hu]
      have hout := ih hout
      rw [List.filter_cons_of_pos (by simp [hkind])] at hout
      rw [List.filter_append, filter_ne_opening hne,
        List.filter_cons_of_pos (by simp [Token.isParenthesis, hkind])]
      calc held ++ out
          _ ~ held ++ (ts.filter (!·.isParenthesis) ++ t :: rest.filter (·.kind ≠ .opening)) :=
            hout.append_left held
          _ ~ held ++ t :: (ts.filter (!·.isParenthesis) ++ rest.filter (·.kind ≠ .opening)) :=
            List.perm_middle.append_left held
          _ ~ t :: (held ++ (ts.filter (!·.isParenthesis) ++ rest.filter (·.kind ≠ .opening))) :=
            List.perm_middle
          _ ~ t :: (ts.filter (!·.isParenthesis) ++ (held ++ rest.filter (·.kind ≠ .opening))) :=
            (List.perm_append_comm_assoc _ _ _).cons t

/-- Reverse Polish order moves the tokens and leaves out the parentheses, but nothing else. -/
theorem perm_reversePolish {ps : List Token} (h : reversePolish ts = .ok ps) :
    ps ~ ts.filter (!·.isParenthesis) := by
  have hperm := perm_arrange h
  rwa [List.filter_nil, List.append_nil] at hperm

theorem mem_of_mem_reversePolish {ps : List Token} (h : reversePolish ts = .ok ps) (ht : t ∈ ps) :
    t ∈ ts :=
  List.mem_of_mem_filter ((perm_reversePolish h).mem_iff.1 ht)

/-! ### Operands keep their order -/

/-- Operators and parentheses wait, but no operand does; so the operands come out in the order of
the tokens. -/
theorem operands_arrange {ps : List Token} (h : arrange ts waiting = .ok ps)
    (hwaiting : ∀ u ∈ waiting, u.isOperand = false) :
    ps.filter Token.isOperand = ts.filter Token.isOperand := by
  induction ts generalizing waiting ps with
  | nil =>
    obtain ⟨rfl, -⟩ := releaseAll_eq_ok.1 h
    exact List.filter_eq_nil_iff.2 (by simpa using hwaiting)
  | cons t ts ih =>
    -- what comes out of the waiting tokens adds no operand
    have happend : ∀ {held out : List Token}, (∀ u ∈ held, u ∈ waiting) →
        (held ++ out).filter Token.isOperand = out.filter Token.isOperand := by
      intro held out hheld
      have hnone : held.filter Token.isOperand = [] :=
        List.filter_eq_nil_iff.2 fun u hu => by simp [hwaiting u (hheld u hu)]
      rw [List.filter_append, hnone, List.nil_append]
    cases hkind : t.kind with
    | number | reference =>
      rw [arrange_operand (by simp [hkind])] at h
      obtain ⟨out, hout, rfl⟩ := Except.map_eq_ok.1 h
      have ht : t.isOperand = true := by simp [Token.isOperand, hkind]
      rw [List.filter_cons_of_pos ht, List.filter_cons_of_pos ht, ih hout hwaiting]
    | opening =>
      rw [arrange_opening hkind] at h
      have ht : t.isOperand = false := by simp [Token.isOperand, hkind]
      rw [List.filter_cons_of_neg (by simp [ht]), ih h (List.forall_mem_cons.2 ⟨ht, hwaiting⟩)]
    | closing =>
      obtain ⟨held, opening, rest, out, rfl, -, -, hout, rfl⟩ := arrange_closing_eq_ok hkind h
      rw [List.filter_cons_of_neg (by simp [Token.isOperand, hkind]),
        happend fun u hu => List.mem_append_left _ hu]
      refine ih hout fun u hu => hwaiting u ?_
      exact List.mem_append_right held (List.mem_cons_of_mem opening hu)
    | operator | unknown =>
      obtain ⟨held, rest, out, rfl, -, hout, rfl⟩ := arrange_operator_eq_ok (by simp [hkind]) h
      have ht : t.isOperand = false := by simp [Token.isOperand, hkind]
      rw [List.filter_cons_of_neg (by simp [ht]), happend fun u hu => List.mem_append_left _ hu]
      refine ih hout (List.forall_mem_cons.2 ⟨ht, fun u hu => hwaiting u ?_⟩)
      exact List.mem_append_right held hu

theorem operands_reversePolish {ps : List Token} (h : reversePolish ts = .ok ps) :
    ps.filter Token.isOperand = ts.filter Token.isOperand :=
  operands_arrange h (by simp)

end Worksheet.Formula
