import Mathlib.Data.List.Chain
import Worksheet.Proofs.Formula.Failures

namespace Worksheet.Formula

open Number (Operation)

/-!
# Side by side in a formula

* `Kind.Meets`, `Alternates` — which tokens can stand side by side in the grammar;
* `Infix.alternates` — the tokens of an expression alternate;
* `Parsing` — what the tokens up to some place write, and one lemma for each kind of token that can
  follow there;
* `infix_of_arrange` — tokens that alternate write an expression if they have a reverse Polish
  order and one operand more than operators;
* `infix_iff_alternates` — a formula with a value is one of the grammar exactly if its tokens
  alternate, and one whose tokens alternate has no value outside the grammar;
* `evaluate_adjacent_operands` — a formula outside the grammar that has a value.

Neither the reverse Polish order nor the value stack looks at the tokens beside an operator.
-/

variable {t : Token} {ts us waiting : List Token}

/-! ### Alternation -/

/-- Whether the token ends an operand. -/
def Kind.ends : Kind → Bool
  | .number | .reference | .closing => true
  | .operator | .opening | .unknown => false

/-- Whether the token goes on behind an operand. -/
def Kind.continues : Kind → Bool
  | .operator | .closing => true
  | .number | .reference | .opening | .unknown => false

/-- Whether the second token can stand behind the first one. -/
def Kind.Meets (first second : Kind) : Prop := first.ends = second.continues

instance : DecidableRel Kind.Meets := fun first second =>
  inferInstanceAs (Decidable (first.ends = second.continues))

/-- Whether operators and closing parentheses stand behind operands, and everything else at the
beginning, behind an operator or behind an opening parenthesis. -/
def Alternates (ts : List Token) : Prop :=
  (Kind.opening :: ts.map Token.kind).IsChain Kind.Meets

instance (ts : List Token) : Decidable (Alternates ts) :=
  inferInstanceAs (Decidable ((Kind.opening :: ts.map Token.kind).IsChain Kind.Meets))

/-- The tokens of an expression alternate with any tokens that do so behind an operand. -/
theorem Infix.isChain {ℓ : Level} {e : Expr} (h : Infix ℓ e ts) {first : Kind} {rest : List Kind}
    (hfirst : first.ends = false)
    (hrest : ∀ last : Kind, last.ends = true → (last :: rest).IsChain Kind.Meets) :
    (first :: (ts.map Token.kind ++ rest)).IsChain Kind.Meets := by
  induction h generalizing first rest with
  | @number t hkind | @reference t hkind =>
    rw [List.map_singleton, List.singleton_append, hkind, List.isChain_cons_cons]
    exact ⟨hfirst, hrest _ rfl⟩
  | @parentheses e ts opening closing hopening hclosing h ih =>
    have htail : ((Kind.opening :: (ts.map Token.kind ++ .closing :: rest))).IsChain Kind.Meets :=
      ih rfl fun last hlast => List.isChain_cons_cons.2 ⟨hlast, hrest .closing rfl⟩
    have hkinds : (opening :: ts ++ [closing]).map Token.kind ++ rest
        = .opening :: (ts.map Token.kind ++ .closing :: rest) := by
      simp [hopening, hclosing]
    rw [hkinds, List.isChain_cons_cons]
    exact ⟨hfirst, htail⟩
  | loosen h ih => exact ih hfirst hrest
  | @binary op l r ls rs t hl ht hr ihl ihr =>
    have hkinds : (ls ++ t :: rs).map Token.kind ++ rest
        = ls.map Token.kind ++ .operator :: (rs.map Token.kind ++ rest) := by
      simp [ht.kind]
    rw [hkinds]
    exact ihl hfirst fun last hlast => List.isChain_cons_cons.2 ⟨hlast, ihr rfl hrest⟩

theorem Infix.alternates {e : Expr} (h : Infix .expr e ts) : Alternates ts := by
  have hchain : (Kind.opening :: (ts.map Token.kind ++ [])).IsChain Kind.Meets :=
    Infix.isChain h rfl fun last _ => List.isChain_singleton last
  rwa [List.append_nil] at hchain

/-! ### Parts of an expression -/

/-- Tokens that write an expression whose last term can still grow. -/
inductive Complete : List Token → Prop
  | term {e : Expr} {us : List Token} : Infix .term e us → Complete us
  | sum {op : Operation} {l r : Expr} {ls rs : List Token} {t : Token} : Infix .expr l ls →
    t.Writes op → level op = .expr → Infix .term r rs → Complete (ls ++ t :: rs)

/-- Tokens that an operand can follow. -/
inductive Ready : List Token → Prop
  | start : Ready []
  | operator {op : Operation} {us : List Token} {t : Token} : Complete us → t.Writes op →
    Ready (us ++ [t])

theorem infix_binary {ℓ : Level} {op : Operation} {l r : Expr} {ls rs : List Token}
    (hℓ : level op = ℓ) (hl : Infix ℓ l ls) (ht : t.Writes op) (hr : Infix ℓ.tighter r rs) :
    Infix ℓ (.binary op l r) (ls ++ t :: rs) := by
  subst hℓ
  exact .binary hl ht hr

theorem Complete.exists_tree (h : Complete us) : ∃ e, Infix .expr e us := by
  cases h with
  | term he => exact ⟨_, .loosen he⟩
  | sum hl ht hop hr => exact ⟨_, infix_binary hop hl ht hr⟩

theorem exists_factor (h : t.kind = .number ∨ t.kind = .reference) : ∃ e, Infix .factor e [t] := by
  rcases h with h | h
  · exact ⟨_, .number h⟩
  · exact ⟨_, .reference h⟩

/-- A factor completes the expression. -/
theorem Ready.complete (h : Ready us) {e : Expr} (he : Infix .factor e ts) :
    Complete (us ++ ts) := by
  cases h with
  | start => exact .term (.loosen he)
  | @operator op us t hus ht =>
    rw [List.append_assoc, List.singleton_append]
    cases hop : level op with
    | expr =>
      obtain ⟨l, hl⟩ := hus.exists_tree
      exact .sum hl ht hop (.loosen he)
    | term =>
      -- a factor of the last term
      cases hus with
      | term hl => exact .term (infix_binary hop hl ht he)
      | @sum op' l r ls rs t' hl ht' hop' hr =>
        rw [List.append_assoc, List.cons_append]
        exact .sum hl ht' hop' (infix_binary hop hr ht he)
    | factor => cases op <;> cases hop

/-! ### Parentheses that are still open -/

/-- The tokens with the ones before them, where each of the `frames` consists of the tokens before
an open parenthesis and of that parenthesis, the innermost one first. -/
def enclose : List (List Token × Token) → List Token → List Token
  | [], us => us
  | (before, opening) :: frames, us => enclose frames (before ++ opening :: us)

theorem enclose_append (frames : List (List Token × Token)) (us ts : List Token) :
    enclose frames (us ++ ts) = enclose frames us ++ ts := by
  induction frames generalizing us with
  | nil => rfl
  | cons frame frames ih =>
    rw [enclose, enclose, ← ih]
    simp

/-- Whether the tokens before each open parenthesis can be followed by an operand. -/
def Open (frames : List (List Token × Token)) : Prop :=
  ∀ frame ∈ frames, Ready frame.1 ∧ frame.2.kind = .opening

/-- The number of open parentheses among the waiting tokens. -/
def depth (waiting : List Token) : Nat := waiting.countP (·.kind = .opening)

theorem depth_cons_of_ne (h : t.kind ≠ .opening) : depth (t :: waiting) = depth waiting := by
  simp [depth, h]

theorem depth_cons_opening (h : t.kind = .opening) : depth (t :: waiting) = depth waiting + 1 := by
  simp [depth, h]

theorem depth_append {held : List Token} (h : ∀ u ∈ held, u.kind ≠ .opening) :
    depth (held ++ waiting) = depth waiting := by
  rw [depth, List.countP_append, List.countP_eq_zero.2 (by simpa using h), Nat.zero_add]
  rfl

/-! ### Numbers of operands and operators -/

/-- Whether the token takes its operands from the stack. -/
def Token.isOperator (t : Token) : Bool := t.kind = .operator ∨ t.kind = .unknown

/-- Whether there is one operand more than operators, where the tokens before end with an operand
or not. -/
def Balanced (complete : Bool) (ts : List Token) : Prop :=
  ts.countP Token.isOperand + complete.toNat = ts.countP Token.isOperator + 1

/-- An operand is followed by an operator, and an operator by an operand. -/
theorem Balanced.tail {last : Kind} (h : Balanced last.ends (t :: ts)) (hmeets : last.Meets t.kind)
    (hknown : t.kind ≠ .unknown) : Balanced t.kind.ends ts := by
  have hends : last.ends = t.kind.continues := hmeets
  rw [hends] at h
  cases hkind : t.kind
  case unknown => exact absurd hkind hknown
  all_goals
    simp [Balanced, hkind, Token.isOperand, Token.isOperator, Kind.ends, Kind.continues] at h ⊢
    omega

/-! ### Reading on -/

section Parsing

variable {last : Kind} {frames : List (List Token × Token)}

/-- What the tokens read so far write: between any two open parentheses, and behind the last one,
something that an operand or an operator can follow. -/
structure Parsing (last : Kind) (frames : List (List Token × Token)) (us waiting : List Token) :
    Prop where
  enclosing : Open frames
  /-- The parentheses that wait are those that are open. -/
  nesting : depth waiting = frames.length
  complete : last.ends = true → Complete us
  ready : last.ends = false → Ready us

theorem Parsing.start : Parsing .opening [] [] [] where
  enclosing frame hframe := absurd hframe List.not_mem_nil
  nesting := rfl
  complete h := absurd h (by decide)
  ready _ := .start

theorem Parsing.operand (h : Parsing last frames us waiting) (hlast : last.ends = false)
    (hkind : t.kind = .number ∨ t.kind = .reference) :
    Parsing t.kind frames (us ++ [t]) waiting where
  enclosing := h.enclosing
  nesting := h.nesting
  complete _ := by
    obtain ⟨e, he⟩ := exists_factor hkind
    exact (h.ready hlast).complete he
  ready hends := by rcases hkind with hkind | hkind <;> simp [hkind, Kind.ends] at hends

/-- Behind an opening parenthesis begins an expression of its own. -/
theorem Parsing.opening (h : Parsing last frames us waiting) (hlast : last.ends = false)
    (hkind : t.kind = .opening) : Parsing t.kind ((us, t) :: frames) [] (t :: waiting) where
  enclosing frame hframe := by
    rcases List.mem_cons.1 hframe with rfl | hframe
    · exact ⟨h.ready hlast, hkind⟩
    · exact h.enclosing frame hframe
  nesting := by rw [depth_cons_opening hkind, h.nesting, List.length_cons]
  complete hends := by simp [hkind, Kind.ends] at hends
  ready _ := .start

/-- A closing parenthesis makes a factor of what stands behind the last open one. -/
theorem Parsing.closing {held rest : List Token} {opening : Token}
    (h : Parsing last frames us (held ++ opening :: rest)) (hlast : last.ends = true)
    (hkind : t.kind = .closing) (hheld : ∀ u ∈ held, u.kind ≠ .opening)
    (hopening : opening.kind = .opening) :
    ∃ before outer frames', frames = (before, outer) :: frames' ∧
      Parsing t.kind frames' (before ++ (outer :: us ++ [t])) rest := by
  have hdepth := h.nesting
  rw [depth_append hheld, depth_cons_opening hopening] at hdepth
  obtain ⟨⟨before, outer⟩, frames', rfl⟩ :=
    List.exists_cons_of_length_pos (by omega : 0 < frames.length)
  obtain ⟨hbefore, houter⟩ := h.enclosing _ List.mem_cons_self
  obtain ⟨e, he⟩ := (h.complete hlast).exists_tree
  refine ⟨before, outer, frames', rfl, ?_⟩
  constructor
  case enclosing => exact fun frame hframe => h.enclosing frame (List.mem_cons_of_mem _ hframe)
  case nesting => simpa using hdepth
  case complete => exact fun _ => hbefore.complete (.parentheses houter hkind he)
  case ready => simp [hkind, Kind.ends]

theorem Parsing.operator {held rest : List Token}
    (h : Parsing last frames us (held ++ rest)) (hlast : last.ends = true)
    (hkind : t.kind = .operator) (hheld : ∀ u ∈ held, u.kind = .operator) {op : Operation}
    (hop : t.Writes op) : Parsing t.kind frames (us ++ [t]) (t :: rest) where
  enclosing := h.enclosing
  nesting := by
    have hdepth := h.nesting
    rw [depth_append fun u hu => by simp [hheld u hu]] at hdepth
    rw [depth_cons_of_ne (by simp [hkind]), hdepth]
  complete hends := by simp [hkind, Kind.ends] at hends
  ready _ := .operator (h.complete hlast) hop

/-- At the end nothing is open, if the parentheses match and there are enough operands. -/
theorem Parsing.finish {ps : List Token} (h : Parsing last frames us waiting)
    (hrelease : releaseAll waiting = .ok ps) (hcount : Balanced last.ends []) :
    ∃ e, Infix .expr e (enclose frames us) := by
  have hlast : last.ends = true := by
    cases hends : last.ends with
    | true => rfl
    | false => simp [Balanced, hends] at hcount
  have hnone : depth waiting = 0 :=
    List.countP_eq_zero.2 (by simpa using (releaseAll_eq_ok.1 hrelease).2)
  have hempty : frames = [] := by
    rw [h.nesting] at hnone
    exact List.length_eq_zero_iff.1 hnone
  rw [hempty, enclose]
  exact (h.complete hlast).exists_tree

end Parsing

/-- Tokens that alternate write an expression if their parentheses match and if there is one
operand more than operators. -/
theorem infix_of_arrange {last : Kind} {frames : List (List Token × Token)} {ps : List Token}
    (h : Parsing last frames us waiting) (harrange : arrange ts waiting = .ok ps)
    (hchain : (last :: ts.map Token.kind).IsChain Kind.Meets) (hproper : ∀ t ∈ ts, t.Proper)
    (hcount : Balanced last.ends ts) : ∃ e, Infix .expr e (enclose frames us ++ ts) := by
  induction ts generalizing last frames us waiting ps with
  | nil =>
    rw [arrange] at harrange
    rw [List.append_nil]
    exact h.finish harrange hcount
  | cons t ts ih =>
    rw [List.map_cons, List.isChain_cons_cons] at hchain
    obtain ⟨hmeets, hchain⟩ := hchain
    have ht : t.Proper := hproper t List.mem_cons_self
    have hproper : ∀ u ∈ ts, u.Proper := fun u hu => hproper u (List.mem_cons_of_mem t hu)
    have hcount : Balanced t.kind.ends ts := hcount.tail hmeets ht.known
    have hshift : enclose frames us ++ t :: ts = enclose frames (us ++ [t]) ++ ts := by
      rw [enclose_append, List.append_assoc, List.singleton_append]
    rw [hshift]
    -- what the token before it ends decides which tokens can stand here
    cases hkind : t.kind with
    | number | reference =>
      have hlast : last.ends = false := by rwa [hkind] at hmeets
      rw [arrange_operand (by simp [hkind])] at harrange
      obtain ⟨out, hout, -⟩ := Except.map_eq_ok.1 harrange
      exact ih (h.operand hlast (by simp [hkind])) hout hchain hproper hcount
    | opening =>
      have hlast : last.ends = false := by rwa [hkind] at hmeets
      rw [arrange_opening hkind] at harrange
      show ∃ e, Infix .expr e (enclose ((us, t) :: frames) [] ++ ts)
      exact ih (h.opening hlast hkind) harrange hchain hproper hcount
    | closing =>
      have hlast : last.ends = true := by rwa [hkind] at hmeets
      obtain ⟨held, opening, rest, out, rfl, hheld, hopening, hout, -⟩ :=
        arrange_closing_eq_ok hkind harrange
      obtain ⟨before, outer, frames', rfl, hnext⟩ := h.closing hlast hkind hheld hopening
      rw [enclose, ← List.cons_append]
      exact ih hnext hout hchain hproper hcount
    | operator =>
      have hlast : last.ends = true := by rwa [hkind] at hmeets
      obtain ⟨op, hop⟩ := ht.operator hkind
      obtain ⟨held, rest, out, rfl, hheld, hout, -⟩ :=
        arrange_operator_eq_ok (.inl hkind) harrange
      exact ih (h.operator hlast hkind hheld hop) hout hchain hproper hcount
    | unknown => exact absurd hkind ht.known

/-! ### Values -/

variable {value : CellId → Value}

/-- An operand makes the stack longer by one value, and an operator makes it shorter by one. -/
theorem step_length {stack stack' : List Number} (h : (step value stack t).outcome = .ok stack') :
    stack'.length + (if !t.isOperand then 1 else 0)
      = stack.length + (if t.isOperand then 1 else 0) := by
  unfold step at h
  split at h
  case h_1 hkind =>
    rw [← map_eq_pure_bind, Reading.outcome_map] at h
    obtain ⟨n, -, rfl⟩ := Except.map_eq_ok.1 h
    simp [Token.isOperand, hkind]
  case h_2 hkind =>
    rw [← map_eq_pure_bind, Reading.outcome_map] at h
    obtain ⟨n, -, rfl⟩ := Except.map_eq_ok.1 h
    simp [Token.isOperand, hkind]
  case h_3 hnumber hreference =>
    have hoperand : t.isOperand = false := by
      simpa [Token.isOperand] using ⟨hnumber, hreference⟩
    split at h
    case h_1 =>
      rw [← map_eq_pure_bind, Reading.outcome_map] at h
      obtain ⟨n, -, rfl⟩ := Except.map_eq_ok.1 h
      simp [hoperand]
    case h_2 => cases h

theorem foldlM_length {ps : List Token} {stack stack' : List Number}
    (h : (ps.foldlM (step value) stack).outcome = .ok stack') :
    stack'.length + ps.countP (!·.isOperand) = stack.length + ps.countP Token.isOperand := by
  induction ps generalizing stack with
  | nil =>
    obtain rfl : stack = stack' := Except.ok.inj h
    rfl
  | cons t ps ih =>
    rw [List.foldlM_cons, Reading.outcome_bind] at h
    obtain ⟨middle, hstep, hrest⟩ := Except.bind_eq_ok.1 h
    have hlength := step_length hstep
    have hrest := ih hrest
    rw [List.countP_cons, List.countP_cons]
    omega

/-- Tokens with a value have one operand more than operators. -/
theorem balanced_of_evaluateTokens {ps : List Token} {n : Number} (hps : reversePolish ts = .ok ps)
    (h : (evaluateTokens value ps).outcome = .ok n) : Balanced false ts := by
  rw [evaluateTokens, Reading.outcome_bind] at h
  obtain ⟨stack, hstack, h⟩ := Except.bind_eq_ok.1 h
  have hlength := foldlM_length hstack
  split at h
  case h_1 =>
    have hoperands : ps.countP Token.isOperand = ts.countP Token.isOperand := by
      rw [(perm_reversePolish hps).countP_eq, List.countP_filter]
      congr 1
      funext u
      cases hkind : u.kind <;> simp [Token.isOperand, Token.isParenthesis, hkind]
    have hoperators : ps.countP (!·.isOperand) = ts.countP Token.isOperator := by
      rw [(perm_reversePolish hps).countP_eq, List.countP_filter]
      congr 1
      funext u
      cases hkind : u.kind <;>
        simp [Token.isOperand, Token.isOperator, Token.isParenthesis, hkind]
    rw [hoperands, hoperators] at hlength
    simp only [List.length_cons, List.length_nil] at hlength
    rw [Balanced, Bool.toNat_false]
    omega
  case h_2 => cases h

theorem infix_of_alternates {text : String} {body : List Char} {v : Value}
    (hbody : body? text = some body) (hts : tokenize body = .ok ts)
    (hv : (evaluate value text).outcome = .ok v) (halternates : Alternates ts) :
    ∃ e, Infix .expr e ts := by
  rw [evaluate_of_tokenize hbody hts, Reading.outcome_bind] at hv
  obtain ⟨ps, hps, hv⟩ := Except.bind_eq_ok.1 hv
  rw [Reading.outcome_map] at hv
  obtain ⟨n, hn, -⟩ := Except.map_eq_ok.1 hv
  exact infix_of_arrange .start hps halternates (fun t ht => proper_of_tokenize hts ht)
    (balanced_of_evaluateTokens hps hn)

/-- The formulas with a value and the grammar.  A formula with a value is one of the grammar, and
then its value is the one of its tree, exactly if its tokens alternate.  A formula whose tokens
alternate without being one of the grammar has a fault instead of a value, unless a cell that it
refers to holds an unreadable text. -/
theorem infix_iff_alternates {text : String} {body : List Char} (hbody : body? text = some body) :
    (∀ v, (evaluate value text).outcome = .ok v → ∃ ts, tokenize body = .ok ts ∧
      ((∃ e, Infix .expr e ts ∧ evaluate value text = Value.number <$> e.evaluate value)
        ↔ Alternates ts)) ∧
    (∀ ts, tokenize body = .ok ts → Alternates ts → (¬ ∃ e, Infix .expr e ts) →
      ∃ failure, (evaluate value text).outcome = .error failure ∧
        failure.Explained value (references text)) ∧
    (∀ f, tokenize body = .error f → (evaluate value text).outcome = .error (.fault f)) := by
  refine ⟨?_, ?_, ?_⟩
  · intro v hv
    cases hts : tokenize body with
    | error f =>
      rw [evaluate_of_tokenize_error hbody hts] at hv
      cases hv
    | ok ts =>
      refine ⟨ts, rfl, ?_, ?_⟩
      · rintro ⟨e, he, -⟩
        exact Infix.alternates he
      · intro halternates
        obtain ⟨e, he⟩ := infix_of_alternates hbody hts hv halternates
        exact ⟨e, he, Infix.evaluate_eq hbody hts he⟩
  · intro ts hts halternates hnone
    cases houtcome : (evaluate value text).outcome with
    | error failure => exact ⟨failure, rfl, evaluate_eq_error hbody houtcome⟩
    | ok v => exact absurd (infix_of_alternates hbody hts houtcome halternates) hnone
  · intro f hts
    rw [evaluate_of_tokenize_error hbody hts]
    rfl

/-- The two operands of `1 2+` stand before their operator, and so the formula has their sum for
value. -/
theorem evaluate_adjacent_operands :
    (evaluate (fun _ => .nothing) "=1 2+").outcome = .ok (.number (.int 3)) ∧
      ∃ ts, tokenize ['1', ' ', '2', '+'] = .ok ts ∧ ¬ ∃ e, Infix .expr e ts := by
  refine ⟨by decide +kernel, [⟨.number, "1", 0⟩, ⟨.number, "2", 2⟩, ⟨.operator, "+", 3⟩],
    by decide +kernel, ?_⟩
  rintro ⟨e, he⟩
  exact absurd (Infix.alternates he) (by decide)

theorem infix_iff_alternates_sum :
    body? "=1+2" = some ['1', '+', '2'] ∧
      (evaluate (fun _ => .nothing) "=1+2").outcome = .ok (.number (.int 3)) ∧
      ∃ ts, tokenize ['1', '+', '2'] = .ok ts ∧
        ((∃ e, Infix .expr e ts ∧
          evaluate (fun _ => .nothing) "=1+2" = Value.number <$> e.evaluate fun _ => .nothing)
            ↔ Alternates ts) := by
  have hbody : body? "=1+2" = some ['1', '+', '2'] := by decide
  have hv : (evaluate (fun _ => .nothing) "=1+2").outcome = .ok (.number (.int 3)) := by
    decide +kernel
  exact ⟨hbody, hv, (infix_iff_alternates hbody).1 _ hv⟩

end Worksheet.Formula
