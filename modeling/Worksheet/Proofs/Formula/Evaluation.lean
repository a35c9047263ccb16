import Worksheet.Proofs.Formula.ReversePolish
import Worksheet.Proofs.Formula.Tokens
import Worksheet.Proofs.Number.Plain

namespace Worksheet.Formula

open Number (Operation)

/-!
# The value stack evaluates trees

* `Postfix.foldlM_eq` — the tokens of a tree in reverse Polish order put its value on the stack;
* `Infix.evaluate_eq` — a formula has the value of the tree that its tokens write;
* `evaluate_congr` — the value of a text depends on the cells that it refers to and on nothing
  else, and not on the sign of a zero in them.
-/

variable {t : Token} {value value' : CellId → Value}

/-! ### Readings -/

namespace Reading

variable {α β γ δ : Type}

theorem map_mk (f : α → β) (asked : List CellId) (outcome : Except Failure α) :
    f <$> (⟨asked, outcome⟩ : Reading α) = ⟨asked, f <$> outcome⟩ := by
  cases outcome <;> simp [Functor.map, lift, Except.map]

theorem outcome_map (f : α → β) (m : Reading α) : (f <$> m).outcome = f <$> m.outcome := by
  rw [map_mk]

theorem outcome_bind (m : Reading α) (k : α → Reading β) :
    (m >>= k).outcome = m.outcome >>= fun a => (k a).outcome := by
  rcases m with ⟨asked, e | a⟩
  · rfl
  · rfl

theorem map_bind_ok (g : β → δ) (asked : List CellId) (a : α) (k : α → Reading β) :
    g <$> ((⟨asked, .ok a⟩ : Reading α) >>= k)
      = ⟨asked ++ (g <$> k a).asked, (g <$> k a).outcome⟩ := by
  have hbind : (⟨asked, .ok a⟩ : Reading α) >>= k = ⟨asked ++ (k a).asked, (k a).outcome⟩ := rfl
  rw [hbind, map_mk]
  rcases k a with ⟨more, outcome⟩
  rw [map_mk]

theorem bind_error (asked : List CellId) (e : Failure) (k : α → Reading β) :
    (⟨asked, .error e⟩ : Reading α) >>= k = ⟨asked, .error e⟩ := rfl

/-- Computations that are alike so far and go on alike are alike. -/
theorem map_bind_congr {f : α → γ} {g : β → δ} {m m' : Reading α} {k k' : α → Reading β}
    (hm : f <$> m' = f <$> m) (hk : ∀ a a', f a' = f a → g <$> k' a' = g <$> k a) :
    g <$> (m' >>= k') = g <$> (m >>= k) := by
  rcases m with ⟨asked, e | a⟩ <;> rcases m' with ⟨asked', e' | a'⟩ <;>
    simp only [map_mk, mk.injEq] at hm <;> obtain ⟨rfl, hm⟩ := hm
  case error.error =>
    have he : e' = e := by simpa [Functor.map, Except.map] using hm
    rw [he, bind_error, bind_error]
  case ok.ok =>
    -- both go on, with values that `f` does not tell apart
    have hnext := hk a a' (by simpa [Functor.map, Except.map] using hm)
    rw [map_bind_ok, map_bind_ok, hnext]
  all_goals simp [Functor.map, Except.map] at hm

end Reading

/-! ### One token -/

theorem step_number (stack : List Number) (h : t.kind = .number) :
    step value stack t = (· :: stack) <$> Reading.lift (literal t.text) := by
  rw [map_eq_pure_bind]
  simp only [step, h]

theorem step_reference (stack : List Number) (h : t.kind = .reference) :
    step value stack t
      = (· :: stack) <$> (⟨[t.text], operand t.text (value t.text)⟩ : Reading Number) := by
  rw [map_eq_pure_bind]
  simp only [step, h]

theorem step_operator (stack : List Number) (a b : Number) (h : t.isOperand = false) :
    step value (b :: a :: stack) t = (· :: stack) <$> Reading.lift (apply t.text a b) := by
  rw [map_eq_pure_bind]
  cases hkind : t.kind <;> simp [Token.isOperand, hkind] at h <;> simp only [step, hkind]

/-- Every token that is no operand takes two values from the stack. -/
theorem step_of_length_lt {stack : List Number} (h : t.isOperand = false)
    (hstack : stack.length < 2) :
    step value stack t = .fail (.fault (.missingOperand t.text t.position)) := by
  rcases stack with _ | ⟨b, _ | ⟨a, rest⟩⟩
  case cons.cons =>
    simp only [List.length_cons] at hstack
    omega
  all_goals cases hkind : t.kind <;> simp [Token.isOperand, hkind] at h <;> simp only [step, hkind]

theorem step_writes {op : Operation} (stack : List Number) (a b : Number) (h : t.Writes op) :
    step value (b :: a :: stack) t = (· :: stack) <$> Reading.lift (apply op.symbol a b) := by
  rw [step_operator stack a b (by simp [Token.isOperand, h.kind]), h.text]

/-! ### Trees -/

theorem foldlM_singleton (stack : List Number) :
    [t].foldlM (step value) stack = step value stack t := by
  simp only [List.foldlM_cons, List.foldlM_nil, bind_pure]

/-- The tokens of a tree leave the stack as it was below the value of the tree. -/
theorem Postfix.foldlM_eq {e : Expr} {ps : List Token} (h : Postfix e ps) (stack : List Number) :
    ps.foldlM (step value) stack = (· :: stack) <$> e.evaluate value := by
  induction h generalizing stack with
  | number hkind =>
    rw [foldlM_singleton, step_number stack hkind]
    rfl
  | reference hkind =>
    rw [foldlM_singleton, step_reference stack hkind]
    rfl
  | @binary op l r ls rs t _ _ ht ihl ihr =>
    -- the right operand is evaluated above the value of the left one
    rw [List.foldlM_append, List.foldlM_append, ihl stack, Expr.evaluate]
    simp only [bind_map_left, ihr, foldlM_singleton, step_writes stack _ _ ht, map_bind, bind_assoc]

theorem Postfix.evaluateTokens_eq {e : Expr} {ps : List Token} (h : Postfix e ps) :
    evaluateTokens value ps = e.evaluate value := by
  rw [evaluateTokens, Postfix.foldlM_eq h []]
  simp only [bind_map_left, bind_pure]

/-! ### Formulas -/

theorem evaluate_of_tokenize {text : String} {body : List Char} {ts : List Token}
    (hbody : body? text = some body) (hts : tokenize body = .ok ts) :
    evaluate value text
      = Reading.lift (reversePolish ts) >>= fun ps => Value.number <$> evaluateTokens value ps := by
  have htokens : Reading.lift ((tokenize body).mapError Failure.fault) = pure ts := by
    rw [hts]
    rfl
  simp only [evaluate, hbody, htokens, pure_bind, map_eq_pure_bind]

theorem evaluate_of_tokenize_error {text : String} {body : List Char} {f : Fault}
    (hbody : body? text = some body) (hts : tokenize body = .error f) :
    evaluate value text = Reading.fail (.fault f) := by
  simp only [evaluate, hbody, hts]
  rfl

/-- A formula has the value of the tree that its tokens write. -/
theorem Infix.evaluate_eq {text : String} {body : List Char} {ts : List Token} {e : Expr}
    (hbody : body? text = some body) (hts : tokenize body = .ok ts) (he : Infix .expr e ts) :
    evaluate value text = Value.number <$> e.evaluate value := by
  obtain ⟨ps, hps, hpost⟩ := Infix.reversePolish_eq he
  have hordered : Reading.lift (reversePolish ts) = pure ps := by
    rw [hps]
    rfl
  rw [evaluate_of_tokenize hbody hts, hordered, pure_bind, Postfix.evaluateTokens_eq hpost]

/-! ### Alike values -/

/-- An operand does not depend on the sign of a zero. -/
theorem operand_congr (cell : CellId) {v v' : Value} (h : v'.Alike v) :
    Number.plain <$> operand cell v' = Number.plain <$> operand cell v := by
  cases v <;> cases v'
  case number.number n n' =>
    have hn : n'.plain = n.plain := by simpa [Value.Alike] using h
    exact congrArg Except.ok hn
  case text.text | error.error | truth.truth | nothing.nothing =>
    cases h
    rfl
  all_goals cases h

/-- The result of an operator does not depend on the sign of a zero. -/
theorem apply_congr (operator : String) {a a' b b' : Number} (ha : a'.plain = a.plain)
    (hb : b'.plain = b.plain) :
    Number.plain <$> apply operator a' b' = Number.plain <$> apply operator a b := by
  have hcombine : (Number.combine (operation operator) a' b').map Number.plain
      = (Number.combine (operation operator) a b).map Number.plain := by
    rw [← Number.combine_plain, ha, hb, Number.combine_plain]
  unfold apply
  cases hc : Number.combine (operation operator) a b <;>
    cases hc' : Number.combine (operation operator) a' b' <;>
    simp only [hc, hc', Except.map, Except.ok.injEq, Except.error.injEq, reduceCtorEq] at hcombine
  case ok.ok => exact congrArg Except.ok hcombine
  case error.error => rw [hcombine]

/-- A token takes stacks that are alike to stacks that are alike. -/
theorem step_congr {stack stack' : List Number}
    (hstack : stack'.map Number.plain = stack.map Number.plain)
    (hvalue : t.kind = .reference → (value' t.text).Alike (value t.text)) :
    List.map Number.plain <$> step value' stack' t
      = List.map Number.plain <$> step value stack t := by
  -- every token puts one number on what it leaves of the stack
  have hpush : ∀ {m m' : Reading Number} {rest rest' : List Number},
      rest'.map Number.plain = rest.map Number.plain → Number.plain <$> m' = Number.plain <$> m →
      List.map Number.plain <$> (m' >>= fun a => pure (a :: rest'))
        = List.map Number.plain <$> (m >>= fun a => pure (a :: rest)) := by
    intro m m' rest rest' hrest hm
    apply Reading.map_bind_congr hm
    intro a a' ha
    simp only [map_pure, List.map_cons, ha, hrest]
  unfold step
  split
  case h_1 => exact hpush hstack rfl
  case h_2 hkind =>
    apply hpush hstack
    rw [Reading.map_mk, Reading.map_mk, operand_congr _ (hvalue hkind)]
  case h_3 =>
    rcases stack with _ | ⟨b, _ | ⟨a, rest⟩⟩ <;> rcases stack' with _ | ⟨b', _ | ⟨a', rest'⟩⟩ <;>
      simp only [List.map_cons, List.map_nil, List.cons.injEq, reduceCtorEq, and_false] at hstack
    case cons.cons.cons.cons =>
      apply hpush hstack.2.2
      rw [Reading.lift, Reading.lift, Reading.map_mk, Reading.map_mk,
        apply_congr _ hstack.2.1 hstack.1]
    all_goals rfl

theorem foldlM_congr {ps : List Token} {stack stack' : List Number}
    (hstack : stack'.map Number.plain = stack.map Number.plain)
    (hvalue : ∀ t ∈ ps, t.kind = .reference → (value' t.text).Alike (value t.text)) :
    List.map Number.plain <$> ps.foldlM (step value') stack'
      = List.map Number.plain <$> ps.foldlM (step value) stack := by
  induction ps generalizing stack stack' with
  | nil => simp only [List.foldlM_nil, map_pure, hstack]
  | cons t ps ih =>
    rw [List.foldlM_cons, List.foldlM_cons]
    refine Reading.map_bind_congr (step_congr hstack (hvalue t List.mem_cons_self)) ?_
    intro s s' hs
    exact ih hs fun u hu => hvalue u (List.mem_cons_of_mem t hu)

theorem evaluateTokens_congr {ps : List Token}
    (hvalue : ∀ t ∈ ps, t.kind = .reference → (value' t.text).Alike (value t.text)) :
    Number.plain <$> evaluateTokens value' ps = Number.plain <$> evaluateTokens value ps := by
  apply Reading.map_bind_congr (foldlM_congr rfl hvalue)
  intro s s' hs
  have hlength : s'.length = s.length := by
    rw [← List.length_map Number.plain, hs, List.length_map]
  rcases s with _ | ⟨n, _ | ⟨m, rest⟩⟩ <;> rcases s' with _ | ⟨n', _ | ⟨m', rest'⟩⟩ <;>
    simp only [List.length_cons, List.length_nil] at hlength
  case nil.nil => rfl
  case cons.nil.cons.nil =>
    have hn : n'.plain = n.plain := by simpa using hs
    simp only [map_pure, hn]
  case cons.cons.cons.cons => simp only [List.length_cons, hlength]
  all_goals omega

/-- The value of a text depends on the cells that it refers to and on nothing else, and not on
the sign of a zero in them. -/
theorem evaluate_congr (text : String)
    (hvalue : ∀ id ∈ references text, (value' id).Alike (value id)) :
    Value.plain <$> evaluate value' text = Value.plain <$> evaluate value text := by
  cases hbody : body? text with
  | none => simp only [evaluate, hbody]
  | some body =>
    cases hts : tokenize body with
    | error f =>
      rw [evaluate_of_tokenize_error hbody hts, evaluate_of_tokenize_error hbody hts]
    | ok ts =>
      rw [evaluate_of_tokenize hbody hts, evaluate_of_tokenize hbody hts]
      cases hps : reversePolish ts with
      | error e => rfl
      | ok ps =>
        have htokens : Number.plain <$> evaluateTokens value' ps
            = Number.plain <$> evaluateTokens value ps := by
          refine evaluateTokens_congr fun t ht hkind => hvalue t.text ?_
          exact mem_references hbody hts (mem_of_mem_reversePolish hps ht) hkind
        have hordered : Reading.lift (.ok ps) = pure ps := rfl
        rw [hordered, pure_bind, pure_bind]
        calc Value.plain <$> Value.number <$> evaluateTokens value' ps
            _ = Value.number <$> Number.plain <$> evaluateTokens value' ps := by
              simp only [← comp_map]
              rfl
            _ = Value.number <$> Number.plain <$> evaluateTokens value ps := by rw [htokens]
            _ = Value.plain <$> Value.number <$> evaluateTokens value ps := by
              simp only [← comp_map]
              rfl

end Worksheet.Formula
