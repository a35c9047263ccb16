import Worksheet.Proofs.Formula.Evaluation
import Worksheet.Recalculation

namespace Worksheet.Formula

open Text (upperOf)

/-!
# A formula asks for the cells that it refers to

* `referred` — the cells that tokens refer to;
* `referred_reversePolish` — reverse Polish order keeps them, in their order;
* `Reading.Follows` — a computation asks for the cells of a list from the first one on, and for all
  of them unless it fails on the way;
* `exists_operand_of_evaluate` — a text with a value has an operand in each cell that it refers to;
* `asked_isPrefix_references` — the evaluation of a text asks for the cells that the text refers to,
  in the order of the text and as often as it names them.
-/

variable {t : Token} {ts : List Token} {value value' : CellId → Value}

/-! ### Order of the references -/

/-- The cells that the tokens refer to, in order and with repetitions. -/
def referred (ts : List Token) : List CellId := (ts.filter (·.kind = .reference)).map (·.text)

theorem referred_cons_of_eq (h : t.kind = .reference) (ts : List Token) :
    referred (t :: ts) = t.text :: referred ts := by
  rw [referred, List.filter_cons_of_pos (by simpa using h)]
  rfl

theorem referred_cons_of_ne (h : t.kind ≠ .reference) (ts : List Token) :
    referred (t :: ts) = referred ts := by
  rw [referred, List.filter_cons_of_neg (by simpa using h)]
  rfl

theorem referred_append (ts us : List Token) : referred (ts ++ us) = referred ts ++ referred us := by
  rw [referred, List.filter_append, List.map_append]
  rfl

/-- References are operands, which reverse Polish order keeps in their order. -/
theorem referred_reversePolish {ps : List Token} (h : reversePolish ts = .ok ps) :
    referred ps = referred ts := by
  have hoperands : ∀ us : List Token, referred us = referred (us.filter Token.isOperand) := by
    intro us
    rw [referred, referred, List.filter_filter]
    congr 2
    funext u
    cases hkind : u.kind <;> simp [Token.isOperand, hkind]
  rw [hoperands ps, operands_reversePolish h, ← hoperands]

theorem references_of_tokenize {text : String} {body : List Char} (hbody : body? text = some body)
    (hts : tokenize body = .ok ts) : references text = referred ts := by
  obtain ⟨rfl, -⟩ := tokenize_eq_ok hts
  simp only [references, hbody, referred]

/-! ### Cells asked for -/

namespace Reading

variable {α β : Type} {m : Reading α} {cells more : List CellId}

/-- Whether a computation asks for the cells of a list in their order, and for all of them if it
succeeds. -/
structure Follows (m : Reading α) (cells : List CellId) : Prop where
  isPrefix : m.asked <+: cells
  all : ∀ a, m.outcome = .ok a → m.asked = cells

theorem follows_lift (outcome : Except Failure α) : (lift outcome).Follows [] where
  isPrefix := List.nil_prefix
  all _ _ := rfl

/-- A failure follows everything that was still to come. -/
theorem follows_fail (failure : Failure) (cells : List CellId) :
    (fail failure : Reading α).Follows cells where
  isPrefix := List.nil_prefix
  all _ h := by cases h

theorem Follows.bind {k : α → Reading β} (hm : m.Follows cells)
    (hk : ∀ a, (k a).Follows more) : (m >>= k).Follows (cells ++ more) := by
  rcases m with ⟨asked, e | a⟩
  · -- the second computation does not begin
    exact ⟨hm.isPrefix.trans (List.prefix_append cells more), fun b hb => by cases hb⟩
  · obtain rfl : asked = cells := hm.all a rfl
    have hbind : (⟨asked, .ok a⟩ : Reading α) >>= k = ⟨asked ++ (k a).asked, (k a).outcome⟩ := rfl
    rw [hbind]
    refine ⟨(List.prefix_append_right_inj asked).2 (hk a).isPrefix, fun b hb => ?_⟩
    exact congrArg (asked ++ ·) ((hk a).all b hb)

theorem Follows.map (hm : m.Follows cells) (f : α → β) : (f <$> m).Follows cells := by
  rw [map_eq_pure_bind, ← List.append_nil cells]
  exact hm.bind fun a => follows_lift (.ok (f a))

end Reading

open Reading (follows_lift follows_fail)

/-- A reference asks for its cell, and no other token asks for anything. -/
theorem follows_step (stack : List Number) (t : Token) :
    (step value stack t).Follows (referred [t]) := by
  unfold step
  split
  case h_1 hkind =>
    rw [referred_cons_of_ne (by simp [hkind]), ← map_eq_pure_bind]
    exact (follows_lift _).map _
  case h_2 hkind =>
    rw [referred_cons_of_eq hkind, ← map_eq_pure_bind]
    exact Reading.Follows.map ⟨List.prefix_refl _, fun _ _ => rfl⟩ _
  case h_3 hreference =>
    rw [referred_cons_of_ne hreference]
    split
    case h_1 =>
      rw [← map_eq_pure_bind]
      exact (follows_lift _).map _
    case h_2 => exact follows_fail _ _

theorem follows_foldlM (ps : List Token) (stack : List Number) :
    (ps.foldlM (step value) stack).Follows (referred ps) := by
  induction ps generalizing stack with
  | nil => exact follows_lift (.ok stack)
  | cons t ps ih =>
    rw [List.foldlM_cons, ← List.singleton_append, referred_append]
    exact (follows_step stack t).bind ih

theorem follows_evaluateTokens (ps : List Token) :
    (evaluateTokens value ps).Follows (referred ps) := by
  rw [← List.append_nil (referred ps)]
  refine (follows_foldlM ps []).bind fun stack => ?_
  split
  case h_1 n => exact follows_lift (.ok n)
  case h_2 => exact follows_fail _ _

/-- Where the tokens or their order have a fault, no cell is asked for. -/
theorem follows_evaluate (value : CellId → Value) (text : String) :
    (evaluate value text).Follows (references text) := by
  cases hbody : body? text with
  | none =>
    simp only [evaluate, references, hbody]
    exact follows_lift _
  | some body =>
    cases hts : tokenize body with
    | error f =>
      rw [evaluate_of_tokenize_error hbody hts]
      exact follows_fail _ _
    | ok ts =>
      rw [evaluate_of_tokenize hbody hts, references_of_tokenize hbody hts]
      cases hps : reversePolish ts with
      | error e => exact follows_fail e _
      | ok ps =>
        rw [← referred_reversePolish hps]
        exact (follows_evaluateTokens ps).map Value.number

/-! ### Cells that matter -/

theorem step_eq_of_agree (stack : List Number)
    (h : ∀ id ∈ referred [t], value' id = value id) : step value' stack t = step value stack t := by
  unfold step
  split
  case h_2 hkind => rw [h t.text (by rw [referred_cons_of_eq hkind]; exact List.mem_cons_self)]
  all_goals rfl

theorem foldlM_eq_of_agree {ps : List Token} (stack : List Number)
    (h : ∀ id ∈ referred ps, value' id = value id) :
    ps.foldlM (step value') stack = ps.foldlM (step value) stack := by
  induction ps generalizing stack with
  | nil => rfl
  | cons t ps ih =>
    rw [← List.singleton_append, referred_append] at h
    have hstep := step_eq_of_agree stack fun id hid => h id (List.mem_append_left _ hid)
    rw [List.foldlM_cons, List.foldlM_cons, hstep]
    congr 1
    funext stack'
    exact ih stack' fun id hid => h id (List.mem_append_right _ hid)

/-- The evaluation of a text depends on the values of the cells that it refers to and on nothing
else. -/
theorem evaluate_eq_of_agree {text : String} (h : ∀ id ∈ references text, value' id = value id) :
    evaluate value' text = evaluate value text := by
  cases hbody : body? text with
  | none => simp only [evaluate, hbody]
  | some body =>
    cases hts : tokenize body with
    | error f => rw [evaluate_of_tokenize_error hbody hts, evaluate_of_tokenize_error hbody hts]
    | ok ts =>
      rw [references_of_tokenize hbody hts] at h
      rw [evaluate_of_tokenize hbody hts, evaluate_of_tokenize hbody hts]
      cases hps : reversePolish ts with
      | error e => rfl
      | ok ps =>
        rw [← referred_reversePolish hps] at h
        have hordered : Reading.lift (.ok ps) = pure ps := rfl
        rw [hordered, pure_bind, pure_bind, evaluateTokens, evaluateTokens,
          foldlM_eq_of_agree [] h]

/-! ### Operands -/

/-- Where tokens have a value, there is an operand behind each reference among them. -/
theorem exists_operand_of_foldlM {ps : List Token} {stack out : List Number} {id : CellId}
    (h : (ps.foldlM (step value) stack).outcome = .ok out) (hid : id ∈ referred ps) :
    ∃ n, operand id (value id) = .ok n := by
  induction ps generalizing stack with
  | nil => exact absurd hid List.not_mem_nil
  | cons t ps ih =>
    rw [List.foldlM_cons, Reading.outcome_bind] at h
    obtain ⟨next, hstep, hrest⟩ := Except.bind_eq_ok.1 h
    by_cases hkind : t.kind = .reference
    case pos =>
      rw [referred_cons_of_eq hkind] at hid
      rcases List.mem_cons.1 hid with rfl | hid
      · rw [step_reference stack hkind, Reading.outcome_map] at hstep
        obtain ⟨n, hn, -⟩ := Except.map_eq_ok.1 hstep
        exact ⟨n, hn⟩
      · exact ih hrest hid
    case neg =>
      rw [referred_cons_of_ne hkind] at hid
      exact ih hrest hid

/-- Where a text has a value, there is an operand in each cell that it refers to. -/
theorem exists_operand_of_evaluate {text : String} {v : Value} {id : CellId}
    (h : (evaluate value text).outcome = .ok v) (hid : id ∈ references text) :
    ∃ n, operand id (value id) = .ok n := by
  cases hbody : body? text with
  | none => simp only [references, hbody, List.not_mem_nil] at hid
  | some body =>
    cases hts : tokenize body with
    | error f =>
      rw [evaluate_of_tokenize_error hbody hts] at h
      cases h
    | ok ts =>
      rw [evaluate_of_tokenize hbody hts, Reading.outcome_bind] at h
      obtain ⟨ps, hps, h⟩ := Except.bind_eq_ok.1 h
      rw [Reading.outcome_map, evaluateTokens, Reading.outcome_bind] at h
      obtain ⟨n, hn, -⟩ := Except.map_eq_ok.1 h
      obtain ⟨out, hout, -⟩ := Except.bind_eq_ok.1 hn
      rw [references_of_tokenize hbody hts, ← referred_reversePolish hps] at hid
      exact exists_operand_of_foldlM hout hid

/-- The evaluation of a text asks for the cells that the text refers to, one after the other as the
text names them, and only a failure stops it before the last one.  So only the values of these cells
count, and in every grid the graph has an edge from a cell to each cell that its text asks for. -/
theorem asked_isPrefix_references (value : CellId → Value) (text : String) :
    (evaluate value text).asked <+: references text ∧
      (∀ v, (evaluate value text).outcome = .ok v →
        (evaluate value text).asked = references text) ∧
      (∀ value' : CellId → Value, (∀ id ∈ references text, value' id = value id) →
        evaluate value' text = evaluate value text) ∧
      ∀ (g : Grid) (id : CellId) (c : Cell), g.get? id = some c → c.raw = text →
        ∀ b ∈ (evaluate value text).asked, b ∈ g.graph.reads id := by
  have hfollows := follows_evaluate value text
  refine ⟨hfollows.isPrefix, hfollows.all, fun value' h => evaluate_eq_of_agree h, ?_⟩
  rintro g id c hc rfl b hb
  have hreads : g.graph.reads id = references c.raw := by
    rw [Grid.graph, Dependency.graphOf, Dependency.Graph.reads, Table.get?_map,
      show g.cells.get? id = some c from hc]
    rfl
  rw [hreads]
  exact hfollows.isPrefix.subset hb

/-- Nothing is asked for after a division by zero. -/
example : references "=A1/0+B1" = ["A1", "B1"] ∧
    (evaluate (fun _ => .int 0) "=A1/0+B1").asked = ["A1"] := by decide +kernel

end Worksheet.Formula
