import Worksheet.Proofs.Formula.Evaluation

namespace Worksheet.Formula

/-!
# Tokens on the value stack as the post-order of trees

* `TokenTree` — a binary tree of tokens, with `TokenTree.tokens` in post-order and
  `TokenTree.evaluate` for its value;
* `assemble` — the trees that tokens write one after the other, as far as they do;
* `assemble_tokens`, `append_of_assemble` — nothing else can be read from the tokens of a tree, and
  nothing is lost;
* `Stuck` — why tokens are the post-order of no tree;
* `TokenTree.foldlM_eq`, `foldlM_flatMap` — the tokens of trees put the values of the trees on the
  stack;
* `evaluateTokens_postOrder` — so tokens have the value of their tree, and none without a tree.
-/

variable {t : Token} {ts rest : List Token} {trees done forest : List TokenTree} {fault : Fault}
  {value : CellId → Value}

/-! ### Trees of tokens -/

/-- A binary tree of tokens: its leaves are operands, and its inner nodes all other tokens. -/
inductive TokenTree
  | leaf (t : Token) (operand : t.isOperand = true)
  | node (t : Token) (operator : t.isOperand = false) (left right : TokenTree)

/-- The number that an operand token stands for. -/
def Token.read (value : CellId → Value) (t : Token) : Reading Number :=
  if t.kind = .number then .lift (literal t.text) else ⟨[t.text], operand t.text (value t.text)⟩

namespace TokenTree

/-- The tokens of a tree in post-order. -/
def tokens : TokenTree → List Token
  | leaf t _ => [t]
  | node t _ left right => left.tokens ++ right.tokens ++ [t]

/-- The value of a tree: first the left subtree, then the right one, then the operation. -/
def evaluate (value : CellId → Value) : TokenTree → Reading Number
  | leaf t _ => t.read value
  | node t _ left right => do
    let a ← left.evaluate value
    let b ← right.evaluate value
    .lift (apply t.text a b)

end TokenTree

/-! ### Reading trees -/

/-- The trees that tokens write behind the given ones, the latest first, up to the first operator
that finds fewer than two of them; and the tokens from there on. -/
def assemble : List TokenTree → List Token → List TokenTree × List Token
  | trees, [] => (trees, [])
  | trees, t :: ts =>
    if h : t.isOperand = true then assemble (.leaf t h :: trees) ts
    else match trees with
      | right :: left :: trees => assemble (.node t (by simpa using h) left right :: trees) ts
      | _ => (trees, t :: ts)

theorem assemble_leaf (h : t.isOperand = true) :
    assemble trees (t :: ts) = assemble (.leaf t h :: trees) ts := by
  rw [assemble, dif_pos h]

theorem assemble_node (h : t.isOperand = false) (left right : TokenTree) :
    assemble (right :: left :: trees) (t :: ts) = assemble (.node t h left right :: trees) ts := by
  rw [assemble, dif_neg (by simp [h])]

theorem assemble_of_length_lt (h : t.isOperand = false) (htrees : trees.length < 2) :
    assemble trees (t :: ts) = (trees, t :: ts) := by
  rw [assemble, dif_neg (by simp [h])]
  rcases trees with _ | ⟨right, _ | ⟨left, trees⟩⟩
  case cons.cons =>
    simp only [List.length_cons] at htrees
    omega
  all_goals rfl

/-- Whatever comes before and after it, the tokens of a tree write that tree. -/
theorem assemble_tokens (tree : TokenTree) (trees : List TokenTree) (rest : List Token) :
    assemble trees (tree.tokens ++ rest) = assemble (tree :: trees) rest := by
  induction tree generalizing trees rest with
  | leaf t h => exact assemble_leaf h
  | node t h left right ihl ihr =>
    rw [TokenTree.tokens, List.append_assoc, List.append_assoc, ihl, ihr, List.singleton_append,
      assemble_node h]

theorem assemble_flatMap (forest trees : List TokenTree) (rest : List Token) :
    assemble trees (forest.flatMap TokenTree.tokens ++ rest)
      = assemble (forest.reverse ++ trees) rest := by
  induction forest generalizing trees with
  | nil => rfl
  | cons tree forest ih =>
    rw [List.flatMap_cons, List.append_assoc, assemble_tokens, ih, List.reverse_cons,
      List.append_assoc, List.singleton_append]

/-- A tree is determined by its post-order. -/
theorem TokenTree.eq_of_tokens {tree tree' : TokenTree} (h : tree'.tokens = tree.tokens) :
    tree' = tree := by
  have hassemble : assemble [tree'] [] = assemble [tree] [] := by
    rw [← assemble_tokens, ← assemble_tokens, h]
  exact (List.cons.inj (congrArg Prod.fst hassemble)).1

/-- The trees and the tokens behind them are the tokens as they were.  It ends with the tokens, or
with an operator behind fewer than two trees. -/
theorem append_of_assemble (h : assemble trees ts = (done, rest)) :
    done.reverse.flatMap TokenTree.tokens ++ rest
        = trees.reverse.flatMap TokenTree.tokens ++ ts ∧
      (rest = [] ∨ ∃ t us, rest = t :: us ∧ t.isOperand = false ∧ done.length < 2) := by
  induction ts generalizing trees with
  | nil =>
    obtain ⟨rfl, rfl⟩ := Prod.mk.inj h
    exact ⟨rfl, .inl rfl⟩
  | cons t ts ih =>
    cases hoperand : t.isOperand with
    | true =>
      rw [assemble_leaf hoperand] at h
      obtain ⟨happend, hrest⟩ := ih h
      refine ⟨happend.trans ?_, hrest⟩
      simp [TokenTree.tokens]
    | false =>
      rcases trees with _ | ⟨right, _ | ⟨left, trees⟩⟩
      case cons.cons =>
        rw [assemble_node hoperand] at h
        obtain ⟨happend, hrest⟩ := ih h
        refine ⟨happend.trans ?_, hrest⟩
        simp [TokenTree.tokens]
      all_goals
        rw [assemble_of_length_lt hoperand (by simp)] at h
        obtain ⟨rfl, rfl⟩ := Prod.mk.inj h
        exact ⟨rfl, .inr ⟨t, ts, rfl, hoperand, by simp⟩⟩

/-! ### Tokens of no tree -/

/-- Why tokens are the post-order of no tree: behind the trees of a `forest` stands an operator, and
they are fewer than two; or the tokens end, and they are not one. -/
inductive Stuck : List Token → List TokenTree → Fault → Prop
  | missing (forest : List TokenTree) (t : Token) (rest : List Token) : forest.length < 2 →
    t.isOperand = false → Stuck (forest.flatMap TokenTree.tokens ++ t :: rest) forest
      (.missingOperand t.text t.position)
  | leftover (forest : List TokenTree) : forest.length ≠ 1 →
    Stuck (forest.flatMap TokenTree.tokens) forest (.leftover forest.length)

theorem Stuck.category (h : Stuck ts forest fault) : fault.category = .malformed := by
  cases h <;> rfl

theorem Stuck.tokens_ne (h : Stuck ts forest fault) (tree : TokenTree) : tree.tokens ≠ ts := by
  intro htree
  -- the tokens of a tree are read to their end, and give that tree alone
  have hassemble : assemble [] ts = ([tree], []) := by
    rw [← htree, ← List.append_nil tree.tokens, assemble_tokens]
    rfl
  cases h with
  | missing _ t rest hforest ht =>
    rw [assemble_flatMap, assemble_of_length_lt ht (by simpa using hforest)] at hassemble
    cases (Prod.mk.inj hassemble).2
  | leftover _ hforest =>
    rw [← List.append_nil (forest.flatMap TokenTree.tokens), assemble_flatMap, List.append_nil]
      at hassemble
    have hone : forest.reverse = [tree] := (Prod.mk.inj hassemble).1
    rw [← List.length_reverse, hone] at hforest
    exact hforest rfl

/-- Tokens are the post-order of a tree, or there is a reason why not. -/
theorem exists_tree_or_stuck (ts : List Token) :
    (∃ tree : TokenTree, tree.tokens = ts) ∨ ∃ forest fault, Stuck ts forest fault := by
  cases h : assemble [] ts with
  | mk done rest =>
    obtain ⟨happend, hend⟩ := append_of_assemble h
    obtain rfl : done.reverse.flatMap TokenTree.tokens ++ rest = ts := happend
    rcases hend with rfl | ⟨t, us, rfl, ht, hdone⟩
    · rw [List.append_nil]
      by_cases hlength : done.reverse.length = 1
      case pos =>
        obtain ⟨tree, htree⟩ := List.length_eq_one_iff.1 hlength
        left
        refine ⟨tree, ?_⟩
        rw [htree, List.flatMap_singleton]
      case neg => exact .inr ⟨_, _, .leftover done.reverse hlength⟩
    · exact .inr ⟨_, _, .missing done.reverse t us (by simpa using hdone) ht⟩

/-! ### Values on the stack -/

theorem step_operand (stack : List Number) (h : t.isOperand = true) :
    step value stack t = (· :: stack) <$> t.read value := by
  unfold Token.read
  by_cases hkind : t.kind = .number
  · rw [if_pos hkind, step_number stack hkind]
  · have hreference : t.kind = .reference := by simpa [Token.isOperand, hkind] using h
    rw [if_neg hkind, step_reference stack hreference]

/-- The tokens of a tree put its value on the stack. -/
theorem TokenTree.foldlM_eq (tree : TokenTree) (stack : List Number) :
    tree.tokens.foldlM (step value) stack = (· :: stack) <$> tree.evaluate value := by
  induction tree generalizing stack with
  | leaf t h => rw [tokens, foldlM_singleton, step_operand stack h, evaluate]
  | node t h left right ihl ihr =>
    -- the right subtree is evaluated above the value of the left one
    rw [tokens, List.foldlM_append, List.foldlM_append, ihl stack, evaluate]
    simp only [bind_map_left, ihr, foldlM_singleton, step_operator stack _ _ h, map_bind,
      bind_assoc]

theorem foldlM_flatMap (forest : List TokenTree) (stack : List Number) :
    (forest.flatMap TokenTree.tokens).foldlM (step value) stack
      = (fun ns => ns.reverse ++ stack) <$> forest.mapM (TokenTree.evaluate value) := by
  induction forest generalizing stack with
  | nil => simp
  | cons tree forest ih =>
    rw [List.flatMap_cons, List.foldlM_append, TokenTree.foldlM_eq, List.mapM_cons]
    simp only [ih, map_eq_pure_bind, bind_assoc, pure_bind, List.reverse_cons, List.append_assoc,
      List.singleton_append]

theorem Reading.bind_congr_of_ok {α β : Type} {m : Reading α} {k k' : α → Reading β}
    (h : ∀ a, m.outcome = .ok a → k a = k' a) : m >>= k = m >>= k' := by
  rcases m with ⟨asked, e | a⟩
  · rfl
  · show (⟨asked, .ok a⟩ : Reading α) >>= k = ⟨asked, .ok a⟩ >>= k'
    simp only [bind, h a rfl]

theorem length_of_mapM {α β : Type} {f : α → Reading β} {l : List α} {bs : List β}
    (h : (l.mapM f).outcome = .ok bs) : bs.length = l.length := by
  induction l generalizing bs with
  | nil =>
    obtain rfl : [] = bs := Except.ok.inj h
    rfl
  | cons a l ih =>
    rw [List.mapM_cons, Reading.outcome_bind] at h
    obtain ⟨b, -, h⟩ := Except.bind_eq_ok.1 h
    rw [Reading.outcome_bind] at h
    obtain ⟨bs', hbs', h⟩ := Except.bind_eq_ok.1 h
    obtain rfl : b :: bs' = bs := Except.ok.inj h
    rw [List.length_cons, List.length_cons, ih hbs']

/-- Where tokens are stuck, the forest before that place is evaluated, and then comes the fault. -/
theorem Stuck.evaluateTokens_eq (h : Stuck ts forest fault) :
    evaluateTokens value ts
      = forest.mapM (TokenTree.evaluate value) >>= fun _ => .fail (.fault fault) := by
  cases h with
  | missing _ t rest hforest ht =>
    rw [evaluateTokens, List.foldlM_append, foldlM_flatMap, bind_map_left, bind_assoc]
    -- there is one value on the stack for each tree of the forest
    refine Reading.bind_congr_of_ok fun ns hns => ?_
    have hlength : (ns.reverse ++ []).length < 2 := by simpa [length_of_mapM hns] using hforest
    rw [List.foldlM_cons, step_of_length_lt ht hlength]
    rfl
  | leftover _ hforest =>
    rw [evaluateTokens, foldlM_flatMap, bind_map_left]
    refine Reading.bind_congr_of_ok fun ns hns => ?_
    have hlength : (ns.reverse ++ []).length = forest.length := by simp [length_of_mapM hns]
    rw [← hlength] at hforest ⊢
    split
    case h_1 n hn =>
      rw [hn] at hforest
      exact absurd rfl hforest
    case h_2 => rfl

theorem TokenTree.evaluateTokens_eq (tree : TokenTree) :
    evaluateTokens value tree.tokens = tree.evaluate value := by
  rw [evaluateTokens, TokenTree.foldlM_eq tree []]
  simp only [bind_map_left, bind_pure]

/-- What the value stack makes of any tokens.  If they are the post-order of a tree, then of no
other one, and they are evaluated as it is: the left subtree, the right one and then the operation,
with the same cells asked for and the same outcome.  Otherwise they have no value: the trees are
evaluated that they begin with, and if none of these fails, the tokens are malformed. -/
theorem evaluateTokens_postOrder (value : CellId → Value) (ts : List Token) :
    (∀ tree : TokenTree, tree.tokens = ts →
        (∀ tree' : TokenTree, tree'.tokens = ts → tree' = tree) ∧
          evaluateTokens value ts = tree.evaluate value) ∧
      ((∀ tree : TokenTree, tree.tokens ≠ ts) →
        (∀ n, (evaluateTokens value ts).outcome ≠ .ok n) ∧
          ∃ forest fault, Stuck ts forest fault ∧ fault.category = .malformed ∧
            evaluateTokens value ts
              = forest.mapM (TokenTree.evaluate value) >>= fun _ => .fail (.fault fault)) := by
  constructor
  · rintro tree rfl
    exact ⟨fun tree' htree' => TokenTree.eq_of_tokens htree', tree.evaluateTokens_eq⟩
  · intro hnone
    rcases exists_tree_or_stuck ts with ⟨tree, htree⟩ | ⟨forest, fault, hstuck⟩
    case inl => exact absurd htree (hnone tree)
    case inr =>
      have hevaluate : evaluateTokens value ts
          = forest.mapM (TokenTree.evaluate value) >>= fun _ => .fail (.fault fault) :=
        hstuck.evaluateTokens_eq
      refine ⟨fun n hn => ?_, forest, fault, hstuck, hstuck.category, hevaluate⟩
      rw [hevaluate, Reading.outcome_bind] at hn
      obtain ⟨ns, -, hfail⟩ := Except.bind_eq_ok.1 hn
      cases hfail

/-- A difference of a number and a cell. -/
def difference : TokenTree :=
  .node ⟨.operator, "-", 2⟩ rfl (.leaf ⟨.number, "2", 0⟩ rfl) (.leaf ⟨.reference, "A1", 1⟩ rfl)

/-- The same tokens with one more operator, which finds the difference alone. -/
theorem evaluateTokens_postOrder_difference :
    (∀ tree : TokenTree, tree.tokens = difference.tokens → tree = difference) ∧
      (difference.evaluate fun _ => .int 3).outcome = .ok (.int (-1)) ∧
      evaluateTokens (fun _ => .int 3) difference.tokens = difference.evaluate (fun _ => .int 3) ∧
      ∀ n, (evaluateTokens (fun _ => .int 3)
        (difference.tokens ++ [⟨.operator, "*", 3⟩])).outcome ≠ .ok n := by
  have hstuck : Stuck (difference.tokens ++ [⟨.operator, "*", 3⟩]) [difference]
      (.missingOperand "*" 3) :=
    .missing [difference] ⟨.operator, "*", 3⟩ [] (by decide) rfl
  obtain ⟨hunique, hvalue⟩ :=
    (evaluateTokens_postOrder (fun _ => .int 3) difference.tokens).1 difference rfl
  exact ⟨hunique, by decide +kernel, hvalue,
    ((evaluateTokens_postOrder (fun _ => .int 3) _).2 hstuck.tokens_ne).1⟩

end Worksheet.Formula
