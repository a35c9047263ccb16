import Worksheet.Formula.Evaluation

namespace Worksheet

/-!
# The grammar of formulas

* `Expr` — an expression as a tree, and `Expr.evaluate` for its value;
* `Level` — expressions, terms and factors, which are looser or tighter;
* `Infix` — the tokens that write a tree in the usual order, with parentheses where needed:

      expr   = term   {("+" | "-") term}
      term   = factor {("*" | "/") factor}
      factor = NUMBER | REFERENCE | "(" expr ")"

* `Postfix` — the tokens that write a tree with every operator after its operands.
-/

/-- The operator of an operation. -/
def Number.Operation.symbol : Number.Operation → String
  | .add => "+"
  | .sub => "-"
  | .mul => "*"
  | .div => "/"

namespace Formula

open Number (Operation)

/-! ### Trees -/

/-- An expression: a number as it is written, a reference, or an operation. -/
inductive Expr
  | number (text : String)
  | reference (cell : CellId)
  | binary (op : Operation) (left right : Expr)
  deriving DecidableEq, Repr

/-- The value of an expression, where `value` gives the values of cells: first the left operand,
then the right one, then the operation. -/
def Expr.evaluate (value : CellId → Value) : Expr → Reading Number
  | .number text => .lift (literal text)
  | .reference cell => ⟨[cell], operand cell (value cell)⟩
  | .binary op l r => do
    let a ← l.evaluate value
    let b ← r.evaluate value
    .lift (apply op.symbol a b)

/-! ### Levels -/

/-- The classes of expressions in the grammar. -/
inductive Level
  | expr
  | term
  | factor
  deriving DecidableEq, Repr

namespace Level

/-- The level of the right operand of an operator at this level. -/
def tighter : Level → Level
  | .expr => .term
  | .term => .factor
  | .factor => .factor

/-- How tightly an operator at this level binds; no operator is at the level of factors. -/
def rank : Level → Nat
  | .expr => 1
  | .term => 2
  | .factor => 3

theorem rank_le_rank_tighter (ℓ : Level) : ℓ.rank ≤ ℓ.tighter.rank := by
  cases ℓ <;> decide

end Level

/-- The level of an operation: `+` and `-` join terms, `*` and `/` join factors. -/
def level : Operation → Level
  | .add | .sub => .expr
  | .mul | .div => .term

theorem precedence?_symbol (op : Operation) : precedence? op.symbol = some (level op).rank := by
  cases op <;> decide

/-- An operator binds less tightly than the operators of its right operand. -/
theorem rank_level_lt (op : Operation) : (level op).rank < (level op).tighter.rank := by
  cases op <;> decide

/-! ### Tokens of a tree -/

/-- Whether the token is the operator of an operation. -/
structure Token.Writes (t : Token) (op : Operation) : Prop where
  kind : t.kind = .operator
  text : t.text = op.symbol

/-- The tokens write the tree at a level of the grammar; operators at one level group to the
left. -/
inductive Infix : Level → Expr → List Token → Prop
  | number {t : Token} : t.kind = .number → Infix .factor (.number t.text) [t]
  | reference {t : Token} : t.kind = .reference → Infix .factor (.reference t.text) [t]
  | parentheses {e : Expr} {ts : List Token} {opening closing : Token} :
    opening.kind = .opening → closing.kind = .closing → Infix .expr e ts →
      Infix .factor e (opening :: ts ++ [closing])
  | loosen {ℓ : Level} {e : Expr} {ts : List Token} : Infix ℓ.tighter e ts → Infix ℓ e ts
  | binary {op : Operation} {l r : Expr} {ls rs : List Token} {t : Token} :
    Infix (level op) l ls → t.Writes op → Infix (level op).tighter r rs →
      Infix (level op) (.binary op l r) (ls ++ t :: rs)

/-- The tokens write the tree with every operator after its operands. -/
inductive Postfix : Expr → List Token → Prop
  | number {t : Token} : t.kind = .number → Postfix (.number t.text) [t]
  | reference {t : Token} : t.kind = .reference → Postfix (.reference t.text) [t]
  | binary {op : Operation} {l r : Expr} {ls rs : List Token} {t : Token} :
    Postfix l ls → Postfix r rs → t.Writes op → Postfix (.binary op l r) (ls ++ rs ++ [t])

end Formula

end Worksheet
