import Worksheet.Formula.ReversePolish

namespace Worksheet.Formula

/-!
# Evaluation

* `Reading` — a computation that asks for the values of cells, with the cells that it asked for;
* `operand` — the number that a value stands for in a formula;
* `evaluateTokens` — the value of tokens in reverse Polish order;
* `evaluate` — the value of the text of a cell.
-/

/-- The outcome of a computation and the cells whose values it asked for, in order. -/
structure Reading (α : Type) where
  asked : List CellId
  outcome : Except Failure α

namespace Reading

/-- A computation that asks for nothing. -/
def lift {α : Type} (outcome : Except Failure α) : Reading α := ⟨[], outcome⟩

/-- A failure. -/
def fail {α : Type} (failure : Failure) : Reading α := lift (.error failure)

instance : Monad Reading where
  pure a := lift (.ok a)
  bind m f := match m with
    | ⟨asked, .error e⟩ => ⟨asked, .error e⟩
    | ⟨asked, .ok a⟩ => match f a with
      | ⟨more, outcome⟩ => ⟨asked ++ more, outcome⟩

instance : LawfulMonad Reading :=
  LawfulMonad.mk' Reading
    (by
      rintro α ⟨asked, outcome⟩
      cases outcome <;> simp [Functor.map, lift])
    (by
      intros
      simp [pure, bind, lift])
    (by
      rintro α β γ ⟨asked, e | a⟩ f g
      · rfl
      · simp only [bind]
        rcases f a with ⟨more, e | b⟩
        · rfl
        · simp [List.append_assoc])

end Reading

/-! ### Operands and operators -/

/-- The number that a number token writes. -/
def literal (text : String) : Except Failure Number :=
  match Number.read? text with
  | .ok (some n) => .ok n
  | .ok none => .error (.fault (.badLiteral text))
  | .error u => .error (.unreadable u)

/-- The number that a value stands for where a formula refers to `cell`: a number, or a text that
writes one. -/
def operand (cell : CellId) (value : Value) : Except Failure Number :=
  match value with
  | .number n => .ok n
  | .error code => .error (.fault (.carried cell code))
  | .text s => match Number.read? s with
    | .ok (some n) => .ok n
    | .ok none => .error (.fault (.notNumeric cell value))
    | .error u => .error (.unreadable u)
  | .truth _ | .nothing => .error (.fault (.notNumeric cell value))

/-- The operation of an operator token; whatever is not `+`, `-` or `*` divides. -/
def operation (operator : String) : Number.Operation :=
  if operator = "+" then .add
  else if operator = "-" then .sub
  else if operator = "*" then .mul
  else .div

/-- The result of an operator. -/
def apply (operator : String) (a b : Number) : Except Failure Number :=
  match Number.combine (operation operator) a b with
  | .ok n => .ok n
  | .error .zeroDivisor => .error (.fault .divisionByZero)
  | .error (.overflow cause) => .error (.fault (.outOfRange operator cause))

/-! ### Evaluation on a stack -/

/-- One token: an operand goes onto the stack, and an operator takes its two operands from there. -/
def step (value : CellId → Value) (stack : List Number) (t : Token) : Reading (List Number) :=
  match t.kind with
  | .number => return (← .lift (literal t.text)) :: stack
  | .reference => return (← ⟨[t.text], operand t.text (value t.text)⟩) :: stack
  | _ => match stack with
    | b :: a :: rest => return (← .lift (apply t.text a b)) :: rest
    | _ => .fail (.fault (.missingOperand t.text t.position))

/-- The value of tokens in reverse Polish order. -/
def evaluateTokens (value : CellId → Value) (tokens : List Token) : Reading Number := do
  match ← tokens.foldlM (step value) [] with
  | [n] => return n
  | stack => .fail (.fault (.leftover stack.length))

/-- The value of the text of a cell, where `value` gives the values of other cells. -/
def evaluate (value : CellId → Value) (text : String) : Reading Value :=
  match body? text with
  | none => .lift ((Value.ofText text).mapError .unreadable)
  | some body => do
    let tokens ← .lift ((tokenize body).mapError .fault)
    let ordered ← .lift (reversePolish tokens)
    return .number (← evaluateTokens value ordered)

end Worksheet.Formula
