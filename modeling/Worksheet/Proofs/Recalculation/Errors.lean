import Worksheet.Proofs.Formula.References
import Worksheet.Proofs.Recalculation.Legible
import Worksheet.Proofs.Recalculation.Locality

namespace Worksheet

open Dependency (Graph)
open Formula (Category Fault)
open Recalculation
open Relation (ReflTransGen)

/-!
# Where errors come from

* `Category.own` — the kinds of fault that a formula has by itself;
* `Cell.Current.error_cases` — what a cell holds with and without an error, and why there is an
  error where there is no cycle;
* `Grid.InError`, `Grid.FailsItself` — a cell in error, and one whose own formula is at fault;
* `Grid.Consistent.inError_circular_iff` — exactly the cells that reach a cycle are in error for it;
* `Grid.Consistent.inError_of_reaches` — an error spreads to all that read it;
* `Grid.Consistent.exists_source` — and every error has a source.
-/

variable {g : Grid} {cells : Table Cell} {circular : Prop} {a b : CellId} {c : Cell}
  {code : ErrorCode}

/-! ### Faults -/

/-- The kinds of fault that a formula has by itself, whatever the cells hold that it refers to. -/
def Formula.Category.own : List Category :=
  [.character, .malformed, .divisionByZero, .notNumeric, .outOfRange]

theorem Formula.Fault.category_mem_own {f : Fault} (h : ∀ cell code, f ≠ .carried cell code) :
    f.category ∈ Category.own := by
  cases f with
  | carried cell code => exact absurd rfl (h cell code)
  | _ => simp [Fault.category, Category.own]

/-- No formula is circular by itself. -/
theorem Formula.Fault.code_ne_circular {f : Fault} (h : f.category ∈ Category.own) :
    f.code ≠ .circular := by
  cases f with
  | carried => simp [Fault.category, Category.own] at h
  | _ => simp [Fault.code, Fault.category, Category.code, ErrorCode.circular, ErrorCode.general,
      ErrorCode.value, ErrorCode.divisionByZero]

/-! ### Forms of cells -/

theorem Value.Alike.exists_number {v : Value} {n : Number} (h : v.Alike (.number n)) :
    ∃ m, v = .number m := by
  cases v with
  | number m => exact ⟨m, rfl⟩
  | _ => cases h

/-- Without an error, a cell holds a number or its own raw text, and a formula holds a number.  With
an error, it shows the code; apart from cycles it holds a formula then, which has a fault with that
code. -/
theorem Cell.Current.error_cases (h : c.Current cells circular) :
    (c.error = none ∧ ((∃ n, c.value = .number n) ∨
        c.isFormula = false ∧ c.value = .text c.raw ∧ Number.read? c.raw = .ok none)) ∨
      ∃ code, c.error = some code ∧ c.value = .text code.text ∧
        (¬ circular → c.isFormula = true ∧
          ∃ f, (Formula.evaluate (valueAt cells) c.raw).outcome = .error (.fault f) ∧
            f.code = code) := by
  rcases h with ⟨hcircular, hvalue, herror⟩ | ⟨-, hliteral, hv, hvalue, herror⟩ |
    ⟨-, hformula, hv, hvalue, herror⟩ | ⟨-, hformula, hf, hvalue, herror⟩
  · exact .inr ⟨_, herror, hvalue, absurd hcircular⟩
  · refine .inl ⟨herror, ?_⟩
    rcases Value.ofText_eq_ok hv with ⟨n, rfl⟩ | ⟨rfl, hread⟩
    · exact .inl hvalue.exists_number
    · exact .inr ⟨hliteral, Value.plain_eq_text.1 hvalue, hread⟩
  · obtain ⟨n, rfl⟩ := exists_number_of_evaluate hformula hv
    exact .inl ⟨herror, .inl hvalue.exists_number⟩
  · exact .inr ⟨_, herror, hvalue, fun _ => ⟨hformula, _, hf, rfl⟩⟩

theorem Cell.Current.of_error_none (h : c.Current cells circular) (herror : c.error = none) :
    (∃ n, c.value = .number n) ∨
      c.isFormula = false ∧ c.value = .text c.raw ∧ Number.read? c.raw = .ok none := by
  rcases h.error_cases with ⟨-, hvalue⟩ | ⟨code, hsome, -⟩
  · exact hvalue
  · rw [herror] at hsome
    cases hsome

theorem Cell.Current.of_error_some (h : c.Current cells circular) (herror : c.error = some code) :
    c.value = .text code.text ∧
      (¬ circular → c.isFormula = true ∧
        ∃ f, (Formula.evaluate (valueAt cells) c.raw).outcome = .error (.fault f) ∧
          f.code = code) := by
  rcases h.error_cases with ⟨hnone, -⟩ | ⟨code', hsome, hspec⟩
  · rw [herror] at hnone
    cases hnone
  · obtain rfl : code = code' := Option.some.inj (herror.symm.trans hsome)
    exact hspec

/-! ### Cells in error -/

/-- Whether the cell is in error with the given code. -/
def Grid.InError (g : Grid) (code : ErrorCode) (id : CellId) : Prop :=
  ∃ c, g.get? id = some c ∧ c.error = some code

/-- Whether the cell holds a formula that fails by itself with the given code, and not through a
reference to a cell in error. -/
def Grid.FailsItself (g : Grid) (code : ErrorCode) (id : CellId) : Prop :=
  ∃ c f, g.get? id = some c ∧ c.isFormula = true ∧
    (Formula.evaluate (valueAt g.cells) c.raw).outcome = .error (.fault f) ∧
    f.category ∈ Category.own ∧ f.code = code

/-- Whether the cell `a` reads the cell `b`, and that one is in error with the given code. -/
def Grid.ReadsError (g : Grid) (code : ErrorCode) (a b : CellId) : Prop :=
  g.graph.Reads a b ∧ g.InError code b

theorem inError_iff : g.InError code a ↔ (g.get? a).bind Cell.error = some code :=
  Option.bind_eq_some_iff.symm

instance : Decidable (g.InError code a) := decidable_of_iff _ inError_iff.symm

theorem Grid.InError.unique {code' : ErrorCode} (h : g.InError code a) (h' : g.InError code' a) :
    code = code' := by
  obtain ⟨c, hc, herror⟩ := h
  obtain ⟨c', hc', herror'⟩ := h'
  obtain rfl : c = c' := Option.some.inj (hc.symm.trans hc')
  exact Option.some.inj (herror.symm.trans herror')

theorem Grid.InError.valueAt (h : g.InError code a) : valueAt g.cells a = .error code := by
  obtain ⟨c, hc, herror⟩ := h
  have hc : g.cells.get? a = some c := hc
  simp only [Recalculation.valueAt, hc, herror]

namespace Grid.Consistent

/-- A reference finds an error only in a cell in error. -/
theorem inError_of_valueAt (hg : g.Consistent) (h : valueAt g.cells a = .error code) :
    g.InError code a := by
  unfold valueAt at h
  split at h
  case h_1 => cases h
  case h_2 c hc =>
    split at h
    case h_1 code' herror =>
      obtain rfl : code' = code := Value.error.inj h
      exact ⟨c, hc, herror⟩
    case h_2 herror =>
      -- without an error there is a number or a text
      split at h
      case isTrue => cases h
      case isFalse =>
        rcases (hg.current a c hc).of_error_none herror with ⟨n, hn⟩ | ⟨-, htext, -⟩
        · rw [hn] at h
          cases h
        · rw [htext] at h
          cases h

theorem inError_of_reachesCycle (hg : g.Consistent) (h : g.graph.ReachesCycle a) :
    g.InError .circular a := by
  obtain ⟨c, hc⟩ := exists_of_mem_keys_graph (Graph.mem_keys_of_reachesCycle h)
  exact ⟨c, hc, ((Cell.current_iff_circular h).1 (hg.current a c hc)).2⟩

/-- A cell in error that reaches no cycle fails by itself, or reads a cell with the same error. -/
theorem failsItself_or_reads (hg : g.Consistent) (hnot : ¬ g.graph.ReachesCycle a)
    (h : g.InError code a) :
    g.FailsItself code a ∨ ∃ b, g.graph.Reads a b ∧ g.InError code b := by
  obtain ⟨c, hc, herror⟩ := h
  obtain ⟨hformula, f, hf, hcode⟩ := ((hg.current a c hc).of_error_some herror).2 hnot
  obtain ⟨body, hbody⟩ := Option.isSome_iff_exists.1 hformula
  have hfrom := Formula.from_of_evaluate hbody hf
  generalize hfailure : Formula.Failure.fault f = failure at hfrom
  cases hfrom with
  | own hown =>
    obtain ⟨f', rfl, hcarried⟩ := hown
    obtain rfl : f = f' := Formula.Failure.fault.inj hfailure
    exact .inl ⟨c, f, hc, hformula, hf, Fault.category_mem_own hcarried, hcode⟩
  | @carried b code' hb hvalue =>
    obtain rfl : f = .carried b code' := Formula.Failure.fault.inj hfailure
    obtain rfl : code' = code := hcode
    refine .inr ⟨b, ?_, hg.inError_of_valueAt hvalue⟩
    rwa [Graph.Reads, reads_graph_of_get? hc]
  | unreadable => cases hfailure

/-! ### Cycles -/

/-- The error for a cycle is not passed on to a cell that reaches no cycle.  The references of such
a cell come to an end, and the induction is along them. -/
theorem not_inError_circular (hg : g.Consistent) (hground : g.graph.Grounded a) :
    ¬ g.InError .circular a := by
  induction hground with
  | intro a hread ih =>
    intro h
    have hnot : ¬ g.graph.ReachesCycle a :=
      Graph.grounded_iff_not_reachesCycle.1 (Acc.intro a hread)
    rcases hg.failsItself_or_reads hnot h with ⟨c, f, -, -, -, hown, hcode⟩ | ⟨b, hab, hb⟩
    · exact Fault.code_ne_circular hown hcode
    · exact ih b hab hb

theorem inError_circular_iff (hg : g.Consistent) :
    g.InError .circular a ↔ g.graph.ReachesCycle a := by
  constructor
  · intro h
    by_contra hnot
    exact hg.not_inError_circular (Graph.grounded_iff_not_reachesCycle.2 hnot) h
  · exact hg.inError_of_reachesCycle

/-! ### Propagation -/

/-- A formula that reads a cell in error has no value. -/
theorem inError_of_reads (hg : g.Consistent) (hab : g.graph.Reads a b) (hb : g.InError code b) :
    ∃ code, g.InError code a := by
  obtain ⟨c, hc⟩ := exists_of_mem_keys_graph (Graph.mem_keys_of_reads hab)
  rw [Graph.Reads, reads_graph_of_get? hc] at hab
  rcases hg.current a c hc with ⟨-, -, herror⟩ | ⟨-, hliteral, -⟩ | ⟨-, -, hv, -⟩ |
    ⟨-, -, -, -, herror⟩
  · exact ⟨_, c, hc, herror⟩
  · rw [references_literal hliteral] at hab
    cases hab
  · obtain ⟨n, hn⟩ := Formula.exists_operand_of_evaluate hv hab
    rw [hb.valueAt] at hn
    cases hn
  · exact ⟨_, c, hc, herror⟩

theorem inError_of_reaches (hg : g.Consistent) (hab : g.graph.Reaches a b)
    (hb : g.InError code b) : ∃ code, g.InError code a := by
  induction hab using ReflTransGen.head_induction_on with
  | refl => exact ⟨code, hb⟩
  | head hread _ ih =>
    obtain ⟨code', hnext⟩ := ih
    exact hg.inError_of_reads hread hnext

/-! ### Sources -/

/-- A cell that reaches a cycle reads its way there along cells that are in error for the cycle. -/
theorem readsError_of_onCycle (hg : g.Consistent) (hab : g.graph.Reaches a b)
    (hb : g.graph.OnCycle b) : ReflTransGen (g.ReadsError .circular) a b := by
  induction hab using ReflTransGen.head_induction_on with
  | refl => exact ReflTransGen.refl
  | head hread hdb ih =>
    exact ReflTransGen.head ⟨hread, hg.inError_of_reachesCycle ⟨b, hdb, hb⟩⟩ ih

/-- From a cell in error, references along cells with the same error lead to a cycle, or to a cell
whose formula fails by itself with that error. -/
theorem exists_source (hg : g.Consistent) (h : g.InError code a) :
    ∃ b, ReflTransGen (g.ReadsError code) a b ∧ (g.graph.OnCycle b ∨ g.FailsItself code b) := by
  by_cases hcycle : g.graph.ReachesCycle a
  case pos =>
    obtain rfl : code = .circular := h.unique (hg.inError_of_reachesCycle hcycle)
    obtain ⟨b, hab, hb⟩ := hcycle
    exact ⟨b, hg.readsError_of_onCycle hab hb, .inl hb⟩
  case neg =>
    have hground := Graph.grounded_iff_not_reachesCycle.2 hcycle
    clear hcycle
    induction hground with
    | intro a hread ih =>
      have hnot : ¬ g.graph.ReachesCycle a :=
        Graph.grounded_iff_not_reachesCycle.1 (Acc.intro a hread)
      rcases hg.failsItself_or_reads hnot h with hown | ⟨b, hab, hb⟩
      · exact ⟨a, ReflTransGen.refl, .inr hown⟩
      · obtain ⟨d, hbd, hd⟩ := ih b hab hb
        exact ⟨d, ReflTransGen.head ⟨hab, hb⟩ hbd, hd⟩

end Grid.Consistent

end Worksheet
