import Worksheet.Proofs.Dependency.Reach
import Worksheet.Proofs.Formula.Evaluation
import Worksheet.Recalculation

namespace Worksheet

open Dependency (Graph)
open Recalculation

/-!
# Cells that are up to date

* `Cell.Alike`, `Table.Alike` — cells and tables that differ in signs of zeros at most;
* `Cell.Current` — a cell that holds what its raw text gives beside the other cells;
* `Cell.Current.congr`, `Cell.Current.alike` — that depends on nothing but the cells that the raw
  text refers to, and so do the value and the error of such a cell;
* `reads_graph` — the graph of a grid reads the references of the raw texts.
-/

variable {cells cells' : Table Cell} {c c' : Cell} {id : CellId}

/-! ### Alike cells -/

/-- Whether two cells have the same raw text and error, and values that are alike. -/
structure Cell.Alike (c d : Cell) : Prop where
  raw : c.raw = d.raw
  error : c.error = d.error
  value : c.value.Alike d.value

/-- Whether two tables have alike cells under the same names. -/
def Table.Alike (cells cells' : Table Cell) : Prop :=
  ∀ id, Option.Rel Cell.Alike (cells.get? id) (cells'.get? id)

theorem Cell.Alike.refl (c : Cell) : c.Alike c := ⟨rfl, rfl, rfl⟩

theorem rel_alike_of_eq {o o' : Option Cell} (h : o = o') : Option.Rel Cell.Alike o o' := by
  subst h
  cases o with
  | none => exact .none
  | some c => exact .some (.refl c)

theorem Table.Alike.exists_of_mem_keys (h : cells.Alike cells') (hid : id ∈ cells.keys) :
    ∃ c c', cells.get? id = some c ∧ cells'.get? id = some c' ∧ c.Alike c' := by
  obtain ⟨c, hc⟩ := Table.exists_of_mem_keys hid
  have hrel := h id
  rw [hc] at hrel
  generalize cells'.get? id = o at hrel
  cases hrel with
  | some halike => exact ⟨c, _, hc, rfl, halike⟩

/-- A cell to which a computed one brings nothing new is alike to it. -/
theorem Cell.alike_of_settledBy (h : c.settledBy c' = true) : c.Alike c' := by
  -- the values are identical, or they agree by number and are of one form
  simp only [Cell.settledBy, Cell.agrees, Bool.and_eq_true, Bool.or_eq_true, beq_iff_eq] at h
  obtain ⟨⟨⟨hraw, hvalue⟩, herror⟩, hform⟩ := h
  refine ⟨hraw.symm, herror.symm, ?_⟩
  rcases hvalue with hvalue | hvalue
  · rw [hvalue]
    rfl
  · exact Eq.symm (Value.alike_of_agrees hvalue hform)

/-- References find alike values in alike tables. -/
theorem valueAt_congr (h : Option.Rel Cell.Alike (cells'.get? id) (cells.get? id)) :
    (valueAt cells' id).Alike (valueAt cells id) := by
  unfold valueAt
  generalize cells'.get? id = o', cells.get? id = o at h
  cases h with
  | none => rfl
  | @some c' c h =>
    -- a blank text counts as zero, and no number is alike to it
    have hblank : c'.value.agrees (.text "") = c.value.agrees (.text "") := by
      rw [← Value.agrees_text_plain, show c'.value.plain = c.value.plain from h.value,
        Value.agrees_text_plain]
    simp only [h.error, hblank]
    cases c.error with
    | some code => rfl
    | none =>
      by_cases hzero : c.value.agrees (.text "") = true
      · simp only [hzero, if_true]
        rfl
      · simp only [hzero]
        exact h.value

/-! ### Cells up to date -/

/-- Whether a cell holds what it should beside the other cells: the error for a cycle if it is
`circular`; otherwise the value of its raw text, or the code of the fault in its formula. -/
inductive Cell.Current (cells : Table Cell) (circular : Prop) (c : Cell) : Prop
  | circular : circular → c.value = .text ErrorCode.circular.text → c.error = some .circular →
    Current cells circular c
  | literal {v : Value} : ¬ circular → c.isFormula = false → Value.ofText c.raw = .ok v →
    c.value.Alike v → c.error = none → Current cells circular c
  | result {v : Value} : ¬ circular → c.isFormula = true →
    (Formula.evaluate (valueAt cells) c.raw).outcome = .ok v → c.value.Alike v → c.error = none →
    Current cells circular c
  | fault {f : Formula.Fault} : ¬ circular → c.isFormula = true →
    (Formula.evaluate (valueAt cells) c.raw).outcome = .error (.fault f) →
    c.value = .text f.code.text → c.error = some f.code → Current cells circular c

/-- A cell that should be in error for a cycle is up to date exactly if it is. -/
theorem Cell.current_iff_circular {circular : Prop} (h : circular) :
    c.Current cells circular ↔
      c.value = .text ErrorCode.circular.text ∧ c.error = some .circular := by
  constructor
  · rintro (⟨-, hvalue, herror⟩ | ⟨hnot, -⟩ | ⟨hnot, -⟩ | ⟨hnot, -⟩)
    · exact ⟨hvalue, herror⟩
    all_goals exact absurd h hnot
  · rintro ⟨hvalue, herror⟩
    exact .circular h hvalue herror

/-- Whether a cell holds the outcome of a computation. -/
def Cell.Holds (c : Cell) : Except Formula.Failure Value → Prop
  | .ok v => c.value.Alike v ∧ c.error = none
  | .error (.fault f) => c.value = .text f.code.text ∧ c.error = some f.code
  | .error _ => False

theorem evaluate_literal {value : CellId → Value} {text : String}
    (h : Formula.isFormula text = false) :
    (Formula.evaluate value text).outcome = (Value.ofText text).mapError .unreadable := by
  have hbody : Formula.body? text = none := by simpa [Formula.isFormula] using h
  rw [Formula.evaluate, hbody]
  rfl

/-- A text that is not a formula refers to nothing. -/
theorem references_literal {text : String} (h : Formula.isFormula text = false) :
    Formula.references text = [] := by
  have hbody : Formula.body? text = none := by simpa [Formula.isFormula] using h
  simp only [Formula.references, hbody]

/-- Apart from cycles, a cell is up to date exactly if it holds what the evaluation of its raw text
gives. -/
theorem Cell.current_iff {circular : Prop} (h : ¬ circular) :
    c.Current cells circular ↔ c.Holds (Formula.evaluate (valueAt cells) c.raw).outcome := by
  constructor
  · rintro (⟨hcircular, -, -⟩ | ⟨-, hliteral, hv, hvalue, herror⟩ | ⟨-, -, hv, hvalue, herror⟩ |
      ⟨-, -, hf, hvalue, herror⟩)
    · exact absurd hcircular h
    · rw [evaluate_literal hliteral, hv]
      exact ⟨hvalue, herror⟩
    · rw [hv]
      exact ⟨hvalue, herror⟩
    · rw [hf]
      exact ⟨hvalue, herror⟩
  · intro hholds
    cases hformula : c.isFormula with
    | true =>
      cases houtcome : (Formula.evaluate (valueAt cells) c.raw).outcome with
      | ok v =>
        rw [houtcome] at hholds
        exact .result h hformula houtcome hholds.1 hholds.2
      | error failure =>
        rw [houtcome] at hholds
        cases failure with
        | fault f => exact .fault h hformula houtcome hholds.1 hholds.2
        | unreadable => exact hholds.elim
        | unknownOperator => exact hholds.elim
    | false =>
      rw [evaluate_literal hformula] at hholds
      cases hvalue : Value.ofText c.raw with
      | ok v =>
        rw [hvalue] at hholds
        exact .literal h hformula hvalue hholds.1 hholds.2
      | error u =>
        rw [hvalue] at hholds
        exact hholds.elim

/-- A cell alike to one that holds an outcome holds every alike outcome. -/
theorem Cell.Holds.congr {outcome outcome' : Except Formula.Failure Value} (h : c.Holds outcome)
    (hplain : Value.plain <$> outcome' = Value.plain <$> outcome) (hc : c'.Alike c) :
    c'.Holds outcome' := by
  cases outcome with
  | ok v =>
    obtain ⟨v', rfl, hv⟩ := Except.map_eq_ok.1 hplain
    exact ⟨(hc.value.trans h.1).trans (Eq.symm hv), hc.error.trans h.2⟩
  | error failure =>
    rw [show outcome' = .error failure from Except.map_eq_error.1 hplain]
    cases failure with
    | fault f =>
      have hvalue : c'.value.plain = .text f.code.text := by
        rw [show c'.value.plain = c.value.plain from hc.value, h.1, Value.plain_text]
      exact ⟨Value.plain_eq_text.1 hvalue, hc.error.trans h.2⟩
    | unreadable => exact h.elim
    | unknownOperator => exact h.elim

/-- Two cells that hold alike outcomes have the same error and alike values. -/
theorem Cell.Holds.alike {outcome outcome' : Except Formula.Failure Value}
    (h : c.Holds outcome) (h' : c'.Holds outcome')
    (hplain : Value.plain <$> outcome' = Value.plain <$> outcome) :
    c'.error = c.error ∧ c'.value.Alike c.value := by
  cases outcome with
  | ok v =>
    obtain ⟨v', rfl, hv⟩ := Except.map_eq_ok.1 hplain
    exact ⟨h'.2.trans h.2.symm, (h'.1.trans hv).trans (Eq.symm h.1)⟩
  | error failure =>
    rw [show outcome' = .error failure from Except.map_eq_error.1 hplain] at h'
    cases failure with
    | fault f =>
      refine ⟨h'.2.trans h.2.symm, ?_⟩
      rw [h.1, h'.1]
      rfl
    | unreadable => exact h.elim
    | unknownOperator => exact h.elim

/-- Alike values give alike outcomes, where only the cells count that the text refers to. -/
theorem evaluate_alike {text : String}
    (h : ∀ id ∈ Formula.references text, (valueAt cells' id).Alike (valueAt cells id)) :
    Value.plain <$> (Formula.evaluate (valueAt cells') text).outcome
      = Value.plain <$> (Formula.evaluate (valueAt cells) text).outcome := by
  have hreading := Formula.evaluate_congr text h
  have houtcome := congrArg Formula.Reading.outcome hreading
  rwa [Formula.Reading.outcome_map, Formula.Reading.outcome_map] at houtcome

/-- Whether a cell is up to date depends on the cells that its raw text refers to and on nothing
else. -/
theorem Cell.Current.congr {circular circular' : Prop} (h : c.Current cells circular)
    (hc : c'.Alike c) (hcircular : circular' ↔ circular)
    (hcells : ¬ circular → ∀ id ∈ Formula.references c.raw,
      Option.Rel Cell.Alike (cells'.get? id) (cells.get? id)) :
    c'.Current cells' circular' := by
  by_cases hcycle : circular
  · obtain ⟨hvalue, herror⟩ := (Cell.current_iff_circular hcycle).1 h
    have hplain : c'.value.plain = .text ErrorCode.circular.text := by
      rw [show c'.value.plain = c.value.plain from hc.value, hvalue, Value.plain_text]
    exact .circular (hcircular.2 hcycle) (Value.plain_eq_text.1 hplain) (hc.error.trans herror)
  · have hholds := (Cell.current_iff hcycle).1 h
    rw [Cell.current_iff (mt hcircular.1 hcycle), hc.raw]
    exact hholds.congr (evaluate_alike fun id hid => valueAt_congr (hcells hcycle id hid)) hc

/-- Two cells of one raw text that are up to date are alike, if the values are alike that they refer
to. -/
theorem Cell.Current.alike {circular circular' : Prop} (h : c.Current cells circular)
    (h' : c'.Current cells' circular') (hraw : c'.raw = c.raw) (hcircular : circular' ↔ circular)
    (hvalues : ¬ circular → ∀ id ∈ Formula.references c.raw,
      (valueAt cells' id).Alike (valueAt cells id)) :
    c'.Alike c := by
  by_cases hcycle : circular
  · obtain ⟨hvalue, herror⟩ := (Cell.current_iff_circular hcycle).1 h
    obtain ⟨hvalue', herror'⟩ := (Cell.current_iff_circular (hcircular.2 hcycle)).1 h'
    exact ⟨hraw, herror'.trans herror.symm, by rw [hvalue, hvalue']; rfl⟩
  · have hholds := (Cell.current_iff hcycle).1 h
    have hholds' := (Cell.current_iff (mt hcircular.1 hcycle)).1 h'
    rw [hraw] at hholds'
    obtain ⟨herror, hvalue⟩ := hholds.alike hholds' (evaluate_alike (hvalues hcycle))
    exact ⟨hraw, herror, hvalue⟩

/-! ### The graph of a grid -/

/-- A cell reads the references of its raw text. -/
theorem reads_graph (g : Grid) (id : CellId) :
    g.graph.reads id = ((g.cells.get? id).map fun c => Formula.references c.raw).getD [] := by
  rw [Grid.graph, Dependency.graphOf, Graph.reads, Table.get?_map]

theorem reads_graph_of_get? {g : Grid} (h : g.cells.get? id = some c) :
    g.graph.reads id = Formula.references c.raw := by
  rw [reads_graph, h]
  rfl

/-- A cell that is no formula reads nothing, and so it reaches no cycle. -/
theorem not_reachesCycle_of_literal {g : Grid} (h : g.cells.get? id = some c)
    (hliteral : c.isFormula = false) : ¬ g.graph.ReachesCycle id := by
  apply Graph.not_reachesCycle_of_reads_nil
  rw [reads_graph_of_get? h, references_literal hliteral]

/-- Grids with the same raw texts have the same references. -/
theorem reads_graph_congr {g g' : Grid}
    (h : (g'.cells.get? id).map Cell.raw = (g.cells.get? id).map Cell.raw) :
    g'.graph.reads id = g.graph.reads id := by
  have hrefs : ∀ o : Option Cell, o.map (fun c => Formula.references c.raw)
      = (o.map Cell.raw).map Formula.references := by
    intro o
    rw [Option.map_map]
    rfl
  rw [reads_graph, reads_graph, hrefs, hrefs, h]

theorem keys_graph (g : Grid) : g.graph.keys = g.cells.keys := by
  rw [Grid.graph, Dependency.graphOf, Table.keys_map]

theorem exists_of_mem_keys_graph {g : Grid} (h : id ∈ g.graph.keys) : ∃ c, g.get? id = some c := by
  rw [keys_graph] at h
  exact Table.exists_of_mem_keys h

end Worksheet
