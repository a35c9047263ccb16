import Worksheet.Proofs.Formula.Failures
import Worksheet.Proofs.Recalculation.Result

namespace Worksheet

open Recalculation

/-!
# When a recalculation succeeds

* `ErrorCode.known`, `Number.Legible` — the codes that a cell can be in error with, and the texts
  that can be read, whether as a number or as none;
* `Value.Legible`, `Cell.Legible`, `Table.Legible` — what any formula can refer to;
* `Formula.Writable` — the texts that can be written into a cell;
* `exists_update`, `legible_update` — one step of a recalculation succeeds among legible cells, and
  keeps them legible;
* `exists_recalculate`, `recalculate_of_unreadable` — on a grid of legible cells a recalculation
  fails only for a text that cannot be read, and for no formula.
-/

variable {cells cells' : Table Cell} {cyclic : Std.TreeSet String} {moment : Nat} {id : CellId}
  {order : List CellId} {c c' : Cell} {v : Value} {text : String}

/-! ### Codes and texts -/

/-- The codes of the library. -/
def ErrorCode.known : List ErrorCode := [.circular, .divisionByZero, .value, .general]

/-- Whether the text can be read, as a number or as no number. -/
def Number.Legible (text : String) : Prop := ∃ n, Number.read? text = .ok n

theorem ErrorCode.legible {code : ErrorCode} (h : code ∈ known) : Number.Legible code.text := by
  simp only [known, List.mem_cons, List.not_mem_nil, or_false] at h
  rcases h with rfl | rfl | rfl | rfl <;> exact ⟨none, by decide +kernel⟩

/-- Only an error that is carried over has a code that the library does not fix. -/
theorem Formula.Fault.code_mem_known {f : Formula.Fault}
    (h : ∀ cell code, f ≠ .carried cell code) : f.code ∈ ErrorCode.known := by
  cases f with
  | carried cell code => exact absurd rfl (h cell code)
  | _ => simp [Formula.Fault.code, Formula.Fault.category, Formula.Category.code, ErrorCode.known]

theorem Value.ofText_eq_ok (h : Value.ofText text = .ok v) :
    (∃ n, v = .number n) ∨ v = .text text ∧ Number.read? text = .ok none := by
  obtain ⟨n, hread, hv⟩ := Except.bind_eq_ok.1 h
  cases n with
  | some n => exact .inl ⟨n, (Except.pure_eq_ok.1 hv).symm⟩
  | none => exact .inr ⟨(Except.pure_eq_ok.1 hv).symm, hread⟩

/-! ### Legible cells -/

/-- Whether a formula that refers to the value has a number or a fault. -/
def Value.Legible : Value → Prop
  | .text s => Number.Legible s
  | .error code => code ∈ ErrorCode.known
  | _ => True

/-- Whether the value of the cell is legible, and its error one of the known ones.  The value counts
even in a cell in error, because a new raw text clears the error and leaves the value. -/
structure Cell.Legible (c : Cell) : Prop where
  value : c.value.Legible
  error : ∀ code, c.error = some code → code ∈ ErrorCode.known

/-- Whether all cells of the table are legible. -/
def Table.Legible (cells : Table Cell) : Prop := ∀ id c, cells.get? id = some c → c.Legible

theorem Value.Legible.withOrigin (h : v.Legible) (origin : Number.Origin) :
    (v.withOrigin origin).Legible := by
  cases v with
  | number n => trivial
  | _ => exact h

theorem Cell.Legible.withRaw (h : c.Legible) (raw : String) : (c.withRaw raw).Legible where
  value := h.value
  error _ hcode := by cases hcode

theorem Cell.legible_withValue (h : v.Legible) (c : Cell) : (c.withValue v).Legible where
  value := h
  error _ hcode := by cases hcode

theorem Cell.legible_withError {code : ErrorCode} (h : code ∈ ErrorCode.known) (c : Cell) :
    (c.withError code).Legible where
  value := ErrorCode.legible h
  error code' hcode := by
    obtain rfl : code = code' := Option.some.inj hcode
    exact h

theorem Table.Legible.set (h : cells.Legible) (hc : c.Legible) (id : CellId) :
    (cells.set id c).Legible := by
  intro a d hd
  rw [Table.get?_set] at hd
  split at hd
  case isTrue => rwa [← Option.some.inj hd]
  case isFalse => exact h a d hd

/-- References to legible cells find legible values. -/
theorem Table.Legible.valueAt (h : cells.Legible) (id : CellId) :
    (Recalculation.valueAt cells id).Legible := by
  unfold Recalculation.valueAt
  split
  case h_1 => trivial
  case h_2 c hc =>
    split
    case h_1 code herror => exact (h id c hc).error code herror
    case h_2 =>
      split
      case isTrue => trivial
      case isFalse => exact (h id c hc).value

/-! ### Texts that can be written -/

/-- Whether the text can be written into a cell: it is a formula, whatever it says, or has a
value. -/
def Formula.Writable (text : String) : Prop :=
  Formula.isFormula text = true ∨ ∃ v, Value.ofText text = .ok v

theorem Formula.not_writable {u : Number.Unreadable} (hformula : Formula.isFormula text = false)
    (hu : Value.ofText text = .error u) : ¬ Formula.Writable text := by
  rintro (h | ⟨v, hv⟩)
  · rw [hformula] at h
    cases h
  · rw [hu] at hv
    cases hv

theorem Formula.writable_or (text : String) : Formula.Writable text ∨
    Formula.isFormula text = false ∧ ∃ u, Value.ofText text = .error u := by
  cases hformula : Formula.isFormula text with
  | true => exact .inl (.inl hformula)
  | false =>
    cases hvalue : Value.ofText text with
    | ok v => exact .inl (.inr ⟨v, hvalue⟩)
    | error u => exact .inr ⟨rfl, u, rfl⟩

/-- A formula among legible cells has a value or a fault with a known code. -/
theorem fault_of_evaluate {failure : Formula.Failure} (hcells : cells.Legible)
    (hformula : Formula.isFormula text = true)
    (h : (Formula.evaluate (valueAt cells) text).outcome = .error failure) :
    ∃ f, failure = .fault f ∧ f.code ∈ ErrorCode.known := by
  obtain ⟨body, hbody⟩ := Option.isSome_iff_exists.1 hformula
  cases Formula.from_of_evaluate hbody h with
  | own hown =>
    obtain ⟨f, hf, hcarried⟩ := hown
    exact ⟨f, hf, Formula.Fault.code_mem_known hcarried⟩
  | @carried b code _ hvalue =>
    have hlegible := hcells.valueAt b
    rw [hvalue] at hlegible
    exact ⟨_, rfl, hlegible⟩
  | @unreadable b s u _ hvalue hu =>
    -- no text that is legible is unreadable
    have hlegible := hcells.valueAt b
    rw [hvalue] at hlegible
    obtain ⟨n, hn⟩ := hlegible
    rw [hn] at hu
    cases hu

/-- The value of a formula is a number. -/
theorem exists_number_of_evaluate {value : CellId → Value}
    (hformula : Formula.isFormula text = true)
    (h : (Formula.evaluate value text).outcome = .ok v) : ∃ n, v = .number n := by
  obtain ⟨body, hbody⟩ := Option.isSome_iff_exists.1 hformula
  simp only [Formula.evaluate, hbody, ← map_eq_pure_bind, Formula.Reading.outcome_bind,
    Formula.Reading.outcome_map] at h
  obtain ⟨tokens, -, h⟩ := Except.bind_eq_ok.1 h
  obtain ⟨ordered, -, h⟩ := Except.bind_eq_ok.1 h
  obtain ⟨n, -, hn⟩ := Except.map_eq_ok.1 h
  exact ⟨n, hn.symm⟩

theorem legible_of_evaluate (h : (Formula.evaluate (valueAt cells) text).outcome = .ok v) :
    v.Legible := by
  cases hformula : Formula.isFormula text with
  | false =>
    rw [evaluate_literal hformula] at h
    rcases Value.ofText_eq_ok (Except.mapError_eq_ok.1 h) with ⟨n, rfl⟩ | ⟨rfl, hread⟩
    · trivial
    · exact ⟨none, hread⟩
  | true =>
    obtain ⟨n, rfl⟩ := exists_number_of_evaluate hformula h
    trivial

/-! ### One step -/

theorem exists_compute (hcells : cells.Legible) (hraw : Formula.Writable c.raw)
    (origin : Number.Origin) : ∃ c', compute cells origin c = .ok c' := by
  unfold compute
  cases houtcome : (Formula.evaluate (valueAt cells) c.raw).outcome with
  | ok v => exact ⟨_, rfl⟩
  | error failure =>
    cases hformula : Formula.isFormula c.raw with
    | true =>
      obtain ⟨f, rfl, -⟩ := fault_of_evaluate hcells hformula houtcome
      exact ⟨_, rfl⟩
    | false =>
      obtain ⟨v, hv⟩ := hraw.resolve_left (by simp [hformula])
      rw [evaluate_literal hformula, hv] at houtcome
      cases houtcome

theorem legible_compute {origin : Number.Origin} (hcells : cells.Legible)
    (h : compute cells origin c = .ok c') : c'.Legible := by
  unfold compute at h
  split at h
  case h_1 v hv =>
    obtain rfl : c.withValue (v.withOrigin origin) = c' := Except.ok.inj h
    exact Cell.legible_withValue ((legible_of_evaluate hv).withOrigin origin) c
  case h_2 f hf =>
    obtain rfl : c.withError f.code = c' := Except.ok.inj h
    cases hformula : Formula.isFormula c.raw with
    | true =>
      obtain ⟨f', hf', hcode⟩ := fault_of_evaluate hcells hformula hf
      obtain rfl : f = f' := Formula.Failure.fault.inj hf'
      exact Cell.legible_withError hcode c
    | false =>
      rw [evaluate_literal hformula] at hf
      cases hvalue : Value.ofText c.raw <;> rw [hvalue] at hf <;> cases hf
  case h_3 => cases h

/-- A step fails only at a cell whose raw text cannot be written. -/
theorem exists_update (hcells : cells.Legible)
    (hraw : ∀ c, cells.get? id = some c → Formula.Writable c.raw) :
    ∃ cells', update cyclic moment cells id = .ok cells' := by
  unfold update
  cases hc : cells.get? id with
  | none => exact ⟨cells, rfl⟩
  | some c =>
    by_cases hcyclic : cyclic.contains id = true
    · exact ⟨_, if_pos hcyclic⟩
    · obtain ⟨new, hnew⟩ := exists_compute hcells (hraw c hc) ⟨moment, id⟩
      refine ⟨cells.set id new, ?_⟩
      simp only [if_neg hcyclic, hnew]
      rfl

theorem legible_update (hcells : cells.Legible)
    (h : update cyclic moment cells id = .ok cells') : cells'.Legible := by
  unfold update at h
  split at h
  case h_1 => rwa [← Except.ok.inj h]
  case h_2 c hc =>
    by_cases hcyclic : cyclic.contains id = true
    · rw [if_pos hcyclic, markCircular, hc] at h
      rw [← Except.ok.inj h]
      exact hcells.set (Cell.legible_withError (by simp [ErrorCode.known]) c) id
    · rw [if_neg hcyclic] at h
      obtain ⟨new, hnew, hset⟩ := Except.bind_eq_ok.1 h
      rw [← Except.ok.inj hset]
      exact hcells.set (legible_compute hcells hnew) id

/-! ### All steps -/

theorem legible_foldlM_update (hcells : cells.Legible)
    (h : order.foldlM (update cyclic moment) cells = .ok cells') : cells'.Legible := by
  induction order generalizing cells with
  | nil => rwa [← Except.ok.inj h]
  | cons a order ih =>
    rw [List.foldlM_cons] at h
    obtain ⟨middle, hstep, hrest⟩ := Except.bind_eq_ok.1 h
    exact ih (legible_update hcells hstep) hrest

theorem exists_foldlM_update (hcells : cells.Legible)
    (hraw : ∀ a ∈ order, ∀ c, cells.get? a = some c → Formula.Writable c.raw) :
    ∃ cells', order.foldlM (update cyclic moment) cells = .ok cells' := by
  induction order generalizing cells with
  | nil => exact ⟨cells, rfl⟩
  | cons a order ih =>
    obtain ⟨middle, hstep⟩ : ∃ middle, update cyclic moment cells a = .ok middle :=
      exists_update hcells (hraw a List.mem_cons_self)
    rw [List.foldlM_cons, hstep]
    refine ih (legible_update hcells hstep) fun b hb c hc => ?_
    have hkept : (middle.get? b).map Cell.raw = (cells.get? b).map Cell.raw :=
      (update_spec hstep).1.map_raw b
    rw [hc, Option.map_some] at hkept
    obtain ⟨d, hd, hdraw⟩ := Option.map_eq_some_iff.1 hkept.symm
    rw [← hdraw]
    exact hraw b (List.mem_cons_of_mem a hb) d hd

/-! ### Recalculation -/

variable {g : Grid} {x : CellId}

theorem legible_recalculate {r : Recalculation} (hg : g.cells.Legible)
    (h : g.recalculate moment x = .ok r) : r.grid.cells.Legible := by
  obtain ⟨-, cells, hfold, rfl⟩ := recalculate_eq_ok h
  have hcells : cells.Legible := legible_foldlM_update hg hfold
  intro a c hc
  rcases get?_conclude g x g.graph.cyclic (g.graph.schedule x) cells a with
    hsame | ⟨ha, old, new, hrevision⟩
  · exact hg a c (hsame.symm.trans hc)
  · obtain rfl : new = c := Option.some.inj ((get?_conclude_of_revision ha hrevision).symm.trans hc)
    obtain ⟨-, -, hnew, -⟩ := revision?_eq_some.1 hrevision
    exact hcells a new hnew

/-- On a grid of legible cells with texts that can be written, a recalculation succeeds. -/
theorem exists_recalculate (hg : g.cells.Legible) (hx : x ∈ g.cells.keys)
    (hraw : ∀ a c, g.get? a = some c → Formula.Writable c.raw) (moment : Nat) :
    ∃ r, g.recalculate moment x = .ok r := by
  obtain ⟨cells, hfold⟩ : ∃ cells,
      (g.graph.schedule x).foldlM (update g.graph.cyclic moment) g.cells = .ok cells :=
    exists_foldlM_update hg fun a _ => hraw a
  rw [recalculate_eq moment hx, hfold]
  exact ⟨_, rfl⟩

/-- If only the changed cell has a text that cannot be read, that is the failure. -/
theorem recalculate_of_unreadable {u : Number.Unreadable} (hg : g.cells.Legible)
    (hc : g.get? x = some c) (hformula : Formula.isFormula c.raw = false)
    (hu : Value.ofText c.raw = .error u)
    (hraw : ∀ a d, a ≠ x → g.get? a = some d → Formula.Writable d.raw) (moment : Nat) :
    g.recalculate moment x = .error (.failed (.unreadable u)) := by
  have hcyclic : ¬ g.graph.cyclic.contains x = true := by
    rw [Dependency.Graph.contains_cyclic]
    exact not_reachesCycle_of_literal hc hformula
  -- all steps up to the changed cell succeed, and the one at it does not
  obtain ⟨before, after, hsplit, hbefore⟩ :=
    List.eq_append_cons_of_mem (mem_schedule.2 (Relation.ReflTransGen.refl (a := x)))
  obtain ⟨cells, hfold⟩ : ∃ cells,
      before.foldlM (update g.graph.cyclic moment) g.cells = .ok cells :=
    exists_foldlM_update hg fun a ha d hd => hraw a d (fun hax => hbefore (hax ▸ ha)) hd
  obtain ⟨-, hkept, -⟩ := foldlM_update_frame hfold
  have hstep : update g.graph.cyclic moment cells x = .error (.unreadable u) := by
    have hget : cells.get? x = some c := (hkept x hbefore).trans hc
    have hcompute : compute cells ⟨moment, x⟩ c = .error (.unreadable u) := by
      rw [compute, evaluate_literal hformula, hu]
      rfl
    simp only [update, hget, if_neg hcyclic, hcompute]
    rfl
  have hall : (before ++ x :: after).foldlM (update g.graph.cyclic moment) g.cells
      = .error (.unreadable u) := by
    rw [List.foldlM_append, hfold]
    show (x :: after).foldlM (update g.graph.cyclic moment) cells = _
    rw [List.foldlM_cons, hstep]
    rfl
  rw [recalculate_eq moment (Table.mem_keys_of_get? hc), hsplit, hall]
  rfl

end Worksheet
