import Worksheet.Proofs.Recalculation.Errors
import Worksheet.Proofs.Recalculation.Stability
import Worksheet.Proofs.Session.Edits

namespace Worksheet

open Dependency (Graph)
open Recalculation
open Relation (ReflTransGen)

/-!
# What the cells of a session hold

* `Session.Reachable.alike_of_rawAt_eq` — a cell depends on the raw texts in its reach and on
  nothing else, whatever the session, the size of the grid and its history;
* `Session.Reachable.formed` — the forms that the cells have, and which of them are in error for a
  cycle;
* `Session.Reachable.errors_spread` — errors spread to all readers, and each has a source;
* `Session.recalculate_idempotent` — to recalculate once more, or from any cell of a session, changes
  nothing.
-/

namespace Session

variable {s t : Session} {g g' : Grid} {id : CellId} {c c' : Cell}

/-! ### Locality -/

/-- Two cells of one name, in any grids of any sessions that can be reached, have the same error and
alike values if the grids have the same raw texts in their reach.  A place that one of the grids
does not have counts as blank. -/
theorem Reachable.alike_of_rawAt_eq (hs : s.Reachable) (ht : t.Reachable) (hg : g ∈ s.grids)
    (hg' : g' ∈ t.grids) (hc : g.get? id = some c) (hc' : g'.get? id = some c')
    (hraw : ∀ a, g.graph.Reaches id a → g'.rawAt a = g.rawAt a) :
    c'.error = c.error ∧ c'.value.Alike c.value := by
  have hgrid := hs.grid_consistent g hg
  have hgrid' := ht.grid_consistent g' hg'
  have halike : c'.Alike c := hgrid.alike_of_rawAt hgrid' hc hc' hraw
  exact ⟨halike.error, halike.value⟩

/-- A sum of a cell and of a place that is off the grid. -/
def beyondGrid : Session := small.run [.edit "a1" "=b1+h6" true, .edit "b1" "2" true]

/-- The same sum on a larger grid, where the first cell was in error for a cycle. -/
def withinGrid : Session :=
  small.run [.resize 6 8, .edit "b1" "=b1" true, .edit "b1" "2" true, .edit "a1" "=b1+h6" false]

theorem alike_of_rawAt_eq_beyondGrid :
    ∃ c c', beyondGrid.grid.get? "A1" = some c ∧ withinGrid.grid.get? "A1" = some c' ∧
      c'.error = c.error ∧ c'.value.Alike c.value := by
  have hshown : ∀ s : Session, s.grid ∈ s.grids := fun s => List.mem_cons_self
  have hsheets : (beyondGrid.grid.get? "A1").isSome = true ∧
      (withinGrid.grid.get? "A1").isSome = true ∧
      (∀ a ∈ ["A1", "B1", "H6"], ∀ b ∈ beyondGrid.grid.graph.reads a, b ∈ ["A1", "B1", "H6"]) ∧
      ∀ a ∈ ["A1", "B1", "H6"], withinGrid.grid.rawAt a = beyondGrid.grid.rawAt a := by
    decide +kernel
  obtain ⟨hbeyond, hwithin, hclosed, hraw⟩ := hsheets
  obtain ⟨c, hc⟩ := Option.isSome_iff_exists.1 hbeyond
  obtain ⟨c', hc'⟩ := Option.isSome_iff_exists.1 hwithin
  have hreach : ∀ a, beyondGrid.grid.graph.Reaches "A1" a → a ∈ ["A1", "B1", "H6"] :=
    fun a => Graph.mem_of_reaches hclosed (by decide)
  have hreachable : beyondGrid.Reachable := reachable_small _
  have hreachable' : withinGrid.Reachable := reachable_small _
  exact ⟨c, c', hc, hc', hreachable.alike_of_rawAt_eq hreachable' (hshown _) (hshown _) hc hc'
    fun a ha => hraw a (hreach a ha)⟩

/-! ### Forms -/

/-- In every grid of a session that can be reached, a cell in error has one of the four codes,
shows it as its value, and holds a formula.  Without an error, it holds a number or a text; a
formula holds a number, and a text is the raw text of the cell and writes no number.  The error for
a cycle is that of the cells that reach one, and no other formula comes out with it. -/
theorem Reachable.formed (hs : s.Reachable) (hg : g ∈ s.grids) (hc : g.get? id = some c) :
    (∀ code, c.error = some code →
        code ∈ ErrorCode.known ∧ c.value = .text code.text ∧ c.isFormula = true) ∧
      (c.error = none → (∃ n, c.value = .number n) ∨ ∃ text, c.value = .text text) ∧
      (c.error = none → c.isFormula = true → ∃ n, c.value = .number n) ∧
      (∀ text, c.error = none → c.value = .text text →
        text = c.raw ∧ Number.read? text = .ok none) ∧
      (c.error = some .circular ↔ g.graph.ReachesCycle id) ∧
      ∀ f, ¬ g.graph.ReachesCycle id →
        (Formula.evaluate (valueAt g.cells) c.raw).outcome = .error (.fault f) →
        f.code ≠ .circular := by
  have hgrid := hs.grid_consistent g hg
  have hlegible := hs.legible g hg id c hc
  have hcurrent := hgrid.current id c hc
  have hcircular : c.error = some .circular ↔ g.graph.ReachesCycle id := by
    rw [← hgrid.inError_circular_iff, inError_iff, hc, Option.bind_some]
  refine ⟨fun code herror => ⟨hlegible.error code herror, (hcurrent.of_error_some herror).1, ?_⟩,
    fun herror => ?_, fun herror hformula => ?_, fun text herror hvalue => ?_, hcircular,
    fun f hnot hf hcode => ?_⟩
  · by_cases hcycle : g.graph.ReachesCycle id
    · by_contra hliteral
      exact not_reachesCycle_of_literal hc (by simpa using hliteral) hcycle
    · exact ((hcurrent.of_error_some herror).2 hcycle).1
  · rcases hcurrent.of_error_none herror with hnumber | ⟨-, htext, -⟩
    · exact .inl hnumber
    · exact .inr ⟨_, htext⟩
  · rcases hcurrent.of_error_none herror with hnumber | ⟨hliteral, -⟩
    · exact hnumber
    · rw [hformula] at hliteral
      cases hliteral
  · rcases hcurrent.of_error_none herror with ⟨n, hn⟩ | ⟨-, htext, hread⟩
    · rw [hvalue] at hn
      cases hn
    · obtain rfl : text = c.raw := Value.text.inj (hvalue.symm.trans htext)
      exact ⟨rfl, hread⟩
  · -- such a formula would put its cell in error for a cycle
    have hholds := (Cell.current_iff hnot).1 hcurrent
    rw [hf] at hholds
    exact hnot (hcircular.1 (hcode ▸ hholds.2))

/-- A division by zero, a cycle, and a text that reads like the code for a cycle. -/
def faulty : Session :=
  small.run [.edit "b1" "=1/0" true, .edit "a1" "=b1+d1" true, .edit "d1" "#CIRCULAR" true,
    .edit "c1" "=c1*2" false]

theorem formed_faulty :
    ∃ c, faulty.grid.get? "D1" = some c ∧ c.value = .text "#CIRCULAR" ∧
      Number.read? "#CIRCULAR" = .ok none ∧ ¬ faulty.grid.graph.ReachesCycle "D1" := by
  have hreachable : faulty.Reachable := reachable_small _
  have hcell : (faulty.grid.get? "D1").map (fun c => (c.error, c.value))
      = some (none, .text "#CIRCULAR") := by decide +kernel
  obtain ⟨c, hc, hform⟩ := Option.map_eq_some_iff.1 hcell
  obtain ⟨herror, hvalue⟩ := Prod.mk.inj hform
  obtain ⟨-, -, -, htext, hcircular, -⟩ := hreachable.formed List.mem_cons_self hc
  refine ⟨c, hc, hvalue, (htext _ herror hvalue).2, fun hcycle => ?_⟩
  rw [hcircular.2 hcycle] at herror
  cases herror

/-! ### Errors -/

/-- In every grid of a session that can be reached, each cell that reads a cell in error, directly
or indirectly, is in error.  From each cell in error, references along cells with the same error
lead to a cell that lies on a cycle, or to one whose formula fails by itself with that error. -/
theorem Reachable.errors_spread (hs : s.Reachable) (hg : g ∈ s.grids) :
    (∀ a b code, g.graph.Reaches a b → g.InError code b → ∃ code', g.InError code' a) ∧
      ∀ a code, g.InError code a →
        ∃ b, ReflTransGen (g.ReadsError code) a b ∧
          (g.graph.OnCycle b ∨ g.FailsItself code b) := by
  have hgrid := hs.grid_consistent g hg
  exact ⟨fun a b code hab hb => hgrid.inError_of_reaches hab hb,
    fun a code ha => hgrid.exists_source ha⟩

theorem errors_spread_faulty :
    (∃ code, faulty.grid.InError code "A1") ∧
      ∃ b, ReflTransGen (faulty.grid.ReadsError .divisionByZero) "A1" b ∧
        (faulty.grid.graph.OnCycle b ∨ faulty.grid.FailsItself .divisionByZero b) := by
  have hreachable : faulty.Reachable := reachable_small _
  have hsheet : "B1" ∈ faulty.grid.graph.reads "A1" ∧ faulty.grid.InError .divisionByZero "B1" ∧
      faulty.grid.InError .divisionByZero "A1" := by decide +kernel
  obtain ⟨hreads, hread, hreader⟩ := hsheet
  obtain ⟨hspread, hsource⟩ := hreachable.errors_spread List.mem_cons_self
  exact ⟨hspread "A1" "B1" _ (.single hreads) hread, hsource "A1" _ hreader⟩

/-! ### Recalculation once more -/

/-- Recalculation is idempotent.  From the result of any recalculation, a second one from the same
cell succeeds with the same order and the same cyclic cells; it leaves the grid as it is written, to
the sign of a zero, and reports nothing but not-a-numbers.  In a grid of a session that can be
reached, so does a recalculation from any cell. -/
theorem recalculate_idempotent :
    (∀ (g : Grid) (moment moment' : Nat) (x : CellId) (r : Recalculation),
      g.recalculate moment x = .ok r →
        ∃ r', r.grid.recalculate moment' x = .ok r' ∧ r'.order = r.order ∧ r'.cyclic = r.cyclic ∧
          r'.Idle r.grid) ∧
      ∀ (s : Session) (g : Grid) (moment : Nat) (y : CellId), s.Reachable → g ∈ s.grids →
        y ∈ g.cells.keys → ∃ r, g.recalculate moment y = .ok r ∧ r.Idle g := by
  refine ⟨fun g moment moment' x r hr => exists_recalculate_again hr moment',
    fun s g moment y hs hg hy => ?_⟩
  obtain ⟨r, hr, -, -, hidle⟩ :=
    exists_recalculate_of_currentFrom hy ((hs.grid_consistent g hg).currentFrom hy) moment
  exact ⟨r, hr, hidle⟩

/-- A product that has come out as a zero, beside a factor that has become negative since. -/
def turnedZero : Grid where
  rows := 1
  columns := 2
  cells := Table.ofList [("A1", ⟨"=0.0*B1", .number (.float (.zero false)), none⟩),
    ("B1", ⟨"-1", .int 1, none⟩)]

/-- The same on a sheet. -/
def turnedSheet : Session := small.run [.edit "a1" "=0.0*b1" true, .edit "b1" "-1" true]

theorem recalculate_idempotent_turnedZero :
    (∃ r r', turnedZero.recalculate 0 "B1" = .ok r ∧ r.grid.recalculate 1 "B1" = .ok r' ∧
      (r.grid.get? "A1").map Cell.value = some (.number (.float (.zero false))) ∧
      r'.Idle r.grid) ∧
      (turnedSheet.grid.get? "A1").map Cell.value = some (.number (.float (.zero false))) ∧
      (Formula.evaluate (valueAt turnedSheet.grid.cells) "=0.0*b1").outcome
        = .ok (.number (.float (.zero true))) ∧
      ∃ r, turnedSheet.grid.recalculate 9 "A1" = .ok r ∧ r.Idle turnedSheet.grid := by
  obtain ⟨hagain, hany⟩ := recalculate_idempotent
  have hreachable : turnedSheet.Reachable := reachable_small _
  -- the positive zero stays, as it is the same number
  have hkept : ((turnedZero.recalculate 0 "B1").toOption.bind
      fun r => (r.grid.get? "A1").map Cell.value) = some (.number (.float (.zero false))) := by
    decide +kernel
  have hstored : (turnedSheet.grid.get? "A1").map Cell.value
      = some (.number (.float (.zero false))) := by decide +kernel
  obtain ⟨c, hc, -⟩ := Option.map_eq_some_iff.1 hstored
  refine ⟨?_, hstored, by decide +kernel,
    hany turnedSheet turnedSheet.grid 9 "A1" hreachable List.mem_cons_self
      (Table.mem_keys_of_get? hc)⟩
  cases hr : turnedZero.recalculate 0 "B1" with
  | error e =>
    rw [hr] at hkept
    cases hkept
  | ok r =>
    obtain ⟨r', hr', -, -, hidle⟩ := hagain turnedZero 0 1 "B1" r hr
    rw [hr] at hkept
    exact ⟨r, r', rfl, hr', hkept, hidle⟩

end Session

end Worksheet
