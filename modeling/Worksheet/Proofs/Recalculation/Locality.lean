import Worksheet.Proofs.Recalculation.Result

namespace Worksheet

open Dependency (Graph)
open Recalculation

/-!
# A cell depends on the raw texts in its reach

* `Grid.Consistent` — a grid of the names of its size in which every cell is up to date;
* `Grid.rawAt` — the raw text in a place, which is blank where the grid has no cell;
* `Grid.Consistent.valueAt_alike` — references to a place in two consistent grids find alike values,
  if the grids have the same raw texts in its reach;
* `Grid.Consistent.alike_of_rawAt` — and cells in that place are alike;
* `Grid.Consistent.alike` — so the raw texts of a grid determine its values and errors.
-/

variable {g g' : Grid} {a : CellId} {c c' : Cell}

/-- Whether the cells of the grid are those of its size, and each one is up to date beside the
others. -/
structure Grid.Consistent (g : Grid) : Prop where
  keys : g.cells.keys = (Grid.blank g.rows g.columns).cells.keys
  current : ∀ id c, g.get? id = some c → c.Current g.cells (g.graph.ReachesCycle id)

/-! ### Raw texts -/

/-- The raw text in a place; nothing is written where the grid has no cell. -/
def Grid.rawAt (g : Grid) (id : CellId) : String := ((g.get? id).map Cell.raw).getD ""

theorem rawAt_of_get? (hc : g.get? a = some c) : g.rawAt a = c.raw := by
  rw [Grid.rawAt, hc]
  rfl

theorem exists_of_rawAt_ne (h : g.rawAt a ≠ "") : ∃ c, g.get? a = some c := by
  cases hc : g.get? a with
  | none =>
    rw [Grid.rawAt, hc] at h
    exact absurd rfl h
  | some c => exact ⟨c, rfl⟩

/-- A place refers to what its raw text refers to, be there a cell or not. -/
theorem reads_graph_rawAt (g : Grid) (a : CellId) :
    g.graph.reads a = Formula.references (g.rawAt a) := by
  cases hc : g.get? a with
  | none =>
    have hblank : Formula.references "" = [] := references_literal (by decide)
    rw [reads_graph, Grid.rawAt, hc, show g.cells.get? a = none from hc]
    exact hblank.symm
  | some c => rw [reads_graph_of_get? hc, rawAt_of_get? hc]

/-- A reference to a place where nothing is written finds a zero. -/
theorem Grid.Consistent.valueAt_of_blank (hg : g.Consistent) (h : g.rawAt a = "") :
    valueAt g.cells a = .int 0 := by
  unfold valueAt
  cases hc : g.cells.get? a with
  | none => rfl
  | some c =>
    have hraw : c.raw = "" := (rawAt_of_get? hc).symm.trans h
    have hliteral : Formula.isFormula c.raw = false := by
      rw [hraw]
      decide
    have hholds := (Cell.current_iff (not_reachesCycle_of_literal hc hliteral)).1
      (hg.current a c hc)
    have htext : Value.ofText "" = .ok (.text "") := by decide +kernel
    rw [evaluate_literal hliteral, hraw, htext] at hholds
    obtain ⟨hvalue, herror⟩ := hholds
    have hvalue : c.value = .text "" := Value.plain_eq_text.1 hvalue
    simp only [herror, hvalue]
    rfl

/-! ### Locality -/

/-- Cells of one name are alike if the raw texts in reach are the same and the values are alike that
they read. -/
theorem Grid.Consistent.alike_of_reads (hg : g.Consistent) (hg' : g'.Consistent)
    (hc : g.get? a = some c) (hc' : g'.get? a = some c')
    (hraw : ∀ b, g.graph.Reaches a b → g'.rawAt b = g.rawAt b)
    (hvalues : ¬ g.graph.ReachesCycle a → ∀ b, g.graph.Reads a b →
      (valueAt g'.cells b).Alike (valueAt g.cells b)) : c'.Alike c := by
  have hself : c'.raw = c.raw := by
    rw [← rawAt_of_get? hc, ← rawAt_of_get? hc', hraw a Relation.ReflTransGen.refl]
  have hcycle : g'.graph.ReachesCycle a ↔ g.graph.ReachesCycle a := by
    apply Graph.reachesCycle_iff_of_reads_eq
    intro b hb
    rw [reads_graph_rawAt, reads_graph_rawAt, hraw b hb]
  refine (hg.current a c hc).alike (hg'.current a c' hc') hself hcycle fun hnot b hb => ?_
  apply hvalues hnot b
  rwa [Graph.Reads, reads_graph_of_get? hc]

/-- References to a place that reaches no cycle find alike values, if the raw texts in its reach are
the same.  The references from there come to an end, and the induction is along them. -/
theorem Grid.Consistent.valueAt_alike (hg : g.Consistent) (hg' : g'.Consistent)
    (hground : g.graph.Grounded a) (hraw : ∀ b, g.graph.Reaches a b → g'.rawAt b = g.rawAt b) :
    (valueAt g'.cells a).Alike (valueAt g.cells a) := by
  induction hground with
  | intro a _ ih =>
    have hself := hraw a Relation.ReflTransGen.refl
    by_cases hblank : g.rawAt a = ""
    case pos =>
      -- one of the grids may have no cell there
      rw [hg.valueAt_of_blank hblank, hg'.valueAt_of_blank (hself.trans hblank)]
      rfl
    case neg =>
      obtain ⟨c, hc⟩ := exists_of_rawAt_ne hblank
      obtain ⟨c', hc'⟩ := exists_of_rawAt_ne (hself ▸ hblank)
      have halike : c'.Alike c := by
        refine hg.alike_of_reads hg' hc hc' hraw fun _ b hab => ?_
        exact ih b hab fun d hbd => hraw d (Relation.ReflTransGen.head hab hbd)
      apply valueAt_congr
      rw [show g.cells.get? a = some c from hc, show g'.cells.get? a = some c' from hc']
      exact .some halike

/-- Cells of one name in two consistent grids are alike if the raw texts in their reach are the
same.  Where one grid has a blank cell, the other may have none. -/
theorem Grid.Consistent.alike_of_rawAt (hg : g.Consistent) (hg' : g'.Consistent)
    (hc : g.get? a = some c) (hc' : g'.get? a = some c')
    (hraw : ∀ b, g.graph.Reaches a b → g'.rawAt b = g.rawAt b) : c'.Alike c := by
  refine hg.alike_of_reads hg' hc hc' hraw fun hnot b hab => ?_
  have hground := (Graph.grounded_iff_not_reachesCycle.2 hnot).of_reads hab
  exact hg.valueAt_alike hg' hground fun d hbd => hraw d (Relation.ReflTransGen.head hab hbd)

/-- Consistent grids of one size with the same raw texts are alike in all their cells. -/
theorem Grid.Consistent.alike (hg : g.Consistent) (hg' : g'.Consistent) (hrows : g'.rows = g.rows)
    (hcolumns : g'.columns = g.columns)
    (hraw : ∀ id c c', g.get? id = some c → g'.get? id = some c' → c'.raw = c.raw) :
    g'.cells.Alike g.cells := by
  have hkeys : g'.cells.keys = g.cells.keys := by rw [hg'.keys, hg.keys, hrows, hcolumns]
  have hnone : ∀ a, g.get? a = none → g'.get? a = none := fun a => (get?_eq_none_iff hkeys).2
  have hpair : ∀ a c, g.get? a = some c → ∃ c', g'.get? a = some c' := by
    intro a c hc
    apply Table.exists_of_mem_keys
    rw [hkeys]
    exact Table.mem_keys_of_get? hc
  have hraws : ∀ a, g'.rawAt a = g.rawAt a := by
    intro a
    cases hc : g.get? a with
    | none => rw [Grid.rawAt, Grid.rawAt, hc, hnone a hc]
    | some c =>
      obtain ⟨c', hc'⟩ := hpair a c hc
      rw [rawAt_of_get? hc, rawAt_of_get? hc', hraw a c c' hc hc']
  intro a
  show Option.Rel Cell.Alike (g'.get? a) (g.get? a)
  cases hc : g.get? a with
  | none =>
    rw [hnone a hc]
    exact .none
  | some c =>
    obtain ⟨c', hc'⟩ := hpair a c hc
    rw [hc']
    exact .some (hg.alike_of_rawAt hg' hc hc' fun b _ => hraws b)

end Worksheet
