import Worksheet.Proofs.Recalculation.Locality
import Worksheet.Proofs.Recalculation.Report

namespace Worksheet

open Dependency (Graph)
open Recalculation

/-!
# A recalculation of what is up to date changes nothing

* `exists_update_of_current`, `exists_foldlM_update_of_current` — cells that are up to date can be
  recomputed, and the new ones are alike to them;
* `withoutOrigin_conclude`, `isNan_of_mem_deltas` — what is alike to the cells of the grid brings
  nothing new, but for the origins of not-a-numbers;
* `Recalculation.Idle`, `Grid.CurrentFrom` — a recalculation that changes nothing, and a grid that is
  up to date as far as it goes;
* `exists_recalculate_of_currentFrom` — on such a grid the recalculation succeeds and is idle;
* `Recalculates.currentFrom`, `Grid.Consistent.currentFrom` — the grids that come from a
  recalculation, and the consistent ones, are such grids;
* `exists_recalculate_again` — so a second recalculation is idle.
-/

variable {g g' : Grid} {cells base : Table Cell} {cyclic : Std.TreeSet String}
  {order : List CellId} {moment : Nat} {x id : CellId} {c d e : Cell}

/-- The grid as it is written, where all not-a-numbers are alike. -/
def Grid.withoutOrigin (g : Grid) : Grid :=
  { g with cells := g.cells.map fun _ c => c.withoutOrigin }

/-! ### Alike cells -/

theorem Cell.Alike.trans (h : e.Alike d) (h' : d.Alike c) : e.Alike c :=
  ⟨h.raw.trans h'.raw, h.error.trans h'.error, h.value.trans h'.value⟩

theorem Table.Alike.refl (cells : Table Cell) : cells.Alike cells := fun _ => rel_alike_of_eq rfl

theorem Table.Alike.exists_of_get? (h : cells.Alike base) (hc : base.get? id = some c) :
    ∃ d, cells.get? id = some d ∧ d.Alike c := by
  have hrel := h id
  rw [hc] at hrel
  generalize cells.get? id = o at hrel
  cases hrel with
  | some halike => exact ⟨_, rfl, halike⟩

theorem Table.Alike.set (h : cells.Alike base) (hc : base.get? id = some c) (hd : d.Alike c) :
    (cells.set id d).Alike base := by
  intro a
  rw [Table.get?_set]
  split
  case isTrue ha =>
    rw [← ha, hc]
    exact .some hd
  case isFalse => exact h a

/-- A computed cell alike to the one before brings nothing new, or both hold a not-a-number and are
written the same. -/
theorem Cell.Alike.settledBy_or (h : d.Alike c) :
    c.settledBy d = true ∨ c.value.isNan = true ∧ d.withoutOrigin = c.withoutOrigin := by
  cases hnan : c.value.isNan with
  | false =>
    left
    obtain ⟨hagrees, hform⟩ := Value.agrees_of_alike h.value (h.value.isNan_eq.trans hnan)
    simp [Cell.settledBy, Cell.agrees, h.raw, h.error, hagrees, hform]
  | true =>
    refine .inr ⟨rfl, ?_⟩
    have hvalue : d.value.withoutOrigin = c.value.withoutOrigin :=
      Value.withoutOrigin_eq_of_isNan (h.value.isNan_eq.trans hnan) hnan
    rw [Cell.withoutOrigin, Cell.withoutOrigin, hvalue, h.raw, h.error]

/-! ### Recomputation of cells that are up to date -/

theorem exists_compute_of_current {circular : Prop} (hnot : ¬ circular)
    (h : c.Current cells circular) (origin : Number.Origin) :
    ∃ d, compute cells origin c = .ok d ∧ d.Alike c := by
  have hholds := (Cell.current_iff hnot).1 h
  unfold compute
  generalize (Formula.evaluate (valueAt cells) c.raw).outcome = outcome at hholds
  cases outcome with
  | ok v =>
    obtain ⟨hvalue, herror⟩ := hholds
    have hplain : (v.withOrigin origin).Alike c.value :=
      (Value.plain_withOrigin origin v).trans (Eq.symm hvalue)
    exact ⟨c.withValue (v.withOrigin origin), rfl, rfl, herror.symm, hplain⟩
  | error failure =>
    cases failure with
    | fault f =>
      obtain ⟨hvalue, herror⟩ := hholds
      refine ⟨c.withError f.code, rfl, rfl, herror.symm, ?_⟩
      rw [hvalue]
      rfl
    | unreadable => exact hholds.elim
    | unknownOperator => exact hholds.elim

theorem exists_update_of_current (hc : cells.get? id = some c)
    (h : c.Current cells (cyclic.contains id = true)) (moment : Nat) :
    ∃ d, update cyclic moment cells id = .ok (cells.set id d) ∧ d.Alike c := by
  simp only [update, hc]
  by_cases hcircular : cyclic.contains id = true
  · obtain ⟨hvalue, herror⟩ := (Cell.current_iff_circular hcircular).1 h
    refine ⟨c.withError .circular, ?_, rfl, herror.symm, ?_⟩
    · rw [if_pos hcircular, markCircular, hc]
    · rw [hvalue]
      rfl
  · obtain ⟨d, hd, halike⟩ := exists_compute_of_current hcircular h ⟨moment, id⟩
    refine ⟨d, ?_, halike⟩
    rw [if_neg hcircular, hd]
    rfl

/-- The working copy stays alike to the cells of the grid, so that those that follow are still up to
date beside it. -/
theorem exists_foldlM_update_of_current (halike : cells.Alike base)
    (h : ∀ id ∈ order, ∃ c, base.get? id = some c ∧
      c.Current base (cyclic.contains id = true)) :
    ∃ cells', order.foldlM (update cyclic moment) cells = .ok cells' ∧ cells'.Alike base := by
  induction order generalizing cells with
  | nil => exact ⟨cells, rfl, halike⟩
  | cons a order ih =>
    obtain ⟨c, hc, hcurrent⟩ := h a List.mem_cons_self
    obtain ⟨d, hd, hdc⟩ := halike.exists_of_get? hc
    have hdcurrent : d.Current cells (cyclic.contains a = true) :=
      hcurrent.congr hdc Iff.rfl fun _ b _ => halike b
    obtain ⟨d', hstep, hd'⟩ := exists_update_of_current hd hdcurrent moment
    rw [List.foldlM_cons, hstep]
    exact ih (halike.set hc (hd'.trans hdc)) fun b hb => h b (List.mem_cons_of_mem a hb)

/-! ### Conclusions from alike cells -/

/-- A cell revised by an alike one holds a not-a-number, and is written the same. -/
theorem of_revision?_of_alike {old new : Cell} (halike : cells.Alike base)
    (h : revision? base cells id = some (id, old, new)) :
    old.value.isNan = true ∧ new.withoutOrigin = old.withoutOrigin := by
  obtain ⟨-, hold, hnew, hnot⟩ := revision?_eq_some.1 h
  obtain ⟨d, hd, hdc⟩ := halike.exists_of_get? hold
  obtain rfl : d = new := Option.some.inj (hd.symm.trans hnew)
  rcases hdc.settledBy_or with hsettled | hnan
  · rw [hnot] at hsettled
    cases hsettled
  · exact hnan

theorem withoutOrigin_conclude (halike : cells.Alike g.cells) :
    (g.conclude x cyclic order cells).grid.withoutOrigin = g.withoutOrigin := by
  have hcells : (g.conclude x cyclic order cells).grid.cells.map (fun _ c => c.withoutOrigin)
      = g.cells.map fun _ c => c.withoutOrigin := by
    apply Table.ext
    · rw [Table.keys_map, Table.keys_map]
      exact keys_foldl_revisions rfl
    · intro id
      rw [Table.get?_map, Table.get?_map]
      rcases get?_conclude g x cyclic order cells id with hsame | ⟨hid, old, new, hrevision⟩
      · exact congrArg (Option.map Cell.withoutOrigin) hsame
      · have hold : g.cells.get? id = some old := (revision?_eq_some.1 hrevision).2.1
        have hnew : (g.conclude x cyclic order cells).grid.cells.get? id = some new :=
          get?_conclude_of_revision hid hrevision
        rw [hold, hnew]
        exact congrArg some (of_revision?_of_alike halike hrevision).2
  exact congrArg (Grid.mk g.rows g.columns) hcells

theorem isNan_of_mem_deltas {entry : Delta} (halike : cells.Alike g.cells)
    (h : entry ∈ (g.conclude x cyclic order cells).deltas) :
    ∃ c, g.get? entry.cell = some c ∧ c.value.isNan = true := by
  obtain ⟨id, -, old, new, hrevision, -, rfl⟩ := mem_deltas.1 h
  exact ⟨old, (revision?_eq_some.1 hrevision).2.1, (of_revision?_of_alike halike hrevision).1⟩

/-! ### Recalculation of what is up to date -/

/-- Whether the recalculation leaves the grid as it is written, every sign of a zero included, and
reports nothing but cells that hold a not-a-number. -/
structure Recalculation.Idle (g : Grid) (r : Recalculation) : Prop where
  grid : r.grid.withoutOrigin = g.withoutOrigin
  deltas : ∀ entry ∈ r.deltas, ∃ c, g.get? entry.cell = some c ∧ c.value.isNan = true

/-- Whether the cells that reach `x` are up to date. -/
def Grid.CurrentFrom (g : Grid) (x : CellId) : Prop :=
  ∀ id, g.graph.Reaches id x → ∃ c, g.get? id = some c ∧ c.Current g.cells (id ∈ g.graph.cyclic)

theorem exists_recalculate_of_currentFrom (hx : x ∈ g.cells.keys) (h : g.CurrentFrom x)
    (moment : Nat) :
    ∃ r, g.recalculate moment x = .ok r ∧ r.order = g.graph.schedule x ∧
      r.cyclic = g.graph.cyclic ∧ r.Idle g := by
  obtain ⟨cells, hfold, halike⟩ :
      ∃ cells, (g.graph.schedule x).foldlM (update g.graph.cyclic moment) g.cells = .ok cells ∧
        cells.Alike g.cells :=
    exists_foldlM_update_of_current (.refl g.cells) fun id hid => h id (mem_schedule.1 hid)
  refine ⟨g.conclude x g.graph.cyclic (g.graph.schedule x) cells, ?_, rfl, rfl,
    withoutOrigin_conclude halike, fun _ => isNan_of_mem_deltas halike⟩
  rw [recalculate_eq moment hx, hfold]
  rfl

/-- Grids with the same raw texts under the same names have one graph. -/
theorem graph_congr (hkeys : g'.cells.keys = g.cells.keys)
    (hraw : ∀ id, (g'.get? id).map Cell.raw = (g.get? id).map Cell.raw) : g'.graph = g.graph := by
  have hrefs : ∀ (g : Grid) (id : CellId),
      g.graph.get? id = ((g.get? id).map Cell.raw).map Formula.references := by
    intro g id
    rw [Grid.graph, Dependency.graphOf, Table.get?_map, Option.map_map]
    rfl
  apply Table.ext
  · rw [keys_graph, keys_graph, hkeys]
  · intro id
    rw [hrefs, hrefs, hraw]

theorem Recalculates.graph_eq (h : Recalculates x g g') : g'.graph = g.graph :=
  graph_congr h.keys h.raw

theorem Recalculates.currentFrom (h : Recalculates x g g') : g'.CurrentFrom x := by
  rw [Grid.CurrentFrom, h.graph_eq]
  exact h.current

theorem Grid.Consistent.currentFrom (hg : g.Consistent) (hx : x ∈ g.cells.keys) :
    g.CurrentFrom x := by
  intro id hid
  obtain ⟨c, hc⟩ := Table.exists_of_mem_keys (mem_keys_of_reaches hid hx)
  refine ⟨c, hc, ?_⟩
  rw [Graph.mem_cyclic]
  exact hg.current id c hc

/-- A second recalculation finds the same order and the same cycles, and it is idle. -/
theorem exists_recalculate_again {r : Recalculation} (h : g.recalculate moment x = .ok r)
    (moment' : Nat) :
    ∃ r', r.grid.recalculate moment' x = .ok r' ∧ r'.order = r.order ∧ r'.cyclic = r.cyclic ∧
      r'.Idle r.grid := by
  have hrecalculated := recalculates_of_eq_ok h
  obtain ⟨hx, cells, -, hr⟩ := recalculate_eq_ok h
  have hmem : x ∈ r.grid.cells.keys := by rwa [hrecalculated.keys]
  obtain ⟨r', hr', horder, hcyclic, hidle⟩ :=
    exists_recalculate_of_currentFrom hmem hrecalculated.currentFrom moment'
  rw [hrecalculated.graph_eq] at horder hcyclic
  have hordered : r.order = g.graph.schedule x ∧ r.cyclic = g.graph.cyclic := by
    rw [hr]
    exact ⟨rfl, rfl⟩
  exact ⟨r', hr', horder.trans hordered.1.symm, hcyclic.trans hordered.2.symm, hidle⟩

end Worksheet
