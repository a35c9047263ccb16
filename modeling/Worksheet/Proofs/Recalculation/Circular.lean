import Worksheet.Proofs.Recalculation.Result

namespace Worksheet

open Dependency (Graph)
open Recalculation

/-!
# Recalculation from a cell that reaches a cycle

* `get?_foldl_markCircular`, `foldl_markCircular_congr` — cells put in error for a cycle, in any
  order;
* `conclude_perm` — what is concluded from recomputed cells depends on the order of recomputation
  only in the order of the changes;
* `Grid.recalculateInOrder` — the recalculation that tests every affected cell for cycles;
* `mem_cyclic_of_mem_affectedBy` — with a cell that reaches a cycle, all that it affects does;
* `recalculate_circular` — so these cells need neither the tests nor an order of evaluation.
-/

variable {cells : Table Cell} {cyclic : Std.TreeSet String} {order order' : List CellId}
  {g : Grid} {moment : Nat} {x id : CellId}

/-! ### Cells in error for a cycle -/

theorem get?_markCircular (cells : Table Cell) (a id : CellId) :
    (markCircular cells a).get? id =
      if a = id then (cells.get? id).map (·.withError .circular) else cells.get? id := by
  unfold markCircular
  split
  case h_1 hnone =>
    split
    case isTrue ha => rw [← ha, hnone, Option.map_none]
    case isFalse => rfl
  case h_2 c hc =>
    rw [Table.get?_set]
    split
    case isTrue ha => rw [← ha, hc, Option.map_some]
    case isFalse => rfl

theorem keys_markCircular (cells : Table Cell) (a : CellId) :
    (markCircular cells a).keys = cells.keys := by
  unfold markCircular
  split
  case h_1 => rfl
  case h_2 c hc => exact Table.keys_set_of_mem (Table.mem_keys_of_get? hc) _

theorem get?_foldl_markCircular (order : List CellId) (cells : Table Cell) (id : CellId) :
    (order.foldl markCircular cells).get? id =
      if id ∈ order then (cells.get? id).map (·.withError .circular) else cells.get? id := by
  induction order generalizing cells with
  | nil => rfl
  | cons a order ih =>
    rw [List.foldl_cons, ih, get?_markCircular]
    by_cases ha : a = id
    · -- a second time changes nothing
      rw [if_pos ha, if_pos (List.mem_cons.2 (.inl ha.symm)), Option.map_map]
      exact ite_self _
    · rw [if_neg ha]
      exact if_congr (by rw [List.mem_cons, or_iff_right (Ne.symm ha)]) rfl rfl

theorem keys_foldl_markCircular (order : List CellId) (cells : Table Cell) :
    (order.foldl markCircular cells).keys = cells.keys := by
  induction order generalizing cells with
  | nil => rfl
  | cons a order ih => rw [List.foldl_cons, ih, keys_markCircular]

/-- It does not matter in which order cells are put in error. -/
theorem foldl_markCircular_congr (h : ∀ a, a ∈ order ↔ a ∈ order') :
    order.foldl markCircular cells = order'.foldl markCircular cells := by
  apply Table.ext
  · rw [keys_foldl_markCircular, keys_foldl_markCircular]
  · intro id
    rw [get?_foldl_markCircular, get?_foldl_markCircular]
    exact if_congr (h id) rfl rfl

/-! ### Conclusions in another order -/

/-- From the same cells recomputed in another order follow the same grid and the same changes, in
another order. -/
theorem conclude_perm (h : order.Perm order') :
    (g.conclude x cyclic order cells).grid = (g.conclude x cyclic order' cells).grid ∧
      (g.conclude x cyclic order cells).deltas.Perm (g.conclude x cyclic order' cells).deltas := by
  have hcells : (g.conclude x cyclic order cells).grid.cells =
      (g.conclude x cyclic order' cells).grid.cells := by
    apply Table.ext
    · exact (keys_foldl_revisions rfl).trans (keys_foldl_revisions rfl).symm
    · intro id
      simp only [Grid.conclude, get?_foldl_revisions, h.mem_iff]
  refine ⟨?_, (h.filterMap _).filterMap _⟩
  show { g with cells := (g.conclude x cyclic order cells).grid.cells } = _
  rw [hcells]
  rfl

/-! ### Recalculation in an order of evaluation -/

/-- What follows from a change of one cell if the affected cells are computed in an order of
evaluation, and each is put in error if it reaches a cycle. -/
def Grid.recalculateInOrder (g : Grid) (moment : Nat) (changed : CellId) :
    Except Error Recalculation :=
  (fun (order, cells) => g.conclude changed g.graph.cyclic order cells) <$>
    (g.recomputeInOrder g.graph g.graph.cyclic moment
      (g.graph.inverse.affectedBy changed)).mapError .failed

/-- This is what a recalculation does unless the changed cell reaches a cycle. -/
theorem recalculate_of_not_cyclic (hgrid : x ∈ g.cells.keys) (hx : x ∉ g.graph.cyclic) :
    g.recalculate moment x = g.recalculateInOrder moment x := by
  have hcontains : g.cells.contains x = true := Table.contains_iff_mem_keys.2 hgrid
  rw [Std.TreeSet.mem_iff_contains] at hx
  simp only [Grid.recalculate, Grid.recalculateInOrder, if_pos hcontains, if_neg hx]
  cases g.recomputeInOrder g.graph g.graph.cyclic moment (g.graph.inverse.affectedBy x) with
  | ok => rfl
  | error => rfl

/-- A cell that reaches a cycle affects only cells that reach it too. -/
theorem mem_cyclic_of_mem_affectedBy {graph : Graph} (hx : x ∈ graph.cyclic)
    (hid : id ∈ graph.inverse.affectedBy x) : id ∈ graph.cyclic :=
  Graph.mem_cyclic_of_reaches (Graph.mem_affectedBy_inverse.1 hid) hx

/-- A change of a cell that reaches a cycle affects only cells that reach a cycle.  Its
recalculation, which puts them in error as they are found, gives the same grid as that in an order
of evaluation, which succeeds; and up to their order the same cells are recomputed and the same
changes follow. -/
theorem recalculate_circular (g : Grid) (moment : Nat) {x : CellId} (hx : x ∈ g.graph.cyclic) :
    (∀ a ∈ g.graph.inverse.affectedBy x, a ∈ g.graph.cyclic) ∧
      ∃ found ordered : Recalculation,
        g.recalculate moment x = .ok found ∧ g.recalculateInOrder moment x = .ok ordered ∧
        found.order = g.graph.inverse.affectedBy x ∧ ordered.order.Perm found.order ∧
        ordered.grid = found.grid ∧ ordered.deltas.Perm found.deltas := by
  have hall : ∀ a ∈ g.graph.inverse.affectedBy x, a ∈ g.graph.cyclic :=
    fun a ha => mem_cyclic_of_mem_affectedBy hx ha
  have hgrid : g.cells.contains x = true := by
    rw [Table.contains_iff_mem_keys, ← keys_graph]
    exact Graph.mem_keys_of_reachesCycle (Graph.mem_cyclic.1 hx)
  -- the order of evaluation has the affected cells, once each
  have hmem : ∀ a, a ∈ g.graph.evaluationOrder (g.graph.inverse.affectedBy x) ↔
      a ∈ g.graph.inverse.affectedBy x := fun a => Graph.mem_evaluationOrder
  have hperm : (g.graph.evaluationOrder (g.graph.inverse.affectedBy x)).Perm
      (g.graph.inverse.affectedBy x) :=
    (List.perm_ext_iff_of_nodup (Graph.nodup_evaluationOrder _ _)
      (Graph.nodup_affectedBy_inverse _ _)).2 hmem
  have hfound : g.recalculate moment x = .ok (g.conclude x g.graph.cyclic
      (g.graph.inverse.affectedBy x)
      ((g.graph.inverse.affectedBy x).foldl markCircular g.cells)) := by
    simp only [Grid.recalculate, if_pos hgrid, if_pos (Std.TreeSet.mem_iff_contains.1 hx)]
  have hordered : g.recalculateInOrder moment x = .ok (g.conclude x g.graph.cyclic
      (g.graph.evaluationOrder (g.graph.inverse.affectedBy x))
      ((g.graph.inverse.affectedBy x).foldl markCircular g.cells)) := by
    rw [Grid.recalculateInOrder, Grid.recomputeInOrder, foldlM_update_of_cyclic fun a ha =>
      Std.TreeSet.mem_iff_contains.1 (hall a ((hmem a).1 ha)), foldl_markCircular_congr hmem]
    rfl
  exact ⟨hall, _, _, hfound, hordered, rfl, hperm, conclude_perm hperm⟩

/-- A grid of two cells that read each other, and one more that reads the second one. -/
def readMutually : Grid where
  rows := 1
  columns := 3
  cells := Table.ofList
    [("A1", ⟨"=C1", .int 1, none⟩), ("B1", ⟨"=C1", .int 2, none⟩), ("C1", ⟨"=B1", .int 2, none⟩)]

theorem recalculate_circular_readMutually :
    "B1" ∈ readMutually.graph.cyclic ∧ ∃ found ordered : Recalculation,
      readMutually.recalculate 0 "B1" = .ok found ∧
      readMutually.recalculateInOrder 0 "B1" = .ok ordered ∧
      ordered.grid = found.grid ∧ ordered.deltas.Perm found.deltas := by
  have hcyclic : "B1" ∈ readMutually.graph.cyclic := by decide +kernel
  obtain ⟨-, found, ordered, hfound, hordered, -, -, hgrid, hdeltas⟩ :=
    recalculate_circular readMutually 0 hcyclic
  exact ⟨hcyclic, found, ordered, hfound, hordered, hgrid, hdeltas⟩

end Worksheet
