import Worksheet.Dependency.Order

namespace Worksheet.Dependency

open Std (TreeSet)

/-!
# Cycles

* `judge` — goes over the references of a cell up to the first unseen one;
* `search` — a depth-first walk that flags the cells that reach a cycle;
* `Graph.cyclic` — the cells that lie on a cycle or read one, directly or indirectly.

A reference to a cell on the way closes a cycle.  The flag then passes to the cells on the way as
the walk comes back to them, and to every later cell that refers to a flagged one.
-/

/-- Goes over the references of `cell` up to the first unseen one, which comes back with those that
follow it.  A reference to a cell on the way flags both cells, and a reference to a flagged cell
flags `cell`. -/
def judge (unseen onWay : TreeSet String) (cell : CellId) :
    List CellId → TreeSet String → TreeSet String × Option (CellId × List CellId)
  | [], flagged => (flagged, none)
  | next :: rest, flagged =>
    if next ∈ onWay then judge unseen onWay cell rest ((flagged.insert next).insert cell)
    else if next ∈ unseen then (flagged, some (next, rest))
    else judge unseen onWay cell rest (if next ∈ flagged then flagged.insert cell else flagged)

theorem mem_of_judge {unseen onWay flagged flagged' : TreeSet String} {cell next : CellId}
    {refs rest : List CellId}
    (h : judge unseen onWay cell refs flagged = (flagged', some (next, rest))) :
    next ∈ unseen := by
  induction refs generalizing flagged with
  | nil => exact absurd (Prod.mk.inj h).2.symm (Option.some_ne_none _)
  | cons b refs ih =>
    rw [judge] at h
    split at h
    case isTrue => exact ih h
    case isFalse =>
      split at h
      case isTrue hb =>
        obtain ⟨rfl, -⟩ := Prod.mk.inj (Option.some.inj (Prod.mk.inj h).2)
        exact hb
      case isFalse => exact ih h

/-- The flag of a finished cell passes to the cell around it. -/
def passOn (cell : CellId) (path : List Visit) (flagged : TreeSet String) : TreeSet String :=
  match path with
  | [] => flagged
  | outer :: _ => if cell ∈ flagged then flagged.insert outer.cell else flagged

/-- A walk that goes on from the given visits, the innermost first.  `unseen` are the cells that it
may still enter, `onWay` those that it is visiting, and `flagged` those found to reach a cycle. -/
def search (reads : CellId → List CellId) (unseen onWay : TreeSet String) :
    List Visit → TreeSet String → TreeSet String × TreeSet String
  | [], flagged => (unseen, flagged)
  | ⟨cell, refs⟩ :: path, flagged =>
    match h : judge unseen onWay cell refs flagged with
    | (flagged, none) => search reads unseen (onWay.erase cell) path (passOn cell path flagged)
    | (flagged, some (next, rest)) =>
      have := size_erase_lt (mem_of_judge h)
      search reads (unseen.erase next) (onWay.insert next)
        (⟨next, reads next⟩ :: ⟨cell, rest⟩ :: path) flagged
termination_by path => 2 * unseen.size + path.length
decreasing_by all_goals (simp only [List.length_cons]; omega)

/-- The search from `root`, if it has not been seen. -/
def searchFrom (reads : CellId → List CellId) (state : TreeSet String × TreeSet String)
    (root : CellId) : TreeSet String × TreeSet String :=
  if root ∈ state.1 then
    search reads (state.1.erase root) ((∅ : TreeSet String).insert root) [⟨root, reads root⟩]
      state.2
  else state

/-- The cells of the graph that reach a cycle. -/
def Graph.cyclic (g : Graph) : TreeSet String :=
  (g.keys.foldl (searchFrom g.reads) (TreeSet.ofList g.nodes, ∅)).2

end Worksheet.Dependency
