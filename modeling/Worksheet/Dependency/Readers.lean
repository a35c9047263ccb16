import Worksheet.Dependency.Order

namespace Worksheet.Dependency

open Std (TreeSet)

/-!
# Readers

* `discover` — the cells not seen before among the readers of a cell;
* `spread` — the cells of a queue, their readers and so on, in the order of discovery;
* `Graph.affectedBy` — a cell and all its direct and indirect readers.
-/

/-- The cells among `found` that are unseen, once each and in order, and the cells still unseen
after them. -/
def discover (unseen : TreeSet String) : List CellId → List CellId × TreeSet String
  | [] => ([], unseen)
  | cell :: cells =>
    if cell ∈ unseen then
      let (found, unseen) := discover (unseen.erase cell) cells
      (cell :: found, unseen)
    else discover unseen cells

theorem size_discover (unseen : TreeSet String) (cells : List CellId) :
    (discover unseen cells).2.size + (discover unseen cells).1.length = unseen.size := by
  induction cells generalizing unseen with
  | nil => simp [discover]
  | cons cell cells ih =>
    simp only [discover]
    split
    case isTrue h =>
      have hlt := size_erase_lt h
      have hsize : (unseen.erase cell).size = unseen.size - 1 := by
        rw [TreeSet.size_erase, if_pos (TreeSet.mem_iff_contains.1 h)]
      have hrest := ih (unseen.erase cell)
      simp only [List.length_cons]
      omega
    case isFalse => exact ih unseen

/-- Takes the cells from the front of a queue, and puts the unseen readers of each at its end. -/
def spread (readers : CellId → List CellId) (unseen : TreeSet String) : List CellId → List CellId
  | [] => []
  | cell :: queue =>
    match h : discover unseen (readers cell) with
    | (found, unseen') =>
      have : unseen'.size + found.length = unseen.size := by
        simpa only [h] using size_discover unseen (readers cell)
      cell :: spread readers unseen' (queue ++ found)
termination_by queue => unseen.size + queue.length
decreasing_by
  simp only [List.length_append, List.length_cons]
  omega

/-- In the graph of readers: `cell` and all that read it directly or indirectly, the nearer before
the farther. -/
def Graph.affectedBy (readers : Graph) (cell : CellId) : List CellId :=
  spread readers.reads ((TreeSet.ofList readers.nodes).erase cell) [cell]

end Worksheet.Dependency
