import Std.Data.TreeSet
import Worksheet.Dependency.Graph

namespace Worksheet.Dependency

open Std (TreeSet)

/-!
# Orders of evaluation

* `walk` — a depth-first walk that finishes a cell after the cells that it reads;
* `postorder` — the cells reached from a list of cells, in the order in which the walk finishes
  them;
* `Graph.evaluationOrder` — the cells of a list, each after the cells of the list that it reads.

A walk visits the references of a cell in their order and no cell twice.  It ends because every new
cell leaves the finite set of cells not yet seen.
-/

/-- A cell on the way, with the references that are still to be followed. -/
structure Visit where
  cell : CellId
  rest : List CellId
  deriving DecidableEq, Repr

/-- A set without one of its elements is smaller. -/
theorem size_erase_lt {s : TreeSet String} {x : String} (h : x ∈ s) :
    (s.erase x).size < s.size := by
  have hne : s.size ≠ 0 := by
    intro h0
    have hempty : s.isEmpty = true := by simp [TreeSet.isEmpty_eq_size_eq_zero, h0]
    exact TreeSet.not_mem_of_isEmpty hempty h
  rw [TreeSet.size_erase, if_pos (TreeSet.mem_iff_contains.1 h)]
  omega

/-- The first unseen cell of a list, and what follows it in the list. -/
def firstUnseen (unseen : TreeSet String) : List CellId → Option (CellId × List CellId)
  | [] => none
  | cell :: rest => if cell ∈ unseen then some (cell, rest) else firstUnseen unseen rest

theorem mem_of_firstUnseen {unseen : TreeSet String} {cells rest : List CellId} {cell : CellId}
    (h : firstUnseen unseen cells = some (cell, rest)) : cell ∈ unseen := by
  induction cells with
  | nil => simp [firstUnseen] at h
  | cons c cs ih =>
    simp only [firstUnseen] at h
    split at h
    case isTrue hc =>
      obtain ⟨rfl, rfl⟩ := Prod.mk.inj (Option.some.inj h)
      exact hc
    case isFalse => exact ih h

/-- A walk that goes on from the given visits, the innermost first.  `unseen` are the cells that it
may still enter, and `done` the finished ones, the latest first. -/
def walk (reads : CellId → List CellId) (unseen : TreeSet String) :
    List Visit → List CellId → TreeSet String × List CellId
  | [], done => (unseen, done)
  | ⟨cell, refs⟩ :: path, done =>
    match h : firstUnseen unseen refs with
    | none => walk reads unseen path (cell :: done)
    | some (next, rest) =>
      have := size_erase_lt (mem_of_firstUnseen h)
      walk reads (unseen.erase next) (⟨next, reads next⟩ :: ⟨cell, rest⟩ :: path) done
termination_by path => 2 * unseen.size + path.length
decreasing_by all_goals (simp only [List.length_cons]; omega)

/-- The walk from `root`, if it has not been seen. -/
def walkFrom (reads : CellId → List CellId) (state : TreeSet String × List CellId)
    (root : CellId) : TreeSet String × List CellId :=
  if root ∈ state.1 then walk reads (state.1.erase root) [⟨root, reads root⟩] state.2 else state

/-- The cells reached from `roots`, each one as the walk finishes it. -/
def postorder (g : Graph) (roots : List CellId) : List CellId :=
  (roots.foldl (walkFrom g.reads) (TreeSet.ofList (roots ++ g.nodes), [])).2.reverse

/-- The cells of a list, without repetition, each after the cells of the list that it reads, as far
as there is such an order.  Cells outside the list are walked through. -/
def Graph.evaluationOrder (g : Graph) (cells : List CellId) : List CellId :=
  let wanted := TreeSet.ofList cells
  (postorder g cells).filter wanted.contains

end Worksheet.Dependency
