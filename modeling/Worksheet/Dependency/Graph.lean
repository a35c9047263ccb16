import Worksheet.Formula.Token
import Worksheet.Table

namespace Worksheet.Dependency

/-!
# Dependency graphs

* `Graph` — under each cell, the cells that it reads;
* `Graph.inverse` — under each cell, the cells that read it;
* `Graph.nodes` — every cell that occurs in a graph.

The cells of a graph are in an order, and so are the references of a cell, which may repeat.  A
reference may lead to a cell that the graph does not list; such a cell reads nothing.
-/

/-- Under each cell, the cells that it reads, in the order of its references. -/
abbrev Graph := Table (List CellId)

namespace Graph

/-- The cells that `cell` reads. -/
def reads (g : Graph) (cell : CellId) : List CellId := (g.get? cell).getD []

/-- The number of references. -/
def edgeCount (g : Graph) : Nat := g.toList.foldl (fun n (_, reads) => n + reads.length) 0

/-- The number of cells and of references. -/
def summary (g : Graph) : String := s!"<DependencyGraph cells={g.size} edges={g.edgeCount}>"

/-- The cells of the graph, then those that are only referred to. -/
def nodes (g : Graph) : List CellId := g.keys ++ g.toList.flatMap (·.2)

/-! ### The inverse graph -/

/-- One more reader in front of the readers of `cell`. -/
def addReader (reader : CellId) (inv : Graph) (cell : CellId) : Graph :=
  inv.adjust cell fun readers => reader :: readers.getD []

/-- Under each cell, the cells that read it, once for each reference.  The cells of the graph come
first, then the others as references lead to them. -/
def inverse (g : Graph) : Graph :=
  let unread : Graph := g.map fun _ _ => []
  let filled := g.toList.foldl (fun inv (node, reads) => reads.foldl (addReader node) inv) unread
  filled.map fun _ readers => readers.reverse

end Graph

/-- The graph of the references in a table of texts. -/
def graphOf {α : Type} (raw : α → String) (cells : Table α) : Graph :=
  cells.map fun _ c => Formula.references (raw c)

end Worksheet.Dependency
