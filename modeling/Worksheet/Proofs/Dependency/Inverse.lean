import Worksheet.Proofs.Dependency.Reach

namespace Worksheet.Dependency

/-!
# The inverse graph

* `appendNew`, `foldl_appendNew` — names in the order of first occurrence, one after the other;
* `Graph.reads_inverse` — the inverse graph lists the readers of a cell in the order of the graph,
  each as often as it refers to the cell;
* `Graph.keys_inverse` — and it has an entry for every node, in that order;
* `Graph.count_reads_inverse` — so each reference is turned around once, and inverting twice gives
  the same references again;
* `Graph.inverse_edges` — all that the inverse graph holds.
-/

/-- A list without repetition is left as it is. -/
theorem eraseDups_of_nodup {cells : List CellId} (h : cells.Nodup) : cells.eraseDups = cells := by
  induction cells with
  | nil => rfl
  | cons cell cells ih =>
    obtain ⟨hcell, hcells⟩ := List.nodup_cons.1 h
    have hkeep : cells.filter (fun c => !c == cell) = cells := by
      rw [List.filter_eq_self]
      intro c hc
      have hne : c ≠ cell := fun heq => hcell (heq ▸ hc)
      simpa using hne
    rw [List.eraseDups_cons, hkeep, ih hcells]

/-- The names with one more at the end, unless it is there. -/
def appendNew (names : List CellId) (name : CellId) : List CellId :=
  if name ∈ names then names else names ++ [name]

theorem foldl_appendNew {names cells : List CellId} (h : names.Nodup) :
    cells.foldl appendNew names = (names ++ cells).eraseDups := by
  induction cells generalizing names with
  | nil => rw [List.foldl_nil, List.append_nil, eraseDups_of_nodup h]
  | cons cell cells ih =>
    rw [List.foldl_cons, appendNew]
    split
    case isTrue hcell =>
      -- what is there already is erased from the rest
      have hskip : (cell :: cells).removeAll names = cells.removeAll names := by
        rw [List.cons_removeAll, if_neg (by simpa using hcell)]
      rw [ih h, List.eraseDups_append, List.eraseDups_append, hskip]
    case isFalse hcell =>
      have hnodup : (names ++ [cell]).Nodup := by
        rw [← List.concat_eq_append]
        exact h.concat hcell
      rw [ih hnodup, ← List.append_cons]

namespace Graph

variable {g : Graph} {a b : CellId}

/-- The rows of a graph are its cells with what they read. -/
theorem toList_eq (g : Graph) : g.toList = g.keys.map fun cell => (cell, g.reads cell) := by
  have hrow : ∀ cell ∈ g.keys,
      (g.get? cell).map (cell, ·) = some (cell, g.reads cell) := by
    intro cell hcell
    obtain ⟨refs, hrefs⟩ := Table.exists_of_mem_keys hcell
    rw [reads, hrefs]
    rfl
  rw [Table.toList, List.filterMap_congr hrow]
  exact congrFun List.filterMap_eq_map g.keys

theorem nodes_eq (g : Graph) : g.nodes = g.keys ++ g.keys.flatMap g.reads := by
  rw [nodes, toList_eq, List.flatMap_map]

/-! ### Readers -/

theorem reads_addReader (reader : CellId) (inv : Graph) (cell d : CellId) :
    (addReader reader inv cell).reads d =
      if cell = d then reader :: inv.reads d else inv.reads d := by
  rw [addReader, reads, Table.get?_adjust]
  split
  case isTrue h => rw [← h]; rfl
  case isFalse => rfl

theorem reads_foldl_addReader (reader : CellId) (refs : List CellId) (inv : Graph) (d : CellId) :
    (refs.foldl (addReader reader) inv).reads d =
      List.replicate (refs.count d) reader ++ inv.reads d := by
  induction refs generalizing inv with
  | nil => rfl
  | cons cell refs ih =>
    rw [List.foldl_cons, ih, reads_addReader]
    by_cases h : cell = d
    · rw [if_pos h, h, List.count_cons_self, List.replicate_succ', List.append_assoc]
      rfl
    · rw [if_neg h, List.count_cons_of_ne h]

/-- The readers of `d` among some cells with their references. -/
def readersIn (rows : List (CellId × List CellId)) (d : CellId) : List CellId :=
  rows.flatMap fun (node, refs) => List.replicate (refs.count d) node

theorem readersIn_cons (row : CellId × List CellId) (rows : List (CellId × List CellId))
    (d : CellId) :
    readersIn (row :: rows) d = List.replicate (row.2.count d) row.1 ++ readersIn rows d :=
  List.flatMap_cons

theorem reads_foldl_rows (rows : List (CellId × List CellId)) (inv : Graph) (d : CellId) :
    (rows.foldl (fun inv (node, refs) => refs.foldl (addReader node) inv) inv).reads d =
      (readersIn rows d).reverse ++ inv.reads d := by
  induction rows generalizing inv with
  | nil => rfl
  | cons row rows ih =>
    rw [List.foldl_cons, ih, reads_foldl_addReader, readersIn_cons, List.reverse_append,
      List.reverse_replicate, List.append_assoc]

theorem reads_map {f : CellId → List CellId → List CellId} {d : CellId} (hf : f d [] = [])
    (t : Table (List CellId)) : reads (t.map f) d = f d (reads t d) := by
  rw [reads, reads, Table.get?_map]
  cases t.get? d with
  | none => exact hf.symm
  | some refs => rfl

/-- The inverse graph lists the readers of a cell in the order of the graph, each as often as it
refers to the cell. -/
theorem reads_inverse (g : Graph) (d : CellId) : g.inverse.reads d = readersIn g.toList d := by
  rw [inverse, reads_map List.reverse_nil, reads_foldl_rows, reads_map rfl, List.append_nil,
    List.reverse_reverse]

/-- The same by the cells of the graph. -/
theorem reads_inverse_eq_flatMap (g : Graph) (d : CellId) :
    g.inverse.reads d = g.keys.flatMap fun n => List.replicate ((g.reads n).count d) n := by
  rw [reads_inverse, readersIn, toList_eq, List.flatMap_map]

/-- Reading turned around. -/
theorem reads_inverse_iff : g.inverse.Reads b a ↔ g.Reads a b := by
  rw [Reads, reads_inverse, readersIn, List.mem_flatMap]
  constructor
  · rintro ⟨⟨node, refs⟩, hrow, hmem⟩
    obtain ⟨hcount, rfl⟩ := List.mem_replicate.1 hmem
    rw [Reads, reads, Table.mem_toList_iff.1 hrow]
    exact List.count_pos_iff.1 (Nat.pos_of_ne_zero hcount)
  · intro hab
    obtain ⟨refs, hrefs⟩ :=
      Table.exists_of_mem_keys (mem_keys_of_reads hab)
    have hb : b ∈ refs := by
      rw [Reads, reads, hrefs] at hab
      exact hab
    refine ⟨(a, refs), Table.mem_toList_iff.2 hrefs, List.mem_replicate.2 ⟨?_, rfl⟩⟩
    exact Nat.ne_of_gt (List.count_pos_iff.2 hb)

/-! ### The entries of the inverse graph -/

/-- The readers of a cell are entered under its name. -/
theorem keys_foldl_addReader (reader : CellId) (refs : List CellId) (inv : Graph) :
    (refs.foldl (addReader reader) inv).keys = refs.foldl appendNew inv.keys := by
  -- each step adds to the keys what it adds to the table
  apply Eq.symm
  apply List.foldl_hom Table.keys
  intro inv cell
  exact (Table.keys_adjust inv cell _).symm

theorem keys_foldl_rows (rows : List (CellId × List CellId)) (inv : Graph) :
    (rows.foldl (fun inv (node, refs) => refs.foldl (addReader node) inv) inv).keys =
      (rows.flatMap (·.2)).foldl appendNew inv.keys := by
  rw [List.foldl_flatMap]
  apply Eq.symm
  apply List.foldl_hom Table.keys
  intro inv row
  exact (keys_foldl_addReader row.1 row.2 inv).symm

/-- There is an entry for each cell of the graph, and for each cell that is only referred to, in the
order of the first references. -/
theorem keys_inverse (g : Graph) : g.inverse.keys = g.nodes.eraseDups := by
  rw [inverse, Table.keys_map, keys_foldl_rows, Table.keys_map, foldl_appendNew g.nodup_keys, nodes]

theorem get?_inverse (g : Graph) (d : CellId) :
    g.inverse.get? d = if d ∈ g.nodes then some (g.inverse.reads d) else none := by
  have hkey : d ∈ g.inverse.keys ↔ d ∈ g.nodes := by rw [keys_inverse, List.mem_eraseDups]
  split
  case isTrue hd =>
    obtain ⟨readers, hreaders⟩ := Table.exists_of_mem_keys (hkey.2 hd)
    rw [reads, hreaders, Option.getD_some]
  case isFalse hd => rwa [← hkey, Table.mem_keys_iff, Option.not_isSome_iff_eq_none] at hd

/-! ### Turned references -/

/-- How often each of some names occurs, if each comes as often as told. -/
theorem count_flatMap_replicate {names : List CellId} (h : names.Nodup) (times : CellId → Nat)
    (a : CellId) : (names.flatMap fun n => List.replicate (times n) n).count a =
      if a ∈ names then times a else 0 := by
  induction names with
  | nil => rfl
  | cons name names ih =>
    obtain ⟨hname, hnames⟩ := List.nodup_cons.1 h
    rw [List.flatMap_cons, List.count_append, List.count_replicate, ih hnames]
    by_cases ha : a = name
    · subst ha
      simp [hname]
    · simp [ha, Ne.symm ha]

/-- Each reference is turned around once. -/
theorem count_reads_inverse (g : Graph) (a b : CellId) :
    (g.inverse.reads b).count a = (g.reads a).count b := by
  rw [reads_inverse_eq_flatMap, count_flatMap_replicate g.nodup_keys]
  split
  case isTrue => rfl
  case isFalse ha =>
    -- a cell that is not listed reads nothing
    have hnone : g.reads a = [] :=
      List.eq_nil_iff_forall_not_mem.2 fun b hb => ha (mem_keys_of_reads hb)
    rw [hnone, List.count_nil]

/-- The inverse graph has an entry for each cell of the graph, in its order, and then one for each
other cell that is referred to, in the order of the first references.  The entry of a cell lists its
readers in the order of the graph, each as often as it refers to the cell, and nothing else; so
every reference occurs as often as before once the graph has been inverted twice. -/
theorem inverse_edges (g : Graph) :
    g.inverse.keys =
        g.keys ++ ((g.keys.flatMap g.reads).filter fun cell => cell ∉ g.keys).eraseDups ∧
      (∀ cell, g.inverse.get? cell =
        if cell ∈ g.keys ++ g.keys.flatMap g.reads then
          some (g.keys.flatMap fun reader => List.replicate ((g.reads reader).count cell) reader)
        else none) ∧
      (∀ reader cell, (g.inverse.reads cell).count reader = (g.reads reader).count cell) ∧
      ∀ a b, (g.inverse.inverse.reads a).count b = (g.reads a).count b := by
  refine ⟨?_, fun cell => ?_, count_reads_inverse g, fun a b => ?_⟩
  · rw [keys_inverse, nodes_eq, List.eraseDups_append, eraseDups_of_nodup g.nodup_keys]
    simp [List.removeAll]
  · rw [get?_inverse, nodes_eq, reads_inverse_eq_flatMap]
  · rw [count_reads_inverse, count_reads_inverse]

example : (inverse (Table.ofList [("A1", ["Z9", "B1", "Z9"]), ("B1", ["B1", "A1"])])).toList =
    [("A1", ["B1"]), ("B1", ["A1", "B1"]), ("Z9", ["A1", "A1"])] := by decide +kernel

end Graph

end Worksheet.Dependency
