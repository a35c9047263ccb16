import Mathlib.Data.Finset.Card
import Worksheet.Proofs.Dependency.Order

namespace Worksheet.Dependency

open Std (TreeSet)
open Relation (ReflTransGen)

/-!
# Depth-first search by recursion

* `Graph.depthFirst` — the recursive search: it visits the cells of a list in their order, each one
  by a search through its references, and skips the visited ones;
* `resume` — what is left to do of a visit on the way; `walk_eq_foldl_resume` — a walk from any
  visits on the way does what is left of them, from the innermost to the outermost one;
* `postorder_eq` — so a walk from several roots finishes the cells in the order of the search;
* `Graph.order_append`, `Graph.sublist_order` — of two cells of a list, the search finishes the one
  that is listed first, unless the other one is in reach of it or of a cell before it;
* `Graph.evaluationOrder_eq_depthFirst` — the order of evaluation, and how it breaks ties.
-/

variable {g : Graph} {a b cell : CellId} {visited : Finset CellId} {cells : List CellId}

/-! ### The search -/

/-- What a search leaves that begins with the cells of `before` visited. -/
structure Traversal (before : Finset CellId) where
  visited : Finset CellId
  /-- The cells that the search has visited, in the order in which their visits end. -/
  order : List CellId
  subset : before ⊆ visited

namespace Graph

/-- The cells of the graph that a search may still visit. -/
def unvisited (g : Graph) (visited : Finset CellId) : Finset CellId := g.keys.toFinset \ visited

theorem card_unvisited_le {before after : Finset CellId} (h : before ⊆ after) :
    (g.unvisited after).card ≤ (g.unvisited before).card :=
  Finset.card_le_card (Finset.sdiff_subset_sdiff (Finset.Subset.refl _) h)

/-- A visit leaves fewer cells of the graph.  A cell that the graph does not list reads nothing. -/
theorem card_unvisited_insert (h : cell ∉ visited) :
    (g.unvisited (insert cell visited)).card < (g.unvisited visited).card ∨ g.reads cell = [] := by
  by_cases hkey : cell ∈ g.keys
  · left
    rw [unvisited, Finset.sdiff_insert]
    exact Finset.card_erase_lt_of_mem (Finset.mem_sdiff.2 ⟨List.mem_toFinset.2 hkey, h⟩)
  · right
    exact List.eq_nil_iff_forall_not_mem.2 fun b hb => hkey (mem_keys_of_reads hb)

/-- The depth-first search through a list of cells: visited cells are skipped, and the visit to any
other cell ends after a search through its references. -/
def depthFirst (g : Graph) (visited : Finset CellId) : List CellId → Traversal visited
  | [] => ⟨visited, [], Finset.Subset.refl visited⟩
  | cell :: cells =>
    if h : cell ∈ visited then g.depthFirst visited cells
    else
      have := g.card_unvisited_insert h
      let below := g.depthFirst (insert cell visited) (g.reads cell)
      have hbelow := (Finset.subset_insert cell visited).trans below.subset
      let rest := g.depthFirst below.visited cells
      ⟨rest.visited, below.order ++ cell :: rest.order, hbelow.trans rest.subset⟩
termination_by cells => ((g.unvisited visited).card, cells.length)
decreasing_by
  · exact Prod.Lex.right _ (Nat.lt_succ_self _)
  · rcases this with hlt | hnone
    · exact Prod.Lex.left _ _ hlt
    -- a cell that the graph does not list is not counted, but the list gets shorter
    · rw [hnone]
      exact Prod.Lex.right' _ (card_unvisited_le (Finset.subset_insert _ _)) (Nat.succ_pos _)
  · exact Prod.Lex.right' _ (card_unvisited_le hbelow) (Nat.lt_succ_self _)

theorem depthFirst_nil (g : Graph) (visited : Finset CellId) :
    g.depthFirst visited [] = ⟨visited, [], Finset.Subset.refl visited⟩ := by rw [depthFirst]

theorem depthFirst_cons_of_mem (h : cell ∈ visited) :
    g.depthFirst visited (cell :: cells) = g.depthFirst visited cells := by
  rw [depthFirst, dif_pos h]

theorem visited_cons_of_not_mem (h : cell ∉ visited) :
    (g.depthFirst visited (cell :: cells)).visited =
      (g.depthFirst (g.depthFirst (insert cell visited) (g.reads cell)).visited cells).visited := by
  rw [depthFirst, dif_neg h]

theorem order_cons_of_not_mem (h : cell ∉ visited) :
    (g.depthFirst visited (cell :: cells)).order =
      (g.depthFirst (insert cell visited) (g.reads cell)).order ++ cell ::
        (g.depthFirst (g.depthFirst (insert cell visited) (g.reads cell)).visited cells).order := by
  rw [depthFirst, dif_neg h]

/-- Visited cells at the beginning of a list are skipped. -/
theorem depthFirst_append_of_forall_mem {skipped : List CellId} (h : ∀ b ∈ skipped, b ∈ visited) :
    g.depthFirst visited (skipped ++ cells) = g.depthFirst visited cells := by
  induction skipped with
  | nil => rfl
  | cons b skipped ih =>
    rw [List.cons_append, depthFirst_cons_of_mem (h b List.mem_cons_self)]
    exact ih fun c hc => h c (List.mem_cons_of_mem b hc)

end Graph

/-! ### A walk as a search -/

/-- Does what is left of a visit: a search through the remaining references, after which the cell is
finished.  The state are the visited cells and the finished ones, the latest first. -/
def resume (g : Graph) (state : Finset CellId × List CellId) (v : Visit) :
    Finset CellId × List CellId :=
  let rest := g.depthFirst state.1 v.rest
  (rest.visited, v.cell :: (rest.order.reverse ++ state.2))

/-- A visit to a new reference is done before what follows it. -/
theorem resume_append {seen rest done : List CellId} {next : CellId}
    (hseen : ∀ b ∈ seen, b ∈ visited) (hnext : next ∉ visited) :
    resume g (visited, done) ⟨cell, seen ++ next :: rest⟩ =
      resume g (resume g (insert next visited, done) ⟨next, g.reads next⟩) ⟨cell, rest⟩ := by
  simp only [resume, Graph.depthFirst_append_of_forall_mem hseen,
    Graph.visited_cons_of_not_mem hnext, Graph.order_cons_of_not_mem hnext, List.reverse_append,
    List.reverse_cons, List.append_assoc, List.cons_append, List.nil_append]

/-- Of the cells in a pool, some are unseen and all others visited. -/
def Splits (pool : List CellId) (unseen : TreeSet String) (visited : Finset CellId) : Prop :=
  ∀ a ∈ pool, a ∈ unseen ↔ a ∉ visited

theorem Splits.enter {pool : List CellId} {unseen : TreeSet String} (h : Splits pool unseen visited)
    (next : CellId) : Splits pool (unseen.erase next) (insert next visited) := by
  intro a ha
  rw [mem_erase, Finset.mem_insert, not_or, h a ha]

/-- A walk does what is left of the visits on the way, from the innermost to the outermost one. -/
theorem walk_eq_foldl_resume {pool : List CellId} {unseen : TreeSet String} {path : List Visit}
    (done : List CellId) (hpool : ∀ a b, g.Reads a b → b ∈ pool)
    (hpath : ∀ v ∈ path, ∀ b ∈ v.rest, b ∈ pool) (h : Splits pool unseen visited) :
    Splits pool (walk g.reads unseen path done).1 (path.foldl (resume g) (visited, done)).1 ∧
      (walk g.reads unseen path done).2 = (path.foldl (resume g) (visited, done)).2 := by
  fun_induction walk g.reads unseen path done generalizing visited with
  | case1 unseen done => exact ⟨h, rfl⟩
  | case2 unseen cell refs path done hnone ih =>
    -- all the references have been visited, so nothing is left but the end of the visit
    have hrefs : ∀ b ∈ refs, b ∈ visited := by
      intro b hb
      have hseen := not_mem_of_firstUnseen_none hnone b hb
      rwa [h b (hpath _ List.mem_cons_self b hb), not_not] at hseen
    have hresume : resume g (visited, done) ⟨cell, refs⟩ = (visited, cell :: done) := by
      rw [← List.append_nil refs]
      simp only [resume, Graph.depthFirst_append_of_forall_mem hrefs, Graph.depthFirst_nil]
      rfl
    rw [List.foldl_cons, hresume]
    exact ih (fun v hv => hpath v (List.mem_cons_of_mem _ hv)) h
  | case3 unseen cell refs path done next rest hsome _ ih =>
    -- the visit to the new reference is the innermost one, and what is left of this one follows it
    obtain ⟨seen, rfl, hseen⟩ := firstUnseen_some hsome
    have hrefs : ∀ b ∈ seen ++ next :: rest, b ∈ pool := hpath _ List.mem_cons_self
    have hvisited : ∀ b ∈ seen, b ∈ visited := by
      intro b hb
      have hgone := hseen b hb
      rwa [h b (hrefs b (List.mem_append_left _ hb)), not_not] at hgone
    have hnext : next ∉ visited :=
      (h next (hrefs next (by simp))).1 (mem_of_firstUnseen hsome)
    rw [List.foldl_cons, resume_append hvisited hnext]
    refine ih ?_ (h.enter next)
    intro v hv b hb
    rcases List.mem_cons.1 hv with rfl | hv
    · exact hpool next b hb
    rcases List.mem_cons.1 hv with rfl | hv
    · exact hrefs b (by simp [show b ∈ rest from hb])
    · exact hpath v (List.mem_cons_of_mem _ hv) b hb

/-- Walks from several roots finish the cells in the order of the search through the roots. -/
theorem foldl_walkFrom_eq {pool roots : List CellId} {state : TreeSet String × List CellId}
    (hpool : ∀ a b, g.Reads a b → b ∈ pool) (hroots : ∀ a ∈ roots, a ∈ pool)
    (h : Splits pool state.1 visited) :
    (roots.foldl (walkFrom g.reads) state).2 =
      (g.depthFirst visited roots).order.reverse ++ state.2 := by
  induction roots generalizing state visited with
  | nil => rw [Graph.depthFirst_nil]; rfl
  | cons root roots ih =>
    have hrest : ∀ a ∈ roots, a ∈ pool := fun a ha => hroots a (List.mem_cons_of_mem root ha)
    have hroot : root ∈ state.1 ↔ root ∉ visited := h root (hroots root List.mem_cons_self)
    rw [List.foldl_cons, walkFrom]
    split
    case isTrue hin =>
      have hpath : ∀ v ∈ [(⟨root, g.reads root⟩ : Visit)], ∀ b ∈ v.rest, b ∈ pool := by
        intro v hv b hb
        rw [List.mem_singleton.1 hv] at hb
        exact hpool root b hb
      obtain ⟨hsplits, hdone⟩ := walk_eq_foldl_resume state.2 hpool hpath (h.enter root)
      rw [ih hrest hsplits, hdone]
      simp [resume, Graph.order_cons_of_not_mem (hroot.1 hin)]
    case isFalse hin =>
      rw [ih hrest h, Graph.depthFirst_cons_of_mem (not_not.1 (mt hroot.2 hin))]

theorem postorder_eq (g : Graph) (roots : List CellId) :
    postorder g roots = (g.depthFirst ∅ roots).order := by
  have hpool : ∀ a b, g.Reads a b → b ∈ roots ++ g.nodes := fun a b hab =>
    List.mem_append_right _ (Graph.mem_nodes_of_reads hab)
  have hstart : Splits (roots ++ g.nodes) (TreeSet.ofList (roots ++ g.nodes)) ∅ := by
    intro a ha
    rw [mem_ofList_iff]
    exact ⟨fun _ => Finset.notMem_empty a, fun _ => ha⟩
  rw [postorder, foldl_walkFrom_eq hpool (fun a ha => List.mem_append_left _ ha) hstart,
    List.append_nil, List.reverse_reverse]

namespace Graph

/-! ### Ties -/

/-- A search visits what it finishes, and nothing else. -/
theorem mem_visited_iff :
    a ∈ (g.depthFirst visited cells).visited ↔
      a ∈ visited ∨ a ∈ (g.depthFirst visited cells).order := by
  induction visited, cells using depthFirst.induct g with
  | case1 visited => simp [depthFirst_nil]
  | case2 visited cell cells h ih => rwa [depthFirst_cons_of_mem h]
  | case3 visited cell cells h _ below _ ihbelow ihrest =>
    rw [visited_cons_of_not_mem h, order_cons_of_not_mem h, ihrest, ihbelow, Finset.mem_insert,
      List.mem_append, List.mem_cons]
    grind

/-- A search visits all the cells of its list. -/
theorem mem_visited_of_mem (ha : a ∈ cells) : a ∈ (g.depthFirst visited cells).visited := by
  induction visited, cells using depthFirst.induct g with
  | case1 visited => exact absurd ha List.not_mem_nil
  | case2 visited cell cells h ih =>
    rw [depthFirst_cons_of_mem h]
    rcases List.mem_cons.1 ha with rfl | ha
    · exact (g.depthFirst visited cells).subset h
    · exact ih ha
  | case3 visited cell cells h _ below hbelow ihbelow ihrest =>
    rw [visited_cons_of_not_mem h]
    rcases List.mem_cons.1 ha with rfl | ha
    · exact (g.depthFirst below.visited cells).subset (below.subset (Finset.mem_insert_self _ _))
    · exact ihrest ha

/-- What a search finishes is in reach of its list. -/
theorem exists_reaches_of_mem_order (hb : b ∈ (g.depthFirst visited cells).order) :
    ∃ a ∈ cells, g.Reaches a b := by
  induction visited, cells using depthFirst.induct g with
  | case1 visited =>
    rw [depthFirst_nil] at hb
    exact absurd hb List.not_mem_nil
  | case2 visited cell cells h ih =>
    rw [depthFirst_cons_of_mem h] at hb
    obtain ⟨a, ha, hab⟩ := ih hb
    exact ⟨a, List.mem_cons_of_mem cell ha, hab⟩
  | case3 visited cell cells h _ below _ ihbelow ihrest =>
    rw [order_cons_of_not_mem h, List.mem_append, List.mem_cons] at hb
    rcases hb with hb | rfl | hb
    · obtain ⟨a, ha, hab⟩ := ihbelow hb
      exact ⟨cell, List.mem_cons_self, ReflTransGen.head ha hab⟩
    · exact ⟨b, List.mem_cons_self, ReflTransGen.refl⟩
    · obtain ⟨a, ha, hab⟩ := ihrest hb
      exact ⟨a, List.mem_cons_of_mem cell ha, hab⟩

/-- A search through two lists goes through the one and then through the other. -/
theorem order_append (xs ys : List CellId) :
    (g.depthFirst visited (xs ++ ys)).order =
      (g.depthFirst visited xs).order ++
        (g.depthFirst (g.depthFirst visited xs).visited ys).order := by
  induction visited, xs using depthFirst.induct g with
  | case1 visited => rw [depthFirst_nil]; rfl
  | case2 visited cell cells h ih =>
    rw [List.cons_append, depthFirst_cons_of_mem h, depthFirst_cons_of_mem h, ih]
  | case3 visited cell cells h _ below _ ihbelow ihrest =>
    rw [List.cons_append, order_cons_of_not_mem h, order_cons_of_not_mem h,
      visited_cons_of_not_mem h, ihrest, List.append_assoc, List.cons_append]

/-- Of two new cells of a list, a search finishes the one that is listed first, unless the other one
is in reach of it or of a cell listed before it. -/
theorem sublist_order {before after : List CellId} (ha : a ∉ visited) (hb : b ∈ after)
    (hnew : b ∉ visited) (hreach : ∀ c ∈ before ++ [a], ¬ g.Reaches c b) :
    [a, b].Sublist (g.depthFirst visited (before ++ a :: after)).order := by
  have hfirst : a ∈ (g.depthFirst visited (before ++ [a])).order := by
    have hmem : a ∈ (g.depthFirst visited (before ++ [a])).visited :=
      mem_visited_of_mem (by simp)
    exact (mem_visited_iff.1 hmem).resolve_left ha
  -- the search has come as far as `a` without meeting `b`
  have hlater : b ∉ (g.depthFirst visited (before ++ [a])).visited := by
    rw [mem_visited_iff, not_or]
    refine ⟨hnew, fun hmem => ?_⟩
    obtain ⟨c, hc, hcb⟩ := exists_reaches_of_mem_order hmem
    exact hreach c hc hcb
  have hsecond : b ∈ (g.depthFirst (g.depthFirst visited (before ++ [a])).visited after).order :=
    (mem_visited_iff.1 (mem_visited_of_mem hb)).resolve_left hlater
  rw [List.append_cons, order_append]
  exact (List.singleton_sublist.2 hfirst).append (List.singleton_sublist.2 hsecond)

/-- Of two new references of a cell, the visit to the cell finishes the first one first, unless the
other one is in reach of it or of a reference before it. -/
theorem sublist_order_reads {before after : List CellId} (hcell : cell ∉ visited)
    (hreads : g.reads cell = before ++ a :: after) (ha : a ∉ visited) (hb : b ∈ after)
    (hnew : b ∉ visited) (hreach : ∀ c ∈ before ++ [a], ¬ g.Reaches c b) :
    [a, b].Sublist (g.depthFirst visited [cell]).order := by
  have hne : a ≠ cell := by
    -- the cell itself has its references in reach
    rintro rfl
    have hab : g.Reads a b := by simp [Reads, hreads, hb]
    exact hreach a (by simp) (ReflTransGen.single hab)
  have ha : a ∉ insert cell visited := by simp [hne, ha]
  rw [order_cons_of_not_mem hcell, hreads]
  -- a cell that reads itself is finished after all that it reads
  by_cases heq : b = cell
  · have hmem : a ∈ (g.depthFirst (insert cell visited) (before ++ a :: after)).order :=
      (mem_visited_iff.1 (mem_visited_of_mem (by simp))).resolve_left ha
    rw [heq]
    exact (List.singleton_sublist.2 hmem).append (List.singleton_sublist.2 List.mem_cons_self)
  · have hnew : b ∉ insert cell visited := by simp [heq, hnew]
    exact (sublist_order ha hb hnew hreach).trans (List.sublist_append_left _ _)

/-- The order of evaluation of some cells is the order in which a recursive depth-first search
through them finishes them, without the cells that are not listed.  So of two listed cells the one
that is listed first comes first, unless the other one is in reach of it or of a cell listed before
it; and wherever the search comes to a cell, the first one of two new references comes first, unless
the other one is in reach of it or of a reference before it. -/
theorem evaluationOrder_eq_depthFirst (g : Graph) (cells : List CellId) :
    g.evaluationOrder cells = (g.depthFirst ∅ cells).order.filter (· ∈ cells) ∧
      (∀ before after a b, cells = before ++ a :: after → b ∈ after →
        (∀ c ∈ before ++ [a], ¬ g.Reaches c b) → [a, b].Sublist (g.evaluationOrder cells)) ∧
      ∀ visited cell before after a b, cell ∉ visited → g.reads cell = before ++ a :: after →
        a ∉ visited → b ∈ after → b ∉ visited → (∀ c ∈ before ++ [a], ¬ g.Reaches c b) →
          [a, b].Sublist (g.depthFirst visited [cell]).order := by
  have heq : g.evaluationOrder cells = (g.depthFirst ∅ cells).order.filter (· ∈ cells) := by
    rw [evaluationOrder, postorder_eq]
    apply List.filter_congr
    intro a _
    rw [Bool.eq_iff_iff, contains_ofList_iff, decide_eq_true_eq]
  refine ⟨heq, ?_, fun visited cell before after a b => sublist_order_reads⟩
  rintro before after a b rfl hb hreach
  have hsublist : [a, b].Sublist (g.depthFirst ∅ (before ++ a :: after)).order :=
    sublist_order (Finset.notMem_empty a) hb (Finset.notMem_empty b) hreach
  have hlisted : [a, b].filter (· ∈ before ++ a :: after) = [a, b] := by simp [hb]
  rw [heq, ← hlisted]
  exact hsublist.filter _

/-- A cell that reads two others, of which the second one reads itself. -/
def twoSources : Graph := Table.ofList [("A1", ["C1", "B1"]), ("B1", ["B1", "Z9"]), ("C1", [])]

theorem evaluationOrder_eq_depthFirst_twoSources :
    twoSources.evaluationOrder ["B1", "A1", "C1"] =
        (twoSources.depthFirst ∅ ["B1", "A1", "C1"]).order.filter (· ∈ ["B1", "A1", "C1"]) ∧
      (∀ c ∈ [] ++ ["B1"], ¬ twoSources.Reaches c "C1") ∧
        ["B1", "C1"].Sublist (twoSources.evaluationOrder ["B1", "A1", "C1"]) ∧
      twoSources.reads "A1" = ["C1", "B1"] ∧
        (∀ c ∈ [] ++ ["C1"], ¬ twoSources.Reaches c "B1") ∧
        ["C1", "B1"].Sublist (twoSources.depthFirst ∅ ["A1"]).order := by
  have hA : twoSources.reads "A1" = ["C1", "B1"] := by decide +kernel
  have hB : twoSources.reads "B1" = ["B1", "Z9"] := by decide +kernel
  have hC : twoSources.reads "C1" = [] := by decide +kernel
  have hZ : twoSources.reads "Z9" = [] := by decide +kernel
  have hBC : ∀ c ∈ [] ++ ["B1"], ¬ twoSources.Reaches c "C1" := by
    intro c hc hreach
    rw [List.nil_append, List.mem_singleton] at hc
    subst hc
    have hmem : "C1" ∈ ["B1", "Z9"] := mem_of_reaches (by simp [hB, hZ]) (by simp) hreach
    simp at hmem
  have hCB : ∀ c ∈ [] ++ ["C1"], ¬ twoSources.Reaches c "B1" := by
    intro c hc hreach
    rw [List.nil_append, List.mem_singleton] at hc
    subst hc
    have hmem : "B1" ∈ ["C1"] := mem_of_reaches (by simp [hC]) (by simp) hreach
    simp at hmem
  obtain ⟨heq, hlisted, hread⟩ := evaluationOrder_eq_depthFirst twoSources ["B1", "A1", "C1"]
  exact ⟨heq, hBC, hlisted [] ["A1", "C1"] "B1" "C1" rfl (by simp) hBC, hA, hCB,
    hread ∅ "A1" [] ["B1"] "C1" "B1" (by simp) hA (by simp) (by simp) (by simp) hCB⟩

end Graph

end Worksheet.Dependency
