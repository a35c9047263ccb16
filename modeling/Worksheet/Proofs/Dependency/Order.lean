import Mathlib.Data.List.Chain
import Worksheet.Dependency.Order
import Worksheet.Proofs.Dependency.Reach

namespace Worksheet.Dependency

open Std (TreeSet)
open Relation (ReflTransGen TransGen)

/-!
# The order of a walk

* `Finished` — a list of cells, the latest first, in which each cell comes after those that it
  reads and all that is in reach of them, as far as they do not reach it in turn;
* `Walking` — the state of a walk: every cell is unseen, on the way or done, the cells on the way
  read each other, and the done ones are `Finished`;
* `Walking.finish`, `Walking.enter` — the two steps of a walk keep this, `Walking.walk` — so does a
  whole walk;
* `nodup_evaluationOrder`, `mem_evaluationOrder`, `mem_before_of_reaches` — an order of evaluation
  has the given cells, once each, and each after what it reads;
* `Graph.evaluationOrder_sorted` — the same from the point of view of two cells.
-/

variable {g : Graph}

/-! ### Finished cells -/

/-- Behind each cell of the list stand the cells that it reads, with all that is in reach of them,
unless they reach it in turn. -/
def Finished (g : Graph) : List CellId → Prop
  | [] => True
  | cell :: earlier =>
    (∀ b c, g.Reads cell b → ¬ g.Reaches b cell → g.Reaches b c → c ∈ earlier) ∧ Finished g earlier

theorem Finished.of_append {later earlier : List CellId} (h : Finished g (later ++ earlier)) :
    Finished g earlier := by
  induction later with
  | nil => exact h
  | cons _ later ih => exact ih h.2

/-- In the order in which they were finished, a cell `b` that `a` reads and the cells in its reach
come before `a`. -/
theorem Finished.mem_before {before after : List CellId} {a b c : CellId}
    (h : Finished g (before ++ a :: after).reverse) (hab : g.Reads a b) (hba : ¬ g.Reaches b a)
    (hbc : g.Reaches b c) : c ∈ before := by
  rw [List.reverse_append, List.reverse_cons, List.append_assoc] at h
  exact List.mem_reverse.1 ((Finished.of_append h).1 b c hab hba hbc)

/-! ### One step -/

theorem mem_erase {s : TreeSet String} {x a : String} : a ∈ s.erase x ↔ a ≠ x ∧ a ∈ s := by
  rw [TreeSet.mem_erase, Ne, Std.LawfulEqOrd.compare_eq_iff_eq]
  exact and_congr_left' ne_comm

theorem mem_ofList_iff {cells : List CellId} {a : CellId} :
    a ∈ TreeSet.ofList cells ↔ a ∈ cells := by
  rw [TreeSet.mem_ofList, List.contains_iff_mem]

theorem contains_ofList_iff {cells : List CellId} {a : CellId} :
    (TreeSet.ofList cells).contains a = true ↔ a ∈ cells := by
  rw [← TreeSet.mem_iff_contains, mem_ofList_iff]

theorem not_mem_of_firstUnseen_none {unseen : TreeSet String} {refs : List CellId}
    (h : firstUnseen unseen refs = none) : ∀ b ∈ refs, b ∉ unseen := by
  induction refs with
  | nil => exact fun b hb => absurd hb List.not_mem_nil
  | cons c refs ih =>
    rw [firstUnseen] at h
    split at h
    case isTrue => exact absurd h (Option.some_ne_none _)
    case isFalse hc =>
      intro b hb
      rcases List.mem_cons.1 hb with rfl | hb
      · exact hc
      · exact ih h b hb

/-- What stands before the first unseen reference has been seen. -/
theorem firstUnseen_some {unseen : TreeSet String} {refs rest : List CellId} {next : CellId}
    (h : firstUnseen unseen refs = some (next, rest)) :
    ∃ seen, refs = seen ++ next :: rest ∧ ∀ b ∈ seen, b ∉ unseen := by
  induction refs with
  | nil => exact absurd h.symm (Option.some_ne_none _)
  | cons c refs ih =>
    rw [firstUnseen] at h
    split at h
    case isTrue =>
      obtain ⟨rfl, rfl⟩ := Prod.mk.inj (Option.some.inj h)
      exact ⟨[], rfl, fun b hb => absurd hb List.not_mem_nil⟩
    case isFalse hc =>
      obtain ⟨seen, rfl, hseen⟩ := ih h
      refine ⟨c :: seen, rfl, ?_⟩
      intro b hb
      rcases List.mem_cons.1 hb with rfl | hb
      · exact hc
      · exact hseen b hb

/-- The cells on the way, the innermost first. -/
def cellsOf (path : List Visit) : List CellId := path.map Visit.cell

/-- The state of a walk among the cells of `pool`. -/
structure Walking (g : Graph) (pool : List CellId) (unseen : TreeSet String) (path : List Visit)
    (done : List CellId) : Prop where
  mem_pool : ∀ a, a ∈ pool ↔ a ∈ unseen ∨ a ∈ cellsOf path ++ done
  not_unseen : ∀ a ∈ cellsOf path ++ done, a ∉ unseen
  nodup : (cellsOf path ++ done).Nodup
  to_follow : ∀ v ∈ path, ∀ b ∈ v.rest, g.Reads v.cell b
  /-- A reference that is no longer to be followed leads to a cell that has been seen. -/
  followed : ∀ v ∈ path, ∀ b, g.Reads v.cell b → b ∈ v.rest ∨ b ∉ unseen
  /-- Each cell on the way is read by the one around it. -/
  linked : (cellsOf path).IsChain fun inner outer => g.Reads outer inner
  /-- What a finished cell reads has been seen. -/
  closed : ∀ a ∈ done, ∀ b, g.Reads a b → b ∉ unseen
  finished : Finished g done

namespace Walking

variable {pool : List CellId} {unseen : TreeSet String} {path : List Visit} {done : List CellId}

/-- Every cell on the way reaches the innermost one. -/
theorem reaches_head {cell : CellId} {outer : List CellId}
    (h : (cell :: outer).IsChain fun inner outer => g.Reads outer inner) :
    ∀ a ∈ cell :: outer, g.Reaches a cell := by
  induction outer generalizing cell with
  | nil =>
    intro a ha
    rw [List.mem_singleton.1 ha]
    exact ReflTransGen.refl
  | cons next outer ih =>
    obtain ⟨hread, hchain⟩ := List.isChain_cons_cons.1 h
    intro a ha
    rcases List.mem_cons.1 ha with rfl | ha
    · exact ReflTransGen.refl
    · exact ReflTransGen.tail (ih hchain a ha) hread

/-- Where the innermost cell has no unseen references, they have all been seen. -/
theorem seen_of_none {cell : CellId} {refs : List CellId}
    (h : Walking g pool unseen (⟨cell, refs⟩ :: path) done)
    (hnone : firstUnseen unseen refs = none) : ∀ b, g.Reads cell b → b ∉ unseen := by
  intro b hb
  rcases h.followed _ List.mem_cons_self b hb with hrest | hseen
  · exact not_mem_of_firstUnseen_none hnone b hrest
  · exact hseen

/-- What has been seen and does not reach the innermost cell is done. -/
theorem mem_done {cell : CellId} {refs : List CellId}
    (h : Walking g pool unseen (⟨cell, refs⟩ :: path) done) {b : CellId} (hb : b ∈ pool)
    (hseen : b ∉ unseen) (hback : ¬ g.Reaches b cell) : b ∈ done := by
  have hplace := ((h.mem_pool b).1 hb).resolve_left hseen
  exact (List.mem_append.1 hplace).resolve_left fun hpath => hback (reaches_head h.linked b hpath)

/-- A cell without unseen references is done. -/
theorem finish {cell : CellId} {refs : List CellId}
    (h : Walking g pool unseen (⟨cell, refs⟩ :: path) done)
    (hpool : ∀ a b, g.Reads a b → b ∈ pool) (hnone : firstUnseen unseen refs = none) :
    Walking g pool unseen path (cell :: done) where
  mem_pool a := by
    rw [h.mem_pool a]
    simp only [cellsOf, List.map_cons, List.cons_append, List.mem_cons, List.mem_append]
    grind
  not_unseen a ha := h.not_unseen a (List.perm_middle.mem_iff.1 ha)
  nodup := List.perm_middle.nodup_iff.2 h.nodup
  to_follow v hv := h.to_follow v (List.mem_cons_of_mem _ hv)
  followed v hv := h.followed v (List.mem_cons_of_mem _ hv)
  linked := List.IsChain.tail h.linked
  closed a ha := by
    rcases List.mem_cons.1 ha with rfl | ha
    · exact h.seen_of_none hnone
    · exact h.closed a ha
  finished := by
    refine ⟨fun b c hb hback hbc => ?_, h.finished⟩
    -- along a way from `b` every cell is done: it has been seen, and it is not on the way, as it
    -- would reach the innermost cell, and so would `b`
    induction hbc with
    | refl => exact h.mem_done (hpool cell b hb) (h.seen_of_none hnone b hb) hback
    | @tail c d hbc hcd ih =>
      refine h.mem_done (hpool c d hcd) (h.closed c ih d hcd) fun hd => hback ?_
      exact ReflTransGen.trans (ReflTransGen.tail hbc hcd) hd

/-- The walk goes on to an unseen cell that is read where it stands. -/
theorem push {next : CellId} (h : Walking g pool unseen path done) (hnext : next ∈ unseen)
    (hread : ∀ outer ∈ (cellsOf path).head?, g.Reads outer next) :
    Walking g pool (unseen.erase next) (⟨next, g.reads next⟩ :: path) done where
  mem_pool a := by
    rw [h.mem_pool a, mem_erase]
    simp only [cellsOf, List.map_cons, List.cons_append, List.mem_cons, List.mem_append]
    by_cases ha : a = next
    · simp [ha, hnext]
    · simp [ha]
  not_unseen a ha hmem := by
    obtain ⟨hne, hin⟩ := mem_erase.1 hmem
    rcases List.mem_cons.1 ha with rfl | ha
    · exact hne rfl
    · exact h.not_unseen a ha hin
  nodup := List.nodup_cons.2 ⟨fun hmem => h.not_unseen next hmem hnext, h.nodup⟩
  to_follow v hv b hb := by
    rcases List.mem_cons.1 hv with rfl | hv
    · exact hb
    · exact h.to_follow v hv b hb
  followed v hv b hb := by
    rcases List.mem_cons.1 hv with rfl | hv
    · exact .inl hb
    · exact (h.followed v hv b hb).imp_right fun hseen hin => hseen (mem_erase.1 hin).2
  linked := List.isChain_cons.2 ⟨hread, h.linked⟩
  closed a ha b hb hin := h.closed a ha b hb (mem_erase.1 hin).2
  finished := h.finished

/-- References that lead to seen cells need no longer be followed. -/
theorem skip {inner : Visit} {cell : CellId} {seen rest : List CellId}
    (h : Walking g pool unseen (inner :: ⟨cell, seen ++ rest⟩ :: path) done)
    (hseen : ∀ b ∈ seen, b ∉ unseen) :
    Walking g pool unseen (inner :: ⟨cell, rest⟩ :: path) done where
  mem_pool := h.mem_pool
  not_unseen := h.not_unseen
  nodup := h.nodup
  to_follow v hv b hb := by
    rcases List.mem_cons.1 hv with rfl | hv
    · exact h.to_follow _ List.mem_cons_self b hb
    rcases List.mem_cons.1 hv with rfl | hv
    · exact h.to_follow ⟨cell, seen ++ rest⟩ (List.mem_cons_of_mem _ List.mem_cons_self) b
        (List.mem_append_right _ hb)
    · exact h.to_follow v (List.mem_cons_of_mem _ (List.mem_cons_of_mem _ hv)) b hb
  followed v hv b hb := by
    rcases List.mem_cons.1 hv with rfl | hv
    · exact h.followed _ List.mem_cons_self b hb
    rcases List.mem_cons.1 hv with rfl | hv
    · have hplace :=
        h.followed ⟨cell, seen ++ rest⟩ (List.mem_cons_of_mem _ List.mem_cons_self) b hb
      rcases hplace with hmem | hgone
      · exact (List.mem_append.1 hmem).symm.imp_right (hseen b)
      · exact .inr hgone
    · exact h.followed v (List.mem_cons_of_mem _ (List.mem_cons_of_mem _ hv)) b hb
  linked := h.linked
  closed := h.closed
  finished := h.finished

/-- The walk goes on to the first unseen reference. -/
theorem enter {cell next : CellId} {refs rest : List CellId}
    (h : Walking g pool unseen (⟨cell, refs⟩ :: path) done)
    (hsome : firstUnseen unseen refs = some (next, rest)) :
    Walking g pool (unseen.erase next) (⟨next, g.reads next⟩ :: ⟨cell, rest⟩ :: path) done := by
  obtain ⟨seen, rfl, hseen⟩ := firstUnseen_some hsome
  have hread : g.Reads cell next :=
    h.to_follow _ List.mem_cons_self next (List.mem_append_right _ List.mem_cons_self)
  -- first the step to `next`; then `next` and the references before it have been seen
  have hpush := h.push (mem_of_firstUnseen hsome) fun outer houter =>
    Option.some.inj houter ▸ hread
  rw [List.append_cons] at hpush
  apply hpush.skip
  intro b hb hin
  rcases List.mem_append.1 hb with hskip | hlast
  · exact hseen b hskip (mem_erase.1 hin).2
  · exact (mem_erase.1 hin).1 (List.mem_singleton.1 hlast)

/-! ### The whole walk -/

/-- A walk ends with everything on the way done. -/
theorem walk (hpool : ∀ a b, g.Reads a b → b ∈ pool) (h : Walking g pool unseen path done) :
    Walking g pool (walk g.reads unseen path done).1 [] (walk g.reads unseen path done).2 := by
  fun_induction Dependency.walk g.reads unseen path done with
  | case1 unseen done => exact h
  | case2 unseen cell refs path done hnone ih => exact ih (h.finish hpool hnone)
  | case3 unseen cell refs path done next rest hsome _ ih => exact ih (h.enter hsome)

end Walking

/-- A walk makes nothing unseen again. -/
theorem mem_of_mem_walk {reads : CellId → List CellId} {unseen : TreeSet String}
    {path : List Visit} {done : List CellId} {a : CellId}
    (h : a ∈ (walk reads unseen path done).1) : a ∈ unseen := by
  fun_induction walk reads unseen path done with
  | case1 unseen done => exact h
  | case2 unseen cell refs path done hnone ih => exact ih h
  | case3 unseen cell refs path done next rest hsome _ ih => exact TreeSet.mem_of_mem_erase (ih h)

/-! ### Walks from several roots -/

section Roots

/-- What each root keeps, several roots keep, and they leave nothing unseen that was seen before,
nor any of the roots. -/
theorem foldl_roots {σ : Type} {step : TreeSet String × σ → CellId → TreeSet String × σ}
    (Inv : TreeSet String × σ → Prop) (hkeep : ∀ state root, Inv state → Inv (step state root))
    (hseen : ∀ state root a, a ∈ (step state root).1 → a ∈ state.1 ∧ a ≠ root)
    (state : TreeSet String × σ) (h : Inv state) (roots : List CellId) :
    Inv (roots.foldl step state) ∧
      ∀ a ∈ (roots.foldl step state).1, a ∈ state.1 ∧ a ∉ roots := by
  induction roots generalizing state with
  | nil => exact ⟨h, fun a ha => ⟨ha, List.not_mem_nil⟩⟩
  | cons root roots ih =>
    obtain ⟨hlast, hunseen⟩ := ih (step state root) (hkeep state root h)
    refine ⟨hlast, fun a ha => ?_⟩
    obtain ⟨hstate, hroots⟩ := hunseen a ha
    obtain ⟨hbefore, hroot⟩ := hseen state root a hstate
    exact ⟨hbefore, List.not_mem_cons_of_ne_of_not_mem hroot hroots⟩

variable {pool : List CellId} {state : TreeSet String × List CellId} {root : CellId}

theorem Walking.walkFrom (hpool : ∀ a b, g.Reads a b → b ∈ pool)
    (h : Walking g pool state.1 [] state.2) (root : CellId) :
    Walking g pool (walkFrom g.reads state root).1 [] (walkFrom g.reads state root).2 := by
  rw [Dependency.walkFrom]
  split
  case isTrue hroot => exact (h.push hroot fun _ houter => nomatch houter).walk hpool
  case isFalse => exact h

theorem mem_of_mem_walkFrom {reads : CellId → List CellId} {a : CellId}
    (h : a ∈ (walkFrom reads state root).1) : a ∈ state.1 ∧ a ≠ root := by
  rw [walkFrom] at h
  split at h
  case isTrue => exact (mem_erase.1 (mem_of_mem_walk h)).symm
  case isFalse hroot => exact ⟨h, fun heq => hroot (heq ▸ h)⟩

end Roots

/-! ### The order of evaluation -/

/-- At the start every cell of the pool is unseen. -/
theorem Walking.start (g : Graph) (pool : List CellId) :
    Walking g pool (TreeSet.ofList pool) [] [] where
  mem_pool a := by
    rw [mem_ofList_iff]
    exact ⟨.inl, fun h => h.resolve_right List.not_mem_nil⟩
  not_unseen _ h := absurd h List.not_mem_nil
  nodup := List.nodup_nil
  to_follow _ h := absurd h List.not_mem_nil
  followed _ h := absurd h List.not_mem_nil
  linked := List.isChain_nil
  closed _ h := absurd h List.not_mem_nil
  finished := trivial

variable (g) in
/-- The cells in the order in which walks from `roots` finish them: the roots are among them, none
comes twice, and each comes after the cells that it reads and what is in reach of them, unless they
reach it in turn. -/
theorem postorder_spec (roots : List CellId) :
    (postorder g roots).Nodup ∧ (∀ a ∈ roots, a ∈ postorder g roots) ∧
      Finished g (postorder g roots).reverse := by
  -- a walk stays among the roots and the nodes
  have hpool : ∀ a b, g.Reads a b → b ∈ roots ++ g.nodes := fun a b hab =>
    List.mem_append_right _ (Graph.mem_nodes_of_reads hab)
  obtain ⟨hwalk, hunseen⟩ := foldl_roots (fun state => Walking g _ state.1 [] state.2)
    (fun _ root h => h.walkFrom hpool root) (fun _ _ _ => mem_of_mem_walkFrom)
    (TreeSet.ofList (roots ++ g.nodes), []) (Walking.start g (roots ++ g.nodes)) roots
  refine ⟨?_, fun a ha => ?_, ?_⟩
  · exact List.nodup_reverse.2 hwalk.nodup
  · have hmem := (hwalk.mem_pool a).1 (List.mem_append_left _ ha)
    exact List.mem_reverse.2 (hmem.resolve_left fun hin => (hunseen a hin).2 ha)
  · rw [postorder, List.reverse_reverse]
    exact hwalk.finished

namespace Graph

theorem nodup_evaluationOrder (g : Graph) (cells : List CellId) :
    (g.evaluationOrder cells).Nodup := (postorder_spec g cells).1.filter _

theorem mem_evaluationOrder {cells : List CellId} {a : CellId} :
    a ∈ g.evaluationOrder cells ↔ a ∈ cells := by
  rw [evaluationOrder, List.mem_filter, contains_ofList_iff]
  exact ⟨And.right, fun ha => ⟨(postorder_spec g cells).2.1 a ha, ha⟩⟩

/-- In an order of evaluation a cell `a` comes after the cells of the list that are in reach of a
cell `b` that it reads, unless `b` reaches `a` in turn. -/
theorem mem_before_of_reaches {cells before after : List CellId} {a b c : CellId}
    (h : g.evaluationOrder cells = before ++ a :: after) (hab : g.Reads a b)
    (hba : ¬ g.Reaches b a) (hbc : g.Reaches b c) (hc : c ∈ cells) : c ∈ before := by
  rw [evaluationOrder, List.filter_eq_append_iff] at h
  -- the place of `a` among the wanted cells is the place of `a` in the whole walk
  obtain ⟨before', rest, hsplit, rfl, hrest⟩ := h
  obtain ⟨skipped, after', rfl, hskipped, -, -⟩ := List.filter_eq_cons_iff.1 hrest
  have hfinished := (postorder_spec g cells).2.2
  rw [hsplit, ← List.append_assoc] at hfinished
  have hwanted : (TreeSet.ofList cells).contains c = true := contains_ofList_iff.2 hc
  rcases List.mem_append.1 (hfinished.mem_before hab hba hbc) with hmem | hmem
  · exact List.mem_filter.2 ⟨hmem, hwanted⟩
  · exact absurd hwanted (hskipped c hmem)

/-- Of two listed cells, one comes after the other if it reads a cell that has the other one in its
reach and does not reach back. -/
theorem sublist_evaluationOrder {cells : List CellId} {a b c : CellId} (ha : a ∈ cells)
    (hc : c ∈ cells) (hab : g.Reads a b) (hba : ¬ g.Reaches b a) (hbc : g.Reaches b c) :
    [c, a].Sublist (g.evaluationOrder cells) := by
  obtain ⟨before, after, hsplit⟩ := List.append_of_mem (mem_evaluationOrder.2 ha)
  have hbefore : c ∈ before := mem_before_of_reaches hsplit hab hba hbc hc
  rw [hsplit]
  exact (List.singleton_sublist.2 hbefore).append
    (List.singleton_sublist.2 List.mem_cons_self)

/-- An order of evaluation has the listed cells and no others, once each.  A cell on no cycle comes
after all the listed cells in its reach, whether the way to them is listed or not.  Any cell, on a
cycle or not, comes after the listed cells that it reads and that do not reach it in turn. -/
theorem evaluationOrder_sorted (g : Graph) (cells : List CellId) :
    (g.evaluationOrder cells).Nodup ∧ (∀ a, a ∈ g.evaluationOrder cells ↔ a ∈ cells) ∧
      (∀ a ∈ cells, ∀ b ∈ cells, TransGen g.Reads a b → ¬ g.OnCycle a →
        [b, a].Sublist (g.evaluationOrder cells)) ∧
      ∀ a ∈ cells, ∀ b ∈ cells, g.Reads a b → ¬ g.Reaches b a →
        [b, a].Sublist (g.evaluationOrder cells) := by
  refine ⟨nodup_evaluationOrder g cells, fun a => mem_evaluationOrder, ?_, ?_⟩
  · intro a ha b hb hab hcycle
    -- the first cell on the way to `b` does not come back to `a`
    obtain ⟨c, hac, hcb⟩ := TransGen.head'_iff.1 hab
    exact sublist_evaluationOrder ha hb hac (fun hca => hcycle (TransGen.head' hac hca)) hcb
  · intro a ha b hb hab hback
    exact sublist_evaluationOrder ha hb hab hback ReflTransGen.refl

/-- A cell on a cycle between two others. -/
def loopBetween : Graph := Table.ofList [("A1", ["B1"]), ("B1", ["B1", "C1"]), ("C1", [])]

/-- The first cell comes after the last one although the cell between them, which is not listed,
lies on a cycle; and that cell comes after the last one too. -/
theorem evaluationOrder_sorted_loopBetween :
    (TransGen loopBetween.Reads "A1" "C1" ∧ ¬ loopBetween.OnCycle "A1" ∧
        ["C1", "A1"].Sublist (loopBetween.evaluationOrder ["A1", "C1", "A1"])) ∧
      loopBetween.OnCycle "B1" ∧ loopBetween.Reads "B1" "C1" ∧ ¬ loopBetween.Reaches "C1" "B1" ∧
        ["C1", "B1"].Sublist (loopBetween.evaluationOrder ["B1", "C1"]) := by
  have hA : loopBetween.reads "A1" = ["B1"] := by decide +kernel
  have hB : loopBetween.reads "B1" = ["B1", "C1"] := by decide +kernel
  have hC : loopBetween.reads "C1" = [] := by decide +kernel
  have hAB : loopBetween.Reads "A1" "B1" := by simp [Reads, hA]
  have hBB : loopBetween.Reads "B1" "B1" := by simp [Reads, hB]
  have hBC : loopBetween.Reads "B1" "C1" := by simp [Reads, hB]
  have hway : TransGen loopBetween.Reads "A1" "C1" := .head hAB (.single hBC)
  have hA_cycle : ¬ loopBetween.OnCycle "A1" := by
    intro hcycle
    obtain ⟨b, hAb, hbA⟩ := TransGen.head'_iff.1 hcycle
    obtain rfl : b = "B1" := by simpa [Reads, hA] using hAb
    have hmem : "A1" ∈ ["B1", "C1"] :=
      mem_of_reaches (by simp [hB, hC]) (by simp) hbA
    simp at hmem
  have hC_back : ¬ loopBetween.Reaches "C1" "B1" := by
    intro hback
    have hmem : "B1" ∈ ["C1"] := mem_of_reaches (by simp [hC]) (by simp) hback
    simp at hmem
  obtain ⟨-, -, hfar, -⟩ := evaluationOrder_sorted loopBetween ["A1", "C1", "A1"]
  obtain ⟨-, -, -, hnear⟩ := evaluationOrder_sorted loopBetween ["B1", "C1"]
  exact ⟨⟨hway, hA_cycle, hfar "A1" (by simp) "C1" (by simp) hway hA_cycle⟩,
    .single hBB, hBC, hC_back, hnear "B1" (by simp) "C1" (by simp) hBC hC_back⟩

end Graph

end Worksheet.Dependency
