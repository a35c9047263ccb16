import Worksheet.Proofs.Dependency.Cycles
import Worksheet.Proofs.Dependency.Readers
import Worksheet.Proofs.Recalculation.Current

namespace Worksheet

open Dependency (Graph)
open Recalculation

/-!
# Recalculation brings the readers of a cell up to date

* `update_spec` — one step recomputes one cell from the cells before it;
* `foldlM_update_frame`, `foldlM_update_current` — after all steps the cells of the order are up to
  date, and the others are as before;
* `get?_conclude`, `conclude_spec` — the result has the new cells of the revisions, and keeps what
  is alike to the recomputed cells;
* `Dependency.Graph.schedule`, `recalculate_eq` — a recalculation takes these steps along an order
  that fits the references;
* `Recalculates`, `recalculate_spec` — the result of a recalculation.
-/

variable {cells cells' : Table Cell} {cyclic : Std.TreeSet String} {moment : Nat} {id : CellId}
  {order : List CellId} {c c' : Cell}

/-! ### One step -/

theorem compute_spec {origin : Number.Origin} (h : compute cells origin c = .ok c')
    {circular : Prop} (hnot : ¬ circular) : c'.raw = c.raw ∧ c'.Current cells circular := by
  rw [Cell.current_iff hnot]
  unfold compute at h
  split at h
  case h_1 v hv =>
    obtain rfl : c.withValue (v.withOrigin origin) = c' := Except.ok.inj h
    refine ⟨rfl, ?_⟩
    show Cell.Holds _ (Formula.evaluate (valueAt cells) c.raw).outcome
    rw [hv]
    exact ⟨Value.plain_withOrigin origin v, rfl⟩
  case h_2 f hf =>
    obtain rfl : c.withError f.code = c' := Except.ok.inj h
    refine ⟨rfl, ?_⟩
    show Cell.Holds _ (Formula.evaluate (valueAt cells) c.raw).outcome
    rw [hf]
    exact ⟨rfl, rfl⟩
  case h_3 => cases h

/-- What a recomputation of the cell `id` does to the cells: it keeps the names, the raw texts and
all other cells. -/
structure Recomputes (id : CellId) (cells cells' : Table Cell) : Prop where
  keys : cells'.keys = cells.keys
  other : ∀ b, b ≠ id → cells'.get? b = cells.get? b
  raw : (cells'.get? id).map Cell.raw = (cells.get? id).map Cell.raw

theorem Recomputes.map_raw (h : Recomputes id cells cells') (b : CellId) :
    (cells'.get? b).map Cell.raw = (cells.get? b).map Cell.raw := by
  by_cases hb : b = id
  · rw [hb, h.raw]
  · rw [h.other b hb]

theorem recomputes_set (hc : cells.get? id = some c) (hraw : c'.raw = c.raw) :
    Recomputes id cells (cells.set id c') where
  keys := Table.keys_set_of_mem (Table.mem_keys_of_get? hc) c'
  other b hb := by rw [Table.get?_set, if_neg (Ne.symm hb)]
  raw := by rw [Table.get?_set, if_pos rfl, hc, Option.map_some, Option.map_some, hraw]

theorem update_spec (h : update cyclic moment cells id = .ok cells') :
    Recomputes id cells cells' ∧ ∀ c', cells'.get? id = some c' →
      c'.Current cells (cyclic.contains id = true) := by
  unfold update at h
  split at h
  case h_1 hnone =>
    obtain rfl : cells = cells' := Except.ok.inj h
    refine ⟨⟨rfl, fun _ _ => rfl, rfl⟩, fun c' hc' => ?_⟩
    rw [hnone] at hc'
    cases hc'
  case h_2 c hc =>
    by_cases hcircular : cyclic.contains id = true
    · rw [if_pos hcircular, markCircular, hc] at h
      obtain rfl : cells.set id (c.withError .circular) = cells' := Except.ok.inj h
      refine ⟨recomputes_set hc rfl, ?_⟩
      intro c' hc'
      rw [Table.get?_set, if_pos rfl] at hc'
      obtain rfl : c.withError .circular = c' := Option.some.inj hc'
      exact .circular hcircular rfl rfl
    · rw [if_neg hcircular] at h
      obtain ⟨new, hnew, hset⟩ := Except.bind_eq_ok.1 h
      obtain rfl : cells.set id new = cells' := Except.ok.inj hset
      obtain ⟨hraw, hcurrent⟩ := compute_spec hnew hcircular
      refine ⟨recomputes_set hc hraw, ?_⟩
      intro c' hc'
      rw [Table.get?_set, if_pos rfl] at hc'
      obtain rfl : new = c' := Option.some.inj hc'
      exact hcurrent

/-! ### All steps -/

/-- The names, the raw texts and the cells outside the order stay. -/
theorem foldlM_update_frame (h : order.foldlM (update cyclic moment) cells = .ok cells') :
    cells'.keys = cells.keys ∧ (∀ b, b ∉ order → cells'.get? b = cells.get? b) ∧
      ∀ b, (cells'.get? b).map Cell.raw = (cells.get? b).map Cell.raw := by
  induction order generalizing cells with
  | nil =>
    obtain rfl : cells = cells' := Except.ok.inj h
    exact ⟨rfl, fun _ _ => rfl, fun _ => rfl⟩
  | cons a order ih =>
    rw [List.foldlM_cons] at h
    obtain ⟨middle, hstep, hrest⟩ := Except.bind_eq_ok.1 h
    obtain ⟨hfirst, -⟩ := update_spec hstep
    obtain ⟨hkeys, hother, hraw⟩ := ih hrest
    refine ⟨hkeys.trans hfirst.keys, fun b hb => ?_, fun b => (hraw b).trans (hfirst.map_raw b)⟩
    rw [List.mem_cons, not_or] at hb
    exact (hother b hb.2).trans (hfirst.other b hb.1)

/-- A cell of the order is up to date after all steps, if no cell that it reads is recomputed at the
same time or later; that does not matter for a cell in error for a cycle. -/
theorem foldlM_update_current (h : order.foldlM (update cyclic moment) cells = .ok cells')
    {before after : List CellId} (hsplit : order = before ++ id :: after) (hafter : id ∉ after)
    (hreads : ¬ cyclic.contains id = true → ∀ c, cells.get? id = some c →
      ∀ b ∈ Formula.references c.raw, b ∉ id :: after)
    (hc' : cells'.get? id = some c') : c'.Current cells' (cyclic.contains id = true) := by
  rw [hsplit, List.foldlM_append] at h
  obtain ⟨cells₁, hbefore, h⟩ := Except.bind_eq_ok.1 h
  rw [List.foldlM_cons] at h
  obtain ⟨cells₂, hstep, hrest⟩ := Except.bind_eq_ok.1 h
  -- the step computes the cell from `cells₁`, and nothing touches it afterwards
  obtain ⟨hupdate, hcurrent⟩ := update_spec hstep
  obtain ⟨-, hkept, -⟩ := foldlM_update_frame hrest
  obtain ⟨-, -, hraw⟩ := foldlM_update_frame hbefore
  rw [hkept id hafter] at hc'
  refine (hcurrent c' hc').congr (.refl c') Iff.rfl fun hcircular b hb => rel_alike_of_eq ?_
  -- what the cell reads does not change any more
  have hfirst : (cells.get? id).map Cell.raw = some c'.raw := by
    rw [← hraw id, ← hupdate.raw, hc', Option.map_some]
  obtain ⟨c, hc, hcraw⟩ := Option.map_eq_some_iff.1 hfirst
  have hlater : b ∉ id :: after := hreads hcircular c hc b (by rwa [hcraw])
  rw [List.mem_cons, not_or] at hlater
  rw [hkept b hlater.2, hupdate.other b hlater.1]

/-! ### The result -/

theorem revision?_eq_some {before after : Table Cell} {a : CellId} {old new : Cell} :
    revision? before after id = some (a, old, new) ↔ id = a ∧ before.get? id = some old ∧
      after.get? id = some new ∧ old.settledBy new = false := by
  cases hold : before.get? id with
  | none => simp [revision?, hold]
  | some c =>
    cases hnew : after.get? id with
    | none => simp [revision?, hold, hnew]
    | some d =>
      cases hsettled : c.settledBy d with
      | true =>
        simp only [revision?, hold, hnew, Option.bind_eq_bind, Option.bind_some, hsettled, if_true,
          reduceCtorEq, false_iff, Option.some.injEq]
        rintro ⟨-, rfl, rfl, hfalse⟩
        rw [hsettled] at hfalse
        exact Bool.noConfusion hfalse
      | false =>
        simp only [revision?, hold, hnew, Option.bind_eq_bind, Option.bind_some, hsettled,
          Bool.false_eq_true, if_false, Option.some.injEq, Prod.mk.injEq]
        constructor
        · rintro ⟨rfl, rfl, rfl⟩
          exact ⟨rfl, rfl, rfl, hsettled⟩
        · rintro ⟨rfl, rfl, rfl, -⟩
          exact ⟨rfl, rfl, rfl⟩

/-- Of the cells of the order, those that are new replace the ones before. -/
theorem get?_foldl_revisions (before after : Table Cell) (order : List CellId) (t : Table Cell)
    (id : CellId) :
    ((order.filterMap (revision? before after)).foldl (fun t (id, _, new) => t.set id new) t).get?
        id
      = match if id ∈ order then revision? before after id else none with
        | some (_, _, new) => some new
        | none => t.get? id := by
  induction order generalizing t with
  | nil => simp
  | cons a order ih =>
    cases hrevision : revision? before after a with
    | none =>
      rw [List.filterMap_cons_none hrevision, ih]
      by_cases ha : id = a
      · subst ha
        simp [hrevision]
      · simp [ha]
    | some revision =>
      obtain ⟨a', old, new⟩ := revision
      obtain ⟨rfl, -⟩ := revision?_eq_some.1 hrevision
      rw [List.filterMap_cons_some hrevision, List.foldl_cons, ih]
      by_cases ha : id = a
      · subst ha
        by_cases hmem : id ∈ order <;> simp [hrevision, hmem, Table.get?_set]
      · simp [ha, Table.get?_set, Ne.symm ha]

theorem keys_foldl_revisions {before after : Table Cell} {order : List CellId} {t : Table Cell}
    (ht : t.keys = before.keys) :
    ((order.filterMap (revision? before after)).foldl (fun t (id, _, new) => t.set id new) t).keys
      = before.keys := by
  induction order generalizing t with
  | nil => exact ht
  | cons a order ih =>
    cases hrevision : revision? before after a with
    | none =>
      rw [List.filterMap_cons_none hrevision]
      exact ih ht
    | some revision =>
      obtain ⟨a', old, new⟩ := revision
      obtain ⟨rfl, hold, -⟩ := revision?_eq_some.1 hrevision
      have hmem : a ∈ t.keys := by
        rw [ht]
        exact Table.mem_keys_of_get? hold
      rw [List.filterMap_cons_some hrevision, List.foldl_cons]
      exact ih ((Table.keys_set_of_mem hmem new).trans ht)

theorem get?_eq_none_iff {t u : Table Cell} (h : t.keys = u.keys) :
    t.get? id = none ↔ u.get? id = none := by
  rw [← not_iff_not, ← ne_eq, ← ne_eq, Option.ne_none_iff_isSome, Option.ne_none_iff_isSome,
    ← Table.mem_keys_iff, ← Table.mem_keys_iff, h]

/-- The result has the new cell of each revision. -/
theorem get?_conclude_of_revision {g : Grid} {x : CellId} {old new : Cell} (hid : id ∈ order)
    (h : revision? g.cells cells id = some (id, old, new)) :
    (g.conclude x cyclic order cells).grid.get? id = some new := by
  refine (get?_foldl_revisions g.cells cells order g.cells id).trans ?_
  rw [if_pos hid, h]

/-- A cell is in the result as it was, or it has been revised. -/
theorem get?_conclude (g : Grid) (x : CellId) (cyclic : Std.TreeSet String) (order : List CellId)
    (cells : Table Cell) (id : CellId) :
    (g.conclude x cyclic order cells).grid.get? id = g.get? id ∨
      id ∈ order ∧ ∃ old new, revision? g.cells cells id = some (id, old, new) := by
  by_cases hid : id ∈ order
  · cases hrevision : revision? g.cells cells id with
    | none =>
      left
      refine (get?_foldl_revisions g.cells cells order g.cells id).trans ?_
      rw [if_pos hid, hrevision]
      rfl
    | some revision =>
      obtain ⟨a, old, new⟩ := revision
      obtain ⟨rfl, -⟩ := revision?_eq_some.1 hrevision
      exact .inr ⟨hid, old, new, rfl⟩
  · left
    refine (get?_foldl_revisions g.cells cells order g.cells id).trans ?_
    rw [if_neg hid]
    rfl

/-- The result keeps the cells outside the order, and its cells are alike to the recomputed ones. -/
theorem conclude_spec {g : Grid} {changed : CellId} {r : Recalculation}
    (hr : r = g.conclude changed cyclic order cells) (hkeys : cells.keys = g.cells.keys)
    (hframe : ∀ b, b ∉ order → cells.get? b = g.cells.get? b) :
    r.grid.cells.keys = g.cells.keys ∧
      (∀ b, b ∉ order → r.grid.cells.get? b = g.cells.get? b) ∧ r.grid.cells.Alike cells := by
  subst hr
  have hkept : ∀ b, b ∉ order →
      (g.conclude changed cyclic order cells).grid.cells.get? b = g.cells.get? b := by
    intro b hb
    refine (get?_foldl_revisions g.cells cells order g.cells b).trans ?_
    rw [if_neg hb]
  refine ⟨keys_foldl_revisions rfl, hkept, ?_⟩
  intro b
  by_cases hb : b ∈ order
  · rw [Grid.conclude, get?_foldl_revisions, if_pos hb]
    cases hrevision : revision? g.cells cells b with
    | some revision =>
      obtain ⟨a, old, new⟩ := revision
      obtain ⟨-, -, hnew, -⟩ := revision?_eq_some.1 hrevision
      exact rel_alike_of_eq hnew.symm
    | none =>
      -- nothing new for this cell: the old one is alike to the recomputed one
      cases hold : g.cells.get? b with
      | none => exact rel_alike_of_eq ((get?_eq_none_iff hkeys).2 hold).symm
      | some old =>
        obtain ⟨new, hnew⟩ := Option.ne_none_iff_exists'.1 fun hnone =>
          absurd ((get?_eq_none_iff hkeys).1 hnone) (by rw [hold]; exact Option.some_ne_none old)
        have hsettled : old.settledBy new = true := by
          rw [← Bool.not_eq_false]
          intro hfalse
          have hsome := revision?_eq_some.2 ⟨rfl, hold, hnew, hfalse⟩
          rw [hrevision] at hsome
          cases hsome
        rw [hnew]
        exact .some (Cell.alike_of_settledBy hsettled)
  · exact rel_alike_of_eq ((hkept b hb).trans (hframe b hb).symm)

/-- The cells that are new take the places of cells of the grid. -/
theorem replace_conclude (g : Grid) (changed : CellId) (cyclic : Std.TreeSet String)
    (order : List CellId) (cells : Table Cell) :
    ∃ updates : List (CellId × Cell), (∀ update ∈ updates, update.1 ∈ order) ∧
      g.replace updates = .ok (g.conclude changed cyclic order cells).grid := by
  have hall : ∀ revision ∈ order.filterMap (revision? g.cells cells),
      revision.1 ∈ order ∧ g.cells.contains revision.1 = true := by
    rintro ⟨a, old, new⟩ hrevision
    obtain ⟨b, hb, hsome⟩ := List.mem_filterMap.1 hrevision
    obtain ⟨rfl, hold, -⟩ := revision?_eq_some.1 hsome
    exact ⟨hb, Table.contains_iff_mem_keys.2 (Table.mem_keys_of_get? hold)⟩
  refine ⟨(order.filterMap (revision? g.cells cells)).map fun revision =>
    (revision.1, revision.2.2), fun update hupdate => ?_, ?_⟩
  · obtain ⟨revision, hrevision, rfl⟩ := List.mem_map.1 hupdate
    exact (hall revision hrevision).1
  · rw [Grid.replace, List.find?_eq_none.2, List.foldl_map]
    · rfl
    · intro update hupdate
      obtain ⟨revision, hrevision, rfl⟩ := List.mem_map.1 hupdate
      simp [(hall revision hrevision).2]

/-! ### Recalculation -/

/-- In the order of a recalculation, a cell that reaches no cycle comes after all the cells of the
order that it reads. -/
def Ordered (graph : Graph) (order : List CellId) : Prop :=
  ∀ before a after, order = before ++ a :: after → ¬ graph.ReachesCycle a →
    ∀ b, graph.Reads a b → b ∉ a :: after

/-- Cells in error for a cycle need no computation. -/
theorem foldlM_update_of_cyclic (h : ∀ a ∈ order, cyclic.contains a = true) :
    order.foldlM (update cyclic moment) cells = .ok (order.foldl markCircular cells) := by
  induction order generalizing cells with
  | nil => rfl
  | cons a order ih =>
    have hstep : update cyclic moment cells a = .ok (markCircular cells a) := by
      rw [update, markCircular]
      cases cells.get? a with
      | none => rfl
      | some c => exact if_pos (h a List.mem_cons_self)
    rw [List.foldlM_cons, hstep, List.foldl_cons]
    exact ih fun b hb => h b (List.mem_cons_of_mem a hb)

theorem ordered_evaluationOrder (graph : Graph) (affected : List CellId) :
    Ordered graph (graph.evaluationOrder affected) := by
  intro before a after hsplit hcycle b hab hb
  have hnodup := graph.nodup_evaluationOrder affected
  have hmem : b ∈ affected := by
    rw [← Graph.mem_evaluationOrder (g := graph), hsplit]
    exact List.mem_append_right before hb
  have hback : ¬ graph.Reaches b a :=
    (Graph.grounded_iff_not_reachesCycle.2 hcycle).not_reaches_of_reads hab
  have hbefore : b ∈ before :=
    Graph.mem_before_of_reaches hsplit hab hback Relation.ReflTransGen.refl hmem
  rw [hsplit] at hnodup
  exact (List.nodup_append.1 hnodup).2.2 b hbefore b hb rfl

/-- The cells that a change of `x` affects, in the order in which they are recomputed: as they are
found if `x` reaches a cycle, and otherwise each after those that it reads. -/
def Dependency.Graph.schedule (graph : Graph) (x : CellId) : List CellId :=
  if graph.cyclic.contains x then graph.inverse.affectedBy x
  else graph.evaluationOrder (graph.inverse.affectedBy x)

theorem mem_schedule {graph : Graph} {x a : CellId} : a ∈ graph.schedule x ↔ graph.Reaches a x := by
  unfold Dependency.Graph.schedule
  split
  case isTrue => exact Graph.mem_affectedBy_inverse
  case isFalse => rw [Graph.mem_evaluationOrder, Graph.mem_affectedBy_inverse]

theorem nodup_schedule (graph : Graph) (x : CellId) : (graph.schedule x).Nodup := by
  unfold Dependency.Graph.schedule
  split
  case isTrue => exact Graph.nodup_affectedBy_inverse graph x
  case isFalse => exact Graph.nodup_evaluationOrder graph _

/-- With a cell that reaches a cycle, all that it affects does. -/
theorem cyclic_of_mem_schedule {graph : Graph} {x a : CellId} (hx : graph.cyclic.contains x = true)
    (ha : a ∈ graph.schedule x) : graph.cyclic.contains a = true := by
  rw [← Std.TreeSet.mem_iff_contains] at hx ⊢
  exact Graph.mem_cyclic_of_reaches (mem_schedule.1 ha) hx

theorem ordered_schedule (graph : Graph) (x : CellId) : Ordered graph (graph.schedule x) := by
  by_cases hx : graph.cyclic.contains x = true
  · intro before a after hsplit hnot
    have ha : a ∈ graph.schedule x := by
      rw [hsplit]
      exact List.mem_append_right before List.mem_cons_self
    exact absurd (Graph.contains_cyclic.1 (cyclic_of_mem_schedule hx ha)) hnot
  · rw [Dependency.Graph.schedule, if_neg hx]
    exact ordered_evaluationOrder graph _

/-- A recalculation recomputes the cells that reach the changed one, in an order that fits the
references, and fails exactly if one of these steps does. -/
theorem recalculate_eq {g : Grid} {x : CellId} (moment : Nat) (hx : x ∈ g.cells.keys) :
    g.recalculate moment x
      = g.conclude x g.graph.cyclic (g.graph.schedule x) <$>
        ((g.graph.schedule x).foldlM (update g.graph.cyclic moment) g.cells).mapError .failed := by
  simp only [Grid.recalculate, if_pos (Table.contains_iff_mem_keys.2 hx)]
  by_cases hcircular : g.graph.cyclic.contains x = true
  · -- all affected cells are in error, and the steps mark them as such
    have hall : ∀ a ∈ g.graph.schedule x, g.graph.cyclic.contains a = true :=
      fun a ha => cyclic_of_mem_schedule hcircular ha
    rw [if_pos hcircular, foldlM_update_of_cyclic hall, Dependency.Graph.schedule,
      if_pos hcircular]
    rfl
  · rw [if_neg hcircular, Grid.recomputeInOrder, Dependency.Graph.schedule, if_neg hcircular]
    cases List.foldlM (update g.graph.cyclic moment) g.cells _ <;> rfl

theorem recalculate_of_not_mem {g : Grid} {x : CellId} (hx : x ∉ g.cells.keys) :
    g.recalculate moment x = .error (.notOnGrid x) := by
  rw [Grid.recalculate, if_neg (mt Table.contains_iff_mem_keys.1 hx)]

theorem recalculate_eq_ok {g : Grid} {x : CellId} {r : Recalculation}
    (h : g.recalculate moment x = .ok r) :
    x ∈ g.cells.keys ∧ ∃ cells,
      (g.graph.schedule x).foldlM (update g.graph.cyclic moment) g.cells = .ok cells ∧
      r = g.conclude x g.graph.cyclic (g.graph.schedule x) cells := by
  by_cases hx : x ∈ g.cells.keys
  case neg =>
    rw [recalculate_of_not_mem hx] at h
    cases h
  case pos =>
    rw [recalculate_eq moment hx] at h
    obtain ⟨cells, hfold, hr⟩ := Except.map_eq_ok.1 h
    exact ⟨hx, cells, Except.mapError_eq_ok.1 hfold, hr.symm⟩

/-- The last place of a cell in a list. -/
theorem exists_last {a : CellId} (h : a ∈ order) :
    ∃ before after, order = before ++ a :: after ∧ a ∉ after := by
  obtain ⟨after, before, hsplit, hafter⟩ := List.eq_append_cons_of_mem (List.mem_reverse.2 h)
  refine ⟨before.reverse, after.reverse, ?_, by simpa using hafter⟩
  rw [← List.reverse_reverse order, hsplit]
  simp

theorem map_raw_of_rel {o o' : Option Cell} (h : Option.Rel Cell.Alike o o') :
    o.map Cell.raw = o'.map Cell.raw := by
  cases h with
  | none => rfl
  | some h => exact congrArg some h.raw

theorem mem_keys_of_reaches {g : Grid} {x : CellId} (h : g.graph.Reaches id x)
    (hx : x ∈ g.cells.keys) : id ∈ g.cells.keys := by
  rcases Relation.ReflTransGen.cases_head h with rfl | ⟨b, hread, -⟩
  · exact hx
  · rw [← keys_graph]
    exact Graph.mem_keys_of_reads hread

/-- What a recalculation from the cell `x` makes of a grid: the size, the names, the raw texts and
the cells that do not reach `x` stay, and those that reach it are brought up to date. -/
structure Recalculates (x : CellId) (g g' : Grid) : Prop where
  rows : g'.rows = g.rows
  columns : g'.columns = g.columns
  keys : g'.cells.keys = g.cells.keys
  raw : ∀ id, (g'.get? id).map Cell.raw = (g.get? id).map Cell.raw
  other : ∀ id, ¬ g.graph.Reaches id x → g'.get? id = g.get? id
  current : ∀ id, g.graph.Reaches id x →
    ∃ c, g'.get? id = some c ∧ c.Current g'.cells (id ∈ g.graph.cyclic)

theorem recalculates_of_eq_ok {g : Grid} {x : CellId} {r : Recalculation}
    (h : g.recalculate moment x = .ok r) : Recalculates x g r.grid := by
  obtain ⟨hx, cells, hfold, hr⟩ := recalculate_eq_ok h
  obtain ⟨hkeys, hframe, hraw⟩ := foldlM_update_frame hfold
  obtain ⟨hkeys', hframe', halike⟩ := conclude_spec hr hkeys hframe
  refine ⟨by rw [hr]; rfl, by rw [hr]; rfl, hkeys', fun id => ?_, fun id hid => ?_,
    fun id hid => ?_⟩
  · exact (map_raw_of_rel (halike id)).trans (hraw id)
  · exact hframe' id (mt mem_schedule.1 hid)
  · have hmem : id ∈ r.grid.cells.keys := by
      rw [hkeys']
      exact mem_keys_of_reaches hid hx
    obtain ⟨c, c', hc, hc', hcc'⟩ := Table.Alike.exists_of_mem_keys halike hmem
    obtain ⟨before, after, hsplit, hafter⟩ := exists_last (mem_schedule.2 hid)
    have hcurrent : c'.Current cells (g.graph.cyclic.contains id = true) := by
      refine foldlM_update_current hfold hsplit hafter (fun hcircular d hd b hb => ?_) hc'
      apply ordered_schedule g.graph x before id after hsplit (mt Graph.contains_cyclic.2 hcircular) b
      rwa [Graph.Reads, reads_graph_of_get? hd]
    -- from the recomputed cells to the result, which keeps what is alike to them
    exact ⟨c, hc, hcurrent.congr hcc' Std.TreeSet.mem_iff_contains fun _ b _ => halike b⟩

/-- What a recalculation does, on any grid.  It keeps the size of the grid, its names and its raw
texts, and every cell that does not reach the changed one.  Every cell that reaches it is up to date
in the resulting grid, beside the cells of that grid and with the cycles of the references. -/
theorem recalculate_spec {g : Grid} {x : CellId} {r : Recalculation}
    (h : g.recalculate moment x = .ok r) :
    r.grid.rows = g.rows ∧ r.grid.columns = g.columns ∧ r.grid.cells.keys = g.cells.keys ∧
      (∀ id, (r.grid.get? id).map Cell.raw = (g.get? id).map Cell.raw) ∧
      (∀ id, ¬ g.graph.Reaches id x → r.grid.get? id = g.get? id) ∧
      ∀ id, g.graph.Reaches id x →
        ∃ c, r.grid.get? id = some c ∧ c.Current r.grid.cells (id ∈ g.graph.cyclic) := by
  obtain ⟨hrows, hcolumns, hkeys, hraw, hother, hcurrent⟩ := recalculates_of_eq_ok h
  exact ⟨hrows, hcolumns, hkeys, hraw, hother, hcurrent⟩

/-- A grid of two cells that have not been computed yet; the first one reads the second one. -/
def uncomputedPair : Grid where
  rows := 1
  columns := 2
  cells := Table.ofList [("A1", ⟨"=B1", .text "", none⟩), ("B1", ⟨"2", .text "", none⟩)]

theorem recalculate_spec_uncomputedPair :
    ∃ r, uncomputedPair.recalculate 0 "B1" = .ok r ∧ uncomputedPair.graph.Reaches "A1" "B1" ∧
      ∃ c, r.grid.get? "A1" = some c ∧
        c.Current r.grid.cells ("A1" ∈ uncomputedPair.graph.cyclic) := by
  have hsome : (uncomputedPair.recalculate 0 "B1").toOption.isSome = true := by decide +kernel
  have hreads : "B1" ∈ uncomputedPair.graph.reads "A1" := by decide +kernel
  have hreaches : uncomputedPair.graph.Reaches "A1" "B1" := .single hreads
  cases hr : uncomputedPair.recalculate 0 "B1" with
  | error e =>
    rw [hr] at hsome
    cases hsome
  | ok r => exact ⟨r, rfl, hreaches, (recalculate_spec hr).2.2.2.2.2 "A1" hreaches⟩

end Worksheet
