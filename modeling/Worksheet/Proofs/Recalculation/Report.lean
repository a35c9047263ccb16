import Worksheet.Proofs.Recalculation.Result

namespace Worksheet

open Recalculation

/-!
# What a recalculation reports

* `mem_deltas`, `sublist_deltas` — the report has an entry for each revision that shows, in the order
  of recomputation;
* `exists_of_mem_deltas`, `mem_deltas_of_differ` — an entry has what its cell shows before and after,
  and no cell that shows something else lacks one;
* `recalculate_deltas` — so it lists exactly the cells of the whole grid that show something else.
-/

variable {g : Grid} {cells : Table Cell} {cyclic : Std.TreeSet String} {order : List CellId}
  {moment : Nat} {x id : CellId} {c c' old new : Cell} {d : Delta}

/-! ### Entries of the report -/

theorem delta?_eq_some : delta? (id, old, new) = some d ↔
    new.display.agrees old.display = false ∧ d = ⟨id, old.display, new.display, new.raw⟩ := by
  by_cases hagrees : new.display.agrees old.display = true
  · rw [delta?, if_pos hagrees, hagrees]
    simp
  · rw [delta?, if_neg hagrees, Option.some.injEq]
    rw [Bool.not_eq_true] at hagrees
    rw [and_iff_right hagrees]
    exact eq_comm

/-- There is an entry for each revised cell of the order that shows something else. -/
theorem mem_deltas : d ∈ (g.conclude x cyclic order cells).deltas ↔
    ∃ id ∈ order, ∃ old new, revision? g.cells cells id = some (id, old, new) ∧
      new.display.agrees old.display = false ∧
      d = ⟨id, old.display, new.display, new.raw⟩ := by
  simp only [Grid.conclude, List.mem_filterMap]
  constructor
  · rintro ⟨⟨a, old, new⟩, ⟨b, hb, hrevision⟩, hd⟩
    obtain ⟨rfl, -⟩ := revision?_eq_some.1 hrevision
    exact ⟨b, hb, old, new, hrevision, delta?_eq_some.1 hd⟩
  · rintro ⟨id, hid, old, new, hrevision, hd⟩
    exact ⟨(id, old, new), ⟨id, hid, hrevision⟩, delta?_eq_some.2 hd⟩

/-- The entries are in the order of recomputation. -/
theorem sublist_deltas (g : Grid) (x : CellId) (cyclic : Std.TreeSet String) (order : List CellId)
    (cells : Table Cell) :
    ((g.conclude x cyclic order cells).deltas.map Delta.cell).Sublist order := by
  show (((order.filterMap (revision? g.cells cells)).filterMap delta?).map Delta.cell).Sublist order
  induction order with
  | nil => exact .slnil
  | cons a order ih =>
    cases hrevision : revision? g.cells cells a with
    | none =>
      rw [List.filterMap_cons_none hrevision]
      exact ih.cons a
    | some revision =>
      obtain ⟨a', old, new⟩ := revision
      obtain ⟨rfl, -⟩ := revision?_eq_some.1 hrevision
      rw [List.filterMap_cons_some hrevision]
      cases hd : delta? (a, old, new) with
      | none =>
        rw [List.filterMap_cons_none hd]
        exact ih.cons a
      | some d =>
        obtain ⟨-, rfl⟩ := delta?_eq_some.1 hd
        rw [List.filterMap_cons_some hd, List.map_cons]
        exact ih.cons_cons a

/-! ### The whole grid -/

/-- An entry tells what its cell shows in the grid before and in the resulting one. -/
theorem exists_of_mem_deltas
    (hraw : ∀ id, ((g.conclude x cyclic order cells).grid.get? id).map Cell.raw
      = (g.get? id).map Cell.raw)
    (hd : d ∈ (g.conclude x cyclic order cells).deltas) :
    ∃ c c', g.get? d.cell = some c ∧
      (g.conclude x cyclic order cells).grid.get? d.cell = some c' ∧
      d = ⟨d.cell, c.display, c'.display, c.raw⟩ ∧ c'.raw = c.raw ∧
      c'.display.agrees c.display = false := by
  obtain ⟨id, hid, old, new, hrevision, hdiffer, rfl⟩ := mem_deltas.1 hd
  obtain ⟨-, hold, -, -⟩ := revision?_eq_some.1 hrevision
  have hnew : (g.conclude x cyclic order cells).grid.get? id = some new :=
    get?_conclude_of_revision hid hrevision
  have hkept := hraw id
  rw [hnew, show g.get? id = some old from hold] at hkept
  have hkept : new.raw = old.raw := Option.some.inj hkept
  exact ⟨old, new, hold, hnew, by rw [hkept], hkept, hdiffer⟩

/-- A cell that shows something else has an entry.  One that has not been revised shows the same,
unless that is a not-a-number. -/
theorem mem_deltas_of_differ (hc : g.get? id = some c)
    (hc' : (g.conclude x cyclic order cells).grid.get? id = some c')
    (hnan : ¬ (c.display.isNan = true ∧ c'.display.isNan = true))
    (hdiffer : c'.display.agrees c.display = false) :
    id ∈ (g.conclude x cyclic order cells).deltas.map Delta.cell := by
  rcases get?_conclude g x cyclic order cells id with hsame | ⟨hid, old, new, hrevision⟩
  · obtain rfl : c' = c := by
      rw [hc', hc] at hsame
      exact Option.some.inj hsame
    have hself := Value.agrees_self (v := c'.display) (by simpa using hnan)
    rw [hself] at hdiffer
    cases hdiffer
  · obtain ⟨-, hold, -, -⟩ := revision?_eq_some.1 hrevision
    obtain rfl : c = old := Option.some.inj (hc.symm.trans hold)
    obtain rfl : c' = new :=
      Option.some.inj (hc'.symm.trans (get?_conclude_of_revision hid hrevision))
    exact List.mem_map.2 ⟨_, mem_deltas.2 ⟨id, hid, c, c', hrevision, hdiffer, rfl⟩, rfl⟩

/-- What a recalculation reports, on any grid.  The report has at most one entry for a cell, and the
entries are in the order of recomputation.  An entry has what its cell shows in the grid before and
in the resulting one, which is not the same, and its raw text.  A cell anywhere in the grid has an
entry exactly if it shows something else, where a not-a-number before and after does not count.  And
a cell that differs in anything has been recomputed. -/
theorem recalculate_deltas {r : Recalculation} (h : g.recalculate moment x = .ok r) :
    (r.deltas.map Delta.cell).Nodup ∧ (r.deltas.map Delta.cell).Sublist r.order ∧
      (∀ d ∈ r.deltas, ∃ c c', g.get? d.cell = some c ∧ r.grid.get? d.cell = some c' ∧
        d = ⟨d.cell, c.display, c'.display, c.raw⟩ ∧ c'.raw = c.raw ∧
        c'.display.agrees c.display = false) ∧
      (∀ id c c', g.get? id = some c → r.grid.get? id = some c' →
        ¬ (c.display.isNan = true ∧ c'.display.isNan = true) →
        (id ∈ r.deltas.map Delta.cell ↔ c'.display.agrees c.display = false)) ∧
      ∀ id, r.grid.get? id ≠ g.get? id → id ∈ r.order := by
  have hraw := (recalculates_of_eq_ok h).raw
  obtain ⟨-, cells, -, rfl⟩ := recalculate_eq_ok h
  have hsublist := sublist_deltas g x g.graph.cyclic (g.graph.schedule x) cells
  refine ⟨hsublist.nodup (nodup_schedule g.graph x), hsublist,
    fun d hd => exists_of_mem_deltas hraw hd,
    fun id c c' hc hc' hnan => ⟨fun hid => ?_, mem_deltas_of_differ hc hc' hnan⟩, fun id hne => ?_⟩
  · obtain ⟨d, hd, rfl⟩ := List.mem_map.1 hid
    obtain ⟨old, new, hold, hnew, -, -, hdiffer⟩ := exists_of_mem_deltas hraw hd
    obtain rfl : c = old := Option.some.inj (hc.symm.trans hold)
    obtain rfl : c' = new := Option.some.inj (hc'.symm.trans hnew)
    exact hdiffer
  · rcases get?_conclude g x g.graph.cyclic (g.graph.schedule x) cells id with hsame | ⟨hid, -⟩
    · exact absurd hsame hne
    · exact hid

/-- A grid where the text of a number has got a point, and where a cell that reads it has not been
computed yet. -/
def retypedPair : Grid where
  rows := 1
  columns := 2
  cells := Table.ofList [("A1", ⟨"=B1*2", .text "", none⟩), ("B1", ⟨"1.0", .int 1, none⟩)]

theorem recalculate_deltas_retypedPair :
    ∃ r, retypedPair.recalculate 0 "B1" = .ok r ∧ "A1" ∈ r.deltas.map Delta.cell ∧
      "B1" ∈ r.order ∧ "B1" ∉ r.deltas.map Delta.cell := by
  have hcells : (retypedPair.recalculate 0 "B1").toOption.map
        (fun r => (r.grid.get? "A1", r.grid.get? "B1")) =
      some (some ⟨"=B1*2", .number (.float (.ofInt 2)), none⟩,
        some ⟨"1.0", .number (.float (.ofInt 1)), none⟩) := by decide +kernel
  have hreader : retypedPair.get? "A1" = some ⟨"=B1*2", .text "", none⟩ := by decide +kernel
  have hread : retypedPair.get? "B1" = some ⟨"1.0", .int 1, none⟩ := by decide +kernel
  cases hr : retypedPair.recalculate 0 "B1" with
  | error e =>
    rw [hr] at hcells
    cases hcells
  | ok r =>
    rw [hr] at hcells
    obtain ⟨hreader', hread'⟩ := Prod.mk.inj (Option.some.inj hcells)
    obtain ⟨-, -, -, hshown, hdiffer⟩ := recalculate_deltas hr
    refine ⟨r, rfl, (hshown _ _ _ hreader hreader' (by decide)).2 (by decide +kernel),
      hdiffer "B1" ?_, fun h => ?_⟩
    · rw [hread, hread']
      decide +kernel
    · -- the double is the same number as before
      exact absurd ((hshown _ _ _ hread hread' (by decide)).1 h) (by decide +kernel)

end Worksheet
