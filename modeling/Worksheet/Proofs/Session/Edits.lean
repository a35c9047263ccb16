import Worksheet.Proofs.History.Log
import Worksheet.Proofs.Recalculation.Legible
import Worksheet.Proofs.Session.Consistency

namespace Worksheet

open Dependency (Graph)
open Formula (Writable)
open Session (editedGrid)

/-!
# What an edit can fail at

* `Session.Reachable.legible` — any formula can refer to any cell of a session;
* `editedGrid_of_none`, `exists_editedGrid`, `editedGrid_of_unreadable` — the outcomes of an edit;
* `Session.EditChecks` — what is looked up and checked on the way of an edit;
* `Session.Reachable.edit_eq_error_iff` — an edit fails for a cell outside the grid and for a text
  that cannot be read, and for nothing else.
-/

variable {g g' : Grid} {id : CellId} {c : Cell} {raw : String} {moment : Nat}

/-! ### Legible grids -/

theorem legible_blank (rows columns : Nat) : (Grid.blank rows columns).cells.Legible := by
  intro id c hc
  obtain rfl := eq_blank_of_get? hc
  exact ⟨⟨none, by decide +kernel⟩, fun code hcode => by cases hcode⟩

theorem legible_withRaw (hg : g.cells.Legible) (hc : g.get? id = some c) (raw : String) :
    (g.withRaw id c raw).cells.Legible :=
  hg.set ((hg id c hc).withRaw raw) id

theorem legible_editedGrid (hg : g.cells.Legible) (h : editedGrid g moment id raw = .ok (some g')) :
    g'.cells.Legible := by
  obtain ⟨c, r, hc, hr, rfl⟩ := editedGrid_eq_ok h
  exact legible_recalculate (legible_withRaw hg hc raw) hr

theorem Session.Reachable.legible {s : Session} (hs : s.Reachable) :
    ∀ g ∈ s.grids, g.cells.Legible :=
  hs.forall_grids (fun _ _ _ hcreate => eq_blank_of_create hcreate ▸ legible_blank _ _)
    fun _ _ _ _ _ hg hedit => legible_editedGrid hg hedit

/-! ### One edit -/

/-- What stands in a cell of a consistent grid could be written into it. -/
theorem Grid.Consistent.writable (hg : g.Consistent) (hc : g.get? id = some c) : Writable c.raw := by
  cases hformula : c.isFormula with
  | true => exact .inl hformula
  | false =>
    have hnot : ¬ g.graph.ReachesCycle id := not_reachesCycle_of_literal hc hformula
    rcases hg.current id c hc with ⟨hcycle, -⟩ | ⟨-, -, hv, -⟩ | ⟨-, htrue, -⟩ | ⟨-, htrue, -⟩
    · exact absurd hcycle hnot
    · exact .inr ⟨_, hv⟩
    · rw [hformula] at htrue
      cases htrue
    · rw [hformula] at htrue
      cases htrue

theorem editedGrid_of_none (h : g.get? id = none) :
    editedGrid g moment id raw = .error (.outside ⟨id, g.rows, g.columns⟩) := by
  simp only [editedGrid, h]

theorem editedGrid_of_ne (hc : g.get? id = some c) (hne : c.raw ≠ raw) :
    editedGrid g moment id raw
      = (fun r => some r.grid) <$>
        ((g.withRaw id c raw).recalculate moment id).mapError .recalculation := by
  rw [map_eq_pure_bind]
  simp only [editedGrid, hc, if_neg hne]
  rfl

/-- Any formula can be written into any cell of a grid, and any text with a value. -/
theorem exists_editedGrid (hg : g.Consistent) (hlegible : g.cells.Legible)
    (hc : g.get? id = some c) (hraw : Writable raw) (moment : Nat) :
    ∃ edited, editedGrid g moment id raw = .ok edited := by
  by_cases hsame : c.raw = raw
  · exact ⟨none, by simp only [editedGrid, hc, if_pos hsame]; rfl⟩
  · have hself := get?_withRaw_self g id c raw
    have hall : ∀ a d, (g.withRaw id c raw).get? a = some d → Writable d.raw := by
      intro a d hd
      by_cases ha : a = id
      · rw [ha, hself] at hd
        rwa [← Option.some.inj hd]
      · rw [get?_withRaw_of_ne ha] at hd
        exact hg.writable hd
    obtain ⟨r, hr⟩ := exists_recalculate (legible_withRaw hlegible hc raw)
      (Table.mem_keys_of_get? hself) hall moment
    rw [editedGrid_of_ne hc hsame, hr]
    exact ⟨some r.grid, rfl⟩

theorem editedGrid_of_unreadable {u : Number.Unreadable} (hg : g.Consistent)
    (hlegible : g.cells.Legible) (hc : g.get? id = some c)
    (hformula : Formula.isFormula raw = false) (hu : Value.ofText raw = .error u) :
    editedGrid g moment id raw = .error (.recalculation (.failed (.unreadable u))) := by
  -- such a text is in no cell yet
  have hne : c.raw ≠ raw := by
    rintro rfl
    exact Formula.not_writable hformula hu (hg.writable hc)
  have hfail := recalculate_of_unreadable (legible_withRaw hlegible hc raw)
    (get?_withRaw_self g id c raw) hformula hu
    (fun a d ha hd => hg.writable ((get?_withRaw_of_ne ha).symm.trans hd)) moment
  rw [editedGrid_of_ne hc hne, hfail]
  rfl

namespace Session

variable {s : Session} {name : String} {recorded : Bool}

theorem edit_of_error {e : Error}
    (h : editedGrid s.grid s.clock (Text.upper name) raw = .error e) :
    s.edit name raw recorded = .error e := by
  rw [edit, h]
  rfl

theorem exists_edit {edited : Option Grid}
    (h : editedGrid s.grid s.clock (Text.upper name) raw = .ok edited) :
    ∃ t, s.edit name raw recorded = .ok t := by
  rw [edit, h]
  cases edited with
  | none => exact ⟨none, rfl⟩
  | some grid => exact ⟨some _, rfl⟩

/-! ### Checks on the way -/

/-- What an edit of the cell `id` looks up and checks on its way: the cell is on the grid when it
gets its new text, all cells that are recomputed are there, the new ones take the places of cells of
the grid, and the history with the new grid is one. -/
structure EditChecks (s : Session) (id : CellId) (c : Cell) (raw : String) : Prop where
  edited : s.grid.replace [(id, c.withRaw raw)] = .ok (s.grid.withRaw id c raw)
  found : ∀ a ∈ (s.grid.withRaw id c raw).graph.inverse.affectedBy id,
    ((s.grid.withRaw id c raw).get? a).isSome = true
  replaced : ∀ r, (s.grid.withRaw id c raw).recalculate s.clock id = .ok r →
    ∃ updates, (∀ update ∈ updates, update.1 ∈ r.order) ∧
      (s.grid.withRaw id c raw).replace updates = .ok r.grid
  recorded : ∀ grid, History.of (s.history.record grid).snapshots (s.history.record grid).cursor
    s.history.limit = .ok (s.history.record grid)

theorem editChecks (hc : s.grid.get? id = some c) (raw : String) : s.EditChecks id c raw where
  edited := by
    have hcontains : s.grid.cells.contains id = true :=
      Table.contains_iff_mem_keys.2 (Table.mem_keys_of_get? hc)
    rw [Grid.replace, List.find?_eq_none.2 (by simp [hcontains])]
    rfl
  found a ha := by
    have hkeys := Table.mem_keys_of_get? (get?_withRaw_self s.grid id c raw)
    exact Table.mem_keys_iff.1 (mem_keys_of_reaches (Graph.mem_affectedBy_inverse.1 ha) hkeys)
  replaced r hr := by
    obtain ⟨-, cells, -, rfl⟩ := recalculate_eq_ok hr
    exact replace_conclude _ _ _ _ _
  recorded grid := History.of_eq_ok_iff.2 ⟨rfl, rfl, rfl⟩

/-- In every session that can be reached an edit fails exactly in two cases: the cell is not on the
grid, or its new text is no formula and cannot be read.  Otherwise there is a session after it: every
formula can be written into every cell, and no other cell fails when it is recomputed.  The checks
on the way of an edit never fail. -/
theorem Reachable.edit_eq_error_iff (hs : s.Reachable) (name raw : String) (recorded : Bool) :
    (∀ e, s.edit name raw recorded = .error e ↔
      (s.grid.get? (Text.upper name) = none ∧
          e = .outside ⟨Text.upper name, s.grid.rows, s.grid.columns⟩) ∨
        (s.grid.get? (Text.upper name)).isSome = true ∧ Formula.isFormula raw = false ∧
          ∃ u, Value.ofText raw = .error u ∧ e = .recalculation (.failed (.unreadable u))) ∧
      ((∃ t, s.edit name raw recorded = .ok t) ↔
        (s.grid.get? (Text.upper name)).isSome = true ∧ Writable raw) ∧
      ∀ c, s.grid.get? (Text.upper name) = some c → s.EditChecks (Text.upper name) c raw := by
  have hshown : s.grid ∈ s.grids := mem_grids.2 (.inl rfl)
  have hgrid := hs.grid_consistent s.grid hshown
  have hlegible := hs.legible s.grid hshown
  cases hc : s.grid.get? (Text.upper name) with
  | none =>
    have hedit : s.edit name raw recorded = _ := edit_of_error (editedGrid_of_none hc)
    rw [hedit]
    refine ⟨fun e => ⟨?_, ?_⟩, by simp, by simp⟩
    · intro h
      exact .inl ⟨rfl, (Except.error.inj h).symm⟩
    · rintro (⟨-, rfl⟩ | ⟨hsome, -⟩)
      · rfl
      · cases hsome
  | some c =>
    have hchecks : ∀ d, some c = some d → s.EditChecks (Text.upper name) d raw := by
      rintro _ ⟨⟩
      exact editChecks hc raw
    rcases Formula.writable_or raw with hraw | ⟨hformula, u, hu⟩
    · -- the text can be written, and so there is no error
      obtain ⟨edited, hedited⟩ := exists_editedGrid hgrid hlegible hc hraw s.clock
      obtain ⟨t, ht⟩ : ∃ t, s.edit name raw recorded = .ok t := exists_edit hedited
      rw [ht]
      refine ⟨fun e => ⟨?_, ?_⟩, by simp [hraw], hchecks⟩
      · intro h
        cases h
      · rintro (⟨hnone, -⟩ | ⟨-, hformula, u, hu, -⟩)
        · cases hnone
        · exact absurd hraw (Formula.not_writable hformula hu)
    · have hedit : s.edit name raw recorded = _ :=
        edit_of_error (editedGrid_of_unreadable hgrid hlegible hc hformula hu)
      rw [hedit]
      refine ⟨fun e => ⟨?_, ?_⟩, by simp [Formula.not_writable hformula hu], hchecks⟩
      · intro h
        exact .inr ⟨rfl, hformula, u, hu, (Except.error.inj h).symm⟩
      · rintro (⟨hnone, -⟩ | ⟨-, -, u', hu', rfl⟩)
        · cases hnone
        · rw [hu] at hu'
          rw [Except.error.inj hu']

/-- An information separator before its digits keeps a text out of a cell, and a reference back to
the cell itself does not. -/
theorem edit_eq_error_iff_readerFirst :
    readerFirst.edit "b1" "\x1c5" true
        = .error (.recalculation (.failed (.unreadable ⟨"\x1c5"⟩))) ∧
      ∃ t, readerFirst.edit "b1" "=1/a1" false = .ok t := by
  have hreachable : readerFirst.Reachable := reachable_small _
  have hcell : (readerFirst.grid.get? (Text.upper "b1")).isSome = true := by decide +kernel
  constructor
  · refine ((hreachable.edit_eq_error_iff "b1" "\x1c5" true).1 _).2 (.inr ⟨hcell, ?_, _, ?_, rfl⟩)
    · decide +kernel
    · decide +kernel
  · refine (hreachable.edit_eq_error_iff "b1" "=1/a1" false).2.1.2 ⟨hcell, .inl ?_⟩
    decide +kernel

end Session

end Worksheet
