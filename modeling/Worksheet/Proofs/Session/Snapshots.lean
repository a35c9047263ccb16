import Worksheet.Proofs.Recalculation.Stability
import Worksheet.Proofs.Session.Consistency

namespace Worksheet

/-!
# What a session shows and what it remembers

* `Grid.equals`, `Session.equals` — equality of grids and sessions, where all not-a-numbers are equal;
* `Session.Bounded` — the bounds of what a session remembers, kept by every action;
* `Session.lastChange`, `Session.shown_run` — a session shows its current snapshot unless an edit
  that was not recorded came last;
* `Session.Restores` — what undo and redo, one after the other, make of a session;
* `Session.run_remembers` — all that for the sessions that come from a fresh one.
-/

variable {s t : Session} {g g' : Grid} {action : Action} {limit : Int}

/-! ### Equality -/

/-- Equality of grids by number, where a not-a-number equals any other. -/
def Grid.equals (g h : Grid) : Bool := g.withoutOrigin.agrees h.withoutOrigin

/-- Equality of sessions by number, where a not-a-number equals any other. -/
def Session.equals (s t : Session) : Bool :=
  s.grid.equals t.grid && s.history.agreesBy Grid.equals t.history

theorem Cell.agrees_self (c : Cell) : c.agrees c = true := by simp [Cell.agrees]

theorem Grid.agrees_self (g : Grid) : g.agrees g = true := by
  simp only [Grid.agrees, beq_self_eq_true, Bool.true_and, List.all_eq_true]
  rintro ⟨id, c⟩ hmem
  have hc : g.get? id = some c := Table.mem_toList_iff.1 hmem
  simp only [hc, Option.any_some, Cell.agrees_self]

theorem Grid.equals_self (g : Grid) : g.equals g = true := agrees_self _

theorem History.agreesBy_self {σ : Type} {same : σ → σ → Bool} (hsame : ∀ x, same x x = true)
    (h : History σ) : h.agreesBy same h = true := by
  simp [agreesBy, List.zip_eq_zipWith, hsame]

namespace Session

/-! ### Bounds -/

/-- Whether a session has the given limit, no more snapshots than that, and all of them of the size
of the grid that it shows. -/
structure Bounded (limit : Int) (s : Session) : Prop where
  limit : (s.history.limit : Int) = limit
  length : s.history.snapshots.length ≤ s.history.limit
  size : ∀ g ∈ s.history.snapshots, g.rows = s.grid.rows ∧ g.columns = s.grid.columns

theorem bounded_create {rows columns : Int} (h : create rows columns limit = .ok s) :
    s.Bounded limit := by
  obtain ⟨-, hsnapshots, hlimit⟩ := create_eq_ok h
  refine ⟨hlimit, ?_, ?_⟩
  · rw [hsnapshots]
    exact s.history.limit_pos
  · intro g hg
    rw [hsnapshots, List.mem_singleton] at hg
    rw [hg]
    exact ⟨rfl, rfl⟩

/-- To show another snapshot changes nothing about the bounds. -/
theorem Bounded.showing (hs : s.Bounded limit) {history : History Grid}
    (hsnapshots : history.snapshots = s.history.snapshots)
    (hlimit : history.limit = s.history.limit) : (s.showing history).Bounded limit where
  limit := (congrArg Nat.cast hlimit).trans hs.limit
  length := by
    show history.snapshots.length ≤ history.limit
    rw [hsnapshots, hlimit]
    exact hs.length
  size g hg := by
    have hcurrent := history.current_mem
    have hg : g ∈ history.snapshots := hg
    rw [hsnapshots] at hcurrent hg
    obtain ⟨hrows, hcolumns⟩ := hs.size _ hcurrent
    rw [(hs.size g hg).1, (hs.size g hg).2, ← hrows, ← hcolumns]
    exact ⟨rfl, rfl⟩

theorem Bounded.step (hs : s.Bounded limit) (h : s.Step action t) : t.Bounded limit := by
  cases h with
  | @edit name raw grid recorded hedited =>
    obtain ⟨hrows, hcolumns, -⟩ := shape_editedGrid hedited
    have hold : ∀ g ∈ s.history.snapshots, g.rows = grid.rows ∧ g.columns = grid.columns := by
      rw [hrows, hcolumns]
      exact hs.size
    cases recorded with
    | false => exact ⟨hs.limit, hs.length, hold⟩
    | true =>
      refine ⟨hs.limit, s.history.length_record_le grid, fun g hg => ?_⟩
      rcases History.mem_record hg with hg | rfl
      · exact hold g hg
      · exact ⟨rfl, rfl⟩
  | undo hundo =>
    obtain ⟨hsnapshots, hlimit, -⟩ := History.undo?_eq_some_iff.1 hundo
    exact hs.showing hsnapshots hlimit
  | redo hredo =>
    obtain ⟨hsnapshots, hlimit, -⟩ := History.redo?_eq_some_iff.1 hredo
    exact hs.showing hsnapshots hlimit
  | resize hsize hfresh =>
    -- the fresh session takes over the limit
    rw [hs.limit] at hfresh
    have hbounded := bounded_create hfresh
    exact ⟨hbounded.limit, hbounded.length, hbounded.size⟩

theorem Bounded.run (hs : s.Bounded limit) (actions : List Action) :
    (s.run actions).Bounded limit :=
  invariant_run (fun _ _ _ hstep hbounded => hbounded.step hstep) hs actions

/-! ### The shown grid -/

/-- The last of some actions, done one after the other, that changes the session. -/
def lastChange (s : Session) : List Action → Option Action
  | [] => none
  | action :: actions =>
    ((s.after action).lastChange actions).or (if s.changes action then some action else none)

theorem shown_create {rows columns : Int} (h : create rows columns limit = .ok s) :
    s.grid = s.history.current := by
  have hcurrent := s.history.current_mem
  rw [(create_eq_ok h).2.1, List.mem_singleton] at hcurrent
  exact hcurrent.symm

/-- Every change but that by an edit that is not recorded ends on the current snapshot. -/
theorem Step.shown (h : s.Step action t) (hquiet : ∀ name raw, action ≠ .edit name raw false) :
    t.grid = t.history.current := by
  cases h with
  | @edit name raw grid recorded hedited =>
    cases recorded with
    | false => exact absurd rfl (hquiet name raw)
    | true => exact (s.history.current_record grid).symm
  | undo hundo => rfl
  | redo hredo => rfl
  | resize hsize hfresh =>
    have hshown := shown_create hfresh
    exact hshown

/-- What was shown before matters as long as nothing changes. -/
theorem shown_run {actions : List Action}
    (hquiet : ∀ name raw, s.lastChange actions ≠ some (.edit name raw false))
    (hshown : s.lastChange actions = none → s.grid = s.history.current) :
    (s.run actions).grid = (s.run actions).history.current := by
  induction actions generalizing s with
  | nil => exact hshown rfl
  | cons action actions ih =>
    rw [lastChange] at hquiet hshown
    cases hlast : (s.after action).lastChange actions with
    | some last =>
      rw [hlast] at hquiet
      apply ih
      · rwa [hlast]
      · rw [hlast]
        intro hnone
        cases hnone
    | none =>
      rw [hlast, Option.none_or] at hquiet hshown
      apply ih
      · rw [hlast]
        intro name raw hsome
        cases hsome
      · rintro -
        rcases s.after_eq_or_step action with ⟨hchanges, hsame⟩ | ⟨hchanges, hstep⟩
        · rw [hsame]
          apply hshown
          rw [hchanges]
          rfl
        · rw [hchanges, if_pos rfl] at hquiet
          refine hstep.shown fun name raw heq => hquiet name raw ?_
          rw [heq]

/-! ### There and back -/

/-- Whether the session `t` is `s` back on the current snapshot: it remembers what `s` does, and shows
that snapshot.  So it is `s`, or equals `s`, exactly if the grid that `s` shows is that snapshot, or
equals it. -/
structure Restores (s t : Session) : Prop where
  history : t.history = s.history
  grid : t.grid = s.history.current
  eq_iff : t = s ↔ s.grid = s.history.current
  equals_iff : t.equals s = true ↔ s.history.current.equals s.grid = true
  agrees_iff : t.agrees s = true ↔ s.history.current.agrees s.grid = true

theorem restores_showing (s : Session) : s.Restores (s.showing s.history) where
  history := rfl
  grid := rfl
  eq_iff := by
    constructor
    · intro heq
      exact (congrArg Session.grid heq).symm
    · intro hshown
      rw [showing, ← hshown]
  equals_iff := by
    rw [equals, Bool.and_eq_true]
    exact and_iff_left (History.agreesBy_self Grid.equals_self s.history)
  agrees_iff := by
    rw [agrees, Bool.and_eq_true]
    exact and_iff_left (History.agreesBy_self Grid.agrees_self s.history)

theorem after_undo {history : History Grid} (h : s.history.undo? = some history) :
    s.after .undo = s.showing history := by
  simp only [after, perform, undo?, h, Option.map_some]

theorem after_redo {history : History Grid} (h : s.history.redo? = some history) :
    s.after .redo = s.showing history := by
  simp only [after, perform, redo?, h, Option.map_some]

theorem redo_undo (h : s.history.canUndo = true) :
    (s.after .undo).after .redo = s.showing s.history := by
  obtain ⟨history, hundo⟩ := History.exists_undo? h
  have hback : (s.showing history).history.redo? = some s.history :=
    History.undo?_eq_some_iff_redo?.1 hundo
  rw [after_undo hundo, after_redo hback]
  rfl

theorem undo_redo (h : s.history.canRedo = true) :
    (s.after .redo).after .undo = s.showing s.history := by
  obtain ⟨history, hredo⟩ := History.exists_redo? h
  have hback : (s.showing history).history.undo? = some s.history :=
    History.undo?_eq_some_iff_redo?.2 hredo
  rw [after_redo hredo, after_undo hback]
  rfl

/-- Whatever is done in a session, it remembers at least one snapshot and at most as many as the
limit that it started with, all of the size of the grid that it shows.  It shows the current one
unless the last change was an edit that was not recorded.  Undo and redo, in either order, lead back
to the current snapshot. -/
theorem run_remembers {rows columns : Int} {start : Session}
    (hstart : create rows columns limit = .ok start) (actions : List Action) :
    let s := start.run actions
    (1 ≤ s.history.snapshots.length ∧ (s.history.snapshots.length : Int) ≤ limit) ∧
      (s.history.limit : Int) = limit ∧ s.history.cursor < s.history.snapshots.length ∧
      (∀ g ∈ s.history.snapshots, g.rows = s.grid.rows ∧ g.columns = s.grid.columns) ∧
      ((∀ name raw, start.lastChange actions ≠ some (.edit name raw false)) →
        s.grid = s.history.current) ∧
      (s.history.canUndo = true → s.Restores ((s.after .undo).after .redo)) ∧
      (s.history.canRedo = true → s.Restores ((s.after .redo).after .undo)) := by
  intro s
  have hbounded : s.Bounded limit := (bounded_create hstart).run actions
  have hcursor := s.history.cursor_lt
  refine ⟨⟨by omega, ?_⟩, hbounded.limit, hcursor, hbounded.size, fun hquiet => ?_,
    fun hundo => ?_, fun hredo => ?_⟩
  · rw [← hbounded.limit]
    exact Int.ofNat_le.2 hbounded.length
  · exact shown_run hquiet fun _ => shown_create hstart
  · rw [redo_undo hundo]
    exact s.restores_showing
  · rw [undo_redo hredo]
    exact s.restores_showing

/-- Edits of which the third one is not recorded, and the last one is off the grid. -/
def undoneEdits : List Action :=
  [.edit "a1" "5" true, .edit "a1" "6" true, .edit "a1" "7" false, .undo, .edit "q9" "1" false]

/-- The undo is the last change, and so both round trips lead back to the same session. -/
theorem run_remembers_undoneEdits :
    let s := small.run undoneEdits
    s.grid = s.history.current ∧ (s.after .undo).after .redo = s ∧
      (s.after .redo).after .undo = s := by
  intro s
  have hcreate : create 5 5 10 = .ok small := rfl
  obtain ⟨-, -, -, -, hshown, hundo, hredo⟩ := run_remembers hcreate undoneEdits
  have hlast : small.lastChange undoneEdits = some .undo := by decide +kernel
  have hcurrent : s.grid = s.history.current := by
    apply hshown
    rw [hlast]
    intro name raw heq
    cases heq
  refine ⟨hcurrent, (hundo ?_).eq_iff.2 hcurrent, (hredo ?_).eq_iff.2 hcurrent⟩
  · decide +kernel
  · decide +kernel

/-- After an edit that is not recorded, undo and redo lead back to the grid before it. -/
example :
    let s := small.run [.edit "a1" "5" true, .edit "a1" "7" false]
    ((s.after .undo).after .redo).equals s = false := by decide +kernel

end Session

end Worksheet
