import Worksheet.Proofs.Except
import Worksheet.Proofs.History.Basic
import Worksheet.Session

namespace Worksheet

/-!
# Runs of a session

* `Session.after`, `Session.run` — a session after an action and after any number of them, where an
  action that cannot be done, or changes nothing, leaves it as it is;
* `Session.Step` — what an action makes of a session if it changes it;
* `Session.invariant_run` — what every such step keeps is kept by a run;
* `Session.Reachable` — the sessions that come from a fresh one;
* `Session.grids` — the grid that a session shows, and those that it remembers;
* `Session.Reachable.forall_grids` — what holds of blank grids and is kept by edits holds of all
  grids of all sessions that can be reached.
-/

variable {s t : Session} {g : Grid}

/-! ### Actions -/

namespace Session

/-- The session after an action; one that fails or changes nothing leaves it as it is. -/
def after (s : Session) (action : Action) : Session :=
  match s.perform action with
  | .ok (some t) => t
  | _ => s

/-- The session after some actions, one after the other. -/
def run (s : Session) (actions : List Action) : Session := actions.foldl after s

/-- Whether there is another session after an action. -/
def changes (s : Session) (action : Action) : Bool := s.perform action matches .ok (some _)

/-- What an action makes of a session if it changes it. -/
inductive Step (s : Session) : Action → Session → Prop
  | edit {name raw : String} {grid : Grid} (recorded : Bool)
      (hedited : editedGrid s.grid s.clock (Text.upper name) raw = .ok (some grid)) :
      Step s (.edit name raw recorded)
        ⟨grid, if recorded then s.history.record grid else s.history, s.clock + 1⟩
  | undo {history : History Grid} (hundo : s.history.undo? = some history) :
      Step s .undo (s.showing history)
  | redo {history : History Grid} (hredo : s.history.redo? = some history) :
      Step s .redo (s.showing history)
  | resize {rows columns : Int} {fresh : Session}
      (hsize : ¬ (rows = s.grid.rows ∧ columns = s.grid.columns))
      (hfresh : create rows columns s.history.limit = .ok fresh) :
      Step s (.resize rows columns) { fresh with clock := s.clock }

theorem step_of_perform {action : Action} (h : s.perform action = .ok (some t)) :
    s.Step action t := by
  cases action with
  | edit name raw recorded =>
    obtain ⟨edited, hedited, ht⟩ := Except.bind_eq_ok.1 h
    cases edited with
    | none => cases ht
    | some grid =>
      rw [← Option.some.inj (Except.ok.inj ht)]
      exact .edit recorded hedited
  | undo =>
    obtain ⟨history, hundo, rfl⟩ := Option.map_eq_some_iff.1 (Except.ok.inj h)
    exact .undo hundo
  | redo =>
    obtain ⟨history, hredo, rfl⟩ := Option.map_eq_some_iff.1 (Except.ok.inj h)
    exact .redo hredo
  | resize rows columns =>
    have h : s.resize rows columns = .ok (some t) := h
    unfold resize at h
    split at h
    case isTrue => cases h
    case isFalse hsize =>
      obtain ⟨fresh, hfresh, ht⟩ := Except.bind_eq_ok.1 h
      rw [← Option.some.inj (Except.ok.inj ht)]
      exact .resize hsize hfresh

theorem after_eq_or_step (s : Session) (action : Action) :
    s.changes action = false ∧ s.after action = s ∨
      s.changes action = true ∧ s.Step action (s.after action) := by
  unfold changes after
  split
  case h_1 t ht => exact .inr ⟨rfl, step_of_perform ht⟩
  case h_2 => exact .inl ⟨rfl, rfl⟩

/-- What is kept by every action that changes a session is kept by any number of actions. -/
theorem invariant_run {P : Session → Prop} (hstep : ∀ s action t, Step s action t → P s → P t)
    (hs : P s) (actions : List Action) : P (s.run actions) := by
  induction actions generalizing s with
  | nil => exact hs
  | cons action actions ih =>
    apply ih
    rcases s.after_eq_or_step action with ⟨-, hsame⟩ | ⟨-, hnext⟩
    · rwa [hsame]
    · exact hstep s action _ hnext hs

/-- Whether the session comes from a fresh one of any size and limit by some actions. -/
def Reachable (s : Session) : Prop :=
  ∃ rows columns limit start actions, create rows columns limit = .ok start ∧ start.run actions = s

/-- The grid that is shown, and the recorded ones. -/
def grids (s : Session) : List Grid := s.grid :: s.history.snapshots

theorem mem_grids : g ∈ s.grids ↔ g = s.grid ∨ g ∈ s.history.snapshots := List.mem_cons

/-- A fresh session shows the blank grid that it remembers. -/
theorem create_eq_ok {rows columns limit : Int} (h : create rows columns limit = .ok s) :
    Grid.create rows columns = .ok s.grid ∧ s.history.snapshots = [s.grid] ∧
      (s.history.limit : Int) = limit := by
  obtain ⟨grid, hgrid, hrest⟩ := Except.bind_eq_ok.1 h
  obtain ⟨history, hhistory, hs⟩ := Except.bind_eq_ok.1 hrest
  obtain ⟨hsnapshots, -, hlimit⟩ := History.of_eq_ok_iff.1 (Except.mapError_eq_ok.1 hhistory)
  rw [← Except.ok.inj hs]
  exact ⟨Except.mapError_eq_ok.1 hgrid, hsnapshots, hlimit⟩

theorem grids_create {rows columns limit : Int} (h : create rows columns limit = .ok s)
    (hg : g ∈ s.grids) : Grid.create rows columns = .ok g := by
  obtain ⟨hgrid, hsnapshots, -⟩ := create_eq_ok h
  rw [mem_grids, hsnapshots, List.mem_singleton, or_self] at hg
  rwa [hg]

/-- A session that shows another of its snapshots has no new grid. -/
theorem grids_showing {history : History Grid} (h : history.snapshots = s.history.snapshots)
    (hg : g ∈ (s.showing history).grids) : g ∈ s.grids := by
  have hmem : g ∈ history.snapshots := by
    rcases mem_grids.1 hg with rfl | hg
    · exact history.current_mem
    · exact hg
  rw [h] at hmem
  exact mem_grids.2 (.inr hmem)

/-- The grids after an action are grids from before, the edited grid, or a blank one. -/
theorem Step.grids {action : Action} (h : s.Step action t) (hg : g ∈ t.grids) :
    g ∈ s.grids ∨ (∃ moment id raw, editedGrid s.grid moment id raw = .ok (some g)) ∨
      ∃ rows columns, Grid.create rows columns = .ok g := by
  cases h with
  | edit recorded hedited =>
    rcases mem_grids.1 hg with rfl | hg
    · exact .inr (.inl ⟨_, _, _, hedited⟩)
    · cases recorded with
      | false => exact .inl (mem_grids.2 (.inr hg))
      | true =>
        rcases History.mem_record hg with hold | rfl
        · exact .inl (mem_grids.2 (.inr hold))
        · exact .inr (.inl ⟨_, _, _, hedited⟩)
  | undo hundo =>
    -- what is shown again was a snapshot before
    exact .inl (grids_showing (History.undo?_eq_some_iff.1 hundo).1 hg)
  | redo hredo => exact .inl (grids_showing (History.redo?_eq_some_iff.1 hredo).1 hg)
  | resize hsize hfresh =>
    -- only the clock goes on
    exact .inr (.inr ⟨_, _, grids_create hfresh hg⟩)

/-- What holds of the grids of a session is kept by an action, if it holds of blank grids and is
kept by edits. -/
theorem Step.forall_grids {P : Grid → Prop} {action : Action}
    (hcreate : ∀ rows columns g, Grid.create rows columns = .ok g → P g)
    (hedit : ∀ g moment id raw g', P g → editedGrid g moment id raw = .ok (some g') → P g')
    (hstep : s.Step action t) (h : ∀ g ∈ s.grids, P g) : ∀ g ∈ t.grids, P g := by
  intro g hg
  rcases hstep.grids hg with hold | ⟨moment, id, raw, hedited⟩ | ⟨rows, columns, hblank⟩
  · exact h g hold
  · exact hedit s.grid moment id raw g (h s.grid (mem_grids.2 (.inl rfl))) hedited
  · exact hcreate rows columns g hblank

/-- What holds of blank grids and is kept by edits holds of every grid of every session that can be
reached. -/
theorem Reachable.forall_grids {P : Grid → Prop} (hs : s.Reachable)
    (hcreate : ∀ rows columns g, Grid.create rows columns = .ok g → P g)
    (hedit : ∀ g moment id raw g', P g → editedGrid g moment id raw = .ok (some g') → P g') :
    ∀ g ∈ s.grids, P g := by
  obtain ⟨rows, columns, limit, start, actions, hstart, rfl⟩ := hs
  have hstep : ∀ s action t, Step s action t → (∀ g ∈ s.grids, P g) → ∀ g ∈ t.grids, P g :=
    fun _ _ _ hstep => hstep.forall_grids hcreate hedit
  refine invariant_run hstep (fun g hg => ?_) actions
  exact hcreate rows columns g (grids_create hstart hg)

end Session

end Worksheet
