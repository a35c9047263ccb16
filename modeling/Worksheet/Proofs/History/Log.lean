import Worksheet.Proofs.History.Basic

namespace Worksheet

/-!
# A history is a window on a log

* `History.Move`, `History.run` — what is done in a history, and the history after that;
* `Log` — a log that forgets nothing but what a new entry replaces, with a cursor and a floor under
  the cursor;
* `Log.Shows` — a history shows the entries of a log from the floor on, and one lemma for each move;
* `History.run_window` — a history shows the log of its moves.
-/

variable {σ : Type}

namespace History

variable {h : History σ}

/-! ### Moves -/

/-- Something to do in a history. -/
inductive Move (σ : Type)
  | record (snapshot : σ)
  | undo
  | redo
  deriving DecidableEq, Repr

/-- The history after a move; without a snapshot to go to it stays as it is. -/
def after (h : History σ) : Move σ → History σ
  | .record snapshot => h.record snapshot
  | .undo => h.undo?.getD h
  | .redo => h.redo?.getD h

/-- The history after some moves, one after the other. -/
def run (h : History σ) (moves : List (Move σ)) : History σ := moves.foldl after h

theorem limit_after (h : History σ) (move : Move σ) : (h.after move).limit = h.limit := by
  cases move with
  | record snapshot => rfl
  | undo =>
    rw [after, undo?]
    split <;> rfl
  | redo =>
    rw [after, redo?]
    split <;> rfl

theorem limit_run (h : History σ) (moves : List (Move σ)) : (h.run moves).limit = h.limit := by
  induction moves generalizing h with
  | nil => rfl
  | cons move moves ih => exact (ih (h.after move)).trans (h.limit_after move)

/-- Undo and redo only move the cursor. -/
theorem length_after_le (hlength : h.snapshots.length ≤ h.limit) (move : Move σ) :
    (h.after move).snapshots.length ≤ h.limit := by
  cases move with
  | record snapshot => exact h.length_record_le snapshot
  | undo =>
    rw [after, undo?]
    split <;> exact hlength
  | redo =>
    rw [after, redo?]
    split <;> exact hlength

theorem length_run_le (hlength : h.snapshots.length ≤ h.limit) (moves : List (Move σ)) :
    (h.run moves).snapshots.length ≤ h.limit := by
  induction moves generalizing h with
  | nil => exact hlength
  | cons move moves ih =>
    have hnext : (h.after move).snapshots.length ≤ (h.after move).limit := by
      rw [limit_after]
      exact length_after_le hlength move
    rw [← h.limit_after move]
    exact ih hnext

/-- Once something has been recorded there are never more snapshots than the limit. -/
theorem length_run_le_of_record {moves : List (Move σ)} {snapshot : σ}
    (hmem : .record snapshot ∈ moves) : (h.run moves).snapshots.length ≤ h.limit := by
  obtain ⟨before, after, rfl⟩ := List.append_of_mem hmem
  have hlimit : ((h.run before).record snapshot).limit = h.limit := h.limit_run before
  have hlength : ((h.run before).record snapshot).snapshots.length
      ≤ ((h.run before).record snapshot).limit := length_record_le _ snapshot
  rw [← hlimit, run, List.foldl_append]
  exact length_run_le hlength after

end History

/-! ### The log -/

/-- The entries of a log, the place of the current one, and the first place that the cursor can
still go back to. -/
structure Log (σ : Type) where
  entries : List σ
  cursor : Nat
  floor : Nat
  deriving DecidableEq, Repr

namespace Log

variable {log : Log σ} {h : History σ}

/-- The log with a new entry after the current one, in place of all later ones.  The floor leaves at
most `limit` entries above it. -/
def record (limit : Nat) (log : Log σ) (entry : σ) : Log σ :=
  let entries := log.entries.take (log.cursor + 1) ++ [entry]
  { entries
    cursor := entries.length - 1
    floor := max log.floor (entries.length - limit) }

/-- The log with the cursor one entry back, unless it is on the floor. -/
def undo (log : Log σ) : Log σ :=
  if log.cursor = log.floor then log else { log with cursor := log.cursor - 1 }

/-- The log with the cursor one entry forth, unless it is on the last one. -/
def redo (log : Log σ) : Log σ :=
  if log.cursor = log.entries.length - 1 then log else { log with cursor := log.cursor + 1 }

/-- The log after a move. -/
def after (limit : Nat) (log : Log σ) : History.Move σ → Log σ
  | .record entry => log.record limit entry
  | .undo => log.undo
  | .redo => log.redo

/-- The log after some moves, one after the other. -/
def run (limit : Nat) (log : Log σ) (moves : List (History.Move σ)) : Log σ :=
  moves.foldl (after limit) log

/-! ### The window -/

/-- Whether the history has the entries of the log from the floor on, with the cursor on the same
entry. -/
structure Shows (log : Log σ) (h : History σ) : Prop where
  snapshots : h.snapshots = log.entries.drop log.floor
  cursor : log.floor + h.cursor = log.cursor

theorem Shows.cursor_lt (hshows : log.Shows h) : log.cursor < log.entries.length := by
  have hlt := h.cursor_lt
  rw [hshows.snapshots, List.length_drop] at hlt
  have hcursor := hshows.cursor
  omega

/-- The floor rises by as many entries as the history drops. -/
theorem Shows.record (hshows : log.Shows h) (entry : σ) :
    (log.record h.limit entry).Shows (h.record entry) := by
  have hlt := hshows.cursor_lt
  have hlimit := h.limit_pos
  have hcursor := hshows.cursor
  -- up to its cursor the history has what the log has up to its own
  have hall : h.snapshots.take (h.cursor + 1) ++ [entry]
      = (log.entries.take (log.cursor + 1) ++ [entry]).drop log.floor := by
    have htake : h.snapshots.take (h.cursor + 1)
        = (log.entries.take (log.cursor + 1)).drop log.floor := by
      rw [hshows.snapshots, ← hcursor, Nat.add_assoc, List.take_drop]
    rw [htake, List.drop_append_of_le_length]
    rw [List.length_take]
    omega
  have hlength : (log.entries.take (log.cursor + 1) ++ [entry]).length = log.cursor + 2 := by
    rw [List.length_append, List.length_take, List.length_singleton]
    omega
  constructor
  · show ((h.snapshots.take (h.cursor + 1) ++ [entry]).drop _) = List.drop (max _ _) _
    rw [hall, List.drop_drop, List.length_drop, hlength]
    congr 1
    omega
  · show max log.floor _ + (List.length (List.drop _ _) - 1) = _ - 1
    rw [List.length_drop, hall, List.length_drop, hlength]
    omega

theorem Shows.undo (hshows : log.Shows h) : log.undo.Shows (h.undo?.getD h) := by
  have hcursor := hshows.cursor
  unfold Log.undo History.undo?
  by_cases hfloor : log.cursor = log.floor
  · rw [if_pos hfloor, if_neg (by omega)]
    exact hshows
  · rw [if_neg hfloor, if_pos (by omega)]
    refine ⟨hshows.snapshots, ?_⟩
    show log.floor + (h.cursor - 1) = log.cursor - 1
    omega

theorem Shows.redo (hshows : log.Shows h) : log.redo.Shows (h.redo?.getD h) := by
  have hcursor := hshows.cursor
  have hlt := hshows.cursor_lt
  have hlength : h.snapshots.length = log.entries.length - log.floor := by
    rw [hshows.snapshots, List.length_drop]
  unfold Log.redo History.redo?
  by_cases hlast : log.cursor = log.entries.length - 1
  · rw [if_pos hlast, dif_neg (by omega)]
    exact hshows
  · rw [if_neg hlast, dif_pos (by omega)]
    refine ⟨hshows.snapshots, ?_⟩
    show log.floor + (h.cursor + 1) = log.cursor + 1
    omega

theorem Shows.after (hshows : log.Shows h) (move : History.Move σ) :
    (log.after h.limit move).Shows (h.after move) := by
  cases move with
  | record entry => exact hshows.record entry
  | undo => exact hshows.undo
  | redo => exact hshows.redo

theorem Shows.run (hshows : log.Shows h) (moves : List (History.Move σ)) :
    (log.run h.limit moves).Shows (h.run moves) := by
  induction moves generalizing log h with
  | nil => exact hshows
  | cons move moves ih =>
    have hnext := ih (hshows.after move)
    rwa [h.limit_after move] at hnext

end Log

namespace History

/-- A history, whatever its snapshots, cursor and limit, shows the log of all moves: it has the
entries from the floor on and the cursor on the same entry.  The parts of the history after some
moves are always those of a history; its limit is the given one; and from the first record on it has
no more snapshots than that. -/
theorem run_window {snapshots : List σ} {cursor limit : Int} {h : History σ}
    (hof : of snapshots cursor limit = .ok h) (moves : List (Move σ)) :
    let log := Log.run limit.toNat ⟨snapshots, cursor.toNat, 0⟩ moves
    (h.run moves).snapshots = log.entries.drop log.floor ∧
      ((h.run moves).cursor : Int) = log.cursor - log.floor ∧
      ((h.run moves).limit : Int) = limit ∧
      of (log.entries.drop log.floor) (log.cursor - log.floor) limit = .ok (h.run moves) ∧
      ∀ snapshot, .record snapshot ∈ moves → ((h.run moves).snapshots.length : Int) ≤ limit := by
  obtain ⟨rfl, rfl, rfl⟩ := of_eq_ok_iff.1 hof
  rw [Int.toNat_natCast, Int.toNat_natCast]
  intro log
  have hstart : (⟨h.snapshots, h.cursor, 0⟩ : Log σ).Shows h := ⟨rfl, Nat.zero_add _⟩
  have hshows : log.Shows (h.run moves) := hstart.run moves
  have hcursor : ((h.run moves).cursor : Int) = log.cursor - log.floor := by
    have hsum := hshows.cursor
    omega
  have hlimit : ((h.run moves).limit : Int) = h.limit := congrArg Nat.cast (h.limit_run moves)
  refine ⟨hshows.snapshots, hcursor, hlimit, ?_, fun snapshot hmem => ?_⟩
  · exact of_eq_ok_iff.2 ⟨hshows.snapshots, hcursor, hlimit⟩
  · exact Int.ofNat_le.2 (length_run_le_of_record hmem)

/-- More snapshots than the limit stay until something is recorded; then the oldest go. -/
theorem run_window_overfull :
    ∃ h, of [1, 2, 3, 4] 2 2 = .ok h ∧
      (h.run [.undo, .redo]).snapshots = [1, 2, 3, 4] ∧
      of [3, 5] 0 2 = .ok (h.run [.undo, .redo, .record 5, .undo, .undo]) := by
  have hof : ∃ h, of [1, 2, 3, 4] 2 2 = .ok h := ⟨_, rfl⟩
  obtain ⟨h, hof⟩ := hof
  exact ⟨h, hof, (run_window hof [.undo, .redo]).1,
    (run_window hof [.undo, .redo, .record 5, .undo, .undo]).2.2.2.1⟩

end History

end Worksheet
