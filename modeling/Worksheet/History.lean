namespace Worksheet

/-!
# History

* `History σ` — snapshots of type `σ`, oldest first, with a cursor on the current one;
* `History.of`, `History.start` — a history of given snapshots, if they make one;
* `History.record` — a new snapshot after the current one;
* `History.undo?`, `History.redo?` — one step back or forth, if there is one.

A history keeps at most `limit` snapshots of those recorded; the oldest give way.
-/

/-- Snapshots with a cursor on one of them. -/
structure History (σ : Type) where
  snapshots : List σ
  cursor : Nat
  limit : Nat
  cursor_lt : cursor < snapshots.length
  limit_pos : 0 < limit

namespace History

variable {σ : Type}

/-- The number of snapshots that a history of no given limit keeps. -/
def defaultLimit : Nat := 50

/-- Why there is no history. -/
inductive Error
  | noSnapshot
  | limitBelowOne (limit : Int)
  | cursorOutside (cursor : Int) (count : Nat)
  deriving DecidableEq, Repr

/-- The message that there is no such history. -/
def Error.message : Error → String
  | .noSnapshot => "History needs at least one snapshot"
  | .limitBelowOne limit => s!"History limit must be >= 1, got {limit}"
  | .cursorOutside cursor count => s!"Cursor {cursor} out of range for {count} snapshots"

/-- The history of the given snapshots, with the cursor on one of them. -/
def of (snapshots : List σ) (cursor limit : Int) : Except Error (History σ) :=
  if snapshots = [] then .error .noSnapshot
  else if hlimit : limit < 1 then .error (.limitBelowOne limit)
  else if hcursor : 0 ≤ cursor ∧ cursor < snapshots.length then
    .ok { snapshots
          cursor := cursor.toNat
          limit := limit.toNat
          cursor_lt := by omega
          limit_pos := by omega }
  else .error (.cursorOutside cursor snapshots.length)

/-- The history of one snapshot. -/
def start (snapshot : σ) (limit : Int) : Except Error (History σ) := of [snapshot] 0 limit

/-- The snapshot under the cursor. -/
def current (h : History σ) : σ := h.snapshots.get ⟨h.cursor, h.cursor_lt⟩

/-- Whether there is an earlier snapshot. -/
def canUndo (h : History σ) : Bool := 0 < h.cursor

/-- Whether there is a later snapshot. -/
def canRedo (h : History σ) : Bool := h.cursor + 1 < h.snapshots.length

/-- The history with a new snapshot after the current one, in place of all later ones.  Of too many
snapshots the oldest are dropped. -/
def record (h : History σ) (snapshot : σ) : History σ :=
  let all := h.snapshots.take (h.cursor + 1) ++ [snapshot]
  let kept := all.drop (all.length - h.limit)
  { snapshots := kept
    cursor := kept.length - 1
    limit := h.limit
    cursor_lt := by
      have := h.limit_pos
      have hall : 0 < all.length := by simp [all]
      have hkept : kept.length = all.length - (all.length - h.limit) := List.length_drop
      omega
    limit_pos := h.limit_pos }

theorem current_record (h : History σ) (snapshot : σ) : (h.record snapshot).current = snapshot := by
  have hlimit := h.limit_pos
  have hcursor := h.cursor_lt
  simp only [current, record, List.get_eq_getElem, List.getElem_drop, List.length_drop]
  rw [List.getElem_append_right]
  · simp
  · simp only [List.length_append, List.length_take, List.length_singleton]
    omega

theorem length_record_le (h : History σ) (snapshot : σ) :
    (h.record snapshot).snapshots.length ≤ h.limit := by
  simp only [record, List.length_drop]
  omega

/-- The history with the cursor one snapshot back, unless it is on the first. -/
def undo? (h : History σ) : Option (History σ) :=
  if 0 < h.cursor then
    some { h with cursor := h.cursor - 1, cursor_lt := by have := h.cursor_lt; omega }
  else none

/-- The history with the cursor one snapshot forth, unless it is on the last. -/
def redo? (h : History σ) : Option (History σ) :=
  if hlt : h.cursor + 1 < h.snapshots.length then
    some { h with cursor := h.cursor + 1, cursor_lt := hlt }
  else none

/-- Whether two histories have the cursor on the same place of the same snapshots; the limit does
not matter. -/
def agreesBy (same : σ → σ → Bool) (h k : History σ) : Bool :=
  h.cursor == k.cursor && h.snapshots.length == k.snapshots.length &&
    (h.snapshots.zip k.snapshots).all fun (a, b) => same a b

end History

end Worksheet
