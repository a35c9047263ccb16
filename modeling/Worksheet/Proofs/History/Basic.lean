import Worksheet.History

namespace Worksheet

/-!
# Histories

* `History.of_eq_ok_iff` — which histories there are;
* `History.mem_record` — a record adds nothing but the new snapshot;
* `History.undo?_eq_some_iff`, `redo?_eq_some_iff` — undo and redo only move the cursor;
* `History.undo?_eq_some_iff_redo?` — each of the two takes the other back.
-/

namespace History

variable {σ : Type} {h k : History σ} {x y : σ}

/-! ### Construction -/

theorem ext (hsnapshots : h.snapshots = k.snapshots) (hcursor : h.cursor = k.cursor)
    (hlimit : h.limit = k.limit) : h = k := by
  obtain ⟨snapshots, cursor, limit, _, _⟩ := h
  obtain ⟨snapshots', cursor', limit', _, _⟩ := k
  obtain rfl : snapshots = snapshots' := hsnapshots
  obtain rfl : cursor = cursor' := hcursor
  obtain rfl : limit = limit' := hlimit
  rfl

/-- There is a history of given snapshots, with a given cursor and limit, exactly if some history
has them, and it is that one. -/
theorem of_eq_ok_iff {snapshots : List σ} {cursor limit : Int} :
    of snapshots cursor limit = .ok h ↔
      h.snapshots = snapshots ∧ (h.cursor : Int) = cursor ∧ (h.limit : Int) = limit := by
  constructor
  · intro hof
    unfold of at hof
    split at hof
    case isTrue => cases hof
    case isFalse =>
      split at hof
      case isTrue => cases hof
      case isFalse hlimit =>
        split at hof
        case isTrue hcursor =>
          rw [← Except.ok.inj hof]
          exact ⟨rfl, Int.toNat_of_nonneg hcursor.1, Int.toNat_of_nonneg (by omega)⟩
        case isFalse => cases hof
  · rintro ⟨rfl, rfl, rfl⟩
    have hcursor := h.cursor_lt
    have hlimit := h.limit_pos
    have hne : h.snapshots ≠ [] := List.ne_nil_of_length_pos (by omega)
    rw [of, if_neg hne, dif_neg (by omega), dif_pos (by omega)]
    exact congrArg Except.ok (ext rfl (Int.toNat_natCast _) (Int.toNat_natCast _))

theorem current_mem (h : History σ) : h.current ∈ h.snapshots := List.get_mem h.snapshots _

/-! ### Operations -/

/-- A record adds nothing but the new snapshot. -/
theorem mem_record (hy : y ∈ (h.record x).snapshots) : y ∈ h.snapshots ∨ y = x := by
  have hall : y ∈ h.snapshots.take (h.cursor + 1) ++ [x] := List.mem_of_mem_drop hy
  rcases List.mem_append.1 hall with hold | hnew
  · exact .inl (List.mem_of_mem_take hold)
  · exact .inr (List.mem_singleton.1 hnew)

theorem undo?_eq_some_iff : h.undo? = some k ↔
    k.snapshots = h.snapshots ∧ k.limit = h.limit ∧ h.cursor = k.cursor + 1 := by
  unfold undo?
  constructor
  · intro hundo
    split at hundo
    case isTrue hpos =>
      rw [← Option.some.inj hundo]
      exact ⟨rfl, rfl, (Nat.sub_add_cancel hpos).symm⟩
    case isFalse => cases hundo
  · rintro ⟨hsnapshots, hlimit, hcursor⟩
    have hlower : h.cursor - 1 = k.cursor := by omega
    rw [if_pos (by omega)]
    exact congrArg some (ext hsnapshots.symm hlower hlimit.symm)

theorem redo?_eq_some_iff : h.redo? = some k ↔
    k.snapshots = h.snapshots ∧ k.limit = h.limit ∧ k.cursor = h.cursor + 1 := by
  unfold redo?
  constructor
  · intro hredo
    split at hredo
    case isTrue =>
      rw [← Option.some.inj hredo]
      exact ⟨rfl, rfl, rfl⟩
    case isFalse => cases hredo
  · rintro ⟨hsnapshots, hlimit, hcursor⟩
    have hlt := k.cursor_lt
    rw [hsnapshots, hcursor] at hlt
    rw [dif_pos hlt]
    exact congrArg some (ext hsnapshots.symm hcursor.symm hlimit.symm)

/-- What is undone can be redone, and gives the history before; and the other way round. -/
theorem undo?_eq_some_iff_redo? : h.undo? = some k ↔ k.redo? = some h := by
  rw [undo?_eq_some_iff, redo?_eq_some_iff]
  constructor
  · rintro ⟨hsnapshots, hlimit, hcursor⟩
    exact ⟨hsnapshots.symm, hlimit.symm, hcursor⟩
  · rintro ⟨hsnapshots, hlimit, hcursor⟩
    exact ⟨hsnapshots.symm, hlimit.symm, hcursor⟩

theorem exists_undo? (hcan : h.canUndo = true) : ∃ k, h.undo? = some k := by
  have hpos : 0 < h.cursor := of_decide_eq_true hcan
  exact ⟨_, if_pos hpos⟩

theorem exists_redo? (hcan : h.canRedo = true) : ∃ k, h.redo? = some k := by
  have hlt : h.cursor + 1 < h.snapshots.length := of_decide_eq_true hcan
  exact ⟨_, dif_pos hlt⟩

end History

end Worksheet
