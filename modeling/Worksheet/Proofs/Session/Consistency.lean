import Worksheet.Proofs.Recalculation.Locality
import Worksheet.Proofs.Session.Runs

namespace Worksheet

open Dependency (Graph)
open Session (editedGrid)

/-!
# Every grid of a session is up to date

* `Grid.create_eq_ok`, `editedGrid_eq_ok` — where the grids of a session come from;
* `consistent_blank` — blank grids are consistent;
* `Grid.Consistent.edited` — an edit keeps a grid consistent, although it recomputes only the
  readers of the edited cell;
* `Session.Reachable.consistent` — so the grids of every session that can be reached are, and their
  raw texts determine their values and errors.
-/

variable {g g' : Grid} {id : CellId}

/-! ### Blank grids -/

theorem get?_foldl_set {l : List (String × Cell)} {t : Table Cell} {c : Cell}
    (h : (l.foldl (fun t (k, v) => t.set k v) t).get? id = some c) :
    (id, c) ∈ l ∨ t.get? id = some c := by
  induction l generalizing t with
  | nil => exact .inr h
  | cons row l ih =>
    rcases ih h with hmem | hset
    · exact .inl (List.mem_cons_of_mem row hmem)
    · rw [Table.get?_set] at hset
      split at hset
      case isTrue hid =>
        left
        rw [← hid, ← Option.some.inj hset]
        exact List.mem_cons_self
      case isFalse => exact .inr hset

theorem eq_blank_of_get? {rows columns : Nat} {c : Cell}
    (h : (Grid.blank rows columns).get? id = some c) : c = Cell.blank := by
  rcases get?_foldl_set h with hmem | hnone
  · obtain ⟨k, -, hk⟩ := List.mem_map.1 hmem
    exact (congrArg Prod.snd hk).symm
  · rw [Table.get?_empty] at hnone
    cases hnone

/-- A blank cell is up to date anywhere. -/
theorem current_blank (cells : Table Cell) {circular : Prop} (h : ¬ circular) :
    Cell.blank.Current cells circular :=
  .literal (v := .text "") h (by decide) (by decide +kernel) rfl rfl

theorem consistent_blank (rows columns : Nat) : (Grid.blank rows columns).Consistent where
  keys := rfl
  current id c hc := by
    obtain rfl := eq_blank_of_get? hc
    refine current_blank _ (Graph.not_reachesCycle_of_reads_nil ?_)
    rw [reads_graph_of_get? hc]
    decide

/-- What is created is a blank grid of a size within the limits. -/
theorem Grid.create_eq_ok {rows columns : Int} (h : Grid.create rows columns = .ok g) :
    (minRows ≤ rows ∧ rows ≤ maxRows) ∧ (minColumns ≤ columns ∧ columns ≤ maxColumns) ∧
      g = Grid.blank rows.toNat columns.toNat := by
  unfold Grid.create at h
  split at h
  case isTrue => cases h
  case isFalse hrows =>
    split at h
    case isTrue => cases h
    case isFalse hcolumns => exact ⟨by omega, by omega, (Except.ok.inj h).symm⟩

theorem eq_blank_of_create {rows columns : Int} (h : Grid.create rows columns = .ok g) :
    g = Grid.blank rows.toNat columns.toNat := (Grid.create_eq_ok h).2.2

theorem consistent_create {rows columns : Int} (h : Grid.create rows columns = .ok g) :
    g.Consistent := by
  rw [eq_blank_of_create h]
  exact consistent_blank _ _

/-! ### Edits -/

/-- The grid with another raw text in one of its cells, before the recalculation. -/
def Grid.withRaw (g : Grid) (id : CellId) (c : Cell) (raw : String) : Grid :=
  { g with cells := g.cells.set id (c.withRaw raw) }

theorem editedGrid_eq_ok {moment : Nat} {raw : String}
    (h : editedGrid g moment id raw = .ok (some g')) :
    ∃ c r, g.get? id = some c ∧ (g.withRaw id c raw).recalculate moment id = .ok r ∧
      g' = r.grid := by
  unfold editedGrid at h
  split at h
  case h_1 => cases h
  case h_2 c hc =>
    split at h
    case isTrue => cases h
    case isFalse =>
      obtain ⟨r, hr, hg⟩ := Except.bind_eq_ok.1 h
      exact ⟨c, r, hc, Except.mapError_eq_ok.1 hr, (Option.some.inj (Except.ok.inj hg)).symm⟩

theorem get?_withRaw_self (g : Grid) (id : CellId) (c : Cell) (raw : String) :
    (g.withRaw id c raw).get? id = some (c.withRaw raw) := by
  rw [Grid.get?, Grid.withRaw, Table.get?_set, if_pos rfl]

theorem get?_withRaw_of_ne {c : Cell} {raw : String} {a : CellId} (h : a ≠ id) :
    (g.withRaw id c raw).get? a = g.get? a := by
  rw [Grid.get?, Grid.withRaw, Table.get?_set, if_neg (Ne.symm h), Grid.get?]

/-- An edit keeps the size of a grid and the names of its cells. -/
theorem shape_editedGrid {moment : Nat} {raw : String}
    (h : editedGrid g moment id raw = .ok (some g')) :
    g'.rows = g.rows ∧ g'.columns = g.columns ∧ g'.cells.keys = g.cells.keys := by
  obtain ⟨c, r, hc, hr, rfl⟩ := editedGrid_eq_ok h
  have hrecalculated := recalculates_of_eq_ok hr
  have hkeys : (g.withRaw id c raw).cells.keys = g.cells.keys :=
    Table.keys_set_of_mem (Table.mem_keys_of_get? hc) _
  exact ⟨hrecalculated.rows, hrecalculated.columns, hrecalculated.keys.trans hkeys⟩

/-- An edit keeps a grid consistent.  The cells that reach the edited one are recomputed.  The
others see none of it: they do not read any recomputed cell, and whether they reach a cycle does not
depend on what the edited cell refers to. -/
theorem Grid.Consistent.edited (hg : g.Consistent) {moment : Nat} {raw : String}
    (h : editedGrid g moment id raw = .ok (some g')) : g'.Consistent := by
  obtain ⟨hrows, hcolumns, hkeys⟩ := shape_editedGrid h
  obtain ⟨c, r, hc, hr, rfl⟩ := editedGrid_eq_ok h
  obtain ⟨-, -, -, hraw, hkept, hcurrent⟩ := recalculates_of_eq_ok hr
  have hreads : ∀ a, r.grid.graph.reads a = (g.withRaw id c raw).graph.reads a :=
    fun a => reads_graph_congr (hraw a)
  have hother : ∀ a, a ≠ id → (g.withRaw id c raw).graph.reads a = g.graph.reads a :=
    fun a ha => reads_graph_congr (congrArg (Option.map Cell.raw) (get?_withRaw_of_ne ha))
  have hsame : ∀ a, ¬ (g.withRaw id c raw).graph.Reaches a id → r.grid.get? a = g.get? a := by
    intro a ha
    have hne : a ≠ id := fun heq => ha (heq ▸ Relation.ReflTransGen.refl)
    rw [hkept a ha, get?_withRaw_of_ne hne]
  constructor
  · rw [hkeys, hrows, hcolumns]
    exact hg.keys
  · intro a d hd
    by_cases hreach : (g.withRaw id c raw).graph.Reaches a id
    case pos =>
      -- a recomputed cell
      obtain ⟨d', hd', hdcurrent⟩ := hcurrent a hreach
      obtain rfl : d' = d := Option.some.inj (hd'.symm.trans hd)
      refine hdcurrent.congr (.refl _) ?_ fun _ b _ => rel_alike_of_eq rfl
      rw [Graph.mem_cyclic]
      exact Graph.reachesCycle_congr hreads
    case neg =>
      -- a cell as it was before, beside others that may be new
      have hd' : g.get? a = some d := (hsame a hreach).symm.trans hd
      have hne : a ≠ id := fun heq => hreach (heq ▸ Relation.ReflTransGen.refl)
      refine (hg.current a d hd').congr (.refl d) ?_ fun _ b hb => rel_alike_of_eq (hsame b ?_)
      · rw [Graph.reachesCycle_congr hreads]
        exact (Graph.reachesCycle_iff_of_reads_ne (fun b hb => (hother b hb).symm) hreach).symm
      · -- a reader of such a cell would reach the edited one itself
        intro hbreach
        refine hreach (Relation.ReflTransGen.head ?_ hbreach)
        rwa [Graph.Reads, hother a hne, reads_graph_of_get? hd']

/-! ### Sessions -/

namespace Session

variable {s t : Session}

theorem Reachable.grid_consistent (hs : s.Reachable) : ∀ g ∈ s.grids, g.Consistent :=
  hs.forall_grids (fun _ _ _ hcreate => consistent_create hcreate)
    fun _ _ _ _ _ hg hedit => hg.edited hedit

/-- In every session that can be reached, all cells of the shown grid and of the remembered ones are
up to date.  So any two such grids of one size are alike if they have the same raw texts, however
they came about. -/
theorem Reachable.consistent (hs : s.Reachable) (hg : g ∈ s.grids) :
    (∀ id c, g.get? id = some c → c.Current g.cells (g.graph.ReachesCycle id)) ∧
      ∀ (t : Session) (g' : Grid), t.Reachable → g' ∈ t.grids → g'.rows = g.rows →
        g'.columns = g.columns →
        (∀ id c c', g.get? id = some c → g'.get? id = some c' → c'.raw = c.raw) →
        ∀ id, Option.Rel Cell.Alike (g'.get? id) (g.get? id) := by
  have hconsistent := hs.grid_consistent g hg
  refine ⟨hconsistent.current, ?_⟩
  intro t g' ht hg' hrows hcolumns hraw
  exact hconsistent.alike (ht.grid_consistent g' hg') hrows hcolumns hraw

/-- A fresh session on the smallest grid. -/
def small : Session where
  grid := Grid.blank 5 5
  history := ⟨[Grid.blank 5 5], 0, 10, by decide, by decide⟩
  clock := 0

/-- A sum that is written before the cell that it reads. -/
def readerFirst : Session := small.run [.edit "a1" "=b1+1" true, .edit "b1" "2" true]

/-- The same sum written after that cell, which held something else at first. -/
def readerLast : Session :=
  small.run [.edit "b1" "x" true, .edit "a1" "=b1+1" false, .undo, .edit "b1" "2" false,
    .edit "a1" "=b1+1" true]

theorem reachable_small (actions : List Action) : (small.run actions).Reachable :=
  ⟨5, 5, 10, small, actions, rfl, rfl⟩

theorem consistent_readerFirst :
    (∀ id c, readerFirst.grid.get? id = some c →
      c.Current readerFirst.grid.cells (readerFirst.grid.graph.ReachesCycle id)) ∧
      ∀ id, Option.Rel Cell.Alike (readerLast.grid.get? id) (readerFirst.grid.get? id) := by
  have hshown : ∀ s : Session, s.grid ∈ s.grids := fun s => List.mem_cons_self
  have hspec := (reachable_small _ : readerFirst.Reachable).consistent (hshown readerFirst)
  have hall : ∀ id ∈ readerFirst.grid.cells.keys,
      (readerLast.grid.get? id).map Cell.raw = (readerFirst.grid.get? id).map Cell.raw := by
    decide +kernel
  refine ⟨hspec.1, hspec.2 readerLast readerLast.grid (reachable_small _) (hshown readerLast)
    (by decide +kernel) (by decide +kernel) fun id c c' hc hc' => ?_⟩
  have hraw := hall id (Table.mem_keys_iff.2 (Option.isSome_iff_exists.2 ⟨c, hc⟩))
  rw [hc, hc'] at hraw
  exact Option.some.inj hraw

end Session

end Worksheet
