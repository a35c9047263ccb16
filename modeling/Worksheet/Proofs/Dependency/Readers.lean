import Worksheet.Dependency.Readers
import Worksheet.Proofs.Dependency.Inverse
import Worksheet.Proofs.Dependency.Order

namespace Worksheet.Dependency

open Std (TreeSet)
open Relation (ReflTransGen)

/-!
# The cells affected by a change

* `Spreading` — the state of a search: what has been found reaches the changed cell, the nearer
  cells come first, and the queue holds at most two layers of them;
* `Spreading.take` — taking a cell from the queue keeps this, `Spreading.spread` — so does a whole
  search;
* `Graph.mem_affectedBy_inverse` — a change of a cell affects the cells that reach it;
* `Graph.affectedBy_inverse_sorted` — it lists them once each, by their distance.
-/

variable {g : Graph} {a b : CellId}

/-! ### Discovered cells -/

section Discovery

variable {unseen : TreeSet String} {cells : List CellId}

theorem mem_discover : a ∈ (discover unseen cells).1 ↔ a ∈ cells ∧ a ∈ unseen := by
  induction cells generalizing unseen with
  | nil => simp [discover]
  | cons cell cells ih =>
    rw [discover]
    split
    case isTrue h =>
      rw [List.mem_cons, List.mem_cons, ih, mem_erase]
      by_cases ha : a = cell
      · simp [ha, h]
      · simp [ha]
    case isFalse h =>
      rw [ih, List.mem_cons]
      by_cases ha : a = cell
      · simp [ha, h]
      · simp [ha]

theorem mem_discover_unseen : a ∈ (discover unseen cells).2 ↔ a ∈ unseen ∧ a ∉ cells := by
  induction cells generalizing unseen with
  | nil => simp [discover]
  | cons cell cells ih =>
    rw [discover]
    split
    case isTrue =>
      rw [ih, mem_erase, List.mem_cons, not_or]
      constructor
      · rintro ⟨⟨hne, hin⟩, hout⟩
        exact ⟨hin, hne, hout⟩
      · rintro ⟨hin, hne, hout⟩
        exact ⟨⟨hne, hin⟩, hout⟩
    case isFalse h =>
      rw [ih, List.mem_cons, not_or]
      exact and_congr_right fun hin => ⟨fun hout => ⟨fun heq => h (heq ▸ hin), hout⟩, And.right⟩

theorem nodup_discover : (discover unseen cells).1.Nodup := by
  induction cells generalizing unseen with
  | nil => exact List.nodup_nil
  | cons cell cells ih =>
    rw [discover]
    split
    case isTrue =>
      refine List.nodup_cons.2 ⟨fun hmem => ?_, ih⟩
      exact (mem_erase.1 (mem_discover.1 hmem).2).1 rfl
    case isFalse => exact ih

end Discovery

/-! ### The queue -/

/-- The state of a search for the cells that reach `x`.  The `done` cells have been taken from the
queue, the first one first. -/
structure Spreading (g : Graph) (x : CellId) (unseen : TreeSet String) (done queue : List CellId) :
    Prop where
  not_unseen : ∀ a ∈ done ++ queue, a ∉ unseen
  nodup : (done ++ queue).Nodup
  start : x ∈ done ++ queue
  reaches : ∀ a ∈ done ++ queue, g.Reaches a x
  /-- A cell that is still to be found is unseen. -/
  pending : ∀ a, g.Reaches a x → a ∈ done ++ queue ∨ a ∈ unseen
  /-- The readers of a cell that has been taken have been found. -/
  closed : ∀ b ∈ done, ∀ a, g.Reads a b → a ∈ done ++ queue
  sorted : (done ++ queue).Pairwise fun a b => g.distance a x ≤ g.distance b x
  /-- The cells of the queue lie in two neighbouring layers. -/
  near : ∀ a ∈ queue, ∀ b ∈ queue, g.distance b x ≤ g.distance a x + 1

namespace Spreading

variable {unseen : TreeSet String} {done queue : List CellId} {x u : CellId}
  {readers : CellId → List CellId}

/-- The front of the queue is as near as any cell behind it. -/
theorem front_le (h : Spreading g x unseen done (u :: queue)) (ha : a ∈ u :: queue) :
    g.distance u x ≤ g.distance a x := by
  have hqueue := (List.pairwise_append.1 h.sorted).2.1
  rcases List.mem_cons.1 ha with rfl | ha
  · exact Nat.le_refl _
  · exact (List.pairwise_cons.1 hqueue).1 a ha

/-- The front of the queue is as near as any cell that has not been taken. -/
theorem front_le_of_not_done (h : Spreading g x unseen done (u :: queue)) (ha : g.Reaches a x)
    (hdone : a ∉ done) : g.distance u x ≤ g.distance a x := by
  -- along a shortest way from `a` to `x`, as long as its cells have not been taken either
  induction hn : g.distance a x using Nat.strong_induction_on generalizing a with
  | _ n ih =>
    by_cases hax : a = x
    · subst hax
      exact hn ▸ h.front_le ((List.mem_append.1 h.start).resolve_left hdone)
    · obtain ⟨b, hab, hbx, hdistance⟩ := Graph.exists_reads_of_ne ha hax
      by_cases hb : b ∈ done
      · exact hn ▸ h.front_le ((List.mem_append.1 (h.closed b hb a hab)).resolve_left hdone)
      · have hlt : g.distance b x < n := by omega
        exact Nat.le_trans (ih _ hlt hbx hb rfl) (Nat.le_of_lt hlt)

/-- A new reader of the front of the queue is one step farther. -/
theorem distance_reader (h : Spreading g x unseen done (u :: queue)) (hread : g.Reads a u)
    (ha : a ∈ unseen) : g.distance a x = g.distance u x + 1 := by
  have hu : g.Reaches u x := h.reaches u (List.mem_append_right _ List.mem_cons_self)
  have hle := Graph.distance_le_of_reads hread hu
  have hseen : a ∉ done ++ u :: queue := fun hmem => h.not_unseen a hmem ha
  obtain ⟨b, hab, hbx, hdistance⟩ :=
    Graph.exists_reads_of_ne (ReflTransGen.head hread hu) fun hax => hseen (hax ▸ h.start)
  -- a reader of a cell that has been taken would have been found
  have hge := h.front_le_of_not_done hbx fun hb => hseen (h.closed b hb a hab)
  omega

/-- The front of the queue is taken, and its new readers are put at the end. -/
theorem take (hreaders : ∀ a b, a ∈ readers b ↔ g.Reads a b)
    (h : Spreading g x unseen done (u :: queue)) :
    Spreading g x (discover unseen (readers u)).2 (done ++ [u])
      (queue ++ (discover unseen (readers u)).1) := by
  have hall : done ++ [u] ++ (queue ++ (discover unseen (readers u)).1)
      = (done ++ u :: queue) ++ (discover unseen (readers u)).1 := by simp
  have hu : g.Reaches u x := h.reaches u (List.mem_append_right _ List.mem_cons_self)
  have hfound : ∀ a ∈ (discover unseen (readers u)).1, g.Reads a u ∧ a ∈ unseen := by
    intro a ha
    obtain ⟨hreader, hin⟩ := mem_discover.1 ha
    exact ⟨(hreaders a u).1 hreader, hin⟩
  have hdistance : ∀ a ∈ (discover unseen (readers u)).1,
      g.distance a x = g.distance u x + 1 := fun a ha =>
    h.distance_reader (hfound a ha).1 (hfound a ha).2
  have hfar : ∀ a ∈ done ++ u :: queue, g.distance a x ≤ g.distance u x + 1 := by
    intro a ha
    rcases List.mem_append.1 ha with ha | ha
    · have hle := (List.pairwise_append.1 h.sorted).2.2 a ha u List.mem_cons_self
      exact Nat.le_succ_of_le hle
    · exact h.near u List.mem_cons_self a ha
  constructor
  case not_unseen =>
    rw [hall]
    intro a ha hin
    obtain ⟨hunseen, hout⟩ := mem_discover_unseen.1 hin
    rcases List.mem_append.1 ha with ha | ha
    · exact h.not_unseen a ha hunseen
    · exact hout (mem_discover.1 ha).1
  case nodup =>
    rw [hall]
    refine List.nodup_append.2 ⟨h.nodup, nodup_discover, ?_⟩
    rintro a ha b hb rfl
    exact h.not_unseen a ha (hfound a hb).2
  case start =>
    rw [hall]
    exact List.mem_append_left _ h.start
  case reaches =>
    rw [hall]
    intro a ha
    rcases List.mem_append.1 ha with ha | ha
    · exact h.reaches a ha
    · exact ReflTransGen.head (hfound a ha).1 hu
  case pending =>
    rw [hall]
    intro a ha
    rcases h.pending a ha with hmem | hin
    · exact .inl (List.mem_append_left _ hmem)
    · by_cases hreader : a ∈ readers u
      · exact .inl (List.mem_append_right _ (mem_discover.2 ⟨hreader, hin⟩))
      · exact .inr (mem_discover_unseen.2 ⟨hin, hreader⟩)
  case closed =>
    rw [hall]
    intro b hb a hab
    rcases List.mem_append.1 hb with hb | hb
    · exact List.mem_append_left _ (h.closed b hb a hab)
    · obtain rfl := List.mem_singleton.1 hb
      rcases h.pending a (ReflTransGen.head hab hu) with hmem | hin
      · exact List.mem_append_left _ hmem
      · exact List.mem_append_right _ (mem_discover.2 ⟨(hreaders a b).2 hab, hin⟩)
  case sorted =>
    rw [hall]
    refine List.pairwise_append.2 ⟨h.sorted, ?_, fun a ha b hb => ?_⟩
    · exact List.pairwise_of_forall_mem_list fun a ha b hb =>
        Nat.le_of_eq ((hdistance a ha).trans (hdistance b hb).symm)
    · exact hdistance b hb ▸ hfar a ha
  case near =>
    intro a ha b hb
    have hlow : g.distance u x ≤ g.distance a x := by
      rcases List.mem_append.1 ha with ha | ha
      · exact h.front_le (List.mem_cons_of_mem _ ha)
      · have := hdistance a ha
        omega
    have hhigh : g.distance b x ≤ g.distance u x + 1 := by
      rcases List.mem_append.1 hb with hb | hb
      · exact hfar b (List.mem_append_right _ (List.mem_cons_of_mem _ hb))
      · exact Nat.le_of_eq (hdistance b hb)
    omega

/-- The search ends when everything found has been taken from the queue. -/
theorem spread (hreaders : ∀ a b, a ∈ readers b ↔ g.Reads a b)
    (h : Spreading g x unseen done queue) :
    ∃ rest, Spreading g x rest (done ++ spread readers unseen queue) [] := by
  fun_induction Dependency.spread readers unseen queue generalizing done with
  | case1 unseen =>
    rw [List.append_nil]
    exact ⟨unseen, h⟩
  | case2 unseen u queue found unseen' hfound _ ih =>
    have htake := h.take hreaders
    rw [hfound] at htake
    rw [List.append_cons]
    exact ih htake

/-- With everything taken, all cells that reach `x` have been found. -/
theorem mem_done_iff (h : Spreading g x unseen done []) : a ∈ done ↔ g.Reaches a x := by
  have hreaches := h.reaches
  have hclosed := h.closed
  have hstart := h.start
  rw [List.append_nil] at hreaches hclosed hstart
  refine ⟨hreaches a, fun ha => ?_⟩
  induction ha using ReflTransGen.head_induction_on with
  | refl => exact hstart
  | head hab _ ih => exact hclosed _ ih _ hab

end Spreading

/-! ### The affected cells -/

namespace Graph

/-- At first the changed cell is in the queue, and all its readers are unseen. -/
theorem spreading_start (g : Graph) (x : CellId) :
    Spreading g x ((TreeSet.ofList g.inverse.nodes).erase x) [] [x] where
  not_unseen a ha hin := (mem_erase.1 hin).1 (List.mem_singleton.1 ha)
  nodup := List.nodup_singleton x
  start := List.mem_singleton.2 rfl
  reaches a ha := by
    rw [List.mem_singleton.1 ha]
    exact ReflTransGen.refl
  pending a ha := by
    by_cases hax : a = x
    · exact .inl (List.mem_singleton.2 hax)
    · obtain ⟨b, hab, -⟩ := Graph.exists_reads_of_ne ha hax
      refine .inr (mem_erase.2 ⟨hax, ?_⟩)
      rw [mem_ofList_iff]
      exact mem_nodes_of_reads (reads_inverse_iff.2 hab)
  closed b hb := absurd hb List.not_mem_nil
  sorted := List.pairwise_singleton _ x
  near a ha b hb := by
    rw [List.mem_singleton.1 ha, List.mem_singleton.1 hb]
    exact Nat.le_succ _

variable (g) in
/-- The search through the inverse graph ends with the affected cells. -/
theorem spreading_affectedBy (x : CellId) :
    ∃ rest, Spreading g x rest (g.inverse.affectedBy x) [] :=
  (spreading_start g x).spread fun _ _ => reads_inverse_iff

/-- A change of a cell affects the cells that reach it. -/
theorem mem_affectedBy_inverse : a ∈ g.inverse.affectedBy b ↔ g.Reaches a b := by
  obtain ⟨rest, h⟩ := spreading_affectedBy g b
  exact h.mem_done_iff

theorem nodup_affectedBy_inverse (g : Graph) (x : CellId) : (g.inverse.affectedBy x).Nodup := by
  obtain ⟨rest, h⟩ := spreading_affectedBy g x
  have hnodup := h.nodup
  rwa [List.append_nil] at hnodup

/-- A change of a cell affects that cell and all that read it directly or indirectly, and no others.
Each is listed once, the changed cell first, and the nearer ones before the farther ones. -/
theorem affectedBy_inverse_sorted (g : Graph) (x : CellId) :
    (g.inverse.affectedBy x).Nodup ∧ (∀ a, a ∈ g.inverse.affectedBy x ↔ g.Reaches a x) ∧
      (g.inverse.affectedBy x).head? = some x ∧
      (g.inverse.affectedBy x).Pairwise fun a b => g.distance a x ≤ g.distance b x := by
  refine ⟨nodup_affectedBy_inverse g x, fun a => mem_affectedBy_inverse, ?_, ?_⟩
  · rw [affectedBy, spread, List.head?_cons]
  · obtain ⟨rest, h⟩ := spreading_affectedBy g x
    have hsorted := h.sorted
    rwa [List.append_nil] at hsorted

end Graph

end Worksheet.Dependency
