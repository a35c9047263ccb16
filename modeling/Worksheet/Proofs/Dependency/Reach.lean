import Mathlib.Data.Fintype.Card
import Mathlib.Data.Set.Finite.Basic
import Mathlib.Logic.Relation
import Mathlib.Order.Lattice.Nat
import Worksheet.Dependency.Graph

namespace Worksheet.Dependency

open Relation (ReflTransGen TransGen)

/-!
# What a cell reads, directly and indirectly

* `Graph.Reads`, `Graph.Reaches` — one reference, and any number of references in a row;
* `Graph.OnCycle`, `Graph.ReachesCycle` — a cell that reads itself over one or more references, and
  a cell that reaches such a cell;
* `Graph.Grounded` — no chain of references from the cell goes on without end;
* `Graph.distance` — the number of references on a shortest way from one cell to another;
* `Graph.reachesCycle_iff_of_reads_eq` — whether a cell reaches a cycle depends on what is in its
  reach and on nothing else.

In a finite graph the cells that reach no cycle are the grounded ones
(`Graph.grounded_iff_not_reachesCycle`), so what holds of them is proved by induction along their
references.
-/

namespace Graph

variable {g h : Graph} {a b c : CellId}

/-- Cell `a` refers to cell `b`. -/
def Reads (g : Graph) (a b : CellId) : Prop := b ∈ g.reads a

/-- Cell `b` is cell `a` itself or can be reached from it along references. -/
def Reaches (g : Graph) : CellId → CellId → Prop := ReflTransGen g.Reads

/-- The cell reads itself, directly or indirectly. -/
def OnCycle (g : Graph) (a : CellId) : Prop := TransGen g.Reads a a

/-- The cell lies on a cycle or reads a cell that does, directly or indirectly. -/
def ReachesCycle (g : Graph) (a : CellId) : Prop := ∃ b, g.Reaches a b ∧ g.OnCycle b

/-- No chain of references from the cell goes on without end. -/
def Grounded (g : Graph) (a : CellId) : Prop := Acc (fun b a => g.Reads a b) a

/-! ### References and nodes -/

theorem mem_keys_of_reads (hab : g.Reads a b) : a ∈ g.keys := by
  rw [Table.mem_keys_iff]
  by_contra hnone
  rw [Bool.not_eq_true, Option.isSome_eq_false_iff, Option.isNone_iff_eq_none] at hnone
  have hreads : g.reads a = [] := by rw [reads, hnone]; rfl
  rw [Reads, hreads] at hab
  exact List.not_mem_nil hab

/-- Whatever a cell reads is a node of the graph. -/
theorem mem_nodes_of_reads (hab : g.Reads a b) : b ∈ g.nodes := by
  obtain ⟨refs, hrefs⟩ := Table.exists_of_mem_keys (mem_keys_of_reads hab)
  have hb : b ∈ refs := by
    rw [Reads, reads, hrefs] at hab
    exact hab
  exact List.mem_append_right _ (List.mem_flatMap.2 ⟨(a, refs), Table.mem_toList_iff.2 hrefs, hb⟩)

theorem eq_or_mem_nodes_of_reaches (hab : g.Reaches a b) : b = a ∨ b ∈ g.nodes := by
  rcases ReflTransGen.cases_tail hab with heq | ⟨c, -, hcb⟩
  · exact .inl heq
  · exact .inr (mem_nodes_of_reads hcb)

/-- Cells that read only each other reach only each other. -/
theorem mem_of_reaches {cells : List CellId} (hclosed : ∀ a ∈ cells, ∀ b ∈ g.reads a, b ∈ cells)
    (ha : a ∈ cells) (hab : g.Reaches a b) : b ∈ cells := by
  induction hab with
  | refl => exact ha
  | tail _ hbc ih => exact hclosed _ ih _ hbc

theorem mem_keys_of_reachesCycle (ha : g.ReachesCycle a) : a ∈ g.keys := by
  obtain ⟨b, hab, hcycle⟩ := ha
  rcases ReflTransGen.cases_head hab with rfl | ⟨c, hac, -⟩
  · obtain ⟨c, hac, -⟩ := TransGen.head'_iff.1 hcycle
    exact mem_keys_of_reads hac
  · exact mem_keys_of_reads hac

/-! ### Cycles -/

theorem ReachesCycle.of_reads (hab : g.Reads a b) (hb : g.ReachesCycle b) : g.ReachesCycle a := by
  obtain ⟨c, hbc, hcycle⟩ := hb
  exact ⟨c, ReflTransGen.head hab hbc, hcycle⟩

theorem ReachesCycle.of_reaches (hab : g.Reaches a b) (hb : g.ReachesCycle b) :
    g.ReachesCycle a := by
  obtain ⟨c, hbc, hcycle⟩ := hb
  exact ⟨c, ReflTransGen.trans hab hbc, hcycle⟩

/-- The way from a cell to a cycle starts with a reference. -/
theorem ReachesCycle.exists_reads (ha : g.ReachesCycle a) :
    ∃ b, g.Reads a b ∧ g.ReachesCycle b := by
  obtain ⟨c, hac, hcycle⟩ := ha
  rcases ReflTransGen.cases_head hac with rfl | ⟨b, hab, hbc⟩
  · -- the next cell on a cycle lies on the cycle too
    obtain ⟨b, hab, hba⟩ := TransGen.head'_iff.1 hcycle
    exact ⟨b, hab, b, ReflTransGen.refl, TransGen.tail' hba hab⟩
  · exact ⟨b, hab, c, hbc, hcycle⟩

theorem Grounded.of_reads (ha : g.Grounded a) (hab : g.Reads a b) : g.Grounded b := Acc.inv ha hab

theorem Grounded.of_reaches (ha : g.Grounded a) (hab : g.Reaches a b) : g.Grounded b := by
  induction hab with
  | refl => exact ha
  | tail _ hbc ih => exact ih.of_reads hbc

theorem Grounded.not_onCycle (ha : g.Grounded a) : ¬ g.OnCycle a := by
  induction ha with
  | intro a _ ih =>
    intro hcycle
    -- the cell that `a` reads on the cycle lies on the cycle too
    obtain ⟨b, hab, hba⟩ := TransGen.head'_iff.1 hcycle
    exact ih b hab (TransGen.tail' hba hab)

/-- Two cells that read each other around a cycle are not grounded. -/
theorem Grounded.not_reaches_of_reads (ha : g.Grounded a) (hab : g.Reads a b) : ¬ g.Reaches b a :=
  fun hba => ha.not_onCycle (TransGen.head' hab hba)

theorem Grounded.not_reachesCycle (ha : g.Grounded a) : ¬ g.ReachesCycle a :=
  fun ⟨_, hab, hcycle⟩ => (ha.of_reaches hab).not_onCycle hcycle

/-- The cells in reach are finitely many, so a chain without end would come back to one of them. -/
theorem grounded_of_not_reachesCycle (ha : ¬ g.ReachesCycle a) : g.Grounded a := by
  let InReach := { b // g.Reaches a b }
  have hfinite : Finite InReach :=
    Set.Finite.subset (List.finite_toSet (a :: g.nodes)) fun b hb =>
      List.mem_cons.2 (eq_or_mem_nodes_of_reaches hb)
  let After (b c : InReach) : Prop := TransGen g.Reads c.1 b.1
  -- an order on finitely many cells that puts none after itself is well-founded
  have htrans : IsTrans InReach After := ⟨fun _ _ _ hbc hcd => TransGen.trans hcd hbc⟩
  have hirrefl : Std.Irrefl After := ⟨fun b hb => ha ⟨b.1, b.2, hb⟩⟩
  have hwf : WellFounded After := Finite.wellFounded_of_trans_of_irrefl After
  have hall : ∀ b : InReach, g.Grounded b.1 := by
    intro b
    induction b using hwf.induction with
    | _ b ih =>
      apply Acc.intro b.1
      intro c hbc
      exact ih ⟨c, ReflTransGen.tail b.2 hbc⟩ (TransGen.single hbc)
  exact hall ⟨a, ReflTransGen.refl⟩

theorem grounded_iff_not_reachesCycle : g.Grounded a ↔ ¬ g.ReachesCycle a :=
  ⟨Grounded.not_reachesCycle, grounded_of_not_reachesCycle⟩

/-- A cell without references reaches no cycle. -/
theorem not_reachesCycle_of_reads_nil (ha : g.reads a = []) : ¬ g.ReachesCycle a := by
  rw [← grounded_iff_not_reachesCycle]
  apply Acc.intro a
  intro b hab
  have hab : b ∈ g.reads a := hab
  rw [ha] at hab
  exact absurd hab List.not_mem_nil

/-! ### Distances -/

/-- Cell `b` can be reached from cell `a` along `n` references. -/
def ReachesIn (g : Graph) : Nat → CellId → CellId → Prop
  | 0, a, b => a = b
  | n + 1, a, b => ∃ c, g.Reads a c ∧ g.ReachesIn n c b

theorem reaches_iff_exists_reachesIn : g.Reaches a b ↔ ∃ n, g.ReachesIn n a b := by
  constructor
  · intro hab
    induction hab using ReflTransGen.head_induction_on with
    | refl => exact ⟨0, rfl⟩
    | head hac _ ih =>
      obtain ⟨n, hn⟩ := ih
      exact ⟨n + 1, _, hac, hn⟩
  · rintro ⟨n, hn⟩
    induction n generalizing a with
    | zero =>
      obtain rfl : a = b := hn
      exact ReflTransGen.refl
    | succ n ih =>
      obtain ⟨c, hac, hcb⟩ := hn
      exact ReflTransGen.head hac (ih hcb)

/-- The number of references on a shortest way from `a` to `b`, if there is a way. -/
noncomputable def distance (g : Graph) (a b : CellId) : Nat := sInf {n | g.ReachesIn n a b}

theorem distance_le {n : Nat} (h : g.ReachesIn n a b) : g.distance a b ≤ n := Nat.sInf_le h

theorem reachesIn_distance (h : g.Reaches a b) : g.ReachesIn (g.distance a b) a b :=
  Nat.sInf_mem (s := {n | g.ReachesIn n a b}) (reaches_iff_exists_reachesIn.1 h)

/-- A reference is at most one step farther. -/
theorem distance_le_of_reads (hab : g.Reads a b) (hbc : g.Reaches b c) :
    g.distance a c ≤ g.distance b c + 1 :=
  distance_le ⟨b, hab, reachesIn_distance hbc⟩

/-- A shortest way to another cell goes on to a cell that is nearer by one. -/
theorem exists_reads_of_ne (h : g.Reaches a c) (hne : a ≠ c) :
    ∃ b, g.Reads a b ∧ g.Reaches b c ∧ g.distance b c + 1 ≤ g.distance a c := by
  have hway := reachesIn_distance h
  cases hn : g.distance a c with
  | zero =>
    rw [hn] at hway
    exact absurd hway hne
  | succ n =>
    rw [hn] at hway
    obtain ⟨b, hab, hbc⟩ := hway
    exact ⟨b, hab, reaches_iff_exists_reachesIn.2 ⟨n, hbc⟩,
      Nat.succ_le_succ (distance_le hbc)⟩

/-! ### Graphs with the same references -/

/-- What is in reach of a cell depends on the references of the cells in its reach and on nothing
else. -/
theorem reaches_iff_of_reads_eq (hreads : ∀ b, g.Reaches a b → h.reads b = g.reads b) :
    h.Reaches a b ↔ g.Reaches a b := by
  constructor
  · intro hab
    induction hab with
    | refl => exact ReflTransGen.refl
    | @tail b c _ hbc ih =>
      refine ReflTransGen.tail ih (?_ : g.Reads b c)
      rwa [Reads, ← hreads b ih]
  · intro hab
    induction hab with
    | refl => exact ReflTransGen.refl
    | @tail b c hab hbc ih =>
      refine ReflTransGen.tail ih (?_ : h.Reads b c)
      rwa [Reads, hreads b hab]

theorem Grounded.of_reads_eq (ha : g.Grounded a)
    (hreads : ∀ b, g.Reaches a b → h.reads b = g.reads b) : h.Grounded a := by
  induction ha with
  | intro a _ ih =>
    apply Acc.intro a
    intro b hab
    have hab' : g.Reads a b := by rwa [Reads, ← hreads a ReflTransGen.refl]
    exact ih b hab' fun c hbc => hreads c (ReflTransGen.head hab' hbc)

/-- Whether a cell reaches a cycle depends on the references of the cells in its reach and on
nothing else. -/
theorem reachesCycle_iff_of_reads_eq (hreads : ∀ b, g.Reaches a b → h.reads b = g.reads b) :
    h.ReachesCycle a ↔ g.ReachesCycle a := by
  have hback : ∀ b, h.Reaches a b → g.reads b = h.reads b :=
    fun b hab => (hreads b ((reaches_iff_of_reads_eq hreads).1 hab)).symm
  rw [← not_iff_not, ← grounded_iff_not_reachesCycle, ← grounded_iff_not_reachesCycle]
  exact ⟨fun ha => ha.of_reads_eq hback, fun ha => ha.of_reads_eq hreads⟩

theorem reachesCycle_congr (hreads : ∀ a, g.reads a = h.reads a) :
    g.ReachesCycle a ↔ h.ReachesCycle a :=
  reachesCycle_iff_of_reads_eq fun b _ => hreads b

/-- Whether a cell that does not reach `x` reaches a cycle does not depend on what `x` refers to. -/
theorem reachesCycle_iff_of_reads_ne {x : CellId} (hreads : ∀ a, a ≠ x → g.reads a = h.reads a)
    (hx : ¬ h.Reaches a x) : g.ReachesCycle a ↔ h.ReachesCycle a :=
  reachesCycle_iff_of_reads_eq fun b hab => hreads b fun heq => hx (heq ▸ hab)

end Graph

end Worksheet.Dependency
