import Worksheet.Dependency.Cycles
import Worksheet.Proofs.Dependency.Order

namespace Worksheet.Dependency

open Std (TreeSet)
open Relation (ReflTransGen TransGen)

/-!
# The cells that reach a cycle

* `Visit.Judged` — what is known of a reference that the search has followed;
* `Searching` — the state of a search: flagged cells reach a cycle, and finished cells that reach
  one are flagged;
* `Searching.pass`, `Searching.leave`, `Searching.enter` — the steps of a search keep this,
  `Searching.search` — so does a whole search;
* `Graph.mem_cyclic` — the cyclic cells of a graph are those that reach a cycle;
* `Graph.cyclic_determined` — they depend on which cells read which, and on no order.
-/

variable {g : Graph} {unseen onWay flagged flagged' : TreeSet String} {path : List Visit}

theorem mem_insert {s : TreeSet String} {x a : String} : a ∈ s.insert x ↔ a = x ∨ a ∈ s := by
  rw [TreeSet.mem_insert, Std.LawfulEqOrd.compare_eq_iff_eq, eq_comm]

/-! ### The state of a search -/

/-- The reference of a visited cell to `b` is still to be followed, or the cell is flagged if `b`
reaches a cycle. -/
def Visit.Judged (g : Graph) (flagged : TreeSet String) (v : Visit) (b : CellId) : Prop :=
  b ∈ v.rest ∨ (g.ReachesCycle b → v.cell ∈ flagged)

/-- The inner cell is read by the outer one, which has judged all its other references. -/
def Visit.Around (g : Graph) (flagged : TreeSet String) (inner outer : Visit) : Prop :=
  g.Reads outer.cell inner.cell ∧
    ∀ b, g.Reads outer.cell b → b = inner.cell ∨ outer.Judged g flagged b

/-- The state of a search. -/
structure Searching (g : Graph) (unseen onWay : TreeSet String) (path : List Visit)
    (flagged : TreeSet String) : Prop where
  mem_onWay : ∀ a, a ∈ onWay ↔ a ∈ cellsOf path
  not_unseen : ∀ a ∈ cellsOf path, a ∉ unseen
  nodup : (cellsOf path).Nodup
  to_follow : ∀ v ∈ path, ∀ b ∈ v.rest, g.Reads v.cell b
  judged : ∀ v ∈ path.head?, ∀ b, g.Reads v.cell b → v.Judged g flagged b
  around : path.IsChain (Visit.Around g flagged)
  sound : ∀ a ∈ flagged, g.ReachesCycle a
  /-- Of the cells that have been seen and are not on the way, those that reach a cycle are
  flagged. -/
  complete : ∀ a, a ∉ unseen → a ∉ cellsOf path → g.ReachesCycle a → a ∈ flagged

theorem Visit.Judged.mono {v : Visit} {b : CellId} (h : v.Judged g flagged b)
    (hmono : ∀ a ∈ flagged, a ∈ flagged') : v.Judged g flagged' b :=
  h.imp_right fun hflag hb => hmono _ (hflag hb)

theorem Visit.Around.mono {inner outer : Visit} (h : Visit.Around g flagged inner outer)
    (hmono : ∀ a ∈ flagged, a ∈ flagged') : Visit.Around g flagged' inner outer :=
  ⟨h.1, fun b hb => (h.2 b hb).imp_right (·.mono hmono)⟩

/-- The references that are left where a cell has been judged up to its first unseen reference. -/
def remaining : Option (CellId × List CellId) → List CellId
  | none => []
  | some (next, rest) => next :: rest

theorem mem_passOn {cell a : CellId} :
    a ∈ passOn cell path flagged ↔
      a ∈ flagged ∨ cell ∈ flagged ∧ ∃ outer ∈ path.head?, a = outer.cell := by
  cases path with
  | nil => simp [passOn]
  | cons outer path =>
    rw [passOn]
    split
    case isTrue hcell =>
      rw [mem_insert]
      simp [hcell, or_comm]
    case isFalse hcell => simp [hcell]

namespace Searching

variable {cell next : CellId} {refs rest : List CellId}

/-- Every cell on the way reaches the innermost one. -/
theorem reaches_cell (h : Searching g unseen onWay (⟨cell, refs⟩ :: path) flagged) {a : CellId}
    (ha : a ∈ onWay) : g.Reaches a cell := by
  have hlinked : (cell :: cellsOf path).IsChain fun inner outer => g.Reads outer inner :=
    (List.isChain_map Visit.cell).2 (h.around.imp fun _ _ haround => haround.1)
  exact Walking.reaches_head hlinked a ((h.mem_onWay a).1 ha)

/-! ### One reference -/

/-- A reference is followed, and what it says about cycles is added to the flags. -/
theorem pass (h : Searching g unseen onWay (⟨cell, next :: rest⟩ :: path) flagged)
    (hmono : ∀ a ∈ flagged, a ∈ flagged') (hsound : ∀ a ∈ flagged', g.ReachesCycle a)
    (hnext : g.ReachesCycle next → cell ∈ flagged') :
    Searching g unseen onWay (⟨cell, rest⟩ :: path) flagged' where
  mem_onWay := h.mem_onWay
  not_unseen := h.not_unseen
  nodup := h.nodup
  to_follow v hv b hb := by
    rcases List.mem_cons.1 hv with rfl | hv
    · exact h.to_follow ⟨cell, next :: rest⟩ List.mem_cons_self b (List.mem_cons_of_mem _ hb)
    · exact h.to_follow v (List.mem_cons_of_mem _ hv) b hb
  judged v hv b hb := by
    obtain rfl : ⟨cell, rest⟩ = v := Option.some.inj hv
    rcases h.judged ⟨cell, next :: rest⟩ rfl b hb with hrest | hflag
    · rcases List.mem_cons.1 hrest with rfl | hrest
      · exact .inr hnext
      · exact .inl hrest
    · exact .inr fun hcycle => hmono cell (hflag hcycle)
  around := by
    obtain ⟨houter, haround⟩ := List.isChain_cons.1 h.around
    exact List.isChain_cons.2 ⟨fun v hv => (houter v hv).mono hmono,
      haround.imp fun _ _ hinner => hinner.mono hmono⟩
  sound := hsound
  complete a hseen hpath hcycle := hmono a (h.complete a hseen hpath hcycle)

/-- A reference to a cell on the way closes a cycle. -/
theorem close (h : Searching g unseen onWay (⟨cell, next :: rest⟩ :: path) flagged)
    (hnext : next ∈ onWay) :
    Searching g unseen onWay (⟨cell, rest⟩ :: path) ((flagged.insert next).insert cell) := by
  have hread : g.Reads cell next := h.to_follow _ List.mem_cons_self next List.mem_cons_self
  have hcycle : g.ReachesCycle next :=
    ⟨next, ReflTransGen.refl, TransGen.tail' (h.reaches_cell hnext) hread⟩
  refine h.pass (fun a ha => mem_insert.2 (.inr (mem_insert.2 (.inr ha)))) (fun a ha => ?_)
    fun _ => mem_insert.2 (.inl rfl)
  rcases mem_insert.1 ha with rfl | ha
  · exact hcycle.of_reads hread
  rcases mem_insert.1 ha with rfl | ha
  · exact hcycle
  · exact h.sound a ha

/-- The flag of a finished cell is final, so it can be taken over. -/
theorem takeOver (h : Searching g unseen onWay (⟨cell, next :: rest⟩ :: path) flagged)
    (hway : next ∉ onWay) (hseen : next ∉ unseen) :
    Searching g unseen onWay (⟨cell, rest⟩ :: path)
      (if next ∈ flagged then flagged.insert cell else flagged) := by
  have hread : g.Reads cell next := h.to_follow _ List.mem_cons_self next List.mem_cons_self
  have hfinal : g.ReachesCycle next → next ∈ flagged :=
    h.complete next hseen (mt (h.mem_onWay next).2 hway)
  split
  case isTrue hflag =>
    refine h.pass (fun a ha => mem_insert.2 (.inr ha)) (fun a ha => ?_)
      fun _ => mem_insert.2 (.inl rfl)
    rcases mem_insert.1 ha with rfl | ha
    · exact (h.sound next hflag).of_reads hread
    · exact h.sound a ha
  case isFalse hflag =>
    exact h.pass (fun a ha => ha) h.sound fun hcycle => absurd (hfinal hcycle) hflag

/-- All references of the innermost cell before the first unseen one are judged. -/
theorem judge (h : Searching g unseen onWay (⟨cell, refs⟩ :: path) flagged) :
    Searching g unseen onWay (⟨cell, remaining (judge unseen onWay cell refs flagged).2⟩ :: path)
      (judge unseen onWay cell refs flagged).1 := by
  induction refs generalizing flagged with
  | nil => exact h
  | cons next rest ih =>
    rw [Dependency.judge]
    split
    case isTrue hway => exact ih (h.close hway)
    case isFalse hway =>
      split
      case isTrue => exact h
      case isFalse hseen => exact ih (h.takeOver hway hseen)

/-! ### Finishing and entering cells -/

/-- Once all its references have been judged, the flag of the innermost cell is right. -/
theorem mem_flagged (h : Searching g unseen onWay (⟨cell, []⟩ :: path) flagged)
    (hcycle : g.ReachesCycle cell) : cell ∈ flagged := by
  obtain ⟨b, hb, hbcycle⟩ := hcycle.exists_reads
  exact (h.judged ⟨cell, []⟩ rfl b hb).resolve_left List.not_mem_nil hbcycle

/-- A cell whose references have all been judged is finished. -/
theorem leave (h : Searching g unseen onWay (⟨cell, []⟩ :: path) flagged) :
    Searching g unseen (onWay.erase cell) path (passOn cell path flagged) := by
  have hmono : ∀ a ∈ flagged, a ∈ passOn cell path flagged := fun a ha => mem_passOn.2 (.inl ha)
  obtain ⟨houter, haround⟩ := List.isChain_cons.1 h.around
  obtain ⟨hcell, hnodup⟩ := List.nodup_cons.1 h.nodup
  constructor
  case mem_onWay =>
    intro a
    rw [mem_erase, h.mem_onWay, cellsOf, List.map_cons, List.mem_cons]
    constructor
    · rintro ⟨hne, ha⟩
      exact ha.resolve_left hne
    · intro ha
      exact ⟨fun heq => hcell (heq ▸ ha), .inr ha⟩
  case not_unseen => exact fun a ha => h.not_unseen a (List.mem_cons_of_mem _ ha)
  case nodup => exact hnodup
  case to_follow => exact fun v hv => h.to_follow v (List.mem_cons_of_mem _ hv)
  case judged =>
    intro v hv b hb
    rcases (houter v hv).2 b hb with rfl | hjudged
    · -- the reference to the finished cell was the only one that the outer cell had not judged
      exact .inr fun hcycle => mem_passOn.2 (.inr ⟨h.mem_flagged hcycle, v, hv, rfl⟩)
    · exact hjudged.mono hmono
  case around => exact haround.imp fun _ _ hinner => hinner.mono hmono
  case sound =>
    intro a ha
    rcases mem_passOn.1 ha with ha | ⟨hflag, outer, hv, rfl⟩
    · exact h.sound a ha
    · exact (h.sound cell hflag).of_reads (houter outer hv).1
  case complete =>
    intro a hseen hpath hcycle
    by_cases ha : a = cell
    · subst ha
      exact hmono a (h.mem_flagged hcycle)
    · exact hmono a
        (h.complete a hseen (List.not_mem_cons_of_ne_of_not_mem ha hpath) hcycle)

/-- The search goes on to an unseen cell that is read where it stands. -/
theorem enter (h : Searching g unseen onWay (⟨cell, next :: rest⟩ :: path) flagged)
    (hnext : next ∈ unseen) :
    Searching g (unseen.erase next) (onWay.insert next)
      (⟨next, g.reads next⟩ :: ⟨cell, rest⟩ :: path) flagged := by
  have hread : g.Reads cell next := h.to_follow _ List.mem_cons_self next List.mem_cons_self
  obtain ⟨houter, haround⟩ := List.isChain_cons.1 h.around
  constructor
  case mem_onWay =>
    intro a
    rw [mem_insert, h.mem_onWay]
    exact List.mem_cons.symm
  case not_unseen =>
    intro a ha hin
    obtain ⟨hne, hin⟩ := mem_erase.1 hin
    exact h.not_unseen a ((List.mem_cons.1 ha).resolve_left hne) hin
  case nodup => exact List.nodup_cons.2 ⟨fun hmem => h.not_unseen next hmem hnext, h.nodup⟩
  case to_follow =>
    intro v hv b hb
    rcases List.mem_cons.1 hv with rfl | hv
    · exact hb
    rcases List.mem_cons.1 hv with rfl | hv
    · exact h.to_follow ⟨cell, next :: rest⟩ List.mem_cons_self b (List.mem_cons_of_mem _ hb)
    · exact h.to_follow v (List.mem_cons_of_mem _ hv) b hb
  case judged =>
    intro v hv b hb
    obtain rfl : ⟨next, g.reads next⟩ = v := Option.some.inj hv
    exact .inl hb
  case around =>
    refine List.isChain_cons_cons.2 ⟨⟨hread, fun b hb => ?_⟩, List.isChain_cons.2 ⟨houter, haround⟩⟩
    -- the reference to `next` is judged when `next` is finished
    rcases h.judged ⟨cell, next :: rest⟩ rfl b hb with hrest | hflag
    · exact (List.mem_cons.1 hrest).imp_right .inl
    · exact .inr (.inr hflag)
  case sound => exact h.sound
  case complete =>
    intro a hseen hpath hcycle
    rw [cellsOf, List.map_cons, List.mem_cons, not_or] at hpath
    obtain ⟨hne, hpath⟩ := hpath
    exact h.complete a (fun hin => hseen (mem_erase.2 ⟨hne, hin⟩)) hpath hcycle

/-- The search starts at a cell. -/
theorem root (h : Searching g unseen ∅ [] flagged) (root : CellId) :
    Searching g (unseen.erase root) ((∅ : TreeSet String).insert root) [⟨root, g.reads root⟩]
      flagged where
  mem_onWay a := by
    rw [mem_insert, h.mem_onWay]
    exact List.mem_cons.symm
  not_unseen a ha hin := (mem_erase.1 hin).1 (List.mem_singleton.1 ha)
  nodup := List.nodup_singleton root
  to_follow v hv b hb := by
    obtain rfl := List.mem_singleton.1 hv
    exact hb
  judged v hv b hb := by
    obtain rfl : ⟨root, g.reads root⟩ = v := Option.some.inj hv
    exact .inl hb
  around := List.isChain_singleton _
  sound := h.sound
  complete a hseen hpath hcycle := by
    refine h.complete a (fun hin => hseen (mem_erase.2 ⟨fun heq => hpath ?_, hin⟩))
      List.not_mem_nil hcycle
    exact List.mem_singleton.2 heq

/-! ### The whole search -/

/-- A search ends with every cell on the way finished. -/
theorem search (h : Searching g unseen onWay path flagged) :
    Searching g (search g.reads unseen onWay path flagged).1 ∅ []
      (search g.reads unseen onWay path flagged).2 := by
  fun_induction Dependency.search g.reads unseen onWay path flagged with
  | case1 unseen onWay flagged =>
    exact { h with mem_onWay := fun a => by simp [cellsOf] }
  | case2 unseen onWay cell refs path flagged flagged' hjudge ih =>
    have hdone := h.judge
    rw [hjudge] at hdone
    exact ih hdone.leave
  | case3 unseen onWay cell refs path flagged flagged' next rest hjudge _ ih =>
    have hfound := h.judge
    rw [hjudge] at hfound
    exact ih (hfound.enter (mem_of_judge hjudge))

end Searching

/-- A search makes nothing unseen again. -/
theorem mem_of_mem_search {reads : CellId → List CellId} {a : CellId}
    (h : a ∈ (search reads unseen onWay path flagged).1) : a ∈ unseen := by
  fun_induction search reads unseen onWay path flagged with
  | case1 unseen onWay flagged => exact h
  | case2 unseen onWay cell refs path flagged flagged' hjudge ih => exact ih h
  | case3 unseen onWay cell refs path flagged flagged' next rest hjudge _ ih =>
    exact TreeSet.mem_of_mem_erase (ih h)

/-! ### Searches from several roots -/

section Roots

variable {state : TreeSet String × TreeSet String} {root : CellId}

theorem Searching.searchFrom (h : Searching g state.1 ∅ [] state.2) (root : CellId) :
    Searching g (searchFrom g.reads state root).1 ∅ [] (searchFrom g.reads state root).2 := by
  rw [Dependency.searchFrom]
  split
  case isTrue => exact (h.root root).search
  case isFalse => exact h

theorem mem_of_mem_searchFrom {reads : CellId → List CellId} {a : CellId}
    (h : a ∈ (searchFrom reads state root).1) : a ∈ state.1 ∧ a ≠ root := by
  rw [searchFrom] at h
  split at h
  case isTrue => exact (mem_erase.1 (mem_of_mem_search h)).symm
  case isFalse hroot => exact ⟨h, fun heq => hroot (heq ▸ h)⟩

end Roots

/-! ### The cyclic cells -/

/-- At the start nothing is flagged, and what is not a node of the graph reaches no cycle. -/
theorem Searching.start (g : Graph) : Searching g (TreeSet.ofList g.nodes) ∅ [] ∅ where
  mem_onWay a := by simp [cellsOf]
  not_unseen _ h := absurd h List.not_mem_nil
  nodup := List.nodup_nil
  to_follow _ h := absurd h List.not_mem_nil
  judged _ h := nomatch h
  around := List.isChain_nil
  sound _ h := absurd h TreeSet.not_mem_emptyc
  complete a hseen _ hcycle := by
    rw [mem_ofList_iff] at hseen
    exact absurd (List.mem_append_left _ (Graph.mem_keys_of_reachesCycle hcycle)) hseen

namespace Graph

/-- The cyclic cells are those that lie on a cycle or read one, directly or indirectly. -/
theorem mem_cyclic {a : CellId} : a ∈ g.cyclic ↔ g.ReachesCycle a := by
  obtain ⟨hsearch, hunseen⟩ := foldl_roots (fun state => Searching g state.1 ∅ [] state.2)
    (fun _ root h => h.searchFrom root) (fun _ _ _ => mem_of_mem_searchFrom)
    (TreeSet.ofList g.nodes, ∅) (Searching.start g) g.keys
  refine ⟨hsearch.sound a, fun hcycle => hsearch.complete a ?_ List.not_mem_nil hcycle⟩
  exact fun hin => (hunseen a hin).2 (mem_keys_of_reachesCycle hcycle)

theorem contains_cyclic {a : CellId} : g.cyclic.contains a = true ↔ g.ReachesCycle a := by
  rw [← TreeSet.mem_iff_contains, mem_cyclic]

/-- What reaches a cyclic cell is cyclic itself. -/
theorem mem_cyclic_of_reaches {a b : CellId} (hab : g.Reaches a b) (hb : b ∈ g.cyclic) :
    a ∈ g.cyclic :=
  mem_cyclic.2 (.of_reaches hab (mem_cyclic.1 hb))

/-- The cyclic cells of a graph are exactly those from which zero or more references lead to a cell
that comes back to itself over one or more references.  So two graphs in which the same cells read
the same cells have the same ones, in whatever order and however often they list them. -/
theorem cyclic_determined (g : Graph) :
    (∀ a, a ∈ g.cyclic ↔ ∃ b, ReflTransGen g.Reads a b ∧ TransGen g.Reads b b) ∧
      ∀ h : Graph, (∀ a b, h.Reads a b ↔ g.Reads a b) → ∀ a, a ∈ h.cyclic ↔ a ∈ g.cyclic := by
  refine ⟨fun a => mem_cyclic, fun h hreads a => ?_⟩
  have hsame : h.Reads = g.Reads := funext fun a => funext fun b => propext (hreads a b)
  rw [mem_cyclic, mem_cyclic, ReachesCycle, ReachesCycle, Reaches, Reaches, hsame]
  exact exists_congr fun b => and_congr_right fun _ => by rw [OnCycle, OnCycle, hsame]

/-- A cycle of two cells with a cell before it and one behind it. -/
def cycleOfTwo : Graph :=
  Table.ofList [("A1", ["B1", "C1"]), ("B1", ["A1"]), ("C1", []), ("D1", ["B1"])]

/-- The same references in another order, one of them twice, and no entry for the cell that reads
nothing. -/
def cycleOfTwoReordered : Graph :=
  Table.ofList [("D1", ["B1", "B1"]), ("B1", ["A1"]), ("A1", ["C1", "B1"])]

theorem cyclic_determined_cycleOfTwo :
    "D1" ∈ cycleOfTwo.cyclic ∧ (∀ a b, cycleOfTwoReordered.Reads a b ↔ cycleOfTwo.Reads a b) ∧
      ∀ a, a ∈ cycleOfTwoReordered.cyclic ↔ a ∈ cycleOfTwo.cyclic := by
  have hreads : ∀ a b, cycleOfTwoReordered.Reads a b ↔ cycleOfTwo.Reads a b := by
    intro a b
    simp only [Reads, reads, cycleOfTwo, cycleOfTwoReordered, Table.ofList, List.foldl_cons,
      List.foldl_nil, Table.get?_set, Table.get?_empty]
    grind
  have hDB : cycleOfTwo.Reads "D1" "B1" :=
    show "B1" ∈ cycleOfTwo.reads "D1" by decide +kernel
  have hBA : cycleOfTwo.Reads "B1" "A1" :=
    show "A1" ∈ cycleOfTwo.reads "B1" by decide +kernel
  have hAB : cycleOfTwo.Reads "A1" "B1" :=
    show "B1" ∈ cycleOfTwo.reads "A1" by decide +kernel
  obtain ⟨hmem, hsame⟩ := cyclic_determined cycleOfTwo
  exact ⟨(hmem "D1").2 ⟨"B1", .single hDB, .head hBA (.single hAB)⟩, hreads,
    hsame cycleOfTwoReordered hreads⟩

end Graph

end Worksheet.Dependency
