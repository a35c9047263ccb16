import Std.Data.ExtTreeMap

namespace Worksheet

/-!
# Tables

* `Table α` — finitely many values of type `α` under names, in the order in which the names came;
* `Table.keys`, `Table.get?`, `Table.toList` — what a table shows;
* `Table.adjust`, `Table.set` — a new value under one name, which keeps its place or comes last;
* `Table.map`, `Table.ofList` — tables from tables and from lists.

Two tables with the same keys in the same order and the same value under each are equal
(`Table.ext`).
-/

/-- Values under names, in the order in which the names came. -/
structure Table (α : Type) where
  order : Array String
  entries : Std.ExtTreeMap String α
  nodup : order.toList.Nodup
  mem_order : ∀ k, k ∈ order.toList ↔ k ∈ entries

namespace Table

variable {α β : Type}

/-- The names, in order. -/
def keys (t : Table α) : List String := t.order.toList

/-- The value under a name. -/
def get? (t : Table α) (k : String) : Option α := t.entries[k]?

/-- Whether there is a value under `k`. -/
def contains (t : Table α) (k : String) : Bool := t.entries.contains k

/-- The number of names. -/
def size (t : Table α) : Nat := t.order.size

/-- The names with their values, in order. -/
def toList (t : Table α) : List (String × α) :=
  t.keys.filterMap fun k => (t.get? k).map (k, ·)

theorem nodup_keys (t : Table α) : t.keys.Nodup := t.nodup

theorem mem_keys_iff {t : Table α} {k : String} : k ∈ t.keys ↔ (t.get? k).isSome = true := by
  rw [keys, t.mem_order, Std.ExtTreeMap.mem_iff_isSome_getElem?, get?]

theorem mem_keys_of_get? {t : Table α} {k : String} {v : α} (h : t.get? k = some v) :
    k ∈ t.keys :=
  mem_keys_iff.2 (Option.isSome_iff_exists.2 ⟨v, h⟩)

theorem exists_of_mem_keys {t : Table α} {k : String} (h : k ∈ t.keys) : ∃ v, t.get? k = some v :=
  Option.isSome_iff_exists.1 (mem_keys_iff.1 h)

theorem contains_eq_isSome (t : Table α) (k : String) : t.contains k = (t.get? k).isSome := by
  simp [contains, get?]

theorem contains_iff_mem_keys {t : Table α} {k : String} : t.contains k = true ↔ k ∈ t.keys := by
  rw [contains_eq_isSome, mem_keys_iff]

theorem ext {t u : Table α} (hk : t.keys = u.keys) (hv : ∀ k, t.get? k = u.get? k) : t = u := by
  obtain ⟨order, entries, _, _⟩ := t
  obtain ⟨order', entries', _, _⟩ := u
  obtain rfl : order = order' := Array.toList_inj.1 hk
  obtain rfl : entries = entries' := Std.ExtTreeMap.ext_getElem? hv
  rfl

theorem map_fst_toList (t : Table α) : t.toList.map Prod.fst = t.keys := by
  have hall : ∀ k ∈ t.keys, (t.get? k).isSome = true := fun k => mem_keys_iff.1
  unfold toList
  generalize t.keys = l at hall
  induction l with
  | nil => rfl
  | cons k l ih =>
    obtain ⟨v, hv⟩ := Option.isSome_iff_exists.1 (hall k List.mem_cons_self)
    rw [List.filterMap_cons_some (by rw [hv]; rfl), List.map_cons,
      ih fun k' hk' => hall k' (List.mem_cons_of_mem k hk')]

theorem mem_toList_iff {t : Table α} {k : String} {v : α} :
    (k, v) ∈ t.toList ↔ t.get? k = some v := by
  simp only [toList, List.mem_filterMap, Option.map_eq_some_iff, Prod.mk.injEq]
  constructor
  · rintro ⟨_, _, _, hv, rfl, rfl⟩
    exact hv
  · intro hv
    exact ⟨k, mem_keys_of_get? hv, v, hv, rfl, rfl⟩

theorem map_toList (t : Table α) (f : α → β) (d : α) :
    t.toList.map (fun row => f row.2) = t.keys.map fun k => f ((t.get? k).getD d) := by
  rw [← map_fst_toList, List.map_map]
  refine List.map_congr_left fun row hrow => ?_
  rw [Function.comp, mem_toList_iff.1 hrow, Option.getD_some]

/-! ### Construction -/

/-- The table without names. -/
def empty : Table α where
  order := #[]
  entries := ∅
  nodup := by simp
  mem_order := by simp

/-- The table in which the value under `k` is made from the one before. -/
def adjust (t : Table α) (k : String) (f : Option α → α) : Table α :=
  if h : t.contains k then
    { t with
      entries := t.entries.insert k (f (t.get? k))
      mem_order := by
        intro k'
        have hk : k ∈ t.entries := h
        rw [t.mem_order, Std.ExtTreeMap.mem_insert, Std.LawfulEqOrd.compare_eq_iff_eq]
        exact ⟨Or.inr, fun hor => hor.elim (· ▸ hk) id⟩ }
  else
    { order := t.order.push k
      entries := t.entries.insert k (f none)
      nodup := by
        have hk : k ∉ t.order.toList := fun hmem => h ((t.mem_order k).1 hmem)
        rw [Array.toList_push, List.nodup_append]
        refine ⟨t.nodup, by simp, fun a ha b hb => ?_⟩
        rw [List.mem_singleton] at hb
        exact fun hab => hk (hb ▸ hab ▸ ha)
      mem_order := by
        intro k'
        rw [Array.toList_push, List.mem_append, List.mem_singleton, t.mem_order,
          Std.ExtTreeMap.mem_insert, Std.LawfulEqOrd.compare_eq_iff_eq]
        exact ⟨fun hor => hor.elim Or.inr (Or.inl ·.symm),
          fun hor => hor.elim (Or.inr ·.symm) Or.inl⟩ }

/-- The table with `v` under `k`. -/
def set (t : Table α) (k : String) (v : α) : Table α := t.adjust k fun _ => v

/-- The table with every value replaced by its image. -/
def map (f : String → α → β) (t : Table α) : Table β where
  order := t.order
  entries := t.entries.map f
  nodup := t.nodup
  mem_order := by
    intro k
    rw [t.mem_order, Std.ExtTreeMap.mem_map]

/-- The table of a list of names and values; of two values under one name the last stays. -/
def ofList (l : List (String × α)) : Table α := l.foldl (fun t (k, v) => t.set k v) empty

/-! ### What the operations show -/

@[simp] theorem keys_empty : (empty : Table α).keys = [] := rfl

@[simp] theorem get?_empty (k : String) : (empty : Table α).get? k = none := by
  simp [get?, empty]

theorem keys_adjust (t : Table α) (k : String) (f : Option α → α) :
    (t.adjust k f).keys = if k ∈ t.keys then t.keys else t.keys ++ [k] := by
  by_cases h : t.contains k = true
  · rw [if_pos (contains_iff_mem_keys.1 h), adjust, dif_pos h]; rfl
  · rw [if_neg (mt contains_iff_mem_keys.2 h), adjust, dif_neg h]; simp [keys]

theorem get?_adjust (t : Table α) (k k' : String) (f : Option α → α) :
    (t.adjust k f).get? k' = if k = k' then some (f (t.get? k)) else t.get? k' := by
  by_cases h : t.contains k = true
  · rw [adjust, dif_pos h]
    simp only [get?, Std.ExtTreeMap.getElem?_insert, Std.LawfulEqOrd.compare_eq_iff_eq]
  · have hnone : t.get? k = none := by
      rw [contains_eq_isSome, Option.not_isSome_iff_eq_none] at h
      exact h
    rw [adjust, dif_neg h, hnone]
    simp only [get?, Std.ExtTreeMap.getElem?_insert, Std.LawfulEqOrd.compare_eq_iff_eq]

theorem get?_set (t : Table α) (k k' : String) (v : α) :
    (t.set k v).get? k' = if k = k' then some v else t.get? k' := get?_adjust t k k' _

theorem keys_set_of_mem {t : Table α} {k : String} (h : k ∈ t.keys) (v : α) :
    (t.set k v).keys = t.keys := by rw [set, keys_adjust, if_pos h]

/-- New names come last, in the order in which they came. -/
theorem keys_foldl_set {l : List (String × α)} {t : Table α}
    (h : (t.keys ++ l.map Prod.fst).Nodup) :
    (l.foldl (fun t (k, v) => t.set k v) t).keys = t.keys ++ l.map Prod.fst := by
  induction l generalizing t with
  | nil => rw [List.foldl_nil, List.map_nil, List.append_nil]
  | cons row l ih =>
    obtain ⟨k, v⟩ := row
    rw [List.map_cons] at h ⊢
    have hnew : k ∉ t.keys := fun hk => (List.nodup_append.1 h).2.2 k hk k List.mem_cons_self rfl
    have hset : (t.set k v).keys = t.keys ++ [k] := by rw [set, keys_adjust, if_neg hnew]
    rw [List.append_cons, ← hset] at h ⊢
    exact ih h

theorem keys_ofList {l : List (String × α)} (h : (l.map Prod.fst).Nodup) :
    (ofList l).keys = l.map Prod.fst := keys_foldl_set (t := empty) h

@[simp] theorem keys_map (f : String → α → β) (t : Table α) : (t.map f).keys = t.keys := rfl

@[simp] theorem get?_map (f : String → α → β) (t : Table α) (k : String) :
    (t.map f).get? k = (t.get? k).map (f k) := by
  simp only [get?, map, Std.ExtTreeMap.getElem?_map]

end Table

end Worksheet
