import Mathlib.Data.List.Basic
import Mathlib.Data.List.TakeWhile
import Worksheet.Proofs.Except
import Worksheet.Proofs.Formula.Grammar

namespace Worksheet.Formula

open Text (upperOf)

/-!
# Tokens that pass the check

* `tokenize_eq_ok` — the tokens of a body are those of the scan, unless there is a fault in one;
* `Token.Proper`, `proper_of_tokenize` — what their texts look like;
* `mem_references` — the reference tokens of a formula name the cells that its text refers to.
-/

variable {t : Token} {ts : List Token}

/-! ### The check -/

theorem check_eq_ok_iff {t' : Token} :
    t.check = .ok t' ↔ t' = t ∧ t.kind ≠ .unknown ∧ ¬ (t.kind = .number ∧ t.text = ".") := by
  unfold Token.check
  split
  case isTrue hkind => simp [hkind]
  case isFalse hkind =>
    split
    case isTrue hpoint => simp [hpoint]
    case isFalse hpoint =>
      rw [Except.ok.injEq]
      exact ⟨fun h => ⟨h.symm, hkind, hpoint⟩, fun h => h.1.symm⟩

theorem mapM_check {ts : List Token} (h : ∀ t ∈ ts, t.check = .ok t) :
    ts.mapM Token.check = .ok ts := by
  rw [List.mapM_eq_pure_map (g := id) h, List.map_id]
  rfl

/-- A list of tokens passes the check as it is, or not at all. -/
theorem mapM_check_eq_ok_iff {ts' : List Token} :
    ts.mapM Token.check = .ok ts' ↔ ts' = ts ∧ ∀ t ∈ ts, t.check = .ok t := by
  refine ⟨fun h => ?_, fun ⟨heq, hcheck⟩ => by rw [mapM_check hcheck, heq]⟩
  induction ts generalizing ts' with
  | nil =>
    rw [List.mapM_nil] at h
    exact ⟨(Except.ok.inj h).symm, by simp⟩
  | cons t ts ih =>
    rw [List.mapM_cons] at h
    obtain ⟨u, hu, htail⟩ := Except.bind_eq_ok.1 h
    obtain ⟨us, hus, hcons⟩ := Except.bind_eq_ok.1 htail
    obtain ⟨rfl, hchecks⟩ := ih hus
    obtain ⟨rfl, -⟩ := check_eq_ok_iff.1 hu
    exact ⟨(Except.ok.inj hcons).symm, by simpa [hu] using hchecks⟩

/-- The fault of a list of tokens is the fault of one of them. -/
theorem mapM_check_eq_error {f : Fault} (h : ts.mapM Token.check = .error f) :
    ∃ t ∈ ts, t.check = .error f := by
  induction ts with
  | nil => cases h
  | cons t ts ih =>
    rw [List.mapM_cons] at h
    rcases Except.bind_eq_error.1 h with hcheck | ⟨u, -, htail⟩
    · exact ⟨t, List.mem_cons_self, hcheck⟩
    · rcases Except.bind_eq_error.1 htail with htail | ⟨us, -, hcons⟩
      · obtain ⟨v, hv, hcheck⟩ := ih htail
        exact ⟨v, List.mem_cons_of_mem t hv, hcheck⟩
      · cases hcons

/-- The tokens of a body are those of the scan, and there is none that no formula contains. -/
theorem tokenize_eq_ok {body : List Char} (h : tokenize body = .ok ts) :
    ts = scan 0 (body.flatMap upperOf) ∧ ∀ t ∈ ts, t.kind ≠ .unknown := by
  obtain ⟨rfl, hchecks⟩ := mapM_check_eq_ok_iff.1 h
  exact ⟨rfl, fun t ht => (check_eq_ok_iff.1 (hchecks t ht)).2.1⟩

/-- The reference tokens of a formula name the cells that its text refers to. -/
theorem mem_references {text : String} {body : List Char} (hbody : body? text = some body)
    (hts : tokenize body = .ok ts) (ht : t ∈ ts) (hkind : t.kind = .reference) :
    t.text ∈ references text := by
  obtain ⟨rfl, -⟩ := tokenize_eq_ok hts
  simp only [references, hbody]
  exact List.mem_map_of_mem (List.mem_filter.2 ⟨ht, by simpa using hkind⟩)

/-! ### Texts of tokens -/

/-- What the text of a token looks like. -/
structure Token.Proper (t : Token) : Prop where
  known : t.kind ≠ .unknown
  operator : t.kind = .operator → ∃ op, t.Writes op
  number : t.kind = .number → ∀ c ∈ t.text.toList, c.isDigit = true ∨ c = '.'

theorem mem_numberTail {c : Char} {cs : List Char} (h : c ∈ numberTail cs) :
    c.isDigit = true ∨ c = '.' := by
  rcases List.mem_append.1 h with h | h
  · exact .inl (List.mem_takeWhile_imp h)
  · split at h
    case h_1 ds hds =>
      rcases List.mem_cons.1 h with h | h
      · exact .inr h
      · exact .inl (List.mem_takeWhile_imp h)
    case h_2 => simp at h

theorem letterTail_kind (cs : List Char) :
    (letterTail cs).1 = .unknown ∨ (letterTail cs).1 = .reference := by
  simp only [letterTail]
  split
  case isTrue => exact .inl rfl
  case isFalse => exact .inr rfl

/-- An operator token is a single `+`, `-`, `*` or `/`. -/
theorem leading_operator {c : Char} {cs : List Char} (h : (leading c cs).1 = .operator) :
    ∃ op : Number.Operation, String.ofList (c :: (leading c cs).2) = op.symbol := by
  unfold leading at h ⊢
  by_cases hc : c = '+' ∨ c = '-' ∨ c = '*' ∨ c = '/'
  case pos =>
    rw [if_pos hc]
    rcases hc with rfl | rfl | rfl | rfl
    · exact ⟨.add, by decide⟩
    · exact ⟨.sub, by decide⟩
    · exact ⟨.mul, by decide⟩
    · exact ⟨.div, by decide⟩
  case neg =>
    rw [if_neg hc] at h
    -- no other first character leads an operator
    rcases letterTail_kind cs with hkind | hkind <;> split_ifs at h <;> simp [hkind] at h

/-- A number token consists of digits and points. -/
theorem leading_number {c : Char} {cs : List Char} (h : (leading c cs).1 = .number) :
    ∀ d ∈ c :: (leading c cs).2, d.isDigit = true ∨ d = '.' := by
  intro d hd
  unfold leading at h hd
  split_ifs at h hd with hop hopening hclosing hdigit hpoint hupper
  case pos =>
    rcases List.mem_cons.1 hd with rfl | hd
    · exact .inl hdigit
    · exact mem_numberTail hd
  case pos =>
    rcases List.mem_cons.1 hd with rfl | hd
    · exact .inr hpoint
    · exact .inl (List.mem_takeWhile_imp hd)
  case pos => rcases letterTail_kind cs with hkind | hkind <;> simp [hkind] at h

/-- The tokens of a scan that are known have proper texts. -/
theorem proper_of_scan (position : Nat) (cs : List Char) (ht : t ∈ scan position cs)
    (hkind : t.kind ≠ .unknown) : t.Proper := by
  fun_induction scan position cs with
  | case1 => simp at ht
  | case2 position c cs hblank ih => exact ih ht
  | case3 position c cs hblank kind more hleading ih =>
    rcases List.mem_cons.1 ht with rfl | ht
    · have hfirst : (leading c cs).1 = kind := by rw [hleading]
      have hmore : (leading c cs).2 = more := by rw [hleading]
      refine ⟨hkind, fun h => ?_, fun h => ?_⟩
      · obtain ⟨op, hop⟩ := leading_operator (hfirst.trans h)
        rw [hmore] at hop
        exact ⟨op, h, hop⟩
      · have hchars := leading_number (hfirst.trans h)
        rw [hmore] at hchars
        simpa using hchars
    · exact ih ht

theorem proper_of_tokenize {body : List Char} (h : tokenize body = .ok ts) (ht : t ∈ ts) :
    t.Proper := by
  obtain ⟨rfl, hkinds⟩ := tokenize_eq_ok h
  exact proper_of_scan 0 _ ht (hkinds t ht)

end Worksheet.Formula
