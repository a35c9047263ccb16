import Worksheet.Proofs.Text.Characters

namespace Worksheet.Text

/-!
# Upper-case forms of letters

* `UpperForm` — how the upper-case form of a character comes about: `upperForm_upperOf`;
* `toNat_mem_upperOf`, `toNat_mem_upper` — the upper-case form of a letter, of any script, has no
  character below `A`;
* `isLetter_of_upperOf`, `isLetter_of_upper` — what has an upper-case form of letters from `A` to
  `Z` is itself a letter;
* `toList_upper_eq_nil_iff` — no text disappears in upper case.

What is asked of a character is asked of the rows of the tables: the tables are gone through once,
in the facts of the second section.
-/

/-- How the upper-case form of `c` comes about. -/
inductive UpperForm (c : Char) : List Char → Prop
  | ascii (h : c.toNat < 0x80) : UpperForm c [c.toUpper]
  | expanded {row : Nat × List Nat} (hrow : row ∈ expansions) (hc : row.1 = c.toNat) :
      UpperForm c (row.2.map Char.ofNat)
  | shifted {r : CaseRun} (hr : r ∈ caseRuns) (hfirst : r.first ≤ c.toNat)
      (hlast : c.toNat ≤ r.last) : UpperForm c [Char.ofNat (c.toNat + r.offset).toNat]
  | kept (h : 0x80 ≤ c.toNat) : UpperForm c [c]

theorem upperForm_upperOf (c : Char) : UpperForm c (upperOf c) := by
  unfold upperOf
  split
  case isTrue h => exact .ascii h
  case isFalse h =>
    split
    case h_1 cs hcs =>
      obtain ⟨before, after, hrows, -⟩ := List.lookup_eq_some_iff.1 hcs
      have hrow : (c.toNat, cs) ∈ expansions := by
        rw [hrows]
        exact List.mem_append_right _ List.mem_cons_self
      exact .expanded hrow rfl
    case h_2 =>
      split
      case h_1 r hr =>
        have hhas := List.find?_some hr
        simp only [CaseRun.has, Bool.and_eq_true, decide_eq_true_eq] at hhas
        exact .shifted (List.mem_of_find?_eq_some hr) hhas.1.1 hhas.1.2
      case h_2 => exact .kept (Nat.le_of_not_lt h)

/-! ### The tables -/

theorem expansions_ne_nil : ∀ row ∈ expansions, row.2 ≠ [] := by
  decide +kernel

/-- No expansion has a character below `A`, nor one behind the surrogates. -/
theorem toNat_mem_expansions : ∀ row ∈ expansions, ∀ n ∈ row.2, 0x41 ≤ n ∧ n < 0xd800 := by
  decide +kernel

theorem letters_of_expansions : ∀ row ∈ expansions, (∀ n ∈ row.2, n ≤ 0x5a) →
    ∃ r ∈ letters, r.1 ≤ row.1 ∧ row.1 ≤ r.2 := by
  decide +kernel

/-- No run of characters is moved below `A`, and none into the surrogates. -/
theorem toNat_mem_caseRuns : ∀ r ∈ caseRuns, 0x41 ≤ r.first + r.offset ∧
    (r.last + r.offset < 0xd800 ∨ 0xdfff < r.first + r.offset ∧ r.last + r.offset < 0x110000) := by
  decide +kernel

theorem letters_of_caseRuns : ∀ r ∈ caseRuns,
    0x5a < r.first + r.offset ∨ ∃ l ∈ letters, l.1 ≤ r.first ∧ r.last ≤ l.2 := by
  decide +kernel

theorem letters_ascii : ∀ r ∈ letters,
    0x80 ≤ r.1 ∨ (0x41 ≤ r.1 ∧ r.2 ≤ 0x5a) ∨ (0x61 ≤ r.1 ∧ r.2 ≤ 0x7a) := by
  decide +kernel

/-! ### Letters -/

/-- The ASCII characters among the letters. -/
theorem isAlpha_of_isLetter {c : Char} (h : isLetter c = true) (hc : c.toNat < 0x80) :
    c.isAlpha = true := by
  obtain ⟨r, hr, hfirst, hlast⟩ := CodePoints.has_iff.1 h
  have hrange := letters_ascii r hr
  show (c.isUpper || c.isLower) = true
  rw [Bool.or_eq_true, isUpper_iff, isLower_iff]
  omega

/-- The upper-case form of a letter has no character below `A`. -/
theorem toNat_mem_upperOf {c d : Char} (hc : isLetter c = true) (hd : d ∈ upperOf c) :
    0x41 ≤ d.toNat := by
  have hform := upperForm_upperOf c
  generalize upperOf c = cs at hd hform
  cases hform with
  | ascii h =>
    rw [List.mem_singleton.1 hd]
    exact (isUpper_iff.1 (isUpper_toUpper (isAlpha_of_isLetter hc h))).1
  | expanded hrow _ =>
    obtain ⟨n, hn, rfl⟩ := List.mem_map.1 hd
    obtain ⟨hlow, hhigh⟩ := toNat_mem_expansions _ hrow n hn
    rwa [toNat_ofNat (.inl hhigh)]
  | shifted hr hfirst hlast =>
    have hrange := toNat_mem_caseRuns _ hr
    rw [List.mem_singleton.1 hd, toNat_ofNat (by omega)]
    omega
  | kept h =>
    rw [List.mem_singleton.1 hd]
    omega

/-- What has an upper-case form of letters from `A` to `Z` is a letter. -/
theorem isLetter_of_upperOf {c : Char} (h : ∀ d ∈ upperOf c, d.isUpper = true) :
    isLetter c = true := by
  have hform := upperForm_upperOf c
  generalize upperOf c = cs at h hform
  cases hform with
  | ascii hc =>
    have hall : ∀ n < 0x80, (Char.ofNat n).toUpper.isUpper = true →
        (Char.ofNat n).isAlpha = true := by
      decide
    have halpha := forall_ascii (P := fun c => c.toUpper.isUpper = true → c.isAlpha = true) hall hc
    exact isLetter_of_isAlpha (halpha (h _ List.mem_cons_self))
  | @expanded row hrow hc =>
    -- all characters of the expansion are letters, so its row is one of the few ligatures
    have hlow : ∀ n ∈ row.2, n ≤ 0x5a := by
      intro n hn
      have hupper := isUpper_iff.1 (h _ (List.mem_map_of_mem hn))
      rw [toNat_ofNat (.inl (toNat_mem_expansions _ hrow n hn).2)] at hupper
      exact hupper.2
    obtain ⟨r, hr, hrange⟩ := letters_of_expansions _ hrow hlow
    rw [hc] at hrange
    exact CodePoints.has_iff.2 ⟨r, hr, hrange⟩
  | shifted hr hfirst hlast =>
    have hupper := isUpper_iff.1 (h _ List.mem_cons_self)
    have hvalid := toNat_mem_caseRuns _ hr
    rw [toNat_ofNat (by omega)] at hupper
    -- a run that is moved as low as `Z` lies in one run of letters
    rcases letters_of_caseRuns _ hr with hhigh | ⟨l, hl, hrange⟩
    · omega
    · exact CodePoints.has_iff.2 ⟨l, hl, by omega, by omega⟩
  | kept hc =>
    have hupper := isUpper_iff.1 (h c List.mem_cons_self)
    omega

theorem upperOf_ne_nil (c : Char) : upperOf c ≠ [] := by
  have hform := upperForm_upperOf c
  generalize upperOf c = cs at hform
  cases hform with
  | expanded hrow _ => simpa using expansions_ne_nil _ hrow
  | _ => exact List.cons_ne_nil _ _

/-! ### Texts -/

theorem mem_upper {s : String} {d : Char} :
    d ∈ (upper s).toList ↔ ∃ c ∈ s.toList, d ∈ upperOf c := by
  rw [upper, String.toList_ofList, List.mem_flatMap]

theorem toList_upper_eq_nil_iff {s : String} : (upper s).toList = [] ↔ s = "" := by
  rw [upper, String.toList_ofList, List.flatMap_eq_nil_iff, ← String.toList_eq_nil_iff,
    List.eq_nil_iff_forall_not_mem]
  exact forall₂_congr fun c _ => iff_false_intro (upperOf_ne_nil c)

theorem toNat_mem_upper {s : String} (h : ∀ c ∈ s.toList, isLetter c = true) {d : Char}
    (hd : d ∈ (upper s).toList) : 0x41 ≤ d.toNat := by
  obtain ⟨c, hc, hd⟩ := mem_upper.1 hd
  exact toNat_mem_upperOf (h c hc) hd

theorem isLetter_of_upper {s : String} (h : ∀ d ∈ (upper s).toList, d.isUpper = true) :
    ∀ c ∈ s.toList, isLetter c = true :=
  fun c hc => isLetter_of_upperOf fun _ hd => h _ (mem_upper.2 ⟨c, hc, hd⟩)

end Worksheet.Text
