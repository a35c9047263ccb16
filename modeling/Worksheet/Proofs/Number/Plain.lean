import Mathlib.Tactic.Ring
import Worksheet.Value

namespace Worksheet

/-!
# Numbers up to the sign of zero

* `Binary64.plain`, `Number.plain`, `Value.plain` — a number or a value without the sign of a zero
  and without the origin of a not-a-number;
* `Value.Alike` — two values that differ at most in these two; a whole number and a double are
  never alike;
* `Number.combine_plain` — arithmetic on alike operands gives alike results, or fails alike;
* `Value.alike_of_agrees` — values that agree by number and are of one form are alike;
* `Value.isNan`, `Value.agrees_of_alike` — and alike values agree, unless they are not-a-numbers.

The first of the last two rests on `unitsOfRank_lt`: doubles of different rank are different numbers.
-/

namespace Number

/-! ### The value of a rank -/

theorem binade_pos : 0 < binade := by decide

/-- From the second binade on, the quotient by `binade` fixes the power of two below a number. -/
theorem unitsOfRank_bounds {rank : Nat} (h : binade ≤ rank) :
    binade * 2 ^ (rank / binade - 1) ≤ unitsOfRank rank ∧
      unitsOfRank rank < binade * 2 ^ (rank / binade) := by
  have hquot : 0 < rank / binade := Nat.div_pos h binade_pos
  have hmod : rank % binade < binade := Nat.mod_lt rank binade_pos
  have hpow : 2 ^ (rank / binade) = 2 * 2 ^ (rank / binade - 1) := by
    rw [Nat.mul_comm, ← Nat.pow_succ, Nat.succ_eq_add_one, Nat.sub_add_cancel hquot]
  rw [unitsOfRank, if_neg (by omega), Nat.shiftLeft_eq]
  constructor
  · exact Nat.mul_le_mul_right _ (by omega)
  · calc (binade + rank % binade) * 2 ^ (rank / binade - 1)
        < (2 * binade) * 2 ^ (rank / binade - 1) :=
          Nat.mul_lt_mul_of_pos_right (by omega) (Nat.two_pow_pos _)
      _ = binade * 2 ^ (rank / binade) := by rw [hpow]; ring

/-- A number of greater rank is greater. -/
theorem unitsOfRank_lt {a b : Nat} (h : a < b) : unitsOfRank a < unitsOfRank b := by
  by_cases hb : b < binade
  · rw [unitsOfRank, unitsOfRank, if_pos hb, if_pos (by omega)]
    exact h
  have hlow := (unitsOfRank_bounds (by omega : binade ≤ b)).1
  by_cases ha : a < binade
  · have hstep : binade ≤ binade * 2 ^ (b / binade - 1) :=
      Nat.le_mul_of_pos_right _ (Nat.two_pow_pos _)
    rw [unitsOfRank, if_pos ha]
    omega
  have hhigh := (unitsOfRank_bounds (by omega : binade ≤ a)).2
  rcases Nat.lt_or_eq_of_le (Nat.div_le_div_right (c := binade) (Nat.le_of_lt h)) with hlt | heq
  · -- `b` lies in a later binade
    have hpow : 2 ^ (a / binade) ≤ 2 ^ (b / binade - 1) :=
      Nat.pow_le_pow_right (by omega) (by omega)
    have := Nat.mul_le_mul_left binade hpow
    omega
  · -- both lie in one binade, where the step is constant
    have hmod : a % binade < b % binade := by
      have := Nat.div_add_mod a binade
      have := Nat.div_add_mod b binade
      rw [heq] at *
      omega
    rw [unitsOfRank, unitsOfRank, if_neg ha, if_neg hb, heq, Nat.shiftLeft_eq, Nat.shiftLeft_eq]
    exact Nat.mul_lt_mul_of_pos_right (by omega) (Nat.two_pow_pos _)

theorem unitsOfRank_injective {a b : Nat} (h : unitsOfRank a = unitsOfRank b) : a = b := by
  rcases Nat.lt_trichotomy a b with hlt | heq | hgt
  · exact absurd h (Nat.ne_of_lt (unitsOfRank_lt hlt))
  · exact heq
  · exact absurd h (Nat.ne_of_gt (unitsOfRank_lt hgt))

@[simp] theorem unitsOfRank_zero : unitsOfRank 0 = 0 := by
  rw [unitsOfRank, if_pos binade_pos]

theorem unitsOfRank_eq_zero {rank : Nat} : unitsOfRank rank = 0 ↔ rank = 0 :=
  ⟨fun h => unitsOfRank_injective (h.trans unitsOfRank_zero.symm), fun h => by rw [h]; simp⟩

/-- Nothing rounds to nothing. -/
@[simp] theorem roundSignificant_zero (den : Nat) : roundSignificant 0 den = 0 := by
  have hround : roundHalfEven 0 den = 0 := by
    rw [roundHalfEven]
    simp only [Nat.zero_div, Nat.zero_mod, Nat.mul_zero]
    split
    · rfl
    · split <;> omega
  simp [roundSignificant, hround]

namespace Binary64

/-! ### Doubles -/

/-- The number without the sign of a zero and without the origin of a not-a-number. -/
def plain : Binary64 → Binary64
  | .nan _ => .nan none
  | .infinite s => .infinite s
  | .finite s r => if r.val = 0 then .finite false r else .finite s r

@[simp] theorem plain_nan (o : Option Origin) : (nan o).plain = nan none := rfl

@[simp] theorem plain_infinite (s : Bool) : (infinite s).plain = infinite s := rfl

theorem plain_finite_zero {r : Fin rankBound} (h : r.val = 0) (s : Bool) :
    (finite s r).plain = finite false r := if_pos h

theorem plain_finite {r : Fin rankBound} (h : r.val ≠ 0) (s : Bool) :
    (finite s r).plain = finite s r := if_neg h

@[simp] theorem plain_plain (x : Binary64) : x.plain.plain = x.plain := by
  rcases x with _ | s | ⟨s, r⟩
  case finite =>
    by_cases hr : r.val = 0
    · rw [plain_finite_zero hr, plain_finite_zero hr]
    · rw [plain_finite hr, plain_finite hr]
  all_goals rfl

@[simp] theorem plain_withOrigin (o : Origin) (x : Binary64) :
    (x.withOrigin o).plain = x.plain := by
  rcases x with (_ | _) | _ | _ <;> rfl

/-- What is left of a finite number: its rank, and its sign unless it is a zero. -/
theorem exists_plain_finite (s : Bool) (r : Fin rankBound) :
    ∃ t, (finite s r).plain = finite t r ∧ (r.val ≠ 0 → t = s) := by
  by_cases hr : r.val = 0
  · exact ⟨false, plain_finite_zero hr s, fun h => absurd hr h⟩
  · exact ⟨s, plain_finite hr s, fun _ => rfl⟩

@[simp] theorem isZero_plain (x : Binary64) : x.plain.isZero = x.isZero := by
  rcases x with _ | s | ⟨s, r⟩
  case finite => obtain ⟨t, ht, -⟩ := exists_plain_finite s r; rw [ht]; rfl
  all_goals rfl

theorem units_congr {s t : Bool} {r : Nat} (h : r ≠ 0 → t = s) : units t r = units s r := by
  by_cases hr : r = 0
  · simp [hr, units]
  · rw [h hr]

theorem rankBound_pos : 0 < rankBound := Nat.mul_pos (by omega) binade_pos

@[simp] theorem plain_ofRank_zero (s : Bool) : (ofRank s 0).plain = zero false := by
  rw [ofRank, dif_pos rankBound_pos, plain_finite_zero rfl]
  rfl

theorem plain_neg (x : Binary64) : (neg x.plain).plain = (neg x).plain := by
  rcases x with _ | s | ⟨s, r⟩
  case finite =>
    by_cases hr : r.val = 0
    · rw [plain_finite_zero hr, neg, neg, plain_finite_zero hr, plain_finite_zero hr]
    · rw [plain_finite hr]
  all_goals rfl

theorem plain_add (x y : Binary64) : (add x.plain y.plain).plain = (add x y).plain := by
  rcases x with _ | s | ⟨s, a⟩ <;> rcases y with _ | t | ⟨t, b⟩
  case finite.finite =>
    obtain ⟨s', hs', hs⟩ := exists_plain_finite s a
    obtain ⟨t', ht', ht⟩ := exists_plain_finite t b
    rw [hs', ht', add, add, units_congr hs, units_congr ht]
    by_cases htotal : units s a + units t b = 0
    · -- only a sum of zero looks at the signs of its operands
      simp only [htotal, Int.natAbs_zero, roundSignificant_zero, plain_ofRank_zero]
    · simp only [htotal, if_false]
  case finite.infinite => obtain ⟨s', hs', -⟩ := exists_plain_finite s a; rw [hs']; rfl
  case infinite.finite => obtain ⟨t', ht', -⟩ := exists_plain_finite t b; rw [ht']; rfl
  case finite.nan => obtain ⟨s', hs', -⟩ := exists_plain_finite s a; rw [hs']; rfl
  all_goals rfl

theorem plain_sub (x y : Binary64) : (sub x.plain y.plain).plain = (sub x y).plain := by
  rw [sub, sub, ← plain_add x.plain, plain_neg, plain_plain, plain_add]

theorem plain_mul (x y : Binary64) : (mul x.plain y.plain).plain = (mul x y).plain := by
  rcases x with _ | s | ⟨s, a⟩ <;> rcases y with _ | t | ⟨t, b⟩
  case finite.finite =>
    obtain ⟨s', hs', hs⟩ := exists_plain_finite s a
    obtain ⟨t', ht', ht⟩ := exists_plain_finite t b
    rw [hs', ht', mul, mul]
    -- a product with a zero is a zero, and the other signs are kept
    by_cases ha : a.val = 0
    · simp only [ha, unitsOfRank_zero, Nat.zero_mul, roundSignificant_zero, plain_ofRank_zero]
    by_cases hb : b.val = 0
    · simp only [hb, unitsOfRank_zero, Nat.mul_zero, roundSignificant_zero, plain_ofRank_zero]
    rw [hs ha, ht hb]
  case finite.infinite =>
    -- a zero times an infinity is no number, whatever the signs
    by_cases ha : a.val = 0
    · rw [plain_finite_zero ha, plain_infinite, mul, mul, if_pos ha, if_pos ha]
    · rw [plain_finite ha, plain_infinite]
  case infinite.finite =>
    by_cases hb : b.val = 0
    · rw [plain_finite_zero hb, plain_infinite, mul, mul, if_pos hb, if_pos hb]
    · rw [plain_finite hb, plain_infinite]
  case finite.nan => obtain ⟨s', hs', -⟩ := exists_plain_finite s a; rw [hs']; rfl
  all_goals rfl

theorem plain_div_left (x y : Binary64) : (div x.plain y).plain = (div x y).plain := by
  rcases x with _ | s | ⟨s, a⟩ <;> rcases y with _ | t | ⟨t, b⟩
  case finite.finite =>
    by_cases ha : a.val = 0
    · rw [plain_finite_zero ha, div, div]
      by_cases hb : b.val = 0
      · rw [if_pos hb, if_pos hb, if_pos ha, if_pos ha]
      · -- a quotient of a zero rounds to a zero, whose sign `plain` forgets
        rw [if_neg hb, if_neg hb, ofQuotient, ofQuotient, ha]
        simp only [unitsOfRank_zero, Nat.zero_mul, roundSignificant_zero, plain_ofRank_zero]
    · rw [plain_finite ha]
  case finite.infinite =>
    obtain ⟨s', hs', -⟩ := exists_plain_finite s a
    rw [hs', div, div, zero, zero, plain_finite_zero rfl, plain_finite_zero rfl]
  case finite.nan => obtain ⟨s', hs', -⟩ := exists_plain_finite s a; rw [hs']; rfl
  all_goals rfl

/-- The sign of a zero divisor would show in the quotient, so the divisor must not be a zero. -/
theorem plain_div_right (x : Binary64) {y : Binary64} (hy : y.isZero = false) :
    (div x y.plain).plain = (div x y).plain := by
  rcases y with _ | t | ⟨t, b⟩
  case finite =>
    have hb : b.val ≠ 0 := by simpa [isZero] using hy
    rw [plain_finite hb]
  all_goals cases x <;> rfl

/-- Doubles that agree by number differ at most in the sign of a zero. -/
theorem plain_eq_of_agrees {x y : Binary64} (h : x.agrees y = true) : x.plain = y.plain := by
  rcases x with _ | s | ⟨s, a⟩ <;> rcases y with _ | t | ⟨t, b⟩
  case infinite.infinite => rw [eq_of_beq (show (s == t) = true from h)]
  case finite.finite =>
    have hunits : units s a = units t b := eq_of_beq (show (units s a == units t b) = true from h)
    have habs : unitsOfRank a = unitsOfRank b := by
      have := congrArg Int.natAbs hunits
      cases s <;> cases t <;> simpa [units] using this
    obtain rfl : a = b := Fin.ext (unitsOfRank_injective habs)
    -- the units of a number that is no zero show its sign
    by_cases ha : a.val = 0
    · rw [plain_finite_zero ha, plain_finite_zero ha]
    · have hpos : unitsOfRank a ≠ 0 := fun h0 => ha (unitsOfRank_eq_zero.1 h0)
      have hst : s = t := by
        cases s <;> cases t <;>
          simp only [units, if_true, Bool.false_eq_true, if_false] at hunits ⊢ <;> omega
      rw [hst]
  all_goals exact absurd h (by simp [agrees])

/-- Doubles that differ at most in the sign of a zero agree by number, unless there is none. -/
theorem agrees_of_plain_eq {x y : Binary64} (h : x.plain = y.plain) (hx : ∀ o, x ≠ nan o) :
    x.agrees y = true := by
  rcases x with o | s | ⟨s, a⟩
  case nan => exact absurd rfl (hx o)
  case infinite =>
    rcases y with _ | t | ⟨t, b⟩
    case infinite =>
      obtain rfl : s = t := infinite.inj h
      exact beq_self_eq_true s
    case finite => obtain ⟨t', ht', -⟩ := exists_plain_finite t b; rw [ht'] at h; cases h
    case nan => cases h
  case finite =>
    obtain ⟨s', hs', hs⟩ := exists_plain_finite s a
    rw [hs'] at h
    rcases y with _ | t | ⟨t, b⟩
    case finite =>
      obtain ⟨t', ht', ht⟩ := exists_plain_finite t b
      rw [ht'] at h
      obtain ⟨rfl, rfl⟩ := finite.inj h
      show (units s a == units t a) = true
      rw [← units_congr hs, ← units_congr ht]
      exact beq_self_eq_true _
    all_goals cases h

end Binary64

/-! ### Numbers -/

/-- The number without the sign of a zero and without the origin of a not-a-number. -/
def plain : Number → Number
  | .int n => .int n
  | .float x => .float x.plain

@[simp] theorem plain_int (n : Int) : (int n).plain = int n := rfl

@[simp] theorem plain_plain (n : Number) : n.plain.plain = n.plain := by
  cases n <;> simp [plain]

@[simp] theorem plain_withOrigin (o : Origin) (n : Number) : (n.withOrigin o).plain = n.plain := by
  cases n <;> simp [plain, withOrigin]

@[simp] theorem isZero_plain (n : Number) : n.plain.isZero = n.isZero := by
  cases n <;> simp [plain, isZero]

/-- Where the sign of a zero does not matter on either side, it does not matter on one side. -/
theorem plain_left_right {f : Binary64 → Binary64 → Binary64}
    (hf : ∀ x y, (f x.plain y.plain).plain = (f x y).plain) (x y : Binary64) :
    (f x.plain y).plain = (f x y).plain ∧ (f x y.plain).plain = (f x y).plain := by
  constructor
  · rw [← hf x.plain, Binary64.plain_plain, hf]
  · rw [← hf x, Binary64.plain_plain, hf]

theorem onBinary64_plain_left (op : Operation) (x y : Binary64) :
    (op.onBinary64 x.plain y).plain = (op.onBinary64 x y).plain := by
  cases op with
  | add => exact (plain_left_right Binary64.plain_add x y).1
  | sub => exact (plain_left_right Binary64.plain_sub x y).1
  | mul => exact (plain_left_right Binary64.plain_mul x y).1
  | div => exact Binary64.plain_div_left x y

theorem onBinary64_plain_right (op : Operation) (x : Binary64) {y : Binary64}
    (hdiv : op = .div → y.isZero = false) :
    (op.onBinary64 x y.plain).plain = (op.onBinary64 x y).plain := by
  cases op with
  | add => exact (plain_left_right Binary64.plain_add x y).2
  | sub => exact (plain_left_right Binary64.plain_sub x y).2
  | mul => exact (plain_left_right Binary64.plain_mul x y).2
  | div => exact Binary64.plain_div_right x (hdiv rfl)

/-- The operation of `combine` where an operand is a double: both are converted, the left one
first. -/
def combineDoubles (op : Operation) (x y : Except Obstacle Binary64) : Except Obstacle Number := do
  return .float (op.onBinary64 (← x) (← y))

theorem combineDoubles_plain_left (op : Operation) (x : Binary64) (y : Except Obstacle Binary64) :
    (combineDoubles op (.ok x.plain) y).map plain = (combineDoubles op (.ok x) y).map plain := by
  cases y with
  | error e => rfl
  | ok y => exact congrArg (Except.ok ∘ Number.float) (onBinary64_plain_left op x y)

theorem combineDoubles_plain_right (op : Operation) (x : Except Obstacle Binary64) {y : Binary64}
    (hdiv : op = .div → y.isZero = false) :
    (combineDoubles op x (.ok y.plain)).map plain = (combineDoubles op x (.ok y)).map plain := by
  cases x with
  | error e => rfl
  | ok x => exact congrArg (Except.ok ∘ Number.float) (onBinary64_plain_right op x hdiv)

/-- Arithmetic on alike operands gives alike results, or fails alike. -/
theorem combine_plain (op : Operation) (a b : Number) :
    (combine op a.plain b.plain).map plain = (combine op a b).map plain := by
  unfold combine
  rw [isZero_plain]
  by_cases hzero : op = .div ∧ b.isZero
  · rw [if_pos hzero, if_pos hzero]
  have hdiv : op = .div → b.isZero = false := by simpa using hzero
  rw [if_neg hzero, if_neg hzero]
  -- a whole number has no sign to lose, and beside a double both sides convert the same one
  cases a with
  | int m =>
    cases b with
    | int n => rfl
    | float y => exact combineDoubles_plain_right op (int m).toBinary64 hdiv
  | float x =>
    cases b with
    | int n => exact combineDoubles_plain_left op x (int n).toBinary64
    | float y =>
      exact (combineDoubles_plain_left op x (.ok y.plain)).trans
        (combineDoubles_plain_right op (.ok x) hdiv)

end Number

/-! ### Values -/

namespace Value

/-- The value without the sign of a zero and without the origin of a not-a-number. -/
def plain : Value → Value
  | .number n => .number n.plain
  | v => v

/-- Equality up to the sign of a zero, where all not-a-numbers are alike. -/
def Alike (v w : Value) : Prop := v.plain = w.plain

instance (v w : Value) : Decidable (v.Alike w) := inferInstanceAs (Decidable (v.plain = w.plain))

@[simp] theorem plain_number (n : Number) : (number n).plain = number n.plain := rfl

@[simp] theorem plain_text (s : String) : (text s).plain = text s := rfl

@[simp] theorem plain_plain (v : Value) : v.plain.plain = v.plain := by
  cases v <;> simp [plain]

@[simp] theorem plain_withOrigin (o : Number.Origin) (v : Value) :
    (v.withOrigin o).plain = v.plain := by
  cases v <;> simp [plain, withOrigin]

/-- A text is alike only to itself. -/
theorem plain_eq_text {v : Value} {s : String} : v.plain = .text s ↔ v = .text s := by
  cases v <;> simp [plain]

/-- Whether a value is a given text does not depend on the sign of a zero. -/
theorem agrees_text_plain (v : Value) (s : String) :
    v.plain.agrees (.text s) = v.agrees (.text s) := by
  cases v <;> rfl

/-- Values that agree by number and are of one form are alike. -/
theorem alike_of_agrees {v w : Value} (hagree : v.agrees w = true) (hform : v.sameForm w = true) :
    v.Alike w := by
  cases v <;> cases w
  case number.number m n =>
    -- the form tells a whole number from a double of the same value
    cases m <;> cases n
    case int.int => rw [eq_of_beq (show _ == _ from hagree)]; rfl
    case float.float =>
      exact congrArg (number ∘ Number.float) (Number.Binary64.plain_eq_of_agrees hagree)
    all_goals exact absurd hform (by simp [sameForm])
  case text.text => rw [eq_of_beq (show _ == _ from hagree)]; rfl
  case error.error => rw [eq_of_beq (show _ == _ from hagree)]; rfl
  case truth.truth => rw [eq_of_beq (show _ == _ from hagree)]; rfl
  case nothing.nothing => rfl
  all_goals exact absurd hform (by simp [sameForm])

/-! ### Not-a-numbers -/

/-- Whether the value is a not-a-number. -/
def isNan : Value → Bool
  | .number (.float (.nan _)) => true
  | _ => false

/-- Alike values agree by number and are of one form, unless they are not-a-numbers. -/
theorem agrees_of_alike {v w : Value} (h : v.Alike w) (hv : v.isNan = false) :
    v.agrees w = true ∧ v.sameForm w = true := by
  cases v <;> cases w
  case number.number m n =>
    have h : m.plain = n.plain := number.inj h
    cases m <;> cases n
    case int.int => cases h; exact ⟨beq_self_eq_true _, rfl⟩
    case float.float x y =>
      refine ⟨Number.Binary64.agrees_of_plain_eq (Number.float.inj h) ?_, rfl⟩
      rintro o rfl
      cases hv
    all_goals cases h
  case text.text | error.error | truth.truth =>
    cases h
    exact ⟨beq_self_eq_true _, rfl⟩
  case nothing.nothing => exact ⟨rfl, rfl⟩
  all_goals cases h

theorem agrees_self {v : Value} (hv : v.isNan = false) : v.agrees v = true :=
  (agrees_of_alike rfl hv).1

/-- Alike values are not-a-numbers both or neither. -/
theorem Alike.isNan_eq {v w : Value} (h : v.Alike w) : v.isNan = w.isNan := by
  have hplain : ∀ u : Value, u.plain.isNan = u.isNan := by
    intro u
    rcases u with (_ | _ | _ | ⟨s, r⟩) | _ | _ | _ | _
    case number.float.finite =>
      obtain ⟨t, ht, -⟩ := Number.Binary64.exists_plain_finite s r
      show (number (.float (Number.Binary64.finite s r).plain)).isNan = false
      rw [ht]
      rfl
    all_goals rfl
  rw [← hplain v, ← hplain w, show v.plain = w.plain from h]

theorem isNan_iff {v : Value} : v.isNan = true ↔ ∃ o, v = .number (.float (.nan o)) := by
  constructor
  · intro h
    rcases v with (_ | o | _ | _) | _ | _ | _ | _
    case number.float.nan => exact ⟨o, rfl⟩
    all_goals cases h
  · rintro ⟨o, rfl⟩
    rfl

/-- Not-a-numbers differ in their origin at most. -/
theorem withoutOrigin_eq_of_isNan {v w : Value} (hv : v.isNan = true) (hw : w.isNan = true) :
    v.withoutOrigin = w.withoutOrigin := by
  obtain ⟨o, rfl⟩ := isNan_iff.1 hv
  obtain ⟨o', rfl⟩ := isNan_iff.1 hw
  rfl

end Value

end Worksheet
