import Mathlib
import Scoreboard.Proofs.ShortestDecimals
import Scoreboard.Proofs.ShownTexts

/-!
# Numbers that count as nothing

Whether a number counts as nothing is told from the double it stands for.  That is a zero for all
numbers up to half of the least positive double, and `nan` for whole numbers and fractions beyond the
doubles, so that these count as nothing as well.  Decimal numbers beyond the doubles stand for an
infinity, and do not.
-/

namespace Scoreboard

open Display

/-! ## Rounding to zero -/

/-- Half of the least positive double, up to which numbers are rounded to zero. -/
def vanishingLimit : Rat := 1 / 2 ^ (unitDepth + 1)

theorem vanishingLimit_pos : 0 < vanishingLimit := by
  unfold vanishingLimit
  positivity

theorem le_vanishingLimit_iff {num den : Nat} (hden : 0 < den) :
    (num / den : Rat) ≤ vanishingLimit ↔ 2 * (num * unitsPerOne) ≤ den := by
  have hden' : (0 : Rat) < den := by exact_mod_cast hden
  have hpower : (2 : Rat) ^ (unitDepth + 1) = (2 * unitsPerOne : Nat) := by
    rw [← two_pow_unitDepth, Nat.cast_mul, Nat.cast_pow, Nat.cast_ofNat, pow_succ']
  have hlimit : (0 : Rat) < (2 * unitsPerOne : Nat) := by
    exact_mod_cast Nat.mul_pos Nat.two_pos unitsPerOne_pos
  rw [vanishingLimit, hpower, div_le_div_iff₀ hden' hlimit, one_mul, Nat.mul_left_comm]
  exact_mod_cast Iff.rfl

namespace Binary64

theorem isZero_ofRatio_iff (negative : Bool) (num : Nat) {den : Nat} (hden : 0 < den) :
    (ofRatio negative num den).isZero = true ↔ (num / den : Rat) ≤ vanishingLimit := by
  rw [le_vanishingLimit_iff hden, ← Grid.double.round_eq_zero_iff rfl hden, ofRatio, nearest]
  cases hnearest : Magnitude.nearest? (num * unitsPerOne) den with
  | some magnitude => simp [isZero, units_of_nearest? hnearest]
  | none =>
      have hover := Magnitude.nearest?_eq_none_iff.mp hnearest
      exact iff_of_false Bool.false_ne_true (overflow_pos.trans_le hover).ne'

theorem IsRounding.isZero_iff {negative : Bool} {q : Rat} {x : Binary64} (hq : 0 ≤ q)
    (h : IsRounding negative q x) : x.isZero = true ↔ q ≤ vanishingLimit := by
  have hquotient : q = q.num.natAbs / q.den := by
    rw [natAbs_num_eq, abs_of_nonneg hq, mul_div_cancel_right₀ _ (by exact_mod_cast q.den_ne_zero)]
  rw [hquotient] at h ⊢
  rw [← (isRounding_iff q.den_pos).mp h]
  exact isZero_ofRatio_iff negative q.num.natAbs q.den_pos

theorem IsRounding.isNaN_eq {negative : Bool} {q : Rat} {x : Binary64}
    (h : IsRounding negative q x) : x.isNaN = false := by
  cases h <;> rfl

end Binary64

/-! ## Plain numbers -/

/-- Whole numbers, doubles, decimal numbers and fractions. -/
inductive PlainNumber where
  | whole (n : Int)
  | double (x : Binary64)
  | decimal (d : Decimal)
  | fraction (q : Rat)

namespace PlainNumber

def value : PlainNumber → Value
  | whole n => .int n
  | double x => .float x
  | decimal d => .decimal d
  | fraction q => .fraction q

/-- The exact number, unless it is infinite or `NaN`. -/
def exactValue? : PlainNumber → Option Rat
  | whole n => some n
  | double x => x.toRat?
  | decimal (.finite negative coefficient exponent) =>
      some (Literal.mk negative coefficient exponent).value
  | decimal _ => none
  | fraction q => some q

def isNaN : PlainNumber → Bool
  | double x => x.isNaN
  | decimal (.nan _ _ _) => true
  | _ => false

/-- Beyond the doubles, numbers of these kinds stand for no double, not even for an infinite one. -/
def isRational : PlainNumber → Bool
  | whole _ | fraction _ => true
  | double _ | decimal _ => false

/-- The exact number is rounded to zero, or to no double. -/
def Vanishes (number : PlainNumber) (q : Rat) : Prop :=
  |q| ≤ vanishingLimit ∨ number.isRational = true ∧ doubleLimit ≤ |q|

/-- The number is `NaN`, or is taken for a zero or for `NaN`. -/
def CountsAsNothing (number : PlainNumber) : Prop :=
  number.isNaN = true ∨ ∃ q, number.exactValue? = some q ∧ number.Vanishes q

variable {number : PlainNumber} {q : Rat}

theorem isNaN_of_exactValue? (h : number.exactValue? = some q) : number.isNaN = false := by
  cases number with
  | whole n => rfl
  | double x =>
      cases x with
      | nan => cases h
      | infinite negative => rfl
      | finite negative magnitude => rfl
  | decimal d =>
      cases d with
      | finite negative coefficient exponent => rfl
      | infinite negative => rfl
      | nan signaling negative payload => cases h
  | fraction q => rfl

theorem countsAsNothing_iff (h : number.exactValue? = some q) :
    number.CountsAsNothing ↔ number.Vanishes q := by
  constructor
  · rintro (hnan | ⟨r, hr, hvanishes⟩)
    · rw [isNaN_of_exactValue? h] at hnan
      cases hnan
    · cases h.symm.trans hr
      exact hvanishes
  · exact fun hvanishes => .inr ⟨q, h, hvanishes⟩

theorem vanishes_iff (h : number.isRational = false) : number.Vanishes q ↔ |q| ≤ vanishingLimit := by
  rw [Vanishes, h]
  exact or_iff_left fun hbeyond => Bool.false_ne_true hbeyond.1

/-! ## The doubles of plain numbers -/

theorem isNaN_ofRat?_iff : ((Binary64.ofRat? q).getD .nan).isNaN = true ↔ doubleLimit ≤ |q| := by
  rw [← Binary64.ofRat?_eq_none_iff]
  rcases Binary64.ofRat?_cases q with ⟨magnitude, hsome, -⟩ | ⟨hnone, -⟩
  · rw [hsome]
    exact iff_of_false Bool.false_ne_true nofun
  · rw [hnone]
    exact iff_of_true rfl rfl

theorem isZero_ofRat?_iff :
    ((Binary64.ofRat? q).getD .nan).isZero = true ↔ |q| ≤ vanishingLimit := by
  rcases Binary64.ofRat?_cases q with ⟨magnitude, hsome, hround⟩ | ⟨hnone, hround⟩
  · rw [hsome, Option.getD_some, hround.isZero_iff (abs_nonneg q)]
  · rw [hnone, ← hround.isZero_iff (abs_nonneg q)]
    rfl

/-- The double that the number stands for. -/
def standsFor (number : PlainNumber) : Binary64 := number.value.nearestDouble?.getD .nan

/-- Whole numbers and fractions are rounded to a double, or to none. -/
theorem isZero_or_isNaN_iff_of_ofRat? (h : number.isRational = true)
    (hexact : number.exactValue? = some q)
    (hdouble : number.standsFor = (Binary64.ofRat? q).getD .nan) :
    number.standsFor.isZero = true ∨ number.standsFor.isNaN = true ↔ number.CountsAsNothing := by
  rw [countsAsNothing_iff hexact, hdouble, isZero_ofRat?_iff, isNaN_ofRat?_iff, Vanishes, h]
  exact or_congr_right (and_iff_right rfl).symm

theorem isZero_or_isNaN_iff_of_isRounding (h : number.isRational = false)
    (hexact : number.exactValue? = some q) {negative : Bool}
    (hround : Binary64.IsRounding negative |q| number.standsFor) :
    number.standsFor.isZero = true ∨ number.standsFor.isNaN = true ↔ number.CountsAsNothing := by
  rw [countsAsNothing_iff hexact, vanishes_iff h, hround.isZero_iff (abs_nonneg q),
    hround.isNaN_eq]
  exact or_iff_left Bool.false_ne_true

theorem isZero_or_isNaN_iff_of_infinite {negative : Bool} (h : number.standsFor = .infinite negative)
    (hnumber : number.isNaN = false) (hexact : number.exactValue? = none) :
    number.standsFor.isZero = true ∨ number.standsFor.isNaN = true ↔ number.CountsAsNothing := by
  rw [h, CountsAsNothing, hnumber, hexact]
  refine iff_of_false (by simp [Binary64.isZero, Binary64.isNaN]) ?_
  simp

/-- A number is taken for nothing if the double that it stands for is zero or `nan`. -/
theorem isZero_or_isNaN_iff (number : PlainNumber) :
    number.standsFor.isZero = true ∨ number.standsFor.isNaN = true ↔ number.CountsAsNothing := by
  cases number with
  | whole n =>
      apply isZero_or_isNaN_iff_of_ofRat? rfl rfl
      rw [Binary64.ofRat?_intCast]
      rfl
  | double x =>
      cases x with
      | nan => exact iff_of_true (.inr rfl) (.inl rfl)
      | infinite negative => exact isZero_or_isNaN_iff_of_infinite rfl rfl rfl
      | finite negative magnitude =>
          apply isZero_or_isNaN_iff_of_isRounding rfl rfl
          rw [Binary64.abs_exactValue]
          exact Magnitude.isRounding_finite_iff.mpr magnitude.readsBack_value
  | decimal d =>
      cases d with
      | finite negative coefficient exponent =>
          apply isZero_or_isNaN_iff_of_isRounding rfl rfl
          rw [Literal.abs_value_eq_zpow]
          exact Binary64.isRounding_scientific_iff.mpr rfl
      | infinite negative => exact isZero_or_isNaN_iff_of_infinite rfl rfl rfl
      | nan signaling negative payload =>
          refine iff_of_true (.inr ?_) (.inl rfl)
          cases signaling <;> rfl
  | fraction q => exact isZero_or_isNaN_iff_of_ofRat? rfl rfl rfl

/-! ## Numbers that are shown as absent -/

theorem exists_isFalsy (number : PlainNumber) :
    ∃ falsy, number.value.isFalsy.outcome = .ok falsy ∧ (falsy = true ↔ number.CountsAsNothing) := by
  have hnumeric : number.value.isNumeric = true := by cases number <;> rfl
  refine ⟨_, outcome_isFalsy_of_numeric hnumeric, ?_⟩
  rw [Bool.or_eq_true]
  exact number.isZero_or_isNaN_iff

theorem exists_percent (number : PlainNumber) :
    ∃ text, (percent number.value).outcome = .ok text ∧
      (text = placeholder ↔ number.CountsAsNothing) := by
  have hclosed : number.value.isOpen = false := by cases number <;> rfl
  obtain ⟨text, htext⟩ : ∃ text, (percent number.value).outcome = .ok text :=
    exists_ok_iff.mpr fun _ hfault =>
      Value.not_refused_of_closed hclosed (number.value.percent_eq_error_iff.mp hfault)
  obtain ⟨falsy, hfalsy, hnothing⟩ := number.exists_isFalsy
  refine ⟨text, htext, ?_⟩
  rw [(percent_shape htext).1, hfalsy, Except.ok.injEq, hnothing]

/-- Zero and `NaN`. -/
def IsNothing (number : PlainNumber) : Prop := number.isNaN = true ∨ number.exactValue? = some 0

/-- The number counts as nothing, and is shown as absent, exactly if it is zero or `NaN`. -/
structure CountsProperly (number : PlainNumber) : Prop where
  falsy : ∃ falsy, number.value.isFalsy.outcome = .ok falsy ∧ (falsy = true ↔ number.IsNothing)
  shown : ∃ text, (percent number.value).outcome = .ok text ∧
    (text = placeholder ↔ number.IsNothing)

theorem countsProperly_iff_nothing (number : PlainNumber) :
    number.CountsProperly ↔ (number.CountsAsNothing ↔ number.IsNothing) := by
  obtain ⟨falsy, hfalsy, hcounted⟩ := number.exists_isFalsy
  obtain ⟨text, htext, hshown⟩ := number.exists_percent
  constructor
  · rintro ⟨⟨other, hother, hnothing⟩, -⟩
    cases hfalsy.symm.trans hother
    exact hcounted.symm.trans hnothing
  · intro h
    exact ⟨⟨falsy, hfalsy, hcounted.trans h⟩, text, htext, hshown.trans h⟩

/--
The numbers that are taken for nothing wrongly are tiny, or whole numbers and fractions beyond the
doubles.
-/
theorem countsProperly_iff (number : PlainNumber) :
    number.CountsProperly ↔ ∀ q, number.exactValue? = some q → q ≠ 0 →
      vanishingLimit < |q| ∧ (number.isRational = true → |q| < doubleLimit) := by
  have hkept (q : Rat) : ¬ number.Vanishes q ↔
      vanishingLimit < |q| ∧ (number.isRational = true → |q| < doubleLimit) := by
    rw [Vanishes, not_or, not_le, not_and, not_le]
  rw [countsProperly_iff_nothing]
  simp only [← hkept]
  constructor
  · intro h q hexact hne
    rw [← countsAsNothing_iff hexact, h, IsNothing, isNaN_of_exactValue? hexact, hexact]
    simpa using hne
  · intro h
    refine or_congr_right ⟨?_, ?_⟩
    · rintro ⟨q, hexact, hvanishes⟩
      by_contra hne
      exact h q hexact (fun hzero => hne (hzero ▸ hexact)) hvanishes
    · intro hexact
      exact ⟨0, hexact, .inl (by simpa using vanishingLimit_pos.le)⟩

theorem not_countsProperly (h : number.value.isFalsy.outcome = .ok true)
    (hexact : number.exactValue? = some q) (hne : q ≠ 0) : ¬ number.CountsProperly := by
  rintro ⟨⟨falsy, hfalsy, hnothing⟩, -⟩
  cases h.symm.trans hfalsy
  rcases hnothing.mp rfl with hnan | hzero
  · rw [isNaN_of_exactValue? hexact] at hnan
    cases hnan
  · exact hne (Option.some.inj (hexact.symm.trans hzero))

/-- `10 ^ 400` is beyond the doubles, and a decimal number and a fraction of `10 ^ -400` are tiny. -/
theorem not_countsProperly_of_extremes : ¬ (whole (10 ^ 400)).CountsProperly ∧
    ¬ (decimal (.finite false 1 (-400))).CountsProperly ∧
      ¬ (fraction (1 / 10 ^ 400)).CountsProperly := by
  refine ⟨?_, ?_, ?_⟩
  · exact not_countsProperly (by decide +kernel) rfl (by norm_num)
  · refine not_countsProperly (by decide +kernel) rfl ?_
    norm_num [Literal.value, signedNumber]
  · exact not_countsProperly (by decide +kernel) rfl (by norm_num)

end PlainNumber

end Scoreboard
