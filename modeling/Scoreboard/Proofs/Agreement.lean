import Mathlib
import Scoreboard.Proofs.DecimalSpellings
import Scoreboard.Proofs.ExactNumbers
import Scoreboard.Proofs.RadixSpellings

/-!
# Agreement of spellings

A decimal spelling stands for the same double as a text, as a byte string, as a decimal number and as
the fraction it spells: the one nearest to its exact number.  So do a whole number and its radix
spellings.  The sign of a zero is that of the spelling, which a fraction and a whole number have not.
-/

namespace Scoreboard

namespace Binary64

/-- The same double, but for the sign of zero. -/
def SameNumber (x y : Binary64) : Prop := x = y ∨ x.isZero = true ∧ y.isZero = true

/-- A finite double, and no other is nearer to the number. -/
def IsNearest (x : Binary64) (q : Rat) : Prop :=
  ∃ r, x.toRat? = some r ∧ ∀ y s, toRat? y = some s → |r - q| ≤ |s - q|

theorem exactValue_true (magnitude : Magnitude) : exactValue true magnitude = -magnitude.value := by
  simp [exactValue, signedUnits, Magnitude.value, Rat.mkRat_eq_div, neg_div]

theorem abs_exactValue (negative : Bool) (magnitude : Magnitude) :
    |exactValue negative magnitude| = magnitude.value := by
  cases negative with
  | false => rw [exactValue_false, abs_of_nonneg magnitude.value_nonneg]
  | true => rw [exactValue_true, abs_neg, abs_of_nonneg magnitude.value_nonneg]

theorem value_nearest {num den : Nat} (hden : 0 < den) {magnitude : Magnitude}
    (hnearest : Magnitude.nearest? (num * unitsPerOne) den = some magnitude) (other : Magnitude) :
    |magnitude.value - num / den| ≤ |other.value - num / den| := by
  have hround : |(magnitude.units : Rat) - (num * unitsPerOne : Nat) / den| ≤
      |(other.units : Rat) - (num * unitsPerOne : Nat) / den| := by
    rw [units_of_nearest? hnearest]
    exact Grid.double.round_nearest hden other.isPoint
  rw [magnitude.value_sub, other.value_sub, abs_div, abs_div]
  exact div_le_div_of_nonneg_right hround (abs_nonneg _)

/-- Rounding the magnitude of a number and keeping its sign leads to the nearest double. -/
theorem isNearest_of_nearest? {q : Rat} {num den : Nat} (hden : 0 < den) (h : |q| = num / den)
    {magnitude : Magnitude}
    (hnearest : Magnitude.nearest? (num * unitsPerOne) den = some magnitude) :
    (finite (q < 0) magnitude).IsNearest q := by
  refine ⟨_, rfl, ?_⟩
  rintro (_ | _ | ⟨negative, other⟩) s hs
  · cases hs
  · cases hs
  · cases hs
    have hdistance : |exactValue (q < 0) magnitude - q| = abs (magnitude.value - |q|) := by
      by_cases hneg : q < 0
      · rw [decide_eq_true hneg, exactValue_true, abs_of_neg hneg, ← abs_neg]
        ring_nf
      · rw [decide_eq_false hneg, exactValue_false, abs_of_nonneg (not_lt.mp hneg)]
    calc
      |exactValue (q < 0) magnitude - q| = abs (magnitude.value - |q|) := hdistance
      _ ≤ abs (other.value - |q|) := by
        rw [h]
        exact value_nearest hden hnearest other
      _ = abs (|exactValue negative other| - |q|) := by rw [abs_exactValue]
      _ ≤ |exactValue negative other - q| := abs_abs_sub_abs_le _ _

end Binary64

namespace Value

/-- The value stands for the number, up to the sign of zero. -/
def StandsFor (value : Value) (x : Binary64) : Prop :=
  ∃ y, value.toNumber.outcome = .ok y ∧ y.SameNumber x

end Value

/-- Every spelling and every exact number stands for the same double. -/
structure SpellingsAgree (spelling : DecimalSpelling) (x : Binary64) : Prop where
  text : (Value.text spelling.text).StandsFor x
  bytes : (Value.bytes spelling.bytes).StandsFor x
  decimal : ∃ d, Decimal.ofText? spelling.text = some d ∧ (Value.decimal d).StandsFor x
  fraction : (Value.fraction spelling.value).StandsFor x
  whole : ∀ n : Int, spelling.value = n → (Value.int n).StandsFor x
  radix : ∀ n : Nat, spelling.value = n → ∀ text, IsRadixSpelling n text →
    (Value.text text).StandsFor x

namespace DecimalSpelling

variable (spelling : DecimalSpelling)

def numerator : Nat := spelling.literal.coefficient * 10 ^ spelling.literal.exponent.toNat

def denominator : Nat := 10 ^ (-spelling.literal.exponent).toNat

theorem denominator_pos : 0 < spelling.denominator := Nat.pow_pos (by norm_num)

theorem abs_value : |spelling.value| = spelling.numerator / spelling.denominator := by
  rw [value_eq, Literal.abs_value]
  rfl

theorem value_neg_iff (h : spelling.literal.coefficient ≠ 0) :
    spelling.value < 0 ↔ spelling.literal.negative = true := by
  have hpower : (0 : Rat) < 10 ^ spelling.literal.exponent := by positivity
  have hpos : (0 : Rat) < spelling.literal.coefficient := by exact_mod_cast Nat.pos_of_ne_zero h
  rw [value_eq, Literal.value, ← not_le, mul_nonneg_iff_of_pos_right hpower, not_le, signedNumber]
  split
  · simp_all
  · simp_all

variable {spelling}

theorem exists_magnitude (h : |spelling.value| < doubleLimit) : ∃ magnitude,
    Magnitude.nearest? (spelling.numerator * unitsPerOne) spelling.denominator = some magnitude := by
  have hpos : (0 : Rat) < spelling.denominator := by exact_mod_cast spelling.denominator_pos
  rw [abs_value, div_lt_iff₀ hpos] at h
  have hlt : spelling.numerator < doubleLimit * spelling.denominator := by exact_mod_cast h
  apply exists_nearest? spelling.denominator_pos
  rw [Nat.mul_right_comm doubleLimit]
  exact Nat.mul_lt_mul_of_pos_right hlt unitsPerOne_pos

/-- The literal keeps the sign of a zero, which the number has not. -/
theorem sameNumber_literal {magnitude : Magnitude} (h : Magnitude.nearest?
      (spelling.numerator * unitsPerOne) spelling.denominator = some magnitude) :
    spelling.literal.toBinary64.SameNumber (.finite (spelling.value < 0) magnitude) := by
  have hliteral : spelling.literal.toBinary64 = .finite spelling.literal.negative magnitude := by
    rw [Literal.toBinary64, Binary64.ofScientific_eq, Binary64.ofRatio]
    exact Binary64.nearest_eq h
  rw [hliteral]
  by_cases hzero : spelling.literal.coefficient = 0
  · right
    have hunits : magnitude.units = 0 := by
      rw [units_of_nearest? h, Grid.double.round_eq_zero_iff rfl spelling.denominator_pos, numerator,
        hzero]
      simp
    simp [Binary64.isZero, hunits]
  · left
    have hsign : spelling.literal.negative = decide (spelling.value < 0) := by
      rw [Bool.eq_iff_iff, decide_eq_true_iff, spelling.value_neg_iff hzero]
    rw [hsign]

end DecimalSpelling

theorem spellings_agree (spelling : DecimalSpelling) (h : |spelling.value| < doubleLimit) :
    ∃ x : Binary64, x.IsNearest spelling.value ∧ SpellingsAgree spelling x := by
  obtain ⟨magnitude, hnearest⟩ := DecimalSpelling.exists_magnitude h
  have hpos := spelling.denominator_pos
  have habs := spelling.abs_value
  have hliteral := DecimalSpelling.sameNumber_literal hnearest
  have hint (n : Int) (hn : spelling.value = n) :
      Binary64.ofInt? n = some (.finite (spelling.value < 0) magnitude) := by
    rw [hn] at habs ⊢
    rw [Binary64.ofInt?_eq hpos habs, hnearest, Option.map_some]
    simp
  refine ⟨_, Binary64.isNearest_of_nearest? hpos habs hnearest, ?_⟩
  constructor
  case text => exact ⟨_, by rw [Value.toNumber_text, DecimalSpelling.readNumber_text], hliteral⟩
  case bytes =>
    refine ⟨_, Value.toNumber_closed rfl, ?_⟩
    rw [Value.nearestDouble?, DecimalSpelling.readBytes?_bytes]
    exact hliteral
  case decimal => exact ⟨_, DecimalSpelling.ofText?_text, _, Value.toNumber_closed rfl, hliteral⟩
  case fraction =>
    refine ⟨_, Value.toNumber_closed rfl, .inl ?_⟩
    rw [Value.nearestDouble?, Binary64.ofRat?_eq hpos habs, hnearest]
    rfl
  case whole =>
    intro n hn
    refine ⟨_, Value.toNumber_closed rfl, .inl ?_⟩
    rw [Value.nearestDouble?, hint n hn]
    rfl
  case radix =>
    intro n hn text htext
    refine ⟨_, ?_, .inl rfl⟩
    rw [Value.toNumber_text, htext.readNumber_eq, hint n (by simpa using hn)]
    rfl

/-- `2 ^ 53 + 1`, in the middle of two doubles, with each part that a spelling may have. -/
def middleSpelling : DecimalSpelling where
  sign := .plus
  whole := "90071992547409".toList
  fraction := some "930".toList
  exponent := some ⟨'E', .none, "2".toList, .inr rfl, by simp [AllDigits], by simp⟩
  whole_digits := by simp [AllDigits]
  fraction_digits := by simp [AllDigits]
  digits_ne_nil := by simp

theorem value_middleSpelling : middleSpelling.value = (2 ^ 53 + 1 : Nat) := by
  have hwhole : digitsNumber middleSpelling.whole = 90071992547409 := by decide +kernel
  have hfraction : digitsNumber middleSpelling.fractionDigits = 930 := by decide +kernel
  have hexponent : middleSpelling.exponentNumber = 2 := by decide +kernel
  have hlength : middleSpelling.fractionDigits.length = 3 := rfl
  have hsign : middleSpelling.sign.isNegative = false := rfl
  rw [DecimalSpelling.value, hwhole, hfraction, hexponent, hlength, hsign]
  norm_num

theorem spellings_agree_of_middle : |middleSpelling.value| < doubleLimit ∧
    ∃ x : Binary64, x.IsNearest middleSpelling.value ∧ SpellingsAgree middleSpelling x := by
  have hlimit : |middleSpelling.value| < doubleLimit := by
    have : 2 ^ 53 + 1 < doubleLimit := by decide +kernel
    rw [value_middleSpelling, abs_of_nonneg (Nat.cast_nonneg _)]
    exact_mod_cast this
  exact ⟨hlimit, spellings_agree middleSpelling hlimit⟩

end Scoreboard
