import Mathlib
import Scoreboard.Proofs.Nearest
import Scoreboard.Proofs.Refusals

/-!
# Doubles of exact numbers

Whole numbers, fractions and decimal numbers of any size become doubles by one rounding of a
quotient, whatever the quotient is written with.  Below the limit of the doubles the result is
finite, and no other double is nearer.
-/

namespace Scoreboard

/-! ## Rounded quotients -/

theorem nearest?_congr {num den num' den' : Nat} (hden : 0 < den) (hden' : 0 < den')
    (h : num * den' = num' * den) : Magnitude.nearest? num den = Magnitude.nearest? num' den' := by
  simp only [Magnitude.nearest?, Grid.double.round_congr hden hden' h]

theorem units_of_nearest? {num den : Nat} {magnitude : Magnitude}
    (h : Magnitude.nearest? num den = some magnitude) :
    magnitude.units = Grid.double.round num den := by
  unfold Magnitude.nearest? at h
  dsimp only at h
  split at h
  · cases h
    rfl
  · cases h

def greatestUnits : Nat :=
  (2 ^ Grid.double.precision - 1) * 2 ^ (Grid.double.limit - Grid.double.precision)

theorem isPoint_greatestUnits : Grid.double.IsPoint greatestUnits := by
  unfold greatestUnits
  exact Grid.double.isPoint_of_le (Nat.sub_le _ _) (Nat.zero_le _)

theorem isPoint_overflow : Grid.double.IsPoint overflow := by
  have : overflow = 1 * 2 ^ Grid.double.limit := by
    unfold overflow
    rw [Nat.one_mul]
  rw [this]
  exact Grid.double.isPoint_of_le Nat.one_le_two_pow (Nat.zero_le _)

/-- The limit of the doubles is the middle between the greatest one and the overflow. -/
theorem two_mul_doubleLimit : 2 * (doubleLimit * unitsPerOne) = greatestUnits + overflow := by
  decide +kernel

theorem round_lt_overflow {num den : Nat} (hden : 0 < den)
    (h : num < doubleLimit * unitsPerOne * den) : Grid.double.round num den < overflow := by
  have hgreatest : greatestUnits < overflow := by decide +kernel
  rcases Nat.le_total num (greatestUnits * den) with hle | hge
  · exact (Grid.double.round_le_point hden isPoint_greatestUnits hle).trans_lt hgreatest
  · by_contra hover
    have hden' : (0 : Rat) < den := by exact_mod_cast hden
    have hlow : (greatestUnits : Rat) ≤ num / den := by
      rw [le_div_iff₀ hden']
      exact_mod_cast hge
    have hhigh : (num : Rat) / den < doubleLimit * unitsPerOne := by
      rw [div_lt_iff₀ hden']
      exact_mod_cast h
    have hmiddle : (2 : Rat) * (doubleLimit * unitsPerOne) = greatestUnits + overflow := by
      exact_mod_cast two_mul_doubleLimit
    have hround : (overflow : Rat) ≤ Grid.double.round num den := by
      exact_mod_cast not_lt.mp hover
    have hnearest : |(Grid.double.round num den : Rat) - num / den| ≤
        |(greatestUnits : Rat) - num / den| :=
      Grid.double.round_nearest hden isPoint_greatestUnits
    rw [abs_of_nonpos (sub_nonpos.mpr hlow)] at hnearest
    have := (abs_le.mp hnearest).2
    linarith

theorem exists_nearest? {num den : Nat} (hden : 0 < den)
    (h : num < doubleLimit * unitsPerOne * den) :
    ∃ magnitude, Magnitude.nearest? num den = some magnitude := by
  have hfinite := round_lt_overflow hden h
  exact ⟨⟨_, hfinite, Grid.double.round_granular num den⟩, by simp [Magnitude.nearest?, hfinite]⟩

namespace Binary64

theorem nearest_eq {negative : Bool} {num den : Nat} {magnitude : Magnitude}
    (h : Magnitude.nearest? num den = some magnitude) :
    nearest negative num den = .finite negative magnitude := by
  rw [nearest, h]

/-! ## Decimal numbers -/

theorem log2_lt_ten_pow (n : Nat) : n < 10 ^ (n.log2 + 1) :=
  Nat.lt_log2_self.trans_le (Nat.pow_le_pow_left (by norm_num) _)

theorem nearest_of_overflow_le {negative : Bool} {num den : Nat} (hden : 0 < den)
    (h : overflow * den ≤ num) : nearest negative num den = .infinite negative := by
  have hover := Grid.double.point_le_round hden isPoint_overflow h
  simp [nearest, Magnitude.nearest?, not_lt.mpr hover]

theorem nearest_of_half_le {negative : Bool} {num den : Nat} (hden : 0 < den)
    (h : 2 * num ≤ den) : nearest negative num den = .finite negative .zero := by
  have hzero : Grid.double.round num den = 0 := (Grid.double.round_eq_zero_iff rfl hden).mpr h
  simp [nearest, Magnitude.nearest?, hzero, overflow_pos, Magnitude.zero]

/-- Exponents whose power of ten is not worked out lead to the same double. -/
theorem ofScientific_eq (negative : Bool) (coefficient : Nat) (exponent : Int) :
    ofScientific negative coefficient exponent =
      ofRatio negative (coefficient * 10 ^ exponent.toNat) (10 ^ (-exponent).toNat) := by
  unfold ofScientific
  split_ifs with hzero hlarge hsmall hnonneg
  · rw [hzero, Nat.zero_mul, ofRatio, Nat.zero_mul, nearest_of_half_le] <;> simp
  · have hpower : overflow ≤ 10 ^ 310 * unitsPerOne := by decide +kernel
    have hexponent : 10 ^ 310 ≤ 10 ^ exponent.toNat := by
      gcongr
      · norm_num
      · omega
    have hscaled : 10 ^ exponent.toNat ≤ coefficient * 10 ^ exponent.toNat :=
      Nat.le_mul_of_pos_left _ (Nat.pos_of_ne_zero hzero)
    rw [ofRatio, nearest_of_overflow_le (by positivity)]
    rw [show (-exponent).toNat = 0 by omega, Nat.pow_zero, Nat.mul_one]
    calc
      overflow ≤ 10 ^ 310 * unitsPerOne := hpower
      _ ≤ 10 ^ exponent.toNat * unitsPerOne := Nat.mul_le_mul_right _ hexponent
      _ ≤ coefficient * 10 ^ exponent.toNat * unitsPerOne := Nat.mul_le_mul_right _ hscaled
  · have hpower : 2 * unitsPerOne ≤ 10 ^ 330 := by decide +kernel
    have hexponent : 10 ^ (coefficient.log2 + 1) * 10 ^ 330 ≤ 10 ^ (-exponent).toNat := by
      rw [← pow_add]
      exact Nat.pow_le_pow_right (by norm_num) (by omega)
    rw [ofRatio, nearest_of_half_le (by positivity)]
    rw [show exponent.toNat = 0 by omega, Nat.pow_zero, Nat.mul_one]
    calc
      2 * (coefficient * unitsPerOne) = coefficient * (2 * unitsPerOne) := by ring
      _ ≤ 10 ^ (coefficient.log2 + 1) * 10 ^ 330 :=
        Nat.mul_le_mul (log2_lt_ten_pow coefficient).le hpower
      _ ≤ 10 ^ (-exponent).toNat := hexponent
  · rw [show (-exponent).toNat = 0 by omega, Nat.pow_zero]
  · rw [show exponent.toNat = 0 by omega, Nat.pow_zero, Nat.mul_one]

/-! ## Whole numbers and fractions -/

theorem natAbs_num_eq (q : Rat) : (q.num.natAbs : Rat) = |q| * q.den := by
  rw [← Rat.num_div_den |q|, Rat.num_abs_eq_abs_num, Rat.den_abs_eq_den]
  rw [div_mul_cancel₀ _ (by exact_mod_cast q.den_ne_zero), Int.abs_eq_natAbs, Int.cast_natCast]

theorem ofRat?_eq {q : Rat} {num den : Nat} (hden : 0 < den) (h : |q| = num / den) :
    ofRat? q = (Magnitude.nearest? (num * unitsPerOne) den).map (.finite (q < 0)) := by
  have hden' : (0 : Rat) < den := by exact_mod_cast hden
  have hcross : (q.num.natAbs : Rat) * den = num * q.den := by
    rw [natAbs_num_eq, h]
    field_simp
  have hcross : q.num.natAbs * den = num * q.den := by exact_mod_cast hcross
  rw [ofRat?, nearest?_congr q.den_pos hden]
  rw [Nat.mul_right_comm, hcross, Nat.mul_right_comm]

/-- Fractions have no double from the limit of the doubles on. -/
theorem ofRat?_eq_none_iff {q : Rat} : ofRat? q = none ↔ doubleLimit ≤ |q| := by
  have hden : (0 : Rat) < q.den := by exact_mod_cast q.den_pos
  have hscaled : doubleLimit ≤ |q| ↔ doubleLimit * q.den ≤ q.num.natAbs := by
    have hcross : (doubleLimit : Rat) ≤ |q| ↔ (doubleLimit : Rat) * q.den ≤ q.num.natAbs := by
      rw [natAbs_num_eq, mul_le_mul_iff_left₀ hden]
    rw [hcross]
    exact_mod_cast Iff.rfl
  rw [hscaled, ofRat?, Option.map_eq_none_iff]
  constructor
  · intro hnone
    by_contra hlt
    have hscaled : q.num.natAbs * unitsPerOne < doubleLimit * unitsPerOne * q.den := by
      rw [Nat.mul_right_comm]
      exact Nat.mul_lt_mul_of_pos_right (not_le.mp hlt) unitsPerOne_pos
    obtain ⟨magnitude, hsome⟩ := exists_nearest? q.den_pos hscaled
    rw [hnone] at hsome
    cases hsome
  · intro hle
    have hlimit : overflow ≤ Grid.double.round (doubleLimit * unitsPerOne) 1 := by decide +kernel
    have hmono : Grid.double.round (doubleLimit * unitsPerOne) 1 ≤
        Grid.double.round (q.num.natAbs * unitsPerOne) q.den := by
      apply Grid.double.round_mono Nat.one_pos q.den_pos
      rw [Nat.mul_one, Nat.mul_right_comm]
      exact Nat.mul_le_mul_right _ hle
    simp [Magnitude.nearest?, hlimit.trans hmono]

theorem ofInt?_eq {n : Int} {num den : Nat} (hden : 0 < den) (h : |(n : Rat)| = num / den) :
    ofInt? n = (Magnitude.nearest? (num * unitsPerOne) den).map (.finite (n < 0)) := by
  have := ofRat?_eq hden h
  simpa [ofRat?, ofInt?] using this

end Binary64

end Scoreboard
