import Mathlib
import Scoreboard.Binary64.Basic
import Scoreboard.Proofs.Rounding

/-!
# Nearest doubles

The exact number behind a magnitude, and how far a rounded quotient lies from it.  Quotients below a
double stay below it, so ratios of at most one are finite and are met within `2 ^ -53`; whole
numbers up to `2 ^ 53` are met exactly.
-/

namespace Scoreboard

/-! ## Numbers on the grid -/

theorem two_pow_unitDepth : 2 ^ unitDepth = unitsPerOne := by
  unfold unitsPerOne
  rfl

theorem two_pow_le_unitsPerOne : 2 ^ 52 ≤ unitsPerOne := by
  rw [← two_pow_unitDepth]
  exact Nat.pow_le_pow_right (by norm_num) (by decide)

theorem isPoint_whole {n : Nat} (h : n ≤ 2 ^ 53) : Grid.double.IsPoint (n * unitsPerOne) := by
  unfold unitsPerOne
  exact Grid.double.isPoint_of_le h (Nat.zero_le _)

theorem overflow_eq : overflow = 2 ^ 1024 * unitsPerOne := by decide +kernel

theorem whole_lt_overflow {n : Nat} (h : n < 2 ^ 1024) : n * unitsPerOne < overflow := by
  rw [overflow_eq]
  exact Nat.mul_lt_mul_of_pos_right h unitsPerOne_pos

/-- The error of a rounded quotient, in terms of any bound that is not subnormal. -/
theorem round_error_le {num den : Nat} (hden : 0 < den) {bound : Rat} (hbound : 2 ^ 52 ≤ bound)
    (h : (num : Rat) / den ≤ bound) :
    |(Grid.double.round num den : Rat) - num / den| ≤ bound / 2 ^ 53 := by
  have hden' : (0 : Rat) < den := by exact_mod_cast hden
  have hspacing : (2 : Rat) ^ Grid.double.spacing num den * 2 ^ 52 ≤ bound := by
    rcases Nat.eq_zero_or_pos (Grid.double.spacing num den) with hzero | hpos
    · rw [hzero]
      linarith
    · have hbinade := Grid.double.le_of_finest_lt_spacing hden hpos
      have hbinade : (2 : Rat) ^ 52 * (den * 2 ^ Grid.double.spacing num den) ≤ num := by
        exact_mod_cast hbinade
      have : (2 : Rat) ^ Grid.double.spacing num den * 2 ^ 52 ≤ num / den := by
        rw [le_div_iff₀ hden']
        linarith
      exact this.trans h
  have hhalf := Grid.double.abs_round_error num hden
  linarith

private theorem close_of_error {a b one rounded step : Nat} (hstep : 0 < step)
    (hone : 2 * one = 2 ^ 53 * step) (hle : rounded ≤ one)
    (herror : 2 * (a * one) ≤ (2 * rounded + step) * b) : 2 ^ 53 * a ≤ (2 ^ 53 + 1) * b := by
  have : step * (2 ^ 53 * a) ≤ step * ((2 ^ 53 + 1) * b) := by nlinarith
  exact Nat.le_of_mul_le_mul_left this hstep

/-- Of two different doubles the greater one makes a quotient that is not rounded down to one. -/
theorem one_lt_round_ratio {a b : Nat} (hb : 0 < b) (hpa : Grid.double.IsPoint a)
    (hpb : Grid.double.IsPoint b) (h : b < a) :
    unitsPerOne < Grid.double.round (a * unitsPerOne) b := by
  by_contra hle
  have hle : Grid.double.round (a * unitsPerOne) b ≤ unitsPerOne := by omega
  have hunits := unitsPerOne_pos
  have hfloor : a * unitsPerOne / b < 2 * unitsPerOne := by
    by_contra habove
    have := Grid.double.point_le_round hb (isPoint_whole (n := 2) (by norm_num))
      ((Nat.le_div_iff_mul_le hb).mp (not_lt.mp habove))
    omega
  have hone : unitsPerOne ≤ a * unitsPerOne / b := by
    rw [Nat.le_div_iff_mul_le hb]
    nlinarith
  -- The quotient lies in the binade of one, where the spacing is `2 ^ -52`.
  have hspacing : Grid.double.spacing (a * unitsPerOne) b = 1022 := by
    have hlog : (a * unitsPerOne / b).log2 = unitDepth := by
      rw [Nat.log2_eq_iff (by omega), pow_succ', two_pow_unitDepth]
      exact ⟨hone, hfloor⟩
    simp [Grid.spacing, hlog, Grid.double, unitDepth]
  have herror := (Grid.double.round_error (a * unitsPerOne) hb).1
  rw [hspacing] at herror
  have hclose := close_of_error (Nat.two_pow_pos _) (by decide +kernel) hle herror
  have hgap : b + 2 ^ Grid.double.spacing b 1 ≤ a := by
    have hcoarser : 2 ^ Grid.double.spacing b 1 ∣ a :=
      (pow_dvd_pow 2 (Grid.double.spacing_mono Nat.one_pos Nat.one_pos (by omega))).trans hpa
    exact Grid.add_le_of_dvd hpb hcoarser h
  have hbits : b < 2 ^ 53 * 2 ^ Grid.double.spacing b 1 := by
    rw [← pow_add]
    refine Nat.lt_of_lt_of_le Nat.lt_log2_self (Nat.pow_le_pow_right (by norm_num) ?_)
    simp only [Grid.spacing, Nat.div_one, Grid.double]
    omega
  omega

namespace Magnitude

def value (magnitude : Magnitude) : Rat := magnitude.units / unitsPerOne

theorem eq_of_units {a b : Magnitude} (h : a.units = b.units) : a = b := by
  cases a
  cases b
  cases h
  rfl

theorem isPoint (magnitude : Magnitude) : Grid.double.IsPoint magnitude.units := by
  have : Grid.double.spacing magnitude.units 1 = magnitude.units.log2 + 1 - 53 := by
    simp [Grid.spacing, Grid.double]
  rw [Grid.IsPoint, this]
  exact magnitude.granular

theorem value_nonneg (magnitude : Magnitude) : 0 ≤ magnitude.value := by
  unfold value
  positivity

theorem value_le_iff {magnitude : Magnitude} {n : Nat} :
    magnitude.value ≤ n ↔ magnitude.units ≤ n * unitsPerOne := by
  have : (0 : Rat) < unitsPerOne := by exact_mod_cast unitsPerOne_pos
  rw [value, div_le_iff₀ this]
  exact_mod_cast Iff.rfl

theorem value_pos_iff {magnitude : Magnitude} : 0 < magnitude.value ↔ 0 < magnitude.units := by
  have : (0 : Rat) < unitsPerOne := by exact_mod_cast unitsPerOne_pos
  rw [value, div_pos_iff_of_pos_right this]
  exact_mod_cast Iff.rfl

/-- The distance to a quotient, in units. -/
theorem value_sub (magnitude : Magnitude) (num den : Nat) : magnitude.value - num / den =
    (magnitude.units - (num * unitsPerOne : Nat) / den) / unitsPerOne := by
  have : (0 : Rat) < unitsPerOne := by exact_mod_cast unitsPerOne_pos
  unfold value
  push_cast
  field_simp

end Magnitude

namespace Binary64

theorem exactValue_false (magnitude : Magnitude) : exactValue false magnitude = magnitude.value := by
  simp [exactValue, signedUnits, Magnitude.value, Rat.mkRat_eq_div]

/-- A quotient of units that a double bounds is rounded to a finite number within the bound. -/
theorem nearest_finite (negative : Bool) {num den k : Nat} (hden : 0 < den)
    (hk : Grid.double.IsPoint k) (hfinite : k < overflow) (h : num ≤ k * den) :
    ∃ magnitude, nearest negative num den = .finite negative magnitude ∧
      magnitude.units = Grid.double.round num den := by
  have hlt := Nat.lt_of_le_of_lt (Grid.double.round_le_point hden hk h) hfinite
  refine ⟨⟨_, hlt, Grid.double.round_granular num den⟩, ?_, rfl⟩
  simp [nearest, Magnitude.nearest?, hlt]

theorem nearest_ratio (negative : Bool) {num den : Nat} (hden : 0 < den) (h : num ≤ den) :
    ∃ magnitude, nearest negative (num * unitsPerOne) den = .finite negative magnitude ∧
      magnitude.units = Grid.double.round (num * unitsPerOne) den ∧ magnitude.value ≤ 1 ∧
        |magnitude.value - num / den| ≤ 1 / 2 ^ 53 := by
  have hpoint : Grid.double.IsPoint unitsPerOne := by
    simpa using isPoint_whole (n := 1) (by norm_num)
  have hscaled : num * unitsPerOne ≤ unitsPerOne * den := by
    rw [Nat.mul_comm]
    exact Nat.mul_le_mul_left _ h
  have hfinite : unitsPerOne < overflow := by
    simpa using whole_lt_overflow (n := 1) (by norm_num)
  obtain ⟨magnitude, hnearest, hround⟩ := nearest_finite negative hden hpoint hfinite hscaled
  refine ⟨magnitude, hnearest, hround, ?_, ?_⟩
  · have : magnitude.value ≤ (1 : Nat) := by
      rw [Magnitude.value_le_iff, hround, Nat.one_mul]
      exact Grid.double.round_le_point hden hpoint hscaled
    simpa using this
  · have hden' : (0 : Rat) < den := by exact_mod_cast hden
    have hunits : (0 : Rat) < unitsPerOne := by exact_mod_cast unitsPerOne_pos
    have hbound : (2 : Rat) ^ 52 ≤ unitsPerOne := by exact_mod_cast two_pow_le_unitsPerOne
    have hle : ((num * unitsPerOne : Nat) : Rat) / den ≤ unitsPerOne := by
      rw [div_le_iff₀ hden']
      exact_mod_cast hscaled
    have herror := round_error_le hden hbound hle
    rw [magnitude.value_sub, hround, abs_div, abs_of_pos hunits, div_le_iff₀ hunits]
    linarith

end Binary64

end Scoreboard
