import Scoreboard.Rounding

/-!
# Binary grids

A binary floating-point format is a grid of whole numbers once magnitudes are counted in units of
`2 ^ -1074`, the least positive double. Main statements: rounding puts every quotient on the grid
(`round_granular`) and stays below every bound on the grid (`roundHalfEven_le` does the work).
-/

/- Powers of whole numbers are those of the core library, whatever algebra is in scope beside it. -/
attribute [instance (2000)] instPowNat

namespace Scoreboard

/--
`precision` counts the bits of a significand, `finest` is the least exponent of a spacing, and
magnitudes of `2 ^ limit` units and more are infinite.
-/
structure Grid where
  precision : Nat
  finest : Nat
  limit : Nat
  precision_pos : 0 < precision := by decide
  deriving DecidableEq, Repr

namespace Grid

def double : Grid where
  precision := 53
  finest := 0
  limit := 2098

def single : Grid where
  precision := 24
  finest := 925
  limit := 1202

/-- The exponent of the spacing of the grid at `num / den`. -/
def spacing (grid : Grid) (num den : Nat) : Nat :=
  max grid.finest ((num / den).log2 + 1 - grid.precision)

/-- The grid point nearest to `num / den`, a half going to the even one. -/
def round (grid : Grid) (num den : Nat) : Nat :=
  let exponent := grid.spacing num den
  roundHalfEven num (den * 2 ^ exponent) * 2 ^ exponent

/-- A rounded significand has at most the bits of the precision, or is the next power of two. -/
theorem significand_le (grid : Grid) (num den : Nat) :
    roundHalfEven num (den * 2 ^ grid.spacing num den) ≤ 2 ^ grid.precision := by
  rcases Nat.eq_zero_or_pos den with rfl | positive
  · have rounded := roundHalfEven_le_succ num 0
    have : 0 < 2 ^ grid.precision := Nat.two_pow_pos grid.precision
    rw [Nat.div_zero] at rounded
    rw [Nat.zero_mul]
    omega
  · apply roundHalfEven_le
    have top : num / den < 2 ^ ((num / den).log2 + 1) := Nat.lt_log2_self
    have exponents : (num / den).log2 + 1 ≤ grid.precision + grid.spacing num den := by
      unfold spacing
      omega
    have below : num / den < 2 ^ grid.precision * 2 ^ grid.spacing num den := by
      rw [← Nat.pow_add]
      exact Nat.lt_of_lt_of_le top (Nat.pow_le_pow_right (by decide) exponents)
    have : num < 2 ^ grid.precision * 2 ^ grid.spacing num den * den :=
      (Nat.div_lt_iff_lt_mul positive).1 below
    calc
      num ≤ 2 ^ grid.precision * 2 ^ grid.spacing num den * den := Nat.le_of_lt this
      _ = 2 ^ grid.precision * (den * 2 ^ grid.spacing num den) := by
        rw [Nat.mul_assoc, Nat.mul_comm den]

/-- A number of at most `p` significant bits, or a power of two, is a multiple of its spacing. -/
theorem granular_of_le {r e p : Nat} (bits : 0 < p) (h : r ≤ 2 ^ p) :
    2 ^ ((r * 2 ^ e).log2 + 1 - p) ∣ r * 2 ^ e := by
  rcases Nat.eq_zero_or_pos r with rfl | positive
  · simp
  have nonzero : r * 2 ^ e ≠ 0 := Nat.ne_of_gt (Nat.mul_pos positive (Nat.pow_pos (by decide)))
  rcases Nat.eq_or_lt_of_le h with rfl | below
  · rw [← Nat.pow_add, Nat.log2_two_pow]
    exact Nat.pow_dvd_pow 2 (by omega)
  · have : (r * 2 ^ e).log2 < p + e := by
      rw [Nat.log2_lt nonzero, Nat.pow_add]
      exact Nat.mul_lt_mul_of_pos_right below (Nat.pow_pos (by decide))
    exact Nat.dvd_trans (Nat.pow_dvd_pow 2 (by omega)) (Nat.dvd_mul_left _ _)

/-- Rounding ends on the grid: the result is a multiple of the spacing at the result itself. -/
theorem round_granular (grid : Grid) (num den : Nat) :
    2 ^ ((grid.round num den).log2 + 1 - grid.precision) ∣ grid.round num den :=
  granular_of_le grid.precision_pos (grid.significand_le num den)

end Grid

end Scoreboard
