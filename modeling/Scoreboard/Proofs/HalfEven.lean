import Mathlib
import Scoreboard.Proofs.ExactNumbers

/-!
# Rounding a half to even

Rounding to a grid is told by its result alone: a point that is as near as any other, and whose last
digit is even if another one is as near.  There is one such point for each number, so that a double is
the rounding of a number, or no double is, whatever the number is written with.
-/

namespace Scoreboard

namespace Grid

/-- The point nearest to the number; of two, the one with the even last digit. -/
structure RoundsToEven (grid : Grid) (q : Rat) (k : Nat) : Prop where
  point : grid.IsPoint k
  nearest : ∀ other, grid.IsPoint other → |(k : Rat) - q| ≤ |(other : Rat) - q|
  even : ∀ other, grid.IsPoint other → other ≠ k → |(other : Rat) - q| = |(k : Rat) - q| →
    2 ^ (grid.spacing k 1 + 1) ∣ k

variable (grid : Grid)

/-! ## Last digits -/

theorem lt_two_pow_spacing (k : Nat) : k < 2 ^ (grid.precision + grid.spacing k 1) := by
  refine Nat.lt_log2_self.trans_le (Nat.pow_le_pow_right (by norm_num) ?_)
  simp only [spacing, Nat.div_one]
  omega

theorem spacing_le_of_lt {k e : Nat} (he : grid.finest ≤ e) (h : k < 2 ^ (grid.precision + e)) :
    grid.spacing k 1 ≤ e := by
  rcases Nat.eq_zero_or_pos k with rfl | hpos
  · have := grid.precision_pos
    simp only [spacing, Nat.zero_div, Nat.log2_zero]
    omega
  · have := (Nat.log2_lt (by omega)).mpr h
    simp only [spacing, Nat.div_one]
    omega

/-- An even count of steps has an even last digit, even if a digit is carried. -/
theorem two_pow_dvd_of_even (hprecision : 1 < grid.precision) {r e : Nat}
    (hr : r ≤ 2 ^ grid.precision) (he : grid.finest ≤ e) (heven : 2 ∣ r) :
    2 ^ (grid.spacing (r * 2 ^ e) 1 + 1) ∣ r * 2 ^ e := by
  rcases Nat.lt_or_eq_of_le hr with hlt | rfl
  · have hspacing : grid.spacing (r * 2 ^ e) 1 ≤ e := by
      apply grid.spacing_le_of_lt he
      rw [pow_add]
      exact Nat.mul_lt_mul_of_pos_right hlt (by positivity)
    calc
      2 ^ (grid.spacing (r * 2 ^ e) 1 + 1) ∣ 2 ^ (e + 1) := pow_dvd_pow 2 (by omega)
      _ = 2 * 2 ^ e := by rw [pow_succ']
      _ ∣ r * 2 ^ e := Nat.mul_dvd_mul_right heven _
  · have hspacing : grid.spacing (2 ^ grid.precision * 2 ^ e) 1 ≤ e + 1 := by
      apply grid.spacing_le_of_lt (by omega)
      rw [← pow_add]
      exact Nat.pow_lt_pow_right (by norm_num) (by omega)
    rw [← pow_add] at hspacing ⊢
    exact pow_dvd_pow 2 (by omega)

theorem isPoint_add_spacing {k : Nat} (h : grid.IsPoint k) :
    grid.IsPoint (k + 2 ^ grid.spacing k 1) := by
  obtain ⟨r, hr⟩ := h
  have hlt := grid.lt_two_pow_spacing k
  have hr' : r < 2 ^ grid.precision := by
    apply Nat.lt_of_mul_lt_mul_left (a := 2 ^ grid.spacing k 1)
    rwa [← hr, ← pow_add, Nat.add_comm]
  have hnext : k + 2 ^ grid.spacing k 1 = (r + 1) * 2 ^ grid.spacing k 1 := by
    rw [Nat.add_mul, Nat.one_mul, Nat.mul_comm r, ← hr]
  rw [hnext]
  exact grid.isPoint_of_le hr' (Nat.le_max_left _ _)

/-! ## The one rounding of a number -/

/-- A quotient in the middle of two whole numbers goes to an even one. -/
theorem two_dvd_roundHalfEven {num den r : Nat} (hden : 0 < den)
    (hround : roundHalfEven num den = r)
    (htie : 2 * num = (2 * r + 1) * den ∨ 2 * num + den = 2 * r * den) : 2 ∣ r := by
  rcases htie with hbelow | habove
  · rw [roundHalfEven_tie hden hbelow] at hround
    omega
  · cases r with
    | zero => exact dvd_zero 2
    | succ r =>
        have hmiddle : 2 * num = (2 * r + 1) * den := by linarith
        rw [roundHalfEven_tie hden hmiddle] at hround
        omega

theorem middle_of_abs_eq {a b : Nat} {q : Rat} (hne : a ≠ b)
    (h : |(a : Rat) - q| = |(b : Rat) - q|) : 2 * q = a + b := by
  rcases abs_eq_abs.mp h with hsame | hopposite
  · exact absurd (by exact_mod_cast sub_left_inj.mp hsame) hne
  · linarith

theorem abs_lt_of_between {a b k : Nat} {q : Rat} (hmiddle : 2 * q = a + b)
    (hlow : a < k) (hhigh : k < b) : |(k : Rat) - q| < |(a : Rat) - q| := by
  have hlow : (a : Rat) < k := by exact_mod_cast hlow
  have hhigh : (k : Rat) < b := by exact_mod_cast hhigh
  rw [abs_of_neg (by linarith : (a : Rat) - q < 0), abs_lt]
  constructor <;> linarith

/-- The two points around a middle are neighbours. -/
theorem adjacent_of_tie {num den k : Nat} (hden : 0 < den) (hk : grid.IsPoint k)
    (hne : k ≠ grid.round num den) (htie : 2 * num = (k + grid.round num den) * den) :
    grid.round num den = k + 2 ^ grid.spacing num den ∨
      k = grid.round num den + 2 ^ grid.spacing num den := by
  rcases Nat.lt_or_gt_of_ne hne with hbelow | habove
  · have hscaled := Nat.mul_lt_mul_of_pos_right hbelow hden
    exact .inl (grid.round_eq_of_tie hden hk (by linarith) htie)
  · have hscaled := Nat.mul_lt_mul_of_pos_right habove hden
    have hover : num ≤ k * den := by linarith
    have hunder : grid.round num den * den < num := by linarith
    have hgap := grid.round_add_spacing_le hden hk hover hunder
    have hupper : (k + grid.round num den) * den ≤
        (2 * grid.round num den + 2 ^ grid.spacing num den) * den :=
      htie ▸ (grid.round_error num hden).1
    have := Nat.le_of_mul_le_mul_right hupper hden
    right
    omega

theorem roundsToEven_round (hprecision : 1 < grid.precision) (num : Nat) {den : Nat}
    (hden : 0 < den) : grid.RoundsToEven (num / den) (grid.round num den) where
  point := grid.isPoint_round num den
  nearest := fun _ hother => grid.round_nearest hden hother
  even := by
    intro other hother hne hdistance
    have htie : 2 * num = (other + grid.round num den) * den := by
      have hmiddle := middle_of_abs_eq hne hdistance
      have hden' : (den : Rat) ≠ 0 := by exact_mod_cast hden.ne'
      rw [← mul_div_assoc, div_eq_iff hden'] at hmiddle
      exact_mod_cast hmiddle
    have hadjacent := grid.adjacent_of_tie hden hother hne htie
    have hround : grid.round num den =
        roundHalfEven num (den * 2 ^ grid.spacing num den) * 2 ^ grid.spacing num den := rfl
    have hle := grid.significand_le num den
    generalize hr : roundHalfEven num (den * 2 ^ grid.spacing num den) = r at hround hle
    have heven : 2 ∣ r := by
      refine two_dvd_roundHalfEven (by positivity) hr ?_
      rw [hround] at htie hadjacent
      rcases hadjacent with hbelow | habove
      · right
        linear_combination htie + den * hbelow.symm
      · left
        linear_combination htie + den * habove
    rw [hround]
    exact grid.two_pow_dvd_of_even hprecision hle (Nat.le_max_left _ _) heven

variable {grid}

theorem RoundsToEven.le {q : Rat} {j k : Nat} (hj : grid.RoundsToEven q j)
    (hk : grid.RoundsToEven q k) : k ≤ j := by
  by_contra hnot
  have hlt : j < k := not_le.mp hnot
  have hdistance := le_antisymm (hj.nearest k hk.point) (hk.nearest j hj.point)
  have hspacing : grid.spacing j 1 ≤ grid.spacing k 1 :=
    grid.spacing_mono Nat.one_pos Nat.one_pos (by omega)
  have hnext : j + 2 ^ grid.spacing j 1 ≤ k :=
    add_le_of_dvd hj.point ((pow_dvd_pow 2 hspacing).trans hk.point) hlt
  rcases Nat.lt_or_eq_of_le hnext with hbetween | hadjacent
  -- A point between the two is nearer than both.
  · have hstep : 0 < 2 ^ grid.spacing j 1 := by positivity
    have hnearer := abs_lt_of_between (middle_of_abs_eq hlt.ne hdistance) (by omega) hbetween
    exact absurd (hj.nearest _ (grid.isPoint_add_spacing hj.point)) (not_le.mpr hnearer)
  -- Of two adjacent points one has an odd last digit.
  · have hevenj := hj.even k hk.point hlt.ne' hdistance.symm
    have hevenk := (pow_dvd_pow 2 (Nat.succ_le_succ hspacing)).trans
      (hk.even j hj.point hlt.ne hdistance)
    rw [← hadjacent] at hevenk
    have := (Nat.dvd_add_right hevenj).mp hevenk
    have := Nat.le_of_dvd (by positivity) this
    rw [pow_succ] at this
    have : 0 < 2 ^ grid.spacing j 1 := by positivity
    omega

theorem RoundsToEven.eq {q : Rat} {j k : Nat} (hj : grid.RoundsToEven q j)
    (hk : grid.RoundsToEven q k) : j = k :=
  Nat.le_antisymm (hk.le hj) (hj.le hk)

end Grid

namespace Magnitude

theorem nearest?_eq_none_iff {num den : Nat} :
    nearest? num den = none ↔ overflow ≤ Grid.double.round num den := by
  simp only [nearest?, dite_eq_right_iff, reduceCtorEq, imp_false, not_lt]

end Magnitude

namespace Binary64

/-- The double, with the sign given, that the magnitude is rounded to: infinite from `2 ^ 1024` on. -/
inductive IsRounding (negative : Bool) (q : Rat) : Binary64 → Prop where
  | finite {magnitude : Magnitude} :
      Grid.double.RoundsToEven (q * unitsPerOne) magnitude.units →
        IsRounding negative q (.finite negative magnitude)
  | infinite {k : Nat} :
      Grid.double.RoundsToEven (q * unitsPerOne) k → overflow ≤ k →
        IsRounding negative q (.infinite negative)

variable {negative : Bool}

theorem IsRounding.unique {q : Rat} {x y : Binary64} (hx : IsRounding negative q x)
    (hy : IsRounding negative q y) : x = y := by
  rcases hx with @⟨first, hx⟩ | ⟨hx, hover⟩ <;> rcases hy with @⟨second, hy⟩ | ⟨hy, hover'⟩
  · rw [Magnitude.eq_of_units (hx.eq hy)]
  · exact absurd first.units_lt (not_lt.mpr (hx.eq hy ▸ hover'))
  · exact absurd second.units_lt (not_lt.mpr (hx.eq hy ▸ hover))
  · rfl

/-- A quotient has a nearest magnitude if it is not rounded to an infinity, and that is its rounding. -/
theorem nearest?_cases (negative : Bool) (num : Nat) {den : Nat} (hden : 0 < den) :
    (∃ magnitude, Magnitude.nearest? (num * unitsPerOne) den = some magnitude ∧
        IsRounding negative (num / den) (.finite negative magnitude)) ∨
      Magnitude.nearest? (num * unitsPerOne) den = none ∧
        IsRounding negative (num / den) (.infinite negative) := by
  have hround : Grid.double.RoundsToEven ((num / den : Rat) * unitsPerOne)
      (Grid.double.round (num * unitsPerOne) den) := by
    rw [div_mul_eq_mul_div, ← Nat.cast_mul]
    exact Grid.double.roundsToEven_round (by decide) (num * unitsPerOne) hden
  cases hnearest : Magnitude.nearest? (num * unitsPerOne) den with
  | some magnitude => exact .inl ⟨magnitude, rfl, .finite (units_of_nearest? hnearest ▸ hround)⟩
  | none => exact .inr ⟨rfl, .infinite hround (Magnitude.nearest?_eq_none_iff.mp hnearest)⟩

theorem isRounding_ofRatio (num : Nat) {den : Nat} (hden : 0 < den) :
    IsRounding negative (num / den) (ofRatio negative num den) := by
  rw [ofRatio, nearest]
  rcases nearest?_cases negative num hden with ⟨magnitude, hnearest, hround⟩ | ⟨hnearest, hround⟩
  · rwa [hnearest]
  · rwa [hnearest]

theorem isRounding_iff {num den : Nat} (hden : 0 < den) {x : Binary64} :
    IsRounding negative (num / den) x ↔ ofRatio negative num den = x := by
  constructor
  · exact fun h => (isRounding_ofRatio num hden).unique h
  · rintro rfl
    exact isRounding_ofRatio num hden

theorem isRounding_scientific_iff {coefficient : Nat} {exponent : Int} {x : Binary64} :
    IsRounding negative (coefficient * 10 ^ exponent) x ↔
      ofScientific negative coefficient exponent = x := by
  rw [scientific_eq_div, isRounding_iff (by positivity), ofScientific_eq]

/-- A fraction has a double if it is not rounded to an infinity, and that is its rounding. -/
theorem ofRat?_cases (q : Rat) :
    (∃ magnitude, ofRat? q = some (.finite (q < 0) magnitude) ∧
        IsRounding (q < 0) |q| (.finite (q < 0) magnitude)) ∨
      ofRat? q = none ∧ IsRounding (q < 0) |q| (.infinite (q < 0)) := by
  have hquotient : (q.num.natAbs / q.den : Rat) = |q| := by
    rw [natAbs_num_eq, mul_div_cancel_right₀ _ (by exact_mod_cast q.den_ne_zero)]
  rw [ofRat?, ← hquotient]
  rcases nearest?_cases (q < 0) q.num.natAbs q.den_pos with ⟨magnitude, hnearest, hround⟩ | hnone
  · exact .inl ⟨magnitude, by rw [hnearest]; rfl, hround⟩
  · exact .inr ⟨by rw [hnone.1]; rfl, hnone.2⟩

theorem ofRat?_intCast (n : Int) : ofRat? n = ofInt? n := by
  simp [ofRat?, ofInt?]

theorem ofInt?_cases (n : Int) :
    (∃ magnitude, ofInt? n = some (.finite (n < 0) magnitude) ∧
        IsRounding (n < 0) |(n : Rat)| (.finite (n < 0) magnitude)) ∨
      ofInt? n = none ∧ IsRounding (n < 0) |(n : Rat)| (.infinite (n < 0)) := by
  have := ofRat?_cases n
  simpa [ofRat?_intCast] using this

theorem ofInt?_natCast (n : Nat) :
    (∃ magnitude, ofInt? n = some (.finite false magnitude) ∧
        IsRounding false n (.finite false magnitude)) ∨
      ofInt? n = none ∧ IsRounding false n (.infinite false) := by
  have hnonneg : ¬ (n : Int) < 0 := by omega
  have := ofInt?_cases n
  simpa [hnonneg] using this

end Binary64

end Scoreboard
