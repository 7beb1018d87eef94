import Mathlib
import Scoreboard.Binary64.Grid

/-!
# Errors and order of roundings

Both roundings to whole numbers stay within half a unit and never reverse an order.  On a binary
grid the unit is the spacing at the rounded quotient: rounding stays within half of it, fixes the
points of the grid and, the spacing growing with the quotient, is monotone from end to end.
-/

namespace Scoreboard

/-! ## Whole numbers -/

theorem roundHalfEven_error (num : Nat) {den : Nat} (hden : 0 < den) :
    2 * num ≤ (2 * roundHalfEven num den + 1) * den ∧
      2 * roundHalfEven num den * den ≤ 2 * num + den := by
  have hnum := Nat.div_add_mod num den
  have hrest := Nat.mod_lt num hden
  unfold roundHalfEven
  generalize num / den = quotient at *
  generalize num % den = rest at *
  subst hnum
  dsimp only
  split_ifs with hbelow habove
  · constructor <;> nlinarith
  · constructor <;> nlinarith
  · rcases Nat.mod_two_eq_zero_or_one quotient with heven | hodd
    · rw [heven]
      constructor <;> nlinarith
    · rw [hodd]
      constructor <;> nlinarith

theorem roundHalfEven_tie {num den k : Nat} (hden : 0 < den)
    (h : 2 * num = (2 * k + 1) * den) : roundHalfEven num den = k + k % 2 := by
  have hnum : 2 * num = 2 * (k * den) + den := by
    rw [h]
    ring
  have hdiv : num / den = k := by
    apply Nat.div_eq_of_lt_le <;> nlinarith
  have hrest : 2 * (num % den) = den := by
    have := Nat.div_add_mod num den
    rw [hdiv] at this
    nlinarith
  simp [roundHalfEven, hrest, hdiv]

theorem roundHalfEven_mono {num den num' den' : Nat} (hden : 0 < den) (hden' : 0 < den')
    (h : num * den' ≤ num' * den) : roundHalfEven num den ≤ roundHalfEven num' den' := by
  by_contra hreversed
  obtain ⟨hlow, -⟩ := roundHalfEven_error num' hden'
  obtain ⟨-, hhigh⟩ := roundHalfEven_error num hden
  generalize hr : roundHalfEven num den = r at *
  generalize hr' : roundHalfEven num' den' = r' at *
  have hnext : r = r' + 1 := by
    by_contra hne
    have hgap : r' + 2 ≤ r := by omega
    have hscaled : (r' + 2) * (den * den') ≤ r * (den * den') := Nat.mul_le_mul_right _ hgap
    have hpos : 0 < den * den' := Nat.mul_pos hden hden'
    nlinarith
  -- Both quotients are the half between `r'` and `r`, and go to the same even neighbour.
  have htie : 2 * num = (2 * r' + 1) * den := by
    subst hnext
    nlinarith
  have htie' : 2 * num' = (2 * r' + 1) * den' := by
    subst hnext
    nlinarith
  have := roundHalfEven_tie hden htie
  have := roundHalfEven_tie hden' htie'
  omega

theorem roundHalfEven_pos_iff {num den : Nat} (hden : 0 < den) :
    0 < roundHalfEven num den ↔ den < 2 * num := by
  constructor
  · intro hpos
    by_contra hhalf
    have hzero : num / den = 0 := Nat.div_eq_of_lt (by omega)
    have hrest : num % den = num := Nat.mod_eq_of_lt (by omega)
    simp only [roundHalfEven, hzero, hrest] at hpos
    split_ifs at hpos <;> omega
  · intro hhalf
    obtain ⟨hlow, -⟩ := roundHalfEven_error num hden
    by_contra hzero
    have : roundHalfEven num den = 0 := by omega
    rw [this] at hlow
    omega

theorem roundHalfUp_error (num : Nat) {den : Nat} (hden : 0 < den) :
    2 * num < (2 * roundHalfUp num den + 1) * den ∧
      2 * roundHalfUp num den * den ≤ 2 * num + den := by
  unfold roundHalfUp
  have hnum := Nat.div_add_mod (2 * num + den) (2 * den)
  have hrest := Nat.mod_lt (2 * num + den) (show 0 < 2 * den by omega)
  generalize (2 * num + den) / (2 * den) = rounded at *
  generalize (2 * num + den) % (2 * den) = rest at *
  constructor
  · linarith
  · linarith

theorem abs_roundHalfUp_error (num : Nat) {den : Nat} (hden : 0 < den) :
    |(roundHalfUp num den * den : Rat) - num| ≤ den / 2 := by
  obtain ⟨hlow, hhigh⟩ := roundHalfUp_error num hden
  have hlow : (2 : Rat) * num ≤ (2 * roundHalfUp num den + 1) * den := by exact_mod_cast hlow.le
  have hhigh : (2 : Rat) * roundHalfUp num den * den ≤ 2 * num + den := by exact_mod_cast hhigh
  rw [abs_le]
  constructor <;> linarith

theorem roundHalfUp_eq {num den k : Nat} (hhigh : 2 * num < (2 * k + 1) * den)
    (hlow : 2 * k * den ≤ 2 * num + den) : roundHalfUp num den = k := by
  unfold roundHalfUp
  apply Nat.div_eq_of_lt_le
  · linarith
  · linarith

theorem roundHalfUp_mul (k : Nat) {den : Nat} (hden : 0 < den) : roundHalfUp (k * den) den = k := by
  unfold roundHalfUp
  apply Nat.div_eq_of_lt_le <;> nlinarith

theorem roundHalfUp_mono {num num' : Nat} (den : Nat) (h : num ≤ num') :
    roundHalfUp num den ≤ roundHalfUp num' den :=
  Nat.div_le_div_right (by omega)

theorem roundHalfUp_le {num den k : Nat} (hden : 0 < den) (h : num ≤ k * den) :
    roundHalfUp num den ≤ k :=
  (roundHalfUp_mono den h).trans_eq (roundHalfUp_mul k hden)

namespace Grid

/-! ## Points of a grid -/

/-- A multiple of the spacing at its own place. -/
def IsPoint (grid : Grid) (k : Nat) : Prop := 2 ^ grid.spacing k 1 ∣ k

theorem isPoint_of_le (grid : Grid) {r e : Nat} (hr : r ≤ 2 ^ grid.precision)
    (he : grid.finest ≤ e) : grid.IsPoint (r * 2 ^ e) := by
  unfold IsPoint spacing
  rw [Nat.div_one]
  rcases le_total grid.finest ((r * 2 ^ e).log2 + 1 - grid.precision) with h | h
  · rw [max_eq_right h]
    exact granular_of_le grid.precision_pos hr
  · rw [max_eq_left h]
    exact (pow_dvd_pow 2 he).mul_left r

theorem spacing_mono (grid : Grid) {num den num' den' : Nat} (hden : 0 < den)
    (hden' : 0 < den') (h : num * den' ≤ num' * den) :
    grid.spacing num den ≤ grid.spacing num' den' := by
  have hdiv : num / den ≤ num' / den' := by
    rw [Nat.le_div_iff_mul_le hden']
    have := Nat.div_mul_le_self num den
    nlinarith
  have hlog : (num / den).log2 ≤ (num' / den').log2 := by
    rcases Nat.eq_zero_or_pos (num / den) with hzero | hpos
    · simp [hzero]
    · rw [Nat.le_log2 (by omega)]
      exact (Nat.log2_self_le (by omega)).trans hdiv
  unfold spacing
  omega

/-- Above the finest spacing, a quotient is at least the least number of its binade. -/
theorem le_of_finest_lt_spacing (grid : Grid) {num den : Nat} (hden : 0 < den)
    (h : grid.finest < grid.spacing num den) :
    2 ^ (grid.precision - 1) * (den * 2 ^ grid.spacing num den) ≤ num := by
  have hlog : grid.spacing num den + (grid.precision - 1) = (num / den).log2 := by
    have := grid.precision_pos
    unfold spacing at h ⊢
    omega
  have hdiv : num / den ≠ 0 := by
    intro hzero
    have := grid.precision_pos
    simp only [spacing, hzero, Nat.log2_zero] at h
    omega
  have hbinade : 2 ^ (num / den).log2 * den ≤ num :=
    (Nat.le_div_iff_mul_le hden).mp (Nat.log2_self_le hdiv)
  rw [← hlog, pow_add] at hbinade
  linarith

/-! ## Rounding to a grid -/

theorem round_error (grid : Grid) (num : Nat) {den : Nat} (hden : 0 < den) :
    2 * num ≤ (2 * grid.round num den + 2 ^ grid.spacing num den) * den ∧
      2 * grid.round num den * den ≤ 2 * num + 2 ^ grid.spacing num den * den := by
  have hpos : 0 < den * 2 ^ grid.spacing num den := by positivity
  obtain ⟨hlow, hhigh⟩ := roundHalfEven_error num hpos
  unfold round
  constructor <;> nlinarith

theorem round_mono (grid : Grid) {num den num' den' : Nat} (hden : 0 < den)
    (hden' : 0 < den') (h : num * den' ≤ num' * den) :
    grid.round num den ≤ grid.round num' den' := by
  rcases Nat.eq_or_lt_of_le (grid.spacing_mono hden hden' h) with hsame | hcoarser
  · unfold round
    dsimp only
    rw [hsame]
    apply Nat.mul_le_mul_right
    apply roundHalfEven_mono (by positivity) (by positivity)
    nlinarith [Nat.mul_le_mul_right (2 ^ grid.spacing num' den') h]
  -- The power of two where the coarser spacing starts lies between the two results.
  · have hlower := grid.le_of_finest_lt_spacing hden'
      (lt_of_le_of_lt (Nat.le_max_left _ _) hcoarser)
    calc
      grid.round num den ≤ 2 ^ grid.precision * 2 ^ grid.spacing num den :=
        Nat.mul_le_mul_right _ (grid.significand_le num den)
      _ = 2 ^ (grid.precision - 1) * 2 ^ (grid.spacing num den + 1) := by
        have hprecision : grid.precision = grid.precision - 1 + 1 := by
          have := grid.precision_pos
          omega
        conv_lhs => rw [hprecision]
        ring
      _ ≤ 2 ^ (grid.precision - 1) * 2 ^ grid.spacing num' den' := by
        gcongr
        · norm_num
        · omega
      _ ≤ grid.round num' den' := by
        apply Nat.mul_le_mul_right
        exact le_roundHalfEven (by positivity) hlower

theorem round_point (grid : Grid) {k den : Nat} (hden : 0 < den) (hk : grid.IsPoint k) :
    grid.round (k * den) den = k := by
  have hspacing : grid.spacing (k * den) den = grid.spacing k 1 := by
    simp [spacing, Nat.mul_div_cancel k hden]
  obtain ⟨r, hr⟩ := hk
  unfold round
  dsimp only
  rw [hspacing]
  have hscaled : k * den = r * (den * 2 ^ grid.spacing k 1) := by
    conv_lhs => rw [hr]
    ring
  rw [hscaled, roundHalfEven_mul r (by positivity), mul_comm]
  exact hr.symm

theorem round_le_point (grid : Grid) {num den k : Nat} (hden : 0 < den) (hk : grid.IsPoint k)
    (h : num ≤ k * den) : grid.round num den ≤ k := by
  have := grid.round_mono hden hden (Nat.mul_le_mul_right den h)
  rwa [grid.round_point hden hk] at this

theorem point_le_round (grid : Grid) {num den k : Nat} (hden : 0 < den) (hk : grid.IsPoint k)
    (h : k * den ≤ num) : k ≤ grid.round num den := by
  have := grid.round_mono hden hden (Nat.mul_le_mul_right den h)
  rwa [grid.round_point hden hk] at this

theorem round_congr (grid : Grid) {num den num' den' : Nat} (hden : 0 < den) (hden' : 0 < den')
    (h : num * den' = num' * den) : grid.round num den = grid.round num' den' :=
  Nat.le_antisymm (grid.round_mono hden hden' h.le) (grid.round_mono hden' hden h.ge)

theorem isPoint_round (grid : Grid) (num den : Nat) : grid.IsPoint (grid.round num den) :=
  grid.isPoint_of_le (grid.significand_le num den) (Nat.le_max_left _ _)

/-- On a grid that starts with the units themselves, only a half and less is rounded to zero. -/
theorem round_pos_iff (grid : Grid) (hfinest : grid.finest = 0) {num den : Nat} (hden : 0 < den) :
    0 < grid.round num den ↔ den < 2 * num := by
  rcases Nat.eq_zero_or_pos (grid.spacing num den) with hzero | hpos
  · simp [round, hzero, roundHalfEven_pos_iff hden]
  · have hcoarse : grid.finest < grid.spacing num den := by omega
    have hbinade := grid.le_of_finest_lt_spacing hden hcoarse
    have hlarge : den ≤ 2 ^ (grid.precision - 1) * (den * 2 ^ grid.spacing num den) := by
      have hone : 1 ≤ 2 ^ (grid.precision - 1) * 2 ^ grid.spacing num den :=
        Nat.mul_pos (by positivity) (by positivity)
      nlinarith
    constructor
    · intro _
      omega
    · intro _
      have : 0 < roundHalfEven num (den * 2 ^ grid.spacing num den) := by
        rw [roundHalfEven_pos_iff (by positivity)]
        have : 0 < 2 ^ (grid.precision - 1) := by positivity
        nlinarith
      unfold round
      positivity

theorem round_eq_zero_iff (grid : Grid) (hfinest : grid.finest = 0) {num den : Nat}
    (hden : 0 < den) : grid.round num den = 0 ↔ 2 * num ≤ den := by
  rw [← Nat.not_lt, ← grid.round_pos_iff hfinest hden, Nat.pos_iff_ne_zero, not_not]

/-! ## Nearest points -/

theorem add_le_of_dvd {a b d : Nat} (ha : d ∣ a) (hb : d ∣ b) (h : a < b) : a + d ≤ b := by
  have := Nat.le_of_dvd (by omega) (Nat.dvd_sub hb ha)
  omega

/-- A point below the quotient is at least a spacing away from a result above it. -/
theorem add_spacing_le_round (grid : Grid) {num den k : Nat} (hden : 0 < den) (hk : grid.IsPoint k)
    (hbelow : k * den ≤ num) (habove : num < grid.round num den * den) :
    k + 2 ^ grid.spacing num den ≤ grid.round num den := by
  have hmultiple : 2 ^ grid.spacing num den ∣ grid.round num den := Nat.dvd_mul_left _ _
  rcases Nat.lt_or_ge (grid.spacing k 1) (grid.spacing num den) with hfiner | hcoarser
  -- A finer spacing ends where the binade of the quotient begins.
  · have hbinade := grid.le_of_finest_lt_spacing hden ((Nat.le_max_left _ _).trans_lt hfiner)
    have hlower : k < 2 ^ (grid.precision - 1) * 2 ^ grid.spacing num den := by
      rw [← pow_add]
      refine Nat.lt_log2_self.trans_le (Nat.pow_le_pow_right (by norm_num) ?_)
      simp only [spacing, Nat.div_one] at hfiner ⊢
      omega
    have hupper : 2 ^ (grid.precision - 1) * 2 ^ grid.spacing num den * den <
        grid.round num den * den := by
      linarith
    have := add_le_of_dvd (Nat.dvd_mul_left _ _) hmultiple (Nat.lt_of_mul_lt_mul_right hupper)
    omega
  · have hlt : k < grid.round num den := Nat.lt_of_mul_lt_mul_right (hbelow.trans_lt habove)
    exact add_le_of_dvd ((pow_dvd_pow 2 hcoarser).trans hk) hmultiple hlt

/-- A point above the quotient is at least a spacing away from a result below it. -/
theorem round_add_spacing_le (grid : Grid) {num den k : Nat} (hden : 0 < den) (hk : grid.IsPoint k)
    (habove : num ≤ k * den) (hbelow : grid.round num den * den < num) :
    grid.round num den + 2 ^ grid.spacing num den ≤ k := by
  have hcoarser : grid.spacing num den ≤ grid.spacing k 1 :=
    grid.spacing_mono hden Nat.one_pos (by omega)
  have hlt : grid.round num den < k := Nat.lt_of_mul_lt_mul_right (hbelow.trans_le habove)
  exact add_le_of_dvd (Nat.dvd_mul_left _ _) ((pow_dvd_pow 2 hcoarser).trans hk) hlt

theorem abs_round_error (grid : Grid) (num : Nat) {den : Nat} (hden : 0 < den) :
    |(grid.round num den : Rat) - num / den| ≤ 2 ^ grid.spacing num den / 2 := by
  have hden' : (0 : Rat) < den := by exact_mod_cast hden
  obtain ⟨hlow, hhigh⟩ := grid.round_error num hden
  have hlow : (2 : Rat) * num ≤ (2 * grid.round num den + 2 ^ grid.spacing num den) * den := by
    exact_mod_cast hlow
  have hhigh : (2 : Rat) * grid.round num den * den ≤
      2 * num + 2 ^ grid.spacing num den * den := by
    exact_mod_cast hhigh
  rw [abs_le, neg_le_sub_iff_le_add, sub_le_iff_le_add, div_le_iff₀ hden', ← sub_le_iff_le_add',
    le_div_iff₀ hden']
  constructor <;> linarith

/-- No point is nearer to a quotient than the rounded one. -/
theorem round_nearest (grid : Grid) {num den k : Nat} (hden : 0 < den) (hk : grid.IsPoint k) :
    |(grid.round num den : Rat) - num / den| ≤ |(k : Rat) - num / den| := by
  have hden' : (0 : Rat) < den := by exact_mod_cast hden
  have herror := grid.abs_round_error num hden
  rcases Nat.le_total (k * den) num with hbelow | habove
  · have hle : (k : Rat) ≤ num / den := by
      rw [le_div_iff₀ hden']
      exact_mod_cast hbelow
    rw [abs_of_nonpos (sub_nonpos.mpr hle)]
    rcases Nat.lt_or_ge num (grid.round num den * den) with hover | hunder
    · have hgap : (k : Rat) + 2 ^ grid.spacing num den ≤ grid.round num den := by
        exact_mod_cast grid.add_spacing_le_round hden hk hbelow hover
      have := (abs_le.mp herror).2
      linarith
    · have hround : (grid.round num den : Rat) ≤ num / den := by
        rw [le_div_iff₀ hden']
        exact_mod_cast hunder
      have hpoint : (k : Rat) ≤ grid.round num den := by
        exact_mod_cast grid.point_le_round hden hk hbelow
      rw [abs_of_nonpos (sub_nonpos.mpr hround)]
      linarith
  · have hle : (num : Rat) / den ≤ k := by
      rw [div_le_iff₀ hden']
      exact_mod_cast habove
    rw [abs_of_nonneg (sub_nonneg.mpr hle)]
    rcases Nat.lt_or_ge (grid.round num den * den) num with hunder | hover
    · have hgap : (grid.round num den : Rat) + 2 ^ grid.spacing num den ≤ k := by
        exact_mod_cast grid.round_add_spacing_le hden hk habove hunder
      have := (abs_le.mp herror).1
      linarith
    · have hround : (num : Rat) / den ≤ grid.round num den := by
        rw [div_le_iff₀ hden']
        exact_mod_cast hover
      have hpoint : (grid.round num den : Rat) ≤ k := by
        exact_mod_cast grid.round_le_point hden hk habove
      rw [abs_of_nonneg (sub_nonneg.mpr hround)]
      linarith

/-- Of two points at the same distance, the rounded one is a spacing above the other. -/
theorem round_eq_of_tie (grid : Grid) {num den k : Nat} (hden : 0 < den) (hk : grid.IsPoint k)
    (hbelow : k * den < num) (htie : 2 * num = (k + grid.round num den) * den) :
    grid.round num den = k + 2 ^ grid.spacing num den := by
  have hgap := grid.add_spacing_le_round hden hk hbelow.le (by linarith)
  have hhigh := (grid.round_error num hden).2
  have : grid.round num den * den ≤ (k + 2 ^ grid.spacing num den) * den := by linarith
  exact Nat.le_antisymm (Nat.le_of_mul_le_mul_right this hden) hgap

end Grid

end Scoreboard
