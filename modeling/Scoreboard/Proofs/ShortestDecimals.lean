import Mathlib
import Scoreboard.Binary64.Printer
import Scoreboard.Proofs.HalfEven

/-!
# Shortest decimals

The decimals that read back as a double lie side by side, so that of each length one of the two
neighbours of the double reads back as soon as any decimal of the length does.  Of seventeen digits the
nearer one always does, as half a step is less than half of the distance to the next double.  The
search for a decimal therefore ends with one that reads back, and none with fewer digits does.
-/

namespace Scoreboard

/-! ## Numbers that round to a point -/

namespace Grid

variable {grid : Grid}

/-- The distance of two points is no less than the greater one in units of the last place. -/
theorem le_mul_gap {j k : Nat} (hj : grid.IsPoint j) (hk : grid.IsPoint k) (h : j < k) :
    k ≤ 2 ^ grid.precision * (k - j) := by
  have hcoarser : 2 ^ grid.spacing j 1 ∣ k :=
    (pow_dvd_pow 2 (grid.spacing_mono Nat.one_pos Nat.one_pos (by omega))).trans hk
  have hstep := add_le_of_dvd hj hcoarser h
  have hlt := grid.lt_two_pow_spacing j
  obtain ⟨r, hr⟩ := hj
  have hr' : r < 2 ^ grid.precision := by
    apply Nat.lt_of_mul_lt_mul_left (a := 2 ^ grid.spacing j 1)
    rwa [← hr, ← pow_add, Nat.add_comm]
  calc
    k = 2 ^ grid.spacing j 1 * r + (k - j) := by omega
    _ ≤ (k - j) * r + (k - j) := by
      gcongr
      omega
    _ = (k - j) * (r + 1) := by rw [Nat.mul_succ]
    _ ≤ (k - j) * 2 ^ grid.precision := Nat.mul_le_mul_left _ hr'
    _ = 2 ^ grid.precision * (k - j) := Nat.mul_comm _ _

theorem le_mul_distance {j k : Nat} (hj : grid.IsPoint j) (hk : grid.IsPoint k) (h : j ≠ k) :
    (k : Rat) ≤ 2 ^ grid.precision * |(j : Rat) - k| := by
  rcases Nat.lt_or_gt_of_ne h with hlt | hgt
  · have hgap : (k : Rat) ≤ 2 ^ grid.precision * ((k - j : Nat) : Rat) := by
      exact_mod_cast le_mul_gap hj hk hlt
    rwa [Nat.cast_sub hlt.le, ← abs_of_pos (sub_pos.mpr (Nat.cast_lt.mpr hlt)), abs_sub_comm] at hgap
  · have hgap : (j : Rat) ≤ 2 ^ grid.precision * ((j - k : Nat) : Rat) := by
      exact_mod_cast le_mul_gap hk hj hgt
    rw [Nat.cast_sub hgt.le, ← abs_of_pos (sub_pos.mpr (Nat.cast_lt.mpr hgt))] at hgap
    have : (k : Rat) ≤ j := by exact_mod_cast hgt.le
    exact this.trans hgap

/-- A number that is closer to a point than half of any distance between doubles is rounded to it. -/
theorem roundsToEven_of_near {q : Rat} {k : Nat} (hk : grid.IsPoint k)
    (h : 2 ^ (grid.precision + 1) * |(k : Rat) - q| < k) : grid.RoundsToEven q k := by
  have hnearer : ∀ other, grid.IsPoint other → other ≠ k →
      |(k : Rat) - q| < |(other : Rat) - q| := by
    intro other hother hne
    have hdistance := le_mul_distance hother hk hne
    have htriangle : |(other : Rat) - k| ≤ |(other : Rat) - q| + |(k : Rat) - q| := by
      rw [abs_sub_comm (k : Rat) q]
      exact abs_sub_le _ _ _
    have hpower : (0 : Rat) < 2 ^ grid.precision := by positivity
    rw [pow_succ] at h
    nlinarith
  refine ⟨hk, fun other hother => ?_, fun other hother hne heq => ?_⟩
  · rcases eq_or_ne other k with rfl | hne
    · exact le_rfl
    · exact (hnearer other hother hne).le
  · exact absurd heq (hnearer other hother hne).ne'

end Grid

namespace Magnitude

variable {magnitude : Magnitude}

/-- The number is rounded to the magnitude. -/
def ReadsBack (magnitude : Magnitude) (q : Rat) : Prop :=
  Binary64.IsRounding false q (.finite false magnitude)

theorem readsBack_iff {q : Rat} :
    magnitude.ReadsBack q ↔ Grid.double.RoundsToEven (q * unitsPerOne) magnitude.units := by
  constructor
  · rintro ⟨h⟩
    exact h
  · exact .finite

theorem isRounding_finite_iff {negative : Bool} {q : Rat} :
    Binary64.IsRounding negative q (.finite negative magnitude) ↔ magnitude.ReadsBack q := by
  rw [readsBack_iff]
  constructor
  · rintro ⟨h⟩
    exact h
  · exact .finite

theorem value_mul_unitsPerOne (magnitude : Magnitude) :
    magnitude.value * unitsPerOne = magnitude.units := by
  have : (unitsPerOne : Rat) ≠ 0 := by exact_mod_cast unitsPerOne_pos.ne'
  rw [value, div_mul_cancel₀ _ this]

theorem readsBack_of_near {q : Rat} (h : 2 ^ 54 * |magnitude.value - q| < magnitude.value) :
    magnitude.ReadsBack q := by
  have hunits : (0 : Rat) < unitsPerOne := by exact_mod_cast unitsPerOne_pos
  rw [readsBack_iff]
  apply Grid.roundsToEven_of_near magnitude.isPoint
  rw [← value_mul_unitsPerOne, ← sub_mul, abs_mul, abs_of_pos hunits, ← mul_assoc]
  exact mul_lt_mul_of_pos_right h hunits

theorem readsBack_value (magnitude : Magnitude) : magnitude.ReadsBack magnitude.value := by
  rw [readsBack_iff, value_mul_unitsPerOne]
  have := Grid.double.roundsToEven_round (by decide) magnitude.units Nat.one_pos
  rwa [← Nat.mul_one magnitude.units, Grid.double.round_point Nat.one_pos magnitude.isPoint,
    Nat.mul_one, Nat.cast_one, div_one] at this

theorem readsBack_iff_round {q : Rat} (hq : 0 ≤ q) : magnitude.ReadsBack q ↔
    Grid.double.round (q.num.natAbs * unitsPerOne) q.den = magnitude.units := by
  have hround := Grid.double.roundsToEven_round (by decide) (q.num.natAbs * unitsPerOne) q.den_pos
  have hquotient : ((q.num.natAbs * unitsPerOne : Nat) / q.den : Rat) = q * unitsPerOne := by
    have hden : (q.den : Rat) ≠ 0 := by exact_mod_cast q.den_ne_zero
    rw [Nat.cast_mul, Binary64.natAbs_num_eq, abs_of_nonneg hq]
    field_simp
  rw [hquotient] at hround
  rw [readsBack_iff]
  constructor
  · exact hround.eq
  · rintro heq
    rwa [heq] at hround

theorem readsBack_zero_iff : magnitude.ReadsBack 0 ↔ magnitude.units = 0 := by
  have hround : Grid.double.round 0 1 = 0 :=
    (Grid.double.round_eq_zero_iff rfl Nat.one_pos).mpr (by norm_num)
  rw [readsBack_iff_round le_rfl]
  simp only [Rat.num_zero, Int.natAbs_zero, Nat.zero_mul, Rat.den_zero, hround, eq_comm]

theorem round_le_round {q r : Rat} (hq : 0 ≤ q) (h : q ≤ r) :
    Grid.double.round (q.num.natAbs * unitsPerOne) q.den ≤
      Grid.double.round (r.num.natAbs * unitsPerOne) r.den := by
  apply Grid.double.round_mono q.den_pos r.den_pos
  have hcross : (q.num.natAbs : Rat) * r.den ≤ r.num.natAbs * q.den := by
    rw [Binary64.natAbs_num_eq, Binary64.natAbs_num_eq, abs_of_nonneg hq,
      abs_of_nonneg (hq.trans h), mul_right_comm]
    gcongr
  have hcross : q.num.natAbs * r.den ≤ r.num.natAbs * q.den := by exact_mod_cast hcross
  rw [Nat.mul_right_comm, Nat.mul_right_comm r.num.natAbs]
  exact Nat.mul_le_mul_right _ hcross

/-- What lies between two numbers that read back reads back. -/
theorem ReadsBack.between {q r s : Rat} (hq : magnitude.ReadsBack q) (hs : magnitude.ReadsBack s)
    (hnonneg : 0 ≤ q) (hqr : q ≤ r) (hrs : r ≤ s) : magnitude.ReadsBack r := by
  have hr := hnonneg.trans hqr
  rw [readsBack_iff_round hnonneg] at hq
  rw [readsBack_iff_round (hr.trans hrs)] at hs
  rw [readsBack_iff_round hr]
  exact Nat.le_antisymm ((round_le_round hr hrs).trans_eq hs)
    (hq.symm.trans_le (round_le_round hnonneg hqr))

end Magnitude

/-! ## The leading digit -/

namespace DecimalPoint

def value (point : DecimalPoint) : Rat := point.coefficient * 10 ^ point.exponent

end DecimalPoint

theorem ten_pow_length_pred_le {n : Nat} (hn : 0 < n) : 10 ^ ((Nat.toDigits 10 n).length - 1) ≤ n := by
  by_contra hlt
  rcases Nat.eq_zero_or_pos ((Nat.toDigits 10 n).length - 1) with hzero | hpos
  · rw [hzero] at hlt
    omega
  · have := (Nat.length_toDigits_le_iff (by norm_num) hpos).mpr (not_le.mp hlt)
    omega

theorem lt_ten_pow_length (n : Nat) : n < 10 ^ (Nat.toDigits 10 n).length :=
  (Nat.length_toDigits_le_iff (by norm_num) (List.length_pos_iff.mpr Nat.toDigits_ne_nil)).mp le_rfl

namespace Binary64

section Neighbours

variable {magnitude : Magnitude}

theorem leadingExponent_spec (hpos : 0 < magnitude.units) :
    10 ^ leadingExponent magnitude.units ≤ magnitude.value ∧
      magnitude.value < 10 ^ (leadingExponent magnitude.units + 1) := by
  have hunits : (0 : Rat) < unitsPerOne := by exact_mod_cast unitsPerOne_pos
  -- Scaled like this, even the least magnitude has a whole part, whose digits are counted.
  have hscale : unitsPerOne ≤ 10 ^ leadingScale := by decide +kernel
  set n := magnitude.units * 10 ^ leadingScale / unitsPerOne with hn
  have hfloor : (n : Rat) ≤ magnitude.value * 10 ^ leadingScale := by
    rw [Magnitude.value, div_mul_eq_mul_div, le_div_iff₀ hunits]
    exact_mod_cast Nat.div_mul_le_self _ _
  have hceil : magnitude.value * 10 ^ leadingScale < n + 1 := by
    rw [Magnitude.value, div_mul_eq_mul_div, div_lt_iff₀ hunits]
    exact_mod_cast Nat.lt_mul_of_div_lt (Nat.lt_succ_self n) unitsPerOne_pos
  have hnpos : 0 < n := Nat.div_pos (hscale.trans (Nat.le_mul_of_pos_left _ hpos)) unitsPerOne_pos
  have hlength : 0 < (Nat.toDigits 10 n).length := List.length_pos_iff.mpr Nat.toDigits_ne_nil
  have hlow : (10 : Rat) ^ ((Nat.toDigits 10 n).length - 1) ≤ n := by
    exact_mod_cast ten_pow_length_pred_le hnpos
  have hhigh : (n : Rat) + 1 ≤ 10 ^ (Nat.toDigits 10 n).length := by
    exact_mod_cast lt_ten_pow_length n
  have hexponent : leadingExponent magnitude.units =
      ((Nat.toDigits 10 n).length - 1 : Nat) - (leadingScale : Int) := by
    rw [leadingExponent, ← hn]
    omega
  have hnext : leadingExponent magnitude.units + 1 =
      (Nat.toDigits 10 n).length - (leadingScale : Int) := by
    omega
  have hpower : (0 : Rat) < 10 ^ leadingScale := by positivity
  constructor
  · rw [hexponent, zpow_sub₀ (by norm_num), zpow_natCast, zpow_natCast, div_le_iff₀ hpower]
    exact hlow.trans hfloor
  · rw [hnext, zpow_sub₀ (by norm_num), zpow_natCast, zpow_natCast, lt_div_iff₀ hpower]
    exact hceil.trans_le hhigh

/-! ## The neighbours of a length -/

theorem gridQuotient_spec (magnitude : Magnitude) (exponent : Int) :
    0 < (gridQuotient magnitude.units exponent).2 ∧ magnitude.value =
      (gridQuotient magnitude.units exponent).1 / (gridQuotient magnitude.units exponent).2 *
        10 ^ exponent := by
  have hunits := unitsPerOne_pos
  have hpower := scientific_eq_div 1 exponent
  rw [Nat.cast_one, one_mul, Nat.one_mul] at hpower
  unfold gridQuotient
  refine ⟨by positivity, ?_⟩
  rw [hpower, Magnitude.value]
  push_cast
  field_simp

variable (magnitude) (digits : Nat)

/-- The exponent of the last digit of a decimal of this length. -/
def lastExponent : Int := leadingExponent magnitude.units - digits + 1

/-- The count of steps of the last digit up to the magnitude. -/
def stepsBelow : Nat :=
  (gridQuotient magnitude.units (lastExponent magnitude digits)).1 /
    (gridQuotient magnitude.units (lastExponent magnitude digits)).2

def step : Rat := 10 ^ lastExponent magnitude digits

theorem step_pos : 0 < step magnitude digits := by
  unfold step
  positivity

theorem stepsBelow_mul_le : stepsBelow magnitude digits * step magnitude digits ≤ magnitude.value := by
  obtain ⟨hden, hvalue⟩ := gridQuotient_spec magnitude (lastExponent magnitude digits)
  rw [hvalue]
  exact mul_le_mul_of_nonneg_right Nat.cast_div_le (step_pos magnitude digits).le

theorem lt_stepsBelow_succ_mul :
    magnitude.value < (stepsBelow magnitude digits + 1 : Nat) * step magnitude digits := by
  obtain ⟨hden, hvalue⟩ := gridQuotient_spec magnitude (lastExponent magnitude digits)
  rw [hvalue]
  apply mul_lt_mul_of_pos_right _ (step_pos magnitude digits)
  rw [div_lt_iff₀ (by exact_mod_cast hden)]
  exact_mod_cast Nat.lt_mul_of_div_lt (Nat.lt_succ_self _) hden

variable {magnitude digits}

theorem ten_pow_mul_step (n : Nat) :
    (10 ^ n : Nat) * step magnitude digits = 10 ^ (lastExponent magnitude digits + n) := by
  rw [step, Nat.cast_pow, ← zpow_natCast, Nat.cast_ofNat, ← zpow_add₀ (by norm_num), add_comm]

/-- If a multiple of the step reads back, so does one of the two neighbours. -/
theorem neighbour_of_multiple {k : Nat} (h : magnitude.ReadsBack (k * step magnitude digits)) :
    magnitude.ReadsBack (stepsBelow magnitude digits * step magnitude digits) ∨
      magnitude.ReadsBack ((stepsBelow magnitude digits + 1 : Nat) * step magnitude digits) := by
  have hstep := (step_pos magnitude digits).le
  rcases Nat.lt_or_ge (stepsBelow magnitude digits) k with habove | hbelow
  · have hle : ((stepsBelow magnitude digits + 1 : Nat) : Rat) ≤ k := by exact_mod_cast habove
    exact .inr (magnitude.readsBack_value.between h magnitude.value_nonneg
      (lt_stepsBelow_succ_mul magnitude digits).le (mul_le_mul_of_nonneg_right hle hstep))
  · have hle : (k : Rat) ≤ stepsBelow magnitude digits := by exact_mod_cast hbelow
    exact .inl (h.between magnitude.readsBack_value (by positivity)
      (mul_le_mul_of_nonneg_right hle hstep) (stepsBelow_mul_le magnitude digits))

theorem leading_eq (hdigits : 0 < digits) : (10 : Rat) ^ leadingExponent magnitude.units =
    (10 ^ (digits - 1) : Nat) * step magnitude digits := by
  rw [ten_pow_mul_step, lastExponent]
  congr 1
  omega

theorem stepsBelow_lt (hpos : 0 < magnitude.units) (digits : Nat) :
    stepsBelow magnitude digits < 10 ^ digits := by
  have hnext : (10 : Rat) ^ (leadingExponent magnitude.units + 1) =
      (10 ^ digits : Nat) * step magnitude digits := by
    rw [ten_pow_mul_step, lastExponent]
    congr 1
    omega
  have hlt := (stepsBelow_mul_le magnitude digits).trans_lt (leadingExponent_spec hpos).2
  rw [hnext] at hlt
  exact_mod_cast lt_of_mul_lt_mul_right hlt (step_pos magnitude digits).le

/-- If any decimal of the length reads back, so does one of the two neighbours. -/
theorem neighbour_of_readsBack (hpos : 0 < magnitude.units) (hdigits : 0 < digits)
    {point : DecimalPoint} (hlength : point.coefficient < 10 ^ digits)
    (h : magnitude.ReadsBack point.value) :
    magnitude.ReadsBack (stepsBelow magnitude digits * step magnitude digits) ∨
      magnitude.ReadsBack ((stepsBelow magnitude digits + 1 : Nat) * step magnitude digits) := by
  rcases Int.lt_or_le point.exponent (lastExponent magnitude digits) with hfiner | hcoarser
  -- The decimal is below the power of ten that the magnitude begins with.
  · have hleading := (leadingExponent_spec hpos).1
    rw [leading_eq hdigits] at hleading
    refine neighbour_of_multiple (h.between magnitude.readsBack_value ?_ ?_ hleading)
    · unfold DecimalPoint.value
      positivity
    · calc
        point.value ≤ 10 ^ digits * 10 ^ (lastExponent magnitude digits - 1) := by
          unfold DecimalPoint.value
          gcongr
          · exact_mod_cast hlength.le
          · norm_num
          · omega
        _ = (10 ^ (digits - 1) : Nat) * step magnitude digits := by
          rw [ten_pow_mul_step, ← zpow_natCast, ← zpow_add₀ (by norm_num)]
          congr 1
          omega
  · obtain ⟨n, hn⟩ := Int.le.dest hcoarser
    apply neighbour_of_multiple (k := point.coefficient * 10 ^ n)
    rwa [Nat.cast_mul, mul_assoc, ten_pow_mul_step, hn]

/-- Of seventeen digits the nearer neighbour reads back. -/
theorem neighbour_of_seventeen (hpos : 0 < magnitude.units) :
    magnitude.ReadsBack (stepsBelow magnitude 17 * step magnitude 17) ∨
      magnitude.ReadsBack ((stepsBelow magnitude 17 + 1 : Nat) * step magnitude 17) := by
  have hleading := (leadingExponent_spec hpos).1
  rw [leading_eq (by norm_num : 0 < 17)] at hleading
  push_cast at hleading
  have hstep := step_pos magnitude 17
  have hbelow := stepsBelow_mul_le magnitude 17
  have habove := lt_stepsBelow_succ_mul magnitude 17
  rcases le_total (2 * (magnitude.value - stepsBelow magnitude 17 * step magnitude 17))
    (step magnitude 17) with hnear | hfar
  · left
    apply Magnitude.readsBack_of_near
    rw [abs_of_nonneg (sub_nonneg.mpr hbelow)]
    linarith
  · right
    apply Magnitude.readsBack_of_near
    rw [abs_sub_comm, abs_of_pos (sub_pos.mpr habove)]
    push_cast
    linarith

/-! ## The search -/

theorem roundHalfEven_eq_or (num den : Nat) :
    roundHalfEven num den = num / den ∨ roundHalfEven num den = num / den + 1 := by
  unfold roundHalfEven
  dsimp only
  split_ifs <;> omega

theorem shortestOfLength?_eq (readsBack : DecimalPoint → Bool) (units digits : Nat) :
    shortestOfLength? readsBack units digits =
      let quotient := gridQuotient units (leadingExponent units - digits + 1)
      let candidate (k : Nat) : DecimalPoint := ⟨k, leadingExponent units - digits + 1⟩
      if readsBack (candidate (roundHalfEven quotient.1 quotient.2)) then
        some (candidate (roundHalfEven quotient.1 quotient.2))
      else if readsBack (candidate (quotient.1 / quotient.2)) then
        some (candidate (quotient.1 / quotient.2))
      else if readsBack (candidate (quotient.1 / quotient.2 + 1)) then
        some (candidate (quotient.1 / quotient.2 + 1))
      else none := by
  rfl

variable {readsBack : DecimalPoint → Bool}

theorem shortestOfLength?_eq_some {point : DecimalPoint}
    (h : shortestOfLength? readsBack magnitude.units digits = some point) :
    readsBack point = true ∧ point.exponent = lastExponent magnitude digits ∧
      (point.coefficient = stepsBelow magnitude digits ∨
        point.coefficient = stepsBelow magnitude digits + 1) := by
  rw [shortestOfLength?_eq] at h
  rw [stepsBelow, lastExponent]
  -- A variable in its place keeps the exponent from being evaluated.
  generalize leadingExponent magnitude.units = leading at *
  dsimp only at h
  split_ifs at h with hnearer hbelow habove
  · cases h
    exact ⟨hnearer, rfl, roundHalfEven_eq_or _ _⟩
  · cases h
    exact ⟨hbelow, rfl, .inl rfl⟩
  · cases h
    exact ⟨habove, rfl, .inr rfl⟩

theorem shortestOfLength?_eq_none
    (h : shortestOfLength? readsBack magnitude.units digits = none) :
    readsBack ⟨stepsBelow magnitude digits, lastExponent magnitude digits⟩ = false ∧
      readsBack ⟨stepsBelow magnitude digits + 1, lastExponent magnitude digits⟩ = false := by
  rw [shortestOfLength?_eq] at h
  rw [stepsBelow, lastExponent]
  generalize leadingExponent magnitude.units = leading at *
  dsimp only at h
  split_ifs at h with hnearer hbelow habove
  exact ⟨Bool.eq_false_of_not_eq_true hbelow, Bool.eq_false_of_not_eq_true habove⟩

theorem findSome?_range_eq_some {α : Type} {f : Nat → Option α} {n : Nat} {a : α}
    (h : (List.range n).findSome? f = some a) : ∃ k < n, f k = some a ∧ ∀ j < k, f j = none := by
  obtain ⟨before, k, after, hrange, hk, hbefore⟩ := List.findSome?_eq_some_iff.mp h
  rw [List.range_eq_range'] at hrange
  obtain ⟨length, hlength, rfl, hafter⟩ := List.range'_eq_append_iff.mp hrange
  obtain ⟨heq, hpos, -⟩ := List.range'_eq_cons_iff.mp hafter.symm
  refine ⟨k, by omega, hk, fun j hj => hbefore j ?_⟩
  rw [List.mem_range'_1]
  omega

theorem shortestDecimal_of_exists {units : Nat}
    (h : ∃ n < 17, shortestOfLength? readsBack units (n + 1) ≠ none) :
    ∃ n < 17, shortestOfLength? readsBack units (n + 1) = some (shortestDecimal readsBack units) ∧
      ∀ m < n, shortestOfLength? readsBack units (m + 1) = none := by
  obtain ⟨point, hpoint⟩ : ∃ point, (List.range 17).findSome?
      (fun n => shortestOfLength? readsBack units (n + 1)) = some point := by
    obtain ⟨n, hn, hne⟩ := h
    rw [← Option.isSome_iff_exists, List.findSome?_isSome_iff]
    exact ⟨n, List.mem_range.mpr hn, Option.isSome_iff_ne_none.mpr hne⟩
  have hshortest : shortestDecimal readsBack units = point := by
    rw [shortestDecimal, hpoint, Option.getD_some]
  rw [hshortest]
  exact findSome?_range_eq_some hpoint

/-! ## The shortest decimal -/

def readsAs (magnitude : Magnitude) (point : DecimalPoint) : Bool :=
  ofScientific false point.coefficient point.exponent = .finite false magnitude

theorem readsAs_iff {point : DecimalPoint} :
    readsAs magnitude point = true ↔ magnitude.ReadsBack point.value := by
  rw [readsAs, decide_eq_true_iff, ← isRounding_scientific_iff]
  rfl

theorem shortestOfLength?_ne_none
    (h : magnitude.ReadsBack (stepsBelow magnitude digits * step magnitude digits) ∨
      magnitude.ReadsBack ((stepsBelow magnitude digits + 1 : Nat) * step magnitude digits)) :
    shortestOfLength? (readsAs magnitude) magnitude.units digits ≠ none := by
  intro hnone
  obtain ⟨hbelow, habove⟩ := shortestOfLength?_eq_none hnone
  rcases h with hread | hread
  · rw [readsAs_iff.mpr hread] at hbelow
    cases hbelow
  · rw [readsAs_iff.mpr hread] at habove
    cases habove

/-- The search ends with a hit, of the least length there is. -/
theorem shortest_spec (hpos : 0 < magnitude.units) :
    ∃ n < 17, shortestOfLength? (readsAs magnitude) magnitude.units (n + 1) =
        some (shortest magnitude) ∧
      ∀ m < n, shortestOfLength? (readsAs magnitude) magnitude.units (m + 1) = none :=
  shortestDecimal_of_exists
    ⟨16, by norm_num, shortestOfLength?_ne_none (neighbour_of_seventeen hpos)⟩

theorem readsBack_shortest (hpos : 0 < magnitude.units) :
    magnitude.ReadsBack (shortest magnitude).value := by
  obtain ⟨n, -, hsome, -⟩ := shortest_spec hpos
  exact readsAs_iff.mp (shortestOfLength?_eq_some hsome).1

/-- The search never ends with zero: the exact decimal is none, and a zero does not read back. -/
theorem shortestDecimal_ne_zero (hpos : 0 < magnitude.units)
    (hzero : ∀ exponent, readsBack ⟨0, exponent⟩ = false) :
    (shortestDecimal readsBack magnitude.units).coefficient ≠ 0 := by
  rw [shortestDecimal]
  cases hfind : (List.range 17).findSome?
    fun n => shortestOfLength? readsBack magnitude.units (n + 1) with
  | none => exact (Nat.mul_pos hpos (Nat.pow_pos (by norm_num))).ne'
  | some point =>
      obtain ⟨n, -, hpoint⟩ := List.exists_of_findSome?_eq_some hfind
      have hread := (shortestOfLength?_eq_some hpoint).1
      obtain ⟨coefficient, exponent⟩ := point
      rintro rfl
      rw [hzero] at hread
      cases hread

theorem shortest_ne_zero (hpos : 0 < magnitude.units) : (shortest magnitude).coefficient ≠ 0 := by
  apply shortestDecimal_ne_zero hpos
  intro exponent
  have hnot : ¬ readsAs magnitude ⟨0, exponent⟩ = true := by
    rw [readsAs_iff, DecimalPoint.value, Nat.cast_zero, zero_mul, Magnitude.readsBack_zero_iff]
    exact hpos.ne'
  exact Bool.eq_false_of_not_eq_true hnot

theorem shortestSingle_ne_zero (hpos : 0 < magnitude.units) :
    (shortestSingle magnitude).coefficient ≠ 0 := by
  apply shortestDecimal_ne_zero hpos
  intro exponent
  have hround {den : Nat} (hden : 0 < den) : Grid.single.round 0 den ≠ magnitude.units := by
    have := Grid.single.round_point hden (dvd_zero _)
    rw [Nat.zero_mul] at this
    rw [this]
    exact hpos.ne
  dsimp only
  split <;> simp [hround]

end Neighbours

/-! ## Significant digits -/

theorem length_withoutTrailingZeros_le (digits : Text) :
    (withoutTrailingZeros digits).length ≤ digits.length := by
  have := (List.dropWhile_sublist (p := (· = '0')) (l := digits.reverse)).length_le
  simpa [withoutTrailingZeros] using this

theorem withoutTrailingZeros_append_zero (digits : Text) :
    withoutTrailingZeros (digits ++ ['0']) = withoutTrailingZeros digits := by
  simp [withoutTrailingZeros]

/-- A carry to the next power of ten leaves one significant digit. -/
theorem length_significant_le {coefficient digits : Nat} (hdigits : 0 < digits)
    (h : coefficient ≤ 10 ^ digits) :
    (withoutTrailingZeros (.ofNat coefficient)).length ≤ digits := by
  rcases Nat.lt_or_eq_of_le h with hlt | rfl
  · exact (length_withoutTrailingZeros_le _).trans (length_ofNat_le hdigits hlt)
  · obtain ⟨n, rfl⟩ := Nat.exists_eq_succ_of_ne_zero hdigits.ne'
    have hlast : Text.ofNat (10 ^ (n + 1)) = .ofNat (10 ^ n) ++ ['0'] := by
      have hbase : 10 ≤ 10 ^ (n + 1) := Nat.le_self_pow n.succ_ne_zero 10
      rw [Text.ofNat, Nat.toDigits_of_base_le (by norm_num) hbase, pow_succ,
        Nat.mul_div_cancel _ (by norm_num), Nat.mul_mod_left]
      rfl
    rw [hlast, withoutTrailingZeros_append_zero]
    refine (length_withoutTrailingZeros_le _).trans (length_ofNat_le n.succ_pos ?_)
    exact Nat.pow_lt_pow_right (by norm_num) n.lt_succ_self

end Binary64

namespace Magnitude

open Binary64

/-- The decimal reads back as the magnitude, and no decimal with fewer digits does. -/
structure IsShortest (magnitude : Magnitude) (point : DecimalPoint) : Prop where
  readsBack : magnitude.ReadsBack point.value
  fewest : ∀ other : DecimalPoint, magnitude.ReadsBack other.value →
    (withoutTrailingZeros (.ofNat point.coefficient)).length ≤ (Text.ofNat other.coefficient).length

theorem isShortest_zero {magnitude : Magnitude} (h : magnitude.units = 0) :
    magnitude.IsShortest ⟨0, 0⟩ where
  readsBack := by
    rw [DecimalPoint.value, Nat.cast_zero, zero_mul]
    exact readsBack_zero_iff.mpr h
  fewest := fun _ _ => Nat.zero_le _

theorem isShortest_shortest {magnitude : Magnitude} (hpos : 0 < magnitude.units) :
    magnitude.IsShortest (shortest magnitude) where
  readsBack := readsBack_shortest hpos
  fewest := by
    intro other hother
    obtain ⟨n, hn, hsome, hnone⟩ := shortest_spec hpos
    have hlength : 0 < (Text.ofNat other.coefficient).length :=
      List.length_pos_iff.mpr (ofNat_ne_nil _)
    obtain ⟨-, -, hcoefficient⟩ := shortestOfLength?_eq_some hsome
    have hle : (shortest magnitude).coefficient ≤ 10 ^ (n + 1) := by
      have := stepsBelow_lt hpos (n + 1)
      omega
    refine (length_significant_le n.succ_pos hle).trans ?_
    by_contra hshorter
    have hearlier := hnone ((Text.ofNat other.coefficient).length - 1) (by omega)
    rw [Nat.sub_add_cancel hlength] at hearlier
    exact shortestOfLength?_ne_none
      (neighbour_of_readsBack hpos hlength (lt_ten_pow_length other.coefficient) hother) hearlier

end Magnitude

end Scoreboard
