import Mathlib
import Scoreboard.Proofs.DecimalSpellings
import Scoreboard.Proofs.ExactNumbers

/-!
# Reading displayed numbers again

A displayed number is read as the double nearest to it, which is no farther from it than the number
that was displayed, and so is displayed alike.  Only a half could be taken the other way: then the
two doubles would be one unit of the last place apart, which is no power of two unless there are no
decimals, and whole numbers are read as themselves.
-/

namespace Scoreboard

open Display

/-! ## Rounding again -/

/-- A magnitude counted in units of the last decimal. -/
def scaledUnits (units decimals : Nat) : Nat := roundHalfUp (units * 10 ^ decimals) unitsPerOne

/-- The units of the double nearest to a scaled number. -/
def rereadUnits (scaled decimals : Nat) : Nat :=
  Grid.double.round (scaled * unitsPerOne) (10 ^ decimals)

theorem decimals_eq_zero {e decimals : Nat} (h : 2 ^ e * 10 ^ decimals = unitsPerOne) :
    decimals = 0 := by
  by_contra hne
  have hfive : 5 ∣ 2 ^ unitDepth := by
    rw [two_pow_unitDepth, ← h]
    exact ((by norm_num : 5 ∣ 10).trans (dvd_pow_self 10 hne)).mul_left _
  have := Nat.prime_five.dvd_of_dvd_pow hfive
  omega

/-- A number halfway below the scaled one is not read back as the number halfway above it. -/
theorem rereadUnits_ne_tie {units scaled decimals : Nat} (hpoint : Grid.double.IsPoint units)
    (hlow : 2 * (units * 10 ^ decimals) + unitsPerOne = 2 * (scaled * unitsPerOne)) :
    2 * (rereadUnits scaled decimals * 10 ^ decimals) ≠ 2 * (scaled * unitsPerOne) + unitsPerOne := by
  intro hhigh
  have hplace : 0 < 10 ^ decimals := by positivity
  have hunits := unitsPerOne_pos
  have hgap : rereadUnits scaled decimals =
      units + 2 ^ Grid.double.spacing (scaled * unitsPerOne) (10 ^ decimals) := by
    apply Grid.double.round_eq_of_tie hplace hpoint
    · linarith
    · change 2 * (scaled * unitsPerOne) = (units + rereadUnits scaled decimals) * 10 ^ decimals
      linarith
  have hpower : 2 ^ Grid.double.spacing (scaled * unitsPerOne) (10 ^ decimals) * 10 ^ decimals =
      unitsPerOne := by
    rw [hgap] at hhigh
    linarith
  have hzero := decimals_eq_zero hpower
  subst hzero
  rw [Nat.pow_zero, Nat.mul_one] at hpower
  have hwhole : Grid.double.IsPoint (scaled * unitsPerOne) := by
    rw [Grid.IsPoint, hpower]
    exact Nat.dvd_mul_left _ _
  have hread : rereadUnits scaled 0 = scaled * unitsPerOne := by
    have := Grid.double.round_point Nat.one_pos hwhole
    rwa [Nat.mul_one] at this
  rw [hread] at hhigh
  omega

theorem rereadUnits_nearest {units : Nat} (hpoint : Grid.double.IsPoint units)
    (scaled decimals : Nat) :
    |(rereadUnits scaled decimals * 10 ^ decimals : Rat) - scaled * unitsPerOne| ≤
      |(units * 10 ^ decimals : Rat) - scaled * unitsPerOne| := by
  have hround : |(rereadUnits scaled decimals : Rat) -
        (scaled * unitsPerOne : Nat) / (10 ^ decimals : Nat)| ≤
      |(units : Rat) - (scaled * unitsPerOne : Nat) / (10 ^ decimals : Nat)| :=
    Grid.double.round_nearest (by positivity) hpoint
  have hcross (k : Nat) : (k * 10 ^ decimals : Rat) - scaled * unitsPerOne =
      ((k : Rat) - (scaled * unitsPerOne : Nat) / (10 ^ decimals : Nat)) * 10 ^ decimals := by
    push_cast
    field_simp
  rw [hcross, hcross, abs_mul, abs_mul]
  exact mul_le_mul_of_nonneg_right hround (abs_nonneg _)

theorem scaledUnits_error (units decimals : Nat) :
    |(units * 10 ^ decimals : Rat) - scaledUnits units decimals * unitsPerOne| ≤
      unitsPerOne / 2 := by
  rw [abs_sub_comm]
  exact_mod_cast abs_roundHalfUp_error (units * 10 ^ decimals) unitsPerOne_pos

/-- The double read for a scaled number has the same scaled number. -/
theorem scaledUnits_reread {units : Nat} (hpoint : Grid.double.IsPoint units) (decimals : Nat) :
    scaledUnits (rereadUnits (scaledUnits units decimals) decimals) decimals =
      scaledUnits units decimals := by
  have hunits : (0 : Rat) < unitsPerOne := by exact_mod_cast unitsPerOne_pos
  obtain ⟨habove, hbelow⟩ := roundHalfUp_error (units * 10 ^ decimals) unitsPerOne_pos
  have hnearest := rereadUnits_nearest hpoint (scaledUnits units decimals) decimals
  obtain ⟨hlow, hhigh⟩ := abs_le.mp (hnearest.trans (scaledUnits_error units decimals))
  rw [← scaledUnits] at habove hbelow
  set scaled := scaledUnits units decimals
  set read := rereadUnits scaled decimals
  apply roundHalfUp_eq
  · have hle : 2 * (read * 10 ^ decimals) ≤ (2 * scaled + 1) * unitsPerOne := by
      have : (2 : Rat) * (read * 10 ^ decimals) ≤ (2 * scaled + 1) * unitsPerOne := by linarith
      exact_mod_cast this
    refine lt_of_le_of_ne hle fun heq => ?_
    have hread : (read * 10 ^ decimals : Rat) - scaled * unitsPerOne = unitsPerOne / 2 := by
      have : (2 : Rat) * (read * 10 ^ decimals) = (2 * scaled + 1) * unitsPerOne := by
        exact_mod_cast heq
      linarith
    -- The number itself is then as far away, and below: a half above would have been taken up.
    rw [hread, abs_of_pos (half_pos hunits), le_abs] at hnearest
    have habove : (2 : Rat) * (units * 10 ^ decimals) < (2 * scaled + 1) * unitsPerOne := by
      exact_mod_cast habove
    have hunder : (2 : Rat) * (units * 10 ^ decimals) + unitsPerOne ≤ 2 * (scaled * unitsPerOne) := by
      rcases hnearest with hover | hunder
      · linarith
      · linarith
    have hunder : 2 * (units * 10 ^ decimals) + unitsPerOne ≤ 2 * (scaled * unitsPerOne) := by
      exact_mod_cast hunder
    have htie : 2 * (units * 10 ^ decimals) + unitsPerOne = 2 * (scaled * unitsPerOne) := by
      linarith
    exact rereadUnits_ne_tie hpoint htie (by linarith)
  · have : (2 : Rat) * scaled * unitsPerOne ≤ 2 * (read * 10 ^ decimals) + unitsPerOne := by linarith
    exact_mod_cast this

/-! ## Displayed doubles -/

/-- A double that is not small is whole, and so are its roundings to any decimals. -/
theorem unitsPerOne_dvd {units : Nat} (hpoint : Grid.double.IsPoint units)
    (h : 2 ^ 53 * unitsPerOne ≤ units) : unitsPerOne ∣ units := by
  refine dvd_trans ?_ hpoint
  rw [← two_pow_unitDepth]
  apply pow_dvd_pow
  have hlog : unitDepth + 53 ≤ units.log2 := by
    rw [Nat.le_log2, pow_add, two_pow_unitDepth]
    · linarith
    · have := unitsPerOne_pos
      omega
  simp only [Grid.spacing, Grid.double, Nat.div_one]
  omega

theorem scaledUnits_whole (n decimals : Nat) :
    scaledUnits (n * unitsPerOne) decimals = n * 10 ^ decimals := by
  rw [scaledUnits, Nat.mul_right_comm, roundHalfUp_mul _ unitsPerOne_pos]

theorem exists_point_above (magnitude : Magnitude) (decimals : Nat) :
    ∃ k, Grid.double.IsPoint k ∧ k < overflow ∧
      scaledUnits magnitude.units decimals * unitsPerOne ≤ k * 10 ^ decimals := by
  rcases Nat.le_total magnitude.units (2 ^ 53 * unitsPerOne) with hsmall | hlarge
  · refine ⟨2 ^ 53 * unitsPerOne, isPoint_whole le_rfl, whole_lt_overflow (by decide +kernel), ?_⟩
    have hscaled : scaledUnits magnitude.units decimals ≤ 2 ^ 53 * 10 ^ decimals := by
      apply roundHalfUp_le unitsPerOne_pos
      rw [Nat.mul_right_comm]
      exact Nat.mul_le_mul_right _ hsmall
    rw [Nat.mul_right_comm]
    exact Nat.mul_le_mul_right _ hscaled
  · obtain ⟨n, hn⟩ := unitsPerOne_dvd magnitude.isPoint hlarge
    refine ⟨magnitude.units, magnitude.isPoint, magnitude.units_lt, ?_⟩
    rw [hn, Nat.mul_comm unitsPerOne n, scaledUnits_whole, Nat.mul_right_comm]

namespace Display

variable {negative : Bool} {magnitude other : Magnitude} {decimals : Nat} {text : Text}

theorem invariantFixed_congr
    (h : scaledUnits magnitude.units decimals = scaledUnits other.units decimals) :
    invariantFixed (.finite negative magnitude) decimals =
      invariantFixed (.finite negative other) decimals := by
  unfold scaledUnits at h
  rw [invariantFixed_eq, invariantFixed_eq]
  simp only [plainFixed, ratioText, Int.toNat_natCast, h]

theorem eq_of_invariantFixed (h : invariantFixed (.finite negative magnitude) decimals = .ok text) :
    text = Binary64.signText negative ++
      unsignedText (scaledUnits magnitude.units decimals) decimals := by
  rw [invariantFixed_eq, plainFixed, ratioText] at h
  obtain ⟨-, -, h⟩ := bind_eq_ok.mp h
  rw [if_neg (by omega), Int.toNat_natCast] at h
  dsimp only at h
  split at h
  · cases h
  · exact (Except.ok.inj h).symm

theorem toNumber_fixed (negative : Bool) (magnitude : Magnitude) (decimals : Nat) :
    ∃ read, (Value.text (withoutCommas (Binary64.signText negative ++
      unsignedText (scaledUnits magnitude.units decimals) decimals))).toNumber.outcome =
        .ok (.finite negative read) ∧
      read.units = rereadUnits (scaledUnits magnitude.units decimals) decimals := by
  obtain ⟨k, hpoint, hfinite, hbound⟩ := exists_point_above magnitude decimals
  obtain ⟨read, hnearest, hunits⟩ :=
    Binary64.nearest_finite negative (show 0 < 10 ^ decimals by positivity) hpoint hfinite hbound
  refine ⟨read, ?_, hunits⟩
  rw [withoutCommas_fixed, Value.toNumber_text, DecimalSpelling.readNumber_text, literal_spelling,
    Literal.toBinary64, Binary64.ofScientific_eq]
  rw [Int.toNat_neg_natCast, neg_neg, Int.toNat_natCast, Nat.pow_zero, Nat.mul_one]
  rw [Binary64.ofRatio, hnearest]

/--
A displayed number is read as a double that is displayed alike, and a whole number that is displayed
without decimals as itself.
-/
theorem invariantFixed_reread
    (h : invariantFixed (.finite negative magnitude) decimals = .ok text) :
    ∃ read, (Value.text (withoutCommas text)).toNumber.outcome = .ok (.finite negative read) ∧
      invariantFixed (.finite negative read) decimals = .ok text ∧
        (decimals = 0 → unitsPerOne ∣ magnitude.units → read = magnitude) := by
  obtain ⟨read, hread, hunits⟩ := toNumber_fixed negative magnitude decimals
  rw [← eq_of_invariantFixed h] at hread
  refine ⟨read, hread, ?_, ?_⟩
  · rw [← h]
    apply invariantFixed_congr
    rw [hunits, scaledUnits_reread magnitude.isPoint]
  · rintro rfl ⟨n, hn⟩
    have hwhole := magnitude.isPoint
    rw [hn, Nat.mul_comm] at hwhole
    have hround := Grid.double.round_point Nat.one_pos hwhole
    rw [Nat.mul_one] at hround
    apply Magnitude.eq_of_units
    rw [hunits, hn, Nat.mul_comm, scaledUnits_whole, Nat.pow_zero, Nat.mul_one]
    exact hround

/-- A negative half above a whole number, which is shown with commas. -/
theorem invariantFixed_reread_of_half : ∃ magnitude read,
    Binary64.ofRatio true 2469135 2 = .finite true magnitude ∧
      invariantFixed (.finite true magnitude) 0 = .ok "-1,234,568".toList ∧
      (Value.text "-1234568".toList).toNumber.outcome = .ok (.finite true read) ∧
      invariantFixed (.finite true read) 0 = .ok "-1,234,568".toList := by
  have hshown : invariantFixed (.ofRatio true 2469135 2) 0 = .ok "-1,234,568".toList := by
    decide +kernel
  have hhalf : Binary64.ofRatio true 2469135 2 =
      .finite true ⟨2469135 * 2 ^ 1073, by decide +kernel, by decide +kernel⟩ := by
    decide +kernel
  rw [hhalf] at hshown ⊢
  obtain ⟨read, hread, hagain, -⟩ := invariantFixed_reread hshown
  exact ⟨_, read, rfl, hshown, hread, hagain⟩

end Display

end Scoreboard
