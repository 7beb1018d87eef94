import Mathlib
import Scoreboard.Proofs.Agreement
import Scoreboard.Proofs.PrintedNumbers
import Scoreboard.Proofs.Shares

/-!
# Whole numbers as they are shown

A whole number is shown by the double nearest to it.  Every double from `2 ^ 53` on is whole, so that
rounding leaves nothing behind the point, and what is shown is the text of a whole number again: of the
number itself if a double stands for it, as one does for all numbers up to `2 ^ 53`, and of another one
if not.  From half a spacing below `2 ^ 1024` on no number is shown.
-/

namespace Scoreboard

open Display

/-! ## Whole doubles -/

theorem unitsPerOne_dvd_doubleUnits (n : Nat) : unitsPerOne ∣ doubleUnits n := by
  rcases Nat.le_total n (2 ^ 53) with hsmall | hlarge
  · rw [doubleUnits_eq hsmall]
    exact Nat.dvd_mul_left _ _
  · -- Doubles of this size are a multiple of two apart.
    have hleast : unitDepth ≤ Grid.double.spacing (2 ^ 53 * unitsPerOne) 1 := by decide +kernel
    have hspacing : unitDepth ≤ Grid.double.spacing (n * unitsPerOne) 1 :=
      hleast.trans (Grid.double.spacing_mono Nat.one_pos Nat.one_pos
        (Nat.mul_le_mul_right 1 (Nat.mul_le_mul_right unitsPerOne hlarge)))
    rw [← two_pow_unitDepth]
    exact (pow_dvd_pow 2 hspacing).trans (Nat.dvd_mul_left _ _)

theorem exists_doubleUnits_eq (n : Nat) :
    ∃ whole, doubleUnits n = whole * unitsPerOne ∧ (0 < n → 0 < whole) := by
  obtain ⟨whole, hwhole⟩ := unitsPerOne_dvd_doubleUnits n
  rw [Nat.mul_comm] at hwhole
  refine ⟨whole, hwhole, fun hpos => ?_⟩
  have := doubleUnits_pos hpos
  rw [hwhole] at this
  exact Nat.pos_of_mul_pos_right this

/-- A double stands for the whole number exactly. -/
def IsDouble (n : Int) : Prop := ∃ x : Binary64, x.toRat? = some (n : Rat)

theorem Magnitude.value_whole {magnitude : Magnitude} {whole : Nat}
    (h : magnitude.units = whole * unitsPerOne) : magnitude.value = whole := by
  have hone : (unitsPerOne : Rat) ≠ 0 := by exact_mod_cast unitsPerOne_pos.ne'
  rw [value, h, Nat.cast_mul, mul_div_cancel_right₀ _ hone]

namespace Binary64

theorem exactValue_whole (negative : Bool) {magnitude : Magnitude} {whole : Nat}
    (h : magnitude.units = whole * unitsPerOne) :
    exactValue negative magnitude = (signedNumber negative whole : Int) := by
  have hvalue := Magnitude.value_whole h
  unfold signedNumber
  cases negative with
  | false => simp [exactValue_false, hvalue]
  | true => simp [exactValue_true, hvalue]

variable {n : Int}

theorem exactValue_of_abs {magnitude : Magnitude} (h : magnitude.value = |(n : Rat)|) :
    exactValue (n < 0) magnitude = n := by
  by_cases hneg : n < 0
  · have hneg' : (n : Rat) < 0 := by exact_mod_cast hneg
    simp [hneg, exactValue_true, h, abs_of_neg hneg']
  · have hnonneg : (0 : Rat) ≤ n := by exact_mod_cast not_lt.mp hneg
    simp [hneg, exactValue_false, h, abs_of_nonneg hnonneg]

theorem isDouble_of_le (h : n.natAbs ≤ 2 ^ 53) : IsDouble n := by
  have hround : Grid.double.round (n.natAbs * unitsPerOne) 1 = n.natAbs * unitsPerOne :=
    doubleUnits_eq h
  let magnitude : Magnitude :=
    { units := n.natAbs * unitsPerOne
      units_lt := whole_lt_overflow (h.trans_lt (by decide +kernel))
      granular := hround ▸ Grid.double.round_granular _ 1 }
  have hvalue : magnitude.value = |(n : Rat)| := by
    rw [Magnitude.value_whole rfl, Nat.cast_natAbs, Int.cast_abs]
  exact ⟨.finite (n < 0) magnitude, congrArg some (exactValue_of_abs hvalue)⟩

/-- A number that a double stands for is rounded to that double. -/
theorem isDouble_iff_of_isRounding {x : Binary64} (h : IsRounding (n < 0) |(n : Rat)| x) :
    IsDouble n ↔ x.toRat? = some (n : Rat) := by
  refine ⟨?_, fun hx => ⟨x, hx⟩⟩
  rintro ⟨y, hy⟩
  cases y with
  | nan => cases hy
  | infinite negative => cases hy
  | finite negative magnitude =>
      have hvalue : magnitude.value = |(n : Rat)| := by
        rw [← abs_exactValue negative, Option.some.inj hy]
      have hround : IsRounding (n < 0) |(n : Rat)| (.finite (n < 0) magnitude) := by
        rw [Magnitude.isRounding_finite_iff, ← hvalue]
        exact magnitude.readsBack_value
      rw [h.unique hround]
      exact congrArg some (exactValue_of_abs hvalue)

/-- The double nearest to a whole number is whole, and no zero unless the number is. -/
theorem exists_whole_of_ofInt? {magnitude : Magnitude}
    (h : ofInt? n = some (.finite (n < 0) magnitude)) :
    ∃ whole, magnitude.units = whole * unitsPerOne ∧ (n < 0 → 0 < whole) := by
  obtain ⟨magnitude', hnearest, hsame⟩ := Option.map_eq_some_iff.mp h
  cases hsame
  obtain ⟨whole, hwhole, hpos⟩ := exists_doubleUnits_eq n.natAbs
  exact ⟨whole, (units_of_nearest? hnearest).trans hwhole, fun hneg => hpos (by omega)⟩

end Binary64

/-! ## Texts of whole numbers -/

namespace Text

theorem ofInt_signedNumber {negative : Bool} {whole : Nat} (h : negative = true → 0 < whole) :
    ofInt (signedNumber negative whole) = Binary64.signText negative ++ ofNat whole := by
  cases negative with
  | false => exact ofInt_natCast whole
  | true => simp [ofInt, signedNumber, Binary64.signText, (h rfl).ne']

theorem mem_ofInt {n : Int} {c : Char} (h : c ∈ ofInt n) : c = '-' ∨ c.isDigit = true := by
  rw [ofInt_eq] at h
  rcases List.mem_append.mp h with hsign | hdigit
  · left
    unfold Binary64.signText at hsign
    split at hsign
    · exact List.mem_singleton.mp hsign
    · cases hsign
  · exact .inr (allDigits_ofNat _ _ hdigit)

theorem ofInt_injective : Function.Injective ofInt := by
  intro m n h
  have hdigits (k : Nat) : '-' ∉ ofNat k := fun hmem =>
    absurd (allDigits_ofNat k _ hmem) (by decide)
  have hnumber {j k : Nat} (h : ofNat j = ofNat k) : j = k := by
    rw [← ofDigitChars_ofNat j, h, ofDigitChars_ofNat]
  unfold ofInt at h
  split_ifs at h with hm hn hn
  · have := hnumber (List.cons.inj h).2
    omega
  · exact absurd (h ▸ List.mem_cons_self) (hdigits n.natAbs)
  · exact absurd (h.symm ▸ List.mem_cons_self) (hdigits m.natAbs)
  · have := hnumber h
    omega

end Text

/-! ## Shown whole numbers -/

namespace Display

variable {n : Int}

theorem withoutCommas_wholeText {negative : Bool} {whole : Nat} (h : negative = true → 0 < whole) :
    withoutCommas (Binary64.signText negative ++ unsignedText whole integerDecimals) =
      .ofInt (signedNumber negative whole) := by
  rw [withoutCommas_signed, withoutCommas_whole, Text.ofInt_signedNumber h]

theorem integer_of_finite {magnitude : Magnitude}
    (h : Binary64.ofInt? n = some (.finite (n < 0) magnitude)) :
    ∃ (m : Int) (text : Text), Binary64.exactValue (n < 0) magnitude = m ∧
      (integer (.int n)).outcome = .ok text ∧ withoutCommas text = .ofInt m := by
  obtain ⟨whole, hunits, hpos⟩ := Binary64.exists_whole_of_ofInt? h
  refine ⟨signedNumber (n < 0) whole, _, Binary64.exactValue_whole _ hunits, ?_,
    withoutCommas_wholeText (by simpa using hpos)⟩
  rw [outcome_integer_finite h, hunits, roundHalfUp_mul whole unitsPerOne_pos]

theorem integer_of_none (h : Binary64.ofInt? n = none) :
    (integer (.int n)).outcome = .ok "nan".toList := by
  rw [outcome_integer, h, Option.getD_none, invariantFixed_eq]
  exact wordText_natCast fits_integerDecimals _

theorem withoutCommas_nan_ne (n : Int) : withoutCommas "nan".toList ≠ .ofInt n := by
  intro h
  have hmem : 'n' ∈ Text.ofInt n := h ▸ by decide
  rcases Text.mem_ofInt hmem with hminus | hdigit
  · exact absurd hminus (by decide)
  · exact absurd hdigit (by decide)

/-- The text of a whole number that is rounded to this double. -/
structure ShowsWhole (n : Int) (x : Binary64) (text : Text) : Prop where
  rounded : ∀ q, x.toRat? = some q → ∃ m : Int, q = m ∧ withoutCommas text = .ofInt m
  itself : withoutCommas text = .ofInt n ↔ IsDouble n
  small : n.natAbs ≤ 2 ^ 53 → withoutCommas text = .ofInt n
  beyond : text = "nan".toList ↔ ∃ negative, x = .infinite negative

theorem showsWhole_finite {magnitude : Magnitude} {m : Int} {text : Text}
    (hround : Binary64.IsRounding (n < 0) |(n : Rat)| (.finite (n < 0) magnitude))
    (hvalue : Binary64.exactValue (n < 0) magnitude = m) (htext : withoutCommas text = .ofInt m) :
    ShowsWhole n (.finite (n < 0) magnitude) text := by
  have hitself : withoutCommas text = .ofInt n ↔ IsDouble n := by
    rw [htext, Text.ofInt_injective.eq_iff, Binary64.isDouble_iff_of_isRounding hround,
      Binary64.toRat?, hvalue, Option.some.injEq, Int.cast_inj]
  constructor
  case rounded =>
    rintro q ⟨⟩
    exact ⟨m, hvalue, htext⟩
  case itself => exact hitself
  case small => exact fun hsmall => hitself.mpr (Binary64.isDouble_of_le hsmall)
  case beyond =>
    refine iff_of_false (fun hnan => ?_) (by simp)
    exact withoutCommas_nan_ne m (hnan ▸ htext)

theorem showsWhole_infinite
    (hround : Binary64.IsRounding (n < 0) |(n : Rat)| (.infinite (n < 0))) :
    ShowsWhole n (.infinite (n < 0)) "nan".toList := by
  have hnone : ¬ IsDouble n := by
    rw [Binary64.isDouble_iff_of_isRounding hround]
    exact nofun
  constructor
  case rounded => exact nofun
  case itself => exact iff_of_false (withoutCommas_nan_ne n) hnone
  case small => exact fun hsmall => absurd (Binary64.isDouble_of_le hsmall) hnone
  case beyond => exact iff_of_true rfl ⟨_, rfl⟩

/-- Every whole number is shown by what it is rounded to, which is infinite from the limit on. -/
theorem exists_showsWhole (n : Int) :
    ∃ x text, Binary64.IsRounding (n < 0) |(n : Rat)| x ∧
      (integer (.int n)).outcome = .ok text ∧ ShowsWhole n x text ∧
        (x = .infinite (n < 0) ↔ doubleLimit ≤ n.natAbs) := by
  simp only [← ofInt?_eq_none_iff]
  rcases Binary64.ofInt?_cases n with ⟨magnitude, hdouble, hround⟩ | ⟨hnone, hround⟩
  · obtain ⟨m, text, hvalue, hshown, htext⟩ := integer_of_finite hdouble
    refine ⟨_, text, hround, hshown, showsWhole_finite hround hvalue htext, ?_⟩
    rw [hdouble]
    exact iff_of_false nofun nofun
  · exact ⟨_, _, hround, integer_of_none hnone, showsWhole_infinite hround, iff_of_true rfl hnone⟩

example : (integer (.int (-9007199254740993))).outcome = .ok "-9,007,199,254,740,992".toList := by
  decide +kernel

end Display

end Scoreboard
