import Mathlib
import Scoreboard.Proofs.FixedTexts
import Scoreboard.Proofs.Rereading

/-!
# The limit of precision

A finite double has a text with a fixed count of decimals unless there are too many digits in the
number that it is rounded to, or no place to round to.  Up to 91 decimals this happens to no double,
and from 92 on to the greatest one.  So no whole number and no percentage that is shown is too long.
-/

namespace Scoreboard

namespace Display

/-! ## Finite doubles -/

theorem failsIf_requirePlace (decimals : Nat) :
    FailsIf (shiftLimit < decimals) .beyondPrecision (requirePlace decimals) := by
  constructor
  · intro hfar
    exact if_pos hfar
  · intro hnear
    refine ⟨(), ?_⟩
    rw [requirePlace, if_neg (by omega), if_neg (by omega)]

theorem failsIf_ratioText (negative : Bool) (num den decimals : Nat) :
    FailsIf (shiftLimit < decimals ∨ 10 ^ precision ≤ roundHalfUp (num * 10 ^ decimals) den)
      .beyondPrecision (ratioText negative num den decimals) := by
  refine (failsIf_requirePlace decimals).bind fun _ => ?_
  rw [if_neg (by omega), Int.toNat_natCast]
  constructor
  · exact fun hlong => if_pos hlong
  · exact fun hshort => ⟨_, if_neg hshort⟩

theorem failsIf_invariantFixed (negative : Bool) (magnitude : Magnitude) (decimals : Nat) :
    FailsIf (shiftLimit < decimals ∨ 10 ^ precision ≤ scaledUnits magnitude.units decimals)
      .beyondPrecision (invariantFixed (.finite negative magnitude) decimals) := by
  rw [invariantFixed_eq]
  exact failsIf_ratioText negative magnitude.units unitsPerOne decimals

theorem roundsHalfUp_scaledUnits (negative : Bool) (magnitude : Magnitude) (decimals : Nat) :
    RoundsHalfUp (|Binary64.exactValue negative magnitude| * 10 ^ decimals)
      (scaledUnits magnitude.units decimals) := by
  have hrounds := roundsHalfUp_roundHalfUp (magnitude.units * 10 ^ decimals) unitsPerOne_pos
  rw [Nat.cast_mul, mul_div_right_comm, Nat.cast_pow] at hrounds
  rw [Binary64.abs_exactValue]
  exact_mod_cast hrounds

/-! ## Decimals that suit every double -/

/-- The greatest count of decimals with which no double has too many digits. -/
def safeDecimals : Nat := 91

theorem fits_of_le {decimals : Nat} (h : decimals ≤ safeDecimals) : Fits decimals := by
  have hsafe : 2 ^ 1024 * 10 ^ safeDecimals < 10 ^ precision := by decide +kernel
  have hpower : 10 ^ decimals ≤ 10 ^ safeDecimals := Nat.pow_le_pow_right (by norm_num) h
  exact (Nat.mul_le_mul_left _ hpower).trans_lt hsafe

/-- The greatest double, which is a whole number. -/
def greatest : Magnitude where
  units := greatestUnits
  units_lt := by decide +kernel
  granular := by decide +kernel

theorem le_scaledUnits_greatest {decimals : Nat} (h : safeDecimals < decimals) :
    10 ^ precision ≤ scaledUnits greatest.units decimals := by
  obtain ⟨whole, hwhole⟩ : unitsPerOne ∣ greatest.units :=
    unitsPerOne_dvd greatest.isPoint (by decide +kernel)
  have hlarge : 10 ^ precision * unitsPerOne ≤ greatest.units * 10 ^ (safeDecimals + 1) := by
    decide +kernel
  have hpower : 10 ^ (safeDecimals + 1) ≤ 10 ^ decimals := Nat.pow_le_pow_right (by norm_num) h
  -- The greatest double is whole, so that nothing is rounded, whatever the count of decimals is.
  rw [hwhole, Nat.mul_comm unitsPerOne, scaledUnits_whole]
  rw [hwhole, Nat.mul_comm unitsPerOne, Nat.mul_right_comm] at hlarge
  exact (Nat.le_of_mul_le_mul_right hlarge unitsPerOne_pos).trans (Nat.mul_le_mul_left _ hpower)

theorem forall_invariantFixed_iff (decimals : Nat) :
    (∀ negative magnitude, ∃ text, invariantFixed (.finite negative magnitude) decimals = .ok text) ↔
      decimals ≤ safeDecimals := by
  constructor
  · intro h
    by_contra hmany
    obtain ⟨text, htext⟩ := h false greatest
    have hlong := le_scaledUnits_greatest (not_le.mp hmany)
    rw [(failsIf_invariantFixed false greatest decimals).fails (.inr hlong)] at htext
    cases htext
  · exact fun h negative magnitude => exists_invariantFixed (fits_of_le h) _

end Display

/-! ## Values as they are shown -/

namespace Value

theorem not_refused_beyondPrecision (value : Value) : ¬ value.Refused .beyondPrecision := by
  intro h
  rcases h.kind_eq with hkind | hkind <;> cases hkind

end Value

namespace Display

/--
A finite double has no text exactly if it is rounded to a number of more than 400 digits, or if there
is no place to round to.
-/
theorem precision_suffices :
    (∀ (negative : Bool) (magnitude : Magnitude) (decimals : Nat), ∃ n,
      RoundsHalfUp (|Binary64.exactValue negative magnitude| * 10 ^ decimals) n ∧
        FailsIf (shiftLimit < decimals ∨ 10 ^ precision ≤ n) .beyondPrecision
          (invariantFixed (.finite negative magnitude) decimals)) ∧
    (∀ decimals, (∀ negative magnitude,
      ∃ text, invariantFixed (.finite negative magnitude) decimals = .ok text) ↔
        decimals ≤ safeDecimals) ∧
    ∀ value : Value, (integer value).outcome ≠ .error .beyondPrecision ∧
      (percent value).outcome ≠ .error .beyondPrecision := by
  refine ⟨fun negative magnitude decimals => ?_, forall_invariantFixed_iff, fun value => ?_⟩
  · exact ⟨_, roundsHalfUp_scaledUnits negative magnitude decimals,
      failsIf_invariantFixed negative magnitude decimals⟩
  · have hkept := value.not_refused_beyondPrecision
    exact ⟨mt value.integer_eq_error_iff.mp hkept, mt value.percent_eq_error_iff.mp hkept⟩

end Display

end Scoreboard
