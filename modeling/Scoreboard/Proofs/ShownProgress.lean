import Mathlib
import Scoreboard.Proofs.PlainTexts
import Scoreboard.Proofs.ReadBack
import Scoreboard.Proofs.ShownShares

/-!
# Shown progress

Counts of tiles are refused if one of them is negative or if more tiles are solved than there are; all
others are shown, whatever their size.  Their quotient is rounded to a double, the hundredfold of it
to another, and that to a tenth.  None of the three roundings reverses the order of two quotients.
With less than `2 ^ 1024` tiles a quotient is zero, and shown as absent, only if no tile is solved.
-/

namespace Scoreboard

open Display

variable {solved total : Int}

/-! ## Refused tiles -/

/-- Why the counts have no share.  The message on an excess names both counts, if they have a text. -/
inductive TilesRefused (solved total : Int) : Fault → Prop where
  | negative : solved < 0 ∨ total < 0 → TilesRefused solved total .negativeTiles
  | excess : 0 ≤ total → total < solved → ¬ IsLong solved →
      TilesRefused solved total (.solvedExceedsTotal (.ofInt solved) (.ofInt total))
  | unwritable : 0 ≤ total → total < solved → IsLong solved →
      TilesRefused solved total .unwritableInteger

theorem TilesRefused.kind_eq {fault : Fault} (h : TilesRefused solved total fault) :
    fault.kind = .value := by
  cases h <;> rfl

theorem exists_tilesRefused_iff :
    (∃ fault, TilesRefused solved total fault) ↔ solved < 0 ∨ total < 0 ∨ total < solved := by
  constructor
  · rintro ⟨fault, hnegative | ⟨-, hexcess, -⟩ | ⟨-, hexcess, -⟩⟩
    · omega
    · exact .inr (.inr hexcess)
    · exact .inr (.inr hexcess)
  · intro h
    by_cases hnegative : solved < 0 ∨ total < 0
    · exact ⟨_, .negative hnegative⟩
    · by_cases hlong : IsLong solved
      · exact ⟨_, .unwritable (by omega) (by omega) hlong⟩
      · exact ⟨_, .excess (by omega) (by omega) hlong⟩

theorem solvedFraction_refused {fault : Fault} (h : TilesRefused solved total fault) :
    solvedFraction (.whole solved) (.whole total) = .error fault := by
  rw [solvedFraction_whole]
  rcases h with hnegative | ⟨hpos, hexcess, hshort⟩ | ⟨hpos, hexcess, hlong⟩
  · rw [if_pos hnegative]
  · have hsolved : integerText solved = .ok (.ofInt solved) := if_neg hshort
    have htotal : integerText total = .ok (.ofInt total) := by
      apply if_neg
      unfold IsLong at hshort
      omega
    rw [if_neg (by omega), if_pos hexcess, hsolved, ok_bind, htotal, ok_bind]
  · rw [if_neg (by omega), if_pos hexcess, (failsIf_integerText solved).fails hlong, error_bind]

theorem solvedFraction_eq_error_iff {fault : Fault} :
    solvedFraction (.whole solved) (.whole total) = .error fault ↔
      TilesRefused solved total fault := by
  constructor
  · intro herror
    by_cases hrefused : ∃ other, TilesRefused solved total other
    · obtain ⟨other, hother⟩ := hrefused
      rw [solvedFraction_refused hother] at herror
      cases herror
      exact hother
    · rw [exists_tilesRefused_iff] at hrefused
      lift solved to Nat using by omega
      lift total to Nat using by omega
      obtain ⟨fraction, hfraction⟩ := @exists_solvedFraction solved total (by omega)
      rw [hfraction] at herror
      cases herror
  · exact solvedFraction_refused

theorem progressSummary_eq_error_iff {fault : Fault} :
    (progressSummary (.whole solved) (.whole total)).outcome = .error fault ↔
      TilesRefused solved total fault := by
  obtain ⟨a, ha⟩ := exists_integer solved
  obtain ⟨b, hb⟩ := exists_integer total
  rw [outcome_progressSummary ha hb, bind_eq_error_iff, solvedFraction_eq_error_iff]
  intro fraction
  obtain ⟨progress, hprogress⟩ := exists_percent_fraction fraction
  exact ⟨⟨a, b, progress⟩, by rw [hprogress]; rfl⟩

/-! ## Three roundings -/

/-- The units of the double nearest to a share of tiles. -/
def progressUnits (solved total : Nat) : Nat := Grid.double.round (solved * unitsPerOne) total

/-- The tenths of a percent that are shown for it. -/
def progressTenths (solved total : Nat) : Nat := shownTenths (progressUnits solved total)

theorem progressTenths_mono {solved total solved' total' : Nat} (hpos : 0 < total)
    (hpos' : 0 < total') (h : solved * total' ≤ solved' * total) :
    progressTenths solved total ≤ progressTenths solved' total' := by
  apply shownTenths_mono
  apply Grid.double.round_mono hpos hpos'
  rw [Nat.mul_right_comm, Nat.mul_right_comm solved']
  exact Nat.mul_le_mul_right _ h

/-- One of so few tiles is still more than half of the least positive double. -/
theorem progressUnits_eq_zero_iff {solved total : Nat} (hpos : 0 < total)
    (htotal : total < 2 ^ 1024) : progressUnits solved total = 0 ↔ solved = 0 := by
  have hdepth : 2 ^ 1024 ≤ unitsPerOne := by decide +kernel
  rw [progressUnits, Grid.double.round_eq_zero_iff rfl hpos]
  constructor
  · intro hsmall
    by_contra hsolved
    have := Nat.le_mul_of_pos_left unitsPerOne (Nat.pos_of_ne_zero hsolved)
    omega
  · rintro rfl
    simp

section Share

variable {solved total : Nat} (hpos : 0 < total) (h : solved ≤ total)

include hpos h

theorem progressTenths_le : progressTenths solved total ≤ 1000 := by
  obtain ⟨magnitude, -, hunits, hone, -⟩ := Binary64.nearest_ratio false hpos h
  rw [progressTenths, progressUnits, ← hunits]
  exact shownTenths_le hone

/-- The two roundings to doubles add less than `2 ^ -45` to half a tenth. -/
theorem progressTenths_error :
    |(progressTenths solved total : Rat) / 10 - 100 * solved / total| ≤ 1 / 20 + 1 / 2 ^ 45 := by
  obtain ⟨magnitude, -, hunits, hone, herror⟩ := Binary64.nearest_ratio false hpos h
  have hshown := shownTenths_error hone herror
  rw [hunits, ← progressUnits, ← progressTenths, ← mul_div_assoc] at hshown
  exact hshown.trans (by norm_num)

theorem exists_progress :
    ∃ summary, (progressSummary (.whole solved) (.whole total)).outcome = .ok summary ∧
      shownPercent? summary.progress = some (progressTenths solved total / 10 : Rat) ∧
        (summary.progress = placeholder ↔ progressUnits solved total = 0) := by
  obtain ⟨magnitude, hnearest, hunits, hone, -⟩ := Binary64.nearest_ratio false hpos h
  obtain ⟨progress, hprogress, hread, habsent⟩ := percent_share hone
  obtain ⟨a, ha⟩ := exists_integer solved
  obtain ⟨b, hb⟩ := exists_integer total
  have hfraction : solvedFraction (.whole solved) (.whole total) =
      .ok (some (.finite false magnitude)) := by
    rw [solvedFraction_whole, if_neg (by omega), if_neg (by omega), if_neg (by omega)]
    rw [← hnearest]
    rfl
  rw [hunits] at hread habsent
  refine ⟨⟨a, b, progress⟩, ?_, hread, habsent⟩
  rw [outcome_progressSummary ha hb, hfraction, ok_bind, fractionValue, hprogress]
  rfl

end Share

theorem progress_of_no_tiles {summary : ProgressSummary}
    (h : (progressSummary (.whole 0) (.whole 0)).outcome = .ok summary) :
    summary.progress = placeholder := by
  obtain ⟨a, ha⟩ := exists_integer 0
  have hshown : (progressSummary (.whole 0) (.whole 0)).outcome = .ok ⟨a, a, placeholder⟩ := by
    rw [outcome_progressSummary ha ha, solvedFraction_whole]
    rfl
  rw [h] at hshown
  cases hshown
  rfl

/-! ## Main results -/

/-- The progress that is shown for counts of tiles: in percent, and zero for the placeholder. -/
def progressPercent? (solved total : Int) : Option Rat :=
  (progressSummary (.whole solved) (.whole total)).outcome.toOption.bind fun summary =>
    shownPercent? summary.progress

/-- What holds of the progress that is shown for counts of tiles of any size. -/
structure ProgressSound (solved total : Int) : Prop where
  refused : ∀ fault, (progressSummary (.whole solved) (.whole total)).outcome = .error fault ↔
    TilesRefused solved total fault
  shown : (∃ summary, (progressSummary (.whole solved) (.whole total)).outcome = .ok summary) ↔
    ¬ (solved < 0 ∨ total < 0 ∨ total < solved)
  close : 0 ≤ solved → solved ≤ total → 0 < total → ∃ p, progressPercent? solved total = some p ∧
    0 ≤ p ∧ p ≤ 100 ∧ |p - 100 * solved / total| ≤ 1 / 20 + 1 / 2 ^ 45
  absent : ∀ summary, (progressSummary (.whole solved) (.whole total)).outcome = .ok summary →
    total < 2 ^ 1024 → (summary.progress = placeholder ↔ solved = 0 ∨ total = 0)

theorem progressPercent?_eq {solved total : Nat} (hpos : 0 < total) (h : solved ≤ total) :
    progressPercent? solved total = some (progressTenths solved total / 10 : Rat) := by
  obtain ⟨summary, hsummary, hread, -⟩ := exists_progress hpos h
  rw [progressPercent?, hsummary]
  exact hread

theorem exists_summary_iff :
    (∃ summary, (progressSummary (.whole solved) (.whole total)).outcome = .ok summary) ↔
      ¬ (solved < 0 ∨ total < 0 ∨ total < solved) := by
  rw [exists_ok_iff, ← exists_tilesRefused_iff, not_exists]
  exact forall_congr' fun fault => not_congr progressSummary_eq_error_iff

theorem progressSummary_sound (solved total : Int) : ProgressSound solved total := by
  constructor
  case refused => exact fun fault => progressSummary_eq_error_iff
  case shown => exact exists_summary_iff
  case close =>
    intro hsolved hle hpos
    lift solved to Nat using hsolved
    lift total to Nat using hpos.le
    have hpos : 0 < total := by omega
    have hle : solved ≤ total := by omega
    have hbound : (progressTenths solved total : Rat) ≤ 1000 := by
      exact_mod_cast progressTenths_le hpos hle
    refine ⟨_, progressPercent?_eq hpos hle, by positivity, by linarith, ?_⟩
    simpa using progressTenths_error hpos hle
  case absent =>
    intro summary hsummary htotal
    have hcounts := exists_summary_iff.mp ⟨summary, hsummary⟩
    lift solved to Nat using by omega
    lift total to Nat using by omega
    rcases Nat.eq_zero_or_pos total with rfl | hpos
    · obtain rfl : solved = 0 := by omega
      simp [progress_of_no_tiles hsummary]
    · obtain ⟨other, hother, -, habsent⟩ := exists_progress hpos (show solved ≤ total by omega)
      rw [hother] at hsummary
      cases hsummary
      have hlimit : total < 2 ^ 1024 := by exact_mod_cast htotal
      rw [habsent, progressUnits_eq_zero_iff hpos hlimit]
      omega

/-- Progress never goes backwards, whatever the totals. -/
theorem progressPercent?_mono {solved total solved' total' : Int} (hsolved : 0 ≤ solved)
    (hle : solved ≤ total) (hpos : 0 < total) (hsolved' : 0 ≤ solved') (hle' : solved' ≤ total')
    (hpos' : 0 < total') (h : solved * total' ≤ solved' * total) :
    ∃ p q, progressPercent? solved total = some p ∧ progressPercent? solved' total' = some q ∧
      p ≤ q := by
  lift solved to Nat using hsolved
  lift solved' to Nat using hsolved'
  lift total to Nat using hpos.le
  lift total' to Nat using hpos'.le
  have htenths : progressTenths solved total ≤ progressTenths solved' total' :=
    progressTenths_mono (by omega) (by omega) (by exact_mod_cast h)
  have hpercent : (progressTenths solved total / 10 : Rat) ≤ progressTenths solved' total' / 10 := by
    gcongr
  exact ⟨_, _, progressPercent?_eq (by omega) (by omega), progressPercent?_eq (by omega) (by omega),
    hpercent⟩

/-- The placeholder beside a number: the first share is rounded to zero. -/
theorem progressPercent?_mono_of_placeholder : (1 : Int) * 3 ≤ 1 * 2 ^ 1100 ∧
    ∃ p q, progressPercent? 1 (2 ^ 1100) = some p ∧ progressPercent? 1 3 = some q ∧ p ≤ q := by
  have htotal : (1 : Int) ≤ 2 ^ 1100 ∧ (1 : Int) * 3 ≤ 1 * 2 ^ 1100 := by decide +kernel
  exact ⟨htotal.2, progressPercent?_mono (by decide) htotal.1 htotal.1 (by decide) (by decide)
    (by decide) htotal.2⟩

end Scoreboard
