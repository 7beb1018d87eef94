import Mathlib
import Scoreboard.Proofs.DecimalSpellings
import Scoreboard.Proofs.Shares

/-!
# Shown shares

A share that is shown in a formatted frame was rounded four times: its count and the total to
doubles, their quotient, the hundredfold of it, and that to a tenth.  As long as the total does not
wrap around, no quotient is above one, and the four errors add up to little more than half a tenth.
-/

namespace Scoreboard

open Contribution Display

/-! ## Errors of shares -/

theorem doubleUnits_error (n : Nat) :
    |(doubleUnits n : Rat) - n * unitsPerOne| ≤ n * unitsPerOne / 2 ^ 53 := by
  rcases Nat.eq_zero_or_pos n with rfl | hpos
  · rw [doubleUnits_eq (by norm_num)]
    simp
  · have hbound : (2 : Rat) ^ 52 ≤ n * unitsPerOne := by
      have := Nat.mul_le_mul hpos two_pow_le_unitsPerOne
      rw [Nat.one_mul] at this
      exact_mod_cast this
    have hwhole : ((n * unitsPerOne : Nat) : Rat) / (1 : Nat) = n * unitsPerOne := by
      push_cast
      ring
    have herror := round_error_le Nat.one_pos hbound hwhole.le
    rwa [hwhole] at herror

private theorem quotient_close {a b count total one : Rat} (hone : 0 < one) (hpos : 0 < total)
    (hcount : 0 ≤ count) (hle : count ≤ total) (ha : |a - count * one| ≤ count * one / 2 ^ 53)
    (hb : |b - total * one| ≤ total * one / 2 ^ 53) :
    |a / b - count / total| ≤ 201 / 100 / 2 ^ 53 := by
  have hdivisor : total * one * (1 - 1 / 2 ^ 53) ≤ b := by
    have := (abs_le.mp hb).1
    linarith
  have hbpos : 0 < b := by
    have : (0 : Rat) < 1 - 1 / 2 ^ 53 := by norm_num
    exact lt_of_lt_of_le (by positivity) hdivisor
  have hproduct := mul_pos hbpos hpos
  -- Crosswise the two errors stand side by side, each of them relative to the same product.
  have hcross : a / b - count / total =
      ((a - count * one) * total - count * (b - total * one)) / (b * total) := by
    field_simp
    ring
  have hfirst : |(a - count * one) * total| ≤ count * one / 2 ^ 53 * total := by
    rw [abs_mul, abs_of_pos hpos]
    exact mul_le_mul_of_nonneg_right ha hpos.le
  have hsecond : |count * (b - total * one)| ≤ count * (total * one / 2 ^ 53) := by
    rw [abs_mul, abs_of_nonneg hcount]
    exact mul_le_mul_of_nonneg_left hb hcount
  rw [hcross, abs_div, abs_of_pos hproduct, div_le_iff₀ hproduct]
  calc
    |(a - count * one) * total - count * (b - total * one)| ≤
        count * one / 2 ^ 53 * total + count * (total * one / 2 ^ 53) :=
      (abs_sub _ _).trans (add_le_add hfirst hsecond)
    _ = count * (total * one) * (2 / 2 ^ 53) := by ring
    _ ≤ total * (total * one) * (2 / 2 ^ 53) := by gcongr
    _ ≤ 201 / 100 / 2 ^ 53 * (total * one * (1 - 1 / 2 ^ 53) * total) := by
      have : 0 ≤ total * (total * one) := by positivity
      linarith
    _ ≤ 201 / 100 / 2 ^ 53 * (b * total) := by gcongr

theorem quotient_error {count total : Nat} (hpos : 0 < total) (h : count ≤ total) :
    |(doubleUnits count : Rat) / doubleUnits total - count / total| ≤ 201 / 100 / 2 ^ 53 := by
  have hone : (0 : Rat) < unitsPerOne := by exact_mod_cast unitsPerOne_pos
  exact quotient_close hone (by exact_mod_cast hpos) (Nat.cast_nonneg count) (by exact_mod_cast h)
    (doubleUnits_error count) (doubleUnits_error total)

theorem shareOf_error (storage : Storage) {total : Int} (hpos : 0 < total) {count : Nat}
    (h : count ≤ total.toNat) (hwords : storage ≠ .objects → total < Word.size) :
    ∃ magnitude, shareOf storage total count = .finite false magnitude ∧ magnitude.value ≤ 1 ∧
      |magnitude.value - count / total.toNat| ≤ 301 / 100 / 2 ^ 53 := by
  by_cases hstorage : storage = .objects
  · obtain ⟨magnitude, hshare, -, hone, herror⟩ := shareOf_objects hpos h
    refine ⟨magnitude, by rw [hstorage, hshare], hone, herror.trans (by norm_num)⟩
  · have htotal := hwords hstorage
    obtain ⟨a, ha, hua⟩ := @ofRatio_word count (by omega)
    obtain ⟨b, hb, hub⟩ := @ofRatio_word total.toNat (by omega)
    have hdivisor : 0 < b.units := by
      rw [hub]
      exact doubleUnits_pos (by omega)
    have hle : a.units ≤ b.units := by
      rw [hua, hub]
      exact doubleUnits_mono h
    obtain ⟨magnitude, hquotient, -, hone, herror⟩ := Binary64.nearest_ratio false hdivisor hle
    refine ⟨magnitude, ?_, hone, ?_⟩
    · rw [shareOf_of_ne_objects hstorage hpos, ha, hb]
      simp only [Binary64.div, if_neg hdivisor.ne']
      exact hquotient
    · have hquotients := quotient_error (by omega) h
      rw [hua, hub] at herror
      calc
        |magnitude.value - count / total.toNat| ≤ 1 / 2 ^ 53 + 201 / 100 / 2 ^ 53 :=
          (abs_sub_le _ _ _).trans (add_le_add herror hquotients)
        _ = 301 / 100 / 2 ^ 53 := by norm_num

/-! ## Reading a shown share -/

/-- The number in front of a percent sign; the placeholder counts as zero. -/
def shownPercent? (text : Text) : Option Rat :=
  if text = placeholder then some 0
  else if percentSuffix <:+ text then
    (Literal.read? decimalValue? (withoutCommas (text.take (text.length - percentSuffix.length)))).map
      Literal.value
  else none

theorem fixed_ne_placeholder (digits : Text) : digits ++ percentSuffix ≠ placeholder := by
  intro heq
  have := congrArg List.length heq
  simp [percentSuffix, placeholder] at this

theorem shownPercent?_fixed (negative : Bool) (scaled decimals : Nat) :
    shownPercent? (Binary64.signText negative ++ unsignedText scaled decimals ++ percentSuffix) =
      some (((signedNumber negative scaled : Int) : Rat) / 10 ^ decimals) := by
  set digits := Binary64.signText negative ++ unsignedText scaled decimals with hdigits
  have htake : (digits ++ percentSuffix).take
      ((digits ++ percentSuffix).length - percentSuffix.length) = digits := by
    rw [List.length_append, Nat.add_sub_cancel, List.take_left]
  rw [shownPercent?, if_neg (fixed_ne_placeholder digits), if_pos (List.suffix_append _ _), htake,
    hdigits, read?_fixed]
  simp [Literal.value, div_eq_mul_inv]

/-! ## Errors of shown shares -/

theorem percentScale_eq :
    ∃ scale, percentScale = .finite false scale ∧ scale.units = 100 * unitsPerOne := by
  have hpoint := @isPoint_whole 100 (by norm_num)
  obtain ⟨scale, hscale, hunits⟩ := Binary64.nearest_finite false Nat.one_pos hpoint
    (whole_lt_overflow (by decide +kernel)) (Nat.mul_one _).ge
  have hround := Grid.double.round_point Nat.one_pos hpoint
  rw [Nat.mul_one] at hround
  exact ⟨scale, hscale, hunits.trans hround⟩

/-- No share exceeds the size of a word, even where the total has wrapped around. -/
theorem mul_percentScale_word {magnitude : Magnitude}
    (h : magnitude.units ≤ Word.size * unitsPerOne) :
    ∃ product, (Binary64.finite false magnitude).mul percentScale = .finite false product ∧
      product.units = Grid.double.round (magnitude.units * (100 * unitsPerOne)) unitsPerOne := by
  obtain ⟨scale, hscale, hunits⟩ := percentScale_eq
  have hpoint : Grid.double.IsPoint (100 * Word.size * unitsPerOne) := by
    have hsize : Word.size = 2 ^ 64 := by norm_num [Word.size]
    have : 100 * Word.size * unitsPerOne = 100 * 2 ^ (64 + unitDepth) := by
      rw [pow_add, two_pow_unitDepth, hsize, Nat.mul_assoc]
    rw [this]
    exact Grid.double.isPoint_of_le (by decide) (Nat.zero_le _)
  have hscaled : magnitude.units * (100 * unitsPerOne) ≤
      100 * Word.size * unitsPerOne * unitsPerOne := by
    calc
      magnitude.units * (100 * unitsPerOne) ≤ Word.size * unitsPerOne * (100 * unitsPerOne) :=
        Nat.mul_le_mul_right _ h
      _ = 100 * Word.size * unitsPerOne * unitsPerOne := by ring
  obtain ⟨product, hproduct, hround⟩ := Binary64.nearest_finite false unitsPerOne_pos hpoint
    (whole_lt_overflow (by decide +kernel)) hscaled
  refine ⟨product, ?_, hround⟩
  rw [hscale, ← hproduct, ← hunits]
  rfl

theorem units_le_word {magnitude : Magnitude} (h : magnitude.value ≤ 1) :
    magnitude.units ≤ Word.size * unitsPerOne := by
  have hone : magnitude.units ≤ 1 * unitsPerOne := Magnitude.value_le_iff.mp (by simpa using h)
  exact hone.trans (Nat.mul_le_mul_right _ (by decide))

theorem mul_percentScale {magnitude : Magnitude} (h : magnitude.value ≤ 1) :
    ∃ product, (Binary64.finite false magnitude).mul percentScale = .finite false product ∧
      product.units = Grid.double.round (magnitude.units * (100 * unitsPerOne)) unitsPerOne ∧
      product.value ≤ 100 ∧ |product.value - 100 * magnitude.value| ≤ 100 / 2 ^ 53 := by
  obtain ⟨product, hproduct, hround⟩ := mul_percentScale_word (units_le_word h)
  have hone : magnitude.units ≤ unitsPerOne := by
    simpa using (@Magnitude.value_le_iff magnitude 1).mp (by simpa using h)
  have hscaled : magnitude.units * (100 * unitsPerOne) ≤ 100 * unitsPerOne * unitsPerOne := by
    rw [Nat.mul_comm]
    exact Nat.mul_le_mul_left _ hone
  refine ⟨product, hproduct, hround, ?_, ?_⟩
  · have : product.value ≤ (100 : Nat) := by
      rw [Magnitude.value_le_iff, hround]
      exact Grid.double.round_le_point unitsPerOne_pos (isPoint_whole (by norm_num)) hscaled
    exact_mod_cast this
  · have hunit : (0 : Rat) < unitsPerOne := by exact_mod_cast unitsPerOne_pos
    have hbound : (2 : Rat) ^ 52 ≤ 100 * unitsPerOne := by
      have : (2 : Rat) ^ 52 ≤ unitsPerOne := by exact_mod_cast two_pow_le_unitsPerOne
      linarith
    have hexact : ((magnitude.units * (100 * unitsPerOne) : Nat) : Rat) / unitsPerOne =
        100 * magnitude.units := by
      push_cast
      field_simp
    have hle : (100 : Rat) * magnitude.units ≤ 100 * unitsPerOne := by
      exact_mod_cast Nat.mul_le_mul_left 100 hone
    have herror := round_error_le unitsPerOne_pos hbound (hexact.trans_le hle)
    rw [hexact, ← hround] at herror
    have hvalue : product.value - 100 * magnitude.value =
        (product.units - 100 * magnitude.units) / unitsPerOne := by
      unfold Magnitude.value
      ring
    rw [hvalue, abs_div, abs_of_pos hunit, div_le_iff₀ hunit]
    linarith

theorem roundHalfUp_value_error (magnitude : Magnitude) (decimals : Nat) :
    |(roundHalfUp (magnitude.units * 10 ^ decimals) unitsPerOne : Rat) / 10 ^ decimals -
      magnitude.value| ≤ 1 / (2 * 10 ^ decimals) := by
  have hunit : (0 : Rat) < unitsPerOne := by exact_mod_cast unitsPerOne_pos
  have hplace : (0 : Rat) < 10 ^ decimals := by positivity
  have herror := abs_roundHalfUp_error (magnitude.units * 10 ^ decimals) unitsPerOne_pos
  set rounded := roundHalfUp (magnitude.units * 10 ^ decimals) unitsPerOne
  have hdiff : (rounded : Rat) / 10 ^ decimals - magnitude.value =
      (rounded * unitsPerOne - (magnitude.units * 10 ^ decimals : Nat)) /
        (10 ^ decimals * unitsPerOne) := by
    unfold Magnitude.value
    push_cast
    field_simp
  have hhalf : (1 : Rat) / (2 * 10 ^ decimals) * (10 ^ decimals * unitsPerOne) = unitsPerOne / 2 := by
    field_simp
  rwa [hdiff, abs_div, abs_of_pos (mul_pos hplace hunit), div_le_iff₀ (mul_pos hplace hunit), hhalf]

/-- The tenths of a percent that are shown for a share of so many units. -/
def shownTenths (units : Nat) : Nat :=
  roundHalfUp
    (Grid.double.round (units * (100 * unitsPerOne)) unitsPerOne * 10 ^ percentDecimals) unitsPerOne

theorem shownTenths_zero : shownTenths 0 = 0 := by
  have hround : Grid.double.round (0 * unitsPerOne) unitsPerOne = 0 :=
    Grid.double.round_point unitsPerOne_pos (dvd_zero _)
  have htenths := roundHalfUp_mul 0 unitsPerOne_pos
  rw [Nat.zero_mul] at hround htenths
  rw [shownTenths, Nat.zero_mul, hround, Nat.zero_mul, htenths]

theorem shownTenths_mono {units units' : Nat} (h : units ≤ units') :
    shownTenths units ≤ shownTenths units' := by
  apply roundHalfUp_mono
  apply Nat.mul_le_mul_right
  apply Grid.double.round_mono unitsPerOne_pos unitsPerOne_pos
  exact Nat.mul_le_mul_right _ (Nat.mul_le_mul_right _ h)

theorem shownTenths_le {magnitude : Magnitude} (h : magnitude.value ≤ 1) :
    shownTenths magnitude.units ≤ 1000 := by
  obtain ⟨product, -, hunits, hle, -⟩ := mul_percentScale h
  have hbound : product.units ≤ 100 * unitsPerOne := by
    rw [← Magnitude.value_le_iff]
    exact_mod_cast hle
  rw [shownTenths, ← hunits]
  apply roundHalfUp_le unitsPerOne_pos
  calc
    product.units * 10 ^ percentDecimals ≤ 100 * unitsPerOne * 10 ^ percentDecimals :=
      Nat.mul_le_mul_right _ hbound
    _ = 1000 * unitsPerOne := by
      rw [percentDecimals]
      ring

/-- What is shown for a share lies near the hundredfold of all that the share lies near. -/
theorem shownTenths_error {magnitude : Magnitude} (h : magnitude.value ≤ 1) {q e : Rat}
    (hclose : |magnitude.value - q| ≤ e) :
    |(shownTenths magnitude.units : Rat) / 10 - 100 * q| ≤ 1 / 20 + 100 / 2 ^ 53 + 100 * e := by
  obtain ⟨product, -, hunits, -, herror⟩ := mul_percentScale h
  have hplace : (10 : Rat) ^ percentDecimals = 10 := by norm_num [percentDecimals]
  have hrounded := roundHalfUp_value_error product percentDecimals
  rw [hunits, ← shownTenths, hplace] at hrounded
  have hscaled : |100 * magnitude.value - 100 * q| ≤ 100 * e := by
    rw [← mul_sub, abs_mul, abs_of_pos (by norm_num)]
    linarith
  have hproduct : |product.value - 100 * q| ≤ 100 / 2 ^ 53 + 100 * e :=
    (abs_sub_le _ _ _).trans (add_le_add herror hscaled)
  calc
    |(shownTenths magnitude.units : Rat) / 10 - 100 * q| ≤
        1 / (2 * 10) + (100 / 2 ^ 53 + 100 * e) :=
      (abs_sub_le _ _ _).trans (add_le_add hrounded hproduct)
    _ = 1 / 20 + 100 / 2 ^ 53 + 100 * e := by ring

/-- A share is shown in tenths of a percent, and by the placeholder only if it is zero. -/
theorem percent_word {magnitude : Magnitude} (h : magnitude.units ≤ Word.size * unitsPerOne) :
    ∃ text, (percent (.float (.finite false magnitude))).outcome = .ok text ∧
      shownPercent? text = some (shownTenths magnitude.units / 10 : Rat) ∧
        (text = placeholder ↔ magnitude.units = 0) := by
  rw [outcome_percent]
  by_cases hzero : magnitude.units = 0
  · have hshown : shownPercent? placeholder = some (shownTenths magnitude.units / 10 : Rat) := by
      rw [hzero, shownTenths_zero, shownPercent?, if_pos rfl]
      norm_num
    exact ⟨placeholder, by simp [Binary64.isZero, hzero], hshown, by simp [hzero]⟩
  · obtain ⟨product, hproduct, hunits⟩ := mul_percentScale_word h
    have hnonzero : ((Binary64.finite false magnitude).isZero ||
        (Binary64.finite false magnitude).isNaN) = false := by
      simp [Binary64.isZero, Binary64.isNaN, hzero]
    rw [hnonzero, hproduct, invariantFixed_finite fits_percentDecimals, hunits, ← shownTenths]
    have hread := shownPercent?_fixed false (shownTenths magnitude.units) percentDecimals
    have hnumber : ((signedNumber false (shownTenths magnitude.units) : Int) : Rat) /
        10 ^ percentDecimals = shownTenths magnitude.units / 10 := by
      simp [signedNumber, percentDecimals]
    rw [hnumber] at hread
    refine ⟨_, rfl, hread, iff_of_false (fixed_ne_placeholder _) hzero⟩

theorem percent_share {magnitude : Magnitude} (h : magnitude.value ≤ 1) :
    ∃ text, (percent (.float (.finite false magnitude))).outcome = .ok text ∧
      shownPercent? text = some (shownTenths magnitude.units / 10 : Rat) ∧
        (text = placeholder ↔ magnitude.units = 0) :=
  percent_word (units_le_word h)

theorem percent_error {magnitude : Magnitude} (h : magnitude.value ≤ 1) {q e : Rat}
    (hclose : |magnitude.value - q| ≤ e) :
    ∃ text p, (percent (.float (.finite false magnitude))).outcome = .ok text ∧
      shownPercent? text = some p ∧ |p - 100 * q| ≤ 1 / 20 + 100 / 2 ^ 53 + 100 * e ∧
        0 ≤ p ∧ p ≤ 100 := by
  obtain ⟨text, htext, hread, -⟩ := percent_share h
  have hle : (shownTenths magnitude.units : Rat) ≤ 1000 := by exact_mod_cast shownTenths_le h
  exact ⟨text, _, htext, hread, shownTenths_error h hclose, by positivity, by linarith⟩

/-! ## Shares of a formatted frame -/

def Value.text? : Value → Option Text
  | .text content => some content
  | _ => none

/-- The shares that a formatted frame shows, with their helpers, row by row. -/
def Frame.shownShares? (frame : Frame) : Option (List (Text × Rat)) := do
  let helpers ← frame.column? helperName
  let shares ← frame.column? shareName
  let texts ← helpers.cells.mapM Value.text?
  let percents ← shares.cells.mapM fun cell => cell.text?.bind shownPercent?
  return texts.zip percents

theorem shownShares?_ofShown {shown : List ShownContribution} {percent : ShownContribution → Rat}
    (h : ∀ row ∈ shown, shownPercent? row.share = some (percent row)) :
    (Frame.ofShown shown).shownShares? =
      some (shown.map fun row => (row.helper, percent row)) := by
  have htexts : ((shown.map fun row => Value.text row.helper).mapM Value.text?) =
      some (shown.map (·.helper)) := by
    rw [List.mapM_map]
    exact mapM_some fun _ _ => rfl
  have hpercents : ((shown.map fun row => Value.text row.share).mapM fun cell =>
      cell.text?.bind shownPercent?) = some (shown.map percent) := by
    rw [List.mapM_map]
    exact mapM_some h
  have hhelpers : (Frame.ofShown shown).column? helperName =
      some (.inferred helperName (shown.map fun row => .text row.helper)) := rfl
  have hshares : (Frame.ofShown shown).column? shareName =
      some ⟨shareName, .objects, shown.map fun row => .text row.share⟩ := rfl
  have hcells : (Column.inferred helperName (shown.map fun row => .text row.helper)).cells =
      shown.map fun row => .text row.helper := by
    simp [Column.inferred]
  simp only [Frame.shownShares?, hhelpers, hshares, hcells, htexts, hpercents, Option.bind_eq_bind,
    Option.bind_some, Option.pure_def, List.zip_map']

/-- How far a shown share may lie from the true one: half a tenth, and a little for the doubles. -/
def shownTolerance : Rat := 1 / 20 + 1 / 2 ^ 44

/-- The entry shows the share that the row has in the total. -/
structure ShowsShare (total : Nat) (row : Contribution) (entry : Text × Rat) : Prop where
  helper : entry.1 = row.helper
  close : |entry.2 - 100 * row.solved / total| ≤ shownTolerance
  nonneg : 0 ≤ entry.2
  le_hundred : entry.2 ≤ 100

theorem sum_close {total : Nat} {rows : List Contribution}
    {shown : List (Text × Rat)} (h : List.Forall₂ (ShowsShare total) rows shown) :
    |(shown.map (·.2)).sum - 100 * trueTotal rows / total| ≤ rows.length * shownTolerance := by
  induction h with
  | nil => simp [trueTotal]
  | @cons row entry rows shown hrow _ ih =>
      have hsplit : ((entry :: shown).map (·.2)).sum - 100 * (trueTotal (row :: rows) : Nat) / total =
          (entry.2 - 100 * row.solved / total) +
            ((shown.map (·.2)).sum - 100 * trueTotal rows / total) := by
        simp only [List.map_cons, List.sum_cons, trueTotal]
        push_cast
        ring
      rw [hsplit]
      have htriangle := (abs_add_le _ _).trans (add_le_add hrow.close ih)
      simp only [List.length_cons]
      push_cast
      linarith

section Accepted

variable {updated solved : Tally} {rows : List Contribution}
  (h : contributions updated solved = .ok rows)

include h

theorem shownPercent?_of_isOf (hpos : 0 < trueTotal rows) (hfits : TotalFits rows)
    {row : Contribution} (hrow : row ∈ rows) {shown : ShownContribution}
    (hshown : ShownContribution.IsOf row shown) :
    ∃ p, shownPercent? shown.share = some p ∧
      ShowsShare (trueTotal rows) row (shown.helper, p) := by
  have hstored := storedTotal_of_fits hfits
  have hle : row.solved ≤ (storedTotal rows).toNat := by
    rw [hstored, Int.toNat_natCast]
    exact solved_le_trueTotal hrow
  obtain ⟨magnitude, hshare, hone, herror⟩ := shareOf_error (solvedStorage rows)
    (show 0 < storedTotal rows by omega) hle fun hwords => (words_of_ne_objects hwords).1
  obtain ⟨text, p, htext, hread, hclose, hnonneg, hhundred⟩ := percent_error hone herror
  rw [← hshare, ← share_of_mem h hrow, hshown.share] at htext
  cases htext
  refine ⟨p, hread, hshown.helper, ?_, hnonneg, hhundred⟩
  rw [hstored, Int.toNat_natCast, ← mul_div_assoc] at hclose
  exact hclose.trans (by norm_num [shownTolerance])

/-- Shown shares lie near the true ones, and together near one hundred percent. -/
theorem shownShares_close (hpos : 0 < trueTotal rows) (hfits : TotalFits rows) :
    ∃ frame shown, (formatContributionTable (.ofContributions rows)).outcome = .ok frame ∧
      frame.shownShares? = some shown ∧ List.Forall₂ (ShowsShare (trueTotal rows)) rows shown ∧
        |(shown.map (·.2)).sum - 100| ≤ rows.length * shownTolerance := by
  let percent (texts : ShownContribution) : Rat := (shownPercent? texts.share).getD 0
  have hrow : ∀ row ∈ rows, ∃ texts, ShownContribution.IsOf row texts ∧
      shownPercent? texts.share = some (percent texts) ∧
        ShowsShare (trueTotal rows) row (texts.helper, percent texts) := by
    intro row hrow
    obtain ⟨texts, htexts⟩ := ShownContribution.exists_isOf row
    obtain ⟨p, hread, hshows⟩ := shownPercent?_of_isOf h hpos hfits hrow htexts
    have hp : percent texts = p := by simp [percent, hread]
    exact ⟨texts, htexts, by rw [hp, hread], by rwa [hp]⟩
  obtain ⟨shown, hshown⟩ := exists_forall₂ hrow
  have hformat := formatContributionTable_shown (hshown.imp fun _ _ htexts => htexts.1)
  have hread : (Frame.ofShown shown).shownShares? =
      some (shown.map fun texts => (texts.helper, percent texts)) := by
    apply shownShares?_ofShown
    intro texts htexts
    obtain ⟨row, -, hshows⟩ := exists_of_mem_right hshown htexts
    exact hshows.2.1
  have hshares : List.Forall₂ (ShowsShare (trueTotal rows)) rows
      (shown.map fun texts => (texts.helper, percent texts)) := by
    rw [List.forall₂_map_right_iff]
    exact hshown.imp fun _ _ htexts => htexts.2.2
  have hsum := sum_close hshares
  have htotal : (trueTotal rows : Rat) ≠ 0 := by
    exact_mod_cast hpos.ne'
  rw [mul_div_cancel_right₀ _ htotal] at hsum
  exact ⟨_, _, hformat, hread, hshares, hsum⟩

end Accepted

/-- Counts that only unsigned words hold, with a total that such a word holds too. -/
theorem shownShares_close_of_unsigned :
    ∃ rows, contributions .empty (.ofList [(.name ['a'], .int 9223372036854775808),
      (.name ['b'], .int 1)]) = .ok rows ∧ 0 < trueTotal rows ∧ TotalFits rows ∧
        ∃ frame shown, (formatContributionTable (.ofContributions rows)).outcome = .ok frame ∧
          frame.shownShares? = some shown ∧ List.Forall₂ (ShowsShare (trueTotal rows)) rows shown ∧
            |(shown.map (·.2)).sum - 100| ≤ rows.length * shownTolerance := by
  have hrows : (contributions .empty (.ofList [(.name ['a'], .int 9223372036854775808),
      (.name ['b'], .int 1)])).map (List.map (·.solved)) = .ok [9223372036854775808, 1] := by
    decide +kernel
  obtain ⟨rows, h, hcounts⟩ := map_eq_ok.mp hrows
  have htotal : trueTotal rows = 9223372036854775809 := by
    rw [trueTotal, hcounts]
    rfl
  have hpos : 0 < trueTotal rows := by omega
  have hfits : TotalFits rows := by
    constructor
    · intro hsigned
      have : ∀ count ∈ rows.map (·.solved), count < 2 ^ 63 := by simpa using hsigned
      rw [hcounts] at this
      have := this 9223372036854775808 (by simp)
      omega
    · intro _
      omega
  exact ⟨rows, h, hpos, hfits, shownShares_close h hpos hfits⟩

end Scoreboard
