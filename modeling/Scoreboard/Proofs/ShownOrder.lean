import Mathlib
import Scoreboard.Proofs.ExactNumbers
import Scoreboard.Proofs.ShownShares

/-!
# Order of shown rows

Rows are ordered by exact counts and shown through doubles.  Rounding a count, dividing it by what
the storage of its column adds up to, taking the hundredfold and rounding that to a tenth: each of
these may make two numbers the same and none of them turns two round.  So the order of the rows
shows in the counts and in the shares of a formatted frame, also where the total has wrapped around.
-/

namespace Scoreboard

open Contribution Display

/-! ## Shares in words and in objects -/

/-- The units of the share of a count, whichever way it is divided. -/
def shareUnits (storage : Storage) (total : Int) (count : Nat) : Nat :=
  if total ≤ 0 then 0
  else
    match storage with
    | .objects => Grid.double.round (count * unitsPerOne) total.toNat
    | _ => Grid.double.round (doubleUnits count * unitsPerOne) (doubleUnits total.toNat)

theorem shareUnits_nonpos (storage : Storage) {total : Int} (h : total ≤ 0) (count : Nat) :
    shareUnits storage total count = 0 :=
  if_pos h

theorem shareUnits_objects {total : Int} (hpos : 0 < total) (count : Nat) :
    shareUnits .objects total count = Grid.double.round (count * unitsPerOne) total.toNat :=
  if_neg (not_le.mpr hpos)

theorem shareUnits_of_ne_objects {storage : Storage} (h : storage ≠ .objects) {total : Int}
    (hpos : 0 < total) (count : Nat) : shareUnits storage total count =
      Grid.double.round (doubleUnits count * unitsPerOne) (doubleUnits total.toNat) := by
  unfold shareUnits
  rw [if_neg (not_le.mpr hpos)]
  cases storage with
  | objects => exact absurd rfl h
  | _ => rfl

theorem shareUnits_mono (storage : Storage) (total : Int) {count count' : Nat}
    (h : count ≤ count') : shareUnits storage total count ≤ shareUnits storage total count' := by
  by_cases hpos : 0 < total
  · by_cases hstorage : storage = .objects
    · have hden : 0 < total.toNat := by omega
      rw [hstorage, shareUnits_objects hpos, shareUnits_objects hpos]
      exact Grid.double.round_mono hden hden
        (Nat.mul_le_mul_right _ (Nat.mul_le_mul_right _ h))
    · have hden : 0 < doubleUnits total.toNat := doubleUnits_pos (by omega)
      rw [shareUnits_of_ne_objects hstorage hpos, shareUnits_of_ne_objects hstorage hpos]
      exact Grid.double.round_mono hden hden
        (Nat.mul_le_mul_right _ (Nat.mul_le_mul_right _ (doubleUnits_mono h)))
  · rw [shareUnits_nonpos _ (not_lt.mp hpos), shareUnits_nonpos _ (not_lt.mp hpos)]

/-- A wrapped total may be less than a count, but a share in it is no greater than a word. -/
theorem exists_share {updated solved : Tally} {rows : List Contribution}
    (h : contributions updated solved = .ok rows) {row : Contribution} (hrow : row ∈ rows) :
    ∃ magnitude, row.share = .finite false magnitude ∧
      magnitude.units = shareUnits (solvedStorage rows) (storedTotal rows) row.solved ∧
        magnitude.units ≤ Word.size * unitsPerOne := by
  rw [share_of_mem h hrow]
  by_cases hpos : 0 < storedTotal rows
  · by_cases hstorage : solvedStorage rows = .objects
    · have hle : row.solved ≤ (storedTotal rows).toNat := by
        rw [storedTotal_of_objects hstorage]
        exact solved_le_trueTotal hrow
      obtain ⟨magnitude, hshare, hunits, hone, -⟩ := shareOf_objects hpos hle
      refine ⟨magnitude, hstorage ▸ hshare, ?_, units_le_word hone⟩
      rw [hunits, hstorage, shareUnits_objects hpos]
    · obtain ⟨htotal, hcounts⟩ := words_of_ne_objects hstorage
      obtain ⟨magnitude, hshare, hunits⟩ := shareOf_words hstorage hpos htotal (hcounts row hrow)
      have htotalPos : 0 < (storedTotal rows).toNat := by omega
      refine ⟨magnitude, hshare, ?_, ?_⟩
      · rw [hunits, shareUnits_of_ne_objects hstorage hpos]
      · rw [hunits]
        exact Grid.double.round_le_point (doubleUnits_pos htotalPos) isPoint_wordSize
          (Nat.mul_le_mul (doubleUnits_le_word (hcounts row hrow))
            (unitsPerOne_le_doubleUnits htotalPos))
  · have hnonpos : storedTotal rows ≤ 0 := not_lt.mp hpos
    have hzero : Magnitude.zero.units = 0 := rfl
    refine ⟨.zero, shareOf_nonpos hnonpos _, ?_, ?_⟩
    · rw [shareUnits_nonpos _ hnonpos, hzero]
    · rw [hzero]
      exact Nat.zero_le _

/-- What is shown for the share of a count, in percent. -/
def shownShare (storage : Storage) (total : Int) (count : Nat) : Rat :=
  shownTenths (shareUnits storage total count) / 10

theorem shownShare_mono (storage : Storage) (total : Int) :
    Monotone (shownShare storage total) := by
  intro count count' hle
  unfold shownShare
  gcongr
  exact shownTenths_mono (shareUnits_mono storage total hle)

/-! ## Counts -/

/-- A finite double is nearest to the count. -/
def HasDouble (count : Nat) : Prop := (Binary64.ofInt? count).isSome = true

/-- The whole number that a count is shown as. -/
def shownWhole (count : Nat) : Nat := roundHalfUp (doubleUnits count) unitsPerOne

theorem shownWhole_mono {count count' : Nat} (h : count ≤ count') :
    shownWhole count ≤ shownWhole count' :=
  roundHalfUp_mono _ (doubleUnits_mono h)

/-- The number that a text shows, without its commas. -/
def shownCount? (text : Text) : Option Rat :=
  (Literal.read? decimalValue? (withoutCommas text)).map Literal.value

theorem shownCount?_integer {count : Nat} (h : HasDouble count) {text : Text}
    (htext : (integer (.int count)).outcome = .ok text) :
    shownCount? text = some (shownWhole count : Rat) := by
  obtain ⟨x, hx⟩ := Option.isSome_iff_exists.mp h
  obtain ⟨magnitude, hnearest, rfl⟩ := Option.map_eq_some_iff.mp hx
  have hunits : magnitude.units = doubleUnits count := units_of_nearest? hnearest
  rw [outcome_integer_finite hx, hunits, ← shownWhole] at htext
  cases htext
  rw [shownCount?, read?_fixed]
  simp [Literal.value, signedNumber, integerDecimals]

/-! ## Columns of a formatted frame -/

/-- What is read off the texts of a column, row by row. -/
def Frame.readColumn? (frame : Frame) (name : Text) (read? : Text → Option Rat) :
    Option (List Rat) := do
  let column ← frame.column? name
  column.cells.mapM fun cell => cell.text?.bind read?

/-- A number is read in each of so many rows of the column, and none is greater than one above. -/
def Frame.Descends (frame : Frame) (length : Nat) (name : Text) (read? : Text → Option Rat) :
    Prop :=
  ∃ numbers, frame.readColumn? name read? = some numbers ∧ numbers.length = length ∧
    numbers.Pairwise (· ≥ ·)

/-- Whatever is shown by a number that grows with the count descends as the counts do. -/
theorem descends_ofShown {rows : List Contribution} {shown : List ShownContribution} {name : Text}
    {text : ShownContribution → Text} {read? : Text → Option Rat} {number : Nat → Rat}
    (hcolumn : (Frame.ofShown shown).column? name =
      some ⟨name, .objects, shown.map fun texts => .text (text texts)⟩)
    (h : List.Forall₂ (fun row texts => read? (text texts) = some (number row.solved)) rows shown)
    (hrows : rows.Pairwise fun a b => b.solved ≤ a.solved) (hmono : Monotone number) :
    (Frame.ofShown shown).Descends rows.length name read? := by
  refine ⟨rows.map fun row => number row.solved, ?_, List.length_map _, ?_⟩
  · rw [Frame.readColumn?, hcolumn, Option.bind_eq_bind, Option.bind_some, List.mapM_map]
    exact mapM_some_of_forall₂ h
  · rw [List.pairwise_map]
    exact hrows.imp fun hab => hmono hab

/-- The texts are those of the row, and its numbers can be read off them. -/
structure ReadsRow (storage : Storage) (total : Int) (row : Contribution)
    (texts : ShownContribution) : Prop where
  isOf : ShownContribution.IsOf row texts
  solved : shownCount? texts.solved = some (shownWhole row.solved : Rat)
  share : shownPercent? texts.share = some (shownShare storage total row.solved)

section Accepted

variable {updated solved : Tally} {rows : List Contribution}
  (h : contributions updated solved = .ok rows)

include h

theorem exists_readsRow {row : Contribution} (hrow : row ∈ rows) (hdouble : HasDouble row.solved) :
    ∃ texts, ReadsRow (solvedStorage rows) (storedTotal rows) row texts := by
  obtain ⟨texts, htexts⟩ := ShownContribution.exists_isOf row
  obtain ⟨magnitude, hshare, hunits, hword⟩ := exists_share h hrow
  obtain ⟨text, htext, hread, -⟩ := percent_word hword
  rw [← hshare, htexts.share] at htext
  cases htext
  rw [hunits] at hread
  exact ⟨texts, htexts, shownCount?_integer hdouble htexts.solved, hread⟩

/-- Down the rows of a formatted frame neither the solved counts nor the shares ever increase. -/
theorem shown_rows_descend (hdoubles : ∀ row ∈ rows, HasDouble row.solved) :
    ∃ frame, (formatContributionTable (.ofContributions rows)).outcome = .ok frame ∧
      frame.Descends rows.length solvedName shownCount? ∧
        frame.Descends rows.length shareName shownPercent? := by
  have hrow : ∀ row ∈ rows, ∃ texts, ReadsRow (solvedStorage rows) (storedTotal rows) row texts :=
    fun row hrow => exists_readsRow h hrow (hdoubles row hrow)
  obtain ⟨shown, hshown⟩ := exists_forall₂ hrow
  have hformat := formatContributionTable_shown (hshown.imp fun _ _ htexts => htexts.isOf)
  have hsolved : (Frame.ofShown shown).column? solvedName =
      some ⟨solvedName, .objects, shown.map fun texts => .text texts.solved⟩ := by
    simp [Frame.ofShown, Frame.column?, List.find?_cons]
    rfl
  refine ⟨Frame.ofShown shown, hformat, ?_, ?_⟩
  · exact descends_ofShown hsolved (hshown.imp fun _ _ htexts => htexts.solved) (pairwise_solved h)
      fun _ _ hle => Nat.cast_le.mpr (shownWhole_mono hle)
  · exact descends_ofShown rfl (hshown.imp fun _ _ htexts => htexts.share) (pairwise_solved h)
      (shownShare_mono _ _)

end Accepted

/-- Two counts that come to one in a word, so that their shares are shown far above one hundred. -/
theorem shown_rows_descend_of_wrapped_total :
    ∃ rows, contributions .empty (.ofList [(.name ['a'], .int 9223372036854775808),
      (.name ['b'], .int 9223372036854775809)]) = .ok rows ∧ storedTotal rows = 1 ∧
        ∃ frame, (formatContributionTable (.ofContributions rows)).outcome = .ok frame ∧
          frame.Descends rows.length solvedName shownCount? ∧
            frame.Descends rows.length shareName shownPercent? := by
  have hrows : (contributions .empty (.ofList [(.name ['a'], .int 9223372036854775808),
      (.name ['b'], .int 9223372036854775809)])).map (fun rows =>
        (rows.map (·.solved), storedTotal rows)) =
          .ok ([9223372036854775809, 9223372036854775808], 1) := by
    decide +kernel
  obtain ⟨rows, h, hread⟩ := map_eq_ok.mp hrows
  obtain ⟨hcounts, htotal⟩ := Prod.mk.inj hread
  have hdoubles : ∀ row ∈ rows, HasDouble row.solved := by
    have hall : ∀ count ∈ rows.map (·.solved), HasDouble count := by
      rw [hcounts]
      unfold HasDouble
      decide +kernel
    simpa using hall
  exact ⟨rows, h, htotal, shown_rows_descend h hdoubles⟩

end Scoreboard
