import Mathlib
import Scoreboard.Proofs.Maxima
import Scoreboard.Proofs.MergedTallies
import Scoreboard.Proofs.ShownWholeNumbers

/-!
# Scales of bars

The scale of a column of counts is its greatest count, or one if that is less, as an exact whole number
in every storage.  For the frame of two tallies it is the greatest count of the tally: a helper that is
missing from it counts nothing there, which no scale depends on.
-/

namespace Scoreboard

/-! ## Columns of counts -/

namespace Value

/-- A count as a column holds it: a whole number, or a double that stands for it. -/
inductive HoldsCount : Value → Nat → Prop where
  | int (n : Nat) : HoldsCount (.int n) n
  | word (n : Nat) : HoldsCount (.scalar (.int64 n)) n
  | double {magnitude : Magnitude} {n : Nat} : magnitude.units = n * unitsPerOne →
      HoldsCount (.float (.finite false magnitude)) n

variable {cell : Value} {n : Nat}

theorem HoldsCount.isNumber (h : cell.HoldsCount n) : cell.IsNumber n := by
  cases h with
  | int n => exact_mod_cast IsNumber.int n
  | word n => exact_mod_cast IsNumber.word n
  | double hunits =>
      refine .float ?_
      rw [Binary64.toRat?, Binary64.exactValue_false, Magnitude.value_whole hunits]

theorem HoldsCount.toInteger (h : cell.HoldsCount n) : cell.toInteger = .ok (n : Int) := by
  cases h with
  | int n => rfl
  | word n => rfl
  | double hunits =>
      simp only [Value.toInteger, truncatedBinary64, Binary64.truncated, hunits,
        Nat.mul_div_cancel n unitsPerOne_pos]
      rfl

theorem HoldsCount.isMissing (h : cell.HoldsCount n) : cell.isMissing = false := by
  cases h <;> rfl

/-- No count is there, which can be told. -/
structure IsGap (cell : Value) : Prop where
  missing : cell.isMissing = true
  certain : cell.isSignaling = false

/-- The counts that are present among the cells. -/
def presentCounts (cells : List Value) : Set Nat := {n | ∃ cell ∈ cells, cell.HoldsCount n}

/-- Counts with gaps between them, which are compared by their exact numbers. -/
structure AreCounts (cells : List Value) : Prop where
  cell : ∀ cell ∈ cells, cell.IsGap ∨ ∃ n, cell.HoldsCount n
  exact : ∀ a ∈ cells, ∀ b ∈ cells, a.isMissing = false → b.isMissing = false →
    commonPrecision a b = .exact

end Value

open Value

theorem Value.AreCounts.orderedBy {cells : List Value} (h : AreCounts cells) :
    OrderedBy Value.number cells := by
  refine orderedBy_number (fun cell hcell => ?_) h.exact
  rcases h.cell cell hcell with hgap | ⟨n, hn⟩
  · exact .missing hgap.missing hgap.certain
  · exact .number hn.isNumber

theorem Value.AreCounts.exists_holdsCount {cells : List Value} (h : AreCounts cells) {cell : Value}
    (hcell : cell ∈ cells) (hpresent : cell.isMissing = false) : ∃ n, cell.HoldsCount n := by
  refine (h.cell cell hcell).resolve_left fun hgap => ?_
  rw [hgap.missing] at hpresent
  cases hpresent

theorem Column.maximum_of_counts {column : Column} (h : AreCounts column.cells)
    (hpresent : (presentCounts column.cells).Nonempty) :
    ∃ top n, column.maximum = .ok top ∧ top.HoldsCount n ∧
      IsGreatest (presentCounts column.cells) n := by
  rcases column.maximum_cases h.orderedBy with ⟨hmissing, -⟩ | ⟨top, hmaximum, htop⟩
  · obtain ⟨n, cell, hcell, hn⟩ := hpresent
    have := hmissing cell hcell
    rw [hn.isMissing] at this
    cases this
  · obtain ⟨n, hn⟩ := h.exists_holdsCount htop.mem htop.present
    refine ⟨top, n, hmaximum, hn, ⟨top, htop.mem, hn⟩, ?_⟩
    rintro m ⟨cell, hcell, hm⟩
    have hle := htop.greatest cell hcell hm.isMissing
    rw [hm.isNumber.number_eq, hn.isNumber.number_eq] at hle
    exact_mod_cast hle

section Scale

variable {frame : Frame} {name : Text} {column : Column} (hcolumn : frame.column? name = some column)

include hcolumn

theorem barScale_eq : barScale frame name =
    column.maximum >>= fun top => top.toInteger >>= fun n => .ok (max n 1) := by
  simp only [barScale, Frame.column, hcolumn]
  rfl

/-- The scale is the greatest count that is present, or one. -/
theorem barScale_of_counts (h : AreCounts column.cells)
    (hpresent : (presentCounts column.cells).Nonempty) :
    ∃ n, IsGreatest (presentCounts column.cells) n ∧
      barScale frame name = .ok (max (n : Int) 1) := by
  obtain ⟨top, n, hmaximum, hn, hgreatest⟩ := Column.maximum_of_counts h hpresent
  exact ⟨n, hgreatest, by rw [barScale_eq hcolumn, hmaximum, ok_bind, hn.toInteger, ok_bind]⟩

end Scale

/-! ## Scales of rows -/

namespace Contribution

/-- The greatest number of a column, or one if that is less. -/
structure IsScale (count : Contribution → Nat) (rows : List Contribution) (scale : Int) : Prop where
  bounds : ∀ row ∈ rows, 0 ≤ (count row : Int) ∧ (count row : Int) ≤ scale
  least : 1 ≤ scale
  attained : 1 < scale → ∃ row ∈ rows, (count row : Int) = scale

variable {count : Contribution → Nat} {rows : List Contribution} {scale : Int}

theorem isScale_nil (count : Contribution → Nat) : IsScale count [] 1 where
  bounds := nofun
  least := le_rfl
  attained := nofun

theorem IsScale.eq_max {first : Contribution} {rest : List Contribution}
    (h : IsScale count (first :: rest) scale) (hfirst : ∀ row ∈ rest, count row ≤ count first) :
    scale = max 1 (count first : Int) := by
  apply le_antisymm
  · rcases h.least.eq_or_lt with hone | hmore
    · exact hone ▸ le_max_left _ _
    · obtain ⟨row, hrow, hscale⟩ := h.attained hmore
      rw [← hscale]
      apply le_max_of_le_right
      rcases List.mem_cons.mp hrow with rfl | hlater
      · exact le_rfl
      · exact_mod_cast hfirst row hlater
  · exact max_le h.least (h.bounds first List.mem_cons_self).2

variable (count rows)

theorem areCounts_rows : AreCounts ((rows.map fun row => (count row : Int)).map Value.int) where
  cell := by
    simp only [List.forall_mem_map]
    exact fun row _ => .inr ⟨count row, .int _⟩
  exact := by
    simp only [List.forall_mem_map]
    exact fun _ _ _ _ _ _ => rfl

theorem presentCounts_rows :
    presentCounts ((rows.map fun row => (count row : Int)).map Value.int) =
      {n | ∃ row ∈ rows, count row = n} := by
  ext n
  simp only [presentCounts, List.map_map, List.mem_map, Set.mem_ofPred_eq, exists_exists_and_eq_and]
  refine exists_congr fun row => and_congr_right fun _ => ⟨fun hcell => ?_, fun hcount => ?_⟩
  · have hsame : (count row : Int) = n := Except.ok.inj hcell.toInteger
    exact_mod_cast hsame
  · exact hcount ▸ .int _

variable {rows}

/-- A column of one count of each row, of which there are some. -/
theorem exists_barScale (frame : Frame) (name : Text) (hrows : rows ≠ [])
    (hcolumn : frame.column? name =
      some (.ofIntegers name (rows.map fun row => (count row : Int)))) :
    ∃ scale, barScale frame name = .ok scale ∧ IsScale count rows scale := by
  have hsome : (presentCounts ((rows.map fun row => (count row : Int)).map Value.int)).Nonempty := by
    obtain ⟨row, hrow⟩ := List.exists_mem_of_ne_nil rows hrows
    rw [presentCounts_rows]
    exact ⟨count row, row, hrow, rfl⟩
  obtain ⟨n, hgreatest, hscale⟩ := barScale_of_counts hcolumn (areCounts_rows count rows) hsome
  obtain ⟨⟨row, hrow, hn⟩, hle⟩ := presentCounts_rows count rows ▸ hgreatest
  refine ⟨max n 1, hscale, fun other hother => ⟨by simp, ?_⟩, le_max_right _ _, fun hmore => ?_⟩
  · exact le_max_of_le_left (by exact_mod_cast hle ⟨other, hother, rfl⟩)
  · refine ⟨row, hrow, ?_⟩
    rw [hn]
    omega

end Contribution

/-! ## Scales of tallies -/

namespace Tally

/-- The counts of all entries, each as a whole number. -/
def counts (tally : Tally) : Except Fault (List Int) :=
  tally.entries.mapM fun entry => entry.2.toInteger

/-- The greatest count of the tally, or one if that is less. -/
def IsScale (tally : Tally) (scale : Int) : Prop :=
  ∃ counts, tally.counts = .ok counts ∧ IsGreatest {n : Int | n ∈ 1 :: counts} scale

/-- A helper without an entry counts nothing, so that rows of more helpers have the same scale. -/
theorem isScale_of_rows {tally : Tally} {ids : List HelperId} {rows : List Contribution}
    {count : Contribution → Nat} {scale : Int}
    (hcovers : ∀ identity ∈ identities tally.entries, identity ∈ ids.map HelperId.identity)
    (hrows : List.Forall₂ (fun id row => (tally.count id).toInteger = .ok (count row : Int))
      ids rows)
    (h : Contribution.IsScale count rows scale) : tally.IsScale scale := by
  have hentries := toInteger_entry hcovers (List.forall₂_map_right_iff.mpr hrows)
  have hwhole : ∀ entry ∈ tally.entries, ∀ id : HelperId, id.identity = entry.1.identity →
      (tally.count id).toInteger = .ok (tally.wholeCount entry.1) := by
    intro entry hentry id hsame
    rw [← count_identity, hsame, count_identity, count_of_mem hentry, hentries entry hentry]
  refine ⟨_, mapM_ok hentries, ?_, ?_⟩
  · rcases h.least.eq_or_lt with hone | hmore
    · exact hone ▸ List.mem_cons_self
    · obtain ⟨row, hrow, hscale⟩ := h.attained hmore
      obtain ⟨id, -, hcount⟩ := exists_of_mem_right hrows hrow
      by_cases hknown : id.identity ∈ identities tally.entries
      · obtain ⟨entry, hentry, hsame⟩ := List.mem_map.mp hknown
        rw [hwhole entry hentry id hsame.symm, hscale] at hcount
        refine List.mem_cons_of_mem 1 (List.mem_map.mpr ⟨entry, hentry, ?_⟩)
        exact Except.ok.inj hcount
      · rw [count_of_not_mem hknown, hscale] at hcount
        have hzero : (0 : Int) = scale := Except.ok.inj hcount
        omega
  · intro n hn
    rcases List.mem_cons.mp hn with rfl | hn
    · exact h.least
    · obtain ⟨entry, hentry, rfl⟩ := List.mem_map.mp hn
      obtain ⟨id, hid, hsame⟩ := List.mem_map.mp (hcovers _ (List.mem_map_of_mem hentry))
      obtain ⟨row, hrow, hcount⟩ := exists_of_mem_right hrows.flip hid
      have hsame : (count row : Int) = tally.wholeCount entry.1 :=
        Except.ok.inj (hcount.symm.trans (hwhole entry hentry id hsame))
      exact hsame ▸ (h.bounds row hrow).2

end Tally

open Contribution

theorem maxCounts_of_rows (rows : List Contribution) :
    ∃ u s, maxCounts (.ofContributions rows) = .ok (u, s) ∧
      IsScale (·.updated) rows u ∧ IsScale (·.solved) rows s := by
  by_cases hrows : rows = []
  · subst hrows
    exact ⟨1, 1, rfl, isScale_nil _, isScale_nil _⟩
  · have hfull : (Frame.ofContributions rows).isEmpty = false := by
      simpa [Frame.isEmpty, Frame.height, Frame.ofContributions, Column.inferred] using hrows
    obtain ⟨u, hu, hupdated⟩ :=
      exists_barScale (·.updated) (.ofContributions rows) updatedName hrows rfl
    obtain ⟨s, hs, hsolved⟩ :=
      exists_barScale (·.solved) (.ofContributions rows) solvedName hrows rfl
    refine ⟨u, s, ?_, hupdated, hsolved⟩
    simp only [maxCounts, hfull, Bool.false_eq_true, if_false, hu, hs, ok_bind]
    rfl

/-- Both scales are the greatest counts of their tallies, which are those of the rows. -/
theorem maxCounts_of_tallies {updated solved : Tally} {rows : List Contribution}
    (h : contributions updated solved = .ok rows) :
    ∃ u s, maxCounts (.ofContributions rows) = .ok (u, s) ∧
      updated.IsScale u ∧ solved.IsScale s ∧
      IsScale (·.updated) rows u ∧ IsScale (·.solved) rows s ∧
      ∀ first ∈ rows.head?, s = max 1 (first.solved : Int) := by
  obtain ⟨ids, hmerge, hrows⟩ := exists_merge h
  obtain ⟨u, s, hscales, hupdated, hsolved⟩ := maxCounts_of_rows rows
  refine ⟨u, s, hscales, ?_, ?_, hupdated, hsolved, ?_⟩
  · exact Tally.isScale_of_rows hmerge.identities_first (hrows.imp fun _ _ hrow => hrow.updated)
      hupdated
  · exact Tally.isScale_of_rows hmerge.identities_second (hrows.imp fun _ _ hrow => hrow.solved)
      hsolved
  · cases rows with
    | nil => exact nofun
    | cons first rest =>
        rintro _ ⟨⟩
        exact hsolved.eq_max (List.pairwise_cons.mp (pairwise_solved h)).1

/-- Counts past the machine words, in one tally for a helper that the other one does not know. -/
theorem maxCounts_of_tallies_of_large :
    ∃ rows, contributions (.ofList [(.name ['a'], .int (2 ^ 70)), (.number 1, .int 0)])
        (.ofList [(.name ['b'], .int (2 ^ 63)), (.number 1, .int 3)]) = .ok rows ∧
      maxCounts (.ofContributions rows) = .ok (2 ^ 70, 2 ^ 63) ∧
      (Tally.ofList [(.name ['a'], .int (2 ^ 70)), (.number 1, .int 0)]).IsScale (2 ^ 70) ∧
      (Tally.ofList [(.name ['b'], .int (2 ^ 63)), (.number 1, .int 3)]).IsScale (2 ^ 63) ∧
      IsScale (·.updated) rows (2 ^ 70) ∧ IsScale (·.solved) rows (2 ^ 63) ∧
      ∀ first ∈ rows.head?, 2 ^ 63 = max 1 (first.solved : Int) := by
  have hcomputed : (contributions (.ofList [(.name ['a'], .int (2 ^ 70)), (.number 1, .int 0)])
      (.ofList [(.name ['b'], .int (2 ^ 63)), (.number 1, .int 3)]) >>= fun rows =>
        maxCounts (.ofContributions rows)) = .ok (2 ^ 70, 2 ^ 63) := by
    decide +kernel
  obtain ⟨rows, h, hmax⟩ := bind_eq_ok.mp hcomputed
  obtain ⟨u, s, hscales, hrest⟩ := maxCounts_of_tallies h
  rw [hmax] at hscales
  cases hscales
  exact ⟨rows, h, hmax, hrest⟩

end Scoreboard
