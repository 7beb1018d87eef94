import Mathlib
import Scoreboard.Proofs.Pages
import Scoreboard.Proofs.Shares

/-!
# Reading a report back

Nothing is lost in a report: its titles are read off the headings, and the ids and counts of the
helpers off the cells of the first table, the tiles off those of the second.  An id has to be free of
tabs and line ends, and of white space around it, and counts have to be exact as doubles.
-/

namespace Scoreboard

open Display

/-! ## Counts as they are shown -/

theorem ofInt?_whole {n : Nat} (h : n ≤ 2 ^ 53) :
    ∃ magnitude, Binary64.ofInt? n = some (.finite false magnitude) ∧
      magnitude.units = n * unitsPerOne := by
  have hround : Grid.double.round (n * unitsPerOne) 1 = n * unitsPerOne := doubleUnits_eq h
  have hfinite : Grid.double.round (n * unitsPerOne) 1 < overflow := by
    rw [hround]
    exact whole_lt_overflow (h.trans_lt (by decide +kernel))
  refine ⟨⟨_, hfinite, Grid.double.round_granular _ _⟩, ?_, hround⟩
  have hnonneg : ¬ (n : Int) < 0 := by omega
  simp [Binary64.ofInt?, Magnitude.nearest?, hfinite, hnonneg]

theorem integer_whole {n : Nat} (h : n ≤ 2 ^ 53) :
    (integer (.int n)).outcome = .ok (unsignedText n integerDecimals) := by
  obtain ⟨magnitude, hdouble, hunits⟩ := ofInt?_whole h
  rw [outcome_integer_finite hdouble, hunits, roundHalfUp_mul n unitsPerOne_pos]
  rfl

theorem eq_of_integer_whole {n : Nat} (h : n ≤ 2 ^ 53) {text : Text}
    (htext : (integer (.int n)).outcome = .ok text) : text = unsignedText n integerDecimals := by
  rw [integer_whole h] at htext
  exact (Except.ok.inj htext).symm

/-! ## Texts in cells -/

/-- No tabs, no line ends, and no white space at the ends. -/
structure PlainText (text : Text) : Prop where
  noControl : ∀ c ∈ text, c ≠ '\t' ∧ c ≠ '\r' ∧ c ≠ '\n'
  first : ∀ c ∈ text.head?, isBlank c = false
  last : ∀ c ∈ text.getLast?, isBlank c = false

theorem plainText_iff {text : Text} :
    PlainText text ↔ text.all (fun c => c ≠ '\t' && c ≠ '\r' && c ≠ '\n') = true ∧
      text.head?.all (!isBlank ·) = true ∧ text.getLast?.all (!isBlank ·) = true := by
  constructor
  · intro h
    refine ⟨?_, ?_, ?_⟩
    · simpa [and_assoc] using h.noControl
    · simpa [Option.all_eq_true] using h.first
    · simpa [Option.all_eq_true] using h.last
  · rintro ⟨hcontrol, hfirst, hlast⟩
    constructor
    · simpa [and_assoc] using hcontrol
    · simpa [Option.all_eq_true] using hfirst
    · simpa [Option.all_eq_true] using hlast

instance (text : Text) : Decidable (PlainText text) := decidable_of_iff _ plainText_iff.symm

namespace Html

theorem controlEscaped_plain {text : Text} (h : PlainText text) : controlEscaped text = text := by
  have hchars : ∀ c ∈ text, controlEscapedChar c = [c] := by
    intro c hc
    simp [controlEscapedChar, h.noControl c hc]
  rw [controlEscaped, List.flatMap_congr hchars, List.flatMap_singleton']

theorem unescaped_cell {text : Text} (h : PlainText text) :
    unescaped cellEntities (tableText (controlEscaped text)) = text := by
  rw [controlEscaped_plain h, unescaped_tableText]
  exact Text.stripped_eq_self h.first h.last

end Html

theorem plainText_whole (n : Nat) : PlainText (unsignedText n integerDecimals) := by
  have hplain : ∀ c ∈ unsignedText n integerDecimals, c = ',' ∨ c.isDigit = true := by
    intro c hc
    rcases eq_comma_or_mem_withoutCommas hc with hcomma | hmem
    · exact .inl hcomma
    · rw [withoutCommas_whole] at hmem
      exact .inr (allDigits_ofNat n c hmem)
  have hblank : ∀ c ∈ unsignedText n integerDecimals, isBlank c = false := by
    intro c hc
    rcases hplain c hc with rfl | hdigit
    · decide
    · exact isBlank_digit hdigit
  constructor
  · intro c hc
    have := hblank c hc
    refine ⟨?_, ?_, ?_⟩ <;> rintro rfl <;> cases this
  · exact fun c hc => hblank c (List.mem_of_mem_head? hc)
  · exact fun c hc => hblank c (List.mem_of_mem_getLast? hc)

/-! ## The progress that is shown -/

theorem lt_whole (m n : Int) : (Quantity.whole m).lt (.whole n) = decide (m < n) := by
  simp [Quantity.lt, Quantity.toValue, Value.place?, NumberPlace.lt, NumberPlace.pointLt]

theorem solvedFraction_whole (solved total : Int) :
    solvedFraction (.whole solved) (.whole total) =
      if solved < 0 ∨ total < 0 then .error .negativeTiles
      else if total < solved then
        integerText solved >>= fun a => integerText total >>= fun b =>
          .error (.solvedExceedsTotal a b)
      else if total = 0 then .ok none
      else .ok (some (.ofRatio false solved.natAbs total.natAbs)) := by
  simp only [solvedFraction, Quantity.isNegative, lt_whole, Bool.or_eq_true, decide_eq_true_eq,
    Quantity.text, Quantity.isZero, beq_iff_eq, Quantity.div]
  by_cases hnegative : solved < 0 ∨ total < 0
  · rw [if_pos hnegative, if_pos hnegative]
    rfl
  · rw [if_neg hnegative, if_neg hnegative]
    by_cases hexcess : total < solved
    · rw [if_pos hexcess, if_pos hexcess]
      cases integerText solved <;> cases integerText total <;> rfl
    · obtain ⟨hsolved, htotal⟩ := not_or.mp hnegative
      rw [if_neg hexcess, if_neg hexcess, decide_eq_false hsolved, decide_eq_false htotal]
      rfl

theorem exists_solvedFraction {solved total : Nat} (h : solved ≤ total) :
    ∃ fraction, solvedFraction (.whole solved) (.whole total) = .ok fraction := by
  rw [solvedFraction_whole, if_neg (by omega), if_neg (by omega)]
  split
  · exact ⟨none, rfl⟩
  · exact ⟨some _, rfl⟩

theorem exists_percent_fraction (fraction : Option Binary64) :
    ∃ text, (percent (fractionValue fraction)).outcome = .ok text := by
  cases fraction with
  | none => exact ⟨placeholder, rfl⟩
  | some x => exact exists_percent x

theorem outcome_progressSummary {solved total : Int} {a b : Text}
    (ha : (integer (.int solved)).outcome = .ok a) (hb : (integer (.int total)).outcome = .ok b) :
    (progressSummary (.whole solved) (.whole total)).outcome =
      solvedFraction (.whole solved) (.whole total) >>= fun fraction =>
        (percent (fractionValue fraction)).outcome.map (⟨a, b, ·⟩) := by
  simp only [progressSummary, Quantity.toValue, Traced.outcome_bind, ha, hb, ok_bind,
    Traced.outcome_lift]
  rfl

theorem exists_progressSummary {solved total : Nat} (h : solved ≤ total) (hbound : total ≤ 2 ^ 53) :
    ∃ progress, (progressSummary (.whole solved) (.whole total)).outcome =
      .ok ⟨unsignedText solved integerDecimals, unsignedText total integerDecimals, progress⟩ := by
  obtain ⟨fraction, hfraction⟩ := exists_solvedFraction h
  obtain ⟨progress, hpercent⟩ := exists_percent_fraction fraction
  have hsolved := integer_whole (h.trans hbound)
  have htotal := integer_whole hbound
  refine ⟨progress, ?_⟩
  rw [outcome_progressSummary hsolved htotal, hfraction, ok_bind, hpercent]
  rfl

/-! ## The reader -/

namespace Html

structure ReadReport where
  titles : ReportTitles
  rows : List (Text × Int × Int)
  solved : Int
  total : Int
  deriving DecidableEq, Repr

def readCount? (cell : Text) : Option Int :=
  (readInteger (withoutCommas (unescaped cellEntities cell))).toOption

def readRows? : List Text → Option (List (Text × Int × Int))
  | [] => some []
  | helper :: updated :: solved :: _ :: rest => do
      let row := (unescaped cellEntities helper, ← readCount? updated, ← readCount? solved)
      return row :: (← readRows? rest)
  | _ => none

/--
Reads titles off the headings of the sections and of the first table, rows off the first table and
tiles off the second one.
-/
def readReport? (html : Text) : Option ReadReport :=
  let page := tokens html
  match elementTexts sectionHeading page, elementTexts tableHeading page,
      elements tableElement page with
  | [contributions, progress], table :: _, [first, second] =>
      match elementTexts cellElement second with
      | solved :: total :: _ => do
          let titles := ⟨unescaped titleEntities contributions, unescaped titleEntities table,
            unescaped titleEntities progress⟩
          return ⟨titles, ← readRows? (elementTexts cellElement first), ← readCount? solved,
            ← readCount? total⟩
      | _ => none
  | _, _, _ => none

theorem readCount?_whole {n : Nat} (h : n ≤ 2 ^ 53) :
    readCount? (tableText (controlEscaped (unsignedText n integerDecimals))) = some (n : Int) := by
  have hdigits : n < 10 ^ digitLimit := h.trans_lt (by decide +kernel)
  rw [readCount?, unescaped_cell (plainText_whole n), withoutCommas_whole, readInteger_ofNat hdigits]
  rfl

def writtenCells (cells : List Text) : List Text :=
  cells.map fun cell => tableText (controlEscaped cell)

theorem readRows?_written {rows : List Contribution} {shown : List ShownContribution}
    (hshown : List.Forall₂ ShownContribution.IsOf rows shown)
    (hcounts : ∀ row ∈ rows, row.updated ≤ 2 ^ 53 ∧ row.solved ≤ 2 ^ 53)
    (htexts : ∀ row ∈ rows, PlainText row.helper) :
    readRows? (shown.flatMap fun texts => writtenCells texts.cells) =
      some (rows.map fun row => (row.helper, (row.updated : Int), (row.solved : Int))) := by
  induction hshown with
  | nil => rfl
  | @cons row texts rows shown hrow _ ih =>
      obtain ⟨hupdated, hsolved⟩ := hcounts row (by simp)
      have hrest := ih (fun other hother => hcounts other (by simp [hother]))
        fun other hother => htexts other (by simp [hother])
      have hu := eq_of_integer_whole hupdated hrow.updated
      have hs := eq_of_integer_whole hsolved hrow.solved
      have hhelper := unescaped_cell (htexts row (by simp))
      simp only [List.flatMap_cons, writtenCells, ShownContribution.cells, List.map_cons,
        List.map_nil, List.cons_append, List.nil_append] at hrest ⊢
      rw [readRows?, hrow.helper, hhelper, hu, hs, readCount?_whole hupdated,
        readCount?_whole hsolved, hrest]
      rfl

theorem elementTexts_writtenCells (names : List Text) (rows : List (List Text)) :
    elementTexts cellElement (tableTokens names (rows.map (List.map controlEscaped))) =
      rows.flatMap writtenCells := by
  rw [elementTexts_cells, List.flatMap_map]
  apply List.flatMap_congr
  intro row _
  rw [List.map_map]
  rfl

def reportTables (titles : ReportTitles) (shown : List ShownContribution)
    (summary : ProgressSummary) : List TableSection :=
  [⟨titles.contributions, titles.table, contributionNames, shown.map ShownContribution.cells⟩,
    ⟨titles.progress, progressTitle, progressNames.cells, [summary.cells]⟩]

theorem reportMarkup_eq (titles : ReportTitles) (shown : List ShownContribution)
    (summary : ProgressSummary) :
    reportMarkup titles shown summary =
      page ((reportTables titles shown summary).map TableSection.part) := rfl

theorem readReport?_reportMarkup {rows : List Contribution} {shown : List ShownContribution}
    (hshown : List.Forall₂ ShownContribution.IsOf rows shown)
    (hcounts : ∀ row ∈ rows, row.updated ≤ 2 ^ 53 ∧ row.solved ≤ 2 ^ 53)
    (htexts : ∀ row ∈ rows, PlainText row.helper) (titles : ReportTitles)
    {summary : ProgressSummary} {solved total : Nat} (hsolved : solved ≤ 2 ^ 53)
    (htotal : total ≤ 2 ^ 53) (hs : summary.solved = unsignedText solved integerDecimals)
    (ht : summary.total = unsignedText total integerDecimals) :
    readReport? (reportMarkup titles shown summary) =
      some ⟨titles, rows.map fun row => (row.helper, row.updated, row.solved), solved, total⟩ := by
  have hrows : readRows? (elementTexts cellElement (tableTokens contributionNames
      ((shown.map ShownContribution.cells).map (List.map controlEscaped)))) =
        some (rows.map fun row => (row.helper, (row.updated : Int), (row.solved : Int))) := by
    rw [elementTexts_writtenCells, List.flatMap_map]
    exact readRows?_written hshown hcounts htexts
  have hcells : elementTexts cellElement
      (tableTokens progressNames.cells [summary.cells.map controlEscaped]) =
        [tableText (controlEscaped summary.solved), tableText (controlEscaped summary.total),
          tableText (controlEscaped summary.progress)] :=
    (elementTexts_writtenCells progressNames.cells [summary.cells]).trans (List.append_nil _)
  have hsection := TableSection.sectionHeadings_page (reportTables titles shown summary)
  have htable := TableSection.tableHeadings_page (reportTables titles shown summary)
  have hinner := TableSection.tables_page (reportTables titles shown summary)
  rw [← reportMarkup_eq] at hsection htable hinner
  simp only [reportTables, List.map_cons, List.map_nil] at hsection htable hinner
  simp only [readReport?, hsection, htable, hinner, hrows, hcells, hs, ht, readCount?_whole hsolved,
    readCount?_whole htotal, unescaped_quoteEscaped]
  rfl

end Html

open Html

/-- Every count of the tally is a whole number that is exact as a double. -/
def ExactCounts (tally : Tally) : Prop :=
  ∀ entry ∈ tally.entries, ∃ n : Nat, entry.2 = .int n ∧ n ≤ 2 ^ 53

theorem ExactCounts.count_le {tally : Tally} (h : ExactCounts tally) {id : HelperId} {count : Nat}
    (hcount : (tally.count id).toInteger = .ok (count : Int)) : count ≤ 2 ^ 53 := by
  unfold Tally.count at hcount
  split at hcount
  · next entry hfound =>
      obtain ⟨n, hn, hle⟩ := h entry (List.mem_of_find?_eq_some hfound)
      rw [hn] at hcount
      have : (n : Int) = count := Except.ok.inj hcount
      omega
  · have : (0 : Int) = count := Except.ok.inj hcount
    omega

section Accepted

variable {updated solved : Tally} {rows : List Contribution}
  (h : contributions updated solved = .ok rows)

include h

/-- A report on plain ids and exact counts is built, and gives back all that it was made of. -/
theorem readReport?_puzzleReport
    (hupdated : ExactCounts updated) (hsolved : ExactCounts solved)
    (htexts : ∀ id ∈ updated.union solved, ∀ text, id.text = .ok text → PlainText text)
    {solvedTiles totalTiles : Nat} (htiles : solvedTiles ≤ totalTiles)
    (hbound : totalTiles ≤ 2 ^ 53) (titles : ReportTitles) :
    ∃ html, (puzzleReport rows (.whole solvedTiles) (.whole totalTiles) titles).outcome = .ok html ∧
      readReport? html = some ⟨titles,
        rows.map fun row => (row.helper, row.updated, row.solved), solvedTiles, totalTiles⟩ := by
  obtain ⟨shown, hshown⟩ := exists_shown rows
  obtain ⟨progress, hprogress⟩ := exists_progressSummary htiles hbound
  refine ⟨_, (outcome_puzzleReport hshown _ _ titles).trans (congrArg (Except.map _) hprogress), ?_⟩
  apply readReport?_reportMarkup hshown
  · intro row hrow
    obtain ⟨id, -, hrowOf⟩ := helper_of_mem h hrow
    exact ⟨hupdated.count_le hrowOf.updated, hsolved.count_le hrowOf.solved⟩
  · intro row hrow
    obtain ⟨id, hid, hrowOf⟩ := helper_of_mem h hrow
    exact htexts id hid row.helper hrowOf.helper
  · exact htiles.trans hbound
  · exact hbound
  · rfl
  · rfl

end Accepted

/-- The id imitates a cell, and the titles imitate headings and entities. -/
theorem readReport?_puzzleReport_of_imitation :
    ∃ rows html, contributions (.ofList [(.name "</td>  &lt;".toList, .int 1234567)])
        (.ofList [(.number 7, .int 12)]) = .ok rows ∧
      (puzzleReport rows (.whole (5 : Nat)) (.whole (9 : Nat))
        ⟨"<h2>".toList, "&amp;".toList, ['"']⟩).outcome = .ok html ∧
      readReport? html = some ⟨⟨"<h2>".toList, "&amp;".toList, ['"']⟩,
        rows.map fun row => (row.helper, row.updated, row.solved), (5 : Nat), (9 : Nat)⟩ := by
  have hrows : (contributions (.ofList [(.name "</td>  &lt;".toList, .int 1234567)])
      (.ofList [(.number 7, .int 12)])).isOk = true := by
    decide +kernel
  obtain ⟨rows, h⟩ := exists_eq_ok hrows
  have hupdated : ExactCounts (.ofList [(.name "</td>  &lt;".toList, .int 1234567)]) := by
    intro entry hentry
    obtain rfl := List.mem_singleton.mp hentry
    exact ⟨1234567, rfl, by norm_num⟩
  have hsolved : ExactCounts (.ofList [(.number 7, .int 12)]) := by
    intro entry hentry
    obtain rfl := List.mem_singleton.mp hentry
    exact ⟨12, rfl, by norm_num⟩
  have htexts : ∀ id ∈ [HelperId.name "</td>  &lt;".toList, .number 7], ∀ text,
      id.text = .ok text → PlainText text := by
    intro id hid text htext
    rcases List.mem_pair.mp hid with rfl | rfl
    · cases htext
      decide
    · have hseven : (HelperId.number 7).text = .ok ['7'] := by decide +kernel
      cases hseven.symm.trans htext
      decide
  obtain ⟨html, hhtml, hread⟩ := readReport?_puzzleReport h hupdated hsolved htexts
    (show 5 ≤ 9 by norm_num) (by norm_num) ⟨"<h2>".toList, "&amp;".toList, ['"']⟩
  exact ⟨rows, html, h, hhtml, hread⟩

end Scoreboard
