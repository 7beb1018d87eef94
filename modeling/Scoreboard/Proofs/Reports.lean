import Mathlib
import Scoreboard.Html.Report
import Scoreboard.Proofs.Displayed

/-!
# The text of a report

A report that is built consists of the fixed page, two titles and two tables.  Each table is written
from the texts that are shown, row by row.
-/

namespace Scoreboard

def ProgressSummary.cells (summary : ProgressSummary) : List Text :=
  [summary.solved, summary.total, summary.progress]

namespace Html

/-! ## Tables of texts -/

/-- A table with these cells, which are given as they are shown. -/
def tableMarkup (title : Text) (names : List Text) (rows : List (List Text)) : Text :=
  heading title ++ Text.joinLines (tableLines names (rows.map (List.map controlEscaped)))

theorem cellContent_text (text : Text) : cellContent (.text text) = .ok (controlEscaped text) := by
  simp [cellContent, Value.isMissing, nestedText, outerText]

theorem columnContents_texts (name : Text) (storage : Storage) (texts : List Text) :
    columnContents ⟨name, storage, texts.map .text⟩ = .ok (texts.map controlEscaped) := by
  have hpresent : Column.requirePresence ⟨name, storage, texts.map .text⟩ = .ok () := by
    simp [Column.requirePresence, Value.isSignaling]
  rw [columnContents, hpresent, ok_bind, List.mapM_map]
  exact mapM_ok fun text _ => cellContent_text text

/-- A column of texts, each of which is read off a row. -/
structure TextColumn (α : Type) where
  name : Text
  storage : Storage
  text : α → Text

namespace TextColumn

variable {α : Type}

def ofRows (rows : List α) (column : TextColumn α) : Column :=
  ⟨column.name, column.storage, rows.map fun row => .text (column.text row)⟩

theorem columnContents_ofRows (rows : List α) (column : TextColumn α) :
    columnContents (column.ofRows rows) =
      .ok (rows.map fun row => controlEscaped (column.text row)) := by
  have hcolumn : column.ofRows rows =
      ⟨column.name, column.storage, (rows.map column.text).map .text⟩ := by
    simp [ofRows]
  rw [hcolumn, columnContents_texts, List.map_map]
  rfl

private theorem rows_of_columns (rows : List α) (columns : List (TextColumn α)) :
    ((List.range rows.length).map fun i =>
      (columns.map fun column => rows.map fun row => controlEscaped (column.text row)).filterMap
        (·[i]?)) =
      (rows.map fun row => columns.map (·.text row)).map (List.map controlEscaped) := by
  apply List.ext_getElem
  · simp
  · intro i hi _
    have hrow : i < rows.length := by simpa using hi
    simp [List.filterMap_map, Function.comp_def, hrow]

theorem table_ofRows (rows : List α) {columns : List (TextColumn α)} (hne : columns ≠ [])
    (title : Text) :
    table ⟨columns.map (·.ofRows rows)⟩ title =
      .ok (tableMarkup title (columns.map (·.name)) (rows.map fun row => columns.map (·.text row))) := by
  have hcontents : (columns.map (·.ofRows rows)).mapM columnContents =
      .ok (columns.map fun column => rows.map fun row => controlEscaped (column.text row)) := by
    rw [List.mapM_map]
    exact mapM_ok fun column _ => columnContents_ofRows rows column
  have hheight : Frame.height ⟨columns.map (·.ofRows rows)⟩ = rows.length := by
    obtain ⟨column, others, rfl⟩ := List.exists_cons_of_ne_nil hne
    simp [Frame.height, ofRows]
  have hnames : Frame.names ⟨columns.map (·.ofRows rows)⟩ = columns.map (·.name) := by
    simp [Frame.names, ofRows]
  simp only [table, hcontents, ok_bind, hheight, hnames, rows_of_columns, tableMarkup]
  rfl

end TextColumn

/-! ## Tables of a report -/

theorem table_ofShown (shown : List ShownContribution) (title : Text) :
    table (.ofShown shown) title =
      .ok (tableMarkup title contributionNames (shown.map ShownContribution.cells)) := by
  have hframe : Frame.ofShown shown =
      ⟨[⟨helperName, .infer (shown.map fun row => .text row.helper), ShownContribution.helper⟩,
        ⟨updatedName, .objects, ShownContribution.updated⟩,
        ⟨solvedName, .objects, ShownContribution.solved⟩,
        ⟨shareName, .objects, ShownContribution.share⟩].map fun column : TextColumn ShownContribution =>
          column.ofRows shown⟩ := by
    simp [Frame.ofShown, TextColumn.ofRows, Column.inferred]
  rw [hframe, TextColumn.table_ofRows _ (by simp)]
  rfl

theorem table_progressFrame (summary : ProgressSummary) (title : Text) :
    table (progressFrame summary) title =
      .ok (tableMarkup title progressNames.cells [summary.cells]) := by
  have hframe : progressFrame summary =
      ⟨[⟨progressNames.solved, .infer [.text summary.solved], ProgressSummary.solved⟩,
        ⟨progressNames.total, .infer [.text summary.total], ProgressSummary.total⟩,
        ⟨progressNames.progress, .infer [.text summary.progress], ProgressSummary.progress⟩].map
          fun column : TextColumn ProgressSummary => column.ofRows [summary]⟩ := by
    simp [progressFrame, TextColumn.ofRows, Column.inferred]
  rw [hframe, TextColumn.table_ofRows _ (by simp)]
  rfl

def reportMarkup (titles : ReportTitles) (shown : List ShownContribution)
    (summary : ProgressSummary) : Text :=
  page [
    ⟨titles.contributions,
      tableMarkup titles.table contributionNames (shown.map ShownContribution.cells)⟩,
    ⟨titles.progress, tableMarkup progressTitle progressNames.cells [summary.cells]⟩]

theorem outcome_puzzleReport {rows : List Contribution} {shown : List ShownContribution}
    (h : List.Forall₂ ShownContribution.IsOf rows shown) (solved total : Quantity)
    (titles : ReportTitles) :
    (puzzleReport rows solved total titles).outcome =
      (progressSummary solved total).outcome.map (reportMarkup titles shown) := by
  simp only [puzzleReport, progressTable, buildReport, Traced.outcome_bind, Traced.outcome_lift,
    Traced.outcome_note, Traced.outcome_pure, formatContributionTable_shown h, ok_bind,
    table_ofShown, table_progressFrame]
  cases (progressSummary solved total).outcome <;> rfl

end Html

end Scoreboard
