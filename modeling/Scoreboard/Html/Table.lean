import Scoreboard.Contribution
import Scoreboard.Html.Cell
import Scoreboard.Progress

/-!
# Tables in markup

A table has a heading, one header cell for each column and one row of cells for each row of the frame,
each on its own line. Contribution tables are formatted first: counts as whole numbers, shares as
percentages, column by column.
-/

namespace Scoreboard

/-- The frame with the cells of one column, if it has it, replaced by what the dashboard shows. -/
def Frame.displayed (frame : Frame) (name : Text) (display : Value → Traced Text) :
    Traced Frame := do
  let columns ← frame.columns.mapM fun column =>
    if column.name = name then do
      let texts ← column.cells.mapM display
      return Column.mk column.name .objects (texts.map .text)
    else pure column
  return ⟨columns⟩

def countNames : List Text := [updatedName, solvedName]

def shareNames : List Text := [shareName]

def formatContributionTable (frame : Frame) : Traced Frame := do
  let counted ← countNames.foldlM (·.displayed · Display.integer) frame
  let shared ← shareNames.foldlM (·.displayed · Display.percent) counted
  Traced.note (.tableFormatted frame.height)
  return shared

namespace Html

def headerLine (name : Text) : Text :=
  "      <th>".toList ++ tableText name ++ "</th>".toList

def cellLine (content : Text) : Text :=
  "      <td>".toList ++ tableText content ++ "</td>".toList

def rowLines (contents : List Text) : List Text :=
  "    <tr>".toList :: contents.map cellLine ++ ["    </tr>".toList]

/-- The lines of a table with these column names and cells. -/
def tableLines (names : List Text) (rows : List (List Text)) : List Text :=
  ["<table class=\"dataframe\">".toList,
    "  <thead>".toList,
    "    <tr style=\"text-align: right;\">".toList] ++
  names.map headerLine ++
  ["    </tr>".toList,
    "  </thead>".toList,
    "  <tbody>".toList] ++
  rows.flatMap rowLines ++
  ["  </tbody>".toList,
    "</table>".toList]

def heading (title : Text) : Text :=
  "<h3>".toList ++ quoteEscaped title ++ "</h3>".toList

def columnContents (column : Column) : Except Fault (List Text) := do
  column.requirePresence
  column.cells.mapM cellContent

def table (frame : Frame) (title : Text) : Except Fault Text := do
  let contents ← frame.columns.mapM columnContents
  let rows := (List.range frame.height).map fun i => contents.filterMap (·[i]?)
  return heading title ++ Text.joinLines (tableLines frame.names rows)

/-! ## Progress -/

def progressTitle : Text := "Solve progress".toList

def progressNames : ProgressSummary :=
  ⟨"Solved tiles".toList, "Total tiles".toList, "Progress".toList⟩

def progressFrame (summary : ProgressSummary) : Frame where
  columns := [
    Column.inferred progressNames.solved [.text summary.solved],
    Column.inferred progressNames.total [.text summary.total],
    Column.inferred progressNames.progress [.text summary.progress]]

def progressTable (solved total : Quantity) : Traced Text := do
  table (progressFrame (← progressSummary solved total)) progressTitle

end Html

end Scoreboard
