import Scoreboard.Html.Table

/-!
# Reports

A report is a page with a fixed head and one section for each pair of a title and a content. Titles are
texts and are escaped; contents are markup and are not.
-/

namespace Scoreboard.Html

structure ReportSection where
  title : Text
  content : Text
  deriving DecidableEq, Repr

def reportTitle : Text := "Tiling Monitor Report".toList

def sectionText (part : ReportSection) : Text :=
  "<section><h2>".toList ++ quoteEscaped part.title ++ "</h2><div>".toList ++ part.content ++
    "</div></section>".toList

def pageHead : Text :=
  Text.joinLines [
    "".toList,
    "    <html>".toList,
    "    <head>".toList,
    "      <style>".toList,
    "        body \x7bfont-family: Arial, sans-serif; margin: 24px;\x7d".toList,
    "        h1, h2 \x7bcolor: #1E3A8A;\x7d".toList,
    "        table \x7bborder-collapse: collapse; width: 100%;\x7d".toList,
    "        th, td \x7bborder: 1px solid #ddd; padding: 8px; text-align: right;\x7d".toList,
    "        th \x7bbackground: #f3f4f6;\x7d".toList,
    "      </style>".toList,
    "    </head>".toList,
    "    <body>".toList,
    "      <h1>".toList ++ quoteEscaped reportTitle ++ "</h1>".toList,
    "      ".toList]

def pageFoot : Text :=
  Text.joinLines ["".toList, "    </body>".toList, "    </html>".toList, "    ".toList]

def page (parts : List ReportSection) : Text :=
  pageHead ++ Text.joinLines (parts.map sectionText) ++ pageFoot

def buildReport (parts : List ReportSection) : Traced Text := do
  Traced.note (.reportBuilt parts.length)
  return page parts

/-! ## The report of a puzzle -/

structure ReportTitles where
  contributions : Text
  table : Text
  progress : Text
  deriving DecidableEq, Repr

/-- The contribution table in one section and the progress table in another. -/
def puzzleReport (rows : List Contribution) (solved total : Quantity) (titles : ReportTitles) :
    Traced Text := do
  let formatted ← formatContributionTable (.ofContributions rows)
  let contributionTable ← table formatted titles.table
  let progress ← progressTable solved total
  buildReport [⟨titles.contributions, contributionTable⟩, ⟨titles.progress, progress⟩]

end Scoreboard.Html
