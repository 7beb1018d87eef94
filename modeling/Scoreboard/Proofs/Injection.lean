import Mathlib
import Scoreboard.Proofs.Contributions
import Scoreboard.Proofs.Entities
import Scoreboard.Proofs.Reports
import Scoreboard.Proofs.Tokens

/-!
# No markup from data

The tags of a report follow from the number of its helpers alone: whatever the ids, the counts and
the titles are, none of them opens or closes an element, and no ampersand of theirs is left bare.
-/

namespace Scoreboard.Html

/-! ## Inert texts between tags -/

theorem Inert.closed {text : Text} (h : Inert text) : Closed text := closed_of_not_mem h.not_mem.1

theorem Inert.tags_eq {text : Text} (h : Inert text) : tags text = [] := tags_of_not_mem h.not_mem.1

section Enclosed

variable {before inner after : Text} (hbefore : Closed before) (hinner : Inert inner)

include hbefore hinner

theorem closed_enclosed (hafter : Closed after) : Closed (before ++ inner ++ after) :=
  (hbefore.append hinner.closed).append hafter

theorem tags_enclosed : tags (before ++ inner ++ after) = tags before ++ tags after := by
  rw [tags_append (hbefore.append hinner.closed), tags_append hbefore, hinner.tags_eq,
    List.append_nil]

end Enclosed

theorem references_enclosed {before inner after : Text} (hbefore : '&' ∉ before)
    (hinner : Inert inner) (hafter : '&' ∉ after) : References (before ++ inner ++ after) :=
  ((references_of_not_mem hbefore).append hinner.references).append (references_of_not_mem hafter)

/-! ## Tags of tables -/

theorem closed_headerLine (name : Text) : Closed (headerLine name) :=
  closed_enclosed (by decide) (inert_tableText name) (by decide)

theorem closed_cellLine (content : Text) : Closed (cellLine content) :=
  closed_enclosed (by decide) (inert_tableText content) (by decide)

theorem closed_heading (title : Text) : Closed (heading title) :=
  closed_enclosed (by decide) (inert_quoteEscaped title) (by decide)

theorem tags_headerLine (name : Text) : tags (headerLine name) = ["<th>".toList, "</th>".toList] :=
  tags_enclosed (by decide) (inert_tableText name)

theorem tags_cellLine (content : Text) : tags (cellLine content) = ["<td>".toList, "</td>".toList] :=
  tags_enclosed (by decide) (inert_tableText content)

theorem tags_heading (title : Text) : tags (heading title) = ["<h3>".toList, "</h3>".toList] :=
  tags_enclosed (by decide) (inert_quoteEscaped title)

def fixedLines : List Text :=
  ["  <thead>".toList, "    <tr style=\"text-align: right;\">".toList, "    <tr>".toList,
    "    </tr>".toList, "  </thead>".toList, "  <tbody>".toList, "  </tbody>".toList]

/-- The lines of a table without the first and the last one. -/
def innerLines (names : List Text) (rows : List (List Text)) : List Text :=
  ["  <thead>".toList, "    <tr style=\"text-align: right;\">".toList] ++ names.map headerLine ++
    ["    </tr>".toList, "  </thead>".toList, "  <tbody>".toList] ++ rows.flatMap rowLines ++
    ["  </tbody>".toList]

theorem tableLines_eq (names : List Text) (rows : List (List Text)) :
    tableLines names rows =
      "<table class=\"dataframe\">".toList :: (innerLines names rows ++ ["</table>".toList]) := by
  simp [tableLines, innerLines]

theorem forall_mem_innerLines {p : Text → Prop} (hfixed : ∀ line ∈ fixedLines, p line)
    (hheader : ∀ name, p (headerLine name)) (hcell : ∀ content, p (cellLine content))
    (names : List Text) (rows : List (List Text)) : ∀ line ∈ innerLines names rows, p line := by
  have hrow (contents : List Text) : ∀ line ∈ rowLines contents, p line := by
    simp only [rowLines, List.mem_append, List.mem_cons, List.mem_map, List.not_mem_nil, or_false]
    rintro line ((rfl | ⟨content, -, rfl⟩) | rfl)
    · exact hfixed _ (by decide)
    · exact hcell content
    · exact hfixed _ (by decide)
  intro line hline
  simp only [innerLines, List.mem_append] at hline
  rcases hline with (((hopening | hname) | hbetween) | hcells) | hclosing
  · exact hfixed line (by simp [fixedLines] at hopening ⊢; tauto)
  · obtain ⟨name, -, rfl⟩ := List.mem_map.mp hname
    exact hheader name
  · exact hfixed line (by simp [fixedLines] at hbetween ⊢; tauto)
  · obtain ⟨contents, -, hmem⟩ := List.mem_flatMap.mp hcells
    exact hrow contents line hmem
  · exact hfixed line (by simp [fixedLines] at hclosing ⊢; tauto)

theorem forall_mem_tableLines {p : Text → Prop} (hfixed : ∀ line ∈ fixedLines, p line)
    (hopening : p "<table class=\"dataframe\">".toList) (hclosing : p "</table>".toList)
    (hheader : ∀ name, p (headerLine name)) (hcell : ∀ content, p (cellLine content))
    (names : List Text) (rows : List (List Text)) : ∀ line ∈ tableLines names rows, p line := by
  have hinner := forall_mem_innerLines hfixed hheader hcell names rows
  rw [tableLines_eq]
  simp only [List.mem_cons, List.mem_append, List.not_mem_nil, or_false]
  rintro line (rfl | hline | rfl)
  · exact hopening
  · exact hinner line hline
  · exact hclosing

theorem closed_of_mem_tableLines (names : List Text) (rows : List (List Text)) :
    ∀ line ∈ tableLines names rows, Closed line :=
  forall_mem_tableLines (by decide) (by decide) (by decide) closed_headerLine closed_cellLine names
    rows

theorem closed_tableMarkup (title : Text) (names : List Text) (rows : List (List Text)) :
    Closed (tableMarkup title names rows) :=
  (closed_heading title).append (closed_joinLines (closed_of_mem_tableLines _ _))

private theorem flatMap_const {α β : Type} {items : List α} {f : α → List β} {result : List β}
    (h : ∀ item ∈ items, f item = result) :
    items.flatMap f = (List.replicate items.length result).flatten := by
  rw [List.flatMap_congr h, List.flatMap_def, List.map_const']

def rowTags (columns : Nat) : List Text :=
  "<tr>".toList :: (List.replicate columns ["<td>".toList, "</td>".toList]).flatten ++
    ["</tr>".toList]

def tableTags (columns rows : Nat) : List Text :=
  ["<table class=\"dataframe\">".toList, "<thead>".toList,
    "<tr style=\"text-align: right;\">".toList] ++
  (List.replicate columns ["<th>".toList, "</th>".toList]).flatten ++
  ["</tr>".toList, "</thead>".toList, "<tbody>".toList] ++
  (List.replicate rows (rowTags columns)).flatten ++
  ["</tbody>".toList, "</table>".toList]

theorem tags_rowLines (contents : List Text) :
    (rowLines contents).flatMap tags = rowTags contents.length := by
  have hcells : (contents.map cellLine).flatMap tags =
      (List.replicate contents.length ["<td>".toList, "</td>".toList]).flatten := by
    rw [List.flatMap_map]
    exact flatMap_const fun content _ => tags_cellLine content
  rw [rowLines, List.flatMap_append, List.flatMap_cons, hcells]
  rfl

/-- The tags of a table are those of its size, whatever is in the cells. -/
theorem tags_tableMarkup (title : Text) {names : List Text} {rows : List (List Text)}
    (h : ∀ row ∈ rows, row.length = names.length) :
    tags (tableMarkup title names rows) =
      ["<h3>".toList, "</h3>".toList] ++ tableTags names.length rows.length := by
  have hnames : (names.map headerLine).flatMap tags =
      (List.replicate names.length ["<th>".toList, "</th>".toList]).flatten := by
    rw [List.flatMap_map]
    exact flatMap_const fun name _ => tags_headerLine name
  have hrows : ((rows.map (List.map controlEscaped)).flatMap rowLines).flatMap tags =
      (List.replicate rows.length (rowTags names.length)).flatten := by
    rw [List.flatMap_assoc, List.flatMap_map]
    apply flatMap_const
    intro row hrow
    rw [tags_rowLines, List.length_map, h row hrow]
  rw [tableMarkup, tags_append (closed_heading title), tags_heading,
    tags_joinLines (closed_of_mem_tableLines _ _)]
  simp only [tableLines, List.flatMap_append, hnames, hrows]
  rfl

/-! ## Tags of pages -/

theorem closed_sectionHead (title : Text) :
    Closed ("<section><h2>".toList ++ quoteEscaped title ++ "</h2><div>".toList) :=
  closed_enclosed (by decide) (inert_quoteEscaped title) (by decide)

theorem closed_sectionText {part : ReportSection} (h : Closed part.content) :
    Closed (sectionText part) :=
  ((closed_sectionHead part.title).append h).append (by decide)

theorem tags_sectionText {part : ReportSection} (h : Closed part.content) :
    tags (sectionText part) =
      ["<section>".toList, "<h2>".toList, "</h2>".toList, "<div>".toList] ++ tags part.content ++
        ["</div>".toList, "</section>".toList] := by
  have hhead := closed_sectionHead part.title
  calc
    tags (sectionText part) =
        tags ("<section><h2>".toList ++ quoteEscaped part.title ++ "</h2><div>".toList) ++
          tags part.content ++ tags "</div></section>".toList := by
      rw [← tags_append hhead, ← tags_append (hhead.append h)]
      rfl
    _ = _ := by
      rw [tags_enclosed (by decide) (inert_quoteEscaped _)]
      rfl

theorem closed_sections {parts : List ReportSection} (h : ∀ part ∈ parts, Closed part.content) :
    ∀ line ∈ parts.map sectionText, Closed line := by
  intro line hline
  obtain ⟨part, hpart, rfl⟩ := List.mem_map.mp hline
  exact closed_sectionText (h part hpart)

theorem closed_pageHead : Closed pageHead := by decide +kernel

theorem tags_page {parts : List ReportSection} (h : ∀ part ∈ parts, Closed part.content) :
    tags (page parts) =
      tags pageHead ++ parts.flatMap (fun part => tags (sectionText part)) ++ tags pageFoot := by
  have hlines := closed_sections h
  rw [page, tags_append (closed_pageHead.append (closed_joinLines hlines)),
    tags_append closed_pageHead, tags_joinLines hlines, List.flatMap_map]

def sectionTags (columns rows : Nat) : List Text :=
  ["<section>".toList, "<h2>".toList, "</h2>".toList, "<div>".toList] ++
    (["<h3>".toList, "</h3>".toList] ++ tableTags columns rows) ++
    ["</div>".toList, "</section>".toList]

def reportTags (helpers : Nat) : List Text :=
  tags pageHead ++ (sectionTags contributionNames.length helpers ++
    sectionTags progressNames.cells.length 1) ++ tags pageFoot

theorem tags_reportMarkup (titles : ReportTitles) (shown : List ShownContribution)
    (summary : ProgressSummary) :
    tags (reportMarkup titles shown summary) = reportTags shown.length := by
  have hrows : ∀ row ∈ shown.map ShownContribution.cells, row.length = contributionNames.length := by
    intro row hrow
    obtain ⟨texts, -, rfl⟩ := List.mem_map.mp hrow
    rfl
  have hsummary : ∀ row ∈ [summary.cells], row.length = progressNames.cells.length := by
    simp [ProgressSummary.cells]
  have hcontributions := tags_tableMarkup titles.table hrows
  have hprogress := tags_tableMarkup progressTitle hsummary
  rw [List.length_map] at hcontributions
  rw [reportMarkup, tags_page]
  · rw [List.flatMap_cons, List.flatMap_cons, List.flatMap_nil, List.append_nil,
      tags_sectionText (closed_tableMarkup _ _ _), tags_sectionText (closed_tableMarkup _ _ _),
      hcontributions, hprogress]
    rfl
  · simp only [List.mem_cons, List.not_mem_nil, or_false, forall_eq_or_imp, forall_eq]
    exact ⟨closed_tableMarkup _ _ _, closed_tableMarkup _ _ _⟩

/-! ## References of pages -/

theorem references_joinLines {lines : List Text} (h : ∀ line ∈ lines, References line) :
    References (Text.joinLines lines) := by
  cases lines with
  | nil => exact references_of_not_mem (by simp [Text.joinLines])
  | cons first lines =>
      have hfeed : References ['\n'] := references_of_not_mem (by decide)
      rw [joinLines_cons]
      exact (h first (by simp)).append
        (references_flatMap fun line hline => hfeed.append (h line (by simp [hline])))

theorem references_tableMarkup (title : Text) (names : List Text) (rows : List (List Text)) :
    References (tableMarkup title names rows) := by
  have hlines := @forall_mem_tableLines References
    (fun line hline => references_of_not_mem (by revert line; decide))
    (references_of_not_mem (by decide)) (references_of_not_mem (by decide))
    (fun name => references_enclosed (by decide) (inert_tableText name) (by decide))
    (fun content => references_enclosed (by decide) (inert_tableText content) (by decide))
  exact (references_enclosed (by decide) (inert_quoteEscaped title) (by decide)).append
    (references_joinLines (hlines _ _))

theorem references_sectionText {part : ReportSection} (h : References part.content) :
    References (sectionText part) :=
  ((references_enclosed (by decide) (inert_quoteEscaped part.title) (by decide)).append h).append
    (references_of_not_mem (by decide))

theorem references_page {parts : List ReportSection} (h : ∀ part ∈ parts, References part.content) :
    References (page parts) := by
  have hlines : ∀ line ∈ parts.map sectionText, References line := by
    intro line hline
    obtain ⟨part, hpart, rfl⟩ := List.mem_map.mp hline
    exact references_sectionText (h part hpart)
  exact ((references_of_not_mem (by decide +kernel)).append (references_joinLines hlines)).append
    (references_of_not_mem (by decide +kernel))

/-! ## Reports -/

theorem puzzleReport_eq_ok {rows : List Contribution} {solved total : Quantity}
    {titles : ReportTitles} {html : Text}
    (h : (puzzleReport rows solved total titles).outcome = .ok html) :
    ∃ shown summary, shown.length = rows.length ∧ html = reportMarkup titles shown summary := by
  obtain ⟨shown, hshown⟩ := exists_shown rows
  rw [outcome_puzzleReport hshown] at h
  obtain ⟨summary, -, hhtml⟩ := map_eq_ok.mp h
  exact ⟨shown, summary, hshown.length_eq.symm, hhtml.symm⟩

theorem tags_puzzleReport {rows : List Contribution} {solved total : Quantity}
    {titles : ReportTitles} {html : Text}
    (h : (puzzleReport rows solved total titles).outcome = .ok html) :
    tags html = reportTags rows.length := by
  obtain ⟨shown, summary, hlength, rfl⟩ := puzzleReport_eq_ok h
  rw [tags_reportMarkup, hlength]

theorem references_puzzleReport {rows : List Contribution} {solved total : Quantity}
    {titles : ReportTitles} {html : Text}
    (h : (puzzleReport rows solved total titles).outcome = .ok html) : References html := by
  obtain ⟨shown, summary, -, rfl⟩ := puzzleReport_eq_ok h
  apply references_page
  simp only [List.mem_cons, List.not_mem_nil, or_false, forall_eq_or_imp, forall_eq]
  exact ⟨references_tableMarkup _ _ _, references_tableMarkup _ _ _⟩

/-- Two reports on as many helpers have the same tags, and no bare ampersand. -/
theorem reports_same_markup {updated solved updated' solved' : Tally}
    {rows rows' : List Contribution} {solvedTiles totalTiles solvedTiles' totalTiles' : Quantity}
    {titles titles' : ReportTitles} {html html' : Text}
    (hrows : contributions updated solved = .ok rows)
    (hrows' : contributions updated' solved' = .ok rows')
    (hhtml : (puzzleReport rows solvedTiles totalTiles titles).outcome = .ok html)
    (hhtml' : (puzzleReport rows' solvedTiles' totalTiles' titles').outcome = .ok html')
    (hsize : (updated.union solved).length = (updated'.union solved').length) :
    tags html = tags html' ∧ References html ∧ References html' := by
  refine ⟨?_, references_puzzleReport hhtml, references_puzzleReport hhtml'⟩
  rw [tags_puzzleReport hhtml, tags_puzzleReport hhtml', length_rows hrows, length_rows hrows',
    hsize]

/-- The id and a title of the first report imitate markup, which the second one has none of. -/
theorem reports_same_markup_of_imitation :
    ∃ rows rows' html html',
      contributions (.ofList [(.name "<b>&".toList, .int 3)]) .empty = .ok rows ∧
      contributions .empty (.ofList [(.number 7, .int 5)]) = .ok rows' ∧
      (puzzleReport rows (.whole 0) (.whole 0) ⟨"</h2>&amp;".toList, [], []⟩).outcome = .ok html ∧
      (puzzleReport rows' (.whole 2) (.whole 9) ⟨[], [], []⟩).outcome = .ok html' ∧
      tags html = tags html' ∧ References html ∧ References html' := by
  have hfirst : (contributions (.ofList [(.name "<b>&".toList, .int 3)]) .empty >>= fun rows =>
      (puzzleReport rows (.whole 0) (.whole 0) ⟨"</h2>&amp;".toList, [], []⟩).outcome).isOk =
        true := by
    decide +kernel
  have hsecond : (contributions .empty (.ofList [(.number 7, .int 5)]) >>= fun rows =>
      (puzzleReport rows (.whole 2) (.whole 9) ⟨[], [], []⟩).outcome).isOk = true := by
    decide +kernel
  obtain ⟨html, hfirst⟩ := exists_eq_ok hfirst
  obtain ⟨html', hsecond⟩ := exists_eq_ok hsecond
  obtain ⟨rows, hrows, hhtml⟩ := bind_eq_ok.mp hfirst
  obtain ⟨rows', hrows', hhtml'⟩ := bind_eq_ok.mp hsecond
  exact ⟨rows, rows', html, html', hrows, hrows', hhtml, hhtml',
    reports_same_markup hrows hrows' hhtml hhtml' (by decide)⟩

end Scoreboard.Html
