import Mathlib
import Scoreboard.Proofs.Injection

/-!
# Elements of a page

The headings of a page, its tables and their cells are read off its tokens.  No text that is written
into an element closes it early or opens another one, so that every element is found where it was
put, with the text that was put there.
-/

namespace Scoreboard.Html

def characters (html : List Token) : Text := html.filterMap Token.char?

def elementTexts (element : ElementTags) (html : List Token) : List Text :=
  (elements element html).map characters

def sectionHeading : ElementTags := ⟨"<h2>".toList, "</h2>".toList⟩

def tableHeading : ElementTags := ⟨"<h3>".toList, "</h3>".toList⟩

def tableElement : ElementTags := ⟨"<table class=\"dataframe\">".toList, "</table>".toList⟩

def cellElement : ElementTags := ⟨"<td>".toList, "</td>".toList⟩

section Elements

variable {element : ElementTags}

theorem balanced_of_not_mem_tags {html : Text} (h : element.opening ∉ tags html) :
    Balanced element (tokens html) := balanced_of_not_mem (mem_tags.not.mp h)

theorem elements_of_not_mem_tags {html : Text} (h : element.opening ∉ tags html) :
    elements element (tokens html) = [] := elements_of_not_mem (mem_tags.not.mp h)

/-! ## Inert texts inside of elements -/

theorem Inert.tokens_eq {text : Text} (h : Inert text) : tokens text = text.map .char :=
  tokens_of_not_mem h.not_mem.1

theorem characters_map (text : Text) : characters (text.map .char) = text := by
  rw [characters, List.filterMap_map]
  exact List.filterMap_some

/-- An inert text between the tags of an element. -/
structure Encloses (element : ElementTags) (before after : Text) : Prop where
  closed : Closed before
  opens : ∃ known, tokens before = known ++ [.tag element.opening] ∧ .tag element.opening ∉ known
  closes : ∃ later, tokens after = .tag element.closing :: later ∧ .tag element.opening ∉ later

variable {before inner after : Text} (h : Encloses element before after) (hinner : Inert inner)

include h hinner

theorem tokens_enclosed : ∃ known later,
    tokens (before ++ inner ++ after) =
      known ++ .tag element.opening :: (inner.map .char ++ .tag element.closing :: later) ∧
    .tag element.opening ∉ known ∧ .tag element.opening ∉ later := by
  obtain ⟨known, hbefore, hknown⟩ := h.opens
  obtain ⟨later, hafter, hlater⟩ := h.closes
  refine ⟨known, later, ?_, hknown, hlater⟩
  rw [tokens_append (h.closed.append hinner.closed), tokens_append h.closed, hinner.tokens_eq,
    hbefore, hafter]
  simp

theorem elementTexts_enclosed :
    elementTexts element (tokens (before ++ inner ++ after)) = [inner] := by
  obtain ⟨known, later, htokens, hknown, hlater⟩ := tokens_enclosed h hinner
  rw [elementTexts, htokens, elements_single hknown (by simp) hlater, List.map_singleton,
    characters_map]

theorem balanced_enclosed : Balanced element (tokens (before ++ inner ++ after)) := by
  obtain ⟨known, later, htokens, hknown, hlater⟩ := tokens_enclosed h hinner
  rw [htokens]
  exact balanced_single hknown (by simp) hlater

end Elements

theorem encloses_cell : Encloses cellElement "      <td>".toList "</td>".toList where
  closed := by decide
  opens := ⟨List.replicate 6 (.char ' '), rfl, by decide⟩
  closes := ⟨[], rfl, by decide⟩

theorem encloses_heading : Encloses tableHeading "<h3>".toList "</h3>".toList where
  closed := by decide
  opens := ⟨[], rfl, by decide⟩
  closes := ⟨[], rfl, by decide⟩

theorem encloses_sectionHead :
    Encloses sectionHeading "<section><h2>".toList "</h2><div>".toList where
  closed := by decide
  opens := ⟨[.tag "<section>".toList], rfl, by decide⟩
  closes := ⟨[.tag "<div>".toList], rfl, by decide⟩

/-! ## Elements of tables -/

def innerTags : List Text :=
  ["<thead>".toList, "</thead>".toList, "<tbody>".toList, "</tbody>".toList,
    "<tr style=\"text-align: right;\">".toList, "<tr>".toList, "</tr>".toList, "<th>".toList,
    "</th>".toList, "<td>".toList, "</td>".toList]

theorem mem_innerTags {names : List Text} {rows : List (List Text)} :
    ∀ line ∈ innerLines names rows, ∀ run ∈ tags line, run ∈ innerTags := by
  apply forall_mem_innerLines
  · decide
  · intro name
    rw [tags_headerLine]
    decide
  · intro content
    rw [tags_cellLine]
    decide

def tableTokens (names : List Text) (rows : List (List Text)) : List Token :=
  lineTokens (innerLines names rows) ++ [.char '\n']

variable {names : List Text} {rows : List (List Text)}

theorem tokens_tableLines :
    tokens (Text.joinLines (tableLines names rows)) =
      .tag tableElement.opening :: (tableTokens names rows ++ .tag tableElement.closing :: []) := by
  have hclosed := closed_of_mem_tableLines names rows
  rw [tableLines_eq] at hclosed ⊢
  rw [tokens_joinLines hclosed, tableTokens, lineTokens, List.flatMap_append, lineTokens]
  simp only [List.append_assoc]
  rfl

theorem not_mem_tableTokens {run : Text} (h : run ∉ innerTags) :
    .tag run ∉ tableTokens names rows := by
  intro hmem
  simp only [tableTokens, lineTokens, List.mem_append, List.mem_flatMap, List.mem_cons,
    reduceCtorEq, false_or, List.not_mem_nil, or_false] at hmem
  obtain ⟨line, hline, hrun⟩ := hmem
  exact h (mem_innerTags line hline run (mem_tags.mpr hrun))

theorem tokens_tableMarkup (title : Text) :
    tokens (tableMarkup title names rows) = tokens (heading title) ++ .tag tableElement.opening ::
      (tableTokens names (rows.map (List.map controlEscaped)) ++ .tag tableElement.closing :: []) := by
  rw [tableMarkup, tokens_append (closed_heading title), tokens_tableLines]

section Tables

variable (title : Text)

private theorem heading_no_table : Token.tag tableElement.opening ∉ tokens (heading title) := by
  rw [← mem_tags, tags_heading]
  decide

theorem elements_tableMarkup :
    elements tableElement (tokens (tableMarkup title names rows)) =
      [tableTokens names (rows.map (List.map controlEscaped))] := by
  rw [tokens_tableMarkup]
  exact elements_single (heading_no_table title) (not_mem_tableTokens (by decide)) (by simp)

theorem balanced_table : Balanced tableElement (tokens (tableMarkup title names rows)) := by
  rw [tokens_tableMarkup]
  exact balanced_single (heading_no_table title) (not_mem_tableTokens (by decide)) (by simp)

private theorem lines_no_tag {run : Text} (hinner : run ∉ innerTags)
    (hopening : run ≠ tableElement.opening) (hclosing : run ≠ tableElement.closing) :
    Token.tag run ∉ tokens (Text.joinLines (tableLines names rows)) := by
  intro hmem
  rw [tokens_tableLines, List.mem_cons, List.mem_append, List.mem_singleton] at hmem
  rcases hmem with hfirst | hlater | hlast
  · exact hopening (Token.tag.inj hfirst)
  · exact not_mem_tableTokens hinner hlater
  · exact hclosing (Token.tag.inj hlast)

private theorem lines_no_heading : Token.tag tableHeading.opening ∉
    tokens (Text.joinLines (tableLines names rows)) :=
  lines_no_tag (by decide) (by decide) (by decide)

theorem elementTexts_tableHeading :
    elementTexts tableHeading (tokens (tableMarkup title names rows)) = [quoteEscaped title] := by
  have hheading := elementTexts_enclosed encloses_heading (inert_quoteEscaped title)
  have hbalanced := balanced_enclosed encloses_heading (inert_quoteEscaped title)
  rw [tableMarkup, tokens_append (closed_heading title), elementTexts, heading, hbalanced,
    elements_of_not_mem lines_no_heading, List.append_nil]
  exact hheading

theorem balanced_tableHeading : Balanced tableHeading (tokens (tableMarkup title names rows)) := by
  rw [tableMarkup, tokens_append (closed_heading title)]
  exact (balanced_enclosed encloses_heading (inert_quoteEscaped title)).append
    (balanced_of_not_mem lines_no_heading)

theorem table_no_sectionHeading :
    sectionHeading.opening ∉ tags (tableMarkup title names rows) := by
  rw [tableMarkup, tags_append (closed_heading title), tags_heading, List.mem_append, not_or]
  exact ⟨by decide, mem_tags.not.mpr (lines_no_tag (by decide) (by decide) (by decide))⟩

end Tables

/-! ## Cells -/

theorem balanced_innerLines :
    ∀ line ∈ innerLines names rows, Balanced cellElement (tokens line) := by
  apply forall_mem_innerLines
  · intro line hline
    apply balanced_of_not_mem_tags
    revert line
    decide
  · intro name
    apply balanced_of_not_mem_tags
    rw [tags_headerLine]
    decide
  · intro content
    exact balanced_enclosed encloses_cell (inert_tableText content)

private theorem texts_headerLine (name : Text) :
    elementTexts cellElement (tokens (headerLine name)) = [] := by
  rw [elementTexts, elements_of_not_mem_tags, List.map_nil]
  rw [tags_headerLine]
  decide

private theorem texts_rowLines (contents : List Text) :
    ((rowLines contents).flatMap fun line => elementTexts cellElement (tokens line)) =
      contents.map tableText := by
  have hcells : ((contents.map cellLine).flatMap fun line =>
      elementTexts cellElement (tokens line)) = contents.map tableText := by
    rw [List.flatMap_map, List.map_eq_flatMap]
    apply List.flatMap_congr
    intro content _
    exact elementTexts_enclosed encloses_cell (inert_tableText content)
  rw [rowLines, List.flatMap_append, List.flatMap_cons, hcells]
  exact List.append_nil _

theorem elementTexts_cells :
    elementTexts cellElement (tableTokens names rows) =
      rows.flatMap fun row => row.map tableText := by
  have hfeed : elements cellElement [.char '\n'] = [] := elements_of_not_mem (by simp)
  have hnames : ((names.map headerLine).flatMap fun line =>
      elementTexts cellElement (tokens line)) = [] := by
    simp [List.flatMap_map, texts_headerLine]
  have hrows : ((rows.flatMap rowLines).flatMap fun line =>
      elementTexts cellElement (tokens line)) = rows.flatMap fun row => row.map tableText := by
    rw [List.flatMap_assoc]
    exact List.flatMap_congr fun row _ => texts_rowLines row
  calc
    elementTexts cellElement (tableTokens names rows) =
        (innerLines names rows).flatMap fun line => elementTexts cellElement (tokens line) := by
      rw [elementTexts, tableTokens, balanced_lineTokens balanced_innerLines, hfeed,
        List.append_nil, elements_lineTokens balanced_innerLines, List.map_flatMap]
      rfl
    _ = rows.flatMap fun row => row.map tableText := by
      rw [innerLines, List.flatMap_append, List.flatMap_append, List.flatMap_append,
        List.flatMap_append, hnames, hrows]
      exact List.append_nil _

/-! ## Sections and pages -/

section Sections

variable {element : ElementTags} {part : ReportSection}

theorem tokens_sectionText (h : Closed part.content) :
    tokens (sectionText part) =
      tokens ("<section><h2>".toList ++ quoteEscaped part.title ++ "</h2><div>".toList) ++
        tokens part.content ++ tokens "</div></section>".toList := by
  have hhead := closed_sectionHead part.title
  rw [← tokens_append hhead, ← tokens_append (hhead.append h)]
  rfl

theorem elementTexts_section (h : Closed part.content)
    (hcontent : sectionHeading.opening ∉ tags part.content) :
    elementTexts sectionHeading (tokens (sectionText part)) = [quoteEscaped part.title] ∧
      Balanced sectionHeading (tokens (sectionText part)) := by
  have hhead := balanced_enclosed encloses_sectionHead (inert_quoteEscaped part.title)
  have hbody := balanced_of_not_mem_tags hcontent
  have hfoot : sectionHeading.opening ∉ tags "</div></section>".toList := by decide
  rw [tokens_sectionText h]
  constructor
  · rw [elementTexts, hhead.append hbody, hhead, elements_of_not_mem_tags hcontent,
      elements_of_not_mem_tags hfoot, List.append_nil, List.append_nil]
    exact elementTexts_enclosed encloses_sectionHead (inert_quoteEscaped part.title)
  · exact (hhead.append hbody).append (balanced_of_not_mem_tags hfoot)

def sectionEdges : List Text :=
  ["<section>".toList, "<h2>".toList, "</h2>".toList, "<div>".toList, "</div>".toList,
    "</section>".toList]

theorem elements_section (h : Closed part.content) (hedges : element.opening ∉ sectionEdges)
    (hcontent : Balanced element (tokens part.content)) :
    elements element (tokens (sectionText part)) = elements element (tokens part.content) ∧
      Balanced element (tokens (sectionText part)) := by
  have hhead : element.opening ∉
      tags ("<section><h2>".toList ++ quoteEscaped part.title ++ "</h2><div>".toList) := by
    rw [tags_enclosed (by decide) (inert_quoteEscaped _)]
    intro hmem
    have : ∀ run ∈ tags "<section><h2>".toList ++ tags "</h2><div>".toList, run ∈ sectionEdges := by
      decide
    exact hedges (this _ hmem)
  have hfoot : element.opening ∉ tags "</div></section>".toList := by
    intro hmem
    have : ∀ run ∈ tags "</div></section>".toList, run ∈ sectionEdges := by decide
    exact hedges (this _ hmem)
  have hbalanced := (balanced_of_not_mem_tags hhead).append hcontent
  rw [tokens_sectionText h]
  constructor
  · rw [hbalanced, balanced_of_not_mem_tags hhead, elements_of_not_mem_tags hhead,
      elements_of_not_mem_tags hfoot, List.append_nil, List.nil_append]
  · exact hbalanced.append (balanced_of_not_mem_tags hfoot)

theorem elements_page {parts : List ReportSection} (hclosed : ∀ part ∈ parts, Closed part.content)
    (hsections : ∀ part ∈ parts, Balanced element (tokens (sectionText part)))
    (hhead : element.opening ∉ tags pageHead) (hfoot : element.opening ∉ tags pageFoot) :
    elements element (tokens (page parts)) =
      parts.flatMap fun part => elements element (tokens (sectionText part)) := by
  have hlines := closed_sections hclosed
  have hbalanced : ∀ line ∈ parts.map sectionText, Balanced element (tokens line) := by
    intro line hline
    obtain ⟨part, hpart, rfl⟩ := List.mem_map.mp hline
    exact hsections part hpart
  have hopening := balanced_of_not_mem_tags hhead
  have hbody := hopening.append (balanced_joinLines hlines hbalanced)
  rw [page, tokens_append (closed_pageHead.append (closed_joinLines hlines)),
    tokens_append closed_pageHead, hbody, hopening, elements_of_not_mem_tags hhead,
    elements_of_not_mem_tags hfoot, elements_joinLines hlines hbalanced, List.append_nil,
    List.nil_append, List.flatMap_map]

end Sections

/-! ## Pages of tables -/

structure TableSection where
  title : Text
  heading : Text
  names : List Text
  rows : List (List Text)

/-- The elements that are looked for on a page as a whole. -/
def soughtElements : List ElementTags := [sectionHeading, tableHeading, tableElement]

theorem soughtElements_not_mem_page :
    ∀ element ∈ soughtElements,
      element.opening ∉ tags pageHead ∧ element.opening ∉ tags pageFoot := by
  decide +kernel

namespace TableSection

def part (table : TableSection) : ReportSection :=
  ⟨table.title, tableMarkup table.heading table.names table.rows⟩

variable {element : ElementTags}

private theorem elements_tables {tables : List TableSection} (hsought : element ∈ soughtElements)
    (hbalanced : ∀ table : TableSection, Balanced element (tokens (sectionText table.part))) :
    elements element (tokens (page (tables.map part))) =
      tables.flatMap fun table => elements element (tokens (sectionText table.part)) := by
  obtain ⟨hhead, hfoot⟩ := soughtElements_not_mem_page element hsought
  rw [elements_page _ _ hhead hfoot, List.flatMap_map]
  · intro other hother
    obtain ⟨table, -, rfl⟩ := List.mem_map.mp hother
    exact closed_tableMarkup _ _ _
  · intro other hother
    obtain ⟨table, -, rfl⟩ := List.mem_map.mp hother
    exact hbalanced table

theorem sectionHeadings_page (tables : List TableSection) :
    elementTexts sectionHeading (tokens (page (tables.map part))) =
      tables.map fun table => quoteEscaped table.title := by
  have hsection (table : TableSection) :=
    @elementTexts_section table.part (closed_tableMarkup _ _ _) (table_no_sectionHeading _)
  rw [elementTexts, elements_tables (by simp [soughtElements]) fun table => (hsection table).2,
    List.map_flatMap, List.map_eq_flatMap]
  exact List.flatMap_congr fun table _ => (hsection table).1

theorem tableHeadings_page (tables : List TableSection) :
    elementTexts tableHeading (tokens (page (tables.map part))) =
      tables.map fun table => quoteEscaped table.heading := by
  have hsection (table : TableSection) :=
    @elements_section tableHeading table.part (closed_tableMarkup _ _ _) (by decide)
      (balanced_tableHeading _)
  rw [elementTexts, elements_tables (by simp [soughtElements]) fun table => (hsection table).2,
    List.map_flatMap, List.map_eq_flatMap]
  apply List.flatMap_congr
  intro table _
  rw [(hsection table).1]
  exact elementTexts_tableHeading table.heading

theorem tables_page (tables : List TableSection) :
    elements tableElement (tokens (page (tables.map part))) =
      tables.map fun table => tableTokens table.names (table.rows.map (List.map controlEscaped)) := by
  have hsection (table : TableSection) :=
    @elements_section tableElement table.part (closed_tableMarkup _ _ _) (by decide)
      (balanced_table _)
  rw [elements_tables (by simp [soughtElements]) fun table => (hsection table).2,
    List.map_eq_flatMap]
  apply List.flatMap_congr
  intro table _
  rw [(hsection table).1]
  exact elements_tableMarkup table.heading

end TableSection

end Scoreboard.Html
