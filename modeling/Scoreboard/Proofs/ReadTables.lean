import Mathlib
import Scoreboard.Proofs.ReadBack
import Scoreboard.Proofs.ShownShares
import Scoreboard.Proofs.TableCells

/-!
# Reading a table back

Nothing is lost in a table of texts: its title is read off the heading, the names of its columns off
the header cells and its texts off the cells, row by row.  So two frames of texts with the same markup
have the same names and the same rows, whatever their texts imitate.
-/

namespace Scoreboard

/-! ## The reader -/

namespace Html

def headerElement : ElementTags := ⟨"<th>".toList, "</th>".toList⟩

structure ReadTable where
  title : Text
  names : List Text
  cells : List Text
  deriving DecidableEq, Repr

/-- Reads the title off the first heading, the names off all header cells, the texts off all cells. -/
def readTable? (html : Text) : Option ReadTable :=
  let page := tokens html
  match elementTexts tableHeading page with
  | [] => none
  | title :: _ => some
      { title := unescaped titleEntities title
        names := (elementTexts headerElement page).map (unescaped cellEntities)
        cells := (elementTexts cellElement page).map (unescaped cellEntities) }

/-! ## Names of columns -/

theorem encloses_header : Encloses headerElement "      <th>".toList "</th>".toList where
  closed := by decide
  opens := ⟨List.replicate 6 (.char ' '), rfl, by decide⟩
  closes := ⟨[], rfl, by decide⟩

theorem balanced_headerElement (names : List Text) (rows : List (List Text)) :
    ∀ line ∈ tableLines names rows, Balanced headerElement (tokens line) := by
  apply forall_mem_tableLines
  · intro line hline
    apply balanced_of_not_mem_tags
    revert line
    decide
  · exact balanced_of_not_mem_tags (by decide)
  · exact balanced_of_not_mem_tags (by decide)
  · exact fun name => balanced_enclosed encloses_header (inert_tableText name)
  · intro content
    apply balanced_of_not_mem_tags
    rw [tags_cellLine]
    decide

theorem elementTexts_of_not_mem {element : ElementTags} {lines : List Text}
    (h : ∀ line ∈ lines, element.opening ∉ tags line) :
    (lines.flatMap fun line => elementTexts element (tokens line)) = [] := by
  rw [List.flatMap_eq_nil_iff]
  intro line hline
  rw [elementTexts, elements_of_not_mem_tags (h line hline), List.map_nil]

theorem not_mem_tags_rowLines {rows : List (List Text)} :
    ∀ line ∈ rows.flatMap rowLines, headerElement.opening ∉ tags line := by
  intro line hline
  obtain ⟨row, -, hline⟩ := List.mem_flatMap.mp hline
  simp only [rowLines, List.mem_append, List.mem_cons, List.mem_map, List.not_mem_nil,
    or_false] at hline
  rcases hline with (rfl | ⟨content, -, rfl⟩) | rfl
  · decide
  · rw [tags_cellLine]
    decide
  · decide

theorem elementTexts_headers (title : Text) (names : List Text) (rows : List (List Text)) :
    elementTexts headerElement (tokens (heading title ++ Text.joinLines (tableLines names rows))) =
      names.map tableText := by
  have hheading : headerElement.opening ∉ tags (heading title) := by
    rw [tags_heading]
    decide
  have hnames : ((names.map headerLine).flatMap fun line =>
      elementTexts headerElement (tokens line)) = names.map tableText := by
    rw [List.flatMap_map, List.map_eq_flatMap]
    apply List.flatMap_congr
    intro name _
    exact elementTexts_enclosed encloses_header (inert_tableText name)
  have hrows := elementTexts_of_not_mem (@not_mem_tags_rowLines rows)
  calc
    elementTexts headerElement (tokens (heading title ++ Text.joinLines (tableLines names rows))) =
        (tableLines names rows).flatMap fun line => elementTexts headerElement (tokens line) := by
      rw [elementTexts, tokens_append (closed_heading title), balanced_of_not_mem_tags hheading,
        elements_of_not_mem_tags hheading, List.nil_append,
        elements_joinLines (closed_of_mem_tableLines names rows)
          (balanced_headerElement names rows), List.map_flatMap]
      rfl
    _ = names.map tableText := by
      rw [tableLines, List.flatMap_append, List.flatMap_append, List.flatMap_append,
        List.flatMap_append, hnames, hrows, elementTexts_of_not_mem (by decide),
        elementTexts_of_not_mem (by decide), elementTexts_of_not_mem (by decide)]
      simp only [List.nil_append, List.append_nil]

/-! ## Tables of texts -/

theorem elementTexts_tableMarkup (title : Text) (names : List Text) (rows : List (List Text)) :
    elementTexts cellElement (tokens (tableMarkup title names rows)) = rows.flatMap writtenCells := by
  rw [tableMarkup, elementTexts_lines, List.flatMap_map]
  apply List.flatMap_congr
  intro row _
  rw [List.map_map]
  rfl

theorem map_map_eq_self {α β : Type} {write : α → β} {read : β → α} {items : List α}
    (h : ∀ item ∈ items, read (write item) = item) : (items.map write).map read = items := by
  rw [List.map_map]
  exact (List.map_congr_left h).trans (List.map_id _)

theorem readTable?_tableMarkup (title : Text) {names : List Text} {rows : List (List Text)}
    (hnames : ∀ name ∈ names, name.trimmed = name)
    (hrows : ∀ row ∈ rows, ∀ text ∈ row, PlainText text) :
    readTable? (tableMarkup title names rows) = some ⟨title, names, rows.flatten⟩ := by
  have hheading := @elementTexts_tableHeading names rows title
  have hheaders : elementTexts headerElement (tokens (tableMarkup title names rows)) =
      names.map tableText := elementTexts_headers title names _
  have hreadNames : (names.map tableText).map (unescaped cellEntities) = names :=
    map_map_eq_self fun name hname => unescaped_tableText (hnames name hname)
  have hreadRows : (rows.flatMap writtenCells).map (unescaped cellEntities) = rows.flatten := by
    rw [List.map_flatMap, List.flatten_eq_flatMap]
    apply List.flatMap_congr
    intro row hrow
    exact map_map_eq_self fun text htext => unescaped_cell (hrows row hrow text htext)
  simp only [readTable?, hheading, hheaders, elementTexts_tableMarkup, hreadNames, hreadRows,
    unescaped_quoteEscaped]

end Html

/-! ## Frames of texts -/

/--
Columns of texts, at least one, all of one length.  Names and texts have no white space around them,
and texts no tabs and no line ends.
-/
structure Frame.IsPlain (frame : Frame) : Prop where
  nonempty : frame.columns ≠ []
  rectangular : frame.IsRectangular
  names : ∀ column ∈ frame.columns, column.name.trimmed = column.name
  cells : ∀ column ∈ frame.columns, ∀ cell ∈ column.cells,
    ∃ text, cell = .text text ∧ PlainText text

def Column.texts (column : Column) : List Text := column.cells.filterMap Value.text?

def Frame.textRows (frame : Frame) : List (List Text) :=
  Html.contentRows frame (frame.columns.map Column.texts)

theorem Column.cells_eq_texts {column : Column}
    (h : ∀ cell ∈ column.cells, ∃ text, cell = .text text) :
    column.cells = column.texts.map .text := by
  obtain ⟨name, storage, cells⟩ := column
  simp only [Column.texts] at h ⊢
  induction cells with
  | nil => rfl
  | cons cell cells ih =>
      obtain ⟨text, rfl⟩ := h cell (by simp)
      have hrest := ih fun other hother => h other (by simp [hother])
      exact congrArg (Value.text text :: ·) hrest

theorem filterMap_getElem?_map {α β : Type} (columns : List (List α)) (f : α → β) (i : Nat) :
    (columns.map (List.map f)).filterMap (·[i]?) = (columns.filterMap (·[i]?)).map f := by
  simp [List.filterMap_map, List.map_filterMap]

namespace Frame.IsPlain

open Html

variable {frame : Frame} (h : frame.IsPlain)

include h

theorem cells_eq : ∀ column ∈ frame.columns, column.cells = column.texts.map .text := by
  intro column hcolumn
  apply Column.cells_eq_texts
  intro cell hcell
  obtain ⟨text, htext, -⟩ := h.cells column hcolumn cell hcell
  exact ⟨text, htext⟩

theorem rows_eq : frame.rows = frame.textRows.map (List.map .text) := by
  have hcells : frame.columns.map Column.cells =
      (frame.columns.map Column.texts).map (List.map .text) := by
    rw [List.map_map]
    exact List.map_congr_left h.cells_eq
  rw [Frame.rows, textRows, contentRows, List.map_map]
  apply List.map_congr_left
  intro i _
  calc
    frame.row i = (frame.columns.map Column.cells).filterMap (·[i]?) := by
      rw [List.filterMap_map]
      rfl
    _ = ((frame.columns.map Column.texts).filterMap (·[i]?)).map .text := by
      rw [hcells, filterMap_getElem?_map]

theorem areTexts : ∀ texts ∈ frame.columns.map Column.texts,
    texts.length = frame.height ∧ ∀ text ∈ texts, PlainText text := by
  intro texts htexts
  obtain ⟨column, hcolumn, rfl⟩ := List.mem_map.mp htexts
  have hcells := h.cells_eq column hcolumn
  constructor
  · rw [← h.rectangular column hcolumn, hcells, List.length_map]
  · intro text htext
    have hcell : Value.text text ∈ column.cells := by
      rw [hcells]
      exact List.mem_map_of_mem htext
    obtain ⟨other, hother, hplain⟩ := h.cells column hcolumn _ hcell
    cases hother
    exact hplain

theorem areRows : ∀ row ∈ frame.textRows,
    row.length = frame.names.length ∧ ∀ text ∈ row, PlainText text := by
  intro row hrow
  obtain ⟨i, hi, rfl⟩ := List.mem_map.mp hrow
  have hi := List.mem_range.mp hi
  constructor
  · rw [Frame.names, List.length_map, ← List.length_map (f := Column.texts)]
    apply List.filterMap_length_eq_length.mpr
    intro texts htexts
    simp [(h.areTexts texts htexts).1, hi]
  · intro text htext
    obtain ⟨texts, htexts, hget⟩ := List.mem_filterMap.mp htext
    exact (h.areTexts texts htexts).2 text (List.mem_of_getElem? hget)

theorem table_eq (title : Text) :
    table frame title = .ok (tableMarkup title frame.names frame.textRows) := by
  have hcontents : frame.columns.mapM columnContents =
      .ok ((frame.columns.map Column.texts).map (List.map controlEscaped)) := by
    rw [List.map_map]
    apply mapM_ok
    intro column hcolumn
    have hcolumnTexts := columnContents_texts column.name column.storage column.texts
    rwa [← h.cells_eq column hcolumn] at hcolumnTexts
  have hrows : contentRows frame ((frame.columns.map Column.texts).map (List.map controlEscaped)) =
      frame.textRows.map (List.map controlEscaped) := by
    simp only [textRows, contentRows, filterMap_getElem?_map]
    exact (List.map_map ..).symm
  rw [table, hcontents, ok_bind, tableMarkup, ← hrows]
  rfl

theorem readTable?_table {title html : Text} (hhtml : table frame title = .ok html) :
    readTable? html = some ⟨title, frame.names, frame.textRows.flatten⟩ := by
  rw [h.table_eq] at hhtml
  cases hhtml
  apply readTable?_tableMarkup
  · intro name hname
    obtain ⟨column, hcolumn, rfl⟩ := List.mem_map.mp hname
    exact h.names column hcolumn
  · exact fun row hrow => (h.areRows row hrow).2

end Frame.IsPlain

theorem eq_of_flatten_eq {α : Type} {n : Nat} (hn : 0 < n) {rows rows' : List (List α)}
    (h : ∀ row ∈ rows, row.length = n) (h' : ∀ row ∈ rows', row.length = n)
    (hflatten : rows.flatten = rows'.flatten) : rows = rows' := by
  have hlengths : rows.map List.length = List.replicate rows.length n :=
    List.eq_replicate_iff.mpr ⟨List.length_map .., by simpa using h⟩
  have hlengths' : rows'.map List.length = List.replicate rows'.length n :=
    List.eq_replicate_iff.mpr ⟨List.length_map .., by simpa using h'⟩
  have hcount : rows.length = rows'.length := by
    have htotal := congrArg List.length hflatten
    rw [List.length_flatten, List.length_flatten, hlengths, hlengths', List.sum_replicate,
      List.sum_replicate, smul_eq_mul, smul_eq_mul] at htotal
    exact Nat.eq_of_mul_eq_mul_right hn htotal
  apply List.eq_iff_flatten_eq.mpr
  exact ⟨hflatten, by rw [hlengths, hlengths', hcount]⟩

open Html

/--
The markup of a frame of texts gives back its title, its names and its texts row by row, so that it
tells any two frames of texts apart that differ in their names or rows, and any two titles.
-/
theorem readTable?_of_isPlain {frame : Frame} (h : frame.IsPlain) (title : Text) :
    (∃ html cells, table frame title = .ok html ∧
      readTable? html = some ⟨title, frame.names, cells⟩ ∧
        frame.rows.flatten = cells.map .text) ∧
    ∀ other title', other.IsPlain → table other title' = table frame title →
      title' = title ∧ other.names = frame.names ∧ other.rows = frame.rows := by
  have hread := h.readTable?_table (h.table_eq title)
  refine ⟨⟨_, _, h.table_eq title, hread, ?_⟩, ?_⟩
  · rw [h.rows_eq, List.map_flatten]
  · intro other title' hother hsame
    have hreadOther := hother.readTable?_table (hsame.trans (h.table_eq title))
    rw [hread] at hreadOther
    injection hreadOther with hparts
    injection hparts with htitle hnames hcells
    have hcolumns : 0 < frame.names.length := by
      rw [Frame.names, List.length_map]
      exact List.length_pos_iff.mpr h.nonempty
    -- As many names are read as each row has texts, so the cells fall into the same rows.
    have hrows : frame.textRows = other.textRows := by
      refine eq_of_flatten_eq hcolumns (fun row hrow => (h.areRows row hrow).1) ?_ hcells
      intro row hrow
      rw [hnames]
      exact (hother.areRows row hrow).1
    exact ⟨htitle.symm, hnames.symm, by rw [h.rows_eq, hother.rows_eq, hrows]⟩

/-- A frame whose names and texts imitate tags and entities, with one text left open. -/
def imitation (text : Text) : Frame where
  columns := [
    ⟨"<th>".toList, .texts, [.text "</td><td>".toList, .text text]⟩,
    ⟨"&lt;th>".toList, .objects, [.text "a  b   c".toList, .text "\"&\"".toList]⟩]

theorem isPlain_imitation {text : Text} (h : PlainText text) : (imitation text).IsPlain where
  nonempty := List.cons_ne_nil _ _
  rectangular := by simp [imitation, Frame.IsRectangular, Frame.height]
  names := by
    simp only [imitation, List.mem_cons, List.not_mem_nil, or_false, forall_eq_or_imp, forall_eq]
    decide
  cells := by
    have htag : PlainText "</td><td>".toList := by decide
    have hspaces : PlainText "a  b   c".toList := by decide
    have hquotes : PlainText "\"&\"".toList := by decide
    simp only [imitation, List.mem_cons, List.not_mem_nil, or_false, forall_eq_or_imp, forall_eq]
    exact ⟨⟨⟨_, rfl, htag⟩, ⟨_, rfl, h⟩⟩, ⟨_, rfl, hspaces⟩, ⟨_, rfl, hquotes⟩⟩

/-- A space that does not break, as an entity and as the text of one. -/
theorem readTable?_of_isPlain_imitation :
    (imitation "&nbsp;".toList).IsPlain ∧ (imitation "&amp;nbsp;".toList).IsPlain ∧
    (∃ html, table (imitation "&nbsp;".toList) "</h3>".toList = .ok html ∧
      readTable? html = some ⟨"</h3>".toList, ["<th>".toList, "&lt;th>".toList],
        ["</td><td>".toList, "a  b   c".toList, "&nbsp;".toList, "\"&\"".toList]⟩) ∧
    table (imitation "&amp;nbsp;".toList) "</h3>".toList ≠
      table (imitation "&nbsp;".toList) "</h3>".toList := by
  have hentity : (imitation "&nbsp;".toList).IsPlain := isPlain_imitation (by decide)
  have hescaped : (imitation "&amp;nbsp;".toList).IsPlain := isPlain_imitation (by decide)
  obtain ⟨⟨html, cells, hhtml, hread, hcells⟩, hother⟩ :=
    readTable?_of_isPlain hentity "</h3>".toList
  refine ⟨hentity, hescaped, ⟨html, hhtml, hread.trans ?_⟩, ?_⟩
  · have hrows : (imitation "&nbsp;".toList).rows.flatten =
        ["</td><td>".toList, "a  b   c".toList, "&nbsp;".toList, "\"&\"".toList].map .text := rfl
    have htexts := List.map_injective_iff.mpr (fun _ _ => Value.text.inj) (hcells.symm.trans hrows)
    rw [htexts]
    rfl
  · intro hsame
    obtain ⟨-, -, hrows⟩ := hother _ _ hescaped hsame
    have htexts := congrArg (fun rows => rows.flatten.filterMap Value.text?) hrows
    exact absurd htexts (by decide +kernel)

end Scoreboard
