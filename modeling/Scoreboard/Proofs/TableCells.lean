import Mathlib
import Scoreboard.Proofs.Pages

/-!
# Cells of tables

A table is written from the texts of its cells.  If all columns of the frame are of one length, the
elements of the table are its cells, row by row, and the text of each stands between its tags.
-/

namespace Scoreboard

/-- Every column has a cell in each row. -/
def Frame.IsRectangular (frame : Frame) : Prop :=
  ∀ column ∈ frame.columns, column.cells.length = frame.height

def Frame.cell? (frame : Frame) (i j : Nat) : Option Value :=
  frame.columns[j]?.bind fun column => column.cells[i]?

namespace Html

/-! ## Lines -/

theorem infix_joinLines {line : Text} {lines : List Text} (h : line ∈ lines) :
    line <:+: Text.joinLines lines := by
  cases lines with
  | nil => cases h
  | cons first lines =>
      rw [joinLines_cons]
      rcases List.mem_cons.mp h with rfl | hlater
      · exact (List.prefix_append _ _).isInfix
      · have hfeed : '\n' :: line ∈ lines.map fun line => '\n' :: line := List.mem_map_of_mem hlater
        rw [List.flatMap_def]
        exact ((List.suffix_cons '\n' line).isInfix.trans (List.infix_of_mem_flatten hfeed)).trans
          (List.suffix_append _ _).isInfix

theorem infix_cellLine (content : Text) :
    "<td>".toList ++ tableText content ++ "</td>".toList <:+: cellLine content := by
  have hindent : cellLine content =
      "      ".toList ++ ("<td>".toList ++ tableText content ++ "</td>".toList) := rfl
  rw [hindent]
  exact (List.suffix_append _ _).isInfix

theorem cellLine_mem {names : List Text} {rows : List (List Text)} {row : List Text}
    {content : Text} (hrow : row ∈ rows) (hcontent : content ∈ row) :
    cellLine content ∈ tableLines names rows := by
  have hline : cellLine content ∈ rows.flatMap rowLines :=
    List.mem_flatMap.mpr ⟨row, hrow, by simp [rowLines, List.mem_map_of_mem hcontent]⟩
  simp [tableLines, hline]

/-! ## Elements -/

theorem balanced_tableTokens (names : List Text) (rows : List (List Text)) :
    Balanced cellElement (tableTokens names rows) :=
  (balanced_lineTokens balanced_innerLines).append (balanced_of_not_mem (by simp))

theorem elementTexts_lines (title : Text) (names : List Text) (rows : List (List Text)) :
    elementTexts cellElement (tokens (heading title ++ Text.joinLines (tableLines names rows))) =
      rows.flatMap fun row => row.map tableText := by
  have hopening : Token.tag cellElement.opening ∉
      tokens (heading title) ++ [.tag tableElement.opening] := by
    rw [List.mem_append, ← mem_tags, tags_heading]
    decide
  have hclosing : elements cellElement [.tag tableElement.closing] = [] :=
    elements_of_not_mem (by decide)
  rw [← @elementTexts_cells names, elementTexts, tokens_append (closed_heading title),
    tokens_tableLines, List.append_cons, elements_skip hopening, balanced_tableTokens, hclosing,
    List.append_nil]
  rfl

/-! ## Rows -/

/-- The texts of the columns, cell by cell. -/
def AreContents (frame : Frame) (contents : List (List Text)) : Prop :=
  List.Forall₂ (fun column texts =>
    List.Forall₂ (fun cell text => cellContent cell = .ok text) column.cells texts)
    frame.columns contents

def contentRows (frame : Frame) (contents : List (List Text)) : List (List Text) :=
  (List.range frame.height).map fun i => contents.filterMap (·[i]?)

theorem table_eq_ok {frame : Frame} {title html : Text} (h : table frame title = .ok html) :
    ∃ contents, AreContents frame contents ∧
      html = heading title ++
        Text.joinLines (tableLines frame.names (contentRows frame contents)) := by
  obtain ⟨contents, hcontents, hhtml⟩ := bind_eq_ok.mp h
  refine ⟨contents, (mapM_eq_ok.mp hcontents).imp fun column texts htexts => ?_, ?_⟩
  · obtain ⟨-, -, hcells⟩ := bind_eq_ok.mp htexts
    exact mapM_eq_ok.mp hcells
  · exact (Except.ok.inj hhtml).symm

theorem getElem?_flatMap_of_length {α β : Type} {items : List α} {f : α → List β} {n j : Nat}
    (h : ∀ item ∈ items, (f item).length = n) (hj : j < n) (i : Nat) :
    (items.flatMap f)[i * n + j]? = items[i]?.bind fun item => (f item)[j]? := by
  induction items generalizing i with
  | nil => simp
  | cons item items ih =>
      have hitem := h item (by simp)
      rw [List.flatMap_cons]
      cases i with
      | zero => simp [List.getElem?_append_left (show j < (f item).length by omega)]
      | succ i =>
          have hindex : (i + 1) * n + j = (f item).length + (i * n + j) := by
            rw [hitem]
            ring
          rw [hindex, List.getElem?_append_right (by omega), Nat.add_sub_cancel_left,
            ih fun other hother => h other (by simp [hother])]
          rfl

section Rectangular

variable {frame : Frame} {contents : List (List Text)} (hframe : frame.IsRectangular)
  (hcontents : AreContents frame contents)

include hframe hcontents

theorem length_contents : ∀ texts ∈ contents, texts.length = frame.height := by
  intro texts htexts
  obtain ⟨column, hcolumn, hcells⟩ := exists_of_mem_right hcontents htexts
  rw [← hcells.length_eq, hframe column hcolumn]

theorem contentRow_eq {i : Nat} (hi : i < frame.height) :
    contents.filterMap (·[i]?) = contents.map (·.getD i []) := by
  apply List.filterMap_eq_map_iff_forall_eq_some.mpr
  intro texts htexts
  have hlength := length_contents hframe hcontents texts htexts
  simp [List.getElem?_eq_getElem (show i < texts.length by omega)]

theorem exists_content {i j : Nat} {cell : Value} (hcell : frame.cell? i j = some cell) :
    ∃ content row, cellContent cell = .ok content ∧
      (contentRows frame contents)[i]? = some row ∧ row[j]? = some content := by
  obtain ⟨column, hcolumn, hcell⟩ := Option.bind_eq_some_iff.mp hcell
  obtain ⟨texts, htexts, hcells⟩ := exists_getElem?_of_forall₂ hcontents hcolumn
  obtain ⟨content, hcontent, htext⟩ := exists_getElem?_of_forall₂ hcells hcell
  have hi : i < frame.height := by
    rw [← hframe column (List.mem_of_getElem? hcolumn)]
    exact (List.getElem?_eq_some_iff.mp hcell).1
  refine ⟨content, contents.map (·.getD i []), htext, ?_, ?_⟩
  · rw [contentRows, List.getElem?_map, List.getElem?_range hi, Option.map_some,
      contentRow_eq hframe hcontents hi]
  · simp [htexts, hcontent]

theorem length_contentRows :
    ∀ row ∈ contentRows frame contents, row.length = frame.columns.length := by
  intro row hrow
  obtain ⟨i, hi, rfl⟩ := List.mem_map.mp hrow
  rw [contentRow_eq hframe hcontents (List.mem_range.mp hi), List.length_map, hcontents.length_eq]

end Rectangular

/-- Every cell is an element of the table at its place, and stands between its tags. -/
theorem exists_cellText {frame : Frame} {title html : Text} (h : table frame title = .ok html)
    (hframe : frame.IsRectangular) {i j : Nat} {cell : Value}
    (hcell : frame.cell? i j = some cell) :
    ∃ content, cellContent cell = .ok content ∧
      (elementTexts cellElement (tokens html))[i * frame.columns.length + j]? =
        some (tableText content) ∧
      "<td>".toList ++ tableText content ++ "</td>".toList <:+: html := by
  obtain ⟨contents, hcontents, rfl⟩ := table_eq_ok h
  obtain ⟨content, row, hcontent, hrow, hj⟩ := exists_content hframe hcontents hcell
  have hlength := length_contentRows hframe hcontents
  have hcolumn : j < frame.columns.length := by
    rw [← hlength row (List.mem_of_getElem? hrow)]
    exact (List.getElem?_eq_some_iff.mp hj).1
  refine ⟨content, hcontent, ?_, ?_⟩
  · rw [elementTexts_lines, getElem?_flatMap_of_length _ hcolumn]
    · simp [hrow, hj]
    · intro other hother
      rw [List.length_map, hlength other hother]
  · have hline : cellLine content ∈ tableLines frame.names (contentRows frame contents) :=
      cellLine_mem (List.mem_of_getElem? hrow) (List.mem_of_getElem? hj)
    exact ((infix_cellLine content).trans (infix_joinLines hline)).trans
      (List.suffix_append _ _).isInfix

end Html

end Scoreboard
