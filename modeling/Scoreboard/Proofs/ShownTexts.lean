import Mathlib
import Scoreboard.Proofs.FixedTexts
import Scoreboard.Proofs.ReadBack
import Scoreboard.Proofs.Rereading
import Scoreboard.Proofs.TableCells

/-!
# Texts of shown values

A value that is shown is the placeholder if there is nothing to show, and otherwise a number in
groups or a word, which the placeholder is not.  In a cell of a table such a text is written as it
is: it has no markup to escape, no blanks around it, and no two spaces in a row.
-/

namespace Scoreboard

open scoped Computability

/-! ## Shapes of shown values -/

namespace Shape

/-- `nan|inf|-inf` -/
def word : Language Char := {"nan".toList, "inf".toList, "-inf".toList}

/-- `[0-9]{1,3}(,[0-9]{3})*` -/
def grouped : Language Char := (digit + digit ^ 2 + digit ^ 3) * group∗

/-- A word, or `-?[0-9]{1,3}(,[0-9]{3})*`. -/
def integer : Language Char := word + sign * grouped

/-- A word, or `-?[0-9]{1,3}(,[0-9]{3})*[.][0-9]`, and a percent sign behind it. -/
def percent : Language Char := (word + sign * grouped * {['.']} * digit) * {Display.percentSuffix}

theorem digit_mul_eq : digit * (1 + digit + digit ^ 2) = digit + digit ^ 2 + digit ^ 3 := by
  rw [mul_add, mul_add, mul_one, ← pow_two, ← pow_succ']

theorem whole_le_grouped : whole ≤ grouped := by
  have hleading : leadingDigit ≤ digit := by
    rintro text ⟨c, hc, -, rfl⟩
    exact ⟨c, hc, rfl⟩
  have hzero : ({['0']} : Language Char) ≤ digit := by
    rintro text rfl
    exact ⟨'0', rfl, rfl⟩
  unfold whole grouped
  refine add_le ?_ ?_
  · calc
      ({['0']} : Language Char) ≤ digit := hzero
      _ ≤ digit + digit ^ 2 + digit ^ 3 := le_self_add.trans le_self_add
      _ = (digit + digit ^ 2 + digit ^ 3) * 1 := (mul_one _).symm
      _ ≤ (digit + digit ^ 2 + digit ^ 3) * group∗ := by
        gcongr
        exact one_le_kstar
  · rw [← digit_mul_eq]
    gcongr

theorem fixed_le_integer : fixed Display.integerDecimals ≤ integer := by
  have : fixed Display.integerDecimals = sign * whole := mul_one _
  rw [this]
  refine le_add_left ?_
  gcongr
  exact whole_le_grouped

theorem fixed_le_percent : fixed Display.percentDecimals ≤ sign * grouped * {['.']} * digit := by
  have : fixed Display.percentDecimals = sign * whole * ({['.']} * digit ^ 1) := rfl
  rw [this, pow_one, ← mul_assoc]
  gcongr
  exact whole_le_grouped

theorem exists_digit_of_mem_grouped {text : Text} (h : text ∈ grouped) :
    ∃ c ∈ text, c.isDigit = true := by
  rw [grouped, ← digit_mul_eq, mul_assoc] at h
  obtain ⟨_, ⟨c, hc, rfl⟩, rest, -, rfl⟩ := Language.mem_mul.mp h
  exact ⟨c, by simp, hc⟩

end Shape

namespace Display

theorem placeholder_not_mem_integer : placeholder ∉ Shape.integer := by
  rintro ((hnan | hinf | hneg) | hnumber)
  · exact absurd hnan (by decide)
  · exact absurd hinf (by decide)
  · exact absurd (Set.mem_singleton_iff.mp hneg) (by decide)
  · obtain ⟨sign, -, digits, hdigits, heq⟩ := Language.mem_mul.mp hnumber
    obtain ⟨c, hc, hdigit⟩ := Shape.exists_digit_of_mem_grouped hdigits
    have hmem : c ∈ placeholder := heq ▸ List.mem_append_right sign hc
    rw [List.mem_singleton.mp hmem] at hdigit
    cases hdigit

theorem placeholder_not_mem_percent : placeholder ∉ Shape.percent := by
  intro hmem
  obtain ⟨digits, -, _, rfl, heq⟩ := Language.mem_mul.mp hmem
  exact fixed_ne_placeholder digits heq

/-! ## Numbers that are shown -/

theorem eq_of_wordText {word text : Text} {decimals : Int} (h : wordText word decimals = .ok text) :
    text = word := by
  unfold wordText at h
  split at h
  · cases h
  · split at h
    · cases h
    · exact (Except.ok.inj h).symm

variable {x : Binary64} {decimals : Nat} {text : Text}

theorem mem_of_invariantFixed (h : invariantFixed x decimals = .ok text) :
    text ∈ Shape.word + Shape.fixed decimals := by
  cases x with
  | nan =>
      rw [invariantFixed_eq] at h
      rw [eq_of_wordText h]
      exact .inl (.inl rfl)
  | infinite negative =>
      rw [invariantFixed_eq] at h
      rw [eq_of_wordText h]
      cases negative
      · exact .inl (.inr (.inl rfl))
      · exact .inl (.inr (.inr rfl))
  | finite negative magnitude =>
      rw [eq_of_invariantFixed h]
      exact .inr (signed_mem_fixed negative _ decimals)

def shownChars : List Char := DecimalSpelling.literalChars ++ [',', 'n', 'a', 'i', 'f']

/-- Characters of numbers and of words, and one of them at least. -/
def IsShownNumber (text : Text) : Prop := text ≠ [] ∧ text ⊆ shownChars

theorem isShownNumber_of_invariantFixed (h : invariantFixed x decimals = .ok text) :
    IsShownNumber text := by
  cases x with
  | nan =>
      rw [invariantFixed_eq] at h
      rw [eq_of_wordText h]
      exact ⟨by decide, by decide⟩
  | infinite negative =>
      rw [invariantFixed_eq] at h
      rw [eq_of_wordText h]
      cases negative <;> exact ⟨by decide, by decide⟩
  | finite negative magnitude =>
      rw [eq_of_invariantFixed h]
      have hliteral := withoutCommas_fixed negative (scaledUnits magnitude.units decimals) decimals
      constructor
      · intro hnil
        rw [hnil] at hliteral
        exact DecimalSpelling.text_ne_nil hliteral.symm
      · intro c hc
        rw [shownChars, List.mem_append]
        rcases eq_comma_or_mem_withoutCommas hc with hcomma | hmem
        · exact .inr (by simp [hcomma])
        · rw [hliteral] at hmem
          exact .inl (DecimalSpelling.subset_literalChars hmem)

end Display

/-! ## Texts that a table leaves alone -/

namespace Html

open Display

theorem tableText_eq_self {text : Text} (hplain : PlainText text)
    (hescaped : ∀ c ∈ text, escapedChar c = [c]) (hspaces : nonBreaking text = text) :
    tableText (controlEscaped text) = text := by
  have htrimmed : text.trimmed = text := Text.stripped_eq_self hplain.first hplain.last
  rw [controlEscaped_plain hplain, tableText, trimmed_escaped, htrimmed, escaped,
    List.flatMap_congr hescaped, List.flatMap_singleton', hspaces]

theorem shownChars_plain {c : Char} (h : c ∈ shownChars) :
    isBlank c = false ∧ escapedChar c = [c] := by
  have hall : shownChars.all (fun c => isBlank c == false && escapedChar c == [c]) = true := by
    decide +kernel
  simpa using List.all_eq_true.mp hall c h

section Numbers

variable {text : Text} (h : IsShownNumber text)

include h

theorem shown_not_blank {c : Char} (hc : c ∈ text) : isBlank c = false :=
  (shownChars_plain (h.2 hc)).1

theorem shown_not_control {c : Char} (hc : c ∈ text) : c ≠ '\t' ∧ c ≠ '\r' ∧ c ≠ '\n' := by
  refine ⟨?_, ?_, ?_⟩ <;> rintro rfl <;> exact absurd (shown_not_blank h hc) (by decide)

theorem shown_no_space : ' ' ∉ text := fun hspace =>
  absurd (shown_not_blank h hspace) (by decide)

theorem tableText_number : tableText (controlEscaped text) = text := by
  apply tableText_eq_self
  · constructor
    · exact fun c hc => shown_not_control h hc
    · exact fun c hc => shown_not_blank h (List.mem_of_mem_head? hc)
    · exact fun c hc => shown_not_blank h (List.mem_of_mem_getLast? hc)
  · exact fun c hc => (shownChars_plain (h.2 hc)).2
  · simpa [nonBreaking] using nonBreaking_append (shown_no_space h) []

/-- The one space of a percentage stands before its sign, so that it is neither paired nor last. -/
theorem tableText_percentage :
    tableText (controlEscaped (text ++ percentSuffix)) = text ++ percentSuffix := by
  have hsuffix : ∀ c ∈ percentSuffix, (c ≠ '\t' ∧ c ≠ '\r' ∧ c ≠ '\n') ∧ escapedChar c = [c] := by
    simp [percentSuffix, escapedChar]
  apply tableText_eq_self
  · constructor
    · intro c hc
      rcases List.mem_append.mp hc with hnumber | hlast
      · exact shown_not_control h hnumber
      · exact (hsuffix c hlast).1
    · intro c hc
      rw [List.head?_append_of_ne_nil _ h.1] at hc
      exact shown_not_blank h (List.mem_of_mem_head? hc)
    · intro c hc
      have hpercent : c = '%' := by simpa [percentSuffix] using hc.symm
      rw [hpercent]
      decide
  · intro c hc
    rcases List.mem_append.mp hc with hnumber | hlast
    · exact (shownChars_plain (h.2 hnumber)).2
    · exact (hsuffix c hlast).2
  · exact nonBreaking_append (shown_no_space h) percentSuffix

end Numbers

/-- Tables have the text between the tags of its cell as it is, in whatever frame the cell is. -/
def Verbatim (shown : Text) : Prop :=
  ∀ (frame : Frame) (title html : Text) (i j : Nat), table frame title = .ok html →
    frame.IsRectangular → frame.cell? i j = some (.text shown) →
      (elementTexts cellElement (tokens html))[i * frame.columns.length + j]? = some shown ∧
        "<td>".toList ++ shown ++ "</td>".toList <:+: html

theorem verbatim_of_tableText {shown : Text} (h : tableText (controlEscaped shown) = shown) :
    Verbatim shown := by
  intro frame title html i j htable hframe hcell
  obtain ⟨content, hcontent, htext⟩ := exists_cellText htable hframe hcell
  rw [cellContent_text] at hcontent
  cases hcontent
  rwa [h] at htext

end Html

/-! ## Texts of values -/

namespace Display

variable {value : Value} {text : Text}

theorem verbatim_placeholder : Html.Verbatim placeholder :=
  Html.verbatim_of_tableText (Html.tableText_number ⟨by decide, by decide⟩)

theorem integer_shape (h : (integer value).outcome = .ok text) :
    (text = placeholder ↔ value.isAbsent = true) ∧ (text ≠ placeholder → text ∈ Shape.integer) ∧
      Html.Verbatim text := by
  cases habsent : value.isAbsent with
  | true =>
      have hplaceholder : (integer value).outcome = .ok placeholder := by simp [integer, habsent]
      obtain rfl : placeholder = text := Except.ok.inj (hplaceholder.symm.trans h)
      exact ⟨iff_of_true rfl rfl, fun hne => absurd rfl hne, verbatim_placeholder⟩
  | false =>
      rw [outcome_integer_of_present habsent] at h
      obtain ⟨x, -, hfixed⟩ := bind_eq_ok.mp h
      have hmem : text ∈ Shape.integer := (mem_of_invariantFixed hfixed).elim .inl
        fun hnumber => Shape.fixed_le_integer hnumber
      have hne : text ≠ placeholder := fun heq => placeholder_not_mem_integer (heq ▸ hmem)
      have hnumber := isShownNumber_of_invariantFixed hfixed
      exact ⟨iff_of_false hne Bool.false_ne_true, fun _ => hmem,
        Html.verbatim_of_tableText (Html.tableText_number hnumber)⟩

theorem percent_shape (h : (percent value).outcome = .ok text) :
    (text = placeholder ↔ value.isFalsy.outcome = .ok true) ∧
      (text ≠ placeholder → text ∈ Shape.percent) ∧ Html.Verbatim text := by
  obtain ⟨falsy, hfalsy, -⟩ := value.exists_isFalsy
  rw [outcome_percent_of_isFalsy hfalsy] at h
  rw [hfalsy]
  cases falsy with
  | true =>
      cases h
      exact ⟨iff_of_true rfl rfl, fun hne => absurd rfl hne, verbatim_placeholder⟩
  | false =>
      obtain ⟨x, -, hshown⟩ := bind_eq_ok.mp h
      obtain ⟨number, hfixed, rfl⟩ := map_eq_ok.mp hshown
      have hnumber := isShownNumber_of_invariantFixed hfixed
      have hmem : number ++ percentSuffix ∈ Shape.percent :=
        Language.append_mem_mul ((mem_of_invariantFixed hfixed).elim .inl
          fun hdecimal => .inr (Shape.fixed_le_percent hdecimal)) rfl
      have hne : number ++ percentSuffix ≠ placeholder :=
        fun heq => placeholder_not_mem_percent (heq ▸ hmem)
      exact ⟨iff_of_false hne nofun, fun _ => hmem,
        Html.verbatim_of_tableText (Html.tableText_percentage hnumber)⟩

/-- What is shown for a value has the shape of its kind, and a table leaves it as it is. -/
theorem shown_texts (value : Value) :
    (∀ text, (integer value).outcome = .ok text →
      (text = placeholder ↔ value.isAbsent = true) ∧ (text ≠ placeholder → text ∈ Shape.integer) ∧
        Html.Verbatim text) ∧
    (∀ text, (percent value).outcome = .ok text →
      (text = placeholder ↔ value.isFalsy.outcome = .ok true) ∧
        (text ≠ placeholder → text ∈ Shape.percent) ∧ Html.Verbatim text) :=
  ⟨fun _ => integer_shape, fun _ => percent_shape⟩

/-- Minus a quarter is shown as a zero with a sign, which is not the placeholder. -/
theorem shown_texts_of_quarter :
    (integer (.float (.ofRatio true 1 4))).outcome = .ok "-0".toList ∧
      "-0".toList ∈ Shape.integer ∧
    (percent (.float (.ofRatio true 1 4))).outcome = .ok "-25.0 %".toList ∧
      "-25.0 %".toList ∈ Shape.percent ∧
    ∃ html, Html.table ⟨[⟨shareName, .texts, [.text "-25.0 %".toList]⟩]⟩ [] = .ok html ∧
      "<td>".toList ++ "-25.0 %".toList ++ "</td>".toList <:+: html := by
  obtain ⟨hwhole, hshare⟩ := shown_texts (.float (.ofRatio true 1 4))
  have hzero : (integer (.float (.ofRatio true 1 4))).outcome = .ok "-0".toList := by
    decide +kernel
  have hquarter : (percent (.float (.ofRatio true 1 4))).outcome = .ok "-25.0 %".toList := by
    decide +kernel
  obtain ⟨-, hinteger, -⟩ := hwhole _ hzero
  obtain ⟨-, hpercent, hverbatim⟩ := hshare _ hquarter
  have htable :
      (Html.table ⟨[⟨shareName, .texts, [.text "-25.0 %".toList]⟩]⟩ []).isOk = true := by
    decide +kernel
  obtain ⟨html, hhtml⟩ := exists_eq_ok htable
  have hframe : Frame.IsRectangular ⟨[⟨shareName, .texts, [.text "-25.0 %".toList]⟩]⟩ := by
    simp [Frame.IsRectangular, Frame.height]
  obtain ⟨-, hinfix⟩ := hverbatim _ _ html 0 0 hhtml hframe rfl
  exact ⟨hzero, hinteger (by decide), hquarter, hpercent (by decide), html, hhtml, hinfix⟩

end Display

end Scoreboard
