import Mathlib
import Scoreboard.Html.Escape

/-!
# Escaped texts

Both ways to escape a text leave characters that are no markup, and entities.  So does a table, where
a text is trimmed as it was before it was escaped, and its pairs of spaces make entities of their
own.  Reading the entities back gives the text again.
-/

namespace Scoreboard.Html

def entities : List Text :=
  ["&amp;".toList, "&lt;".toList, "&gt;".toList, "&quot;".toList, "&#x27;".toList, "&nbsp;".toList]

/-- Every ampersand begins an entity. -/
def References (html : Text) : Prop :=
  ∀ after, '&' :: after <:+ html → ∃ entity ∈ entities, entity <+: '&' :: after

/-- Characters that are no markup, and entities. -/
inductive Inert : Text → Prop
  | nil : Inert []
  | char (c : Char) {rest : Text} (hc : c ≠ '<' ∧ c ≠ '>' ∧ c ≠ '&') (hrest : Inert rest) :
      Inert (c :: rest)
  | entity {entity rest : Text} (hentity : entity ∈ entities) (hrest : Inert rest) :
      Inert (entity ++ rest)

namespace Inert

theorem append {s t : Text} (hs : Inert s) (ht : Inert t) : Inert (s ++ t) := by
  induction hs with
  | nil => exact ht
  | char c hc _ ih => exact .char c hc ih
  | entity hentity _ ih =>
      rw [List.append_assoc]
      exact .entity hentity ih

theorem flatMap {f : Char → Text} (h : ∀ c, Inert (f c)) (text : Text) :
    Inert (text.flatMap f) := by
  induction text with
  | nil => exact .nil
  | cons c text ih => exact (h c).append ih

theorem not_mem {text : Text} (h : Inert text) : '<' ∉ text ∧ '>' ∉ text := by
  induction h with
  | nil => simp
  | char c hc _ ih => simp [Ne.symm hc.1, Ne.symm hc.2.1, ih]
  | @entity entity _ hentity _ ih =>
      have hplain : ∀ entity ∈ entities, '<' ∉ entity ∧ '>' ∉ entity := by decide
      simp [hplain entity hentity, ih]

end Inert

theorem inert_of_mem {entity : Text} (h : entity ∈ entities) : Inert entity := by
  simpa using Inert.entity h .nil

/-! ## References -/

theorem references_of_not_mem {text : Text} (h : '&' ∉ text) : References text := by
  intro after hafter
  exact absurd (hafter.subset (by simp)) h

theorem References.append {s t : Text} (hs : References s) (ht : References t) :
    References (s ++ t) := by
  induction s with
  | nil => exact ht
  | cons c s ih =>
      intro after hafter
      rcases List.suffix_cons_iff.mp hafter with heq | hlater
      · obtain ⟨rfl, rfl⟩ := List.cons.inj heq
        obtain ⟨entity, hentity, hprefix⟩ := hs s List.suffix_rfl
        exact ⟨entity, hentity, hprefix.trans (List.prefix_append ('&' :: s) t)⟩
      · have hs : References s := fun rest hrest => hs rest (hrest.trans (List.suffix_cons c s))
        exact ih hs after hlater

theorem references_flatMap {α : Type} {items : List α} {f : α → Text}
    (h : ∀ item ∈ items, References (f item)) : References (items.flatMap f) := by
  induction items with
  | nil => exact references_of_not_mem (by simp)
  | cons item items ih =>
      rw [List.flatMap_cons]
      exact (h item (by simp)).append (ih fun other hother => h other (by simp [hother]))

theorem references_entity {entity : Text} (h : entity ∈ entities) : References entity := by
  have hplain : ∀ entity ∈ entities, '&' ∉ entity.tail ∧ entity.head? = some '&' := by decide
  obtain ⟨htail, hhead⟩ := hplain entity h
  intro after hafter
  obtain ⟨rest, rfl⟩ := List.head?_eq_some_iff.mp hhead
  rcases List.suffix_cons_iff.mp hafter with heq | hlater
  · exact ⟨_, h, by rw [heq]⟩
  · exact absurd (hlater.subset (by simp)) htail

theorem Inert.references {text : Text} (h : Inert text) : References text := by
  induction h with
  | nil => exact references_of_not_mem (by simp)
  | @char c rest hc _ ih =>
      have hc : '&' ∉ [c] := by simp [Ne.symm hc.2.2]
      exact (references_of_not_mem hc).append ih
  | entity hentity _ ih => exact (references_entity hentity).append ih

/-! ## Escaped characters -/

theorem escapedChar_cases (c : Char) :
    escapedChar c = [c] ∨ escapedChar c ∈ entities ∧ isBlank c = false := by
  unfold escapedChar
  split
  · next h => exact .inr ⟨by decide, by rw [h]; decide⟩
  split
  · next h => exact .inr ⟨by decide, by rw [h]; decide⟩
  split
  · next h => exact .inr ⟨by decide, by rw [h]; decide⟩
  · exact .inl rfl

theorem entity_edges {entity : Text} (h : entity ∈ entities) :
    entity ≠ [] ∧ ' ' ∉ entity ∧ (∀ c ∈ entity.head?, isBlank c = false) ∧
      ∀ c ∈ entity.getLast?, isBlank c = false := by
  have hedges : ∀ entity ∈ entities, entity ≠ [] ∧ ' ' ∉ entity ∧
      entity.head?.all (!isBlank ·) ∧ entity.getLast?.all (!isBlank ·) := by
    decide
  obtain ⟨hne, hspace, hhead, hlast⟩ := hedges entity h
  exact ⟨hne, hspace, by simpa [Option.all_eq_true] using hhead,
    by simpa [Option.all_eq_true] using hlast⟩

theorem inert_escapedChar (c : Char) : Inert (escapedChar c) := by
  unfold escapedChar
  split
  · exact inert_of_mem (by decide)
  split
  · exact inert_of_mem (by decide)
  split
  · exact inert_of_mem (by decide)
  · exact .char c (by tauto) .nil

theorem inert_quoteEscaped (text : Text) : Inert (quoteEscaped text) := by
  apply Inert.flatMap
  intro c
  unfold quoteEscapedChar
  split
  · exact inert_of_mem (by decide)
  split
  · exact inert_of_mem (by decide)
  · exact inert_escapedChar c

/-! ## Texts in a table -/

/-- A text in a table once it is trimmed, escaped and with its pairs of spaces kept apart. -/
def written : Text → Text
  | ' ' :: ' ' :: rest => nonBreakingSpace ++ nonBreakingSpace ++ written rest
  | c :: rest => escapedChar c ++ written rest
  | [] => []

theorem nonBreaking_append {s : Text} (h : ' ' ∉ s) (t : Text) :
    nonBreaking (s ++ t) = s ++ nonBreaking t := by
  induction s with
  | nil => rfl
  | cons c s ih =>
      obtain ⟨hc, hs⟩ := List.ne_and_not_mem_of_not_mem_cons h
      rw [List.cons_append, nonBreaking, ih hs]
      · rfl
      · rintro rest rfl
        exact absurd rfl hc

theorem head?_escaped_of_space {text : Text} (h : (escaped text).head? = some ' ') :
    text.head? = some ' ' := by
  cases text with
  | nil => cases h
  | cons c text =>
      rcases escapedChar_cases c with hc | ⟨hc, -⟩
      · rw [escaped, List.flatMap_cons, hc] at h
        exact h
      · obtain ⟨hne, hspace, -⟩ := entity_edges hc
        rw [escaped, List.flatMap_cons, List.head?_append_of_ne_nil _ hne] at h
        exact absurd (List.mem_of_mem_head? h) hspace

theorem nonBreaking_escaped (text : Text) : nonBreaking (escaped text) = written text := by
  induction text using written.induct with
  | case1 rest ih =>
      have hspaces : escaped (' ' :: ' ' :: rest) = ' ' :: ' ' :: escaped rest := rfl
      rw [hspaces, nonBreaking, written, ih]
  | case2 c rest hpair ih =>
      rw [written.eq_2 c rest hpair, ← ih]
      rcases escapedChar_cases c with hc | ⟨hc, -⟩
      · have hcons : escaped (c :: rest) = c :: escaped rest := by
          rw [escaped, List.flatMap_cons, hc]
          rfl
        rw [hcons, hc, nonBreaking]
        · rfl
        · rintro tail rfl htail
          have hhead := head?_escaped_of_space (by rw [htail]; rfl)
          obtain ⟨later, hlater⟩ := List.head?_eq_some_iff.mp hhead
          exact hpair later rfl hlater
      · exact nonBreaking_append (entity_edges hc).2.1 _
  | case3 => rfl

private theorem dropWhile_flatMap {blank : Char → Bool} {f : Char → Text}
    (hblank : ∀ c, blank c = true → f c = [c])
    (hkept : ∀ c, blank c = false → f c ≠ [] ∧ ∀ d ∈ (f c).head?, blank d = false)
    (text : Text) : (text.flatMap f).dropWhile blank = (text.dropWhile blank).flatMap f := by
  induction text with
  | nil => rfl
  | cons c text ih =>
      cases hc : blank c with
      | true => simp [hblank c hc, hc, ih]
      | false =>
          obtain ⟨hne, hhead⟩ := hkept c hc
          obtain ⟨d, rest, hd⟩ := List.exists_cons_of_ne_nil hne
          simp [hd, hc, hhead d (by simp [hd])]

/-- Blanks are not escaped, and nothing that is escaped begins or ends with one. -/
theorem trimmed_escaped (text : Text) : (escaped text).trimmed = escaped text.trimmed := by
  have hblank (c : Char) (hc : isBlank c = true) : escapedChar c = [c] := by
    rcases escapedChar_cases c with hplain | ⟨-, hkept⟩
    · exact hplain
    · rw [hc] at hkept
      cases hkept
  have hkept (c : Char) (hc : isBlank c = false) : escapedChar c ≠ [] ∧
      (∀ d ∈ (escapedChar c).head?, isBlank d = false) ∧
        ∀ d ∈ (escapedChar c).getLast?, isBlank d = false := by
    rcases escapedChar_cases c with hplain | ⟨hentity, -⟩
    · simp [hplain, hc]
    · obtain ⟨hne, -, hhead, hlast⟩ := entity_edges hentity
      exact ⟨hne, hhead, hlast⟩
  have hfront := @dropWhile_flatMap isBlank escapedChar hblank fun c hc =>
    ⟨(hkept c hc).1, (hkept c hc).2.1⟩
  have hback := @dropWhile_flatMap isBlank (List.reverse ∘ escapedChar)
    (fun c hc => by simp [hblank c hc])
    fun c hc => ⟨by simpa using (hkept c hc).1, by simpa using (hkept c hc).2.2⟩
  have htwice : List.reverse ∘ List.reverse ∘ escapedChar = escapedChar := by
    funext c
    exact List.reverse_reverse _
  simp only [Text.trimmed, Text.stripped, escaped, hfront, List.reverse_flatMap, hback, htwice]

theorem tableText_eq (text : Text) : tableText text = written text.trimmed := by
  rw [tableText, trimmed_escaped, nonBreaking_escaped]

theorem inert_nonBreakingSpace : Inert nonBreakingSpace := inert_of_mem (by decide)

theorem inert_written (text : Text) : Inert (written text) := by
  induction text using written.induct with
  | case1 rest ih =>
      rw [written]
      exact (inert_nonBreakingSpace.append inert_nonBreakingSpace).append ih
  | case2 c rest hpair ih =>
      rw [written]
      · exact (inert_escapedChar c).append ih
      · exact hpair
  | case3 => exact .nil

theorem inert_tableText (text : Text) : Inert (tableText text) := by
  rw [tableText_eq]
  exact inert_written _

/-! ## Reading entities back -/

abbrev EntityTable := List (Text × Char)

/-- The entities in a table, where a space that does not break counts as a space. -/
def cellEntities : EntityTable :=
  [(nonBreakingSpace, ' '), ("&lt;".toList, '<'), ("&gt;".toList, '>'), ("&amp;".toList, '&')]

def titleEntities : EntityTable :=
  [("&lt;".toList, '<'), ("&gt;".toList, '>'), ("&amp;".toList, '&'), ("&quot;".toList, '"'),
    ("&#x27;".toList, '\'')]

/-- The text behind as many characters of an entity that was read before. -/
def unescapedFrom (table : EntityTable) : Nat → Text → Text
  | _, [] => []
  | skipped + 1, _ :: rest => unescapedFrom table skipped rest
  | 0, c :: rest =>
      match table.find? fun entry => entry.1.isPrefixOf (c :: rest) with
      | some entry => entry.2 :: unescapedFrom table (entry.1.length - 1) rest
      | none => c :: unescapedFrom table 0 rest

def unescaped (table : EntityTable) (html : Text) : Text := unescapedFrom table 0 html

theorem unescaped_char {table : EntityTable}
    (htable : ∀ entry ∈ table, entry.1.head? = some '&') {c : Char} (hc : c ≠ '&') (rest : Text) :
    unescaped table (c :: rest) = c :: unescaped table rest := by
  have hnone : (table.find? fun entry => entry.1.isPrefixOf (c :: rest)) = none := by
    rw [List.find?_eq_none]
    intro entry hentry
    obtain ⟨tail, htail⟩ := List.head?_eq_some_iff.mp (htable entry hentry)
    simp [htail, List.isPrefixOf, Ne.symm hc]
  rw [unescaped, unescapedFrom, hnone]
  rfl

theorem unescaped_escapedChar {table : EntityTable}
    (htable : ∀ entry ∈ table, entry.1.head? = some '&')
    (hlt : ∀ rest, unescaped table ("&lt;".toList ++ rest) = '<' :: unescaped table rest)
    (hgt : ∀ rest, unescaped table ("&gt;".toList ++ rest) = '>' :: unescaped table rest)
    (hamp : ∀ rest, unescaped table ("&amp;".toList ++ rest) = '&' :: unescaped table rest)
    (c : Char) (rest : Text) :
    unescaped table (escapedChar c ++ rest) = c :: unescaped table rest := by
  unfold escapedChar
  split
  · next h => rw [hamp, h]
  split
  · next h => rw [hlt, h]
  split
  · next h => rw [hgt, h]
  · next h _ _ => exact unescaped_char htable h rest

theorem unescaped_written (text : Text) : unescaped cellEntities (written text) = text := by
  induction text using written.induct with
  | case1 rest ih =>
      have hspace (later : Text) : unescaped cellEntities (nonBreakingSpace ++ later) =
          ' ' :: unescaped cellEntities later := rfl
      rw [written, List.append_assoc, hspace, hspace, ih]
  | case2 c rest hpair ih =>
      rw [written.eq_2 c rest hpair, unescaped_escapedChar (by decide) (fun _ => rfl) (fun _ => rfl)
        (fun _ => rfl), ih]
  | case3 => rfl

theorem unescaped_tableText {text : Text} (h : text.trimmed = text) :
    unescaped cellEntities (tableText text) = text := by
  rw [tableText_eq, h, unescaped_written]

theorem unescaped_quoteEscaped (text : Text) :
    unescaped titleEntities (quoteEscaped text) = text := by
  induction text with
  | nil => rfl
  | cons c text ih =>
      have hc (rest : Text) : unescaped titleEntities (quoteEscapedChar c ++ rest) =
          c :: unescaped titleEntities rest := by
        unfold quoteEscapedChar
        split
        · next h =>
            rw [h]
            rfl
        split
        · next h =>
            rw [h]
            rfl
        · exact unescaped_escapedChar (by decide) (fun _ => rfl) (fun _ => rfl) (fun _ => rfl) c rest
      rw [quoteEscaped, List.flatMap_cons, hc]
      exact congrArg _ ih

end Scoreboard.Html
