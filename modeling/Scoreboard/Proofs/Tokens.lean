import Mathlib
import Scoreboard.Text.Basic

/-!
# Tags and characters

A text of markup is read from the left as tags, each of them a run from an angle to the next closing
one, and as the characters between them.  A closed text ends outside of tags, so that closed texts
are read one after the other.
-/

namespace Scoreboard.Html

inductive Token where
  | char (c : Char)
  | tag (run : Text)
  deriving DecidableEq, Repr

namespace Token

/-- The tokens of a text behind the start of a tag, last character first, or outside of tags. -/
def scan : Option Text → Text → List Token
  | none, [] => []
  | some run, [] => run.reverse.map char
  | none, c :: rest => if c = '<' then scan (some [c]) rest else char c :: scan none rest
  | some run, c :: rest =>
      if c = '>' then tag (c :: run).reverse :: scan none rest else scan (some (c :: run)) rest

def advance : Option Text → Char → Option Text
  | none, c => if c = '<' then some [c] else none
  | some run, c => if c = '>' then none else some (c :: run)

def tag? : Token → Option Text
  | tag run => some run
  | char _ => none

def char? : Token → Option Char
  | tag _ => none
  | char c => some c

theorem scan_append {start : Option Text} {text : Text} (h : text.foldl advance start = none)
    (rest : Text) : scan start (text ++ rest) = scan start text ++ scan none rest := by
  induction text generalizing start with
  | nil =>
      obtain rfl : start = none := h
      rfl
  | cons c text ih =>
      have h : text.foldl advance (advance start c) = none := h
      cases start with
      | none =>
          by_cases hc : c = '<'
          · have := ih (by simpa [advance, hc] using h)
            simp [scan, hc, this]
          · have := ih (by simpa [advance, hc] using h)
            simp [scan, hc, this]
      | some run =>
          by_cases hc : c = '>'
          · have := ih (by simpa [advance, hc] using h)
            simp [scan, hc, this]
          · have := ih (by simpa [advance, hc] using h)
            simp [scan, hc, this]

end Token

def tokens (html : Text) : List Token := Token.scan none html

/-- The tags of a text of markup in order. -/
def tags (html : Text) : List Text := (tokens html).filterMap Token.tag?

theorem mem_tags {run html : Text} : run ∈ tags html ↔ Token.tag run ∈ tokens html := by
  rw [tags, List.mem_filterMap]
  constructor
  · rintro ⟨token, htoken, hrun⟩
    cases token with
    | char c => cases hrun
    | tag other =>
        cases hrun
        exact htoken
  · exact fun h => ⟨_, h, rfl⟩

/-! ## Closed texts -/

/-- The text ends outside of tags. -/
def Closed (text : Text) : Prop := text.foldl Token.advance none = none

instance (text : Text) : Decidable (Closed text) :=
  inferInstanceAs (Decidable (text.foldl Token.advance none = none))

@[simp] theorem closed_nil : Closed [] := rfl

theorem Closed.append {s t : Text} (hs : Closed s) (ht : Closed t) : Closed (s ++ t) := by
  unfold Closed at *
  rw [List.foldl_append, hs, ht]

theorem closed_flatMap {α : Type} {items : List α} {f : α → Text}
    (h : ∀ item ∈ items, Closed (f item)) : Closed (items.flatMap f) := by
  induction items with
  | nil => exact closed_nil
  | cons item items ih =>
      rw [List.flatMap_cons]
      exact (h item (by simp)).append (ih fun other hother => h other (by simp [hother]))

theorem tokens_append {s : Text} (h : Closed s) (t : Text) :
    tokens (s ++ t) = tokens s ++ tokens t := Token.scan_append h t

theorem tokens_flatMap {α : Type} {items : List α} {f : α → Text}
    (h : ∀ item ∈ items, Closed (f item)) :
    tokens (items.flatMap f) = items.flatMap fun item => tokens (f item) := by
  induction items with
  | nil => rfl
  | cons item items ih =>
      rw [List.flatMap_cons, List.flatMap_cons, tokens_append (h item (by simp)),
        ih fun other hother => h other (by simp [hother])]

theorem tags_append {s : Text} (h : Closed s) (t : Text) : tags (s ++ t) = tags s ++ tags t := by
  rw [tags, tokens_append h, List.filterMap_append]
  rfl

theorem tags_flatMap {α : Type} {items : List α} {f : α → Text}
    (h : ∀ item ∈ items, Closed (f item)) :
    tags (items.flatMap f) = items.flatMap fun item => tags (f item) := by
  rw [tags, tokens_flatMap h, List.filterMap_flatMap]
  rfl

/-! ## Texts without tags -/

theorem closed_of_not_mem {text : Text} (h : '<' ∉ text) : Closed text := by
  induction text with
  | nil => exact closed_nil
  | cons c text ih =>
      obtain ⟨hc, htext⟩ := List.ne_and_not_mem_of_not_mem_cons h
      have hadvance : Token.advance none c = none := if_neg (Ne.symm hc)
      rw [Closed, List.foldl_cons, hadvance]
      exact ih htext

theorem tokens_of_not_mem {text : Text} (h : '<' ∉ text) : tokens text = text.map .char := by
  induction text with
  | nil => rfl
  | cons c text ih =>
      obtain ⟨hc, htext⟩ := List.ne_and_not_mem_of_not_mem_cons h
      rw [tokens, Token.scan, if_neg (Ne.symm hc), List.map_cons]
      exact congrArg _ (ih htext)

theorem tags_of_not_mem {text : Text} (h : '<' ∉ text) : tags text = [] := by
  rw [tags, tokens_of_not_mem h, List.filterMap_map, List.filterMap_eq_nil_iff]
  exact fun _ _ => rfl

/-! ## Lines -/

theorem joinLines_cons (first : Text) (lines : List Text) :
    Text.joinLines (first :: lines) = first ++ lines.flatMap fun line => '\n' :: line := by
  induction lines generalizing first with
  | nil => simp [Text.joinLines, List.intercalate]
  | cons line lines ih =>
      have hlater := ih line
      simp only [Text.joinLines, List.intercalate, List.intersperse_cons_cons, List.flatten_cons,
        List.flatMap_cons] at hlater ⊢
      rw [hlater]
      rfl

theorem closed_cons_lineFeed {line : Text} (h : Closed line) : Closed ('\n' :: line) := h

def lineTokens (lines : List Text) : List Token :=
  lines.flatMap fun line => .char '\n' :: tokens line

theorem tokens_joinLines {first : Text} {lines : List Text}
    (h : ∀ line ∈ first :: lines, Closed line) :
    tokens (Text.joinLines (first :: lines)) = tokens first ++ lineTokens lines := by
  rw [joinLines_cons, tokens_append (h first (by simp)),
    tokens_flatMap fun line hline => closed_cons_lineFeed (h line (by simp [hline]))]
  rfl

theorem closed_joinLines {lines : List Text} (h : ∀ line ∈ lines, Closed line) :
    Closed (Text.joinLines lines) := by
  cases lines with
  | nil => exact closed_nil
  | cons first lines =>
      rw [joinLines_cons]
      exact (h first (by simp)).append
        (closed_flatMap fun line hline => closed_cons_lineFeed (h line (by simp [hline])))

theorem tags_joinLines {lines : List Text} (h : ∀ line ∈ lines, Closed line) :
    tags (Text.joinLines lines) = lines.flatMap tags := by
  cases lines with
  | nil => rfl
  | cons first lines =>
      rw [joinLines_cons, tags_append (h first (by simp)),
        tags_flatMap fun line hline => closed_cons_lineFeed (h line (by simp [hline]))]
      rfl

/-! ## Elements -/

structure ElementTags where
  opening : Text
  closing : Text

namespace Token

/-- What stands inside of elements, behind an opening tag, last token first, or outside of them. -/
def inside (element : ElementTags) : Option (List Token) → List Token → List (List Token)
  | _, [] => []
  | none, token :: rest =>
      inside element (if token = tag element.opening then some [] else none) rest
  | some inner, token :: rest =>
      if token = tag element.closing then inner.reverse :: inside element none rest
      else inside element (some (token :: inner)) rest

end Token

/-- The contents of elements, each from an opening tag to the next closing one. -/
def elements (element : ElementTags) (html : List Token) : List (List Token) :=
  Token.inside element none html

/-- Tokens that leave no element open. -/
def Balanced (element : ElementTags) (html : List Token) : Prop :=
  ∀ rest, elements element (html ++ rest) = elements element html ++ elements element rest

section Elements

variable {element : ElementTags}

theorem elements_skip {before : List Token} (h : .tag element.opening ∉ before)
    (rest : List Token) : elements element (before ++ rest) = elements element rest := by
  induction before with
  | nil => rfl
  | cons token before ih =>
      obtain ⟨htoken, hbefore⟩ := List.ne_and_not_mem_of_not_mem_cons h
      rw [List.cons_append, elements, Token.inside, if_neg (Ne.symm htoken)]
      exact ih hbefore

theorem elements_of_not_mem {html : List Token} (h : .tag element.opening ∉ html) :
    elements element html = [] := by
  have := elements_skip h []
  rwa [List.append_nil] at this

theorem balanced_of_not_mem {html : List Token} (h : .tag element.opening ∉ html) :
    Balanced element html := by
  intro rest
  rw [elements_skip h, elements_of_not_mem h, List.nil_append]

private theorem inside_some {inner : List Token} (h : .tag element.closing ∉ inner)
    (known rest : List Token) :
    Token.inside element (some known) (inner ++ .tag element.closing :: rest) =
      (known.reverse ++ inner) :: elements element rest := by
  induction inner generalizing known with
  | nil => simp [Token.inside, elements]
  | cons token inner ih =>
      obtain ⟨htoken, hinner⟩ := List.ne_and_not_mem_of_not_mem_cons h
      rw [List.cons_append, Token.inside, if_neg (Ne.symm htoken), ih hinner]
      simp

theorem elements_cons {inner : List Token} (h : .tag element.closing ∉ inner)
    (rest : List Token) :
    elements element (.tag element.opening :: (inner ++ .tag element.closing :: rest)) =
      inner :: elements element rest := by
  rw [elements, Token.inside, if_pos rfl, inside_some h]
  rfl

theorem elements_single {before inner after : List Token}
    (hbefore : .tag element.opening ∉ before) (hinner : .tag element.closing ∉ inner)
    (hafter : .tag element.opening ∉ after) :
    elements element
        (before ++ .tag element.opening :: (inner ++ .tag element.closing :: after)) = [inner] := by
  rw [elements_skip hbefore, elements_cons hinner, elements_of_not_mem hafter]

theorem balanced_single {before inner after : List Token}
    (hbefore : .tag element.opening ∉ before) (hinner : .tag element.closing ∉ inner)
    (hafter : .tag element.opening ∉ after) :
    Balanced element
      (before ++ .tag element.opening :: (inner ++ .tag element.closing :: after)) := by
  intro rest
  rw [elements_single hbefore hinner hafter]
  simp only [List.append_assoc, List.cons_append]
  rw [elements_skip hbefore, elements_cons hinner, elements_skip hafter]
  rfl

theorem Balanced.append {s t : List Token} (hs : Balanced element s) (ht : Balanced element t) :
    Balanced element (s ++ t) := by
  intro rest
  rw [List.append_assoc, hs, ht, hs, List.append_assoc]

theorem balanced_flatMap {α : Type} {items : List α} {f : α → List Token}
    (h : ∀ item ∈ items, Balanced element (f item)) : Balanced element (items.flatMap f) := by
  induction items with
  | nil => exact balanced_of_not_mem List.not_mem_nil
  | cons item items ih =>
      rw [List.flatMap_cons]
      exact (h item (by simp)).append (ih fun other hother => h other (by simp [hother]))

theorem elements_flatMap {α : Type} {items : List α} {f : α → List Token}
    (h : ∀ item ∈ items, Balanced element (f item)) :
    elements element (items.flatMap f) = items.flatMap fun item => elements element (f item) := by
  induction items with
  | nil => rfl
  | cons item items ih =>
      rw [List.flatMap_cons, List.flatMap_cons, h item (by simp),
        ih fun other hother => h other (by simp [hother])]

theorem elements_char (c : Char) (html : List Token) :
    elements element (.char c :: html) = elements element html :=
  @elements_skip element [.char c] (by simp) html

theorem Balanced.char {html : List Token} (h : Balanced element html) (c : Char) :
    Balanced element (.char c :: html) :=
  (@balanced_of_not_mem element [.char c] (by simp)).append h

theorem balanced_lineTokens {lines : List Text}
    (h : ∀ line ∈ lines, Balanced element (tokens line)) : Balanced element (lineTokens lines) :=
  balanced_flatMap fun line hline => (h line hline).char '\n'

theorem elements_lineTokens {lines : List Text}
    (h : ∀ line ∈ lines, Balanced element (tokens line)) :
    elements element (lineTokens lines) =
      lines.flatMap fun line => elements element (tokens line) := by
  rw [lineTokens, elements_flatMap fun line hline => (h line hline).char '\n']
  simp only [elements_char]

theorem elements_joinLines {lines : List Text} (hclosed : ∀ line ∈ lines, Closed line)
    (h : ∀ line ∈ lines, Balanced element (tokens line)) :
    elements element (tokens (Text.joinLines lines)) =
      lines.flatMap fun line => elements element (tokens line) := by
  cases lines with
  | nil => rfl
  | cons first lines =>
      rw [tokens_joinLines hclosed, h first (by simp), List.flatMap_cons,
        elements_lineTokens fun line hline => h line (by simp [hline])]

theorem balanced_joinLines {lines : List Text} (hclosed : ∀ line ∈ lines, Closed line)
    (h : ∀ line ∈ lines, Balanced element (tokens line)) :
    Balanced element (tokens (Text.joinLines lines)) := by
  cases lines with
  | nil => exact balanced_of_not_mem List.not_mem_nil
  | cons first lines =>
      rw [tokens_joinLines hclosed]
      exact (h first (by simp)).append
        (balanced_lineTokens fun line hline => h line (by simp [hline]))

end Elements

end Scoreboard.Html
