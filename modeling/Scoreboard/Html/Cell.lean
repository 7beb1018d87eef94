import Scoreboard.Display.Fixed
import Scoreboard.Html.Escape

/-!
# Contents of cells

The text of a value in a cell of a table. Sequences and mappings are written out to a depth and to a
length: below the depth a value has its plain text, and behind the length stands an ellipsis. What is
inside a mapping is shown as it is, with texts in quotes. Outside, texts have their tabs and line ends
escaped, and floating-point numbers have a fixed count of decimals and no exponent.
-/

namespace Scoreboard.Html

/-! ## Numbers -/

/-- Decimals of a floating-point number in a table. -/
def tableDecimals : Nat := 6

/-- The text of `scaled / 10 ^ tableDecimals`, with one decimal at least. -/
def scaledText (scaled : Nat) : Text :=
  let digits := Display.padded tableDecimals (.ofNat (scaled % 10 ^ tableDecimals))
  let decimals := Binary64.withoutTrailingZeros digits
  Text.ofNat (scaled / 10 ^ tableDecimals) ++ '.' :: if decimals = [] then ['0'] else decimals

/-- A floating-point number, rounded to the decimals, without the zeros at the end. -/
def realText : Binary64 → Text
  | .finite negative magnitude =>
      Binary64.signText negative ++
        scaledText (roundHalfEven (magnitude.units * 10 ^ tableDecimals) unitsPerOne)
  | x => x.text

/-! ## Sequences and mappings -/

/-- How many levels of sequences and mappings are written out. -/
def nestingLimit : Nat := 3

/-- How many items of a sequence or entries of a mapping are written. -/
def lengthLimit : Nat := 100

def ellipsis : Text := "...".toList

/-- The text of a value that is not written out, inside a mapping. -/
def innerText : Value → Except Fault Text
  | .text content => .ok ('\'' :: content ++ ['\''])
  | value => value.plainText

/-- The text of a value that is not written out, outside all mappings. -/
def outerText : Value → Except Fault Text
  | .text content => .ok (controlEscaped content)
  | .float x | .scalar (.double x) | .scalar (.single x) => .ok (realText x)
  | value => value.plainText

mutual

/-- The text of a value, inside a mapping or not, with so many levels left to write out. -/
def nestedText (inside : Bool) : Nat → Value → Except Fault Text
  | levels + 1, .sequence kind items => do
      return kind.enclosed (← itemTexts inside levels lengthLimit items)
  | levels + 1, .mapping entries => do
      return '\x7b' :: commaSeparated (← entryTexts levels lengthLimit entries) ++ ['\x7d']
  | _, value => if inside then innerText value else outerText value

def itemTexts (inside : Bool) (levels : Nat) : Nat → List Value → Except Fault (List Text)
  | _, [] => .ok []
  | 0, _ :: _ => .ok [ellipsis]
  | room + 1, item :: rest => do
      return (← nestedText inside levels item) :: (← itemTexts inside levels room rest)

/-- The texts of entries, as many as may be written, a colon between key and value. -/
def entryTexts (levels : Nat) : Nat → List (Value × Value) → Except Fault (List Text)
  | _, [] => .ok []
  | 0, _ :: _ => .ok [ellipsis]
  | room + 1, (key, value) :: rest => do
      let entry := (← nestedText true levels key) ++ ':' :: ' ' :: (← nestedText true levels value)
      return entry :: (← entryTexts levels room rest)

end

/-! ## Cells -/

/-- The text of a cell before markup is escaped; numbers that are missing have one text. -/
def cellContent (cell : Value) : Except Fault Text :=
  match cell with
  | .missing marker => .ok marker.text
  | cell => if cell.isMissing then .ok "NaN".toList else nestedText false nestingLimit cell

end Scoreboard.Html
