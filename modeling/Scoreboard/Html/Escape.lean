import Scoreboard.Text.Blank

/-!
# Text in markup

Characters that markup would take for its own are written as entities. A cell also loses the white space
around it, and pairs of spaces in it become spaces that do not break.
-/

namespace Scoreboard.Html

def escapedChar (c : Char) : Text :=
  if c = '&' then "&amp;".toList
  else if c = '<' then "&lt;".toList
  else if c = '>' then "&gt;".toList
  else [c]

/-- Text between tags. -/
def escaped (text : Text) : Text := text.flatMap escapedChar

def quoteEscapedChar (c : Char) : Text :=
  if c = '"' then "&quot;".toList
  else if c = '\'' then "&#x27;".toList
  else escapedChar c

/-- Text that could stand between tags and between quotes. -/
def quoteEscaped (text : Text) : Text := text.flatMap quoteEscapedChar

def nonBreakingSpace : Text := "&nbsp;".toList

/-- Each pair of spaces, from the left, as two spaces that do not break. -/
def nonBreaking : Text → Text
  | ' ' :: ' ' :: rest => nonBreakingSpace ++ nonBreakingSpace ++ nonBreaking rest
  | c :: rest => c :: nonBreaking rest
  | [] => []

def controlEscapedChar (c : Char) : Text :=
  if c = '\t' then ['\\', 't']
  else if c = '\r' then ['\\', 'r']
  else if c = '\n' then ['\\', 'n']
  else [c]

def controlEscaped (text : Text) : Text := text.flatMap controlEscapedChar

/-- A name or the content of a cell in a table. -/
def tableText (text : Text) : Text := nonBreaking (escaped text).trimmed

end Scoreboard.Html
