import Scoreboard.Text.Basic

/-!
# Blank characters

The characters that count as white space: the Unicode class with the bidirectional types of white
space and separators, and the six of them that byte strings know.
-/

namespace Scoreboard

/-- Tab, line feed, vertical tab, form feed, carriage return and space. -/
def isAsciiBlank (c : Char) : Bool :=
  (0x09 ≤ c.toNat && c.toNat ≤ 0x0D) || c.toNat == 0x20

/-- Unicode white space, with the four information separators. -/
def isBlank (c : Char) : Bool :=
  isAsciiBlank c || (0x1C ≤ c.toNat && c.toNat ≤ 0x1F) || (0x2000 ≤ c.toNat && c.toNat ≤ 0x200A) ||
    [0x85, 0xA0, 0x1680, 0x2028, 0x2029, 0x202F, 0x205F, 0x3000].contains c.toNat

/-- White space around a numeral: that of ASCII, and all beyond ASCII. -/
def isNumeralBlank (c : Char) : Bool := isAsciiBlank c || (0x80 ≤ c.toNat && isBlank c)

theorem isBlank_of_isAsciiBlank {c : Char} (h : isAsciiBlank c = true) : isBlank c = true := by
  simp [isBlank, h]

namespace Text

def trimmed (text : Text) : Text := text.stripped isBlank

end Text

end Scoreboard
