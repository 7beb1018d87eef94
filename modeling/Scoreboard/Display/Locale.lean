import Scoreboard.Text.Basic

/-!
# Locales

A locale says what stands between groups of three digits and what stands before the decimals. The
display uses the invariant one, whatever the machine it runs on is set to.
-/

namespace Scoreboard

/-- A convention may be left out; it is missed only by a number that is written with it. -/
structure Conventions where
  decimalPoint : Option Text
  thousandsSeparator : Option Text
  deriving DecidableEq, Repr

/-- Locales by name; the first entry of a name counts. -/
abbrev Locales := List (Text × Conventions)

namespace Locales

def invariantName : Text := ['C']

def known : Locales := [(invariantName, ⟨some ['.'], some [',']⟩)]

/-- The locales with others put before them. -/
def extended (locales added : Locales) : Locales := added ++ locales

def find? (locales : Locales) (name : Text) : Option Conventions := locales.lookup name

end Locales

end Scoreboard
