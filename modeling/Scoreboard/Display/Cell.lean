import Scoreboard.Display.Fixed
import Scoreboard.Value.Number

/-!
# Displayed values

What the dashboard shows for a value: a whole number, or a percentage with one decimal. Absent values
show a placeholder; so does a percentage of nothing, but not a count of nothing.
-/

namespace Scoreboard.Display

def placeholder : Text := ['-']

def integerDecimals : Nat := 0

def percentDecimals : Nat := 1

def percentScale : Binary64 := .ofRatio false 100 1

def percentSuffix : Text := [' ', '%']

def integer (value : Value) : Traced Text := do
  if value.isAbsent then return placeholder
  let x ← value.toNumber
  invariantFixed x integerDecimals

def percent (value : Value) : Traced Text := do
  if ← value.isFalsy then return placeholder
  let x ← value.toNumber
  return (← invariantFixed (x.mul percentScale) percentDecimals) ++ percentSuffix

end Scoreboard.Display
