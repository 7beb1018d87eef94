import Scoreboard.Display.Cell

/-!
# Progress of a puzzle

The solved tiles of a puzzle as a share of all its tiles. Counts are compared exactly; a puzzle without
tiles has no share.
-/

namespace Scoreboard

def solvedFraction (solved total : Quantity) : Except Fault (Option Binary64) := do
  if solved.isNegative || total.isNegative then .error .negativeTiles
  if total.lt solved then
    .error (.solvedExceedsTotal (← solved.text) (← total.text))
  if total.isZero then return none
  return some (← solved.div total)

/-- What the dashboard shows for a share that may be missing. -/
def fractionValue : Option Binary64 → Value
  | some x => .float x
  | none => .missing .none

structure ProgressSummary where
  solved : Text
  total : Text
  progress : Text
  deriving DecidableEq, Repr

def progressSummary (solved total : Quantity) : Traced ProgressSummary := do
  let solvedText ← Display.integer solved.toValue
  let totalText ← Display.integer total.toValue
  let fraction ← solvedFraction solved total
  return ⟨solvedText, totalText, ← Display.percent (fractionValue fraction)⟩

end Scoreboard
