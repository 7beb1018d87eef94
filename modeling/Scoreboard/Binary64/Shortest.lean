import Scoreboard.Binary64.Basic
import Scoreboard.Text.Basic

/-!
# Shortest decimals

The text of a number has the fewest digits that read back as that number, and among those of that
length the nearest ones, an even last digit deciding between two that are equally near. For each
length only the two neighbours of the number on the decimal grid of that length can win.
-/

namespace Scoreboard

structure DecimalPoint where
  coefficient : Nat
  exponent : Int
  deriving DecidableEq, Repr

namespace Binary64

/-- Scaled by this power of ten, every positive magnitude is above one. -/
def leadingScale : Nat := 400

/-- The decimal exponent of the leading digit of a positive count of units. -/
def leadingExponent (units : Nat) : Int :=
  (Nat.toDigits 10 (units * 10 ^ leadingScale / unitsPerOne)).length - 1 - leadingScale

/-- The quotient that counts how often `10 ^ exponent` goes into the units; one of the powers is one. -/
def gridQuotient (units : Nat) (exponent : Int) : Nat × Nat :=
  (units * 10 ^ (-exponent).toNat, unitsPerOne * 10 ^ exponent.toNat)

/-- The neighbour on the grid of `digits` digits that reads back and is the nearer one. -/
def shortestOfLength? (readsBack : DecimalPoint → Bool) (units digits : Nat) :
    Option DecimalPoint :=
  let exponent := leadingExponent units - digits + 1
  let (num, den) := gridQuotient units exponent
  let below : DecimalPoint := ⟨num / den, exponent⟩
  let above : DecimalPoint := ⟨num / den + 1, exponent⟩
  let nearer : DecimalPoint := ⟨roundHalfEven num den, exponent⟩
  if readsBack nearer then some nearer
  else if readsBack below then some below
  else if readsBack above then some above
  else none

def exactDecimal (units : Nat) : DecimalPoint := ⟨units * 5 ^ unitDepth, -unitDepth⟩

/-- Seventeen digits are enough; the exact decimal stands for a search without a hit. -/
def shortestDecimal (readsBack : DecimalPoint → Bool) (units : Nat) : DecimalPoint :=
  ((List.range 17).findSome? fun n => shortestOfLength? readsBack units (n + 1)).getD
    (exactDecimal units)

def shortest (magnitude : Magnitude) : DecimalPoint :=
  shortestDecimal
    (fun point => ofScientific false point.coefficient point.exponent = .finite false magnitude)
    magnitude.units

def shortestSingle (magnitude : Magnitude) : DecimalPoint :=
  shortestDecimal
    (fun point =>
      let (num, den) :=
        if 0 ≤ point.exponent then (point.coefficient * 10 ^ point.exponent.toNat, 1)
        else (point.coefficient, 10 ^ (-point.exponent).toNat)
      Grid.single.round (num * unitsPerOne) den = magnitude.units)
    magnitude.units

end Binary64

end Scoreboard
