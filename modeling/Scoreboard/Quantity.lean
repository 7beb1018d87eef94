import Scoreboard.Value.Order
import Scoreboard.Value.Printer

/-!
# Quantities

A quantity is a whole number of any size or a double. Quantities are compared by their exact values,
with the infinities at the ends and `nan` beside everything.
-/

namespace Scoreboard

inductive Quantity where
  | whole (n : Int)
  | real (x : Binary64)
  deriving DecidableEq, Repr

namespace Quantity

def toValue : Quantity → Value
  | .whole n => .int n
  | .real x => .float x

/-- Strictly less; never with `nan`. -/
def lt (a b : Quantity) : Bool :=
  match a.toValue.place?, b.toValue.place? with
  | some p, some q => p.lt q
  | _, _ => false

def isNegative (a : Quantity) : Bool := a.lt (.whole 0)

def isZero : Quantity → Bool
  | .whole n => n == 0
  | .real x => x.isZero

def text : Quantity → Except Fault Text
  | .whole n => integerText n
  | .real x => .ok x.text

def toBinary64 : Quantity → Except Fault Binary64
  | .whole n => (Binary64.ofInt? n).elim (.error .beyondDouble) .ok
  | .real x => .ok x

/-- The quotient: two whole numbers are divided exactly and rounded once, else each is rounded first. -/
def div (a b : Quantity) : Except Fault Binary64 :=
  match a, b with
  | .whole m, .whole n =>
      .ok (.ofRatio ((m < 0) != (n < 0)) m.natAbs n.natAbs)
  | _, _ => do
      let x ← a.toBinary64
      let y ← b.toBinary64
      return x.div y

end Quantity

end Scoreboard
