import Scoreboard.Value.Double

/-!
# Order of numbers

Numbers have places on the number line, whose ends are the infinities. Numbers of all kinds are compared
by their exact places, but numbers of arrays are rounded to a common precision first. A `nan` has no
place and stands in no relation. Decimal exponents are unlimited, so a power of ten is worked out only
where sizes alone do not tell two numbers apart.
-/

namespace Scoreboard

/-- A point stands for `q * 10 ^ exponent`; points that stand for one number count as equal. -/
inductive NumberPlace where
  | lowest
  | point (q : Rat) (exponent : Int)
  | highest
  deriving Repr

namespace NumberPlace

/-- A nonzero `q` has its magnitude from `2 ^ (size q - 1)` up to below `2 ^ (size q + 1)`. -/
def size (q : Rat) : Int := (q.num.natAbs.log2 : Int) - q.den.log2

/-- Whether the magnitude of a nonzero `q`, times `10 ^ shift`, is below that of a nonzero `r`. -/
def scaledLt (q r : Rat) (shift : Int) : Bool :=
  if 0 ≤ shift ∧ size r + 2 ≤ size q + 3 * shift then false
  else if shift ≤ 0 ∧ size q + 3 * shift + 2 ≤ size r then true
  else
    q.num.natAbs * r.den * 10 ^ shift.toNat < r.num.natAbs * q.den * 10 ^ (-shift).toNat

/-- Whether `q * 10 ^ e` is below `r * 10 ^ f`. -/
def pointLt (q r : Rat) (e f : Int) : Bool :=
  if e = f then q < r
  else if q.num.sign ≠ r.num.sign then q.num.sign < r.num.sign
  else if 0 < q then scaledLt q r (e - f)
  else if q < 0 then scaledLt r q (f - e)
  else false

def lt : NumberPlace → NumberPlace → Bool
  | point q e, point r f => pointLt q r e f
  | lowest, lowest | highest, highest => false
  | lowest, _ | _, highest => true
  | _, lowest | highest, _ => false

def compare (a b : NumberPlace) : Ordering :=
  if a.lt b then .lt else if b.lt a then .gt else .eq

def infinite (negative : Bool) : NumberPlace := if negative then lowest else highest

end NumberPlace

def Binary64.place? : Binary64 → Option NumberPlace
  | .nan => none
  | .infinite negative => some (.infinite negative)
  | .finite negative magnitude => some (.point (exactValue negative magnitude) 0)

def Decimal.place? : Decimal → Option NumberPlace
  | .nan _ _ _ => none
  | .infinite negative => some (.infinite negative)
  | .finite negative coefficient exponent => some (.point (signedNumber negative coefficient) exponent)

/-- How finely two numbers are told apart. -/
inductive Precision where
  | exact
  | double
  | single
  deriving DecidableEq, Repr

namespace Value

def place? : Value → Option NumberPlace
  | .bool flag | .scalar (.bool flag) => some (.point flag.toNat 0)
  | .int n | .scalar (.int64 n) => some (.point n 0)
  | .float x | .scalar (.double x) | .scalar (.single x) => x.place?
  | .decimal d => d.place?
  | .fraction q => some (.point q 0)
  | _ => none

def realPart : Value → Value
  | .complex re _ => .float re
  | value => value

def imaginaryPart : Value → Value
  | .complex _ im => .float im
  | _ => .int 0

/-! ## Precision -/

def isScalar : Value → Bool
  | .scalar _ => true
  | _ => false

def isWhole : Value → Bool
  | .bool _ | .int _ | .scalar (.bool _) | .scalar (.int64 _) => true
  | _ => false

def isSingle : Value → Bool
  | .scalar (.single _) => true
  | _ => false

/-- Numbers of unlimited precision that are not whole numbers. -/
def isUnlimited : Value → Bool
  | .decimal _ | .fraction _ => true
  | _ => false

/-- Numbers that give way to the precision of a single beside them. -/
def yieldsToSingle : Value → Bool
  | .scalar (.int64 _) | .scalar (.double _) => false
  | _ => true

/--
The precision of a comparison. A number of an array is compared exactly with a number of unlimited
precision, and with another whole number if it is whole itself; otherwise doubles are compared, or
singles beside a single.
-/
def commonPrecision (a b : Value) : Precision :=
  if !(a.isScalar || b.isScalar) || (a.isUnlimited || b.isUnlimited) || (a.isWhole && b.isWhole) then
    .exact
  else if (a.isSingle && b.yieldsToSingle) || (b.isSingle && a.yieldsToSingle) then .single
  else .double

/-- The place of a real number once it is rounded to the precision. -/
def placeIn (precision : Precision) (a : Value) : Except Fault (Option NumberPlace) :=
  match precision with
  | .exact => .ok a.place?
  | .double => do return (← a.toDouble).place?
  | .single => do return (← a.toDouble).toSingle.place?

/-! ## Comparison -/

def comparePlaces (p q : Option NumberPlace) : Option Ordering := do return (← p).compare (← q)

/-- How two numbers stand to each other, by their real parts first; beside a `nan`, not at all. -/
def compareNumbers (a b : Value) : Except Fault (Option Ordering) := do
  let precision := commonPrecision a b
  let re := comparePlaces (← a.realPart.placeIn precision) (← b.realPart.placeIn precision)
  let im := comparePlaces (← a.imaginaryPart.placeIn precision) (← b.imaginaryPart.placeIn precision)
  return do return (← re).then (← im)

end Value

end Scoreboard
