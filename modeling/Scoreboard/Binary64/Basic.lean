import Scoreboard.Binary64.Grid

/-!
# Double precision numbers

A number of the format binary64. Its magnitude is a whole count of units of `2 ^ -1074` that lies on
the double precision grid, so equality of numbers is equality of values, apart from the two zeros,
and every operation is exact arithmetic followed by one rounding, `nearest`.
-/

namespace Scoreboard

/-- The least positive double is `2 ^ -1074`. -/
def unitDepth : Nat := 1074

def unitsPerOne : Nat := 2 ^ unitDepth

/-- The count of units from which on magnitudes are infinite: that of `2 ^ 1024`. -/
def overflow : Nat := 2 ^ Grid.double.limit

/-- A finite magnitude: below `2 ^ 1024` and with at most 53 significant bits. -/
structure Magnitude where
  units : Nat
  units_lt : units < overflow
  granular : 2 ^ (units.log2 + 1 - Grid.double.precision) ∣ units
  deriving DecidableEq, Repr

theorem unitsPerOne_pos : 0 < unitsPerOne := Nat.two_pow_pos unitDepth

theorem overflow_pos : 0 < overflow := Nat.two_pow_pos Grid.double.limit

/- Proofs compare multiples of these two powers, which are too great to be written out. -/
attribute [irreducible] unitsPerOne overflow

namespace Magnitude

def zero : Magnitude := ⟨0, overflow_pos, by simp⟩

def nearest? (num den : Nat) : Option Magnitude :=
  let units := Grid.double.round num den
  if h : units < overflow then some ⟨units, h, Grid.double.round_granular num den⟩ else none

end Magnitude

inductive Binary64 where
  | nan
  | infinite (negative : Bool)
  | finite (negative : Bool) (magnitude : Magnitude)
  deriving DecidableEq, Repr

namespace Binary64

def zero : Binary64 := .finite false .zero

def isNaN : Binary64 → Bool
  | .nan => true
  | _ => false

def isZero : Binary64 → Bool
  | .finite _ magnitude => magnitude.units == 0
  | _ => false

/-- The number nearest to a quotient of units; infinite where it has no finite neighbour. -/
def nearest (negative : Bool) (num den : Nat) : Binary64 :=
  match Magnitude.nearest? num den with
  | some magnitude => .finite negative magnitude
  | none => .infinite negative

def ofRatio (negative : Bool) (num den : Nat) : Binary64 :=
  nearest negative (num * unitsPerOne) den

def ofInt? (n : Int) : Option Binary64 :=
  (Magnitude.nearest? (n.natAbs * unitsPerOne) 1).map (.finite (n < 0))

def ofRat? (q : Rat) : Option Binary64 :=
  (Magnitude.nearest? (q.num.natAbs * unitsPerOne) q.den).map (.finite (q < 0))

def ofBool (flag : Bool) : Binary64 := ofRatio false flag.toNat 1

/--
The number nearest to `± coefficient * 10 ^ exponent`. Exponents that put the value beyond every
finite number, or nearer to zero than to the least positive one, need no power of ten.
-/
def ofScientific (negative : Bool) (coefficient : Nat) (exponent : Int) : Binary64 :=
  if coefficient = 0 then .finite negative .zero
  else if 310 < exponent then .infinite negative
  else if exponent + coefficient.log2 + 1 < -330 then .finite negative .zero
  else if 0 ≤ exponent then ofRatio negative (coefficient * 10 ^ exponent.toNat) 1
  else ofRatio negative coefficient (10 ^ (-exponent).toNat)

/-! ## Arithmetic -/

/-- The product: a zero and an infinity have none, signs multiply. -/
def mul : Binary64 → Binary64 → Binary64
  | .nan, _ | _, .nan => .nan
  | .infinite s, .infinite t => .infinite (s != t)
  | .infinite s, .finite t y => if y.units = 0 then .nan else .infinite (s != t)
  | .finite s x, .infinite t => if x.units = 0 then .nan else .infinite (s != t)
  | .finite s x, .finite t y => nearest (s != t) (x.units * y.units) unitsPerOne

/-- The quotient: two zeros and two infinities have none, a nonzero number over zero is infinite. -/
def div : Binary64 → Binary64 → Binary64
  | .nan, _ | _, .nan => .nan
  | .infinite _, .infinite _ => .nan
  | .infinite s, .finite t _ => .infinite (s != t)
  | .finite s _, .infinite t => .finite (s != t) .zero
  | .finite s x, .finite t y =>
      if y.units = 0 then (if x.units = 0 then .nan else .infinite (s != t))
      else nearest (s != t) (x.units * unitsPerOne) y.units

def toSingle : Binary64 → Binary64
  | .finite s x =>
      let units := Grid.single.round x.units 1
      if units < 2 ^ Grid.single.limit then nearest s units 1 else .infinite s
  | x => x

/-! ## Exact values -/

def signedUnits (negative : Bool) (units : Nat) : Int := if negative then -units else units

def exactValue (negative : Bool) (magnitude : Magnitude) : Rat :=
  mkRat (signedUnits negative magnitude.units) unitsPerOne

def toRat? : Binary64 → Option Rat
  | .finite negative magnitude => some (exactValue negative magnitude)
  | _ => none

def truncated (negative : Bool) (magnitude : Magnitude) : Int :=
  signedUnits negative (magnitude.units / unitsPerOne)

end Binary64

end Scoreboard
