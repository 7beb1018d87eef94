import Scoreboard.Binary64.Basic

/-!
# Interchange bits

The 64-bit form of a double: one sign bit, eleven exponent bits and fifty-two bits of the significand
behind its leading one. An exponent field of zero counts units directly, one of all ones marks
infinities and, with any bit behind it, `nan`.
-/

namespace Scoreboard.Binary64

def fractionBits : Nat := 52

/-- The leading one of a significand, and the lowest bit of the exponent field. -/
def leadingOne : Nat := 2 ^ fractionBits

def specialExponent : Nat := 2047

def unsignedBits : Nat := leadingOne * (specialExponent + 1)

def ofBits (bits : UInt64) : Binary64 :=
  let negative := unsignedBits ≤ bits.toNat
  let exponent := bits.toNat % unsignedBits / leadingOne
  let fraction := bits.toNat % leadingOne
  if exponent = specialExponent then (if fraction = 0 then .infinite negative else .nan)
  else if exponent = 0 then nearest negative fraction 1
  else nearest negative ((leadingOne + fraction) * 2 ^ (exponent - 1)) 1

/-- The exponent and significand fields of a magnitude, as one number. -/
def magnitudeBits (units : Nat) : Nat :=
  if units < leadingOne then units
  else
    let exponent := units.log2 + 1 - fractionBits
    exponent * leadingOne + (units / 2 ^ (exponent - 1) - leadingOne)

def signBits (negative : Bool) : Nat := if negative then unsignedBits else 0

/-- All of `nan` shares one form, the quiet positive one without payload. -/
def toBits : Binary64 → UInt64
  | .nan => UInt64.ofNat (specialExponent * leadingOne + leadingOne / 2)
  | .infinite negative => UInt64.ofNat (signBits negative + specialExponent * leadingOne)
  | .finite negative magnitude => UInt64.ofNat (signBits negative + magnitudeBits magnitude.units)

end Scoreboard.Binary64
