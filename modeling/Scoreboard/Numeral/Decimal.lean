import Scoreboard.Numeral.Literal

/-!
# Decimal numbers

Decimal floating-point numbers of any precision, with signed infinities and with quiet and signaling
`NaN`s that carry a payload. Their text is the scientific string of the decimal arithmetic standard:
plain where the exponent is not positive and the leading digit stands no lower than `10 ^ -6`.
-/

namespace Scoreboard

inductive Decimal where
  | finite (negative : Bool) (coefficient : Nat) (exponent : Int)
  | infinite (negative : Bool)
  | nan (signaling : Bool) (negative : Bool) (payload : Nat)
  deriving DecidableEq, Repr

namespace Decimal

/-- The payload behind the word of a `NaN`: digits up to the end. -/
def payload? (text : Text) : Option Nat :=
  match digitRun decimalValue? text with
  | (digits, []) => some (ofDigits 10 digits)
  | _ => none

def special? (negative : Bool) (word : Text) : Option Decimal :=
  if word = "inf".toList ∨ word = "infinity".toList then some (.infinite negative)
  else if word.take 3 = "nan".toList then (payload? (word.drop 3)).map (.nan false negative)
  else if word.take 4 = "snan".toList then (payload? (word.drop 4)).map (.nan true negative)
  else none

/-- Reads a decimal number; white space around it and underscores in it do not count. -/
def ofText? (text : Text) : Option Decimal :=
  let text := text.trimmed.filter (· ≠ '_')
  let (negative, body) := splitSign text
  match special? negative (body.map Char.toLower) with
  | some number => some number
  | none =>
      (Literal.read? decimalValue? text).map fun literal =>
        .finite literal.negative literal.coefficient literal.exponent

def signText (negative : Bool) : Text := if negative then ['-'] else []

/-- The digits of a coefficient, with a point behind the first `position` of them. -/
def pointed (digits : Text) (position : Int) : Text :=
  if position ≤ 0 then '0' :: '.' :: List.replicate (-position).toNat '0' ++ digits
  else if digits.length ≤ position.toNat then digits
  else digits.take position.toNat ++ '.' :: digits.drop position.toNat

def finiteText (coefficient : Nat) (exponent : Int) : Text :=
  let digits := Text.ofNat coefficient
  let position := digits.length + exponent
  if exponent ≤ 0 ∧ -6 ≤ position - 1 then pointed digits position
  else
    pointed digits 1 ++ 'E' :: (if position - 1 < 0 then '-' else '+') ::
      Text.ofNat (position - 1).natAbs

def text : Decimal → Text
  | .finite negative coefficient exponent => signText negative ++ finiteText coefficient exponent
  | .infinite negative => signText negative ++ "Infinity".toList
  | .nan signaling negative payload =>
      signText negative ++ (if signaling then "sNaN".toList else "NaN".toList) ++
        if payload = 0 then [] else Text.ofNat payload

/-- The nearest double; a signaling `NaN` has none. -/
def toBinary64? : Decimal → Option Binary64
  | .finite negative coefficient exponent => some (.ofScientific negative coefficient exponent)
  | .infinite negative => some (.infinite negative)
  | .nan signaling _ _ => if signaling then none else some .nan

def truncated (negative : Bool) (coefficient : Nat) (exponent : Int) : Int :=
  signedNumber negative <|
    if 0 ≤ exponent then coefficient * 10 ^ exponent.toNat
    else if coefficient.log2 + 1 < -exponent then 0
    else coefficient / 10 ^ (-exponent).toNat

end Decimal

end Scoreboard
