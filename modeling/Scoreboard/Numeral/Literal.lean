import Scoreboard.Binary64.Basic
import Scoreboard.Text.Blank
import Scoreboard.Text.Digit
import Scoreboard.Text.Quoted

/-!
# Numeric literals

Decimal literals have an optional sign, digits with an optional point among or around them, and an
optional exponent; radix literals are unsigned digits behind `0x`, `0o` or `0b`. A literal spells an
exact number, and rounding it is a step of its own.
-/

namespace Scoreboard

structure Literal where
  negative : Bool
  coefficient : Nat
  exponent : Int
  deriving DecidableEq, Repr

/-- Splits off one leading sign, and tells whether it is a minus. -/
def splitSign : Text → Bool × Text
  | '-' :: rest => (true, rest)
  | '+' :: rest => (false, rest)
  | text => (false, text)

def signedNumber (negative : Bool) (n : Nat) : Int := if negative then -n else n

namespace Literal

/-- The value of an exponent part that fills the whole text; an empty one counts as zero. -/
def exponentPart? (value? : Char → Option Nat) : Text → Option Int
  | [] => some 0
  | mark :: rest =>
      if mark = 'e' ∨ mark = 'E' then
        let (negative, digits) := splitSign rest
        match digitRun value? digits with
        | (d :: ds, []) => some (signedNumber negative (ofDigits 10 (d :: ds)))
        | _ => none
      else none

def fractionPart (value? : Char → Option Nat) : Text → List Nat × Text
  | '.' :: rest => digitRun value? rest
  | text => ([], text)

/-- Reads a decimal literal that fills the whole text, with digits of the class `value?`. -/
def read? (value? : Char → Option Nat) (text : Text) : Option Literal :=
  let (negative, body) := splitSign text
  let (whole, rest) := digitRun value? body
  let (fraction, rest) := fractionPart value? rest
  if (whole ++ fraction).isEmpty then none
  else
    (exponentPart? value? rest).map fun exponent =>
      ⟨negative, ofDigits 10 (whole ++ fraction), exponent - fraction.length⟩

def toBinary64 (literal : Literal) : Binary64 :=
  .ofScientific literal.negative literal.coefficient literal.exponent

end Literal

/-! ## Radix literals -/

def radixOf? (mark : Char) : Option Nat :=
  if mark = 'x' ∨ mark = 'X' then some 16
  else if mark = 'o' ∨ mark = 'O' then some 8
  else if mark = 'b' ∨ mark = 'B' then some 2
  else none

/-- The value of an ASCII digit or letter as a digit of the radix. -/
def radixValue? (radix : Nat) (c : Char) : Option Nat :=
  let value :=
    if '0' ≤ c ∧ c ≤ '9' then c.toNat - '0'.toNat
    else if 'a' ≤ c ∧ c ≤ 'f' then c.toNat - 'a'.toNat + 10
    else if 'A' ≤ c ∧ c ≤ 'F' then c.toNat - 'A'.toNat + 10
    else radix
  if value < radix then some value else none

/-- Reads a radix literal that fills the whole text; it has one digit at least. -/
def readRadixLiteral? : Text → Option Nat
  | '0' :: mark :: d :: rest => do
      let radix ← radixOf? mark
      let digits ← (d :: rest).mapM (radixValue? radix)
      return ofDigits radix digits
  | _ => none

/-! ## Free spellings -/

/-- Drops underscores that stand between two digits, and refuses all others. -/
def withoutUnderscores? (value? : Char → Option Nat) : Text → Option Text
  | [] => some []
  | '_' :: _ => none
  | c :: '_' :: d :: rest =>
      if (value? c).isSome && (value? d).isSome then
        (withoutUnderscores? value? (d :: rest)).map (c :: ·)
      else none
  | c :: rest => (withoutUnderscores? value? rest).map (c :: ·)

/--
The number a text spells once the blanks around it are gone: a decimal literal with single underscores
between digits, or an infinity or `nan` in letters of either case.
-/
def readFree? (blank : Char → Bool) (value? : Char → Option Nat) (text : Text) :
    Option Binary64 := do
  let text ← withoutUnderscores? value? (text.stripped blank)
  let (negative, body) := splitSign text
  let word := body.map Char.toLower
  if word = "inf".toList ∨ word = "infinity".toList then return .infinite negative
  if word = "nan".toList then return .nan
  return (← Literal.read? value? text).toBinary64

def readBytes? (bytes : List UInt8) : Option Binary64 :=
  readFree? isAsciiBlank asciiDecimalValue? (byteChars bytes)

end Scoreboard
