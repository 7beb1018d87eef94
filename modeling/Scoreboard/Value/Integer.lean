import Scoreboard.Value.Printer

/-!
# Values as whole numbers

Numbers drop their fraction. Texts and byte strings spell whole numbers in decimal digits with an
optional sign, single underscores between digits, and white space around. A numeral whose leading run
of digits is over the digit limit is refused for that before anything behind the run counts.
-/

namespace Scoreboard

/-- The digits of a run in which underscores stand only between two digits. -/
def groupedDigits? (value? : Char → Option Nat) : Text → Option (List Nat)
  | [] => none
  | [c] => (value? c).map ([·])
  | c :: '_' :: rest => do return (← value? c) :: (← groupedDigits? value? rest)
  | c :: rest => do return (← value? c) :: (← groupedDigits? value? rest)

/-- Reads a numeral that fills the whole text but for white space; `quoted` names it in a fault. -/
def readNumeral (value? : Char → Option Nat) (quoted text : Text) : Except Fault Int :=
  let (negative, body) := splitSign (text.stripped isNumeralBlank)
  let inRun (c : Char) : Bool := c = '_' || (value? c).isSome
  match groupedDigits? value? (body.takeWhile inRun), body.dropWhile inRun with
  | none, _ => .error (.noInteger quoted)
  | some digits, rest =>
      if digitLimit < digits.length then .error (.unreadableInteger digits.length)
      else if rest = [] then .ok (signedNumber negative (ofDigits 10 digits))
      else .error (.noInteger quoted)

def readInteger (text : Text) : Except Fault Int := readNumeral decimalValue? text.quoted text

def truncatedBinary64 : Binary64 → Except Fault Int
  | .nan => .error .integerFromNaN
  | .infinite _ => .error .integerFromInfinity
  | .finite negative magnitude => .ok (Binary64.truncated negative magnitude)

def truncatedDecimal : Decimal → Except Fault Int
  | .nan _ _ _ => .error .integerFromDecimalNaN
  | .infinite _ => .error .integerFromDecimalInfinity
  | .finite negative coefficient exponent => .ok (Decimal.truncated negative coefficient exponent)

namespace Value

def toInteger : Value → Except Fault Int
  | .bool flag | .scalar (.bool flag) => .ok flag.toNat
  | .int n | .scalar (.int64 n) => .ok n
  | .float x | .scalar (.double x) | .scalar (.single x) => truncatedBinary64 x
  | .decimal d => truncatedDecimal d
  | .fraction q => .ok (q.num.tdiv q.den)
  | .text content => readInteger content
  | .bytes content => readNumeral asciiDecimalValue? (quotedBytes content) (asciiText content)
  | value => .error (.noIntegerKind value.kindName)
where
  /-- The bytes as characters, with all beyond ASCII made alike. -/
  asciiText (content : List UInt8) : Text :=
    (byteChars content).map fun c => if c.toNat < 0x80 then c else '?'

end Value

/-! ## What cannot be converted -/

variable {fault : Fault}

theorem isConversion_of_readNumeral {value? : Char → Option Nat} {quoted text : Text}
    (h : readNumeral value? quoted text = .error fault) : fault.isConversion = true := by
  unfold readNumeral at h
  generalize splitSign (text.stripped isNumeralBlank) = parts at h
  obtain ⟨negative, body⟩ := parts
  dsimp only at h
  split at h
  · cases h
    rfl
  · split at h
    · cases h
      rfl
    · split at h <;> cases h
      rfl

theorem isConversion_of_truncatedBinary64 {x : Binary64}
    (h : truncatedBinary64 x = .error fault) : fault.isConversion = true := by
  cases x <;> cases h <;> rfl

theorem isConversion_of_truncatedDecimal {d : Decimal} (h : truncatedDecimal d = .error fault) :
    fault.isConversion = true := by
  cases d <;> cases h <;> rfl

theorem Value.isConversion_of_toInteger {value : Value} (h : value.toInteger = .error fault) :
    fault.isConversion = true := by
  cases value with
  | float x => exact isConversion_of_truncatedBinary64 h
  | decimal d => exact isConversion_of_truncatedDecimal h
  | scalar s =>
      cases s with
      | double x => exact isConversion_of_truncatedBinary64 h
      | single x => exact isConversion_of_truncatedBinary64 h
      | _ => cases h
  | text content => exact isConversion_of_readNumeral h
  | bytes content => exact isConversion_of_readNumeral h
  | _ => cases h <;> rfl

end Scoreboard
