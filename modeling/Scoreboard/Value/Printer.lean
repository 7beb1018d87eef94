import Scoreboard.Binary64.Printer
import Scoreboard.Fault
import Scoreboard.Value.Basic

/-!
# Texts of values

A value has two texts: the plain one that stands for it as an id or inside a sequence of one, and the
descriptive one that messages show, in which texts are quoted and kinds of numbers are named. A whole
number beyond the digit limit has neither, nor has anything that holds one.
-/

namespace Scoreboard

/-- The digits of a whole number, unless it has more than the limit allows. -/
def integerText (n : Int) : Except Fault Text :=
  if 10 ^ digitLimit ≤ n.natAbs then .error .unwritableInteger else .ok (.ofInt n)

def boolText (flag : Bool) : Text := if flag then "True".toList else "False".toList

def applied (name : String) (argument : Text) : Text := name.toList ++ '(' :: argument ++ [')']

def objectText (address : Nat) : Text :=
  "<object object at 0x".toList ++ Nat.toDigits 16 address ++ ['>']

def commaSeparated (parts : List Text) : Text := [',', ' '].intercalate parts

namespace Missing

def text : Missing → Text
  | none => "None".toList
  | notAvailable => "<NA>".toList
  | notATime => "NaT".toList

end Missing

namespace Scalar

def text : Scalar → Text
  | bool flag => boolText flag
  | int64 n => .ofInt n
  | double x => x.text
  | single x => x.singleText

def description : Scalar → Text
  | bool flag => "np.".toList ++ boolText flag ++ ['_']
  | int64 n => applied "np.int64" (.ofInt n)
  | double x => applied "np.float64" x.text
  | single x => applied "np.float32" x.singleText

end Scalar

namespace SequenceKind

/-- Brackets for a list, parentheses for a tuple, with a comma behind a lone item. -/
def enclosed (kind : SequenceKind) (items : List Text) : Text :=
  match kind, items with
  | list, items => '[' :: commaSeparated items ++ [']']
  | tuple, [item] => '(' :: item ++ [',', ')']
  | tuple, items => '(' :: commaSeparated items ++ [')']

end SequenceKind

namespace Value

mutual

def description : Value → Except Fault Text
  | .missing marker => .ok marker.text
  | .bool flag => .ok (boolText flag)
  | .int n => integerText n
  | .float x => .ok x.text
  | .decimal d => .ok (applied "Decimal" d.text.quoted)
  | .fraction q => do
      let num ← integerText q.num
      let den ← integerText q.den
      return applied "Fraction" (commaSeparated [num, den])
  | .complex re im => .ok (Binary64.complexText re im)
  | .scalar s => .ok s.description
  | .text content => .ok content.quoted
  | .bytes content => .ok (quotedBytes content)
  | .sequence kind items => do return kind.enclosed (← descriptions items)
  | .mapping entries => do
      return '\x7b' :: commaSeparated (← entryDescriptions entries) ++ ['\x7d']
  | .object address => .ok (objectText address)

def descriptions : List Value → Except Fault (List Text)
  | [] => .ok []
  | item :: rest => do return (← description item) :: (← descriptions rest)

/-- Each key with its value, a colon between them. -/
def entryDescriptions : List (Value × Value) → Except Fault (List Text)
  | [] => .ok []
  | (key, value) :: rest => do
      let entry := (← description key) ++ ':' :: ' ' :: (← description value)
      return entry :: (← entryDescriptions rest)

end

def plainText : Value → Except Fault Text
  | .text content => .ok content
  | .decimal d => .ok d.text
  | .fraction q => do
      let num ← integerText q.num
      if q.den = 1 then return num
      return num ++ '/' :: (← integerText q.den)
  | .scalar s => .ok s.text
  | value => value.description

end Value

end Scoreboard
