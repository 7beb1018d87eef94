import Scoreboard.Fault
import Scoreboard.Value.Basic

/-!
# Values as doubles

The double nearest to a value. Numbers have one unless they lie beyond all doubles, and texts and byte
strings have one if they spell a number. Where a double is required, its absence is a fault.
-/

namespace Scoreboard.Value

def nearestDouble? : Value → Option Binary64
  | .bool flag | .scalar (.bool flag) => some (.ofBool flag)
  | .int n | .scalar (.int64 n) => Binary64.ofInt? n
  | .float x | .scalar (.double x) | .scalar (.single x) => some x
  | .decimal d => d.toBinary64?
  | .fraction q => Binary64.ofRat? q
  | .bytes content => readBytes? content
  | _ => none

def doubleFault : Value → Fault
  | .int _ => .beyondDouble
  | .fraction _ => .quotientBeyondDouble
  | .decimal _ => .realFromSignalingNaN
  | .text content => .noReal content.quoted
  | .bytes content => .noReal (quotedBytes content)
  | value => .noRealKind value.kindName

/-- The double nearest to a value that has one, a text among them. -/
def toDouble (value : Value) : Except Fault Binary64 :=
  let nearest? :=
    match value with
    | .text content => readFree? isNumeralBlank decimalValue? content
    | value => value.nearestDouble?
  nearest?.elim (.error value.doubleFault) .ok

theorem isConversion_doubleFault (value : Value) : value.doubleFault.isConversion = true := by
  fun_cases doubleFault value <;> rfl

end Scoreboard.Value
