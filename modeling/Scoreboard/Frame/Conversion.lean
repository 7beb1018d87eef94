import Scoreboard.Frame.Storage
import Scoreboard.Value.Double
import Scoreboard.Value.Integer

/-!
# Cells in a storage that was asked for

Objects are kept as they are. Doubles are made of everything that stands for one, texts of everything
that has a text, and both hold a missing cell as `nan`. The storages with missing cells of their own hold
all numbers that are missing as such cells; they take whole numbers for doubles and the other way round,
and zero and one for truth values, but no number that would change.
-/

namespace Scoreboard.Storage

/-- The text in the cell of a column of texts; a byte string is read as UTF-8 where it is that. -/
def toText : Value → Except Fault Text
  | .bytes content =>
      match String.fromUTF8? ⟨content.toArray⟩ with
      | some decoded => .ok decoded.toList
      | none => (Value.bytes content).plainText
  | cell => cell.plainText

def toWord : Value → Except Fault Int
  | .bool flag | .scalar (.bool flag) => .ok flag.toNat
  | .int n | .scalar (.int64 n) => if Word.fitsSigned n then .ok n else .error .fractionalCell
  | .float x | .scalar (.double x) | .scalar (.single x) =>
      match x.toRat? with
      | some q => if q.den = 1 ∧ Word.fitsSigned q.num then .ok q.num else .error .fractionalCell
      | none => .error .fractionalCell
  | .text content => readInteger content
  | _ => .error (.unsuitedCell "IntegerDtype".toList)

def toReal (cell : Value) : Except Fault Binary64 :=
  match cell with
  | .bool _ | .int _ | .float _ | .scalar _ | .text _ => cell.toDouble
  | _ => .error (.unsuitedCell "FloatingDtype".toList)

def toFlag : Value → Except Fault Bool
  | .bool flag | .scalar (.bool flag) => .ok flag
  | .int n | .scalar (.int64 n) =>
      if n = 1 then .ok true else if n = 0 then .ok false else .error .unsuitedFlag
  | .float x | .scalar (.double x) | .scalar (.single x) =>
      if x.isZero then .ok false else if x = .ofBool true then .ok true else .error .unsuitedFlag
  | _ => .error .unsuitedFlag

/-- A cell that is not missing, as the storage holds it. -/
def convertPresent (storage : Storage) (cell : Value) : Except Fault Value := do
  match storage with
  | texts => return .text (← toText cell)
  | doubles => return .float (← cell.toDouble)
  | nullableIntegers => return .int (← toWord cell)
  | nullableDoubles => return .float (← toReal cell)
  | nullableFlags => return .bool (← toFlag cell)
  | objects | flags | int64 | uint64 => return storage.hold cell

/-- A cell as the storage holds it. Doubles know no missing cell but the empty one. -/
def convert (storage : Storage) (cell : Value) : Except Fault Value :=
  match storage, cell with
  | doubles, .missing .none => .ok storage.missingCell
  | doubles, _ | objects, _ => storage.convertPresent cell
  | _, _ =>
      if cell.isSignaling then .error .unorderedDecimal
      else if cell.isMissing then .ok storage.missingCell
      else storage.convertPresent cell

end Scoreboard.Storage
