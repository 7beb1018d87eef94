import Scoreboard.Value.Basic
import Scoreboard.Word

/-!
# Column storage

A column keeps its cells in one of several storages: machine integers, doubles, truth values or texts,
each of these but the integers with a way to hold missing cells, or plain objects that keep every cell as
it is. The storage of a column follows from its cells when none is asked for. Sums of machine integers
wrap around.
-/

namespace Scoreboard

inductive Storage where
  | objects
  | flags
  | int64
  | uint64
  | doubles
  | texts
  | nullableIntegers
  | nullableDoubles
  | nullableFlags
  deriving DecidableEq, Repr

namespace Storage

/-- The storage of whole numbers: signed words, else unsigned words, else objects. -/
def ofIntegers (numbers : List Int) : Storage :=
  if numbers.all Word.fitsSigned then int64
  else if numbers.all Word.fitsUnsigned then uint64
  else objects

/-- The sum of a column of whole numbers, which wraps around in machine words. -/
def sum (storage : Storage) (numbers : List Int) : Int :=
  let total := numbers.foldr (· + ·) 0
  match storage with
  | int64 => Word.wrapSigned total
  | uint64 => Word.wrapUnsigned total
  | _ => total

def integer? : Value → Option Int
  | .int n | .scalar (.int64 n) => some n
  | _ => none

def isFlag : Value → Bool
  | .bool _ | .scalar (.bool _) => true
  | _ => false

def isText : Value → Bool
  | .text _ => true
  | _ => false

def isReal : Value → Bool
  | .float _ | .scalar (.double _) | .scalar (.single _) => true
  | _ => false

def isNone : Value → Bool
  | .missing .none => true
  | _ => false

/--
The storage that follows from the cells. Missing cells turn whole numbers into doubles, unless the whole
numbers do not fit machine words; any other mix of kinds stays as it is.
-/
def infer (cells : List Value) : Storage :=
  let present := cells.filter fun cell => !isNone cell
  let integers := present.filterMap integer?
  if present.isEmpty then objects
  else if cells.all isFlag then flags
  else if present.all isText then texts
  else if present.all fun cell => (integer? cell).isSome || isReal cell then
    let words := ofIntegers integers
    if integers.length = cells.length then words
    else if words = objects then objects
    else doubles
  else objects

/-- A cell as the storage holds it that follows from cells like this one. -/
def hold (storage : Storage) (cell : Value) : Value :=
  match storage, cell with
  | texts, .missing _ | doubles, .missing _ => .float .nan
  | doubles, .int n | doubles, .scalar (.int64 n) => .float (.ofRatio (n < 0) n.natAbs 1)
  | doubles, .scalar (.double x) | doubles, .scalar (.single x) => .float x
  | int64, .scalar (.int64 n) | uint64, .scalar (.int64 n) => .int n
  | flags, .scalar (.bool flag) => .bool flag
  | _, cell => cell

@[simp] theorem hold_text (storage : Storage) (content : Text) :
    storage.hold (.text content) = .text content := by
  cases storage <;> rfl

@[simp] theorem hold_float (storage : Storage) (x : Binary64) :
    storage.hold (.float x) = .float x := by
  cases storage <;> rfl

/-- The missing cell that the storage makes itself; it is also the greatest of no cells. -/
def missingCell : Storage → Value
  | nullableIntegers | nullableDoubles | nullableFlags => .missing .notAvailable
  | _ => .float .nan

end Storage

end Scoreboard
