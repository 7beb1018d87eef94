import Scoreboard.Frame.Conversion
import Scoreboard.Value.Comparison

/-!
# Frames

A frame is a list of named columns of one length. Its rows are read across the columns.
-/

namespace Scoreboard

structure Column where
  name : Text
  storage : Storage
  cells : List Value
  deriving Repr

namespace Column

/-- A column with a storage that was asked for, which takes every cell or is a fault. -/
def stored (name : Text) (storage : Storage) (cells : List Value) : Except Fault Column := do
  return ⟨name, storage, ← cells.mapM storage.convert⟩

/-- A column with the storage that follows from its cells. -/
def inferred (name : Text) (cells : List Value) : Column :=
  let storage := Storage.infer cells
  ⟨name, storage, cells.map storage.hold⟩

def ofIntegers (name : Text) (numbers : List Int) : Column :=
  ⟨name, Storage.ofIntegers numbers, numbers.map .int⟩

/-- Whether every cell can be told present or missing, which a signaling one cannot. -/
def requirePresence (column : Column) : Except Fault Unit :=
  if column.cells.any Value.isSignaling then .error .unorderedDecimal else .ok ()

/-- The greatest cell that is present, the first of equal ones. -/
def maximum (column : Column) : Except Fault Value := do
  column.requirePresence
  match column.cells.dropWhile Value.isMissing with
  | [] => return column.storage.missingCell
  | first :: rest =>
      let others := column.cells.takeWhile Value.isMissing ++ rest
      return (← others.foldlM first.greaterCell none).getD first

end Column

structure Frame where
  columns : List Column
  deriving Repr

namespace Frame

def names (frame : Frame) : List Text := frame.columns.map (·.name)

def height (frame : Frame) : Nat :=
  match frame.columns with
  | [] => 0
  | column :: _ => column.cells.length

def isEmpty (frame : Frame) : Bool := frame.height = 0

def column? (frame : Frame) (name : Text) : Option Column :=
  frame.columns.find? fun column => column.name = name

def column (frame : Frame) (name : Text) : Except Fault Column :=
  (frame.column? name).elim (.error (.missingColumn name)) .ok

def row (frame : Frame) (i : Nat) : List Value :=
  frame.columns.filterMap fun column => column.cells[i]?

def rows (frame : Frame) : List (List Value) := (List.range frame.height).map frame.row

end Frame

/-! ## Scales of bars -/

def updatedName : Text := "updated".toList

def solvedName : Text := "solved".toList

/-- The greatest number of a column, and one at least. -/
def barScale (frame : Frame) (name : Text) : Except Fault Int := do
  let column ← frame.column name
  let top ← (← column.maximum).toInteger
  return max top 1

/-- The numbers that full bars of the two counts stand for. -/
def maxCounts (frame : Frame) : Except Fault (Int × Int) := do
  if frame.isEmpty then return (1, 1)
  return (← barScale frame updatedName, ← barScale frame solvedName)

end Scoreboard
