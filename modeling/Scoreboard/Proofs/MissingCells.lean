import Mathlib
import Scoreboard.Proofs.Displayed
import Scoreboard.Proofs.Refusals

/-!
# Missing cells

A missing cell of a formatted column shows the placeholder if the storage of the column keeps it as it
is.  Storage of texts and of doubles does not: it holds `NaN` instead, which a percentage counts as
nothing but a whole number writes out.
-/

namespace Scoreboard

open Display

/-! ## Given columns -/

inductive GivenCell where
  | missing
  | int (n : Int)
  | float (x : Binary64)
  | text (content : Text)

namespace GivenCell

def value : GivenCell → Value
  | missing => .missing .none
  | int n => .int n
  | float x => .float x
  | text content => .text content

def isMissing : GivenCell → Bool
  | missing => true
  | _ => false

def isText : GivenCell → Bool
  | text _ => true
  | _ => false

def isNumber : GivenCell → Bool
  | int _ | float _ => true
  | _ => false

def integer? : GivenCell → Option Int
  | int n => some n
  | _ => none

variable (cell : GivenCell)

@[simp] theorem isNone_value : Storage.isNone cell.value = cell.isMissing := by
  cases cell <;> rfl

end GivenCell

theorem ofIntegers_eq_objects_iff {numbers : List Int} :
    Storage.ofIntegers numbers = .objects ↔
      (∃ n ∈ numbers, Word.fitsSigned n = false) ∧ ∃ n ∈ numbers, Word.fitsUnsigned n = false := by
  unfold Storage.ofIntegers
  split
  · simp_all
  · split <;> simp_all

variable {cells : List GivenCell}

structure GivenColumn where
  name : Text
  cells : List GivenCell

def GivenColumn.held (column : GivenColumn) : Column :=
  .inferred column.name (column.cells.map GivenCell.value)

section Columns

variable {name : Text} {display : Value → Traced Text}

end Columns

namespace GivenColumn

variable {column : GivenColumn}

end GivenColumn

variable {columns : List GivenColumn} {frame : Frame}

end Scoreboard
