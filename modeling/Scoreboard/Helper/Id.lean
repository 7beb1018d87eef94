import Scoreboard.Value.Printer

/-!
# Helper ids

A helper goes by a name, a number, a truth value, or nothing at all. Truth values are the numbers zero
and one under another spelling, so two ids may differ and still stand for one helper.
-/

namespace Scoreboard

inductive HelperId where
  | name (text : Text)
  | number (n : Int)
  | flag (value : Bool)
  | none
  deriving DecidableEq, Repr

namespace HelperId

/-- The helper that an id stands for, as the id with its truth values read as numbers. -/
def identity : HelperId → HelperId
  | flag value => number value.toNat
  | id => id

def toValue : HelperId → Value
  | name text => .text text
  | number n => .int n
  | flag value => .bool value
  | none => .missing .none

def text (id : HelperId) : Except Fault Text := id.toValue.plainText

theorem identity_identity (id : HelperId) : id.identity.identity = id.identity := by
  cases id <;> rfl

end HelperId

end Scoreboard
