import Scoreboard.Journal
import Scoreboard.Value.Double

/-!
# Values as numbers

Every value stands for a double, `nan` if for no other. Texts follow the grammar of numeric literals,
a sequence stands for its only item, and all other values are rounded from their exact number. A value
that stands for no number leaves an event behind; one that is `nan` itself does not.
-/

namespace Scoreboard

def infinity? (text : Text) : Option Binary64 :=
  if text = "Infinity".toList ∨ text = "+Infinity".toList then some (.infinite false)
  else if text = "-Infinity".toList then some (.infinite true)
  else none

/--
The number a text stands for. White space around it does not count, and nothing but white space stands
for zero. A radix literal beyond the doubles has no answer at all, unlike a decimal one.
-/
def readNumber (text : Text) : Except Fault Binary64 :=
  let body := text.trimmed
  if body = [] then .ok .zero
  else
    match infinity? body, readRadixLiteral? body, Literal.read? decimalValue? body with
    | some x, _, _ => .ok x
    | none, some n, _ => (Binary64.ofInt? n).elim (.error .beyondDouble) .ok
    | none, none, some literal => .ok literal.toBinary64
    | none, none, none => .ok .nan

namespace Value

/-- Leaves an event behind if the number that was found for the value is `nan`. -/
def reported (value : Value) (x : Binary64) : Traced Binary64 := do
  if x = .nan then Traced.note (.uncoerced value)
  return x

mutual

def toNumber : Value → Traced Binary64
  | .text content => do reported (.text content) (← readNumber content)
  | .sequence kind items => do reported (.sequence kind items) (← soleNumber items)
  | value =>
      match value.nearestDouble? with
      | some x => pure x
      | none => reported value .nan

/--
The number a sequence of these items stands for: none for several items, zero for none. An item that is
no text and no sequence counts by its plain text.
-/
def soleNumber : List Value → Traced Binary64
  | [] => pure .zero
  | [item] =>
      match item with
      | .missing .none => pure .zero
      | .text content => toNumber (.text content)
      | .sequence kind items => toNumber (.sequence kind items)
      | other => do readNumber (← other.plainText)
  | _ :: _ :: _ => pure .nan

end

/-- Absent values, the empty text, and numbers that count as zero or as `nan`. -/
def isFalsy (value : Value) : Traced Bool := do
  if value.isAbsent then return true
  match value with
  | .text content => return content.isEmpty
  | _ =>
      if value.isNumeric then
        let x ← value.toNumber
        return x.isZero || x.isNaN
      else return false

end Value

end Scoreboard
