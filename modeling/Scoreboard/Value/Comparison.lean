import Scoreboard.Value.Entry
import Scoreboard.Word

/-!
# Comparison of values

Texts and byte strings are compared character by character, numbers by their order, and sequences of one
kind by the first items that are not equal, else by their lengths. A number of an array is compared with
a sequence as with an array, which has to come down to one answer. A whole number of an array stays in its
machine word beside a fraction on its left, and is refused by a decimal number there. Values of all other
kinds, or of kinds that do not match, have no order.
-/

namespace Scoreboard

/-- A number that stands in no order to another has neither relation to it. -/
def Relation.holds (relation : Relation) : Option Ordering → Bool
  | none => false
  | some ordering =>
      match relation with
      | .atLeast => ordering.isGE
      | .atMost => ordering.isLE

def Scalar.arrayKind : Scalar → Text
  | .bool _ => "BoolDType".toList
  | .int64 _ => "Int64DType".toList
  | .double _ => "Float64DType".toList
  | .single _ => "Float32DType".toList

/-- The name of the kind of number itself, beside values that take no array. -/
def Scalar.className : Scalar → Text
  | .bool _ => "numpy.bool".toList
  | .int64 _ => "numpy.int64".toList
  | .double _ => "numpy.float64".toList
  | .single _ => "numpy.float32".toList

namespace Value

/-- Numbers with an order of their own. -/
def isReal : Value → Bool
  | .complex _ _ => false
  | value => value.isNumeric

def isDecimal : Value → Bool
  | .decimal _ => true
  | _ => false

/-- Values whose relations to a missing value of a column are missing as well. -/
def meetsMissing : Value → Bool
  | .text _ | .bytes _ | .missing .notAvailable => true
  | value => value.isNumeric

/-- Whether the relation of two values is a missing value itself. -/
def isUnknown (a b : Value) : Bool :=
  match a, b with
  | .missing .notAvailable, other | other, .missing .notAvailable => other.meetsMissing
  | _, _ => false

/-! ## Equality -/

mutual

/-- Whether two values are equal. -/
def equals : Value → Value → Except Fault Bool
  | .text s, .text t => .ok (s == t)
  | .bytes s, .bytes t => .ok (s == t)
  | .missing m, .missing n => .ok (m == n)
  | .object a, .object b => .ok (a == b)
  | .sequence .list xs, .sequence .list ys | .sequence .tuple xs, .sequence .tuple ys =>
      if xs.length = ys.length then equalItems xs ys else .ok false
  | .mapping entries, .mapping others =>
      if entries.length = others.length then equalEntries entries others else .ok false
  | .decimal _, .scalar (.int64 _) => .error .decimalBesideWord
  | a, b =>
      if isUnknown a b then .error .ambiguousMissing
      else if a.isNumeric && b.isNumeric then
        if a.isSignaling || b.isSignaling then .error .unorderedDecimal
        else do return (← compareNumbers a b) == some .eq
      else .ok false

def equalItems : List Value → List Value → Except Fault Bool
  | x :: xs, y :: ys => do if ← equals x y then equalItems xs ys else return false
  | _, _ => .ok true

/-- Whether all entries of one mapping stand in another one. -/
def equalEntries : List (Value × Value) → List (Value × Value) → Except Fault Bool
  | [], _ => .ok true
  | (key, value) :: rest, others =>
      match entry? others key with
      | none => .ok false
      | some other => do if ← equals value other then equalEntries rest others else return false

end

/-! ## Order -/

/-- Whether two numbers stand in the relation, which the decimal ones refuse beside a `nan`. -/
def numbersRelate (relation : Relation) (a b : Value) : Except Fault Bool := do
  if (a.isDecimal || b.isDecimal) && (a.isMissing || b.isMissing) then .error .unorderedDecimal
  return relation.holds (← compareNumbers a b)

/-- Whether a fraction is at least a machine word, which is multiplied by its denominator in words. -/
def fractionAtLeastWord (q : Rat) (n : Int) : Except Fault Bool :=
  if Word.fitsSigned q.den then .ok (Word.wrapSigned (q.den * n) ≤ q.num) else .error .beyondWord

mutual

/-- Whether a number of an array stands in the relation to a value. -/
def arrayRelates (relation : Relation) (s : Scalar) : Value → Except Fault Bool
  | .text _ => .error (.incomparableArrays relation s.arrayKind "StrDType".toList)
  | .bytes _ => .error (.incomparableArrays relation s.arrayKind "BytesDType".toList)
  | .missing .notAvailable => .error .ambiguousMissing
  | .sequence _ items => arrayRelatesTo relation s items
  | value =>
      if value.isNumeric then numbersRelate relation (.scalar s) value
      else .error (.incomparable relation (Value.scalar s).kindName value.kindName)

/-- Whether a number of an array stands in the relation to the one item there is. -/
def arrayRelatesTo (relation : Relation) (s : Scalar) : List Value → Except Fault Bool
  | [] => .error (.ambiguousArray true)
  | [item] => arrayRelates relation s item
  | _ :: _ :: _ => .error (.ambiguousArray false)

end

mutual

def atLeast : Value → Value → Except Fault Bool
  | .text s, .text t => .ok (t.le s)
  | .bytes s, .bytes t => .ok ((byteChars t).le (byteChars s))
  | .sequence .list xs, .sequence .list ys | .sequence .tuple xs, .sequence .tuple ys =>
      itemsAtLeast xs ys
  | .decimal _, .scalar (.int64 _) => .error .decimalBesideWord
  | .fraction q, .scalar (.int64 n) => fractionAtLeastWord q n
  | .scalar s, .missing .notATime =>
      .error (.incomparable .atLeast s.className (Value.missing .notATime).kindName)
  | .missing .notATime, .scalar s =>
      .error (.incomparable .atLeast (Value.missing .notATime).kindName s.className)
  | .scalar s, b => arrayRelates .atLeast s b
  | a, .scalar s => arrayRelates .atMost s a
  | a, b =>
      if isUnknown a b then .error .ambiguousMissing
      else if a.isReal && b.isReal then numbersRelate .atLeast a b
      else .error (.incomparable .atLeast a.kindName b.kindName)

/-- Whether the first items that are not equal are in order, or the first list is no shorter. -/
def itemsAtLeast : List Value → List Value → Except Fault Bool
  | _, [] => .ok true
  | [], _ :: _ => .ok false
  | x :: xs, y :: ys => do if ← equals x y then itemsAtLeast xs ys else atLeast x y

end

/-- Values of a kind with an order are at least themselves. -/
def hasOrder : Value → Bool
  | .complex _ _ | .mapping _ | .object _ => false
  | _ => true

def requireOrder (value : Value) : Except Fault Unit :=
  if value.hasOrder then .ok ()
  else .error (.incomparable .atLeast value.kindName value.kindName)

/--
The greatest so far after one more cell, where `none` is the first value itself: the earlier of equal ones
stays. A missing cell counts as the first value, which has to be in order with itself.
-/
def greaterCell (first : Value) (top : Option Value) (cell : Value) :
    Except Fault (Option Value) := do
  match top, cell.isMissing with
  | none, true => first.requireOrder; return none
  | some value, true => return if ← value.atLeast first then some value else none
  | none, false => return if ← first.atLeast cell then none else some cell
  | some value, false => return some (if ← value.atLeast cell then value else cell)

end Value

end Scoreboard
