import Scoreboard.Numeral.Decimal

/-!
# Values

What a dashboard is handed to show: numbers of several kinds, texts, markers of missing data, and
whatever else a data source puts in a cell. Sequences and mappings nest.
-/

namespace Scoreboard

/-- Markers of missing data: no value at all, a missing value of a column, a missing point in time. -/
inductive Missing where
  | none
  | notAvailable
  | notATime
  deriving DecidableEq, Repr

inductive SequenceKind where
  | list
  | tuple
  deriving DecidableEq, Repr

/-- Numbers as arrays of machine words hold them. -/
inductive Scalar where
  | bool (flag : Bool)
  | int64 (n : Int)
  | double (x : Binary64)
  | single (x : Binary64)
  deriving DecidableEq, Repr

inductive Value where
  | missing (marker : Missing)
  | bool (flag : Bool)
  | int (n : Int)
  | float (x : Binary64)
  | decimal (d : Decimal)
  | fraction (q : Rat)
  | complex (re im : Binary64)
  | scalar (s : Scalar)
  | text (content : Text)
  | bytes (content : List UInt8)
  | sequence (kind : SequenceKind) (items : List Value)
  | mapping (entries : List (Value × Value))
  /-- A plain object, which is told by its address alone. -/
  | object (address : Nat := 0)
  deriving Repr

namespace Value

instance : Inhabited Value := ⟨.missing .none⟩

def isAbsent : Value → Bool
  | .missing _ => true
  | _ => false

/-- Missing values and every number that is `NaN`. -/
def isMissing : Value → Bool
  | .missing _ => true
  | .float x | .scalar (.double x) | .scalar (.single x) => x.isNaN
  | .decimal (.nan _ _ _) => true
  | .complex re im => re.isNaN || im.isNaN
  | _ => false

/-- Numbers, truth values among them; a sequence or a byte string is none. -/
def isNumeric : Value → Bool
  | .bool _ | .int _ | .float _ | .decimal _ | .fraction _ | .complex _ _ | .scalar _ => true
  | _ => false

/-- A decimal `NaN` that may not even be asked whether it is missing. -/
def isSignaling : Value → Bool
  | .decimal (.nan signaling _ _) => signaling
  | _ => false

/-- The name that messages give to a kind of value; a number of an array goes by its plain kind. -/
def kindName : Value → Text
  | .missing .none => "NoneType".toList
  | .missing .notAvailable => "NAType".toList
  | .missing .notATime => "NaTType".toList
  | .bool _ | .scalar (.bool _) => "bool".toList
  | .int _ | .scalar (.int64 _) => "int".toList
  | .float _ | .scalar (.double _) | .scalar (.single _) => "float".toList
  | .decimal _ => "decimal.Decimal".toList
  | .fraction _ => "Fraction".toList
  | .complex _ _ => "complex".toList
  | .text _ => "str".toList
  | .bytes _ => "bytes".toList
  | .sequence .list _ => "list".toList
  | .sequence .tuple _ => "tuple".toList
  | .mapping _ => "dict".toList
  | .object _ => "object".toList

end Value

end Scoreboard
