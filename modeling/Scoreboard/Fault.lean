import Scoreboard.Text.Quoted

/-!
# Faults

The reasons for which a computation has no result, each with its message and with the kind that callers
tell it by.
-/

namespace Scoreboard

/-- The integers of unlimited size have texts of this many digits at most. -/
def digitLimit : Nat := 4300

inductive Relation where
  | atLeast
  | atMost
  deriving DecidableEq, Repr

namespace Relation

def symbol : Relation → Text
  | atLeast => ">=".toList
  | atMost => "<=".toList

def name : Relation → Text
  | atLeast => "greater_equal".toList
  | atMost => "less_equal".toList

end Relation

/-- The kinds of faults that callers tell apart. -/
inductive FaultKind where
  | value
  | key
  | type
  /-- Arrays of types that an operation does not know. -/
  | arrayType
  | overflow
  /-- Decimal arithmetic was asked for what it cannot do. -/
  | decimalOperation
  /-- An exponent is beyond decimal arithmetic. -/
  | decimalOverflow
  deriving DecidableEq, Repr

def FaultKind.name : FaultKind → Text
  | value => "ValueError".toList
  | key => "KeyError".toList
  | type => "TypeError".toList
  | arrayType => "UFuncTypeError".toList
  | overflow => "OverflowError".toList
  | decimalOperation => "InvalidOperation".toList
  | decimalOverflow => "Overflow".toList

inductive Fault where
  | unknownLocale (name : Text)
  | missingConvention (part : Text)
  | missingColumn (name : Text)
  | beyondDouble
  /-- A rounded number has more digits than decimal arithmetic keeps, or a place it does not know. -/
  | beyondPrecision
  /-- The place to round to has a greater exponent than decimal arithmetic keeps. -/
  | beyondExponent
  /-- More decimals than a number that is not finite can be asked for, in a machine word or not. -/
  | tooManyDecimals (fits : Bool)
  /-- A negative number of decimals, asked of a finite number or not. -/
  | negativeDecimals (finite : Bool)
  | unwritableInteger
  | unreadableInteger (digits : Nat)
  | noInteger (quoted : Text)
  | noIntegerKind (kind : Text)
  | integerFromNaN
  | integerFromInfinity
  | integerFromDecimalNaN
  | integerFromDecimalInfinity
  | noReal (quoted : Text)
  | noRealKind (kind : Text)
  /-- A fraction is beyond all doubles. -/
  | quotientBeyondDouble
  /-- A signaling decimal `NaN` was to be a double. -/
  | realFromSignalingNaN
  | incomparable (relation : Relation) (left right : Text)
  | incomparableArrays (relation : Relation) (left right : Text)
  /-- An array that has to be true or false holds no item, or several. -/
  | ambiguousArray (empty : Bool)
  | ambiguousMissing
  /-- A decimal number was compared with a whole number of an array on its right. -/
  | decimalBesideWord
  | beyondWord
  /-- A decimal `NaN` was ordered, or a signaling one compared at all. -/
  | unorderedDecimal
  /-- A column of whole numbers was given a number that is none. -/
  | fractionalCell
  | unsuitedCell (kind : Text)
  | unsuitedFlag
  | negativeContribution
  | negativeTiles
  | solvedExceedsTotal (solved total : Text)
  deriving DecidableEq, Repr

namespace Fault

def digitLimitText : Text :=
  "Exceeds the limit (".toList ++ Text.ofNat digitLimit ++
    " digits) for integer string conversion".toList

def digitAdvice : Text :=
  "; use sys.set_int_max_str_digits() to increase the limit".toList

def invalidOperation : Text := "[<class 'decimal.InvalidOperation'>]".toList

def arrayClass (kind : Text) : Text := "<class 'numpy.dtypes.".toList ++ kind ++ "'>".toList

def kind : Fault → FaultKind
  | unknownLocale _ | missingConvention _ | missingColumn _ => .key
  | beyondDouble | quotientBeyondDouble | beyondWord => .overflow
  | integerFromInfinity | integerFromDecimalInfinity => .overflow
  | beyondPrecision | unorderedDecimal => .decimalOperation
  | beyondExponent => .decimalOverflow
  | noIntegerKind _ | noRealKind _ | incomparable _ _ _ | ambiguousMissing | decimalBesideWord
  | fractionalCell | unsuitedCell _ | unsuitedFlag => .type
  | incomparableArrays _ _ _ => .arrayType
  | tooManyDecimals _ | negativeDecimals _ => .value
  | unwritableInteger | unreadableInteger _ | noInteger _ | noReal _ => .value
  | integerFromNaN | integerFromDecimalNaN | realFromSignalingNaN => .value
  | ambiguousArray _ => .value
  | negativeContribution | negativeTiles | solvedExceedsTotal _ _ => .value

/-- The faults of conversions of one value to a number or to a text. -/
def isConversion : Fault → Bool
  | beyondDouble | quotientBeyondDouble | noReal _ | noRealKind _ | realFromSignalingNaN => true
  | noInteger _ | noIntegerKind _ | unreadableInteger _ | unwritableInteger => true
  | integerFromNaN | integerFromInfinity => true
  | integerFromDecimalNaN | integerFromDecimalInfinity => true
  | _ => false

def message : Fault → Text
  | unknownLocale name => name.quoted
  | missingConvention part => part.quoted
  | missingColumn name => name.quoted
  | beyondDouble => "int too large to convert to float".toList
  | beyondPrecision => invalidOperation
  | beyondExponent => "[<class 'decimal.Overflow'>]".toList
  | tooManyDecimals true => "precision too big".toList
  | tooManyDecimals false => "Too many decimal digits in format string".toList
  | negativeDecimals true => "invalid format string".toList
  | negativeDecimals false => "Format specifier missing precision".toList
  | unwritableInteger => digitLimitText ++ digitAdvice
  | unreadableInteger digits =>
      digitLimitText ++ ": value has ".toList ++ Text.ofNat digits ++ " digits".toList ++ digitAdvice
  | noInteger quoted => "invalid literal for int() with base 10: ".toList ++ quoted.take 200
  | noIntegerKind kind =>
      "int() argument must be a string, a bytes-like object or a real number, not '".toList ++
        kind ++ ['\'']
  | integerFromNaN => "cannot convert float NaN to integer".toList
  | integerFromInfinity => "cannot convert float infinity to integer".toList
  | integerFromDecimalNaN => "cannot convert NaN to integer".toList
  | integerFromDecimalInfinity => "cannot convert Infinity to integer".toList
  | noReal quoted => "could not convert string to float: ".toList ++ quoted
  | noRealKind kind =>
      "float() argument must be a string or a real number, not '".toList ++ kind ++ ['\'']
  | quotientBeyondDouble => "integer division result too large for a float".toList
  | realFromSignalingNaN => "cannot convert signaling NaN to float".toList
  | incomparable relation left right =>
      '\'' :: relation.symbol ++ "' not supported between instances of '".toList ++ left ++
        "' and '".toList ++ right ++ ['\'']
  | incomparableArrays relation left right =>
      "ufunc '".toList ++ relation.name ++
        "' did not contain a loop with signature matching types (".toList ++ arrayClass left ++
        ", ".toList ++ arrayClass right ++ ") -> None".toList
  | ambiguousArray true =>
      "The truth value of an empty array is ambiguous. Use `array.size > 0` to check that ".toList ++
        "an array is not empty.".toList
  | ambiguousArray false =>
      "The truth value of an array with more than one element is ambiguous. ".toList ++
        "Use a.any() or a.all()".toList
  | ambiguousMissing => "boolean value of NA is ambiguous".toList
  | decimalBesideWord => "argument must be an integer".toList
  | beyondWord => "Python int too large to convert to C long".toList
  | unorderedDecimal => invalidOperation
  | fractionalCell => "cannot safely cast non-equivalent object to int64".toList
  | unsuitedCell kind => "object cannot be converted to ".toList ++ kind
  | unsuitedFlag => "Need to pass bool-like values".toList
  | negativeContribution => "Contribution counts cannot be negative".toList
  | negativeTiles => "Tile counts cannot be negative".toList
  | solvedExceedsTotal solved total =>
      "Solved tiles (".toList ++ solved ++ ") exceed total tiles (".toList ++ total ++ [')']

/-- These are the kinds that coercion catches, so that no conversion inside of it fails. -/
theorem kind_of_isConversion {fault : Fault} (h : fault.isConversion = true) :
    fault.kind = .type ∨ fault.kind = .value ∨ fault.kind = .overflow := by
  cases fault <;> simp_all [isConversion, kind]

end Fault

end Scoreboard
