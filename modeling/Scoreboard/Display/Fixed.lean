import Scoreboard.Display.Locale
import Scoreboard.Quantity
import Scoreboard.Word

/-!
# Numbers with a fixed count of decimals

A number is rounded from its exact value, a half away from zero, and keeps its sign even where nothing
but zeros is left. Whole parts are grouped in threes. The text is first made with a comma and a point,
and the conventions of a locale then take the place of both at once.
-/

namespace Scoreboard

namespace Display

/-- Rounded numbers have at most this many digits. -/
def precision : Nat := 400

/-- Decimal exponents are no greater than this. -/
def exponentLimit : Nat := 999999

/-- The places by which a number can be shifted, to exponents that are kept or not. -/
def shiftLimit : Nat := 2 * (exponentLimit + precision)

/-- Whether there is a place to round to; one behind all exponents that are kept counts as the last. -/
def requirePlace (decimals : Int) : Except Fault Unit :=
  if shiftLimit < decimals.natAbs then .error .beyondPrecision
  else if decimals < -exponentLimit then .error .beyondExponent
  else .ok ()

/-- Commas between groups of three, in digits that start with the last one. -/
def groupedFromLast : Text → Text
  | a :: b :: c :: d :: rest => a :: b :: c :: ',' :: groupedFromLast (d :: rest)
  | digits => digits

def grouped (digits : Text) : Text := (groupedFromLast digits.reverse).reverse

def padded (width : Nat) (digits : Text) : Text :=
  List.replicate (width - digits.length) '0' ++ digits

/-- The text of `scaled / 10 ^ decimals`. -/
def unsignedText (scaled decimals : Nat) : Text :=
  grouped (.ofNat (scaled / 10 ^ decimals)) ++
    if decimals = 0 then []
    else '.' :: padded decimals (.ofNat (scaled % 10 ^ decimals))

/-- The text of `± num / den`, rounded to the decimals. -/
def ratioText (negative : Bool) (num den : Nat) (decimals : Int) : Except Fault Text := do
  requirePlace decimals
  if decimals < 0 then .error (.negativeDecimals true)
  else
    let scaled := roundHalfUp (num * 10 ^ decimals.toNat) den
    if 10 ^ precision ≤ scaled then .error .beyondPrecision
    else .ok (Binary64.signText negative ++ unsignedText scaled decimals.toNat)

/-- A number that is not finite can be asked for fewer decimals than this. -/
def widthLimit : Nat := 2147483648

/-- A number that is not finite has the same text for every count of decimals that is in the limits. -/
def wordText (word : Text) (decimals : Int) : Except Fault Text :=
  if decimals < 0 then .error (.negativeDecimals false)
  else if widthLimit ≤ decimals then .error (.tooManyDecimals (Word.fitsSigned decimals))
  else .ok word

/-- The text with a comma and a point. A whole number beyond the doubles has none. -/
def plainFixed (number : Quantity) (decimals : Int) : Except Fault Text :=
  match number with
  | .whole n => do
      let _ ← number.toBinary64
      ratioText (n < 0) n.natAbs 1 decimals
  | .real (.finite negative magnitude) =>
      ratioText negative magnitude.units unitsPerOne decimals
  | .real x => wordText x.text decimals

def substituted (separator point : Text) (text : Text) : Text :=
  text.flatMap fun c => if c = ',' then separator else if c = '.' then point else [c]

def required (part : String) : Option Text → Except Fault Text
  | some text => .ok text
  | none => .error (.missingConvention part.toList)

def fixed (locales : Locales) (name : Text) (number : Quantity) (decimals : Int) :
    Except Fault Text := do
  let some conventions := locales.find? name | .error (.unknownLocale name)
  let text ← plainFixed number decimals
  let separator ← required "thousands_sep" conventions.thousandsSeparator
  let point ← required "decimal_point" conventions.decimalPoint
  return substituted separator point text

def invariantFixed (x : Binary64) (decimals : Nat) : Except Fault Text :=
  fixed .known Locales.invariantName (.real x) decimals

end Display

end Scoreboard
