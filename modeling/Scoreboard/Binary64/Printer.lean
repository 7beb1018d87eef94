import Scoreboard.Binary64.Shortest

/-!
# Texts of numbers

Numbers from `10 ^ -4` up to below `10 ^ 16`, in single precision up to below `10 ^ 6`, and zero, are
written positionally; all others with one digit before the point and a signed exponent of two digits at
least. A whole number keeps `.0` in a free-standing positional text and loses it as a part of a complex
number.
-/

namespace Scoreboard.Binary64

def withoutTrailingZeros (digits : Text) : Text :=
  (digits.reverse.dropWhile (· = '0')).reverse

/-- Digits with the point behind the first `position` of them, zeros filled in on both sides. -/
def positional (digits : Text) (position : Int) (wholeMark : Text) : Text :=
  if position ≤ 0 then '0' :: '.' :: List.replicate (-position).toNat '0' ++ digits
  else if digits.length ≤ position.toNat then
    digits ++ List.replicate (position.toNat - digits.length) '0' ++ wholeMark
  else digits.take position.toNat ++ '.' :: digits.drop position.toNat

def exponentText (exponent : Int) : Text :=
  let digits := Text.ofNat exponent.natAbs
  (if exponent < 0 then '-' else '+') :: (if digits.length < 2 then '0' :: digits else digits)

def exponential (digits : Text) (exponent : Int) : Text :=
  let significand :=
    match digits with
    | [] => ['0']
    | [d] => [d]
    | d :: rest => d :: '.' :: rest
  significand ++ 'e' :: exponentText exponent

/-- The places behind the point down to which a text is positional. -/
def positionalDepth : Nat := 4

/-- The digits before the point up to which a text is positional. -/
def positionalWidth : Nat := 16

def singlePositionalWidth : Nat := 6

def isPositional (width units : Nat) : Bool :=
  unitsPerOne ≤ units * 10 ^ positionalDepth && units < 10 ^ width * unitsPerOne

def pointText (point : DecimalPoint) (width units : Nat) (wholeMark : Text) : Text :=
  let written := Text.ofNat point.coefficient
  let position := written.length + point.exponent
  let digits := withoutTrailingZeros written
  if isPositional width units then positional digits position wholeMark
  else exponential digits (position - 1)

def signText (negative : Bool) : Text := if negative then ['-'] else []

/-- The text of a number, with the shortest decimal and the positional width of its precision. -/
def textWith (shortest : Magnitude → DecimalPoint) (width : Nat) (wholeMark : Text) :
    Binary64 → Text
  | .nan => "nan".toList
  | .infinite negative => signText negative ++ "inf".toList
  | .finite negative magnitude =>
      signText negative ++
        if magnitude.units = 0 then '0' :: wholeMark
        else pointText (shortest magnitude) width magnitude.units wholeMark

def text (x : Binary64) : Text := textWith shortest positionalWidth ['.', '0'] x

def singleText (x : Binary64) : Text :=
  textWith shortestSingle singlePositionalWidth ['.', '0'] x

def partText (x : Binary64) : Text := textWith shortest positionalWidth [] x

/-- A positive zero is no real part worth a sum. -/
def complexText (re im : Binary64) : Text :=
  if re = zero then partText im ++ ['j']
  else
    let sign := match partText im with
      | '-' :: _ => []
      | _ => ['+']
    '(' :: partText re ++ sign ++ partText im ++ ['j', ')']

end Scoreboard.Binary64
