import CircuitDiagram.Decimal.Double

/-!
Decimals with a fixed number of places or digits. A magnitude is rounded to a power of ten from
its exact value, ties to the even digit.
-/

namespace CircuitDiagram.Decimal

def Double.fraction? : Double → Option (Nat × Nat)
  | zero => some (0, 1)
  | finite number => some (fraction number)
  | infinite => none

def unitsOf (numerator denominator : Nat) (exponent : Int) : Nat :=
  divideToEven (numerator * tenTo (-exponent)) (denominator * tenTo exponent)

def leadingPlace (numerator denominator : Nat) : Int :=
  let guess :=
    (Int.ofNat (Nat.toDigits 10 numerator).length) - (Nat.toDigits 10 denominator).length
  if numerator * tenTo (-guess) < denominator * tenTo guess then guess - 1 else guess

def zeros (count : Nat) : String :=
  String.ofList (List.replicate count '0')

def digitsOf (width number : Nat) : String :=
  let digits := String.ofList (Nat.toDigits 10 number)
  zeros (width - digits.length) ++ digits

def fixed (places : Nat) (numerator denominator : Nat) : String :=
  let digits := digitsOf (places + 1) (unitsOf numerator denominator (-(places : Int)))
  let whole := digits.length - places
  let text := String.ofList (digits.toList.take whole)
  if places = 0 then text else text ++ "." ++ String.ofList (digits.toList.drop whole)

/-- The leading digit with so many others, as a whole number, and its exponent. -/
def scientific (places : Nat) (numerator denominator : Nat) : Nat × Int :=
  if numerator = 0 then (0, 0)
  else
    let exponent := leadingPlace numerator denominator
    let units := unitsOf numerator denominator (exponent - places)
    if units = tenTo (places + 1) then (tenTo places, exponent + 1) else (units, exponent)

/-- An exponent behind its letter, with a sign and two digits at least. -/
def exponentText (letter : Char) (exponent : Int) : String :=
  letter.toString ++ (if exponent < 0 then "-" else "+") ++ digitsOf 2 exponent.natAbs

def withPoint (places : Nat) (digits : String) : String :=
  let lead := String.ofList (digits.toList.take 1)
  if places = 0 then lead else lead ++ "." ++ String.ofList (digits.toList.drop 1)

/-- The text of a fraction with so many places behind the leading digit, and an exponent. -/
def exponential (places : Nat) (numerator denominator : Nat) : String :=
  let (digits, exponent) := scientific places numerator denominator
  withPoint places (digitsOf (places + 1) digits) ++ exponentText 'e' exponent

def withoutTrailingZeros (text : String) : String :=
  if text.toList.contains '.' then
    let short := text.toList.reverse.dropWhile (· == '0')
    String.ofList ((if short.head? == some '.' then short.drop 1 else short).reverse)
  else text

/-- The text of a fraction with so many digits, by position unless that takes too many zeros. -/
def general (digits : Nat) (numerator denominator : Nat) (keepsZeros : Bool) : String :=
  let count := if digits = 0 then 1 else digits
  let (found, exponent) := scientific (count - 1) numerator denominator
  let shorten (text : String) : String := if keepsZeros then text else withoutTrailingZeros text
  if exponent < -4 || (count : Int) ≤ exponent then
    shorten (withPoint (count - 1) (digitsOf count found)) ++ exponentText 'e' exponent
  else shorten (fixed ((count : Int) - 1 - exponent).toNat numerator denominator)

end CircuitDiagram.Decimal
