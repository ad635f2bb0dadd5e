/-!
Magnitudes of double precision, in whole-number arithmetic. `nearest` rounds a fraction to the
nearest magnitude, ties to the even mantissa; products and quotients are rounded from their
exact values.
-/

namespace CircuitDiagram.Decimal

def twoTo (exponent : Int) : Nat :=
  Nat.pow 2 exponent.toNat

def tenTo (exponent : Int) : Nat :=
  Nat.pow 10 exponent.toNat

/-- A positive binary number `mantissa · 2 ^ exponent`. `tight` marks the numbers whose lower
neighbour is only half as far away as the upper one. -/
structure Binary where
  mantissa : Nat
  exponent : Int
  tight : Bool
  deriving DecidableEq, Repr

inductive Double where
  | zero
  | finite (number : Binary)
  | infinite
  deriving DecidableEq, Repr

def divideToEven (numerator denominator : Nat) : Nat :=
  let quotient := numerator / denominator
  let twice := 2 * (numerator % denominator)
  if twice < denominator then quotient
  else if denominator < twice then quotient + 1
  else if quotient % 2 = 0 then quotient else quotient + 1

namespace Double

def leastExponent : Int := -1074
def greatestExponent : Int := 971

/-- The magnitude `mantissa · 2 ^ exponent` of a mantissa of at most 53 bits. -/
def ofMantissa (mantissa : Nat) (exponent : Int) : Double :=
  if mantissa = 0 then zero
  else if greatestExponent < exponent then infinite
  else finite ⟨mantissa, exponent, decide (mantissa = twoTo 52 ∧ leastExponent < exponent)⟩

def leadingExponent (numerator denominator : Nat) : Int :=
  let guess := (Int.ofNat numerator.log2) - denominator.log2
  -- The two logarithms leave this much open.
  if denominator * twoTo guess ≤ numerator * twoTo (-guess) then guess else guess - 1

def nearest (numerator denominator : Nat) : Double :=
  if numerator = 0 then zero
  else
    let exponent := max (leadingExponent numerator denominator - 52) leastExponent
    let mantissa := divideToEven (numerator * twoTo (-exponent)) (denominator * twoTo exponent)
    -- Rounding up may carry into a bit more than there is room for.
    if mantissa = twoTo 53 then ofMantissa (twoTo 52) (exponent + 1)
    else ofMantissa mantissa exponent

def fraction (number : Binary) : Nat × Nat :=
  (number.mantissa * twoTo number.exponent, twoTo (-number.exponent))

def ofNat (number : Nat) : Double :=
  nearest number 1

def times (left : Double) (factor : Nat) : Double :=
  match left, ofNat factor with
  | zero, _ => zero
  | finite left, finite right =>
      nearest ((fraction left).1 * (fraction right).1) ((fraction left).2 * (fraction right).2)
  | _, _ => infinite

def dividedBy (left : Double) (divisor : Nat) : Double :=
  match left, ofNat divisor with
  | finite left, finite right =>
      nearest ((fraction left).1 * (fraction right).2) ((fraction left).2 * (fraction right).1)
  | infinite, _ => infinite
  | _, _ => zero

end Double

end CircuitDiagram.Decimal
