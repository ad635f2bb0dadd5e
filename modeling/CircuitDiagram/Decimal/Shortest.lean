import CircuitDiagram.Decimal.Double

/-!
The fewest decimal digits that still name one binary number. A positive number `m · 2^q` is
the centre of the interval of reals that round to it; of the decimal grids with 1, 2, … 17
digits the first with a point in that interval gives the digits, and of two such points the
nearer one, the even one when both are equally near.
-/

namespace CircuitDiagram.Decimal

structure Digits where
  digits : Nat
  exponent : Int
  deriving DecidableEq, Repr

/-- Quarter units `quarters · 2 ^ (exponent - 2)` against the grid `10 ^ grid`, as the
numerator of a fraction over `gridWeight`. -/
def quarterWeight (exponent grid : Int) (quarters : Nat) : Nat :=
  quarters * twoTo (exponent - 2) * tenTo (-grid)

def gridWeight (exponent grid : Int) : Nat :=
  tenTo grid * twoTo (2 - exponent)

def leadingExponent (number : Binary) : Int :=
  let above := quarterWeight number.exponent 0 (4 * number.mantissa)
  let below := gridWeight number.exponent 0
  let guess := (Int.ofNat (Nat.toDigits 10 above).length) - (Nat.toDigits 10 below).length
  if above * tenTo (-guess) ≥ below * tenTo guess then guess else guess - 1

/-- Whether `point · 10 ^ grid` rounds to the number; the ends of the interval do so when the
mantissa is even. -/
def roundsTo (number : Binary) (grid : Int) (point : Nat) : Bool :=
  let weight := quarterWeight number.exponent grid
  let place := point * gridWeight number.exponent grid
  let low := weight (4 * number.mantissa - if number.tight then 1 else 2)
  let high := weight (4 * number.mantissa + 2)
  if number.mantissa % 2 = 0 then decide (low ≤ place ∧ place ≤ high)
  else decide (low < place ∧ place < high)

def pointOn (number : Binary) (grid : Int) : Option Nat :=
  let centre := quarterWeight number.exponent grid (4 * number.mantissa)
  let unit := gridWeight number.exponent grid
  let lower := centre / unit
  let toLower := centre - lower * unit
  let toUpper := (lower + 1) * unit - centre
  match roundsTo number grid lower, roundsTo number grid (lower + 1) with
  | false, false => none
  | true, false => some lower
  | false, true => some (lower + 1)
  | true, true =>
      if toLower < toUpper then some lower
      else if toUpper < toLower then some (lower + 1)
      else if lower % 2 = 0 then some lower else some (lower + 1)

def firstGrid (number : Binary) (leading : Int) : List Nat → Digits
  -- Seventeen digits are enough for every number, so this is not come to.
  | [] => ⟨number.mantissa, 0⟩
  | count :: rest =>
      let grid := leading - (Int.ofNat count) + 1
      match pointOn number grid with
      | some point => ⟨point, grid⟩
      | none => firstGrid number leading rest

def shortest (number : Binary) : Digits :=
  firstGrid number (leadingExponent number) ((List.range 17).map (· + 1))

/-- How a decimal is laid out: the exponents of the leading digit that are written by position,
from least to greatest. All others are written with an exponent and its sign. -/
structure Layout where
  least : Int
  greatest : Int

def layout (style : Layout) (number : Digits) : String :=
  let significant := (Nat.toDigits 10 number.digits).reverse.dropWhile (· == '0') |>.reverse
  let leading := number.exponent + (Nat.toDigits 10 number.digits).length - 1
  if style.least ≤ leading ∧ leading ≤ style.greatest then
    if leading < 0 then
      "0." ++ String.ofList (List.replicate (-leading - 1).toNat '0' ++ significant)
    else
      let whole := leading.toNat + 1
      let padded := significant ++ List.replicate (whole - significant.length) '0'
      let fraction := padded.drop whole
      String.ofList (padded.take whole) ++ "." ++
        if fraction.isEmpty then "0" else String.ofList fraction
  else
    let fraction := significant.drop 1
    String.ofList (significant.take 1) ++
      (if fraction.isEmpty then "" else "." ++ String.ofList fraction) ++
      "e" ++ (if leading < 0 then "-" else "+") ++ toString leading.natAbs

def write (style : Layout) : Double → String
  | .zero => "0.0"
  | .finite number => layout style (shortest number)
  | .infinite => "inf"

end CircuitDiagram.Decimal
