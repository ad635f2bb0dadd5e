import CircuitDiagram.Machine.Shell.Format
import CircuitDiagram.Machine.Shell.Regex
import CircuitDiagram.Machine.Shell.Tool.Desk

/-!
Tools for numbers: rows of numbers with a step, and expressions whose words are operands and
operators.
-/

namespace CircuitDiagram.Shell.Tool

open Chore

/-- A decimal number: its digits as a whole number, and how many of them are behind the point. -/
structure Fixed where
  digits : Int
  places : Nat

namespace Fixed

def read? (text : String) : Option Fixed :=
  let characters := text.toList.dropWhile Char.isWhitespace
  let (negative, bare) :=
    match characters with
    | '-' :: rest => (true, rest)
    | '+' :: rest => (false, rest)
    | _ => (false, characters)
  match fractionDigits 10 bare with
  | none => none
  | some (digits, places, rest) =>
      let (exponent, others) := exponentIn 'e' rest
      if !others.isEmpty then none
      else
        let sign : Int := if negative then -1 else 1
        let shift := (places : Int) - exponent
        if shift < 0 then some ⟨sign * ((digits * Decimal.tenTo (-shift) : Nat) : Int), 0⟩
        else some ⟨sign * (digits : Int), shift.toNat⟩

/-- The same number with more places, as a whole number of their unit. -/
def inUnits (number : Fixed) (places : Nat) : Int :=
  number.digits * ((Decimal.tenTo ((places - number.places : Nat) : Int) : Nat) : Int)

end Fixed

def unitsText (places : Nat) (units : Int) : String :=
  let digits := Decimal.digitsOf (places + 1) units.natAbs
  let whole := digits.length - places
  (if units < 0 then "-" else "") ++ String.ofList (digits.toList.take whole) ++
    if places = 0 then "" else "." ++ String.ofList (digits.toList.drop whole)

def zeroedText (width : Nat) (text : String) : String :=
  let missing := Decimal.zeros (width - text.length)
  match text.toList with
  | '-' :: digits => "-" ++ missing ++ String.ofList digits
  | _ => missing ++ text

/-- Numbers from `current` on by `step` up to `last`; `fuel` bounds how many. -/
def rowOf (step last : Int) : (fuel : Nat) → Int → List Int
  | 0, _ => []
  | fuel + 1, current =>
      if (0 < step && last < current) || (step < 0 && current < last) then []
      else current :: rowOf step last fuel (current + step)

def isNegativeNumber (word : String) : Bool :=
  match word.toList with
  | '-' :: next :: _ => next.isDigit || next == '.'
  | _ => false

def seqWords : List String → List String × List String
  | [] => ([], [])
  | "--" :: rest => ([], rest)
  | "-f" :: value :: rest =>
      let (options, operands) := seqWords rest
      ("-f" :: value :: options, operands)
  | "-s" :: value :: rest =>
      let (options, operands) := seqWords rest
      ("-s" :: value :: options, operands)
  | word :: rest =>
      if word.startsWith "-" && !isNegativeNumber word then
        let (options, operands) := seqWords rest
        (word :: options, operands)
      else ([], word :: rest)

def seq : Tool := fun arguments => do
  let usage := usageOf "seq" 1 "f:s:w" [('f', "format"), ('s', "separator"), ('w', "equal-width")]
  let (options, operands) := seqWords arguments
  let given ← usage.read options
  let number (text : String) : Chore Fixed := do
    match Fixed.read? text with
    | some found => return found
    | none => usage.refuse ("invalid floating point argument: '" ++ text ++ "'")
  let (first, step, last) ← match operands with
    | [] => usage.refuse "missing operand"
    | [last] => do pure (⟨1, 0⟩, ⟨1, 0⟩, ← number last)
    | [first, last] => do pure (← number first, ⟨1, 0⟩, ← number last)
    | [first, step, last] => do pure (← number first, ← number step, ← number last)
    | _ :: _ :: _ :: extra :: _ => usage.refuse ("extra operand '" ++ extra ++ "'")
  if step.digits = 0 then
    usage.refuse ("invalid Zero increment value: '" ++ (operands.drop 1).headD "" ++ "'")
  else
    let shown := if first.places < step.places then step.places else first.places
    let places := if shown < last.places then last.places else shown
    let beyond : Int := (Decimal.tenTo ((places - shown : Nat) : Int) : Nat)
    let row := rowOf (step.inUnits places) (last.inUnits places) endlessLength (first.inUnits places)
    let plain := row.map fun units => unitsText shown (units / beyond)
    let width := ([unitsText shown (first.inUnits shown),
        unitsText shown (last.inUnits places / beyond)].map String.length).foldl
      (fun widest length => if widest < length then length else widest) 0
    let texts :=
      match given.value? 'f' with
      | some format => plain.map fun text => String.ofList (formatted format [text]).text.reverse
      | none => if given.has 'w' then plain.map (zeroedText width) else plain
    if !texts.isEmpty then
      printLine (String.intercalate ((given.value? 's').getD "\n") texts)
    finish

abbrev Reckoned := Except String (String × List String)

def asInteger? (text : String) : Option Int :=
  let (negative, digits) :=
    match text.toList with
    | '-' :: rest => (true, rest)
    | characters => (false, characters)
  if digits.isEmpty || !digits.all Char.isDigit then none
  else
    let value : Int := (Arithmetic.digitsValue 10 digits : Nat)
    some (if negative then -value else value)

def isNull (text : String) : Bool :=
  text.isEmpty || asInteger? text == some 0

def truthText (holds : Bool) : String :=
  if holds then "1" else "0"

/-- What two values compare to: as numbers if both are, else as texts. -/
def compareValues (operator left right : String) : String :=
  let order := match asInteger? left, asInteger? right with
    | some first, some second => compare first second
    | _, _ => compare left right
  truthText (match operator with
    | "<" => order == .lt
    | "<=" => order != .gt
    | ">" => order == .gt
    | ">=" => order != .lt
    | "!=" => order != .eq
    | _ => order == .eq)

def calculateValues (operator left right : String) : Except String String :=
  match asInteger? left, asInteger? right with
  | some first, some second =>
      match operator with
      | "+" => .ok (toString (first + second))
      | "-" => .ok (toString (first - second))
      | "*" => .ok (toString (first * second))
      | _ =>
          if second = 0 then .error "division by zero"
          else if operator == "/" then .ok (toString (Int.tdiv first second))
          else .ok (toString (Int.tmod first second))
  | _, _ => .error "non-integer argument"

/-- What a pattern finds at the beginning of a text: its first group, or how long the match is. -/
def matchValue (text wanted : String) : Except String String := do
  let regex ← Regex.parse .basic wanted
  let spot := Regex.spotAt text
  let hasGroup := 0 < regex.groupCount
  match Regex.longest (Regex.matchesFrom ⟨false⟩ regex spot) with
  | some stop =>
      let found : Regex.Found := ⟨spot, stop⟩
      return if hasGroup then String.ofList (found.group 1) else toString found.text.length
  | none => return if hasGroup then "" else "0"

/-- The place of the first of some characters in a text, counted from one. -/
def placeOf (text characters : String) : Nat :=
  match text.toList.findIdx? fun character => characters.toList.contains character with
  | some place => place + 1
  | none => 0

def operatorLevels : List (List String) :=
  [["|"], ["&"], ["<", "<=", "=", "==", "!=", ">=", ">"], ["+", "-"], ["*", "/", "%"], [":"]]

def applyValues (operator left right : String) : Except String String :=
  match operator with
  | "|" => .ok (if !isNull left then left else if isNull right then "0" else right)
  | "&" => .ok (if isNull left || isNull right then "0" else left)
  | ":" => matchValue left right
  | _ =>
      if ["+", "-", "*", "/", "%"].contains operator then calculateValues operator left right
      else .ok (compareValues operator left right)

def nextArgument (last : String) : List String → Except String (String × List String)
  | [] => .error ("syntax error: missing argument after '" ++ last ++ "'")
  | word :: rest => .ok (word, rest)

mutual

def reckon : (fuel : Nat) → (levels : List (List String)) → (last : String) → List String →
    Reckoned
  | 0, _, _, _ => .error "syntax error"
  | fuel + 1, [], last, words => reckonOperand fuel last words
  | fuel + 1, level :: inner, last, words => do
      let (value, rest) ← reckon fuel inner last words
      reckonMore fuel level inner value rest

def reckonMore : (fuel : Nat) → (level : List String) → (inner : List (List String)) →
    (value : String) → List String → Reckoned
  | 0, _, _, _, _ => .error "syntax error"
  | fuel + 1, level, inner, value, words =>
      match words with
      | operator :: rest =>
          if level.contains operator then do
            let (right, behind) ← reckon fuel inner operator rest
            reckonMore fuel level inner (← applyValues operator value right) behind
          else .ok (value, words)
      | [] => .ok (value, [])

def reckonOperand : (fuel : Nat) → (last : String) → List String → Reckoned
  | 0, _, _ => .error "syntax error"
  | fuel + 1, last, words => do
      let (word, rest) ← nextArgument last words
      match word with
      | "(" => do
          let (value, behind) ← reckon fuel operatorLevels "(" rest
          match behind with
          | ")" :: others => return (value, others)
          | [] => throw ("syntax error: expecting ')' after '" ++ value ++ "'")
          | other :: _ => throw ("syntax error: expecting ')' instead of '" ++ other ++ "'")
      | ")" => throw "syntax error: unexpected ')'"
      | "+" => nextArgument "+" rest
      | "length" => do
          let (value, behind) ← reckonOperand fuel word rest
          return (toString value.length, behind)
      | "match" => do
          let (value, middle) ← reckonOperand fuel word rest
          let (wanted, behind) ← reckonOperand fuel value middle
          return (← matchValue value wanted, behind)
      | "index" => do
          let (value, middle) ← reckonOperand fuel word rest
          let (characters, behind) ← reckonOperand fuel value middle
          return (toString (placeOf value characters), behind)
      | "substr" => do
          let (value, first) ← reckonOperand fuel word rest
          let (place, second) ← reckonOperand fuel value first
          let (length, behind) ← reckonOperand fuel place second
          return (match asInteger? place, asInteger? length with
            | some start, some count =>
                if start ≤ 0 || count ≤ 0 then ""
                else String.ofList ((value.toList.drop (start.toNat - 1)).take count.toNat)
            | _, _ => "", behind)
      | _ => return (word, rest)

end

def expr : Tool := fun arguments => do
  let words := if arguments.head? == some "--" then arguments.drop 1 else arguments
  if words.isEmpty then
    say "expr: missing operand"
    fail 2 "Try 'expr --help' for more information."
  else
    match reckon (20 * words.length + 20) operatorLevels "" words with
    | .error complaint => fail 2 ("expr: " ++ complaint)
    | .ok (_, extra :: _) => fail 2 ("expr: syntax error: unexpected argument '" ++ extra ++ "'")
    | .ok (value, []) => do
        printLine value
        return if isNull value then 1 else 0

end CircuitDiagram.Shell.Tool
