import CircuitDiagram.Machine.Shell.Tree

/-!
Arithmetic in scripts: the reading of expressions over whole numbers and variables. Numbers have
64 bits with a sign; sums and products wrap, and numerals that are too large stand for the largest
number there is.
-/

namespace CircuitDiagram.Shell.Arithmetic

inductive Expression where
  | number (value : Int)
  | variable (name : String)
  /-- Gives a variable a value, or the result of an operator on its old value and the new one. -/
  | assignment (name : String) (operator : Option String) (value : Expression)
  | unary (operator : String) (operand : Expression)
  | binary (operator : String) (left right : Expression)
  | conditional (test yes no : Expression)
  deriving Repr

inductive Token where
  | number (value : Int)
  | name (text : String)
  | operator (text : String)
  | unknown
  deriving DecidableEq, Repr

def largest : Int := 9223372036854775807

def wordSize : Nat := 18446744073709551616

def wrap (number : Int) : Int :=
  Int.bmod number wordSize

def clip (number : Int) : Int :=
  if largest < number then largest
  else if number < -largest - 1 then -largest - 1
  else number

def digitValue? (character : Char) : Option Nat :=
  if '0' ≤ character ∧ character ≤ '9' then some (character.toNat - '0'.toNat)
  else if 'a' ≤ character ∧ character ≤ 'z' then some (character.toNat - 'a'.toNat + 10)
  else if 'A' ≤ character ∧ character ≤ 'Z' then some (character.toNat - 'A'.toNat + 10)
  else none

def isDigitOf (base : Nat) (character : Char) : Bool :=
  match digitValue? character with
  | some value => decide (value < base)
  | none => false

def digitsValue (base : Nat) (digits : List Char) : Nat :=
  digits.foldl (fun value digit => value * base + (digitValue? digit).getD 0) 0

/-- The digits in a base that a text begins with, as a number, and what follows them. -/
def numeralIn (base : Nat) (text : List Char) : Nat × List Char :=
  (digitsValue base (text.takeWhile (isDigitOf base)), text.dropWhile (isDigitOf base))

/-- The numeral that a text begins with: hexadecimal behind `0x`, octal behind another zero. -/
def numeral (text : List Char) : Nat × List Char :=
  match text with
  | '0' :: x :: digit :: rest =>
      if (x = 'x' || x = 'X') && isDigitOf 16 digit then numeralIn 16 (digit :: rest)
      else numeralIn 8 text
  | '0' :: _ => numeralIn 8 text
  | _ => numeralIn 10 text

def isBlank (character : Char) : Bool :=
  " \t\n\x0b\x0c\r".toList.contains character

/-- The whole number that a text begins with, behind blanks and a sign, and what follows it;
nothing if it begins with none. -/
def exactNumber? (anyBase : Bool) (text : List Char) : Option (Int × List Char) :=
  let bare := text.dropWhile isBlank
  let (negative, digits) :=
    match bare with
    | '-' :: rest => (true, rest)
    | '+' :: rest => (false, rest)
    | _ => (false, bare)
  if (digits.head?.map Char.isDigit).getD false then
    let (value, rest) := if anyBase then numeral digits else numeralIn 10 digits
    some (if negative then -(value : Int) else value, rest)
  else none

def leadingNumber? (anyBase : Bool) (text : List Char) : Option (Int × List Char) :=
  (exactNumber? anyBase text).map fun (number, rest) => (clip number, rest)

def operators : List String :=
  ["<<=", ">>=", "<<", ">>", "<=", ">=", "==", "!=", "&&", "||", "+=", "-=", "*=", "/=", "%=",
    "&=", "|=", "^=", "=", "<", ">", "+", "-", "*", "/", "%", "&", "|", "^", "~", "!", "?", ":",
    "(", ")"]

def leadingOperator? (text : List Char) : Option (String × List Char) :=
  (operators.find? fun operator => operator.toList.isPrefixOf text).map fun operator =>
    (operator, text.drop operator.length)

def tokens : (fuel : Nat) → List Char → List Token
  | 0, _ => []
  | _ + 1, [] => []
  | fuel + 1, character :: rest =>
      let text := character :: rest
      if character.isWhitespace then tokens fuel rest
      else if character.isDigit then
        let (value, others) := numeral text
        .number (clip value) :: tokens fuel others
      else if isNameStart character then
        .name (String.ofList (text.takeWhile isNameCharacter)) ::
          tokens fuel (text.dropWhile isNameCharacter)
      else
        match leadingOperator? text with
        | some (operator, others) => .operator operator :: tokens fuel others
        | none => .unknown :: tokens fuel rest

def levels : List (List String) := [
  ["||"], ["&&"], ["|"], ["^"], ["&"], ["==", "!="], ["<", "<=", ">", ">="], ["<<", ">>"],
  ["+", "-"], ["*", "/", "%"]]

/-- The operator in an assignment that uses the old value; a plain one has none. -/
def assignmentOperator? (text : String) : Option (Option String) :=
  if text == "=" then some none
  else if ["<<=", ">>=", "+=", "-=", "*=", "/=", "%=", "&=", "|=", "^="].contains text then
    some (some (text.dropEnd 1).toString)
  else none

abbrev Parsed := Except String (Expression × List Token)

mutual

def readAssignment : (fuel : Nat) → List Token → Parsed
  | 0, _ => .error "expecting primary"
  | fuel + 1, tokens =>
      match tokens with
      | .name name :: .operator operator :: rest =>
          match assignmentOperator? operator with
          | some change => do
              let (value, behind) ← readAssignment fuel rest
              return (.assignment name change value, behind)
          | none => readConditional fuel tokens
      | _ => readConditional fuel tokens

def readConditional : (fuel : Nat) → List Token → Parsed
  | 0, _ => .error "expecting primary"
  | fuel + 1, tokens => do
      let (test, behind) ← readLevel fuel levels tokens
      match behind with
      | .operator "?" :: rest =>
          let (yes, atColon) ← readAssignment fuel rest
          match atColon with
          | .operator ":" :: others => do
              let (no, left) ← readConditional fuel others
              return (.conditional test yes no, left)
          | _ => throw "expecting ':'"
      | _ => return (test, behind)

def readLevel : (fuel : Nat) → List (List String) → List Token → Parsed
  | 0, _, _ => .error "expecting primary"
  | fuel + 1, [], tokens => readPrimary fuel tokens
  | fuel + 1, level :: tighter, tokens => do
      let (left, rest) ← readLevel fuel tighter tokens
      goOnLevel fuel level tighter left rest

def goOnLevel : (fuel : Nat) → List String → List (List String) → Expression → List Token →
    Parsed
  | 0, _, _, _, _ => .error "expecting primary"
  | fuel + 1, level, tighter, left, tokens =>
      match tokens with
      | .operator operator :: rest =>
          if level.contains operator then do
            let (right, behind) ← readLevel fuel tighter rest
            goOnLevel fuel level tighter (.binary operator left right) behind
          else .ok (left, tokens)
      | _ => .ok (left, tokens)

def readPrimary : (fuel : Nat) → List Token → Parsed
  | 0, _ => .error "expecting primary"
  | fuel + 1, tokens =>
      match tokens with
      | .number value :: rest => .ok (.number value, rest)
      | .name name :: rest => .ok (.variable name, rest)
      | .operator "(" :: rest => do
          let (inner, behind) ← readAssignment fuel rest
          match behind with
          | .operator ")" :: others => return (inner, others)
          | _ => throw "expecting ')'"
      | .operator operator :: rest =>
          if ["+", "-", "!", "~"].contains operator then do
            let (operand, behind) ← readPrimary fuel rest
            return (.unary operator operand, behind)
          else .error "expecting primary"
      | _ => .error "expecting primary"

end

def parse (text : String) : Except String Expression := do
  let found := tokens (text.length + 1) text.toList
  let (expression, rest) ← readAssignment (16 * found.length + 20) found
  if rest.isEmpty then return expression else throw "expecting EOF"

def truth (holds : Bool) : Int :=
  if holds then 1 else 0

def unary (operator : String) (value : Int) : Int :=
  match operator with
  | "-" => wrap (-value)
  | "!" => truth (value == 0)
  | "~" => -value - 1
  | _ => value

def bitwise (combine : Nat → Nat → Nat) (left right : Int) : Int :=
  wrap (combine (left % wordSize).toNat (right % wordSize).toNat)

def shiftCount (count : Int) : Nat :=
  (count % 64).toNat

/-- What an operator makes of two numbers; nothing is divided by zero. -/
def binary? (operator : String) (left right : Int) : Option Int :=
  match operator with
  | "|" => some (bitwise Nat.lor left right)
  | "^" => some (bitwise Nat.xor left right)
  | "&" => some (bitwise Nat.land left right)
  | "==" => some (truth (left == right))
  | "!=" => some (truth (left != right))
  | "<" => some (truth (decide (left < right)))
  | "<=" => some (truth (decide (left ≤ right)))
  | ">" => some (truth (decide (right < left)))
  | ">=" => some (truth (decide (right ≤ left)))
  | "<<" => some (wrap (left * (Nat.pow 2 (shiftCount right) : Nat)))
  | ">>" => some (Int.fdiv left (Nat.pow 2 (shiftCount right) : Nat))
  | "+" => some (wrap (left + right))
  | "-" => some (wrap (left - right))
  | "*" => some (wrap (left * right))
  | "/" => if right = 0 then none else some (wrap (left.tdiv right))
  | "%" => if right = 0 then none else some (left.tmod right)
  | _ => none

end CircuitDiagram.Shell.Arithmetic
