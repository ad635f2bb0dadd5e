import CircuitDiagram.Json.Numeral

/-!
JSON values and their two written forms: on one line without blanks, and with every element
and member on a line of its own, indented by two blanks a level. Members are listed, so a key
may occur twice in a value.
-/

namespace CircuitDiagram.Json

inductive Value where
  | null
  | boolean (value : Bool)
  | number (numeral : Numeral)
  | text (content : String)
  | list (elements : List Value)
  | object (members : List (String × Value))

def escaped (character : Char) : String :=
  if character = '"' then "\\\""
  else if character = '\\' then "\\\\"
  else if character = '\n' then "\\n"
  else if character = '\r' then "\\r"
  else if character = '\t' then "\\t"
  else if character = '\x08' then "\\b"
  else if character = '\x0c' then "\\f"
  else if character.toNat < 0x20 then
    "\\u00" ++ String.ofList [Nat.digitChar (character.toNat / 16),
      Nat.digitChar (character.toNat % 16)]
  else character.toString

def writeText (content : String) : String :=
  "\"" ++ String.join (content.toList.map escaped) ++ "\""

def writeDigits (digits : List Nat) : String :=
  String.ofList (digits.map Nat.digitChar)

def writeNumeral (numeral : Numeral) : String :=
  (if numeral.negative then "-" else "") ++ writeDigits numeral.whole ++
    (match numeral.fraction with
      | none => ""
      | some digits => "." ++ writeDigits digits) ++
    match numeral.exponent with
    | none => ""
    | some (negative, digits) => "e" ++ (if negative then "-" else "") ++ writeDigits digits

def writeBoolean (value : Bool) : String :=
  if value then "true" else "false"

namespace Value

mutual

def compact : Value → String
  | null => "null"
  | boolean value => writeBoolean value
  | number numeral => writeNumeral numeral
  | text content => writeText content
  | list elements => "[" ++ compactElements elements ++ "]"
  | object members => "\x7b" ++ compactMembers members ++ "\x7d"

def compactElements : List Value → String
  | [] => ""
  | [element] => element.compact
  | element :: next :: rest => element.compact ++ "," ++ compactElements (next :: rest)

def compactMembers : List (String × Value) → String
  | [] => ""
  | [(key, value)] => writeText key ++ ":" ++ value.compact
  | (key, value) :: next :: rest =>
      writeText key ++ ":" ++ value.compact ++ "," ++ compactMembers (next :: rest)

end

def indent (level : Nat) : String :=
  "\n" ++ String.ofList (List.replicate (2 * level) ' ')

mutual

/-- The form over several lines of a value that stands at a level. -/
def prettyAt (level : Nat) : Value → String
  | null => "null"
  | boolean value => writeBoolean value
  | number numeral => writeNumeral numeral
  | text content => writeText content
  | list [] => "[]"
  | list (element :: rest) =>
      "[" ++ prettyElements (level + 1) (element :: rest) ++ indent level ++ "]"
  | object [] => "\x7b\x7d"
  | object (member :: rest) =>
      "\x7b" ++ prettyMembers (level + 1) (member :: rest) ++ indent level ++ "\x7d"

def prettyElements (level : Nat) : List Value → String
  | [] => ""
  | [element] => indent level ++ element.prettyAt level
  | element :: next :: rest =>
      indent level ++ element.prettyAt level ++ "," ++ prettyElements level (next :: rest)

def prettyMembers (level : Nat) : List (String × Value) → String
  | [] => ""
  | [(key, value)] => indent level ++ writeText key ++ ": " ++ value.prettyAt level
  | (key, value) :: next :: rest =>
      indent level ++ writeText key ++ ": " ++ value.prettyAt level ++ "," ++
        prettyMembers level (next :: rest)

end

def pretty (value : Value) : String :=
  value.prettyAt 0

end Value

end CircuitDiagram.Json
