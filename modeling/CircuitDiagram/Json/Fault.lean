import CircuitDiagram.Decimal.Shortest
import CircuitDiagram.Text.Characters
import CircuitDiagram.Text.Symbol

/-!
What can be wrong with a JSON text, and where. A fault keeps the input that was still unread
when it was noticed, so its place in the whole input is worked out only when it is reported.

An input is at hand as a whole, or it is fetched byte by byte. One reader stands for the readers of
both, which is assumed of them: it is taken for granted that they agree in everything but the place
of a fault that was noticed by looking ahead.
-/

namespace CircuitDiagram.Text

def quotedCharacter (character : Char) : String :=
  if character = '\x00' then "\\0"
  else if character = '\t' then "\\t"
  else if character = '\r' then "\\r"
  else if character = '\n' then "\\n"
  else if character = '\\' then "\\\\"
  else if character = '\"' then "\\\""
  else if isHidden character then
    "\\u\x7b" ++ String.ofList (Nat.toDigits 16 character.toNat) ++ "\x7d"
  else character.toString

def quoted (text : String) : String :=
  "\"" ++ String.join (text.toList.map quotedCharacter) ++ "\""

end CircuitDiagram.Text

namespace CircuitDiagram.Json

inductive Found where
  | null
  | boolean (value : Bool)
  | integer (value : Int)
  | decimal (negative : Bool) (magnitude : Decimal.Double)
  | text (content : String)
  | list
  | object
  | bareVariant

inductive Wanted where
  | object
  | list
  | text
  | null
  | variantWithContent
  | circuit
  | node
  | wire
  | pair
  deriving DecidableEq, Repr

inductive Field where
  | nodes
  | edges
  | type
  | source
  | sink
  deriving DecidableEq, Repr

inductive Cause where
  | valueEnds
  | listEnds
  | objectEnds
  | textEnds
  | noColon
  | noListSeparator
  | noObjectSeparator
  | noLiteral
  | noValue
  | badEscape
  | badNumber
  | numberTooLarge
  | notUnicode
  | controlCharacter
  | keyNotText
  | loneSurrogate
  | halfSurrogate
  | trailingComma
  | trailingText
  | wrongType (found : Found) (wanted : Wanted)
  | wrongLength (length : Nat) (wanted : Wanted)
  | unknownVariant (name : String)
  | repeatedField (field : Field)
  | missingField (field : Field)

namespace Found

/-- Decimals are written by position from `0.00001` up to sixteen digits before the point. -/
def decimalLayout : Decimal.Layout := ⟨-5, 15⟩

def describe : Found → String
  | null => "null"
  | boolean value => "boolean \x60" ++ (if value then "true" else "false") ++ "\x60"
  | integer value => "integer \x60" ++ toString value ++ "\x60"
  | decimal negative magnitude =>
      "floating point \x60" ++ (if negative then "-" else "") ++
        Decimal.write decimalLayout magnitude ++ "\x60"
  | text content => "string " ++ Text.quoted content
  | list => "sequence"
  | object => "map"
  | bareVariant => "unit variant"

end Found

namespace Wanted

def describe : Wanted → String
  | object => "a map"
  | list => "a sequence"
  | text => "a string"
  | null => "unit"
  | variantWithContent => "newtype variant"
  | circuit => "struct Circuit"
  | node => "struct NodeInfo"
  | wire => "struct EdgeInfo"
  | pair => "a tuple of size 2"

def describeParts : Wanted → String
  | circuit => "struct Circuit with 2 elements"
  | node => "struct NodeInfo with 1 element"
  | wire => "struct EdgeInfo with 2 elements"
  | wanted => wanted.describe

end Wanted

def Field.key : Field → String
  | .nodes => "nodes"
  | .edges => "edges"
  | .type => "type_"
  | .source => "source"
  | .sink => "sink"

namespace Cause

def describe : Cause → String
  | valueEnds => "EOF while parsing a value"
  | listEnds => "EOF while parsing a list"
  | objectEnds => "EOF while parsing an object"
  | textEnds => "EOF while parsing a string"
  | noColon => "expected \x60:\x60"
  | noListSeparator => "expected \x60,\x60 or \x60]\x60"
  | noObjectSeparator => "expected \x60,\x60 or \x60\x7d\x60"
  | noLiteral => "expected ident"
  | noValue => "expected value"
  | badEscape => "invalid escape"
  | badNumber => "invalid number"
  | numberTooLarge => "number out of range"
  | notUnicode => "invalid unicode code point"
  | controlCharacter => "control character (\\u0000-\\u001F) found while parsing a string"
  | keyNotText => "key must be a string"
  | loneSurrogate => "lone leading surrogate in hex escape"
  | halfSurrogate => "unexpected end of hex escape"
  | trailingComma => "trailing comma"
  | trailingText => "trailing characters"
  | wrongType found wanted =>
      "invalid type: " ++ found.describe ++ ", expected " ++ wanted.describe
  | wrongLength length wanted =>
      "invalid length " ++ toString length ++ ", expected " ++ wanted.describeParts
  | unknownVariant name =>
      "unknown variant \x60" ++ name ++
        "\x60, expected one of \x60Input\x60, \x60Output\x60, \x60Internal\x60"
  | repeatedField field => "duplicate field \x60" ++ field.key ++ "\x60"
  | missingField field => "missing field \x60" ++ field.key ++ "\x60"

end Cause

/-- How much past the unread point a fault reaches: a number of bytes, or the next byte, which
counts only where the input has to be fetched to be looked at. -/
inductive Reach where
  | bytes (count : Nat)
  | lookahead
  deriving DecidableEq, Repr

/-- A fault with the input that was unread when it was noticed. An open fault has no place yet:
it takes the one where the list or object around it is left. -/
structure Fault where
  cause : Cause
  unread : Source
  reach : Reach
  placed : Bool

namespace Fault

def behind (cause : Cause) (unread : Source) : Fault :=
  ⟨cause, unread, .bytes 0, true⟩

def upon (cause : Cause) (unread : Source) : Fault :=
  ⟨cause, unread, .bytes 1, true⟩

def before (cause : Cause) (unread : Source) : Fault :=
  ⟨cause, unread, .lookahead, true⟩

def openAt (cause : Cause) (unread : Source) : Fault :=
  ⟨cause, unread, .bytes 0, false⟩

end Fault

structure Place where
  line : Nat
  column : Nat
  deriving DecidableEq, Repr

namespace Place

def start : Place := ⟨1, 0⟩

def step (place : Place) : Symbol → Place
  | .scalar '\n' => ⟨place.line + 1, 0⟩
  | symbol => ⟨place.line, place.column + symbol.width⟩

def advance (place : Place) : Nat → Source → Place
  | 0, _ => place
  | _ + 1, [] => place
  | count + 1, symbol :: rest =>
      if symbol.width ≤ count + 1 then
        advance (place.step symbol) (count + 1 - symbol.width) rest
      -- A place may be inside a character.
      else ⟨place.line, place.column + (count + 1)⟩

end Place

inductive Delivery where
  | whole
  | stream
  deriving DecidableEq, Repr

def Reach.count : Reach → Delivery → Nat
  | .bytes count, _ => count
  | .lookahead, .whole => 0
  | .lookahead, .stream => 1

structure Complaint where
  cause : Cause
  place : Option Place

def Complaint.message (complaint : Complaint) : String :=
  complaint.cause.describe ++
    match complaint.place with
    | none => ""
    | some place =>
        " at line " ++ toString place.line ++ " column " ++ toString place.column

def Fault.report (fault : Fault) (delivery : Delivery) (input : Source) : Complaint :=
  let read := input.take (input.length - fault.unread.length)
  ⟨fault.cause,
    if fault.placed then
      some ((read.foldl Place.step Place.start).advance
        (fault.reach.count delivery) fault.unread)
    else none⟩

end CircuitDiagram.Json
