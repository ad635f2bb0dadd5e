import CircuitDiagram.Json.Numeral
import CircuitDiagram.Json.Text

/-!
The grammar of JSON on characters, apart from every reader. Each relation says of a text that it
begins with a spelling of something, and names the text behind it. A value is kept as a tree in
which members are listed, so a name may come twice, and in which a string is a list of marks: it
is a matter of its own what the marks say, and whether they say anything.
-/

namespace CircuitDiagram.Json

/-- A piece of a string: a character, or a code unit that an escape gives by its number. -/
inductive Mark where
  | character (character : Char)
  | unit (number : Nat)
  deriving DecidableEq, Repr

inductive Tree where
  | null
  | boolean (value : Bool)
  | number (numeral : Numeral)
  | text (marks : List Mark)
  | list (elements : List Tree)
  | object (members : List (List Mark × Tree))

def isWhite (character : Char) : Bool :=
  character ∈ [' ', '\t', '\n', '\r']

inductive Blanks : List Char → List Char → Prop where
  | none (rest : List Char) : Blanks rest rest
  | more {character : Char} {chars rest : List Char} (white : isWhite character = true)
      (blanks : Blanks chars rest) : Blanks (character :: chars) rest

section Numbers

inductive Digits : List Nat → List Char → List Char → Prop where
  | none (rest : List Char) : Digits [] rest rest
  | more {character : Char} {digits : List Nat} {chars rest : List Char}
      (digit : character.isDigit = true) (others : Digits digits chars rest) :
      Digits ((character.toNat - '0'.toNat) :: digits) (character :: chars) rest

/-- A whole part: a zero alone, or digits of which the first is no zero. -/
inductive Whole : List Nat → List Char → List Char → Prop where
  | zero (rest : List Char) : Whole [0] ('0' :: rest) rest
  | digits {digit : Nat} {digits : List Nat} {chars rest : List Char} (positive : digit ≠ 0)
      (spelled : Digits (digit :: digits) chars rest) : Whole (digit :: digits) chars rest

inductive Fraction : Option (List Nat) → List Char → List Char → Prop where
  | none (rest : List Char) : Fraction none rest rest
  | digits {digit : Nat} {digits : List Nat} {chars rest : List Char}
      (spelled : Digits (digit :: digits) chars rest) :
      Fraction (some (digit :: digits)) ('.' :: chars) rest

inductive Sign : Bool → List Char → List Char → Prop where
  | none (rest : List Char) : Sign false rest rest
  | plus (rest : List Char) : Sign false ('+' :: rest) rest
  | minus (rest : List Char) : Sign true ('-' :: rest) rest

inductive Exponent : Option (Bool × List Nat) → List Char → List Char → Prop where
  | none (rest : List Char) : Exponent none rest rest
  | digits {letter : Char} {negative : Bool} {digit : Nat} {digits : List Nat}
      {chars behindSign rest : List Char} (marked : letter = 'e' ∨ letter = 'E')
      (sign : Sign negative chars behindSign)
      (spelled : Digits (digit :: digits) behindSign rest) :
      Exponent (some (negative, digit :: digits)) (letter :: chars) rest

inductive Magnitude : Numeral → List Char → List Char → Prop where
  | mk {negative : Bool} {whole : List Nat} {fraction : Option (List Nat)}
      {exponent : Option (Bool × List Nat)} {chars behindWhole behindFraction rest : List Char}
      (wholeSpelled : Whole whole chars behindWhole)
      (fractionSpelled : Fraction fraction behindWhole behindFraction)
      (exponentSpelled : Exponent exponent behindFraction rest) :
      Magnitude ⟨negative, whole, fraction, exponent⟩ chars rest

inductive Number : Numeral → List Char → List Char → Prop where
  | positive {numeral : Numeral} {chars rest : List Char} (plain : numeral.negative = false)
      (spelled : Magnitude numeral chars rest) : Number numeral chars rest
  | negative {numeral : Numeral} {chars rest : List Char} (signed : numeral.negative = true)
      (spelled : Magnitude numeral chars rest) : Number numeral ('-' :: chars) rest

end Numbers

section Strings

inductive ShortEscape : Char → Char → Prop where
  | quote : ShortEscape '"' '"'
  | backslash : ShortEscape '\\' '\\'
  | slash : ShortEscape '/' '/'
  | backspace : ShortEscape 'b' '\x08'
  | formFeed : ShortEscape 'f' '\x0c'
  | newLine : ShortEscape 'n' '\n'
  | carriageReturn : ShortEscape 'r' '\r'
  | tab : ShortEscape 't' '\t'

inductive FourDigits : Nat → List Char → List Char → Prop where
  | mk {first second third fourth : Char} {number : Nat} (rest : List Char)
      (value : hexNumber? first second third fourth = some number) :
      FourDigits number (first :: second :: third :: fourth :: rest) rest

/-- A string from behind its opening quote, with the closing one. -/
inductive Marks : List Mark → List Char → List Char → Prop where
  | none (rest : List Char) : Marks [] ('"' :: rest) rest
  | plain {character : Char} {marks : List Mark} {chars rest : List Char}
      (noQuote : character ≠ '"') (noBackslash : character ≠ '\\')
      (printed : 0x20 ≤ character.toNat) (others : Marks marks chars rest) :
      Marks (.character character :: marks) (character :: chars) rest
  | short {letter character : Char} {marks : List Mark} {chars rest : List Char}
      (escape : ShortEscape letter character) (others : Marks marks chars rest) :
      Marks (.character character :: marks) ('\\' :: letter :: chars) rest
  | unit {number : Nat} {marks : List Mark} {digits chars rest : List Char}
      (spelled : FourDigits number digits chars) (others : Marks marks chars rest) :
      Marks (.unit number :: marks) ('\\' :: 'u' :: digits) rest

/-- The character beyond the first 65536 that two code units make up: each gives ten bits. -/
@[irreducible]
def joined (high low : Nat) : Char :=
  Char.ofNat (0x10000 + (high % 0x400 * 0x400 + low % 0x400))

/-- What a string says. Code units of the upper half and of the lower half say something only
as a pair, in this order. -/
def content? : List Mark → Option (List Char)
  | [] => some []
  | .character character :: marks => (content? marks).map (character :: ·)
  | .unit number :: marks =>
      if isLowSurrogate number then none
      else if isHighSurrogate number then
        match marks with
        | .unit low :: others =>
            if isLowSurrogate low then (content? others).map (joined number low :: ·) else none
        | _ => none
      else (content? marks).map (Char.ofNat number :: ·)

def text? (marks : List Mark) : Option String :=
  (content? marks).map String.ofList

end Strings

section Shapes

variable {α β : Type}

def shapeText : Tree → Option String
  | .text marks => text? marks
  | _ => none

def shapeList (shape : Tree → Option α) : Tree → Option (List α)
  | .list trees => trees.mapM shape
  | _ => none

def shapeSingle (shape : Tree → Option α) : Tree → Option α
  | .list [tree] => shape tree
  | _ => none

def shapePair (shape : Tree → Option α) (otherShape : Tree → Option β) : Tree → Option (α × β)
  | .list [tree, otherTree] => do
      let value ← shape tree
      let other ← otherShape otherTree
      return (value, other)
  | _ => none

end Shapes

/-- A part of a text: a value; elements or members from where the first has to stand, with the
closing bracket; or what follows an element or a member up to that bracket. -/
inductive Part where
  | value (tree : Tree)
  | elements (elements : List Tree)
  | moreElements (elements : List Tree)
  | members (members : List (List Mark × Tree))
  | moreMembers (members : List (List Mark × Tree))

inductive Spells : Part → List Char → List Char → Prop where
  | null (rest : List Char) : Spells (.value .null) ('n' :: 'u' :: 'l' :: 'l' :: rest) rest
  | yes (rest : List Char) :
      Spells (.value (.boolean true)) ('t' :: 'r' :: 'u' :: 'e' :: rest) rest
  | no (rest : List Char) :
      Spells (.value (.boolean false)) ('f' :: 'a' :: 'l' :: 's' :: 'e' :: rest) rest
  | number {numeral : Numeral} {chars rest : List Char} (spelled : Number numeral chars rest) :
      Spells (.value (.number numeral)) chars rest
  | text {marks : List Mark} {chars rest : List Char} (spelled : Marks marks chars rest) :
      Spells (.value (.text marks)) ('"' :: chars) rest
  | emptyList {chars rest : List Char} (blanks : Blanks chars (']' :: rest)) :
      Spells (.value (.list [])) ('[' :: chars) rest
  | list {elements : List Tree} {chars rest : List Char}
      (inside : Spells (.elements elements) chars rest) :
      Spells (.value (.list elements)) ('[' :: chars) rest
  | emptyObject {chars rest : List Char} (blanks : Blanks chars ('}' :: rest)) :
      Spells (.value (.object [])) ('{' :: chars) rest
  | object {members : List (List Mark × Tree)} {chars rest : List Char}
      (inside : Spells (.members members) chars rest) :
      Spells (.value (.object members)) ('{' :: chars) rest
  | element {tree : Tree} {elements : List Tree} {chars start behind rest : List Char}
      (blanks : Blanks chars start) (first : Spells (.value tree) start behind)
      (others : Spells (.moreElements elements) behind rest) :
      Spells (.elements (tree :: elements)) chars rest
  | noElement {chars rest : List Char} (blanks : Blanks chars (']' :: rest)) :
      Spells (.moreElements []) chars rest
  | nextElement {elements : List Tree} {chars next rest : List Char}
      (blanks : Blanks chars (',' :: next)) (others : Spells (.elements elements) next rest) :
      Spells (.moreElements elements) chars rest
  | member {name : List Mark} {tree : Tree} {members : List (List Mark × Tree)}
      {chars quoted behindName behindColon start behind rest : List Char}
      (blanks : Blanks chars ('"' :: quoted)) (nameSpelled : Marks name quoted behindName)
      (colon : Blanks behindName (':' :: behindColon)) (blanksThen : Blanks behindColon start)
      (value : Spells (.value tree) start behind)
      (others : Spells (.moreMembers members) behind rest) :
      Spells (.members ((name, tree) :: members)) chars rest
  | noMember {chars rest : List Char} (blanks : Blanks chars ('}' :: rest)) :
      Spells (.moreMembers []) chars rest
  | nextMember {members : List (List Mark × Tree)} {chars next rest : List Char}
      (blanks : Blanks chars (',' :: next)) (others : Spells (.members members) next rest) :
      Spells (.moreMembers members) chars rest

/-- The whole text is this value, white space around it apart. -/
def IsText (text : String) (tree : Tree) : Prop :=
  ∃ start behind, Blanks text.toList start ∧ Spells (.value tree) start behind ∧
    Blanks behind []

end CircuitDiagram.Json
