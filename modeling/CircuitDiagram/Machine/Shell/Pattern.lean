/-!
Patterns of the shell. A star stands for any text, a question mark for any character, and square
brackets for one of the characters in them; what is quoted stands for itself.
-/

namespace CircuitDiagram.Shell

abbrev Field := List (Char × Bool)

abbrev CharacterRange := Char × Char

inductive PatternItem where
  | exactly (character : Char)
  | anyOne
  | anyText
  | oneOf (negated : Bool) (ranges : List CharacterRange)
  deriving DecidableEq, Repr

def classRanges? (name : String) : Option (List CharacterRange) :=
  match name with
  | "alpha" => some [('A', 'Z'), ('a', 'z')]
  | "upper" => some [('A', 'Z')]
  | "lower" => some [('a', 'z')]
  | "digit" => some [('0', '9')]
  | "xdigit" => some [('0', '9'), ('A', 'F'), ('a', 'f')]
  | "alnum" => some [('0', '9'), ('A', 'Z'), ('a', 'z')]
  | "space" => some [('\t', '\r'), (' ', ' ')]
  | "blank" => some [('\t', '\t'), (' ', ' ')]
  | "cntrl" => some [('\x00', '\x1f'), ('\x7f', '\x7f')]
  | "punct" => some [('!', '/'), (':', '@'), ('[', '\x60'), ('\x7b', '~')]
  | "graph" => some [('!', '~')]
  | "print" => some [(' ', '~')]
  | _ => none

def isInRange (character : Char) (range : CharacterRange) : Bool :=
  decide (range.1 ≤ character ∧ character ≤ range.2)

def leadingClass? (text : Field) : Option (List CharacterRange × Field) :=
  match text with
  | ('[', false) :: (':', false) :: rest =>
      let name := rest.takeWhile fun entry => entry.1.isAlpha
      match rest.drop name.length with
      | (':', false) :: (']', false) :: others =>
          (classRanges? (String.ofList (name.map Prod.fst))).map fun ranges => (ranges, others)
      | _ => none
  | _ => none

/-- The ranges of a list in square brackets, up to its end, and what follows that. A closing
bracket that comes first is one of the characters. -/
def bracketRanges : (fuel : Nat) → (isFirst : Bool) → Field →
    Option (List CharacterRange × Field)
  | 0, _, _ => none
  | _ + 1, _, [] => none
  | fuel + 1, isFirst, (first, quoted) :: rest =>
      if first = ']' && !quoted && !isFirst then some ([], rest)
      else
        match leadingClass? ((first, quoted) :: rest) with
        | some (ranges, others) =>
            (bracketRanges fuel false others).map fun found => (ranges ++ found.1, found.2)
        | none =>
            match rest with
            | ('-', false) :: (last, lastQuoted) :: others =>
                if last = ']' && !lastQuoted then
                  (bracketRanges fuel false rest).map fun found =>
                    ((first, first) :: found.1, found.2)
                else
                  (bracketRanges fuel false others).map fun found =>
                    ((first, last) :: found.1, found.2)
            | _ =>
                (bracketRanges fuel false rest).map fun found =>
                  ((first, first) :: found.1, found.2)

def patternItems : (fuel : Nat) → Field → List PatternItem
  | 0, _ => []
  | _ + 1, [] => []
  | fuel + 1, (character, quoted) :: rest =>
      if quoted then .exactly character :: patternItems fuel rest
      else if character = '?' then .anyOne :: patternItems fuel rest
      else if character = '*' then .anyText :: patternItems fuel rest
      else if character = '\\' then
        match rest with
        | (next, _) :: others => .exactly next :: patternItems fuel others
        | [] => [.exactly character]
      else if character = '[' then
        let negated := rest.head? == some ('!', false) || rest.head? == some ('^', false)
        match bracketRanges (rest.length + 1) true (if negated then rest.drop 1 else rest) with
        | some (ranges, others) => .oneOf negated ranges :: patternItems fuel others
        | none => .exactly character :: patternItems fuel rest
      else .exactly character :: patternItems fuel rest

def pattern (field : Field) : List PatternItem :=
  patternItems (field.length + 1) field

def PatternItem.accepts (character : Char) : PatternItem → Bool
  | exactly other => character == other
  | anyOne => true
  | anyText => false
  | oneOf negated ranges => ranges.any (isInRange character) != negated

def matchesPattern : List PatternItem → List Char → Bool
  | [], [] => true
  | [], _ :: _ => false
  | .anyText :: rest, [] => matchesPattern rest []
  | .anyText :: rest, character :: text =>
      matchesPattern rest (character :: text) || matchesPattern (.anyText :: rest) text
  | _ :: _, [] => false
  | item :: rest, character :: text => item.accepts character && matchesPattern rest text
termination_by items text => (items.length, text.length)

/-- The text without its shortest or longest beginning that the pattern stands for. -/
def withoutBeginning (longest : Bool) (items : List PatternItem) (text : List Char) :
    List Char :=
  let lengths := List.range (text.length + 1)
  match (if longest then lengths.reverse else lengths).find? fun length =>
      matchesPattern items (text.take length) with
  | some length => text.drop length
  | none => text

/-- The text without its shortest or longest end that the pattern stands for. -/
def withoutEnd (longest : Bool) (items : List PatternItem) (text : List Char) : List Char :=
  let lengths := List.range (text.length + 1)
  match (if longest then lengths else lengths.reverse).find? fun length =>
      matchesPattern items (text.drop length) with
  | some length => text.take length
  | none => text

end CircuitDiagram.Shell
