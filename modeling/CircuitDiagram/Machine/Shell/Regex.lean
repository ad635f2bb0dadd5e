import CircuitDiagram.Machine.Shell.Pattern

/-!
Regular expressions on texts of the shell. A match begins as early as one can, and of those that
begin there it is the longest.
-/

namespace CircuitDiagram.Shell

inductive Regex where
  | nothing
  | one (character : Char)
  | any
  | among (negated : Bool) (ranges : List CharacterRange)
  | lineStart
  | lineEnd
  | wordEdge (begins ends : Bool)
  | insideWord
  | group (index : Nat) (body : Regex)
  | again (index : Nat)
  | both (first second : Regex)
  | either (first second : Regex)
  | repeated (body : Regex) (least : Nat) (most : Option Nat)
  deriving DecidableEq, Repr

namespace Regex

/-- A place in a text: what is before it, last character first, what is behind it, and what the
groups have matched. -/
structure Spot where
  before : List Char
  after : List Char
  groups : List (Nat × List Char)
  deriving DecidableEq, Repr

def Spot.forward (spot : Spot) : Spot :=
  match spot.after with
  | [] => spot
  | character :: rest => { spot with before := character :: spot.before, after := rest }

def isWordCharacter (character : Char) : Bool :=
  character.isAlphanum || character == '_'

def Spot.wordBefore (spot : Spot) : Bool :=
  spot.before.head?.any isWordCharacter

def Spot.wordAfter (spot : Spot) : Bool :=
  spot.after.head?.any isWordCharacter

structure Manner where
  ignoresCase : Bool

def Manner.accepts (manner : Manner) (test : Char → Bool) (character : Char) : Bool :=
  test character || (manner.ignoresCase && (test character.toLower || test character.toUpper))

def Manner.takes (manner : Manner) (test : Char → Bool) (spot : Spot) : List Spot :=
  match spot.after with
  | [] => []
  | character :: _ => if manner.accepts test character then [spot.forward] else []

def between (first second : Spot) : List Char :=
  first.after.take (first.after.length - second.after.length)

def passText (manner : Manner) : List Char → Spot → List Spot
  | [], spot => [spot]
  | character :: rest, spot =>
      (manner.takes (· == character) spot).flatMap (passText manner rest)

/-- Spots without those that stand at the same place with the same groups as an earlier one. -/
def distinct : List Spot → List Spot
  | [] => []
  | spot :: rest =>
      spot :: (distinct rest).filter fun other =>
        other.after.length != spot.after.length || other.groups != spot.groups

/-- The spots behind repetitions of a step, those behind most of them first. -/
def repeatStep (step : Spot → List Spot) : (fuel : Nat) → (least : Nat) → (most : Option Nat) →
    List Spot → List Spot
  | 0, least, _, spots => if least = 0 then spots else []
  | fuel + 1, least, most, spots =>
      let here := if least = 0 then spots else []
      if spots.isEmpty || most == some 0 then here
      else
        let next := distinct (spots.flatMap fun spot =>
          (step spot).filter fun later =>
            0 < least || later.after.length < spot.after.length)
        repeatStep step fuel (least - 1) (most.map (· - 1)) next ++ here

def matchesFrom (manner : Manner) : Regex → Spot → List Spot
  | nothing, spot => [spot]
  | one character, spot => manner.takes (· == character) spot
  | any, spot => manner.takes (fun _ => true) spot
  | among negated ranges, spot =>
      match spot.after with
      | [] => []
      | character :: _ =>
          if manner.accepts (fun found => ranges.any (isInRange found)) character != negated then
            [spot.forward]
          else []
  | lineStart, spot => if spot.before.isEmpty then [spot] else []
  | lineEnd, spot => if spot.after.isEmpty then [spot] else []
  | wordEdge begins ends, spot =>
      if (begins && !spot.wordBefore && spot.wordAfter) ||
          (ends && spot.wordBefore && !spot.wordAfter) then [spot]
      else []
  | insideWord, spot => if spot.wordBefore == spot.wordAfter then [spot] else []
  | group index body, spot =>
      (matchesFrom manner body spot).map fun later =>
        { later with
          groups := (index, between spot later) ::
            later.groups.filter fun entry => entry.1 != index }
  | again index, spot =>
      match spot.groups.lookup index with
      | some text => passText manner text spot
      | none => []
  | both first second, spot =>
      distinct ((matchesFrom manner first spot).flatMap (matchesFrom manner second))
  | either first second, spot =>
      distinct (matchesFrom manner first spot ++ matchesFrom manner second spot)
  | repeated body least most, spot =>
      repeatStep (matchesFrom manner body) (spot.after.length + least + 1) least most [spot]

def longest : List Spot → Option Spot
  | [] => none
  | spot :: rest =>
      match longest rest with
      | none => some spot
      | some other => some (if other.after.length < spot.after.length then other else spot)

structure Found where
  start : Spot
  stop : Spot

def Found.text (found : Found) : List Char :=
  between found.start found.stop

def Found.group (found : Found) (index : Nat) : List Char :=
  if index = 0 then found.text else (found.stop.groups.lookup index).getD []

def findFrom (manner : Manner) (regex : Regex) : (fuel : Nat) → Spot → Option Found
  | 0, _ => none
  | fuel + 1, spot =>
      match longest (matchesFrom manner regex spot) with
      | some stop => some ⟨spot, stop⟩
      | none => if spot.after.isEmpty then none else findFrom manner regex fuel spot.forward

def find (manner : Manner) (regex : Regex) (spot : Spot) : Option Found :=
  findFrom manner regex (spot.after.length + 1) { spot with groups := [] }

def spotAt (text : String) : Spot :=
  ⟨[], text.toList, []⟩

def isIn (manner : Manner) (regex : Regex) (text : String) : Bool :=
  (find manner regex (spotAt text)).isSome

/-- Two ways of writing regular expressions. In the basic one, brackets, bars and the like are
characters unless a backslash stands before them; in the extended one it is the other way round. -/
inductive Notion where
  | basic
  | extended
  deriving DecidableEq, Repr

inductive Symbol where
  | literal (character : Char)
  | any
  | among (negated : Bool) (ranges : List CharacterRange)
  | edge (edge : Regex)
  | again (index : Nat)
  | caret
  | dollar
  | opening
  | closing
  | bar
  | times (least : Nat) (most : Option Nat)
  deriving DecidableEq, Repr

def leadingCount (text : List Char) : Option Nat × List Char :=
  let digits := text.takeWhile Char.isDigit
  ((String.ofList digits).toNat?, text.drop digits.length)

def interval? (close : List Char) (text : List Char) :
    Option (Nat × Option Nat × List Char) :=
  let (least, behind) := leadingCount text
  match behind with
  | ',' :: rest =>
      let (most, others) := leadingCount rest
      if close.isPrefixOf others then some (least.getD 0, most, others.drop close.length) else none
  | _ =>
      match least with
      | some count =>
          if close.isPrefixOf behind then some (count, some count, behind.drop close.length)
          else none
      | none => none

/-- The ranges of a list in square brackets, where a backslash is a character like others. -/
def bracketList (text : List Char) : Option (Bool × List CharacterRange × List Char) :=
  let negated := text.head? == some '^'
  let inner := if negated then text.drop 1 else text
  let field : Field := inner.map fun character => (character, false)
  (bracketRanges (field.length + 1) true field).map fun (ranges, rest) =>
    (negated, ranges, rest.map Prod.fst)

def bracketFault? (text : List Char) (ranges : List CharacterRange) : Option String :=
  let parts := (String.ofList text).splitOn "[:"
  let unknown := (parts.drop 1).any fun part =>
    match part.splitOn ":]" with
    | name :: _ :: _ => (classRanges? name).isNone
    | _ => false
  if unknown then some "Invalid character class name"
  else if 1 < text.length && text.head? == some ':' && text.getLast? == some ':' then
    some "character class syntax is [[:space:]], not [:space:]"
  else if ranges.any fun range => decide (range.2 < range.1) then some "Invalid range end"
  else none

def wordRanges : List CharacterRange := [('0', '9'), ('A', 'Z'), ('_', '_'), ('a', 'z')]
def blankRanges : List CharacterRange := [('\t', '\r'), (' ', ' ')]

def escaped? (character : Char) : Option Symbol :=
  match character with
  | 'w' => some (.among false wordRanges)
  | 'W' => some (.among true wordRanges)
  | 's' => some (.among false blankRanges)
  | 'S' => some (.among true blankRanges)
  | 'b' => some (.edge (.wordEdge true true))
  | '<' => some (.edge (.wordEdge true false))
  | '>' => some (.edge (.wordEdge false true))
  | 'B' => some (.edge .insideWord)
  | '\x60' => some (.edge .lineStart)
  | '\'' => some (.edge .lineEnd)
  | _ =>
      if '1' ≤ character && character ≤ '9' then some (.again (character.toNat - '0'.toNat))
      else none

/-- What a character of the notations that differ means where it means something. -/
def operator? (notion : Notion) (character : Char) (rest : List Char) :
    Except String (Option (Symbol × List Char)) :=
  match character with
  | '(' => .ok (some (.opening, rest))
  | ')' => .ok (some (.closing, rest))
  | '|' => .ok (some (.bar, rest))
  | '+' => .ok (some (.times 1 none, rest))
  | '?' => .ok (some (.times 0 (some 1), rest))
  | '\x7b' =>
      let close := if notion = .basic then ['\\', '\x7d'] else ['\x7d']
      match interval? close rest with
      | some (least, most, others) => .ok (some (.times least most, others))
      | none =>
          if notion = .extended then .ok (some (.literal character, rest))
          else if rest.contains '\x7d' then .error "Invalid content of \\\x7b\\\x7d"
          else .error "Unmatched \\\x7b"
  | _ => .ok none

def symbols (notion : Notion) : (fuel : Nat) → List Char → Except String (List Symbol)
  | 0, _ => .ok []
  | _ + 1, [] => .ok []
  | _ + 1, ['\\'] => .error "Trailing backslash"
  | fuel + 1, '\\' :: next :: rest => do
      let found ← if notion = .basic then operator? notion next rest else pure none
      match found with
      | some (symbol, others) => return symbol :: (← symbols notion fuel others)
      | none =>
          match escaped? next with
          | some symbol => return symbol :: (← symbols notion fuel rest)
          | none =>
              return .literal (if next = 'n' then '\n' else next) :: (← symbols notion fuel rest)
  | fuel + 1, character :: rest => do
      match character with
      | '.' => return .any :: (← symbols notion fuel rest)
      | '*' => return .times 0 none :: (← symbols notion fuel rest)
      | '^' => return .caret :: (← symbols notion fuel rest)
      | '$' => return .dollar :: (← symbols notion fuel rest)
      | '[' =>
          match bracketList rest with
          | none => throw "Unmatched [, [^, [:, [., or [="
          | some (negated, ranges, others) =>
              match bracketFault? (rest.take (rest.length - others.length - 1)) ranges with
              | some complaint => throw complaint
              | none => return .among negated ranges :: (← symbols notion fuel others)
      | _ =>
          let found ← if notion = .extended then operator? notion character rest else pure none
          match found with
          | some (symbol, others) => return symbol :: (← symbols notion fuel others)
          | none => return .literal character :: (← symbols notion fuel rest)

/-- An expression, what is left behind it, and the number of groups begun so far. -/
abbrev Read := Except String (Regex × List Symbol × Nat)

def withTimes : Regex → List Symbol → Regex × List Symbol
  | body, .times least most :: rest => withTimes (.repeated body least most) rest
  | body, rest => (body, rest)

def joined : Regex → Regex → Regex
  | .nothing, second => second
  | first, .nothing => first
  | first, second => .both first second

def endsHere (notion : Notion) : List Symbol → Bool
  | [] => true
  | .closing :: _ => true
  | .bar :: _ => true
  | _ => notion = .extended

mutual

def readAlternatives (notion : Notion) : (fuel : Nat) → (depth groups : Nat) → List Symbol →
    Read
  | 0, _, _, _ => .error "Regular expression too big"
  | fuel + 1, depth, groups, symbols => do
      let (first, rest, count) ← readSequence notion fuel depth groups true symbols
      match rest with
      | .bar :: others =>
          let (second, left, total) ← readAlternatives notion fuel depth count others
          return (.either first second, left, total)
      | _ => return (first, rest, count)

def readSequence (notion : Notion) : (fuel : Nat) → (depth groups : Nat) → (atStart : Bool) →
    List Symbol → Read
  | 0, _, _, _, _ => .error "Regular expression too big"
  | fuel + 1, depth, groups, atStart, symbols =>
      let goOn (piece : Regex) (rest : List Symbol) (count : Nat) : Read := do
        let (body, behind) := withTimes piece rest
        let (others, left, total) ← readSequence notion fuel depth count false behind
        return (joined body others, left, total)
      let anchor (edge : Regex) (rest : List Symbol) : Read := do
        let (others, left, total) ← readSequence notion fuel depth groups true rest
        return (.both edge others, left, total)
      match symbols with
      | [] => .ok (.nothing, [], groups)
      | .bar :: _ => .ok (.nothing, symbols, groups)
      | .closing :: rest =>
          if depth = 0 then
            if notion = .extended then goOn (.one ')') rest groups
            else .error "Unmatched ) or \\)"
          else .ok (.nothing, symbols, groups)
      | .caret :: rest =>
          if atStart || notion = .extended then anchor .lineStart rest
          else goOn (.one '^') rest groups
      | .dollar :: rest =>
          if endsHere notion rest then anchor .lineEnd rest else goOn (.one '$') rest groups
      | .times least most :: rest =>
          if notion = .extended then readSequence notion fuel depth groups true rest
          else
            match least, most with
            | 0, none => goOn (.one '*') rest groups
            | 1, none => goOn (.one '+') rest groups
            | 0, some 1 => goOn (.one '?') rest groups
            | _, _ => .error "Invalid preceding regular expression"
      | .opening :: rest => do
          let (body, behind, count) ← readAlternatives notion fuel (depth + 1) (groups + 1) rest
          match behind with
          | .closing :: others => goOn (.group (groups + 1) body) others count
          | _ => throw "Unmatched ( or \\("
      | .literal character :: rest => goOn (.one character) rest groups
      | .any :: rest => goOn .any rest groups
      | .among negated ranges :: rest => goOn (.among negated ranges) rest groups
      | .edge edge :: rest => anchor edge rest
      | .again index :: rest =>
          if groups < index then .error "Invalid back reference"
          else goOn (.again index) rest groups

end

def parse (notion : Notion) (text : String) : Except String Regex := do
  let found ← symbols notion (text.length + 1) text.toList
  let (regex, _, _) ← readAlternatives notion (4 * found.length + 8) 0 0 found
  return regex

def groupCount : Regex → Nat
  | group _ body => groupCount body + 1
  | both first second => groupCount first + groupCount second
  | either first second => groupCount first + groupCount second
  | repeated body _ _ => groupCount body
  | _ => 0

end Regex

end CircuitDiagram.Shell
