import CircuitDiagram.Machine.Shell.Reading.Cursor

/-!
Reading words: text, quotes, and what a dollar sign or a backquote begins. A backslash quotes the
next character; between double quotes it does so only before those that mean something there.
-/

namespace CircuitDiagram.Shell.Reading

def isDelimiter (character : Char) : Bool :=
  " \t\n;&|<>()".toList.contains character

def isQuoting : Mode → Bool
  | .quotes => true
  | .quotedBraces => true
  | .document => true
  | .arithmetic => true
  | _ => false

def unfinished : Mode → String
  | .arithmetic => "Missing '))'"
  | .braces => "Missing '\x7d'"
  | _ => "Unterminated quoted string"

def singleQuoted : (fuel : Nat) → Reading (List Char)
  | 0 => fault (unfinished .quotes)
  | fuel + 1 => do
      match ← peek with
      | none => fault (unfinished .quotes)
      | some character =>
          advance
          if character = '\'' then return []
          else return character :: (← singleQuoted fuel)

/-- The script between backquotes, without the backslashes that protect it there. -/
def backquoted (quoted : Bool) : (fuel : Nat) → Reading (List Char)
  | 0 => fault "EOF in backquote substitution"
  | fuel + 1 => do
      match ← peekJoined with
      | none => fault "EOF in backquote substitution"
      | some '\x60' =>
          advance
          return []
      | some '\\' =>
          advance
          match ← peek with
          | none => fault "EOF in backquote substitution"
          | some next =>
              advance
              let rest ← backquoted quoted fuel
              if next = '\\' || next = '\x60' || next = '$' || (quoted && next = '"') then
                return next :: rest
              else return '\\' :: next :: rest
      | some character =>
          advance
          return character :: (← backquoted quoted fuel)

def backquotedOutput (nest : Nest) (quoted : Bool) : Reading Part := do
  let line := (← get).line
  let script ← backquoted quoted ((← get).text.length + 1)
  return .output (← within script line (nest.list .optional))

def parameterName : Reading String := do
  match ← peekJoined with
  | none => return ""
  | some character =>
      if isNameStart character then takeWhileJoined isNameCharacter
      else if character.isDigit then takeWhileJoined Char.isDigit
      else return ""

def treatment : Reading Treatment := do
  match ← peekJoined with
  | some '%' => trimming '%' true
  | some '#' => trimming '#' false
  | some ':' => do
      advance
      match ← peekJoined with
      | some operator => standIn operator true
      | none => return .malformed
  | some '\x7d' => return .asItIs
  | some operator => standIn operator false
  | none => return .malformed
where
  trimming (sign : Char) (atEnd : Bool) : Reading Treatment := do
    advance
    return .trimmed atEnd (← passes sign)
  standIn (operator : Char) (emptyIsMissing : Bool) : Reading Treatment := do
    if operator = '\x7d' then return .malformed
    else
      advance
      if operator = '\n' then modify fun cursor => { cursor with line := cursor.line - 1 }
      if "-=?+".toList.contains operator then return .standIn operator emptyIsMissing
      else return .malformed

/-- The name of a special parameter, and what is done to it, when no other name is there. -/
def specialParameter : Reading (String × Treatment) := do
  match ← peekJoined with
  | none => return ("", .malformed)
  | some '#' => do
      advance
      let name ← parameterName
      if !name.isEmpty then
        return (name, if (← peekJoined) == some '\x7d' then .length else .malformed)
      else
        let before ← get
        match ← peekJoined with
        | none => return ("#", .malformed)
        | some special =>
            advance
            if special != '\x7d' && (← peekJoined) == some '\x7d' then
              return (special.toString,
                if isSpecialParameter special then .length else .malformed)
            else
              set before
              return ("#", ← treatment)
  | some special =>
      if special = '\x7d' then return ("", .malformed)
      else
        advance
        if isSpecialParameter special then return (special.toString, ← treatment)
        else return ("", .malformed)

def bracketed (nest : Nest) (quoted : Bool) : Reading Part := do
  let name ← parameterName
  let (name, treatment) ← if name.isEmpty then specialParameter else do
    pure (name, ← treatment)
  match treatment with
  | .trimmed _ _ => return .parameter name treatment (← nest.parts .braces)
  | _ =>
      return .parameter name treatment (← nest.parts (if quoted then .quotedBraces else .braces))

def dollar (nest : Nest) (quoted : Bool) : Reading Part := do
  match ← peekJoined with
  | some '(' =>
      advance
      if ← passes '(' then return .arithmetic (← nest.parts .arithmetic)
      else
        let awaited := (← get).awaited
        modify fun cursor => { cursor with awaited := [] }
        let body ← nest.list .optional
        match (← get).held with
        | some (.operator ")") =>
            modify fun cursor => { cursor with awaited, held := none }
            return .output body
        | some token => unexpected token (some ")")
        | none => unexpected .finished (some ")")
  | some '\x7b' =>
      advance
      bracketed nest quoted
  | some character =>
      if isNameStart character then
        return .parameter (← takeWhileJoined isNameCharacter) .asItIs []
      else if character.isDigit || isSpecialParameter character then
        advance
        return .parameter character.toString .asItIs []
      else return .text "$" quoted
  | none => return .text "$" quoted

def isEscapable (mode : Mode) (character : Char) : Bool :=
  character = '\\' || character = '\x60' || character = '$' ||
    (character = '"' && mode != .document) || (character = '\x7d' && mode == .quotedBraces)

def escaped (mode : Mode) (parts : Word) : Reading Word := do
  match ← peek with
  | none => return pushLiteral '\\' true parts
  | some character =>
      advance
      if isQuoting mode && !isEscapable mode character then
        return pushLiteral character true (pushLiteral '\\' true parts)
      else return pushLiteral character true parts

/-- The parts of a word up to what ends it, last first. In an arithmetic expression `depth` counts
open brackets; between quoted curly brackets `inner` tells whether quotes are open. -/
def partsFrom (nest : Nest) (mode : Mode) : (fuel : Nat) → (depth : Nat) → (inner : Bool) →
    Word → Reading Word
  | 0, _, _, _ => fault (unfinished mode)
  | fuel + 1, depth, inner, parts => do
      let quoted := isQuoting mode
      let goOn := partsFrom nest mode fuel depth inner
      let literal (character : Char) : Reading Word := do
        advance
        goOn (pushLiteral character quoted parts)
      match ← peekJoined with
      | none =>
          if mode == .plain || mode == .mark || mode == .document then return parts
          else if mode == .quotedBraces then fault (unfinished .quotes)
          else fault (unfinished mode)
      | some character =>
          if character = '\\' then
            advance
            goOn (← escaped mode parts)
          else if character = '\'' && !quoted then
            advance
            let text ← singleQuoted ((← get).text.length + 1)
            goOn (.quotes [.text (String.ofList text) true] :: parts)
          else if character = '"' && mode == .quotes then
            advance
            return parts
          else if character = '"' && mode == .quotedBraces then
            advance
            partsFrom nest mode fuel depth (!inner) parts
          else if character = '"' && !quoted then
            advance
            goOn (.quotes (← nest.parts .quotes) :: parts)
          else if mode == .mark && (character = '$' || character = '\x60') then
            literal character
          else if character = '$' then
            advance
            let part ← dollar nest quoted
            goOn (part :: parts)
          else if character = '\x60' then
            advance
            let part ← backquotedOutput nest quoted
            goOn (part :: parts)
          else if character = '\x7d' && (mode == .braces || (mode == .quotedBraces && !inner)) then
            advance
            return parts
          else if (mode == .plain || mode == .mark) && isDelimiter character then return parts
          else if mode == .arithmetic && character = '(' then
            advance
            partsFrom nest mode fuel (depth + 1) inner (pushLiteral character quoted parts)
          else if mode == .arithmetic && character = ')' then
            advance
            if depth = 0 then
              if ← passes ')' then return parts
              else goOn (pushLiteral character quoted parts)
            else partsFrom nest mode fuel (depth - 1) inner (pushLiteral character quoted parts)
          else literal character

def partsIn (nest : Nest) (mode : Mode) : Reading Word := do
  return (← partsFrom nest mode ((← get).text.length + 1) 0 false []).reverse

end CircuitDiagram.Shell.Reading
