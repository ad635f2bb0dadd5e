import CircuitDiagram.Machine.Shell.Arithmetic
import CircuitDiagram.Machine.Shell.Regex

/-!
Scripts of the line editor. A script is a row of commands; blocks are jumps, so that the place to
go on at is always a number. What is wrong with a script is told with the place where it was
noticed.
-/

namespace CircuitDiagram.Shell.Tool.Editor

inductive Address where
  | line (number : Nat)
  | every (first step : Nat)
  | last
  /-- Lines with a match; without an expression, of the one that was used last. -/
  | having (regex : Option Regex) (manner : Regex.Manner)
  | further (lines : Nat)
  | multiple (number : Nat)

structure Scope where
  first : Option Address
  second : Option Address
  negated : Bool

inductive Casing where
  | upper
  | lower
  | upperOne
  | lowerOne
  | plain
  deriving DecidableEq, Repr

inductive ReplacementPart where
  | character (character : Char)
  /-- What a group has matched; the one with number zero is the whole match. -/
  | group (index : Nat)
  | casing (casing : Casing)
  deriving DecidableEq, Repr

structure Substitution where
  regex : Option Regex
  manner : Regex.Manner
  replacement : List ReplacementPart
  all : Bool
  number : Nat
  prints : Bool
  path : Option String

inductive Action where
  | substitute (substitution : Substitution)
  | exchange (pairs : List (Char × Char))
  | insert (text : String)
  | append (text : String)
  | change (text : String)
  | jump (label : String)
  | jumpIfChanged (label : String)
  | jumpUnlessChanged (label : String)
  | label (name : String)
  | skipTo (place : Nat)
  | nothing
  | read (path : String)
  | write (path : String)
  | quit (silent : Bool) (status : Nat)
  | plain (letter : Char)

structure Instruction where
  scope : Scope
  action : Action

structure Cursor where
  rest : List Char
  passed : Nat
  line : Nat

structure Complaint where
  text : String
  place : Nat
  line : Nat

abbrev Reading := StateT Cursor (Except Complaint)

namespace Reading

def refuse {α : Type} (text : String) : Reading α := do
  let cursor ← get
  throw ⟨text, cursor.passed, cursor.line⟩

def next : Reading (Option Char) := do
  let cursor ← get
  match cursor.rest with
  | [] => return none
  | character :: rest => do
      let line := if character = '\n' then cursor.line + 1 else cursor.line
      set (⟨rest, cursor.passed + 1, line⟩ : Cursor)
      return some character

def peek : Reading (Option Char) := do
  return (← get).rest.head?

def skip : Nat → Reading Unit
  | 0 => return
  | count + 1 => do
      let _ ← next
      skip count

def takeWhile (test : Char → Bool) : Reading (List Char) := do
  let taken := (← get).rest.takeWhile test
  skip taken.length
  return taken

def isBlank (character : Char) : Bool :=
  character = ' ' || character = '\t'

def isSpace (character : Char) : Bool :=
  " \t\n\x0b\x0c\r".toList.contains character

def skipBlanks : Reading Unit := do
  let _ ← takeWhile isBlank
  return

def number : Reading Nat := do
  return Arithmetic.digitsValue 10 (← takeWhile Char.isDigit)

def delimited (delimiter : Char) (isRegex : Bool) : (fuel : Nat) → Reading (Option (List Char))
  | 0 => return none
  | fuel + 1 => do
      match ← peek with
      | none => return none
      | some '\n' => return none
      | some '\\' => do
          let _ ← next
          match ← next with
          | none => return none
          | some character =>
              let kept : List Char :=
                if character = delimiter && (isRegex || character != '&') then [character]
                else if character = '\n' && isRegex then ['\n']
                else ['\\', character]
              return (← delimited delimiter isRegex fuel).map (kept ++ ·)
      | some character => do
          let _ ← next
          if character = delimiter then return some []
          else return (← delimited delimiter isRegex fuel).map (character :: ·)

def textUpTo (delimiter : Char) (isRegex : Bool) : Reading (Option (List Char)) := do
  delimited delimiter isRegex ((← get).rest.length + 1)

def control? (letter : Char) : Option Char :=
  match letter with
  | 'a' => some '\x07'
  | 'f' => some '\x0c'
  | 'n' => some '\n'
  | 'r' => some '\r'
  | 't' => some '\t'
  | 'v' => some '\x0b'
  | _ => none

/-- A regular expression without escapes for characters that cannot be seen. -/
def withControls : List Char → List Char
  | '\\' :: letter :: rest =>
      match control? letter with
      | some character => character :: withControls rest
      | none => '\\' :: letter :: withControls rest
  | character :: rest => character :: withControls rest
  | [] => []

def regexOf (notion : Regex.Notion) (text : List Char) : Reading (Option Regex) :=
  if text.isEmpty then return none
  else
    match Regex.parse notion (String.ofList (withControls text)) with
    | .ok regex => return some regex
    | .error complaint => refuse complaint

def regexManner : (fuel : Nat) → Bool → Reading Regex.Manner
  | 0, ignoresCase => return ⟨ignoresCase⟩
  | fuel + 1, ignoresCase => do
      skipBlanks
      match ← peek with
      | some 'I' => do
          let _ ← next
          regexManner fuel true
      | some 'M' => do
          let _ ← next
          regexManner fuel ignoresCase
      | _ => return ⟨ignoresCase⟩

def address (notion : Regex.Notion) : Reading (Option Address) := do
  match ← peek with
  | some '$' => do
      let _ ← next
      return some .last
  | some '/' => do
      let _ ← next
      regexAddress '/'
  | some '\\' => do
      let _ ← next
      match ← next with
      | none => refuse "unterminated address regex"
      | some delimiter => regexAddress delimiter
  | some '+' => do
      let _ ← next
      skipBlanks
      return some (.further (← number))
  | some '~' => do
      let _ ← next
      skipBlanks
      return some (.multiple (← number))
  | some character =>
      if !character.isDigit then return none
      else
        let first ← number
        skipBlanks
        if (← peek) == some '~' then
          let _ ← next
          skipBlanks
          let step ← number
          return some (if step = 0 then .line first else .every first step)
        else return some (.line first)
  | none => return none
where
  regexAddress (delimiter : Char) : Reading (Option Address) := do
    match ← textUpTo delimiter true with
    | none => refuse "unterminated address regex"
    | some text => do
        let manner ← regexManner ((← get).rest.length + 1) false
        return some (.having (← regexOf notion text) manner)

def isZero : Option Address → Bool
  | some (.line 0) => true
  | _ => false

def isRegexAddress : Option Address → Bool
  | some (.having _ _) => true
  | _ => false

def scope (notion : Regex.Notion) : Reading Scope := do
  let first ← address notion
  match first with
  | some (.further _) => refuse "invalid usage of +N or ~N as first address"
  | some (.multiple _) => refuse "invalid usage of +N or ~N as first address"
  | _ => pure ()
  let second ← (if first.isNone then pure none else do
    skipBlanks
    if (← peek) == some ',' then
      let _ ← next
      skipBlanks
      match ← address notion with
      | some found => pure (some found)
      | none => do
          let _ ← next
          refuse "unexpected \x60,'"
    else pure none)
  skipBlanks
  if isZero first && !isRegexAddress second then
    let _ ← next
    refuse "invalid usage of line address 0"
  if (← peek) == some '!' then
    let _ ← next
    skipBlanks
    if (← peek) == some '!' then
      let _ ← next
      refuse "multiple \x60!'s"
    return ⟨first, second, true⟩
  else return ⟨first, second, false⟩

def endOfCommand : Reading Unit := do
  skipBlanks
  match ← peek with
  | none => return
  | some '\x7d' => return
  | some '#' => return
  | some character => do
      let _ ← next
      if character != '\n' && character != ';' then refuse "extra characters after command"

def restOfLine : Reading (List Char) :=
  takeWhile (· != '\n')

def fileName : Reading String := do
  skipBlanks
  let path ← restOfLine
  if path.isEmpty then refuse "missing filename in r/R/w/W commands"
  else return String.ofList path

def labelName : Reading String := do
  skipBlanks
  return String.ofList (← takeWhile fun character => !isSpace character && character != ';')

def textLines : (fuel : Nat) → Reading (List Char)
  | 0 => return []
  | fuel + 1 => do
      match ← next with
      | none => return []
      | some '\n' => return []
      | some '\\' => do
          match ← next with
          | none => return []
          | some letter =>
              let character := if letter = 'n' then letter else (control? letter).getD letter
              return character :: (← textLines fuel)
      | some character => return character :: (← textLines fuel)

def commandText : Reading String := do
  skipBlanks
  match ← peek with
  | none => refuse "expected \\ after \x60a', \x60c' or \x60i'"
  | some '\\' => do
      let before ← get
      let _ ← next
      let _ ← takeWhile isBlank
      match ← peek with
      | none => do
          let _ ← next
          return ""
      | some '\n' => do
          let _ ← next
          lines
      | _ => do
          set before
          let _ ← next
          lines
  | _ => lines
where
  lines : Reading String := do
    return String.ofList (← textLines ((← get).rest.length + 1)) ++ "\n"

def replacementParts : List Char → List ReplacementPart
  | [] => []
  | '&' :: rest => .group 0 :: replacementParts rest
  | '\\' :: letter :: rest =>
      (if letter.isDigit then .group (letter.toNat - '0'.toNat)
        else
          match letter with
          | 'U' => .casing .upper
          | 'L' => .casing .lower
          | 'u' => .casing .upperOne
          | 'l' => .casing .lowerOne
          | 'E' => .casing .plain
          | _ => .character ((control? letter).getD letter)) :: replacementParts rest
  | character :: rest => .character character :: replacementParts rest

def flags : (fuel : Nat) → Substitution → Reading Substitution
  | 0, substitution => return substitution
  | fuel + 1, substitution => do
      match ← peek with
      | some '\x7d' => return substitution
      | some '#' => return substitution
      | _ =>
          match ← next with
          | none => return substitution
          | some '\n' => return substitution
          | some ';' => return substitution
          | some ' ' => flags fuel substitution
          | some 'i' => flags fuel { substitution with manner := ⟨true⟩ }
          | some 'I' => flags fuel { substitution with manner := ⟨true⟩ }
          | some 'm' => flags fuel substitution
          | some 'M' => flags fuel substitution
          | some 'g' =>
              if substitution.all then refuse "multiple \x60g' options to \x60s' command"
              else flags fuel { substitution with all := true }
          | some 'p' =>
              if substitution.prints then refuse "multiple \x60p' options to \x60s' command"
              else flags fuel { substitution with prints := true }
          | some 'w' => return { substitution with path := some (← fileName) }
          | some character =>
              if !character.isDigit then refuse "unknown option to \x60s'"
              else if substitution.number != 0 then
                refuse "multiple number options to \x60s' command"
              else
                let others ← takeWhile Char.isDigit
                let count := Arithmetic.digitsValue 10 (character :: others)
                if count = 0 then refuse "number option to \x60s' command may not be zero"
                else flags fuel { substitution with number := count }

def highestGroup (parts : List ReplacementPart) : Nat :=
  parts.foldl (fun highest part =>
    match part with
    | .group index => if highest < index then index else highest
    | _ => highest) 0

def substitution (notion : Regex.Notion) : Reading Action := do
  let unterminated := "unterminated \x60s' command"
  match ← next with
  | none => refuse unterminated
  | some delimiter => do
      if delimiter = '\n' || delimiter = '\\' then refuse unterminated
      let some wanted ← textUpTo delimiter true | refuse unterminated
      let some replacement ← textUpTo delimiter false | refuse unterminated
      let parts := replacementParts replacement
      let found ← flags ((← get).rest.length + 2)
        ⟨none, ⟨false⟩, parts, false, 0, false, none⟩
      let regex ← regexOf notion wanted
      let groups := (regex.map Regex.groupCount).getD 9
      if groups < highestGroup parts then
        refuse ("invalid reference \\" ++ toString (highestGroup parts) ++
          " on \x60s' command's RHS")
      else return .substitute { found with regex }

def exchanged : List Char → List Char
  | '\\' :: '\\' :: rest => '\\' :: exchanged rest
  | '\\' :: letter :: rest =>
      match control? letter with
      | some character => character :: exchanged rest
      | none => '\\' :: letter :: exchanged rest
  | character :: rest => character :: exchanged rest
  | [] => []

def exchange : Reading Action := do
  let unterminated := "unterminated \x60y' command"
  match ← next with
  | none => refuse unterminated
  | some delimiter => do
      let some left ← textUpTo delimiter false | refuse unterminated
      let some right ← textUpTo delimiter false | refuse unterminated
      let before := exchanged left
      let after := exchanged right
      if before.length != after.length then
        refuse "strings for \x60y' command are different lengths"
      else do
        endOfCommand
        return .exchange (before.zip after)

def quitStatus : Reading Nat := do
  skipBlanks
  let status ← number
  endOfCommand
  return status

def action (notion : Regex.Notion) (scope : Scope) : Reading Action := do
  match ← next with
  | none => refuse "missing command"
  | some letter =>
      match letter with
      | 's' => substitution notion
      | 'y' => exchange
      | 'a' => return .append (← commandText)
      | 'i' => return .insert (← commandText)
      | 'c' => return .change (← commandText)
      | 'b' => return .jump (← jumpLabel)
      | 't' => return .jumpIfChanged (← jumpLabel)
      | 'T' => return .jumpUnlessChanged (← jumpLabel)
      | ':' => do
          if scope.first.isSome then refuse ": doesn't want any addresses"
          else
            let name ← labelName
            if name.isEmpty then refuse "\":\" lacks a label" else return .label name
      | 'r' => return .read (← fileName)
      | 'w' => return .write (← fileName)
      | 'q' => quits false
      | 'Q' => quits true
      | 'l' => do
          let _ ← quitStatus
          return .plain 'l'
      | _ =>
          if "=dDpPnNgGhHxzF".toList.contains letter then do
            endOfCommand
            return .plain letter
          else refuse ("unknown command: \x60" ++ letter.toString ++ "'")
where
  jumpLabel : Reading String := do
    let name ← labelName
    return String.ofList (name.toList.takeWhile (· != '\x7d'))
  quits (silent : Bool) : Reading Action := do
    if scope.second.isSome then refuse "command only uses one address"
    else return .quit silent (← quitStatus)

end Reading

/-- Instructions, the last first; the places of the blocks that are open, the last first; and
whether lines are printed only when a command says so. -/
structure Sketch where
  instructions : Array Instruction
  opened : List Nat
  silent : Bool

namespace Reading

/-- Reads a comment; the very first one may say that lines are not printed. -/
def comment (isFirst : Bool) (sketch : Sketch) : Reading Sketch := do
  let before := (← get).passed
  let text ← restOfLine
  return if isFirst && before = 1 && text == ['n'] then { sketch with silent := true } else sketch

def commands (notion : Regex.Notion) (isFirst : Bool) : (fuel : Nat) → Sketch → Reading Sketch
  | 0, sketch => return sketch
  | fuel + 1, sketch => do
      let _ ← takeWhile fun character => isSpace character || character == ';'
      if (← peek).isNone then return sketch
      else
        let here ← scope notion
        let place := sketch.instructions.size
        match ← peek with
        | some '#' => do
            let _ ← next
            if here.first.isSome then refuse "comments don't accept any addresses"
            else commands notion isFirst fuel (← comment isFirst sketch)
        | some '\x7b' => do
            let _ ← next
            commands notion isFirst fuel
              { sketch with
                instructions := sketch.instructions.push
                  ⟨{ here with negated := !here.negated }, .nothing⟩
                opened := place :: sketch.opened }
        | some '\x7d' => do
            let _ ← next
            match sketch.opened with
            | [] => refuse "unexpected \x60\x7d'"
            | opening :: others => do
                if here.first.isSome then refuse "\x7d doesn't want any addresses"
                endOfCommand
                let closed := sketch.instructions.modify opening fun instruction =>
                  { instruction with action := .skipTo place }
                commands notion isFirst fuel
                  { sketch with
                    instructions := closed.push ⟨⟨none, none, false⟩, .nothing⟩
                    opened := others }
        | _ => do
            let found ← action notion here
            commands notion isFirst fuel
              { sketch with instructions := sketch.instructions.push ⟨here, found⟩ }

end Reading

def readText (notion : Regex.Notion) (isFirst : Bool) (sketch : Sketch) (text : String) :
    Except Complaint Sketch := do
  let (read, _) ← Reading.commands notion isFirst (text.length + 2) sketch ⟨text.toList, 0, 1⟩
  return read

def labelPlace? (instructions : Array Instruction) (name : String) : Option Nat :=
  instructions.findIdx? fun instruction =>
    match instruction.action with
    | .label other => other == name
    | _ => false

def missingLabel? (instructions : Array Instruction) : Option String :=
  instructions.toList.findSome? fun instruction =>
    match instruction.action with
    | .jump name => missing name
    | .jumpIfChanged name => missing name
    | .jumpUnlessChanged name => missing name
    | _ => none
where
  missing (name : String) : Option String :=
    if name.isEmpty || (labelPlace? instructions name).isSome then none else some name

end CircuitDiagram.Shell.Tool.Editor
