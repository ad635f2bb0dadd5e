import CircuitDiagram.Machine.Shell.Reading.Word

/-!
Reading commands. Tokens are read one at a time, because it depends on the place whether a word
is a keyword and whether a line end counts. A complete command goes up to the end of a line, so
that what stands before a faulty line can be run.
-/

namespace CircuitDiagram.Shell.Reading

def keywords : List String :=
  ["!", "case", "do", "done", "elif", "else", "esac", "fi", "for", "if", "in", "then", "until",
    "while", "\x7b", "\x7d"]

def closingKeywords : List String :=
  ["do", "done", "elif", "else", "esac", "fi", "then", "\x7d"]

def Token.closesList : Token → Bool
  | .finished => true
  | .operator text => text == ")" || text == ";;"
  | .keyword text => closingKeywords.contains text
  | _ => false

/-- The text of a word without anything in it that is quoted or gives way to a value. -/
def bareText? : Word → Option String
  | [] => some ""
  | [.text text false] => some text
  | _ => none

/-- The redirection operator that comes next, and the stream that it leads if no other is named. -/
def redirectionOperator : Reading (Nat × String) := do
  if ← passes '>' then
    if ← passes '>' then return (1, ">>")
    else if ← passes '|' then return (1, ">|")
    else if ← passes '&' then return (1, ">&")
    else return (1, ">")
  else
    advance
    if ← passes '<' then
      if ← passes '-' then return (0, "<<-") else return (0, "<<")
    else if ← passes '&' then return (0, "<&")
    else if ← passes '>' then return (0, "<>")
    else return (0, "<")

/-- A word, or a redirection if all there is before its sign is the digit of a stream. -/
def wordToken (nest : Nest) : Reading Token := do
  let before ← get
  let digit? ← peekJoined
  let isSign (character : Option Char) : Bool := character == some '<' || character == some '>'
  match digit? with
  | none => return .finished
  | some digit =>
      if isSign digit? then
        let (stream, operator) ← redirectionOperator
        return .lead stream operator
      else if digit.isDigit then
        advance
        if isSign (← peekJoined) then
          let (_, operator) ← redirectionOperator
          return .lead (digit.toNat - '0'.toNat) operator
        else
          set before
          return .word (← partsIn nest .plain)
      else return .word (← partsIn nest .plain)

def skipBlanks : (fuel : Nat) → Reading Unit
  | 0 => return
  | fuel + 1 => do
      match ← peekJoined with
      | some ' ' => do
          advance
          skipBlanks fuel
      | some '\t' => do
          advance
          skipBlanks fuel
      | some '#' => modify fun cursor => { cursor with text := cursor.text.dropWhile (· != '\n') }
      | _ => return

def freshToken (nest : Nest) : Reading Token := do
  skipBlanks ((← get).text.length + 1)
  let double (character : Char) : Reading Token := do
    advance
    if ← passes character then return .operator (String.ofList [character, character])
    else return .operator character.toString
  match ← peekJoined with
  | none => return .finished
  | some character =>
      if "\n()".toList.contains character then
        advance
        return .operator character.toString
      else if "&|;".toList.contains character then double character
      else wordToken nest

def heldOrFresh (nest : Nest) : Reading Token := do
  match (← get).held with
  | some token => do
      modify fun cursor => { cursor with held := none }
      return token
  | none => freshToken nest

/-- The text up to a line that is the mark of a here-document, and what follows that line. A line
that ends in a backslash which counts goes on in the next one. -/
def documentLines (awaited : Awaited) : (goesOn : Bool) → (fuel : Nat) → List Char →
    List Char × List Char
  | _, 0, text => ([], text)
  | _, _ + 1, [] => ([], [])
  | goesOn, fuel + 1, text =>
      let line := text.takeWhile (· != '\n')
      let rest := text.drop line.length
      let shown := if awaited.losesTabs then line.dropWhile (· == '\t') else line
      if !goesOn && String.ofList shown == awaited.mark then ([], rest.drop 1)
      else
        let backslashes := (line.reverse.takeWhile (· == '\\')).length
        let (others, behind) := documentLines awaited
          (awaited.expands && backslashes % 2 == 1) fuel (rest.drop 1)
        ((if goesOn then line else shown) ++ rest.take 1 ++ others, behind)

def readDocument (nest : Nest) (awaited : Awaited) : Reading Unit := do
  let cursor ← get
  let (text, rest) := documentLines awaited false (cursor.text.length + 1) cursor.text
  let parts ←
    if awaited.expands then within text cursor.line (partsIn nest .document)
    else pure [.text (String.ofList text) true]
  let passed := (cursor.text.take (cursor.text.length - rest.length)).countP (· == '\n')
  modify fun later =>
    { later with
      text := rest
      line := cursor.line + passed
      documents := (awaited.index, parts) :: later.documents }

def readEach (nest : Nest) : List Awaited → Reading Unit
  | [] => return
  | awaited :: rest => do
      readDocument nest awaited
      readEach nest rest

def readDocuments (nest : Nest) : Reading Unit := do
  let awaited := (← get).awaited
  modify fun cursor => { cursor with awaited := [] }
  readEach nest awaited

def skipLineEnds (nest : Nest) : (fuel : Nat) → Token → Reading Token
  | fuel + 1, .operator "\n" => do
      readDocuments nest
      skipLineEnds nest fuel (← freshToken nest)
  | _, token => return token

def asKeyword (token : Token) : Token :=
  match token with
  | .word word =>
      match bareText? word with
      | some text => if keywords.contains text then .keyword text else token
      | none => token
  | _ => token

structure Place where
  lineEnds : Bool
  keywords : Bool
  aliases : Bool
  deriving DecidableEq, Repr

namespace Place

def word : Place := ⟨true, false, false⟩

def leading : Place := ⟨true, false, true⟩

def sameLine : Place := ⟨true, true, true⟩

def command : Place := ⟨false, true, true⟩

def arm : Place := ⟨false, true, false⟩

end Place

/-- Whether a text has just been passed that leads on to the next word. -/
def isLedOn (before : Nat) (cursor : Cursor) : Bool :=
  let left := cursor.text.length
  cursor.opened.any fun opened =>
    opened.leadsOn && decide (left < opened.behind ∧ opened.behind < before)

/-- The text to be read in place of a word, unless the word is the end of that text. -/
def aliasOf? (cursor : Cursor) (word : Word) : Option (String × String) :=
  match bareText? word with
  | none => none
  | some name =>
      let left := cursor.text.length
      if cursor.opened.any fun opened => opened.name == name && decide (opened.behind ≤ left) then
        none
      else (cursor.aliases.lookup name).map fun text => (name, text)

def openAlias (name text : String) : Reading Unit :=
  modify fun cursor =>
    let behind := cursor.text.length
    let isBlank (character : Char) : Bool := character == ' ' || character == '\t'
    { cursor with
      text := text.toList ++ cursor.text
      opened := ⟨name, behind, text.toList.getLast?.any isBlank⟩ ::
        cursor.opened.filter fun opened => decide (opened.behind ≤ behind) }

/-- The next token in a place; `fuel` bounds the texts that are read in place of words. -/
def tokenIn (nest : Nest) : (fuel : Nat) → Place → Reading Token
  | 0, _ => heldOrFresh nest
  | fuel + 1, place => do
      let before := (← get).text.length
      let first ← heldOrFresh nest
      let found ←
        if place.lineEnds then pure first
        else skipLineEnds nest ((← get).text.length + 1) first
      match if place.keywords then asKeyword found else found with
      | .word word => do
          let cursor ← get
          if place.aliases || isLedOn before cursor then
            match aliasOf? cursor word with
            | none => return .word word
            | some (name, text) => do
                openAlias name text
                tokenIn nest fuel { place with aliases := true }
          else return .word word
      | other => return other

def token (nest : Nest) (place : Place) : Reading Token := do
  let cursor ← get
  tokenIn nest ((cursor.text.length + 2) * (cursor.aliases.length + 1)) place

def anyToken (nest : Nest) : Reading Token :=
  token nest .word

def commandToken (nest : Nest) : Reading Token :=
  token nest .command

def armToken (nest : Nest) : Reading Token :=
  token nest .arm

def expectKeyword (nest : Nest) (text : String) : Reading Unit := do
  match ← anyToken nest with
  | .keyword found => if found == text then return else unexpected (.keyword found) (some text)
  | other => unexpected other (some text)

def redirection (nest : Nest) (stream : Nat) (operator : String) : Reading Redirection := do
  if operator == "<<" || operator == "<<-" then
    skipBlanks ((← get).text.length + 1)
    let start ← peekJoined
    if start.isNone || start.any isDelimiter then unexpected (← freshToken nest) none
    else
      let parts ← partsIn nest .mark
      let index := (← get).next
      let awaited : Awaited :=
        ⟨index, markText parts, (bareText? parts).isSome, operator == "<<-"⟩
      modify fun cursor =>
        { cursor with next := index + 1, awaited := cursor.awaited ++ [awaited] }
      return .lead stream (.document index) []
  else
    match ← anyToken nest with
    | .word target => return .lead stream (kindOf operator) target
    | other => unexpected other none
where
  kindOf : String → RedirectionKind
    | "<" => .input
    | ">" => .output
    | ">|" => .replacement
    | ">>" => .append
    | "<>" => .update
    | _ => .share
  markText (parts : Word) : String :=
    String.join (parts.map fun part =>
      match part with
      | .text text _ => text
      | .quotes inner => String.join (inner.map fun quoted =>
          match quoted with
          | .text text _ => text
          | _ => "")
      | _ => "")

def redirectionsBehind (nest : Nest) : Reading (List Redirection) :=
  manyToEnd do
    match ← token nest .sameLine with
    | .lead stream operator => return some (← redirection nest stream operator)
    | other => do
        hold other
        return none

/-- The words, assignments and redirections of a simple command so far, last first. -/
structure Simple where
  assignments : List Assignment
  words : List Word
  redirections : List Redirection

def specialNames : List String :=
  [":", ".", "break", "continue", "eval", "exec", "exit", "export", "readonly", "return", "set",
    "shift", "times", "trap", "unset"]

def simpleFrom (nest : Nest) (line : Nat) (command : Reading Command) : (fuel : Nat) → Simple →
    Reading Command
  | 0, _ => unexpected .finished none
  | fuel + 1, simple => do
      match ← token nest (if simple.words.isEmpty then .leading else .word) with
      | .word word =>
          match (if simple.words.isEmpty then assignment? word else none) with
          | some assignment =>
              simpleFrom nest line command fuel
                { simple with assignments := assignment :: simple.assignments }
          | none =>
              simpleFrom nest line command fuel { simple with words := word :: simple.words }
      | .lead stream operator =>
          let led ← redirection nest stream operator
          simpleFrom nest line command fuel
            { simple with redirections := led :: simple.redirections }
      | other =>
          match other, simple with
          | .operator "(", ⟨[], [word], []⟩ => definition word
          | _, _ => do
              hold other
              return .simple line simple.assignments.reverse simple.words.reverse
                simple.redirections.reverse
where
  definition (word : Word) : Reading Command := do
    match ← anyToken nest with
    | .operator ")" =>
        match bareText? word with
        | some name =>
            if isName name && !specialNames.contains name then
              let start := (← get).line
              hold (← commandToken nest)
              return .function start name (← command)
            else fault "Bad function name"
        | none => fault "Bad function name"
    | other => unexpected other (some ")")

/-- The part of a conditional from behind `if` or `elif` up to its last word. -/
def conditional (nest : Nest) : (fuel : Nat) → Reading Command
  | 0 => unexpected .finished (some "fi")
  | fuel + 1 => do
      let test ← nest.list .inner
      expectKeyword nest "then"
      let thenPart ← nest.list .inner
      match ← anyToken nest with
      | .keyword "elif" => return .conditional test thenPart (← conditional nest fuel)
      | .keyword "else" => return .conditional test thenPart (← nest.list .inner)
      | other => do
          hold other
          return .conditional test thenPart .nothing

def listedWords (nest : Nest) : Reading (List Word) := do
  let words ← manyToEnd do
    match ← anyToken nest with
    | .word word => return some word
    | other => do
        hold other
        return none
  match ← anyToken nest with
  | .operator ";" => return words
  | .operator "\n" => do
      hold (.operator "\n")
      return words
  | other => unexpected other none

def eachCommand (nest : Nest) (line : Nat) : Reading Command := do
  match ← anyToken nest with
  | .word word =>
      match (bareText? word).filter isName with
      | none => fault "Bad for loop variable"
      | some name =>
          let words ← wordsOf
          match ← commandToken nest with
          | .keyword "do" => return .each line name words (← nest.list .inner)
          | other => unexpected other (some "do")
  | _ => fault "Bad for loop variable"
where
  wordsOf : Reading (List Word) := do
    match ← commandToken nest with
    | .keyword "in" => listedWords nest
    | .operator ";" => return [[.quotes [.parameter "@" .asItIs []]]]
    | other => do
        hold other
        return [[.quotes [.parameter "@" .asItIs []]]]

def patternWord : Token → Word
  | .word word => word
  | .keyword text => [.text text false]
  | _ => []

/-- The patterns of an arm from the first one on, up to the bracket behind them. -/
def patterns (nest : Nest) : (fuel : Nat) → Token → Reading (List Word)
  | 0, _ => unexpected .finished (some ")")
  | fuel + 1, first => do
      match ← anyToken nest with
      | .operator "|" => return patternWord first :: (← patterns nest fuel (← anyToken nest))
      | .operator ")" => return [patternWord first]
      | other => unexpected other (some ")")

def arms (nest : Nest) : (fuel : Nat) → Token → Reading (List Arm)
  | _, .keyword "esac" => return []
  | 0, _ => unexpected .finished (some "esac")
  | fuel + 1, first => do
      let start ← match first with
        | .operator "(" => anyToken nest
        | other => pure other
      let listed ← patterns nest ((← get).text.length + 1) start
      let body ← nest.list .optional
      match ← armToken nest with
      | .keyword "esac" => return [.on listed body]
      | .operator ";;" =>
          return .on listed body :: (← arms nest fuel (← armToken nest))
      | other => unexpected other (some ";;")

def selectCommand (nest : Nest) (line : Nat) : Reading Command := do
  match ← anyToken nest with
  | .word subject =>
      match ← commandToken nest with
      | .keyword "in" =>
          let first ← armToken nest
          return .select line subject (← arms nest ((← get).text.length + 1) first)
      | other => unexpected other (some "in")
  | other => fault (other.describe ++ " unexpected (expecting word)")

def redirected (nest : Nest) (line : Nat) (body : Command) : Reading Command := do
  match ← redirectionsBehind nest with
  | [] => return body
  | led => return .redirected line body led

def commandOf (nest : Nest) : (fuel : Nat) → Reading Command
  | 0 => unexpected .finished none
  | fuel + 1 => do
      let line := (← get).line
      match ← anyToken nest with
      | .keyword "if" =>
          let body ← conditional nest ((← get).text.length + 1)
          expectKeyword nest "fi"
          redirected nest line body
      | .keyword "while" => loop true line
      | .keyword "until" => loop false line
      | .keyword "for" =>
          let body ← eachCommand nest line
          expectKeyword nest "done"
          redirected nest line body
      | .keyword "case" => redirected nest line (← selectCommand nest line)
      | .keyword "\x7b" =>
          let body ← nest.list .inner
          expectKeyword nest "\x7d"
          redirected nest line body
      | .operator "(" =>
          let body ← nest.list .inner
          match ← anyToken nest with
          | .operator ")" => return .isolated line body (← redirectionsBehind nest)
          | other => unexpected other (some ")")
      | .word word => do
          hold (.word word)
          simpleFrom nest line (commandOf nest fuel) ((← get).text.length + 2) ⟨[], [], []⟩
      | .lead stream operator => do
          hold (.lead stream operator)
          simpleFrom nest line (commandOf nest fuel) ((← get).text.length + 2) ⟨[], [], []⟩
      | other => unexpected other none
where
  loop (whileSucceeds : Bool) (line : Nat) : Reading Command := do
    let test ← nest.list .inner
    expectKeyword nest "do"
    let body ← nest.list .inner
    expectKeyword nest "done"
    redirected nest line (.loop whileSucceeds test body)

def command (nest : Nest) : Reading Command := do
  commandOf nest ((← get).text.length + 2)

def pipeline (nest : Nest) : Reading Command := do
  let negated ← match ← anyToken nest with
    | .keyword "!" => do
        hold (← token nest .sameLine)
        pure true
    | other => do
        hold other
        pure false
  let first ← command nest
  let others ← manyToEnd do
    match ← anyToken nest with
    | .operator "|" => do
        hold (← commandToken nest)
        return some (← command nest)
    | other => do
        hold other
        return none
  let body := if others.isEmpty then first else .pipeline (first :: others)
  return if negated then .negated body else body

/-- Pipelines that hang on each other's success, from behind the first. -/
def chainFrom (nest : Nest) : (fuel : Nat) → Command → Reading Command
  | 0, first => return first
  | fuel + 1, first => do
      match ← anyToken nest with
      | .operator "&&" => do
          hold (← commandToken nest)
          chainFrom nest fuel (.ifSucceeds first (← pipeline nest))
      | .operator "||" => do
          hold (← commandToken nest)
          chainFrom nest fuel (.ifFails first (← pipeline nest))
      | other => do
          hold other
          return first

def chain (nest : Nest) : Reading Command := do
  chainFrom nest ((← get).text.length + 2) (← pipeline nest)

def joined : Command → Command → Command
  | .nothing, second => second
  | first, second => .sequence first second

def mayEnd (kind : ListKind) (isFirst : Bool) (next : Token) : Bool :=
  Token.closesList next && (!isFirst || kind == .optional) && kind != .line

/-- A list of commands behind those read so far. What ends it is held. -/
def listFrom (nest : Nest) (kind : ListKind) : (fuel : Nat) → (isFirst : Bool) → Command →
    Reading Command
  | 0, _, _ => unexpected .finished none
  | fuel + 1, isFirst, before => do
      match ← token nest { Place.command with lineEnds := kind == .line } with
      | .operator "\n" => do
          readDocuments nest
          return before
      | .finished => do
          readDocuments nest
          hold .finished
          return before
      | next =>
          hold next
          if mayEnd kind isFirst next then return before
          else
            let line := (← get).line
            let body ← chain nest
            match ← anyToken nest with
            | .operator "&" =>
                listFrom nest kind fuel false (joined before (.background line body))
            | .operator ";" => listFrom nest kind fuel false (joined before body)
            | .operator "\n" => do
                hold (.operator "\n")
                listFrom nest kind fuel false (joined before body)
            | .finished => do
                readDocuments nest
                hold .finished
                return joined before body
            | other =>
                if kind == .line then unexpected other none
                else
                  hold other
                  return joined before body

def list (nest : Nest) (kind : ListKind) : Reading Command := do
  listFrom nest kind ((← get).text.length + 2) true .nothing

def nestOf : (depth : Nat) → Nest
  | 0 => ⟨fun _ => fault "nested too deep", fun _ => fault "nested too deep"⟩
  | depth + 1 => ⟨fun kind => list (nestOf depth) kind, fun mode => partsIn (nestOf depth) mode⟩

def completeCommand : Reading Command := do
  (nestOf ((← get).text.length + 2)).list .line

end CircuitDiagram.Shell.Reading

namespace CircuitDiagram.Shell

def Cursor.start (text : String) (line next : Nat) : Cursor :=
  ⟨text.toList, line, none, [], [], [], [], next⟩

def Cursor.isDone (cursor : Cursor) : Bool :=
  cursor.text.isEmpty && cursor.held.all fun token => token matches .finished

end CircuitDiagram.Shell
