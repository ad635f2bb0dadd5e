import CircuitDiagram.Machine.Shell.Arithmetic
import CircuitDiagram.Machine.Shell.Field
import CircuitDiagram.Machine.Shell.Reading.Command
import CircuitDiagram.Machine.Shell.State

/-!
Expansion: the parts of a word give way to the values they stand for. A part may stand for the
output of commands, so it is said from outside how commands are run.
-/

namespace CircuitDiagram.Shell

open Work

/-- Runs the commands of a script one line after the other, so that a fault counts only when its
line is reached. -/
def runFrom (runner : Runner) : (fuel : Nat) → Cursor → Work Unit
  | 0, _ => return
  | fuel + 1, cursor => do
      if cursor.isDone then return
      else
        let state ← get
        let start :=
          { cursor with
            aliases := state.aliases, documents := [], next := state.documents.length }
        match Reading.completeCommand start with
        | .error fault => do
            modify fun state => { state with line := fault.line }
            giveUp fault.complaint
        | .ok (command, rest) => do
            set { state with
              documents := rest.documents ++ state.documents, lineRead := rest.line }
            runner command
            runFrom runner fuel rest

def runScript (runner : Runner) (line : Nat) (text : String) : Work Unit := do
  runFrom runner (text.length + 2) (Cursor.start text line 0)

/-- Does some work and then what is to be done at the end of the shell, and ends it. -/
def concluding (runner : Runner) (work : Work Unit) : Work Unit := do
  let ended ← ending work
  match ended with
  | .signal number _ => throw (.signal number)
  | .code status =>
      match (← get).trap? 0 with
      | none => throw (.exit status)
      | some text => do
          modify fun state =>
            { state with
              status
              endStatus := some status
              traps := state.traps.filter fun entry => entry.1 != 0 }
          let last ← ending do
            runScript runner 1 text
            throw (.exit status)
          match last with
          | .signal number _ => throw (.signal number)
          | .code other => throw (.exit other)

def optionLetters : List Char := "efIimnsxvVECabu".toList

def firstSeparator (state : State) : String :=
  match state.value? "IFS" with
  | none => " "
  | some separators => String.ofList (separators.toList.take 1)

def parameter? (state : State) (name : String) : Option String :=
  match name with
  | "#" => some (toString state.arguments.length)
  | "?" => some (toString state.status)
  | "$" => some (toString state.shell)
  | "!" => state.jobs.head?.map fun job => toString job.1
  | "-" => some (String.ofList (optionLetters.reverse.filter state.hasOption))
  | "0" => some state.name
  | "@" => some (String.intercalate (firstSeparator state) state.arguments)
  | "*" => some (String.intercalate (firstSeparator state) state.arguments)
  | _ =>
      match name.toNat? with
      | some number => state.arguments[number - 1]?
      | none => state.value? name

/-- Where a word stands: whether it is between double quotes, and whether it may become several
fields. -/
structure Place where
  quoted : Bool
  splits : Bool

def valuePiece (place : Place) (value : String) : List Piece :=
  if place.quoted then [.text value true] else [.loose value]

def argumentPieces (place : Place) : List String → List Piece
  | [] => []
  | [argument] => valuePiece place argument
  | argument :: rest =>
      valuePiece place argument ++ .gap place.quoted :: argumentPieces place rest

def parameterPieces (state : State) (name : String) (place : Place) : List Piece :=
  if place.splits && (name == "@" || (name == "*" && !place.quoted)) then
    argumentPieces place state.arguments
  else valuePiece place ((parameter? state name).getD "")

def textOf (pieces : List Piece) : String :=
  (joinPieces pieces).text

def loosen : Piece → Piece
  | .text text false => .loose text
  | piece => piece

def trimmed (atEnd longest : Bool) (value : String) (items : List PatternItem) : String :=
  String.ofList <|
    if atEnd then withoutEnd longest items value.toList
    else withoutBeginning longest items value.toList

def numberOf (name : String) : Work Int := do
  let value := ((parameter? (← get) name).getD "").toList
  if value.isEmpty then return 0
  else
    match Arithmetic.leadingNumber? true value with
    | some (number, rest) =>
        if rest.all Char.isWhitespace then return number else illegal value
    | none => illegal value
where
  illegal (value : List Char) : Work Int :=
    giveUp ("Illegal number: " ++ String.ofList value)

/-- The value of an expression; the text it was read from is told when it has none. -/
def evaluate (text : String) : Arithmetic.Expression → Work Int
  | .number value => return value
  | .variable name => numberOf name
  | .unary operator operand => return Arithmetic.unary operator (← evaluate text operand)
  | .binary operator left right => do
      let first ← evaluate text left
      if operator == "&&" then
        if first = 0 then return 0
        else return Arithmetic.truth ((← evaluate text right) != 0)
      else if operator == "||" then
        if first != 0 then return 1
        else return Arithmetic.truth ((← evaluate text right) != 0)
      else combine operator first (← evaluate text right)
  | .conditional test yes no => do
      if (← evaluate text test) != 0 then evaluate text yes else evaluate text no
  | .assignment name operator value => do
      let right ← evaluate text value
      let result ← match operator with
        | none => pure right
        | some change => do combine change (← numberOf name) right
      assign name (toString result)
      return result
where
  combine (operator : String) (left right : Int) : Work Int :=
    match Arithmetic.binary? operator left right with
    | some value => return value
    | none => giveUp ("arithmetic expression: division by zero: \"" ++ text ++ "\"")

def calculate (text : String) : Work Int :=
  match Arithmetic.parse text with
  | .ok expression => evaluate text expression
  | .error lack => giveUp ("arithmetic expression: " ++ lack ++ ": \"" ++ text ++ "\"")

def homeOf (state : State) (text : String) : Option (String × String) :=
  match text.toList with
  | '~' :: rest =>
      if rest.isEmpty || rest.head? == some '/' then
        (state.value? "HOME").map fun home => (home, String.ofList rest)
      else none
  | _ => none

def expandEach (expand : Place → Part → Work (List Piece)) (place : Place) :
    Word → Work (List Piece)
  | [] => return []
  | part :: rest => do
      let pieces ← expand place part
      return pieces ++ (← expandEach expand place rest)

def isMissing (emptyIsMissing : Bool) (value : Option String) : Bool :=
  match value with
  | none => true
  | some text => emptyIsMissing && text.isEmpty

def requireValue (name : String) : Work Unit := do
  let state ← get
  if state.hasOption 'u' && (parameter? state name).isNone then
    giveUp (name ++ ": parameter not set")
  else return

/-- What a parameter gives way to; `word` replaces the word of its treatment. -/
def treat (name : String) (treatment : Treatment) (place : Place) (hasWord : Bool)
    (word : Place → Work (List Piece)) : Work (List Piece) := do
  let state ← get
  let value := parameter? state name
  match treatment with
  | .malformed => giveUp "Bad substitution"
  | .asItIs => do
      requireValue name
      return parameterPieces state name place
  | .length => do
      requireValue name
      return valuePiece place (toString (value.getD "").length)
  | .trimmed atEnd longest => do
      requireValue name
      let pieces ← word ⟨false, false⟩
      return valuePiece place (trimmed atEnd longest (value.getD "") (pattern (joinPieces pieces)))
  | .standIn operator emptyIsMissing =>
      let missing := isMissing emptyIsMissing value
      if operator = '+' then
        if missing then return [] else standIn
      else if !missing then return parameterPieces state name place
      else if operator = '-' then standIn
      else if operator = '=' then do
        if !isName name then giveUp (name ++ ": bad variable name")
        else
          let text := textOf (← word { place with splits := false })
          assign name text
          return valuePiece place text
      else
        let told := textOf (← word { place with splits := false })
        giveUp (name ++ ": " ++
          if hasWord then told
          else if emptyIsMissing then "parameter not set or null" else "parameter not set")
where
  standIn : Work (List Piece) := do
    let pieces ← word place
    return if place.quoted then pieces else pieces.map loosen

/-- Replaces a part; `depth` bounds how deep parts stand in the words of others. -/
def expandPart (runner : Runner) : (depth : Nat) → Place → Part → Work (List Piece)
  | 0, _, _ => return []
  | depth + 1, place, part => do
      match part with
      | .text text quoted => return [.text text (quoted || place.quoted)]
      | .quotes [.parameter "@" .asItIs []] =>
          let arguments := (← get).arguments
          if !place.splits then
            return parameterPieces (← get) "@" { place with quoted := true }
          else if arguments.isEmpty then return []
          else return .mark :: argumentPieces { place with quoted := true } arguments
      | .quotes parts =>
          let pieces ← expandEach (expandPart runner depth) { place with quoted := true } parts
          return .mark :: pieces
      | .parameter name treatment word =>
          treat name treatment place (!word.isEmpty) fun inner =>
            expandEach (expandPart runner depth) inner word
      | .output body =>
          let (bytes, ended) ← capture (concluding runner (runner body))
          report ended
          modify fun state => { state with substituted := ended.number }
          return valuePiece place (textOfBytes (withoutLineEnds (bytes.filter (· != 0))))
      | .arithmetic expression =>
          let pieces ← expandEach (expandPart runner depth) ⟨true, false⟩ expression
          return valuePiece place (toString (← calculate (textOf pieces)))

def deepest : Nat := 1000

/-- A word whose first part is a tilde begins with the home directory. -/
def withHome (state : State) : Word → List Piece × Word
  | .text text false :: rest =>
      match homeOf state text with
      | some (home, others) =>
          if others.isEmpty && !rest.isEmpty then ([], .text text false :: rest)
          else ([.text home true], .text others false :: rest)
      | none => ([], .text text false :: rest)
  | word => ([], word)

def expandWord (runner : Runner) (place : Place) (word : Word) : Work (List Piece) := do
  let (home, rest) := withHome (← get) word
  return home ++ (← expandEach (expandPart runner deepest) place rest)

def expandText (runner : Runner) (word : Word) : Work String := do
  return textOf (← expandWord runner ⟨false, false⟩ word)

def expandFields (runner : Runner) : List Word → Work (List String)
  | [] => return []
  | word :: rest => do
      let pieces ← expandWord runner ⟨false, true⟩ word
      let state ← get
      let fields := cutPieces state.separators pieces
      let here :=
        if state.hasOption 'f' then fields.map Field.text
        else fields.flatMap (Field.spread state.files)
      return here ++ (← expandFields runner rest)

def documentText (runner : Runner) (index : Nat) : Work String := do
  let parts := ((← get).documents.lookup index).getD []
  return textOf (← expandEach (expandPart runner deepest) ⟨true, false⟩ parts)

end CircuitDiagram.Shell
