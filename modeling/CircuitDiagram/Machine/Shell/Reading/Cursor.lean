import CircuitDiagram.Machine.Shell.Tree

/-!
Reading a script. A cursor holds what is left of the script, the line, a token that has been
read too early, and the here-documents: those whose text is still to come and those that are
complete. A script that makes no sense has a fault on a line.
-/

namespace CircuitDiagram.Shell

structure Fault where
  line : Nat
  complaint : String
  deriving DecidableEq, Repr

inductive Token where
  | word (word : Word)
  | lead (stream : Nat) (operator : String)
  | operator (text : String)
  | keyword (text : String)
  | finished

def Token.describe : Token → String
  | .word _ => "word"
  | .lead _ _ => "redirection"
  | .operator text => if text == "\n" then "newline" else "\"" ++ text ++ "\""
  | .keyword text => "\"" ++ text ++ "\""
  | .finished => "end of file"

structure Awaited where
  index : Nat
  mark : String
  expands : Bool
  losesTabs : Bool
  deriving DecidableEq, Repr

/-- A word in whose place a text is read, and how much is behind that text. -/
structure Opened where
  name : String
  behind : Nat
  /-- Whether the text ends in a blank: then one may be read in place of the next word too. -/
  leadsOn : Bool
  deriving DecidableEq, Repr

structure Cursor where
  text : List Char
  line : Nat
  held : Option Token
  /-- The texts that are read in place of words with which commands begin. -/
  aliases : List (String × String)
  opened : List Opened
  awaited : List Awaited
  documents : List (Nat × Word)
  next : Nat

abbrev Reading := StateT Cursor (Except Fault)

/-- How a list of commands is bounded: by the end of a line, by a word of the command around it
that wants commands, or by one that can do without. -/
inductive ListKind where
  | line
  | inner
  | optional
  deriving DecidableEq, Repr

inductive Mode where
  | plain
  | mark
  | quotes
  | braces
  | quotedBraces
  | arithmetic
  | document
  deriving DecidableEq, Repr

structure Nest where
  list : ListKind → Reading Command
  parts : Mode → Reading Word

namespace Reading

variable {α : Type}

def fault (complaint : String) : Reading α := do
  throw ⟨(← get).line, "Syntax error: " ++ complaint⟩

def peek : Reading (Option Char) := do
  return (← get).text.head?

def advance : Reading Unit :=
  modify fun cursor =>
    { cursor with
      text := cursor.text.drop 1
      line := if cursor.text.head? == some '\n' then cursor.line + 1 else cursor.line }

def joinLines : (fuel : Nat) → Reading Unit
  | 0 => return
  | fuel + 1 => do
      match (← get).text with
      | '\\' :: '\n' :: rest =>
          modify fun cursor => { cursor with text := rest, line := cursor.line + 1 }
          joinLines fuel
      | _ => return

def peekJoined : Reading (Option Char) := do
  joinLines (← get).text.length
  peek

def passes (character : Char) : Reading Bool := do
  if (← peekJoined) == some character then
    advance
    return true
  else return false

def takeJoined (wanted : Char → Bool) : (fuel : Nat) → Reading (List Char)
  | 0 => return []
  | fuel + 1 => do
      match ← peekJoined with
      | none => return []
      | some character =>
          if wanted character then
            advance
            return character :: (← takeJoined wanted fuel)
          else return []

def takeWhileJoined (wanted : Char → Bool) : Reading String := do
  return String.ofList (← takeJoined wanted ((← get).text.length + 1))

def many (step : Reading (Option α)) : (fuel : Nat) → Reading (List α)
  | 0 => return []
  | fuel + 1 => do
      match ← step with
      | none => return []
      | some item => return item :: (← many step fuel)

def manyToEnd (step : Reading (Option α)) : Reading (List α) := do
  many step ((← get).text.length + 2)

def hold (token : Token) : Reading Unit :=
  modify fun cursor => { cursor with held := some token }

def unexpected (token : Token) (wanted : Option String) : Reading α :=
  fault (token.describe ++ " unexpected" ++
    match wanted with
    | none => ""
    | some text => " (expecting \"" ++ text ++ "\")")

def within (text : List Char) (line : Nat) (reader : Reading α) : Reading α := do
  let outer ← get
  set { outer with text, line, held := none, opened := [], awaited := [] }
  let found ← reader
  modify fun inner =>
    { outer with held := none, documents := inner.documents, next := inner.next }
  return found

end Reading

end CircuitDiagram.Shell
