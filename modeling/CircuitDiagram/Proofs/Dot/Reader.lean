import CircuitDiagram.Dot

/-!
A reader of DOT text, as far as graphs are written in it. Characters are taken one at a time into
tokens: a quoted string goes on to the first quote that no backslash escapes, and an HTML string as
far as its angle brackets balance. The reader knows nothing of how the text came about.
-/

namespace CircuitDiagram.Dot

variable {Mode Item : Type}

/-- Takes characters one after the other, each of which may complete items. -/
def scan (step : Mode → Char → Option (Mode × List Item)) :
    Mode → List Char → Option (Mode × List Item)
  | mode, [] => some (mode, [])
  | mode, character :: rest =>
      (step mode character).bind fun taken =>
        (scan step taken.1 rest).map fun others => (others.1, taken.2 ++ others.2)

section Tokens

inductive Token where
  | word (letters : List Char)
  | quoted (text : List Char)
  | html (content : List Char)
  | openBrace
  | closeBrace
  | openBracket
  | closeBracket
  | equals
  | semicolon
  | arrow
  deriving DecidableEq

/-- Where the tokenizer is. What a token has so far is kept last character first. -/
inductive Lexing where
  | between
  | word (letters : List Char)
  | quoted (text : List Char)
  | escaped (text : List Char)
  | html (depth : Nat) (content : List Char)
  | dash
  deriving DecidableEq

def mark? (character : Char) : Option Token :=
  if character = '\x7b' then some .openBrace
  else if character = '\x7d' then some .closeBrace
  else if character = '[' then some .openBracket
  else if character = ']' then some .closeBracket
  else if character = '=' then some .equals
  else if character = ';' then some .semicolon
  else none

def begin? (character : Char) : Option (Lexing × List Token) :=
  if character ∈ [' ', '\n', '\t', '\r'] then some (.between, [])
  else if character = '"' then some (.quoted [], [])
  else if character = '<' then some (.html 0 [], [])
  else if character = '-' then some (.dash, [])
  else if character.isAlpha then some (.word [character], [])
  else (mark? character).map fun mark => (.between, [mark])

/-- What an escaped character stands for; other escapes keep their backslash. -/
def unescape (character : Char) : List Char :=
  if character = '\\' then ['\\']
  else if character = '"' then ['"']
  else if character = 'n' then ['\n']
  else ['\\', character]

def lex : Lexing → Char → Option (Lexing × List Token)
  | .between, character => begin? character
  | .word letters, character =>
      if character.isAlpha then some (.word (character :: letters), [])
      else (begin? character).map fun taken => (taken.1, .word letters.reverse :: taken.2)
  | .quoted text, character =>
      if character = '"' then some (.between, [.quoted text.reverse])
      else if character = '\\' then some (.escaped text, [])
      else some (.quoted (character :: text), [])
  | .escaped text, character => some (.quoted ((unescape character).reverse ++ text), [])
  | .html depth content, character =>
      if character = '<' then some (.html (depth + 1) (character :: content), [])
      else if character = '>' then
        match depth with
        | 0 => some (.between, [.html content.reverse])
        | outer + 1 => some (.html outer (character :: content), [])
      else some (.html depth (character :: content), [])
  | .dash, character => if character = '>' then some (.between, [.arrow]) else none

def tokens? (text : String) : Option (List Token) :=
  match scan lex .between text.toList with
  | some (.between, tokens) => some tokens
  | _ => none

end Tokens

section Tables

inductive Piece where
  | tag (name : List Char)
  | character (character : Char)
  deriving DecidableEq

inductive Markup where
  | text
  | tag (name : List Char)
  | entity (name : List Char)
  deriving DecidableEq

def entity? (name : List Char) : Option Char :=
  if name = "amp".toList then some '&'
  else if name = "lt".toList then some '<'
  else if name = "gt".toList then some '>'
  else if name = "quot".toList then some '"'
  else none

def readMarkup : Markup → Char → Option (Markup × List Piece)
  | .text, character =>
      if character = '<' then some (.tag [], [])
      else if character = '&' then some (.entity [], [])
      else if character = '>' then none
      else some (.text, [.character character])
  | .tag name, character =>
      if character = '>' then some (.text, [.tag name.reverse])
      else some (.tag (character :: name), [])
  | .entity name, character =>
      if character = ';' then
        (entity? name.reverse).map fun decoded => (.text, [.character decoded])
      else some (.entity (character :: name), [])

def pieces? (content : List Char) : Option (List Piece) :=
  match scan readMarkup .text content with
  | some (.text, pieces) => some pieces
  | _ => none

def splitText : List Piece → List Char × List Piece
  | .character character :: rest =>
      (character :: (splitText rest).1, (splitText rest).2)
  | pieces => ([], pieces)

def behindTags? : List String → List Piece → Option (List Piece)
  | [], pieces => some pieces
  | name :: names, .tag found :: rest =>
      if found = name.toList then behindTags? names rest else none
  | _ :: _, _ => none

/-- The texts in the two rows of a table, of which the second is in bold type. -/
def rows? (content : List Char) : Option (String × String) := do
  let pieces ← pieces? content
  let first ← behindTags? ["TABLE", "TR", "TD"] pieces
  let second ← behindTags? ["/TD", "/TR", "TR", "TD", "B"] (splitText first).2
  let rest ← behindTags? ["/B", "/TD", "/TR", "/TABLE"] (splitText second).2
  if rest = [] then
    some (String.ofList (splitText first).1, String.ofList (splitText second).1)
  else none

end Tables

section Statements

inductive Statement where
  | node (id : String) (rows : Option (String × String))
  | wire (source sink : String) (label : Option String)
  deriving DecidableEq, Repr

structure Contents where
  name : String
  statements : List Statement
  deriving DecidableEq, Repr

/-- Statements up to the brace that closes the graph, behind which there is nothing. -/
def statements? : List Token → Option (List Statement)
  | [.closeBrace] => some []
  | .quoted id :: .semicolon :: rest =>
      (statements? rest).map (.node (.ofList id) none :: ·)
  | .quoted id :: .openBracket :: .word name :: .equals :: .html content :: .closeBracket ::
      .semicolon :: rest =>
      if name = "label".toList then
        (rows? content).bind fun rows =>
          (statements? rest).map (.node (.ofList id) (some rows) :: ·)
      else none
  | .quoted source :: .arrow :: .quoted sink :: .semicolon :: rest =>
      (statements? rest).map (.wire (.ofList source) (.ofList sink) none :: ·)
  | .quoted source :: .arrow :: .quoted sink :: .openBracket :: .word name :: .equals ::
      .quoted label :: .closeBracket :: .semicolon :: rest =>
      if name = "label".toList then
        (statements? rest).map
          (.wire (.ofList source) (.ofList sink) (some (.ofList label)) :: ·)
      else none
  | _ => none

def contents? : List Token → Option Contents
  | .word keyword :: .quoted name :: .openBrace :: rest =>
      if keyword = "digraph".toList then (statements? rest).map (⟨.ofList name, ·⟩) else none
  | _ => none

def read? (text : String) : Option Contents :=
  (tokens? text).bind contents?

end Statements

end CircuitDiagram.Dot
