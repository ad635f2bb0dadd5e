/-!
What a shell script says. A word keeps its parts apart: text as it stands, what is between double
quotes, and what gives way to a value. Commands hold words, and words may hold commands whose
output they stand for.
-/

namespace CircuitDiagram.Shell

inductive Treatment where
  | asItIs
  | length
  /-- A word stands in: for a missing value (`-`), which it may become (`=`) or which is an error
  that it tells (`?`), or for one that is there (`+`). An empty value may count as missing. -/
  | standIn (operator : Char) (emptyIsMissing : Bool)
  | trimmed (atEnd longest : Bool)
  | malformed
  deriving DecidableEq, Repr

inductive RedirectionKind where
  | input
  | output
  | replacement
  | append
  | update
  | share
  | document (index : Nat)
  deriving DecidableEq, Repr

mutual

inductive Part where
  | text (text : String) (quoted : Bool)
  | quotes (parts : List Part)
  | parameter (name : String) (treatment : Treatment) (word : List Part)
  | output (body : Command)
  | arithmetic (expression : List Part)

inductive Assignment where
  | set (name : String) (value : List Part)

inductive Redirection where
  | lead (stream : Nat) (kind : RedirectionKind) (target : List Part)

inductive Command where
  | nothing
  | simple (line : Nat) (assignments : List Assignment) (words : List (List Part))
      (redirections : List Redirection)
  | pipeline (commands : List Command)
  | negated (body : Command)
  | background (line : Nat) (body : Command)
  | sequence (first second : Command)
  | ifSucceeds (first second : Command)
  | ifFails (first second : Command)
  | conditional (test thenPart elsePart : Command)
  | loop (whileSucceeds : Bool) (test body : Command)
  | each (line : Nat) (name : String) (words : List (List Part)) (body : Command)
  | select (line : Nat) (subject : List Part) (arms : List Arm)
  | isolated (line : Nat) (body : Command) (redirections : List Redirection)
  | redirected (line : Nat) (body : Command) (redirections : List Redirection)
  | function (line : Nat) (name : String) (body : Command)

inductive Arm where
  | on (patterns : List (List Part)) (body : Command)

end

abbrev Word := List Part

instance : Inhabited Command := ⟨.nothing⟩

def isNameStart (character : Char) : Bool :=
  character.isAlpha || character == '_'

def isNameCharacter (character : Char) : Bool :=
  character.isAlphanum || character == '_'

def isName (text : String) : Bool :=
  text.toList.head?.any isNameStart && text.toList.all isNameCharacter

def isSpecialParameter (character : Char) : Bool :=
  "@*#?$!-".toList.contains character

/-- The name before the equals sign that a text begins with, and what is behind it. -/
def splitAssignment? (text : List Char) : Option (String × List Char) :=
  let name := text.takeWhile isNameCharacter
  match text.dropWhile isNameCharacter with
  | '=' :: value =>
      if isName (String.ofList name) then some (String.ofList name, value) else none
  | _ => none

def assignment? : Word → Option Assignment
  | .text text false :: rest =>
      match splitAssignment? text.toList with
      | some (name, []) => some (.set name rest)
      | some (name, value) => some (.set name (.text (String.ofList value) false :: rest))
      | none => none
  | _ => none

def pushLiteral (character : Char) (quoted : Bool) : Word → Word
  | .text text same :: rest =>
      if same = quoted then .text (text.push character) quoted :: rest
      else .text character.toString quoted :: .text text same :: rest
  | parts => .text character.toString quoted :: parts

end CircuitDiagram.Shell
